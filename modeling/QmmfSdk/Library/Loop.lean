import Mathlib.Logic.Relation

/-! Loops whose turns can fault: the states they visit, and how they end. -/
namespace Library

universe u v

/-- A turn faults (`none`), goes on (`inl`) or leaves the loop with a result (`inr`). -/
abbrev Turn (σ : Type u) (ρ : Type v) := σ → Option (σ ⊕ ρ)

variable {σ : Type u} {ρ : Type v} {f : Turn σ ρ} {s t u : σ} {r r' : ρ}

/-- The loop begins a turn in `t` when it is entered in `s`. -/
def Visits (f : Turn σ ρ) : σ → σ → Prop :=
  Relation.ReflTransGen fun s t => f s = some (.inl t)

def Ends (f : Turn σ ρ) (s : σ) (r : ρ) : Prop :=
  ∃ t, Visits f s t ∧ f t = some (.inr r)

/-- The state after a number of turns. -/
def turns (f : Turn σ ρ) : Nat → σ → Option σ
  | 0, s => some s
  | n + 1, s =>
    match f s with
    | some (.inl t) => turns f n t
    | _ => none

theorem visits_of_turns {n : Nat} (h : turns f n s = some t) : Visits f s t := by
  induction n generalizing s with
  | zero =>
    obtain rfl : s = t := Option.some.inj h
    exact .refl
  | succ n ih =>
    rw [turns] at h
    split at h
    next u hu => exact .head hu (ih h)
    next => cases h

theorem Visits.trans (ht : Visits f s t) (hu : Visits f t u) : Visits f s u :=
  Relation.ReflTransGen.trans ht hu

theorem visits_inv {P : σ → Prop} (h : Visits f s t) (hs : P s)
    (hstep : ∀ t u, Visits f s t → f t = some (.inl u) → P t → P u) : P t := by
  induction h with
  | refl => exact hs
  | tail ht hu ih => exact hstep _ _ ht hu ih

theorem Visits.total (ht : Visits f s t) (hu : Visits f s u) : Visits f t u ∨ Visits f u t := by
  refine Relation.ReflTransGen.total_of_right_unique (fun a b c hb hc => ?_) ht hu
  exact Sum.inl.inj (Option.some.inj (hb.symm.trans hc))

theorem Visits.eq_of_inr (h : Visits f s t) (hs : f s = some (.inr r)) : t = s := by
  obtain rfl | ⟨u, hu, -⟩ := h.cases_head
  · rfl
  · rw [hs] at hu
    cases hu

/-- The loop has one result, whichever of its states one starts from. -/
theorem Ends.of_visits (h : Ends f s r) (ht : Visits f s t) : Ends f t r := by
  obtain ⟨u, hu, hr⟩ := h
  obtain htu | hut := ht.total hu
  · exact ⟨u, htu, hr⟩
  · obtain rfl := hut.eq_of_inr hr
    exact ⟨t, .refl, hr⟩

theorem Ends.unique (h : Ends f s r) (h' : Ends f s r') : r = r' := by
  obtain ⟨t, ht, hr⟩ := h
  obtain ⟨u, hu, hr'⟩ := h'.of_visits ht
  obtain rfl := hu.eq_of_inr hr
  exact Sum.inr.inj (Option.some.inj (hr.symm.trans hr'))

theorem Ends.not_fault (h : Ends f s r) (ht : Visits f s t) : f t ≠ none := by
  obtain ⟨u, hu, hr⟩ := h.of_visits ht
  obtain rfl | ⟨v, hv, -⟩ := hu.cases_head
  · rw [hr]
    nofun
  · rw [hv]
    nofun

theorem exists_ends_of_measure (μ : σ → Nat)
    (hμ : ∀ t u, Visits f s t → f t = some (.inl u) → μ u < μ t)
    (hfault : ∀ t, Visits f s t → f t ≠ none) : ∃ r, Ends f s r := by
  have hfrom : ∀ n t, Visits f s t → μ t < n → ∃ r, Ends f s r := by
    intro n
    induction n with
    | zero => exact fun t _ h => absurd h (Nat.not_lt_zero _)
    | succ n ih =>
      intro t ht hn
      cases hturn : f t with
      | none => exact absurd hturn (hfault t ht)
      | some next =>
        cases next with
        | inl u =>
          have hfall := hμ t u ht hturn
          exact ih u (ht.tail hturn) (by omega)
        | inr r => exact ⟨r, t, ht, hturn⟩
  exact hfrom (μ s + 1) s .refl (Nat.lt_succ_self _)

end Library
