import Mathlib.Data.List.Basic

/-! Fallible computations: what a successful one says about its parts. -/
namespace Library

universe u

variable {ε α β σ : Type u}

theorem bind_eq_ok_iff {x : Except ε α} {f : α → Except ε β} {b : β} :
    (x >>= f) = .ok b ↔ ∃ a, x = .ok a ∧ f a = .ok b := by
  cases x <;> simp [bind, Except.bind]

/-- A successful loop ends in whatever each of its turns keeps. -/
theorem foldlM_inv {f : σ → α → Except ε σ} {I : σ → Prop} {as : List α} {s t : σ} (hs : I s)
    (hstep : ∀ s a t, a ∈ as → I s → f s a = .ok t → I t) (h : as.foldlM f s = .ok t) : I t := by
  induction as generalizing s with
  | nil =>
    obtain rfl : s = t := by simpa [pure, Except.pure] using h
    exact hs
  | cons a as ih =>
    rw [List.foldlM_cons, bind_eq_ok_iff] at h
    obtain ⟨u, hu, ht⟩ := h
    exact ih (hstep s a u (by simp) hs hu) (fun s b t hb => hstep s b t (by simp [hb])) ht

/-- It relates its first and last state by whatever one turn relates. -/
theorem foldlM_rel {f : σ → α → Except ε σ} {R : σ → σ → Prop} (hrefl : ∀ s, R s s)
    (htrans : ∀ s t u, R s t → R t u → R s u)
    (hstep : ∀ s a t, f s a = .ok t → R s t) {as : List α} {s t : σ}
    (h : as.foldlM f s = .ok t) : R s t :=
  foldlM_inv (hrefl s) (fun u a v _ hu hv => htrans s u v hu (hstep u a v hv)) h

/-- A loop succeeds when each of its turns does. -/
theorem forM_eq_ok {f : α → Except ε PUnit} {as : List α} (h : ∀ a ∈ as, f a = .ok ⟨⟩) :
    as.forM f = .ok ⟨⟩ := by
  induction as with
  | nil => rfl
  | cons a as ih =>
    change (f a >>= fun _ => as.forM f) = _
    rw [h a (by simp)]
    exact ih fun b hb => h b (by simp [hb])

/-- The computation meets no error and ends in such a result. -/
def Succeeds (x : Except ε α) (P : α → Prop) : Prop := ∃ a, x = .ok a ∧ P a

section Succeeds

variable {x y : Except ε α} {P Q : α → Prop} {a : α} {e : ε}

@[simp] theorem succeeds_ok : Succeeds (.ok a : Except ε α) P ↔ P a := by
  simp [Succeeds]

@[simp] theorem succeeds_error : ¬ Succeeds (.error e : Except ε α) P := by
  simp [Succeeds]

theorem Succeeds.imp (h : Succeeds x P) (hPQ : ∀ a, P a → Q a) : Succeeds x Q := by
  obtain ⟨a, hx, ha⟩ := h
  exact ⟨a, hx, hPQ a ha⟩

theorem succeeds_congr (h : ∀ a, P a ↔ Q a) : Succeeds x P ↔ Succeeds x Q :=
  ⟨fun hx => hx.imp fun a => (h a).mp, fun hx => hx.imp fun a => (h a).mpr⟩

/-- A fact about every result goes in and out. -/
theorem succeeds_congr_of_eq (h : ∀ a, x = .ok a → (P a ↔ Q a)) : Succeeds x P ↔ Succeeds x Q :=
  exists_congr fun a => and_congr_right fun hx => h a hx

theorem succeeds_and_left {A : Prop} : Succeeds x (fun a => A ∧ P a) ↔ A ∧ Succeeds x P := by
  simp only [Succeeds, and_left_comm, exists_and_left]

theorem succeeds_or : Succeeds x (fun a => P a ∨ Q a) ↔ Succeeds x P ∨ Succeeds x Q := by
  simp only [Succeeds, and_or_left, exists_or]

theorem succeeds_bind {f : α → Except ε β} {R : β → Prop} :
    Succeeds (x >>= f) R ↔ Succeeds x fun a => Succeeds (f a) R := by
  constructor
  · rintro ⟨b, hb, hR⟩
    obtain ⟨a, hx, hf⟩ := bind_eq_ok_iff.mp hb
    exact ⟨a, hx, b, hf, hR⟩
  · rintro ⟨a, hx, b, hf, hR⟩
    exact ⟨b, bind_eq_ok_iff.mpr ⟨a, hx, hf⟩, hR⟩

/-- A check that fails is an error. -/
theorem succeeds_check {c : Prop} [Decidable c] :
    Succeeds (if c then .error e else x) P ↔ ¬ c ∧ Succeeds x P := by
  split
  next hc => simp [hc]
  next hc => simp [hc]

/-- A loop whose turns are checks before pure steps. -/
theorem succeeds_foldlM {f : σ → α → Except ε σ} {g : σ → α → σ} {C : σ → α → Prop}
    (hf : ∀ s a R, Succeeds (f s a) R ↔ C s a ∧ R (g s a)) {as : List α} {s : σ} {R : σ → Prop} :
    Succeeds (as.foldlM f s) R ↔
      (∀ i (hi : i < as.length), C ((as.take i).foldl g s) as[i]) ∧ R (as.foldl g s) := by
  induction as generalizing s with
  | nil => simp [pure, Except.pure]
  | cons a as ih =>
    rw [List.foldlM_cons, succeeds_bind, hf, ih, List.foldl_cons, ← and_assoc]
    refine and_congr_left fun _ => ⟨fun h i hi => ?_, fun h => ⟨?_, fun i hi => ?_⟩⟩
    · cases i with
      | zero => exact h.1
      | succ i => exact h.2 i (by simpa using hi)
    · exact h 0 (by simp)
    · exact h (i + 1) (by simpa using hi)

end Succeeds

end Library
