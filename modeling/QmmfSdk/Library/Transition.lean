import Mathlib.Data.List.Basic

/-! Labelled transition systems: finite runs, guarded runs and the invariant rules for them. -/
namespace Library

universe u v w

/-- A system is its step relation; states and labels are arbitrary. -/
structure LTS (σ : Type u) (α : Type v) where
  Tr : σ → α → σ → Prop

namespace LTS

variable {σ : Type u} {α : Type v} {L : LTS σ α} {s t : σ} {as bs : List α}

/-- A finite run, one label for each step. -/
inductive MTr (L : LTS σ α) : σ → List α → σ → Prop where
  | refl {s : σ} : MTr L s [] s
  | stepL {s u t : σ} {a : α} {as : List α} : L.Tr s a u → MTr L u as t → MTr L s (a :: as) t

/-- One run after the other. -/
theorem MTr.append {u : σ} (h : L.MTr s as t) (h' : L.MTr t bs u) : L.MTr s (as ++ bs) u := by
  induction h with
  | refl => exact h'
  | stepL hstep _ ih => exact .stepL hstep (ih h')

/-- `P` is kept by every single step. -/
def TrInv (L : LTS σ α) (P : σ → Prop) : Prop :=
  ∀ s a t, L.Tr s a t → P s → P t

/-- What one step keeps, a whole run keeps. -/
theorem inv_of_mTr {P : σ → Prop} (hP : L.TrInv P) (h : L.MTr s as t) (hs : P s) : P t := by
  induction h with
  | refl => exact hs
  | stepL hstep _ ih => exact ih (hP _ _ _ hstep hs)

/-- The same system, taking only the steps that meet `G` in the state before them. -/
def guarded (L : LTS σ α) (G : σ → α → Prop) : LTS σ α where
  Tr s a t := L.Tr s a t ∧ G s a

/-- A guard that every label meets in every state restricts nothing. -/
theorem mTr_guarded_of_forall {G : σ → α → Prop} (h : L.MTr s as t) (hG : ∀ a ∈ as, ∀ s, G s a) :
    (L.guarded G).MTr s as t := by
  induction h with
  | refl => exact .refl
  | @stepL s u t a as hstep _ ih =>
    exact .stepL ⟨hstep, hG a (by simp) s⟩ (ih fun b hb => hG b (by simp [hb]))

/-- A weaker guard allows the same runs. -/
theorem mTr_guarded_mono {G G' : σ → α → Prop} (h : (L.guarded G).MTr s as t)
    (hG : ∀ s a, G s a → G' s a) : (L.guarded G').MTr s as t := by
  induction h with
  | refl => exact .refl
  | stepL hstep _ ih => exact .stepL ⟨hstep.1, hG _ _ hstep.2⟩ ih

/-- The system of a partial step function: `none` is a step that does not return. -/
def ofStep (f : σ → α → Option σ) : LTS σ α where
  Tr s a t := f s a = some t

/-- Runs a partial step function over a list of labels. -/
def run (f : σ → α → Option σ) : σ → List α → Option σ
  | s, [] => some s
  | s, a :: as => (f s a).bind fun t => run f t as

theorem run_append {f : σ → α → Option σ} :
    run f s (as ++ bs) = (run f s as).bind fun t => run f t bs := by
  induction as generalizing s with
  | nil => rfl
  | cons a as ih => simp [run, ih, Option.bind_assoc]

theorem mTr_ofStep_iff {f : σ → α → Option σ} : (ofStep f).MTr s as t ↔ run f s as = some t := by
  constructor
  · intro h
    induction h with
    | refl => rfl
    | @stepL s u t a as hstep _ ih =>
      have hf : f s a = some u := hstep
      simp [run, hf, ih]
  · intro h
    induction as generalizing s with
    | nil =>
      obtain rfl : s = t := by simpa [run] using h
      exact .refl
    | cons a as ih =>
      obtain ⟨u, hu, hr⟩ := Option.bind_eq_some_iff.mp h
      exact .stepL hu (ih hr)

/-- Every step of the run meets `G` in the state before it. -/
def Meets (f : σ → α → Option σ) (G : σ → α → Prop) : σ → List α → Prop
  | _, [] => True
  | s, a :: as => G s a ∧ ∀ t, f s a = some t → Meets f G t as

instance Meets.decidable {f : σ → α → Option σ} {G : σ → α → Prop} [∀ s a, Decidable (G s a)] :
    (s : σ) → (as : List α) → Decidable (Meets f G s as)
  | _, [] => .isTrue trivial
  | s, a :: as =>
    match h : f s a with
    | some t =>
      have := Meets.decidable (G := G) (f := f) t as
      decidable_of_iff (G s a ∧ Meets f G t as) (by simp [Meets, h])
    | none => decidable_of_iff (G s a) (by simp [Meets, h])

/-- What every step meets, the steps after the first ones meet. -/
theorem Meets.of_append {f : σ → α → Option σ} {G : σ → α → Prop} (h : Meets f G s (as ++ bs))
    (hrun : run f s as = some t) : Meets f G t bs := by
  induction as generalizing s with
  | nil =>
    obtain rfl := Option.some.inj hrun
    exact h
  | cons a as ih =>
    obtain ⟨u, hu, hrest⟩ := Option.bind_eq_some_iff.mp hrun
    exact ih (h.2 u hu) hrest

theorem mTr_guarded_iff {f : σ → α → Option σ} {G : σ → α → Prop} :
    ((ofStep f).guarded G).MTr s as t ↔ run f s as = some t ∧ Meets f G s as := by
  constructor
  · intro h
    induction h with
    | refl => exact ⟨rfl, trivial⟩
    | @stepL s u t a as hstep _ ih =>
      have hf : f s a = some u := hstep.1
      exact ⟨by simp [run, hf, ih.1], hstep.2, fun v hv => by
        obtain rfl : u = v := Option.some.inj (hf.symm.trans hv)
        exact ih.2⟩
  · rintro ⟨h, hG⟩
    induction as generalizing s with
    | nil =>
      obtain rfl : s = t := by simpa [run] using h
      exact .refl
    | cons a as ih =>
      obtain ⟨u, hu, hr⟩ := Option.bind_eq_some_iff.mp h
      exact .stepL ⟨hu, hG.1⟩ (ih hr (hG.2 u hu))

/-- When steps under `G` keep `P`, and a step from a state with `P` reaches one with `Q` only under `G`, a
run goes through states with `Q` only if and only if each of its steps meets `G`. -/
theorem forall_prefix_iff_meets_of {f : σ → α → Option σ} {P Q : σ → Prop} {G : σ → α → Prop}
    (hPQ : ∀ s, P s → Q s) (hkeep : ∀ s a t, P s → f s a = some t → G s a → P t)
    (hneed : ∀ s a t, P s → f s a = some t → Q t → G s a) (hs : P s) (hrun : run f s as = some t) :
    (∀ bs cs u, as = bs ++ cs → run f s bs = some u → Q u) ↔ Meets f G s as := by
  induction as generalizing s with
  | nil =>
    refine ⟨fun _ => trivial, fun _ bs cs u heq hu => ?_⟩
    obtain ⟨rfl, -⟩ := List.append_eq_nil_iff.mp heq.symm
    obtain rfl := Option.some.inj hu
    exact hPQ s hs
  | cons a as ih =>
    obtain ⟨v, hv, hrest⟩ := Option.bind_eq_some_iff.mp hrun
    constructor
    · intro h
      have hG : G s a := hneed s a v hs hv (h [a] as v rfl (by simp [run, hv]))
      refine ⟨hG, fun w hw => ?_⟩
      obtain rfl := Option.some.inj (hv.symm.trans hw)
      refine (ih (hkeep s a v hs hv hG) hrest).mp fun bs cs u heq hu =>
        h (a :: bs) cs u (by rw [heq]; rfl) ?_
      simp [run, hv, hu]
    · rintro ⟨hG, hmeets⟩ bs cs u heq hu
      cases bs with
      | nil =>
        obtain rfl := Option.some.inj hu
        exact hPQ s hs
      | cons b bs =>
        obtain ⟨rfl, htail⟩ := List.cons.inj heq
        obtain ⟨w, hw, hu⟩ := Option.bind_eq_some_iff.mp hu
        obtain rfl := Option.some.inj (hv.symm.trans hw)
        exact (ih (hkeep s a v hs hv hG) hrest).mpr (hmeets v hv) bs cs u htail hu

/-- When a step from a state with `P` keeps it exactly under `G`, a run goes through states with `P`
only if and only if each of its steps meets `G`. -/
theorem forall_prefix_iff_meets {f : σ → α → Option σ} {P : σ → Prop} {G : σ → α → Prop}
    (hstep : ∀ s a t, P s → f s a = some t → (P t ↔ G s a)) (hs : P s) (hrun : run f s as = some t) :
    (∀ bs cs u, as = bs ++ cs → run f s bs = some u → P u) ↔ Meets f G s as :=
  forall_prefix_iff_meets_of (fun _ => id) (fun s a t hs ht => (hstep s a t hs ht).mpr)
    (fun s a t hs ht => (hstep s a t hs ht).mp) hs hrun

/-- Where steps under `G` exist and keep `P`, a run under `G` exists and goes through states with `P`. -/
theorem run_of_meets {f : σ → α → Option σ} {P : σ → Prop} {G : σ → α → Prop}
    (hstep : ∀ s a, P s → G s a → ∃ t, f s a = some t ∧ P t) (hs : P s) (hG : Meets f G s as) :
    (run f s as).isSome ∧ ∀ bs cs u, as = bs ++ cs → run f s bs = some u → P u := by
  induction as generalizing s with
  | nil =>
    refine ⟨rfl, fun bs cs u heq hu => ?_⟩
    obtain ⟨rfl, -⟩ := List.append_eq_nil_iff.mp heq.symm
    exact Option.some.inj hu ▸ hs
  | cons a as ih =>
    obtain ⟨v, hv, hPv⟩ := hstep s a hs hG.1
    obtain ⟨hsome, hall⟩ := ih hPv (hG.2 v hv)
    refine ⟨by simpa [run, hv] using hsome, fun bs cs u heq hu => ?_⟩
    cases bs with
    | nil => exact Option.some.inj hu ▸ hs
    | cons b bs =>
      obtain ⟨rfl, htail⟩ := List.cons.inj heq
      obtain ⟨w, hw, hu⟩ := Option.bind_eq_some_iff.mp hu
      obtain rfl := Option.some.inj (hv.symm.trans hw)
      exact hall bs cs u htail hu

/-- Where the labels of a run only keep `P` under `G`, a run through states with `P` meets `G`. -/
theorem meets_of_forall_prefix {f : σ → α → Option σ} {P : σ → Prop} {G : σ → α → Prop}
    (hneed : ∀ s, ∀ a ∈ as, ∀ t, P s → f s a = some t → P t → G s a) (hs : P s)
    (hrun : run f s as = some t) (hall : ∀ bs cs u, as = bs ++ cs → run f s bs = some u → P u) :
    Meets f G s as := by
  induction as generalizing s with
  | nil => trivial
  | cons a as ih =>
    obtain ⟨v, hv, hrest⟩ := Option.bind_eq_some_iff.mp hrun
    have hPv : P v := hall [a] as v rfl (by simp [run, hv])
    refine ⟨hneed s a (by simp) v hs hv hPv, fun w hw => ?_⟩
    obtain rfl := Option.some.inj (hv.symm.trans hw)
    exact ih (fun s b hb => hneed s b (by simp [hb])) hPv hrest fun bs cs u heq hu =>
      hall (a :: bs) cs u (by rw [heq]; rfl) (by simp [run, hv, hu])

/-- Total steps never end a run. -/
theorem run_some (f : σ → α → σ) : run (fun s a => some (f s a)) s as = some (as.foldl f s) := by
  induction as generalizing s with
  | nil => rfl
  | cons a as ih => exact ih

/-- Where every state that is not there yet has a way to a smaller one, there is a way to the end. -/
theorem exists_run_of_measure {f : σ → α → Option σ} {P Q : σ → Prop} (μ : σ → Nat)
    (hstep : ∀ s, P s → ¬ Q s → ∃ as t, run f s as = some t ∧ P t ∧ μ t < μ s) (hs : P s) :
    ∃ as t, run f s as = some t ∧ P t ∧ Q t := by
  induction hn : μ s using Nat.strongRecOn generalizing s with
  | ind n ih =>
    by_cases hQ : Q s
    · exact ⟨[], s, rfl, hs, hQ⟩
    · obtain ⟨as, u, hu, hP, hlt⟩ := hstep s hs hQ
      obtain ⟨bs, t, ht, hend⟩ := ih (μ u) (hn ▸ hlt) hP rfl
      exact ⟨as ++ bs, t, by rw [run_append, hu]; exact ht, hend⟩

/-- Refinement by simulation: steps that meet the guard return and keep the states related. -/
theorem run_refines {τ : Type w} {f : σ → α → Option σ} {g : τ → α → τ} {G : σ → α → Prop}
    {R : σ → τ → Prop}
    (hstep : ∀ s x a, R s x → G s a → ∃ t, f s a = some t ∧ R t (g x a)) {x : τ}
    (hG : Meets f G s as) (hR : R s x) : ∃ t, run f s as = some t ∧ R t (as.foldl g x) := by
  induction as generalizing s x with
  | nil => exact ⟨s, rfl, hR⟩
  | cons a as ih =>
    obtain ⟨u, hu, hRu⟩ := hstep s x a hR hG.1
    obtain ⟨t, ht, hRt⟩ := ih (hG.2 u hu) hRu
    exact ⟨t, by simp [run, hu, ht], hRt⟩

end LTS

end Library
