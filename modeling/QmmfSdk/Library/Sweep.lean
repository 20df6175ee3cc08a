import Mathlib.Data.List.Basic

/-! A list of objects on each of which an action is tried in turn, up to the first one that fails. -/
namespace Library

universe u v

variable {σ : Type u} {ε : Type v} [DecidableEq ε] {ok : ε} {f : σ → ε × σ} {l : List σ} {s : σ}

/-- The first code that is not `ok`, and the objects by then: those after it are left alone. -/
def sweep (ok : ε) (f : σ → ε × σ) : List σ → ε × List σ
  | [] => (ok, [])
  | s :: l =>
    let r := f s
    if r.1 ≠ ok then (r.1, r.2 :: l)
    else
      let rest := sweep ok f l
      (rest.1, r.2 :: rest.2)

theorem sweep_cons_of_ok (h : (f s).1 = ok) :
    sweep ok f (s :: l) = ((sweep ok f l).1, (f s).2 :: (sweep ok f l).2) := by
  simp [sweep, h]

theorem sweep_cons_of_ne (h : (f s).1 ≠ ok) : sweep ok f (s :: l) = ((f s).1, (f s).2 :: l) := by
  simp [sweep, h]

theorem sweep_fst_eq_ok_iff : (sweep ok f l).1 = ok ↔ ∀ s ∈ l, (f s).1 = ok := by
  induction l with
  | nil => simp [sweep]
  | cons s l ih =>
    by_cases h : (f s).1 = ok
    · rw [sweep_cons_of_ok h, ih]
      simp [h]
    · rw [sweep_cons_of_ne h]
      simp [h]

/-- A failure is that of one of the objects. -/
theorem exists_of_sweep_ne_ok (h : (sweep ok f l).1 ≠ ok) :
    ∃ s ∈ l, (sweep ok f l).1 = (f s).1 := by
  induction l with
  | nil => exact absurd rfl h
  | cons s l ih =>
    by_cases hs : (f s).1 = ok
    · rw [sweep_cons_of_ok hs] at h ⊢
      obtain ⟨t, ht, heq⟩ := ih h
      exact ⟨t, List.mem_cons_of_mem s ht, heq⟩
    · rw [sweep_cons_of_ne hs]
      exact ⟨s, List.mem_cons_self, rfl⟩

/-- Where nothing fails, the action is done on all. -/
theorem sweep_snd_of_ok (h : (sweep ok f l).1 = ok) :
    (sweep ok f l).2 = l.map fun s => (f s).2 := by
  induction l with
  | nil => rfl
  | cons s l ih =>
    rw [sweep_fst_eq_ok_iff] at h
    have hrest : (sweep ok f l).1 = ok := sweep_fst_eq_ok_iff.mpr fun x hx => h x (by simp [hx])
    rw [sweep_cons_of_ok (h s (by simp)), ih hrest]
    rfl

end Library
