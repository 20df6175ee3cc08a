import Mathlib.Data.List.Basic

/-! A stream of keyed items in which a value comes only with some of them: the receiver has to know
the others from before. -/
namespace Library

universe u v

variable {κ : Type u} {ν : Type v} {known known' P : κ → Prop} {xs ys : List (κ × Option ν)}

/-- Every item without a value is known when its turn comes, be it from an earlier item. -/
def Serves : (κ → Prop) → List (κ × Option ν) → Prop
  | _, [] => True
  | known, x :: xs => (x.2 = none → known x.1) ∧ Serves (fun k => known k ∨ k = x.1) xs

theorem Serves.mono (h : Serves known xs) (hk : ∀ k, known k → known' k) : Serves known' xs := by
  induction xs generalizing known known' with
  | nil => trivial
  | cons x xs ih => exact ⟨fun hx => hk _ (h.1 hx), ih h.2 fun k => Or.imp_left (hk k)⟩

theorem serves_append : Serves known (xs ++ ys) ↔
    Serves known xs ∧ Serves (fun k => known k ∨ k ∈ xs.map Prod.fst) ys := by
  induction xs generalizing known with
  | nil => simp [Serves]
  | cons x xs ih =>
    have hsame : (fun k => (known k ∨ k = x.1) ∨ k ∈ xs.map Prod.fst) =
        fun k => known k ∨ k ∈ (x :: xs).map Prod.fst := by
      funext k
      simp [or_assoc]
    rw [List.cons_append, Serves, ih, hsame, Serves, and_assoc]

/-- What the receiver forgets does no harm while all items of that sort come with a value. -/
theorem Serves.restrict (h : Serves known xs) (hP : ∀ x ∈ xs, x.2 = none → P x.1) :
    Serves (fun k => known k ∧ P k) xs := by
  induction xs generalizing known with
  | nil => trivial
  | cons x xs ih =>
    refine ⟨fun hx => ⟨h.1 hx, hP x (by simp) hx⟩, ?_⟩
    refine (ih h.2 fun y hy => hP y (by simp [hy])).mono fun k hk => ?_
    exact hk.1.imp_left fun h => ⟨h, hk.2⟩

end Library
