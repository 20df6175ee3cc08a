import Mathlib.Algebra.Order.Ring.Nat
import Mathlib.Data.List.Basic

/-! Readers of a queue of items, and what it means that a reader takes back what was written. -/
namespace Library

/-- Takes items from the front; `none` when the front is not what is read. -/
abbrev Reader (ι : Type) := StateT (List ι) Option

namespace Reader

variable {ι α β : Type}

def many (r : Reader ι α) : Nat → Reader ι (List α)
  | 0 => pure []
  | n + 1 => do
    let x ← r
    let xs ← r.many n
    return x :: xs

/-- In front of anything, `w` is read as `a`, and nothing else is taken. -/
def Reads (r : Reader ι α) (w : List ι) (a : α) : Prop :=
  ∀ rest, r.run (w ++ rest) = some (a, rest)

namespace Reads

variable {r : Reader ι α} {f : α → Reader ι β} {w w' : List ι} {a : α} {b : β}

theorem pure (a : α) : Reads (pure a : Reader ι α) [] a := fun _ => rfl

/-- What comes behind `w` is left to the rest of the reader. -/
theorem run_bind (h : Reads r w a) (rest : List ι) : (r >>= f).run (w ++ rest) = (f a).run rest := by
  rw [StateT.run_bind, h]
  rfl

theorem bind (h : Reads r w a) (h' : Reads (f a) w' b) : Reads (r >>= f) (w ++ w') b := by
  intro rest
  rw [List.append_assoc, h.run_bind]
  exact h' rest

/-- A last step that only computes. -/
theorem map {g : α → β} (h : Reads r w a) : Reads (g <$> r) w (g a) := by
  intro rest
  rw [StateT.run_map, h]
  rfl

theorem many {write : α → List ι} {xs : List α} (h : ∀ x ∈ xs, Reads r (write x) x) :
    Reads (r.many xs.length) (xs.flatMap write) xs := by
  induction xs with
  | nil => exact .pure []
  | cons x xs ih =>
    rw [List.flatMap_cons]
    refine (h x (by simp)).bind ?_
    rw [← List.append_nil (xs.flatMap write)]
    exact (ih fun y hy => h y (by simp [hy])).bind (.pure (x :: xs))

end Reads

/-- However many items there are, a list is as long as it was asked for. -/
theorem length_of_many {r : Reader ι α} {n : Nat} {w rest : List ι} {xs : List α}
    (h : (r.many n).run w = some (xs, rest)) : xs.length = n := by
  induction n generalizing w rest xs with
  | zero =>
    cases h
    rfl
  | succ n ih =>
    simp only [many, StateT.run_bind, Option.bind_eq_bind, Option.bind_eq_some_iff] at h
    obtain ⟨⟨x, w'⟩, -, ⟨ys, w''⟩, hys, h⟩ := h
    cases h
    rw [List.length_cons, ih hys]

end Reader

end Library
