import QmmfSdk.Library.Bytes

/-! Memory as a function of the address: copying into it and what a range of it reads. -/
namespace Library

universe u

variable {α : Type u} {m m' : Nat → α} {xs ys : List α} {off at' n k i : Nat}

/-- `memcpy` of `xs` to `off`. -/
def store (m : Nat → α) (off : Nat) (xs : List α) : Nat → α :=
  fun i => if off ≤ i then (xs[i - off]?).getD (m i) else m i

/-- The `n` elements from `off` on. -/
def load (m : Nat → α) (off n : Nat) : List α := (List.range n).map fun i => m (off + i)

/-- The range from `off` on reads `xs`. -/
def Holds (m : Nat → α) (off : Nat) (xs : List α) : Prop :=
  ∀ i x, xs[i]? = some x → m (off + i) = x

/-- The `n` elements of a list from `off` on, when all of them are there. -/
def slice (xs : List α) (off n : Nat) : Option (List α) :=
  if off + n ≤ xs.length then some ((xs.drop off).take n) else none

theorem store_of_lt (h : i < off) : store m off xs i = m i := by
  simp [store, Nat.not_le.mpr h]

theorem store_of_ge (h : off + xs.length ≤ i) : store m off xs i = m i := by
  have hnone : xs[i - off]? = none := List.getElem?_eq_none (by omega)
  simp [store, hnone]

theorem store_of_apart (h : i < off ∨ off + xs.length ≤ i) : store m off xs i = m i := by
  obtain h | h := h
  · exact store_of_lt h
  · exact store_of_ge h

@[simp] theorem store_nil : store m off [] = m := by
  funext i
  simp [store]

/-- Two copies end to end are one. -/
theorem store_append : store (store m off xs) (off + xs.length) ys = store m off (xs ++ ys) := by
  funext i
  by_cases hlo : i < off
  · rw [store_of_lt (by omega), store_of_lt hlo, store_of_lt hlo]
  · by_cases hmid : i < off + xs.length
    · rw [store_of_lt hmid]
      simp [store, Nat.not_lt.mp hlo, List.getElem?_append_left (show i - off < xs.length by omega)]
    · have hx : store m off xs i = m i := store_of_ge (by omega)
      have hi : i - off - xs.length = i - (off + xs.length) := by omega
      rw [store, hx, store, List.getElem?_append_right (by omega), hi]
      simp [Nat.not_lt.mp hlo, Nat.not_lt.mp hmid]

@[simp] theorem length_load : (load m off n).length = n := by simp [load]

theorem getElem?_load (h : i < n) : (load m off n)[i]? = some (m (off + i)) := by
  simp [load, h]

/-- A part of what was loaded is what loading that part gives. -/
theorem slice_load (h : off + k ≤ n) : slice (load m at' n) off k = some (load m (at' + off) k) := by
  have heq : ((load m at' n).drop off).take k = load m (at' + off) k := by
    apply List.ext_getElem?
    intro i
    by_cases hi : i < k
    · have hn : off + i < n := by omega
      rw [List.getElem?_take_of_lt hi, List.getElem?_drop, getElem?_load hn, getElem?_load hi,
        Nat.add_assoc]
    · rw [List.getElem?_eq_none (by simp; omega), List.getElem?_eq_none (by simp; omega)]
  simp [slice, h, heq]

theorem slice_eq_some (h : slice xs off n = some ys) : off + n ≤ xs.length ∧ ys.length = n := by
  unfold slice at h
  split at h
  · next hle =>
    obtain rfl := Option.some.inj h
    refine ⟨hle, ?_⟩
    simp
    omega
  · cases h

namespace Holds

theorem nil : Holds m off [] := by
  intro i x hx
  simp at hx

theorem append_iff : Holds m off (xs ++ ys) ↔ Holds m off xs ∧ Holds m (off + xs.length) ys := by
  constructor
  · intro h
    refine ⟨fun i x hx => h i x ?_, fun i x hx => ?_⟩
    · rw [List.getElem?_append_left (List.getElem?_eq_some_iff.mp hx).1, hx]
    · rw [Nat.add_assoc]
      refine h (xs.length + i) x ?_
      rw [List.getElem?_append_right (by omega), Nat.add_sub_cancel_left, hx]
  · rintro ⟨hl, hr⟩ i x hx
    by_cases hi : i < xs.length
    · rw [List.getElem?_append_left hi] at hx
      exact hl i x hx
    · rw [List.getElem?_append_right (by omega)] at hx
      have h := hr (i - xs.length) x hx
      rwa [show off + xs.length + (i - xs.length) = off + i by omega] at h

theorem append (hl : Holds m off xs) (hr : Holds m (off + xs.length) ys) : Holds m off (xs ++ ys) :=
  append_iff.mpr ⟨hl, hr⟩

/-- Only the range itself matters. -/
theorem congr (h : Holds m off xs) (heq : ∀ i, off ≤ i → i < off + xs.length → m' i = m i) :
    Holds m' off xs := by
  intro i x hx
  have hi := (List.getElem?_eq_some_iff.mp hx).1
  rw [heq (off + i) (by omega) (by omega)]
  exact h i x hx

theorem store_self : Holds (store m off xs) off xs := by
  intro i x hx
  simp [store, hx]

theorem store_apart (h : Holds m off xs) (ha : off + xs.length ≤ at' ∨ at' + ys.length ≤ off) :
    Holds (store m at' ys) off xs := by
  exact h.congr fun i hl hr => store_of_apart (by omega)

theorem load_eq (h : Holds m off xs) : load m off xs.length = xs := by
  apply List.ext_getElem?
  intro i
  by_cases hi : i < xs.length
  · rw [getElem?_load hi, h i xs[i] (by simp [hi]), List.getElem?_eq_getElem hi]
  · rw [List.getElem?_eq_none (by simp; omega), List.getElem?_eq_none (by omega)]

/-- What lies in a range that is copied lies at the same distance in the copy. -/
theorem copy (h : Holds m off xs) (hn : off + xs.length ≤ n) :
    Holds (store m' at' (load m 0 n)) (at' + off) xs := by
  intro i x hx
  have hi := (List.getElem?_eq_some_iff.mp hx).1
  have hl : (load m 0 n)[off + i]? = some x := by
    rw [getElem?_load (by omega), Nat.zero_add, h i x hx]
  rw [Nat.add_assoc]
  exact store_self (off + i) x hl

/-- A range inside what is loaded is found again as a slice. -/
theorem slice_eq (h : Holds m (at' + off) xs) (hn : off + xs.length ≤ n) :
    slice (load m at' n) off xs.length = some xs := by
  rw [slice_load hn, h.load_eq]

end Holds

end Library
