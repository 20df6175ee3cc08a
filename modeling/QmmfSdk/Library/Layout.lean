import Mathlib.Algebra.Order.Ring.Nat
import Mathlib.Data.List.Basic

/-! Keyed items laid end to end, and the index that lists where the items of one key start. -/
namespace Library

universe u v

/-- How an item is stored: the key it is filed under and the room it takes. -/
structure Layout (β : Type u) (κ : Type v) where
  key : β → κ
  size : β → Nat

namespace Layout

variable {β : Type u} {κ : Type v} {L : Layout β κ} {k : κ} {b c : β}
  {bs cs : List β} {o off i : Nat}

/-- The room that a list of items takes. -/
def extent (L : Layout β κ) (bs : List β) : Nat := (bs.map L.size).sum

@[simp] theorem extent_nil : L.extent [] = 0 := rfl

@[simp] theorem extent_cons : L.extent (b :: bs) = L.size b + L.extent bs := by
  simp [extent]

variable [DecidableEq κ]

/-- The items filed under a key, in storage order. -/
def itemsOf (L : Layout β κ) (k : κ) (bs : List β) : List β := bs.filter fun b => L.key b = k

/-- Where the items of a key start when the first item of all starts at `o`. -/
def offsetsOf (L : Layout β κ) (k : κ) : Nat → List β → List Nat
  | _, [] => []
  | o, b :: bs =>
    if L.key b = k then o :: offsetsOf L k (o + L.size b) bs else offsetsOf L k (o + L.size b) bs

@[simp] theorem itemsOf_nil : L.itemsOf k [] = [] := rfl

@[simp] theorem itemsOf_append : L.itemsOf k (bs ++ cs) = L.itemsOf k bs ++ L.itemsOf k cs := by
  simp [itemsOf]

theorem itemsOf_cons :
    L.itemsOf k (b :: bs) = if L.key b = k then b :: L.itemsOf k bs else L.itemsOf k bs := by
  by_cases h : L.key b = k <;> simp [itemsOf, h]

theorem offsetsOf_append :
    L.offsetsOf k o (bs ++ cs) = L.offsetsOf k o bs ++ L.offsetsOf k (o + L.extent bs) cs := by
  induction bs generalizing o with
  | nil => simp [offsetsOf]
  | cons b bs ih =>
    simp only [List.cons_append, offsetsOf, ih, extent_cons, Nat.add_assoc]
    split <;> rfl

@[simp] theorem length_offsetsOf : (L.offsetsOf k o bs).length = (L.itemsOf k bs).length := by
  induction bs generalizing o with
  | nil => rfl
  | cons b bs ih =>
    rw [offsetsOf, itemsOf_cons]
    split <;> simp [ih]

theorem offsetsOf_eq_nil : L.offsetsOf k o bs = [] ↔ L.itemsOf k bs = [] := by
  rw [← List.length_eq_zero_iff, length_offsetsOf, List.length_eq_zero_iff]

/-- The `i`-th offset of a key is where its `i`-th item starts. -/
theorem offsetsOf_split (h : (L.offsetsOf k o bs)[i]? = some off) :
    ∃ pre b post, bs = pre ++ b :: post ∧ L.key b = k ∧ off = o + L.extent pre ∧
      (L.itemsOf k pre).length = i := by
  induction bs generalizing o i with
  | nil => simp [offsetsOf] at h
  | cons c bs ih =>
    rw [offsetsOf] at h
    split at h
    · next hk =>
      cases i with
      | zero =>
        obtain rfl : o = off := by simpa using h
        exact ⟨[], c, bs, rfl, hk, by simp, rfl⟩
      | succ i =>
        obtain ⟨pre, b, post, rfl, hb, rfl, hi⟩ := ih (by simpa using h)
        exact ⟨c :: pre, b, post, rfl, hb, by simp [Nat.add_assoc], by simp [itemsOf_cons, hk, hi]⟩
    · next hk =>
      obtain ⟨pre, b, post, rfl, hb, rfl, hi⟩ := ih h
      exact ⟨c :: pre, b, post, rfl, hb, by simp [Nat.add_assoc], by simp [itemsOf_cons, hk, hi]⟩

/-- An item is listed where it starts, after the items of its key in front of it. -/
theorem getElem?_offsetsOf (h : L.key b = k) :
    (L.offsetsOf k o (bs ++ b :: cs))[(L.itemsOf k bs).length]? = some (o + L.extent bs) := by
  have hlen : (L.itemsOf k bs).length = (L.offsetsOf k o bs).length := length_offsetsOf.symm
  rw [offsetsOf_append, hlen, List.getElem?_append_right (Nat.le_refl _), Nat.sub_self]
  simp [offsetsOf, h]

/-- Replacing an item by one of the same key and size moves nothing. -/
theorem offsetsOf_replace (hk : L.key c = L.key b) (hs : L.size c = L.size b) :
    L.offsetsOf k o (bs ++ c :: cs) = L.offsetsOf k o (bs ++ b :: cs) := by
  simp [offsetsOf_append, offsetsOf, hk, hs]

end Layout

/-- Writing over the first old element after a new front. -/
theorem set_append_drop {α : Type u} {new old : List α} {x : α} (h : new.length < old.length) :
    (new ++ old.drop new.length).set new.length x = (new ++ [x]) ++ old.drop (new.length + 1) := by
  cases hd : old.drop new.length with
  | nil =>
    have := congrArg List.length hd
    simp at this
    omega
  | cons y ys =>
    have hys : old.drop (new.length + 1) = ys := by
      rw [← List.tail_drop, hd, List.tail_cons]
    rw [hys, List.set_append_right _ _ (Nat.le_refl _)]
    simp

end Library
