import Mathlib.Algebra.Order.Ring.Nat
import Mathlib.Data.List.Basic

/-! Raw memory as a list of bytes: words in both byte orders, overwriting and cutting ranges. -/
namespace Library

/-- The four bytes of a word, least significant first. -/
def encodeU32 (n : UInt32) : List UInt8 :=
  [.ofNat n.toNat, .ofNat (n.toNat / 2 ^ 8), .ofNat (n.toNat / 2 ^ 16), .ofNat (n.toNat / 2 ^ 24)]

/-- The word in the first four bytes, when there are as many. -/
def decodeU32 : List UInt8 → Option UInt32
  | a :: b :: c :: d :: _ =>
    some (.ofNat (a.toNat + 2 ^ 8 * b.toNat + 2 ^ 16 * c.toNat + 2 ^ 24 * d.toNat))
  | _ => none

@[simp] theorem length_encodeU32 {n : UInt32} : (encodeU32 n).length = 4 := rfl

@[simp] theorem decodeU32_encodeU32 {n : UInt32} {bs : List UInt8} :
    decodeU32 (encodeU32 n ++ bs) = some n := by
  have hn := n.toNat_lt
  simp only [encodeU32, decodeU32, List.cons_append, Option.some.injEq]
  apply UInt32.toNat_inj.mp
  rw [UInt32.toNat_ofNat']
  simp only [UInt8.toNat_ofNat']
  omega

/-- A word can be read when there are four bytes, and it is the word that these encode. -/
theorem eq_encodeU32_of_decodeU32 {n : UInt32} {bs : List UInt8} (h : decodeU32 bs = some n) :
    ∃ rest, bs = encodeU32 n ++ rest := by
  match bs, h with
  | a :: b :: c :: d :: rest, h =>
    refine ⟨rest, ?_⟩
    have ha := a.toNat_lt
    have hb := b.toNat_lt
    have hc := c.toNat_lt
    have hd := d.toNat_lt
    have hn : n.toNat = a.toNat + 2 ^ 8 * b.toNat + 2 ^ 16 * c.toNat + 2 ^ 24 * d.toNat := by
      rw [← Option.some.inj h, UInt32.toNat_ofNat']
      omega
    simp only [encodeU32, List.cons_append, List.nil_append, List.cons.injEq, and_true]
    refine ⟨?_, ?_, ?_, ?_⟩
    all_goals
      apply UInt8.toNat_inj.mp
      rw [UInt8.toNat_ofNat', hn]
      omega

/-- The two bytes of a half word, least significant first. -/
def encodeU16 (n : UInt16) : List UInt8 := [.ofNat n.toNat, .ofNat (n.toNat / 2 ^ 8)]

/-- The half word in the first two bytes, when there are as many. -/
def decodeU16 : List UInt8 → Option UInt16
  | a :: b :: _ => some (.ofNat (a.toNat + 2 ^ 8 * b.toNat))
  | _ => none

@[simp] theorem length_encodeU16 {n : UInt16} : (encodeU16 n).length = 2 := rfl

@[simp] theorem decodeU16_encodeU16 {n : UInt16} {bs : List UInt8} :
    decodeU16 (encodeU16 n ++ bs) = some n := by
  have hn := n.toNat_lt
  simp only [encodeU16, decodeU16, List.cons_append, Option.some.injEq]
  apply UInt16.toNat_inj.mp
  rw [UInt16.toNat_ofNat']
  simp only [UInt8.toNat_ofNat']
  omega

/-- The two bytes of a half word, most significant first. -/
def encodeBe16 (n : UInt16) : List UInt8 :=
  [.ofNat (n.toNat / 2 ^ 8), .ofNat n.toNat]

/-- The four bytes of a word, most significant first. -/
def encodeBe32 (n : UInt32) : List UInt8 :=
  [.ofNat (n.toNat / 2 ^ 24), .ofNat (n.toNat / 2 ^ 16), .ofNat (n.toNat / 2 ^ 8), .ofNat n.toNat]

/-- The half word of two bytes, most significant first. -/
def decodeBe16 (a b : UInt8) : UInt16 := .ofNat (2 ^ 8 * a.toNat + b.toNat)

/-- The word of four bytes, most significant first. -/
def decodeBe32 (a b c d : UInt8) : UInt32 :=
  .ofNat (2 ^ 24 * a.toNat + 2 ^ 16 * b.toNat + 2 ^ 8 * c.toNat + d.toNat)

@[simp] theorem length_encodeBe16 {n : UInt16} : (encodeBe16 n).length = 2 := rfl

@[simp] theorem length_encodeBe32 {n : UInt32} : (encodeBe32 n).length = 4 := rfl

theorem decodeBe16_encodeBe16 {n : UInt16} :
    decodeBe16 (.ofNat (n.toNat / 2 ^ 8)) (.ofNat n.toNat) = n := by
  have hn := n.toNat_lt
  apply UInt16.toNat_inj.mp
  rw [decodeBe16, UInt16.toNat_ofNat']
  simp only [UInt8.toNat_ofNat']
  omega

theorem decodeBe32_encodeBe32 {n : UInt32} :
    decodeBe32 (.ofNat (n.toNat / 2 ^ 24)) (.ofNat (n.toNat / 2 ^ 16)) (.ofNat (n.toNat / 2 ^ 8))
      (.ofNat n.toNat) = n := by
  have hn := n.toNat_lt
  apply UInt32.toNat_inj.mp
  rw [decodeBe32, UInt32.toNat_ofNat']
  simp only [UInt8.toNat_ofNat']
  omega

section Ranges

variable {α : Type} {xs ys zs ws : List α} {off : Nat}

/-- `memcpy` into a buffer; `none` when the range leaves it. -/
def overwrite (xs : List α) (off : Nat) (ys : List α) : Option (List α) :=
  if off + ys.length ≤ xs.length then some (xs.take off ++ ys ++ xs.drop (off + ys.length))
  else none

/-- `erase(first, last)`; `none` when that is not a range of the buffer. -/
def eraseRange (xs : List α) (first last : Nat) : Option (List α) :=
  if first ≤ last ∧ last ≤ xs.length then some (xs.take first ++ xs.drop last) else none

theorem overwrite_append (h : off = xs.length) (hl : ws.length = ys.length) :
    overwrite (xs ++ (ys ++ zs)) off ws = some (xs ++ (ws ++ zs)) := by
  subst h
  simp [overwrite, hl, List.drop_append]

theorem eraseRange_append (h : off = ys.length) :
    eraseRange (ys ++ zs) 0 off = some zs := by
  subst h
  simp [eraseRange]

/-- Writes to a buffer, each behind the one before it. -/
def overwriteAll (xs : List α) (off : Nat) : List (List α) → Option (List α)
  | [] => some xs
  | ys :: rest => (overwrite xs off ys).bind fun xs => overwriteAll xs (off + ys.length) rest

/-- As many writes as there is room fill the rest of the buffer. -/
theorem overwriteAll_append {fields : List (List α)} (h : off = xs.length)
    (hl : zs.length = fields.flatten.length) :
    overwriteAll (xs ++ zs) off fields = some (xs ++ fields.flatten) := by
  induction fields generalizing xs zs off with
  | nil =>
    obtain rfl : zs = [] := List.length_eq_zero_iff.mp hl
    simp [overwriteAll]
  | cons ys fields ih =>
    rw [List.flatten_cons, List.length_append] at hl
    have hfirst : overwrite (xs ++ (zs.take ys.length ++ zs.drop ys.length)) off ys =
        some (xs ++ (ys ++ zs.drop ys.length)) :=
      overwrite_append h (by rw [List.length_take]; omega)
    rw [List.take_append_drop] at hfirst
    rw [overwriteAll, hfirst, Option.bind_some, ← List.append_assoc, ih]
    · simp
    · simp [h]
    · rw [List.length_drop]
      omega

/-- `memcpy` out of a buffer; `none` when it reads beyond the end, which no empty range does. -/
def readRange (xs : List α) (off n : Nat) : Option (List α) :=
  if n = 0 ∨ off + n ≤ xs.length then some ((xs.drop off).take n) else none

theorem readRange_append {n : Nat} (h : off = xs.length) (hn : n = ys.length) :
    readRange (xs ++ (ys ++ zs)) off n = some ys := by
  subst h hn
  simp [readRange]

end Ranges

end Library
