import Mathlib.Data.Int.Order.Basic

/-! Signed 32-bit words whose operations do not overflow. -/
namespace Library.SignedWord

variable {a b : Int32} {x : Int}

/-- A natural number below `2 ^ 31`. -/
def Fits (x : Int) : Prop := 0 ≤ x ∧ x < 2147483648

theorem toInt_ofInt (h : Fits x) : (Int32.ofInt x).toInt = x := by
  obtain ⟨h0, h1⟩ := h
  exact Int32.toInt_ofInt_of_le (by omega) (by omega)

theorem bmod_of_fits (h : Fits x) : x.bmod 4294967296 = x := by
  obtain ⟨h0, h1⟩ := h
  exact Int.bmod_eq_of_le (by omega) (by omega)

theorem toInt_add (h : Fits (a.toInt + b.toInt)) : (a + b).toInt = a.toInt + b.toInt := by
  rw [Int32.toInt_add]
  exact bmod_of_fits h

theorem toInt_mul (h : Fits (a.toInt * b.toInt)) : (a * b).toInt = a.toInt * b.toInt := by
  rw [Int32.toInt_mul]
  exact bmod_of_fits h

/-- The difference of two natural numbers always fits. -/
theorem toInt_sub (ha : 0 ≤ a.toInt) (hb : 0 ≤ b.toInt) : (a - b).toInt = a.toInt - b.toInt := by
  have ha' := a.toInt_lt
  have hb' := b.toInt_lt
  rw [Int32.toInt_sub]
  exact Int.bmod_eq_of_le (by omega) (by omega)

theorem toInt_div (ha : 0 ≤ a.toInt) (hb : 0 < b.toInt) : (a / b).toInt = a.toInt / b.toInt := by
  have hle : a.toInt / b.toInt ≤ a.toInt := Int.ediv_le_self _ ha
  have hfits : Fits (a.toInt / b.toInt) := by
    have hlt := a.toInt_lt
    exact ⟨Int.ediv_nonneg ha (Int.le_of_lt hb), by omega⟩
  rw [Int32.toInt_div, Int.tdiv_eq_ediv_of_nonneg ha]
  exact bmod_of_fits hfits

end Library.SignedWord
