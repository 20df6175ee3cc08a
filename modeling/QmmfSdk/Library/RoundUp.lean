import Mathlib.Data.Nat.Bitwise

/-! Rounding up to a multiple of a power of two on 32-bit words. -/
namespace Library

/-- The bits below the power are cleared; the sum may wrap. -/
def roundUp (val unit : UInt32) : UInt32 := (val + unit - 1) &&& ~~~(unit - 1)

variable {val unit : UInt32} {k : ℕ}

theorem toNat_sub_one (hunit : unit.toNat = 2 ^ k) : (unit - 1).toNat = 2 ^ k - 1 := by
  have hone : (1 : UInt32) ≤ unit := by
    rw [UInt32.le_iff_toNat_le, hunit]
    exact Nat.one_le_two_pow
  rw [UInt32.toNat_sub_of_le _ _ hone, hunit]
  rfl

theorem toNat_and_not_sub_one (hunit : unit.toNat = 2 ^ k) :
    (val &&& ~~~(unit - 1)).toNat = val.toNat / 2 ^ k * 2 ^ k := by
  have hk : k ≤ 32 := by
    have hlt : 2 ^ k < 2 ^ 32 := hunit ▸ unit.toNat_lt
    exact ((Nat.pow_lt_pow_iff_right (by decide)).mp hlt).le
  rw [UInt32.toNat_and, UInt32.toNat_not, toNat_sub_one hunit]
  apply Nat.eq_of_testBit_eq
  intro i
  have hsize : UInt32.size - 1 - (2 ^ k - 1) = 2 ^ 32 - ((2 ^ k - 1) + 1) := by
    have hle : 2 ^ k ≤ 2 ^ 32 := Nat.pow_le_pow_right (by decide) hk
    have hpos : 0 < 2 ^ k := Nat.two_pow_pos k
    simp only [UInt32.size]
    omega
  rw [Nat.testBit_and, hsize, Nat.testBit_two_pow_sub_succ (by
    have hle : 2 ^ k ≤ 2 ^ 32 := Nat.pow_le_pow_right (by decide) hk
    have hpos : 0 < 2 ^ k := Nat.two_pow_pos k
    omega), Nat.testBit_mul_two_pow, Nat.testBit_div_two_pow, Nat.testBit_two_pow_sub_one]
  by_cases hi : k ≤ i
  · by_cases hi32 : i < 32
    · simp [hi, hi32, Nat.not_lt.mpr hi]
    · have hbit : val.toNat.testBit i = false :=
        Nat.testBit_lt_two_pow (val.toNat_lt.trans_le (Nat.pow_le_pow_right (by decide) (by omega)))
      simp [hi, hbit]
  · simp [hi, Nat.not_le.mp hi]

/-- Without a wrap the next multiple is reached. -/
theorem toNat_roundUp (hunit : unit.toNat = 2 ^ k) (hfit : val.toNat + unit.toNat ≤ 2 ^ 32) :
    (roundUp val unit).toNat = (val.toNat + (unit.toNat - 1)) / 2 ^ k * 2 ^ k := by
  have hpos : 0 < 2 ^ k := Nat.two_pow_pos k
  have hsum : (val + unit - 1).toNat = val.toNat + (unit.toNat - 1) := by
    have hval := val.toNat_lt
    rw [UInt32.toNat_sub, UInt32.toNat_add]
    simp only [UInt32.toNat_one]
    omega
  rw [roundUp, toNat_and_not_sub_one hunit, hsum]

theorem le_toNat_roundUp (hunit : unit.toNat = 2 ^ k) (hfit : val.toNat + unit.toNat ≤ 2 ^ 32) :
    val.toNat ≤ (roundUp val unit).toNat := by
  have hpos : 0 < 2 ^ k := Nat.two_pow_pos k
  have hmod := Nat.div_add_mod' (val.toNat + (unit.toNat - 1)) (2 ^ k)
  have hlt := Nat.mod_lt (val.toNat + (unit.toNat - 1)) hpos
  rw [toNat_roundUp hunit hfit]
  omega

end Library
