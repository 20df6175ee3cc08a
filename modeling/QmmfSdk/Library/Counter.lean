import Mathlib.Algebra.Order.Ring.Nat

/-! Counts kept in 32-bit words: up and down by one without a wrap. -/
namespace Library.Counter

variable {n : UInt32} {k : Nat}

theorem toNat_up (h : n.toNat = k) (hlt : k + 1 < 2 ^ 32) : (n + 1).toNat = k + 1 := by
  rw [UInt32.toNat_add, h, UInt32.toNat_one, Nat.mod_eq_of_lt hlt]

theorem toNat_down (h : n.toNat = k + 1) : (n - 1).toNat = k := by
  have hone : 1 ≤ n := by
    rw [UInt32.le_iff_toNat_le, h, UInt32.toNat_one]
    exact Nat.le_add_left 1 k
  rw [UInt32.toNat_sub_of_le _ _ hone, h, UInt32.toNat_one, Nat.add_sub_cancel]

theorem ne_zero (h : n.toNat = k + 1) : n ≠ 0 := by
  rintro rfl
  rw [UInt32.toNat_zero] at h
  omega

end Library.Counter
