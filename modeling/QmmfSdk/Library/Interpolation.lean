import Mathlib.Algebra.Order.Field.Basic
import Mathlib.Algebra.Order.Floor.Ring
import Mathlib.Data.Rat.Floor
import Mathlib.Tactic.FieldSimp
import Mathlib.Tactic.Linarith
import Mathlib.Tactic.Ring

/-! The way from one number to another in equal steps, in a field and rounded down to integers. -/
namespace Library

universe u

section Field

variable {K : Type u} [Field K] {a b c d : K} {n k : ℕ}

/-- The number after `k` of `n` steps from `a` to `b`. -/
def lerp (a b : K) (n k : ℕ) : K := a + k * ((b - a) / n)

theorem lerp_zero : lerp a b n 0 = a := by simp [lerp]

theorem lerp_succ : lerp a b n (k + 1) = lerp a b n k + (b - a) / n := by
  simp only [lerp, Nat.cast_add, Nat.cast_one]
  ring

theorem lerp_add : lerp a b n k + lerp c d n k = lerp (a + c) (b + d) n k := by
  simp only [lerp]
  ring

theorem mul_lerp : c * lerp a b n k = lerp (c * a) (c * b) n k := by
  simp only [lerp]
  ring

end Field

section Order

variable {K : Type u} [Field K] [LinearOrder K] [IsStrictOrderedRing K] {a b c : K} {n k : ℕ}

/-- A bound of both ends is a bound of the way. -/
theorem lerp_le (hk : k ≤ n) (ha : a ≤ c) (hb : b ≤ c) : lerp a b n k ≤ c := by
  rcases Nat.eq_zero_or_pos n with rfl | hn
  · obtain rfl : k = 0 := by omega
    rwa [lerp_zero]
  · have hn' : (0 : K) < n := Nat.cast_pos.mpr hn
    have hk' : (k : K) ≤ n := Nat.cast_le.mpr hk
    have hk0 : (0 : K) ≤ k := Nat.cast_nonneg k
    have hsplit : lerp a b n k = ((n - k) * a + k * b) / n := by
      simp only [lerp]
      field_simp
      ring
    rw [hsplit, div_le_iff₀ hn']
    calc (n - k) * a + k * b ≤ (n - k) * c + k * c := by
          have h1 := mul_le_mul_of_nonneg_left ha (sub_nonneg.mpr hk')
          have h2 := mul_le_mul_of_nonneg_left hb hk0
          linarith
      _ = c * n := by ring

theorem le_lerp (hk : k ≤ n) (ha : c ≤ a) (hb : c ≤ b) : c ≤ lerp a b n k := by
  have hneg : lerp (-a) (-b) n k = -lerp a b n k := by
    simp only [lerp]
    ring
  have h := lerp_le hk (neg_le_neg ha) (neg_le_neg hb)
  rw [hneg] at h
  exact neg_le_neg_iff.mp h

end Order

section Floor

variable {a b c d : ℤ} {n k : ℕ}

/-- The same between integers, rounded down at each step. -/
def lerpFloor (a b : ℤ) (n k : ℕ) : ℤ := ⌊lerp (a : ℚ) b n k⌋

theorem lerpFloor_le_lerp : (lerpFloor a b n k : ℚ) ≤ lerp (a : ℚ) b n k := Int.floor_le _

theorem lerpFloor_le (hk : k ≤ n) (ha : a ≤ c) (hb : b ≤ c) : lerpFloor a b n k ≤ c := by
  have h : lerp (a : ℚ) b n k ≤ c := lerp_le hk (Int.cast_le.mpr ha) (Int.cast_le.mpr hb)
  have hfloor := Int.floor_le_floor h
  rwa [Int.floor_intCast] at hfloor

theorem le_lerpFloor (hk : k ≤ n) (ha : c ≤ a) (hb : c ≤ b) : c ≤ lerpFloor a b n k :=
  Int.le_floor.mpr (le_lerp hk (Int.cast_le.mpr ha) (Int.cast_le.mpr hb))

/-- Rounded down one by one, two numbers are not more than their sum rounded down. -/
theorem lerpFloor_add_le : lerpFloor a b n k + lerpFloor c d n k ≤ lerpFloor (a + c) (b + d) n k := by
  rw [lerpFloor, lerpFloor, lerpFloor, Int.cast_add, Int.cast_add, ← lerp_add]
  exact Int.le_floor_add _ _

end Floor

end Library
