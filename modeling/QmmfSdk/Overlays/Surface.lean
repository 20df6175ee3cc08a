import QmmfSdk.Library.RoundUp
import QmmfSdk.Overlays.Param

/-! The memory behind an overlay and the canvas that cairo draws on. -/
namespace QmmfSdk.Overlays

open Library

/-- What ION, `mmap` and C2D answer while a surface is created. -/
inductive Outcome where
  | ok
  | noMemory
  | notMapped
  deriving DecidableEq, Repr

/-- `cr_surface_` and `cr_context_` with the memory they were made over: null, usable, or pointers that
must not be used. -/
inductive Canvas where
  | none
  | live (width height : UInt32) (memory : Nat)
  | dangling
  deriving DecidableEq, Repr

structure OverlaySurface where
  width : UInt32 := 0
  height : UInt32 := 0
  size : UInt32 := 0
  canvas : Canvas := .none
  deriving DecidableEq, Repr

/-- The largest width and height of a cairo image. -/
def maxImageSize : Nat := 32767

/-- The image has a legal size and lies inside its memory. -/
def FitsIn (width height : UInt32) (memory : Nat) : Prop :=
  width.toNat ≤ maxImageSize ∧ height.toNat ≤ maxImageSize ∧ width.toNat * 4 * height.toNat ≤ memory

instance (width height : UInt32) (memory : Nat) : Decidable (FitsIn width height memory) :=
  inferInstanceAs (Decidable (_ ∧ _ ∧ _))

namespace Canvas

/-- Drawing on it neither stops at an assertion nor leaves the memory. -/
def Sound : Canvas → Prop
  | .live width height memory => FitsIn width height memory
  | _ => False

instance : (c : Canvas) → Decidable c.Sound
  | .live width height memory => inferInstanceAs (Decidable (FitsIn width height memory))
  | .none | .dangling => .isFalse id

/-- `cairo_surface_destroy` and `cairo_destroy`, unless the pointers are null; they are left behind. -/
def destroy : Canvas → Option Canvas
  | .none => some .none
  | .live .. => some .dangling
  | .dangling => Option.none

theorem Sound.destroy {c : Canvas} (h : c.Sound) : c.destroy = some .dangling := by
  cases c with
  | live => rfl
  | none | dangling => exact h.elim

end Canvas

/-- `AllocateIonMemory`; neither ION nor `mmap` gives memory of no bytes. -/
def allocateIonMemory (size : UInt32) (outcome : Outcome) : Option UInt32 :=
  if outcome = .noMemory ∨ roundUp size 4096 = 0 then Option.none else some (roundUp size 4096)

variable {width height size memory : UInt32} {outcome : Outcome}

theorem allocateIonMemory_eq_some (h : allocateIonMemory size outcome = some memory) :
    outcome ≠ .noMemory ∧ memory = roundUp size 4096 := by
  unfold allocateIonMemory at h
  split_ifs at h with hno
  rw [not_or] at hno
  exact ⟨hno.1, (Option.some.inj h).symm⟩

theorem toNat_mul_four (hw : width.toNat ≤ maxImageSize) (hh : height.toNat ≤ maxImageSize) :
    (width * height * 4).toNat = width.toNat * 4 * height.toNat ∧
      (width * height * 4).toNat + 4096 ≤ 2 ^ 32 := by
  have hprod : width.toNat * height.toNat ≤ 32767 * 32767 := Nat.mul_le_mul hw hh
  have heq : (width * height * 4).toNat = width.toNat * height.toNat * 4 := by
    rw [UInt32.toNat_mul, UInt32.toNat_mul]
    simp only [UInt32.reduceToNat]
    omega
  exact ⟨heq.trans (Nat.mul_right_comm ..), heq ▸ by omega⟩

/-- Memory of the size of the image, rounded up to pages, holds every legal image. -/
theorem fitsIn_self (hw : width.toNat ≤ maxImageSize) (hh : height.toNat ≤ maxImageSize) :
    FitsIn width height (roundUp (width * height * 4) 4096).toNat := by
  obtain ⟨heq, hfit⟩ := toNat_mul_four hw hh
  refine ⟨hw, hh, heq ▸ ?_⟩
  exact le_toNat_roundUp (k := 12) rfl hfit

theorem fitsIn_self_iff : FitsIn width height (roundUp (width * height * 4) 4096).toNat ↔
    width.toNat ≤ maxImageSize ∧ height.toNat ≤ maxImageSize :=
  ⟨fun h => ⟨h.1, h.2.1⟩, fun h => fitsIn_self h.1 h.2⟩

/-- What `memcpy` puts into memory of its own size stays inside, if there is any memory. -/
theorem size_le_of_allocated (h : allocateIonMemory size outcome = some memory) : size ≤ memory := by
  have hno : ¬ (outcome = .noMemory ∨ roundUp size 4096 = 0) := fun hno => by
    rw [allocateIonMemory, if_pos hno] at h
    cases h
  rw [(allocateIonMemory_eq_some h).2, UInt32.le_iff_toNat_le]
  by_cases hfit : size.toNat + 4096 ≤ 2 ^ 32
  · exact le_toNat_roundUp (k := 12) rfl hfit
  · -- the rounding wraps to nothing
    refine absurd (.inr ?_) hno
    have hsize := size.toNat_lt
    have hsum : (size + 4096 - 1).toNat = size.toNat + 4095 - 2 ^ 32 := by
      rw [UInt32.toNat_sub, UInt32.toNat_add]
      simp only [UInt32.reduceToNat]
      omega
    apply UInt32.toNat_inj.mp
    rw [roundUp, toNat_and_not_sub_one (k := 12) rfl, hsum, Nat.div_eq_of_lt (by omega), Nat.zero_mul]
    rfl

end QmmfSdk.Overlays
