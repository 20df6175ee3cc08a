import QmmfSdk.Camera3.Settings
import QmmfSdk.Library.Interpolation
import QmmfSdk.Library.SignedWord

/-! Smooth zoom in exact arithmetic: the crops of a transition and the steps of `Update`. -/
namespace QmmfSdk.Camera3

open Library
open SettingsLoops (ratOps)

theorem ratOps_abs (q : ℚ) : ratOps.abs q = |q| := by
  change (if q < 0 then -q else q) = |q|
  split
  next h => rw [abs_of_neg h]
  next h => rw [abs_of_nonneg (not_lt.mp h)]

theorem ratOps_toInt_of_nonneg {q : ℚ} (h : 0 ≤ q) : ratOps.toInt q = Int32.ofInt ⌊q⌋ := by
  change Int32.ofInt (q.num.tdiv q.den) = _
  rw [Int.tdiv_eq_ediv_of_nonneg (Rat.num_nonneg.mpr h)]
  exact congrArg Int32.ofInt (Rat.floor_def q).symm

namespace CropData

/-- Of positive size and wholly on the array. -/
structure On (maxWidth maxHeight : Int32) (c : CropData) : Prop where
  left : 0 ≤ c.left.toInt
  top : 0 ≤ c.top.toInt
  width : 0 < c.width.toInt
  height : 0 < c.height.toInt
  right : c.left.toInt + c.width.toInt ≤ maxWidth.toInt
  bottom : c.top.toInt + c.height.toInt ≤ maxHeight.toInt

/-- Clamped to the array: as much of the size as there is, moved inside. -/
def onto (maxWidth maxHeight : Int32) (c : CropData) : CropData where
  left := max 0 (min c.left (maxWidth - min c.width maxWidth))
  top := max 0 (min c.top (maxHeight - min c.height maxHeight))
  width := min c.width maxWidth
  height := min c.height maxHeight

/-- The steps of a transition from one crop to another. -/
def steps (stepSize : ℚ) (maxWidth : Int32) (c t : CropData) : ℕ :=
  ⌊|((t.width.toInt : ℚ) - c.width.toInt) / maxWidth.toInt / stepSize|⌋.toNat

def leftAt (c t : CropData) (n k : ℕ) : ℤ := lerpFloor c.left.toInt t.left.toInt n k

def topAt (c t : CropData) (n k : ℕ) : ℤ := lerpFloor c.top.toInt t.top.toInt n k

def widthAt (c t : CropData) (n k : ℕ) : ℤ := lerpFloor c.width.toInt t.width.toInt n k

/-- The height has the proportion of the target. -/
def heightAt (c t : CropData) (n k : ℕ) : ℤ := widthAt c t n k * t.height.toInt / t.width.toInt

/-- The crop after `k` of `n` steps. -/
def stepAt (c t : CropData) (n k : ℕ) : CropData where
  left := Int32.ofInt (leftAt c t n k)
  top := Int32.ofInt (topAt c t n k)
  width := Int32.ofInt (widthAt c t n k)
  height := Int32.ofInt (heightAt c t n k)

variable {maxWidth maxHeight : Int32} {c t : CropData} {n k : ℕ}

theorem min_eq_ite (a b : Int32) : min a b = if a > b then b else a := by
  change (if a ≤ b then a else b) = _
  by_cases h : a ≤ b
  · rw [if_pos h, if_neg (Int32.not_lt.mpr h)]
  · rw [if_neg h, if_pos (Int32.not_le.mp h)]

/-- Where nothing overflows, the comparison of the far end moves a crop inside along one axis. -/
theorem moved_inside {a size length : Int32} (ha : 0 ≤ a.toInt) (hsize : 0 ≤ size.toInt)
    (hle : size.toInt ≤ length.toInt) (hlt : a.toInt + size.toInt < 2147483648) :
    (if a + size > length then length - size else a) = max 0 (min a (length - size)) := by
  have hadd : (a + size).toInt = a.toInt + size.toInt := SignedWord.toInt_add ⟨by omega, hlt⟩
  have hsub : (length - size).toInt = length.toInt - size.toInt :=
    SignedWord.toInt_sub (by omega) hsize
  have hmax : ∀ b : Int32, 0 ≤ b.toInt → max 0 b = b := by
    intro b hb
    change (if (0 : Int32) ≤ b then b else 0) = b
    rw [if_pos (by rwa [Int32.le_iff_toInt_le, Int32.toInt_zero])]
  by_cases hfar : a + size > length
  · have hgt : a > length - size := by
      rw [gt_iff_lt, Int32.lt_iff_toInt_lt] at hfar ⊢
      omega
    rw [if_pos hfar, min_eq_ite, if_pos hgt, hmax _ (by omega)]
  · have hngt : ¬ a > length - size := by
      rw [gt_iff_lt, Int32.lt_iff_toInt_lt] at hfar ⊢
      omega
    rw [if_neg hfar, min_eq_ite, if_neg hngt, hmax _ ha]

theorem toInt_min_le (a b : Int32) : (min a b).toInt ≤ a.toInt ∧ (min a b).toInt ≤ b.toInt ∧
    ((min a b).toInt = a.toInt ∨ (min a b).toInt = b.toInt) := by
  rw [min_eq_ite]
  split
  next h =>
    rw [gt_iff_lt, Int32.lt_iff_toInt_lt] at h
    exact ⟨h.le, le_refl _, .inr rfl⟩
  next h =>
    rw [gt_iff_lt, Int32.lt_iff_toInt_lt, not_lt] at h
    exact ⟨le_refl _, h, .inl rfl⟩

/-- A number moved between 0 and a bound. -/
theorem toInt_between {a b : Int32} (hb : 0 ≤ b.toInt) :
    0 ≤ (max 0 (min a b)).toInt ∧ (max 0 (min a b)).toInt ≤ b.toInt := by
  have hmin := toInt_min_le a b
  change 0 ≤ (if (0 : Int32) ≤ min a b then min a b else 0).toInt ∧
    (if (0 : Int32) ≤ min a b then min a b else 0).toInt ≤ b.toInt
  split
  next h =>
    rw [Int32.le_iff_toInt_le, Int32.toInt_zero] at h
    exact ⟨h, hmin.2.1⟩
  next => exact ⟨le_refl 0, hb⟩

theorem between_of_le {a b : Int32} (ha : 0 ≤ a.toInt) (hab : a.toInt ≤ b.toInt) :
    max 0 (min a b) = a := by
  have hmin : min a b = a := by
    rw [min_eq_ite, if_neg]
    rw [gt_iff_lt, Int32.lt_iff_toInt_lt]
    omega
  rw [hmin]
  change (if (0 : Int32) ≤ a then a else 0) = a
  rw [if_pos (by rwa [Int32.le_iff_toInt_le, Int32.toInt_zero])]

/-- Clamped to an array, a crop of positive size is on it. -/
theorem onto_on (hw : 0 < maxWidth.toInt) (hh : 0 < maxHeight.toInt)
    (hc : 0 < c.width.toInt ∧ 0 < c.height.toInt) :
    (c.onto maxWidth maxHeight).On maxWidth maxHeight := by
  have hwidth := toInt_min_le c.width maxWidth
  have hheight := toInt_min_le c.height maxHeight
  have hx : (maxWidth - min c.width maxWidth).toInt = _ :=
    SignedWord.toInt_sub hw.le (by omega)
  have hy : (maxHeight - min c.height maxHeight).toInt = _ :=
    SignedWord.toInt_sub hh.le (by omega)
  have hleft := toInt_between (a := c.left) (b := maxWidth - min c.width maxWidth) (by omega)
  have htop := toInt_between (a := c.top) (b := maxHeight - min c.height maxHeight) (by omega)
  refine ⟨hleft.1, htop.1, ?_, ?_, ?_, ?_⟩
  · change 0 < (min c.width maxWidth).toInt
    omega
  · change 0 < (min c.height maxHeight).toInt
    omega
  · change (max 0 (min c.left _)).toInt + (min c.width maxWidth).toInt ≤ _
    omega
  · change (max 0 (min c.top _)).toInt + (min c.height maxHeight).toInt ≤ _
    omega

theorem On.onto_eq (hc : c.On maxWidth maxHeight) : c.onto maxWidth maxHeight = c := by
  obtain ⟨hleft, htop, hw, hh, hright, hbottom⟩ := hc
  have hwidth : min c.width maxWidth = c.width := by
    rw [min_eq_ite, if_neg]
    rw [gt_iff_lt, Int32.lt_iff_toInt_lt]
    omega
  have hheight : min c.height maxHeight = c.height := by
    rw [min_eq_ite, if_neg]
    rw [gt_iff_lt, Int32.lt_iff_toInt_lt]
    omega
  have hx : (maxWidth - c.width).toInt = _ := SignedWord.toInt_sub (by omega) hw.le
  have hy : (maxHeight - c.height).toInt = _ := SignedWord.toInt_sub (by omega) hh.le
  unfold onto
  rw [hwidth, hheight, between_of_le hleft (by omega), between_of_le htop (by omega)]

theorem On.widthAt_pos (hc : c.On maxWidth maxHeight) (ht : t.On maxWidth maxHeight) (hk : k ≤ n) :
    0 < widthAt c t n k :=
  le_lerpFloor hk hc.width ht.width

theorem On.widthAt_le (hc : c.On maxWidth maxHeight) (ht : t.On maxWidth maxHeight) (hk : k ≤ n) :
    widthAt c t n k ≤ maxWidth.toInt := by
  have hcr := hc.right
  have htr := ht.right
  have hcl := hc.left
  have htl := ht.left
  exact lerpFloor_le hk (by omega) (by omega)

theorem On.widthAt_fits (hc : c.On maxWidth maxHeight) (ht : t.On maxWidth maxHeight) (hk : k ≤ n) :
    SignedWord.Fits (widthAt c t n k) := by
  have hpos := hc.widthAt_pos ht hk
  have hle := hc.widthAt_le ht hk
  have hlt := maxWidth.toInt_lt
  exact ⟨by omega, by omega⟩

theorem On.heightAt_fits (hc : c.On maxWidth maxHeight) (ht : t.On maxWidth maxHeight) (hk : k ≤ n)
    (hlt : widthAt c t n k * t.height.toInt < 2147483648) : SignedWord.Fits (heightAt c t n k) := by
  have hnonneg : 0 ≤ widthAt c t n k * t.height.toInt :=
    (mul_pos (hc.widthAt_pos ht hk) ht.height).le
  have hle : heightAt c t n k ≤ widthAt c t n k * t.height.toInt := Int.ediv_le_self _ hnonneg
  exact ⟨Int.ediv_nonneg hnonneg ht.width.le, by omega⟩

/-- A transition that gets through: there are no more steps than can be counted, and at each step the
width, in the proportion of the target, gives at least one line and can be computed. -/
def Passes (stepSize : ℚ) (maxWidth : Int32) (c t : CropData) : Prop :=
  steps stepSize maxWidth c t < 2147483648 ∧
    ∀ k < steps stepSize maxWidth c t,
      t.width.toInt ≤ widthAt c t (steps stepSize maxWidth c t) (k + 1) * t.height.toInt ∧
        widthAt c t (steps stepSize maxWidth c t) (k + 1) * t.height.toInt < 2147483648

/-- At each step that is done there is at least one line. -/
theorem Passes.heightAt_pos {stepSize : ℚ} (h : Passes stepSize maxWidth c t)
    (hc : c.On maxWidth maxHeight) (ht : t.On maxWidth maxHeight)
    (hn : steps stepSize maxWidth c t = n) (hk : k < n) :
    0 < heightAt c t n (k + 1) ∧ SignedWord.Fits (heightAt c t n (k + 1)) := by
  subst hn
  obtain ⟨hline, hlt⟩ := h.2 k hk
  exact ⟨Int.le_ediv_of_mul_le ht.width (by omega), hc.heightAt_fits ht hk hlt⟩

/-- At each step the lines end within the array. -/
def Ends (stepSize : ℚ) (maxWidth maxHeight : Int32) (c t : CropData) : Prop :=
  ∀ k < steps stepSize maxWidth c t,
    topAt c t (steps stepSize maxWidth c t) (k + 1) +
      heightAt c t (steps stepSize maxWidth c t) (k + 1) ≤ maxHeight.toInt

instance : Decidable (c.On maxWidth maxHeight) :=
  decidable_of_iff (0 ≤ c.left.toInt ∧ 0 ≤ c.top.toInt ∧ 0 < c.width.toInt ∧ 0 < c.height.toInt ∧
    c.left.toInt + c.width.toInt ≤ maxWidth.toInt ∧ c.top.toInt + c.height.toInt ≤ maxHeight.toInt)
    ⟨fun h => ⟨h.1, h.2.1, h.2.2.1, h.2.2.2.1, h.2.2.2.2.1, h.2.2.2.2.2⟩,
      fun h => ⟨h.left, h.top, h.width, h.height, h.right, h.bottom⟩⟩

instance {stepSize : ℚ} : Decidable (c.Passes stepSize maxWidth t) :=
  inferInstanceAs (Decidable (_ ∧ ∀ k < _, _ ∧ _))

instance {stepSize : ℚ} : Decidable (c.Ends stepSize maxWidth maxHeight t) :=
  inferInstanceAs (Decidable (∀ k < _, _))

end CropData

namespace SmoothZoom

variable {stepSize : ℚ} {maxWidth maxHeight : Int32} {c t crop : CropData} {n k : ℕ}
  {z : SmoothZoom ℚ} {m : CameraSettings}

/-- Smooth zoom is enabled, knows the array and has a step to go. -/
structure Ready (stepSize : ℚ) (maxWidth maxHeight : Int32) (z : SmoothZoom ℚ) : Prop where
  enable : z.enable = true
  width : z.maxWidth = maxWidth
  height : z.maxHeight = maxHeight
  size : z.zoomStepSize = stepSize
  pos : 0 < stepSize
  widthPos : 0 < maxWidth.toInt
  heightPos : 0 < maxHeight.toInt

/-- `k` of `n` steps of a transition are done. -/
structure Moves (maxWidth : Int32) (c t : CropData) (n k : ℕ) (z : SmoothZoom ℚ) : Prop where
  target : z.cropTarget = t
  steps : z.zoomSteps.toInt = n - k
  factor : z.zoomFactor = lerp ((c.width.toInt : ℚ) / maxWidth.toInt) (t.width.toInt / maxWidth.toInt) n k
  step : z.zoomStep = ((t.width.toInt : ℚ) / maxWidth.toInt - c.width.toInt / maxWidth.toInt) / n
  leftOffset : z.leftOffset = lerp (c.left.toInt : ℚ) t.left.toInt n k
  leftStep : z.leftStep = ((t.left.toInt : ℚ) - c.left.toInt) / n
  topOffset : z.topOffset = lerp (c.top.toInt : ℚ) t.top.toInt n k
  topStep : z.topStep = ((t.top.toInt : ℚ) - c.top.toInt) / n

theorem not_nonpos_iff {a : Int32} : ¬ a ≤ 0 ↔ 0 < a.toInt := by
  rw [Int32.le_iff_toInt_le, Int32.toInt_zero]
  omega

theorem ne_zero_of_pos {a : Int32} (h : 0 < a.toInt) : a ≠ 0 := by
  rintro rfl
  simp at h

theorem Ready.learn_eq (h : Ready stepSize maxWidth maxHeight z) : z.learn m = z := by
  have hw : z.maxWidth ≠ 0 := h.width ▸ ne_zero_of_pos h.widthPos
  have hh : z.maxHeight ≠ 0 := h.height ▸ ne_zero_of_pos h.heightPos
  simp [learn, hw, hh]

theorem Ready.unusable_eq (h : Ready stepSize maxWidth maxHeight z)
    (hcurrent : 0 < z.cropCurrent.width.toInt ∧ 0 < z.cropCurrent.height.toInt)
    (htarget : 0 < z.cropTarget.width.toInt ∧ 0 < z.cropTarget.height.toInt) :
    z.unusable ratOps = false := by
  have hsize : ratOps.nonpos z.zoomStepSize = false := by
    simp [ratOps, h.size, h.pos]
  unfold unusable
  simp only [hsize, h.width, h.height, not_nonpos_iff.mpr h.widthPos, not_nonpos_iff.mpr h.heightPos,
    not_nonpos_iff.mpr hcurrent.1, not_nonpos_iff.mpr hcurrent.2, not_nonpos_iff.mpr htarget.1,
    not_nonpos_iff.mpr htarget.2, decide_false, Bool.or_false]

/-- What `Update` does where smooth zoom is ready. -/
theorem Ready.update_eq (h : Ready stepSize maxWidth maxHeight z)
    (hcurrent : 0 < z.cropCurrent.width.toInt ∧ 0 < z.cropCurrent.height.toInt)
    (htarget : 0 < z.cropTarget.width.toInt ∧ 0 < z.cropTarget.height.toInt) :
    z.update ratOps m = (((z.begin ratOps m).advance ratOps).countDown,
      { m with cropRegion := some ((z.begin ratOps m).advance ratOps).cropCurrent }) := by
  simp only [update, h.enable, h.learn_eq, h.unusable_eq hcurrent htarget, Bool.not_true,
    Bool.false_eq_true, if_false]

/-- The steps are counted as they are. -/
theorem toInt_steps (stepSize : ℚ) (maxWidth : Int32) (c t : CropData)
    (h : CropData.steps stepSize maxWidth c t < 2147483648) :
    (ratOps.toInt (|((t.width.toInt : ℚ) / maxWidth.toInt - c.width.toInt / maxWidth.toInt) /
      stepSize|)).toInt = CropData.steps stepSize maxWidth c t := by
  rw [← sub_div]
  have hnonneg := abs_nonneg (((t.width.toInt : ℚ) - c.width.toInt) / maxWidth.toInt / stepSize)
  have hfits : SignedWord.Fits (CropData.steps stepSize maxWidth c t : ℤ) :=
    ⟨by omega, by omega⟩
  rw [ratOps_toInt_of_nonneg hnonneg, ← Int.toNat_of_nonneg (Int.floor_nonneg.mpr hnonneg)]
  exact SignedWord.toInt_ofInt hfits

theorem Ready.configure (h : Ready stepSize maxWidth maxHeight z) :
    Ready stepSize maxWidth maxHeight (z.configure ratOps crop) := by
  unfold SmoothZoom.configure
  dsimp only
  split
  · exact ⟨h.enable, h.width, h.height, h.size, h.pos, h.widthPos, h.heightPos⟩
  · exact ⟨h.enable, h.width, h.height, h.size, h.pos, h.widthPos, h.heightPos⟩

theorem configure_cropTarget : (z.configure ratOps crop).cropTarget = z.clamp crop := by
  unfold configure
  dsimp only
  split
  · rfl
  · rfl

/-- The number of steps that a transition begins with. -/
theorem configure_zoomSteps (h : Ready stepSize maxWidth maxHeight z) :
    (z.configure ratOps crop).zoomSteps =
      ratOps.toInt (|(((z.clamp crop).width.toInt : ℚ) / maxWidth.toInt -
        z.cropCurrent.width.toInt / maxWidth.toInt) / stepSize|) := by
  rw [← h.width, ← h.size, ← ratOps_abs]
  unfold configure
  dsimp only
  split
  · rfl
  · rfl

/-- Without a step to go, the next advance goes to the target. -/
theorem Ready.configure_jumps (h : Ready stepSize maxWidth maxHeight z)
    (hsteps : CropData.steps stepSize maxWidth z.cropCurrent (z.clamp crop) = 0) :
    (z.configure ratOps crop).zoomSteps = 0 := by
  have hcount := toInt_steps stepSize maxWidth z.cropCurrent (z.clamp crop) (by rw [hsteps]; decide)
  rw [← configure_zoomSteps h, hsteps] at hcount
  rw [← Int32.toInt_inj, hcount]
  rfl

/-- What a transition begins with. -/
theorem Ready.configure_of_steps (h : Ready stepSize maxWidth maxHeight z) {steps : Int32}
    (hsteps : (z.configure ratOps crop).zoomSteps = steps) (hne : steps ≠ 0) :
    z.configure ratOps crop = { z with
      cropTarget := z.clamp crop
      zoomFactor := (z.cropCurrent.width.toInt : ℚ) / maxWidth.toInt
      zoomSteps := steps
      zoomStep := (((z.clamp crop).width.toInt : ℚ) / maxWidth.toInt -
        z.cropCurrent.width.toInt / maxWidth.toInt) / steps.toInt
      leftOffset := z.cropCurrent.left.toInt
      topOffset := z.cropCurrent.top.toInt
      leftStep := (((z.clamp crop).left - z.cropCurrent.left).toInt : ℚ) / steps.toInt
      topStep := (((z.clamp crop).top - z.cropCurrent.top).toInt : ℚ) / steps.toInt } := by
  rw [configure_zoomSteps h] at hsteps
  subst hsteps
  rw [← h.width, ← h.size, ← ratOps_abs] at hne ⊢
  exact if_pos hne

/-- A transition begins before its first step. -/
theorem Ready.configure_moves (h : Ready stepSize maxWidth maxHeight z)
    (hn : CropData.steps stepSize maxWidth z.cropCurrent (z.clamp crop) = n) (hne : n ≠ 0)
    (hlt : n < 2147483648) (hc : 0 ≤ z.cropCurrent.left.toInt ∧ 0 ≤ z.cropCurrent.top.toInt)
    (ht : 0 ≤ (z.clamp crop).left.toInt ∧ 0 ≤ (z.clamp crop).top.toInt) :
    Moves maxWidth z.cropCurrent (z.clamp crop) n 0 (z.configure ratOps crop) := by
  have hcount := toInt_steps stepSize maxWidth z.cropCurrent (z.clamp crop) (by rw [hn]; exact hlt)
  rw [← configure_zoomSteps h, hn] at hcount
  have hsteps : (z.configure ratOps crop).zoomSteps ≠ 0 := ne_zero_of_pos (by omega)
  have hcast : ((z.configure ratOps crop).zoomSteps.toInt : ℚ) = n := by rw [hcount, Int.cast_natCast]
  have hleft := SignedWord.toInt_sub ht.1 hc.1
  have htop := SignedWord.toInt_sub ht.2 hc.2
  rw [h.configure_of_steps rfl hsteps]
  refine ⟨rfl, ?_, ?_, ?_, ?_, ?_, ?_, ?_⟩
  · rw [Nat.cast_zero, sub_zero]
    exact hcount
  · rw [lerp_zero]
  · rw [hcast]
  · rw [lerp_zero]
  · rw [hcast, hleft, Int.cast_sub]
  · rw [lerp_zero]
  · rw [hcast, htop, Int.cast_sub]

theorem countDown_of_pos (h : 0 < z.zoomSteps.toInt) :
    z.countDown = { z with zoomSteps := z.zoomSteps - 1 } ∧
      (z.zoomSteps - 1).toInt = z.zoomSteps.toInt - 1 := by
  have hge : z.zoomSteps ≥ 0 := by
    rw [ge_iff_le, Int32.le_iff_toInt_le, Int32.toInt_zero]
    omega
  exact ⟨if_pos hge, SignedWord.toInt_sub (by omega) (by decide)⟩

/-- The crop of a step, as it is computed. -/
theorem Moves.cropCurrent_advance (hm : Moves maxWidth c t n k z)
    (hr : Ready stepSize maxWidth maxHeight z) (hk : k < n)
    (hc : c.On maxWidth maxHeight) (ht : t.On maxWidth maxHeight)
    (hlt : CropData.widthAt c t n (k + 1) * t.height.toInt < 2147483648) :
    (z.advance ratOps).cropCurrent = CropData.stepAt c t n (k + 1) := by
  have hsteps := hm.steps
  have hk' : k + 1 ≤ n := hk
  have hleft : ratOps.toInt (z.leftOffset + z.leftStep) =
      Int32.ofInt (CropData.leftAt c t n (k + 1)) := by
    rw [hm.leftOffset, hm.leftStep, ← lerp_succ]
    exact ratOps_toInt_of_nonneg (le_lerp hk' (Int.cast_nonneg hc.left) (Int.cast_nonneg ht.left))
  have htop : ratOps.toInt (z.topOffset + z.topStep) =
      Int32.ofInt (CropData.topAt c t n (k + 1)) := by
    rw [hm.topOffset, hm.topStep, ← lerp_succ]
    exact ratOps_toInt_of_nonneg (le_lerp hk' (Int.cast_nonneg hc.top) (Int.cast_nonneg ht.top))
  have hwidth : ratOps.toInt (z.maxWidth.toInt * (z.zoomFactor + z.zoomStep)) =
      Int32.ofInt (CropData.widthAt c t n (k + 1)) := by
    have hne : (maxWidth.toInt : ℚ) ≠ 0 := Int.cast_ne_zero.mpr hr.widthPos.ne'
    rw [hm.factor, hm.step, ← lerp_succ, mul_lerp, hr.width, mul_div_cancel₀ _ hne,
      mul_div_cancel₀ _ hne]
    exact ratOps_toInt_of_nonneg (le_lerp hk' (Int.cast_nonneg hc.width.le)
      (Int.cast_nonneg ht.width.le))
  have hpos := hc.widthAt_pos ht hk'
  have hheight : Int32.ofInt (CropData.widthAt c t n (k + 1)) * t.height / t.width =
      Int32.ofInt (CropData.heightAt c t n (k + 1)) := by
    have hw := SignedWord.toInt_ofInt (hc.widthAt_fits ht hk')
    have hprod : (Int32.ofInt (CropData.widthAt c t n (k + 1)) * t.height).toInt =
        CropData.widthAt c t n (k + 1) * t.height.toInt := by
      rw [SignedWord.toInt_mul, hw]
      rw [hw]
      exact ⟨(mul_pos hpos ht.height).le, hlt⟩
    rw [← Int32.toInt_inj, SignedWord.toInt_ofInt (hc.heightAt_fits ht hk' hlt),
      SignedWord.toInt_div (by rw [hprod]; exact (mul_pos hpos ht.height).le) ht.width, hprod]
    rfl
  unfold SmoothZoom.advance
  rw [if_neg (not_nonpos_iff.mpr (by omega))]
  change CropData.mk (ratOps.toInt (z.leftOffset + z.leftStep))
    (ratOps.toInt (z.topOffset + z.topStep))
    (ratOps.toInt (z.maxWidth.toInt * (z.zoomFactor + z.zoomStep)))
    (ratOps.toInt (z.maxWidth.toInt * (z.zoomFactor + z.zoomStep)) * z.cropTarget.height /
      z.cropTarget.width) = _
  rw [hleft, htop, hwidth, hm.target, hheight]
  rfl

/-- The next step of a transition. -/
theorem Moves.advance (hm : Moves maxWidth c t n k z) (hk : k < n) :
    Moves maxWidth c t n (k + 1) (z.advance ratOps).countDown := by
  have hsteps := hm.steps
  have hpos : 0 < z.zoomSteps.toInt := by omega
  have hadvance : (z.advance ratOps).zoomSteps = z.zoomSteps := by
    unfold SmoothZoom.advance
    split
    · rfl
    · rfl
  obtain ⟨hdown, hminus⟩ := countDown_of_pos (z := z.advance ratOps) (by rw [hadvance]; exact hpos)
  rw [hadvance] at hdown hminus
  rw [hdown]
  unfold SmoothZoom.advance
  rw [if_neg (not_nonpos_iff.mpr hpos)]
  refine ⟨hm.target, ?_, ?_, hm.step, ?_, hm.leftStep, ?_, hm.topStep⟩
  · change (z.zoomSteps - 1).toInt = _
    rw [hminus, hsteps]
    push_cast
    ring
  · change z.zoomFactor + z.zoomStep = _
    rw [hm.factor, hm.step, lerp_succ]
  · change z.leftOffset + z.leftStep = _
    rw [hm.leftOffset, hm.leftStep, lerp_succ]
  · change z.topOffset + z.topStep = _
    rw [hm.topOffset, hm.topStep, lerp_succ]

/-- No transition is on, and the crop is on the array. -/
structure Rests (stepSize : ℚ) (maxWidth maxHeight : Int32) (z : SmoothZoom ℚ) : Prop where
  ready : Ready stepSize maxWidth maxHeight z
  steps : z.zoomSteps = -1
  target : z.cropTarget = z.cropCurrent
  on : z.cropCurrent.On maxWidth maxHeight

/-- A transition that gets through is on, with at least one step done. -/
structure Goes (stepSize : ℚ) (maxWidth maxHeight : Int32) (c t : CropData) (n k : ℕ)
    (z : SmoothZoom ℚ) : Prop where
  ready : Ready stepSize maxWidth maxHeight z
  moves : Moves maxWidth c t n k z
  current : z.cropCurrent = c.stepAt t n k
  source : c.On maxWidth maxHeight
  dest : t.On maxWidth maxHeight
  count : CropData.steps stepSize maxWidth c t = n
  passes : CropData.Passes stepSize maxWidth c t
  started : 0 < k
  le : k ≤ n

theorem Goes.begin_eq (h : Goes stepSize maxWidth maxHeight c t n k z) : z.begin ratOps m = z := by
  have hsteps := h.moves.steps
  have hle := h.le
  have hnot : ¬ z.zoomSteps < 0 := by
    rw [Int32.lt_iff_toInt_lt, Int32.toInt_zero]
    omega
  unfold SmoothZoom.begin
  split
  · rw [if_neg fun hand => hnot hand.2]
  · rfl

theorem Goes.update_eq (h : Goes stepSize maxWidth maxHeight c t n k z) :
    z.update ratOps m = ((z.advance ratOps).countDown,
      { m with cropRegion := some (z.advance ratOps).cropCurrent }) := by
  have hle := h.le
  have hstarted := h.started
  obtain ⟨j, rfl⟩ : ∃ j, k = j + 1 := ⟨k - 1, by omega⟩
  have hheight := h.passes.heightAt_pos h.source h.dest h.count (k := j) (by omega)
  have hcurrent : 0 < z.cropCurrent.width.toInt ∧ 0 < z.cropCurrent.height.toInt := by
    rw [h.current]
    constructor
    · change 0 < (Int32.ofInt _).toInt
      rw [SignedWord.toInt_ofInt (h.source.widthAt_fits h.dest hle)]
      exact h.source.widthAt_pos h.dest hle
    · change 0 < (Int32.ofInt _).toInt
      rw [SignedWord.toInt_ofInt hheight.2]
      exact hheight.1
  have htarget : 0 < z.cropTarget.width.toInt ∧ 0 < z.cropTarget.height.toInt := by
    rw [h.moves.target]
    exact ⟨h.dest.width, h.dest.height⟩
  rw [h.ready.update_eq hcurrent htarget, h.begin_eq]

theorem Ready.advance (h : Ready stepSize maxWidth maxHeight z) :
    Ready stepSize maxWidth maxHeight (z.advance ratOps).countDown := by
  unfold SmoothZoom.advance countDown
  repeat' split
  all_goals exact ⟨h.enable, h.width, h.height, h.size, h.pos, h.widthPos, h.heightPos⟩

theorem cropCurrent_countDown : z.countDown.cropCurrent = z.cropCurrent := by
  unfold countDown
  split
  · rfl
  · rfl

/-- One more step of a transition. -/
theorem Goes.update_next (h : Goes stepSize maxWidth maxHeight c t n k z) (hk : k < n) :
    Goes stepSize maxWidth maxHeight c t n (k + 1) (z.update ratOps m).1 ∧
      (z.update ratOps m).2 = { m with cropRegion := some (c.stepAt t n (k + 1)) } := by
  have hlt := (h.passes.2 k (by rw [h.count]; exact hk)).2
  rw [h.count] at hlt
  have hcurrent := h.moves.cropCurrent_advance h.ready hk h.source h.dest hlt
  rw [h.update_eq, hcurrent]
  refine ⟨⟨h.ready.advance, h.moves.advance hk, ?_, h.source, h.dest, h.count, h.passes,
    Nat.succ_pos k, hk⟩, rfl⟩
  rw [cropCurrent_countDown]
  exact hcurrent

/-- Without a step to go, the target is reached. -/
theorem Ready.advance_of_zero (h : Ready stepSize maxWidth maxHeight z) (hsteps : z.zoomSteps = 0)
    (ht : z.cropTarget.On maxWidth maxHeight) :
    Rests stepSize maxWidth maxHeight (z.advance ratOps).countDown ∧
      (z.advance ratOps).cropCurrent = z.cropTarget := by
  have hadvance : z.advance ratOps = { z with cropCurrent := z.cropTarget } := by
    unfold SmoothZoom.advance
    rw [hsteps]
    rfl
  have hdown : (z.advance ratOps).countDown =
      { z with cropCurrent := z.cropTarget, zoomSteps := -1 } := by
    rw [hadvance]
    unfold countDown
    rw [hsteps]
    rfl
  refine ⟨⟨h.advance, ?_, ?_, ?_⟩, ?_⟩
  · rw [hdown]
  · rw [hdown]
  · rw [hdown]
    exact ht
  · rw [hadvance]

/-- The end of a transition. -/
theorem Goes.update_last (h : Goes stepSize maxWidth maxHeight c t n n z) :
    Rests stepSize maxWidth maxHeight (z.update ratOps m).1 ∧
      (z.update ratOps m).1.cropCurrent = t ∧
      (z.update ratOps m).2 = { m with cropRegion := some t } := by
  have hsteps : z.zoomSteps = 0 := by
    rw [← Int32.toInt_inj, h.moves.steps, sub_self]
    rfl
  have htarget := h.moves.target
  obtain ⟨hrests, hcurrent⟩ := h.ready.advance_of_zero hsteps (htarget ▸ h.dest)
  rw [htarget] at hcurrent
  rw [h.update_eq, hcurrent]
  exact ⟨hrests, by rw [cropCurrent_countDown]; exact hcurrent, rfl⟩

theorem Rests.update_eq (h : Rests stepSize maxWidth maxHeight z) :
    z.update ratOps m = (((z.begin ratOps m).advance ratOps).countDown,
      { m with cropRegion := some ((z.begin ratOps m).advance ratOps).cropCurrent }) := by
  have hcurrent : 0 < z.cropCurrent.width.toInt ∧ 0 < z.cropCurrent.height.toInt :=
    ⟨h.on.width, h.on.height⟩
  exact h.ready.update_eq hcurrent (h.target ▸ hcurrent)

/-- Another crop begins a transition to where it is clamped to. -/
theorem Rests.begin_eq (h : Rests stepSize maxWidth maxHeight z) (hm : m.cropRegion = some crop)
    (hne : crop ≠ z.cropCurrent) : z.begin ratOps m = z.configure ratOps crop := by
  have hlt : z.zoomSteps < 0 := by
    rw [h.steps]
    decide
  simp [SmoothZoom.begin, hm, hne, hlt]

/-- The first update after a request with another crop: it reaches the target at once, or does the first
step of a transition that gets through. -/
theorem Rests.update_other (h : Rests stepSize maxWidth maxHeight z)
    (hm : m.cropRegion = some crop) (hne : crop ≠ z.cropCurrent) (hclamp : z.clamp crop = t)
    (ht : t.On maxWidth maxHeight) (hpasses : CropData.Passes stepSize maxWidth z.cropCurrent t) :
    (Rests stepSize maxWidth maxHeight (z.update ratOps m).1 ∧
      (z.update ratOps m).1.cropCurrent = t ∧
      (z.update ratOps m).2 = { m with cropRegion := some t }) ∨
    ∃ n, Goes stepSize maxWidth maxHeight z.cropCurrent t n 1 (z.update ratOps m).1 ∧
      (z.update ratOps m).2 = { m with cropRegion := some (z.cropCurrent.stepAt t n 1) } := by
  subst hclamp
  rw [h.update_eq, h.begin_eq hm hne]
  have hready : Ready stepSize maxWidth maxHeight (z.configure ratOps crop) := h.ready.configure
  by_cases hzero : CropData.steps stepSize maxWidth z.cropCurrent (z.clamp crop) = 0
  · left
    have hsteps := h.ready.configure_jumps hzero
    obtain ⟨hrests, hcurrent⟩ := hready.advance_of_zero hsteps (configure_cropTarget ▸ ht)
    rw [configure_cropTarget] at hcurrent
    rw [hcurrent]
    exact ⟨hrests, by rw [cropCurrent_countDown]; exact hcurrent, rfl⟩
  · right
    have hmoves := h.ready.configure_moves rfl hzero hpasses.1 ⟨h.on.left, h.on.top⟩
      ⟨ht.left, ht.top⟩
    have hpos := Nat.pos_of_ne_zero hzero
    have hcurrent := hmoves.cropCurrent_advance hready hpos h.on ht (hpasses.2 0 hpos).2
    refine ⟨_, ⟨hready.advance, hmoves.advance hpos, ?_, h.on, ht, rfl, hpasses, Nat.one_pos, hpos⟩, ?_⟩
    · rw [cropCurrent_countDown]
      exact hcurrent
    · rw [hcurrent]

/-- A request with the crop that is there changes nothing. -/
theorem Rests.update_same (h : Rests stepSize maxWidth maxHeight z)
    (hm : m.cropRegion = some z.cropCurrent) : z.update ratOps m = (z, m) := by
  have hw : z.maxWidth ≠ 0 := h.ready.width ▸ ne_zero_of_pos h.ready.widthPos
  have hh : z.maxHeight ≠ 0 := h.ready.height ▸ ne_zero_of_pos h.ready.heightPos
  have hlt : z.zoomSteps < 0 := by
    rw [h.steps]
    decide
  exact update_at_rest ⟨hw, hh⟩ hlt hm h.target

/-- Without a step size nothing is written. -/
theorem update_of_nonpos (h : z.zoomStepSize ≤ 0) :
    (z.update ratOps m).2 = m ∧ (z.update ratOps m).1.zoomStepSize = z.zoomStepSize := by
  have hlearn : (z.learn m).zoomStepSize = z.zoomStepSize := by
    unfold learn
    split
    · cases m.activeArraySize <;> cases m.cropRegion <;> rfl
    · rfl
  have hunusable : (z.learn m).unusable ratOps = true := by
    simp [unusable, ratOps, hlearn, h]
  unfold update
  split
  · exact ⟨rfl, rfl⟩
  · simp only [hunusable, if_true]
    exact ⟨trivial, hlearn⟩

/-- Where the far ends can be computed and the origin is not negative, the target is the crop clamped to the
array. -/
theorem Ready.clamp_eq_onto (h : Ready stepSize maxWidth maxHeight z)
    (horigin : 0 ≤ crop.left.toInt ∧ 0 ≤ crop.top.toInt)
    (hsize : 0 < crop.width.toInt ∧ 0 < crop.height.toInt)
    (hright : crop.left.toInt + (min crop.width maxWidth).toInt < 2147483648)
    (hbottom : crop.top.toInt + (min crop.height maxHeight).toInt < 2147483648) :
    z.clamp crop = crop.onto maxWidth maxHeight := by
  have hw := CropData.toInt_min_le crop.width maxWidth
  have hh := CropData.toInt_min_le crop.height maxHeight
  have hwpos := h.widthPos
  have hhpos := h.heightPos
  unfold clamp CropData.onto
  rw [h.width, h.height, ← CropData.min_eq_ite, ← CropData.min_eq_ite]
  dsimp only
  rw [CropData.moved_inside horigin.1 (by omega) hw.2.1 hright,
    CropData.moved_inside horigin.2 (by omega) hh.2.1 hbottom]

/-- The state before the first request. -/
structure Fresh (stepSize : ℚ) (z : SmoothZoom ℚ) : Prop where
  enable : z.enable = true
  width : z.maxWidth = 0
  size : z.zoomStepSize = stepSize
  steps : z.zoomSteps = 0

/-- The first request is taken as it is. -/
theorem Fresh.update_eq (h : Fresh stepSize z) (hpos : 0 < stepSize) {size : CropData}
    (hsize : m.activeArraySize = some size) (hm : m.cropRegion = some crop)
    (hon : crop.On size.width size.height) :
    Rests stepSize size.width size.height (z.update ratOps m).1 ∧
      (z.update ratOps m).1.cropCurrent = crop ∧ (z.update ratOps m).2 = m := by
  have hlearn : z.learn m = { z with
      maxWidth := size.width, maxHeight := size.height, cropCurrent := crop, cropTarget := crop } := by
    simp [learn, h.width, hsize, hm]
  have hright := hon.right
  have hbottom := hon.bottom
  have hready : Ready stepSize size.width size.height (z.learn m) := by
    rw [hlearn]
    have hleft := hon.left
    have htop := hon.top
    have hw := hon.width
    have hh := hon.height
    exact ⟨h.enable, rfl, rfl, h.size, hpos, by omega, by omega⟩
  have hcurrent : (z.learn m).cropCurrent = crop := by rw [hlearn]
  have htarget : (z.learn m).cropTarget = crop := by rw [hlearn]
  have hsizes : 0 < crop.width.toInt ∧ 0 < crop.height.toInt := ⟨hon.width, hon.height⟩
  have hsame : z.update ratOps m = (z.learn m).update ratOps m := by
    simp only [update, h.enable, hready.enable, hready.learn_eq, Bool.not_true, Bool.false_eq_true,
      if_false]
  have hbegin : (z.learn m).begin ratOps m = z.learn m := by simp [SmoothZoom.begin, hm, hcurrent]
  have hsteps : (z.learn m).zoomSteps = 0 := by rw [hlearn, h.steps]
  obtain ⟨hrests, hreached⟩ := hready.advance_of_zero hsteps (htarget.symm ▸ hon)
  rw [htarget] at hreached
  rw [hsame, hready.update_eq (hcurrent.symm ▸ hsizes) (htarget.symm ▸ hsizes), hbegin, hreached, ← hm]
  exact ⟨hrests, by rw [cropCurrent_countDown]; exact hreached, rfl⟩

end SmoothZoom

end QmmfSdk.Camera3
