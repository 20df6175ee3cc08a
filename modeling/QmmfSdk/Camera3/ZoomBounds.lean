import QmmfSdk.Camera3.ZoomArithmetic
import QmmfSdk.Library.Transition

/-! Whether the crops that smooth zoom writes lie on the sensor. -/
namespace QmmfSdk.Camera3

open Library
open SettingsLoops (ratOps)

namespace CropData

variable {stepSize : ℚ} {maxWidth maxHeight : Int32} {c t : CropData} {n k : ℕ}

theorem On.leftAt_add_widthAt_le (hc : c.On maxWidth maxHeight) (ht : t.On maxWidth maxHeight)
    (hk : k ≤ n) : leftAt c t n k + widthAt c t n k ≤ maxWidth.toInt :=
  lerpFloor_add_le.trans (lerpFloor_le hk hc.right ht.right)

theorem On.leftAt_nonneg (hc : c.On maxWidth maxHeight) (ht : t.On maxWidth maxHeight)
    (hk : k ≤ n) : 0 ≤ leftAt c t n k :=
  le_lerpFloor hk hc.left ht.left

theorem On.topAt_nonneg (hc : c.On maxWidth maxHeight) (ht : t.On maxWidth maxHeight)
    (hk : k ≤ n) : 0 ≤ topAt c t n k :=
  le_lerpFloor hk hc.top ht.top

/-- A step of a transition whose lines end within the array. -/
theorem On.stepAt (hc : c.On maxWidth maxHeight) (ht : t.On maxWidth maxHeight)
    (hn : steps stepSize maxWidth c t = n) (hpasses : Passes stepSize maxWidth c t)
    (hends : Ends stepSize maxWidth maxHeight c t) (hk : k < n) :
    (c.stepAt t n (k + 1)).On maxWidth maxHeight := by
  have hk' : k + 1 ≤ n := hk
  obtain ⟨hheight, hfits⟩ := hpasses.heightAt_pos hc ht hn hk
  have hbottom := hends k (by rw [hn]; exact hk)
  rw [hn] at hbottom
  have hwpos := hc.widthAt_pos ht hk'
  have hright := hc.leftAt_add_widthAt_le ht hk'
  have hleft := hc.leftAt_nonneg ht hk'
  have htop := hc.topAt_nonneg ht hk'
  have hW := maxWidth.toInt_lt
  have hH := maxHeight.toInt_lt
  have hl : (c.stepAt t n (k + 1)).left.toInt = leftAt c t n (k + 1) :=
    SignedWord.toInt_ofInt ⟨hleft, by omega⟩
  have htp : (c.stepAt t n (k + 1)).top.toInt = topAt c t n (k + 1) :=
    SignedWord.toInt_ofInt ⟨htop, by omega⟩
  have hw : (c.stepAt t n (k + 1)).width.toInt = widthAt c t n (k + 1) :=
    SignedWord.toInt_ofInt (hc.widthAt_fits ht hk')
  have hh : (c.stepAt t n (k + 1)).height.toInt = heightAt c t n (k + 1) :=
    SignedWord.toInt_ofInt hfits
  exact ⟨by omega, by omega, by omega, by omega, by omega, by omega⟩

/-- A transition stays within the array when the crop that it begins with, given the proportion of the
target, has a line at least and ends within the array. -/
theorem On.passes_and_ends (hc : c.On maxWidth maxHeight) (ht : t.On maxWidth maxHeight)
    (hsteps : steps stepSize maxWidth c t < 2147483648)
    (harea : maxWidth.toInt * maxHeight.toInt < 2147483648)
    (hline : t.width.toInt ≤ c.width.toInt * t.height.toInt)
    (hend : c.top.toInt * t.width.toInt + c.width.toInt * t.height.toInt ≤
      maxHeight.toInt * t.width.toInt) :
    c.Passes stepSize maxWidth t ∧ c.Ends stepSize maxWidth maxHeight t := by
  have hheight : t.height.toInt ≤ maxHeight.toInt := by
    have htop := ht.top
    have hbottom := ht.bottom
    omega
  refine ⟨⟨hsteps, fun k hk => ⟨?_, ?_⟩⟩, fun k hk => ?_⟩
  · have hmin : min c.width.toInt t.width.toInt ≤ widthAt c t (steps stepSize maxWidth c t) (k + 1) :=
      le_lerpFloor hk (min_le_left _ _) (min_le_right _ _)
    calc t.width.toInt ≤ min c.width.toInt t.width.toInt * t.height.toInt := by
          rcases min_cases c.width.toInt t.width.toInt with ⟨heq, -⟩ | ⟨heq, -⟩
          · rw [heq]
            exact hline
          · rw [heq]
            exact le_mul_of_one_le_right ht.width.le ht.height
      _ ≤ _ := mul_le_mul_of_nonneg_right hmin ht.height.le
  · calc widthAt c t (steps stepSize maxWidth c t) (k + 1) * t.height.toInt
        ≤ maxWidth.toInt * maxHeight.toInt :=
          mul_le_mul (hc.widthAt_le ht hk) hheight ht.height.le
            ((hc.widthAt_pos ht hk).le.trans (hc.widthAt_le ht hk))
      _ < 2147483648 := harea
  · have hquot : heightAt c t (steps stepSize maxWidth c t) (k + 1) * t.width.toInt ≤
        widthAt c t (steps stepSize maxWidth c t) (k + 1) * t.height.toInt :=
      Int.ediv_mul_le _ ht.width.ne'
    have hsum : ((topAt c t (steps stepSize maxWidth c t) (k + 1) * t.width.toInt +
        widthAt c t (steps stepSize maxWidth c t) (k + 1) * t.height.toInt : ℤ) : ℚ) ≤
        ((maxHeight.toInt * t.width.toInt : ℤ) : ℚ) := by
      have htop : (topAt c t (steps stepSize maxWidth c t) (k + 1) : ℚ) ≤ _ := lerpFloor_le_lerp
      have hwidth : (widthAt c t (steps stepSize maxWidth c t) (k + 1) : ℚ) ≤ _ := lerpFloor_le_lerp
      have hbottom : t.top.toInt * t.width.toInt + t.width.toInt * t.height.toInt ≤
          maxHeight.toInt * t.width.toInt := by
        rw [mul_comm t.width.toInt t.height.toInt, ← add_mul]
        exact mul_le_mul_of_nonneg_right ht.bottom ht.width.le
      push_cast
      calc (topAt c t (steps stepSize maxWidth c t) (k + 1) : ℚ) * t.width.toInt +
            widthAt c t (steps stepSize maxWidth c t) (k + 1) * t.height.toInt
          ≤ lerp (c.top.toInt : ℚ) t.top.toInt (steps stepSize maxWidth c t) (k + 1) * t.width.toInt +
            lerp (c.width.toInt : ℚ) t.width.toInt (steps stepSize maxWidth c t) (k + 1) *
              t.height.toInt :=
            add_le_add (mul_le_mul_of_nonneg_right htop (Int.cast_nonneg ht.width.le))
              (mul_le_mul_of_nonneg_right hwidth (Int.cast_nonneg ht.height.le))
        _ = lerp ((t.width.toInt : ℚ) * c.top.toInt + t.height.toInt * c.width.toInt)
            (t.width.toInt * t.top.toInt + t.height.toInt * t.width.toInt)
            (steps stepSize maxWidth c t) (k + 1) := by
          rw [mul_comm _ (t.width.toInt : ℚ), mul_comm _ (t.height.toInt : ℚ), mul_lerp, mul_lerp,
            lerp_add]
        _ ≤ maxHeight.toInt * t.width.toInt := by
          refine lerp_le hk ?_ ?_
          · rw [mul_comm, mul_comm (t.height.toInt : ℚ)]
            exact_mod_cast hend
          · rw [mul_comm, mul_comm (t.height.toInt : ℚ)]
            exact_mod_cast hbottom
    have htotal := Int.cast_le.mp hsum
    have hmul : (topAt c t (steps stepSize maxWidth c t) (k + 1) +
        heightAt c t (steps stepSize maxWidth c t) (k + 1)) * t.width.toInt ≤
        maxHeight.toInt * t.width.toInt := by
      rw [add_mul]
      omega
    exact le_of_mul_le_mul_right hmul ht.width

/-- A transition that keeps the proportion stays within the array. -/
theorem On.passes_and_ends_of_proportion (hc : c.On maxWidth maxHeight)
    (ht : t.On maxWidth maxHeight) (hsteps : steps stepSize maxWidth c t < 2147483648)
    (harea : maxWidth.toInt * maxHeight.toInt < 2147483648)
    (hproportion : c.width.toInt * t.height.toInt = c.height.toInt * t.width.toInt) :
    c.Passes stepSize maxWidth t ∧ c.Ends stepSize maxWidth maxHeight t := by
  refine hc.passes_and_ends ht hsteps harea ?_ ?_
  · rw [hproportion]
    exact le_mul_of_one_le_left ht.width.le hc.height
  · rw [hproportion, ← add_mul]
    exact mul_le_mul_of_nonneg_right hc.bottom ht.width.le

end CropData

namespace SmoothZoom

variable {stepSize : ℚ} {size c : CropData} {z : SmoothZoom ℚ} {m : CameraSettings}
  {ms : List CameraSettings} {enable : Bool}

/-- `Update` of one request. -/
def updateStep (z : SmoothZoom ℚ) (m : CameraSettings) : Option (SmoothZoom ℚ) :=
  some (z.update ratOps m).1

/-- `Update` of one request after the other. -/
def updates : LTS (SmoothZoom ℚ) CameraSettings := .ofStep updateStep

/-- A request names the array and a crop on it. -/
def Asks (size : CropData) (m : CameraSettings) : Prop :=
  m.activeArraySize = some size ∧ ∃ c, m.cropRegion = some c ∧ c.On size.width size.height

/-- When a request would begin a transition, it is one that gets through and whose lines end within the
array at each step. -/
def StaysWithin (size : CropData) (z : SmoothZoom ℚ) (m : CameraSettings) : Prop :=
  z.zoomSteps < 0 → ∀ c ∈ m.cropRegion,
    z.cropCurrent.Passes z.zoomStepSize size.width c ∧
      z.cropCurrent.Ends z.zoomStepSize size.width size.height c

/-- The states of smooth zoom in which the crop stays on the array: turned off, without a step size, before
the first request, at rest, or in a transition whose lines end within the array. -/
inductive Safe (size : CropData) (z : SmoothZoom ℚ) : Prop where
  | off (h : z.enable = false)
  | still (h : z.zoomStepSize ≤ 0)
  | fresh {stepSize : ℚ} (hpos : 0 < stepSize) (h : Fresh stepSize z)
  | rests {stepSize : ℚ} (h : Rests stepSize size.width size.height z)
  | goes {stepSize : ℚ} {c t : CropData} {n k : ℕ}
      (h : Goes stepSize size.width size.height c t n k z)
      (hends : c.Ends stepSize size.width size.height t)

theorem update_of_disabled (h : z.enable = false) : z.update ratOps m = (z, m) := by
  simp [update, h]

/-- A crop that is on the array is clamped to itself. -/
theorem Ready.clamp_of_on {maxWidth maxHeight : Int32} (h : Ready stepSize maxWidth maxHeight z)
    (hc : c.On maxWidth maxHeight) : z.clamp c = c := by
  have hright := hc.right
  have hbottom := hc.bottom
  have hw := CropData.toInt_min_le c.width maxWidth
  have hh := CropData.toInt_min_le c.height maxHeight
  have hwlt := maxWidth.toInt_lt
  have hhlt := maxHeight.toInt_lt
  rw [h.clamp_eq_onto ⟨hc.left, hc.top⟩ ⟨hc.width, hc.height⟩ (by omega) (by omega), hc.onto_eq]

/-- One update keeps the crop on the array. -/
theorem Safe.update (h : Safe size z) (hm : Asks size m) (hstays : StaysWithin size z m) :
    Safe size (z.update ratOps m).1 ∧
      ∀ c ∈ (z.update ratOps m).2.cropRegion, c.On size.width size.height := by
  obtain ⟨hsize, crop, hcrop, hon⟩ := hm
  have hasked : ∀ c ∈ m.cropRegion, c.On size.width size.height := by
    intro c hc
    obtain rfl := Option.some.inj (hcrop.symm.trans hc)
    exact hon
  cases h with
  | off h =>
    rw [update_of_disabled h]
    exact ⟨.off h, hasked⟩
  | still h =>
    obtain ⟨hsame, hstep⟩ := update_of_nonpos (m := m) h
    rw [hsame]
    exact ⟨.still (hstep.symm ▸ h), hasked⟩
  | fresh hpos h =>
    obtain ⟨hrests, -, hsame⟩ := h.update_eq hpos hsize hcrop hon
    rw [hsame]
    exact ⟨.rests hrests, hasked⟩
  | rests h =>
    by_cases hne : crop = z.cropCurrent
    · rw [h.update_same (hne ▸ hcrop)]
      exact ⟨.rests h, hasked⟩
    · have hlt : z.zoomSteps < 0 := by
        rw [h.steps]
        decide
      obtain ⟨hpasses, hends⟩ := hstays hlt crop hcrop
      rw [h.ready.size] at hpasses hends
      have hclamp := h.ready.clamp_of_on hon
      rcases h.update_other hcrop hne hclamp hon hpasses with ⟨hrests, -, heq⟩ | ⟨n, hgoes, heq⟩
      · rw [heq]
        refine ⟨.rests hrests, fun c hc => ?_⟩
        obtain rfl := Option.some.inj hc
        exact hon
      · rw [heq]
        refine ⟨.goes hgoes hends, fun c hc => ?_⟩
        obtain rfl := Option.some.inj hc
        exact h.on.stepAt hon hgoes.count hpasses hends hgoes.le
  | @goes _ c t n k h hends =>
    by_cases hk : k < n
    · obtain ⟨hgoes, heq⟩ := h.update_next (m := m) hk
      rw [heq]
      refine ⟨.goes hgoes hends, fun d hd => ?_⟩
      obtain rfl := Option.some.inj hd
      exact h.source.stepAt h.dest h.count h.passes hends hk
    · obtain rfl : k = n := by
        have hle := h.le
        omega
      obtain ⟨hrests, -, heq⟩ := h.update_last (m := m)
      rw [heq]
      refine ⟨.rests hrests, fun d hd => ?_⟩
      obtain rfl := Option.some.inj hd
      exact h.dest

theorem safe_init : Safe size { init ratOps stepSize with enable } := by
  cases enable with
  | false => exact .off rfl
  | true =>
    by_cases hpos : 0 < stepSize
    · exact .fresh hpos ⟨rfl, rfl, rfl, rfl⟩
    · exact .still (not_lt.mp hpos)

theorem safe_step : (updates.guarded fun z m => Asks size m ∧ StaysWithin size z m).TrInv
    (Safe size) := by
  rintro z m z' ⟨hstep, hm, hstays⟩ hs
  obtain rfl := Option.some.inj hstep
  exact (hs.update hm hstays).1

/-- As long as each request that begins a transition is one that stays within the array, every crop that is
written is of positive size and on the array. -/
theorem written_on
    (h : (updates.guarded fun z m => Asks size m ∧ StaysWithin size z m).MTr
      { init ratOps stepSize with enable } ms z)
    (hm : Asks size m) (hstays : StaysWithin size z m) :
    ∀ c ∈ (z.update ratOps m).2.cropRegion, c.On size.width size.height :=
  ((LTS.inv_of_mTr safe_step h safe_init).update hm hstays).2

instance : Decidable (Asks size m) :=
  inferInstanceAs (Decidable (_ ∧ ∃ c, m.cropRegion = some c ∧ _))

instance : Decidable (StaysWithin size z m) :=
  inferInstanceAs (Decidable (_ → ∀ c ∈ m.cropRegion, _))

/-- A request with a crop, on an array of 4000 by 3000. -/
def ask (crop : CropData) : CameraSettings where
  activeArraySize := some ⟨0, 0, 4000, 3000⟩
  cropRegion := some crop

/-- Zooming in by two with the default step size: a transition of five steps. -/
def zoomInRun : List CameraSettings := [ask ⟨0, 0, 4000, 3000⟩, ask ⟨1000, 750, 2000, 1500⟩]

theorem written_on_zoomIn : ∃ z : SmoothZoom ℚ,
    (updates.guarded fun z m => Asks ⟨0, 0, 4000, 3000⟩ m ∧ StaysWithin ⟨0, 0, 4000, 3000⟩ z m).MTr
        { init ratOps (1 / 10) with enable := true } zoomInRun z ∧
      (z.update ratOps (ask ⟨200, 150, 3600, 2700⟩)).2.cropRegion = some ⟨400, 300, 3200, 2400⟩ ∧
      ∀ c ∈ (z.update ratOps (ask ⟨200, 150, 3600, 2700⟩)).2.cropRegion, c.On 4000 3000 := by
  have hcrop : (LTS.run updateStep { init ratOps (1 / 10) with enable := true } zoomInRun).map (fun z =>
        ((z.update ratOps (ask ⟨200, 150, 3600, 2700⟩)).2.cropRegion, decide (z.zoomSteps < 0))) =
      some (some ⟨400, 300, 3200, 2400⟩, false) := by decide +kernel
  obtain ⟨z, hz, hfields⟩ := Option.map_eq_some_iff.mp hcrop
  obtain ⟨hwritten, hgoing⟩ := Prod.mk.inj hfields
  have hmeets : LTS.Meets updateStep
      (fun z m => Asks ⟨0, 0, 4000, 3000⟩ m ∧ StaysWithin ⟨0, 0, 4000, 3000⟩ z m)
      { init ratOps (1 / 10) with enable := true } zoomInRun := by decide +kernel
  have hrun := LTS.mTr_guarded_iff.mpr ⟨hz, hmeets⟩
  exact ⟨z, hrun, hwritten, written_on hrun (by decide) fun hlt => by simp [hlt] at hgoing⟩

/-- From a wide crop at the bottom to a tall one: the first step has the target's proportion and most of
the width. -/
def wideToTallRun : List CameraSettings := [ask ⟨0, 2500, 4000, 500⟩]

/-- The crop of that step has more lines than the array. -/
theorem written_beyond_array : ¬ ∀ (enable : Bool) (stepSize : ℚ) (size : CropData)
    (ms : List CameraSettings) (z : SmoothZoom ℚ) (m : CameraSettings),
      (updates.guarded fun _ m => Asks size m).MTr { init ratOps stepSize with enable } ms z →
        Asks size m → ∀ c ∈ (z.update ratOps m).2.cropRegion, c.On size.width size.height := by
  intro hall
  have hcrop : (LTS.run updateStep { init ratOps (1 / 10) with enable := true } wideToTallRun).map
      (fun z => (z.update ratOps (ask ⟨0, 0, 1000, 3000⟩)).2.cropRegion) =
      some (some ⟨0, 2142, 3571, 10713⟩) := by decide +kernel
  obtain ⟨z, hz, hwritten⟩ := Option.map_eq_some_iff.mp hcrop
  have hmeets : LTS.Meets updateStep (fun _ m => Asks ⟨0, 0, 4000, 3000⟩ m)
      { init ratOps (1 / 10) with enable := true } wideToTallRun := by decide +kernel
  have hon := hall true (1 / 10) ⟨0, 0, 4000, 3000⟩ _ z (ask ⟨0, 0, 1000, 3000⟩)
    (LTS.mTr_guarded_iff.mpr ⟨hz, hmeets⟩) (by decide) _ hwritten
  revert hon
  decide

end SmoothZoom

end QmmfSdk.Camera3
