import QmmfSdk.Library.OrdMap

/-! `Camera3SmoothZoom`: a new crop region of a repeating request is reached in steps, which are written
into the request itself. -/
namespace QmmfSdk.Camera3

open Library

structure CropData where
  left : Int32 := 0
  top : Int32 := 0
  width : Int32 := 0
  height : Int32 := 0
  deriving DecidableEq, Repr

/-- The settings of a request by tag. Its id and its streams are among them, and the active array comes
as a region like the crop. -/
@[ext]
structure CameraSettings where
  activeArraySize : Option CropData := none
  cropRegion : Option CropData := none
  requestId : Option Int := none
  outputStreams : List Nat := []
  inputStreams : Bool := false
  others : OrdMap UInt32 (List UInt8) := ∅
  deriving DecidableEq

/-- The arithmetic of `float`; `toInt` is the conversion to `int32_t`. -/
structure FloatOps (F : Type) where
  ofInt : Int32 → F
  add : F → F → F
  sub : F → F → F
  mul : F → F → F
  div : F → F → F
  abs : F → F
  toInt : F → Int32
  nonpos : F → Bool

structure SmoothZoom (F : Type) where
  enable : Bool := false
  maxWidth : Int32 := 0
  maxHeight : Int32 := 0
  zoomFactor : F
  zoomStepSize : F
  zoomStep : F
  zoomSteps : Int32 := 0
  leftOffset : F
  topOffset : F
  leftStep : F
  topStep : F
  cropCurrent : CropData := {}
  cropTarget : CropData := {}

namespace SmoothZoom

variable {F : Type}

/-- The constructor; the size of a step comes from a property. -/
def init (fl : FloatOps F) (stepSize : F) : SmoothZoom F where
  zoomFactor := fl.ofInt 1
  zoomStepSize := stepSize
  zoomStep := fl.ofInt 0
  leftOffset := fl.ofInt 0
  topOffset := fl.ofInt 0
  leftStep := fl.ofInt 0
  topStep := fl.ofInt 0

def isGoing (z : SmoothZoom F) : Bool :=
  z.zoomSteps ≥ 0

/-- The first request with the size of the array sets it, and the crop to begin with. -/
def learn (z : SmoothZoom F) (m : CameraSettings) : SmoothZoom F :=
  if z.maxWidth = 0 ∨ z.maxHeight = 0 then
    let z := match m.activeArraySize with
      | some size => { z with maxWidth := size.width, maxHeight := size.height }
      | none => z
    match m.cropRegion with
    | some crop => { z with cropCurrent := crop, cropTarget := crop }
    | none => z
  else z

def unusable (fl : FloatOps F) (z : SmoothZoom F) : Bool :=
  z.maxWidth ≤ 0 || z.maxHeight ≤ 0 || z.cropCurrent.width ≤ 0 || z.cropCurrent.height ≤ 0 ||
    z.cropTarget.width ≤ 0 || z.cropTarget.height ≤ 0 || fl.nonpos z.zoomStepSize

/-- The target inside the array. -/
def clamp (z : SmoothZoom F) (crop : CropData) : CropData :=
  let width := if crop.width > z.maxWidth then z.maxWidth else crop.width
  let height := if crop.height > z.maxHeight then z.maxHeight else crop.height
  { left := if crop.left + width > z.maxWidth then z.maxWidth - width else crop.left
    top := if crop.top + height > z.maxHeight then z.maxHeight - height else crop.top
    width, height }

/-- A transition to a crop that the request asks for. -/
def configure (fl : FloatOps F) (z : SmoothZoom F) (crop : CropData) : SmoothZoom F :=
  let target := z.clamp crop
  let zoomTarget := fl.div (fl.ofInt target.width) (fl.ofInt z.maxWidth)
  let zoomFactor := fl.div (fl.ofInt z.cropCurrent.width) (fl.ofInt z.maxWidth)
  let way := fl.sub zoomTarget zoomFactor
  let steps := fl.toInt (fl.abs (fl.div way z.zoomStepSize))
  let z := { z with cropTarget := target, zoomFactor, zoomSteps := steps }
  if steps ≠ 0 then
    { z with
      zoomStep := fl.div way (fl.ofInt steps)
      leftOffset := fl.ofInt z.cropCurrent.left
      topOffset := fl.ofInt z.cropCurrent.top
      leftStep := fl.div (fl.ofInt (target.left - z.cropCurrent.left)) (fl.ofInt steps)
      topStep := fl.div (fl.ofInt (target.top - z.cropCurrent.top)) (fl.ofInt steps) }
  else { z with zoomStep := fl.ofInt 0, leftStep := fl.ofInt 0, topStep := fl.ofInt 0 }

/-- Only while no transition is on does a crop that is not the current one begin another. -/
def begin (fl : FloatOps F) (z : SmoothZoom F) (m : CameraSettings) : SmoothZoom F :=
  match m.cropRegion with
  | some crop => if crop ≠ z.cropCurrent ∧ z.zoomSteps < 0 then z.configure fl crop else z
  | none => z

/-- One step of the transition. -/
def advance (fl : FloatOps F) (z : SmoothZoom F) : SmoothZoom F :=
  if z.zoomSteps ≤ 0 then { z with cropCurrent := z.cropTarget }
  else
    let zoomFactor := fl.add z.zoomFactor z.zoomStep
    let leftOffset := fl.add z.leftOffset z.leftStep
    let topOffset := fl.add z.topOffset z.topStep
    let width := fl.toInt (fl.mul (fl.ofInt z.maxWidth) zoomFactor)
    { z with
      zoomFactor, leftOffset, topOffset
      cropCurrent :=
        { left := fl.toInt leftOffset
          top := fl.toInt topOffset
          width
          height := width * z.cropTarget.height / z.cropTarget.width } }

def countDown (z : SmoothZoom F) : SmoothZoom F :=
  if z.zoomSteps ≥ 0 then { z with zoomSteps := z.zoomSteps - 1 } else z

/-- `Update`: the zoom and the settings of the request after it. -/
def update (fl : FloatOps F) (z : SmoothZoom F) (m : CameraSettings) : SmoothZoom F × CameraSettings :=
  if !z.enable then (z, m)
  else
    let z := z.learn m
    if z.unusable fl then (z, m)
    else
      let z := (z.begin fl m).advance fl
      (z.countDown, { m with cropRegion := some z.cropCurrent })

variable {fl : FloatOps F} {z : SmoothZoom F} {m : CameraSettings}

/-- Where no transition is on and the request has the crop that was reached, nothing changes. -/
theorem update_at_rest (hmax : z.maxWidth ≠ 0 ∧ z.maxHeight ≠ 0) (hrest : z.zoomSteps < 0)
    (hcrop : m.cropRegion = some z.cropCurrent) (htarget : z.cropTarget = z.cropCurrent) :
    z.update fl m = (z, m) := by
  have hlearn : z.learn m = z := by simp [learn, hmax]
  have hbegin : z.begin fl m = z := by simp [begin, hcrop]
  have hadvance : z.advance fl = z := by
    have hle : z.zoomSteps ≤ 0 := Int32.le_of_lt hrest
    rw [advance, if_pos hle]
    cases z
    cases htarget
    rfl
  have hcount : z.countDown = z := by
    have hnot : ¬ z.zoomSteps ≥ 0 := Int32.not_le.mpr hrest
    rw [countDown, if_neg hnot]
  unfold update
  split
  · rfl
  dsimp only
  rw [hlearn]
  split
  · rfl
  · rw [hbegin, hadvance, hcount, ← hcrop]

end SmoothZoom

end QmmfSdk.Camera3
