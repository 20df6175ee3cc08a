import QmmfSdk.Overlays.Item

/-! Where in a frame the items are drawn. -/
namespace QmmfSdk.Overlays

structure DrawInfo where
  width : UInt32
  height : UInt32
  x : UInt32
  y : UInt32
  deriving DecidableEq, Repr

namespace OverlayItem

variable (item : OverlayItem) (targetWidth targetHeight : UInt32)

/-- `OVERLAYITEM_X_MARGIN_PERCENT` and `OVERLAYITEM_Y_MARGIN_PERCENT` are half a percent. -/
def margin (target : UInt32) : UInt32 := target / 200

/-- The items that have a location. -/
def place : DrawInfo :=
  let left := margin targetWidth
  let top := margin targetHeight
  let right := targetWidth - (item.width + margin targetWidth)
  let bottom := targetHeight - (item.height + margin targetHeight)
  let put (x y : UInt32) : DrawInfo := ⟨item.width, item.height, x, y⟩
  match item.locationType with
  | .topLeft => put left top
  | .topRight => put right top
  | .center => put ((targetWidth - item.width) / 2) ((targetHeight - item.height) / 2)
  | .bottomLeft => put left bottom
  | .bottomRight => put right bottom
  | .random | .none => put item.x.toUInt32 item.y.toUInt32

def kTextPercent : UInt32 := 20
def kTextMargin : UInt32 := BoundingBox.kStrokeWidth + 4

/-- A box is drawn with its name. -/
def getDrawInfo : List DrawInfo :=
  let own : DrawInfo := ⟨item.width, item.height, item.x.toUInt32, item.y.toUInt32⟩
  match item.detail with
  | .dateAndTime _ | .staticImage _ | .text _ => [item.place targetWidth targetHeight]
  | .boundingBox f =>
    let width := targetWidth * kTextPercent / 100
    [own, ⟨width, width * f.textSurface.height / f.textSurface.width,
      item.x.toUInt32 + kTextMargin, item.y.toUInt32 + kTextMargin⟩]
  | .privacyMask _ | .graph _ => [own]

end OverlayItem

end QmmfSdk.Overlays
