import QmmfSdk.Overlays.Surface

/-! The overlay items. A result of `none` is one of the ways to ruin the process: drawing without a canvas,
over its memory or under a failed assertion, destroying a canvas twice, or reading a member of the union
that the parameters do not have. -/
namespace QmmfSdk.Overlays

open Library

/-- What the surroundings answer to one call on an item. -/
structure Answers where
  surface : Outcome := .ok
  textSurface : Outcome := .ok
  /-- of the raw image file, if it can be opened -/
  fileSize : Option Nat := none
  /-- the property `persist.qmmf.overlay.stroke.width` -/
  boxStroke : UInt32 := 4
  /-- what the floating point arithmetic of a graph gives -/
  graphSurface : UInt32 × UInt32 := (480, 272)
  /-- the second that `gettimeofday` is in -/
  now : Nat := 0
  deriving DecidableEq, Repr

structure DateAndTime where
  dateTimeType : OverlayDateTimeType := ⟨.hhmm24Hr, .mmddyyyy⟩
  textColor : UInt32 := 0
  prevTime : Nat := 0
  deriving DecidableEq, Repr

structure StaticImage where
  imagePath : CString 128 := .empty
  imageType : OverlayImageType := .filePath
  imageBuffer : UInt64 := 0
  imageSize : UInt32 := 0
  deriving DecidableEq, Repr

structure BoundingBox where
  bboxColor : UInt32 := 0
  bboxName : CString 128 := .empty
  /-- its pointers have no values before `CreateSurface` -/
  textSurface : OverlaySurface := { canvas := .dangling }
  boxStrokeWidth : UInt32 := 0
  deriving DecidableEq, Repr

structure Text where
  textColor : UInt32 := 0
  text : CString 128 := .empty
  deriving DecidableEq, Repr

structure PrivacyMask where
  maskColor : UInt32 := 0
  config : OverlayPrivacyMask := .rectangle {}
  deriving DecidableEq, Repr

structure Graph where
  graphColor : UInt32 := 0
  graph : OverlayGraph := {}
  deriving DecidableEq, Repr

/-- The members of the class of an item. -/
inductive Detail where
  | dateAndTime (f : DateAndTime)
  | staticImage (f : StaticImage)
  | boundingBox (f : BoundingBox)
  | text (f : Text)
  | privacyMask (f : PrivacyMask)
  | graph (f : Graph)
  deriving DecidableEq, Repr

/-- All that a picture is made from: what `UpdateAndDraw` draws, or where an image was read. -/
inductive Picture where
  | date (type : OverlayDateTimeType) (color : UInt32) (second : Nat)
  | box (name : CString 128) (color stroke width height : UInt32)
  | text (text : CString 128) (color : UInt32)
  | mask (config : OverlayPrivacyMask) (color : UInt32) (size surface : UInt32 × UInt32)
  | graph (graph : OverlayGraph) (color : UInt32)
  | file (path : CString 128)
  | blob (buffer : UInt64) (size : UInt32)
  deriving DecidableEq, Repr

structure OverlayItem where
  x : Int32 := 0
  y : Int32 := 0
  width : UInt32 := 0
  height : UInt32 := 0
  surface : OverlaySurface := {}
  locationType : OverlayLocationType := .bottomLeft
  dirty : Bool := false
  isActive : Bool := false
  detail : Detail
  /-- What is in the memory of the surface. -/
  drawn : Option Picture := none
  deriving DecidableEq, Repr

namespace OverlayItem

variable (item : OverlayItem) (p : OverlayParam) (a : Answers)

def setRect (r : OverlayRect) : OverlayItem :=
  { item with x := r.startX, y := r.startY, width := r.width.toUInt32, height := r.height.toUInt32 }

def setSurface (size : UInt32 × UInt32) : OverlayItem :=
  { item with surface := { item.surface with width := size.1, height := size.2 } }

section

variable {item} {r : OverlayRect}

@[simp] theorem setRect_width : (item.setRect r).width = r.width.toUInt32 := rfl
@[simp] theorem setRect_height : (item.setRect r).height = r.height.toUInt32 := rfl
@[simp] theorem setRect_surface : (item.setRect r).surface = item.surface := rfl
@[simp] theorem setRect_detail : (item.setRect r).detail = item.detail := rfl

end

/-- Every canvas that is drawn on is sound, and so are the links of a graph. -/
def Drawable : Prop :=
  match item.detail with
  | .staticImage _ => True
  | .boundingBox f => item.surface.canvas.Sound ∧ f.textSurface.canvas.Sound
  | .graph f => item.surface.canvas.Sound ∧ f.graph.linksFit
  | .dateAndTime _ | .text _ | .privacyMask _ => item.surface.canvas.Sound

instance : Decidable item.Drawable := by
  unfold Drawable
  split <;> infer_instance

def paint (picture : Picture) : Option OverlayItem :=
  if item.Drawable then some { item with drawn := some picture } else none

/-- What there is to draw in the second `now`. -/
def picture (now : Nat) : Option Picture :=
  match item.detail with
  | .dateAndTime f => some (.date f.dateTimeType f.textColor now)
  | .staticImage _ => none
  | .boundingBox f =>
    some (.box f.bboxName f.bboxColor f.boxStrokeWidth item.surface.width item.surface.height)
  | .text f => some (.text f.text f.textColor)
  | .privacyMask f =>
    some (.mask f.config f.maskColor (item.width, item.height) (item.surface.width, item.surface.height))
  | .graph f => some (.graph f.graph f.graphColor)

/-- The date and time stay dirty for the next second. -/
def updateAndDraw (now : Nat) : Option OverlayItem :=
  match item.detail with
  | .dateAndTime f =>
    if !item.dirty || f.prevTime = now then some item
    else { item with detail := .dateAndTime { f with prevTime := now } }.paint
      (.date f.dateTimeType f.textColor now)
  | .staticImage _ => some item
  | .boundingBox f =>
    if !item.dirty then some item
    else { item with dirty := false }.paint
      (.box f.bboxName f.bboxColor f.boxStrokeWidth item.surface.width item.surface.height)
  | .text f =>
    if !item.dirty then some item
    else { item with dirty := false }.paint (.text f.text f.textColor)
  | .privacyMask f =>
    if !item.dirty then some item
    else { item with dirty := false }.paint
      (.mask f.config f.maskColor (item.width, item.height) (item.surface.width, item.surface.height))
  | .graph f =>
    if !item.dirty then some item
    else { item with dirty := false }.paint (.graph f.graph f.graphColor)

/-- `OverlayItem::DestroySurface`. -/
def destroySurface : Option OverlayItem :=
  item.surface.canvas.destroy.map fun canvas =>
    { item with dirty := true, surface := { item.surface with canvas } }

/-- `CreateSurface` of the items with one canvas; the date and the text draw on it at once. -/
def createSurface (size : UInt32) (draws : Bool) : Option (Status × OverlayItem) :=
  match allocateIonMemory size a.surface with
  | none => some (.failed, item)
  | some memory =>
    let item := { item with drawn := none, surface := { item.surface with
      canvas := .live item.surface.width item.surface.height memory.toNat } }
    (if draws then item.updateAndDraw a.now else some item).map fun item =>
      if a.surface = .notMapped then (.failed, item)
      else (.ok, { item with surface := { item.surface with size := memory } })

/-- A canvas over new memory. -/
def withCanvas (memory : UInt32) : OverlayItem :=
  { item with drawn := none, surface := { item.surface with
    canvas := .live item.surface.width item.surface.height memory.toNat } }

/-- The ends of `CreateSurface`: no memory, or a new canvas that C2D does not map or does. -/
theorem createSurface_cases {item t : OverlayItem} {a : Answers} {ret : Status} {size : UInt32} {draws : Bool}
    (h : item.createSurface a size draws = some (ret, t)) :
    (allocateIonMemory size a.surface = none ∧ ret = .failed ∧ t = item) ∨
      ∃ memory u, allocateIonMemory size a.surface = some memory ∧
        (if draws then (item.withCanvas memory).updateAndDraw a.now
          else some (item.withCanvas memory)) = some u ∧
        ((a.surface = .notMapped ∧ ret = .failed ∧ t = u) ∨
          (a.surface ≠ .notMapped ∧ ret = .ok ∧
            t = { u with surface := { u.surface with size := memory } })) := by
  unfold createSurface at h
  cases halloc : allocateIonMemory size a.surface with
  | none =>
    rw [halloc] at h
    obtain ⟨rfl, rfl⟩ := Prod.mk.inj (Option.some.inj h)
    exact .inl ⟨rfl, rfl, rfl⟩
  | some memory =>
    rw [halloc] at h
    obtain ⟨u, hu, heq⟩ := Option.map_eq_some_iff.mp h
    refine .inr ⟨memory, u, rfl, hu, ?_⟩
    split_ifs at heq with hmapped
    · obtain ⟨rfl, rfl⟩ := Prod.mk.inj heq
      exact .inl ⟨hmapped, rfl, rfl⟩
    · obtain ⟨rfl, rfl⟩ := Prod.mk.inj heq
      exact .inr ⟨hmapped, rfl, rfl⟩

/-- The memory of the date and of the text has the size of the rectangle, not of the canvas. -/
def createTextSurface : Option (Status × OverlayItem) :=
  item.createSurface a (item.width * item.height * 4) true

/-- `CreateSurface` of the mask and the graph. -/
def createFlatSurface : Option (Status × OverlayItem) :=
  item.createSurface a (item.surface.width * item.surface.height * 4) false

end OverlayItem

namespace DateAndTime

def kTextSize : UInt32 := 20
def kCairoBufferMinWidth : UInt32 := kTextSize * 6
def kCairoBufferMinHeight : UInt32 := kTextSize * 2

/-- The width and height of the canvas for a rectangle. -/
def surfaceSize (width height : UInt32) : UInt32 × UInt32 :=
  if kCairoBufferMinWidth * height / width < kCairoBufferMinHeight then
    let aligned := roundUp (kCairoBufferMinHeight * width / height) 16
    (aligned, aligned * height / width)
  else (roundUp kCairoBufferMinWidth 16, kCairoBufferMinWidth * height / width)

variable (f : DateAndTime) (item : OverlayItem) (p : OverlayParam) (d : OverlayDateTimeType) (a : Answers)

def init : Option (Status × OverlayItem) :=
  if !p.dstRect.isValid then some (.badValue, item)
  else
    let item := { item.setRect p.dstRect with
      locationType := p.location, detail := .dateAndTime { dateTimeType := d, textColor := p.color } }
    (item.setSurface (surfaceSize item.width item.height)).createTextSurface a

def updateParameters : Option (Status × OverlayItem) :=
  if !p.dstRect.isValid then some (.badValue, item)
  else match p.data with
  | .dateTime d =>
    let f := { f with dateTimeType := d, textColor := p.color }
    let resized := item.width ≠ p.dstRect.width.toUInt32 ∨ item.height ≠ p.dstRect.height.toUInt32
    let item := { item.setRect p.dstRect with locationType := p.location, detail := .dateAndTime f }
    if resized then
      let item := { item with detail := .dateAndTime { f with prevTime := 0 } }
      (item.setSurface (surfaceSize item.width item.height)).destroySurface.bind (·.createTextSurface a)
    else some (.ok, item)
  | _ => none

end DateAndTime

namespace Text

def kTextSize : UInt32 := 40
def kCairoBufferMinWidth : UInt32 := kTextSize * 4
def kCairoBufferMinHeight : UInt32 := kTextSize

def surfaceSize (width height : UInt32) : UInt32 × UInt32 :=
  (roundUp (max kCairoBufferMinWidth width) 16, max kCairoBufferMinHeight height)

variable (f : Text) (item : OverlayItem) (p : OverlayParam) (text : CString 128) (a : Answers)

def init : Option (Status × OverlayItem) :=
  if !p.dstRect.isValid then some (.badValue, item)
  else
    let item := { item.setRect p.dstRect with
      locationType := p.location, detail := .text { textColor := p.color, text } }
    (item.setSurface (surfaceSize item.width item.height)).createTextSurface a

/-- A new rectangle, with a new canvas if its size is new. -/
def place : Option (Status × OverlayItem) :=
  let resized := item.width ≠ p.dstRect.width.toUInt32 ∨ item.height ≠ p.dstRect.height.toUInt32
  let item := { item.setRect p.dstRect with locationType := p.location }
  if resized then
    (item.setSurface (surfaceSize item.width item.height)).destroySurface.bind (·.createTextSurface a)
  else some (.ok, item)

/-- The colour and the text that are new. -/
def reword : OverlayItem :=
  let item := if f.textColor ≠ p.color then
    { item with dirty := true, detail := .text { f with textColor := p.color } } else item
  if f.text ≠ text then
    { item with dirty := true, detail := .text { textColor := p.color, text } } else item

def updateParameters : Option (Status × OverlayItem) :=
  if !p.dstRect.isValid then some (.badValue, item)
  else (place item p a).bind fun (ret, item) =>
    if ret ≠ .ok then some (ret, item)
    else match p.data with
    | .userText text => some (.ok, f.reword item p text)
    | _ => none

end Text

namespace BoundingBox

def kBoxBuffWidth : UInt32 := 320
def kStrokeWidth : UInt32 := 4
def kTextLimit : Nat := 20

/-- `text_surface_` has a size of its own. -/
def textWidth : UInt32 := 320
def textHeight : UInt32 := 80

def surfaceHeight (surfaceWidth width height : UInt32) : UInt32 :=
  roundUp (surfaceWidth * height / width) 2

def strokeWidth (surfaceWidth width : UInt32) : UInt32 :=
  (kStrokeWidth * surfaceWidth + width - 1) / width

variable (f : BoundingBox) (item : OverlayItem) (p : OverlayParam) (name : CString 128) (a : Answers)

/-- The box first, then its text. -/
def createSurface : Option (Status × OverlayItem) :=
  (item.createFlatSurface a).map fun (ret, item) =>
    if ret ≠ .ok then (ret, item)
    else match allocateIonMemory (textWidth * textHeight * 4) a.textSurface with
    | none => (.failed, item)
    | some memory =>
      let canvas := .live textWidth textHeight memory.toNat
      if a.textSurface = .notMapped then
        (.failed, { item with
          detail := .boundingBox { f with textSurface := { f.textSurface with canvas } } })
      else
        (.ok, { item with
          detail := .boundingBox { f with textSurface := { f.textSurface with canvas, size := memory } } })

def init : Option (Status × OverlayItem) :=
  let f : BoundingBox := { bboxColor := p.color }
  if !p.dstRect.isValid then some (.badValue, { item with detail := .boundingBox f })
  else
    let item := item.setRect p.dstRect
    let stroke := strokeWidth kBoxBuffWidth item.width
    let f := { f with
      bboxName := name.take kTextLimit
      textSurface := { f.textSurface with width := textWidth, height := textHeight }
      boxStrokeWidth := max a.boxStroke stroke }
    let item := { item.setSurface (kBoxBuffWidth, surfaceHeight kBoxBuffWidth item.width item.height) with
      detail := .boundingBox f }
    (f.createSurface item a).map fun (ret, item) => if ret ≠ .ok then (.noInit, item) else (.ok, item)

/-- What `UpdateParameters` does once the canvases fit. -/
def refresh : OverlayItem :=
  let stroke := strokeWidth item.surface.width item.width
  { item with
    dirty := item.dirty || f.boxStrokeWidth ≠ stroke || f.bboxColor ≠ p.color || f.bboxName ≠ name
    detail := .boundingBox { f with
      boxStrokeWidth := stroke
      bboxColor := p.color
      bboxName := if f.bboxName ≠ name then name.take kTextLimit else f.bboxName } }

/-- Both canvases are made again, and the name is cleared with them. -/
def recreateSurface (surfaceHeight : UInt32) : Option (Status × OverlayItem) := do
  let item ← (item.setSurface (item.surface.width, surfaceHeight)).destroySurface
  let canvas ← f.textSurface.canvas.destroy
  let f := { f with bboxName := .empty, textSurface := { f.textSurface with canvas } }
  f.createSurface { item with detail := .boundingBox f } a

/-- A new rectangle, with new canvases if it has other proportions. -/
def place : Option (Status × OverlayItem) :=
  let item := item.setRect p.dstRect
  let surfaceHeight := surfaceHeight item.surface.width item.width item.height
  if item.surface.height ≠ surfaceHeight then f.recreateSurface item a surfaceHeight else some (.ok, item)

def updateParameters : Option (Status × OverlayItem) :=
  if !p.dstRect.isValid then some (.badValue, item)
  else (f.place item p a).bind fun (ret, item) =>
    if ret ≠ .ok then some (ret, item)
    else match item.detail, p.data with
    | .boundingBox f, .boundingBox name => some (.ok, f.refresh item p name)
    | _, _ => none

end BoundingBox

namespace PrivacyMask

def kMaskBoxBufWidth : UInt32 := 1920

def surfaceSize (surfaceWidth width height : UInt32) : UInt32 × UInt32 :=
  (surfaceWidth, roundUp (surfaceWidth * height / width) 2)

variable (item : OverlayItem) (p : OverlayParam) (mask : OverlayPrivacyMask) (a : Answers)

def init : Option (Status × OverlayItem) :=
  if !p.dstRect.isValid then some (.badValue, item)
  else
    let item := { item.setRect p.dstRect with
      detail := .privacyMask { maskColor := p.color, config := mask } }
    ((item.setSurface (surfaceSize (min item.width kMaskBoxBufWidth) item.width item.height)
      ).createFlatSurface a).map fun (ret, item) => if ret ≠ .ok then (.noInit, item) else (.ok, item)

/-- The surface gets another size, its canvas stays. -/
def updateParameters : Option (Status × OverlayItem) :=
  if !p.dstRect.isValid then some (.badValue, item)
  else match p.data with
  | .privacyMask mask =>
    let item := { item.setRect p.dstRect with
      dirty := true, detail := .privacyMask { maskColor := p.color, config := mask } }
    some (.ok, item.setSurface (surfaceSize kMaskBoxBufWidth item.width item.height))
  | _ => none

end PrivacyMask

namespace Graph

variable (item : OverlayItem) (p : OverlayParam) (graph : OverlayGraph) (a : Answers)

def init : Option (Status × OverlayItem) :=
  if !p.dstRect.isValid then some (.badValue, item)
  else if !graph.countsFit then some (.badValue, item)
  else
    let item := { item.setRect p.dstRect with detail := .graph { graphColor := p.color, graph } }
    ((item.setSurface a.graphSurface).createFlatSurface a).map fun (ret, item) =>
      if ret ≠ .ok then (.noInit, item) else (.ok, item)

def updateParameters : Option (Status × OverlayItem) :=
  if !p.dstRect.isValid then some (.badValue, item)
  else match p.data with
  | .graph graph =>
    if !graph.countsFit then some (.badValue, item)
    else some (.ok, { item.setRect p.dstRect with
      dirty := true, detail := .graph { graphColor := p.color, graph } })
  | _ => none

end Graph

namespace StaticImage

variable (f : StaticImage) (item : OverlayItem) (p : OverlayParam) (info : OverlayImageInfo) (a : Answers)

/-- A file that is missing or too short leaves an item without an image, and no error. -/
def createSurface : Option (Status × OverlayItem) :=
  let size := if f.imageType = .filePath then item.width * item.height * 4 else f.imageSize
  match allocateIonMemory size a.surface with
  | none => some (.failed, item)
  | some memory =>
    if ¬ size ≤ memory then none
    else if f.imageType = .filePath ∧ (a.fileSize.all fun bytes => bytes < size.toNat) then
      some (.ok, item)
    else if a.surface = .notMapped then some (.failed, item)
    else
      let picture := if f.imageType = .filePath then .file f.imagePath else .blob f.imageBuffer size
      some (.ok, { item with
        surface := { item.surface with size := memory }, drawn := some picture })

def init : Option (Status × OverlayItem) :=
  if !p.dstRect.hasArea then some (.badValue, item)
  else
    let item := { item.setRect p.dstRect with locationType := p.location }
    match info.imageType with
    | .filePath =>
      let f : StaticImage := { imageType := .filePath, imagePath := info.imageLocation }
      f.createSurface { item with detail := .staticImage f } a
    | .blobType =>
      let f : StaticImage := { imageType := .blobType, imageBuffer := info.imageBuffer,
                               imageSize := info.imageSize }
      let source := (info.sourceRect.width.toUInt32, info.sourceRect.height.toUInt32)
      f.createSurface { item.setSurface source with detail := .staticImage f } a

/-- The path may not change. The size of a blob is taken over before it is compared, so its memory is
never made again. -/
def updateParameters : Option (Status × OverlayItem) :=
  match p.data with
  | .imageInfo info =>
    if f.imagePath ≠ info.imageLocation then some (.badValue, item)
    else if !p.dstRect.hasArea then some (.badValue, item)
    else
      let item := { item.setRect p.dstRect with locationType := p.location }
      match f.imageType with
      | .filePath => some (.ok, item)
      | .blobType =>
        let f := { f with imageBuffer := info.imageBuffer, imageSize := info.imageSize }
        let source := (info.sourceRect.width.toUInt32, info.sourceRect.height.toUInt32)
        let item := { item.setSurface source with detail := .staticImage f }
        if !info.bufferUpdated then some (.ok, item)
        else if ¬ info.imageSize ≤ item.surface.size then none
        else
          some (.ok, { item with
            dirty := true, drawn := some (.blob info.imageBuffer info.imageSize) })
  | _ => none

end StaticImage

namespace OverlayItem

variable (item : OverlayItem) (p : OverlayParam) (a : Answers)

/-- The constructor and `Init` of the class that the type of the parameters names. -/
def init : Option (Status × OverlayItem) :=
  match p.data with
  | .dateTime d => DateAndTime.init { detail := .dateAndTime {} } p d a
  | .userText text => Text.init { detail := .text {} } p text a
  | .imageInfo info => StaticImage.init { detail := .staticImage {} } p info a
  | .boundingBox name => BoundingBox.init { detail := .boundingBox {} } p name a
  | .privacyMask mask => PrivacyMask.init { detail := .privacyMask {} } p mask a
  | .graph graph => Graph.init { detail := .graph {} } p graph a

def updateParameters : Option (Status × OverlayItem) :=
  match item.detail with
  | .dateAndTime f => f.updateParameters item p a
  | .staticImage f => f.updateParameters item p
  | .boundingBox f => f.updateParameters item p a
  | .text f => f.updateParameters item p a
  | .privacyMask _ => PrivacyMask.updateParameters item p
  | .graph _ => Graph.updateParameters item p

/-- Into parameters that are all zero. -/
def getParameters : OverlayParam :=
  let dstRect : OverlayRect := ⟨item.x, item.y, item.width.toInt32, item.height.toInt32⟩
  match item.detail with
  | .dateAndTime f =>
    { location := item.locationType, color := f.textColor, dstRect, data := .dateTime f.dateTimeType }
  | .staticImage f =>
    { location := item.locationType, dstRect, data := .imageInfo { imageLocation := f.imagePath } }
  | .boundingBox f =>
    { location := .none, color := f.bboxColor, dstRect, data := .boundingBox f.bboxName }
  | .text f => { location := item.locationType, color := f.textColor, dstRect, data := .userText f.text }
  | .privacyMask f =>
    { location := .none, color := f.maskColor, dstRect, data := .privacyMask (.rectangle {}) }
  | .graph f => { location := .none, color := f.graphColor, dstRect, data := .graph {} }

/-- The destructor. -/
def delete : Option Unit :=
  match item.detail with
  | .boundingBox f => f.textSurface.canvas.destroy.bind fun _ => item.surface.canvas.destroy.map fun _ => ()
  | _ => item.surface.canvas.destroy.map fun _ => ()

end OverlayItem

end QmmfSdk.Overlays
