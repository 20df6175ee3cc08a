import QmmfSdk.Overlays.ItemMemory

/-! What each class of items needs so that creating and changing it is harmless. -/
namespace QmmfSdk.Overlays

open Library

/-- A cairo image may have this size. -/
def Legal (surface : UInt32 × UInt32) : Prop :=
  surface.1.toNat ≤ maxImageSize ∧ surface.2.toNat ≤ maxImageSize

instance (surface : UInt32 × UInt32) : Decidable (Legal surface) := inferInstanceAs (Decidable (_ ∧ _))

/-- The memory that a rectangle of a date or a text gets, if any, holds the canvas. -/
def Spacious (width height : UInt32) (surface : UInt32 × UInt32) : Prop :=
  roundUp (width * height * 4) 4096 ≠ 0 →
    FitsIn surface.1 surface.2 (roundUp (width * height * 4) 4096).toNat

instance (width height : UInt32) (surface : UInt32 × UInt32) : Decidable (Spacious width height surface) :=
  inferInstanceAs (Decidable (_ → _))

/-- The canvases of a box are both there. -/
def BoxCanvases (surface : UInt32 × UInt32) (a : Answers) : Prop :=
  a.surface = .ok ∧ roundUp (surface.1 * surface.2 * 4) 4096 ≠ 0 ∧ a.textSurface ≠ .noMemory

instance (surface : UInt32 × UInt32) (a : Answers) : Decidable (BoxCanvases surface a) :=
  inferInstanceAs (Decidable (_ ∧ _ ∧ _))

namespace OverlayItem

variable {item t : OverlayItem} {p : OverlayParam} {a : Answers} {ret : Status} {size : UInt32}

/-- A date or a text must have a rectangle with room for its canvas. A box must be created without a
fault: its destructor does not know what it has. Masks and graphs only need a legal size, the links of a
graph must be in its array, and an image always fits. -/
def InitProper (p : OverlayParam) (a : Answers) : Prop :=
  let width := p.dstRect.width.toUInt32
  let height := p.dstRect.height.toUInt32
  match p.data with
  | .dateTime _ =>
    p.dstRect.isValid → a.surface = .ok → Spacious width height (DateAndTime.surfaceSize width height)
  | .userText _ =>
    p.dstRect.isValid → a.surface = .ok → Spacious width height (Text.surfaceSize width height)
  | .imageInfo _ => True
  | .boundingBox _ =>
    let surface := (BoundingBox.kBoxBuffWidth,
      BoundingBox.surfaceHeight BoundingBox.kBoxBuffWidth width height)
    p.dstRect.isValid ∧ BoxCanvases surface a ∧ (a.textSurface = .ok → Legal surface)
  | .privacyMask _ =>
    let surface := PrivacyMask.surfaceSize (min width PrivacyMask.kMaskBoxBufWidth) width height
    p.dstRect.isValid → a.surface = .ok → roundUp (surface.1 * surface.2 * 4) 4096 ≠ 0 → Legal surface
  | .graph graph =>
    p.dstRect.isValid → graph.countsFit → a.surface = .ok →
      roundUp (a.graphSurface.1 * a.graphSurface.2 * 4) 4096 ≠ 0 → Legal a.graphSurface ∧ graph.linksFit

instance : Decidable (InitProper p a) := by
  unfold InitProper
  dsimp only
  split <;> infer_instance

/-- The rectangle has another size than the item. -/
def Resized (item : OverlayItem) (p : OverlayParam) : Prop :=
  item.width ≠ p.dstRect.width.toUInt32 ∨ item.height ≠ p.dstRect.height.toUInt32

instance : Decidable (Resized item p) := inferInstanceAs (Decidable (_ ∨ _))

/-- The new canvas of a text, if it gets one, is there and fits. Other parameters are not read where it
is not mapped. -/
def TextProper (item : OverlayItem) (p : OverlayParam) (a : Answers) : Prop :=
  let width := p.dstRect.width.toUInt32
  let height := p.dstRect.height.toUInt32
  let backed := Backed (width * height * 4) (Text.surfaceSize width height) a.surface
  match p.data with
  | .userText _ => Resized item p → backed
  | _ => Resized item p ∧ a.surface = .notMapped ∧ backed

instance : Decidable (TextProper item p a) := by
  unfold TextProper
  dsimp only
  split <;> infer_instance

/-- The new canvases of a box, if it gets them, are there. Other parameters are not read where that of its
name is not mapped. -/
def BoxProper (item : OverlayItem) (p : OverlayParam) (a : Answers) : Prop :=
  let surface := (item.surface.width, BoundingBox.surfaceHeight item.surface.width
    p.dstRect.width.toUInt32 p.dstRect.height.toUInt32)
  match p.data with
  | .boundingBox _ => item.surface.height ≠ surface.2 → BoxCanvases surface a ∧ Legal surface
  | _ => item.surface.height ≠ surface.2 ∧ (BoxCanvases surface a ∧ Legal surface) ∧
      a.textSurface ≠ .ok

instance : Decidable (BoxProper item p a) := by
  unfold BoxProper
  dsimp only
  split <;> infer_instance

/-- The parameters are of the type of the item, unless the call ends before it reads them. A new canvas
must be there and fit, and a blob must fit into the memory of the first one. -/
def UpdateProper (item : OverlayItem) (p : OverlayParam) (a : Answers) : Prop :=
  let width := p.dstRect.width.toUInt32
  let height := p.dstRect.height.toUInt32
  match item.detail, p.data with
  | .dateAndTime _, .dateTime _ =>
    p.dstRect.isValid → Resized item p →
      Backed (width * height * 4) (DateAndTime.surfaceSize width height) a.surface
  | .text _, _ => p.dstRect.isValid → TextProper item p a
  | .staticImage f, .imageInfo info =>
    f.imagePath = info.imageLocation → p.dstRect.hasArea → f.imageType = .blobType →
      info.bufferUpdated → info.imageSize ≤ item.surface.size
  | .staticImage _, _ => False
  | .boundingBox _, _ => p.dstRect.isValid → BoxProper item p a
  | .privacyMask _, .privacyMask _ => True
  | .graph _, .graph graph => p.dstRect.isValid → graph.countsFit → graph.linksFit
  | _, _ => p.dstRect.isValid = false

instance : Decidable (UpdateProper item p a) :=
  match hdetail : item.detail, hdata : p.data with
  | .dateAndTime _, .dateTime _ =>
    decidable_of_iff (p.dstRect.isValid → Resized item p →
      Backed (p.dstRect.width.toUInt32 * p.dstRect.height.toUInt32 * 4)
        (DateAndTime.surfaceSize p.dstRect.width.toUInt32 p.dstRect.height.toUInt32) a.surface)
      (by simp only [UpdateProper, hdetail, hdata])
  | .text _, _ =>
    decidable_of_iff (p.dstRect.isValid → TextProper item p a) (by simp only [UpdateProper, hdetail])
  | .staticImage f, .imageInfo info =>
    decidable_of_iff (f.imagePath = info.imageLocation → p.dstRect.hasArea → f.imageType = .blobType →
      info.bufferUpdated → info.imageSize ≤ item.surface.size)
      (by simp only [UpdateProper, hdetail, hdata])
  | .boundingBox _, _ =>
    decidable_of_iff (p.dstRect.isValid → BoxProper item p a) (by simp only [UpdateProper, hdetail])
  | .privacyMask _, .privacyMask _ => .isTrue (by simp only [UpdateProper, hdetail, hdata])
  | .graph _, .graph graph =>
    decidable_of_iff (p.dstRect.isValid → graph.countsFit → graph.linksFit)
      (by simp only [UpdateProper, hdetail, hdata])
  | .staticImage _, .dateTime _ | .staticImage _, .userText _ | .staticImage _, .boundingBox _
  | .staticImage _, .privacyMask _ | .staticImage _, .graph _ =>
    .isFalse (by simp only [UpdateProper, hdetail, hdata, not_false_eq_true])
  | .dateAndTime _, .userText _ | .dateAndTime _, .imageInfo _ | .dateAndTime _, .boundingBox _
  | .dateAndTime _, .privacyMask _ | .dateAndTime _, .graph _ | .privacyMask _, .dateTime _
  | .privacyMask _, .userText _ | .privacyMask _, .imageInfo _ | .privacyMask _, .boundingBox _
  | .privacyMask _, .graph _ | .graph _, .dateTime _ | .graph _, .userText _ | .graph _, .imageInfo _
  | .graph _, .boundingBox _ | .graph _, .privacyMask _ =>
    decidable_of_iff (p.dstRect.isValid = false) (by simp only [UpdateProper, hdetail, hdata])

theorem made_badValue (hbox : ∀ f, item.detail ≠ .boundingBox f) (hnew : item.surface.canvas = .none) :
    Made (some (.badValue, item)) :=
  made_some.mpr ⟨by simp, fun _ => isSome_delete hbox (by simp [hnew])⟩

/-- An error that is answered as another one. -/
theorem made_noInit {r : Option (Status × OverlayItem)} :
    Made (r.map fun (ret, item) => if ret ≠ .ok then (.noInit, item) else (.ok, item)) ↔ Made r := by
  rcases r with - | ⟨ret, item⟩
  · simp [Made]
  · rw [Option.map_some, made_some]
    by_cases h : ret = .ok <;> simp [h, made_some]

/-- A canvas of its own size for a new rectangle. -/
theorem made_createTextSurface (surface : UInt32 × UInt32) (hone : (item.setSurface surface).OneCanvas True)
    (hdirty : item.dirty = false) (hnew : item.surface.canvas = .none) :
    Made ((item.setSurface surface).createTextSurface a) ↔
      (a.surface = .ok → Spacious item.width item.height surface) := by
  unfold createTextSurface
  refine (made_createSurface True hone hdirty hnew).trans ?_
  simp only [and_true]
  rfl

theorem made_dateAndTime {d : OverlayDateTimeType} :
    Made (DateAndTime.init { detail := .dateAndTime {} } p d a) ↔
      (p.dstRect.isValid → a.surface = .ok → Spacious p.dstRect.width.toUInt32 p.dstRect.height.toUInt32
        (DateAndTime.surfaceSize p.dstRect.width.toUInt32 p.dstRect.height.toUInt32)) := by
  unfold DateAndTime.init
  by_cases hvalid : p.dstRect.isValid
  · simp only [hvalid, Bool.not_true, true_implies]
    exact made_createTextSurface _ ⟨by simp [setSurface, setRect], fun c => by
      simp [Drawable, setSurface, setRect]⟩ rfl rfl
  · simp [hvalid, made_badValue]

theorem made_text {text : CString 128} : Made (Text.init { detail := .text {} } p text a) ↔
    (p.dstRect.isValid → a.surface = .ok → Spacious p.dstRect.width.toUInt32 p.dstRect.height.toUInt32
      (Text.surfaceSize p.dstRect.width.toUInt32 p.dstRect.height.toUInt32)) := by
  unfold Text.init
  by_cases hvalid : p.dstRect.isValid
  · simp only [hvalid, Bool.not_true, true_implies]
    exact made_createTextSurface _ ⟨by simp [setSurface, setRect], fun c => by
      simp [Drawable, setSurface, setRect]⟩ rfl rfl
  · simp [hvalid, made_badValue]

theorem made_privacyMask {mask : OverlayPrivacyMask} :
    Made (PrivacyMask.init { detail := .privacyMask {} } p mask a) ↔
      let surface := PrivacyMask.surfaceSize (min p.dstRect.width.toUInt32 PrivacyMask.kMaskBoxBufWidth)
        p.dstRect.width.toUInt32 p.dstRect.height.toUInt32
      p.dstRect.isValid → a.surface = .ok → roundUp (surface.1 * surface.2 * 4) 4096 ≠ 0 →
        Legal surface := by
  unfold PrivacyMask.init createFlatSurface
  by_cases hvalid : p.dstRect.isValid
  · simp only [hvalid, Bool.not_true, true_implies]
    refine made_noInit.trans ((made_createSurface True
      ⟨by simp [setSurface, setRect], fun c => ?_⟩ rfl rfl).trans ?_)
    · simp [Drawable, setSurface, setRect]
    · simp only [and_true, setSurface, setRect, fitsIn_self_iff]
      rfl
  · simp [hvalid, made_badValue]

theorem made_graph {graph : OverlayGraph} : Made (Graph.init { detail := .graph {} } p graph a) ↔
    (p.dstRect.isValid → graph.countsFit → a.surface = .ok →
      roundUp (a.graphSurface.1 * a.graphSurface.2 * 4) 4096 ≠ 0 →
        Legal a.graphSurface ∧ graph.linksFit) := by
  unfold Graph.init createFlatSurface
  by_cases hvalid : p.dstRect.isValid
  · by_cases hcounts : graph.countsFit
    · simp only [hvalid, hcounts, Bool.not_true, true_implies]
      refine made_noInit.trans ((made_createSurface graph.linksFit
        ⟨by simp [setSurface, setRect], fun c => ?_⟩ rfl rfl).trans ?_)
      · simp [Drawable, setSurface, setRect]
      · simp only [setSurface, setRect, fitsIn_self_iff]
        rfl
    · simp [hvalid, hcounts, made_badValue]
  · simp [hvalid, made_badValue]

theorem createSurface_image {f : StaticImage} (hdetail : item.detail = .staticImage f)
    (hnew : item.surface.canvas = .none) : Made (f.createSurface item a) := by
  have hsound : item.Sound := ⟨by simp [Drawable, hdetail], by simp [hnew]⟩
  have hdelete := hsound.delete
  unfold StaticImage.createSurface
  dsimp only
  generalize (if f.imageType = .filePath then item.width * item.height * 4 else f.imageSize) = size
  cases halloc : allocateIonMemory size a.surface with
  | none => exact made_some.mpr ⟨by simp, fun _ => hdelete⟩
  | some memory =>
    simp only [size_le_of_allocated halloc, not_true_eq_false, if_false]
    split_ifs
    · exact made_some.mpr ⟨fun _ => hsound, fun _ => hdelete⟩
    · exact made_some.mpr ⟨by simp, fun _ => hdelete⟩
    all_goals
      refine made_some.mpr ⟨fun _ => ⟨?_, by simp [hnew]⟩, by simp⟩
      simp [Drawable, hdetail]

theorem made_staticImage {info : OverlayImageInfo} :
    Made (StaticImage.init { detail := .staticImage {} } p info a) := by
  unfold StaticImage.init
  split
  · exact made_badValue nofun rfl
  · cases info.imageType <;> exact createSurface_image rfl rfl

/-- The size of the text of a box is always legal. -/
theorem fitsIn_text : FitsIn BoundingBox.textWidth BoundingBox.textHeight
    (roundUp (BoundingBox.textWidth * BoundingBox.textHeight * 4) 4096).toNat := by decide

theorem allocate_text {outcome : Outcome} (h : outcome ≠ .noMemory) :
    allocateIonMemory (BoundingBox.textWidth * BoundingBox.textHeight * 4) outcome =
      some (roundUp (BoundingBox.textWidth * BoundingBox.textHeight * 4) 4096) := by
  unfold allocateIonMemory
  rw [if_neg]
  rw [not_or]
  exact ⟨h, by decide⟩

theorem sound_box {f : BoundingBox} (hdetail : item.detail = .boundingBox f) :
    item.Sound ↔ item.surface.canvas.Sound ∧ f.textSurface.canvas.Sound := by
  refine ⟨fun h => by simpa [Drawable, hdetail] using h.drawable, fun h =>
    ⟨by simpa [Drawable, hdetail] using h, fun hd => ?_⟩⟩
  rw [hd] at h
  exact h.1

/-- The two canvases of a box, as far as they are made. -/
theorem createSurface_box {f : BoundingBox} (hdetail : item.detail = .boundingBox f) :
    ∃ ret t f', f.createSurface item a = some (ret, t) ∧ t.detail = .boundingBox f' ∧
      (if BoxCanvases (item.surface.width, item.surface.height) a then
        t.surface.canvas = .live item.surface.width item.surface.height
          (roundUp (item.surface.width * item.surface.height * 4) 4096).toNat ∧
        f'.textSurface.canvas.Sound ∧ (ret = .ok ↔ a.textSurface = .ok)
      else ret ≠ .ok ∧ f'.textSurface = f.textSurface) := by
  unfold BoundingBox.createSurface createFlatSurface
  obtain ⟨halloc, hno⟩ | ⟨halloc, hmem, hsize⟩ :=
    allocate_cases (item.surface.width * item.surface.height * 4) a.surface
  · have hcanvases : ¬ BoxCanvases (item.surface.width, item.surface.height) a := fun h => by
      rcases hno with hno | hno
      · rw [h.1] at hno
        cases hno
      · exact h.2.1 hno
    refine ⟨.failed, item, f, by simp [createSurface, halloc], hdetail, ?_⟩
    rw [if_neg hcanvases]
    exact ⟨by simp, rfl⟩
  · rw [createSurface_eq halloc]
    simp only [Bool.false_eq_true, if_false, Option.map_some]
    by_cases hmapped : a.surface = .notMapped
    · simp only [hmapped, if_true, ne_eq, reduceCtorEq, not_false_eq_true]
      refine ⟨_, _, _, rfl, hdetail, ?_⟩
      rw [if_neg fun h : BoxCanvases _ _ => by simp [h.1] at hmapped]
      exact ⟨by simp, rfl⟩
    · have hok : a.surface = .ok := by cases ho : a.surface <;> simp_all
      simp only [hmapped, if_false, ne_eq, not_true_eq_false]
      cases htext : a.textSurface with
      | noMemory =>
        rw [show allocateIonMemory _ .noMemory = none from rfl]
        refine ⟨_, _, _, rfl, hdetail, ?_⟩
        rw [if_neg fun h => h.2.2 htext]
        exact ⟨by simp, rfl⟩
      | notMapped =>
        rw [allocate_text (by simp)]
        refine ⟨_, _, _, rfl, rfl, ?_⟩
        rw [if_pos ⟨hok, hsize, by simp [htext]⟩]
        exact ⟨rfl, fitsIn_text, by simp⟩
      | ok =>
        rw [allocate_text (by simp)]
        refine ⟨_, _, _, rfl, rfl, ?_⟩
        rw [if_pos ⟨hok, hsize, by simp [htext]⟩]
        exact ⟨rfl, fitsIn_text, by simp⟩

theorem delete_box {f : BoundingBox} (hdetail : item.detail = .boundingBox f) :
    item.delete.isSome ↔ f.textSurface.canvas ≠ .dangling ∧ item.surface.canvas ≠ .dangling := by
  unfold OverlayItem.delete
  simp only [hdetail]
  cases f.textSurface.canvas <;> cases item.surface.canvas <;> simp [Canvas.destroy]

theorem made_createSurface_box {f : BoundingBox} (hdetail : item.detail = .boundingBox f)
    (hold : f.textSurface.canvas = .dangling) : Made (f.createSurface item a) ↔
      BoxCanvases (item.surface.width, item.surface.height) a ∧
        (a.textSurface = .ok → Legal (item.surface.width, item.surface.height)) := by
  obtain ⟨ret, t, f', hcreate, ht, hcase⟩ := createSurface_box (a := a) hdetail
  rw [hcreate, made_some, delete_box ht, sound_box ht]
  split_ifs at hcase with hcanvases
  · obtain ⟨hlive, hsound, hret⟩ := hcase
    have hnotDangling : f'.textSurface.canvas ≠ .dangling := fun h => by
      rw [h] at hsound
      exact hsound
    rw [hlive, hret]
    simp only [hsound, hcanvases, and_true, true_and, hnotDangling, ne_eq, reduceCtorEq,
      not_false_eq_true, implies_true]
    exact imp_congr_right fun _ => fitsIn_self_iff
  · obtain ⟨hret, hsame⟩ := hcase
    rw [hsame, hold]
    simp [hret, hcanvases]

theorem kept_createSurface_box {f : BoundingBox} (hdetail : item.detail = .boundingBox f)
    (hold : f.textSurface.canvas = .dangling) : Kept (f.createSurface item a) ↔
      BoxCanvases (item.surface.width, item.surface.height) a ∧
        Legal (item.surface.width, item.surface.height) := by
  obtain ⟨ret, t, f', hcreate, ht, hcase⟩ := createSurface_box (a := a) hdetail
  rw [hcreate, kept_some, sound_box ht]
  split_ifs at hcase with hcanvases
  · obtain ⟨hlive, hsound, -⟩ := hcase
    rw [hlive]
    simp only [hsound, hcanvases, and_true, true_and]
    exact fitsIn_self_iff
  · rw [hcase.2, hold]
    exact iff_of_false (fun h => h.2) fun h => hcanvases h.1

theorem made_boundingBox {name : CString 128} :
    Made (BoundingBox.init { detail := .boundingBox {} } p name a) ↔
      let surface := (BoundingBox.kBoxBuffWidth, BoundingBox.surfaceHeight BoundingBox.kBoxBuffWidth
        p.dstRect.width.toUInt32 p.dstRect.height.toUInt32)
      p.dstRect.isValid ∧ BoxCanvases surface a ∧ (a.textSurface = .ok → Legal surface) := by
  unfold BoundingBox.init
  by_cases hvalid : p.dstRect.isValid
  · simp only [hvalid, Bool.not_true, true_and, Bool.false_eq_true, if_false]
    exact made_noInit.trans (made_createSurface_box rfl rfl)
  · simp [hvalid, made_some, delete_box]

/-- `Init` is harmless exactly when the parameters are proper. -/
theorem made_init : Made (OverlayItem.init p a) ↔ InitProper p a := by
  unfold OverlayItem.init InitProper
  cases p.data with
  | dateTime d => exact made_dateAndTime
  | userText text => exact made_text
  | imageInfo info => exact iff_true_intro made_staticImage
  | boundingBox name => exact made_boundingBox
  | privacyMask mask => exact made_privacyMask
  | graph graph => exact made_graph

theorem OneCanvas.sound_iff {extra : Prop} (h : item.OneCanvas extra) :
    item.Sound ↔ item.surface.canvas.Sound ∧ extra := by
  refine ⟨fun hs => (h.2 _).mp hs.drawable, fun hs => ⟨(h.2 _).mpr hs, fun hd => ?_⟩⟩
  rw [hd] at hs
  exact hs.1

theorem oneCanvas_dateAndTime {f : DateAndTime} (h : item.detail = .dateAndTime f) :
    item.OneCanvas True := ⟨by simp [h], fun c => by simp [Drawable, h]⟩

theorem oneCanvas_text {f : Text} (h : item.detail = .text f) : item.OneCanvas True :=
  ⟨by simp [h], fun c => by simp [Drawable, h]⟩

theorem oneCanvas_privacyMask {f : PrivacyMask} (h : item.detail = .privacyMask f) :
    item.OneCanvas True := ⟨by simp [h], fun c => by simp [Drawable, h]⟩

theorem oneCanvas_graph {f : Graph} (h : item.detail = .graph f) : item.OneCanvas f.graph.linksFit :=
  ⟨by simp [h], fun c => by simp [Drawable, h]⟩

/-- A canvas that is destroyed, then made again for the rectangle. -/
theorem kept_recreate {surface : UInt32 × UInt32} (hcanvas : item.surface.canvas.Sound)
    (hone : ∀ t : OverlayItem, t.detail = item.detail → t.OneCanvas True) :
    Kept ((item.setSurface surface).destroySurface.bind (·.createTextSurface a)) ↔
      Backed (item.width * item.height * 4) surface a.surface := by
  unfold destroySurface
  rw [show (item.setSurface surface).surface.canvas.destroy = some .dangling from hcanvas.destroy]
  refine (kept_createSurface True (hone _ ?_) ?_).trans (and_iff_left trivial) <;> rfl

theorem kept_dateAndTime {f : DateAndTime} {d : OverlayDateTimeType} (h : item.Sound)
    (hdetail : item.detail = .dateAndTime f) (hdata : p.data = .dateTime d) :
    Kept (f.updateParameters item p a) ↔ UpdateProper item p a := by
  unfold DateAndTime.updateParameters UpdateProper
  have hcanvas := ((oneCanvas_dateAndTime hdetail).sound_iff.mp h).1
  simp only [hdetail, hdata]
  by_cases hvalid : p.dstRect.isValid
  · simp only [hvalid, Bool.not_true, Bool.false_eq_true, if_false, true_implies]
    split_ifs with hresized
    · rw [imp_iff_right (show Resized item p from hresized)]
      exact kept_recreate hcanvas fun t ht => oneCanvas_dateAndTime ht
    · refine iff_of_true (kept_some.mpr ?_) fun h => absurd h hresized
      exact (oneCanvas_dateAndTime rfl).sound_iff.mpr ⟨hcanvas, trivial⟩
  · simp [hvalid, kept_some, h]

/-- The canvas of a text as an update leaves it, before the words are read. -/
theorem kept_place {f : Text} (h : item.Sound) (hdetail : item.detail = .text f) :
    (Kept (Text.place item p a) ↔ (Resized item p → Backed
      (p.dstRect.width.toUInt32 * p.dstRect.height.toUInt32 * 4)
      (Text.surfaceSize p.dstRect.width.toUInt32 p.dstRect.height.toUInt32) a.surface)) ∧
      ∀ ret t, Text.place item p a = some (ret, t) → t.detail = .text f ∧
        (t.Sound → (ret ≠ .ok ↔ Resized item p ∧ a.surface = .notMapped)) := by
  have hcanvas := ((oneCanvas_text hdetail).sound_iff.mp h).1
  let placed : OverlayItem := { item.setRect p.dstRect with locationType := p.location }
  have hplaced : placed.detail = .text f := hdetail
  have hcanvas' : placed.surface.canvas.Sound := hcanvas
  by_cases hresized : Resized item p
  · have heq : Text.place item p a = (placed.setSurface (Text.surfaceSize placed.width
        placed.height)).destroySurface.bind (·.createTextSurface a) := if_pos hresized
    rw [heq]
    refine ⟨?_, fun ret t ht => ?_⟩
    · rw [kept_recreate hcanvas' fun t ht => oneCanvas_text (f := f) (ht.trans hplaced)]
      exact (imp_iff_right hresized).symm
    · obtain ⟨u, hu, ht⟩ := Option.bind_eq_some_iff.mp ht
      obtain ⟨c, hc, rfl⟩ := Option.map_eq_some_iff.mp hu
      refine ⟨(createSurface_detail ht (by simp [setSurface, hplaced])).trans hplaced, fun hsound => ?_⟩
      obtain ⟨-, -, rfl⟩ | ⟨memory, v, -, -, ⟨hmapped, rfl, -⟩ | ⟨hmapped, rfl, -⟩⟩ :=
        createSurface_cases ht
      · -- without memory the pointers to the old canvas are left
        have hold : placed.surface.canvas.destroy = some .dangling := hcanvas'.destroy
        exact absurd (Option.some.inj (hc.symm.trans hold)) hsound.owned
      · simp [hresized, hmapped]
      · simp [hmapped]
  · have heq : Text.place item p a = some (.ok, placed) := if_neg hresized
    rw [heq]
    refine ⟨iff_of_true (kept_some.mpr ((oneCanvas_text hplaced).sound_iff.mpr ⟨hcanvas', trivial⟩))
      fun hr => absurd hr hresized, fun ret t ht => ?_⟩
    obtain ⟨rfl, rfl⟩ := Prod.mk.inj (Option.some.inj ht)
    exact ⟨hplaced, fun _ => by simp [hresized]⟩

/-- What is done once the canvases are there. -/
theorem kept_bind {created : Option (Status × OverlayItem)}
    {rest : Status × OverlayItem → Option (Status × OverlayItem)}
    (g : OverlayItem → Option (Status × OverlayItem))
    (hrest : ∀ ret t, rest (ret, t) = if ret ≠ .ok then some (ret, t) else g t) :
    Kept (created.bind rest) ↔
      ∃ ret t, created = some (ret, t) ∧ if ret ≠ .ok then t.Sound else Kept (g t) := by
  rcases created with - | ⟨ret, t⟩
  · simp [not_kept_none]
  · rw [Option.bind_some, hrest]
    by_cases hret : ret = .ok <;> simp [hret, kept_some]

theorem sound_reword {f : Text} {text : CString 128} (hdetail : item.detail = .text f) :
    (f.reword item p text).Sound ↔ item.Sound := by
  have hword : ∀ t : OverlayItem, (∃ f', t.detail = .text f') → t.surface = item.surface →
      (t.Sound ↔ item.Sound) := fun t ⟨_, ht⟩ hsame => by
    rw [(oneCanvas_text ht).sound_iff, (oneCanvas_text hdetail).sound_iff, hsame]
  refine hword _ ?_ ?_ <;> unfold Text.reword <;> dsimp only <;> split_ifs
  any_goals rfl
  · exact ⟨_, rfl⟩
  · exact ⟨_, rfl⟩
  · exact ⟨_, rfl⟩
  · exact ⟨_, hdetail⟩

theorem kept_text {f : Text} (h : item.Sound) (hdetail : item.detail = .text f) :
    Kept (f.updateParameters item p a) ↔ UpdateProper item p a := by
  obtain ⟨hplace, hends⟩ := kept_place (p := p) (a := a) h hdetail
  have hproper : UpdateProper item p a ↔ (p.dstRect.isValid → TextProper item p a) := by
    unfold UpdateProper
    rw [hdetail]
  rw [hproper, Text.updateParameters]
  by_cases hvalid : p.dstRect.isValid
  swap
  · simp [hvalid, kept_some, h]
  rw [if_neg (by simp [hvalid]), imp_iff_right hvalid]
  unfold TextProper
  cases hdata : p.data with
  | userText text =>
    refine (kept_bind (fun t => some (.ok, f.reword t p text)) fun _ _ => rfl).trans ?_
    dsimp only
    rw [← hplace]
    refine exists_congr fun ret => exists_congr fun t => and_congr_right fun ht => ?_
    split_ifs
    · rfl
    · exact kept_some.trans (sound_reword (hends ret t ht).1)
  | _ =>
    refine (kept_bind (fun _ => none) fun _ _ => rfl).trans ?_
    dsimp only
    constructor
    · rintro ⟨ret, t, ht, hcase⟩
      split_ifs at hcase with hret
      · obtain ⟨hresized, hmapped⟩ := ((hends ret t ht).2 hcase).mp hret
        exact ⟨hresized, hmapped, hplace.mp ⟨ret, t, ht, hcase⟩ hresized⟩
      · exact absurd hcase not_kept_none
    · rintro ⟨hresized, hmapped, hbacked⟩
      obtain ⟨ret, t, ht, hsound⟩ := hplace.mpr fun _ => hbacked
      refine ⟨ret, t, ht, ?_⟩
      rw [if_pos (((hends ret t ht).2 hsound).mpr ⟨hresized, hmapped⟩)]
      exact hsound

theorem kept_privacyMask {mask : OverlayPrivacyMask} (h : item.Sound) {f : PrivacyMask}
    (hdetail : item.detail = .privacyMask f) (hdata : p.data = .privacyMask mask) :
    Kept (PrivacyMask.updateParameters item p) ↔ UpdateProper item p a := by
  unfold PrivacyMask.updateParameters UpdateProper
  have hcanvas := ((oneCanvas_privacyMask hdetail).sound_iff.mp h).1
  simp only [hdetail, hdata, iff_true]
  split_ifs
  · exact kept_some.mpr h
  · exact kept_some.mpr ((oneCanvas_privacyMask rfl).sound_iff.mpr ⟨hcanvas, trivial⟩)

theorem kept_graph {graph : OverlayGraph} (h : item.Sound) {f : Graph}
    (hdetail : item.detail = .graph f) (hdata : p.data = .graph graph) :
    Kept (Graph.updateParameters item p) ↔ UpdateProper item p a := by
  unfold Graph.updateParameters UpdateProper
  have hcanvas := ((oneCanvas_graph hdetail).sound_iff.mp h).1
  simp only [hdetail, hdata]
  by_cases hvalid : p.dstRect.isValid
  · by_cases hcounts : graph.countsFit
    · simp only [hvalid, hcounts, Bool.not_true, Bool.false_eq_true, if_false, true_implies]
      rw [kept_some, (oneCanvas_graph rfl).sound_iff]
      exact and_iff_right hcanvas
    · simp [hvalid, hcounts, kept_some, h]
  · simp [hvalid, kept_some, h]

theorem kept_staticImage {f : StaticImage} {info : OverlayImageInfo} (h : item.Sound)
    (hdetail : item.detail = .staticImage f) (hdata : p.data = .imageInfo info) :
    Kept (f.updateParameters item p) ↔ UpdateProper item p a := by
  have himage : ∀ (t : OverlayItem) (f : StaticImage), t.detail = .staticImage f →
      t.surface.canvas = item.surface.canvas → t.Sound := fun t f ht hcanvas =>
    ⟨by simp [Drawable, ht], by rw [hcanvas]; exact h.owned⟩
  unfold StaticImage.updateParameters UpdateProper
  simp only [hdetail, hdata]
  by_cases hpath : f.imagePath = info.imageLocation
  · by_cases harea : p.dstRect.hasArea
    · simp only [hpath, ne_eq, not_true_eq_false, harea, Bool.not_true, Bool.false_eq_true, if_false,
        true_implies]
      cases htype : f.imageType with
      | filePath => exact iff_of_true (kept_some.mpr (himage _ f hdetail rfl)) (by simp)
      | blobType =>
        cases hupdated : info.bufferUpdated with
        | false => exact iff_of_true (kept_some.mpr (himage _ _ rfl rfl)) (by simp)
        | true =>
          simp only [Bool.not_true, Bool.false_eq_true, if_false, true_implies]
          split_ifs with hsize
          · exact iff_of_true (kept_some.mpr (himage _ _ rfl rfl)) hsize
          · exact iff_of_false not_kept_none hsize
    · simp [hpath, harea, kept_some, h]
  · simp [hpath, kept_some, h]

theorem sound_refresh {f : BoundingBox} {name : CString 128} (hdetail : item.detail = .boundingBox f) :
    (f.refresh item p name).Sound ↔ item.Sound := by
  rw [sound_box hdetail, sound_box (rfl : (f.refresh item p name).detail = .boundingBox _)]
  rfl

theorem recreateSurface_box {f : BoundingBox} (height : UInt32) (hcanvas : item.surface.canvas.Sound)
    (htext : f.textSurface.canvas.Sound) :
    ∃ ret t f', f.recreateSurface item a height = some (ret, t) ∧ t.detail = .boundingBox f' ∧
      (t.Sound ↔ BoxCanvases (item.surface.width, height) a ∧ Legal (item.surface.width, height)) ∧
      (BoxCanvases (item.surface.width, height) a → (ret = .ok ↔ a.textSurface = .ok)) := by
  let lost : BoundingBox :=
    { f with bboxName := .empty, textSurface := { f.textSurface with canvas := .dangling } }
  let bare : OverlayItem := { item with
    dirty := true, detail := .boundingBox lost,
    surface := { item.surface with height, canvas := .dangling } }
  have heq : f.recreateSurface item a height = lost.createSurface bare a := by
    have hmain : (item.setSurface (item.surface.width, height)).surface.canvas.destroy =
      some .dangling := hcanvas.destroy
    simp only [BoundingBox.recreateSurface, destroySurface, hmain, htext.destroy, Option.map_some,
      Option.bind_eq_bind, Option.bind_some]
    rfl
  obtain ⟨ret, t, f', hcreate, ht, hcase⟩ :=
    createSurface_box (a := a) (rfl : bare.detail = .boundingBox lost)
  have hkept := kept_createSurface_box (a := a) (rfl : bare.detail = .boundingBox lost) rfl
  rw [hcreate, kept_some] at hkept
  refine ⟨ret, t, f', heq.trans hcreate, ht, hkept, fun hcanvases => ?_⟩
  exact (if_pos (show BoxCanvases (bare.surface.width, bare.surface.height) a from hcanvases) ▸ hcase).2.2

/-- The canvases of a box as an update leaves them, before the name is read. -/
theorem kept_placeBox {f : BoundingBox} (h : item.Sound) (hdetail : item.detail = .boundingBox f) :
    let surface := (item.surface.width, BoundingBox.surfaceHeight item.surface.width
      p.dstRect.width.toUInt32 p.dstRect.height.toUInt32)
    ∃ ret t f', f.place item p a = some (ret, t) ∧ t.detail = .boundingBox f' ∧
      (t.Sound ↔ (item.surface.height ≠ surface.2 → BoxCanvases surface a ∧ Legal surface)) ∧
      (t.Sound → (ret ≠ .ok ↔ item.surface.height ≠ surface.2 ∧ a.textSurface ≠ .ok)) := by
  intro surface
  obtain ⟨hcanvas, htext⟩ := (sound_box hdetail).mp h
  have hplaced : (item.setRect p.dstRect).detail = .boundingBox f := hdetail
  by_cases hheight : item.surface.height ≠ surface.2
  · obtain ⟨ret, t, f', hcreate, ht, hsound, hret⟩ := recreateSurface_box (a := a) surface.2
      (show (item.setRect p.dstRect).surface.canvas.Sound from hcanvas) htext
    refine ⟨ret, t, f', (if_pos hheight).trans hcreate, ht,
      hsound.trans (imp_iff_right hheight).symm, fun hkept => ?_⟩
    exact (not_congr (hret (hsound.mp hkept).1)).trans (and_iff_right hheight).symm
  · refine ⟨.ok, _, f, if_neg hheight, hplaced, iff_of_true ?_ fun hnew => absurd hnew hheight,
      fun _ => by simp [hheight]⟩
    exact (sound_box hplaced).mpr ⟨hcanvas, htext⟩

theorem kept_boundingBox {f : BoundingBox} (h : item.Sound) (hdetail : item.detail = .boundingBox f) :
    Kept (f.updateParameters item p a) ↔ UpdateProper item p a := by
  have hproper : UpdateProper item p a ↔ (p.dstRect.isValid → BoxProper item p a) := by
    unfold UpdateProper
    rw [hdetail]
  rw [hproper, BoundingBox.updateParameters]
  by_cases hvalid : p.dstRect.isValid
  swap
  · simp [hvalid, kept_some, h]
  obtain ⟨ret, t, f', hplace, ht, hsound, hret⟩ := kept_placeBox (p := p) (a := a) h hdetail
  rw [if_neg (by simp [hvalid]), imp_iff_right hvalid, hplace, Option.bind_some]
  unfold BoxProper
  dsimp only
  rw [ht]
  cases p.data with
  | boundingBox name =>
    rw [← hsound]
    split_ifs
    · exact kept_some
    · exact kept_some.trans (sound_refresh ht)
  | _ =>
    dsimp only
    constructor
    · intro hkept
      split_ifs at hkept with hfailed
      · have hkept := kept_some.mp hkept
        obtain ⟨hheight, htext⟩ := (hret hkept).mp hfailed
        exact ⟨hheight, hsound.mp hkept hheight, htext⟩
      · exact absurd hkept not_kept_none
    · rintro ⟨hheight, hcanvases, htext⟩
      have hkept := hsound.mpr fun _ => hcanvases
      rw [if_pos ((hret hkept).mpr ⟨hheight, htext⟩)]
      exact kept_some.mpr hkept

/-- A member of the union that is not there is reached once the rectangle is accepted. -/
theorem kept_mismatch (h : item.Sound) :
    Kept (if !p.dstRect.isValid then some (.badValue, item) else none) ↔ p.dstRect.isValid = false := by
  cases p.dstRect.isValid <;> simp [kept_some, not_kept_none, h]

/-- `UpdateParameters` on a sound item is harmless exactly when the parameters are proper. -/
theorem kept_updateParameters (h : item.Sound) :
    Kept (item.updateParameters p a) ↔ UpdateProper item p a := by
  unfold OverlayItem.updateParameters
  cases hdetail : item.detail with
  | dateAndTime f =>
    cases hdata : p.data with
    | dateTime d => exact kept_dateAndTime h hdetail hdata
    | _ =>
      simp only [DateAndTime.updateParameters, UpdateProper, hdetail, hdata]
      exact kept_mismatch h
  | staticImage f =>
    cases hdata : p.data with
    | imageInfo info => exact kept_staticImage h hdetail hdata
    | _ => simp [StaticImage.updateParameters, UpdateProper, hdetail, hdata, not_kept_none]
  | boundingBox f => exact kept_boundingBox h hdetail
  | text f => exact kept_text h hdetail
  | privacyMask f =>
    cases hdata : p.data with
    | privacyMask mask => exact kept_privacyMask h hdetail hdata
    | _ =>
      simp only [PrivacyMask.updateParameters, UpdateProper, hdetail, hdata]
      exact kept_mismatch h
  | graph f =>
    cases hdata : p.data with
    | graph graph => exact kept_graph h hdetail hdata
    | _ =>
      simp only [Graph.updateParameters, UpdateProper, hdetail, hdata]
      exact kept_mismatch h

end OverlayItem

end QmmfSdk.Overlays
