import QmmfSdk.Overlays.Registry

/-! The parameters that an overlay gives back. -/
namespace QmmfSdk.Overlays

open Library Std

/-- What is left of the parameters that an item was given last. -/
def OverlayParam.stored (p : OverlayParam) : OverlayParam :=
  match p.data with
  | .dateTime _ | .userText _ => p
  | .imageInfo info => { p with color := 0, data := .imageInfo { imageLocation := info.imageLocation } }
  | .boundingBox name =>
    { p with location := .none, data := .boundingBox (name.take BoundingBox.kTextLimit) }
  | .privacyMask _ => { p with location := .none, data := .privacyMask (.rectangle {}) }
  | .graph _ => { p with location := .none, data := .graph {} }

/-- A new blob does not keep a path. -/
def OverlayParam.created (p : OverlayParam) : OverlayParam :=
  match p.data with
  | .imageInfo info =>
    if info.imageType = .blobType then { p with color := 0, data := .imageInfo {} } else p.stored
  | _ => p.stored

/-- The members of a class but for the time of the last drawing. -/
def Detail.settings : Detail → Detail
  | .dateAndTime f => .dateAndTime { f with prevTime := 0 }
  | d => d

theorem Detail.eq_of_settings {d d' : Detail} (h : d.settings = d'.settings)
    (hdate : ∀ f, d' ≠ .dateAndTime f) : d = d' := by
  cases d <;> cases d' <;> simp_all [settings]

/-- A box keeps no more than the first characters of its name. -/
def Detail.Named : Detail → Prop
  | .boundingBox f => f.bboxName.bytes.length ≤ BoundingBox.kTextLimit
  | _ => True

theorem Detail.named_settings {d : Detail} : d.settings.Named ↔ d.Named := by cases d <;> rfl

/-- An item is of the type of the parameters and has their data, also what `GetParameters` leaves out. -/
def Detail.Holds (d : Detail) (p : OverlayParam) : Prop :=
  match d, p.data with
  | .dateAndTime f, .dateTime type => f.dateTimeType = type
  | .staticImage f, .imageInfo info => f.imagePath = info.imageLocation ∧
      (f.imageType = .blobType → f.imageBuffer = info.imageBuffer ∧ f.imageSize = info.imageSize)
  | .boundingBox f, .boundingBox name => f.bboxName = name.take BoundingBox.kTextLimit
  | .text f, .userText name => f.text = name
  | .privacyMask f, .privacyMask mask => f.config = mask ∧ f.maskColor = p.color
  | .graph f, .graph g => f.graph = g ∧ f.graphColor = p.color
  | _, _ => False

theorem Detail.holds_settings {d : Detail} {p : OverlayParam} : d.settings.Holds p ↔ d.Holds p := by
  unfold Holds
  cases d <;> cases p.data <;> rfl

namespace OverlayItem

variable {item t : OverlayItem} {p : OverlayParam} {a : Answers} {ret : Status} {now : Nat}
  {size : UInt32} {draws : Bool}

/-- What neither drawing nor a new surface touches. -/
structure SamePlace (item t : OverlayItem) : Prop where
  x : t.x = item.x
  y : t.y = item.y
  width : t.width = item.width
  height : t.height = item.height
  locationType : t.locationType = item.locationType
  isActive : t.isActive = item.isActive

theorem SamePlace.refl : item.SamePlace item := ⟨rfl, rfl, rfl, rfl, rfl, rfl⟩

theorem SamePlace.trans {u : OverlayItem} (h : item.SamePlace t) (h' : t.SamePlace u) :
    item.SamePlace u :=
  ⟨h'.x.trans h.x, h'.y.trans h.y, h'.width.trans h.width, h'.height.trans h.height,
    h'.locationType.trans h.locationType, h'.isActive.trans h.isActive⟩

/-- Place and settings are what `GetParameters` reads. -/
theorem getParameters_congr (h : item.SamePlace t) (hd : t.detail.settings = item.detail.settings) :
    t.getParameters = item.getParameters := by
  unfold getParameters
  rw [h.x, h.y, h.width, h.height, h.locationType]
  cases hi : item.detail <;> cases ht : t.detail <;> simp_all [Detail.settings]

theorem updateAndDraw_place (h : item.updateAndDraw now = some t) :
    item.SamePlace t ∧ t.detail.settings = item.detail.settings := by
  unfold updateAndDraw at h
  cases hd : item.detail with
  | staticImage f =>
    simp only [hd] at h
    obtain rfl := Option.some.inj h
    exact ⟨.refl, by rw [hd]⟩
  | _ =>
    simp only [hd] at h
    split_ifs at h
    · obtain rfl := Option.some.inj h
      exact ⟨.refl, by rw [hd]⟩
    · unfold paint at h
      split_ifs at h
      obtain rfl := Option.some.inj h
      exact ⟨⟨rfl, rfl, rfl, rfl, rfl, rfl⟩, rfl⟩

theorem createSurface_place (h : item.createSurface a size draws = some (ret, t)) :
    item.SamePlace t ∧ t.detail.settings = item.detail.settings := by
  obtain ⟨-, -, rfl⟩ | ⟨memory, u, -, hu, hend⟩ := createSurface_cases h
  · exact ⟨.refl, rfl⟩
  · have hblank : item.SamePlace (item.withCanvas memory) := ⟨rfl, rfl, rfl, rfl, rfl, rfl⟩
    have hplace : item.SamePlace u ∧ u.detail.settings = item.detail.settings := by
      split_ifs at hu
      · obtain ⟨hplace, hsettings⟩ := updateAndDraw_place hu
        exact ⟨hblank.trans hplace, hsettings⟩
      · exact Option.some.inj hu ▸ ⟨hblank, rfl⟩
    obtain ⟨-, -, rfl⟩ | ⟨-, -, rfl⟩ := hend
    · exact hplace
    · exact ⟨hplace.1.trans ⟨rfl, rfl, rfl, rfl, rfl, rfl⟩, hplace.2⟩

theorem createSurface_accepts (h : item.createSurface a size draws = some (ret, t)) :
    ret ≠ .badValue := by
  obtain ⟨-, rfl, -⟩ | ⟨_, _, -, -, ⟨-, rfl, -⟩ | ⟨-, rfl, -⟩⟩ := createSurface_cases h <;> simp

theorem createSurface_box_place {f : BoundingBox} (hdetail : item.detail = .boundingBox f)
    (h : f.createSurface item a = some (ret, t)) : item.SamePlace t ∧ ret ≠ .badValue ∧
      ∃ f', t.detail = .boundingBox f' ∧ f'.bboxName = f.bboxName ∧ f'.bboxColor = f.bboxColor := by
  unfold BoundingBox.createSurface at h
  obtain ⟨⟨r, u⟩, hu, heq⟩ := Option.map_eq_some_iff.mp h
  obtain ⟨hplace, hsettings⟩ := createSurface_place hu
  have hret := createSurface_accepts hu
  have hbox : u.detail = .boundingBox f :=
    (Detail.eq_of_settings hsettings (by simp [hdetail])).trans hdetail
  dsimp only at heq
  split at heq
  · obtain ⟨rfl, rfl⟩ := Prod.mk.inj heq
    exact ⟨hplace, hret, f, hbox, rfl, rfl⟩
  · split at heq
    · obtain ⟨rfl, rfl⟩ := Prod.mk.inj heq
      exact ⟨hplace, by simp, f, hbox, rfl, rfl⟩
    · split at heq <;> obtain ⟨rfl, rfl⟩ := Prod.mk.inj heq <;>
        exact ⟨hplace.trans ⟨rfl, rfl, rfl, rfl, rfl, rfl⟩, by simp, _, rfl, rfl, rfl⟩

theorem createSurface_image_place {f : StaticImage} (h : f.createSurface item a = some (ret, t)) :
    item.SamePlace t ∧ t.detail = item.detail := by
  unfold StaticImage.createSurface at h
  dsimp only at h
  split at h
  · obtain ⟨-, rfl⟩ := Prod.mk.inj (Option.some.inj h)
    exact ⟨.refl, rfl⟩
  · split_ifs at h <;> obtain ⟨-, rfl⟩ := Prod.mk.inj (Option.some.inj h) <;>
      exact ⟨⟨rfl, rfl, rfl, rfl, rfl, rfl⟩, rfl⟩

/-- What a surface is made for is what the item gives back. -/
theorem getParameters_of_created {new : OverlayItem} (h : new.createSurface a size draws = some (ret, t)) :
    t.getParameters = new.getParameters ∧ t.isActive = new.isActive := by
  obtain ⟨hplace, hsettings⟩ := createSurface_place h
  exact ⟨getParameters_congr hplace hsettings, hplace.isActive⟩

theorem noInit_ok {r : Option (Status × OverlayItem)}
    (h : r.map (fun (ret, item) =>
      if ret ≠ .ok then (Status.noInit, item) else (Status.ok, item)) = some (.ok, t)) :
    r = some (.ok, t) := by
  obtain ⟨⟨ret, u⟩, rfl, heq⟩ := Option.map_eq_some_iff.mp h
  by_cases hret : ret = .ok <;> simp_all

/-- `Init` keeps the parameters, in the form of its class. -/
theorem init_stored (h : init p a = some (.ok, t)) :
    t.getParameters = p.created ∧ t.isActive = false := by
  obtain ⟨location, color, rect, data⟩ := p
  cases data with
  | dateTime d =>
    simp only [init, DateAndTime.init] at h
    split_ifs at h
    · cases h
    · exact getParameters_of_created h
  | userText text =>
    simp only [init, Text.init] at h
    split_ifs at h
    · cases h
    · exact getParameters_of_created h
  | imageInfo info =>
    simp only [init, StaticImage.init] at h
    split_ifs at h
    · cases h
    · cases htype : info.imageType <;> simp only [htype] at h <;>
        obtain ⟨hplace, hdetail⟩ := createSurface_image_place h
      · exact ⟨(getParameters_congr hplace (by rw [hdetail])).trans
          (by simp [OverlayParam.created, OverlayParam.stored, htype]; rfl), hplace.isActive⟩
      · exact ⟨(getParameters_congr hplace (by rw [hdetail])).trans
          (by simp [OverlayParam.created, htype]; rfl), hplace.isActive⟩
  | boundingBox name =>
    simp only [init, BoundingBox.init] at h
    split_ifs at h
    · cases h
    · obtain ⟨hplace, -, f', hdetail, hname, hcolor⟩ := createSurface_box_place rfl (noInit_ok h)
      refine ⟨?_, hplace.isActive⟩
      unfold getParameters
      rw [hplace.x, hplace.y, hplace.width, hplace.height, hdetail]
      simp only [hname, hcolor]
      rfl
  | privacyMask mask =>
    simp only [init, PrivacyMask.init] at h
    split_ifs at h
    · cases h
    · exact getParameters_of_created (noInit_ok h)
  | graph graph =>
    simp only [init, Graph.init] at h
    split_ifs at h
    · cases h
    · cases h
    · exact getParameters_of_created (noInit_ok h)

theorem init_named (h : init p a = some (.ok, t)) : t.detail.Named := by
  have hget := congrArg OverlayParam.data (init_stored h).1
  obtain ⟨location, color, rect, data⟩ := p
  cases hd : t.detail with
  | boundingBox f =>
    simp only [getParameters, hd] at hget
    cases data with
    | boundingBox name =>
      have hname : f.bboxName = name.take BoundingBox.kTextLimit := OverlayData.boundingBox.inj hget
      change f.bboxName.bytes.length ≤ _
      rw [hname]
      exact List.length_take_le _ _
    | imageInfo info =>
      unfold OverlayParam.created OverlayParam.stored at hget
      dsimp only at hget
      split_ifs at hget
    | _ => cases hget
  | _ => trivial

theorem destroySurface_place (h : item.destroySurface = some t) :
    item.SamePlace t ∧ t.detail = item.detail := by
  obtain ⟨c, -, rfl⟩ := Option.map_eq_some_iff.mp h
  exact ⟨⟨rfl, rfl, rfl, rfl, rfl, rfl⟩, rfl⟩

/-- A date or a text whose canvas is made again. -/
theorem recreate_place {new : OverlayItem}
    (h : new.destroySurface.bind (·.createTextSurface a) = some (ret, t)) :
    new.SamePlace t ∧ t.detail.settings = new.detail.settings ∧ ret ≠ .badValue := by
  obtain ⟨u, hu, h⟩ := Option.bind_eq_some_iff.mp h
  obtain ⟨hplace, hdetail⟩ := destroySurface_place hu
  obtain ⟨hplace', hsettings⟩ := createSurface_place h
  exact ⟨hplace.trans hplace', hsettings.trans (by rw [hdetail]), createSurface_accepts h⟩

/-- What an update leaves: the parameters in the form of the class, or nothing new if they are refused. -/
structure Updated (item t : OverlayItem) (p : OverlayParam) (ret : Status) : Prop where
  isActive : t.isActive = item.isActive
  refused : ret = .badValue → t = item
  stored : ret = .ok → t.getParameters = p.stored
  holds : ret = .ok → t.detail.Holds p
  named : t.detail.Named

theorem Updated.badValue (h : item.detail.Named) : item.Updated item p .badValue :=
  ⟨rfl, fun _ => rfl, nofun, nofun, h⟩

theorem updated_dateAndTime {f : DateAndTime} (hdetail : item.detail = .dateAndTime f)
    (h : f.updateParameters item p a = some (ret, t)) : item.Updated t p ret := by
  unfold DateAndTime.updateParameters at h
  obtain ⟨location, color, rect, data⟩ := p
  split_ifs at h
  · obtain ⟨rfl, rfl⟩ := Prod.mk.inj (Option.some.inj h)
    exact .badValue (hdetail ▸ trivial)
  · cases data with
    | dateTime d =>
      dsimp only at h
      split_ifs at h
      · obtain ⟨hplace, hsettings, hret⟩ := recreate_place h
        exact ⟨hplace.isActive, fun h => absurd h hret, fun _ => getParameters_congr hplace hsettings,
          fun _ => Detail.holds_settings.mp (hsettings ▸ rfl),
          Detail.named_settings.mp (hsettings ▸ trivial)⟩
      · obtain ⟨rfl, rfl⟩ := Prod.mk.inj (Option.some.inj h)
        exact ⟨rfl, nofun, fun _ => rfl, fun _ => rfl, trivial⟩
    | _ => cases h

theorem place_text {f : Text} (hdetail : item.detail = .text f)
    (h : Text.place item p a = some (ret, t)) :
    ({ item.setRect p.dstRect with locationType := p.location }).SamePlace t ∧
      t.detail = .text f ∧ ret ≠ .badValue := by
  unfold Text.place at h
  dsimp only at h
  split at h
  · obtain ⟨hplace, hsettings, hret⟩ := recreate_place h
    refine ⟨⟨hplace.x, hplace.y, hplace.width, hplace.height, hplace.locationType,
      hplace.isActive⟩, ?_, hret⟩
    exact (Detail.eq_of_settings hsettings (by simp [OverlayItem.setSurface, hdetail])).trans hdetail
  · obtain ⟨rfl, rfl⟩ := Prod.mk.inj (Option.some.inj h)
    exact ⟨.refl, hdetail, by simp⟩

/-- Only the words and the colour are new, and the item is dirty if they are others. -/
theorem reword_frame {f : Text} (text : CString 128) (hdetail : item.detail = .text f) :
    item.SamePlace (f.reword item p text) ∧
      (f.reword item p text).detail = .text ⟨p.color, text⟩ ∧
      ((f.reword item p text).dirty = true ∨ f.reword item p text = item) := by
  unfold Text.reword
  dsimp only
  by_cases htext : f.text = text <;> by_cases hcolor : f.textColor = p.color <;>
    simp only [htext, hcolor, ne_eq, not_true_eq_false, not_false_eq_true, if_true, if_false]
  · exact ⟨.refl, by rw [hdetail, ← htext, ← hcolor], .inr trivial⟩
  · exact ⟨⟨rfl, rfl, rfl, rfl, rfl, rfl⟩, trivial, .inl trivial⟩
  · exact ⟨⟨rfl, rfl, rfl, rfl, rfl, rfl⟩, trivial, .inl trivial⟩
  · exact ⟨⟨rfl, rfl, rfl, rfl, rfl, rfl⟩, trivial, .inl trivial⟩

theorem updated_text {f : Text} (hdetail : item.detail = .text f)
    (h : f.updateParameters item p a = some (ret, t)) : item.Updated t p ret := by
  unfold Text.updateParameters at h
  split at h
  · obtain ⟨rfl, rfl⟩ := Prod.mk.inj (Option.some.inj h)
    exact .badValue (hdetail ▸ trivial)
  · obtain ⟨⟨r, u⟩, hu, h⟩ := Option.bind_eq_some_iff.mp h
    obtain ⟨hplace, htext, hret⟩ := place_text hdetail hu
    dsimp only at h
    split at h
    · next hne =>
      obtain ⟨rfl, rfl⟩ := Prod.mk.inj (Option.some.inj h)
      exact ⟨hplace.isActive, fun h => absurd h hret, fun h => absurd h hne, fun h => absurd h hne,
        htext ▸ trivial⟩
    · split at h
      · next text hdata =>
        obtain ⟨rfl, rfl⟩ := Prod.mk.inj (Option.some.inj h)
        obtain ⟨hsame, hdetail, -⟩ := reword_frame (p := p) text htext
        have hplace := hplace.trans hsame
        obtain ⟨location, color, rect, data⟩ := p
        obtain rfl := hdata
        refine ⟨hplace.isActive, fun h => absurd h (by decide), fun _ => ?_, fun _ => hdetail ▸ rfl,
          hdetail ▸ trivial⟩
        unfold getParameters OverlayParam.stored
        rw [hplace.x, hplace.y, hplace.width, hplace.height, hplace.locationType, hdetail]
        rfl
      · cases h

theorem refresh_place {f : BoundingBox} {name : CString 128}
    (h : item.SamePlace t) : item.SamePlace (f.refresh t p name) :=
  ⟨h.x, h.y, h.width, h.height, h.locationType, h.isActive⟩

/-- A name that is already there has no more than its first characters. -/
theorem refresh_stored {f : BoundingBox} {name : CString 128} (hdata : p.data = .boundingBox name)
    (hname : f.bboxName.bytes.length ≤ BoundingBox.kTextLimit)
    (h : (item.setRect p.dstRect).SamePlace t) : (f.refresh t p name).getParameters = p.stored := by
  have hplace : (item.setRect p.dstRect).SamePlace (f.refresh t p name) := refresh_place h
  obtain ⟨location, color, rect, data⟩ := p
  obtain rfl := hdata
  unfold getParameters
  rw [hplace.x, hplace.y, hplace.width, hplace.height]
  simp only [BoundingBox.refresh, OverlayParam.stored]
  split_ifs with hsame
  · rfl
  · obtain rfl := not_not.mp hsame
    rw [CString.take_of_length_le hname]
    rfl

theorem refresh_holds {f : BoundingBox} {name : CString 128} (hdata : p.data = .boundingBox name)
    (hname : f.bboxName.bytes.length ≤ BoundingBox.kTextLimit) :
    (f.refresh item p name).detail.Holds p := by
  simp only [BoundingBox.refresh, Detail.Holds, hdata]
  split_ifs with hsame
  · rfl
  · rw [← not_not.mp hsame, CString.take_of_length_le hname]

theorem refresh_named {f : BoundingBox} {name : CString 128}
    (hname : f.bboxName.bytes.length ≤ BoundingBox.kTextLimit) : (f.refresh item p name).detail.Named := by
  simp only [BoundingBox.refresh, Detail.Named]
  split_ifs
  · exact List.length_take_le _ _
  · exact hname

theorem recreateSurface_place {f : BoundingBox} {height : UInt32}
    (h : f.recreateSurface item a height = some (ret, t)) : item.SamePlace t ∧ ret ≠ .badValue ∧
      ∃ f', t.detail = .boundingBox f' ∧ f'.bboxName = .empty := by
  unfold BoundingBox.recreateSurface at h
  obtain ⟨u, hu, h⟩ := Option.bind_eq_some_iff.mp h
  obtain ⟨c, -, h⟩ := Option.bind_eq_some_iff.mp h
  obtain ⟨hplace, -⟩ := destroySurface_place hu
  obtain ⟨hplace', hret, f', hdetail, hname, -⟩ := createSurface_box_place rfl h
  exact ⟨⟨hplace'.x.trans hplace.x, hplace'.y.trans hplace.y, hplace'.width.trans hplace.width,
    hplace'.height.trans hplace.height, hplace'.locationType.trans hplace.locationType,
    hplace'.isActive.trans hplace.isActive⟩, hret, f', hdetail, hname⟩

/-- A box that is made again has no name. -/
theorem place_box {f : BoundingBox} (hdetail : item.detail = .boundingBox f)
    (hname : f.bboxName.bytes.length ≤ BoundingBox.kTextLimit)
    (h : f.place item p a = some (ret, t)) : (item.setRect p.dstRect).SamePlace t ∧ ret ≠ .badValue ∧
      ∃ f', t.detail = .boundingBox f' ∧ f'.bboxName.bytes.length ≤ BoundingBox.kTextLimit := by
  unfold BoundingBox.place at h
  dsimp only at h
  split at h
  · obtain ⟨hplace, hret, f', hbox, hempty⟩ := recreateSurface_place h
    exact ⟨hplace, hret, f', hbox, by rw [hempty]; decide⟩
  · obtain ⟨rfl, rfl⟩ := Prod.mk.inj (Option.some.inj h)
    exact ⟨.refl, by simp, f, hdetail, hname⟩

theorem updated_boundingBox {f : BoundingBox} (hdetail : item.detail = .boundingBox f)
    (hname : f.bboxName.bytes.length ≤ BoundingBox.kTextLimit)
    (h : f.updateParameters item p a = some (ret, t)) : item.Updated t p ret := by
  unfold BoundingBox.updateParameters at h
  split at h
  · obtain ⟨rfl, rfl⟩ := Prod.mk.inj (Option.some.inj h)
    exact .badValue (hdetail ▸ hname)
  · obtain ⟨⟨r, u⟩, hu, h⟩ := Option.bind_eq_some_iff.mp h
    obtain ⟨hplace, hret, f', hbox, hname⟩ := place_box hdetail hname hu
    dsimp only at h
    split at h
    · next hne =>
      obtain ⟨rfl, rfl⟩ := Prod.mk.inj (Option.some.inj h)
      exact ⟨hplace.isActive, fun h => absurd h hret, fun h => absurd h hne, fun h => absurd h hne,
        hbox ▸ hname⟩
    · rw [hbox] at h
      split at h
      · next g name hsame hdata =>
        obtain rfl := Detail.boundingBox.inj hsame
        obtain ⟨rfl, rfl⟩ := Prod.mk.inj (Option.some.inj h)
        exact ⟨hplace.isActive, by simp, fun _ => refresh_stored hdata hname hplace,
          fun _ => refresh_holds hdata hname, refresh_named hname⟩
      · cases h

theorem updated_privacyMask {f : PrivacyMask} (hdetail : item.detail = .privacyMask f)
    (h : PrivacyMask.updateParameters item p = some (ret, t)) :
    item.Updated t p ret := by
  unfold PrivacyMask.updateParameters at h
  obtain ⟨location, color, rect, data⟩ := p
  split at h
  · obtain ⟨rfl, rfl⟩ := Prod.mk.inj (Option.some.inj h)
    exact .badValue (hdetail ▸ trivial)
  · cases data with
    | privacyMask mask =>
      obtain ⟨rfl, rfl⟩ := Prod.mk.inj (Option.some.inj h)
      exact ⟨rfl, nofun, fun _ => rfl, fun _ => ⟨rfl, rfl⟩, trivial⟩
    | _ => cases h

theorem updated_graph {f : Graph} (hdetail : item.detail = .graph f)
    (h : Graph.updateParameters item p = some (ret, t)) : item.Updated t p ret := by
  unfold Graph.updateParameters at h
  obtain ⟨location, color, rect, data⟩ := p
  split at h
  · obtain ⟨rfl, rfl⟩ := Prod.mk.inj (Option.some.inj h)
    exact .badValue (hdetail ▸ trivial)
  · cases data with
    | graph graph =>
      dsimp only at h
      split at h <;> obtain ⟨rfl, rfl⟩ := Prod.mk.inj (Option.some.inj h)
      · exact .badValue (hdetail ▸ trivial)
      · exact ⟨rfl, nofun, fun _ => rfl, fun _ => ⟨rfl, rfl⟩, trivial⟩
    | _ => cases h

theorem updated_staticImage {f : StaticImage} (hdetail : item.detail = .staticImage f)
    (h : f.updateParameters item p = some (ret, t)) : item.Updated t p ret := by
  unfold StaticImage.updateParameters at h
  obtain ⟨location, color, rect, data⟩ := p
  cases data with
  | imageInfo info =>
    dsimp only at h
    split at h
    · obtain ⟨rfl, rfl⟩ := Prod.mk.inj (Option.some.inj h)
      exact .badValue (hdetail ▸ trivial)
    · next hpath =>
      rw [not_not] at hpath
      split at h
      · obtain ⟨rfl, rfl⟩ := Prod.mk.inj (Option.some.inj h)
        exact .badValue (hdetail ▸ trivial)
      · cases htype : f.imageType with
        | filePath =>
          simp only [htype] at h
          obtain ⟨rfl, rfl⟩ := Prod.mk.inj (Option.some.inj h)
          refine ⟨rfl, nofun, fun _ => ?_, fun _ => ?_, by simp [hdetail, Detail.Named]⟩
          · simp only [getParameters, setRect_detail, hdetail, hpath]
            rfl
          · simp [Detail.Holds, hdetail, hpath, htype]
        | blobType =>
          simp only [htype] at h
          split_ifs at h <;> obtain ⟨rfl, rfl⟩ := Prod.mk.inj (Option.some.inj h) <;>
            refine ⟨rfl, nofun, fun _ => ?_, fun _ => ⟨hpath, fun _ => ⟨rfl, rfl⟩⟩, trivial⟩ <;>
            simp only [getParameters, hpath] <;> rfl
  | _ => cases h

theorem updated (hnamed : item.detail.Named) (h : item.updateParameters p a = some (ret, t)) :
    item.Updated t p ret := by
  unfold updateParameters at h
  cases hdetail : item.detail with
  | dateAndTime f => exact updated_dateAndTime hdetail (by simpa [hdetail] using h)
  | staticImage f => exact updated_staticImage hdetail (by simpa [hdetail] using h)
  | boundingBox f =>
    exact updated_boundingBox hdetail (by simpa [hdetail, Detail.Named] using hnamed)
      (by simpa [hdetail] using h)
  | text f => exact updated_text hdetail (by simpa [hdetail] using h)
  | privacyMask f => exact updated_privacyMask hdetail (by simpa [hdetail] using h)
  | graph f => exact updated_graph hdetail (by simpa [hdetail] using h)

end OverlayItem

end QmmfSdk.Overlays
