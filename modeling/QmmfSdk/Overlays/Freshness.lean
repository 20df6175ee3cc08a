import QmmfSdk.Overlays.Items
import QmmfSdk.Overlays.Stored

/-! What is on the canvas of an item, and when it is out of date. -/
namespace QmmfSdk.Overlays

open Library Std

namespace OverlayItem

variable {item t : OverlayItem} {p : OverlayParam} {a : Answers} {ret : Status} {now : Nat}
  {size : UInt32} {draws : Bool}

/-- An item that is not dirty shows its parameters; a date and time shows the second it was drawn in. -/
def Coherent (item : OverlayItem) : Prop :=
  match item.detail with
  | .staticImage _ => True
  | .dateAndTime f => item.dirty = true ∧
      (f.prevTime = 0 ∨ ∃ type color, item.drawn = some (.date type color f.prevTime))
  | _ => item.dirty = true ∨ item.drawn = item.picture 0

/-- A date of which this second is drawn already. -/
def DrawnIn (item : OverlayItem) (now : Nat) : Prop :=
  ∃ f, item.detail = .dateAndTime f ∧ f.prevTime = now ∧
    (now = 0 ∨ ∃ type color, item.drawn = some (.date type color now))

/-- What is blitted in the second `now` of an item that was `old`: what there is to draw, but that a date
keeps its picture of this second under any type and colour. -/
def Shows (old item : OverlayItem) (now : Nat) : Prop :=
  match item.detail with
  | .staticImage _ => True
  | .dateAndTime _ => item.drawn = item.picture now ∨ (old.DrawnIn now ∧ item.drawn = old.drawn)
  | _ => item.drawn = item.picture now

theorem Coherent.updateAndDraw (h : item.Coherent) (ht : item.updateAndDraw now = some t) :
    t.Coherent ∧ item.Shows t now := by
  unfold OverlayItem.updateAndDraw at ht
  unfold Coherent at h
  cases hd : item.detail with
  | dateAndTime f =>
    simp only [hd] at h ht
    split_ifs at ht with hskip
    · obtain rfl := Option.some.inj ht
      have hprev : f.prevTime = now := by simpa [h.1] using hskip
      refine ⟨by simpa [Coherent, hd] using h, ?_⟩
      have hdrawn : item.DrawnIn now := ⟨f, hd, hprev, hprev ▸ h.2⟩
      simpa [Shows, hd] using .inr hdrawn
    · unfold paint at ht
      split_ifs at ht
      obtain rfl := Option.some.inj ht
      exact ⟨⟨h.1, .inr ⟨_, _, rfl⟩⟩, .inl rfl⟩
  | staticImage f =>
    simp only [hd] at ht
    obtain rfl := Option.some.inj ht
    exact ⟨by simp [Coherent, hd], by simp [Shows, hd]⟩
  | _ =>
    simp only [hd] at h ht
    split_ifs at ht with hclean
    · obtain rfl := Option.some.inj ht
      refine ⟨by simpa [Coherent, hd] using h, ?_⟩
      have hdrawn := h.resolve_left (by simpa using hclean)
      simpa [Shows, hd, picture] using hdrawn
    · unfold paint at ht
      split_ifs at ht
      obtain rfl := Option.some.inj ht
      exact ⟨.inr rfl, rfl⟩

theorem coherent_of_dirty (hdirty : item.dirty = true)
    (hdate : ∀ f, item.detail = .dateAndTime f → f.prevTime = 0) : item.Coherent := by
  unfold Coherent
  cases hd : item.detail with
  | dateAndTime f => exact ⟨hdirty, .inl (hdate f hd)⟩
  | staticImage f => trivial
  | _ => exact .inl hdirty

theorem Coherent.withSize (h : item.Coherent) :
    { item with surface := { item.surface with size } }.Coherent := by
  unfold Coherent at h ⊢
  cases hd : item.detail with
  | staticImage f => trivial
  | _ => simpa [hd, picture] using h

/-- A dirty item gets its new canvas, with or without a picture. -/
theorem coherent_createSurface (h : item.createSurface a size draws = some (ret, t))
    (hdirty : item.dirty = true) (hdate : ∀ f, item.detail = .dateAndTime f → f.prevTime = 0) :
    t.Coherent := by
  obtain ⟨-, -, rfl⟩ | ⟨memory, u, -, hu, hend⟩ := createSurface_cases h
  · exact coherent_of_dirty hdirty hdate
  · have hblank : (item.withCanvas memory).Coherent := coherent_of_dirty hdirty hdate
    have hcoherent : u.Coherent := by
      split_ifs at hu
      · exact (hblank.updateAndDraw hu).1
      · exact Option.some.inj hu ▸ hblank
    obtain ⟨-, -, rfl⟩ | ⟨-, -, rfl⟩ := hend
    · exact hcoherent
    · exact hcoherent.withSize

/-- A new item is not drawn yet. -/
theorem createSurface_new (h : item.createSurface a size draws = some (ret, t))
    (hdirty : item.dirty = false) : t.detail = item.detail := by
  obtain ⟨-, -, rfl⟩ | ⟨memory, u, -, hu, hend⟩ := createSurface_cases h
  · rfl
  · have hdetail : u.detail = item.detail := by
      split_ifs at hu
      · unfold updateAndDraw at hu
        cases hd : item.detail <;> simp [withCanvas, hd, hdirty] at hu <;> exact hu ▸ rfl
      · exact Option.some.inj hu ▸ rfl
    obtain ⟨-, -, rfl⟩ | ⟨-, -, rfl⟩ := hend <;> exact hdetail

/-- A new item is dirty, but for an image. -/
theorem coherent_init (h : init p a = some (.ok, item)) :
    { item with dirty := !p.isImage }.Coherent := by
  have hget := congrArg OverlayParam.data (init_stored h).1
  obtain ⟨location, color, rect, data⟩ := p
  cases data with
  | imageInfo info =>
    unfold Coherent
    unfold OverlayParam.created OverlayParam.stored at hget
    cases hd : item.detail with
    | staticImage f => trivial
    | _ =>
      simp only [getParameters, hd] at hget
      split_ifs at hget
  | dateTime d =>
    refine coherent_of_dirty rfl fun f hf => ?_
    simp only [init, DateAndTime.init] at h
    split_ifs at h
    · cases h
    · have hdetail := createSurface_new h rfl
      have hdate : Detail.dateAndTime f = .dateAndTime { dateTimeType := d, textColor := color } :=
        hf.symm.trans hdetail
      cases hdate
      rfl
  | _ =>
    refine coherent_of_dirty rfl fun f hf => ?_
    have hdate : item.detail = .dateAndTime f := hf
    simp only [getParameters, hdate] at hget
    cases hget

theorem recreate_coherent {new : OverlayItem}
    (h : new.destroySurface.bind (·.createTextSurface a) = some (ret, t))
    (hdate : ∀ f, new.detail = .dateAndTime f → f.prevTime = 0) : t.Coherent := by
  obtain ⟨u, hu, h⟩ := Option.bind_eq_some_iff.mp h
  obtain ⟨c, -, rfl⟩ := Option.map_eq_some_iff.mp hu
  exact coherent_createSurface h rfl hdate

theorem coherent_dateAndTime {f : DateAndTime} (hitem : item.Coherent) (hdetail : item.detail = .dateAndTime f)
    (h : f.updateParameters item p a = some (ret, t)) : t.Coherent := by
  unfold DateAndTime.updateParameters at h
  split_ifs at h
  · obtain ⟨-, rfl⟩ := Prod.mk.inj (Option.some.inj h)
    exact hitem
  · cases hdata : p.data with
    | dateTime d =>
      simp only [hdata] at h
      split_ifs at h
      · refine recreate_coherent h fun f' hf => ?_
        cases hf
        rfl
      · obtain ⟨-, rfl⟩ := Prod.mk.inj (Option.some.inj h)
        unfold Coherent at hitem
        simp only [hdetail] at hitem
        exact hitem
    | _ => simp only [hdata] at h; cases h

/-- A text is dirty as soon as it has another colour or other words. -/
theorem coherent_text {f : Text} (hitem : item.Coherent) (hdetail : item.detail = .text f)
    (h : f.updateParameters item p a = some (ret, t)) : t.Coherent := by
  have hword : ∀ u : OverlayItem, u.dirty = true → (∃ f', u.detail = .text f') → u.Coherent :=
    fun u hdirty ⟨f', hf'⟩ => coherent_of_dirty hdirty fun f hf => by rw [hf'] at hf; cases hf
  unfold Text.updateParameters at h
  split at h
  · obtain ⟨-, rfl⟩ := Prod.mk.inj (Option.some.inj h)
    exact hitem
  · obtain ⟨⟨r, u⟩, hu, h⟩ := Option.bind_eq_some_iff.mp h
    have htext := (place_text hdetail hu).2.1
    have hcoherent : u.Coherent := by
      unfold Text.place at hu
      dsimp only at hu
      split at hu
      · refine recreate_coherent hu fun f' hf => ?_
        have hf : item.detail = .dateAndTime f' := hf
        rw [hdetail] at hf
        cases hf
      · obtain ⟨-, rfl⟩ := Prod.mk.inj (Option.some.inj hu)
        unfold Coherent at hitem ⊢
        simp only [hdetail, setRect_detail, picture] at hitem ⊢
        exact hitem
    dsimp only at h
    split at h
    · obtain ⟨-, rfl⟩ := Prod.mk.inj (Option.some.inj h)
      exact hcoherent
    · split at h
      · next text _ =>
        obtain ⟨-, rfl⟩ := Prod.mk.inj (Option.some.inj h)
        obtain ⟨-, hreworded, hdirty | hsame⟩ := reword_frame (p := p) text htext
        · exact hword _ hdirty ⟨_, hreworded⟩
        · rw [hsame]
          exact hcoherent
      · cases h

theorem createSurface_box_dirty {f : BoundingBox} (h : f.createSurface item a = some (ret, t)) :
    t.dirty = item.dirty := by
  unfold BoundingBox.createSurface createFlatSurface at h
  obtain ⟨⟨r, u⟩, hu, heq⟩ := Option.map_eq_some_iff.mp h
  have hdirty : u.dirty = item.dirty := by
    obtain ⟨-, -, rfl⟩ | ⟨memory, v, -, hv, ⟨-, -, rfl⟩ | ⟨-, -, rfl⟩⟩ := createSurface_cases hu
    · rfl
    all_goals exact Option.some.inj hv ▸ rfl
  dsimp only at heq
  split at heq
  · obtain ⟨-, rfl⟩ := Prod.mk.inj heq
    exact hdirty
  · split at heq
    · obtain ⟨-, rfl⟩ := Prod.mk.inj heq
      exact hdirty
    · split at heq <;> obtain ⟨-, rfl⟩ := Prod.mk.inj heq <;> exact hdirty

theorem recreateSurface_dirty {f : BoundingBox} {height : UInt32}
    (h : f.recreateSurface item a height = some (ret, t)) : t.dirty = true := by
  unfold BoundingBox.recreateSurface at h
  obtain ⟨u, hu, h⟩ := Option.bind_eq_some_iff.mp h
  obtain ⟨c, -, h⟩ := Option.bind_eq_some_iff.mp h
  obtain ⟨c', -, rfl⟩ := Option.map_eq_some_iff.mp hu
  exact createSurface_box_dirty h

/-- A box that is not dirty after an update looks as before. -/
theorem coherent_refresh {f : BoundingBox} {name : CString 128}
    (h : item.dirty = true ∨ item.drawn =
      some (.box f.bboxName f.bboxColor f.boxStrokeWidth item.surface.width item.surface.height)) :
    (f.refresh item p name).Coherent := by
  change (_ || _ || _ || _) = true ∨ _ = _
  rcases h with hdirty | hdrawn
  · exact .inl (by simp [hdirty])
  · by_cases hsame : f.boxStrokeWidth = BoundingBox.strokeWidth item.surface.width item.width ∧
        f.bboxColor = p.color ∧ f.bboxName = name
    · obtain ⟨hstroke, hcolor, hname⟩ := hsame
      refine .inr ?_
      simp only [BoundingBox.refresh, picture, ← hstroke, ← hcolor, ← hname, hdrawn, ne_eq,
        not_true_eq_false, if_false]
    · refine .inl ?_
      simp only [Bool.or_eq_true, decide_eq_true_eq]
      tauto

theorem coherent_boundingBox {f : BoundingBox} (hitem : item.Coherent)
    (hdetail : item.detail = .boundingBox f) (h : f.updateParameters item p a = some (ret, t)) :
    t.Coherent := by
  unfold BoundingBox.updateParameters at h
  split at h
  · obtain ⟨-, rfl⟩ := Prod.mk.inj (Option.some.inj h)
    exact hitem
  · obtain ⟨⟨r, u⟩, hu, h⟩ := Option.bind_eq_some_iff.mp h
    obtain ⟨f', hbox, hlook⟩ : ∃ f', u.detail = .boundingBox f' ∧ (u.dirty = true ∨ u.drawn =
        some (.box f'.bboxName f'.bboxColor f'.boxStrokeWidth u.surface.width u.surface.height)) := by
      unfold BoundingBox.place at hu
      dsimp only at hu
      split at hu
      · obtain ⟨-, -, f', hbox, -⟩ := recreateSurface_place hu
        exact ⟨f', hbox, .inl (recreateSurface_dirty hu)⟩
      · obtain ⟨-, rfl⟩ := Prod.mk.inj (Option.some.inj hu)
        unfold Coherent at hitem
        simp only [hdetail, picture] at hitem
        exact ⟨f, hdetail, hitem⟩
    dsimp only at h
    split at h
    · obtain ⟨-, rfl⟩ := Prod.mk.inj (Option.some.inj h)
      unfold Coherent
      simpa only [hbox, picture] using hlook
    · rw [hbox] at h
      split at h
      · next g name hsame hdata =>
        obtain rfl := Detail.boundingBox.inj hsame
        obtain ⟨-, rfl⟩ := Prod.mk.inj (Option.some.inj h)
        exact coherent_refresh hlook
      · cases h

/-- Masks and graphs are drawn again after every update. -/
theorem coherent_privacyMask (hitem : item.Coherent)
    (h : PrivacyMask.updateParameters item p = some (ret, t)) : t.Coherent := by
  unfold PrivacyMask.updateParameters at h
  split at h
  · obtain ⟨-, rfl⟩ := Prod.mk.inj (Option.some.inj h)
    exact hitem
  · split at h
    · obtain ⟨-, rfl⟩ := Prod.mk.inj (Option.some.inj h)
      exact .inl rfl
    · cases h

theorem coherent_graph (hitem : item.Coherent)
    (h : Graph.updateParameters item p = some (ret, t)) : t.Coherent := by
  unfold Graph.updateParameters at h
  split at h
  · obtain ⟨-, rfl⟩ := Prod.mk.inj (Option.some.inj h)
    exact hitem
  · split at h
    · split at h <;> obtain ⟨-, rfl⟩ := Prod.mk.inj (Option.some.inj h)
      · exact hitem
      · exact .inl rfl
    · cases h

theorem coherent_of_image {f : StaticImage} (hdetail : item.detail = .staticImage f) : item.Coherent := by
  simp only [Coherent, hdetail]

theorem coherent_staticImage {f : StaticImage} (hdetail : item.detail = .staticImage f)
    (h : f.updateParameters item p = some (ret, t)) : t.Coherent := by
  unfold StaticImage.updateParameters at h
  split at h
  · dsimp only at h
    split at h
    · obtain ⟨-, rfl⟩ := Prod.mk.inj (Option.some.inj h)
      exact coherent_of_image hdetail
    · split at h
      · obtain ⟨-, rfl⟩ := Prod.mk.inj (Option.some.inj h)
        exact coherent_of_image hdetail
      · cases htype : f.imageType with
        | filePath =>
          simp only [htype] at h
          obtain ⟨-, rfl⟩ := Prod.mk.inj (Option.some.inj h)
          exact coherent_of_image (f := f) hdetail
        | blobType =>
          simp only [htype] at h
          split_ifs at h <;> obtain ⟨-, rfl⟩ := Prod.mk.inj (Option.some.inj h) <;>
            exact coherent_of_image rfl
  · cases h

theorem Coherent.updateParameters (hitem : item.Coherent) (h : item.updateParameters p a = some (ret, t)) :
    t.Coherent := by
  unfold OverlayItem.updateParameters at h
  cases hdetail : item.detail <;> simp only [hdetail] at h
  case dateAndTime f => exact coherent_dateAndTime hitem hdetail h
  case staticImage f => exact coherent_staticImage hdetail h
  case boundingBox f => exact coherent_boundingBox hitem hdetail h
  case text f => exact coherent_text hitem hdetail h
  case privacyMask f => exact coherent_privacyMask hitem h
  case graph f => exact coherent_graph hitem h

end OverlayItem

namespace Overlay

variable {s t : Overlay} {as : List Call}

theorem itemRule_coherent : ItemRule OverlayItem.Coherent where
  init _ _ _ h := OverlayItem.coherent_init h
  update _ _ _ _ _ hitem h := hitem.updateParameters h
  activate _ _ h := h
  draw _ _ _ hitem h := (hitem.updateAndDraw h).1

/-- A date that is made blue in the second it was drawn in stays as it is, and is blue in the next one. -/
example :
    let type : OverlayDateTimeType := ⟨.hhmm24Hr, .mmddyyyy⟩
    let date : OverlayParam := { color := 7, dstRect := ⟨8, 8, 160, 64⟩, data := .dateTime type }
    let shown := fun now => (LTS.run step {} [.create date {}, .activate 1 true,
      .apply true 1920 1080 fun _ => 5, .update 1 { date with color := 0x0000FFFF } {},
      .apply true 1920 1080 fun _ => now]).bind fun t => (t.overlayItems[(1 : UInt32)]?).bind (·.drawn)
    shown 5 = some (.date type 7 5) ∧ shown 6 = some (.date type 0x0000FFFF 6) := by decide

end Overlay

end QmmfSdk.Overlays
