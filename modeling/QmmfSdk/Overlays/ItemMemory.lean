import QmmfSdk.Overlays.DrawInfo

/-! When an item is made or changed without harm to the memory of the process. -/
namespace QmmfSdk.Overlays

open Library

namespace OverlayItem

variable {item t : OverlayItem} {p : OverlayParam} {a : Answers} {ret : Status} {now : Nat}
  {size : UInt32}

/-- It can be drawn, and its canvas can be destroyed. -/
structure Sound (item : OverlayItem) : Prop where
  drawable : item.Drawable
  owned : item.surface.canvas ≠ .dangling

/-- What drawing leaves alone. -/
structure SameButDrawn (item t : OverlayItem) : Prop where
  surface : t.surface = item.surface
  isActive : t.isActive = item.isActive
  getParameters : t.getParameters = item.getParameters
  getDrawInfo : t.getDrawInfo = item.getDrawInfo
  drawable : t.Drawable ↔ item.Drawable

theorem SameButDrawn.refl : item.SameButDrawn item := ⟨rfl, rfl, rfl, rfl, .rfl⟩

theorem paint_eq_some {picture : Picture} (h : item.paint picture = some t) :
    item.Drawable ∧ t = { item with drawn := some picture } := by
  unfold paint at h
  split_ifs at h with hd
  exact ⟨hd, (Option.some.inj h).symm⟩

theorem drawable_congr {t : OverlayItem} (hdetail : t.detail = item.detail)
    (hsurface : t.surface.canvas = item.surface.canvas) : t.Drawable ↔ item.Drawable := by
  unfold Drawable
  rw [hdetail, hsurface]

theorem updateAndDraw_same (h : item.updateAndDraw now = some t) : item.SameButDrawn t := by
  unfold updateAndDraw at h
  cases hd : item.detail <;> simp only [hd] at h
  case staticImage => exact Option.some.inj h ▸ .refl
  all_goals
    split_ifs at h
    · exact Option.some.inj h ▸ .refl
    · obtain ⟨-, rfl⟩ := paint_eq_some h
      refine ⟨rfl, rfl, by simp [getParameters, hd], ?_, by simp [Drawable, hd]⟩
      funext width height
      simp [getDrawInfo, hd, place]

/-- Only the date and time remember when they were drawn. -/
theorem updateAndDraw_detail (h : item.updateAndDraw now = some t)
    (hdate : ∀ f, item.detail ≠ .dateAndTime f) : t.detail = item.detail := by
  unfold updateAndDraw at h
  cases hd : item.detail <;> simp only [hd] at h
  case dateAndTime f => exact (hdate f hd).elim
  case staticImage => exact Option.some.inj h ▸ hd
  all_goals
    split_ifs at h
    · exact Option.some.inj h ▸ hd
    · obtain ⟨-, rfl⟩ := paint_eq_some h
      rfl

theorem exists_updateAndDraw (now : Nat) (h : item.Drawable) : ∃ t, item.updateAndDraw now = some t := by
  unfold updateAndDraw
  cases hd : item.detail <;> simp only
  case staticImage => exact ⟨item, rfl⟩
  all_goals
    split_ifs
    · exact ⟨item, rfl⟩
    · refine ⟨_, if_pos ?_⟩
      simpa [Drawable, hd] using h

theorem Sound.updateAndDraw (now : Nat) (h : item.Sound) :
    ∃ t, item.updateAndDraw now = some t ∧ t.Sound ∧ item.SameButDrawn t := by
  obtain ⟨t, ht⟩ := exists_updateAndDraw now h.drawable
  have hsame := updateAndDraw_same ht
  exact ⟨t, ht, ⟨hsame.drawable.mpr h.drawable, hsame.surface ▸ h.owned⟩, hsame⟩

theorem isSome_destroy {c : Canvas} : c.destroy.isSome ↔ c ≠ .dangling := by
  cases c <;> simp [Canvas.destroy]

/-- Every sound item can be deleted. -/
theorem Sound.delete (h : item.Sound) : item.delete.isSome := by
  have hown := isSome_destroy.mpr h.owned
  obtain ⟨c, hc⟩ := Option.isSome_iff_exists.mp hown
  unfold OverlayItem.delete
  cases hd : item.detail <;> simp only [hc, Option.map_some, Option.isSome_some]
  case boundingBox f =>
    have hdrawable := h.drawable
    simp only [Drawable, hd] at hdrawable
    rw [hdrawable.2.destroy]
    rfl

/-- `Init` gives an item that is sound, or one that can be deleted. -/
def Made (r : Option (Status × OverlayItem)) : Prop :=
  ∃ ret item, r = some (ret, item) ∧ (ret = .ok → item.Sound) ∧ (ret ≠ .ok → item.delete.isSome)

/-- `UpdateParameters` leaves a sound item, whatever it answers. -/
def Kept (r : Option (Status × OverlayItem)) : Prop := ∃ ret item, r = some (ret, item) ∧ item.Sound

theorem made_some : Made (some (ret, item)) ↔
    (ret = .ok → item.Sound) ∧ (ret ≠ .ok → item.delete.isSome) := by
  constructor
  · rintro ⟨_, _, heq, h⟩
    obtain ⟨rfl, rfl⟩ := Prod.mk.inj (Option.some.inj heq)
    exact h
  · exact fun h => ⟨_, _, rfl, h⟩

theorem kept_some : Kept (some (ret, item)) ↔ item.Sound := by
  constructor
  · rintro ⟨_, _, heq, h⟩
    obtain ⟨rfl, rfl⟩ := Prod.mk.inj (Option.some.inj heq)
    exact h
  · exact fun h => ⟨_, _, rfl, h⟩

theorem not_kept_none : ¬ Kept none := fun ⟨_, _, h, _⟩ => nomatch h

/-- An item with one canvas; `extra` is what else its picture needs. -/
def OneCanvas (item : OverlayItem) (extra : Prop) : Prop :=
  (∀ f, item.detail ≠ .boundingBox f) ∧ ∀ canvas,
    { item with surface := { item.surface with canvas } }.Drawable ↔ canvas.Sound ∧ extra

theorem OneCanvas.sound_withCanvas {extra : Prop} {memory : UInt32} (h : item.OneCanvas extra) :
    (item.withCanvas memory).Sound ↔
      FitsIn item.surface.width item.surface.height memory.toNat ∧ extra :=
  ⟨fun hs => (h.2 _).mp hs.drawable, fun hs => ⟨(h.2 _).mpr hs, by simp [withCanvas]⟩⟩

/-- Memory of the size is there, and it holds the canvas. -/
def Backed (size : UInt32) (surface : UInt32 × UInt32) (outcome : Outcome) : Prop :=
  outcome ≠ .noMemory ∧ roundUp size 4096 ≠ 0 ∧ FitsIn surface.1 surface.2 (roundUp size 4096).toNat

instance (size : UInt32) (surface : UInt32 × UInt32) (outcome : Outcome) :
    Decidable (Backed size surface outcome) :=
  inferInstanceAs (Decidable (_ ∧ _ ∧ _))

theorem allocate_cases (size : UInt32) (outcome : Outcome) :
    (allocateIonMemory size outcome = none ∧ (outcome = .noMemory ∨ roundUp size 4096 = 0)) ∨
      (allocateIonMemory size outcome = some (roundUp size 4096) ∧ outcome ≠ .noMemory ∧
        roundUp size 4096 ≠ 0) := by
  unfold allocateIonMemory
  split_ifs with h
  · exact .inl ⟨rfl, h⟩
  · exact .inr ⟨rfl, not_or.mp h⟩

theorem isSome_delete (hbox : ∀ f, item.detail ≠ .boundingBox f)
    (howned : item.surface.canvas ≠ .dangling) : item.delete.isSome := by
  obtain ⟨c, hc⟩ := Option.isSome_iff_exists.mp (isSome_destroy.mpr howned)
  unfold OverlayItem.delete
  cases hd : item.detail <;> simp only [hc, Option.map_some, Option.isSome_some]
  case boundingBox f => exact (hbox f hd).elim

theorem updateAndDraw_clean (h : item.dirty = false) : item.updateAndDraw now = some item := by
  unfold updateAndDraw
  cases item.detail <;> simp [h]

theorem Sound.withSize (h : item.Sound) :
    { item with surface := { item.surface with size } }.Sound :=
  ⟨(drawable_congr rfl rfl).mpr h.drawable, h.owned⟩

theorem createSurface_eq {draws : Bool} {memory : UInt32}
    (h : allocateIonMemory size a.surface = some memory) : item.createSurface a size draws =
      (if draws then (item.withCanvas memory).updateAndDraw a.now else some (item.withCanvas memory)).map
        fun item => if a.surface = .notMapped then (.failed, item)
          else (.ok, { item with surface := { item.surface with size := memory } }) := by
  unfold createSurface
  rw [h]
  rfl

theorem createSurface_detail {draws : Bool} (h : item.createSurface a size draws = some (ret, t))
    (hdate : ∀ f, item.detail ≠ .dateAndTime f) : t.detail = item.detail := by
  obtain ⟨-, -, rfl⟩ | ⟨memory, u, -, hu, hend⟩ := createSurface_cases h
  · rfl
  · have hdetail : u.detail = item.detail := by
      split_ifs at hu
      · have hsame := updateAndDraw_detail hu hdate
        exact hsame
      · exact Option.some.inj hu ▸ rfl
    obtain ⟨-, -, rfl⟩ | ⟨-, -, rfl⟩ := hend <;> exact hdetail

/-- A new item is not drawn while its surface is made. -/
theorem made_createSurface (extra : Prop) {draws : Bool} (h : item.OneCanvas extra)
    (hdirty : item.dirty = false) (hnew : item.surface.canvas = .none) :
    Made (item.createSurface a size draws) ↔ (a.surface = .ok → roundUp size 4096 ≠ 0 →
      FitsIn item.surface.width item.surface.height (roundUp size 4096).toNat ∧ extra) := by
  obtain ⟨halloc, hno⟩ | ⟨halloc, hmem, hsize⟩ := allocate_cases size a.surface
  · unfold createSurface
    rw [halloc]
    refine ⟨fun _ hok hsize => ?_, fun _ => made_some.mpr ⟨nofun, fun _ => isSome_delete h.1 (by simp [hnew])⟩⟩
    rcases hno with hno | hno
    · rw [hok] at hno
      cases hno
    · exact absurd hno hsize
  · have hdrawn : (if draws then (item.withCanvas (roundUp size 4096)).updateAndDraw a.now
        else some (item.withCanvas (roundUp size 4096))) = some (item.withCanvas (roundUp size 4096)) := by
      split
      · exact updateAndDraw_clean hdirty
      · rfl
    rw [createSurface_eq halloc, hdrawn, Option.map_some]
    split
    · next hmapped =>
      refine iff_of_true (made_some.mpr ⟨by simp, fun _ => ?_⟩) (by simp [hmapped])
      exact isSome_delete h.1 (by simp [withCanvas])
    · next hmapped =>
      have hok : a.surface = .ok := by cases ho : a.surface <;> simp_all
      rw [made_some, ← h.sound_withCanvas]
      refine ⟨fun hs _ _ => ?_, fun hs => ⟨fun _ => (hs hok hsize).withSize, by simp⟩⟩
      exact ⟨(drawable_congr rfl rfl).mp (hs.1 rfl).drawable, by simp [withCanvas]⟩

/-- An item that has lost its canvas. -/
theorem kept_createSurface (extra : Prop) {draws : Bool} (h : item.OneCanvas extra)
    (hold : item.surface.canvas = .dangling) : Kept (item.createSurface a size draws) ↔
      Backed size (item.surface.width, item.surface.height) a.surface ∧ extra := by
  unfold Backed
  obtain ⟨halloc, hno⟩ | ⟨halloc, hmem, hsize⟩ := allocate_cases size a.surface
  · unfold createSurface
    rw [halloc]
    refine iff_of_false (fun hkept => (kept_some.mp hkept).owned hold) fun hb => ?_
    rcases hno with hno | hno
    · exact hb.1.1 hno
    · exact hb.1.2.1 hno
  · simp only [hmem, hsize, ne_eq, not_false_eq_true, true_and]
    rw [createSurface_eq halloc, ← h.sound_withCanvas]
    constructor
    · rintro ⟨ret, t, heq, ht⟩
      obtain ⟨u, hu, heq⟩ := Option.map_eq_some_iff.mp heq
      have hsame : (item.withCanvas (roundUp size 4096)).SameButDrawn u := by
        split at hu
        · exact updateAndDraw_same hu
        · exact Option.some.inj hu ▸ .refl
      have hdrawable : t.Drawable ↔ u.Drawable := by
        split at heq <;> obtain ⟨-, rfl⟩ := Prod.mk.inj heq
        · rfl
        · exact drawable_congr rfl rfl
      exact ⟨hsame.drawable.mp (hdrawable.mp ht.drawable), by simp [withCanvas]⟩
    · intro hs
      have hu : ∃ u, (if draws then (item.withCanvas (roundUp size 4096)).updateAndDraw a.now
          else some (item.withCanvas (roundUp size 4096))) = some u ∧ u.Sound := by
        split
        · obtain ⟨u, hu, hsound, -⟩ := hs.updateAndDraw a.now
          exact ⟨u, hu, hsound⟩
        · exact ⟨_, rfl, hs⟩
      obtain ⟨u, hu, hsound⟩ := hu
      rw [hu, Option.map_some]
      split
      · exact kept_some.mpr hsound
      · exact kept_some.mpr hsound.withSize

end OverlayItem

end QmmfSdk.Overlays
