import QmmfSdk.Overlays.Items
import QmmfSdk.Overlays.Stored

/-! What `GetOverlayParams` gives after any run of calls. -/
namespace QmmfSdk.Overlays

open Library Std

namespace Overlay

variable {s t u : Overlay} {p : OverlayParam} {a : Answers} {id k : UInt32} {item : OverlayItem}
  {ret : Status} {as bs : List Call}

/-- The call is not about the item. -/
def Call.spares (id : UInt32) : Call → Bool
  | .create .. | .activate .. | .apply .. => true
  | .delete k | .update k .. => k ≠ id
  | .process .. => false

/-- Every id is one that was given to a new item. -/
def Numbered (s : Overlay) : Prop := ∀ id ∈ s.overlayItems, 0 < id.toNat ∧ id.toNat ≤ s.id.toNat

theorem numbered_empty : Numbered {} := fun id h => by simp at h

/-- The id of a new item, as long as there are ids left. -/
theorem Numbered.free (hs : s.Numbered) : s.id + 1 ∉ s.overlayItems := fun hmem => by
  obtain ⟨hpos, hle⟩ := hs _ hmem
  have hid := s.id.toNat_lt
  rw [UInt32.toNat_add] at hpos hle
  simp only [UInt32.reduceToNat] at hpos hle
  omega

/-- A box never keeps more of its name than it takes over. -/
theorem itemRule_named : ItemRule fun item => item.detail.Named where
  init _ _ item h := (OverlayItem.init_named h : item.detail.Named)
  update _ _ _ _ _ hnamed h := (OverlayItem.updated hnamed h).named
  activate _ _ h := h
  draw _ _ _ hnamed h :=
    Detail.named_settings.mp ((OverlayItem.updateAndDraw_place h).2 ▸ Detail.named_settings.mpr hnamed)

/-- Drawing leaves alone what the item gives back. -/
theorem drawn_place {new : OverlayItem} {now : UInt32 → Nat} (h : drawn now id item = some new) :
    item.SamePlace new ∧ new.detail.settings = item.detail.settings := by
  unfold drawn at h
  split_ifs at h
  · exact OverlayItem.updateAndDraw_place h
  · exact Option.some.inj h ▸ ⟨.refl, rfl⟩

/-- A call about other items. -/
theorem step_spares {c : Call} (hc : c.spares id) (hitem : s.overlayItems[id]? = some item)
    (h : step s c = some t) :
    ∃ new, t.overlayItems[id]? = some new ∧ new.getParameters = item.getParameters := by
  have hinsert : ∀ k v, k ≠ id → (s.overlayItems.insert k v)[id]? = some item := fun k v hne => by
    simp [ExtTreeMap.getElem?_insert, hne, hitem]
  cases c with
  | create p a =>
    obtain ⟨⟨ret, t⟩, hcreate, rfl⟩ := Option.map_eq_some_iff.mp h
    obtain ⟨-, rfl⟩ | ⟨-, -, ⟨-, heq⟩ | ⟨hnew, new, -, heq⟩⟩ := create_cases hcreate
    · exact ⟨item, hitem, rfl⟩
    · exact ⟨item, by rw [heq, hitem], rfl⟩
    · refine ⟨item, ?_, rfl⟩
      rw [heq]
      refine hinsert _ _ fun hid => hnew ?_
      rw [hid]
      exact ExtTreeMap.mem_iff_isSome_getElem?.mpr (by simp [hitem])
  | delete k =>
    obtain ⟨⟨ret, t⟩, hdelete, rfl⟩ := Option.map_eq_some_iff.mp h
    have hne : k ≠ id := by simpa [Call.spares] using hc
    exact ⟨item, by rw [(delete_cases hdelete).2, if_neg hne.symm, hitem], rfl⟩
  | update k p a =>
    obtain ⟨⟨ret, t⟩, hupdate, rfl⟩ := Option.map_eq_some_iff.mp h
    have hne : k ≠ id := by simpa [Call.spares] using hc
    obtain ⟨-, -, rfl⟩ | ⟨old, new, -, -, rfl⟩ := update_cases hupdate
    · exact ⟨item, hitem, rfl⟩
    · exact ⟨item, hinsert _ _ hne, rfl⟩
  | activate k value =>
    obtain rfl := Option.some.inj h
    obtain ⟨-, heq⟩ | ⟨old, hold, heq⟩ := activate_cases s k value
    · exact ⟨item, by rw [heq, hitem], rfl⟩
    · rw [heq]
      by_cases hk : k = id
      · subst hk
        obtain rfl := Option.some.inj (hold.symm.trans hitem)
        exact ⟨_, ExtTreeMap.getElem?_insert_self, rfl⟩
      · exact ⟨item, hinsert _ _ hk, rfl⟩
  | apply ready width height now =>
    obtain ⟨-, rfl⟩ | ⟨-, hdrawn⟩ := apply_cases h
    · exact ⟨item, hitem, rfl⟩
    · obtain ⟨new, hnew, hget⟩ := hdrawn id item hitem
      obtain ⟨hplace, hsettings⟩ := drawn_place hnew
      exact ⟨new, hget, OverlayItem.getParameters_congr hplace hsettings⟩
  | process list created => simp [Call.spares] at hc

/-- Any number of calls about other items. -/
theorem run_spares (hspares : ∀ c ∈ as, c.spares id) (hitem : s.overlayItems[id]? = some item)
    (h : LTS.run step s as = some t) : t.getOverlayParams id = some item.getParameters := by
  induction as generalizing s item with
  | nil =>
    obtain rfl := Option.some.inj h
    simp [getOverlayParams, hitem]
  | cons c as ih =>
    obtain ⟨u, hu, hrest⟩ := Option.bind_eq_some_iff.mp h
    obtain ⟨new, hnew, hget⟩ := step_spares (hspares c (by simp)) hitem hu
    rw [← hget]
    exact ih (fun c hc => hspares c (by simp [hc])) hnew hrest

/-- There are ids left for all that the call may create. -/
def Room (s : Overlay) (_ : Call) : Prop := s.id.toNat + chunk < 2 ^ 32

instance (s : Overlay) (c : Call) : Decidable (s.Room c) := inferInstanceAs (Decidable (_ < _))

theorem Numbered.create (hs : s.Numbered) (hroom : s.id.toNat + 1 < 2 ^ 32)
    (h : s.createOverlayItem p a = some (ret, t)) : t.Numbered ∧ t.id.toNat ≤ s.id.toNat + 1 := by
  obtain ⟨-, rfl⟩ | ⟨-, hid, ⟨hmem, -⟩ | ⟨-, item, -, heq⟩⟩ := create_cases h
  · exact ⟨hs, by omega⟩
  · exact absurd hmem hs.free
  · have hnew : (s.id + 1).toNat = s.id.toNat + 1 := by
      rw [UInt32.toNat_add]
      simp only [UInt32.reduceToNat]
      omega
    refine ⟨fun k hk => ?_, by rw [hid, hnew]⟩
    rw [heq, ExtTreeMap.mem_insert] at hk
    rw [hid, hnew]
    obtain hk | hk := hk
    · obtain rfl := LawfulEqCmp.compare_eq_iff_eq.mp hk
      omega
    · have := hs k hk
      omega

/-- No call but a new item changes which ids there are. -/
theorem Numbered.of_mem (hs : s.Numbered) (hid : t.id = s.id)
    (hmem : ∀ k ∈ t.overlayItems, k ∈ s.overlayItems) : t.Numbered := fun k hk => by
  rw [hid]
  exact hs k (hmem k hk)

theorem mem_insert_of_getElem? {k : UInt32} {new : OverlayItem} (hitem : s.overlayItems[id]? = some item)
    (hk : k ∈ s.overlayItems.insert id new) : k ∈ s.overlayItems := by
  obtain hk | hk := ExtTreeMap.mem_insert.mp hk
  · obtain rfl := LawfulEqCmp.compare_eq_iff_eq.mp hk
    exact ExtTreeMap.mem_iff_isSome_getElem?.mpr (by simp [hitem])
  · exact hk

theorem Numbered.update (hs : s.Numbered) (h : s.updateOverlayParams p id a = some (ret, t)) :
    t.Numbered := by
  obtain ⟨-, -, rfl⟩ | ⟨item, new, hitem, -, rfl⟩ := update_cases h
  · exact hs
  · exact hs.of_mem rfl fun k hk => mem_insert_of_getElem? hitem hk

theorem Numbered.activate {value : Bool} (hs : s.Numbered) : (s.activate id value).2.Numbered := by
  obtain ⟨-, heq⟩ | ⟨item, hitem, heq⟩ := activate_cases s id value
  · rw [heq]
    exact hs
  · rw [heq]
    exact hs.of_mem rfl fun k hk => mem_insert_of_getElem? hitem hk

theorem Numbered.createChunk {as : List Answers} (hs : s.Numbered)
    (hroom : s.id.toNat + as.length < 2 ^ 32) (h : createChunk p as s = some (ret, t)) : t.Numbered := by
  induction as generalizing s with
  | nil =>
    obtain ⟨-, rfl⟩ := Prod.mk.inj (Option.some.inj h)
    exact hs
  | cons a as ih =>
    obtain ⟨⟨r, u⟩, hu, h⟩ := Option.bind_eq_some_iff.mp h
    rw [List.length_cons] at hroom
    obtain ⟨hnumbered, hid⟩ := hs.create (by omega) hu
    dsimp only at h
    split at h
    · obtain ⟨-, rfl⟩ := Prod.mk.inj (Option.some.inj h)
      exact hnumbered
    · exact ih hnumbered (by omega) h

theorem Numbered.foldl_activate {value : Bool} {ids : List UInt32} (hs : s.Numbered) :
    (ids.foldl (fun s id => (s.activate id value).2) s).Numbered := by
  induction ids generalizing s with
  | nil => exact hs
  | cons id ids ih => exact ih hs.activate

theorem Numbered.updateItems {ids : List UInt32} {ps : List (OverlayParam × Answers)} (hs : s.Numbered)
    (h : updateItems ids ps s = some (ret, t)) : t.Numbered := by
  induction ids, ps, s using updateItems.induct with
  | case1 ids s =>
    rw [Overlay.updateItems] at h
    obtain ⟨-, rfl⟩ := Prod.mk.inj (Option.some.inj h)
    exact hs.foldl_activate
  | case2 => cases h
  | case3 id ids p a ps s ih =>
    rw [Overlay.updateItems] at h
    obtain ⟨⟨r, u⟩, hu, h⟩ := Option.bind_eq_some_iff.mp h
    dsimp only at h
    split at h
    · obtain ⟨-, rfl⟩ := Prod.mk.inj (Option.some.inj h)
      exact hs.update hu
    · exact ih u (hs.update hu).activate h

theorem Numbered.step {c : Call} (hs : s.Numbered) (hroom : s.Room c) (h : step s c = some t) :
    t.Numbered := by
  unfold Room chunk at hroom
  cases c with
  | create p a =>
    obtain ⟨⟨ret, t⟩, hcreate, rfl⟩ := Option.map_eq_some_iff.mp h
    exact (hs.create (by omega) hcreate).1
  | delete k =>
    obtain ⟨⟨ret, t⟩, hdelete, rfl⟩ := Option.map_eq_some_iff.mp h
    obtain ⟨hid, hitems⟩ := delete_cases hdelete
    refine hs.of_mem hid fun j hj => ?_
    rw [ExtTreeMap.mem_iff_isSome_getElem?, hitems] at hj
    split_ifs at hj
    · cases hj
    · exact ExtTreeMap.mem_iff_isSome_getElem?.mpr hj
  | update k p a =>
    obtain ⟨⟨ret, t⟩, hupdate, rfl⟩ := Option.map_eq_some_iff.mp h
    exact hs.update hupdate
  | activate k value => exact Option.some.inj h ▸ hs.activate
  | apply ready width height now =>
    obtain ⟨-, rfl⟩ | ⟨rfl, -⟩ := apply_cases h
    · exact hs
    · exact hs.of_mem rfl fun k hk => ExtTreeMap.mem_map.mp hk
  | process list created =>
    obtain ⟨⟨ret, t⟩, hprocess, rfl⟩ := Option.map_eq_some_iff.mp h
    obtain hupdates | ⟨p, r, u, hchunk, hrest⟩ := process_cases hprocess
    · exact hs.updateItems hupdates
    · have hu := hs.createChunk (by simpa [chunk] using hroom) hchunk
      obtain ⟨-, -, rfl⟩ | ⟨-, hupdates⟩ := hrest
      · exact hu
      · exact hu.updateItems hupdates

theorem numbered_run (hroom : LTS.Meets step Room {} as) (h : LTS.run step {} as = some s) :
    s.Numbered :=
  LTS.inv_of_mTr (L := (LTS.ofStep step).guarded Room) (fun _ _ _ hstep hs => hs.step hstep.2 hstep.1)
    (LTS.mTr_guarded_iff.mpr ⟨h, hroom⟩) numbered_empty

/-- Parameters that are not valid leave every item as it was. -/
theorem update_refused (hnamed : s.All fun item => item.detail.Named)
    (h : s.updateOverlayParams p id a = some (.badValue, t)) : t = s := by
  obtain ⟨-, -, rfl⟩ | ⟨item, new, hitem, hnew, rfl⟩ := update_cases h
  · rfl
  · rw [(OverlayItem.updated (hnamed id item hitem) hnew).refused rfl]
    have hsame : s.overlayItems.insert id item = s.overlayItems := ExtTreeMap.ext_getElem? fun k => by
      rw [ExtTreeMap.getElem?_insert]
      split_ifs with hk
      · rw [← hitem, LawfulEqCmp.compare_eq_iff_eq.mp hk]
      · rfl
    rw [hsame]

/-- A new item gets an id that is not in use. It gives back the parameters of its last create or update in
the form they are kept in, whatever is done to other items and however often it is drawn; a refused update
changes nothing. -/
theorem getOverlayParams_run (hs : LTS.run step {} as = some s) (hu : LTS.run step t bs = some u)
    (hspares : ∀ c ∈ bs, c.spares id) :
    (LTS.Meets step Room {} as → ∀ p a, s.createOverlayItem p a = some (.ok, t) → id = t.id →
      s.getOverlayParams id = none ∧ u.getOverlayParams id = some p.created) ∧
    (∀ p a, s.updateOverlayParams p id a = some (.ok, t) → u.getOverlayParams id = some p.stored) ∧
    (∀ p a, s.updateOverlayParams p id a = some (.badValue, t) →
      t = s ∧ ∀ q, s.getOverlayParams id = some q → u.getOverlayParams id = some q) := by
  have hnamed := itemRule_named.run hs
  refine ⟨fun hroom p a hcreate hid => ?_, fun p a hupdate => ?_, fun p a hupdate => ?_⟩
  · have hfree := (numbered_run hroom hs).free
    obtain ⟨hne, -⟩ | ⟨-, hnew, ⟨hmem, -⟩ | ⟨-, item, hinit, heq⟩⟩ := create_cases hcreate
    · exact absurd rfl hne
    · exact absurd hmem hfree
    · have hnew : id = s.id + 1 := hid.trans hnew
      have hitem : t.overlayItems[id]? = some { item with dirty := !p.isImage } := by
        rw [heq, hnew]
        exact ExtTreeMap.getElem?_insert_self
      constructor
      · rw [getOverlayParams, hnew, ExtTreeMap.getElem?_eq_none hfree]
        rfl
      · rw [run_spares hspares hitem hu]
        exact congrArg some (OverlayItem.init_stored hinit).1
  · obtain ⟨-, hbad, -⟩ | ⟨item, new, hitem, hnew, rfl⟩ := update_cases hupdate
    · cases hbad
    · rw [run_spares hspares ExtTreeMap.getElem?_insert_self hu]
      exact congrArg some ((OverlayItem.updated (hnamed id item hitem) hnew).stored rfl)
  · obtain rfl := update_refused hnamed hupdate
    refine ⟨rfl, fun q hq => ?_⟩
    obtain ⟨item, hitem, rfl⟩ := Option.map_eq_some_iff.mp hq
    exact run_spares hspares hitem hu

/-- A text over a mask, drawn and left alone when the mask goes. -/
theorem getOverlayParams_run_text :
    let mask : OverlayParam := { dstRect := ⟨0, 0, 640, 480⟩, data := .privacyMask (.rectangle {}) }
    let text : OverlayParam := { color := 7, dstRect := ⟨8, 8, 160, 40⟩, data := .userText .empty }
    ∃ s t u, LTS.run step {} [.create mask {}] = some s ∧ s.createOverlayItem text {} = some (.ok, t) ∧
      LTS.run step t [.activate 2 true, .apply true 1920 1080 fun _ => 1, .delete 1] = some u ∧
      s.getOverlayParams 2 = none ∧ u.getOverlayParams 2 = some text.created := by
  intro mask text
  obtain ⟨u, hu⟩ := Option.isSome_iff_exists.mp (by decide :
    ((LTS.run step {} [.create mask {}]).bind fun s => (s.createOverlayItem text {}).bind fun r =>
      if r.1 = .ok ∧ r.2.id = 2 then
        LTS.run step r.2 [.activate 2 true, .apply true 1920 1080 fun _ => 1, .delete 1]
      else none).isSome)
  obtain ⟨s, hs, hu⟩ := Option.bind_eq_some_iff.mp hu
  obtain ⟨⟨ret, t⟩, ht, hu⟩ := Option.bind_eq_some_iff.mp hu
  dsimp only at hu
  split_ifs at hu with hok
  obtain ⟨rfl, hid⟩ := hok
  have hspares : ∀ c ∈ [Call.activate 2 true, .apply true 1920 1080 fun _ => 1, .delete 1],
      c.spares 2 := by simp [Call.spares]
  exact ⟨s, t, u, hs, ht, hu, (getOverlayParams_run hs hu hspares).1 (by decide) text {} ht hid.symm⟩

end Overlay

end QmmfSdk.Overlays
