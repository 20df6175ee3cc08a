import QmmfSdk.Overlays.Registry

/-! What each call does to the items, and what therefore holds of all of them. -/
namespace QmmfSdk.Overlays

open Library Std

namespace Overlay

variable {s t : Overlay} {p : OverlayParam} {a : Answers} {id : UInt32} {item : OverlayItem}
  {ret : Status} {now : UInt32 → Nat} {P : OverlayItem → Prop} {as : List Call}

def anyActive (s : Overlay) : Bool := s.overlayItems.toList.any fun (_, item) => item.isActive

/-- All items, with the active ones drawn. -/
def draw (s : Overlay) (now : UInt32 → Nat) : Overlay :=
  { s with overlayItems := s.overlayItems.map fun id item => (Overlay.drawn now id item).getD item }

/-- A new item is added, unless its id is in use. -/
theorem create_cases (h : s.createOverlayItem p a = some (ret, t)) :
    (ret ≠ .ok ∧ t = s) ∨ (ret = .ok ∧ t.id = s.id + 1 ∧
      ((s.id + 1 ∈ s.overlayItems ∧ t.overlayItems = s.overlayItems) ∨
        (s.id + 1 ∉ s.overlayItems ∧ ∃ item, OverlayItem.init p a = some (.ok, item) ∧
          t.overlayItems = s.overlayItems.insert (s.id + 1) { item with dirty := !p.isImage }))) := by
  unfold createOverlayItem at h
  obtain ⟨⟨r, item⟩, hinit, h⟩ := Option.bind_eq_some_iff.mp h
  dsimp only at h
  split at h
  · next hne =>
    obtain ⟨_, -, heq⟩ := Option.map_eq_some_iff.mp h
    obtain ⟨rfl, rfl⟩ := Prod.mk.inj heq
    exact .inl ⟨hne, rfl⟩
  · next hok =>
    rw [not_not.mp hok] at hinit
    split at h
    · next hmem =>
      obtain ⟨rfl, rfl⟩ := Prod.mk.inj (Option.some.inj h)
      exact .inr ⟨rfl, rfl, .inl ⟨hmem, rfl⟩⟩
    · next hmem =>
      obtain ⟨rfl, rfl⟩ := Prod.mk.inj (Option.some.inj h)
      exact .inr ⟨rfl, rfl, .inr ⟨hmem, item, hinit, rfl⟩⟩

theorem delete_cases (h : s.deleteOverlayItem id = some (ret, t)) :
    t.id = s.id ∧ ∀ k : UInt32, t.overlayItems[k]? = if k = id then none else s.overlayItems[k]? := by
  unfold deleteOverlayItem at h
  split at h
  · next hnone =>
    obtain ⟨-, rfl⟩ := Prod.mk.inj (Option.some.inj h)
    refine ⟨rfl, fun k => ?_⟩
    split_ifs with hk
    · rw [hk, hnone]
    · rfl
  · obtain ⟨_, -, heq⟩ := Option.map_eq_some_iff.mp h
    obtain ⟨-, rfl⟩ := Prod.mk.inj heq
    refine ⟨rfl, fun k => ?_⟩
    by_cases hk : k = id
    · simp [hk]
    · simp [ExtTreeMap.getElem?_erase, hk, Ne.symm hk]

theorem update_cases (h : s.updateOverlayParams p id a = some (ret, t)) :
    (s.overlayItems[id]? = none ∧ ret = .badValue ∧ t = s) ∨
      ∃ item new, s.overlayItems[id]? = some item ∧ item.updateParameters p a = some (ret, new) ∧
        t = { s with overlayItems := s.overlayItems.insert id new } := by
  unfold updateOverlayParams at h
  split at h
  · next hnone =>
    obtain ⟨rfl, rfl⟩ := Prod.mk.inj (Option.some.inj h)
    exact .inl ⟨hnone, rfl, rfl⟩
  · next item hitem =>
    obtain ⟨⟨r, new⟩, hupdate, heq⟩ := Option.map_eq_some_iff.mp h
    obtain ⟨rfl, rfl⟩ := Prod.mk.inj heq
    exact .inr ⟨item, new, hitem, hupdate, rfl⟩

theorem activate_cases (s : Overlay) (id : UInt32) (value : Bool) :
    (s.overlayItems[id]? = none ∧ (s.activate id value).2 = s) ∨
      ∃ item, s.overlayItems[id]? = some item ∧ (s.activate id value).2 =
        { s with overlayItems := s.overlayItems.insert id { item with isActive := value } } := by
  unfold Overlay.activate
  cases hitem : s.overlayItems[id]? with
  | none => exact .inl ⟨rfl, rfl⟩
  | some item => exact .inr ⟨item, rfl, rfl⟩

/-- Either nothing is drawn, or every active item is. -/
theorem apply_cases {ready : Bool} {width height : UInt32}
    (h : s.applyOverlay ready width height now = some t) :
    ((s.anyActive = false ∨ ready = false) ∧ t = s) ∨
      (t = s.draw now ∧ ∀ (id : UInt32) item, s.overlayItems[id]? = some item →
        ∃ new, drawn now id item = some new ∧ t.overlayItems[id]? = some new) := by
  unfold applyOverlay at h
  dsimp only at h
  split_ifs at h with hoff hall
  · exact .inl ⟨by simpa [anyActive] using hoff, (Option.some.inj h).symm⟩
  · obtain rfl := Option.some.inj h
    refine .inr ⟨rfl, fun id item hitem => ?_⟩
    have hsome := List.all_eq_true.mp hall (id, item) (ExtTreeMap.mem_toList_iff_getElem?_eq_some.mpr hitem)
    obtain ⟨new, hnew⟩ := Option.isSome_iff_exists.mp hsome
    exact ⟨new, hnew, by simp [ExtTreeMap.getElem?_map, hitem, hnew]⟩

/-- Where every item that is there is drawn, no other one appears. -/
theorem getElem?_draw {new : OverlayItem} (h : (s.draw now).overlayItems[id]? = some new)
    (hdrawn : ∀ (id : UInt32) item, s.overlayItems[id]? = some item →
      ∃ new, drawn now id item = some new ∧ (s.draw now).overlayItems[id]? = some new) :
    ∃ item, s.overlayItems[id]? = some item ∧ drawn now id item = some new := by
  have hmap := h
  rw [draw, ExtTreeMap.getElem?_map] at hmap
  obtain ⟨item, hitem, -⟩ := Option.map_eq_some_iff.mp hmap
  obtain ⟨new', hnew, hget⟩ := hdrawn id item hitem
  obtain rfl := Option.some.inj (hget.symm.trans h)
  exact ⟨item, hitem, hnew⟩

/-- `ProcessOverlayItems` as at most a chunk of new items and then updates. -/
theorem process_cases {list : List (OverlayParam × Answers)} {created : Nat → Answers}
    (h : s.processOverlayItems list created = some (ret, t)) :
    updateItems s.overlayItems.keys list s = some (ret, t) ∨
      ∃ p r u, createChunk p ((List.range chunk).map created) s = some (r, u) ∧
        ((r ≠ .ok ∧ ret = r ∧ t = u) ∨
          (r = .ok ∧ updateItems u.overlayItems.keys list u = some (ret, t))) := by
  unfold processOverlayItems at h
  cases list with
  | nil => exact .inl h
  | cons first ps =>
    obtain ⟨p, a⟩ := first
    dsimp only at h
    split at h
    · obtain ⟨⟨r, u⟩, hu, h⟩ := Option.bind_eq_some_iff.mp h
      refine .inr ⟨p, r, u, hu, ?_⟩
      by_cases hr : r = .ok
      · exact .inr ⟨hr, by simpa [hr] using h⟩
      · refine .inl ⟨hr, ?_⟩
        obtain ⟨rfl, rfl⟩ : r = ret ∧ u = t := by simpa [hr] using h
        exact ⟨rfl, rfl⟩
    · exact .inl h

/-- Every item that an id leads to. -/
def All (P : OverlayItem → Prop) (s : Overlay) : Prop :=
  ∀ (id : UInt32) item, s.overlayItems[id]? = some item → P item

/-- What a new item has and no operation on an item takes away. -/
structure ItemRule (P : OverlayItem → Prop) : Prop where
  init : ∀ p a item, OverlayItem.init p a = some (.ok, item) → P { item with dirty := !p.isImage }
  update : ∀ item p a ret new, P item → item.updateParameters p a = some (ret, new) → P new
  activate : ∀ item value, P item → P { item with isActive := value }
  draw : ∀ item now new, P item → item.updateAndDraw now = some new → P new

theorem all_empty : All P {} := fun id item h => by simp at h

theorem All.insert (hs : s.All P) (hitem : P item) :
    All P { s with overlayItems := s.overlayItems.insert id item } := fun k v hv => by
  rw [ExtTreeMap.getElem?_insert] at hv
  split_ifs at hv
  · exact Option.some.inj hv ▸ hitem
  · exact hs k v hv

theorem ItemRule.create (hP : ItemRule P) (hs : s.All P)
    (h : s.createOverlayItem p a = some (ret, t)) : t.All P := by
  obtain ⟨-, rfl⟩ | ⟨-, -, ⟨-, heq⟩ | ⟨-, item, hinit, heq⟩⟩ := create_cases h
  · exact hs
  · unfold All
    rw [heq]
    exact hs
  · unfold All
    rw [heq]
    exact hs.insert (hP.init p a item hinit)

theorem ItemRule.updateParams (hP : ItemRule P) (hs : s.All P)
    (h : s.updateOverlayParams p id a = some (ret, t)) : t.All P := by
  obtain ⟨-, -, rfl⟩ | ⟨item, new, hitem, hnew, rfl⟩ := update_cases h
  · exact hs
  · exact hs.insert (hP.update item p a ret new (hs id item hitem) hnew)

theorem ItemRule.activated (id : UInt32) (value : Bool) (hP : ItemRule P) (hs : s.All P) :
    (s.activate id value).2.All P := by
  obtain ⟨-, heq⟩ | ⟨item, hitem, heq⟩ := activate_cases s id value
  · rw [heq]
    exact hs
  · rw [heq]
    exact hs.insert (hP.activate item value (hs id item hitem))

theorem ItemRule.createChunk {as : List Answers} (hP : ItemRule P) (hs : s.All P)
    (h : createChunk p as s = some (ret, t)) : t.All P := by
  induction as generalizing s with
  | nil =>
    obtain ⟨-, rfl⟩ := Prod.mk.inj (Option.some.inj h)
    exact hs
  | cons a as ih =>
    obtain ⟨⟨r, u⟩, hu, h⟩ := Option.bind_eq_some_iff.mp h
    have hall := hP.create hs hu
    dsimp only at h
    split at h
    · obtain ⟨-, rfl⟩ := Prod.mk.inj (Option.some.inj h)
      exact hall
    · exact ih hall h

theorem ItemRule.foldl_activate {value : Bool} {ids : List UInt32} (hP : ItemRule P) (hs : s.All P) :
    (ids.foldl (fun s id => (s.activate id value).2) s).All P := by
  induction ids generalizing s with
  | nil => exact hs
  | cons id ids ih => exact ih (hP.activated id _ hs)

theorem ItemRule.updateItems {ids : List UInt32} {ps : List (OverlayParam × Answers)}
    (hP : ItemRule P) (hs : s.All P) (h : updateItems ids ps s = some (ret, t)) : t.All P := by
  induction ids, ps, s using updateItems.induct with
  | case1 ids s =>
    rw [Overlay.updateItems] at h
    obtain ⟨-, rfl⟩ := Prod.mk.inj (Option.some.inj h)
    exact hP.foldl_activate hs
  | case2 => cases h
  | case3 id ids p a ps s ih =>
    rw [Overlay.updateItems] at h
    obtain ⟨⟨r, u⟩, hu, h⟩ := Option.bind_eq_some_iff.mp h
    have hall := hP.updateParams hs hu
    dsimp only at h
    split at h
    · obtain ⟨-, rfl⟩ := Prod.mk.inj (Option.some.inj h)
      exact hall
    · exact ih u (hP.activated id true hall) h

theorem ItemRule.step {c : Call} (hP : ItemRule P) (hs : s.All P) (h : step s c = some t) :
    t.All P := by
  cases c with
  | create p a =>
    obtain ⟨⟨ret, t⟩, hcreate, rfl⟩ := Option.map_eq_some_iff.mp h
    exact hP.create hs hcreate
  | delete k =>
    obtain ⟨⟨ret, t⟩, hdelete, rfl⟩ := Option.map_eq_some_iff.mp h
    intro id item hitem
    rw [(delete_cases hdelete).2] at hitem
    split_ifs at hitem
    exact hs id item hitem
  | update k p a =>
    obtain ⟨⟨ret, t⟩, hupdate, rfl⟩ := Option.map_eq_some_iff.mp h
    exact hP.updateParams hs hupdate
  | activate k value => exact Option.some.inj h ▸ hP.activated k value hs
  | apply ready width height now =>
    obtain ⟨-, rfl⟩ | ⟨rfl, hdrawn⟩ := apply_cases h
    · exact hs
    · intro id new hnew
      obtain ⟨item, hitem, hdraw⟩ := getElem?_draw hnew hdrawn
      unfold drawn at hdraw
      split_ifs at hdraw
      · exact hP.draw item _ new (hs id item hitem) hdraw
      · exact Option.some.inj hdraw ▸ hs id item hitem
  | process list created =>
    obtain ⟨⟨ret, t⟩, hprocess, rfl⟩ := Option.map_eq_some_iff.mp h
    obtain hupdates | ⟨p, r, u, hchunk, hrest⟩ := process_cases hprocess
    · exact hP.updateItems hs hupdates
    · have hu := hP.createChunk hs hchunk
      obtain ⟨-, -, rfl⟩ | ⟨-, hupdates⟩ := hrest
      · exact hu
      · exact hP.updateItems hu hupdates

/-- What the operations keep of one item, a run keeps of all. -/
theorem ItemRule.run (hP : ItemRule P) (h : LTS.run Overlay.step {} as = some s) : s.All P :=
  LTS.inv_of_mTr (L := LTS.ofStep Overlay.step) (fun _ _ _ hstep hs => hP.step hs hstep)
    (LTS.mTr_ofStep_iff.mpr h) all_empty

end Overlay

end QmmfSdk.Overlays
