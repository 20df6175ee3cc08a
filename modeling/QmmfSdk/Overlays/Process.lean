import QmmfSdk.Overlays.Reads

/-! What a list of parameters given to `ProcessOverlayItems` ends in. -/
namespace QmmfSdk.Overlays

open Library Std

namespace Overlay

variable {s t : Overlay} {p : OverlayParam} {a : Answers} {id : UInt32} {item : OverlayItem}
  {ret : Status} {ids : List UInt32} {ps : List (OverlayParam × Answers)} {as : List Call}

/-- The item is on and has the parameters, which it gives back in the form that they are kept in. -/
def ShownAt (s : Overlay) (id : UInt32) (p : OverlayParam) : Prop :=
  ∃ item, s.overlayItems[id]? = some item ∧ item.isActive = true ∧ item.detail.Holds p ∧
    item.getParameters = p.stored

def OffAt (s : Overlay) (id : UInt32) : Prop :=
  ∃ item, s.overlayItems[id]? = some item ∧ item.isActive = false

theorem getElem?_of_mem (h : id ∈ s.overlayItems) : ∃ item, s.overlayItems[id]? = some item :=
  Option.isSome_iff_exists.mp (ExtTreeMap.mem_iff_isSome_getElem?.mp h)

theorem mem_insert_iff {k : UInt32} {new : OverlayItem} (hitem : s.overlayItems[id]? = some item) :
    k ∈ s.overlayItems.insert id new ↔ k ∈ s.overlayItems :=
  ⟨mem_insert_of_getElem? hitem, fun hk => ExtTreeMap.mem_insert.mpr (.inr hk)⟩

/-- Nothing but the item itself is changed. -/
theorem activate_frame (s : Overlay) (id : UInt32) (value : Bool) :
    (∀ k, k ≠ id → (s.activate id value).2.overlayItems[k]? = s.overlayItems[k]?) ∧
      ∀ k, k ∈ (s.activate id value).2.overlayItems ↔ k ∈ s.overlayItems := by
  obtain ⟨-, heq⟩ | ⟨item, hitem, heq⟩ := activate_cases s id value <;> rw [heq]
  · exact ⟨fun _ _ => rfl, fun _ => .rfl⟩
  · exact ⟨fun k hk => by simp [ExtTreeMap.getElem?_insert, hk.symm], fun k => mem_insert_iff hitem⟩

theorem update_frame (h : s.updateOverlayParams p id a = some (ret, t)) :
    (∀ k, k ≠ id → t.overlayItems[k]? = s.overlayItems[k]?) ∧
      ∀ k, k ∈ t.overlayItems ↔ k ∈ s.overlayItems := by
  obtain ⟨-, -, rfl⟩ | ⟨item, new, hitem, -, rfl⟩ := update_cases h
  · exact ⟨fun _ _ => rfl, fun _ => .rfl⟩
  · exact ⟨fun k hk => by simp [ExtTreeMap.getElem?_insert, hk.symm], fun k => mem_insert_iff hitem⟩

theorem getElem?_activate {value : Bool} (hitem : s.overlayItems[id]? = some item) :
    (s.activate id value).2.overlayItems[id]? = some { item with isActive := value } := by
  obtain ⟨hnone, -⟩ | ⟨old, hold, heq⟩ := activate_cases s id value
  · rw [hnone] at hitem
    cases hitem
  · obtain rfl := Option.some.inj (hold.symm.trans hitem)
    rw [heq]
    exact ExtTreeMap.getElem?_insert_self

/-- The items that are left over are put out, the others stay. -/
theorem foldl_activate_frame (ids : List UInt32) (s : Overlay) :
    let t := ids.foldl (fun s id => (s.activate id false).2) s
    (∀ k, k ∉ ids → t.overlayItems[k]? = s.overlayItems[k]?) ∧
      (∀ k, k ∈ t.overlayItems ↔ k ∈ s.overlayItems) ∧
      ∀ k ∈ ids, k ∈ s.overlayItems → t.OffAt k := by
  induction ids generalizing s with
  | nil => exact ⟨fun _ _ => rfl, fun _ => .rfl, by simp⟩
  | cons id ids ih =>
    obtain ⟨hother, hmem, hoff⟩ := ih (s.activate id false).2
    obtain ⟨hframe, hkeys⟩ := activate_frame s id false
    refine ⟨fun k hk => ?_, fun k => (hmem k).trans (hkeys k), fun k hk hin => ?_⟩
    · rw [List.mem_cons, not_or] at hk
      exact (hother k hk.2).trans (hframe k hk.1)
    · by_cases hlater : k ∈ ids
      · exact hoff k hlater ((hkeys k).mpr hin)
      · obtain rfl := (List.mem_cons.mp hk).resolve_right hlater
        obtain ⟨item, hitem⟩ := getElem?_of_mem hin
        exact ⟨_, (hother k hlater).trans (getElem?_activate hitem), rfl⟩

/-- Each entry of the list has its item, and the rest is off. -/
theorem updateItems_ok (hnamed : s.All fun item => item.detail.Named) (hnodup : ids.Nodup)
    (hids : ∀ id ∈ ids, id ∈ s.overlayItems) (h : updateItems ids ps s = some (.ok, t)) :
    (∀ k, k ∉ ids → t.overlayItems[k]? = s.overlayItems[k]?) ∧
      (∀ k, k ∈ t.overlayItems ↔ k ∈ s.overlayItems) ∧
      ∃ shown rest, ids = shown ++ rest ∧ List.Forall₂ (fun id q => t.ShownAt id q.1) shown ps ∧
        ∀ id ∈ rest, t.OffAt id := by
  induction ids, ps, s using updateItems.induct with
  | case1 ids s =>
    rw [updateItems] at h
    obtain ⟨-, rfl⟩ := Prod.mk.inj (Option.some.inj h)
    obtain ⟨hother, hmem, hoff⟩ := foldl_activate_frame ids s
    exact ⟨hother, hmem, [], ids, rfl, .nil, fun id hid => hoff id hid (hids id hid)⟩
  | case2 => cases h
  | case3 id ids p a ps s ih =>
    rw [updateItems] at h
    obtain ⟨⟨r, u⟩, hu, h⟩ := Option.bind_eq_some_iff.mp h
    dsimp only at h
    split at h
    · next hne =>
      obtain ⟨rfl, -⟩ := Prod.mk.inj (Option.some.inj h)
      exact absurd rfl hne
    · next hok =>
      obtain rfl := not_not.mp hok
      rw [List.nodup_cons] at hnodup
      obtain ⟨hframe, hkeys⟩ := update_frame hu
      obtain ⟨hframe', hkeys'⟩ := activate_frame u id true
      have hnamed' := itemRule_named.activated id true (itemRule_named.updateParams hnamed hu)
      obtain ⟨hother, hmem, shown, rest, rfl, hshown, hoff⟩ := ih u hnamed' hnodup.2
        (fun k hk => (hkeys' k).mpr ((hkeys k).mpr (hids k (by simp [hk])))) h
      have hfirst : t.ShownAt id p := by
        obtain ⟨-, hbad, -⟩ | ⟨item, new, hitem, hnew, rfl⟩ := update_cases hu
        · cases hbad
        · have hupdated := OverlayItem.updated (hnamed id item hitem) hnew
          refine ⟨{ new with isActive := true }, ?_, rfl, hupdated.holds rfl, hupdated.stored rfl⟩
          rw [hother id hnodup.1]
          exact getElem?_activate ExtTreeMap.getElem?_insert_self
      refine ⟨fun k hk => ?_, fun k => (hmem k).trans ((hkeys' k).trans (hkeys k)), id :: shown, rest, rfl,
        .cons hfirst hshown, hoff⟩
      rw [List.mem_cons, not_or] at hk
      exact (hother k hk.2).trans ((hframe' k hk.1).trans (hframe k hk.1))

end Overlay

end QmmfSdk.Overlays
