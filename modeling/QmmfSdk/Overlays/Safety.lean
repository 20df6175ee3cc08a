import QmmfSdk.Overlays.ItemCalls
import QmmfSdk.Overlays.Items

/-! Calls of an application that leave the memory of the process unharmed, in every order. -/
namespace QmmfSdk.Overlays

open Library Std

namespace Overlay

variable {s t : Overlay} {p : OverlayParam} {a : Answers} {id : UInt32} {item : OverlayItem}
  {ret : Status}

/-- Nothing that a later call could trip over, and nothing that no call can reach. -/
structure Safe (s : Overlay) : Prop where
  sound : ∀ (id : UInt32) item, s.overlayItems[id]? = some item → item.Sound
  lost : s.lost = []

/-- The item is initialised in a proper way, and its id is not in use. -/
def CreateProper (s : Overlay) (p : OverlayParam) (a : Answers) : Prop :=
  OverlayItem.InitProper p a ∧
    ((OverlayItem.init p a).map Prod.fst = some .ok → s.id + 1 ∉ s.overlayItems)

instance : Decidable (s.CreateProper p a) := inferInstanceAs (Decidable (_ ∧ _))

/-- The calls that create items, up to the first that fails. -/
def ChunkProper (p : OverlayParam) : List Answers → Overlay → Prop
  | [], _ => True
  | a :: as, s => s.CreateProper p a ∧
      ∀ t, s.createOverlayItem p a = some (.ok, t) → ChunkProper p as t

/-- What is asked of the state after a call that succeeds. -/
def decidableAfter {P : Overlay → Prop} (r : Option (Status × Overlay))
    (dec : (t : Overlay) → Decidable (P t)) : Decidable (∀ t, r = some (.ok, t) → P t) :=
  match r with
  | some (.ok, t) => have := dec t; decidable_of_iff (P t) (by simp)
  | some (.badValue, _) | some (.noInit, _) | some (.failed, _) | none => .isTrue nofun

instance decidableChunk (p : OverlayParam) : (as : List Answers) → (s : Overlay) →
    Decidable (ChunkProper p as s)
  | [], _ => .isTrue trivial
  | a :: as, s =>
    have := decidableAfter (s.createOverlayItem p a) (decidableChunk p as)
    inferInstanceAs (Decidable (_ ∧ _))

def UpdateProper (s : Overlay) (id : UInt32) (p : OverlayParam) (a : Answers) : Prop :=
  ∀ item ∈ s.overlayItems[id]?, item.UpdateProper p a

instance : Decidable (s.UpdateProper id p a) := inferInstanceAs (Decidable (∀ _ ∈ _, _))

/-- There is an item for every entry of the list, and each is updated in a proper way. -/
def UpdatesProper : List UInt32 → List (OverlayParam × Answers) → Overlay → Prop
  | _, [], _ => True
  | [], _ :: _, _ => False
  | id :: ids, (p, a) :: ps, s => s.UpdateProper id p a ∧
      ∀ t, s.updateOverlayParams p id a = some (.ok, t) → UpdatesProper ids ps (t.activate id true).2

instance decidableUpdates : (ids : List UInt32) → (ps : List (OverlayParam × Answers)) → (s : Overlay) →
    Decidable (UpdatesProper ids ps s)
  | [], [], _ | _ :: _, [], _ => .isTrue trivial
  | [], _ :: _, _ => .isFalse nofun
  | id :: ids, (p, a) :: ps, s =>
    have := decidableAfter (s.updateOverlayParams p id a) fun t =>
      decidableUpdates ids ps (t.activate id true).2
    inferInstanceAs (Decidable (_ ∧ _))

/-- What the overlay needs of a call. -/
def Proper (s : Overlay) : Call → Prop
  | .create p a => s.CreateProper p a
  | .delete _ | .activate .. => True
  | .update id p a => s.UpdateProper id p a
  | .apply ready width height _ =>
    s.anyActive → ready → (s.c2dObjects width height).length ≤ maxObjects
  | .process [] _ => True
  | .process list@((p, _) :: _) created =>
    let as := (List.range chunk).map created
    if s.overlayItems.size < list.length then
      ChunkProper p as s ∧ ∀ t, createChunk p as s = some (.ok, t) →
        UpdatesProper t.overlayItems.keys list t
    else UpdatesProper s.overlayItems.keys list s

instance (s : Overlay) : (c : Call) → Decidable (s.Proper c)
  | .create p a => inferInstanceAs (Decidable (s.CreateProper p a))
  | .delete _ | .activate .. => .isTrue trivial
  | .update id p a => inferInstanceAs (Decidable (s.UpdateProper id p a))
  | .apply ready width height _ =>
    inferInstanceAs (Decidable (s.anyActive → ready → (s.c2dObjects width height).length ≤ maxObjects))
  | .process [] _ => .isTrue trivial
  | .process ((p, a) :: ps) created =>
    have := decidableAfter (createChunk p ((List.range chunk).map created) s) fun t =>
      decidableUpdates t.overlayItems.keys ((p, a) :: ps) t
    inferInstanceAs (Decidable (if s.overlayItems.size < ((p, a) :: ps).length then
      ChunkProper p ((List.range chunk).map created) s ∧
        ∀ t, createChunk p ((List.range chunk).map created) s = some (.ok, t) →
          UpdatesProper t.overlayItems.keys ((p, a) :: ps) t
      else UpdatesProper s.overlayItems.keys ((p, a) :: ps) s))

/-- A result that leaves the overlay safe. -/
def Harmless (r : Option (Status × Overlay)) : Prop := ∃ ret t, r = some (ret, t) ∧ t.Safe

theorem harmless_some : Harmless (some (ret, t)) ↔ t.Safe := by
  constructor
  · rintro ⟨_, _, heq, h⟩
    obtain ⟨rfl, rfl⟩ := Prod.mk.inj (Option.some.inj heq)
    exact h
  · exact fun h => ⟨_, _, rfl, h⟩

theorem harmless_map {r : Option (Status × Overlay)} :
    (∃ t, r.map Prod.snd = some t ∧ t.Safe) ↔ Harmless r := by
  constructor
  · rintro ⟨_, heq, h⟩
    obtain ⟨⟨ret, t⟩, rfl, rfl⟩ := Option.map_eq_some_iff.mp heq
    exact ⟨ret, t, rfl, h⟩
  · rintro ⟨ret, t, rfl, h⟩
    exact ⟨t, rfl, h⟩

theorem safe_empty : Safe {} := ⟨fun id item h => by simp at h, rfl⟩

theorem safe_insert_iff (id : UInt32) (item : OverlayItem) (hs : s.Safe) :
    Safe { s with overlayItems := s.overlayItems.insert id item } ↔ item.Sound := by
  refine ⟨fun h => h.sound id item ExtTreeMap.getElem?_insert_self, fun hitem =>
    ⟨fun k v hv => ?_, hs.lost⟩⟩
  rw [ExtTreeMap.getElem?_insert] at hv
  split_ifs at hv
  · exact Option.some.inj hv ▸ hitem
  · exact hs.sound k v hv

theorem harmless_create (hs : s.Safe) :
    Harmless (s.createOverlayItem p a) ↔ s.CreateProper p a := by
  unfold createOverlayItem CreateProper
  rw [← OverlayItem.made_init]
  rcases OverlayItem.init p a with - | ⟨ret, item⟩
  · simp [Harmless, OverlayItem.Made]
  · rw [OverlayItem.made_some]
    simp only [Option.bind_some, Option.map_some, Option.some.injEq]
    by_cases hret : ret = .ok
    · subst hret
      simp only [ne_eq, not_true_eq_false, if_false, true_implies, false_implies, and_true]
      split_ifs with hmem
      · rw [harmless_some]
        exact iff_of_false (fun h => by simpa using h.lost) fun h => h.2 hmem
      · rw [harmless_some]
        have hiff := safe_insert_iff (s.id + 1) { item with dirty := !p.isImage }
          (⟨hs.sound, hs.lost⟩ : Safe { s with id := s.id + 1 })
        exact hiff.trans ⟨fun h => ⟨⟨h.drawable, h.owned⟩, hmem⟩, fun h => ⟨h.1.drawable, h.1.owned⟩⟩
    · simp only [hret, ne_eq, not_false_eq_true, if_true, true_implies, false_implies, true_and,
        and_true]
      cases hdelete : item.delete <;> simp [Harmless, hs]

theorem harmless_update (id : UInt32) (hs : s.Safe) :
    Harmless (s.updateOverlayParams p id a) ↔ s.UpdateProper id p a := by
  unfold updateOverlayParams UpdateProper
  cases hitem : s.overlayItems[id]? with
  | none => simpa using harmless_some.mpr hs
  | some item =>
    have hkept := OverlayItem.kept_updateParameters (p := p) (a := a) (hs.sound id item hitem)
    simp only [Option.mem_def, Option.some.injEq, forall_eq']
    rw [← hkept]
    rcases item.updateParameters p a with - | ⟨ret, t⟩
    · simp [Harmless, OverlayItem.Kept]
    · rw [OverlayItem.kept_some, ← safe_insert_iff id t hs]
      exact harmless_some

theorem Safe.activate (hs : s.Safe) {value : Bool} : (s.activate id value).2.Safe := by
  unfold Overlay.activate
  cases hitem : s.overlayItems[id]? with
  | none => exact hs
  | some item =>
    have hsound := hs.sound id item hitem
    exact (safe_insert_iff _ _ hs).mpr ⟨hsound.drawable, hsound.owned⟩

theorem Safe.delete (hs : s.Safe) : Harmless (s.deleteOverlayItem id) := by
  unfold deleteOverlayItem
  cases hitem : s.overlayItems[id]? with
  | none => exact harmless_some.mpr hs
  | some item =>
    obtain ⟨u, hu⟩ := Option.isSome_iff_exists.mp (hs.sound id item hitem).delete
    simp only [hu, Option.map_some]
    refine harmless_some.mpr ⟨fun k v hv => ?_, hs.lost⟩
    rw [ExtTreeMap.getElem?_erase] at hv
    split_ifs at hv
    exact hs.sound k v hv

theorem Safe.createChunk {as : List Answers} (hs : s.Safe) (hp : ChunkProper p as s) :
    Harmless (createChunk p as s) := by
  induction as generalizing s with
  | nil => exact harmless_some.mpr hs
  | cons a as ih =>
    obtain ⟨ret, t, ht, hsafe⟩ := (harmless_create hs).mpr hp.1
    rw [Overlay.createChunk, ht, Option.bind_some]
    by_cases hret : ret = .ok
    · subst hret
      exact ih hsafe (hp.2 t ht)
    · simpa [hret] using harmless_some.mpr hsafe

theorem Safe.foldl_activate {value : Bool} {ids : List UInt32} (hs : s.Safe) :
    (ids.foldl (fun s id => (s.activate id value).2) s).Safe := by
  induction ids generalizing s with
  | nil => exact hs
  | cons id ids ih => exact ih hs.activate

theorem Safe.updateItems {ids : List UInt32} {ps : List (OverlayParam × Answers)} (hs : s.Safe)
    (hp : UpdatesProper ids ps s) : Harmless (updateItems ids ps s) := by
  induction ps generalizing ids s with
  | nil =>
    cases ids <;> exact harmless_some.mpr hs.foldl_activate
  | cons first ps ih =>
    obtain ⟨p, a⟩ := first
    cases ids with
    | nil => exact hp.elim
    | cons id ids =>
      obtain ⟨ret, t, ht, hsafe⟩ := (harmless_update id hs).mpr hp.1
      rw [Overlay.updateItems, ht, Option.bind_some]
      by_cases hret : ret = .ok
      · subst hret
        exact ih hsafe.activate (hp.2 t ht)
      · simpa [hret] using harmless_some.mpr hsafe

theorem Safe.process {list : List (OverlayParam × Answers)} {created : Nat → Answers} (hs : s.Safe)
    (hp : s.Proper (.process list created)) : Harmless (s.processOverlayItems list created) := by
  unfold processOverlayItems
  cases list with
  | nil => exact hs.updateItems (by simp [UpdatesProper])
  | cons first list =>
    obtain ⟨p, a⟩ := first
    simp only [Proper] at hp
    dsimp only
    split_ifs at hp ⊢ with hgrow
    · obtain ⟨ret, t, ht, hsafe⟩ := hs.createChunk hp.1
      rw [ht, Option.bind_some]
      by_cases hret : ret = .ok
      · subst hret
        exact hsafe.updateItems (hp.2 t ht)
      · simpa [hret] using harmless_some.mpr hsafe
    · exact hs.updateItems hp

/-- Drawing an active item that is sound. -/
theorem Safe.drawn (now : UInt32 → Nat) (hs : s.Safe) (hitem : s.overlayItems[id]? = some item) :
    ∃ u, drawn now id item = some u ∧ u.Sound ∧ item.SameButDrawn u := by
  unfold Overlay.drawn
  split
  · exact (hs.sound id item hitem).updateAndDraw _
  · exact ⟨item, rfl, hs.sound id item hitem, .refl⟩

theorem Safe.getElem?_draw {now : UInt32 → Nat} (hs : s.Safe)
    (hitem : (s.draw now).overlayItems[id]? = some item) :
    ∃ old, s.overlayItems[id]? = some old ∧ Overlay.drawn now id old = some item ∧ item.Sound ∧
      old.SameButDrawn item := by
  rw [draw, ExtTreeMap.getElem?_map] at hitem
  obtain ⟨old, hold, rfl⟩ := Option.map_eq_some_iff.mp hitem
  obtain ⟨u, hu, hsound, hsame⟩ := hs.drawn now hold
  simp only [hu, Option.getD_some]
  exact ⟨old, hold, hu, hsound, hsame⟩

theorem Safe.draw {now : UInt32 → Nat} (hs : s.Safe) : (s.draw now).Safe :=
  ⟨fun _ _ h => let ⟨_, _, _, hsound, _⟩ := hs.getElem?_draw h; hsound, hs.lost⟩

/-- Drawing moves no object. -/
theorem Safe.c2dObjects_draw {now : UInt32 → Nat} {width height : UInt32} (hs : s.Safe) :
    (s.draw now).c2dObjects width height = s.c2dObjects width height := by
  unfold c2dObjects
  rw [Overlay.draw, ExtTreeMap.toList_map, List.flatMap_map]
  refine List.flatMap_congr ?_
  rintro ⟨id, item⟩ hmem
  have hitem := ExtTreeMap.mem_toList_iff_getElem?_eq_some.mp hmem
  obtain ⟨u, hu, -, hsame⟩ := hs.drawn now hitem
  simp only [hu, Option.getD_some, hsame.isActive, hsame.getDrawInfo]

theorem Safe.applyOverlay {ready : Bool} {width height : UInt32} {now : UInt32 → Nat} (hs : s.Safe) :
    s.applyOverlay ready width height now =
      if s.anyActive = false ∨ ready = false then some s
      else if (s.c2dObjects width height).length ≤ maxObjects then some (s.draw now) else none := by
  unfold Overlay.applyOverlay
  rw [if_pos (List.all_eq_true.mpr ?drawn)]
  case drawn =>
    rintro ⟨id, item⟩ hmem
    obtain ⟨u, hu, -⟩ := hs.drawn now (ExtTreeMap.mem_toList_iff_getElem?_eq_some.mp hmem)
    simp [hu]
  change (if !s.anyActive || !ready then some s
    else if ((s.draw now).c2dObjects width height).length ≤ maxObjects then some (s.draw now)
    else none) = _
  rw [hs.c2dObjects_draw]
  simp

/-- One call on a safe overlay: a proper one leaves it safe, and of the calls on single items only these. -/
theorem step_safe (hs : s.Safe) (c : Call) :
    (s.Proper c → ∃ t, step s c = some t ∧ t.Safe) ∧
      ((∀ list created, c ≠ .process list created) → (∃ t, step s c = some t ∧ t.Safe) → s.Proper c) := by
  cases c with
  | create p a =>
    have hiff := harmless_map.trans (harmless_create (p := p) (a := a) hs)
    exact ⟨hiff.mpr, fun _ => hiff.mp⟩
  | delete id => exact ⟨fun _ => harmless_map.mpr hs.delete, fun _ _ => trivial⟩
  | update id p a =>
    have hiff := harmless_map.trans (harmless_update id (p := p) (a := a) hs)
    exact ⟨hiff.mpr, fun _ => hiff.mp⟩
  | activate id value => exact ⟨fun _ => ⟨_, rfl, hs.activate⟩, fun _ _ => trivial⟩
  | apply ready width height now =>
    simp only [step, Proper, hs.applyOverlay]
    refine ⟨fun h => ?_, fun _ ⟨t, ht, _⟩ hactive hready => ?_⟩
    · split_ifs with hoff hmany
      · exact ⟨s, rfl, hs⟩
      · exact ⟨_, rfl, hs.draw⟩
      · rw [not_or, Bool.not_eq_false, Bool.not_eq_false] at hoff
        exact absurd (h hoff.1 hoff.2) hmany
    · rw [if_neg (by simp [hactive, hready])] at ht
      split_ifs at ht with hmany
      exact hmany
  | process list created =>
    exact ⟨fun hp => harmless_map.mpr (hs.process hp), fun hnot => absurd rfl (hnot list created)⟩

/-- A text over a mask, drawn, made larger and drawn again after the mask is gone. -/
def maskedText : List Call :=
  let mask : OverlayParam := { dstRect := ⟨0, 0, 640, 480⟩, data := .privacyMask (.rectangle {}) }
  let text : OverlayParam := { color := 7, dstRect := ⟨8, 8, 160, 40⟩, data := .userText .empty }
  let large := { text with dstRect := ⟨8, 8, 320, 80⟩ }
  [.create mask {}, .create text {}, .activate 1 true, .activate 2 true, .apply true 1920 1080 fun _ => 1,
    .update 2 large {}, .delete 1, .apply true 1920 1080 fun _ => 2]

/-- And two lists of texts, the first of which asks for more items than there are. -/
def listedTexts : List Call :=
  let text : OverlayParam := { color := 7, dstRect := ⟨8, 8, 160, 40⟩, data := .userText .empty }
  [.process [(text, {}), (text, {})] fun _ => {}, .process [(text, {})] fun _ => {}]

end Overlay

end QmmfSdk.Overlays
