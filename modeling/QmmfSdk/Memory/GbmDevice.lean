import QmmfSdk.Library.OrdMap
import QmmfSdk.Library.Transition

/-! `GBMDevice`: which calls of `FreeBuffer` destroy a `gbm_bo`. -/
namespace QmmfSdk.Memory

open Library

/-- A `struct gbm_bo *`; the null pointer is 0. -/
abbrev GbmBo := Nat

inductive MemAllocError where
  | allocFail
  | allocOk
  deriving DecidableEq

structure GBMBuffer where
  genericHandle : GbmBo := 0
  deriving DecidableEq

structure GBMDevice where
  importedBuffersMap : OrdMap GbmBo Bool := ∅
  deriving DecidableEq

namespace GBMDevice

variable {d : GBMDevice} {bo p : GbmBo}

/-- The handle is made before the allocation, and stays when `gbm_bo_create` gives nothing. -/
def allocBuffer (created : Option GbmBo) : GBMBuffer × MemAllocError :=
  match created with
  | none => ({}, .allocFail)
  | some bo => ({ genericHandle := bo }, .allocOk)

def importBuffer (d : GBMDevice) (bo : GbmBo) : GBMBuffer × GBMDevice :=
  ({ genericHandle := bo }, { d with importedBuffersMap := d.importedBuffersMap.insert bo true })

/-- The `gbm_bo` that is destroyed, and the device after the call. -/
def freeBuffer (d : GBMDevice) (b : GBMBuffer) : Option GbmBo × GBMDevice :=
  if d.importedBuffersMap[b.genericHandle]? = some true then
    (none, { d with importedBuffersMap := d.importedBuffersMap.insert b.genericHandle false })
  else (some b.genericHandle, d)

/-- The device would take a handle of the pointer for an import. -/
def isImported (d : GBMDevice) (bo : GbmBo) : Prop := d.importedBuffersMap[bo]? = some true

theorem isImported_importBuffer : (d.importBuffer bo).2.isImported p ↔ bo = p ∨ d.isImported p := by
  unfold isImported importBuffer
  rw [Std.ExtTreeMap.getElem?_insert]
  by_cases h : bo = p <;> simp [h]

theorem isImported_freeBuffer {b : GBMBuffer} :
    (d.freeBuffer b).2.isImported p ↔ b.genericHandle ≠ p ∧ d.isImported p := by
  unfold freeBuffer
  split
  next h =>
    unfold isImported
    rw [Std.ExtTreeMap.getElem?_insert]
    by_cases hp : b.genericHandle = p <;> simp [hp]
  next h =>
    refine ⟨fun hp => ⟨?_, hp⟩, fun hp => hp.2⟩
    rintro rfl
    exact h hp

end GBMDevice

/-- Where a handle came from. -/
inductive Origin where
  | allocated
  | failed
  | imported
  deriving DecidableEq

structure Handle where
  buffer : GBMBuffer
  origin : Origin
  freed : Bool := false
  deriving DecidableEq

/-- What happened to a `gbm_bo` in the calls of a run. -/
inductive BoEvent where
  | imported (bo : GbmBo)
  | freed (bo : GbmBo)
  deriving DecidableEq

def BoEvent.bo : BoEvent → GbmBo
  | .imported bo | .freed bo => bo

/-- A device with the handles that it returned, each with its place in the list for a name. -/
structure GbmRun where
  device : GBMDevice := {}
  handles : List Handle := []
  events : List BoEvent := []
  /-- The handles whose `FreeBuffer` called `gbm_bo_destroy`. -/
  destroyed : List Nat := []
  deriving DecidableEq

namespace GbmRun

inductive Action where
  | allocBuffer (created : Option GbmBo)
  | importBuffer (bo : GbmBo)
  | freeBuffer (h : Nat)

/-- Each handle is freed at most once. -/
def step (s : GbmRun) : Action → Option GbmRun
  | .allocBuffer created =>
    some { s with handles := s.handles ++ [{
      buffer := (GBMDevice.allocBuffer created).1
      origin := if (GBMDevice.allocBuffer created).2 = .allocOk then .allocated else .failed }] }
  | .importBuffer bo =>
    some { s with device := (s.device.importBuffer bo).2
                  handles := s.handles ++ [{
                    buffer := (s.device.importBuffer bo).1
                    origin := .imported }]
                  events := s.events ++ [.imported bo] }
  | .freeBuffer h =>
    match s.handles[h]? with
    | some b =>
      if b.freed then none
      else some { s with device := (s.device.freeBuffer b.buffer).2
                         handles := s.handles.set h { b with freed := true }
                         events := s.events ++ [.freed b.buffer.genericHandle]
                         destroyed := if (s.device.freeBuffer b.buffer).1.isSome
                           then s.destroyed ++ [h] else s.destroyed }
    | none => none

def lts : LTS GbmRun Action := .ofStep step

/-- Each allocation that was freed was destroyed once, and no import ever was. -/
structure DestroyedByOwner (s : GbmRun) : Prop where
  allocated : ∀ (h : Nat) (b : Handle), s.handles[h]? = some b → b.origin = .allocated →
    b.freed = true → s.destroyed.count h = 1
  imported : ∀ (h : Nat) (b : Handle), s.handles[h]? = some b → b.origin = .imported →
    s.destroyed.count h = 0

/-- Of the calls that imported the `gbm_bo` or freed a handle of it, the last was an import. -/
def ImportedSinceFree (events : List BoEvent) (bo : GbmBo) : Prop :=
  (events.filter fun e => e.bo = bo).getLast? = some (.imported bo)

instance {events : List BoEvent} : DecidablePred (ImportedSinceFree events) :=
  fun bo => inferInstanceAs (Decidable ((events.filter fun e => e.bo = bo).getLast? = _))

/-- A freed handle is an import exactly when its `gbm_bo` was imported since it was last freed. -/
def FreesOwn (s : GbmRun) : Action → Prop
  | .freeBuffer h => ∀ b ∈ s.handles[h]?,
      (b.origin = .allocated → ¬ ImportedSinceFree s.events b.buffer.genericHandle) ∧
      (b.origin = .imported → ImportedSinceFree s.events b.buffer.genericHandle)
  | _ => True

instance (s : GbmRun) (a : Action) : Decidable (s.FreesOwn a) := by
  unfold FreesOwn
  split <;> infer_instance

variable {s t : GbmRun} {a : Action} {as : List Action} {events : List BoEvent} {e : BoEvent}
  {bo p : GbmBo} {h : Nat} {b : Handle}

theorem importedSinceFree_append :
    ImportedSinceFree (events ++ [e]) p ↔
      if e.bo = p then e = .imported p else ImportedSinceFree events p := by
  unfold ImportedSinceFree
  rw [List.filter_append]
  split
  next he => simp [he]
  next he => simp [he]

/-- The map of the device is what the calls of the run say, and only freed handles were destroyed. -/
structure Sound (s : GbmRun) : Prop where
  remembers : ∀ p, s.device.isImported p ↔ ImportedSinceFree s.events p
  destroyed : ∀ h ∈ s.destroyed, ∃ b, s.handles[h]? = some b ∧ b.freed = true

theorem sound_initial : Sound {} :=
  ⟨fun p => by simp [GBMDevice.isImported, ImportedSinceFree], by simp⟩

theorem destroyedByOwner_initial : DestroyedByOwner {} := ⟨by simp, by simp⟩

theorem Sound.handle (hs : s.Sound) (b : Handle) :
    ∀ h ∈ s.destroyed, ∃ b', (s.handles ++ [b])[h]? = some b' ∧ b'.freed = true := by
  intro h hmem
  obtain ⟨b', hb', hfreed⟩ := hs.destroyed h hmem
  exact ⟨b', by rw [List.getElem?_append_left (List.getElem?_eq_some_iff.mp hb').1, hb'], hfreed⟩

/-- What a call of `FreeBuffer` leaves, and that the handle was not freed before. -/
theorem step_freeBuffer (hstep : s.step (.freeBuffer h) = some t) :
    ∃ b, s.handles[h]? = some b ∧ b.freed = false ∧
      t = { s with device := (s.device.freeBuffer b.buffer).2
                   handles := s.handles.set h { b with freed := true }
                   events := s.events ++ [.freed b.buffer.genericHandle]
                   destroyed := if (s.device.freeBuffer b.buffer).1.isSome
                     then s.destroyed ++ [h] else s.destroyed } := by
  simp only [step] at hstep
  split at hstep
  next b hb =>
    split at hstep
    · cases hstep
    next hfreed => exact ⟨b, hb, by simpa using hfreed, (Option.some.inj hstep).symm⟩
  next => cases hstep

theorem isSome_freeBuffer {d : GBMDevice} {b : GBMBuffer} :
    (d.freeBuffer b).1.isSome = true ↔ ¬ d.isImported b.genericHandle := by
  unfold GBMDevice.freeBuffer GBMDevice.isImported
  split <;> simp_all

theorem sound_step (hs : s.Sound) (hstep : s.step a = some t) : t.Sound := by
  cases a with
  | allocBuffer created =>
    obtain rfl := Option.some.inj hstep
    exact ⟨hs.remembers, hs.handle _⟩
  | importBuffer bo =>
    obtain rfl := Option.some.inj hstep
    refine ⟨fun p => ?_, hs.handle _⟩
    rw [GBMDevice.isImported_importBuffer, importedSinceFree_append, hs.remembers]
    by_cases h : bo = p <;> simp [BoEvent.bo, h]
  | freeBuffer h =>
    obtain ⟨b, hb, hfreed, rfl⟩ := step_freeBuffer hstep
    refine ⟨fun p => ?_, fun k hk => ?_⟩
    · rw [GBMDevice.isImported_freeBuffer, importedSinceFree_append, hs.remembers]
      by_cases h : b.buffer.genericHandle = p <;> simp [BoEvent.bo, h]
    · have hlt := (List.getElem?_eq_some_iff.mp hb).1
      have hk' : k = h ∨ k ∈ s.destroyed := by
        dsimp only at hk
        split at hk
        · obtain hk | hk := List.mem_append.mp hk
          · exact .inr hk
          · exact .inl (List.mem_singleton.mp hk)
        · exact .inr hk
      by_cases heq : k = h
      · subst heq
        exact ⟨_, List.getElem?_set_self hlt, rfl⟩
      · obtain ⟨b', hb', hfreed'⟩ := hs.destroyed k (hk'.resolve_left heq)
        exact ⟨b', by rw [List.getElem?_set_ne (Ne.symm heq), hb'], hfreed'⟩

/-- A handle that is still to be freed was not destroyed. -/
theorem Sound.count_eq_zero (hs : s.Sound) (hb : s.handles[h]? = some b) (hfreed : b.freed = false) :
    s.destroyed.count h = 0 := by
  rw [List.count_eq_zero]
  intro hmem
  obtain ⟨b', hb', hfreed'⟩ := hs.destroyed h hmem
  obtain rfl := Option.some.inj (hb.symm.trans hb')
  rw [hfreed] at hfreed'
  cases hfreed'

/-- A new handle is not freed and says nothing about the others. -/
theorem destroyedByOwner_newHandle (howned : s.DestroyedByOwner) (ht : t.Sound)
    (hhandles : t.handles = s.handles ++ [b]) (hfreed : b.freed = false)
    (hdestroyed : t.destroyed = s.destroyed) : t.DestroyedByOwner := by
  have hcases : ∀ (h : Nat) (b' : Handle), t.handles[h]? = some b' →
      s.handles[h]? = some b' ∨ b'.freed = false := by
    intro h b' hb'
    rw [hhandles] at hb'
    rcases Nat.lt_or_ge h s.handles.length with hlt | hge
    · exact .inl (by rwa [List.getElem?_append_left hlt] at hb')
    · rw [List.getElem?_append_right hge] at hb'
      obtain rfl := List.mem_singleton.mp (List.mem_of_getElem? hb')
      exact .inr hfreed
  constructor
  · intro h b' hb' horigin hfreed'
    obtain hold | hnew := hcases h b' hb'
    · rw [hdestroyed]
      exact howned.allocated h b' hold horigin hfreed'
    · rw [hnew] at hfreed'
      cases hfreed'
  · intro h b' hb' horigin
    obtain hold | hnew := hcases h b' hb'
    · rw [hdestroyed]
      exact howned.imported h b' hold horigin
    · exact ht.count_eq_zero hb' hnew

theorem destroyedByOwner_freeBuffer (hs : s.Sound) (howned : s.DestroyedByOwner)
    (hstep : s.step (.freeBuffer h) = some t) :
    t.DestroyedByOwner ↔ s.FreesOwn (.freeBuffer h) := by
  obtain ⟨b, hb, hfreed, rfl⟩ := step_freeBuffer hstep
  have hlt := (List.getElem?_eq_some_iff.mp hb).1
  have hzero := hs.count_eq_zero hb hfreed
  have himported := hs.remembers b.buffer.genericHandle
  have hself : (s.handles.set h { b with freed := true })[h]? = some { b with freed := true } :=
    List.getElem?_set_self hlt
  have hcount : ∀ k, (if (s.device.freeBuffer b.buffer).1.isSome then s.destroyed ++ [h]
      else s.destroyed).count k =
      s.destroyed.count k +
        if k = h ∧ ¬ ImportedSinceFree s.events b.buffer.genericHandle then 1 else 0 := by
    intro k
    simp only [isSome_freeBuffer, himported]
    by_cases hsince : ImportedSinceFree s.events b.buffer.genericHandle
    · simp [hsince]
    · by_cases hk : k = h
      · simp [hsince, hk]
      · simp [hsince, hk, Ne.symm hk]
  have hfree : s.FreesOwn (.freeBuffer h) ↔
      (b.origin = .allocated → ¬ ImportedSinceFree s.events b.buffer.genericHandle) ∧
        (b.origin = .imported → ImportedSinceFree s.events b.buffer.genericHandle) := by
    simp [FreesOwn, hb]
  rw [hfree]
  constructor
  · rintro ⟨halloc, himp⟩
    constructor
    · intro horigin
      have hone := halloc h _ hself horigin rfl
      rw [hcount, hzero] at hone
      by_contra hsince
      simp [hsince] at hone
    · intro horigin
      have hnone := himp h _ hself horigin
      rw [hcount, hzero] at hnone
      by_contra hsince
      simp [hsince] at hnone
  · rintro ⟨halloc, himp⟩
    constructor
    · intro k b' hb' horigin hfreed'
      rw [hcount]
      by_cases hk : k = h
      · subst hk
        obtain rfl := Option.some.inj (hself.symm.trans hb')
        simp [hzero, halloc horigin]
      · rw [List.getElem?_set_ne (Ne.symm hk)] at hb'
        simp [hk, howned.allocated k b' hb' horigin hfreed']
    · intro k b' hb' horigin
      rw [hcount]
      by_cases hk : k = h
      · subst hk
        obtain rfl := Option.some.inj (hself.symm.trans hb')
        simp [hzero, himp horigin]
      · rw [List.getElem?_set_ne (Ne.symm hk)] at hb'
        simp [hk, howned.imported k b' hb' horigin]

theorem destroyedByOwner_step (hs : s.Sound) (howned : s.DestroyedByOwner)
    (hstep : s.step a = some t) : t.DestroyedByOwner ↔ s.FreesOwn a := by
  have ht := sound_step hs hstep
  cases a with
  | allocBuffer created =>
    obtain rfl := Option.some.inj hstep
    exact iff_of_true (destroyedByOwner_newHandle howned ht rfl rfl rfl) trivial
  | importBuffer bo =>
    obtain rfl := Option.some.inj hstep
    exact iff_of_true (destroyedByOwner_newHandle howned ht rfl rfl rfl) trivial
  | freeBuffer h => exact destroyedByOwner_freeBuffer hs howned hstep

/-- In every state of a run the owners alone destroyed, exactly when each call frees its own. -/
theorem destroyedByOwner_iff (hrun : LTS.run step {} as = some s) :
    (∀ bs cs u, as = bs ++ cs → LTS.run step {} bs = some u → u.DestroyedByOwner) ↔
      LTS.Meets step FreesOwn {} as := by
  have hiff := LTS.forall_prefix_iff_meets (P := fun s : GbmRun => s.Sound ∧ s.DestroyedByOwner)
    (G := FreesOwn)
    (fun s a t hs hstep => by
      rw [← destroyedByOwner_step hs.1 hs.2 hstep]
      exact and_iff_right (sound_step hs.1 hstep))
    ⟨sound_initial, destroyedByOwner_initial⟩ hrun
  rw [← hiff]
  refine forall_congr' fun bs => forall_congr' fun cs => forall_congr' fun u =>
    imp_congr_right fun heq => imp_congr_right fun hu => ?_
  have hsound : u.Sound := LTS.inv_of_mTr (L := lts) (fun _ _ _ hstep hs => sound_step hs hstep)
    (LTS.mTr_ofStep_iff.mpr hu) sound_initial
  exact (and_iff_right hsound).symm

/-- An import beside an allocation, each freed once. -/
theorem destroyedByOwner_each_once :
    ∃ s, LTS.run step {} [.allocBuffer (some 1), .importBuffer 2, .freeBuffer 1, .freeBuffer 0] =
      some s ∧ s.DestroyedByOwner := by
  have hsome : (LTS.run step {} [.allocBuffer (some 1), .importBuffer 2, .freeBuffer 1,
    .freeBuffer 0]).isSome := by decide
  obtain ⟨s, hs⟩ := Option.isSome_iff_exists.mp hsome
  exact ⟨s, hs, (destroyedByOwner_iff hs).mpr (by decide) _ [] s (by simp) hs⟩

/-- Two imports of one `gbm_bo`: the second call that frees one destroys it. -/
theorem imported_twice : ¬ ∀ as s, LTS.run step {} as = some s → s.DestroyedByOwner := by
  intro h
  have hsome : (LTS.run step {} [.importBuffer 1, .importBuffer 1, .freeBuffer 0,
    .freeBuffer 1]).isSome := by decide
  obtain ⟨s, hs⟩ := Option.isSome_iff_exists.mp hsome
  have hlast : ∀ u ∈ LTS.run step {} [.importBuffer 1, .importBuffer 1, .freeBuffer 0,
      .freeBuffer 1], u.handles[1]? = some
        { buffer := { genericHandle := 1 }, origin := .imported, freed := true } ∧
        u.destroyed.count 1 = 1 := by decide
  obtain ⟨hhandle, hcount⟩ := hlast s hs
  have hzero := (h _ s hs).imported 1 _ hhandle rfl
  omega

end GbmRun

end QmmfSdk.Memory
