import QmmfSdk.Camera3.StreamCounts

/-! The slots of a stream: which buffers they hold, and that none of them is handed out while it is out. -/
namespace QmmfSdk.Camera3

open Library
open Pipeline (IBufferHandle)

namespace StreamFlow

variable {dev : AllocDevice} {s t : StreamFlow} {st st' : Camera3Stream} {a : Action}
  {as : List Action} {h : IBufferHandle} {alloc : Option IBufferHandle} {wants : Bool}
  {total : UInt32} {out : List (IBufferHandle × Place)}

/-- Only a buffer that is out is returned, so each one is returned once. -/
def HeldReturns (dev : AllocDevice) (s : StreamFlow) (a : Action) : Prop :=
  ∀ h ∈ s.returned dev a, h ∈ s.out.map (·.1)

/-- No call of `GetBufferLocked`, with or without a stream buffer, gives a buffer that is out. The slots
are within the stream's count, hold each buffer once, and hold exactly those that are marked. -/
structure Separate (dev : AllocDevice) (s : StreamFlow) : Prop where
  notBusy : ∀ (wants : Bool) (alloc : Option IBufferHandle) (h : IBufferHandle) (st : Camera3Stream),
    (∀ k ∈ alloc, k ∉ s.stream.memAllocBuffers) →
      s.stream.getBufferLocked dev wants alloc = (.ok h, st) → h ∉ s.out.map (·.1)
  allocated_le : s.stream.memAllocSlots.length ≤ s.stream.totalBufferCount.toNat
  nodup : s.stream.memAllocSlots.Nodup
  keys : ∀ h, h ∈ s.stream.memAllocSlots ↔ h ∈ s.stream.memAllocBuffers

/-- The slots after a call: the same, one new buffer after them, or none. -/
inductive SlotsTo (st st' : Camera3Stream) : Prop where
  | same (h : st'.memAllocSlots = st.memAllocSlots)
  | added {h : IBufferHandle} (hnew : h ∉ st.memAllocSlots)
      (h : st'.memAllocSlots = st.memAllocSlots ++ [h])
  | freed (h : st'.memAllocSlots = [])

theorem SlotsTo.nodup (hto : SlotsTo st st') (hnodup : st.memAllocSlots.Nodup) :
    st'.memAllocSlots.Nodup := by
  cases hto with
  | same h =>
    rw [h]
    exact hnodup
  | added hnew h =>
    rw [h, List.nodup_append]
    refine ⟨hnodup, by simp, ?_⟩
    intro x hx y hy
    obtain rfl := List.mem_singleton.mp hy
    rintro rfl
    exact hnew hx
  | freed h =>
    rw [h]
    exact List.nodup_nil

/-- A buffer that is marked free is not out, nor is one that the stream does not have yet. -/
theorem Marked.getBufferLocked_notBusy (hm : Marked st out)
    (hfresh : ∀ k ∈ alloc, k ∉ st.memAllocBuffers)
    (hget : st.getBufferLocked dev wants alloc = (.ok h, st')) : h ∉ out.map (·.1) := by
  rcases getBufferLocked_cases dev alloc wants hm with ⟨e, heq⟩ | ⟨-, k, hmark, heq⟩ |
    ⟨k, rfl, -, heq⟩
  · rw [heq] at hget
    simp at hget
  · obtain rfl : k = h := by
      rw [heq] at hget
      simpa using congrArg Prod.fst hget
    rw [← hm.marks, hmark]
    simp
  · obtain rfl : k = h := by
      rw [heq] at hget
      simpa using congrArg Prod.fst hget
    exact hm.not_out_of_fresh (hfresh k rfl)

theorem slotsTo_getBufferLocked (dev : AllocDevice) (wants : Bool) (hm : Marked st out)
    (hfresh : ∀ k ∈ alloc, k ∉ st.memAllocBuffers) :
    SlotsTo st (st.getBufferLocked dev wants alloc).2 := by
  rcases getBufferLocked_cases dev alloc wants hm with ⟨e, heq⟩ | ⟨-, k, -, heq⟩ | ⟨k, rfl, -, heq⟩
  · rw [heq]
    exact .same rfl
  · rw [heq]
    exact .same rfl
  · have hnew : k ∉ st.memAllocSlots := by
      rw [← hm.keys]
      exact hfresh k rfl
    rw [heq]
    refine .added hnew ?_
    cases wants <;> rfl

theorem slotsTo_takeBuffer (hm : Marked s.stream s.out)
    (hfresh : ∀ k ∈ alloc, k ∉ s.stream.memAllocBuffers) :
    SlotsTo s.stream (s.takeBuffer dev alloc).stream := by
  have hto := slotsTo_getBufferLocked dev true hm hfresh
  unfold takeBuffer
  cases hget : s.stream.getBufferLocked dev true alloc with
  | mk res st =>
    rw [hget] at hto
    cases res with
    | ok h => exact hto
    | error e => exact hto

theorem slots_returnBuffer : (s.returnBuffer h).stream.memAllocSlots = s.stream.memAllocSlots := by
  rcases returnBuffer_cases (s := s) (h := h) with heq | ⟨-, -, heq⟩ <;> rw [heq]

theorem slotsTo_beginPrepare : SlotsTo st st.beginPrepare.2 := by
  unfold Camera3Stream.beginPrepare
  repeat' split
  all_goals exact .same rfl

theorem slots_endPrepareLocked : st.endPrepareLocked.2.memAllocSlots = st.memAllocSlots := by
  unfold Camera3Stream.endPrepareLocked
  split
  · rfl
  · rfl

theorem slotsTo_prepareBuffer (hm : Marked st out)
    (hfresh : ∀ k ∈ alloc, k ∉ st.memAllocBuffers) :
    SlotsTo st (st.prepareBuffer dev alloc).2 := by
  have hto := slotsTo_getBufferLocked dev false hm hfresh
  unfold Camera3Stream.prepareBuffer
  split
  · exact .same rfl
  · cases hget : st.getBufferLocked dev false alloc with
    | mk res st₁ =>
      rw [hget] at hto
      cases res with
      | error e => exact hto
      | ok h =>
        dsimp only
        split
        · cases hto with
          | same h => exact .same h
          | added hnew h => exact .added hnew h
          | freed h => exact .freed h
        · cases hto with
          | same h => exact .same (slots_endPrepareLocked.trans h)
          | added hnew h => exact .added hnew (slots_endPrepareLocked.trans h)
          | freed h => exact .freed (slots_endPrepareLocked.trans h)

theorem slotsTo_tearDown : SlotsTo st st.tearDown.2 := by
  unfold Camera3Stream.tearDown
  split
  · exact .same rfl
  · split
    · exact .same rfl
    · exact .freed rfl

/-- What a step does to the slots. -/
theorem slotsTo_step (hm : Marked s.stream s.out) (hfresh : s.FreshAlloc a)
    (hstep : s.step dev a = some t) : SlotsTo s.stream t.stream := by
  cases a with
  | getBuffer alloc =>
    obtain rfl := Option.some.inj hstep
    unfold getBuffer
    split
    · exact .same rfl
    · split
      · exact .same rfl
      · exact slotsTo_takeBuffer hm hfresh
  | wake alloc =>
    simp only [step, wake] at hstep
    split at hstep
    · cases hstep
    · obtain rfl := Option.some.inj hstep
      exact slotsTo_takeBuffer (s := { s with waiting := s.waiting - 1 }) hm hfresh
  | timeOut =>
    simp only [step] at hstep
    split at hstep
    · cases hstep
    · obtain rfl := Option.some.inj hstep
      exact .same rfl
  | processCaptureRequest =>
    obtain rfl := Option.some.inj hstep
    exact .same rfl
  | handleErrorRequest h =>
    simp only [step, handleErrorRequest] at hstep
    split at hstep
    · obtain rfl := Option.some.inj hstep
      exact .same slots_returnBuffer
    · cases hstep
  | returnBufferToClient native ok =>
    obtain ⟨⟨h, st⟩, hst, rfl⟩ := Option.map_eq_some_iff.mp hstep
    obtain ⟨h', hh', heq⟩ := Option.map_eq_some_iff.mp hst
    obtain ⟨rfl, rfl⟩ := Prod.mk.inj heq
    exact .same rfl
  | returnFailed h =>
    simp only [step, returnFailed] at hstep
    split at hstep
    · obtain rfl := Option.some.inj hstep
      exact .same slots_returnBuffer
    · cases hstep
  | returnBuffer h =>
    obtain rfl := Option.some.inj hstep
    exact .same slots_returnBuffer
  | beginPrepare =>
    obtain rfl := Option.some.inj hstep
    exact slotsTo_beginPrepare
  | prepareBuffer alloc =>
    obtain rfl := Option.some.inj hstep
    exact slotsTo_prepareBuffer hm hfresh
  | endPrepare =>
    obtain rfl := Option.some.inj hstep
    exact .same slots_endPrepareLocked
  | tearDown =>
    obtain rfl := Option.some.inj hstep
    exact slotsTo_tearDown

/-- A return of a buffer that is out is not one of a buffer that is marked free. -/
theorem Sound.markedReturns (hs : Sound s) (hret : s.HeldReturns dev a) : s.MarkedReturns dev a := by
  intro h hh hmark
  have hout := hret h hh
  rw [← hs.marked.marks, hmark] at hout
  simp at hout

/-- The slots of a sound state hold each buffer once. -/
structure Slotted (s : StreamFlow) : Prop where
  sound : Sound s
  nodup : s.stream.memAllocSlots.Nodup

theorem slotted_configured : Slotted (configured total) := ⟨sound_configured, List.nodup_nil⟩

theorem slotted_step : ((lts dev).guarded fun s a => s.FreshAlloc a ∧ s.HeldReturns dev a).TrInv
    Slotted := by
  rintro s a t ⟨hstep, hfresh, hret⟩ hs
  have hmarked := hs.sound.markedReturns hret
  refine ⟨sound_step s a t ⟨hstep, hfresh, hmarked⟩ hs.sound, ?_⟩
  exact (slotsTo_step hs.sound.marked hfresh hstep).nodup hs.nodup

theorem Slotted.separate (hs : Slotted s) : s.Separate dev where
  notBusy _ _ _ _ hfresh hget := hs.sound.marked.getBufferLocked_notBusy hfresh hget
  allocated_le := hs.sound.marked.slots_le
  nodup := hs.nodup
  keys h := (hs.sound.marked.keys h).symm

/-- Where an allocator gives fresh handles and only buffers that are out are returned, no call hands out
a buffer that is out, and the slots and the marks stay in step. -/
theorem separate_of_heldReturns
    (h : ((lts dev).guarded fun s a => s.FreshAlloc a ∧ s.HeldReturns dev a).MTr
      (configured total) as s) : s.Separate dev :=
  (LTS.inv_of_mTr slotted_step h slotted_configured).separate

instance : Decidable (s.HeldReturns dev a) :=
  Option.decidableForallMem (p := fun h => h ∈ s.out.map Prod.fst) (s.returned dev a)

/-- One buffer is prepared and another one allocated on the way; the HAL reports an error for the first
and the client returns the second. -/
def preparedAndReturnedRun : List Action :=
  [.beginPrepare, .prepareBuffer (some 1), .endPrepare, .getBuffer none, .getBuffer (some 2),
    .processCaptureRequest, .returnBufferToClient 2 true, .returnBufferToClient 1 false,
    .returnFailed 1, .returnBuffer 2, .getBuffer none]

theorem separate_prepared_and_returned :
    (LTS.run (step {}) (configured 2) preparedAndReturnedRun).map
        (fun s => (s.out, s.stream.memAllocSlots)) = some ([(1, .handler)], [1, 2]) ∧
      ∃ s, ((lts {}).guarded fun s a => s.FreshAlloc a ∧ s.HeldReturns {} a).MTr (configured 2)
        preparedAndReturnedRun s ∧ s.Separate {} := by
  have hrun : (LTS.run (step {}) (configured 2) preparedAndReturnedRun).map
      (fun s => (s.out, s.stream.memAllocSlots)) = some ([(1, .handler)], [1, 2]) := by decide
  obtain ⟨s, hs, -⟩ := Option.map_eq_some_iff.mp hrun
  have hguard := LTS.mTr_guarded_iff.mpr ⟨hs, (by decide : LTS.Meets (step {})
    (fun s a => s.FreshAlloc a ∧ s.HeldReturns {} a) (configured 2) preparedAndReturnedRun)⟩
  exact ⟨hrun, s, hguard, separate_of_heldReturns hguard⟩

end StreamFlow

end QmmfSdk.Camera3
