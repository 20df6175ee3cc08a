import Mathlib.Logic.Function.Basic
import QmmfSdk.Camera3.Stream

/-! `Camera3PrepareHandler`: its calls and the turns of its thread, in any order, over the streams
that they prepare. -/
namespace QmmfSdk.Camera3

open Library
open Pipeline (IBufferHandle)

namespace Camera3Stream

variable {st : Camera3Stream}

/-- All buffers are allocated. -/
def Full (st : Camera3Stream) : Prop :=
  st.totalBufferCount.toNat ≤ st.memAllocSlots.length

/-- The next `PrepareBuffer` does not ask for another one, whatever the allocator answers. -/
def OnLastBuffer (st : Camera3Stream) : Prop :=
  st.totalBufferCount.toNat ≤ st.preparedBuffersCount.toNat + 1 ∨ st.Full

instance : Decidable st.Full := inferInstanceAs (Decidable (_ ≤ _))

instance : Decidable st.OnLastBuffer := inferInstanceAs (Decidable (_ ∨ _))

/-- The thread's use of `PrepareBuffer`: every error but `-ENODATA` ends the preparation. -/
def prepareBufferOrEnd (dev : AllocDevice) (st : Camera3Stream) (alloc : Option IBufferHandle) :
    Option Errno × Camera3Stream :=
  match st.prepareBuffer dev alloc with
  | (none, st) => (none, st)
  | (some .enodata, st) => (some .enodata, st)
  | (some e, st) => (some e, st.endPrepareLocked.2)

/-- What no step takes back: the buffers that a stream has. -/
structure Grows (st st' : Camera3Stream) : Prop where
  total : st'.totalBufferCount = st.totalBufferCount
  slots : st.memAllocSlots.length ≤ st'.memAllocSlots.length

theorem Grows.refl : st.Grows st :=
  ⟨rfl, Nat.le_refl _⟩

theorem Full.grows {st' : Camera3Stream} (h : st.Full) (hgrows : st.Grows st') : st'.Full := by
  have hslots := hgrows.slots
  unfold Full at h ⊢
  rw [hgrows.total]
  omega

/-- A stream in preparation has counted only buffers that it has. -/
def Counted (st : Camera3Stream) : Prop :=
  st.status = .prepareActive → st.preparedBuffersCount.toNat ≤ st.memAllocSlots.length

theorem beginPrepare_cases (st : Camera3Stream) :
    (st.status = .configured ∧ st.beginPrepare =
      (.enodata, { st with preparedBuffersCount := 0, status := .prepareActive })) ∨
    st.beginPrepare = (.enosys, st) := by
  unfold beginPrepare
  split
  · exact Or.inr rfl
  next hstatus =>
    split
    · exact Or.inr rfl
    · split
      · exact Or.inr rfl
      · exact Or.inl ⟨not_not.mp hstatus, rfl⟩

theorem endPrepare_status (st : Camera3Stream) : st.endPrepareLocked.2.status ≠ .prepareActive := by
  unfold endPrepareLocked
  split
  next hstatus => exact hstatus
  · simp

theorem endPrepare_grows (st : Camera3Stream) : st.Grows st.endPrepareLocked.2 := by
  unfold endPrepareLocked
  split <;> exact ⟨rfl, Nat.le_refl _⟩

/-- The buffers that are still to be allocated. -/
def missing (st : Camera3Stream) : Nat :=
  st.totalBufferCount.toNat - st.memAllocSlots.length

theorem Grows.missing_le {st' : Camera3Stream} (h : st.Grows st') : st'.missing ≤ st.missing := by
  have hslots := h.slots
  unfold missing
  rw [h.total]
  omega

/-- The stream with one more buffer, free. -/
def withBuffer (st : Camera3Stream) (h : IBufferHandle) : Camera3Stream :=
  { st with memAllocSlots := st.memAllocSlots ++ [h]
            memAllocBuffers := st.memAllocBuffers.insert h true }

/-- A buffer is allocated and more are asked for, or it was the last one, or there was an error. -/
theorem prepareBufferOrEnd_cases (dev : AllocDevice) (st : Camera3Stream)
    (alloc : Option IBufferHandle) :
    (∃ h, ¬ st.Full ∧ st.preparedBuffersCount + 1 < st.totalBufferCount ∧
      st.prepareBufferOrEnd dev alloc = (some .enodata,
        { st.withBuffer h with preparedBuffersCount := st.preparedBuffersCount + 1 })) ∨
    (∃ h, ¬ st.Full ∧ ¬ st.preparedBuffersCount + 1 < st.totalBufferCount ∧
      st.prepareBufferOrEnd dev alloc = (none,
        { st.withBuffer h with preparedBuffersCount := 0, status := .configured })) ∨
    (∃ e, e ≠ .enodata ∧ st.prepareBufferOrEnd dev alloc = (some e, st.endPrepareLocked.2) ∧
      (st.status = .prepareActive → st.Full ∨ alloc = none ∧ ¬ st.Full)) := by
  by_cases hactive : st.status = .prepareActive
  · by_cases hfull : st.Full
    · have hslots := Nat.not_lt.mpr hfull
      refine Or.inr (Or.inr ⟨.enodev, by simp, ?_, fun _ => Or.inl hfull⟩)
      simp [prepareBufferOrEnd, prepareBuffer, getBufferLocked, hactive, hslots]
    · have hslots := Nat.not_le.mp hfull
      cases alloc with
      | none =>
        refine Or.inr (Or.inr ⟨.enodev, by simp, ?_, fun _ => Or.inr ⟨rfl, hfull⟩⟩)
        simp [prepareBufferOrEnd, prepareBuffer, getBufferLocked, hactive, hslots]
      | some h =>
        by_cases hlast : st.preparedBuffersCount + 1 < st.totalBufferCount
        · refine Or.inl ⟨h, hfull, hlast, ?_⟩
          simp [prepareBufferOrEnd, prepareBuffer, getBufferLocked, hactive, hslots, hlast,
            withBuffer]
        · refine Or.inr (Or.inl ⟨h, hfull, hlast, ?_⟩)
          simp [prepareBufferOrEnd, prepareBuffer, getBufferLocked, hactive, hslots, hlast,
            withBuffer, endPrepareLocked]
  · refine Or.inr (Or.inr ⟨.enosys, by simp, ?_, fun h => absurd h hactive⟩)
    simp [prepareBufferOrEnd, prepareBuffer, hactive]

theorem withBuffer_grows (h : IBufferHandle) : st.Grows (st.withBuffer h) :=
  ⟨rfl, by simp [withBuffer]⟩

/-- Whatever the state of the stream, another turn is asked for only after an allocation. -/
theorem prepareBufferOrEnd_missing (dev : AllocDevice) (st : Camera3Stream)
    (alloc : Option IBufferHandle) :
    st.Grows (st.prepareBufferOrEnd dev alloc).2 ∧
      ((st.prepareBufferOrEnd dev alloc).1 = some .enodata →
        (st.prepareBufferOrEnd dev alloc).2.missing < st.missing) := by
  rcases st.prepareBufferOrEnd_cases dev alloc with ⟨h, hfull, -, hres⟩ | ⟨h, -, -, hres⟩ |
    ⟨e, he, hres, -⟩
  · have hslots := Nat.not_le.mp hfull
    rw [hres]
    refine ⟨⟨rfl, (withBuffer_grows h).slots⟩, fun _ => ?_⟩
    simp only [missing, withBuffer, List.length_append, List.length_singleton]
    omega
  · rw [hres]
    exact ⟨⟨rfl, (withBuffer_grows h).slots⟩, by simp⟩
  · rw [hres]
    exact ⟨st.endPrepare_grows, fun hmore => absurd (Option.some.inj hmore) he⟩

/-- A stream in preparation gets one more buffer, or is complete, or the allocator failed. -/
theorem prepareBufferOrEnd_active (dev : AllocDevice) (alloc : Option IBufferHandle)
    (hactive : st.status = .prepareActive) (hcount : st.Counted) :
    (∃ st', st.prepareBufferOrEnd dev alloc = (some .enodata, st') ∧ ¬ st.OnLastBuffer ∧
      st'.status = .prepareActive ∧ st'.Counted ∧ st.Grows st') ∨
    (∃ res st', st.prepareBufferOrEnd dev alloc = (res, st') ∧ res ≠ some .enodata ∧
      st'.status ≠ .prepareActive ∧ st.Grows st' ∧ (st'.Full ∨ alloc = none ∧ ¬ st.Full)) := by
  have hcount := hcount hactive
  have hlt := st.totalBufferCount.toNat_lt
  -- no wrap: while a buffer is missing, the count is below the total
  have hadd : ¬ st.Full →
      (st.preparedBuffersCount + 1).toNat = st.preparedBuffersCount.toNat + 1 := by
    intro hfull
    have hslots := Nat.not_le.mp hfull
    exact Counter.toNat_up rfl (by omega)
  rcases st.prepareBufferOrEnd_cases dev alloc with ⟨h, hfull, hlast, hres⟩ |
    ⟨h, hfull, hlast, hres⟩ | ⟨e, he, hres, herror⟩
  · left
    have hcountlt := UInt32.lt_iff_toNat_lt.mp hlast
    have hadd := hadd hfull
    refine ⟨_, hres, ?_, hactive, ?_, ⟨rfl, (withBuffer_grows h).slots⟩⟩
    · rintro (hle | hfull')
      · omega
      · exact hfull hfull'
    · intro _
      simp only [withBuffer, List.length_append, List.length_singleton]
      omega
  · right
    have hcountle := Nat.le_of_not_lt (mt UInt32.lt_iff_toNat_lt.mpr hlast)
    have hadd := hadd hfull
    refine ⟨none, _, hres, by simp, by simp, ⟨rfl, (withBuffer_grows h).slots⟩, Or.inl ?_⟩
    unfold Full
    simp only [withBuffer, List.length_append, List.length_singleton]
    omega
  · right
    exact ⟨_, _, hres, by simpa using he, st.endPrepare_status, st.endPrepare_grows,
      (herror hactive).imp_left fun hfull => hfull.grows st.endPrepare_grows⟩

end Camera3Stream

/-- A stream that waits to be prepared, with the number of the `Prepare` call that queued it. -/
structure PrepareJob where
  call : Nat
  stream : Nat
  deriving DecidableEq, Repr

/-- Where the thread stands: before the locked head of `ThreadLoop`, before `PrepareBuffer`, or
before the callback. -/
inductive LoopPhase where
  | top
  | prepare
  | report
  deriving DecidableEq, Repr

/-- Besides the handler and the streams: how many `Prepare` calls there were, which of them
returned success, which a `Clear` cut off, for which the allocator failed, the prepare callbacks,
and the streams that a call left behind when the thread could not be started. -/
structure PrepareHandler where
  streams : List PrepareJob := []
  prepareRunning : Bool := false
  abortPrepare : Bool := false
  preparedStream : Option PrepareJob := none
  phase : LoopPhase := .top
  table : Nat → Camera3Stream
  calls : Nat := 0
  accepted : List PrepareJob := []
  cut : List Nat := []
  failed : List Nat := []
  callbacks : List PrepareJob := []
  stuck : List Nat := []

namespace PrepareHandler

/-- `run` is what starting the thread answers. -/
inductive Action where
  | prepare (stream : Option Nat) (run : Option Errno)
  | clear
  | takeStream
  | prepareBuffer (alloc : Option IBufferHandle)
  | report
  deriving DecidableEq

/-- The turns of the thread. -/
def Action.isThread : Action → Bool
  | .prepare _ _ => false
  | .clear => false
  | _ => true

def pushBack (s : PrepareHandler) (job : PrepareJob) : PrepareHandler :=
  { s with streams := s.streams ++ [job], accepted := s.accepted ++ [job] }

/-- `Prepare`, `none` being success. `BeginPrepare` never answers 0, so that the first branch of
the source is not taken. -/
def prepare (s : PrepareHandler) (stream : Option Nat) (run : Option Errno) :
    Option Errno × PrepareHandler :=
  match stream with
  | none => (some .einval, s)
  | some id =>
    let job : PrepareJob := ⟨s.calls, id⟩
    let s := { s with calls := s.calls + 1 }
    match (s.table id).beginPrepare with
    | (.enodata, st) =>
      let s := { s with table := Function.update s.table id st }
      if s.prepareRunning then (none, s.pushBack job)
      else
        match run with
        | some e =>
          (some e, { s with callbacks := s.callbacks ++ [job], stuck := s.stuck ++ [id] })
        | none => (none, pushBack { s with abortPrepare := false, prepareRunning := true } job)
    | (e, _) => (some e, s)

/-- `EndPrepare` on each stream of a list. -/
def endPrepares (table : Nat → Camera3Stream) (ids : List Nat) : Nat → Camera3Stream :=
  ids.foldl (fun t id => Function.update t id (t id).endPrepareLocked.2) table

def clear (s : PrepareHandler) : PrepareHandler :=
  { s with table := endPrepares s.table (s.streams.map (·.stream))
           streams := []
           abortPrepare := true
           cut := s.cut ++ (s.preparedStream.toList ++ s.streams).map (·.call) }

/-- The locked head of `ThreadLoop`. -/
def takeStream (s : PrepareHandler) : PrepareHandler :=
  match s.preparedStream with
  | none =>
    match s.streams with
    | [] => { s with prepareRunning := false }
    | job :: streams => { s with preparedStream := some job, streams, phase := .prepare }
  | some job =>
    if s.abortPrepare then
      { s with table := Function.update s.table job.stream (s.table job.stream).endPrepareLocked.2
               preparedStream := none
               abortPrepare := false }
    else { s with phase := .prepare }

variable (dev : AllocDevice)

def prepareBuffer (s : PrepareHandler) (job : PrepareJob) (alloc : Option IBufferHandle) :
    PrepareHandler :=
  let (res, st) := (s.table job.stream).prepareBufferOrEnd dev alloc
  { s with table := Function.update s.table job.stream st
           phase := if res = some .enodata then .top else .report
           failed := if alloc = none ∧ ¬ (s.table job.stream).Full then s.failed ++ [job.call]
                     else s.failed }

def report (s : PrepareHandler) (job : PrepareJob) : PrepareHandler :=
  { s with callbacks := s.callbacks ++ [job], preparedStream := none, phase := .top }

def step (s : PrepareHandler) : Action → Option PrepareHandler
  | .prepare stream run => some (s.prepare stream run).2
  | .clear => some s.clear
  | .takeStream => if s.prepareRunning ∧ s.phase = .top then some s.takeStream else none
  | .prepareBuffer alloc =>
    match s.preparedStream, s.phase with
    | some job, .prepare => some (s.prepareBuffer dev job alloc)
    | _, _ => none
  | .report =>
    match s.preparedStream, s.phase with
    | some job, .report => some (s.report job)
    | _, _ => none

def lts : LTS PrepareHandler Action := .ofStep (step dev)

/-- No call was made yet, and no stream is being prepared. -/
structure Start (s : PrepareHandler) : Prop where
  idle : s = { table := s.table }
  notActive : ∀ id, (s.table id).status ≠ .prepareActive

/-- Once the thread has ended, every accepted call that no `Clear` cut off has had its callback,
once, with all buffers allocated unless the allocator failed; and a call that was cut off does
not leave its stream in preparation. -/
def Completed (s : PrepareHandler) : Prop :=
  s.prepareRunning = false → ∀ job ∈ s.accepted,
    (job.call ∉ s.cut →
      s.callbacks.count job = 1 ∧ (job.call ∈ s.failed ∨ (s.table job.stream).Full)) ∧
    (job.call ∈ s.cut → (s.table job.stream).status = .prepareActive → job.stream ∈ s.stuck)

/-- The thread does not pick up a stream while `abort_prepare_` is set, except one that is complete
with its next buffer. -/
def notStale (s : PrepareHandler) : Action → Bool
  | .takeStream => s.preparedStream.isSome || !s.abortPrepare ||
      s.streams.head?.all fun job => (s.table job.stream).OnLastBuffer
  | _ => true

end PrepareHandler

end QmmfSdk.Camera3
