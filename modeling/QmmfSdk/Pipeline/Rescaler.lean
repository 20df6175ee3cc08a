import QmmfSdk.Library.Transition
import QmmfSdk.Pipeline.TrackSource

/-! `CameraRescaler`: frames of the master track wait in a list until the rescaler's thread has drawn
them, and go back to their producer. -/
namespace QmmfSdk.Pipeline

open Library

/-- A frame with the fields that `ThreadLoop` copies from its input to its output. -/
structure CameraFrame extends StreamBuffer where
  streamId : Int32 := 0
  frameNumber : UInt32 := 0
  cameraId : UInt32 := 0
  deriving DecidableEq, Repr

/-- `allocSlots` tells that `Initialize` has made `mem_alloc_slots_`. -/
structure RescalerMemPool where
  allocSlots : Bool := true
  memAllocSlots : List IBufferHandle := []
  memAllocBuffers : OrdMap IBufferHandle Bool := ∅
  pendingBufferCount : UInt32 := 0
  bufferCnt : UInt32 := 13

namespace RescalerMemPool

/-- What the allocator answers about a new buffer and `PopulateMetaInfo` about its format. -/
structure Answers where
  allocated : Option IBufferHandle
  populated : Bool
  fd : Int32
  size : UInt32

def noBuffer : CameraFrame := { handle := 0, fd := -1 }

/-- A free buffer, or a new one while there are slots for it. -/
def takeBuffer (pool : RescalerMemPool) (ans : Answers) : Option IBufferHandle × RescalerMemPool :=
  match pool.memAllocBuffers.toList.find? (·.2) with
  | some (handle, _) =>
    (if handle ∈ pool.memAllocSlots then some handle else none,
      { pool with memAllocBuffers := pool.memAllocBuffers.insert handle false })
  | none =>
    if pool.memAllocSlots.length < pool.bufferCnt.toNat then
      match ans.allocated with
      | none => (none, pool)
      | some handle =>
        (some handle, { pool with
          memAllocSlots := pool.memAllocSlots ++ [handle]
          memAllocBuffers := pool.memAllocBuffers.insertIfNew handle false })
    else (none, pool)

/-- After a failed `PopulateMetaInfo` the buffer stays marked as taken, though it is not counted. -/
def getBufferLocked (pool : RescalerMemPool) (ans : Answers) : CameraFrame × RescalerMemPool :=
  let (chosen, pool) := pool.takeBuffer ans
  match chosen with
  | none => (noBuffer, pool)
  | some handle =>
    if ans.populated then
      ({ noBuffer with handle, fd := ans.fd, size := ans.size },
        { pool with pendingBufferCount := pool.pendingBufferCount + 1 })
    else ({ noBuffer with handle }, pool)

/-- `none` while all buffers are out: the thread waits for one of them to come back. -/
def getFreeOutputBuffer (pool : RescalerMemPool) (ans : Answers) :
    Option (CameraFrame × RescalerMemPool) :=
  if !pool.allocSlots then some (noBuffer, pool)
  else if pool.pendingBufferCount = pool.bufferCnt then none
  else some (pool.getBufferLocked ans)

def returnBufferLocked (pool : RescalerMemPool) (handle : IBufferHandle) : RescalerMemPool :=
  if pool.pendingBufferCount = 0 ∨ handle ∉ pool.memAllocBuffers then pool
  else { pool with
    memAllocBuffers := pool.memAllocBuffers.insert handle true
    pendingBufferCount := pool.pendingBufferCount - 1 }

end RescalerMemPool

/-- Where the rescaler's thread is: before the check of `abort_`, before that of the list, waiting for
a frame, with a frame and no output, with both, or out of its loop. -/
inductive ThreadLoop where
  | top
  | look
  | waiting
  | taken (input : CameraFrame)
  | drawing (input output : CameraFrame)
  | exited
  deriving DecidableEq, Repr

def ThreadLoop.inHand : ThreadLoop → List CameraFrame
  | .taken input | .drawing input _ => [input]
  | .top | .look | .waiting | .exited => []

/-- `starting` is a `Start` that holds `stop_lock_`, `stopping` counts the `Stop` calls between their
flag and their `RequestExitAndWait`, `joining` is the one that waits for the thread with `lock_` held,
and `arriving` are the frames between `IsStop` and `AddBuf`. `received`, `returned` and `notified` are
what the producer has sent and got back and what the consumers have got. `stopped` tells that a `Stop`
has returned and no `Start` has begun or ended since. -/
structure CameraRescaler where
  isStop : Bool := false
  starting : Bool := false
  stopping : Nat := 0
  joining : Bool := false
  abort : Bool := false
  running : Bool := false
  thread : Option ThreadLoop := none
  arriving : List CameraFrame := []
  bufsList : List CameraFrame := []
  mappedBuffs : List Int32 := []
  pool : RescalerMemPool := {}
  received : List CameraFrame := []
  returned : List CameraFrame := []
  notified : List CameraFrame := []
  stopped : Bool := false

namespace CameraRescaler

/-- The steps of the callers of `Start` and `Stop`, of the master track, of the rescaler's thread and of
the consumers. -/
inductive Action where
  | startFlag
  | startRun
  | stopFlag
  | stopRequestExit
  | stopReturn
  | onFrameAvailable (b : CameraFrame)
  | addBuf (b : CameraFrame)
  | checkAbort
  | look
  | signalled
  | timedOut
  | getOutput (ans : RescalerMemPool.Answers)
  | draw (mapped : Bool) (consumers : Nat)
  | notifyBufferReturned (handle : IBufferHandle)

def hand (s : CameraRescaler) : List CameraFrame :=
  match s.thread with
  | some phase => phase.inHand
  | none => []

/-- The frames that the rescaler has and has not returned. -/
def held (s : CameraRescaler) : List CameraFrame :=
  s.arriving ++ s.bufsList ++ s.hand

def returnBufferToProducer (s : CameraRescaler) (b : CameraFrame) : CameraRescaler :=
  { s with returned := s.returned ++ [b] }

def returnBufferToBufferPool (s : CameraRescaler) (handle : IBufferHandle) : CameraRescaler :=
  { s with pool := s.pool.returnBufferLocked handle }

/-- Only a buffer that is not mapped yet needs a mapping, and that one may fail. -/
def mapBuf (s : CameraRescaler) (output : CameraFrame) (mapped : Bool) : Option CameraRescaler :=
  if output.fd = -1 then none
  else if output.fd ∈ s.mappedBuffs then some s
  else if mapped then some { s with mappedBuffs := s.mappedBuffs ++ [output.fd] }
  else none

def notifyBufferToClient (s : CameraRescaler) (output : CameraFrame) (consumers : Nat) :
    CameraRescaler :=
  if 0 < consumers then { s with notified := s.notified ++ [output] }
  else s.returnBufferToBufferPool output.handle

/-- What `ThreadLoop` copies from its input. -/
def stampOutput (input output : CameraFrame) : CameraFrame :=
  { output with
    streamId := 0x55aa
    timestamp := input.timestamp
    frameNumber := input.frameNumber
    cameraId := input.cameraId
    flags := input.flags }

/-- The end of `ThreadLoop`; nobody looks at the answer of `Draw`. -/
def finishLoop (s : CameraRescaler) (input output : CameraFrame) (mapped : Bool) (consumers : Nat) :
    CameraRescaler :=
  match s.mapBuf output mapped with
  | none => (s.returnBufferToBufferPool output.handle).returnBufferToProducer input
  | some s => (s.returnBufferToProducer input).notifyBufferToClient output consumers

/-- `Run`: a thread that is there already is an error that `Start` does not look at. -/
def run (s : CameraRescaler) : CameraRescaler :=
  if s.running then s
  else { s with abort := false, running := true, thread := some .top }

def step (s : CameraRescaler) : Action → Option CameraRescaler
  | .startFlag =>
    if s.starting then none else some { s with isStop := false, starting := true, stopped := false }
  | .startRun =>
    if s.starting && !s.joining then some { s.run with starting := false, stopped := false } else none
  | .stopFlag =>
    if s.starting then none else some { s with isStop := true, stopping := s.stopping + 1 }
  | .stopRequestExit =>
    if 0 < s.stopping ∧ s.joining = false then
      match s.thread with
      | none => some { s with stopping := s.stopping - 1, mappedBuffs := [], stopped := true }
      | some _ => some { s with stopping := s.stopping - 1, abort := true, joining := true }
    else none
  | .stopReturn =>
    if s.joining ∧ s.thread = some .exited then
      some { s with thread := none, joining := false, mappedBuffs := [], stopped := true }
    else none
  | .onFrameAvailable b =>
    if s.starting then none
    else
      let s := { s with received := s.received ++ [b] }
      if s.isStop then some (s.returnBufferToProducer b)
      else some { s with arriving := s.arriving ++ [b] }
  | .addBuf b =>
    if b ∈ s.arriving then
      some { s with arriving := s.arriving.erase b, bufsList := s.bufsList ++ [b] }
    else none
  | .checkAbort =>
    if s.thread = some .top then
      if s.abort then some { s with thread := some .exited, running := false }
      else some { s with thread := some .look }
    else none
  | .look =>
    if s.thread = some .look then
      match s.bufsList with
      | [] => some { s with thread := some .waiting }
      | b :: rest => some { s with thread := some (.taken b), bufsList := rest }
    else none
  | .signalled => if s.thread = some .waiting then some { s with thread := some .look } else none
  | .timedOut => if s.thread = some .waiting then some { s with thread := some .top } else none
  | .getOutput ans =>
    match s.thread with
    | some (.taken input) =>
      (s.pool.getFreeOutputBuffer ans).map fun r =>
        { s with thread := some (.drawing input (stampOutput input r.1)), pool := r.2 }
    | _ => none
  | .draw mapped consumers =>
    match s.thread with
    | some (.drawing input output) =>
      some { s.finishLoop input output mapped consumers with thread := some .top }
    | _ => none
  | .notifyBufferReturned handle => some (s.returnBufferToBufferPool handle)

variable {s t : CameraRescaler} {a : Action} {as : List Action} {b input output : CameraFrame}
  {mapped : Bool} {consumers : Nat}

/-- `running_` tells that the thread is in its loop; a thread that is there is joined once `abort_` is
set, and a `Stop` that has returned leaves none. -/
structure Sound (s : CameraRescaler) : Prop where
  running : s.running = true ↔ ∃ phase, s.thread = some phase ∧ phase ≠ .exited
  exited : s.thread = some .exited → s.joining = true
  aborted : s.abort = true → s.thread ≠ none → s.joining = true
  stopped : s.stopped = true → s.thread = none

/-- Each frame is with the rescaler as often as it was received and not returned. -/
def Conserved (s : CameraRescaler) : Prop :=
  ∀ b, s.received.count b = s.returned.count b + s.held.count b

theorem sound_init {pool : RescalerMemPool} : Sound { pool } :=
  ⟨⟨nofun, nofun⟩, nofun, nofun, nofun⟩

theorem conserved_init {pool : RescalerMemPool} : Conserved { pool } :=
  fun _ => rfl

/-- However the drawing ends, the input goes back and nothing else that counts changes. -/
theorem finishLoop_eq (s : CameraRescaler) (input output : CameraFrame) (mapped : Bool)
    (consumers : Nat) : ∃ maps pool notified, s.finishLoop input output mapped consumers =
    { s with
      mappedBuffs := maps
      pool := pool
      notified := notified
      returned := s.returned ++ [input] } := by
  unfold finishLoop mapBuf notifyBufferToClient returnBufferToProducer
  by_cases hfd : output.fd = -1
  · rw [if_pos hfd]
    exact ⟨_, _, _, rfl⟩
  rw [if_neg hfd]
  by_cases hmem : output.fd ∈ s.mappedBuffs
  · rw [if_pos hmem]
    by_cases hc : 0 < consumers
    · exact ⟨_, _, _, if_pos hc⟩
    · exact ⟨_, _, _, if_neg hc⟩
  rw [if_neg hmem]
  cases mapped with
  | false => exact ⟨_, _, _, rfl⟩
  | true =>
    by_cases hc : 0 < consumers
    · exact ⟨_, _, _, if_pos hc⟩
    · exact ⟨_, _, _, if_neg hc⟩

/-- What a step of the thread does inside its loop: a frame may come out of the list into its hand, and
may go from there to the producer. -/
structure LoopStep (s t : CameraRescaler) : Prop where
  joining : t.joining = s.joining
  abort : t.abort = s.abort
  running : t.running = s.running
  stopped : t.stopped = s.stopped
  arriving : t.arriving = s.arriving
  received : t.received = s.received
  inside : ∃ phase, s.thread = some phase ∧ phase ≠ .exited
  stays : ∃ phase, t.thread = some phase ∧ phase ≠ .exited
  frames : ∀ b, s.returned.count b + (s.bufsList.count b + s.hand.count b) =
    t.returned.count b + (t.bufsList.count b + t.hand.count b)

/-- The thread goes on with the frame it has, or with none. -/
theorem LoopStep.moves {phase next : ThreadLoop} {pool : RescalerMemPool}
    (hthread : s.thread = some phase) (hphase : phase ≠ .exited) (hnext : next ≠ .exited)
    (hhand : next.inHand = phase.inHand) : LoopStep s { s with thread := some next, pool := pool } where
  joining := rfl
  abort := rfl
  running := rfl
  stopped := rfl
  arriving := rfl
  received := rfl
  inside := ⟨phase, hthread, hphase⟩
  stays := ⟨next, rfl, hnext⟩
  frames b := by simp [hand, hthread, hhand]

/-- The steps of the thread that leave it in its loop. -/
def Action.inLoop (s : CameraRescaler) : Action → Bool
  | .checkAbort => !s.abort
  | .look | .signalled | .timedOut | .getOutput _ | .draw _ _ => true
  | _ => false

theorem loop_step (ha : a.inLoop s = true) (h : s.step a = some t) : LoopStep s t := by
  cases a with
  | checkAbort =>
    have habort : s.abort = false := by simpa [Action.inLoop] using ha
    simp only [step] at h
    split at h
    next hthread =>
      rw [if_neg (by simp [habort])] at h
      obtain rfl := Option.some.inj h
      exact .moves hthread nofun nofun rfl
    next => cases h
  | look =>
    simp only [step] at h
    split at h
    next hthread =>
      split at h
      next hempty =>
        obtain rfl := Option.some.inj h
        exact .moves hthread nofun nofun rfl
      next b rest hlist =>
        obtain rfl := Option.some.inj h
        refine ⟨rfl, rfl, rfl, rfl, rfl, rfl, ⟨_, hthread, nofun⟩, ⟨_, rfl, nofun⟩, fun c => ?_⟩
        simp only [hand, hthread, hlist, ThreadLoop.inHand, List.count_cons, List.count_nil]
        omega
    next => cases h
  | signalled =>
    simp only [step] at h
    split at h
    next hthread =>
      obtain rfl := Option.some.inj h
      exact .moves hthread nofun nofun rfl
    next => cases h
  | timedOut =>
    simp only [step] at h
    split at h
    next hthread =>
      obtain rfl := Option.some.inj h
      exact .moves hthread nofun nofun rfl
    next => cases h
  | getOutput ans =>
    simp only [step] at h
    split at h
    next input hthread =>
      obtain ⟨r, -, rfl⟩ := Option.map_eq_some_iff.mp h
      exact .moves hthread nofun nofun rfl
    next => cases h
  | draw mapped consumers =>
    simp only [step] at h
    split at h
    next input output hthread =>
      obtain rfl := Option.some.inj h
      obtain ⟨maps, pool, notified, heq⟩ := finishLoop_eq s input output mapped consumers
      rw [heq]
      refine ⟨rfl, rfl, rfl, rfl, rfl, rfl, ⟨_, hthread, nofun⟩, ⟨_, rfl, nofun⟩, fun c => ?_⟩
      simp only [hand, hthread, ThreadLoop.inHand, List.count_append, List.count_nil]
      omega
    next => cases h
  | startFlag | startRun | stopFlag | stopRequestExit | stopReturn | onFrameAvailable b | addBuf b
    | notifyBufferReturned handle => cases ha

/-- Every step, with the state that it leads to. -/
inductive Effect (s : CameraRescaler) : Action → CameraRescaler → Prop where
  | inLoop {a : Action} {t : CameraRescaler} (h : LoopStep s t) (ha : a.inLoop s = true) : Effect s a t
  | startFlag : Effect s .startFlag { s with isStop := false, starting := true, stopped := false }
  | startRun (hjoining : s.joining = false) :
      Effect s .startRun { s.run with starting := false, stopped := false }
  | stopFlag : Effect s .stopFlag { s with isStop := true, stopping := s.stopping + 1 }
  | noThread (hthread : s.thread = none) : Effect s .stopRequestExit
      { s with stopping := s.stopping - 1, mappedBuffs := [], stopped := true }
  | requestExit (hthread : s.thread ≠ none) (hjoining : s.joining = false) : Effect s .stopRequestExit
      { s with stopping := s.stopping - 1, abort := true, joining := true }
  | leave (hthread : s.thread = some .top) (habort : s.abort = true) :
      Effect s .checkAbort { s with thread := some .exited, running := false }
  | stopReturn (hthread : s.thread = some .exited) : Effect s .stopReturn
      { s with thread := none, joining := false, mappedBuffs := [], stopped := true }
  | refuse {b : CameraFrame} (hstop : s.isStop = true) : Effect s (.onFrameAvailable b)
      { s with received := s.received ++ [b], returned := s.returned ++ [b] }
  | arrive {b : CameraFrame} (hstop : s.isStop = false) : Effect s (.onFrameAvailable b)
      { s with received := s.received ++ [b], arriving := s.arriving ++ [b] }
  | addBuf {b : CameraFrame} (hb : b ∈ s.arriving) : Effect s (.addBuf b)
      { s with arriving := s.arriving.erase b, bufsList := s.bufsList ++ [b] }
  | bufferReturned {handle : IBufferHandle} : Effect s (.notifyBufferReturned handle)
      { s with pool := s.pool.returnBufferLocked handle }

theorem step_effect (h : s.step a = some t) : Effect s a t := by
  cases hloop : a.inLoop s with
  | true => exact .inLoop (loop_step hloop h) hloop
  | false =>
    cases a with
    | look | signalled | timedOut | getOutput ans | draw mapped consumers => cases hloop
    | checkAbort =>
      have habort : s.abort = true := by simpa [Action.inLoop] using hloop
      simp only [step] at h
      split at h
      next hthread => exact Option.some.inj h ▸ .leave hthread habort
      next => cases h
    | startFlag =>
      simp only [step] at h
      split at h
      · cases h
      · exact Option.some.inj h ▸ .startFlag
    | startRun =>
      simp only [step] at h
      split at h
      next hc =>
        have hjoining : s.joining = false := by simpa using (Bool.and_eq_true_iff.mp hc).2
        exact Option.some.inj h ▸ .startRun hjoining
      next => cases h
    | stopFlag =>
      simp only [step] at h
      split at h
      · cases h
      · exact Option.some.inj h ▸ .stopFlag
    | stopRequestExit =>
      simp only [step] at h
      split at h
      next hc =>
        split at h
        next hthread => exact Option.some.inj h ▸ .noThread hthread
        next hthread => exact Option.some.inj h ▸ .requestExit (by simp [hthread]) hc.2
      next => cases h
    | stopReturn =>
      simp only [step] at h
      split at h
      next hc => exact Option.some.inj h ▸ .stopReturn hc.2
      next => cases h
    | onFrameAvailable b =>
      simp only [step] at h
      split at h
      · cases h
      split at h
      next hstop => exact Option.some.inj h ▸ .refuse hstop
      next hstop => exact Option.some.inj h ▸ .arrive (by simpa using hstop)
    | addBuf b =>
      simp only [step] at h
      split at h
      next hb => exact Option.some.inj h ▸ .addBuf hb
      next => cases h
    | notifyBufferReturned handle => exact Option.some.inj h ▸ .bufferReturned

/-- Nothing runs any more: a `Stop` has returned, or the thread that it waits for has left its loop. -/
def Gone (s : CameraRescaler) : Prop :=
  s.stopped = true ∨ s.thread = some .exited

namespace LoopStep

theorem sound (h : LoopStep s t) (hs : s.Sound) : t.Sound := by
  obtain ⟨phase, hphase, hne⟩ := h.inside
  obtain ⟨next, hnext, hne'⟩ := h.stays
  refine ⟨?_, fun heq => ?_, fun habort _ => ?_, fun hstop => ?_⟩
  · rw [h.running]
    exact ⟨fun _ => ⟨next, hnext, hne'⟩, fun _ => hs.running.mpr ⟨phase, hphase, hne⟩⟩
  · exact absurd (Option.some.inj (hnext.symm.trans heq)) hne'
  · rw [h.joining]
    exact hs.aborted (h.abort.symm.trans habort) (by simp [hphase])
  · have hnone := hs.stopped (h.stopped.symm.trans hstop)
    rw [hnone] at hphase
    cases hphase

theorem conserved (h : LoopStep s t) (hc : s.Conserved) : t.Conserved := by
  intro b
  have hb := hc b
  have hframes := h.frames b
  simp only [held, List.count_append, h.received, h.arriving] at hb ⊢
  omega

/-- While the thread is in its loop nothing is over. -/
theorem not_gone (h : LoopStep s t) (hs : s.Sound) : ¬ t.Gone := by
  obtain ⟨phase, hphase, hne⟩ := h.stays
  rintro (hstop | hexited)
  · have hnone := (h.sound hs).stopped hstop
    rw [hnone] at hphase
    cases hphase
  · exact hne (Option.some.inj (hphase.symm.trans hexited))

end LoopStep

/-- `Run` makes a thread only where none is. -/
theorem run_cases (hs : s.Sound) (hjoining : s.joining = false) :
    (s.running = true ∧ s.run = s) ∨
      (s.thread = none ∧ s.run = { s with abort := false, running := true, thread := some .top }) := by
  cases hrunning : s.running with
  | true => exact .inl ⟨rfl, by simp [run, hrunning]⟩
  | false =>
    refine .inr ⟨?_, by simp [run, hrunning]⟩
    cases hthread : s.thread with
    | none => rfl
    | some phase =>
      by_cases hexited : phase = .exited
      · have htrue := hs.exited (hexited ▸ hthread)
        simp [hjoining] at htrue
      · have htrue := hs.running.mpr ⟨phase, hthread, hexited⟩
        simp [hrunning] at htrue

theorem sound_step (hs : s.Sound) (h : s.step a = some t) : t.Sound := by
  cases step_effect h with
  | inLoop hloop => exact hloop.sound hs
  | startFlag => exact ⟨hs.running, hs.exited, hs.aborted, nofun⟩
  | startRun hjoining =>
    obtain ⟨-, heq⟩ | ⟨-, heq⟩ := run_cases hs hjoining
    · rw [heq]
      exact ⟨hs.running, hs.exited, hs.aborted, nofun⟩
    · rw [heq]
      exact ⟨⟨fun _ => ⟨_, rfl, nofun⟩, fun _ => rfl⟩, nofun, nofun, nofun⟩
  | stopFlag => exact ⟨hs.running, hs.exited, hs.aborted, hs.stopped⟩
  | noThread hthread => exact ⟨hs.running, hs.exited, hs.aborted, fun _ => hthread⟩
  | requestExit hthread => exact ⟨hs.running, fun _ => rfl, fun _ _ => rfl, hs.stopped⟩
  | leave hthread habort =>
    have hjoining := hs.aborted habort (by simp [hthread])
    refine ⟨⟨nofun, ?_⟩, fun _ => hjoining, fun _ _ => hjoining, fun hstop => ?_⟩
    · rintro ⟨phase, hphase, hne⟩
      exact absurd (Option.some.inj hphase).symm hne
    · have hnone := hs.stopped hstop
      rw [hthread] at hnone
      cases hnone
  | stopReturn hthread =>
    refine ⟨⟨fun hrunning => ?_, nofun⟩, nofun, fun _ hne => absurd rfl hne, fun _ => rfl⟩
    obtain ⟨phase, hphase, hne⟩ := hs.running.mp hrunning
    exact absurd (Option.some.inj (hphase.symm.trans hthread)) hne
  | refuse | arrive | addBuf | bufferReturned => exact ⟨hs.running, hs.exited, hs.aborted, hs.stopped⟩

theorem conserved_step (hs : s.Sound) (hc : s.Conserved) (h : s.step a = some t) : t.Conserved := by
  cases step_effect h with
  | inLoop hloop => exact hloop.conserved hc
  | startFlag | stopFlag | noThread | requestExit | bufferReturned => exact hc
  | startRun hjoining =>
    obtain ⟨-, heq⟩ | ⟨hthread, heq⟩ := run_cases hs hjoining
    · rw [heq]
      exact hc
    · rw [heq]
      intro b
      have hb := hc b
      simp only [held, hand, hthread, ThreadLoop.inHand] at hb ⊢
      exact hb
  | leave hthread | stopReturn hthread =>
    intro b
    have hb := hc b
    simp only [held, hand, hthread, ThreadLoop.inHand] at hb ⊢
    exact hb
  | refuse | arrive =>
    intro c
    have hb := hc c
    simp only [held, hand, List.count_append] at hb ⊢
    omega
  | @addBuf b hb =>
    intro c
    have hb' := hc c
    have herase := (List.perm_cons_erase hb).count_eq c
    simp only [held, hand, List.count_append, List.count_cons, List.count_nil] at hb' herase ⊢
    omega

def EmptyHanded (s : CameraRescaler) : Prop :=
  s.Gone → s.held = []

/-- No frame is left behind by the step: the thread leaves its loop, and a `Stop` that finds no thread
returns, only when no frame waits for the thread, and after that a frame comes in only with `is_stop_`
set. -/
def LeavesNone (s : CameraRescaler) : Action → Prop
  | .checkAbort => s.abort = true → s.arriving = [] ∧ s.bufsList = []
  | .stopRequestExit => s.thread = none → s.arriving = [] ∧ s.bufsList = []
  | .onFrameAvailable _ => s.Gone → s.isStop = true
  | _ => True

instance : Decidable s.Gone :=
  inferInstanceAs (Decidable (_ ∨ _))

instance : Decidable (s.LeavesNone a) := by
  cases a <;> unfold LeavesNone <;> infer_instance

theorem held_eq_nil (hhand : s.hand = []) : s.held = [] ↔ s.arriving = [] ∧ s.bufsList = [] := by
  simp [held, hhand]

theorem emptyHanded_step (hs : s.Sound) (he : s.EmptyHanded) (h : s.step a = some t) :
    t.EmptyHanded ↔ s.LeavesNone a := by
  cases step_effect h with
  | inLoop hloop ha =>
    refine iff_of_true (fun hgone => absurd hgone (hloop.not_gone hs)) ?_
    cases a with
    | checkAbort =>
      intro habort
      simp [Action.inLoop, habort] at ha
    | look | signalled | timedOut | getOutput ans | draw mapped consumers => trivial
    | startFlag | startRun | stopFlag | stopRequestExit | stopReturn | onFrameAvailable b | addBuf b
      | notifyBufferReturned handle => cases ha
  | startFlag =>
    refine iff_of_true (fun hgone => he (.inr ?_)) trivial
    exact hgone.resolve_left nofun
  | startRun hjoining =>
    refine iff_of_true (fun hgone => ?_) trivial
    have hexited := hgone.resolve_left nofun
    obtain ⟨-, heq⟩ | ⟨-, heq⟩ := run_cases hs hjoining
    · rw [heq] at hexited ⊢
      exact he (.inr hexited)
    · rw [heq] at hexited
      cases hexited
  | stopFlag | bufferReturned => exact iff_of_true he trivial
  | noThread hthread =>
    have hhand : hand { s with stopping := s.stopping - 1, mappedBuffs := [], stopped := true } = [] := by
      simp [hand, hthread]
    constructor
    · intro hempty _
      exact (held_eq_nil hhand).mp (hempty (.inl rfl))
    · intro hleaves _
      exact (held_eq_nil hhand).mpr (hleaves hthread)
  | requestExit hthread hjoining => exact iff_of_true he fun hnone => absurd hnone hthread
  | leave hthread habort =>
    have hhand : hand { s with thread := some .exited, running := false } = [] := rfl
    constructor
    · intro hempty _
      exact (held_eq_nil hhand).mp (hempty (.inr rfl))
    · intro hleaves _
      exact (held_eq_nil hhand).mpr (hleaves habort)
  | stopReturn hthread =>
    refine iff_of_true (fun _ => ?_) trivial
    have hhand : s.hand = [] := by simp [hand, hthread, ThreadLoop.inHand]
    exact (held_eq_nil rfl).mpr ((held_eq_nil hhand).mp (he (.inr hthread)))
  | refuse hstop => exact iff_of_true he fun _ => hstop
  | @arrive b hstop =>
    constructor
    · intro hempty hgone
      have hheld := hempty hgone
      simp [held] at hheld
    · intro hleaves hgone
      have htrue := hleaves hgone
      simp [hstop] at htrue
  | @addBuf b hb =>
    refine iff_of_true (fun hgone => ?_) trivial
    have hheld : s.held = [] := he hgone
    simp only [held, List.append_eq_nil_iff] at hheld
    simp [hheld.1.1] at hb

/-- Once the thread has left its loop with a frame behind, the `Stop` that waits for it returns with it
still there. -/
theorem exited_step (hs : s.Sound) (hexited : s.thread = some .exited) (hheld : s.held ≠ [])
    (h : s.step a = some t) :
    t.held ≠ [] ∧ (t.thread = some .exited ∨ t.stopped = true) := by
  cases step_effect h with
  | inLoop hloop =>
    obtain ⟨phase, hphase, hne⟩ := hloop.inside
    exact absurd (Option.some.inj (hphase.symm.trans hexited)) hne
  | startFlag | stopFlag | bufferReturned | refuse => exact ⟨hheld, .inl hexited⟩
  | startRun hjoining =>
    have htrue := hs.exited hexited
    simp [hjoining] at htrue
  | noThread hthread =>
    rw [hthread] at hexited
    cases hexited
  | requestExit => exact ⟨hheld, .inl hexited⟩
  | leave hthread =>
    rw [hthread] at hexited
    cases hexited
  | stopReturn hthread =>
    refine ⟨fun hnil => hheld ?_, .inr rfl⟩
    have hhand : s.hand = [] := by simp [hand, hthread, ThreadLoop.inHand]
    have hhand' : hand { s with
        thread := none, joining := false, mappedBuffs := [], stopped := true } = [] := rfl
    exact (held_eq_nil hhand).mpr ((held_eq_nil hhand').mp hnil)
  | arrive =>
    refine ⟨?_, .inl hexited⟩
    simp [held]
  | addBuf =>
    refine ⟨?_, .inl hexited⟩
    simp [held]

theorem sound_run (hs : s.Sound) (h : LTS.run step s as = some t) : t.Sound :=
  LTS.inv_of_mTr (L := LTS.ofStep step) (fun _ _ _ hstep hs => sound_step hs hstep)
    (LTS.mTr_ofStep_iff.mpr h) hs

theorem conserved_run (hs : s.Sound) (hc : s.Conserved) (h : LTS.run step s as = some t) :
    t.Conserved := by
  have hinv : (LTS.ofStep step).TrInv fun s => s.Sound ∧ s.Conserved :=
    fun _ _ _ hstep hi => ⟨sound_step hi.1 hstep, conserved_step hi.1 hi.2 hstep⟩
  exact (LTS.inv_of_mTr hinv (LTS.mTr_ofStep_iff.mpr h) ⟨hs, hc⟩).2

/-- In a run to its end, that `Stop` is among the states. -/
theorem exited_run (hs : s.Sound) (hexited : s.thread = some .exited) (hheld : s.held ≠ [])
    (h : LTS.run step s as = some t) (hend : t.thread ≠ some .exited) :
    ∃ bs cs u, as = bs ++ cs ∧ LTS.run step s bs = some u ∧ u.stopped = true ∧ u.held ≠ [] := by
  induction as generalizing s with
  | nil =>
    obtain rfl := Option.some.inj h
    exact absurd hexited hend
  | cons a as ih =>
    obtain ⟨v, hv, hrest⟩ := Option.bind_eq_some_iff.mp h
    obtain ⟨hheld', hexited' | hstopped⟩ := exited_step hs hexited hheld hv
    · obtain ⟨bs, cs, u, heq, hrun, hu⟩ := ih (sound_step hs hv) hexited' hheld' hrest
      exact ⟨a :: bs, cs, u, by rw [heq]; rfl, by simp [LTS.run, hv, hrun], hu⟩
    · exact ⟨[a], as, v, rfl, by simp [LTS.run, hv], hstopped, hheld'⟩

/-- A frame left behind when the thread left its loop is found when the `Stop` has returned. -/
theorem emptyHanded_iff (hs : s.Sound) (h : LTS.run step s as = some t)
    (hend : t.thread ≠ some .exited)
    (hstopped : ∀ bs cs u, as = bs ++ cs → LTS.run step s bs = some u → u.stopped = true → u.held = []) :
    ∀ bs cs u, as = bs ++ cs → LTS.run step s bs = some u → u.EmptyHanded := by
  intro bs cs u heq hu hgone
  by_contra hheld
  obtain hstop | hexited := hgone
  · exact hheld (hstopped bs cs u heq hu hstop)
  · rw [heq, LTS.run_append, hu] at h
    obtain ⟨ds, es, v, rfl, hv, hstop, hne⟩ := exited_run (sound_run hs hu) hexited hheld h hend
    refine hne (hstopped (bs ++ ds) es v (by rw [heq, List.append_assoc]) ?_ hstop)
    rw [LTS.run_append, hu]
    exact hv

/-- In each state of the run every frame was returned once or is held, and none is held after `Stop`. -/
def ReturnsAll (pool : RescalerMemPool) (as : List Action) : Prop :=
  ∀ bs cs u, as = bs ++ cs → LTS.run step { pool } bs = some u →
    u.Conserved ∧ (u.stopped = true → u.held = [])

/-- A run returns every frame if no step leaves one behind, and, where each `Stop` whose thread has left
its loop has returned, only then. -/
theorem returnsAll_iff (pool : RescalerMemPool) (as : List Action) (t : CameraRescaler)
    (h : LTS.run step { pool } as = some t) :
    (LTS.Meets step LeavesNone { pool } as → ReturnsAll pool as) ∧
      (t.thread ≠ some .exited → ReturnsAll pool as → LTS.Meets step LeavesNone { pool } as) := by
  have hempty : (∀ bs cs u, as = bs ++ cs → LTS.run step { pool } bs = some u →
      u.Sound ∧ u.EmptyHanded) ↔ LTS.Meets step LeavesNone { pool } as := by
    refine LTS.forall_prefix_iff_meets (P := fun s => s.Sound ∧ s.EmptyHanded) ?_
      ⟨sound_init, fun _ => rfl⟩ h
    intro s a u hs hstep
    exact (and_iff_right (sound_step hs.1 hstep)).trans (emptyHanded_step hs.1 hs.2 hstep)
  constructor
  · intro hmeets bs cs u heq hu
    have hu' := hempty.mpr hmeets bs cs u heq hu
    exact ⟨conserved_run sound_init conserved_init hu, fun hstop => hu'.2 (.inl hstop)⟩
  · intro hend hreturns
    refine hempty.mp fun bs cs u heq hu => ⟨sound_run sound_init hu, ?_⟩
    exact emptyHanded_iff sound_init h hend (fun bs cs u heq hu => (hreturns bs cs u heq hu).2) bs cs u
      heq hu

section Runs

def startedRun : List Action := [.startFlag, .startRun, .onFrameAvailable { handle := 1, fd := 3 },
  .addBuf { handle := 1, fd := 3 }]

/-- The thread finds no output buffer, and the frame goes back before `Stop` is called. -/
theorem returnsAll_drawn : ReturnsAll { allocSlots := false } (startedRun ++ [.checkAbort, .look,
    .getOutput ⟨none, false, 0, 0⟩, .draw true 1, .stopFlag, .stopRequestExit, .checkAbort,
    .stopReturn]) :=
  (returnsAll_iff _ _ _ rfl).1 (by decide)

/-- `Stop` before the thread has looked at its list: the frame stays there. -/
theorem stop_leaves_queued : ¬ ReturnsAll {} (startedRun ++ [.stopFlag, .stopRequestExit, .checkAbort,
    .stopReturn]) := by
  intro h
  have hheld := (h _ [] _ (List.append_nil _).symm rfl).2 rfl
  cases hheld

end Runs

end CameraRescaler

end QmmfSdk.Pipeline
