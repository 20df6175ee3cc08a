import QmmfSdk.Streams.ImageCapture
import QmmfSdk.Streams.PortUpdates
import QmmfSdk.Streams.SnapshotRuns

/-! What each call of an image configuration asks of the state and of the device, and the state that it
leaves: a call succeeds exactly when the assertions on its way hold. -/
namespace QmmfSdk.Streams

open Library
open Recorder (Status Abort SnapshotMode BufferFormat)
open SnapshotContext (getSnapshotStreamParams)

namespace CameraContext

variable {ctx : CameraContext} {flushed : Bool} {P : Status × CameraContext → Prop}

/-- What `PauseActiveStreams` asserts. -/
def Pausable (ctx : CameraContext) (flushed : Bool) : Prop :=
  ctx.Quiet ∨ flushed = true ∧ ctx.AllStarted ctx.activePorts.keys ∧ ctx.stoppedStreamIds.isEmpty

def paused (ctx : CameraContext) : CameraContext := if ctx.Quiet then ctx else ctx.interrupted

theorem succeeds_pauseActiveStreams : Succeeds (ctx.pauseActiveStreams flushed) P ↔
    ctx.Pausable flushed ∧ P (.noError, ctx.paused) := by
  by_cases hquiet : ctx.Quiet
  · have hpausable : ctx.Pausable flushed := .inl hquiet
    rw [pauseActiveStreams_of_quiet hquiet, succeeds_ok, paused, if_pos hquiet]
    exact (and_iff_right hpausable).symm
  · have hactive : ¬ (ctx.streamingRequestId < 0 ∧ ctx.captureRequestId < 0) :=
      fun h => hquiet (.inl h)
    have hunpaused : ctx.portPaused = false := by
      by_contra h
      exact hquiet (.inr (Bool.eq_true_of_not_eq_false h))
    have hloop := foldlM_pauseNext { ctx with lastFrameNumber := noInFlightRepeatingFrames }
      ctx.activePorts.keys nodup_keys
    rw [pauseActiveStreams, if_neg hactive, if_neg (by simp [hunpaused]), succeeds_check,
      succeeds_bind, paused, if_neg hquiet, Pausable, or_iff_right hquiet, and_assoc, and_assoc]
    refine and_congr (by simp) ?_
    by_cases hall : ctx.AllStarted ctx.activePorts.keys
    · rw [hloop.1 hall, succeeds_ok, succeeds_bind, moveToStopped_pausePorts, and_iff_right hall]
      split
      next hempty => simp [hempty, pure, Except.pure]
      next hempty => simp [hempty]
    · rw [hloop.2 hall]
      simp [hall]

theorem quiet_paused (ctx : CameraContext) : ctx.paused.Quiet := by
  unfold paused
  split
  next hquiet => exact hquiet
  next => exact .inr rfl

theorem books_paused (ctx : CameraContext) : ctx.paused.books = ctx.books := by
  unfold paused
  split
  · rfl
  · exact books_interrupted

/-- The buffers of a queue are given back: only the books of removed streams change. -/
theorem returnStreamBuffer_eq (ctx : CameraContext) (streamId frameNumber : Int) : ∃ removed map,
    ctx.returnStreamBuffer streamId frameNumber =
      { ctx with removedStreamIds := removed, lastFrameNumberMap := map } := by
  unfold returnStreamBuffer
  split
  · dsimp only
    split
    · exact ⟨_, _, rfl⟩
    · exact ⟨ctx.removedStreamIds, _, rfl⟩
  · exact ⟨ctx.removedStreamIds, ctx.lastFrameNumberMap, rfl⟩

/-- Ports that start again are the ports that they were. -/
theorem books_resumeActiveStreams {ctx' : CameraContext} {st : Status} {sub : UInt32 → Submitted}
    {flush : UInt32 → Bool} (h : ctx.resumeActiveStreams false sub flush = .ok (st, ctx')) :
    ctx'.books = ctx.books := by
  have hnext : ∀ (u : CameraContext) (id : UInt32) (v : CameraContext),
      u.resumeNext false sub flush id = .ok v → v.books = u.books := by
    intro u id v hv
    rw [resumeNext_eq_startStream] at hv
    cases hstart : u.startStream id (sub id) (flush id) with
    | error e => simp [hstart, Except.map] at hv
    | ok r =>
      rw [hstart] at hv
      obtain rfl := Except.ok.inj hv
      exact books_startStream hstart
  unfold resumeActiveStreams at h
  split at h
  · obtain ⟨-, rfl⟩ := Prod.mk.inj (Except.ok.inj h)
    rfl
  · obtain ⟨u, hu, h⟩ := bind_eq_ok_iff.mp h
    obtain ⟨-, rfl⟩ := Prod.mk.inj (Except.ok.inj h)
    have hloop : u.books = ctx.books := foldlM_inv (I := fun v => v.books = ctx.books) rfl
      (fun v id w _ hv hw => (hnext v id w hw).trans hv) hu
    exact hloop

end CameraContext

namespace ImageCapture.Context

variable {c : Context} {d : Answers} {P : Context → Prop} {R : Status × Context → Prop}
  {p : CameraStreamParameters} {cache configured created returned cancelled : Bool} {streamId : Int}

theorem streams_flushed : ∃ removed map, c.flushed.streams =
    { c.streams with removedStreamIds := removed, lastFrameNumberMap := map } := by
  have hfold : ∀ (buffers : List StreamBuffer) (ctx : CameraContext), ∃ removed map,
      buffers.foldl
        (fun ctx b => ctx.returnStreamBuffer b.streamId (Int.ofNat b.frameNumber.toNat)) ctx =
        { ctx with removedStreamIds := removed, lastFrameNumberMap := map } := by
    intro buffers
    induction buffers with
    | nil => exact fun ctx => ⟨ctx.removedStreamIds, ctx.lastFrameNumberMap, rfl⟩
    | cons b buffers ih =>
      intro ctx
      obtain ⟨removed, map, hb⟩ :=
        ctx.returnStreamBuffer_eq b.streamId (Int.ofNat b.frameNumber.toNat)
      obtain ⟨removed', map', hrest⟩ := ih
        { ctx with removedStreamIds := removed, lastFrameNumberMap := map }
      rw [List.foldl_cons, hb, hrest]
      exact ⟨removed', map', rfl⟩
  exact hfold _ c.streams

def paused (c : Context) : Context := c.withStreams c.streams.paused

theorem succeeds_pauseActiveStreams {flushed : Bool} :
    Succeeds (c.pauseActiveStreams flushed) P ↔ c.streams.Pausable flushed ∧ P c.paused := by
  rw [pauseActiveStreams, succeeds_bind, CameraContext.succeeds_pauseActiveStreams, succeeds_ok]
  rfl

/-- The device takes the buffers of the ZSL queue, if there are any. -/
def CanFlush (c : Context) (returned : Bool) : Prop :=
  ∀ e ∈ c.zslPort.zslQueue, e.matched → returned = true

theorem succeeds_pauseAndFlushZSLQueue :
    Succeeds (c.pauseAndFlushZSLQueue returned) P ↔ c.CanFlush returned ∧ P c.flushed := by
  have hempty : c.zslPort.toZslPort.pauseAndFlushZSLQueue.2.isEmpty ↔
      ∀ e ∈ c.zslPort.zslQueue, ¬ e.matched := by
    simp [ZslPort.pauseAndFlushZSLQueue]
  rw [pauseAndFlushZSLQueue, succeeds_check, succeeds_ok, CanFlush]
  refine and_congr_left fun _ => ?_
  rw [hempty]
  cases returned with
  | false => simp
  | true => simp

def quieted (c : Context) : Context := if c.zslMode ∧ c.isRunning then c.flushed else c

theorem succeeds_quietZsl : Succeeds (c.quietZsl returned) P ↔
    (c.zslMode ∧ c.isRunning → c.CanFlush returned) ∧ P c.quieted := by
  unfold quietZsl quieted
  split
  next hrunning => rw [succeeds_pauseAndFlushZSLQueue, forall_prop_of_true hrunning]
  next hquiet => rw [succeeds_ok, forall_prop_of_false hquiet, true_and]

/-- What `CreateDeviceStream` asserts. -/
def CanCreateStream (c : Context) (cache configured returned : Bool) : Prop :=
  (c.zslMode ∧ c.isRunning → c.CanFlush returned) ∧
    (c.streams.streamingRequestId < 0 → cache = true ∨ configured = true)

theorem streamingRequestId_quieted :
    c.quieted.streams.streamingRequestId = c.streams.streamingRequestId := by
  unfold quieted
  split
  · obtain ⟨removed, map, h⟩ := c.streams_flushed
    rw [h]
  · rfl

theorem succeeds_createDeviceStream {P : Option Int × Context → Prop} :
    Succeeds (c.createDeviceStream cache configured created returned) P ↔
      c.CanCreateStream cache configured returned ∧
        P (if created then (some c.quieted.streams.nextStreamId, c.quieted.newStream cache)
          else (none, c.quieted)) := by
  rw [createDeviceStream, succeeds_bind, succeeds_quietZsl, succeeds_check, CanCreateStream,
    and_assoc, streamingRequestId_quieted]
  refine and_congr_right fun _ => and_congr ?_ ?_
  · cases cache with
    | true => simp
    | false => cases configured <;> simp
  · split
    · rw [succeeds_ok]
    · rw [succeeds_ok]

/-- The context with one more stream for snapshots. -/
def withSnapshotStream (c : Context) (p : CameraStreamParameters) (cache : Bool) : Context :=
  (c.quieted.newStream cache).recordSnapshotStream p c.quieted.streams.nextStreamId

theorem succeeds_addSnapshotStream : Succeeds (c.addSnapshotStream p cache created d) R ↔
    c.CanCreateStream cache d.snapshot.configured d.returned ∧
      R (if created then (.noError, c.withSnapshotStream p cache) else (.badValue, c.quieted)) := by
  rw [addSnapshotStream, succeeds_bind, succeeds_createDeviceStream]
  refine and_congr_right fun _ => ?_
  cases created with
  | true => exact succeeds_ok
  | false => exact succeeds_ok

def requestCancelled (c : Context) : Context :=
  c.withStreams { c.streams with
    streamingRequestId := -1
    captureRequestId := -1
    lastFrameNumber := noInFlightRepeatingFrames }

/-- What `DeleteDeviceStream` asserts; with a ZSL queue that runs the request is cancelled for it. -/
def CanDelete (d : Answers) (c : Context) : Prop :=
  d.snapshot.deleted = true ∧ (c.zslMode → d.reconfigured = true ∧ (c.interrupts →
    c.CanFlush d.returned ∧ d.cancelled = true ∧ c.streams.streamingActiveRequests ≠ [] ∧
      0 ≤ d.resubmitted))

def streamDeleted (d : Answers) (c : Context) (streamId : Int) : Context :=
  if c.zslMode then
    if c.interrupts then
      let c := (c.flushed.requestCancelled.forgetStream streamId).resumeZSL
      c.withStreams { c.streams with streamingRequestId := d.resubmitted }
    else (c.forgetStream streamId).resumeZSL
  else c.forgetStream streamId

theorem succeeds_cancelRequest (h : 0 ≤ c.streams.streamingRequestId) :
    Succeeds (c.cancelRequest cancelled) P ↔ cancelled = true ∧ P c.requestCancelled := by
  have hactive : ¬ (c.streams.streamingRequestId < 0 ∧ c.streams.captureRequestId < 0) := by omega
  rw [cancelRequest, succeeds_bind, CameraContext.cancelRequest, if_neg hactive]
  cases cancelled with
  | true => simp [requestCancelled]
  | false => simp

theorem succeeds_resubmit {requestId : Int} : Succeeds (c.resubmit requestId) P ↔
    (c.streams.streamingActiveRequests ≠ [] ∧ 0 ≤ requestId) ∧
      P (c.withStreams { c.streams with streamingRequestId := requestId }) := by
  rw [resubmit, succeeds_check, succeeds_ok]
  refine and_congr_left fun _ => ?_
  simp [not_or]

theorem succeeds_deleteDeviceStream :
    Succeeds (deleteDeviceStream d c streamId) P ↔ CanDelete d c ∧ P (streamDeleted d c streamId) := by
  unfold deleteDeviceStream streamDeleted CanDelete
  cases hmode : c.zslMode with
  | false => simp [succeeds_check]
  | true =>
    cases hinterrupts : c.interrupts with
    | false => simp [succeeds_check, and_comm, and_assoc]
    | true =>
      have hstreaming : 0 ≤ c.flushed.streams.streamingRequestId := by
        obtain ⟨removed, map, h⟩ := c.streams_flushed
        rw [h]
        exact of_decide_eq_true (Bool.and_eq_true_iff.mp hinterrupts).1
      have hrequests : ((c.flushed.requestCancelled.forgetStream
          streamId).resumeZSL).streams.streamingActiveRequests = c.streams.streamingActiveRequests := by
        obtain ⟨removed, map, h⟩ := c.streams_flushed
        change c.flushed.streams.streamingActiveRequests = _
        rw [h]
      rw [if_neg (by simp), if_pos rfl, succeeds_bind, succeeds_pauseAndFlushZSLQueue, succeeds_bind,
        succeeds_cancelRequest hstreaming, succeeds_check, succeeds_resubmit, hrequests, if_pos rfl,
        if_pos rfl]
      simp only [forall_true_left, not_or, Bool.not_eq_true, Bool.not_eq_false]
      tauto

/-- The deletions of the snapshot streams, one after the other. -/
def CanDeleteAll (d : Answers) (c : Context) : Prop :=
  ∀ i < c.snapshot.streamIds.length,
    CanDelete d ((c.snapshot.streamIds.take i).foldl (streamDeleted d) c)

def snapshotDeleted (d : Answers) (c : Context) : Context :=
  (c.snapshot.streamIds.foldl (streamDeleted d) c).forgetSnapshot

theorem succeeds_deleteSnapshotStream : Succeeds (c.deleteSnapshotStream d) P ↔
    CanDeleteAll d c ∧ P (snapshotDeleted d c) := by
  rw [deleteSnapshotStream, succeeds_bind]
  simp only [succeeds_ok]
  exact succeeds_foldlM (f := deleteDeviceStream d) (g := streamDeleted d)
    (C := fun c _ => CanDelete d c) fun c streamId R => succeeds_deleteDeviceStream

/-- The context before the new main stream of a snapshot is made. -/
def cleared (d : Answers) (c : Context) : Context :=
  if c.snapshot.streamIds = [] then c.paused else snapshotDeleted d c.paused

/-- What `CreateSnapshotStream` asserts before it makes the new main stream. -/
def CanClear (d : Answers) (c : Context) : Prop :=
  c.streams.Pausable d.snapshot.flushed ∧
    (c.snapshot.streamIds.length = 1 → CanDeleteAll d c.paused)

theorem succeeds_replaceSnapshotStream : Succeeds (c.replaceSnapshotStream p cache d) R ↔
    CanClear d c ∧ if 1 < c.snapshot.streamIds.length then R (.badValue, c.paused)
      else Succeeds ((cleared d c).addSnapshotStream p cache d.snapshot.created d) R := by
  have hids : c.paused.snapshot.streamIds = c.snapshot.streamIds := rfl
  rw [replaceSnapshotStream, succeeds_bind, succeeds_pauseActiveStreams, CanClear, and_assoc, hids]
  refine and_congr_right fun _ => ?_
  cases h : c.snapshot.streamIds with
  | nil => simp [cleared, h]
  | cons streamId rest =>
    cases rest with
    | nil => simp [cleared, h, succeeds_bind, succeeds_deleteSnapshotStream]
    | cons streamId' rest => simp

/-- The main stream of a snapshot can be made, where it has to be. -/
def CanCreateMain (d : Answers) (c : Context) (p : CameraStreamParameters) (cache : Bool) : Prop :=
  c.snapshot.isStreamParamsChanged p → CanClear d c ∧ c.snapshot.streamIds.length ≤ 1 ∧
    (cleared d c).CanCreateStream cache d.snapshot.configured d.returned ∧ d.snapshot.created = true

def mainCreated (d : Answers) (c : Context) (p : CameraStreamParameters) (cache : Bool) : Context :=
  if c.snapshot.isStreamParamsChanged p then (cleared d c).withSnapshotStream p cache else c

theorem succeeds_mainSnapshotStream : Succeeds (c.mainSnapshotStream p cache d) (fun r =>
    r.1 = .noError ∧ P r.2) ↔ CanCreateMain d c p cache ∧ P (mainCreated d c p cache) := by
  unfold mainSnapshotStream CanCreateMain mainCreated
  split
  next hchanged =>
    rw [succeeds_replaceSnapshotStream, forall_prop_of_true hchanged, and_assoc]
    refine and_congr_right fun _ => ?_
    split
    next hseveral => simp [hseveral]
    next hone =>
      rw [succeeds_addSnapshotStream, and_assoc, and_assoc, and_iff_right (Nat.not_lt.mp hone)]
      refine and_congr_right fun _ => ?_
      cases d.snapshot.created <;> simp
  next hsame => simp [hsame]

/-- All streams of a snapshot can be made: with raw images there is one beside the main one. -/
def CanCreate (d : Answers) (c : Context) (p : CameraStreamParameters) (cache : Bool) : Prop :=
  CanCreateMain d c p cache ∧ (plusRaw (mainCreated d c p cache).snapshot.snapshotType →
    (mainCreated d c p cache).CanCreateStream cache d.snapshot.configured d.returned ∧
      d.snapshot.rawCreated = true)

def snapshotCreated (d : Answers) (c : Context) (p : CameraStreamParameters) (cache : Bool) :
    Context :=
  let c := mainCreated d c p cache
  if plusRaw c.snapshot.snapshotType then c.withSnapshotStream (c.snapshot.rawStreamParam p) cache
  else c

theorem succeeds_createSnapshotStream : Succeeds (c.createSnapshotStream p cache d) (fun r =>
    r.1 = .noError ∧ P r.2) ↔ CanCreate d c p cache ∧ P (snapshotCreated d c p cache) := by
  have hmain : ∀ r : Status × Context,
      Succeeds (if r.1 ≠ .noError then .ok r
        else if plusRaw r.2.snapshot.snapshotType then
          r.2.addSnapshotStream (r.2.snapshot.rawStreamParam p) cache d.snapshot.rawCreated d
        else .ok (.noError, r.2)) (fun r => r.1 = .noError ∧ P r.2) ↔
      r.1 = .noError ∧ (plusRaw r.2.snapshot.snapshotType →
        r.2.CanCreateStream cache d.snapshot.configured d.returned ∧ d.snapshot.rawCreated = true) ∧
        P (if plusRaw r.2.snapshot.snapshotType then
          r.2.withSnapshotStream (r.2.snapshot.rawStreamParam p) cache else r.2) := by
    rintro ⟨ret, u⟩
    dsimp only
    split
    next herror => simp [herror]
    next hnone =>
      rw [and_iff_right (not_not.mp hnone)]
      split
      next hraw =>
        rw [succeeds_addSnapshotStream, forall_prop_of_true hraw, and_assoc]
        refine and_congr_right fun _ => ?_
        cases d.snapshot.rawCreated <;> simp
      next hraw => simp [hraw]
  rw [createSnapshotStream, succeeds_bind, succeeds_congr hmain,
    succeeds_mainSnapshotStream (P := fun u => (plusRaw u.snapshot.snapshotType →
      u.CanCreateStream cache d.snapshot.configured d.returned ∧ d.snapshot.rawCreated = true) ∧
      P (if plusRaw u.snapshot.snapshotType then
        u.withSnapshotStream (u.snapshot.rawStreamParam p) cache else u)), CanCreate, and_assoc]
  rfl

theorem succeeds_createZslRequest {request : Option RequestMetadata} :
    Succeeds (c.createZslRequest request) P ↔
      ∃ metadata, request = some metadata ∧ P (c.withZslRequest metadata) := by
  unfold createZslRequest
  cases request with
  | none => simp
  | some metadata => simp

/-- The ZSL port as `SetUpZSL` makes it. -/
def zslSource (c : Context) (p : CameraStreamParameters) (queueDepth : UInt32) : ZslSource where
  cameraStreamId := c.quieted.streams.nextStreamId
  zslQueueDepth := queueDepth
  width := p.width
  height := p.height
  inputStreamId := (c.quieted.newStream false).streams.nextStreamId

/-- The device has the streams of the port. -/
def zslStreamsMade (c : Context) : Context :=
  let c := c.quieted.newStream false
  c.withStreams { c.streams with nextStreamId := c.streams.nextStreamId + 1 }

theorem succeeds_initZslPort {queueDepth : UInt32} {Q : ZslSource → Context → Prop} :
    Succeeds (c.initZslPort p queueDepth d) (fun r => ∃ zsl, r.1 = some zsl ∧ Q zsl r.2) ↔
      (c.zslAccepted p queueDepth ∧ c.CanCreateStream false d.zslConfigured d.returned ∧
        d.zslCreated = true ∧ d.inputCreated = true) ∧
      Q (c.zslSource p queueDepth) c.zslStreamsMade := by
  unfold initZslPort
  by_cases haccepted : c.zslAccepted p queueDepth
  · rw [if_neg (not_not.mpr haccepted), succeeds_bind, succeeds_createDeviceStream,
      and_iff_right haccepted, and_assoc]
    refine and_congr_right fun _ => ?_
    cases hzsl : d.zslCreated with
    | false => simp
    | true =>
      cases hinput : d.inputCreated with
      | false => simp [createDeviceInputStream]
      | true => simp [createDeviceInputStream, zslSource, zslStreamsMade]
  · rw [if_pos haccepted]
    simp [haccepted]

/-- The new port as it comes to the others. -/
def zslCameraPort (c : Context) (zsl : ZslSource) : CameraPort where
  cameraStreamId := zsl.cameraStreamId
  batchSize := c.streams.batchSize
  framerate := c.frameRate

/-- What the start of the new port asserts; a port that is there already stays, and only the requests
are updated. -/
def CanStartZsl (d : Answers) (c : Context) (zsl : ZslSource) : Prop :=
  if c.hasZslPort then c.streams.CanUpdate d.ports.submitted d.cancelled
  else (c.streams.setPort zslPortId (c.zslCameraPort zsl)).CanTurn .started .readyToStart true
    zslPortId (c.zslCameraPort zsl) d.ports.submitted d.cancelled

def zslStarted (d : Answers) (c : Context) (zsl : ZslSource) : Context :=
  if c.hasZslPort then c.withStreams (c.streams.updated d.ports.submitted)
  else { c with zslPort := zsl }.withStreams ((c.streams.setPort zslPortId
    (c.zslCameraPort zsl)).turned .started .readyToStart .started true zslPortId
      (c.zslCameraPort zsl) d.ports.submitted)

theorem succeeds_startZslPort {zsl : ZslSource} : Succeeds (c.startZslPort zsl d) R ↔
    CanStartZsl d c zsl ∧ R (.noError, zslStarted d c zsl) := by
  unfold startZslPort CanStartZsl zslStarted
  split
  · rw [succeeds_bind, CameraContext.succeeds_updateRequest]
    exact and_congr_right fun _ => succeeds_ok
  · rw [succeeds_bind, CameraContext.startPort]
    exact CameraContext.succeeds_turnPort.trans (and_congr_right fun _ => succeeds_ok)

/-- The context after the ports have started again. -/
def resumed (c : Context) (answers : SnapshotContext.CaptureAnswers) : Context :=
  c.withStreams (c.streams.resumed answers.resumed)

theorem succeeds_resumeActiveStreams {answers : SnapshotContext.CaptureAnswers} :
    Succeeds (c.resumeActiveStreams answers) P ↔
      c.streams.CanResume answers.resumed answers.flushed ∧ P (c.resumed answers) := by
  rw [resumeActiveStreams, succeeds_bind, CameraContext.succeeds_resumeActiveStreams]
  exact and_congr_right fun _ => succeeds_ok

/-- The new port can start, and the others again after it. -/
def CanRun (d : Answers) (c : Context) (zsl : ZslSource) : Prop :=
  CanStartZsl d c zsl ∧ (zslStarted d c zsl).streams.CanResume d.ports.resumed d.ports.flushed

def zslRunning (d : Answers) (c : Context) (zsl : ZslSource) : Context :=
  (zslStarted d c zsl).resumed d.ports

theorem succeeds_runZslPort {zsl : ZslSource} :
    Succeeds (c.runZslPort zsl d) (fun r => r.1 = .noError ∧ P r.2) ↔
      CanRun d c zsl ∧ P (zslRunning d c zsl) := by
  rw [runZslPort, succeeds_bind, succeeds_startZslPort, CanRun, and_assoc]
  refine and_congr_right fun _ => ?_
  dsimp only
  rw [if_neg (by simp), succeeds_bind, succeeds_resumeActiveStreams]
  simp [pure, Except.pure, zslRunning]

theorem succeeds_addZslPort {queueDepth : UInt32} :
    Succeeds (c.addZslPort p queueDepth d) (fun r => r.1 = .noError ∧ P r.2) ↔
      ∃ metadata, d.defaultRequest = some metadata ∧
        ((c.withZslRequest metadata).zslAccepted p queueDepth ∧
          (c.withZslRequest metadata).CanCreateStream false d.zslConfigured d.returned ∧
          d.zslCreated = true ∧ d.inputCreated = true) ∧
        CanRun d (c.withZslRequest metadata).zslStreamsMade
          ((c.withZslRequest metadata).zslSource p queueDepth) ∧
        P (zslRunning d (c.withZslRequest metadata).zslStreamsMade
          ((c.withZslRequest metadata).zslSource p queueDepth)) := by
  rw [addZslPort, succeeds_bind, succeeds_createZslRequest]
  refine exists_congr fun metadata => and_congr_right fun _ => ?_
  rw [succeeds_bind]
  refine (succeeds_congr fun r => ?_).trans (succeeds_initZslPort
    (Q := fun zsl u => CanRun d u zsl ∧ P (zslRunning d u zsl)))
  obtain ⟨_ | zsl, u⟩ := r
  · simp
  · simp [succeeds_runZslPort]

/-- The context in which the snapshot stream of a ZSL queue is made. -/
def zslPaused (c : Context) (t : SnapshotType) : Context :=
  (c.withSnapshotParam t.zslImageParam.toSnapshotParam).paused

/-- The parameters of both streams of a ZSL queue. -/
def zslStreamParam (t : SnapshotType) : CameraStreamParameters :=
  getSnapshotStreamParams t.zslImageParam.toSnapshotParam

theorem succeeds_startZSL {t : SnapshotType} : Succeeds (c.startZSL t d) (fun r =>
    r.1 = .noError ∧ P r.2) ↔ c.inputSupported ∧ c.streams.Pausable d.paused ∧
      CanCreate d (c.zslPaused t) (zslStreamParam t) true ∧
      Succeeds ((snapshotCreated d (c.zslPaused t) (zslStreamParam t) true).addZslPort
        (zslStreamParam t) t.queueDepth d) (fun r => r.1 = .noError ∧ P r.2) := by
  unfold startZSL
  by_cases hinput : c.inputSupported
  · rw [if_neg (not_not.mpr hinput), and_iff_right hinput, succeeds_bind, succeeds_pauseActiveStreams]
    refine and_congr_right fun _ => ?_
    have hend : ∀ r : Status × Context, Succeeds
        (if r.1 ≠ .noError then .ok r else r.2.addZslPort (zslStreamParam t) t.queueDepth d)
        (fun r => r.1 = .noError ∧ P r.2) ↔ r.1 = .noError ∧
          Succeeds (r.2.addZslPort (zslStreamParam t) t.queueDepth d)
            (fun r => r.1 = .noError ∧ P r.2) := by
      intro r
      split
      next herror => simp [herror]
      next hnone => rw [and_iff_right (not_not.mp hnone)]
    rw [succeeds_bind, ← succeeds_createSnapshotStream (P := fun u =>
      Succeeds (u.addZslPort (zslStreamParam t) t.queueDepth d) (fun r => r.1 = .noError ∧ P r.2))]
    exact succeeds_congr hend
  · rw [if_pos hinput]
    simp [hinput]

def zslStreamsDeleted (c : Context) (port : CameraPort) : Context :=
  (if c.zslPort.inputStreamId ≠ -1 then c.forgetStream c.zslPort.inputStreamId else c).forgetStream
    port.cameraStreamId

/-- The ZSL port and its streams are gone. -/
def zslErased (c : Context) (port : CameraPort) : Context := (c.zslStreamsDeleted port).eraseZslPort

/-- Outside of the ZSL type only the device's answer to a deletion counts. -/
theorem succeeds_deleteDeviceStream_of_ne_zsl (htype : c.snapshot.snapshotType ≠ .zsl) :
    Succeeds (deleteDeviceStream d c streamId) P ↔
      d.snapshot.deleted = true ∧ P (c.forgetStream streamId) := by
  have hmode : c.zslMode = false := by simp [zslMode, htype]
  rw [succeeds_deleteDeviceStream, CanDelete, streamDeleted, hmode]
  simp

theorem succeeds_removeZslPort (htype : c.snapshot.snapshotType ≠ .zsl) :
    Succeeds (c.removeZslPort d) P ↔ ∃ port, c.streams.activePorts[zslPortId]? = some port ∧
      (d.snapshot.deleted = true ∧ port.readyToStart = false) ∧
      (c.zslErased port).streams.CanResume d.ports.resumed d.ports.flushed ∧
      P ((c.zslErased port).resumed d.ports) := by
  unfold removeZslPort
  cases hport : c.streams.activePorts[zslPortId]? with
  | none => simp
  | some port =>
    simp only [Option.some.injEq, exists_eq_left', succeeds_bind, deInitZslPort, zslErased,
      zslStreamsDeleted, succeeds_resumeActiveStreams]
    split
    next hinput =>
      rw [succeeds_bind, succeeds_deleteDeviceStream_of_ne_zsl htype, succeeds_check,
        succeeds_deleteDeviceStream_of_ne_zsl (c := c.forgetStream _) htype]
      simp only [Bool.not_eq_true]
      tauto
    next hinput =>
      rw [succeeds_bind, succeeds_ok, succeeds_check, succeeds_deleteDeviceStream_of_ne_zsl htype]
      simp only [Bool.not_eq_true]
      tauto

/-- What the stop of the ZSL port asserts. -/
def CanStopZsl (d : Answers) (c : Context) : Prop :=
  ∃ port, c.streams.activePorts[zslPortId]? = some port ∧
    c.streams.CanTurn .created .readyToStop false zslPortId port d.ports.submitted d.cancelled

def zslStopped (d : Answers) (c : Context) : Context :=
  match c.streams.activePorts[zslPortId]? with
  | none => c
  | some port => c.withStreams
      (c.streams.turned .created .readyToStop .stopped false zslPortId port d.ports.submitted)

theorem succeeds_stopZslPort :
    Succeeds (c.stopZslPort d) R ↔ CanStopZsl d c ∧ R (.noError, zslStopped d c) := by
  unfold stopZslPort CanStopZsl zslStopped
  cases c.streams.activePorts[zslPortId]? with
  | none => simp
  | some port =>
    simp only [Option.some.injEq, exists_eq_left', succeeds_bind, CameraContext.stopPort]
    exact CameraContext.succeeds_turnPort.trans (and_congr_right fun _ => succeeds_ok)

/-- The context in which the ZSL port is stopped. -/
def zslInterrupted (c : Context) : Context := c.flushed.paused

theorem pausable_flushed {flushed : Bool} :
    c.flushed.streams.Pausable flushed ↔ c.streams.Pausable flushed := by
  obtain ⟨removed, map, h⟩ := c.streams_flushed
  rw [h]
  rfl

theorem succeeds_stopZSL : Succeeds (c.stopZSL d) (fun r => r.1 = .noError ∧ P r.2) ↔
    c.hasZslPort ∧ c.CanFlush d.returned ∧ c.streams.Pausable d.paused ∧
      CanStopZsl d c.zslInterrupted ∧ CanDeleteAll d (zslStopped d c.zslInterrupted) ∧
        Succeeds ((snapshotDeleted d (zslStopped d c.zslInterrupted)).removeZslPort d) P := by
  unfold stopZSL
  by_cases hport : c.hasZslPort
  · rw [if_neg (not_not.mpr hport), and_iff_right hport, succeeds_bind,
      succeeds_pauseAndFlushZSLQueue, succeeds_bind, succeeds_pauseActiveStreams, pausable_flushed,
      succeeds_bind]
    refine and_congr_right fun _ => and_congr_right fun _ => succeeds_stopZslPort.trans ?_
    refine and_congr_right fun _ => ?_
    dsimp only
    rw [if_neg (by simp), succeeds_bind, succeeds_deleteSnapshotStream, succeeds_bind]
    exact and_congr_right fun _ => succeeds_congr fun u => by simp [pure, Except.pure]
  · rw [if_pos hport]
    simp [hport]

theorem hasZslPort_congr {u : Context} (h : u.streams.books = c.streams.books) :
    u.hasZslPort = c.hasZslPort := by
  have hport : ((u.streams.activePorts[zslPortId]?).map CameraPort.identity).isSome =
      ((c.streams.activePorts[zslPortId]?).map CameraPort.identity).isSome :=
    congrArg Option.isSome (congrFun (congrArg Prod.fst h) zslPortId)
  rw [Option.isSome_map, Option.isSome_map] at hport
  rw [hasZslPort, hasZslPort, Std.ExtTreeMap.contains_eq_isSome_getElem?,
    Std.ExtTreeMap.contains_eq_isSome_getElem?, hport]

theorem resumeActiveStreams_ok {u : Context} {answers : SnapshotContext.CaptureAnswers}
    (h : c.resumeActiveStreams answers = .ok u) : u.hasZslPort = c.hasZslPort ∧
      u = c.withStreams u.streams := by
  obtain ⟨⟨ret, streams⟩, hu, h⟩ := bind_eq_ok_iff.mp h
  obtain rfl := Except.ok.inj h
  exact ⟨hasZslPort_congr (CameraContext.books_resumeActiveStreams hu), rfl⟩

/-- The port that is there already stays, else the new one is there. -/
theorem startZslPort_ok {zsl : ZslSource} {r : Status × Context}
    (h : c.startZslPort zsl d = .ok r) : r.2.hasZslPort ∧
      r.2.zslPort = if c.hasZslPort then c.zslPort else zsl := by
  unfold startZslPort at h
  split at h
  next hport =>
    obtain ⟨⟨ret, streams⟩, hu, h⟩ := bind_eq_ok_iff.mp h
    obtain rfl := Except.ok.inj h
    obtain ⟨-, hsame⟩ := CameraContext.updateRequest_same hu
    have hports : streams.activePorts = c.streams.activePorts := by rw [hsame]
    refine ⟨?_, (if_pos hport).symm⟩
    change streams.activePorts.contains zslPortId = true
    rw [hports]
    exact hport
  next hnew =>
    obtain ⟨⟨ret, streams⟩, hu, h⟩ := bind_eq_ok_iff.mp h
    obtain rfl := Except.ok.inj h
    refine ⟨?_, (if_neg hnew).symm⟩
    obtain ⟨-, ⟨hdone, -⟩ | ⟨-, v, hv, rfl⟩⟩ := CameraContext.turnPort_ok hu
    · simp at hdone
    · have hport : (v.setPortState zslPortId .started).activePorts[zslPortId]? = _ :=
        CameraContext.getElem?_turned (CameraContext.updateRequest_same hv).2
      rw [if_pos rfl] at hport
      change (v.setPortState zslPortId .started).activePorts.contains zslPortId = true
      rw [Std.ExtTreeMap.contains_eq_isSome_getElem?, hport]
      rfl

theorem quieted_of_ne_zsl (htype : c.snapshot.snapshotType ≠ .zsl) : c.quieted = c := by
  have hmode : c.zslMode = false := by simp [zslMode, htype]
  rw [quieted, if_neg (by simp [hmode])]

theorem newStream_of_ne_zsl {cache : Bool} (htype : c.snapshot.snapshotType ≠ .zsl) :
    c.newStream cache =
      c.withStreams { c.streams with nextStreamId := c.streams.nextStreamId + 1 } := by
  have hmode : (c.withStreams { c.streams with
      nextStreamId := c.streams.nextStreamId + 1 }).zslMode = false := by
    simp [zslMode, show (c.withStreams { c.streams with
      nextStreamId := c.streams.nextStreamId + 1 }).snapshot.snapshotType ≠ .zsl from htype]
  rw [newStream, if_neg (by simp [hmode])]

theorem canCreateStream_of_ne_zsl {cache configured returned : Bool}
    (htype : c.snapshot.snapshotType ≠ .zsl) : c.CanCreateStream cache configured returned ↔
      (c.streams.streamingRequestId < 0 → cache = true ∨ configured = true) := by
  have hmode : c.zslMode = false := by simp [zslMode, htype]
  unfold CanCreateStream
  rw [hmode]
  simp

theorem foldl_streamDeleted_of_ne_zsl (ids : List Int) (htype : c.snapshot.snapshotType ≠ .zsl) :
    ids.foldl (streamDeleted d) c = { c with snapshot := { c.snapshot with
      liveStreams := ids.foldl .erase c.snapshot.liveStreams } } := by
  induction ids generalizing c with
  | nil => rfl
  | cons id ids ih =>
    have hmode : c.zslMode = false := by simp [zslMode, htype]
    have hone : streamDeleted d c id = c.forgetStream id := by
      rw [streamDeleted, if_neg (by simp [hmode])]
    rw [List.foldl_cons, hone, ih (c := c.forgetStream id) htype]
    rfl

end ImageCapture.Context

end QmmfSdk.Streams
