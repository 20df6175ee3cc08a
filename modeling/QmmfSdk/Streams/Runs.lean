import QmmfSdk.Library.Transition
import QmmfSdk.Streams.Updates

/-! The calls that a camera context gets for its streams, one after the other; the loop of
`ResumeActiveStreams` takes a step for each port. -/
namespace QmmfSdk.Streams

open Library (OrdMap LTS bind_eq_ok_iff)
open Recorder (IdMap Status Abort)

inductive Action where
  | createStream (param : CameraContext.StreamParam) (d : CameraContext.Creation)
  | deleteStream (trackId : UInt32) (deleted : Bool)
  | setConsumers (trackId : UInt32) (consumers : Nat)
  | startStream (trackId : UInt32) (submitted : Submitted) (flushed : Bool)
  | stopStream (trackId : UInt32) (submitted : Submitted) (flushed : Bool)
  | pauseStream (trackId : UInt32)
  | resumeStream (trackId : UInt32)
  | setCameraParam (metadata : RequestMetadata) (submitted : Submitted)
  | pauseActiveStreams (flushed : Bool)
  | resumeActiveStreams
  | resumeNext (submitted : Submitted) (flushed : Bool)

/-- Not a part of `ResumeActiveStreams`. -/
def Action.isCall : Action → Bool
  | .resumeActiveStreams | .resumeNext _ _ => false
  | _ => true

/-- The ports that `ResumeActiveStreams` has still to start; a call in between is not looked at. -/
structure StreamRun where
  ctx : CameraContext
  resuming : List UInt32 := []

namespace StreamRun

/-- The end of the loop. -/
def finish (s : StreamRun) : StreamRun :=
  if s.resuming = [] then
    { s with ctx := { s.ctx with stoppedStreamIds := ∅, portPaused := false } }
  else s

/-- The calls that run to their end in one step. -/
def call (ctx : CameraContext) : Action → Except Abort (Status × CameraContext)
  | .createStream param d => ctx.createStream param d
  | .deleteStream trackId deleted => ctx.deleteStream trackId deleted
  | .setConsumers trackId consumers => .ok (.noError, ctx.setConsumers trackId consumers)
  | .startStream trackId submitted flushed => ctx.startStream trackId submitted flushed
  | .stopStream trackId submitted flushed => ctx.stopStream trackId submitted flushed
  | .pauseStream trackId => ctx.pauseStream trackId
  | .resumeStream trackId => ctx.resumeStream trackId
  | .setCameraParam metadata submitted => ctx.setCameraParam metadata submitted
  | .pauseActiveStreams flushed => ctx.pauseActiveStreams flushed
  | .resumeActiveStreams | .resumeNext _ _ => .ok (.noError, ctx)

/-- `none` is a step that is not enabled, or that fails an assertion. -/
def step (s : StreamRun) : Action → Option StreamRun
  | .resumeNext submitted flushed =>
    match s.resuming with
    | [] => none
    | trackId :: rest =>
      match s.ctx.resumeNext false (fun _ => submitted) (fun _ => flushed) trackId with
      | .ok ctx => some (finish { ctx := ctx, resuming := rest })
      | .error _ => none
  | .resumeActiveStreams =>
    if s.resuming ≠ [] then none
    else if s.ctx.stoppedStreamIds.isEmpty then some { ctx := { s.ctx with portPaused := false } }
    else some (finish { ctx := s.ctx, resuming := s.ctx.activePorts.keys })
  | a =>
    if s.resuming ≠ [] then none
    else
      match call s.ctx a with
      | .ok (_, ctx) => some { ctx := ctx }
      | .error _ => none

def lts : LTS StreamRun Action := .ofStep step

/-- An opened camera. -/
def init (config : CameraConfig) (snapshotType : Recorder.SnapshotMode) : StreamRun :=
  { ctx := { config := config, snapshotType := snapshotType } }

variable {s t : StreamRun} {a : Action} {ctx ctx' : CameraContext} {st : Status}

/-- A step is one of these: a call, the beginning of the loop, or one turn of it. -/
theorem step_cases (h : s.step a = some t) :
    (s.resuming = [] ∧ a.isCall ∧ ∃ st, call s.ctx a = .ok (st, t.ctx) ∧ t.resuming = []) ∨
    (s.resuming = [] ∧ a = .resumeActiveStreams ∧ s.ctx.stoppedStreamIds.isEmpty ∧
      t = { ctx := { s.ctx with portPaused := false } }) ∨
    (s.resuming = [] ∧ a = .resumeActiveStreams ∧
      t = finish { ctx := s.ctx, resuming := s.ctx.activePorts.keys }) ∨
    ∃ submitted flushed trackId rest ctx, a = .resumeNext submitted flushed ∧
      s.resuming = trackId :: rest ∧
      s.ctx.resumeNext false (fun _ => submitted) (fun _ => flushed) trackId = .ok ctx ∧
      t = finish { ctx := ctx, resuming := rest } := by
  cases a with
  | resumeNext submitted flushed =>
    simp only [step] at h
    split at h
    · simp at h
    next trackId rest hlist =>
      split at h
      next ctx hnext =>
        exact .inr (.inr (.inr ⟨_, _, _, _, _, rfl, hlist, hnext, (Option.some.inj h).symm⟩))
      · simp at h
  | resumeActiveStreams =>
    simp only [step] at h
    split at h
    · simp at h
    next hlist =>
      split at h
      next hempty =>
        exact .inr (.inl ⟨by simpa using hlist, rfl, hempty, (Option.some.inj h).symm⟩)
      · exact .inr (.inr (.inl ⟨by simpa using hlist, rfl, (Option.some.inj h).symm⟩))
  | _ =>
    simp only [step] at h
    split at h
    · simp at h
    next hready =>
      rw [ne_eq, not_not] at hready
      split at h
      next st ctx hcall =>
        obtain rfl := Option.some.inj h
        exact .inl ⟨hready, rfl, st, hcall, rfl⟩
      · simp at h

theorem step_of_isCall (ha : a.isCall) (h : s.step a = some t) : s.resuming = [] ∧
    ∃ st, call s.ctx a = .ok (st, t.ctx) ∧ t.resuming = [] := by
  obtain ⟨hidle, -, hcall⟩ | ⟨-, rfl, -⟩ | ⟨-, rfl, -⟩ | ⟨_, _, _, _, _, rfl, -⟩ :=
    step_cases h
  · exact ⟨hidle, hcall⟩
  · simp [Action.isCall] at ha
  · simp [Action.isCall] at ha
  · simp [Action.isCall] at ha

end StreamRun

namespace CameraContext

variable {ctx ctx' u : CameraContext} {trackId id : UInt32} {port : CameraPort} {submitted : Submitted}
  {flushed ready : Bool} {st : Status} {done via target : PortState}

theorem updateRequest_same (h : ctx.updateRequest submitted flushed = .ok (st, ctx')) :
    st = .noError ∧ SameStreams ctx ctx' := by
  obtain ⟨scan, -, h⟩ := bind_eq_ok_iff.mp h
  obtain ⟨requests, -, h⟩ := bind_eq_ok_iff.mp h
  cases requests with
  | nil => simp at h
  | cons r rest =>
    dsimp only at h
    split at h
    · obtain ⟨hst, hsame, -⟩ := cancelRequest_ok h
      exact ⟨hst, hsame⟩
    · obtain ⟨hst, hsame, -⟩ := submitUpdate_ok h
      exact ⟨hst, hsame⟩

/-- A port is where it is to go already, or goes there by one update. -/
theorem turnPort_ok (h : turnPort done via target ready ctx trackId port submitted flushed =
    .ok (st, ctx')) : st = .noError ∧ ((port.portState = done ∧ ctx' = ctx) ∨
      (port.portState ≠ done ∧ ∃ u,
        (ctx.setPort trackId { port with readyToStart := ready, portState := via }).updateRequest
          submitted flushed = .ok (.noError, u) ∧ ctx' = u.setPortState trackId target)) := by
  unfold turnPort at h
  split at h
  next hdone =>
    obtain ⟨rfl, rfl⟩ := Prod.mk.inj (Except.ok.inj h)
    exact ⟨rfl, .inl ⟨hdone, rfl⟩⟩
  next hturn =>
    obtain ⟨⟨ret, u⟩, hu, h⟩ := bind_eq_ok_iff.mp h
    obtain ⟨rfl, -⟩ := updateRequest_same hu
    simp only [ne_eq, not_true_eq_false, if_false, Except.ok.injEq, Prod.mk.injEq] at h
    obtain ⟨rfl, rfl⟩ := h
    exact ⟨rfl, .inr ⟨hturn, u, hu, rfl⟩⟩

/-- The port that a turn of the track's stream updates the requests for, if it does. -/
def turnedPort (ctx : CameraContext) (trackId : UInt32) (done target : PortState) :
    Option (UInt32 × CameraPort × PortState) :=
  (ctx.activePorts[trackId]?).bind fun port =>
    if port.portState = done then none else some (trackId, port, target)

theorem turnedPort_of_ne {done : PortState} (hport : ctx.activePorts[trackId]? = some port)
    (hturn : port.portState ≠ done) :
    ctx.turnedPort trackId done target = some (trackId, port, target) := by
  rw [turnedPort, hport, Option.bind_some, if_neg hturn]

theorem asserted_ok {r : Except Abort (Status × CameraContext)}
    (h : asserted r = .ok (st, ctx')) : st = .noError ∧ r = .ok (.noError, ctx') := by
  obtain ⟨⟨ret, u⟩, hu, h⟩ := bind_eq_ok_iff.mp h
  dsimp only at h
  split at h
  next hret =>
    obtain ⟨rfl, rfl⟩ := Prod.mk.inj (Except.ok.inj h)
    exact ⟨rfl, hret ▸ hu⟩
  next => simp at h

theorem getElem?_setPortState {target : PortState} :
    (ctx.setPortState trackId target).activePorts[id]? =
      if trackId = id then (ctx.activePorts[id]?).map (CameraPort.setState target)
      else ctx.activePorts[id]? := by
  rw [setPortState, Std.ExtTreeMap.getElem?_modify]
  simp only [Std.LawfulEqCmp.compare_eq_iff_eq]
  split
  next heq => rw [heq]
  next => rfl

theorem getElem?_setPort : (ctx.setPort trackId port).activePorts[id]? =
    if trackId = id then some port else ctx.activePorts[id]? := by
  rw [setPort, Std.ExtTreeMap.getElem?_insert]
  simp only [Std.LawfulEqCmp.compare_eq_iff_eq]

/-- The ports after one of them was turned. -/
theorem getElem?_turned
    (hsame : SameStreams (ctx.setPort trackId { port with readyToStart := ready, portState := via }) u) :
    (u.setPortState trackId target).activePorts[id]? =
      if trackId = id then some { port with readyToStart := ready, portState := target }
      else ctx.activePorts[id]? := by
  have hports : u.activePorts = (ctx.setPort trackId
      { port with readyToStart := ready, portState := via }).activePorts := by
    rw [hsame]
  rw [getElem?_setPortState, hports, getElem?_setPort]
  split <;> rfl

/-- A port after such a turn is the turned one, or another as it was. -/
theorem port_turned {p : CameraPort}
    (hsame : SameStreams (ctx.setPort trackId { port with readyToStart := ready, portState := via }) u)
    (hp : (u.setPortState trackId target).activePorts[id]? = some p) :
    p = { port with readyToStart := ready, portState := target } ∨
      trackId ≠ id ∧ ctx.activePorts[id]? = some p := by
  rw [getElem?_turned hsame] at hp
  split at hp
  · exact .inl (Option.some.inj hp).symm
  next hne => exact .inr ⟨hne, hp⟩

variable {param : StreamParam} {d : Creation} {deleted : Bool} {batch : Nat} {o : Option Nat}

theorem getBatchSize_cases (h : ctx.getBatchSize param = (o, u)) :
    (o = none ∧ u = ctx) ∨ ∃ batch, o = some batch ∧
      { u with batchSize := batch } = { ctx with batchSize := batch } := by
  unfold getBatchSize at h
  split at h
  · obtain ⟨rfl, rfl⟩ := Prod.mk.inj h
    exact .inr ⟨1, rfl, rfl⟩
  split at h
  · obtain ⟨rfl, rfl⟩ := Prod.mk.inj h
    exact .inl ⟨rfl, rfl⟩
  split at h
  · obtain ⟨rfl, rfl⟩ := Prod.mk.inj h
    exact .inl ⟨rfl, rfl⟩
  split at h
  · split at h
    · obtain ⟨rfl, rfl⟩ := Prod.mk.inj h
      exact .inl ⟨rfl, rfl⟩
    · obtain ⟨rfl, rfl⟩ := Prod.mk.inj h
      exact .inr ⟨_, rfl, rfl⟩
  · obtain ⟨rfl, rfl⟩ := Prod.mk.inj h
    exact .inr ⟨1, rfl, rfl⟩

theorem storeBatchStreamId_eq : ctx.storeBatchStreamId port = { ctx with
    batchStreamId :=
      if 1 < port.batchSize ∧ ctx.batchStreamId ≤ -1 then port.cameraStreamId
      else ctx.batchStreamId } := by
  unfold storeBatchStreamId
  by_cases hbatch : 1 < port.batchSize
  · by_cases hfree : -1 < ctx.batchStreamId
    · rw [if_pos hbatch, if_pos hfree, if_neg fun h => absurd h.2 (Int.not_le.mpr hfree)]
    · rw [if_pos hbatch, if_neg hfree, if_pos ⟨hbatch, Int.not_lt.mp hfree⟩]
  · rw [if_neg hbatch, if_neg fun h => hbatch h.1]

theorem createFirstRequest_ok (h : ctx.createFirstRequest d = .ok u) :
    u.streamingActiveRequests ≠ [] ∧
      (u.streamingActiveRequests = ctx.streamingActiveRequests ∨ ctx.streamingActiveRequests = [] ∧
        ∃ metadata, u.streamingActiveRequests = [{ metadata := metadata }]) ∧
      u = { ctx with streamingActiveRequests := u.streamingActiveRequests } := by
  unfold createFirstRequest at h
  split at h
  next hempty =>
    split at h
    · obtain rfl := Except.ok.inj h
      exact ⟨by simp, .inr ⟨List.isEmpty_iff.mp hempty, _, rfl⟩, rfl⟩
    · simp at h
  next hsome =>
    obtain rfl := Except.ok.inj h
    exact ⟨fun hnil => hsome (List.isEmpty_iff.mpr hnil), .inl rfl, rfl⟩

/-- The context with a stream of the device more, and a port for it unless the track has one. -/
def withPort (ctx : CameraContext) (param : StreamParam) (batch : Nat)
    (requests : List Camera3Request) : CameraContext :=
  { ctx with
    batchSize := batch
    nextStreamId := ctx.nextStreamId + 1
    batchStreamId :=
      if 1 < batch ∧ ctx.batchStreamId ≤ -1 then ctx.nextStreamId else ctx.batchStreamId
    streamingActiveRequests := requests
    activePorts := ctx.activePorts.insertIfNew param.id
      { cameraStreamId := ctx.nextStreamId, batchSize := batch, framerate := param.framerate } }

theorem getElem?_withPort {param : StreamParam} {batch : Nat} {requests : List Camera3Request} :
    (ctx.withPort param batch requests).activePorts[id]? =
      if param.id = id ∧ param.id ∉ ctx.activePorts then
        some { cameraStreamId := ctx.nextStreamId, batchSize := batch, framerate := param.framerate }
      else ctx.activePorts[id]? := by
  simp only [withPort, Std.ExtTreeMap.getElem?_insertIfNew, Std.LawfulEqCmp.compare_eq_iff_eq]

/-- No port is lost. -/
theorem getElem?_withPort_of_some {param : StreamParam} {batch : Nat}
    {requests : List Camera3Request} (hport : ctx.activePorts[id]? = some port) :
    (ctx.withPort param batch requests).activePorts[id]? = some port := by
  rw [getElem?_withPort, if_neg, hport]
  rintro ⟨rfl, hnew⟩
  exact hnew (Std.ExtTreeMap.mem_iff_isSome_getElem?.mpr (by simp [hport]))

/-- The creation of a stream is refused, fails at the device, or makes a stream. -/
theorem createStream_ok (h : ctx.createStream param d = .ok (st, ctx')) :
    ((ctx.getBatchSize param).1 = none ∧ st = .badValue ∧ ctx' = ctx) ∨
    ∃ batch, (ctx.getBatchSize param).1 = some batch ∧
      ((d.created = false ∧ st = .badValue ∧ ctx' = { ctx with batchSize := batch }) ∨
        (d.created = true ∧ st = .noError ∧ ∃ requests,
          (requests = ctx.streamingActiveRequests ∨ ctx.streamingActiveRequests = [] ∧
            ∃ metadata, requests = [{ metadata := metadata }]) ∧
          requests ≠ [] ∧ ctx' = ctx.withPort param batch requests)) := by
  unfold createStream at h
  split at h
  · simp at h
  next =>
  cases hsize : ctx.getBatchSize param with
  | mk o u =>
    rw [hsize] at h
    obtain ⟨rfl, rfl⟩ | ⟨batch, rfl, hu⟩ := getBatchSize_cases hsize
    · obtain ⟨rfl, rfl⟩ := Prod.mk.inj (Except.ok.inj h)
      exact .inl ⟨rfl, rfl, rfl⟩
    · refine .inr ⟨batch, rfl, ?_⟩
      dsimp only at h
      rw [hu] at h
      obtain ⟨⟨o, v⟩, hinit, h⟩ := bind_eq_ok_iff.mp h
      unfold initPort at hinit
      split at hinit
      · simp at hinit
      split at hinit
      next hcreated =>
        obtain ⟨rfl, rfl⟩ := Prod.mk.inj (Except.ok.inj hinit)
        dsimp only at h
        split at h
        · simp at h
        obtain ⟨w, hfirst, h⟩ := bind_eq_ok_iff.mp h
        obtain ⟨rfl, rfl⟩ := Prod.mk.inj (Except.ok.inj h)
        rw [storeBatchStreamId_eq] at hfirst
        obtain ⟨hsome, hrequests, hw⟩ := createFirstRequest_ok hfirst
        refine .inr ⟨hcreated, rfl, w.streamingActiveRequests, hrequests, hsome, ?_⟩
        rw [hw]
        rfl
      next hcreated =>
        obtain ⟨rfl, rfl⟩ := Prod.mk.inj (Except.ok.inj hinit)
        obtain ⟨rfl, rfl⟩ := Prod.mk.inj (Except.ok.inj h)
        exact .inl ⟨by simpa using hcreated, rfl, rfl⟩

/-- A deletion changes nothing, or takes away a port that is not ready to start. -/
theorem deleteStream_ok (h : ctx.deleteStream trackId deleted = .ok (st, ctx')) : ctx' = ctx ∨
    ∃ port, ctx.activePorts[trackId]? = some port ∧ port.readyToStart = false ∧
      ctx' = { ctx.restoreBatchStreamId port with
        activePorts := ctx.activePorts.erase trackId } := by
  unfold deleteStream at h
  split at h
  · exact .inl (Prod.mk.inj (Except.ok.inj h)).2.symm
  next port hport =>
  split at h
  · exact .inl (Prod.mk.inj (Except.ok.inj h)).2.symm
  split at h
  · simp at h
  next hgood =>
    simp only [not_or, Bool.not_eq_true] at hgood
    refine .inr ⟨port, hport, hgood.1, ?_⟩
    obtain ⟨-, rfl⟩ := Prod.mk.inj (Except.ok.inj h)
    unfold restoreBatchStreamId
    split <;> rfl

/-- Start and stop of a stream, by the port of the track. -/
theorem startStream_ok (h : ctx.startStream trackId submitted flushed = .ok (st, ctx')) :
    ctx' = ctx ∨ ∃ port, ctx.activePorts[trackId]? = some port ∧ port.portState ≠ .started ∧
      ∃ u, (ctx.setPort trackId
          { port with readyToStart := true, portState := .readyToStart }).updateRequest
            submitted flushed = .ok (.noError, u) ∧ ctx' = u.setPortState trackId .started := by
  unfold startStream at h
  split at h
  · exact .inl (Prod.mk.inj (Except.ok.inj h)).2.symm
  next port hport =>
    obtain ⟨-, ⟨-, rfl⟩ | ⟨hturn, u, hu, rfl⟩⟩ := turnPort_ok (asserted_ok h).2
    · exact .inl rfl
    · exact .inr ⟨port, hport, hturn, u, hu, rfl⟩

theorem stopStream_ok (h : ctx.stopStream trackId submitted flushed = .ok (st, ctx')) :
    ctx' = ctx ∨ ∃ port, ctx.activePorts[trackId]? = some port ∧ port.portState ≠ .created ∧
      ∃ u, (ctx.setPort trackId
          { port with readyToStart := false, portState := .readyToStop }).updateRequest
            submitted flushed = .ok (.noError, u) ∧ ctx' = u.setPortState trackId .stopped := by
  unfold stopStream at h
  split at h
  · exact .inl (Prod.mk.inj (Except.ok.inj h)).2.symm
  next port hport =>
    obtain ⟨-, ⟨-, rfl⟩ | ⟨hturn, u, hu, rfl⟩⟩ := turnPort_ok (asserted_ok h).2
    · exact .inl rfl
    · exact .inr ⟨port, hport, hturn, u, hu, rfl⟩

/-- A turn of the loop is a start. -/
theorem resumeNext_eq_startStream {submitted : UInt32 → Submitted} {flushed : UInt32 → Bool} :
    ctx.resumeNext false submitted flushed trackId =
      (ctx.startStream trackId (submitted trackId) (flushed trackId)).map Prod.snd := by
  unfold resumeNext startStream
  cases ctx.activePorts[trackId]? with
  | none => rfl
  | some port =>
    simp only [Bool.false_eq_true, if_false]
    cases asserted (ctx.startPort trackId port (submitted trackId) (flushed trackId)) <;> rfl

theorem pauseStream_ok (h : ctx.pauseStream trackId = .ok (st, ctx')) :
    ctx' = ctx ∨ ∃ port, ctx.activePorts[trackId]? = some port ∧ port.portState = .started ∧
      ctx' = ctx.setPortState trackId .paused := by
  unfold pauseStream at h
  split at h
  · exact .inl (Prod.mk.inj (Except.ok.inj h)).2.symm
  next port hport =>
    obtain ⟨u, hu, h⟩ := bind_eq_ok_iff.mp h
    obtain ⟨-, rfl⟩ := Prod.mk.inj (Except.ok.inj h)
    unfold pausePort at hu
    split at hu
    next hstate => exact .inr ⟨port, hport, hstate, (Except.ok.inj hu).symm⟩
    next => simp at hu

theorem resumeStream_ok (h : ctx.resumeStream trackId = .ok (st, ctx')) :
    ctx' = ctx ∨ ∃ port, ctx.activePorts[trackId]? = some port ∧ port.portState = .paused ∧
      ctx' = ctx.setPortState trackId .started := by
  unfold resumeStream at h
  split at h
  · exact .inl (Prod.mk.inj (Except.ok.inj h)).2.symm
  next port hport =>
    obtain ⟨u, hu, h⟩ := bind_eq_ok_iff.mp h
    obtain ⟨-, rfl⟩ := Prod.mk.inj (Except.ok.inj h)
    unfold resumePort at hu
    split at hu
    next hstate => exact .inr ⟨port, hport, hstate, (Except.ok.inj hu).symm⟩
    next => simp at hu

/-- Only the consumers of a port are written. -/
theorem port_of_setConsumers {consumers : Nat} {p : CameraPort}
    (hp : (ctx.setConsumers trackId consumers).activePorts[id]? = some p) :
    ∃ q, ctx.activePorts[id]? = some q ∧ p = { q with consumers := p.consumers } := by
  simp only [setConsumers, Std.ExtTreeMap.getElem?_modify] at hp
  split at hp
  next heq =>
    obtain ⟨q, hq, rfl⟩ := Option.map_eq_some_iff.mp hp
    exact ⟨q, by rwa [← Std.LawfulEqCmp.eq_of_compare heq], rfl⟩
  next => exact ⟨p, hp, rfl⟩

/-- All requests get the same tags, or none does. -/
theorem setCameraParam_ok {metadata : RequestMetadata}
    (h : ctx.setCameraParam metadata submitted = .ok (st, ctx')) : ctx' = ctx ∨
    ∃ streamingId last, (0 ≤ streamingId ↔ 0 ≤ ctx.streamingRequestId) ∧
      ctx' = { ctx with
        streamingActiveRequests := ctx.streamingActiveRequests.map ({ · with metadata := metadata })
        streamingRequestId := streamingId
        lastFrameNumber := last } := by
  unfold setCameraParam at h
  split at h
  · exact .inl (Prod.mk.inj (Except.ok.inj h)).2.symm
  split at h
  · exact .inl (Prod.mk.inj (Except.ok.inj h)).2.symm
  dsimp only at h
  split at h
  next hstreaming =>
    split at h
    · simp at h
    next hid =>
      obtain ⟨-, rfl⟩ := Prod.mk.inj (Except.ok.inj h)
      exact .inr ⟨_, _, ⟨fun _ => hstreaming.1, fun _ => Int.not_lt.mp hid⟩, rfl⟩
  next =>
    obtain ⟨-, rfl⟩ := Prod.mk.inj (Except.ok.inj h)
    exact .inr ⟨ctx.streamingRequestId, ctx.lastFrameNumber, Iff.rfl, rfl⟩

/-- The ports of these tracks as they are paused. -/
def pausePorts (ctx : CameraContext) (ids : List UInt32) : CameraContext :=
  { ctx with
    activePorts :=
      ids.foldl (fun m id => m.modify id (CameraPort.setState .paused)) ctx.activePorts }

def AllStarted (ctx : CameraContext) (ids : List UInt32) : Prop :=
  ∀ id ∈ ids, ∀ port, ctx.activePorts[id]? = some port → port.portState = .started

theorem getElem?_pausePorts (ctx : CameraContext) (ids : List UInt32) (id : UInt32) :
    (ctx.pausePorts ids).activePorts[id]? =
    if id ∈ ids then (ctx.activePorts[id]?).map (CameraPort.setState .paused)
    else ctx.activePorts[id]? :=
  OrdMap.getElem?_foldl_modify (f := CameraPort.setState .paused) fun _ => rfl

/-- The loop of `PauseActiveStreams` comes to its end when all ports are started. -/
theorem foldlM_pauseNext (ctx : CameraContext) (ids : List UInt32) (hnodup : ids.Nodup) :
    (ctx.AllStarted ids → ids.foldlM pauseNext ctx = .ok (ctx.pausePorts ids)) ∧
      (¬ ctx.AllStarted ids → ids.foldlM pauseNext ctx = .error .assertion) := by
  induction ids generalizing ctx with
  | nil => exact ⟨fun _ => rfl, fun h => absurd (fun _ hid => absurd hid List.not_mem_nil) h⟩
  | cons trackId rest ih =>
    obtain ⟨hnew, hrest⟩ := List.nodup_cons.mp hnodup
    rw [List.foldlM_cons]
    cases hport : ctx.activePorts[trackId]? with
    | none =>
      have hnext : ctx.pauseNext trackId = .ok ctx := by rw [pauseNext, hport]
      have hmodify : ctx.activePorts.modify trackId (CameraPort.setState .paused) =
          ctx.activePorts := by
        apply Std.ExtTreeMap.ext_getElem?
        intro id
        rw [Std.ExtTreeMap.getElem?_modify]
        split
        next heq => rw [← Std.LawfulEqCmp.eq_of_compare heq, hport, Option.map_none]
        next => rfl
      have hall : ctx.AllStarted (trackId :: rest) ↔ ctx.AllStarted rest := by
        refine ⟨fun h id hid => h id (List.mem_cons_of_mem _ hid), fun h id hid p hp => ?_⟩
        obtain rfl | hid := List.mem_cons.mp hid
        · rw [hport] at hp
          simp at hp
        · exact h id hid p hp
      have hsame : ctx.pausePorts (trackId :: rest) = ctx.pausePorts rest := by
        simp only [pausePorts, List.foldl_cons, hmodify]
      rw [hnext, hall, hsame]
      exact ih _ hrest
    | some port =>
      by_cases hstate : port.portState = .started
      · have hnext : ctx.pauseNext trackId = .ok (ctx.setPortState trackId .paused) := by
          rw [pauseNext, hport]
          exact if_pos hstate
        have hall : ctx.AllStarted (trackId :: rest) ↔
            (ctx.setPortState trackId .paused).AllStarted rest := by
          have hlook : ∀ id ∈ rest, (ctx.setPortState trackId .paused).activePorts[id]? =
              ctx.activePorts[id]? := fun id hid => by
            rw [getElem?_setPortState, if_neg]
            rintro rfl
            exact hnew hid
          refine ⟨fun h id hid p hp => ?_, fun h id hid p hp => ?_⟩
          · exact h id (List.mem_cons_of_mem _ hid) p (hlook id hid ▸ hp)
          · obtain rfl | hid := List.mem_cons.mp hid
            · rw [hport] at hp
              rwa [← Option.some.inj hp]
            · exact h id hid p ((hlook id hid).trans hp)
        rw [hnext, hall]
        exact ih _ hrest
      · have hnext : ctx.pauseNext trackId = .error .assertion := by
          rw [pauseNext, hport]
          exact if_neg hstate
        rw [hnext]
        exact ⟨fun h => absurd (h trackId (by simp) port hport) hstate, fun _ => rfl⟩

/-- All active streams are interrupted: no request repeats any more. -/
def interrupted (ctx : CameraContext) : CameraContext :=
  { ctx.pausePorts ctx.activePorts.keys with
    lastFrameNumber := noInFlightRepeatingFrames
    stoppedStreamIds := (idsAt ctx.streamingActiveRequests 0).foldl .insert ∅
    streamingActiveRequests := ctx.streamingActiveRequests.modifyHead ({ · with streamIds := [] })
    portPaused := true
    streamingRequestId := -1
    captureRequestId := -1 }

theorem nodup_keys : ctx.activePorts.keys.Nodup :=
  Std.ExtTreeMap.nodup_keys

theorem mem_keys {id : UInt32} (hport : ctx.activePorts[id]? = some port) :
    id ∈ ctx.activePorts.keys :=
  Std.ExtTreeMap.mem_keys.mpr (Std.ExtTreeMap.mem_iff_isSome_getElem?.mpr (by simp [hport]))

theorem getElem?_interrupted : ctx.interrupted.activePorts[id]? =
    (ctx.activePorts[id]?).map (CameraPort.setState .paused) := by
  have hports : ctx.interrupted.activePorts[id]? = _ :=
    getElem?_pausePorts ctx ctx.activePorts.keys id
  rw [hports]
  split
  · rfl
  next hnot =>
    cases hport : ctx.activePorts[id]? with
    | none => rfl
    | some port => exact absurd (mem_keys hport) hnot

theorem settled_interrupted {p : CameraPort} (hp : ctx.interrupted.activePorts[id]? = some p) :
    p.Settled := by
  rw [getElem?_interrupted] at hp
  obtain ⟨q, -, rfl⟩ := Option.map_eq_some_iff.mp hp
  exact ⟨by simp [CameraPort.setState], by simp [CameraPort.setState]⟩

theorem nodup_interrupted (h : ∀ r ∈ ctx.streamingActiveRequests, r.streamIds.Nodup) :
    ∀ r ∈ ctx.interrupted.streamingActiveRequests, r.streamIds.Nodup := by
  intro r hr
  simp only [interrupted] at hr
  cases hrequests : ctx.streamingActiveRequests with
  | nil => simp [hrequests] at hr
  | cons r₀ rest =>
    rw [hrequests, List.modifyHead_cons] at hr
    obtain rfl | hr := List.mem_cons.mp hr
    · exact List.nodup_nil
    · exact h r (by simp [hrequests, hr])

theorem moveToStopped_pausePorts :
    ({ ctx with lastFrameNumber := noInFlightRepeatingFrames }.pausePorts
      ctx.activePorts.keys).moveToStopped =
      if ctx.stoppedStreamIds.isEmpty then .ok ctx.interrupted else .error .assertion := by
  unfold moveToStopped interrupted
  cases hrequests : ctx.streamingActiveRequests with
  | nil => simp [pausePorts, hrequests, idsAt]
  | cons r rest => simp [pausePorts, hrequests, idsAt]

/-- No request repeats that a pause would have to stop. -/
def Quiet (ctx : CameraContext) : Prop :=
  (ctx.streamingRequestId < 0 ∧ ctx.captureRequestId < 0) ∨ ctx.portPaused = true

instance : Decidable ctx.Quiet := inferInstanceAs (Decidable (_ ∨ _))

theorem pauseActiveStreams_of_quiet (h : ctx.Quiet) :
    ctx.pauseActiveStreams flushed = .ok (.noError, ctx) := by
  unfold pauseActiveStreams
  obtain hidle | hpaused := h
  · rw [if_pos hidle]
  · by_cases hidle : ctx.streamingRequestId < 0 ∧ ctx.captureRequestId < 0
    · rw [if_pos hidle]
    · rw [if_neg hidle, if_pos hpaused]

/-- Active streams are interrupted when all ports are started, else an assertion fails. -/
theorem pauseActiveStreams_of_active (ctx : CameraContext) (hactive : ¬ ctx.Quiet) :
    (ctx.AllStarted ctx.activePorts.keys → ctx.stoppedStreamIds.isEmpty →
      ctx.pauseActiveStreams true = .ok (.noError, ctx.interrupted)) ∧
    (¬ ctx.AllStarted ctx.activePorts.keys → ctx.pauseActiveStreams true = .error .assertion) := by
  obtain ⟨hrequest, hunpaused⟩ := not_or.mp hactive
  have hloop := foldlM_pauseNext { ctx with lastFrameNumber := noInFlightRepeatingFrames }
    ctx.activePorts.keys nodup_keys
  rw [pauseActiveStreams, if_neg hrequest, if_neg hunpaused, if_neg (by simp)]
  refine ⟨fun hall hempty => ?_, fun hnot => ?_⟩
  · refine bind_eq_ok_iff.mpr ⟨_, hloop.1 hall, bind_eq_ok_iff.mpr ⟨ctx.interrupted, ?_, rfl⟩⟩
    rw [moveToStopped_pausePorts, if_pos hempty]
  · rw [hloop.2 hnot]
    rfl

/-- A pause has nothing to do, or finds every port started. -/
theorem pauseActiveStreams_ok (h : ctx.pauseActiveStreams flushed = .ok (st, ctx')) :
    ctx' = ctx ∨ ctx.AllStarted ctx.activePorts.keys ∧ ctx.stoppedStreamIds.isEmpty ∧
      ctx' = ctx.interrupted := by
  unfold pauseActiveStreams at h
  split at h
  · exact .inl (Prod.mk.inj (Except.ok.inj h)).2.symm
  split at h
  · exact .inl (Prod.mk.inj (Except.ok.inj h)).2.symm
  split at h
  · simp at h
  obtain ⟨u, hu, h⟩ := bind_eq_ok_iff.mp h
  obtain ⟨v, hv, h⟩ := bind_eq_ok_iff.mp h
  obtain ⟨-, rfl⟩ := Prod.mk.inj (Except.ok.inj h)
  have hloop := foldlM_pauseNext { ctx with lastFrameNumber := noInFlightRepeatingFrames }
    ctx.activePorts.keys nodup_keys
  have hall : ctx.AllStarted ctx.activePorts.keys := by
    by_contra hnot
    rw [hloop.2 hnot] at hu
    simp at hu
  rw [hloop.1 hall] at hu
  obtain rfl := Except.ok.inj hu
  rw [moveToStopped_pausePorts] at hv
  split at hv
  next hempty => exact .inr ⟨hall, hempty, (Except.ok.inj hv).symm⟩
  next => simp at hv

end CameraContext

end QmmfSdk.Streams
