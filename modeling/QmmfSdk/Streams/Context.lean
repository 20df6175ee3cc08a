import Mathlib.Data.Rat.Floor
import QmmfSdk.Recorder.CameraSource

/-! `CameraContext` and its ports: the streaming requests that a camera repeats, and how starting,
stopping, pausing and resuming streams edits them. -/
namespace QmmfSdk.Streams

open Library (OrdMap)
open Recorder (IdMap Status Abort SnapshotMode BufferFormat)

/-- The tags of a request and their values. -/
abbrev RequestMetadata := OrdMap UInt32 (List Int)

/-- `ANDROID_CONTROL_AE_TARGET_FPS_RANGE` -/
def aeTargetFpsRange : UInt32 := 0x10005

/-- `ANDROID_SENSOR_FRAME_DURATION` -/
def sensorFrameDuration : UInt32 := 0xE0001

def noInFlightRepeatingFrames : Int := -1

structure Camera3Request where
  metadata : RequestMetadata := ∅
  streamIds : List Int := []

inductive PortState where
  | created
  | readyToStart
  | started
  | readyToStop
  | stopped
  | paused
  deriving DecidableEq, Repr

/-- `batchSize` is that of the copy of the camera parameters which the port was made with. -/
structure CameraPort where
  cameraStreamId : Int
  batchSize : Nat
  framerate : ℚ
  portState : PortState := .created
  readyToStart : Bool := false
  consumers : Nat := 0
  deriving DecidableEq

def CameraPort.setState (state : PortState) (port : CameraPort) : CameraPort :=
  { port with portState := state }

structure HFRMode where
  width : UInt32
  height : UInt32
  batchSize : Nat
  framerate : ℚ
  deriving DecidableEq

/-- What `OpenCamera` reads from the static metadata, and the thresholds of the build. -/
structure CameraConfig where
  hfrSupported : Bool := true
  hfrBatchModesList : List HFRMode := []
  constrainedModeThreshold : ℚ := 30
  hfrBatchModeThreshold : ℚ := 120

/-- What the device answers to `SubmitRequestList`: the id of the new request or an error, and the
last frame of the request before it. -/
structure Submitted where
  requestId : Int
  lastFrameNumber : Int := noInFlightRepeatingFrames
  deriving DecidableEq

/-- Of the camera parameters only the batch size changes; `nextStreamId` is the device's. -/
structure CameraContext where
  config : CameraConfig := {}
  streamingRequestId : Int := -1
  captureRequestId : Int := -1
  lastFrameNumberMap : OrdMap Int Int := ∅
  removedStreamIds : Std.ExtTreeSet Int := ∅
  lastFrameNumber : Int := noInFlightRepeatingFrames
  activePorts : IdMap CameraPort := ∅
  streamingActiveRequests : List Camera3Request := []
  batchStreamId : Int := -1
  batchSize : Nat := 1
  snapshotType : SnapshotMode := .video
  portPaused : Bool := false
  stoppedStreamIds : Std.ExtTreeSet Int := ∅
  nextStreamId : Int := 0

/-- The local variables of `UpdateRequest` in its loop over the ports. -/
structure PortScan where
  requests : List Camera3Request
  maxFps : ℚ := 0
  streamIds : Std.ExtTreeSet Int := ∅
  removedStreams : Std.ExtTreeSet Int := ∅

namespace Camera3Request

def addStream (r : Camera3Request) (streamId : Int) : Camera3Request :=
  if streamId ∈ r.streamIds then r else { r with streamIds := r.streamIds ++ [streamId] }

def removeStream (r : Camera3Request) (streamId : Int) : Camera3Request :=
  { r with streamIds := r.streamIds.erase streamId }

def setFrameRate (fps : Int) (r : Camera3Request) : Camera3Request :=
  { r with
    metadata := (r.metadata.insert aeTargetFpsRange [fps, fps]).insert sensorFrameDuration
      [Int.tdiv 1000000000 fps] }

end Camera3Request

namespace PortScan

/-- The first request is the model of the others, but not of the second one. -/
def fillBatch (batch : Nat) (streamId : Int) (requests : List Camera3Request) :
    List Camera3Request :=
  let first := (requests.head?.map Camera3Request.metadata).getD ∅
  requests.mapIdx fun i r =>
    if i < batch then
      let r := r.addStream streamId
      if 1 < i ∧ r.metadata.isEmpty then { r with metadata := first } else r
    else r

/-- The assertion that the loop makes before it copies from the first request. -/
def canFill (batch : Nat) (requests : List Camera3Request) : Bool :=
  !(requests.head?.map Camera3Request.metadata).all (·.isEmpty) ||
    ((requests.take batch).drop 2).all fun r => !r.metadata.isEmpty

def addPort (s : PortScan) (port : CameraPort) : Except Abort PortScan :=
  let requests := s.requests ++ List.replicate (port.batchSize - s.requests.length) ({} : Camera3Request)
  if canFill port.batchSize requests then
    .ok { s with
      maxFps := max s.maxFps port.framerate
      requests := fillBatch port.batchSize port.cameraStreamId requests
      streamIds := s.streamIds.insert port.cameraStreamId }
  else .error .assertion

def removePort (s : PortScan) (port : CameraPort) : PortScan :=
  if s.requests.any (port.cameraStreamId ∈ ·.streamIds) then
    { s with
      requests := s.requests.map (·.removeStream port.cameraStreamId)
      streamIds := s.streamIds.insert port.cameraStreamId
      removedStreams := s.removedStreams.insert port.cameraStreamId }
  else s

def scanPort (s : PortScan) (port : CameraPort) : Except Abort PortScan :=
  match port.portState with
  | .readyToStart => s.addPort port
  | .readyToStop => .ok (s.removePort port)
  | .started =>
    .ok { s with
      maxFps := max s.maxFps port.framerate
      streamIds := s.streamIds.insert port.cameraStreamId }
  | .created | .stopped | .paused => .ok s

end PortScan

/-- Stale batches, which have no stream, go; they are asserted to be the last ones. -/
def eraseStale : List Camera3Request → Except Abort (List Camera3Request)
  | [] => .ok []
  | r :: rest =>
    if (rest.dropWhile (!·.streamIds.isEmpty)).all (·.streamIds.isEmpty) then
      .ok (r :: rest.takeWhile (!·.streamIds.isEmpty))
    else .error .assertion

namespace CameraContext

/-- `flushed` is what `Flush` and `WaitUntilIdle` are asserted to do. -/
def cancelRequest (ctx : CameraContext) (flushed : Bool) : Except Abort (Status × CameraContext) :=
  if ctx.streamingRequestId < 0 ∧ ctx.captureRequestId < 0 then .ok (.noError, ctx)
  else if flushed then
    .ok (.noError,
      { ctx with
        streamingRequestId := -1
        captureRequestId := -1
        lastFrameNumber := noInFlightRepeatingFrames })
  else .error .assertion

/-- The last frame of one stream, and whether frames of a removed one are still to be waited for. -/
def recordStream (removedStreams : Std.ExtTreeSet Int) (lastFrameNumber : Int)
    (ctx : CameraContext) (streamId : Int) : CameraContext :=
  let map :=
    if streamId ∈ ctx.lastFrameNumberMap then
      if lastFrameNumber ≠ noInFlightRepeatingFrames then
        ctx.lastFrameNumberMap.insert streamId lastFrameNumber
      else ctx.lastFrameNumberMap
    else ctx.lastFrameNumberMap.insert streamId noInFlightRepeatingFrames
  { ctx with
    lastFrameNumberMap := map
    removedStreamIds :=
      if streamId ∈ removedStreams ∧ map[streamId]? ≠ some noInFlightRepeatingFrames then
        ctx.removedStreamIds.insert streamId
      else ctx.removedStreamIds }

def ratedRequests (maxFps : ℚ) (requests : List Camera3Request) : List Camera3Request :=
  if 0 < maxFps then requests.map (Camera3Request.setFrameRate ⌈maxFps - 1 / 2⌉) else requests

/-- The last frame of the request before; the one known from earlier, if the device knows none. -/
def lastFrame (ctx : CameraContext) (submitted : Submitted) : Int :=
  if submitted.lastFrameNumber = noInFlightRepeatingFrames then ctx.lastFrameNumber
  else submitted.lastFrameNumber

/-- The requests go to the device with one frame rate for all; `UpdateRequest` then waits for the
frames of removed streams, which changes nothing here. -/
def submitUpdate (ctx : CameraContext) (scan : PortScan) (submitted : Submitted) :
    Except Abort (Status × CameraContext) :=
  let requests := ratedRequests scan.maxFps ctx.streamingActiveRequests
  if requests.any (·.metadata.isEmpty) ∨ submitted.requestId < 0 then .error .assertion
  else
    .ok (.noError,
      scan.streamIds.foldl (recordStream scan.removedStreams (ctx.lastFrame submitted))
        { ctx with
          streamingActiveRequests := requests
          streamingRequestId := submitted.requestId
          lastFrameNumber := ctx.lastFrame submitted })

def updateRequest (ctx : CameraContext) (submitted : Submitted) (flushed : Bool) :
    Except Abort (Status × CameraContext) := do
  let scan ← ctx.activePorts.toList.foldlM (fun scan it => PortScan.scanPort scan it.2)
    { requests := ctx.streamingActiveRequests }
  let requests ← eraseStale scan.requests
  let ctx := { ctx with streamingActiveRequests := requests }
  match requests with
  | [] => .error .assertion  -- indexes an empty vector; a port has made the first request
  | r :: _ =>
    if r.streamIds.isEmpty then ctx.cancelRequest flushed else ctx.submitUpdate scan submitted

def setPort (ctx : CameraContext) (trackId : UInt32) (port : CameraPort) : CameraContext :=
  { ctx with activePorts := ctx.activePorts.insert trackId port }

def setPortState (ctx : CameraContext) (trackId : UInt32) (state : PortState) : CameraContext :=
  { ctx with activePorts := ctx.activePorts.modify trackId (·.setState state) }

/-- `CameraPort::Start` and `CameraPort::Stop`: nothing to do in the state `done`, else the requests
are updated while the port is in the state `via`. -/
def turnPort (done via target : PortState) (readyToStart : Bool) (ctx : CameraContext)
    (trackId : UInt32) (port : CameraPort) (submitted : Submitted) (flushed : Bool) :
    Except Abort (Status × CameraContext) := do
  if port.portState = done then .ok (.noError, ctx)
  else
    let (ret, ctx) ← (ctx.setPort trackId
      { port with readyToStart := readyToStart, portState := via }).updateRequest submitted flushed
    if ret ≠ .noError then .ok (ret, ctx) else .ok (.noError, ctx.setPortState trackId target)

/-- `CameraPort::Start` -/
def startPort := turnPort .started .readyToStart .started true

/-- `CameraPort::Stop` -/
def stopPort := turnPort .created .readyToStop .stopped false

/-- `CameraPort::Pause` -/
def pausePort (ctx : CameraContext) (trackId : UInt32) (port : CameraPort) :
    Except Abort CameraContext :=
  if port.portState = .started then .ok (ctx.setPortState trackId .paused) else .error .assertion

/-- `CameraPort::Resume` -/
def resumePort (ctx : CameraContext) (trackId : UInt32) (port : CameraPort) :
    Except Abort CameraContext :=
  if port.portState = .paused then .ok (ctx.setPortState trackId .started) else .error .assertion

/-- An assertion on what a port's function returns. -/
def asserted (r : Except Abort (Status × CameraContext)) : Except Abort (Status × CameraContext) := do
  let (ret, ctx) ← r
  if ret = .noError then .ok (.noError, ctx) else .error .assertion

def startStream (ctx : CameraContext) (trackId : UInt32) (submitted : Submitted) (flushed : Bool) :
    Except Abort (Status × CameraContext) :=
  match ctx.activePorts[trackId]? with
  | none => .ok (.badValue, ctx)
  | some port => asserted (ctx.startPort trackId port submitted flushed)

def stopStream (ctx : CameraContext) (trackId : UInt32) (submitted : Submitted) (flushed : Bool) :
    Except Abort (Status × CameraContext) :=
  match ctx.activePorts[trackId]? with
  | none => .ok (.badValue, ctx)
  | some port => asserted (ctx.stopPort trackId port submitted flushed)

def pauseStream (ctx : CameraContext) (trackId : UInt32) : Except Abort (Status × CameraContext) :=
  match ctx.activePorts[trackId]? with
  | none => .ok (.badValue, ctx)
  | some port => return (.noError, ← ctx.pausePort trackId port)

def resumeStream (ctx : CameraContext) (trackId : UInt32) : Except Abort (Status × CameraContext) :=
  match ctx.activePorts[trackId]? with
  | none => .ok (.badValue, ctx)
  | some port => return (.noError, ← ctx.resumePort trackId port)

/-- The loop body of `PauseActiveStreams`: each port is asserted to be started. -/
def pauseNext (ctx : CameraContext) (trackId : UInt32) : Except Abort CameraContext :=
  match ctx.activePorts[trackId]? with
  | none => .ok ctx
  | some port => ctx.pausePort trackId port

/-- The streams of the first request are moved away; those of the others stay. -/
def moveToStopped (ctx : CameraContext) : Except Abort CameraContext :=
  if ctx.stoppedStreamIds.isEmpty then
    .ok { ctx with
      stoppedStreamIds := match ctx.streamingActiveRequests with
        | [] => ∅
        | r :: _ => r.streamIds.foldl .insert ∅
      streamingActiveRequests := match ctx.streamingActiveRequests with
        | [] => []
        | r :: rest => { r with streamIds := [] } :: rest
      portPaused := true
      streamingRequestId := -1
      captureRequestId := -1 }
  else .error .assertion

/-- All callers leave `immediately` at its default, and so the ports are paused and not stopped. -/
def pauseActiveStreams (ctx : CameraContext) (flushed : Bool) :
    Except Abort (Status × CameraContext) := do
  if ctx.streamingRequestId < 0 ∧ ctx.captureRequestId < 0 then .ok (.noError, ctx)
  else if ctx.portPaused then .ok (.noError, ctx)
  else if ¬ flushed then .error .assertion
  else
    let ctx ← ctx.activePorts.keys.foldlM pauseNext
      { ctx with lastFrameNumber := noInFlightRepeatingFrames }
    return (.noError, ← ctx.moveToStopped)

/-- The loop body of `ResumeActiveStreams`; with `stateOnly` a snapshot request is streaming. -/
def resumeNext (stateOnly : Bool) (submitted : UInt32 → Submitted) (flushed : UInt32 → Bool)
    (ctx : CameraContext) (trackId : UInt32) : Except Abort CameraContext :=
  match ctx.activePorts[trackId]? with
  | none => .ok ctx
  | some port =>
    if stateOnly then ctx.resumePort trackId port
    else return (← asserted (ctx.startPort trackId port (submitted trackId) (flushed trackId))).2

def resumeActiveStreams (ctx : CameraContext) (stateOnly : Bool) (submitted : UInt32 → Submitted)
    (flushed : UInt32 → Bool) : Except Abort (Status × CameraContext) := do
  if ctx.stoppedStreamIds.isEmpty then .ok (.noError, { ctx with portPaused := false })
  else
    let ctx ← ctx.activePorts.keys.foldlM (resumeNext stateOnly submitted flushed) ctx
    .ok (.noError, { ctx with stoppedStreamIds := ∅, portPaused := false })

/-- `submitted` is what the device answers when a repeating request is replaced. -/
def setCameraParam (ctx : CameraContext) (metadata : RequestMetadata) (submitted : Submitted) :
    Except Abort (Status × CameraContext) :=
  match ctx.streamingActiveRequests with
  | [] => .ok (.noInit, ctx)
  | r :: _ =>
    if r.metadata.isEmpty then .ok (.noInit, ctx)
    else
      let ctx := { ctx with
        streamingActiveRequests := ctx.streamingActiveRequests.map ({ · with metadata := metadata }) }
      if 0 ≤ ctx.streamingRequestId ∧ ctx.snapshotType ≠ .continuous then
        if submitted.requestId < 0 then .error .assertion
        else
          .ok (.noError,
            { ctx with
              streamingRequestId := submitted.requestId
              lastFrameNumber :=
                if submitted.lastFrameNumber ≠ noInFlightRepeatingFrames then
                  submitted.lastFrameNumber
                else ctx.lastFrameNumber })
      else .ok (.noError, ctx)

/-- The parameters of a stream that the context reads. -/
structure StreamParam where
  id : UInt32
  width : UInt32
  height : UInt32
  framerate : ℚ
  deriving DecidableEq

/-- The size of the batch, `none` when the rate is refused, and the context that remembers it. -/
def getBatchSize (ctx : CameraContext) (param : StreamParam) : Option Nat × CameraContext :=
  if 1 < ctx.batchSize then (some 1, ctx)
  else if ctx.config.constrainedModeThreshold ≤ param.framerate ∧ ¬ ctx.config.hfrSupported then
    (none, ctx)
  else if ctx.config.constrainedModeThreshold ≤ param.framerate ∧ ctx.snapshotType = .zsl then
    (none, ctx)
  else if ctx.config.hfrBatchModeThreshold ≤ param.framerate then
    match ctx.config.hfrBatchModesList.find? fun m =>
      param.width == m.width && param.height == m.height &&
        decide (|param.framerate - m.framerate| < 1 / 10) with
    | none => (none, ctx)
    | some m => (some m.batchSize, { ctx with batchSize := m.batchSize })
  else (some 1, { ctx with batchSize := 1 })

/-- What the device answers while a stream is made: `configured` and `prepared` are asserted, and
`defaultRequest` is the template of the first request. -/
structure Creation where
  created : Bool := true
  configured : Bool := true
  prepared : Bool := true
  defaultRequest : Option RequestMetadata := some ∅

/-- `CameraPort::Init`, up to the id of the camera stream. A running request needs no configuration
of its own. -/
def initPort (ctx : CameraContext) (d : Creation) : Except Abort (Option Int × CameraContext) :=
  if ctx.streamingRequestId < 0 ∧ ¬ d.configured then .error .assertion
  else if d.created then
    .ok (some ctx.nextStreamId, { ctx with nextStreamId := ctx.nextStreamId + 1 })
  else .ok (none, ctx)

def storeBatchStreamId (ctx : CameraContext) (port : CameraPort) : CameraContext :=
  if 1 < port.batchSize then
    if -1 < ctx.batchStreamId then ctx else { ctx with batchStreamId := port.cameraStreamId }
  else ctx

def restoreBatchStreamId (ctx : CameraContext) (port : CameraPort) : CameraContext :=
  if ctx.batchStreamId = port.cameraStreamId then { ctx with batchStreamId := -1, batchSize := 1 }
  else ctx

/-- The first request is made from the device's template. -/
def createFirstRequest (ctx : CameraContext) (d : Creation) : Except Abort CameraContext :=
  if ctx.streamingActiveRequests.isEmpty then
    match d.defaultRequest with
    | some metadata => .ok { ctx with streamingActiveRequests := [{ metadata := metadata }] }
    | none => .error .assertion
  else .ok ctx

def createStream (ctx : CameraContext) (param : StreamParam) (d : Creation) :
    Except Abort (Status × CameraContext) := do
  if param.id = 0 then .error .assertion
  else
    match ctx.getBatchSize param with
    | (none, ctx) => .ok (.badValue, ctx)
    | (some batch, ctx) =>
      let ctx := { ctx with batchSize := batch }
      match ← ctx.initPort d with
      | (none, ctx) => .ok (.badValue, ctx)
      | (some streamId, ctx) =>
        if ¬ d.prepared then .error .assertion
        else
          let port : CameraPort :=
            { cameraStreamId := streamId, batchSize := batch, framerate := param.framerate }
          let ctx ← (ctx.storeBatchStreamId port).createFirstRequest d
          .ok (.noError, { ctx with activePorts := ctx.activePorts.insertIfNew param.id port })

/-- `deleted` is what the device is asserted to do. -/
def deleteStream (ctx : CameraContext) (trackId : UInt32) (deleted : Bool) :
    Except Abort (Status × CameraContext) :=
  match ctx.activePorts[trackId]? with
  | none => .ok (.badValue, ctx)
  | some port =>
    if 0 < port.consumers then .ok (.noError, ctx)
    else if port.readyToStart ∨ ¬ deleted then .error .assertion
    else
      let ctx := ctx.restoreBatchStreamId port
      .ok (.noError, { ctx with activePorts := ctx.activePorts.erase trackId })

def setConsumers (ctx : CameraContext) (trackId : UInt32) (consumers : Nat) : CameraContext :=
  { ctx with activePorts := ctx.activePorts.modify trackId ({ · with consumers := consumers }) }

end CameraContext

end QmmfSdk.Streams
