import QmmfSdk.Streams.CaptureSteps

/-! A camera context with the device that it has opened: each of its calls, with the request ids that
`Camera3DeviceClient` gives out on the way. -/
namespace QmmfSdk.Streams

open Library (LTS bind_eq_ok_iff)
open Recorder (Status Abort SnapshotMode)
open SnapshotContext (CaptureAnswers CaptureLoop getSnapshotStreamParams)
open ImageCapture (Context Answers ZslSource zslPortId)

/-- Of `Camera3DeviceClient` and its request handler: the ids of the requests in the streaming list,
and that of the next request. -/
structure RequestClient where
  streamingRequests : List Int := []
  nextRequestId : Int := 0
  deriving DecidableEq

namespace RequestClient

/-- An `int32_t` is counted up. -/
def succId (id : Int) : Int := (id + 1).bmod 4294967296

/-- `-EINVAL` -/
def invalid : Int := -22

/-- `SubmitRequestList` of so many requests. A negative id as the answer is an error, a `late` one if
the requests have their ids by then. -/
def submitRequestList (client : RequestClient) (size : Nat) (streaming : Bool) (answer : Submitted)
    (late : Bool) : Submitted × RequestClient :=
  let counted := { client with nextRequestId := succId^[size] client.nextRequestId }
  if size = 0 then ({ answer with requestId := invalid }, client)
  else if answer.requestId < 0 then (answer, if late then counted else client)
  else
    ({ answer with requestId := client.nextRequestId },
      if streaming then
        { counted with streamingRequests := List.iterate succId client.nextRequestId size }
      else counted)

/-- `Flush` -/
def flush (client : RequestClient) : RequestClient := { client with streamingRequests := [] }

end RequestClient

structure OpenCamera where
  context : Context
  device : RequestClient := {}

namespace OpenCamera

def streams (s : OpenCamera) : CameraContext := s.context.streams

def withStreams (s : OpenCamera) (streams : CameraContext) : OpenCamera :=
  { s with context := s.context.withStreams streams }

def withSnapshot (s : OpenCamera) (snapshot : SnapshotContext) : OpenCamera :=
  { s with context := { s.context with snapshot := snapshot } }

/-- A streaming request is active on the device. -/
def isStreaming (s : OpenCamera) : Bool := !s.device.streamingRequests.isEmpty

/-- A part of a call that gives the device no request. -/
def within {α : Type} (s : OpenCamera) (r : Except Abort (α × Context)) :
    Except Abort (α × OpenCamera) := do
  let (a, c) ← r
  .ok (a, { s with context := c })

/-- Neither id is that of a request. -/
def isIdle (s : OpenCamera) : Bool :=
  decide (s.streams.streamingRequestId < 0) && decide (s.streams.captureRequestId < 0)

def cancelRequest (s : OpenCamera) (flushed : Bool) : Except Abort (Status × OpenCamera) := do
  let (ret, streams) ← s.streams.cancelRequest flushed
  .ok (ret, { s.withStreams streams with device := if s.isIdle then s.device else s.device.flush })

def submitUpdate (s : OpenCamera) (scan : PortScan) (answer : Submitted) :
    Except Abort (Status × OpenCamera) := do
  let submission :=
    s.device.submitRequestList s.streams.streamingActiveRequests.length true answer false
  let (ret, streams) ← s.streams.submitUpdate scan submission.1
  .ok (ret, { s.withStreams streams with device := submission.2 })

def updateRequest (s : OpenCamera) (answer : Submitted) (flushed : Bool) :
    Except Abort (Status × OpenCamera) := do
  let scan ← s.streams.activePorts.toList.foldlM (fun scan it => PortScan.scanPort scan it.2)
    { requests := s.streams.streamingActiveRequests }
  let requests ← eraseStale scan.requests
  let s := s.withStreams { s.streams with streamingActiveRequests := requests }
  match requests with
  | [] => .error .assertion
  | r :: _ => if r.streamIds.isEmpty then s.cancelRequest flushed else s.submitUpdate scan answer

/-- `CameraPort::Start` and `CameraPort::Stop` -/
def turnPort (done via target : PortState) (readyToStart : Bool) (s : OpenCamera) (trackId : UInt32)
    (port : CameraPort) (answer : Submitted) (flushed : Bool) :
    Except Abort (Status × OpenCamera) := do
  if port.portState = done then .ok (.noError, s)
  else
    let (ret, s) ← (s.withStreams (s.streams.setPort trackId
      { port with readyToStart := readyToStart, portState := via })).updateRequest answer flushed
    if ret ≠ .noError then .ok (ret, s)
    else .ok (.noError, s.withStreams (s.streams.setPortState trackId target))

def startPort := turnPort .started .readyToStart .started true

def stopPort := turnPort .created .readyToStop .stopped false

def asserted (r : Except Abort (Status × OpenCamera)) : Except Abort (Status × OpenCamera) := do
  let (ret, s) ← r
  if ret = .noError then .ok (.noError, s) else .error .assertion

def startStream (s : OpenCamera) (trackId : UInt32) (answer : Submitted) (flushed : Bool) :
    Except Abort (Status × OpenCamera) :=
  match s.streams.activePorts[trackId]? with
  | none => .ok (.badValue, s)
  | some port => asserted (s.startPort trackId port answer flushed)

def stopStream (s : OpenCamera) (trackId : UInt32) (answer : Submitted) (flushed : Bool) :
    Except Abort (Status × OpenCamera) :=
  match s.streams.activePorts[trackId]? with
  | none => .ok (.badValue, s)
  | some port => asserted (s.stopPort trackId port answer flushed)

def pauseActiveStreams (s : OpenCamera) (flushed : Bool) : Except Abort OpenCamera := do
  let c ← s.context.pauseActiveStreams flushed
  .ok { context := c, device := if s.streams.Quiet then s.device else s.device.flush }

/-- The loop body of `ResumeActiveStreams`. -/
def resumeNext (stateOnly : Bool) (d : CaptureAnswers) (s : OpenCamera) (trackId : UInt32) :
    Except Abort OpenCamera :=
  match s.streams.activePorts[trackId]? with
  | none => .ok s
  | some port =>
    if stateOnly then return s.withStreams (← s.streams.resumePort trackId port)
    else return (← asserted (s.startPort trackId port (d.resumed trackId) (d.flushed trackId))).2

def resumeActiveStreams (s : OpenCamera) (stateOnly : Bool) (d : CaptureAnswers) :
    Except Abort OpenCamera := do
  if s.streams.stoppedStreamIds.isEmpty then
    .ok (s.withStreams { s.streams with portPaused := false })
  else
    let s ← s.streams.activePorts.keys.foldlM (resumeNext stateOnly d) s
    .ok (s.withStreams { s.streams with stoppedStreamIds := ∅, portPaused := false })

/-- With a snapshot that repeats the parameters are only remembered. -/
def repeats (s : OpenCamera) : Bool :=
  decide (0 ≤ s.streams.streamingRequestId) && decide (s.streams.snapshotType ≠ .continuous)

def setCameraParam (s : OpenCamera) (metadata : RequestMetadata) (answer : Submitted) :
    Except Abort (Status × OpenCamera) := do
  let submission :=
    s.device.submitRequestList s.streams.streamingActiveRequests.length true answer false
  let (ret, streams) ← s.streams.setCameraParam metadata submission.1
  .ok (ret,
    { s.withStreams streams with
      device := if ret = .noError ∧ s.repeats then submission.2 else s.device })

/-- A ZSL queue is emptied for a new stream, unless the frame rate is refused before, and runs again
when the stream is made. -/
def createStream (s : OpenCamera) (param : CameraContext.StreamParam) (d : CameraContext.Creation)
    (returned : Bool) : Except Abort (Status × OpenCamera) := do
  let c ← (if (s.streams.getBatchSize param).1.isSome then s.context.quietZsl returned
    else .ok s.context)
  let (ret, streams) ← c.streams.createStream param d
  let c := c.withStreams streams
  .ok (ret, { s with context := if ret = .noError ∧ s.context.zslMode then c.resumeZSL else c })

/-- The streaming request is cancelled and submitted again when a ZSL queue runs on it. -/
def deleteDeviceStream (d : Answers) (s : OpenCamera) (streamId : Int) :
    Except Abort OpenCamera := do
  let submission := s.device.flush.submitRequestList 1 true { requestId := d.resubmitted } false
  let c ← Context.deleteDeviceStream { d with resubmitted := submission.1.requestId } s.context
    streamId
  .ok
    { context := c
      device := if s.context.zslMode ∧ s.context.interrupts then submission.2 else s.device }

def deleteStream (s : OpenCamera) (trackId : UInt32) (d : Answers) :
    Except Abort (Status × OpenCamera) := do
  match s.streams.activePorts[trackId]? with
  | none => .ok (.badValue, s)
  | some port =>
    if 0 < port.consumers then .ok (.noError, s)
    else if port.readyToStart then .error .assertion
    else
      let s ← deleteDeviceStream d s port.cameraStreamId
      let streams := s.streams.restoreBatchStreamId port
      .ok (.noError,
        s.withStreams { streams with activePorts := streams.activePorts.erase trackId })

def deleteSnapshotStream (s : OpenCamera) (d : Answers) : Except Abort OpenCamera := do
  let s ← s.context.snapshot.streamIds.foldlM (deleteDeviceStream d) s
  .ok { s with context := s.context.forgetSnapshot }

def addSnapshotStream (s : OpenCamera) (p : CameraStreamParameters) (cache created : Bool)
    (d : Answers) : Except Abort (Status × OpenCamera) :=
  s.within (s.context.addSnapshotStream p cache created d)

/-- Of `CreateSnapshotStream`, for changed parameters. -/
def replaceSnapshotStream (s : OpenCamera) (p : CameraStreamParameters) (cache : Bool)
    (d : Answers) : Except Abort (Status × OpenCamera) := do
  let s ← s.pauseActiveStreams d.snapshot.flushed
  match s.context.snapshot.streamIds with
  | [] => s.addSnapshotStream p cache d.snapshot.created d
  | [_] => (← s.deleteSnapshotStream d).addSnapshotStream p cache d.snapshot.created d
  | _ :: _ :: _ => .ok (.badValue, s)

def mainSnapshotStream (s : OpenCamera) (p : CameraStreamParameters) (cache : Bool) (d : Answers) :
    Except Abort (Status × OpenCamera) :=
  if s.context.snapshot.isStreamParamsChanged p then s.replaceSnapshotStream p cache d
  else .ok (.noError, s)

def createSnapshotStream (s : OpenCamera) (p : CameraStreamParameters) (cache : Bool)
    (d : Answers) : Except Abort (Status × OpenCamera) := do
  let (ret, s) ← s.mainSnapshotStream p cache d
  if ret ≠ .noError then .ok (ret, s)
  else if plusRaw s.context.snapshot.snapshotType then
    s.addSnapshotStream (s.context.snapshot.rawStreamParam p) cache d.snapshot.rawCreated d
  else .ok (.noError, s)

def startZslPort (s : OpenCamera) (zsl : ZslSource) (d : Answers) :
    Except Abort (Status × OpenCamera) := do
  if s.context.hasZslPort then s.updateRequest d.ports.submitted d.cancelled
  else
    let port : CameraPort :=
      { cameraStreamId := zsl.cameraStreamId, batchSize := s.streams.batchSize,
        framerate := s.context.frameRate }
    let (ret, s) ← (s.withStreams (s.streams.setPort zslPortId port)).startPort zslPortId port
      d.ports.submitted d.cancelled
    .ok (ret, { s with context := { s.context with zslPort := zsl } })

/-- The end of `StartZSL`. -/
def runZslPort (s : OpenCamera) (zsl : ZslSource) (d : Answers) :
    Except Abort (Status × OpenCamera) := do
  let (ret, s) ← s.startZslPort zsl d
  if ret ≠ .noError then .ok (ret, s) else return (.noError, ← s.resumeActiveStreams false d.ports)

/-- `StartZSL` from where the snapshot stream is made. -/
def addZslPort (s : OpenCamera) (p : CameraStreamParameters) (queueDepth : UInt32) (d : Answers) :
    Except Abort (Status × OpenCamera) := do
  let c ← s.context.createZslRequest d.defaultRequest
  match ← s.within (c.initZslPort p queueDepth d) with
  | (none, s) => .ok (.badValue, s)
  | (some zsl, s) => s.runZslPort zsl d

def startZSL (s : OpenCamera) (t : ImageCapture.SnapshotType) (d : Answers) :
    Except Abort (Status × OpenCamera) := do
  if ¬ s.context.inputSupported then .ok (.badValue, s)
  else
    let param := t.zslImageParam.toSnapshotParam
    let p := getSnapshotStreamParams param
    let s ← { s with context := s.context.withSnapshotParam param }.pauseActiveStreams d.paused
    let (ret, s) ← s.createSnapshotStream p true d
    if ret ≠ .noError then .ok (ret, s) else s.addZslPort p t.queueDepth d

def stopZslPort (s : OpenCamera) (d : Answers) : Except Abort (Status × OpenCamera) :=
  match s.streams.activePorts[zslPortId]? with
  | none => .error .assertion
  | some port => s.stopPort zslPortId port d.ports.submitted d.cancelled

/-- `ZslPort::DeInit` -/
def deInitZslPort (s : OpenCamera) (port : CameraPort) (d : Answers) : Except Abort OpenCamera := do
  let s ← (if s.context.zslPort.inputStreamId ≠ -1 then
      deleteDeviceStream d s s.context.zslPort.inputStreamId
    else .ok s)
  if port.readyToStart then .error .assertion else deleteDeviceStream d s port.cameraStreamId

/-- The end of `StopZSL`. -/
def removeZslPort (s : OpenCamera) (d : Answers) : Except Abort OpenCamera := do
  match s.streams.activePorts[zslPortId]? with
  | none => .error .assertion
  | some port =>
    let s ← s.deInitZslPort port d
    { s with context := s.context.eraseZslPort }.resumeActiveStreams false d.ports

def stopZSL (s : OpenCamera) (d : Answers) : Except Abort (Status × OpenCamera) := do
  if ¬ s.context.hasZslPort then .error .assertion
  else
    let c ← s.context.pauseAndFlushZSLQueue d.returned
    let s ← { s with context := c }.pauseActiveStreams d.paused
    let (ret, s) ← s.stopZslPort d
    if ret ≠ .noError then .ok (ret, s)
    else
      let s ← s.deleteSnapshotStream d
      return (.noError, ← s.removeZslPort d)

/-- An assertion on what `StartZSL` and `StopZSL` return. -/
def switched (type : SnapshotMode) (r : Except Abort (Status × OpenCamera)) :
    Except Abort OpenCamera := do
  let (ret, s) ← r
  if ret = .noError then .ok { s with context := s.context.withSnapshotType type }
  else .error .assertion

def switchZsl (s : OpenCamera) (t : ImageCapture.SnapshotType) (d : Answers) :
    Except Abort OpenCamera :=
  if s.streams.snapshotType ≠ .zsl ∧ t.type = .zsl then switched t.type (s.startZSL t d)
  else if s.streams.snapshotType = .zsl ∧ t.type ≠ .zsl then switched t.type (s.stopZSL d)
  else .ok s

def configImageCapture (s : OpenCamera) (config : ImageCapture.ImageConfigParam) (d : Answers) :
    Except Abort (Status × OpenCamera) := do
  if Context.validateCaptureConfig config ≠ .noError then .ok (.invalidOperation, s)
  else
    let c := s.context.withTags config
    match config.snapshotType with
    | none => .ok (.noError, { s with context := c })
    | some t =>
      if c.rawRefused t then .ok (.badValue, { s with context := c })
      else return (.noError, ← { s with context := c.withType t }.switchZsl t d)

def setUpCapture (s : OpenCamera) (param : SnapshotParam) (d : Answers) :
    Except Abort (Status × OpenCamera) := do
  let c := s.context
  if c.snapshot.snapshotType ≠ .zsl then
    let s := { s with context := c.remember param }
    if ¬ c.snapshot.reconfigureNeeded param then .ok (.noError, s)
    else if ¬ c.snapshot.staticMeta.validateResolution param.format param.width param.height then
      .ok (.badValue, s)
    else
      let p := getSnapshotStreamParams param
      let (ret, s) ← s.createSnapshotStream p false d
      if ret ≠ .noError then .ok (ret, s)
      else .ok (.noError, { s with context := s.context.storeParams param p })
  else if ¬ c.hasZslPort then .error .assertion
  else .ok (Context.validateCaptureParams c.zslPort param, s)

/-- The end of `CaptureImage` without a ZSL queue. -/
def submitCapture (s : OpenCamera) (size : Nat) (answer : Submitted) : Except Abort OpenCamera := do
  let continuous := decide (s.streams.snapshotType = .continuous)
  let submission := s.device.submitRequestList size continuous answer false
  let snapshot ← s.context.snapshot.submitCapture submission.1
  .ok { s.withSnapshot snapshot with device := submission.2 }

/-- `CaptureZSLImage`. Both kinds of request are submitted once, and a failure is no assertion. -/
def captureZSLImage (s : OpenCamera) (d : Answers) (late : Bool) :
    Except Abort (Status × OpenCamera) :=
  let c := s.context
  if ¬ c.hasZslPort then .error .assertion
  else
    let (stat, port) := c.zslPort.toZslPort.pickZSLBuffer
    let quality := [Int.ofNat c.snapshot.snapshotParam.quality.toUInt8.toNat]
    let request := c.snapshot.snapshotRequest
    let submission := s.device.submitRequestList 1 false d.ports.submitted late
    .ok (if submission.1.requestId < 0 then .unknownError else .noError,
      { context :=
          { c with
            zslPort := { c.zslPort with toZslPort := port }
            snapshot := { c.snapshot with
              snapshotRequest :=
                if stat = .noError then request
                else { request with
                  metadata := request.metadata.insert SnapshotContext.jpegQuality quality } } }
        device := submission.2 })

def captureImage (s : OpenCamera) (numImages : Nat) (metadata : List RequestMetadata) (d : Answers)
    (late : Bool) : Except Abort (Status × OpenCamera) := do
  let c := s.context.snapshot
  if c.streamIds.isEmpty then .ok (.badValue, s)
  else if c.continuousModeIsOn then .ok (.noError, s)
  else if c.snapshotType = .zsl then s.captureZSLImage d late
  else
    let continuous := decide (c.snapshotType = .continuous)
    let start : CaptureLoop :=
      { ctx := { c with continuousModeIsOn := continuous }, metadata := metadata }
    let l ← (List.replicate (if continuous then 1 else numImages) ()).foldlM
      (fun l _ => SnapshotContext.nextImage l) start
    let s ← (s.withSnapshot l.ctx).submitCapture l.requests.length d.ports.submitted
    return (.noError, ← s.resumeActiveStreams continuous d.ports)

def cancelCaptureImage (s : OpenCamera) (d : Answers) : Except Abort (Status × OpenCamera) := do
  if s.streams.snapshotType = .zsl then return (.noError, ← switched .still (s.stopZSL d))
  else if s.context.snapshot.streamIds.isEmpty then .ok (.noError, s)
  else
    let s := s.withSnapshot { s.context.snapshot with continuousModeIsOn := false }
    let s ← s.pauseActiveStreams d.snapshot.flushed
    let s ← s.deleteSnapshotStream d
    return (.noError, ← s.resumeActiveStreams false d.ports)

/-- The callbacks of the ZSL port; the buffers that it lets go are given back. -/
def zslCallback (s : OpenCamera) (r : ZslPort → ZslPort × List StreamBuffer) : OpenCamera :=
  if s.context.hasZslPort then
    let (port, buffers) := r s.context.zslPort.toZslPort
    let s := s.withStreams (buffers.foldl
      (fun ctx b => ctx.returnStreamBuffer b.streamId (Int.ofNat b.frameNumber.toNat)) s.streams)
    { s with context := { s.context with zslPort := { s.context.zslPort with toZslPort := port } } }
  else s

/-- For its own id, and with the device still there. The check of the streaming request comes after
the snapshot streams are gone. -/
def closeCamera (s : OpenCamera) (d : Answers) (idle : Bool) : Except Abort (Status × OpenCamera) := do
  let s ← s.deleteSnapshotStream d
  if 0 < s.streams.streamingRequestId then .ok (.invalidOperation, s)
  else if ¬ idle then .error .assertion
  else
    .ok (.noError,
      { s.withStreams { s.streams with lastFrameNumber := noInFlightRepeatingFrames } with
        device := {} })

inductive CameraCall where
  | createStream (param : CameraContext.StreamParam) (d : CameraContext.Creation) (returned : Bool)
  | deleteStream (trackId : UInt32) (d : Answers)
  | setConsumers (trackId : UInt32) (consumers : Nat)
  | startStream (trackId : UInt32) (answer : Submitted) (flushed : Bool)
  | stopStream (trackId : UInt32) (answer : Submitted) (flushed : Bool)
  | pauseStream (trackId : UInt32)
  | resumeStream (trackId : UInt32)
  | setCameraParam (metadata : RequestMetadata) (answer : Submitted)
  | configImageCapture (config : ImageCapture.ImageConfigParam) (d : Answers)
  | setUpCapture (param : SnapshotParam) (d : Answers)
  | captureImage (numImages : Nat) (metadata : List RequestMetadata) (d : Answers) (late : Bool)
  | cancelCaptureImage (d : Answers)
  | returnStreamBuffer (streamId frameNumber : Int)
  | zslCapture (buffer junk : StreamBuffer)
  | zslResult (metadata : ResultMetadata)
  | zslInputReturned (buffer : StreamBuffer)
  | closeCamera (d : Answers) (idle : Bool)

def CameraCall.isClose : CameraCall → Bool
  | .closeCamera _ _ => true
  | _ => false

def call (s : OpenCamera) : CameraCall → Except Abort (Status × OpenCamera)
  | .createStream param d returned => s.createStream param d returned
  | .deleteStream trackId d => s.deleteStream trackId d
  | .setConsumers trackId consumers =>
    .ok (.noError, s.withStreams (s.streams.setConsumers trackId consumers))
  | .startStream trackId answer flushed => s.startStream trackId answer flushed
  | .stopStream trackId answer flushed => s.stopStream trackId answer flushed
  | .pauseStream trackId => do
    let (ret, streams) ← s.streams.pauseStream trackId
    .ok (ret, s.withStreams streams)
  | .resumeStream trackId => do
    let (ret, streams) ← s.streams.resumeStream trackId
    .ok (ret, s.withStreams streams)
  | .setCameraParam metadata answer => s.setCameraParam metadata answer
  | .configImageCapture config d => s.configImageCapture config d
  | .setUpCapture param d => s.setUpCapture param d
  | .captureImage numImages metadata d late => s.captureImage numImages metadata d late
  | .cancelCaptureImage d => s.cancelCaptureImage d
  | .returnStreamBuffer streamId frameNumber =>
    .ok (.noError, s.withStreams (s.streams.returnStreamBuffer streamId frameNumber))
  | .zslCapture buffer junk => .ok (.noError, s.zslCallback (·.zslCaptureCallback buffer junk))
  | .zslResult metadata => .ok (.noError, s.zslCallback (·.handleZSLCaptureResult metadata))
  | .zslInputReturned buffer => .ok (.noError, s.zslCallback (·.returnZSLInputBuffer buffer))
  | .closeCamera d idle => s.closeCamera d idle

/-- `none` is a call that fails an assertion, or that closes the camera. -/
def step (s : OpenCamera) (a : CameraCall) : Option OpenCamera :=
  match s.call a with
  | .ok (ret, t) => if a.isClose ∧ ret = .noError then none else some t
  | .error _ => none

def lts : LTS OpenCamera CameraCall := .ofStep step

/-- After `OpenCamera`. -/
def init (config : CameraConfig) (staticMeta : StaticMeta) (inputSupported : Bool)
    (supportedFps : List Int) (frameRate : ℚ) : OpenCamera where
  context :=
    { snapshot := { streams := { config := config }, staticMeta := staticMeta }
      inputSupported := inputSupported
      supportedFps := supportedFps
      frameRate := frameRate }

section Streams

variable {s t : OpenCamera} {a : CameraCall} {st : Status} {answer : Submitted} {flushed : Bool}
  {trackId : UInt32} {port : CameraPort}

end Streams

end OpenCamera

end QmmfSdk.Streams
