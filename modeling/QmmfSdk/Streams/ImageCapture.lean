import QmmfSdk.Streams.Removals
import QmmfSdk.Streams.Snapshot
import QmmfSdk.Streams.ZslQueue

/-! `CameraSource::ConfigImageCapture` and what it calls: the tags of a configuration, the ZSL queue
that goes on and off with the snapshot type, and the streams that are made and deleted for it. -/
namespace QmmfSdk.Streams.ImageCapture

open Library (OrdMap)
open Recorder (IdMap Status Abort SnapshotMode BufferFormat)
open SnapshotContext (CaptureAnswers getSnapshotStreamParams)

inductive ImageFormat where
  | jpeg
  | nv12
  | nv21
  | bayerIdeal
  | bayerRDI8BIT
  | bayerRDI10BIT
  | bayerRDI12BIT
  | bayerRDI16BIT
  | nv12Encodable
  deriving DecidableEq, Repr

def fromImageToQmmfFormat : ImageFormat → BufferFormat
  | .jpeg => .blob
  | .nv12 => .nv12
  | .nv21 => .nv21
  | .bayerRDI8BIT => .raw8
  | .bayerRDI10BIT => .raw10
  | .bayerRDI12BIT => .raw12
  | .bayerRDI16BIT => .raw16
  | .nv12Encodable => .nv12Encodable
  | .bayerIdeal => .unsupported

def fromHalToQmmfFormat : HalFormat → BufferFormat
  | .blob => .blob
  | .implementationDefined => .nv12
  | .ycbcr420888 => .nv21
  | .ycbcr422888 => .nv16
  | .raw8 => .raw8
  | .raw10 => .raw10
  | .raw12 => .raw12
  | .raw16 => .raw16
  | .rgb888 | .invalid => .unsupported

structure ImageParam where
  width : UInt32 := 0
  height : UInt32 := 0
  imageQuality : UInt32 := 95
  imageFormat : ImageFormat := .jpeg
  deriving DecidableEq, Repr

def ImageParam.toSnapshotParam (p : ImageParam) : SnapshotParam where
  width := p.width
  height := p.height
  quality := p.imageQuality
  format := fromImageToQmmfFormat p.imageFormat

structure ImageThumbnail where
  width : UInt32 := 0
  height : UInt32 := 0
  quality : UInt32 := 75
  deriving DecidableEq, Repr

/-- Of the ZSL queue's parameters only the depth is more than logged. -/
structure SnapshotType where
  type : SnapshotMode := .video
  rawFormat : ImageFormat := .bayerRDI10BIT
  queueDepth : UInt32 := 4
  zslImageParam : ImageParam := {}
  deriving DecidableEq, Repr

/-- The tags of a configuration: thumbnails have an entry each, and none means no tag. -/
structure ImageConfigParam where
  thumbnails : List ImageThumbnail := []
  exif : Option Bool := none
  jpegInputFormat : Option BufferFormat := none
  snapshotType : Option SnapshotType := none
  deriving DecidableEq, Repr

/-- A `ZslPort` with the parameters that it was made with; what is common to all ports is in
`activePorts`. -/
structure ZslSource extends ZslPort where
  width : UInt32 := 0
  height : UInt32 := 0
  inputStreamId : Int := -1

def zslPortId : UInt32 := 0x100

/-- `zslPort` is about the port under `zslPortId`, as long as there is one. -/
structure Context where
  snapshot : SnapshotContext
  thumbnails : List ImageThumbnail := []
  exifEn : Bool := true
  inputSupported : Bool := true
  supportedFps : List Int := [30]
  frameRate : ℚ := 30
  zslPort : ZslSource := { cameraStreamId := -1, zslQueueDepth := 0, zslRunning := false }

/-- The device's answers during one call. All but the creations are asserted to be good ones, also
`submitted` and `resumed`, which are ids of requests. -/
structure Answers where
  paused : Bool := true
  snapshot : Configuration := {}
  returned : Bool := true
  cancelled : Bool := true
  reconfigured : Bool := true
  resubmitted : Int := 0
  defaultRequest : Option RequestMetadata := some ∅
  zslConfigured : Bool := true
  zslCreated : Bool := true
  inputCreated : Bool := true
  ports : CaptureAnswers :=
    { submitted := ⟨0, -1⟩, resumed := fun _ => ⟨0, -1⟩, flushed := fun _ => true }

namespace Context

def streams (c : Context) : CameraContext := c.snapshot.streams

def withStreams (c : Context) (streams : CameraContext) : Context :=
  { c with snapshot := { c.snapshot with streams := streams } }

def hasZslPort (c : Context) : Bool := c.streams.activePorts.contains zslPortId

/-- The functions that make and delete streams have a branch for this. -/
def zslMode (c : Context) : Bool := decide (c.snapshot.snapshotType = .zsl) && c.hasZslPort

def isRunning (c : Context) : Bool := c.zslPort.zslRunning && decide (0 ≤ c.zslPort.cameraStreamId)

def resumeZSL (c : Context) : Context :=
  { c with zslPort := { c.zslPort with toZslPort := c.zslPort.toZslPort.resumeZSL } }

/-- The queue is empty, and its buffers are with the device. -/
def flushed (c : Context) : Context :=
  let (port, buffers) := c.zslPort.toZslPort.pauseAndFlushZSLQueue
  { c.withStreams (buffers.foldl
      (fun ctx b => ctx.returnStreamBuffer b.streamId (Int.ofNat b.frameNumber.toNat)) c.streams) with
    zslPort := { c.zslPort with toZslPort := port } }

/-- `ReturnStreamBuffer` is asserted to succeed, and so the queue's status is always `NO_ERROR`. -/
def pauseAndFlushZSLQueue (c : Context) (returned : Bool) : Except Abort Context :=
  if ¬ c.zslPort.toZslPort.pauseAndFlushZSLQueue.2.isEmpty ∧ ¬ returned then .error .assertion
  else .ok c.flushed

def pauseActiveStreams (c : Context) (flushed : Bool) : Except Abort Context := do
  let (_, streams) ← c.streams.pauseActiveStreams flushed
  .ok (c.withStreams streams)

def resumeActiveStreams (c : Context) (d : CaptureAnswers) : Except Abort Context := do
  let (_, streams) ← c.streams.resumeActiveStreams false d.resumed d.flushed
  .ok (c.withStreams streams)

def quietZsl (c : Context) (returned : Bool) : Except Abort Context :=
  if c.zslMode ∧ c.isRunning then c.pauseAndFlushZSLQueue returned else .ok c

def newStream (c : Context) (cache : Bool) : Context :=
  let c := c.withStreams { c.streams with nextStreamId := c.streams.nextStreamId + 1 }
  if c.zslMode ∧ ¬ cache then c.resumeZSL else c

/-- The id of the stream, `none` when the device refuses it. A running request needs no configuration
of its own, and neither does a cached one. -/
def createDeviceStream (c : Context) (cache configured created returned : Bool) :
    Except Abort (Option Int × Context) := do
  let c ← c.quietZsl returned
  if c.streams.streamingRequestId < 0 ∧ ¬ cache ∧ ¬ configured then .error .assertion
  else if created then .ok (some c.streams.nextStreamId, c.newStream cache)
  else .ok (none, c)

/-- It is cached wherever it is used. -/
def createDeviceInputStream (c : Context) (created : Bool) : Option Int × Context :=
  if created then
    (some c.streams.nextStreamId,
      c.withStreams { c.streams with nextStreamId := c.streams.nextStreamId + 1 })
  else (none, c)

/-- The streaming request is cancelled for a deletion, and submitted again after it. -/
def interrupts (c : Context) : Bool :=
  decide (0 ≤ c.streams.streamingRequestId) && c.isRunning

def forgetStream (c : Context) (streamId : Int) : Context :=
  { c with snapshot := { c.snapshot with liveStreams := c.snapshot.liveStreams.erase streamId } }

def cancelRequest (c : Context) (cancelled : Bool) : Except Abort Context := do
  let (_, streams) ← c.streams.cancelRequest cancelled
  .ok (c.withStreams streams)

/-- The first request is submitted, without a look at whether there is one. -/
def resubmit (c : Context) (requestId : Int) : Except Abort Context :=
  if c.streams.streamingActiveRequests.isEmpty ∨ requestId < 0 then .error .assertion
  else .ok (c.withStreams { c.streams with streamingRequestId := requestId })

def deleteDeviceStream (d : Answers) (c : Context) (streamId : Int) : Except Abort Context := do
  if ¬ c.zslMode then
    if ¬ d.snapshot.deleted then .error .assertion else .ok (c.forgetStream streamId)
  else if c.interrupts then
    let c ← c.pauseAndFlushZSLQueue d.returned
    let c ← c.cancelRequest d.cancelled
    if ¬ d.reconfigured ∨ ¬ d.snapshot.deleted then .error .assertion
    else (c.forgetStream streamId).resumeZSL.resubmit d.resubmitted
  else if ¬ d.reconfigured ∨ ¬ d.snapshot.deleted then .error .assertion
  else .ok (c.forgetStream streamId).resumeZSL

/-- The end of `DeleteSnapshotStream`. -/
def forgetSnapshot (c : Context) : Context :=
  { c with snapshot := { c.snapshot with
      snapshotRequest := { c.snapshot.snapshotRequest with streamIds := [] }
      snapshotStreamParam := {}
      streams := { c.streams with snapshotType := .none, captureRequestId := -1 } } }

def deleteSnapshotStream (c : Context) (d : Answers) : Except Abort Context := do
  let c ← c.snapshot.streamIds.foldlM (deleteDeviceStream d) c
  .ok c.forgetSnapshot

def recordSnapshotStream (c : Context) (p : CameraStreamParameters) (streamId : Int) : Context :=
  { c with snapshot := { c.snapshot with
      liveStreams := c.snapshot.liveStreams.insert streamId p
      snapshotRequest := { c.snapshot.snapshotRequest with
        streamIds := c.snapshot.streamIds ++ [streamId] } } }

def addSnapshotStream (c : Context) (p : CameraStreamParameters) (cache created : Bool)
    (d : Answers) : Except Abort (Status × Context) := do
  match ← c.createDeviceStream cache d.snapshot.configured created d.returned with
  | (some streamId, c) => .ok (.noError, c.recordSnapshotStream p streamId)
  | (none, c) => .ok (.badValue, c)

/-- Of `CreateSnapshotStream`, for changed parameters. -/
def replaceSnapshotStream (c : Context) (p : CameraStreamParameters) (cache : Bool) (d : Answers) :
    Except Abort (Status × Context) := do
  let c ← c.pauseActiveStreams d.snapshot.flushed
  match c.snapshot.streamIds with
  | [] => c.addSnapshotStream p cache d.snapshot.created d
  | [_] => (← c.deleteSnapshotStream d).addSnapshotStream p cache d.snapshot.created d
  | _ :: _ :: _ => .ok (.badValue, c)

def mainSnapshotStream (c : Context) (p : CameraStreamParameters) (cache : Bool) (d : Answers) :
    Except Abort (Status × Context) :=
  if c.snapshot.isStreamParamsChanged p then c.replaceSnapshotStream p cache d else .ok (.noError, c)

def createSnapshotStream (c : Context) (p : CameraStreamParameters) (cache : Bool) (d : Answers) :
    Except Abort (Status × Context) := do
  let (ret, c) ← c.mainSnapshotStream p cache d
  if ret ≠ .noError then .ok (ret, c)
  else if plusRaw c.snapshot.snapshotType then
    c.addSnapshotStream (c.snapshot.rawStreamParam p) cache d.snapshot.rawCreated d
  else .ok (.noError, c)

/-- `static_cast<int32_t>` -/
def wholeRate (c : Context) : Int := c.frameRate.num.tdiv c.frameRate.den

/-- The first request with these tags, made if there is none. -/
def withZslRequest (c : Context) (metadata : RequestMetadata) : Context :=
  let requests :=
    if c.streams.streamingActiveRequests.isEmpty then [{}] else c.streams.streamingActiveRequests
  let metadata := metadata.insert aeTargetFpsRange [c.wholeRate, c.wholeRate]
  c.withStreams { c.streams with
    streamingActiveRequests := requests.modifyHead ({ · with metadata := metadata }) }

def createZslRequest (c : Context) (defaultRequest : Option RequestMetadata) :
    Except Abort Context :=
  match defaultRequest with
  | some metadata => .ok (c.withZslRequest metadata)
  | none => .error .assertion

/-- What `SetUpZSL` asks for before it makes a stream. -/
def zslAccepted (c : Context) (p : CameraStreamParameters) (queueDepth : UInt32) : Bool :=
  queueDepth ≠ 0 && c.wholeRate ∈ c.supportedFps &&
    c.snapshot.staticMeta.validateResolution (fromHalToQmmfFormat p.format) p.width p.height

/-- `ZslPort::Init` of a new port, `none` when it fails. -/
def initZslPort (c : Context) (p : CameraStreamParameters) (queueDepth : UInt32) (d : Answers) :
    Except Abort (Option ZslSource × Context) := do
  if ¬ c.zslAccepted p queueDepth then .ok (none, c)
  else
    match ← c.createDeviceStream false d.zslConfigured d.zslCreated d.returned with
    | (none, c) => .ok (none, c)
    | (some cameraStreamId, c) =>
      match c.createDeviceInputStream d.inputCreated with
      | (none, c) => .ok (none, c)
      | (some inputStreamId, c) =>
        .ok (some
          { cameraStreamId := cameraStreamId, zslQueueDepth := queueDepth, width := p.width,
            height := p.height, inputStreamId := inputStreamId }, c)

/-- `emplace` leaves a port that is there already. The new one is then none of the ports when its
start updates the requests. -/
def startZslPort (c : Context) (zsl : ZslSource) (d : Answers) : Except Abort (Status × Context) := do
  if c.hasZslPort then
    let (ret, streams) ← c.streams.updateRequest d.ports.submitted d.cancelled
    .ok (ret, c.withStreams streams)
  else
    let port : CameraPort :=
      { cameraStreamId := zsl.cameraStreamId, batchSize := c.streams.batchSize,
        framerate := c.frameRate }
    let (ret, streams) ← (c.streams.setPort zslPortId port).startPort zslPortId port
      d.ports.submitted d.cancelled
    .ok (ret, { c with zslPort := zsl }.withStreams streams)

def withSnapshotParam (c : Context) (param : SnapshotParam) : Context :=
  { c with snapshot := { c.snapshot with snapshotParam := param } }

/-- The end of `StartZSL`. -/
def runZslPort (c : Context) (zsl : ZslSource) (d : Answers) : Except Abort (Status × Context) := do
  let (ret, c) ← c.startZslPort zsl d
  if ret ≠ .noError then .ok (ret, c) else return (.noError, ← c.resumeActiveStreams d.ports)

/-- `StartZSL` from where the snapshot stream is made. -/
def addZslPort (c : Context) (p : CameraStreamParameters) (queueDepth : UInt32) (d : Answers) :
    Except Abort (Status × Context) := do
  let c ← c.createZslRequest d.defaultRequest
  match ← c.initZslPort p queueDepth d with
  | (none, c) => .ok (.badValue, c)
  | (some zsl, c) => c.runZslPort zsl d

def startZSL (c : Context) (t : SnapshotType) (d : Answers) : Except Abort (Status × Context) := do
  if ¬ c.inputSupported then .ok (.badValue, c)
  else
    let p := getSnapshotStreamParams t.zslImageParam.toSnapshotParam
    let c ← (c.withSnapshotParam t.zslImageParam.toSnapshotParam).pauseActiveStreams d.paused
    let (ret, c) ← c.createSnapshotStream p true d
    if ret ≠ .noError then .ok (ret, c) else c.addZslPort p t.queueDepth d

/-- `ZslPort::DeInit` -/
def deInitZslPort (c : Context) (port : CameraPort) (d : Answers) : Except Abort Context := do
  let c ←
    if c.zslPort.inputStreamId ≠ -1 then deleteDeviceStream d c c.zslPort.inputStreamId else .ok c
  if port.readyToStart then .error .assertion else deleteDeviceStream d c port.cameraStreamId

/-- The port goes before the streams are resumed. -/
def eraseZslPort (c : Context) : Context :=
  c.withStreams { c.streams with activePorts := c.streams.activePorts.erase zslPortId }

def stopZslPort (c : Context) (d : Answers) : Except Abort (Status × Context) := do
  match c.streams.activePorts[zslPortId]? with
  | none => .error .assertion
  | some port =>
    let (ret, streams) ← c.streams.stopPort zslPortId port d.ports.submitted d.cancelled
    .ok (ret, c.withStreams streams)

/-- The end of `StopZSL`, with the port as it is by then. -/
def removeZslPort (c : Context) (d : Answers) : Except Abort Context := do
  match c.streams.activePorts[zslPortId]? with
  | none => .error .assertion
  | some port => (← c.deInitZslPort port d).eraseZslPort.resumeActiveStreams d.ports

def stopZSL (c : Context) (d : Answers) : Except Abort (Status × Context) := do
  if ¬ c.hasZslPort then .error .assertion
  else
    let c ← c.pauseAndFlushZSLQueue d.returned
    let c ← c.pauseActiveStreams d.paused
    let (ret, c) ← c.stopZslPort d
    if ret ≠ .noError then .ok (ret, c)
    else
      let c ← c.deleteSnapshotStream d
      return (.noError, ← c.removeZslPort d)

def validateCaptureConfig (config : ImageConfigParam) : Status :=
  if config.exif = some false ∧ config.thumbnails ≠ [] then .invalidOperation else .noError

/-- The tags that are only remembered. -/
def withTags (c : Context) (config : ImageConfigParam) : Context :=
  { c with
    thumbnails := if config.thumbnails = [] then c.thumbnails else config.thumbnails
    exifEn := config.exif.getD c.exifEn
    snapshot := { c.snapshot with
      newJpegInputFormat := config.jpegInputFormat.getD c.snapshot.newJpegInputFormat } }

/-- The raw format of a type with raw images, which is checked for these only. -/
def rawRefused (c : Context) (t : SnapshotType) : Bool :=
  plusRaw t.type &&
    (!(fromQmmfToHalFormat (fromImageToQmmfFormat t.rawFormat)).isRaw ||
      !c.snapshot.staticMeta.streamFormat (fromImageToQmmfFormat t.rawFormat))

def withType (c : Context) (t : SnapshotType) : Context :=
  { c with snapshot := { c.snapshot with
      rawSnapshotFormat :=
        if plusRaw t.type then fromImageToQmmfFormat t.rawFormat else c.snapshot.rawSnapshotFormat
      newSnapshotType := t.type } }

def withSnapshotType (c : Context) (type : SnapshotMode) : Context :=
  c.withStreams { c.streams with snapshotType := type }

/-- An assertion on what `StartZSL` and `StopZSL` return. -/
def asserted (type : SnapshotMode) (r : Except Abort (Status × Context)) : Except Abort Context := do
  let (ret, c) ← r
  if ret = .noError then .ok (c.withSnapshotType type) else .error .assertion

def switchZsl (c : Context) (t : SnapshotType) (d : Answers) : Except Abort Context :=
  if c.snapshot.snapshotType ≠ .zsl ∧ t.type = .zsl then asserted t.type (c.startZSL t d)
  else if c.snapshot.snapshotType = .zsl ∧ t.type ≠ .zsl then asserted t.type (c.stopZSL d)
  else .ok c

def configImageCapture (c : Context) (config : ImageConfigParam) (d : Answers) :
    Except Abort (Status × Context) := do
  if validateCaptureConfig config ≠ .noError then .ok (.invalidOperation, c)
  else
    let c := c.withTags config
    match config.snapshotType with
    | none => .ok (.noError, c)
    | some t =>
      if c.rawRefused t then .ok (.badValue, c)
      else return (.noError, ← (c.withType t).switchZsl t d)

/-- `ZslPort::ValidateCaptureParams` -/
def validateCaptureParams (zsl : ZslSource) (param : SnapshotParam) : Status :=
  if param.format ≠ .blob then .badValue
  else if param.width ≠ zsl.width ∨ param.height ≠ zsl.height then .badValue
  else .noError

def remember (c : Context) (param : SnapshotParam) : Context :=
  { c with snapshot := c.snapshot.remember param }

/-- The configuration of the streams that were made. -/
def storeParams (c : Context) (param : SnapshotParam) (p : CameraStreamParameters) : Context :=
  { c with snapshot := { c.snapshot with snapshotParam := param, snapshotStreamParam := p } }

def setUpCapture (c : Context) (param : SnapshotParam) (d : Answers) :
    Except Abort (Status × Context) := do
  if c.snapshot.snapshotType ≠ .zsl then
    if ¬ c.snapshot.reconfigureNeeded param then .ok (.noError, c.remember param)
    else if ¬ c.snapshot.staticMeta.validateResolution param.format param.width param.height then
      .ok (.badValue, c.remember param)
    else
      let p := getSnapshotStreamParams param
      let (ret, c) ← (c.remember param).createSnapshotStream p false d
      if ret ≠ .noError then .ok (ret, c) else .ok (.noError, c.storeParams param p)
  else if ¬ c.hasZslPort then .error .assertion
  else .ok (validateCaptureParams c.zslPort param, c)

/-- What `CameraSource::ConfigImageCapture` does with a camera that it knows. -/
def configure (c : Context) (param : ImageParam) (config : ImageConfigParam) (d : Answers) :
    Except Abort (Status × Context) := do
  let (ret, c) ← c.configImageCapture config d
  if ret ≠ .noError then .ok (ret, c) else c.setUpCapture param.toSnapshotParam d

end Context

structure CameraSource where
  cameraMap : IdMap Context

def CameraSource.configImageCapture (src : CameraSource) (cameraId : UInt32) (param : ImageParam)
    (config : ImageConfigParam) (d : Answers) : Except Abort (Status × CameraSource) := do
  match src.cameraMap[cameraId]? with
  | none => .ok (.badValue, src)
  | some c =>
    let (ret, c) ← c.configure param config d
    .ok (ret, { src with cameraMap := src.cameraMap.insert cameraId c })

end QmmfSdk.Streams.ImageCapture
