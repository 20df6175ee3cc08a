import Mathlib.Data.Finset.Insert
import QmmfSdk.Streams.Context

/-! The snapshot side of `CameraContext` without a ZSL queue: its configuration, the device streams
made for it, and the captures that use them. -/
namespace QmmfSdk.Streams

open Library (OrdMap)
open Recorder (Status Abort SnapshotMode BufferFormat)

/-- The pixel formats of the device; `invalid` is -1. -/
inductive HalFormat where
  | invalid
  | rgb888
  | blob
  | implementationDefined
  | ycbcr420888
  | ycbcr422888
  | raw8
  | raw10
  | raw12
  | raw16
  deriving DecidableEq, Repr

def HalFormat.isRaw : HalFormat → Bool
  | .raw8 | .raw10 | .raw12 | .raw16 => true
  | _ => false

def fromQmmfToHalFormat : BufferFormat → HalFormat
  | .rgb => .rgb888
  | .blob => .blob
  | .nv12UBWC | .nv12 | .nv12Encodable => .implementationDefined
  | .nv21 => .ycbcr420888
  | .nv16 => .ycbcr422888
  | .raw8 => .raw8
  | .raw10 => .raw10
  | .raw12 => .raw12
  | .raw16 => .raw16
  | .unsupported => .invalid

/-- Flags of `IMemAllocUsage`. -/
inductive AllocUsage where
  | swWriteOften
  | swReadOften
  | videoEncoder
  deriving DecidableEq, Repr

structure CameraStreamParameters where
  width : UInt32 := 0
  height : UInt32 := 0
  format : HalFormat := .invalid
  allocFlags : Finset AllocUsage := ∅
  bufferCount : Nat := 0
  deriving DecidableEq

def maxSnapshotBufferCount : Nat := 15

structure SnapshotParam where
  width : UInt32 := 0
  height : UInt32 := 0
  quality : UInt32 := 95
  format : BufferFormat := .blob
  deriving DecidableEq, Repr

/-- What the static metadata of the camera say about streams. -/
structure StaticMeta where
  rawSize : UInt32 → UInt32 → Bool
  processedSize : UInt32 → UInt32 → Bool
  jpegSize : UInt32 → UInt32 → Bool
  streamFormat : BufferFormat → Bool
  maxSupportedCameraRes : BufferFormat → UInt32 × UInt32

/-- An unsupported format gives `BAD_TYPE`, which is true as a `bool`. -/
def StaticMeta.validateResolution (m : StaticMeta) (format : BufferFormat) (width height : UInt32) :
    Bool :=
  match format with
  | .raw8 | .raw10 | .raw12 | .raw16 => m.rawSize width height
  | .nv12 | .nv12Encodable | .nv12UBWC | .nv21 | .nv16 | .rgb => m.processedSize width height
  | .blob => m.jpegSize width height
  | .unsupported => true

structure SnapshotType where
  type : SnapshotMode := .video
  rawFormat : BufferFormat := .raw10
  deriving DecidableEq, Repr

/-- The tags of an `ImageConfigParam`; `exif` is the flag in its tag. -/
structure ImageConfigParam where
  thumbnail : Bool := false
  exif : Option Bool := none
  jpegInputFormat : Option BufferFormat := none
  snapshotType : Option SnapshotType := none
  deriving DecidableEq, Repr

/-- `liveStreams` are those of the device's streams that were made for snapshots. -/
structure SnapshotContext where
  streams : CameraContext
  staticMeta : StaticMeta
  snapshotRequest : Camera3Request := {}
  snapshotParam : SnapshotParam := {}
  snapshotStreamParam : CameraStreamParameters := {}
  newSnapshotType : SnapshotMode := .video
  rawSnapshotFormat : BufferFormat := .raw10
  jpegInputFormat : BufferFormat := .unsupported
  newJpegInputFormat : BufferFormat := .unsupported
  continuousModeIsOn : Bool := false
  liveStreams : OrdMap Int CameraStreamParameters := ∅

/-- The device's answers during one configuration; all but the creations are asserted to succeed. -/
structure Configuration where
  flushed : Bool := true
  deleted : Bool := true
  configured : Bool := true
  created : Bool := true
  rawCreated : Bool := true
  deriving DecidableEq

def plusRaw : SnapshotMode → Bool
  | .stillPlusRaw | .videoPlusRaw => true
  | _ => false

namespace SnapshotContext

def snapshotType (c : SnapshotContext) : SnapshotMode := c.streams.snapshotType

def streamIds (c : SnapshotContext) : List Int := c.snapshotRequest.streamIds

def validateCaptureConfig (config : ImageConfigParam) : Status :=
  if config.exif = some false ∧ config.thumbnail then .invalidOperation else .noError

/-- For a snapshot type that is not ZSL. -/
def configImageCapture (c : SnapshotContext) (config : ImageConfigParam) : Status × SnapshotContext :=
  if validateCaptureConfig config ≠ .noError then (.invalidOperation, c)
  else
    let c := { c with newJpegInputFormat := config.jpegInputFormat.getD c.newJpegInputFormat }
    match config.snapshotType with
    | none => (.noError, c)
    | some t =>
      if plusRaw t.type then
        if ¬ (fromQmmfToHalFormat t.rawFormat).isRaw ∨ ¬ c.staticMeta.streamFormat t.rawFormat then
          (.badValue, c)
        else (.noError, { c with rawSnapshotFormat := t.rawFormat, newSnapshotType := t.type })
      else (.noError, { c with newSnapshotType := t.type })

/-- `GetSnapshotStreamParams`, which does not look at the quality. -/
def getSnapshotStreamParams (param : SnapshotParam) : CameraStreamParameters where
  width := param.width
  height := param.height
  format := fromQmmfToHalFormat param.format
  allocFlags :=
    if param.format = .nv12Encodable then {.swWriteOften, .swReadOften, .videoEncoder}
    else {.swWriteOften, .swReadOften}
  bufferCount := maxSnapshotBufferCount

def isStreamParamsChanged (c : SnapshotContext) (p : CameraStreamParameters) : Bool :=
  p.format ≠ c.snapshotStreamParam.format || p.width ≠ c.snapshotStreamParam.width ||
    p.height ≠ c.snapshotStreamParam.height ||
    c.snapshotStreamParam.bufferCount < p.bufferCount ||
    p.allocFlags ≠ c.snapshotStreamParam.allocFlags

def isNeedReconfigSnapshotStream (c : SnapshotContext) : Bool :=
  if c.snapshotType = c.newSnapshotType then false
  else plusRaw c.newSnapshotType || plusRaw c.snapshotType

def pauseActiveStreams (c : SnapshotContext) (flushed : Bool) : Except Abort SnapshotContext := do
  let (_, streams) ← c.streams.pauseActiveStreams flushed
  .ok { c with streams := streams }

/-- `DeleteDeviceStream` is asserted to succeed. -/
def deleteSnapshotStream (c : SnapshotContext) (deleted : Bool) : Except Abort SnapshotContext :=
  if c.streamIds ≠ [] ∧ ¬ deleted then .error .assertion
  else
    .ok { c with
      liveStreams := c.streamIds.foldl .erase c.liveStreams
      snapshotRequest := { c.snapshotRequest with streamIds := [] }
      snapshotStreamParam := {}
      streams := { c.streams with snapshotType := .none, captureRequestId := -1 } }

/-- `CreateDeviceStream`; its stream goes into the snapshot request. -/
def addSnapshotStream (c : SnapshotContext) (p : CameraStreamParameters) (configured created : Bool) :
    Except Abort (Status × SnapshotContext) :=
  if c.streams.streamingRequestId < 0 ∧ ¬ configured then .error .assertion
  else if created then
    .ok (.noError,
      { c with
        streams := { c.streams with nextStreamId := c.streams.nextStreamId + 1 }
        liveStreams := c.liveStreams.insert c.streams.nextStreamId p
        snapshotRequest := { c.snapshotRequest with
          streamIds := c.streamIds ++ [c.streams.nextStreamId] } })
  else .ok (.badValue, c)

/-- Of `CreateSnapshotStream`, for changed parameters. -/
def replaceSnapshotStream (c : SnapshotContext) (p : CameraStreamParameters) (d : Configuration) :
    Except Abort (Status × SnapshotContext) := do
  let c ← c.pauseActiveStreams d.flushed
  match c.streamIds with
  | [] => c.addSnapshotStream p d.configured d.created
  | [_] => (← c.deleteSnapshotStream d.deleted).addSnapshotStream p d.configured d.created
  | _ :: _ :: _ => .ok (.badValue, c)

def rawStreamParam (c : SnapshotContext) (p : CameraStreamParameters) : CameraStreamParameters :=
  { p with
    format := fromQmmfToHalFormat c.rawSnapshotFormat
    width := (c.staticMeta.maxSupportedCameraRes c.rawSnapshotFormat).1
    height := (c.staticMeta.maxSupportedCameraRes c.rawSnapshotFormat).2
    allocFlags := {.swWriteOften, .swReadOften}
    bufferCount := maxSnapshotBufferCount }

def mainSnapshotStream (c : SnapshotContext) (p : CameraStreamParameters) (d : Configuration) :
    Except Abort (Status × SnapshotContext) :=
  if c.isStreamParamsChanged p then c.replaceSnapshotStream p d else .ok (.noError, c)

def createSnapshotStream (c : SnapshotContext) (p : CameraStreamParameters) (d : Configuration) :
    Except Abort (Status × SnapshotContext) := do
  let (ret, c) ← c.mainSnapshotStream p d
  if ret ≠ .noError then .ok (ret, c)
  else if plusRaw c.snapshotType then
    c.addSnapshotStream (c.rawStreamParam p) d.configured d.rawCreated
  else .ok (.noError, c)

def reconfigureNeeded (c : SnapshotContext) (param : SnapshotParam) : Bool :=
  c.streamIds.isEmpty || c.snapshotParam.width ≠ param.width ||
    c.snapshotParam.height ≠ param.height || c.isNeedReconfigSnapshotStream ||
    c.jpegInputFormat ≠ c.newJpegInputFormat || c.snapshotParam.format ≠ param.format

/-- The configuration as it is remembered before the device is asked for anything. -/
def remember (c : SnapshotContext) (param : SnapshotParam) : SnapshotContext :=
  { c with
    snapshotParam := param
    streams := { c.streams with snapshotType := c.newSnapshotType }
    jpegInputFormat := c.newJpegInputFormat }

/-- The wait for the exposure to converge changes nothing. -/
def setUpCapture (c : SnapshotContext) (param : SnapshotParam) (d : Configuration) :
    Except Abort (Status × SnapshotContext) := do
  if ¬ c.reconfigureNeeded param then .ok (.noError, c.remember param)
  else if ¬ c.staticMeta.validateResolution param.format param.width param.height then
    .ok (.badValue, c.remember param)
  else
    let p := getSnapshotStreamParams param
    let (ret, c) ← (c.remember param).createSnapshotStream p d
    if ret ≠ .noError then .ok (ret, c)
    else .ok (.noError, { c with snapshotParam := param, snapshotStreamParam := p })

/-- `ANDROID_JPEG_QUALITY` -/
def jpegQuality : UInt32 := 0x70004

/-- The local variables of `CaptureImage` in its loop over the images. -/
structure CaptureLoop where
  ctx : SnapshotContext
  metadata : List RequestMetadata
  requests : List Camera3Request := []

/-- The tags of the next image: those of the streams for a snapshot of a video, else the next given
ones, else those of the image before. -/
def nextMetadata (l : CaptureLoop) : RequestMetadata × List RequestMetadata :=
  let first := (l.ctx.streams.streamingActiveRequests.head?.map Camera3Request.metadata).getD ∅
  if ¬ first.isEmpty ∧ (l.ctx.snapshotType = .video ∨ l.ctx.snapshotType = .videoPlusRaw) then
    (first, l.metadata)
  else
    match l.metadata with
    | m :: rest => (m, rest)
    | [] => (l.ctx.snapshotRequest.metadata, [])

/-- The streams that go with the snapshot; those that were paused are back in their request. -/
def activeStreams (streams : CameraContext) : Except Abort (List Int × CameraContext) :=
  match streams.streamingActiveRequests with
  | [r] =>
    if streams.portPaused then
      if r.streamIds = [] then
        .ok (streams.stoppedStreamIds.toList,
          { streams with
            streamingActiveRequests := [{ r with streamIds := streams.stoppedStreamIds.toList }]
            portPaused := false })
      else .error .assertion
    else .ok (r.streamIds, streams)
  | _ => .ok ([], streams)

def imageStreams (c : SnapshotContext) : Except Abort (List Int × CameraContext) :=
  if c.snapshotType = .video ∨ c.snapshotType = .continuous ∨ c.snapshotType = .videoPlusRaw then
    activeStreams c.streams
  else .ok ([], c.streams)

def nextImage (l : CaptureLoop) : Except Abort CaptureLoop := do
  let next := nextMetadata l
  let metadata := next.1.insert jpegQuality [Int.ofNat l.ctx.snapshotParam.quality.toUInt8.toNat]
  let (active, streams) ← l.ctx.imageStreams
  let request : Camera3Request :=
    { metadata := metadata, streamIds := l.ctx.streamIds ++ active }
  .ok
    { ctx := { l.ctx with
        streams := streams
        snapshotRequest := { request with
          streamIds := request.streamIds.take (request.streamIds.length - active.length) } }
      metadata := next.2
      requests := l.requests ++ [request] }

/-- The id of a continuous capture is that of a streaming request. -/
def submitCapture (c : SnapshotContext) (submitted : Submitted) : Except Abort SnapshotContext :=
  if submitted.requestId < 0 then .error .assertion
  else
    let last :=
      if submitted.lastFrameNumber ≠ noInFlightRepeatingFrames then submitted.lastFrameNumber
      else c.streams.lastFrameNumber
    .ok { c with
      streams :=
        if c.snapshotType = .continuous then
          { c.streams with lastFrameNumber := last, streamingRequestId := submitted.requestId }
        else { c.streams with lastFrameNumber := last, captureRequestId := submitted.requestId } }

/-- The device's answers to a capture, and to the updates of the ports that start again after it. -/
structure CaptureAnswers where
  submitted : Submitted
  resumed : UInt32 → Submitted
  flushed : UInt32 → Bool

def resumeActiveStreams (c : SnapshotContext) (stateOnly : Bool) (d : CaptureAnswers) :
    Except Abort SnapshotContext := do
  let (_, streams) ← c.streams.resumeActiveStreams stateOnly d.resumed d.flushed
  .ok { c with streams := streams }

def captureImage (c : SnapshotContext) (numImages : Nat) (metadata : List RequestMetadata)
    (d : CaptureAnswers) : Except Abort (Status × SnapshotContext) := do
  if c.streamIds.isEmpty then .ok (.badValue, c)
  else if c.continuousModeIsOn then .ok (.noError, c)
  else
    let continuous := c.snapshotType = .continuous
    let start : CaptureLoop :=
      { ctx := { c with continuousModeIsOn := continuous }, metadata := metadata }
    let l ← (List.replicate (if continuous then 1 else numImages) ()).foldlM
      (fun l _ => nextImage l) start
    let c ← l.ctx.submitCapture d.submitted
    return (.noError, ← c.resumeActiveStreams continuous d)

/-- `cancel_capture_` is for the callbacks. -/
def cancelCaptureImage (c : SnapshotContext) (d : Configuration) (answers : CaptureAnswers) :
    Except Abort (Status × SnapshotContext) := do
  if c.streamIds.isEmpty then .ok (.noError, c)
  else
    let c ← { c with continuousModeIsOn := false }.pauseActiveStreams d.flushed
    let c ← c.deleteSnapshotStream d.deleted
    return (.noError, ← c.resumeActiveStreams false answers)

end SnapshotContext

end QmmfSdk.Streams
