import QmmfSdk.Binder.Types
import QmmfSdk.Library.Fallible
import QmmfSdk.Recorder.Service

/-! `CameraSource` and the camera contexts that it opens: snapshots, camera parameters and the
sources of video tracks. -/
namespace QmmfSdk.Recorder

open Library (OrdMap)
open Binder (BnBuffer)

inductive SnapshotMode where
  | none
  | still
  | stillPlusRaw
  | video
  | continuous
  | zsl
  | videoPlusRaw
  deriving DecidableEq, Repr

inductive BufferFormat where
  | rgb
  | nv12
  | nv12UBWC
  | nv21
  | nv16
  | blob
  | raw8
  | raw10
  | raw12
  | raw16
  | nv12Encodable
  | unsupported
  deriving DecidableEq, Repr

/-- The tags of a `CameraMetadata` and their payloads. -/
abbrev CameraMetadata := List (UInt32 × List UInt8)

/-- Of the planes only the first one is read; `jpegSize` is what `GetJpegSize` finds in a blob. -/
structure StreamBuffer where
  fd : Int32
  metafd : Int32 := -1
  size : UInt32
  timestamp : UInt64 := 0
  streamId : Int32 := 0
  format : BufferFormat
  width : UInt32 := 0
  height : UInt32 := 0
  jpegSize : UInt32 := 0
  deriving DecidableEq, Repr

/-- A `CaptureImage` whose requests are with the device: who asked for it, at most how many images
are to come (`none` is a continuous capture), and whether it was cancelled since. -/
structure Capture where
  client : UInt32
  left : Option Nat
  cancelled : Bool := false
  deriving DecidableEq, Repr

/-- Of a `CameraContext`. `snapshotStreamIds` are those of `snapshot_request_`, and a streaming
request is its metadata. -/
structure CameraContext where
  snapshotType : SnapshotMode := .none
  snapshotStreamIds : List Int32 := []
  continuousModeIsOn : Bool := false
  cancelCapture : Bool := false
  captureCnt : UInt32 := 0
  captures : List Capture := []
  snapshotBufferList : OrdMap Int32 StreamBuffer := ∅
  snapshotBufferStreamList : OrdMap Int32 Int32 := ∅
  streaming : Bool := false
  streamingActiveRequests : List CameraMetadata := []
  batchSize : UInt32 := 1
  activePorts : IdMap VideoTrackCreateParam := ∅

namespace CameraContext

def submit (ctx : CameraContext) (client : UInt32) (left : Option Nat) : CameraContext :=
  { ctx with captures := ctx.captures ++ [{ client, left }] }

/-- `CaptureImage`; `submitted` says whether the device accepts the requests. It refuses an empty
list. -/
def captureImage (ctx : CameraContext) (client numImages : UInt32) (submitted : Bool) :
    Except Abort (Status × CameraContext) :=
  let ctx := { ctx with captureCnt := 0 }
  let streams := ctx.snapshotStreamIds.length
  if ctx.snapshotStreamIds = [] then .ok (.badValue, ctx)
  else if ctx.continuousModeIsOn then .ok (.noError, ctx)
  else
    match ctx.snapshotType with
    | .zsl =>
      if submitted then .ok (.noError, ctx.submit client (some streams))
      else .ok (.unknownError, ctx)
    | .continuous =>
      if submitted then
        .ok (.noError, submit { ctx with
          continuousModeIsOn := true, cancelCapture := false, streaming := true } client none)
      else .error .assertion
    | _ =>
      if submitted ∧ numImages ≠ 0 then
        .ok (.noError, submit { ctx with cancelCapture := false } client
          (some (numImages.toNat * streams)))
      else .error .assertion

/-- One image of a capture came or was lost. -/
def useUp (captures : List Capture) (i : Nat) : List Capture :=
  match captures[i]? with
  | some ⟨client, some n, cancelled⟩ =>
    if n ≤ 1 then captures.eraseIdx i else captures.set i ⟨client, some (n - 1), cancelled⟩
  | _ => captures

/-- `ConfigImageCapture` and `SetUpCapture` by what they leave behind: any status, mode and
streams. -/
def configImageCapture (ctx : CameraContext) (st : Status) (mode : SnapshotMode)
    (streamIds : List Int32) : Status × CameraContext :=
  (st, { ctx with snapshotType := mode, snapshotStreamIds := streamIds })

/-- `stopped` says whether the port of a ZSL capture could be stopped. In the other modes all that
is under way is cancelled. -/
def cancelCaptureImage (ctx : CameraContext) (stopped : Bool) :
    Except Abort (Status × CameraContext) :=
  if ctx.snapshotType = .zsl then
    if stopped then
      .ok (.noError, { ctx with snapshotType := .still, snapshotStreamIds := [] })
    else .error .assertion
  else if ctx.snapshotStreamIds ≠ [] then
    .ok (.noError, { ctx with cancelCapture := true
                              captures := ctx.captures.map fun c => { c with cancelled := true }
                              continuousModeIsOn := false
                              snapshotStreamIds := []
                              snapshotType := .none })
  else .ok (.noError, ctx)

/-- `returned` says whether the device takes the buffer back. -/
def returnImageCaptureBuffer (ctx : CameraContext) (bufferId : Int32) (returned : Bool) :
    Except Abort (Status × CameraContext) :=
  match ctx.snapshotBufferList[bufferId]? with
  | none => .ok (.badValue, ctx)
  | some buffer =>
    if buffer.fd ≠ bufferId then .error .assertion
    else if bufferId ∉ ctx.snapshotBufferStreamList then .ok (.badValue, ctx)
    else if !returned then .error .assertion
    else .ok (.noError, { ctx with
      snapshotBufferList := ctx.snapshotBufferList.erase bufferId
      snapshotBufferStreamList := ctx.snapshotBufferStreamList.erase bufferId })

/-- `SetCameraParam`, which submits the requests again while the camera streams. -/
def setCameraParam (ctx : CameraContext) (tags : CameraMetadata) (submitted : Bool) :
    Except Abort (Status × CameraContext) :=
  match ctx.streamingActiveRequests with
  | [] => .ok (.noInit, ctx)
  | first :: _ =>
    if first = [] then .ok (.noInit, ctx)
    else if ctx.streaming ∧ ctx.snapshotType ≠ .continuous ∧ !submitted then .error .assertion
    else .ok (.noError, { ctx with
      streamingActiveRequests := ctx.streamingActiveRequests.map fun _ => tags })

/-- The answers that a new stream gets: the batch size for its frame rate, or that none is
supported; whether its port can be initialized; and the default metadata of a request. -/
structure StreamAnswers where
  batch : Option UInt32 := some 1
  init : Bool := true
  template : CameraMetadata := []
  /-- Whether the rescaler of a copied track can be initialized. -/
  rescaler : Bool := true

/-- A batch size that is left over counts as a batch stream, next to which a stream gets the
default one. -/
def createStream (ctx : CameraContext) (id : UInt32) (p : VideoTrackCreateParam)
    (ans : StreamAnswers) : Except Abort (Status × CameraContext) :=
  if id = 0 then .error .assertion
  else
    match if 1 < ctx.batchSize then some 1 else ans.batch with
    | none => .ok (.badValue, ctx)
    | some batch =>
      let ctx := { ctx with batchSize := batch }
      if !ans.init then .ok (.badValue, ctx)
      else .ok (.noError, { ctx with
        streamingActiveRequests :=
          if ctx.streamingActiveRequests = [] then [ans.template] else ctx.streamingActiveRequests
        activePorts := ctx.activePorts.insertIfNew id p })

end CameraContext

/-- A track that copies another one has no stream of its own. Without a rescaler it is `linked`, and
gets the frames of the other track themselves. -/
structure TrackSource where
  params : VideoTrackCreateParam
  slave : Bool
  linked : Option UInt32 := none
  deriving DecidableEq, Repr

/-- `client_snapshot_cb_` is one callback for all cameras; it is the client that it notifies. -/
structure CameraSource where
  cameraMap : IdMap CameraContext := ∅
  clientSnapshotCb : Option UInt32 := none
  trackSources : IdMap TrackSource := ∅

/-- One call of `NotifySnapshotData`, to the client. -/
structure SnapshotData where
  client : UInt32
  cameraId : UInt32
  count : UInt32
  buffer : BnBuffer
  format : BufferFormat
  deriving DecidableEq, Repr

/-- The buffer description that `SnapshotCallback` makes. -/
def StreamBuffer.toBnBuffer (buffer : StreamBuffer) : Except Abort BnBuffer :=
  let bn : BnBuffer :=
    { ionFd := buffer.fd, ionMetaFd := buffer.metafd, size := buffer.size
      timestamp := buffer.timestamp, width := buffer.width, height := buffer.height
      bufferId := buffer.fd.toUInt32, flag := 0, capacity := buffer.size }
  match buffer.format with
  | .nv12 | .nv21 | .nv16 | .raw8 | .raw10 | .raw12 | .raw16 => .ok bn
  | .blob =>
    if buffer.jpegSize = 0 then .error .assertion
    else .ok { bn with size := buffer.jpegSize, width := 0xffffffff, height := 0xffffffff }
  | _ => .error .assertion

namespace CameraSource

/-- Every call that names a camera looks it up first. -/
def onCamera (src : CameraSource) (camera : UInt32)
    (f : CameraContext → Except Abort (Status × CameraContext)) :
    Except Abort (Status × CameraSource) :=
  match src.cameraMap[camera]? with
  | none => .ok (.badValue, src)
  | some ctx => do
    let (st, ctx) ← f ctx
    .ok (st, { src with cameraMap := src.cameraMap.insert camera ctx })

/-- `StartCamera`: what `OpenCamera` answers to a camera that is not open yet. -/
def startCamera (src : CameraSource) (camera : UInt32) (opened : Status) : Status × CameraSource :=
  if camera ∈ src.cameraMap then (.badValue, src)
  else if opened ≠ .noError then (opened, src)
  else (.noError, { src with cameraMap := src.cameraMap.insert camera {} })

def stopCamera (src : CameraSource) (camera : UInt32) (closed : Status) : Status × CameraSource :=
  if camera ∉ src.cameraMap then (.badValue, src)
  else if closed ≠ .noError then (.failedTransaction, src)
  else (.noError, { src with cameraMap := src.cameraMap.erase camera })

/-- The callback is replaced before the context sees the call, and stays when that fails. -/
def captureImage (src : CameraSource) (client camera numImages : UInt32) (submitted : Bool) :
    Except Abort (Status × CameraSource) :=
  if camera ∉ src.cameraMap then .ok (.badValue, src)
  else
    onCamera { src with clientSnapshotCb := some client } camera fun ctx =>
      ctx.captureImage client numImages submitted

/-- The formats that a copy may have or be made from. -/
def isCopyFormat : VideoFormat → Bool
  | .hevc | .avc | .nv12 | .nv12UBWC | .rgb => true
  | _ => false

def validateSlaveTrackParam (slave master : VideoTrackCreateParam) : Bool :=
  (isCopyFormat slave.formatType || isCopyFormat master.formatType) &&
    !(master.width < slave.width || master.height < slave.height)

def getYUVFormatType : VideoFormat → VideoFormat
  | .hevc | .avc => .nv12UBWC
  | format => format

/-- Same size and, contrary to the name of `IsFormatChanged`, same format. -/
def checkLinkedStream (slave master : VideoTrackCreateParam) : Bool :=
  (isCopyFormat slave.formatType || isCopyFormat master.formatType) &&
    slave.width == master.width && slave.height == master.height &&
      getYUVFormatType master.formatType == getYUVFormatType slave.formatType

def addTrackSource (src : CameraSource) (id : UInt32) (track : TrackSource) : CameraSource :=
  { src with trackSources := src.trackSources.insertIfNew id track }

/-- A track with a stream of its own. A request for RGB fails without an error. -/
def createOwnTrack (src : CameraSource) (id : UInt32) (p : VideoTrackCreateParam)
    (ans : CameraContext.StreamAnswers) : Except Abort (Status × CameraSource) :=
  if p.formatType = .rgb then .ok (.noError, src)
  else do
    let (st, src) ← src.onCamera p.cameraId fun ctx => ctx.createStream id p ans
    if st ≠ .noError then .ok (.badValue, src)
    else .ok (.noError, src.addTrackSource id { params := p, slave := false })

/-- `CreateTrackSource`; `source` is the track to copy, if the parameters name one. -/
def createTrackSource (src : CameraSource) (id : UInt32) (p : VideoTrackCreateParam)
    (source : Option UInt32) (ans : CameraContext.StreamAnswers) :
    Except Abort (Status × CameraSource) :=
  if p.cameraId ∉ src.cameraMap then .ok (.badValue, src)
  else
    match source with
    | none => src.createOwnTrack id p ans
    | some sourceId =>
      match src.trackSources[sourceId]? with
      | none => .error .assertion
      | some master =>
        if !validateSlaveTrackParam p master.params then src.createOwnTrack id p ans
        else if checkLinkedStream p master.params then
          .ok (.noError, src.addTrackSource id { params := p, slave := true, linked := sourceId })
        else if !ans.rescaler then .ok (.badValue, src)
        else .ok (.noError, src.addTrackSource id { params := p, slave := true })

/-- A call that names a camera is refused, or it is the call of the context. -/
theorem onCamera_ok {src src' : CameraSource} {camera : UInt32} {st : Status}
    {f : CameraContext → Except Abort (Status × CameraContext)}
    (h : src.onCamera camera f = .ok (st, src')) :
    src.cameraMap[camera]? = none ∧ st = .badValue ∧ src' = src ∨
    ∃ ctx ctx', src.cameraMap[camera]? = some ctx ∧ f ctx = .ok (st, ctx') ∧
      src' = { src with cameraMap := src.cameraMap.insert camera ctx' } := by
  unfold onCamera at h
  split at h
  next hnone =>
    obtain ⟨rfl, rfl⟩ : st = .badValue ∧ src' = src := by simpa [eq_comm] using h
    exact Or.inl ⟨hnone, rfl, rfl⟩
  next ctx hctx =>
    obtain ⟨⟨st₀, ctx'⟩, hf, h⟩ := Library.bind_eq_ok_iff.mp h
    obtain ⟨rfl, rfl⟩ : st₀ = st ∧
        ({ src with cameraMap := src.cameraMap.insert camera ctx' } : CameraSource) = src' := by
      simpa using h
    exact Or.inr ⟨ctx, ctx', hctx, hf, rfl⟩

end CameraSource

end QmmfSdk.Recorder
