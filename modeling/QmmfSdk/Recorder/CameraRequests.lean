import QmmfSdk.Recorder.CameraSource

/-! The requests that name a camera, from the recorder service through `RecorderImpl` to
`CameraSource`, and the snapshots that come back. -/
namespace QmmfSdk.Recorder

open Library (LTS)

/-- The back ends, with the answer of the camera source to a new track. -/
def Media.answering (m : Media) (st : Status) : Media :=
  { m with video := { m.video with createTrackSource := fun _ => st } }

/-- The service with the `CameraSource` of its recorder. -/
structure CameraService where
  service : Service := {}
  source : CameraSource := {}

/-- A request or a callback of a camera, with what the devices answer to it. Clients do not leave,
and `lost` is an image that the device could not deliver. -/
inductive CameraRequest where
  | connect (init : Status)
  | createSession (client : UInt32)
  | startCamera (client camera : UInt32) (slave : Bool) (m : Media)
  | stopCamera (client camera : UInt32) (m : Media)
  | createVideoTrack (client session track : UInt32) (p : VideoTrackCreateParam)
      (extra : VideoExtraParam) (m : Media) (ans : CameraContext.StreamAnswers)
  | captureImage (client camera numImages : UInt32) (submitted : Bool)
  | configImageCapture (client camera : UInt32) (st : Status) (mode : SnapshotMode)
      (streamIds : List Int32)
  | cancelCaptureImage (client camera : UInt32) (stopped : Bool)
  | returnImageCaptureBuffer (client camera : UInt32) (bufferId : Int32) (returned : Bool)
  | setCameraParam (client camera : UInt32) (tags : CameraMetadata) (submitted : Bool)
  | snapshot (camera : UInt32) (i : Nat) (buffer : StreamBuffer)
  | lost (camera : UInt32) (i : Nat)

namespace CameraService

def recorder (s : CameraService) : Option RecorderImpl := s.service.recorder

def setRecorder (s : CameraService) (r : RecorderImpl) : CameraService :=
  { s with service := { s.service with recorder := some r } }

/-- The answers of the camera source, as far as its state decides them. -/
def media (s : CameraService) (m : Media) : Media :=
  { m with
    startCamera := fun camera => (s.source.startCamera camera (m.startCamera camera)).1
    stopCamera := fun camera => (s.source.stopCamera camera (m.stopCamera camera)).1
    -- the camera has just been opened
    setFlushCb := fun _ => .noError
    trackSize := fun id =>
      s.source.trackSources[id]?.map fun t => (t.params.width, t.params.height) }

/-- A request that does not reach the camera source. -/
def onService (s : CameraService) (a : Request) : Except Abort (Status × CameraService) := do
  let (st, service) ← s.service.step a
  .ok (st, { s with service })

/-- `StartCamera` opens the camera unless it is started in slave mode or already owned. -/
def startCamera (s : CameraService) (client camera : UInt32) (slave : Bool) (m : Media) :
    Except Abort (Status × CameraService) := do
  let (st, t) ← s.onService (.startCamera client camera slave (s.media m))
  let opens := s.recorder.any fun r => r.isClientValid client && !slave &&
    !r.isCameraOwned client camera && !r.isCameraValid client camera
  .ok (st, if opens then { t with source := (s.source.startCamera camera (m.startCamera camera)).2 }
    else t)

/-- `StopCamera` of the owner closes the camera, once no slave uses it. -/
def stopCamera (s : CameraService) (client camera : UInt32) (m : Media) :
    Except Abort (Status × CameraService) := do
  let (st, t) ← s.onService (.stopCamera client camera (s.media m))
  let closes := s.recorder.any fun r => !r.isCameraOwned client camera && st == .noError
  .ok (st, if closes then { t with source := (s.source.stopCamera camera (m.stopCamera camera)).2 }
    else t)

/-- The requests that only the owner of a camera may make. -/
def forOwner (s : CameraService) (client camera : UInt32)
    (f : CameraSource → Except Abort (Status × CameraSource)) :
    Except Abort (Status × CameraService) :=
  match s.recorder with
  | none => .ok (.noInit, s)
  | some r =>
    if !r.isClientValid client then .ok (.badValue, s)
    else if !r.isCameraValid client camera then
      .ok (.invalidOperation, s.setRecorder (r.touchCameras client))
    else do
      let (st, source) ← f s.source
      .ok (st, { s.setRecorder (r.touchCameras client) with source })

def captureImage (s : CameraService) (client camera numImages : UInt32) (submitted : Bool) :
    Except Abort (Status × CameraService) :=
  s.forOwner client camera fun src => src.captureImage client camera numImages submitted

def configImageCapture (s : CameraService) (client camera : UInt32) (st : Status)
    (mode : SnapshotMode) (streamIds : List Int32) : Except Abort (Status × CameraService) :=
  s.forOwner client camera fun src =>
    src.onCamera camera fun ctx => .ok (ctx.configImageCapture st mode streamIds)

def cancelCaptureImage (s : CameraService) (client camera : UInt32) (stopped : Bool) :
    Except Abort (Status × CameraService) :=
  s.forOwner client camera fun src => src.onCamera camera fun ctx => ctx.cancelCaptureImage stopped

def setCameraParam (s : CameraService) (client camera : UInt32) (tags : CameraMetadata)
    (submitted : Bool) : Except Abort (Status × CameraService) :=
  s.forOwner client camera fun src =>
    src.onCamera camera fun ctx => ctx.setCameraParam tags submitted

/-- `ReturnImageCaptureBuffer`: the client is only logged. -/
def returnImageCaptureBuffer (s : CameraService) (_client camera : UInt32) (bufferId : Int32)
    (returned : Bool) : Except Abort (Status × CameraService) :=
  match s.recorder with
  | none => .ok (.noInit, s)
  | some _ => do
    let (st, source) ← s.source.onCamera camera fun ctx =>
      ctx.returnImageCaptureBuffer bufferId returned
    .ok (st, { s with source })

/-- The first session that has the track; 0 when there is none. -/
def getServiceTrackId (r : RecorderImpl) (client track : UInt32) : UInt32 :=
  (((r.sessions client).toList.findSome? fun p => p.2[track]?).map (·.trackId)).getD 0

/-- The track to copy. `CameraSource` takes the id that reads as `NAME_NOT_FOUND` for none. -/
def sourceTrack (r : RecorderImpl) (m : Media) (client : UInt32) (p : VideoTrackCreateParam)
    (extra : VideoExtraParam) : Except Abort (Option UInt32) := do
  let source ←
    match extra.sourceVideoTrackId with
    | some track => .ok (some (getServiceTrackId r client track))
    | none =>
      if extra.useLinkedTrackInSlaveMode = some true then r.findSuitableIdForLinkedTrack m p
      else .ok none
  .ok (source.filter (· ≠ 0xfffffffe))

/-- What `CreateVideoTrack` checks; the camera is not part of it. -/
def checksTrack (r : RecorderImpl) (client session track : UInt32) : Bool :=
  Service.isTrackIdAccepted track && r.isClientValid client && r.isSessionValid client session &&
    !r.isTrackValid client session track

def createVideoTrack (s : CameraService) (client session track : UInt32)
    (p : VideoTrackCreateParam) (extra : VideoExtraParam) (m : Media)
    (ans : CameraContext.StreamAnswers) : Except Abort (Status × CameraService) :=
  let m := s.media m
  match s.recorder with
  | none => .ok (.noInit, s)
  | some r =>
    if !checksTrack r client session track then .ok (.badValue, s)
    else do
      if !(← r.resolveSourceTrack m p extra) then .ok (.badValue, s)
      else
        let source ← sourceTrack r m client p extra
        let id := RecorderImpl.getUniqueServiceTrackId client session track
        let (st, source) ← s.source.createTrackSource id p source ans
        let (st, r) ← r.createVideoTrack (m.answering st) client session track p extra
        .ok (st, { s.setRecorder r with source })

/-- `SnapshotCaptureCallback` of a context for a buffer of its capture `i`, up to the call that
`CameraSnapshotCb` makes, if any; `none` when there is no such capture. -/
def snapshot (s : CameraService) (camera : UInt32) (i : Nat) (buffer : StreamBuffer) :
    Option (Except Abort (Option SnapshotData × CameraService)) :=
  match s.source.cameraMap[camera]? with
  | none => none
  | some ctx =>
    if ctx.captures.length ≤ i then none
    else
      let count := ctx.captureCnt
      let ctx := { ctx with captures := CameraContext.useUp ctx.captures i
                            captureCnt := ctx.captureCnt + 1 }
      if ctx.cancelCapture then
        some (.ok (none, { s with source :=
          { s.source with cameraMap := s.source.cameraMap.insert camera ctx } }))
      else
        let ctx := { ctx with
          snapshotBufferList := ctx.snapshotBufferList.insertIfNew buffer.fd buffer
          snapshotBufferStreamList :=
            ctx.snapshotBufferStreamList.insertIfNew buffer.fd buffer.streamId }
        some (do
          let bn ← buffer.toBnBuffer
          match s.source.clientSnapshotCb, s.recorder with
          | some client, some r =>
            if !r.isClientValid client then .error .assertion
            else if !s.service.remoteCb client then .error (.remoteCallback client)
            else .ok (some ⟨client, camera, count, bn, buffer.format⟩, { s with source :=
              { s.source with cameraMap := s.source.cameraMap.insert camera ctx } })
          | _, _ => .error .assertion)

def lost (s : CameraService) (camera : UInt32) (i : Nat) : CameraService :=
  { s with source := { s.source with
    cameraMap := s.source.cameraMap.modify camera fun ctx =>
      { ctx with captures := CameraContext.useUp ctx.captures i } } }

def step (s : CameraService) : CameraRequest → Except Abort (Status × CameraService)
  | .connect init => s.onService (.connect init)
  | .createSession client => s.onService (.createSession client)
  | .startCamera client camera slave m => s.startCamera client camera slave m
  | .stopCamera client camera m => s.stopCamera client camera m
  | .createVideoTrack client session track p extra m ans =>
    s.createVideoTrack client session track p extra m ans
  | .captureImage client camera numImages submitted =>
    s.captureImage client camera numImages submitted
  | .configImageCapture client camera st mode streamIds =>
    s.configImageCapture client camera st mode streamIds
  | .cancelCaptureImage client camera stopped => s.cancelCaptureImage client camera stopped
  | .returnImageCaptureBuffer client camera bufferId returned =>
    s.returnImageCaptureBuffer client camera bufferId returned
  | .setCameraParam client camera tags submitted => s.setCameraParam client camera tags submitted
  | .snapshot camera i buffer =>
    match s.snapshot camera i buffer with
    | none => .ok (.noError, s)
    | some result => do
      let (_, t) ← result
      .ok (.noError, t)
  | .lost camera i => .ok (.noError, s.lost camera i)

/-- The state after a step that returns, whatever status it returns. -/
def next (s : CameraService) (a : CameraRequest) : Option CameraService :=
  match s.step a with
  | .ok (_, t) => some t
  | .error _ => none

def lts : LTS CameraService CameraRequest := .ofStep next

end CameraService

end QmmfSdk.Recorder
