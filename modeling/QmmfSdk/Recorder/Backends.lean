import QmmfSdk.Recorder.CameraRequests

/-! `RecorderImpl` with its `CameraSource` and `EncoderCore`: the track sources and track encoders
that each request finds, makes, starts, stops and deletes. -/
namespace QmmfSdk.Recorder

open Library (LTS)

/-- The track sources and track encoders. `running` are the sources that were started and not
stopped since, and an encoder carries its own flag. -/
structure Backends where
  source : CameraSource := {}
  running : Std.ExtTreeSet UInt32 := ∅
  trackEncoders : IdMap Bool := ∅

namespace Backends

def isTrackIdValid (b : Backends) (id : UInt32) : Bool := b.source.trackSources.contains id

def isTrackValid (b : Backends) (id : UInt32) : Bool := b.trackEncoders.contains id

/-- What a call answers that looks its track up first and asserts everything else. -/
def lookup (known : Bool) : Status := if known then .noError else .badValue

/-- The answers of `CameraSource` and `EncoderCore`, as far as their state decides them. -/
def video (b : Backends) (t : TrackBackend) : TrackBackend :=
  { t with
    -- the encoder has just been added
    setTrackEncoderParams := fun _ => .noError
    startTrackSource := fun id => lookup (b.isTrackIdValid id)
    startTrackEncoder := fun id => lookup (b.isTrackValid id)
    pauseTrackSource := fun id => lookup (b.isTrackIdValid id)
    resumeTrackSource := fun id => lookup (b.isTrackIdValid id)
    stopTrackSource := fun id => lookup (b.isTrackIdValid id)
    stopTrackEncoder := fun id => lookup (b.isTrackValid id)
    deleteTrackSource := fun id => lookup (b.isTrackIdValid id)
    deleteTrackEncoder := fun id => lookup (b.isTrackValid id) }

def media (b : Backends) (m : Media) : Media :=
  { CameraService.media ⟨{}, b.source⟩ m with
    flushEncoderTrack := fun id =>
      if b.isTrackValid id then m.flushEncoderTrack id else .nameNotFound
    flushCameraTrack := fun id => if b.isTrackIdValid id then .noError else .nameNotFound
    video := b.video m.video }

def startSource (b : Backends) (id : UInt32) : Backends := { b with running := b.running.insert id }

def stopSource (b : Backends) (id : UInt32) : Backends := { b with running := b.running.erase id }

def setEncoder (b : Backends) (id : UInt32) (on : Bool) : Backends :=
  { b with trackEncoders := b.trackEncoders.modify id fun _ => on }

/-- The video tracks of a session up to the first that cannot be started. -/
def startVideoTracks (b : Backends) : List TrackInfo → Backends
  | [] => b
  | ⟨_, .audio _⟩ :: rest => b.startVideoTracks rest
  | ⟨id, .video f⟩ :: rest =>
    if !b.isTrackIdValid id then b
    else if f.isEncoded then
      if !b.isTrackValid id then b.startSource id
      else ((b.startSource id).setEncoder id true).startVideoTracks rest
    else (b.startSource id).startVideoTracks rest

/-- `ResumeTrack` asserts that the camera resumes the stream of the track, and a copied track has no
stream. The loop of `ResumeSession` gets as far as the first call that fails. -/
def resumesCopy (m : Media) (b : Backends) : List TrackInfo → Bool
  | [] => false
  | ⟨id, .audio f⟩ :: rest =>
    m.audio.resumeTrackSource id == .noError &&
      (f == .pcm || m.audio.resumeTrackEncoder id == .noError) && resumesCopy m b rest
  | ⟨id, .video _⟩ :: rest =>
    (b.source.trackSources[id]?).any fun t => t.slave || resumesCopy m b rest

/-- The tracks of a session, in the order in which they are stopped, up to the first that cannot
be. -/
def stopTracks (m : Media) (b : Backends) : List TrackInfo → Backends
  | [] => b
  | ⟨id, .audio f⟩ :: rest =>
    if m.audio.stopTrackSource id ≠ .noError then b
    else if f ≠ .pcm ∧ m.audio.stopTrackEncoder id ≠ .noError then b
    else stopTracks m b rest
  | ⟨id, .video f⟩ :: rest =>
    if !b.isTrackIdValid id then b
    else if f.isEncoded then
      if !b.isTrackValid id then b.stopSource id
      else stopTracks m ((b.stopSource id).setEncoder id false) rest
    else stopTracks m (b.stopSource id) rest

/-- What the deletion of a registered video track asks for: `DeleteTrackSource`, and
`DeleteTrackEncoder` of an encoded track when that succeeded. -/
def deleteTrack (b : Backends) : Option TrackInfo → Backends
  | some ⟨id, .video f⟩ =>
    if !b.isTrackIdValid id then b
    else { b with
      source := { b.source with trackSources := b.source.trackSources.erase id }
      running := b.running.erase id
      trackEncoders := if f.isEncoded then b.trackEncoders.erase id else b.trackEncoders }
  | _ => b

end Backends

/-- A recorder with its back ends. -/
structure MediaRecorder where
  recorder : RecorderImpl
  backends : Backends

namespace MediaRecorder

/-- Resuming the session comes to a copied track. -/
def resumeAborts (m : Media) (s : MediaRecorder) (client session : UInt32) : Bool :=
  s.recorder.sessionState session == .pause &&
    s.backends.resumesCopy m (RecorderImpl.trackInfos (s.recorder.tracks client session))

/-- The back ends see `StartSession` only for an idle session, and when it resumes a paused one. -/
def startSession (m : Media) (s : MediaRecorder) (client session : UInt32) :
    Except Abort (Status × MediaRecorder) :=
  if s.resumeAborts m client session then .error .assertion
  else do
    let (st, r) ← s.recorder.startSession (s.backends.media m) client session
    let infos := RecorderImpl.trackInfos (s.recorder.tracks client session)
    .ok (st, ⟨r, if s.recorder.sessionState session = .idle then s.backends.startVideoTracks infos
      else s.backends⟩)

/-- A start that returns is that of the recorder, with its effect on the back ends. -/
theorem startSession_eq_ok {m : Media} {s t : MediaRecorder} {client session : UInt32} {st : Status}
    (h : s.startSession m client session = .ok (st, t)) :
    ∃ r, s.recorder.startSession (s.backends.media m) client session = .ok (st, r) ∧
      t = ⟨r, if s.recorder.sessionState session = .idle then
        s.backends.startVideoTracks (RecorderImpl.trackInfos (s.recorder.tracks client session))
        else s.backends⟩ := by
  unfold startSession at h
  split at h
  · simp at h
  · obtain ⟨⟨st', r⟩, hr, h⟩ := Library.bind_eq_ok_iff.mp h
    obtain ⟨rfl, rfl⟩ := Prod.mk.inj (Except.ok.inj h)
    exact ⟨r, hr, rfl⟩

def stopSession (m : Media) (s : MediaRecorder) (client session : UInt32) :
    Except Abort (Status × MediaRecorder) := do
  let (st, r) ← s.recorder.stopSession (s.backends.media m) client session
  let infos := RecorderImpl.trackInfos (s.recorder.tracks client session)
  .ok (st, ⟨r, if s.recorder.sessionState session = .idle then s.backends
    else s.backends.stopTracks m infos.reverse⟩)

def deleteVideoTrack (remoteCb : UInt32 → Bool) (m : Media) (s : MediaRecorder)
    (client session track : UInt32) : Except Abort (Status × MediaRecorder) := do
  let (st, r) ← s.recorder.deleteVideoTrack remoteCb (s.backends.media m) client session track
  .ok (st, ⟨r, s.backends.deleteTrack (s.recorder.track client session track)⟩)

def deleteAudioTrack (m : Media) (s : MediaRecorder) (client session track : UInt32) :
    Except Abort (Status × MediaRecorder) := do
  let (st, r) ← s.recorder.deleteAudioTrack (s.backends.media m) client session track
  .ok (st, ⟨r, s.backends⟩)

def deleteTrack (remoteCb : UInt32 → Bool) (m : Media) (client session : UInt32)
    (s : MediaRecorder) (p : UInt32 × TrackInfo) : Except Abort MediaRecorder := do
  match p.2.format with
  | .video _ => .ok (← s.deleteVideoTrack remoteCb m client session p.1).2
  | .audio _ => .ok (← s.deleteAudioTrack m client session p.1).2

def cleanupSession (remoteCb : UInt32 → Bool) (m : Media) (client : UInt32)
    (s : MediaRecorder) (p : UInt32 × TrackInfoMap) : Except Abort MediaRecorder := do
  let s := (← s.stopSession m client p.1).2
  let s ← p.2.toList.reverse.foldlM (deleteTrack remoteCb m client p.1) s
  let (_, r) ← s.recorder.deleteSession client p.1
  .ok ⟨r, s.backends⟩

/-- The forced branch of `DeRegisterClient` for a registered client. The cameras stay open, since
each `StopCamera` is refused. -/
def forceCleanup (remoteCb : UInt32 → Bool) (m : Media) (s : MediaRecorder) (client : UInt32) :
    Except Abort MediaRecorder := do
  let r := { s.recorder with clientState := s.recorder.clientState.insert client .dead }
  let r ← r.forceReturnBuffers (s.backends.media m) client
  let s ← (r.sessions client).toList.foldlM (cleanupSession remoteCb m client) ⟨r, s.backends⟩
  let r := { s.recorder with clientSessionMap := s.recorder.clientSessionMap.erase client }
  let r := r.updateCameras client id
  let r ← (r.cameras client).keys.foldlM
    (fun r camera => do .ok (← r.stopCamera remoteCb (s.backends.media m) client camera).2) r
  .ok ⟨{ r with
    clientCameraidMap := r.clientCameraidMap.erase client
    clientState := r.clientState.erase client }, s.backends⟩

end MediaRecorder

/-- The service with the back ends of its recorder. -/
structure MediaService where
  service : Service := {}
  backends : Backends := {}

/-- A request, with the answers that a new stream gets. -/
structure MediaRequest where
  request : Request
  stream : CameraContext.StreamAnswers := {}

namespace MediaService

def recorder (s : MediaService) : Option RecorderImpl := s.service.recorder

def camera (s : MediaService) : CameraService := ⟨s.service, s.backends.source⟩

/-- The back ends are deleted with the recorder. -/
def withService (s : MediaService) (service : Service) : MediaService :=
  ⟨service, if service.recorder.isNone then {} else s.backends⟩

def onService (s : MediaService) (a : Request) : Except Abort (Status × MediaService) := do
  let (st, service) ← s.service.step a
  .ok (st, s.withService service)

/-- A request about a camera, which changes the cameras of the camera source. -/
def onCamera (s : MediaService) (f : CameraService → Except Abort (Status × CameraService)) :
    Except Abort (Status × MediaService) := do
  let (st, t) ← f s.camera
  .ok (st, ⟨t.service, { s.backends with source := t.source }⟩)

def onRecorder (s : MediaService)
    (f : MediaRecorder → Except Abort (Status × MediaRecorder)) :
    Except Abort (Status × MediaService) :=
  match s.recorder with
  | none => .ok (.noInit, s)
  | some r => do
    let (st, t) ← f ⟨r, s.backends⟩
    .ok (st, ⟨{ s.service with recorder := some t.recorder }, t.backends⟩)

/-- An encoded track that is created gets an encoder, unless its id has one. -/
def createVideoTrack (s : MediaService) (client session track : UInt32)
    (p : VideoTrackCreateParam) (extra : VideoExtraParam) (m : Media)
    (ans : CameraContext.StreamAnswers) : Except Abort (Status × MediaService) := do
  let (st, t) ← s.onCamera fun c =>
    c.createVideoTrack client session track p extra (s.backends.media m) ans
  let id := RecorderImpl.getUniqueServiceTrackId client session track
  .ok (st, if st = .noError ∧ p.formatType.isEncoded then
    { t with backends :=
      { t.backends with trackEncoders := t.backends.trackEncoders.insertIfNew id false } }
    else t)

/-- `DisconnectInternal`, which `BinderDied` calls for a dead client. -/
def clientDeath (s : MediaService) (client : UInt32) (m : Media) :
    Except Abort (Status × MediaService) :=
  match s.recorder with
  | none => .ok (.noInit, s)
  | some r =>
    if !s.service.deathNotifierList.contains client then .ok (.badValue, s)
    else if !s.service.remoteCbList.contains client then .ok (.badValue, s)
    else if !r.isClientValid client then .ok (.noError, s.withService (s.service.forget r client))
    else do
      let t ← MediaRecorder.forceCleanup s.service.remoteCb m ⟨r, s.backends⟩ client
      .ok (.noError, withService { s with backends := t.backends }
        (s.service.forget t.recorder client))

def step (s : MediaService) (a : MediaRequest) : Except Abort (Status × MediaService) :=
  match a.request with
  | .clientDeath client m => s.clientDeath client m
  | .startCamera client camera slave m =>
    s.onCamera fun c => c.startCamera client camera slave m
  | .stopCamera client camera m => s.onCamera fun c => c.stopCamera client camera m
  | .startSession client session m => s.onRecorder fun r => r.startSession m client session
  | .stopSession client session m => s.onRecorder fun r => r.stopSession m client session
  | .pauseSession client session m =>
    s.onService (.pauseSession client session (s.backends.media m))
  | .resumeSession client session m =>
    if s.recorder.any fun r => MediaRecorder.resumeAborts m ⟨r, s.backends⟩ client session then
      .error .assertion
    else s.onService (.resumeSession client session (s.backends.media m))
  | .createVideoTrack client session track p extra m =>
    s.createVideoTrack client session track p extra m a.stream
  | .deleteVideoTrack client session track m =>
    s.onRecorder fun r => r.deleteVideoTrack s.service.remoteCb m client session track
  | request => s.onService request

/-- A session that is resumed without a failed assertion is resumed by the recorder alone. -/
theorem onService_of_resumeSession {s t : MediaService} {client session : UInt32} {m : Media}
    {ans : CameraContext.StreamAnswers} {st : Status}
    (h : s.step ⟨.resumeSession client session m, ans⟩ = .ok (st, t)) :
    s.onService (.resumeSession client session (s.backends.media m)) = .ok (st, t) := by
  simp only [step] at h
  split at h
  · simp at h
  · exact h

/-- The state after a request that returns, whatever status it returns. -/
def next (s : MediaService) (a : MediaRequest) : Option MediaService :=
  match s.step a with
  | .ok (_, t) => some t
  | .error _ => none

def lts : LTS MediaService MediaRequest := .ofStep next

end MediaService

end QmmfSdk.Recorder
