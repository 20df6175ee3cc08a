import QmmfSdk.Recorder.FrameReturns
import QmmfSdk.Recorder.SnapshotReturns

/-! The recorder service with what its clients hold: the audio tracks that run, the frames of the
video tracks and the snapshots. -/
namespace QmmfSdk.Recorder

open Library (LTS)
open Pipeline (IBufferHandle TrackConfig TrackFlow)

namespace OpenTracks

/-- The stop of an encoded track that runs waits until the encoder is at rest. -/
def stopEncoded (b : Backends) (ts : OpenTracks) (id : UInt32) : OpenTracks :=
  if b.running.contains id then ts.modify id .portIdle else ts

/-- The tracks of a session, in the order in which they are stopped, up to the first that cannot
be. -/
def stopTracks (m : Media) (b : Backends) (ts : OpenTracks) : List TrackInfo → OpenTracks
  | [] => ts
  | ⟨id, .audio f⟩ :: rest =>
    if m.audio.stopTrackSource id ≠ .noError then ts
    else if f ≠ .pcm ∧ m.audio.stopTrackEncoder id ≠ .noError then ts
    else stopTracks m b ts rest
  | ⟨id, .video f⟩ :: rest =>
    if !b.isTrackIdValid id then ts
    else if f.isEncoded then
      if !b.isTrackValid id then ts.stopEncoded b id
      else stopTracks m (b.stopSource id) (ts.stopEncoded b id) rest
    else stopTracks m (b.stopSource id) ts rest

/-- What the producers were given back in between, with the track that gave it. -/
def givenBackSince (ts ts' : OpenTracks) : List (UInt32 × IBufferHandle) :=
  ts'.toList.flatMap fun (id, x) =>
    (x.flow.givenBack.drop ((ts[id]?).elim 0 (·.flow.givenBack.length))).map (id, ·)

end OpenTracks

/-- The tracks of `AudioSource` that were started and not stopped since. -/
abbrev AudioTracks := Std.ExtTreeSet UInt32

namespace AudioTracks

/-- The audio tracks of a session up to the first that cannot be started. -/
def startTracks (m : Media) (a : AudioTracks) : List TrackInfo → AudioTracks
  | [] => a
  | ⟨_, .video _⟩ :: rest => startTracks m a rest
  | ⟨id, .audio f⟩ :: rest =>
    if m.audio.startTrackSource id ≠ .noError then a
    else if f = .pcm then startTracks m (a.insert id) rest
    else
      let answer := m.getAudioTrackSource id
      if answer.1 ≠ .noError ∨ !answer.2 then a.insert id
      else if m.audio.startTrackEncoder id ≠ .noError then a.insert id
      else startTracks m (a.insert id) rest

/-- The tracks of a session, in the order in which they are stopped, up to the first that cannot
be. -/
def stopTracks (m : Media) (b : Backends) (a : AudioTracks) : List TrackInfo → AudioTracks
  | [] => a
  | ⟨id, .audio f⟩ :: rest =>
    if m.audio.stopTrackSource id ≠ .noError then a
    else if f ≠ .pcm ∧ m.audio.stopTrackEncoder id ≠ .noError then a.erase id
    else stopTracks m b (a.erase id) rest
  | ⟨id, .video f⟩ :: rest =>
    if !b.isTrackIdValid id then a
    else if f.isEncoded && !b.isTrackValid id then a
    else stopTracks m b a rest

/-- What the deletion of a registered audio track asks `AudioSource` for. -/
def deleteTrack (m : Media) (a : AudioTracks) : Option TrackInfo → AudioTracks
  | some ⟨id, .audio _⟩ => if m.audio.deleteTrackSource id ≠ .noError then a else a.erase id
  | _ => a

end AudioTracks

/-- A recorder with all its back ends, and the track sources with their frames. -/
structure AvRecorder where
  media : MediaRecorder
  audio : AudioTracks
  tracks : OpenTracks

namespace AvRecorder

def stopSession (m : Media) (s : AvRecorder) (client session : UInt32) :
    Except Abort (Status × AvRecorder) := do
  let (st, media) ← s.media.stopSession m client session
  let infos := RecorderImpl.trackInfos (s.media.recorder.tracks client session)
  .ok (st, ⟨media,
    if s.media.recorder.sessionState session = .idle then s.audio
    else s.audio.stopTracks m s.media.backends infos.reverse,
    if s.media.recorder.sessionState session = .idle then s.tracks
    else s.tracks.stopTracks m s.media.backends infos.reverse⟩)

def deleteTrack (remoteCb : UInt32 → Bool) (m : Media) (client session : UInt32) (s : AvRecorder)
    (p : UInt32 × TrackInfo) : Except Abort AvRecorder := do
  let media ← MediaRecorder.deleteTrack remoteCb m client session s.media p
  .ok { s with media, audio := s.audio.deleteTrack m (s.media.recorder.track client session p.1) }

def cleanupSession (remoteCb : UInt32 → Bool) (m : Media) (client : UInt32) (s : AvRecorder)
    (p : UInt32 × TrackInfoMap) : Except Abort AvRecorder := do
  let s := (← s.stopSession m client p.1).2
  let s ← p.2.toList.reverse.foldlM (deleteTrack remoteCb m client p.1) s
  let (_, r) ← s.media.recorder.deleteSession client p.1
  .ok { s with media := ⟨r, s.media.backends⟩ }

/-- The forced branch of `DeRegisterClient` for a registered client. -/
def forceCleanup (remoteCb : UInt32 → Bool) (m : Media) (s : AvRecorder) (client : UInt32) :
    Except Abort AvRecorder := do
  let r := s.media.recorder
  let r := { r with clientState := r.clientState.insert client .dead }
  let r ← r.forceReturnBuffers (s.media.backends.media m) client
  let s ← (r.sessions client).toList.foldlM (cleanupSession remoteCb m client)
    { s with
      media := ⟨r, s.media.backends⟩
      tracks := s.media.recorder.forceReturnTracks client s.tracks }
  let r := { s.media.recorder with
    clientSessionMap := s.media.recorder.clientSessionMap.erase client }
  let r := r.updateCameras client id
  let r ← (r.cameras client).keys.foldlM
    (fun r camera => do .ok (← r.stopCamera remoteCb (s.media.backends.media m) client camera).2) r
  .ok { s with media := ⟨{ r with
    clientCameraidMap := r.clientCameraidMap.erase client
    clientState := r.clientState.erase client }, s.media.backends⟩ }

end AvRecorder

/-- The requests and callbacks that are about snapshots. -/
def CameraRequest.isImage : CameraRequest → Bool
  | .captureImage .. | .configImageCapture .. | .cancelCaptureImage ..
  | .returnImageCaptureBuffer .. | .setCameraParam .. | .snapshot .. | .lost .. => true
  | _ => false

abbrev ImageRequest := { a : CameraRequest // a.isImage = true }

/-- A snapshot that a client was given: the camera and the descriptor to return it with. -/
structure HeldSnapshot where
  client : UInt32
  camera : UInt32
  fd : Int32
  deriving DecidableEq, Repr

/-- `givenBack` are the frames that the producers were given back when clients died, with the tracks
that gave them. -/
structure RecorderSystem where
  media : MediaService := {}
  audio : AudioTracks := ∅
  tracks : OpenTracks := ∅
  snapshots : List HeldSnapshot := []
  givenBack : List (UInt32 × IBufferHandle) := []

/-- `cfg` is what a new track source is initialized with, and `returned` says of each snapshot
whether the device takes it back. -/
inductive SystemRequest where
  | media (a : MediaRequest) (cfg : TrackConfig) (returned : Int32 → Bool)
  | image (a : ImageRequest)
  | track (id : UInt32) (a : TrackFlow.Life)

namespace RecorderSystem

/-- The source objects that there are now: one that was there keeps its frames. -/
def openTracks (s : RecorderSystem) (cfg : TrackConfig) : RecorderSystem :=
  { s with tracks := s.media.backends.source.trackSources.map fun id src =>
      (s.tracks[id]?).getD ⟨{ cfg with format := src.params.formatType }, {}⟩ }

/-- A snapshot is held as long as its camera lists it. -/
def dropReturned (s : RecorderSystem) : RecorderSystem :=
  { s with snapshots := s.snapshots.filter fun h => s.media.backends.source.lists h.camera h.fd }

/-- The back ends are deleted with the recorder. -/
def settle (s : RecorderSystem) (cfg : TrackConfig) : RecorderSystem :=
  dropReturned (openTracks { s with audio := if s.media.recorder.isNone then ∅ else s.audio } cfg)

/-- What a request other than the death of a client asks of `AudioSource`. -/
def audioAfter (s : RecorderSystem) (a : Request) : AudioTracks :=
  match s.media.recorder with
  | none => s.audio
  | some r =>
    match a with
    | .startSession client session m =>
      if r.sessionState session = .idle then
        s.audio.startTracks m (RecorderImpl.trackInfos (r.tracks client session))
      else s.audio
    | .stopSession client session m =>
      if r.sessionState session = .idle then s.audio
      else s.audio.stopTracks m s.media.backends
        (RecorderImpl.trackInfos (r.tracks client session)).reverse
    | .deleteAudioTrack client session track m =>
      s.audio.deleteTrack m (r.track client session track)
    | _ => s.audio

/-- The stop of a session is the only request that track sources wait for. -/
def tracksAfter (s : RecorderSystem) (a : Request) : OpenTracks :=
  match s.media.recorder, a with
  | some r, .stopSession client session m =>
    if r.sessionState session = .idle then s.tracks
    else s.tracks.stopTracks m s.media.backends
      (RecorderImpl.trackInfos (r.tracks client session)).reverse
  | _, _ => s.tracks

/-- `DisconnectInternal`. What `ForceReturnBuffers` returns to the cameras comes first. -/
def clientDeath (s : RecorderSystem) (client : UInt32) (m : Media) (returned : Int32 → Bool) :
    Except Abort (Status × RecorderSystem) :=
  match s.media.recorder with
  | none => .ok (.noInit, s)
  | some r =>
    let service := s.media.service
    if !service.deathNotifierList.contains client then .ok (.badValue, s)
    else if !service.remoteCbList.contains client then .ok (.badValue, s)
    else if !r.isClientValid client then
      .ok (.noError, { s with media := s.media.withService (service.forget r client) })
    else do
      let source ← (r.cameras client).keys.foldlM
        (CameraSource.returnAllImageCaptureBuffers returned) s.media.backends.source
      let t ← AvRecorder.forceCleanup service.remoteCb m
        ⟨⟨r, { s.media.backends with source }⟩, s.audio, s.tracks⟩ client
      .ok (.noError, {
        media := MediaService.withService { s.media with backends := t.media.backends }
          (service.forget t.media.recorder client)
        audio := t.audio
        tracks := t.tracks
        snapshots := s.snapshots.filter (·.client != client)
        givenBack := s.givenBack ++ s.tracks.givenBackSince t.tracks })

def onMedia (s : RecorderSystem) (a : MediaRequest) (returned : Int32 → Bool) :
    Except Abort (Status × RecorderSystem) :=
  match a.request with
  | .clientDeath client m => s.clientDeath client m returned
  | request => do
    let (st, media) ← s.media.step a
    .ok (st, { s with media, audio := s.audioAfter request, tracks := s.tracksAfter request })

/-- The snapshot that a callback delivers. -/
def delivered (s : RecorderSystem) (a : CameraRequest) : List HeldSnapshot :=
  match a with
  | .snapshot camera i buffer =>
    match s.media.camera.snapshot camera i buffer with
    | some (.ok (some d, _)) => [⟨d.client, d.cameraId, buffer.fd⟩]
    | _ => []
  | _ => []

def onImage (s : RecorderSystem) (a : ImageRequest) : Except Abort (Status × RecorderSystem) := do
  let (st, media) ← s.media.onCamera fun c => c.step a.1
  .ok (st, { s with media, snapshots := s.snapshots ++ s.delivered a.1 })

/-- Something that happens to the frames of a track. -/
def onTrack (s : RecorderSystem) (id : UInt32) (a : TrackFlow.Life) :
    Except Abort (Status × RecorderSystem) :=
  match s.tracks[id]? with
  | none => .ok (.badValue, s)
  | some x =>
    match TrackFlow.live x.cfg x.flow a with
    | none => .error .assertion
    | some flow => .ok (.noError, { s with tracks := s.tracks.insert id { x with flow } })

def step (s : RecorderSystem) : SystemRequest → Except Abort (Status × RecorderSystem)
  | .media a cfg returned => do
    let (st, t) ← s.onMedia a returned
    .ok (st, t.settle cfg)
  | .image a => do
    let (st, t) ← s.onImage a
    .ok (st, t.dropReturned)
  | .track id a => s.onTrack id a

/-- The state after a step that returns, whatever status it returns. -/
def next (s : RecorderSystem) (a : SystemRequest) : Option RecorderSystem :=
  match s.step a with
  | .ok (_, t) => some t
  | .error _ => none

def lts : LTS RecorderSystem SystemRequest := .ofStep next

end RecorderSystem

end QmmfSdk.Recorder
