import QmmfSdk.Recorder.Types

/-! `RecorderImpl`: the registry of clients, sessions, tracks and cameras, and its requests. -/
namespace QmmfSdk.Recorder

/-- The maps of `RecorderImpl`. A mutex entry is `false` when the pointer in it is null. -/
structure RecorderImpl where
  uniqueSessionId : UInt32 := 0
  clientSessionMap : IdMap SessionTrackMap := ∅
  clientCameraidMap : IdMap (IdMap Bool) := ∅
  clientState : IdMap ClientState := ∅
  sessionsState : IdMap SessionState := ∅
  sessionsMutexMap : IdMap Bool := ∅
  cameraTracksMap : IdMap (Std.ExtTreeSet UInt32) := ∅
  timelapseMode : IdMap Bool := ∅

/-- A request returns a status and the new state, or takes the service down. -/
abbrev Result := Except Abort (Status × RecorderImpl)

namespace RecorderImpl

/-! ### Lookups -/

def sessions (r : RecorderImpl) (client : UInt32) : SessionTrackMap :=
  r.clientSessionMap[client]?.getD ∅

def tracks (r : RecorderImpl) (client session : UInt32) : TrackInfoMap :=
  (r.sessions client)[session]?.getD ∅

/-- The track registered under a (client, session, track) triple. -/
def track (r : RecorderImpl) (client session track : UInt32) : Option TrackInfo :=
  (r.tracks client session)[track]?

def cameras (r : RecorderImpl) (client : UInt32) : IdMap Bool :=
  r.clientCameraidMap[client]?.getD ∅

/-- The `owned` flag of a client's entry for a camera, when it has an entry. -/
def camera (r : RecorderImpl) (client camera : UInt32) : Option Bool :=
  (r.cameras client)[camera]?

def isClientValid (r : RecorderImpl) (client : UInt32) : Bool :=
  r.clientSessionMap.contains client

def isSessionValid (r : RecorderImpl) (client session : UInt32) : Bool :=
  (r.sessions client).contains session

def isTrackValid (r : RecorderImpl) (client session track : UInt32) : Bool :=
  (r.tracks client session).contains track

/-- The camera is registered for this client and owned by it. -/
def isCameraValid (r : RecorderImpl) (client camera : UInt32) : Bool :=
  r.isClientValid client && r.camera client camera == some true

/-- Another client owns the camera. -/
def isCameraOwned (r : RecorderImpl) (client camera : UInt32) : Bool :=
  r.clientCameraidMap.toList.any fun p => p.1 != client && p.2[camera]? == some true

/-- Some client still uses the camera in slave mode. -/
def hasSlave (r : RecorderImpl) (camera : UInt32) : Bool :=
  r.clientCameraidMap.toList.any fun p => p.2[camera]? == some false

def getCameraClients (r : RecorderImpl) (camera : UInt32) : List UInt32 :=
  (r.clientCameraidMap.toList.filter fun p => p.2.contains camera).map Prod.fst

/-! ### Edits through `operator[]` -/

def updateSessions (r : RecorderImpl) (client : UInt32)
    (f : SessionTrackMap → SessionTrackMap) : RecorderImpl :=
  { r with clientSessionMap := r.clientSessionMap.update client f }

def updateTracks (r : RecorderImpl) (client session : UInt32)
    (f : TrackInfoMap → TrackInfoMap) : RecorderImpl :=
  r.updateSessions client fun m => m.update session f

def updateCameras (r : RecorderImpl) (client : UInt32)
    (f : IdMap Bool → IdMap Bool) : RecorderImpl :=
  { r with clientCameraidMap := r.clientCameraidMap.update client f }

/-- `IsCameraValid` reads `client_cameraid_map_[client_id]`, which creates an empty entry
for a client that has none. -/
def touchCameras (r : RecorderImpl) (client : UInt32) : RecorderImpl :=
  if r.isClientValid client then r.updateCameras client id else r

def setSessionState (r : RecorderImpl) (session : UInt32) (st : SessionState) : RecorderImpl :=
  { r with sessionsState := r.sessionsState.insert session st }

/-- The first enumerator is what `sessions_state_[session_id]` makes of a missing id. -/
def sessionState (r : RecorderImpl) (session : UInt32) : SessionState :=
  r.sessionsState[session]?.getD .active

/-- `IsSessionActive` and its siblings leave the default behind. -/
def touchSessionState (r : RecorderImpl) (session : UInt32) : RecorderImpl :=
  { r with sessionsState := r.sessionsState.insertIfNew session .active }

/-! ### Notifications

`remoteCb id` says whether the service has a remote callback for `id`; looking up a
missing one is a failed assertion. -/

/-- Notifies every client that has a camera map except one. -/
def notifyOthers (remoteCb : UInt32 → Bool) (r : RecorderImpl) (client : UInt32) :
    Except Abort Unit :=
  match r.clientCameraidMap.keys.find? fun id => id != client && !remoteCb id with
  | some id => .error (.remoteCallback id)
  | none => .ok ()

/-- `CameraResultCb` and `CameraErrorCb`: every client with an entry for the camera. -/
def notifyCameraClients (remoteCb : UInt32 → Bool) (r : RecorderImpl) (camera : UInt32) :
    Except Abort Unit :=
  (r.getCameraClients camera).forM fun id =>
    if !r.isClientValid id then .error .assertion
    else if !remoteCb id then .error (.remoteCallback id)
    else .ok ()

/-! ### Clients -/

def registerClient (r : RecorderImpl) (client : UInt32) : RecorderImpl :=
  if r.isClientValid client then r
  else
    { r with
      clientSessionMap := r.clientSessionMap.insertIfNew client ∅
      clientState := r.clientState.insertIfNew client .alive
      clientCameraidMap := r.clientCameraidMap.insertIfNew client ∅ }

/-! ### Cameras -/

/-- `slave` says that the extra parameters ask for `SlaveMode::kSlave`. -/
def startCamera (remoteCb : UInt32 → Bool) (m : Media) (r : RecorderImpl)
    (client camera : UInt32) (slave : Bool) : Result :=
  if !r.isClientValid client then .ok (.badValue, r)
  else if slave && !r.isCameraOwned client camera then .ok (.nameNotFound, r)
  else if slave then
    .ok (.noError, r.updateCameras client fun cs => cs.insertIfNew camera false)
  else if r.isCameraOwned client camera then .ok (.invalidOperation, r)
  else if r.isCameraValid client camera then .ok (.invalidOperation, r.touchCameras client)
  else if m.startCamera camera ≠ .noError then .ok (.badValue, r.touchCameras client)
  else do
    let r := r.touchCameras client
    notifyOthers remoteCb r client
    let r := r.updateCameras client fun cs => cs.insertIfNew camera true
    if m.setFlushCb camera ≠ .noError then .ok (.badValue, r) else .ok (.noError, r)

/-- The wait for the slaves holds `stop_camera_lock_`, which every other `StopCamera` needs,
so it ends at once when there are none and times out otherwise. -/
def stopCamera (remoteCb : UInt32 → Bool) (m : Media) (r : RecorderImpl)
    (client camera : UInt32) : Result :=
  if !r.isClientValid client then .ok (.badValue, r)
  else if r.isCameraOwned client camera then
    .ok (.noError, r.updateCameras client fun cs => cs.erase camera)
  else if !r.isCameraValid client camera then .ok (.invalidOperation, r.touchCameras client)
  else do
    let r := r.touchCameras client
    notifyOthers remoteCb r client
    if r.hasSlave camera then .ok (.timedOut, r)
    else if m.stopCamera camera ≠ .noError then .ok (.badValue, r)
    else do
      let r := r.updateCameras client fun cs => cs.erase camera
      notifyOthers remoteCb r client
      .ok (.noError, r)

/-- Flushes every track that the camera index lists for the camera. -/
def cameraFlushCb (m : Media) (r : RecorderImpl) (camera : UInt32) : Except Abort RecorderImpl := do
  let tolerated (st : Status) : Bool := st == .noError || st == .nameNotFound
  ((r.cameraTracksMap[camera]?.getD ∅).toList).forM fun id =>
    if tolerated (m.flushEncoderTrack id) && tolerated (m.flushCameraTrack id) then .ok ()
    else .error .assertion
  .ok { r with cameraTracksMap := r.cameraTracksMap.insertIfNew camera ∅ }

/-! ### Sessions -/

/-- On success the id handed out is the new `uniqueSessionId`. -/
def createSession (r : RecorderImpl) (client : UInt32) : Result :=
  if !r.isClientValid client then .ok (.badValue, r)
  else
    let session := r.uniqueSessionId + 1
    let r := r.updateSessions client fun m => m.insertIfNew session ∅
    .ok (.noError, { r with
      uniqueSessionId := session
      sessionsState := r.sessionsState.insertIfNew session .idle
      sessionsMutexMap := r.sessionsMutexMap.insertIfNew session true })

def numSessions (r : RecorderImpl) : Nat :=
  (r.clientSessionMap.toList.map fun p => p.2.size).sum

def deleteSession (r : RecorderImpl) (client session : UInt32) : Result :=
  if !r.isClientValid client then .ok (.badValue, r)
  else if !r.isSessionValid client session then .ok (.badValue, r)
  else if !(r.tracks client session).isEmpty then .ok (.invalidOperation, r)
  else
    let r := r.updateSessions client fun m => m.erase session
    let r := { r with
      sessionsState := r.sessionsState.erase session
      sessionsMutexMap := r.sessionsMutexMap.erase session }
    if r.numSessions = 0 then .ok (.noError, { r with uniqueSessionId := 0 })
    else .ok (.noError, r)

/-- A loop over the tracks of a session that stops at the first `break`. -/
def overTracks (f : TrackInfo → Option Status) : List TrackInfo → Status
  | [] => .noError
  | info :: rest =>
    match f info with
    | some st => st
    | none => overTracks f rest

/-- One call of a loop body: go on when it answers `NO_ERROR`, else leave with its answer. -/
def check (st : Status) (next : Option Status) : Option Status :=
  if st ≠ .noError then some st else next

def trackInfos (ts : TrackInfoMap) : List TrackInfo := ts.toList.map Prod.snd

/-- Takes the session lock: the lookups create what is missing, and a null mutex is fatal. -/
def lockSession (r : RecorderImpl) (client session : UInt32) : Except Abort RecorderImpl :=
  let r := r.updateTracks client session id
  match r.sessionsMutexMap[session]? with
  | some true => .ok r
  | _ => .error .nullMutex

def resumeSession (m : Media) (r : RecorderImpl) (client session : UInt32) :
    Status × RecorderImpl :=
  if !r.isClientValid client then (.badValue, r)
  else if !r.isSessionValid client session then (.badValue, r)
  else
    let r := r.touchSessionState session
    if r.sessionState session ≠ .pause then (.noError, r)
    else
      let st := overTracks (fun info =>
        match info.format with
        | .video _ => check (m.video.resumeTrackSource info.trackId) none
        | .audio f => check (m.audio.resumeTrackSource info.trackId)
            (if f ≠ .pcm then check (m.audio.resumeTrackEncoder info.trackId) none else none))
        (trackInfos (r.tracks client session))
      if st = .noError then (st, r.setSessionState session .active) else (st, r)

def pauseSession (m : Media) (r : RecorderImpl) (client session : UInt32) :
    Status × RecorderImpl :=
  if !r.isClientValid client then (.badValue, r)
  else if !r.isSessionValid client session then (.badValue, r)
  else
    let r := r.touchSessionState session
    if r.sessionState session = .pause ∨ r.sessionState session = .idle then (.noError, r)
    else
      let st := overTracks (fun info =>
        match info.format with
        | .video _ => check (m.video.pauseTrackSource info.trackId) none
        | .audio f => check (m.audio.pauseTrackSource info.trackId)
            (if f ≠ .pcm then check (m.audio.pauseTrackEncoder info.trackId) none else none))
        (trackInfos (r.tracks client session)).reverse
      if st = .noError then (st, r.setSessionState session .pause) else (st, r)

/-- The loop of `StartSession` that runs on a thread of its own. A source that answers
`NO_ERROR` but gives no track ends it without an error. -/
def startAudioTracks (m : Media) (infos : List TrackInfo) : Status :=
  overTracks (fun info =>
    match info.format with
    | .video _ => none
    | .audio f => check (m.audio.startTrackSource info.trackId)
        (if f ≠ .pcm then
          let answer := m.getAudioTrackSource info.trackId
          if answer.1 ≠ .noError ∨ !answer.2 then some answer.1
          else check (m.audio.startTrackEncoder info.trackId) none
        else none)) infos

def startVideoTracks (m : Media) (infos : List TrackInfo) : Status :=
  overTracks (fun info =>
    match info.format with
    | .video f => check (m.video.startTrackSource info.trackId)
        (if f.isEncoded then check (m.video.startTrackEncoder info.trackId) none else none)
    | .audio _ => none) infos

/-- Only the status of the video tracks is returned. -/
def startSession (m : Media) (r : RecorderImpl) (client session : UInt32) : Result := do
  let r ← r.lockSession client session
  let r := r.touchSessionState session
  match r.sessionState session with
  | .pause => .ok (.noError, (r.resumeSession m client session).2)
  | .active => .ok (.noError, r)
  | .idle =>
    let infos := trackInfos (r.tracks client session)
    let st := startVideoTracks m infos
    if startAudioTracks m infos = .noError ∧ st = .noError then
      .ok (st, r.setSessionState session .active)
    else .ok (st, r)

def stopTracks (m : Media) (infos : List TrackInfo) : Status :=
  overTracks (fun info =>
    match info.format with
    | .video f => check (m.video.stopTrackSource info.trackId)
        (if f.isEncoded then check (m.video.stopTrackEncoder info.trackId) none else none)
    | .audio f => check (m.audio.stopTrackSource info.trackId)
        (if f ≠ .pcm then check (m.audio.stopTrackEncoder info.trackId) none else none))
    infos.reverse

def stopSession (m : Media) (r : RecorderImpl) (client session : UInt32) : Result := do
  let r ← r.lockSession client session
  let r := r.touchSessionState session
  if r.sessionState session = .idle then .ok (.noError, r)
  else
    let st := stopTracks m (trackInfos (r.tracks client session))
    if st = .noError then .ok (st, r.setSessionState session .idle) else .ok (st, r)

/-! ### Tracks -/

/-- Client, session and track id packed by shifts into 32 bits. -/
def getUniqueServiceTrackId (client session track : UInt32) : UInt32 :=
  client <<< 24 ||| session <<< 16 ||| track

def isAudioTrackCreateParamValid (p : AudioTrackCreateParam) : Bool :=
  p.format != .mpegh ||
    (p.channels == 4 && p.sampleRate == 48000 &&
      (p.mpeghBitRate == 307200 || p.mpeghBitRate == 393216 || p.mpeghBitRate == 524288))

def associateTrack (r : RecorderImpl) (client session track : UInt32) (format : TrackFormat) :
    RecorderImpl :=
  r.updateTracks client session fun ts =>
    ts.insertIfNew track ⟨getUniqueServiceTrackId client session track, format⟩

def createAudioTrack (m : Media) (r : RecorderImpl) (client session track : UInt32)
    (p : AudioTrackCreateParam) : Result :=
  if !r.isClientValid client then .ok (.badValue, r)
  else if !r.isSessionValid client session then .ok (.badValue, r)
  else if r.isTrackValid client session track then .ok (.badValue, r)
  else if !isAudioTrackCreateParamValid p then .ok (.badValue, r)
  else
    let id := getUniqueServiceTrackId client session track
    if m.audio.createTrackSource id ≠ .noError then .ok (.badValue, r)
    else if p.format ≠ .pcm ∧ m.audio.addSource id ≠ .noError then .ok (.badValue, r)
    else .ok (.noError, r.associateTrack client session track (.audio p.format))

/-- The first loop over a session: a track of exactly the requested size. -/
def findSameSize (m : Media) (p : VideoTrackCreateParam) :
    List TrackInfo → Except Abort (Option UInt32)
  | [] => .ok none
  | info :: rest =>
    match m.trackSize info.trackId with
    | none => .error .assertion
    | some (w, h) =>
      if p.width = w ∧ p.height = h then .ok (some info.trackId) else findSameSize m p rest

/-- The second loop over a session: the lowest resolution that covers the requested one. -/
def findBiggerSize (m : Media) (p : VideoTrackCreateParam) (selected : Option UInt32)
    (selectedWidth selectedHeight : UInt32) : List TrackInfo → Except Abort (Option UInt32)
  | [] => .ok selected
  | info :: rest =>
    match m.trackSize info.trackId with
    | none => .error .assertion
    | some (w, h) =>
      if (p.width ≤ w ∧ p.height ≤ h) ∧
          ((selectedWidth = 0 ∨ w < selectedWidth) ∨ (selectedHeight = 0 ∨ h < selectedHeight)) then
        findBiggerSize m p (some info.trackId) w h rest
      else findBiggerSize m p selected selectedWidth selectedHeight rest

/-- All sessions in turn. A size match of a later session replaces what was selected; the
search for a bigger track is skipped once anything is selected. -/
def findInSessions (m : Media) (p : VideoTrackCreateParam) (selected : Option UInt32) :
    List TrackInfoMap → Except Abort (Option UInt32)
  | [] => .ok selected
  | ts :: rest => do
    match (← findSameSize m p (trackInfos ts)) with
    | some id => findInSessions m p (some id) rest
    | none =>
      if selected.isSome then findInSessions m p selected rest
      else findInSessions m p (← findBiggerSize m p none 0 0 (trackInfos ts)) rest

/-- `none` stands for the `-1` that the source returns when nothing is suitable. -/
def findSuitableIdForLinkedTrack (m : Media) (r : RecorderImpl) (p : VideoTrackCreateParam) :
    Except Abort (Option UInt32) :=
  match (r.getCameraClients p.cameraId).find? fun id => r.isCameraValid id p.cameraId with
  | some id => findInSessions m p none ((r.sessions id).toList.map Prod.snd)
  | none => .ok none

/-- What the overload with extra parameters does before it creates the track: it goes on
unless a linked track was asked for and none is suitable, which a track whose id reads as `-1`
is not. A named source track is only translated to its service id. -/
def resolveSourceTrack (m : Media) (r : RecorderImpl) (p : VideoTrackCreateParam)
    (extra : VideoExtraParam) : Except Abort Bool :=
  if extra.sourceVideoTrackId.isSome then .ok true
  else if extra.useLinkedTrackInSlaveMode = some true then do
    .ok ((← r.findSuitableIdForLinkedTrack m p).any (· ≠ 0xffffffff))
  else .ok true

/-- Both overloads: the one without extra parameters runs with no tag set. -/
def createVideoTrack (m : Media) (r : RecorderImpl) (client session track : UInt32)
    (p : VideoTrackCreateParam) (extra : VideoExtraParam) : Result :=
  if !r.isClientValid client then .ok (.badValue, r)
  else if !r.isSessionValid client session then .ok (.badValue, r)
  else if r.isTrackValid client session track then .ok (.badValue, r)
  else do
    let id := getUniqueServiceTrackId client session track
    if !(← r.resolveSourceTrack m p extra) then .ok (.badValue, r)
    else if m.video.createTrackSource id ≠ .noError then .ok (.badValue, r)
    else if p.formatType.isEncoded ∧ m.video.addSource id ≠ .noError then .ok (.badValue, r)
    else
      let timelapse := p.formatType.isEncoded && extra.videoTimelapseInterval
      let r := if timelapse then
        { r with timelapseMode := r.timelapseMode.insertIfNew track true } else r
      if timelapse ∧ m.video.setTrackEncoderParams id ≠ .noError then
        .ok (m.video.setTrackEncoderParams id, r)
      else
        let r := { r with
          cameraTracksMap := r.cameraTracksMap.update p.cameraId fun ids => ids.insert id }
        .ok (.noError, r.associateTrack client session track (.video p.formatType))

def deleteAudioTrack (m : Media) (r : RecorderImpl) (client session track : UInt32) : Result :=
  if !r.isClientValid client then .ok (.badValue, r)
  else if !r.isSessionValid client session then .ok (.badValue, r)
  else
    match r.track client session track with
    | none => .ok (.badValue, r)
    | some ⟨_, .video _⟩ => .error .assertion
    | some ⟨id, .audio f⟩ =>
      if id = 0 then .error .assertion
      else if m.audio.deleteTrackSource id ≠ .noError then
        .ok (m.audio.deleteTrackSource id, r)
      else if f ≠ .pcm ∧ m.audio.deleteTrackEncoder id ≠ .noError then
        .ok (m.audio.deleteTrackEncoder id, r)
      else .ok (.noError, r.updateTracks client session fun ts => ts.erase track)

/-- The camera index is searched by service track id, but it is the client's track id that
is erased from the set found. -/
def dropCameraTrack (r : RecorderImpl) (serviceTrack track : UInt32) : RecorderImpl :=
  match r.cameraTracksMap.toList.find? fun p => p.2.contains serviceTrack with
  | some p => { r with cameraTracksMap := r.cameraTracksMap.insert p.1 (p.2.erase track) }
  | none => r

def deleteVideoTrack (remoteCb : UInt32 → Bool) (m : Media) (r : RecorderImpl)
    (client session track : UInt32) : Result :=
  if !r.isClientValid client then .ok (.badValue, r)
  else if !r.isSessionValid client session then .ok (.badValue, r)
  else
    match r.track client session track with
    | none => .ok (.badValue, r)
    | some ⟨_, .audio _⟩ => .error .assertion
    | some ⟨id, .video f⟩ =>
      if id = 0 then .error .assertion
      else if m.video.deleteTrackSource id ≠ .noError then
        .ok (m.video.deleteTrackSource id, r)
      else if f.isEncoded ∧ m.video.deleteTrackEncoder id ≠ .noError then
        .ok (m.video.deleteTrackEncoder id, r)
      else
        let r := (r.dropCameraTrack id track).updateTracks client session fun ts => ts.erase track
        if !remoteCb client then .error (.remoteCallback client)
        else .ok (.noError, { r with timelapseMode := r.timelapseMode.erase track })

/-! ### Leaving -/

/-- `ForceReturnBuffers`, as far as it changes the registry. -/
def forceReturnBuffers (m : Media) (r : RecorderImpl) (client : UInt32) :
    Except Abort RecorderImpl :=
  let r := r.updateCameras client id
  (r.cameras client).keys.foldlM (fun r camera => r.cameraFlushCb m camera) r

def deleteTrack (remoteCb : UInt32 → Bool) (m : Media) (client session : UInt32)
    (r : RecorderImpl) (p : UInt32 × TrackInfo) : Except Abort RecorderImpl := do
  match p.2.format with
  | .video _ => .ok (← r.deleteVideoTrack remoteCb m client session p.1).2
  | .audio _ => .ok (← r.deleteAudioTrack m client session p.1).2

/-- One session of a dead client. Failures are logged and the cleanup carries on. -/
def cleanupSession (remoteCb : UInt32 → Bool) (m : Media) (client : UInt32)
    (r : RecorderImpl) (p : UInt32 × TrackInfoMap) : Except Abort RecorderImpl := do
  let r := (← r.stopSession m client p.1).2
  let r ← p.2.toList.reverse.foldlM (deleteTrack remoteCb m client p.1) r
  .ok (← r.deleteSession client p.1).2

/-- The forced branch erases the client from `client_session_map_` before it stops the
cameras, so each `StopCamera` is refused there. -/
def deRegisterClient (remoteCb : UInt32 → Bool) (m : Media) (r : RecorderImpl)
    (client : UInt32) (forceCleanup : Bool) : Result :=
  if !r.isClientValid client then .ok (.badValue, r)
  else if !forceCleanup then
    let r := r.updateCameras client id
    if (r.cameras client).isEmpty then
      .ok (.noError, { r with clientCameraidMap := r.clientCameraidMap.erase client })
    else .ok (.noError, r)
  else do
    let r := { r with clientState := r.clientState.insert client .dead }
    let r ← r.forceReturnBuffers m client
    let r ← (r.sessions client).toList.foldlM (cleanupSession remoteCb m client) r
    let r := { r with clientSessionMap := r.clientSessionMap.erase client }
    let r := r.updateCameras client id
    let r ← (r.cameras client).keys.foldlM
      (fun r camera => do .ok (← r.stopCamera remoteCb m client camera).2) r
    .ok (.noError, { r with
      clientCameraidMap := r.clientCameraidMap.erase client
      clientState := r.clientState.erase client })

end RecorderImpl

end QmmfSdk.Recorder
