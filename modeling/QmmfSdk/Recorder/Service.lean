import QmmfSdk.Recorder.Impl
import QmmfSdk.Library.Transition

/-! `RecorderService`: connection bookkeeping around one `RecorderImpl`, and the requests of
any number of clients as a transition system. -/
namespace QmmfSdk.Recorder

/-- `recorder_` exists from the first connection to the last disconnection. -/
structure Service where
  recorder : Option RecorderImpl := none
  deathNotifierList : IdMap Unit := ∅
  remoteCbList : IdMap Unit := ∅
  uniqueClientId : UInt32 := 0

/-- One request of a client, one death notification or one camera callback. A request
carries what the media back ends will answer to it. -/
inductive Request where
  | connect (init : Status)
  | disconnect (client : UInt32)
  | clientDeath (client : UInt32) (m : Media)
  | startCamera (client camera : UInt32) (slave : Bool) (m : Media)
  | stopCamera (client camera : UInt32) (m : Media)
  | createSession (client : UInt32)
  | deleteSession (client session : UInt32)
  | startSession (client session : UInt32) (m : Media)
  | stopSession (client session : UInt32) (m : Media)
  | pauseSession (client session : UInt32) (m : Media)
  | resumeSession (client session : UInt32) (m : Media)
  | createVideoTrack (client session track : UInt32) (p : VideoTrackCreateParam)
      (extra : VideoExtraParam) (m : Media)
  | createAudioTrack (client session track : UInt32) (p : AudioTrackCreateParam) (m : Media)
  | deleteVideoTrack (client session track : UInt32) (m : Media)
  | deleteAudioTrack (client session track : UInt32) (m : Media)
  | cameraResult (camera : UInt32)
  | cameraError (camera : UInt32)

namespace Service

def initial : Service := {}

def remoteCb (s : Service) (client : UInt32) : Bool := s.remoteCbList.contains client

/-- `init` is what `RecorderImpl::Init` answers when the recorder has to be created. -/
def connect (s : Service) (init : Status) : Status × Service :=
  if s.recorder.isNone ∧ init ≠ .noError then (init, s)
  else
    let client := s.uniqueClientId + 1
    (.noError,
      { recorder := some ((s.recorder.getD {}).registerClient client)
        deathNotifierList := s.deathNotifierList.insertIfNew client ()
        remoteCbList := s.remoteCbList.insertIfNew client ()
        uniqueClientId := client })

/-- What `Disconnect` and `DisconnectInternal` share once the client was de-registered: the
recorder goes away with its last client. -/
def forget (s : Service) (r : RecorderImpl) (client : UInt32) : Service :=
  let deaths := s.deathNotifierList.erase client
  let cbs := s.remoteCbList.erase client
  if deaths.isEmpty && cbs.isEmpty then
    { recorder := none, deathNotifierList := deaths, remoteCbList := cbs, uniqueClientId := 0 }
  else { s with recorder := some r, deathNotifierList := deaths, remoteCbList := cbs }

/-- `Disconnect` with `force = false`, `DisconnectInternal` with `force = true`. -/
def leave (s : Service) (client : UInt32) (m : Media) (force : Bool) :
    Except Abort (Status × Service) :=
  match s.recorder with
  | none => .ok (.noInit, s)
  | some r =>
    if !s.deathNotifierList.contains client then .ok (.badValue, s)
    else if !s.remoteCbList.contains client then .ok (.badValue, s)
    else do
      let r := (← r.deRegisterClient s.remoteCb m client force).2
      .ok (.noError, s.forget r client)

/-- Every other request is refused while there is no recorder. -/
def onRecorder (s : Service) (unset : Status) (f : RecorderImpl → Result) :
    Except Abort (Status × Service) :=
  match s.recorder with
  | none => .ok (unset, s)
  | some r => do
    let (st, r) ← f r
    .ok (st, { s with recorder := some r })

/-- Track ids above 16 bits are refused before the recorder sees them. -/
def isTrackIdAccepted (track : UInt32) : Bool := track &&& 0xffff0000 == 0

def step (s : Service) : Request → Except Abort (Status × Service)
  | .connect init => .ok (s.connect init)
  | .disconnect client => s.leave client {} false
  | .clientDeath client m => s.leave client m true
  | .startCamera client camera slave m =>
    s.onRecorder .badValue fun r => r.startCamera s.remoteCb m client camera slave
  | .stopCamera client camera m =>
    s.onRecorder .noInit fun r => r.stopCamera s.remoteCb m client camera
  | .createSession client => s.onRecorder .noInit fun r => r.createSession client
  | .deleteSession client session =>
    s.onRecorder .noInit fun r => r.deleteSession client session
  | .startSession client session m =>
    s.onRecorder .noInit fun r => r.startSession m client session
  | .stopSession client session m =>
    s.onRecorder .noInit fun r => r.stopSession m client session
  | .pauseSession client session m =>
    s.onRecorder .noInit fun r => .ok (r.pauseSession m client session)
  | .resumeSession client session m =>
    s.onRecorder .noInit fun r => .ok (r.resumeSession m client session)
  | .createVideoTrack client session track p extra m =>
    s.onRecorder .noInit fun r =>
      if !isTrackIdAccepted track then .ok (.badValue, r)
      else r.createVideoTrack m client session track p extra
  | .createAudioTrack client session track p m =>
    s.onRecorder .noInit fun r =>
      if !isTrackIdAccepted track then .ok (.badValue, r)
      else r.createAudioTrack m client session track p
  | .deleteVideoTrack client session track m =>
    s.onRecorder .noInit fun r => r.deleteVideoTrack s.remoteCb m client session track
  | .deleteAudioTrack client session track m =>
    s.onRecorder .noInit fun r => r.deleteAudioTrack m client session track
  | .cameraResult camera | .cameraError camera =>
    s.onRecorder .noInit fun r => do
      r.notifyCameraClients s.remoteCb camera
      .ok (.noError, r)

/-- The state after a request that returns, whatever status it returns. -/
def next (s : Service) (a : Request) : Option Service :=
  match s.step a with
  | .ok (_, t) => some t
  | .error _ => none

/-- Requests of all clients in any order, each taken as one step. -/
def lts : Library.LTS Service Request := .ofStep next

end Service

end QmmfSdk.Recorder
