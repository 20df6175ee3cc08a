import QmmfSdk.Library.Transition
import QmmfSdk.Recorder.Types

/-! `RecorderClient`, the callback proxy that the service has for it, and the one-way notifications
between them. Each side remembers which buffers were shared. -/
namespace QmmfSdk.Client

open Library Recorder

/-- The memory behind a file descriptor, named by what the service attached it for. -/
structure Descriptor where
  connection : Nat
  session : UInt32
  track : UInt32
  buffer : UInt32
  deriving DecidableEq, Repr

/-- `BufferInfo`: `failed` is descriptor -1 mapped (`mmap` answers `MAP_FAILED`, which `MapBuffer`
does not take for an error), `unmapped` is left when `DeleteVideoTrack` gives up halfway. -/
inductive BufferInfo where
  | mapped (d : Descriptor)
  | failed
  | unmapped
  deriving DecidableEq, Repr

/-- One buffer of a notification; `ismapped` is set when no descriptor is attached. -/
structure BnBuffer where
  bufferId : UInt32
  ionFd : Option Descriptor
  deriving DecidableEq, Repr

/-- A `RECORDER_NOTIFY_VIDEO_TRACK_DATA` transaction. -/
structure Notification where
  connection : Nat
  sessionId : UInt32
  trackId : UInt32
  buffers : List BnBuffer
  deriving DecidableEq, Repr

/-- A buffer passed to the data callback of a track, and the connection at that time. -/
structure BufferDescriptor where
  connection : Nat
  sessionId : UInt32
  trackId : UInt32
  bufId : UInt32
  info : BufferInfo
  deriving DecidableEq, Repr

/-- A call of `DeleteVideoTrack` that holds the client's lock: before and after the service's
answer. -/
inductive Deleting where
  | asked (session track : UInt32)
  | answered (session track : UInt32) (ok : Bool)
  deriving DecidableEq, Repr

abbrev BufferMap := IdMap (IdMap BufferInfo)

/-- A call of `NotifyVideoTrackData` in progress: the notification with the buffers not looked up
yet, the buffer that was not found and is being mapped, the buffers for the callback, and whether
the callback is found and about to be called. -/
structure Receiving where
  notification : Notification
  mapping : Option BnBuffer := none
  trackBuffers : List (UInt32 × BufferInfo) := []
  found : Bool := false
  deriving DecidableEq, Repr

/-- `trackCbList` has the tracks with a data callback. -/
structure RecorderClient where
  connected : Bool := false
  connection : Nat := 0
  sessions : IdMap (Std.ExtTreeSet UInt32) := ∅
  trackCbList : IdMap (Std.ExtTreeSet UInt32) := ∅
  trackBuffersMap : BufferMap := ∅
  deleting : Option Deleting := none

/-- What the service keeps for the connected client: its sessions with their video tracks, those
that are started, and the proxy's record of buffers sent. -/
structure Peer where
  sessions : IdMap (Std.ExtTreeSet UInt32) := ∅
  started : Std.ExtTreeSet UInt32 := ∅
  trackBuffersMap : IdMap (Std.ExtTreeSet UInt32) := ∅

/-- Both ends, what is in flight and the call that receives, with a record of the buffers passed to
callbacks and of those that came without a descriptor and were not in the client's map. One-way
calls of one binder object come one at a time. -/
structure Link where
  client : RecorderClient := {}
  service : Peer := {}
  inFlight : List Notification := []
  receiving : Option Receiving := none
  exposed : List BufferDescriptor := []
  missed : List (UInt32 × UInt32) := []

def hasTrack (sessions : IdMap (Std.ExtTreeSet UInt32)) (session track : UInt32) : Bool :=
  (sessions[session]?).any fun tracks => tracks.contains track

/-- The entry of a buffer in the client's map. -/
def cachedInfo (m : BufferMap) (track buffer : UInt32) : Option BufferInfo :=
  (m[track]?.getD ∅)[buffer]?

namespace Peer

/-- The proxy has sent the descriptor of the buffer before. -/
def marked (p : Peer) (track buffer : UInt32) : Bool :=
  (p.trackBuffersMap[track]?.getD ∅).contains buffer

def mark (p : Peer) (track buffer : UInt32) : Peer :=
  { p with trackBuffersMap := p.trackBuffersMap.update track fun ids => ids.insert buffer }

/-- The loop of `BpRecorderServiceCallback::NotifyVideoTrackData`: a descriptor is attached the
first time only. -/
def packBuffers (p : Peer) (connection : Nat) (session track : UInt32) :
    List UInt32 → List BnBuffer × Peer
  | [] => ([], p)
  | id :: ids =>
    if p.marked track id then
      let (bs, p) := p.packBuffers connection session track ids
      (⟨id, none⟩ :: bs, p)
    else
      let (bs, p) := (p.mark track id).packBuffers connection session track ids
      (⟨id, some ⟨connection, session, track, id⟩⟩ :: bs, p)

/-- `BpRecorderServiceCallback::NotifyDeleteVideoTrack`. -/
def notifyDeleteVideoTrack (p : Peer) (track : UInt32) : Peer :=
  { p with trackBuffersMap := p.trackBuffersMap.erase track }

/-- `RecorderImpl::DeleteVideoTrack`: `ok` is the answer of the back ends. -/
def deleteVideoTrack (p : Peer) (session track : UInt32) (ok : Bool) : Bool × Peer :=
  if ok && hasTrack p.sessions session track then
    (true, { p with sessions := p.sessions.update session fun ts => ts.erase track }
      |>.notifyDeleteVideoTrack track)
  else (false, p)

end Peer

def mapBuffer : Option Descriptor → BufferInfo
  | some d => .mapped d
  | none => .failed

/-- `emplace` leaves the entry that is there. -/
def emplaceInfo (m : BufferMap) (track : UInt32) (b : BnBuffer) : BufferMap :=
  m.update track fun infos => infos.insertIfNew b.bufferId (mapBuffer b.ionFd)

/-- Unmaps the buffers of a track in order. A mapping that had failed stops the loop, and the map
of the track stays as it is then. -/
def unmapBuffers (infos : IdMap BufferInfo) : Option (IdMap BufferInfo) :=
  match infos.toList.find? fun x => x.2 == .failed with
  | some (id, _) => some (infos.map fun i info => if i < id then .unmapped else info)
  | none => none

namespace RecorderClient

/-- `DeleteVideoTrack` up to the call of the service: whether the call is made. -/
def dropTrackBuffers (c : RecorderClient) (track : UInt32) : Bool × RecorderClient :=
  match c.trackBuffersMap[track]? with
  | none => (true, c)
  | some infos =>
    match unmapBuffers infos with
    | some infos => (false, { c with trackBuffersMap := c.trackBuffersMap.insert track infos })
    | none => (true, { c with trackBuffersMap := c.trackBuffersMap.erase track })

end RecorderClient

namespace Receiving

/-- The buffers that the call has not prepared yet. -/
def rest (r : Receiving) : Notification :=
  { r.notification with buffers := r.mapping.toList ++ r.notification.buffers }

/-- The call holds copies of entries. A mapping that leaves the map `m` is unmapped behind them. -/
def lose (r : Receiving) (m m' : BufferMap) : Receiving :=
  { r with trackBuffers := r.trackBuffers.map fun x =>
      let track := r.notification.trackId
      if cachedInfo m track x.1 == some x.2 && cachedInfo m' track x.1 != some x.2 then
        (x.1, .unmapped)
      else x }

end Receiving

namespace Link

/-- The client's calls, the service's part of a deletion, frames of the service, and the steps of
`NotifyVideoTrackData` for the oldest notification: one lookup for each buffer, a mapping for each
that is not found, the lookup of the callback and its call. `ok` is the answer of the service's
back ends. -/
inductive Action where
  | connect
  | disconnect
  | createSession (session : UInt32) (ok : Bool)
  | deleteSession (session : UInt32) (ok : Bool)
  | startSession (session : UInt32) (ok : Bool)
  | stopSession (session : UInt32) (ok : Bool)
  | createVideoTrack (session track : UInt32) (ok : Bool)
  | deleteVideoTrack (session track : UInt32)
  | serviceDeletes (ok : Bool)
  | deletionReturns
  | notifyVideoTrackData (session track : UInt32) (buffers : List UInt32)
  | receive
  | lookUp
  | mapBuffer
  | findCallback
  | dataCb
  deriving DecidableEq, Repr

def connect (s : Link) : Link :=
  if s.client.connected then s
  else
    { s with
      client := { s.client with
        connected := true, connection := s.client.connection + 1, trackCbList := ∅ }
      service := {} }

/-- The client's map of buffers is not among the things that are cleared. The service forgets the
client, so no further frames come. -/
def disconnect (s : Link) : Link :=
  if s.client.connected then
    { s with
      client := { s.client with connected := false, sessions := ∅, trackCbList := ∅ }
      service := {} }
  else s

/-- Session ids are chosen by the service, which uses none twice at a time (`none`). -/
def createSession (s : Link) (session : UInt32) (ok : Bool) : Option Link :=
  if !s.client.connected || !ok then some s
  else if s.service.sessions.contains session then none
  else some { s with
    client := { s.client with sessions := s.client.sessions.insertIfNew session ∅ }
    service := { s.service with sessions := s.service.sessions.insert session ∅ } }

/-- The client forgets the session even when the service refuses. -/
def deleteSession (s : Link) (session : UInt32) (ok : Bool) : Link :=
  match s.client.sessions[session]? with
  | none => s
  | some tracks =>
    if !s.client.connected || !tracks.isEmpty then s
    else
      { s with
        client := { s.client with sessions := s.client.sessions.erase session }
        service := if ok then { s.service with sessions := s.service.sessions.erase session }
          else s.service }

/-- `StartSession` and `StopSession`. Frames may still come after a session is stopped. -/
def setStarted (s : Link) (session : UInt32) (on ok : Bool) : Link :=
  if s.client.connected && s.client.sessions.contains session && ok then
    { s with service := { s.service with
      started := if on then s.service.started.insert session else s.service.started.erase session } }
  else s

/-- Track id 0 fails an assertion (`none`). -/
def createVideoTrack (s : Link) (session track : UInt32) (ok : Bool) : Option Link :=
  if s.client.connected && track == 0 then none
  else if s.client.connected && s.client.sessions.contains session &&
      !hasTrack s.client.sessions session track && ok && s.service.sessions.contains session &&
      !hasTrack s.service.sessions session track then
    some { s with
      client := { s.client with
        sessions := s.client.sessions.update session fun ts => ts.insert track
        trackCbList := s.client.trackCbList.update session fun ts => ts.insert track }
      service := { s.service with
        sessions := s.service.sessions.update session fun ts => ts.insert track } }
  else some s

/-- A call of `NotifyVideoTrackData` goes on meanwhile. -/
def deleteVideoTrack (s : Link) (session track : UInt32) : Link :=
  if s.client.connected && hasTrack s.client.sessions session track then
    let (calls, c) := s.client.dropTrackBuffers track
    { s with
      client := if calls then { c with deleting := some (.asked session track) } else c
      receiving := s.receiving.map fun r =>
        r.lose s.client.trackBuffersMap c.trackBuffersMap }
  else s

def serviceDeletes (s : Link) (ok : Bool) : Option Link :=
  match s.client.deleting with
  | some (.asked session track) =>
    let (done, p) := s.service.deleteVideoTrack session track ok
    some { s with
      client := { s.client with deleting := some (.answered session track done) }
      service := p }
  | _ => none

def deletionReturns (s : Link) : Option Link :=
  match s.client.deleting with
  | some (.answered session track done) =>
    let c := { s.client with deleting := none }
    some { s with client := if done then
      { c with
        sessions := c.sessions.update session fun ts => ts.erase track
        trackCbList := c.trackCbList.update session fun ts => ts.erase track }
      else c }
  | _ => none

/-- A frame of a track that the service has. -/
def notifyVideoTrackData (s : Link) (session track : UInt32) (buffers : List UInt32) :
    Option Link :=
  if hasTrack s.service.sessions session track then
    let connection := s.client.connection
    let (bs, p) := s.service.packBuffers connection session track buffers
    some { s with
      service := p
      inFlight := s.inFlight ++ [⟨connection, session, track, bs⟩] }
  else none

def receive (s : Link) : Option Link :=
  match s.receiving, s.inFlight with
  | none, n :: rest => some { s with receiving := some { notification := n }, inFlight := rest }
  | _, _ => none

/-- The lookup under `track_buffers_lock_`. Whether a buffer is known is decided here. -/
def lookUp (s : Link) : Option Link :=
  match s.receiving with
  | some ⟨⟨connection, session, track, b :: bs⟩, none, bufs, found⟩ =>
    let n := ⟨connection, session, track, bs⟩
    match cachedInfo s.client.trackBuffersMap track b.bufferId with
    | some info =>
      some { s with receiving := some ⟨n, none, bufs ++ [(b.bufferId, info)], found⟩ }
    | none =>
      some { s with
        receiving := some ⟨n, some b, bufs, found⟩
        missed := if b.ionFd.isNone then s.missed ++ [(track, b.bufferId)] else s.missed }
  | _ => none

/-- Without a connection `MapBuffer` fails its assertion (`none`). -/
def mapBuffer (s : Link) : Option Link :=
  match s.receiving with
  | some ⟨n, some b, bufs, found⟩ =>
    if s.client.connected then
      some { s with
        client := { s.client with
          trackBuffersMap := emplaceInfo s.client.trackBuffersMap n.trackId b }
        receiving := some ⟨n, none, bufs ++ [(b.bufferId, Client.mapBuffer b.ionFd)], found⟩ }
    else none
  | _ => none

def findCallback (s : Link) : Option Link :=
  match s.receiving with
  | some ⟨⟨connection, session, track, []⟩, none, bufs, false⟩ =>
    if hasTrack s.client.trackCbList session track then
      some { s with receiving := some ⟨⟨connection, session, track, []⟩, none, bufs, true⟩ }
    else some { s with receiving := none }
  | _ => none

/-- `data_cb` is called with no lock held. -/
def dataCb (s : Link) : Option Link :=
  match s.receiving with
  | some ⟨⟨_, session, track, []⟩, none, bufs, true⟩ =>
    some { s with
      receiving := none
      exposed := s.exposed ++ bufs.map fun x => ⟨s.client.connection, session, track, x.1, x.2⟩ }
  | _ => none

/-- What is in flight or left to prepare, oldest first. -/
def pending (s : Link) : List Notification :=
  (s.receiving.map Receiving.rest).toList ++ s.inFlight

/-- A call of the client waits for its lock while a deletion is going on (`none`). -/
def locked (s : Link) (t : Option Link) : Option Link :=
  if s.client.deleting.isSome then none else t

def step (s : Link) : Action → Option Link
  | .connect => s.locked (some s.connect)
  | .disconnect => s.locked (some s.disconnect)
  | .createSession session ok => s.locked (s.createSession session ok)
  | .deleteSession session ok => s.locked (some (s.deleteSession session ok))
  | .startSession session ok => s.locked (some (s.setStarted session true ok))
  | .stopSession session ok => s.locked (some (s.setStarted session false ok))
  | .createVideoTrack session track ok => s.locked (s.createVideoTrack session track ok)
  | .deleteVideoTrack session track => s.locked (some (s.deleteVideoTrack session track))
  | .serviceDeletes ok => s.serviceDeletes ok
  | .deletionReturns => s.deletionReturns
  | .notifyVideoTrackData session track buffers => s.notifyVideoTrackData session track buffers
  | .receive => s.receive
  | .lookUp => s.lookUp
  | .mapBuffer => s.mapBuffer
  | .findCallback => s.findCallback
  | .dataCb => s.dataCb

def lts : LTS Link Action := .ofStep step

end Link

end QmmfSdk.Client
