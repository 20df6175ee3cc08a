import QmmfSdk.Client.Link
import QmmfSdk.Recorder.OtherClients

/-! The sessions and tracks of one client, which it keeps itself and the service keeps for it. Each call
of the client changes both, or neither. -/
namespace QmmfSdk.Client

open Library Recorder

/-- `id` is `client_id_`, and `sessionCbList` has the sessions with a callback. -/
structure SessionClient extends RecorderClient where
  id : UInt32 := 0
  sessionCbList : Std.ExtTreeSet UInt32 := ∅

/-- The calls that change sessions and tracks, each with what the media back ends will answer. Both
overloads of `CreateVideoTrack`: the one without extra parameters has no tag set. -/
inductive SessionCall where
  | createSession
  | deleteSession (session : UInt32)
  | createVideoTrack (session track : UInt32) (p : VideoTrackCreateParam) (extra : VideoExtraParam)
      (m : Media)
  | createAudioTrack (session track : UInt32) (p : AudioTrackCreateParam) (m : Media)
  | deleteVideoTrack (session track : UInt32) (m : Media)
  | deleteAudioTrack (session track : UInt32) (m : Media)

/-- The client and the service that it is connected to. -/
structure Replicas where
  client : SessionClient
  service : Service

namespace SessionClient

def addSession (c : SessionClient) (session : UInt32) : SessionClient :=
  { c with
    sessions := c.sessions.insertIfNew session ∅
    sessionCbList := c.sessionCbList.insert session }

def dropSession (c : SessionClient) (session : UInt32) : SessionClient :=
  { c with
    sessions := c.sessions.erase session
    sessionCbList := c.sessionCbList.erase session }

/-- `UpdateSessionTopology` and the callback of the track. -/
def addTrack (c : SessionClient) (session track : UInt32) : SessionClient :=
  { c with
    sessions := c.sessions.update session fun ts => ts.insert track
    trackCbList := c.trackCbList.update session fun ts => ts.insert track }

def dropTrack (c : SessionClient) (session track : UInt32) : SessionClient :=
  { c with
    sessions := c.sessions.update session fun ts => ts.erase track
    trackCbList := c.trackCbList.update session fun ts => ts.erase track }

end SessionClient

namespace Replicas

/-- The id that the service gave out last. -/
def newSession (v : Service) : UInt32 :=
  v.recorder.elim 0 (·.uniqueSessionId)

/-- The request goes to the service, and the client follows what it answers. -/
def forward (s : Replicas) (a : Request) (follow : Status → Service → SessionClient → SessionClient) :
    Except Abort (Status × Replicas) :=
  if s.client.id = 0 then .error .assertion
  else do
    let (st, v) ← s.service.step a
    .ok (st, { client := follow st v s.client, service := v })

/-- What a client does only when the service has done its part. -/
def onSuccess (f : SessionClient → SessionClient) (st : Status) (_ : Service) (c : SessionClient) :
    SessionClient :=
  if st = .noError then f c else c

def createSession (s : Replicas) : Except Abort (Status × Replicas) :=
  if !s.client.connected then .ok (.noInit, s)
  else s.forward (.createSession s.client.id) fun st v =>
    onSuccess (·.addSession (newSession v)) st v

/-- The session is forgotten whatever the service answers. -/
def deleteSession (s : Replicas) (session : UInt32) : Except Abort (Status × Replicas) :=
  if !s.client.connected then .ok (.noInit, s)
  else
    match s.client.sessions[session]? with
    | none => .ok (.badValue, s)
    | some tracks =>
      if !tracks.isEmpty then .ok (.invalidOperation, s)
      else if session = 0 then .error .assertion
      else s.forward (.deleteSession s.client.id session) fun _ _ c => c.dropSession session

/-- What the creation of a track checks before the service is asked. -/
def createTrack (s : Replicas) (session track : UInt32) (a : Request) :
    Except Abort (Status × Replicas) :=
  if !s.client.connected then .ok (.noInit, s)
  else if track = 0 then .error .assertion
  else if !s.client.sessions.contains session then .ok (.badValue, s)
  else if hasTrack s.client.sessions session track then .ok (.badValue, s)
  else s.forward a (onSuccess (·.addTrack session track))

def createVideoTrack (s : Replicas) (session track : UInt32) (p : VideoTrackCreateParam)
    (extra : VideoExtraParam) (m : Media) : Except Abort (Status × Replicas) :=
  s.createTrack session track (.createVideoTrack s.client.id session track p extra m)

def createAudioTrack (s : Replicas) (session track : UInt32) (p : AudioTrackCreateParam) (m : Media) :
    Except Abort (Status × Replicas) :=
  s.createTrack session track (.createAudioTrack s.client.id session track p m)

/-- A buffer that cannot be unmapped ends the call before the service is asked. -/
def deleteVideoTrack (s : Replicas) (session track : UInt32) (m : Media) :
    Except Abort (Status × Replicas) :=
  if !s.client.connected then .ok (.noInit, s)
  else if !hasTrack s.client.sessions session track then .ok (.badValue, s)
  else
    let (calls, c) := s.client.toRecorderClient.dropTrackBuffers track
    let s := { s with client := { s.client with toRecorderClient := c } }
    if !calls then .ok (.unknownError, s)
    else s.forward (.deleteVideoTrack s.client.id session track m) (onSuccess (·.dropTrack session track))

def deleteAudioTrack (s : Replicas) (session track : UInt32) (m : Media) :
    Except Abort (Status × Replicas) :=
  if !s.client.connected then .ok (.noInit, s)
  else if !hasTrack s.client.sessions session track then .ok (.badValue, s)
  else s.forward (.deleteAudioTrack s.client.id session track m) (onSuccess (·.dropTrack session track))

def call (s : Replicas) : SessionCall → Except Abort (Status × Replicas)
  | .createSession => s.createSession
  | .deleteSession session => s.deleteSession session
  | .createVideoTrack session track p extra m => s.createVideoTrack session track p extra m
  | .createAudioTrack session track p m => s.createAudioTrack session track p m
  | .deleteVideoTrack session track m => s.deleteVideoTrack session track m
  | .deleteAudioTrack session track m => s.deleteAudioTrack session track m

/-- Between the calls of the client come the requests of other clients, and notifications that map
buffers. -/
inductive Action where
  | call (c : SessionCall)
  | other (a : Request)
  | mapped (m : BufferMap)

/-- A call that returns, whatever status it returns. -/
def step (s : Replicas) : Action → Option Replicas
  | .call c =>
    match s.call c with
    | .ok (_, t) => some t
    | .error _ => none
  | .other a =>
    if a.client = some s.client.id then none
    else (s.service.next a).map fun v => { s with service := v }
  | .mapped m => some { s with client := { s.client with trackBuffersMap := m } }

/-- `Connect`, where the service takes the client. -/
def connect (c : SessionClient) (v : Service) (init : Status) : Option Replicas :=
  if (v.connect init).1 = .noError then
    some
      { client := { c with
          connected := true, id := (v.connect init).2.uniqueClientId, sessionCbList := ∅, trackCbList := ∅ }
        service := (v.connect init).2 }
  else none

def trackIds (tracks : TrackInfoMap) : Std.ExtTreeSet UInt32 := .ofList tracks.keys

/-- The sessions of a client with the ids of their tracks. -/
def topology (ts : SessionTrackMap) : IdMap (Std.ExtTreeSet UInt32) :=
  ts.map fun _ tracks => trackIds tracks

/-- The client has the sessions and tracks that `client_session_map_` has for it. -/
def Agree (s : Replicas) : Prop :=
  (s.service.held s.client.id).map topology = some s.client.sessions

/-- The client is connected, and has the sessions and tracks that the service holds for it. -/
def Synced (s : Replicas) : Prop :=
  ∃ ts, s.service.Holds s.client.id ts ∧ s.client.sessions = topology ts

variable {s t : Replicas} {c : SessionClient} {v : Service} {r r' : RecorderImpl} {st unset : Status}
  {f : RecorderImpl → Result} {ts : SessionTrackMap} {tracks : TrackInfoMap} {a : Request}
  {session track : UInt32} {m : Media}

theorem Synced.agree (h : s.Synced) : s.Agree := by
  obtain ⟨ts, hholds, hsessions⟩ := h
  rw [Agree, hholds.sessions, hsessions]
  rfl

/-! ### Edits of the topology -/

theorem mem_trackIds : track ∈ trackIds tracks ↔ track ∈ tracks := by
  simp [trackIds, Std.ExtTreeSet.mem_ofList]

theorem trackIds_insertIfNew {info : TrackInfo} :
    trackIds (tracks.insertIfNew track info) = (trackIds tracks).insert track := by
  apply Std.ExtTreeSet.ext_mem
  intro k
  simp [mem_trackIds]

theorem trackIds_erase : trackIds (tracks.erase track) = (trackIds tracks).erase track := by
  apply Std.ExtTreeSet.ext_mem
  intro k
  simp [mem_trackIds]

theorem getElem?_topology : (topology ts)[session]? = ts[session]?.map trackIds :=
  Std.ExtTreeMap.getElem?_map

theorem topology_insertIfNew :
    topology (ts.insertIfNew session ∅) = (topology ts).insertIfNew session ∅ := by
  apply Std.ExtTreeMap.ext_getElem?
  intro i
  simp only [getElem?_topology, OrdMap.getElem?_emplace]
  split
  · cases ts[i]? <;> rfl
  · rfl

theorem topology_erase : topology (ts.erase session) = (topology ts).erase session := by
  apply Std.ExtTreeMap.ext_getElem?
  intro i
  simp only [getElem?_topology, Std.ExtTreeMap.getElem?_erase]
  split
  · rfl
  · rfl

theorem topology_update {g : TrackInfoMap → TrackInfoMap}
    {g' : Std.ExtTreeSet UInt32 → Std.ExtTreeSet UInt32} (h : ∀ x, trackIds (g x) = g' (trackIds x)) :
    topology (ts.update session g) = (topology ts).update session g' := by
  apply Std.ExtTreeMap.ext_getElem?
  intro i
  simp only [getElem?_topology, OrdMap.getElem?_update]
  split
  · rw [Option.map_some, h]
    cases ts[session]? <;> rfl
  · rfl

/-! ### Calls -/

/-- What a request of the connected client meets. -/
theorem onRecorder_connected (hs : v.Holds c.id ts) (h : v.onRecorder unset f = .ok (st, v')) :
    ∃ r r', r.clientSessionMap[c.id]? = some ts ∧ r.sessions c.id = ts ∧ f r = .ok (st, r') ∧
      v' = { v with recorder := some r' } := by
  obtain ⟨r, hr, hheld⟩ := hs.recorder
  obtain ⟨hnone, -⟩ | ⟨r₁, r', hr₁, hf, rfl⟩ := Service.onRecorder_cases h
  · simp [hr] at hnone
  · obtain rfl := Option.some.inj (hr.symm.trans hr₁)
    exact ⟨r, r', hheld, by simp [RecorderImpl.sessions, hheld], hf, rfl⟩

theorem synced_of_held {e : UInt32} (hs : v.Holds e ts) (hid : c.id = e) {ts' : SessionTrackMap}
    (hr : r'.clientSessionMap[e]? = some ts') (hc : c.sessions = topology ts') :
    Synced { client := c, service := { v with recorder := some r' } } := by
  subst hid
  exact ⟨ts', ⟨hs.connected, hr⟩, hc⟩

theorem forward_ok {follow : Status → Service → SessionClient → SessionClient}
    (h : s.forward a follow = .ok (st, t)) :
    ∃ v, s.service.step a = .ok (st, v) ∧ t = { client := follow st v s.client, service := v } := by
  unfold forward at h
  split at h
  · cases h
  · obtain ⟨⟨st', v⟩, hv, h⟩ := bind_eq_ok_iff.mp h
    obtain ⟨rfl, rfl⟩ := Prod.mk.inj (Except.ok.inj h)
    exact ⟨v, hv, rfl⟩

theorem synced_createSession (hs : s.Synced) (h : s.createSession = .ok (st, t)) : t.Synced := by
  unfold createSession at h
  split at h
  · exact (Prod.mk.inj (Except.ok.inj h)).2 ▸ hs
  obtain ⟨ts, hholds, hsessions⟩ := hs
  obtain ⟨v, hv, rfl⟩ := forward_ok h
  obtain ⟨r, r', hheld, hts, hf, rfl⟩ := onRecorder_connected hholds hv
  have hvalid : r.isClientValid s.client.id = true := by
    simp [RecorderImpl.isClientValid, Std.ExtTreeMap.contains_eq_isSome_getElem?, hheld]
  simp only [RecorderImpl.createSession, hvalid, Bool.not_true, Bool.false_eq_true, if_false] at hf
  obtain ⟨rfl, rfl⟩ := Prod.mk.inj (Except.ok.inj hf)
  refine synced_of_held hholds rfl (RecorderImpl.getElem?_updateSessions.trans (if_pos rfl)) ?_
  rw [hts, topology_insertIfNew, ← hsessions]
  rfl

/-- A session without tracks at the client has none at the service, so the service does not refuse to
delete it. -/
theorem deleteSession_accepted {client : UInt32} {tracks : Std.ExtTreeSet UInt32}
    (hts : r.sessions client = ts) (htracks : (topology ts)[session]? = some tracks)
    (hempty : tracks.isEmpty = true) (h : r.deleteSession client session = .ok (st, r')) :
    st = .noError ∧ ∃ n, r' = r.withoutSession client session n := by
  rw [getElem?_topology, Option.map_eq_some_iff] at htracks
  obtain ⟨infos, hinfos, rfl⟩ := htracks
  have hnone : r.tracks client session = ∅ := by
    rw [RecorderImpl.tracks, hts, hinfos, Option.getD_some, Std.ExtTreeMap.eq_empty_iff_forall_not_mem]
    intro k hk
    have hmem := mem_trackIds.mpr hk
    have hids : trackIds infos = ∅ := by simpa using hempty
    simp [hids] at hmem
  have hvalid : r.isSessionValid client session = true := by
    rw [RecorderImpl.isSessionValid_iff, hts]
    exact Std.ExtTreeMap.mem_iff_isSome_getElem?.mpr (by simp [hinfos])
  obtain ⟨-, -, hrefused⟩ | ⟨hst, -, -, n, hr', -⟩ := RecorderImpl.deleteSession_cases h
  · exact absurd hnone (hrefused hvalid)
  · exact ⟨hst, n, hr'⟩

theorem synced_deleteSession (hs : s.Synced) (h : s.deleteSession session = .ok (st, t)) : t.Synced := by
  unfold deleteSession at h
  split at h
  · exact (Prod.mk.inj (Except.ok.inj h)).2 ▸ hs
  split at h
  · exact (Prod.mk.inj (Except.ok.inj h)).2 ▸ hs
  next tracks htracks =>
  split at h
  · exact (Prod.mk.inj (Except.ok.inj h)).2 ▸ hs
  next hempty =>
  split at h
  · cases h
  obtain ⟨ts, hholds, hsessions⟩ := hs
  obtain ⟨v, hv, rfl⟩ := forward_ok h
  obtain ⟨r, r', hheld, hts, hf, rfl⟩ := onRecorder_connected hholds hv
  obtain ⟨-, n, rfl⟩ := deleteSession_accepted hts (hsessions ▸ htracks) (by simpa using hempty) hf
  refine synced_of_held hholds rfl (RecorderImpl.getElem?_updateSessions.trans (if_pos rfl)) ?_
  rw [hts, topology_erase, ← hsessions]
  rfl

/-- What a request on one session does at the service: it is refused and leaves every session alone, or it
edits the tracks of that session, and `g` their ids. -/
def Edits (session client : UInt32) (g : Std.ExtTreeSet UInt32 → Std.ExtTreeSet UInt32)
    (f : RecorderImpl → Result) : Prop :=
  ∀ r r' st, f r = .ok (st, r') →
    st ≠ .noError ∧ r'.clientSessionMap = r.clientSessionMap ∨
    st = .noError ∧ ∃ edit, (∀ x, trackIds (edit x) = g (trackIds x)) ∧
      r'.clientSessionMap = (r.updateTracks client session edit).clientSessionMap

/-- A request on one session that the client follows with the same edit. -/
theorem synced_track {follow : SessionClient → SessionClient}
    {g : Std.ExtTreeSet UInt32 → Std.ExtTreeSet UInt32} (hs : s.Synced)
    (h : s.forward a (onSuccess follow) = .ok (st, t))
    (ha : s.service.step a = s.service.onRecorder unset f) (hf : Edits session s.client.id g f)
    (hid : (follow s.client).id = s.client.id)
    (hfollow : (follow s.client).sessions = s.client.sessions.update session g) : t.Synced := by
  obtain ⟨ts, hholds, hsessions⟩ := hs
  obtain ⟨v, hv, rfl⟩ := forward_ok h
  obtain ⟨r, r', hheld, hts, hr', rfl⟩ := onRecorder_connected hholds (ha ▸ hv)
  obtain ⟨hst, hsame⟩ | ⟨rfl, edit, hedit, hnew⟩ := hf r r' st hr'
  · rw [onSuccess, if_neg hst]
    exact synced_of_held hholds rfl (hsame ▸ hheld) hsessions
  · rw [onSuccess, if_pos rfl]
    have hheld' : r'.clientSessionMap[s.client.id]? = some (ts.update session edit) := by
      rw [hnew, ← hts]
      exact RecorderImpl.getElem?_updateSessions.trans (if_pos rfl)
    refine synced_of_held hholds hid hheld' ?_
    rw [hfollow, topology_update hedit, ← hsessions]

theorem edits_createVideoTrack {client : UInt32} {p : VideoTrackCreateParam} {extra : VideoExtraParam} :
    Edits session client (·.insert track) fun r =>
      if !Service.isTrackIdAccepted track then .ok (.badValue, r)
      else r.createVideoTrack m client session track p extra := by
  intro r r' st hf
  split at hf
  · obtain ⟨rfl, rfl⟩ := Prod.mk.inj (Except.ok.inj hf)
    exact .inl ⟨by simp, rfl⟩
  · obtain ⟨tm, ⟨hst, rfl⟩ | ⟨hst, -, -, -, -, rfl⟩⟩ := RecorderImpl.createVideoTrack_cases hf
    · exact .inl ⟨hst, rfl⟩
    · exact .inr ⟨hst, _, fun _ => trackIds_insertIfNew, rfl⟩

theorem edits_createAudioTrack {client : UInt32} {p : AudioTrackCreateParam} :
    Edits session client (·.insert track) fun r =>
      if !Service.isTrackIdAccepted track then .ok (.badValue, r)
      else r.createAudioTrack m client session track p := by
  intro r r' st hf
  split at hf
  · obtain ⟨rfl, rfl⟩ := Prod.mk.inj (Except.ok.inj hf)
    exact .inl ⟨by simp, rfl⟩
  · obtain ⟨hst, rfl⟩ | ⟨hst, -, -, rfl⟩ := RecorderImpl.createAudioTrack_cases hf
    · exact .inl ⟨hst, rfl⟩
    · exact .inr ⟨hst, _, fun _ => trackIds_insertIfNew, rfl⟩

theorem edits_deleteVideoTrack {client : UInt32} {remoteCb : UInt32 → Bool} :
    Edits session client (·.erase track) fun r =>
      r.deleteVideoTrack remoteCb m client session track := by
  intro r r' st hf
  obtain ⟨hst, rfl, -⟩ | ⟨hst, i, x, -, -, rfl⟩ := RecorderImpl.deleteVideoTrack_cases hf
  · exact .inl ⟨hst, rfl⟩
  · exact .inr ⟨hst, _, fun _ => trackIds_erase, RecorderImpl.clientSessionMap_withoutVideoTrack⟩

theorem edits_deleteAudioTrack {client : UInt32} :
    Edits session client (·.erase track) fun r => r.deleteAudioTrack m client session track := by
  intro r r' st hf
  obtain ⟨hst, rfl, -⟩ | ⟨hst, i, x, -, -, rfl⟩ := RecorderImpl.deleteAudioTrack_cases hf
  · exact .inl ⟨hst, rfl⟩
  · exact .inr ⟨hst, _, fun _ => trackIds_erase, rfl⟩

theorem synced_createTrack (hs : s.Synced) (h : s.createTrack session track a = .ok (st, t))
    (ha : s.service.step a = s.service.onRecorder unset f)
    (hf : Edits session s.client.id (·.insert track) f) : t.Synced := by
  unfold createTrack at h
  split at h
  · exact (Prod.mk.inj (Except.ok.inj h)).2 ▸ hs
  split at h
  · cases h
  split at h
  · exact (Prod.mk.inj (Except.ok.inj h)).2 ▸ hs
  split at h
  · exact (Prod.mk.inj (Except.ok.inj h)).2 ▸ hs
  · exact synced_track hs h ha hf rfl rfl

/-- The map of buffers has no part in the topology. -/
theorem dropTrackBuffers_sessions {c : RecorderClient} :
    (c.dropTrackBuffers track).2.sessions = c.sessions := by
  unfold RecorderClient.dropTrackBuffers
  split
  · rfl
  · split
    · rfl
    · rfl

theorem synced_deleteVideoTrack (hs : s.Synced) (h : s.deleteVideoTrack session track m = .ok (st, t)) :
    t.Synced := by
  unfold deleteVideoTrack at h
  split at h
  · exact (Prod.mk.inj (Except.ok.inj h)).2 ▸ hs
  split at h
  · exact (Prod.mk.inj (Except.ok.inj h)).2 ▸ hs
  have hdropped : Synced { s with client := { s.client with
      toRecorderClient := (s.client.toRecorderClient.dropTrackBuffers track).2 } } := by
    obtain ⟨ts, hholds, hsessions⟩ := hs
    exact ⟨ts, hholds, dropTrackBuffers_sessions.trans hsessions⟩
  dsimp only at h
  split at h
  · exact (Prod.mk.inj (Except.ok.inj h)).2 ▸ hdropped
  · exact synced_track hdropped h rfl edits_deleteVideoTrack rfl rfl

theorem synced_deleteAudioTrack (hs : s.Synced) (h : s.deleteAudioTrack session track m = .ok (st, t)) :
    t.Synced := by
  unfold deleteAudioTrack at h
  split at h
  · exact (Prod.mk.inj (Except.ok.inj h)).2 ▸ hs
  split at h
  · exact (Prod.mk.inj (Except.ok.inj h)).2 ▸ hs
  · exact synced_track hs h rfl edits_deleteAudioTrack rfl rfl

theorem synced_call {call : SessionCall} (hs : s.Synced) (h : s.call call = .ok (st, t)) :
    t.Synced := by
  cases call with
  | createSession => exact synced_createSession hs h
  | deleteSession session => exact synced_deleteSession hs h
  | createVideoTrack session track p extra m =>
    exact synced_createTrack hs h rfl edits_createVideoTrack
  | createAudioTrack session track p m => exact synced_createTrack hs h rfl edits_createAudioTrack
  | deleteVideoTrack session track m => exact synced_deleteVideoTrack hs h
  | deleteAudioTrack session track m => exact synced_deleteAudioTrack hs h

theorem synced_step : (LTS.ofStep step).TrInv Synced := by
  intro s a t h hs
  change s.step a = some t at h
  cases a with
  | call call =>
    simp only [step] at h
    split at h
    next st t' hcall => exact Option.some.inj h ▸ synced_call hs hcall
    next => cases h
  | other a =>
    simp only [step] at h
    split at h
    · cases h
    next hother =>
      obtain ⟨v, hv, rfl⟩ := Option.map_eq_some_iff.mp h
      obtain ⟨st, hv⟩ := Service.next_eq_some.mp hv
      obtain ⟨ts, hholds, hsessions⟩ := hs
      exact ⟨ts, Service.holds_step hholds hother hv, hsessions⟩
  | mapped m =>
    obtain rfl := Option.some.inj h
    exact hs

/-- A new client, with an id that the registry does not have yet. -/
theorem synced_connect {init : Status} (hc : c.sessions = ∅)
    (hnew : ∀ r, v.recorder = some r → v.uniqueClientId + 1 ∉ r.clientSessionMap)
    (h : connect c v init = some s) : s.Synced := by
  unfold connect at h
  split at h
  next hok =>
    obtain rfl := Option.some.inj h
    unfold Service.connect at hok ⊢
    split at hok
    next hfails => exact absurd hok hfails.2
    next hinit =>
      have hfresh : v.uniqueClientId + 1 ∉ (v.recorder.getD {}).clientSessionMap := by
        cases hr : v.recorder with
        | none => exact Std.ExtTreeMap.not_mem_empty
        | some r => exact hnew r hr
      have hinvalid : (v.recorder.getD {}).isClientValid (v.uniqueClientId + 1) = false := by
        rw [RecorderImpl.isClientValid, Std.ExtTreeMap.contains_eq_isSome_getElem?,
          Std.ExtTreeMap.getElem?_eq_none hfresh]
        rfl
      refine ⟨∅, ⟨?_, ?_⟩, ?_⟩
      · rw [if_neg hinit]
        exact Std.ExtTreeMap.mem_insertIfNew_self
      · rw [if_neg hinit]
        simp only [Service.held, RecorderImpl.registerClient, hinvalid, Bool.false_eq_true, if_false,
          Option.bind_some]
        rw [OrdMap.getElem?_emplace, if_pos rfl, Std.ExtTreeMap.getElem?_eq_none hfresh]
        rfl
      · simp [hc, topology]
  next => cases h

/-- After every completed call the client has the sessions and tracks that the service has for it. -/
theorem agree_run (c : SessionClient) (v : Service) (init : Status) (s t : Replicas) (as : List Action)
    (hc : c.sessions = ∅)
    (hnew : ∀ r, v.recorder = some r → v.uniqueClientId + 1 ∉ r.clientSessionMap)
    (hconnect : connect c v init = some s) (h : LTS.run step s as = some t) : t.Agree :=
  (LTS.inv_of_mTr synced_step (LTS.mTr_ofStep_iff.mpr h) (synced_connect hc hnew hconnect)).agree

/-- A raw track whose source cannot be deleted at first, between the requests of another client. -/
def sessionRun : List Action :=
  [.call .createSession, .other (.connect .noError),
    .call (.createVideoTrack 1 5 ⟨0, 640, 480, .nv12⟩ {} {}), .other (.createSession 2),
    .call (.deleteVideoTrack 1 5 { video := { deleteTrackSource := fun _ => .badValue } }),
    .call (.deleteSession 1), .call (.deleteVideoTrack 1 5 {}), .call (.deleteSession 1)]

example : ((connect {} .initial .noError).bind fun s => LTS.run step s (sessionRun.take 6)).map
    (fun s => (s.client.sessions.toList.map fun x => (x.1, x.2.toList))) = some [(1, [5])] := by
  decide

theorem agree_sessionRun : ∃ s t, connect {} .initial .noError = some s ∧
    LTS.run step s sessionRun = some t ∧ t.Agree := by
  have hruns : ((connect {} .initial .noError).bind fun s => LTS.run step s sessionRun).isSome := by
    decide
  obtain ⟨t, ht⟩ := Option.isSome_iff_exists.mp hruns
  obtain ⟨s, hs, ht⟩ := Option.bind_eq_some_iff.mp ht
  exact ⟨s, t, hs, ht, agree_run {} .initial .noError s t sessionRun rfl nofun hs ht⟩

end Replicas

end QmmfSdk.Client
