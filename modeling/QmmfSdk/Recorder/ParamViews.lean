import QmmfSdk.Library.Observation
import QmmfSdk.Recorder.BackedTracks
import QmmfSdk.Recorder.TrackParams

/-! What a client can tell of a run by the parameters of its tracks: its own sessions, and the
time-lapse entry under the ids of its tracks, which it shares with every other client. -/
namespace QmmfSdk.Recorder

/-- The sessions of a client, and the time-lapse entry of one client track id. -/
abbrev Own := Option (SessionTrackMap × Option Bool)

namespace RecorderImpl

variable {r r' : RecorderImpl} {remoteCb : UInt32 → Bool} {m : Media} {st : Status}
  {client session track c i k : UInt32} {f : SessionTrackMap → SessionTrackMap}

/-- A client that is not registered has nothing. -/
def own (r : RecorderImpl) (c k : UInt32) : Own :=
  r.clientSessionMap[c]?.map fun ss => (ss, r.timelapseMode[k]?)

theorem own_congr (hm : r'.clientSessionMap = r.clientSessionMap)
    (ht : r'.timelapseMode = r.timelapseMode) : r'.own c k = r.own c k := by
  rw [own, hm, ht, own]

theorem sessions_of_own {ss : SessionTrackMap} {e : Option Bool} (h : r.own c k = some (ss, e)) :
    r.clientSessionMap[c]? = some ss ∧ r.sessions c = ss ∧ r.timelapseMode[k]? = e := by
  obtain ⟨ss', hss, heq⟩ := Option.map_eq_some_iff.mp h
  obtain ⟨rfl, rfl⟩ := Prod.mk.inj heq
  refine ⟨hss, ?_, rfl⟩
  rw [sessions, hss]
  rfl

theorem own_eq_none_iff : r.own c k = none ↔ r.isClientValid c = false := by
  rw [own, Option.map_eq_none_iff, ← Bool.not_eq_true, isClientValid_iff,
    Std.ExtTreeMap.mem_iff_isSome_getElem?]
  simp

/-- An edit of the sessions of a registered client, and of the time-lapse entry. -/
theorem own_edit {g : Option Bool → Option Bool} (hv : r.isClientValid client = true)
    (hm : r'.clientSessionMap = (r.updateSessions client f).clientSessionMap)
    (ht : r'.timelapseMode[k]? = g r.timelapseMode[k]?) :
    r'.own c k = (r.own c k).map fun o => (if client = c then f o.1 else o.1, g o.2) := by
  rw [own, hm, ht, getElem?_updateSessions, own, Option.map_map]
  by_cases hc : client = c
  · subst hc
    obtain ⟨ss, hss⟩ := Option.isSome_iff_exists.mp
      (Std.ExtTreeMap.mem_iff_isSome_getElem?.mp (isClientValid_iff.mp hv))
    simp [sessions, hss]
  · simp only [if_neg hc]
    rfl

theorem own_updateSessions (hv : r.isClientValid client = true)
    (hm : r'.clientSessionMap = (r.updateSessions client f).clientSessionMap)
    (ht : r'.timelapseMode = r.timelapseMode) :
    r'.own c k = if client = c then (r.own c k).map fun o => (f o.1, o.2) else r.own c k := by
  rw [own_edit (g := id) hv hm (by rw [ht]; rfl)]
  split
  · rfl
  · simp

/-- The lookups before the session lock register the client, if it is not. -/
theorem own_locked (hentry : client = c → r.isClientValid c = true ∨ r.timelapseMode[k]? = none)
    (hm : r'.clientSessionMap = (r.updateTracks client session id).clientSessionMap)
    (ht : r'.timelapseMode = r.timelapseMode) :
    r'.own c k = if client = c then
      some (((r.own c k).map Prod.fst |>.getD ∅).update session id, (r.own c k).bind Prod.snd)
    else r.own c k := by
  rw [own, hm, ht, updateTracks, getElem?_updateSessions, own]
  split
  · next hc =>
    cases hss : r.clientSessionMap[c]? with
    | none =>
      have hnone : r.timelapseMode[k]? = none := (hentry hc).resolve_left fun hv => by
        have hmem := isClientValid_iff.mp hv
        simp [Std.ExtTreeMap.mem_iff_isSome_getElem?, hss] at hmem
      simp [sessions, hss, hnone]
    | some ss => simp [sessions, hss]
  · rfl

theorem own_startSession (hentry : client = c → r.isClientValid c = true ∨ r.timelapseMode[k]? = none)
    (h : r.startSession m client session = .ok (st, r')) :
    r'.own c k = if client = c then
      some (((r.own c k).map Prod.fst |>.getD ∅).update session id, (r.own c k).bind Prod.snd)
    else r.own c k := by
  obtain ⟨-, ss, rfl, -⟩ := startSession_cases h
  exact own_locked hentry rfl rfl

theorem own_stopSession (hentry : client = c → r.isClientValid c = true ∨ r.timelapseMode[k]? = none)
    (h : r.stopSession m client session = .ok (st, r')) :
    r'.own c k = if client = c then
      some (((r.own c k).map Prod.fst |>.getD ∅).update session id, (r.own c k).bind Prod.snd)
    else r.own c k := by
  obtain ⟨-, ss, rfl, -⟩ := stopSession_cases h
  exact own_locked hentry rfl rfl

theorem Restated.own (h : Restated session r r') : r'.own c k = r.own c k := by
  obtain ⟨ss, rfl, -⟩ := h
  exact own_congr rfl rfl

theorem own_resumeSession : (r.resumeSession m client session).2.own c k = r.own c k := by
  rcases @resumeSession_cases r m client session with heq | ⟨-, hre⟩
  · rw [heq]
  · exact hre.own

theorem own_pauseSession : (r.pauseSession m client session).2.own c k = r.own c k := by
  rcases @pauseSession_cases r m client session with heq | ⟨-, hre⟩
  · rw [heq]
  · exact hre.own

/-- The new session has the id that is handed out. -/
theorem own_createSession (h : r.createSession client = .ok (st, r')) :
    r'.own c k = if client = c ∧ st = .noError then
      (r.own c k).map fun o => (o.1.insertIfNew r'.uniqueSessionId ∅, o.2) else r.own c k := by
  unfold createSession at h
  split at h
  · obtain ⟨rfl, rfl⟩ := by simpa using h
    simp
  next hv =>
  obtain ⟨rfl, rfl⟩ := by simpa using h
  refine (own_updateSessions (f := fun ss => ss.insertIfNew (r.uniqueSessionId + 1) ∅)
    (by simpa using hv) rfl rfl).trans ?_
  simp

theorem own_deleteSession (h : r.deleteSession client session = .ok (st, r')) :
    r'.own c k = if client = c ∧ st = .noError then
      (r.own c k).map fun o => (o.1.erase session, o.2) else r.own c k := by
  rcases deleteSession_cases h with ⟨hst, rfl, -⟩ | ⟨rfl, hv, -, n, rfl, -⟩
  · simp [hst]
  · refine (own_updateSessions (f := fun ss => ss.erase session) (isClientValid_of_isSessionValid hv)
      rfl rfl).trans ?_
    simp

theorem own_createAudioTrack {p : AudioTrackCreateParam}
    (h : r.createAudioTrack m client session track p = .ok (st, r')) :
    r'.own c k = if client = c ∧ st = .noError then
      (r.own c k).map fun o => (o.1.update session fun ts => ts.insertIfNew track
        ⟨getUniqueServiceTrackId client session track, .audio p.format⟩, o.2) else r.own c k := by
  rcases createAudioTrack_cases h with ⟨hst, rfl⟩ | ⟨rfl, hv, -, rfl⟩
  · simp [hst]
  · rw [associateTrack, updateTracks, own_updateSessions (isClientValid_of_isSessionValid hv) rfl rfl]
    simp

theorem own_deleteAudioTrack (h : r.deleteAudioTrack m client session track = .ok (st, r')) :
    r'.own c k = if client = c ∧ st = .noError then
      (r.own c k).map fun o => (o.1.update session fun ts => ts.erase track, o.2)
    else r.own c k := by
  rcases deleteAudioTrack_cases h with ⟨hst, rfl, -⟩ | ⟨rfl, id, f, ht, -, rfl⟩
  · simp [hst]
  · rw [updateTracks, own_updateSessions
      (isClientValid_of_isSessionValid (isSessionValid_of_track ht)) rfl rfl]
    simp

/-- The time-lapse entry under `k` after a track was created under `track`. -/
def lapseEntry (track k : UInt32) (lapse : Bool) (e : Option Bool) : Option Bool :=
  if track = k ∧ lapse = true then some (e.getD true) else e

theorem getElem?_withTimelapse {lapse : Bool} :
    (r.withTimelapse track lapse).timelapseMode[k]? =
      lapseEntry track k lapse r.timelapseMode[k]? := by
  unfold withTimelapse lapseEntry
  cases lapse with
  | false => simp
  | true =>
    simp only [if_true, and_true]
    rw [Library.OrdMap.getElem?_emplace]

/-- An accepted creation. Other clients share the time-lapse entry. -/
theorem own_createVideoTrack {p : VideoTrackCreateParam} {extra : VideoExtraParam}
    (hset : m.video.setTrackEncoderParams (getUniqueServiceTrackId client session track) = .noError)
    (h : r.createVideoTrack m client session track p extra = .ok (st, r')) :
    r'.own c k = if st = .noError then
      (r.own c k).map fun o =>
        (if client = c then o.1.update session fun ts => ts.insertIfNew track
          ⟨getUniqueServiceTrackId client session track, .video p.formatType⟩ else o.1,
        lapseEntry track k (p.formatType.isEncoded && extra.videoTimelapseInterval) o.2)
    else r.own c k := by
  rcases createVideoTrack_outcome h with ⟨hst, rfl | ⟨hne, -⟩⟩ | ⟨rfl, hv, -, -, -, rfl⟩
  · simp [hst]
  · exact absurd hset hne
  rw [if_pos rfl]
  exact own_edit (f := fun ss => ss.update session fun ts => ts.insertIfNew track _)
    (isClientValid_of_isSessionValid hv) rfl getElem?_withTimelapse

theorem own_deleteVideoTrack (h : r.deleteVideoTrack remoteCb m client session track = .ok (st, r')) :
    r'.own c k = if st = .noError then
      (r.own c k).map fun o =>
        (if client = c then o.1.update session fun ts => ts.erase track else o.1,
        if track = k then none else o.2)
    else r.own c k := by
  rcases deleteVideoTrack_cases h with ⟨hst, rfl, -⟩ | ⟨rfl, id, f, ht, -, rfl⟩
  · simp [hst]
  have hv := isClientValid_of_isSessionValid (isSessionValid_of_track ht)
  have hlapse : (r.withoutVideoTrack client session track id).timelapseMode[k]? =
      if track = k then none else r.timelapseMode[k]? := by
    rw [withoutVideoTrack, Std.ExtTreeMap.getElem?_erase]
    simp
  rw [if_pos rfl]
  exact own_edit (g := fun e => if track = k then none else e) hv clientSessionMap_withoutVideoTrack
    hlapse

theorem CameraEdit.own {cam : UInt32} (h : CameraEdit client cam r r') : r'.own c k = r.own c k := by
  cases h with
  | touched h | joined _ h | opened _ h | left _ h | closed _ h =>
    subst h
    exact own_congr rfl rfl

theorem own_deRegisterClient (h : r.deRegisterClient remoteCb m client false = .ok (st, r')) :
    r'.own c k = r.own c k := by
  unfold deRegisterClient at h
  split at h
  · rw [eq_of_ok h]
  simp only [Bool.not_false, if_true] at h
  split at h
  · rw [eq_of_ok h]
    exact own_congr rfl rfl
  · rw [eq_of_ok h]
    exact own_congr rfl rfl

theorem own_touchTimelapse : (r.touchTimelapse track).own c k =
    (r.own c k).map fun o => (o.1, if track = k then some (o.2.getD false) else o.2) := by
  rw [own, own, Option.map_map, touchTimelapse, Library.OrdMap.getElem?_emplace]
  rfl

end RecorderImpl

/-- What a client can tell of the service: who is connected, and what it has itself. -/
structure ClientView where
  deaths : IdMap Unit
  cbs : IdMap Unit
  uniqueClientId : UInt32
  present : Bool
  own : Own

/-- What a request makes of a client's own sessions, by the answer to it. -/
def Request.onOwn (c k : UInt32) (own : Own) (ans : Status × UInt32) : Request → Own
  | .startSession client session _ | .stopSession client session _ =>
    if client = c then some ((own.map Prod.fst |>.getD ∅).update session id, own.bind Prod.snd)
    else own
  | .createSession client =>
    if client = c ∧ ans.1 = .noError then own.map fun o => (o.1.insertIfNew ans.2 ∅, o.2) else own
  | .deleteSession client session =>
    if client = c ∧ ans.1 = .noError then own.map fun o => (o.1.erase session, o.2) else own
  | .createVideoTrack client session track p extra _ =>
    if client = c ∧ ans.1 = .noError then
      own.map fun o =>
        (o.1.update session fun ts => ts.insertIfNew track
          ⟨RecorderImpl.getUniqueServiceTrackId client session track, .video p.formatType⟩,
        RecorderImpl.lapseEntry track k (p.formatType.isEncoded && extra.videoTimelapseInterval) o.2)
    else own
  | .createAudioTrack client session track p _ =>
    if client = c ∧ ans.1 = .noError then
      own.map fun o => (o.1.update session fun ts => ts.insertIfNew track
        ⟨RecorderImpl.getUniqueServiceTrackId client session track, .audio p.format⟩, o.2)
    else own
  | .deleteVideoTrack client session track _ =>
    if client = c ∧ ans.1 = .noError then
      own.map fun o => (o.1.update session fun ts => ts.erase track, if track = k then none else o.2)
    else own
  | .deleteAudioTrack client session track _ =>
    if client = c ∧ ans.1 = .noError then
      own.map fun o => (o.1.update session fun ts => ts.erase track, o.2)
    else own
  | _ => own

namespace ClientView

/-- `Connect`, in the view of the client that gets or has the id `c`. -/
def connect (c : UInt32) (v : ClientView) (init : Status) : ClientView :=
  if !v.present ∧ init ≠ .noError then v
  else
    let client := v.uniqueClientId + 1
    { deaths := v.deaths.insertIfNew client ()
      cbs := v.cbs.insertIfNew client ()
      uniqueClientId := client
      present := true
      own := if client = c then some (v.own.getD (∅, none)) else v.own }

/-- The departure of a client; with the last one everything goes. -/
def leave (c : UInt32) (v : ClientView) (client : UInt32) (force : Bool) : ClientView :=
  if !v.present || !v.deaths.contains client || !v.cbs.contains client then v
  else
    let deaths := v.deaths.erase client
    let cbs := v.cbs.erase client
    if deaths.isEmpty && cbs.isEmpty then ⟨deaths, cbs, 0, false, none⟩
    else { v with deaths, cbs, own := if force ∧ client = c then none else v.own }

def next (c k : UInt32) (v : ClientView) (a : ParamRequest) (ans : Status × UInt32) : ClientView :=
  match a with
  | .setVideoTrackParam client session track _ _ =>
    if client = c then
      { v with own := v.own.map fun o =>
          if (o.1[session]?.getD ∅).contains track then
            (o.1, if track = k then some (o.2.getD false) else o.2)
          else o }
    else v
  | .media a =>
    match a.request with
    | .connect init => v.connect c init
    | .disconnect client => v.leave c client false
    | .clientDeath client _ => v.leave c client true
    | request => if v.present then { v with own := request.onOwn c k v.own ans } else v

end ClientView

namespace Service

variable {s t : Service} {client c k : UInt32} {st : Status}

def view (c k : UInt32) (s : Service) : ClientView :=
  ⟨s.deathNotifierList, s.remoteCbList, s.uniqueClientId, s.recorder.isSome,
    s.recorder.bind fun r => r.own c k⟩

open RecorderImpl

variable {r r' : RecorderImpl} {init : Status}

theorem view_setRecorder (hr : s.recorder = some r) {own : Own} (h : r'.own c k = own) :
    view c k { s with recorder := some r' } = { s.view c k with own := own } := by
  simp [view, hr, h]

/-- A client that is registered anew finds no time-lapse entry. -/
theorem own_registerClient (hentry : client = c → r.isClientValid c = true ∨ r.timelapseMode[k]? = none) :
    (r.registerClient client).own c k =
      if client = c then some ((r.own c k).getD (∅, none)) else r.own c k := by
  unfold registerClient
  split
  · next hv =>
    split
    · next hc =>
      subst hc
      cases ho : r.own client k with
      | none => simp [own_eq_none_iff.mp ho] at hv
      | some o => rfl
    · rfl
  · next hv =>
    rw [own, own, Library.OrdMap.getElem?_emplace]
    split
    · next hc =>
      subst hc
      have hnone : r.timelapseMode[k]? = none := (hentry rfl).resolve_left hv
      have hss : r.clientSessionMap[client]? = none :=
        Std.ExtTreeMap.getElem?_eq_none fun hmem => hv (isClientValid_iff.mpr hmem)
      simp [hss, hnone]
    · rfl

theorem view_connect (hentry : s.uniqueClientId + 1 = c → ∀ r, s.recorder = some r →
    r.isClientValid c = true ∨ r.timelapseMode[k]? = none) :
    (s.connect init).2.view c k = (s.view c k).connect c init := by
  unfold Service.connect ClientView.connect
  cases hr : s.recorder with
  | none =>
    simp only [Option.isNone_none, true_and, view, hr, Option.isSome_none, Bool.not_false]
    split
    · simp [hr]
    · have hempty : (({} : RecorderImpl).registerClient (s.uniqueClientId + 1)).own c k = _ :=
        own_registerClient fun _ => .inr (by simp)
      simp only [Option.getD_none, Option.isSome_some, Option.bind_some, hempty, Option.bind_none]
      rfl
  | some r =>
    simp only [Option.isNone_some, Bool.false_eq_true, false_and, if_false, view, hr,
      Option.isSome_some, Bool.not_true, Option.getD_some, Option.bind_some]
    rw [own_registerClient fun hc => hentry hc r hr]

theorem view_forget (hr : s.recorder = some r) (hd : client ∈ s.deathNotifierList)
    (hcb : client ∈ s.remoteCbList) {force : Bool}
    (ho : r'.own c k = if force = true ∧ client = c then none else r.own c k) :
    (s.forget r' client).view c k = (s.view c k).leave c client force := by
  unfold Service.forget ClientView.leave
  simp only [view, hr, Option.isSome_some, Bool.not_true, Std.ExtTreeMap.contains_iff_mem.mpr hd,
    Std.ExtTreeMap.contains_iff_mem.mpr hcb, Bool.or_self, Bool.false_eq_true, if_false]
  split
  · simp
  · simp [ho]

/-- A client that goes on its own leaves what there is to the others. -/
theorem view_leave {m : Media} (h : s.leave client m false = .ok (st, t)) :
    t.view c k = (s.view c k).leave c client false := by
  unfold leave at h
  split at h
  · next hr =>
    obtain ⟨-, rfl⟩ := Prod.mk.inj (Except.ok.inj h)
    simp [ClientView.leave, view, hr]
  next r hr =>
  split at h
  · next hd =>
    obtain ⟨-, rfl⟩ := Prod.mk.inj (Except.ok.inj h)
    have hd : s.deathNotifierList.contains client = false := by simpa using hd
    simp [ClientView.leave, view, hd]
  next hd =>
  split at h
  · next hcb =>
    obtain ⟨-, rfl⟩ := Prod.mk.inj (Except.ok.inj h)
    have hcb : s.remoteCbList.contains client = false := by simpa using hcb
    simp [ClientView.leave, view, hcb]
  next hcb =>
  obtain ⟨⟨st', r'⟩, hr', h⟩ := Library.bind_eq_ok_iff.mp h
  obtain ⟨-, rfl⟩ := Prod.mk.inj (Except.ok.inj h)
  refine view_forget hr (by simpa using hd) (by simpa using hcb) ?_
  simpa using own_deRegisterClient hr'

end Service

namespace MediaRecorder

open RecorderImpl

variable {s t : MediaRecorder} {m : Media} {remoteCb : UInt32 → Bool} {client c k : UInt32}

/-- The client can go without the entry under `k`: there is none, or no track of its own to take it
away. -/
def Quiet (client k : UInt32) (r : RecorderImpl) : Prop :=
  r.timelapseMode[k]? = none ∨ ∀ i id f, r.track client i k ≠ some ⟨id, .video f⟩

theorem Quiet.subTracks {r r' : RecorderImpl} (h : Quiet client k r) (hsub : SubTracks r r')
    (he : r'.timelapseMode[k]? = r.timelapseMode[k]?) : Quiet client k r' := by
  rcases h with hnone | hnot
  · exact .inl (he.trans hnone)
  · exact .inr fun i id f ht => hnot i id f (hsub _ _ _ _ ht)

/-- The cleanup of a client is about its own sessions. -/
theorem sessions_forceCleanup (hne : client ≠ c) (h : s.forceCleanup remoteCb m client = .ok t) :
    t.recorder.clientSessionMap[c]? = s.recorder.clientSessionMap[c]? := by
  obtain ⟨u, hu, -, hmap, -⟩ := forceCleanup_rule
    (I := fun u => u.recorder.clientSessionMap[c]? = s.recorder.clientSessionMap[c]?)
    (fun r _ hmap _ => by
      change r.clientSessionMap[c]? = _
      rw [hmap])
    (fun u i st v hu hv => by
      obtain ⟨⟨st', r⟩, hr, hv⟩ := Library.bind_eq_ok_iff.mp hv
      obtain ⟨-, rfl⟩ := Prod.mk.inj (Except.ok.inj hv)
      obtain ⟨-, ss, rfl, -⟩ := stopSession_cases hr
      exact (getElem?_updateSessions.trans (if_neg hne)).trans hu)
    (fun u i track st v hu hv => by
      obtain ⟨⟨st', r⟩, hr, hv⟩ := Library.bind_eq_ok_iff.mp hv
      obtain ⟨-, rfl⟩ := Prod.mk.inj (Except.ok.inj hv)
      rcases deleteVideoTrack_cases hr with ⟨-, rfl, -⟩ | ⟨-, id, f, -, -, rfl⟩
      · exact hu
      · dsimp only
        rw [clientSessionMap_withoutVideoTrack]
        exact (getElem?_updateSessions.trans (if_neg hne)).trans hu)
    (fun u i track st r hu hr => by
      rcases deleteAudioTrack_cases hr with ⟨-, rfl, -⟩ | ⟨-, id, f, -, -, rfl⟩
      · exact hu
      · exact (getElem?_updateSessions.trans (if_neg hne)).trans hu)
    (fun u i st r hu hr => by
      rcases deleteSession_cases hr with ⟨-, rfl, -⟩ | ⟨-, -, -, n, rfl, -⟩
      · exact hu
      · exact (getElem?_updateSessions.trans (if_neg hne)).trans hu) h
  rw [hmap, Std.ExtTreeMap.getElem?_erase, if_neg (by simpa using hne)]
  exact hu

/-- It takes away the time-lapse entries of the video tracks that it deletes. -/
theorem lapse_forceCleanup (hq : Quiet client k s.recorder)
    (h : s.forceCleanup remoteCb m client = .ok t) :
    t.recorder.timelapseMode[k]? = s.recorder.timelapseMode[k]? := by
  obtain ⟨u, ⟨hu, -⟩, -, -, hlapse⟩ := forceCleanup_rule
    (I := fun u => u.recorder.timelapseMode[k]? = s.recorder.timelapseMode[k]? ∧
      Quiet client k u.recorder)
    (fun r _ hmap hlapse => by
      have hsub : SubTracks s.recorder r := fun _ _ _ _ hi => by rwa [track_congr hmap] at hi
      have heq : r.timelapseMode[k]? = s.recorder.timelapseMode[k]? := by rw [hlapse]
      exact ⟨heq, hq.subTracks hsub heq⟩)
    (fun u i st v hu hv => by
      obtain ⟨⟨st', r⟩, hr, hv⟩ := Library.bind_eq_ok_iff.mp hv
      obtain ⟨-, rfl⟩ := Prod.mk.inj (Except.ok.inj hv)
      have heq : r.timelapseMode[k]? = u.recorder.timelapseMode[k]? := by
        obtain ⟨-, ss, rfl, -⟩ := stopSession_cases hr
        rfl
      exact ⟨heq.trans hu.1, hu.2.subTracks (subTracks_of_edits (edits_stopSession hr)) heq⟩)
    (fun u i track st v hu hv => by
      have hsub := subTracks_deleteVideoTrack hv
      obtain ⟨⟨st', r⟩, hr, hv⟩ := Library.bind_eq_ok_iff.mp hv
      obtain ⟨-, rfl⟩ := Prod.mk.inj (Except.ok.inj hv)
      have heq : r.timelapseMode[k]? = u.recorder.timelapseMode[k]? := by
        rcases deleteVideoTrack_cases hr with ⟨-, rfl, -⟩ | ⟨-, id, f, ht, -, rfl⟩
        · rfl
        rw [withoutVideoTrack, Std.ExtTreeMap.getElem?_erase]
        split
        · next hk =>
          obtain rfl := Std.compare_eq_iff_eq.mp hk
          exact (hu.2.resolve_right fun hnot => hnot i id f ht).symm
        · rfl
      exact ⟨heq.trans hu.1, hu.2.subTracks hsub heq⟩)
    (fun u i track st r hu hr => by
      have heq : r.timelapseMode[k]? = u.recorder.timelapseMode[k]? := by
        rcases deleteAudioTrack_cases hr with ⟨-, rfl, -⟩ | ⟨-, id, f, ht, -, rfl⟩
        · rfl
        · rfl
      exact ⟨heq.trans hu.1, hu.2.subTracks (subTracks_of_edits (edits_deleteAudioTrack hr)) heq⟩)
    (fun u i st r hu hr => by
      have heq : r.timelapseMode[k]? = u.recorder.timelapseMode[k]? := by
        rcases deleteSession_cases hr with ⟨-, rfl, -⟩ | ⟨-, -, -, n, rfl, -⟩
        · rfl
        · rfl
      exact ⟨heq.trans hu.1, hu.2.subTracks (subTracks_of_edits (edits_deleteSession hr)) heq⟩) h
  rw [hlapse]
  exact hu

/-- The cleanup of another client leaves what the client has. -/
theorem own_forceCleanup (hne : client ≠ c)
    (hq : s.recorder.isClientValid c = true → Quiet client k s.recorder)
    (h : s.forceCleanup remoteCb m client = .ok t) : t.recorder.own c k = s.recorder.own c k := by
  have hmap := sessions_forceCleanup hne h
  cases hv : s.recorder.isClientValid c with
  | true => rw [own, hmap, lapse_forceCleanup (hq hv) h, own]
  | false =>
    have hnone : s.recorder.own c k = none := own_eq_none_iff.mpr hv
    have hss : s.recorder.clientSessionMap[c]? = none := Option.map_eq_none_iff.mp hnone
    rw [hnone, own, hmap, hss]
    rfl

/-- A client that was cleaned up has nothing left. -/
theorem own_forceCleanup_self (h : s.forceCleanup remoteCb m client = .ok t) :
    t.recorder.own client k = none := by
  obtain ⟨u, -, -, hmap, -⟩ := forceCleanup_rule (I := fun _ => True) (fun _ _ _ _ => trivial)
    (fun _ _ _ _ _ _ => trivial) (fun _ _ _ _ _ _ _ => trivial) (fun _ _ _ _ _ _ _ => trivial)
    (fun _ _ _ _ _ _ => trivial) h
  rw [own, hmap]
  simp

end MediaRecorder

namespace RecorderImpl

variable {r : RecorderImpl} {client session track c i k sid : UInt32} {f : VideoFormat}

/-- Some other video track `k` of the client `c` has the service id. -/
def ownsId (r : RecorderImpl) (c k client session track sid : UInt32) : Bool :=
  r.liveTracks.any fun e => e.1.1 == c && e.1.2.2 == k && e.2.isVideo && e.2.trackId == sid &&
    e.1 != (client, session, track)

/-- Some video track of the client has the client track id `k`. -/
def ownsTrack (r : RecorderImpl) (client k : UInt32) : Bool :=
  r.liveTracks.any fun e => e.1.1 == client && e.2.isVideo && e.1.2.2 == k

/-- Some video track of the client has the service id of a track `k` of the client `c`. -/
def sharesIdsWith (r : RecorderImpl) (client c k : UInt32) : Bool :=
  r.liveTracks.any fun e => e.1.1 == client && e.2.isVideo &&
    r.liveTracks.any fun e' =>
      e'.1.1 == c && e'.1.2.2 == k && e'.2.isVideo && e'.2.trackId == e.2.trackId

theorem eq_of_not_ownsId (h : r.ownsId c k client session track sid = false)
    (ht : r.track c i k = some ⟨sid, .video f⟩) : client = c ∧ session = i ∧ track = k := by
  have hnot := List.any_eq_false.mp h _ (mem_liveTracks ht)
  simp only [TrackInfo.isVideo, BEq.rfl, Bool.true_and, bne_iff_ne, ne_eq, Decidable.not_not,
    Prod.mk.injEq] at hnot
  exact ⟨hnot.1.symm, hnot.2.1.symm, hnot.2.2.symm⟩

theorem not_track_of_not_ownsTrack (h : r.ownsTrack client k = false) :
    r.track client i k ≠ some ⟨sid, .video f⟩ := by
  intro ht
  have hnot := List.any_eq_false.mp h _ (mem_liveTracks ht)
  simp [TrackInfo.isVideo] at hnot

theorem apart_of_not_sharesIdsWith (h : r.sharesIdsWith client c k = false) (i x id : UInt32)
    (f : VideoFormat) (ht : r.track client i x = some ⟨id, .video f⟩) (i' : UInt32)
    (g : VideoFormat) : r.track c i' k ≠ some ⟨id, .video g⟩ := by
  intro ht'
  have hnot := List.any_eq_false.mp h _ (mem_liveTracks ht)
  apply hnot
  simp only [TrackInfo.isVideo, BEq.rfl, Bool.true_and]
  exact List.any_eq_true.mpr ⟨_, mem_liveTracks ht', by simp⟩

end RecorderImpl

namespace MediaRecorder

open RecorderImpl

variable {b b' : Backends} {sid : UInt32} {f : VideoFormat}

/-- A track has its source, and an encoder exactly if it is encoded. -/
def ExactBackends (b : Backends) (sid : UInt32) (f : VideoFormat) : Prop :=
  b.isTrackIdValid sid = true ∧ b.isTrackValid sid = f.isEncoded

theorem demand_exactBackends : Demand ExactBackends where
  has h := ⟨h.1, fun he => h.2.trans he⟩
  sameTracks h hb := ⟨hb.isTrackIdValid.trans h.1, hb.isTrackValid.trans h.2⟩
  deleteTrack h hne := ⟨(Backends.isTrackIdValid_deleteTrack hne).trans h.1,
    (Backends.isTrackValid_deleteTrack hne).trans h.2⟩

end MediaRecorder

namespace MediaService

open Library (LTS)
open RecorderImpl

variable {s t : MediaService} {as bs : List ParamRequest} {st : Status}
  {client session track c i k : UInt32} {m : Media} {p : VideoTrackCreateParam}
  {extra : VideoExtraParam} {ans : CameraContext.StreamAnswers}

/-- The tracks of the client `c` that it calls `k`. -/
def ofTrack (c k : UInt32) (client _session track : UInt32) : Prop := client = c ∧ track = k

/-- The requests by which no other client gets at the parameters of the client `c` under its track id
`k`. While `c` is registered, no other client makes or takes away the time-lapse entry under `k`, and no track
is created or deleted that shares its service id with a track `k` of `c`. A track `k` of `c` gets a
source, and finds no encoder if it is raw. When `c` is registered there is no entry. -/
def keepsParams (c k : UInt32) (s : MediaService) (a : ParamRequest) : Bool :=
  s.recorder.all fun r =>
    let known := r.isClientValid c
    let entry := r.timelapseMode[k]?
    match a with
    | .setVideoTrackParam client session track _ _ =>
      client == c || !known || track != k || entry.isSome || !r.isTrackValid client session track
    | .media a =>
      match a.request with
      | .connect _ => known || entry.isNone || s.service.uniqueClientId + 1 != c
      | .startSession client _ _ | .stopSession client _ _ => known || entry.isNone || client != c
      | .createVideoTrack client session track p extra m =>
        let sid := getUniqueServiceTrackId client session track
        !known || !CameraService.checksTrack r client session track ||
          (!r.ownsId c k client session track sid && (track != k ||
            if client == c then
              !(p.formatType == .rgb && s.createsStream r client session track p extra m &&
                !s.backends.isTrackIdValid sid) &&
              (p.formatType.isEncoded || !s.backends.isTrackValid sid)
            else !(p.formatType.isEncoded && extra.videoTimelapseInterval) || entry.isSome))
      | .deleteVideoTrack client session track _ =>
        match r.track client session track with
        | some ⟨sid, .video _⟩ =>
          !known || ((client == c || track != k || entry.isNone) &&
            !r.ownsId c k client session track sid)
        | _ => true
      | .clientDeath client _ =>
        !known || client == c || s.isLast client ||
          ((entry.isNone || !r.ownsTrack client k) && !r.sharesIdsWith client c k)
      | _ => true

/-- A new track of the client `c` gets what it needs, and no other one touches what those of `c`
have. -/
theorem exact_createVideoTrack (hs : Backed MediaRecorder.ExactBackends (ofTrack c k) s)
    (hguard : ∀ r, s.recorder = some r → r.isClientValid c = true →
      CameraService.checksTrack r client session track = true →
      r.ownsId c k client session track (getUniqueServiceTrackId client session track) = false ∧
      (client = c → track = k → (p.formatType = .rgb → s.createsStream r client session track p extra m = true →
        s.backends.isTrackIdValid (getUniqueServiceTrackId client session track) = true) ∧
        (p.formatType.isEncoded = true ∨
          s.backends.isTrackValid (getUniqueServiceTrackId client session track) = false)))
    (h : s.createVideoTrack client session track p extra m ans = .ok (st, t)) :
    Backed MediaRecorder.ExactBackends (ofTrack c k) t := by
  obtain ⟨⟨-, hsrc⟩, hcases⟩ := createVideoTrack_ok h
  rcases hcases with ⟨henc, hservice⟩ | ⟨r, r', hr, hservice, hnew⟩
  · have hold : ∀ id f, MediaRecorder.ExactBackends s.backends id f →
        MediaRecorder.ExactBackends t.backends id f := by
      rintro id f ⟨hid, he⟩
      exact ⟨hsrc id hid, by rw [Backends.isTrackValid, henc]; exact he⟩
    intro r' hr' c' i k' id f hc ht
    rcases hservice with heq | ⟨r, tm, hr, heq⟩
    · exact hold id f (hs r' ((congrArg Service.recorder heq).symm.trans hr') c' i k' id f hc ht)
    · have hr₁ : some { r with timelapseMode := tm } = some r' :=
        (congrArg Service.recorder heq).symm.trans hr'
      obtain rfl := Option.some.inj hr₁
      exact hold id f (hs r hr c' i k' id f hc ht)
  intro r₁ hr₁ c' i k' id f hc hreg
  have heq : some r' = some r₁ := (congrArg Service.recorder hservice).symm.trans hr₁
  obtain rfl := Option.some.inj heq
  obtain ⟨rfl, rfl⟩ := hc
  have ht : r'.track c' i k' = some ⟨id, .video f⟩ := hreg
  clear hreg
  obtain ⟨hnone, htrack⟩ := hnew.registers
  rw [htrack] at ht
  split at ht
  · next hkey =>
    obtain ⟨rfl, rfl, rfl⟩ := hkey
    obtain ⟨rfl, hf⟩ := TrackInfo.mk.inj (Option.some.inj ht)
    obtain rfl := TrackFormat.video.inj hf
    have hv : r.isClientValid client = true := by
      have hchecks := hnew.accepted
      simp only [CameraService.checksTrack, Bool.and_eq_true] at hchecks
      exact hchecks.1.1.2
    obtain ⟨hrgb, hraw⟩ := (hguard r hr hv hnew.accepted).2 rfl rfl
    refine ⟨?_, ?_⟩
    · rcases hnew.source with hvalid | ⟨h, hown⟩
      · exact hvalid
      · exact hsrc _ (hrgb h hown)
    · rw [hnew.isTrackValid]
      rcases hraw with he | hnot
      · simp [he]
      · simp [hnot]
  · next hkey =>
    obtain ⟨hid, he⟩ := hs r hr c' i k' id f ⟨rfl, rfl⟩ ht
    refine ⟨hsrc id hid, ?_⟩
    have hv : r.isClientValid c' = true :=
      isClientValid_of_isSessionValid (isSessionValid_of_track ht)
    have hne : getUniqueServiceTrackId client session track ≠ id := by
      rintro rfl
      exact hkey (eq_of_not_ownsId (hguard r hr hv hnew.accepted).1 ht)
    have he : s.backends.isTrackValid id = f.isEncoded := he
    simp [hnew.isTrackValid, he, hne]

/-- A parameter is set on a registered track, whose client track id gets a time-lapse entry, or nothing
happens. -/
theorem setVideoTrackParam_ok {p : CodecParam} {accepted : Bool} {answer : Status × List TrackCall}
    (h : s.setVideoTrackParam client session track p accepted = .ok (answer, t)) :
    (t = s ∧ ∀ r, s.recorder = some r → r.track client session track = none) ∨
    ∃ r, s.recorder = some r ∧ r.isTrackValid client session track = true ∧
      t = ⟨{ s.service with recorder := some (r.touchTimelapse track) }, s.backends⟩ := by
  unfold MediaService.setVideoTrackParam at h
  split at h
  · next hr =>
    obtain ⟨-, rfl⟩ := Prod.mk.inj (Except.ok.inj h)
    exact .inl ⟨rfl, fun r hr' => by simp [hr] at hr'⟩
  next r hr =>
  have hself : (⟨{ s.service with recorder := some r }, s.backends⟩ : MediaService) = s := by
    rw [← hr]
    rfl
  obtain ⟨⟨answer', u⟩, hu, h⟩ := Library.bind_eq_ok_iff.mp h
  obtain ⟨rfl, rfl⟩ := Prod.mk.inj (Except.ok.inj h)
  simp only [MediaRecorder.setVideoTrackParam] at hu
  split at hu
  · next hv =>
    obtain ⟨-, rfl⟩ := Prod.mk.inj (Except.ok.inj hu)
    refine .inl ⟨hself, fun r' hr' => ?_⟩
    obtain rfl := Option.some.inj (hr.symm.trans hr')
    refine track_eq_none_of_not_session (Bool.eq_false_iff.mpr fun hs => ?_)
    simp [isClientValid_of_isSessionValid hs] at hv
  split at hu
  · next hv =>
    obtain ⟨-, rfl⟩ := Prod.mk.inj (Except.ok.inj hu)
    refine .inl ⟨hself, fun r' hr' => ?_⟩
    obtain rfl := Option.some.inj (hr.symm.trans hr')
    exact track_eq_none_of_not_session (by simpa using hv)
  split at hu
  · next hnone =>
    obtain ⟨-, rfl⟩ := Prod.mk.inj (Except.ok.inj hu)
    refine .inl ⟨hself, fun r' hr' => ?_⟩
    obtain rfl := Option.some.inj (hr.symm.trans hr')
    exact hnone
  next info hinfo =>
  have hvalid : r.isTrackValid client session track = true := by simp [isTrackValid_eq_isSome, hinfo]
  repeat' split at hu
  · obtain ⟨-, rfl⟩ := Prod.mk.inj (Except.ok.inj hu)
    exact .inr ⟨r, hr, hvalid, rfl⟩
  · obtain ⟨-, rfl⟩ := Prod.mk.inj (Except.ok.inj hu)
    exact .inr ⟨r, hr, hvalid, rfl⟩
  · simp at hu
  · obtain ⟨-, rfl⟩ := Prod.mk.inj (Except.ok.inj hu)
    exact .inr ⟨r, hr, hvalid, rfl⟩

theorem nextParam_eq_some {a : ParamRequest} :
    s.nextParam a = some t ↔ ∃ st, s.stepParam a = .ok (st, t) := by
  unfold nextParam
  split <;> simp_all

theorem exact_step : (paramLts.guarded fun s a => keepsParams c k s a).TrInv
    (Backed MediaRecorder.ExactBackends (ofTrack c k)) := by
  rintro s a t ⟨hstep, hguard⟩ hs
  obtain ⟨st, h⟩ := nextParam_eq_some.mp hstep
  have hknown : ∀ {r : RecorderImpl} {i k id f}, r.track c i k = some ⟨id, .video f⟩ →
      r.isClientValid c = true := by
    intro r i k id f ht
    exact isClientValid_of_isSessionValid (isSessionValid_of_track ht)
  cases a with
  | media a =>
    refine hs.step MediaRecorder.demand_exactBackends h ?_ ?_ ?_
    · intro client session track p extra m ha h
      refine exact_createVideoTrack hs (fun r hr hv hchecks => ?_) h
      simp only [keepsParams, hr, Option.all_some, ha, hv, hchecks, Bool.not_true, Bool.false_or,
        Bool.and_eq_true, Bool.not_eq_true'] at hguard
      refine ⟨hguard.1, ?_⟩
      rintro rfl rfl
      have hown := hguard.2
      simp only [bne_self_eq_false, Bool.false_or, BEq.rfl, if_true, Bool.and_eq_true,
        Bool.not_eq_true', Bool.or_eq_true] at hown
      refine ⟨fun hrgb hstream => ?_, hown.2⟩
      simpa [hrgb, hstream] using hown.1
    · rintro client session track m r id f ha hr ht c' i k' g ⟨rfl, rfl⟩ hk
      simp only [keepsParams, hr, Option.all_some, ha, ht, hknown hk, Bool.not_true, Bool.false_or,
        Bool.and_eq_true, Bool.not_eq_true'] at hguard
      exact eq_of_not_ownsId hguard.2 hk
    · rintro client m r ha hr hlast i x id f ht c' i' k' g ⟨⟨rfl, rfl⟩, hne⟩ hk
      have hne : (client == c') = false := by simpa using Ne.symm hne
      simp only [keepsParams, hr, Option.all_some, ha, hknown hk, hne, hlast, Bool.not_true,
        Bool.false_or, Bool.and_eq_true, Bool.not_eq_true'] at hguard
      exact apart_of_not_sharesIdsWith hguard.2 i x id f ht i' g hk
  | setVideoTrackParam client session track p accepted =>
    obtain ⟨⟨answer, u⟩, hu, h⟩ := Library.bind_eq_ok_iff.mp h
    obtain ⟨-, rfl⟩ := Prod.mk.inj (Except.ok.inj h)
    rcases setVideoTrackParam_ok hu with ⟨rfl, -⟩ | ⟨r, hr, -, rfl⟩
    · exact hs
    · intro r' hr' c' i k' id f hc ht
      obtain rfl := Option.some.inj hr'
      exact hs r hr c' i k' id f hc ht

/-- What the client `c` sees of a run: everything but the video tracks of the others. -/
def seen (c : UInt32) : ParamRequest → Bool
  | .setVideoTrackParam client _ _ _ _ => client == c
  | .media a =>
    match a.request with
    | .createVideoTrack client _ _ _ _ _ => client == c
    | .deleteVideoTrack client _ _ _ => client == c
    | _ => true

/-- The answers that say what the client has: the status of its creations and deletions, and the id of
a new session. -/
def answer (c : UInt32) (s : MediaService) : ParamRequest → Status × UInt32
  | .setVideoTrackParam .. => (.noError, 0)
  | .media a =>
    match s.step a with
    | .error _ => (.noError, 0)
    | .ok (st, t) =>
      match a.request with
      | .createSession client =>
        if client = c ∧ st = .noError then (st, (t.recorder.map (·.uniqueSessionId)).getD 0)
        else if client = c then (st, 0) else (.noError, 0)
      | .deleteSession client _ | .createVideoTrack client _ _ _ _ _ | .createAudioTrack client _ _ _ _
      | .deleteVideoTrack client _ _ _ | .deleteAudioTrack client _ _ _ =>
        if client = c then (st, 0) else (.noError, 0)
      | _ => (.noError, 0)

/-- A request that the recorder answers changes nothing but what the client has. -/
theorem view_ofRecorder {u v : Service} {f : Own → Own}
    (h : u.recorder = none ∧ v = u ∨ ∃ r r', u.recorder = some r ∧ r'.own c k = f (r.own c k) ∧
      v = { u with recorder := some r' }) :
    v.view c k = if (u.view c k).present then { u.view c k with own := f (u.view c k).own }
      else u.view c k := by
  rcases h with ⟨hr, rfl⟩ | ⟨r, r', hr, ho, rfl⟩
  · simp [Service.view, hr]
  · simp [Service.view, hr, ho]

theorem view_of_onRecorder {u v : Service} {unset : Status} {g : RecorderImpl → Result} {f : Own → Own}
    (h : u.onRecorder unset g = .ok (st, v))
    (hf : ∀ r r', u.recorder = some r → g r = .ok (st, r') → r'.own c k = f (r.own c k)) :
    v.view c k = if (u.view c k).present then { u.view c k with own := f (u.view c k).own }
      else u.view c k := by
  refine view_ofRecorder ?_
  rcases Service.onRecorder_cases h with ⟨hr, -, heq⟩ | ⟨r, r', hr, hok, heq⟩
  · exact .inl ⟨hr, heq⟩
  · exact .inr ⟨r, r', hr, hf r r' hr hok, heq⟩

theorem view_onService {request : Request} {unset : Status} {g : RecorderImpl → Result} {f : Own → Own}
    (h : s.onService request = .ok (st, t))
    (hstep : s.service.step request = s.service.onRecorder unset g)
    (hf : ∀ r r', s.recorder = some r → g r = .ok (st, r') → r'.own c k = f (r.own c k)) :
    t.service.view c k = if (s.service.view c k).present then
      { s.service.view c k with own := f (s.service.view c k).own } else s.service.view c k := by
  obtain ⟨⟨st', u⟩, hu, h⟩ := Library.bind_eq_ok_iff.mp h
  obtain ⟨rfl, rfl⟩ := Prod.mk.inj (Except.ok.inj h)
  rw [hstep] at hu
  exact view_of_onRecorder hu hf

theorem view_onRecorder {g : MediaRecorder → Except Abort (Status × MediaRecorder)} {f : Own → Own}
    (h : s.onRecorder g = .ok (st, t))
    (hf : ∀ r u, s.recorder = some r → g ⟨r, s.backends⟩ = .ok (st, u) →
      u.recorder.own c k = f (r.own c k)) :
    t.service.view c k = if (s.service.view c k).present then
      { s.service.view c k with own := f (s.service.view c k).own } else s.service.view c k := by
  refine view_ofRecorder ?_
  unfold MediaService.onRecorder at h
  split at h
  · next hr =>
    obtain ⟨-, rfl⟩ := Prod.mk.inj (Except.ok.inj h)
    exact .inl ⟨hr, rfl⟩
  · next r hr =>
    obtain ⟨⟨st', u⟩, hu, h⟩ := Library.bind_eq_ok_iff.mp h
    obtain ⟨rfl, rfl⟩ := Prod.mk.inj (Except.ok.inj h)
    exact .inr ⟨r, u.recorder, hr, hf r u hr hu, rfl⟩

theorem view_clientDeath
    (hguard : ∀ r, s.recorder = some r → r.isClientValid c = true → client ≠ c →
      s.isLast client = false → MediaRecorder.Quiet client k r)
    (h : s.clientDeath client m = .ok (st, t)) :
    t.service.view c k = (s.service.view c k).leave c client true := by
  unfold MediaService.clientDeath at h
  split at h
  · next hr =>
    obtain ⟨-, rfl⟩ := Prod.mk.inj (Except.ok.inj h)
    have hr : s.service.recorder = none := hr
    simp [ClientView.leave, Service.view, hr]
  next r hr =>
  have hr : s.service.recorder = some r := hr
  split at h
  · next hd =>
    obtain ⟨-, rfl⟩ := Prod.mk.inj (Except.ok.inj h)
    have hd : s.service.deathNotifierList.contains client = false := by simpa using hd
    simp [ClientView.leave, Service.view, hd]
  next hd =>
  split at h
  · next hcb =>
    obtain ⟨-, rfl⟩ := Prod.mk.inj (Except.ok.inj h)
    have hcb : s.service.remoteCbList.contains client = false := by simpa using hcb
    simp [ClientView.leave, Service.view, hcb]
  next hcb =>
  have hd : client ∈ s.service.deathNotifierList := by simpa using hd
  have hcb : client ∈ s.service.remoteCbList := by simpa using hcb
  split at h
  · next hv =>
    obtain ⟨-, rfl⟩ := Prod.mk.inj (Except.ok.inj h)
    refine Service.view_forget hr hd hcb ?_
    split
    · next hc => exact own_eq_none_iff.mpr (by simpa [← hc.2] using hv)
    · rfl
  obtain ⟨u, hu, h⟩ := Library.bind_eq_ok_iff.mp h
  obtain ⟨-, rfl⟩ := Prod.mk.inj (Except.ok.inj h)
  by_cases hlast : s.isLast client = true
  · -- the recorder goes, whatever the cleanup has left in it
    have hlast : ((s.service.deathNotifierList.erase client).isEmpty &&
      (s.service.remoteCbList.erase client).isEmpty) = true := hlast
    simp [withService, Service.forget, Service.view, ClientView.leave, hr, hlast,
      Std.ExtTreeMap.contains_iff_mem.mpr hd, Std.ExtTreeMap.contains_iff_mem.mpr hcb]
  refine @Service.view_forget _ _ _ _ r u.recorder hr hd hcb _ ?_
  by_cases hc : client = c
  · rw [if_pos ⟨rfl, hc⟩, ← hc]
    exact MediaRecorder.own_forceCleanup_self hu
  · rw [if_neg fun h => hc h.2]
    exact MediaRecorder.own_forceCleanup (s := ⟨r, s.backends⟩) hc
      (fun hv => hguard r hr hv hc (Bool.eq_false_iff.mpr hlast)) hu

theorem view_createVideoTrack
    (hguard : ∀ r, s.recorder = some r → r.isClientValid c = true → client ≠ c →
      CameraService.checksTrack r client session track = true → track = k →
        (p.formatType.isEncoded && extra.videoTimelapseInterval) = true →
          r.timelapseMode[k]?.isSome = true)
    (h : s.createVideoTrack client session track p extra m ans = .ok (st, t)) :
    t.service.view c k = if (s.service.view c k).present then
      { s.service.view c k with
        own := (Request.createVideoTrack client session track p extra m).onOwn c k
          (s.service.view c k).own (st, 0) }
      else s.service.view c k := by
  obtain ⟨⟨st₁, u⟩, hu, h⟩ := Library.bind_eq_ok_iff.mp h
  obtain ⟨⟨st₂, v⟩, hv, hu⟩ := Library.bind_eq_ok_iff.mp hu
  obtain ⟨rfl, rfl⟩ := Prod.mk.inj (Except.ok.inj hu)
  obtain ⟨rfl, rfl⟩ := Prod.mk.inj (Except.ok.inj h)
  have hservice : ∀ (P : Prop) [Decidable P] (x : MediaService) (b : Backends),
      (if P then { x with backends := b } else x).service = x.service := by
    intro P _ x b
    split
    · rfl
    · rfl
  rw [hservice]
  dsimp only
  rcases CameraService.createVideoTrack_ok hv with
    ⟨hst, rfl⟩ | ⟨r, r', source, st₁, hr, hchecks, -, -, -, hr', heq⟩
  · simp [Request.onOwn, hst, camera]
  · have hr : s.service.recorder = some r := hr
    refine view_ofRecorder (f := fun own => (Request.createVideoTrack client session track p extra
      m).onOwn c k own (st₂, 0)) (.inr ⟨r, r', hr, ?_, heq⟩)
    rw [own_createVideoTrack rfl hr']
    by_cases hok : st₂ = .noError
    · by_cases hc : client = c
      · simp [Request.onOwn, hok, hc]
      · simp only [Request.onOwn, hok, hc, if_true, if_false, false_and]
        cases ho : r.own c k with
        | none => rfl
        | some o =>
          obtain ⟨ss, e⟩ := o
          have hvalid : r.isClientValid c = true := by
            by_contra hnot
            simp [own_eq_none_iff.mpr (Bool.eq_false_iff.mpr hnot)] at ho
          have hentry := hguard r hr hvalid hc hchecks
          obtain ⟨-, -, he⟩ := sessions_of_own ho
          rw [he] at hentry
          simp only [Option.map_some, lapseEntry, Option.some.injEq, Prod.mk.injEq, true_and]
          split
          · next hk =>
            obtain ⟨x, rfl⟩ := Option.isSome_iff_exists.mp (hentry hk.1 hk.2)
            rfl
          · rfl
    · simp [Request.onOwn, hok]

theorem view_setVideoTrackParam {q : CodecParam} {accepted : Bool} {calls : Status × List TrackCall}
    {ans : Status × UInt32}
    (hguard : ∀ r, s.recorder = some r → client ≠ c → r.isClientValid c = true → track = k →
      r.isTrackValid client session track = true → r.timelapseMode[k]?.isSome = true)
    (h : s.setVideoTrackParam client session track q accepted = .ok (calls, t)) :
    t.service.view c k =
      (s.service.view c k).next c k (.setVideoTrackParam client session track q accepted) ans := by
  have hmem : ∀ {r : RecorderImpl} {o}, r.own client k = some o →
      (track ∈ o.1[session]?.getD ∅ ↔ r.isTrackValid client session track = true) := by
    intro r o ho
    obtain ⟨-, hss, -⟩ := @sessions_of_own _ _ _ o.1 o.2 ho
    rw [isTrackValid, tracks, hss, Std.ExtTreeMap.contains_iff_mem]
  rcases setVideoTrackParam_ok h with ⟨rfl, hnone⟩ | ⟨r, hr, hvalid, rfl⟩
  · simp only [ClientView.next]
    split
    · next hc =>
      subst hc
      cases hr : t.service.recorder with
      | none => simp [Service.view, hr]
      | some r =>
        have hnot : r.isTrackValid client session track = false := by
          rw [isTrackValid_eq_isSome, hnone r hr]
          rfl
        cases ho : r.own client k with
        | none => simp [Service.view, hr, ho]
        | some o => simp [Service.view, hr, ho, hmem ho, hnot]
    · rfl
  · have hr : s.service.recorder = some r := hr
    have hown := @own_touchTimelapse r track c k
    rw [Service.view_setRecorder hr hown, ClientView.next]
    by_cases hc : client = c
    · subst hc
      rw [if_pos rfl]
      cases ho : r.own client k with
      | none => simp [Service.view, hr, ho]
      | some o => simp [Service.view, hr, ho, hmem ho, hvalid]
    · rw [if_neg hc]
      cases ho : r.own c k with
      | none => simp [Service.view, hr, ho]
      | some o =>
        have hv : r.isClientValid c = true := by
          by_contra hnot
          simp [own_eq_none_iff.mpr (Bool.eq_false_iff.mpr hnot)] at ho
        obtain ⟨ss, e⟩ := o
        obtain ⟨-, -, he⟩ := sessions_of_own ho
        have hsame : (if track = k then some (e.getD false) else e) = e := by
          split
          · next hk =>
            obtain ⟨x, hx⟩ := Option.isSome_iff_exists.mp (hguard r hr hc hv hk hvalid)
            obtain rfl : e = some x := he.symm.trans hx
            rfl
          · rfl
        simp [Service.view, hr, ho, hsame]

theorem view_deleteVideoTrack
    (hguard : ∀ r i f, s.recorder = some r → r.isClientValid c = true → client ≠ c →
      r.track client session track = some ⟨i, .video f⟩ → track = k → r.timelapseMode[k]? = none)
    (h : s.onRecorder (fun r => r.deleteVideoTrack s.service.remoteCb m client session track) =
      .ok (st, t)) :
    t.service.view c k = if (s.service.view c k).present then
      { s.service.view c k with
        own := (Request.deleteVideoTrack client session track m).onOwn c k (s.service.view c k).own
          (st, 0) }
      else s.service.view c k := by
  refine view_onRecorder (f := fun own =>
    (Request.deleteVideoTrack client session track m).onOwn c k own (st, 0)) h fun r u hr hu => ?_
  obtain ⟨⟨st', r'⟩, hr', hu⟩ := Library.bind_eq_ok_iff.mp hu
  obtain ⟨rfl, rfl⟩ := Prod.mk.inj (Except.ok.inj hu)
  have hown := own_deleteVideoTrack (c := c) (k := k) hr'
  simp only [Request.onOwn]
  by_cases hok : st' = .noError
  · by_cases hc : client = c
    · simpa [hok, hc] using hown
    · rw [if_neg fun h => hc h.1]
      obtain ⟨i, f, hi⟩ : ∃ i f, r.track client session track = some ⟨i, .video f⟩ := by
        rcases deleteVideoTrack_cases hr' with ⟨hst, -⟩ | ⟨-, i, f, hi, -⟩
        · exact absurd hok hst
        · exact ⟨i, f, hi⟩
      rw [if_pos hok] at hown
      rw [hown]
      cases ho : r.own c k with
      | none => rfl
      | some o =>
        obtain ⟨ss, e⟩ := o
        have hv : r.isClientValid c = true := by
          by_contra hnot
          simp [own_eq_none_iff.mpr (Bool.eq_false_iff.mpr hnot)] at ho
        obtain ⟨-, -, he⟩ := sessions_of_own ho
        have hsame : (if track = k then none else e) = e := by
          split
          · next hk => rw [← he, hguard r i f hr hv hc hi hk]
          · rfl
        simp [hc, hsame]
  · rw [if_neg fun h => hok h.2]
    simpa [hok] using hown

/-- Every request changes what the client can tell as its answer says. -/
theorem view_step {a : ParamRequest} (hguard : keepsParams c k s a = true)
    (h : s.stepParam a = .ok (st, t)) :
    t.service.view c k = (s.service.view c k).next c k a (answer c s a) := by
  cases a with
  | setVideoTrackParam client session track q accepted =>
    obtain ⟨⟨calls, u⟩, hu, h⟩ := Library.bind_eq_ok_iff.mp h
    obtain ⟨-, rfl⟩ := Prod.mk.inj (Except.ok.inj h)
    refine view_setVideoTrackParam (fun r hr hc hv hk hvalid => ?_) hu
    have hc : (client == c) = false := by simpa using hc
    simpa [keepsParams, hr, hc, hv, hk, hk ▸ hvalid] using hguard
  | media a =>
    obtain ⟨request, stream⟩ := a
    have h : s.step ⟨request, stream⟩ = .ok (st, t) := h
    have hans := h
    cases request with
    | connect init =>
      obtain ⟨⟨st', u⟩, hu, h⟩ := Library.bind_eq_ok_iff.mp h
      obtain ⟨-, rfl⟩ := Prod.mk.inj (Except.ok.inj h)
      obtain rfl : (s.service.connect init).2 = u := congrArg Prod.snd (Except.ok.inj hu)
      refine Service.view_connect fun hc r hr => ?_
      have hr : s.recorder = some r := hr
      simpa [keepsParams, hr, hc] using hguard
    | disconnect client =>
      obtain ⟨⟨st', u⟩, hu, h⟩ := Library.bind_eq_ok_iff.mp h
      obtain ⟨-, rfl⟩ := Prod.mk.inj (Except.ok.inj h)
      exact Service.view_leave hu
    | clientDeath client m =>
      refine view_clientDeath (fun r hr hv hne hlast => ?_) h
      have hne : (client == c) = false := by simpa using hne
      have hg : r.timelapseMode[k]?.isNone = true ∨ r.ownsTrack client k = false := by
        have hg := hguard
        simp only [keepsParams, hr, Option.all_some, hv, hne, hlast, Bool.not_true, Bool.false_or,
          Bool.and_eq_true, Bool.or_eq_true, Bool.not_eq_true'] at hg
        exact hg.1
      exact hg.imp Option.isNone_iff_eq_none.mp fun hnot i id f => not_track_of_not_ownsTrack hnot
    | startCamera client camera slave m =>
      obtain ⟨⟨st', u⟩, hu, h⟩ := Library.bind_eq_ok_iff.mp h
      obtain ⟨-, rfl⟩ := Prod.mk.inj (Except.ok.inj h)
      obtain ⟨⟨st'', hservice⟩, -⟩ := CameraService.startCamera_service hu
      refine view_of_onRecorder (f := id) hservice fun r r' _ hok => ?_
      rcases startCamera_cases hok with rfl | ⟨-, hedit⟩
      · rfl
      · exact hedit.own
    | stopCamera client camera m =>
      obtain ⟨⟨st', u⟩, hu, h⟩ := Library.bind_eq_ok_iff.mp h
      obtain ⟨-, rfl⟩ := Prod.mk.inj (Except.ok.inj h)
      obtain ⟨⟨st'', hservice⟩, -⟩ := CameraService.stopCamera_service hu
      refine view_of_onRecorder (f := id) hservice fun r r' _ hok => ?_
      rcases stopCamera_cases hok with rfl | ⟨-, hedit⟩
      · rfl
      · exact hedit.own
    | createSession client =>
      refine view_onService (f := fun own => (Request.createSession client).onOwn c k own
        (answer c s (.media ⟨.createSession client, stream⟩))) h rfl fun r r' hr hf => ?_
      rw [own_createSession hf]
      by_cases hc : client = c
      · subst hc
        have ht : t.recorder = some r' := by
          have hr : s.service.recorder = some r := hr
          have h : s.step ⟨.createSession client, stream⟩ =
              .ok (st, s.withService { s.service with recorder := some r' }) := by
            simp only [MediaService.step, onService, Service.step, Service.onRecorder, hr, hf]
            rfl
          obtain ⟨-, rfl⟩ := Prod.mk.inj (Except.ok.inj (hans.symm.trans h))
          rfl
        by_cases hok : st = .noError
        · simp [Request.onOwn, answer, hans, hok, ht]
        · simp [Request.onOwn, answer, hans, hok]
      · simp [Request.onOwn, hc]
    | deleteSession client session =>
      refine view_onService (f := fun own => (Request.deleteSession client session).onOwn c k own
        (answer c s (.media ⟨.deleteSession client session, stream⟩))) h rfl fun r r' hr hf => ?_
      rw [own_deleteSession hf]
      by_cases hc : client = c
      · subst hc
        simp [Request.onOwn, answer, hans]
      · simp [Request.onOwn, hc]
    | startSession client session m =>
      refine view_onRecorder (f := fun own => (Request.startSession client session m).onOwn c k own
        (answer c s (.media ⟨.startSession client session m, stream⟩)))
        (g := fun r => r.startSession m client session) h fun r u hr hu => ?_
      obtain ⟨r', hr', rfl⟩ := MediaRecorder.startSession_eq_ok hu
      refine own_startSession (fun hc => ?_) hr'
      simpa [keepsParams, hr, hc] using hguard
    | stopSession client session m =>
      refine view_onRecorder (f := fun own => (Request.stopSession client session m).onOwn c k own
        (answer c s (.media ⟨.stopSession client session m, stream⟩)))
        (g := fun r => r.stopSession m client session) h fun r u hr hu => ?_
      obtain ⟨⟨st', r'⟩, hr', hu⟩ := Library.bind_eq_ok_iff.mp hu
      obtain ⟨-, rfl⟩ := Prod.mk.inj (Except.ok.inj hu)
      refine own_stopSession (fun hc => ?_) hr'
      simpa [keepsParams, hr, hc] using hguard
    | pauseSession client session m =>
      refine view_onService (f := id) h rfl fun r r' hr hf => ?_
      obtain rfl : (r.pauseSession _ client session).2 = r' := congrArg Prod.snd (Except.ok.inj hf)
      exact own_pauseSession
    | resumeSession client session m =>
      refine view_onService (f := id) (MediaService.onService_of_resumeSession h) rfl
        fun r r' hr hf => ?_
      obtain rfl : (r.resumeSession _ client session).2 = r' := congrArg Prod.snd (Except.ok.inj hf)
      exact own_resumeSession
    | createVideoTrack client session track p extra m =>
      refine (view_createVideoTrack (fun r hr hv hne hchecks hk hlapse => ?_) h).trans ?_
      · subst hk
        have hne : (client == c) = false := by simpa using hne
        simp only [keepsParams, hr, Option.all_some, hv, hchecks, hne, hlapse, Bool.not_true,
          Bool.false_or, Bool.and_eq_true, Bool.false_eq_true, if_false, bne_self_eq_false] at hguard
        exact hguard.2
      · by_cases hc : client = c
        · subst hc
          simp [ClientView.next, answer, hans]
        · simp [ClientView.next, Request.onOwn, hc]
    | createAudioTrack client session track p m =>
      refine view_onService (f := fun own => (Request.createAudioTrack client session track p m).onOwn
        c k own (answer c s (.media ⟨.createAudioTrack client session track p m, stream⟩))) h rfl
        fun r r' hr hf => ?_
      by_cases hid : Service.isTrackIdAccepted track = true
      · simp only [hid, Bool.not_true, Bool.false_eq_true, if_false] at hf
        rw [own_createAudioTrack hf]
        by_cases hc : client = c
        · subst hc
          simp [Request.onOwn, answer, hans]
        · simp [Request.onOwn, hc]
      · simp only [hid, Bool.not_false, if_true] at hf
        obtain ⟨rfl, rfl⟩ := Prod.mk.inj (Except.ok.inj hf)
        by_cases hc : client = c
        · subst hc
          simp [Request.onOwn, answer, hans]
        · simp [Request.onOwn, hc]
    | deleteVideoTrack client session track m =>
      refine (view_deleteVideoTrack (fun r i f hr hv hne ht hk => ?_) h).trans ?_
      · subst hk
        have hne : (client == c) = false := by simpa using hne
        simp only [keepsParams, hr, Option.all_some, hv, ht, hne, Bool.not_true, Bool.false_or,
          Bool.and_eq_true, bne_self_eq_false] at hguard
        exact Option.isNone_iff_eq_none.mp hguard.1
      · by_cases hc : client = c
        · subst hc
          simp [ClientView.next, answer, hans]
        · simp [ClientView.next, Request.onOwn, hc]
    | deleteAudioTrack client session track m =>
      refine view_onService (f := fun own => (Request.deleteAudioTrack client session track m).onOwn
        c k own (answer c s (.media ⟨.deleteAudioTrack client session track m, stream⟩))) h rfl
        fun r r' hr hf => ?_
      rw [own_deleteAudioTrack hf]
      by_cases hc : client = c
      · subst hc
        simp [Request.onOwn, answer, hans]
      · simp [Request.onOwn, hc]
    | cameraResult camera | cameraError camera =>
      refine view_onService (f := id) h rfl fun r r' hr hf => ?_
      obtain ⟨_, -, hf⟩ := Library.bind_eq_ok_iff.mp hf
      rw [eq_of_ok hf]
      rfl

theorem next_of_not_seen {v : ClientView} {a : ParamRequest} (h : seen c a = false)
    {ans : Status × UInt32} : v.next c k a ans = v := by
  cases a with
  | setVideoTrackParam client session track q accepted =>
    have hc : client ≠ c := by simpa [seen] using h
    simp [ClientView.next, hc]
  | media a =>
    obtain ⟨request, stream⟩ := a
    cases request with
    | createVideoTrack client session track p extra m =>
      have hc : client ≠ c := by simpa [seen] using h
      simp [ClientView.next, Request.onOwn, hc]
    | deleteVideoTrack client session track m =>
      have hc : client ≠ c := by simpa [seen] using h
      simp [ClientView.next, Request.onOwn, hc]
    | _ => simp [seen] at h

/-- The video tracks of the others do not change what the client can tell. -/
theorem unwinds_view : LTS.Unwinds nextParam (fun s a => keepsParams c k s a = true) (fun _ => True)
    (seen c) (answer c) (fun s => s.service.view c k) (fun v => v.next c k) := by
  intro s a t _ hguard hstep
  obtain ⟨st, h⟩ := nextParam_eq_some.mp hstep
  refine (view_step hguard h).trans ?_
  split
  · rfl
  · next hnot => exact next_of_not_seen (by simpa using hnot)

/-- What `SetVideoTrackParam` returns, and what the source and the encoder are told. -/
def paramAnswer (s : MediaService) (client session track : UInt32) (q : CodecParam)
    (accepted : Bool) : Except Abort (Status × List TrackCall) :=
  (s.setVideoTrackParam client session track q accepted).map Prod.fst

theorem paramAnswer_congr {r r' : RecorderImpl} {info : TrackInfo} {q : CodecParam} {accepted : Bool}
    (hr : s.recorder = some r) (hr' : t.recorder = some r')
    (ht : r.track client session track = some info) (ht' : r'.track client session track = some info)
    (hlapse : r'.inTimelapse track = r.inTimelapse track)
    (hid : t.backends.isTrackIdValid info.trackId = s.backends.isTrackIdValid info.trackId)
    (henc : t.backends.isTrackValid info.trackId = s.backends.isTrackValid info.trackId) :
    t.paramAnswer client session track q accepted = s.paramAnswer client session track q accepted := by
  have hsource : ∀ calls, t.backends.updateSource info.trackId q calls =
      s.backends.updateSource info.trackId q calls := fun calls => by
    rw [Backends.updateSource, hid, Backends.updateSource]
  have hs := isSessionValid_of_track ht
  have hs' := isSessionValid_of_track ht'
  simp only [paramAnswer, MediaService.setVideoTrackParam, hr, hr', MediaRecorder.setVideoTrackParam,
    isClientValid_of_isSessionValid hs, isClientValid_of_isSessionValid hs', hs, hs', ht, ht',
    Bool.not_true, Bool.false_eq_true, if_false, hlapse, henc, hsource]
  split
  · rfl
  split
  · rfl
  split
  · rfl
  · rfl

/-- Two runs in which the client `c` does the same and gets the same answers. If both meet the guard,
a parameter of one of its video tracks has the same effect after them, whatever the video tracks of the
others. -/
theorem paramAnswer_eq_of_keepsParams {r : RecorderImpl} {id : UInt32} {f : VideoFormat}
    {q : CodecParam} {accepted : Bool}
    (h : (paramLts.guarded fun s a => keepsParams c k s a).MTr {} as s)
    (h' : (paramLts.guarded fun s a => keepsParams c k s a).MTr {} bs t)
    (hseen : as.filter (seen c) = bs.filter (seen c))
    (hanswers : LTS.answers nextParam (seen c) (answer c) {} as =
      LTS.answers nextParam (seen c) (answer c) {} bs)
    (hr : s.recorder = some r) (ht : r.track c i k = some ⟨id, .video f⟩) :
    t.paramAnswer c i k q accepted = s.paramAnswer c i k q accepted := by
  have hview : s.service.view c k = t.service.view c k :=
    LTS.view_eq_of_agree (V := fun s : MediaService => s.service.view c k) unwinds_view
      (fun _ _ _ _ _ => trivial) trivial trivial rfl h h' hseen hanswers
  have hr : s.service.recorder = some r := hr
  have hown : s.service.recorder.bind (fun r => r.own c k) =
    t.service.recorder.bind fun r => r.own c k := congrArg ClientView.own hview
  have hv := isClientValid_of_isSessionValid (isSessionValid_of_track ht)
  obtain ⟨⟨ss, e⟩, ho⟩ : ∃ o, r.own c k = some o := by
    cases ho : r.own c k with
    | none => simp [own_eq_none_iff.mp ho] at hv
    | some o => exact ⟨o, rfl⟩
  rw [hr, Option.bind_some, ho] at hown
  obtain ⟨r', hr', ho'⟩ := Option.bind_eq_some_iff.mp hown.symm
  obtain ⟨-, hss, he⟩ := sessions_of_own ho
  obtain ⟨-, hss', he'⟩ := sessions_of_own ho'
  have ht' : r'.track c i k = some ⟨id, .video f⟩ := by
    rw [← ht, track, track, tracks, tracks, hss, hss']
  have hempty : Backed MediaRecorder.ExactBackends (ofTrack c k) {} := fun r hr => by simp [recorder] at hr
  obtain ⟨hid, henc⟩ := LTS.inv_of_mTr exact_step h hempty r hr c i k id f ⟨rfl, rfl⟩ ht
  obtain ⟨hid', henc'⟩ := LTS.inv_of_mTr exact_step h' hempty r' hr' c i k id f ⟨rfl, rfl⟩ ht'
  exact paramAnswer_congr hr hr' ht ht' (by rw [inTimelapse, he', inTimelapse, he]) (hid'.trans hid.symm)
    (henc'.trans henc.symm)

/-- A client with an encoded track, and another one whose session has tracks of its own. -/
def sharedRun (others : List ParamRequest) : List ParamRequest :=
  [.media ⟨.connect .noError, {}⟩, .media ⟨.startCamera 1 0 false {}, {}⟩,
    .media ⟨.createSession 1, {}⟩, .media ⟨.createVideoTrack 1 1 5 ⟨0, 640, 480, .avc⟩ {} {}, {}⟩,
    .media ⟨.connect .noError, {}⟩, .media ⟨.startCamera 2 1 false {}, {}⟩,
    .media ⟨.createSession 2, {}⟩] ++ others

def frameRate : CodecParam := ⟨.frameRateType, [0, 0, 240, 65]⟩

theorem paramAnswer_eq_other_track :
    ∃ s t, LTS.run nextParam {} (sharedRun []) = some s ∧
      LTS.run nextParam {} (sharedRun
        [.media ⟨.createVideoTrack 2 2 6 ⟨1, 640, 480, .avc⟩ { videoTimelapseInterval := true } {}, {}⟩]) =
          some t ∧
      t.paramAnswer 1 1 5 frameRate true = s.paramAnswer 1 1 5 frameRate true := by
  have hrun : (LTS.run nextParam {} (sharedRun [])).bind (fun s => s.recorder.map fun r =>
      r.track 1 1 5) = some (some ⟨0x01010005, .video .avc⟩) := by decide
  have hrun' : (LTS.run nextParam {} (sharedRun
      [.media ⟨.createVideoTrack 2 2 6 ⟨1, 640, 480, .avc⟩ { videoTimelapseInterval := true } {},
        {}⟩])).isSome = true := by decide
  obtain ⟨s, hs, hr⟩ := Option.bind_eq_some_iff.mp hrun
  obtain ⟨r, hr, ht⟩ := Option.map_eq_some_iff.mp hr
  obtain ⟨t, ht'⟩ := Option.isSome_iff_exists.mp hrun'
  refine ⟨s, t, hs, ht', paramAnswer_eq_of_keepsParams (LTS.mTr_guarded_iff.mpr ⟨hs, by decide⟩)
    (LTS.mTr_guarded_iff.mpr ⟨ht', by decide⟩) rfl (by decide) hr ht⟩

/-- Another client makes the client's track id a time-lapse one, and the encoder keeps its frame
rate. -/
theorem other_timelapse_track_keeps_frame_rate :
    ¬ ∀ (c i k id : UInt32) (f : VideoFormat) (as bs : List ParamRequest) (s t : MediaService)
      (r : RecorderImpl) (q : CodecParam) (accepted : Bool),
      paramLts.MTr {} as s → paramLts.MTr {} bs t → as.filter (seen c) = bs.filter (seen c) →
      LTS.answers nextParam (seen c) (answer c) {} as =
        LTS.answers nextParam (seen c) (answer c) {} bs →
      s.recorder = some r → r.track c i k = some ⟨id, .video f⟩ →
      t.paramAnswer c i k q accepted = s.paramAnswer c i k q accepted := by
  intro hall
  have hrun : (LTS.run nextParam {} (sharedRun [])).bind (fun s => s.recorder.map fun r =>
      (r.track 1 1 5, (s.paramAnswer 1 1 5 frameRate true).toOption)) =
        some (some ⟨0x01010005, .video .avc⟩, some (.noError,
          [.setTrackEncoderParams 0x01010005 frameRate,
            .updateTrackFrameRate 0x01010005 frameRate.value])) := by decide
  have hrun' : (LTS.run nextParam {} (sharedRun
      [.media ⟨.createVideoTrack 2 2 5 ⟨1, 640, 480, .avc⟩ { videoTimelapseInterval := true } {},
        {}⟩])).map (fun s => (s.paramAnswer 1 1 5 frameRate true).toOption) =
        some (some (.noError, [.updateTrackFrameRate 0x01010005 frameRate.value])) := by decide
  obtain ⟨s, hs, hr⟩ := Option.bind_eq_some_iff.mp hrun
  obtain ⟨r, hr, heq⟩ := Option.map_eq_some_iff.mp hr
  obtain ⟨ht, hanswer⟩ := Prod.mk.inj heq
  obtain ⟨t, ht', hanswer'⟩ := Option.map_eq_some_iff.mp hrun'
  have hsame := hall 1 1 5 _ _ _ _ s t r frameRate true (LTS.mTr_ofStep_iff.mpr hs)
    (LTS.mTr_ofStep_iff.mpr ht') rfl (by decide) hr ht
  rw [hsame, hanswer] at hanswer'
  simp at hanswer'

end MediaService

end QmmfSdk.Recorder
