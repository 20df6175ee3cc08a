import QmmfSdk.Recorder.Effects

/-! What a request on sessions and tracks leaves behind: the state it was given, or one update
of the record, with everything that was checked on the way. -/
namespace QmmfSdk.Recorder

/-- Both back ends let go of the track. -/
def TrackBackend.deletes (b : TrackBackend) (encoded : Bool) (id : UInt32) : Bool :=
  b.deleteTrackSource id == .noError && (!encoded || b.deleteTrackEncoder id == .noError)

def Media.deletes (m : Media) (info : TrackInfo) : Bool :=
  match info.format with
  | .video f => m.video.deletes f.isEncoded info.trackId
  | .audio f => m.audio.deletes (f != .pcm) info.trackId

namespace RecorderImpl

variable {r r' r'' : RecorderImpl} {remoteCb : UInt32 → Bool} {m : Media} {st : Status}
  {client session track c i : UInt32}

theorem isSessionValid_iff : r.isSessionValid c i = true ↔ i ∈ r.sessions c := by
  simp [isSessionValid]

theorem isClientValid_of_isSessionValid (h : r.isSessionValid c i = true) :
    r.isClientValid c = true := by
  rw [isSessionValid_iff, sessions] at h
  rw [isClientValid_iff, Std.ExtTreeMap.mem_iff_isSome_getElem?]
  cases hc : r.clientSessionMap[c]? with
  | none => simp [hc] at h
  | some ts => rfl

theorem track_eq_none_of_not_session (h : r.isSessionValid client session = false) :
    r.track client session track = none := by
  have hnot : session ∉ r.sessions client := by
    rw [← isSessionValid_iff, h]
    exact Bool.false_ne_true
  simp [RecorderImpl.track, tracks, Std.ExtTreeMap.getElem?_eq_none hnot]

theorem isSessionValid_of_track {info : TrackInfo}
    (h : r.track client session track = some info) : r.isSessionValid client session = true := by
  cases hv : r.isSessionValid client session with
  | true => rfl
  | false => simp [track_eq_none_of_not_session hv] at h

theorem isTrackValid_eq_isSome :
    r.isTrackValid client session track = (r.track client session track).isSome := by
  rw [isTrackValid, RecorderImpl.track, Std.ExtTreeMap.isSome_getElem?_eq_contains]

/-! ### Session states -/

/-- Only session states change, and at most `session` gets an entry. -/
def Restated (session : UInt32) (r r' : RecorderImpl) : Prop :=
  ∃ ss : IdMap SessionState, r' = { r with sessionsState := ss } ∧
    ∀ id, id ∈ ss ↔ session = id ∨ id ∈ r.sessionsState

theorem restated_touchSessionState : Restated session r (r.touchSessionState session) := by
  refine ⟨_, rfl, fun id => ?_⟩
  rw [Std.ExtTreeMap.mem_insertIfNew, Std.compare_eq_iff_eq]

theorem restated_setSessionState {x : SessionState} :
    Restated session r (r.setSessionState session x) := by
  refine ⟨_, rfl, fun id => ?_⟩
  rw [Std.ExtTreeMap.mem_insert, Std.compare_eq_iff_eq]

theorem Restated.trans (h : Restated session r r') (h' : Restated session r' r'') :
    Restated session r r'' := by
  obtain ⟨ss, rfl, hss⟩ := h
  obtain ⟨ss', rfl, hss'⟩ := h'
  refine ⟨ss', rfl, fun id => ?_⟩
  rw [hss' id, hss id]
  tauto

theorem resumeSession_cases : (r.resumeSession m client session).2 = r ∨
    r.isSessionValid client session = true ∧
      Restated session r (r.resumeSession m client session).2 := by
  unfold resumeSession
  dsimp only
  split
  · exact .inl rfl
  split
  · exact .inl rfl
  next hv =>
  have hv : r.isSessionValid client session = true := by simpa using hv
  repeat' split
  · exact .inr ⟨hv, restated_touchSessionState⟩
  · exact .inr ⟨hv, restated_touchSessionState.trans restated_setSessionState⟩
  · exact .inr ⟨hv, restated_touchSessionState⟩

theorem pauseSession_cases : (r.pauseSession m client session).2 = r ∨
    r.isSessionValid client session = true ∧
      Restated session r (r.pauseSession m client session).2 := by
  unfold pauseSession
  dsimp only
  split
  · exact .inl rfl
  split
  · exact .inl rfl
  next hv =>
  have hv : r.isSessionValid client session = true := by simpa using hv
  repeat' split
  · exact .inr ⟨hv, restated_touchSessionState⟩
  · exact .inr ⟨hv, restated_touchSessionState.trans restated_setSessionState⟩
  · exact .inr ⟨hv, restated_touchSessionState⟩

theorem lockSession_ok (h : r.lockSession client session = .ok r') :
    r.sessionsMutexMap[session]? = some true ∧ r' = r.updateTracks client session id := by
  unfold lockSession at h
  dsimp only at h
  split at h
  · next hm => exact ⟨hm, (Except.ok.inj h).symm⟩
  · simp at h

/-- The lock needs a mutex, and the lookups before it leave an entry for the session. -/
theorem startSession_cases (h : r.startSession m client session = .ok (st, r')) :
    r.sessionsMutexMap[session]? = some true ∧
      Restated session (r.updateTracks client session id) r' := by
  obtain ⟨r₁, hl, h⟩ := Library.bind_eq_ok_iff.mp h
  obtain ⟨hm, rfl⟩ := lockSession_ok hl
  refine ⟨hm, ?_⟩
  have htouch : Restated session (r.updateTracks client session id)
      ((r.updateTracks client session id).touchSessionState session) := restated_touchSessionState
  dsimp only at h
  split at h
  · obtain ⟨-, rfl⟩ := by simpa using h
    rcases @resumeSession_cases ((r.updateTracks client session id).touchSessionState session) m client
      session with heq | ⟨-, hres⟩
    · rw [heq]
      exact htouch
    · exact htouch.trans hres
  · exact eq_of_ok h ▸ htouch
  · split at h
    · obtain ⟨-, rfl⟩ := by simpa using h
      exact htouch.trans restated_setSessionState
    · exact eq_of_ok h ▸ htouch

theorem stopSession_cases (h : r.stopSession m client session = .ok (st, r')) :
    r.sessionsMutexMap[session]? = some true ∧
      Restated session (r.updateTracks client session id) r' := by
  obtain ⟨r₁, hl, h⟩ := Library.bind_eq_ok_iff.mp h
  obtain ⟨hm, rfl⟩ := lockSession_ok hl
  refine ⟨hm, ?_⟩
  have htouch : Restated session (r.updateTracks client session id)
      ((r.updateTracks client session id).touchSessionState session) := restated_touchSessionState
  dsimp only at h
  split at h
  · exact eq_of_ok h ▸ htouch
  · split at h
    · obtain ⟨-, rfl⟩ := by simpa using h
      exact htouch.trans restated_setSessionState
    · exact eq_of_ok h ▸ htouch

/-! ### Sessions -/

theorem createSession_cases (h : r.createSession client = .ok (st, r')) :
    st ≠ .noError ∧ r' = r ∨
    r.isClientValid client = true ∧ r' =
      { r.updateSessions client (fun m => m.insertIfNew (r.uniqueSessionId + 1) ∅) with
        uniqueSessionId := r.uniqueSessionId + 1
        sessionsState := r.sessionsState.insertIfNew (r.uniqueSessionId + 1) .idle
        sessionsMutexMap := r.sessionsMutexMap.insertIfNew (r.uniqueSessionId + 1) true } := by
  unfold createSession at h
  split at h
  · obtain ⟨rfl, rfl⟩ := by simpa using h
    exact .inl ⟨by simp, rfl⟩
  next hv =>
  obtain ⟨-, rfl⟩ := by simpa using h
  exact .inr ⟨by simpa using hv, rfl⟩

/-- What a deleted session leaves, with the counter that the request chooses. -/
def withoutSession (r : RecorderImpl) (client session counter : UInt32) : RecorderImpl :=
  { r.updateSessions client (fun m => m.erase session) with
    uniqueSessionId := counter
    sessionsState := r.sessionsState.erase session
    sessionsMutexMap := r.sessionsMutexMap.erase session }

theorem deleteSession_cases (h : r.deleteSession client session = .ok (st, r')) :
    (st ≠ .noError ∧ r' = r ∧
      (r.isSessionValid client session = true → r.tracks client session ≠ ∅)) ∨
    (st = .noError ∧ r.isSessionValid client session = true ∧ r.tracks client session = ∅ ∧
      ∃ n, r' = r.withoutSession client session n ∧
        (n = r.uniqueSessionId ∨ n = 0 ∧ r'.numSessions = 0)) := by
  unfold deleteSession at h
  split at h
  · next hv =>
    obtain ⟨rfl, rfl⟩ := by simpa using h
    refine .inl ⟨by simp, rfl, fun hs => ?_⟩
    simp [isClientValid_of_isSessionValid hs] at hv
  split at h
  · next hv =>
    obtain ⟨rfl, rfl⟩ := by simpa using h
    refine .inl ⟨by simp, rfl, fun hs => ?_⟩
    simp [hs] at hv
  split at h
  · next he =>
    obtain ⟨rfl, rfl⟩ := by simpa using h
    exact .inl ⟨by simp, rfl, fun _ => by simpa using he⟩
  next hv he =>
  have hv : r.isSessionValid client session = true := by simpa using hv
  have he : r.tracks client session = ∅ := by simpa using he
  dsimp only at h
  split at h <;> obtain ⟨rfl, rfl⟩ := by simpa using h
  · next h0 => exact .inr ⟨rfl, hv, he, 0, rfl, .inr ⟨rfl, h0⟩⟩
  · exact .inr ⟨rfl, hv, he, _, rfl, .inl rfl⟩

/-! ### Tracks -/

theorem createAudioTrack_cases {p : AudioTrackCreateParam}
    (h : r.createAudioTrack m client session track p = .ok (st, r')) :
    st ≠ .noError ∧ r' = r ∨
    st = .noError ∧ r.isSessionValid client session = true ∧
      r.track client session track = none ∧
      r' = r.associateTrack client session track (.audio p.format) := by
  unfold createAudioTrack at h
  dsimp only at h
  split at h
  · obtain ⟨rfl, rfl⟩ := by simpa using h
    exact .inl ⟨by simp, rfl⟩
  split at h
  · obtain ⟨rfl, rfl⟩ := by simpa using h
    exact .inl ⟨by simp, rfl⟩
  split at h
  · obtain ⟨rfl, rfl⟩ := by simpa using h
    exact .inl ⟨by simp, rfl⟩
  next hv ht =>
  rw [isTrackValid_eq_isSome] at ht
  repeat' split at h
  all_goals obtain ⟨rfl, rfl⟩ := by simpa using h
  · exact .inl ⟨by simp, rfl⟩
  · exact .inl ⟨by simp, rfl⟩
  · exact .inl ⟨by simp, rfl⟩
  · exact .inr ⟨rfl, by simpa using hv, by simpa using ht, rfl⟩

/-- The service track id of a new track goes into the index of its camera. -/
def indexTrack (r : RecorderImpl) (camera id : UInt32) : RecorderImpl :=
  { r with cameraTracksMap := r.cameraTracksMap.update camera fun ids => ids.insert id }

/-- A track in time-lapse mode makes an entry for its client track id, unless there is one. -/
def withTimelapse (r : RecorderImpl) (track : UInt32) (lapse : Bool) : RecorderImpl :=
  { r with timelapseMode :=
    if lapse then r.timelapseMode.insertIfNew track true else r.timelapseMode }

/-- A refused track leaves nothing behind, unless the encoder refuses the frame rate of the
time-lapse mode. -/
theorem createVideoTrack_outcome {p : VideoTrackCreateParam} {extra : VideoExtraParam}
    (h : r.createVideoTrack m client session track p extra = .ok (st, r')) :
    st ≠ .noError ∧ (r' = r ∨
      m.video.setTrackEncoderParams (getUniqueServiceTrackId client session track) ≠ .noError ∧
      r' = r.withTimelapse track (p.formatType.isEncoded && extra.videoTimelapseInterval)) ∨
    st = .noError ∧ r.isSessionValid client session = true ∧
      r.track client session track = none ∧
      m.video.createTrackSource (getUniqueServiceTrackId client session track) = .noError ∧
      (p.formatType.isEncoded = true →
        m.video.addSource (getUniqueServiceTrackId client session track) = .noError) ∧
      r' = ((r.withTimelapse track (p.formatType.isEncoded && extra.videoTimelapseInterval)).indexTrack
        p.cameraId (getUniqueServiceTrackId client session track)).associateTrack client session track
          (.video p.formatType) := by
  have hrefused : ∀ {x : Status}, x ≠ .noError → (.ok (x, r) : Result) = .ok (st, r') →
      st ≠ .noError ∧ r' = r := by
    intro x hx heq
    obtain ⟨rfl, rfl⟩ := by simpa using heq
    exact ⟨hx, rfl⟩
  unfold createVideoTrack at h
  split at h
  · exact .inl ((hrefused (by simp) h).imp_right .inl)
  split at h
  · exact .inl ((hrefused (by simp) h).imp_right .inl)
  split at h
  · exact .inl ((hrefused (by simp) h).imp_right .inl)
  next hv ht =>
  rw [isTrackValid_eq_isSome] at ht
  obtain ⟨go, -, h⟩ := Library.bind_eq_ok_iff.mp h
  dsimp only at h
  split at h
  · exact .inl ((hrefused (by simp) h).imp_right .inl)
  split at h
  · exact .inl ((hrefused (by simp) h).imp_right .inl)
  split at h
  · exact .inl ((hrefused (by simp) h).imp_right .inl)
  next hsrc hrefusal =>
  have henc : p.formatType.isEncoded = true →
      m.video.addSource (getUniqueServiceTrackId client session track) = .noError := by
    intro he
    by_contra hne
    exact hrefusal ⟨he, hne⟩
  cases htl : p.formatType.isEncoded && extra.videoTimelapseInterval <;>
    simp only [htl, true_and, false_and, Bool.false_eq_true, if_true, if_false] at h
  · obtain ⟨rfl, rfl⟩ := by simpa using h
    exact .inr ⟨rfl, by simpa using hv, by simpa using ht, by simpa using hsrc, henc, rfl⟩
  · split at h
    · next hfail =>
      obtain ⟨rfl, rfl⟩ := by simpa using h
      exact .inl ⟨hfail, .inr ⟨hfail, rfl⟩⟩
    · obtain ⟨rfl, rfl⟩ := by simpa using h
      exact .inr ⟨rfl, by simpa using hv, by simpa using ht, by simpa using hsrc, henc, rfl⟩

theorem createVideoTrack_cases {p : VideoTrackCreateParam} {extra : VideoExtraParam}
    (h : r.createVideoTrack m client session track p extra = .ok (st, r')) :
    ∃ tm : IdMap Bool,
      st ≠ .noError ∧ r' = { r with timelapseMode := tm } ∨
      st = .noError ∧ r.isSessionValid client session = true ∧
        r.track client session track = none ∧
        m.video.createTrackSource (getUniqueServiceTrackId client session track) = .noError ∧
        (p.formatType.isEncoded = true →
          m.video.addSource (getUniqueServiceTrackId client session track) = .noError) ∧
        r' = ({ r with timelapseMode := tm }.indexTrack p.cameraId
          (getUniqueServiceTrackId client session track)).associateTrack client session track
            (.video p.formatType) := by
  rcases createVideoTrack_outcome h with ⟨hne, rfl | ⟨-, rfl⟩⟩ | hok
  · exact ⟨r'.timelapseMode, .inl ⟨hne, rfl⟩⟩
  · exact ⟨_, .inl ⟨hne, rfl⟩⟩
  · exact ⟨_, .inr hok⟩

/-- A deleted video track leaves its session, the index of its camera and the timelapse map. -/
def withoutVideoTrack (r : RecorderImpl) (client session track id : UInt32) : RecorderImpl :=
  { (r.dropCameraTrack id track).updateTracks client session (fun ts => ts.erase track) with
    timelapseMode := r.timelapseMode.erase track }

theorem timelapseMode_dropCameraTrack :
    (r.dropCameraTrack i track).timelapseMode = r.timelapseMode := by
  unfold dropCameraTrack
  split <;> rfl

@[simp] theorem clientSessionMap_dropCameraTrack :
    (r.dropCameraTrack i track).clientSessionMap = r.clientSessionMap := by
  unfold dropCameraTrack
  split <;> rfl

theorem deleteVideoTrack_cases
    (h : r.deleteVideoTrack remoteCb m client session track = .ok (st, r')) :
    (st ≠ .noError ∧ r' = r ∧
      ∀ info, r.track client session track = some info → m.deletes info = false) ∨
    (st = .noError ∧ ∃ id f, r.track client session track = some ⟨id, .video f⟩ ∧
      m.deletes ⟨id, .video f⟩ = true ∧ r' = r.withoutVideoTrack client session track id) := by
  unfold deleteVideoTrack at h
  split at h
  · next hv =>
    obtain ⟨rfl, rfl⟩ := by simpa using h
    refine .inl ⟨by simp, rfl, fun info hi => ?_⟩
    simp [isClientValid_of_isSessionValid (isSessionValid_of_track hi)] at hv
  split at h
  · next hv =>
    obtain ⟨rfl, rfl⟩ := by simpa using h
    refine .inl ⟨by simp, rfl, fun info hi => ?_⟩
    simp [isSessionValid_of_track hi] at hv
  split at h
  · next hnone =>
    obtain ⟨rfl, rfl⟩ := by simpa using h
    exact .inl ⟨by simp, rfl, fun info hi => by simp [hnone] at hi⟩
  · simp at h
  next id f htrack =>
  split at h
  · simp at h
  split at h
  · next hfail =>
    obtain ⟨rfl, rfl⟩ := by simpa using h
    refine .inl ⟨hfail, rfl, fun info hi => ?_⟩
    obtain rfl := Option.some.inj (htrack.symm.trans hi)
    simp [Media.deletes, TrackBackend.deletes, hfail]
  split at h
  · next hfail =>
    obtain ⟨rfl, rfl⟩ := by simpa using h
    refine .inl ⟨hfail.2, rfl, fun info hi => ?_⟩
    obtain rfl := Option.some.inj (htrack.symm.trans hi)
    simp [Media.deletes, TrackBackend.deletes, hfail.1, hfail.2]
  next hsrc henc =>
  dsimp only at h
  split at h
  · simp at h
  obtain ⟨rfl, rfl⟩ := by simpa using h
  refine .inr ⟨rfl, id, f, htrack, ?_, ?_⟩
  · have hsrc : m.video.deleteTrackSource id = .noError := by simpa using hsrc
    cases hf : f.isEncoded with
    | false => simp [Media.deletes, TrackBackend.deletes, hsrc, hf]
    | true =>
      have henc : m.video.deleteTrackEncoder id = .noError := by simpa [hf] using henc
      simp [Media.deletes, TrackBackend.deletes, hsrc, henc]
  · simp [withoutVideoTrack, updateTracks, updateSessions, timelapseMode_dropCameraTrack]

theorem deleteAudioTrack_cases
    (h : r.deleteAudioTrack m client session track = .ok (st, r')) :
    (st ≠ .noError ∧ r' = r ∧
      ∀ info, r.track client session track = some info → m.deletes info = false) ∨
    (st = .noError ∧ ∃ id f, r.track client session track = some ⟨id, .audio f⟩ ∧
      m.deletes ⟨id, .audio f⟩ = true ∧
      r' = r.updateTracks client session fun ts => ts.erase track) := by
  unfold deleteAudioTrack at h
  split at h
  · next hv =>
    obtain ⟨rfl, rfl⟩ := by simpa using h
    refine .inl ⟨by simp, rfl, fun info hi => ?_⟩
    simp [isClientValid_of_isSessionValid (isSessionValid_of_track hi)] at hv
  split at h
  · next hv =>
    obtain ⟨rfl, rfl⟩ := by simpa using h
    refine .inl ⟨by simp, rfl, fun info hi => ?_⟩
    simp [isSessionValid_of_track hi] at hv
  split at h
  · next hnone =>
    obtain ⟨rfl, rfl⟩ := by simpa using h
    exact .inl ⟨by simp, rfl, fun info hi => by simp [hnone] at hi⟩
  · simp at h
  next id f htrack =>
  split at h
  · simp at h
  split at h
  · next hfail =>
    obtain ⟨rfl, rfl⟩ := by simpa using h
    refine .inl ⟨hfail, rfl, fun info hi => ?_⟩
    obtain rfl := Option.some.inj (htrack.symm.trans hi)
    simp [Media.deletes, TrackBackend.deletes, hfail]
  split at h
  · next hfail =>
    obtain ⟨rfl, rfl⟩ := by simpa using h
    refine .inl ⟨hfail.2, rfl, fun info hi => ?_⟩
    obtain rfl := Option.some.inj (htrack.symm.trans hi)
    simp [Media.deletes, TrackBackend.deletes, hfail.1, hfail.2]
  next hsrc henc =>
  obtain ⟨rfl, rfl⟩ := by simpa using h
  refine .inr ⟨rfl, id, f, htrack, ?_, rfl⟩
  have hsrc : m.audio.deleteTrackSource id = .noError := by simpa using hsrc
  by_cases hf : f = .pcm
  · simp [Media.deletes, TrackBackend.deletes, hsrc, hf]
  · have henc : m.audio.deleteTrackEncoder id = .noError := by simpa [hf] using henc
    simp [Media.deletes, TrackBackend.deletes, hsrc, henc]

end RecorderImpl

end QmmfSdk.Recorder
