import QmmfSdk.Recorder.Running

/-! `StartSession`: when the status that it returns agrees with the state of the session. -/
namespace QmmfSdk.Recorder

namespace RecorderImpl

/-- All that a resume asks for the track is answered `NO_ERROR`. -/
def ResumesTrack (m : Media) (info : TrackInfo) : Prop :=
  match info.format with
  | .video _ => m.video.resumeTrackSource info.trackId = .noError
  | .audio f => m.audio.resumeTrackSource info.trackId = .noError ∧
      (f ≠ .pcm → m.audio.resumeTrackEncoder info.trackId = .noError)

/-- All that a start asks for a video track is answered `NO_ERROR`. -/
def StartsVideo (m : Media) (info : TrackInfo) : Prop :=
  ∀ f, info.format = .video f → m.video.startTrackSource info.trackId = .noError ∧
    (f.isEncoded = true → m.video.startTrackEncoder info.trackId = .noError)

/-- All that a start asks for an audio track is answered `NO_ERROR`, with a source for its
encoder. -/
def StartsAudio (m : Media) (info : TrackInfo) : Prop :=
  ∀ f, info.format = .audio f → m.audio.startTrackSource info.trackId = .noError ∧
    (f ≠ .pcm → m.getAudioTrackSource info.trackId = (.noError, true) ∧
      m.audio.startTrackEncoder info.trackId = .noError)

/-- An answer to the start of an audio track is an error. A source that is missing without an
error is none. -/
def FailsAudio (m : Media) (info : TrackInfo) : Prop :=
  ∃ f, info.format = .audio f ∧ (m.audio.startTrackSource info.trackId ≠ .noError ∨
    f ≠ .pcm ∧ ((m.getAudioTrackSource info.trackId).1 ≠ .noError ∨
      m.getAudioTrackSource info.trackId = (.noError, true) ∧
        m.audio.startTrackEncoder info.trackId ≠ .noError))

/-- The audio tracks up to one that fails are started. -/
def AudioStartFails (m : Media) (infos : List TrackInfo) : Prop :=
  ∃ before info after, infos = before ++ info :: after ∧ (∀ x ∈ before, StartsAudio m x) ∧
    FailsAudio m info

/-- When the status of `StartSession` tells whether the session is active. -/
def Truthful (m : Media) (r : RecorderImpl) (client session : UInt32) : Prop :=
  let infos := trackInfos (r.tracks client session)
  match r.sessionState session with
  | .pause => ∀ info ∈ infos, ResumesTrack m info
  | .active => True
  | .idle => (∃ info ∈ infos, ¬ StartsVideo m info) ∨ ¬ AudioStartFails m infos

variable {r r' : RecorderImpl} {m : Media} {st : Status} {client session : UInt32}
  {infos : List TrackInfo} {info : TrackInfo}

/-- The body of the loop that resumes a session. -/
def resumeTrack (m : Media) (info : TrackInfo) : Option Status :=
  match info.format with
  | .video _ => check (m.video.resumeTrackSource info.trackId) none
  | .audio f => check (m.audio.resumeTrackSource info.trackId)
      (if f ≠ .pcm then check (m.audio.resumeTrackEncoder info.trackId) none else none)

/-- The body of the loop over the video tracks. -/
def startVideoTrack (m : Media) (info : TrackInfo) : Option Status :=
  match info.format with
  | .video f => check (m.video.startTrackSource info.trackId)
      (if f.isEncoded then check (m.video.startTrackEncoder info.trackId) none else none)
  | .audio _ => none

/-- The body of the loop over the audio tracks. -/
def startAudioTrack (m : Media) (info : TrackInfo) : Option Status :=
  match info.format with
  | .video _ => none
  | .audio f => check (m.audio.startTrackSource info.trackId)
      (if f ≠ .pcm then
        let answer := m.getAudioTrackSource info.trackId
        if answer.1 ≠ .noError ∨ !answer.2 then some answer.1
        else check (m.audio.startTrackEncoder info.trackId) none
      else none)

theorem resumeTrack_eq_none : resumeTrack m info = none ↔ ResumesTrack m info := by
  unfold resumeTrack ResumesTrack
  split
  · simp [check_eq_none]
  · rw [check_eq_none]
    refine and_congr_right fun _ => ?_
    split
    next hcoded => simp [check_eq_none, hcoded]
    next hpcm => simp [hpcm]

theorem resumeTrack_ne_noError : resumeTrack m info ≠ some .noError := by
  unfold resumeTrack
  split
  · exact check_ne_noError nofun
  · apply check_ne_noError
    split
    · exact check_ne_noError nofun
    · nofun

theorem startVideoTrack_eq_none : startVideoTrack m info = none ↔ StartsVideo m info := by
  unfold startVideoTrack StartsVideo
  split
  next f hf =>
    simp only [hf, TrackFormat.video.injEq, forall_eq']
    rw [check_eq_none]
    refine and_congr_right fun _ => ?_
    split
    next hcoded => simp [check_eq_none, hcoded]
    next hraw => simp [hraw]
  next f hf => simp [hf]

theorem startVideoTrack_ne_noError : startVideoTrack m info ≠ some .noError := by
  unfold startVideoTrack
  split
  · apply check_ne_noError
    split
    · exact check_ne_noError nofun
    · nofun
  · nofun

theorem startVideoTracks_eq_noError :
    startVideoTracks m infos = .noError ↔ ∀ info ∈ infos, StartsVideo m info := by
  have heq : startVideoTracks m infos = overTracks (startVideoTrack m) infos := rfl
  rw [heq, overTracks_eq_noError fun _ => startVideoTrack_ne_noError]
  simp only [startVideoTrack_eq_none]

theorem startAudioTrack_eq_none : startAudioTrack m info = none ↔ StartsAudio m info := by
  unfold startAudioTrack StartsAudio
  split
  next f hf => simp [hf]
  next f hf =>
    simp only [hf, TrackFormat.audio.injEq, forall_eq']
    rw [check_eq_none]
    refine and_congr_right fun _ => ?_
    split
    next hcoded =>
      simp only [hcoded, ne_eq, not_false_iff, forall_const]
      obtain ⟨answer, known⟩ := m.getAudioTrackSource info.trackId
      by_cases hanswer : answer = .noError
      · cases known <;> simp [hanswer, check_eq_none]
      · simp [hanswer]
    next hpcm => simp [hpcm]

theorem startAudioTrack_fails_iff :
    (∃ st, startAudioTrack m info = some st ∧ st ≠ .noError) ↔ FailsAudio m info := by
  unfold startAudioTrack FailsAudio
  split
  next f hf => simp [hf]
  next f hf =>
    simp only [hf, TrackFormat.audio.injEq, exists_eq_left']
    by_cases hsource : m.audio.startTrackSource info.trackId = .noError
    · by_cases hpcm : f = .pcm
      · simp [check, hsource, hpcm]
      · obtain ⟨answer, known⟩ := m.getAudioTrackSource info.trackId
        by_cases hanswer : answer = .noError
        · cases known <;> simp [check, hsource, hpcm, hanswer]
        · simp [check, hsource, hpcm, hanswer]
    · simp [check, hsource]

/-- A loop ends with an error when its body leaves with one. -/
theorem overTracks_ne_noError {f : TrackInfo → Option Status} : overTracks f infos ≠ .noError ↔
    ∃ before info after, infos = before ++ info :: after ∧ (∀ x ∈ before, f x = none) ∧
      ∃ st, f info = some st ∧ st ≠ .noError := by
  induction infos with
  | nil => simp [overTracks]
  | cons first rest ih =>
    rw [overTracks]
    cases hfirst : f first with
    | some st =>
      constructor
      · exact fun hst => ⟨[], first, rest, rfl, by simp, st, hfirst, hst⟩
      · rintro ⟨before, info, after, heq, hnone, st', hinfo, hst⟩
        cases before with
        | nil =>
          obtain ⟨rfl, -⟩ := List.cons.inj heq
          obtain rfl := Option.some.inj (hfirst.symm.trans hinfo)
          exact hst
        | cons x before =>
          obtain ⟨rfl, -⟩ := List.cons.inj heq
          simp [hfirst] at hnone
    | none =>
      dsimp only
      rw [ih]
      constructor
      · rintro ⟨before, info, after, rfl, hnone, hfails⟩
        exact ⟨first :: before, info, after, rfl, List.forall_mem_cons.mpr ⟨hfirst, hnone⟩, hfails⟩
      · rintro ⟨before, info, after, heq, hnone, st, hinfo, hst⟩
        cases before with
        | nil =>
          obtain ⟨rfl, -⟩ := List.cons.inj heq
          simp [hfirst] at hinfo
        | cons x before =>
          obtain ⟨rfl, rfl⟩ := List.cons.inj heq
          exact ⟨before, info, after, rfl, (List.forall_mem_cons.mp hnone).2, st, hinfo, hst⟩

theorem startAudioTracks_ne_noError :
    startAudioTracks m infos ≠ .noError ↔ AudioStartFails m infos := by
  have heq : startAudioTracks m infos = overTracks (startAudioTrack m) infos := rfl
  rw [heq, overTracks_ne_noError]
  simp only [startAudioTrack_eq_none, startAudioTrack_fails_iff, AudioStartFails]

theorem resumeSession_active_iff (hclient : r.isClientValid client = true)
    (hsession : r.isSessionValid client session = true) (hpause : r.sessionState session = .pause) :
    (r.resumeSession m client session).2.sessionState session = .active ↔
      ∀ info ∈ trackInfos (r.tracks client session), ResumesTrack m info := by
  have hloop : overTracks (resumeTrack m) (trackInfos (r.tracks client session)) = .noError ↔ _ :=
    overTracks_eq_noError fun _ => resumeTrack_ne_noError
  simp only [resumeTrack_eq_none] at hloop
  have hstate : (r.touchSessionState session).sessionState session = .pause :=
    sessionState_touchSessionState.trans hpause
  rw [← hloop]
  unfold resumeSession
  simp only [hclient, hsession, hstate, Bool.not_true, Bool.false_eq_true, if_false, ne_eq,
    not_true_eq_false]
  have hsame : overTracks (resumeTrack m)
      (trackInfos ((r.touchSessionState session).tracks client session)) =
        overTracks (resumeTrack m) (trackInfos (r.tracks client session)) := rfl
  rw [← hsame]
  split
  next hok =>
    refine iff_of_true ?_ hok
    simp [setSessionState, sessionState]
  next hfails =>
    refine iff_of_false ?_ hfails
    simp [hstate]

/-- The recorder after the lookups before the start. -/
def looked (r : RecorderImpl) (client session : UInt32) : RecorderImpl :=
  (r.updateTracks client session id).touchSessionState session

theorem sessionState_looked :
    (r.looked client session).sessionState session = r.sessionState session :=
  sessionState_touchSessionState

theorem tracks_looked : (r.looked client session).tracks client session = r.tracks client session :=
  tracks_updateTracks_id

/-- The lookups register what they look for. -/
theorem valid_looked : (r.looked client session).isClientValid client = true ∧
    (r.looked client session).isSessionValid client session = true := by
  have hmap : (r.looked client session).clientSessionMap =
      r.clientSessionMap.update client fun m => m.update session id := rfl
  constructor
  · rw [isClientValid, hmap, Std.ExtTreeMap.contains_iff_mem, Library.OrdMap.mem_update]
    exact .inl rfl
  · rw [isSessionValid, sessions, hmap, Library.OrdMap.getElem?_update, if_pos rfl,
      Option.getD_some, Std.ExtTreeMap.contains_iff_mem, Library.OrdMap.mem_update]
    exact .inl rfl

/-- With its lock, a session goes by its state. -/
theorem startSession_of_lock (hmutex : r.sessionsMutexMap[session]? = some true) :
    r.startSession m client session = (let r' := r.looked client session
      match r.sessionState session with
      | .pause => .ok (.noError, (r'.resumeSession m client session).2)
      | .active => .ok (.noError, r')
      | .idle =>
        let infos := trackInfos (r.tracks client session)
        let st := startVideoTracks m infos
        if startAudioTracks m infos = .noError ∧ st = .noError then
          .ok (st, r'.setSessionState session .active)
        else .ok (st, r')) := by
  have hlock : r.lockSession client session = .ok (r.updateTracks client session id) := by
    unfold lockSession
    simp only [updateTracks, updateSessions, hmutex]
  have hstate : (r.looked client session).sessionState session = r.sessionState session :=
    sessionState_looked
  rw [← hstate, ← tracks_looked]
  unfold startSession
  rw [hlock]
  rfl

/-- The status and the state agree exactly when the request does not resume a session with a track
that fails to, and does not start one whose audio tracks alone fail. -/
theorem startSession_truthful_iff :
    (∀ st r', r.startSession m client session = .ok (st, r') →
      (st = .noError ↔ r'.sessionState session = .active)) ↔
      (r.sessionsMutexMap[session]? = some true → Truthful m r client session) := by
  by_cases hmutex : r.sessionsMutexMap[session]? = some true
  · rw [forall_prop_of_true hmutex, startSession_of_lock hmutex, Truthful]
    cases hcase : r.sessionState session with
    | pause =>
      have hvalid : (r.looked client session).isClientValid client = true ∧ _ := valid_looked
      have hresume := resumeSession_active_iff (m := m) hvalid.1 hvalid.2
        (sessionState_looked.trans hcase)
      rw [tracks_looked] at hresume
      dsimp only
      rw [← hresume]
      constructor
      · exact fun h => (h _ _ rfl).mp rfl
      · intro hactive st r' h
        obtain ⟨rfl, rfl⟩ := Prod.mk.inj (Except.ok.inj h)
        exact iff_of_true rfl hactive
    | active =>
      refine iff_of_true (fun st r' h => ?_) trivial
      obtain ⟨rfl, rfl⟩ := Prod.mk.inj (Except.ok.inj h)
      exact iff_of_true rfl (sessionState_looked.trans hcase)
    | idle =>
      have hvideo : startVideoTracks m (trackInfos (r.tracks client session)) = .noError ↔ _ :=
        startVideoTracks_eq_noError
      have hidle : (r.looked client session).sessionState session ≠ .active := by
        rw [sessionState_looked, hcase]
        nofun
      dsimp only
      rw [← startAudioTracks_ne_noError, not_not]
      split
      next hok =>
        refine iff_of_true (fun st r' h => ?_) (.inr hok.1)
        obtain ⟨rfl, rfl⟩ := Prod.mk.inj (Except.ok.inj h)
        refine iff_of_true hok.2 ?_
        simp [setSessionState, sessionState]
      next hfails =>
        by_cases hst : startVideoTracks m (trackInfos (r.tracks client session)) = .noError
        · refine iff_of_false (fun h => hidle ((h _ _ rfl).mp hst)) ?_
          rintro (⟨info, hinfo, hnot⟩ | haudio)
          · exact hnot (hvideo.mp hst info hinfo)
          · exact hfails ⟨haudio, hst⟩
        · refine iff_of_true (fun st r' h => ?_) ?_
          · obtain ⟨rfl, rfl⟩ := Prod.mk.inj (Except.ok.inj h)
            exact iff_of_false hst hidle
          · rw [hvideo] at hst
            simp only [not_forall, exists_prop] at hst
            exact .inl hst
  · refine iff_of_true (fun st r' h => absurd (startSession_cases h).1 hmutex) fun h => ?_
    exact absurd h hmutex

/-- An audio track that fails to start leaves the session idle, and `NO_ERROR` is returned. -/
theorem idle_after_noError :
    ¬ ∀ (as : List Request) (s : Service) (r : RecorderImpl) (m : Media) (client session : UInt32)
      (st : Status) (r' : RecorderImpl), Service.lts.MTr .initial as s → s.recorder = some r →
      r.startSession m client session = .ok (st, r') →
      (st = .noError ↔ r'.sessionState session = .active) := by
  intro hall
  let m : Media := { audio := { startTrackSource := fun _ => .badValue } }
  have hrun : (Library.LTS.run Service.next .initial [.connect .noError, .createSession 1,
      .createAudioTrack 1 1 5 ⟨.aac, 2, 48000, 0⟩ {}]).bind (fun s => s.recorder.map fun r =>
        (r.startSession m 1 1).toOption.map fun out => (out.1, out.2.sessionState 1)) =
      some (some (.noError, .idle)) := by decide
  obtain ⟨s, hs, hr⟩ := Option.bind_eq_some_iff.mp hrun
  obtain ⟨r, hr, hout⟩ := Option.map_eq_some_iff.mp hr
  cases hresult : r.startSession m 1 1 with
  | error e => simp [hresult, Except.toOption] at hout
  | ok out =>
    simp only [hresult, Except.toOption, Option.map_some, Option.some.injEq, Prod.mk.injEq] at hout
    have hiff := hall _ s r m 1 1 out.1 out.2 (Library.LTS.mTr_ofStep_iff.mpr hs) hr hresult
    rw [hout.1, hout.2] at hiff
    exact absurd (hiff.mp rfl) nofun

end RecorderImpl

end QmmfSdk.Recorder
