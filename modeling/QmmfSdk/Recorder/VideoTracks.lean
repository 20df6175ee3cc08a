import QmmfSdk.Recorder.Cleanup
import QmmfSdk.Recorder.TrackIds

/-! The live video tracks and the index from cameras to them, and the requests that leave both
alone. -/
namespace QmmfSdk.Recorder

namespace RecorderImpl

/-- The service track ids that `CameraFlushCb` goes through for a camera. -/
def cameraTracks (r : RecorderImpl) (camera : UInt32) : List UInt32 :=
  (r.cameraTracksMap[camera]?.getD ∅).toList

/-- All live tracks with their keys. -/
def liveTracks (r : RecorderImpl) : List ((UInt32 × UInt32 × UInt32) × TrackInfo) :=
  r.clientSessionMap.toList.flatMap fun p => p.2.toList.flatMap fun q =>
    q.2.toList.map fun u => ((p.1, q.1, u.1), u.2)

variable {r r' r'' : RecorderImpl} {remoteCb : UInt32 → Bool} {m : Media} {st : Status}
  {client session track c i k camera : UInt32}

theorem mem_cameraTracks {id : UInt32} : id ∈ r.cameraTracks camera ↔
    ∃ ids, r.cameraTracksMap[camera]? = some ids ∧ id ∈ ids := by
  rw [cameraTracks, Std.ExtTreeSet.mem_toList]
  cases r.cameraTracksMap[camera]? <;> simp

theorem mem_liveTracks {info : TrackInfo} (h : r.track c i k = some info) : ((c, i, k), info) ∈ r.liveTracks := by
  rw [RecorderImpl.track, tracks, sessions] at h
  cases hs : r.clientSessionMap[c]? with
  | none => simp [hs] at h
  | some ss =>
    cases ht : ss[i]? with
    | none => simp [hs, ht] at h
    | some ts =>
      have h : ts[k]? = some info := by simpa [hs, ht] using h
      simp only [liveTracks, List.mem_flatMap, List.mem_map]
      exact ⟨(c, ss), Std.ExtTreeMap.mem_toList_iff_getElem?_eq_some.mpr hs, (i, ts),
        Std.ExtTreeMap.mem_toList_iff_getElem?_eq_some.mpr ht, (k, info),
        Std.ExtTreeMap.mem_toList_iff_getElem?_eq_some.mpr h, rfl⟩

/-- The same live video tracks and the same index. -/
structure KeepsVideo (r r' : RecorderImpl) : Prop where
  tracks : ∀ c i k id f, r'.track c i k = some ⟨id, .video f⟩ ↔ r.track c i k = some ⟨id, .video f⟩
  index : ∀ camera id, id ∈ r'.cameraTracks camera ↔ id ∈ r.cameraTracks camera

theorem KeepsVideo.refl : KeepsVideo r r := ⟨fun _ _ _ _ _ => .rfl, fun _ _ => .rfl⟩

theorem KeepsVideo.trans (h : KeepsVideo r r') (h' : KeepsVideo r' r'') : KeepsVideo r r'' where
  tracks c i k id f := (h'.tracks c i k id f).trans (h.tracks c i k id f)
  index camera id := (h'.index camera id).trans (h.index camera id)

theorem cameraTracks_congr (h : r'.cameraTracksMap = r.cameraTracksMap) :
    r'.cameraTracks camera = r.cameraTracks camera := by
  rw [cameraTracks, h, cameraTracks]

theorem track_congr (h : r'.clientSessionMap = r.clientSessionMap) :
    r'.track c i k = r.track c i k := by
  rw [RecorderImpl.track, tracks, sessions_congr h, ← tracks, ← RecorderImpl.track]

theorem keepsVideo_of_eq (ht : r'.clientSessionMap = r.clientSessionMap)
    (hm : r'.cameraTracksMap = r.cameraTracksMap) : KeepsVideo r r' where
  tracks c i k id f := by rw [track_congr ht]
  index camera id := by rw [cameraTracks_congr hm]

/-- A lookup leaves the tracks alone, whether it finds the session or not. -/
theorem keepsVideo_lookup
    (ht : r'.clientSessionMap = (r.updateTracks client session id).clientSessionMap)
    (hm : r'.cameraTracksMap = r.cameraTracksMap) : KeepsVideo r r' where
  tracks c i k id f := by
    rw [track_congr ht, track_updateTracks]
    split
    · rfl
    · rfl
  index camera id := by rw [cameraTracks_congr hm]

theorem keepsVideo_startSession (h : r.startSession m client session = .ok (st, r')) :
    KeepsVideo r r' := by
  obtain ⟨-, ss, rfl, -⟩ := startSession_cases h
  exact keepsVideo_lookup rfl rfl

theorem keepsVideo_stopSession (h : r.stopSession m client session = .ok (st, r')) :
    KeepsVideo r r' := by
  obtain ⟨-, ss, rfl, -⟩ := stopSession_cases h
  exact keepsVideo_lookup rfl rfl

theorem Restated.keepsVideo (h : Restated session r r') : KeepsVideo r r' := by
  obtain ⟨ss, rfl, -⟩ := h
  exact keepsVideo_of_eq rfl rfl

theorem keepsVideo_resumeSession : KeepsVideo r (r.resumeSession m client session).2 := by
  rcases @resumeSession_cases r m client session with heq | ⟨-, hre⟩
  · rw [heq]
    exact .refl
  · exact hre.keepsVideo

theorem keepsVideo_pauseSession : KeepsVideo r (r.pauseSession m client session).2 := by
  rcases @pauseSession_cases r m client session with heq | ⟨-, hre⟩
  · rw [heq]
    exact .refl
  · exact hre.keepsVideo

theorem keepsVideo_createSession (h : r.createSession client = .ok (st, r')) :
    KeepsVideo r r' := by
  rcases createSession_cases h with ⟨-, rfl⟩ | ⟨-, rfl⟩
  · exact .refl
  refine ⟨fun c i k id f => ?_, fun camera id => .rfl⟩
  change (r.updateSessions client fun m => m.insertIfNew (r.uniqueSessionId + 1) ∅).track c i k = _ ↔ _
  rw [track_updateSessions]
  split
  · rw [Library.OrdMap.getElem?_emplace]
    split <;> rfl
  · rfl

theorem keepsVideo_deleteSession (h : r.deleteSession client session = .ok (st, r')) :
    KeepsVideo r r' := by
  rcases deleteSession_cases h with ⟨-, rfl, -⟩ | ⟨-, -, he, n, rfl, -⟩
  · exact .refl
  refine ⟨fun c i k id f => ?_, fun camera id => .rfl⟩
  change (r.updateSessions client fun m => m.erase session).track c i k = _ ↔ _
  rw [track_updateSessions]
  split
  · next hc =>
    subst hc
    rw [Std.ExtTreeMap.getElem?_erase]
    split
    · next hi =>
      -- the session that goes had no track
      obtain rfl : session = i := by simpa using hi
      have he : (r.sessions client)[session]?.getD ∅ = ∅ := he
      simp [RecorderImpl.track, RecorderImpl.tracks, he]
    · rfl
  · rfl

theorem keepsVideo_createAudioTrack {p : AudioTrackCreateParam}
    (h : r.createAudioTrack m client session track p = .ok (st, r')) : KeepsVideo r r' := by
  rcases createAudioTrack_cases h with ⟨-, rfl⟩ | ⟨-, -, hnone, rfl⟩
  · exact .refl
  refine ⟨fun c i k id f => ?_, fun camera id => .rfl⟩
  rw [track_associateTrack hnone]
  split
  · next hk =>
    obtain ⟨rfl, rfl, rfl⟩ := hk
    simp [hnone]
  · rfl

theorem track_eraseTrack :
    (r.updateTracks client session fun ts => ts.erase track).track c i k =
      if client = c ∧ session = i ∧ track = k then none else r.track c i k := by
  rw [track_updateTracks]
  by_cases hci : client = c ∧ session = i
  · obtain ⟨rfl, rfl⟩ := hci
    rw [if_pos ⟨rfl, rfl⟩, Std.ExtTreeMap.getElem?_erase]
    by_cases hk : track = k
    · simp [hk]
    · simp [hk, RecorderImpl.track]
  · rw [if_neg hci, if_neg fun h => hci ⟨h.1, h.2.1⟩]

theorem keepsVideo_eraseAudio {id : UInt32} {f : AudioFormat}
    (ht : r.track client session track = some ⟨id, .audio f⟩) :
    KeepsVideo r (r.updateTracks client session fun ts => ts.erase track) := by
  refine ⟨fun c i k id f => ?_, fun camera id => .rfl⟩
  rw [track_eraseTrack]
  split
  · next hk =>
    obtain ⟨rfl, rfl, rfl⟩ := hk
    simp [ht]
  · rfl

theorem keepsVideo_deleteAudioTrack (h : r.deleteAudioTrack m client session track = .ok (st, r')) :
    KeepsVideo r r' := by
  rcases deleteAudioTrack_cases h with ⟨-, rfl, -⟩ | ⟨-, id, f, ht, -, rfl⟩
  · exact .refl
  · exact keepsVideo_eraseAudio ht

theorem CameraEdit.keepsVideo (h : CameraEdit client camera r r') : KeepsVideo r r' := by
  cases h with
  | touched h => exact h ▸ keepsVideo_of_eq rfl rfl
  | joined ho h => exact h ▸ keepsVideo_of_eq rfl rfl
  | opened ho h => exact h ▸ keepsVideo_of_eq rfl rfl
  | left ho h => exact h ▸ keepsVideo_of_eq rfl rfl
  | closed hs h => exact h ▸ keepsVideo_of_eq rfl rfl

theorem cameraTracks_insertIfNew {cam : UInt32} :
    cameraTracks { r with cameraTracksMap := r.cameraTracksMap.insertIfNew cam ∅ } camera =
      r.cameraTracks camera := by
  rw [cameraTracks, Library.OrdMap.getElem?_emplace]
  split
  · rfl
  · rfl

theorem keepsVideo_forceReturnBuffers (h : r.forceReturnBuffers m client = .ok r') :
    KeepsVideo r r' := by
  unfold forceReturnBuffers at h
  have hkeep : KeepsVideo r (r.updateCameras client id) := keepsVideo_of_eq rfl rfl
  apply hkeep.trans
  refine Library.foldlM_rel (R := KeepsVideo) (fun _ => .refl) (fun _ _ _ => .trans) ?_ h
  intro a cam b hb
  obtain ⟨_, -, hb⟩ := Library.bind_eq_ok_iff.mp hb
  obtain rfl := by simpa using hb
  exact ⟨fun _ _ _ _ _ => .rfl, fun camera id => by rw [cameraTracks_insertIfNew]⟩

/-- It leaves entries behind for the cameras that it looks up. -/
theorem forceReturnBuffers_cases (h : r.forceReturnBuffers m client = .ok r') :
    ∃ cams index, r' = { r with clientCameraidMap := cams, cameraTracksMap := index } := by
  unfold forceReturnBuffers at h
  refine Library.foldlM_inv (I := fun a : RecorderImpl => ∃ cams index,
    a = { r with clientCameraidMap := cams, cameraTracksMap := index })
    ⟨(r.updateCameras client id).clientCameraidMap, r.cameraTracksMap, rfl⟩ ?_ h
  rintro a cam b - ⟨cams, index, rfl⟩ hb
  obtain ⟨_, -, hb⟩ := Library.bind_eq_ok_iff.mp hb
  obtain rfl := by simpa using hb
  exact ⟨_, _, rfl⟩

theorem keepsVideo_registerClient : KeepsVideo r (r.registerClient client) := by
  refine ⟨fun c i k id f => by rw [Service.track_registerClient], fun camera id => ?_⟩
  unfold registerClient
  split <;> rfl

theorem track_eraseClient (hm : r'.clientSessionMap = r.clientSessionMap.erase client) :
    r'.track c i k = if client = c then none else r.track c i k := by
  rw [RecorderImpl.track, tracks, sessions, hm, Std.ExtTreeMap.getElem?_erase]
  by_cases hc : client = c
  · simp [hc]
  · simp [hc, RecorderImpl.track, tracks, sessions]

/-- Some of the tracks of `r`, in `r'`. -/
def SubTracks (r r' : RecorderImpl) : Prop :=
  ∀ c i k info, r'.track c i k = some info → r.track c i k = some info

theorem subTracks_of_edits (h : Edits NoTrack client r r') : SubTracks r r' :=
  fun c i k info hi => (h.tracks c i k info hi).resolve_right id

theorem subTracks_withoutVideoTrack {id : UInt32} :
    SubTracks r (r.withoutVideoTrack client session track id) := by
  intro c i k info hi
  rw [track_congr clientSessionMap_withoutVideoTrack, track_eraseTrack] at hi
  split at hi
  · simp at hi
  · exact hi

theorem subTracks_eraseTrack :
    SubTracks r (r.updateTracks client session fun ts => ts.erase track) := by
  intro c i k info hi
  rw [track_eraseTrack] at hi
  split at hi
  · simp at hi
  · exact hi

theorem subTracks_deleteTrack {q : UInt32 × TrackInfo}
    (h : deleteTrack remoteCb m client session r q = .ok r') : SubTracks r r' := by
  rcases deleteTrack_cases h with ⟨rfl, -⟩ | ⟨id, f, -, rfl⟩ | ⟨id, f, -, rfl⟩
  · exact fun _ _ _ _ hi => hi
  · exact subTracks_eraseTrack
  · exact subTracks_withoutVideoTrack

/-! ### Requests that start, stop and place nothing -/

/-- Besides, no session becomes idle. -/
structure Harmless (r r' : RecorderImpl) : Prop extends KeepsVideo r r' where
  idle : ∀ i : UInt32, r'.sessionsState[i]? = some .idle → r.sessionsState[i]? = some .idle

theorem harmless_of_eq (ht : r'.clientSessionMap = r.clientSessionMap)
    (hm : r'.cameraTracksMap = r.cameraTracksMap) (hs : r'.sessionsState = r.sessionsState) :
    Harmless r r' :=
  ⟨keepsVideo_of_eq ht hm, fun _ hi => hs ▸ hi⟩

theorem idle_touchSessionState (h : (r.touchSessionState session).sessionsState[i]? = some .idle) :
    r.sessionsState[i]? = some .idle := by
  rw [touchSessionState, Library.OrdMap.getElem?_emplace] at h
  split at h
  · cases hi : r.sessionsState[i]? with
    | none => simp [hi] at h
    | some x => simpa [hi] using h
  · exact h

theorem idle_setSessionState {x : SessionState} (hx : x ≠ .idle)
    (h : (r.setSessionState session x).sessionsState[i]? = some .idle) :
    r.sessionsState[i]? = some .idle := by
  rw [setSessionState, Std.ExtTreeMap.getElem?_insert] at h
  split at h
  · exact absurd (Option.some.inj h) hx
  · exact h

theorem harmless_resumeSession : Harmless r (r.resumeSession m client session).2 := by
  refine ⟨keepsVideo_resumeSession, fun i hi => ?_⟩
  unfold resumeSession at hi
  dsimp only at hi
  repeat' split at hi
  · exact hi
  · exact hi
  · exact idle_touchSessionState hi
  · exact idle_touchSessionState (idle_setSessionState (by simp) hi)
  · exact idle_touchSessionState hi

theorem harmless_pauseSession : Harmless r (r.pauseSession m client session).2 := by
  refine ⟨keepsVideo_pauseSession, fun i hi => ?_⟩
  unfold pauseSession at hi
  dsimp only at hi
  repeat' split at hi
  · exact hi
  · exact hi
  · exact idle_touchSessionState hi
  · exact idle_touchSessionState (idle_setSessionState (by simp) hi)
  · exact idle_touchSessionState hi

theorem harmless_deleteSession (h : r.deleteSession client session = .ok (st, r')) :
    Harmless r r' := by
  refine ⟨keepsVideo_deleteSession h, fun i hi => ?_⟩
  rcases deleteSession_cases h with ⟨-, rfl, -⟩ | ⟨-, -, -, n, rfl, -⟩
  · exact hi
  · simp only [withoutSession, Std.ExtTreeMap.getElem?_erase] at hi
    split at hi
    · simp at hi
    · exact hi

theorem harmless_createAudioTrack {p : AudioTrackCreateParam}
    (h : r.createAudioTrack m client session track p = .ok (st, r')) : Harmless r r' := by
  refine ⟨keepsVideo_createAudioTrack h, fun i hi => ?_⟩
  rcases createAudioTrack_cases h with ⟨-, rfl⟩ | ⟨-, -, -, rfl⟩
  · exact hi
  · exact hi

theorem harmless_deleteAudioTrack (h : r.deleteAudioTrack m client session track = .ok (st, r')) :
    Harmless r r' := by
  refine ⟨keepsVideo_deleteAudioTrack h, fun i hi => ?_⟩
  rcases deleteAudioTrack_cases h with ⟨-, rfl, -⟩ | ⟨-, -, -, -, -, rfl⟩
  · exact hi
  · exact hi

theorem CameraEdit.harmless (h : CameraEdit client camera r r') : Harmless r r' := by
  refine ⟨h.keepsVideo, fun i hi => ?_⟩
  cases h with
  | touched h | joined _ h | opened _ h | left _ h | closed _ h =>
    subst h
    exact hi

theorem harmless_registerClient : Harmless r (r.registerClient client) := by
  refine ⟨keepsVideo_registerClient, fun i hi => ?_⟩
  unfold registerClient at hi
  split at hi
  · exact hi
  · exact hi

theorem harmless_disconnect (h : r.deRegisterClient remoteCb m client false = .ok (st, r')) :
    Harmless r r' := by
  unfold deRegisterClient at h
  split at h
  · exact eq_of_ok h ▸ harmless_of_eq rfl rfl rfl
  · simp only [Bool.not_false, if_true] at h
    split at h <;> obtain ⟨-, rfl⟩ := by simpa using h
    · exact harmless_of_eq rfl rfl rfl
    · exact harmless_of_eq rfl rfl rfl

end RecorderImpl

/-- The requests that neither make nor delete a session or a video track, and neither start nor
stop a session. -/
def Request.isHarmless : Request → Bool
  | .connect _ | .disconnect _ | .startCamera .. | .stopCamera .. | .deleteSession ..
  | .pauseSession .. | .resumeSession .. | .createAudioTrack .. | .deleteAudioTrack ..
  | .cameraResult _ | .cameraError _ => true
  | _ => false

namespace Service

open RecorderImpl

variable {s t : Service} {a : Request} {st unset : Status} {f : RecorderImpl → Result}

theorem harmless_onRecorder (h : s.onRecorder unset f = .ok (st, t))
    (hf : ∀ r r' st, f r = .ok (st, r') → Harmless r r') :
    ∀ r', t.recorder = some r' → Harmless (s.recorder.getD {}) r' := by
  intro r' hr'
  rcases onRecorder_cases h with ⟨hnone, -, rfl⟩ | ⟨r, r₁, hr, hok, rfl⟩
  · simp [hnone] at hr'
  · obtain rfl := Option.some.inj hr'
    rw [hr]
    exact hf r _ _ hok

theorem harmless_step (ha : a.isHarmless = true) (h : s.step a = .ok (st, t)) :
    ∀ r', t.recorder = some r' → Harmless (s.recorder.getD {}) r' := by
  cases a with
  | connect init =>
    obtain rfl : (s.connect init).2 = t := congrArg Prod.snd (Except.ok.inj h)
    intro r' hr'
    unfold connect at hr'
    split at hr'
    · rw [hr']
      exact harmless_of_eq rfl rfl rfl
    · obtain rfl := Option.some.inj hr'
      exact harmless_registerClient
  | disconnect client =>
    intro r' hr'
    obtain rfl | ⟨r, r₁, st', hr, hc, hd, rfl⟩ := leave_ok h
    · rw [hr']
      exact harmless_of_eq rfl rfl rfl
    · obtain rfl := recorder_forget hr'
      rw [hr]
      exact harmless_disconnect hd
  | startCamera client camera slave m =>
    refine harmless_onRecorder h fun r r' st hf => ?_
    obtain rfl | ⟨-, hcam⟩ := startCamera_cases hf
    · exact harmless_of_eq rfl rfl rfl
    · exact hcam.harmless
  | stopCamera client camera m =>
    refine harmless_onRecorder h fun r r' st hf => ?_
    obtain rfl | ⟨-, hcam⟩ := stopCamera_cases hf
    · exact harmless_of_eq rfl rfl rfl
    · exact hcam.harmless
  | deleteSession client session =>
    exact harmless_onRecorder h fun _ _ _ hf => harmless_deleteSession hf
  | pauseSession client session m =>
    refine harmless_onRecorder h fun r r' st hf => ?_
    obtain rfl : (r.pauseSession m client session).2 = r' := congrArg Prod.snd (Except.ok.inj hf)
    exact harmless_pauseSession
  | resumeSession client session m =>
    refine harmless_onRecorder h fun r r' st hf => ?_
    obtain rfl : (r.resumeSession m client session).2 = r' := congrArg Prod.snd (Except.ok.inj hf)
    exact harmless_resumeSession
  | createAudioTrack client session track p m =>
    refine harmless_onRecorder h fun r r' st hf => ?_
    split at hf
    · exact eq_of_ok hf ▸ harmless_of_eq rfl rfl rfl
    · exact harmless_createAudioTrack hf
  | deleteAudioTrack client session track m =>
    exact harmless_onRecorder h fun _ _ _ hf => harmless_deleteAudioTrack hf
  | cameraResult camera | cameraError camera =>
    refine harmless_onRecorder h fun r r' st hf => ?_
    obtain ⟨_, -, hf⟩ := Library.bind_eq_ok_iff.mp hf
    exact eq_of_ok hf ▸ harmless_of_eq rfl rfl rfl
  | clientDeath | createSession | startSession | stopSession | createVideoTrack
  | deleteVideoTrack => simp [Request.isHarmless] at ha

end Service

end QmmfSdk.Recorder
