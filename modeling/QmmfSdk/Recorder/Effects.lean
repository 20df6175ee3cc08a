import QmmfSdk.Recorder.Service
import QmmfSdk.Library.Fallible

/-! What each request can change in the registry, said once and used by every invariant. -/
namespace QmmfSdk.Recorder

namespace RecorderImpl

variable {r r' r'' : RecorderImpl} {remoteCb : UInt32 → Bool} {m : Media} {st : Status}
  {client session track c s t cam : UInt32}

theorem isClientValid_iff : r.isClientValid client = true ↔ client ∈ r.clientSessionMap := by
  simp [isClientValid]

@[simp] theorem sessions_updateSessions {f : SessionTrackMap → SessionTrackMap} :
    (r.updateSessions client f).sessions c =
      if client = c then f (r.sessions c) else r.sessions c := by
  simp only [sessions, updateSessions, Library.OrdMap.getElem?_update]
  split <;> simp_all

theorem getElem?_updateSessions {f : SessionTrackMap → SessionTrackMap} :
    (r.updateSessions client f).clientSessionMap[c]? =
      if client = c then some (f (r.sessions c)) else r.clientSessionMap[c]? := by
  rw [updateSessions, Library.OrdMap.getElem?_update]
  split
  · next hc => rw [hc, sessions]
  · rfl

@[simp] theorem track_updateSessions {f : SessionTrackMap → SessionTrackMap} :
    (r.updateSessions client f).track c s t =
      if client = c then ((f (r.sessions c))[s]?.getD ∅)[t]? else r.track c s t := by
  simp only [RecorderImpl.track, tracks, sessions_updateSessions]
  split <;> rfl

@[simp] theorem track_updateTracks {f : TrackInfoMap → TrackInfoMap} :
    (r.updateTracks client session f).track c s t =
      if client = c ∧ session = s then (f (r.tracks c s))[t]? else r.track c s t := by
  simp only [updateTracks, track_updateSessions, Library.OrdMap.getElem?_update]
  by_cases h : client = c <;> by_cases h' : session = s <;>
    simp_all [RecorderImpl.track, tracks]

@[simp] theorem cameras_updateCameras {f : IdMap Bool → IdMap Bool} :
    (r.updateCameras client f).cameras c =
      if client = c then f (r.cameras c) else r.cameras c := by
  simp only [cameras, updateCameras, Library.OrdMap.getElem?_update]
  split <;> simp_all

@[simp] theorem camera_updateCameras {f : IdMap Bool → IdMap Bool} :
    (r.updateCameras client f).camera c cam =
      if client = c then (f (r.cameras c))[cam]? else r.camera c cam := by
  simp only [camera, cameras_updateCameras]
  split <;> rfl

/-- A request made for `client` leaves the cameras alone, keeps every registered client,
registers at most `client`, and every track there afterwards was there before or is `New`. -/
structure Edits (New : UInt32 → UInt32 → UInt32 → TrackInfo → Prop) (client : UInt32)
    (r r' : RecorderImpl) : Prop where
  cameras : r'.clientCameraidMap = r.clientCameraidMap
  keeps : ∀ c, c ∈ r.clientSessionMap → c ∈ r'.clientSessionMap
  registers : ∀ c, c ∈ r'.clientSessionMap → c = client ∨ c ∈ r.clientSessionMap
  tracks : ∀ c s t info, r'.track c s t = some info → r.track c s t = some info ∨ New c s t info

/-- No track is new. -/
def NoTrack (_ _ _ : UInt32) (_ : TrackInfo) : Prop := False

variable {New : UInt32 → UInt32 → UInt32 → TrackInfo → Prop}

theorem Edits.refl : Edits New client r r :=
  ⟨rfl, fun _ h => h, fun _ h => .inr h, fun _ _ _ _ h => .inl h⟩

theorem Edits.trans (h : Edits New client r r') (h' : Edits New client r' r'') :
    Edits New client r r'' where
  cameras := h'.cameras.trans h.cameras
  keeps c hc := h'.keeps c (h.keeps c hc)
  registers c hc := by
    rcases h'.registers c hc with hc | hc
    · exact .inl hc
    · exact h.registers c hc
  tracks c s t info hi := by
    rcases h'.tracks c s t info hi with hi | hi
    · exact h.tracks c s t info hi
    · exact .inr hi

theorem Edits.mono {New' : UInt32 → UInt32 → UInt32 → TrackInfo → Prop}
    (h : Edits New client r r') (hn : ∀ c s t info, New c s t info → New' c s t info) :
    Edits New' client r r' :=
  { h with tracks := fun c s t info hi => (h.tracks c s t info hi).imp id (hn c s t info) }

/-- Fields other than the two registries do not matter. -/
theorem Edits.of_eq (hs : r'.clientSessionMap = r.clientSessionMap)
    (hc : r'.clientCameraidMap = r.clientCameraidMap) : Edits New client r r' where
  cameras := hc
  keeps c h := hs ▸ h
  registers c h := .inr (hs ▸ h)
  tracks c s t info h := by
    left
    simpa [RecorderImpl.track, RecorderImpl.tracks, sessions, hs] using h

theorem edits_updateSessions {f : SessionTrackMap → SessionTrackMap}
    (h : ∀ s t info, ((f (r.sessions client))[s]?.getD ∅)[t]? = some info →
      r.track client s t = some info) :
    Edits New client r (r.updateSessions client f) where
  cameras := rfl
  keeps c hc := by simp [updateSessions, hc]
  registers c hc := by
    have hc : client = c ∨ c ∈ r.clientSessionMap := by simpa [updateSessions] using hc
    exact hc.imp Eq.symm id
  tracks c s t info hi := by
    left
    rw [track_updateSessions] at hi
    split at hi
    · next hc => subst hc; exact h s t info hi
    · exact hi

theorem edits_updateTracks {f : TrackInfoMap → TrackInfoMap}
    (h : ∀ t info, (f (r.tracks client session))[t]? = some info →
      r.track client session t = some info ∨ New client session t info) :
    Edits New client r (r.updateTracks client session f) where
  cameras := rfl
  keeps c hc := by simp [updateTracks, updateSessions, hc]
  registers c hc := by
    have hc : client = c ∨ c ∈ r.clientSessionMap := by
      simpa [updateTracks, updateSessions] using hc
    exact hc.imp Eq.symm id
  tracks c s t info hi := by
    rw [track_updateTracks] at hi
    split at hi
    · next hc => obtain ⟨rfl, rfl⟩ := hc; exact h t info hi
    · exact .inl hi

/-- A branch that returns the state it was given. -/
theorem eq_of_ok {x : Status} (h : (.ok (x, r) : Result) = .ok (st, r')) : r' = r := by
  obtain ⟨-, rfl⟩ := by simpa using h
  rfl

theorem Edits.unchanged {x : Status} (h : (.ok (x, r) : Result) = .ok (st, r')) :
    Edits New client r r' :=
  eq_of_ok h ▸ .refl

theorem Edits.of_foldlM {α : Type} {f : RecorderImpl → α → Except Abort RecorderImpl}
    {as : List α} (hf : ∀ r a r', f r a = .ok r' → Edits New client r r')
    (h : as.foldlM f r = .ok r') : Edits New client r r' :=
  Library.foldlM_rel (R := Edits New client) (fun _ => .refl) (fun _ _ _ => .trans) hf h

theorem edits_createSession (h : r.createSession client = .ok (st, r')) :
    Edits New client r r' := by
  unfold createSession at h
  split at h
  · exact .unchanged h
  · obtain ⟨-, rfl⟩ := by simpa using h
    have hins : Edits New client r (r.updateSessions client fun m =>
        m.insertIfNew (r.uniqueSessionId + 1) ∅) := by
      apply edits_updateSessions
      intro s t info hi
      rw [Library.OrdMap.getElem?_emplace] at hi
      split at hi
      · simpa [RecorderImpl.track, RecorderImpl.tracks] using hi
      · exact hi
    exact hins.trans (.of_eq rfl rfl)

theorem edits_deleteSession (h : r.deleteSession client session = .ok (st, r')) :
    Edits New client r r' := by
  have herase : Edits New client r (r.updateSessions client fun m => m.erase session) := by
    apply edits_updateSessions
    intro s t info hi
    rw [Std.ExtTreeMap.getElem?_erase] at hi
    split at hi
    · simp at hi
    · exact hi
  unfold deleteSession at h
  split at h
  · exact .unchanged h
  split at h
  · exact .unchanged h
  split at h
  · exact .unchanged h
  · dsimp only at h
    split at h <;> obtain ⟨-, rfl⟩ := by simpa using h
    · exact herase.trans (.of_eq rfl rfl)
    · exact herase.trans (.of_eq rfl rfl)

theorem edits_lockSession (h : r.lockSession client session = .ok r') :
    Edits New client r r' := by
  unfold lockSession at h
  dsimp only at h
  split at h
  · obtain rfl := by simpa using h
    exact edits_updateTracks fun t info hi => .inl hi
  · simp at h

/-- Session states are not part of either registry. -/
theorem edits_sessionState : Edits New client r (r.touchSessionState session) := .of_eq rfl rfl

theorem edits_setSessionState {x : SessionState} :
    Edits New client r (r.setSessionState session x) := .of_eq rfl rfl

theorem edits_resumeSession : Edits New client r (r.resumeSession m client session).2 := by
  unfold resumeSession
  dsimp only
  repeat' split
  · exact .refl
  · exact .refl
  · exact edits_sessionState
  · exact edits_sessionState.trans edits_setSessionState
  · exact edits_sessionState

theorem edits_pauseSession : Edits New client r (r.pauseSession m client session).2 := by
  unfold pauseSession
  dsimp only
  repeat' split
  · exact .refl
  · exact .refl
  · exact edits_sessionState
  · exact edits_sessionState.trans edits_setSessionState
  · exact edits_sessionState

theorem edits_startSession (h : r.startSession m client session = .ok (st, r')) :
    Edits New client r r' := by
  obtain ⟨r₁, hl, h⟩ := Library.bind_eq_ok_iff.mp h
  have h₁ : Edits New client r (r₁.touchSessionState session) :=
    (edits_lockSession hl).trans edits_sessionState
  dsimp only at h
  split at h
  · obtain ⟨-, rfl⟩ := by simpa using h
    exact h₁.trans edits_resumeSession
  · exact h₁.trans (.unchanged h)
  · split at h
    · obtain ⟨-, rfl⟩ := by simpa using h
      exact h₁.trans edits_setSessionState
    · exact h₁.trans (.unchanged h)

theorem edits_stopSession (h : r.stopSession m client session = .ok (st, r')) :
    Edits New client r r' := by
  obtain ⟨r₁, hl, h⟩ := Library.bind_eq_ok_iff.mp h
  have h₁ : Edits New client r (r₁.touchSessionState session) :=
    (edits_lockSession hl).trans edits_sessionState
  dsimp only at h
  split at h
  · exact h₁.trans (.unchanged h)
  · split at h
    · obtain ⟨-, rfl⟩ := by simpa using h
      exact h₁.trans edits_setSessionState
    · exact h₁.trans (.unchanged h)

/-- The one track a successful create may register. -/
def Created (client session track : UInt32) (c s t : UInt32) (info : TrackInfo) : Prop :=
  (c = client ∧ s = session ∧ t = track) ∧
    info.trackId = getUniqueServiceTrackId client session track

/-- Registering a track, given that there is none under its key. -/
theorem track_associateTrack {format : TrackFormat}
    (hnone : r.track client session track = none) :
    (r.associateTrack client session track format).track c s t =
      if client = c ∧ session = s ∧ track = t then
        some ⟨getUniqueServiceTrackId client session track, format⟩ else r.track c s t := by
  rw [associateTrack, track_updateTracks]
  by_cases hcs : client = c ∧ session = s
  · obtain ⟨rfl, rfl⟩ := hcs
    rw [if_pos ⟨rfl, rfl⟩, Library.OrdMap.getElem?_emplace]
    by_cases ht : track = t
    · subst ht
      have hnone : (r.tracks client session)[track]? = none := hnone
      simp [hnone]
    · simp [ht, RecorderImpl.track]
  · rw [if_neg hcs, if_neg fun h => hcs ⟨h.1, h.2.1⟩]

theorem edits_associateTrack {format : TrackFormat} :
    Edits (Created client session track) client r
      (r.associateTrack client session track format) := by
  apply edits_updateTracks
  intro t info hi
  by_cases ht : track = t
  · subst ht
    rw [Library.OrdMap.getElem?_emplace, if_pos rfl] at hi
    cases ho : (r.tracks client session)[track]? with
    | none =>
      right
      obtain rfl := by simpa [ho] using hi
      exact ⟨⟨rfl, rfl, rfl⟩, rfl⟩
    | some old =>
      left
      simpa [ho, RecorderImpl.track] using hi
  · left
    simpa [Library.OrdMap.getElem?_emplace, ht, RecorderImpl.track] using hi

theorem edits_createAudioTrack {p : AudioTrackCreateParam}
    (h : r.createAudioTrack m client session track p = .ok (st, r')) :
    Edits (Created client session track) client r r' := by
  unfold createAudioTrack at h
  dsimp only at h
  repeat' split at h
  all_goals first
    | exact .unchanged h
    | (obtain ⟨-, rfl⟩ := by simpa using h
       exact edits_associateTrack)

theorem edits_createVideoTrack {p : VideoTrackCreateParam} {extra : VideoExtraParam}
    (h : r.createVideoTrack m client session track p extra = .ok (st, r')) :
    Edits (Created client session track) client r r' := by
  unfold createVideoTrack at h
  split at h
  · exact .unchanged h
  split at h
  · exact .unchanged h
  split at h
  · exact .unchanged h
  obtain ⟨go, -, h⟩ := Library.bind_eq_ok_iff.mp h
  dsimp only at h
  split at h
  · exact .unchanged h
  split at h
  · exact .unchanged h
  split at h
  · exact .unchanged h
  -- the timelapse flag and the camera index are outside both registries
  split at h
  · obtain ⟨-, rfl⟩ := by simpa using h
    split <;> exact .of_eq rfl rfl
  · obtain ⟨-, rfl⟩ := by simpa using h
    refine .trans ?_ edits_associateTrack
    split <;> exact .of_eq rfl rfl

theorem edits_eraseTrack :
    Edits New client r (r.updateTracks client session fun ts => ts.erase track) := by
  apply edits_updateTracks
  intro t info hi
  left
  rw [Std.ExtTreeMap.getElem?_erase] at hi
  split at hi
  · simp at hi
  · exact hi

theorem edits_dropCameraTrack {id : UInt32} : Edits New client r (r.dropCameraTrack id track) := by
  unfold dropCameraTrack
  split <;> exact .of_eq rfl rfl

theorem edits_deleteAudioTrack (h : r.deleteAudioTrack m client session track = .ok (st, r')) :
    Edits New client r r' := by
  unfold deleteAudioTrack at h
  repeat' split at h
  all_goals first
    | exact .unchanged h
    | contradiction
    | (obtain ⟨-, rfl⟩ := by simpa using h
       exact edits_eraseTrack)

theorem edits_deleteVideoTrack
    (h : r.deleteVideoTrack remoteCb m client session track = .ok (st, r')) :
    Edits New client r r' := by
  unfold deleteVideoTrack at h
  dsimp only at h
  repeat' split at h
  all_goals first
    | exact .unchanged h
    | contradiction
    | (obtain ⟨-, rfl⟩ := by simpa using h
       exact (edits_dropCameraTrack.trans edits_eraseTrack).trans (.of_eq rfl rfl))

theorem edits_cleanupSession {p : UInt32 × TrackInfoMap}
    (h : cleanupSession remoteCb m client r p = .ok r') : Edits New client r r' := by
  obtain ⟨⟨st₁, r₁⟩, h₁, h⟩ := Library.bind_eq_ok_iff.mp h
  obtain ⟨r₂, h₂, h⟩ := Library.bind_eq_ok_iff.mp h
  obtain ⟨⟨st₃, r₃⟩, h₃, h⟩ := Library.bind_eq_ok_iff.mp h
  obtain rfl := by simpa using h
  refine ((edits_stopSession h₁).trans ?_).trans (edits_deleteSession h₃)
  refine .of_foldlM ?_ h₂
  intro r p r' hd
  unfold deleteTrack at hd
  split at hd
  · obtain ⟨⟨st, r₁⟩, h₁, h⟩ := Library.bind_eq_ok_iff.mp hd
    obtain rfl := by simpa using h
    exact edits_deleteVideoTrack h₁
  · obtain ⟨⟨st, r₁⟩, h₁, h⟩ := Library.bind_eq_ok_iff.mp hd
    obtain rfl := by simpa using h
    exact edits_deleteAudioTrack h₁

theorem edits_cameraFlushCb (h : r.cameraFlushCb m cam = .ok r') : Edits New client r r' := by
  obtain ⟨_, -, h⟩ := Library.bind_eq_ok_iff.mp h
  obtain rfl := by simpa using h
  exact .of_eq rfl rfl

/-- Apart from the empty entry made by `operator[]`, nothing of either registry changes. -/
theorem edits_forceReturnBuffers (h : r.forceReturnBuffers m client = .ok r') :
    Edits New client (r.updateCameras client id) r' := by
  unfold forceReturnBuffers at h
  exact .of_foldlM (fun _ _ _ hf => edits_cameraFlushCb hf) h

/-- A client that is no longer registered cannot stop a camera. -/
theorem stopCamera_of_not_valid (hv : r.isClientValid client = false) :
    r.stopCamera remoteCb m client cam = .ok (.badValue, r) := by
  simp [stopCamera, hv]

theorem stopCameras_of_not_valid {cams : List UInt32} (hv : r.isClientValid client = false)
    (h : cams.foldlM (fun r camera => do .ok (← r.stopCamera remoteCb m client camera).2) r =
      .ok r') : r' = r := by
  refine Library.foldlM_rel (R := fun r r' => r.isClientValid client = false → r' = r)
    (fun _ _ => rfl) ?_ ?_ h hv
  · intro a b c hab hbc ha
    obtain rfl := hab ha
    exact hbc ha
  · intro a camera b hb ha
    rw [stopCamera_of_not_valid ha] at hb
    exact (Except.ok.inj hb).symm

/-- Forced cleanup removes exactly the client, from both registries. -/
structure Removes (client : UInt32) (r r' : RecorderImpl) : Prop where
  cameras : r'.clientCameraidMap = r.clientCameraidMap.erase client
  clients : ∀ c, c ∈ r'.clientSessionMap ↔ c ≠ client ∧ c ∈ r.clientSessionMap
  tracks : ∀ c s t info, r'.track c s t = some info → r.track c s t = some info

theorem removes_deRegisterClient (hv : r.isClientValid client = true)
    (h : r.deRegisterClient remoteCb m client true = .ok (st, r')) : Removes client r r' := by
  simp only [deRegisterClient, hv, Bool.not_true, Bool.false_eq_true, if_false] at h
  obtain ⟨r₁, h₁, h⟩ := Library.bind_eq_ok_iff.mp h
  obtain ⟨r₂, h₂, h⟩ := Library.bind_eq_ok_iff.mp h
  obtain ⟨r₃, h₃, h⟩ := Library.bind_eq_ok_iff.mp h
  obtain ⟨-, rfl⟩ := by simpa using h
  have hcut : r₃ = _ := stopCameras_of_not_valid (by simp [isClientValid, updateCameras]) h₃
  have h₁ : Edits NoTrack client _ r₁ := edits_forceReturnBuffers h₁
  have h₂ : Edits NoTrack client r₁ r₂ := .of_foldlM (fun _ _ _ hc => edits_cleanupSession hc) h₂
  have he := h₁.trans h₂
  subst hcut
  refine ⟨?_, ?_, ?_⟩
  · apply Std.ExtTreeMap.ext_getElem?
    intro k
    simp only [updateCameras, he.cameras, Std.ExtTreeMap.getElem?_erase,
      Library.OrdMap.getElem?_update]
    by_cases hk : client = k <;> simp [hk]
  · intro c
    have hk := he.keeps c
    have hr := he.registers c
    simp only [updateCameras] at hk hr ⊢
    rw [Std.ExtTreeMap.mem_erase]
    constructor
    · rintro ⟨hne, hc⟩
      have hne : c ≠ client := by
        rintro rfl
        simp at hne
      exact ⟨hne, (hr hc).resolve_left hne⟩
    · rintro ⟨hne, hc⟩
      exact ⟨by simpa using hne.symm, hk hc⟩
  · intro c s t info hi
    have hsub : r₂.track c s t = some info := by
      simp only [RecorderImpl.track, RecorderImpl.tracks, sessions, updateCameras,
        Std.ExtTreeMap.getElem?_erase] at hi
      split at hi
      · simp at hi
      · exact hi
    exact (he.tracks c s t info hsub).resolve_right id

theorem isCameraOwned_iff : r.isCameraOwned client cam = true ↔
    ∃ c, c ≠ client ∧ r.camera c cam = some true := by
  rw [isCameraOwned, Library.OrdMap.any_toList]
  constructor
  · rintro ⟨c, cs, hc, h⟩
    have h : c ≠ client ∧ cs[cam]? = some true := by simpa using h
    exact ⟨c, h.1, by simp [camera, RecorderImpl.cameras, hc, h.2]⟩
  · rintro ⟨c, hne, h⟩
    cases hc : r.clientCameraidMap[c]? with
    | none => simp [camera, RecorderImpl.cameras, hc] at h
    | some cs => exact ⟨c, cs, hc, by simpa [camera, RecorderImpl.cameras, hc, hne] using h⟩

theorem hasSlave_iff : r.hasSlave cam = true ↔ ∃ c, r.camera c cam = some false := by
  rw [hasSlave, Library.OrdMap.any_toList]
  constructor
  · rintro ⟨c, cs, hc, h⟩
    have h : cs[cam]? = some false := by simpa using h
    exact ⟨c, by simp [camera, RecorderImpl.cameras, hc, h]⟩
  · rintro ⟨c, h⟩
    cases hc : r.clientCameraidMap[c]? with
    | none => simp [camera, RecorderImpl.cameras, hc] at h
    | some cs => exact ⟨c, cs, hc, by simpa [camera, RecorderImpl.cameras, hc] using h⟩

/-- What `StartCamera` and `StopCamera` can do to the cameras of a registered client. -/
inductive CameraEdit (client cam : UInt32) (r r' : RecorderImpl) : Prop where
  | touched (h : r' = r.updateCameras client id)
  | joined (ho : r.isCameraOwned client cam = true)
      (h : r' = r.updateCameras client fun cs => cs.insertIfNew cam false)
  | opened (ho : r.isCameraOwned client cam = false)
      (h : r' = r.updateCameras client fun cs => cs.insertIfNew cam true)
  | left (ho : r.isCameraOwned client cam = true)
      (h : r' = r.updateCameras client fun cs => cs.erase cam)
  | closed (hs : r.hasSlave cam = false)
      (h : r' = r.updateCameras client fun cs => cs.erase cam)

theorem touchCameras_of_valid (hv : r.isClientValid client = true) :
    r.touchCameras client = r.updateCameras client id := by
  simp [touchCameras, hv]

theorem updateCameras_updateCameras {f : IdMap Bool → IdMap Bool} :
    (r.updateCameras client id).updateCameras client f = r.updateCameras client f := by
  simp only [updateCameras]
  congr 1
  apply Std.ExtTreeMap.ext_getElem?
  intro k
  simp only [Library.OrdMap.getElem?_update]
  by_cases hk : client = k <;> simp [hk]

theorem hasSlave_updateCameras_id :
    (r.updateCameras client id).hasSlave cam = r.hasSlave cam := by
  rw [Bool.eq_iff_iff, hasSlave_iff, hasSlave_iff]
  refine exists_congr fun c => ?_
  rw [camera_updateCameras]
  split <;> rfl

theorem startCamera_cases {slave : Bool}
    (h : r.startCamera remoteCb m client cam slave = .ok (st, r')) :
    r' = r ∨ client ∈ r.clientSessionMap ∧ CameraEdit client cam r r' := by
  unfold startCamera at h
  split at h
  · exact .inl (eq_of_ok h)
  next hv =>
  have hv : r.isClientValid client = true := by simpa using hv
  rw [touchCameras_of_valid hv] at h
  have hc := isClientValid_iff.mp hv
  split at h
  · exact .inl (eq_of_ok h)
  next hso =>
  split at h
  · next hs =>
    obtain ⟨-, rfl⟩ := by simpa using h
    exact .inr ⟨hc, .joined (by simpa [hs] using hso) rfl⟩
  split at h
  · exact .inl (eq_of_ok h)
  next ho =>
  split at h
  · obtain ⟨-, rfl⟩ := by simpa using h
    exact .inr ⟨hc, .touched rfl⟩
  split at h
  · obtain ⟨-, rfl⟩ := by simpa using h
    exact .inr ⟨hc, .touched rfl⟩
  obtain ⟨_, -, h⟩ := Library.bind_eq_ok_iff.mp h
  dsimp only at h
  rw [updateCameras_updateCameras] at h
  split at h <;> obtain ⟨-, rfl⟩ := by simpa using h
  · exact .inr ⟨hc, .opened (by simpa using ho) rfl⟩
  · exact .inr ⟨hc, .opened (by simpa using ho) rfl⟩

theorem stopCamera_cases (h : r.stopCamera remoteCb m client cam = .ok (st, r')) :
    r' = r ∨ client ∈ r.clientSessionMap ∧ CameraEdit client cam r r' := by
  unfold stopCamera at h
  split at h
  · exact .inl (eq_of_ok h)
  next hv =>
  have hv : r.isClientValid client = true := by simpa using hv
  rw [touchCameras_of_valid hv] at h
  have hc := isClientValid_iff.mp hv
  split at h
  · next ho =>
    obtain ⟨-, rfl⟩ := by simpa using h
    exact .inr ⟨hc, .left ho rfl⟩
  split at h
  · obtain ⟨-, rfl⟩ := by simpa using h
    exact .inr ⟨hc, .touched rfl⟩
  obtain ⟨_, -, h⟩ := Library.bind_eq_ok_iff.mp h
  dsimp only at h
  rw [hasSlave_updateCameras_id, updateCameras_updateCameras] at h
  split at h
  · obtain ⟨-, rfl⟩ := by simpa using h
    exact .inr ⟨hc, .touched rfl⟩
  next hs =>
  split at h
  · obtain ⟨-, rfl⟩ := by simpa using h
    exact .inr ⟨hc, .touched rfl⟩
  obtain ⟨_, -, h⟩ := Library.bind_eq_ok_iff.mp h
  obtain ⟨-, rfl⟩ := by simpa using h
  exact .inr ⟨hc, .closed (by simpa using hs) rfl⟩

/-- A voluntary departure keeps the sessions, and the cameras unless there are none. -/
theorem deRegisterClient_voluntary (hv : r.isClientValid client = true)
    (h : r.deRegisterClient remoteCb m client false = .ok (st, r')) :
    r'.clientSessionMap = r.clientSessionMap ∧
      ∀ c cam, r'.camera c cam = r.camera c cam := by
  simp only [deRegisterClient, hv, Bool.not_true, Bool.not_false, Bool.false_eq_true, if_false,
    if_true] at h
  split at h <;> obtain ⟨-, rfl⟩ := by simpa using h
  · next he =>
    refine ⟨rfl, fun c cam => ?_⟩
    have he : r.cameras client = ∅ := by simpa using he
    simp only [camera, RecorderImpl.cameras, updateCameras, Std.ExtTreeMap.getElem?_erase,
      Library.OrdMap.getElem?_update] at he ⊢
    by_cases hc : client = c
    · subst hc
      simp [he]
    · simp [hc]
  · refine ⟨rfl, fun c cam => ?_⟩
    rw [camera_updateCameras]
    split <;> rfl

end RecorderImpl

end QmmfSdk.Recorder
