import QmmfSdk.Recorder.VideoTracks

/-! The index from cameras to the tracks on them, which `CameraFlushCb` goes through. -/
namespace QmmfSdk.Recorder

namespace RecorderImpl

variable {r r' r'' : RecorderImpl} {remoteCb : UInt32 → Bool} {m : Media} {st : Status}
  {client session track c i k camera : UInt32} {cameraOf : UInt32 → UInt32 → UInt32 → UInt32}

/-- Some live video track was created on the camera and has this service track id. -/
def OnCamera (cameraOf : UInt32 → UInt32 → UInt32 → UInt32) (r : RecorderImpl)
    (camera id : UInt32) : Prop :=
  ∃ c i k f, r.track c i k = some ⟨id, .video f⟩ ∧ cameraOf c i k = camera

/-- Every camera has exactly the ids of its live video tracks, each once. -/
def IndexExact (cameraOf : UInt32 → UInt32 → UInt32 → UInt32) (r : RecorderImpl) : Prop :=
  ∀ camera, (r.cameraTracks camera).Nodup ∧
    ∀ id, id ∈ r.cameraTracks camera ↔ OnCamera cameraOf r camera id

theorem nodup_cameraTracks : (r.cameraTracks camera).Nodup :=
  Std.ExtTreeSet.distinct_toList.imp fun h heq => h (Std.compare_eq_iff_eq.mpr heq)

theorem indexExact_iff : IndexExact cameraOf r ↔
    ∀ camera id, id ∈ r.cameraTracks camera ↔ OnCamera cameraOf r camera id :=
  ⟨fun h camera => (h camera).2, fun h camera => ⟨nodup_cameraTracks, h camera⟩⟩

theorem KeepsVideo.indexExact (h : KeepsVideo r r') (hr : IndexExact cameraOf r) :
    IndexExact cameraOf r' := by
  rw [indexExact_iff] at hr ⊢
  intro camera id
  rw [h.index, hr]
  constructor
  · rintro ⟨c, i, k, f, ht, hc⟩
    exact ⟨c, i, k, f, (h.tracks c i k id f).mpr ht, hc⟩
  · rintro ⟨c, i, k, f, ht, hc⟩
    exact ⟨c, i, k, f, (h.tracks c i k id f).mp ht, hc⟩

/-! ### Video tracks -/

/-- A new track goes into the index of its camera. -/
theorem indexExact_createVideoTrack {p : VideoTrackCreateParam} {extra : VideoExtraParam}
    {cameraOf' : UInt32 → UInt32 → UInt32 → UInt32} (hr : IndexExact cameraOf r)
    (hnew : cameraOf' client session track = p.cameraId)
    (hold : ∀ c i k, ¬ (client = c ∧ session = i ∧ track = k) → cameraOf' c i k = cameraOf c i k)
    (h : r.createVideoTrack m client session track p extra = .ok (.noError, r')) :
    IndexExact cameraOf' r' := by
  obtain ⟨tm, ⟨hne, -⟩ | ⟨-, -, hnone, -, -, rfl⟩⟩ := createVideoTrack_cases h
  · exact absurd rfl hne
  rw [indexExact_iff] at hr ⊢
  intro camera id
  have hindex : id ∈ (({ r with timelapseMode := tm }.indexTrack p.cameraId
      (getUniqueServiceTrackId client session track)).associateTrack client session track
        (.video p.formatType)).cameraTracks camera ↔
      (p.cameraId = camera ∧ getUniqueServiceTrackId client session track = id) ∨
        id ∈ r.cameraTracks camera := by
    change id ∈ ((r.cameraTracksMap.update p.cameraId fun ids => ids.insert
      (getUniqueServiceTrackId client session track))[camera]?.getD ∅).toList ↔ _
    rw [Library.OrdMap.getElem?_update, cameraTracks]
    split
    · simp_all
    · simp_all
  have htrack : ∀ c i k, (({ r with timelapseMode := tm }.indexTrack p.cameraId
      (getUniqueServiceTrackId client session track)).associateTrack client session track
        (.video p.formatType)).track c i k =
      if client = c ∧ session = i ∧ track = k then
        some ⟨getUniqueServiceTrackId client session track, .video p.formatType⟩
      else r.track c i k :=
    fun c i k => track_associateTrack hnone
  rw [hindex, hr]
  constructor
  · rintro (⟨rfl, rfl⟩ | ⟨c, i, k, f, ht, hc⟩)
    · exact ⟨client, session, track, p.formatType, by rw [htrack, if_pos ⟨rfl, rfl, rfl⟩], hnew⟩
    · have hne : ¬ (client = c ∧ session = i ∧ track = k) := by
        rintro ⟨rfl, rfl, rfl⟩
        simp [hnone] at ht
      exact ⟨c, i, k, f, by rw [htrack, if_neg hne, ht], (hold c i k hne).trans hc⟩
  · rintro ⟨c, i, k, f, ht, hc⟩
    rw [htrack] at ht
    split at ht
    · next hk =>
      obtain ⟨rfl, rfl, rfl⟩ := hk
      obtain ⟨hid, -⟩ := TrackInfo.mk.inj (Option.some.inj ht)
      exact .inl ⟨hnew.symm.trans hc, hid⟩
    · next hne => exact .inr ⟨c, i, k, f, ht, (hold c i k hne).symm.trans hc⟩

/-- The client's id of the track is its service id too, and no other live track has it. -/
def ErasesOwn (r : RecorderImpl) (client session track id : UInt32) : Prop :=
  id = track ∧ ∀ c i k f, r.track c i k = some ⟨id, .video f⟩ →
    c = client ∧ i = session ∧ k = track

theorem cameraTracks_dropCameraTrack {id : UInt32} {x : UInt32} {cam : UInt32}
    (hid : id ∈ r.cameraTracks cam) (hone : ∀ cam', id ∈ r.cameraTracks cam' → cam' = cam) :
    x ∈ (r.dropCameraTrack id id).cameraTracks camera ↔
      ¬ (x = id ∧ camera = cam) ∧ x ∈ r.cameraTracks camera := by
  obtain ⟨ids, hids, hmem⟩ := mem_cameraTracks.mp hid
  unfold dropCameraTrack
  cases hfind : r.cameraTracksMap.toList.find? fun p => p.2.contains id with
  | none =>
    have hno := List.find?_eq_none.mp hfind (cam, ids)
      (Std.ExtTreeMap.mem_toList_iff_getElem?_eq_some.mpr hids)
    simp [hmem] at hno
  | some p =>
    have hp : r.cameraTracksMap[p.1]? = some p.2 :=
      Std.ExtTreeMap.mem_toList_iff_getElem?_eq_some.mp (List.mem_of_find?_eq_some hfind)
    have hin : id ∈ p.2 := by simpa using List.find?_some hfind
    have hcam : p.1 = cam := hone p.1 (mem_cameraTracks.mpr ⟨p.2, hp, hin⟩)
    dsimp only
    rw [cameraTracks, Std.ExtTreeMap.getElem?_insert, cameraTracks]
    by_cases hc : p.1 = camera
    · subst hc
      rw [if_pos (by simp), hp]
      simp [hcam, eq_comm (a := x)]
    · have hne : camera ≠ cam := fun h => hc (hcam.trans h.symm)
      rw [if_neg (by simpa using hc)]
      simp [hne]

theorem indexExact_withoutVideoTrack {id : UInt32} {f : VideoFormat} (hr : IndexExact cameraOf r)
    (ht : r.track client session track = some ⟨id, .video f⟩)
    (hown : ErasesOwn r client session track id) :
    IndexExact cameraOf (r.withoutVideoTrack client session track id) := by
  obtain ⟨rfl, hown⟩ := hown
  rw [indexExact_iff] at hr ⊢
  have hon : ∀ camera, OnCamera cameraOf r camera id → camera = cameraOf client session id := by
    rintro camera ⟨c, i, k, g, hk, hc⟩
    obtain ⟨rfl, rfl, rfl⟩ := hown c i k g hk
    exact hc.symm
  intro camera x
  have hindex := @cameraTracks_dropCameraTrack r camera id x _
    ((hr _ id).mpr ⟨client, session, id, f, ht, rfl⟩) fun cam hcam => hon cam ((hr cam id).mp hcam)
  have htrack : ∀ c i k, (r.withoutVideoTrack client session id id).track c i k =
      if client = c ∧ session = i ∧ id = k then none else r.track c i k := by
    intro c i k
    rw [track_congr clientSessionMap_withoutVideoTrack, track_eraseTrack]
  change x ∈ (r.dropCameraTrack id id).cameraTracks camera ↔ _
  rw [hindex, hr]
  constructor
  · rintro ⟨hne, c, i, k, g, hk, hc⟩
    refine ⟨c, i, k, g, ?_, hc⟩
    rw [htrack, if_neg, hk]
    rintro ⟨rfl, rfl, rfl⟩
    obtain ⟨hx, -⟩ := TrackInfo.mk.inj (Option.some.inj (ht.symm.trans hk))
    exact hne ⟨hx.symm, hc.symm⟩
  · rintro ⟨c, i, k, g, hk, hc⟩
    rw [htrack] at hk
    split at hk
    · simp at hk
    next hkey =>
    refine ⟨?_, c, i, k, g, hk, hc⟩
    rintro ⟨rfl, -⟩
    obtain ⟨rfl, rfl, rfl⟩ := hown c i k g hk
    exact hkey ⟨rfl, rfl, rfl⟩

theorem indexExact_deleteVideoTrack (hr : IndexExact cameraOf r)
    (hown : ∀ id f, r.track client session track = some ⟨id, .video f⟩ →
      m.deletes ⟨id, .video f⟩ = true → ErasesOwn r client session track id)
    (h : r.deleteVideoTrack remoteCb m client session track = .ok (st, r')) :
    IndexExact cameraOf r' := by
  rcases deleteVideoTrack_cases h with ⟨-, rfl, -⟩ | ⟨-, id, f, ht, hd, rfl⟩
  · exact hr
  · exact indexExact_withoutVideoTrack hr ht (hown id f ht hd)

/-! ### Cleanup -/

theorem SubTracks.erasesOwn {id : UInt32} (h : SubTracks r r')
    (hown : ErasesOwn r client session track id) : ErasesOwn r' client session track id :=
  ⟨hown.1, fun c i k f hk => hown.2 c i k f (h c i k _ hk)⟩

/-- One deletion of the cleanup keeps the index, when the tracks of the client have it so. -/
theorem indexExact_deleteTrack {q : UInt32 × TrackInfo} (hr : IndexExact cameraOf r)
    (hown : ∀ i k id f, r.track client i k = some ⟨id, .video f⟩ → ErasesOwn r client i k id)
    (h : deleteTrack remoteCb m client session r q = .ok r') : IndexExact cameraOf r' := by
  rcases deleteTrack_cases h with ⟨rfl, -⟩ | ⟨id, f, ht, rfl⟩ | ⟨id, f, ht, rfl⟩
  · exact hr
  · exact (keepsVideo_eraseAudio ht).indexExact hr
  · exact indexExact_withoutVideoTrack hr ht (hown _ _ id f ht)

/-- What every turn of the cleanup keeps: the index, and that the client's video tracks can be
taken out of it. -/
structure Cleaning (cameraOf : UInt32 → UInt32 → UInt32 → UInt32) (client : UInt32)
    (r : RecorderImpl) : Prop where
  exact : IndexExact cameraOf r
  own : ∀ i k id f, r.track client i k = some ⟨id, .video f⟩ → ErasesOwn r client i k id

theorem SubTracks.cleaning (h : SubTracks r r') (hr : Cleaning cameraOf client r)
    (he : IndexExact cameraOf r') : Cleaning cameraOf client r' :=
  ⟨he, fun i k id f hk => h.erasesOwn (hr.own i k id f (h _ _ _ _ hk))⟩

theorem cleaning_cleanupSession {p : UInt32 × TrackInfoMap} (hr : Cleaning cameraOf client r)
    (h : cleanupSession remoteCb m client r p = .ok r') : Cleaning cameraOf client r' := by
  obtain ⟨⟨st₁, r₁⟩, h₁, h⟩ := Library.bind_eq_ok_iff.mp h
  obtain ⟨r₂, h₂, h⟩ := Library.bind_eq_ok_iff.mp h
  obtain ⟨⟨st₃, r₃⟩, h₃, h⟩ := Library.bind_eq_ok_iff.mp h
  obtain rfl := by simpa using h
  have hr₁ := (subTracks_of_edits (edits_stopSession h₁)).cleaning hr
    ((keepsVideo_stopSession h₁).indexExact hr.exact)
  have hr₂ : Cleaning cameraOf client r₂ := by
    refine Library.foldlM_inv hr₁ ?_ h₂
    intro a q b _ ha hab
    exact (subTracks_deleteTrack hab).cleaning ha (indexExact_deleteTrack ha.exact ha.own hab)
  exact (subTracks_of_edits (edits_deleteSession h₃)).cleaning hr₂
    ((keepsVideo_deleteSession h₃).indexExact hr₂.exact)

theorem indexExact_deRegisterClient {force : Bool} (hr : IndexExact cameraOf r)
    (hd : force = true → ∀ i k id f, r.track client i k = some ⟨id, .video f⟩ →
      m.deletes ⟨id, .video f⟩ = true ∧ ErasesOwn r client i k id)
    (h : r.deRegisterClient remoteCb m client force = .ok (st, r')) : IndexExact cameraOf r' := by
  unfold deRegisterClient at h
  split at h
  · exact eq_of_ok h ▸ hr
  split at h
  · dsimp only at h
    split at h <;> obtain ⟨-, rfl⟩ := by simpa using h
    all_goals
      refine KeepsVideo.indexExact ?_ hr
      exact keepsVideo_of_eq rfl rfl
  next hv hforce =>
  have hd := hd (by simpa using hforce)
  obtain ⟨r₁, h₁, h⟩ := Library.bind_eq_ok_iff.mp h
  obtain ⟨r₂, h₂, h⟩ := Library.bind_eq_ok_iff.mp h
  obtain ⟨r₃, h₃, h⟩ := Library.bind_eq_ok_iff.mp h
  obtain ⟨-, rfl⟩ := by simpa using h
  have hdead : KeepsVideo r { r with clientState := r.clientState.insert client .dead } :=
    keepsVideo_of_eq rfl rfl
  have hkeep := hdead.trans (keepsVideo_forceReturnBuffers h₁)
  have hsub : SubTracks r r₁ := by
    intro c i k info hi
    have he : Edits NoTrack client _ r₁ := edits_forceReturnBuffers h₁
    exact (he.tracks c i k info hi).resolve_right id
  have hr₁ : Cleaning cameraOf client r₁ := by
    refine ⟨hkeep.indexExact hr, fun i k id f hk => hsub.erasesOwn (hd i k id f ?_).2⟩
    exact (hkeep.tracks _ _ _ _ _).mp hk
  have hr₂ : Cleaning cameraOf client r₂ :=
    Library.foldlM_inv hr₁ (fun _ _ _ _ ha hab => cleaning_cleanupSession ha hab) h₂
  -- no video track of the client is left, so the others keep theirs
  have hnone : ∀ i k id f, r₂.track client i k ≠ some ⟨id, .video f⟩ := by
    intro i k id f hk
    obtain ⟨hold, hrefuse⟩ := refused_of_cleanupSessions h₂ hk
    have hdel := (hd i k id f ((hkeep.tracks _ _ _ _ _).mp hold)).1
    simp [hdel] at hrefuse
  have hcut := stopCameras_of_not_valid (by simp [isClientValid, updateCameras]) h₃
  subst hcut
  refine KeepsVideo.indexExact (r := r₂) ⟨fun c i k id f => ?_, fun camera id => .rfl⟩ hr₂.exact
  rw [@track_eraseClient r₂ _ client _ _ _ rfl]
  split
  · next hc =>
    subst hc
    simp [hnone]
  · rfl

end RecorderImpl

/-- The service, with the camera that each track was last created on. -/
structure TrackService where
  service : Service := {}
  cameraOf : UInt32 → UInt32 → UInt32 → UInt32 := fun _ _ _ => 0

/-- The cameras of the tracks after a request that was answered `NO_ERROR`. -/
def Request.placed (cameraOf : UInt32 → UInt32 → UInt32 → UInt32) :
    Request → UInt32 → UInt32 → UInt32 → UInt32
  | .createVideoTrack client session track p _ _ => fun c i k =>
    if client = c ∧ session = i ∧ track = k then p.cameraId else cameraOf c i k
  | _ => cameraOf

namespace RecorderImpl

/-- Whether erasing the client's id from the index erases the entry of this track and of no
other. -/
def erasesOwn (r : RecorderImpl) (client session track id : UInt32) : Bool :=
  id == track && r.liveTracks.all fun e =>
    match e.2.format with
    | .video _ => e.2.trackId != id || e.1 == (client, session, track)
    | .audio _ => true

variable {r : RecorderImpl} {client session track c i k id : UInt32} {info : TrackInfo}

theorem erasesOwn_prop (h : r.erasesOwn client session track id = true) :
    ErasesOwn r client session track id := by
  obtain ⟨hid, hall⟩ := Bool.and_eq_true_iff.mp h
  refine ⟨by simpa using hid, fun c i k f hk => ?_⟩
  have hone := List.all_eq_true.mp hall _ (mem_liveTracks hk)
  simpa using hone

end RecorderImpl

namespace TrackService

open RecorderImpl

variable {s t : TrackService} {a : Request} {as : List Request} {st : Status}

def next (s : TrackService) (a : Request) : Option TrackService :=
  match s.service.step a with
  | .ok (st, service) =>
    some ⟨service, if st = .noError then a.placed s.cameraOf else s.cameraOf⟩
  | .error _ => none

def lts : Library.LTS TrackService Request := .ofStep next

def CameraIndexExact (s : TrackService) : Prop :=
  ∀ r, s.service.recorder = some r → IndexExact s.cameraOf r

/-- The requests that keep the index: a video track is deleted, by its client or in the cleanup
of a dead one, only when its id in the index is the one that is erased, and a dead client that
is not the last one leaves no video track undeleted. -/
def keepsIndex (s : TrackService) (a : Request) : Bool :=
  s.service.recorder.all fun r =>
    match a with
    | .deleteVideoTrack client session track m =>
      match r.track client session track with
      | some ⟨id, .video f⟩ =>
        !m.deletes ⟨id, .video f⟩ || r.erasesOwn client session track id
      | _ => true
    | .clientDeath client m =>
      let cbs := s.service.remoteCbList
      !(cbs.contains client && cbs.keys.any (· != client)) || r.liveTracks.all fun e =>
        match e.2.format with
        | .video _ => e.1.1 != client ||
          (m.deletes e.2 && r.erasesOwn client e.1.2.1 e.1.2.2 e.2.trackId)
        | .audio _ => true
    | _ => true

variable {unset : Status} {f : RecorderImpl → Result} {u : Service} {client : UInt32}

theorem indexExact_onRecorder (hs : CameraIndexExact s)
    (h : s.service.onRecorder unset f = .ok (st, u))
    (hf : ∀ r r' st, s.service.recorder = some r → f r = .ok (st, r') →
      IndexExact s.cameraOf r → IndexExact s.cameraOf r') :
    ∀ r, u.recorder = some r → IndexExact s.cameraOf r := by
  obtain rfl | ⟨r, r', st', hr, hok, rfl⟩ := Service.onRecorder_ok h
  · exact hs
  · intro v hv
    obtain rfl := Option.some.inj hv
    exact hf r _ _ hr hok (hs r hr)

theorem indexExact_empty : IndexExact s.cameraOf {} := by
  rw [indexExact_iff]
  intro camera id
  simp [mem_cameraTracks, OnCamera, RecorderImpl.track, tracks, sessions]

theorem indexExact_harmless (hs : CameraIndexExact s) (ha : a.isHarmless = true)
    (h : s.service.step a = .ok (st, u)) :
    ∀ r, u.recorder = some r → IndexExact s.cameraOf r := by
  intro r hr
  refine (Service.harmless_step ha h r hr).indexExact ?_
  cases hrec : s.service.recorder with
  | none => exact indexExact_empty
  | some r => exact hs r hrec

theorem indexExact_leave {m : Media} {force : Bool} (hl : s.service.SameLists)
    (hs : CameraIndexExact s)
    (hd : force = true → ∀ r, s.service.recorder = some r → client ∈ s.service.remoteCbList →
      (∃ c ∈ s.service.remoteCbList, c ≠ client) →
      ∀ i k id f, r.track client i k = some ⟨id, .video f⟩ →
        m.deletes ⟨id, .video f⟩ = true ∧ ErasesOwn r client i k id)
    (h : s.service.leave client m force = .ok (st, u)) :
    ∀ r, u.recorder = some r → IndexExact s.cameraOf r := by
  obtain rfl | ⟨r, r', st', hr, hc, hdr, rfl⟩ := Service.leave_ok h
  · exact hs
  · intro v hv
    have hother := Service.exists_other_of_forget hl hv
    obtain rfl := Service.recorder_forget hv
    exact indexExact_deRegisterClient (hs r hr) (fun hf => hd hf r hr hc hother) hdr

/-- Requests that create no video track leave the cameras of the tracks as they are. -/
theorem cameraIndexExact_step :
    (lts.guarded fun s a => keepsIndex s a).TrInv fun s =>
      s.service.SameLists ∧ CameraIndexExact s := by
  rintro s a t ⟨hstep, hguard⟩ ⟨hl, hs⟩
  have hstep : s.next a = some t := hstep
  unfold next at hstep
  split at hstep
  case h_2 => simp at hstep
  next st u h =>
  obtain rfl := Option.some.inj hstep
  have hservice : Service.lts.Tr s.service a u := Service.next_eq_some.mpr ⟨st, h⟩
  refine ⟨Service.sameLists_step _ _ _ hservice hl, ?_⟩
  -- only the creation of a video track places one
  have hplain : a.placed s.cameraOf = s.cameraOf →
      (∀ r, u.recorder = some r → IndexExact s.cameraOf r) →
      CameraIndexExact ⟨u, if st = .noError then a.placed s.cameraOf else s.cameraOf⟩ := by
    intro hplaced hex
    rw [CameraIndexExact, hplaced, ite_self]
    exact hex
  cases a with
  | connect | disconnect | startCamera | stopCamera | deleteSession | pauseSession | resumeSession
  | createAudioTrack | deleteAudioTrack | cameraResult | cameraError =>
    exact hplain rfl (indexExact_harmless hs rfl h)
  | clientDeath client m =>
    refine hplain rfl (indexExact_leave hl hs (fun _ r hr hc hother i k id f hk => ?_) h)
    obtain ⟨c, hmem, hne⟩ := hother
    have hany : s.service.remoteCbList.keys.any (· != client) = true :=
      List.any_eq_true.mpr ⟨c, Std.ExtTreeMap.mem_keys.mpr hmem, by simpa using hne⟩
    simp only [keepsIndex, hr, Option.all_some, Std.ExtTreeMap.contains_iff_mem.mpr hc, hany,
      Bool.and_self, Bool.not_true, Bool.false_or, List.all_eq_true] at hguard
    have hg := hguard _ (mem_liveTracks hk)
    simp only [bne_self_eq_false, Bool.false_or, Bool.and_eq_true] at hg
    exact ⟨hg.1, erasesOwn_prop hg.2⟩
  | createSession client =>
    exact hplain rfl (indexExact_onRecorder hs h fun r r' st hr hf he =>
      (keepsVideo_createSession hf).indexExact he)
  | startSession client session m =>
    exact hplain rfl (indexExact_onRecorder hs h fun r r' st hr hf he =>
      (keepsVideo_startSession hf).indexExact he)
  | stopSession client session m =>
    exact hplain rfl (indexExact_onRecorder hs h fun r r' st hr hf he =>
      (keepsVideo_stopSession hf).indexExact he)
  | createVideoTrack client session track p extra m =>
    intro v hv
    rcases Service.onRecorder_cases h with ⟨hnone, rfl, rfl⟩ | ⟨r, r', hr, hf, rfl⟩
    · simp [hnone] at hv
    obtain rfl := Option.some.inj hv
    have he := hs r hr
    split at hf
    · obtain ⟨rfl, rfl⟩ := Prod.mk.inj (Except.ok.inj hf)
      exact he
    by_cases hok : st = .noError
    · subst hok
      exact indexExact_createVideoTrack he (if_pos ⟨rfl, rfl, rfl⟩) (fun c i k hne => if_neg hne) hf
    · rw [if_neg hok]
      obtain ⟨tm, ⟨-, rfl⟩ | ⟨hst, -⟩⟩ := createVideoTrack_cases hf
      · refine KeepsVideo.indexExact (r := r) ?_ he
        exact keepsVideo_of_eq rfl rfl
      · exact absurd hst hok
  | deleteVideoTrack client session track m =>
    refine hplain rfl (indexExact_onRecorder hs h fun r r' st hr hf he => ?_)
    refine indexExact_deleteVideoTrack he (fun id f hk hd => ?_) hf
    have hg : r.erasesOwn client session track id = true := by
      simpa [keepsIndex, hr, hk, hd] using hguard
    exact erasesOwn_prop hg

theorem cameraIndexExact_initial :
    ({} : TrackService).service.SameLists ∧ CameraIndexExact {} := by
  refine ⟨rfl, fun r hr => ?_⟩
  have hr : (none : Option RecorderImpl) = some r := hr
  simp at hr

/-- In a run whose requests all keep the index, a flush of a camera goes through the ids of its
live video tracks, through each once and through no other. -/
theorem cameraIndex_exact_of_keepsIndex
    (h : (lts.guarded fun s a => keepsIndex s a).MTr {} as s) : CameraIndexExact s :=
  (Library.LTS.inv_of_mTr cameraIndexExact_step h cameraIndexExact_initial).2

/-- Two clients with tracks on camera 0, one of which is created with a source track. -/
def twoTracksRun : List Request :=
  [.connect .noError, .connect .noError, .createSession 1, .createSession 2,
    .createVideoTrack 1 1 5 ⟨0, 640, 480, .avc⟩ {} {},
    .createVideoTrack 2 2 5 ⟨0, 640, 480, .nv12⟩ { sourceVideoTrackId := some 5 } {},
    .startSession 1 1 {}]

theorem cameraIndex_exact_two_tracks :
    ∃ s, (lts.guarded fun s a => keepsIndex s a).MTr {} twoTracksRun s ∧
      (s.service.recorder.map fun r => r.cameraTracks 0) = some [0x01010005, 0x02020005] ∧
      CameraIndexExact s := by
  have hrun : (Library.LTS.run next {} twoTracksRun).map (fun s =>
      s.service.recorder.map fun r => r.cameraTracks 0) =
        some (some [0x01010005, 0x02020005]) := by decide
  obtain ⟨s, hs, htracks⟩ := Option.map_eq_some_iff.mp hrun
  have hmeets : Library.LTS.Meets next (fun s a => keepsIndex s a = true) {} twoTracksRun := by
    decide
  have hmtr := Library.LTS.mTr_guarded_iff.mpr ⟨hs, hmeets⟩
  exact ⟨s, hmtr, htracks, cameraIndex_exact_of_keepsIndex hmtr⟩

/-- The only track of camera 0 is deleted, and its service track id stays in the index. -/
theorem deleted_track_stays_in_index :
    ¬ ∀ (as : List Request) (s : TrackService), lts.MTr {} as s → CameraIndexExact s := by
  intro hall
  have hrun : (Library.LTS.run next {}
      [.connect .noError, .createSession 1, .createVideoTrack 1 1 5 ⟨0, 640, 480, .avc⟩ {} {},
        .deleteVideoTrack 1 1 5 {}]).bind (fun s => s.service.recorder.map fun r =>
          (r.cameraTracks 0, r.liveTracks.isEmpty)) = some ([0x01010005], true) := by decide
  obtain ⟨s, hs, hr⟩ := Option.bind_eq_some_iff.mp hrun
  obtain ⟨r, hr, heq⟩ := Option.map_eq_some_iff.mp hr
  obtain ⟨htracks, hlive⟩ := Prod.mk.inj heq
  have hex := (hall _ s (Library.LTS.mTr_ofStep_iff.mpr hs) r hr 0).2 0x01010005
  obtain ⟨c, i, k, f, hk, -⟩ := hex.mp (by simp [htracks])
  have hmem := mem_liveTracks hk
  simp [List.isEmpty_iff.mp hlive] at hmem

end TrackService

end QmmfSdk.Recorder
