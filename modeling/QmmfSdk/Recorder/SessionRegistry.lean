import QmmfSdk.Recorder.Cleanup
import QmmfSdk.Recorder.Steps

/-! The session registry: the maps of session states and session mutexes have exactly the
sessions of all clients, under any number of clients. -/
namespace QmmfSdk.Recorder

namespace RecorderImpl

variable {r r' r'' : RecorderImpl} {remoteCb : UInt32 → Bool} {m : Media} {st : Status}
  {client session track c i : UInt32}

/-- The three maps agree on which sessions there are, and each session has one client. -/
structure Coherent (r : RecorderImpl) : Prop where
  states : ∀ i, i ∈ r.sessionsState ↔ ∃ c, i ∈ r.sessions c
  mutexes : ∀ i, i ∈ r.sessionsMutexMap ↔ ∃ c, i ∈ r.sessions c
  oneClient : ∀ i c c', i ∈ r.sessions c → i ∈ r.sessions c' → c = c'
  nonNull : ∀ i : UInt32, r.sessionsMutexMap[i]? ≠ some false

/-- A coherent registry, whose counter is not behind any session. -/
structure RegistryInv (r : RecorderImpl) : Prop extends Coherent r where
  counted : ∀ i c, i ∈ r.sessions c → i ≤ r.uniqueSessionId

/-- The same sessions in every map. -/
structure KeepsSessions (r r' : RecorderImpl) : Prop where
  sessions : ∀ i c, i ∈ r'.sessions c ↔ i ∈ r.sessions c
  states : ∀ i, i ∈ r'.sessionsState ↔ i ∈ r.sessionsState
  mutexes : r'.sessionsMutexMap = r.sessionsMutexMap
  counter : r'.uniqueSessionId = r.uniqueSessionId

theorem KeepsSessions.refl : KeepsSessions r r :=
  ⟨fun _ _ => .rfl, fun _ => .rfl, rfl, rfl⟩

theorem KeepsSessions.trans (h : KeepsSessions r r') (h' : KeepsSessions r' r'') :
    KeepsSessions r r'' where
  sessions i c := (h'.sessions i c).trans (h.sessions i c)
  states i := (h'.states i).trans (h.states i)
  mutexes := h'.mutexes.trans h.mutexes
  counter := h'.counter.trans h.counter

theorem KeepsSessions.registryInv (h : KeepsSessions r r') (hr : RegistryInv r) : RegistryInv r' where
  states i := by
    rw [h.states, hr.states]
    exact exists_congr fun c => (h.sessions i c).symm
  mutexes i := by
    rw [h.mutexes, hr.mutexes]
    exact exists_congr fun c => (h.sessions i c).symm
  oneClient i c c' hc hc' := hr.oneClient i c c' ((h.sessions i c).mp hc) ((h.sessions i c').mp hc')
  nonNull i := h.mutexes ▸ hr.nonNull i
  counted i c hc := by
    rw [h.counter]
    exact hr.counted i c ((h.sessions i c).mp hc)

theorem mem_sessions_updateTracks {f : TrackInfoMap → TrackInfoMap} :
    i ∈ (r.updateTracks client session f).sessions c ↔
      (client = c ∧ session = i) ∨ i ∈ r.sessions c := by
  rw [updateTracks, sessions_updateSessions]
  split <;> simp_all

/-- Tracks of a session that is there do not matter, nor do fields outside the registry. -/
theorem keepsSessions_updateTracks {f : TrackInfoMap → TrackInfoMap}
    (hs : session ∈ r.sessions client)
    (hm : r'.clientSessionMap = (r.updateTracks client session f).clientSessionMap)
    (hst : r'.sessionsState = r.sessionsState) (hmu : r'.sessionsMutexMap = r.sessionsMutexMap)
    (hid : r'.uniqueSessionId = r.uniqueSessionId) : KeepsSessions r r' where
  sessions i c := by
    have heq : r'.sessions c = (r.updateTracks client session f).sessions c := by
      rw [RecorderImpl.sessions, hm, RecorderImpl.sessions]
    rw [heq, mem_sessions_updateTracks]
    constructor
    · rintro (⟨rfl, rfl⟩ | hi)
      · exact hs
      · exact hi
    · exact Or.inr
  states i := by rw [hst]
  mutexes := hmu
  counter := hid

theorem keepsSessions_of_eq (hm : r'.clientSessionMap = r.clientSessionMap)
    (hst : r'.sessionsState = r.sessionsState) (hmu : r'.sessionsMutexMap = r.sessionsMutexMap)
    (hid : r'.uniqueSessionId = r.uniqueSessionId) : KeepsSessions r r' where
  sessions i c := by rw [RecorderImpl.sessions, hm, RecorderImpl.sessions]
  states i := by rw [hst]
  mutexes := hmu
  counter := hid

theorem Restated.keepsSessions (h : Restated session r r') (hs : session ∈ r.sessionsState) :
    KeepsSessions r r' := by
  obtain ⟨ss, rfl, hss⟩ := h
  refine ⟨fun _ _ => .rfl, fun i => ?_, rfl, rfl⟩
  rw [hss]
  constructor
  · rintro (rfl | hi)
    · exact hs
    · exact hi
  · exact Or.inr

theorem RegistryInv.state_of_session (hr : RegistryInv r) (hv : r.isSessionValid client session = true) :
    session ∈ r.sessionsState :=
  (hr.states session).mpr ⟨client, isSessionValid_iff.mp hv⟩

theorem keepsSessions_resumeSession (hr : RegistryInv r) :
    KeepsSessions r (r.resumeSession m client session).2 := by
  rcases @resumeSession_cases r m client session with heq | ⟨hv, hre⟩
  · rw [heq]
    exact .refl
  · exact hre.keepsSessions (hr.state_of_session hv)

theorem keepsSessions_pauseSession (hr : RegistryInv r) :
    KeepsSessions r (r.pauseSession m client session).2 := by
  rcases @pauseSession_cases r m client session with heq | ⟨hv, hre⟩
  · rw [heq]
    exact .refl
  · exact hre.keepsSessions (hr.state_of_session hv)

/-- Taking the lock of a session of the client's own, and then changing its state. -/
theorem keepsSessions_locked (hr : RegistryInv r) (hs : session ∈ r.sessions client)
    (h : Restated session (r.updateTracks client session id) r') : KeepsSessions r r' := by
  have hkeep : KeepsSessions r (r.updateTracks client session id) :=
    keepsSessions_updateTracks hs rfl rfl rfl rfl
  apply hkeep.trans
  apply h.keepsSessions
  exact (hr.states session).mpr ⟨client, hs⟩

/-- A lock that is there belongs to a session of some client. -/
theorem RegistryInv.session_of_lock (hr : RegistryInv r)
    (hm : r.sessionsMutexMap[session]? = some true)
    (hown : ∀ c, session ∈ r.sessions c → c = client) : session ∈ r.sessions client := by
  have hmem : session ∈ r.sessionsMutexMap := by
    rw [Std.ExtTreeMap.mem_iff_isSome_getElem?, hm]
    rfl
  obtain ⟨c, hc⟩ := (hr.mutexes session).mp hmem
  exact hown c hc ▸ hc

theorem keepsSessions_startSession (hr : RegistryInv r)
    (hown : ∀ c, session ∈ r.sessions c → c = client)
    (h : r.startSession m client session = .ok (st, r')) : KeepsSessions r r' := by
  obtain ⟨hm, hre⟩ := startSession_cases h
  exact keepsSessions_locked hr (hr.session_of_lock hm hown) hre

theorem keepsSessions_stopSession (hr : RegistryInv r)
    (hown : ∀ c, session ∈ r.sessions c → c = client)
    (h : r.stopSession m client session = .ok (st, r')) : KeepsSessions r r' := by
  obtain ⟨hm, hre⟩ := stopSession_cases h
  exact keepsSessions_locked hr (hr.session_of_lock hm hown) hre

theorem keepsSessions_createAudioTrack {p : AudioTrackCreateParam}
    (h : r.createAudioTrack m client session track p = .ok (st, r')) : KeepsSessions r r' := by
  rcases createAudioTrack_cases h with ⟨-, rfl⟩ | ⟨-, hv, -, rfl⟩
  · exact .refl
  · exact keepsSessions_updateTracks (isSessionValid_iff.mp hv) rfl rfl rfl rfl

theorem keepsSessions_createVideoTrack {p : VideoTrackCreateParam} {extra : VideoExtraParam}
    (h : r.createVideoTrack m client session track p extra = .ok (st, r')) :
    KeepsSessions r r' := by
  obtain ⟨tm, ⟨-, rfl⟩ | ⟨-, hv, -, -, -, rfl⟩⟩ := createVideoTrack_cases h
  · exact keepsSessions_of_eq rfl rfl rfl rfl
  · exact keepsSessions_updateTracks (isSessionValid_iff.mp hv) rfl rfl rfl rfl

/-- Outside the sessions of the clients a deletion changes the camera index and the timelapse
map only. -/
theorem keepsSessions_withoutVideoTrack (hv : r.isSessionValid client session = true) :
    KeepsSessions r (r.withoutVideoTrack client session track i) := by
  apply keepsSessions_updateTracks (f := fun ts => ts.erase track) (isSessionValid_iff.mp hv)
  · simp [withoutVideoTrack, updateTracks, updateSessions]
  all_goals
    unfold withoutVideoTrack dropCameraTrack
    split <;> rfl

theorem keepsSessions_deleteVideoTrack
    (h : r.deleteVideoTrack remoteCb m client session track = .ok (st, r')) :
    KeepsSessions r r' := by
  rcases deleteVideoTrack_cases h with ⟨-, rfl, -⟩ | ⟨-, id, f, ht, -, rfl⟩
  · exact .refl
  · exact keepsSessions_withoutVideoTrack (isSessionValid_of_track ht)

theorem keepsSessions_deleteAudioTrack
    (h : r.deleteAudioTrack m client session track = .ok (st, r')) : KeepsSessions r r' := by
  rcases deleteAudioTrack_cases h with ⟨-, rfl, -⟩ | ⟨-, id, f, ht, -, rfl⟩
  · exact .refl
  · exact keepsSessions_updateTracks (isSessionValid_iff.mp (isSessionValid_of_track ht)) rfl rfl rfl rfl

/-! ### New and deleted sessions -/

/-- The id after the counter, as long as the counter does not wrap. -/
theorem RegistryInv.not_mem_next (hr : RegistryInv r) (hlt : r.uniqueSessionId.toNat + 1 < 2 ^ 32) :
    r.uniqueSessionId + 1 ∉ r.sessions c := by
  intro hmem
  have hle := UInt32.le_iff_toNat_le.mp (hr.counted _ c hmem)
  rw [UInt32.toNat_add, UInt32.toNat_one, Nat.mod_eq_of_lt hlt] at hle
  omega

theorem mem_sessions_insertIfNew {s : UInt32} :
    i ∈ (r.updateSessions client fun m => m.insertIfNew s ∅).sessions c ↔
      (client = c ∧ s = i) ∨ i ∈ r.sessions c := by
  rw [sessions_updateSessions]
  split
  · rw [Std.ExtTreeMap.mem_insertIfNew, Std.compare_eq_iff_eq]
    tauto
  · tauto

theorem registryInv_createSession (hr : RegistryInv r)
    (hlt : r.uniqueSessionId.toNat + 1 < 2 ^ 32)
    (h : r.createSession client = .ok (st, r')) : RegistryInv r' := by
  rcases createSession_cases h with ⟨-, rfl⟩ | ⟨hv, rfl⟩
  · exact hr
  have hnew : ∀ c, r.uniqueSessionId + 1 ∉ r.sessions c := fun c => hr.not_mem_next hlt
  refine ⟨⟨fun i => ?_, fun i => ?_, fun i c c' hc hc' => ?_, fun i hb => ?_⟩, fun i c hc => ?_⟩
  · rw [Std.ExtTreeMap.mem_insertIfNew, Std.compare_eq_iff_eq, hr.states]
    constructor
    · rintro (rfl | ⟨c, hc⟩)
      · exact ⟨client, mem_sessions_insertIfNew.mpr (.inl ⟨rfl, rfl⟩)⟩
      · exact ⟨c, mem_sessions_insertIfNew.mpr (.inr hc)⟩
    · rintro ⟨c, hc⟩
      rcases mem_sessions_insertIfNew.mp hc with ⟨-, hi⟩ | hc
      · exact .inl hi
      · exact .inr ⟨c, hc⟩
  · rw [Std.ExtTreeMap.mem_insertIfNew, Std.compare_eq_iff_eq, hr.mutexes]
    constructor
    · rintro (rfl | ⟨c, hc⟩)
      · exact ⟨client, mem_sessions_insertIfNew.mpr (.inl ⟨rfl, rfl⟩)⟩
      · exact ⟨c, mem_sessions_insertIfNew.mpr (.inr hc)⟩
    · rintro ⟨c, hc⟩
      rcases mem_sessions_insertIfNew.mp hc with ⟨-, hi⟩ | hc
      · exact .inl hi
      · exact .inr ⟨c, hc⟩
  · rcases mem_sessions_insertIfNew.mp hc with ⟨rfl, rfl⟩ | hc <;>
      rcases mem_sessions_insertIfNew.mp hc' with ⟨rfl, hi⟩ | hc'
    · rfl
    · exact absurd hc' (hnew c')
    · exact absurd (hi ▸ hc) (hnew c)
    · exact hr.oneClient i c c' hc hc'
  · rw [Library.OrdMap.getElem?_emplace] at hb
    split at hb
    · next hi =>
      have hnone : r.sessionsMutexMap[i]? = none := by
        apply Std.ExtTreeMap.getElem?_eq_none
        rw [hr.mutexes, ← hi]
        rintro ⟨c, hc⟩
        exact hnew c hc
      simp [hnone] at hb
    · exact hr.nonNull i hb
  · change i ≤ r.uniqueSessionId + 1
    rw [UInt32.le_iff_toNat_le, UInt32.toNat_add, UInt32.toNat_one, Nat.mod_eq_of_lt hlt]
    rcases mem_sessions_insertIfNew.mp hc with ⟨-, rfl⟩ | hc
    · rw [UInt32.toNat_add, UInt32.toNat_one, Nat.mod_eq_of_lt hlt]
    · have hle := UInt32.le_iff_toNat_le.mp (hr.counted i c hc)
      omega

/-- What `CreateSession` hands out was not in use, and is an idle session of the client now. -/
structure Fresh (client : UInt32) (r r' : RecorderImpl) : Prop where
  unused : ∀ c, r'.uniqueSessionId ∉ r.sessions c
  registered : r'.uniqueSessionId ∈ r'.sessions client
  idle : r'.sessionsState[r'.uniqueSessionId]? = some .idle

theorem fresh_createSession (hr : RegistryInv r) (hlt : r.uniqueSessionId.toNat + 1 < 2 ^ 32)
    (h : r.createSession client = .ok (.noError, r')) : Fresh client r r' := by
  rcases createSession_cases h with ⟨hne, -⟩ | ⟨hv, rfl⟩
  · exact absurd rfl hne
  have hnew : ∀ c, r.uniqueSessionId + 1 ∉ r.sessions c := fun c => hr.not_mem_next hlt
  refine ⟨hnew, mem_sessions_insertIfNew.mpr (.inl ⟨rfl, rfl⟩), ?_⟩
  have hnone : r.sessionsState[r.uniqueSessionId + 1]? = none := by
    apply Std.ExtTreeMap.getElem?_eq_none
    rw [hr.states]
    rintro ⟨c, hc⟩
    exact hnew c hc
  change (r.sessionsState.insertIfNew (r.uniqueSessionId + 1) .idle)[r.uniqueSessionId + 1]? = _
  rw [Library.OrdMap.getElem?_emplace, if_pos rfl, hnone]
  rfl

theorem numSessions_eq_zero (h : r.numSessions = 0) : i ∉ r.sessions c := by
  intro hi
  cases hc : r.clientSessionMap[c]? with
  | none => simp [sessions, hc] at hi
  | some ts =>
    have hi : i ∈ ts := by simpa [sessions, hc] using hi
    have hsize : ts.size = 0 := by
      apply List.sum_eq_zero_iff_forall_eq_nat.mp h
      apply List.mem_map.mpr
      exact ⟨(c, ts), Std.ExtTreeMap.mem_toList_iff_getElem?_eq_some.mpr hc, rfl⟩
    rw [← Std.ExtTreeMap.eq_empty_iff_size_eq_zero] at hsize
    exact Std.ExtTreeMap.not_mem_empty (hsize ▸ hi)

theorem mem_sessions_withoutSession {n : UInt32} :
    i ∈ (r.withoutSession client session n).sessions c ↔
      ¬ (client = c ∧ session = i) ∧ i ∈ r.sessions c := by
  change i ∈ (r.updateSessions client fun m => m.erase session).sessions c ↔ _
  rw [sessions_updateSessions]
  split
  · rw [Std.ExtTreeMap.mem_erase, Std.compare_ne_eq_iff_ne] at *
    tauto
  · tauto

theorem registryInv_deleteSession (hr : RegistryInv r)
    (h : r.deleteSession client session = .ok (st, r')) : RegistryInv r' := by
  rcases deleteSession_cases h with ⟨-, rfl, -⟩ | ⟨-, hv, -, n, rfl, hn⟩
  · exact hr
  have hs := isSessionValid_iff.mp hv
  -- the session is nobody else's, so it is gone from every client
  have hgone : ∀ i, (∃ c, i ∈ (r.withoutSession client session n).sessions c) ↔
      session ≠ i ∧ ∃ c, i ∈ r.sessions c := by
    intro i
    constructor
    · rintro ⟨c, hc⟩
      obtain ⟨hne, hc⟩ := mem_sessions_withoutSession.mp hc
      refine ⟨?_, c, hc⟩
      rintro rfl
      exact hne ⟨hr.oneClient session client c hs hc, rfl⟩
    · rintro ⟨hne, c, hc⟩
      exact ⟨c, mem_sessions_withoutSession.mpr ⟨fun h => hne h.2, hc⟩⟩
  refine ⟨⟨fun i => ?_, fun i => ?_, fun i c c' hc hc' => ?_, fun i hb => ?_⟩, fun i c hc => ?_⟩
  · rw [hgone, ← hr.states]
    simp [withoutSession, Std.ExtTreeMap.mem_erase]
  · rw [hgone, ← hr.mutexes]
    simp [withoutSession, Std.ExtTreeMap.mem_erase]
  · exact hr.oneClient i c c' (mem_sessions_withoutSession.mp hc).2
      (mem_sessions_withoutSession.mp hc').2
  · simp only [withoutSession, Std.ExtTreeMap.getElem?_erase] at hb
    split at hb
    · simp at hb
    · exact hr.nonNull i hb
  · rcases hn with rfl | ⟨-, h0⟩
    · exact hr.counted i c (mem_sessions_withoutSession.mp hc).2
    · exact absurd hc (numSessions_eq_zero h0)

/-! ### Departures -/

theorem keepsSessions_deleteTrack {q : UInt32 × TrackInfo}
    (h : deleteTrack remoteCb m client session r q = .ok r') : KeepsSessions r r' := by
  rcases deleteTrack_cases h with ⟨rfl, -⟩ | ⟨i, f, ht, rfl⟩ | ⟨i, f, ht, rfl⟩
  · exact .refl
  · exact keepsSessions_updateTracks (isSessionValid_iff.mp (isSessionValid_of_track ht))
      rfl rfl rfl rfl
  · exact keepsSessions_withoutVideoTrack (isSessionValid_of_track ht)

theorem registryInv_cleanupSession {p : UInt32 × TrackInfoMap} (hr : RegistryInv r)
    (hp : p.1 ∈ r.sessions client) (h : cleanupSession remoteCb m client r p = .ok r') :
    RegistryInv r' := by
  obtain ⟨⟨st₁, r₁⟩, h₁, h⟩ := Library.bind_eq_ok_iff.mp h
  obtain ⟨r₂, h₂, h⟩ := Library.bind_eq_ok_iff.mp h
  obtain ⟨⟨st₃, r₃⟩, h₃, h⟩ := Library.bind_eq_ok_iff.mp h
  obtain rfl := by simpa using h
  have hstop : KeepsSessions r r₁ :=
    keepsSessions_stopSession hr (fun c hc => hr.oneClient _ c client hc hp) h₁
  have hdel : KeepsSessions r₁ r₂ := Library.foldlM_rel (R := KeepsSessions)
    (fun _ => .refl) (fun _ _ _ => .trans) (fun _ _ _ => keepsSessions_deleteTrack) h₂
  exact registryInv_deleteSession ((hstop.trans hdel).registryInv hr) h₃

theorem registryInv_cleanupSessions {ps : List (UInt32 × TrackInfoMap)} (hr : RegistryInv r)
    (hnd : (ps.map Prod.fst).Nodup) (hps : ∀ p ∈ ps, p.1 ∈ r.sessions client)
    (h : ps.foldlM (cleanupSession remoteCb m client) r = .ok r') : RegistryInv r' := by
  induction ps generalizing r with
  | nil =>
    obtain rfl : r = r' := by simpa [pure, Except.pure] using h
    exact hr
  | cons p ps ih =>
    rw [List.foldlM_cons, Library.bind_eq_ok_iff] at h
    obtain ⟨r₁, h₁, h⟩ := h
    obtain ⟨hp, hnd⟩ := List.nodup_cons.mp hnd
    have hmem := hps p (by simp)
    refine ih (registryInv_cleanupSession hr hmem h₁) hnd (fun q hq => ?_) h
    -- the sessions still to come are those of the list the loop started with
    have hne : p.1 ≠ q.1 := fun heq => hp (heq ▸ List.mem_map_of_mem hq)
    have hq := hps q (List.mem_cons_of_mem _ hq)
    rw [Std.ExtTreeMap.mem_iff_isSome_getElem?] at hq ⊢
    rwa [confined_cleanupSession hmem h₁ client q.1 fun hs => hne hs.2]

theorem keepsSessions_forceReturnBuffers (h : r.forceReturnBuffers m client = .ok r') :
    KeepsSessions r r' := by
  unfold forceReturnBuffers at h
  have hkeep : KeepsSessions r (r.updateCameras client id) := keepsSessions_of_eq rfl rfl rfl rfl
  apply hkeep.trans
  refine Library.foldlM_rel (R := KeepsSessions) (fun _ => .refl) (fun _ _ _ => .trans) ?_ h
  intro a cam b hb
  obtain ⟨_, -, hb⟩ := Library.bind_eq_ok_iff.mp hb
  obtain rfl := by simpa using hb
  exact keepsSessions_of_eq rfl rfl rfl rfl

/-- A client without sessions can be forgotten. -/
theorem keepsSessions_eraseClient (he : r.sessions client = ∅)
    (hm : r'.clientSessionMap = r.clientSessionMap.erase client)
    (hst : r'.sessionsState = r.sessionsState) (hmu : r'.sessionsMutexMap = r.sessionsMutexMap)
    (hid : r'.uniqueSessionId = r.uniqueSessionId) : KeepsSessions r r' where
  sessions i c := by
    by_cases hc : client = c
    · subst hc
      rw [he]
      simp [RecorderImpl.sessions, hm]
    · simp [RecorderImpl.sessions, hm, Std.ExtTreeMap.getElem?_erase, hc]
  states i := by rw [hst]
  mutexes := hmu
  counter := hid

theorem registryInv_deRegisterClient {force : Bool} (hr : RegistryInv r)
    (hd : force = true → ∀ i t info, r.track client i t = some info → m.deletes info = true)
    (h : r.deRegisterClient remoteCb m client force = .ok (st, r')) : RegistryInv r' := by
  unfold deRegisterClient at h
  split at h
  · exact eq_of_ok h ▸ hr
  split at h
  · dsimp only at h
    split at h <;> obtain ⟨-, rfl⟩ := by simpa using h
    all_goals
      refine KeepsSessions.registryInv ?_ hr
      exact keepsSessions_of_eq rfl rfl rfl rfl
  next hv hforce =>
  obtain ⟨r₁, h₁, h⟩ := Library.bind_eq_ok_iff.mp h
  obtain ⟨r₂, h₂, h⟩ := Library.bind_eq_ok_iff.mp h
  obtain ⟨r₃, h₃, h⟩ := Library.bind_eq_ok_iff.mp h
  obtain ⟨-, rfl⟩ := by simpa using h
  have hdead : KeepsSessions r { r with clientState := r.clientState.insert client .dead } :=
    keepsSessions_of_eq rfl rfl rfl rfl
  have hr₁ := (hdead.trans (keepsSessions_forceReturnBuffers h₁)).registryInv hr
  have htrack : ∀ i t info, r₁.track client i t = some info → m.deletes info = true := by
    intro i t info hi
    have he : Edits NoTrack client _ r₁ := edits_forceReturnBuffers h₁
    exact hd (by simpa using hforce) i t info ((he.tracks client i t info hi).resolve_right id)
  have hr₂ : RegistryInv r₂ := by
    refine registryInv_cleanupSessions hr₁ ?_ (fun p hp => ?_) h₂
    · rw [Std.ExtTreeMap.map_fst_toList_eq_keys]
      exact Std.ExtTreeMap.nodup_keys
    · rw [Std.ExtTreeMap.mem_iff_isSome_getElem?,
        Std.ExtTreeMap.mem_toList_iff_getElem?_eq_some.mp hp]
      rfl
  have hcut := stopCameras_of_not_valid (by simp [isClientValid, updateCameras]) h₃
  have hempty := sessions_eq_empty_of_deletes htrack h₂
  refine (keepsSessions_eraseClient hempty ?_ ?_ ?_ ?_).registryInv hr₂
  all_goals
    rw [hcut]
    rfl

theorem sessions_registerClient : (r.registerClient client).sessions c = r.sessions c := by
  unfold registerClient
  split
  · rfl
  · simp only [RecorderImpl.sessions, Library.OrdMap.getElem?_emplace]
    split
    · next hc =>
      cases hs : r.clientSessionMap[c]? <;> simp
    · rfl

theorem keepsSessions_registerClient : KeepsSessions r (r.registerClient client) where
  sessions i c := by rw [sessions_registerClient]
  states i := by
    unfold registerClient
    split <;> rfl
  mutexes := by
    unfold registerClient
    split <;> rfl
  counter := by
    unfold registerClient
    split <;> rfl

theorem registryInv_empty : RegistryInv {} := by
  refine ⟨⟨fun i => ?_, fun i => ?_, fun i c c' hc => ?_, fun i => ?_⟩, fun i c hc => ?_⟩
  all_goals simp_all [RecorderImpl.sessions]

theorem CameraEdit.keepsSessions {cam : UInt32} (h : CameraEdit client cam r r') :
    KeepsSessions r r' := by
  cases h with
  | touched h => exact h ▸ keepsSessions_of_eq rfl rfl rfl rfl
  | joined ho h => exact h ▸ keepsSessions_of_eq rfl rfl rfl rfl
  | opened ho h => exact h ▸ keepsSessions_of_eq rfl rfl rfl rfl
  | left ho h => exact h ▸ keepsSessions_of_eq rfl rfl rfl rfl
  | closed hs h => exact h ▸ keepsSessions_of_eq rfl rfl rfl rfl

end RecorderImpl

/-- Some other client has an entry for the session. -/
def RecorderImpl.sharesSession (r : RecorderImpl) (client session : UInt32) : Bool :=
  r.clientSessionMap.toList.any fun p => p.1 != client && p.2.contains session

/-- The back ends let go of all tracks of the client. -/
def RecorderImpl.deletesTracks (r : RecorderImpl) (m : Media) (client : UInt32) : Bool :=
  (r.sessions client).toList.all fun p => p.2.toList.all fun q => m.deletes q.2

namespace RecorderImpl

variable {r : RecorderImpl} {m : Media} {client session : UInt32}

theorem eq_of_not_sharesSession (h : r.sharesSession client session = false) (c : UInt32)
    (hc : session ∈ r.sessions c) : c = client := by
  by_contra hne
  cases hm : r.clientSessionMap[c]? with
  | none => simp [sessions, hm] at hc
  | some ts =>
    have hts : session ∈ ts := by simpa [sessions, hm] using hc
    have hany : r.sharesSession client session = true := by
      rw [sharesSession, Library.OrdMap.any_toList]
      exact ⟨c, ts, hm, by simp [hne, hts]⟩
    simp [h] at hany

theorem deletes_of_deletesTracks (h : r.deletesTracks m client = true) (i t : UInt32)
    (info : TrackInfo) (hi : r.track client i t = some info) : m.deletes info = true := by
  rw [RecorderImpl.track, tracks] at hi
  cases hts : (r.sessions client)[i]? with
  | none => simp [hts] at hi
  | some ts =>
    rw [hts] at hi
    simp only [deletesTracks, List.all_eq_true, Prod.forall,
      Std.ExtTreeMap.mem_toList_iff_getElem?_eq_some] at h
    exact h i ts hts t info hi

theorem toNat_succ_lt_of_ne (h : r.uniqueSessionId ≠ 0xffffffff) :
    r.uniqueSessionId.toNat + 1 < 2 ^ 32 := by
  have hlt := r.uniqueSessionId.toNat_lt
  have hne : r.uniqueSessionId.toNat ≠ 2 ^ 32 - 1 := fun heq => h (UInt32.toNat_inj.mp heq)
  omega

end RecorderImpl

namespace Service

open RecorderImpl

variable {s t : Service} {a : Request} {as : List Request} {r r' : RecorderImpl}
  {st unset : Status} {f : RecorderImpl → Result} {client : UInt32}

/-- The requests that keep the registry: no new session once the counter is at its end, no start or
stop of a session of another client, and no death of a client whose tracks are not all
deleted, unless it is the last client. -/
def keepsRegistry (s : Service) (a : Request) : Bool :=
  s.recorder.all fun r =>
    match a with
    | .createSession _ => r.uniqueSessionId != 0xffffffff
    | .startSession client session _ => !r.sharesSession client session
    | .stopSession client session _ => !r.sharesSession client session
    | .clientDeath client m =>
      !(s.remoteCbList.contains client && s.remoteCbList.keys.any (· != client)) ||
        r.deletesTracks m client
    | _ => true

def RegistryKept (s : Service) : Prop := ∀ r, s.recorder = some r → RegistryInv r

theorem RegistryKept.onRecorder (hs : RegistryKept s) (h : s.onRecorder unset f = .ok (st, t))
    (hf : ∀ r r' st, s.recorder = some r → RegistryInv r → f r = .ok (st, r') →
      RegistryInv r') : RegistryKept t := by
  obtain rfl | ⟨r, r', st', hr, hok, rfl⟩ := onRecorder_ok h
  · exact hs
  · intro u hu
    obtain rfl := Option.some.inj hu
    exact hf r _ _ hr (hs r hr) hok

theorem RegistryKept.connect {init : Status} (hs : RegistryKept s) :
    RegistryKept (s.connect init).2 := by
  unfold Service.connect
  split
  · exact hs
  · intro r hr
    obtain rfl := Option.some.inj hr
    apply keepsSessions_registerClient.registryInv
    cases hrec : s.recorder with
    | none => exact registryInv_empty
    | some r => exact hs r hrec

theorem RegistryKept.leave {m : Media} {force : Bool} (hl : SameLists s) (hs : RegistryKept s)
    (hd : force = true → ∀ r, s.recorder = some r → client ∈ s.remoteCbList →
      (∃ c ∈ s.remoteCbList, c ≠ client) →
      ∀ i k info, r.track client i k = some info → m.deletes info = true)
    (h : s.leave client m force = .ok (st, t)) : RegistryKept t := by
  obtain rfl | ⟨r, r', st', hr, hc, hdr, rfl⟩ := leave_ok h
  · exact hs
  · intro u hu
    have hother := exists_other_of_forget hl hu
    obtain rfl := recorder_forget hu
    exact registryInv_deRegisterClient (hs r hr) (fun hf => hd hf r hr hc hother) hdr

theorem registryKept_step :
    (lts.guarded fun s a => keepsRegistry s a).TrInv fun s => SameLists s ∧ RegistryKept s := by
  rintro s a t ⟨hstep, hguard⟩ ⟨hl, hs⟩
  refine ⟨sameLists_step _ _ _ hstep hl, ?_⟩
  obtain ⟨st, h⟩ := next_eq_some.mp hstep
  cases a with
  | connect init =>
    obtain rfl : (s.connect init).2 = t := congrArg Prod.snd (Except.ok.inj h)
    exact hs.connect
  | disconnect client => exact hs.leave hl (by simp) h
  | clientDeath client m =>
    refine hs.leave hl (fun _ r hr hc hother i k info hi => ?_) h
    obtain ⟨c, hmem, hne⟩ := hother
    have hany : s.remoteCbList.keys.any (· != client) = true :=
      List.any_eq_true.mpr ⟨c, Std.ExtTreeMap.mem_keys.mpr hmem, by simpa using hne⟩
    have hall : r.deletesTracks m client = true := by
      simpa [keepsRegistry, hr, Std.ExtTreeMap.contains_iff_mem.mpr hc, hany] using hguard
    exact deletes_of_deletesTracks hall i k info hi
  | startCamera client camera slave m =>
    refine hs.onRecorder h fun r r' st hr hinv hf => ?_
    obtain rfl | ⟨-, hcam⟩ := startCamera_cases hf
    · exact hinv
    · exact hcam.keepsSessions.registryInv hinv
  | stopCamera client camera m =>
    refine hs.onRecorder h fun r r' st hr hinv hf => ?_
    obtain rfl | ⟨-, hcam⟩ := stopCamera_cases hf
    · exact hinv
    · exact hcam.keepsSessions.registryInv hinv
  | createSession client =>
    refine hs.onRecorder h fun r r' st hr hinv hf => ?_
    have hne : r.uniqueSessionId ≠ 0xffffffff := by simpa [keepsRegistry, hr] using hguard
    exact registryInv_createSession hinv (toNat_succ_lt_of_ne hne) hf
  | deleteSession client session =>
    exact hs.onRecorder h fun r r' st hr hinv hf => registryInv_deleteSession hinv hf
  | startSession client session m =>
    refine hs.onRecorder h fun r r' st hr hinv hf => ?_
    have hown : r.sharesSession client session = false := by simpa [keepsRegistry, hr] using hguard
    exact (keepsSessions_startSession hinv (eq_of_not_sharesSession hown) hf).registryInv hinv
  | stopSession client session m =>
    refine hs.onRecorder h fun r r' st hr hinv hf => ?_
    have hown : r.sharesSession client session = false := by simpa [keepsRegistry, hr] using hguard
    exact (keepsSessions_stopSession hinv (eq_of_not_sharesSession hown) hf).registryInv hinv
  | pauseSession client session m =>
    refine hs.onRecorder h fun r r' st hr hinv hf => ?_
    obtain rfl : (r.pauseSession m client session).2 = r' := congrArg Prod.snd (Except.ok.inj hf)
    exact (keepsSessions_pauseSession hinv).registryInv hinv
  | resumeSession client session m =>
    refine hs.onRecorder h fun r r' st hr hinv hf => ?_
    obtain rfl : (r.resumeSession m client session).2 = r' := congrArg Prod.snd (Except.ok.inj hf)
    exact (keepsSessions_resumeSession hinv).registryInv hinv
  | createVideoTrack client session track p extra m =>
    refine hs.onRecorder h fun r r' st hr hinv hf => ?_
    split at hf
    · exact eq_of_ok hf ▸ hinv
    · exact (keepsSessions_createVideoTrack hf).registryInv hinv
  | createAudioTrack client session track p m =>
    refine hs.onRecorder h fun r r' st hr hinv hf => ?_
    split at hf
    · exact eq_of_ok hf ▸ hinv
    · exact (keepsSessions_createAudioTrack hf).registryInv hinv
  | deleteVideoTrack client session track m =>
    exact hs.onRecorder h fun r r' st hr hinv hf =>
      (keepsSessions_deleteVideoTrack hf).registryInv hinv
  | deleteAudioTrack client session track m =>
    exact hs.onRecorder h fun r r' st hr hinv hf =>
      (keepsSessions_deleteAudioTrack hf).registryInv hinv
  | cameraResult camera | cameraError camera =>
    refine hs.onRecorder h fun r r' st hr hinv hf => ?_
    obtain ⟨_, -, hf⟩ := Library.bind_eq_ok_iff.mp hf
    exact eq_of_ok hf ▸ hinv

theorem registryKept_initial : SameLists initial ∧ RegistryKept initial :=
  ⟨rfl, fun r hr => by simp [initial] at hr⟩

/-- The registry of the service is coherent. -/
def RegistryCoherent (s : Service) : Prop := ∀ r, s.recorder = some r → Coherent r

/-- A session that `CreateSession` hands out is a fresh one. -/
def CreatesFresh (s : Service) (client : UInt32) : Prop :=
  ∀ r t, s.recorder = some r → s.step (.createSession client) = .ok (.noError, t) →
    ∃ r', t.recorder = some r' ∧ Fresh client r r'

theorem createsFresh_of_keepsRegistry (hs : RegistryKept s)
    (hk : keepsRegistry s (.createSession client) = true) : CreatesFresh s client := by
  intro r t hr h
  simp only [step, Service.onRecorder, hr] at h
  obtain ⟨⟨st, r'⟩, hf, h⟩ := Library.bind_eq_ok_iff.mp h
  obtain ⟨rfl, rfl⟩ : st = .noError ∧ { s with recorder := some r' } = t := by simpa using h
  have hne : r.uniqueSessionId ≠ 0xffffffff := by simpa [keepsRegistry, hr] using hk
  exact ⟨r', rfl, fresh_createSession (hs r hr) (toNat_succ_lt_of_ne hne) hf⟩

/-- In a run whose requests all keep the registry, it is coherent in every state, and every
session that is handed out is new and idle. -/
theorem registry_coherent_of_keepsRegistry
    (h : (lts.guarded fun s a => keepsRegistry s a).MTr initial as s) :
    RegistryCoherent s ∧
      ∀ client, keepsRegistry s (.createSession client) = true → CreatesFresh s client := by
  have hinv := (Library.LTS.inv_of_mTr registryKept_step h registryKept_initial).2
  refine ⟨fun r hr => (hinv r hr).toCoherent, fun client hk => ?_⟩
  exact createsFresh_of_keepsRegistry hinv hk

/-- Two clients with a session each; one of them leaves its track behind when it dies. -/
def twoSessionsRun : List Request :=
  [.connect .noError, .connect .noError, .createSession 1, .createSession 2,
    .createVideoTrack 2 2 5 ⟨0, 640, 480, .avc⟩ {} {}, .startSession 2 2 {}, .startSession 1 1 {},
    .clientDeath 2 {}]

theorem registry_coherent_two_sessions :
    ∃ s, (lts.guarded fun s a => keepsRegistry s a).MTr initial twoSessionsRun s ∧
      (s.recorder.map fun r => r.sessionsState.toList) = some [(1, .active)] ∧
      RegistryCoherent s ∧ CreatesFresh s 1 := by
  have hrun : (Library.LTS.run next initial twoSessionsRun).map (fun s =>
      (s.recorder.map fun r => r.sessionsState.toList, keepsRegistry s (.createSession 1))) =
        some (some [(1, .active)], true) := by decide
  obtain ⟨s, hs, heq⟩ := Option.map_eq_some_iff.mp hrun
  obtain ⟨hstates, hk⟩ := Prod.mk.inj heq
  have hmeets : Library.LTS.Meets next (fun s a => keepsRegistry s a = true) initial
      twoSessionsRun := by decide
  have hmtr := Library.LTS.mTr_guarded_iff.mpr ⟨hs, hmeets⟩
  have hreg := registry_coherent_of_keepsRegistry hmtr
  exact ⟨s, hmtr, hstates, hreg.1, hreg.2 1 hk⟩

/-- Client 2 starts the session of client 1 and gets an entry for it. -/
theorem foreign_start_registers_session :
    ¬ ∀ (as : List Request) (s : Service), lts.MTr initial as s →
      RegistryCoherent s ∧ ∀ client, CreatesFresh s client := by
  intro hall
  have hrun : (Library.LTS.run next initial
      [.connect .noError, .connect .noError, .createSession 1, .startSession 2 1 {}]).bind
        (fun s => s.recorder.map fun r => (r.isSessionValid 1 1, r.isSessionValid 2 1)) =
          some (true, true) := by decide
  obtain ⟨s, hs, hr⟩ := Option.bind_eq_some_iff.mp hrun
  obtain ⟨r, hr, heq⟩ := Option.map_eq_some_iff.mp hr
  obtain ⟨h₁, h₂⟩ := Prod.mk.inj heq
  have hcoh := (hall _ s (Library.LTS.mTr_ofStep_iff.mpr hs)).1 r hr
  have hone := hcoh.oneClient 1 1 2 (isSessionValid_iff.mp h₁) (isSessionValid_iff.mp h₂)
  simp at hone

end Service

end QmmfSdk.Recorder
