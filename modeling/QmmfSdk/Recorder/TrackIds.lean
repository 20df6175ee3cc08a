import QmmfSdk.Recorder.Steps

/-! Service track ids: when the packing of client, session and track id tells tracks apart. -/
namespace QmmfSdk.Recorder

open RecorderImpl

variable {client session track client' session' track' : UInt32}

/-- The three fields of the packed id do not overlap when each has its own bits. -/
theorem getUniqueServiceTrackId_toNat (hc : client < 256) (hs : session < 256)
    (ht : track < 65536) :
    (getUniqueServiceTrackId client session track).toNat =
      2 ^ 24 * client.toNat + (2 ^ 16 * session.toNat + track.toNat) := by
  have hc : client.toNat < 256 := hc
  have hs : session.toNat < 256 := hs
  have ht : track.toNat < 2 ^ 16 := ht
  have hlow : 2 ^ 16 * session.toNat + track.toNat < 2 ^ 24 := by omega
  rw [Nat.two_pow_add_eq_or_of_lt hlow, Nat.two_pow_add_eq_or_of_lt ht]
  have hshiftC : (client <<< 24).toNat = 2 ^ 24 * client.toNat := by
    simp only [UInt32.toNat_shiftLeft, UInt32.reduceToNat, Nat.shiftLeft_eq, Nat.reduceMod]
    omega
  have hshiftS : (session <<< 16).toNat = 2 ^ 16 * session.toNat := by
    simp only [UInt32.toNat_shiftLeft, UInt32.reduceToNat, Nat.shiftLeft_eq, Nat.reduceMod]
    omega
  rw [getUniqueServiceTrackId, UInt32.toNat_or, UInt32.toNat_or, hshiftC, hshiftS, Nat.or_assoc]

theorem getUniqueServiceTrackId_injective (hc : client < 256) (hs : session < 256)
    (ht : track < 65536) (hc' : client' < 256) (hs' : session' < 256) (ht' : track' < 65536)
    (h : getUniqueServiceTrackId client session track =
      getUniqueServiceTrackId client' session' track') :
    client = client' ∧ session = session' ∧ track = track' := by
  have hn := congrArg UInt32.toNat h
  rw [getUniqueServiceTrackId_toNat hc hs ht, getUniqueServiceTrackId_toNat hc' hs' ht'] at hn
  have hs : session.toNat < 256 := hs
  have hs' : session'.toNat < 256 := hs'
  have ht : track.toNat < 65536 := ht
  have ht' : track'.toNat < 65536 := ht'
  refine ⟨UInt32.toNat_inj.mp ?_, UInt32.toNat_inj.mp ?_, UInt32.toNat_inj.mp ?_⟩ <;> omega

namespace Service

variable {s t : Service} {as : List Request}

/-- The mask test of the service only lets 16-bit ids through. -/
theorem lt_of_isTrackIdAccepted (h : isTrackIdAccepted track = true) : track < 65536 := by
  have hmask : track.toNat &&& 2 ^ 16 * (2 ^ 16 - 1) = 0 := by
    simpa [isTrackIdAccepted, ← UInt32.toNat_inj] using h
  by_contra hlt
  have hge : track.toNat ≥ 2 ^ 16 := by simpa [UInt32.lt_iff_toNat_lt] using hlt
  obtain ⟨i, hi, hbit⟩ := Nat.exists_ge_and_testBit_of_ge_two_pow hge
  have hi32 : i < 32 := by
    by_contra h32
    have hsmall : track.toNat < 2 ^ i :=
      Nat.lt_of_lt_of_le track.toNat_lt (Nat.pow_le_pow_right (by omega) (by omega))
    simp [Nat.testBit_lt_two_pow hsmall] at hbit
  -- bit `i` is set both in the id and in the mask
  have hand := congrArg (Nat.testBit · i) hmask
  rw [Nat.testBit_and, hbit, Nat.testBit_two_pow_mul, Nat.testBit_two_pow_sub_one] at hand
  simp at hand
  omega

/-- No two live tracks have the same service track id. -/
def TrackIdsUnique (s : Service) : Prop :=
  ∀ r, s.recorder = some r → ∀ c i k info c' i' k' info', r.track c i k = some info →
    r.track c' i' k' = some info' → info.trackId = info'.trackId → c = c' ∧ i = i' ∧ k = k'

/-- A track is created in an existing session only while the ids of the client and of the
session fit the eight bits that the packing leaves for each. -/
def FitsPacking (s : Service) (a : Request) : Prop :=
  ∀ r, s.recorder = some r → ∀ c i k, a.Creates c i k → r.isSessionValid c i = true →
    c < 256 ∧ i < 256

/-- Every live track carries the id packed from its own key, and its key fits. -/
def Packed (s : Service) : Prop :=
  ∀ r, s.recorder = some r → ∀ c i k info, r.track c i k = some info →
    info.trackId = getUniqueServiceTrackId c i k ∧ c < 256 ∧ i < 256 ∧ k < 65536

theorem packed_initial : Packed initial := by
  intro r hr
  simp [initial] at hr

/-- A recorder without new tracks stays packed. -/
theorem Packed.of_tracks {r r' : RecorderImpl} (h : Packed s) (hr : s.recorder = some r)
    (ht : ∀ u, t.recorder = some u → u = r')
    (hsub : ∀ c i k info, r'.track c i k = some info → r.track c i k = some info) : Packed t := by
  intro u hu c i k info hi
  obtain rfl := ht u hu
  exact h r hr c i k info (hsub c i k info hi)

theorem track_registerClient {r : RecorderImpl} {c i k : UInt32} :
    (r.registerClient client).track c i k = r.track c i k := by
  unfold registerClient
  split
  · rfl
  · simp only [RecorderImpl.track, RecorderImpl.tracks, sessions,
      Library.OrdMap.getElem?_emplace]
    split <;> simp_all

theorem packed_step : (lts.guarded FitsPacking).TrInv Packed := by
  rintro s a t ⟨hstep, hfits⟩ hs
  cases step_effect hstep with
  | none ht => exact ht ▸ hs
  | joined ha ht =>
    intro r hr c i k info hi
    subst ht
    unfold connect at hr
    split at hr
    · exact hs r hr c i k info hi
    · obtain rfl := Option.some.inj hr
      rw [track_registerClient] at hi
      cases hrec : s.recorder with
      | none => simp [hrec, RecorderImpl.track, RecorderImpl.tracks, sessions] at hi
      | some r => exact hs r hrec c i k info (by simpa [hrec] using hi)
  | @left client m force r r' st ha hr hc hd ht =>
    subst ht
    refine hs.of_tracks hr (fun u hu => recorder_forget hu) ?_
    intro c i k info hi
    cases hv : r.isClientValid client with
    | false =>
      obtain rfl : r' = r := eq_of_ok (by simpa [deRegisterClient, hv] using hd)
      exact hi
    | true =>
      cases force with
      | true => exact (removes_deRegisterClient hv hd).tracks c i k info hi
      | false =>
        have hm := (deRegisterClient_voluntary hv hd).1
        simpa [RecorderImpl.track, RecorderImpl.tracks, sessions, hm] using hi
  | @edited client r r' hr ht he hc =>
    subst ht
    intro u hu c i k info hi
    obtain rfl := Option.some.inj hu
    rcases he.tracks c i k info hi with hi | ⟨ha, hv, hk, hid⟩
    · exact hs r hr c i k info hi
    · have hfit := hfits r hr c i k ha hv
      exact ⟨hid, hfit.1, hfit.2, lt_of_isTrackIdAccepted hk⟩
  | @cameras client cam r r' hr ht hc he =>
    subst ht
    refine hs.of_tracks hr (fun u hu => (Option.some.inj hu).symm) ?_
    intro c i k info hi
    cases he <;> (next h => subst h; exact hi)

theorem Packed.unique (h : Packed s) : TrackIdsUnique s := by
  intro r hr c i k info c' i' k' info' hi hi' heq
  obtain ⟨hid, hc, hs, hk⟩ := h r hr c i k info hi
  obtain ⟨hid', hc', hs', hk'⟩ := h r hr c' i' k' info' hi'
  exact getUniqueServiceTrackId_injective hc hs hk hc' hs' hk' (by rw [← hid, ← hid', heq])

/-- Whatever the requests and their order, ids stay unique while every track is created
under client and session ids below 256. -/
theorem trackIds_unique_of_fitsPacking (h : (lts.guarded FitsPacking).MTr initial as t) :
    TrackIdsUnique t :=
  (Library.LTS.inv_of_mTr packed_step h packed_initial).unique

/-- Requests of one client that has a video track in each of two sessions. -/
def twoSessionRun (sessions : Nat) (second : UInt32) : List Request :=
  .connect .noError :: List.replicate sessions (.createSession 1) ++
    [.createVideoTrack 1 1 1 ⟨0, 1920, 1080, .avc⟩ {} {},
      .createVideoTrack 1 second 1 ⟨0, 640, 480, .avc⟩ {} {}]

/-- After a run, the service ids of track 1 in two sessions of client 1. -/
def idsAfter (as : List Request) (session session' : UInt32) : Option (UInt32 × UInt32) := do
  let r ← (← Library.LTS.run next initial as).recorder
  return ((← r.track 1 session 1).trackId, (← r.track 1 session' 1).trackId)

theorem idsAfter_eq_some {i i' id id' : UInt32} (h : idsAfter as i i' = some (id, id')) :
    ∃ t r info info', lts.MTr initial as t ∧ t.recorder = some r ∧
      (r.track 1 i 1 = some info ∧ info.trackId = id) ∧
      (r.track 1 i' 1 = some info' ∧ info'.trackId = id') := by
  simp only [idsAfter, Option.bind_eq_bind, Option.pure_def, Option.bind_eq_some_iff,
    Option.some.injEq, Prod.mk.injEq] at h
  obtain ⟨t, hrun, r, hr, info, hi, info', hi', hid, hid'⟩ := h
  exact ⟨t, r, info, info', Library.LTS.mTr_ofStep_iff.mpr hrun, hr, ⟨hi, hid⟩, ⟨hi', hid'⟩⟩

theorem trackIds_unique_two_sessions :
    idsAfter (twoSessionRun 2 2) 1 2 = some (0x01010001, 0x01020001) ∧
      ∃ t, (lts.guarded FitsPacking).MTr initial (twoSessionRun 2 2) t ∧ TrackIdsUnique t := by
  have hids : idsAfter (twoSessionRun 2 2) 1 2 = some (0x01010001, 0x01020001) := by decide
  obtain ⟨t, -, -, -, hrun, -⟩ := idsAfter_eq_some hids
  have hfits : ∀ a ∈ twoSessionRun 2 2, ∀ s, FitsPacking s a := by
    intro a ha s r _ c i k hcr _
    simp only [twoSessionRun, List.replicate, List.cons_append, List.nil_append, List.mem_cons,
      List.not_mem_nil, or_false] at ha
    rcases ha with rfl | rfl | rfl | rfl | rfl
    · exact hcr.elim
    · exact hcr.elim
    · exact hcr.elim
    · obtain ⟨rfl, rfl, -⟩ := hcr
      decide
    · obtain ⟨rfl, rfl, -⟩ := hcr
      decide
  have hguard := Library.LTS.mTr_guarded_of_forall hrun hfits
  exact ⟨hids, t, hguard, trackIds_unique_of_fitsPacking hguard⟩

/-- Client 1 has opened sessions 1 to `n`, and has no track yet. -/
structure HasOpened (n : Nat) (r : RecorderImpl) : Prop where
  count : r.uniqueSessionId = .ofNat n
  valid : r.isClientValid 1 = true
  session : ∀ i : UInt32, 0 < i.toNat → i.toNat ≤ n → r.isSessionValid 1 i = true
  noTrack : ∀ i k, r.track 1 i k = none

theorem HasOpened.createSession {r : RecorderImpl} {n : Nat} (h : HasOpened n r)
    (hn : n + 1 < 2 ^ 32) :
    ∃ r', r.createSession 1 = .ok (.noError, r') ∧ HasOpened (n + 1) r' := by
  have hcount : r.uniqueSessionId + 1 = .ofNat (n + 1) := by rw [h.count, UInt32.ofNat_add]; rfl
  have hsessions : (r.updateSessions 1 fun m =>
      m.insertIfNew (r.uniqueSessionId + 1) ∅).sessions 1 =
        (r.sessions 1).insertIfNew (r.uniqueSessionId + 1) ∅ := by
    rw [sessions_updateSessions, if_pos rfl]
  unfold RecorderImpl.createSession
  rw [h.valid]
  refine ⟨_, rfl, hcount, by simp [isClientValid, updateSessions], fun i hpos hle => ?_,
    fun i k => ?_⟩
  · refine (congrArg (·.contains i) hsessions).trans (Std.ExtTreeMap.contains_iff_mem.mpr ?_)
    rw [Std.ExtTreeMap.mem_insertIfNew, Std.LawfulEqOrd.compare_eq_iff_eq]
    by_cases hlast : i.toNat = n + 1
    · left
      rw [hcount, ← UInt32.toNat_inj, UInt32.toNat_ofNat_of_lt' hn, hlast]
    · right
      exact Std.ExtTreeMap.contains_iff_mem.mp (h.session i hpos (by omega))
  · have hold : ((r.sessions 1)[i]?.getD ∅)[k]? = none := h.noTrack i k
    refine (congrArg (fun m : SessionTrackMap => (m[i]?.getD ∅)[k]?) hsessions).trans ?_
    rw [Library.OrdMap.getElem?_emplace]
    split <;> simpa using hold

/-- Sessions are numbered in turn, however many there are. -/
theorem HasOpened.run {r : RecorderImpl} {n k : Nat} (h : HasOpened n r)
    (hr : s.recorder = some r) (hk : n + k < 2 ^ 32) :
    ∃ t r', Library.LTS.run next s (.replicate k (.createSession 1)) = some t ∧
      t.recorder = some r' ∧ HasOpened (n + k) r' := by
  induction k generalizing n s r with
  | zero => exact ⟨s, r, rfl, hr, h⟩
  | succ k ih =>
    obtain ⟨r', hcreate, h'⟩ := h.createSession (by omega)
    have hstep : next s (.createSession 1) = some { s with recorder := some r' } := by
      simp only [next, step, onRecorder, hr, hcreate]
      rfl
    obtain ⟨t, u, hrun, hu, hopened⟩ := ih (s := { s with recorder := some r' }) h' rfl (by omega)
    exact ⟨t, u, by rw [List.replicate_succ, Library.LTS.run, hstep]; exact hrun, hu,
      by rwa [Nat.add_right_comm] at hopened⟩

/-- Track 1 of client 1 in a session that has none yet. -/
theorem next_createVideoTrack {r : RecorderImpl} (i width height : UInt32)
    (hr : s.recorder = some r) (hv : r.isClientValid 1 = true)
    (hs : r.isSessionValid 1 i = true) (hfree : r.track 1 i 1 = none) :
    ∃ t r', next s (.createVideoTrack 1 i 1 ⟨0, width, height, .avc⟩ {} {}) = some t ∧
      t.recorder = some r' ∧ r'.isClientValid 1 = true ∧
      (∀ j, r.isSessionValid 1 j = true → r'.isSessionValid 1 j = true) ∧
      ∀ j k, r'.track 1 j k = if i = j ∧ 1 = k then
        some ⟨getUniqueServiceTrackId 1 i 1, .video .avc⟩ else r.track 1 j k := by
  have hnew : r.isTrackValid 1 i 1 = false := by
    rw [isTrackValid, Std.ExtTreeMap.contains_eq_isSome_getElem?]
    exact Option.isSome_eq_false_iff.mpr (Option.isNone_iff_eq_none.mpr hfree)
  obtain ⟨r', hcreate, hr'⟩ : ∃ r', r.createVideoTrack {} 1 i 1 ⟨0, width, height, .avc⟩ {} =
      .ok (.noError, r') ∧ r' = associateTrack { r with
        cameraTracksMap := r.cameraTracksMap.update 0 fun ids =>
          ids.insert (getUniqueServiceTrackId 1 i 1) } 1 i 1 (.video .avc) := by
    unfold createVideoTrack
    rw [hv, hs, hnew]
    exact ⟨_, rfl, rfl⟩
  have hstep : next s (.createVideoTrack 1 i 1 ⟨0, width, height, .avc⟩ {} {}) =
      some { s with recorder := some r' } := by
    simp only [next, step, onRecorder, hr]
    rw [show isTrackIdAccepted 1 = true from rfl, hcreate]
    rfl
  subst hr'
  refine ⟨_, _, hstep, rfl, ?_, fun j hj => ?_, fun j k =>
    (track_associateTrack hfree).trans (by simp only [true_and])⟩
  · simp [isClientValid, associateTrack, updateTracks, updateSessions]
  · have hmem : j ∈ r.sessions 1 := Std.ExtTreeMap.contains_iff_mem.mp hj
    simp only [isSessionValid, associateTrack, updateTracks, sessions_updateSessions, if_true,
      Std.ExtTreeMap.contains_iff_mem, Library.OrdMap.mem_update]
    exact .inr hmem

/-- The two tracks of such a run have the ids packed from their keys. -/
theorem run_twoSessionRun {n : Nat} {i : UInt32} (hn : n < 2 ^ 32) (hone : 1 < i.toNat)
    (hi : i.toNat ≤ n) :
    ∃ t r, Library.LTS.run next initial (twoSessionRun n i) = some t ∧ t.recorder = some r ∧
      r.track 1 1 1 = some ⟨getUniqueServiceTrackId 1 1 1, .video .avc⟩ ∧
      r.track 1 i 1 = some ⟨getUniqueServiceTrackId 1 i 1, .video .avc⟩ := by
  have hne : (1 : UInt32) ≠ i := by
    rintro rfl
    exact absurd hone (by decide)
  have hstart : HasOpened 0 ((initial.connect .noError).2.recorder.getD {}) :=
    ⟨rfl, by decide, fun i hpos hle => by omega, fun i k =>
      track_registerClient.trans (by simp [initial, RecorderImpl.track, tracks, sessions])⟩
  obtain ⟨s, r, hopen, hr, h⟩ := hstart.run (s := (initial.connect .noError).2) (k := n) rfl
    (by omega)
  rw [Nat.zero_add] at h
  obtain ⟨t, r', hfirst, hr', hv, hsessions, htracks⟩ := next_createVideoTrack 1 1920 1080 hr h.valid
    (h.session 1 (by decide) (Nat.le_trans (Nat.le_of_lt hone) hi)) (h.noTrack 1 1)
  have hfree : r'.track 1 i 1 = none := by rw [htracks, if_neg fun h => hne h.1, h.noTrack]
  obtain ⟨u, q, hsecond, hq, -, -, htracks'⟩ := next_createVideoTrack i 640 480 hr' hv
    (hsessions i (h.session i (Nat.lt_trans Nat.zero_lt_one hone) hi)) hfree
  refine ⟨u, q, ?_, hq, ?_, ?_⟩
  · change Library.LTS.run next (initial.connect .noError).2 (.replicate n (.createSession 1) ++ _) = _
    rw [Library.LTS.run_append, hopen]
    simp only [Option.bind_some, Library.LTS.run, hfirst, hsecond]
  · rw [htracks', if_neg fun h => hne h.1.symm, htracks, if_pos ⟨rfl, rfl⟩]
  · rw [htracks', if_pos ⟨rfl, rfl⟩]

/-- Session 257 of client 1 shifts into the bits of the client id, so its track 1 gets the id
of track 1 in session 1. -/
theorem trackIds_collide_at_session_257 :
    ¬ ∀ (as : List Request) (t : Service), lts.MTr initial as t → TrackIdsUnique t := by
  intro hall
  obtain ⟨t, r, hrun, hr, hfirst, hsecond⟩ :=
    run_twoSessionRun (n := 257) (i := 257) (by decide) (by decide) (by decide)
  have hu := hall _ t (Library.LTS.mTr_ofStep_iff.mpr hrun) r hr 1 1 1 _ 1 257 1 _ hfirst hsecond
    (by decide)
  exact absurd hu.2.1 (by decide)

end Service

end QmmfSdk.Recorder
