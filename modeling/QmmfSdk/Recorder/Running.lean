import QmmfSdk.Recorder.BackedTracks

/-! The sources and encoders of the video tracks of an idle session are stopped. -/
namespace QmmfSdk.Recorder

namespace RecorderImpl

variable {r r' : RecorderImpl} {m : Media} {st : Status} {client session track c i k sid : UInt32}
  {P : VideoFormat → Prop}

@[simp] theorem tracks_updateTracks_id :
    (r.updateTracks client session id).tracks c i = r.tracks c i := by
  rw [tracks, updateTracks, sessions_updateSessions]
  split
  · rw [Library.OrdMap.getElem?_update]
    split
    · next hi => simp [tracks, hi]
    · rfl
  · rfl

@[simp] theorem sessionState_touchSessionState :
    (r.touchSessionState session).sessionState session = r.sessionState session := by
  rw [sessionState, touchSessionState, Library.OrdMap.getElem?_emplace, if_pos rfl, sessionState]
  rfl

/-- The lock and the lookup of the state make no session idle and keep what is looked up. -/
theorem looked_up (hl : r.lockSession client session = .ok r') :
    (∀ i : UInt32, (r'.touchSessionState session).sessionsState[i]? = some .idle →
      r.sessionsState[i]? = some .idle) ∧
    (r'.touchSessionState session).sessionState session = r.sessionState session ∧
    (r'.touchSessionState session).tracks client session = r.tracks client session := by
  obtain ⟨-, rfl⟩ := lockSession_ok hl
  exact ⟨fun i hi => idle_touchSessionState hi, sessionState_touchSessionState, tracks_updateTracks_id⟩

/-- A start makes no session idle, and an idle one active when all its tracks are started. -/
theorem startSession_state (h : r.startSession m client session = .ok (st, r')) :
    (∀ i : UInt32, r'.sessionsState[i]? = some .idle → r.sessionsState[i]? = some .idle) ∧
    (r.sessionState session = .idle →
      startAudioTracks m (trackInfos (r.tracks client session)) = .noError →
      startVideoTracks m (trackInfos (r.tracks client session)) = .noError →
      r'.sessionsState[session]? = some .active) := by
  obtain ⟨r₁, hl, h⟩ := Library.bind_eq_ok_iff.mp h
  obtain ⟨htouch, hstate, htracks⟩ := looked_up hl
  dsimp only at h
  rw [hstate, htracks] at h
  split at h
  · next hpause =>
    obtain ⟨-, rfl⟩ := by simpa using h
    exact ⟨fun i hi => htouch i (harmless_resumeSession.idle i hi), fun hidle => by simp [hpause] at hidle⟩
  · next hactive =>
    obtain rfl := eq_of_ok h
    exact ⟨htouch, fun hidle => by simp [hactive] at hidle⟩
  · split at h
    · obtain ⟨-, rfl⟩ := by simpa using h
      exact ⟨fun i hi => htouch i (idle_setSessionState (by simp) hi), fun _ _ _ => by simp [setSessionState]⟩
    · next hfail =>
      obtain rfl := eq_of_ok h
      exact ⟨htouch, fun _ ha hv => absurd ⟨ha, hv⟩ hfail⟩

/-- A stop makes its session idle when all tracks are stopped, and no other. -/
theorem stopSession_state (h : r.stopSession m client session = .ok (st, r'))
    (hi : r'.sessionsState[i]? = some .idle) : r.sessionsState[i]? = some .idle ∨
      session = i ∧ r.sessionState session ≠ .idle ∧
        stopTracks m (trackInfos (r.tracks client session)) = .noError := by
  obtain ⟨r₁, hl, h⟩ := Library.bind_eq_ok_iff.mp h
  obtain ⟨htouch, hstate, htracks⟩ := looked_up hl
  dsimp only at h
  rw [hstate, htracks] at h
  split at h
  · obtain rfl := eq_of_ok h
    exact .inl (htouch i hi)
  next hrunning =>
  split at h
  · next hstopped =>
    obtain ⟨-, rfl⟩ := by simpa using h
    by_cases hs : session = i
    · exact .inr ⟨hs, hrunning, hstopped⟩
    · rw [setSessionState, Std.ExtTreeMap.getElem?_insert, if_neg (by simpa using hs)] at hi
      exact .inl (htouch i hi)
  · obtain rfl := eq_of_ok h
    exact .inl (htouch i hi)

/-- Some video track with the service id, of one of these formats, is in a session that is not
idle. -/
def Busy (r : RecorderImpl) (P : VideoFormat → Prop) (sid : UInt32) : Prop :=
  ∃ c i k f, r.track c i k = some ⟨sid, .video f⟩ ∧ P f ∧ r.sessionsState[i]? ≠ some .idle

theorem Harmless.busy (h : Harmless r r') (hb : r.Busy P sid) : r'.Busy P sid := by
  obtain ⟨c, i, k, f, ht, hf, hi⟩ := hb
  exact ⟨c, i, k, f, (h.tracks c i k sid f).mpr ht, hf, fun hidle => hi (h.idle i hidle)⟩

/-- A loop whose body leaves only with an error ends without one when the body never leaves. -/
theorem overTracks_eq_noError {f : TrackInfo → Option Status} {infos : List TrackInfo}
    (hf : ∀ info, f info ≠ some .noError) :
    overTracks f infos = .noError ↔ ∀ info ∈ infos, f info = none := by
  induction infos with
  | nil => simp [overTracks]
  | cons info rest ih =>
    rw [overTracks, List.forall_mem_cons]
    cases hinfo : f info with
    | none => simp [ih]
    | some st =>
      have hne : st ≠ .noError := fun heq => hf info (heq ▸ hinfo)
      simp [hne]

theorem check_eq_none {next : Option Status} : check st next = none ↔ st = .noError ∧ next = none := by
  unfold check
  split
  · next hne => simp [hne]
  · next heq => simp [not_not.mp heq]

theorem check_ne_noError {next : Option Status} (hnext : next ≠ some .noError) :
    check st next ≠ some .noError := by
  unfold check
  split
  · next hne => simpa using hne
  · exact hnext

/-- The body of the loop that stops a session. -/
def stopTrack (m : Media) (info : TrackInfo) : Option Status :=
  match info.format with
  | .video f => check (m.video.stopTrackSource info.trackId)
      (if f.isEncoded then check (m.video.stopTrackEncoder info.trackId) none else none)
  | .audio f => check (m.audio.stopTrackSource info.trackId)
      (if f ≠ .pcm then check (m.audio.stopTrackEncoder info.trackId) none else none)

theorem stopTrack_of_stopTracks {infos : List TrackInfo} (h : stopTracks m infos = .noError) :
    ∀ info ∈ infos.reverse, stopTrack m info = none := by
  have hne : ∀ info, stopTrack m info ≠ some .noError := by
    intro info
    unfold stopTrack
    split
    all_goals
      apply check_ne_noError
      split
      · exact check_ne_noError (by simp)
      · simp
  exact (overTracks_eq_noError hne).mp h

end RecorderImpl

namespace Backends

open RecorderImpl

variable {b b' b'' : Backends} {m : Media} {sid : UInt32} {f : VideoFormat}
  {infos infos' : List TrackInfo}

/-- Nothing runs in `b'` but what runs in `b` and what belongs to one of the tracks. -/
structure StartsOnly (infos : List TrackInfo) (b b' : Backends) : Prop where
  running : ∀ sid, sid ∈ b'.running → sid ∈ b.running ∨ ∃ f, ⟨sid, .video f⟩ ∈ infos
  encoders : ∀ sid : UInt32, b'.trackEncoders[sid]? = some true →
    b.trackEncoders[sid]? = some true ∨ ∃ f, f.isEncoded = true ∧ ⟨sid, .video f⟩ ∈ infos

theorem StartsOnly.refl : StartsOnly infos b b := ⟨fun _ => .inl, fun _ => .inl⟩

theorem StartsOnly.trans (h : StartsOnly infos b b') (h' : StartsOnly infos b' b'') :
    StartsOnly infos b b'' where
  running sid hs := (h'.running sid hs).elim (h.running sid) .inr
  encoders sid hs := (h'.encoders sid hs).elim (h.encoders sid) .inr

theorem StartsOnly.mono (h : StartsOnly infos b b') (hsub : infos ⊆ infos') :
    StartsOnly infos' b b' where
  running sid hs := (h.running sid hs).imp_right fun ⟨f, hf⟩ => ⟨f, hsub hf⟩
  encoders sid hs := (h.encoders sid hs).imp_right fun ⟨f, he, hf⟩ => ⟨f, he, hsub hf⟩

theorem startsOnly_startSource (hf : ⟨sid, .video f⟩ ∈ infos) :
    StartsOnly infos b (b.startSource sid) where
  running k hk := by
    rw [startSource, Std.ExtTreeSet.mem_insert, Std.compare_eq_iff_eq] at hk
    obtain rfl | hk := hk
    · exact .inr ⟨f, hf⟩
    · exact .inl hk
  encoders _ := .inl

theorem startsOnly_stopSource : StartsOnly infos b (b.stopSource sid) where
  running _ hk := .inl (Std.ExtTreeSet.mem_of_mem_erase hk)
  encoders _ := .inl

theorem getElem?_setEncoder {on : Bool} {k : UInt32} : (b.setEncoder sid on).trackEncoders[k]? =
    if sid = k then (b.trackEncoders[k]?).map fun _ => on else b.trackEncoders[k]? := by
  rw [setEncoder, Std.ExtTreeMap.getElem?_modify]
  simp only [Std.compare_eq_iff_eq]
  split
  · next heq => rw [heq]
  · rfl

theorem startsOnly_setEncoder (he : f.isEncoded = true) (hf : ⟨sid, .video f⟩ ∈ infos) :
    StartsOnly infos b (b.setEncoder sid true) where
  running _ := .inl
  encoders k hk := by
    rw [getElem?_setEncoder] at hk
    split at hk
    · next heq => exact .inr ⟨f, he, heq ▸ hf⟩
    · exact .inl hk

theorem startsOnly_clearEncoder : StartsOnly infos b (b.setEncoder sid false) where
  running _ := .inl
  encoders k hk := by
    rw [getElem?_setEncoder] at hk
    split at hk
    · simp at hk
    · exact .inl hk

theorem startsOnly_startVideoTracks : StartsOnly infos b (b.startVideoTracks infos) := by
  fun_induction startVideoTracks b infos with
  | case1 => exact .refl
  | case2 b id f rest ih => exact ih.mono (List.subset_cons_self _ _)
  | case3 => exact .refl
  | case4 => exact startsOnly_startSource List.mem_cons_self
  | case5 b id f rest _ he _ ih =>
    exact ((startsOnly_startSource List.mem_cons_self).trans
      (startsOnly_setEncoder he List.mem_cons_self)).trans (ih.mono (List.subset_cons_self _ _))
  | case6 b id f rest _ _ ih =>
    exact (startsOnly_startSource List.mem_cons_self).trans (ih.mono (List.subset_cons_self _ _))

theorem startsOnly_stopTracks : StartsOnly [] b (b.stopTracks m infos) := by
  fun_induction stopTracks m b infos with
  | case1 => exact .refl
  | case2 => exact .refl
  | case3 => exact .refl
  | case4 b id f rest _ _ ih => exact ih
  | case5 => exact .refl
  | case6 => exact startsOnly_stopSource
  | case7 b id f rest _ _ _ ih =>
    exact (startsOnly_stopSource.trans startsOnly_clearEncoder).trans ih
  | case8 b id f rest _ _ ih => exact startsOnly_stopSource.trans ih

theorem startsOnly_deleteTrack {info : Option TrackInfo} :
    StartsOnly [] b (b.deleteTrack info) := by
  unfold deleteTrack
  split
  · split
    · exact .refl
    · refine ⟨fun k hk => .inl (Std.ExtTreeSet.mem_of_mem_erase hk), fun k hk => .inl ?_⟩
      dsimp only at hk
      split at hk
      · rw [Std.ExtTreeMap.getElem?_erase] at hk
        split at hk
        · simp at hk
        · exact hk
      · exact hk
  · exact .refl

/-- Stopped: neither the source nor the encoder of the track runs. -/
def Stopped (b : Backends) (sid : UInt32) (f : VideoFormat) : Prop :=
  sid ∉ b.running ∧ (f.isEncoded = true → b.trackEncoders[sid]? ≠ some true)

theorem StartsOnly.stopped (h : StartsOnly [] b b') (hs : b.Stopped sid f) : b'.Stopped sid f where
  left hr := by simpa using (h.running sid hr).resolve_left hs.1
  right he hr := by simpa using (h.encoders sid hr).resolve_left (hs.2 he)

theorem lookup_eq_noError {known : Bool} : lookup known = .noError ↔ known = true := by
  cases known <;> simp [lookup]

theorem stopped_of_stop {b : Backends} (hf : f.isEncoded = false) : (b.stopSource sid).Stopped sid f :=
  ⟨by simp [stopSource], by simp [hf]⟩

theorem stopped_of_stopEncoded {b : Backends} :
    ((b.stopSource sid).setEncoder sid false).Stopped sid f := by
  refine ⟨by simp [stopSource, setEncoder], fun _ => ?_⟩
  rw [getElem?_setEncoder, if_pos rfl]
  simp

/-- Once no track refuses to be stopped, all of them are. -/
theorem stopped_stopTracks {b₀ : Backends} (hb : b₀.SameTracks b)
    (h : ∀ info ∈ infos, stopTrack (b₀.media m) info = none) (hmem : ⟨sid, .video f⟩ ∈ infos) :
    (b.stopTracks m infos).Stopped sid f := by
  induction infos generalizing b with
  | nil => simp at hmem
  | cons info rest ih =>
    obtain ⟨hinfo, hrest⟩ := List.forall_mem_cons.mp h
    obtain ⟨x, g | g⟩ := info
    · obtain ⟨hsource, hencoder⟩ := check_eq_none.mp hinfo
      have hsource : b.isTrackIdValid x = true :=
        hb.isTrackIdValid.trans (lookup_eq_noError.mp hsource)
      cases hg : g.isEncoded with
      | true =>
        rw [hg, if_pos rfl, check_eq_none] at hencoder
        have hencoder : b.isTrackValid x = true :=
          hb.isTrackValid.trans (lookup_eq_noError.mp hencoder.1)
        simp only [stopTracks, hsource, hg, hencoder, Bool.not_true, Bool.false_eq_true, if_false,
          if_true]
        rcases List.mem_cons.mp hmem with heq | hmem
        · obtain ⟨rfl, -⟩ := TrackInfo.mk.inj heq
          exact startsOnly_stopTracks.stopped stopped_of_stopEncoded
        · exact ih ((hb.trans (sameTracks_stopSource)).trans sameTracks_setEncoder) hrest hmem
      | false =>
        simp only [stopTracks, hsource, hg, Bool.not_true, Bool.false_eq_true, if_false]
        rcases List.mem_cons.mp hmem with heq | hmem
        · obtain ⟨rfl, hf⟩ := TrackInfo.mk.inj heq
          obtain rfl := TrackFormat.video.inj hf
          exact startsOnly_stopTracks.stopped (stopped_of_stop hg)
        · exact ih (hb.trans sameTracks_stopSource) hrest hmem
    · obtain ⟨hsource, hencoder⟩ := check_eq_none.mp hinfo
      have hmem : ⟨sid, .video f⟩ ∈ rest := by simpa using hmem
      have hsource : m.audio.stopTrackSource x = .noError := hsource
      have hencoder : ¬ (g ≠ .pcm ∧ m.audio.stopTrackEncoder x ≠ .noError) := by
        rintro ⟨hg, hne⟩
        rw [if_pos hg, check_eq_none] at hencoder
        exact hne hencoder.1
      simp only [stopTracks, hsource, ne_eq, not_true_eq_false, if_false, if_neg hencoder]
      exact ih hb hrest hmem

/-- Every video track has what it needs to start. -/
def startsAll (b : Backends) (infos : List TrackInfo) : Bool :=
  infos.all fun info =>
    match info.format with
    | .video f => b.isTrackIdValid info.trackId && (!f.isEncoded || b.isTrackValid info.trackId)
    | .audio _ => true

/-- There is no video track, or the first one has no source. -/
def startsNone (b : Backends) (infos : List TrackInfo) : Bool :=
  (infos.find? (·.isVideo)).all fun info => !b.isTrackIdValid info.trackId

theorem startVideoTracks_of_startsNone (h : b.startsNone infos = true) :
    b.startVideoTracks infos = b := by
  induction infos with
  | nil => rfl
  | cons info rest ih =>
    obtain ⟨x, g | g⟩ := info
    · have hnone : b.isTrackIdValid x = false := by simpa [startsNone, TrackInfo.isVideo] using h
      simp [startVideoTracks, hnone]
    · exact ih h

/-- The body of the loop that starts the video tracks. -/
def startVideoTrack (m : Media) (info : TrackInfo) : Option Status :=
  match info.format with
  | .video f => check (m.video.startTrackSource info.trackId)
      (if f.isEncoded then check (m.video.startTrackEncoder info.trackId) none else none)
  | .audio _ => none

theorem startVideoTracks_of_startsAll (h : b.startsAll infos = true) :
    RecorderImpl.startVideoTracks (b.media m) infos = .noError := by
  have hne : ∀ info, startVideoTrack (b.media m) info ≠ some .noError := by
    intro info
    unfold startVideoTrack
    split
    · apply check_ne_noError
      split
      · exact check_ne_noError (by simp)
      · simp
    · simp
  refine (overTracks_eq_noError hne).mpr fun info hinfo => ?_
  obtain ⟨x, g | g⟩ := info
  · have hready := List.all_eq_true.mp h _ hinfo
    simp only [Bool.and_eq_true, Bool.or_eq_true, Bool.not_eq_true'] at hready
    refine check_eq_none.mpr ⟨lookup_eq_noError.mpr hready.1, ?_⟩
    split
    · next hg =>
      exact check_eq_none.mpr ⟨lookup_eq_noError.mpr (hready.2.resolve_left (by simp [hg])), rfl⟩
    · rfl
  · rfl

end Backends

namespace RecorderImpl

variable {r : RecorderImpl} {client session c i k sid : UInt32} {f : VideoFormat}

theorem mem_trackInfos (ht : r.track client session k = some ⟨sid, .video f⟩) :
    ⟨sid, .video f⟩ ∈ trackInfos (r.tracks client session) :=
  List.mem_map.mpr ⟨(k, _), Std.ExtTreeMap.mem_toList_iff_getElem?_eq_some.mpr ht, rfl⟩

theorem exists_track_of_mem_trackInfos {info : TrackInfo}
    (h : info ∈ trackInfos (r.tracks client session)) : ∃ k, r.track client session k = some info := by
  obtain ⟨⟨k, _⟩, hmem, rfl⟩ := List.mem_map.mp h
  exact ⟨k, Std.ExtTreeMap.mem_toList_iff_getElem?_eq_some.mp hmem⟩

theorem sessionsState_withoutVideoTrack :
    (r.withoutVideoTrack client session k sid).sessionsState = r.sessionsState := by
  unfold withoutVideoTrack dropCameraTrack
  split <;> rfl

/-- Some video track is registered under the session id. -/
def hasVideo (r : RecorderImpl) (session : UInt32) : Bool :=
  r.liveTracks.any fun e => e.2.isVideo && e.1.2.1 == session

/-- Some other client has a video track under the session id. -/
def othersHaveVideo (r : RecorderImpl) (client session : UInt32) : Bool :=
  r.liveTracks.any fun e => e.2.isVideo && e.1.2.1 == session && e.1.1 != client

theorem hasVideo_of_track (ht : r.track c i k = some ⟨sid, .video f⟩) : r.hasVideo i = true :=
  List.any_eq_true.mpr ⟨_, mem_liveTracks ht, by simp [TrackInfo.isVideo]⟩

theorem eq_of_not_othersHaveVideo (h : r.othersHaveVideo client i = false)
    (ht : r.track c i k = some ⟨sid, .video f⟩) : c = client := by
  have hnot := List.any_eq_false.mp h _ (mem_liveTracks ht)
  simpa [TrackInfo.isVideo] using hnot

end RecorderImpl

namespace MediaRecorder

open RecorderImpl

variable {s t : MediaRecorder} {m : Media} {remoteCb : UInt32 → Bool} {st : Status}
  {client session track : UInt32} {r : RecorderImpl} {b : Backends}

/-- No two video tracks share a service id. -/
def UniqueIds (r : RecorderImpl) : Prop :=
  ∀ c i k c' i' k' id f g, r.track c i k = some ⟨id, .video f⟩ →
    r.track c' i' k' = some ⟨id, .video g⟩ → c = c' ∧ i = i' ∧ k = k'

/-- What runs belongs to a track of a session that is not idle. -/
structure RunsBusy (s : MediaRecorder) : Prop where
  unique : UniqueIds s.recorder
  running : ∀ id, id ∈ s.backends.running → s.recorder.Busy (fun _ => True) id
  encoders : ∀ id : UInt32, s.backends.trackEncoders[id]? = some true →
    s.recorder.Busy (fun f => f.isEncoded = true) id

theorem KeepsVideo.uniqueIds {r r' : RecorderImpl} (h : KeepsVideo r r') (hr : UniqueIds r) :
    UniqueIds r' :=
  fun _ _ _ _ _ _ _ _ _ ht ht' => hr _ _ _ _ _ _ _ _ _ ((h.tracks ..).mp ht) ((h.tracks ..).mp ht')

theorem RunsBusy.harmless (hs : RunsBusy s) (hk : Harmless s.recorder t.recorder)
    (hb : s.backends.StartsOnly [] t.backends) : RunsBusy t where
  unique := KeepsVideo.uniqueIds hk.toKeepsVideo hs.unique
  running id hid := by
    have hid := (hb.running id hid).resolve_right (by simp)
    exact hk.busy (hs.running id hid)
  encoders id hid := by
    have hid := (hb.encoders id hid).resolve_right (by simp)
    exact hk.busy (hs.encoders id hid)

/-- A start that starts all tracks or none. -/
theorem RunsBusy.startSession (hs : RunsBusy s)
    (hall : s.recorder.sessionState session = .idle →
      s.backends.startsNone (trackInfos (s.recorder.tracks client session)) = true ∨
      s.backends.startsAll (trackInfos (s.recorder.tracks client session)) = true ∧
        startAudioTracks m (trackInfos (s.recorder.tracks client session)) = .noError)
    (h : s.startSession m client session = .ok (st, t)) : RunsBusy t := by
  obtain ⟨r, hr, rfl⟩ := startSession_eq_ok h
  obtain ⟨hidle, hactive⟩ := startSession_state hr
  have hk : Harmless s.recorder r := ⟨keepsVideo_startSession hr, hidle⟩
  split
  case isFalse => exact hs.harmless hk .refl
  next hstate =>
  rcases hall hstate with hnone | ⟨hstarts, haudio⟩
  · rw [Backends.startVideoTracks_of_startsNone hnone]
    exact hs.harmless hk .refl
  have hactive := hactive hstate haudio (Backends.startVideoTracks_of_startsAll hstarts)
  have hnew : ∀ P id f, P f → ⟨id, .video f⟩ ∈ trackInfos (s.recorder.tracks client session) →
      r.Busy P id := by
    intro P id f hf hmem
    obtain ⟨k, ht⟩ := exists_track_of_mem_trackInfos hmem
    exact ⟨client, session, k, f, (hk.tracks ..).mpr ht, hf, by simp [hactive]⟩
  have hb : Backends.StartsOnly (trackInfos (s.recorder.tracks client session)) s.backends _ :=
    Backends.startsOnly_startVideoTracks
  refine ⟨KeepsVideo.uniqueIds hk.toKeepsVideo hs.unique, fun id hid => ?_, fun id hid => ?_⟩
  · rcases hb.running id hid with hold | ⟨f, hf⟩
    · exact hk.busy (hs.running id hold)
    · exact hnew _ id f trivial hf
  · rcases hb.encoders id hid with hold | ⟨f, he, hf⟩
    · exact hk.busy (hs.encoders id hold)
    · exact hnew _ id f he hf

/-- A stop that makes the session idle has stopped its tracks, and no other client has one in it. -/
theorem RunsBusy.stopSession (hs : RunsBusy s)
    (hone : s.recorder.othersHaveVideo client session = false)
    (h : s.stopSession m client session = .ok (st, t)) : RunsBusy t := by
  obtain ⟨⟨st', r⟩, hr, h⟩ := Library.bind_eq_ok_iff.mp h
  obtain ⟨-, rfl⟩ := Prod.mk.inj (Except.ok.inj h)
  have hk := keepsVideo_stopSession hr
  split
  · next hidle =>
    refine hs.harmless ⟨hk, fun i hi => ?_⟩ .refl
    exact (stopSession_state hr hi).resolve_right fun hstop => hstop.2.1 hidle
  have hb : Backends.StartsOnly [] s.backends
      (s.backends.stopTracks m (trackInfos (s.recorder.tracks client session)).reverse) :=
    Backends.startsOnly_stopTracks
  -- a track of a session that turns idle has been stopped
  have hbusy : ∀ P id, s.recorder.Busy P id →
      (∀ f, P f → ¬ (s.backends.stopTracks m
        (trackInfos (s.recorder.tracks client session)).reverse).Stopped id f) → r.Busy P id := by
    rintro P id ⟨c, i, k, f, ht, hf, hi⟩ hnot
    refine ⟨c, i, k, f, (hk.tracks ..).mpr ht, hf, fun hidle => ?_⟩
    rcases stopSession_state hr hidle with hold | ⟨rfl, -, hstop⟩
    · exact hi hold
    obtain rfl := eq_of_not_othersHaveVideo hone ht
    exact hnot f hf (Backends.stopped_stopTracks .refl (stopTrack_of_stopTracks hstop)
      (List.mem_reverse.mpr (mem_trackInfos ht)))
  refine ⟨KeepsVideo.uniqueIds hk hs.unique, fun id hid => ?_, fun id hid => ?_⟩
  · have hold := (hb.running id hid).resolve_right (by simp)
    exact hbusy _ id (hs.running id hold) fun f _ hstop => hstop.1 hid
  · have hold := (hb.encoders id hid).resolve_right (by simp)
    exact hbusy _ id (hs.encoders id hold) fun f he hstop => hstop.2 he hid

theorem RunsBusy.deleteVideoTrack (hs : RunsBusy s)
    (h : s.deleteVideoTrack remoteCb m client session track = .ok (st, t)) : RunsBusy t := by
  obtain ⟨hb, hr⟩ := deleteVideoTrack_ok h
  have hstarts : s.backends.StartsOnly [] t.backends := hb ▸ Backends.startsOnly_deleteTrack
  rcases hr with ⟨heq, -⟩ | ⟨x, g, hx, hdel, heq⟩
  · exact hs.harmless (harmless_of_eq (congrArg _ heq) (congrArg _ heq) (congrArg _ heq)) hstarts
  have ht : ∀ c i k, t.recorder.track c i k =
      if client = c ∧ session = i ∧ track = k then none else s.recorder.track c i k := by
    intro c i k
    rw [heq, track_congr clientSessionMap_withoutVideoTrack, track_eraseTrack]
  have hstate : t.recorder.sessionsState = s.recorder.sessionsState := by
    rw [heq, sessionsState_withoutVideoTrack]
  -- the tracks with another service id are still there
  have hbusy : ∀ P id, s.recorder.Busy P id → x ≠ id → t.recorder.Busy P id := by
    rintro P id ⟨c, i, k, f, hk, hf, hi⟩ hne
    refine ⟨c, i, k, f, ?_, hf, by rwa [hstate]⟩
    rw [ht, if_neg]
    · exact hk
    · rintro ⟨rfl, rfl, rfl⟩
      rw [hx] at hk
      exact hne (TrackInfo.mk.inj (Option.some.inj hk)).1
  have hvalid : s.backends.isTrackIdValid x = true := by
    simp only [Media.deletes, TrackBackend.deletes, Bool.and_eq_true, beq_iff_eq] at hdel
    exact Backends.lookup_eq_noError.mp hdel.1
  have hdeleted : t.backends = _ := hb
  rw [hx] at hdeleted
  simp only [Backends.deleteTrack, hvalid, Bool.not_true, Bool.false_eq_true, if_false] at hdeleted
  refine ⟨fun c i k c' i' k' id f g hk hk' => ?_, fun id hid => ?_, fun id hid => ?_⟩
  · rw [ht] at hk hk'
    split at hk
    · simp at hk
    split at hk'
    · simp at hk'
    exact hs.unique _ _ _ _ _ _ _ _ _ hk hk'
  · have hold := (hstarts.running id hid).resolve_right (by simp)
    refine hbusy _ id (hs.running id hold) ?_
    rintro rfl
    simp [hdeleted] at hid
  · have hold := (hstarts.encoders id hid).resolve_right (by simp)
    have hold := hs.encoders id hold
    refine hbusy _ id hold ?_
    rintro rfl
    -- the encoder of the deleted track has gone with it
    obtain ⟨c, i, k, f, hk, hf, -⟩ := hold
    obtain ⟨rfl, rfl, rfl⟩ := hs.unique _ _ _ _ _ _ _ _ _ hx hk
    rw [hx] at hk
    obtain rfl := TrackFormat.video.inj (TrackInfo.mk.inj (Option.some.inj hk)).2
    have hf : g.isEncoded = true := hf
    simp [hdeleted, hf] at hid

/-- A new session is idle, and nothing in it runs. -/
theorem RunsBusy.createSession (hs : RunsBusy ⟨r, b⟩) {r' : RecorderImpl}
    (hnew : r.uniqueSessionId + 1 ∈ r.sessionsState ∨ r.hasVideo (r.uniqueSessionId + 1) = false)
    (h : r.createSession client = .ok (st, r')) : RunsBusy ⟨r', b⟩ := by
  have hk := keepsVideo_createSession h
  have hbusy : ∀ P id, r.Busy P id → r'.Busy P id := by
    rintro P id ⟨c, i, k, f, ht, hf, hi⟩
    refine ⟨c, i, k, f, (hk.tracks ..).mpr ht, hf, ?_⟩
    rcases createSession_cases h with ⟨-, rfl⟩ | ⟨-, rfl⟩
    · exact hi
    dsimp only
    rw [Std.ExtTreeMap.getElem?_insertIfNew]
    split
    · next hcond =>
      obtain ⟨heq, hnone⟩ := hcond
      obtain rfl := Std.compare_eq_iff_eq.mp heq
      rcases hnew with hmem | hnot
      · exact absurd hmem hnone
      · simp [hasVideo_of_track ht] at hnot
    · exact hi
  exact ⟨KeepsVideo.uniqueIds hk hs.unique, fun id hid => hbusy _ id (hs.running id hid),
    fun id hid => hbusy _ id (hs.encoders id hid)⟩

end MediaRecorder

/-- Without a recorder such a request changes nothing. -/
theorem Service.harmless_getD {s t : Service} {st unset : Status} {f : RecorderImpl → Result}
    (h : s.onRecorder unset f = .ok (st, t))
    (hk : ∀ r', t.recorder = some r' → RecorderImpl.Harmless (s.recorder.getD {}) r') :
    RecorderImpl.Harmless (s.recorder.getD {}) (t.recorder.getD {}) := by
  rcases Service.onRecorder_cases h with ⟨-, -, rfl⟩ | ⟨r, r', -, -, rfl⟩
  · exact RecorderImpl.harmless_of_eq rfl rfl rfl
  · exact hk r' rfl

namespace MediaService

open RecorderImpl

variable {s t : MediaService} {a : MediaRequest} {as : List MediaRequest} {st : Status}
  {client session track : UInt32} {m : Media} {p : VideoTrackCreateParam}
  {extra : VideoExtraParam} {ans : CameraContext.StreamAnswers}

/-- What runs belongs to a track of a session that is not idle; without a recorder nothing does. -/
def RunsBusy (s : MediaService) : Prop :=
  MediaRecorder.RunsBusy ⟨s.recorder.getD {}, s.backends⟩

/-- No source and no encoder of a track of an idle session runs. -/
def IdleStopped (s : MediaService) : Prop :=
  ∀ r c i k id f, s.recorder = some r → r.sessionsState[i]? = some .idle →
    r.track c i k = some ⟨id, .video f⟩ →
      id ∉ s.backends.running ∧ s.backends.trackEncoders[id]? ≠ some true

theorem runsBusy_empty : MediaRecorder.RunsBusy ⟨{}, {}⟩ := by
  refine ⟨fun c i k c' i' k' id f g ht => ?_, fun id hid => ?_, fun id hid => ?_⟩
  · simp [RecorderImpl.track, tracks, sessions] at ht
  · have hid : id ∈ (∅ : Std.ExtTreeSet UInt32) := hid
    simp at hid
  · have hid : (∅ : IdMap Bool)[id]? = some true := hid
    simp at hid

theorem RunsBusy.idleStopped (hs : RunsBusy s) : IdleStopped s := by
  intro r c i k id f hr hi ht
  unfold RunsBusy at hs
  rw [hr] at hs
  have hnot : ∀ P, ¬ r.Busy P id := by
    rintro P ⟨c', i', k', g, ht', -, hi'⟩
    obtain ⟨rfl, rfl, rfl⟩ := hs.unique _ _ _ _ _ _ _ _ _ ht ht'
    exact hi' hi
  exact ⟨fun hid => hnot _ (hs.running id hid), fun hid => hnot _ (hs.encoders id hid)⟩

/-- The requests after which everything that runs belongs to a session that is not idle: a new
session has no tracks, a new track has a service id of its own, an idle session starts all its
tracks or none, and no other client has a track in a session that is stopped. Clients do not
die. -/
def keepsStopped (s : MediaService) (a : MediaRequest) : Bool :=
  s.recorder.all fun r =>
    match a.request with
    | .clientDeath .. => false
    | .createSession _ =>
      r.sessionsState.contains (r.uniqueSessionId + 1) || !r.hasVideo (r.uniqueSessionId + 1)
    | .createVideoTrack client session track _ _ _ =>
      !(CameraService.checksTrack r client session track &&
        r.sharesId client session track (getUniqueServiceTrackId client session track))
    | .startSession client session m =>
      let infos := trackInfos (r.tracks client session)
      r.sessionState session != .idle || s.backends.startsNone infos ||
        (s.backends.startsAll infos && RecorderImpl.startAudioTracks m infos == .noError)
    | .stopSession client session _ => !r.othersHaveVideo client session
    | _ => true

theorem runsBusy_onService {request : Request}
    (hk : ∀ u r', s.service.step request = .ok (st, u) → u.recorder = some r' →
      MediaRecorder.RunsBusy ⟨r', s.backends⟩)
    (h : s.onService request = .ok (st, t)) : RunsBusy t := by
  obtain ⟨⟨st', u⟩, hu, h⟩ := Library.bind_eq_ok_iff.mp h
  obtain ⟨rfl, rfl⟩ := Prod.mk.inj (Except.ok.inj h)
  unfold RunsBusy
  cases hr : u.recorder with
  | none => simpa [withService, recorder, hr] using runsBusy_empty
  | some r' => simpa [withService, recorder, hr] using hk u r' hu hr

theorem RunsBusy.harmlessService {request : Request} (hs : RunsBusy s)
    (ha : request.isHarmless = true) (h : s.onService request = .ok (st, t)) : RunsBusy t :=
  runsBusy_onService (fun _ r' hu hr' =>
    MediaRecorder.RunsBusy.harmless hs (Service.harmless_step ha hu r' hr') .refl) h

theorem RunsBusy.onCamera {f : CameraService → Except Abort (Status × CameraService)}
    (h : s.onCamera f = .ok (st, t)) (hs : RunsBusy s)
    (hf : ∀ u, f s.camera = .ok (st, u) →
      Harmless (s.recorder.getD {}) (u.service.recorder.getD {})) : RunsBusy t := by
  obtain ⟨⟨st', u⟩, hu, h⟩ := Library.bind_eq_ok_iff.mp h
  obtain ⟨rfl, rfl⟩ := Prod.mk.inj (Except.ok.inj h)
  exact MediaRecorder.RunsBusy.harmless hs (hf u hu) ⟨fun _ => .inl, fun _ => .inl⟩

theorem RunsBusy.onRecorder {f : MediaRecorder → Except Abort (Status × MediaRecorder)}
    (h : s.onRecorder f = .ok (st, t)) (hs : RunsBusy s)
    (hf : ∀ r u, s.recorder = some r → MediaRecorder.RunsBusy ⟨r, s.backends⟩ →
      f ⟨r, s.backends⟩ = .ok (st, u) → MediaRecorder.RunsBusy u) : RunsBusy t := by
  unfold MediaService.onRecorder at h
  split at h
  · obtain ⟨-, rfl⟩ := Prod.mk.inj (Except.ok.inj h)
    exact hs
  · next r hr =>
    obtain ⟨⟨st', u⟩, hu, h⟩ := Library.bind_eq_ok_iff.mp h
    obtain ⟨rfl, rfl⟩ := Prod.mk.inj (Except.ok.inj h)
    unfold RunsBusy at hs
    rw [hr] at hs
    exact hf r u hr hs hu

theorem RunsBusy.createVideoTrack (hs : RunsBusy s)
    (hone : ∀ r, s.recorder = some r → CameraService.checksTrack r client session track = true →
      r.sharesId client session track (getUniqueServiceTrackId client session track) = false)
    (h : s.createVideoTrack client session track p extra m ans = .ok (st, t)) : RunsBusy t := by
  obtain ⟨⟨hrunning, -⟩, hcases⟩ := createVideoTrack_ok h
  rcases hcases with ⟨henc, hservice⟩ | ⟨r, r', hr, hservice, hnew⟩
  · have hstarts : s.backends.StartsOnly [] t.backends :=
      ⟨fun id hid => .inl (hrunning ▸ hid), fun id hid => .inl (henc ▸ hid)⟩
    refine MediaRecorder.RunsBusy.harmless hs ?_ hstarts
    rcases hservice with heq | ⟨r, tm, hr, heq⟩
    · have hrec : t.recorder = s.recorder := congrArg Service.recorder heq
      rw [hrec]
      exact harmless_of_eq rfl rfl rfl
    · have hrec : t.recorder = some { r with timelapseMode := tm } := congrArg Service.recorder heq
      rw [hrec, hr]
      exact harmless_of_eq rfl rfl rfl
  have hstarts : s.backends.StartsOnly [] t.backends := by
    refine ⟨fun id hid => .inl (hrunning ▸ hid), fun id hid => .inl ?_⟩
    rw [hnew.encoders] at hid
    split at hid
    · rw [Std.ExtTreeMap.getElem?_insertIfNew] at hid
      split at hid
      · simp at hid
      · exact hid
    · exact hid
  have hrec : t.recorder = some r' := congrArg Service.recorder hservice
  unfold RunsBusy at hs ⊢
  rw [hr] at hs
  rw [hrec]
  obtain ⟨hnone, ht⟩ := hnew.registers
  have hfresh : ∀ c i k g, r.track c i k ≠
      some ⟨getUniqueServiceTrackId client session track, .video g⟩ := by
    intro c i k g ht
    obtain ⟨rfl, rfl, rfl⟩ := eq_of_not_sharesId (hone r hr hnew.accepted) ht
    simp [hnone] at ht
  have hstate : r'.sessionsState = r.sessionsState := by
    obtain ⟨tm, rfl⟩ := hnew.recorder
    rfl
  have hbusy : ∀ P id, r.Busy P id → r'.Busy P id := by
    rintro P id ⟨c, i, k, f, hk, hf, hi⟩
    refine ⟨c, i, k, f, ?_, hf, by rwa [hstate]⟩
    rw [ht, if_neg]
    · exact hk
    · rintro ⟨rfl, rfl, rfl⟩
      simp [hnone] at hk
  refine ⟨fun c i k c' i' k' id f g hk hk' => ?_, fun id hid => ?_, fun id hid => ?_⟩
  · rw [Option.getD_some, ht] at hk hk'
    split at hk
    · next heq =>
      obtain ⟨rfl, -⟩ := TrackInfo.mk.inj (Option.some.inj hk)
      split at hk'
      · next heq' => exact ⟨heq.1.symm.trans heq'.1, heq.2.1.symm.trans heq'.2.1,
          heq.2.2.symm.trans heq'.2.2⟩
      · exact absurd hk' (hfresh _ _ _ _)
    · split at hk'
      · obtain ⟨rfl, -⟩ := TrackInfo.mk.inj (Option.some.inj hk')
        exact absurd hk (hfresh _ _ _ _)
      · exact hs.unique _ _ _ _ _ _ _ _ _ hk hk'
  · have hold := (hstarts.running id hid).resolve_right (by simp)
    exact hbusy _ id (hs.running id hold)
  · have hold := (hstarts.encoders id hid).resolve_right (by simp)
    exact hbusy _ id (hs.encoders id hold)

theorem runsBusy_step : (lts.guarded fun s a => keepsStopped s a).TrInv RunsBusy := by
  rintro s ⟨request, stream⟩ t ⟨hstep, hguard⟩ hs
  have hstep : s.next ⟨request, stream⟩ = some t := hstep
  unfold next at hstep
  split at hstep
  case h_2 => simp at hstep
  next st u h =>
  obtain rfl := Option.some.inj hstep
  cases request with
  | connect | disconnect | deleteSession | pauseSession | createAudioTrack
  | deleteAudioTrack | cameraResult | cameraError => exact hs.harmlessService rfl h
  | resumeSession => exact hs.harmlessService rfl (onService_of_resumeSession h)
  | startCamera client camera slave m =>
    refine .onCamera (f := fun c => c.startCamera client camera slave m) h hs fun v hv => ?_
    obtain ⟨⟨st', hservice⟩, -⟩ := CameraService.startCamera_service hv
    exact Service.harmless_getD hservice (Service.harmless_step rfl hservice)
  | stopCamera client camera m =>
    refine .onCamera (f := fun c => c.stopCamera client camera m) h hs fun v hv => ?_
    obtain ⟨⟨st', hservice⟩, -⟩ := CameraService.stopCamera_service hv
    exact Service.harmless_getD hservice (Service.harmless_step rfl hservice)
  | createSession client =>
    refine runsBusy_onService (fun v r' hv hr' => ?_) h
    rcases Service.onRecorder_cases hv with ⟨hnone, -, rfl⟩ | ⟨r, r₁, hr, hok, rfl⟩
    · simp [hnone] at hr'
    obtain rfl := Option.some.inj hr'
    have hr : s.recorder = some r := hr
    unfold RunsBusy at hs
    rw [hr] at hs
    refine hs.createSession ?_ hok
    simpa [keepsStopped, hr] using hguard
  | startSession client session m =>
    refine .onRecorder (f := fun r => r.startSession m client session) h hs
      fun r v hr hs hv => hs.startSession (fun hidle => ?_) hv
    have hidle : r.sessionState session = .idle := hidle
    simpa [keepsStopped, hr, hidle] using hguard
  | stopSession client session m =>
    refine .onRecorder (f := fun r => r.stopSession m client session) h hs
      fun r v hr hs hv => hs.stopSession ?_ hv
    simpa [keepsStopped, hr] using hguard
  | clientDeath client m =>
    have hnone : s.recorder = none := by
      cases hr : s.recorder with
      | none => rfl
      | some r => simp [keepsStopped, hr] at hguard
    have h : s.clientDeath client m = .ok (st, u) := h
    unfold MediaService.clientDeath at h
    rw [hnone] at h
    obtain ⟨-, rfl⟩ := Prod.mk.inj (Except.ok.inj h)
    exact hs
  | createVideoTrack client session track p extra m =>
    refine hs.createVideoTrack (fun r hr hchecks => ?_) h
    simpa [keepsStopped, hr, hchecks] using hguard
  | deleteVideoTrack client session track m =>
    exact .onRecorder
      (f := fun r => r.deleteVideoTrack s.service.remoteCb m client session track) h hs
      fun r v hr hs hv => hs.deleteVideoTrack hv

/-- In a run whose requests all meet the guard, an idle session has no running source or
encoder. -/
theorem idle_stopped_of_keepsStopped
    (h : (lts.guarded fun s a => keepsStopped s a).MTr {} as s) : IdleStopped s :=
  (Library.LTS.inv_of_mTr runsBusy_step h runsBusy_empty).idleStopped

/-- A session with an encoded track is started, paused, resumed and stopped; meanwhile another one
with a copy of the track is started and stopped, which could not be resumed. -/
def stoppedSessionRun : List MediaRequest :=
  [⟨.connect .noError, {}⟩, ⟨.startCamera 1 0 false {}, {}⟩, ⟨.createSession 1, {}⟩,
    ⟨.createSession 1, {}⟩, ⟨.createVideoTrack 1 1 5 ⟨0, 640, 480, .avc⟩ {} {}, {}⟩,
    ⟨.createVideoTrack 1 2 6 ⟨0, 640, 480, .nv12⟩ { sourceVideoTrackId := some 5 } {}, {}⟩,
    ⟨.startSession 1 1 {}, {}⟩, ⟨.pauseSession 1 1 {}, {}⟩, ⟨.resumeSession 1 1 {}, {}⟩,
    ⟨.startSession 1 2 {}, {}⟩, ⟨.stopSession 1 2 {}, {}⟩, ⟨.stopSession 1 1 {}, {}⟩]

theorem idle_stopped_two_sessions :
    ∃ s, (lts.guarded fun s a => keepsStopped s a).MTr {} stoppedSessionRun s ∧
      (s.recorder.map fun r => r.sessionsState.toList) = some [(1, .idle), (2, .idle)] ∧
        IdleStopped s := by
  have hrun : (Library.LTS.run next {} stoppedSessionRun).map (fun s =>
      s.recorder.map fun r => r.sessionsState.toList) =
        some (some [(1, .idle), (2, .idle)]) := by decide
  obtain ⟨s, hs, hstates⟩ := Option.map_eq_some_iff.mp hrun
  have hmeets : Library.LTS.Meets next (fun s a => keepsStopped s a = true) {} stoppedSessionRun := by
    decide
  have hmtr := Library.LTS.mTr_guarded_iff.mpr ⟨hs, hmeets⟩
  exact ⟨s, hmtr, hstates, idle_stopped_of_keepsStopped hmtr⟩

/-- The second of two tracks fails to start, and the first one runs in a session that is idle. -/
theorem failed_start_leaves_track_running :
    ¬ ∀ (as : List MediaRequest) (s : MediaService), lts.MTr {} as s → IdleStopped s := by
  intro hall
  have hrun : (Library.LTS.run next {}
      [⟨.connect .noError, {}⟩, ⟨.startCamera 1 0 false {}, {}⟩, ⟨.createSession 1, {}⟩,
        ⟨.createVideoTrack 1 1 5 ⟨0, 640, 480, .avc⟩ {} {}, {}⟩,
        ⟨.createVideoTrack 1 1 6 ⟨0, 640, 480, .rgb⟩ {} {}, {}⟩,
        ⟨.startSession 1 1 {}, {}⟩]).bind (fun s => s.recorder.map fun r =>
          (r.sessionsState[(1 : UInt32)]?, r.track 1 1 5, s.backends.running.contains 0x01010005)) =
            some (some .idle, some ⟨0x01010005, .video .avc⟩, true) := by decide
  obtain ⟨s, hs, hr⟩ := Option.bind_eq_some_iff.mp hrun
  obtain ⟨r, hr, heq⟩ := Option.map_eq_some_iff.mp hr
  obtain ⟨hidle, heq⟩ := Prod.mk.inj heq
  obtain ⟨htrack, hruns⟩ := Prod.mk.inj heq
  have hstopped := hall _ s (Library.LTS.mTr_ofStep_iff.mpr hs) r 1 1 5 _ _ hr hidle htrack
  exact hstopped.1 (Std.ExtTreeSet.contains_iff_mem.mp hruns)

end MediaService

end QmmfSdk.Recorder
