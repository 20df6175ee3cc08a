import QmmfSdk.Recorder.LinkedFrames
import QmmfSdk.Recorder.Snapshots

/-! The death of a client, as the other clients see it. -/
namespace QmmfSdk.Recorder

open Library (LTS)
open Pipeline (IBufferHandle TrackConfig TrackFlow)

namespace RecorderImpl

variable {r r' r'' : RecorderImpl} {remoteCb : UInt32 → Bool} {m : Media} {st : Status}
  {client session track e i k sid : UInt32}

/-- What the registry has about the sessions of the client `e` stays. -/
structure SparesSessions (e : UInt32) (r r' : RecorderImpl) : Prop where
  sessions : r'.clientSessionMap[e]? = r.clientSessionMap[e]?
  states : ∀ i ∈ r.sessions e, r'.sessionsState[i]? = r.sessionsState[i]?
  mutexes : ∀ i ∈ r.sessions e, r'.sessionsMutexMap[i]? = r.sessionsMutexMap[i]?

theorem SparesSessions.refl : SparesSessions e r r := ⟨rfl, fun _ _ => rfl, fun _ _ => rfl⟩

theorem SparesSessions.sessions_eq (h : SparesSessions e r r') : r'.sessions e = r.sessions e := by
  rw [RecorderImpl.sessions, h.sessions, RecorderImpl.sessions]

theorem SparesSessions.trans (h : SparesSessions e r r') (h' : SparesSessions e r' r'') :
    SparesSessions e r r'' where
  sessions := h'.sessions.trans h.sessions
  states i hi := (h'.states i (h.sessions_eq ▸ hi)).trans (h.states i hi)
  mutexes i hi := (h'.mutexes i (h.sessions_eq ▸ hi)).trans (h.mutexes i hi)

theorem sparesSessions_of_eq (hm : r'.clientSessionMap[e]? = r.clientSessionMap[e]?)
    (hs : r'.sessionsState = r.sessionsState) (hx : r'.sessionsMutexMap = r.sessionsMutexMap) :
    SparesSessions e r r' :=
  ⟨hm, fun _ _ => by rw [hs], fun _ _ => by rw [hx]⟩

theorem sessionsState_stopSession (h : r.stopSession m client session = .ok (st, r'))
    (hne : session ≠ i) : r'.sessionsState[i]? = r.sessionsState[i]? := by
  obtain ⟨r₁, hl, h⟩ := Library.bind_eq_ok_iff.mp h
  obtain ⟨-, rfl⟩ := lockSession_ok hl
  have htouch : ((r.updateTracks client session id).touchSessionState session).sessionsState[i]? =
      r.sessionsState[i]? := by
    rw [touchSessionState, Library.OrdMap.getElem?_emplace, if_neg hne]
    rfl
  dsimp only at h
  split at h
  · exact eq_of_ok h ▸ htouch
  · split at h
    · obtain ⟨-, rfl⟩ := by simpa using h
      rw [setSessionState, Std.ExtTreeMap.getElem?_insert, if_neg (by simpa using hne)]
      exact htouch
    · exact eq_of_ok h ▸ htouch

/-- The stop of a session that `e` does not have. -/
theorem sparesSessions_stopSession (hc : client ≠ e) (hi : session ∉ r.sessions e)
    (h : r.stopSession m client session = .ok (st, r')) : SparesSessions e r r' := by
  have hother : ∀ i ∈ r.sessions e, r'.sessionsState[i]? = r.sessionsState[i]? := fun i hmem =>
    sessionsState_stopSession h fun heq => hi (heq ▸ hmem)
  obtain ⟨-, ss, rfl, -⟩ := stopSession_cases h
  exact ⟨getElem?_updateSessions.trans (if_neg hc), hother, fun _ _ => rfl⟩

theorem sparesSessions_deleteTrack {q : UInt32 × TrackInfo} (hc : client ≠ e)
    (h : deleteTrack remoteCb m client session r q = .ok r') : SparesSessions e r r' := by
  rcases deleteTrack_cases h with ⟨rfl, -⟩ | ⟨i, f, -, rfl⟩ | ⟨i, f, -, rfl⟩
  · exact .refl
  · exact sparesSessions_of_eq (getElem?_updateSessions.trans (if_neg hc)) rfl rfl
  · refine sparesSessions_of_eq ?_ sessionsState_withoutVideoTrack ?_
    · rw [clientSessionMap_withoutVideoTrack]
      exact getElem?_updateSessions.trans (if_neg hc)
    · unfold withoutVideoTrack dropCameraTrack
      split <;> rfl

theorem sparesSessions_deleteSession (hc : client ≠ e) (hi : session ∉ r.sessions e)
    (h : r.deleteSession client session = .ok (st, r')) : SparesSessions e r r' := by
  rcases deleteSession_cases h with ⟨-, rfl, -⟩ | ⟨-, -, -, n, rfl, -⟩
  · exact .refl
  have hne : ∀ i ∈ r.sessions e, compare session i ≠ .eq := by
    intro i hmem heq
    obtain rfl := Std.compare_eq_iff_eq.mp heq
    exact hi hmem
  refine ⟨getElem?_updateSessions.trans (if_neg hc), fun i hmem => ?_, fun i hmem => ?_⟩
  · rw [withoutSession, Std.ExtTreeMap.getElem?_erase, if_neg (hne i hmem)]
  · rw [withoutSession, Std.ExtTreeMap.getElem?_erase, if_neg (hne i hmem)]

end RecorderImpl

open RecorderImpl

namespace Backends

variable {b : Backends} {m : Media} {id k : UInt32} {infos : List TrackInfo} {info : Option TrackInfo}

/-- All that the back ends have about a video track. -/
def entry (b : Backends) (id : UInt32) : Option TrackSource × Bool × Option Bool :=
  (b.source.trackSources[id]?, b.running.contains id, b.trackEncoders[id]?)

theorem entry_stopSource (hne : id ≠ k) : (b.stopSource id).entry k = b.entry k := by
  simp [entry, stopSource, Std.ExtTreeSet.contains_erase, hne]

theorem entry_setEncoder {on : Bool} (hne : id ≠ k) : (b.setEncoder id on).entry k = b.entry k := by
  rw [entry, getElem?_setEncoder, if_neg hne]
  rfl

/-- The stop of tracks that have other ids. -/
theorem entry_stopTracks (h : ∀ f, ⟨k, .video f⟩ ∉ infos) :
    (b.stopTracks m infos).entry k = b.entry k := by
  fun_induction stopTracks m b infos with
  | case1 => rfl
  | case2 => rfl
  | case3 => rfl
  | case4 b id f rest _ _ ih => exact ih fun g hg => h g (List.mem_cons_of_mem _ hg)
  | case5 => rfl
  | case6 b id f rest =>
    exact entry_stopSource fun heq => h f (by simp [heq])
  | case7 b id f rest _ _ _ ih =>
    have hne : id ≠ k := fun heq => h f (by simp [heq])
    rw [ih fun g hg => h g (List.mem_cons_of_mem _ hg), entry_setEncoder hne, entry_stopSource hne]
  | case8 b id f rest _ _ ih =>
    have hne : id ≠ k := fun heq => h f (by simp [heq])
    rw [ih fun g hg => h g (List.mem_cons_of_mem _ hg), entry_stopSource hne]

theorem cameraMap_stopTracks : (b.stopTracks m infos).source.cameraMap = b.source.cameraMap := by
  fun_induction stopTracks m b infos with
  | case1 | case2 | case3 | case5 | case6 => rfl
  | case4 b id f rest _ _ ih => exact ih
  | case7 b id f rest _ _ _ ih => exact ih
  | case8 b id f rest _ _ ih => exact ih

theorem cameraMap_deleteTrack : (b.deleteTrack info).source.cameraMap = b.source.cameraMap := by
  unfold deleteTrack
  split
  · split <;> rfl
  · rfl

theorem entry_deleteTrack (h : ∀ f, info ≠ some ⟨k, .video f⟩) :
    (b.deleteTrack info).entry k = b.entry k := by
  unfold deleteTrack
  split
  · next id f =>
    have hne : id ≠ k := fun heq => h f (by rw [heq])
    split
    · rfl
    · simp only [entry]
      split <;> simp [Std.ExtTreeSet.contains_erase, Std.ExtTreeMap.getElem?_erase, hne]
  · rfl

end Backends

namespace AudioTracks

variable {a : AudioTracks} {b : Backends} {m : Media} {k : UInt32} {infos : List TrackInfo}
  {info : Option TrackInfo}

theorem mem_stopTracks (h : ∀ f, ⟨k, .audio f⟩ ∉ infos) : k ∈ a.stopTracks m b infos ↔ k ∈ a := by
  have herase : ∀ (a : AudioTracks) {id : UInt32}, id ≠ k → (k ∈ a.erase id ↔ k ∈ a) := by
    intro a id hne
    simp [Std.ExtTreeSet.mem_erase, hne]
  fun_induction stopTracks m b a infos with
  | case1 => rfl
  | case2 => rfl
  | case3 a id f rest => exact herase a fun heq => h f (by simp [heq])
  | case4 a id f rest _ _ ih =>
    exact (ih fun g hg => h g (List.mem_cons_of_mem _ hg)).trans
      (herase a fun heq => h f (by simp [heq]))
  | case5 => rfl
  | case6 => rfl
  | case7 a id f rest _ _ ih => exact ih fun g hg => h g (List.mem_cons_of_mem _ hg)

theorem mem_deleteTrack (h : ∀ f, info ≠ some ⟨k, .audio f⟩) :
    k ∈ a.deleteTrack m info ↔ k ∈ a := by
  unfold deleteTrack
  split
  · next id f =>
    have hne : id ≠ k := fun heq => h f (by rw [heq])
    split
    · rfl
    · simp [Std.ExtTreeSet.mem_erase, hne]
  · rfl

end AudioTracks

namespace AvRecorder

variable {s t u : AvRecorder} {remoteCb : UInt32 → Bool} {m : Media} {st : Status}
  {client session e : UInt32}

/-- What the cleanup of the client leaves alone: the sessions of `e`, and every track that has no
service id of the client. -/
structure Spares (client e : UInt32) (s t : AvRecorder) : Prop where
  sessions : SparesSessions e s.media.recorder t.media.recorder
  tracks : SubTracks s.media.recorder t.media.recorder
  video : ∀ id, (∀ i k f, s.media.recorder.track client i k ≠ some ⟨id, .video f⟩) →
    t.media.backends.entry id = s.media.backends.entry id
  audio : ∀ id, (∀ i k f, s.media.recorder.track client i k ≠ some ⟨id, .audio f⟩) →
    (id ∈ t.audio ↔ id ∈ s.audio)
  cameras : t.media.backends.source.cameraMap = s.media.backends.source.cameraMap

theorem Spares.trans (h : Spares client e s t) (h' : Spares client e t u) : Spares client e s u where
  sessions := h.sessions.trans h'.sessions
  tracks := fun c i k info hi => h.tracks c i k info (h'.tracks c i k info hi)
  video id hid := (h'.video id fun i k f ht => hid i k f (h.tracks _ _ _ _ ht)).trans (h.video id hid)
  audio id hid := (h'.audio id fun i k f ht => hid i k f (h.tracks _ _ _ _ ht)).trans (h.audio id hid)
  cameras := h'.cameras.trans h.cameras

/-- A step that touches the registry only. -/
theorem spares_registry {r : RecorderImpl} (h : SparesSessions e s.media.recorder r)
    (hsub : SubTracks s.media.recorder r) :
    Spares client e s { s with media := ⟨r, s.media.backends⟩ } :=
  ⟨h, hsub, fun _ _ => rfl, fun _ _ => .rfl, rfl⟩

theorem spares_stopSession (hc : client ≠ e) (hi : session ∉ s.media.recorder.sessions e)
    (h : s.stopSession m client session = .ok (st, t)) : Spares client e s t := by
  obtain ⟨⟨st', media⟩, hmedia, h⟩ := Library.bind_eq_ok_iff.mp h
  obtain ⟨-, rfl⟩ := Prod.mk.inj (Except.ok.inj h)
  obtain ⟨⟨st'', r⟩, hr, hmedia⟩ := Library.bind_eq_ok_iff.mp hmedia
  obtain ⟨-, rfl⟩ := Prod.mk.inj (Except.ok.inj hmedia)
  refine ⟨sparesSessions_stopSession hc hi hr, subTracks_of_edits (edits_stopSession hr),
    fun id hid => ?_, fun id hid => ?_, ?_⟩
  · dsimp only
    split
    · rfl
    · refine Backends.entry_stopTracks fun f hf => ?_
      obtain ⟨k, ht⟩ := exists_track_of_mem_trackInfos (List.mem_reverse.mp hf)
      exact hid session k f ht
  · dsimp only
    split
    · rfl
    · refine AudioTracks.mem_stopTracks fun f hf => ?_
      obtain ⟨k, ht⟩ := exists_track_of_mem_trackInfos (List.mem_reverse.mp hf)
      exact hid session k f ht
  · dsimp only
    split
    · rfl
    · exact Backends.cameraMap_stopTracks

theorem spares_deleteTrack {q : UInt32 × TrackInfo} (hc : client ≠ e)
    (h : deleteTrack remoteCb m client session s q = .ok t) : Spares client e s t := by
  obtain ⟨media, hmedia, h⟩ := Library.bind_eq_ok_iff.mp h
  obtain rfl := Except.ok.inj h
  obtain ⟨hr, hb⟩ := MediaRecorder.deleteTrack_ok hmedia
  refine ⟨sparesSessions_deleteTrack hc hr, subTracks_deleteTrack hr, fun id hid => ?_, fun id hid =>
    AudioTracks.mem_deleteTrack (hid session q.1), ?_⟩
  · rcases hb with heq | heq
    · rw [heq]
    · rw [heq]
      exact Backends.entry_deleteTrack (hid session q.1)
  · rcases hb with heq | heq
    · rw [heq]
    · rw [heq]
      exact Backends.cameraMap_deleteTrack

theorem spares_cleanupSession {p : UInt32 × TrackInfoMap} (hc : client ≠ e)
    (hp : p.1 ∉ s.media.recorder.sessions e) (h : cleanupSession remoteCb m client s p = .ok t) :
    Spares client e s t := by
  obtain ⟨⟨st₁, s₁⟩, h₁, h⟩ := Library.bind_eq_ok_iff.mp h
  obtain ⟨s₂, h₂, h⟩ := Library.bind_eq_ok_iff.mp h
  obtain ⟨⟨st₃, r⟩, h₃, h⟩ := Library.bind_eq_ok_iff.mp h
  obtain rfl := Except.ok.inj h
  have hstop := spares_stopSession hc hp h₁
  have hdelete : Spares client e s s₂ := Library.foldlM_inv hstop
    (fun a q b _ ha hb => ha.trans (spares_deleteTrack hc hb)) h₂
  have hp₂ : p.1 ∉ s₂.media.recorder.sessions e := by rwa [hdelete.sessions.sessions_eq]
  exact hdelete.trans (spares_registry (sparesSessions_deleteSession hc hp₂ h₃)
    (subTracks_of_edits (edits_deleteSession h₃)))

/-- The cleanup of a client that has no session in common with `e`. -/
theorem spares_forceCleanup (hc : client ≠ e)
    (hi : ∀ i ∈ s.media.recorder.sessions client, i ∉ s.media.recorder.sessions e)
    (h : s.forceCleanup remoteCb m client = .ok t) : Spares client e s t := by
  obtain ⟨r₁, h₁, h⟩ := Library.bind_eq_ok_iff.mp h
  obtain ⟨s₂, h₂, h⟩ := Library.bind_eq_ok_iff.mp h
  obtain ⟨r₃, h₃, h⟩ := Library.bind_eq_ok_iff.mp h
  obtain rfl := Except.ok.inj h
  have hcut := stopCameras_of_not_valid (by simp [isClientValid, updateCameras]) h₃
  subst hcut
  have hmap : r₁.clientSessionMap = s.media.recorder.clientSessionMap := by
    obtain ⟨cams, index, rfl⟩ := forceReturnBuffers_cases h₁
    rfl
  have hstart : Spares client e s { s with
      media := ⟨r₁, s.media.backends⟩
      tracks := s.media.recorder.forceReturnTracks client s.tracks } := by
    refine ⟨?_, fun c i k info hi => by rwa [track_congr hmap] at hi, fun _ _ => rfl,
      fun _ _ => .rfl, rfl⟩
    obtain ⟨cams, index, rfl⟩ := forceReturnBuffers_cases h₁
    exact sparesSessions_of_eq rfl rfl rfl
  have hloop : Spares client e s s₂ := by
    refine Library.foldlM_inv hstart (fun a p b hp ha hb => ha.trans (spares_cleanupSession hc ?_ hb)) h₂
    rw [ha.sessions.sessions_eq]
    refine hi p.1 ?_
    rw [← sessions_congr hmap, Std.ExtTreeMap.mem_iff_isSome_getElem?,
      Std.ExtTreeMap.mem_toList_iff_getElem?_eq_some.mp hp]
    rfl
  refine hloop.trans (spares_registry (sparesSessions_of_eq ?_ rfl rfl) ?_)
  · change (s₂.media.recorder.clientSessionMap.erase client)[e]? = _
    rw [Std.ExtTreeMap.getElem?_erase, if_neg (by simpa using hc)]
  · intro c i k info hi
    rw [track_eraseClient rfl] at hi
    split at hi
    · simp at hi
    · exact hi

end AvRecorder

namespace RecorderImpl

variable {r : RecorderImpl} {c e i k i' k' id : UInt32}

/-- Some track of `c` has the service id of a track of the same type of `e`. -/
def sharesTrack (r : RecorderImpl) (c e : UInt32) : Bool :=
  r.liveTracks.any fun x => x.1.1 == c && r.liveTracks.any fun y =>
    y.1.1 == e && y.2.trackId == x.2.trackId && y.2.isVideo == x.2.isVideo

theorem apart_of_not_sharesTrack {x y : TrackInfo} (h : r.sharesTrack c e = false)
    (hx : r.track c i k = some x) (hy : r.track e i' k' = some y) (hid : y.trackId = x.trackId) :
    y.isVideo ≠ x.isVideo := by
  intro heq
  have hnot := List.any_eq_false.mp h _ (mem_liveTracks hx)
  refine hnot ?_
  simp only [BEq.rfl, Bool.true_and]
  exact List.any_eq_true.mpr ⟨_, mem_liveTracks hy, by simp [hid, heq]⟩

end RecorderImpl

namespace CameraService

variable {s t : CameraService} {a : CameraRequest} {st : Status}

/-- What is about snapshots makes and deletes no track source. -/
theorem trackSources_image (ha : a.isImage = true) (h : s.step a = .ok (st, t)) :
    t.source.trackSources = s.source.trackSources := by
  have howner : ∀ {client camera : UInt32} {f : CameraSource → Except Abort (Status × CameraSource)},
      s.forOwner client camera f = .ok (st, t) →
      (∀ st src, f s.source = .ok (st, src) → src.trackSources = s.source.trackSources) →
        t.source.trackSources = s.source.trackSources := by
    intro client camera f h hf
    rcases forOwner_ok h with rfl | ⟨r, -, ⟨-, rfl⟩ | ⟨src, -, hok, rfl⟩⟩
    · rfl
    · rfl
    · exact hf _ _ hok
  cases a with
  | connect | createSession | startCamera | stopCamera | createVideoTrack => cases ha
  | captureImage client camera numImages submitted =>
    simp only [step, captureImage] at h
    refine howner h fun st src hok => ?_
    unfold CameraSource.captureImage at hok
    split at hok
    · obtain ⟨-, rfl⟩ := Prod.mk.inj (Except.ok.inj hok)
      rfl
    · exact (CameraSource.trackSources_onCamera hok).trans rfl
  | configImageCapture | cancelCaptureImage | setCameraParam =>
    simp only [step, configImageCapture, cancelCaptureImage, setCameraParam] at h
    exact howner h fun st src hok => CameraSource.trackSources_onCamera hok
  | returnImageCaptureBuffer client camera bufferId returned =>
    simp only [step, returnImageCaptureBuffer] at h
    split at h
    · obtain ⟨-, rfl⟩ := Prod.mk.inj (Except.ok.inj h)
      rfl
    · obtain ⟨⟨st', src⟩, hsrc, h⟩ := Library.bind_eq_ok_iff.mp h
      obtain ⟨-, rfl⟩ := Prod.mk.inj (Except.ok.inj h)
      exact CameraSource.trackSources_onCamera hsrc
  | snapshot camera i buffer =>
    simp only [step] at h
    split at h
    · obtain ⟨-, rfl⟩ := Prod.mk.inj (Except.ok.inj h)
      rfl
    next result hresult =>
      obtain ⟨⟨d, u⟩, rfl, h⟩ := Library.bind_eq_ok_iff.mp h
      obtain ⟨-, rfl⟩ := Prod.mk.inj (Except.ok.inj h)
      unfold snapshot at hresult
      split at hresult
      · cases hresult
      split at hresult
      · cases hresult
      dsimp only at hresult
      split at hresult
      · obtain ⟨-, rfl⟩ := Prod.mk.inj (Except.ok.inj (Option.some.inj hresult))
        rfl
      · obtain ⟨bn, -, hok⟩ := Library.bind_eq_ok_iff.mp (Option.some.inj hresult)
        split at hok
        · split at hok
          · cases hok
          split at hok
          · cases hok
          obtain ⟨-, rfl⟩ := Prod.mk.inj (Except.ok.inj hok)
          rfl
        · cases hok
  | lost camera i =>
    obtain ⟨-, rfl⟩ := Prod.mk.inj (Except.ok.inj h)
    rfl

end CameraService

namespace RecorderSystem

variable {s t u : RecorderSystem} {st : Status} {m : Media} {returned : Int32 → Bool}
  {client e : UInt32} {cfg : TrackConfig} {as : List SystemRequest}

/-- What a client has is the same in both states: its sessions with their states and locks, its
tracks with what runs of them, the frames of its raw tracks, and its snapshots. No frame that a raw
track lists as being with it was given back in between, also where it comes from another track. -/
structure Untouched (e : UInt32) (s t : RecorderSystem) : Prop where
  sessions : SparesSessions e s.registry t.registry
  video : ∀ i k id f, s.registry.track e i k = some ⟨id, .video f⟩ →
    t.media.backends.entry id = s.media.backends.entry id
  audio : ∀ i k id f, s.registry.track e i k = some ⟨id, .audio f⟩ → (id ∈ t.audio ↔ id ∈ s.audio)
  frames : ∀ i k id f x, s.registry.track e i k = some ⟨id, .video f⟩ → s.tracks[id]? = some x →
    x.cfg.format.isEncoded = false → t.tracks[id]? = some x
  linked : ∀ i k id f x, s.registry.track e i k = some ⟨id, .video f⟩ → s.tracks[id]? = some x →
    x.cfg.format.isEncoded = false → ∀ h ∈ x.flow.consumed, ∀ master ∈ s.masters id,
      t.givenBack.count (master, h) = s.givenBack.count (master, h)
  snapshots : ∀ h : HeldSnapshot, h.client = e → (h ∈ t.snapshots ↔ h ∈ s.snapshots)

/-- Whatever frames `e` has in raw tracks, the tracks that they come from keep them. -/
def keepsLinked (s : RecorderSystem) (client e : UInt32) : Bool :=
  s.registry.liveTracks.all fun y => y.1.1 != e || !y.2.isVideo ||
    (s.tracks[y.2.trackId]?).all fun x => x.cfg.format.isEncoded || x.flow.consumed.all fun h =>
      (s.masters y.2.trackId).all fun master => s.keeps client master h

/-- The death of the client spares `e`: they have no session id in common and no service id, `e`
holds no snapshot among those that the loops over the cameras of the client come to, and no frame
that comes from a track which does not keep it. -/
def spares (s : RecorderSystem) (client e : UInt32) : Bool :=
  (s.registry.sessions client).keys.all (fun i => !(s.registry.sessions e).contains i) &&
    !s.registry.sharesTrack client e &&
    (s.snapshots.all fun h => h.client != e || !(s.registry.cameras client).contains h.camera ||
      !s.media.backends.source.returnsFirst h.camera h.fd) &&
    s.keepsLinked client e

/-- Every source object is one of the camera source, and every snapshot that is held is listed. -/
structure Settled (s : RecorderSystem) : Prop where
  unqueued : s.tracks.Unqueued
  sources : ∀ id ∈ s.tracks, id ∈ s.media.backends.source.trackSources
  listed : ∀ h ∈ s.snapshots, s.media.backends.source.lists h.camera h.fd = true

theorem settled_settle (h : s.tracks.Unqueued) : Settled (s.settle cfg) where
  unqueued id x hx hraw := by
    simp only [settle, dropReturned, openTracks, Std.ExtTreeMap.getElem?_map,
      Option.map_eq_some_iff] at hx
    obtain ⟨src, -, rfl⟩ := hx
    cases hold : s.tracks[id]? with
    | none => simp
    | some y =>
      rw [hold, Option.getD_some] at hraw
      exact h id y hold hraw
  sources id hid := by simpa [settle, dropReturned, openTracks] using hid
  listed h hh := by
    simp only [settle, dropReturned, List.mem_filter] at hh
    exact hh.2

theorem rests_tracksAfter {a : Request} (k : UInt32) :
    ∃ C, OpenTracks.Rests C s.tracks (s.tracksAfter a) k := by
  unfold tracksAfter
  split
  · split
    · exact ⟨True, .refl⟩
    · exact ⟨_, OpenTracks.rests_stopTracks⟩
  · exact ⟨True, .refl⟩

theorem unqueued_onMedia {a : MediaRequest} (h : s.onMedia a returned = .ok (st, t))
    (hs : s.tracks.Unqueued) : t.tracks.Unqueued := by
  unfold onMedia at h
  split at h
  · unfold clientDeath at h
    split at h
    · obtain ⟨-, rfl⟩ := Prod.mk.inj (Except.ok.inj h)
      exact hs
    dsimp only at h
    split at h
    · obtain ⟨-, rfl⟩ := Prod.mk.inj (Except.ok.inj h)
      exact hs
    split at h
    · obtain ⟨-, rfl⟩ := Prod.mk.inj (Except.ok.inj h)
      exact hs
    split at h
    · obtain ⟨-, rfl⟩ := Prod.mk.inj (Except.ok.inj h)
      exact hs
    · obtain ⟨source, -, h⟩ := Library.bind_eq_ok_iff.mp h
      obtain ⟨v, hv, h⟩ := Library.bind_eq_ok_iff.mp h
      obtain ⟨-, rfl⟩ := Prod.mk.inj (Except.ok.inj h)
      exact (OpenTracks.unqueued_forceReturnTracks hs).rests fun k =>
        ⟨_, AvRecorder.waits_forceCleanup hv k⟩
  · obtain ⟨⟨st', media⟩, -, h⟩ := Library.bind_eq_ok_iff.mp h
    obtain ⟨-, rfl⟩ := Prod.mk.inj (Except.ok.inj h)
    exact hs.rests rests_tracksAfter

theorem next_eq_some {a : SystemRequest} : s.next a = some t ↔ ∃ st, s.step a = .ok (st, t) := by
  unfold next
  split <;> simp_all

theorem settled_step : lts.TrInv Settled := by
  rintro s a t hstep hs
  obtain ⟨st, h⟩ := next_eq_some.mp hstep
  cases a with
  | media a cfg returned =>
    obtain ⟨⟨st', u⟩, hu, h⟩ := Library.bind_eq_ok_iff.mp h
    obtain ⟨-, rfl⟩ := Prod.mk.inj (Except.ok.inj h)
    exact settled_settle (unqueued_onMedia hu hs.unqueued)
  | image a =>
    obtain ⟨⟨st', u⟩, hu, h⟩ := Library.bind_eq_ok_iff.mp h
    obtain ⟨-, rfl⟩ := Prod.mk.inj (Except.ok.inj h)
    obtain ⟨⟨st'', media⟩, hmedia, hu⟩ := Library.bind_eq_ok_iff.mp hu
    obtain ⟨-, rfl⟩ := Prod.mk.inj (Except.ok.inj hu)
    obtain ⟨⟨st₃, c⟩, hc, hmedia⟩ := Library.bind_eq_ok_iff.mp hmedia
    obtain ⟨-, rfl⟩ := Prod.mk.inj (Except.ok.inj hmedia)
    refine ⟨hs.unqueued, fun id hid => ?_, fun h hh => (List.mem_filter.mp hh).2⟩
    have hsources := CameraService.trackSources_image a.2 hc
    exact hsources ▸ hs.sources id hid
  | track id a =>
    simp only [step, onTrack] at h
    split at h
    · obtain ⟨-, rfl⟩ := Prod.mk.inj (Except.ok.inj h)
      exact hs
    next x hx =>
    split at h
    · cases h
    next flow hlive =>
    obtain ⟨-, rfl⟩ := Prod.mk.inj (Except.ok.inj h)
    refine ⟨fun k y hy hraw => ?_, fun k hk => ?_, hs.listed⟩
    · dsimp only at hy
      rw [Std.ExtTreeMap.getElem?_insert] at hy
      split at hy
      · obtain rfl := Option.some.inj hy
        exact TrackFlow.unqueued_live hraw (hs.unqueued id x hx hraw) hlive
      · exact hs.unqueued k y hy hraw
    · rcases Std.ExtTreeMap.mem_insert.mp hk with heq | hk
      · obtain rfl := Std.compare_eq_iff_eq.mp heq
        refine hs.sources id ?_
        rw [Std.ExtTreeMap.mem_iff_isSome_getElem?, hx]
        rfl
      · exact hs.sources k hk

theorem settled_initial : Settled {} :=
  ⟨fun id x hx => by simp at hx, fun id hid => by simp at hid, fun h hh => by simp at hh⟩

theorem Untouched.refl : Untouched e s s :=
  ⟨.refl, fun _ _ _ _ _ => rfl, fun _ _ _ _ _ => .rfl, fun _ _ _ _ _ _ hx _ => hx,
    fun _ _ _ _ _ _ _ _ _ _ _ _ => rfl, fun _ _ => .rfl⟩

/-- What is left to a client stays when the source objects and the snapshots follow the back
ends. -/
theorem Untouched.settle (h : Untouched e s u) (hs : Settled s)
    (hnone : u.media.recorder = none → s.media.recorder = none)
    (hlisted : ∀ h ∈ u.snapshots, h.client = e →
      u.media.backends.source.lists h.camera h.fd = true) : Untouched e s (u.settle cfg) where
  sessions := h.sessions
  video := h.video
  audio i k id f ht := by
    simp only [RecorderSystem.settle, dropReturned, openTracks]
    split
    next hr =>
      have hr : s.media.recorder = none := hnone (Option.isNone_iff_eq_none.mp hr)
      simp [registry, hr, RecorderImpl.track, RecorderImpl.tracks, RecorderImpl.sessions] at ht
    · exact h.audio i k id f ht
  frames i k id f x ht hx hraw := by
    have hid : id ∈ s.tracks := by
      rw [Std.ExtTreeMap.mem_iff_isSome_getElem?, hx]
      rfl
    obtain ⟨src, hsrc⟩ := Option.isSome_iff_exists.mp
      (Std.ExtTreeMap.mem_iff_isSome_getElem?.mp (hs.sources id hid))
    have hentry : u.media.backends.source.trackSources[id]? = some src :=
      (congrArg Prod.fst (h.video i k id f ht)).trans hsrc
    simp [RecorderSystem.settle, dropReturned, openTracks, hentry, h.frames i k id f x ht hx hraw]
  linked := h.linked
  snapshots x hx := by
    simp only [RecorderSystem.settle, dropReturned, openTracks, List.mem_filter, ← h.snapshots x hx,
      and_iff_left_iff_imp]
    exact fun hmem => hlisted x hmem hx

/-- The cleanup of a client, with what the cameras and the tracks get back first. -/
theorem untouched_cleanup {r : RecorderImpl} {source : CameraSource} {v : AvRecorder}
    (hr : s.media.recorder = some r) (hs : Settled s) (hc : client ≠ e)
    (he : e ∈ s.media.service.deathNotifierList) (hspares : s.spares client e = true)
    (hsource : (r.cameras client).keys.foldlM (CameraSource.returnAllImageCaptureBuffers returned)
      s.media.backends.source = .ok source)
    (hv : AvRecorder.forceCleanup s.media.service.remoteCb m
      ⟨⟨r, { s.media.backends with source }⟩, s.audio, s.tracks⟩ client = .ok v) :
    Untouched e s (settle {
      media := MediaService.withService { s.media with backends := v.media.backends }
        (s.media.service.forget v.media.recorder client)
      audio := v.audio
      tracks := v.tracks
      snapshots := s.snapshots.filter (·.client != client)
      givenBack := s.givenBack ++ s.tracks.givenBackSince v.tracks } cfg) := by
  have hregistry : s.registry = r := by rw [registry, hr]; rfl
  simp only [spares, hregistry, Bool.and_eq_true, List.all_eq_true, Bool.not_eq_true'] at hspares
  obtain ⟨⟨⟨hsessions, hshares⟩, hheld⟩, hlinked⟩ := hspares
  have hsp := AvRecorder.spares_forceCleanup hc (fun i hi hmem => by
    have hnot := hsessions i (Std.ExtTreeMap.mem_keys.mpr hi)
    exact absurd (Std.ExtTreeMap.contains_iff_mem.mpr hmem) (by simp [hnot])) hv
  have hlists : ∀ camera fd, source.lists camera fd = true ↔
      s.media.backends.source.lists camera fd = true ∧ (camera ∈ (r.cameras client).keys →
        s.media.backends.source.returnsFirst camera fd = false) := fun camera fd =>
    (CameraSource.lists_returnCameras Std.ExtTreeMap.nodup_keys hsource).2
  have hsources := (@CameraSource.lists_returnCameras _ _ _ 0 0 _ Std.ExtTreeMap.nodup_keys hsource).1
  have hrec : (s.media.service.forget v.media.recorder client).recorder = some v.media.recorder :=
    Service.recorder_forget_of_connected hc he
  have hvideo : ∀ i k id f, r.track e i k = some ⟨id, .video f⟩ → ∀ i' k' g,
      r.track client i' k' ≠ some ⟨id, .video g⟩ := fun i k id f ht i' k' g ht' =>
    apart_of_not_sharesTrack hshares ht' ht rfl rfl
  refine Untouched.settle ⟨?_, fun i k id f ht => ?_, fun i k id f ht => ?_,
    fun i k id f x ht hx hraw => ?_, fun i k id f x ht hx hraw h hh master hmaster => ?_,
    fun x hx => ?_⟩ hs (fun hnone => ?_) fun x hx hxe => ?_
  · have hr : s.media.service.recorder = some r := hr
    simpa [registry, MediaService.recorder, MediaService.withService, hrec, hr] using hsp.sessions
  · rw [hregistry] at ht
    have hentry := hsp.video id (hvideo i k id f ht)
    simpa [MediaService.withService, hrec, Backends.entry, hsources] using hentry
  · rw [hregistry] at ht
    exact hsp.audio id fun i' k' g ht' => apart_of_not_sharesTrack hshares ht' ht rfl rfl
  · rw [hregistry] at ht
    have hnot : id ∉ r.returned client := by
      rw [mem_returned]
      rintro ⟨i', k', g, ht'⟩
      exact hvideo i k id f ht i' k' g ht'
    obtain ⟨n, hn, hawaited⟩ := AvRecorder.waits_forceCleanup hv id
    have hnone : n = 0 := by
      by_contra hne
      obtain ⟨-, i', k', g, -, ht'⟩ := hawaited hne
      exact hvideo i k id f ht i' k' g ht'
    rw [hnone, getElem?_forceReturnTracks_of_nil hx (hs.unqueued id x hx hraw), if_neg hnot] at hn
    exact hn
  · rw [hregistry] at ht
    simp only [keepsLinked, List.all_eq_true, hregistry] at hlinked
    have hkeeps := hlinked _ (mem_liveTracks ht)
    simp only [bne_self_eq_false, TrackInfo.isVideo, Bool.not_true, Bool.false_or, hx,
      Option.all_some, hraw, List.all_eq_true] at hkeeps
    rw [List.count_append, List.count_eq_zero_of_not_mem
      (not_mem_givenBackSince_of_keeps hregistry ⟨rfl, rfl, rfl⟩ hv (hkeeps h hh master hmaster)),
      Nat.add_zero]
  · rw [List.mem_filter, and_iff_left_iff_imp]
    intro _
    simpa [hx] using Ne.symm hc
  · have hnone : (s.media.service.forget v.media.recorder client).recorder = none := hnone
    simp [hrec] at hnone
  · have hmem := (List.mem_filter.mp hx).1
    have hcameras : v.media.backends.source.cameraMap = source.cameraMap := hsp.cameras
    simp only [MediaService.withService, hrec, Option.isNone_some, Bool.false_eq_true, if_false]
    rw [CameraSource.lists, hcameras, ← CameraSource.lists, hlists]
    refine ⟨hs.listed x hmem, fun hcam => ?_⟩
    have hcam : (r.cameras client).contains x.camera = true :=
      Std.ExtTreeMap.contains_iff_mem.mpr (Std.ExtTreeMap.mem_keys.mp hcam)
    simpa [hxe, hcam] using hheld x hmem

def request (a : Request) : SystemRequest := .media ⟨a, {}⟩ { format := .nv12 } fun _ => true

/-- The first client has a camera and a snapshot from it; the second one joins after `joins`. -/
def heldSnapshotRun (joins : List Request) : List SystemRequest :=
  [.connect .noError, .connect .noError, .startCamera 1 0 false {}].map request ++
    joins.map request ++
    [.image ⟨.configImageCapture 1 0 .noError .still [5], rfl⟩, .image ⟨.captureImage 1 0 1 true, rfl⟩,
      .image ⟨.snapshot 0 0 (CameraService.image 7), rfl⟩]

/-- A frame that the encoder of `master` gets, and the client of a raw track linked to it. -/
def linkedFrameRun (master linked : UInt32) : List SystemRequest :=
  [.track master (.act (.addConsumer 1)),
    .track master (.act (.onFrameAvailable { handle := 7, fd := 3 })),
    .track master (.act (.prepare 1)), .track master (.act .link), .track master (.act .linkedFrame),
    .track master (.act .endNotify), .track master (.act .pass),
    .track linked (.act (.onFrameAvailable { handle := 7, fd := 3 })),
    .track linked (.act (.prepare 1)), .track linked (.act .link), .track linked (.act .pass)]

/-- A camera of its own, with an encoded track and a raw one; the first client has an encoded track
and a raw one that is linked to it. -/
def otherCamera : List Request :=
  [.startCamera 2 1 false {}, .createSession 1, .createSession 2,
    .createVideoTrack 1 1 4 ⟨0, 640, 480, .avc⟩ {} {},
    .createVideoTrack 1 1 5 ⟨0, 640, 480, .nv12UBWC⟩ { sourceVideoTrackId := some 4 } {},
    .createVideoTrack 2 2 4 ⟨1, 640, 480, .avc⟩ {} {}, .createVideoTrack 2 2 5 ⟨1, 640, 480, .nv12⟩ {} {},
    .startSession 1 1 {}, .startSession 2 2 {}]

/-- The second client has the frame in a track linked to the encoded track of the first one, whose
stop gives it back. -/
example :
    (LTS.run next {} (([.connect .noError, .connect .noError, .startCamera 1 0 false {},
      .startCamera 2 0 true {}, .createSession 1, .createSession 2,
      .createVideoTrack 1 1 4 ⟨0, 640, 480, .avc⟩ {} {},
      .createVideoTrack 2 2 5 ⟨0, 640, 480, .nv12UBWC⟩ { useLinkedTrackInSlaveMode := some true } {},
      .startSession 1 1 {}, .startSession 2 2 {}] : List Request).map request ++
      linkedFrameRun 0x01010004 0x02020005)).bind (fun s =>
        (s.next (request (.clientDeath 1 {}))).map fun t => (s.keepsLinked 1 2, t.givenBack)) =
      some (false, [(0x01010004, 7)]) := by decide

end RecorderSystem

end QmmfSdk.Recorder
