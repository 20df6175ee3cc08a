import QmmfSdk.Recorder.Running
import QmmfSdk.Recorder.System

/-! The frames of linked tracks when a client dies: the tracks that they come from are emptied, and
encoders come to rest. -/
namespace QmmfSdk.Recorder

open Library (LTS)
open Pipeline (IBufferHandle TrackFlow)
open Pipeline.TrackFlow (Lasts Withholds)

namespace OpenTracks

variable {ts ts' ts'' : OpenTracks} {b : Backends} {m : Media} {k : UInt32} {infos : List TrackInfo}
  {C C' : Prop}

/-- The encoder of a track came to rest some times, and it did so only under a condition. -/
def Rests (C : Prop) (ts ts' : OpenTracks) (k : UInt32) : Prop :=
  ∃ n, ts'[k]? = (ts[k]?).map OpenTrack.portIdle^[n] ∧ (n ≠ 0 → C)

theorem Rests.refl : Rests C ts ts k := ⟨0, by simp, by simp⟩

theorem Rests.trans (h : Rests C ts ts' k) (h' : Rests C ts' ts'' k) : Rests C ts ts'' k := by
  obtain ⟨n, hn, hC⟩ := h
  obtain ⟨n', hn', hC'⟩ := h'
  refine ⟨n' + n, ?_, fun hne => ?_⟩
  · rw [hn', hn, Option.map_map, Function.iterate_add]
  · by_cases h0 : n = 0
    · exact hC' (by omega)
    · exact hC h0

/-- Only encoded tracks queue frames. -/
def Unqueued (ts : OpenTracks) : Prop :=
  ∀ (id : UInt32) x, ts[id]? = some x → x.cfg.format.isEncoded = false →
    x.flow.track.framesReceived = []

/-- An encoder at rest has left nothing queued. -/
theorem Unqueued.rests (h : Unqueued ts) (hrests : ∀ k, ∃ C, Rests C ts ts' k) : Unqueued ts' := by
  intro k y hy hraw
  obtain ⟨C, n, hn, -⟩ := hrests k
  rw [hn] at hy
  obtain ⟨x, hx, rfl⟩ := Option.map_eq_some_iff.mp hy
  cases n with
  | zero => exact h k x hx hraw
  | succ n =>
    rw [Function.iterate_succ_apply']
    rfl

theorem Rests.mono (h : Rests C ts ts' k) (hC : C → C') : Rests C' ts ts' k := by
  obtain ⟨n, hn, h⟩ := h
  exact ⟨n, hn, fun hne => hC (h hne)⟩

/-- A track that the stop of these tracks waits for: it is encoded, and it runs. -/
def Awaited (b : Backends) (infos : List TrackInfo) (k : UInt32) : Prop :=
  k ∈ b.running ∧ ∃ f, f.isEncoded = true ∧ ⟨k, .video f⟩ ∈ infos

theorem Awaited.cons {info : TrackInfo} (h : Awaited b infos k) : Awaited b (info :: infos) k := by
  obtain ⟨hr, f, hf, hmem⟩ := h
  exact ⟨hr, f, hf, List.mem_cons_of_mem _ hmem⟩

theorem Awaited.of_stopSource {id : UInt32} (h : Awaited (b.stopSource id) infos k) :
    Awaited b infos k := ⟨Std.ExtTreeSet.mem_of_mem_erase h.1, h.2⟩

theorem rests_stopEncoded {id : UInt32} {f : VideoFormat} (hf : f.isEncoded = true) :
    Rests (Awaited b (⟨id, .video f⟩ :: infos) k) ts (ts.stopEncoded b id) k := by
  unfold stopEncoded
  split
  next hr =>
    by_cases hk : id = k
    · subst hk
      exact ⟨1, by simp,
        fun _ => ⟨Std.ExtTreeSet.contains_iff_mem.mp hr, f, hf, List.mem_cons_self⟩⟩
    · exact ⟨0, by simp [Std.ExtTreeMap.getElem?_modify, hk], by simp⟩
  next => exact .refl

theorem rests_stopTracks : Rests (Awaited b infos k) ts (ts.stopTracks m b infos) k := by
  fun_induction stopTracks m b ts infos with
  | case1 => exact .refl
  | case2 => exact .refl
  | case3 => exact .refl
  | case4 b ts id f rest _ _ ih => exact ih.mono .cons
  | case5 => exact .refl
  | case6 b ts id f rest _ hf => exact rests_stopEncoded hf
  | case7 b ts id f rest _ hf _ ih =>
    exact (rests_stopEncoded hf).trans (ih.mono fun h => h.of_stopSource.cons)
  | case8 b ts id f rest _ _ ih => exact ih.mono fun h => h.of_stopSource.cons

end OpenTracks

open RecorderImpl

namespace AvRecorder

variable {s t u : AvRecorder} {remoteCb : UInt32 → Bool} {m : Media} {st : Status}
  {client session : UInt32}

/-- A track of the client for which the cleanup waits, if it gets to it. -/
def Awaited (s : AvRecorder) (client id : UInt32) : Prop :=
  id ∈ s.media.backends.running ∧ ∃ i k f, f.isEncoded = true ∧
    s.media.recorder.track client i k = some ⟨id, .video f⟩

/-- What the cleanup of the client does to the frames of tracks: encoders come to rest, of awaited
tracks only. -/
structure Waits (client : UInt32) (s t : AvRecorder) : Prop where
  tracks : SubTracks s.media.recorder t.media.recorder
  starts : Backends.StartsOnly [] s.media.backends t.media.backends
  rests : ∀ id, OpenTracks.Rests (s.Awaited client id) s.tracks t.tracks id

theorem Waits.awaited {id : UInt32} (h : Waits client s t) (ha : t.Awaited client id) :
    s.Awaited client id := by
  obtain ⟨hr, i, k, f, hf, ht⟩ := ha
  exact ⟨by simpa using h.starts.running id hr, i, k, f, hf, h.tracks _ _ _ _ ht⟩

theorem Waits.trans (h : Waits client s t) (h' : Waits client t u) : Waits client s u where
  tracks := fun c i k info hi => h.tracks c i k info (h'.tracks c i k info hi)
  starts := h.starts.trans h'.starts
  rests id := (h.rests id).trans ((h'.rests id).mono h.awaited)

theorem waits_stopSession (h : s.stopSession m client session = .ok (st, t)) :
    Waits client s t := by
  obtain ⟨⟨st', media⟩, hmedia, h⟩ := Library.bind_eq_ok_iff.mp h
  obtain ⟨-, rfl⟩ := Prod.mk.inj (Except.ok.inj h)
  obtain ⟨⟨st'', r⟩, hr, hmedia⟩ := Library.bind_eq_ok_iff.mp hmedia
  obtain ⟨-, rfl⟩ := Prod.mk.inj (Except.ok.inj hmedia)
  refine ⟨subTracks_of_edits (edits_stopSession hr), ?_, fun id => ?_⟩
  · dsimp only
    split
    · exact .refl
    · exact Backends.startsOnly_stopTracks
  · dsimp only
    split
    · exact .refl
    · refine OpenTracks.rests_stopTracks.mono fun ⟨hr, f, hf, hmem⟩ => ?_
      obtain ⟨k, ht⟩ := exists_track_of_mem_trackInfos (List.mem_reverse.mp hmem)
      exact ⟨hr, session, k, f, hf, ht⟩

theorem waits_deleteTrack {q : UInt32 × TrackInfo}
    (h : deleteTrack remoteCb m client session s q = .ok t) : Waits client s t := by
  obtain ⟨media, hmedia, h⟩ := Library.bind_eq_ok_iff.mp h
  obtain rfl := Except.ok.inj h
  obtain ⟨hr, hb⟩ := MediaRecorder.deleteTrack_ok hmedia
  refine ⟨subTracks_deleteTrack hr, ?_, fun id => .refl⟩
  rcases hb with heq | heq
  · rw [heq]
    exact .refl
  · rw [heq]
    exact Backends.startsOnly_deleteTrack

theorem waits_cleanupSession {p : UInt32 × TrackInfoMap}
    (h : cleanupSession remoteCb m client s p = .ok t) : Waits client s t := by
  obtain ⟨⟨st₁, s₁⟩, h₁, h⟩ := Library.bind_eq_ok_iff.mp h
  obtain ⟨s₂, h₂, h⟩ := Library.bind_eq_ok_iff.mp h
  obtain ⟨⟨st₃, r⟩, h₃, h⟩ := Library.bind_eq_ok_iff.mp h
  obtain rfl := Except.ok.inj h
  have hdelete : Waits client s s₂ := Library.foldlM_inv (waits_stopSession h₁)
    (fun a q b _ ha hb => ha.trans (waits_deleteTrack hb)) h₂
  exact hdelete.trans ⟨subTracks_of_edits (edits_deleteSession h₃), .refl, fun _ => .refl⟩

/-- After the buffers are returned by force, the cleanup only waits for encoders. -/
theorem waits_forceCleanup (h : s.forceCleanup remoteCb m client = .ok t) :
    ∀ id, OpenTracks.Rests (s.Awaited client id)
      (s.media.recorder.forceReturnTracks client s.tracks) t.tracks id := by
  obtain ⟨r₁, h₁, h⟩ := Library.bind_eq_ok_iff.mp h
  obtain ⟨s₂, h₂, h⟩ := Library.bind_eq_ok_iff.mp h
  obtain ⟨r₃, -, h⟩ := Library.bind_eq_ok_iff.mp h
  obtain rfl := Except.ok.inj h
  have hloop : Waits client _ s₂ := Library.foldlM_inv
    ⟨fun _ _ _ _ hi => hi, .refl, fun _ => .refl⟩
    (fun a p b _ ha hb => ha.trans (waits_cleanupSession hb)) h₂
  intro id
  refine (hloop.rests id).mono fun ⟨hr, i, k, f, hf, ht⟩ => ⟨hr, i, k, f, hf, ?_⟩
  obtain ⟨cams, index, rfl⟩ := forceReturnBuffers_cases h₁
  exact ht

end AvRecorder

namespace OpenTracks

variable {r : RecorderImpl} {ts ts' : OpenTracks} {x y : OpenTrack} {client id : UInt32}
  {h : IBufferHandle} {C : Prop}

theorem unqueued_forceReturnTracks {r : RecorderImpl} {ts : OpenTracks} (h : ts.Unqueued) :
    (r.forceReturnTracks client ts).Unqueued := by
  intro id x hx hraw
  rw [getElem?_forceReturnTracks] at hx
  have hclear : ∀ y, (ts[id]?).map OpenTrack.clearInputQueue = some y →
      y.cfg.format.isEncoded = false → y.flow.track.framesReceived = [] := by
    intro y hy _
    obtain ⟨z, -, rfl⟩ := Option.map_eq_some_iff.mp hy
    rfl
  have hmid : ∀ y, (if id ∈ r.cleared client then (ts[id]?).map .clearInputQueue else ts[id]?) =
      some y → y.cfg.format.isEncoded = false → y.flow.track.framesReceived = [] := by
    intro y hy hraw
    split at hy
    · exact hclear y hy hraw
    · exact h id y hy hraw
  split at hx
  · obtain ⟨y, hy, rfl⟩ := Option.map_eq_some_iff.mp hx
    exact TrackFlow.unqueued_flush (hmid y hy hraw)
  · exact hmid x hx hraw

/-- How often the forced return releases a frame: for the queue of the track, and for its list. -/
def releases (r : RecorderImpl) (client id : UInt32) (x : OpenTrack) (h : IBufferHandle) : Nat :=
  (if id ∈ r.cleared client then (x.flow.track.framesReceived.map (·.handle)).count h else 0) +
    if id ∈ r.returned client then x.flow.consumed.count h else 0

/-- A frame that outlasts the releases stays with the others who have it. -/
theorem withholds_forceReturnTracks (hx : ts[id]? = some x)
    (hl : Lasts x.cfg x.flow h (releases r client id x h)) :
    ∃ y, (r.forceReturnTracks client ts)[id]? = some y ∧ Withholds h x.flow y.flow := by
  have hclear : Lasts x.cfg x.flow h
        ((x.flow.track.framesReceived.map (·.handle)).count h + x.flow.consumed.count h) →
      Withholds h x.flow x.clearInputQueue.flow ∧
        Lasts x.cfg x.clearInputQueue.flow h (x.clearInputQueue.flow.consumed.count h) := by
    intro hl
    have hsame : x.clearInputQueue.flow.consumed = x.flow.consumed := by
      obtain ⟨m, g, heq⟩ := @TrackFlow.releases_eq x.cfg x.flow
        (x.flow.track.framesReceived.map (·.handle))
      simp only [OpenTrack.clearInputQueue, TrackFlow.clearInputQueue, heq]
      rfl
    rw [hsame]
    exact hl.clearInputQueue
  have hflush : ∀ {flow : TrackFlow}, Lasts x.cfg flow h (flow.consumed.count h) →
      Withholds h flow (flow.flush x.cfg) := fun hl => (Lasts.flush (j := 0) hl).1
  unfold releases at hl
  rw [getElem?_forceReturnTracks, hx]
  split
  next hreturned =>
    rw [if_pos hreturned] at hl
    split
    next hcleared =>
      rw [if_pos hcleared] at hl
      obtain ⟨hfirst, hl⟩ := hclear hl
      exact ⟨_, rfl, hfirst.trans (hflush hl)⟩
    next hkept =>
      rw [if_neg hkept, Nat.zero_add] at hl
      exact ⟨_, rfl, hflush hl⟩
  next hkept =>
    rw [if_neg hkept] at hl
    split
    next hcleared =>
      rw [if_pos hcleared] at hl
      exact ⟨_, rfl, hl.clearInputQueue.1⟩
    next => exact ⟨x, rfl, .refl⟩

/-- A frame that is not counted is not given back by encoders that come to rest either. -/
theorem withholds_of_uncounted (hx : ts[id]? = some x) (hm : x.flow.track.bufferMap[h]? = none)
    (hrests : Rests C (r.forceReturnTracks client ts) ts' id) :
    ∃ y, ts'[id]? = some y ∧ Withholds h x.flow y.flow := by
  have hidle : ∀ n (y : OpenTrack), y.flow.track.bufferMap[h]? = none →
      Withholds h y.flow (OpenTrack.portIdle^[n] y).flow := by
    intro n
    induction n with
    | zero => exact fun _ _ => .refl
    | succ n ih =>
      intro y hy
      obtain ⟨hfirst, hnext⟩ := TrackFlow.uncounted_portIdle hy
      exact hfirst.trans (ih y.portIdle hnext)
  have hmap : ∀ y, (r.forceReturnTracks client ts)[id]? = some y →
      y.flow.track.bufferMap[h]? = none := by
    intro y hy
    have hclear : x.clearInputQueue.flow.track.bufferMap[h]? = none :=
      TrackFlow.uncounted_releases hm
    rw [getElem?_forceReturnTracks, hx] at hy
    split at hy
    · split at hy
      · obtain rfl := Option.some.inj hy
        exact TrackFlow.uncounted_flush hclear
      · obtain rfl := Option.some.inj hy
        exact TrackFlow.uncounted_flush hm
    · split at hy
      · exact Option.some.inj hy ▸ hclear
      · exact Option.some.inj hy ▸ hm
  have hlasts : Lasts x.cfg x.flow h (releases r client id x h) := fun n hn => by simp [hm] at hn
  obtain ⟨y, hy, hfirst⟩ := withholds_forceReturnTracks hx hlasts
  obtain ⟨n, hn, -⟩ := hrests
  rw [hy, Option.map_some] at hn
  exact ⟨_, hn, hfirst.trans (hidle n y (hmap y hy))⟩

theorem not_mem_givenBackSince (hy : ∀ y, ts'[id]? = some y →
    ∃ x, ts[id]? = some x ∧ Withholds h x.flow y.flow) : (id, h) ∉ ts.givenBackSince ts' := by
  simp only [givenBackSince, List.mem_flatMap, Prod.exists, List.mem_map, Prod.mk.injEq,
    Std.ExtTreeMap.mem_toList_iff_getElem?_eq_some]
  rintro ⟨id, y, hget, h, hmem, rfl, rfl⟩
  obtain ⟨x, hx, hs, hback, hnot⟩ := hy y hget
  rw [hx, Option.elim_some, hback, List.drop_left] at hmem
  exact hnot hmem

end OpenTracks

/-- The tracks that a linked track gets its frames from, the nearest first. -/
def CameraSource.masters (src : CameraSource) : Nat → UInt32 → List UInt32
  | 0, _ => []
  | n + 1, id =>
    match (src.trackSources[id]?).bind TrackSource.linked with
    | none => []
    | some master => master :: src.masters n master

namespace RecorderSystem

variable {s : RecorderSystem} {client id : UInt32} {h : IBufferHandle}

def registry (s : RecorderSystem) : RecorderImpl := s.media.recorder.getD {}

def masters (s : RecorderSystem) (id : UInt32) : List UInt32 :=
  s.media.backends.source.masters s.media.backends.source.trackSources.size id

/-- The stop of the track, if the cleanup gets to it, waits until its encoder is at rest. -/
def awaits (s : RecorderSystem) (client id : UInt32) : Bool :=
  s.media.backends.running.contains id && s.registry.liveTracks.any fun y =>
    y.1.1 == client && y.2.trackId == id &&
      match y.2.format with
      | .video f => f.isEncoded
      | .audio _ => false

/-- The cleanup of the client leaves a frame of the track with its other holders: the track does not
count it, or it counts more holders than there are releases, and no encoder comes to rest on it. -/
def keeps (s : RecorderSystem) (client id : UInt32) (h : IBufferHandle) : Bool :=
  (s.tracks[id]?).all fun x => (x.flow.track.bufferMap[h]?).all fun n =>
    let releases := OpenTracks.releases s.registry client id x h
    !s.awaits client id && decide (releases < n.toNat) &&
      (releases == 0 || !(x.flow.track.numConsumers == 0 && x.cfg.rescaler))

theorem not_mem_givenBackSince_of_keeps {r : RecorderImpl} {u v : AvRecorder}
    {remoteCb : UInt32 → Bool} {m : Media} (hr : s.registry = r)
    (hu : u.media.recorder = r ∧ u.media.backends.running = s.media.backends.running ∧
      u.tracks = s.tracks)
    (hv : u.forceCleanup remoteCb m client = .ok v) (hkeeps : s.keeps client id h = true) :
    (id, h) ∉ s.tracks.givenBackSince v.tracks := by
  obtain ⟨hrec, hrunning, htracks⟩ := hu
  have hrests := AvRecorder.waits_forceCleanup hv id
  rw [hrec, htracks] at hrests
  refine OpenTracks.not_mem_givenBackSince fun y hy => ?_
  cases hx : s.tracks[id]? with
  | none =>
    obtain ⟨n, hn, -⟩ := hrests
    rw [getElem?_forceReturnTracks, hx] at hn
    simp [hy] at hn
  | some x =>
    simp only [keeps, hx, Option.all_some] at hkeeps
    cases hm : x.flow.track.bufferMap[h]? with
    | none =>
      obtain ⟨y', hy', hwithholds⟩ := OpenTracks.withholds_of_uncounted hx hm hrests
      obtain rfl := Option.some.inj (hy.symm.trans hy')
      exact ⟨x, rfl, hwithholds⟩
    | some n =>
      simp only [hm, Option.all_some, Bool.and_eq_true, Bool.not_eq_true', decide_eq_true_eq,
        Bool.or_eq_true, beq_iff_eq] at hkeeps
      obtain ⟨⟨hawaits, hlt⟩, hcut⟩ := hkeeps
      obtain ⟨z, hz, hwithholds⟩ := OpenTracks.withholds_forceReturnTracks (r := s.registry)
        hx fun n' hn' => by
          obtain rfl := Option.some.inj (hm.symm.trans hn')
          exact ⟨hlt, hcut⟩
      obtain ⟨k, hk, hawaited⟩ := hrests
      have hnone : k = 0 := by
        by_contra hne
        obtain ⟨hrun, i, t, f, hf, ht⟩ := hawaited hne
        rw [hrec, ← hr] at ht
        rw [hrunning] at hrun
        refine Bool.eq_false_iff.mp hawaits ?_
        rw [awaits, Bool.and_eq_true]
        exact ⟨Std.ExtTreeSet.contains_iff_mem.mpr hrun,
          List.any_eq_true.mpr ⟨_, mem_liveTracks ht, by simp [hf]⟩⟩
      rw [hnone, ← hr, hz] at hk
      obtain rfl := Option.some.inj (hy.symm.trans hk)
      exact ⟨x, rfl, hwithholds⟩

end RecorderSystem

end QmmfSdk.Recorder
