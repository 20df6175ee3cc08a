import QmmfSdk.Recorder.Backends
import QmmfSdk.Recorder.VideoTracks

/-! Every registered video track has a track source, and a track encoder when it is encoded. -/
namespace QmmfSdk.Recorder

open RecorderImpl

namespace CameraSource

variable {src src' : CameraSource} {id : UInt32} {p : VideoTrackCreateParam} {st : Status}
  {ans : CameraContext.StreamAnswers}

theorem mem_addTrackSource {track : TrackSource} {k : UInt32} :
    k ∈ (src.addTrackSource id track).trackSources ↔ id = k ∨ k ∈ src.trackSources := by
  rw [addTrackSource, Std.ExtTreeMap.mem_insertIfNew, Std.compare_eq_iff_eq]

theorem trackSources_onCamera {camera : UInt32}
    {f : CameraContext → Except Abort (Status × CameraContext)}
    (h : src.onCamera camera f = .ok (st, src')) : src'.trackSources = src.trackSources := by
  rcases onCamera_ok h with ⟨-, -, rfl⟩ | ⟨ctx, ctx', -, -, rfl⟩
  · rfl
  · rfl

/-- A stream of its own: no format but RGB is accepted without a source. -/
theorem createOwnTrack_cases (h : src.createOwnTrack id p ans = .ok (st, src')) :
    src'.trackSources = src.trackSources ∧ (st = .noError → p.formatType = .rgb) ∨
    src'.trackSources =
      (src.addTrackSource id { params := p, slave := false }).trackSources := by
  unfold createOwnTrack at h
  split at h
  · next hrgb =>
    obtain ⟨-, rfl⟩ : _ ∧ src = src' := by simpa using h
    exact .inl ⟨rfl, fun _ => hrgb⟩
  obtain ⟨⟨st₀, src₀⟩, hcreated, h⟩ := Library.bind_eq_ok_iff.mp h
  have heq := trackSources_onCamera hcreated
  dsimp only at h
  split at h
  · obtain ⟨rfl, rfl⟩ : st = .badValue ∧ src₀ = src' := by simpa [eq_comm] using h
    exact .inl ⟨heq, by simp⟩
  · obtain ⟨-, rfl⟩ := Prod.mk.inj (Except.ok.inj h)
    refine .inr ?_
    simp [addTrackSource, heq]

/-- The track is given a stream of its own: none is named to copy, or that one does not suit. -/
def ownStream (src : CameraSource) (p : VideoTrackCreateParam) (source : Option UInt32) : Bool :=
  match source with
  | none => true
  | some id => src.trackSources[id]?.any fun master => !validateSlaveTrackParam p master.params

/-- A created track has a source, unless it is RGB with a stream of its own. -/
theorem createTrackSource_cases {source : Option UInt32}
    (h : src.createTrackSource id p source ans = .ok (st, src')) :
    src'.trackSources = src.trackSources ∧ (st = .noError →
      p.formatType = .rgb ∧ p.cameraId ∈ src.cameraMap ∧ src.ownStream p source = true) ∨
    ∃ track, src'.trackSources = (src.addTrackSource id track).trackSources := by
  unfold createTrackSource at h
  split at h
  · obtain ⟨rfl, rfl⟩ : st = .badValue ∧ src = src' := by simpa [eq_comm] using h
    exact .inl ⟨rfl, by simp⟩
  next hopen =>
  have hopen : p.cameraId ∈ src.cameraMap := not_not.mp hopen
  split at h
  · rcases createOwnTrack_cases h with ⟨heq, hrgb⟩ | heq
    · exact .inl ⟨heq, fun hst => ⟨hrgb hst, hopen, rfl⟩⟩
    · exact .inr ⟨_, heq⟩
  next sourceId =>
  split at h
  · simp at h
  next master hmaster =>
  split at h
  · next hinvalid =>
    rcases createOwnTrack_cases h with ⟨heq, hrgb⟩ | heq
    · refine .inl ⟨heq, fun hst => ⟨hrgb hst, hopen, ?_⟩⟩
      simp only [ownStream, hmaster, Option.any_some]
      exact hinvalid
    · exact .inr ⟨_, heq⟩
  split at h
  · obtain ⟨-, rfl⟩ := Prod.mk.inj (Except.ok.inj h)
    exact .inr ⟨_, rfl⟩
  split at h
  · obtain ⟨rfl, rfl⟩ : st = .badValue ∧ src = src' := by simpa [eq_comm] using h
    exact .inl ⟨rfl, by simp⟩
  · obtain ⟨-, rfl⟩ := Prod.mk.inj (Except.ok.inj h)
    exact .inr ⟨_, rfl⟩

end CameraSource

namespace Backends

variable {b b' : Backends} {m : Media} {id k : UInt32} {f : VideoFormat}

/-- The same track sources and track encoders, running or not. -/
structure SameTracks (b b' : Backends) : Prop where
  sources : b'.source.trackSources = b.source.trackSources
  encoders : ∀ id, id ∈ b'.trackEncoders ↔ id ∈ b.trackEncoders

theorem SameTracks.refl : SameTracks b b := ⟨rfl, fun _ => .rfl⟩

theorem SameTracks.trans {b'' : Backends} (h : SameTracks b b') (h' : SameTracks b' b'') :
    SameTracks b b'' :=
  ⟨h'.sources.trans h.sources, fun id => (h'.encoders id).trans (h.encoders id)⟩

theorem sameTracks_setEncoder {on : Bool} : SameTracks b (b.setEncoder id on) := by
  refine ⟨rfl, fun k => ?_⟩
  rw [setEncoder, Std.ExtTreeMap.mem_modify]

theorem sameTracks_startVideoTracks {infos : List TrackInfo} :
    SameTracks b (b.startVideoTracks infos) := by
  have hstart : ∀ (b : Backends) id, SameTracks b (b.startSource id) :=
    fun b id => ⟨rfl, fun _ => .rfl⟩
  fun_induction startVideoTracks b infos with
  | case1 => exact .refl
  | case2 b id f rest ih => exact ih
  | case3 => exact .refl
  | case4 => exact hstart _ _
  | case5 b id f rest _ _ _ ih => exact ((hstart _ _).trans sameTracks_setEncoder).trans ih
  | case6 b id f rest _ _ ih => exact (hstart _ _).trans ih

theorem sameTracks_stopSource : SameTracks b (b.stopSource id) := ⟨rfl, fun _ => .rfl⟩

theorem sameTracks_stopTracks {infos : List TrackInfo} :
    SameTracks b (b.stopTracks m infos) := by
  fun_induction stopTracks m b infos with
  | case1 => exact .refl
  | case2 => exact .refl
  | case3 => exact .refl
  | case4 b id f rest _ _ ih => exact ih
  | case5 => exact .refl
  | case6 => exact sameTracks_stopSource
  | case7 b id f rest _ _ _ ih => exact (sameTracks_stopSource.trans sameTracks_setEncoder).trans ih
  | case8 b id f rest _ _ ih => exact sameTracks_stopSource.trans ih

/-- A track whose id is not the deleted one keeps its source and its encoder. -/
theorem isTrackIdValid_deleteTrack (hne : id ≠ k) :
    (b.deleteTrack (some ⟨id, .video f⟩)).isTrackIdValid k = b.isTrackIdValid k := by
  simp only [deleteTrack]
  split
  · rfl
  · simp [isTrackIdValid, hne]

theorem isTrackValid_deleteTrack (hne : id ≠ k) :
    (b.deleteTrack (some ⟨id, .video f⟩)).isTrackValid k = b.isTrackValid k := by
  simp only [deleteTrack]
  split
  · rfl
  · simp only [isTrackValid]
    split
    · simp [hne]
    · rfl

/-- Back ends that a track has let themselves be deleted. -/
theorem deletes_media (hs : b.isTrackIdValid id = true)
    (he : f.isEncoded = true → b.isTrackValid id = true) :
    (b.media m).deletes ⟨id, .video f⟩ = true := by
  simp only [Media.deletes, TrackBackend.deletes, media, video, lookup, hs, if_true, BEq.rfl,
    Bool.true_and]
  cases hf : f.isEncoded with
  | false => rfl
  | true => simp [he hf]

theorem SameTracks.isTrackIdValid (h : SameTracks b b') :
    b'.isTrackIdValid id = b.isTrackIdValid id := by
  rw [Backends.isTrackIdValid, h.sources, Backends.isTrackIdValid]

theorem SameTracks.isTrackValid (h : SameTracks b b') :
    b'.isTrackValid id = b.isTrackValid id := by
  rw [Bool.eq_iff_iff, Backends.isTrackValid, Backends.isTrackValid,
    Std.ExtTreeMap.contains_iff_mem, Std.ExtTreeMap.contains_iff_mem]
  exact h.encoders id

end Backends

namespace MediaRecorder

variable {s t : MediaRecorder} {m : Media} {remoteCb : UInt32 → Bool} {st : Status}
  {client session track c i k id : UInt32} {f : VideoFormat} {P : UInt32 → UInt32 → UInt32 → Prop}
  {B : Backends → UInt32 → VideoFormat → Prop}

/-- The sources and encoders that a video track needs. -/
def HasBackends (b : Backends) (id : UInt32) (f : VideoFormat) : Prop :=
  b.isTrackIdValid id = true ∧ (f.isEncoded = true → b.isTrackValid id = true)

/-- A demand on the back ends of a track that has them: it depends on nothing but the tracks that
there are, and the deletion of a track with another id does not touch it. -/
structure Demand (B : Backends → UInt32 → VideoFormat → Prop) : Prop where
  has : ∀ {b id f}, B b id f → HasBackends b id f
  sameTracks : ∀ {b b' id f}, B b id f → b.SameTracks b' → B b' id f
  deleteTrack : ∀ {b id f x g}, B b id f → x ≠ id → B (b.deleteTrack (some ⟨x, .video g⟩)) id f

theorem demand_hasBackends : Demand HasBackends where
  has h := h
  sameTracks h hb := ⟨hb.isTrackIdValid.trans h.1, fun he => hb.isTrackValid.trans (h.2 he)⟩
  deleteTrack h hne := ⟨(Backends.isTrackIdValid_deleteTrack hne).trans h.1,
    fun he => (Backends.isTrackValid_deleteTrack hne).trans (h.2 he)⟩

/-- Every video track in `P` has what is demanded of its back ends. -/
def BackedFor (B : Backends → UInt32 → VideoFormat → Prop) (P : UInt32 → UInt32 → UInt32 → Prop)
    (s : MediaRecorder) : Prop :=
  ∀ c i k id f, P c i k → s.recorder.track c i k = some ⟨id, .video f⟩ → B s.backends id f

theorem BackedFor.keepsVideo (hB : Demand B) (h : BackedFor B P s)
    (hk : KeepsVideo s.recorder t.recorder) (hb : s.backends.SameTracks t.backends) :
    BackedFor B P t :=
  fun c i k id f hP ht => hB.sameTracks (h c i k id f hP ((hk.tracks c i k id f).mp ht)) hb

theorem startSession_ok (h : s.startSession m client session = .ok (st, t)) :
    KeepsVideo s.recorder t.recorder ∧ s.backends.SameTracks t.backends := by
  obtain ⟨r, hr, rfl⟩ := startSession_eq_ok h
  refine ⟨keepsVideo_startSession hr, ?_⟩
  dsimp only
  split
  · exact Backends.sameTracks_startVideoTracks
  · exact .refl

theorem stopSession_ok (h : s.stopSession m client session = .ok (st, t)) :
    KeepsVideo s.recorder t.recorder ∧ s.backends.SameTracks t.backends := by
  obtain ⟨⟨st', r⟩, hr, h⟩ := Library.bind_eq_ok_iff.mp h
  obtain ⟨-, rfl⟩ := Prod.mk.inj (Except.ok.inj h)
  refine ⟨keepsVideo_stopSession hr, ?_⟩
  dsimp only
  split
  · exact .refl
  · exact Backends.sameTracks_stopTracks

/-- A deletion is refused by the back ends, or the track is no longer registered. -/
theorem deleteVideoTrack_ok (h : s.deleteVideoTrack remoteCb m client session track = .ok (st, t)) :
    t.backends = s.backends.deleteTrack (s.recorder.track client session track) ∧
    (t.recorder = s.recorder ∧ (∀ info, s.recorder.track client session track = some info →
      (s.backends.media m).deletes info = false) ∨
    ∃ id f, s.recorder.track client session track = some ⟨id, .video f⟩ ∧
      (s.backends.media m).deletes ⟨id, .video f⟩ = true ∧
      t.recorder = s.recorder.withoutVideoTrack client session track id) := by
  obtain ⟨⟨st', r⟩, hr, h⟩ := Library.bind_eq_ok_iff.mp h
  obtain ⟨-, rfl⟩ := Prod.mk.inj (Except.ok.inj h)
  refine ⟨rfl, ?_⟩
  rcases deleteVideoTrack_cases hr with ⟨-, rfl, hrefuse⟩ | ⟨-, id, f, ht, hdel, rfl⟩
  · exact .inl ⟨rfl, hrefuse⟩
  · exact .inr ⟨id, f, ht, hdel, rfl⟩

theorem subTracks_deleteVideoTrack
    (h : s.deleteVideoTrack remoteCb m client session track = .ok (st, t)) :
    SubTracks s.recorder t.recorder := by
  rcases (deleteVideoTrack_ok h).2 with ⟨heq, -⟩ | ⟨id, f, -, -, heq⟩
  · rw [heq]
    exact fun _ _ _ _ hi => hi
  · rw [heq]
    exact subTracks_withoutVideoTrack

/-- The deletion of a track takes no back end from the tracks in `P`, when no other one of them has
its service id. -/
theorem BackedFor.deleteVideoTrack (hB : Demand B) (hs : BackedFor B P s)
    (hone : ∀ id f, s.recorder.track client session track = some ⟨id, .video f⟩ →
      ∀ c i k g, P c i k → s.recorder.track c i k = some ⟨id, .video g⟩ →
        client = c ∧ session = i ∧ track = k)
    (h : s.deleteVideoTrack remoteCb m client session track = .ok (st, t)) : BackedFor B P t := by
  have hsub := subTracks_deleteVideoTrack h
  obtain ⟨hb, hr⟩ := deleteVideoTrack_ok h
  intro c i k id f hP ht
  rw [hb]
  have hold := hs c i k id f hP (hsub c i k _ ht)
  cases hdel : s.recorder.track client session track with
  | none => exact hold
  | some info =>
    obtain ⟨x, g | g⟩ := info
    · by_cases hx : x = id
      · subst hx
        -- the track with this id is the deleted one, and it has gone
        obtain ⟨rfl, rfl, rfl⟩ := hone x g hdel c i k f hP (hsub c i k _ ht)
        rcases hr with ⟨-, hrefuse⟩ | ⟨y, g', -, -, heq⟩
        · have hrefuse := hrefuse _ (hsub _ _ _ _ ht)
          simp [Backends.deletes_media (hB.has hold).1 (hB.has hold).2] at hrefuse
        · rw [heq, track_congr clientSessionMap_withoutVideoTrack, track_eraseTrack,
            if_pos ⟨rfl, rfl, rfl⟩] at ht
          simp at ht
      · exact hB.deleteTrack hold hx
    · exact hold

/-! ### Cleanup -/

/-- The recorder deletes the track, and the back ends let go of a video track. -/
theorem deleteTrack_ok {q : UInt32 × TrackInfo}
    (h : deleteTrack remoteCb m client session s q = .ok t) :
    RecorderImpl.deleteTrack remoteCb (s.backends.media m) client session s.recorder q =
        .ok t.recorder ∧
      (t.backends = s.backends ∨
        t.backends = s.backends.deleteTrack (s.recorder.track client session q.1)) := by
  obtain ⟨k, id, f | f⟩ := q
  · obtain ⟨⟨st, u⟩, hu, h⟩ := Library.bind_eq_ok_iff.mp h
    obtain rfl := Except.ok.inj h
    obtain ⟨⟨st', r⟩, hr, hu⟩ := Library.bind_eq_ok_iff.mp hu
    obtain ⟨-, rfl⟩ := Prod.mk.inj (Except.ok.inj hu)
    exact ⟨Library.bind_eq_ok_iff.mpr ⟨_, hr, rfl⟩, .inr rfl⟩
  · obtain ⟨⟨st, u⟩, hu, h⟩ := Library.bind_eq_ok_iff.mp h
    obtain rfl := Except.ok.inj h
    obtain ⟨⟨st', r⟩, hr, hu⟩ := Library.bind_eq_ok_iff.mp hu
    obtain ⟨-, rfl⟩ := Prod.mk.inj (Except.ok.inj hu)
    exact ⟨Library.bind_eq_ok_iff.mpr ⟨_, hr, rfl⟩, .inl rfl⟩

/-- The rule of the cleanup: what each of its calls keeps holds when the sessions of the client have
been cleaned up, and from there only the maps of the client itself go. -/
theorem forceCleanup_rule {I : MediaRecorder → Prop}
    (hstart : ∀ r, KeepsVideo s.recorder r → r.clientSessionMap = s.recorder.clientSessionMap →
      r.timelapseMode = s.recorder.timelapseMode → I ⟨r, s.backends⟩)
    (hstop : ∀ u i st v, I u → u.stopSession m client i = .ok (st, v) → I v)
    (hvideo : ∀ u i k st v, I u → u.deleteVideoTrack remoteCb m client i k = .ok (st, v) → I v)
    (haudio : ∀ u i k st r, I u → u.recorder.deleteAudioTrack (u.backends.media m) client i k =
      .ok (st, r) → I ⟨r, u.backends⟩)
    (hdelete : ∀ u i st r, I u → u.recorder.deleteSession client i = .ok (st, r) → I ⟨r, u.backends⟩)
    (h : s.forceCleanup remoteCb m client = .ok t) :
    ∃ u, I u ∧ t.backends = u.backends ∧
      t.recorder.clientSessionMap = u.recorder.clientSessionMap.erase client ∧
      t.recorder.timelapseMode = u.recorder.timelapseMode := by
  obtain ⟨r₁, h₁, h⟩ := Library.bind_eq_ok_iff.mp h
  obtain ⟨s₂, h₂, h⟩ := Library.bind_eq_ok_iff.mp h
  obtain ⟨r₃, h₃, h⟩ := Library.bind_eq_ok_iff.mp h
  obtain rfl := by simpa using h
  have hdead : KeepsVideo s.recorder
      { s.recorder with clientState := s.recorder.clientState.insert client .dead } :=
    keepsVideo_of_eq rfl rfl
  have hs₁ : I ⟨r₁, s.backends⟩ := by
    refine hstart r₁ (hdead.trans (keepsVideo_forceReturnBuffers h₁)) ?_ ?_ <;>
      obtain ⟨cams, index, rfl⟩ := forceReturnBuffers_cases h₁ <;> rfl
  have htrack : ∀ i u q v, deleteTrack remoteCb m client i u q = .ok v → I u → I v := by
    intro i u q v hv hu
    unfold MediaRecorder.deleteTrack at hv
    split at hv
    · obtain ⟨⟨st, w⟩, hw, hv⟩ := Library.bind_eq_ok_iff.mp hv
      obtain rfl := by simpa using hv
      exact hvideo _ _ _ _ _ hu hw
    · obtain ⟨⟨st, w⟩, hw, hv⟩ := Library.bind_eq_ok_iff.mp hv
      obtain rfl := by simpa using hv
      obtain ⟨⟨st', r⟩, hr, hw⟩ := Library.bind_eq_ok_iff.mp hw
      obtain ⟨-, rfl⟩ := Prod.mk.inj (Except.ok.inj hw)
      exact haudio _ _ _ _ _ hu hr
  have hsession : ∀ u p v, cleanupSession remoteCb m client u p = .ok v → I u → I v := by
    intro u p v hv hu
    obtain ⟨⟨st₁, u₁⟩, hu₁, hv⟩ := Library.bind_eq_ok_iff.mp hv
    obtain ⟨u₂, hu₂, hv⟩ := Library.bind_eq_ok_iff.mp hv
    obtain ⟨⟨st₃, r⟩, hr, hv⟩ := Library.bind_eq_ok_iff.mp hv
    obtain rfl := by simpa using hv
    refine hdelete _ _ _ _ ?_ hr
    exact Library.foldlM_inv (hstop _ _ _ _ hu hu₁) (fun a q b _ ha hb => htrack p.1 a q b hb ha) hu₂
  have hs₂ : I s₂ :=
    Library.foldlM_inv hs₁ (fun a p b _ ha hb => hsession a p b hb ha) h₂
  have hcut := stopCameras_of_not_valid (by simp [isClientValid, updateCameras]) h₃
  subst hcut
  exact ⟨s₂, hs₂, rfl, rfl, rfl⟩

/-- While a client is cleaned up: the tracks in `P` have their back ends, and share no service id with
a track of the client. -/
structure Apart (B : Backends → UInt32 → VideoFormat → Prop)
    (P : UInt32 → UInt32 → UInt32 → Prop) (client : UInt32) (s : MediaRecorder) : Prop where
  backed : BackedFor B P s
  apart : ∀ i k id f, s.recorder.track client i k = some ⟨id, .video f⟩ →
    ∀ c i' k' g, P c i' k' → s.recorder.track c i' k' ≠ some ⟨id, .video g⟩

theorem Apart.keepsVideo (hB : Demand B) (h : Apart B P client s)
    (hk : KeepsVideo s.recorder t.recorder) (hb : s.backends.SameTracks t.backends) :
    Apart B P client t where
  backed := h.backed.keepsVideo hB hk hb
  apart i k id f ht c i' k' g hc ht' :=
    h.apart i k id f ((hk.tracks _ _ _ _ _).mp ht) c i' k' g hc ((hk.tracks _ _ _ _ _).mp ht')

theorem Apart.deleteVideoTrack (hB : Demand B) (hs : Apart B P client s)
    (h : s.deleteVideoTrack remoteCb m client session track = .ok (st, t)) :
    Apart B P client t := by
  have hsub := subTracks_deleteVideoTrack h
  refine ⟨hs.backed.deleteVideoTrack hB (fun id f hk c i k g hc ht => ?_) h, ?_⟩
  · exact absurd ht (hs.apart _ _ id f hk c i k g hc)
  · intro i k id f ht c i' k' g hc ht'
    exact hs.apart i k id f (hsub _ _ _ _ ht) c i' k' g hc (hsub _ _ _ _ ht')

theorem Apart.forceCleanup (hB : Demand B) (hs : Apart B P client s)
    (h : s.forceCleanup remoteCb m client = .ok t) :
    BackedFor B (fun c i k => P c i k ∨ c = client) t := by
  obtain ⟨u, hu, hb, hmap, -⟩ := forceCleanup_rule (I := Apart B P client)
    (fun _ hk _ _ => hs.keepsVideo hB hk .refl)
    (fun _ _ _ _ hu hv => hu.keepsVideo hB (stopSession_ok hv).1 (stopSession_ok hv).2)
    (fun _ _ _ _ _ hu hv => hu.deleteVideoTrack hB hv)
    (fun _ _ _ _ _ hu hr => hu.keepsVideo hB (keepsVideo_deleteAudioTrack hr) .refl)
    (fun _ _ _ _ hu hr => hu.keepsVideo hB (keepsVideo_deleteSession hr) .refl) h
  intro c i k id f hc ht
  rw [track_eraseClient hmap] at ht
  split at ht
  · simp at ht
  · next hne => exact hb ▸ hu.backed c i k id f (hc.resolve_right (Ne.symm hne)) ht

end MediaRecorder

namespace CameraService

variable {s t : CameraService} {st : Status} {client session track : UInt32} {m : Media}
  {p : VideoTrackCreateParam} {extra : VideoExtraParam} {ans : CameraContext.StreamAnswers}

/-- A request for a track is refused at once, or `CreateTrackSource` answers it. -/
theorem createVideoTrack_ok (h : s.createVideoTrack client session track p extra m ans = .ok (st, t)) :
    st ≠ .noError ∧ t = s ∨
    ∃ r r' source st₁, s.recorder = some r ∧ checksTrack r client session track = true ∧
      r.resolveSourceTrack (s.media m) p extra = .ok true ∧
      sourceTrack r (s.media m) client p extra = .ok source ∧
      s.source.createTrackSource (getUniqueServiceTrackId client session track) p source ans =
        .ok (st₁, t.source) ∧
      r.createVideoTrack ((s.media m).answering st₁) client session track p extra = .ok (st, r') ∧
      t.service = { s.service with recorder := some r' } := by
  have hrefused : ∀ {x : Status}, x ≠ .noError → (.ok (x, s) : Except Abort _) = .ok (st, t) →
      st ≠ .noError ∧ t = s := by
    intro x hx heq
    obtain ⟨rfl, rfl⟩ := Prod.mk.inj (Except.ok.inj heq)
    exact ⟨hx, rfl⟩
  unfold createVideoTrack at h
  dsimp only at h
  split at h
  · exact .inl (hrefused (by simp) h)
  next r hr =>
  split at h
  · exact .inl (hrefused (by simp) h)
  next hchecks =>
  obtain ⟨go, hgo, h⟩ := Library.bind_eq_ok_iff.mp h
  split at h
  · exact .inl (hrefused (by simp) h)
  next htrue =>
  obtain rfl : go = true := by simpa using htrue
  obtain ⟨source, hsource, h⟩ := Library.bind_eq_ok_iff.mp h
  obtain ⟨⟨st₁, src⟩, hsrc, h⟩ := Library.bind_eq_ok_iff.mp h
  obtain ⟨⟨st', r'⟩, hr', h⟩ := Library.bind_eq_ok_iff.mp h
  obtain ⟨rfl, rfl⟩ := Prod.mk.inj (Except.ok.inj h)
  exact .inr ⟨r, r', source, st₁, hr, by simpa using hchecks, hgo, hsource, hsrc, hr', rfl⟩

/-- Starting and stopping a camera leaves the track sources as they are. -/
theorem startCamera_service {camera : UInt32} {slave : Bool}
    (h : s.startCamera client camera slave m = .ok (st, t)) :
    (∃ st', s.service.step (.startCamera client camera slave (s.media m)) = .ok (st', t.service)) ∧
      t.source.trackSources = s.source.trackSources := by
  obtain ⟨⟨st', u⟩, hu, h⟩ := Library.bind_eq_ok_iff.mp h
  obtain ⟨⟨st'', service⟩, hs, hu⟩ := Library.bind_eq_ok_iff.mp hu
  obtain ⟨rfl, rfl⟩ := Prod.mk.inj (Except.ok.inj hu)
  obtain ⟨rfl, rfl⟩ := Prod.mk.inj (Except.ok.inj h)
  split
  · refine ⟨⟨_, hs⟩, ?_⟩
    simp only [CameraSource.startCamera]
    repeat' split
    all_goals rfl
  · exact ⟨⟨_, hs⟩, rfl⟩

theorem stopCamera_service {camera : UInt32}
    (h : s.stopCamera client camera m = .ok (st, t)) :
    (∃ st', s.service.step (.stopCamera client camera (s.media m)) = .ok (st', t.service)) ∧
      t.source.trackSources = s.source.trackSources := by
  obtain ⟨⟨st', u⟩, hu, h⟩ := Library.bind_eq_ok_iff.mp h
  obtain ⟨⟨st'', service⟩, hs, hu⟩ := Library.bind_eq_ok_iff.mp hu
  obtain ⟨rfl, rfl⟩ := Prod.mk.inj (Except.ok.inj hu)
  obtain ⟨rfl, rfl⟩ := Prod.mk.inj (Except.ok.inj h)
  split
  · refine ⟨⟨_, hs⟩, ?_⟩
    simp only [CameraSource.stopCamera]
    repeat' split
    all_goals rfl
  · exact ⟨⟨_, hs⟩, rfl⟩

end CameraService

def TrackInfo.isVideo (info : TrackInfo) : Bool :=
  match info.format with
  | .video _ => true
  | .audio _ => false

namespace RecorderImpl

variable {r : RecorderImpl} {client session track id : UInt32}

/-- Some other live video track has the service track id. -/
def sharesId (r : RecorderImpl) (client session track id : UInt32) : Bool :=
  r.liveTracks.any fun e =>
    e.2.isVideo && e.2.trackId == id && e.1 != (client, session, track)

/-- Some video track of the client shares its service track id with one of another client. -/
def sharesIds (r : RecorderImpl) (client : UInt32) : Bool :=
  r.liveTracks.any fun e => e.1.1 == client && e.2.isVideo && r.liveTracks.any fun e' =>
    e'.1.1 != client && e'.2.isVideo && e'.2.trackId == e.2.trackId

theorem eq_of_not_sharesId (h : r.sharesId client session track id = false) {c i k : UInt32}
    {g : VideoFormat} (ht : r.track c i k = some ⟨id, .video g⟩) :
    client = c ∧ session = i ∧ track = k := by
  have hnot := List.any_eq_false.mp h _ (mem_liveTracks ht)
  simp only [TrackInfo.isVideo, BEq.rfl, Bool.true_and, bne_iff_ne, ne_eq, Decidable.not_not,
    Prod.mk.injEq] at hnot
  exact ⟨hnot.1.symm, hnot.2.1.symm, hnot.2.2.symm⟩

theorem apart_of_not_sharesIds (h : r.sharesIds client = false) (i k id : UInt32) (f : VideoFormat)
    (ht : r.track client i k = some ⟨id, .video f⟩) (c i' k' : UInt32) (g : VideoFormat)
    (hc : c ≠ client) : r.track c i' k' ≠ some ⟨id, .video g⟩ := by
  intro ht'
  have hnot := List.any_eq_false.mp h _ (mem_liveTracks ht)
  apply hnot
  simp only [TrackInfo.isVideo, BEq.rfl, Bool.true_and]
  exact List.any_eq_true.mpr ⟨_, mem_liveTracks ht', by simp [hc]⟩

end RecorderImpl

namespace MediaService

variable {s t : MediaService} {a : MediaRequest} {as : List MediaRequest} {st : Status}
  {client session track c i k id : UInt32} {m : Media} {p : VideoTrackCreateParam}
  {extra : VideoExtraParam} {ans : CameraContext.StreamAnswers}

/-- What the recorder is told by the camera source while it creates a track. -/
def trackMedia (s : MediaService) (m : Media) : Media := s.camera.media (s.backends.media m)

/-- Whether an accepted request for a new track asks for a stream of its own. -/
def createsStream (s : MediaService) (r : RecorderImpl) (client session track : UInt32)
    (p : VideoTrackCreateParam) (extra : VideoExtraParam) (m : Media) : Bool :=
  CameraService.checksTrack r client session track && s.backends.source.cameraMap.contains p.cameraId &&
    match r.resolveSourceTrack (s.trackMedia m) p extra,
      CameraService.sourceTrack r (s.trackMedia m) client p extra with
    | .ok true, .ok source => s.backends.source.ownStream p source
    | _, _ => false

/-- A new track leaves the others as they are, and has its back ends unless it is RGB with a stream
of its own. -/
structure Creates (s t : MediaService) (r r' : RecorderImpl) (client session track : UInt32)
    (p : VideoTrackCreateParam) (extra : VideoExtraParam) (m : Media) : Prop where
  accepted : CameraService.checksTrack r client session track = true
  recorder : ∃ tm : IdMap Bool, r' = ({ r with timelapseMode := tm }.indexTrack p.cameraId
    (getUniqueServiceTrackId client session track)).associateTrack client session track
      (.video p.formatType)
  source : t.backends.isTrackIdValid (getUniqueServiceTrackId client session track) = true ∨
    p.formatType = .rgb ∧ s.createsStream r client session track p extra m = true
  encoders : t.backends.trackEncoders = if p.formatType.isEncoded = true then
    s.backends.trackEncoders.insertIfNew (getUniqueServiceTrackId client session track) false
    else s.backends.trackEncoders

/-- A refused request leaves the encoders alone, and may have been refused after its time-lapse entry
was made. -/
theorem createVideoTrack_ok (h : s.createVideoTrack client session track p extra m ans = .ok (st, t)) :
    (t.backends.running = s.backends.running ∧
      ∀ k, s.backends.isTrackIdValid k = true → t.backends.isTrackIdValid k = true) ∧
    (t.backends.trackEncoders = s.backends.trackEncoders ∧ (t.service = s.service ∨
        ∃ (r : RecorderImpl) (tm : IdMap Bool), s.recorder = some r ∧
          t.service = { s.service with recorder := some { r with timelapseMode := tm } }) ∨
      ∃ r r', s.recorder = some r ∧ t.service = { s.service with recorder := some r' } ∧
        Creates s t r r' client session track p extra m) := by
  obtain ⟨⟨st₁, u⟩, hu, h⟩ := Library.bind_eq_ok_iff.mp h
  obtain ⟨⟨st₂, c⟩, hc, hu⟩ := Library.bind_eq_ok_iff.mp hu
  obtain ⟨rfl, rfl⟩ := Prod.mk.inj (Except.ok.inj hu)
  obtain ⟨rfl, rfl⟩ := Prod.mk.inj (Except.ok.inj h)
  rcases CameraService.createVideoTrack_ok hc with
    ⟨hst, rfl⟩ | ⟨r, r', source, st₁, hr, hchecks, hgo, hsource, hsrc, hr', hservice⟩
  · rw [if_neg fun h => hst h.1]
    exact ⟨⟨rfl, fun _ hk => hk⟩, .inl ⟨rfl, .inl rfl⟩⟩
  have hmono : ∀ k, s.backends.isTrackIdValid k = true → c.source.trackSources.contains k = true := by
    intro k hk
    rcases CameraSource.createTrackSource_cases hsrc with ⟨heq, -⟩ | ⟨tr, heq⟩
    · rw [heq]
      exact hk
    · rw [heq]
      exact Std.ExtTreeMap.contains_iff_mem.mpr (CameraSource.mem_addTrackSource.mpr
        (.inr (Std.ExtTreeMap.contains_iff_mem.mp hk)))
  obtain ⟨tm, ⟨hne, rfl⟩ | ⟨rfl, -, -, hst, -, heq⟩⟩ := createVideoTrack_cases hr'
  · rw [if_neg fun h => hne h.1]
    exact ⟨⟨rfl, hmono⟩, .inl ⟨rfl, .inr ⟨r, tm, hr, hservice⟩⟩⟩
  have hst : st₁ = .noError := hst
  have hvalid : c.source.trackSources.contains (getUniqueServiceTrackId client session track) = true ∨
      p.formatType = .rgb ∧ s.createsStream r client session track p extra m = true := by
    rcases CameraSource.createTrackSource_cases hsrc with ⟨-, hrgb⟩ | ⟨tr, heq⟩
    · obtain ⟨hrgb, hopen, hown⟩ := hrgb hst
      have hopen : s.backends.source.cameraMap.contains p.cameraId = true :=
        Std.ExtTreeMap.contains_iff_mem.mpr hopen
      have hgo : r.resolveSourceTrack (s.trackMedia m) p extra = .ok true := hgo
      have hsource : CameraService.sourceTrack r (s.trackMedia m) client p extra = .ok source := hsource
      refine .inr ⟨hrgb, ?_⟩
      simp only [createsStream, hchecks, hopen, hgo, hsource, Bool.and_self, Bool.true_and]
      exact hown
    · rw [heq]
      exact .inl (Std.ExtTreeMap.contains_iff_mem.mpr (CameraSource.mem_addTrackSource.mpr (.inl rfl)))
  by_cases he : p.formatType.isEncoded = true
  · rw [if_pos ⟨rfl, he⟩]
    exact ⟨⟨rfl, hmono⟩, .inr ⟨r, r', hr, hservice, hchecks, ⟨tm, heq⟩, hvalid, (if_pos he).symm⟩⟩
  · rw [if_neg fun h => he h.2]
    exact ⟨⟨rfl, hmono⟩, .inr ⟨r, r', hr, hservice, hchecks, ⟨tm, heq⟩, hvalid, (if_neg he).symm⟩⟩

/-- A new track was not there, and is the only one that is new. -/
theorem Creates.registers {r r' : RecorderImpl} (h : Creates s t r r' client session track p extra m) :
    r.track client session track = none ∧ ∀ c i k, r'.track c i k =
      if client = c ∧ session = i ∧ track = k then
        some ⟨getUniqueServiceTrackId client session track, .video p.formatType⟩
      else r.track c i k := by
  have hnone : r.track client session track = none := by
    have hchecks := h.accepted
    simp only [CameraService.checksTrack, isTrackValid_eq_isSome, Bool.and_eq_true] at hchecks
    simpa using hchecks.2
  obtain ⟨tm, rfl⟩ := h.recorder
  exact ⟨hnone, fun c i k => track_associateTrack hnone⟩

theorem Creates.isTrackValid {r r' : RecorderImpl}
    (h : Creates s t r r' client session track p extra m) :
    t.backends.isTrackValid k = (s.backends.isTrackValid k ||
      (p.formatType.isEncoded && getUniqueServiceTrackId client session track == k)) := by
  rw [Backends.isTrackValid, h.encoders]
  cases p.formatType.isEncoded with
  | true =>
    rw [if_pos rfl, Bool.true_and, Bool.eq_iff_iff, Bool.or_eq_true, beq_iff_eq,
      Backends.isTrackValid, Std.ExtTreeMap.contains_iff_mem, Std.ExtTreeMap.contains_iff_mem,
      Std.ExtTreeMap.mem_insertIfNew, Std.compare_eq_iff_eq, or_comm]
  | false => simp [Backends.isTrackValid]

/-! ### Runs -/

/-- The recorder goes away with the client. -/
def isLast (s : MediaService) (client : UInt32) : Bool :=
  (s.service.deathNotifierList.erase client).isEmpty && (s.service.remoteCbList.erase client).isEmpty

theorem forget_eq {r r' : RecorderImpl} (h : (s.service.forget r client).recorder = some r') :
    s.isLast client = false ∧ r' = r := by
  refine ⟨?_, Service.recorder_forget h⟩
  unfold Service.forget at h
  dsimp only at h
  split at h
  · simp at h
  · next hlast => exact Bool.eq_false_iff.mpr hlast

/-- Every registered video track has its back ends. -/
def TracksBacked (s : MediaService) : Prop :=
  ∀ r c i k id f, s.recorder = some r → r.track c i k = some ⟨id, .video f⟩ →
    MediaRecorder.HasBackends s.backends id f

/-- The requests after which every track has its back ends: no RGB track asks for a stream of its
own when its id has no source, no track is deleted whose service id another track has, and no client
dies that shares one with another client. -/
def keepsBacked (s : MediaService) (a : MediaRequest) : Bool :=
  s.recorder.all fun r =>
    match a.request with
    | .createVideoTrack client session track p extra m =>
      !(p.formatType == .rgb && s.createsStream r client session track p extra m &&
        !s.backends.isTrackIdValid (getUniqueServiceTrackId client session track))
    | .deleteVideoTrack client session track _ =>
      match r.track client session track with
      | some ⟨id, .video _⟩ => !r.sharesId client session track id
      | _ => true
    | .clientDeath client _ => s.isLast client || !r.sharesIds client
    | _ => true

/-- The video tracks in `P` have what is demanded of their back ends. -/
def Backed (B : Backends → UInt32 → VideoFormat → Prop) (P : UInt32 → UInt32 → UInt32 → Prop)
    (s : MediaService) : Prop :=
  ∀ r, s.recorder = some r → MediaRecorder.BackedFor B P ⟨r, s.backends⟩

theorem tracksBacked_iff : TracksBacked s ↔ Backed MediaRecorder.HasBackends (fun _ _ _ => True) s :=
  ⟨fun h r hr c i k id f _ ht => h r c i k id f hr ht,
    fun h r c i k id f hr ht => h r hr c i k id f trivial ht⟩

section Demand

open MediaRecorder (Demand BackedFor Apart)

variable {B : Backends → UInt32 → VideoFormat → Prop} {P : UInt32 → UInt32 → UInt32 → Prop}

/-- The recorder keeps its video tracks, and the back ends keep theirs. -/
theorem Backed.keeps (hB : Demand B) (hs : Backed B P s)
    (hk : ∀ r', t.recorder = some r' → KeepsVideo (s.recorder.getD {}) r' ∧
      s.backends.SameTracks t.backends) : Backed B P t := by
  intro r' hr' c i k id f hP ht
  obtain ⟨hkeep, hb⟩ := hk r' hr'
  have hold := (hkeep.tracks c i k id f).mp ht
  cases hr : s.recorder with
  | none => simp [hr, RecorderImpl.track, tracks, sessions] at hold
  | some r =>
    rw [hr] at hold
    exact hB.sameTracks (hs r hr c i k id f hP hold) hb

theorem Backed.onService {request : Request} (hB : Demand B) (hs : Backed B P s)
    (hk : ∀ u, s.service.step request = .ok (st, u) → ∀ r', u.recorder = some r' →
      KeepsVideo (s.recorder.getD {}) r')
    (h : s.onService request = .ok (st, t)) : Backed B P t := by
  obtain ⟨⟨st', u⟩, hu, h⟩ := Library.bind_eq_ok_iff.mp h
  obtain ⟨rfl, rfl⟩ := Prod.mk.inj (Except.ok.inj h)
  refine hs.keeps hB fun r' hr' => ⟨hk u hu r' hr', ?_⟩
  have hr' : u.recorder = some r' := hr'
  simp only [withService, hr', Option.isNone_some, Bool.false_eq_true, if_false]
  exact .refl

theorem Backed.onRecorder {f : MediaRecorder → Except Abort (Status × MediaRecorder)}
    (h : s.onRecorder f = .ok (st, t)) (hs : Backed B P s)
    (hf : ∀ r u, s.recorder = some r → BackedFor B P ⟨r, s.backends⟩ → f ⟨r, s.backends⟩ = .ok (st, u) →
      BackedFor B P u) : Backed B P t := by
  unfold MediaService.onRecorder at h
  split at h
  · obtain ⟨-, rfl⟩ := Prod.mk.inj (Except.ok.inj h)
    exact hs
  · next r hr =>
    obtain ⟨⟨st', u⟩, hu, h⟩ := Library.bind_eq_ok_iff.mp h
    obtain ⟨rfl, rfl⟩ := Prod.mk.inj (Except.ok.inj h)
    intro r' hr'
    obtain rfl := Option.some.inj hr'
    exact hf r u hr (hs r hr) hu

theorem Backed.onCamera {f : CameraService → Except Abort (Status × CameraService)} (hB : Demand B)
    (h : s.onCamera f = .ok (st, t)) (hs : Backed B P s)
    (hf : ∀ u, f s.camera = .ok (st, u) → u.source.trackSources = s.backends.source.trackSources ∧
      ∀ r', u.service.recorder = some r' → KeepsVideo (s.recorder.getD {}) r') : Backed B P t := by
  obtain ⟨⟨st', u⟩, hu, h⟩ := Library.bind_eq_ok_iff.mp h
  obtain ⟨rfl, rfl⟩ := Prod.mk.inj (Except.ok.inj h)
  obtain ⟨hsources, hk⟩ := hf u hu
  exact hs.keeps hB fun r' hr' => ⟨hk r' hr', hsources, fun _ => .rfl⟩

theorem Backed.clientDeath (hB : Demand B) (hs : Backed B P s)
    (hg : ∀ r, s.recorder = some r → s.isLast client = false → ∀ i k id f,
      r.track client i k = some ⟨id, .video f⟩ → ∀ c i' k' g, P c i' k' ∧ c ≠ client →
        r.track c i' k' ≠ some ⟨id, .video g⟩)
    (h : s.clientDeath client m = .ok (st, t)) : Backed B P t := by
  unfold MediaService.clientDeath at h
  split at h
  · obtain ⟨-, rfl⟩ := Prod.mk.inj (Except.ok.inj h)
    exact hs
  next r hr =>
  split at h
  · obtain ⟨-, rfl⟩ := Prod.mk.inj (Except.ok.inj h)
    exact hs
  split at h
  · obtain ⟨-, rfl⟩ := Prod.mk.inj (Except.ok.inj h)
    exact hs
  split at h
  · obtain ⟨-, rfl⟩ := Prod.mk.inj (Except.ok.inj h)
    intro r' hr'
    have hr' : (s.service.forget r client).recorder = some r' := hr'
    obtain ⟨-, rfl⟩ := forget_eq hr'
    simp only [withService, hr', Option.isNone_some, Bool.false_eq_true, if_false]
    exact hs _ hr
  · obtain ⟨u, hu, h⟩ := Library.bind_eq_ok_iff.mp h
    obtain ⟨-, rfl⟩ := Prod.mk.inj (Except.ok.inj h)
    intro r' hr' c i k id f hP ht
    have hr' : (s.service.forget u.recorder client).recorder = some r' := hr'
    obtain ⟨hlast, rfl⟩ := forget_eq hr'
    simp only [withService, hr', Option.isNone_some, Bool.false_eq_true, if_false]
    have happart : Apart B (fun c i k => P c i k ∧ c ≠ client) client ⟨r, s.backends⟩ :=
      ⟨fun c i k id f hc ht => hs r hr c i k id f hc.1 ht, hg r hr hlast⟩
    refine happart.forceCleanup hB hu c i k id f ?_ ht
    by_cases hc : c = client
    · exact .inr hc
    · exact .inl ⟨hP, hc⟩

/-- Only a creation, a deletion and the death of a client touch what a track needs. -/
theorem Backed.step {a : MediaRequest} (hB : Demand B) (hs : Backed B P s)
    (h : s.step a = .ok (st, t))
    (hcreate : ∀ client session track p extra m,
      a.request = .createVideoTrack client session track p extra m →
        s.createVideoTrack client session track p extra m a.stream = .ok (st, t) → Backed B P t)
    (hdelete : ∀ client session track m r id f, a.request = .deleteVideoTrack client session track m →
      s.recorder = some r → r.track client session track = some ⟨id, .video f⟩ →
        ∀ c i k g, P c i k → r.track c i k = some ⟨id, .video g⟩ → client = c ∧ session = i ∧ track = k)
    (hdeath : ∀ client m r, a.request = .clientDeath client m → s.recorder = some r →
      s.isLast client = false → ∀ i k id f, r.track client i k = some ⟨id, .video f⟩ →
        ∀ c i' k' g, P c i' k' ∧ c ≠ client → r.track c i' k' ≠ some ⟨id, .video g⟩) : Backed B P t := by
  obtain ⟨request, stream⟩ := a
  have hplain : ∀ {a : Request}, a.isHarmless = true → s.onService a = .ok (st, t) →
      Backed B P t := fun ha h =>
    hs.onService hB (fun v hv r' hr' => (Service.harmless_step ha hv r' hr').toKeepsVideo) h
  cases request with
  | connect | disconnect | deleteSession | pauseSession | createAudioTrack
  | deleteAudioTrack | cameraResult | cameraError => exact hplain rfl h
  | resumeSession => exact hplain rfl (onService_of_resumeSession h)
  | startCamera client camera slave m =>
    refine .onCamera (f := fun c => c.startCamera client camera slave m) hB h hs fun v hv => ?_
    obtain ⟨⟨st', hservice⟩, hsources⟩ := CameraService.startCamera_service hv
    exact ⟨hsources, fun r' hr' => (Service.harmless_step rfl hservice r' hr').toKeepsVideo⟩
  | stopCamera client camera m =>
    refine .onCamera (f := fun c => c.stopCamera client camera m) hB h hs fun v hv => ?_
    obtain ⟨⟨st', hservice⟩, hsources⟩ := CameraService.stopCamera_service hv
    exact ⟨hsources, fun r' hr' => (Service.harmless_step rfl hservice r' hr').toKeepsVideo⟩
  | createSession client =>
    refine hs.onService hB (fun v hv r' hr' => ?_) h
    rcases Service.onRecorder_cases hv with ⟨hnone, -, rfl⟩ | ⟨r, r₁, hr, hok, rfl⟩
    · simp [hnone] at hr'
    · obtain rfl := Option.some.inj hr'
      rw [recorder, hr]
      exact keepsVideo_createSession hok
  | startSession client session m =>
    refine .onRecorder (f := fun r => r.startSession m client session) h hs fun r v hr hold hv => ?_
    obtain ⟨hkeep, hb⟩ := MediaRecorder.startSession_ok hv
    exact hold.keepsVideo hB hkeep hb
  | stopSession client session m =>
    refine .onRecorder (f := fun r => r.stopSession m client session) h hs fun r v hr hold hv => ?_
    obtain ⟨hkeep, hb⟩ := MediaRecorder.stopSession_ok hv
    exact hold.keepsVideo hB hkeep hb
  | clientDeath client m => exact hs.clientDeath hB (fun r => hdeath client m r rfl) h
  | createVideoTrack client session track p extra m => exact hcreate _ _ _ _ _ _ rfl h
  | deleteVideoTrack client session track m =>
    refine .onRecorder
      (f := fun r => r.deleteVideoTrack s.service.remoteCb m client session track) h hs
      fun r v hr hold hv => ?_
    exact hold.deleteVideoTrack hB (fun id f ht => hdelete _ _ _ _ r id f rfl hr ht) hv

end Demand

theorem TracksBacked.createVideoTrack (hs : TracksBacked s)
    (hg : ∀ r, s.recorder = some r → p.formatType = .rgb →
      s.createsStream r client session track p extra m = true →
        s.backends.isTrackIdValid (getUniqueServiceTrackId client session track) = true)
    (h : s.createVideoTrack client session track p extra m ans = .ok (st, t)) : TracksBacked t := by
  obtain ⟨⟨-, hsrc⟩, hcases⟩ := createVideoTrack_ok h
  rcases hcases with ⟨henc, hservice⟩ | ⟨r, r', hr, hservice, hnew⟩
  · have hold : ∀ id f, MediaRecorder.HasBackends s.backends id f →
        MediaRecorder.HasBackends t.backends id f := by
      rintro id f ⟨hid, he⟩
      exact ⟨hsrc id hid, fun hf => by rw [Backends.isTrackValid, henc]; exact he hf⟩
    intro r' c i k id f hr' ht
    rcases hservice with heq | ⟨r, tm, hr, heq⟩
    · exact hold id f (hs r' c i k id f ((congrArg Service.recorder heq).symm.trans hr') ht)
    · have hr₁ : some { r with timelapseMode := tm } = some r' :=
        (congrArg Service.recorder heq).symm.trans hr'
      obtain rfl := Option.some.inj hr₁
      exact hold id f (hs r c i k id f hr ht)
  intro r₁ c i k id f hr₁ ht
  have heq : some r' = some r₁ := (congrArg Service.recorder hservice).symm.trans hr₁
  obtain rfl := Option.some.inj heq
  rw [hnew.registers.2] at ht
  split at ht
  · obtain ⟨rfl, hf⟩ := TrackInfo.mk.inj (Option.some.inj ht)
    obtain rfl := TrackFormat.video.inj hf
    refine ⟨?_, fun hf => by simp [hnew.isTrackValid, hf]⟩
    rcases hnew.source with hvalid | ⟨hrgb, hown⟩
    · exact hvalid
    · exact hsrc _ (hg r hr hrgb hown)
  · obtain ⟨hid, he⟩ := hs r c i k id f hr ht
    exact ⟨hsrc id hid, fun hf => by simp [hnew.isTrackValid, he hf]⟩

theorem tracksBacked_step : (lts.guarded fun s a => keepsBacked s a).TrInv TracksBacked := by
  rintro s ⟨request, stream⟩ t ⟨hstep, hguard⟩ hs
  have hstep : s.next ⟨request, stream⟩ = some t := hstep
  unfold next at hstep
  split at hstep
  case h_2 => simp at hstep
  next st u h =>
  obtain rfl := Option.some.inj hstep
  refine tracksBacked_iff.mpr ((tracksBacked_iff.mp hs).step MediaRecorder.demand_hasBackends h ?_ ?_ ?_)
  · rintro client session track p extra m rfl h
    refine tracksBacked_iff.mp (hs.createVideoTrack (fun r hr hrgb hown => ?_) h)
    simpa [keepsBacked, hr, hrgb, hown] using hguard
  · rintro client session track m r id f rfl hr ht c i k g - hk
    have hnot : r.sharesId client session track id = false := by
      simpa [keepsBacked, hr, ht] using hguard
    exact eq_of_not_sharesId hnot hk
  · rintro client m r rfl hr hlast i k id f ht c i' k' g hc
    have hnot : r.sharesIds client = false := by simpa [keepsBacked, hr, hlast] using hguard
    exact apart_of_not_sharesIds hnot i k id f ht c i' k' g hc.2

theorem tracksBacked_initial : TracksBacked {} := by
  intro r c i k id f hr
  have hr : (none : Option RecorderImpl) = some r := hr
  simp at hr

/-- In a run whose requests all keep the back ends, every registered video track has its source,
and its encoder when it is encoded. -/
theorem tracks_backed_of_keepsBacked
    (h : (lts.guarded fun s a => keepsBacked s a).MTr {} as s) : TracksBacked s :=
  Library.LTS.inv_of_mTr tracksBacked_step h tracksBacked_initial

/-- An encoded track and an RGB copy of it, which is deleted while the session runs. -/
def copiedTrackRun : List MediaRequest :=
  [⟨.connect .noError, {}⟩, ⟨.connect .noError, {}⟩, ⟨.startCamera 1 0 false {}, {}⟩,
    ⟨.createSession 1, {}⟩,
    ⟨.createVideoTrack 1 1 5 ⟨0, 640, 480, .avc⟩ {} {}, {}⟩,
    ⟨.createVideoTrack 1 1 6 ⟨0, 640, 480, .rgb⟩ { sourceVideoTrackId := some 5 } {}, {}⟩,
    ⟨.startSession 1 1 {}, {}⟩, ⟨.deleteVideoTrack 1 1 6 {}, {}⟩]

theorem tracks_backed_copied_track :
    ∃ s, (lts.guarded fun s a => keepsBacked s a).MTr {} copiedTrackRun s ∧
      s.backends.source.trackSources.keys = [0x01010005] ∧
      s.backends.trackEncoders.keys = [0x01010005] ∧ TracksBacked s := by
  have hrun : (Library.LTS.run next {} copiedTrackRun).map (fun s =>
      (s.backends.source.trackSources.keys, s.backends.trackEncoders.keys)) =
        some ([0x01010005], [0x01010005]) := by decide
  obtain ⟨s, hs, heq⟩ := Option.map_eq_some_iff.mp hrun
  obtain ⟨hsources, hencoders⟩ := Prod.mk.inj heq
  have hmeets : Library.LTS.Meets next (fun s a => keepsBacked s a = true) {} copiedTrackRun := by
    decide
  have hmtr := Library.LTS.mTr_guarded_iff.mpr ⟨hs, hmeets⟩
  exact ⟨s, hmtr, hsources, hencoders, tracks_backed_of_keepsBacked hmtr⟩

/-- An RGB track is registered, though no source was made for it. -/
theorem rgb_track_has_no_source :
    ¬ ∀ (as : List MediaRequest) (s : MediaService), lts.MTr {} as s → TracksBacked s := by
  intro hall
  have hrun : (Library.LTS.run next {}
      [⟨.connect .noError, {}⟩, ⟨.startCamera 1 0 false {}, {}⟩, ⟨.createSession 1, {}⟩,
        ⟨.createVideoTrack 1 1 5 ⟨0, 640, 480, .rgb⟩ {} {}, {}⟩]).bind (fun s =>
          s.recorder.map fun r => (r.track 1 1 5, s.backends.isTrackIdValid 0x01010005)) =
            some (some ⟨0x01010005, .video .rgb⟩, false) := by decide
  obtain ⟨s, hs, hr⟩ := Option.bind_eq_some_iff.mp hrun
  obtain ⟨r, hr, heq⟩ := Option.map_eq_some_iff.mp hr
  obtain ⟨htrack, hnone⟩ := Prod.mk.inj heq
  have hbacked := hall _ s (Library.LTS.mTr_ofStep_iff.mpr hs) r 1 1 5 _ _ hr htrack
  exact Bool.false_ne_true (hnone.symm.trans hbacked.1)

end MediaService

end QmmfSdk.Recorder
