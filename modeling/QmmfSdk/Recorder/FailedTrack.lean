import QmmfSdk.Recorder.BackedTracks
import QmmfSdk.Recorder.SourceTracks

/-! A `CreateVideoTrack` that fails: what it leaves in the registries of the recorder, the camera
source and the encoder core. -/
namespace QmmfSdk.Recorder

open Library

namespace CameraSource

/-- The context can give a track a stream of its own. -/
def MakesStream (id : UInt32) (ans : CameraContext.StreamAnswers) (ctx : CameraContext) : Prop :=
  id ≠ 0 ∧ (1 < ctx.batchSize ∨ ans.batch.isSome) ∧ ans.init = true

/-- With this context, a format other than RGB gets a track source. -/
def MakesSourceOn (src : CameraSource) (id : UInt32) (p : VideoTrackCreateParam)
    (source : Option UInt32) (ans : CameraContext.StreamAnswers) (ctx : CameraContext) : Prop :=
  match source with
  | none => MakesStream id ans ctx
  | some sourceId => ∃ master, src.trackSources[sourceId]? = some master ∧
      if validateSlaveTrackParam p master.params then
        checkLinkedStream p master.params = true ∨ ans.rescaler = true
      else MakesStream id ans ctx

def MakesSource (src : CameraSource) (id : UInt32) (p : VideoTrackCreateParam)
    (source : Option UInt32) (ans : CameraContext.StreamAnswers) : Prop :=
  ∃ ctx, src.cameraMap[p.cameraId]? = some ctx ∧ src.MakesSourceOn id p source ans ctx

/-- A copy of another size or format gets a rescaler. -/
def makesRescaler (src : CameraSource) (p : VideoTrackCreateParam) (source : Option UInt32)
    (ans : CameraContext.StreamAnswers) : Bool :=
  src.cameraMap.contains p.cameraId && source.any fun sourceId =>
    src.trackSources[sourceId]?.any fun master => validateSlaveTrackParam p master.params &&
      !checkLinkedStream p master.params && ans.rescaler

variable {src src' : CameraSource} {id : UInt32} {p : VideoTrackCreateParam}
  {source : Option UInt32} {ans : CameraContext.StreamAnswers} {ctx ctx' : CameraContext}
  {st : Status}

theorem createStream_made_iff (h : ctx.createStream id p ans = .ok (st, ctx')) :
    st = .noError ↔ MakesStream id ans ctx := by
  unfold CameraContext.createStream at h
  split at h
  · cases h
  next hid =>
  split at h
  next hbatch =>
    obtain ⟨rfl, -⟩ := Prod.mk.inj (Except.ok.inj h)
    refine iff_of_false nofun fun hmakes => ?_
    split at hbatch
    · cases hbatch
    next hdefault => simp [MakesStream, hdefault, hbatch] at hmakes
  next batch hbatch =>
    have hsome : 1 < ctx.batchSize ∨ ans.batch.isSome := by
      split at hbatch
      next hdefault => exact .inl hdefault
      next => exact .inr (by rw [hbatch]; rfl)
    dsimp only at h
    split at h
    next hinit =>
      obtain ⟨rfl, -⟩ := Prod.mk.inj (Except.ok.inj h)
      refine iff_of_false nofun fun hmakes => ?_
      simp [hmakes.2.2] at hinit
    next hinit =>
      obtain ⟨rfl, -⟩ := Prod.mk.inj (Except.ok.inj h)
      exact iff_of_true rfl ⟨hid, hsome, by simpa using hinit⟩

/-- A stream of its own is made with its source, or neither is. -/
theorem createOwnTrack_made (hrgb : p.formatType ≠ .rgb)
    (hctx : src.cameraMap[p.cameraId]? = some ctx)
    (h : src.createOwnTrack id p ans = .ok (st, src')) :
    (MakesStream id ans ctx ∧ st = .noError ∧
      src'.trackSources = src.trackSources.insertIfNew id { params := p, slave := false }) ∨
    (¬ MakesStream id ans ctx ∧ st ≠ .noError ∧ src'.trackSources = src.trackSources) := by
  unfold createOwnTrack at h
  rw [if_neg hrgb] at h
  obtain ⟨⟨st₁, src₁⟩, hstream, h⟩ := bind_eq_ok_iff.mp h
  obtain ⟨hnone, -⟩ | ⟨ctx₁, ctx', hsome, hmade, rfl⟩ := onCamera_ok hstream
  · exact absurd (hctx.symm.trans hnone) nofun
  obtain rfl := Option.some.inj (hctx.symm.trans hsome)
  have hiff := createStream_made_iff hmade
  dsimp only at h
  split at h
  next hfailed =>
    obtain ⟨rfl, rfl⟩ := Prod.mk.inj (Except.ok.inj h)
    exact .inr ⟨fun hmakes => hfailed (hiff.mpr hmakes), nofun, rfl⟩
  next hok =>
    obtain ⟨rfl, rfl⟩ := Prod.mk.inj (Except.ok.inj h)
    exact .inl ⟨hiff.mp (not_not.mp hok), rfl, rfl⟩

/-- `CreateTrackSource` of a format other than RGB registers a source, or fails and does not. -/
theorem createTrackSource_made (hrgb : p.formatType ≠ .rgb)
    (h : src.createTrackSource id p source ans = .ok (st, src')) :
    (src.MakesSource id p source ans ∧ st = .noError ∧
      ∃ track, src'.trackSources = src.trackSources.insertIfNew id track) ∨
    (¬ src.MakesSource id p source ans ∧ st ≠ .noError ∧ src'.trackSources = src.trackSources) := by
  unfold createTrackSource at h
  split at h
  next hclosed =>
    obtain ⟨rfl, rfl⟩ := Prod.mk.inj (Except.ok.inj h)
    refine .inr ⟨?_, nofun, rfl⟩
    rintro ⟨ctx, hctx, -⟩
    exact hclosed (Std.ExtTreeMap.mem_iff_isSome_getElem?.mpr (by rw [hctx]; rfl))
  next hopen =>
  have hctx := Std.ExtTreeMap.getElem?_eq_some_getElem (not_not.mp hopen)
  simp only [MakesSource, hctx, Option.some.injEq, exists_eq_left', MakesSourceOn]
  cases source with
  | none =>
    obtain ⟨hstream, hst, htracks⟩ | hfails := createOwnTrack_made hrgb hctx h
    · exact .inl ⟨hstream, hst, _, htracks⟩
    · exact .inr hfails
  | some sourceId =>
    dsimp only at h ⊢
    split at h
    · cases h
    next master hmaster =>
    simp only [hmaster, Option.some.injEq, exists_eq_left']
    cases hvalid : validateSlaveTrackParam p master.params with
    | false =>
      simp only [hvalid, Bool.not_false, if_true, Bool.false_eq_true, if_false] at h ⊢
      obtain ⟨hstream, hst, htracks⟩ | hfails := createOwnTrack_made hrgb hctx h
      · exact .inl ⟨hstream, hst, _, htracks⟩
      · exact .inr hfails
    | true =>
      simp only [hvalid, Bool.not_true, Bool.false_eq_true, if_true, if_false] at h ⊢
      split at h
      next hlinked =>
        obtain ⟨rfl, rfl⟩ := Prod.mk.inj (Except.ok.inj h)
        exact .inl ⟨.inl hlinked, rfl, _, rfl⟩
      next hlinked =>
      split at h
      next hfailed =>
        obtain ⟨rfl, rfl⟩ := Prod.mk.inj (Except.ok.inj h)
        rw [Bool.not_eq_true'] at hfailed
        exact .inr ⟨by simp [hlinked, hfailed], nofun, rfl⟩
      next hok =>
        obtain ⟨rfl, rfl⟩ := Prod.mk.inj (Except.ok.inj h)
        exact .inl ⟨.inr (by simpa using hok), rfl, _, rfl⟩

/-- Where a source can be made, it is. -/
theorem createTrackSource_of_makes (hrgb : p.formatType ≠ .rgb)
    (hmakes : src.MakesSource id p source ans) :
    ∃ src' track, src.createTrackSource id p source ans = .ok (.noError, src') ∧
      src'.trackSources = src.trackSources.insertIfNew id track := by
  have haccepts : src.AcceptsSource id p source := by
    obtain ⟨ctx, -, hmakes⟩ := hmakes
    cases source with
    | none => exact .inr hmakes.1
    | some sourceId =>
      obtain ⟨master, hmaster, hmakes⟩ := hmakes
      refine ⟨master, hmaster, ?_⟩
      split at hmakes
      next hvalid => exact .inl hvalid
      next => exact .inr (.inr hmakes.1)
  obtain ⟨⟨st, src'⟩, hout, -⟩ := (createTrackSource_normal_iff ans).mpr fun _ => haccepts
  obtain ⟨-, rfl, track, htracks⟩ | ⟨hnot, -, -⟩ := createTrackSource_made hrgb hout
  · exact ⟨src', track, hout, htracks⟩
  · exact absurd hmakes hnot

theorem createOwnTrack_failed (h : src.createOwnTrack id p ans = .ok (st, src'))
    (hst : st ≠ .noError) : src'.trackSources = src.trackSources := by
  unfold createOwnTrack at h
  split at h
  · obtain ⟨rfl, rfl⟩ := Prod.mk.inj (Except.ok.inj h)
    rfl
  obtain ⟨⟨st₁, src₁⟩, hstream, h⟩ := bind_eq_ok_iff.mp h
  dsimp only at h
  split at h
  · obtain ⟨rfl, rfl⟩ := Prod.mk.inj (Except.ok.inj h)
    exact trackSources_onCamera hstream
  · obtain ⟨rfl, rfl⟩ := Prod.mk.inj (Except.ok.inj h)
    exact absurd rfl hst

/-- A source that was not made is not registered, and neither is a rescaler for it. -/
theorem createTrackSource_failed (h : src.createTrackSource id p source ans = .ok (st, src'))
    (hst : st ≠ .noError) :
    src'.trackSources = src.trackSources ∧ src.makesRescaler p source ans = false := by
  unfold createTrackSource at h
  split at h
  next hclosed =>
    obtain ⟨rfl, rfl⟩ := Prod.mk.inj (Except.ok.inj h)
    exact ⟨rfl, by simp [makesRescaler, hclosed]⟩
  cases source with
  | none => exact ⟨createOwnTrack_failed h hst, by simp [makesRescaler]⟩
  | some sourceId =>
    dsimp only at h
    split at h
    · cases h
    next master hmaster =>
    split at h
    next hinvalid =>
      refine ⟨createOwnTrack_failed h hst, ?_⟩
      rw [Bool.not_eq_true'] at hinvalid
      simp [makesRescaler, hmaster, hinvalid]
    next =>
    split at h
    next =>
      obtain ⟨rfl, rfl⟩ := Prod.mk.inj (Except.ok.inj h)
      exact absurd rfl hst
    split at h
    next hfailed =>
      obtain ⟨rfl, rfl⟩ := Prod.mk.inj (Except.ok.inj h)
      rw [Bool.not_eq_true'] at hfailed
      exact ⟨rfl, by simp [makesRescaler, hfailed]⟩
    next =>
      obtain ⟨rfl, rfl⟩ := Prod.mk.inj (Except.ok.inj h)
      exact absurd rfl hst

end CameraSource

/-- The service with the ids of `rescalers_`. -/
structure RegistryService where
  media : MediaService := {}
  rescalers : Std.ExtTreeSet UInt32 := ∅

namespace RegistryService

theorem insert_of_mem {ids : Std.ExtTreeSet UInt32} {id : UInt32} (h : id ∈ ids) :
    ids.insert id = ids := by
  apply Std.ExtTreeSet.ext_mem
  intro k
  rw [Std.ExtTreeSet.mem_insert, Std.compare_eq_iff_eq]
  exact or_iff_right_of_imp fun heq => heq ▸ h

/-- The request gets to `CreateTrackSource`, with this track to copy. -/
structure Reaches (s : RegistryService) (r : RecorderImpl) (client session track : UInt32)
    (p : VideoTrackCreateParam) (extra : VideoExtraParam) (m : Media) (source : Option UInt32) :
    Prop where
  recorder : s.media.recorder = some r
  checks : CameraService.checksTrack r client session track = true
  resolved : r.resolveSourceTrack (s.media.trackMedia m) p extra = .ok true
  found : CameraService.sourceTrack r (s.media.trackMedia m) client p extra = .ok source

/-- Whether the request makes a rescaler. -/
def makesRescaler (s : RegistryService) (client session track : UInt32) (p : VideoTrackCreateParam)
    (extra : VideoExtraParam) (m : Media) (ans : CameraContext.StreamAnswers) : Bool :=
  s.media.recorder.any fun r => CameraService.checksTrack r client session track &&
    match r.resolveSourceTrack (s.media.trackMedia m) p extra,
      CameraService.sourceTrack r (s.media.trackMedia m) client p extra with
    | .ok true, .ok source => s.media.backends.source.makesRescaler p source ans
    | _, _ => false

def createVideoTrack (s : RegistryService) (client session track : UInt32) (p : VideoTrackCreateParam)
    (extra : VideoExtraParam) (m : Media) (ans : CameraContext.StreamAnswers) :
    Except Abort (Status × RegistryService) := do
  let (st, t) ← s.media.createVideoTrack client session track p extra m ans
  .ok (st, ⟨t, if s.makesRescaler client session track p extra m ans then
    s.rescalers.insert (RecorderImpl.getUniqueServiceTrackId client session track)
    else s.rescalers⟩)

/-- A rescaler is erased with the source of its track, by `DeleteTrackSource`. -/
def step (s : RegistryService) (a : MediaRequest) : Except Abort (Status × RegistryService) :=
  match a.request with
  | .createVideoTrack client session track p extra m =>
    s.createVideoTrack client session track p extra m a.stream
  | _ => do
    let (st, t) ← s.media.step a
    .ok (st, ⟨t, s.rescalers.filter fun id => t.backends.source.trackSources.contains id⟩)

/-- The state after a request that returns, whatever status it returns. -/
def next (s : RegistryService) (a : MediaRequest) : Option RegistryService :=
  match s.step a with
  | .ok (_, t) => some t
  | .error _ => none

def lts : LTS RegistryService MediaRequest := .ofStep next

def registries (r : RecorderImpl) :=
  (r.timelapseMode, r.cameraTracksMap, r.clientSessionMap)

/-- The registries that a new track goes through. -/
structure SameRegistries (s t : RegistryService) : Prop where
  trackSources : t.media.backends.source.trackSources = s.media.backends.source.trackSources
  rescalers : t.rescalers = s.rescalers
  trackEncoders : t.media.backends.trackEncoders = s.media.backends.trackEncoders
  recorder : t.media.recorder.map registries = s.media.recorder.map registries

/-- The encoder core refuses an encoded track after its source, which is new or comes with a new
rescaler, was made. -/
def RefusedByEncoder (s : RegistryService) (client session track : UInt32) (p : VideoTrackCreateParam)
    (extra : VideoExtraParam) (m : Media) (ans : CameraContext.StreamAnswers) : Prop :=
  let id := RecorderImpl.getUniqueServiceTrackId client session track
  (p.formatType.isEncoded = true ∧ m.video.addSource id ≠ .noError) ∧
    ∃ r source, s.Reaches r client session track p extra m source ∧
      s.media.backends.source.MakesSource id p source ans ∧
      (id ∉ s.media.backends.source.trackSources ∨
        s.media.backends.source.makesRescaler p source ans = true ∧ id ∉ s.rescalers)

variable {s t : RegistryService} {r : RecorderImpl} {client session track : UInt32}
  {p : VideoTrackCreateParam} {extra : VideoExtraParam} {m : Media}
  {ans : CameraContext.StreamAnswers} {st : Status} {source : Option UInt32}

theorem makesRescaler_of_reaches (h : s.Reaches r client session track p extra m source) :
    s.makesRescaler client session track p extra m ans =
      s.media.backends.source.makesRescaler p source ans := by
  simp [makesRescaler, h.recorder, h.checks, h.resolved, h.found]

theorem reaches_of_makesRescaler (h : s.makesRescaler client session track p extra m ans = true) :
    ∃ r source, s.Reaches r client session track p extra m source := by
  unfold makesRescaler at h
  cases hr : s.media.recorder with
  | none => simp [hr] at h
  | some r =>
    simp only [hr, Option.any_some, Bool.and_eq_true] at h
    obtain ⟨hchecks, h⟩ := h
    split at h
    next source hgo hsource => exact ⟨r, source, hr, hchecks, hgo, hsource⟩
    next => cases h

/-- What a request that reaches `CreateTrackSource` comes to. -/
theorem createVideoTrack_of_reaches {st₁ : Status} {src' : CameraSource} {r' : RecorderImpl}
    (hreach : s.Reaches r client session track p extra m source)
    (hsrc : s.media.backends.source.createTrackSource
      (RecorderImpl.getUniqueServiceTrackId client session track) p source ans = .ok (st₁, src'))
    (hr' : r.createVideoTrack ((s.media.trackMedia m).answering st₁) client session track p extra =
      .ok (st, r')) :
    ∃ t, s.createVideoTrack client session track p extra m ans = .ok (st, t) ∧
      t.media.recorder = some r' ∧ t.media.backends.source = src' ∧
      (st ≠ .noError → t.media.backends.trackEncoders = s.media.backends.trackEncoders) ∧
      t.rescalers = if s.media.backends.source.makesRescaler p source ans then
        s.rescalers.insert (RecorderImpl.getUniqueServiceTrackId client session track)
        else s.rescalers := by
  have hcamera : s.media.camera.createVideoTrack client session track p extra
      (s.media.backends.media m) ans =
        .ok (st, { s.media.camera.setRecorder r' with source := src' }) := by
    have hr : s.media.camera.recorder = some r := hreach.recorder
    have hgo : r.resolveSourceTrack (s.media.camera.media (s.media.backends.media m)) p extra =
        .ok true := hreach.resolved
    have hsource : CameraService.sourceTrack r (s.media.camera.media (s.media.backends.media m))
        client p extra = .ok source := hreach.found
    unfold CameraService.createVideoTrack
    simp only [hr, hreach.checks, Bool.not_true, Bool.false_eq_true, if_false]
    refine bind_eq_ok_iff.mpr ⟨true, hgo, ?_⟩
    simp only [Bool.not_true, Bool.false_eq_true, if_false]
    exact bind_eq_ok_iff.mpr ⟨source, hsource, bind_eq_ok_iff.mpr ⟨(st₁, src'), hsrc,
      bind_eq_ok_iff.mpr ⟨(st, r'), hr', rfl⟩⟩⟩
  refine ⟨_, bind_eq_ok_iff.mpr ⟨(st, _), bind_eq_ok_iff.mpr ⟨(st, _),
    bind_eq_ok_iff.mpr ⟨_, hcamera, rfl⟩, rfl⟩, rfl⟩, ?_, ?_, ?_, ?_⟩
  · dsimp only
    split <;> rfl
  · dsimp only
    split <;> rfl
  · intro hst
    rw [if_neg fun h => hst h.1]
  · dsimp only
    rw [makesRescaler_of_reaches hreach]

theorem createVideoTrack_returns (hreach : s.Reaches r client session track p extra m source)
    (h : s.createVideoTrack client session track p extra m ans = .ok (st, t)) :
    ∃ st₁ src' r', s.media.backends.source.createTrackSource
        (RecorderImpl.getUniqueServiceTrackId client session track) p source ans = .ok (st₁, src') ∧
      r.createVideoTrack ((s.media.trackMedia m).answering st₁) client session track p extra =
        .ok (st, r') := by
  obtain ⟨⟨st₀, u⟩, hu, h⟩ := bind_eq_ok_iff.mp h
  obtain ⟨⟨st₂, v⟩, hv, hu⟩ := bind_eq_ok_iff.mp hu
  obtain ⟨⟨st₃, c⟩, hc, hv⟩ := bind_eq_ok_iff.mp hv
  obtain ⟨rfl, -⟩ := Prod.mk.inj (Except.ok.inj h)
  obtain ⟨rfl, -⟩ := Prod.mk.inj (Except.ok.inj hu)
  obtain ⟨rfl, -⟩ := Prod.mk.inj (Except.ok.inj hv)
  have hr : s.media.camera.recorder = some r := hreach.recorder
  have hgo : r.resolveSourceTrack (s.media.camera.media (s.media.backends.media m)) p extra =
      .ok true := hreach.resolved
  have hsource : CameraService.sourceTrack r (s.media.camera.media (s.media.backends.media m))
      client p extra = .ok source := hreach.found
  unfold CameraService.createVideoTrack at hc
  simp only [hr, hreach.checks, Bool.not_true, Bool.false_eq_true, if_false] at hc
  obtain ⟨go, hgo', hc⟩ := bind_eq_ok_iff.mp hc
  obtain rfl := Except.ok.inj (hgo.symm.trans hgo')
  simp only [Bool.not_true, Bool.false_eq_true, if_false] at hc
  obtain ⟨source', hsource', hc⟩ := bind_eq_ok_iff.mp hc
  obtain rfl := Except.ok.inj (hsource.symm.trans hsource')
  obtain ⟨⟨st₁, src'⟩, hsrc, hc⟩ := bind_eq_ok_iff.mp hc
  obtain ⟨⟨st₄, r'⟩, hr', hc⟩ := bind_eq_ok_iff.mp hc
  obtain ⟨rfl, -⟩ := Prod.mk.inj (Except.ok.inj hc)
  exact ⟨st₁, src', r', hsrc, hr'⟩

/-- A request that does not get to `CreateTrackSource` changes nothing. -/
theorem createVideoTrack_unreached
    (hnot : ¬ ∃ r source, s.Reaches r client session track p extra m source)
    (h : s.createVideoTrack client session track p extra m ans = .ok (st, t)) : t = s := by
  have hrescaler : s.makesRescaler client session track p extra m ans = false :=
    Bool.eq_false_iff.mpr fun hmakes => hnot (reaches_of_makesRescaler hmakes)
  obtain ⟨⟨st₀, u⟩, hu, h⟩ := bind_eq_ok_iff.mp h
  obtain ⟨⟨st₂, v⟩, hv, hu⟩ := bind_eq_ok_iff.mp hu
  obtain ⟨⟨st₃, c⟩, hc, hv⟩ := bind_eq_ok_iff.mp hv
  obtain ⟨rfl, rfl⟩ := Prod.mk.inj (Except.ok.inj h)
  obtain ⟨rfl, rfl⟩ := Prod.mk.inj (Except.ok.inj hu)
  obtain ⟨rfl, rfl⟩ := Prod.mk.inj (Except.ok.inj hv)
  obtain ⟨hst, rfl⟩ | ⟨r, r', source, st₁, hr, hchecks, hgo, hsource, -⟩ :=
    CameraService.createVideoTrack_ok hc
  · rw [hrescaler, if_neg fun h => hst h.1]
    rfl
  · exact absurd ⟨r, source, hr, hchecks, hgo, hsource⟩ hnot

/-- With its source made, a track can only be refused by the encoder core. -/
theorem refused_iff {r' : RecorderImpl} (hreach : s.Reaches r client session track p extra m source)
    (h : r.createVideoTrack ((s.media.trackMedia m).answering .noError) client session track p
      extra = .ok (st, r')) :
    st ≠ .noError ↔ p.formatType.isEncoded = true ∧
      m.video.addSource (RecorderImpl.getUniqueServiceTrackId client session track) ≠ .noError := by
  have hanswer : ∀ id, ((s.media.trackMedia m).answering .noError).video.createTrackSource id =
      .noError := fun _ => rfl
  have hencoder : ∀ id, ((s.media.trackMedia m).answering .noError).video.setTrackEncoderParams id =
      .noError := fun _ => rfl
  have hadd : ∀ id, ((s.media.trackMedia m).answering .noError).video.addSource id =
      m.video.addSource id := fun _ => rfl
  have hgo : r.resolveSourceTrack ((s.media.trackMedia m).answering .noError) p extra = .ok true :=
    CameraService.resolved_answering hreach.resolved
  have hchecks := hreach.checks
  simp only [CameraService.checksTrack, Bool.and_eq_true, Bool.not_eq_true'] at hchecks
  obtain ⟨⟨⟨-, hclient⟩, hsession⟩, htrack⟩ := hchecks
  by_cases hrefuses : p.formatType.isEncoded = true ∧
      m.video.addSource (RecorderImpl.getUniqueServiceTrackId client session track) ≠ .noError
  · simp [RecorderImpl.createVideoTrack, hclient, hsession, htrack, hgo, hanswer, hadd, hrefuses,
      bind, Except.bind] at h
    simp [hrefuses, ← h.1]
  · simp [RecorderImpl.createVideoTrack, hclient, hsession, htrack, hgo, hanswer, hadd, hencoder,
      hrefuses, bind, Except.bind] at h
    exact iff_of_false (not_not.mpr h.1.symm) hrefuses

/-- A failed request leaves the recorder's own registries alone. -/
theorem recorder_of_refused {r' : RecorderImpl} {st₁ : Status}
    (h : r.createVideoTrack ((s.media.trackMedia m).answering st₁) client session track p extra =
      .ok (st, r')) (hst : st ≠ .noError) : r' = r := by
  obtain ⟨-, rfl | ⟨hencoder, -⟩⟩ | ⟨hok, -⟩ := RecorderImpl.createVideoTrack_outcome h
  · rfl
  · exact absurd rfl hencoder
  · exact absurd hok hst

/-- A failed request leaves nothing behind exactly when it was not the encoder core that refused the
track. -/
theorem failed_leaves_nothing_iff :
    (∀ st t, s.createVideoTrack client session track p extra m ans = .ok (st, t) →
      st ≠ .noError → SameRegistries s t) ↔
      ¬ s.RefusedByEncoder client session track p extra m ans := by
  constructor
  · rintro hall ⟨⟨hencoded, hrefuses⟩, r, source, hreach, hmakes, hnew⟩
    have hrgb : p.formatType ≠ .rgb := by
      intro hrgb
      rw [hrgb] at hencoded
      cases hencoded
    obtain ⟨src', made, hsrc, htracks⟩ := CameraSource.createTrackSource_of_makes hrgb hmakes
    obtain ⟨⟨st, r'⟩, hr', -⟩ := RecorderImpl.createVideoTrack_normal client session track
      (m := (s.media.trackMedia m).answering .noError)
      ⟨true, CameraService.resolved_answering hreach.resolved, trivial⟩
    obtain ⟨t, ht, -, rfl, -, hrescalers⟩ := createVideoTrack_of_reaches hreach hsrc hr'
    have hsame := hall st t ht ((refused_iff hreach hr').mpr ⟨hencoded, hrefuses⟩)
    obtain hnew | ⟨hrescaler, hnew⟩ := hnew
    · apply hnew
      rw [← hsame.trackSources, htracks]
      exact Std.ExtTreeMap.mem_insertIfNew_self
    · apply hnew
      rw [← hsame.rescalers, hrescalers, if_pos hrescaler]
      exact Std.ExtTreeSet.mem_insert_self
  · intro hnot st t h hst
    by_cases hreach : ∃ r source, s.Reaches r client session track p extra m source
    · obtain ⟨r, source, hreach⟩ := hreach
      obtain ⟨st₁, src', r', hsrc, hr'⟩ := createVideoTrack_returns hreach h
      obtain ⟨u, hu, hrecorder, hsource, hencoders, hrescalers⟩ :=
        createVideoTrack_of_reaches hreach hsrc hr'
      obtain rfl := (Prod.mk.inj (Except.ok.inj (hu.symm.trans h))).2
      have hregistries : u.media.recorder.map registries = s.media.recorder.map registries := by
        rw [hrecorder, hreach.recorder, recorder_of_refused hr' hst]
      by_cases hmade : st₁ = .noError
      · subst hmade
        have hrefused := (refused_iff hreach hr').mp hst
        have hrgb : p.formatType ≠ .rgb := by
          intro hrgb
          rw [hrgb] at hrefused
          cases hrefused.1
        obtain ⟨hmakes, -, made, htracks⟩ | ⟨-, hfailed, -⟩ :=
          CameraSource.createTrackSource_made hrgb hsrc
        · have hold := not_or.mp fun hnew => hnot ⟨hrefused, r, source, hreach, hmakes, hnew⟩
          rw [not_not, not_and, not_not] at hold
          refine ⟨?_, ?_, hencoders hst, hregistries⟩
          · rw [hsource, htracks, OrdMap.insertIfNew_of_mem hold.1]
          · rw [hrescalers]
            split
            next hrescaler => exact insert_of_mem (hold.2 hrescaler)
            next => rfl
        · exact absurd rfl hfailed
      · obtain ⟨htracks, hrescaler⟩ := CameraSource.createTrackSource_failed hsrc hmade
        exact ⟨hsource ▸ htracks, by rw [hrescalers, hrescaler]; rfl, hencoders hst, hregistries⟩
    · obtain rfl := createVideoTrack_unreached hreach h
      exact ⟨rfl, rfl, rfl, rfl⟩

/-- The encoder core refuses the first track: its source stays. -/
theorem refused_track_leaves_source :
    ¬ ∀ (as : List MediaRequest) (s : RegistryService) (client session track : UInt32)
      (p : VideoTrackCreateParam) (extra : VideoExtraParam) (m : Media)
      (ans : CameraContext.StreamAnswers) (st : Status) (t : RegistryService), lts.MTr {} as s →
      s.createVideoTrack client session track p extra m ans = .ok (st, t) → st ≠ .noError →
      SameRegistries s t := by
  intro hall
  let m : Media := { video := { addSource := fun _ => .badValue } }
  have hrun : (LTS.run next {} [⟨.connect .noError, {}⟩, ⟨.startCamera 1 0 false {}, {}⟩,
      ⟨.createSession 1, {}⟩]).bind (fun s =>
        (s.createVideoTrack 1 1 5 ⟨0, 640, 480, .jpeg⟩ {} m {}).toOption.map fun out =>
          (decide (out.1 ≠ .noError), s.media.backends.source.trackSources.isEmpty,
            out.2.media.backends.source.trackSources.isEmpty)) = some (true, true, false) := by
    decide
  obtain ⟨s, hs, hout⟩ := Option.bind_eq_some_iff.mp hrun
  obtain ⟨out, hout, heq⟩ := Option.map_eq_some_iff.mp hout
  obtain ⟨hst, heq⟩ := Prod.mk.inj heq
  obtain ⟨hbefore, hafter⟩ := Prod.mk.inj heq
  have hcreate : s.createVideoTrack 1 1 5 ⟨0, 640, 480, .jpeg⟩ {} m {} = .ok (out.1, out.2) := by
    cases hresult : s.createVideoTrack 1 1 5 ⟨0, 640, 480, .jpeg⟩ {} m {} with
    | error e => simp [hresult, Except.toOption] at hout
    | ok result =>
      rw [hresult] at hout
      rw [Option.some.inj hout]
  have hsame := hall _ s 1 1 5 _ {} m {} out.1 out.2 (LTS.mTr_ofStep_iff.mpr hs) hcreate
    (of_decide_eq_true hst)
  rw [hsame.trackSources, hbefore] at hafter
  cases hafter

end RegistryService

end QmmfSdk.Recorder
