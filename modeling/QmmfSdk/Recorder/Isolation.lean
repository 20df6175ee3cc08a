import QmmfSdk.Recorder.Snapshots

/-! What a client can do to a camera that it has not started. -/
namespace QmmfSdk.Recorder

open Library (LTS)

/-- The requests of a client that name a camera. -/
def CameraRequest.Names (client camera : UInt32) : CameraRequest → Prop
  | .captureImage c k _ _ => c = client ∧ k = camera
  | .configImageCapture c k _ _ _ => c = client ∧ k = camera
  | .cancelCaptureImage c k _ => c = client ∧ k = camera
  | .returnImageCaptureBuffer c k _ _ => c = client ∧ k = camera
  | .setCameraParam c k _ _ => c = client ∧ k = camera
  | .createVideoTrack c _ _ p _ _ _ => c = client ∧ p.cameraId = camera
  | _ => False

/-- No back end refuses what a request needs from it. -/
def CameraRequest.Accepted : CameraRequest → Prop
  | .createVideoTrack _ _ _ _ _ m ans => ans.batch.isSome ∧ ans.init ∧ ans.rescaler ∧
      (∀ id, m.video.addSource id = .noError) ∧ ∀ id, m.video.setTrackEncoderParams id = .noError
  | _ => True

namespace CameraService

variable {s t : CameraService} {client camera : UInt32} {st : Status}

/-- The context of a camera, the sources of its tracks, and the index of these tracks. -/
structure SameCamera (camera : UInt32) (s t : CameraService) : Prop where
  context : t.source.cameraMap[camera]? = s.source.cameraMap[camera]?
  tracks : ∀ id : UInt32, t.source.trackSources[id]?.filter (·.params.cameraId == camera) =
    s.source.trackSources[id]?.filter (·.params.cameraId == camera)
  index : t.recorder.bind (·.cameraTracksMap[camera]?) =
    s.recorder.bind (·.cameraTracksMap[camera]?)

/-- The sessions, tracks and cameras of a client, its state, and the callbacks to it. -/
structure SameClient (client : UInt32) (s t : CameraService) : Prop where
  sessions : t.recorder.map (·.sessions client) = s.recorder.map (·.sessions client)
  cameras : t.recorder.map (·.cameras client) = s.recorder.map (·.cameras client)
  state : t.recorder.bind (·.clientState[client]?) = s.recorder.bind (·.clientState[client]?)
  callback : client ∈ t.service.remoteCbList ↔ client ∈ s.service.remoteCbList
  snapshots : t.source.clientSnapshotCb = some client ↔ s.source.clientSnapshotCb = some client

/-- The request returns an error and has changed neither the camera nor another client. -/
def Isolated (s : CameraService) (client camera : UInt32)
    (result : Except Abort (Status × CameraService)) : Prop :=
  ∃ st t, result = .ok (st, t) ∧ st ≠ .noError ∧ SameCamera camera s t ∧
    ∀ c, c ≠ client → SameClient c s t

/-- The client has no entry for the camera. -/
def Outsider (s : CameraService) (client camera : UInt32) : Prop :=
  ∀ r, s.recorder = some r → r.camera client camera = none

/-- Whether the context gets to return a buffer, or to the assertion before that. -/
def returnsBuffer (ctx : CameraContext) (bufferId : Int32) : Bool :=
  ctx.snapshotBufferList[bufferId]?.any fun buffer =>
    buffer.fd != bufferId || ctx.snapshotBufferStreamList.contains bufferId

/-- A request is refused on its own account: it returns no buffer that the camera has out, and it
creates no track on a camera that is open. -/
def staysOut (s : CameraService) : CameraRequest → Bool
  | .returnImageCaptureBuffer _ camera bufferId _ => s.recorder.isNone ||
      !(s.source.cameraMap[camera]?.any fun ctx => returnsBuffer ctx bufferId)
  | .createVideoTrack client session track p extra m _ => s.recorder.all fun r =>
      !checksTrack r client session track ||
      match r.resolveSourceTrack (s.media m) p extra with
      | .ok found => !found || !s.source.cameraMap.contains p.cameraId
      | .error _ => false
  | _ => true

theorem SameCamera.refl : SameCamera camera s s :=
  ⟨rfl, fun _ => rfl, rfl⟩

theorem SameClient.refl : SameClient client s s :=
  ⟨rfl, rfl, rfl, Iff.rfl, Iff.rfl⟩

theorem setRecorder_eq {r : RecorderImpl} (h : s.recorder = some r) : s.setRecorder r = s := by
  obtain ⟨⟨recorder, deaths, cbs, unique⟩, source⟩ := s
  obtain rfl : recorder = some r := h
  rfl

theorem isolated_unchanged (h : st ≠ .noError) : Isolated s client camera (.ok (st, s)) :=
  ⟨st, s, rfl, h, .refl, fun _ _ => .refl⟩

/-- The lookup of a camera may leave an empty map behind, of the client itself. -/
theorem isolated_touched {r : RecorderImpl} (hr : s.recorder = some r) (h : st ≠ .noError) :
    Isolated s client camera (.ok (st, s.setRecorder (r.touchCameras client))) := by
  have hmaps : (r.touchCameras client).clientSessionMap = r.clientSessionMap ∧
      (r.touchCameras client).cameraTracksMap = r.cameraTracksMap ∧
      (r.touchCameras client).clientState = r.clientState := by
    unfold RecorderImpl.touchCameras
    split
    · exact ⟨rfl, rfl, rfl⟩
    · exact ⟨rfl, rfl, rfl⟩
  have hcameras : ∀ c, (r.touchCameras client).cameras c = r.cameras c := by
    intro c
    unfold RecorderImpl.touchCameras
    split
    · rw [RecorderImpl.cameras_updateCameras]
      split <;> rfl
    · rfl
  have ht : (s.setRecorder (r.touchCameras client)).recorder = some (r.touchCameras client) := rfl
  refine ⟨st, _, rfl, h, ⟨rfl, fun _ => rfl, ?_⟩, fun c _ => ⟨?_, ?_, ?_, Iff.rfl, Iff.rfl⟩⟩
  · simp [ht, hr, hmaps.2.1]
  · simp [ht, hr, RecorderImpl.sessions, hmaps.1]
  · simp [ht, hr, hcameras]
  · simp [ht, hr, hmaps.2.2]

/-- The requests with the check of the owner refuse every other client. -/
theorem isolated_forOwner {f : CameraSource → Except Abort (Status × CameraSource)}
    (h : Outsider s client camera) : Isolated s client camera (s.forOwner client camera f) := by
  unfold forOwner
  split
  · exact isolated_unchanged (by simp)
  next r hr =>
    split
    · exact isolated_unchanged (by simp)
    · have hvalid : r.isCameraValid client camera = false := by
        simp [RecorderImpl.isCameraValid, h r hr]
      simp only [hvalid, Bool.not_false, if_true]
      exact isolated_touched hr (by simp)

theorem returnImageCaptureBuffer_refused {ctx : CameraContext} {bufferId : Int32} {returned : Bool}
    (h : returnsBuffer ctx bufferId = false) :
    ctx.returnImageCaptureBuffer bufferId returned = .ok (.badValue, ctx) := by
  unfold CameraContext.returnImageCaptureBuffer
  split
  · rfl
  next buffer hbuffer =>
    simp only [returnsBuffer, hbuffer, Option.any_some, Bool.or_eq_false_iff,
      bne_eq_false_iff_eq] at h
    have hstream : bufferId ∉ ctx.snapshotBufferStreamList := by
      rw [← Std.ExtTreeMap.contains_iff_mem, h.2]
      simp
    simp [h.1, hstream]

theorem returnImageCaptureBuffer_reached {ctx ctx' : CameraContext} {bufferId : Int32}
    {returned : Bool} (h : returnsBuffer ctx bufferId = true)
    (hok : ctx.returnImageCaptureBuffer bufferId returned = .ok (st, ctx')) : st = .noError := by
  unfold CameraContext.returnImageCaptureBuffer at hok
  split at hok
  next hbuffer => simp [returnsBuffer, hbuffer] at h
  next buffer hbuffer =>
    split at hok
    · simp at hok
    next hfd =>
      split at hok
      next hstream =>
        simp only [returnsBuffer, hbuffer, Option.any_some, Bool.or_eq_true, bne_iff_ne, hfd,
          false_or] at h
        exact absurd (Std.ExtTreeMap.contains_iff_mem.mp h) hstream
      · split at hok
        · simp at hok
        · exact (by simpa [eq_comm] using hok : st = .noError ∧ _).1

/-- Nothing is checked but the camera and the buffer, so that any client gets the buffer of any
camera returned. -/
theorem isolated_returnImageCaptureBuffer {bufferId : Int32} {returned : Bool} :
    Isolated s client camera (s.returnImageCaptureBuffer client camera bufferId returned) ↔
      s.staysOut (.returnImageCaptureBuffer client camera bufferId returned) = true := by
  unfold returnImageCaptureBuffer
  cases hr : s.recorder with
  | none => exact ⟨fun _ => by simp [staysOut, hr], fun _ => isolated_unchanged (by simp)⟩
  | some r =>
    simp only [staysOut, hr, Option.isNone_some, Bool.false_or]
    cases hctx : s.source.cameraMap[camera]? with
    | none =>
      simp only [CameraSource.onCamera, hctx, Option.any_none, Bool.not_false, iff_true]
      exact isolated_unchanged (by simp)
    | some ctx =>
      simp only [CameraSource.onCamera, hctx, Option.any_some, Bool.not_eq_true']
      constructor
      · rintro ⟨st, t, hok, hst, -⟩
        by_contra hreached
        obtain ⟨⟨st₁, src⟩, hsrc, hok⟩ := Library.bind_eq_ok_iff.mp hok
        obtain ⟨⟨st₂, ctx'⟩, hreturn, hsrc⟩ := Library.bind_eq_ok_iff.mp hsrc
        have hst₂ := returnImageCaptureBuffer_reached (by simpa using hreached) hreturn
        simp only [Except.ok.injEq, Prod.mk.injEq] at hsrc hok
        exact hst (hok.1.symm.trans (hsrc.1.symm.trans hst₂))
      · intro hrefused
        rw [returnImageCaptureBuffer_refused hrefused]
        refine ⟨.badValue, _, rfl, by simp, ⟨?_, fun _ => rfl, rfl⟩, fun c _ => ?_⟩
        · simp [hctx]
        · exact ⟨rfl, rfl, rfl, Iff.rfl, Iff.rfl⟩

section Tracks

variable {session track : UInt32} {p : VideoTrackCreateParam} {extra : VideoExtraParam} {m : Media}
  {ans : CameraContext.StreamAnswers} {r : RecorderImpl}

/-- The track to copy is known when the request has got that far. -/
theorem sourceTrack_of_resolved (client : UInt32)
    (h : r.resolveSourceTrack m p extra = .ok true) :
    ∃ source, sourceTrack r m client p extra = .ok source := by
  unfold RecorderImpl.resolveSourceTrack at h
  unfold sourceTrack
  cases hsource : extra.sourceVideoTrackId with
  | some id => exact ⟨_, rfl⟩
  | none =>
    simp only [hsource, Option.isSome_none, Bool.false_eq_true, if_false] at h
    split at h
    next hlinked =>
      obtain ⟨found, hfound, -⟩ := Library.bind_eq_ok_iff.mp h
      simp only [hlinked, if_true, hfound]
      exact ⟨_, rfl⟩
    next hlinked =>
      simp only [hlinked, if_false]
      exact ⟨_, rfl⟩

section Sizes

variable {m' : Media} (h : m'.trackSize = m.trackSize)

include h

/-- The search for a track to link reads nothing but the sizes of the tracks. -/
theorem findInSessions_congr (l : List TrackInfoMap) (selected : Option UInt32) :
    RecorderImpl.findInSessions m' p selected l = RecorderImpl.findInSessions m p selected l := by
  have hsame : ∀ ts, RecorderImpl.findSameSize m' p ts = RecorderImpl.findSameSize m p ts := by
    intro ts
    induction ts with
    | nil => rfl
    | cons info rest ih => simp only [RecorderImpl.findSameSize, h, ih]
  have hbigger : ∀ ts o w k, RecorderImpl.findBiggerSize m' p o w k ts =
      RecorderImpl.findBiggerSize m p o w k ts := by
    intro ts
    induction ts with
    | nil => exact fun _ _ _ => rfl
    | cons info rest ih =>
      intro o w k
      simp only [RecorderImpl.findBiggerSize, h, ih]
  induction l generalizing selected with
  | nil => rfl
  | cons ts rest ih => simp only [RecorderImpl.findInSessions, hsame, hbigger, ih]

theorem resolveSourceTrack_congr :
    r.resolveSourceTrack m' p extra = r.resolveSourceTrack m p extra := by
  simp only [RecorderImpl.resolveSourceTrack, RecorderImpl.findSuitableIdForLinkedTrack,
    findInSessions_congr h]

end Sizes

theorem resolved_answering {st₀ : Status} (h : r.resolveSourceTrack m p extra = .ok true) :
    r.resolveSourceTrack (m.answering st₀) p extra = .ok true := by
  have hsize : (m.answering st₀).trackSize = m.trackSize := rfl
  exact (resolveSourceTrack_congr hsize).trans h

theorem createVideoTrack_refused (st₀ : Status)
    (hchecks : checksTrack r client session track = true)
    (hresolved : r.resolveSourceTrack m p extra = .ok true) (hst : st₀ ≠ .noError) :
    r.createVideoTrack (m.answering st₀) client session track p extra = .ok (.badValue, r) := by
  simp only [checksTrack, Bool.and_eq_true, Bool.not_eq_true'] at hchecks
  obtain ⟨⟨⟨-, hclient⟩, hsession⟩, htrack⟩ := hchecks
  have hanswer : ∀ id, (m.answering st₀).video.createTrackSource id ≠ .noError := fun _ => hst
  simp [RecorderImpl.createVideoTrack, hclient, hsession, htrack, resolved_answering hresolved,
    hanswer, bind, Except.bind]

theorem createVideoTrack_accepted {r' : RecorderImpl}
    (hadd : ∀ id, m.video.addSource id = .noError)
    (hencoder : ∀ id, m.video.setTrackEncoderParams id = .noError)
    (hchecks : checksTrack r client session track = true)
    (hresolved : r.resolveSourceTrack m p extra = .ok true)
    (h : r.createVideoTrack (m.answering .noError) client session track p extra = .ok (st, r')) :
    st = .noError := by
  simp only [checksTrack, Bool.and_eq_true, Bool.not_eq_true'] at hchecks
  obtain ⟨⟨⟨-, hclient⟩, hsession⟩, htrack⟩ := hchecks
  have hanswer : ∀ id, (m.answering .noError).video.createTrackSource id = .noError := fun _ => rfl
  have hadd : ∀ id, (m.answering .noError).video.addSource id = .noError := hadd
  have hencoder : ∀ id, (m.answering .noError).video.setTrackEncoderParams id = .noError := hencoder
  simp [RecorderImpl.createVideoTrack, hclient, hsession, htrack, resolved_answering hresolved,
    hanswer, hadd, hencoder, bind, Except.bind] at h
  exact h.1.symm

section Source

variable {src src' : CameraSource} {id : UInt32}

theorem createStream_accepted {ctx ctx' : CameraContext} (hbatch : ans.batch.isSome = true)
    (hinit : ans.init = true) (h : ctx.createStream id p ans = .ok (st, ctx')) : st = .noError := by
  unfold CameraContext.createStream at h
  split at h
  · simp at h
  split at h
  next hnone =>
    -- the batch size is the default one or that of the answers
    split at hnone
    · simp at hnone
    · simp [hnone] at hbatch
  · simp only [hinit, Bool.not_true, Bool.false_eq_true, if_false, Except.ok.injEq,
      Prod.mk.injEq] at h
    exact h.1.symm

/-- A source that accepts everything answers `NO_ERROR` or fails an assertion. -/
theorem createOwnTrack_accepted (hopen : p.cameraId ∈ src.cameraMap)
    (hbatch : ans.batch.isSome = true) (hinit : ans.init = true)
    (h : src.createOwnTrack id p ans = .ok (st, src')) : st = .noError := by
  unfold CameraSource.createOwnTrack at h
  split at h
  · exact (by simpa [eq_comm] using h : st = .noError ∧ _).1
  obtain ⟨⟨st₁, src₁⟩, hstream, h⟩ := Library.bind_eq_ok_iff.mp h
  have hst₁ : st₁ = .noError := by
    rcases CameraSource.onCamera_ok hstream with ⟨hclosed, -, -⟩ | ⟨ctx, ctx', -, hctx, -⟩
    · rw [Std.ExtTreeMap.mem_iff_isSome_getElem?, hclosed] at hopen
      simp at hopen
    · exact createStream_accepted hbatch hinit hctx
  simp only [hst₁, ne_eq, not_true_eq_false, if_false, Except.ok.injEq, Prod.mk.injEq] at h
  exact h.1.symm

theorem createTrackSource_accepted {source : Option UInt32} (hopen : p.cameraId ∈ src.cameraMap)
    (hbatch : ans.batch.isSome = true) (hinit : ans.init = true) (hrescaler : ans.rescaler = true)
    (h : src.createTrackSource id p source ans = .ok (st, src')) : st = .noError := by
  unfold CameraSource.createTrackSource at h
  split at h
  next hclosed => exact absurd hopen hclosed
  split at h
  · exact createOwnTrack_accepted hopen hbatch hinit h
  split at h
  · simp at h
  split at h
  · exact createOwnTrack_accepted hopen hbatch hinit h
  split at h
  · exact (Prod.mk.inj (Except.ok.inj h)).1.symm
  · simp only [hrescaler, Bool.not_true, Bool.false_eq_true, if_false, Except.ok.injEq,
      Prod.mk.injEq] at h
    exact h.1.symm

end Source

/-- No check of `CreateVideoTrack` concerns the camera. -/
theorem isolated_createVideoTrack
    (h : s.staysOut (.createVideoTrack client session track p extra m ans) = true) :
    Isolated s client p.cameraId (s.createVideoTrack client session track p extra m ans) := by
  unfold createVideoTrack
  dsimp only
  split
  · exact isolated_unchanged (by simp)
  next r hr =>
    split
    · exact isolated_unchanged (by simp)
    next hchecks =>
      have hchecks : checksTrack r client session track = true := by simpa using hchecks
      simp only [staysOut, hr, Option.all_some, hchecks, Bool.not_true, Bool.false_or] at h
      split at h
      next found hresolved =>
        cases found with
        | false =>
          simp only [hresolved]
          exact isolated_unchanged (by simp)
        | true =>
          have hclosed : p.cameraId ∉ s.source.cameraMap := by
            simp only [Bool.not_true, Bool.false_or, Bool.not_eq_true'] at h
            rw [← Std.ExtTreeMap.contains_iff_mem, h]
            simp
          obtain ⟨source, hsource⟩ := sourceTrack_of_resolved client hresolved
          have hcreate : s.source.createTrackSource
              (RecorderImpl.getUniqueServiceTrackId client session track) p source ans =
                .ok (.badValue, s.source) := by
            simp [CameraSource.createTrackSource, hclosed]
          have hrefused := createVideoTrack_refused .badValue hchecks hresolved (by simp)
          simp only [hresolved, hsource, hcreate, hrefused, bind, Except.bind, Bool.not_true,
            Bool.false_eq_true, if_false, setRecorder_eq hr]
          exact isolated_unchanged (by simp)
      · simp at h

/-- With an open camera the request goes through, unless it takes the service down. -/
theorem not_isolated_createVideoTrack (hbatch : ans.batch.isSome = true) (hinit : ans.init = true)
    (hrescaler : ans.rescaler = true) (hadd : ∀ id, m.video.addSource id = .noError)
    (hencoder : ∀ id, m.video.setTrackEncoderParams id = .noError)
    (h : s.staysOut (.createVideoTrack client session track p extra m ans) = false) :
    ¬ Isolated s client p.cameraId (s.createVideoTrack client session track p extra m ans) := by
  rintro ⟨st, t, hok, hst, -⟩
  simp only [staysOut, Option.all_eq_false, Bool.or_eq_false_iff, Bool.not_eq_false'] at h
  obtain ⟨r, hr, hchecks, h⟩ := h
  unfold createVideoTrack at hok
  simp only [hr, hchecks, Bool.not_true, Bool.false_eq_true, if_false] at hok
  obtain ⟨found, hresolved, hok⟩ := Library.bind_eq_ok_iff.mp hok
  rw [hresolved] at h
  simp only [Bool.or_eq_false_iff, Bool.not_eq_false'] at h
  obtain ⟨rfl, hopen⟩ := h
  simp only [Bool.not_true, Bool.false_eq_true, if_false] at hok
  obtain ⟨source, -, hok⟩ := Library.bind_eq_ok_iff.mp hok
  obtain ⟨⟨st₁, src⟩, hcreate, hok⟩ := Library.bind_eq_ok_iff.mp hok
  obtain rfl := createTrackSource_accepted (Std.ExtTreeMap.contains_iff_mem.mp hopen) hbatch hinit
    hrescaler hcreate
  obtain ⟨⟨st₂, r'⟩, htrack, hok⟩ := Library.bind_eq_ok_iff.mp hok
  have hadd : ∀ id, (s.media m).video.addSource id = .noError := hadd
  have hencoder : ∀ id, (s.media m).video.setTrackEncoderParams id = .noError := hencoder
  have hst₂ := createVideoTrack_accepted hadd hencoder hchecks hresolved htrack
  simp only [Except.ok.injEq, Prod.mk.injEq] at hok
  exact hst (hok.1.symm.trans hst₂)

end Tracks

/-- A client that has not started a camera is kept away from it exactly by what `staysOut` says;
where the back ends refuse a track themselves, only in the one direction. -/
theorem isolated_iff_staysOut (s : CameraService) (client camera : UInt32) (a : CameraRequest)
    (hnames : a.Names client camera) (houtsider : Outsider s client camera) :
    (s.staysOut a = true → Isolated s client camera (s.step a)) ∧
      (a.Accepted → Isolated s client camera (s.step a) → s.staysOut a = true) := by
  cases a with
  | captureImage c k numImages submitted =>
    obtain ⟨rfl, rfl⟩ := hnames
    refine ⟨fun _ => ?_, fun _ _ => rfl⟩
    unfold step captureImage
    exact isolated_forOwner houtsider
  | configImageCapture c k st mode streamIds =>
    obtain ⟨rfl, rfl⟩ := hnames
    refine ⟨fun _ => ?_, fun _ _ => rfl⟩
    unfold step configImageCapture
    exact isolated_forOwner houtsider
  | cancelCaptureImage c k stopped =>
    obtain ⟨rfl, rfl⟩ := hnames
    refine ⟨fun _ => ?_, fun _ _ => rfl⟩
    unfold step cancelCaptureImage
    exact isolated_forOwner houtsider
  | setCameraParam c k tags submitted =>
    obtain ⟨rfl, rfl⟩ := hnames
    refine ⟨fun _ => ?_, fun _ _ => rfl⟩
    unfold step setCameraParam
    exact isolated_forOwner houtsider
  | returnImageCaptureBuffer c k bufferId returned =>
    obtain ⟨rfl, rfl⟩ := hnames
    exact ⟨isolated_returnImageCaptureBuffer.mpr, fun _ => isolated_returnImageCaptureBuffer.mp⟩
  | createVideoTrack c session track p extra m ans =>
    obtain ⟨rfl, rfl⟩ := hnames
    refine ⟨isolated_createVideoTrack, ?_⟩
    rintro ⟨hbatch, hinit, hrescaler, hadd, hencoder⟩ hisolated
    by_contra hreached
    exact not_isolated_createVideoTrack hbatch hinit hrescaler hadd hencoder
      (by simpa using hreached) hisolated
  | connect init => exact hnames.elim
  | createSession c => exact hnames.elim
  | startCamera c k slave m => exact hnames.elim
  | stopCamera c k m => exact hnames.elim
  | snapshot k i buffer => exact hnames.elim
  | lost k i => exact hnames.elim

/-- An image of camera 0 is with client 1. -/
def imageOut : List CameraRequest :=
  twoCameras ++ [.captureImage 1 0 1 true, .snapshot 0 0 (image 7)]

/-- After a run: client 2's entry for camera 0, and whether it could return the image. -/
def reachAfter (as : List CameraRequest) : Option (Option Bool × Bool) := do
  let t ← LTS.run next {} as
  let r ← t.recorder
  return (r.camera 2 0, t.staysOut (.returnImageCaptureBuffer 2 0 7 true))

theorem reachAfter_imageOut : ∃ t, lts.MTr {} imageOut t ∧ Outsider t 2 0 ∧
    t.staysOut (.returnImageCaptureBuffer 2 0 7 true) = false := by
  have hreach : reachAfter imageOut = some (none, false) := by decide
  simp only [reachAfter, Option.bind_eq_bind, Option.pure_def, Option.bind_eq_some_iff,
    Option.some.injEq, Prod.mk.injEq] at hreach
  obtain ⟨t, hrun, r, hr, hcamera, hout⟩ := hreach
  refine ⟨t, LTS.mTr_ofStep_iff.mpr hrun, fun r' hr' => ?_, hout⟩
  obtain rfl : r = r' := Option.some.inj (hr.symm.trans hr')
  exact hcamera

theorem isolated_capture_of_outsider :
    ∃ t, lts.MTr {} imageOut t ∧ Outsider t 2 0 ∧
      Isolated t 2 0 (t.step (.captureImage 2 0 1 true)) := by
  obtain ⟨t, hrun, houtsider, -⟩ := reachAfter_imageOut
  exact ⟨t, hrun, houtsider,
    (isolated_iff_staysOut t 2 0 (.captureImage 2 0 1 true) ⟨rfl, rfl⟩ houtsider).1 rfl⟩

/-- Client 2 returns an image of camera 0, which client 1 still has. -/
theorem outsider_returns_image :
    ¬ ∀ (as : List CameraRequest) (s : CameraService) (client camera : UInt32)
      (a : CameraRequest), lts.MTr {} as s → a.Names client camera → Outsider s client camera →
        Isolated s client camera (s.step a) := by
  intro hall
  obtain ⟨t, hrun, houtsider, hout⟩ := reachAfter_imageOut
  have hisolated := hall imageOut t 2 0 (.returnImageCaptureBuffer 2 0 7 true) hrun ⟨rfl, rfl⟩
    houtsider
  have hstays := isolated_returnImageCaptureBuffer.mp hisolated
  simp [hout] at hstays

end CameraService

end QmmfSdk.Recorder
