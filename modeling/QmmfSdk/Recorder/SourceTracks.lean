import QmmfSdk.Recorder.Isolation
import QmmfSdk.Recorder.LinkedTrack

/-! Requests for a track that copies another one: which of them reach the assertions on track
sources and streams. -/
namespace QmmfSdk.Recorder

open Library

/-- The call returns, whatever it returns. -/
def Normal {α : Type} (x : Except Abort α) : Prop := Succeeds x fun _ => True

namespace CameraSource

/-- `CreateStream` asserts that its id is not 0, and is not reached for RGB. -/
def AcceptsStream (id : UInt32) (p : VideoTrackCreateParam) : Prop := p.formatType = .rgb ∨ id ≠ 0

/-- A track to copy has a source. A copy that is refused gets a stream of its own. -/
def AcceptsSource (src : CameraSource) (id : UInt32) (p : VideoTrackCreateParam) :
    Option UInt32 → Prop
  | none => AcceptsStream id p
  | some sourceId => ∃ master, src.trackSources[sourceId]? = some master ∧
      (validateSlaveTrackParam p master.params = true ∨ AcceptsStream id p)

/-- In a session, a track without a source comes after one of the requested size. -/
def Searchable (src : CameraSource) (p : VideoTrackCreateParam) (infos : List TrackInfo) : Prop :=
  ∀ before info after, infos = before ++ info :: after → info.trackId ∉ src.trackSources →
    ∃ x ∈ before, ∃ t, src.trackSources[x.trackId]? = some t ∧
      p.width = t.params.width ∧ p.height = t.params.height

variable {src : CameraSource} {id : UInt32} {p : VideoTrackCreateParam} {source : Option UInt32}
  {ans : CameraContext.StreamAnswers}

theorem createStream_normal_iff (ctx : CameraContext) (ans : CameraContext.StreamAnswers) :
    Normal (ctx.createStream id p ans) ↔ id ≠ 0 := by
  unfold Normal CameraContext.createStream
  rw [succeeds_check]
  refine and_iff_left ?_
  split
  · exact succeeds_ok.mpr trivial
  · dsimp only
    split <;> exact succeeds_ok.mpr trivial

theorem createOwnTrack_normal_iff (hopen : p.cameraId ∈ src.cameraMap) :
    Normal (src.createOwnTrack id p ans) ↔ AcceptsStream id p := by
  obtain ⟨ctx, hctx⟩ : ∃ ctx, src.cameraMap[p.cameraId]? = some ctx :=
    ⟨_, Std.ExtTreeMap.getElem?_eq_some_getElem hopen⟩
  unfold Normal createOwnTrack AcceptsStream
  by_cases hrgb : p.formatType = .rgb
  · simp [hrgb]
  rw [if_neg hrgb, succeeds_bind, onCamera, hctx, ← createStream_normal_iff (p := p) ctx ans,
    Normal, or_iff_right hrgb]
  dsimp only
  rw [succeeds_bind]
  refine succeeds_congr fun out => ?_
  simp only [succeeds_ok, iff_true]
  split <;> exact succeeds_ok.mpr trivial

theorem createTrackSource_normal_iff (ans : CameraContext.StreamAnswers) :
    Normal (src.createTrackSource id p source ans) ↔
    (p.cameraId ∈ src.cameraMap → src.AcceptsSource id p source) := by
  unfold createTrackSource
  by_cases hopen : p.cameraId ∈ src.cameraMap
  · rw [if_neg (not_not.mpr hopen)]
    simp only [hopen, forall_const]
    cases source with
    | none => exact createOwnTrack_normal_iff hopen
    | some sourceId =>
      cases hmaster : src.trackSources[sourceId]? with
      | none => simp [Normal, AcceptsSource, hmaster]
      | some master =>
        simp only [AcceptsSource, hmaster, Option.some.injEq, exists_eq_left']
        cases hvalid : validateSlaveTrackParam p master.params with
        | false =>
          simp only [Bool.not_false, if_true, Bool.false_eq_true, false_or]
          exact createOwnTrack_normal_iff hopen
        | true =>
          simp only [Bool.not_true, Bool.false_eq_true, if_false, true_or, iff_true]
          unfold Normal
          split
          · exact succeeds_ok.mpr trivial
          · split <;> exact succeeds_ok.mpr trivial
  · rw [if_pos hopen]
    simp [Normal, hopen]

end CameraSource

namespace RecorderImpl

variable {m : Media} {r : RecorderImpl} {p : VideoTrackCreateParam} {infos : List TrackInfo}
  {info : TrackInfo} {selected found : Option UInt32} {sessions : List TrackInfoMap} {id : UInt32}
  {extra : VideoExtraParam}

/-- Each track without a size comes after one of the requested size. -/
def Sized (m : Media) (p : VideoTrackCreateParam) (infos : List TrackInfo) : Prop :=
  ∀ before info after, infos = before ++ info :: after → m.trackSize info.trackId = none →
    ∃ x ∈ before, m.trackSize x.trackId = some (p.width, p.height)

theorem sized_cons {size : UInt32 × UInt32} (hsize : m.trackSize info.trackId = some size) :
    Sized m p (info :: infos) ↔ size = (p.width, p.height) ∨ Sized m p infos := by
  constructor
  · intro hall
    by_cases hexact : size = (p.width, p.height)
    · exact .inl hexact
    refine .inr fun before lost after heq hnone => ?_
    obtain ⟨x, hx, hxsize⟩ := hall (info :: before) lost after (by rw [heq]; rfl) hnone
    obtain rfl | hx := List.mem_cons.mp hx
    · exact absurd (Option.some.inj (hsize.symm.trans hxsize)) hexact
    · exact ⟨x, hx, hxsize⟩
  · intro hor before lost after heq hnone
    cases before with
    | nil =>
      obtain ⟨rfl, -⟩ := List.cons.inj heq
      exact absurd (hsize.symm.trans hnone) nofun
    | cons first before =>
      obtain ⟨rfl, rfl⟩ := List.cons.inj heq
      obtain rfl | hrest := hor
      · exact ⟨info, List.mem_cons_self, hsize⟩
      · obtain ⟨x, hx, hxsize⟩ := hrest before lost after rfl hnone
        exact ⟨x, List.mem_cons_of_mem info hx, hxsize⟩

theorem findSameSize_normal_iff : Normal (findSameSize m p infos) ↔ Sized m p infos := by
  induction infos with
  | nil => simp [Normal, findSameSize, Sized]
  | cons info rest ih =>
    unfold findSameSize
    cases hsize : m.trackSize info.trackId with
    | none =>
      refine iff_of_false (by simp [Normal]) fun hall => ?_
      obtain ⟨x, hx, -⟩ := hall [] info rest rfl hsize
      cases hx
    | some size =>
      rw [sized_cons hsize, ← ih]
      obtain ⟨w, h⟩ := size
      dsimp only
      by_cases hexact : p.width = w ∧ p.height = h
      · obtain ⟨rfl, rfl⟩ := hexact
        simp [Normal]
      · have hne : (w, h) ≠ (p.width, p.height) := by
          rintro heq
          obtain ⟨rfl, rfl⟩ := Prod.mk.inj heq
          exact hexact ⟨rfl, rfl⟩
        rw [if_neg hexact, or_iff_right hne]

/-- Without a match, the first loop has seen a size of each track. -/
theorem findSameSize_none (hnone : findSameSize m p infos = .ok none) :
    ∀ info ∈ infos, (m.trackSize info.trackId).isSome := by
  induction infos with
  | nil => nofun
  | cons info rest ih =>
    unfold findSameSize at hnone
    cases hsize : m.trackSize info.trackId with
    | none => simp [hsize] at hnone
    | some size =>
      simp only [hsize] at hnone
      split at hnone
      · cases hnone
      · exact List.forall_mem_cons.mpr ⟨by rw [hsize]; rfl, ih hnone⟩

theorem findSameSize_some (hsome : findSameSize m p infos = .ok (some id)) :
    (m.trackSize id).isSome := by
  induction infos with
  | nil => cases hsome
  | cons info rest ih =>
    unfold findSameSize at hsome
    cases hsize : m.trackSize info.trackId with
    | none => simp [hsize] at hsome
    | some size =>
      simp only [hsize] at hsome
      split at hsome
      · obtain rfl := Option.some.inj (Except.ok.inj hsome)
        rw [hsize]
        rfl
      · exact ih hsome

/-- The second loop selects tracks that have a size. -/
theorem findBiggerSize_succeeds (h : ∀ info ∈ infos, (m.trackSize info.trackId).isSome)
    (hselected : ∀ id ∈ selected, (m.trackSize id).isSome) {w k : UInt32} :
    Succeeds (findBiggerSize m p selected w k infos) fun found =>
      ∀ id ∈ found, (m.trackSize id).isSome := by
  induction infos generalizing selected w k with
  | nil => exact succeeds_ok.mpr hselected
  | cons info rest ih =>
    rw [List.forall_mem_cons] at h
    obtain ⟨size, hsize⟩ := Option.isSome_iff_exists.mp h.1
    unfold findBiggerSize
    rw [hsize]
    dsimp only
    split
    · refine ih h.2 fun id hid => ?_
      obtain rfl := Option.some.inj hid
      exact h.1
    · exact ih h.2 hselected

/-- The search returns, and what it finds has a size. -/
theorem findInSessions_succeeds_iff {P : Option UInt32 → Prop}
    (hP : ∀ found, (∀ id ∈ found, (m.trackSize id).isSome) → P found)
    (hselected : ∀ id ∈ selected, (m.trackSize id).isSome) :
    Succeeds (findInSessions m p selected sessions) P ↔
      ∀ ts ∈ sessions, Sized m p (trackInfos ts) := by
  induction sessions generalizing selected with
  | nil => simpa [findInSessions] using hP selected hselected
  | cons ts rest ih =>
    rw [findInSessions, succeeds_bind, List.forall_mem_cons, ← findSameSize_normal_iff, Normal,
      and_comm, ← succeeds_and_left]
    refine succeeds_congr_of_eq fun same hsame => ?_
    rw [and_true]
    cases same with
    | some id =>
      refine ih fun id' hid => ?_
      obtain rfl := Option.some.inj hid
      exact findSameSize_some hsame
    | none =>
      dsimp only
      split
      · exact ih hselected
      · obtain ⟨found, hfound, hsound⟩ :=
          findBiggerSize_succeeds (p := p) (w := 0) (k := 0) (findSameSize_none hsame)
            (show ∀ id ∈ none, (m.trackSize id).isSome by simp)
        rw [succeeds_bind, hfound]
        exact succeeds_ok.trans (ih hsound)

theorem findSuitable_succeeds_iff {P : Option UInt32 → Prop}
    (hP : ∀ found, (∀ id ∈ found, (m.trackSize id).isSome) → P found) :
    Succeeds (r.findSuitableIdForLinkedTrack m p) P ↔
      ∀ ts ∈ r.ownerSessions p.cameraId, Sized m p (trackInfos ts) := by
  unfold findSuitableIdForLinkedTrack ownerSessions
  cases (r.getCameraClients p.cameraId).find? fun id => r.isCameraValid id p.cameraId with
  | some id => exact findInSessions_succeeds_iff hP (by simp)
  | none => simpa using hP none (by simp)

theorem findSuitable_sound (h : r.findSuitableIdForLinkedTrack m p = .ok found) :
    ∀ id ∈ found, (m.trackSize id).isSome := by
  have hsized := (findSuitable_succeeds_iff fun _ _ => trivial).mp ⟨found, h, trivial⟩
  obtain ⟨other, hother, hsound⟩ := (findSuitable_succeeds_iff fun _ hsound => hsound).mpr hsized
  obtain rfl := Except.ok.inj (h.symm.trans hother)
  exact hsound

/-- After the source track is resolved, nothing in the recorder itself fails. -/
theorem createVideoTrack_normal (client session track : UInt32)
    (h : Normal (r.resolveSourceTrack m p extra)) :
    Normal (r.createVideoTrack m client session track p extra) := by
  obtain ⟨go, hgo, -⟩ := h
  unfold Normal createVideoTrack
  split
  · exact succeeds_ok.mpr trivial
  split
  · exact succeeds_ok.mpr trivial
  split
  · exact succeeds_ok.mpr trivial
  dsimp only
  rw [succeeds_bind, hgo, succeeds_ok]
  split
  · exact succeeds_ok.mpr trivial
  split
  · exact succeeds_ok.mpr trivial
  split
  · exact succeeds_ok.mpr trivial
  split
  · exact succeeds_ok.mpr trivial
  · exact succeeds_ok.mpr trivial

end RecorderImpl

namespace CameraService

variable {s : CameraService} {r : RecorderImpl} {m : Media} {p : VideoTrackCreateParam}
  {extra : VideoExtraParam} {ans : CameraContext.StreamAnswers} {infos : List TrackInfo}
  {client session track : UInt32}

theorem sized_media_iff :
    RecorderImpl.Sized (s.media m) p infos ↔ s.source.Searchable p infos := by
  have hnone : ∀ id, (s.media m).trackSize id = none ↔ id ∉ s.source.trackSources := by
    intro id
    simp [media]
  have hsome : ∀ id, (s.media m).trackSize id = some (p.width, p.height) ↔
      ∃ t, s.source.trackSources[id]? = some t ∧
        p.width = t.params.width ∧ p.height = t.params.height := by
    intro id
    simp [media, eq_comm]
  simp only [RecorderImpl.Sized, CameraSource.Searchable, hnone, hsome]

/-- `CameraSource` reads this id as that of no track. -/
def readSource (source : UInt32) : Option UInt32 := (some source).filter (· ≠ 0xfffffffe)

/-- What a request for a track needs of the track sources: the track that it names has one, or the
search for a track to link meets only tracks that have one. -/
def FindsSource (s : CameraService) (r : RecorderImpl) (m : Media) (client session track : UInt32)
    (p : VideoTrackCreateParam) (extra : VideoExtraParam) : Prop :=
  let id := RecorderImpl.getUniqueServiceTrackId client session track
  match extra.sourceVideoTrackId with
  | some source => p.cameraId ∈ s.source.cameraMap →
      s.source.AcceptsSource id p (readSource (getServiceTrackId r client source))
  | none =>
    if extra.useLinkedTrackInSlaveMode = some true then
      (∀ ts ∈ r.ownerSessions p.cameraId,
        s.source.Searchable p (RecorderImpl.trackInfos ts)) ∧
      (p.cameraId ∈ s.source.cameraMap → CameraSource.AcceptsStream id p ∨
        ∀ found, r.findSuitableIdForLinkedTrack (s.media m) p = .ok (some found) →
          found ≠ noTrack → s.source.AcceptsSource id p (readSource found))
    else p.cameraId ∈ s.source.cameraMap → CameraSource.AcceptsStream id p

theorem acceptsSource_of_stream {id found : UInt32} (hstream : CameraSource.AcceptsStream id p)
    (hfound : ((s.media m).trackSize found).isSome) :
    s.source.AcceptsSource id p (readSource found) := by
  by_cases hread : found = 0xfffffffe
  · rw [hread]
    exact hstream
  · have hsource : readSource found = some found := by simp [readSource, hread]
    rw [hsource]
    obtain ⟨size, hsize⟩ := Option.isSome_iff_exists.mp hfound
    obtain ⟨master, hmaster, -⟩ := Option.map_eq_some_iff.mp hsize
    exact ⟨master, hmaster, .inr hstream⟩

/-- Once the source track is resolved, only the camera source can fail. -/
theorem createVideoTrack_of_resolved {source : Option UInt32} (hr : s.recorder = some r)
    (hchecks : checksTrack r client session track = true)
    (hgo : r.resolveSourceTrack (s.media m) p extra = .ok true)
    (hsource : sourceTrack r (s.media m) client p extra = .ok source) :
    Normal (s.createVideoTrack client session track p extra m ans) ↔
      (p.cameraId ∈ s.source.cameraMap → s.source.AcceptsSource
        (RecorderImpl.getUniqueServiceTrackId client session track) p source) := by
  unfold createVideoTrack Normal
  simp only [hr, hchecks, Bool.not_true, Bool.false_eq_true, if_false]
  rw [succeeds_bind, hgo, succeeds_ok]
  simp only [Bool.not_true, Bool.false_eq_true, if_false]
  rw [succeeds_bind, hsource, succeeds_ok,
    ← CameraSource.createTrackSource_normal_iff ans, Normal, succeeds_bind]
  refine succeeds_congr fun out => ?_
  have hanswer : r.resolveSourceTrack ((s.media m).answering out.1) p extra = .ok true :=
    resolved_answering hgo
  obtain ⟨b, hb, -⟩ :=
    RecorderImpl.createVideoTrack_normal client session track ⟨true, hanswer, trivial⟩
  rw [succeeds_bind, hb]
  simp

/-- A request for a linked track, before anything is created. -/
theorem createVideoTrack_unresolved (hr : s.recorder = some r)
    (hchecks : checksTrack r client session track = true)
    (hgo : r.resolveSourceTrack (s.media m) p extra ≠ .ok true) :
    Normal (s.createVideoTrack client session track p extra m ans) ↔
      Normal (r.resolveSourceTrack (s.media m) p extra) := by
  unfold createVideoTrack Normal
  simp only [hr, hchecks, Bool.not_true, Bool.false_eq_true, if_false]
  rw [succeeds_bind]
  refine succeeds_congr_of_eq fun go heq => ?_
  cases go with
  | false => simp
  | true => exact absurd heq hgo

theorem resolveSourceTrack_linked (hsource : extra.sourceVideoTrackId = none)
    (hlinked : extra.useLinkedTrackInSlaveMode = some true) :
    r.resolveSourceTrack m p extra = r.findSuitableIdForLinkedTrack m p >>= fun found =>
      .ok (found.any (· ≠ 0xffffffff)) := by
  simp [RecorderImpl.resolveSourceTrack, hsource, hlinked]

theorem createVideoTrack_linked (hr : s.recorder = some r)
    (hchecks : checksTrack r client session track = true)
    (hsource : extra.sourceVideoTrackId = none)
    (hlinked : extra.useLinkedTrackInSlaveMode = some true) :
    Normal (s.createVideoTrack client session track p extra m ans) ↔
      s.FindsSource r m client session track p extra := by
  have hsearch := RecorderImpl.findSuitable_succeeds_iff (r := r) (m := s.media m) (p := p)
    (P := fun _ => True) fun _ _ => trivial
  simp only [sized_media_iff] at hsearch
  have hresolve := resolveSourceTrack_linked (r := r) (m := s.media m) (p := p) hsource hlinked
  simp only [FindsSource, hsource, hlinked, if_true, ← hsearch]
  cases hfind : r.findSuitableIdForLinkedTrack (s.media m) p with
  | error e =>
    rw [hfind] at hresolve
    rw [createVideoTrack_unresolved hr hchecks (by rw [hresolve]; nofun), hresolve]
    simp [Normal, bind, Except.bind]
  | ok found =>
    rw [hfind] at hresolve
    by_cases hgo : found.any (· ≠ 0xffffffff) = true
    · obtain ⟨sel, rfl, hno⟩ : ∃ sel, found = some sel ∧ sel ≠ noTrack := by
        cases found with
        | none => cases hgo
        | some sel => exact ⟨sel, rfl, of_decide_eq_true hgo⟩
      have htrack : sourceTrack r (s.media m) client p extra = .ok (readSource sel) := by
        simp only [sourceTrack, hsource, hlinked, if_true, hfind]
        rfl
      have hgo : r.resolveSourceTrack (s.media m) p extra = .ok true :=
        hresolve.trans (congrArg Except.ok hgo)
      rw [createVideoTrack_of_resolved hr hchecks hgo htrack, succeeds_ok, true_and]
      refine forall_congr' fun _ => ⟨fun hsource => .inr fun other heq _ => ?_, ?_⟩
      · obtain rfl := Option.some.inj (Except.ok.inj heq)
        exact hsource
      · rintro (hstream | hfound)
        · exact acceptsSource_of_stream hstream (RecorderImpl.findSuitable_sound hfind sel rfl)
        · exact hfound sel rfl hno
    · have hgo' : r.resolveSourceTrack (s.media m) p extra = .ok false :=
        hresolve.trans (congrArg Except.ok (Bool.eq_false_iff.mpr hgo))
      rw [createVideoTrack_unresolved hr hchecks (by rw [hgo']; nofun), hgo']
      refine iff_of_true (succeeds_ok.mpr trivial) ⟨succeeds_ok.mpr trivial, fun _ => .inr ?_⟩
      intro sel heq hno
      obtain rfl := Except.ok.inj heq
      exact absurd (decide_eq_true hno) hgo

theorem createVideoTrack_normal_iff (hr : s.recorder = some r)
    (hchecks : checksTrack r client session track = true) :
    Normal (s.createVideoTrack client session track p extra m ans) ↔
      s.FindsSource r m client session track p extra := by
  cases hsource : extra.sourceVideoTrackId with
  | some source =>
    have hgo : r.resolveSourceTrack (s.media m) p extra = .ok true := by
      simp [RecorderImpl.resolveSourceTrack, hsource]
    have htrack : sourceTrack r (s.media m) client p extra =
        .ok (readSource (getServiceTrackId r client source)) := by
      simp only [sourceTrack, hsource]
      rfl
    simp only [FindsSource, hsource]
    exact createVideoTrack_of_resolved hr hchecks hgo htrack
  | none =>
    by_cases hlinked : extra.useLinkedTrackInSlaveMode = some true
    · exact createVideoTrack_linked hr hchecks hsource hlinked
    · have hgo : r.resolveSourceTrack (s.media m) p extra = .ok true := by
        simp [RecorderImpl.resolveSourceTrack, hsource, hlinked]
      have htrack : sourceTrack r (s.media m) client p extra = .ok none := by
        simp only [sourceTrack, hsource, hlinked, if_false]
        rfl
      simp only [FindsSource, hsource, hlinked, if_false]
      exact createVideoTrack_of_resolved hr hchecks hgo htrack

end CameraService

namespace MediaService

variable {s : MediaService} {client session track : UInt32} {p : VideoTrackCreateParam}
  {extra : VideoExtraParam} {m : Media} {ans : CameraContext.StreamAnswers}

/-- A request for a track returns exactly when it is refused before the lookups or they find what
they are asserted to find. -/
theorem createVideoTrack_returns_iff :
    Normal (s.createVideoTrack client session track p extra m ans) ↔
      ∀ r, s.recorder = some r → CameraService.checksTrack r client session track = true →
        s.camera.FindsSource r (s.backends.media m) client session track p extra := by
  have hcamera : Normal (s.createVideoTrack client session track p extra m ans) ↔
      Normal (s.camera.createVideoTrack client session track p extra (s.backends.media m) ans) := by
    unfold createVideoTrack onCamera Normal
    rw [succeeds_bind, succeeds_bind]
    simp
  rw [hcamera]
  cases hr : s.recorder with
  | none =>
    have hr : s.camera.recorder = none := hr
    simp [CameraService.createVideoTrack, hr, Normal]
  | some r =>
    simp only [Option.some.injEq, forall_eq']
    have hr : s.camera.recorder = some r := hr
    by_cases hchecks : CameraService.checksTrack r client session track = true
    · rw [CameraService.createVideoTrack_normal_iff hr hchecks]
      simp [hchecks]
    · simp [CameraService.createVideoTrack, hr, hchecks, Normal]

/-- The client names a source track that it does not have. -/
theorem unknown_source_aborts :
    ¬ ∀ (as : List MediaRequest) (s : MediaService) (client session track : UInt32)
      (p : VideoTrackCreateParam) (extra : VideoExtraParam), lts.MTr {} as s →
      Normal (s.createVideoTrack client session track p extra {} {}) := by
  intro hall
  have hrun : (LTS.run next {} [⟨.connect .noError, {}⟩, ⟨.startCamera 1 0 false {}, {}⟩,
      ⟨.createSession 1, {}⟩]).map (fun s => (s.createVideoTrack 1 1 5 ⟨0, 640, 480, .avc⟩
        { sourceVideoTrackId := some 9 } {} {}).toOption.isSome) = some false := by decide
  obtain ⟨s, hs, hfails⟩ := Option.map_eq_some_iff.mp hrun
  obtain ⟨out, hout, -⟩ := hall _ s 1 1 5 ⟨0, 640, 480, .avc⟩ { sourceVideoTrackId := some 9 }
    (LTS.mTr_ofStep_iff.mpr hs)
  rw [hout] at hfails
  cases hfails

end MediaService

end QmmfSdk.Recorder
