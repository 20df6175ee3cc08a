import QmmfSdk.Streams.CaptureSteps

/-! `ConfigImageCapture` succeeds, or it fails and leaves the capture as it was set up, and it meets no
failed assertion: under which conditions it keeps that. -/
namespace QmmfSdk.Streams.ImageCapture

open Library
open Recorder (IdMap Status Abort SnapshotMode BufferFormat)
open SnapshotContext (getSnapshotStreamParams)

/-- A capture as it is set up: its configuration, and its snapshot and ZSL streams. -/
@[ext]
structure Setting where
  thumbnails : List ImageThumbnail
  exifEn : Bool
  snapshotType : SnapshotMode
  newSnapshotType : SnapshotMode
  rawSnapshotFormat : BufferFormat
  jpegInputFormat : BufferFormat
  newJpegInputFormat : BufferFormat
  snapshotParam : SnapshotParam
  snapshotStreamParam : CameraStreamParameters
  streamIds : List Int
  liveStreams : OrdMap Int CameraStreamParameters
  zslStreamId : Option Int
  zslSize : UInt32 × UInt32
  inputStreamId : Int

namespace Context

def setting (c : Context) : Setting where
  thumbnails := c.thumbnails
  exifEn := c.exifEn
  snapshotType := c.snapshot.snapshotType
  newSnapshotType := c.snapshot.newSnapshotType
  rawSnapshotFormat := c.snapshot.rawSnapshotFormat
  jpegInputFormat := c.snapshot.jpegInputFormat
  newJpegInputFormat := c.snapshot.newJpegInputFormat
  snapshotParam := c.snapshot.snapshotParam
  snapshotStreamParam := c.snapshot.snapshotStreamParam
  streamIds := c.snapshot.streamIds
  liveStreams := c.snapshot.liveStreams
  zslStreamId := (c.streams.activePorts[zslPortId]?).map CameraPort.cameraStreamId
  zslSize := (c.zslPort.width, c.zslPort.height)
  inputStreamId := c.zslPort.inputStreamId

variable {c : Context} {d : Answers} {p : CameraStreamParameters} {param : SnapshotParam}
  {config : ImageConfigParam} {s : Setting} {t : SnapshotType}

theorem setting_paused : c.paused.setting = c.setting := by
  have hport : (c.streams.paused.activePorts[zslPortId]?).map CameraPort.cameraStreamId =
      (c.streams.activePorts[zslPortId]?).map CameraPort.cameraStreamId := by
    unfold CameraContext.paused
    split
    · rfl
    · rw [CameraContext.getElem?_interrupted, Option.map_map]
      rfl
  have htype : c.streams.paused.snapshotType = c.streams.snapshotType := by
    unfold CameraContext.paused
    split <;> rfl
  unfold setting
  change Setting.mk _ _ c.streams.paused.snapshotType _ _ _ _ _ _ _ _
    ((c.streams.paused.activePorts[zslPortId]?).map _) _ _ = _
  rw [hport, htype]
  rfl

theorem setting_flushed : c.flushed.setting = c.setting := by
  obtain ⟨removed, map, h⟩ := c.streams_flushed
  unfold setting
  change Setting.mk _ _ c.flushed.streams.snapshotType _ _ _ _ _ _ _ _
    ((c.flushed.streams.activePorts[zslPortId]?).map _) _ _ = _
  rw [h]
  rfl

theorem setting_quieted : c.quieted.setting = c.setting := by
  unfold quieted
  split
  · exact setting_flushed
  · rfl

theorem streamIds_quieted : c.quieted.snapshot.streamIds = c.snapshot.streamIds :=
  congrArg Setting.streamIds setting_quieted

/-- A first stream for the snapshot that the device refuses: the main one, or the raw one where the
main one is there already. -/
def Refused (d : Answers) (c : Context) (p : CameraStreamParameters) : Prop :=
  if c.snapshot.isStreamParamsChanged p then
    c.streams.Pausable d.snapshot.flushed ∧
      c.paused.CanCreateStream false d.snapshot.configured d.returned ∧ d.snapshot.created = false
  else
    plusRaw c.snapshot.snapshotType ∧ c.CanCreateStream false d.snapshot.configured d.returned ∧
      d.snapshot.rawCreated = false

/-- The stream comes to the others of the snapshot. -/
theorem streamIds_withSnapshotStream {cache : Bool} : (c.withSnapshotStream p cache).snapshot.streamIds =
    c.snapshot.streamIds ++ [c.quieted.streams.nextStreamId] := by
  have hnew : (c.quieted.newStream cache).snapshot.streamIds = c.snapshot.streamIds := by
    unfold newStream
    dsimp only
    split
    · exact streamIds_quieted
    · exact streamIds_quieted
  rw [← hnew]
  rfl

theorem snapshotType_withSnapshotStream {cache : Bool} :
    (c.withSnapshotStream p cache).snapshot.snapshotType = c.snapshot.snapshotType := by
  have hquieted : c.quieted.snapshot.snapshotType = c.snapshot.snapshotType :=
    congrArg Setting.snapshotType setting_quieted
  rw [← hquieted]
  unfold withSnapshotStream newStream
  dsimp only
  split <;> rfl

/-- No raw stream is made after a deletion, which forgets the type. -/
theorem snapshotType_snapshotDeleted : (snapshotDeleted d c).snapshot.snapshotType = .none := rfl

/-- The raw stream comes last, so a refusal of it leaves the setting as the main stream made it. -/
theorem succeeds_rawStream_refused :
    Succeeds (if plusRaw c.snapshot.snapshotType then
        c.addSnapshotStream (c.snapshot.rawStreamParam p) false d.snapshot.rawCreated d
      else .ok (.noError, c)) (fun r => r.1 ≠ .noError ∧ r.2.setting = s) ↔
    plusRaw c.snapshot.snapshotType ∧ c.CanCreateStream false d.snapshot.configured d.returned ∧
      d.snapshot.rawCreated = false ∧ c.setting = s := by
  split
  next hraw =>
    rw [succeeds_addSnapshotStream, and_iff_right hraw]
    refine and_congr_right fun _ => ?_
    cases d.snapshot.rawCreated with
    | true => simp
    | false => simp [setting_quieted]
  next hraw => simp [hraw]

theorem succeeds_createSnapshotStream_refused (hids : s.streamIds = c.snapshot.streamIds)
    (hnone : c.setting = s → c.snapshot.streamIds = []) :
    Succeeds (c.createSnapshotStream p false d) (fun r => r.1 ≠ .noError ∧ r.2.setting = s) ↔
      c.setting = s ∧ Refused d c p := by
  have hmain : ∀ r : Status × Context,
      Succeeds (if r.1 ≠ .noError then .ok r
        else if plusRaw r.2.snapshot.snapshotType then
          r.2.addSnapshotStream (r.2.snapshot.rawStreamParam p) false d.snapshot.rawCreated d
        else .ok (.noError, r.2)) (fun r => r.1 ≠ .noError ∧ r.2.setting = s) ↔
      r.2.setting = s ∧ (r.1 ≠ .noError ∨ plusRaw r.2.snapshot.snapshotType ∧
        r.2.CanCreateStream false d.snapshot.configured d.returned ∧ d.snapshot.rawCreated = false) := by
    rintro ⟨ret, u⟩
    dsimp only
    split
    next herror => simp [herror]
    next hnone =>
      rw [succeeds_rawStream_refused, or_iff_right hnone]
      tauto
  rw [createSnapshotStream, succeeds_bind, succeeds_congr hmain, mainSnapshotStream, Refused]
  split
  next hchanged =>
    rw [succeeds_replaceSnapshotStream]
    by_cases hfirst : c.snapshot.streamIds = []
    · have hclear : CanClear d c ↔ c.streams.Pausable d.snapshot.flushed := by
        simp [CanClear, hfirst]
      rw [hclear, if_neg (by simp [hfirst]), succeeds_addSnapshotStream, cleared, if_pos hfirst]
      cases hcreated : d.snapshot.created with
      | true =>
        have hgrown : (c.paused.withSnapshotStream p false).setting ≠ s := fun h => by
          have hgrown : (c.paused.withSnapshotStream p false).snapshot.streamIds = [] :=
            (congrArg Setting.streamIds h).trans (hids.trans hfirst)
          simp [streamIds_withSnapshotStream] at hgrown
        simp [hgrown]
      | false =>
        simp only [Bool.false_eq_true, if_false, setting_quieted, setting_paused]
        simp only [ne_eq, reduceCtorEq, not_false_eq_true, true_or, and_true]
        tauto
    · have hnew : c.setting ≠ s := fun h => hfirst (hnone h)
      rw [iff_false_right (fun h => hnew h.1), not_and]
      intro _
      split
      · simp [setting_paused, hnew]
      · rw [succeeds_addSnapshotStream, cleared, if_neg hfirst]
        cases hcreated : d.snapshot.created with
        | true => simp [snapshotType_withSnapshotStream, snapshotType_snapshotDeleted, plusRaw]
        | false =>
          have hgone : (snapshotDeleted d c.paused).setting ≠ s := fun h =>
            hfirst (hids.symm.trans (congrArg Setting.streamIds h).symm)
          simp [setting_quieted, hgone]
  next hsame =>
    rw [succeeds_ok]
    simp

/-- Success, or the setting from before. -/
def Settled (s : Setting) (r : Status × Context) : Prop := r.1 = .noError ∨ r.2.setting = s

theorem settled_iff {r : Status × Context} :
    Settled s r ↔ (r.1 = .noError ∧ True) ∨ (r.1 ≠ .noError ∧ r.2.setting = s) := by
  unfold Settled
  tauto

/-- The end of `SetUpCapture` reports what became of the streams. -/
theorem succeeds_storeParams {r : Status × Context} :
    Succeeds (if r.1 ≠ .noError then (.ok r : Except Abort (Status × Context))
      else .ok (.noError, r.2.storeParams param p)) (Settled s) ↔
    (r.1 = .noError ∧ True) ∨ (r.1 ≠ .noError ∧ r.2.setting = s) := by
  split
  next herror => rw [succeeds_ok, settled_iff]
  next hnone => simp [Settled, not_not.mp hnone]

/-- What the tags of a configuration leave the camera with. -/
def configured (c : Context) (config : ImageConfigParam) : Context :=
  match config.snapshotType with
  | none => c.withTags config
  | some t => (c.withTags config).withType t

/-- The tags other than the snapshot type say what is set already. -/
structure RepeatsTags (c : Context) (config : ImageConfigParam) : Prop where
  thumbnails : config.thumbnails = [] ∨ config.thumbnails = c.thumbnails
  exif : ∀ enable ∈ config.exif, enable = c.exifEn
  jpegInputFormat : ∀ format ∈ config.jpegInputFormat, format = c.snapshot.newJpegInputFormat

/-- So does the snapshot type, if there is one. -/
structure RepeatsType (c : Context) (config : ImageConfigParam) : Prop where
  type : ∀ t ∈ config.snapshotType, t.type = c.snapshot.newSnapshotType
  rawFormat : ∀ t ∈ config.snapshotType, plusRaw t.type →
    fromImageToQmmfFormat t.rawFormat = c.snapshot.rawSnapshotFormat

/-- The configuration is the one in use: nothing waits to be taken over by `SetUpCapture`. -/
structure RepeatsParam (c : Context) (param : SnapshotParam) : Prop where
  param : c.snapshot.snapshotParam = param
  type : c.snapshot.snapshotType = c.snapshot.newSnapshotType
  jpegInputFormat : c.snapshot.jpegInputFormat = c.snapshot.newJpegInputFormat

theorem setting_withTags : (c.withTags config).setting = c.setting ↔ c.RepeatsTags config := by
  have htag : ∀ {α : Type} (o : Option α) (old : α), o.getD old = old ↔ ∀ a ∈ o, a = old := by
    rintro α (_ | a) old <;> simp
  have hthumbnails : (if config.thumbnails = [] then c.thumbnails else config.thumbnails) =
      c.thumbnails ↔ config.thumbnails = [] ∨ config.thumbnails = c.thumbnails := by
    split
    next hnone => simp [hnone]
    next hsome => simp [hsome]
  rw [Setting.ext_iff]
  constructor
  · rintro ⟨h, h', -, -, -, -, h'', -⟩
    exact ⟨hthumbnails.mp h, (htag _ _).mp h', (htag _ _).mp h''⟩
  · rintro ⟨h, h', h''⟩
    exact ⟨hthumbnails.mpr h, (htag _ _).mpr h', rfl, rfl, rfl, rfl, (htag _ _).mpr h'', rfl, rfl, rfl,
      rfl, rfl, rfl, rfl⟩

theorem setting_configured : (c.configured config).setting = c.setting ↔
    c.RepeatsTags config ∧ c.RepeatsType config := by
  rw [← setting_withTags, configured]
  cases htype : config.snapshotType with
  | none => exact (and_iff_left ⟨by simp [htype], by simp [htype]⟩).symm
  | some t =>
    constructor
    · intro h
      obtain ⟨h1, h2, h3, h4, h5, h6, h7, h8⟩ := Setting.ext_iff.mp h
      refine ⟨Setting.ext_iff.mpr ⟨h1, h2, h3, rfl, rfl, h6, h7, h8⟩, fun t' ht' => ?_,
        fun t' ht' hraw => ?_⟩
      · obtain rfl := Option.some.inj (htype.symm.trans ht')
        exact h4
      · obtain rfl := Option.some.inj (htype.symm.trans ht')
        exact (if_pos hraw).symm.trans h5
    · rintro ⟨h, ht, hraw⟩
      obtain ⟨h1, h2, h3, -, -, h6, h7, h8⟩ := Setting.ext_iff.mp h
      refine Setting.ext_iff.mpr ⟨h1, h2, h3, ht t htype, ?_, h6, h7, h8⟩
      change (if plusRaw t.type then _ else c.snapshot.rawSnapshotFormat) = _
      split
      next hplus => exact hraw t htype hplus
      next => rfl

/-- A configuration that is taken over changes nothing when it is the one in use. -/
theorem setting_remember : ((c.configured config).remember param).setting = c.setting ↔
    c.RepeatsTags config ∧ c.RepeatsType config ∧ c.RepeatsParam param := by
  rw [← and_assoc, ← setting_configured]
  constructor
  · intro h
    obtain ⟨h1, h2, h3, h4, h5, h6, h7, h8, h9⟩ := Setting.ext_iff.mp h
    have hold : (c.configured config).snapshot.snapshotType = c.snapshot.snapshotType ∧
        (c.configured config).snapshot.jpegInputFormat = c.snapshot.jpegInputFormat ∧
        (c.configured config).snapshot.snapshotParam = c.snapshot.snapshotParam := by
      unfold configured
      split <;> exact ⟨rfl, rfl, rfl⟩
    exact ⟨Setting.ext_iff.mpr ⟨h1, h2, hold.1, h4, h5, hold.2.1, h7, hold.2.2, h9⟩, h8.symm,
      h3.symm.trans h4, h6.symm.trans h7⟩
  · rintro ⟨h, hparam, htype, hjpeg⟩
    obtain ⟨h1, h2, h3, h4, h5, h6, h7, h8, h9⟩ := Setting.ext_iff.mp h
    exact Setting.ext_iff.mpr ⟨h1, h2, h4.trans htype.symm, h4, h5, h7.trans hjpeg.symm, h7,
      hparam.symm, h9⟩

/-- The configuration is the one that is in use already. -/
def Repeats (c : Context) (config : ImageConfigParam) (param : SnapshotParam) : Prop :=
  c.RepeatsTags config ∧ c.RepeatsType config ∧ c.RepeatsParam param

/-- `SetUpCapture` without ZSL: there is nothing to do, or the streams can be made, or it is refused
before it has changed anything. -/
def SetsUp (d : Answers) (c : Context) (config : ImageConfigParam) (param : SnapshotParam) : Prop :=
  (c.configured config).snapshot.reconfigureNeeded param →
    if c.snapshot.staticMeta.validateResolution param.format param.width param.height then
      CanCreate d ((c.configured config).remember param) (getSnapshotStreamParams param) false ∨
        c.Repeats config param ∧
          Refused d ((c.configured config).remember param) (getSnapshotStreamParams param)
    else c.Repeats config param

theorem configured_same (c : Context) (config : ImageConfigParam) :
    (c.configured config).snapshot.snapshotType = c.snapshot.snapshotType ∧
    (c.configured config).snapshot.staticMeta = c.snapshot.staticMeta ∧
    (c.configured config).snapshot.streamIds = c.snapshot.streamIds ∧
    (c.configured config).snapshot.snapshotParam = c.snapshot.snapshotParam ∧
    (c.configured config).snapshot.jpegInputFormat = c.snapshot.jpegInputFormat := by
  unfold configured
  split <;> exact ⟨rfl, rfl, rfl, rfl, rfl⟩

/-- Only missing streams make a configuration necessary that is in use already. -/
theorem streamIds_of_repeats (h : c.Repeats config param)
    (hneeded : (c.configured config).snapshot.reconfigureNeeded param) :
    c.snapshot.streamIds = [] := by
  obtain ⟨htype, -, hids, hparam, hjpeg⟩ := configured_same c config
  have hset := Setting.ext_iff.mp (setting_configured.mpr ⟨h.1, h.2.1⟩)
  have hnew : (c.configured config).snapshot.newSnapshotType = c.snapshot.newSnapshotType :=
    hset.2.2.2.1
  have hnewJpeg : (c.configured config).snapshot.newJpegInputFormat =
      c.snapshot.newJpegInputFormat := hset.2.2.2.2.2.2.1
  simp only [SnapshotContext.reconfigureNeeded, SnapshotContext.isNeedReconfigSnapshotStream, htype,
    hids, hparam, hjpeg, hnew, hnewJpeg, h.2.2.param, h.2.2.type, h.2.2.jpegInputFormat] at hneeded
  simpa using hneeded

theorem succeeds_setUpCapture (htype : c.snapshot.snapshotType ≠ .zsl) :
    Succeeds ((c.configured config).setUpCapture param d) (Settled c.setting) ↔
      SetsUp d c config param := by
  obtain ⟨hsame, hmeta, hids, -⟩ := configured_same c config
  unfold setUpCapture SetsUp
  rw [if_pos (by rwa [hsame]), hmeta]
  by_cases hneeded : (c.configured config).snapshot.reconfigureNeeded param
  · rw [if_neg (not_not.mpr hneeded), forall_prop_of_true hneeded]
    by_cases hvalid : c.snapshot.staticMeta.validateResolution param.format param.width param.height
    · have hrefused := succeeds_createSnapshotStream_refused (d := d)
        (p := getSnapshotStreamParams param) (c := (c.configured config).remember param)
        (s := c.setting) hids.symm
        fun h => hids.trans (streamIds_of_repeats (setting_remember.mp h) hneeded)
      rw [if_neg (not_not.mpr hvalid), if_pos hvalid, succeeds_bind,
        succeeds_congr fun _ => succeeds_storeParams, succeeds_or, hrefused, setting_remember,
        succeeds_createSnapshotStream (P := fun _ => True), and_true]
      rfl
    · rw [if_pos hvalid, if_neg hvalid, succeeds_ok, Settled, setting_remember]
      exact or_iff_right (by simp)
  · rw [if_pos hneeded, succeeds_ok, forall_prop_of_false hneeded]
    exact iff_of_true (.inl rfl) trivial

/-- What the streams of a snapshot leave alone, as long as nothing streams and there is no ZSL queue. -/
def base (c : Context) : ℚ × List Int × StaticMeta × ZslSource × Int × IdMap CameraPort :=
  (c.frameRate, c.supportedFps, c.snapshot.staticMeta, c.zslPort, c.streams.streamingRequestId,
    c.streams.activePorts)

theorem base_withSnapshotStream {cache : Bool} (htype : c.snapshot.snapshotType ≠ .zsl) :
    (c.withSnapshotStream p cache).base = c.base := by
  rw [withSnapshotStream, quieted_of_ne_zsl htype, newStream_of_ne_zsl htype]
  rfl

theorem base_snapshotDeleted (htype : c.snapshot.snapshotType ≠ .zsl) :
    (snapshotDeleted d c).base = c.base := by
  rw [snapshotDeleted, foldl_streamDeleted_of_ne_zsl _ htype]
  rfl

theorem mainCreated_of_ne_zsl {cache : Bool} (hquiet : c.streams.Quiet)
    (htype : c.snapshot.snapshotType ≠ .zsl) :
    (mainCreated d c p cache).base = c.base ∧
      (mainCreated d c p cache).snapshot.snapshotType ≠ .zsl := by
  have hpaused : c.paused = c := by
    rw [paused, CameraContext.paused, if_pos hquiet]
    rfl
  unfold mainCreated cleared
  split
  · rw [hpaused]
    split
    · rw [base_withSnapshotStream htype, snapshotType_withSnapshotStream]
      exact ⟨rfl, htype⟩
    · have hnone : (snapshotDeleted d c).snapshot.snapshotType ≠ .zsl := by
        simp [snapshotType_snapshotDeleted]
      rw [base_withSnapshotStream hnone, snapshotType_withSnapshotStream,
        base_snapshotDeleted htype]
      exact ⟨rfl, hnone⟩
  · exact ⟨rfl, htype⟩

theorem snapshotCreated_of_ne_zsl {cache : Bool} (hquiet : c.streams.Quiet)
    (htype : c.snapshot.snapshotType ≠ .zsl) :
    (snapshotCreated d c p cache).base = c.base ∧
      (snapshotCreated d c p cache).snapshot.snapshotType ≠ .zsl := by
  obtain ⟨hbase, hmain⟩ : (mainCreated d c p cache).base = c.base ∧
      (mainCreated d c p cache).snapshot.snapshotType ≠ .zsl := mainCreated_of_ne_zsl hquiet htype
  unfold snapshotCreated
  dsimp only
  split
  · rw [base_withSnapshotStream hmain, snapshotType_withSnapshotStream]
    exact ⟨hbase, hmain⟩
  · exact ⟨hbase, hmain⟩

/-- The parameters of a capture fit the queue that there will be. -/
def FitsZsl (c : Context) (t : SnapshotType) (param : SnapshotParam) : Prop :=
  param.format = .blob ∧ (param.width, param.height) =
    if c.hasZslPort then (c.zslPort.width, c.zslPort.height)
    else (t.zslImageParam.width, t.zslImageParam.height)

/-- The context in which a new ZSL port is made. -/
def zslRequested (d : Answers) (c : Context) (t : SnapshotType) (metadata : RequestMetadata) :
    Context :=
  (snapshotCreated d (c.zslPaused t) (zslStreamParam t) true).withZslRequest metadata

/-- With the device's template for the first request, the ports run as `CanRun` says. -/
def ZslRuns (d : Answers) (c : Context) (t : SnapshotType) : Prop :=
  ∃ metadata, d.defaultRequest = some metadata ∧
    CanRun d (zslRequested d c t metadata).zslStreamsMade
      ((zslRequested d c t metadata).zslSource (zslStreamParam t) t.queueDepth)

/-- ZSL goes on without an error, which would fail an assertion, and the capture fits it. -/
structure EntersZsl (d : Answers) (c : Context) (t : SnapshotType) (param : SnapshotParam) :
    Prop where
  inputSupported : c.inputSupported
  pausable : c.streams.Pausable d.paused
  snapshotStreams : CanCreate d (c.zslPaused t) (zslStreamParam t) true
  accepted : c.zslAccepted (zslStreamParam t) t.queueDepth
  configured : c.streams.paused.streamingRequestId < 0 → d.zslConfigured = true
  created : d.zslCreated = true ∧ d.inputCreated = true
  runs : ZslRuns d c t
  fits : c.FitsZsl t param

theorem validateCaptureParams_iff {zsl : ZslSource} : validateCaptureParams zsl param = .noError ↔
    param.format = .blob ∧ (param.width, param.height) = (zsl.width, zsl.height) := by
  unfold validateCaptureParams
  rw [Prod.mk.injEq]
  split
  next hformat => simp [hformat]
  next hformat =>
    rw [and_iff_right (not_not.mp hformat)]
    split
    next hsize => simpa [imp_iff_not_or] using hsize
    next hsize => simpa [not_or] using hsize

theorem setUpCapture_zsl (htype : c.snapshot.snapshotType = .zsl) (hport : c.hasZslPort) :
    c.setUpCapture param d = .ok (validateCaptureParams c.zslPort param, c) := by
  unfold setUpCapture
  rw [if_neg (not_not.mpr htype), if_neg (not_not.mpr hport)]

theorem zslRequested_of_ne_zsl (d : Answers) (t : SnapshotType) (metadata : RequestMetadata)
    (htype : c.snapshot.snapshotType ≠ .zsl) :
    (zslRequested d c t metadata).base = (c.zslPaused t).base ∧
      (zslRequested d c t metadata).snapshot.snapshotType ≠ .zsl := by
  have hpaused : (c.zslPaused t).snapshot.snapshotType = c.snapshot.snapshotType :=
    congrArg Setting.snapshotType (setting_paused (c := c.withSnapshotParam _))
  exact snapshotCreated_of_ne_zsl c.streams.quiet_paused (hpaused ▸ htype)

/-- A refusal depends only on what was there before the streams were paused. -/
theorem zslAccepted_congr {u : Context} {queueDepth : UInt32} (h : u.base = c.base) :
    u.zslAccepted p queueDepth = c.zslAccepted p queueDepth := by
  obtain ⟨hrate, hfps, hmeta, -⟩ : u.frameRate = c.frameRate ∧ u.supportedFps = c.supportedFps ∧
      u.snapshot.staticMeta = c.snapshot.staticMeta ∧ _ := by
    simpa only [base, Prod.mk.injEq] using h
  unfold zslAccepted wholeRate
  rw [hrate, hfps, hmeta]

theorem base_zslStreamsMade (htype : c.snapshot.snapshotType ≠ .zsl) :
    c.zslStreamsMade.base = c.base := by
  rw [zslStreamsMade, quieted_of_ne_zsl htype, newStream_of_ne_zsl htype]
  rfl

/-- Before the new port starts, the ports and a ZSL port among them are the old ones. -/
theorem zslMade_of_ne_zsl (d : Answers) (t : SnapshotType) (metadata : RequestMetadata)
    (htype : c.snapshot.snapshotType ≠ .zsl) :
    (zslRequested d c t metadata).zslStreamsMade.hasZslPort = c.hasZslPort ∧
      (zslRequested d c t metadata).zslStreamsMade.zslPort = c.zslPort := by
  obtain ⟨hbase, hne⟩ := zslRequested_of_ne_zsl d t metadata htype
  have hmade : (zslRequested d c t metadata).zslStreamsMade.base = (c.zslPaused t).base :=
    (base_zslStreamsMade hne).trans hbase
  obtain ⟨-, -, -, hport, -, hports⟩ : _ ∧ _ ∧ _ ∧
      (zslRequested d c t metadata).zslStreamsMade.zslPort = (c.zslPaused t).zslPort ∧ _ ∧
      (zslRequested d c t metadata).zslStreamsMade.streams.activePorts =
        (c.zslPaused t).streams.activePorts := by
    simpa only [base, Prod.mk.injEq] using hmade
  refine ⟨?_, hport⟩
  have hpaused : (c.zslPaused t).hasZslPort = c.hasZslPort :=
    hasZslPort_congr c.streams.books_paused
  rw [← hpaused, hasZslPort, hasZslPort, hports]

theorem succeeds_asserted {type : SnapshotMode} {x : Except Abort (Status × Context)}
    {P : Context → Prop} : Succeeds (asserted type x) P ↔
      Succeeds x fun r => r.1 = .noError ∧ P (r.2.withSnapshotType type) := by
  rw [asserted, succeeds_bind]
  refine succeeds_congr fun r => ?_
  dsimp only
  split
  next hnone => rw [succeeds_ok, and_iff_right hnone]
  next herror => simp [herror]

/-- The port that is there already stays, else the new one is there. -/
theorem zslRunning_port {zsl : ZslSource} (h : CanRun d c zsl) : (zslRunning d c zsl).hasZslPort ∧
    (zslRunning d c zsl).zslPort = if c.hasZslPort then c.zslPort else zsl := by
  obtain ⟨r, hr, rfl⟩ := (succeeds_startZslPort (R := (· = (.noError, zslStarted d c zsl)))).mpr
    ⟨h.1, rfl⟩
  obtain ⟨u, hu, rfl⟩ := (succeeds_resumeActiveStreams (P := (· = zslRunning d c zsl))).mpr
    ⟨h.2, rfl⟩
  obtain ⟨hport, hzsl⟩ := startZslPort_ok hr
  exact ⟨(resumeActiveStreams_ok hu).1.trans hport, hzsl⟩

/-- Whether a capture fits the queue can be told before the port starts. -/
theorem succeeds_setUpCapture_running {zsl : ZslSource} (hs : s.snapshotType ≠ .zsl)
    (h : CanRun d c zsl) :
    Succeeds (((zslRunning d c zsl).withSnapshotType .zsl).setUpCapture param d) (Settled s) ↔
      validateCaptureParams (if c.hasZslPort then c.zslPort else zsl) param = .noError := by
  obtain ⟨hport, hzsl⟩ := zslRunning_port h
  have hnew : ((zslRunning d c zsl).withSnapshotType .zsl).setting ≠ s := fun h =>
    hs (congrArg Setting.snapshotType h).symm
  rw [setUpCapture_zsl (c := (zslRunning d c zsl).withSnapshotType .zsl) rfl hport, succeeds_ok,
    Settled, or_iff_left hnew, ← hzsl]
  rfl

theorem succeeds_enter (htype : c.snapshot.snapshotType ≠ .zsl) (hs : s.snapshotType ≠ .zsl) :
    Succeeds (asserted .zsl (c.startZSL t d))
      (fun u => Succeeds (u.setUpCapture param d) (Settled s)) ↔ EntersZsl d c t param := by
  have hport : ∀ metadata,
      ((zslRequested d c t metadata).zslAccepted (zslStreamParam t) t.queueDepth ∧
        (zslRequested d c t metadata).CanCreateStream false d.zslConfigured d.returned ∧
        d.zslCreated = true ∧ d.inputCreated = true) ↔
      c.zslAccepted (zslStreamParam t) t.queueDepth ∧
        (c.streams.paused.streamingRequestId < 0 → d.zslConfigured = true) ∧
        d.zslCreated = true ∧ d.inputCreated = true := by
    intro metadata
    obtain ⟨hbase, hne⟩ := zslRequested_of_ne_zsl d t metadata htype
    have haccepted : (c.zslPaused t).zslAccepted (zslStreamParam t) t.queueDepth =
        c.zslAccepted (zslStreamParam t) t.queueDepth := rfl
    have hid : (zslRequested d c t metadata).streams.streamingRequestId =
        c.streams.paused.streamingRequestId := congrArg (fun b => b.2.2.2.2.1) hbase
    rw [zslAccepted_congr hbase, haccepted, canCreateStream_of_ne_zsl hne, hid]
    simp only [Bool.false_eq_true, false_or]
  have hfits : ∀ metadata, CanRun d (zslRequested d c t metadata).zslStreamsMade
        ((zslRequested d c t metadata).zslSource (zslStreamParam t) t.queueDepth) →
      (Succeeds (((zslRunning d (zslRequested d c t metadata).zslStreamsMade
          ((zslRequested d c t metadata).zslSource (zslStreamParam t)
            t.queueDepth)).withSnapshotType .zsl).setUpCapture param d) (Settled s) ↔
        c.FitsZsl t param) := by
    intro metadata hruns
    obtain ⟨hmade, hmadePort⟩ := zslMade_of_ne_zsl d t metadata htype
    rw [succeeds_setUpCapture_running hs hruns, hmade, hmadePort, validateCaptureParams_iff, FitsZsl]
    split
    · rfl
    · rfl
  rw [succeeds_asserted, succeeds_startZSL (P := fun v =>
      Succeeds ((v.withSnapshotType .zsl).setUpCapture param d) (Settled s)),
    succeeds_addZslPort (P := fun v =>
      Succeeds ((v.withSnapshotType .zsl).setUpCapture param d) (Settled s))]
  constructor
  · rintro ⟨hinput, hpausable, hstreams, metadata, hrequest, hmade, hruns, hsetUp⟩
    obtain ⟨haccepted, hconfigured, hcreated⟩ := (hport metadata).mp hmade
    exact ⟨hinput, hpausable, hstreams, haccepted, hconfigured, hcreated,
      ⟨metadata, hrequest, hruns⟩, (hfits metadata hruns).mp hsetUp⟩
  · rintro ⟨hinput, hpausable, hstreams, haccepted, hconfigured, hcreated,
      ⟨metadata, hrequest, hruns⟩, hfit⟩
    exact ⟨hinput, hpausable, hstreams, metadata, hrequest,
      (hport metadata).mpr ⟨haccepted, hconfigured, hcreated⟩, hruns, (hfits metadata hruns).mpr hfit⟩

/-- Without ZSL no creation of a snapshot's streams brings it back. -/
theorem not_createSnapshotStream_zsl {cache : Bool} (htype : c.snapshot.snapshotType ≠ .zsl)
    (hs : s.snapshotType = .zsl) :
    ¬ Succeeds (c.createSnapshotStream p cache d) (fun r => r.1 ≠ .noError ∧ r.2.setting = s) := by
  have hne : ∀ u : Context, u.snapshot.snapshotType ≠ .zsl → u.setting ≠ s := fun u hu h =>
    hu ((congrArg Setting.snapshotType h).trans hs)
  have hquieted : ∀ u : Context, u.snapshot.snapshotType ≠ .zsl →
      u.quieted.snapshot.snapshotType ≠ .zsl := fun u hu => by
    rwa [quieted_of_ne_zsl hu]
  have hadd : ∀ (u : Context) (q : CameraStreamParameters) (created : Bool),
      u.snapshot.snapshotType ≠ .zsl → Succeeds (u.addSnapshotStream q cache created d)
        (fun r => r.2.snapshot.snapshotType = .zsl) → False := by
    intro u q created hu h
    rw [succeeds_addSnapshotStream] at h
    cases created with
    | true => exact hu (snapshotType_withSnapshotStream.symm.trans h.2)
    | false => exact hquieted u hu h.2
  have hpaused : c.paused.snapshot.snapshotType ≠ .zsl := by
    rwa [show c.paused.snapshot.snapshotType = c.snapshot.snapshotType from
      congrArg Setting.snapshotType setting_paused]
  have hmain : ¬ Succeeds (c.mainSnapshotStream p cache d)
      (fun r => r.2.snapshot.snapshotType = .zsl) := by
    unfold mainSnapshotStream
    split
    · rw [succeeds_replaceSnapshotStream]
      rintro ⟨-, h⟩
      split at h
      · exact hpaused h
      · refine hadd _ _ _ ?_ h
        unfold cleared
        split
        · exact hpaused
        · simp [snapshotType_snapshotDeleted]
    · rw [succeeds_ok]
      exact htype
  rw [createSnapshotStream, succeeds_bind]
  intro h
  refine hmain (h.imp fun r hr => ?_)
  dsimp only at hr
  by_contra hr'
  split at hr
  · rw [succeeds_ok] at hr
    exact hne r.2 hr' hr.2
  split at hr
  · exact hadd _ _ _ hr' (hr.imp fun v hv => (congrArg Setting.snapshotType hv.2).trans hs)
  · simp at hr

/-- After ZSL there are no streams of a snapshot, and those of the new type have to be made. -/
theorem succeeds_setUpCapture_fresh (hids : c.snapshot.streamIds = [])
    (htype : c.snapshot.snapshotType ≠ .zsl) (hnew : c.snapshot.newSnapshotType ≠ .zsl)
    (hs : s.snapshotType = .zsl) : Succeeds (c.setUpCapture param d) (Settled s) ↔
      c.snapshot.staticMeta.validateResolution param.format param.width param.height ∧
        CanCreate d (c.remember param) (getSnapshotStreamParams param) false := by
  have hneeded : c.snapshot.reconfigureNeeded param := by
    simp [SnapshotContext.reconfigureNeeded, hids]
  have hremember : (c.remember param).snapshot.snapshotType ≠ .zsl := hnew
  unfold setUpCapture
  rw [if_pos htype, if_neg (not_not.mpr hneeded)]
  by_cases hvalid : c.snapshot.staticMeta.validateResolution param.format param.width param.height
  · rw [if_neg (not_not.mpr hvalid), succeeds_bind, succeeds_congr fun _ => succeeds_storeParams,
      succeeds_or,
      or_iff_left (not_createSnapshotStream_zsl hremember hs),
      succeeds_createSnapshotStream (P := fun _ => True), and_true, and_iff_right hvalid]
  · rw [if_pos hvalid, succeeds_ok, Settled]
    have hset : (c.remember param).setting ≠ s := fun h =>
      hremember ((congrArg Setting.snapshotType h).trans hs)
    simp [hset, hvalid]

/-- What is known about the camera before and after ZSL. -/
def lasting (c : Context) : StaticMeta × SnapshotMode :=
  (c.snapshot.staticMeta, c.snapshot.newSnapshotType)

theorem lasting_snapshotDeleted : (snapshotDeleted d c).lasting = c.lasting := by
  have hone : ∀ (c : Context) (id : Int), (streamDeleted d c id).lasting = c.lasting := by
    intro c id
    unfold streamDeleted
    split
    · split
      · rfl
      · rfl
    · rfl
  have hfold : ∀ (ids : List Int) (c : Context),
      (ids.foldl (streamDeleted d) c).lasting = c.lasting := by
    intro ids
    induction ids with
    | nil => exact fun _ => rfl
    | cons id ids ih => exact fun c => (ih _).trans (hone c id)
  exact hfold c.snapshot.streamIds c

theorem lasting_zslStopped : (zslStopped d c).lasting = c.lasting := by
  unfold zslStopped
  split
  · rfl
  next port _ =>
    have hmeta : (c.withStreams (c.streams.turned .created .readyToStop .stopped false zslPortId port
        d.ports.submitted)).lasting = c.lasting := rfl
    exact hmeta

theorem zslErased_same (c : Context) (port : CameraPort) : (c.zslErased port).lasting = c.lasting ∧
    (c.zslErased port).snapshot.streamIds = c.snapshot.streamIds := by
  unfold zslErased zslStreamsDeleted
  split <;> exact ⟨rfl, rfl⟩

/-- After the ZSL port is stopped: the streams can be deleted, the ports left can start again, and the
streams of the new type can be made. -/
structure FollowsZsl (d : Answers) (c : Context) (type : SnapshotMode) (param : SnapshotParam)
    (port : CameraPort) : Prop where
  deletes : CanDeleteAll d c
  has_port : (snapshotDeleted d c).streams.activePorts[zslPortId]? = some port
  notReady : port.readyToStart = false
  deleted : d.snapshot.deleted = true
  resumes : ((snapshotDeleted d c).zslErased port).streams.CanResume d.ports.resumed d.ports.flushed
  creates : CanCreate d
    (((((snapshotDeleted d c).zslErased port).resumed d.ports).withSnapshotType type).remember param)
    (getSnapshotStreamParams param) false

/-- ZSL goes off, and no error comes after it. -/
structure LeavesZsl (d : Answers) (c : Context) (param : SnapshotParam) : Prop where
  port : c.hasZslPort
  flushable : c.CanFlush d.returned
  pausable : c.streams.Pausable d.paused
  valid : c.snapshot.staticMeta.validateResolution param.format param.width param.height
  stops : CanStopZsl d c.zslInterrupted
  follows : ∃ port, FollowsZsl d (zslStopped d c.zslInterrupted) c.snapshot.newSnapshotType param port

theorem succeeds_leave (hnew : c.snapshot.newSnapshotType ≠ .zsl) (hs : s.snapshotType = .zsl) :
    Succeeds (asserted c.snapshot.newSnapshotType (c.stopZSL d))
      (fun u => Succeeds (u.setUpCapture param d) (Settled s)) ↔ LeavesZsl d c param := by
  have hlasting : (snapshotDeleted d (zslStopped d c.zslInterrupted)).lasting = c.lasting :=
    lasting_snapshotDeleted.trans (lasting_zslStopped (c := c.zslInterrupted))
  have hend : ∀ port, Succeeds
      (((((snapshotDeleted d (zslStopped d c.zslInterrupted)).zslErased port).resumed
        d.ports).withSnapshotType c.snapshot.newSnapshotType).setUpCapture param d) (Settled s) ↔
      c.snapshot.staticMeta.validateResolution param.format param.width param.height ∧
        CanCreate d (((((snapshotDeleted d (zslStopped d c.zslInterrupted)).zslErased port).resumed
          d.ports).withSnapshotType c.snapshot.newSnapshotType).remember param)
            (getSnapshotStreamParams param) false := by
    intro port
    obtain ⟨hsame, hids⟩ := zslErased_same (snapshotDeleted d (zslStopped d c.zslInterrupted)) port
    obtain ⟨hmeta, htype⟩ := Prod.mk.inj (hsame.trans hlasting)
    have hmeta' : ((((snapshotDeleted d (zslStopped d c.zslInterrupted)).zslErased port).resumed
        d.ports).withSnapshotType c.snapshot.newSnapshotType).snapshot.staticMeta =
          c.snapshot.staticMeta := hmeta
    rw [succeeds_setUpCapture_fresh (c := ((((snapshotDeleted d
      (zslStopped d c.zslInterrupted)).zslErased port).resumed d.ports).withSnapshotType
        c.snapshot.newSnapshotType)) hids hnew (fun h => hnew (htype.symm.trans h)) hs, hmeta']
  rw [succeeds_asserted, succeeds_stopZSL (P := fun u =>
    Succeeds ((u.withSnapshotType c.snapshot.newSnapshotType).setUpCapture param d) (Settled s)),
    succeeds_removeZslPort (by simp [snapshotType_snapshotDeleted])]
  constructor
  · rintro ⟨hport, hflush, hpause, hstops, hdeletes, port, hget, ⟨hdeleted, hready⟩, hresumes, hsetUp⟩
    obtain ⟨hvalid, hcreates⟩ := (hend port).mp hsetUp
    exact ⟨hport, hflush, hpause, hvalid, hstops, port, hdeletes, hget, hready, hdeleted, hresumes,
      hcreates⟩
  · rintro ⟨hport, hflush, hpause, hvalid, hstops, port, hdeletes, hget, hready, hdeleted, hresumes,
      hcreates⟩
    exact ⟨hport, hflush, hpause, hstops, hdeletes, port, hget, ⟨hdeleted, hready⟩, hresumes,
      (hend port).mpr ⟨hvalid, hcreates⟩⟩

/-- The configuration does not turn ZSL on or off. -/
def Continues (d : Answers) (c : Context) (config : ImageConfigParam) (param : SnapshotParam) : Prop :=
  if c.snapshot.snapshotType = .zsl then
    c.hasZslPort ∧ (validateCaptureParams c.zslPort param = .noError ∨
      c.RepeatsTags config ∧ c.RepeatsType config)
  else SetsUp d c config param

theorem succeeds_continue : Succeeds ((c.configured config).setUpCapture param d) (Settled c.setting) ↔
    Continues d c config param := by
  unfold Continues
  split
  next htype =>
    have hsame : (c.configured config).hasZslPort = c.hasZslPort ∧
        (c.configured config).zslPort = c.zslPort := by
      unfold configured
      split <;> exact ⟨rfl, rfl⟩
    obtain ⟨htype', -⟩ := configured_same c config
    by_cases hport : c.hasZslPort
    · rw [setUpCapture_zsl (htype'.trans htype) (hsame.1.trans hport), succeeds_ok, Settled, hsame.2,
        setting_configured, and_iff_right hport]
    · unfold setUpCapture
      rw [if_neg (not_not.mpr (htype'.trans htype)), if_pos (by rwa [hsame.1])]
      simp [hport]
  next htype => exact succeeds_setUpCapture htype

/-- The configuration succeeds, or it is refused before it changes anything. -/
def Settles (d : Answers) (c : Context) (config : ImageConfigParam) (param : SnapshotParam) : Prop :=
  validateCaptureConfig config = .noError →
    match config.snapshotType with
    | none => Continues d c config param
    | some t =>
      if c.rawRefused t then c.RepeatsTags config
      else if c.snapshot.snapshotType ≠ .zsl ∧ t.type = .zsl then
        EntersZsl d (c.configured config) t param
      else if c.snapshot.snapshotType = .zsl ∧ t.type ≠ .zsl then
        LeavesZsl d (c.configured config) param
      else Continues d c config param

theorem succeeds_configure {image : ImageParam} : Succeeds (c.configure image config d)
    (Settled c.setting) ↔ Settles d c config image.toSnapshotParam := by
  unfold configure configImageCapture Settles
  by_cases hconfig : validateCaptureConfig config = .noError
  · rw [if_neg (not_not.mpr hconfig), forall_prop_of_true hconfig]
    cases htype : config.snapshotType with
    | none =>
      rw [← succeeds_continue, configured, htype]
      simp [succeeds_bind]
    | some t =>
      dsimp only
      have hconfigured : (c.withTags config).withType t = c.configured config := by
        rw [configured, htype]
      have hrefused : (c.withTags config).rawRefused t = c.rawRefused t := rfl
      rw [hconfigured, hrefused, succeeds_bind]
      split
      next hraw =>
        rw [succeeds_ok, ← setting_withTags]
        simp [Settled]
      next hraw =>
        rw [succeeds_bind]
        have hend : ∀ u : Context, Succeeds (pure (.noError, u) : Except Abort (Status × Context))
            (fun r => Succeeds (if r.1 ≠ .noError then (.ok r : Except Abort (Status × Context))
              else r.2.setUpCapture image.toSnapshotParam d) (Settled c.setting)) ↔
            Succeeds (u.setUpCapture image.toSnapshotParam d) (Settled c.setting) :=
          fun u => by simp [pure, Except.pure]
        refine (succeeds_congr hend).trans ?_
        obtain ⟨hsame, -⟩ := configured_same c config
        have hnew : (c.configured config).snapshot.newSnapshotType = t.type := by
          rw [← hconfigured]
          rfl
        unfold switchZsl
        rw [hsame]
        split
        next henter =>
          rw [henter.2]
          exact succeeds_enter (by rw [hsame]; exact henter.1) henter.1
        split
        next hleave =>
          rw [← hnew]
          exact succeeds_leave (by rw [hnew]; exact hleave.2) hleave.1
        next hstay =>
          rw [succeeds_ok]
          exact succeeds_continue
  · rw [if_pos hconfig, succeeds_bind, succeeds_ok, forall_prop_of_false hconfig]
    simp [Settled]

end Context

/-- The settings of all cameras. -/
def CameraSource.settings (src : CameraSource) (cameraId : UInt32) : Option Setting :=
  (src.cameraMap[cameraId]?).map Context.setting

/-- The call succeeds, or returns an error that leaves every camera as it was set up. -/
def CameraSource.Configures (src : CameraSource) (cameraId : UInt32) (param : ImageParam)
    (config : ImageConfigParam) (d : Answers) : Prop :=
  Succeeds (src.configImageCapture cameraId param config d) fun r =>
    r.1 = .noError ∨ r.2.settings = src.settings

theorem CameraSource.configImageCapture_iff (src : CameraSource) (cameraId : UInt32)
    (param : ImageParam) (config : ImageConfigParam) (d : Answers) :
    src.Configures cameraId param config d ↔ ∀ c, src.cameraMap[cameraId]? = some c →
      c.Settles d config param.toSnapshotParam := by
  unfold Configures configImageCapture
  cases hcamera : src.cameraMap[cameraId]? with
  | none => simp
  | some c =>
    simp only [Option.some.injEq, forall_eq']
    rw [← Context.succeeds_configure, succeeds_bind]
    refine succeeds_congr fun r => ?_
    rw [succeeds_ok]
    refine or_congr_right ⟨fun h => ?_, fun h => funext fun id => ?_⟩
    · have hset := congrFun h cameraId
      simp only [settings, hcamera, Std.ExtTreeMap.getElem?_insert_self, Option.map_some] at hset
      exact Option.some.inj hset
    · simp only [settings, Std.ExtTreeMap.getElem?_insert, Std.LawfulEqCmp.compare_eq_iff_eq]
      split
      next heq => rw [← heq, hcamera, Option.map_some, Option.map_some, h]
      next => rfl

/-- A camera that takes every size and format. -/
def anySize : StaticMeta where
  rawSize _ _ := true
  processedSize _ _ := true
  jpegSize _ _ := true
  streamFormat _ := true
  maxSupportedCameraRes _ := (4000, 3000)

def oneCamera (inputSupported : Bool) : CameraSource where
  cameraMap := (∅ : IdMap Context).insert 0
    { snapshot := { streams := {}, staticMeta := anySize }, inputSupported := inputSupported }

def fullHd : ImageParam := { width := 1920, height := 1080 }

def zslConfig : ImageConfigParam := { snapshotType := some { type := .zsl, zslImageParam := fullHd } }

/-- ZSL is asked for on a camera without input streams: the error is an assertion's. -/
theorem zsl_without_input_streams : ¬ (oneCamera false).Configures 0 fullHd zslConfig {} := by
  rintro ⟨r, h, -⟩
  have habort : (oneCamera false).configImageCapture 0 fullHd zslConfig {} = .error .assertion := rfl
  simp [habort] at h

example : ((oneCamera true).configImageCapture 0 fullHd zslConfig {}).toOption.map Prod.fst =
    some .noError := by decide

end QmmfSdk.Streams.ImageCapture
