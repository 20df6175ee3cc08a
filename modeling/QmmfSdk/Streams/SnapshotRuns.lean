import QmmfSdk.Streams.Runs
import QmmfSdk.Streams.Snapshot

/-! Snapshot calls in any order, beside the calls for streams: when the remembered configuration is
that of the streams which were made. -/
namespace QmmfSdk.Streams

open Library (LTS bind_eq_ok_iff foldlM_inv)
open Recorder (Status Abort SnapshotMode BufferFormat)

namespace CameraContext

variable {ctx ctx' u : CameraContext} {trackId : UInt32} {submitted : Submitted} {flushed : Bool}
  {st : Status} {a : Action}

/-- What the snapshots need of the streams: their type stays, and new streams get new ids. -/
def SameDevice (ctx ctx' : CameraContext) : Prop :=
  ctx'.snapshotType = ctx.snapshotType ∧ ctx.nextStreamId ≤ ctx'.nextStreamId

theorem SameDevice.refl : SameDevice ctx ctx := ⟨rfl, Int.le_refl _⟩

theorem SameDevice.trans (h : SameDevice ctx ctx') (h' : SameDevice ctx' u) : SameDevice ctx u :=
  ⟨h'.1.trans h.1, h.2.trans h'.2⟩

theorem SameStreams.sameDevice (h : SameStreams ctx ctx') : SameDevice ctx ctx' := by
  rw [h]
  exact .refl

theorem sameDevice_startStream (h : ctx.startStream trackId submitted flushed = .ok (st, ctx')) :
    SameDevice ctx ctx' := by
  obtain rfl | ⟨port, -, -, u, hu, rfl⟩ := startStream_ok h
  · exact .refl
  · exact (updateRequest_same hu).2.sameDevice

theorem sameDevice_createStream {param : StreamParam} {d : Creation}
    (h : ctx.createStream param d = .ok (st, ctx')) : SameDevice ctx ctx' := by
  obtain ⟨-, -, rfl⟩ | ⟨batch, -, ⟨-, -, rfl⟩ | ⟨-, -, requests, -, -, rfl⟩⟩ := createStream_ok h
  · exact .refl
  · exact .refl
  · exact ⟨rfl, Int.le_add_one (Int.le_refl _)⟩

theorem sameDevice_deleteStream {deleted : Bool}
    (h : ctx.deleteStream trackId deleted = .ok (st, ctx')) : SameDevice ctx ctx' := by
  obtain rfl | ⟨port, -, -, rfl⟩ := deleteStream_ok h
  · exact .refl
  · unfold restoreBatchStreamId
    split <;> exact .refl

theorem sameDevice_pauseActiveStreams (h : ctx.pauseActiveStreams flushed = .ok (st, ctx')) :
    SameDevice ctx ctx' := by
  obtain rfl | ⟨-, -, rfl⟩ := pauseActiveStreams_ok h
  · exact .refl
  · exact .refl

theorem sameDevice_call (h : StreamRun.call ctx a = .ok (st, ctx')) : SameDevice ctx ctx' := by
  cases a with
  | createStream param d => exact sameDevice_createStream h
  | deleteStream trackId deleted => exact sameDevice_deleteStream h
  | setConsumers trackId consumers =>
    obtain ⟨-, rfl⟩ := Prod.mk.inj (Except.ok.inj h)
    exact .refl
  | startStream trackId submitted flushed => exact sameDevice_startStream h
  | stopStream trackId submitted flushed =>
    obtain rfl | ⟨port, -, -, u, hu, rfl⟩ := stopStream_ok h
    · exact .refl
    · exact (updateRequest_same hu).2.sameDevice
  | pauseStream trackId =>
    obtain rfl | ⟨port, -, -, rfl⟩ := pauseStream_ok h
    · exact .refl
    · exact .refl
  | resumeStream trackId =>
    obtain rfl | ⟨port, -, -, rfl⟩ := resumeStream_ok h
    · exact .refl
    · exact .refl
  | setCameraParam metadata submitted =>
    obtain rfl | ⟨_, _, -, rfl⟩ := setCameraParam_ok h
    · exact .refl
    · exact .refl
  | pauseActiveStreams flushed => exact sameDevice_pauseActiveStreams h
  | resumeActiveStreams | resumeNext _ _ =>
    obtain ⟨-, rfl⟩ := Prod.mk.inj (Except.ok.inj h)
    exact .refl

theorem sameDevice_resumeNext {stateOnly : Bool} {sub : UInt32 → Submitted} {flush : UInt32 → Bool}
    (h : ctx.resumeNext stateOnly sub flush trackId = .ok ctx') : SameDevice ctx ctx' := by
  cases stateOnly with
  | true =>
    unfold resumeNext at h
    split at h
    · obtain rfl := Except.ok.inj h
      exact .refl
    next port hport =>
      simp only [if_true, resumePort] at h
      split at h
      · obtain rfl := Except.ok.inj h
        exact .refl
      · simp at h
  | false =>
    rw [resumeNext_eq_startStream] at h
    cases hstart : ctx.startStream trackId (sub trackId) (flush trackId) with
    | error e => simp [hstart, Except.map] at h
    | ok r =>
      rw [hstart] at h
      obtain rfl := Except.ok.inj h
      exact sameDevice_startStream hstart

theorem sameDevice_resumeActiveStreams {stateOnly : Bool} {sub : UInt32 → Submitted}
    {flush : UInt32 → Bool} (h : ctx.resumeActiveStreams stateOnly sub flush = .ok (st, ctx')) :
    SameDevice ctx ctx' := by
  unfold resumeActiveStreams at h
  split at h
  · obtain ⟨-, rfl⟩ := Prod.mk.inj (Except.ok.inj h)
    exact .refl
  · obtain ⟨u, hu, h⟩ := bind_eq_ok_iff.mp h
    obtain ⟨-, rfl⟩ := Prod.mk.inj (Except.ok.inj h)
    have hloop : SameDevice ctx u := foldlM_inv (I := fun v => SameDevice ctx v) .refl
      (fun v id w _ hv hw => hv.trans (sameDevice_resumeNext hw)) hu
    exact hloop

end CameraContext

namespace SnapshotContext

open CameraContext

variable {c c' : SnapshotContext} {param : SnapshotParam} {p : CameraStreamParameters}
  {d : Configuration} {answers : CaptureAnswers} {st : Status} {flushed deleted configured created : Bool}
  {id : Int} {rest : List Int} {metadata : List RequestMetadata} {numImages : Nat}

/-- The streams of the request after the main one: a live raw stream, or none. -/
def RawStreams (c : SnapshotContext) (id : Int) (raw : Bool) (rest : List Int) : Prop :=
  if raw then ∃ rawId q, rest = [rawId] ∧ rawId ≠ id ∧ c.liveStreams[rawId]? = some q ∧ q.format.isRaw
  else rest = []

/-- The snapshot request has a live stream for the parameters, and a live raw stream exactly for a
configured type with raw images. -/
def Faithful (c : SnapshotContext) (param : SnapshotParam) : Prop :=
  ∃ id rest q, c.streamIds = id :: rest ∧ c.liveStreams[id]? = some q ∧ q.width = param.width ∧
    q.height = param.height ∧ q.format = fromQmmfToHalFormat param.format ∧
    c.RawStreams id (plusRaw c.newSnapshotType) rest

/-- What is remembered is the configuration of the streams. -/
structure Remembered (c : SnapshotContext) : Prop where
  rawFormat : (fromQmmfToHalFormat c.rawSnapshotFormat).isRaw
  fresh : ∀ id ∈ c.streamIds, id < c.streams.nextStreamId
  streams : (c.streamIds = [] ∧ c.snapshotStreamParam = {}) ∨ ∃ id rest, c.streamIds = id :: rest ∧
    c.liveStreams[id]? = some c.snapshotStreamParam ∧
    c.snapshotStreamParam = getSnapshotStreamParams c.snapshotParam ∧
    c.RawStreams id (plusRaw c.snapshotType) rest

/-- The snapshot's configuration is not touched, and the device makes new streams at most. -/
structure SameSnapshot (c c' : SnapshotContext) : Prop where
  ids : c'.streamIds = c.streamIds
  live : c'.liveStreams = c.liveStreams
  param : c'.snapshotParam = c.snapshotParam
  streamParam : c'.snapshotStreamParam = c.snapshotStreamParam
  raw : c'.rawSnapshotFormat = c.rawSnapshotFormat
  device : SameDevice c.streams c'.streams

theorem SameSnapshot.refl : SameSnapshot c c := ⟨rfl, rfl, rfl, rfl, rfl, .refl⟩

theorem SameSnapshot.trans {c'' : SnapshotContext} (h : SameSnapshot c c')
    (h' : SameSnapshot c' c'') : SameSnapshot c c'' :=
  ⟨h'.ids.trans h.ids, h'.live.trans h.live, h'.param.trans h.param,
    h'.streamParam.trans h.streamParam, h'.raw.trans h.raw, h.device.trans h'.device⟩

theorem rawStreams_congr {raw : Bool} (h : c'.liveStreams = c.liveStreams) :
    c'.RawStreams id raw rest ↔ c.RawStreams id raw rest := by
  rw [RawStreams, RawStreams, h]

theorem Remembered.congr (hs : c.Remembered) (h : SameSnapshot c c') : c'.Remembered := by
  refine ⟨h.raw ▸ hs.rawFormat, fun id hid => ?_, ?_⟩
  · exact (hs.fresh id (h.ids ▸ hid)).trans_le h.device.2
  · have htype : c'.snapshotType = c.snapshotType := h.device.1
    rw [h.ids, h.live, h.param, h.streamParam, htype]
    obtain hnone | ⟨id, rest, hids, hlive, hparam, hrest⟩ := hs.streams
    · exact .inl hnone
    · exact .inr ⟨id, rest, hids, hlive, hparam, (rawStreams_congr h.live).mpr hrest⟩

theorem sameSnapshot_pauseActiveStreams (h : c.pauseActiveStreams flushed = .ok c') :
    SameSnapshot c c' := by
  obtain ⟨⟨st, streams⟩, hu, h⟩ := bind_eq_ok_iff.mp h
  obtain rfl := Except.ok.inj h
  exact ⟨rfl, rfl, rfl, rfl, rfl, sameDevice_pauseActiveStreams hu⟩

theorem sameSnapshot_resumeActiveStreams {stateOnly : Bool}
    (h : c.resumeActiveStreams stateOnly answers = .ok c') : SameSnapshot c c' := by
  obtain ⟨⟨st, streams⟩, hu, h⟩ := bind_eq_ok_iff.mp h
  obtain rfl := Except.ok.inj h
  exact ⟨rfl, rfl, rfl, rfl, rfl, sameDevice_resumeActiveStreams hu⟩

theorem activeStreams_ok {streams streams' : CameraContext} {active : List Int}
    (h : activeStreams streams = .ok (active, streams')) : SameDevice streams streams' := by
  unfold activeStreams at h
  split at h
  · split at h
    · split at h
      · obtain ⟨-, rfl⟩ := Prod.mk.inj (Except.ok.inj h)
        exact .refl
      · simp at h
    · obtain ⟨-, rfl⟩ := Prod.mk.inj (Except.ok.inj h)
      exact .refl
  · obtain ⟨-, rfl⟩ := Prod.mk.inj (Except.ok.inj h)
    exact .refl

/-- The streams that go with an image are taken out of the request again. -/
theorem sameSnapshot_nextImage {l l' : CaptureLoop} (h : nextImage l = .ok l') :
    SameSnapshot l.ctx l'.ctx := by
  obtain ⟨⟨active, streams⟩, hactive, h⟩ := bind_eq_ok_iff.mp h
  obtain rfl := Except.ok.inj h
  refine ⟨?_, rfl, rfl, rfl, rfl, ?_⟩
  · simp [streamIds]
  · unfold imageStreams at hactive
    split at hactive
    · exact activeStreams_ok hactive
    · obtain ⟨-, rfl⟩ := Prod.mk.inj (Except.ok.inj hactive)
      exact .refl

theorem sameSnapshot_captureImage (h : c.captureImage numImages metadata answers = .ok (st, c')) :
    SameSnapshot c c' := by
  unfold captureImage at h
  split at h
  · obtain ⟨-, rfl⟩ := Prod.mk.inj (Except.ok.inj h)
    exact .refl
  split at h
  · obtain ⟨-, rfl⟩ := Prod.mk.inj (Except.ok.inj h)
    exact .refl
  obtain ⟨l, hl, h⟩ := bind_eq_ok_iff.mp h
  obtain ⟨u, hu, h⟩ := bind_eq_ok_iff.mp h
  obtain ⟨v, hv, h⟩ := bind_eq_ok_iff.mp h
  obtain ⟨-, rfl⟩ := Prod.mk.inj (Except.ok.inj h)
  have hloop : SameSnapshot c l.ctx := foldlM_inv (I := fun l => SameSnapshot c l.ctx)
    ⟨rfl, rfl, rfl, rfl, rfl, .refl⟩ (fun l _ l' _ hs hnext => hs.trans (sameSnapshot_nextImage hnext))
    hl
  have hsubmit : SameSnapshot l.ctx u := by
    unfold submitCapture at hu
    split at hu
    · simp at hu
    · obtain rfl := Except.ok.inj hu
      refine ⟨rfl, rfl, rfl, rfl, rfl, ?_⟩
      dsimp only
      split <;> exact .refl
  exact (hloop.trans hsubmit).trans (sameSnapshot_resumeActiveStreams hv)

/-- The context with one more stream for snapshots. -/
def withSnapshotStream (c : SnapshotContext) (p : CameraStreamParameters) : SnapshotContext :=
  { c with
    streams := { c.streams with nextStreamId := c.streams.nextStreamId + 1 }
    liveStreams := c.liveStreams.insert c.streams.nextStreamId p
    snapshotRequest := { c.snapshotRequest with
      streamIds := c.streamIds ++ [c.streams.nextStreamId] } }

theorem addSnapshotStream_ok (h : c.addSnapshotStream p configured created = .ok (st, c')) :
    (created = false ∧ st = .badValue ∧ c' = c) ∨
      (created = true ∧ st = .noError ∧ c' = c.withSnapshotStream p) := by
  unfold addSnapshotStream at h
  split at h
  · simp at h
  split at h
  next hcreated =>
    obtain ⟨rfl, rfl⟩ := Prod.mk.inj (Except.ok.inj h)
    exact .inr ⟨hcreated, rfl, rfl⟩
  next hcreated =>
    obtain ⟨rfl, rfl⟩ := Prod.mk.inj (Except.ok.inj h)
    exact .inl ⟨by simpa using hcreated, rfl, rfl⟩

theorem getElem?_withSnapshotStream : (c.withSnapshotStream p).liveStreams[id]? =
    if c.streams.nextStreamId = id then some p else c.liveStreams[id]? := by
  simp only [withSnapshotStream, Std.ExtTreeMap.getElem?_insert, Std.LawfulEqCmp.compare_eq_iff_eq]

/-- The device has the streams of the request: the main one and what is to come after it. -/
structure HasStreams (c : SnapshotContext) (p : CameraStreamParameters) (raw : Bool) : Prop where
  rawFormat : (fromQmmfToHalFormat c.rawSnapshotFormat).isRaw
  fresh : ∀ id ∈ c.streamIds, id < c.streams.nextStreamId
  streams : ∃ id rest, c.streamIds = id :: rest ∧ c.liveStreams[id]? = some p ∧
    c.RawStreams id raw rest

/-- A main stream on the device. -/
theorem hasStreams_main (hraw : (fromQmmfToHalFormat c.rawSnapshotFormat).isRaw)
    (hnone : c.streamIds = []) : (c.withSnapshotStream p).HasStreams p false := by
  have hids : (c.withSnapshotStream p).streamIds = [c.streams.nextStreamId] := by
    change c.streamIds ++ [c.streams.nextStreamId] = _
    rw [hnone]
    rfl
  refine ⟨hraw, fun id hid => ?_, c.streams.nextStreamId, [], hids, ?_, rfl⟩
  · rw [hids] at hid
    obtain rfl := List.mem_singleton.mp hid
    exact Int.lt_succ _
  · rw [getElem?_withSnapshotStream, if_pos rfl]

/-- A raw stream beside it. -/
theorem HasStreams.raw_stream (hs : c.HasStreams p false) :
    (c.withSnapshotStream (c.rawStreamParam p)).HasStreams p true := by
  obtain ⟨id, rest, hids, hlive, hrest⟩ := hs.streams
  obtain rfl : rest = [] := hrest
  have hold : id < c.streams.nextStreamId := hs.fresh id (by simp [hids])
  have hids' : (c.withSnapshotStream (c.rawStreamParam p)).streamIds = [id, c.streams.nextStreamId] := by
    change c.streamIds ++ [c.streams.nextStreamId] = _
    rw [hids]
    rfl
  refine ⟨hs.rawFormat, fun x hx => ?_, id, [c.streams.nextStreamId], hids', ?_, ?_⟩
  · change x < c.streams.nextStreamId + 1
    rw [hids'] at hx
    obtain rfl | hx := List.mem_cons.mp hx
    · exact hold.trans (Int.lt_succ _)
    · rw [List.mem_singleton.mp hx]
      exact Int.lt_succ _
  · rw [getElem?_withSnapshotStream, if_neg hold.ne', hlive]
  · refine ⟨c.streams.nextStreamId, c.rawStreamParam p, rfl, hold.ne', ?_, hs.rawFormat⟩
    rw [getElem?_withSnapshotStream, if_pos rfl]

/-- What is remembered at the end of a configuration. -/
theorem HasStreams.complete {raw : Bool} (hs : c.HasStreams (getSnapshotStreamParams param) raw)
    (htype : plusRaw c.snapshotType = raw) (hnew : plusRaw c.newSnapshotType = raw) :
    { c with
      snapshotParam := param
      snapshotStreamParam := getSnapshotStreamParams param }.Remembered ∧
    { c with
      snapshotParam := param
      snapshotStreamParam := getSnapshotStreamParams param }.Faithful param := by
  obtain ⟨id, rest, hids, hlive, hrest⟩ := hs.streams
  refine ⟨⟨hs.rawFormat, hs.fresh, .inr ⟨id, rest, hids, hlive, rfl, ?_⟩⟩, id, rest, _, hids, hlive,
    rfl, rfl, rfl, ?_⟩
  · rwa [← htype] at hrest
  · rwa [← hnew] at hrest

/-- What is remembered when the streams are those for the parameters already. -/
theorem HasStreams.remember
    (hs : c.HasStreams (getSnapshotStreamParams param) (plusRaw c.newSnapshotType))
    (hsame : c.snapshotStreamParam = getSnapshotStreamParams param) :
    (c.remember param).Remembered ∧ (c.remember param).Faithful param := by
  obtain ⟨id, rest, hids, hlive, hrest⟩ := hs.streams
  exact ⟨⟨hs.rawFormat, hs.fresh, .inr ⟨id, rest, hids, hsame ▸ hlive, hsame, hrest⟩⟩, id, rest, _,
    hids, hlive, rfl, rfl, rfl, hrest⟩

/-- A configuration that the code remembers rightly. Without a stream any is. Otherwise the resolution
is a supported one; new parameters come without a raw stream, the old one's or a configured one;
and the old parameters without a raw stream, or without a second one. -/
def ConfigurationFree (c : SnapshotContext) (param : SnapshotParam) (d : Configuration) : Prop :=
  c.reconfigureNeeded param →
    if ¬ c.staticMeta.validateResolution param.format param.width param.height then
      c.streamIds = []
    else if c.isStreamParamsChanged (getSnapshotStreamParams param) then
      c.streamIds.length ≤ 1 ∧
        (plusRaw c.newSnapshotType → d.created → c.streamIds = [] ∧ d.rawCreated)
    else if plusRaw c.newSnapshotType then (c.streamIds.length ≤ 1 ↔ d.rawCreated)
    else c.streamIds.length ≤ 1

instance : Decidable (c.ConfigurationFree param d) := by
  unfold ConfigurationFree
  infer_instance

/-- Without a need to reconfigure the streams are those for the parameters. -/
theorem Remembered.of_not_needed (hs : c.Remembered) (h : ¬ c.reconfigureNeeded param) :
    c.HasStreams (getSnapshotStreamParams param) (plusRaw c.newSnapshotType) ∧
      c.snapshotStreamParam = getSnapshotStreamParams param := by
  simp only [reconfigureNeeded, Bool.or_eq_true, List.isEmpty_iff, decide_eq_true_eq, not_or,
    ne_eq, not_not, Bool.not_eq_true] at h
  obtain ⟨⟨⟨⟨⟨hsome, hwidth⟩, hheight⟩, hreconfig⟩, -⟩, hformat⟩ := h
  obtain ⟨hnone, -⟩ | ⟨id, rest, hids, hlive, hparam, hrest⟩ := hs.streams
  · exact absurd hnone hsome
  have hsame : c.snapshotStreamParam = getSnapshotStreamParams param := by
    rw [hparam]
    simp only [getSnapshotStreamParams, hwidth, hheight, hformat]
  have htype : plusRaw c.newSnapshotType = plusRaw c.snapshotType := by
    unfold isNeedReconfigSnapshotStream at hreconfig
    split at hreconfig
    next heq => rw [heq]
    next =>
      obtain ⟨hnew, hold⟩ := Bool.or_eq_false_iff.mp hreconfig
      rw [hnew, hold]
  exact ⟨⟨hs.rawFormat, hs.fresh, id, rest, hids, hsame ▸ hlive, htype ▸ hrest⟩, hsame⟩

/-- Unchanged parameters are those of the main stream. -/
theorem Remembered.of_not_changed (hs : c.Remembered)
    (h : ¬ c.isStreamParamsChanged (getSnapshotStreamParams param)) :
    c.HasStreams (getSnapshotStreamParams param) (plusRaw c.snapshotType) ∧
      c.snapshotStreamParam = getSnapshotStreamParams param := by
  simp only [isStreamParamsChanged, Bool.or_eq_true, decide_eq_true_eq, not_or, ne_eq, not_not] at h
  obtain ⟨⟨⟨⟨hformat, hwidth⟩, hheight⟩, hcount⟩, hflags⟩ := h
  obtain ⟨-, hnone⟩ | ⟨id, rest, hids, hlive, hparam, hrest⟩ := hs.streams
  · rw [hnone] at hcount
    exact absurd (by decide : 0 < maxSnapshotBufferCount) hcount
  have hsame : c.snapshotStreamParam = getSnapshotStreamParams param := by
    have hbuffers : c.snapshotStreamParam.bufferCount = maxSnapshotBufferCount := by
      rw [hparam]
      rfl
    cases hold : c.snapshotStreamParam with
    | mk width height format flags count =>
      rw [hold] at hformat hwidth hheight hflags hbuffers
      dsimp only at hformat hwidth hheight hflags hbuffers
      rw [← hformat, ← hwidth, ← hheight, ← hflags, hbuffers]
      rfl
  exact ⟨⟨hs.rawFormat, hs.fresh, id, rest, hids, hsame ▸ hlive, hrest⟩, hsame⟩

/-- The first half of `CreateSnapshotStream`: the streams stay, the old one is gone and no other came,
or there is one for the parameters. -/
theorem replaceSnapshotStream_ok (hraw : (fromQmmfToHalFormat c.rawSnapshotFormat).isRaw)
    (hshort : c.streamIds.length ≤ 1) (hparam : c.streamIds = [] → c.snapshotStreamParam = {})
    (h : c.replaceSnapshotStream p d = .ok (st, c')) :
    (d.created = false ∧ st = .badValue ∧ c'.streamIds = [] ∧ c'.snapshotStreamParam = {} ∧
      (fromQmmfToHalFormat c'.rawSnapshotFormat).isRaw) ∨
    (d.created = true ∧ st = .noError ∧ c'.HasStreams p false ∧
      c'.newSnapshotType = c.newSnapshotType ∧
      (c'.snapshotType = c.snapshotType ∧ c.streamIds = [] ∨
        c'.snapshotType = .none ∧ c.streamIds ≠ [])) := by
  obtain ⟨u, hu, h⟩ := bind_eq_ok_iff.mp h
  have hsame := sameSnapshot_pauseActiveStreams hu
  have hnew : u.newSnapshotType = c.newSnapshotType := by
    obtain ⟨⟨_, streams⟩, -, hu⟩ := bind_eq_ok_iff.mp hu
    rw [← Except.ok.inj hu]
  split at h
  next hnone =>
    have hempty : c.streamIds = [] := hsame.ids.symm.trans hnone
    obtain ⟨hcreated, hst, rfl⟩ | ⟨hcreated, hst, rfl⟩ := addSnapshotStream_ok h
    · exact .inl ⟨hcreated, hst, hnone, hsame.streamParam.trans (hparam hempty), hsame.raw ▸ hraw⟩
    · exact .inr ⟨hcreated, hst, hasStreams_main (hsame.raw ▸ hraw) hnone, hnew,
        .inl ⟨hsame.device.1, hempty⟩⟩
  next id hone =>
    have hsome : c.streamIds ≠ [] := by
      rw [← hsame.ids, hone]
      simp
    obtain ⟨v, hv, h⟩ := bind_eq_ok_iff.mp h
    unfold deleteSnapshotStream at hv
    split at hv
    · simp at hv
    obtain rfl := Except.ok.inj hv
    obtain ⟨hcreated, hst, rfl⟩ | ⟨hcreated, hst, rfl⟩ := addSnapshotStream_ok h
    · exact .inl ⟨hcreated, hst, rfl, rfl, hsame.raw ▸ hraw⟩
    · exact .inr ⟨hcreated, hst, hasStreams_main (hsame.raw ▸ hraw) rfl, hnew, .inr ⟨rfl, hsome⟩⟩
  next hlong =>
    rw [← hsame.ids, hlong] at hshort
    simp at hshort

/-- The second half: a raw stream for a type with raw images. -/
theorem createSnapshotStream_ok (h : c.createSnapshotStream p d = .ok (st, c')) :
    (∃ ret, ret ≠ .noError ∧ st = ret ∧ c.mainSnapshotStream p d = .ok (ret, c')) ∨
    ∃ u, c.mainSnapshotStream p d = .ok (.noError, u) ∧
      ((plusRaw u.snapshotType = false ∧ st = .noError ∧ c' = u) ∨
        (plusRaw u.snapshotType = true ∧ d.rawCreated = false ∧ st = .badValue ∧ c' = u) ∨
        (plusRaw u.snapshotType = true ∧ d.rawCreated = true ∧ st = .noError ∧
          c' = u.withSnapshotStream (u.rawStreamParam p))) := by
  obtain ⟨⟨ret, u⟩, hu, h⟩ := bind_eq_ok_iff.mp h
  dsimp only at h
  split at h
  next hret =>
    obtain ⟨rfl, rfl⟩ := Prod.mk.inj (Except.ok.inj h)
    exact .inl ⟨ret, hret, rfl, hu⟩
  next hret =>
    rw [ne_eq, not_not] at hret
    subst hret
    refine .inr ⟨u, hu, ?_⟩
    split at h
    next hraw =>
      obtain ⟨hcreated, hst, rfl⟩ | ⟨hcreated, hst, rfl⟩ := addSnapshotStream_ok h
      · exact .inr (.inl ⟨hraw, hcreated, hst, rfl⟩)
      · exact .inr (.inr ⟨hraw, hcreated, hst, rfl⟩)
    next hraw =>
      obtain ⟨rfl, rfl⟩ := Prod.mk.inj (Except.ok.inj h)
      exact .inl ⟨by simpa using hraw, rfl, rfl⟩

theorem setUpCapture_ok (h : c.setUpCapture param d = .ok (st, c')) :
    (¬ c.reconfigureNeeded param ∧ st = .noError ∧ c' = c.remember param) ∨
    (c.reconfigureNeeded param ∧
      ¬ c.staticMeta.validateResolution param.format param.width param.height ∧ st = .badValue ∧
      c' = c.remember param) ∨
    (c.reconfigureNeeded param ∧
      c.staticMeta.validateResolution param.format param.width param.height ∧ ∃ u,
      (c.remember param).createSnapshotStream (getSnapshotStreamParams param) d = .ok (st, u) ∧
      c' = if st = .noError then
        { u with
          snapshotParam := param
          snapshotStreamParam := getSnapshotStreamParams param }
      else u) := by
  unfold setUpCapture at h
  split at h
  next hneeded =>
    obtain ⟨rfl, rfl⟩ := Prod.mk.inj (Except.ok.inj h)
    exact .inl ⟨hneeded, rfl, rfl⟩
  next hneeded =>
  rw [not_not] at hneeded
  split at h
  next hvalid =>
    obtain ⟨rfl, rfl⟩ := Prod.mk.inj (Except.ok.inj h)
    exact .inr (.inl ⟨hneeded, hvalid, rfl, rfl⟩)
  next hvalid =>
  rw [not_not] at hvalid
  obtain ⟨⟨ret, u⟩, hu, h⟩ := bind_eq_ok_iff.mp h
  dsimp only at h
  split at h
  next hret =>
    obtain ⟨rfl, rfl⟩ := Prod.mk.inj (Except.ok.inj h)
    exact .inr (.inr ⟨hneeded, hvalid, u, hu, (if_neg hret).symm⟩)
  next hret =>
    rw [ne_eq, not_not] at hret
    subst hret
    obtain ⟨rfl, rfl⟩ := Prod.mk.inj (Except.ok.inj h)
    exact .inr (.inr ⟨hneeded, hvalid, u, hu, (if_pos rfl).symm⟩)

/-- A configuration with unchanged parameters. -/
theorem Remembered.unchanged (hs : c.Remembered)
    (hchanged : ¬ c.isStreamParamsChanged (getSnapshotStreamParams param))
    (hfree : if plusRaw c.newSnapshotType then (c.streamIds.length ≤ 1 ↔ d.rawCreated)
      else c.streamIds.length ≤ 1) {u : SnapshotContext}
    (h : (c.remember param).createSnapshotStream (getSnapshotStreamParams param) d = .ok (st, u))
    (hc' : c' = if st = .noError then
      { u with
        snapshotParam := param
        snapshotStreamParam := getSnapshotStreamParams param }
      else u) : c'.Remembered ∧ (st = .noError → c'.Faithful param) := by
  obtain ⟨hstreams, hsame⟩ := hs.of_not_changed hchanged
  have hmain : (c.remember param).mainSnapshotStream (getSnapshotStreamParams param) d =
      .ok (.noError, c.remember param) := if_neg hchanged
  have hstreams' : (c.remember param).HasStreams (getSnapshotStreamParams param)
      (plusRaw c.snapshotType) := ⟨hstreams.rawFormat, hstreams.fresh, hstreams.streams⟩
  have hlength : c.streamIds.length ≤ 1 ↔ plusRaw c.snapshotType = false := by
    obtain ⟨id, rest, hids, -, hrest⟩ := hstreams.streams
    unfold RawStreams at hrest
    split at hrest
    next hraw =>
      obtain ⟨rawId, q, rfl, -⟩ := hrest
      simp [hids, hraw]
    next hraw => simp [hids, hrest, hraw]
  obtain ⟨ret, hret, -, heq⟩ | ⟨v, heq, hcases⟩ := createSnapshotStream_ok h
  · rw [hmain] at heq
    exact absurd (Prod.mk.inj (Except.ok.inj heq)).1.symm hret
  · rw [hmain] at heq
    obtain ⟨-, rfl⟩ := Prod.mk.inj (Except.ok.inj heq)
    obtain ⟨hnew, rfl, rfl⟩ | ⟨hnew, hfailed, rfl, rfl⟩ | ⟨hnew, hmade, rfl, rfl⟩ := hcases
    · have hold : plusRaw c.snapshotType = false := by
        have hnone : ¬ plusRaw c.newSnapshotType := by
          rw [Bool.not_eq_true]
          exact hnew
        rw [if_neg hnone] at hfree
        exact hlength.mp hfree
      rw [hold] at hstreams'
      rw [if_pos rfl] at hc'
      obtain ⟨hremembered, hfaithful⟩ := hstreams'.complete hnew hnew
      exact hc' ▸ ⟨hremembered, fun _ => hfaithful⟩
    · have hold : plusRaw c.snapshotType = true := by
        have hsome : plusRaw c.newSnapshotType := hnew
        rw [if_pos hsome, hlength, hfailed] at hfree
        simpa using hfree
      rw [hold] at hstreams
      have hnew' : plusRaw c.newSnapshotType = true := hnew
      rw [← hnew'] at hstreams
      rw [if_neg (by simp)] at hc'
      exact hc' ▸ ⟨(hstreams.remember hsame).1, by simp⟩
    · have hold : plusRaw c.snapshotType = false := by
        have hsome : plusRaw c.newSnapshotType := hnew
        rw [if_pos hsome] at hfree
        exact hlength.mp (hfree.mpr hmade)
      rw [hold] at hstreams'
      rw [if_pos rfl] at hc'
      obtain ⟨hremembered, hfaithful⟩ := hstreams'.raw_stream.complete hnew hnew
      exact hc' ▸ ⟨hremembered, fun _ => hfaithful⟩

/-- A configuration with new parameters. -/
theorem Remembered.changed (hs : c.Remembered)
    (hchanged : c.isStreamParamsChanged (getSnapshotStreamParams param))
    (hshort : c.streamIds.length ≤ 1)
    (hfree : plusRaw c.newSnapshotType → d.created → c.streamIds = [] ∧ d.rawCreated)
    {u : SnapshotContext}
    (h : (c.remember param).createSnapshotStream (getSnapshotStreamParams param) d = .ok (st, u))
    (hc' : c' = if st = .noError then
      { u with
        snapshotParam := param
        snapshotStreamParam := getSnapshotStreamParams param }
      else u) : c'.Remembered ∧ (st = .noError → c'.Faithful param) := by
  have hparam : c.streamIds = [] → c.snapshotStreamParam = {} := by
    intro hnone
    obtain ⟨-, hparam⟩ | ⟨id, rest, hids, -⟩ := hs.streams
    · exact hparam
    · simp [hids] at hnone
  have hmain : (c.remember param).mainSnapshotStream (getSnapshotStreamParams param) d =
      (c.remember param).replaceSnapshotStream (getSnapshotStreamParams param) d := if_pos hchanged
  obtain ⟨ret, hret, rfl, heq⟩ | ⟨v, heq, hcases⟩ := createSnapshotStream_ok h
  · rw [hmain] at heq
    obtain ⟨-, -, hnone, hempty, hraw⟩ | ⟨-, rfl, -⟩ :=
      replaceSnapshotStream_ok (c := c.remember param) hs.rawFormat hshort hparam heq
    · rw [if_neg hret] at hc'
      refine hc' ▸ ⟨⟨hraw, by simp [hnone], .inl ⟨hnone, hempty⟩⟩, fun hok => absurd hok hret⟩
    · exact absurd rfl hret
  · rw [hmain] at heq
    obtain ⟨-, hfail, -⟩ | ⟨hcreated, -, hstreams, hnew, htype⟩ :=
      replaceSnapshotStream_ok (c := c.remember param) hs.rawFormat hshort hparam heq
    · simp at hfail
    have hnew' : v.newSnapshotType = c.newSnapshotType := hnew
    have hkept : plusRaw v.snapshotType = true → v.snapshotType = c.newSnapshotType := by
      intro hraw
      obtain ⟨hsame, -⟩ | ⟨hgone, -⟩ := htype
      · exact hsame
      · simp [hgone, plusRaw] at hraw
    have hnone : plusRaw v.snapshotType = false → plusRaw v.newSnapshotType = false := by
      intro hraw
      rw [hnew', ← Bool.not_eq_true]
      intro hsome
      obtain ⟨hsame, -⟩ | ⟨-, hne⟩ := htype
      · have hsame' : v.snapshotType = c.newSnapshotType := hsame
        simp [hsame', hsome] at hraw
      · exact hne (hfree hsome hcreated).1
    obtain ⟨hraw, rfl, rfl⟩ | ⟨hraw, hfailed, rfl, rfl⟩ | ⟨hraw, hmade, rfl, rfl⟩ := hcases
    · rw [if_pos rfl] at hc'
      obtain ⟨hremembered, hfaithful⟩ := hstreams.complete hraw (hnone hraw)
      exact hc' ▸ ⟨hremembered, fun _ => hfaithful⟩
    · have hmade := (hfree (hkept hraw ▸ hraw) hcreated).2
      simp [hfailed] at hmade
    · rw [if_pos rfl] at hc'
      have hsome : plusRaw v.newSnapshotType = true := by
        rw [hnew', ← hkept hraw]
        exact hraw
      obtain ⟨hremembered, hfaithful⟩ := hstreams.raw_stream.complete hraw hsome
      exact hc' ▸ ⟨hremembered, fun _ => hfaithful⟩

theorem Remembered.setUpCapture (hs : c.Remembered) (hfree : c.ConfigurationFree param d)
    (h : c.setUpCapture param d = .ok (st, c')) :
    c'.Remembered ∧ (st = .noError → c'.Faithful param) := by
  obtain ⟨hneeded, -, rfl⟩ | ⟨hneeded, hinvalid, rfl, rfl⟩ | ⟨hneeded, hvalid, u, hu, hc'⟩ :=
    setUpCapture_ok h
  · obtain ⟨hstreams, hsame⟩ := hs.of_not_needed hneeded
    obtain ⟨hremembered, hfaithful⟩ := hstreams.remember hsame
    exact ⟨hremembered, fun _ => hfaithful⟩
  · have hnone := hfree hneeded
    rw [if_pos hinvalid] at hnone
    refine ⟨⟨hs.rawFormat, hs.fresh, .inl ⟨hnone, ?_⟩⟩, by simp⟩
    obtain ⟨-, hempty⟩ | ⟨id, rest, hids, -⟩ := hs.streams
    · exact hempty
    · simp [hids] at hnone
  · have hcond := hfree hneeded
    rw [if_neg (not_not.mpr hvalid)] at hcond
    split at hcond
    next hchanged => exact hs.changed hchanged hcond.1 hcond.2 hu hc'
    next hchanged => exact hs.unchanged hchanged hcond hu hc'

theorem Remembered.configImageCapture {config : ImageConfigParam} (hs : c.Remembered) :
    (c.configImageCapture config).2.Remembered := by
  unfold SnapshotContext.configImageCapture
  split
  · exact hs
  dsimp only
  split
  · exact hs.congr ⟨rfl, rfl, rfl, rfl, rfl, .refl⟩
  split
  · split
    · exact hs.congr ⟨rfl, rfl, rfl, rfl, rfl, .refl⟩
    next hraw =>
      simp only [not_or, not_not] at hraw
      exact ⟨hraw.1, hs.fresh, hs.streams⟩
  · exact hs.congr ⟨rfl, rfl, rfl, rfl, rfl, .refl⟩

/-- A cancelled capture leaves no stream. -/
theorem Remembered.cancelCaptureImage (hs : c.Remembered)
    (h : c.cancelCaptureImage d answers = .ok (st, c')) : c'.Remembered := by
  unfold SnapshotContext.cancelCaptureImage at h
  split at h
  · obtain ⟨-, rfl⟩ := Prod.mk.inj (Except.ok.inj h)
    exact hs
  obtain ⟨u, hu, h⟩ := bind_eq_ok_iff.mp h
  obtain ⟨v, hv, h⟩ := bind_eq_ok_iff.mp h
  obtain ⟨w, hw, h⟩ := bind_eq_ok_iff.mp h
  obtain ⟨-, rfl⟩ := Prod.mk.inj (Except.ok.inj h)
  have hpaused : u.Remembered :=
    Remembered.congr (c := { c with continuousModeIsOn := false })
      (hs.congr ⟨rfl, rfl, rfl, rfl, rfl, .refl⟩) (sameSnapshot_pauseActiveStreams hu)
  have hdeleted : v.Remembered := by
    unfold deleteSnapshotStream at hv
    split at hv
    · simp at hv
    · obtain rfl := Except.ok.inj hv
      exact ⟨hpaused.rawFormat, by simp [streamIds], .inl ⟨rfl, rfl⟩⟩
  exact hdeleted.congr (sameSnapshot_resumeActiveStreams hw)

end SnapshotContext

/-- The calls for snapshots, and those for streams. -/
inductive SnapshotAction where
  | configImageCapture (config : ImageConfigParam)
  | setUpCapture (param : SnapshotParam) (d : Configuration)
  | captureImage (numImages : Nat) (metadata : List RequestMetadata)
      (answers : SnapshotContext.CaptureAnswers)
  | cancelCaptureImage (d : Configuration) (answers : SnapshotContext.CaptureAnswers)
  | stream (a : Action)

namespace SnapshotContext

variable {c c' : SnapshotContext} {param : SnapshotParam} {d : Configuration} {st : Status}
  {a : SnapshotAction} {as : List SnapshotAction} {config : CameraConfig} {staticMeta : StaticMeta}

/-- No ZSL is configured, and the calls for streams run to their end. -/
def Allowed (_ : SnapshotContext) : SnapshotAction → Prop
  | .configImageCapture config => ∀ t ∈ config.snapshotType, t.type ≠ .zsl
  | .stream a => a.isCall
  | _ => True

instance : Decidable (c.Allowed a) := by
  cases a <;> unfold Allowed <;> infer_instance

def call (c : SnapshotContext) : SnapshotAction → Except Abort (Status × SnapshotContext)
  | .configImageCapture config => .ok (c.configImageCapture config)
  | .setUpCapture param d => c.setUpCapture param d
  | .captureImage numImages metadata answers => c.captureImage numImages metadata answers
  | .cancelCaptureImage d answers => c.cancelCaptureImage d answers
  | .stream a => do
    let (st, streams) ← StreamRun.call c.streams a
    .ok (st, { c with streams := streams })

/-- `none` is a call that is not allowed, or that fails an assertion. -/
def step (c : SnapshotContext) (a : SnapshotAction) : Option SnapshotContext :=
  if c.Allowed a then
    match c.call a with
    | .ok (_, c') => some c'
    | .error _ => none
  else none

def lts : LTS SnapshotContext SnapshotAction := .ofStep step

/-- An opened camera. -/
def init (config : CameraConfig) (staticMeta : StaticMeta) : SnapshotContext :=
  { streams := { config := config }, staticMeta := staticMeta }

/-- The configurations of a run are remembered rightly. -/
def CaptureFree (c : SnapshotContext) : SnapshotAction → Prop
  | .setUpCapture param d => c.ConfigurationFree param d
  | _ => True

instance (c : SnapshotContext) (a : SnapshotAction) : Decidable (c.CaptureFree a) := by
  cases a <;> unfold CaptureFree <;> infer_instance

theorem remembered_init : (init config staticMeta).Remembered :=
  ⟨rfl, by simp [init, streamIds], .inl ⟨rfl, rfl⟩⟩

theorem remembered_step (hs : c.Remembered) (hfree : c.CaptureFree a) (h : c.step a = some c') :
    c'.Remembered := by
  unfold step at h
  split at h
  · split at h
    next st u hcall =>
      obtain rfl := Option.some.inj h
      cases a with
      | configImageCapture config =>
        have heq : (c.configImageCapture config).2 = u := congrArg Prod.snd (Except.ok.inj hcall)
        exact heq ▸ hs.configImageCapture
      | setUpCapture param d => exact (hs.setUpCapture hfree hcall).1
      | captureImage numImages metadata answers =>
        exact hs.congr (sameSnapshot_captureImage hcall)
      | cancelCaptureImage d answers => exact hs.cancelCaptureImage hcall
      | stream a =>
        obtain ⟨⟨ret, streams⟩, hstream, hcall⟩ := bind_eq_ok_iff.mp hcall
        obtain ⟨-, rfl⟩ := Prod.mk.inj (Except.ok.inj hcall)
        exact hs.congr ⟨rfl, rfl, rfl, rfl, rfl, CameraContext.sameDevice_call hstream⟩
    next => simp at h
  · simp at h

theorem remembered_run (h : (lts.guarded CaptureFree).MTr (init config staticMeta) as c) :
    c.Remembered :=
  LTS.inv_of_mTr (L := lts.guarded CaptureFree) (P := Remembered)
    (fun _ _ _ hstep hs => remembered_step hs hstep.2 hstep.1) h remembered_init

/-- In a run whose configurations all meet the condition, each one that succeeds leaves a snapshot
request that is faithful to it. -/
theorem faithful_setUpCapture (hrun : (lts.guarded CaptureFree).MTr (init config staticMeta) as c)
    (hfree : c.ConfigurationFree param d) (h : c.setUpCapture param d = .ok (.noError, c')) :
    c'.Faithful param :=
  ((remembered_run hrun).setUpCapture hfree h).2 rfl

/-- A camera that supports up to full high definition. -/
def smallMeta : StaticMeta where
  rawSize width height := width ≤ 1920 && height ≤ 1080
  processedSize width height := width ≤ 1920 && height ≤ 1080
  jpegSize width height := width ≤ 1920 && height ≤ 1080
  streamFormat _ := true
  maxSupportedCameraRes _ := (1920, 1080)

def smallParam : SnapshotParam := { width := 640, height := 480 }

def largeParam : SnapshotParam := { width := 3840, height := 2160 }

/-- A size that the camera does not have is refused, and then accepted without a stream for it. -/
theorem refused_then_accepted :
    let as : List SnapshotAction := [.setUpCapture smallParam {}, .setUpCapture largeParam {}]
    ∃ c c', LTS.run step (init {} smallMeta) as = some c ∧
      c.setUpCapture largeParam {} = .ok (.noError, c') ∧ ¬ c'.Faithful largeParam := by
  intro as
  have hsome : (LTS.run step (init {} smallMeta) as).isSome := by decide
  obtain ⟨c, hc⟩ := Option.isSome_iff_exists.mp hsome
  have hfacts : ∀ u ∈ LTS.run step (init {} smallMeta) as, u.reconfigureNeeded largeParam = false ∧
      (u.remember largeParam).streamIds = [0] ∧
      ((u.remember largeParam).liveStreams[(0 : Int)]?).map CameraStreamParameters.width = some 640 := by
    decide
  obtain ⟨hneeded, hids, hlive⟩ := hfacts c hc
  refine ⟨c, c.remember largeParam, hc, if_pos (by simp [hneeded]), ?_⟩
  rintro ⟨id, rest, q, hids', hlive', hwidth, -⟩
  rw [hids] at hids'
  obtain ⟨rfl, -⟩ := List.cons.inj hids'
  rw [hlive', Option.map_some, hwidth] at hlive
  simp [largeParam] at hlive

/-- A snapshot of another size, after one with raw images that was cancelled. -/
theorem faithful_setUpCapture_run :
    let as : List SnapshotAction :=
      [.configImageCapture { snapshotType := some { type := .stillPlusRaw } },
        .setUpCapture { smallParam with width := 1280 } {}, .cancelCaptureImage {}
          { submitted := { requestId := 0 }, resumed := fun _ => { requestId := 0 },
            flushed := fun _ => true },
        .configImageCapture { snapshotType := some { type := .still } }]
    ∃ c c', LTS.run step (init {} smallMeta) as = some c ∧
      c.setUpCapture smallParam {} = .ok (.noError, c') ∧ c'.Faithful smallParam := by
  intro as
  have hsome : (LTS.run step (init {} smallMeta) as).isSome := by decide
  obtain ⟨c, hc⟩ := Option.isSome_iff_exists.mp hsome
  have hfacts : ∀ u ∈ LTS.run step (init {} smallMeta) as, u.ConfigurationFree smallParam {} ∧
      ((u.setUpCapture smallParam {}).map Prod.fst) = .ok .noError := by decide
  obtain ⟨hfree, hok⟩ := hfacts c hc
  cases hsetup : c.setUpCapture smallParam {} with
  | error e => simp [hsetup, Except.map] at hok
  | ok r =>
    obtain ⟨st, c'⟩ := r
    rw [hsetup] at hok
    obtain rfl : st = .noError := Except.ok.inj hok
    have hrun : (lts.guarded CaptureFree).MTr (init {} smallMeta) as c :=
      LTS.mTr_guarded_iff.mpr ⟨hc, by decide⟩
    exact ⟨c, c', hc, hsetup, faithful_setUpCapture hrun hfree hsetup⟩

end SnapshotContext

end QmmfSdk.Streams
