import QmmfSdk.Streams.SnapshotRuns

/-! A burst of captures: each request is for the snapshot streams and for those of the video, and the
snapshot request is as before in the end. -/
namespace QmmfSdk.Streams

open Library
open Recorder (Status Abort SnapshotMode)

variable {streams streams' : CameraContext} {c c' : SnapshotContext} {l l' : SnapshotContext.CaptureLoop}
  {numImages n k : Nat} {metadata : List RequestMetadata} {st : Status}

/-- The streams of the video, also when they are paused. -/
def CameraContext.videoIds (streams : CameraContext) : List Int :=
  if streams.portPaused then streams.stoppedStreamIds.toList
  else streams.streamingActiveRequests.flatMap Camera3Request.streamIds

/-- At most one request is streaming; while the ports are paused its streams are remembered. -/
structure CameraContext.SingleRequest (streams : CameraContext) : Prop where
  single : streams.streamingActiveRequests.length ≤ 1
  moved : streams.portPaused = true → ∀ r ∈ streams.streamingActiveRequests, r.streamIds = []
  none : streams.portPaused = true → streams.streamingActiveRequests = [] →
    streams.stoppedStreamIds.toList = []

theorem activeStreams_single (h : streams.SingleRequest) : ∃ streams',
    SnapshotContext.activeStreams streams = .ok (streams.videoIds, streams') ∧
      streams'.SingleRequest ∧ streams'.videoIds = streams.videoIds ∧
      streams'.snapshotType = streams.snapshotType := by
  obtain ⟨hsingle, hmoved, hnone⟩ := h
  unfold SnapshotContext.activeStreams CameraContext.videoIds
  match hreq : streams.streamingActiveRequests with
  | [] =>
    refine ⟨streams, ?_, ⟨hsingle, hmoved, hnone⟩, ?_, rfl⟩
    · cases hp : streams.portPaused with
      | false => rfl
      | true => simp [hnone hp hreq]
    · rw [hreq]
  | [r] =>
    cases hp : streams.portPaused with
    | false =>
      refine ⟨streams, ?_, ⟨hsingle, hmoved, hnone⟩, ?_, rfl⟩
      · simp
      · rw [hp, hreq]
    | true =>
      have hempty : r.streamIds = [] := hmoved hp r (by simp [hreq])
      simp only [hempty, if_true]
      refine ⟨_, rfl, ⟨Nat.le_refl 1, nofun, nofun⟩, ?_, rfl⟩
      simp
  | _ :: _ :: _ =>
    rw [hreq] at hsingle
    simp at hsingle

namespace SnapshotContext

/-- The snapshot is taken along with the streams of the video. -/
def withVideo : SnapshotMode → Bool
  | .video | .videoPlusRaw | .continuous => true
  | _ => false

/-- The loop of `CaptureImage`, whose list goes to `SubmitRequestList`. -/
def burst (c : SnapshotContext) (numImages : Nat) (metadata : List RequestMetadata) :
    Except Abort CaptureLoop :=
  (List.replicate (if c.snapshotType = .continuous then 1 else numImages) ()).foldlM
    (fun l _ => nextImage l)
    { ctx := { c with continuousModeIsOn := c.snapshotType = .continuous }, metadata := metadata }

/-- What follows the loop. -/
def afterBurst (c : SnapshotContext) (l : CaptureLoop) (d : CaptureAnswers) :
    Except Abort (Status × SnapshotContext) := do
  let c' ← l.ctx.submitCapture d.submitted
  return (.noError, ← c'.resumeActiveStreams (c.snapshotType = .continuous) d)

theorem captureImage_eq (hids : c.streamIds ≠ []) (hoff : c.continuousModeIsOn = false)
    (d : CaptureAnswers) : c.captureImage numImages metadata d =
      (do let l ← c.burst numImages metadata; c.afterBurst l d) := by
  have hsome : ¬ c.streamIds.isEmpty = true := by simpa using hids
  unfold captureImage
  rw [if_neg hsome, hoff]
  rfl

/-- The loop after `n` images. -/
structure Bursting (c : SnapshotContext) (n : Nat) (l : CaptureLoop) : Prop where
  type : l.ctx.snapshotType = c.snapshotType
  ids : l.ctx.streamIds = c.streamIds
  single : l.ctx.streams.SingleRequest
  video : l.ctx.streams.videoIds = c.streams.videoIds
  count : l.requests.length = n
  each : ∀ r ∈ l.requests, r.streamIds = c.streamIds ++ c.streams.videoIds

theorem bursting_start (hs : c.streams.SingleRequest) : Bursting c 0
    { ctx := { c with continuousModeIsOn := c.snapshotType = .continuous }, metadata := metadata } :=
  ⟨rfl, rfl, hs, rfl, rfl, nofun⟩

/-- The streams of the video are added for one image and taken away again. -/
theorem Bursting.next (h : Bursting c n l) (hmode : withVideo c.snapshotType) :
    ∃ l', nextImage l = .ok l' ∧ Bursting c (n + 1) l' := by
  obtain ⟨streams, hactive, hsingle, hvideo, htype⟩ := activeStreams_single h.single
  have himage : l.ctx.imageStreams = .ok (l.ctx.streams.videoIds, streams) := by
    unfold imageStreams
    rw [if_pos, hactive]
    rw [h.type]
    revert hmode
    cases c.snapshotType <;> decide
  unfold nextImage
  rw [himage]
  refine ⟨_, rfl, htype.trans h.type, ?_, hsingle, hvideo.trans h.video, ?_, ?_⟩
  · simpa [streamIds] using h.ids
  · simp [h.count]
  · intro r hr
    simp only [List.mem_append, List.mem_singleton] at hr
    obtain hr | rfl := hr
    · exact h.each r hr
    · show l.ctx.streamIds ++ l.ctx.streams.videoIds = _
      rw [h.ids, h.video]

theorem Bursting.run (h : Bursting c k l) (hmode : withVideo c.snapshotType) (n : Nat) :
    ∃ l', (List.replicate n ()).foldlM (fun l _ => nextImage l) l = .ok l' ∧
      Bursting c (k + n) l' := by
  induction n generalizing l k with
  | zero => exact ⟨l, rfl, h⟩
  | succ n ih =>
    obtain ⟨l₁, hnext, h₁⟩ := h.next hmode
    obtain ⟨l', hrest, h'⟩ := ih h₁
    refine ⟨l', ?_, ?_⟩
    · rw [List.replicate_succ, List.foldlM_cons, hnext]
      exact hrest
    · rwa [Nat.add_assoc, Nat.add_comm 1 n] at h'

/-- A capture that takes the streams of the video along. -/
structure BurstReady (c : SnapshotContext) : Prop where
  mode : withVideo c.snapshotType
  off : c.continuousModeIsOn = false
  ids : c.streamIds ≠ []
  single : c.streams.SingleRequest

/-- The list that is submitted has one request for each image; each is for the snapshot streams and
then for those of the video, and the snapshot request has its streams of before. -/
theorem captureImage_burst (h : c.BurstReady) (numImages : Nat) (metadata : List RequestMetadata) :
    ∃ l, c.burst numImages metadata = .ok l ∧
      (∀ d, c.captureImage numImages metadata d = c.afterBurst l d) ∧
      l.requests.length = (if c.snapshotType = .continuous then 1 else numImages) ∧
      (∀ r ∈ l.requests, r.streamIds = c.streamIds ++ c.streams.videoIds ∧
        ((c.streamIds ++ c.streams.videoIds).Nodup → r.streamIds.Nodup)) ∧
      l.ctx.streamIds = c.streamIds ∧
      ∀ d st c', c.captureImage numImages metadata d = .ok (st, c') → c'.streamIds = c.streamIds := by
  obtain ⟨l, hl, hburst⟩ := (@bursting_start c metadata h.single).run h.mode
    (if c.snapshotType = .continuous then 1 else numImages)
  rw [Nat.zero_add] at hburst
  refine ⟨l, hl, fun d => ?_, hburst.count, fun r hr => ⟨hburst.each r hr, fun hnodup => ?_⟩, hburst.ids,
    fun d st c' hcall => (sameSnapshot_captureImage hcall).ids⟩
  · rw [captureImage_eq h.ids h.off, burst, hl]
    rfl
  · rw [hburst.each r hr]
    exact hnodup

/-- A video of the streams 3 and 4 that is paused. -/
def pausedVideo : SnapshotContext where
  streams := { streamingActiveRequests := [{}], portPaused := true, stoppedStreamIds := {3, 4} }
  staticMeta := smallMeta
  snapshotRequest := { streamIds := [7] }

theorem pausedVideo_ready : pausedVideo.BurstReady where
  mode := rfl
  off := rfl
  ids := List.cons_ne_nil _ _
  single :=
    { single := Nat.le_refl 1
      moved := fun _ r hr => by
        obtain rfl : r = {} := List.mem_singleton.mp hr
        rfl
      none := fun _ h => absurd h (List.cons_ne_nil _ _) }

theorem captureImage_burst_paused : ∃ l, pausedVideo.burst 2 [] = .ok l ∧ l.requests.length = 2 ∧
    (∀ r ∈ l.requests, r.streamIds = [7, 3, 4]) ∧ l.ctx.streamIds = [7] := by
  have hvideo : pausedVideo.streamIds ++ pausedVideo.streams.videoIds = [7, 3, 4] := by
    decide
  obtain ⟨l, hl, -, hcount, heach, hids, -⟩ := captureImage_burst pausedVideo_ready 2 []
  exact ⟨l, hl, hcount, fun r hr => (heach r hr).1.trans hvideo, hids⟩

end SnapshotContext

end QmmfSdk.Streams
