import QmmfSdk.Pipeline.TrackFlush
import QmmfSdk.Recorder.BackedTracks

/-! `ForceReturnBuffers`: the frames that a dead client had go back to their producers. -/
namespace QmmfSdk.Recorder

open Library (LTS)
open Pipeline (TrackConfig TrackFlow isFlushed)
open Pipeline.TrackFlow (Orderly GaveBack Alone lifeLts live)

/-- A track source with its callers. -/
structure OpenTrack where
  cfg : TrackConfig
  flow : TrackFlow := {}

/-- `track_sources_`, by service track id. -/
abbrev OpenTracks := IdMap OpenTrack

namespace OpenTrack

def flush (x : OpenTrack) : OpenTrack := { x with flow := x.flow.flush x.cfg }

def clearInputQueue (x : OpenTrack) : OpenTrack :=
  { x with flow := x.flow.clearInputQueue x.cfg }

def portIdle (x : OpenTrack) : OpenTrack := { x with flow := x.flow.portIdle x.cfg }

end OpenTrack

namespace OpenTracks

/-- An id that is not valid is logged. -/
def flushTrackSource (ts : OpenTracks) (id : UInt32) : OpenTracks := ts.modify id .flush

def flushTrack (ts : OpenTracks) (id : UInt32) : OpenTracks := ts.modify id .clearInputQueue

end OpenTracks

namespace RecorderImpl

/-- `CameraFlushCb`, as far as it is about track sources. -/
def flushCameraTracks (r : RecorderImpl) (ts : OpenTracks) (camera : UInt32) : OpenTracks :=
  (r.cameraTracks camera).foldl .flushTrack ts

/-- The video tracks of one session of the dead client. -/
def returnSessionTracks (ts : OpenTracks) (p : UInt32 × TrackInfoMap) : OpenTracks :=
  (p.2.toList.reverse.filter (·.2.isVideo)).foldl (fun ts q => ts.flushTrackSource q.2.trackId) ts

/-- `ForceReturnBuffers` for the track sources: first the input queues of the tracks on each camera
of the client, then all tracks of each of its sessions. -/
def forceReturnTracks (r : RecorderImpl) (client : UInt32) (ts : OpenTracks) : OpenTracks :=
  (r.sessions client).toList.foldl returnSessionTracks
    ((r.cameras client).keys.foldl r.flushCameraTracks ts)

/-- `ForceReturnBuffers`, with the assertions of `CameraFlushCb`. -/
def forceReturn (m : Media) (r : RecorderImpl) (client : UInt32) (ts : OpenTracks) :
    Except Abort (RecorderImpl × OpenTracks) := do
  let r' ← r.forceReturnBuffers m client
  .ok (r', r.forceReturnTracks client ts)

/-- The service ids whose sources are flushed, in their order. -/
def returned (r : RecorderImpl) (client : UInt32) : List UInt32 :=
  (r.sessions client).toList.flatMap fun p =>
    (p.2.toList.reverse.filter (·.2.isVideo)).map (·.2.trackId)

/-- The service ids whose input queues are cleared. -/
def cleared (r : RecorderImpl) (client : UInt32) : List UInt32 :=
  (r.cameras client).keys.flatMap r.cameraTracks

variable {r r' : RecorderImpl} {ts ts' : OpenTracks} {x : OpenTrack} {m : Media}
  {client i k id : UInt32} {f : VideoFormat} {as : List TrackFlow.Life}

theorem forceReturn_ok (h : r.forceReturnBuffers m client = .ok r') :
    r.forceReturn m client ts = .ok (r', r.forceReturnTracks client ts) := by
  rw [forceReturn, h]
  rfl

theorem mem_returned : id ∈ r.returned client ↔
    ∃ i k f, r.track client i k = some ⟨id, .video f⟩ := by
  simp only [returned, List.mem_flatMap, List.mem_map, List.mem_filter, List.mem_reverse, Prod.exists,
    Std.ExtTreeMap.mem_toList_iff_getElem?_eq_some]
  constructor
  · rintro ⟨i, tracks, hi, k, info, ⟨hk, hvideo⟩, rfl⟩
    obtain ⟨id, f | f⟩ := info
    · refine ⟨i, k, f, ?_⟩
      rw [track, RecorderImpl.tracks, hi]
      exact hk
    · simp [TrackInfo.isVideo] at hvideo
  · rintro ⟨i, k, f, ht⟩
    rw [track, tracks] at ht
    cases hi : (r.sessions client)[i]? with
    | none => simp [hi] at ht
    | some ts => exact ⟨i, ts, hi, k, _, ⟨by simpa [hi] using ht, rfl⟩, rfl⟩

theorem getElem?_forceReturnTracks : (r.forceReturnTracks client ts)[id]? =
    if id ∈ r.returned client then
      (if id ∈ r.cleared client then (ts[id]?).map .clearInputQueue else ts[id]?).map .flush
    else if id ∈ r.cleared client then (ts[id]?).map .clearInputQueue else ts[id]? := by
  have hflush : ∀ x : OpenTrack, x.flush.flush = x.flush := fun x => by
    simp only [OpenTrack.flush, TrackFlow.flush_flush]
  have hclear : ∀ x : OpenTrack, x.clearInputQueue.clearInputQueue = x.clearInputQueue := fun x => by
    simp only [OpenTrack.clearInputQueue, TrackFlow.clearInputQueue_clearInputQueue]
  have hcleared : (r.cameras client).keys.foldl r.flushCameraTracks ts =
      (r.cleared client).foldl (fun ts id => ts.modify id .clearInputQueue) ts :=
    List.foldl_flatMap.symm
  have hreturned : ∀ ts : OpenTracks, (r.sessions client).toList.foldl returnSessionTracks ts =
      (r.returned client).foldl (fun ts id => ts.modify id .flush) ts := by
    intro ts
    rw [returned, List.foldl_flatMap]
    simp only [List.foldl_map]
    rfl
  rw [forceReturnTracks, hreturned, hcleared, Library.OrdMap.getElem?_foldl_modify hflush,
    Library.OrdMap.getElem?_foldl_modify hclear]

/-- A track without a queue is flushed with the tracks of the client, or stays as it is. -/
theorem getElem?_forceReturnTracks_of_nil (hx : ts[id]? = some x)
    (hq : x.flow.track.framesReceived = []) : (r.forceReturnTracks client ts)[id]? =
      some (if id ∈ r.returned client then x.flush else x) := by
  have hsame : x.clearInputQueue = x := by
    rw [OpenTrack.clearInputQueue, TrackFlow.clearInputQueue_of_nil hq]
  rw [getElem?_forceReturnTracks, hx, Option.map_some, hsame, ite_self]
  split <;> rfl

/-- What a raw track of a dead client had goes back in the phase, unless its format is left out or a
linked consumer has a frame as well. -/
theorem gaveBack_iff_of_forceReturn (h : r.forceReturn m client ts = .ok (r', ts'))
    (ht : r.track client i k = some ⟨id, .video f⟩) (hx : ts[id]? = some x)
    (hraw : x.cfg.format.isEncoded = false)
    (hrun : ((lifeLts x.cfg).guarded (Orderly x.cfg)).MTr {} as x.flow) :
    (∃ y, ts'[id]? = some y ∧ GaveBack x.flow y.flow) ↔
      x.flow.track.bufferList = ∅ ∨ x.cfg.format ≠ .bayerRDI16BIT ∧ Alone x.cfg x.flow := by
  obtain ⟨r₁, -, h⟩ := Library.bind_eq_ok_iff.mp h
  obtain ⟨-, rfl⟩ := Prod.mk.inj (Except.ok.inj h)
  have hflow := TrackFlow.raw_of_mTr hraw hrun
  have hformat : isFlushed x.cfg.format = true ↔ x.cfg.format ≠ .bayerRDI16BIT := by
    cases hf : x.cfg.format <;> simp_all [isFlushed, VideoFormat.isEncoded]
  rw [getElem?_forceReturnTracks_of_nil hx hflow.queue, if_pos (mem_returned.mpr ⟨i, k, f, ht⟩),
    ← hformat, ← TrackFlow.gaveBack_iff hflow]
  simp [OpenTrack.flush]

/-- A client creates a track of the format. -/
def rawTrackRun (format : VideoFormat) : List MediaRequest :=
  [⟨.connect .noError, {}⟩, ⟨.startCamera 1 0 false {}, {}⟩, ⟨.createSession 1, {}⟩,
    ⟨.createVideoTrack 1 1 5 ⟨0, 640, 480, format⟩ {} {}, {}⟩]

/-- One frame goes to the client. -/
def heldFrameRun : List TrackFlow.Life :=
  [.act (.onFrameAvailable { handle := 7, fd := 3 }), .act (.prepare 1), .act .link, .act .pass]

theorem frame_given_back_nv12 :
    ∃ (r r' : RecorderImpl) (ts' : OpenTracks) (flow : TrackFlow) (y : OpenTrack),
      LTS.run (live { format := .nv12 }) {} heldFrameRun = some flow ∧
      r.forceReturn {} 1 (Std.ExtTreeMap.insert ∅ 0x01010005 ⟨{ format := .nv12 }, flow⟩) =
        .ok (r', ts') ∧ ts'[(0x01010005 : UInt32)]? = some y ∧ GaveBack flow y.flow := by
  have hrec : (LTS.run MediaService.next {} (rawTrackRun .nv12)).bind (fun s => s.recorder.map fun r =>
      (r.track 1 1 5, (r.forceReturnBuffers {} 1).toOption.isSome)) =
        some (some ⟨0x01010005, .video .nv12⟩, true) := by decide
  obtain ⟨s, -, hr⟩ := Option.bind_eq_some_iff.mp hrec
  obtain ⟨r, -, heq⟩ := Option.map_eq_some_iff.mp hr
  obtain ⟨ht, hok⟩ := Prod.mk.inj heq
  have hflow : (LTS.run (live { format := .nv12 }) {} heldFrameRun).map (fun flow =>
      decide (Alone { format := .nv12 } flow)) = some true := by decide
  obtain ⟨flow, hflow, halone⟩ := Option.map_eq_some_iff.mp hflow
  cases hr' : r.forceReturnBuffers {} 1 with
  | error e => simp [hr', Except.toOption] at hok
  | ok r' =>
    have h := @forceReturn_ok _ _ (Std.ExtTreeMap.insert ∅ 0x01010005 ⟨{ format := .nv12 }, flow⟩) _ _ hr'
    have hrun : ((lifeLts { format := .nv12 }).guarded (Orderly { format := .nv12 })).MTr {} heldFrameRun
        flow := LTS.mTr_guarded_iff.mpr ⟨hflow, by decide⟩
    obtain ⟨y, hy, hback⟩ := (gaveBack_iff_of_forceReturn h ht (x := ⟨{ format := .nv12 }, flow⟩)
      (by simp) rfl hrun).mpr (.inr ⟨by simp, of_decide_eq_true halone⟩)
    exact ⟨r, r', _, flow, y, hflow, h, hy, hback⟩

/-- The format is missing from the list in `Flush`, and the frame stays listed. -/
theorem rdi16_frame_not_given_back :
    ¬ ∀ (bs : List MediaRequest) (s : MediaService) (r r' : RecorderImpl) (ts ts' : OpenTracks)
      (x : OpenTrack) (as : List TrackFlow.Life) (m : Media) (client i k id : UInt32) (f : VideoFormat),
      MediaService.lts.MTr {} bs s → s.recorder = some r → r.forceReturn m client ts = .ok (r', ts') →
      r.track client i k = some ⟨id, .video f⟩ → ts[id]? = some x → x.cfg.format.isEncoded = false →
      ((lifeLts x.cfg).guarded (Orderly x.cfg)).MTr {} as x.flow →
      ∃ y, ts'[id]? = some y ∧ GaveBack x.flow y.flow := by
  intro hall
  have hrec : (LTS.run MediaService.next {} (rawTrackRun .bayerRDI16BIT)).bind (fun s =>
      s.recorder.map fun r => (r.track 1 1 5, (r.forceReturnBuffers {} 1).toOption.isSome)) =
        some (some ⟨0x01010005, .video .bayerRDI16BIT⟩, true) := by decide
  obtain ⟨s, hs, hr⟩ := Option.bind_eq_some_iff.mp hrec
  obtain ⟨r, hr, heq⟩ := Option.map_eq_some_iff.mp hr
  obtain ⟨ht, hok⟩ := Prod.mk.inj heq
  have hflow : (LTS.run (live { format := .bayerRDI16BIT }) {} heldFrameRun).map (fun flow =>
      flow.track.bufferList.size) = some 1 := by decide
  obtain ⟨flow, hflow, hsize⟩ := Option.map_eq_some_iff.mp hflow
  cases hr' : r.forceReturnBuffers {} 1 with
  | error e => simp [hr', Except.toOption] at hok
  | ok r' =>
    have h := @forceReturn_ok _ _
      (Std.ExtTreeMap.insert ∅ 0x01010005 ⟨{ format := .bayerRDI16BIT }, flow⟩) _ _ hr'
    have hrun : ((lifeLts { format := .bayerRDI16BIT }).guarded
        (Orderly { format := .bayerRDI16BIT })).MTr {} heldFrameRun flow :=
      LTS.mTr_guarded_iff.mpr ⟨hflow, by decide⟩
    obtain ⟨y, hy, hback⟩ := hall _ s r r' _ _ ⟨{ format := .bayerRDI16BIT }, flow⟩ _ {} 1 1 5 _ _
      (LTS.mTr_ofStep_iff.mpr hs) hr h ht (by simp) rfl hrun
    rw [getElem?_forceReturnTracks_of_nil (x := ⟨{ format := .bayerRDI16BIT }, flow⟩) (by simp)
      (TrackFlow.raw_of_mTr rfl hrun).queue] at hy
    obtain rfl := Option.some.inj hy
    have hempty := hback.empty
    rw [apply_ite OpenTrack.flow] at hempty
    change (if _ then TrackFlow.flush { format := .bayerRDI16BIT } flow else flow).track.bufferList = ∅
      at hempty
    rw [show TrackFlow.flush { format := .bayerRDI16BIT } flow = flow from rfl, ite_self] at hempty
    simp [hempty] at hsize

end RecorderImpl

end QmmfSdk.Recorder
