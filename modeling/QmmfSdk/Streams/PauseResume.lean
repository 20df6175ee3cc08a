import QmmfSdk.Streams.Batch
import QmmfSdk.Streams.SnapshotRuns

/-! `PauseActiveStreams` followed by `ResumeActiveStreams`: what the pair does to the ports, which are
asserted to be started. -/
namespace QmmfSdk.Streams

open Library (LTS bind_eq_ok_iff foldlM_inv)
open Recorder (Status SnapshotMode)

/-- The port's stream is part of the requests of its batch. The first one is left out: an interruption
empties it. -/
def CameraPort.Listed (requests : List Camera3Request) (port : CameraPort) : Prop :=
  port.readyToStart = true ∧
    ∀ i < port.batchSize, 0 < i → port.cameraStreamId ∈ idsAt requests i

/-- The port as `Start` leaves it. -/
def CameraPort.restarted (port : CameraPort) : CameraPort :=
  { port with readyToStart := true, portState := .started }

theorem idsAt_succ {requests : List Camera3Request} {i : Nat} :
    idsAt requests (i + 1) = idsAt requests.tail i := by
  rw [idsAt, idsAt, List.getElem?_tail]

theorem mem_foldl_insert {l : List Int} {x : Int} {set : Std.ExtTreeSet Int} :
    x ∈ l.foldl .insert set ↔ x ∈ l ∨ x ∈ set := by
  induction l generalizing set with
  | nil => simp
  | cons y l ih =>
    rw [List.foldl_cons, ih, Std.ExtTreeSet.mem_insert, List.mem_cons,
      Std.LawfulEqCmp.compare_eq_iff_eq, or_left_comm, or_assoc, eq_comm]

namespace CameraContext

variable {ctx ctx' u : CameraContext} {trackId : UInt32} {port : CameraPort} {submitted : Submitted}
  {flushed stateOnly : Bool} {st : Status} {target : PortState} {sub : UInt32 → Submitted}
  {flush : UInt32 → Bool} {a : Action}

/-- The streams of a camera, interrupted or not. -/
structure Orderly (ctx : CameraContext) : Prop where
  ids : ctx.StreamIds
  settled : ∀ (id : UInt32) (port : CameraPort), ctx.activePorts[id]? = some port → port.Settled
  listed : ∀ (id : UInt32) (port : CameraPort), ctx.activePorts[id]? = some port →
    (port.portState = .started ∨ port.portState = .paused) →
    port.Listed ctx.streamingActiveRequests
  nodup : ∀ r ∈ ctx.streamingActiveRequests, r.streamIds.Nodup
  full : ∀ r ∈ ctx.streamingActiveRequests.tail, r.streamIds ≠ []
  some_request : ∀ (id : UInt32) (port : CameraPort), ctx.activePorts[id]? = some port →
    ctx.streamingActiveRequests ≠ []
  live : idsAt ctx.streamingActiveRequests 0 ≠ [] ∨ ¬ ctx.stoppedStreamIds.isEmpty →
    ctx.streamingActiveRequests ≠ [] ∧ ∀ r ∈ ctx.streamingActiveRequests, ¬ r.metadata.isEmpty

/-- Streams wait for a resume only while the ports are paused. -/
def Rested (ctx : CameraContext) : Prop :=
  ctx.stoppedStreamIds.isEmpty ∨ ctx.portPaused = true

/-- The order is one of the ports, the requests and the streams that wait. -/
theorem Orderly.congr (hs : ctx.Orderly) (hports : ctx'.activePorts = ctx.activePorts)
    (hrequests : ctx'.streamingActiveRequests = ctx.streamingActiveRequests)
    (hstopped : ctx'.stoppedStreamIds = ctx.stoppedStreamIds)
    (hnext : ctx.nextStreamId ≤ ctx'.nextStreamId) : ctx'.Orderly := by
  refine ⟨⟨fun id p hp => ?_, fun id id' p p' hp hp' => ?_, hs.ids.nonneg.trans hnext⟩,
    hports ▸ hs.settled, ?_, hrequests ▸ hs.nodup, hrequests ▸ hs.full, ?_, ?_⟩
  · obtain ⟨hlow, hhigh⟩ := hs.ids.range id p (hports ▸ hp)
    exact ⟨hlow, hhigh.trans_le hnext⟩
  · exact hs.ids.distinct id id' p p' (hports ▸ hp) (hports ▸ hp')
  · rw [hports, hrequests]
    exact hs.listed
  · rw [hports, hrequests]
    exact hs.some_request
  · rw [hrequests, hstopped]
    exact hs.live

/-- The update for one port that starts or stops; `ids` are the streams that it leaves in each request,
among them those of the other ports. -/
theorem Orderly.turned {ready : Bool} {via : PortState} {ids : Nat → Int → Prop} (hs : ctx.Orderly)
    (hport : ctx.activePorts[trackId]? = some port)
    (h : (ctx.setPort trackId { port with readyToStart := ready, portState := via }).updateRequest
      submitted flushed = .ok (st, u))
    (he : (ctx.setPort trackId { port with readyToStart := ready, portState := via }).Edited ids u)
    (htarget : (target = .started ∧ ready = true ∧
      ∀ i < port.batchSize, ids i port.cameraStreamId) ∨ target = .stopped)
    (hothers : ∀ (id : UInt32) (p : CameraPort), trackId ≠ id → ctx.activePorts[id]? = some p →
      ∀ i, p.cameraStreamId ∈ idsAt ctx.streamingActiveRequests i → ids i p.cameraStreamId) :
    (u.setPortState trackId target).Orderly := by
  have hlook : ∀ (id : UInt32) (p : CameraPort),
      (u.setPortState trackId target).activePorts[id]? = some p →
      p = { port with readyToStart := ready, portState := target } ∨
        trackId ≠ id ∧ ctx.activePorts[id]? = some p := fun _ _ => port_turned he.same
  refine ⟨hs.ids.congr (books_turned hport h), fun id p hp => ?_, fun id p hp hstate => ?_, he.nodup,
    he.full, fun _ _ _ => he.some_request, fun hlive => ⟨he.some_request, ?_⟩⟩
  · obtain rfl | ⟨-, hp⟩ := hlook id p hp
    · obtain ⟨rfl, -⟩ | rfl := htarget
      · exact ⟨by simp, by simp⟩
      · exact ⟨by simp, by simp⟩
    · exact hs.settled id p hp
  · obtain rfl | ⟨hne, hp⟩ := hlook id p hp
    · obtain ⟨rfl, hready, hids⟩ | rfl := htarget
      · exact ⟨hready, fun i hi _ => (he.mem_iff i _).mpr (hids i hi)⟩
      · simp at hstate
    · obtain ⟨hready, hmem⟩ := hs.listed id p hp hstate
      exact ⟨hready, fun i hi hpos => (he.mem_iff i _).mpr (hothers id p hne hp i (hmem i hi hpos))⟩
  · obtain hfirst | hstopped := hlive
    · exact he.live hfirst
    · have hsame : u.stoppedStreamIds = ctx.stoppedStreamIds := by
        rw [he.same]
        rfl
      change ¬ u.stoppedStreamIds.isEmpty at hstopped
      rw [hsame] at hstopped
      exact he.tags (hs.some_request trackId port hport) (hs.live (.inr hstopped)).2

theorem Orderly.start (hs : ctx.Orderly) (hport : ctx.activePorts[trackId]? = some port)
    (h : (ctx.setPort trackId
      { port with readyToStart := true, portState := .readyToStart }).updateRequest
        submitted flushed = .ok (st, u)) :
    (u.setPortState trackId .started).Orderly := by
  have he := updateRequest_readyToStart (getElem?_setPort.trans (if_pos rfl)) rfl
    (fun id p hne hp => hs.settled id p ((getElem?_setPort.trans (if_neg hne.symm)).symm.trans hp))
    hs.nodup h
  refine hs.turned hport h he (.inl ⟨rfl, rfl, fun i hi => .inr ⟨rfl, hi⟩⟩) ?_
  exact fun _ _ _ _ _ hmem => .inl hmem

theorem Orderly.stop (hs : ctx.Orderly) (hport : ctx.activePorts[trackId]? = some port)
    (h : (ctx.setPort trackId
      { port with readyToStart := false, portState := .readyToStop }).updateRequest
        submitted flushed = .ok (st, u)) :
    (u.setPortState trackId .stopped).Orderly := by
  have he := updateRequest_readyToStop (getElem?_setPort.trans (if_pos rfl)) rfl
    (fun id p hne hp => hs.settled id p ((getElem?_setPort.trans (if_neg hne.symm)).symm.trans hp))
    hs.nodup h
  refine hs.turned hport h he (.inr rfl) fun id p hne hp i hmem => ⟨hmem, fun heq => hne ?_⟩
  exact (hs.ids.distinct id trackId p port hp hport heq).symm

/-- Pause and resume of one port leave its stream where it is. -/
theorem Orderly.setPortState (hs : ctx.Orderly) (hport : ctx.activePorts[trackId]? = some port)
    (hstate : port.portState = .started ∨ port.portState = .paused)
    (htarget : target = .started ∨ target = .paused) : (ctx.setPortState trackId target).Orderly := by
  have hlook : ∀ (id : UInt32) (p : CameraPort),
      (ctx.setPortState trackId target).activePorts[id]? = some p →
      p = port.setState target ∨ ctx.activePorts[id]? = some p := by
    intro id p hp
    rw [getElem?_setPortState] at hp
    split at hp
    next heq =>
      rw [← heq, hport] at hp
      exact .inl (Option.some.inj hp).symm
    next => exact .inr hp
  refine ⟨hs.ids.congr books_setPortState, fun id p hp => ?_, fun id p hp hstate' => ?_, hs.nodup,
    hs.full, fun _ _ _ => hs.some_request trackId port hport, hs.live⟩
  · obtain rfl | hp := hlook id p hp
    · obtain rfl | rfl := htarget
      · exact ⟨by simp [CameraPort.setState], by simp [CameraPort.setState]⟩
      · exact ⟨by simp [CameraPort.setState], by simp [CameraPort.setState]⟩
    · exact hs.settled id p hp
  · obtain rfl | hp := hlook id p hp
    · exact hs.listed trackId port hport hstate
    · exact hs.listed id p hp hstate'

theorem Orderly.create {param : StreamParam} {batch : Nat} {requests : List Camera3Request}
    (hs : ctx.Orderly) (hsome : requests ≠ [])
    (hrequests : requests = ctx.streamingActiveRequests ∨ ctx.streamingActiveRequests = [] ∧
      ∃ metadata, requests = [{ metadata := metadata }]) :
    (ctx.withPort param batch requests).Orderly := by
  have hsame : ∀ i, idsAt requests i = idsAt ctx.streamingActiveRequests i := by
    intro i
    obtain rfl | ⟨hnil, metadata, rfl⟩ := hrequests
    · rfl
    · rw [hnil]
      cases i <;> rfl
  have hlook : ∀ (id : UInt32) (p : CameraPort),
      (ctx.withPort param batch requests).activePorts[id]? = some p →
      p.portState = .created ∨ ctx.activePorts[id]? = some p := by
    intro id p hp
    rw [getElem?_withPort] at hp
    split at hp
    · exact .inl (congrArg CameraPort.portState (Option.some.inj hp).symm)
    · exact .inr hp
  refine ⟨StreamRun.streamIds_withPort hs.ids, fun id p hp => ?_, fun id p hp hstate => ?_,
    fun r hr => ?_, fun r hr => ?_, fun _ _ _ => hsome, fun hlive => ⟨hsome, ?_⟩⟩
  · obtain hcreated | hp := hlook id p hp
    · exact ⟨by simp [hcreated], by simp [hcreated]⟩
    · exact hs.settled id p hp
  · obtain hcreated | hp := hlook id p hp
    · simp [hcreated] at hstate
    · obtain ⟨hready, hmem⟩ := hs.listed id p hp hstate
      exact ⟨hready, fun i hi hpos => hsame i ▸ hmem i hi hpos⟩
  · change r ∈ requests at hr
    obtain rfl | ⟨-, metadata, rfl⟩ := hrequests
    · exact hs.nodup r hr
    · rw [List.mem_singleton.mp hr]
      exact List.nodup_nil
  · change r ∈ requests.tail at hr
    obtain rfl | ⟨-, metadata, rfl⟩ := hrequests
    · exact hs.full r hr
    · simp at hr
  · have hold : idsAt ctx.streamingActiveRequests 0 ≠ [] ∨ ¬ ctx.stoppedStreamIds.isEmpty :=
      hlive.imp (fun h => hsame 0 ▸ h) id
    obtain ⟨hne, hmeta⟩ := hs.live hold
    obtain rfl | ⟨hnil, -⟩ := hrequests
    · exact hmeta
    · exact absurd hnil hne

theorem Orderly.delete (hs : ctx.Orderly) :
    { ctx.restoreBatchStreamId port with
      activePorts := ctx.activePorts.erase trackId }.Orderly := by
  have hlook : ∀ (id : UInt32) (p : CameraPort), (ctx.activePorts.erase trackId)[id]? = some p →
      ctx.activePorts[id]? = some p := by
    intro id p hp
    rw [StreamRun.getElem?_deleted] at hp
    split at hp
    · simp at hp
    · exact hp
  have hids := StreamRun.streamIds_deleted trackId port hs.ids
  unfold restoreBatchStreamId at hids ⊢
  split at hids
  next hbatch =>
    rw [if_pos hbatch]
    exact ⟨hids, fun id p hp => hs.settled id p (hlook id p hp),
      fun id p hp => hs.listed id p (hlook id p hp), hs.nodup, hs.full,
      fun id p hp => hs.some_request id p (hlook id p hp), hs.live⟩
  next hbatch =>
    rw [if_neg hbatch]
    exact ⟨hids, fun id p hp => hs.settled id p (hlook id p hp),
      fun id p hp => hs.listed id p (hlook id p hp), hs.nodup, hs.full,
      fun id p hp => hs.some_request id p (hlook id p hp), hs.live⟩

theorem Orderly.setConsumers {consumers : Nat} (hs : ctx.Orderly) :
    (ctx.setConsumers trackId consumers).Orderly := by
  refine ⟨hs.ids.congr books_setConsumers, fun id p hp => ?_, fun id p hp => ?_, hs.nodup, hs.full,
    fun id p hp => ?_, hs.live⟩
  · obtain ⟨q, hq, heq⟩ := port_of_setConsumers hp
    rw [heq]
    exact hs.settled id q hq
  · obtain ⟨q, hq, heq⟩ := port_of_setConsumers hp
    rw [heq]
    exact hs.listed id q hq
  · obtain ⟨q, hq, -⟩ := port_of_setConsumers hp
    exact hs.some_request id q hq

theorem Orderly.setCameraParam {metadata : RequestMetadata} (hs : ctx.Orderly)
    (htags : ¬ metadata.isEmpty) (h : ctx.setCameraParam metadata submitted = .ok (st, ctx')) :
    ctx'.Orderly := by
  obtain rfl | ⟨_, _, -, rfl⟩ := setCameraParam_ok h
  · exact hs
  have hsame : ∀ i, idsAt (ctx.streamingActiveRequests.map
      fun r => { r with metadata := metadata }) i = idsAt ctx.streamingActiveRequests i :=
    fun i => idsAt_map fun _ => rfl
  refine ⟨⟨hs.ids.range, hs.ids.distinct, hs.ids.nonneg⟩, hs.settled, fun id p hp hstate => ?_,
    fun r hr => ?_, fun r hr => ?_, fun id p hp => ?_, fun hlive => ⟨?_, fun r hr => ?_⟩⟩
  · obtain ⟨hready, hmem⟩ := hs.listed id p hp hstate
    exact ⟨hready, fun i hi hpos => hsame i ▸ hmem i hi hpos⟩
  · obtain ⟨r', hr', rfl⟩ := List.mem_map.mp hr
    exact hs.nodup r' hr'
  · rw [← List.map_tail] at hr
    obtain ⟨r', hr', rfl⟩ := List.mem_map.mp hr
    exact hs.full r' hr'
  · simpa using hs.some_request id p hp
  · have hold := hs.live (hlive.imp (fun h => hsame 0 ▸ h) id)
    simpa using hold.1
  · obtain ⟨r', -, rfl⟩ := List.mem_map.mp hr
    exact htags

theorem idsAt_interrupted {i : Nat} :
    idsAt ctx.interrupted.streamingActiveRequests (i + 1) =
      idsAt ctx.streamingActiveRequests (i + 1) := by
  simp only [idsAt_succ, interrupted]
  cases ctx.streamingActiveRequests <;> rfl

theorem stopped_interrupted : ctx.interrupted.stoppedStreamIds.isEmpty ↔
    idsAt ctx.streamingActiveRequests 0 = [] := by
  rw [Std.ExtTreeSet.isEmpty_iff]
  constructor
  · intro hempty
    by_contra hsome
    obtain ⟨x, hx⟩ := List.exists_mem_of_ne_nil _ hsome
    have hmem : x ∈ ctx.interrupted.stoppedStreamIds := mem_foldl_insert.mpr (.inl hx)
    rw [hempty] at hmem
    simp at hmem
  · intro hnone
    simp [interrupted, hnone]

theorem Orderly.interrupted (hs : ctx.Orderly) (hall : ctx.AllStarted ctx.activePorts.keys) :
    ctx.interrupted.Orderly := by
  have hlook : ∀ (id : UInt32) (p : CameraPort), ctx.interrupted.activePorts[id]? = some p →
      ∃ q, ctx.activePorts[id]? = some q ∧ p = q.setState .paused := by
    intro id p hp
    rw [getElem?_interrupted] at hp
    obtain ⟨q, hq, rfl⟩ := Option.map_eq_some_iff.mp hp
    exact ⟨q, hq, rfl⟩
  refine ⟨hs.ids.congr books_interrupted, fun _ _ => settled_interrupted, fun id p hp _ => ?_,
    nodup_interrupted hs.nodup, fun r hr => hs.full r ?_, fun id p hp => ?_, fun hlive => ?_⟩
  · obtain ⟨q, hq, rfl⟩ := hlook id p hp
    obtain ⟨hready, hmem⟩ := hs.listed id q hq (.inl (hall id (mem_keys hq) q hq))
    refine ⟨hready, fun i hi hpos => ?_⟩
    obtain ⟨j, rfl⟩ := Nat.exists_eq_succ_of_ne_zero hpos.ne'
    rw [idsAt_interrupted]
    exact hmem (j + 1) hi hpos
  · simp only [CameraContext.interrupted] at hr
    cases hrequests : ctx.streamingActiveRequests with
    | nil => simp [hrequests] at hr
    | cons r₀ rest =>
      rw [hrequests] at hr
      exact hr
  · obtain ⟨q, hq, -⟩ := hlook id p hp
    simpa [CameraContext.interrupted] using hs.some_request id q hq
  · have hfirst : idsAt ctx.streamingActiveRequests 0 ≠ [] := by
      obtain hfirst | hstopped := hlive
      · simp only [CameraContext.interrupted, idsAt] at hfirst
        cases hrequests : ctx.streamingActiveRequests with
        | nil => simp [hrequests] at hfirst
        | cons r₀ rest => simp [hrequests] at hfirst
      · exact fun hnone => hstopped (stopped_interrupted.mpr hnone)
    obtain ⟨hne, hmeta⟩ := hs.live (.inl hfirst)
    obtain ⟨r₀, rest, hcons⟩ := List.exists_cons_of_ne_nil hne
    simp only [CameraContext.interrupted, hcons, List.modifyHead_cons]
    rw [hcons] at hmeta
    refine ⟨by simp, fun r hr => ?_⟩
    obtain rfl | hr := List.mem_cons.mp hr
    · exact hmeta r₀ (by simp)
    · exact hmeta r (List.mem_cons_of_mem _ hr)

theorem Orderly.startStream (hs : ctx.Orderly)
    (h : ctx.startStream trackId submitted flushed = .ok (st, ctx')) : ctx'.Orderly := by
  obtain rfl | ⟨port, hport, -, u, hu, rfl⟩ := startStream_ok h
  · exact hs
  · exact hs.start hport hu

theorem Orderly.call (hs : ctx.Orderly)
    (htags : ∀ metadata submitted, a = .setCameraParam metadata submitted → ¬ metadata.isEmpty)
    (h : StreamRun.call ctx a = .ok (st, ctx')) : ctx'.Orderly := by
  cases a with
  | createStream param d =>
    obtain ⟨-, -, rfl⟩ | ⟨batch, -, ⟨-, -, rfl⟩ | ⟨-, -, requests, hrequests, hsome, rfl⟩⟩ :=
      createStream_ok h
    · exact hs
    · exact hs.congr rfl rfl rfl (Int.le_refl _)
    · exact hs.create hsome hrequests
  | deleteStream trackId deleted =>
    obtain rfl | ⟨port, -, -, rfl⟩ := deleteStream_ok h
    · exact hs
    · exact hs.delete
  | setConsumers trackId consumers =>
    obtain ⟨-, rfl⟩ := Prod.mk.inj (Except.ok.inj h)
    exact hs.setConsumers
  | startStream trackId submitted flushed => exact hs.startStream h
  | stopStream trackId submitted flushed =>
    obtain rfl | ⟨port, hport, -, u, hu, rfl⟩ := stopStream_ok h
    · exact hs
    · exact hs.stop hport hu
  | pauseStream trackId =>
    obtain rfl | ⟨port, hport, hstate, rfl⟩ := pauseStream_ok h
    · exact hs
    · exact hs.setPortState hport (.inl hstate) (.inr rfl)
  | resumeStream trackId =>
    obtain rfl | ⟨port, hport, hstate, rfl⟩ := resumeStream_ok h
    · exact hs
    · exact hs.setPortState hport (.inr hstate) (.inl rfl)
  | setCameraParam metadata submitted =>
    exact hs.setCameraParam (htags metadata submitted rfl) h
  | pauseActiveStreams flushed =>
    obtain rfl | ⟨hall, -, rfl⟩ := pauseActiveStreams_ok h
    · exact hs
    · exact hs.interrupted hall
  | resumeActiveStreams | resumeNext _ _ =>
    obtain ⟨-, rfl⟩ := Prod.mk.inj (Except.ok.inj h)
    exact hs

theorem Orderly.resumeNext (hs : ctx.Orderly)
    (h : ctx.resumeNext stateOnly sub flush trackId = .ok ctx') : ctx'.Orderly := by
  cases stateOnly with
  | true =>
    unfold CameraContext.resumeNext at h
    split at h
    · exact Except.ok.inj h ▸ hs
    next port hport =>
      simp only [if_true, resumePort] at h
      split at h
      next hstate => exact Except.ok.inj h ▸ hs.setPortState hport (.inr hstate) (.inl rfl)
      next => simp at h
  | false =>
    rw [resumeNext_eq_startStream] at h
    cases hstart : ctx.startStream trackId (sub trackId) (flush trackId) with
    | error e => simp [hstart, Except.map] at h
    | ok r =>
      rw [hstart] at h
      exact Except.ok.inj h ▸ hs.startStream hstart

/-- Nothing waits any more after a resume. -/
theorem Orderly.resumeActiveStreams (hs : ctx.Orderly)
    (h : ctx.resumeActiveStreams stateOnly sub flush = .ok (st, ctx')) :
    ctx'.Orderly ∧ ctx'.Rested := by
  unfold CameraContext.resumeActiveStreams at h
  split at h
  next hempty =>
    obtain ⟨-, rfl⟩ := Prod.mk.inj (Except.ok.inj h)
    exact ⟨hs.congr rfl rfl rfl (Int.le_refl _), .inl hempty⟩
  next =>
    obtain ⟨u, hu, h⟩ := bind_eq_ok_iff.mp h
    obtain ⟨-, rfl⟩ := Prod.mk.inj (Except.ok.inj h)
    have hloop : u.Orderly := foldlM_inv (I := Orderly) hs
      (fun _ _ _ _ hv hw => hv.resumeNext hw) hu
    refine ⟨⟨⟨hloop.ids.range, hloop.ids.distinct, hloop.ids.nonneg⟩, hloop.settled, hloop.listed,
      hloop.nodup, hloop.full, hloop.some_request, fun hlive => ?_⟩, .inl (by simp)⟩
    exact hloop.live (hlive.imp id fun h => absurd (by simp) h)

/-- Only an interruption makes streams wait. -/
theorem Rested.call (hs : ctx.Rested) (h : StreamRun.call ctx a = .ok (st, ctx')) : ctx'.Rested := by
  cases a with
  | createStream param d =>
    obtain ⟨-, -, rfl⟩ | ⟨batch, -, ⟨-, -, rfl⟩ | ⟨-, -, requests, -, -, rfl⟩⟩ := createStream_ok h
    · exact hs
    · exact hs
    · exact hs
  | deleteStream trackId deleted =>
    obtain rfl | ⟨port, -, -, rfl⟩ := deleteStream_ok h
    · exact hs
    · unfold restoreBatchStreamId
      split <;> exact hs
  | setConsumers trackId consumers =>
    obtain ⟨-, rfl⟩ := Prod.mk.inj (Except.ok.inj h)
    exact hs
  | startStream trackId submitted flushed =>
    obtain rfl | ⟨port, -, -, u, hu, rfl⟩ := startStream_ok h
    · exact hs
    · rw [(updateRequest_same hu).2]
      exact hs
  | stopStream trackId submitted flushed =>
    obtain rfl | ⟨port, -, -, u, hu, rfl⟩ := stopStream_ok h
    · exact hs
    · rw [(updateRequest_same hu).2]
      exact hs
  | pauseStream trackId =>
    obtain rfl | ⟨port, -, -, rfl⟩ := pauseStream_ok h
    · exact hs
    · exact hs
  | resumeStream trackId =>
    obtain rfl | ⟨port, -, -, rfl⟩ := resumeStream_ok h
    · exact hs
    · exact hs
  | setCameraParam metadata submitted =>
    obtain rfl | ⟨_, _, -, rfl⟩ := setCameraParam_ok h
    · exact hs
    · exact hs
  | pauseActiveStreams flushed =>
    obtain rfl | ⟨-, -, rfl⟩ := pauseActiveStreams_ok h
    · exact hs
    · exact .inr rfl
  | resumeActiveStreams | resumeNext _ _ =>
    obtain ⟨-, rfl⟩ := Prod.mk.inj (Except.ok.inj h)
    exact hs

/-- Requests that a start of one of the ports finds in order. -/
structure Restartable (requests : List Camera3Request) : Prop where
  some_request : requests ≠ []
  full : ∀ r ∈ requests.tail, r.streamIds ≠ []
  metadata : ∀ r ∈ requests, ¬ r.metadata.isEmpty

theorem eraseStale_of_full {requests : List Camera3Request}
    (h : ∀ r ∈ requests.tail, r.streamIds ≠ []) : eraseStale requests = .ok requests := by
  cases requests with
  | nil => rfl
  | cons r rest =>
    have hall : ∀ e ∈ rest, (!e.streamIds.isEmpty) = true := fun e he => by
      simpa using h e he
    rw [eraseStale, List.dropWhile_eq_nil_iff.mpr hall, List.takeWhile_eq_self_iff.mpr hall]
    rfl

/-- Without a new request an addition is always possible, and nothing in it gets stale. -/
theorem Restartable.addPort {requests : List Camera3Request} (hs : Restartable requests)
    (hlong : port.batchSize ≤ requests.length) :
    ∃ scan, PortScan.addPort { requests := requests } port = .ok scan ∧
      Restartable scan.requests ∧ scan.requests.length = requests.length := by
  obtain ⟨r₀, rest, rfl⟩ := List.exists_cons_of_ne_nil hs.some_request
  have hfirst : r₀.metadata.isEmpty = false := by simpa using hs.metadata r₀ (by simp)
  have hnone : port.batchSize - (r₀ :: rest).length = 0 := Nat.sub_eq_zero_of_le hlong
  cases hadd : PortScan.addPort { requests := r₀ :: rest } port with
  | error e =>
    simp [PortScan.addPort, PortScan.canFill, hfirst] at hadd
  | ok scan =>
    obtain ⟨hmem, -, hmeta⟩ := PortScan.addPort_ok hadd
    obtain ⟨-, hmeta⟩ := hmeta (by simp)
    have hlength : scan.requests.length = (r₀ :: rest).length := by
      simp only [PortScan.addPort, PortScan.canFill, hfirst, hnone, List.replicate_zero,
        List.append_nil, List.head?_cons, Option.map_some, Option.all_some, Bool.not_false,
        Bool.true_or, if_true, Except.ok.injEq] at hadd
      rw [← hadd]
      exact List.length_mapIdx
    refine ⟨scan, rfl, ⟨fun hnil => ?_, fun r hr hempty => ?_, fun r hr => ?_⟩, hlength⟩
    · rw [hnil] at hlength
      simp at hlength
    · obtain ⟨i, hi⟩ := List.mem_iff_getElem?.mp hr
      have hlt : i < rest.length := by
        obtain ⟨hi, -⟩ := List.getElem?_eq_some_iff.mp hi
        rw [List.length_tail, hlength] at hi
        simpa using hi
      obtain ⟨x, hx⟩ := List.exists_mem_of_ne_nil _ (hs.full rest[i] (List.getElem_mem hlt))
      have hold : x ∈ idsAt (r₀ :: rest) (i + 1) := by
        rw [idsAt_succ, List.tail_cons, idsAt_of_getElem? (List.getElem?_eq_getElem hlt)]
        exact hx
      have hnew := (hmem (i + 1) x).mpr (.inl hold)
      rw [idsAt_succ, idsAt_of_getElem? hi, hempty] at hnew
      simp at hnew
    · obtain ⟨r', hr', heq⟩ | heq | ⟨-, hshort, hbatch⟩ := hmeta r hr
      · rw [heq]
        exact hs.metadata r' hr'
      · rw [heq]
        simpa [PortScan.firstMetadata] using hfirst
      · exact absurd (hlong.trans hshort) (Nat.not_le.mpr hbatch)

/-- The submission takes such requests, and only their rates change. -/
theorem submitUpdate_restart {scan : PortScan} (hs : Restartable ctx.streamingActiveRequests)
    (hsubmitted : 0 ≤ submitted.requestId) :
    ∃ u, ctx.submitUpdate scan submitted = .ok (.noError, u) ∧ SameStreams ctx u ∧
      Restartable u.streamingActiveRequests ∧
      u.streamingActiveRequests.length = ctx.streamingActiveRequests.length := by
  obtain ⟨f, hf, hrated⟩ := ratedRequests_eq_map scan.maxFps ctx.streamingActiveRequests
  have hkeep : ∀ r ∈ ctx.streamingActiveRequests, (f r).streamIds = r.streamIds ∧
      ¬ (f r).metadata.isEmpty := by
    intro r hr
    obtain rfl | ⟨fps, rfl⟩ := hf
    · exact ⟨rfl, hs.metadata r hr⟩
    · exact ⟨rfl, by simp [Camera3Request.setFrameRate_ne_empty]⟩
  have hfull : ¬ ((ratedRequests scan.maxFps ctx.streamingActiveRequests).any (·.metadata.isEmpty) ∨
      submitted.requestId < 0) := by
    rintro (hany | hneg)
    · obtain ⟨r, hr, hempty⟩ := List.any_eq_true.mp hany
      rw [hrated] at hr
      obtain ⟨r', hr', rfl⟩ := List.mem_map.mp hr
      exact (hkeep r' hr').2 hempty
    · omega
  unfold submitUpdate
  rw [if_neg hfull, Std.ExtTreeSet.foldl_eq_foldl_toList]
  obtain ⟨map, ids, hfold⟩ := foldl_recordStream scan.removedStreams (ctx.lastFrame submitted)
    scan.streamIds.toList { ctx with
      streamingActiveRequests := ratedRequests scan.maxFps ctx.streamingActiveRequests
      streamingRequestId := submitted.requestId
      lastFrameNumber := ctx.lastFrame submitted }
  refine ⟨_, rfl, ?_, ?_, ?_⟩
  · rw [hfold]
    rfl
  · rw [hfold]
    dsimp only
    rw [hrated]
    refine ⟨by simpa using hs.some_request, fun r hr => ?_, fun r hr => ?_⟩
    · rw [← List.map_tail] at hr
      obtain ⟨r', hr', rfl⟩ := List.mem_map.mp hr
      rw [(hkeep r' (List.mem_of_mem_tail hr')).1]
      exact hs.full r' hr'
    · obtain ⟨r', hr', rfl⟩ := List.mem_map.mp hr
      exact (hkeep r' hr').2
  · rw [hfold]
    dsimp only
    rw [hrated, List.length_map]

/-- The port of such a context starts. -/
theorem updateRequest_restart (ctx : CameraContext) (submitted : Submitted)
    {requests : List Camera3Request} (hrequests : ctx.streamingActiveRequests = requests)
    (hs : Restartable requests)
    (hport : ctx.activePorts[trackId]? = some port) (hstate : port.portState = .readyToStart)
    (hothers : ∀ id p, id ≠ trackId → ctx.activePorts[id]? = some p → p.Settled)
    (hlong : port.batchSize ≤ requests.length) (hsubmitted : 0 ≤ submitted.requestId) :
    ∃ u, ctx.updateRequest submitted true = .ok (.noError, u) ∧ SameStreams ctx u ∧
      Restartable u.streamingActiveRequests ∧
      u.streamingActiveRequests.length = requests.length := by
  obtain ⟨v, hv, hready, hlength⟩ := hs.addPort hlong
  obtain ⟨l₁, l₂, hsplit, h₁, h₂⟩ := toList_split hport hothers
  have hone := PortScan.foldlM_one { requests := ctx.streamingActiveRequests } (trackId, port) h₁ h₂
  rw [← hsplit, PortScan.scanPort, hstate, hrequests] at hone
  dsimp only at hone
  rw [hv] at hone
  cases hscan : ctx.activePorts.toList.foldlM (fun scan it => PortScan.scanPort scan it.2)
      { requests := requests } with
  | error e =>
    rw [hscan] at hone
    simp [Except.map] at hone
  | ok scan =>
    rw [hscan] at hone
    have hsame : scan.requests = v.requests := Except.ok.inj hone
    have hstale := eraseStale_of_full hready.full
    obtain ⟨r, rest, hcons⟩ := List.exists_cons_of_ne_nil hready.some_request
    have hrun : ctx.updateRequest submitted true =
        if r.streamIds.isEmpty then
          { ctx with streamingActiveRequests := v.requests }.cancelRequest true
        else { ctx with streamingActiveRequests := v.requests }.submitUpdate scan submitted := by
      rw [updateRequest, hrequests, hscan]
      change (eraseStale scan.requests >>= _) = _
      rw [hsame, hstale, hcons]
      rfl
    rw [hrun]
    split
    next =>
      unfold cancelRequest
      split
      · exact ⟨_, rfl, rfl, hready, hlength⟩
      · exact ⟨_, rfl, rfl, hready, hlength⟩
    next =>
      obtain ⟨u, hu, hsame, hrestart, hlen⟩ :=
        @submitUpdate_restart { ctx with streamingActiveRequests := v.requests } submitted scan hready
          hsubmitted
      exact ⟨u, hu, hsame, hrestart, hlen.trans hlength⟩

/-- What the loop of `ResumeActiveStreams` needs of the context. -/
structure Resumable (ctx : CameraContext) (ids : List UInt32) : Prop where
  ready : Restartable ctx.streamingActiveRequests
  long : ∀ (id : UInt32) (port : CameraPort), ctx.activePorts[id]? = some port →
    port.batchSize ≤ ctx.streamingActiveRequests.length
  settled : ∀ (id : UInt32) (port : CameraPort), ctx.activePorts[id]? = some port → port.Settled
  paused : ∀ id ∈ ids, ∀ port, ctx.activePorts[id]? = some port → port.portState = .paused

/-- One turn of it starts the port. -/
theorem Resumable.next {ids : List UInt32} {sub : UInt32 → Submitted}
    (hs : ctx.Resumable (trackId :: ids)) (hnew : trackId ∉ ids)
    (hport : ctx.activePorts[trackId]? = some port) (hsub : ∀ id, 0 ≤ (sub id).requestId) :
    ∃ u, ctx.resumeNext false sub (fun _ => true) trackId = .ok u ∧ u.Resumable ids ∧
      ∀ id : UInt32, u.activePorts[id]? =
        if trackId = id then some (CameraPort.restarted port) else ctx.activePorts[id]? := by
  have hpaused := hs.paused trackId (by simp) port hport
  obtain ⟨u, hu, hsame, hready, hlength⟩ := updateRequest_restart
    (ctx.setPort trackId { port with readyToStart := true, portState := .readyToStart })
    (sub trackId) rfl hs.ready (getElem?_setPort.trans (if_pos rfl)) rfl
    (fun id p hne hp => hs.settled id p ((getElem?_setPort.trans (if_neg hne.symm)).symm.trans hp))
    (hs.long trackId port hport) (hsub trackId)
  have hlook : ∀ id : UInt32, (u.setPortState trackId .started).activePorts[id]? =
      if trackId = id then some (CameraPort.restarted port) else ctx.activePorts[id]? :=
    fun id => getElem?_turned hsame
  refine ⟨u.setPortState trackId .started, ?_, ⟨hready, fun id p hp => ?_, fun id p hp => ?_,
    fun id hid p hp => ?_⟩, hlook⟩
  · rw [resumeNext_eq_startStream, startStream, hport]
    simp only [startPort, turnPort, hpaused, reduceCtorEq, if_false, hu]
    rfl
  · change p.batchSize ≤ u.streamingActiveRequests.length
    rw [hlength]
    rw [hlook] at hp
    split at hp
    · obtain rfl := Option.some.inj hp
      exact hs.long trackId port hport
    · exact hs.long id p hp
  · rw [hlook] at hp
    split at hp
    · obtain rfl := Option.some.inj hp
      exact ⟨by simp [CameraPort.restarted], by simp [CameraPort.restarted]⟩
    · exact hs.settled id p hp
  · rw [hlook, if_neg] at hp
    · exact hs.paused id (List.mem_cons_of_mem _ hid) p hp
    · rintro rfl
      exact hnew hid

/-- By induction on the ports that are still to start. -/
theorem foldlM_resumeNext {ids : List UInt32} {sub : UInt32 → Submitted} (hnodup : ids.Nodup)
    (hs : ctx.Resumable ids) (hsub : ∀ id, 0 ≤ (sub id).requestId) :
    ∃ u, ids.foldlM (resumeNext false sub fun _ => true) ctx = .ok u ∧
      ∀ id : UInt32, u.activePorts[id]? =
        if id ∈ ids then (ctx.activePorts[id]?).map CameraPort.restarted
        else ctx.activePorts[id]? := by
  induction ids generalizing ctx with
  | nil => exact ⟨ctx, rfl, by simp⟩
  | cons trackId ids ih =>
    obtain ⟨hnew, hrest⟩ := List.nodup_cons.mp hnodup
    rw [List.foldlM_cons]
    cases hport : ctx.activePorts[trackId]? with
    | none =>
      have hnext : ctx.resumeNext false sub (fun _ => true) trackId = .ok ctx := by
        rw [resumeNext, hport]
      have hs' : ctx.Resumable ids := ⟨hs.ready, hs.long, hs.settled,
        fun id hid => hs.paused id (List.mem_cons_of_mem _ hid)⟩
      obtain ⟨u, hu, hlook⟩ := ih hrest hs'
      refine ⟨u, bind_eq_ok_iff.mpr ⟨ctx, hnext, hu⟩, fun id => ?_⟩
      rw [hlook]
      by_cases heq : id = trackId
      · simp [heq, hport]
      · simp [heq]
    | some port =>
      obtain ⟨v, hnext, hready, hports⟩ := hs.next hnew hport hsub
      obtain ⟨u, hu, hlook⟩ := ih hrest hready
      refine ⟨u, bind_eq_ok_iff.mpr ⟨v, hnext, hu⟩, fun id => ?_⟩
      rw [hlook, hports]
      by_cases heq : trackId = id
      · subst heq
        simp [hnew, hport]
      · simp [heq, Ne.symm heq]

/-- Started ports are interrupted in a way that lets them all start again. -/
theorem Orderly.resumable {ids : List UInt32} (hs : ctx.Orderly)
    (hfirst : idsAt ctx.streamingActiveRequests 0 ≠ [])
    (hall : ctx.AllStarted ctx.activePorts.keys) : ctx.interrupted.Resumable ids := by
  have hlook : ∀ (id : UInt32) (p : CameraPort), ctx.interrupted.activePorts[id]? = some p →
      ∃ q, ctx.activePorts[id]? = some q ∧ p = q.setState .paused := by
    intro id p hp
    rw [getElem?_interrupted] at hp
    obtain ⟨q, hq, rfl⟩ := Option.map_eq_some_iff.mp hp
    exact ⟨q, hq, rfl⟩
  obtain ⟨hsome, hmeta⟩ := hs.live (.inl hfirst)
  obtain ⟨r₀, rest, hcons⟩ := List.exists_cons_of_ne_nil hsome
  have hrequests : ctx.interrupted.streamingActiveRequests = { r₀ with streamIds := [] } :: rest := by
    simp only [CameraContext.interrupted, hcons, List.modifyHead_cons]
  refine ⟨?_, fun id p hp => ?_, fun id p hp => ?_, fun id _ p hp => ?_⟩
  · rw [hrequests]
    rw [hcons] at hmeta
    refine ⟨by simp, fun r hr => hs.full r (by rw [hcons]; exact hr), fun r hr => ?_⟩
    obtain rfl | hr := List.mem_cons.mp hr
    · exact hmeta r₀ (by simp)
    · exact hmeta r (List.mem_cons_of_mem _ hr)
  · obtain ⟨q, hq, rfl⟩ := hlook id p hp
    obtain ⟨-, hlisted⟩ := hs.listed id q hq (.inl (hall id (mem_keys hq) q hq))
    rw [hrequests, List.length_cons]
    change q.batchSize ≤ rest.length + 1
    by_contra hlong
    have hmem := hlisted (rest.length + 1) (Nat.not_le.mp hlong) (Nat.succ_pos _)
    rw [hcons, idsAt, List.getElem?_eq_none (by simp)] at hmem
    simp at hmem
  · obtain ⟨q, -, rfl⟩ := hlook id p hp
    exact ⟨by simp [CameraPort.setState], by simp [CameraPort.setState]⟩
  · obtain ⟨q, -, rfl⟩ := hlook id p hp
    rfl

/-- A turn of the loop of `ResumeActiveStreams` ends with the port started. -/
theorem resumeNext_ok (h : ctx.resumeNext false sub flush trackId = .ok u) :
    (∀ id, trackId ≠ id → u.activePorts[id]? = ctx.activePorts[id]?) ∧
      ∀ port, u.activePorts[trackId]? = some port → port.portState = .started := by
  unfold resumeNext at h
  split at h
  next hnone =>
    obtain rfl := Except.ok.inj h
    exact ⟨fun _ _ => rfl, by simp [hnone]⟩
  next port hport =>
    simp only [Bool.false_eq_true, if_false] at h
    obtain ⟨⟨st, v⟩, hv, h⟩ := bind_eq_ok_iff.mp h
    obtain rfl := Except.ok.inj h
    obtain ⟨-, ⟨hdone, rfl⟩ | ⟨-, w, hw, rfl⟩⟩ := turnPort_ok (asserted_ok hv).2
    · refine ⟨fun _ _ => rfl, fun p hp => ?_⟩
      rw [hport] at hp
      exact Option.some.inj hp ▸ hdone
    · have hlook : ∀ id, (w.setPortState trackId .started).activePorts[id]? = _ :=
        fun id => getElem?_turned (updateRequest_same hw).2
      refine ⟨fun id hne => by rw [hlook, if_neg hne], fun p hp => ?_⟩
      rw [hlook, if_pos rfl] at hp
      exact Option.some.inj hp ▸ rfl

/-- By induction on the ports that the loop has still to start. -/
theorem allStarted_resumeNext {ids : List UInt32} (hnodup : ids.Nodup)
    (h : ids.foldlM (resumeNext false sub flush) ctx = .ok u) :
    u.AllStarted ids ∧ ∀ id ∉ ids, u.activePorts[id]? = ctx.activePorts[id]? := by
  induction ids generalizing ctx with
  | nil =>
    obtain rfl := Except.ok.inj h
    exact ⟨by simp [AllStarted], fun _ _ => rfl⟩
  | cons trackId ids ih =>
    obtain ⟨hnew, hrest⟩ := List.nodup_cons.mp hnodup
    rw [List.foldlM_cons] at h
    obtain ⟨v, hv, h⟩ := bind_eq_ok_iff.mp h
    obtain ⟨hothers, hstarted⟩ := resumeNext_ok hv
    obtain ⟨hall, hsame⟩ := ih hrest h
    refine ⟨fun id hid p hp => ?_, fun id hid => ?_⟩
    · obtain rfl | hid := List.mem_cons.mp hid
      · rw [hsame id hnew] at hp
        exact hstarted p hp
      · exact hall id hid p hp
    · rw [hsame id (fun h => hid (List.mem_cons_of_mem _ h)),
        hothers id (fun h => hid (h ▸ List.mem_cons_self))]

/-- Ports that are started stay as they are. -/
theorem foldlM_resumeNext_of_started {ids : List UInt32} (hall : ctx.AllStarted ids) :
    ids.foldlM (resumeNext false sub flush) ctx = .ok ctx := by
  induction ids with
  | nil => rfl
  | cons trackId ids ih =>
    have hnext : ctx.resumeNext false sub flush trackId = .ok ctx := by
      cases hport : ctx.activePorts[trackId]? with
      | none => rw [resumeNext, hport]
      | some port =>
        have hstate := hall trackId (by simp) port hport
        rw [resumeNext_eq_startStream, startStream, hport]
        simp only [startPort, turnPort, hstate, if_true]
        rfl
    rw [List.foldlM_cons]
    exact bind_eq_ok_iff.mpr ⟨ctx, hnext, ih fun id hid => hall id (List.mem_cons_of_mem _ hid)⟩

/-- The pair finds nothing to do, or all ports started: where it stops them itself, a stream has to be
in the first request for the resume to see it. -/
def Reversible (ctx : CameraContext) : Prop :=
  if ctx.Quiet then ctx.stoppedStreamIds.isEmpty ∨ ctx.AllStarted ctx.activePorts.keys
  else ctx.AllStarted ctx.activePorts.keys ∧
    (ctx.activePorts.isEmpty ∨ idsAt ctx.streamingActiveRequests 0 ≠ [])

/-- `PauseActiveStreams` then `ResumeActiveStreams`, with every request to the device granted. -/
def pauseAndResume (ctx : CameraContext) (submitted : UInt32 → Submitted) :
    Except Recorder.Abort CameraContext := do
  let (_, ctx) ← ctx.pauseActiveStreams true
  let (_, ctx) ← ctx.resumeActiveStreams false submitted fun _ => true
  .ok ctx

/-- The pair when there is nothing to pause. -/
theorem pauseAndResume_of_quiet (hquiet : ctx.Quiet) :
    (∃ u, pauseAndResume ctx sub = .ok u ∧ u.activePorts = ctx.activePorts) ↔
      ctx.stoppedStreamIds.isEmpty ∨ ctx.AllStarted ctx.activePorts.keys := by
  have hpair : pauseAndResume ctx sub =
      (ctx.resumeActiveStreams false sub fun _ => true).map Prod.snd := by
    rw [pauseAndResume, pauseActiveStreams_of_quiet hquiet]
    change (ctx.resumeActiveStreams false sub fun _ => true) >>= _ = _
    cases ctx.resumeActiveStreams false sub fun _ => true <;> rfl
  rw [hpair]
  by_cases hempty : ctx.stoppedStreamIds.isEmpty
  · refine iff_of_true ⟨{ ctx with portPaused := false }, ?_, rfl⟩ (.inl hempty)
    rw [resumeActiveStreams, if_pos hempty]
    rfl
  · rw [or_iff_right hempty, resumeActiveStreams, if_neg hempty]
    constructor
    · rintro ⟨u, hu, hports⟩
      cases hloop : ctx.activePorts.keys.foldlM (resumeNext false sub fun _ => true) ctx with
      | error e => simp [hloop, bind, Except.bind, Except.map] at hu
      | ok v =>
        rw [hloop] at hu
        obtain rfl := Except.ok.inj hu
        intro id hid p hp
        exact (allStarted_resumeNext nodup_keys hloop).1 id hid p (hports ▸ hp)
    · intro hall
      refine ⟨{ ctx with stoppedStreamIds := ∅, portPaused := false }, ?_, rfl⟩
      rw [foldlM_resumeNext_of_started hall]
      rfl

/-- The pair when it stops the streams itself. -/
theorem Orderly.pauseAndResume (hs : ctx.Orderly) (hrested : ctx.Rested) (hactive : ¬ ctx.Quiet)
    (hsub : ∀ id, 0 ≤ (sub id).requestId) :
    (∃ u, CameraContext.pauseAndResume ctx sub = .ok u ∧ u.activePorts = ctx.activePorts) ↔
      ctx.AllStarted ctx.activePorts.keys ∧
        (ctx.activePorts.isEmpty ∨ idsAt ctx.streamingActiveRequests 0 ≠ []) := by
  have hnone : ctx.stoppedStreamIds.isEmpty := hrested.resolve_right fun h => hactive (.inr h)
  obtain ⟨hpause, hfail⟩ := pauseActiveStreams_of_active ctx hactive
  by_cases hall : ctx.AllStarted ctx.activePorts.keys
  swap
  · refine iff_of_false ?_ fun h => hall h.1
    rintro ⟨u, hu, -⟩
    obtain ⟨r, hr, -⟩ := bind_eq_ok_iff.mp hu
    simp [hfail hall] at hr
  rw [and_iff_right hall]
  have hpair : CameraContext.pauseAndResume ctx sub =
      (ctx.interrupted.resumeActiveStreams false sub fun _ => true).map Prod.snd := by
    rw [CameraContext.pauseAndResume, hpause hall hnone]
    change (ctx.interrupted.resumeActiveStreams false sub fun _ => true) >>= _ = _
    cases ctx.interrupted.resumeActiveStreams false sub fun _ => true <;> rfl
  rw [hpair, CameraContext.resumeActiveStreams]
  by_cases hfirst : idsAt ctx.streamingActiveRequests 0 = []
  · rw [if_pos (stopped_interrupted.mpr hfirst), or_iff_left fun h => h hfirst]
    constructor
    · rintro ⟨u, hu, hports⟩
      obtain rfl := Except.ok.inj hu
      rw [Std.ExtTreeMap.isEmpty_iff]
      refine Std.ExtTreeMap.ext_getElem? fun id => ?_
      cases hport : ctx.activePorts[id]? with
      | none => simp
      | some port =>
        -- it is paused, and was started
        have hpaused : ctx.activePorts[id]? = some (port.setState .paused) := by
          rw [← hports]
          exact getElem?_interrupted.trans (by rw [hport]; rfl)
        have hstate := hall id (mem_keys hport) port hport
        have hboth := hall id (mem_keys hport) _ hpaused
        simp [CameraPort.setState] at hboth
    · intro hempty
      refine ⟨_, rfl, ?_⟩
      refine Std.ExtTreeMap.ext_getElem? fun id => ?_
      change ctx.interrupted.activePorts[id]? = _
      rw [getElem?_interrupted, Std.ExtTreeMap.isEmpty_iff.mp hempty]
      simp
  · rw [if_neg fun h => hfirst (stopped_interrupted.mp h)]
    refine iff_of_true ?_ (.inr hfirst)
    obtain ⟨u, hu, hports⟩ := foldlM_resumeNext nodup_keys (hs.resumable hfirst hall) hsub
    refine ⟨{ u with stoppedStreamIds := ∅, portPaused := false }, ?_, ?_⟩
    · rw [hu]
      rfl
    refine Std.ExtTreeMap.ext_getElem? fun id => ?_
    change u.activePorts[id]? = _
    rw [hports, getElem?_interrupted]
    cases hport : ctx.activePorts[id]? with
    | none => simp
    | some port =>
      have hpaused : ctx.interrupted.activePorts[id]? = some (port.setState .paused) := by
        rw [getElem?_interrupted, hport]
        rfl
      have hstate := hall id (mem_keys hport) port hport
      have hready := (hs.listed id port hport (.inl hstate)).1
      rw [if_pos (mem_keys hpaused)]
      simp only [Option.map_some, CameraPort.restarted, CameraPort.setState]
      rw [← hstate, ← hready]

end CameraContext

namespace SnapshotContext

open CameraContext

variable {c c' : SnapshotContext} {param : SnapshotParam} {p : CameraStreamParameters}
  {d : Configuration} {answers : CaptureAnswers} {st : Status} {flushed deleted configured created : Bool}
  {stateOnly : Bool} {metadata : List RequestMetadata} {numImages : Nat} {a : SnapshotAction}
  {as : List SnapshotAction} {config : CameraConfig} {staticMeta : StaticMeta}

/-- Between two calls the streams are in order, and wait only while they are paused. -/
def Steady (c : SnapshotContext) : Prop := c.streams.Orderly ∧ c.streams.Rested

/-- What the snapshots write of the streams' context. -/
theorem Steady.congr (hs : c.Steady) (hports : c'.streams.activePorts = c.streams.activePorts)
    (hrequests : c'.streams.streamingActiveRequests = c.streams.streamingActiveRequests)
    (hstopped : c'.streams.stoppedStreamIds = c.streams.stoppedStreamIds)
    (hpaused : c'.streams.portPaused = c.streams.portPaused)
    (hnext : c.streams.nextStreamId ≤ c'.streams.nextStreamId) : c'.Steady := by
  refine ⟨hs.1.congr hports hrequests hstopped hnext, ?_⟩
  unfold Rested
  rw [hstopped, hpaused]
  exact hs.2

theorem Steady.stream {a : Action} {streams : CameraContext} (hs : c.Steady)
    (htags : ∀ metadata submitted, a = .setCameraParam metadata submitted → ¬ metadata.isEmpty)
    (h : StreamRun.call c.streams a = .ok (st, streams)) : { c with streams := streams }.Steady :=
  ⟨hs.1.call htags h, hs.2.call h⟩

theorem Steady.pauseActiveStreams (hs : c.Steady) (h : c.pauseActiveStreams flushed = .ok c') :
    c'.Steady := by
  obtain ⟨⟨st, streams⟩, hu, h⟩ := bind_eq_ok_iff.mp h
  obtain rfl := Except.ok.inj h
  exact hs.stream (a := .pauseActiveStreams flushed) (by simp) hu

theorem Steady.resumeActiveStreams (hs : c.streams.Orderly)
    (h : c.resumeActiveStreams stateOnly answers = .ok c') : c'.Steady := by
  obtain ⟨⟨st, streams⟩, hu, h⟩ := bind_eq_ok_iff.mp h
  obtain rfl := Except.ok.inj h
  exact hs.resumeActiveStreams hu

theorem Steady.deleteSnapshotStream (hs : c.Steady) (h : c.deleteSnapshotStream deleted = .ok c') :
    c'.Steady := by
  unfold SnapshotContext.deleteSnapshotStream at h
  split at h
  · simp at h
  · obtain rfl := Except.ok.inj h
    exact hs.congr rfl rfl rfl rfl (Int.le_refl _)

theorem Steady.addSnapshotStream (hs : c.Steady)
    (h : c.addSnapshotStream p configured created = .ok (st, c')) : c'.Steady := by
  obtain ⟨-, -, rfl⟩ | ⟨-, -, rfl⟩ := addSnapshotStream_ok h
  · exact hs
  · exact hs.congr rfl rfl rfl rfl (Int.le_add_one (Int.le_refl _))

theorem Steady.mainSnapshotStream (hs : c.Steady) (h : c.mainSnapshotStream p d = .ok (st, c')) :
    c'.Steady := by
  unfold SnapshotContext.mainSnapshotStream at h
  split at h
  · obtain ⟨u, hu, h⟩ := bind_eq_ok_iff.mp h
    have hpaused := hs.pauseActiveStreams hu
    split at h
    · exact hpaused.addSnapshotStream h
    · obtain ⟨v, hv, h⟩ := bind_eq_ok_iff.mp h
      exact (hpaused.deleteSnapshotStream hv).addSnapshotStream h
    · obtain ⟨-, rfl⟩ := Prod.mk.inj (Except.ok.inj h)
      exact hpaused
  · obtain ⟨-, rfl⟩ := Prod.mk.inj (Except.ok.inj h)
    exact hs

theorem Steady.setUpCapture (hs : c.Steady) (h : c.setUpCapture param d = .ok (st, c')) :
    c'.Steady := by
  have hremember : (c.remember param).Steady := hs.congr rfl rfl rfl rfl (Int.le_refl _)
  obtain ⟨-, -, rfl⟩ | ⟨-, -, -, rfl⟩ | ⟨-, -, u, hu, rfl⟩ := setUpCapture_ok h
  · exact hremember
  · exact hremember
  · have hcreated : u.Steady := by
      obtain ⟨ret, -, -, hmain⟩ | ⟨v, hmain, ⟨-, -, rfl⟩ | ⟨-, -, -, rfl⟩ | ⟨-, -, -, rfl⟩⟩ :=
        createSnapshotStream_ok hu
      · exact hremember.mainSnapshotStream hmain
      · exact hremember.mainSnapshotStream hmain
      · exact hremember.mainSnapshotStream hmain
      · exact (hremember.mainSnapshotStream hmain).congr rfl rfl rfl rfl
          (Int.le_add_one (Int.le_refl _))
    split <;> exact hcreated

/-- The streams that wait go back into the request that they were taken from. -/
theorem orderly_activeStreams {streams streams' : CameraContext} {active : List Int}
    (hs : streams.Orderly) (h : activeStreams streams = .ok (active, streams')) :
    streams'.Orderly := by
  unfold activeStreams at h
  split at h
  next r hone =>
    split at h
    next =>
      split at h
      next =>
        obtain ⟨-, rfl⟩ := Prod.mk.inj (Except.ok.inj h)
        have hsame : ∀ i > 0, idsAt [{ r with streamIds := streams.stoppedStreamIds.toList }] i =
            idsAt streams.streamingActiveRequests i := by
          intro i hi
          obtain ⟨j, rfl⟩ := Nat.exists_eq_succ_of_ne_zero hi.ne'
          rw [idsAt_succ, idsAt_succ, hone]
          rfl
        refine ⟨⟨hs.ids.range, hs.ids.distinct, hs.ids.nonneg⟩, hs.settled, fun id p hp hstate => ?_,
          fun r' hr' => ?_, by simp, by simp, fun hlive => ⟨by simp, fun r' hr' => ?_⟩⟩
        · obtain ⟨hready, hmem⟩ := hs.listed id p hp hstate
          exact ⟨hready, fun i hi hpos => hsame i hpos ▸ hmem i hi hpos⟩
        · rw [List.mem_singleton.mp hr']
          exact Std.ExtTreeSet.distinct_toList.imp fun h heq => h (Std.compare_eq_iff_eq.mpr heq)
        · have hstopped : ¬ streams.stoppedStreamIds.isEmpty := by
            obtain hfirst | hstopped := hlive
            · simpa [idsAt] using hfirst
            · exact hstopped
          rw [List.mem_singleton.mp hr']
          exact (hs.live (.inr hstopped)).2 r (by simp [hone])
      next => simp at h
    next =>
      obtain ⟨-, rfl⟩ := Prod.mk.inj (Except.ok.inj h)
      exact hs
  next =>
    obtain ⟨-, rfl⟩ := Prod.mk.inj (Except.ok.inj h)
    exact hs

theorem orderly_nextImage {l l' : CaptureLoop} (hs : l.ctx.streams.Orderly)
    (h : nextImage l = .ok l') : l'.ctx.streams.Orderly := by
  obtain ⟨⟨active, streams⟩, hactive, h⟩ := bind_eq_ok_iff.mp h
  obtain rfl := Except.ok.inj h
  unfold imageStreams at hactive
  split at hactive
  · exact orderly_activeStreams hs hactive
  · obtain ⟨-, rfl⟩ := Prod.mk.inj (Except.ok.inj hactive)
    exact hs

theorem Steady.captureImage (hs : c.Steady)
    (h : c.captureImage numImages metadata answers = .ok (st, c')) : c'.Steady := by
  unfold SnapshotContext.captureImage at h
  split at h
  · obtain ⟨-, rfl⟩ := Prod.mk.inj (Except.ok.inj h)
    exact hs
  split at h
  · obtain ⟨-, rfl⟩ := Prod.mk.inj (Except.ok.inj h)
    exact hs
  obtain ⟨l, hl, h⟩ := bind_eq_ok_iff.mp h
  obtain ⟨u, hu, h⟩ := bind_eq_ok_iff.mp h
  obtain ⟨v, hv, h⟩ := bind_eq_ok_iff.mp h
  obtain ⟨-, rfl⟩ := Prod.mk.inj (Except.ok.inj h)
  have hloop : l.ctx.streams.Orderly := foldlM_inv (I := fun l => l.ctx.streams.Orderly) hs.1
    (fun _ _ _ _ hs hnext => orderly_nextImage hs hnext) hl
  have hsubmit : u.streams.Orderly := by
    unfold submitCapture at hu
    split at hu
    · simp at hu
    · obtain rfl := Except.ok.inj hu
      dsimp only
      split <;> exact hloop.congr rfl rfl rfl (Int.le_refl _)
  exact Steady.resumeActiveStreams hsubmit hv

theorem Steady.cancelCaptureImage (hs : c.Steady)
    (h : c.cancelCaptureImage d answers = .ok (st, c')) : c'.Steady := by
  unfold SnapshotContext.cancelCaptureImage at h
  split at h
  · obtain ⟨-, rfl⟩ := Prod.mk.inj (Except.ok.inj h)
    exact hs
  obtain ⟨u, hu, h⟩ := bind_eq_ok_iff.mp h
  obtain ⟨v, hv, h⟩ := bind_eq_ok_iff.mp h
  obtain ⟨w, hw, h⟩ := bind_eq_ok_iff.mp h
  obtain ⟨-, rfl⟩ := Prod.mk.inj (Except.ok.inj h)
  have hpaused : u.Steady := Steady.pauseActiveStreams
    (c := { c with continuousModeIsOn := false }) hs hu
  exact Steady.resumeActiveStreams (hpaused.deleteSnapshotStream hv).1 hw

theorem Steady.configImageCapture {config : ImageConfigParam} (hs : c.Steady) :
    (c.configImageCapture config).2.Steady := by
  unfold SnapshotContext.configImageCapture
  split
  · exact hs
  dsimp only
  split
  · exact hs
  split
  · split <;> exact hs
  · exact hs

/-- The tags of the requests are changed to others, not taken away. -/
def KeepsTags : SnapshotAction → Prop
  | .stream (.setCameraParam metadata _) => ¬ metadata.isEmpty
  | _ => True

instance : DecidablePred KeepsTags := fun a => by
  unfold KeepsTags
  split <;> infer_instance

theorem steady_init : (init config staticMeta).Steady :=
  ⟨⟨⟨by simp [init], by simp [init], Int.le_refl 0⟩, by simp [init], by simp [init], by simp [init],
    by simp [init], by simp [init], by simp [init, idsAt]⟩, .inl (by simp [init])⟩

theorem steady_step (hs : c.Steady) (htags : KeepsTags a) (h : c.step a = some c') : c'.Steady := by
  unfold step at h
  split at h
  · split at h
    next st u hcall =>
      obtain rfl := Option.some.inj h
      cases a with
      | configImageCapture config =>
        have heq : (c.configImageCapture config).2 = u := congrArg Prod.snd (Except.ok.inj hcall)
        exact heq ▸ hs.configImageCapture
      | setUpCapture param d => exact hs.setUpCapture hcall
      | captureImage numImages metadata answers => exact hs.captureImage hcall
      | cancelCaptureImage d answers => exact hs.cancelCaptureImage hcall
      | stream a =>
        obtain ⟨⟨ret, streams⟩, hstream, hcall⟩ := bind_eq_ok_iff.mp hcall
        obtain ⟨-, rfl⟩ := Prod.mk.inj (Except.ok.inj hcall)
        refine hs.stream ?_ hstream
        rintro metadata submitted rfl
        exact htags
    next => simp at h
  · simp at h

/-- The calls for streams and snapshots, the repeating requests with tags all along. -/
def tagged : LTS SnapshotContext SnapshotAction := lts.guarded fun _ a => KeepsTags a

theorem steady_run (h : tagged.MTr (init config staticMeta) as c) : c.Steady :=
  LTS.inv_of_mTr (L := tagged) (P := Steady) (fun _ _ _ hstep hs => steady_step hs hstep.2 hstep.1) h
    steady_init

/-- In whatever state streams and snapshots are, the pair succeeds and leaves every port as it was if
and only if the state is such that it can. -/
theorem pauseAndResume_iff {submitted : UInt32 → Submitted}
    (hrun : tagged.MTr (init config staticMeta) as c)
    (hsubmitted : ∀ id, 0 ≤ (submitted id).requestId) :
    (∃ u, CameraContext.pauseAndResume c.streams submitted = .ok u ∧
      u.activePorts = c.streams.activePorts) ↔ c.streams.Reversible := by
  obtain ⟨hs, hrested⟩ := steady_run hrun
  unfold Reversible
  split
  next hquiet => exact pauseAndResume_of_quiet hquiet
  next hactive => exact hs.pauseAndResume hrested hactive hsubmitted

open StreamRun (hfrConfig hfrStream plainStream deviceAnswer)

/-- Two streams of which one is started: the pause stops at the port of the other. -/
theorem pause_with_created_port :
    let as : List SnapshotAction := [.stream (.createStream hfrStream deviceAnswer),
      .stream (.createStream plainStream deviceAnswer),
      .stream (.startStream 1 { requestId := 0 } true)]
    ∃ c, tagged.MTr (init hfrConfig smallMeta) as c ∧
      (CameraContext.pauseAndResume c.streams fun _ => { requestId := 1 }).map (fun _ => ()) =
        .error .assertion := by
  intro as
  have hsome : (LTS.run step (init hfrConfig smallMeta) as).isSome := by decide +kernel
  obtain ⟨c, hc⟩ := Option.isSome_iff_exists.mp hsome
  have hpause : ∀ u ∈ LTS.run step (init hfrConfig smallMeta) as,
      (CameraContext.pauseAndResume u.streams fun _ => { requestId := 1 }).map (fun _ => ()) =
        .error .assertion := by
    decide +kernel
  exact ⟨c, LTS.mTr_guarded_iff.mpr ⟨hc, by decide +kernel⟩, hpause c hc⟩

/-- What the device answers to a snapshot. -/
def snapshotAnswers (id : Int) : CaptureAnswers where
  submitted := { requestId := id }
  resumed _ := { requestId := id + 1 }
  flushed _ := true

/-- Both streams started, a batch among them, and a snapshot taken since. -/
theorem pause_and_resume_started :
    let as : List SnapshotAction := [.stream (.createStream hfrStream deviceAnswer),
      .stream (.createStream plainStream deviceAnswer),
      .stream (.startStream 1 { requestId := 0 } true),
      .stream (.startStream 2 { requestId := 1 } true), .setUpCapture smallParam {},
      .captureImage 2 [] (snapshotAnswers 2)]
    ∃ c, tagged.MTr (init hfrConfig smallMeta) as c ∧ c.streams.activePorts.size = 2 ∧
      c.streams.captureRequestId = 2 ∧
      ∃ u, CameraContext.pauseAndResume c.streams (fun _ => { requestId := 4 }) = .ok u ∧
        u.activePorts = c.streams.activePorts := by
  intro as
  have hsome : (LTS.run step (init hfrConfig smallMeta) as).isSome := by decide +kernel
  obtain ⟨c, hc⟩ := Option.isSome_iff_exists.mp hsome
  have hfacts : ∀ u ∈ LTS.run step (init hfrConfig smallMeta) as,
      u.streams.activePorts.size = 2 ∧ u.streams.captureRequestId = 2 ∧ ¬ u.streams.Quiet ∧
      u.streams.activePorts.toList.all (fun it => it.2.portState = .started) ∧
      idsAt u.streams.streamingActiveRequests 0 ≠ [] := by decide +kernel
  obtain ⟨hsize, hcapture, hactive, hstarted, hfirst⟩ := hfacts c hc
  have hrun : tagged.MTr (init hfrConfig smallMeta) as c :=
    LTS.mTr_guarded_iff.mpr ⟨hc, by decide +kernel⟩
  refine ⟨c, hrun, hsize, hcapture, (pauseAndResume_iff hrun fun _ => by decide).mpr ?_⟩
  rw [Reversible, if_neg hactive]
  refine ⟨fun id _ port hport => ?_, .inr hfirst⟩
  have hmem := Std.ExtTreeMap.mem_toList_iff_getElem?_eq_some.mpr hport
  simpa using List.all_eq_true.mp hstarted _ hmem

end SnapshotContext

end QmmfSdk.Streams
