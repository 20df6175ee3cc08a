import Mathlib.Data.List.TakeWhile
import QmmfSdk.Streams.Context

/-! What one `UpdateRequest` does to the streaming requests, while one port is on its way. -/
namespace QmmfSdk.Streams

open Library (OrdMap bind_eq_ok_iff)
open Recorder (Status Abort)

variable {requests requests' : List Camera3Request} {r : Camera3Request} {i batch : Nat}
  {x streamId : Int} {port : CameraPort} {s scan : PortScan}

/-- The streams of one position; beyond the end there is none. -/
def idsAt (requests : List Camera3Request) (i : Nat) : List Int :=
  (requests[i]?.map Camera3Request.streamIds).getD []

theorem idsAt_of_getElem? (h : requests[i]? = some r) : idsAt requests i = r.streamIds := by
  rw [idsAt, h]
  rfl

theorem idsAt_map {f : Camera3Request → Camera3Request} (hf : ∀ r, (f r).streamIds = r.streamIds) :
    idsAt (requests.map f) i = idsAt requests i := by
  rw [idsAt, idsAt, List.getElem?_map]
  cases requests[i]? with
  | none => rfl
  | some r => simp [hf]

namespace Camera3Request

@[simp] theorem mem_addStream : x ∈ (r.addStream streamId).streamIds ↔ x ∈ r.streamIds ∨ x = streamId := by
  unfold addStream
  split
  next h =>
    refine ⟨.inl, ?_⟩
    rintro (hx | rfl)
    · exact hx
    · exact h
  next => simp

@[simp] theorem metadata_addStream : (r.addStream streamId).metadata = r.metadata := by
  unfold addStream
  split <;> rfl

theorem nodup_addStream (h : r.streamIds.Nodup) : (r.addStream streamId).streamIds.Nodup := by
  unfold addStream
  split
  next => exact h
  next hnew =>
    refine List.nodup_append.mpr ⟨h, by simp, ?_⟩
    rintro y hy z hz rfl
    exact hnew (List.mem_singleton.mp hz ▸ hy)

theorem mem_removeStream (h : r.streamIds.Nodup) :
    x ∈ (r.removeStream streamId).streamIds ↔ x ∈ r.streamIds ∧ x ≠ streamId := by
  rw [removeStream, List.Nodup.mem_erase_iff h, and_comm]

/-- A frame rate makes two requests alike that differ in its own tags only. -/
theorem setFrameRate_congr {r' : Camera3Request} {fps : Int}
    (h : ∀ tag, tag ≠ aeTargetFpsRange → tag ≠ sensorFrameDuration →
      r.metadata[tag]? = r'.metadata[tag]?) :
    (r.setFrameRate fps).metadata = (r'.setFrameRate fps).metadata := by
  apply Std.ExtTreeMap.ext_getElem?
  intro tag
  simp only [setFrameRate, Std.ExtTreeMap.getElem?_insert]
  split
  · rfl
  next hduration =>
  split
  · rfl
  next hrange =>
    rw [Std.LawfulEqCmp.compare_eq_iff_eq] at hduration hrange
    exact h tag (Ne.symm hrange) (Ne.symm hduration)

theorem setFrameRate_ne_empty {fps : Int} : (r.setFrameRate fps).metadata.isEmpty = false := by
  simp [setFrameRate]

end Camera3Request

/-- Only empty requests are stale, and after the first request none stays. -/
theorem eraseStale_ok (h : eraseStale requests = .ok requests') :
    requests' <+: requests ∧ (∀ i, idsAt requests' i = idsAt requests i) ∧
      requests'.head? = requests.head? ∧ ∀ r ∈ requests'.tail, r.streamIds ≠ [] := by
  cases requests with
  | nil =>
    obtain rfl := Except.ok.inj h
    exact ⟨List.prefix_refl _, fun _ => rfl, rfl, by simp⟩
  | cons r rest =>
    rw [eraseStale] at h
    split at h
    next hempty =>
      obtain rfl := Except.ok.inj h
      have hsplit := List.takeWhile_append_dropWhile (p := (!·.streamIds.isEmpty)) (l := rest)
      refine ⟨?_, fun i => ?_, rfl, fun r hr => ?_⟩
      · rw [List.prefix_cons_inj]
        exact List.takeWhile_prefix _
      · generalize rest.takeWhile (!·.streamIds.isEmpty) = live at hsplit ⊢
        generalize rest.dropWhile (!·.streamIds.isEmpty) = stale at hsplit hempty
        subst hsplit
        rw [← List.cons_append, idsAt, idsAt]
        by_cases hi : i < (r :: live).length
        · rw [List.getElem?_append_left hi]
        · rw [List.getElem?_append_right (by omega), List.getElem?_eq_none (by omega)]
          cases hget : stale[i - (r :: live).length]? with
          | none => rfl
          | some e =>
            have he := List.all_eq_true.mp hempty e (List.mem_of_getElem? hget)
            simpa using (List.isEmpty_iff.mp he).symm
      · have hlive := List.mem_takeWhile_imp hr
        simpa using hlive
    next => simp at h

theorem idsAt_append_replicate {k : Nat} :
    idsAt (requests ++ List.replicate k ({} : Camera3Request)) i = idsAt requests i := by
  rw [idsAt, idsAt]
  by_cases hi : i < requests.length
  · rw [List.getElem?_append_left hi]
  · rw [List.getElem?_append_right (by omega), List.getElem?_eq_none (l := requests) (by omega)]
    cases hget : (List.replicate k ({} : Camera3Request))[i - requests.length]? with
    | none => rfl
    | some e =>
      obtain rfl := List.eq_of_mem_replicate (List.mem_of_getElem? hget)
      rfl

namespace PortScan

/-- The metadata of the first request. -/
def firstMetadata (requests : List Camera3Request) : RequestMetadata :=
  (requests.head?.map Camera3Request.metadata).getD ∅

theorem getElem?_fillBatch : (fillBatch batch streamId requests)[i]? = requests[i]?.map fun r =>
    if i < batch then
      if 1 < i ∧ r.metadata.isEmpty then
        { r.addStream streamId with metadata := firstMetadata requests }
      else r.addStream streamId
    else r := by
  rw [fillBatch, List.getElem?_mapIdx]
  simp only [Camera3Request.metadata_addStream, firstMetadata]

theorem mem_idsAt_fillBatch (hlength : batch ≤ requests.length) :
    x ∈ idsAt (fillBatch batch streamId requests) i ↔
      x ∈ idsAt requests i ∨ x = streamId ∧ i < batch := by
  rw [idsAt, idsAt, getElem?_fillBatch]
  cases hget : requests[i]? with
  | none =>
    have hi : ¬ i < batch := by
      have hle := List.getElem?_eq_none_iff.mp hget
      omega
    simp [hi]
  | some r =>
    simp only [Option.map_some, Option.getD_some]
    by_cases hi : i < batch
    · rw [if_pos hi]
      split <;> simp [hi]
    · simp [hi]

theorem forall_fillBatch_nodup (h : ∀ r ∈ requests, r.streamIds.Nodup) :
    ∀ r ∈ fillBatch batch streamId requests, r.streamIds.Nodup := by
  intro r hr
  obtain ⟨i, hi⟩ := List.mem_iff_getElem?.mp hr
  rw [getElem?_fillBatch] at hi
  obtain ⟨r', hget, rfl⟩ := Option.map_eq_some_iff.mp hi
  have hr' := h r' (List.mem_of_getElem? hget)
  split
  · split
    · exact Camera3Request.nodup_addStream hr'
    · exact Camera3Request.nodup_addStream hr'
  · exact hr'

/-- An addition makes new requests up to the batch size; the second one alone begins without
metadata. -/
theorem addPort_ok (h : s.addPort port = .ok scan) :
    (∀ i x, x ∈ idsAt scan.requests i ↔
      x ∈ idsAt s.requests i ∨ x = port.cameraStreamId ∧ i < port.batchSize) ∧
    ((∀ r ∈ s.requests, r.streamIds.Nodup) → ∀ r ∈ scan.requests, r.streamIds.Nodup) ∧
    (s.requests ≠ [] → firstMetadata scan.requests = firstMetadata s.requests ∧
      ∀ r ∈ scan.requests, (∃ r' ∈ s.requests, r.metadata = r'.metadata) ∨
        r.metadata = firstMetadata s.requests ∨
        r.metadata = ∅ ∧ s.requests.length ≤ 1 ∧ 1 < port.batchSize) := by
  unfold addPort at h
  dsimp only at h
  split at h
  next =>
    obtain rfl := Except.ok.inj h
    dsimp only
    refine ⟨fun i x => ?_, fun hnodup => ?_, fun hne => ?_⟩
    · rw [mem_idsAt_fillBatch, idsAt_append_replicate]
      rw [List.length_append, List.length_replicate]
      omega
    · refine forall_fillBatch_nodup fun r hr => ?_
      obtain hr | hr := List.mem_append.mp hr
      · exact hnodup r hr
      · obtain rfl := List.eq_of_mem_replicate hr
        exact List.nodup_nil
    · obtain ⟨r₀, rest, hrequests⟩ := List.exists_cons_of_ne_nil hne
      have hfirst : firstMetadata (s.requests ++
          List.replicate (port.batchSize - s.requests.length) ({} : Camera3Request)) =
          firstMetadata s.requests := by
        rw [hrequests]
        rfl
      constructor
      · rw [firstMetadata, List.head?_eq_getElem?, getElem?_fillBatch, hrequests]
        simp only [List.cons_append, List.getElem?_cons_zero, Option.map_some, Option.getD_some]
        split
        · simp [firstMetadata]
        · simp [firstMetadata]
      · intro r hr
        obtain ⟨i, hi⟩ := List.mem_iff_getElem?.mp hr
        rw [getElem?_fillBatch, hfirst] at hi
        obtain ⟨r', hget, rfl⟩ := Option.map_eq_some_iff.mp hi
        by_cases hi : i < s.requests.length
        · rw [List.getElem?_append_left hi] at hget
          have hmem := List.mem_of_getElem? hget
          split
          · split
            · exact .inr (.inl rfl)
            · exact .inl ⟨r', hmem, Camera3Request.metadata_addStream⟩
          · exact .inl ⟨r', hmem, rfl⟩
        · rw [List.getElem?_append_right (by omega)] at hget
          obtain ⟨hlt, -⟩ := List.getElem?_eq_some_iff.mp hget
          rw [List.length_replicate] at hlt
          obtain rfl := List.eq_of_mem_replicate (List.mem_of_getElem? hget)
          have hbatch : i < port.batchSize := by omega
          have hpos : 0 < s.requests.length := List.length_pos_iff.mpr hne
          rw [if_pos hbatch]
          split
          · exact .inr (.inl rfl)
          next hsecond =>
            have hone : ¬ 1 < i := fun hi' => hsecond ⟨hi', by simp⟩
            exact .inr (.inr ⟨Camera3Request.metadata_addStream, by omega, by omega⟩)
  next => simp at h

/-- A removal takes the stream out of every request. -/
theorem removePort_spec (s : PortScan) (port : CameraPort) (hnodup : ∀ r ∈ s.requests, r.streamIds.Nodup) :
    (∀ i x, x ∈ idsAt (s.removePort port).requests i ↔
      x ∈ idsAt s.requests i ∧ x ≠ port.cameraStreamId) ∧
    (∀ r ∈ (s.removePort port).requests, r.streamIds.Nodup) ∧
    (s.removePort port).requests.map Camera3Request.metadata =
      s.requests.map Camera3Request.metadata := by
  unfold removePort
  split
  next =>
    refine ⟨fun i x => ?_, fun r hr => ?_, ?_⟩
    · rw [idsAt, idsAt, List.getElem?_map]
      cases hget : s.requests[i]? with
      | none => simp
      | some r =>
        simp only [Option.map_some, Option.getD_some]
        exact Camera3Request.mem_removeStream (hnodup r (List.mem_of_getElem? hget))
    · obtain ⟨r', hr', rfl⟩ := List.mem_map.mp hr
      exact (hnodup r' hr').erase _
    · rw [List.map_map]
      rfl
  next hnone =>
    refine ⟨fun i x => ⟨fun hx => ⟨hx, ?_⟩, And.left⟩, hnodup, rfl⟩
    rintro rfl
    rw [idsAt] at hx
    cases hget : s.requests[i]? with
    | none => simp [hget] at hx
    | some r =>
      rw [hget] at hx
      exact hnone (List.any_eq_true.mpr ⟨r, List.mem_of_getElem? hget, by simpa using hx⟩)

/-- What a scan does to the requests does not depend on its other variables. -/
theorem scanPort_congr {s' : PortScan} (h : s.requests = s'.requests) :
    (s.scanPort port).map PortScan.requests = (s'.scanPort port).map PortScan.requests := by
  unfold scanPort
  cases port.portState with
  | readyToStart =>
    simp only [addPort, h]
    split <;> rfl
  | readyToStop =>
    simp only [removePort, h, Except.map]
    split
    · rfl
    · rw [h]
  | created | started | stopped | paused => simp only [Except.map, h]

end PortScan

namespace CameraPort

/-- The port is not on its way from one state to another. -/
def Settled (port : CameraPort) : Prop :=
  port.portState ≠ .readyToStart ∧ port.portState ≠ .readyToStop

end CameraPort

namespace PortScan

theorem scanPort_settled (h : port.Settled) :
    ∃ scan, s.scanPort port = .ok scan ∧ scan.requests = s.requests := by
  unfold scanPort
  cases hstate : port.portState with
  | readyToStart => exact absurd hstate h.1
  | readyToStop => exact absurd hstate h.2
  | created | started | stopped | paused => exact ⟨_, rfl, rfl⟩

theorem foldlM_settled {l : List (UInt32 × CameraPort)} (h : ∀ it ∈ l, it.2.Settled) :
    ∃ scan, l.foldlM (fun scan it => scanPort scan it.2) s = .ok scan ∧
      scan.requests = s.requests := by
  induction l generalizing s with
  | nil => exact ⟨s, rfl, rfl⟩
  | cons it l ih =>
    obtain ⟨u, hu, hsame⟩ := scanPort_settled (s := s) (h it (by simp))
    obtain ⟨scan, hscan, hrest⟩ := ih (s := u) fun it hit => h it (by simp [hit])
    refine ⟨scan, ?_, hrest.trans hsame⟩
    rw [List.foldlM_cons]
    exact bind_eq_ok_iff.mpr ⟨u, hu, hscan⟩

/-- Of all ports only the one on its way changes the requests. -/
theorem foldlM_one (s : PortScan) (it : UInt32 × CameraPort) {l₁ l₂ : List (UInt32 × CameraPort)}
    (h₁ : ∀ it ∈ l₁, it.2.Settled) (h₂ : ∀ it ∈ l₂, it.2.Settled) :
    ((l₁ ++ it :: l₂).foldlM (fun scan it => scanPort scan it.2) s).map PortScan.requests =
      (s.scanPort it.2).map PortScan.requests := by
  obtain ⟨u, hu, hsame⟩ := foldlM_settled (s := s) h₁
  rw [List.foldlM_append, hu]
  change ((it :: l₂).foldlM (fun scan it => scanPort scan it.2) u).map PortScan.requests = _
  rw [List.foldlM_cons, ← scanPort_congr hsame]
  cases hport : u.scanPort it.2 with
  | error e => rfl
  | ok v =>
    obtain ⟨scan, hscan, hrest⟩ := foldlM_settled (s := v) h₂
    change (l₂.foldlM (fun scan it => scanPort scan it.2) v).map PortScan.requests = _
    rw [hscan]
    simp only [Except.map, hrest]

end PortScan

namespace CameraContext

variable {ctx ctx' : CameraContext} {trackId : UInt32} {submitted : Submitted} {flushed : Bool}
  {st : Status}

/-- What an update leaves alone. -/
def SameStreams (ctx ctx' : CameraContext) : Prop :=
  ctx' = { ctx with
    streamingActiveRequests := ctx'.streamingActiveRequests
    streamingRequestId := ctx'.streamingRequestId
    captureRequestId := ctx'.captureRequestId
    lastFrameNumber := ctx'.lastFrameNumber
    lastFrameNumberMap := ctx'.lastFrameNumberMap
    removedStreamIds := ctx'.removedStreamIds }

theorem foldl_recordStream (removed : Std.ExtTreeSet Int) (last : Int) (l : List Int)
    (ctx : CameraContext) :
    ∃ map ids, l.foldl (recordStream removed last) ctx =
      { ctx with lastFrameNumberMap := map, removedStreamIds := ids } := by
  induction l generalizing ctx with
  | nil => exact ⟨_, _, rfl⟩
  | cons x l ih =>
    obtain ⟨map, ids, h⟩ := ih (recordStream removed last ctx x)
    exact ⟨map, ids, h⟩

theorem cancelRequest_ok (h : ctx.cancelRequest flushed = .ok (st, ctx')) : st = .noError ∧
    SameStreams ctx ctx' ∧ ctx'.streamingActiveRequests = ctx.streamingActiveRequests ∧
    ctx'.streamingRequestId < 0 ∧ ctx'.captureRequestId < 0 := by
  unfold cancelRequest at h
  split at h
  next hidle =>
    obtain ⟨rfl, rfl⟩ := Prod.mk.inj (Except.ok.inj h)
    exact ⟨rfl, rfl, rfl, hidle⟩
  next =>
  split at h
  next =>
    obtain ⟨rfl, rfl⟩ := Prod.mk.inj (Except.ok.inj h)
    exact ⟨rfl, rfl, rfl, Int.negSucc_lt_zero 0, Int.negSucc_lt_zero 0⟩
  next => simp at h

theorem ratedRequests_eq_map (maxFps : ℚ) (requests : List Camera3Request) :
    ∃ f, (f = id ∨ ∃ fps, f = Camera3Request.setFrameRate fps) ∧
      ratedRequests maxFps requests = requests.map f := by
  unfold ratedRequests
  split
  · exact ⟨_, .inr ⟨_, rfl⟩, rfl⟩
  · exact ⟨id, .inl rfl, by simp⟩

/-- The requests as they are submitted, all with metadata, and with one frame rate if there is one. -/
theorem submitUpdate_ok (h : ctx.submitUpdate scan submitted = .ok (st, ctx')) : st = .noError ∧
    SameStreams ctx ctx' ∧ 0 ≤ ctx'.streamingRequestId ∧
    ctx'.captureRequestId = ctx.captureRequestId ∧
    (∃ f, (f = id ∨ ∃ fps, f = Camera3Request.setFrameRate fps) ∧
      ctx'.streamingActiveRequests = ctx.streamingActiveRequests.map f) ∧
    ∀ r ∈ ctx'.streamingActiveRequests, ¬ r.metadata.isEmpty := by
  unfold submitUpdate at h
  dsimp only at h
  split at h
  · simp at h
  next hgood =>
    simp only [not_or, Bool.not_eq_true, Int.not_lt] at hgood
    rw [Std.ExtTreeSet.foldl_eq_foldl_toList] at h
    obtain ⟨rfl, rfl⟩ := Prod.mk.inj (Except.ok.inj h)
    obtain ⟨map, ids, hfold⟩ := foldl_recordStream scan.removedStreams (ctx.lastFrame submitted)
      scan.streamIds.toList { ctx with
        streamingActiveRequests := ratedRequests scan.maxFps ctx.streamingActiveRequests
        streamingRequestId := submitted.requestId
        lastFrameNumber := ctx.lastFrame submitted }
    rw [hfold]
    exact ⟨rfl, rfl, hgood.2, rfl, ratedRequests_eq_map _ _, List.any_eq_false.mp hgood.1⟩

/-- In a list of ports with one on its way, that one stands between settled ones. -/
theorem toList_split (hport : ctx.activePorts[trackId]? = some port)
    (hothers : ∀ id p, id ≠ trackId → ctx.activePorts[id]? = some p → p.Settled) :
    ∃ l₁ l₂, ctx.activePorts.toList = l₁ ++ (trackId, port) :: l₂ ∧
      (∀ it ∈ l₁, it.2.Settled) ∧ ∀ it ∈ l₂, it.2.Settled := by
  have hmem : (trackId, port) ∈ ctx.activePorts.toList :=
    Std.ExtTreeMap.mem_toList_iff_getElem?_eq_some.mpr hport
  obtain ⟨l₁, l₂, hsplit⟩ := List.append_of_mem hmem
  have hdistinct := Std.ExtTreeMap.distinct_keys_toList (t := ctx.activePorts)
  rw [hsplit, List.pairwise_append, List.pairwise_cons] at hdistinct
  have hlook : ∀ it : UInt32 × CameraPort, it ∈ ctx.activePorts.toList →
      ctx.activePorts[it.1]? = some it.2 :=
    fun it hit => Std.ExtTreeMap.mem_toList_iff_getElem?_eq_some.mp hit
  refine ⟨l₁, l₂, hsplit, fun it hit => ?_, fun it hit => ?_⟩
  · refine hothers it.1 it.2 (fun heq => ?_) (hlook it (by rw [hsplit]; simp [hit]))
    have hne := hdistinct.2.2 it hit (trackId, port) (by simp)
    simp [heq] at hne
  · refine hothers it.1 it.2 (fun heq => ?_) (hlook it (by rw [hsplit]; simp [hit]))
    have hne := hdistinct.2.1.1 it hit
    simp [heq] at hne

/-- What an update makes of the requests in which the port on its way is entered or not. -/
structure Updated (ctx : CameraContext) (requests : List Camera3Request) (ctx' : CameraContext) :
    Prop where
  same : SameStreams ctx ctx'
  outcome : (idsAt requests 0 = [] ∧ ctx'.streamingActiveRequests = requests ∧
      ctx'.streamingRequestId < 0 ∧ ctx'.captureRequestId < 0) ∨
    (idsAt requests 0 ≠ [] ∧ 0 ≤ ctx'.streamingRequestId ∧
      ctx'.captureRequestId = ctx.captureRequestId ∧
      (∃ f, (f = id ∨ ∃ fps, f = Camera3Request.setFrameRate fps) ∧
        ctx'.streamingActiveRequests = requests.map f) ∧
      ∀ r ∈ ctx'.streamingActiveRequests, ¬ r.metadata.isEmpty)

theorem updateRequest_ok (hport : ctx.activePorts[trackId]? = some port)
    (hothers : ∀ id p, id ≠ trackId → ctx.activePorts[id]? = some p → p.Settled)
    (h : ctx.updateRequest submitted flushed = .ok (st, ctx')) :
    st = .noError ∧ ∃ scan requests,
      PortScan.scanPort { requests := ctx.streamingActiveRequests } port = .ok scan ∧
      eraseStale scan.requests = .ok requests ∧ requests ≠ [] ∧ ctx.Updated requests ctx' := by
  obtain ⟨l₁, l₂, hsplit, h₁, h₂⟩ := toList_split hport hothers
  obtain ⟨scan, hscan, h⟩ := bind_eq_ok_iff.mp h
  obtain ⟨requests, hstale, h⟩ := bind_eq_ok_iff.mp h
  have hone := PortScan.foldlM_one { requests := ctx.streamingActiveRequests } (trackId, port) h₁ h₂
  rw [← hsplit, hscan] at hone
  have hport : ∃ u, PortScan.scanPort { requests := ctx.streamingActiveRequests } port = .ok u ∧
      u.requests = scan.requests := by
    cases hu : PortScan.scanPort { requests := ctx.streamingActiveRequests } port with
    | error e => simp [hu, Except.map] at hone
    | ok u =>
      rw [hu] at hone
      exact ⟨u, rfl, (Except.ok.inj hone).symm⟩
  obtain ⟨u, hu, hsame⟩ := hport
  have hresult : st = .noError ∧ requests ≠ [] ∧ ctx.Updated requests ctx' := by
    cases requests with
    | nil => simp at h
    | cons r rest =>
      dsimp only at h
      split at h
      next hempty =>
        obtain ⟨hst, hframe, hreq, hids⟩ := cancelRequest_ok h
        exact ⟨hst, by simp, hframe, .inl ⟨List.isEmpty_iff.mp hempty, hreq, hids⟩⟩
      next hfull =>
        obtain ⟨hst, hframe, hid, hcap, hreq, hmeta⟩ := submitUpdate_ok h
        exact ⟨hst, by simp, hframe,
          .inr ⟨fun hnil => hfull (List.isEmpty_iff.mpr hnil), hid, hcap, hreq, hmeta⟩⟩
  exact ⟨hresult.1, u, requests, hu, hsame ▸ hstale, hresult.2⟩

/-- All requests carry the metadata of the first one. -/
def AllAlike (requests : List Camera3Request) : Prop :=
  ∀ r ∈ requests, r.metadata = PortScan.firstMetadata requests

/-- The first request has nothing that an update would not write itself. -/
def OnlyFrameRate (requests : List Camera3Request) : Prop :=
  ∀ tag ∈ (PortScan.firstMetadata requests).keys, tag = aeTargetFpsRange ∨ tag = sensorFrameDuration

instance : Decidable (OnlyFrameRate requests) :=
  List.decidableBAll (fun tag => tag = aeTargetFpsRange ∨ tag = sensorFrameDuration)
    (PortScan.firstMetadata requests).keys

theorem OnlyFrameRate.getElem? {tag : UInt32} (h : OnlyFrameRate requests)
    (hrange : tag ≠ aeTargetFpsRange) (hduration : tag ≠ sensorFrameDuration) :
    (PortScan.firstMetadata requests)[tag]? = none := by
  by_contra hsome
  have hmem : tag ∈ PortScan.firstMetadata requests :=
    Std.ExtTreeMap.mem_iff_isSome_getElem?.mpr (Option.isSome_iff_ne_none.mpr hsome)
  obtain heq | heq := h tag (Std.ExtTreeMap.mem_keys.mpr hmem)
  · exact hrange heq
  · exact hduration heq

/-- The requests after an update: `ids` says which streams are in which of them. -/
structure Edited (ctx : CameraContext) (ids : Nat → Int → Prop) (ctx' : CameraContext) : Prop where
  same : SameStreams ctx ctx'
  mem_iff : ∀ i x, x ∈ idsAt ctx'.streamingActiveRequests i ↔ ids i x
  nodup : ∀ r ∈ ctx'.streamingActiveRequests, r.streamIds.Nodup
  some_request : ctx'.streamingActiveRequests ≠ []
  full : ∀ r ∈ ctx'.streamingActiveRequests.tail, r.streamIds ≠ []
  live : idsAt ctx'.streamingActiveRequests 0 ≠ [] →
    ∀ r ∈ ctx'.streamingActiveRequests, ¬ r.metadata.isEmpty
  tags : ctx.streamingActiveRequests ≠ [] →
    (∀ r ∈ ctx.streamingActiveRequests, ¬ r.metadata.isEmpty) →
    ∀ r ∈ ctx'.streamingActiveRequests, ¬ r.metadata.isEmpty

theorem Updated.edited {ids : Nat → Int → Prop} (hstale : eraseStale scan.requests = .ok requests)
    (hsome : requests ≠ []) (h : ctx.Updated requests ctx')
    (hmem : ∀ i x, x ∈ idsAt scan.requests i ↔ ids i x)
    (hnodup : ∀ r ∈ scan.requests, r.streamIds.Nodup)
    (htags : idsAt scan.requests 0 = [] → ctx.streamingActiveRequests ≠ [] →
      (∀ r ∈ ctx.streamingActiveRequests, ¬ r.metadata.isEmpty) →
      ∀ r ∈ scan.requests, ¬ r.metadata.isEmpty) : ctx.Edited ids ctx' := by
  obtain ⟨hpre, hids, -, hfull⟩ := eraseStale_ok hstale
  have hnodup' : ∀ r ∈ requests, r.streamIds.Nodup := fun r hr => hnodup r (hpre.subset hr)
  obtain ⟨hnone, hsame, -⟩ | ⟨-, -, -, ⟨f, hf, hsame⟩, hmeta⟩ := h.outcome
  · refine ⟨h.same, fun i x => ?_, ?_, ?_, ?_, fun hsome => ?_, fun hne hold r hr => ?_⟩
    · rw [hsame, hids]
      exact hmem i x
    · rwa [hsame]
    · rwa [hsame]
    · rwa [hsame]
    · rw [hsame] at hsome
      exact absurd hnone hsome
    · rw [hsame] at hr
      exact htags ((hids 0).symm.trans hnone) hne hold r (hpre.subset hr)
  · have hkeep : ∀ r, (f r).streamIds = r.streamIds := by
      obtain rfl | ⟨fps, rfl⟩ := hf
      · exact fun _ => rfl
      · exact fun _ => rfl
    refine ⟨h.same, fun i x => ?_, fun r hr => ?_, ?_, fun r hr => ?_, fun _ => hmeta,
      fun _ _ => hmeta⟩
    · rw [hsame, idsAt_map hkeep, hids]
      exact hmem i x
    · rw [hsame] at hr
      obtain ⟨r', hr', rfl⟩ := List.mem_map.mp hr
      rw [hkeep]
      exact hnodup' r' hr'
    · rw [hsame]
      simpa using hsome
    · rw [hsame, ← List.map_tail] at hr
      obtain ⟨r', hr', rfl⟩ := List.mem_map.mp hr
      rw [hkeep]
      exact hfull r' hr'

/-- A port that starts is entered below its batch size. -/
theorem updateRequest_readyToStart (hport : ctx.activePorts[trackId]? = some port)
    (hstate : port.portState = .readyToStart)
    (hothers : ∀ id p, id ≠ trackId → ctx.activePorts[id]? = some p → p.Settled)
    (hnodup : ∀ r ∈ ctx.streamingActiveRequests, r.streamIds.Nodup)
    (h : ctx.updateRequest submitted flushed = .ok (st, ctx')) :
    ctx.Edited (fun i x => x ∈ idsAt ctx.streamingActiveRequests i ∨
      x = port.cameraStreamId ∧ i < port.batchSize) ctx' := by
  obtain ⟨-, scan, requests, hscan, hstale, hsome, hupdated⟩ := updateRequest_ok hport hothers h
  rw [PortScan.scanPort, hstate] at hscan
  obtain ⟨hmem, hkeep, hmeta⟩ := PortScan.addPort_ok hscan
  refine hupdated.edited hstale hsome hmem (hkeep hnodup) fun hnone hne hold r hr => ?_
  obtain ⟨-, hmeta⟩ := hmeta hne
  obtain ⟨r', hr', heq⟩ | heq | ⟨-, -, hbatch⟩ := hmeta r hr
  · rw [heq]
    exact hold r' hr'
  · obtain ⟨r₀, rest, hcons⟩ := List.exists_cons_of_ne_nil hne
    have hfirst : PortScan.firstMetadata ctx.streamingActiveRequests = r₀.metadata := by
      rw [hcons]
      rfl
    rw [heq]
    exact hfirst ▸ hold r₀ (by simp [hcons])
  · have hin := (hmem 0 port.cameraStreamId).mpr (.inr ⟨rfl, by omega⟩)
    simp [hnone] at hin

/-- A port that stops is taken out everywhere. -/
theorem updateRequest_readyToStop (hport : ctx.activePorts[trackId]? = some port)
    (hstate : port.portState = .readyToStop)
    (hothers : ∀ id p, id ≠ trackId → ctx.activePorts[id]? = some p → p.Settled)
    (hnodup : ∀ r ∈ ctx.streamingActiveRequests, r.streamIds.Nodup)
    (h : ctx.updateRequest submitted flushed = .ok (st, ctx')) :
    ctx.Edited (fun i x => x ∈ idsAt ctx.streamingActiveRequests i ∧ x ≠ port.cameraStreamId)
      ctx' := by
  obtain ⟨-, scan, requests, hscan, hstale, hsome, hupdated⟩ := updateRequest_ok hport hothers h
  rw [PortScan.scanPort, hstate] at hscan
  obtain rfl := Except.ok.inj hscan
  obtain ⟨hmem, hkeep, hmeta⟩ := PortScan.removePort_spec { requests := ctx.streamingActiveRequests }
    port hnodup
  refine hupdated.edited hstale hsome hmem hkeep fun _ _ hold r hr => ?_
  obtain ⟨r', hr', heq⟩ := List.mem_map.mp (hmeta ▸ List.mem_map_of_mem hr)
  exact heq ▸ hold r' hr'

/-- The requests stay alike, and one that begins without metadata becomes like the others when the
frame rate is all they have. -/
theorem Updated.allAlike (h : ctx.Updated requests ctx')
    (halike : ∀ r ∈ requests, r.metadata = PortScan.firstMetadata requests ∨
      r.metadata = ∅ ∧ OnlyFrameRate requests ∧ idsAt requests 0 ≠ []) :
    AllAlike ctx'.streamingActiveRequests := by
  obtain ⟨hnone, hsame, -⟩ | ⟨-, -, -, ⟨f, hf, hsame⟩, hmeta⟩ := h.outcome
  · rw [hsame]
    intro r hr
    obtain heq | ⟨-, -, hsome⟩ := halike r hr
    · exact heq
    · exact absurd hnone hsome
  · intro r hr
    rw [hsame] at hr hmeta ⊢
    obtain ⟨r', hr', rfl⟩ := List.mem_map.mp hr
    obtain ⟨r₀, rest, rfl⟩ := List.exists_cons_of_ne_nil (List.ne_nil_of_mem hr')
    change (f r').metadata = (f r₀).metadata
    obtain rfl | ⟨fps, rfl⟩ := hf
    · obtain heq | ⟨hnew, -⟩ := halike r' hr'
      · exact heq
      · exact absurd (by simp [hnew]) (hmeta r' hr)
    · refine Camera3Request.setFrameRate_congr fun tag hrange hduration => ?_
      obtain heq | ⟨hnew, honly, -⟩ := halike r' hr'
      · rw [heq]
        rfl
      · rw [hnew]
        exact (honly.getElem? hrange hduration).symm

theorem firstMetadata_congr (h : requests'.head? = requests.head?) :
    PortScan.firstMetadata requests' = PortScan.firstMetadata requests := by
  rw [PortScan.firstMetadata, h]
  rfl

/-- A start keeps the requests alike, unless it makes the second one beside more than a frame rate. -/
theorem allAlike_readyToStart (hport : ctx.activePorts[trackId]? = some port)
    (hstate : port.portState = .readyToStart)
    (hothers : ∀ id p, id ≠ trackId → ctx.activePorts[id]? = some p → p.Settled)
    (halike : AllAlike ctx.streamingActiveRequests)
    (hsome : ctx.streamingActiveRequests ≠ [])
    (hbatch : 1 < port.batchSize → ctx.streamingActiveRequests.length ≤ 1 →
      OnlyFrameRate ctx.streamingActiveRequests)
    (h : ctx.updateRequest submitted flushed = .ok (st, ctx')) :
    AllAlike ctx'.streamingActiveRequests := by
  obtain ⟨-, scan, requests, hscan, hstale, -, hupdated⟩ := updateRequest_ok hport hothers h
  rw [PortScan.scanPort, hstate] at hscan
  obtain ⟨hmem, -, hmeta⟩ := PortScan.addPort_ok hscan
  obtain ⟨hfirst, hmeta⟩ := hmeta hsome
  obtain ⟨hpre, hids, hhead, -⟩ := eraseStale_ok hstale
  have hsame : PortScan.firstMetadata requests =
      PortScan.firstMetadata ctx.streamingActiveRequests :=
    (firstMetadata_congr hhead).trans hfirst
  refine hupdated.allAlike fun r hr => ?_
  rw [OnlyFrameRate, hsame]
  obtain ⟨r', hr', heq⟩ | heq | ⟨hnew, hshort, hlong⟩ := hmeta r (hpre.subset hr)
  · exact .inl (heq.trans (halike r' hr'))
  · exact .inl heq
  · refine .inr ⟨hnew, hbatch hlong hshort, List.ne_nil_of_mem (a := port.cameraStreamId) ?_⟩
    rw [hids]
    exact (hmem 0 _).mpr (.inr ⟨rfl, Nat.zero_lt_of_lt hlong⟩)

theorem allAlike_readyToStop (hport : ctx.activePorts[trackId]? = some port)
    (hstate : port.portState = .readyToStop)
    (hothers : ∀ id p, id ≠ trackId → ctx.activePorts[id]? = some p → p.Settled)
    (halike : AllAlike ctx.streamingActiveRequests)
    (hnodup : ∀ r ∈ ctx.streamingActiveRequests, r.streamIds.Nodup)
    (h : ctx.updateRequest submitted flushed = .ok (st, ctx')) :
    AllAlike ctx'.streamingActiveRequests := by
  obtain ⟨-, scan, requests, hscan, hstale, -, hupdated⟩ := updateRequest_ok hport hothers h
  rw [PortScan.scanPort, hstate] at hscan
  obtain rfl := Except.ok.inj hscan
  obtain ⟨-, -, hmeta⟩ := PortScan.removePort_spec { requests := ctx.streamingActiveRequests }
    port hnodup
  obtain ⟨hpre, -, hhead, -⟩ := eraseStale_ok hstale
  have hfirst : PortScan.firstMetadata requests =
      PortScan.firstMetadata ctx.streamingActiveRequests := by
    rw [PortScan.firstMetadata, PortScan.firstMetadata, hhead, ← List.head?_map, hmeta,
      List.head?_map]
  refine hupdated.allAlike fun r hr => .inl ?_
  have hr' : r.metadata ∈ ctx.streamingActiveRequests.map Camera3Request.metadata := by
    rw [← hmeta]
    exact List.mem_map_of_mem (hpre.subset hr)
  obtain ⟨r', hr', heq⟩ := List.mem_map.mp hr'
  rw [← heq, hfirst]
  exact halike r' hr'

end CameraContext

end QmmfSdk.Streams
