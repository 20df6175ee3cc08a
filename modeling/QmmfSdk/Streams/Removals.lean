import QmmfSdk.Streams.Batch

/-! Removed streams: the frames that are still to come back for them, and the callbacks that forget
them. -/
namespace QmmfSdk.Streams

open Library (OrdMap LTS bind_eq_ok_iff)
open Recorder (Status Abort SnapshotMode)

inductive CameraErrorCode where
  | device
  | request
  | buffer
  | other
  deriving DecidableEq, Repr

namespace CameraContext

/-- `operator[]` makes an entry for a stream that has none. -/
def lastFrameEntry (map : OrdMap Int Int) (streamId : Int) : Int × OrdMap Int Int :=
  match map[streamId]? with
  | some last => (last, map)
  | none => (0, map.insert streamId 0)

/-- The device is asserted to take the buffer back. -/
def returnStreamBuffer (ctx : CameraContext) (streamId frameNumber : Int) : CameraContext :=
  if streamId ∈ ctx.removedStreamIds then
    let (last, map) := lastFrameEntry ctx.lastFrameNumberMap streamId
    if last = frameNumber then
      { ctx with
        removedStreamIds := ctx.removedStreamIds.erase streamId
        lastFrameNumberMap := map.erase streamId }
    else { ctx with lastFrameNumberMap := map }
  else ctx

/-- The loop body of `CameraErrorCb`. -/
def forgetFailed (frameNumber : Int) (ctx : CameraContext) (streamId : Int) : CameraContext :=
  let (last, map) := lastFrameEntry ctx.lastFrameNumberMap streamId
  if last = frameNumber then
    { ctx with
      lastFrameNumberMap := map.erase streamId
      removedStreamIds := ctx.removedStreamIds.erase streamId }
  else { ctx with lastFrameNumberMap := map }

def cameraErrorCb (ctx : CameraContext) (code : CameraErrorCode) (frameNumber : Int) : CameraContext :=
  match code with
  | .request | .buffer => ctx.removedStreamIds.toList.foldl (forgetFailed frameNumber) ctx
  | .device | .other => ctx

variable {ctx ctx' u : CameraContext} {trackId : UInt32} {port : CameraPort} {submitted : Submitted}
  {flushed ready : Bool} {st : Status} {via target : PortState} {outstanding : List (Int × Int)}
  {removed : Std.ExtTreeSet Int} {last x y : Int}

/-- Each removed stream has a last frame, and that one is still out. -/
def Awaited (ctx : CameraContext) (outstanding : List (Int × Int)) : Prop :=
  ∀ x ∈ ctx.removedStreamIds, ∃ frame, ctx.lastFrameNumberMap[x]? = some frame ∧
    (frame, x) ∈ outstanding

/-- The last frame of a stream as an update records it. -/
def recordedFrame (ctx : CameraContext) (last streamId : Int) : Int :=
  match ctx.lastFrameNumberMap[streamId]? with
  | none => noInFlightRepeatingFrames
  | some old => if last ≠ noInFlightRepeatingFrames then last else old

theorem getElem?_recordStream : (recordStream removed last ctx y).lastFrameNumberMap[x]? =
    if y = x then some (ctx.recordedFrame last x) else ctx.lastFrameNumberMap[x]? := by
  unfold recordStream recordedFrame
  by_cases hmem : y ∈ ctx.lastFrameNumberMap
  · obtain ⟨old, hold⟩ := Option.isSome_iff_exists.mp (Std.ExtTreeMap.mem_iff_isSome_getElem?.mp hmem)
    rw [if_pos hmem]
    by_cases hlast : last = noInFlightRepeatingFrames
    · simp only [hlast, ne_eq, not_true_eq_false, if_false]
      split
      next heq => simp [← heq, hold]
      next => rfl
    · simp only [hlast, ne_eq, not_false_eq_true, if_true, Std.ExtTreeMap.getElem?_insert,
        Std.LawfulEqCmp.compare_eq_iff_eq]
      split
      next heq => simp [← heq, hold]
      next => rfl
  · have hnone : ctx.lastFrameNumberMap[y]? = none := by
      rwa [Std.ExtTreeMap.mem_iff_isSome_getElem?, Option.isSome_iff_ne_none, not_not] at hmem
    rw [if_neg hmem]
    simp only [Std.ExtTreeMap.getElem?_insert, Std.LawfulEqCmp.compare_eq_iff_eq]
    split
    next heq => simp [← heq, hnone]
    next => rfl

theorem mem_recordStream : x ∈ (recordStream removed last ctx y).removedStreamIds ↔
    x ∈ ctx.removedStreamIds ∨
      x = y ∧ y ∈ removed ∧ ctx.recordedFrame last y ≠ noInFlightRepeatingFrames := by
  have hmap : (recordStream removed last ctx y).lastFrameNumberMap[y]? = _ :=
    getElem?_recordStream.trans (if_pos rfl)
  have hset : (recordStream removed last ctx y).removedStreamIds =
      if y ∈ removed ∧ (recordStream removed last ctx y).lastFrameNumberMap[y]? ≠
        some noInFlightRepeatingFrames then ctx.removedStreamIds.insert y
      else ctx.removedStreamIds := rfl
  rw [hset, hmap]
  simp only [ne_eq, Option.some.injEq]
  split
  next hnew =>
    rw [Std.ExtTreeSet.mem_insert, Std.LawfulEqCmp.compare_eq_iff_eq]
    refine ⟨fun hx => hx.elim (fun heq => .inr ⟨heq.symm, hnew⟩) .inl, fun hx => ?_⟩
    exact hx.elim .inr fun heq => .inl heq.1.symm
  next hnew => exact ⟨.inl, fun hx => hx.elim id fun heq => absurd heq.2 hnew⟩

/-- A recording is safe when the frame that it records for the stream is still out. -/
def SafeRecord (removed : Std.ExtTreeSet Int) (last : Int) (outstanding : List (Int × Int))
    (ctx : CameraContext) (x : Int) : Prop :=
  x ∈ ctx.removedStreamIds ∨ x ∈ removed ∧ ctx.recordedFrame last x ≠ noInFlightRepeatingFrames →
    (ctx.recordedFrame last x, x) ∈ outstanding

theorem Awaited.recordStream (hs : ctx.Awaited outstanding)
    (hsafe : SafeRecord removed last outstanding ctx y) :
    (recordStream removed last ctx y).Awaited outstanding := by
  intro x hx
  rw [getElem?_recordStream]
  by_cases heq : y = x
  · subst heq
    rw [if_pos rfl]
    refine ⟨_, rfl, hsafe ?_⟩
    exact (mem_recordStream.mp hx).imp_right And.right
  · rw [if_neg heq]
    obtain hx | ⟨rfl, -⟩ := mem_recordStream.mp hx
    · exact hs x hx
    · exact absurd rfl heq

/-- The recordings of other streams do not make one unsafe. -/
theorem SafeRecord.recordStream (h : SafeRecord removed last outstanding ctx x) (hne : y ≠ x) :
    SafeRecord removed last outstanding (recordStream removed last ctx y) x := by
  have hframe : (CameraContext.recordStream removed last ctx y).recordedFrame last x =
      ctx.recordedFrame last x := by
    unfold recordedFrame
    rw [getElem?_recordStream, if_neg hne]
  unfold SafeRecord
  rw [hframe]
  rintro (hx | hx)
  · obtain hx | ⟨rfl, -⟩ := mem_recordStream.mp hx
    · exact h (.inl hx)
    · exact absurd rfl hne
  · exact h (.inr hx)

/-- By induction on the streams that are recorded. -/
theorem Awaited.foldl_recordStream {l : List Int} (hs : ctx.Awaited outstanding) (hnodup : l.Nodup)
    (hsafe : ∀ x ∈ l, SafeRecord removed last outstanding ctx x) :
    (l.foldl (CameraContext.recordStream removed last) ctx).Awaited outstanding := by
  induction l generalizing ctx with
  | nil => exact hs
  | cons y l ih =>
    obtain ⟨hnew, hrest⟩ := List.nodup_cons.mp hnodup
    rw [List.foldl_cons]
    refine ih (hs.recordStream (hsafe y (by simp))) hrest fun x hx => ?_
    exact (hsafe x (by simp [hx])).recordStream fun heq => hnew (heq ▸ hx)

theorem Awaited.congr (hs : ctx.Awaited outstanding)
    (hmap : ctx'.lastFrameNumberMap = ctx.lastFrameNumberMap)
    (hids : ctx'.removedStreamIds = ctx.removedStreamIds) : ctx'.Awaited outstanding := by
  unfold Awaited
  rw [hmap, hids]
  exact hs

/-- What the scan of settled ports adds: the streams of the started ones. -/
theorem foldlM_settled_streamIds {l : List (UInt32 × CameraPort)} {s scan : PortScan}
    (hsettled : ∀ it ∈ l, it.2.Settled)
    (h : l.foldlM (fun scan it => PortScan.scanPort scan it.2) s = .ok scan) :
    scan.removedStreams = s.removedStreams ∧ ∀ x ∈ scan.streamIds, x ∈ s.streamIds ∨
      ∃ it ∈ l, it.2.portState = .started ∧ it.2.cameraStreamId = x := by
  induction l generalizing s with
  | nil =>
    obtain rfl : s = scan := by simpa [pure, Except.pure] using h
    exact ⟨rfl, fun x hx => .inl hx⟩
  | cons it l ih =>
    rw [List.foldlM_cons] at h
    obtain ⟨u, hu, h⟩ := bind_eq_ok_iff.mp h
    obtain ⟨hremoved, hids⟩ := ih (fun it' hit => hsettled it' (by simp [hit])) h
    obtain ⟨hstart, hstop⟩ := hsettled it (by simp)
    unfold PortScan.scanPort at hu
    split at hu
    next hstate => exact absurd hstate hstart
    next hstate => exact absurd hstate hstop
    next hstate =>
      obtain rfl := Except.ok.inj hu
      refine ⟨hremoved, fun x hx => ?_⟩
      obtain hx | ⟨it', hit', hx⟩ := hids x hx
      · rw [Std.ExtTreeSet.mem_insert, Std.LawfulEqCmp.compare_eq_iff_eq] at hx
        obtain rfl | hx := hx
        · exact .inr ⟨it, by simp, hstate, rfl⟩
        · exact .inl hx
      · exact .inr ⟨it', by simp [hit'], hx⟩
    all_goals
      obtain rfl := Except.ok.inj hu
      refine ⟨hremoved, fun x hx => (hids x hx).imp_right ?_⟩
      rintro ⟨it', hit', hx⟩
      exact ⟨it', by simp [hit'], hx⟩

/-- What the scan of the port on its way adds: its stream, which is removed when it was listed. -/
theorem scanPort_streamIds {s scan : PortScan} (h : s.scanPort port = .ok scan)
    (hstate : port.portState = .readyToStart ∨ port.portState = .readyToStop) :
    (∀ x ∈ scan.streamIds, x ∈ s.streamIds ∨ x = port.cameraStreamId ∧
      (port.portState = .readyToStop → s.requests.any (port.cameraStreamId ∈ ·.streamIds))) ∧
    ∀ x ∈ scan.removedStreams, x ∈ s.removedStreams ∨ x = port.cameraStreamId ∧
      port.portState = .readyToStop ∧ s.requests.any (port.cameraStreamId ∈ ·.streamIds) := by
  have hinsert : ∀ (set : Std.ExtTreeSet Int) (x : Int), x ∈ set.insert port.cameraStreamId →
      x ∈ set ∨ x = port.cameraStreamId := by
    intro set x hx
    rw [Std.ExtTreeSet.mem_insert, Std.LawfulEqCmp.compare_eq_iff_eq] at hx
    exact hx.symm.imp_right Eq.symm
  unfold PortScan.scanPort at h
  obtain hstate | hstate := hstate
  · rw [hstate] at h
    dsimp only [PortScan.addPort] at h
    split at h
    · obtain rfl := Except.ok.inj h
      exact ⟨fun x hx => (hinsert _ x hx).imp_right fun heq => ⟨heq, by simp [hstate]⟩,
        fun x hx => .inl hx⟩
    · simp at h
  · rw [hstate] at h
    obtain rfl := Except.ok.inj h
    unfold PortScan.removePort
    split
    next hlisted =>
      exact ⟨fun x hx => (hinsert _ x hx).imp_right fun heq => ⟨heq, fun _ => hlisted⟩,
        fun x hx => (hinsert _ x hx).imp_right fun heq => ⟨heq, hstate, hlisted⟩⟩
    next => exact ⟨fun x hx => .inl hx, fun x hx => .inl hx⟩

/-- What the scan of all ports records: the streams of started ones, and that of the one on its way. -/
theorem foldlM_streamIds {l₁ l₂ : List (UInt32 × CameraPort)} {s scan : PortScan}
    (h₁ : ∀ it ∈ l₁, it.2.Settled) (h₂ : ∀ it ∈ l₂, it.2.Settled)
    (hstate : port.portState = .readyToStart ∨ port.portState = .readyToStop)
    (h : (l₁ ++ (trackId, port) :: l₂).foldlM (fun scan it => PortScan.scanPort scan it.2) s =
      .ok scan) :
    (∀ x ∈ scan.streamIds, x ∈ s.streamIds ∨
      (∃ it ∈ l₁ ++ l₂, it.2.portState = .started ∧ it.2.cameraStreamId = x) ∨
      x = port.cameraStreamId ∧
        (port.portState = .readyToStop → s.requests.any (port.cameraStreamId ∈ ·.streamIds))) ∧
    ∀ x ∈ scan.removedStreams, x ∈ s.removedStreams ∨ x = port.cameraStreamId ∧
      port.portState = .readyToStop ∧ s.requests.any (port.cameraStreamId ∈ ·.streamIds) := by
  rw [List.foldlM_append] at h
  obtain ⟨u, hu, h⟩ := bind_eq_ok_iff.mp h
  rw [List.foldlM_cons] at h
  obtain ⟨v, hv, h⟩ := bind_eq_ok_iff.mp h
  obtain ⟨hremoved₁, hids₁⟩ := foldlM_settled_streamIds h₁ hu
  obtain ⟨hids, hremoved⟩ := scanPort_streamIds hv hstate
  obtain ⟨hremoved₂, hids₂⟩ := foldlM_settled_streamIds h₂ h
  have hrequests : u.requests = s.requests := by
    obtain ⟨w, hw, hsame⟩ := PortScan.foldlM_settled (s := s) h₁
    rw [hu] at hw
    rw [Except.ok.inj hw, hsame]
  rw [hrequests] at hids hremoved
  rw [hremoved₁] at hremoved
  rw [hremoved₂]
  refine ⟨fun x hx => ?_, hremoved⟩
  obtain hx | ⟨it, hit, hx⟩ := hids₂ x hx
  · obtain hx | hx := hids x hx
    · obtain hx | ⟨it, hit, hx⟩ := hids₁ x hx
      · exact .inl hx
      · exact .inr (.inl ⟨it, by simp [hit], hx⟩)
    · exact .inr (.inr hx)
  · exact .inr (.inl ⟨it, by simp [hit], hx⟩)

/-- An update that cancels records nothing; one that submits records these streams, and a stop among
them leaves another stream in the first request. -/
theorem updateRequest_recorded (hport : ctx.activePorts[trackId]? = some port)
    (hstate : port.portState = .readyToStart ∨ port.portState = .readyToStop)
    (hothers : ∀ id p, id ≠ trackId → ctx.activePorts[id]? = some p → p.Settled)
    (hnodup : ∀ r ∈ ctx.streamingActiveRequests, r.streamIds.Nodup)
    (h : ctx.updateRequest submitted flushed = .ok (st, u)) :
    (u.lastFrameNumberMap = ctx.lastFrameNumberMap ∧ u.removedStreamIds = ctx.removedStreamIds) ∨
    ∃ (scan : PortScan) (base : CameraContext), base.lastFrameNumberMap = ctx.lastFrameNumberMap ∧
      base.removedStreamIds = ctx.removedStreamIds ∧
      u = scan.streamIds.toList.foldl (recordStream scan.removedStreams (ctx.lastFrame submitted))
        base ∧
      (port.portState = .readyToStop → ∃ x ∈ idsAt ctx.streamingActiveRequests 0,
        x ≠ port.cameraStreamId) ∧
      (∀ x ∈ scan.streamIds, (∃ it ∈ ctx.activePorts.toList, it.1 ≠ trackId ∧
          it.2.portState = .started ∧ it.2.cameraStreamId = x) ∨
        x = port.cameraStreamId ∧ (port.portState = .readyToStop →
          ctx.streamingActiveRequests.any (port.cameraStreamId ∈ ·.streamIds))) ∧
      ∀ x ∈ scan.removedStreams, x = port.cameraStreamId ∧ port.portState = .readyToStop := by
  obtain ⟨l₁, l₂, hsplit, h₁, h₂⟩ := toList_split hport hothers
  obtain ⟨scan, hscan, h⟩ := bind_eq_ok_iff.mp h
  obtain ⟨requests, hstale, h⟩ := bind_eq_ok_iff.mp h
  have hscan' := hscan
  rw [hsplit] at hscan'
  obtain ⟨hids, hremoved⟩ := foldlM_streamIds h₁ h₂ hstate hscan'
  cases requests with
  | nil => simp at h
  | cons r rest =>
    dsimp only at h
    split at h
    next =>
      refine .inl ?_
      unfold cancelRequest at h
      split at h
      · obtain ⟨-, rfl⟩ := Prod.mk.inj (Except.ok.inj h)
        exact ⟨rfl, rfl⟩
      split at h
      · obtain ⟨-, rfl⟩ := Prod.mk.inj (Except.ok.inj h)
        exact ⟨rfl, rfl⟩
      · simp at h
    next hfull =>
      unfold submitUpdate at h
      dsimp only at h
      split at h
      · simp at h
      rw [Std.ExtTreeSet.foldl_eq_foldl_toList] at h
      obtain ⟨-, rfl⟩ := Prod.mk.inj (Except.ok.inj h)
      refine .inr ⟨scan, _, ?_, ?_, rfl, fun hstop => ?_, fun x hx => ?_, fun x hx => ?_⟩
      · rfl
      · rfl
      · obtain ⟨x, hx⟩ := List.exists_mem_of_ne_nil r.streamIds fun hnil =>
          hfull (List.isEmpty_iff.mpr hnil)
        have hone := PortScan.foldlM_one { requests := ctx.streamingActiveRequests } (trackId, port) h₁ h₂
        rw [hscan', PortScan.scanPort, hstop] at hone
        have hrequests : scan.requests =
            (PortScan.removePort { requests := ctx.streamingActiveRequests } port).requests :=
          Except.ok.inj hone
        obtain ⟨hmem, -⟩ := PortScan.removePort_spec { requests := ctx.streamingActiveRequests }
          port hnodup
        have hx' : x ∈ idsAt scan.requests 0 := by
          rw [← (eraseStale_ok hstale).2.1]
          exact hx
        rw [hrequests] at hx'
        exact ⟨x, (hmem 0 x).mp hx'⟩
      · obtain hx | ⟨it, hit, hx, heq⟩ | hx := hids x hx
        · simp at hx
        · have hmem : it ∈ ctx.activePorts.toList := by
            rw [hsplit]
            obtain hit | hit := List.mem_append.mp hit
            · simp [hit]
            · simp [hit]
          refine .inl ⟨it, hmem, ?_, hx, heq⟩
          rintro rfl
          have hlook := Std.ExtTreeMap.mem_toList_iff_getElem?_eq_some.mp hmem
          rw [hport] at hlook
          obtain rfl := Option.some.inj hlook
          simp [hx] at hstate
        · exact .inr hx
      · obtain hx | ⟨heq, hstop, -⟩ := hremoved x hx
        · simp at hx
        · exact ⟨heq, hstop⟩

/-- The streams whose last frame an update for the port records: those of started ports, and that of
the port unless it is to stop and not listed. -/
def recordedStreams (ctx : CameraContext) (trackId : UInt32) (port : CameraPort) (target : PortState) :
    List Int :=
  (ctx.activePorts.toList.filter fun it => it.1 ≠ trackId && it.2.portState = .started).map
    (·.2.cameraStreamId) ++
  if target = .started || ctx.streamingActiveRequests.any (port.cameraStreamId ∈ ·.streamIds) then
    [port.cameraStreamId]
  else []

/-- What the update for a port records can still come back: unless it cancels, the last frame of each
stream that it removes, or that is waited for already, is out when it is recorded. -/
def UpdateFree (ctx : CameraContext) (submitted : Submitted) (outstanding : List (Int × Int))
    (it : UInt32 × CameraPort × PortState) : Prop :=
  (it.2.2 = .stopped → ∃ x ∈ idsAt ctx.streamingActiveRequests 0, x ≠ it.2.1.cameraStreamId) →
  ∀ x ∈ ctx.recordedStreams it.1 it.2.1 it.2.2,
    (x ∈ ctx.removedStreamIds ∨ it.2.2 = .stopped ∧ x = it.2.1.cameraStreamId ∧
      ctx.recordedFrame (ctx.lastFrame submitted) x ≠ noInFlightRepeatingFrames) →
    (ctx.recordedFrame (ctx.lastFrame submitted) x, x) ∈ outstanding

instance {it : UInt32 × CameraPort × PortState} :
    Decidable (ctx.UpdateFree submitted outstanding it) := by
  unfold UpdateFree
  infer_instance

/-- A turned port leaves the removed streams waited for. -/
theorem Awaited.turned (hs : ctx.Awaited outstanding)
    (hvia : via = .readyToStart ∧ target = .started ∨ via = .readyToStop ∧ target = .stopped)
    (hsettled : ∀ (id : UInt32) (p : CameraPort), ctx.activePorts[id]? = some p → p.Settled)
    (hnodup : ∀ r ∈ ctx.streamingActiveRequests, r.streamIds.Nodup)
    (hfree : ctx.UpdateFree submitted outstanding (trackId, port, target))
    (h : (ctx.setPort trackId { port with readyToStart := ready, portState := via }).updateRequest
      submitted flushed = .ok (st, u)) : (u.setPortState trackId target).Awaited outstanding := by
  have hlook : (ctx.setPort trackId
      { port with readyToStart := ready, portState := via }).activePorts[trackId]? = _ :=
    getElem?_setPort.trans (if_pos rfl)
  have hstate : via = .readyToStart ∨ via = .readyToStop := hvia.imp And.left And.left
  obtain ⟨hmap, hids⟩ | ⟨scan, base, hmap, hids, rfl, hremains, hrecorded, hremoved⟩ :=
    updateRequest_recorded hlook hstate
      (fun id p hne hp => hsettled id p ((getElem?_setPort.trans (if_neg hne.symm)).symm.trans hp))
      hnodup h
  · exact hs.congr hmap hids
  · have hbase : base.Awaited outstanding := hs.congr hmap hids
    have hstop : target = .stopped ↔ via = .readyToStop := by
      obtain ⟨rfl, rfl⟩ | ⟨rfl, rfl⟩ := hvia
      · simp
      · simp
    have hfree' := hfree fun htarget => hremains (hstop.mp htarget)
    refine (hbase.foldl_recordStream ?_ fun x hx => ?_).congr rfl rfl
    · have hdistinct := Std.ExtTreeSet.distinct_toList (t := scan.streamIds)
      exact hdistinct.imp fun hne heq => hne (by simp [heq])
    · have hframe : base.recordedFrame (ctx.lastFrame submitted) x =
          ctx.recordedFrame (ctx.lastFrame submitted) x := by
        unfold recordedFrame
        rw [hmap]
        rfl
      have hmem : x ∈ ctx.recordedStreams trackId port target := by
        refine List.mem_append.mpr ?_
        obtain ⟨it, hit, hne, hstarted, hid⟩ | ⟨hid, hlisted⟩ :=
          hrecorded x (Std.ExtTreeSet.mem_toList.mp hx)
        · refine .inl (List.mem_map.mpr ⟨it, List.mem_filter.mpr ⟨?_, by simp [hne, hstarted]⟩, hid⟩)
          have hlook := Std.ExtTreeMap.mem_toList_iff_getElem?_eq_some.mp hit
          rw [getElem?_setPort, if_neg hne.symm] at hlook
          exact Std.ExtTreeMap.mem_toList_iff_getElem?_eq_some.mpr hlook
        · refine .inr ?_
          rw [if_pos]
          · exact List.mem_singleton.mpr hid
          obtain ⟨-, rfl⟩ | ⟨rfl, -⟩ := hvia
          · simp
          · have hany : ctx.streamingActiveRequests.any (port.cameraStreamId ∈ ·.streamIds) :=
              hlisted rfl
            simp [hany]
      intro hcase
      change (base.recordedFrame (ctx.lastFrame submitted) x, x) ∈ outstanding
      rw [hframe]
      refine hfree' x hmem ?_
      obtain hcase | ⟨hcase, hknown⟩ := hcase
      · rw [hids] at hcase
        exact .inl hcase
      · obtain ⟨hid, hvia'⟩ := hremoved x hcase
        refine .inr ⟨hstop.mpr hvia', hid, ?_⟩
        rw [← hframe]
        exact hknown

/-- What no callback and no update has written. -/
def SameFrames (ctx ctx' : CameraContext) : Prop :=
  ctx'.lastFrameNumberMap = ctx.lastFrameNumberMap ∧ ctx'.removedStreamIds = ctx.removedStreamIds

/-- Of the calls for streams only a start and a stop record frames. -/
theorem sameFrames_call {a : Action} (hstart : ∀ id sub flush, a ≠ .startStream id sub flush)
    (hstop : ∀ id sub flush, a ≠ .stopStream id sub flush)
    (h : StreamRun.call ctx a = .ok (st, ctx')) : SameFrames ctx ctx' := by
  cases a with
  | startStream id sub flush => exact absurd rfl (hstart id sub flush)
  | stopStream id sub flush => exact absurd rfl (hstop id sub flush)
  | createStream param d =>
    obtain ⟨-, -, rfl⟩ | ⟨batch, -, ⟨-, -, rfl⟩ | ⟨-, -, requests, -, -, rfl⟩⟩ := createStream_ok h
    · exact ⟨rfl, rfl⟩
    · exact ⟨rfl, rfl⟩
    · exact ⟨rfl, rfl⟩
  | deleteStream trackId deleted =>
    obtain rfl | ⟨port, -, -, rfl⟩ := deleteStream_ok h
    · exact ⟨rfl, rfl⟩
    · unfold restoreBatchStreamId
      split
      · exact ⟨rfl, rfl⟩
      · exact ⟨rfl, rfl⟩
  | setConsumers trackId consumers =>
    obtain ⟨-, rfl⟩ := Prod.mk.inj (Except.ok.inj h)
    exact ⟨rfl, rfl⟩
  | pauseStream trackId =>
    obtain rfl | ⟨port, -, -, rfl⟩ := pauseStream_ok h
    · exact ⟨rfl, rfl⟩
    · exact ⟨rfl, rfl⟩
  | resumeStream trackId =>
    obtain rfl | ⟨port, -, -, rfl⟩ := resumeStream_ok h
    · exact ⟨rfl, rfl⟩
    · exact ⟨rfl, rfl⟩
  | setCameraParam metadata submitted =>
    obtain rfl | ⟨_, _, -, rfl⟩ := setCameraParam_ok h
    · exact ⟨rfl, rfl⟩
    · exact ⟨rfl, rfl⟩
  | pauseActiveStreams flushed =>
    obtain rfl | ⟨-, -, rfl⟩ := pauseActiveStreams_ok h
    · exact ⟨rfl, rfl⟩
    · exact ⟨rfl, rfl⟩
  | resumeActiveStreams | resumeNext _ _ =>
    obtain ⟨-, rfl⟩ := Prod.mk.inj (Except.ok.inj h)
    exact ⟨rfl, rfl⟩

/-- A returned buffer is forgotten when it is the last one of its stream. -/
theorem Awaited.returnStreamBuffer {streamId frameNumber : Int} (hs : ctx.Awaited outstanding) :
    (ctx.returnStreamBuffer streamId frameNumber).Awaited
      (outstanding.filter (· ≠ (frameNumber, streamId))) := by
  have hkeep : ∀ x frame : Int, ctx.lastFrameNumberMap[x]? = some frame → (frame, x) ∈ outstanding →
      ¬ (x = streamId ∧ frame = frameNumber) →
      (frame, x) ∈ outstanding.filter (· ≠ (frameNumber, streamId)) := by
    intro x frame _ hout hne
    refine List.mem_filter.mpr ⟨hout, ?_⟩
    rw [decide_eq_true_eq, ne_eq, Prod.mk.injEq, and_comm]
    exact hne
  unfold CameraContext.returnStreamBuffer
  split
  next hmem =>
    obtain ⟨last, hlast, hout⟩ := hs streamId hmem
    rw [lastFrameEntry, hlast]
    dsimp only
    split
    next heq =>
      intro x hx
      obtain ⟨hne, hx⟩ := Std.ExtTreeSet.mem_erase.mp hx
      rw [ne_eq, Std.LawfulEqCmp.compare_eq_iff_eq] at hne
      obtain ⟨frame, hframe, hout⟩ := hs x hx
      refine ⟨frame, ?_, hkeep x frame hframe hout fun h => hne h.1.symm⟩
      rw [Std.ExtTreeMap.getElem?_erase, if_neg]
      · exact hframe
      · rwa [Std.LawfulEqCmp.compare_eq_iff_eq]
    next hne =>
      intro x hx
      obtain ⟨frame, hframe, hout⟩ := hs x hx
      refine ⟨frame, hframe, hkeep x frame hframe hout ?_⟩
      rintro ⟨rfl, rfl⟩
      rw [hlast] at hframe
      exact hne (Option.some.inj hframe)
  next hnot =>
    intro x hx
    obtain ⟨frame, hframe, hout⟩ := hs x hx
    refine ⟨frame, hframe, hkeep x frame hframe hout ?_⟩
    rintro ⟨rfl, -⟩
    exact hnot hx

/-- One turn of the loop of `CameraErrorCb` forgets the stream or knows another last frame for it. -/
theorem Awaited.forgetFailed (hs : ctx.Awaited outstanding) (frameNumber : Int)
    (hy : y ∈ ctx.removedStreamIds) :
    (∀ x ∈ (forgetFailed frameNumber ctx y).removedStreamIds, x ∈ ctx.removedStreamIds ∧
      (forgetFailed frameNumber ctx y).lastFrameNumberMap[x]? = ctx.lastFrameNumberMap[x]? ∧
      (x = y → ctx.lastFrameNumberMap[x]? ≠ some frameNumber)) ∧
    ∀ x ∈ ctx.removedStreamIds, x ≠ y → x ∈ (forgetFailed frameNumber ctx y).removedStreamIds := by
  obtain ⟨last, hlast, -⟩ := hs y hy
  unfold CameraContext.forgetFailed
  rw [lastFrameEntry, hlast]
  dsimp only
  split
  next heq =>
    refine ⟨fun x hx => ?_, fun x hx hne => ?_⟩
    · obtain ⟨hne, hx⟩ := Std.ExtTreeSet.mem_erase.mp hx
      rw [ne_eq, Std.LawfulEqCmp.compare_eq_iff_eq] at hne
      refine ⟨hx, ?_, fun h => absurd h.symm hne⟩
      rw [Std.ExtTreeMap.getElem?_erase, if_neg]
      rwa [Std.LawfulEqCmp.compare_eq_iff_eq]
    · refine Std.ExtTreeSet.mem_erase.mpr ⟨?_, hx⟩
      rw [ne_eq, Std.LawfulEqCmp.compare_eq_iff_eq]
      exact hne.symm
  next hne =>
    refine ⟨fun x hx => ⟨hx, rfl, ?_⟩, fun x hx _ => hx⟩
    rintro rfl h
    rw [hlast] at h
    exact hne (Option.some.inj h)

/-- By induction on the streams that are still to be looked at; those before have another last frame. -/
theorem Awaited.foldl_forgetFailed {l : List Int} (hs : ctx.Awaited outstanding) (frameNumber : Int)
    (hnodup : l.Nodup) (hl : ∀ y ∈ l, y ∈ ctx.removedStreamIds)
    (hdone : ∀ x ∈ ctx.removedStreamIds, x ∉ l → ctx.lastFrameNumberMap[x]? ≠ some frameNumber) :
    (l.foldl (CameraContext.forgetFailed frameNumber) ctx).Awaited outstanding ∧
      ∀ x ∈ (l.foldl (CameraContext.forgetFailed frameNumber) ctx).removedStreamIds,
        (l.foldl (CameraContext.forgetFailed frameNumber) ctx).lastFrameNumberMap[x]? ≠
          some frameNumber := by
  induction l generalizing ctx with
  | nil => exact ⟨hs, fun x hx => hdone x hx (by simp)⟩
  | cons y l ih =>
    obtain ⟨hnew, hrest⟩ := List.nodup_cons.mp hnodup
    obtain ⟨hold, hkeep⟩ := hs.forgetFailed frameNumber (hl y (by simp))
    rw [List.foldl_cons]
    refine ih (fun x hx => ?_) hrest (fun x hx => ?_) fun x hx hxl => ?_
    · obtain ⟨hx, hmap, -⟩ := hold x hx
      rw [hmap]
      exact hs x hx
    · exact hkeep x (hl x (by simp [hx])) fun heq => hnew (heq ▸ hx)
    · obtain ⟨hx, hmap, hself⟩ := hold x hx
      rw [hmap]
      by_cases heq : x = y
      · exact hself heq
      · exact hdone x hx (by simp [heq, hxl])

/-- The frames that are reported as failed are not waited for any more. -/
theorem Awaited.cameraErrorCb {frameNumber : Int} {code : CameraErrorCode} {ids : List Int}
    (hs : ctx.Awaited outstanding) (hcode : code = .request ∨ code = .buffer) :
    (ctx.cameraErrorCb code frameNumber).Awaited
      (outstanding.filter fun p => ¬ (p.1 = frameNumber ∧ p.2 ∈ ids)) := by
  have heq : ctx.cameraErrorCb code frameNumber =
      ctx.removedStreamIds.toList.foldl (CameraContext.forgetFailed frameNumber) ctx := by
    obtain rfl | rfl := hcode
    · rfl
    · rfl
  have hnodup : ctx.removedStreamIds.toList.Nodup :=
    (Std.ExtTreeSet.distinct_toList (t := ctx.removedStreamIds)).imp fun hne h => hne (by simp [h])
  obtain ⟨hawaited, hother⟩ := hs.foldl_forgetFailed frameNumber hnodup
    (fun y hy => Std.ExtTreeSet.mem_toList.mp hy)
    fun x hx hnot => absurd (Std.ExtTreeSet.mem_toList.mpr hx) hnot
  rw [← heq] at hawaited hother
  intro x hx
  obtain ⟨frame, hframe, hout⟩ := hawaited x hx
  refine ⟨frame, hframe, List.mem_filter.mpr ⟨hout, ?_⟩⟩
  have hne : frame ≠ frameNumber := fun h => hother x hx (h ▸ hframe)
  simp [hne]

/-- No port is on its way, and no stream is twice in a request. -/
structure Sound (ctx : CameraContext) : Prop where
  settled : ∀ (id : UInt32) (port : CameraPort), ctx.activePorts[id]? = some port → port.Settled
  nodup : ∀ r ∈ ctx.streamingActiveRequests, r.streamIds.Nodup

theorem Sound.others (hs : ctx.Sound) (id : UInt32) (p : CameraPort) (hne : id ≠ trackId)
    (hp : (ctx.setPort trackId port).activePorts[id]? = some p) : p.Settled :=
  hs.settled id p ((getElem?_setPort.trans (if_neg hne.symm)).symm.trans hp)

theorem Sound.turned {ids : Nat → Int → Prop} (hs : ctx.Sound)
    (htarget : target = .started ∨ target = .stopped)
    (he : Edited (ctx.setPort trackId { port with readyToStart := ready, portState := via }) ids u) :
    (u.setPortState trackId target).Sound := by
  refine ⟨fun id p hp => ?_, he.nodup⟩
  rw [getElem?_turned he.same] at hp
  split at hp
  · obtain rfl := Option.some.inj hp
    obtain rfl | rfl := htarget
    · exact ⟨by simp, by simp⟩
    · exact ⟨by simp, by simp⟩
  · exact hs.settled id p hp

theorem Sound.setPortState (hs : ctx.Sound) (htarget : target = .started ∨ target = .paused) :
    (ctx.setPortState trackId target).Sound := by
  refine ⟨fun id p hp => ?_, hs.nodup⟩
  rw [getElem?_setPortState] at hp
  split at hp
  · obtain ⟨q, -, rfl⟩ := Option.map_eq_some_iff.mp hp
    obtain rfl | rfl := htarget
    · exact ⟨by simp [CameraPort.setState], by simp [CameraPort.setState]⟩
    · exact ⟨by simp [CameraPort.setState], by simp [CameraPort.setState]⟩
  · exact hs.settled id p hp

theorem Sound.returnStreamBuffer {streamId frameNumber : Int} (hs : ctx.Sound) :
    (ctx.returnStreamBuffer streamId frameNumber).Sound := by
  unfold CameraContext.returnStreamBuffer
  split
  · dsimp only
    split
    · exact ⟨hs.settled, hs.nodup⟩
    · exact ⟨hs.settled, hs.nodup⟩
  · exact hs

theorem Sound.cameraErrorCb {code : CameraErrorCode} {frameNumber : Int} (hs : ctx.Sound) :
    (ctx.cameraErrorCb code frameNumber).Sound := by
  have hloop : ∀ (l : List Int) (u : CameraContext), u.Sound →
      (l.foldl (CameraContext.forgetFailed frameNumber) u).Sound := by
    intro l
    induction l with
    | nil => exact fun u hu => hu
    | cons y l ih =>
      intro u hu
      refine ih _ ?_
      unfold CameraContext.forgetFailed
      dsimp only
      split
      · exact ⟨hu.settled, hu.nodup⟩
      · exact ⟨hu.settled, hu.nodup⟩
  cases code with
  | request | buffer => exact hloop _ _ hs
  | device | other => exact hs

theorem Sound.startStream (hs : ctx.Sound) (ha : ctx.Awaited outstanding)
    (hfree : ∀ it ∈ ctx.turnedPort trackId .started .started,
      ctx.UpdateFree submitted outstanding it)
    (h : ctx.startStream trackId submitted flushed = .ok (st, ctx')) :
    ctx'.Sound ∧ ctx'.Awaited outstanding := by
  obtain rfl | ⟨port, hport, hturn, u, hu, rfl⟩ := startStream_ok h
  · exact ⟨hs, ha⟩
  · have hlook : (ctx.setPort trackId
        { port with readyToStart := true, portState := .readyToStart }).activePorts[trackId]? = _ :=
      getElem?_setPort.trans (if_pos rfl)
    exact ⟨hs.turned (.inl rfl) (updateRequest_readyToStart hlook rfl hs.others hs.nodup hu),
      ha.turned (.inl ⟨rfl, rfl⟩) hs.settled hs.nodup (hfree _ (turnedPort_of_ne hport hturn)) hu⟩

theorem Sound.stopStream (hs : ctx.Sound) (ha : ctx.Awaited outstanding)
    (hfree : ∀ it ∈ ctx.turnedPort trackId .created .stopped,
      ctx.UpdateFree submitted outstanding it)
    (h : ctx.stopStream trackId submitted flushed = .ok (st, ctx')) :
    ctx'.Sound ∧ ctx'.Awaited outstanding := by
  obtain rfl | ⟨port, hport, hturn, u, hu, rfl⟩ := stopStream_ok h
  · exact ⟨hs, ha⟩
  · have hlook : (ctx.setPort trackId
        { port with readyToStart := false, portState := .readyToStop }).activePorts[trackId]? = _ :=
      getElem?_setPort.trans (if_pos rfl)
    exact ⟨hs.turned (.inr rfl) (updateRequest_readyToStop hlook rfl hs.others hs.nodup hu),
      ha.turned (.inr ⟨rfl, rfl⟩) hs.settled hs.nodup (hfree _ (turnedPort_of_ne hport hturn)) hu⟩

/-- The other calls are sound without a condition. -/
theorem Sound.call {a : Action} (hs : ctx.Sound)
    (hstart : ∀ id sub flush, a ≠ .startStream id sub flush)
    (hstop : ∀ id sub flush, a ≠ .stopStream id sub flush)
    (h : StreamRun.call ctx a = .ok (st, ctx')) : ctx'.Sound := by
  cases a with
  | startStream id sub flush => exact absurd rfl (hstart id sub flush)
  | stopStream id sub flush => exact absurd rfl (hstop id sub flush)
  | createStream param d =>
    obtain ⟨-, -, rfl⟩ | ⟨batch, -, ⟨-, -, rfl⟩ | ⟨-, -, requests, hrequests, -, rfl⟩⟩ :=
      createStream_ok h
    · exact hs
    · exact ⟨hs.settled, hs.nodup⟩
    · refine ⟨fun id p hp => ?_, fun r hr => ?_⟩
      · rw [getElem?_withPort] at hp
        split at hp
        · obtain rfl := Option.some.inj hp
          exact ⟨by simp, by simp⟩
        · exact hs.settled id p hp
      · change r ∈ requests at hr
        obtain rfl | ⟨-, metadata, rfl⟩ := hrequests
        · exact hs.nodup r hr
        · rw [List.mem_singleton.mp hr]
          exact List.nodup_nil
  | deleteStream trackId deleted =>
    obtain rfl | ⟨port, -, -, rfl⟩ := deleteStream_ok h
    · exact hs
    · refine ⟨fun id p hp => ?_, ?_⟩
      · rw [StreamRun.getElem?_deleted] at hp
        split at hp
        · simp at hp
        · exact hs.settled id p hp
      · unfold restoreBatchStreamId
        split
        · exact hs.nodup
        · exact hs.nodup
  | setConsumers trackId consumers =>
    obtain ⟨-, rfl⟩ := Prod.mk.inj (Except.ok.inj h)
    refine ⟨fun id p hp => ?_, hs.nodup⟩
    obtain ⟨q, hq, heq⟩ := port_of_setConsumers hp
    rw [heq]
    exact hs.settled id q hq
  | pauseStream trackId =>
    obtain rfl | ⟨port, -, -, rfl⟩ := pauseStream_ok h
    · exact hs
    · exact hs.setPortState (.inr rfl)
  | resumeStream trackId =>
    obtain rfl | ⟨port, -, -, rfl⟩ := resumeStream_ok h
    · exact hs
    · exact hs.setPortState (.inl rfl)
  | setCameraParam metadata submitted =>
    obtain rfl | ⟨_, _, -, rfl⟩ := setCameraParam_ok h
    · exact hs
    · refine ⟨hs.settled, fun r hr => ?_⟩
      obtain ⟨r', hr', rfl⟩ := List.mem_map.mp hr
      exact hs.nodup r' hr'
  | pauseActiveStreams flushed =>
    obtain rfl | ⟨-, -, rfl⟩ := pauseActiveStreams_ok h
    · exact hs
    · exact ⟨fun _ _ hp => settled_interrupted hp, nodup_interrupted hs.nodup⟩
  | resumeActiveStreams | resumeNext _ _ =>
    obtain ⟨-, rfl⟩ := Prod.mk.inj (Except.ok.inj h)
    exact hs

end CameraContext

/-- The calls for streams, and what the device and the consumers do with frames. -/
inductive FrameAction where
  | stream (a : Action)
  | submitFrame (frameNumber : Int) (streamIds : List Int)
  | returnStreamBuffer (streamId frameNumber : Int)
  | cameraErrorCb (code : CameraErrorCode) (frameNumber : Int) (streamIds : List Int)

/-- `outstanding` are the frames that were submitted for streams and neither returned nor reported. -/
structure FrameRun where
  run : StreamRun
  outstanding : List (Int × Int) := []

namespace FrameRun

open CameraContext
open StreamRun (plainStream deviceAnswer)

variable {s t : FrameRun} {a : FrameAction} {as : List FrameAction} {config : CameraConfig}
  {snapshotType : SnapshotMode}

def step (s : FrameRun) : FrameAction → Option FrameRun
  | .stream a => (s.run.step a).map fun run => { s with run := run }
  | .submitFrame frameNumber streamIds =>
    some { s with outstanding := s.outstanding ++ streamIds.map (frameNumber, ·) }
  | .returnStreamBuffer streamId frameNumber =>
    if (frameNumber, streamId) ∈ s.outstanding then
      some
        { run := { s.run with ctx := s.run.ctx.returnStreamBuffer streamId frameNumber }
          outstanding := s.outstanding.filter (· ≠ (frameNumber, streamId)) }
    else none
  | .cameraErrorCb code frameNumber streamIds =>
    some
      { run := { s.run with ctx := s.run.ctx.cameraErrorCb code frameNumber }
        outstanding :=
          if code = .request ∨ code = .buffer then
            s.outstanding.filter fun p => ¬ (p.1 = frameNumber ∧ p.2 ∈ streamIds)
          else s.outstanding }

def lts : LTS FrameRun FrameAction := .ofStep step

def init (config : CameraConfig) (snapshotType : SnapshotMode) : FrameRun :=
  { run := StreamRun.init config snapshotType }

/-- A removed stream is only waited for while frames of it are out. -/
def Forgotten (s : FrameRun) : Prop :=
  ∀ x ∈ s.run.ctx.removedStreamIds, ∃ frame, (frame, x) ∈ s.outstanding

/-- What each update of a run records can still come back. -/
def ReturnFree (s : FrameRun) : FrameAction → Prop
  | .stream (.startStream trackId submitted _) =>
    ∀ it ∈ s.run.ctx.turnedPort trackId .started .started,
      s.run.ctx.UpdateFree submitted s.outstanding it
  | .stream (.stopStream trackId submitted _) =>
    ∀ it ∈ s.run.ctx.turnedPort trackId .created .stopped,
      s.run.ctx.UpdateFree submitted s.outstanding it
  | .stream (.resumeNext submitted _) =>
    ∀ trackId ∈ s.run.resuming.head?, ∀ it ∈ s.run.ctx.turnedPort trackId .started .started,
      s.run.ctx.UpdateFree submitted s.outstanding it
  | _ => True

instance (s : FrameRun) (a : FrameAction) : Decidable (s.ReturnFree a) :=
  match a with
  | .stream (.resumeNext ..) => by
    unfold ReturnFree
    exact Option.decidableForallMem _
  | .stream (.createStream ..) | .stream (.deleteStream ..) | .stream (.setConsumers ..)
  | .stream (.startStream ..) | .stream (.stopStream ..) | .stream (.pauseStream ..)
  | .stream (.resumeStream ..) | .stream (.setCameraParam ..) | .stream (.pauseActiveStreams ..)
  | .stream .resumeActiveStreams | .submitFrame .. | .returnStreamBuffer .. | .cameraErrorCb .. => by
    unfold ReturnFree
    infer_instance

theorem finish_same {r : StreamRun} : (StreamRun.finish r).ctx.activePorts = r.ctx.activePorts ∧
    (StreamRun.finish r).ctx.streamingActiveRequests = r.ctx.streamingActiveRequests ∧
    SameFrames r.ctx (StreamRun.finish r).ctx := by
  unfold StreamRun.finish
  split <;> exact ⟨rfl, rfl, rfl, rfl⟩

theorem sound_finish {r : StreamRun} {outstanding : List (Int × Int)} (hs : r.ctx.Sound)
    (ha : r.ctx.Awaited outstanding) :
    (StreamRun.finish r).ctx.Sound ∧ (StreamRun.finish r).ctx.Awaited outstanding := by
  obtain ⟨hports, hrequests, hmap, hids⟩ := finish_same (r := r)
  exact ⟨⟨hports ▸ hs.settled, hrequests ▸ hs.nodup⟩, ha.congr hmap hids⟩

theorem sound_stream {a : Action} {r : StreamRun} (hs : s.run.ctx.Sound)
    (ha : s.run.ctx.Awaited s.outstanding) (hfree : s.ReturnFree (.stream a))
    (h : s.run.step a = some r) : r.ctx.Sound ∧ r.ctx.Awaited s.outstanding := by
  obtain ⟨-, -, st, hcall, -⟩ | ⟨-, -, -, rfl⟩ | ⟨-, -, rfl⟩ |
    ⟨submitted, flushed, trackId, rest, ctx, rfl, hlist, hnext, rfl⟩ := StreamRun.step_cases h
  · cases a with
    | startStream id sub flush => exact hs.startStream ha hfree hcall
    | stopStream id sub flush => exact hs.stopStream ha hfree hcall
    | _ =>
      obtain ⟨hmap, hids⟩ := sameFrames_call (by simp) (by simp) hcall
      exact ⟨hs.call (by simp) (by simp) hcall, ha.congr hmap hids⟩
  · exact ⟨⟨hs.settled, hs.nodup⟩, ha.congr rfl rfl⟩
  · exact sound_finish hs ha
  · rw [resumeNext_eq_startStream] at hnext
    cases hstart : s.run.ctx.startStream trackId submitted flushed with
    | error e => simp [hstart, Except.map] at hnext
    | ok q =>
      rw [hstart] at hnext
      obtain rfl := Except.ok.inj hnext
      obtain ⟨hsound, hawaited⟩ := hs.startStream ha (hfree trackId (by simp [hlist])) hstart
      exact sound_finish hsound hawaited

theorem awaited_step (hs : s.run.ctx.Sound) (ha : s.run.ctx.Awaited s.outstanding)
    (hfree : s.ReturnFree a) (h : s.step a = some t) :
    t.run.ctx.Sound ∧ t.run.ctx.Awaited t.outstanding := by
  cases a with
  | stream a =>
    obtain ⟨r, hr, rfl⟩ := Option.map_eq_some_iff.mp h
    have hstream := sound_stream hs ha hfree hr
    exact hstream
  | submitFrame frameNumber streamIds =>
    obtain rfl := Option.some.inj h
    refine ⟨hs, fun x hx => ?_⟩
    obtain ⟨frame, hframe, hout⟩ := ha x hx
    exact ⟨frame, hframe, List.mem_append_left _ hout⟩
  | returnStreamBuffer streamId frameNumber =>
    simp only [step] at h
    split at h
    · obtain rfl := Option.some.inj h
      exact ⟨hs.returnStreamBuffer, ha.returnStreamBuffer⟩
    · simp at h
  | cameraErrorCb code frameNumber streamIds =>
    obtain rfl := Option.some.inj h
    refine ⟨hs.cameraErrorCb, ?_⟩
    dsimp only
    split
    next hcode => exact ha.cameraErrorCb hcode
    next hcode =>
      rw [not_or] at hcode
      cases code with
      | request => exact absurd rfl hcode.1
      | buffer => exact absurd rfl hcode.2
      | device | other => exact ha

theorem awaited_init : (init config snapshotType).run.ctx.Sound ∧
    (init config snapshotType).run.ctx.Awaited (init config snapshotType).outstanding := by
  refine ⟨⟨?_, ?_⟩, ?_⟩
  · simp [init, StreamRun.init]
  · simp [init, StreamRun.init]
  · simp [init, StreamRun.init, Awaited]

/-- In a run whose updates all meet the condition, a removed stream is not waited for any more once
all of its frames are back. -/
theorem forgotten_run (hrun : (lts.guarded ReturnFree).MTr (init config snapshotType) as s) :
    s.Forgotten := by
  have hinv := LTS.inv_of_mTr (L := lts.guarded ReturnFree)
    (P := fun s => s.run.ctx.Sound ∧ s.run.ctx.Awaited s.outstanding)
    (fun _ _ _ hstep hs => awaited_step hs.1 hs.2 hstep.2 hstep.1) hrun awaited_init
  intro x hx
  obtain ⟨frame, -, hout⟩ := hinv.2 x hx
  exact ⟨frame, hout⟩

/-- Two streams run, and the second one's only frame is returned before the stream is stopped. -/
theorem returned_before_removal :
    let as : List FrameAction := [.stream (.createStream plainStream deviceAnswer),
      .stream (.createStream { plainStream with id := 3 } deviceAnswer),
      .stream (.startStream 2 { requestId := 0 } true), .submitFrame 0 [0],
      .stream (.startStream 3 { requestId := 1, lastFrameNumber := 0 } true), .submitFrame 1 [0, 1],
      .returnStreamBuffer 0 0, .returnStreamBuffer 0 1, .returnStreamBuffer 1 1,
      .stream (.stopStream 3 { requestId := 2, lastFrameNumber := 1 } true)]
    ∃ s, LTS.run step (init {} .video) as = some s ∧ s.outstanding = [] ∧ ¬ s.Forgotten := by
  intro as
  have hsome : (LTS.run step (init {} .video) as).isSome := by decide
  obtain ⟨s, hs⟩ := Option.isSome_iff_exists.mp hsome
  have hfacts : ∀ u ∈ LTS.run step (init {} .video) as, u.outstanding = [] ∧
      1 ∈ u.run.ctx.removedStreamIds := by decide
  obtain ⟨hnone, hmem⟩ := hfacts s hs
  refine ⟨s, hs, hnone, fun hforgotten => ?_⟩
  obtain ⟨frame, hout⟩ := hforgotten 1 hmem
  simp [hnone] at hout

/-- The same streams, with the frame still out when the second one is stopped. -/
theorem forgotten_run_two :
    let as : List FrameAction := [.stream (.createStream plainStream deviceAnswer),
      .stream (.createStream { plainStream with id := 3 } deviceAnswer),
      .stream (.startStream 2 { requestId := 0 } true), .submitFrame 0 [0],
      .stream (.startStream 3 { requestId := 1, lastFrameNumber := 0 } true), .submitFrame 1 [0, 1],
      .stream (.stopStream 3 { requestId := 2, lastFrameNumber := 1 } true),
      .returnStreamBuffer 0 0, .returnStreamBuffer 1 1]
    ∃ s, LTS.run step (init {} .video) as = some s ∧ s.Forgotten := by
  intro as
  have hsome : (LTS.run step (init {} .video) as).isSome := by decide
  obtain ⟨s, hs⟩ := Option.isSome_iff_exists.mp hsome
  exact ⟨s, hs, forgotten_run (LTS.mTr_guarded_iff.mpr ⟨hs, by decide⟩)⟩

end FrameRun

end QmmfSdk.Streams
