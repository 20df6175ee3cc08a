import QmmfSdk.Streams.Updates

/-! What `UpdateRequest`, and the starts and stops of ports that call it, ask of any state, and the
state that they leave. -/
namespace QmmfSdk.Streams

open Library
open Recorder (Status Abort)

variable {requests : List Camera3Request}

/-- No request after the first has streams behind one that has none. -/
def StaleLast (requests : List Camera3Request) : Prop :=
  ∀ i j, 0 < i → i < j → idsAt requests i = [] → idsAt requests j = []

def withoutStale : List Camera3Request → List Camera3Request
  | [] => []
  | r :: rest => r :: rest.takeWhile (!·.streamIds.isEmpty)

/-- All that is left when the first requests with streams go has no streams. -/
theorem all_dropWhile_iff {rest : List Camera3Request} :
    (rest.dropWhile (!·.streamIds.isEmpty)).all (·.streamIds.isEmpty) ↔
      ∀ i j, i < j → idsAt rest i = [] → idsAt rest j = [] := by
  induction rest with
  | nil => simp [idsAt]
  | cons r rest ih =>
    by_cases hr : r.streamIds = []
    · rw [List.dropWhile_cons_of_neg (by simp [hr]), List.all_eq_true]
      constructor
      · intro h i j _ _
        unfold idsAt
        cases hj : (r :: rest)[j]? with
        | none => rfl
        | some r' => exact List.isEmpty_iff.mp (h r' (List.mem_of_getElem? hj))
      · intro h r' hr'
        obtain ⟨j, hj⟩ := List.mem_iff_getElem?.mp hr'
        rw [List.isEmpty_iff, ← idsAt_of_getElem? hj]
        cases j with
        | zero => exact hr
        | succ j => exact h 0 (j + 1) (by omega) hr
    · rw [List.dropWhile_cons_of_pos (by simp [hr]), ih]
      have hsucc : ∀ i, idsAt (r :: rest) (i + 1) = idsAt rest i := fun _ => rfl
      constructor
      · intro h i j hij hi
        cases i with
        | zero => exact absurd hi hr
        | succ i =>
          obtain ⟨j, rfl⟩ := Nat.exists_eq_succ_of_ne_zero (Nat.ne_zero_of_lt hij)
          exact h i j (by omega) hi
      · intro h i j hij hi
        exact h (i + 1) (j + 1) (by omega) hi

theorem succeeds_eraseStale {P : List Camera3Request → Prop} :
    Succeeds (eraseStale requests) P ↔ StaleLast requests ∧ P (withoutStale requests) := by
  cases requests with
  | nil =>
    have hlast : StaleLast [] := fun _ _ _ _ _ => rfl
    simp [eraseStale, withoutStale, hlast]
  | cons r rest =>
    have hlast : StaleLast (r :: rest) ↔
        (rest.dropWhile (!·.streamIds.isEmpty)).all (·.streamIds.isEmpty) := by
      rw [all_dropWhile_iff]
      constructor
      · intro h i j hij
        exact h (i + 1) (j + 1) (by omega) (by omega)
      · intro h i j hpos hij
        obtain ⟨i, rfl⟩ := Nat.exists_eq_succ_of_ne_zero (Nat.ne_zero_of_lt hpos)
        obtain ⟨j, rfl⟩ := Nat.exists_eq_succ_of_ne_zero (Nat.ne_zero_of_lt hij)
        exact h i j (by omega)
    rw [eraseStale, hlast]
    split
    next h => simp [h, withoutStale]
    next h => simp [h]

namespace PortScan

variable {s : PortScan} {port : CameraPort}

/-- The requests with as many new ones behind them as the batch of a port needs. -/
def padded (s : PortScan) (port : CameraPort) : List Camera3Request :=
  s.requests ++ List.replicate (port.batchSize - s.requests.length) ({} : Camera3Request)

/-- A port that starts has metadata to copy, or finds them in each request that would need a copy. -/
def CanScan (s : PortScan) (port : CameraPort) : Prop :=
  port.portState = .readyToStart → (∃ r, (s.padded port)[0]? = some r ∧ ¬ r.metadata.isEmpty) ∨
    ∀ i r, 1 < i → i < port.batchSize → (s.padded port)[i]? = some r → ¬ r.metadata.isEmpty

def scanned (s : PortScan) (port : CameraPort) : PortScan :=
  match port.portState with
  | .readyToStart =>
    { s with
      maxFps := max s.maxFps port.framerate
      requests := fillBatch port.batchSize port.cameraStreamId (s.padded port)
      streamIds := s.streamIds.insert port.cameraStreamId }
  | .readyToStop => s.removePort port
  | .started =>
    { s with
      maxFps := max s.maxFps port.framerate
      streamIds := s.streamIds.insert port.cameraStreamId }
  | .created | .stopped | .paused => s

theorem canFill_iff {batch : Nat} : canFill batch requests ↔
    (∃ r, requests[0]? = some r ∧ ¬ r.metadata.isEmpty) ∨
      ∀ i r, 1 < i → i < batch → requests[i]? = some r → ¬ r.metadata.isEmpty := by
  have hfirst : (!(requests.head?.map Camera3Request.metadata).all (·.isEmpty)) = true ↔
      ∃ r, requests[0]? = some r ∧ ¬ r.metadata.isEmpty := by
    cases requests with
    | nil => simp
    | cons r rest => simp
  have hrest : (((requests.take batch).drop 2).all fun r => !r.metadata.isEmpty) = true ↔
      ∀ i r, 1 < i → i < batch → requests[i]? = some r → ¬ r.metadata.isEmpty := by
    simp only [List.all_eq_true, List.mem_iff_getElem?, List.getElem?_drop, List.getElem?_take,
      Bool.not_eq_true', Bool.not_eq_true, forall_exists_index]
    constructor
    · intro h i r hone hi hr
      refine h r (i - 2) ?_
      rw [show 2 + (i - 2) = i by omega, if_pos hi, hr]
    · intro h r i hr
      split at hr
      next hi => exact h (2 + i) r (by omega) hi hr
      next => simp at hr
  rw [canFill, Bool.or_eq_true, hfirst, hrest]

theorem succeeds_scanPort {P : PortScan → Prop} :
    Succeeds (s.scanPort port) P ↔ s.CanScan port ∧ P (s.scanned port) := by
  unfold scanPort CanScan scanned
  cases port.portState with
  | readyToStart =>
    rw [forall_prop_of_true rfl, ← canFill_iff]
    unfold addPort padded
    dsimp only
    split
    next h => simp [h]
    next h => simp [h]
  | readyToStop | started | created | stopped | paused => simp

end PortScan

namespace CameraContext

variable {ctx : CameraContext} {submitted : Submitted} {flushed : Bool} {trackId : UInt32}
  {port : CameraPort} {P : Status × CameraContext → Prop}

/-- The loop over the first ports. -/
def scan (ctx : CameraContext) (ports : List (UInt32 × CameraPort)) : PortScan :=
  ports.foldl (fun scan it => scan.scanned it.2) { requests := ctx.streamingActiveRequests }

/-- Nothing repeats and nothing is captured. -/
def Idle (ctx : CameraContext) : Prop := ctx.streamingRequestId < 0 ∧ ctx.captureRequestId < 0

instance : Decidable ctx.Idle := inferInstanceAs (Decidable (_ ∧ _))

/-- What `UpdateRequest` asserts. Requests without streams are cancelled, for which the device has to
come to rest; others are submitted, with metadata in each, which a frame rate brings along. -/
structure CanUpdate (ctx : CameraContext) (submitted : Submitted) (flushed : Bool) : Prop where
  fills : ∀ i (hi : i < ctx.activePorts.toList.length),
    (ctx.scan (ctx.activePorts.toList.take i)).CanScan ctx.activePorts.toList[i].2
  staleLast : StaleLast (ctx.scan ctx.activePorts.toList).requests
  some_request : (ctx.scan ctx.activePorts.toList).requests ≠ []
  cancels : idsAt (ctx.scan ctx.activePorts.toList).requests 0 = [] → ctx.Idle ∨ flushed = true
  submits : idsAt (ctx.scan ctx.activePorts.toList).requests 0 ≠ [] →
    0 ≤ submitted.requestId ∧ (0 < (ctx.scan ctx.activePorts.toList).maxFps ∨
      ∀ r ∈ withoutStale (ctx.scan ctx.activePorts.toList).requests, ¬ r.metadata.isEmpty)

def requestCancelled (ctx : CameraContext) : CameraContext :=
  if ctx.Idle then ctx
  else { ctx with
    streamingRequestId := -1
    captureRequestId := -1
    lastFrameNumber := noInFlightRepeatingFrames }

def requestSubmitted (ctx : CameraContext) (scan : PortScan) (submitted : Submitted) :
    CameraContext :=
  scan.streamIds.foldl (recordStream scan.removedStreams (ctx.lastFrame submitted))
    { ctx with
      streamingActiveRequests := ratedRequests scan.maxFps ctx.streamingActiveRequests
      streamingRequestId := submitted.requestId
      lastFrameNumber := ctx.lastFrame submitted }

/-- What becomes of the requests that are left after the stale ones. -/
def sent (ctx : CameraContext) (scan : PortScan) (submitted : Submitted) : CameraContext :=
  if idsAt scan.requests 0 = [] then ctx.requestCancelled else ctx.requestSubmitted scan submitted

/-- The context after an update that meets no failed assertion. -/
def updated (ctx : CameraContext) (submitted : Submitted) : CameraContext :=
  let scan := ctx.scan ctx.activePorts.toList
  { ctx with streamingActiveRequests := withoutStale scan.requests }.sent scan submitted

theorem succeeds_cancelRequest : Succeeds (ctx.cancelRequest flushed) P ↔
    (ctx.Idle ∨ flushed = true) ∧ P (.noError, ctx.requestCancelled) := by
  unfold cancelRequest requestCancelled
  by_cases hidle : ctx.Idle
  · rw [if_pos (c := _ < 0 ∧ _) hidle, if_pos hidle]
    simp [hidle]
  · rw [if_neg (c := _ < 0 ∧ _) hidle, if_neg hidle]
    cases flushed with
    | true => simp
    | false => simp [hidle]

/-- With a frame rate each request has at least that. -/
theorem forall_ratedRequests {maxFps : ℚ} :
    (∀ r ∈ ratedRequests maxFps requests, ¬ r.metadata.isEmpty) ↔
      0 < maxFps ∨ ∀ r ∈ requests, ¬ r.metadata.isEmpty := by
  unfold ratedRequests
  split
  next hrate =>
    rw [or_iff_left_of_imp fun _ => hrate, iff_true_right hrate]
    intro r hr
    obtain ⟨r', -, rfl⟩ := List.mem_map.mp hr
    simp [Camera3Request.setFrameRate_ne_empty]
  next hrate => simp [hrate]

theorem succeeds_submitUpdate {scan : PortScan} : Succeeds (ctx.submitUpdate scan submitted) P ↔
    (0 ≤ submitted.requestId ∧
      (0 < scan.maxFps ∨ ∀ r ∈ ctx.streamingActiveRequests, ¬ r.metadata.isEmpty)) ∧
      P (.noError, ctx.requestSubmitted scan submitted) := by
  rw [submitUpdate, succeeds_check, succeeds_ok, ← forall_ratedRequests]
  refine and_congr_left fun _ => ?_
  rw [not_or, List.any_eq_true, not_exists, Int.not_lt, and_comm]
  simp only [not_and]

theorem succeeds_send {scan : PortScan}
    (hrequests : ctx.streamingActiveRequests = withoutStale scan.requests) :
    Succeeds (match withoutStale scan.requests with
      | [] => .error .assertion
      | r :: _ =>
        if r.streamIds.isEmpty then ctx.cancelRequest flushed
        else ctx.submitUpdate scan submitted) P ↔
      (scan.requests ≠ [] ∧ (idsAt scan.requests 0 = [] → ctx.Idle ∨ flushed = true) ∧
        (idsAt scan.requests 0 ≠ [] → 0 ≤ submitted.requestId ∧
          (0 < scan.maxFps ∨ ∀ r ∈ withoutStale scan.requests, ¬ r.metadata.isEmpty))) ∧
      P (.noError, ctx.sent scan submitted) := by
  rw [← hrequests, sent]
  cases hscan : scan.requests with
  | nil =>
    have hnone : ctx.streamingActiveRequests = [] := by rw [hrequests, hscan, withoutStale]
    simp [hnone]
  | cons r rest =>
    have hfirst : idsAt (r :: rest) 0 = r.streamIds := rfl
    have hsome : ctx.streamingActiveRequests =
        r :: rest.takeWhile (!·.streamIds.isEmpty) := by rw [hrequests, hscan, withoutStale]
    rw [hfirst]
    by_cases hnone : r.streamIds = []
    · have hsend : Succeeds (match ctx.streamingActiveRequests with
          | [] => .error .assertion
          | r :: _ =>
            if r.streamIds.isEmpty then ctx.cancelRequest flushed
            else ctx.submitUpdate scan submitted) P ↔ Succeeds (ctx.cancelRequest flushed) P := by
        rw [hsome]
        simp [hnone]
      rw [hsend, succeeds_cancelRequest, if_pos hnone]
      simp [hnone]
    · have hsend : Succeeds (match ctx.streamingActiveRequests with
          | [] => .error .assertion
          | r :: _ =>
            if r.streamIds.isEmpty then ctx.cancelRequest flushed
            else ctx.submitUpdate scan submitted) P ↔
          Succeeds (ctx.submitUpdate scan submitted) P := by
        rw [hsome]
        simp [hnone]
      rw [hsend, succeeds_submitUpdate, if_neg hnone]
      simp [hnone]

theorem succeeds_updateRequest : Succeeds (ctx.updateRequest submitted flushed) P ↔
    ctx.CanUpdate submitted flushed ∧ P (.noError, ctx.updated submitted) := by
  have hscan : ∀ {R : PortScan → Prop}, Succeeds (ctx.activePorts.toList.foldlM
      (fun scan it => PortScan.scanPort scan it.2) { requests := ctx.streamingActiveRequests }) R ↔
      (∀ i (hi : i < ctx.activePorts.toList.length),
        (ctx.scan (ctx.activePorts.toList.take i)).CanScan ctx.activePorts.toList[i].2) ∧
      R (ctx.scan ctx.activePorts.toList) :=
    succeeds_foldlM (f := fun s (it : UInt32 × CameraPort) => PortScan.scanPort s it.2)
      (g := fun s it => s.scanned it.2) (C := fun s it => s.CanScan it.2)
      fun s it R => PortScan.succeeds_scanPort
  rw [updateRequest, succeeds_bind, hscan, succeeds_bind, succeeds_eraseStale]
  refine (and_congr_right fun _ => and_congr_right fun _ => succeeds_send rfl).trans ?_
  constructor
  · rintro ⟨hfills, hstale, ⟨hsome, hcancels, hsubmits⟩, hP⟩
    exact ⟨⟨hfills, hstale, hsome, hcancels, hsubmits⟩, hP⟩
  · rintro ⟨⟨hfills, hstale, hsome, hcancels, hsubmits⟩, hP⟩
    exact ⟨hfills, hstale, ⟨hsome, hcancels, hsubmits⟩, hP⟩

section Turns

variable {done via target : PortState} {ready : Bool}

/-- The context in which the update is made for a port on its way. -/
def turning (via : PortState) (ready : Bool) (ctx : CameraContext) (trackId : UInt32)
    (port : CameraPort) : CameraContext :=
  ctx.setPort trackId { port with readyToStart := ready, portState := via }

/-- What `CameraPort::Start` and `CameraPort::Stop` assert. -/
def CanTurn (done via : PortState) (ready : Bool) (ctx : CameraContext) (trackId : UInt32)
    (port : CameraPort) (submitted : Submitted) (flushed : Bool) : Prop :=
  port.portState ≠ done → (ctx.turning via ready trackId port).CanUpdate submitted flushed

def turned (done via target : PortState) (ready : Bool) (ctx : CameraContext) (trackId : UInt32)
    (port : CameraPort) (submitted : Submitted) : CameraContext :=
  if port.portState = done then ctx
  else ((ctx.turning via ready trackId port).updated submitted).setPortState trackId target

theorem succeeds_turnPort :
    Succeeds (ctx.turnPort done via target ready trackId port submitted flushed) P ↔
      ctx.CanTurn done via ready trackId port submitted flushed ∧
        P (.noError, ctx.turned done via target ready trackId port submitted) := by
  unfold turnPort CanTurn turned
  split
  next hdone => simp [hdone]
  next hdone =>
    rw [succeeds_bind, succeeds_updateRequest, forall_prop_of_true hdone]
    refine and_congr_right fun _ => ?_
    exact succeeds_ok

end Turns

/-- What `CameraPort::Start` asserts of the port of a track, if there is one. -/
def CanStart (ctx : CameraContext) (trackId : UInt32) (submitted : Submitted) (flushed : Bool) :
    Prop :=
  ∀ port, ctx.activePorts[trackId]? = some port →
    ctx.CanTurn .started .readyToStart true trackId port submitted flushed

def started (ctx : CameraContext) (trackId : UInt32) (submitted : Submitted) : CameraContext :=
  match ctx.activePorts[trackId]? with
  | none => ctx
  | some port => ctx.turned .started .readyToStart .started true trackId port submitted

/-- What `ResumeActiveStreams` asserts: each port starts after the ones before it. -/
def CanResume (ctx : CameraContext) (submitted : UInt32 → Submitted) (flushed : UInt32 → Bool) :
    Prop :=
  ¬ ctx.stoppedStreamIds.isEmpty → ∀ i (hi : i < ctx.activePorts.keys.length),
    ((ctx.activePorts.keys.take i).foldl (fun ctx id => ctx.started id (submitted id))
      ctx).CanStart ctx.activePorts.keys[i] (submitted ctx.activePorts.keys[i])
        (flushed ctx.activePorts.keys[i])

def resumed (ctx : CameraContext) (submitted : UInt32 → Submitted) : CameraContext :=
  if ctx.stoppedStreamIds.isEmpty then { ctx with portPaused := false }
  else
    let ctx := ctx.activePorts.keys.foldl (fun ctx id => ctx.started id (submitted id)) ctx
    { ctx with stoppedStreamIds := ∅, portPaused := false }

theorem succeeds_resumeNext {submitted : UInt32 → Submitted} {flushed : UInt32 → Bool}
    {R : CameraContext → Prop} : Succeeds (ctx.resumeNext false submitted flushed trackId) R ↔
      ctx.CanStart trackId (submitted trackId) (flushed trackId) ∧
        R (ctx.started trackId (submitted trackId)) := by
  unfold resumeNext CanStart started
  cases ctx.activePorts[trackId]? with
  | none => simp
  | some port =>
    dsimp only
    rw [if_neg (by simp), succeeds_bind, asserted, succeeds_bind, startPort, succeeds_turnPort]
    simp [pure, Except.pure]

theorem succeeds_resumeActiveStreams {submitted : UInt32 → Submitted} {flushed : UInt32 → Bool} :
    Succeeds (ctx.resumeActiveStreams false submitted flushed) P ↔
      ctx.CanResume submitted flushed ∧ P (.noError, ctx.resumed submitted) := by
  unfold resumeActiveStreams CanResume resumed
  split
  next hempty => simp [hempty]
  next hempty =>
    rw [succeeds_bind, forall_prop_of_true hempty]
    simp only [succeeds_ok]
    exact succeeds_foldlM (f := resumeNext false submitted flushed)
      (C := fun ctx id => CanStart ctx id (submitted id) (flushed id))
      fun ctx id R => succeeds_resumeNext

end CameraContext

end QmmfSdk.Streams
