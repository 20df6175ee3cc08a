import QmmfSdk.Camera3.RequestLoops

/-! The last frame number that `QueueRequestList` announces, and the numbers that its requests get
when the request loop comes to them. -/
namespace QmmfSdk.Camera3

open Library

namespace RequestHandler

/-- The sum is taken in `size_t` and kept in an `int64_t`. -/
def lastFrameNumber (h : RequestHandler) (rs : List CaptureRequest) : Int :=
  h.currentFrameNumber.toNat + (h.queueRequestList rs).requests.length - 1

/-- What numbers requests without an input stream never numbers one with it. -/
structure Plain (h : RequestHandler) : Prop where
  requests : ∀ r ∈ h.requests, r.input = false
  streaming : ∀ r ∈ h.streamingRequests, r.input = false

variable {h d : RequestHandler} {rs : List CaptureRequest} {streaming : Bool}

/-- A list goes to the reprocess loop, or its plain requests become the streaming list or the end of
the queue. -/
theorem addRequestList_cases (hadd : h.addRequestList rs streaming = some d) :
    (∃ reproc, d = { h with reprocRequests := reproc }) ∨
      ∃ plain, (∀ r ∈ plain, r.input = false) ∧
        (d = { h with streamingRequests := plain } ∨ d = { h with requests := h.requests ++ plain }) := by
  have hfilter : ∀ r ∈ rs.filter (fun r => !r.input), r.input = false := by simp
  unfold addRequestList at hadd
  dsimp only at hadd
  split at hadd
  · obtain rfl := Option.some.inj hadd
    exact .inl ⟨h.reprocRequests, rfl⟩
  split at hadd
  · unfold queueReprocRequestList at hadd
    split at hadd
    · cases hadd
    · obtain rfl := Option.some.inj hadd
      exact .inl ⟨_, rfl⟩
  cases streaming with
  | true =>
    obtain rfl := Option.some.inj hadd
    exact .inr ⟨_, hfilter, .inl rfl⟩
  | false =>
    obtain rfl := Option.some.inj hadd
    exact .inr ⟨_, hfilter, .inr rfl⟩

theorem plain_addRequestList (hh : h.Plain) (hadd : h.addRequestList rs streaming = some d) :
    d.Plain := by
  rcases addRequestList_cases hadd with ⟨reproc, rfl⟩ | ⟨plain, hplain, rfl | rfl⟩
  · exact ⟨hh.requests, hh.streaming⟩
  · exact ⟨hh.requests, hplain⟩
  · refine ⟨fun r hr => ?_, hh.streaming⟩
    rcases List.mem_append.mp hr with hr | hr
    · exact hh.requests r hr
    · exact hplain r hr

/-- The queue only grows at its end. -/
theorem prefix_addRequestList (hadd : h.addRequestList rs streaming = some d) :
    h.requests <+: d.requests ∧ d.currentFrameNumber = h.currentFrameNumber := by
  rcases addRequestList_cases hadd with ⟨reproc, rfl⟩ | ⟨plain, -, rfl | rfl⟩
  · exact ⟨List.prefix_rfl, rfl⟩
  · exact ⟨List.prefix_rfl, rfl⟩
  · exact ⟨List.prefix_append _ _, rfl⟩

/-- Without reprocess requests the queue is served from its front. -/
theorem getRequest_of_cons {r : CaptureRequest} {rest : List CaptureRequest} (hh : h.Plain)
    (hq : h.requests = r :: rest) : h.getRequest = (some (r.stamp h.currentFrameNumber),
      { h with requests := rest, currentFrameNumber := h.currentFrameNumber + 1 }) := by
  have hnone : (r :: rest).find? CaptureRequest.input = none := by
    rw [← hq, List.find?_eq_none]
    simpa using hh.requests
  unfold getRequest
  rw [hq]
  simp only [hnone]

theorem plain_getRequest (hh : h.Plain) : h.getRequest.2.Plain := by
  cases hq : h.requests with
  | cons r rest =>
    rw [getRequest_of_cons hh hq]
    refine ⟨fun x hx => hh.requests x ?_, hh.streaming⟩
    rw [hq]
    exact List.mem_cons_of_mem r hx
  | nil =>
    unfold getRequest
    rw [hq]
    dsimp only
    split
    · exact hh
    next r rest hs =>
      refine ⟨fun x hx => hh.streaming x ?_, hh.streaming⟩
      rw [hs]
      exact List.mem_cons_of_mem r hx

end RequestHandler

namespace Camera

variable {cfg : Config} {s t u : Camera} {a : Action} {as : List Action}
  {rs : List CaptureRequest} {r x : CaptureRequest} {i : Nat}

/-- All that a step does to the queue and the counter of the handler. -/
inductive Handles (s : Camera) (h : RequestHandler) : Action → Prop where
  | added {rs : List CaptureRequest} {streaming : Bool}
      (hadd : s.handler.addRequestList rs streaming = some h) :
      Handles s h (.addRequestList rs streaming)
  | clearRepeating (hh : h = s.handler.clearRepeatingRequests) :
      Handles s h .clearRepeatingRequests
  | cleared (hh : h = s.handler.clear) : Handles s h .clear
  | got (hh : h = s.handler.getRequest.2) : Handles s h .getRequest
  | other {a : Action} (hrequests : h.requests = s.handler.requests)
      (hstreaming : h.streamingRequests = s.handler.streamingRequests)
      (hframe : h.currentFrameNumber = s.handler.currentFrameNumber) (ha : a ≠ .getRequest) :
      Handles s h a

theorem handles_step (hstep : s.step cfg a = some t) : Handles s t.handler a := by
  cases a with
  | addRequestList rs streaming =>
    obtain ⟨h, hadd, ht⟩ := Option.bind_eq_some_iff.mp hstep
    obtain rfl := Option.some.inj ht
    exact .added hadd
  | clearRepeatingRequests =>
    obtain rfl := Option.some.inj hstep
    exact .clearRepeating rfl
  | clear =>
    obtain rfl := Option.some.inj hstep
    exact .cleared rfl
  | getRequest =>
    simp only [step] at hstep
    split at hstep
    · cases hstep
    · obtain rfl := Option.some.inj hstep
      exact .got rfl
  | exitPending =>
    obtain rfl := Option.some.inj hstep
    exact .other rfl rfl rfl (by simp)
  | submitRequest o =>
    obtain ⟨r, -, ht⟩ := Option.bind_eq_some_iff.mp hstep
    obtain rfl := Option.some.inj ht
    exact .other rfl rfl rfl (by simp)
  | nextReproc =>
    simp only [step] at hstep
    split at hstep
    · cases hstep
    · obtain rfl := Option.some.inj hstep
      unfold RequestHandler.nextReproc
      cases s.handler.reprocRequests with
      | nil => exact .other rfl rfl rfl (by simp)
      | cons r rest => exact .other rfl rfl rfl (by simp)
  | submitReproc o =>
    obtain ⟨r, -, ht⟩ := Option.bind_eq_some_iff.mp hstep
    obtain rfl := Option.some.inj ht
    exact .other rfl rfl rfl (by simp)
  | hal e =>
    simp only [step] at hstep
    split at hstep
    · cases hstep
    · obtain rfl := Option.some.inj hstep
      exact .other rfl rfl rfl (by simp)

theorem step_getRequest (hstep : s.step cfg .getRequest = some t) :
    t.handler = s.handler.getRequest.2 ∧ t.held = s.handler.getRequest.1 := by
  simp only [step] at hstep
  split at hstep
  · cases hstep
  · obtain rfl := Option.some.inj hstep
    exact ⟨rfl, rfl⟩

theorem plain_step (cfg : Config) : (lts cfg).TrInv fun s => s.handler.Plain := by
  intro s a t hstep hs
  have hstep : s.step cfg a = some t := hstep
  cases handles_step hstep with
  | added hadd => exact RequestHandler.plain_addRequestList hs hadd
  | clearRepeating hh =>
    rw [hh]
    exact ⟨hs.requests, by simp [RequestHandler.clearRepeatingRequests]⟩
  | cleared hh =>
    rw [hh]
    exact ⟨by simp [RequestHandler.clear], by simp [RequestHandler.clear]⟩
  | got hh =>
    rw [hh]
    exact RequestHandler.plain_getRequest hs
  | other hrequests hstreaming _ _ =>
    exact ⟨by rw [hrequests]; exact hs.requests, by rw [hstreaming]; exact hs.streaming⟩

/-- The requests that the loop takes in a run, with the numbers that they get. -/
def stamped (cfg : Config) : Camera → List Action → List CaptureRequest
  | _, [] => []
  | s, a :: as =>
    match s.step cfg a with
    | some t => (if a = .getRequest then t.held.toList else []) ++ stamped cfg t as
    | none => []

/-- What is in the queue is taken in order and numbered from the counter on, whatever comes behind
it and however the streaming requests are set. -/
theorem stamped_queue (h : (lts cfg).MTr s as u) (hs : s.handler.Plain) (hclear : .clear ∉ as)
    (hr : s.handler.requests[i]? = some r) (hx : (stamped cfg s as)[i]? = some x) :
    x = r.stamp (s.handler.currentFrameNumber + .ofNat i) := by
  induction h generalizing i with
  | refl => simp [stamped] at hx
  | @stepL s t u a as hstep _ ih =>
    have hf : s.step cfg a = some t := hstep
    have hplain : t.handler.Plain := plain_step cfg s a t hstep hs
    have htail : .clear ∉ as := fun h => hclear (List.mem_cons_of_mem a h)
    have hkept : a ≠ .getRequest → t.handler.currentFrameNumber = s.handler.currentFrameNumber →
        t.handler.requests[i]? = some r →
        x = r.stamp (s.handler.currentFrameNumber + .ofNat i) := by
      intro ha hframe hrt
      rw [← hframe]
      exact ih hplain htail hrt (by simpa [stamped, hf, ha] using hx)
    cases handles_step hf with
    | added hadd =>
      obtain ⟨⟨behind, hbehind⟩, hframe⟩ := RequestHandler.prefix_addRequestList hadd
      refine hkept (by simp) hframe ?_
      rw [← hbehind, List.getElem?_append_left (List.getElem?_eq_some_iff.mp hr).1]
      exact hr
    | clearRepeating hh =>
      refine hkept (by simp) ?_ ?_
      · rw [hh, RequestHandler.clearRepeatingRequests]
      · rw [hh]
        exact hr
    | cleared => exact absurd List.mem_cons_self hclear
    | other hrequests _ hframe ha =>
      refine hkept ha hframe ?_
      rw [hrequests]
      exact hr
    | got =>
      obtain ⟨hhandler, hheld⟩ := step_getRequest hf
      cases hq : s.handler.requests with
      | nil => simp [hq] at hr
      | cons first rest =>
        rw [RequestHandler.getRequest_of_cons hs hq] at hhandler hheld
        simp only [stamped, hf, if_true, hheld, Option.toList_some, List.singleton_append] at hx
        rw [hq] at hr
        cases i with
        | zero =>
          obtain rfl := Option.some.inj hr
          obtain rfl := Option.some.inj hx
          simp
        | succ i =>
          rw [List.getElem?_cons_succ] at hr hx
          rw [ih hplain htail (by rw [hhandler]; exact hr) hx, hhandler]
          congr 1
          rw [UInt32.add_assoc, UInt32.ofNat_add, UInt32.add_comm 1]
          rfl

/-- The request loop and the client's calls in any order do not touch what is announced: the last
request of a list is taken under the announced number, which only wraps where the counter does. -/
theorem stamped_last (cfg : Config) (rs : List CaptureRequest) (before after : List Action)
    (hne : rs ≠ []) (hinput : ∀ r ∈ rs, r.input = false) (hs : (lts cfg).MTr {} before s)
    (hqueue : s.step cfg (.addRequestList rs false) = some t) (hrun : (lts cfg).MTr t after u)
    (hclear : .clear ∉ after)
    (hx : (stamped cfg t after)[s.handler.requests.length + rs.length - 1]? = some x) :
    x = (rs.getLast hne).stamp x.frameNumber ∧
      (x.frameNumber.toNat : Int) = s.handler.lastFrameNumber rs % 2 ^ 32 ∧
      (s.handler.lastFrameNumber rs < 2 ^ 32 →
        (x.frameNumber.toNat : Int) = s.handler.lastFrameNumber rs) := by
  have hadd : s.handler.addRequestList rs false = some (s.handler.queueRequestList rs) := by
    have hall : (rs.filter fun r => !r.input) = rs := by
      rw [List.filter_eq_self]
      simpa using hinput
    have hnone : rs.filter CaptureRequest.input = [] := by
      simpa [List.filter_eq_nil_iff] using hinput
    have hempty : rs.isEmpty = false := by simpa using hne
    simp [RequestHandler.addRequestList, hall, hnone, hempty]
  have ht : t.handler = s.handler.queueRequestList rs := by
    simp only [step, hadd, Option.bind_eq_bind, Option.bind_some, Option.pure_def,
      Option.some.injEq] at hqueue
    rw [← hqueue]
  have hpos : 0 < rs.length := List.length_pos_iff.mpr hne
  have hlast : t.handler.requests[s.handler.requests.length + rs.length - 1]? =
      some (rs.getLast hne) := by
    rw [ht, RequestHandler.queueRequestList, List.getElem?_append_right (by omega),
      List.getLast_eq_getElem, List.getElem?_eq_getElem (by omega)]
    congr 2
    omega
  have hplain : t.handler.Plain := by
    have hbefore : s.handler.Plain :=
      LTS.inv_of_mTr (P := fun s => s.handler.Plain) (plain_step cfg) hs ⟨by simp, by simp⟩
    exact plain_step cfg s _ t hqueue hbefore
  have hstamp := stamped_queue hrun hplain hclear hlast hx
  have hframe : t.handler.currentFrameNumber = s.handler.currentFrameNumber := by
    rw [ht, RequestHandler.queueRequestList]
  have hnumber : (x.frameNumber.toNat : Int) = s.handler.lastFrameNumber rs % 2 ^ 32 := by
    rw [hstamp, hframe]
    simp only [CaptureRequest.frameNumber, CaptureRequest.stamp, RequestHandler.lastFrameNumber,
      RequestHandler.queueRequestList, List.length_append, UInt32.toNat_add, UInt32.toNat_ofNat']
    omega
  refine ⟨?_, hnumber, fun hlt => ?_⟩
  · rw [hstamp]
    rfl
  · rw [hnumber]
    refine Int.emod_eq_of_lt ?_ hlt
    simp only [RequestHandler.lastFrameNumber, RequestHandler.queueRequestList, List.length_append]
    omega

def still : CaptureRequest := ⟨[0], { requestId := 1 }⟩

def retake : CaptureRequest := ⟨[2, 3], { requestId := 4 }⟩

/-- Two streaming requests, of which the loop has taken the first, and a queued request. -/
def beforeStills : List Action :=
  [.addRequestList [⟨[0], { requestId := 0 }⟩, ⟨[0, 1], { requestId := 1 }⟩] true, .getRequest,
    .submitRequest .accepted, .addRequestList [⟨[2], { requestId := 2 }⟩] false]

/-- The loop comes to them while the streaming requests change. -/
def withStills : List Action :=
  [.getRequest, .clearRepeatingRequests, .submitRequest .accepted, .getRequest,
    .addRequestList [⟨[1], { requestId := 5 }⟩] true, .submitRequest .noBuffer, .getRequest,
    .exitPending, .getRequest, .submitRequest .accepted, .getRequest]

theorem stamped_last_between_previews : ∃ s t u x, (lts {}).MTr {} beforeStills s ∧
    s.step {} (.addRequestList [still, retake] false) = some t ∧ (lts {}).MTr t withStills u ∧
    (stamped {} t withStills).map (fun r => (r.resultExtras.requestId, r.frameNumber)) =
      [(1, 1), (2, 2), (1, 3), (4, 4), (5, 5)] ∧
    (stamped {} t withStills)[s.handler.requests.length + 1]? = some x ∧
    x = retake.stamp x.frameNumber ∧
    (x.frameNumber.toNat : Int) = s.handler.lastFrameNumber [still, retake] := by
  have hrun : (LTS.run (step {}) {} beforeStills).bind (fun s =>
      (s.step {} (.addRequestList [still, retake] false)).bind fun t =>
      (LTS.run (step {}) t withStills).map fun _ => (s.handler.lastFrameNumber [still, retake],
        (stamped {} t withStills).map (fun r => (r.resultExtras.requestId, r.frameNumber)),
        (stamped {} t withStills)[s.handler.requests.length + 1]?.isSome)) =
      some (4, [(1, 1), (2, 2), (1, 3), (4, 4), (5, 5)], true) := by decide
  obtain ⟨s, hs, hrun⟩ := Option.bind_eq_some_iff.mp hrun
  obtain ⟨t, ht, hrun⟩ := Option.bind_eq_some_iff.mp hrun
  obtain ⟨u, hu, heq⟩ := Option.map_eq_some_iff.mp hrun
  obtain ⟨hannounced, heq⟩ := Prod.mk.inj heq
  obtain ⟨hnumbers, hx⟩ := Prod.mk.inj heq
  obtain ⟨x, hx⟩ := Option.isSome_iff_exists.mp hx
  have hbefore : (lts {}).MTr {} beforeStills s := LTS.mTr_ofStep_iff.mpr hs
  have hafter : (lts {}).MTr t withStills u := LTS.mTr_ofStep_iff.mpr hu
  obtain ⟨hlast, -, hframe⟩ := stamped_last {} [still, retake] beforeStills withStills (by simp)
    (by decide) hbefore ht hafter (by decide) hx
  exact ⟨s, t, u, x, hbefore, ht, hafter, hnumbers, hx, hlast,
    hframe (by rw [hannounced]; decide)⟩

/-- A streaming request has been taken a number of times. -/
def previewed (n : UInt32) : Camera :=
  { handler := { streamingRequests := [⟨[0], { requestId := 0 }⟩], currentFrameNumber := n } }

def rounds (k : Nat) : List Action :=
  (List.replicate k [.getRequest, .exitPending]).flatten

theorem run_rounds (n : UInt32) (k : Nat) :
    LTS.run (step cfg) (previewed n) (rounds k) = some (previewed (n + .ofNat k)) := by
  induction k generalizing n with
  | zero => simp [rounds, LTS.run]
  | succ k ih =>
    have hround : LTS.run (step cfg) (previewed n) (rounds (k + 1)) =
        LTS.run (step cfg) (previewed (n + 1)) (rounds k) := rfl
    rw [hround, ih, UInt32.add_assoc, UInt32.ofNat_add, UInt32.add_comm 1]
    rfl

/-- After 2 ^ 32 - 1 frames the second of two requests is announced as frame 2 ^ 32. -/
theorem announced_past_last_frame : ¬ ∀ (cfg : Config) (before after : List Action)
    (s t u : Camera) (rs : List CaptureRequest) (x : CaptureRequest), rs ≠ [] →
    (∀ r ∈ rs, r.input = false) → (lts cfg).MTr {} before s →
    s.step cfg (.addRequestList rs false) = some t → (lts cfg).MTr t after u → .clear ∉ after →
    (stamped cfg t after)[s.handler.requests.length + rs.length - 1]? = some x →
    (x.frameNumber.toNat : Int) = s.handler.lastFrameNumber rs := by
  intro hall
  have hbefore : (lts {}).MTr {} (.addRequestList (previewed 0).handler.streamingRequests true ::
      rounds (2 ^ 32 - 1)) (previewed (2 ^ 32 - 1)) :=
    .stepL (u := previewed 0) rfl (LTS.mTr_ofStep_iff.mpr (run_rounds 0 (2 ^ 32 - 1)))
  have hwrap := hall {} _ [.getRequest, .exitPending, .getRequest] _ _ _ [still, still]
    (still.stamp 0) (by simp) (by decide) hbefore rfl
    (.stepL rfl (.stepL rfl (.stepL rfl .refl))) (by decide) (by decide)
  exact absurd hwrap (by decide)

end Camera

end QmmfSdk.Camera3
