import QmmfSdk.Camera3.RequestHandler
import QmmfSdk.Library.Keyed

/-! The request handler with what its two loops share: the request that is being submitted, and
what the client and the HAL have been told. -/
namespace QmmfSdk.Camera3

open Library

namespace CaptureRequest

def requestId (r : CaptureRequest) : Int := r.resultExtras.requestId

/-- What `ClearCaptureRequest` leaves. -/
def cleared : CaptureRequest := ⟨[], { requestId := -1 }⟩

@[simp] theorem requestId_stamp (r : CaptureRequest) (n : UInt32) :
    (r.stamp n).requestId = r.requestId := rfl

@[simp] theorem streams_stamp (r : CaptureRequest) (n : UInt32) :
    (r.stamp n).streams = r.streams := rfl

end CaptureRequest

/-- `currentRequest` is the handler's own copy of what is in hand, one for both loops. `errors` is
what `error_cb_` got with `ERROR_CAMERA_REQUEST`, and `handed` are the calls of `SubmitRequest`. -/
structure Loops where
  camera : Camera := {}
  currentRequest : CaptureRequest := .cleared
  errors : List CaptureResultExtras := []
  handed : List (CaptureRequest × Submission) := []

namespace Loops

/-- Before `Clear` drops the queue it numbers each request and reports it. -/
def clearErrors (h : RequestHandler) : List CaptureResultExtras :=
  if h.hasErrorCb then
    h.requests.zipIdx.map fun (r, i) => (r.stamp (h.currentFrameNumber + .ofNat i)).resultExtras
  else []

/-- `SubmitRequest` reports the request itself only when a stream has no buffer for it. -/
def submitErrors (h : RequestHandler) (r : CaptureRequest) : Submission → List CaptureResultExtras
  | .noBuffer => if h.hasErrorCb then [r.resultExtras] else []
  | .noDevice | .notRegistered | .refused | .accepted => []

/-- Every way out of `SubmitRequest` clears `current_request_`, whichever loop has set it. -/
def submit (s : Loops) (camera : Camera) (r : CaptureRequest) (o : Submission) : Loops where
  camera := camera
  currentRequest := .cleared
  errors := s.errors ++ submitErrors s.camera.handler r o
  handed := s.handed ++ [(r, o)]

def clear (s : Loops) : Loops :=
  { s with
    camera := { s.camera with handler := s.camera.handler.clear }
    errors := s.errors ++ clearErrors s.camera.handler }

def step (cfg : Config) (s : Loops) (a : Camera.Action) : Option Loops := do
  let camera ← s.camera.step cfg a
  match a with
  | .clear => return s.clear
  | .getRequest => return { s with camera, currentRequest := camera.held.getD s.currentRequest }
  | .nextReproc =>
    return { s with camera, currentRequest := camera.heldReproc.getD s.currentRequest }
  | .submitRequest o => return s.submit camera (← s.camera.held) o
  | .submitReproc o => return s.submit camera (← s.camera.heldReproc) o
  | .addRequestList _ _ | .clearRepeatingRequests | .exitPending | .hal _ => return { s with camera }

/-- `SubmitRequestList` gives each request of a list an id of its own. -/
def requestsOf (next : Int) (rs : List (List Nat × Bool)) : List CaptureRequest :=
  rs.zipIdx.map fun (p, i) => ⟨p.1, { requestId := next + i, input := p.2 }⟩

theorem input_requestsOf {next : Int} {l : List (List Nat × Bool)} {k : Bool} :
    (∀ r ∈ requestsOf next l, r.input = k) ↔ ∀ p ∈ l, p.2 = k := by
  simp only [requestsOf, List.mem_map, forall_exists_index, and_imp]
  constructor
  · intro hall p hp
    obtain ⟨i, hi⟩ := List.mem_iff_getElem?.mp hp
    exact hall _ (p, i) (by simpa [List.mem_zipIdx_iff_getElem?] using hi) rfl
  · rintro hall r ⟨p, i⟩ hp rfl
    exact hall p (List.fst_mem_of_mem_zipIdx hp)

theorem exists_of_mem_requestsOf {next : Int} {l : List (List Nat × Bool)} {r : CaptureRequest}
    (h : r ∈ requestsOf next l) : ∃ p ∈ l, r.streams = p.1 ∧ r.input = p.2 := by
  obtain ⟨⟨p, i⟩, hp, rfl⟩ := List.mem_map.mp h
  exact ⟨p, List.fst_mem_of_mem_zipIdx hp, rfl, rfl⟩

/-- Looks through `current_request_`, the queue and the streaming list. -/
def isStreamActive (s : Loops) (stream : Nat) : Bool :=
  s.currentRequest.streams.contains stream ||
    s.camera.handler.requests.any (fun r => r.streams.contains stream) ||
    s.camera.handler.streamingRequests.any (fun r => r.streams.contains stream)

/-- `pending_request` of `TogglePause`. -/
def pendingRequest (s : Loops) : Bool :=
  !(s.camera.handler.requests.isEmpty && s.camera.handler.streamingRequests.isEmpty)

/-- What the two loops have taken or will take, however it got there. -/
def inHand (s : Loops) : List CaptureRequest :=
  s.camera.handler.reprocRequests ++ s.camera.held.toList ++ s.camera.heldReproc.toList

def waiting (s : Loops) : List CaptureRequest :=
  s.camera.handler.requests ++ s.camera.handler.streamingRequests ++ s.inHand

section Steps

variable {cfg : Config} {s t : Loops} {a : Camera.Action} {h d : RequestHandler}
  {rs : List CaptureRequest} {streaming : Bool}

/-- Where a list of requests ends up. -/
inductive Added (h : RequestHandler) (rs : List CaptureRequest) (streaming : Bool) :
    RequestHandler → Prop where
  | nothing (hrs : (∀ r ∈ rs, r.input = false) → rs = []) : Added h rs streaming h
  | reproc (hrs : ∃ r ∈ rs, r.input = true) :
      Added h rs streaming { h with reprocRequests := h.reprocRequests ++ rs }
  | repeating (hrs : ∀ r ∈ rs, r.input = false) (hstreaming : streaming = true) :
      Added h rs streaming { h with streamingRequests := rs }
  | queued (hstreaming : streaming = false) :
      Added h rs streaming { h with requests := h.requests ++ rs }

theorem added_of_addRequestList (hadd : h.addRequestList rs streaming = some d) :
    Added h rs streaming d := by
  unfold RequestHandler.addRequestList at hadd
  dsimp only at hadd
  split at hadd
  next hkind =>
    obtain rfl := Option.some.inj hadd
    refine .nothing fun hnone => ?_
    have hall : (rs.filter fun r => !r.input) = rs := by
      rw [List.filter_eq_self]
      simpa using hnone
    have hempty : rs.filter CaptureRequest.input = [] := by simpa using hnone
    simpa [hall, hempty] using hkind
  next hkind =>
  cases hin : rs.filter CaptureRequest.input with
  | cons r rest =>
    have hall : rs.filter CaptureRequest.input = rs := by
      have hempty : (rs.filter fun r => !r.input) = [] := by simpa [hin] using hkind
      rw [List.filter_eq_self]
      simpa [List.filter_eq_nil_iff] using hempty
    have hr : r ∈ rs := by
      rw [← hall, hin]
      exact List.mem_cons_self
    have hinput : r.input = true := by
      rw [← hall] at hr
      exact (List.mem_filter.mp hr).2
    rw [hin] at hall
    rw [if_pos (by simp [hin]), hin, hall] at hadd
    unfold RequestHandler.queueReprocRequestList at hadd
    split at hadd
    · simp at hadd
    · obtain rfl := Option.some.inj hadd
      exact .reproc ⟨r, hr, hinput⟩
  | nil =>
    have hnone : ∀ r ∈ rs, r.input = false := by simpa [List.filter_eq_nil_iff] using hin
    have hall : (rs.filter fun r => !r.input) = rs := by
      rw [List.filter_eq_self]
      simpa using hnone
    rw [if_neg (by simp [hin]), hall] at hadd
    cases streaming with
    | true =>
      obtain rfl := Option.some.inj hadd
      exact .repeating hnone rfl
    | false =>
      obtain rfl := Option.some.inj hadd
      exact .queued rfl

/-- What `GetRequest` takes: nothing, a new round of the streaming list, or one of the queue. -/
inductive Got (h : RequestHandler) : Option CaptureRequest × RequestHandler → Prop where
  | nothing : Got h (none, h)
  | round {r : CaptureRequest} {rest : List CaptureRequest} {n m : UInt32}
      (hqueue : h.requests = []) (hstreaming : h.streamingRequests = r :: rest) :
      Got h (some (r.stamp n), { h with requests := rest, currentFrameNumber := m })
  | queued {r : CaptureRequest} {rest : List CaptureRequest} {n m k : UInt32}
      (hqueue : h.requests.Perm (r :: rest)) :
      Got h (some (r.stamp n),
        { h with requests := rest, currentFrameNumber := m, currentInputFrameNumber := k })

/-- The first request of a kind, taken out of the queue. -/
theorem perm_eraseP_of_find? {r : CaptureRequest} {p : CaptureRequest → Bool}
    (h : rs.find? p = some r) : rs.Perm (r :: rs.eraseP p) := by
  obtain ⟨before, after, hrs, hrest⟩ := Keyed.eraseP_of_find? h
  rw [hrest, hrs]
  exact List.perm_middle

theorem got_getRequest : Got h h.getRequest := by
  unfold RequestHandler.getRequest
  split
  next hq =>
    split
    · exact .nothing
    next r rest hs => exact .round hq hs
  next r rest hq =>
    split
    next reproc hfind =>
      refine .queued ?_
      rw [hq]
      exact perm_eraseP_of_find? hfind
    · refine .queued ?_
      rw [hq]

/-- All that a step of the handler can do. -/
inductive Moves (s : Loops) : Camera.Action → Loops → Prop where
  | added {rs : List CaptureRequest} {streaming : Bool} {h : RequestHandler}
      (hadd : Added s.camera.handler rs streaming h) :
      Moves s (.addRequestList rs streaming) { s with camera := { s.camera with handler := h } }
  | clearRepeating : Moves s .clearRepeatingRequests
      { s with camera := { s.camera with handler := s.camera.handler.clearRepeatingRequests } }
  | clear : Moves s .clear s.clear
  | got {r : Option CaptureRequest} {h : RequestHandler} (hidle : s.camera.held = none)
      (hgot : Got s.camera.handler (r, h)) : Moves s .getRequest
      { s with
        camera := { s.camera with handler := h, held := r }
        currentRequest := r.getD s.currentRequest }
  | exit : Moves s .exitPending { s with camera := { s.camera with held := none } }
  | submitted {r : CaptureRequest} {o : Submission} {client : DeviceClient}
      (hr : s.camera.held = some r) :
      Moves s (.submitRequest o) (s.submit { s.camera with client, held := none } r o)
  | idle (hidle : s.camera.heldReproc = none) :
      Moves s .nextReproc { s with camera := { s.camera with heldReproc := none } }
  | nextReproc {r : CaptureRequest} {rest : List CaptureRequest} {n m : UInt32}
      (hidle : s.camera.heldReproc = none) (hq : s.camera.handler.reprocRequests = r :: rest) :
      Moves s .nextReproc
      { s with
        camera := { s.camera with
          handler := { s.camera.handler with
            reprocRequests := rest, currentInputFrameNumber := m, workerBusy := true }
          heldReproc := some (r.stamp n) }
        currentRequest := r.stamp n }
  | submittedReproc {r : CaptureRequest} {o : Submission} {client : DeviceClient} {busy : Bool}
      (hr : s.camera.heldReproc = some r) :
      Moves s (.submitReproc o)
      (s.submit { s.camera with
        client, handler := { s.camera.handler with workerBusy := busy }, heldReproc := none } r o)
  | hal {e : DeviceClient.Event} {client : DeviceClient} :
      Moves s (.hal e) { s with camera := { s.camera with client } }

theorem step_cases (hstep : s.step cfg a = some t) : Moves s a t := by
  obtain ⟨c, hc, ht⟩ := Option.bind_eq_some_iff.mp hstep
  cases a with
  | addRequestList rs streaming =>
    obtain ⟨h, hadd, hh⟩ := Option.bind_eq_some_iff.mp hc
    obtain rfl := Option.some.inj hh
    obtain rfl := Option.some.inj ht
    exact .added (added_of_addRequestList hadd)
  | clearRepeatingRequests =>
    obtain rfl := Option.some.inj hc
    obtain rfl := Option.some.inj ht
    exact .clearRepeating
  | clear =>
    obtain rfl := Option.some.inj hc
    obtain rfl := Option.some.inj ht
    exact .clear
  | getRequest =>
    simp only [Camera.step] at hc
    split at hc
    · simp at hc
    next hidle =>
    obtain rfl := Option.some.inj hc
    obtain rfl := Option.some.inj ht
    exact .got (by simpa using hidle) got_getRequest
  | exitPending =>
    obtain rfl := Option.some.inj hc
    obtain rfl := Option.some.inj ht
    exact .exit
  | submitRequest o =>
    obtain ⟨r, hr, hc⟩ := Option.bind_eq_some_iff.mp hc
    obtain rfl := Option.some.inj hc
    obtain ⟨r', hr', ht⟩ := Option.bind_eq_some_iff.mp ht
    obtain rfl := Option.some.inj (hr.symm.trans hr')
    obtain rfl := Option.some.inj ht
    exact .submitted hr
  | nextReproc =>
    simp only [Camera.step] at hc
    split at hc
    · simp at hc
    next hidle =>
    have hnone : s.camera.heldReproc = none := by simpa using hidle
    obtain rfl := Option.some.inj hc
    obtain rfl := Option.some.inj ht
    unfold RequestHandler.nextReproc
    cases hq : s.camera.handler.reprocRequests with
    | nil => exact .idle hnone
    | cons r rest => exact .nextReproc hnone hq
  | submitReproc o =>
    obtain ⟨r, hr, hc⟩ := Option.bind_eq_some_iff.mp hc
    obtain rfl := Option.some.inj hc
    obtain ⟨r', hr', ht⟩ := Option.bind_eq_some_iff.mp ht
    obtain rfl := Option.some.inj (hr.symm.trans hr')
    obtain rfl := Option.some.inj ht
    exact .submittedReproc hr
  | hal e =>
    simp only [Camera.step] at hc
    split at hc
    · simp at hc
    · obtain rfl := Option.some.inj hc
      obtain rfl := Option.some.inj ht
      exact .hal

theorem mem_waiting {r : CaptureRequest} : r ∈ s.waiting ↔
    r ∈ s.camera.handler.requests ∨ r ∈ s.camera.handler.streamingRequests ∨
      r ∈ s.camera.handler.reprocRequests ∨ s.camera.held = some r ∨
      s.camera.heldReproc = some r := by
  simp [waiting, inHand]

theorem mem_waiting_added {r : CaptureRequest} (hadd : Added s.camera.handler rs streaming h)
    (hr : r ∈ waiting { s with camera := { s.camera with handler := h } }) :
    r ∈ s.waiting ∨ r ∈ rs := by
  rw [mem_waiting] at hr ⊢
  cases hadd <;> simp only [List.mem_append] at hr <;> tauto

/-- `GetRequest` moves a request from the queue or the streaming list to the loop, and a new round
puts the rest of the streaming list into the queue. -/
theorem mem_waiting_got {q : Option CaptureRequest} {current r : CaptureRequest}
    (hgot : Got s.camera.handler (q, h))
    (hr : r ∈ waiting { s with
      camera := { s.camera with handler := h, held := q }, currentRequest := current }) :
    ∃ r' ∈ s.waiting, r.streams = r'.streams ∧ r.input = r'.input := by
  have hsame : r ∈ s.waiting → ∃ r' ∈ s.waiting, r.streams = r'.streams ∧ r.input = r'.input :=
    fun h => ⟨r, h, rfl, rfl⟩
  rw [mem_waiting] at hr
  cases hgot with
  | nothing =>
    apply hsame
    rw [mem_waiting]
    simp only [reduceCtorEq, false_or] at hr
    tauto
  | @round q rest n m hqueue hstreaming =>
    simp only [Option.some.injEq] at hr
    rcases hr with hr | hr | hr | rfl | hr
    · exact ⟨r, mem_waiting.mpr (.inr (.inl (by simp [hstreaming, hr]))), rfl, rfl⟩
    · exact hsame (mem_waiting.mpr (.inr (.inl hr)))
    · exact hsame (mem_waiting.mpr (.inr (.inr (.inl hr))))
    · exact ⟨q, mem_waiting.mpr (.inr (.inl (by simp [hstreaming]))), rfl, rfl⟩
    · exact hsame (mem_waiting.mpr (.inr (.inr (.inr (.inr hr)))))
  | @queued q rest n m k hqueue =>
    simp only [Option.some.injEq] at hr
    rcases hr with hr | hr | hr | rfl | hr
    · exact ⟨r, mem_waiting.mpr (.inl (hqueue.mem_iff.mpr (by simp [hr]))), rfl, rfl⟩
    · exact hsame (mem_waiting.mpr (.inr (.inl hr)))
    · exact hsame (mem_waiting.mpr (.inr (.inr (.inl hr))))
    · exact ⟨q, mem_waiting.mpr (.inl (hqueue.mem_iff.mpr (by simp))), rfl, rfl⟩
    · exact hsame (mem_waiting.mpr (.inr (.inr (.inr (.inr hr)))))

/-- Steps of the loops bring nothing new, they only number what waits. -/
theorem mem_waiting_moves (hm : Moves s a t)
    (hadd : ∀ rs streaming, a ≠ .addRequestList rs streaming) {r : CaptureRequest}
    (hr : r ∈ t.waiting) : ∃ r' ∈ s.waiting, r.streams = r'.streams ∧ r.input = r'.input := by
  have hsame : r ∈ s.waiting → ∃ r' ∈ s.waiting, r.streams = r'.streams ∧ r.input = r'.input :=
    fun h => ⟨r, h, rfl, rfl⟩
  cases hm with
  | added h => exact absurd rfl (hadd _ _)
  | clear =>
    apply hsame
    rw [mem_waiting] at hr ⊢
    simp only [clear, RequestHandler.clear, List.not_mem_nil, false_or] at hr
    exact .inr (.inr hr)
  | clearRepeating =>
    apply hsame
    rw [mem_waiting] at hr ⊢
    simp only [RequestHandler.clearRepeatingRequests, List.not_mem_nil, false_or] at hr
    tauto
  | got hidle hgot => exact mem_waiting_got hgot hr
  | exit =>
    apply hsame
    rw [mem_waiting] at hr ⊢
    simp only [reduceCtorEq, false_or] at hr
    tauto
  | submitted hheld =>
    apply hsame
    rw [mem_waiting] at hr ⊢
    simp only [submit, reduceCtorEq, false_or] at hr
    tauto
  | idle hidle =>
    apply hsame
    rw [mem_waiting] at hr ⊢
    simp only [reduceCtorEq, or_false] at hr
    tauto
  | @nextReproc q rest n m hidle hq =>
    rw [mem_waiting] at hr
    simp only [Option.some.injEq] at hr
    rcases hr with hr | hr | hr | hr | rfl
    · exact hsame (mem_waiting.mpr (.inl hr))
    · exact hsame (mem_waiting.mpr (.inr (.inl hr)))
    · exact ⟨r, mem_waiting.mpr (.inr (.inr (.inl (by simp [hq, hr])))), rfl, rfl⟩
    · exact hsame (mem_waiting.mpr (.inr (.inr (.inr (.inl hr)))))
    · exact ⟨q, mem_waiting.mpr (.inr (.inr (.inl (by simp [hq])))), rfl, rfl⟩
  | submittedReproc hheld =>
    apply hsame
    rw [mem_waiting] at hr ⊢
    simp only [submit, reduceCtorEq, or_false] at hr
    tauto
  | hal => exact hsame hr

end Steps

end Loops

end QmmfSdk.Camera3
