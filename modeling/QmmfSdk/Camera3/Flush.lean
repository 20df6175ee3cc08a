import Mathlib.Tactic.Abel
import QmmfSdk.Library.Drain
import QmmfSdk.Camera3.RequestLoops

/-! What `Clear` drops when `Flush` calls it, and what the client hears of it. -/
namespace QmmfSdk.Camera3

open Library

/-- The loops, the calls of `Clear` that still wait, and what was found waiting by each of them.
`repeating` are the ids that have been in a streaming list; `flushed` is what the calls that have
returned had found, and `late` what of it has reached the HAL since. -/
structure FlushWatch where
  loops : Loops := {}
  nextRequestId : Int := 0
  repeating : List Int := []
  clears : List (List Int) := []
  flushed : List Int := []
  late : List Int := []

/-- Calls of the client, the return of a `Clear`, and the steps of the loops and the HAL. -/
inductive FlushAction where
  | submitRequestList (rs : List (List Nat × Bool)) (streaming : Bool)
  | clear
  | clearReturn (i : Nat)
  | loop (a : Camera.Action)
  deriving DecidableEq, Repr

namespace FlushWatch

open Loops (requestsOf)

def ids (rs : List CaptureRequest) : List Int := rs.map CaptureRequest.requestId

/-- The ids that a step brings to the HAL although a `Clear` has returned that had found them. -/
def lateOf (w : FlushWatch) : Camera.Action → List Int
  | .submitRequest o =>
    if o.marks then (ids w.loops.camera.held.toList).filter (· ∈ w.flushed) else []
  | .submitReproc o =>
    if o.marks then (ids w.loops.camera.heldReproc.toList).filter (· ∈ w.flushed) else []
  | _ => []

/-- `Clear` waits only if there is a current request. -/
def beginClear (w : FlushWatch) (loops : Loops) : FlushWatch :=
  if w.loops.currentRequest.requestId != -1 then
    { w with loops, clears := w.clears ++ [ids w.loops.waiting] }
  else { w with loops, flushed := w.flushed ++ ids w.loops.waiting }

/-- The wait of `Clear` ends by a signal, by its timeout or for no reason; which it was changes
nothing in the handler. -/
def step (cfg : Config) (w : FlushWatch) : FlushAction → Option FlushWatch
  | .submitRequestList rs streaming => do
    let requests := requestsOf w.nextRequestId rs
    return { w with
      loops := ← w.loops.step cfg (.addRequestList requests streaming)
      nextRequestId := w.nextRequestId + rs.length
      repeating :=
        if streaming && rs.all (fun p => !p.2) then w.repeating ++ ids requests else w.repeating }
  | .clear => do return w.beginClear (← w.loops.step cfg .clear)
  | .clearReturn i => do
    let old ← w.clears[i]?
    return { w with clears := w.clears.eraseIdx i, flushed := w.flushed ++ old }
  | .loop a =>
    match a with
    | .addRequestList _ _ | .clear => none
    | a => do return { w with loops := ← w.loops.step cfg a, late := w.late ++ w.lateOf a }

def lts (cfg : Config) : LTS FlushWatch FlushAction := .ofStep (step cfg)

/-- The constructor leaves the id of `current_request_` unset. -/
def start (id : Int) : FlushWatch :=
  { loops := { currentRequest := ⟨[], { requestId := id }⟩ } }

/-- Nothing that was waiting when a `Clear` began reaches the HAL after its return, and what was
not handed over either has been reported once, unless it is of a streaming list. -/
def Clean (w : FlushWatch) : Prop :=
  w.late = [] ∧ ∀ id ∈ w.flushed, id ∉ w.repeating → id ∉ ids (w.loops.handed.map Prod.fst) →
    (w.loops.errors.map CaptureResultExtras.requestId).count id = 1

/-- Conditions on a `Clear`: its return finds none of its requests with the reprocess loop or in
hand, and there is a callback for what it reports. No request in hand gets lost meanwhile. -/
def settled (w : FlushWatch) : FlushAction → Bool
  | .clear =>
    (w.loops.camera.handler.hasErrorCb ||
      w.loops.camera.handler.requests.all fun r => r.requestId ∈ w.repeating) &&
    (w.loops.currentRequest.requestId != -1 || w.loops.inHand.isEmpty)
  | .clearReturn i => (w.clears[i]?.getD []).all fun id => id ∉ ids w.loops.inHand
  | .loop .exitPending =>
    (ids w.loops.camera.held.toList).all fun id => w.clears.all fun old => id ∉ old
  | _ => true

section Abstraction

/-- The ids of a list of requests, without their order. -/
def idSet (rs : List CaptureRequest) : Multiset Int := ids rs

variable {cfg : Config} {w v : FlushWatch} {a : FlushAction} {s t : Loops} {b : Camera.Action}
  {r : CaptureRequest} {rs rs' : List CaptureRequest} {next id : Int} {repeating : List Int}

@[simp] theorem idSet_nil : idSet [] = 0 := rfl

@[simp] theorem idSet_cons : idSet (r :: rs) = r.requestId ::ₘ idSet rs := rfl

@[simp] theorem idSet_append : idSet (rs ++ rs') = idSet rs + idSet rs' := by
  simp [idSet, ids]

theorem idSet_perm (h : rs.Perm rs') : idSet rs = idSet rs' :=
  Multiset.coe_eq_coe.mpr (h.map _)

theorem mem_idSet : id ∈ idSet rs ↔ id ∈ ids rs := Multiset.mem_coe

/-- The loops as a store with a flush. -/
def drain (s : Loops) (next : Int) (repeating : List Int) : Drain Int where
  queued := idSet s.camera.handler.requests
  repeating := idSet s.camera.handler.streamingRequests
  inHand := idSet s.camera.handler.reprocRequests + idSet s.camera.held.toList +
    idSet s.camera.heldReproc.toList
  handed := idSet (s.handed.map Prod.fst)
  told := (s.errors.map CaptureResultExtras.requestId : List Int)
  known := { id | id < next }
  copied := { id | id ∈ repeating }

theorem mem_inHand : id ∈ (drain s next repeating).inHand ↔ id ∈ ids s.inHand := by
  simp [drain, Loops.inHand, mem_idSet, ids, or_assoc]

theorem mem_waiting : id ∈ ids s.waiting ↔ id ∈ (drain s next repeating).queued +
    (drain s next repeating).repeating + (drain s next repeating).inHand := by
  rw [Multiset.mem_add, Multiset.mem_add, mem_inHand]
  simp [drain, Loops.waiting, mem_idSet, ids, or_assoc]

theorem ids_requestsOf (next : Int) (l : List (List Nat × Bool)) :
    ids (requestsOf next l) = (List.range l.length).map fun i : Nat => next + (i : Int) := by
  simp only [ids, requestsOf, List.map_map]
  apply List.ext_getElem
  · simp
  · intro i hi hi'
    simp [CaptureRequest.requestId]

/-- The ids that a list is given are new, below the next one, and all different. -/
theorem requestsOf_fresh (next : Int) (l : List (List Nat × Bool)) :
    (∀ id ∈ idSet (requestsOf next l), id < next + l.length) ∧
      (∀ id ∈ idSet (requestsOf next l), ¬ id < next) ∧ (idSet (requestsOf next l)).Nodup := by
  simp only [idSet, ids_requestsOf, Multiset.mem_coe, List.mem_map, List.mem_range,
    Multiset.coe_nodup]
  refine ⟨?_, ?_, ?_⟩
  · rintro id ⟨i, hi, rfl⟩
    omega
  · rintro id ⟨i, -, rfl⟩
    omega
  · refine List.Nodup.map (fun i j h => ?_) List.nodup_range
    omega

/-- A list of the client is queued, held for the reprocess loop, or repeated. -/
theorem drain_added {h : RequestHandler} {l : List (List Nat × Bool)} {streaming : Bool}
    (hadd : Loops.Added s.camera.handler (requestsOf next l) streaming h) :
    Drain.Step (drain s next repeating) 0
      (drain { s with camera := { s.camera with handler := h } } (next + l.length)
        (if streaming && l.all (fun p => !p.2) then repeating ++ ids (requestsOf next l)
          else repeating)) := by
  obtain ⟨hmem, hfresh, hnodup⟩ := requestsOf_fresh next l
  have hK : (drain s next repeating).known ⊆ { id | id < next + (l.length : Int) } := by
    intro id hid
    have : id < next := hid
    show id < next + (l.length : Int)
    omega
  have hall : l.all (fun p => !p.2) = true ↔ ∀ r ∈ requestsOf next l, r.input = false := by
    simp [Loops.input_requestsOf]
  cases hadd with
  | nothing hrs =>
    have hsame : (if streaming && l.all (fun p => !p.2) then repeating ++ ids (requestsOf next l)
        else repeating) = repeating := by
      split
      next hcond =>
        rw [hrs (hall.mp (Bool.and_eq_true_iff.mp hcond).2)]
        simp [ids]
      · rfl
    rw [hsame]
    exact .stay hK
  | reproc hrs =>
    obtain ⟨r, hr, hinput⟩ := hrs
    have hmixed : l.all (fun p => !p.2) = false := by
      rw [← Bool.not_eq_true, hall]
      intro hnone
      simp [hnone r hr] at hinput
    rw [hmixed, Bool.and_false, if_neg (by simp)]
    convert Drain.Step.hold hK hmem hfresh hnodup using 1
    simp [drain, add_assoc, add_comm, add_left_comm]
  | repeating hrs hstreaming =>
    rw [hstreaming, hall.mpr hrs, Bool.and_self, if_pos rfl]
    refine .repeats hK hmem hfresh (fun id hid => ?_) (fun id hid => ?_)
    · exact List.mem_append_left _ hid
    · exact List.mem_append_right _ hid
  | queued hstreaming =>
    rw [hstreaming, Bool.false_and, if_neg (by simp)]
    convert Drain.Step.queue hK hmem hfresh hnodup using 1
    simp [drain]

/-- Where the request that a loop has in hand stands among the others. -/
theorem inHand_of_held (h : s.camera.held = some r) : (drain s next repeating).inHand =
    r.requestId ::ₘ
      (idSet s.camera.handler.reprocRequests + idSet s.camera.heldReproc.toList) := by
  simp only [drain, h, Option.toList_some, idSet_cons, idSet_nil, ← Multiset.singleton_add]
  abel

theorem inHand_of_heldReproc (h : s.camera.heldReproc = some r) : (drain s next repeating).inHand =
    r.requestId ::ₘ (idSet s.camera.handler.reprocRequests + idSet s.camera.held.toList) := by
  simp only [drain, h, Option.toList_some, idSet_cons, idSet_nil, ← Multiset.singleton_add]
  abel

theorem submitErrors_cases {h : RequestHandler} {o : Submission} :
    ((Loops.submitErrors h r o).map CaptureResultExtras.requestId : Multiset Int) = 0 ∨
      ((Loops.submitErrors h r o).map CaptureResultExtras.requestId : Multiset Int) =
        {r.requestId} := by
  cases o with
  | noBuffer =>
    dsimp only [Loops.submitErrors]
    split
    · exact .inr rfl
    · exact .inl rfl
  | noDevice => exact .inl rfl
  | notRegistered => exact .inl rfl
  | refused => exact .inl rfl
  | accepted => exact .inl rfl

/-- Whatever becomes of a submission, the request is handed over and told of at most once. -/
theorem drain_submit {o : Submission} {c : Camera} {rest : Multiset Int}
    (hin : (drain s next repeating).inHand = r.requestId ::ₘ rest)
    (hrest : (drain (s.submit c r o) next repeating).inHand = rest)
    (hqueue : c.handler.requests = s.camera.handler.requests)
    (hstreaming : c.handler.streamingRequests = s.camera.handler.streamingRequests) :
    Drain.Step (drain s next repeating) 0 (drain (s.submit c r o) next repeating) := by
  have hsaid := submitErrors_cases (r := r) (h := s.camera.handler) (o := o)
  convert Drain.Step.hand hin hsaid using 1
  ext1
  · simp [drain, Loops.submit, hqueue]
  · simp [drain, Loops.submit, hstreaming]
  · exact hrest
  · simp only [drain, Loops.submit, List.map_append, idSet_append, List.map_cons, List.map_nil,
      idSet_cons, idSet_nil, ← Multiset.singleton_add]
    abel
  · simp [drain, Loops.submit]
  · rfl
  · rfl

/-- The loops only take what waits and hand over what they hold. -/
theorem drain_moves (hm : Loops.Moves s b t)
    (hadd : ∀ rs streaming, b ≠ .addRequestList rs streaming) (hclear : b ≠ .clear) :
    ∃ lost, Drain.Step (drain s next repeating) lost (drain t next repeating) ∧
      ∀ id ∈ lost, b = .exitPending ∧ id ∈ ids s.camera.held.toList := by
  have hstay : Drain.Step (drain s next repeating) 0 (drain s next repeating) :=
    Drain.Step.stay (fun _ h => h)
  cases hm with
  | added h => exact absurd rfl (hadd _ _)
  | clear => exact absurd rfl hclear
  | clearRepeating => exact ⟨0, .stop, by simp⟩
  | @got r' h hidle hgot =>
    refine ⟨0, ?_, by simp⟩
    cases hgot with
    | nothing =>
      convert hstay using 1
      simp [drain, hidle]
    | @round r rest n m hqueue hstreaming =>
      have hrep : (drain s next repeating).repeating = r.requestId ::ₘ idSet rest := by
        simp [drain, hstreaming]
      convert Drain.Step.round hrep using 1
      ext1
      · simp [drain, hqueue]
      · rfl
      · rw [inHand_of_held rfl]
        simp [drain, hidle]
      all_goals rfl
    | @queued r rest n m k hqueue =>
      have hq : (drain s next repeating).queued = r.requestId ::ₘ idSet rest := idSet_perm hqueue
      convert Drain.Step.take hq using 1
      ext1
      · rfl
      · rfl
      · rw [inHand_of_held rfl]
        simp [drain, hidle]
      all_goals rfl
  | exit =>
    cases hheld : s.camera.held with
    | none =>
      refine ⟨0, ?_, by simp⟩
      convert hstay using 1
      simp [drain, hheld]
    | some r =>
      refine ⟨{r.requestId}, ?_, by simp [ids]⟩
      convert Drain.Step.lose (inHand_of_held hheld) using 1
      simp [drain]
  | @submitted r o client hr =>
    refine ⟨0, drain_submit (inHand_of_held hr) ?_ rfl rfl, by simp⟩
    simp [drain, Loops.submit]
  | idle hidle =>
    refine ⟨0, ?_, by simp⟩
    convert hstay using 1
    simp [drain, hidle]
  | @nextReproc r rest n m hidle hq =>
    refine ⟨0, ?_, by simp⟩
    convert hstay using 1
    ext1
    · rfl
    · rfl
    · rw [inHand_of_heldReproc rfl]
      simp [drain, hidle, hq]
    all_goals rfl
  | @submittedReproc r o client busy hr =>
    refine ⟨0, drain_submit (inHand_of_heldReproc hr) ?_ rfl rfl, by simp⟩
    simp [drain, Loops.submit]
  | hal => exact ⟨0, hstay, by simp⟩

theorem clearErrors_cases {h : RequestHandler} :
    ((Loops.clearErrors h).map CaptureResultExtras.requestId : Multiset Int) =
      if h.hasErrorCb then idSet h.requests else 0 := by
  unfold Loops.clearErrors
  split
  · rw [idSet, ids, List.map_map, Multiset.coe_eq_coe]
    apply List.Perm.of_eq
    apply List.ext_getElem
    · simp
    · intro i hi hi'
      simp [CaptureRequest.requestId, CaptureRequest.stamp]
  · rfl

/-- `Clear` is the flush of the store. -/
theorem drain_clear : drain s.clear next repeating =
    { drain s next repeating with
      queued := 0
      repeating := 0
      told := (drain s next repeating).told +
        if s.camera.handler.hasErrorCb then idSet s.camera.handler.requests else 0 } := by
  rw [← clearErrors_cases]
  simp [drain, Loops.clear, RequestHandler.clear]

def books (w : FlushWatch) : Drain Int := drain w.loops w.nextRequestId w.repeating

/-- What the calls of `Clear` that still wait had found is on its way out; what those that have
returned had found is gone. -/
structure Tracked (w : FlushWatch) : Prop where
  sound : w.books.Sound
  clears : ∀ old ∈ w.clears, Drain.Left (old : Multiset Int) w.books
  flushed : Drain.Gone (w.flushed : Multiset Int) w.books
  late : w.late = []

theorem Tracked.clean (h : Tracked w) : Clean w := by
  refine ⟨h.late, fun id hid hrep hhanded => ?_⟩
  have htold : w.books.told.count id = 1 := h.flushed.told_once hid hrep hhanded
  rwa [show w.books.told = (w.loops.errors.map CaptureResultExtras.requestId : List Int) from rfl,
    Multiset.coe_count] at htold

theorem Tracked.step {lost : Multiset Int} (h : Tracked w) (hs : Drain.Step w.books lost v.books)
    (hlost : ∀ id ∈ lost, ∀ old ∈ w.clears, id ∉ old) (hclears : v.clears = w.clears)
    (hflushed : v.flushed = w.flushed) (hlate : v.late = []) : Tracked v := by
  refine ⟨Drain.sound_step h.sound hs, fun old hold => ?_, ?_, hlate⟩
  · rw [hclears] at hold
    exact Drain.left_step hs (fun id hid => hlost id hid old hold) (h.clears old hold)
  · rw [hflushed]
    exact Drain.gone_step hs h.flushed

/-- Nothing of what is gone is in hand, so nothing of it is late. -/
theorem Tracked.lateOf (h : Tracked w) : w.lateOf b = [] := by
  have hnone : ∀ l : List CaptureRequest, (∀ id ∈ ids l, id ∈ ids w.loops.inHand) →
      (ids l).filter (· ∈ w.flushed) = [] := by
    intro l hl
    rw [List.filter_eq_nil_iff]
    intro id hid
    have hnot : id ∉ w.flushed := fun hf => h.flushed.inHand id hf (mem_inHand.mpr (hl id hid))
    simpa using hnot
  cases b with
  | submitRequest o =>
    dsimp only [FlushWatch.lateOf]
    split
    · exact hnone _ fun id hid => by simp_all [Loops.inHand, ids]
    · rfl
  | submitReproc o =>
    dsimp only [FlushWatch.lateOf]
    split
    · exact hnone _ fun id hid => by simp_all [Loops.inHand, ids]
    · rfl
  | _ => rfl

/-- What a `Clear` has told of when it begins to wait. -/
def cleared (w : FlushWatch) : Multiset Int :=
  if w.loops.camera.handler.hasErrorCb then idSet w.loops.camera.handler.requests else 0

theorem cleared_cases : w.cleared = 0 ∨ w.cleared = w.books.queued := by
  unfold cleared
  split
  · exact .inr rfl
  · exact .inl rfl

/-- The callback hears of every queued request that is not of a streaming list. -/
theorem cleared_all (h : w.settled .clear = true) :
    w.cleared = w.books.queued ∨ ∀ id ∈ w.books.queued, id ∈ w.books.copied := by
  simp only [settled, Bool.and_eq_true, Bool.or_eq_true, List.all_eq_true,
    decide_eq_true_eq] at h
  unfold cleared
  split
  · exact .inl rfl
  next hno =>
    refine .inr fun id hid => ?_
    obtain ⟨r, hr, rfl⟩ := List.mem_map.mp (mem_idSet.mp hid)
    exact h.1.resolve_left hno r hr

/-- A `Clear` that finds everything in order leaves its requests on their way out. -/
theorem Tracked.beginClear (h : Tracked w) (hguard : w.settled .clear = true) :
    Tracked (w.beginClear w.loops.clear) := by
  have hflush := Drain.Step.flush (cleared_cases (w := w))
  have hsub : ∀ id ∈ (ids w.loops.waiting : Multiset Int),
      id ∈ w.books.queued + w.books.repeating + w.books.inHand := fun id hid => mem_waiting.mp hid
  have hleft := (Drain.left_flush h.sound (cleared_all hguard)).mono hsub
  rw [show w.books = drain w.loops w.nextRequestId w.repeating from rfl, cleared, ← drain_clear]
    at hflush hleft
  unfold FlushWatch.beginClear
  split
  · refine ⟨Drain.sound_step h.sound hflush, fun old hold => ?_, Drain.gone_step hflush h.flushed,
      h.late⟩
    rcases List.mem_append.mp hold with hold | hold
    · exact Drain.left_step hflush (by simp) (h.clears old hold)
    · rw [List.mem_singleton.mp hold]
      exact hleft
  next hcurrent =>
    have hempty : w.loops.inHand = [] := by
      simpa [settled, hcurrent] using (Bool.and_eq_true_iff.mp hguard).2
    have hgone : Drain.Gone (ids w.loops.waiting : Multiset Int)
        (drain w.loops.clear w.nextRequestId w.repeating) := by
      refine ⟨hleft, fun id _ hin => ?_⟩
      have hmem : id ∈ ids w.loops.inHand := (mem_inHand (s := w.loops.clear)).mp hin
      simp [hempty, ids] at hmem
    refine ⟨Drain.sound_step h.sound hflush,
      fun old hold => Drain.left_step hflush (by simp) (h.clears old hold), ?_, h.late⟩
    rw [← Multiset.coe_add]
    exact (Drain.gone_step hflush h.flushed).add hgone

/-- When a `Clear` returns in order nothing that it found is in hand. -/
theorem Tracked.clearReturn {i : Nat} {old : List Int} (h : Tracked w)
    (hold : w.clears[i]? = some old) (hguard : w.settled (.clearReturn i) = true) :
    Tracked { w with clears := w.clears.eraseIdx i, flushed := w.flushed ++ old } := by
  have hleft := h.clears old (List.mem_of_getElem? hold)
  have hgone : Drain.Gone (old : Multiset Int) w.books := by
    refine ⟨hleft, fun id hid hin => ?_⟩
    have hout : id ∉ ids w.loops.inHand := by
      simp only [settled, hold, Option.getD_some, List.all_eq_true, decide_eq_true_eq] at hguard
      exact hguard id hid
    exact hout (mem_inHand.mp hin)
  refine ⟨h.sound, fun o ho => h.clears o (List.mem_of_mem_eraseIdx ho), ?_, h.late⟩
  rw [← Multiset.coe_add]
  exact h.flushed.add hgone

theorem tracked_step (h : Tracked w) (hguard : w.settled a = true)
    (hstep : w.step cfg a = some v) : Tracked v := by
  cases a with
  | submitRequestList rs streaming =>
    obtain ⟨s, hs, hv⟩ := Option.bind_eq_some_iff.mp hstep
    obtain rfl := Option.some.inj hv
    cases Loops.step_cases hs with
    | added hadd => exact h.step (drain_added hadd) (by simp) rfl rfl h.late
  | clear =>
    obtain rfl : w.beginClear w.loops.clear = v := Option.some.inj hstep
    exact h.beginClear hguard
  | clearReturn i =>
    obtain ⟨old, hold, hv⟩ := Option.bind_eq_some_iff.mp hstep
    obtain rfl := Option.some.inj hv
    exact h.clearReturn hold hguard
  | loop b =>
    dsimp only [FlushWatch.step] at hstep
    split at hstep
    · simp at hstep
    · simp at hstep
    next hadd hclear =>
    obtain ⟨s, hs, hv⟩ := Option.bind_eq_some_iff.mp hstep
    obtain rfl := Option.some.inj hv
    obtain ⟨lost, hdrain, hlost⟩ := drain_moves (Loops.step_cases hs) hadd hclear
    refine h.step hdrain (fun id hid old hold => ?_) rfl rfl ?_
    · obtain ⟨rfl, hheld⟩ := hlost id hid
      simp only [settled, List.all_eq_true, decide_eq_true_eq] at hguard
      exact hguard id hheld old hold
    · dsimp only
      rw [h.late, h.lateOf]
      rfl

theorem tracked_start (id : Int) : Tracked (start id) where
  sound := ⟨by simp [books, drain, start], by simp [books, drain, start],
    by simp [books, drain, start], by simp [books, drain, start], by simp [books, drain, start],
    fun x _ => ⟨by simp [books, drain, start], by simp [books, drain, start],
      by simp [books, drain, start]⟩⟩
  clears := by simp [start]
  flushed := ⟨⟨by simp [start], by simp [start], by simp [start], by simp [start]⟩, by simp [start]⟩
  late := rfl

end Abstraction

/-- In every run in which each `Clear` is settled, what it drops is reported once and nothing that
it had found reaches the HAL after its return. -/
theorem clean_of_settled (cfg : Config) (id : Int) (as : List FlushAction) (t : FlushWatch)
    (h : ((lts cfg).guarded fun w a => w.settled a = true).MTr (start id) as t) : Clean t := by
  have hinv : ((lts cfg).guarded fun w a => w.settled a = true).TrInv Tracked :=
    fun w a v hstep hw => tracked_step hw hstep.2 hstep.1
  exact (LTS.inv_of_mTr hinv h (tracked_start id)).clean

/-- `Clear` finds one request in hand and one in the queue, and waits for the first. -/
def settledRun : List FlushAction :=
  [.submitRequestList [([0], false), ([0], false)] false, .loop .getRequest, .clear,
    .loop (.submitRequest .accepted), .clearReturn 0,
    .submitRequestList [([0], false)] true, .loop .getRequest, .loop (.submitRequest .accepted)]

theorem clean_settled_run :
    ((LTS.run (step {}) (start (-1)) settledRun).map fun t =>
      (t.flushed, t.loops.errors.map CaptureResultExtras.requestId)) = some ([1, 0], [1]) ∧
      ∃ t, ((lts {}).guarded fun w a => w.settled a = true).MTr (start (-1)) settledRun t ∧
        Clean t := by
  have hrun : ((LTS.run (step {}) (start (-1)) settledRun).map fun t =>
      (t.flushed, t.loops.errors.map CaptureResultExtras.requestId)) = some ([1, 0], [1]) := by
    decide
  obtain ⟨t, ht, -⟩ := Option.map_eq_some_iff.mp hrun
  have hguard : ((lts {}).guarded fun w a => w.settled a = true).MTr (start (-1)) settledRun t :=
    LTS.mTr_guarded_iff.mpr ⟨ht, by decide⟩
  exact ⟨hrun, t, hguard, clean_of_settled {} (-1) settledRun t hguard⟩

/-- A queued reprocess request is neither dropped nor reported. -/
theorem reprocess_survives_clear :
    ¬ ∀ (cfg : Config) (id : Int) (as : List FlushAction) (t : FlushWatch),
      (lts cfg).MTr (start id) as t → Clean t := by
  intro hall
  have hlate : ((LTS.run (step {}) (start (-1))
      [.submitRequestList [([0], true)] false, .clear, .loop .nextReproc,
        .loop (.submitReproc .accepted)]).map FlushWatch.late) = some [0] := by decide
  obtain ⟨t, hrun, ht⟩ := Option.map_eq_some_iff.mp hlate
  have hclean := hall {} (-1) _ t (LTS.mTr_ofStep_iff.mpr hrun)
  simp [hclean.1] at ht

end FlushWatch

end QmmfSdk.Camera3
