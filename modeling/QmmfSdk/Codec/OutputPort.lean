import Mathlib.Data.List.Nodup
import Mathlib.Data.List.Perm.Basic
import Mathlib.Logic.Function.Basic
import QmmfSdk.Library.Transition

/-! The output port of a decoder: one thread hands buffers to the component, another gives the port new
headers when its settings change, and the component and clients call in between. -/
namespace QmmfSdk.Codec

open Library

/-- The header that `UseBuffer` gave for a place of `out_buff_hdr_`, in one of the allocations. -/
structure OutHeader where
  allocation : Nat
  index : Nat
  deriving DecidableEq, Repr

/-- The line of `DeliverOutput`. A `buffer` is the file descriptor of one of the sink's. -/
inductive DeliverOutput where
  | top
  | sawReconfig
  | looked
  | counted
  | waiting (buffer : Int32) (counter : Nat)
  | leftLoop (buffer : Int32)
  | taking (buffer : Int32)
  | noHeader (buffer : Int32)
  | noBuffer
  | gotHeader (buffer : Int32) (header : OutHeader)
  | running (buffer : Int32) (header : OutHeader)
  | filling (buffer : Int32) (header : OutHeader)
  | updating (buffer : Int32) (header : OutHeader) (ends : Bool)
  | returning (buffer : Int32) (ends : Bool)
  | leaving (ends : Bool)
  | ended
  deriving DecidableEq, Repr

/-- The line of `ThreadRun` and, from `waiting` on, of `PortReconfigOutput`. -/
inductive ThreadRun where
  | idle
  | running
  | waiting
  | sawCalls
  | flushing
  | draining
  | freeing
  | asking
  | rebuilding (next : Nat)
  | ending
  | ended
  deriving DecidableEq, Repr

/-- A call of `OnFillBufferDone`. -/
inductive FillBufferDone where
  | updating (header : OutHeader) (eos : Bool)
  | updated (buffer : Int32) (eos : Bool)
  | stopping (buffer : Int32)
  | returning (buffer : Int32)
  deriving DecidableEq, Repr

inductive StopCall where
  | none
  | looked (doFlush : Bool)
  | counted (doFlush : Bool)
  | joining
  | joined
  deriving DecidableEq, Repr

/-- What `GetBuffer` of the sink gives. -/
inductive SinkReply where
  | failed
  | noData
  | buffer (fd : Int32)
  deriving DecidableEq, Repr

/-- The end of the process, or of what the language defines. -/
inductive Abort where
  | waitedTooLong
  | emptyList
  | headerIsNull
  | headerOfBefore
  | reconfigFailed
  deriving DecidableEq, Repr

/-- `live` has the headers that are not freed, `handle` the file descriptors in them, `component` those
that the component has. `looking` counts the other calls of clients that are past their look at the
flag, `calls` those that are counted. -/
structure OutputPort where
  outBuffHdrSize : Nat
  allocation : Nat := 0
  live : List OutHeader
  freeOutput : List OutHeader
  usedOutput : List OutHeader := []
  handle : OutHeader → Int32 := fun _ => -1
  component : List OutHeader := []
  callbacks : List FillBufferDone := []
  stranded : List OutHeader := []
  bPortReconfig : Bool := false
  apiCount : Nat := 0
  outputStop : Bool := false
  deliver : DeliverOutput := .top
  reconfig : ThreadRun := .idle
  looking : Nat := 0
  calls : Nat := 0
  stopCall : StopCall := .none
  settings : Nat := 0
  configured : Nat := 0
  taken : List Int32 := []
  returned : List Int32 := []
  kept : List Int32 := []
  aborted : Option Abort := .none

/-- `kMaxWaitLimitCounter`. -/
def kMaxWaitLimitCounter : Nat := 40

namespace OutputPort

def headers (allocation n : Nat) : List OutHeader := (List.range n).map (⟨allocation, ·⟩)

/-- As `StartCodec` leaves it. -/
def start (n : Nat) : OutputPort where
  outBuffHdrSize := n
  live := headers 0 n
  freeOutput := headers 0 n

inductive Action where
  | deliverOutput
  | getBuffer (reply : SinkReply)
  | timedOut
  | fillThisBuffer (accepted : Bool)
  | threadRun
  | commandFails
  | portDefinition (count : Nat)
  | settingsChanged
  | fillBufferDone (header : OutHeader) (eos : Bool)
  | callback (c : FillBufferDone)
  | look
  | count
  | done
  | stopCodec (doFlush : Bool)
  | stop
  deriving DecidableEq, Repr

variable (s : OutputPort)

def updateBufferHeaderList (h : OutHeader) : OutputPort :=
  { s with usedOutput := s.usedOutput.erase h, freeOutput := s.freeOutput ++ [h] }

/-- A step of `DeliverOutput` in which neither sink nor component has a say. -/
def deliverOutput : Option OutputPort :=
  match s.deliver with
  | .top => some { s with deliver := if s.bPortReconfig then .sawReconfig else .looked }
  | .sawReconfig => some { s with deliver := if s.outputStop then .looked else .top }
  | .looked => some { s with apiCount := s.apiCount + 1, deliver := .counted }
  | .waiting buffer counter =>
    if counter = kMaxWaitLimitCounter then some { s with aborted := some .waitedTooLong }
    else if s.freeOutput ≠ [] ∨ s.bPortReconfig then some { s with deliver := .leftLoop buffer }
    else none
  | .leftLoop buffer =>
    some { s with deliver := if s.bPortReconfig then .noHeader buffer else .taking buffer }
  | .taking buffer =>
    match s.freeOutput with
    | [] => some { s with aborted := some .emptyList }
    | h :: free =>
      some { s with
        freeOutput := free
        usedOutput := s.usedOutput ++ [h]
        handle := Function.update s.handle h buffer
        deliver := .gotHeader buffer h }
  | .noHeader buffer =>
    if s.bPortReconfig then some { s with deliver := .returning buffer false }
    else some { s with aborted := some .headerIsNull }
  | .noBuffer =>
    -- the local header is that of an earlier turn, or none
    if s.outputStop then some { s with deliver := .leaving true }
    else some { s with aborted := some .headerOfBefore }
  | .gotHeader buffer h =>
    some { s with deliver := if s.outputStop then .updating buffer h true else .running buffer h }
  | .running buffer h =>
    some { s with
      deliver := if s.bPortReconfig then .updating buffer h false else .filling buffer h }
  | .updating buffer h ends =>
    some { s.updateBufferHeaderList h with deliver := .returning buffer ends }
  | .returning buffer ends =>
    some { s with returned := buffer :: s.returned, deliver := .leaving ends }
  | .leaving ends =>
    some { s with apiCount := s.apiCount - 1, deliver := if ends then .ended else .top }
  | .counted | .filling .. | .ended => none

def getBuffer (reply : SinkReply) : Option OutputPort :=
  match s.deliver, reply with
  | .counted, .failed => some { s with deliver := .leaving false }
  | .counted, .noData => some { s with deliver := .noBuffer }
  | .counted, .buffer fd => some { s with taken := fd :: s.taken, deliver := .waiting fd 0 }
  | _, _ => none

/-- `wait_for` ends with no header in the list. -/
def timedOut : Option OutputPort :=
  match s.deliver with
  | .waiting buffer counter =>
    if counter ≠ kMaxWaitLimitCounter ∧ s.freeOutput = [] ∧ s.bPortReconfig = false then
      some { s with deliver := .waiting buffer (counter + 1) }
    else none
  | _ => none

/-- A header that the component refuses stays in the list of the used ones. -/
def fillThisBuffer (accepted : Bool) : Option OutputPort :=
  match s.deliver with
  | .filling _ h =>
    if accepted then some { s with component := h :: s.component, deliver := .leaving false }
    else some { s with stranded := h :: s.stranded, deliver := .leaving true }
  | _ => none

/-- A step of `ThreadRun` that asks the component for nothing but success. -/
def threadRun : Option OutputPort :=
  match s.reconfig with
  | .idle => some { s with reconfig := if s.outputStop then .ended else .running }
  | .running => some { s with reconfig := if s.bPortReconfig then .waiting else .idle }
  | .waiting => some { s with reconfig := if 0 < s.apiCount then .sawCalls else .flushing }
  | .sawCalls =>
    if s.outputStop then some { s with bPortReconfig := false, reconfig := .idle }
    else some { s with reconfig := .waiting }
  | .flushing => some { s with reconfig := .draining }
  | .draining => if s.usedOutput = [] then some { s with reconfig := .freeing } else none
  | .freeing => some { s with live := [], reconfig := .asking }
  | .rebuilding next =>
    if next < s.outBuffHdrSize then
      some { s with
        live := s.live ++ [⟨s.allocation, next⟩]
        freeOutput := s.freeOutput ++ [⟨s.allocation, next⟩]
        reconfig := .rebuilding (next + 1) }
    else some { s with reconfig := .ending }
  | .ending => some { s with bPortReconfig := false, reconfig := .idle }
  | .asking | .ended => none

/-- `ThreadRun` asserts that `PortReconfigOutput` succeeds. -/
def commandFails : Option OutputPort :=
  match s.reconfig with
  | .flushing | .freeing | .asking | .rebuilding _ =>
    some { s with aborted := some .reconfigFailed }
  | _ => none

/-- What the component answers when `PortReconfigOutput` asks for its settings. -/
def portDefinition (count : Nat) : Option OutputPort :=
  match s.reconfig with
  | .asking =>
    some { s with
      outBuffHdrSize := count
      allocation := s.allocation + 1
      freeOutput := []
      usedOutput := []
      configured := s.settings
      reconfig := .rebuilding 0 }
  | _ => none

/-- The component calls back for one of the headers it has. -/
def fillBufferDone (h : OutHeader) (eos : Bool) : Option OutputPort :=
  if h ∈ s.component then
    some { s with component := s.component.erase h, callbacks := .updating h eos :: s.callbacks }
  else none

/-- The next step of one of the callbacks. -/
def callback (c : FillBufferDone) : Option OutputPort :=
  if c ∈ s.callbacks then
    let rest := s.callbacks.erase c
    match c with
    | .updating h eos =>
      some { s.updateBufferHeaderList h with callbacks := .updated (s.handle h) eos :: rest }
    | .updated buffer eos =>
      -- the buffer stays with the codec while the port is reconfigured, and its flag goes unheard
      if s.bPortReconfig then some { s with callbacks := rest, kept := buffer :: s.kept }
      else
        some { s with callbacks := (if eos then .stopping buffer else .returning buffer) :: rest }
    | .stopping buffer =>
      some { s with outputStop := true, callbacks := .returning buffer :: rest }
    | .returning buffer =>
      some { s with callbacks := rest, returned := buffer :: s.returned }
  else none

def stop : Option OutputPort :=
  match s.stopCall with
  | .looked doFlush => some { s with apiCount := s.apiCount + 1, stopCall := .counted doFlush }
  | .counted doFlush =>
    some { s with outputStop := s.outputStop || !doFlush, stopCall := .joining }
  | .joining =>
    if s.deliver = .ended ∧ s.reconfig = .ended then some { s with stopCall := .joined } else none
  | .none | .joined => none

/-- `none` is a step that this thread has to wait for, or that is not its next one. -/
def step : Action → Option OutputPort
  | a =>
    if s.aborted.isSome then none
    else match a with
    | .deliverOutput => s.deliverOutput
    | .getBuffer reply => s.getBuffer reply
    | .timedOut => s.timedOut
    | .fillThisBuffer accepted => s.fillThisBuffer accepted
    | .threadRun => s.threadRun
    | .commandFails => s.commandFails
    | .portDefinition count => s.portDefinition count
    | .settingsChanged => some { s with bPortReconfig := true, settings := s.settings + 1 }
    | .fillBufferDone h eos => s.fillBufferDone h eos
    | .callback c => s.callback c
    -- `PauseCodec`, `ResumeCodec` and `FlushCodec`
    | .look => if s.bPortReconfig then none else some { s with looking := s.looking + 1 }
    | .count =>
      if 0 < s.looking then
        some { s with
          looking := s.looking - 1, calls := s.calls + 1, apiCount := s.apiCount + 1 }
      else none
    | .done =>
      if 0 < s.calls then some { s with calls := s.calls - 1, apiCount := s.apiCount - 1 } else none
    | .stopCodec doFlush =>
      if s.stopCall = .none ∧ s.bPortReconfig = false then
        some { s with stopCall := .looked doFlush }
      else none
    | .stop => s.stop

def lts : LTS OutputPort Action := .ofStep step

end OutputPort

/-- The header in the hands of the thread. -/
def DeliverOutput.header : DeliverOutput → Option OutHeader
  | .gotHeader _ h | .running _ h | .filling _ h | .updating _ h _ => some h
  | _ => none

/-- The buffer in its hands. -/
def DeliverOutput.buffer : DeliverOutput → Option Int32
  | .waiting b _ | .leftLoop b | .taking b | .noHeader b | .gotHeader b _ | .running b _
  | .filling b _ | .updating b _ _ | .returning b _ => some b
  | _ => none

/-- Between `api_count_++` and `api_count_--`. -/
def DeliverOutput.isCounted : DeliverOutput → Bool
  | .top | .sawReconfig | .looked | .ended => false
  | _ => true

def DeliverOutput.isTaking : DeliverOutput → Bool
  | .taking _ => true
  | _ => false

def FillBufferDone.header : FillBufferDone → Option OutHeader
  | .updating h _ => some h
  | _ => none

def FillBufferDone.buffer (handle : OutHeader → Int32) : FillBufferDone → Int32
  | .updating h _ => handle h
  | .updated b _ | .stopping b | .returning b => b

/-- Past the wait for the calls. -/
def ThreadRun.isAlone : ThreadRun → Bool
  | .flushing | .draining | .freeing | .asking | .rebuilding _ | .ending => true
  | _ => false

/-- Past the wait for the headers too. -/
def ThreadRun.isDrained : ThreadRun → Bool
  | .freeing | .asking | .rebuilding _ | .ending => true
  | _ => false

def ThreadRun.inReconfig (r : ThreadRun) : Bool :=
  r.isAlone || r = .waiting || r = .sawCalls

def StopCall.isCounted : StopCall → Bool
  | .counted _ | .joining | .joined => true
  | _ => false

namespace OutputPort

variable {s t : OutputPort} {a : Action} {as : List Action} {h : OutHeader} {n : Nat}

/-- The headers that some thread or the component may still touch, and those that it refused. -/
def inUse (s : OutputPort) : List OutHeader :=
  s.deliver.header.toList ++ s.component ++ s.callbacks.filterMap FillBufferDone.header ++ s.stranded

/-- The headers that `out_buff_hdr_` has at this point. -/
def Allocated (s : OutputPort) : Prop :=
  match s.reconfig with
  | .asking => s.live = []
  | .rebuilding next => s.live = headers s.allocation next ∧ s.freeOutput = s.live
  | _ => s.live.Perm (s.freeOutput ++ s.usedOutput)

structure Inv (s : OutputPort) : Prop where
  used : s.usedOutput.Perm s.inUse
  nodup : (s.freeOutput ++ s.usedOutput).Nodup
  allocated : s.Allocated
  count : s.apiCount = s.deliver.isCounted.toNat + s.calls + s.stopCall.isCounted.toNat
  flag : s.reconfig.inReconfig = true → s.bPortReconfig = true
  alone : s.reconfig.isAlone = true → s.deliver.header = none ∧ s.deliver.isTaking = false
  drained : s.reconfig.isDrained = true → s.usedOutput = []

theorem nodup_headers {allocation : Nat} : (headers allocation n).Nodup :=
  List.Nodup.map (fun _ _ hij => congrArg OutHeader.index hij) List.nodup_range

theorem inv_start : Inv (start n) where
  used := .nil
  nodup := by simpa [start] using nodup_headers
  allocated := by simp [Allocated, start]
  count := rfl
  flag := by simp [start, ThreadRun.inReconfig, ThreadRun.isAlone]
  alone := by simp [start, ThreadRun.isAlone]
  drained := by simp [start, ThreadRun.isDrained]

/-- A step of `DeliverOutput` from line to line. -/
theorem Inv.move (hs : s.Inv) (d : DeliverOutput) (hheader : d.header = s.deliver.header)
    (hcounted : d.isCounted = s.deliver.isCounted)
    (htaking : s.reconfig.isAlone = true → d.isTaking = false) : Inv { s with deliver := d } where
  used := by simpa only [inUse, hheader] using hs.used
  nodup := hs.nodup
  allocated := hs.allocated
  count := by simpa only [hcounted] using hs.count
  flag := hs.flag
  alone := fun h => ⟨hheader.trans (hs.alone h).1, htaking h⟩
  drained := hs.drained

/-- A failed assertion changes nothing. -/
theorem Inv.abort {d : DeliverOutput} (hs : s.Inv) (w : Abort) (hd : s.deliver = d) :
    Inv { s with deliver := d, aborted := some w } := by
  subst hd
  exact ⟨hs.used, hs.nodup, hs.allocated, hs.count, hs.flag, hs.alone, hs.drained⟩

theorem perm_headers (hs : s.Inv) (hr : s.reconfig.isDrained = false ∨ s.reconfig = .freeing) :
    s.live.Perm (s.freeOutput ++ s.usedOutput) := by
  have hlive := hs.allocated
  unfold Allocated at hlive
  cases hc : s.reconfig <;> simp_all [ThreadRun.isDrained]

theorem isDrained_alone {r : ThreadRun} (hr : r.isDrained = true) : r.isAlone = true := by
  cases r <;> simp_all [ThreadRun.isDrained, ThreadRun.isAlone]

theorem isAlone_inReconfig {r : ThreadRun} (hr : r.isAlone = true) : r.inReconfig = true := by
  simp [ThreadRun.inReconfig, hr]

/-- While the thread has a header or takes one, the port is not past the wait for it. -/
theorem Inv.not_alone (hs : s.Inv) (hd : s.deliver.header ≠ none ∨ s.deliver.isTaking = true) :
    s.reconfig.isAlone = false := by
  by_contra hr
  obtain ⟨hheader, htaking⟩ := hs.alone (by simpa using hr)
  simp [hheader, htaking] at hd

theorem Inv.not_drained (hs : s.Inv) (hh : h ∈ s.usedOutput) : s.reconfig.isDrained = false := by
  by_contra hr
  rw [hs.drained (by simpa using hr)] at hh
  cases hh

/-- A header goes back to the list of the free ones; `holders` had it. -/
theorem inv_update (hs : s.Inv) (hh : h ∈ s.usedOutput)
    (hrest : (s.inUse).Perm (h :: t.inUse))
    (ht : t.usedOutput = s.usedOutput.erase h) (htf : t.freeOutput = s.freeOutput ++ [h])
    (hlive : t.live = s.live) (hr : t.reconfig = s.reconfig)
    (hcount : t.apiCount = t.deliver.isCounted.toNat + t.calls + t.stopCall.isCounted.toNat)
    (hflag : t.bPortReconfig = s.bPortReconfig)
    (halone : t.reconfig.isAlone = true → t.deliver.header = none ∧ t.deliver.isTaking = false) :
    t.Inv := by
  have hnot := hs.not_drained hh
  have hperm : (t.freeOutput ++ t.usedOutput).Perm (s.freeOutput ++ s.usedOutput) := by
    rw [htf, ht, List.append_assoc]
    exact (List.perm_cons_erase hh).symm.append_left _
  refine ⟨?_, ?_, ?_, hcount, ?_, halone, fun hd => ?_⟩
  · rw [ht]
    have := (hs.used.trans hrest).erase h
    rwa [List.erase_cons_head] at this
  · exact hperm.nodup_iff.mpr hs.nodup
  · have hp := (perm_headers hs (.inl hnot)).trans hperm.symm
    rw [← hlive] at hp
    unfold Allocated
    rw [hr]
    cases hc : s.reconfig <;> simp_all [ThreadRun.isDrained]
  · rw [hr, hflag]
    exact hs.flag
  · rw [hr, hnot] at hd
    cases hd

theorem inv_deliverOutput (hs : s.Inv) (ht : s.deliverOutput = some t) : t.Inv := by
  unfold deliverOutput at ht
  cases hd : s.deliver with
  | top =>
    simp only [hd, Option.some.injEq] at ht
    subst ht
    split <;> exact hs.move _ (by rw [hd]; rfl) (by rw [hd]; rfl) fun _ => rfl
  | sawReconfig =>
    simp only [hd, Option.some.injEq] at ht
    subst ht
    split <;> exact hs.move _ (by rw [hd]; rfl) (by rw [hd]; rfl) fun _ => rfl
  | looked =>
    simp only [hd, Option.some.injEq] at ht
    subst ht
    have hcount := hs.count
    simp only [hd, DeliverOutput.isCounted] at hcount
    refine ⟨by simpa [inUse, hd, DeliverOutput.header] using hs.used, hs.nodup, hs.allocated, ?_,
      hs.flag, fun _ => ⟨rfl, rfl⟩, hs.drained⟩
    simp only [DeliverOutput.isCounted, Bool.toNat_true, Bool.toNat_false] at hcount ⊢
    omega
  | waiting buffer counter =>
    simp only [hd] at ht
    split_ifs at ht
    · obtain rfl := Option.some.inj ht
      exact hs.abort _ hd
    · obtain rfl := Option.some.inj ht
      exact hs.move _ (by rw [hd]; rfl) (by rw [hd]; rfl) fun _ => rfl
  | leftLoop buffer =>
    simp only [hd, Option.some.injEq] at ht
    subst ht
    split
    · exact hs.move _ (by rw [hd]; rfl) (by rw [hd]; rfl) fun _ => rfl
    · next hflag =>
      -- the port would have to be past the wait with its flag down
      refine hs.move _ (by rw [hd]; rfl) (by rw [hd]; rfl) fun halone => ?_
      exact absurd (hs.flag (isAlone_inReconfig halone)) hflag
  | taking buffer =>
    have hnot := hs.not_alone (.inr (by rw [hd]; rfl))
    simp only [hd] at ht
    split at ht
    · obtain rfl := Option.some.inj ht
      exact hs.abort _ hd
    · next h free hfree =>
      obtain rfl := Option.some.inj ht
      have hperm : (s.freeOutput ++ s.usedOutput).Perm (free ++ (s.usedOutput ++ [h])) := by
        rw [hfree, ← List.append_assoc, List.cons_append]
        exact (List.perm_append_singleton h _).symm
      have hdrained : s.reconfig.isDrained = false := by
        by_contra hr
        simp [isDrained_alone (by simpa using hr)] at hnot
      refine ⟨?_, hperm.nodup_iff.mp hs.nodup, ?_, ?_, hs.flag, fun h' => ?_, fun h' => ?_⟩
      · have hused := hs.used
        simp only [inUse, hd, DeliverOutput.header, Option.toList_none, List.nil_append,
          Option.toList_some, List.cons_append] at hused ⊢
        exact (List.perm_append_singleton h _).trans (hused.cons h)
      · have hp := (perm_headers hs (.inl hdrained)).trans hperm
        unfold Allocated
        cases hc : s.reconfig <;> simp_all [ThreadRun.isDrained]
      · simpa [hd, DeliverOutput.isCounted] using hs.count
      · simp [hnot] at h'
      · simp [hdrained] at h'
  | noHeader buffer =>
    simp only [hd] at ht
    split_ifs at ht
    · obtain rfl := Option.some.inj ht
      exact hs.move _ (by rw [hd]; rfl) (by rw [hd]; rfl) fun _ => rfl
    · obtain rfl := Option.some.inj ht
      exact hs.abort _ hd
  | noBuffer =>
    simp only [hd] at ht
    split_ifs at ht
    · obtain rfl := Option.some.inj ht
      exact hs.move _ (by rw [hd]; rfl) (by rw [hd]; rfl) fun _ => rfl
    · obtain rfl := Option.some.inj ht
      exact hs.abort _ hd
  | gotHeader buffer h =>
    simp only [hd, Option.some.injEq] at ht
    subst ht
    split <;> exact hs.move _ (by rw [hd]; rfl) (by rw [hd]; rfl) fun _ => rfl
  | running buffer h =>
    simp only [hd, Option.some.injEq] at ht
    subst ht
    split <;> exact hs.move _ (by rw [hd]; rfl) (by rw [hd]; rfl) fun _ => rfl
  | updating buffer h ends =>
    simp only [hd, Option.some.injEq] at ht
    subst ht
    have hin : s.inUse = h :: (s.component ++ s.callbacks.filterMap FillBufferDone.header ++
        s.stranded) := by simp [inUse, hd, DeliverOutput.header]
    have hh : h ∈ s.usedOutput := hs.used.mem_iff.mpr (by simp [hin])
    refine inv_update hs hh ?_ rfl rfl rfl rfl ?_ rfl fun _ => ⟨rfl, rfl⟩
    · rw [hin]
      simp [inUse, updateBufferHeaderList, DeliverOutput.header]
    · simpa [hd, DeliverOutput.isCounted, updateBufferHeaderList] using hs.count
  | returning buffer ends =>
    simp only [hd, Option.some.injEq] at ht
    subst ht
    have hmove := hs.move (.leaving ends) (by rw [hd]; rfl) (by rw [hd]; rfl) fun _ => rfl
    exact ⟨hmove.used, hmove.nodup, hmove.allocated, hmove.count, hmove.flag, hmove.alone,
      hmove.drained⟩
  | leaving ends =>
    simp only [hd, Option.some.injEq] at ht
    subst ht
    have hcount := hs.count
    simp only [hd, DeliverOutput.isCounted, Bool.toNat_true] at hcount
    have hused := hs.used
    simp only [inUse, hd, DeliverOutput.header] at hused
    refine ⟨?_, hs.nodup, hs.allocated, ?_, hs.flag, fun _ => ?_, hs.drained⟩
    · cases ends <;> simpa [inUse, DeliverOutput.header] using hused
    · cases ends <;> simp [DeliverOutput.isCounted] <;> omega
    · cases ends <;> exact ⟨rfl, rfl⟩
  | counted | filling | ended => simp [hd] at ht

/-- `DeliverOutput` writes nothing else without the sink and the component. -/
theorem deliverOutput_frame (ht : s.deliverOutput = some t) : t = { s with
    freeOutput := t.freeOutput
    usedOutput := t.usedOutput
    handle := t.handle
    apiCount := t.apiCount
    deliver := t.deliver
    returned := t.returned
    aborted := t.aborted } := by
  unfold deliverOutput at ht
  cases hd : s.deliver <;> simp only [hd] at ht
  case waiting | noHeader | noBuffer => split_ifs at ht <;> exact Option.some.inj ht ▸ rfl
  case taking => split at ht <;> exact Option.some.inj ht ▸ rfl
  case counted | filling | ended => cases ht
  all_goals exact Option.some.inj ht ▸ rfl

theorem getBuffer_cases {reply : SinkReply} (ht : s.getBuffer reply = some t) :
    s.deliver = .counted ∧ ∃ d taken, d.header = none ∧ d.isCounted = true ∧ d.isTaking = false ∧
      t = { s with deliver := d, taken := taken } ∧
      (d.buffer = none ∧ taken = s.taken ∨ ∃ fd, d.buffer = some fd ∧ taken = fd :: s.taken) := by
  unfold getBuffer at ht
  split at ht
  · next hd =>
    obtain rfl := Option.some.inj ht
    exact ⟨hd, .leaving false, s.taken, rfl, rfl, rfl, rfl, .inl ⟨rfl, rfl⟩⟩
  · next hd =>
    obtain rfl := Option.some.inj ht
    exact ⟨hd, .noBuffer, s.taken, rfl, rfl, rfl, rfl, .inl ⟨rfl, rfl⟩⟩
  · next fd hd =>
    obtain rfl := Option.some.inj ht
    exact ⟨hd, .waiting fd 0, fd :: s.taken, rfl, rfl, rfl, rfl, .inr ⟨fd, rfl, rfl⟩⟩
  · cases ht

theorem inv_getBuffer {reply : SinkReply} (hs : s.Inv) (ht : s.getBuffer reply = some t) :
    t.Inv := by
  obtain ⟨hd, d, taken, hheader, hcounted, htaking, rfl, -⟩ := getBuffer_cases ht
  have hmove := hs.move d (by rw [hheader, hd]; rfl) (by rw [hcounted, hd]; rfl) fun _ => htaking
  exact ⟨hmove.used, hmove.nodup, hmove.allocated, hmove.count, hmove.flag, hmove.alone,
    hmove.drained⟩

theorem timedOut_cases (ht : s.timedOut = some t) : ∃ buffer counter,
    s.deliver = .waiting buffer counter ∧ s.freeOutput = [] ∧ s.bPortReconfig = false ∧
      counter ≠ kMaxWaitLimitCounter ∧ t = { s with deliver := .waiting buffer (counter + 1) } := by
  unfold timedOut at ht
  split at ht
  · next buffer counter hd =>
    obtain ⟨⟨hmax, hfree, hflag⟩, ht⟩ := Option.ite_none_right_eq_some.mp ht
    exact ⟨buffer, counter, hd, hfree, hflag, hmax, (Option.some.inj ht).symm⟩
  · cases ht

theorem inv_timedOut (hs : s.Inv) (ht : s.timedOut = some t) : t.Inv := by
  obtain ⟨buffer, counter, hd, -, -, -, rfl⟩ := timedOut_cases ht
  exact hs.move _ (by rw [hd]; rfl) (by rw [hd]; rfl) fun _ => rfl

theorem fillThisBuffer_cases {accepted : Bool} (ht : s.fillThisBuffer accepted = some t) :
    ∃ buffer h, s.deliver = .filling buffer h ∧
      (accepted = true ∧ t = { s with component := h :: s.component, deliver := .leaving false } ∨
        accepted = false ∧
          t = { s with stranded := h :: s.stranded, deliver := .leaving true }) := by
  unfold fillThisBuffer at ht
  split at ht
  · next buffer h hd =>
    cases accepted <;> obtain rfl := Option.some.inj ht <;> exact ⟨buffer, h, hd, by simp⟩
  · cases ht

/-- The header goes on to the component, or is stranded. -/
theorem inv_fillThisBuffer {accepted : Bool} (hs : s.Inv) (ht : s.fillThisBuffer accepted = some t) :
    t.Inv := by
  obtain ⟨buffer, h, hd, ⟨-, rfl⟩ | ⟨-, rfl⟩⟩ := fillThisBuffer_cases ht <;>
    refine ⟨hs.used.trans ?_, hs.nodup, hs.allocated, ?_, hs.flag, fun _ => ⟨rfl, rfl⟩, hs.drained⟩
  · simp [inUse, hd, DeliverOutput.header]
  · simpa [hd, DeliverOutput.isCounted] using hs.count
  · simp only [inUse, hd, DeliverOutput.header, Option.toList_some, Option.toList_none,
      List.nil_append, List.cons_append]
    exact List.perm_middle.symm
  · simpa [hd, DeliverOutput.isCounted] using hs.count

theorem headers_succ {allocation : Nat} :
    headers allocation (n + 1) = headers allocation n ++ [⟨allocation, n⟩] := by
  simp [headers, List.range_succ]

/-- A step of `ThreadRun` that leaves the lists alone. -/
theorem Inv.goOn (hs : s.Inv) {r : ThreadRun} {flag : Bool}
    (hr : r.isDrained = false ∨ r = .freeing ∨ r = .ending)
    (hs' : s.live.Perm (s.freeOutput ++ s.usedOutput))
    (hflag : r.inReconfig = true → flag = true)
    (halone : r.isAlone = true → s.deliver.header = none ∧ s.deliver.isTaking = false)
    (hdrained : r.isDrained = true → s.usedOutput = []) :
    Inv { s with reconfig := r, bPortReconfig := flag } where
  used := hs.used
  nodup := hs.nodup
  allocated := by
    unfold Allocated
    cases r <;> simp_all [ThreadRun.isDrained]
  count := hs.count
  flag := hflag
  alone := halone
  drained := hdrained

/-- `ThreadRun` writes nothing else. -/
theorem threadRun_frame (ht : s.threadRun = some t) : t = { s with
    live := t.live
    freeOutput := t.freeOutput
    bPortReconfig := t.bPortReconfig
    reconfig := t.reconfig } := by
  unfold threadRun at ht
  cases hr : s.reconfig <;> simp only [hr] at ht
  case sawCalls | draining | rebuilding => split_ifs at ht <;> exact Option.some.inj ht ▸ rfl
  case asking | ended => cases ht
  all_goals exact Option.some.inj ht ▸ rfl

/-- It takes the flag down at its end, or gives up for a stop. -/
theorem threadRun_flag (ht : s.threadRun = some t) : t.bPortReconfig = s.bPortReconfig ∨
    t.bPortReconfig = false ∧ t.reconfig = .idle ∧
      (s.reconfig = .ending ∨ s.reconfig = .sawCalls ∧ s.outputStop = true) := by
  unfold threadRun at ht
  cases hr : s.reconfig <;> simp only [hr] at ht
  case sawCalls =>
    split_ifs at ht with hstop
    · exact Option.some.inj ht ▸ .inr ⟨rfl, rfl, .inr ⟨rfl, hstop⟩⟩
    · exact Option.some.inj ht ▸ .inl rfl
  case ending => exact Option.some.inj ht ▸ .inr ⟨rfl, rfl, .inl rfl⟩
  case draining | rebuilding => split_ifs at ht <;> exact Option.some.inj ht ▸ .inl rfl
  case asking | ended => cases ht
  all_goals exact Option.some.inj ht ▸ .inl rfl

theorem inv_threadRun (hs : s.Inv) (ht : s.threadRun = some t) : t.Inv := by
  have hlive := hs.allocated
  unfold threadRun at ht
  cases hr : s.reconfig with
  | idle =>
    simp only [hr, Option.some.injEq] at ht
    subst ht
    have hp := perm_headers hs (.inl (by rw [hr]; rfl))
    split <;> exact hs.goOn (.inl rfl) hp nofun nofun nofun
  | running =>
    simp only [hr, Option.some.injEq] at ht
    subst ht
    have hp := perm_headers hs (.inl (by rw [hr]; rfl))
    split
    · next hflag => exact hs.goOn (.inl rfl) hp (fun _ => hflag) nofun nofun
    · exact hs.goOn (.inl rfl) hp nofun nofun nofun
  | waiting =>
    simp only [hr, Option.some.injEq] at ht
    subst ht
    have hflag := hs.flag (by rw [hr]; rfl)
    have hp := perm_headers hs (.inl (by rw [hr]; rfl))
    split
    · exact hs.goOn (.inl rfl) hp (fun _ => hflag) nofun nofun
    · next hzero =>
      -- whoever has a header is counted
      have hcount := hs.count
      have hout : s.deliver.isCounted = false := by
        cases hc : s.deliver.isCounted
        · rfl
        · rw [hc, Bool.toNat_true] at hcount
          omega
      refine hs.goOn (.inl rfl) hp (fun _ => hflag) (fun _ => ?_) nofun
      cases hd : s.deliver <;> simp_all [DeliverOutput.isCounted, DeliverOutput.header,
        DeliverOutput.isTaking]
  | sawCalls =>
    have hflag := hs.flag (by rw [hr]; rfl)
    have hp := perm_headers hs (.inl (by rw [hr]; rfl))
    simp only [hr] at ht
    split_ifs at ht
    · obtain rfl := Option.some.inj ht
      exact hs.goOn (.inl rfl) hp nofun nofun nofun
    · obtain rfl := Option.some.inj ht
      exact hs.goOn (.inl rfl) hp (fun _ => hflag) nofun nofun
  | flushing =>
    simp only [hr, Option.some.injEq] at ht
    subst ht
    exact hs.goOn (.inl rfl) (perm_headers hs (.inl (by rw [hr]; rfl)))
      (fun _ => hs.flag (by rw [hr]; rfl)) (fun _ => hs.alone (by rw [hr]; rfl)) nofun
  | draining =>
    simp only [hr] at ht
    obtain ⟨hused, ht⟩ := Option.ite_none_right_eq_some.mp ht
    obtain rfl := Option.some.inj ht
    exact hs.goOn (.inr (.inl rfl)) (perm_headers hs (.inl (by rw [hr]; rfl)))
      (fun _ => hs.flag (by rw [hr]; rfl)) (fun _ => hs.alone (by rw [hr]; rfl)) fun _ => hused
  | freeing =>
    simp only [hr, Option.some.injEq] at ht
    subst ht
    exact ⟨hs.used, hs.nodup, rfl, hs.count, fun _ => hs.flag (by rw [hr]; rfl),
      fun _ => hs.alone (by rw [hr]; rfl), fun _ => hs.drained (by rw [hr]; rfl)⟩
  | rebuilding next =>
    have hused := hs.drained (by rw [hr]; rfl)
    have hflag := hs.flag (by rw [hr]; rfl)
    have halone := hs.alone (by rw [hr]; rfl)
    simp only [Allocated, hr] at hlive
    simp only [hr] at ht
    split_ifs at ht
    · obtain rfl := Option.some.inj ht
      refine ⟨hs.used, ?_, ⟨?_, ?_⟩, hs.count, fun _ => hflag, fun _ => halone, fun _ => hused⟩
      · simp only [hused, hlive.2, hlive.1, List.append_nil, ← headers_succ]
        exact nodup_headers
      · simp only [hlive.1, ← headers_succ]
      · simp only [hlive.2]
    · obtain rfl := Option.some.inj ht
      exact hs.goOn (.inr (.inr rfl)) (by simp [hused, hlive.2]) (fun _ => hflag) (fun _ => halone)
        fun _ => hused
  | ending =>
    simp only [hr, Option.some.injEq] at ht
    subst ht
    simp only [Allocated, hr] at hlive
    exact hs.goOn (.inl rfl) hlive nofun nofun nofun
  | asking | ended => simp [hr] at ht

theorem commandFails_cases (ht : s.commandFails = some t) :
    s.reconfig.isAlone = true ∧ t = { s with aborted := some .reconfigFailed } := by
  unfold commandFails at ht
  cases hr : s.reconfig <;> simp only [hr] at ht <;> cases ht <;> exact ⟨rfl, rfl⟩

theorem portDefinition_cases {count : Nat} (ht : s.portDefinition count = some t) :
    s.reconfig = .asking ∧ t = { s with
      outBuffHdrSize := count
      allocation := s.allocation + 1
      freeOutput := []
      usedOutput := []
      configured := s.settings
      reconfig := .rebuilding 0 } := by
  unfold portDefinition at ht
  split at ht
  · next hr => exact ⟨hr, (Option.some.inj ht).symm⟩
  · cases ht

theorem inv_portDefinition {count : Nat} (hs : s.Inv) (ht : s.portDefinition count = some t) :
    t.Inv := by
  obtain ⟨hr, rfl⟩ := portDefinition_cases ht
  have hused := hs.used
  rw [hs.drained (by rw [hr]; rfl)] at hused
  have hlive := hs.allocated
  simp only [Allocated, hr] at hlive
  exact ⟨hused, .nil, ⟨hlive, hlive.symm⟩, hs.count, fun _ => hs.flag (by rw [hr]; rfl),
    fun _ => hs.alone (by rw [hr]; rfl), fun _ => rfl⟩

theorem fillBufferDone_cases {eos : Bool} (ht : s.fillBufferDone h eos = some t) :
    h ∈ s.component ∧ t = { s with
      component := s.component.erase h
      callbacks := .updating h eos :: s.callbacks } := by
  obtain ⟨hh, ht⟩ := Option.ite_none_right_eq_some.mp ht
  exact ⟨hh, (Option.some.inj ht).symm⟩

theorem inv_fillBufferDone {eos : Bool} (hs : s.Inv) (ht : s.fillBufferDone h eos = some t) :
    t.Inv := by
  obtain ⟨hh, rfl⟩ := fillBufferDone_cases ht
  refine ⟨hs.used.trans ?_, hs.nodup, hs.allocated, hs.count, hs.flag, hs.alone, hs.drained⟩
  simp only [inUse, List.filterMap_cons, FillBufferDone.header, List.append_assoc,
    List.cons_append]
  refine List.Perm.append_left _ ?_
  exact ((List.perm_cons_erase hh).append_right _).trans List.perm_middle.symm

/-- The callback with the header in its hands. -/
theorem callback_cases {c : FillBufferDone} (ht : s.callback c = some t) : c ∈ s.callbacks ∧
    ((∃ h eos, c = .updating h eos ∧ t = { s.updateBufferHeaderList h with
        callbacks := .updated (s.handle h) eos :: s.callbacks.erase c }) ∨
      (∃ b eos, c = .updated b eos ∧ s.bPortReconfig = true ∧
        t = { s with callbacks := s.callbacks.erase c, kept := b :: s.kept }) ∨
      (∃ b eos, c = .updated b eos ∧ s.bPortReconfig = false ∧ t = { s with
        callbacks := (if eos then .stopping b else .returning b) :: s.callbacks.erase c }) ∨
      (∃ b, c = .stopping b ∧ t = { s with
        outputStop := true, callbacks := .returning b :: s.callbacks.erase c }) ∨
      ∃ b, c = .returning b ∧ t = { s with
        callbacks := s.callbacks.erase c, returned := b :: s.returned }) := by
  unfold callback at ht
  obtain ⟨hc, ht⟩ := Option.ite_none_right_eq_some.mp ht
  refine ⟨hc, ?_⟩
  cases c with
  | updating h eos => exact .inl ⟨h, eos, rfl, (Option.some.inj ht).symm⟩
  | updated b eos =>
    by_cases hflag : s.bPortReconfig = true
    · simp only [if_pos hflag] at ht
      exact .inr (.inl ⟨b, eos, rfl, hflag, (Option.some.inj ht).symm⟩)
    · simp only [if_neg hflag] at ht
      exact .inr (.inr (.inl ⟨b, eos, rfl, by simpa using hflag, (Option.some.inj ht).symm⟩))
  | stopping b => exact .inr (.inr (.inr (.inl ⟨b, rfl, (Option.some.inj ht).symm⟩)))
  | returning b => exact .inr (.inr (.inr (.inr ⟨b, rfl, (Option.some.inj ht).symm⟩)))

/-- A callback that has no header any more goes on or ends. -/
theorem Inv.callback (hs : s.Inv) (callbacks : List FillBufferDone)
    (h : callbacks.filterMap FillBufferDone.header =
      s.callbacks.filterMap FillBufferDone.header) : Inv { s with callbacks := callbacks } where
  used := by simpa only [inUse, h] using hs.used
  nodup := hs.nodup
  allocated := hs.allocated
  count := hs.count
  flag := hs.flag
  alone := hs.alone
  drained := hs.drained

theorem filterMap_erase {c : FillBufferDone} {l : List FillBufferDone} (hc : c.header = none) :
    (l.erase c).filterMap FillBufferDone.header = l.filterMap FillBufferDone.header := by
  induction l with
  | nil => rfl
  | cons d l ih =>
    rw [List.erase_cons]
    split
    · next heq =>
      obtain rfl := eq_of_beq heq
      rw [List.filterMap_cons_none hc]
    · simp only [List.filterMap_cons, ih]

theorem inv_callback {c : FillBufferDone} (hs : s.Inv) (ht : s.callback c = some t) : t.Inv := by
  obtain ⟨hc, ⟨h, eos, rfl, rfl⟩ | ⟨b, eos, rfl, -, rfl⟩ | ⟨b, eos, rfl, -, rfl⟩ | ⟨b, rfl, rfl⟩ |
    ⟨b, rfl, rfl⟩⟩ := callback_cases ht
  · have hperm := (List.perm_cons_erase hc).filterMap FillBufferDone.header
    rw [List.filterMap_cons_some (show (FillBufferDone.updating h eos).header = some h from rfl)]
      at hperm
    have hin : s.inUse.Perm (h :: (s.deliver.header.toList ++ s.component ++
        (s.callbacks.erase (.updating h eos)).filterMap FillBufferDone.header ++ s.stranded)) := by
      refine ((hperm.append_left _).append_right _).trans ?_
      rw [List.append_assoc (_ ++ _), List.append_assoc (_ ++ _), List.cons_append]
      exact List.perm_middle
    have hh : h ∈ s.usedOutput := hs.used.mem_iff.mpr (hin.mem_iff.mpr (by simp))
    refine inv_update hs hh ?_ rfl rfl rfl rfl hs.count rfl hs.alone
    simpa only [inUse, updateBufferHeaderList,
      List.filterMap_cons_none (show (FillBufferDone.updated (s.handle h) eos).header = none from rfl)]
      using hin
  · have hcall := hs.callback (s.callbacks.erase (.updated b eos)) (filterMap_erase rfl)
    exact ⟨hcall.used, hcall.nodup, hcall.allocated, hcall.count, hcall.flag, hcall.alone,
      hcall.drained⟩
  · refine hs.callback _ ?_
    rw [List.filterMap_cons_none (by split <;> rfl), filterMap_erase rfl]
  · have hcall := hs.callback (.returning b :: s.callbacks.erase (.stopping b))
      (by rw [List.filterMap_cons_none rfl, filterMap_erase rfl])
    exact ⟨hcall.used, hcall.nodup, hcall.allocated, hcall.count, hcall.flag, hcall.alone,
      hcall.drained⟩
  · have hcall := hs.callback (s.callbacks.erase (.returning b)) (filterMap_erase rfl)
    exact ⟨hcall.used, hcall.nodup, hcall.allocated, hcall.count, hcall.flag, hcall.alone,
      hcall.drained⟩

theorem stop_cases (ht : s.stop = some t) :
    (∃ f, s.stopCall = .looked f ∧
      t = { s with apiCount := s.apiCount + 1, stopCall := .counted f }) ∨
    (∃ f, s.stopCall = .counted f ∧
      t = { s with outputStop := s.outputStop || !f, stopCall := .joining }) ∨
    (s.stopCall = .joining ∧ s.deliver = .ended ∧ s.reconfig = .ended ∧
      t = { s with stopCall := .joined }) := by
  unfold stop at ht
  cases hc : s.stopCall with
  | looked f => exact .inl ⟨f, rfl, by simpa [hc] using ht.symm⟩
  | counted f => exact .inr (.inl ⟨f, rfl, by simpa [hc] using ht.symm⟩)
  | joining =>
    simp only [hc] at ht
    obtain ⟨⟨hd, hr⟩, ht⟩ := Option.ite_none_right_eq_some.mp ht
    exact .inr (.inr ⟨rfl, hd, hr, (Option.some.inj ht).symm⟩)
  | none | joined => simp [hc] at ht

theorem inv_stop (hs : s.Inv) (ht : s.stop = some t) : t.Inv := by
  have hcount := hs.count
  obtain ⟨f, hc, rfl⟩ | ⟨f, hc, rfl⟩ | ⟨hc, -, -, rfl⟩ := stop_cases ht <;>
    refine ⟨hs.used, hs.nodup, hs.allocated, ?_, hs.flag, hs.alone, hs.drained⟩ <;>
    simp [hc, StopCall.isCounted] at hcount ⊢ <;> omega

theorem inv_step : lts.TrInv Inv := by
  intro s a t ht hs
  have ht : s.step a = some t := ht
  unfold step at ht
  split at ht
  · cases ht
  cases a with
  | deliverOutput => exact inv_deliverOutput hs ht
  | getBuffer reply => exact inv_getBuffer hs ht
  | timedOut => exact inv_timedOut hs ht
  | fillThisBuffer accepted => exact inv_fillThisBuffer hs ht
  | threadRun => exact inv_threadRun hs ht
  | commandFails =>
    obtain ⟨-, rfl⟩ := commandFails_cases ht
    exact hs.abort .reconfigFailed rfl
  | portDefinition count => exact inv_portDefinition hs ht
  | settingsChanged =>
    obtain rfl := Option.some.inj ht
    exact ⟨hs.used, hs.nodup, hs.allocated, hs.count, fun _ => rfl, hs.alone, hs.drained⟩
  | fillBufferDone h eos => exact inv_fillBufferDone hs ht
  | callback c => exact inv_callback hs ht
  | look =>
    obtain ⟨-, ht⟩ := Option.ite_none_left_eq_some.mp ht
    obtain rfl := Option.some.inj ht
    exact ⟨hs.used, hs.nodup, hs.allocated, hs.count, hs.flag, hs.alone, hs.drained⟩
  | count =>
    obtain ⟨-, ht⟩ := Option.ite_none_right_eq_some.mp ht
    obtain rfl := Option.some.inj ht
    have hcount := hs.count
    exact ⟨hs.used, hs.nodup, hs.allocated, by simp only; omega, hs.flag, hs.alone, hs.drained⟩
  | done =>
    obtain ⟨hcalls, ht⟩ := Option.ite_none_right_eq_some.mp ht
    obtain rfl := Option.some.inj ht
    have hcount := hs.count
    exact ⟨hs.used, hs.nodup, hs.allocated, by simp only; omega, hs.flag, hs.alone, hs.drained⟩
  | stopCodec doFlush =>
    obtain ⟨⟨hnone, -⟩, ht⟩ := Option.ite_none_right_eq_some.mp ht
    obtain rfl := Option.some.inj ht
    have hcount := hs.count
    rw [hnone] at hcount
    exact ⟨hs.used, hs.nodup, hs.allocated, hcount, hs.flag, hs.alone, hs.drained⟩
  | stop => exact inv_stop hs ht

/-- What no interleaving breaks. -/
structure HeadersSafe (s : OutputPort) : Prop where
  /-- A header that a thread or the component has is not freed. -/
  live : ∀ h ∈ s.inUse, h ∈ s.live
  /-- Only one of them has it. -/
  one : s.inUse.Nodup
  /-- `UpdateBufferHeaderList` finds it. -/
  found : ∀ h ∈ s.inUse, h ∈ s.usedOutput
  /-- Nobody has a header that `GetOutputBufferHdr` may take, and it is not freed. -/
  taken : s.deliver.isTaking = true → ∀ h ∈ s.freeOutput, h ∈ s.live ∧ h ∉ s.inUse
  /-- The headers are those of `out_buff_hdr_`, all of one allocation, when the port is in use. -/
  whole : s.reconfig.isDrained = false → s.live.Perm (s.freeOutput ++ s.inUse)

theorem Inv.headersSafe (hs : s.Inv) : s.HeadersSafe := by
  have hwhole : s.reconfig.isDrained = false → s.live.Perm (s.freeOutput ++ s.inUse) := fun hr =>
    (perm_headers hs (.inl hr)).trans (hs.used.append_left _)
  have hnodup := (hs.used.append_left s.freeOutput).nodup_iff.mp hs.nodup
  refine ⟨fun h hh => ?_, (List.nodup_append.mp hnodup).2.1, fun h hh => hs.used.mem_iff.mpr hh,
    fun htaking h hh => ?_, hwhole⟩
  · have hused := hs.used.mem_iff.mpr hh
    exact (hwhole (hs.not_drained hused)).mem_iff.mpr (List.mem_append_right _ hh)
  · have hdrained : s.reconfig.isDrained = false := by
      by_contra hr
      have halone := hs.not_alone (.inr htaking)
      simp [isDrained_alone (by simpa using hr)] at halone
    exact ⟨(hwhole hdrained).mem_iff.mpr (List.mem_append_left _ hh),
      fun hin => (List.nodup_append.mp hnodup).2.2 h hh h hin rfl⟩

/-- However `DeliverOutput`, `ThreadRun`, the callbacks and the clients take turns: no header is used
after the port freed it, and none is handed out twice. -/
theorem run_headersSafe (h : lts.MTr (start n) as s) : s.HeadersSafe :=
  (LTS.inv_of_mTr inv_step h inv_start).headersSafe

/-- A buffer goes through the component, the settings change, the port gets two headers, and another
buffer goes through. -/
def reconfigured : List Action :=
  [.deliverOutput, .deliverOutput, .getBuffer (.buffer 7), .deliverOutput, .deliverOutput,
    .deliverOutput, .deliverOutput, .deliverOutput, .fillThisBuffer true, .settingsChanged,
    .deliverOutput, .threadRun, .threadRun, .threadRun, .threadRun, .fillBufferDone ⟨0, 0⟩ false,
    .callback (.updating ⟨0, 0⟩ false), .callback (.updated 7 false), .threadRun, .threadRun,
    .portDefinition 2, .threadRun, .threadRun, .threadRun, .threadRun, .deliverOutput,
    .deliverOutput]

theorem headersSafe_reconfigured : ∃ s, LTS.run step (start 1) reconfigured = some s ∧
    s.HeadersSafe := by
  have hsome : (LTS.run step (start 1) reconfigured).isSome := by decide
  obtain ⟨s, hs⟩ := Option.isSome_iff_exists.mp hsome
  exact ⟨s, hs, run_headersSafe (LTS.mTr_ofStep_iff.mpr hs)⟩

end OutputPort

end QmmfSdk.Codec
