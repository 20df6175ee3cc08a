import Mathlib.Logic.Function.Basic
import QmmfSdk.Library.Transition

/-! The state of `AVCodec`: its calls wait for the completions of their commands, and all completions
come through one queue. -/
namespace QmmfSdk.Codec

open Library

/-- In the order of OpenMAX IL, as the other enumerations here: the first one has the value 0. -/
inductive OmxState where
  | invalid
  | loaded
  | idle
  | executing
  | pause
  | waitForResources
  deriving DecidableEq, Repr

def OmxState.code : OmxState → UInt32
  | .invalid => 0
  | .loaded => 1
  | .idle => 2
  | .executing => 3
  | .pause => 4
  | .waitForResources => 5

inductive OmxEventType where
  | cmdComplete
  | error
  | mark
  | portSettingsChanged
  | bufferFlag
  deriving DecidableEq, Repr

inductive OmxCommand where
  | stateSet
  | flush
  | portDisable
  | portEnable
  deriving DecidableEq, Repr

/-- What a call returns: `OK`, the -1 of `Pop`, an error of its own or one of the component. -/
inductive CodecStatus where
  | ok
  | timedOut
  | undefined
  | incorrectStateTransition
  | component (code : UInt32)
  deriving DecidableEq, Repr

structure CodecCmd where
  eventType : OmxEventType
  eventCmd : OmxCommand
  eventData : UInt32
  eventFlags : UInt32 := 0
  eventResult : CodecStatus := .ok
  deriving DecidableEq, Repr

def bufferFlagEos : UInt32 := 1

/-- What `OnFillBufferDone` pushes: event 0, command 0, data 0 and the flag. -/
def eosMarker : CodecCmd where
  eventType := .cmdComplete
  eventCmd := .stateSet
  eventData := 0
  eventFlags := bufferFlagEos

def CodecCmd.isStateSet (e : CodecCmd) : Bool :=
  e.eventType = .cmdComplete && e.eventCmd = .stateSet

/-- The parts of the calls between which other threads may come. `setState`, `waitPending`, `command` and
`waitFor` are `SetState`; the state that `waitPending` waits for is that of its beginning. Where `goesOn`
is set, what was popped is only looked at for a message. At `popResult` the call goes on whatever was
popped, if that came without an error: `Flush` returns the result of an event that it did not expect. -/
inductive Op where
  | setState (target : OmxState) (sync : Bool)
  | waitPending (pending target : OmxState) (sync : Bool)
  | command (target : OmxState) (sync : Bool)
  | waitFor (target : OmxState)
  | waitState (target : OmxState)
  | component
  | popExpect (cmd : OmxCommand) (goesOn : Bool)
  | popResult
  | popEos (doFlush : Bool)
  | resumeIfPaused
  | unload
  | stopGuard
  | enablePorts
  | awaitPorts
  | setPortStatus (enabled : Bool)
  | clearEos
  | clearQueue
  deriving DecidableEq, Repr

inductive ApiCall where
  | configureCodec
  | startCodec
  | pauseCodec
  | resumeCodec
  | flushCodec (all : Bool)
  | stopCodec (doFlush : Bool)
  | releaseBuffer
  | portReconfigOutput
  deriving DecidableEq, Repr

def ApiCall.ops : ApiCall → List Op
  | .configureCodec => [.component, .setState .idle false]
  | .startCodec =>
    [.clearEos, .enablePorts, .component, .awaitPorts, .waitState .idle, .setState .executing true]
  | .pauseCodec => [.setState .pause true]
  | .resumeCodec => [.setState .executing true]
  | .flushCodec all =>
    .component :: .popExpect .flush false :: if all then [.popExpect .flush false] else []
  | .stopCodec doFlush =>
    [.stopGuard, .popEos doFlush, .resumeIfPaused, .setState .idle true, .component, .component,
      .setPortStatus false, .component, .popExpect .portDisable true, .popExpect .portDisable true]
  | .releaseBuffer => [.unload, .component, .clearQueue, .setPortStatus true]
  | .portReconfigOutput =>
    [.component, .popResult, .component, .component, .popExpect .portDisable false, .component,
      .component, .popExpect .portEnable false]

/-- A return of `SetState(requested, OMX_TRUE)`, with `state_` at that time. -/
structure SetStateReturn where
  requested : OmxState
  status : CodecStatus
  state : OmxState
  deriving DecidableEq, Repr

/-- `threads` is what each thread has still to do of its call. -/
structure AVCodec (T : Type) where
  state : OmxState := .loaded
  statePending : OmxState := .loaded
  portStatus : Bool := true
  isEOSonOutput : Bool
  signalQueue : List CodecCmd := []
  threads : T → List Op := fun _ => []
  settled : List SetStateReturn := []

/-- How a part of a call goes: it gets what it waits for, its wait ends with a timeout, or the component
refuses. -/
inductive Outcome where
  | done
  | timeout
  | refused (code : UInt32)
  deriving DecidableEq, Repr

inductive CodecAction (T : Type) where
  | call (t : T) (c : ApiCall)
  | advance (t : T) (o : Outcome)
  | cmdComplete (cmd : OmxCommand) (data : UInt32)
  | outputEos

namespace AVCodec

variable {T : Type}

/-- A full queue takes nothing. -/
def pushEventCommand (s : AVCodec T) (e : CodecCmd) : AVCodec T :=
  if s.signalQueue.length < 10 then { s with signalQueue := s.signalQueue ++ [e] } else s

def pop (s : AVCodec T) : Outcome → Option (Except CodecStatus CodecCmd × AVCodec T)
  | .done =>
    match s.signalQueue with
    | [] => none
    | e :: rest => some (.ok e, { s with signalQueue := rest })
  | .timeout => if s.signalQueue = [] then some (.error .timedOut, s) else none
  | .refused _ => none

/-- What is no state change is an error in the log, and its own result is returned. -/
def reached (s : AVCodec T) (target : OmxState) (e : CodecCmd) : CodecStatus × AVCodec T :=
  if !e.isStateSet then (e.eventResult, s)
  else if e.eventData ≠ target.code then (.undefined, s)
  else (e.eventResult, { s with state := target })

def waitState (s : AVCodec T) (target : OmxState) (o : Outcome) : Option (CodecStatus × AVCodec T) :=
  if s.state = target then if o = .done then some (.ok, s) else none
  else
    (s.pop o).map fun r =>
      match r.1 with
      | .error st => (st, r.2)
      | .ok e => r.2.reached target e

/-- The return of a `SetState`. -/
def settle (s : AVCodec T) (target : OmxState) (sync : Bool) (st : CodecStatus) : AVCodec T :=
  if sync then { s with settled := s.settled ++ [⟨target, st, s.state⟩] } else s

def invalidTransition (s : AVCodec T) (target : OmxState) : Bool :=
  (target = .loaded && s.state ≠ .idle) ||
    (target = .executing && (s.state ≠ .idle && s.state ≠ .pause))

/-- A pop that got what it looked for. -/
def finds (p : CodecCmd → Bool) : Except CodecStatus CodecCmd → Bool
  | .ok e => e.eventResult = .ok && p e
  | .error _ => false

/-- A part that does not wait. -/
def atOnce (s : AVCodec T) (ops : Option (List Op)) : Outcome → Option (AVCodec T × Option (List Op))
  | .done => some (s, ops)
  | .timeout | .refused _ => none

/-- One part of a call: what comes in its place, or `none` where the call returns. -/
def exec (s : AVCodec T) (op : Op) (o : Outcome) : Option (AVCodec T × Option (List Op)) :=
  match op with
  | .setState target sync =>
    if s.state = target then (s.settle target sync .ok).atOnce (some []) o
    else if s.state ≠ s.statePending then
      s.atOnce (some [.waitPending s.statePending target sync, .command target sync]) o
    else s.atOnce (some [.command target sync]) o
  | .waitPending pending target sync =>
    (s.waitState pending o).map fun r =>
      if r.1 = .ok then (r.2, some []) else (r.2.settle target sync r.1, none)
  | .command target sync =>
    if s.invalidTransition target then (s.settle target sync .incorrectStateTransition).atOnce none o
    else match o with
      | .done => some ({ s with statePending := target }, some (if sync then [.waitFor target] else []))
      | .refused code => some (s.settle target sync (.component code), none)
      | .timeout => none
  | .waitFor target =>
    (s.waitState target o).map fun r =>
      (r.2.settle target true r.1, if r.1 = .ok then some [] else none)
  | .waitState target =>
    (s.waitState target o).map fun r => (r.2, if r.1 = .ok then some [] else none)
  | .component =>
    match o with
    | .done => some (s, some [])
    | .refused _ => some (s, none)
    | .timeout => none
  | .popExpect cmd goesOn =>
    (s.pop o).map fun r =>
      (r.2, if finds (fun e => e.eventType = .cmdComplete && e.eventCmd = cmd) r.1 || goesOn then some []
        else none)
  | .popResult =>
    (s.pop o).map fun r => (r.2, if finds (fun _ => true) r.1 then some [] else none)
  | .popEos doFlush =>
    if doFlush || s.isEOSonOutput then
      (s.pop o).map fun r =>
        (r.2, if finds (fun e => e.eventFlags = bufferFlagEos) r.1 then some [] else none)
    else s.atOnce (some []) o
  | .resumeIfPaused => s.atOnce (some (if s.state = .pause then [.setState .executing true] else [])) o
  | .unload => s.atOnce (some (if s.state ≠ .loaded then [.setState .loaded true] else [])) o
  | .stopGuard => s.atOnce (if s.state = .idle ∨ s.statePending = .idle then none else some []) o
  | .enablePorts => s.atOnce (some (if s.portStatus then [] else [.component, .component])) o
  | .awaitPorts =>
    s.atOnce (some (if s.portStatus then [] else
      [.popExpect .portEnable false, .popExpect .portEnable false, .setPortStatus true])) o
  | .setPortStatus enabled => { s with portStatus := enabled }.atOnce (some []) o
  | .clearEos => { s with isEOSonOutput := false }.atOnce (some []) o
  | .clearQueue => { s with signalQueue := [] }.atOnce (some []) o

/-- `OnFillBufferDone` with the flag of the end of the stream. -/
def outputEos (s : AVCodec T) : AVCodec T :=
  if s.isEOSonOutput then s
  else { s.pushEventCommand eosMarker with isEOSonOutput := true }

def step [DecidableEq T] (s : AVCodec T) : CodecAction T → Option (AVCodec T)
  | .call t c =>
    if s.threads t = [] then some { s with threads := Function.update s.threads t c.ops } else none
  | .advance t o =>
    match s.threads t with
    | [] => none
    | op :: rest =>
      (s.exec op o).map fun r =>
        { r.1 with threads := Function.update r.1.threads t ((r.2.map (· ++ rest)).getD []) }
  | .cmdComplete cmd data =>
    some (s.pushEventCommand { eventType := .cmdComplete, eventCmd := cmd, eventData := data })
  | .outputEos => some s.outputEos

/-- A `SetState` that returned `OK` has found the state that was asked for. -/
def Reported (s : AVCodec T) : Prop :=
  ∀ e ∈ s.settled, e.status = .ok → e.state = e.requested

/-- The last wait of a `SetState` finds a change of state first in the queue. -/
def Expects (s : AVCodec T) : CodecAction T → Prop
  | .advance t _ =>
    match s.threads t with
    | .waitFor target :: _ => s.state ≠ target → ∀ e ∈ s.signalQueue.head?, e.isStateSet
    | _ => True
  | .call _ _ | .cmdComplete _ _ | .outputEos => True

instance (s : AVCodec T) : Decidable s.Reported :=
  inferInstanceAs (Decidable (∀ e ∈ s.settled, e.status = .ok → e.state = e.requested))

instance Expects.decidable (s : AVCodec T) : (a : CodecAction T) → Decidable (s.Expects a)
  | .advance t _ =>
    match h : s.threads t with
    | .waitFor target :: _ =>
      decidable_of_iff (s.state ≠ target → ∀ e ∈ s.signalQueue.head?, e.isStateSet)
        (by simp only [Expects, h])
    | [] | .setState .. :: _ | .waitPending .. :: _ | .command .. :: _ | .waitState .. :: _
    | .component :: _ | .popExpect .. :: _ | .popResult :: _ | .popEos .. :: _
    | .resumeIfPaused :: _ | .unload :: _ | .stopGuard :: _ | .enablePorts :: _
    | .awaitPorts :: _ | .setPortStatus .. :: _ | .clearEos :: _ | .clearQueue :: _ => .isTrue (by simp only [Expects, h])
  | .call _ _ | .cmdComplete _ _ | .outputEos => .isTrue trivial

/-- All that is in the queue came without an error. -/
def Clean (s : AVCodec T) : Prop :=
  ∀ e ∈ s.signalQueue, e.eventResult = .ok

variable {s t u : AVCodec T} {e : CodecCmd} {target : OmxState} {st : CodecStatus} {sync : Bool}
  {o : Outcome} {op : Op} {ops : Option (List Op)}

theorem clean_push (hs : s.Clean) (he : e.eventResult = .ok) : (s.pushEventCommand e).Clean := by
  intro x hx
  unfold pushEventCommand at hx
  split at hx
  · obtain hx | hx := List.mem_append.mp hx
    · exact hs x hx
    · rw [List.mem_singleton.mp hx]
      exact he
  · exact hs x hx

/-- A pop takes the first event or, after its timeout, none. -/
theorem pop_cases {r : Except CodecStatus CodecCmd × AVCodec T} (h : s.pop o = some r) :
    (∃ e rest, s.signalQueue = e :: rest ∧ r = (.ok e, { s with signalQueue := rest })) ∨
      (s.signalQueue = [] ∧ r = (.error .timedOut, s)) := by
  cases o with
  | done =>
    simp only [pop] at h
    split at h
    next => cases h
    next e rest hq => exact .inl ⟨e, rest, hq, (Option.some.inj h).symm⟩
  | timeout =>
    simp only [pop] at h
    split at h
    next hq => exact .inr ⟨hq, (Option.some.inj h).symm⟩
    next => cases h
  | refused code => cases h

/-- How a `WaitState` ends. -/
inductive Waited (s : AVCodec T) (target : OmxState) : CodecStatus × AVCodec T → Prop where
  | already (heq : s.state = target) : Waited s target (.ok, s)
  | timedOut (hne : s.state ≠ target) (hq : s.signalQueue = []) : Waited s target (.timedOut, s)
  | other {e : CodecCmd} {rest : List CodecCmd} (hne : s.state ≠ target)
      (hq : s.signalQueue = e :: rest) (he : e.isStateSet = false) :
      Waited s target (e.eventResult, { s with signalQueue := rest })
  | wrong {e : CodecCmd} {rest : List CodecCmd} (hne : s.state ≠ target)
      (hq : s.signalQueue = e :: rest) (he : e.isStateSet = true) :
      Waited s target (.undefined, { s with signalQueue := rest })
  | reached {e : CodecCmd} {rest : List CodecCmd} (hne : s.state ≠ target)
      (hq : s.signalQueue = e :: rest) (he : e.isStateSet = true) :
      Waited s target (e.eventResult, { s with signalQueue := rest, state := target })

theorem waitState_cases {r : CodecStatus × AVCodec T} (h : s.waitState target o = some r) :
    Waited s target r := by
  unfold waitState at h
  split at h
  next heq =>
    split at h
    · exact Option.some.inj h ▸ .already heq
    · cases h
  next hne =>
    obtain ⟨p, hp, rfl⟩ := Option.map_eq_some_iff.mp h
    obtain ⟨e, rest, hq, rfl⟩ | ⟨hq, rfl⟩ := pop_cases hp
    · dsimp only
      unfold reached
      cases he : e.isStateSet with
      | false => exact .other hne hq he
      | true =>
        simp only [Bool.not_true, Bool.false_eq_true, if_false]
        split
        · exact .wrong hne hq he
        · exact .reached hne hq he
    · exact .timedOut hne hq

theorem Waited.queue {r : CodecStatus × AVCodec T} (h : Waited s target r) :
    r.2.signalQueue = s.signalQueue ∨ ∃ e, s.signalQueue = e :: r.2.signalQueue := by
  cases h with
  | already | timedOut => exact .inl rfl
  | other _ hq | wrong _ hq | reached _ hq => exact .inr ⟨_, hq⟩

theorem Waited.settled {r : CodecStatus × AVCodec T} (h : Waited s target r) :
    r.2.settled = s.settled := by
  cases h <;> rfl

/-- What a part of a call adds to the record of `SetState`: nothing, or a return that is not in doubt,
except for the last wait. -/
inductive Effect (s : AVCodec T) : Op → AVCodec T → Prop where
  | quiet {op : Op} {t : AVCodec T} (hsettled : t.settled = s.settled)
      (hqueue : ∀ e ∈ t.signalQueue, e ∈ s.signalQueue)
      (hop : ∀ target, op ≠ .waitFor target) : Effect s op t
  | settled {op : Op} {t : AVCodec T} {r : SetStateReturn}
      (hsettled : t.settled = s.settled ++ [r]) (hr : r.status = .ok → r.state = r.requested)
      (hqueue : ∀ e ∈ t.signalQueue, e ∈ s.signalQueue)
      (hop : ∀ target, op ≠ .waitFor target) : Effect s op t
  | waited {target : OmxState} {t : AVCodec T} {r : CodecStatus × AVCodec T} (h : Waited s target r)
      (ht : t = r.2.settle target true r.1) : Effect s (.waitFor target) t

/-- A return with an error, or with the state that was asked for. -/
theorem Effect.settle (hsettled : u.settled = s.settled) (hqueue : ∀ e ∈ u.signalQueue, e ∈ s.signalQueue)
    (hst : st = .ok → u.state = target) (hop : ∀ target, op ≠ .waitFor target) :
    Effect s op (u.settle target sync st) := by
  cases sync with
  | false => exact .quiet hsettled hqueue hop
  | true =>
    refine .settled (r := ⟨target, st, u.state⟩) ?_ hst hqueue hop
    rw [← hsettled]
    rfl

theorem Waited.subset {r : CodecStatus × AVCodec T} (h : Waited s target r) :
    ∀ e ∈ r.2.signalQueue, e ∈ s.signalQueue := by
  intro e he
  obtain hq | ⟨x, hq⟩ := h.queue
  · exact hq ▸ he
  · rw [hq]
    exact List.mem_cons_of_mem _ he

theorem pop_effect {r : Except CodecStatus CodecCmd × AVCodec T} (h : s.pop o = some r)
    (hop : ∀ target, op ≠ .waitFor target) : Effect s op r.2 := by
  obtain ⟨e, rest, hq, rfl⟩ | ⟨-, rfl⟩ := pop_cases h
  · refine .quiet rfl (fun x hx => ?_) hop
    rw [hq]
    exact List.mem_cons_of_mem _ hx
  · exact .quiet rfl (fun _ hx => hx) hop

theorem atOnce_eq {r : AVCodec T × Option (List Op)} (h : s.atOnce ops o = some r) : r = (s, ops) := by
  cases o with
  | done => exact (Option.some.inj h).symm
  | timeout | refused => cases h

theorem exec_effect {r : AVCodec T × Option (List Op)} (h : s.exec op o = some r) :
    Effect s op r.1 := by
  cases op with
  | setState target sync =>
    simp only [exec] at h
    split at h
    next heq =>
      rw [atOnce_eq h]
      exact .settle rfl (fun _ he => he) (fun _ => heq) nofun
    next =>
      split at h
      · rw [atOnce_eq h]
        exact .quiet rfl (fun _ he => he) nofun
      · rw [atOnce_eq h]
        exact .quiet rfl (fun _ he => he) nofun
  | waitPending pending target sync =>
    obtain ⟨w, hw, rfl⟩ := Option.map_eq_some_iff.mp h
    have hwaited := waitState_cases hw
    split
    next => exact .quiet hwaited.settled hwaited.subset nofun
    next hst => exact .settle hwaited.settled hwaited.subset (fun hok => absurd hok hst) nofun
  | command target sync =>
    simp only [exec] at h
    split at h
    · rw [atOnce_eq h]
      exact .settle rfl (fun _ he => he) nofun nofun
    · split at h
      · exact Option.some.inj h ▸ .quiet rfl (fun _ he => he) nofun
      · exact Option.some.inj h ▸ .settle rfl (fun _ he => he) nofun nofun
      · cases h
  | waitFor target =>
    obtain ⟨w, hw, rfl⟩ := Option.map_eq_some_iff.mp h
    exact .waited (waitState_cases hw) rfl
  | waitState target =>
    obtain ⟨w, hw, rfl⟩ := Option.map_eq_some_iff.mp h
    have hwaited := waitState_cases hw
    exact .quiet hwaited.settled hwaited.subset nofun
  | component =>
    simp only [exec] at h
    split at h
    · exact Option.some.inj h ▸ .quiet rfl (fun _ he => he) nofun
    · exact Option.some.inj h ▸ .quiet rfl (fun _ he => he) nofun
    · cases h
  | popExpect | popResult =>
    obtain ⟨w, hw, rfl⟩ := Option.map_eq_some_iff.mp h
    exact pop_effect hw nofun
  | popEos doFlush =>
    simp only [exec] at h
    split at h
    · obtain ⟨w, hw, rfl⟩ := Option.map_eq_some_iff.mp h
      exact pop_effect hw nofun
    · rw [atOnce_eq h]
      exact .quiet rfl (fun _ he => he) nofun
  | resumeIfPaused | unload | stopGuard | enablePorts | awaitPorts | setPortStatus | clearEos =>
    rw [atOnce_eq h]
    exact .quiet rfl (fun _ he => he) nofun
  | clearQueue =>
    rw [atOnce_eq h]
    exact .quiet rfl nofun nofun

theorem Effect.clean (h : Effect s op u) (hs : s.Clean) : u.Clean := by
  cases h with
  | quiet _ hqueue | settled _ _ hqueue => exact fun e he => hs e (hqueue e he)
  | waited hw ht =>
    subst ht
    exact fun e he => hs e (hw.subset e he)

theorem reported_append {r : SetStateReturn} (hs : s.Reported) (h : t.settled = s.settled ++ [r]) :
    t.Reported ↔ (r.status = .ok → r.state = r.requested) := by
  unfold Reported
  rw [h, List.forall_mem_append]
  simp only [List.mem_singleton, forall_eq]
  exact and_iff_right hs

theorem reported_congr (hs : s.Reported) (h : t.settled = s.settled) : t.Reported := by
  unfold Reported
  rw [h]
  exact hs

/-- The last wait returns `OK` without the state exactly when it finds something else in the queue. -/
theorem Waited.reported {r : CodecStatus × AVCodec T} (h : Waited s target r) (hs : s.Reported)
    (hc : s.Clean) : (r.2.settle target true r.1).Reported ↔
      (s.state ≠ target → ∀ e ∈ s.signalQueue.head?, e.isStateSet) := by
  have hentry := reported_append (t := r.2.settle target true r.1) (r := ⟨target, r.1, r.2.state⟩) hs
    (congrArg (· ++ _) h.settled)
  rw [hentry]
  cases h with
  | already heq => exact iff_of_true (fun _ => heq) fun hne => absurd heq hne
  | timedOut hne hq =>
    refine iff_of_true nofun fun _ e he => ?_
    simp [hq] at he
  | other hne hq he =>
    have hok := hc _ (hq ▸ List.mem_cons_self)
    refine iff_of_false (fun hreport => hne (hreport hok)) fun hexpects => ?_
    have hset := hexpects hne _ (by rw [hq]; rfl)
    simp [he] at hset
  | wrong hne hq he =>
    refine iff_of_true nofun fun _ x hx => ?_
    rw [hq] at hx
    exact Option.some.inj hx ▸ he
  | reached hne hq he =>
    refine iff_of_true (fun _ => rfl) fun _ x hx => ?_
    rw [hq] at hx
    exact Option.some.inj hx ▸ he

theorem settled_push : (s.pushEventCommand e).settled = s.settled := by
  unfold pushEventCommand
  split
  · rfl
  · rfl

section Runs

variable [DecidableEq T] {a : CodecAction T} {as : List (CodecAction T)}

theorem clean_step (hs : s.Clean) (h : s.step a = some u) : u.Clean := by
  cases a with
  | call t c =>
    simp only [step] at h
    split at h
    · exact Option.some.inj h ▸ hs
    · cases h
  | advance t o =>
    simp only [step] at h
    split at h
    · cases h
    next op rest hop =>
      obtain ⟨r, hr, rfl⟩ := Option.map_eq_some_iff.mp h
      exact (exec_effect hr).clean hs
  | cmdComplete cmd data => exact Option.some.inj h ▸ clean_push hs rfl
  | outputEos =>
    obtain rfl := Option.some.inj h
    unfold outputEos
    split
    · exact hs
    · exact clean_push hs rfl

theorem reported_step (hs : s.Reported) (hc : s.Clean) (h : s.step a = some u) :
    u.Reported ↔ s.Expects a := by
  cases a with
  | call t c =>
    simp only [step] at h
    split at h
    · exact iff_of_true (reported_congr hs (Option.some.inj h ▸ rfl)) trivial
    · cases h
  | advance t o =>
    simp only [step] at h
    split at h
    next => cases h
    next op rest hop =>
      obtain ⟨r, hr, rfl⟩ := Option.map_eq_some_iff.mp h
      have hother : (∀ target, op ≠ .waitFor target) → s.Expects (.advance t o) := by
        intro hne
        simp only [Expects, hop]
        split
        next target _ heq => exact absurd (List.cons.inj heq).1 (hne target)
        next => trivial
      cases exec_effect hr with
      | quiet hsettled _ hne => exact iff_of_true (reported_congr hs hsettled) (hother hne)
      | settled hsettled hreturn _ hne =>
        exact iff_of_true ((reported_append hs hsettled).mpr hreturn) (hother hne)
      | @waited target _ w hw ht =>
        simp only [Expects, hop]
        change r.1.Reported ↔ _
        rw [ht]
        exact hw.reported hs hc
  | cmdComplete cmd data =>
    exact iff_of_true (reported_congr hs (Option.some.inj h ▸ settled_push)) trivial
  | outputEos =>
    obtain rfl := Option.some.inj h
    refine iff_of_true (reported_congr hs ?_) trivial
    unfold outputEos
    split
    · rfl
    · exact settled_push

/-- In a run every `SetState(s, OMX_TRUE)` that returns `OK` leaves the codec in `s` if and only if no
last wait of one finds the completion of another command first in the queue. -/
theorem reported_iff (eos : Bool) (as : List (CodecAction T)) (u : AVCodec T)
    (h : LTS.run step { isEOSonOutput := eos } as = some u) :
    (∀ bs cs v, as = bs ++ cs → LTS.run step { isEOSonOutput := eos } bs = some v → v.Reported) ↔
      LTS.Meets step Expects { isEOSonOutput := eos } as := by
  have hclean : ∀ {bs : List (CodecAction T)} {v}, LTS.run step { isEOSonOutput := eos } bs = some v →
      v.Clean := fun hv =>
    LTS.inv_of_mTr (L := LTS.ofStep step) (fun _ _ _ hstep hs => clean_step hs hstep)
      (LTS.mTr_ofStep_iff.mpr hv) (by simp [Clean])
  have hboth := LTS.forall_prefix_iff_meets (f := step (T := T)) (P := fun s => s.Reported ∧ s.Clean)
    (G := Expects) (s := { isEOSonOutput := eos })
    (fun s a t hs hstep => (and_iff_left (clean_step hs.2 hstep)).trans (reported_step hs.1 hs.2 hstep))
    ⟨by simp [Reported], by simp [Clean]⟩ h
  rw [← hboth]
  constructor
  · exact fun hall bs cs v heq hv => ⟨hall bs cs v heq hv, hclean hv⟩
  · exact fun hall bs cs v heq hv => (hall bs cs v heq hv).1

section Codec

/-- A codec is configured and started, each command with its completion. -/
def startedRun : List (CodecAction Unit) :=
  [.call () .configureCodec] ++ List.replicate 3 (.advance () .done) ++ [.cmdComplete .stateSet 2,
    .call () .startCodec] ++ List.replicate 7 (.advance () .done) ++
    [.cmdComplete .stateSet 3, .advance () .done]

def pausedRun : List (CodecAction Unit) :=
  startedRun ++ [.call () .pauseCodec] ++ List.replicate 2 (.advance () .done) ++
    [.cmdComplete .stateSet 4, .advance () .done]

/-- The end of the stream comes before the completions of a flush, and they are still there when the codec
pauses. -/
def flushedThenPausedRun : List (CodecAction Unit) :=
  startedRun ++ [.outputEos, .call () (.flushCodec true), .advance () .done, .cmdComplete .flush 0,
    .cmdComplete .flush 1, .advance () .done, .call () .pauseCodec] ++
    List.replicate 3 (.advance () .done)

example : (LTS.run step { isEOSonOutput := false } flushedThenPausedRun).map (·.settled) =
    some [⟨.executing, .ok, .executing⟩, ⟨.pause, .ok, .executing⟩] := by decide

theorem reported_paused : ∃ u, LTS.run step { isEOSonOutput := false } pausedRun = some u ∧
    ∀ bs cs v, pausedRun = bs ++ cs → LTS.run step { isEOSonOutput := false } bs = some v →
      v.Reported := by
  have hruns : (LTS.run step { isEOSonOutput := false } pausedRun).isSome := by decide
  have hmeets : LTS.Meets step Expects { isEOSonOutput := false } pausedRun := by decide
  obtain ⟨u, hu⟩ := Option.isSome_iff_exists.mp hruns
  exact ⟨u, hu, (reported_iff false pausedRun u hu).mpr hmeets⟩

/-- `PauseCodec` returns `OK` on a completion of the flush, and the codec is executing. -/
theorem paused_while_executing : ¬ ∀ u, LTS.run step { isEOSonOutput := false } flushedThenPausedRun =
    some u → u.Reported := by
  intro h
  have hfails : (LTS.run step { isEOSonOutput := false } flushedThenPausedRun).map
      (fun u => decide u.Reported) = some false := by
    decide
  obtain ⟨u, hu, hreported⟩ := Option.map_eq_some_iff.mp hfails
  exact of_decide_eq_false hreported (h u hu)

end Codec

end Runs

end AVCodec

end QmmfSdk.Codec
