import Mathlib.Data.List.Chain
import QmmfSdk.Library.OrdMap
import QmmfSdk.Library.Transition

/-! `Camera3Monitor`: users report when they are active, and one thread tells when all are idle. -/
namespace QmmfSdk.Camera3

open Library

inductive MonitorState where
  | idle
  | active
  deriving DecidableEq, Repr

/-- A request of `ChangeState` that the thread has not looked at. -/
structure StateTransition where
  id : Int
  state : MonitorState
  deriving DecidableEq, Repr

/-- The monitor. `updating` counts the calls that have changed `monitorStates` and have still to
set `monitorUpdated`; `notified` and `changes` record what was sent and what was asked for. -/
structure Monitor where
  inputQueue : List StateTransition := []
  monitorUpdated : Bool := false
  nextMonitor : Int := 0
  monitorStates : OrdMap Int MonitorState := ∅
  compositeState : MonitorState := .idle
  updatedStates : List MonitorState := []
  updating : Nat := 0
  notified : List MonitorState := []
  changes : List StateTransition := []

namespace Monitor

/-- Active as soon as one monitor is. -/
def buildCompositeState (m : OrdMap Int MonitorState) : MonitorState :=
  if m.toList.any fun p => p.2 == .active then .active else .idle

/-- The first half of `AcquireMonitor`; without memory the id is lost. -/
def acquireMonitor (m : Monitor) (added : Bool) : Monitor :=
  if added then
    { m with
      nextMonitor := m.nextMonitor + 1
      monitorStates := m.monitorStates.insert m.nextMonitor .idle
      updating := m.updating + 1 }
  else { m with nextMonitor := m.nextMonitor + 1 }

/-- The first half of `ReleaseMonitor`. -/
def releaseMonitor (m : Monitor) (id : Int) : Monitor :=
  if id ∈ m.monitorStates then
    { m with monitorStates := m.monitorStates.erase id, updating := m.updating + 1 }
  else m

def changeState (m : Monitor) (id : Int) (state : MonitorState) : Monitor :=
  { m with
    inputQueue := m.inputQueue ++ [⟨id, state⟩]
    changes := m.changes ++ [⟨id, state⟩] }

/-- One turn of the loop over the queue; `oldState` is the composite state so far. -/
def applyTransition (acc : OrdMap Int MonitorState × MonitorState × List MonitorState)
    (p : StateTransition) : OrdMap Int MonitorState × MonitorState × List MonitorState :=
  let (states, oldState, updated) := acc
  if p.id ∈ states then
    let states := states.insert p.id p.state
    let newState := buildCompositeState states
    (states, newState, if newState ≠ oldState then updated ++ [newState] else updated)
  else acc

/-- What `ThreadLoop` does under its locks. -/
def collect (m : Monitor) : Monitor :=
  let oldState := buildCompositeState m.monitorStates
  let updated := if oldState ≠ m.compositeState then m.updatedStates ++ [oldState]
    else m.updatedStates
  let (states, composite, updated) :=
    m.inputQueue.foldl applyTransition (m.monitorStates, oldState, updated)
  { m with
    monitorStates := states
    inputQueue := []
    monitorUpdated := false
    compositeState := composite
    updatedStates := updated }

inductive Action where
  | acquireMonitor (added : Bool)
  | releaseMonitor (id : Int)
  | setUpdated
  | changeState (id : Int) (state : MonitorState)
  | collect
  | notify
  deriving DecidableEq, Repr

/-- Users change only monitors that they were given; a negative id stands for none. The thread
looks at the queue when it is signalled or its wait times out, and notifies without its locks. -/
def step (m : Monitor) : Action → Option Monitor
  | .acquireMonitor added => some (m.acquireMonitor added)
  | .releaseMonitor id => some (m.releaseMonitor id)
  | .setUpdated =>
    if m.updating = 0 then none
    else some { m with updating := m.updating - 1, monitorUpdated := true }
  | .changeState id state => if id < m.nextMonitor then some (m.changeState id state) else none
  | .collect => if m.updatedStates.isEmpty then some m.collect else none
  | .notify =>
    match m.updatedStates with
    | [] => none
    | s :: rest => some { m with updatedStates := rest, notified := m.notified ++ [s] }

def lts : LTS Monitor Action := .ofStep step

/-- No change is queued, no call and no iteration of the thread is half done. -/
structure Quiet (m : Monitor) : Prop where
  queue : m.inputQueue = []
  updated : m.monitorUpdated = false
  updating : m.updating = 0
  sent : m.updatedStates = []

/-- The state of a monitor after some changes. -/
def lastState (id : Int) (start : MonitorState) (ps : List StateTransition) : MonitorState :=
  ps.foldl (fun s p => if p.id = id then p.state else s) start

/-- What a monitor was last changed to. -/
def lastChange (m : Monitor) (id : Int) : MonitorState := lastState id .idle m.changes

/-- Notifications alternate, beginning with active, and the last one is faithful when all is
quiet. -/
def Faithful (m : Monitor) : Prop :=
  (MonitorState.idle :: m.notified).IsChain (· ≠ ·) ∧
    (Quiet m → (m.notified.getLastD .idle = .idle ↔
      ∀ id ∈ m.monitorStates, m.lastChange id = .idle))

theorem buildCompositeState_eq_idle {states : OrdMap Int MonitorState} :
    buildCompositeState states = .idle ↔ ∀ (id : Int) (s : MonitorState),
      states[id]? = some s → s = .idle := by
  unfold buildCompositeState
  split
  next hany =>
    obtain ⟨id, s, hs, hactive⟩ := OrdMap.any_toList.mp hany
    have hne : s ≠ .idle := by
      rintro rfl
      simp at hactive
    exact ⟨by simp, fun hall => absurd (hall id s hs) hne⟩
  next hany =>
    refine ⟨fun _ id s hs => ?_, fun _ => rfl⟩
    cases s with
    | idle => rfl
    | active => exact absurd (OrdMap.any_toList.mpr ⟨id, .active, hs, rfl⟩) hany

section Iteration

variable {l : List MonitorState} {s s' : MonitorState} {ps : List StateTransition}
  {acc : OrdMap Int MonitorState × MonitorState × List MonitorState}

/-- What was sent alternates, and `s` was the last of it. -/
structure Sent (l : List MonitorState) (s : MonitorState) : Prop where
  alternates : (MonitorState.idle :: l).IsChain (· ≠ ·)
  last : l.getLastD .idle = s

theorem sent_append (h : Sent l s) (hne : s' ≠ s) : Sent (l ++ [s']) s' := by
  refine ⟨?_, by simp⟩
  rw [← List.cons_append, List.isChain_append]
  refine ⟨h.alternates, .singleton _, fun x hx y hy => ?_⟩
  obtain rfl : s' = y := by simpa using hy
  have hlast : x = s := by
    rw [List.getLast?_cons] at hx
    rw [← h.last, List.getLastD_eq_getLast?]
    exact (Option.some.inj hx).symm
  rw [hlast]
  exact hne.symm

/-- The books of the loop over the queue, with `n` sent before. -/
structure Walked (n : List MonitorState)
    (acc : OrdMap Int MonitorState × MonitorState × List MonitorState) : Prop where
  composite : acc.2.1 = buildCompositeState acc.1
  sent : Sent (n ++ acc.2.2) acc.2.1

theorem walked_applyTransition {n : List MonitorState} {p : StateTransition} (h : Walked n acc) :
    Walked n (applyTransition acc p) := by
  obtain ⟨states, old, upd⟩ := acc
  unfold applyTransition
  dsimp only
  split
  · refine ⟨rfl, ?_⟩
    dsimp only
    split
    next hne =>
      rw [← List.append_assoc]
      exact sent_append h.sent hne
    next heq =>
      rw [not_not.mp heq]
      exact h.sent
  · exact h

/-- A change concerns its own monitor if that is there. -/
theorem getElem?_applyTransition {p : StateTransition} {id : Int} :
    (applyTransition acc p).1[id]? = (acc.1[id]?).map fun s => lastState id s [p] := by
  obtain ⟨states, old, upd⟩ := acc
  unfold applyTransition
  dsimp only
  split
  next hmem =>
    rw [Std.ExtTreeMap.getElem?_insert]
    split
    next heq =>
      rw [Std.LawfulEqOrd.compare_eq_iff_eq] at heq
      subst heq
      obtain ⟨s, hs⟩ := Option.isSome_iff_exists.mp (Std.ExtTreeMap.mem_iff_isSome_getElem?.mp hmem)
      simp [hs, lastState]
    next hne =>
      rw [Std.LawfulEqOrd.compare_eq_iff_eq] at hne
      simp [lastState, hne]
  next hmem =>
    by_cases heq : p.id = id
    · subst heq
      have hnone : states[p.id]? = none := by
        rw [← Option.not_isSome_iff_eq_none, ← Std.ExtTreeMap.mem_iff_isSome_getElem?]
        exact hmem
      simp [hnone]
    · simp [lastState, heq]

theorem walked_foldl {n : List MonitorState} (ps : List StateTransition) (h : Walked n acc) :
    Walked n (ps.foldl applyTransition acc) := by
  induction ps generalizing acc with
  | nil => exact h
  | cons p ps ih => exact ih (walked_applyTransition h)

theorem getElem?_foldl {id : Int} :
    (ps.foldl applyTransition acc).1[id]? = (acc.1[id]?).map fun s => lastState id s ps := by
  induction ps generalizing acc with
  | nil => simp [lastState]
  | cons p ps ih =>
    rw [List.foldl_cons, ih, getElem?_applyTransition, Option.map_map]
    rfl

/-- The loop begins with what has changed since the last iteration. -/
theorem walked_start {m : Monitor} (h : Sent (m.notified ++ m.updatedStates) m.compositeState) :
    Walked m.notified (m.monitorStates, buildCompositeState m.monitorStates,
      if buildCompositeState m.monitorStates ≠ m.compositeState then
        m.updatedStates ++ [buildCompositeState m.monitorStates] else m.updatedStates) := by
  refine ⟨rfl, ?_⟩
  dsimp only
  split
  next hne =>
    rw [← List.append_assoc]
    exact sent_append h hne
  next heq =>
    rw [not_not.mp heq]
    exact h

end Iteration

section Invariant

variable {m t : Monitor} {a : Action} {id : Int}

/-- The thread is behind only by what is queued for the monitors, and by what is removed. -/
structure Books (m : Monitor) : Prop where
  sent : Sent (m.notified ++ m.updatedStates) m.compositeState
  composite : m.compositeState = buildCompositeState m.monitorStates ∨ m.monitorUpdated = true ∨
    0 < m.updating
  states : ∀ (id : Int) (s : MonitorState), m.monitorStates[id]? = some s →
    id < m.nextMonitor ∧ lastState id s m.inputQueue = m.lastChange id
  queued : ∀ p ∈ m.inputQueue, p.id < m.nextMonitor
  changed : ∀ p ∈ m.changes, p.id < m.nextMonitor

theorem lastState_of_forall_ne {ps : List StateTransition} {s : MonitorState}
    (h : ∀ p ∈ ps, p.id ≠ id) : lastState id s ps = s := by
  induction ps with
  | nil => rfl
  | cons p ps ih =>
    have hp := h p (by simp)
    simp only [lastState, List.foldl_cons, if_neg hp]
    exact ih fun q hq => h q (by simp [hq])

theorem lastState_append {ps qs : List StateTransition} {s : MonitorState} :
    lastState id s (ps ++ qs) = lastState id (lastState id s ps) qs := by
  simp [lastState]

theorem Books.faithful (h : Books m) : Faithful m := by
  have hchain : (MonitorState.idle :: m.notified).IsChain (· ≠ ·) := by
    have hall := h.sent.alternates
    rw [← List.cons_append] at hall
    exact hall.left_of_append
  refine ⟨hchain, fun hquiet => ?_⟩
  have hlast : m.notified.getLastD .idle = m.compositeState := by
    have := h.sent.last
    rwa [hquiet.sent, List.append_nil] at this
  have hcomposite : m.compositeState = buildCompositeState m.monitorStates := by
    rcases h.composite with heq | hflag | hpos
    · exact heq
    · simp [hquiet.updated] at hflag
    · simp [hquiet.updating] at hpos
  have hstate : ∀ (id : Int) (s : MonitorState), m.monitorStates[id]? = some s →
      m.lastChange id = s := by
    intro id s hs
    have := (h.states id s hs).2
    rw [hquiet.queue] at this
    exact this.symm
  rw [hlast, hcomposite, buildCompositeState_eq_idle]
  constructor
  · intro hall id hid
    obtain ⟨s, hs⟩ := Option.isSome_iff_exists.mp (Std.ExtTreeMap.mem_iff_isSome_getElem?.mp hid)
    rw [hstate id s hs]
    exact hall id s hs
  · intro hall id s hs
    rw [← hstate id s hs]
    exact hall id (Std.ExtTreeMap.mem_iff_isSome_getElem?.mpr (by simp [hs]))

theorem books_acquireMonitor {added : Bool} (h : Books m) : Books (m.acquireMonitor added) := by
  have hnext : ∀ id : Int, id < m.nextMonitor → id < m.nextMonitor + 1 := fun id hid => by omega
  unfold acquireMonitor
  split
  · have hnew : m.nextMonitor ∉ m.monitorStates := by
      intro hmem
      obtain ⟨s, hs⟩ := Option.isSome_iff_exists.mp
        (Std.ExtTreeMap.mem_iff_isSome_getElem?.mp hmem)
      have := (h.states _ s hs).1
      omega
    refine ⟨h.sent, ?_, fun id s hs => ?_, fun p hp => hnext _ (h.queued p hp),
      fun p hp => hnext _ (h.changed p hp)⟩
    · exact .inr (.inr (Nat.succ_pos _))
    · dsimp only at hs ⊢
      rw [Std.ExtTreeMap.getElem?_insert] at hs
      split at hs
      next heq =>
        rw [Std.LawfulEqOrd.compare_eq_iff_eq] at heq
        obtain rfl := Option.some.inj hs
        subst heq
        refine ⟨by omega, ?_⟩
        have hqueue : ∀ p ∈ m.inputQueue, p.id ≠ m.nextMonitor := fun p hp =>
          Int.ne_of_lt (h.queued p hp)
        have hchanges : ∀ p ∈ m.changes, p.id ≠ m.nextMonitor := fun p hp =>
          Int.ne_of_lt (h.changed p hp)
        rw [lastState_of_forall_ne hqueue]
        exact (lastState_of_forall_ne hchanges).symm
      · obtain ⟨hlt, hlast⟩ := h.states id s hs
        exact ⟨hnext id hlt, hlast⟩
  · exact ⟨h.sent, h.composite, fun id s hs => ⟨hnext id (h.states id s hs).1, (h.states id s hs).2⟩,
      fun p hp => hnext _ (h.queued p hp), fun p hp => hnext _ (h.changed p hp)⟩

theorem books_releaseMonitor (h : Books m) : Books (m.releaseMonitor id) := by
  unfold releaseMonitor
  split
  · refine ⟨h.sent, .inr (.inr (Nat.succ_pos _)), fun j s hs => ?_, h.queued, h.changed⟩
    dsimp only at hs
    rw [Std.ExtTreeMap.getElem?_erase] at hs
    split at hs
    · simp at hs
    · exact h.states j s hs
  · exact h

theorem books_changeState {state : MonitorState} (h : Books m) (hid : id < m.nextMonitor) :
    Books (m.changeState id state) := by
  refine ⟨h.sent, h.composite, fun j s hs => ?_, fun p hp => ?_, fun p hp => ?_⟩
  · obtain ⟨hlt, hlast⟩ := h.states j s hs
    refine ⟨hlt, ?_⟩
    unfold lastChange changeState
    rw [lastState_append, lastState_append, hlast]
    rfl
  · rcases List.mem_append.mp hp with hp | hp
    · exact h.queued p hp
    · rw [List.mem_singleton.mp hp]
      exact hid
  · rcases List.mem_append.mp hp with hp | hp
    · exact h.changed p hp
    · rw [List.mem_singleton.mp hp]
      exact hid

/-- An iteration catches up. -/
theorem books_collect (h : Books m) : Books m.collect := by
  have hwalked := walked_foldl m.inputQueue (walked_start h.sent)
  refine ⟨hwalked.sent, .inl hwalked.composite, fun id s hs => ?_, by simp [collect], h.changed⟩
  have hget : m.collect.monitorStates[id]? =
      (m.monitorStates[id]?).map fun s => lastState id s m.inputQueue := getElem?_foldl
  rw [hget] at hs
  obtain ⟨s', hs', rfl⟩ := Option.map_eq_some_iff.mp hs
  exact ⟨(h.states id s' hs').1, (h.states id s' hs').2⟩

theorem books_step (h : Books m) (hstep : m.step a = some t) : Books t := by
  cases a with
  | acquireMonitor added =>
    obtain rfl := Option.some.inj hstep
    exact books_acquireMonitor h
  | releaseMonitor id =>
    obtain rfl := Option.some.inj hstep
    exact books_releaseMonitor h
  | setUpdated =>
    simp only [step] at hstep
    split at hstep
    · simp at hstep
    · obtain rfl := Option.some.inj hstep
      exact ⟨h.sent, .inr (.inl rfl), h.states, h.queued, h.changed⟩
  | changeState id state =>
    simp only [step] at hstep
    split at hstep
    next hid =>
      obtain rfl := Option.some.inj hstep
      exact books_changeState h hid
    · simp at hstep
  | collect =>
    simp only [step] at hstep
    split at hstep
    · obtain rfl := Option.some.inj hstep
      exact books_collect h
    · simp at hstep
  | notify =>
    simp only [step] at hstep
    split at hstep
    · simp at hstep
    next s rest hupd =>
      obtain rfl := Option.some.inj hstep
      refine ⟨?_, h.composite, h.states, h.queued, h.changed⟩
      have hsent := h.sent
      rw [hupd] at hsent
      simpa using hsent

/-- In every run the monitor reports idleness faithfully. -/
theorem monitor_faithful (as : List Action) (t : Monitor) (h : lts.MTr {} as t) : Faithful t := by
  have hinv : lts.TrInv Books := fun m a t hstep hm => books_step hm hstep
  refine (LTS.inv_of_mTr hinv h ⟨⟨.singleton _, rfl⟩, .inl ?_, ?_, ?_, ?_⟩).faithful
  · exact (buildCompositeState_eq_idle.mpr (by simp)).symm
  · simp
  · simp
  · simp

/-- Two users, of which the one that is active goes before the thread looks again. -/
def twoUsers : List Action :=
  [.acquireMonitor true, .setUpdated, .acquireMonitor true, .changeState 0 .active,
    .changeState 1 .active, .changeState 1 .idle, .setUpdated, .collect, .notify,
    .releaseMonitor 0, .collect, .notify, .setUpdated, .collect]

theorem faithful_two_users :
    ((LTS.run step {} twoUsers).map fun t => t.notified) = some [.active, .idle] ∧
      ∃ t, lts.MTr {} twoUsers t ∧ Faithful t := by
  have hrun : ((LTS.run step {} twoUsers).map fun t => t.notified) = some [.active, .idle] := by
    decide
  obtain ⟨t, ht, -⟩ := Option.map_eq_some_iff.mp hrun
  have hmTr : lts.MTr {} twoUsers t := LTS.mTr_ofStep_iff.mpr ht
  exact ⟨hrun, t, hmTr, monitor_faithful twoUsers t hmTr⟩

end Invariant

end Monitor

end QmmfSdk.Camera3
