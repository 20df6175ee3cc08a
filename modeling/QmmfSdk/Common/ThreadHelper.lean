import QmmfSdk.Library.Transition

/-! `ThreadHelper`: its clients take turns under `lock_`, its thread runs between their steps, and
both write the one state. -/
namespace QmmfSdk.Common

open Library

inductive ThreadHelperState where
  | active
  | toIdle
  | idle
  | inactive
  deriving DecidableEq, Repr

/-- The thread in `MainLoop`: inside `ThreadLoop`, after its last turn, or past `ChangeState`. -/
inductive Worker where
  | none
  | looping
  | leaving
  | ended
  deriving DecidableEq, Repr

/-- The next thing the client that has `lock_` does. -/
inductive Client where
  | free
  | runCheck
  | runWait
  | runJoin
  | runClear
  | runCreate
  | runActive
  | exitCheck
  | exitRequest
  | waitCheck
  | waitRequest
  | waitIdle
  | waitJoin
  | waitClear
  deriving DecidableEq, Repr

/-- `joinable` is that of `thread_`. -/
structure ThreadHelper where
  state : ThreadHelperState := .inactive
  joinable : Bool := false
  worker : Worker := .none
  client : Client := .free
  deriving DecidableEq, Repr

namespace ThreadHelper

/-- `created` says whether the system gives `Run` a thread. -/
inductive Action where
  | run
  | requestExit
  | requestExitAndWait
  | advance (created : Bool)
  | threadLoop (active : Bool)
  | mainLoopEnds
  deriving DecidableEq, Repr

variable {q r : ThreadHelper} {a : Action} {as : List Action} {created : Bool}

/-- `none` is a call that waits for `lock_`. -/
def begin (q : ThreadHelper) (c : Client) : Option ThreadHelper :=
  if q.client = .free then some { q with client := c } else none

/-- `none` is a wait for the thread, or an exception. -/
def join (q : ThreadHelper) (c : Client) : Option ThreadHelper :=
  if q.joinable ∧ q.worker = .ended then
    some { q with joinable := false, worker := .none, client := c }
  else none

/-- One step of the client. -/
def advance (q : ThreadHelper) (created : Bool) : Option ThreadHelper :=
  match q.client with
  | .free => none
  | .runCheck =>
    match q.state with
    | .active => some { q with client := .free }
    | .toIdle => some { q with client := .runWait }
    | .idle => some { q with client := .runJoin }
    | .inactive => some { q with client := .runCreate }
  | .runWait => if q.state = .idle then some { q with client := .runJoin } else none
  | .runJoin => q.join .runClear
  | .runClear => some { q with state := .inactive, client := .runCreate }
  | .runCreate =>
    -- a thread assigned over one that was not joined ends the process
    if q.joinable then none
    else if created then some { q with joinable := true, worker := .looping, client := .runActive }
    else some { q with client := .free }
  | .runActive => some { q with state := .active, client := .free }
  | .exitCheck =>
    if q.state = .active then some { q with client := .exitRequest }
    else some { q with client := .free }
  | .exitRequest => some { q with state := .toIdle, client := .free }
  | .waitCheck =>
    match q.state with
    | .active => some { q with client := .waitRequest }
    | .toIdle => some { q with client := .waitIdle }
    | .idle => some { q with client := .waitJoin }
    | .inactive => some { q with client := .free }
  | .waitRequest => some { q with state := .toIdle, client := .waitJoin }
  | .waitIdle => if q.state = .idle then some { q with client := .waitJoin } else none
  | .waitJoin => q.join .waitClear
  | .waitClear => some { q with state := .inactive, client := .free }

/-- A turn of `MainLoop`, which goes on while `ThreadLoop` returns true. -/
def threadLoop (q : ThreadHelper) (active : Bool) : Option ThreadHelper :=
  if q.worker = .looping then some { q with worker := if active then .looping else .leaving }
  else none

def mainLoopEnds (q : ThreadHelper) : Option ThreadHelper :=
  if q.worker = .leaving then some { q with state := .idle, worker := .ended } else none

def step (q : ThreadHelper) : Action → Option ThreadHelper
  | .run => q.begin .runCheck
  | .requestExit => q.begin .exitCheck
  | .requestExitAndWait => q.begin .waitCheck
  | .advance created => q.advance created
  | .threadLoop active => q.threadLoop active
  | .mainLoopEnds => q.mainLoopEnds

def lts : LTS ThreadHelper Action := .ofStep step

def exitPending (q : ThreadHelper) : Bool := q.state = .toIdle

/-- Between two calls: the state tells whether there is a thread, but not whether it still runs. -/
def Settled (q : ThreadHelper) : Prop :=
  (q.state = .inactive ↔ q.worker = .none) ∧ (q.state = .idle → q.worker = .ended)

/-- What each line of the three functions may rely on. -/
def AtLine (q : ThreadHelper) : Prop :=
  match q.client with
  | .free | .runCheck | .exitCheck | .waitCheck => q.Settled
  | .runWait | .waitIdle => q.worker ≠ .none ∧ q.state ≠ .inactive ∧ q.state ≠ .active ∧
      (q.state = .idle → q.worker = .ended)
  | .runJoin => q.state = .idle ∧ q.worker = .ended
  | .runClear | .waitClear => q.worker = .none
  | .runCreate => q.state = .inactive ∧ q.worker = .none
  | .runActive => q.worker ≠ .none
  | .exitRequest | .waitRequest => q.worker ≠ .none
  | .waitJoin => q.worker ≠ .none

structure Inv (q : ThreadHelper) : Prop where
  joinable : q.joinable = true ↔ q.worker ≠ .none
  line : q.AtLine

theorem inv_initial : Inv {} := ⟨by simp, by simp [AtLine, Settled]⟩

theorem begin_cases {c : Client} (hr : q.begin c = some r) :
    q.client = .free ∧ r = { q with client := c } := by
  unfold begin at hr
  split at hr
  · next hfree => exact ⟨hfree, (Option.some.inj hr).symm⟩
  · cases hr

theorem join_cases {c : Client} (hr : q.join c = some r) : q.joinable = true ∧ q.worker = .ended ∧
    r = { q with joinable := false, worker := .none, client := c } := by
  unfold join at hr
  split at hr
  · next hready => exact ⟨hready.1, hready.2, (Option.some.inj hr).symm⟩
  · cases hr

theorem inv_advance (hq : q.Inv) (hr : q.advance created = some r) : r.Inv := by
  obtain ⟨hjoin, hline⟩ := hq
  unfold advance at hr
  cases hc : q.client with
  | free => simp [hc] at hr
  | runCheck =>
    simp only [AtLine, hc, Settled] at hline
    cases hs : q.state <;> simp only [hc, hs, Option.some.injEq] at hr <;> subst hr <;>
      refine ⟨hjoin, ?_⟩ <;> simp_all [AtLine, Settled]
  | runWait =>
    simp only [AtLine, hc] at hline
    simp only [hc, Option.ite_none_right_eq_some, Option.some.injEq] at hr
    obtain ⟨hidle, rfl⟩ := hr
    exact ⟨hjoin, hidle, hline.2.2.2 hidle⟩
  | runJoin =>
    simp only [hc] at hr
    obtain ⟨-, -, rfl⟩ := join_cases hr
    exact ⟨by simp, rfl⟩
  | runClear =>
    simp only [hc, Option.some.injEq] at hr
    subst hr
    simp only [AtLine, hc] at hline
    exact ⟨hjoin, rfl, hline⟩
  | runCreate =>
    simp only [AtLine, hc] at hline
    simp only [hc] at hr
    split_ifs at hr
    · obtain rfl := Option.some.inj hr
      exact ⟨by simp, by simp [AtLine]⟩
    · obtain rfl := Option.some.inj hr
      exact ⟨hjoin, by simp [AtLine, Settled, hline]⟩
  | runActive =>
    simp only [hc, Option.some.injEq] at hr
    subst hr
    simp only [AtLine, hc] at hline
    exact ⟨hjoin, by simp [AtLine, Settled, hline]⟩
  | exitCheck =>
    simp only [AtLine, hc, Settled] at hline
    simp only [hc] at hr
    split_ifs at hr with hs
    · obtain rfl := Option.some.inj hr
      exact ⟨hjoin, by simp [AtLine, ← hline.1, hs]⟩
    · obtain rfl := Option.some.inj hr
      exact ⟨hjoin, hline⟩
  | exitRequest =>
    simp only [hc, Option.some.injEq] at hr
    subst hr
    simp only [AtLine, hc] at hline
    exact ⟨hjoin, by simp [AtLine, Settled, hline]⟩
  | waitCheck =>
    simp only [AtLine, hc, Settled] at hline
    cases hs : q.state <;> simp only [hc, hs, Option.some.injEq] at hr <;> subst hr <;>
      refine ⟨hjoin, ?_⟩ <;> simp_all [AtLine, Settled]
  | waitRequest =>
    simp only [hc, Option.some.injEq] at hr
    subst hr
    simp only [AtLine, hc] at hline
    exact ⟨hjoin, hline⟩
  | waitIdle =>
    simp only [AtLine, hc] at hline
    simp only [hc, Option.ite_none_right_eq_some, Option.some.injEq] at hr
    obtain ⟨-, rfl⟩ := hr
    exact ⟨hjoin, hline.1⟩
  | waitJoin =>
    simp only [hc] at hr
    obtain ⟨-, -, rfl⟩ := join_cases hr
    exact ⟨by simp, rfl⟩
  | waitClear =>
    simp only [hc, Option.some.injEq] at hr
    subst hr
    simp only [AtLine, hc] at hline
    exact ⟨hjoin, by simp [AtLine, Settled, hline]⟩

theorem threadLoop_cases {active : Bool} (hr : q.threadLoop active = some r) :
    q.worker = .looping ∧ r = { q with worker := if active then .looping else .leaving } := by
  unfold threadLoop at hr
  split at hr
  · next hloop => exact ⟨hloop, (Option.some.inj hr).symm⟩
  · cases hr

theorem mainLoopEnds_cases (hr : q.mainLoopEnds = some r) :
    q.worker = .leaving ∧ r = { q with state := .idle, worker := .ended } := by
  unfold mainLoopEnds at hr
  split at hr
  · next hleave => exact ⟨hleave, (Option.some.inj hr).symm⟩
  · cases hr

/-- A thread that runs disturbs no line. -/
theorem inv_threadLoop {active : Bool} (hq : q.Inv) (hr : q.threadLoop active = some r) :
    r.Inv := by
  obtain ⟨hloop, rfl⟩ := threadLoop_cases hr
  obtain ⟨hjoin, hline⟩ := hq
  have hnew : (if active then Worker.looping else .leaving) ≠ .none := by cases active <;> nofun
  refine ⟨by simpa [hloop, hnew] using hjoin, ?_⟩
  simp only [AtLine, Settled, hloop] at hline ⊢
  cases hc : q.client <;> simp_all

/-- Nor does its end, which it writes itself. -/
theorem inv_mainLoopEnds (hq : q.Inv) (hr : q.mainLoopEnds = some r) : r.Inv := by
  obtain ⟨hleave, rfl⟩ := mainLoopEnds_cases hr
  obtain ⟨hjoin, hline⟩ := hq
  refine ⟨by simpa [hleave] using hjoin, ?_⟩
  simp only [AtLine, Settled, hleave] at hline ⊢
  cases hc : q.client <;> simp_all

theorem inv_step : lts.TrInv Inv := by
  intro q a r hr hq
  have hr : q.step a = some r := hr
  cases a with
  | run | requestExit | requestExitAndWait =>
    obtain ⟨hfree, rfl⟩ := begin_cases hr
    have hline := hq.line
    simp only [AtLine, hfree] at hline
    exact ⟨hq.joinable, hline⟩
  | advance created => exact inv_advance hq hr
  | threadLoop active => exact inv_threadLoop hq hr
  | mainLoopEnds => exact inv_mainLoopEnds hq hr

/-- What no interleaving breaks. -/
structure Safe (q : ThreadHelper) : Prop where
  /-- No thread is created while one is not joined, which would end the process. -/
  create : q.client = .runCreate → q.joinable = false
  /-- A thread is joined once. -/
  join : q.client = .runJoin ∨ q.client = .waitJoin → q.joinable = true
  /-- A client that reads inactive leaves no thread behind. -/
  inactive : q.client = .free → (q.state = .inactive ↔ q.worker = .none)
  /-- The thread is gone when `RequestExitAndWait` returns. -/
  joined : q.client = .waitClear → q.worker = .none ∧ q.joinable = false

theorem Inv.safe (hq : q.Inv) : q.Safe := by
  obtain ⟨hjoin, hline⟩ := hq
  have hgone : q.worker = .none → q.joinable = false := by
    intro hnone
    simpa [hnone] using hjoin
  have hthere : q.worker ≠ .none → q.joinable = true := hjoin.mpr
  refine ⟨fun hc => ?_, fun hc => ?_, fun hc => ?_, fun hc => ?_⟩
  · simp only [AtLine, hc] at hline
    exact hgone hline.2
  · obtain hc | hc := hc <;> simp only [AtLine, hc] at hline
    · exact hthere (by simp [hline.2])
    · exact hthere hline
  · simp only [AtLine, hc, Settled] at hline
    exact hline.1
  · simp only [AtLine, hc] at hline
    exact ⟨hline, hgone hline⟩

/-- Whatever its thread and its clients do in between: one thread at most, created and joined in
turn. -/
theorem run_oneThread_safe (h : lts.MTr {} as q) : q.Safe := (LTS.inv_of_mTr inv_step h inv_initial).safe

/-- Some way for client and thread to go on brings the helper to rest. -/
def Stoppable (q : ThreadHelper) : Prop :=
  ∃ as r, LTS.run step q as = some r ∧ r.client = .free ∧ r.state = .inactive ∧ r.worker = .none

/-- The thread has ended, but the state says or is about to say that it has still to. -/
def Doomed (q : ThreadHelper) : Prop :=
  q.worker = .ended ∧ match q.client with
    | .exitRequest => True
    | .exitCheck => q.state = .active ∨ q.state = .toIdle
    | .free | .runCheck | .runWait | .waitCheck | .waitIdle => q.state = .toIdle
    | _ => False

/-- The thread does not end while `RequestExit` is between its look at the state and its write, and
`RequestExit` does not find a state that `Run` wrote over the end of the thread. -/
def Announced (q : ThreadHelper) : Action → Prop
  | .mainLoopEnds => q.client ≠ .exitRequest
  | .requestExit => ¬ (q.state = .active ∧ q.worker = .ended)
  | _ => True

theorem stoppable_of_step (hr : q.step a = some r) (h : r.Stoppable) : q.Stoppable := by
  obtain ⟨as, t, hrun, hrest⟩ := h
  exact ⟨a :: as, t, by simp [LTS.run, hr, hrun], hrest⟩

theorem stoppable_of_rest (hc : q.client = .free) (hs : q.state = .inactive)
    (hw : q.worker = .none) : q.Stoppable := ⟨[], q, rfl, hc, hs, hw⟩

/-- A thread that runs can end. -/
theorem stoppable_of_end (hw : q.worker = .looping ∨ q.worker = .leaving)
    (h : Stoppable { q with state := .idle, worker := .ended }) : q.Stoppable := by
  have hleave : ∀ p : ThreadHelper, p.worker = .leaving →
      Stoppable { p with state := .idle, worker := .ended } → p.Stoppable := by
    intro p hp hend
    exact stoppable_of_step (a := .mainLoopEnds) (by simp [step, mainLoopEnds, hp]) hend
  obtain hloop | hw := hw
  · exact stoppable_of_step (a := .threadLoop false) (by simp [step, threadLoop, hloop])
      (hleave { q with worker := .leaving } rfl h)
  · exact hleave q hw h

/-- A client at `thread_.join()` gets through. -/
theorem stoppable_waitJoin (hc : q.client = .waitJoin) (hj : q.joinable = true)
    (hw : q.worker ≠ .none) : q.Stoppable := by
  have hended : ∀ p : ThreadHelper, p.client = .waitJoin → p.joinable = true → p.worker = .ended →
      p.Stoppable := by
    intro p hpc hpj hpw
    refine stoppable_of_step (a := .advance true)
      (r := { p with joinable := false, worker := .none, client := .waitClear })
      (by simp [step, advance, join, hpc, hpj, hpw]) ?_
    exact stoppable_of_step (a := .advance true) (by simp [step, advance]; rfl)
      (stoppable_of_rest rfl rfl rfl)
  cases hworker : q.worker with
  | none => exact absurd hworker hw
  | ended => exact hended q hc hj hworker
  | looping | leaving =>
    exact stoppable_of_end (by simp [hworker]) (hended _ hc hj rfl)

/-- So does a client at `WaitState`, as long as the thread has still to announce its end. -/
theorem stoppable_waitIdle (hc : q.client = .waitIdle) (hj : q.joinable = true)
    (hw : q.worker ≠ .none) (hs : q.worker = .ended → q.state = .idle) : q.Stoppable := by
  have hidle : ∀ p : ThreadHelper, p.client = .waitIdle → p.joinable = true → p.worker = .ended →
      p.state = .idle → p.Stoppable := by
    intro p hpc hpj hpw hps
    refine stoppable_of_step (a := .advance true) (r := { p with client := .waitJoin })
      (by simp [step, advance, hpc, hps]) ?_
    exact stoppable_waitJoin rfl hpj (by simp [hpw])
  cases hworker : q.worker with
  | none => exact absurd hworker hw
  | ended => exact hidle q hc hj hworker (hs hworker)
  | looping | leaving =>
    exact stoppable_of_end (by simp [hworker]) (hidle _ hc hj rfl rfl)

/-- Between two calls, `RequestExitAndWait` stops the thread. -/
theorem stoppable_free (hq : q.Inv) (hc : q.client = .free)
    (hs : q.state = .toIdle → q.worker ≠ .ended) : q.Stoppable := by
  have hline := hq.line
  simp only [AtLine, hc, Settled] at hline
  obtain ⟨hinactive, hended⟩ := hline
  have hthere : q.state ≠ .inactive → q.worker ≠ .none := fun hne => hinactive.not.mp hne
  refine stoppable_of_step (a := .requestExitAndWait) (r := { q with client := .waitCheck })
    (by simp [step, begin, hc]) ?_
  cases hstate : q.state with
  | active =>
    refine stoppable_of_step (a := .advance true) (r := { q with client := .waitRequest })
      (by simp [step, advance, hstate]) ?_
    refine stoppable_of_step (a := .advance true)
      (r := { q with state := .toIdle, client := .waitJoin }) (by simp [step, advance]) ?_
    have hw := hthere (by simp [hstate])
    exact stoppable_waitJoin rfl (hq.joinable.mpr hw) hw
  | toIdle =>
    refine stoppable_of_step (a := .advance true) (r := { q with client := .waitIdle })
      (by simp [step, advance, hstate]) ?_
    have hw := hthere (by simp [hstate])
    exact stoppable_waitIdle rfl (hq.joinable.mpr hw) hw fun hend => absurd hend (hs hstate)
  | idle =>
    refine stoppable_of_step (a := .advance true) (r := { q with client := .waitJoin })
      (by simp [step, advance, hstate]) ?_
    have hw := hthere (by simp [hstate])
    exact stoppable_waitJoin rfl (hq.joinable.mpr hw) hw
  | inactive =>
    refine stoppable_of_step (a := .advance true) (r := { q with client := .free })
      (by simp [step, advance, hstate]) ?_
    exact stoppable_of_rest rfl hstate (hinactive.mp hstate)

/-- `Run` may find no thread to create. -/
theorem stoppable_runCreate (hc : q.client = .runCreate) (hs : q.state = .inactive)
    (hj : q.joinable = false) (hw : q.worker = .none) : q.Stoppable :=
  stoppable_of_step (a := .advance false) (r := { q with client := .free })
    (by simp [step, advance, hc, hj]) (stoppable_of_rest rfl hs hw)

theorem stoppable_runJoin (hc : q.client = .runJoin) (hj : q.joinable = true)
    (hw : q.worker = .ended) : q.Stoppable := by
  refine stoppable_of_step (a := .advance true)
    (r := { q with joinable := false, worker := .none, client := .runClear })
    (by simp [step, advance, join, hc, hj, hw]) ?_
  refine stoppable_of_step (a := .advance true) (r := { q with
    state := .inactive, joinable := false, worker := .none, client := .runCreate })
    (by simp [step, advance]) ?_
  exact stoppable_runCreate rfl rfl rfl rfl

theorem stoppable_runWait (hc : q.client = .runWait) (hj : q.joinable = true)
    (hw : q.worker ≠ .none) (hs : q.worker = .ended → q.state = .idle) : q.Stoppable := by
  have hidle : ∀ p : ThreadHelper, p.client = .runWait → p.joinable = true → p.worker = .ended →
      p.state = .idle → p.Stoppable := by
    intro p hpc hpj hpw hps
    refine stoppable_of_step (a := .advance true) (r := { p with client := .runJoin })
      (by simp [step, advance, hpc, hps]) ?_
    exact stoppable_runJoin rfl hpj hpw
  cases hworker : q.worker with
  | none => exact absurd hworker hw
  | ended => exact hidle q hc hj hworker (hs hworker)
  | looping | leaving =>
    exact stoppable_of_end (by simp [hworker]) (hidle _ hc hj rfl rfl)

/-- A call in progress that leads back to the rest between two calls. -/
theorem stoppable_of_advance (hq : q.Inv) (hr : q.advance true = some r) (hfree : r.client = .free)
    (hs : r.state = .toIdle → r.worker ≠ .ended) : q.Stoppable :=
  stoppable_of_step (a := .advance true) hr (stoppable_free (inv_advance hq hr) hfree hs)

theorem stoppable_of_not_doomed (hq : q.Inv) (hd : ¬ q.Doomed) : q.Stoppable := by
  have hline := hq.line
  have hthere : q.worker ≠ .none → q.joinable = true := hq.joinable.mpr
  cases hc : q.client with
  | free =>
    refine stoppable_free hq hc fun hs hw => hd ⟨hw, ?_⟩
    simp only [hc, hs]
  | runCheck =>
    simp only [AtLine, hc, Settled] at hline
    cases hs : q.state with
    | active =>
      refine stoppable_of_advance hq (r := { q with client := .free })
        (by simp [advance, hc, hs]) rfl fun h => ?_
      simp [hs] at h
    | toIdle =>
      have hw : q.worker ≠ .none := hline.1.not.mp (by simp [hs])
      refine stoppable_of_step (a := .advance true) (r := { q with client := .runWait })
        (by simp [step, advance, hc, hs]) (stoppable_runWait rfl (hthere hw) hw fun hend => ?_)
      exact absurd ⟨hend, by simp only [hc, hs]⟩ hd
    | idle =>
      refine stoppable_of_step (a := .advance true) (r := { q with client := .runJoin })
        (by simp [step, advance, hc, hs]) (stoppable_runJoin rfl ?_ (hline.2 hs))
      exact hthere (by simp [hline.2 hs])
    | inactive =>
      have hw := hline.1.mp hs
      refine stoppable_of_step (a := .advance true) (r := { q with client := .runCreate })
        (by simp [step, advance, hc, hs]) (stoppable_runCreate rfl hs ?_ hw)
      simpa [hw] using hq.joinable
  | runWait =>
    simp only [AtLine, hc] at hline
    refine stoppable_runWait hc (hthere hline.1) hline.1 fun hend => ?_
    have hne : q.state ≠ .toIdle := fun hs => hd ⟨hend, by simp only [hc, hs]⟩
    cases hs : q.state <;> simp_all
  | runJoin =>
    simp only [AtLine, hc] at hline
    exact stoppable_runJoin hc (hthere (by simp [hline.2])) hline.2
  | runClear =>
    simp only [AtLine, hc] at hline
    refine stoppable_of_step (a := .advance true)
      (r := { q with state := .inactive, client := .runCreate }) (by simp [step, advance, hc])
      (stoppable_runCreate rfl rfl ?_ hline)
    simpa [hline] using hq.joinable
  | runCreate =>
    simp only [AtLine, hc] at hline
    refine stoppable_runCreate hc hline.1 ?_ hline.2
    simpa [hline.2] using hq.joinable
  | runActive =>
    exact stoppable_of_advance hq (r := { q with state := .active, client := .free })
      (by simp [advance, hc]) rfl nofun
  | exitCheck =>
    by_cases hs : q.state = .active
    · have hw : q.worker ≠ .ended := fun hw => hd ⟨hw, by simp only [hc]; exact .inl hs⟩
      have hr : q.advance true = some { q with client := .exitRequest } := by
        simp [advance, hc, hs]
      exact stoppable_of_step (a := .advance true) hr (stoppable_of_advance (inv_advance hq hr)
        (r := { q with state := .toIdle, client := .free }) (by simp [advance]) rfl fun _ => hw)
    · refine stoppable_of_advance hq (r := { q with client := .free })
        (by simp [advance, hc, hs]) rfl fun hs' hw => hd ⟨hw, ?_⟩
      simp only [hc]
      exact .inr hs'
  | exitRequest =>
    refine stoppable_of_advance hq (r := { q with state := .toIdle, client := .free })
      (by simp [advance, hc]) rfl fun _ hw => hd ⟨hw, ?_⟩
    simp only [hc]
  | waitCheck =>
    simp only [AtLine, hc, Settled] at hline
    cases hs : q.state with
    | active =>
      have hw : q.worker ≠ .none := hline.1.not.mp (by simp [hs])
      refine stoppable_of_step (a := .advance true) (r := { q with client := .waitRequest })
        (by simp [step, advance, hc, hs]) ?_
      refine stoppable_of_step (a := .advance true)
        (r := { q with state := .toIdle, client := .waitJoin }) (by simp [step, advance]) ?_
      exact stoppable_waitJoin rfl (hthere hw) hw
    | toIdle =>
      have hw : q.worker ≠ .none := hline.1.not.mp (by simp [hs])
      refine stoppable_of_step (a := .advance true) (r := { q with client := .waitIdle })
        (by simp [step, advance, hc, hs]) (stoppable_waitIdle rfl (hthere hw) hw fun hend => ?_)
      exact absurd ⟨hend, by simp only [hc, hs]⟩ hd
    | idle =>
      have hw : q.worker ≠ .none := by simp [hline.2 hs]
      exact stoppable_of_step (a := .advance true) (r := { q with client := .waitJoin })
        (by simp [step, advance, hc, hs]) (stoppable_waitJoin rfl (hthere hw) hw)
    | inactive =>
      exact stoppable_of_step (a := .advance true) (r := { q with client := .free })
        (by simp [step, advance, hc, hs]) (stoppable_of_rest rfl hs (hline.1.mp hs))
  | waitRequest =>
    simp only [AtLine, hc] at hline
    exact stoppable_of_step (a := .advance true)
      (r := { q with state := .toIdle, client := .waitJoin }) (by simp [step, advance, hc])
      (stoppable_waitJoin rfl (hthere hline) hline)
  | waitIdle =>
    simp only [AtLine, hc] at hline
    refine stoppable_waitIdle hc (hthere hline.1) hline.1 fun hend => ?_
    have hne : q.state ≠ .toIdle := fun hs => hd ⟨hend, by simp only [hc, hs]⟩
    cases hs : q.state <;> simp_all
  | waitJoin =>
    simp only [AtLine, hc] at hline
    exact stoppable_waitJoin hc (hthere hline) hline
  | waitClear =>
    simp only [AtLine, hc] at hline
    exact stoppable_of_step (a := .advance true)
      (r := { q with state := .inactive, client := .free }) (by simp [step, advance, hc])
      (stoppable_of_rest rfl rfl hline)

/-- Nobody writes the state of a thread that has ended but `Run` and `RequestExitAndWait` after the
join they wait for. -/
theorem doomed_step : lts.TrInv Doomed := by
  intro q a r hr hd
  have hr : q.step a = some r := hr
  obtain ⟨hw, hc⟩ := hd
  cases a with
  | run | requestExit | requestExitAndWait =>
    obtain ⟨hfree, rfl⟩ := begin_cases hr
    simp only [hfree] at hc
    exact ⟨hw, by simp [hc]⟩
  | threadLoop active =>
    obtain ⟨hloop, -⟩ := threadLoop_cases hr
    simp [hw] at hloop
  | mainLoopEnds =>
    obtain ⟨hleave, -⟩ := mainLoopEnds_cases hr
    simp [hw] at hleave
  | advance created =>
    have hr : q.advance created = some r := hr
    unfold advance at hr
    cases hclient : q.client <;> simp only [hclient] at hc hr <;> try exact hc.elim
    · cases hr
    · obtain rfl := Option.some.inj (by simpa [hc] using hr)
      exact ⟨hw, rfl⟩
    · simp [hc] at hr
    · obtain hs | hs := hc <;> simp only [hs, if_true, reduceCtorEq, if_false] at hr <;>
        obtain rfl := Option.some.inj hr
      · exact ⟨hw, trivial⟩
      · exact ⟨hw, rfl⟩
    · obtain rfl := Option.some.inj hr
      exact ⟨hw, rfl⟩
    · obtain rfl := Option.some.inj (by simpa [hc] using hr)
      exact ⟨hw, rfl⟩
    · simp [hc] at hr

/-- A doomed helper stays so, and `RequestExitAndWait` waits for ever. -/
theorem Doomed.not_stoppable (hd : q.Doomed) : ¬ q.Stoppable := by
  rintro ⟨as, r, hrun, -, -, hw⟩
  have hr := (LTS.inv_of_mTr doomed_step (LTS.mTr_ofStep_iff.mpr hrun) hd).1
  rw [hw] at hr
  cases hr

theorem not_doomed_advance (hq : q.Inv) (hr : q.advance created = some r) (hd : ¬ q.Doomed) :
    ¬ r.Doomed := by
  rintro ⟨hw, hs⟩
  have hline := hq.line
  unfold advance at hr
  cases hc : q.client <;> simp only [AtLine, hc] at hr hline
  case free => cases hr
  case runJoin | waitJoin =>
    obtain ⟨-, -, rfl⟩ := join_cases hr
    cases hw
  case runCheck | waitCheck =>
    cases hstate : q.state <;> simp only [hstate] at hr <;> obtain rfl := Option.some.inj hr
    case toIdle => exact hd ⟨hw, by simp only [hc, hstate]⟩
    all_goals simp at hs
  case runWait | waitIdle =>
    obtain ⟨-, rfl⟩ := (by simpa using hr : _ ∧ _ = r)
    exact hs
  case runCreate =>
    split_ifs at hr <;> obtain rfl := Option.some.inj hr
    · cases hw
    · simp [hline.2] at hw
  case exitCheck =>
    split_ifs at hr with hstate <;> obtain rfl := Option.some.inj hr
    · refine hd ⟨hw, ?_⟩
      simp only [hc]
      exact .inl hstate
    · refine hd ⟨hw, ?_⟩
      simp only [hc]
      exact .inr hs
  case exitRequest =>
    obtain rfl := Option.some.inj hr
    refine hd ⟨hw, ?_⟩
    simp only [hc]
  all_goals
    obtain rfl := Option.some.inj hr
    simp at hs

/-- A step that is announced does not doom the helper. -/
theorem not_doomed_of_announced (hq : q.Inv) (hr : q.step a = some r) (hd : ¬ q.Doomed)
    (ha : q.Announced a) : ¬ r.Doomed := by
  cases a with
  | run | requestExitAndWait =>
    obtain ⟨hfree, rfl⟩ := begin_cases hr
    rintro ⟨hw, hs⟩
    exact hd ⟨hw, by simpa [hfree] using hs⟩
  | requestExit =>
    obtain ⟨hfree, rfl⟩ := begin_cases hr
    rintro ⟨hw, hs | hs⟩
    · exact ha ⟨hs, hw⟩
    · exact hd ⟨hw, by simpa [hfree] using hs⟩
  | threadLoop active =>
    obtain ⟨-, rfl⟩ := threadLoop_cases hr
    rintro ⟨hw, -⟩
    cases active <;> cases hw
  | mainLoopEnds =>
    obtain ⟨-, rfl⟩ := mainLoopEnds_cases hr
    rintro ⟨-, hs⟩
    cases hc : q.client <;> simp [hc] at hs
    exact ha hc
  | advance created => exact not_doomed_advance hq hr hd

/-- Whatever comes next, the state between two calls says that the thread has still to end, and every
`Run` and `RequestExitAndWait` comes to its wait, where nobody has a step any more. -/
structure Hangs (q : ThreadHelper) : Prop where
  toIdle : ∀ as r, LTS.run step q as = some r → r.client = .free → r.state = .toIdle
  enter : ∀ as r, LTS.run step q as = some r → r.client = .runCheck ∨ r.client = .waitCheck →
    ∀ a t, r.step a = some t → t.client = .runWait ∨ t.client = .waitIdle
  stuck : ∀ as r, LTS.run step q as = some r → r.client = .runWait ∨ r.client = .waitIdle →
    ∀ a, r.step a = none

theorem threadLoop_of_ended {active : Bool} (hw : q.worker = .ended) : q.threadLoop active = none := by
  simp [threadLoop, hw]

theorem mainLoopEnds_of_ended (hw : q.worker = .ended) : q.mainLoopEnds = none := by
  simp [mainLoopEnds, hw]

/-- While a client has `lock_`, only it and the thread have steps. -/
theorem begin_of_busy {c : Client} (hc : q.client ≠ .free) : q.begin c = none := if_neg hc

theorem Doomed.hangs (hd : q.Doomed) : q.Hangs := by
  have hall : ∀ as r, LTS.run step q as = some r → r.Doomed := fun as r hrun =>
    LTS.inv_of_mTr doomed_step (LTS.mTr_ofStep_iff.mpr hrun) hd
  refine ⟨fun as r hrun hc => ?_, fun as r hrun hc a t ht => ?_, fun as r hrun hc a => ?_⟩
  · simpa only [hc] using (hall as r hrun).2
  · obtain ⟨hw, hs⟩ := hall as r hrun
    have hbusy : r.client ≠ .free := by rcases hc with hc | hc <;> simp [hc]
    have hs : r.state = .toIdle := by rcases hc with hc | hc <;> simpa only [hc] using hs
    cases a with
    | run | requestExit | requestExitAndWait => simp [step, begin_of_busy hbusy] at ht
    | threadLoop active => simp [step, threadLoop_of_ended hw] at ht
    | mainLoopEnds => simp [step, mainLoopEnds_of_ended hw] at ht
    | advance created =>
      rcases hc with hc | hc <;> simp only [step, advance, hc, hs, Option.some.injEq] at ht <;>
        simp [← ht]
  · obtain ⟨hw, hs⟩ := hall as r hrun
    have hbusy : r.client ≠ .free := by rcases hc with hc | hc <;> simp [hc]
    have hs : r.state = .toIdle := by rcases hc with hc | hc <;> simpa only [hc] using hs
    cases a with
    | run | requestExit | requestExitAndWait => exact begin_of_busy hbusy
    | threadLoop active => exact threadLoop_of_ended hw
    | mainLoopEnds => exact mainLoopEnds_of_ended hw
    | advance created => rcases hc with hc | hc <;> simp [step, advance, hc, hs]

/-- The thread can be stopped at every moment of a run if and only if it always announces its end
before `RequestExit` counts on it; otherwise the calls that come after the run wait for ever. -/
theorem run_stoppable_iff_announced (hrun : LTS.run step {} as = some q) :
    ((∀ bs cs r, as = bs ++ cs → LTS.run step {} bs = some r → r.Stoppable) ↔
      LTS.Meets step Announced {} as) ∧ (¬ LTS.Meets step Announced {} as → q.Hangs) := by
  have hiff : (∀ bs cs r, as = bs ++ cs → LTS.run step {} bs = some r → r.Stoppable) ↔
      LTS.Meets step Announced {} as := by
    refine LTS.forall_prefix_iff_meets_of (P := fun q => q.Inv ∧ ¬ q.Doomed)
      (fun q hq => stoppable_of_not_doomed hq.1 hq.2) (fun q a r hq hr ha => ?_)
      (fun q a r hq hr hstop => ?_) ⟨inv_initial, fun hd => by cases hd.1⟩ hrun
    · exact ⟨inv_step q a r hr hq.1, not_doomed_of_announced hq.1 hr hq.2 ha⟩
    · have hd : ¬ r.Doomed := fun hd => hd.not_stoppable hstop
      cases a with
      | run | requestExitAndWait | advance created | threadLoop active => exact trivial
      | mainLoopEnds =>
        obtain ⟨-, rfl⟩ := mainLoopEnds_cases hr
        intro hc
        refine hd ⟨rfl, ?_⟩
        simp only [hc]
      | requestExit =>
        obtain ⟨-, rfl⟩ := begin_cases hr
        exact fun hs => hd ⟨hs.2, .inl hs.1⟩
  refine ⟨hiff, fun hlost => ?_⟩
  rw [← hiff] at hlost
  push Not at hlost
  obtain ⟨bs, cs, r, rfl, hbs, hstop⟩ := hlost
  have hinv : r.Inv := LTS.inv_of_mTr inv_step (LTS.mTr_ofStep_iff.mpr hbs) inv_initial
  have hd : r.Doomed := by
    by_contra hd
    exact hstop (stoppable_of_not_doomed hinv hd)
  have hcs : LTS.run step r cs = some q := by simpa [LTS.run_append, hbs] using hrun
  exact (LTS.inv_of_mTr doomed_step (LTS.mTr_ofStep_iff.mpr hcs) hd).hangs

instance (q : ThreadHelper) : (a : Action) → Decidable (q.Announced a)
  | .mainLoopEnds => inferInstanceAs (Decidable (_ ≠ _))
  | .requestExit => inferInstanceAs (Decidable (¬ (_ ∧ _)))
  | .run | .requestExitAndWait | .advance _ | .threadLoop _ => .isTrue trivial

/-- The loop ends by itself while `RequestExit` is about to write. -/
def lostEnd : List Action :=
  [.run, .advance true, .advance true, .advance true, .requestExit, .advance true,
    .threadLoop false, .mainLoopEnds, .advance true]

theorem run_stoppable_iff_announced_lostEnd : ∃ q, LTS.run step {} lostEnd = some q ∧
    ((∀ bs cs r, lostEnd = bs ++ cs → LTS.run step {} bs = some r → r.Stoppable) ↔
      LTS.Meets step Announced {} lostEnd) ∧ ¬ LTS.Meets step Announced {} lostEnd ∧ q.Hangs :=
  have hrun : LTS.run step {} lostEnd =
      some { state := .toIdle, joinable := true, worker := .ended } := by decide
  have hlost : ¬ LTS.Meets step Announced {} lostEnd := by decide
  ⟨_, hrun, (run_stoppable_iff_announced hrun).1, hlost, (run_stoppable_iff_announced hrun).2 hlost⟩

theorem run_oneThread_safe_lostEnd : ∃ q, lts.MTr {} lostEnd q ∧ q.Safe :=
  have hrun : LTS.run step {} lostEnd =
      some { state := .toIdle, joinable := true, worker := .ended } := by decide
  ⟨_, LTS.mTr_ofStep_iff.mpr hrun, run_oneThread_safe (LTS.mTr_ofStep_iff.mpr hrun)⟩

/-- A loop that ends only after it saw that its exit is pending. -/
def Obedient (q : ThreadHelper) : Action → Prop
  | .threadLoop false => q.exitPending = true
  | _ => True

/-- The thread of an obedient loop runs until the state was written. -/
structure Heard (q : ThreadHelper) : Prop where
  inv : q.Inv
  leaving : q.worker = .leaving → q.state = .toIdle
  ended : q.worker = .ended → q.state = .idle
  active : q.state = .active → q.worker = .looping
  started : q.client = .runActive → q.worker = .looping ∧ q.state = .inactive
  request : q.client = .exitRequest ∨ q.client = .waitRequest →
    q.worker = .looping ∧ q.state = .active
  asked : q.client = .waitJoin → q.worker = .looping → q.state = .toIdle

theorem heard_initial : Heard {} := ⟨inv_initial, nofun, nofun, nofun, nofun, nofun, nofun⟩

theorem heard_advance (hq : q.Heard) (hr : q.advance created = some r) : r.Heard := by
  have hinv := inv_advance hq.inv hr
  obtain ⟨⟨-, hline⟩, hleaving, hended, hactive, hstarted, hrequest, -⟩ := hq
  unfold advance at hr
  cases hc : q.client <;> simp only [AtLine, hc] at hr hline hstarted hrequest
  case free => cases hr
  case runJoin | waitJoin =>
    obtain ⟨-, hend, rfl⟩ := join_cases hr
    refine ⟨hinv, nofun, nofun, fun hs => ?_, nofun, nofun, nofun⟩
    exact absurd ((hactive hs).symm.trans hend) nofun
  case runCheck | waitCheck | exitCheck =>
    cases hstate : q.state <;> simp only [hstate, if_true, reduceCtorEq, if_false] at hr <;>
      obtain rfl := Option.some.inj hr <;> refine ⟨hinv, ?_, ?_, ?_, ?_, ?_, ?_⟩ <;>
      simp_all [Settled]
  case runWait =>
    obtain ⟨-, rfl⟩ := (by simpa using hr : _ ∧ _ = r)
    exact ⟨hinv, hleaving, hended, hactive, nofun, nofun, nofun⟩
  case waitIdle =>
    obtain ⟨hidle, rfl⟩ := (by simpa using hr : _ ∧ _ = r)
    refine ⟨hinv, hleaving, hended, hactive, nofun, nofun, fun _ hloop => ?_⟩
    exact absurd (hloop.symm.trans (hline.2.2.2 hidle)) nofun
  case runCreate =>
    split_ifs at hr <;> obtain rfl := Option.some.inj hr <;>
      refine ⟨hinv, ?_, ?_, ?_, ?_, ?_, ?_⟩ <;> simp_all
  all_goals
    obtain rfl := Option.some.inj hr
    refine ⟨hinv, ?_, ?_, ?_, ?_, ?_, ?_⟩ <;> simp_all

theorem heard_step : (lts.guarded Obedient).TrInv Heard := by
  rintro q a r ⟨hr, ha⟩ hq
  have hr : q.step a = some r := hr
  cases a with
  | run | requestExit | requestExitAndWait =>
    have hinv := inv_step q _ r hr hq.inv
    obtain ⟨-, rfl⟩ := begin_cases hr
    exact ⟨hinv, hq.leaving, hq.ended, hq.active, nofun, nofun, nofun⟩
  | advance created => exact heard_advance hq hr
  | threadLoop active =>
    have hinv := inv_threadLoop hq.inv hr
    obtain ⟨hloop, rfl⟩ := threadLoop_cases hr
    cases active with
    | true =>
      refine ⟨hinv, nofun, nofun, fun _ => rfl, fun hc => ⟨rfl, (hq.started hc).2⟩,
        fun hc => ⟨rfl, (hq.request hc).2⟩, fun hc _ => hq.asked hc hloop⟩
    | false =>
      have hpending : q.state = .toIdle := by simpa [Obedient, exitPending] using ha
      refine ⟨hinv, fun _ => hpending, nofun, fun hs => ?_, fun hc => ?_, fun hc => ?_, nofun⟩
      · simp [hpending] at hs
      · simp [(hq.started hc).2] at hpending
      · simp [(hq.request hc).2] at hpending
  | mainLoopEnds =>
    have hinv := inv_mainLoopEnds hq.inv hr
    obtain ⟨hleave, rfl⟩ := mainLoopEnds_cases hr
    refine ⟨hinv, nofun, fun _ => rfl, nofun, fun hc => ?_, fun hc => ?_, nofun⟩
    · simp [(hq.started hc).1] at hleave
    · simp [(hq.request hc).1] at hleave

/-- The steps that a call may still take with its thread, turns that return true apart. -/
def remaining (q : ThreadHelper) : Nat :=
  (match q.client with
    | .free => 0
    | .runActive | .exitRequest | .waitClear => 1
    | .exitCheck | .waitJoin => 2
    | .waitIdle | .waitRequest => 3
    | .waitCheck | .runCreate => 4
    | .runClear => 5
    | .runJoin => 6
    | .runWait => 7
    | .runCheck => 8) +
  match q.worker with
    | .looping => 2
    | .leaving => 1
    | .none | .ended => 0

theorem remaining_le (q : ThreadHelper) : q.remaining ≤ 10 := by
  unfold remaining
  cases q.client <;> cases q.worker <;> decide

theorem remaining_advance (hr : q.advance created = some r) : r.remaining < q.remaining := by
  unfold advance at hr
  cases hc : q.client <;> simp only [hc] at hr
  case free => cases hr
  case runJoin | waitJoin =>
    obtain ⟨-, hend, rfl⟩ := join_cases hr
    simp [remaining, hc, hend]
  case runCheck | waitCheck =>
    cases hstate : q.state <;> simp only [hstate] at hr <;> obtain rfl := Option.some.inj hr <;>
      simp [remaining, hc]
  case runWait | waitIdle =>
    obtain ⟨-, rfl⟩ := (by simpa using hr : _ ∧ _ = r)
    simp [remaining, hc]
  case exitCheck =>
    split_ifs at hr <;> obtain rfl := Option.some.inj hr <;> simp [remaining, hc]
  case runCreate =>
    split_ifs at hr <;> obtain rfl := Option.some.inj hr <;> simp only [remaining, hc] <;> omega
  all_goals
    obtain rfl := Option.some.inj hr
    simp [remaining, hc]

/-- A call of a client. -/
def Action.isCall : Action → Bool
  | .run | .requestExit | .requestExitAndWait => true
  | .advance _ | .threadLoop _ | .mainLoopEnds => false

/-- A turn of the loop that is not the last one. -/
def Action.goesOn : Action → Bool
  | .threadLoop true => true
  | _ => false

theorem remaining_step (hr : q.step a = some r) (ha : a.isCall = false) :
    r.remaining + (if a.goesOn then 0 else 1) ≤ q.remaining := by
  cases a with
  | run | requestExit | requestExitAndWait => cases ha
  | advance created =>
    exact remaining_advance hr
  | threadLoop active =>
    obtain ⟨hloop, rfl⟩ := threadLoop_cases hr
    cases active <;> simp [remaining, hloop, Action.goesOn]
  | mainLoopEnds =>
    obtain ⟨hleave, rfl⟩ := mainLoopEnds_cases hr
    simp [remaining, hleave, Action.goesOn]

/-- Until the next call begins, the thread and the client take ten steps at most, turns that return
true apart. -/
theorem count_steps_le {bs : List Action} (hrun : LTS.run step q bs = some r)
    (hbs : ∀ b ∈ bs, b.isCall = false) : r.remaining + bs.countP (!·.goesOn) ≤ q.remaining := by
  induction bs generalizing q with
  | nil =>
    obtain rfl := Option.some.inj hrun
    simp
  | cons b bs ih =>
    obtain ⟨t, ht, hrest⟩ := Option.bind_eq_some_iff.mp hrun
    have hstep := remaining_step ht (hbs b List.mem_cons_self)
    have hle := ih hrest fun c hc => hbs c (List.mem_cons_of_mem _ hc)
    rw [List.countP_cons]
    cases hb : b.goesOn <;> simp only [hb, Bool.false_eq_true, Bool.not_true, Bool.not_false, if_true,
      if_false] at hstep ⊢ <;> omega

/-- A call that has not returned has a step, or its thread has been asked to end and has still to. -/
theorem Heard.advances (hq : q.Heard) (hc : q.client ≠ .free) :
    (∀ created, (q.advance created).isSome) ∨ q.worker = .leaving ∨
      q.worker = .looping ∧ q.exitPending = true := by
  have hline := hq.inv.line
  have hjoin := hq.inv.joinable
  have hended : q.worker = .ended → q.joinable = true := fun hw => hjoin.mpr (by simp [hw])
  cases hclient : q.client <;> simp only [AtLine, hclient] at hline
  case free => exact absurd hclient hc
  case runWait | waitIdle =>
    obtain ⟨hthere, hinactive, hactive, hidle⟩ := hline
    cases hw : q.worker with
    | none => exact absurd hw hthere
    | leaving => exact .inr (.inl rfl)
    | ended => exact .inl fun created => by simp [advance, hclient, hq.ended hw]
    | looping =>
      refine .inr (.inr ⟨rfl, ?_⟩)
      have hne : q.state ≠ .idle := fun hs => nomatch hw.symm.trans (hidle hs)
      cases hs : q.state <;> simp_all [exitPending]
  case runJoin => exact .inl fun created => by simp [advance, hclient, join, hended hline.2, hline.2]
  case waitJoin =>
    cases hw : q.worker with
    | none => exact absurd hw hline
    | leaving => exact .inr (.inl rfl)
    | ended => exact .inl fun created => by simp [advance, hclient, join, hended hw, hw]
    | looping => exact .inr (.inr ⟨rfl, by simp [exitPending, hq.asked hclient hw]⟩)
  case runCreate =>
    have hnot : q.joinable = false := by simpa [hline.2] using hjoin
    exact .inl fun created => by cases created <;> simp [advance, hclient, hnot]
  case runCheck | waitCheck =>
    exact .inl fun created => by cases hs : q.state <;> simp [advance, hclient, hs]
  case exitCheck => exact .inl fun created => by simp only [advance, hclient]; split <;> rfl
  all_goals exact .inl fun created => by simp [advance, hclient]

/-- With a loop that ends only for a pending exit no call waits but for a turn of a loop that can see
it, and each is over after ten steps and the turns that return true. -/
theorem run_advances_of_obedient (h : (lts.guarded Obedient).MTr {} as q) :
    (q.client ≠ .free → (∀ created, (q.advance created).isSome) ∨ q.worker = .leaving ∨
      q.worker = .looping ∧ q.exitPending = true) ∧
    ∀ bs r, LTS.run step q bs = some r → (∀ b ∈ bs, b.isCall = false) →
      bs.countP (!·.goesOn) ≤ 10 := by
  have hheard := LTS.inv_of_mTr heard_step h heard_initial
  refine ⟨hheard.advances, fun bs r hrun hbs => ?_⟩
  have hle := count_steps_le hrun hbs
  have := q.remaining_le
  omega

instance (q : ThreadHelper) : (a : Action) → Decidable (q.Obedient a)
  | .threadLoop false => inferInstanceAs (Decidable (_ = _))
  | .threadLoop true | .mainLoopEnds | .requestExit | .run | .requestExitAndWait | .advance _ =>
    .isTrue trivial

/-- The thread makes two more turns before it sees that its exit is pending. -/
def slowExit : List Action :=
  [.advance true, .threadLoop true, .threadLoop true, .threadLoop false, .mainLoopEnds, .advance true,
    .advance true, .advance true]

theorem run_advances_of_obedient_slowExit :
    ∃ q, (lts.guarded Obedient).MTr {} (lostEnd.take 6 ++ [.advance true, .requestExitAndWait]) q ∧
      LTS.run step q slowExit = some {} ∧
      (q.client ≠ .free → (∀ created, (q.advance created).isSome) ∨ q.worker = .leaving ∨
        q.worker = .looping ∧ q.exitPending = true) ∧
      slowExit.countP (!·.goesOn) ≤ 10 := by
  have hrun : LTS.run step {} (lostEnd.take 6 ++ [.advance true, .requestExitAndWait]) =
      some { state := .toIdle, joinable := true, worker := .looping, client := .waitCheck } := by decide
  have hmtr := LTS.mTr_guarded_iff.mpr ⟨hrun, (by decide : LTS.Meets step Obedient {} _)⟩
  have hslow : LTS.run step (⟨.toIdle, true, .looping, .waitCheck⟩ : ThreadHelper) slowExit =
      some {} := by decide
  obtain ⟨hwaits, hbound⟩ := run_advances_of_obedient hmtr
  exact ⟨_, hmtr, hslow, hwaits, hbound _ _ hslow (by decide)⟩

end ThreadHelper

end QmmfSdk.Common
