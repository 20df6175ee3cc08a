import QmmfSdk.Camera3.PrepareHandler

/-! The prepare handler completes what it accepts, as long as its thread does not find a stale
`abort_prepare_`. -/
namespace QmmfSdk.Camera3.PrepareHandler

open Library
open Pipeline (IBufferHandle)
open Camera3Stream (Grows Counted)

section Tables

variable {t : Nat → Camera3Stream} {st : Camera3Stream} {id : Nat} {l l' ids : List Nat}

/-- The streams in preparation are those of a list, each in it once. -/
structure Lists (t : Nat → Camera3Stream) (l : List Nat) : Prop where
  nodup : l.Nodup
  mem_iff : ∀ id, (t id).status = .prepareActive ↔ id ∈ l

theorem Lists.perm (h : Lists t l) (hperm : l.Perm l') : Lists t l' :=
  ⟨hperm.nodup_iff.mp h.nodup, fun id => (h.mem_iff id).trans hperm.mem_iff⟩

theorem Lists.begin (h : Lists t l) (hid : (t id).status ≠ .prepareActive)
    (hst : st.status = .prepareActive) : Lists (Function.update t id st) (id :: l) := by
  refine ⟨List.nodup_cons.mpr ⟨mt (h.mem_iff id).mpr hid, h.nodup⟩, fun x => ?_⟩
  rcases eq_or_ne x id with rfl | hx
  · simp [hst]
  · simpa [Function.update_of_ne hx, hx] using h.mem_iff x

theorem Lists.finish (h : Lists t (id :: l)) (hst : st.status ≠ .prepareActive) :
    Lists (Function.update t id st) l := by
  obtain ⟨hid, hl⟩ := List.nodup_cons.mp h.nodup
  refine ⟨hl, fun x => ?_⟩
  rcases eq_or_ne x id with rfl | hx
  · simp [hst, hid]
  · simpa [Function.update_of_ne hx, hx] using h.mem_iff x

theorem Lists.continue (h : Lists t l) (hid : (t id).status = .prepareActive)
    (hst : st.status = .prepareActive) : Lists (Function.update t id st) l := by
  refine ⟨h.nodup, fun x => ?_⟩
  rcases eq_or_ne x id with rfl | hx
  · simpa [hst] using (h.mem_iff x).mp hid
  · simpa [Function.update_of_ne hx] using h.mem_iff x

theorem lists_endPrepares (h : Lists t (ids ++ l)) : Lists (endPrepares t ids) l := by
  induction ids generalizing t with
  | nil => exact h
  | cons id ids ih => exact ih (h.finish (Camera3Stream.endPrepare_status _))

theorem forall_update {P : Camera3Stream → Prop} (h : ∀ id, P (t id)) (hst : P st) :
    ∀ x, P (Function.update t id st x) := by
  intro x
  rcases eq_or_ne x id with rfl | hx
  · simpa using hst
  · simpa [Function.update_of_ne hx] using h x

theorem grows_update (hst : (t id).Grows st) : ∀ x, (t x).Grows (Function.update t id st x) := by
  intro x
  rcases eq_or_ne x id with rfl | hx
  · simpa using hst
  · simpa [Function.update_of_ne hx] using Grows.refl

theorem counted_endPrepares (h : ∀ id, (t id).Counted) : ∀ id, (endPrepares t ids id).Counted := by
  induction ids generalizing t with
  | nil => exact h
  | cons id ids ih =>
    exact ih (forall_update h fun hactive => absurd hactive (Camera3Stream.endPrepare_status _))

theorem grows_endPrepares (x : Nat) : (t x).Grows (endPrepares t ids x) := by
  induction ids generalizing t with
  | nil => exact .refl
  | cons id ids ih =>
    have hfirst := grows_update (Camera3Stream.endPrepare_grows (t id)) x
    have hrest := ih (t := Function.update t id (t id).endPrepareLocked.2)
    exact ⟨hrest.total.trans hfirst.total, Nat.le_trans hfirst.slots hrest.slots⟩

end Tables

variable {dev : AllocDevice} {s t : PrepareHandler} {job : PrepareJob}

/-- The stream that the thread prepares, until it is through with it. -/
def preparing (s : PrepareHandler) : List Nat :=
  if s.phase = .report then [] else s.preparedStream.toList.map (·.stream)

/-- The jobs whose callback was made, is next or is still to come. -/
def jobs (s : PrepareHandler) : List PrepareJob :=
  s.callbacks ++ s.preparedStream.toList ++ s.streams

/-- The invariant of guarded runs. With `abort_prepare_` set, the stream that the thread prepares
was cut off or gets its last buffer in this turn. -/
structure Tidy (s : PrepareHandler) : Prop where
  known : ∀ job ∈ s.jobs ++ s.accepted, job.call < s.calls
  lists : Lists s.table (s.preparing ++ s.streams.map (·.stream) ++ s.stuck)
  counted : ∀ id, (s.table id).Counted
  once : ∀ job ∈ s.accepted, job.call ∉ s.cut → s.jobs.count job = 1
  filled : ∀ job ∈ s.accepted, job ∈ s.callbacks ∨ s.preparedStream = some job ∧ s.phase = .report →
    job.call ∈ s.failed ∨ (s.table job.stream).Full
  abort : s.abortPrepare = true → ∀ job, s.preparedStream = some job → job.call ∉ s.cut →
    s.phase = .report ∨ s.phase = .prepare ∧ (s.table job.stream).OnLastBuffer
  ended : s.prepareRunning = false → s.streams = [] ∧ s.preparedStream = none
  idle : s.preparedStream = none → s.phase = .top

theorem jobs_pushBack (s : PrepareHandler) (job : PrepareJob) :
    (s.pushBack job).jobs = s.jobs ++ [job] := by
  simp [jobs, pushBack]

theorem tidy_start (h : Start s) : Tidy s := by
  rw [h.idle]
  exact
    { known := by simp [jobs]
      lists := ⟨by simp [preparing], by simpa [preparing] using h.notActive⟩
      counted := fun id hactive => absurd hactive (h.notActive id)
      once := by simp
      filled := by simp
      abort := by simp
      ended := by simp
      idle := by simp }

/-- What the invariant says once the thread has ended. -/
theorem Tidy.completed (h : Tidy s) : Completed s := by
  intro hended job hjob
  obtain ⟨hstreams, hprepared⟩ := h.ended hended
  have hjobs : s.jobs = s.callbacks := by simp [jobs, hstreams, hprepared]
  constructor
  · intro hcut
    have hcount := h.once job hjob hcut
    rw [hjobs] at hcount
    have hmem : job ∈ s.callbacks := List.count_pos_iff.mp (by omega)
    exact ⟨hcount, h.filled job hjob (Or.inl hmem)⟩
  · intro _ hactive
    have hmem := (h.lists.mem_iff job.stream).mp hactive
    simpa [preparing, hstreams, hprepared] using hmem

theorem Tidy.active (h : Tidy s) (hjob : s.preparedStream = some job) (hphase : s.phase ≠ .report) :
    (s.table job.stream).status = .prepareActive := by
  refine (h.lists.mem_iff job.stream).mpr ?_
  simp [preparing, hphase, hjob]

theorem Tidy.known_succ (h : Tidy s) (hjob : job ∈ s.jobs ∨ job ∈ s.accepted) :
    job.call < s.calls + 1 :=
  Nat.lt_succ_of_lt (h.known job (List.mem_append.mpr hjob))

theorem Tidy.not_mem_jobs (h : Tidy s) (hcall : s.calls ≤ job.call) : job ∉ s.jobs := by
  intro hmem
  have hlt := h.known job (List.mem_append_left _ hmem)
  omega

theorem Tidy.not_mem_accepted (h : Tidy s) (hcall : s.calls ≤ job.call) : job ∉ s.accepted := by
  intro hmem
  have hlt := h.known job (List.mem_append_right _ hmem)
  omega

theorem Tidy.refuse (h : Tidy s) : Tidy { s with calls := s.calls + 1 } :=
  { h with known := fun job hjob => Nat.lt_succ_of_lt (h.known job hjob) }

/-- Another stream enters preparation, so that what the thread works on stays as it is. -/
theorem Tidy.table_eq (h : Tidy s) {id : Nat} {st : Camera3Stream}
    (hid : (s.table id).status ≠ .prepareActive) (hjob : s.preparedStream = some job)
    (hphase : s.phase = .prepare) :
    Function.update s.table id st job.stream = s.table job.stream := by
  refine Function.update_of_ne (fun heq => hid ?_) _ _
  rw [← heq]
  exact h.active hjob (by simp [hphase])

theorem tidy_pushBack (h : Tidy s) {id : Nat} (st : Camera3Stream) {b : Bool}
    (hid : (s.table id).status ≠ .prepareActive) (hactive : st.status = .prepareActive)
    (hcount : st.preparedBuffersCount = 0) (hgrows : (s.table id).Grows st)
    (hb : b = true → s.abortPrepare = true) :
    Tidy (pushBack { s with
      calls := s.calls + 1
      table := Function.update s.table id st
      abortPrepare := b
      prepareRunning := true } ⟨s.calls, id⟩) := by
  have hnew : (⟨s.calls, id⟩ : PrepareJob) ∉ s.jobs := h.not_mem_jobs (Nat.le_refl _)
  constructor
  · intro job hjob
    rw [jobs_pushBack] at hjob
    replace hjob : job ∈ s.jobs ++ [⟨s.calls, id⟩] ++ (s.accepted ++ [⟨s.calls, id⟩]) := hjob
    simp only [List.mem_append, List.mem_singleton] at hjob
    rcases hjob with (hold | rfl) | hold | rfl
    · exact h.known_succ (Or.inl hold)
    · exact Nat.lt_succ_self _
    · exact h.known_succ (Or.inr hold)
    · exact Nat.lt_succ_self _
  · refine (h.lists.begin hid hactive).perm ?_
    have hmiddle : (id :: (s.preparing ++ s.streams.map (·.stream) ++ s.stuck)).Perm
        (s.preparing ++ s.streams.map (·.stream) ++ id :: s.stuck) := List.perm_middle.symm
    show (id :: (s.preparing ++ s.streams.map (·.stream) ++ s.stuck)).Perm
      (s.preparing ++ (s.streams ++ [(⟨s.calls, id⟩ : PrepareJob)]).map (·.stream) ++ s.stuck)
    simpa using hmiddle
  · exact forall_update h.counted fun _ => by simp [hcount]
  · intro job hjob hcut
    rw [jobs_pushBack]
    show List.count job (s.jobs ++ [(⟨s.calls, id⟩ : PrepareJob)]) = 1
    simp only [pushBack, List.mem_append, List.mem_singleton] at hjob
    rcases hjob with hold | rfl
    · have hne : job ≠ ⟨s.calls, id⟩ := by
        rintro rfl
        exact h.not_mem_accepted (Nat.le_refl _) hold
      rw [List.count_append, h.once job hold hcut, List.count_singleton]
      simp [hne.symm]
    · rw [List.count_append, List.count_eq_zero_of_not_mem hnew]
      simp
  · intro job hjob hdone
    simp only [pushBack, List.mem_append, List.mem_singleton] at hjob hdone ⊢
    rcases hjob with hold | rfl
    · exact (h.filled job hold hdone).imp_right fun hfull => hfull.grows (grows_update hgrows _)
    · refine absurd ?_ hnew
      rcases hdone with hdone | ⟨hdone, -⟩
      · simp [jobs, hdone]
      · simp [jobs, hdone]
  · intro habort job hjob hcut
    rcases h.abort (hb habort) job hjob hcut with hphase | ⟨hphase, hlast⟩
    · exact Or.inl hphase
    · refine Or.inr ⟨hphase, ?_⟩
      simp only [pushBack]
      rw [h.table_eq hid hjob hphase]
      exact hlast
  · simp [pushBack]
  · exact h.idle

theorem tidy_runFailed (h : Tidy s) {id : Nat} {st : Camera3Stream}
    (hid : (s.table id).status ≠ .prepareActive) (hactive : st.status = .prepareActive)
    (hcount : st.preparedBuffersCount = 0) (hgrows : (s.table id).Grows st)
    (hstreams : s.streams = []) (hprepared : s.preparedStream = none) :
    Tidy { s with
      calls := s.calls + 1
      table := Function.update s.table id st
      callbacks := s.callbacks ++ [⟨s.calls, id⟩]
      stuck := s.stuck ++ [id] } := by
  have hjobs : s.jobs = s.callbacks := by simp [jobs, hstreams, hprepared]
  have hne : ∀ job ∈ s.accepted, job ≠ ⟨s.calls, id⟩ := by
    rintro job hjob rfl
    exact h.not_mem_accepted (Nat.le_refl _) hjob
  constructor
  · intro job hjob
    simp only [jobs, hstreams, hprepared, Option.toList_none, List.append_nil, List.mem_append,
      List.mem_singleton] at hjob
    rcases hjob with (hold | rfl) | hold
    · exact h.known_succ (Or.inl (hjobs ▸ hold))
    · exact Nat.lt_succ_self _
    · exact h.known_succ (Or.inr hold)
  · refine (h.lists.begin hid hactive).perm ?_
    show (id :: (s.preparing ++ s.streams.map (·.stream) ++ s.stuck)).Perm
      (s.preparing ++ s.streams.map (·.stream) ++ (s.stuck ++ [id]))
    rw [← List.append_assoc]
    exact (List.perm_append_singleton _ _).symm
  · exact forall_update h.counted fun _ => by simp [hcount]
  · intro job hjob hcut
    have honce := h.once job hjob hcut
    rw [hjobs] at honce
    simp [jobs, hstreams, hprepared, honce, (hne job hjob).symm]
  · intro job hjob hdone
    simp only [hprepared, List.mem_append, List.mem_singleton, hne job hjob, or_false] at hdone
    refine (h.filled job hjob (hdone.imp_right ?_)).imp_right fun hfull =>
      hfull.grows (grows_update hgrows _)
    simp
  · intro _ job hjob
    simp [hprepared] at hjob
  · exact fun _ => ⟨hstreams, hprepared⟩
  · exact h.idle

theorem tidy_prepare (h : Tidy s) (stream : Option Nat) (run : Option Errno) :
    Tidy (s.prepare stream run).2 := by
  cases stream with
  | none => exact h
  | some id =>
    rcases (s.table id).beginPrepare_cases with ⟨hstatus, hbegin⟩ | hbegin
    · have hid : (s.table id).status ≠ .prepareActive := by simp [hstatus]
      simp only [prepare, hbegin]
      split
      next hrunning =>
        have hpush := tidy_pushBack h
          { s.table id with preparedBuffersCount := 0, status := .prepareActive } hid rfl rfl
          ⟨rfl, Nat.le_refl _⟩ fun habort => habort
        rw [← hrunning] at hpush
        exact hpush
      next hrunning =>
        cases run with
        | none => exact tidy_pushBack h _ hid rfl rfl ⟨rfl, Nat.le_refl _⟩ (by simp)
        | some e =>
          obtain ⟨hstreams, hprepared⟩ := h.ended (by simpa using hrunning)
          exact tidy_runFailed h hid rfl rfl ⟨rfl, Nat.le_refl _⟩ hstreams hprepared
    · simp only [prepare, hbegin]
      exact h.refuse

theorem tidy_clear (h : Tidy s) : Tidy s.clear := by
  have hold : ∀ job, job.call ∉ s.clear.cut → job.call ∉ s.cut ∧
      s.preparedStream ≠ some job ∧ job ∉ s.streams := by
    intro job hcut
    simp only [clear, List.map_append, List.mem_append, not_or] at hcut
    refine ⟨hcut.1, fun hjob => hcut.2.1 ?_, fun hjob => hcut.2.2 (List.mem_map_of_mem hjob)⟩
    simp [hjob]
  constructor
  · intro job hjob
    refine h.known job ?_
    simp only [clear, jobs, List.append_nil, List.mem_append] at hjob ⊢
    tauto
  · refine lists_endPrepares (h.lists.perm ?_)
    show (s.preparing ++ s.streams.map (·.stream) ++ s.stuck).Perm
      (s.streams.map (·.stream) ++ (s.preparing ++ [] ++ s.stuck))
    rw [List.append_nil, ← List.append_assoc]
    exact List.perm_append_comm.append_right _
  · exact counted_endPrepares h.counted
  · intro job hjob hcut
    obtain ⟨hcut, -, hstreams⟩ := hold job hcut
    have honce := h.once job hjob hcut
    simp only [jobs, List.count_append, List.count_eq_zero_of_not_mem hstreams] at honce
    simpa [jobs, clear] using honce
  · intro job hjob hdone
    exact (h.filled job hjob hdone).imp_right fun hfull => hfull.grows (grows_endPrepares _)
  · intro _ job hjob hcut
    exact absurd hjob (hold job hcut).2.1
  · exact fun hended => ⟨rfl, (h.ended hended).2⟩
  · exact h.idle

theorem tidy_pick (h : Tidy s) {streams : List PrepareJob} (hprepared : s.preparedStream = none)
    (hstreams : s.streams = job :: streams)
    (hlast : s.abortPrepare = true → (s.table job.stream).OnLastBuffer) :
    Tidy { s with preparedStream := some job, streams, phase := .prepare } := by
  have hjobs : s.callbacks ++ (some job).toList ++ streams = s.jobs := by
    simp [jobs, hprepared, hstreams]
  constructor
  · intro job' hjob'
    simp only [jobs, hjobs] at hjob'
    exact h.known job' hjob'
  · have hlists := h.lists
    simp only [preparing, hprepared, hstreams, h.idle hprepared] at hlists
    simpa [preparing] using hlists
  · exact h.counted
  · intro job' hjob' hcut
    simp only [jobs, hjobs]
    exact h.once job' hjob' hcut
  · intro job' hjob' hdone
    exact h.filled job' hjob' (hdone.imp_right fun hreport => by simp at hreport)
  · intro habort job' hjob' _
    obtain rfl : job = job' := by simpa using hjob'
    exact Or.inr ⟨rfl, hlast habort⟩
  · intro hended
    simp [(h.ended hended).1] at hstreams
  · simp

/-- A job that was cut off is dropped without a callback. -/
theorem tidy_drop (h : Tidy s) (hprepared : s.preparedStream = some job) (hphase : s.phase = .top)
    (hcut : job.call ∈ s.cut) :
    Tidy { s with
      table := Function.update s.table job.stream (s.table job.stream).endPrepareLocked.2
      preparedStream := none
      abortPrepare := false } := by
  constructor
  · intro job' hjob'
    refine h.known job' ?_
    simp only [jobs, List.mem_append, Option.toList_none, List.not_mem_nil, or_false] at hjob' ⊢
    tauto
  · have hlists := h.lists
    simp only [preparing, hprepared, hphase] at hlists
    simpa [preparing] using hlists.finish (Camera3Stream.endPrepare_status _)
  · exact forall_update h.counted
      fun hactive => absurd hactive (Camera3Stream.endPrepare_status _)
  · intro job' hjob' hcut'
    have hne : job ≠ job' := by
      rintro rfl
      exact hcut' hcut
    simpa [jobs, hprepared, hne] using h.once job' hjob' hcut'
  · intro job' hjob' hdone
    refine (h.filled job' hjob' (hdone.imp_right fun hreport => ?_)).imp_right
      fun hfull => hfull.grows (grows_update (Camera3Stream.endPrepare_grows _) _)
    simp at hreport
  · simp
  · intro hended
    simp [(h.ended hended).2] at hprepared
  · exact fun _ => hphase

theorem tidy_goOn (h : Tidy s) (hprepared : s.preparedStream = some job) (hphase : s.phase = .top)
    (habort : ¬ s.abortPrepare = true) : Tidy { s with phase := .prepare } := by
  constructor
  · exact h.known
  · have hlists := h.lists
    simp only [preparing, hphase] at hlists
    simpa [preparing] using hlists
  · exact h.counted
  · exact h.once
  · intro job' hjob' hdone
    exact h.filled job' hjob' (hdone.imp_right fun hreport => by simp at hreport)
  · exact fun habort' => absurd habort' habort
  · exact h.ended
  · intro hnone
    simp [hprepared] at hnone

theorem tidy_takeStream (h : Tidy s) (hguard : s.notStale .takeStream = true)
    (hphase : s.phase = .top) : Tidy s.takeStream := by
  unfold takeStream
  split
  next hprepared =>
    split
    next hstreams => exact { h with ended := fun _ => ⟨hstreams, hprepared⟩ }
    next job streams hstreams =>
      refine tidy_pick h hprepared hstreams fun habort => ?_
      simpa [notStale, hprepared, habort, hstreams] using hguard
  next job hprepared =>
    split
    next habort =>
      refine tidy_drop h hprepared hphase ?_
      -- an uncut job would be past its last buffer by now
      by_contra hcut
      rcases h.abort habort job hprepared hcut with hreport | ⟨hprepare, -⟩
      · simp [hphase] at hreport
      · simp [hphase] at hprepare
    next habort => exact tidy_goOn h hprepared hphase habort

theorem mem_failed {n m : Nat} {p : Prop} [Decidable p] (h : n ∈ s.failed) :
    n ∈ if p then s.failed ++ [m] else s.failed := by
  split
  · exact List.mem_append_left _ h
  · exact h

theorem tidy_prepareBuffer (h : Tidy s) (alloc : Option IBufferHandle)
    (hprepared : s.preparedStream = some job) (hphase : s.phase = .prepare) :
    Tidy (s.prepareBuffer dev job alloc) := by
  have hactive := h.active hprepared (by simp [hphase])
  have hlists : Lists s.table (job.stream :: (s.streams.map (·.stream) ++ s.stuck)) := by
    simpa [preparing, hprepared, hphase] using h.lists
  rcases Camera3Stream.prepareBufferOrEnd_active dev alloc hactive (h.counted job.stream) with
    ⟨st, hres, hlast, hst, hcounted, hgrows⟩ | ⟨res, st, hres, hne, hst, hgrows, hfull⟩
  · simp only [prepareBuffer, hres]
    constructor
    · exact h.known
    · simpa [preparing, hprepared] using hlists.continue hactive hst
    · exact forall_update h.counted hcounted
    · exact h.once
    · intro job' hjob' hdone
      refine (h.filled job' hjob' (hdone.imp_right fun hreport => ?_)).imp
        (fun hfailed => ?_) fun hfull => hfull.grows (grows_update hgrows _)
      · simp at hreport
      · exact mem_failed hfailed
    · intro habort job' hjob' hcut
      obtain rfl : job = job' := Option.some.inj (hprepared.symm.trans hjob')
      rcases h.abort habort job hprepared hcut with hreport | ⟨-, hlast'⟩
      · simp [hphase] at hreport
      · exact absurd hlast' hlast
    · exact h.ended
    · exact fun _ => rfl
  · simp only [prepareBuffer, hres, hne, if_false]
    constructor
    · exact h.known
    · simpa [preparing] using hlists.finish hst
    · exact forall_update h.counted fun hactive' => absurd hactive' hst
    · exact h.once
    · intro job' hjob' hdone
      rcases hdone with hdone | ⟨hdone, -⟩
      · exact (h.filled job' hjob' (Or.inl hdone)).imp mem_failed
          fun hfull => hfull.grows (grows_update hgrows _)
      · obtain rfl : job = job' := Option.some.inj (hprepared.symm.trans hdone)
        rcases hfull with hfull | hfailed
        · exact Or.inr (by simpa using hfull)
        · exact Or.inl (by simp [hfailed])
    · exact fun _ _ _ _ => Or.inl rfl
    · exact h.ended
    · intro hnone
      simp [hprepared] at hnone

theorem tidy_report (h : Tidy s) (hprepared : s.preparedStream = some job)
    (hphase : s.phase = .report) : Tidy (s.report job) := by
  have hjobs : s.jobs = (s.report job).jobs := by simp [jobs, report, hprepared]
  constructor
  · exact hjobs ▸ h.known
  · have hlists := h.lists
    simp only [preparing, hphase] at hlists
    simpa [preparing, report] using hlists
  · exact h.counted
  · exact hjobs ▸ h.once
  · intro job' hjob' hdone
    refine h.filled job' hjob' ?_
    simp only [report, List.mem_append, List.mem_singleton] at hdone
    rcases hdone with (hold | rfl) | hreport
    · exact Or.inl hold
    · exact Or.inr ⟨hprepared, hphase⟩
    · simp at hreport
  · intro _ job' hjob'
    simp [report] at hjob'
  · exact fun hended => ⟨(h.ended hended).1, rfl⟩
  · exact fun _ => rfl

theorem tidy_step {a : Action} (h : Tidy s) (hguard : s.notStale a = true)
    (hstep : s.step dev a = some t) : Tidy t := by
  cases a with
  | prepare stream run =>
    obtain rfl := Option.some.inj hstep
    exact tidy_prepare h stream run
  | clear =>
    obtain rfl := Option.some.inj hstep
    exact tidy_clear h
  | takeStream =>
    simp only [step] at hstep
    split at hstep
    next hturn =>
      obtain rfl := Option.some.inj hstep
      exact tidy_takeStream h hguard hturn.2
    · simp at hstep
  | prepareBuffer alloc =>
    simp only [step] at hstep
    split at hstep
    next job hprepared hphase =>
      obtain rfl := Option.some.inj hstep
      exact tidy_prepareBuffer h alloc hprepared hphase
    · simp at hstep
  | report =>
    simp only [step] at hstep
    split at hstep
    next job hprepared hphase =>
      obtain rfl := Option.some.inj hstep
      exact tidy_report h hprepared hphase
    · simp at hstep

/-- The turns that the thread has left for the stream that it prepares. -/
def turnsLeft (s : PrepareHandler) : Nat :=
  match s.preparedStream, s.phase with
  | none, _ => 0
  | some job, .top => 2 * (s.table job.stream).missing + 4
  | some job, .prepare => 2 * (s.table job.stream).missing + 3
  | some _, .report => 1

/-- A bound on the turns until the thread ends when no call comes. -/
def work (s : PrepareHandler) : Nat :=
  s.prepareRunning.toNat + s.turnsLeft +
    (s.streams.map fun job => 2 * (s.table job.stream).missing + 4).sum

theorem sum_missing_le {t t' : Nat → Camera3Stream} (h : ∀ id, (t id).Grows (t' id))
    (l : List PrepareJob) :
    (l.map fun job => 2 * (t' job.stream).missing + 4).sum ≤
      (l.map fun job => 2 * (t job.stream).missing + 4).sum := by
  induction l with
  | nil => exact Nat.le_refl _
  | cons job l ih =>
    have hjob := (h job.stream).missing_le
    simp only [List.map_cons, List.sum_cons]
    omega

theorem work_takeStream (hrunning : s.prepareRunning = true) (hphase : s.phase = .top) :
    s.takeStream.work < s.work := by
  unfold takeStream
  split
  next hprepared =>
    split
    next hstreams => simp [work, turnsLeft, hprepared, hrunning]
    next job streams hstreams => simp [work, turnsLeft, hprepared, hstreams]; omega
  next job hprepared =>
    split
    · have hsum := sum_missing_le
        (grows_update (Camera3Stream.endPrepare_grows (s.table job.stream))) s.streams
      simp only [work, turnsLeft, hprepared, hphase]
      omega
    · simp [work, turnsLeft, hprepared, hphase]

theorem work_prepareBuffer (alloc : Option IBufferHandle) (hprepared : s.preparedStream = some job)
    (hphase : s.phase = .prepare) : (s.prepareBuffer dev job alloc).work < s.work := by
  obtain ⟨hgrows, hmissing⟩ :=
    Camera3Stream.prepareBufferOrEnd_missing dev (s.table job.stream) alloc
  have hsum := sum_missing_le (grows_update hgrows) s.streams
  by_cases hres : ((s.table job.stream).prepareBufferOrEnd dev alloc).1 = some .enodata
  · have hmissing := hmissing hres
    simp only [work, turnsLeft, prepareBuffer, hprepared, hphase, hres, if_true,
      Function.update_self]
    omega
  · simp only [work, turnsLeft, prepareBuffer, hprepared, hphase, hres, if_false]
    omega

theorem work_report (hprepared : s.preparedStream = some job) (hphase : s.phase = .report) :
    (s.report job).work < s.work := by
  simp only [work, turnsLeft, report, hprepared, hphase]
  omega

/-- Every turn of the thread brings it closer to its end. -/
theorem work_step {a : Action} (ha : a.isThread = true) (hstep : s.step dev a = some t) :
    t.work < s.work := by
  cases a with
  | prepare stream run => simp [Action.isThread] at ha
  | clear => simp [Action.isThread] at ha
  | takeStream =>
    simp only [step] at hstep
    split at hstep
    next hturn =>
      obtain rfl := Option.some.inj hstep
      exact work_takeStream hturn.1 hturn.2
    · simp at hstep
  | prepareBuffer alloc =>
    simp only [step] at hstep
    split at hstep
    next job hprepared hphase =>
      obtain rfl := Option.some.inj hstep
      exact work_prepareBuffer alloc hprepared hphase
    · simp at hstep
  | report =>
    simp only [step] at hstep
    split at hstep
    next job hprepared hphase =>
      obtain rfl := Option.some.inj hstep
      exact work_report hprepared hphase
    · simp at hstep

theorem length_le_work {as : List Action} (h : (lts dev).MTr s as t)
    (has : ∀ a ∈ as, a.isThread = true) : as.length ≤ s.work := by
  induction h with
  | refl => exact Nat.zero_le _
  | @stepL s u t a as hstep _ ih =>
    have hlt := work_step (has a (by simp)) hstep
    have hle := ih fun b hb => has b (by simp [hb])
    simp only [List.length_cons]
    omega

/-- The thread is never stuck before its end, whatever the allocator answers. -/
theorem Tidy.enabled (h : Tidy s) (hrunning : s.prepareRunning = true)
    (alloc : Option IBufferHandle) :
    ∃ a t, a.isThread = true ∧ (∀ x, a = .prepareBuffer x → x = alloc) ∧ s.step dev a = some t := by
  cases hphase : s.phase with
  | top => exact ⟨.takeStream, s.takeStream, rfl, by simp, by simp [step, hrunning, hphase]⟩
  | prepare =>
    cases hprepared : s.preparedStream with
    | none => simp [h.idle hprepared] at hphase
    | some job =>
      exact ⟨.prepareBuffer alloc, s.prepareBuffer dev job alloc, rfl, by simp,
        by simp [step, hprepared, hphase]⟩
  | report =>
    cases hprepared : s.preparedStream with
    | none => simp [h.idle hprepared] at hphase
    | some job =>
      exact ⟨.report, s.report job, rfl, by simp, by simp [step, hprepared, hphase]⟩

/-- In every run in which no stream is picked up under a stale `abort_prepare_`, prepares complete.
Without further calls the thread gets to its end, after a bounded number of turns. -/
theorem completed_of_notStale (dev : AllocDevice) (s t : PrepareHandler) (as : List Action)
    (hstart : Start s) (h : ((lts dev).guarded fun s a => s.notStale a = true).MTr s as t) :
    Completed t ∧
    (∃ n, ∀ bs u, (∀ b ∈ bs, b.isThread = true) → (lts dev).MTr t bs u → bs.length ≤ n) ∧
    (t.prepareRunning = true → ∀ alloc, ∃ b u, b.isThread = true ∧
      (∀ x, b = .prepareBuffer x → x = alloc) ∧ t.step dev b = some u) := by
  have hinv : ((lts dev).guarded fun s a => s.notStale a = true).TrInv Tidy :=
    fun s a t hstep hs => tidy_step hs hstep.2 hstep.1
  have htidy := LTS.inv_of_mTr hinv h (tidy_start hstart)
  refine ⟨htidy.completed, ⟨t.work, fun bs u hbs hrun => length_le_work hrun hbs⟩, ?_⟩
  exact fun hrunning alloc => htidy.enabled hrunning alloc

/-- Streams of two buffers, none of them allocated. -/
def twoBuffers : PrepareHandler where
  table _ := { totalBufferCount := 2 }

theorem start_twoBuffers : Start twoBuffers :=
  ⟨rfl, fun _ => by simp [twoBuffers]⟩

/-- One stream is prepared, and a second one is cut off after its first buffer. -/
def oneCutOff : List Action :=
  [.prepare (some 0) none, .prepare (some 1) none, .takeStream, .prepareBuffer (some 10),
    .takeStream, .prepareBuffer (some 11), .report, .takeStream, .prepareBuffer (some 12), .clear,
    .takeStream, .takeStream]

theorem completed_oneCutOff :
    ((LTS.run (step {}) twoBuffers oneCutOff).map fun t =>
      (t.prepareRunning, t.accepted, t.cut, t.callbacks)) =
        some (false, [⟨0, 0⟩, ⟨1, 1⟩], [1], [⟨0, 0⟩]) ∧
    ∃ t, ((lts {}).guarded fun s a => s.notStale a = true).MTr twoBuffers oneCutOff t ∧
      Completed t := by
  have hrun : ((LTS.run (step {}) twoBuffers oneCutOff).map fun t =>
      (t.prepareRunning, t.accepted, t.cut, t.callbacks)) =
        some (false, [⟨0, 0⟩, ⟨1, 1⟩], [1], [⟨0, 0⟩]) := by decide
  obtain ⟨t, ht, -⟩ := Option.map_eq_some_iff.mp hrun
  have hguard : ((lts {}).guarded fun s a => s.notStale a = true).MTr twoBuffers oneCutOff t :=
    LTS.mTr_guarded_iff.mpr ⟨ht, by decide⟩
  exact ⟨hrun, t, hguard, (completed_of_notStale {} _ t _ start_twoBuffers hguard).1⟩

/-- A `Clear` that finds the first stream queued leaves `abort_prepare_` set, and the second one,
prepared after it, is dropped without a callback. -/
def staleAbort : List Action :=
  [.prepare (some 0) none, .clear, .prepare (some 1) none, .takeStream, .prepareBuffer (some 10),
    .takeStream, .takeStream]

theorem stale_abort_drops_prepare :
    ¬ ∀ (dev : AllocDevice) (s t : PrepareHandler) (as : List Action), Start s →
      (lts dev).MTr s as t → Completed t := by
  intro hall
  have hdropped : ((LTS.run (step {}) twoBuffers staleAbort).map fun t =>
      (t.prepareRunning, t.accepted, t.cut, t.callbacks)) =
        some (false, [⟨0, 0⟩, ⟨1, 1⟩], [0], []) := by decide
  obtain ⟨t, hrun, ht⟩ := Option.map_eq_some_iff.mp hdropped
  obtain ⟨hrunning, haccepted, hcut, hcallbacks⟩ : t.prepareRunning = false ∧
      t.accepted = [⟨0, 0⟩, ⟨1, 1⟩] ∧ t.cut = [0] ∧ t.callbacks = [] := by simpa using ht
  have hcompleted := hall {} _ t _ start_twoBuffers (LTS.mTr_ofStep_iff.mpr hrun) hrunning ⟨1, 1⟩
    (by simp [haccepted])
  have honce := (hcompleted.1 (by simp [hcut])).1
  simp [hcallbacks] at honce

end QmmfSdk.Camera3.PrepareHandler
