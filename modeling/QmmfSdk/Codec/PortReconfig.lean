import QmmfSdk.Codec.OutputPort

/-! When a reconfiguration of the output port can still be carried out, and what its threads need from
their surroundings not to fail an assertion. -/
namespace QmmfSdk.Codec

open Library

/-- How many steps `DeliverOutput` is from its `api_count_--` while the port is to be reconfigured. -/
def DeliverOutput.distance : DeliverOutput → Nat
  | .top | .sawReconfig | .looked | .ended => 0
  | .leaving _ => 1
  | .returning .. | .filling .. => 2
  | .noHeader _ | .updating .. | .noBuffer => 3
  | .leftLoop _ | .running .. => 4
  | .waiting .. | .gotHeader .. => 5
  | .counted | .taking _ => 6

namespace OutputPort

variable {s t : OutputPort} {a : Action} {as : List Action} {h : OutHeader} {n : Nat}

/-- Some way for the threads, the component and the clients to go on gives the port new headers. -/
def CanReconfigure (s : OutputPort) : Prop :=
  ∃ as t, LTS.run step s as = some t ∧ t.reconfig = .ending

/-- A header that the component refused is still to be waited for, or a `StopCodec` that is counted
already waits for `ThreadRun` itself. -/
def Stuck (s : OutputPort) : Prop :=
  s.reconfig.isDrained = false ∧ s.stranded ≠ [] ∨
    s.reconfig.isAlone = false ∧ s.stopCall.isCounted = true

/-- The next step of `DeliverOutput` fails an assertion or has no header to take. -/
def AtFault (s : OutputPort) : Prop :=
  match s.deliver with
  | .waiting _ counter => counter = kMaxWaitLimitCounter
  | .taking _ => s.freeOutput = []
  | .noBuffer => True
  | _ => False

/-- A port that is to be reconfigured and on its way there. -/
structure Pending (s : OutputPort) : Prop where
  inv : s.Inv
  flag : s.bPortReconfig = true
  goesOn : s.outputStop = false
  running : s.aborted = .none
  noFault : ¬ s.AtFault
  notEnded : s.reconfig ≠ .ended
  noStop : s.reconfig.isAlone = false → s.stopCall.isCounted = false
  complete : s.reconfig.isDrained = false → s.stranded = []

theorem step_of_running (hs : s.aborted = .none) : step s .deliverOutput = s.deliverOutput ∧
    step s .threadRun = s.threadRun ∧ (∀ r, step s (.getBuffer r) = s.getBuffer r) ∧
    (∀ b, step s (.fillThisBuffer b) = s.fillThisBuffer b) := by
  simp [step, hs]

theorem run_single (ha : step s a = some t) : LTS.run step s [a] = some t := by
  simp [LTS.run, ha]

/-- What `DeliverOutput` leaves as it is on its way out, which it is nearer to. -/
structure Nearer (s t : OutputPort) : Prop where
  flag : t.bPortReconfig = s.bPortReconfig
  goesOn : t.outputStop = s.outputStop
  running : t.aborted = s.aborted
  reconfig : t.reconfig = s.reconfig
  stopCall : t.stopCall = s.stopCall
  stranded : t.stranded = s.stranded
  calls : t.calls = s.calls
  nearer : t.deliver.distance < s.deliver.distance
  noFault : ¬ t.AtFault

/-- One step brings `DeliverOutput` nearer to its `api_count_--`. -/
theorem exists_nearer (hs : s.Pending) (hcounted : s.deliver.isCounted = true) :
    ∃ a t, step s a = some t ∧ s.Nearer t := by
  obtain ⟨hdeliver, -, hget, hfill⟩ := step_of_running hs.running
  have hfault := hs.noFault
  have hflag := hs.flag
  have hstop := hs.goesOn
  unfold AtFault at hfault
  cases hd : s.deliver with
  | top | sawReconfig | looked | ended => simp [hd, DeliverOutput.isCounted] at hcounted
  | noBuffer => simp [hd] at hfault
  | counted =>
    refine ⟨.getBuffer .failed, { s with deliver := .leaving false }, ?_,
      rfl, rfl, rfl, rfl, rfl, rfl, rfl, ?_, ?_⟩
    · simp [hget, getBuffer, hd]
    all_goals simp [AtFault, DeliverOutput.distance, hd]
  | filling b h =>
    refine ⟨.fillThisBuffer true, { s with
      component := h :: s.component, deliver := .leaving false }, ?_,
      rfl, rfl, rfl, rfl, rfl, rfl, rfl, ?_, ?_⟩
    · rw [hfill, fillThisBuffer, hd]
      rfl
    all_goals simp [AtFault, DeliverOutput.distance, hd]
  | waiting b counter =>
    simp only [hd] at hfault
    refine ⟨.deliverOutput, { s with deliver := .leftLoop b }, ?_,
      rfl, rfl, rfl, rfl, rfl, rfl, rfl, ?_, ?_⟩
    · rw [hdeliver, deliverOutput, hd]
      simp [hfault, hflag]
    all_goals simp [AtFault, DeliverOutput.distance, hd]
  | taking b =>
    simp only [hd] at hfault
    obtain ⟨h, free, hfree⟩ := List.exists_cons_of_ne_nil hfault
    refine ⟨.deliverOutput, { s with
      freeOutput := free
      usedOutput := s.usedOutput ++ [h]
      handle := Function.update s.handle h b
      deliver := .gotHeader b h }, ?_, rfl, rfl, rfl, rfl, rfl, rfl, rfl, ?_, ?_⟩
    · rw [hdeliver, deliverOutput, hd]
      simp [hfree]
    all_goals simp [AtFault, DeliverOutput.distance, hd]
  | leftLoop b =>
    refine ⟨.deliverOutput, { s with deliver := .noHeader b }, ?_,
      rfl, rfl, rfl, rfl, rfl, rfl, rfl, ?_, ?_⟩
    · rw [hdeliver, deliverOutput, hd]
      simp [hflag]
    all_goals simp [AtFault, DeliverOutput.distance, hd]
  | noHeader b =>
    refine ⟨.deliverOutput, { s with deliver := .returning b false }, ?_,
      rfl, rfl, rfl, rfl, rfl, rfl, rfl, ?_, ?_⟩
    · rw [hdeliver, deliverOutput, hd]
      simp [hflag]
    all_goals simp [AtFault, DeliverOutput.distance, hd]
  | gotHeader b h =>
    refine ⟨.deliverOutput, { s with deliver := .running b h }, ?_,
      rfl, rfl, rfl, rfl, rfl, rfl, rfl, ?_, ?_⟩
    · rw [hdeliver, deliverOutput, hd]
      simp [hstop]
    all_goals simp [AtFault, DeliverOutput.distance, hd]
  | running b h =>
    refine ⟨.deliverOutput, { s with deliver := .updating b h false }, ?_,
      rfl, rfl, rfl, rfl, rfl, rfl, rfl, ?_, ?_⟩
    · rw [hdeliver, deliverOutput, hd]
      simp [hflag]
    all_goals simp [AtFault, DeliverOutput.distance, hd]
  | updating b h ends =>
    refine ⟨.deliverOutput, { s.updateBufferHeaderList h with deliver := .returning b ends }, ?_,
      rfl, rfl, rfl, rfl, rfl, rfl, rfl, ?_, ?_⟩
    · rw [hdeliver, deliverOutput, hd]
    all_goals simp [AtFault, DeliverOutput.distance, hd]
  | returning b ends =>
    refine ⟨.deliverOutput, { s with returned := b :: s.returned, deliver := .leaving ends }, ?_,
      rfl, rfl, rfl, rfl, rfl, rfl, rfl, ?_, ?_⟩
    · rw [hdeliver, deliverOutput, hd]
    all_goals simp [AtFault, DeliverOutput.distance, hd]
  | leaving ends =>
    refine ⟨.deliverOutput, { s with
      apiCount := s.apiCount - 1, deliver := if ends then .ended else .top }, ?_,
      rfl, rfl, rfl, rfl, rfl, rfl, rfl, ?_, ?_⟩
    · rw [hdeliver, deliverOutput, hd]
    all_goals cases ends <;> simp [AtFault, DeliverOutput.distance, hd]

theorem Pending.of_nearer (hs : s.Pending) (ht : step s a = some t) (hn : s.Nearer t) :
    t.Pending where
  inv := inv_step s a t ht hs.inv
  flag := hn.flag.trans hs.flag
  goesOn := hn.goesOn.trans hs.goesOn
  running := hn.running.trans hs.running
  noFault := hn.noFault
  notEnded := hn.reconfig ▸ hs.notEnded
  noStop hr := hn.stopCall ▸ hs.noStop (hn.reconfig ▸ hr)
  complete hr := hn.stranded ▸ hs.complete (hn.reconfig ▸ hr)

/-- The calls end, and `DeliverOutput` goes where it is not counted. -/
theorem exists_noCalls (hs : s.Pending) (hr : s.reconfig.isAlone = false) :
    ∃ as t, LTS.run step s as = some t ∧ (t.Pending ∧ t.reconfig = s.reconfig ∧
      (s.deliver.isCounted = false → t.deliver = s.deliver)) ∧ t.apiCount = 0 := by
  refine LTS.exists_run_of_measure (fun t : OutputPort => t.calls + t.deliver.distance)
    (fun t ⟨ht, hsame, hdeliver⟩ hcalls => ?_) ⟨hs, rfl, fun _ => rfl⟩
  by_cases hcounted : t.deliver.isCounted = true
  · obtain ⟨a, u, hu, hn⟩ := exists_nearer ht hcounted
    refine ⟨[a], u, run_single hu, ⟨ht.of_nearer hu hn, hn.reconfig.trans hsame, fun h => ?_⟩, ?_⟩
    · rw [hdeliver h, h] at hcounted
      cases hcounted
    rw [hn.calls]
    exact Nat.add_lt_add_left hn.nearer _
  · have hcount := ht.inv.count
    rw [ht.noStop (hsame ▸ hr), Bool.eq_false_iff.mpr hcounted] at hcount
    simp only [Bool.toNat_false, Nat.zero_add, Nat.add_zero] at hcount
    have hpos : 0 < t.calls := by omega
    have hdone : step t .done =
        some { t with calls := t.calls - 1, apiCount := t.apiCount - 1 } := by
      simp [step, ht.running, hpos]
    refine ⟨[.done], _, run_single hdone, ⟨⟨inv_step _ _ _ hdone ht.inv, ht.flag, ht.goesOn,
      ht.running, ht.noFault, ht.notEnded, ht.noStop, ht.complete⟩, hsame, hdeliver⟩, ?_⟩
    simp only
    omega

/-- A step of `ThreadRun` on its way to the new headers. -/
theorem Pending.goOn {r : ThreadRun} (hs : s.Pending)
    (ht : s.threadRun = some { s with reconfig := r }) (hr : r ≠ .ended)
    (halone : r.isAlone = false → s.reconfig.isAlone = false)
    (hdrained : r.isDrained = false → s.reconfig.isDrained = false) :
    step s .threadRun = some { s with reconfig := r } ∧ Pending { s with reconfig := r } := by
  have hstep : step s .threadRun = some { s with reconfig := r } :=
    (step_of_running hs.running).2.1.trans ht
  exact ⟨hstep, inv_step _ _ _ hstep hs.inv, hs.flag, hs.goesOn, hs.running, hs.noFault, hr,
    fun h => hs.noStop (halone h), fun h => hs.complete (hdrained h)⟩

/-- A way on that leaves `DeliverOutput` where it is. -/
def Reaches (s : OutputPort) (r : ThreadRun) : Prop :=
  ∃ as t, LTS.run step s as = some t ∧ t.Pending ∧ t.deliver = s.deliver ∧ t.reconfig = r

theorem Reaches.of_step {r : ThreadRun} (ht : step s a = some t) (hd : t.deliver = s.deliver)
    (h : t.Reaches r) : s.Reaches r := by
  obtain ⟨as, u, hu, hpending, hdeliver, hr⟩ := h
  exact ⟨a :: as, u, by simp [LTS.run, ht, hu], hpending, hdeliver.trans hd, hr⟩

theorem Reaches.of_run {r : ThreadRun} (ht : LTS.run step s as = some t)
    (hd : t.deliver = s.deliver) (h : t.Reaches r) : s.Reaches r := by
  obtain ⟨bs, u, hu, hpending, hdeliver, hr⟩ := h
  exact ⟨as ++ bs, u, by rw [LTS.run_append, ht]; exact hu, hpending, hdeliver.trans hd, hr⟩

/-- With no call under way, `ThreadRun` gets past its wait for them. -/
theorem reaches_flushing (hs : s.Pending) (hr : s.reconfig.isAlone = false) (hcalls : s.apiCount = 0) :
    s.Reaches .flushing := by
  have hwaiting : ∀ t : OutputPort, t.Pending → t.reconfig = .waiting → t.apiCount = 0 →
      t.Reaches .flushing := by
    intro t ht hw hzero
    obtain ⟨hstep, hu⟩ := ht.goOn (r := .flushing) (by simp [threadRun, hw, hzero]) nofun nofun
      fun _ => by rw [hw]; rfl
    exact ⟨_, _, run_single hstep, hu, rfl, rfl⟩
  have hrunning : ∀ t : OutputPort, t.Pending → t.reconfig = .running → t.apiCount = 0 →
      t.Reaches .flushing := by
    intro t ht hw hzero
    obtain ⟨hstep, hu⟩ := ht.goOn (r := .waiting) (by simp [threadRun, hw, ht.flag]) nofun
      (fun _ => by rw [hw]; rfl) fun _ => by rw [hw]; rfl
    exact .of_step hstep rfl (hwaiting _ hu rfl hzero)
  cases hc : s.reconfig with
  | idle =>
    obtain ⟨hstep, hu⟩ := hs.goOn (r := .running) (by simp [threadRun, hc, hs.goesOn]) nofun
      (fun _ => hr) fun _ => by rw [hc]; rfl
    exact .of_step hstep rfl (hrunning _ hu rfl hcalls)
  | running => exact hrunning s hs hc hcalls
  | waiting => exact hwaiting s hs hc hcalls
  | sawCalls =>
    obtain ⟨hstep, hu⟩ := hs.goOn (r := .waiting) (by simp [threadRun, hc, hs.goesOn]) nofun
      (fun _ => hr) fun _ => by rw [hc]; rfl
    exact .of_step hstep rfl (hwaiting _ hu rfl hcalls)
  | ended => exact absurd hc hs.notEnded
  | flushing | draining | freeing | asking | rebuilding | ending =>
    simp [hc, ThreadRun.isAlone] at hr

/-- A step beside `DeliverOutput`, past the wait for the calls. -/
theorem Pending.alone (hs : s.Pending) (ht : step s a = some t)
    (hsame : t.bPortReconfig = s.bPortReconfig ∧ t.outputStop = s.outputStop ∧
      t.aborted = s.aborted ∧ t.deliver = s.deliver ∧ t.stranded = s.stranded)
    (hr : t.reconfig.isAlone = true)
    (hdrained : t.reconfig.isDrained = false → s.reconfig.isDrained = false) : t.Pending := by
  obtain ⟨hflag, hstop, haborted, hdeliver, hstranded⟩ := hsame
  have hinv := inv_step s a t ht hs.inv
  refine ⟨hinv, hflag.trans hs.flag, hstop.trans hs.goesOn, haborted.trans hs.running, fun hfault => ?_,
    ?_, fun h => ?_, fun h => hstranded ▸ hs.complete (hdrained h)⟩
  · refine hs.noFault ?_
    have htaking := (hinv.alone hr).2
    unfold AtFault at hfault ⊢
    rw [← hdeliver]
    cases hd : t.deliver with
    | taking b =>
      rw [hd] at htaking
      cases htaking
    | waiting b counter => simpa only [hd] using hfault
    | noBuffer => trivial
    | _ => simp only [hd] at hfault
  · intro hended
    rw [hended] at hr
    cases hr
  · rw [hr] at h
    cases h

/-- The component and its callbacks give back what they have. -/
theorem exists_unused (hs : s.Pending) (hr : s.reconfig = .draining) :
    ∃ as t, LTS.run step s as = some t ∧
      (t.Pending ∧ t.reconfig = .draining ∧ t.deliver = s.deliver) ∧ t.usedOutput = [] := by
  refine LTS.exists_run_of_measure (fun t : OutputPort =>
      2 * t.component.length + (t.callbacks.filterMap FillBufferDone.header).length)
    (fun t ⟨ht, hdraining, hdeliver⟩ hused => ?_) ⟨hs, hr, rfl⟩
  have halone : t.reconfig.isAlone = true := by rw [hdraining]; rfl
  rcases hcomponent : t.component with _ | ⟨h, component⟩
  · rcases hheaders : t.callbacks.filterMap FillBufferDone.header with _ | ⟨h, headers⟩
    · -- nobody has a header
      refine absurd ?_ hused
      have hperm := ht.inv.used
      rwa [inUse, (ht.inv.alone halone).1, hcomponent, hheaders, ht.complete (by rw [hdraining]; rfl),
        Option.toList_none, List.append_nil, List.append_nil, List.append_nil,
        List.perm_nil] at hperm
    · obtain ⟨c, hc, hch⟩ := List.mem_filterMap.mp
        (show h ∈ t.callbacks.filterMap FillBufferDone.header by simp [hheaders])
      cases c with
      | updating k eos =>
        have hstep : step t (.callback (.updating k eos)) = some { t.updateBufferHeaderList k with
            callbacks := .updated (t.handle k) eos :: t.callbacks.erase (.updating k eos) } := by
          simp [step, ht.running, callback, hc]
        refine ⟨_, _, run_single hstep, ⟨ht.alone hstep ⟨rfl, rfl, rfl, rfl, rfl⟩ halone id,
          hdraining, hdeliver⟩, ?_⟩
        have hlength := ((List.perm_cons_erase hc).filterMap FillBufferDone.header).length_eq
        rw [List.filterMap_cons_some (show (FillBufferDone.updating k eos).header = some k from rfl),
          List.length_cons, hheaders] at hlength
        simp only [updateBufferHeaderList, hcomponent, List.length_nil, List.filterMap_cons_none
          (show (FillBufferDone.updated (t.handle k) eos).header = none from rfl)]
        omega
      | updated | stopping | returning => cases hch
  · have hstep : step t (.fillBufferDone h false) = some { t with
        component := t.component.erase h
        callbacks := .updating h false :: t.callbacks } := by
      simp [step, ht.running, fillBufferDone, hcomponent]
    refine ⟨_, _, run_single hstep, ⟨ht.alone hstep ⟨rfl, rfl, rfl, rfl, rfl⟩ halone id, hdraining,
      hdeliver⟩, ?_⟩
    simp only [hcomponent, List.erase_cons_head, List.filterMap_cons, FillBufferDone.header,
      List.length_cons]
    omega

/-- `UseBuffer` for one place after the other. -/
theorem reaches_rebuilt (hs : s.Pending) {next : Nat} (hr : s.reconfig = .rebuilding next) :
    s.Reaches .ending := by
  have hrun : ∃ as t, LTS.run step s as = some t ∧ (t.Pending ∧ t.deliver = s.deliver ∧
      (t.reconfig = .ending ∨ ∃ next, t.reconfig = .rebuilding next)) ∧ t.reconfig = .ending := by
    refine LTS.exists_run_of_measure (fun t : OutputPort => match t.reconfig with
      | .rebuilding next => 1 + (t.outBuffHdrSize - next)
      | _ => 0) (fun t ⟨ht, hdeliver, hcase⟩ hnot => ?_) ⟨hs, rfl, .inr ⟨next, hr⟩⟩
    obtain hend | ⟨next, hnext⟩ := hcase
    · exact absurd hend hnot
    by_cases hlt : next < t.outBuffHdrSize
    · have hstep : step t .threadRun = some { t with
          live := t.live ++ [⟨t.allocation, next⟩]
          freeOutput := t.freeOutput ++ [⟨t.allocation, next⟩]
          reconfig := .rebuilding (next + 1) } := by
        simp [step, ht.running, threadRun, hnext, hlt]
      refine ⟨_, _, run_single hstep, ⟨ht.alone hstep ⟨rfl, rfl, rfl, rfl, rfl⟩ rfl nofun, hdeliver,
        .inr ⟨_, rfl⟩⟩, ?_⟩
      simp only [hnext]
      omega
    · have hstep : step t .threadRun = some { t with reconfig := .ending } := by
        simp [step, ht.running, threadRun, hnext, hlt]
      refine ⟨_, _, run_single hstep, ⟨ht.alone hstep ⟨rfl, rfl, rfl, rfl, rfl⟩ rfl nofun, hdeliver,
        .inl rfl⟩, ?_⟩
      simp only [hnext]
      omega
  obtain ⟨as, t, ht, ⟨hpending, hdeliver, -⟩, hend⟩ := hrun
  exact ⟨as, t, ht, hpending, hdeliver, hend⟩

/-- Past the wait for the headers the port gets new ones. -/
theorem reaches_drained (hs : s.Pending) (hr : s.reconfig.isDrained = true) : s.Reaches .ending := by
  have hasking : ∀ t : OutputPort, t.Pending → t.reconfig = .asking → t.Reaches .ending := by
    intro t ht hc
    have hstep : step t (.portDefinition t.outBuffHdrSize) = some { t with
        allocation := t.allocation + 1
        freeOutput := []
        usedOutput := []
        configured := t.settings
        reconfig := .rebuilding 0 } := by
      simp [step, ht.running, portDefinition, hc]
    exact .of_step hstep rfl (reaches_rebuilt
      (ht.alone hstep ⟨rfl, rfl, rfl, rfl, rfl⟩ rfl nofun) rfl)
  cases hc : s.reconfig with
  | freeing =>
    have hstep : step s .threadRun = some { s with live := [], reconfig := .asking } := by
      simp [step, hs.running, threadRun, hc]
    exact .of_step hstep rfl (hasking _ (hs.alone hstep ⟨rfl, rfl, rfl, rfl, rfl⟩ rfl
      (by simp [ThreadRun.isDrained])) rfl)
  | asking => exact hasking s hs hc
  | rebuilding next => exact reaches_rebuilt hs hc
  | ending => exact ⟨[], s, rfl, hs, rfl, hc⟩
  | idle | running | waiting | sawCalls | flushing | draining | ended =>
    simp [hc, ThreadRun.isDrained] at hr

/-- Past the wait for the calls it does too. -/
theorem reaches_alone (hs : s.Pending) (hr : s.reconfig.isAlone = true) : s.Reaches .ending := by
  have hdraining : ∀ t : OutputPort, t.Pending → t.reconfig = .draining → t.Reaches .ending := by
    intro t ht hc
    obtain ⟨as, u, hu, ⟨hpending, hr, hdeliver⟩, hused⟩ := exists_unused ht hc
    have hstep : step u .threadRun = some { u with reconfig := .freeing } := by
      simp [step, hpending.running, threadRun, hr, hused]
    exact .of_run hu hdeliver (.of_step hstep rfl (reaches_drained
      (hpending.alone hstep ⟨rfl, rfl, rfl, rfl, rfl⟩ rfl (by simp [ThreadRun.isDrained])) rfl))
  by_cases hdrained : s.reconfig.isDrained = true
  · exact reaches_drained hs hdrained
  cases hc : s.reconfig <;> simp [hc, ThreadRun.isAlone, ThreadRun.isDrained] at hr hdrained
  · obtain ⟨hstep, hu⟩ := hs.goOn (r := .draining) (by simp [threadRun, hc])
      (by simp) (by simp [ThreadRun.isAlone])
      fun _ => by rw [hc]; rfl
    exact .of_step hstep rfl (hdraining _ hu rfl)
  · exact hdraining s hs hc

theorem Pending.canReconfigure (hs : s.Pending) : s.CanReconfigure := by
  by_cases halone : s.reconfig.isAlone = true
  · obtain ⟨as, t, ht, -, -, hend⟩ := reaches_alone hs halone
    exact ⟨as, t, ht, hend⟩
  · obtain ⟨as, t, ht, ⟨hpending, hr, -⟩, hzero⟩ := exists_noCalls hs (by simpa using halone)
    obtain ⟨bs, u, hu, hpending', -, hr'⟩ := reaches_flushing hpending
      (by rw [hr]; simpa using halone) hzero
    obtain ⟨cs, v, hv, -, -, hend⟩ := reaches_alone hpending' (by rw [hr']; rfl)
    refine ⟨as ++ (bs ++ cs), v, ?_, hend⟩
    rw [LTS.run_append, ht]
    simp only [Option.bind_some]
    rw [LTS.run_append, hu]
    exact hv

/-- What a step never takes back, and that only two kinds of steps move `ThreadRun`. -/
structure Onward (s t : OutputPort) (a : Action) : Prop where
  stranded : s.stranded ≠ [] → t.stranded ≠ []
  stopCall : s.stopCall.isCounted = true → t.stopCall.isCounted = true
  outputStop : s.outputStop = true → t.outputStop = true
  reconfig : t.reconfig = s.reconfig ∨ a = .threadRun ∨ ∃ count, a = .portDefinition count

theorem onward_step (ht : step s a = some t) : s.Onward t a := by
  unfold step at ht
  split at ht
  · cases ht
  cases a with
  | deliverOutput =>
    rw [deliverOutput_frame ht]
    exact ⟨id, id, id, .inl rfl⟩
  | getBuffer reply =>
    obtain ⟨-, d, taken, -, -, -, rfl, -⟩ := getBuffer_cases ht
    exact ⟨id, id, id, .inl rfl⟩
  | timedOut =>
    obtain ⟨buffer, counter, -, -, -, -, rfl⟩ := timedOut_cases ht
    exact ⟨id, id, id, .inl rfl⟩
  | fillThisBuffer accepted =>
    obtain ⟨buffer, h, -, ⟨-, rfl⟩ | ⟨-, rfl⟩⟩ := fillThisBuffer_cases ht
    · exact ⟨id, id, id, .inl rfl⟩
    · exact ⟨fun _ => List.cons_ne_nil _ _, id, id, .inl rfl⟩
  | threadRun =>
    rw [threadRun_frame ht]
    exact ⟨id, id, id, .inr (.inl rfl)⟩
  | commandFails =>
    obtain ⟨-, rfl⟩ := commandFails_cases ht
    exact ⟨id, id, id, .inl rfl⟩
  | portDefinition count =>
    obtain ⟨-, rfl⟩ := portDefinition_cases ht
    exact ⟨id, id, id, .inr (.inr ⟨count, rfl⟩)⟩
  | settingsChanged =>
    obtain rfl := Option.some.inj ht
    exact ⟨id, id, id, .inl rfl⟩
  | fillBufferDone h eos =>
    obtain ⟨-, rfl⟩ := fillBufferDone_cases ht
    exact ⟨id, id, id, .inl rfl⟩
  | callback c =>
    obtain ⟨-, ⟨h, eos, rfl, rfl⟩ | ⟨b, eos, rfl, -, rfl⟩ | ⟨b, eos, rfl, -, rfl⟩ |
      ⟨b, rfl, rfl⟩ | ⟨b, rfl, rfl⟩⟩ := callback_cases ht
    case inr.inr.inr.inl => exact ⟨id, id, fun _ => rfl, .inl rfl⟩
    all_goals exact ⟨id, id, id, .inl rfl⟩
  | look =>
    obtain ⟨-, ht⟩ := Option.ite_none_left_eq_some.mp ht
    obtain rfl := Option.some.inj ht
    exact ⟨id, id, id, .inl rfl⟩
  | count | done =>
    obtain ⟨-, ht⟩ := Option.ite_none_right_eq_some.mp ht
    obtain rfl := Option.some.inj ht
    exact ⟨id, id, id, .inl rfl⟩
  | stopCodec doFlush =>
    obtain ⟨⟨hnone, -⟩, ht⟩ := Option.ite_none_right_eq_some.mp ht
    obtain rfl := Option.some.inj ht
    exact ⟨id, by simp [hnone, StopCall.isCounted], id, .inl rfl⟩
  | stop =>
    obtain ⟨f, -, rfl⟩ | ⟨f, -, rfl⟩ | ⟨-, -, -, rfl⟩ := stop_cases ht
    · exact ⟨id, fun _ => rfl, id, .inl rfl⟩
    · exact ⟨id, fun _ => rfl, fun h => by simp [h], .inl rfl⟩
    · exact ⟨id, fun _ => rfl, id, .inl rfl⟩

/-- `ThreadRun` passes neither wait while it is stuck. -/
theorem stuck_threadRun (hs : s.Inv) (ht : s.threadRun = some t) :
    (s.reconfig.isDrained = false → s.stranded ≠ [] → t.reconfig.isDrained = false) ∧
      (s.reconfig.isAlone = false → s.stopCall.isCounted = true → t.reconfig.isAlone = false) := by
  unfold threadRun at ht
  cases hr : s.reconfig <;> simp only [hr] at ht
  case waiting =>
    obtain rfl := Option.some.inj ht
    refine ⟨fun _ _ => by split <;> rfl, fun _ hcounted => ?_⟩
    have hcount := hs.count
    rw [hcounted, Bool.toNat_true] at hcount
    simp only [show 0 < s.apiCount by omega, if_true, ThreadRun.isAlone]
  case draining =>
    obtain ⟨hused, ht⟩ := Option.ite_none_right_eq_some.mp ht
    obtain rfl := Option.some.inj ht
    refine ⟨fun _ hstranded => absurd ?_ hstranded, by simp [ThreadRun.isAlone]⟩
    have hperm := hs.used
    rw [hused] at hperm
    have hnil := hperm.symm.eq_nil
    rw [inUse, List.append_eq_nil_iff] at hnil
    exact hnil.2
  case idle => exact Option.some.inj ht ▸ ⟨fun _ _ => by split <;> rfl, fun _ _ => by split <;> rfl⟩
  case running =>
    exact Option.some.inj ht ▸ ⟨fun _ _ => by split <;> rfl, fun _ _ => by split <;> rfl⟩
  case sawCalls => split_ifs at ht <;> exact Option.some.inj ht ▸ ⟨fun _ _ => rfl, fun _ _ => rfl⟩
  case flushing => exact Option.some.inj ht ▸ ⟨fun _ _ => rfl, by simp [ThreadRun.isAlone]⟩
  case freeing | ending => exact Option.some.inj ht ▸ ⟨by simp [ThreadRun.isDrained], by simp [ThreadRun.isAlone]⟩
  case rebuilding => split_ifs at ht <;> exact Option.some.inj ht ▸ ⟨by simp [ThreadRun.isDrained], by simp [ThreadRun.isAlone]⟩
  case asking | ended => cases ht

theorem stuck_step : lts.TrInv fun s => s.Inv ∧ s.Stuck := by
  rintro s a t ht ⟨hs, hstuck⟩
  refine ⟨inv_step s a t ht hs, ?_⟩
  have hon := onward_step ht
  have ht : step s a = some t := ht
  have hkeep : (s.reconfig.isDrained = false → s.stranded ≠ [] → t.reconfig.isDrained = false) ∧
      (s.reconfig.isAlone = false → s.stopCall.isCounted = true → t.reconfig.isAlone = false) := by
    obtain hsame | rfl | ⟨count, rfl⟩ := hon.reconfig
    · exact ⟨fun h _ => hsame ▸ h, fun h _ => hsame ▸ h⟩
    · unfold step at ht
      split at ht
      · cases ht
      · exact stuck_threadRun hs ht
    · unfold step at ht
      split at ht
      · cases ht
      · obtain ⟨hasking, -⟩ := portDefinition_cases ht
        rw [hasking]
        exact ⟨nofun, nofun⟩
  obtain ⟨hdrained, hstranded⟩ | ⟨halone, hcounted⟩ := hstuck
  · exact .inl ⟨hkeep.1 hdrained hstranded, hon.stranded hstranded⟩
  · exact .inr ⟨hkeep.2 halone hcounted, hon.stopCall hcounted⟩

theorem threadRun_ended (ht : s.threadRun = some t) (hended : t.reconfig = .ended) :
    s.outputStop = true := by
  unfold threadRun at ht
  cases hr : s.reconfig <;> simp only [hr] at ht
  case idle =>
    obtain rfl := Option.some.inj ht
    by_contra hstop
    simp [hstop] at hended
  case running =>
    obtain rfl := Option.some.inj ht
    simp only at hended
    split at hended <;> cases hended
  case waiting =>
    obtain rfl := Option.some.inj ht
    simp only at hended
    split at hended <;> cases hended
  case sawCalls | draining | rebuilding =>
    split_ifs at ht <;> obtain rfl := Option.some.inj ht <;> cases hended
  case asking | ended => cases ht
  all_goals
    obtain rfl := Option.some.inj ht
    cases hended

/-- `ThreadRun` ends only after a stop. -/
theorem ended_step : lts.TrInv fun s => s.reconfig = .ended → s.outputStop = true := by
  intro s a t ht hs hended
  have hon := onward_step ht
  have ht : step s a = some t := ht
  obtain hsame | rfl | ⟨count, rfl⟩ := hon.reconfig
  · exact hon.outputStop (hs (hsame ▸ hended))
  · unfold step at ht
    split at ht
    · cases ht
    · have hstop := threadRun_ended (s := s) ht hended
      exact hon.outputStop hstop
  · unfold step at ht
    split at ht
    · cases ht
    · obtain ⟨-, rfl⟩ := portDefinition_cases ht
      cases hended

theorem pending_of_run (h : lts.MTr (start n) as s) (hflag : s.bPortReconfig = true)
    (hstop : s.outputStop = false) (hrunning : s.aborted = .none) (hfault : ¬ s.AtFault)
    (hstuck : ¬ s.Stuck) : s.Pending := by
  simp only [Stuck, not_or, not_and, not_not] at hstuck
  refine ⟨LTS.inv_of_mTr inv_step h inv_start, hflag, hstop, hrunning, hfault, fun hr => ?_,
    fun hr => by simpa using hstuck.2 hr, hstuck.1⟩
  have hended := LTS.inv_of_mTr ended_step h nofun hr
  rw [hstop] at hended
  cases hended

/-- From any point of any run: a reconfiguration that was asked for can still be carried out, unless a
header that the component refused is waited for, or a `StopCodec` came in between that waits for it. -/
theorem run_canReconfigure_iff (h : LTS.run step (start n) as = some s) (hflag : s.bPortReconfig = true)
    (hstop : s.outputStop = false) (hrunning : s.aborted = .none) (hfault : ¬ s.AtFault) :
    s.CanReconfigure ↔ ¬ s.Stuck := by
  have hrun := LTS.mTr_ofStep_iff.mpr h
  constructor
  · rintro ⟨bs, t, ht, hend⟩ hstuck
    obtain ⟨-, ⟨hdrained, -⟩ | ⟨halone, -⟩⟩ := LTS.inv_of_mTr stuck_step
      (LTS.mTr_ofStep_iff.mpr ht) ⟨LTS.inv_of_mTr inv_step hrun inv_start, hstuck⟩
    · rw [hend] at hdrained
      cases hdrained
    · rw [hend] at halone
      cases halone
  · exact fun hstuck => (pending_of_run hrun hflag hstop hrunning hfault hstuck).canReconfigure

/-- A `StopCodec` with a flush that the settings overtake waits for a thread that waits for it. -/
theorem canReconfigure_stopped :
    ∃ s, LTS.run step (start 1) [.stopCodec true, .stop, .settingsChanged] = some s ∧
      (s.CanReconfigure ↔ ¬ s.Stuck) ∧ s.Stuck := by
  have h : LTS.run step (start 1) [.stopCodec true, .stop, .settingsChanged] = some { start 1 with
      bPortReconfig := true, apiCount := 1, stopCall := .counted true, settings := 1 } := rfl
  exact ⟨_, h, run_canReconfigure_iff h rfl rfl rfl (by simp [AtFault, start]), .inr ⟨rfl, rfl⟩⟩

end OutputPort

end QmmfSdk.Codec
