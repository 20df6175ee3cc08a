import QmmfSdk.Codec.PortReconfig

/-! What the threads of the output port need from their surroundings, and the look at the flag that is
no protection. -/
namespace QmmfSdk.Codec

open Library

/-- One more timeout is too many. -/
def DeliverOutput.isLastWait : DeliverOutput → Bool
  | .waiting _ counter => counter + 1 == kMaxWaitLimitCounter
  | _ => false

namespace OutputPort

variable {s t : OutputPort} {a : Action} {as : List Action} {h : OutHeader} {n : Nat}

/-- The settings change neither between the look of `DeliverOutput` and its `api_count_++`, nor after
`PortReconfigOutput` has asked for them, nor once the output is stopped; it is not stopped while the port
is to be reconfigured. The sink gives no empty buffer before the stop, headers come back in time, and the
commands of `PortReconfigOutput` succeed. -/
def Orderly (s : OutputPort) : Action → Prop
  | .settingsChanged => s.deliver ≠ .looked ∧ s.outputStop = false ∧
      (s.reconfig.isDrained = true → s.reconfig = .freeing ∨ s.reconfig = .asking)
  | .callback (.stopping _) => s.bPortReconfig = false
  | .stop => s.stopCall = .counted false → s.bPortReconfig = false
  | .getBuffer .noData => s.outputStop = true
  | .timedOut => s.deliver.isLastWait = false
  | .commandFails => False
  | _ => True

instance : (s : OutputPort) → (a : Action) → Decidable (Orderly s a)
  | s, .settingsChanged => inferInstanceAs (Decidable (s.deliver ≠ .looked ∧ s.outputStop = false ∧
      (s.reconfig.isDrained = true → s.reconfig = .freeing ∨ s.reconfig = .asking)))
  | s, .callback (.stopping _) => inferInstanceAs (Decidable (s.bPortReconfig = false))
  | s, .stop => inferInstanceAs (Decidable (s.stopCall = .counted false → s.bPortReconfig = false))
  | s, .getBuffer .noData => inferInstanceAs (Decidable (s.outputStop = true))
  | s, .timedOut => inferInstanceAs (Decidable (s.deliver.isLastWait = false))
  | _, .commandFails => .isFalse id
  | _, .deliverOutput | _, .getBuffer .failed | _, .getBuffer (.buffer _) | _, .fillThisBuffer _
  | _, .threadRun | _, .portDefinition _ | _, .fillBufferDone .. | _, .callback (.updating ..)
  | _, .callback (.updated ..) | _, .callback (.returning _) | _, .look | _, .count | _, .done
  | _, .stopCodec _ => .isTrue trivial

/-- What each line of `DeliverOutput` may rely on. -/
def AtLine (s : OutputPort) : Prop :=
  match s.deliver with
  | .looked => s.bPortReconfig = false
  | .waiting _ counter => counter < kMaxWaitLimitCounter
  | .leftLoop _ => s.bPortReconfig = true ∨ s.freeOutput ≠ []
  | .taking _ => s.freeOutput ≠ []
  | .noHeader _ => s.bPortReconfig = true
  | .noBuffer => s.outputStop = true
  | _ => True

/-- A header that comes back takes nothing from the line `DeliverOutput` is at. -/
theorem AtLine.mono (hs : s.AtLine) (hsame : t.deliver = s.deliver ∧
    t.bPortReconfig = s.bPortReconfig ∧ t.outputStop = s.outputStop)
    (hfree : s.freeOutput ≠ [] → t.freeOutput ≠ []) : t.AtLine := by
  obtain ⟨hd, hflag, hstop⟩ := hsame
  unfold AtLine at hs ⊢
  rw [hd, hflag, hstop]
  cases hd : s.deliver <;> simp only [hd] at hs ⊢
  · exact hs
  · exact hs
  · exact hs.imp_right hfree
  · exact hfree hs
  · exact hs
  · exact hs

structure Calm (s : OutputPort) : Prop where
  inv : s.Inv
  running : s.aborted = .none
  goesOn : s.bPortReconfig = true → s.outputStop = false
  alone : s.reconfig.isAlone = true → s.deliver.isCounted = false
  line : s.AtLine
  asked : s.reconfig.isDrained = true → s.reconfig = .freeing ∨ s.reconfig = .asking ∨
    s.configured = s.settings
  current : s.bPortReconfig = false → s.configured = s.settings

theorem calm_start : Calm (start n) :=
  ⟨inv_start, rfl, nofun, nofun, trivial, nofun, fun _ => rfl⟩

/-- A step that leaves the flag, the stop, the settings and `ThreadRun` as they are. -/
theorem Calm.stay (hs : s.Calm) (hinv : t.Inv)
    (hsame : t.aborted = s.aborted ∧ t.bPortReconfig = s.bPortReconfig ∧
      t.outputStop = s.outputStop ∧ t.reconfig = s.reconfig ∧ t.configured = s.configured ∧
      t.settings = s.settings)
    (halone : s.reconfig.isAlone = true → t.deliver.isCounted = false) (hline : t.AtLine) :
    t.Calm := by
  obtain ⟨haborted, hflag, hstop, hr, hconfigured, hsettings⟩ := hsame
  exact ⟨hinv, haborted.trans hs.running, hflag ▸ hstop ▸ hs.goesOn, hr ▸ halone, hline,
    hr ▸ hconfigured ▸ hsettings ▸ hs.asked, hflag ▸ hconfigured ▸ hsettings ▸ hs.current⟩

theorem calm_deliverOutput (hs : s.Calm) (ht : s.deliverOutput = some t) : t.Calm := by
  have hinv := inv_deliverOutput hs.inv ht
  have hline := hs.line
  have halone := hs.alone
  unfold AtLine at hline
  unfold deliverOutput at ht
  cases hd : s.deliver with
  | top =>
    simp only [hd, Option.some.injEq] at ht
    subst ht
    refine hs.stay hinv ⟨rfl, rfl, rfl, rfl, rfl, rfl⟩ (fun _ => by split <;> rfl) ?_
    split
    · trivial
    · next hflag => simpa [AtLine] using hflag
  | sawReconfig =>
    simp only [hd, Option.some.injEq] at ht
    subst ht
    refine hs.stay hinv ⟨rfl, rfl, rfl, rfl, rfl, rfl⟩ (fun _ => by split <;> rfl) ?_
    split
    · next hstop =>
      -- a stopped output is not to be reconfigured
      show s.bPortReconfig = false
      by_contra hflag
      rw [hs.goesOn (by simpa using hflag)] at hstop
      cases hstop
    · trivial
  | looked =>
    simp only [hd] at hline
    simp only [hd, Option.some.injEq] at ht
    subst ht
    refine hs.stay hinv ⟨rfl, rfl, rfl, rfl, rfl, rfl⟩ (fun h => ?_) trivial
    rw [hs.inv.flag (isAlone_inReconfig h)] at hline
    cases hline
  | waiting b counter =>
    simp only [hd] at hline
    rw [hd] at halone
    simp only [hd, if_neg (Nat.ne_of_lt hline)] at ht
    obtain ⟨hready, ht⟩ := Option.ite_none_right_eq_some.mp ht
    obtain rfl := Option.some.inj ht
    exact hs.stay hinv ⟨rfl, rfl, rfl, rfl, rfl, rfl⟩ halone hready.symm
  | leftLoop b =>
    simp only [hd] at hline
    rw [hd] at halone
    simp only [hd, Option.some.injEq] at ht
    subst ht
    refine hs.stay hinv ⟨rfl, rfl, rfl, rfl, rfl, rfl⟩ (fun h => ?_) ?_
    · cases halone h
    · split
      · next hflag => exact hflag
      · next hflag => exact hline.resolve_left hflag
  | taking b =>
    simp only [hd] at hline
    rw [hd] at halone
    obtain ⟨h, free, hfree⟩ := List.exists_cons_of_ne_nil hline
    simp only [hd, hfree, Option.some.injEq] at ht
    subst ht
    exact hs.stay hinv ⟨rfl, rfl, rfl, rfl, rfl, rfl⟩ halone trivial
  | noHeader b =>
    simp only [hd] at hline
    rw [hd] at halone
    simp only [hd, if_pos hline, Option.some.injEq] at ht
    subst ht
    exact hs.stay hinv ⟨rfl, rfl, rfl, rfl, rfl, rfl⟩ halone trivial
  | noBuffer =>
    simp only [hd] at hline
    rw [hd] at halone
    simp only [hd, if_pos hline, Option.some.injEq] at ht
    subst ht
    exact hs.stay hinv ⟨rfl, rfl, rfl, rfl, rfl, rfl⟩ halone trivial
  | gotHeader b h | running b h =>
    rw [hd] at halone
    simp only [hd, Option.some.injEq] at ht
    subst ht
    refine hs.stay hinv ⟨rfl, rfl, rfl, rfl, rfl, rfl⟩ (fun h => ?_) (by split <;> trivial)
    cases halone h
  | updating b h ends | returning b ends =>
    rw [hd] at halone
    simp only [hd, Option.some.injEq] at ht
    subst ht
    exact hs.stay hinv ⟨rfl, rfl, rfl, rfl, rfl, rfl⟩ halone trivial
  | leaving ends =>
    simp only [hd, Option.some.injEq] at ht
    subst ht
    cases ends <;> exact hs.stay hinv ⟨rfl, rfl, rfl, rfl, rfl, rfl⟩ (fun _ => rfl) trivial
  | counted | filling | ended => simp [hd] at ht

theorem calm_threadRun (hs : s.Calm) (ht : s.threadRun = some t) : t.Calm := by
  have hinv := inv_threadRun hs.inv ht
  have hline := hs.line
  have halone := hs.alone
  have hasked := hs.asked
  unfold threadRun at ht
  cases hr : s.reconfig with
  | idle =>
    simp only [hr, Option.some.injEq] at ht
    subst ht
    refine ⟨hinv, hs.running, hs.goesOn, fun h => ?_, hline, fun h => ?_, hs.current⟩ <;>
      split at h <;> cases h
  | running =>
    simp only [hr, Option.some.injEq] at ht
    subst ht
    refine ⟨hinv, hs.running, hs.goesOn, fun h => ?_, hline, fun h => ?_, hs.current⟩ <;>
      split at h <;> cases h
  | waiting =>
    simp only [hr, Option.some.injEq] at ht
    subst ht
    refine ⟨hinv, hs.running, hs.goesOn, fun h => ?_, hline, fun h => ?_, hs.current⟩
    · have hcount := hs.inv.count
      cases hc : s.deliver.isCounted
      · rfl
      · rw [hc, Bool.toNat_true] at hcount
        simp only [show 0 < s.apiCount by omega, if_true] at h
        cases h
    · split at h <;> cases h
  | sawCalls =>
    -- the output is not stopped while the port is to be reconfigured
    have hstop := hs.goesOn (hs.inv.flag (by rw [hr]; rfl))
    simp only [hr, if_neg (show ¬ s.outputStop = true by simp [hstop]), Option.some.injEq] at ht
    subst ht
    exact ⟨hinv, hs.running, hs.goesOn, by simp [ThreadRun.isAlone], hline,
      by simp [ThreadRun.isDrained], hs.current⟩
  | flushing =>
    simp only [hr, Option.some.injEq] at ht
    subst ht
    exact ⟨hinv, hs.running, hs.goesOn, fun _ => halone (by rw [hr]; rfl), hline,
      by simp [ThreadRun.isDrained], hs.current⟩
  | draining =>
    simp only [hr] at ht
    obtain ⟨-, ht⟩ := Option.ite_none_right_eq_some.mp ht
    obtain rfl := Option.some.inj ht
    exact ⟨hinv, hs.running, hs.goesOn, fun _ => halone (by rw [hr]; rfl), hline,
      fun _ => .inl rfl, hs.current⟩
  | freeing =>
    simp only [hr, Option.some.injEq] at ht
    subst ht
    exact ⟨hinv, hs.running, hs.goesOn, fun _ => halone (by rw [hr]; rfl), hline,
      fun _ => .inr (.inl rfl), hs.current⟩
  | rebuilding next =>
    have hnew : s.configured = s.settings := by simpa [hr, ThreadRun.isDrained] using hasked
    have hout := halone (by rw [hr]; rfl)
    simp only [hr] at ht
    split_ifs at ht
    · obtain rfl := Option.some.inj ht
      refine ⟨hinv, hs.running, hs.goesOn, fun _ => hout, ?_, fun _ => .inr (.inr hnew),
        hs.current⟩
      unfold AtLine at hline ⊢
      cases hd : s.deliver <;> simp_all [DeliverOutput.isCounted]
    · obtain rfl := Option.some.inj ht
      exact ⟨hinv, hs.running, hs.goesOn, fun _ => hout, hline, fun _ => .inr (.inr hnew),
        hs.current⟩
  | ending =>
    have hnew : s.configured = s.settings := by simpa [hr, ThreadRun.isDrained] using hasked
    have hout := halone (by rw [hr]; rfl)
    simp only [hr, Option.some.injEq] at ht
    subst ht
    refine ⟨hinv, hs.running, by simp, by simp [ThreadRun.isAlone], ?_,
      by simp [ThreadRun.isDrained], fun _ => hnew⟩
    unfold AtLine at hline ⊢
    cases hd : s.deliver <;> simp_all [DeliverOutput.isCounted]
  | asking | ended => simp [hr] at ht

theorem calm_step : ((lts.guarded Orderly)).TrInv Calm := by
  rintro s a t ⟨ht, horderly⟩ hs
  have hinv : t.Inv := inv_step s a t ht hs.inv
  have hline := hs.line
  have ht : s.step a = some t := ht
  unfold step at ht
  split at ht
  · cases ht
  cases a with
  | deliverOutput => exact calm_deliverOutput hs ht
  | threadRun => exact calm_threadRun hs ht
  | commandFails => exact horderly.elim
  | getBuffer reply =>
    have ht : s.getBuffer reply = some t := ht
    have hcounted : s.reconfig.isAlone = true → False := fun h => by
      have hout := hs.alone h
      rw [(getBuffer_cases ht).1] at hout
      cases hout
    unfold getBuffer at ht
    split at ht
    · obtain rfl := Option.some.inj ht
      exact hs.stay hinv ⟨rfl, rfl, rfl, rfl, rfl, rfl⟩ (fun h => (hcounted h).elim) trivial
    · obtain rfl := Option.some.inj ht
      exact hs.stay hinv ⟨rfl, rfl, rfl, rfl, rfl, rfl⟩ (fun h => (hcounted h).elim) horderly
    · obtain rfl := Option.some.inj ht
      exact hs.stay hinv ⟨rfl, rfl, rfl, rfl, rfl, rfl⟩ (fun h => (hcounted h).elim)
        (show 0 < kMaxWaitLimitCounter by decide)
    · cases ht
  | timedOut =>
    obtain ⟨b, counter, hd, -, -, -, rfl⟩ := timedOut_cases ht
    have hlast : s.deliver.isLastWait = false := horderly
    unfold AtLine at hline
    simp only [hd] at hline
    rw [hd, DeliverOutput.isLastWait, beq_eq_false_iff_ne] at hlast
    refine hs.stay hinv ⟨rfl, rfl, rfl, rfl, rfl, rfl⟩ (fun h => ?_) ?_
    · have hout := hs.alone h
      rw [hd] at hout
      cases hout
    · show counter + 1 < kMaxWaitLimitCounter
      omega
  | fillThisBuffer accepted =>
    obtain ⟨b, h, hd, hcase⟩ := fillThisBuffer_cases ht
    have hcounted : s.reconfig.isAlone = true → False := fun h => by
      have hout := hs.alone h
      rw [hd] at hout
      cases hout
    obtain ⟨-, rfl⟩ | ⟨-, rfl⟩ := hcase <;>
      exact hs.stay hinv ⟨rfl, rfl, rfl, rfl, rfl, rfl⟩ (fun h => (hcounted h).elim) trivial
  | portDefinition count =>
    obtain ⟨hr, rfl⟩ := portDefinition_cases ht
    have hout := hs.alone (by rw [hr]; rfl)
    refine ⟨hinv, hs.running, hs.goesOn, fun _ => hout, ?_, fun _ => .inr (.inr rfl), fun _ => rfl⟩
    unfold AtLine at hline ⊢
    cases hd : s.deliver <;> simp_all [DeliverOutput.isCounted]
  | settingsChanged =>
    obtain ⟨hlooked, hstop, hasking⟩ := horderly
    obtain rfl := Option.some.inj ht
    refine ⟨hinv, hs.running, fun _ => hstop, hs.alone, ?_, fun h => (hasking h).imp_right .inl,
      by simp⟩
    unfold AtLine at hline ⊢
    cases hd : s.deliver <;> simp_all
  | fillBufferDone h eos =>
    obtain ⟨-, rfl⟩ := fillBufferDone_cases ht
    exact hs.stay hinv ⟨rfl, rfl, rfl, rfl, rfl, rfl⟩ hs.alone hline
  | callback c =>
    obtain ⟨-, ⟨h, eos, rfl, rfl⟩ | ⟨b, eos, rfl, -, rfl⟩ | ⟨b, eos, rfl, -, rfl⟩ |
      ⟨b, rfl, rfl⟩ | ⟨b, rfl, rfl⟩⟩ := callback_cases ht
    · exact hs.stay hinv ⟨rfl, rfl, rfl, rfl, rfl, rfl⟩ hs.alone
        (hline.mono ⟨rfl, rfl, rfl⟩ fun _ => by simp [updateBufferHeaderList])
    · exact hs.stay hinv ⟨rfl, rfl, rfl, rfl, rfl, rfl⟩ hs.alone hline
    · exact hs.stay hinv ⟨rfl, rfl, rfl, rfl, rfl, rfl⟩ hs.alone hline
    · have hflag : s.bPortReconfig = false := horderly
      refine ⟨hinv, hs.running, fun h => ?_, hs.alone, ?_, hs.asked, hs.current⟩
      · have h : s.bPortReconfig = true := h
        rw [hflag] at h
        cases h
      · unfold AtLine at hline ⊢
        cases hd : s.deliver <;> simp_all
    · exact hs.stay hinv ⟨rfl, rfl, rfl, rfl, rfl, rfl⟩ hs.alone hline
  | look =>
    obtain ⟨-, ht⟩ := Option.ite_none_left_eq_some.mp ht
    obtain rfl := Option.some.inj ht
    exact hs.stay hinv ⟨rfl, rfl, rfl, rfl, rfl, rfl⟩ hs.alone hline
  | count | done | stopCodec =>
    obtain ⟨-, ht⟩ := Option.ite_none_right_eq_some.mp ht
    obtain rfl := Option.some.inj ht
    exact hs.stay hinv ⟨rfl, rfl, rfl, rfl, rfl, rfl⟩ hs.alone hline
  | stop =>
    obtain ⟨f, hc, rfl⟩ | ⟨f, hc, rfl⟩ | ⟨-, -, -, rfl⟩ := stop_cases ht
    · exact hs.stay hinv ⟨rfl, rfl, rfl, rfl, rfl, rfl⟩ hs.alone hline
    · have hflag : f = false → s.bPortReconfig = false := fun h => horderly (h ▸ hc)
      refine ⟨hinv, hs.running, fun h => ?_, hs.alone, ?_, hs.asked, hs.current⟩
      · have h : s.bPortReconfig = true := h
        cases f
        · rw [hflag rfl] at h
          cases h
        · simpa using hs.goesOn h
      · unfold AtLine at hline ⊢
        cases hd : s.deliver <;> simp_all
    · exact hs.stay hinv ⟨rfl, rfl, rfl, rfl, rfl, rfl⟩ hs.alone hline

/-- In orderly runs no assertion fails, no header is missing, and a port whose flag is down has the
settings of the component. -/
theorem run_orderly_sound (h : LTS.run step (start n) as = some s)
    (hG : LTS.Meets step Orderly (start n) as) :
    s.aborted = .none ∧ (s.bPortReconfig = false → s.configured = s.settings) := by
  have hs := LTS.inv_of_mTr calm_step (LTS.mTr_guarded_iff.mpr ⟨h, hG⟩) calm_start
  exact ⟨hs.running, hs.current⟩

theorem orderly_reconfigured :
    (LTS.run step (start 1) reconfigured).map (·.allocation) = some 1 ∧
      ∃ s, LTS.run step (start 1) reconfigured = some s ∧ s.aborted = .none ∧
        (s.bPortReconfig = false → s.configured = s.settings) := by
  have hsome : (LTS.run step (start 1) reconfigured).isSome := by decide
  obtain ⟨s, hs⟩ := Option.isSome_iff_exists.mp hsome
  exact ⟨by decide, s, hs, run_orderly_sound hs (by decide)⟩

/-- `DeliverOutput` may stand before the look for a null header when `ThreadRun` takes the flag down. -/
theorem fails_of_noHeader {b : Int32} (hs : s.Pending) (hd : s.deliver = .noHeader b)
    (hr : s.reconfig.isAlone = true) :
    ∃ bs t, LTS.run step s bs = some t ∧ t.aborted = some .headerIsNull := by
  obtain ⟨as, t, ht, hpending, hdeliver, hend⟩ := reaches_alone hs hr
  have hdown : step t .threadRun = some { t with bPortReconfig := false, reconfig := .idle } := by
    simp [step, hpending.running, threadRun, hend]
  have hnull : step { t with bPortReconfig := false, reconfig := .idle } .deliverOutput = some
      { t with bPortReconfig := false, reconfig := .idle, aborted := some .headerIsNull } := by
    simp [step, hpending.running, deliverOutput, hdeliver, hd]
  refine ⟨as ++ [.threadRun, .deliverOutput],
    { t with bPortReconfig := false, reconfig := .idle, aborted := some .headerIsNull }, ?_, rfl⟩
  rw [LTS.run_append, ht]
  simp only [Option.bind_some, LTS.run, hdown, hnull]

/-- Past its look, it gets there although the flag is up. -/
theorem reaches_noHeader (hs : s.Pending) (hd : s.deliver = .looked) :
    ∃ bs t b, LTS.run step s bs = some t ∧ t.Pending ∧ t.deliver = .noHeader b ∧
      t.reconfig = s.reconfig := by
  let counted : OutputPort := { s with apiCount := s.apiCount + 1, deliver := .counted }
  let waiting : OutputPort := { counted with taken := 0 :: s.taken, deliver := .waiting 0 0 }
  let left : OutputPort := { waiting with deliver := .leftLoop 0 }
  have hcounted : step s .deliverOutput = some counted := by
    simp [step, hs.running, deliverOutput, hd, counted]
  have hwaiting : step counted (.getBuffer (.buffer 0)) = some waiting := by
    simp [step, hs.running, getBuffer, counted, waiting]
  have hleft : step waiting .deliverOutput = some left := by
    simp [step, hs.running, deliverOutput, hs.flag, counted, waiting, left, kMaxWaitLimitCounter]
  have hnone : step left .deliverOutput = some { left with deliver := .noHeader 0 } := by
    simp [step, hs.running, deliverOutput, hs.flag, counted, waiting, left]
  have hrun : LTS.run step s [.deliverOutput, .getBuffer (.buffer 0), .deliverOutput,
      .deliverOutput] = some { left with deliver := .noHeader 0 } := by
    simp only [LTS.run, hcounted, hwaiting, hleft, hnone, Option.bind_some]
  have hinv := LTS.inv_of_mTr inv_step (LTS.mTr_ofStep_iff.mpr hrun) hs.inv
  exact ⟨_, _, 0, hrun, ⟨hinv, hs.flag, hs.goesOn, hs.running, id, hs.notEnded, hs.noStop,
    hs.complete⟩, rfl, rfl⟩

/-- Nothing makes up for the look at the flag before the count: whenever the settings change between
the two, the threads can go on to the assertion. -/
theorem run_race_fails (h : LTS.run step (start n) as = some s) (hd : s.deliver = .looked)
    (hflag : s.bPortReconfig = true) (hstop : s.outputStop = false) (hrunning : s.aborted = .none)
    (hstuck : ¬ s.Stuck) :
    ∃ bs t, LTS.run step s bs = some t ∧ t.aborted = some .headerIsNull := by
  have hpending := pending_of_run (LTS.mTr_ofStep_iff.mpr h) hflag hstop hrunning
    (by simp [AtFault, hd]) hstuck
  obtain ⟨bs, t, ht, hpending', hd', halone⟩ : ∃ bs t, LTS.run step s bs = some t ∧ t.Pending ∧
      t.deliver = .looked ∧ t.reconfig.isAlone = true := by
    by_cases halone : s.reconfig.isAlone = true
    · exact ⟨[], s, rfl, hpending, hd, halone⟩
    · obtain ⟨bs, t, ht, ⟨ht', hr, hkeep⟩, hzero⟩ := exists_noCalls hpending (by simpa using halone)
      obtain ⟨cs, u, hu, hu', hdeliver, hr'⟩ := reaches_flushing ht' (by rw [hr]; simpa using halone)
        hzero
      refine ⟨bs ++ cs, u, by rw [LTS.run_append, ht]; exact hu, hu', ?_, by rw [hr']; rfl⟩
      rw [hdeliver, hkeep (by rw [hd]; rfl), hd]
  obtain ⟨cs, u, b, hu, hu', hub, hur⟩ := reaches_noHeader hpending' hd'
  obtain ⟨ds, v, hv, hend⟩ := fails_of_noHeader hu' hub (hur ▸ halone)
  refine ⟨bs ++ (cs ++ ds), v, ?_, hend⟩
  rw [LTS.run_append, ht]
  simp only [Option.bind_some]
  rw [LTS.run_append, hu]
  exact hv

theorem race_fails : ∃ s, LTS.run step (start 1) [.deliverOutput, .settingsChanged] = some s ∧
    ∃ bs t, LTS.run step s bs = some t ∧ t.aborted = some .headerIsNull := by
  have h : LTS.run step (start 1) [.deliverOutput, .settingsChanged] =
      some { start 1 with deliver := .looked, bPortReconfig := true, settings := 1 } := rfl
  exact ⟨_, h, run_race_fails h rfl rfl rfl rfl (by simp [Stuck, start, StopCall.isCounted])⟩

end OutputPort

end QmmfSdk.Codec
