import QmmfSdk.Codec.OutputPort

/-! Where the buffers are that `DeliverOutput` took from the sink. -/
namespace QmmfSdk.Codec

open Library

namespace OutputPort

variable {s t : OutputPort} {a : Action} {as : List Action} {h : OutHeader} {n : Nat}

/-- The buffers that the codec has, by whoever has them. -/
def held (s : OutputPort) : List Int32 :=
  s.deliver.buffer.toList ++ s.component.map s.handle ++
    s.callbacks.map (FillBufferDone.buffer s.handle) ++ s.stranded.map s.handle

structure Books (s : OutputPort) : Prop where
  inv : s.Inv
  label : ∀ b h, s.deliver.buffer = some b → s.deliver.header = some h → s.handle h = b
  balance : s.taken.Perm (s.returned ++ s.held ++ s.kept)

theorem books_start : Books (start n) := ⟨inv_start, nofun, .nil⟩

theorem map_update {l : List OutHeader} {handle : OutHeader → Int32} {b : Int32} (hh : h ∉ l) :
    l.map (Function.update handle h b) = l.map handle :=
  List.map_congr_left fun _ hk => Function.update_of_ne (ne_of_mem_of_not_mem hk hh) _ _

theorem map_buffer_update {l : List FillBufferDone} {handle : OutHeader → Int32} {b : Int32}
    (hh : h ∉ l.filterMap FillBufferDone.header) :
    l.map (FillBufferDone.buffer (Function.update handle h b)) =
      l.map (FillBufferDone.buffer handle) := by
  refine List.map_congr_left fun c hc => ?_
  cases c with
  | updating k eos =>
    refine Function.update_of_ne (fun heq => hh ?_) _ _
    exact List.mem_filterMap.mpr ⟨_, hc, heq ▸ rfl⟩
  | updated | stopping | returning => rfl

/-- A step from line to line keeps the thread's buffer. -/
theorem Books.move (hs : s.Books) (ht : s.deliverOutput = some t)
    (hbuffer : t.deliver.buffer = s.deliver.buffer) (hheader : t.deliver.header = none ∨
      t.deliver.header = s.deliver.header) (hsame : t.handle = s.handle ∧
      t.component = s.component ∧ t.callbacks = s.callbacks ∧ t.stranded = s.stranded ∧
      t.taken = s.taken ∧ t.returned = s.returned ∧ t.kept = s.kept) : t.Books := by
  obtain ⟨hhandle, hcomponent, hcallbacks, hstranded, htaken, hreturned, hkept⟩ := hsame
  refine ⟨inv_deliverOutput hs.inv ht, fun b h hb hh => ?_, ?_⟩
  · rw [hhandle]
    obtain hnone | hheader := hheader
    · rw [hnone] at hh
      cases hh
    · exact hs.label b h (hbuffer ▸ hb) (hheader ▸ hh)
  · simp only [held, hbuffer, hhandle, hcomponent, hcallbacks, hstranded, htaken, hreturned, hkept]
    exact hs.balance

theorem books_deliverOutput (hs : s.Books) (ht : s.deliverOutput = some t) : t.Books := by
  have hstep := ht
  unfold deliverOutput at ht
  cases hd : s.deliver with
  | top | sawReconfig | gotHeader | running | leftLoop =>
    simp only [hd, Option.some.injEq] at ht
    subst ht
    refine hs.move hstep ?_ ?_ ⟨rfl, rfl, rfl, rfl, rfl, rfl, rfl⟩ <;> split <;>
      simp [hd, DeliverOutput.buffer, DeliverOutput.header]
  | looked | updating =>
    simp only [hd, Option.some.injEq] at ht
    subst ht
    exact hs.move hstep (by rw [hd]; rfl) (.inl rfl) ⟨rfl, rfl, rfl, rfl, rfl, rfl, rfl⟩
  | leaving ends =>
    simp only [hd, Option.some.injEq] at ht
    subst ht
    refine hs.move hstep ?_ ?_ ⟨rfl, rfl, rfl, rfl, rfl, rfl, rfl⟩ <;> cases ends <;>
      simp [hd, DeliverOutput.buffer, DeliverOutput.header]
  | waiting | noHeader | noBuffer =>
    simp only [hd] at ht
    split_ifs at ht <;> obtain rfl := Option.some.inj ht <;>
      exact hs.move hstep (by simp [hd, DeliverOutput.buffer]) (.inl rfl)
        ⟨rfl, rfl, rfl, rfl, rfl, rfl, rfl⟩
  | taking buffer =>
    simp only [hd] at ht
    split at ht
    · obtain rfl := Option.some.inj ht
      exact hs.move hstep (by rw [hd]) (.inl rfl) ⟨rfl, rfl, rfl, rfl, rfl, rfl, rfl⟩
    · next h free hfree =>
      obtain rfl := Option.some.inj ht
      refine ⟨inv_deliverOutput hs.inv hstep, fun b k hb hk => ?_, ?_⟩
      · obtain rfl := Option.some.inj hb
        obtain rfl := Option.some.inj hk
        exact Function.update_self ..
      · -- a header that is free is nobody's
        have hfresh : h ∉ s.inUse := fun hin =>
          (List.nodup_append.mp hs.inv.nodup).2.2 h (by simp [hfree]) h
            (hs.inv.used.mem_iff.mpr hin) rfl
        simp only [inUse, hd, DeliverOutput.header, Option.toList_none, List.nil_append,
          List.mem_append, not_or] at hfresh
        have hbalance := hs.balance
        simp only [held, hd, DeliverOutput.buffer] at hbalance ⊢
        rwa [map_update hfresh.1.1, map_buffer_update hfresh.1.2, map_update hfresh.2]
  | returning buffer ends =>
    simp only [hd, Option.some.injEq] at ht
    subst ht
    refine ⟨inv_deliverOutput hs.inv hstep, by simp [DeliverOutput.buffer], hs.balance.trans ?_⟩
    simp only [held, hd, DeliverOutput.buffer, Option.toList_some, Option.toList_none,
      List.nil_append, List.cons_append, List.append_assoc]
    exact List.perm_middle
  | counted | filling | ended => simp [hd] at ht

theorem books_getBuffer {reply : SinkReply} (hs : s.Books) (ht : s.getBuffer reply = some t) :
    t.Books := by
  have hstep := ht
  obtain ⟨hd, d, taken, hheader, -, -, rfl, hcase⟩ := getBuffer_cases ht
  refine ⟨inv_getBuffer hs.inv hstep, fun b h _ hh => ?_, ?_⟩
  · simp only [hheader] at hh
    cases hh
  · have hbalance := hs.balance
    have hnothing : s.deliver.buffer = none := by rw [hd]; rfl
    simp only [held, hnothing, Option.toList_none, List.nil_append] at hbalance ⊢
    obtain ⟨hnone, rfl⟩ | ⟨fd, hsome, rfl⟩ := hcase
    · simpa only [hnone, Option.toList_none, List.nil_append] using hbalance
    · simp only [hsome, Option.toList_some, List.cons_append, List.nil_append, List.append_assoc]
        at hbalance ⊢
      exact (hbalance.cons fd).trans List.perm_middle.symm

theorem books_fillThisBuffer {accepted : Bool} (hs : s.Books)
    (ht : s.fillThisBuffer accepted = some t) : t.Books := by
  have hstep := ht
  obtain ⟨buffer, h, hd, hcase⟩ := fillThisBuffer_cases ht
  have hlabel := hs.label buffer h (by rw [hd]; rfl) (by rw [hd]; rfl)
  have hbalance := hs.balance
  simp only [held, hd, DeliverOutput.buffer, Option.toList_some, List.cons_append,
    List.nil_append] at hbalance
  obtain ⟨-, rfl⟩ | ⟨-, rfl⟩ := hcase <;>
    refine ⟨inv_fillThisBuffer hs.inv hstep, nofun, hbalance.trans ?_⟩ <;>
    simp only [held, DeliverOutput.buffer, Option.toList_none, List.map_cons, hlabel,
      List.nil_append]
  · rfl
  · refine List.Perm.append_right _ (List.Perm.append_left _ ?_)
    exact List.perm_middle.symm

theorem books_fillBufferDone {eos : Bool} (hs : s.Books) (ht : s.fillBufferDone h eos = some t) :
    t.Books := by
  have hstep := ht
  obtain ⟨hh, rfl⟩ := fillBufferDone_cases ht
  refine ⟨inv_fillBufferDone hs.inv hstep, hs.label, hs.balance.trans ?_⟩
  refine List.Perm.append_right _ (List.Perm.append_left _ (List.Perm.append_right _ ?_))
  simp only [List.map_cons, FillBufferDone.buffer, List.append_assoc]
  refine List.Perm.append_left _ ?_
  exact (((List.perm_cons_erase hh).map s.handle).append_right _).trans List.perm_middle.symm

theorem perm_held {c : FillBufferDone} {rest : List FillBufferDone}
    (h : s.callbacks.Perm (c :: rest)) :
    s.held.Perm (c.buffer s.handle :: held { s with callbacks := rest }) := by
  refine (((h.map _).append_left _).append_right _).trans ?_
  rw [List.map_cons, List.append_assoc (_ ++ _), List.cons_append]
  refine List.perm_middle.trans ?_
  rw [← List.append_assoc]
  rfl

theorem held_cons (s : OutputPort) (c : FillBufferDone) (rest : List FillBufferDone) :
    (c.buffer s.handle :: held { s with callbacks := rest }).Perm
      (held { s with callbacks := c :: rest }) :=
  (perm_held (s := { s with callbacks := c :: rest }) (.refl _)).symm

theorem books_callback {c : FillBufferDone} (hs : s.Books) (ht : s.callback c = some t) :
    t.Books := by
  have hinv := inv_callback hs.inv ht
  obtain ⟨hc, hcase⟩ := callback_cases ht
  have hall := hs.balance.trans (((perm_held (List.perm_cons_erase hc)).append_left _).append_right _)
  obtain ⟨h, eos, rfl, rfl⟩ | ⟨b, eos, rfl, -, rfl⟩ | ⟨b, eos, rfl, -, rfl⟩ | ⟨b, rfl, rfl⟩ |
    ⟨b, rfl, rfl⟩ := hcase
  · refine ⟨hinv, hs.label, hall.trans ?_⟩
    exact ((held_cons s (.updated _ eos) _).append_left _).append_right _
  · -- the buffer stays with the codec
    refine ⟨hinv, hs.label, hall.trans ?_⟩
    rw [List.append_assoc, List.cons_append]
    refine List.perm_middle.trans ?_
    rw [← List.append_assoc]
    exact List.perm_middle.symm
  · refine ⟨hinv, hs.label, hall.trans ?_⟩
    refine List.Perm.append_right _ (List.Perm.append_left _ ?_)
    cases eos
    · exact held_cons s (.returning b) _
    · exact held_cons s (.stopping b) _
  · refine ⟨hinv, hs.label, hall.trans ?_⟩
    exact ((held_cons s (.returning b) _).append_left _).append_right _
  · refine ⟨hinv, hs.label, hall.trans ?_⟩
    exact List.perm_middle.append_right _

theorem books_step : lts.TrInv Books := by
  intro s a t ht hs
  have hinv : t.Inv := inv_step s a t ht hs.inv
  have ht : s.step a = some t := ht
  unfold step at ht
  split at ht
  · cases ht
  cases a with
  | deliverOutput => exact books_deliverOutput hs ht
  | getBuffer reply => exact books_getBuffer hs ht
  | fillThisBuffer accepted => exact books_fillThisBuffer hs ht
  | fillBufferDone h eos => exact books_fillBufferDone hs ht
  | callback c => exact books_callback hs ht
  | timedOut =>
    obtain ⟨buffer, counter, hd, -, -, -, rfl⟩ := timedOut_cases ht
    refine ⟨hinv, nofun, ?_⟩
    have hbalance := hs.balance
    rwa [held, hd] at hbalance
  | threadRun =>
    rw [threadRun_frame ht] at hinv ⊢
    exact ⟨hinv, hs.label, hs.balance⟩
  | commandFails =>
    obtain ⟨-, rfl⟩ := commandFails_cases ht
    exact ⟨hinv, hs.label, hs.balance⟩
  | portDefinition count =>
    obtain ⟨-, rfl⟩ := portDefinition_cases ht
    exact ⟨hinv, hs.label, hs.balance⟩
  | settingsChanged =>
    obtain rfl := Option.some.inj ht
    exact ⟨hinv, hs.label, hs.balance⟩
  | look =>
    obtain ⟨-, ht⟩ := Option.ite_none_left_eq_some.mp ht
    obtain rfl := Option.some.inj ht
    exact ⟨hinv, hs.label, hs.balance⟩
  | count | done | stopCodec doFlush =>
    obtain ⟨-, ht⟩ := Option.ite_none_right_eq_some.mp ht
    obtain rfl := Option.some.inj ht
    exact ⟨hinv, hs.label, hs.balance⟩
  | stop =>
    obtain ⟨f, -, rfl⟩ | ⟨f, -, rfl⟩ | ⟨-, -, -, rfl⟩ := stop_cases ht <;>
      exact ⟨hinv, hs.label, hs.balance⟩

/-- A port that is not told of new settings keeps nothing back. -/
theorem unreconfigured_step : (lts.guarded fun _ a => a ≠ .settingsChanged).TrInv fun s =>
    s.bPortReconfig = false ∧ s.kept = [] := by
  rintro s a t ⟨ht, ha⟩ ⟨hflag, hkept⟩
  have ht : s.step a = some t := ht
  unfold step at ht
  split at ht
  · cases ht
  cases a with
  | settingsChanged => exact absurd rfl ha
  | callback c =>
    obtain ⟨-, ⟨h, eos, rfl, rfl⟩ | ⟨b, eos, rfl, hup, rfl⟩ | ⟨b, eos, rfl, -, rfl⟩ |
      ⟨b, rfl, rfl⟩ | ⟨b, rfl, rfl⟩⟩ := callback_cases ht
    · exact ⟨hflag, hkept⟩
    · exact absurd hup (by simp [hflag])
    all_goals exact ⟨hflag, hkept⟩
  | deliverOutput =>
    rw [deliverOutput_frame ht]
    exact ⟨hflag, hkept⟩
  | getBuffer reply =>
    obtain ⟨-, d, taken, -, -, -, rfl, -⟩ := getBuffer_cases ht
    exact ⟨hflag, hkept⟩
  | timedOut =>
    obtain ⟨buffer, counter, -, -, -, -, rfl⟩ := timedOut_cases ht
    exact ⟨hflag, hkept⟩
  | fillThisBuffer accepted =>
    obtain ⟨buffer, h, -, ⟨-, rfl⟩ | ⟨-, rfl⟩⟩ := fillThisBuffer_cases ht <;> exact ⟨hflag, hkept⟩
  | fillBufferDone h eos =>
    obtain ⟨-, rfl⟩ := fillBufferDone_cases ht
    exact ⟨hflag, hkept⟩
  | threadRun =>
    refine ⟨?_, by rw [threadRun_frame ht]; exact hkept⟩
    obtain hsame | ⟨hdown, -⟩ := threadRun_flag ht
    · exact hsame.trans hflag
    · exact hdown
  | commandFails =>
    obtain ⟨-, rfl⟩ := commandFails_cases ht
    exact ⟨hflag, hkept⟩
  | portDefinition count =>
    obtain ⟨-, rfl⟩ := portDefinition_cases ht
    exact ⟨hflag, hkept⟩
  | look =>
    obtain ⟨-, ht⟩ := Option.ite_none_left_eq_some.mp ht
    exact Option.some.inj ht ▸ ⟨hflag, hkept⟩
  | count | done | stopCodec doFlush =>
    obtain ⟨-, ht⟩ := Option.ite_none_right_eq_some.mp ht
    exact Option.some.inj ht ▸ ⟨hflag, hkept⟩
  | stop =>
    obtain ⟨f, -, rfl⟩ | ⟨f, -, rfl⟩ | ⟨-, -, -, rfl⟩ := stop_cases ht <;> exact ⟨hflag, hkept⟩

/-- Every buffer that the sink gave was given back once, is with the codec, or came out while the port
was reconfigured and was kept; without new settings none is. -/
theorem run_buffers_accounted (h : lts.MTr (start n) as s) :
    s.taken.Perm (s.returned ++ s.held ++ s.kept) ∧
      (.settingsChanged ∉ as → s.kept = []) := by
  refine ⟨(LTS.inv_of_mTr books_step h books_start).balance, fun hcalm => ?_⟩
  have hrun := LTS.mTr_guarded_of_forall (G := fun _ a => a ≠ .settingsChanged) h
    fun a ha _ heq => hcalm (heq ▸ ha)
  exact (LTS.inv_of_mTr unreconfigured_step hrun ⟨rfl, rfl⟩).2

theorem buffers_accounted_reconfigured : ∃ s, LTS.run step (start 1) reconfigured = some s ∧
    s.taken.Perm (s.returned ++ s.held ++ s.kept) := by
  have hsome : (LTS.run step (start 1) reconfigured).isSome := by decide
  obtain ⟨s, hs⟩ := Option.isSome_iff_exists.mp hsome
  exact ⟨s, hs, (run_buffers_accounted (LTS.mTr_ofStep_iff.mpr hs)).1⟩

end OutputPort

end QmmfSdk.Codec
