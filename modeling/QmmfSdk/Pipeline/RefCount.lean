import QmmfSdk.Pipeline.Producer

/-! Reference counting of a producer's buffers over whole runs. -/
namespace QmmfSdk.Pipeline

open Library

namespace Flow

variable {f g : Flow} {a : Action} {as : List Action} {c : ConsumerKey} {h k : IBufferHandle}

/-- The source notifies a handle only while it has it, and a consumer returns only what it was
given. -/
def InContract (f : Flow) : Action → Prop
  | .notifyBuffer h => f.notified.count h = f.returned.count h
  | .notifyBufferReturned c h => (c, h) ∈ f.held
  | _ => True

/-- A notification goes to fewer consumers than a reference count can count. -/
def FitsCount (f : Flow) : Action → Prop
  | .notifyBuffer _ => f.producer.bufferConsumers.size < 2 ^ 32
  | _ => True

instance : Decidable (f.InContract a) :=
  match a with
  | .notifyBuffer _ => inferInstanceAs (Decidable (_ = _))
  | .notifyBufferReturned _ _ => inferInstanceAs (Decidable (_ ∈ _))
  | .onFrameAvailable | .endNotify | .callSource _ | .addConsumer _ | .removeConsumer _ =>
    .isTrue trivial

instance : Decidable (f.FitsCount a) :=
  match a with
  | .notifyBuffer _ => inferInstanceAs (Decidable (_ < _))
  | .notifyBufferReturned _ _ | .onFrameAvailable | .endNotify | .callSource _ | .addConsumer _
  | .removeConsumer _ => .isTrue trivial

/-- Between two calls: each notification was answered or is owed an answer. -/
structure Sound (f : Flow) : Prop where
  tidy : f.Tidy
  once : ∀ h, f.notified.count h = f.owed h

theorem sound_initial : Sound {} := ⟨tidy_initial, fun _ => owed_initial.symm⟩

/-- A handle that the source has is with no consumer. -/
theorem Sound.unreturned_eq_zero (hf : f.Sound) (hcon : f.notified.count h = f.returned.count h) :
    f.unreturned h = 0 ∧ h ∉ f.releasing := by
  have honce := hf.once h
  rw [owed] at honce
  constructor
  · by_contra hne
    rw [if_neg hne] at honce
    omega
  · intro hmem
    have := List.count_pos_iff.mpr hmem
    omega

theorem sound_step : (lts.guarded fun f a => f.InContract a ∧ f.FitsCount a).TrInv Sound := by
  rintro f a g ⟨hstep, hcon, hfit⟩ hf
  have hstep : f.step a = some g := hstep
  by_cases ha : ∃ h, a = .notifyBuffer h
  · obtain ⟨h, rfl⟩ := ha
    obtain ⟨h0, hrel⟩ := hf.unreturned_eq_zero hcon
    have hfit : f.producer.bufferConsumers.size < 2 ^ 32 := hfit
    obtain ⟨htidy, howed⟩ := tidy_notifyBuffer hf.tidy hstep hrel (fun hne => absurd h0 hne)
      (by omega)
    have hnotified : g.notified = f.notified ++ [h] := by
      obtain ⟨-, ⟨-, rfl⟩ | ⟨-, rfl⟩⟩ := notifyBuffer_cases hstep <;> rfl
    refine ⟨htidy, fun k => ?_⟩
    rw [hnotified, howed, List.count_append, hf.once, List.count_singleton]
    simp [h0]
  · have hheld : ∀ c h, a = .notifyBufferReturned c h → (c, h) ∈ f.held := by
      rintro c h rfl
      exact hcon
    obtain ⟨htidy, hnotified, howed⟩ :=
      tidy_step hf.tidy (fun h heq => ha ⟨h, heq⟩) hheld hstep
    refine ⟨htidy, fun k => ?_⟩
    rw [hnotified, howed, hf.once]

/-- Reference counting is exact: the counts are the unreturned deliveries; each notification is
answered once, as soon as nothing of it is unreturned and no answer is under way; and the source
is never called while a consumer holds the buffer. -/
structure Exact (f : Flow) : Prop where
  counted : ∀ h, (f.producer.buffers[h]?.getD 0).toNat = f.unreturned h
  atMostOnce : ∀ h, f.returned.count h ≤ f.notified.count h ∧
    f.notified.count h ≤ f.returned.count h + 1
  answered : ∀ h, f.unreturned h = 0 → h ∉ f.releasing → f.notified.count h = f.returned.count h
  notHeld : ∀ a g h c, f.InContract a → f.step a = some g → g.returned = f.returned ++ [h] →
    (c, h) ∉ f.held ∧ (c, h) ∉ g.held

/-- The source is called for an idle handle only. -/
theorem Sound.source_idle (hf : f.Sound) (hcon : f.InContract a) (hg : f.step a = some g)
    (hr : g.returned = f.returned ++ [h]) : f.unreturned h = 0 ∧ g.held = f.held := by
  cases a with
  | notifyBuffer k =>
    obtain ⟨-, ⟨-, rfl⟩ | ⟨-, rfl⟩⟩ := notifyBuffer_cases hg
    · obtain rfl : k = h := by simpa using hr
      exact ⟨(hf.unreturned_eq_zero hcon).1, rfl⟩
    · simp at hr
  | onFrameAvailable =>
    obtain ⟨_, _, _, -, rfl⟩ := onFrameAvailable_cases hg
    simp at hr
  | endNotify =>
    obtain ⟨_, -, rfl⟩ := endNotify_cases hg
    simp at hr
  | notifyBufferReturned c k =>
    obtain rfl := Option.some.inj hg
    simp [notifyBufferReturned] at hr
  | callSource k =>
    obtain ⟨hmem, rfl⟩ := callSource_cases hg
    obtain rfl : k = h := by simpa using hr
    exact ⟨hf.tidy.idle k hmem, rfl⟩
  | addConsumer c =>
    obtain ⟨p, -, rfl⟩ := withConsumers_cases hg fun p => buffers_addConsumer
    simp at hr
  | removeConsumer c =>
    obtain ⟨p, -, rfl⟩ := withConsumers_cases hg fun p => buffers_removeConsumer
    simp at hr

theorem Sound.exact (hf : f.Sound) : f.Exact := by
  refine ⟨fun h => hf.tidy.counted.getD, fun h => ?_, fun h h0 hrel => ?_,
    fun a g h c hcon hg hr => ?_⟩
  · have honce := hf.once h
    have hone := List.nodup_iff_count.mp hf.tidy.nodup h
    rw [owed] at honce
    by_cases hmem : h ∈ f.releasing
    · rw [if_pos (hf.tidy.idle h hmem)] at honce
      omega
    · rw [List.count_eq_zero_of_not_mem hmem] at honce
      split at honce <;> omega
  · have honce := hf.once h
    rw [owed, if_pos h0, List.count_eq_zero_of_not_mem hrel] at honce
    omega
  · obtain ⟨h0, hheld⟩ := hf.source_idle hcon hg hr
    exact ⟨not_held_of_unreturned h0, hheld ▸ not_held_of_unreturned h0⟩

/-- Whatever consumers come and go and in whatever order buffers come back, reference counting is
exact while every notification goes to fewer than 2^32 consumers. -/
theorem exact_of_fitsCount
    (h : (lts.guarded fun f a => f.InContract a ∧ f.FitsCount a).MTr {} as f) : f.Exact :=
  (LTS.inv_of_mTr sound_step h sound_initial).exact

/-- Consumers 1 and 2 get buffer 7; one returns it inside the call, the other after it was removed,
and the source sends it once more. -/
def removedConsumerRun : List Action :=
  [.addConsumer 1, .addConsumer 2, .notifyBuffer 7, .onFrameAvailable, .notifyBufferReturned 1 7,
    .onFrameAvailable, .endNotify, .removeConsumer 2, .notifyBufferReturned 2 7, .callSource 7,
    .notifyBuffer 7, .onFrameAvailable]

theorem exact_removed_consumer :
    (LTS.run step {} removedConsumerRun).map (fun f => (f.returned, f.unreturned 7)) =
        some ([7], 1) ∧
      ∃ f, (lts.guarded fun f a => f.InContract a ∧ f.FitsCount a).MTr {} removedConsumerRun f ∧
        f.Exact := by
  have hrun : (LTS.run step {} removedConsumerRun).map (fun f => (f.returned, f.unreturned 7)) =
      some ([7], 1) := by decide
  obtain ⟨f, hf, -⟩ := Option.map_eq_some_iff.mp hrun
  have hguard := LTS.mTr_guarded_iff.mpr ⟨hf, (by decide : LTS.Meets step
    (fun f a => f.InContract a ∧ f.FitsCount a) {} removedConsumerRun)⟩
  exact ⟨hrun, f, hguard, exact_of_fitsCount hguard⟩

/-- Adding `n` consumers, one after the other, from the key `m` on. -/
def addConsumers (m n : Nat) : List Action :=
  (List.range' m n).map fun i => .addConsumer (.ofNat i)

/-- New consumers are all counted. -/
theorem mTr_addConsumers {m n : Nat} (hm : 0 < m) (hn : m + n ≤ 2 ^ 64)
    (hfree : f.notifying = none) (hold : ∀ c ∈ f.producer.bufferConsumers, c.toNat < m) :
    ∃ cs : OrdMap ConsumerKey Unit, cs.size = f.producer.bufferConsumers.size + n ∧
      ∀ as g, (lts.guarded InContract).MTr
          { f with producer := { f.producer with bufferConsumers := cs } } as g →
        (lts.guarded InContract).MTr f (addConsumers m n ++ as) g := by
  induction n generalizing f m with
  | zero => exact ⟨f.producer.bufferConsumers, rfl, fun as g h => h⟩
  | succ n ih =>
    have htoNat : (UInt64.ofNat m).toNat = m := by
      simp
      omega
    have hne : UInt64.ofNat m ≠ 0 := by
      intro h0
      rw [h0] at htoNat
      simp at htoNat
      omega
    have hnew : UInt64.ofNat m ∉ f.producer.bufferConsumers := by
      intro hmem
      have := hold _ hmem
      omega
    set f' : Flow := { f with producer := { f.producer with
      bufferConsumers := f.producer.bufferConsumers.insertIfNew (.ofNat m) () } } with hf'
    have hstep : f.step (.addConsumer (.ofNat m)) = some f' := by
      simp [step, withConsumers, hfree, BufferProducer.addConsumer, hne, hf']
    have hold' : ∀ c ∈ f'.producer.bufferConsumers, c.toNat < m + 1 := by
      intro c hc
      rcases Std.ExtTreeMap.mem_insertIfNew.mp hc with heq | hmem
      · rw [← Std.LawfulEqCmp.eq_of_compare heq, htoNat]
        omega
      · have := hold c hmem
        omega
    obtain ⟨cs, hsize, hrun⟩ := ih (f := f') (Nat.succ_pos m) (by omega) hfree hold'
    refine ⟨cs, ?_, fun as g h => ?_⟩
    · rw [hsize]
      simp only [hf', Std.ExtTreeMap.size_insertIfNew, if_neg hnew]
      omega
    · exact .stepL ⟨hstep, trivial⟩ (hrun as g h)

/-- With 2^32 consumers the count of a notified buffer wraps to zero. -/
theorem count_wraps_at_many_consumers :
    ¬ ∀ (as : List Action) (f : Flow), (lts.guarded InContract).MTr {} as f → f.Exact := by
  intro hall
  obtain ⟨cs, hsize, hrun⟩ := mTr_addConsumers (f := {}) (m := 1) (n := 2 ^ 32) (by decide)
    (by decide) rfl (by simp)
  have hsome : cs.isEmpty = false := by
    simp [Std.ExtTreeMap.isEmpty_eq_size_beq_zero, hsize]
  set f : Flow := { producer := { bufferConsumers := cs } }
  have hstep : f.step (.notifyBuffer 7) = some
      { f with producer := (f.producer.notifyBuffer 7).1, notifying := some (7, cs.keys),
               notified := [7] } := by
    simp [step, notifyBuffer, BufferProducer.notifyBuffer, f, hsome]
  have hexact := hall _ _ (hrun [.notifyBuffer 7] _ (.stepL ⟨hstep, rfl⟩ .refl))
  have hcount := hexact.counted 7
  simp only [BufferProducer.buffers_notifyBuffer (p := f.producer) hsome] at hcount
  simp [f, unreturned, due, heldOf, hsize] at hcount

end Flow

end QmmfSdk.Pipeline
