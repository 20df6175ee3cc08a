import QmmfSdk.Pipeline.FrameRate

/-! Buffers through the frame-rate controller: when each is returned upstream exactly once. -/
namespace QmmfSdk.Pipeline

open Library

namespace FrcFlow

variable {s t : FrcFlow} {a : Action} {as : List Action} {b : Frame} {n : Nat} {phase : Phase}
  {c : ConsumerKey} {h k : IBufferHandle} {own : Option IBufferHandle} {flow : Flow}

/-- Every buffer given to the controller was dropped, is answered by its producer or owed an
answer, or is `own`: the one that the controller has and has not passed on. -/
structure Balanced (own : Option IBufferHandle) (s : FrcFlow) : Prop where
  tidy : s.flow.Tidy
  accounted : ∀ h, s.given.count h =
    s.flow.owed h + s.dropped.count h + if own = some h then 1 else 0
  fresh : ∀ h, own = some h → s.flow.unreturned h = 0 ∧ h ∉ s.flow.releasing

/-- A buffer that the upstream producer can give is nowhere in the controller. -/
theorem Balanced.give (hs : s.Balanced none) (hcon : s.given.count h = s.upstream h) :
    ({ s with given := s.given ++ [h] } : FrcFlow).Balanced (some h) := by
  have hacc := hs.accounted h
  simp only [Flow.owed, upstream] at hacc hcon
  have h0 : s.flow.unreturned h = 0 := by
    by_contra hne
    simp [hne] at hacc
    omega
  have hrel : h ∉ s.flow.releasing := by
    intro hmem
    have := List.count_pos_iff.mpr hmem
    omega
  refine ⟨hs.tidy, fun k => ?_, ?_⟩
  · have hk := hs.accounted k
    simp only [List.count_append, List.count_singleton]
    by_cases heq : h = k
    · simp [heq] at hk ⊢
      omega
    · simp [heq] at hk ⊢
      exact hk
  · rintro k ⟨⟩
    exact ⟨h0, hrel⟩

theorem Balanced.drop (hs : s.Balanced (some h)) :
    ({ s with dropped := s.dropped ++ [h] } : FrcFlow).Balanced none := by
  refine ⟨hs.tidy, fun k => ?_, by simp⟩
  have hk := hs.accounted k
  simp only [List.count_append, List.count_singleton]
  by_cases heq : h = k
  · simp [heq] at hk ⊢
    omega
  · simp [heq] at hk ⊢
    exact hk

/-- Whatever the producer does without notifying, nothing is lost. -/
theorem Balanced.onFlow (hs : s.Balanced own) (htidy : flow.Tidy)
    (howed : ∀ k, flow.owed k = s.flow.owed k)
    (hown : ∀ h, own = some h → flow.unreturned h = 0 ∧ h ∉ flow.releasing)
    {frc : FrameRateController} {phase : Option Phase} :
    ({ s with frc, flow, phase } : FrcFlow).Balanced own := by
  refine ⟨htidy, fun h => ?_, hown⟩
  simp only [howed]
  exact hs.accounted h

/-- What the controller passes on is its own buffer, or one that some consumer still has. -/
theorem Balanced.send (hs : s.Balanced own)
    (hown : own = some h ∨ (own = none ∧ s.flow.unreturned h ≠ 0 ∧
      s.flow.producer.bufferConsumers.isEmpty = false))
    (hfit : s.flow.unreturned h + s.flow.producer.bufferConsumers.size < 2 ^ 32)
    (ht : s.send h phase = some t) :
    t.Balanced none ∧ t.frc = s.frc ∧ t.phase = some phase ∧
      (t.flow.producer.bufferConsumers.isEmpty = true → t.flow.unreturned h = 0) := by
  obtain ⟨flow, hflow, rfl⟩ := Option.map_eq_some_iff.mp ht
  have hrel : h ∉ s.flow.releasing := by
    rcases hown with rfl | ⟨-, hne, -⟩
    · exact (hs.fresh h rfl).2
    · exact fun hmem => hne (hs.tidy.idle h hmem)
  have hout : s.flow.unreturned h ≠ 0 → s.flow.producer.bufferConsumers.isEmpty = false := by
    intro hne
    rcases hown with rfl | ⟨-, -, hsome⟩
    · exact absurd (hs.fresh h rfl).1 hne
    · exact hsome
  obtain ⟨htidy, howed⟩ := Flow.tidy_notifyBuffer hs.tidy hflow hrel hout hfit
  refine ⟨⟨htidy, fun k => ?_, by simp⟩, rfl, rfl, fun hempty => ?_⟩
  · have hk := hs.accounted k
    simp only [howed]
    rcases hown with rfl | ⟨rfl, hne, -⟩
    · have h0 := (hs.fresh h rfl).1
      by_cases heq : h = k
      · subst heq
        simp [h0] at hk ⊢
        omega
      · simpa [heq] using hk
    · simpa [hne] using hk
  · obtain ⟨-, ⟨he, rfl⟩ | ⟨hsome, rfl⟩⟩ := Flow.notifyBuffer_cases hflow
    · by_contra hne
      simp [hout hne] at he
    · simp [BufferProducer.notifyBuffer, hsome] at hempty

/-- The buffer that the controller has received and not passed on yet. -/
def ownBuffer (s : FrcFlow) : Option IBufferHandle :=
  match s.phase with
  | some (.testing b 0) => some b.handle
  | _ => none

/-- The upstream producer gives a buffer only while it has it, and a consumer returns only what it
was given. -/
def InContract (s : FrcFlow) : Action → Prop
  | .onFrameAvailable b => s.given.count b.handle = s.upstream b.handle
  | .notifyBufferReturned c h => (c, h) ∈ s.flow.held
  | _ => True

instance : Decidable (s.InContract a) :=
  match a with
  | .onFrameAvailable _ => inferInstanceAs (Decidable (_ = _))
  | .notifyBufferReturned _ _ => inferInstanceAs (Decidable (_ ∈ _))
  | .repeatTest | .deliver | .endNotify | .callSource _ | .addConsumer _ | .removeConsumer _
  | .start | .stop | .setFrameRate _ | .enableFrameRepeat _ => .isTrue trivial

/-- A buffer is sent again only while some consumer still has it, the deliveries of a buffer fit
its count, and the repeat loop of a frame ends. -/
def KeepsHeld (s : FrcFlow) : Action → Prop
  | .onFrameAvailable b =>
    s.flow.producer.bufferConsumers.size < 2 ^ 32 ∧
      (s.frc.active = true → s.frc.frameRepeatEnabled = true →
        (s.frc.receive b.timestamp).LoopEnds b.timestamp)
  | .repeatTest => ∀ b n, s.phase = some (.testing b n) →
    (n ≠ 0 → s.flow.unreturned b.handle ≠ 0) ∧
      s.flow.unreturned b.handle + s.flow.producer.bufferConsumers.size < 2 ^ 32
  | _ => True

/-- Inside the repeat loop the controller is active, the loop ends, and what was sent without a
consumer is with nobody. -/
structure Looping (s : FrcFlow) : Prop where
  active : s.isLooping = true → s.frc.active = true
  testing : ∀ b n, s.phase = some (.testing b n) → s.frc.LoopEnds b.timestamp ∧
    (n ≠ 0 → s.flow.producer.bufferConsumers.isEmpty = true → s.flow.unreturned b.handle = 0)
  repeating : ∀ b n, s.phase = some (.repeating b n) → s.frc.countRepeat.LoopEnds b.timestamp ∧
    (s.flow.producer.bufferConsumers.isEmpty = true → s.flow.unreturned b.handle = 0)

structure Sound (s : FrcFlow) : Prop where
  balanced : s.Balanced s.ownBuffer
  looping : s.Looping

theorem sound_initial : Sound {} := by
  refine ⟨⟨Flow.tidy_initial, fun h => ?_, ?_⟩, ⟨?_, ?_, ?_⟩⟩
  · simp [Flow.owed_initial, ownBuffer]
  all_goals simp [ownBuffer, isLooping]

/-- Outside the repeat loop only the balance matters. -/
theorem Balanced.sound (hs : s.Balanced none) (hphase : s.isLooping = false) : s.Sound := by
  have hne : ∀ b n, s.phase ≠ some (.testing b n) ∧ s.phase ≠ some (.repeating b n) := by
    intro b n
    constructor <;> intro heq <;> simp [isLooping, heq] at hphase
  have hown : s.ownBuffer = none := by
    unfold ownBuffer
    split
    · next b heq => exact absurd heq (hne b 0).1
    · rfl
  refine ⟨hown ▸ hs, ⟨by simp [hphase], fun b n heq => absurd heq (hne b n).1,
    fun b n heq => absurd heq (hne b n).2⟩⟩

/-- Deliveries and returns go on in every phase. -/
theorem Sound.onFlow (hs : s.Sound) (htidy : flow.Tidy) (howed : ∀ k, flow.owed k = s.flow.owed k)
    (hcs : flow.producer.bufferConsumers = s.flow.producer.bufferConsumers)
    (hun : ∀ k, flow.unreturned k ≤ s.flow.unreturned k)
    (hrel : ∀ k ∈ flow.releasing, k ∈ s.flow.releasing ∨ s.flow.unreturned k ≠ 0) :
    ({ s with flow } : FrcFlow).Sound := by
  have hzero : ∀ k, s.flow.unreturned k = 0 → flow.unreturned k = 0 := by
    intro k h0
    have := hun k
    omega
  have hl := hs.looping
  refine ⟨hs.balanced.onFlow htidy howed fun h hown => ?_, ⟨hl.active, ?_, ?_⟩⟩
  · obtain ⟨h0, hnot⟩ := hs.balanced.fresh h hown
    refine ⟨hzero h h0, fun hmem => ?_⟩
    rcases hrel h hmem with hmem | hne
    · exact hnot hmem
    · exact hne h0
  · intro b n hphase
    obtain ⟨hends, hempty⟩ := hl.testing b n hphase
    exact ⟨hends, fun hn he => hzero _ (hempty hn (hcs ▸ he))⟩
  · intro b n hphase
    obtain ⟨hends, hempty⟩ := hl.repeating b n hphase
    exact ⟨hends, fun he => hzero _ (hempty (hcs ▸ he))⟩

theorem sound_deliver (hs : s.Sound) (ht : s.onFlow s.flow.onFrameAvailable = some t) :
    t.Sound := by
  obtain ⟨flow, hflow, rfl⟩ := Option.map_eq_some_iff.mp ht
  obtain ⟨hcounted, hun⟩ := Flow.counted_onFrameAvailable hs.balanced.tidy.counted hflow
  obtain ⟨_, _, _, -, rfl⟩ := Flow.onFrameAvailable_cases hflow
  obtain ⟨htidy, howed⟩ := hs.balanced.tidy.congr hcounted hun rfl rfl
  exact hs.onFlow htidy howed rfl (fun k => Nat.le_of_eq (hun k)) fun k hk => .inl hk

theorem sound_notifyBufferReturned (hs : s.Sound) (hheld : (c, h) ∈ s.flow.held) :
    ({ s with flow := s.flow.notifyBufferReturned c h } : FrcFlow).Sound := by
  obtain ⟨-, hun, hrel⟩ := Flow.counted_notifyBufferReturned hs.balanced.tidy.counted hheld
  obtain ⟨htidy, howed⟩ := Flow.tidy_notifyBufferReturned hs.balanced.tidy hheld
  refine hs.onFlow htidy howed ?_ (fun k => ?_) fun k hk => ?_
  · simp only [Flow.notifyBufferReturned, BufferProducer.notifyBufferReturned]
    split
    · rfl
    · split <;> rfl
  · have := hun k
    omega
  · rw [hrel] at hk
    split at hk
    · rcases List.mem_cons.mp hk with rfl | hmem
      · have := hun k
        rw [if_pos rfl] at this
        exact .inr (by omega)
      · exact .inl hmem
    · exact .inl hk

theorem sound_callSource (hs : s.Sound) (ht : s.onFlow (s.flow.callSource h) = some t) :
    t.Sound := by
  obtain ⟨flow, hflow, rfl⟩ := Option.map_eq_some_iff.mp ht
  obtain ⟨htidy, howed⟩ := Flow.tidy_callSource hs.balanced.tidy hflow
  obtain ⟨-, rfl⟩ := Flow.callSource_cases hflow
  exact hs.onFlow htidy howed rfl (fun k => Nat.le_refl _) fun k hk =>
    .inl (List.mem_of_mem_erase hk)

theorem ownBuffer_of_phase_none (hphase : s.phase = none) : s.ownBuffer = none := by
  simp [ownBuffer, hphase]

theorem sound_onFrameAvailable (hs : s.Sound) (hcon : s.InContract (.onFrameAvailable b))
    (hkeep : s.KeepsHeld (.onFrameAvailable b)) (ht : s.onFrameAvailable b = some t) :
    t.Sound := by
  obtain ⟨hfit, hends⟩ := hkeep
  unfold onFrameAvailable at ht
  split at ht
  · cases ht
  next hidle =>
  have hidle : s.phase = none := by simpa using hidle
  have hgiven := (ownBuffer_of_phase_none hidle ▸ hs.balanced).give hcon
  have hreceived : ∀ frc, ({ s with given := s.given ++ [b.handle], frc } : FrcFlow).Balanced
      (some b.handle) := fun frc => hgiven.onFlow hgiven.tidy (fun _ => rfl) hgiven.fresh
  have hfree : ({ s with given := s.given ++ [b.handle] } : FrcFlow).flow.unreturned b.handle = 0 :=
    (hgiven.fresh _ rfl).1
  simp only at ht
  split at ht
  next hactive =>
    split at ht
    next hrepeat =>
      obtain rfl := Option.some.inj ht
      refine ⟨hgiven.onFlow hgiven.tidy (fun _ => rfl) hgiven.fresh, ⟨fun _ => hactive, ?_, ?_⟩⟩
      · rintro b' n heq
        obtain ⟨rfl, rfl⟩ : b = b' ∧ 0 = n := by simpa using heq
        exact ⟨hends hactive hrepeat, by simp⟩
      · simp
    · split at ht
      · obtain rfl := Option.some.inj ht
        exact (hreceived _).drop.sound (by simp [isLooping, hidle])
      · obtain ⟨hbal, -, hphase, -⟩ := (hreceived _).send (.inl rfl) (by simpa [hfree] using hfit) ht
        exact hbal.sound (by simp [isLooping, hphase])
  · obtain rfl := Option.some.inj ht
    exact hgiven.drop.sound (by simp [isLooping, hidle])

theorem sound_repeatTest (hs : s.Sound) (hkeep : s.KeepsHeld .repeatTest)
    (ht : s.repeatTest = some t) : t.Sound := by
  unfold repeatTest at ht
  split at ht
  next b n hphase =>
    obtain ⟨hheld, hfit⟩ := hkeep b n hphase
    obtain ⟨hends, hempty⟩ := hs.looping.testing b n hphase
    -- the first time the buffer is the controller's own, later some consumer has it
    have hown : s.ownBuffer = some b.handle ∨ (s.ownBuffer = none ∧
        s.flow.unreturned b.handle ≠ 0 ∧ s.flow.producer.bufferConsumers.isEmpty = false) := by
      cases n with
      | zero => exact .inl (by simp [ownBuffer, hphase])
      | succ n =>
        have hne := hheld (Nat.succ_ne_zero n)
        refine .inr ⟨by simp [ownBuffer, hphase], hne, ?_⟩
        by_contra he
        exact hne (hempty (Nat.succ_ne_zero n) (by simpa using he))
    split at ht
    next hrepeat =>
      obtain ⟨hbal, hfrc, hphase', hempty'⟩ := hs.balanced.send hown hfit ht
      have hown' : t.ownBuffer = none := by simp [ownBuffer, hphase']
      refine ⟨hown' ▸ hbal, ⟨fun _ => ?_, ?_, ?_⟩⟩
      · rw [hfrc]
        exact hs.looping.active (by simp [isLooping, hphase])
      · simp [hphase']
      · intro b' n' heq
        obtain ⟨rfl, rfl⟩ : b = b' ∧ n = n' := by simpa [hphase'] using heq
        exact ⟨hfrc ▸ hends.countRepeat hrepeat, hempty'⟩
    · have hsched : ({ s with frc := s.frc.schedule b.timestamp } : FrcFlow).Balanced s.ownBuffer :=
        hs.balanced.onFlow hs.balanced.tidy (fun _ => rfl) hs.balanced.fresh
      obtain ⟨hbal, -, hphase', -⟩ := hsched.send hown hfit ht
      exact hbal.sound (by simp [isLooping, hphase'])
  · cases ht

theorem sound_endNotify (hs : s.Sound) (ht : s.endNotify = some t) : t.Sound := by
  obtain ⟨flow, hflow, ht⟩ := Option.bind_eq_some_iff.mp ht
  have hquiet : flow.Tidy ∧ (∀ k, flow.owed k = s.flow.owed k) ∧
      flow.producer = s.flow.producer ∧ ∀ k, flow.unreturned k = s.flow.unreturned k := by
    split at hflow
    · obtain rfl := Option.some.inj hflow
      exact ⟨hs.balanced.tidy, fun _ => rfl, rfl, fun _ => rfl⟩
    · obtain ⟨hcounted, hun⟩ := Flow.counted_endNotify hs.balanced.tidy.counted hflow
      obtain ⟨_, -, rfl⟩ := Flow.endNotify_cases hflow
      obtain ⟨htidy, howed⟩ := hs.balanced.tidy.congr hcounted hun rfl rfl
      exact ⟨htidy, howed, rfl, hun⟩
  obtain ⟨htidy, howed, hproducer, hun⟩ := hquiet
  have hbal : ∀ {frc phase}, s.ownBuffer = none →
      ({ s with frc, flow, phase } : FrcFlow).Balanced none := by
    intro frc phase hown
    exact (hown ▸ hs.balanced).onFlow htidy howed (by simp)
  split at ht
  next b n hphase =>
    obtain rfl := Option.some.inj ht
    obtain ⟨hends, hempty⟩ := hs.looping.repeating b n hphase
    refine ⟨hbal (by simp [ownBuffer, hphase]), ⟨fun _ => ?_, ?_, by simp⟩⟩
    · exact hs.looping.active (by simp [isLooping, hphase])
    · intro b' n' heq
      obtain ⟨rfl, rfl⟩ : b = b' ∧ n + 1 = n' := by simpa using heq
      refine ⟨hends, fun _ he => ?_⟩
      rw [hun]
      exact hempty (hproducer ▸ he)
  next b hphase =>
    obtain rfl := Option.some.inj ht
    exact (hbal (by simp [ownBuffer, hphase])).sound rfl
  · cases ht

theorem sound_withConsumers {o : Option BufferProducer} (hs : s.Sound)
    (ht : s.withConsumers c o = some t)
    (ho : ∀ p, o = some p → p.buffers = s.flow.producer.buffers) : t.Sound := by
  unfold withConsumers at ht
  split at ht
  · obtain rfl := Option.some.inj ht
    exact hs
  split at ht
  · cases ht
  next hidle =>
  have hidle : s.phase = none := by simpa using hidle
  obtain ⟨flow, hflow, rfl⟩ := Option.map_eq_some_iff.mp ht
  obtain ⟨htidy, howed⟩ := Flow.tidy_withConsumers hs.balanced.tidy hflow ho
  have hbal := ownBuffer_of_phase_none hidle ▸ hs.balanced
  exact (hbal.onFlow htidy howed (by simp)).sound (by simp [isLooping, hidle])

theorem sound_configure {frc : FrameRateController} (hs : s.Sound)
    (ht : s.configure frc = some t) : t.Sound := by
  unfold configure at ht
  split at ht
  · cases ht
  next hloop =>
  obtain rfl := Option.some.inj ht
  have hloop : s.isLooping = false := by simpa using hloop
  have hown : s.ownBuffer = none := by
    cases hphase : s.phase with
    | none => exact ownBuffer_of_phase_none hphase
    | some phase =>
      cases phase with
      | testing | repeating => simp [isLooping, hphase] at hloop
      | sending => simp [ownBuffer, hphase]
  exact ((hown ▸ hs.balanced).onFlow hs.balanced.tidy (fun _ => rfl) (by simp)).sound hloop

theorem sound_step : (lts.guarded fun s a => s.InContract a ∧ s.KeepsHeld a).TrInv Sound := by
  rintro s a t ⟨hstep, hcon, hkeep⟩ hs
  have hstep : s.step a = some t := hstep
  cases a with
  | onFrameAvailable b => exact sound_onFrameAvailable hs hcon hkeep hstep
  | repeatTest => exact sound_repeatTest hs hkeep hstep
  | deliver => exact sound_deliver hs hstep
  | endNotify => exact sound_endNotify hs hstep
  | notifyBufferReturned c h =>
    obtain rfl := Option.some.inj hstep
    exact sound_notifyBufferReturned hs hcon
  | callSource h => exact sound_callSource hs hstep
  | addConsumer c => exact sound_withConsumers hs hstep fun p => Flow.buffers_addConsumer
  | removeConsumer c => exact sound_withConsumers hs hstep fun p => Flow.buffers_removeConsumer
  | start | stop | setFrameRate | enableFrameRepeat => exact sound_configure hs hstep

/-- The controller conserves buffers: none is returned upstream more often than it was given, all
are once the controller and the consumers have let go of them, none is sent to a consumer after it
was returned, and every call of `OnFrameAvailable` gets out of its repeat loop. -/
structure Conserves (s : FrcFlow) : Prop where
  atMostOnce : ∀ h, s.upstream h ≤ s.given.count h ∧ s.given.count h ≤ s.upstream h + 1
  returned : ∀ h, s.phase = none → s.flow.unreturned h = 0 → h ∉ s.flow.releasing →
    s.given.count h = s.upstream h
  notAfter : ∀ h c cs, s.flow.notifying = some (h, c :: cs) → s.upstream h < s.given.count h
  ends : ∀ b n, s.phase = some (.testing b n) → s.frc.LoopEnds b.timestamp

theorem Sound.conserves (hs : s.Sound) : s.Conserves := by
  have hacc := hs.balanced.accounted
  simp only [Flow.owed] at hacc
  refine ⟨fun h => ?_, fun h hphase h0 hrel => ?_, fun h c cs hnotify => ?_,
    fun b n hphase => (hs.looping.testing b n hphase).1⟩
  · have hk := hacc h
    have hone := List.nodup_iff_count.mp hs.balanced.tidy.nodup h
    simp only [upstream]
    by_cases hown : s.ownBuffer = some h
    · obtain ⟨h0, hrel⟩ := hs.balanced.fresh h hown
      rw [if_pos h0, if_pos hown, List.count_eq_zero_of_not_mem hrel] at hk
      omega
    · rw [if_neg hown] at hk
      by_cases hmem : h ∈ s.flow.releasing
      · rw [if_pos (hs.balanced.tidy.idle h hmem)] at hk
        omega
      · rw [List.count_eq_zero_of_not_mem hmem] at hk
        split at hk <;> omega
  · have hk := hacc h
    rw [if_pos h0, List.count_eq_zero_of_not_mem hrel,
      if_neg (by simp [ownBuffer_of_phase_none hphase])] at hk
    simp only [upstream]
    omega
  · have hk := hacc h
    have hne : s.flow.unreturned h ≠ 0 := by simp [Flow.unreturned, Flow.due, hnotify]
    rw [if_neg hne] at hk
    simp only [upstream]
    omega

/-- With any frames, timestamps, rates and consumers, and in any order of returns, the controller
conserves buffers as long as it sends a buffer again only while some consumer still has it. -/
theorem conserves_of_keepsHeld
    (h : (lts.guarded fun s a => s.InContract a ∧ s.KeepsHeld a).MTr {} as t) : t.Conserves :=
  (LTS.inv_of_mTr sound_step h sound_initial).conserves

/-- A check for one step: the contract, and the condition with at most `m` turns of a loop. -/
def keepsHeldWithin (m : Nat) (s : FrcFlow) : Action → Bool
  | .onFrameAvailable b =>
    s.given.count b.handle = s.upstream b.handle && s.flow.producer.bufferConsumers.size < 2 ^ 32 &&
      (List.range m).any fun n =>
        !(FrameRateController.countRepeat^[n] (s.frc.receive b.timestamp)).repeatFrame b.timestamp
  | .notifyBufferReturned c h => s.flow.held.contains (c, h)
  | .repeatTest =>
    match s.phase with
    | some (.testing b n) => (n = 0 || s.flow.unreturned b.handle ≠ 0) &&
      s.flow.unreturned b.handle + s.flow.producer.bufferConsumers.size < 2 ^ 32
    | _ => true
  | _ => true

theorem keepsHeldWithin_spec {m : Nat} (h : s.keepsHeldWithin m a = true) :
    s.InContract a ∧ s.KeepsHeld a := by
  cases a with
  | onFrameAvailable b =>
    simp only [keepsHeldWithin, Bool.and_eq_true, decide_eq_true_eq, List.any_eq_true] at h
    obtain ⟨⟨hcon, hfit⟩, n, -, hn⟩ := h
    exact ⟨hcon, hfit, fun _ _ => ⟨n, by simpa using hn⟩⟩
  | notifyBufferReturned c h' => exact ⟨by simpa [InContract, keepsHeldWithin] using h, trivial⟩
  | repeatTest =>
    refine ⟨trivial, fun b n hphase => ?_⟩
    simp only [keepsHeldWithin, hphase, Bool.and_eq_true, Bool.or_eq_true, decide_eq_true_eq] at h
    exact ⟨fun hn => h.1.resolve_left hn, h.2⟩
  | _ => exact ⟨trivial, trivial⟩

/-- A controller at 30 frames a second that repeats frames for one consumer; the first frame has
passed and the second comes 100 ms later. -/
def lateFrameRun : List Action :=
  [.setFrameRate (some 33333333), .enableFrameRepeat true, .addConsumer 1, .start,
    .onFrameAvailable ⟨1, 1000000000⟩, .repeatTest, .deliver, .endNotify,
    .notifyBufferReturned 1 1, .callSource 1, .onFrameAvailable ⟨2, 1100000000⟩]

/-- The consumer returns the second frame only after it was sent for the last time. -/
def heldFrameRun : List Action :=
  lateFrameRun ++ [.repeatTest, .deliver, .endNotify, .repeatTest, .deliver, .endNotify,
    .repeatTest, .deliver, .endNotify, .notifyBufferReturned 1 2, .notifyBufferReturned 1 2,
    .notifyBufferReturned 1 2, .callSource 2]

theorem conserves_held_frame :
    (LTS.run step {} heldFrameRun).map (fun s => (s.given, s.flow.returned)) =
        some ([1, 2], [1, 2]) ∧
      ∃ t, (lts.guarded fun s a => s.InContract a ∧ s.KeepsHeld a).MTr {} heldFrameRun t ∧
        t.Conserves := by
  have hrun : (LTS.run step {} heldFrameRun).map (fun s => (s.given, s.flow.returned)) =
      some ([1, 2], [1, 2]) := by decide
  obtain ⟨t, ht, -⟩ := Option.map_eq_some_iff.mp hrun
  have hmeets : LTS.Meets step (fun s a => s.keepsHeldWithin 4 a = true) {} heldFrameRun := by
    decide
  have hguard := LTS.mTr_guarded_mono (LTS.mTr_guarded_iff.mpr ⟨ht, hmeets⟩)
    fun s a => keepsHeldWithin_spec
  exact ⟨hrun, t, hguard, conserves_of_keepsHeld hguard⟩

/-- The consumer returns the second frame before it is repeated. -/
def returnedFrameRun : List Action :=
  lateFrameRun ++ [.repeatTest, .deliver, .notifyBufferReturned 1 2, .callSource 2, .endNotify,
    .repeatTest]

/-- A frame that has gone back upstream is on its way to the consumer again. -/
theorem repeat_after_return :
    ¬ ∀ (as : List Action) (t : FrcFlow), (lts.guarded InContract).MTr {} as t → t.Conserves := by
  intro hall
  have hrun : (LTS.run step {} returnedFrameRun).map
      (fun s => (s.flow.notifying, s.given.count 2, s.upstream 2)) =
        some (some (2, [1]), 1, 1) := by decide
  obtain ⟨t, ht, heq⟩ := Option.map_eq_some_iff.mp hrun
  obtain ⟨hnotify, hgiven, hup⟩ : t.flow.notifying = some (2, [1]) ∧ t.given.count 2 = 1 ∧
      t.upstream 2 = 1 := by simpa using heq
  have hmeets : LTS.Meets step InContract {} returnedFrameRun := by decide
  have := (hall _ t (LTS.mTr_guarded_iff.mpr ⟨ht, hmeets⟩)).notAfter 2 1 [] hnotify
  omega

end FrcFlow

end QmmfSdk.Pipeline
