import Mathlib.Data.List.Count
import QmmfSdk.Library.OrdMap
import QmmfSdk.Library.Transition

/-! `BufferProducerImpl`: one buffer for many consumers, counted by handle, and the deliveries
and returns that its threads interleave. -/
namespace QmmfSdk.Pipeline

open Library

/-- Buffer handles and consumers are told apart by their addresses. -/
abbrev IBufferHandle := UInt64
abbrev ConsumerKey := UInt64

structure BufferProducer where
  bufferConsumers : OrdMap ConsumerKey Unit := ∅
  buffers : OrdMap IBufferHandle UInt32 := ∅

namespace BufferProducer

variable {p : BufferProducer} {h k : IBufferHandle} {c : ConsumerKey}

/-- The part of `NotifyBuffer` before its loop. Without consumers the buffer goes straight back
to the source; otherwise the loop visits the consumers in the order of the map. -/
def notifyBuffer (p : BufferProducer) (h : IBufferHandle) :
    BufferProducer × Option (List ConsumerKey) :=
  if p.bufferConsumers.isEmpty then (p, none)
  else
    let count := (p.buffers[h]?).getD 0 + .ofNat p.bufferConsumers.size
    ({ p with buffers := p.buffers.insert h count }, some p.bufferConsumers.keys)

/-- The locked part of `NotifyBufferReturned`, and whether the source is called after it. -/
def notifyBufferReturned (p : BufferProducer) (h : IBufferHandle) : BufferProducer × Bool :=
  match p.buffers[h]? with
  | none => (p, false)
  | some n =>
    if 1 < n then ({ p with buffers := p.buffers.insert h (n - 1) }, false)
    else ({ p with buffers := p.buffers.erase h }, true)

/-- `none` is the assertion that the consumer is not null. -/
def addConsumer (p : BufferProducer) (c : ConsumerKey) : Option BufferProducer :=
  if c = 0 then none else some { p with bufferConsumers := p.bufferConsumers.insertIfNew c () }

def removeConsumer (p : BufferProducer) (c : ConsumerKey) : Option BufferProducer :=
  if c = 0 then none else some { p with bufferConsumers := p.bufferConsumers.erase c }

theorem buffers_notifyBuffer (hsome : p.bufferConsumers.isEmpty = false) :
    (p.notifyBuffer h).1.buffers[k]? = if h = k then
      some (p.buffers[h]?.getD 0 + .ofNat p.bufferConsumers.size) else p.buffers[k]? := by
  simp only [notifyBuffer, hsome, Bool.false_eq_true, if_false, Std.ExtTreeMap.getElem?_insert]
  simp

theorem buffers_notifyBufferReturned : (p.notifyBufferReturned h).1.buffers[k]? =
    if h = k then (if p.buffers[h]?.all (· ≤ 1) then none else (p.buffers[h]?).map (· - 1))
    else p.buffers[k]? := by
  unfold notifyBufferReturned
  cases hb : p.buffers[h]? with
  | none =>
    by_cases hk : h = k
    · subst hk
      simp [hb]
    · simp [hk]
  | some n =>
    by_cases hn : 1 < n
    · simp only [hn, if_true, Std.ExtTreeMap.getElem?_insert, Option.all_some]
      simp [UInt32.not_le.mpr hn]
    · simp only [hn, if_false, Std.ExtTreeMap.getElem?_erase, Option.all_some]
      simp [UInt32.not_lt.mp hn]

/-- The source gets a buffer back when the count falls to zero. -/
theorem snd_notifyBufferReturned :
    (p.notifyBufferReturned h).2 = (p.buffers[h]?).any (· ≤ 1) := by
  unfold notifyBufferReturned
  cases hb : p.buffers[h]? with
  | none => rfl
  | some n =>
    by_cases hn : 1 < n
    · simp [hn]
    · simp [hn, UInt32.not_lt.mp hn]

end BufferProducer

/-- A producer with its callers: where the one running `NotifyBuffer` is in its loop, which calls
of `NotifyBufferReturned` have still to call the source, and what was delivered and returned. -/
structure Flow where
  producer : BufferProducer := {}
  notifying : Option (IBufferHandle × List ConsumerKey) := none
  releasing : List IBufferHandle := []
  held : List (ConsumerKey × IBufferHandle) := []
  notified : List IBufferHandle := []
  returned : List IBufferHandle := []

namespace Flow

inductive Action where
  | notifyBuffer (h : IBufferHandle)
  | onFrameAvailable
  | endNotify
  | notifyBufferReturned (c : ConsumerKey) (h : IBufferHandle)
  | callSource (h : IBufferHandle)
  | addConsumer (c : ConsumerKey)
  | removeConsumer (c : ConsumerKey)

def notifyBuffer (f : Flow) (h : IBufferHandle) : Option Flow :=
  -- `lock_` is held from here to the end of the loop
  if f.notifying.isSome then none
  else match f.producer.notifyBuffer h with
    | (_, none) =>
      some { f with notified := f.notified ++ [h], returned := f.returned ++ [h] }
    | (p, some cs) =>
      some { f with producer := p, notifying := some (h, cs), notified := f.notified ++ [h] }

/-- One turn of the loop: the next consumer gets the buffer. -/
def onFrameAvailable (f : Flow) : Option Flow :=
  match f.notifying with
  | some (h, c :: cs) => some { f with notifying := some (h, cs), held := (c, h) :: f.held }
  | _ => none

def endNotify (f : Flow) : Option Flow :=
  match f.notifying with
  | some (_, []) => some { f with notifying := none }
  | _ => none

/-- A consumer returns a buffer, from any thread and also from inside `OnFrameAvailable`. -/
def notifyBufferReturned (f : Flow) (c : ConsumerKey) (h : IBufferHandle) : Flow :=
  match f.producer.notifyBufferReturned h with
  | (p, last) =>
    { f with producer := p, held := f.held.erase (c, h),
             releasing := if last then h :: f.releasing else f.releasing }

def callSource (f : Flow) (h : IBufferHandle) : Option Flow :=
  if h ∈ f.releasing then
    some { f with releasing := f.releasing.erase h, returned := f.returned ++ [h] }
  else none

def withConsumers (f : Flow) (o : Option BufferProducer) : Option Flow :=
  if f.notifying.isSome then none else o.map fun p => { f with producer := p }

def step (f : Flow) : Action → Option Flow
  | .notifyBuffer h => f.notifyBuffer h
  | .onFrameAvailable => f.onFrameAvailable
  | .endNotify => f.endNotify
  | .notifyBufferReturned c h => some (f.notifyBufferReturned c h)
  | .callSource h => f.callSource h
  | .addConsumer c => f.withConsumers (f.producer.addConsumer c)
  | .removeConsumer c => f.withConsumers (f.producer.removeConsumer c)

def lts : LTS Flow Action := .ofStep step

/-- Deliveries that the running loop has counted and not made yet. -/
def due (f : Flow) (h : IBufferHandle) : Nat :=
  match f.notifying with
  | some (k, cs) => if k = h then cs.length else 0
  | none => 0

def heldOf (f : Flow) (h : IBufferHandle) : Nat := f.held.countP fun d => d.2 = h

/-- The deliveries of a handle that have not been returned. -/
def unreturned (f : Flow) (h : IBufferHandle) : Nat := f.due h + f.heldOf h

variable {f g : Flow} {a : Action} {as : List Action} {c : ConsumerKey} {h k : IBufferHandle}

/-- The reference counts are the unreturned deliveries, and a handle without any has no entry. -/
def Counted (f : Flow) : Prop :=
  ∀ h, f.unreturned h < 2 ^ 32 ∧
    f.producer.buffers[h]? = if f.unreturned h = 0 then none else some (.ofNat (f.unreturned h))

theorem Counted.getD (hf : f.Counted) : (f.producer.buffers[h]?.getD 0).toNat = f.unreturned h := by
  obtain ⟨hlt, heq⟩ := hf h
  rw [heq]
  split
  next h0 => simp [h0]
  next => simpa using Nat.mod_eq_of_lt hlt

theorem not_held_of_unreturned (h0 : f.unreturned h = 0) : (c, h) ∉ f.held := by
  intro hmem
  have hpos : 0 < f.heldOf h := List.countP_pos_iff.mpr ⟨_, hmem, by simp⟩
  simp only [unreturned] at h0
  omega

theorem notifyBuffer_cases (hg : f.notifyBuffer h = some g) : f.notifying = none ∧
    ((f.producer.bufferConsumers.isEmpty = true ∧
      g = { f with notified := f.notified ++ [h], returned := f.returned ++ [h] }) ∨
    (f.producer.bufferConsumers.isEmpty = false ∧
      g = { f with producer := (f.producer.notifyBuffer h).1,
                   notifying := some (h, f.producer.bufferConsumers.keys),
                   notified := f.notified ++ [h] })) := by
  unfold notifyBuffer at hg
  split at hg
  · cases hg
  · next hfree =>
    refine ⟨by simpa using hfree, ?_⟩
    cases hempty : f.producer.bufferConsumers.isEmpty with
    | true => exact .inl ⟨rfl, by simpa [BufferProducer.notifyBuffer, hempty] using hg.symm⟩
    | false => exact .inr ⟨rfl, by simpa [BufferProducer.notifyBuffer, hempty] using hg.symm⟩

theorem onFrameAvailable_cases (hg : f.onFrameAvailable = some g) :
    ∃ h c cs, f.notifying = some (h, c :: cs) ∧
      g = { f with notifying := some (h, cs), held := (c, h) :: f.held } := by
  unfold onFrameAvailable at hg
  split at hg
  · next h c cs heq => exact ⟨h, c, cs, heq, by simpa using hg.symm⟩
  · cases hg

theorem endNotify_cases (hg : f.endNotify = some g) :
    ∃ h, f.notifying = some (h, []) ∧ g = { f with notifying := none } := by
  unfold endNotify at hg
  split at hg
  · next h heq => exact ⟨h, heq, by simpa using hg.symm⟩
  · cases hg

theorem callSource_cases (hg : f.callSource h = some g) : h ∈ f.releasing ∧
    g = { f with releasing := f.releasing.erase h, returned := f.returned ++ [h] } := by
  unfold callSource at hg
  split at hg
  · next hmem => exact ⟨hmem, by simpa using hg.symm⟩
  · cases hg

/-- Consumers come and go only between notifications, and the counts do not notice. -/
theorem withConsumers_cases {o : Option BufferProducer} (hg : f.withConsumers o = some g)
    (ho : ∀ p, o = some p → p.buffers = f.producer.buffers) :
    ∃ p, p.buffers = f.producer.buffers ∧ g = { f with producer := p } := by
  unfold withConsumers at hg
  split at hg
  · cases hg
  · obtain ⟨p, hp, rfl⟩ := Option.map_eq_some_iff.mp hg
    exact ⟨p, ho p hp, rfl⟩

theorem buffers_addConsumer {p q : BufferProducer} (hq : p.addConsumer c = some q) :
    q.buffers = p.buffers := by
  unfold BufferProducer.addConsumer at hq
  split at hq <;> cases hq
  rfl

theorem buffers_removeConsumer {p q : BufferProducer} (hq : p.removeConsumer c = some q) :
    q.buffers = p.buffers := by
  unfold BufferProducer.removeConsumer at hq
  split at hq <;> cases hq
  rfl

/-- Only the counts and the deliveries matter for the invariant. -/
theorem Counted.congr (hf : f.Counted) (hb : g.producer.buffers = f.producer.buffers)
    (hu : ∀ k, g.unreturned k = f.unreturned k) : g.Counted := by
  intro k
  rw [hb, hu]
  exact hf k

/-- Counting the consumers keeps the counts exact as long as they fit. -/
theorem counted_notifyBuffer (hf : f.Counted) (hg : f.notifyBuffer h = some g)
    (hlt : f.unreturned h + f.producer.bufferConsumers.size < 2 ^ 32) :
    g.Counted ∧ ∀ k, g.unreturned k =
      f.unreturned k + if h = k then f.producer.bufferConsumers.size else 0 := by
  obtain ⟨hfree, ⟨hempty, rfl⟩ | ⟨hsome, rfl⟩⟩ := notifyBuffer_cases hg
  · have hsize : f.producer.bufferConsumers.size = 0 := by
      simpa [Std.ExtTreeMap.isEmpty_eq_size_beq_zero] using hempty
    exact ⟨hf.congr rfl fun k => rfl, fun k => by simp [unreturned, due, heldOf, hsize]⟩
  · have hpos : f.producer.bufferConsumers.size ≠ 0 := by
      simpa [Std.ExtTreeMap.isEmpty_eq_size_beq_zero] using hsome
    have hun : ∀ k, unreturned { f with
        producer := (f.producer.notifyBuffer h).1
        notifying := some (h, f.producer.bufferConsumers.keys)
        notified := f.notified ++ [h] } k =
          f.unreturned k + if h = k then f.producer.bufferConsumers.size else 0 := by
      intro k
      simp only [unreturned, due, heldOf, hfree, Std.ExtTreeMap.length_keys]
      omega
    refine ⟨fun k => ?_, hun⟩
    rw [hun, BufferProducer.buffers_notifyBuffer hsome]
    by_cases hk : h = k
    · subst hk
      refine ⟨by simpa using hlt, ?_⟩
      have hcount : f.producer.buffers[h]?.getD 0 = .ofNat (f.unreturned h) := by
        apply UInt32.toNat_inj.mp
        rw [hf.getD, UInt32.toNat_ofNat_of_lt' (hf h).1]
      rw [if_pos rfl, if_pos rfl, if_neg (by omega), hcount, UInt32.ofNat_add]
    · simpa [hk] using hf k

theorem counted_onFrameAvailable (hf : f.Counted) (hg : f.onFrameAvailable = some g) :
    g.Counted ∧ ∀ k, g.unreturned k = f.unreturned k := by
  obtain ⟨h, c, cs, heq, rfl⟩ := onFrameAvailable_cases hg
  have hun : ∀ k, unreturned { f with notifying := some (h, cs), held := (c, h) :: f.held } k =
      f.unreturned k := by
    intro k
    simp only [unreturned, due, heldOf, heq, List.countP_cons, List.length_cons]
    by_cases hk : h = k
    · simp [hk]
      omega
    · simp [hk]
  exact ⟨hf.congr rfl hun, hun⟩

theorem counted_endNotify (hf : f.Counted) (hg : f.endNotify = some g) :
    g.Counted ∧ ∀ k, g.unreturned k = f.unreturned k := by
  obtain ⟨h, heq, rfl⟩ := endNotify_cases hg
  have hun : ∀ k, unreturned { f with notifying := none } k = f.unreturned k := by
    intro k
    simp [unreturned, due, heldOf, heq]
  exact ⟨hf.congr rfl hun, hun⟩

/-- A consumer that returns a delivery takes it off the count. -/
theorem counted_notifyBufferReturned (hf : f.Counted) (hheld : (c, h) ∈ f.held) :
    (f.notifyBufferReturned c h).Counted ∧
      (∀ k, f.unreturned k = (f.notifyBufferReturned c h).unreturned k + if h = k then 1 else 0) ∧
      (f.notifyBufferReturned c h).releasing =
        if (f.notifyBufferReturned c h).unreturned h = 0 then h :: f.releasing
        else f.releasing := by
  have hpos : 0 < f.heldOf h := List.countP_pos_iff.mpr ⟨_, hheld, by simp⟩
  have hun : ∀ k, f.unreturned k =
      (f.notifyBufferReturned c h).unreturned k + if h = k then 1 else 0 := by
    intro k
    simp only [unreturned, due, heldOf, notifyBufferReturned, List.countP_erase, hheld]
    by_cases hk : h = k
    · subst hk
      simp only [heldOf] at hpos
      simp
      omega
    · simp [hk]
  have hh := hun h
  rw [if_pos rfl] at hh
  obtain ⟨hlt, hb⟩ := hf h
  rw [if_neg (by omega)] at hb
  have hone : (UInt32.ofNat (f.unreturned h) ≤ 1) = (f.unreturned h ≤ 1) := by
    rw [UInt32.le_iff_toNat_le, UInt32.toNat_ofNat_of_lt' hlt, UInt32.toNat_one]
  refine ⟨fun k => ?_, hun, ?_⟩
  · have hb' : (f.notifyBufferReturned c h).producer.buffers[k]? = _ :=
      BufferProducer.buffers_notifyBufferReturned
    have hk := hun k
    by_cases heq : h = k
    · subst heq
      refine ⟨by omega, ?_⟩
      rw [hb', hb, if_pos rfl]
      simp only [Option.all_some, Option.map_some, hone, decide_eq_true_eq]
      by_cases hlast : f.unreturned h ≤ 1
      · rw [if_pos hlast, if_pos (by omega)]
      · rw [if_neg hlast, if_neg (by omega)]
        have hleft : (f.notifyBufferReturned c h).unreturned h = f.unreturned h - 1 := by omega
        rw [hleft, UInt32.ofNat_sub (by omega)]
        rfl
    · rw [if_neg heq, Nat.add_zero] at hk
      rw [← hk, hb', if_neg heq]
      exact hf k
  · have hlast : (f.producer.notifyBufferReturned h).2 = decide (f.unreturned h ≤ 1) := by
      rw [BufferProducer.snd_notifyBufferReturned, hb]
      simp [hone]
    simp only [notifyBufferReturned, hlast, decide_eq_true_eq]
    change (if f.unreturned h ≤ 1 then _ else _) =
      if (f.notifyBufferReturned c h).unreturned h = 0 then _ else _
    by_cases hone : f.unreturned h ≤ 1
    · rw [if_pos hone, if_pos (by omega)]
    · rw [if_neg hone, if_neg (by omega)]

/-- The counts are right, and a handle on its way back to the source is with no consumer. -/
structure Tidy (f : Flow) : Prop where
  counted : f.Counted
  idle : ∀ h ∈ f.releasing, f.unreturned h = 0
  nodup : f.releasing.Nodup

/-- How often the source gets a handle back once everything that is out comes back. -/
def owed (f : Flow) (h : IBufferHandle) : Nat :=
  f.returned.count h + f.releasing.count h + if f.unreturned h = 0 then 0 else 1

theorem tidy_initial : Tidy {} := by
  refine ⟨fun h => ?_, by simp, .nil⟩
  simp [unreturned, due, heldOf]

theorem owed_initial : owed {} h = 0 := by simp [owed, unreturned, due, heldOf]

theorem Tidy.congr (hf : f.Tidy) (hg : g.Counted) (hu : ∀ k, g.unreturned k = f.unreturned k)
    (hr : g.returned = f.returned) (hl : g.releasing = f.releasing) :
    g.Tidy ∧ ∀ k, g.owed k = f.owed k := by
  refine ⟨⟨hg, fun h hh => ?_, hl ▸ hf.nodup⟩, fun k => ?_⟩
  · rw [hu]
    exact hf.idle h (hl ▸ hh)
  · simp only [owed, hu, hr, hl]

/-- A handle owes the source one return more when it goes out, and none when it is out already. -/
theorem tidy_notifyBuffer (hf : f.Tidy) (hg : f.notifyBuffer h = some g) (hrel : h ∉ f.releasing)
    (hout : f.unreturned h ≠ 0 → f.producer.bufferConsumers.isEmpty = false)
    (hlt : f.unreturned h + f.producer.bufferConsumers.size < 2 ^ 32) :
    g.Tidy ∧ ∀ k, g.owed k = f.owed k + if h = k ∧ f.unreturned h = 0 then 1 else 0 := by
  obtain ⟨hcounted, hun⟩ := counted_notifyBuffer hf.counted hg hlt
  obtain ⟨-, ⟨hempty, rfl⟩ | ⟨hsome, rfl⟩⟩ := notifyBuffer_cases hg
  · have h0 : f.unreturned h = 0 := by
      by_contra hne
      simp [hout hne] at hempty
    refine ⟨⟨hcounted, hf.idle, hf.nodup⟩, fun k => ?_⟩
    change (f.returned ++ [h]).count k + f.releasing.count k + (if f.unreturned k = 0 then 0 else 1) =
      f.returned.count k + f.releasing.count k + (if f.unreturned k = 0 then 0 else 1) + _
    rw [List.count_append, List.count_singleton]
    by_cases heq : h = k
    · subst heq
      simp [h0]
      omega
    · simp [heq]
  · have hsize : f.producer.bufferConsumers.size ≠ 0 := by
      simpa [Std.ExtTreeMap.isEmpty_eq_size_beq_zero] using hsome
    refine ⟨⟨hcounted, fun k hk => ?_, hf.nodup⟩, fun k => ?_⟩
    · have hne : h ≠ k := by
        rintro rfl
        exact hrel hk
      rw [hun, if_neg hne]
      exact hf.idle k hk
    · simp only [owed, hun]
      by_cases heq : h = k
      · subst heq
        by_cases h0 : f.unreturned h = 0 <;> simp [h0, hsize]
      · simp [heq]

theorem tidy_notifyBufferReturned (hf : f.Tidy) (hheld : (c, h) ∈ f.held) :
    (f.notifyBufferReturned c h).Tidy ∧
      ∀ k, (f.notifyBufferReturned c h).owed k = f.owed k := by
  obtain ⟨hcounted, hun, hrel⟩ := counted_notifyBufferReturned hf.counted hheld
  have hh := hun h
  rw [if_pos rfl] at hh
  have hnot : h ∉ f.releasing := by
    intro hmem
    have := hf.idle h hmem
    omega
  refine ⟨⟨hcounted, fun k hk => ?_, ?_⟩, fun k => ?_⟩
  · rw [hrel] at hk
    have hu := hun k
    by_cases heq : h = k
    · subst heq
      by_cases hlast : (f.notifyBufferReturned c h).unreturned h = 0
      · exact hlast
      · rw [if_neg hlast] at hk
        exact absurd hk hnot
    · have hmem : k ∈ f.releasing := by
        split at hk
        · exact (List.mem_cons.mp hk).resolve_left (Ne.symm heq)
        · exact hk
      have := hf.idle k hmem
      omega
  · rw [hrel]
    split
    · exact List.nodup_cons.mpr ⟨hnot, hf.nodup⟩
    · exact hf.nodup
  · have hu := hun k
    simp only [owed, hrel]
    change f.returned.count k + _ + _ = _
    by_cases heq : h = k
    · subst heq
      rw [if_neg (by omega : ¬ f.unreturned h = 0)]
      by_cases hlast : (f.notifyBufferReturned c h).unreturned h = 0
      · rw [if_pos hlast, if_pos hlast, List.count_cons_self]
        omega
      · rw [if_neg hlast, if_neg hlast]
    · rw [if_neg heq, Nat.add_zero] at hu
      rw [← hu]
      congr 2
      split
      · rw [List.count_cons_of_ne heq]
      · rfl

theorem tidy_callSource (hf : f.Tidy) (hg : f.callSource h = some g) :
    g.Tidy ∧ ∀ k, g.owed k = f.owed k := by
  obtain ⟨hmem, rfl⟩ := callSource_cases hg
  refine ⟨⟨hf.counted.congr rfl fun k => rfl, fun k hk => hf.idle k (List.mem_of_mem_erase hk),
    hf.nodup.erase h⟩, fun k => ?_⟩
  change (f.returned ++ [h]).count k + (f.releasing.erase h).count k +
    (if f.unreturned k = 0 then 0 else 1) = f.owed k
  rw [owed, List.count_append]
  by_cases heq : h = k
  · subst heq
    have hpos := List.count_pos_iff.mpr hmem
    rw [List.count_erase_self, List.count_singleton_self]
    omega
  · rw [List.count_erase_of_ne (Ne.symm heq), List.count_singleton]
    simp [heq]

theorem tidy_withConsumers {o : Option BufferProducer} (hf : f.Tidy)
    (hg : f.withConsumers o = some g) (ho : ∀ p, o = some p → p.buffers = f.producer.buffers) :
    g.Tidy ∧ ∀ k, g.owed k = f.owed k := by
  obtain ⟨p, hp, rfl⟩ := withConsumers_cases hg ho
  have hcounted : ({ f with producer := p } : Flow).Counted := hf.counted.congr hp fun k => rfl
  exact hf.congr hcounted (fun k => rfl) rfl rfl

/-- A step other than a notification leaves what is owed to the source as it is. -/
theorem tidy_step (hf : f.Tidy) (ha : ∀ h, a ≠ .notifyBuffer h)
    (hheld : ∀ c h, a = .notifyBufferReturned c h → (c, h) ∈ f.held) (hg : f.step a = some g) :
    g.Tidy ∧ g.notified = f.notified ∧ ∀ k, g.owed k = f.owed k := by
  cases a with
  | notifyBuffer h => exact absurd rfl (ha h)
  | onFrameAvailable =>
    obtain ⟨hcounted, hun⟩ := counted_onFrameAvailable hf.counted hg
    obtain ⟨h, c, cs, -, rfl⟩ := onFrameAvailable_cases hg
    obtain ⟨ht, ho⟩ := hf.congr hcounted hun rfl rfl
    exact ⟨ht, rfl, ho⟩
  | endNotify =>
    obtain ⟨hcounted, hun⟩ := counted_endNotify hf.counted hg
    obtain ⟨h, -, rfl⟩ := endNotify_cases hg
    obtain ⟨ht, ho⟩ := hf.congr hcounted hun rfl rfl
    exact ⟨ht, rfl, ho⟩
  | notifyBufferReturned c h =>
    obtain rfl := Option.some.inj hg
    obtain ⟨ht, ho⟩ := tidy_notifyBufferReturned hf (hheld c h rfl)
    exact ⟨ht, rfl, ho⟩
  | callSource h =>
    obtain ⟨ht, ho⟩ := tidy_callSource hf hg
    obtain ⟨-, rfl⟩ := callSource_cases hg
    exact ⟨ht, rfl, ho⟩
  | addConsumer c =>
    obtain ⟨ht, ho⟩ := tidy_withConsumers hf hg fun p => buffers_addConsumer
    obtain ⟨p, -, rfl⟩ := withConsumers_cases hg fun p => buffers_addConsumer
    exact ⟨ht, rfl, ho⟩
  | removeConsumer c =>
    obtain ⟨ht, ho⟩ := tidy_withConsumers hf hg fun p => buffers_removeConsumer
    obtain ⟨p, -, rfl⟩ := withConsumers_cases hg fun p => buffers_removeConsumer
    exact ⟨ht, rfl, ho⟩

end Flow

end QmmfSdk.Pipeline
