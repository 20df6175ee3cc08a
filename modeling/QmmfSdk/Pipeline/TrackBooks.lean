import QmmfSdk.Pipeline.TrackSource

/-! The counts of a track against its holders, and what a frame does to them as it arrives. -/
namespace QmmfSdk.Pipeline

open Library Binder Recorder

namespace Flow

variable {f g : Flow} {h k : IBufferHandle}

/-- Whether the consumers still have the handle, or their return of it is under way. -/
def out (f : Flow) (h : IBufferHandle) : Nat :=
  f.releasing.count h + if f.unreturned h = 0 then 0 else 1

theorem out_add_returned : f.out h + f.returned.count h = f.owed h := by
  simp only [out, owed]
  omega

theorem out_initial : out {} h = 0 := by simp [out, unreturned, due, heldOf]

theorem out_le_one (hf : f.Tidy) : f.out h ≤ 1 := by
  have hone := List.nodup_iff_count.mp hf.nodup h
  by_cases hmem : h ∈ f.releasing
  · rw [out, if_pos (hf.idle h hmem)]
    omega
  · rw [out, List.count_eq_zero_of_not_mem hmem]
    split <;> omega

/-- A handle that was with no consumer is with all of them. -/
theorem out_notifyBuffer (hf : f.Tidy) (hg : f.notifyBuffer h = some g) (h0 : f.out h = 0)
    (hsome : f.producer.bufferConsumers.isEmpty = false)
    (hsize : f.producer.bufferConsumers.size < 2 ^ 32) :
    g.Tidy ∧ g.producer.bufferConsumers = f.producer.bufferConsumers ∧
      ∀ k, g.out k = f.out k + if h = k then 1 else 0 := by
  have hrel : h ∉ f.releasing := by
    intro hmem
    have := List.count_pos_iff.mpr hmem
    simp only [out] at h0
    omega
  have hun : f.unreturned h = 0 := by
    by_contra hne
    simp [out, hne] at h0
  obtain ⟨htidy, howed⟩ := tidy_notifyBuffer hf hg hrel (fun hne => absurd hun hne) (by omega)
  obtain ⟨-, ⟨hempty, -⟩ | ⟨-, rfl⟩⟩ := notifyBuffer_cases hg
  · simp [hsome] at hempty
  refine ⟨htidy, by simp [BufferProducer.notifyBuffer, hsome], fun k => ?_⟩
  have hk := howed k
  rw [← out_add_returned, ← out_add_returned] at hk
  simp only [hun, and_true] at hk
  omega

end Flow

namespace TrackFlow

variable {cfg : TrackConfig} {s t : TrackFlow} {b : StreamBuffer} {h k : IBufferHandle}
  {total : IBufferHandle → Nat} {m : OrdMap IBufferHandle UInt32}
  {received givenBack : List IBufferHandle}

/-- The counts are `total`, and a handle that is counted is owed to the producer once. -/
def Books (total : IBufferHandle → Nat) (m : OrdMap IBufferHandle UInt32)
    (received givenBack : List IBufferHandle) : Prop :=
  ∀ h, m[h]? = (if total h = 0 then none else some (.ofNat (total h))) ∧
    received.count h = givenBack.count h + if total h = 0 then 0 else 1

theorem Books.total_eq_zero (hb : Books total m received givenBack) (hh : h ∉ m) : total h = 0 := by
  obtain ⟨hm, -⟩ := hb h
  rw [Std.ExtTreeMap.getElem?_eq_none hh] at hm
  by_contra hne
  simp [hne] at hm

theorem Books.congr {total' : IBufferHandle → Nat} (hb : Books total m received givenBack)
    (ht : ∀ k, total' k = total k) : Books total' m received givenBack := by
  intro k
  rw [ht]
  exact hb k

/-- A new delivery of a handle that nobody holds. -/
theorem Books.receive (hb : Books total m received givenBack) (h0 : total h = 0) :
    Books (fun k => total k + if h = k then 1 else 0) (m.insertIfNew h 1) (received ++ [h])
      givenBack := by
  intro k
  obtain ⟨hm, hr⟩ := hb k
  rw [OrdMap.getElem?_emplace, List.count_append, List.count_singleton]
  by_cases hk : h = k
  · subst hk
    simp [hm, hr, h0]
  · simp [hk, hm, hr]

/-- A held handle gets one holder more. -/
theorem Books.link (hb : Books total m received givenBack) (h0 : total h ≠ 0) {n : UInt32}
    (hn : m[h]? = some n) : Books (fun k => total k + if h = k then 1 else 0) (m.insert h (n + 1))
      received givenBack := by
  intro k
  obtain ⟨hm, hr⟩ := hb k
  rw [Std.ExtTreeMap.getElem?_insert]
  by_cases hk : h = k
  · subst hk
    rw [if_neg h0] at hm hr
    obtain rfl := Option.some.inj (hn.symm.trans hm)
    simp [hr, UInt32.ofNat_add]
  · simp [hk, hm, hr]

/-- A holder releases a handle, and the last one gives it back. -/
theorem Books.release (hb : Books total s.track.bufferMap s.received s.givenBack)
    (h0 : total h ≠ 0) (hlt : total h < 2 ^ 32) (hcut : s.track.cutsShort cfg h = false) :
    ∃ m givenBack, s.release cfg h =
        { s with track := { s.track with bufferMap := m }, givenBack := givenBack } ∧
      Books (fun k => total k - if h = k then 1 else 0) m s.received givenBack := by
  have hmh := (hb h).1
  rw [if_neg h0] at hmh
  by_cases hone : total h = 1
  · refine ⟨s.track.bufferMap.erase h, s.givenBack ++ [h], ?_, fun k => ?_⟩
    · simp [TrackFlow.release, TrackSource.returnBufferToProducer, hmh, hone]
    · obtain ⟨hm, hr⟩ := hb k
      rw [Std.ExtTreeMap.getElem?_erase, List.count_append, List.count_singleton]
      by_cases hk : h = k
      · subst hk
        simp [hone, hr]
      · simp [hk, hm, hr]
  · have hne : UInt32.ofNat (total h) ≠ 1 := by
      intro heq
      apply hone
      have hnat := congrArg UInt32.toNat heq
      rwa [UInt32.toNat_ofNat_of_lt' hlt, UInt32.toNat_one] at hnat
    have hrest : ¬ (s.track.numConsumers = 0 ∧ cfg.rescaler = true) := by
      rintro ⟨hnone, hresc⟩
      simp [TrackSource.cutsShort, hnone, hresc, hmh, hne] at hcut
    refine ⟨s.track.bufferMap.insert h (.ofNat (total h) - 1), s.givenBack, ?_, fun k => ?_⟩
    · simp [TrackFlow.release, TrackSource.returnBufferToProducer, hmh, hne, hrest]
    · obtain ⟨hm, hr⟩ := hb k
      rw [Std.ExtTreeMap.getElem?_insert]
      by_cases hk : h = k
      · subst hk
        have hsub : total h - 1 ≠ 0 := by omega
        have hval : UInt32.ofNat (total h) - 1 = .ofNat (total h - 1) := by
          rw [UInt32.ofNat_sub (by omega)]
          rfl
        simp [hsub, hval, hr, h0]
      · simp [hk, hm, hr]

def arrivingOf (s : TrackFlow) (h : IBufferHandle) : Nat :=
  match s.arriving with
  | some a => if a.buffer.handle = h then 1 else 0
  | none => 0

/-- The places outside the linked consumers from which the handle is still to be released. -/
def own (s : TrackFlow) (h : IBufferHandle) : Nat :=
  s.arrivingOf h + s.track.framesReceived.countP (·.handle = h) +
    s.track.framesBeingEncoded.countP (fun b => b.needsReturn ∧ b.handle = h) +
    s.client.countP (·.2 = h)

theorem arrivingOf_eq {x : Arrival} (ha : s.arriving = some x) :
    s.arrivingOf h = if x.buffer.handle = h then 1 else 0 := by simp [arrivingOf, ha]

/-- What the encoder has is queued for its return, under the address that it was given. -/
structure Encoding (cfg : TrackConfig) (encoder : List BufferDescriptor)
    (queue encoded : List StreamBuffer) (buffersMap : OrdMap UInt64 IBufferHandle) : Prop where
  perm : (encoder.map (·.data)).Perm (encoded.map fun b => cfg.getAllocBufferHandle b.handle)
  nodup : (encoded.map (·.handle)).Nodup
  mapped : ∀ b ∈ encoded, buffersMap[cfg.getAllocBufferHandle b.handle]? = some b.handle
  queued : ∀ b ∈ encoded, b.needsReturn = false → ∃ q ∈ queue, q.handle = b.handle

/-- Outside time lapse a frame is marked for its return only when it leaves the queue. -/
structure Unmarked (queue : List StreamBuffer) (arriving : Option Arrival) : Prop where
  queue : ∀ q ∈ queue, q.needsReturn = false
  arriving : ∀ b, arriving = some (.prepared b) ∨ arriving = some (.linked b) →
    b.needsReturn = false

/-- What the client has is listed under its file descriptor. -/
structure Listed (bufferList : OrdMap UInt32 StreamBuffer)
    (client : List (BnBuffer × IBufferHandle)) : Prop where
  mem : ∀ e ∈ client, ∃ b, bufferList[e.1.ionFd.toUInt32]? = some b ∧ b.handle = e.2
  nodup : (client.map (·.1.ionFd)).Nodup

/-- The books agree with the holders; `o` is a handle whose release is under way. -/
structure Sound (cfg : TrackConfig) (o : Option IBufferHandle) (s : TrackFlow) : Prop where
  tidy : s.flow.Tidy
  books : Books (fun h => s.own h + s.flow.out h + if o = some h then 1 else 0) s.track.bufferMap
    s.received s.givenBack
  own_le : ∀ h, s.own h ≤ 1
  fresh : ∀ b, s.arriving = some (.counted b) ∨ s.arriving = some (.prepared b) →
    s.flow.out b.handle = 0
  consumers : s.track.numConsumers = .ofNat s.flow.producer.bufferConsumers.size
  encoding : Encoding cfg s.encoder s.track.framesReceived s.track.framesBeingEncoded
    s.track.buffersMap
  unmarked : cfg.timeLapseInterval = none → Unmarked s.track.framesReceived s.arriving
  listed : Listed s.track.bufferList s.client

theorem sound_initial : Sound cfg none {} := by
  have hown : ∀ h, own {} h = 0 := fun h => rfl
  refine ⟨Flow.tidy_initial, fun h => ?_, fun h => ?_, fun b _ => Flow.out_initial, rfl,
    ⟨?_, ?_, ?_, ?_⟩, fun _ => ⟨?_, ?_⟩, ⟨?_, ?_⟩⟩
  · simp [hown, Flow.out_initial]
  · simp [hown]
  all_goals simp

/-- The handle of the arriving frame is in no other place. -/
theorem Sound.own_of_arriving (hs : Sound cfg none s) {x : Arrival} (ha : s.arriving = some x) :
    s.own x.buffer.handle = 1 := by
  have hle := hs.own_le x.buffer.handle
  have hpos : s.arrivingOf x.buffer.handle = 1 := by simp [arrivingOf, ha]
  simp only [own, hpos] at hle ⊢
  omega

/-- A single holder never meets the shortcut. -/
theorem Sound.cutsShort_eq_false (hs : Sound cfg none s) (hone : s.own h + s.flow.out h = 1) :
    s.track.cutsShort cfg h = false := by
  have hm := (hs.books h).1
  simp [hone] at hm
  simp [TrackSource.cutsShort, hm]

theorem Sound.release (hs : Sound cfg (some h) s) (hcut : s.track.cutsShort cfg h = false) :
    Sound cfg none (s.release cfg h) := by
  have hown := hs.own_le h
  have hlinked := Flow.out_le_one (h := h) hs.tidy
  obtain ⟨m, givenBack, heq, hbooks⟩ := hs.books.release (by simp) (by simp; omega) hcut
  rw [heq]
  refine ⟨hs.tidy, hbooks.congr fun k => ?_, hs.own_le, hs.fresh, hs.consumers,
    hs.encoding, hs.unmarked, hs.listed⟩
  change s.own k + s.flow.out k + _ = s.own k + s.flow.out k + _ - _
  by_cases hk : h = k <;> simp [hk]

theorem sound_onFrameAvailable (hs : Sound cfg none s) (hnew : b.handle ∉ s.track.bufferMap)
    (ht : s.onFrameAvailable b = some t) : Sound cfg none t := by
  unfold onFrameAvailable at ht
  split at ht
  · cases ht
  next hnone =>
    obtain rfl := Option.some.inj ht
    have h0 := hs.books.total_eq_zero hnew
    set t : TrackFlow := { s with
      track := s.track.count b.handle, arriving := some (.counted b),
      received := s.received ++ [b.handle] } with htdef
    have hown : ∀ k, t.own k = s.own k + if b.handle = k then 1 else 0 := by
      intro k
      by_cases hk : b.handle = k
      · simp [own, arrivingOf, hnone, htdef, Arrival.buffer, TrackSource.count, hk]
        omega
      · simp [own, arrivingOf, hnone, htdef, Arrival.buffer, TrackSource.count, hk]
    refine ⟨hs.tidy, (hs.books.receive h0).congr fun k => ?_, fun k => ?_, fun b' hb' => ?_,
      hs.consumers, hs.encoding, fun htl => ⟨(hs.unmarked htl).queue, by simp [htdef]⟩, hs.listed⟩
    · rw [hown]
      change s.own k + _ + s.flow.out k + _ = s.own k + s.flow.out k + _ + _
      omega
    · have hle := hs.own_le k
      rw [hown]
      split
      next hk =>
        subst hk
        omega
      next => omega
    · obtain rfl : b = b' := by simpa [htdef] using hb'
      change s.flow.out b.handle = 0
      omega

/-- The thread in `OnFrameAvailable` lets go of its frame. -/
theorem Sound.leave (hs : Sound cfg none s) {x : Arrival} (ha : s.arriving = some x) :
    Sound cfg (some x.buffer.handle) { s with arriving := none } := by
  have hown : ∀ k, s.own k =
      own { s with arriving := none } k + if x.buffer.handle = k then 1 else 0 := by
    intro k
    simp only [own, arrivingOf, ha]
    omega
  refine ⟨hs.tidy, hs.books.congr fun k => ?_, fun k => ?_, by simp, hs.consumers,
    hs.encoding, fun htl => ⟨(hs.unmarked htl).queue, by simp⟩, hs.listed⟩
  · rw [hown]
    change _ + s.flow.out k + _ = _ + s.flow.out k + _
    simp
    omega
  · have hle := hs.own_le k
    rw [hown] at hle
    omega

theorem sound_prepare (hs : Sound cfg none s) {encodes : UInt32}
    (ht : s.prepare cfg encodes = some t) : Sound cfg none t := by
  unfold prepare at ht
  split at ht
  next b ha =>
    split at ht
    · obtain rfl := Option.some.inj ht
      have hone := hs.own_of_arriving ha
      have hfresh := hs.fresh b (.inl ha)
      exact (hs.leave ha).release (hs.cutsShort_eq_false (by rw [hone]; exact congrArg (1 + ·) hfresh))
    · obtain rfl := Option.some.inj ht
      have hhandle : (TrackSource.prepare cfg encodes b).handle = b.handle := by
        unfold TrackSource.prepare
        split <;> rfl
      have hown : ∀ k, own { s with
          arriving := some (.prepared (TrackSource.prepare cfg encodes b)) } k = s.own k := by
        intro k
        by_cases hk : b.handle = k <;> simp [own, arrivingOf, ha, Arrival.buffer, hhandle, hk]
      refine ⟨hs.tidy, hs.books.congr fun k => ?_, fun k => ?_, fun b' hb' => ?_, hs.consumers,
        hs.encoding, fun htl => ⟨(hs.unmarked htl).queue, fun b' hb' => ?_⟩, hs.listed⟩
      · rw [hown]
      · rw [hown]
        exact hs.own_le k
      · obtain rfl : TrackSource.prepare cfg encodes b = b' := by simpa using hb'
        rw [hhandle]
        exact hs.fresh b (.inl ha)
      · obtain rfl : TrackSource.prepare cfg encodes b = b' := by simpa using hb'
        simp [TrackSource.prepare, htl]
  next => cases ht

/-- The linked consumers and their producer go on without the track. -/
theorem Sound.onFlow (hs : Sound cfg none s) {flow : Flow} (htidy : flow.Tidy)
    (howed : ∀ k, flow.owed k = s.flow.owed k) (hret : flow.returned = s.flow.returned)
    (hcs : flow.producer.bufferConsumers.size = s.flow.producer.bufferConsumers.size) :
    Sound cfg none { s with flow } := by
  have hout : ∀ k, flow.out k = s.flow.out k := by
    intro k
    have hk := howed k
    rw [← Flow.out_add_returned, ← Flow.out_add_returned, hret] at hk
    omega
  refine ⟨htidy, hs.books.congr fun k => ?_, hs.own_le, fun b hb => ?_, hcs ▸ hs.consumers,
    hs.encoding, hs.unmarked, hs.listed⟩
  · rw [hout]
    rfl
  · rw [hout]
    exact hs.fresh b hb

/-- The loop of the producer and the returns to it, step by step. -/
theorem sound_onFlow (hs : Sound cfg none s) {x : Flow.Action}
    (hx : x = .onFrameAvailable ∨ x = .endNotify ∨
      ∃ c h, x = .notifyBufferReturned c h ∧ (c, h) ∈ s.flow.held)
    (ht : s.onFlow (s.flow.step x) = some t) : Sound cfg none t := by
  obtain ⟨flow, hflow, rfl⟩ := Option.map_eq_some_iff.mp ht
  have hheld : ∀ c h, x = .notifyBufferReturned c h → (c, h) ∈ s.flow.held := by
    rintro c h rfl
    simpa using hx
  have hne : ∀ h, x ≠ .notifyBuffer h := by
    rintro h rfl
    simp at hx
  obtain ⟨htidy, -, howed⟩ := Flow.tidy_step hs.tidy hne hheld hflow
  rcases hx with rfl | rfl | ⟨c, h, rfl, -⟩
  · obtain ⟨h, c, cs, -, rfl⟩ := Flow.onFrameAvailable_cases hflow
    exact hs.onFlow htidy howed rfl rfl
  · obtain ⟨h, -, rfl⟩ := Flow.endNotify_cases hflow
    exact hs.onFlow htidy howed rfl rfl
  · obtain rfl := Option.some.inj hflow
    refine hs.onFlow htidy howed rfl ?_
    change (s.flow.producer.notifyBufferReturned h).1.bufferConsumers.size = _
    unfold BufferProducer.notifyBufferReturned
    split
    · rfl
    · split <;> rfl

theorem sound_consumers (hs : Sound cfg none s) {o : Option BufferProducer}
    (ho : ∀ p, o = some p → p.buffers = s.flow.producer.buffers)
    (ht : (s.onFlow (s.flow.withConsumers o)).map countConsumers = some t) : Sound cfg none t := by
  obtain ⟨u, hu, rfl⟩ := Option.map_eq_some_iff.mp ht
  obtain ⟨flow, hflow, rfl⟩ := Option.map_eq_some_iff.mp hu
  obtain ⟨htidy, -⟩ := Flow.tidy_withConsumers hs.tidy hflow ho
  obtain ⟨p, -, rfl⟩ := Flow.withConsumers_cases hflow ho
  exact ⟨htidy, hs.books, hs.own_le, hs.fresh, rfl, hs.encoding, hs.unmarked, hs.listed⟩

/-- With consumers the frame is counted once for all of them; their producer has some. -/
theorem Sound.link_cases (hs : Sound cfg none s) (ht : s.link cfg = some t) :
    ∃ b, s.arriving = some (.prepared b) ∧
      (t = { s with arriving := some (.linked b) } ∨
      ∃ n flow, s.track.bufferMap[b.handle]? = some n ∧
        s.flow.producer.bufferConsumers.isEmpty = false ∧
        s.flow.notifyBuffer b.handle = some flow ∧
        t = { s with
          track := { s.track with bufferMap := s.track.bufferMap.insert b.handle (n + 1) }
          flow
          arriving := some (.linked b) }) := by
  unfold link at ht
  split at ht
  next b ha =>
    refine ⟨b, ha, ?_⟩
    split at ht
    next => exact .inl (Option.some.inj ht).symm
    next hne =>
      obtain ⟨u, hu, ht⟩ := Option.bind_eq_some_iff.mp ht
      obtain ⟨flow, hflow, rfl⟩ := Option.map_eq_some_iff.mp ht
      obtain ⟨n, hn, rfl⟩ := Option.map_eq_some_iff.mp hu
      have hsome : s.flow.producer.bufferConsumers.isEmpty = false := by
        rw [hs.consumers] at hne
        rw [Std.ExtTreeMap.isEmpty_eq_size_beq_zero]
        by_contra h0
        simp at h0
        simp [h0] at hne
      exact .inr ⟨n, flow, hn, hsome, hflow, by simp [hsome]⟩
  next => cases ht

theorem sound_link (hs : Sound cfg none s) (hsize : s.flow.producer.bufferConsumers.size < 2 ^ 32)
    (ht : s.link cfg = some t) : Sound cfg none t := by
  obtain ⟨b, ha, hcases⟩ := hs.link_cases ht
  have hone : s.own b.handle = 1 := hs.own_of_arriving ha
  have hunmarked : cfg.timeLapseInterval = none →
      Unmarked s.track.framesReceived (some (.linked b)) := by
    intro htl
    have hold := hs.unmarked htl
    refine ⟨hold.queue, fun b' hb' => ?_⟩
    obtain rfl : b = b' := by simpa using hb'
    exact hold.arriving b (.inl ha)
  have harriving : ∀ k, arrivingOf { s with arriving := some (.linked b) } k = s.arrivingOf k := by
    intro k
    rw [arrivingOf_eq ha]
    exact arrivingOf_eq (x := .linked b) rfl
  have hown : ∀ k, own { s with arriving := some (.linked b) } k = s.own k := by
    intro k
    simp only [own, harriving]
  rcases hcases with rfl | ⟨n, flow, hn, hsome, hflow, rfl⟩
  · refine ⟨hs.tidy, hs.books.congr fun k => ?_, fun k => ?_, by simp, hs.consumers, hs.encoding,
      hunmarked, hs.listed⟩
    · rw [hown]
    · rw [hown]
      exact hs.own_le k
  · obtain ⟨htidy, hcs, hout⟩ :=
      Flow.out_notifyBuffer hs.tidy hflow (hs.fresh b (.inr ha)) hsome hsize
    refine ⟨htidy, (hs.books.link (by simp [hone]) hn).congr fun k => ?_, fun k => ?_, by simp,
      hcs ▸ hs.consumers, hs.encoding, hunmarked, hs.listed⟩
    · change own { s with arriving := some (.linked b) } k + flow.out k + _ = _
      rw [hown, hout]
      simp
      omega
    · exact (hown k).symm ▸ hs.own_le k

/-- A handle that is on its way finds its new place. -/
theorem Sound.hold (hs : Sound cfg (some h) s) (h0 : s.own h = 0) {own' : IBufferHandle → Nat}
    (hown : ∀ k, own' k = s.own k + if h = k then 1 else 0) :
    Books (fun k => own' k + s.flow.out k + if none = some k then 1 else 0) s.track.bufferMap
      s.received s.givenBack ∧ ∀ k, own' k ≤ 1 := by
  refine ⟨hs.books.congr fun k => ?_, fun k => ?_⟩
  · rw [hown]
    simp
    omega
  · have hle := hs.own_le k
    rw [hown]
    split
    next hk =>
      subst hk
      omega
    next => omega

/-- A frame that has left the thread is held by the client. -/
theorem Sound.toClient (hs : Sound cfg (some b.handle) s) (h0 : s.own b.handle = 0)
    (hnew : b.fd.toUInt32 ∉ s.track.bufferList) :
    Sound cfg none (s.toClient b) := by
  have hown : ∀ k, (s.toClient b).own k = s.own k + if b.handle = k then 1 else 0 := by
    intro k
    simp only [own, arrivingOf, TrackFlow.toClient, List.countP_append, List.countP_singleton,
      decide_eq_true_eq]
    omega
  have hother : ∀ e ∈ s.client, e.1.ionFd.toUInt32 ≠ b.fd.toUInt32 := by
    intro e he heq
    obtain ⟨b', hb', -⟩ := hs.listed.mem e he
    rw [heq, Std.ExtTreeMap.getElem?_eq_none hnew] at hb'
    cases hb'
  obtain ⟨hbooks, hle⟩ := hs.hold h0 hown
  refine ⟨hs.tidy, hbooks, hle, hs.fresh, hs.consumers, hs.encoding, hs.unmarked,
    ⟨fun e he => ?_, ?_⟩⟩
  · change ∃ b', (s.track.bufferList.insertIfNew b.fd.toUInt32 b)[_]? = some b' ∧ _
    rw [OrdMap.getElem?_emplace]
    rcases List.mem_append.mp he with he | he
    · rw [if_neg (Ne.symm (hother e he))]
      exact hs.listed.mem e he
    · obtain rfl : e = (b.toBnBuffer, b.handle) := by simpa using he
      refine ⟨b, ?_, rfl⟩
      simp [StreamBuffer.toBnBuffer, Std.ExtTreeMap.getElem?_eq_none hnew]
  · change ((s.client ++ [(b.toBnBuffer, b.handle)]).map (·.1.ionFd)).Nodup
    rw [List.map_append, List.nodup_append]
    refine ⟨hs.listed.nodup, by simp, ?_⟩
    intro fd hmem fd' hmem'
    obtain ⟨e, he, rfl⟩ := List.mem_map.mp hmem
    obtain rfl : fd' = b.fd := by simpa [StreamBuffer.toBnBuffer] using hmem'
    intro heq
    exact hother e he (by rw [heq])

theorem Sound.pushFrameToQueue (hs : Sound cfg (some b.handle) s) (h0 : s.own b.handle = 0)
    (hset : cfg.timeLapseInterval = none → b.needsReturn = false) :
    Sound cfg none (s.pushFrameToQueue b) := by
  have hown : ∀ k, (s.pushFrameToQueue b).own k = s.own k + if b.handle = k then 1 else 0 := by
    intro k
    simp only [own, arrivingOf, TrackFlow.pushFrameToQueue, List.countP_append,
      List.countP_singleton, decide_eq_true_eq]
    omega
  obtain ⟨hbooks, hle⟩ := hs.hold h0 hown
  refine ⟨hs.tidy, hbooks, hle, hs.fresh, hs.consumers,
    ⟨hs.encoding.perm, hs.encoding.nodup, hs.encoding.mapped, fun e he hunset => ?_⟩,
    fun htl => ⟨fun q hq => ?_, (hs.unmarked htl).arriving⟩, hs.listed⟩
  · obtain ⟨q, hq, hqe⟩ := hs.encoding.queued e he hunset
    exact ⟨q, List.mem_append_left _ hq, hqe⟩
  · rcases List.mem_append.mp hq with hq | hq
    · exact (hs.unmarked htl).queue q hq
    · obtain rfl : q = b := by simpa using hq
      exact hset htl

/-- The arriving frame goes to the client, to the queue of the encoder or back. -/
theorem sound_pass (hs : Sound cfg none s)
    (hback : ∀ b, s.arriving = some (.linked b) → s.track.destination cfg = .producer →
      s.track.cutsShort cfg b.handle = false)
    (hfd : ∀ b, s.arriving = some (.linked b) → s.track.destination cfg = .client →
      b.fd.toUInt32 ∉ s.track.bufferList)
    (ht : s.pass cfg = some t) : Sound cfg none t := by
  unfold pass at ht
  split at ht
  next b ha hfree =>
    have hleft : Sound cfg (some b.handle) { s with arriving := none } := hs.leave ha
    have h0 : own { s with arriving := none } b.handle = 0 := by
      have hone : s.own b.handle = 1 := hs.own_of_arriving ha
      have hpos : s.arrivingOf b.handle = 1 := by
        rw [arrivingOf_eq ha]
        exact if_pos rfl
      simp only [own, hpos] at hone
      simp only [own, arrivingOf]
      omega
    split at ht
    next hdest =>
      obtain rfl := Option.some.inj ht
      exact hleft.release (hback b ha hdest)
    next hdest =>
      obtain rfl := Option.some.inj ht
      exact hleft.toClient h0 (hfd b ha hdest)
    next hdest =>
      obtain rfl := Option.some.inj ht
      exact hleft.pushFrameToQueue h0 fun htl => (hs.unmarked htl).arriving b (.inr ha)
  next => cases ht

end TrackFlow

end QmmfSdk.Pipeline
