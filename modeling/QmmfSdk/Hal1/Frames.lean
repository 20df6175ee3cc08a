import QmmfSdk.Hal1.RunningStreams

/-! The frames of one HAL1 port: from the callback of the device to the consumers and back, with
the calls that start and stop the port in between. -/
namespace QmmfSdk.Hal1

open Library
open Pipeline (BufferProducer ConsumerKey Flow IBufferHandle)

/-- Where the thread is that has a frame: in `StreamCallback` before or after it took
`buffer_lock_`, in the producer, or in `NotifyBufferReturned`. -/
inductive Place where
  | arriving
  | counted
  | notified
  | returning
  deriving DecidableEq, Repr

/-- A frame the device has handed out, with its address there and its imported buffer. -/
structure Frame where
  data : UInt64
  handle : IBufferHandle
  place : Place
  deriving DecidableEq, Repr

/-- A port with the frames that are out, by their fds, and what the device gave and got back. -/
structure PortFrames where
  port : CameraPort
  out : OrdMap Int32 Frame := ∅
  delivered : List UInt64 := []
  released : List UInt64 := []

namespace PortFrames

inductive Action where
  | streamCallback (fd : Int32) (data : UInt64) (handle : IBufferHandle)
  | countFrame (fd : Int32)
  | notifyBuffer (fd : Int32)
  | onFrameAvailable
  | endNotify
  | consumerReturns (c : ConsumerKey) (h : IBufferHandle)
  | callSource (fd : Int32)
  | releaseFrame (fd : Int32)
  | init (param : StreamParam)
  | start
  | stop
  | addConsumer (c : ConsumerKey)
  | removeConsumer (c : ConsumerKey)
  | deInit

def setFlow (q : PortFrames) (flow : Flow) : PortFrames :=
  { q with port := { q.port with flow := flow } }

def setFrame (q : PortFrames) (fd : Int32) (f : Frame) : PortFrames :=
  { q with out := q.out.insert fd f }

/-- Without consumers, or stopped, a frame goes back at once. -/
def streamCallback (q : PortFrames) (fd : Int32) (data : UInt64) (handle : IBufferHandle) :
    PortFrames :=
  if q.port.flow.producer.bufferConsumers.isEmpty = false ∧ q.port.portState = .started then
    { q with
      port := { q.port with frameNumber := q.port.frameNumber + 1 }
      out := q.out.insert fd ⟨data, handle, .arriving⟩
      delivered := data :: q.delivered }
  else { q with delivered := data :: q.delivered, released := data :: q.released }

/-- Under `buffer_lock_`. -/
def countFrame (q : PortFrames) (fd : Int32) : Option PortFrames :=
  match q.out[fd]? with
  | some ⟨data, handle, .arriving⟩ =>
    some { q.setFrame fd ⟨data, handle, .counted⟩ with
      port := { q.port with
        bufferCount := q.port.bufferCount + 1
        bufferMap := q.port.bufferMap.insertIfNew fd data } }
  | _ => none

/-- The last consumer may have left since the callback looked: then the producer calls the port. -/
def notifyBuffer (q : PortFrames) (fd : Int32) : Option PortFrames :=
  match q.out[fd]? with
  | some ⟨data, handle, .counted⟩ =>
    (q.port.flow.notifyBuffer handle).map fun flow =>
      (q.setFrame fd ⟨data, handle,
        if q.port.flow.producer.bufferConsumers.isEmpty then .returning else .notified⟩).setFlow flow
  | _ => none

/-- The producer calls `NotifyBufferReturned` of the port, which frees the imported buffer. -/
def callSource (q : PortFrames) (fd : Int32) : Option PortFrames :=
  match q.out[fd]? with
  | some ⟨data, handle, .notified⟩ =>
    (q.port.flow.callSource handle).map fun flow =>
      (q.setFrame fd ⟨data, handle, .returning⟩).setFlow flow
  | _ => none

/-- Under `buffer_lock_`; `none` is the assertion on `buffer_map_`. -/
def releaseFrame (q : PortFrames) (fd : Int32) : Option PortFrames :=
  match q.out[fd]? with
  | some ⟨_, _, .returning⟩ =>
    (q.port.bufferMap[fd]?).map fun opaq =>
      { q with
        port := { q.port with
          bufferMap := q.port.bufferMap.erase fd
          bufferCount := q.port.bufferCount - 1 }
        out := q.out.erase fd
        released := opaq :: q.released }
  | _ => none

def control (q : PortFrames) (port : Option CameraPort) : Option PortFrames :=
  port.map fun port => { q with port := port }

def step (q : PortFrames) : Action → Option PortFrames
  | .streamCallback fd data handle => some (q.streamCallback fd data handle)
  | .countFrame fd => q.countFrame fd
  | .notifyBuffer fd => q.notifyBuffer fd
  | .onFrameAvailable => (q.port.flow.onFrameAvailable).map q.setFlow
  | .endNotify => (q.port.flow.endNotify).map q.setFlow
  | .consumerReturns c h => some (q.setFlow (q.port.flow.notifyBufferReturned c h))
  | .callSource fd => q.callSource fd
  | .releaseFrame fd => q.releaseFrame fd
  | .init param => q.control (some (q.port.init param))
  | .start => q.control (some q.port.start)
  | .stop => q.control (some q.port.stop)
  | .addConsumer c => q.control (q.port.addConsumer c)
  | .removeConsumer c => q.control (q.port.removeConsumer c)
  | .deInit => q.control q.port.deInit

/-- What the device, the allocator and the consumers promise: a frame is handed out once, a handle
is imported once, and only what was delivered comes back. -/
def InContract (q : PortFrames) : Action → Prop
  | .streamCallback fd _ handle => fd ∉ q.out ∧
      ∀ (k : Int32) (f : Frame), q.out[k]? = some f → f.place ≠ .returning → f.handle ≠ handle
  | .notifyBuffer _ => q.port.flow.producer.bufferConsumers.size < 2 ^ 32
  | .consumerReturns c h => (c, h) ∈ q.port.flow.held
  | _ => True

def lts : LTS PortFrames Action := .ofStep step

variable {q r : PortFrames} {a : Action} {as : List Action} {fd : Int32} {h : IBufferHandle}
  {f : Frame}

/-- A handle the producer still has, with a consumer or on the way back. -/
def InProducer (flow : Flow) (h : IBufferHandle) : Prop := flow.unreturned h ≠ 0 ∨ h ∈ flow.releasing

structure Sound (q : PortFrames) : Prop where
  tidy : q.port.flow.Tidy
  map : ∀ fd : Int32, q.port.bufferMap[fd]? =
    (q.out[fd]?).bind fun f : Frame => if f.place = .arriving then none else some f.data
  count : q.port.bufferCount = q.port.bufferMap.size
  handle : ∀ (k l : Int32) (f g : Frame), q.out[k]? = some f → q.out[l]? = some g → f.place ≠ .returning →
    g.place ≠ .returning → f.handle = g.handle → k = l
  producer : ∀ h, InProducer q.port.flow h ↔
    ∃ (fd : Int32) (f : Frame), q.out[fd]? = some f ∧ f.place = .notified ∧ f.handle = h
  balance : ∀ d, q.delivered.count d = q.released.count d + q.out.sizeWhere fun f : Frame => f.data = d

theorem inProducer_iff {flow : Flow} : InProducer flow h ↔ flow.returned.count h < flow.owed h := by
  simp only [InProducer, Flow.owed, ← List.count_pos_iff (a := h) (l := flow.releasing)]
  split <;> omega

/-- What leaves the owed and the returned handles as they are leaves those in the producer. -/
theorem inProducer_congr {flow flow' : Flow} (howed : ∀ k, flow'.owed k = flow.owed k)
    (hret : flow'.returned = flow.returned) : InProducer flow' h ↔ InProducer flow h := by
  rw [inProducer_iff, inProducer_iff, howed, hret]

theorem sound_fresh {trackId : UInt32} : Sound ⟨{ trackId }, ∅, [], []⟩ := by
  refine ⟨Flow.tidy_initial, by simp, rfl, by simp, fun h => ?_, fun d => ?_⟩
  · simp [inProducer_iff, Flow.owed_initial]
  · have hnone : OrdMap.sizeWhere (∅ : OrdMap Int32 Frame) (fun f => f.data = d) = 0 :=
      Nat.le_zero.mp OrdMap.sizeWhere_le
    simp [hnone]

/-- The steps of the producer that neither take a handle nor give one back. -/
theorem sound_setFlow {flow : Flow} (hq : q.Sound) (ht : flow.Tidy)
    (howed : ∀ k, flow.owed k = q.port.flow.owed k)
    (hret : flow.returned = q.port.flow.returned) : (q.setFlow flow).Sound :=
  ⟨ht, hq.map, hq.count, hq.handle, fun _ => (inProducer_congr howed hret).trans (hq.producer _),
    hq.balance⟩

/-- The control of a port touches neither its frames nor what the producer counts. -/
theorem sound_control {port : CameraPort} (hq : q.Sound) (ht : port.flow.Tidy)
    (howed : ∀ k, port.flow.owed k = q.port.flow.owed k)
    (hret : port.flow.returned = q.port.flow.returned)
    (hmap : port.bufferMap = q.port.bufferMap) (hcount : port.bufferCount = q.port.bufferCount) :
    ({ q with port := port } : PortFrames).Sound :=
  ⟨ht, fun fd => hmap ▸ hq.map fd, by rw [hcount, hmap]; exact hq.count, hq.handle,
    fun _ => (inProducer_congr howed hret).trans (hq.producer _), hq.balance⟩

theorem sound_streamCallback {data : UInt64} (hq : q.Sound)
    (hok : q.InContract (.streamCallback fd data h)) : (q.streamCallback fd data h).Sound := by
  obtain ⟨hnew, hfresh⟩ := hok
  have hnone : q.out[fd]? = none := Std.ExtTreeMap.getElem?_eq_none hnew
  unfold streamCallback
  split
  · refine ⟨hq.tidy, fun k => ?_, hq.count, fun k l f g hk hl hfk hgl heq => ?_, fun k => ?_,
      fun d => ?_⟩
    · rw [hq.map k, Std.ExtTreeMap.getElem?_insert]
      by_cases hk : fd = k
      · subst hk
        simp [hnone]
      · simp [hk]
    · rw [Std.ExtTreeMap.getElem?_insert] at hk hl
      simp only [Std.compare_eq_iff_eq] at hk hl
      split_ifs at hk hl with h1 h2 h2
      · exact h1.symm.trans h2
      · obtain rfl := Option.some.inj hk
        exact absurd heq.symm (hfresh l g hl hgl)
      · obtain rfl := Option.some.inj hl
        exact absurd heq (hfresh k f hk hfk)
      · exact hq.handle k l f g hk hl hfk hgl heq
    · rw [hq.producer k]
      refine exists_congr fun l => exists_congr fun g => ?_
      rw [Std.ExtTreeMap.getElem?_insert]
      by_cases hl : fd = l
      · subst hl
        simp only [hnone, Std.compare_self, if_true, Option.some.injEq]
        refine iff_of_false nofun ?_
        rintro ⟨rfl, hplace, -⟩
        cases hplace
      · simp [hl]
    · have hsize := OrdMap.sizeWhere_insert (m := q.out) (k := fd) (v := ⟨data, h, .arriving⟩)
        (p := fun f : Frame => f.data = d)
      have hbal := hq.balance d
      simp only [hnone, Option.any_none, Bool.toNat_false, Nat.add_zero] at hsize
      simp only [List.count_cons, hsize, hbal]
      by_cases hd : data = d
      · simp [hd]
        omega
      · simp [hd]
  · refine ⟨hq.tidy, hq.map, hq.count, hq.handle, hq.producer, fun d => ?_⟩
    simp only [List.count_cons, hq.balance d]
    omega

/-- A frame that its callback still has is not in the producer. -/
theorem not_inProducer {data : UInt64} {p : Place} (hq : q.Sound)
    (hf : q.out[fd]? = some ⟨data, h, p⟩) (hp : p = .arriving ∨ p = .counted) :
    ¬ InProducer q.port.flow h := by
  rw [hq.producer]
  rintro ⟨l, g, hl, hplace, hhandle⟩
  obtain rfl := hq.handle fd l _ g hf hl (by rintro rfl; simp at hp) (by rw [hplace]; nofun)
    hhandle.symm
  rw [hf] at hl
  obtain rfl := Option.some.inj hl
  rw [show p = .notified from hplace] at hp
  simp at hp

/-- A frame that goes on to its next place. -/
theorem sound_move (port : CameraPort) {data : UInt64} {p p' : Place} (hq : q.Sound)
    (hf : q.out[fd]? = some ⟨data, h, p⟩) (hp : p ≠ .returning) (ht : port.flow.Tidy)
    (hmap : ∀ k : Int32, port.bufferMap[k]? =
      if fd = k then (if p' = .arriving then none else some data) else q.port.bufferMap[k]?)
    (hcount : port.bufferCount = port.bufferMap.size)
    (hprod : ∀ k, InProducer port.flow k ↔
      if h = k then p' = .notified else InProducer q.port.flow k) :
    ({ q with port := port, out := q.out.insert fd ⟨data, h, p'⟩ } : PortFrames).Sound := by
  have hget : ∀ k : Int32, (q.out.insert fd ⟨data, h, p'⟩)[k]? =
      if fd = k then some ⟨data, h, p'⟩ else q.out[k]? := by
    intro k
    simp [Std.ExtTreeMap.getElem?_insert]
  refine ⟨ht, fun k => ?_, hcount, fun k l f g hk hl hfk hgl heq => ?_, fun k => ?_, fun d => ?_⟩
  · rw [hmap, hget]
    split
    · rfl
    · exact hq.map k
  · rw [hget] at hk hl
    split_ifs at hk hl with h1 h2 h2
    · exact h1.symm.trans h2
    · obtain rfl := Option.some.inj hk
      exact h1.symm.trans (hq.handle fd l _ g hf hl hp hgl heq)
    · obtain rfl := Option.some.inj hl
      exact (hq.handle k fd f _ hk hf hfk hp heq).trans h2
    · exact hq.handle k l f g hk hl hfk hgl heq
  · rw [hprod]
    split
    · next hk =>
      subst hk
      constructor
      · rintro rfl
        exact ⟨fd, _, by rw [hget, if_pos rfl], rfl, rfl⟩
      · rintro ⟨l, g, hl, hplace, hhandle⟩
        rw [hget] at hl
        split at hl
        · obtain rfl := Option.some.inj hl
          exact hplace
        · next hne =>
          refine absurd (hq.handle fd l _ g hf hl hp ?_ hhandle.symm) hne
          rw [hplace]
          nofun
    · next hk =>
      rw [hq.producer k]
      refine exists_congr fun l => exists_congr fun g => ?_
      rw [hget]
      split
      · next hl =>
        subst hl
        rw [hf]
        refine iff_of_false ?_ ?_ <;>
        · rintro ⟨hg, -, hhandle⟩
          obtain rfl := Option.some.inj hg
          exact hk hhandle
      · exact Iff.rfl
  · have hsize := OrdMap.sizeWhere_insert (m := q.out) (k := fd) (v := ⟨data, h, p'⟩)
      (p := fun f : Frame => f.data = d)
    have hbal := hq.balance d
    rw [hf] at hsize
    simp only [Option.any_some] at hsize
    dsimp only
    omega

theorem countFrame_cases (hr : q.countFrame fd = some r) :
    ∃ data handle, q.out[fd]? = some ⟨data, handle, .arriving⟩ ∧
      r = { q.setFrame fd ⟨data, handle, .counted⟩ with
        port := { q.port with
          bufferCount := q.port.bufferCount + 1
          bufferMap := q.port.bufferMap.insertIfNew fd data } } := by
  unfold countFrame at hr
  split at hr
  · next data handle hf => exact ⟨data, handle, hf, (Option.some.inj hr).symm⟩
  · cases hr

theorem sound_countFrame (hq : q.Sound) (hr : q.countFrame fd = some r) : r.Sound := by
  obtain ⟨data, handle, hf, rfl⟩ := countFrame_cases hr
  have hnone : q.port.bufferMap[fd]? = none := by
    rw [hq.map, hf]
    rfl
  refine sound_move { q.port with
      bufferCount := q.port.bufferCount + 1
      bufferMap := q.port.bufferMap.insertIfNew fd data } hq hf nofun hq.tidy (fun k => ?_) ?_
    fun k => ?_
  · rw [OrdMap.getElem?_emplace, if_neg (show ¬ Place.counted = .arriving from nofun)]
    split
    · next hk =>
      subst hk
      rw [hnone]
      rfl
    · rfl
  · have hnot : fd ∉ q.port.bufferMap := by
      rw [Std.ExtTreeMap.mem_iff_isSome_getElem?, hnone]
      simp
    simp [Std.ExtTreeMap.size_insertIfNew, hnot, hq.count]
  · split
    · next hk =>
      subst hk
      exact iff_of_false (not_inProducer hq hf (.inl rfl)) nofun
    · exact Iff.rfl

theorem notifyBuffer_cases (hr : q.notifyBuffer fd = some r) :
    ∃ data handle flow, q.out[fd]? = some ⟨data, handle, .counted⟩ ∧
      q.port.flow.notifyBuffer handle = some flow ∧
      r = (q.setFrame fd ⟨data, handle, if q.port.flow.producer.bufferConsumers.isEmpty then
        .returning else .notified⟩).setFlow flow := by
  unfold notifyBuffer at hr
  split at hr
  · next data handle hf =>
    obtain ⟨flow, hflow, rfl⟩ := Option.map_eq_some_iff.mp hr
    exact ⟨data, handle, flow, hf, hflow, rfl⟩
  · cases hr

theorem sound_notifyBuffer (hq : q.Sound) (hok : q.InContract (.notifyBuffer fd))
    (hr : q.notifyBuffer fd = some r) : r.Sound := by
  obtain ⟨data, handle, flow, hf, hflow, rfl⟩ := notifyBuffer_cases hr
  have hout := not_inProducer hq hf (.inr rfl)
  simp only [InProducer, not_or, not_not] at hout
  obtain ⟨h0, hrel⟩ := hout
  obtain ⟨ht, howed⟩ := Flow.tidy_notifyBuffer hq.tidy hflow hrel (fun hne => absurd h0 hne)
    (by rw [h0, Nat.zero_add]; exact hok)
  refine sound_move { q.port with flow := flow } hq hf (by simp) ht (fun k => ?_) hq.count
    fun k => ?_
  · split
    · next hk =>
      subst hk
      rw [hq.map, hf]
      split <;> simp
    · rfl
  · rw [inProducer_iff, howed]
    have hback := not_inProducer hq hf (.inr rfl)
    rw [inProducer_iff] at hback
    have hle : q.port.flow.returned.count k ≤ q.port.flow.owed k := by
      simp only [Flow.owed]
      omega
    obtain ⟨-, ⟨hempty, rfl⟩ | ⟨hsome, rfl⟩⟩ := Flow.notifyBuffer_cases hflow
    · simp only [hempty, if_true]
      rw [List.count_append, List.count_singleton, inProducer_iff]
      by_cases hk : handle = k
      · subst hk
        simp only [h0, and_self, if_true, beq_self_eq_true]
        exact iff_of_false (by omega) (by simp)
      · simp [hk]
    · simp only [hsome, Bool.false_eq_true, if_false]
      rw [inProducer_iff]
      by_cases hk : handle = k
      · subst hk
        simp only [h0, and_self, if_true, iff_true]
        omega
      · simp [hk]

theorem callSource_cases (hr : q.callSource fd = some r) :
    ∃ data handle flow, q.out[fd]? = some ⟨data, handle, .notified⟩ ∧
      q.port.flow.callSource handle = some flow ∧
      r = (q.setFrame fd ⟨data, handle, .returning⟩).setFlow flow := by
  unfold callSource at hr
  split at hr
  · next data handle hf =>
    obtain ⟨flow, hflow, rfl⟩ := Option.map_eq_some_iff.mp hr
    exact ⟨data, handle, flow, hf, hflow, rfl⟩
  · cases hr

theorem sound_callSource (hq : q.Sound) (hr : q.callSource fd = some r) : r.Sound := by
  obtain ⟨data, handle, flow, hf, hflow, rfl⟩ := callSource_cases hr
  obtain ⟨ht, howed⟩ := Flow.tidy_callSource hq.tidy hflow
  obtain ⟨hmem, rfl⟩ := Flow.callSource_cases hflow
  refine sound_move { q.port with flow := _ } hq hf (by simp) ht (fun k => ?_) hq.count
    fun k => ?_
  · split
    · next hk =>
      subst hk
      rw [hq.map, hf]
      simp
    · rfl
  · rw [inProducer_iff, howed, List.count_append, List.count_singleton]
    by_cases hk : handle = k
    · subst hk
      -- the handle was owed once
      have hidle := hq.tidy.idle handle hmem
      have hone := List.count_eq_one_of_mem hq.tidy.nodup hmem
      simp only [Flow.owed, hone, hidle, if_true, beq_self_eq_true]
      exact iff_of_false (by omega) (by simp)
    · simp [inProducer_iff, hk]

theorem releaseFrame_cases (hr : q.releaseFrame fd = some r) :
    ∃ data handle opaq, q.out[fd]? = some ⟨data, handle, .returning⟩ ∧
      q.port.bufferMap[fd]? = some opaq ∧
      r = { q with
        port := { q.port with
          bufferMap := q.port.bufferMap.erase fd
          bufferCount := q.port.bufferCount - 1 }
        out := q.out.erase fd
        released := opaq :: q.released } := by
  unfold releaseFrame at hr
  split at hr
  · next data handle hf =>
    obtain ⟨opaq, hopaq, rfl⟩ := Option.map_eq_some_iff.mp hr
    exact ⟨data, handle, opaq, hf, hopaq, rfl⟩
  · cases hr

theorem sound_releaseFrame (hq : q.Sound) (hr : q.releaseFrame fd = some r) : r.Sound := by
  obtain ⟨data, handle, opaq, hf, hopaq, rfl⟩ := releaseFrame_cases hr
  obtain rfl : data = opaq := by simpa [hq.map, hf] using hopaq
  have hget : ∀ k : Int32, (q.out.erase fd)[k]? = if fd = k then none else q.out[k]? := by
    intro k
    simp [Std.ExtTreeMap.getElem?_erase]
  refine ⟨hq.tidy, fun k => ?_, ?_, fun k l f g hk hl hfk hgl heq => ?_, fun k => ?_, fun d => ?_⟩
  · simp only [hget, Std.ExtTreeMap.getElem?_erase, Std.compare_eq_iff_eq]
    split
    · rfl
    · exact hq.map k
  · have hmem : fd ∈ q.port.bufferMap := by
      rw [Std.ExtTreeMap.mem_iff_isSome_getElem?, hopaq]
      rfl
    have hpos : 0 < q.port.bufferMap.size := by
      by_contra hzero
      exact Std.ExtTreeMap.ne_empty_of_mem hmem
        (Std.ExtTreeMap.eq_empty_iff_size_eq_zero.mpr (by omega))
    have hcount := hq.count
    simp only [Std.ExtTreeMap.size_erase, Std.ExtTreeMap.contains_iff_mem.mpr hmem, if_true]
    omega
  · rw [hget] at hk hl
    split_ifs at hk hl
    exact hq.handle k l f g hk hl hfk hgl heq
  · rw [hq.producer k]
    refine exists_congr fun l => exists_congr fun g => ?_
    rw [hget]
    split
    · next hl =>
      subst hl
      rw [hf]
      refine iff_of_false ?_ nofun
      rintro ⟨hg, hplace, -⟩
      obtain rfl := Option.some.inj hg
      cases hplace
    · exact Iff.rfl
  · have hsize := OrdMap.sizeWhere_erase (m := q.out) (k := fd) (p := fun f : Frame => f.data = d)
    have hbal := hq.balance d
    rw [hf] at hsize
    simp only [Option.any_some] at hsize
    simp only [List.count_cons]
    by_cases hd : data = d
    · simp only [hd, decide_true, Bool.toNat_true, beq_self_eq_true, if_true] at hsize ⊢
      omega
    · simp only [hd, decide_false, Bool.toNat_false, beq_iff_eq, if_false] at hsize ⊢
      omega

theorem control_cases {port : Option CameraPort} (hr : q.control port = some r) :
    ∃ p, port = some p ∧ r = { q with port := p } := by
  obtain ⟨p, hp, rfl⟩ := Option.map_eq_some_iff.mp hr
  exact ⟨p, hp, rfl⟩

/-- The list of consumers of a port changes with that of its producer or not at all. -/
theorem sound_consumers {port : Option CameraPort} {o : Option BufferProducer}
    (keep : Flow → CameraPort) (hq : q.Sound) (hr : q.control port = some r)
    (hport : port = some q.port ∨ port = (q.port.flow.withConsumers o).map keep)
    (hkeep : ∀ flow, (keep flow).flow = flow ∧ (keep flow).bufferMap = q.port.bufferMap ∧
      (keep flow).bufferCount = q.port.bufferCount)
    (ho : ∀ p, o = some p → p.buffers = q.port.flow.producer.buffers) : r.Sound := by
  obtain ⟨p, hp, rfl⟩ := control_cases hr
  obtain rfl | rfl := hport
  · obtain rfl := Option.some.inj hp
    exact hq
  · obtain ⟨flow, hflow, rfl⟩ := Option.map_eq_some_iff.mp hp
    obtain ⟨hsame, hmap, hcount⟩ := hkeep flow
    obtain ⟨ht, howed⟩ := Flow.tidy_withConsumers hq.tidy hflow ho
    obtain ⟨x, -, rfl⟩ := Flow.withConsumers_cases hflow ho
    exact sound_control hq (hsame.symm ▸ ht) (fun k => by rw [hsame]; exact howed k) (by rw [hsame])
      hmap hcount

theorem sound_step : (lts.guarded InContract).TrInv Sound := by
  rintro q a r ⟨hr, hok⟩ hq
  have hr : q.step a = some r := hr
  cases a with
  | streamCallback fd data h =>
    obtain rfl := Option.some.inj hr
    exact sound_streamCallback hq hok
  | countFrame fd => exact sound_countFrame hq hr
  | notifyBuffer fd => exact sound_notifyBuffer hq hok hr
  | onFrameAvailable =>
    obtain ⟨flow, hflow, rfl⟩ := Option.map_eq_some_iff.mp hr
    obtain ⟨ht, -, howed⟩ := Flow.tidy_step (a := .onFrameAvailable) hq.tidy nofun nofun hflow
    obtain ⟨h, c, cs, -, rfl⟩ := Flow.onFrameAvailable_cases hflow
    exact sound_setFlow hq ht howed rfl
  | endNotify =>
    obtain ⟨flow, hflow, rfl⟩ := Option.map_eq_some_iff.mp hr
    obtain ⟨ht, -, howed⟩ := Flow.tidy_step (a := .endNotify) hq.tidy nofun nofun hflow
    obtain ⟨h, -, rfl⟩ := Flow.endNotify_cases hflow
    exact sound_setFlow hq ht howed rfl
  | consumerReturns c h =>
    obtain rfl := Option.some.inj hr
    obtain ⟨ht, howed⟩ := Flow.tidy_notifyBufferReturned hq.tidy hok
    exact sound_setFlow hq ht howed rfl
  | callSource fd => exact sound_callSource hq hr
  | releaseFrame fd => exact sound_releaseFrame hq hr
  | init param =>
    obtain ⟨p, hp, rfl⟩ := control_cases hr
    obtain rfl := Option.some.inj hp
    exact sound_control hq hq.tidy (fun _ => rfl) rfl rfl rfl
  | start =>
    obtain ⟨p, hp, rfl⟩ := control_cases hr
    obtain rfl := Option.some.inj hp
    unfold CameraPort.start
    split
    · exact hq
    · exact sound_control hq hq.tidy (fun _ => rfl) rfl rfl rfl
  | stop =>
    obtain ⟨p, hp, rfl⟩ := control_cases hr
    obtain rfl := Option.some.inj hp
    unfold CameraPort.stop
    split
    · exact hq
    · exact sound_control hq hq.tidy (fun _ => rfl) rfl rfl rfl
  | addConsumer c =>
    refine sound_consumers (o := q.port.flow.producer.addConsumer c)
      (fun flow => { q.port with
        flow := flow, consumers := q.port.consumers.insertIfNew c () })
      hq hr ?_ (fun flow => ⟨rfl, rfl, rfl⟩) fun p => Flow.buffers_addConsumer
    obtain ⟨p, hp, -⟩ := control_cases hr
    unfold CameraPort.addConsumer at hp ⊢
    split at hp
    · cases hp
    · rw [if_neg ‹_›]
      split
      · exact .inl rfl
      · exact .inr rfl
  | removeConsumer c =>
    refine sound_consumers (o := q.port.flow.producer.removeConsumer c)
      (fun flow => { q.port with flow := flow, consumers := q.port.consumers.erase c })
      hq hr ?_ (fun flow => ⟨rfl, rfl, rfl⟩) fun p => Flow.buffers_removeConsumer
    obtain ⟨p, hp, -⟩ := control_cases hr
    unfold CameraPort.removeConsumer at hp ⊢
    split at hp
    · cases hp
    · rw [if_neg ‹_›]
      split
      · exact .inl rfl
      · exact .inr rfl
  | deInit =>
    obtain ⟨p, hp, rfl⟩ := control_cases hr
    unfold CameraPort.deInit at hp
    split at hp
    · obtain rfl := Option.some.inj hp
      exact sound_control hq hq.tidy (fun _ => rfl) rfl rfl rfl
    · cases hp

/-- A port after `OpenCamera`. -/
def fresh (trackId : UInt32) : PortFrames := ⟨{ trackId }, ∅, [], []⟩

/-- Where every frame of a port is. -/
structure Accounted (q : PortFrames) : Prop where
  /-- What the device handed out it has back, or the frame is out once. -/
  balance : ∀ d, q.delivered.count d = q.released.count d + q.out.sizeWhere fun f : Frame => f.data = d
  /-- `buffer_count_` and `buffer_map_` are of the frames that were counted. -/
  count : q.port.bufferCount = q.port.bufferMap.size
  map : ∀ (fd : Int32) (d : UInt64), q.port.bufferMap[fd]? = some d ↔
    ∃ f : Frame, q.out[fd]? = some f ∧ f.place ≠ .arriving ∧ f.data = d
  /-- A frame on its way back goes to the device under the address it came with. -/
  back : ∀ (fd : Int32) (f : Frame), q.out[fd]? = some f → f.place = .returning →
    ∃ r, q.releaseFrame fd = some r ∧ r.released = f.data :: q.released
  /-- A frame that left the callback is due or with a consumer, or the producer calls the port. -/
  producer : ∀ (fd : Int32) (f : Frame), q.out[fd]? = some f → f.place = .notified →
    q.port.flow.unreturned f.handle ≠ 0 ∨ f.handle ∈ q.port.flow.releasing

theorem Sound.accounted (hq : q.Sound) : q.Accounted := by
  refine ⟨hq.balance, hq.count, fun fd d => ?_, fun fd f hf hplace => ?_, fun fd f hf hplace =>
    (hq.producer f.handle).mpr ⟨fd, f, hf, hplace, rfl⟩⟩
  · rw [hq.map]
    cases q.out[fd]? with
    | none => simp
    | some f => by_cases harr : f.place = .arriving <;> simp [harr]
  · obtain ⟨data, handle, place⟩ := f
    obtain rfl : place = .returning := hplace
    have hmap : q.port.bufferMap[fd]? = some data := by
      rw [hq.map, hf]
      rfl
    cases hr : q.releaseFrame fd with
    | none => simp [releaseFrame, hf, hmap] at hr
    | some r =>
      obtain ⟨_, _, opaq, -, hopaq, rfl⟩ := releaseFrame_cases hr
      obtain rfl := Option.some.inj (hmap.symm.trans hopaq)
      exact ⟨_, rfl, rfl⟩

/-- Whatever the order of callbacks, deliveries, returns, starts and stops: no frame is lost, and
each goes back to the device once. -/
theorem run_accounted {trackId : UInt32} (h : (lts.guarded InContract).MTr (fresh trackId) as q) :
    q.Accounted :=
  (LTS.inv_of_mTr sound_step h sound_fresh).accounted

instance (q : PortFrames) : (a : Action) → Decidable (q.InContract a)
  | .streamCallback fd _ handle =>
    decidable_of_iff (fd ∉ q.out ∧ ∀ x ∈ q.out.toList, x.2.place ≠ .returning → x.2.handle ≠ handle)
      (by simp [InContract, Std.ExtTreeMap.mem_toList_iff_getElem?_eq_some])
  | .notifyBuffer _ => inferInstanceAs (Decidable (_ < _))
  | .consumerReturns _ _ => inferInstanceAs (Decidable (_ ∈ _))
  | .countFrame _ | .onFrameAvailable | .endNotify | .callSource _ | .releaseFrame _ | .init _
  | .start | .stop | .addConsumer _ | .removeConsumer _ | .deInit => .isTrue trivial

/-- The last consumer leaves while the second frame is in its callback. -/
def lateFrame : List Action :=
  [.init ⟨5, 640, 480, .nv12, 30⟩, .addConsumer 9, .start, .streamCallback 3 100 1, .countFrame 3,
    .notifyBuffer 3, .onFrameAvailable, .endNotify, .streamCallback 4 200 2, .stop,
    .removeConsumer 9, .deInit, .countFrame 4, .notifyBuffer 4, .releaseFrame 4,
    .consumerReturns 9 1, .callSource 3, .streamCallback 4 200 2]

theorem run_accounted_lateFrame : ∃ q, (lts.guarded InContract).MTr (fresh 0) lateFrame q ∧
    q.Accounted ∧ q.released = [200, 200] ∧ q.port.bufferCount = 1 := by
  have hmeets : LTS.Meets step InContract (fresh 0) lateFrame := by decide
  have hrun : (LTS.run step (fresh 0) lateFrame).map
      (fun q => (q.released, q.port.bufferCount)) = some ([200, 200], 1) := by decide
  obtain ⟨q, hq, heq⟩ := Option.map_eq_some_iff.mp hrun
  have hmtr := LTS.mTr_guarded_iff.mpr ⟨hq, hmeets⟩
  exact ⟨q, hmtr, run_accounted hmtr, (Prod.mk.inj heq).1, (Prod.mk.inj heq).2⟩

/-- A port that is free lost the stream's id, or it never had a stream and has no frames. -/
def Freed (q : PortFrames) : Prop :=
  q.port.portState = .created → q.port.trackId = 0 ∨ q.out = ∅ ∧ q.port.bufferCount = 0

theorem freed_fresh {trackId : UInt32} : (fresh trackId).Freed := fun _ => .inr ⟨rfl, rfl⟩

theorem Freed.congr (hq : q.Freed) (hstate : r.port.portState = .created → q.port.portState = .created)
    (hid : r.port.trackId = q.port.trackId) (hout : r.out = q.out)
    (hcount : r.port.bufferCount = q.port.bufferCount) : r.Freed := by
  intro hcreated
  rw [hid, hout, hcount]
  exact hq (hstate hcreated)

/-- While a frame is out, only a port without an id is free. -/
theorem Freed.of_out (hq : q.Freed) (hf : q.out[fd]? = some f)
    (hstate : r.port.portState = q.port.portState) (hid : r.port.trackId = q.port.trackId) :
    r.Freed := by
  intro hcreated
  rw [hid]
  obtain h0 | ⟨hempty, -⟩ := hq (hstate.symm.trans hcreated)
  · exact .inl h0
  · simp [hempty] at hf

theorem freed_control {port : Option CameraPort} (hq : q.Freed) (hr : q.control port = some r)
    (hport : ∀ p, port = some p → (p.portState = .created → q.port.portState = .created) ∧
      p.trackId = q.port.trackId ∧ p.bufferCount = q.port.bufferCount) : r.Freed := by
  obtain ⟨p, hp, rfl⟩ := control_cases hr
  obtain ⟨hstate, hid, hcount⟩ := hport p hp
  exact hq.congr hstate hid rfl hcount

theorem freed_step : lts.TrInv Freed := by
  intro q a r hr hq
  have hr : q.step a = some r := hr
  cases a with
  | streamCallback fd data h =>
    obtain rfl := Option.some.inj hr
    unfold streamCallback
    split
    next hrun =>
      intro hcreated
      have hstarted : q.port.portState = .started := hrun.2
      exact nomatch hcreated.symm.trans hstarted
    next => exact hq
  | countFrame fd =>
    obtain ⟨_, _, hf, rfl⟩ := countFrame_cases hr
    exact hq.of_out hf rfl rfl
  | notifyBuffer fd =>
    obtain ⟨_, _, _, hf, -, rfl⟩ := notifyBuffer_cases hr
    exact hq.of_out hf rfl rfl
  | onFrameAvailable =>
    obtain ⟨flow, -, rfl⟩ := Option.map_eq_some_iff.mp hr
    exact hq
  | endNotify =>
    obtain ⟨flow, -, rfl⟩ := Option.map_eq_some_iff.mp hr
    exact hq
  | consumerReturns c h =>
    obtain rfl := Option.some.inj hr
    exact hq
  | callSource fd =>
    obtain ⟨_, _, _, hf, -, rfl⟩ := callSource_cases hr
    exact hq.of_out hf rfl rfl
  | releaseFrame fd =>
    obtain ⟨_, _, _, hf, -, rfl⟩ := releaseFrame_cases hr
    exact hq.of_out hf rfl rfl
  | init param =>
    obtain ⟨p, hp, rfl⟩ := control_cases hr
    obtain rfl := Option.some.inj hp
    exact nofun
  | start =>
    refine freed_control hq hr fun p hp => ?_
    obtain rfl := Option.some.inj hp
    unfold CameraPort.start
    split
    · exact ⟨id, rfl, rfl⟩
    · exact ⟨nofun, rfl, rfl⟩
  | stop =>
    refine freed_control hq hr fun p hp => ?_
    obtain rfl := Option.some.inj hp
    unfold CameraPort.stop
    split
    · exact ⟨id, rfl, rfl⟩
    · exact ⟨nofun, rfl, rfl⟩
  | addConsumer c =>
    refine freed_control hq hr fun p hp => ?_
    unfold CameraPort.addConsumer at hp
    split_ifs at hp
    · exact Option.some.inj hp ▸ ⟨id, rfl, rfl⟩
    · obtain ⟨flow, -, rfl⟩ := Option.map_eq_some_iff.mp hp
      exact ⟨id, rfl, rfl⟩
  | removeConsumer c =>
    refine freed_control hq hr fun p hp => ?_
    unfold CameraPort.removeConsumer at hp
    split_ifs at hp
    · obtain ⟨flow, -, rfl⟩ := Option.map_eq_some_iff.mp hp
      exact ⟨id, rfl, rfl⟩
    · exact Option.some.inj hp ▸ ⟨id, rfl, rfl⟩
  | deInit =>
    obtain ⟨p, hp, rfl⟩ := control_cases hr
    unfold CameraPort.deInit at hp
    split at hp
    · obtain rfl := Option.some.inj hp
      exact fun _ => .inl rfl
    · cases hp

end PortFrames

namespace CameraContext

open PortFrames (Action fresh lateFrame)

/-- `DeleteStream` never waits for the frames of the stream it deletes: the port that still has
them lost the stream's id when it stopped. -/
theorem deleteStream_waits_for_none {ctx : CameraContext} {junk : CameraPortType → UInt32}
    {id : UInt32} {as : CameraPortType → List Action} {q : CameraPortType → PortFrames}
    (hrun : ∀ t, PortFrames.lts.MTr (fresh (junk t)) (as t) (q t))
    (hport : ∀ t, ctx.port t = (q t).port) (hid : id ≠ 0) (allReturned : Bool) :
    (∀ t, ctx.waits id t = false) ∧
      ctx.deleteStream id allReturned = ctx.deleteStream id true := by
  have hwaits : ∀ t, ctx.waits id t = false := by
    intro t
    have hfreed := LTS.inv_of_mTr PortFrames.freed_step (hrun t) PortFrames.freed_fresh
    simp only [waits, hport, decide_eq_false_iff_not, not_and]
    intro hsame hcreated
    obtain h0 | ⟨-, hnone⟩ := hfreed hcreated
    · exact absurd (hsame.symm.trans h0) hid
    · simp [hnone]
  refine ⟨hwaits, ?_⟩
  simp [deleteStream, hwaits]

/-- Its frame is with a consumer, and the stream is gone all the same. -/
theorem deleteStream_waits_for_none_lateFrame :
    ∃ (ctx : CameraContext) (q : CameraPortType → PortFrames),
      (∀ t, PortFrames.lts.MTr (fresh 0) (if t = .preview then lateFrame.take 15 else []) (q t)) ∧
      (∀ t, ctx.port t = (q t).port) ∧ (ctx.port .preview).bufferCount = 1 ∧
      (∀ t, ctx.waits 5 t = false) ∧ ctx.deleteStream 5 false = ctx.deleteStream 5 true := by
  have hstop : (LTS.run PortFrames.step (fresh 0) (lateFrame.take 15)).map
      (fun q => q.port.bufferCount) = some 1 := by decide
  obtain ⟨q, hq, hcount⟩ := Option.map_eq_some_iff.mp hstop
  let qs : CameraPortType → PortFrames := fun t => if t = .preview then q else fresh 0
  have hrun : ∀ t, PortFrames.lts.MTr (fresh 0) (if t = .preview then lateFrame.take 15 else [])
      (qs t) := by
    intro t
    cases t
    · exact LTS.mTr_ofStep_iff.mpr hq
    · exact .refl
  exact ⟨{ port := fun t => (qs t).port }, qs, hrun, fun _ => rfl, hcount,
    deleteStream_waits_for_none hrun (fun _ => rfl) (by decide) false⟩

end CameraContext

end QmmfSdk.Hal1
