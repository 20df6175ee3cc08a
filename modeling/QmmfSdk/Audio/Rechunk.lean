import QmmfSdk.Audio.PulseClient

/-! What a run of the thread of `AudioPulseClient` has delivered: the bytes of the stream in order, in
buffers that are full, the last of them marked. -/
namespace QmmfSdk.Audio

open Library

variable {s t : PulseClient} {usec : UInt32 → UInt64} {b : BufferDescriptor}
  {rest : List BufferDescriptor} {as : List PulseClient.Action} {bytes : List UInt8}

def BufferDescriptor.Marked (b : BufferDescriptor) : Prop := b.flag &&& kFlagEOS ≠ 0

instance : Decidable b.Marked := inferInstanceAs (Decidable (_ ≠ _))

/-- The buffers that another thread sends are empty. -/
def PulseClient.Action.Empty : PulseClient.Action → Prop
  | .post (.buffer bs) => ∀ b ∈ bs, b.size = 0
  | _ => True

namespace PulseClient

def delivered (s : PulseClient) : List UInt8 := s.notified.flatMap BufferDescriptor.data

/-- What the server has and the thread has not copied yet. -/
def unread (s : PulseClient) : List UInt8 :=
  match s.paData with
  | some bytes => bytes.drop s.paIndex ++ bytesOf s.stream.tail
  | none => bytesOf s.stream

/-- What the thread knows about the peeked fragment and the front buffer: the fragment is the first of
the stream, and the buffer holds what was copied so far. -/
structure Local (s : PulseClient) : Prop where
  posted : ∀ bs, .buffer bs ∈ s.messages → ∀ b ∈ bs, b.size = 0
  waiting : s.phase = .top → s.bData = [] ∧ ∀ b ∈ s.buffers, b.size = 0
  reading : s.phase = .reading → ∃ b rest, s.buffers = b :: rest ∧ b.size.toNat = s.bData.length ∧
    s.bData.length + s.bLength = b.capacity.toNat ∧ ∀ c ∈ rest, c.size = 0
  ended : s.phase = .ended → s.bData = []
  fragment : ∀ bytes, s.paData = some bytes → s.phase ≠ .failed →
    s.stream.head? = some (.data bytes) ∧ s.paIndex + s.paLength = bytes.length

/-- What has been delivered, and what is left of what arrived. -/
structure Chunked (s : PulseClient) : Prop extends Local s where
  conserved : s.phase ≠ .failed → s.delivered ++ s.bData ++ s.unread = bytesOf s.arrived
  ofPrefix : s.delivered <+: bytesOf s.arrived
  full : ∀ b ∈ s.notified, b.data.length = b.capacity.toNat ∧ b.size = b.capacity
  unmarked : s.phase ≠ .ended → ∀ b ∈ s.notified, ¬ b.Marked
  marked : s.phase = .ended → ∃ bs b, s.notified = bs ++ [b] ∧ b.Marked ∧ ∀ c ∈ bs, ¬ c.Marked

theorem chunked_start (s : PulseClient) (adjust : Int64) : (s.start adjust).Chunked where
  posted _ h := by cases h
  waiting _ := ⟨rfl, fun _ h => by cases h⟩
  reading h := by cases h
  ended h := by cases h
  fragment _ h := by cases h
  conserved _ := rfl
  ofPrefix := ⟨bytesOf s.stream, rfl⟩
  full _ h := by cases h
  unmarked _ _ h := by cases h
  marked h := by cases h

theorem bytesOf_append {fs gs : List Fragment} : bytesOf (fs ++ gs) = bytesOf fs ++ bytesOf gs :=
  List.flatMap_append

/-- A failed thread delivers nothing any more. -/
theorem chunked_failed (h : s.Chunked) (hp : s.phase ≠ .ended) (ht : t.phase = .failed)
    (hn : t.notified = s.notified) (hm : t.messages = s.messages) (ha : t.arrived = s.arrived) :
    t.Chunked where
  posted := hm ▸ h.posted
  waiting htop := by simp [ht] at htop
  reading hr := by simp [ht] at hr
  ended he := by simp [ht] at he
  fragment _ _ hf := absurd ht hf
  conserved hf := absurd ht hf
  ofPrefix := by
    have := h.ofPrefix
    unfold delivered at *
    rwa [hn, ha]
  full := hn ▸ h.full
  unmarked _ := hn ▸ h.unmarked hp
  marked he := by simp [ht] at he

theorem chunked_post {m : AudioMessage} (h : s.Chunked) (hm : Action.Empty (.post m)) :
    ({ s with messages := s.messages ++ [m] } : PulseClient).Chunked where
  posted bs hbs := by
    obtain hold | hnew := List.mem_append.mp hbs
    · exact h.posted bs hold
    · obtain rfl := List.mem_singleton.mp hnew
      exact hm
  waiting := h.waiting
  reading := h.reading
  ended := h.ended
  fragment := h.fragment
  conserved := h.conserved
  ofPrefix := h.ofPrefix
  full := h.full
  unmarked := h.unmarked
  marked := h.marked

/-- A peeked fragment stays the first one. -/
theorem unread_arrive {f : Fragment} (h : s.Local) (hp : s.phase ≠ .failed) :
    ({ s with stream := s.stream ++ [f], arrived := s.arrived ++ [f] } : PulseClient).unread =
      s.unread ++ f.bytes := by
  unfold unread
  cases hd : s.paData with
  | none => simp [bytesOf]
  | some bytes =>
    obtain ⟨fs, hfs⟩ := List.head?_eq_some_iff.mp (h.fragment bytes hd hp).1
    simp [hfs, bytesOf]

theorem chunked_arrive {f : Fragment} (h : s.Chunked) :
    ({ s with stream := s.stream ++ [f], arrived := s.arrived ++ [f] } : PulseClient).Chunked where
  posted := h.posted
  waiting := h.waiting
  reading := h.reading
  ended := h.ended
  fragment bytes hd hp := by
    obtain ⟨hhead, hlen⟩ := h.fragment bytes hd hp
    exact ⟨by simp [hhead], hlen⟩
  conserved hp := by
    rw [unread_arrive h.toLocal hp, ← List.append_assoc, bytesOf_append, ← h.conserved hp]
    simp [bytesOf, delivered]
  ofPrefix := by
    refine h.ofPrefix.trans ?_
    rw [bytesOf_append]
    exact List.prefix_append _ _
  full := h.full
  unmarked := h.unmarked
  marked := h.marked

theorem chunked_handle {m : AudioMessage} {ms : List AudioMessage} (h : s.Chunked)
    (hp : s.phase = .top) (hm : s.messages = m :: ms) :
    ({ s with messages := ms }.handle m).Chunked ∧
      ({ s with messages := ms }.handle m).phase = .top := by
  have hrest : ∀ bs, AudioMessage.buffer bs ∈ ms → ∀ b ∈ bs, b.size = 0 :=
    fun bs hbs => h.posted bs (by simp [hm, hbs])
  cases m with
  | stop =>
    exact ⟨⟨⟨hrest, h.waiting, h.reading, h.ended, h.fragment⟩, h.conserved, h.ofPrefix, h.full,
      h.unmarked, h.marked⟩, hp⟩
  | pause =>
    exact ⟨⟨⟨hrest, h.waiting, h.reading, h.ended, h.fragment⟩, h.conserved, h.ofPrefix, h.full,
      h.unmarked, h.marked⟩, hp⟩
  | resume =>
    exact ⟨⟨⟨hrest, h.waiting, h.reading, h.ended, h.fragment⟩, h.conserved, h.ofPrefix, h.full,
      h.unmarked, h.marked⟩, hp⟩
  | buffer bs =>
    have hbs : ∀ b ∈ bs, b.size = 0 := h.posted bs (by simp [hm])
    refine ⟨⟨⟨hrest, fun _ => ⟨(h.waiting hp).1, fun b hb => ?_⟩, fun hr => ?_, h.ended, h.fragment⟩,
      h.conserved, h.ofPrefix, h.full, h.unmarked, h.marked⟩, hp⟩
    · obtain hold | hnew := List.mem_append.mp hb
      · exact (h.waiting hp).2 b hold
      · exact hbs b hnew
    · exact absurd (hp.symm.trans hr) (by decide)

theorem chunked_look (h : s.Chunked) (hp : s.phase = .top) : s.look.Chunked := by
  obtain ⟨hdata, hsizes⟩ := h.waiting hp
  unfold look
  cases hb : s.buffers with
  | nil => exact h
  | cons b rest =>
    rw [hb] at hsizes
    by_cases hpaused : s.paused
    · simpa [hpaused] using h
    · simp only [hpaused, if_false, Bool.false_eq_true]
      have hconserved := h.conserved (by simp [hp])
      rw [hdata] at hconserved
      exact {
        posted := h.posted
        waiting := fun ht => by cases ht
        reading := fun _ => ⟨b, rest, rfl, by simp [hsizes b (by simp)], by simp,
          fun c hc => hsizes c (by simp [hc])⟩
        ended := fun he => by cases he
        fragment := fun bytes hd _ => h.fragment bytes hd (by simp [hp])
        conserved := fun _ => hconserved
        ofPrefix := h.ofPrefix
        full := h.full
        unmarked := fun _ => h.unmarked (by simp [hp])
        marked := fun he => by cases he }

theorem chunked_next (h : s.Chunked) (hp : s.phase = .top) (ht : s.next = some t) : t.Chunked := by
  unfold next at ht
  cases hm : s.messages with
  | nil =>
    simp only [hm] at ht
    split_ifs at ht
    obtain rfl := Option.some.inj ht
    exact chunked_look h hp
  | cons m ms =>
    simp only [hm] at ht
    obtain rfl := Option.some.inj ht
    obtain ⟨hhandled, htop⟩ := chunked_handle h hp hm
    exact chunked_look hhandled htop

theorem chunked_peek {peeked dropped : Bool} (h : s.Chunked) (hp : s.phase = .reading)
    (hd : s.paData = none) : (s.peek peeked dropped).Chunked := by
  have hne : s.phase ≠ .ended := by simp [hp]
  have hnf : s.phase ≠ .failed := by simp [hp]
  have hconserved := h.conserved hnf
  unfold peek
  by_cases hpeeked : peeked
  · simp only [hpeeked, Bool.not_true, Bool.false_eq_true, if_false]
    cases hs : s.stream with
    | nil =>
      refine ⟨⟨h.posted, h.waiting, h.reading, h.ended, fun bytes hsome => ?_⟩, fun _ => ?_, h.ofPrefix,
        h.full, h.unmarked, h.marked⟩
      · exact absurd (hd.symm.trans hsome) (by simp)
      · simpa [unread, hd, hs, delivered] using hconserved
    | cons f fs =>
      cases f with
      | hole =>
        by_cases hdropped : dropped
        · simp only [hdropped, if_true]
          refine ⟨⟨h.posted, h.waiting, h.reading, h.ended, fun bytes hsome => ?_⟩, fun _ => ?_,
            h.ofPrefix, h.full, h.unmarked, h.marked⟩
          · exact absurd (hd.symm.trans hsome) (by simp)
          · simpa [unread, hd, hs, bytesOf, Fragment.bytes, delivered] using hconserved
        · simp only [hdropped, Bool.false_eq_true, if_false]
          exact chunked_failed h hne rfl rfl rfl rfl
      | data bytes =>
        refine ⟨⟨h.posted, h.waiting, h.reading, h.ended, fun bytes' hsome _ => ?_⟩, fun _ => ?_,
          h.ofPrefix, h.full, h.unmarked, h.marked⟩
        · obtain rfl := Option.some.inj hsome
          simp
        · simpa [unread, hd, hs, bytesOf, Fragment.bytes, delivered] using hconserved
  · simp only [hpeeked, Bool.not_false, if_true]
    exact chunked_failed h hne rfl rfl rfl rfl

theorem chunked_copyBytes (h : s.Chunked) (hp : s.phase = .reading) (hd : s.paData = some bytes) :
    (s.copyBytes bytes).Chunked := by
  obtain ⟨hhead, hlen⟩ := h.fragment bytes hd (by simp [hp])
  obtain ⟨b, rest, hb, hsize, hcap, hrest⟩ := h.reading hp
  have htaken : ((bytes.drop s.paIndex).take (min s.paLength s.bLength)).length =
      min s.paLength s.bLength := by
    rw [List.length_take, List.length_drop]
    omega
  have hconserved := h.conserved (by simp [hp])
  refine ⟨⟨h.posted, fun ht => ?_, fun _ => ?_, fun he => ?_, fun bytes' hsome _ => ?_⟩, fun _ => ?_,
    h.ofPrefix, h.full, h.unmarked, h.marked⟩
  · exact absurd (hp.symm.trans ht) (by decide)
  · -- The buffer is not left: its size stays below its capacity, which is a 32-bit number.
    have hroom := b.capacity.toNat_lt
    refine ⟨{ b with size := b.size + .ofNat (min s.paLength s.bLength) }, rest, ?_, ?_, ?_, hrest⟩
    · simp [copyBytes, hb]
    · simp only [copyBytes, List.length_append, htaken, UInt32.toNat_add, UInt32.toNat_ofNat']
      omega
    · simp only [copyBytes, List.length_append, htaken]
      omega
  · exact absurd (hp.symm.trans he) (by decide)
  · obtain rfl : bytes = bytes' := Option.some.inj (hd.symm.trans hsome)
    refine ⟨hhead, ?_⟩
    simp only [copyBytes]
    omega
  · have hsplit : bytes.drop s.paIndex = (bytes.drop s.paIndex).take (min s.paLength s.bLength) ++
        bytes.drop (s.paIndex + min s.paLength s.bLength) := by
      conv_lhs => rw [← List.take_append_drop (min s.paLength s.bLength) (bytes.drop s.paIndex)]
      rw [List.drop_drop]
    have hunread : (s.copyBytes bytes).unread =
        bytes.drop (s.paIndex + min s.paLength s.bLength) ++ bytesOf s.stream.tail := by
      simp only [copyBytes, unread, hd]
    simp only [unread, hd] at hconserved
    have harrived : (s.copyBytes bytes).arrived = s.arrived := rfl
    rw [hunread, harrived, ← hconserved]
    conv_rhs => rw [hsplit]
    simp only [copyBytes, delivered, List.append_assoc]

theorem chunked_dropUsed {dropped : Bool} (h : s.Chunked) (hp : s.phase = .reading)
    (hd : s.paData = some bytes) : (s.dropUsed dropped).Chunked := by
  obtain ⟨hhead, hlen⟩ := h.fragment bytes hd (by simp [hp])
  have hconserved := h.conserved (by simp [hp])
  unfold dropUsed
  by_cases hused : s.paLength = 0
  · by_cases hdropped : dropped
    · simp only [hused, hdropped, if_true]
      refine ⟨⟨h.posted, h.waiting, h.reading, h.ended, fun _ hsome => by cases hsome⟩, fun _ => ?_,
        h.ofPrefix, h.full, h.unmarked, h.marked⟩
      have hrest : bytes.drop s.paIndex = [] := List.drop_eq_nil_of_le (by omega)
      simpa [unread, hd, hrest, delivered] using hconserved
    · simp only [hused, hdropped, Bool.false_eq_true, if_true, if_false]
      exact chunked_failed h (by simp [hp]) rfl rfl rfl rfl
  · simpa [hused] using h

theorem stamped_marked_iff : (s.stamped b).Marked ↔ s.stopReceived = true := by
  unfold BufferDescriptor.Marked stamped
  by_cases hstop : s.stopReceived
  · simp only [hstop, if_true, iff_true, kFlagEOS]
    intro hzero
    have hbit := congrArg (fun w : UInt32 => w.toBitVec.getLsbD 1) hzero
    simp at hbit
  · simp [hstop]

/-- A full buffer ends the run when the thread has been told to stop. -/
theorem chunked_notify (h : s.Chunked) (hp : s.phase = .reading) (hl : s.bLength = 0)
    (hb : s.buffers = b :: rest) : (s.notify b rest).Chunked := by
  have hunmarked := h.unmarked (by simp [hp])
  have hconserved := h.conserved (by simp [hp])
  obtain ⟨b', rest', hb', hsize, hcap, hrest⟩ := h.reading hp
  obtain ⟨rfl, rfl⟩ := List.cons.inj (hb.symm.trans hb')
  have hdelivered : (s.notify b rest).delivered = s.delivered ++ s.bData := by
    simp [delivered, notify, stamped]
  have hall : (s.notify b rest).delivered ++ [] ++ (s.notify b rest).unread = bytesOf s.arrived := by
    rw [hdelivered, List.append_nil]
    exact hconserved
  refine ⟨⟨h.posted, fun _ => ⟨rfl, hrest⟩, fun hr => ?_, fun _ => rfl, fun bytes hsome _ => ?_⟩,
    fun _ => hall, ?_, ?_, fun hne => ?_, fun he => ?_⟩
  · unfold notify at hr
    by_cases hstop : s.stopReceived <;> simp [hstop] at hr
  · exact h.fragment bytes hsome (by simp [hp])
  · rw [List.append_nil] at hall
    exact ⟨_, hall⟩
  · intro c hc
    obtain hold | hnew := List.mem_append.mp hc
    · exact h.full c hold
    · obtain rfl := List.mem_singleton.mp hnew
      rw [hl, Nat.add_zero] at hcap
      exact ⟨hcap, UInt32.toNat_inj.mp (hsize.trans hcap)⟩
  · have hstop : s.stopReceived = false := by
      by_contra hstop
      exact hne (by simp [notify, hstop])
    intro c hc
    obtain hold | hnew := List.mem_append.mp hc
    · exact hunmarked c hold
    · obtain rfl := List.mem_singleton.mp hnew
      rw [stamped_marked_iff, hstop]
      decide
  · have hstop : s.stopReceived = true := by
      by_contra hstop
      simp [notify, hstop] at he
    exact ⟨s.notified, s.stamped b, rfl, stamped_marked_iff.mpr hstop, hunmarked⟩

theorem chunked_tick {boottime : Int64} {size : UInt32} (h : s.Chunked) :
    (s.tick usec boottime size).Chunked := by
  unfold tick
  split
  · exact ⟨⟨h.posted, h.waiting, h.reading, h.ended, h.fragment⟩, h.conserved, h.ofPrefix, h.full,
      h.unmarked, h.marked⟩
  · exact ⟨⟨h.posted, h.waiting, h.reading, h.ended, h.fragment⟩, h.conserved, h.ofPrefix, h.full,
      h.unmarked, h.marked⟩

/-- The clock does not touch the buffers. -/
theorem tick_frame (s : PulseClient) (usec : UInt32 → UInt64) (boottime : Int64) (size : UInt32) :
    (s.tick usec boottime size).phase = s.phase ∧ (s.tick usec boottime size).bLength = s.bLength ∧
      (s.tick usec boottime size).buffers = s.buffers := by
  unfold tick
  split
  · exact ⟨rfl, rfl, rfl⟩
  · exact ⟨rfl, rfl, rfl⟩

theorem chunked_step {a : Action} (h : s.Chunked) (ha : a.Empty) (ht : s.step usec a = some t) :
    t.Chunked := by
  cases a with
  | post m =>
    obtain rfl := Option.some.inj ht
    exact chunked_post h ha
  | arrive f =>
    obtain rfl := Option.some.inj ht
    exact chunked_arrive h
  | next =>
    simp only [step] at ht
    split_ifs at ht with hp
    exact chunked_next h hp ht
  | streamDied =>
    simp only [step] at ht
    split_ifs at ht with hp
    obtain rfl := Option.some.inj ht
    exact chunked_failed h (by simp [hp]) rfl rfl rfl rfl
  | peek peeked dropped =>
    simp only [step] at ht
    split_ifs at ht with hp
    obtain rfl := Option.some.inj ht
    exact chunked_peek h hp.1 hp.2.2
  | copy dropped =>
    simp only [step] at ht
    split at ht
    next bytes hd =>
      split_ifs at ht with hp
      obtain rfl := Option.some.inj ht
      exact chunked_dropUsed (chunked_copyBytes h hp.1 hd) hp.1 hd
    next => cases ht
  | deliver boottime =>
    simp only [step] at ht
    split at ht
    next b rest hb =>
      split_ifs at ht with hp
      obtain rfl := Option.some.inj ht
      obtain ⟨hphase, hlength, hbuffers⟩ := tick_frame s usec boottime b.size
      exact chunked_notify (chunked_tick h) (hphase.trans hp.1) (hlength.trans hp.2)
        (hbuffers.trans hb)
    next => cases ht

/-- Whatever arrives in whatever pieces, and whatever empty buffers are sent. -/
theorem chunked_run (h : s.Chunked) (has : ∀ a ∈ as, a.Empty)
    (hrun : LTS.run (step usec) s as = some t) : t.Chunked := by
  induction as generalizing s with
  | nil =>
    obtain rfl := Option.some.inj hrun
    exact h
  | cons a as ih =>
    obtain ⟨u, hu, hrest⟩ := Option.bind_eq_some_iff.mp hrun
    exact ih (chunked_step h (has a (by simp)) hu) (fun b hb => has b (by simp [hb])) hrest

/-- What one run of the thread, from `Start` on, has delivered: a prefix of what the server had and got,
in full buffers, the last one and no other marked when the thread has returned. -/
theorem rechunked (s : PulseClient) (adjust : Int64) (has : ∀ a ∈ as, a.Empty)
    (hrun : LTS.run (step usec) (s.start adjust) as = some t) :
    t.notified.flatMap BufferDescriptor.data <+: bytesOf (s.stream ++ arrivals as) ∧
      (∀ b ∈ t.notified, b.data.length = b.capacity.toNat ∧ b.size = b.capacity) ∧
      (t.phase = .ended →
        ∃ bs b, t.notified = bs ++ [b] ∧ b.Marked ∧ ∀ c ∈ bs, ¬ c.Marked) ∧
      (t.phase ≠ .ended → ∀ b ∈ t.notified, ¬ b.Marked) := by
  have h := chunked_run (chunked_start s adjust) has hrun
  have harrived : t.arrived = s.stream ++ arrivals as := arrived_run hrun
  rw [← harrived]
  exact ⟨h.ofPrefix, h.full, h.marked, h.unmarked⟩

/-- Two buffers filled from two fragments with a hole between them, and a stop on the way. -/
def twoBuffers : List Action :=
  [.post (.buffer [{ fd := 1, capacity := 3 }, { fd := 2, capacity := 2 }]), .arrive (.data [1, 2]),
    .arrive .hole, .arrive (.data [3, 4, 5, 6]), .next, .peek true true, .copy true, .peek true true,
    .peek true true, .copy true, .post .stop, .deliver 0, .next, .copy true, .deliver 0]

theorem rechunked_two_buffers : ∃ t, LTS.run (step fun _ => 0) (start {} 0) twoBuffers = some t ∧
    t.notified.flatMap BufferDescriptor.data <+: bytesOf ([] ++ arrivals twoBuffers) ∧
      (∀ b ∈ t.notified, b.data.length = b.capacity.toNat ∧ b.size = b.capacity) ∧
      (t.phase = .ended →
        ∃ bs b, t.notified = bs ++ [b] ∧ b.Marked ∧ ∀ c ∈ bs, ¬ c.Marked) ∧
      (t.phase ≠ .ended → ∀ b ∈ t.notified, ¬ b.Marked) := by
  have hsome : (LTS.run (step fun _ => 0) (start {} 0) twoBuffers).isSome := by decide
  obtain ⟨t, ht⟩ := Option.isSome_iff_exists.mp hsome
  exact ⟨t, ht, rechunked {} 0 (by simp [twoBuffers, Action.Empty]) ht⟩

example : (LTS.run (step fun _ => 0) (start {} 0) twoBuffers).map
    (fun t => (t.phase, t.notified.map BufferDescriptor.data)) =
      some (.ended, [[1, 2, 3], [4, 5]]) := by
  decide

end PulseClient

end QmmfSdk.Audio
