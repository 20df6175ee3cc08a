import Mathlib.Data.List.Nodup
import QmmfSdk.Pipeline.TrackReturns

/-! What becomes of a track whose client has died: `Flush` gives back what the client had,
`ClearInputQueue` what the encoder was to get, and an encoder that comes to rest all that is left. -/
namespace QmmfSdk.Pipeline

open Library Binder Recorder

/-- The formats for which `Flush` gives the buffers back. -/
def isFlushed : VideoFormat → Bool
  | .rgb | .nv12 | .nv12UBWC | .bayerRDI8BIT | .bayerRDI10BIT | .bayerRDI12BIT | .bayerIdeal => true
  | _ => false

namespace TrackFlow

/-- The buffers that the track lists as being consumed. -/
def consumed (s : TrackFlow) : List IBufferHandle := s.track.bufferList.toList.map (·.2.handle)

/-- `Flush`; the client that it is called for is no longer there. -/
def flush (cfg : TrackConfig) (s : TrackFlow) : TrackFlow :=
  if isFlushed cfg.format then
    let s := s.consumed.foldl (release cfg) s
    { s with track := { s.track with bufferList := ∅ }, client := [] }
  else s

def clearInputQueue (cfg : TrackConfig) (s : TrackFlow) : TrackFlow :=
  let s := (s.track.framesReceived.map (·.handle)).foldl (release cfg) s
  { s with track := { s.track with framesReceived := [] } }

/-- `NotifyPortEvent` of the encoder's `kPortIdle`, for which the stop of a track waits. Whatever is
still counted goes to the producer, also what linked consumers have, and stays counted. -/
def portIdle (cfg : TrackConfig) (s : TrackFlow) : TrackFlow :=
  let s := s.clearInputQueue cfg
  { s with givenBack := s.givenBack ++ s.track.bufferMap.keys }

/-- Everything that happens to a track from its start to its end. -/
inductive Life where
  | act (a : Action)
  | flush
  | clearInputQueue
  | portIdle

def live (cfg : TrackConfig) (s : TrackFlow) : Life → Option TrackFlow
  | .act a => s.step cfg a
  | .flush => some (s.flush cfg)
  | .clearInputQueue => some (s.clearInputQueue cfg)
  | .portIdle => if cfg.format.isEncoded then some (s.portIdle cfg) else none

def lifeLts (cfg : TrackConfig) : LTS TrackFlow Life := .ofStep (live cfg)

/-- The holders return what they were given, deliveries are kept apart, and no release takes the
shortcut. -/
def Orderly (cfg : TrackConfig) (s : TrackFlow) : Life → Prop
  | .act a => s.InContract a ∧ s.KeepsApart cfg a
  | .flush => ∀ h ∈ s.consumed, s.track.cutsShort cfg h = false
  | .clearInputQueue | .portIdle => True

variable {cfg : TrackConfig} {s t : TrackFlow} {a : Action} {as : List Life} {b : StreamBuffer}
  {h k : IBufferHandle} {hs : List IBufferHandle} {total : IBufferHandle → Nat}

/-- What the track has written down about a handle. -/
def ledger (s : TrackFlow) (h : IBufferHandle) : Option UInt32 × Nat :=
  (s.track.bufferMap[h]?, s.givenBack.count h)

theorem ledger_release_ne (hk : h ≠ k) : (s.release cfg h).ledger k = s.ledger k := by
  unfold ledger release TrackSource.returnBufferToProducer
  cases hm : s.track.bufferMap[h]? with
  | none => simp
  | some n =>
    dsimp only
    split
    · simp [Std.ExtTreeMap.getElem?_erase, hk]
    split
    · simp [Std.ExtTreeMap.getElem?_erase, hk]
    · simp [Std.ExtTreeMap.getElem?_insert, hk]

/-- The release of a handle sees nothing but what is written down about it. -/
theorem ledger_release_congr (hl : s.ledger h = t.ledger h)
    (hc : s.track.numConsumers = t.track.numConsumers) :
    (s.release cfg h).ledger h = (t.release cfg h).ledger h := by
  obtain ⟨hm, hg⟩ := Prod.mk.inj hl
  unfold ledger release TrackSource.returnBufferToProducer
  rw [hm, hc]
  cases ht : t.track.bufferMap[h]? with
  | none => simp [hm, hg, ht]
  | some n =>
    dsimp only
    split
    · simp [hg]
    split
    · simp [hg]
    · simp [hg]

theorem releases_eq (hs : List IBufferHandle) : ∃ m g, hs.foldl (release cfg) s =
    { s with track := { s.track with bufferMap := m }, givenBack := g } := by
  induction hs generalizing s with
  | nil => exact ⟨_, _, rfl⟩
  | cons h hs ih =>
    obtain ⟨m, g, heq⟩ := ih (s := s.release cfg h)
    exact ⟨m, g, heq⟩

/-- Of handles that are all different each is released once. -/
theorem ledger_releases (hn : hs.Nodup) : (hs.foldl (release cfg) s).ledger k =
    if k ∈ hs then (s.release cfg k).ledger k else s.ledger k := by
  induction hs generalizing s with
  | nil => simp
  | cons h hs ih =>
    obtain ⟨hnot, hn⟩ := List.nodup_cons.mp hn
    rw [List.foldl_cons, ih hn]
    by_cases hk : h = k
    · subst hk
      simp [hnot]
    · have hother := @ledger_release_ne cfg s _ _ hk
      simp only [List.mem_cons, Ne.symm hk, false_or]
      split
      · exact ledger_release_congr hother rfl
      · exact hother

theorem Books.releases (hb : Books total s.track.bufferMap s.received s.givenBack) (hn : hs.Nodup)
    (hpos : ∀ h ∈ hs, total h ≠ 0 ∧ total h < 2 ^ 32 ∧ s.track.cutsShort cfg h = false)
    (ht : hs.foldl (TrackFlow.release cfg) s = t) :
    Books (fun k => total k - if k ∈ hs then 1 else 0) t.track.bufferMap s.received t.givenBack := by
  subst ht
  intro k
  have hledger := @ledger_releases cfg s k _ hn
  dsimp only
  by_cases hk : k ∈ hs
  · obtain ⟨h0, hlt, hcut⟩ := hpos k hk
    obtain ⟨m, g, heq, hbooks⟩ := hb.release h0 hlt hcut
    rw [if_pos hk, heq] at hledger
    obtain ⟨hm, hg⟩ := Prod.mk.inj hledger
    simpa only [hm, hg, hk, if_true] using hbooks k
  · rw [if_neg hk] at hledger
    obtain ⟨hm, hg⟩ := Prod.mk.inj hledger
    simpa only [hm, hg, hk, if_false, Nat.sub_zero] using hb k

/-- All that is listed is with the client. -/
def WithClient (s : TrackFlow) : Prop :=
  ∀ fd b, s.track.bufferList[fd]? = some b →
    ∃ e ∈ s.client, e.1.ionFd.toUInt32 = fd ∧ e.2 = b.handle

/-- A track whose frames go to the client, and to no encoder. -/
structure Raw (cfg : TrackConfig) (s : TrackFlow) : Prop where
  sound : Sound cfg none s
  queue : s.track.framesReceived = []
  listed : s.WithClient

theorem raw_initial : Raw cfg {} := ⟨sound_initial, rfl, fun fd b hb => by simp at hb⟩

theorem mem_consumed : h ∈ s.consumed ↔
    ∃ (fd : UInt32) (b : StreamBuffer), s.track.bufferList[fd]? = some b ∧ b.handle = h := by
  simp only [consumed, List.mem_map, Prod.exists, Std.ExtTreeMap.mem_toList_iff_getElem?_eq_some]

/-- The track lists a buffer exactly when the client has it. -/
theorem Raw.mem_consumed_iff (hs : Raw cfg s) : h ∈ s.consumed ↔ ∃ e ∈ s.client, e.2 = h := by
  rw [mem_consumed]
  constructor
  · rintro ⟨fd, b, hb, rfl⟩
    obtain ⟨e, he, -, heq⟩ := hs.listed fd b hb
    exact ⟨e, he, heq⟩
  · rintro ⟨e, he, rfl⟩
    obtain ⟨b, hb, heq⟩ := hs.sound.listed.mem e he
    exact ⟨_, b, hb, heq⟩

theorem Raw.client_le (hs : Raw cfg s) : s.client.countP (·.2 = h) ≤ 1 := by
  have hle := hs.sound.own_le h
  simp only [own] at hle
  omega

theorem Raw.countP_client (hs : Raw cfg s) :
    s.client.countP (·.2 = h) = if h ∈ s.consumed then 1 else 0 := by
  have hle := hs.client_le (h := h)
  split
  · next hmem =>
    obtain ⟨e, he, heq⟩ := hs.mem_consumed_iff.mp hmem
    have hpos : 0 < s.client.countP (·.2 = h) := List.countP_pos_iff.mpr ⟨e, he, by simpa using heq⟩
    omega
  · next hnot =>
    refine List.countP_eq_zero.mpr fun e he heq => hnot (hs.mem_consumed_iff.mpr ⟨e, he, ?_⟩)
    simpa using heq

theorem Raw.nodup (hs : Raw cfg s) : s.consumed.Nodup := by
  have hclient : (s.client.map (·.2)).Nodup := by
    refine List.nodup_iff_count.mpr fun h => ?_
    rw [List.count, List.countP_map]
    exact hs.client_le
  rw [consumed, List.Nodup, List.pairwise_map]
  refine Std.ExtTreeMap.distinct_keys_toList.imp_of_mem fun {x y} hx hy hne heq => hne ?_
  obtain ⟨e, he, hfd, hh⟩ := hs.listed _ _ (Std.ExtTreeMap.mem_toList_iff_getElem?_eq_some.mp hx)
  obtain ⟨e', he', hfd', hh'⟩ := hs.listed _ _ (Std.ExtTreeMap.mem_toList_iff_getElem?_eq_some.mp hy)
  obtain rfl := List.inj_on_of_nodup_map hclient he he' (hh.trans (heq.trans hh'.symm))
  rw [← hfd, ← hfd', Std.compare_self]

/-- The client is the only holder outside the linked consumers. -/
theorem Raw.bufferMap_of_mem (hs : Raw cfg s) (hh : h ∈ s.consumed) :
    s.own h = 1 ∧ s.track.bufferMap[h]? = some (.ofNat (1 + s.flow.out h)) := by
  have hle := hs.sound.own_le h
  have hclient := hs.countP_client (h := h)
  rw [if_pos hh] at hclient
  have hone : s.own h = 1 := by
    simp only [own] at hle ⊢
    omega
  have hm := (hs.sound.books h).1
  simp only [hone] at hm
  rw [if_neg (by simp)] at hm
  exact ⟨hone, by simpa using hm⟩

theorem framesReceived_returnOnes {bs : List BnBuffer} (ht : bs.foldlM (returnOne cfg) s = some t) :
    t.track.framesReceived = s.track.framesReceived := by
  induction bs generalizing s with
  | nil => rw [Option.some.inj ht]
  | cons x bs ih =>
    rw [List.foldlM_cons] at ht
    obtain ⟨u, hu, ht⟩ := Option.bind_eq_some_iff.mp ht
    obtain ⟨b, -, rfl⟩ := Option.map_eq_some_iff.mp hu
    exact (ih ht).trans rfl

/-- What a step does to the lists of a track that queues nothing, and to its client. -/
inductive Listing (cfg : TrackConfig) (s : TrackFlow) : Action → TrackFlow → Prop where
  | same {a : Action} {t : TrackFlow} (hq : t.track.framesReceived = s.track.framesReceived)
      (hl : t.track.bufferList = s.track.bufferList) (hc : t.client = s.client) : Listing cfg s a t
  | hands (b : StreamBuffer) (ha : s.arriving = some (.linked b))
      (hdest : s.track.destination cfg = .client) :
      Listing cfg s .pass (toClient { s with arriving := none } b)
  | returns {bs : List BnBuffer} {t : TrackFlow} (ht : bs.foldlM (returnOne cfg) s = some t) :
      Listing cfg s (.returnTrackBuffer bs) t

theorem listing_step (hraw : cfg.format.isEncoded = false) (hs : s.track.framesReceived = [])
    (ht : s.step cfg a = some t) : Listing cfg s a t := by
  cases a with
  | onFrameAvailable b =>
    simp only [step, onFrameAvailable] at ht
    split at ht
    · cases ht
    · obtain rfl := Option.some.inj ht
      exact .same rfl rfl rfl
  | prepare encodes =>
    simp only [step, prepare] at ht
    split at ht
    · split at ht
      · obtain rfl := Option.some.inj ht
        exact .same rfl rfl rfl
      · obtain rfl := Option.some.inj ht
        exact .same rfl rfl rfl
    · cases ht
  | link =>
    simp only [step, link] at ht
    split at ht
    · split at ht
      · obtain rfl := Option.some.inj ht
        exact .same rfl rfl rfl
      obtain ⟨u, hu, ht⟩ := Option.bind_eq_some_iff.mp ht
      obtain ⟨n, -, rfl⟩ := Option.map_eq_some_iff.mp hu
      obtain ⟨flow, -, rfl⟩ := Option.map_eq_some_iff.mp ht
      refine .same ?_ ?_ ?_ <;> split <;> rfl
    · cases ht
  | linkedFrame | endNotify =>
    obtain ⟨flow, -, rfl⟩ := Option.map_eq_some_iff.mp ht
    exact .same rfl rfl rfl
  | linkedReturn c h =>
    obtain rfl := Option.some.inj ht
    exact .same rfl rfl rfl
  | pass =>
    simp only [step, pass] at ht
    split at ht
    next b ha hfree =>
      split at ht
      next hdest =>
        obtain rfl := Option.some.inj ht
        exact .same rfl rfl rfl
      next hdest =>
        obtain rfl := Option.some.inj ht
        exact .hands b ha hdest
      next hdest =>
        -- Only the frames of an encoded track are queued.
        simp only [TrackSource.destination, hraw, Bool.false_eq_true, if_false] at hdest
        split at hdest
        · cases hdest
        · split at hdest <;> cases hdest
    next => cases ht
  | getBuffer =>
    obtain ⟨u, hu, -⟩ := Option.map_eq_some_iff.mp ht
    simp [TrackSource.getBuffer, hs] at hu
  | returnBuffer d =>
    obtain ⟨b, -, rfl⟩ := Option.map_eq_some_iff.mp ht
    refine .same ?_ ?_ ?_ <;> dsimp only <;> split <;> rfl
  | returnTrackBuffer bs =>
    simp only [step, returnTrackBuffer] at ht
    split at ht
    · cases ht
    · exact .returns ht
  | notifyBufferReturned h =>
    obtain ⟨flow, -, rfl⟩ := Option.map_eq_some_iff.mp ht
    exact .same rfl rfl rfl
  | addConsumer c =>
    simp only [step, addConsumer] at ht
    split at ht
    · exact Option.some.inj ht ▸ .same rfl rfl rfl
    · obtain ⟨u, hu, rfl⟩ := Option.map_eq_some_iff.mp ht
      obtain ⟨flow, -, rfl⟩ := Option.map_eq_some_iff.mp hu
      exact .same rfl rfl rfl
  | removeConsumer c =>
    simp only [step, removeConsumer] at ht
    split at ht
    · exact Option.some.inj ht ▸ .same rfl rfl rfl
    · obtain ⟨u, hu, rfl⟩ := Option.map_eq_some_iff.mp ht
      obtain ⟨flow, -, rfl⟩ := Option.map_eq_some_iff.mp hu
      exact .same rfl rfl rfl
  | setState isStop isPaused eosAcked =>
    obtain rfl := Option.some.inj ht
    exact .same rfl rfl rfl

theorem Listing.unqueued (h : Listing cfg s a t) (hs : s.track.framesReceived = []) :
    t.track.framesReceived = [] := by
  cases h with
  | same hq => exact hq.trans hs
  | hands => exact hs
  | returns ht => exact (framesReceived_returnOnes ht).trans hs

theorem unqueued_flush (hs : s.track.framesReceived = []) :
    (s.flush cfg).track.framesReceived = [] := by
  unfold flush
  split
  · obtain ⟨m, g, heq⟩ := @releases_eq cfg s s.consumed
    rw [heq]
    exact hs
  · exact hs

theorem unqueued_live {x : Life} (hraw : cfg.format.isEncoded = false)
    (hs : s.track.framesReceived = []) (ht : live cfg s x = some t) :
    t.track.framesReceived = [] := by
  cases x with
  | act a => exact (listing_step hraw hs ht).unqueued hs
  | flush =>
    obtain rfl := Option.some.inj ht
    exact unqueued_flush hs
  | clearInputQueue =>
    obtain rfl := Option.some.inj ht
    rfl
  | portIdle => simp [live, hraw] at ht

/-- What the client returns is no longer listed. -/
theorem withClient_returnOnes {bs : List BnBuffer} (hs : s.WithClient)
    (ht : bs.foldlM (returnOne cfg) s = some t) : t.WithClient := by
  induction bs generalizing s with
  | nil => exact Option.some.inj ht ▸ hs
  | cons x bs ih =>
    rw [List.foldlM_cons] at ht
    obtain ⟨u, hu, ht⟩ := Option.bind_eq_some_iff.mp ht
    obtain ⟨b, hb, rfl⟩ := Option.map_eq_some_iff.mp hu
    refine ih (s := { s.release cfg b.handle with
      track := { (s.release cfg b.handle).track with
        bufferList := s.track.bufferList.erase x.ionFd.toUInt32 }
      client := s.client.eraseP (·.1 = x) }) (fun fd b' hb' => ?_) ht
    have hb' : (s.track.bufferList.erase x.ionFd.toUInt32)[fd]? = some b' := hb'
    rw [Std.ExtTreeMap.getElem?_erase] at hb'
    split at hb'
    · cases hb'
    next hne =>
    obtain ⟨e, he, hfd, hh⟩ := hs fd b' hb'
    refine ⟨e, ?_, hfd, hh⟩
    have hx : e.1 ≠ x := by
      rintro rfl
      simp [hfd] at hne
    exact (List.mem_eraseP_of_neg (by simpa using hx)).mpr he

theorem raw_act (hraw : cfg.format.isEncoded = false) (hs : Raw cfg s) (hcon : s.InContract a)
    (hapart : s.KeepsApart cfg a) (ht : s.step cfg a = some t) : Raw cfg t := by
  have hstep := listing_step hraw hs.queue ht
  refine ⟨sound_step s a t ⟨ht, hcon, hapart⟩ hs.sound, hstep.unqueued hs.queue, ?_⟩
  cases hstep with
  | same _ hl hc =>
    rw [WithClient, hl, hc]
    exact hs.listed
  | hands b ha hdest =>
    intro fd b' hb'
    have hb' : (s.track.bufferList.insertIfNew b.fd.toUInt32 b)[fd]? = some b' := hb'
    rw [OrdMap.getElem?_emplace] at hb'
    split at hb'
    next hfd =>
      subst hfd
      have hnew : b.fd.toUInt32 ∉ s.track.bufferList := (hapart _ ha).2 hdest
      rw [Std.ExtTreeMap.getElem?_eq_none hnew, Option.getD_none] at hb'
      obtain rfl := Option.some.inj hb'
      exact ⟨(b.toBnBuffer, b.handle), by simp [toClient], rfl, rfl⟩
    next hne =>
      obtain ⟨e, he, hfd, hh⟩ := hs.listed fd b' hb'
      exact ⟨e, List.mem_append_left _ he, hfd, hh⟩
  | returns ht => exact withClient_returnOnes hs.listed ht

/-- After a flush the track lists nothing, and every buffer that the client had went back to the
producer once. -/
structure GaveBack (s t : TrackFlow) : Prop where
  empty : t.track.bufferList = ∅
  once : ∀ e ∈ s.client, t.givenBack.count e.2 = s.givenBack.count e.2 + 1

/-- No linked consumer has a buffer that is listed, or the shortcut for rescaled tracks is taken. -/
def Alone (cfg : TrackConfig) (s : TrackFlow) : Prop :=
  ∀ h ∈ s.consumed, s.flow.out h = 0 ∨ s.track.numConsumers = 0 ∧ cfg.rescaler = true

-- Named, since the handles are words and every word can be looked at instead.
instance : Decidable (Alone cfg s) := List.decidableBAll _ _

/-- The client's release is the last one, unless the linked consumers are to release the buffer. -/
theorem count_release_of_mem (hs : Raw cfg s) (hh : h ∈ s.consumed) :
    (s.release cfg h).givenBack.count h = s.givenBack.count h + 1 ↔
      s.flow.out h = 0 ∨ s.track.numConsumers = 0 ∧ cfg.rescaler = true := by
  obtain ⟨-, hcount⟩ := hs.bufferMap_of_mem hh
  have hout := Flow.out_le_one (h := h) hs.sound.tidy
  unfold release TrackSource.returnBufferToProducer
  rw [hcount]
  by_cases h0 : s.flow.out h = 0
  · simp [h0]
  · obtain h1 : s.flow.out h = 1 := by omega
    have hne : UInt32.ofNat (1 + 1) ≠ 1 := by decide
    rw [h1]
    dsimp only
    rw [if_neg hne]
    split
    next hcut => simpa using hcut
    next hcut => simpa using hcut

theorem gaveBack_flush_iff (hs : Raw cfg s) (hf : isFlushed cfg.format = true) :
    GaveBack s (s.flush cfg) ↔ Alone cfg s := by
  have hcount : ∀ h ∈ s.consumed,
      (s.flush cfg).givenBack.count h = (s.release cfg h).givenBack.count h := by
    intro h hh
    have hledger := @ledger_releases cfg s h _ hs.nodup
    rw [if_pos hh] at hledger
    rw [flush, if_pos hf]
    exact (Prod.mk.inj hledger).2
  constructor
  · intro hback h hh
    obtain ⟨e, he, rfl⟩ := hs.mem_consumed_iff.mp hh
    rw [← count_release_of_mem hs hh, ← hcount _ hh]
    exact hback.once e he
  · intro halone
    refine ⟨?_, fun e he => ?_⟩
    · rw [flush, if_pos hf]
    · have hmem : e.2 ∈ s.consumed := hs.mem_consumed_iff.mpr ⟨e, he, rfl⟩
      rw [hcount _ hmem]
      exact (count_release_of_mem hs hmem).mpr (halone _ hmem)

theorem raw_flush (hs : Raw cfg s) (hcut : ∀ h ∈ s.consumed, s.track.cutsShort cfg h = false) :
    Raw cfg (s.flush cfg) := by
  unfold flush
  split
  next hf =>
    obtain ⟨m, g, heq⟩ := @releases_eq cfg s s.consumed
    have hbooks := hs.sound.books.releases hs.nodup (fun h hh => by
      obtain ⟨hone, -⟩ := hs.bufferMap_of_mem hh
      have hout := Flow.out_le_one (h := h) hs.sound.tidy
      refine ⟨?_, ?_, hcut h hh⟩
      · rw [hone]
        simp
      · rw [hone]
        simp
        omega) heq
    rw [heq]
    have hown : ∀ k, s.own k = own { s with client := [] } k + if k ∈ s.consumed then 1 else 0 := by
      intro k
      rw [← hs.countP_client]
      simp only [own, arrivingOf, List.countP_nil, Nat.add_zero]
    refine ⟨⟨hs.sound.tidy, hbooks.congr fun k => ?_, fun k => ?_, hs.sound.fresh, hs.sound.consumers,
      hs.sound.encoding, hs.sound.unmarked, ?_, ?_⟩, hs.queue, fun fd b hb => ?_⟩
    · change own { s with client := [] } k + s.flow.out k + _ = s.own k + s.flow.out k + _ - _
      have hnone : (if (none : Option IBufferHandle) = some k then 1 else 0) = 0 := if_neg (by simp)
      rw [hown, hnone]
      omega
    · have hle := hs.sound.own_le k
      rw [hown] at hle
      change own { s with client := [] } k ≤ 1
      omega
    · simp
    · simp
    · simp at hb
  next => exact hs

theorem clearInputQueue_of_nil (hq : s.track.framesReceived = []) : s.clearInputQueue cfg = s := by
  have hsame : { s.track with framesReceived := [] } = s.track := by rw [← hq]
  rw [TrackFlow.clearInputQueue, hq]
  exact congrArg (fun track => { s with track }) hsame

theorem clearInputQueue_clearInputQueue :
    (s.clearInputQueue cfg).clearInputQueue cfg = s.clearInputQueue cfg :=
  clearInputQueue_of_nil rfl

theorem flush_of_empty (hl : s.track.bufferList = ∅) (hc : s.client = []) : s.flush cfg = s := by
  have hnone : s.consumed = [] := by
    refine List.eq_nil_iff_forall_not_mem.mpr fun h hh => ?_
    obtain ⟨fd, b, hb, -⟩ := mem_consumed.mp hh
    simp [hl] at hb
  have hsame : { s.track with bufferList := ∅ } = s.track := by rw [← hl]
  rw [flush, hnone]
  split
  · change { s with track := { s.track with bufferList := ∅ }, client := [] } = s
    rw [hsame, ← hc]
  · rfl

theorem flush_flush : (s.flush cfg).flush cfg = s.flush cfg := by
  by_cases hf : isFlushed cfg.format = true
  · rw [show s.flush cfg = _ from if_pos hf]
    exact flush_of_empty rfl rfl
  · rw [show s.flush cfg = s from if_neg hf, show s.flush cfg = s from if_neg hf]

theorem raw_step (hraw : cfg.format.isEncoded = false) :
    ((lifeLts cfg).guarded (Orderly cfg)).TrInv (Raw cfg) := by
  rintro s a t ⟨hstep, hguard⟩ hs
  have hstep : s.live cfg a = some t := hstep
  cases a with
  | act a => exact raw_act hraw hs hguard.1 hguard.2 hstep
  | flush =>
    obtain rfl := Option.some.inj hstep
    exact raw_flush hs hguard
  | clearInputQueue =>
    obtain rfl := Option.some.inj hstep
    rwa [clearInputQueue_of_nil hs.queue]
  | portIdle => simp [live, hraw] at hstep

theorem raw_of_mTr (hraw : cfg.format.isEncoded = false)
    (h : ((lifeLts cfg).guarded (Orderly cfg)).MTr {} as s) : Raw cfg s :=
  LTS.inv_of_mTr (raw_step hraw) h raw_initial

/-- What the client had goes back if and only if it had nothing, or the format is flushed and the
linked consumers have none of it. -/
theorem gaveBack_iff (hs : Raw cfg s) : GaveBack s (s.flush cfg) ↔
    s.track.bufferList = ∅ ∨ isFlushed cfg.format = true ∧ Alone cfg s := by
  have hnone : s.track.bufferList = ∅ → Alone cfg s ∧ s.client = [] := by
    intro hempty
    constructor
    · intro h hh
      obtain ⟨fd, b, hb, -⟩ := mem_consumed.mp hh
      simp [hempty] at hb
    · refine List.eq_nil_iff_forall_not_mem.mpr fun e he => ?_
      obtain ⟨b, hb, -⟩ := hs.sound.listed.mem e he
      simp [hempty] at hb
  by_cases hf : isFlushed cfg.format = true
  · rw [gaveBack_flush_iff hs hf, and_iff_right hf, iff_or_self]
    exact fun hempty => (hnone hempty).1
  · rw [flush, if_neg hf]
    refine ⟨fun h => .inl h.empty, fun h => ?_⟩
    have hempty := h.resolve_right fun h => hf h.1
    exact ⟨hempty, fun e he => by simp [(hnone hempty).2] at he⟩

/-- The track counts the handle for more holders than there are releases to come, or not at all. -/
def Lasts (cfg : TrackConfig) (s : TrackFlow) (h : IBufferHandle) (releases : Nat) : Prop :=
  ∀ n, s.track.bufferMap[h]? = some n → releases < n.toNat ∧
    (releases = 0 ∨ (s.track.numConsumers == 0 && cfg.rescaler) = false)

/-- The handle is not among those that were given back in between. -/
def Withholds (h : IBufferHandle) (s t : TrackFlow) : Prop :=
  ∃ hs, t.givenBack = s.givenBack ++ hs ∧ h ∉ hs

theorem Withholds.refl : Withholds h s s := ⟨[], by simp, by simp⟩

theorem Withholds.trans {u : TrackFlow} (hs : Withholds h s t) (ht : Withholds h t u) :
    Withholds h s u := by
  obtain ⟨l, hl, hnot⟩ := hs
  obtain ⟨l', hl', hnot'⟩ := ht
  exact ⟨l ++ l', by rw [hl', hl, List.append_assoc], by simp [hnot, hnot']⟩

theorem withholds_release_ne (hk : k ≠ h) : Withholds h s (s.release cfg k) := by
  unfold release
  dsimp only
  split
  · exact ⟨[k], rfl, by simpa using Ne.symm hk⟩
  · exact .refl

/-- A release that is not the last one leaves the handle to the others. -/
theorem Lasts.release_self {releases : Nat} (hl : Lasts cfg s h (releases + 1)) :
    Withholds h s (s.release cfg h) ∧ Lasts cfg (s.release cfg h) h releases := by
  unfold TrackFlow.release TrackSource.returnBufferToProducer
  cases hm : s.track.bufferMap[h]? with
  | none => exact ⟨.refl, fun n hn => by simp [hm] at hn⟩
  | some n =>
    obtain ⟨hlt, hcut⟩ := hl n hm
    have hcut := hcut.resolve_left (Nat.succ_ne_zero _)
    have hone : n ≠ 1 := by
      rintro rfl
      simp at hlt
    have hcut' : (decide (s.track.numConsumers = 0) && cfg.rescaler) = false := hcut
    dsimp only
    rw [if_neg hone, if_neg (by simp [hcut'])]
    refine ⟨.refl, fun n' hn' => ?_⟩
    obtain rfl : n - 1 = n' := by simpa using hn'
    refine ⟨?_, .inr hcut⟩
    rw [UInt32.toNat_sub_of_le _ _ (UInt32.le_iff_toNat_le.mpr (by
      rw [UInt32.toNat_one]
      omega)), UInt32.toNat_one]
    omega

theorem Lasts.releases {j : Nat} (hl : Lasts cfg s h (hs.count h + j)) :
    Withholds h s (hs.foldl (TrackFlow.release cfg) s) ∧
      Lasts cfg (hs.foldl (TrackFlow.release cfg) s) h j := by
  induction hs generalizing s with
  | nil => exact ⟨.refl, by simpa using hl⟩
  | cons k hs ih =>
    rw [List.foldl_cons]
    by_cases hk : k = h
    · subst hk
      rw [List.count_cons_self, Nat.add_right_comm] at hl
      obtain ⟨hfirst, hl⟩ := hl.release_self
      obtain ⟨hrest, hl⟩ := ih hl
      exact ⟨hfirst.trans hrest, hl⟩
    · rw [List.count_cons_of_ne hk] at hl
      have hmap : (s.release cfg k).track.bufferMap[h]? = s.track.bufferMap[h]? :=
        (Prod.mk.inj (ledger_release_ne hk)).1
      obtain ⟨hrest, hl⟩ := ih (s := s.release cfg k) fun n hn => hl n (hmap.symm.trans hn)
      exact ⟨(withholds_release_ne hk).trans hrest, hl⟩

theorem Lasts.flush {j : Nat} (hl : Lasts cfg s h (s.consumed.count h + j)) :
    Withholds h s (s.flush cfg) ∧ Lasts cfg (s.flush cfg) h j := by
  unfold TrackFlow.flush
  split
  · exact hl.releases
  · refine ⟨.refl, fun n hn => ?_⟩
    obtain ⟨hlt, hcut⟩ := hl n hn
    exact ⟨by omega, hcut.imp (by omega) id⟩

theorem Lasts.clearInputQueue {j : Nat}
    (hl : Lasts cfg s h ((s.track.framesReceived.map (·.handle)).count h + j)) :
    Withholds h s (s.clearInputQueue cfg) ∧ Lasts cfg (s.clearInputQueue cfg) h j := hl.releases

/-- What is not counted is not given back, and not counted after it. -/
theorem uncounted_releases (hm : s.track.bufferMap[h]? = none) :
    (hs.foldl (release cfg) s).track.bufferMap[h]? = none := by
  induction hs generalizing s with
  | nil => exact hm
  | cons k hs ih =>
    refine ih ?_
    by_cases hk : k = h
    · subst hk
      simp [release, TrackSource.returnBufferToProducer, hm]
    · exact (Prod.mk.inj (ledger_release_ne hk)).1.trans hm

theorem uncounted_flush (hm : s.track.bufferMap[h]? = none) :
    (s.flush cfg).track.bufferMap[h]? = none := by
  unfold flush
  split
  · exact uncounted_releases hm
  · exact hm

theorem uncounted_portIdle (hm : s.track.bufferMap[h]? = none) :
    Withholds h s (s.portIdle cfg) ∧ (s.portIdle cfg).track.bufferMap[h]? = none := by
  have hclear : (s.clearInputQueue cfg).track.bufferMap[h]? = none := uncounted_releases hm
  have hlasts : Lasts cfg s h ((s.track.framesReceived.map (·.handle)).count h + 0) :=
    fun n hn => by simp [hm] at hn
  refine ⟨hlasts.clearInputQueue.1.trans ⟨_, rfl, ?_⟩, hclear⟩
  rw [Std.ExtTreeMap.mem_keys, Std.ExtTreeMap.mem_iff_isSome_getElem?, hclear]
  simp

instance (x : Life) : Decidable (Orderly cfg s x) :=
  match x with
  | .act _ => inferInstanceAs (Decidable (_ ∧ _))
  | .flush => List.decidableBAll _ _
  | .clearInputQueue | .portIdle => .isTrue trivial

end TrackFlow

end QmmfSdk.Pipeline
