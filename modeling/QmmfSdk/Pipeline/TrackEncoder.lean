import Mathlib.Data.List.Nodup
import QmmfSdk.Library.Keyed
import QmmfSdk.Pipeline.TrackSource

/-! `TrackEncoder`: output buffers go from the free queue to the codec, on to the client and back,
and a forced stop takes them all back at once. -/
namespace QmmfSdk.Pipeline

open Library Binder Recorder

/-- What `AllocOutputPortBufs` allocates: open file descriptors and mappings are distinct. -/
structure OutputBuffers where
  buffers : List BufferDescriptor
  fd_nodup : (buffers.map (·.fd)).Nodup
  data_nodup : (buffers.map (·.data)).Nodup

structure TrackEncoder where
  outputFreeBufferQueue : List BufferDescriptor
  outputOccupyBufferQueue : List BufferDescriptor := []
  eosAtoutput : Bool := false
  isForceCleanup : Bool := false

/-- `1 << 1`. -/
def kFlagEOS : UInt32 := 2

namespace TrackEncoder

/-- The first occupied buffer that meets the test goes to the end of the free queue. -/
def moveToFree (e : TrackEncoder) (p : BufferDescriptor → Bool) : Option TrackEncoder :=
  (e.outputOccupyBufferQueue.find? p).map fun b =>
    { e with outputFreeBufferQueue := e.outputFreeBufferQueue ++ [b]
             outputOccupyBufferQueue := e.outputOccupyBufferQueue.eraseP p }

/-- What the client gets for a buffer that the codec filled. -/
def bnBuffer (b codecBuffer : BufferDescriptor) : BnBuffer where
  ionFd := b.fd
  ionMetaFd := -1
  size := codecBuffer.size
  timestamp := codecBuffer.timestamp
  width := -1
  height := -1
  bufferId := b.fd.toUInt32
  flag := codecBuffer.flag
  capacity := b.capacity

def noteEos (e : TrackEncoder) (codecBuffer : BufferDescriptor) : TrackEncoder :=
  { e with eosAtoutput := e.eosAtoutput || codecBuffer.flag &&& kFlagEOS != 0 }

/-- `NotifyBufferToClient`, and what it hands to the client. After a forced stop the client may be
gone; otherwise it is an assertion that the buffer is found. -/
def notifyBufferToClient (e : TrackEncoder) (codecBuffer : BufferDescriptor) :
    Option (TrackEncoder × Option (BnBuffer × BufferDescriptor)) :=
  if e.isForceCleanup then some (e.noteEos codecBuffer, none)
  else (e.outputOccupyBufferQueue.find? (·.data = codecBuffer.data)).map fun b =>
    (e.noteEos codecBuffer, some (bnBuffer b codecBuffer, b))

/-- A buffer that the codec gives back empty, or after the end of the stream, does not go to the
client. -/
def returnBuffer (e : TrackEncoder) (codecBuffer : BufferDescriptor) :
    Option (TrackEncoder × Option (BnBuffer × BufferDescriptor)) :=
  if codecBuffer.data = 0 then none
  else if e.eosAtoutput || codecBuffer.size == 0 then
    some ((e.moveToFree (·.data = codecBuffer.data)).getD e, none)
  else e.notifyBufferToClient codecBuffer

def returnFromClient (e : TrackEncoder) : List BnBuffer → Status × TrackEncoder
  | [] => (.noError, e)
  | b :: bs =>
    match e.moveToFree (·.fd = b.bufferId.toInt32) with
    | some e' => e'.returnFromClient bs
    | none => (.failedTransaction, e)

def onBufferReturnFromClient (e : TrackEncoder) (bs : List BnBuffer) : Status × TrackEncoder :=
  if e.isForceCleanup then (.noError, e) else e.returnFromClient bs

def stop (e : TrackEncoder) (isForceCleanup : Bool) : TrackEncoder :=
  if isForceCleanup then
    { e with isForceCleanup := true
             outputFreeBufferQueue := e.outputFreeBufferQueue ++ e.outputOccupyBufferQueue
             outputOccupyBufferQueue := [] }
  else e

end TrackEncoder

/-- A track encoder with its callers: where the output thread of the codec is in `GetBuffer`, and
what the codec and the client have. -/
structure EncoderFlow where
  encoder : TrackEncoder
  getting : Option BufferDescriptor := none
  codec : List BufferDescriptor := []
  client : List (BnBuffer × BufferDescriptor) := []

namespace EncoderFlow

inductive Action where
  | getBuffer
  | endGetBuffer (synchronized : Bool)
  | returnBuffer (codecBuffer : BufferDescriptor)
  | onBufferReturnFromClient (bs : List BnBuffer)
  | start
  | stop (isForceCleanup : Bool)

/-- The state that `Init` leaves. -/
def initial (pool : OutputBuffers) : EncoderFlow where
  encoder := { outputFreeBufferQueue := pool.buffers }

/-- The first locked part: the front of the queue is read and stays there. -/
def getBuffer (s : EncoderFlow) : Option EncoderFlow :=
  match s.getting, s.encoder.outputFreeBufferQueue with
  | none, b :: _ => some { s with getting := some b }
  | _, _ => none

/-- The second locked part, unless the cache could not be synchronized. -/
def endGetBuffer (s : EncoderFlow) (synchronized : Bool) : Option EncoderFlow :=
  s.getting.map fun b =>
    if synchronized then
      { s with
        getting := none
        codec := s.codec ++ [b]
        encoder := { s.encoder with
          outputOccupyBufferQueue := s.encoder.outputOccupyBufferQueue ++ [b]
          outputFreeBufferQueue := s.encoder.outputFreeBufferQueue.tail } }
    else { s with getting := none }

def returnBuffer (s : EncoderFlow) (codecBuffer : BufferDescriptor) : Option EncoderFlow :=
  (s.encoder.returnBuffer codecBuffer).map fun (e, given) =>
    { s with encoder := e
             codec := s.codec.eraseP (·.data = codecBuffer.data)
             client := s.client ++ given.toList }

def onBufferReturnFromClient (s : EncoderFlow) (bs : List BnBuffer) : EncoderFlow :=
  { s with encoder := (s.encoder.onBufferReturnFromClient bs).2
           client := bs.foldl (fun client b => client.eraseP (·.1 = b)) s.client }

def step (s : EncoderFlow) : Action → Option EncoderFlow
  | .getBuffer => s.getBuffer
  | .endGetBuffer synchronized => s.endGetBuffer synchronized
  | .returnBuffer codecBuffer => s.returnBuffer codecBuffer
  | .onBufferReturnFromClient bs => some (s.onBufferReturnFromClient bs)
  | .start => some { s with encoder := { s.encoder with eosAtoutput := false } }
  | .stop isForceCleanup => some { s with encoder := s.encoder.stop isForceCleanup }

def lts : LTS EncoderFlow Action := .ofStep step

variable {pool : OutputBuffers} {s t : EncoderFlow} {a : Action} {as : List Action}
  {e e' : TrackEncoder} {p : BufferDescriptor → Bool} {b codecBuffer : BufferDescriptor}
  {bs : List BnBuffer}

/-- Free queue and occupied list together are the allocated buffers, each once. -/
def Conserved (pool : OutputBuffers) (s : EncoderFlow) : Prop :=
  (s.encoder.outputFreeBufferQueue ++ s.encoder.outputOccupyBufferQueue).Perm pool.buffers

/-- No buffer is free while the codec or the client has it. -/
def Exclusive (s : EncoderFlow) : Prop :=
  ∀ b ∈ s.encoder.outputFreeBufferQueue, b ∉ s.codec ∧ b ∉ s.client.map (·.2)

/-- The codec and the client return only what they have. -/
def InContract (s : EncoderFlow) : Action → Prop
  | .returnBuffer codecBuffer => ∃ b ∈ s.codec, b.data = codecBuffer.data
  | .onBufferReturnFromClient bs => bs.Subperm (s.client.map (·.1))
  | _ => True

def Action.isForced : Action → Bool
  | .stop isForceCleanup => isForceCleanup
  | _ => false

/-- One buffer changes lists, at the places where it was and where it goes. -/
theorem moveToFree_cases (he : e.moveToFree p = some e') :
    ∃ b l₁ l₂, p b = true ∧ e.outputOccupyBufferQueue = l₁ ++ b :: l₂ ∧
      e' = { e with outputFreeBufferQueue := e.outputFreeBufferQueue ++ [b]
                    outputOccupyBufferQueue := l₁ ++ l₂ } := by
  obtain ⟨b, hb, rfl⟩ := Option.map_eq_some_iff.mp he
  obtain ⟨l₁, l₂, hl, herase⟩ := Keyed.eraseP_of_find? hb
  exact ⟨b, l₁, l₂, List.find?_some hb, hl, by rw [herase]⟩

theorem perm_moveToFree (he : e.moveToFree p = some e') :
    (e'.outputFreeBufferQueue ++ e'.outputOccupyBufferQueue).Perm
      (e.outputFreeBufferQueue ++ e.outputOccupyBufferQueue) := by
  obtain ⟨b, l₁, l₂, -, hl, rfl⟩ := moveToFree_cases he
  rw [hl]
  simp only [List.append_assoc, List.singleton_append]
  exact (List.perm_middle.symm).append_left _

theorem perm_returnFromClient :
    ((e.returnFromClient bs).2.outputFreeBufferQueue ++
      (e.returnFromClient bs).2.outputOccupyBufferQueue).Perm
        (e.outputFreeBufferQueue ++ e.outputOccupyBufferQueue) := by
  induction bs generalizing e with
  | nil => exact .refl _
  | cons b bs ih =>
    unfold TrackEncoder.returnFromClient
    split
    next e' he => exact ih.trans (perm_moveToFree he)
    next => exact .refl _

/-- A return of the codec moves at most the buffer that it finds. -/
theorem returnBuffer_cases {given : Option (BnBuffer × BufferDescriptor)}
    (he : e.returnBuffer codecBuffer = some (e', given)) :
    (given = none ∧ e.moveToFree (·.data = codecBuffer.data) = some e') ∨
    (given = none ∧ e' = e ∧ e.moveToFree (·.data = codecBuffer.data) = none) ∨
    (given = none ∧ e.isForceCleanup = true ∧ e' = e.noteEos codecBuffer) ∨
    (∃ b, e.outputOccupyBufferQueue.find? (·.data = codecBuffer.data) = some b ∧
      given = some (TrackEncoder.bnBuffer b codecBuffer, b) ∧ e' = e.noteEos codecBuffer) := by
  unfold TrackEncoder.returnBuffer at he
  split at he
  · cases he
  split at he
  · obtain ⟨rfl, rfl⟩ := Prod.mk.inj (Option.some.inj he)
    cases hmove : e.moveToFree (·.data = codecBuffer.data) with
    | some e' => exact .inl ⟨rfl, rfl⟩
    | none => exact .inr (.inl ⟨rfl, rfl, rfl⟩)
  · unfold TrackEncoder.notifyBufferToClient at he
    split at he
    next hforce =>
      obtain ⟨rfl, rfl⟩ := Prod.mk.inj (Option.some.inj he)
      exact .inr (.inr (.inl ⟨rfl, hforce, rfl⟩))
    next =>
      obtain ⟨b, hb, heq⟩ := Option.map_eq_some_iff.mp he
      obtain ⟨rfl, rfl⟩ := Prod.mk.inj heq
      exact .inr (.inr (.inr ⟨b, hb, rfl, rfl⟩))

/-- The front that `GetBuffer` has read is still there when it pops the queue. -/
structure Sound (pool : OutputBuffers) (s : EncoderFlow) : Prop where
  conserved : s.Conserved pool
  front : ∀ b ∈ s.getting, s.encoder.outputFreeBufferQueue.head? = some b

theorem sound_initial : Sound pool (initial pool) := by
  refine ⟨?_, by simp [initial]⟩
  simp [Conserved, initial]

/-- Buffers join the free queue at its end. -/
theorem Sound.congr (hs : Sound pool s) {l : List BufferDescriptor}
    (hfree : e.outputFreeBufferQueue = s.encoder.outputFreeBufferQueue ++ l)
    (hperm : (e.outputFreeBufferQueue ++ e.outputOccupyBufferQueue).Perm
      (s.encoder.outputFreeBufferQueue ++ s.encoder.outputOccupyBufferQueue))
    (codec : List BufferDescriptor) (client : List (BnBuffer × BufferDescriptor)) :
    Sound pool { s with encoder := e, codec, client } := by
  refine ⟨hperm.trans hs.conserved, fun b hb => ?_⟩
  have hfront := hs.front b hb
  change e.outputFreeBufferQueue.head? = some b
  rw [hfree, List.head?_append, hfront]
  rfl

theorem Sound.same (hs : Sound pool s)
    (hfree : e.outputFreeBufferQueue = s.encoder.outputFreeBufferQueue)
    (hoccupy : e.outputOccupyBufferQueue = s.encoder.outputOccupyBufferQueue)
    (codec : List BufferDescriptor) (client : List (BnBuffer × BufferDescriptor)) :
    Sound pool { s with encoder := e, codec, client } :=
  hs.congr (l := []) (by simp [hfree]) (by rw [hfree, hoccupy]) codec client

theorem returnFromClient_free :
    ∃ l, (e.returnFromClient bs).2.outputFreeBufferQueue = e.outputFreeBufferQueue ++ l := by
  induction bs generalizing e with
  | nil => exact ⟨[], by simp [TrackEncoder.returnFromClient]⟩
  | cons b bs ih =>
    unfold TrackEncoder.returnFromClient
    split
    next e' he =>
      obtain ⟨x, l₁, l₂, -, -, rfl⟩ := moveToFree_cases he
      obtain ⟨l, hl⟩ := ih (e := { e with
        outputFreeBufferQueue := e.outputFreeBufferQueue ++ [x]
        outputOccupyBufferQueue := l₁ ++ l₂ })
      exact ⟨x :: l, by simp [hl]⟩
    next => exact ⟨[], by simp⟩

theorem sound_step : lts.TrInv (Sound pool) := by
  intro s a t hstep hs
  have hstep : s.step a = some t := hstep
  cases a with
  | getBuffer =>
    simp only [step, getBuffer] at hstep
    split at hstep
    next b rest hget hfree =>
      obtain rfl := Option.some.inj hstep
      refine ⟨hs.conserved, fun b' hb' => ?_⟩
      obtain rfl : b = b' := by simpa using hb'
      change s.encoder.outputFreeBufferQueue.head? = some b
      rw [hfree]
      rfl
    next => cases hstep
  | endGetBuffer synchronized =>
    obtain ⟨b, hb, rfl⟩ := Option.map_eq_some_iff.mp hstep
    cases synchronized with
    | false => exact ⟨hs.conserved, by simp⟩
    | true =>
      obtain ⟨rest, hrest⟩ := List.head?_eq_some_iff.mp (hs.front b hb)
      refine ⟨?_, by simp⟩
      have hcons := hs.conserved
      simp only [Conserved, hrest] at hcons
      refine List.Perm.trans ?_ hcons
      simp only [if_true, hrest, List.tail_cons, List.cons_append]
      rw [← List.append_assoc]
      exact List.perm_append_singleton b _
  | returnBuffer codecBuffer =>
    obtain ⟨⟨e, given⟩, he, rfl⟩ := Option.map_eq_some_iff.mp hstep
    rcases returnBuffer_cases he with ⟨-, hmove⟩ | ⟨-, rfl, -⟩ | ⟨-, -, rfl⟩ | ⟨b, -, -, rfl⟩
    · have hperm := perm_moveToFree hmove
      obtain ⟨b, l₁, l₂, -, -, rfl⟩ := moveToFree_cases hmove
      exact hs.congr rfl hperm _ _
    all_goals
      apply hs.same
      · rfl
      · rfl
  | onBufferReturnFromClient bs =>
    obtain rfl := Option.some.inj hstep
    unfold onBufferReturnFromClient TrackEncoder.onBufferReturnFromClient
    split
    · exact hs.same rfl rfl _ _
    · obtain ⟨l, hl⟩ : ∃ l, (s.encoder.returnFromClient bs).2.outputFreeBufferQueue =
          s.encoder.outputFreeBufferQueue ++ l := returnFromClient_free
      exact hs.congr hl perm_returnFromClient _ _
  | start =>
    obtain rfl := Option.some.inj hstep
    apply hs.same
    · rfl
    · rfl
  | stop isForceCleanup =>
    obtain rfl := Option.some.inj hstep
    cases isForceCleanup with
    | false => exact hs.same rfl rfl _ _
    | true =>
      exact hs.congr (e := s.encoder.stop true) (l := s.encoder.outputOccupyBufferQueue) rfl
        (by simp [TrackEncoder.stop]) _ _

/-- Without a forced stop the occupied buffers are those that the codec and the client have. -/
structure Held (s : EncoderFlow) : Prop where
  perm : (s.codec ++ s.client.map (·.2)).Perm s.encoder.outputOccupyBufferQueue
  named : ∀ x ∈ s.client, x.1.bufferId.toInt32 = x.2.fd
  unforced : s.encoder.isForceCleanup = false

theorem held_initial : Held (initial pool) := ⟨by simp [initial], by simp [initial], rfl⟩

/-- Every buffer that someone has is an allocated one. -/
theorem mem_pool (hs : Sound pool s) (hmem : b ∈ s.encoder.outputOccupyBufferQueue) :
    b ∈ pool.buffers :=
  hs.conserved.mem_iff.mp (List.mem_append_right _ hmem)

theorem eq_of_data (hs : Sound pool s) (hh : Held s) {b' : BufferDescriptor} (hb : b ∈ s.codec)
    (hb' : b' ∈ s.encoder.outputOccupyBufferQueue) (heq : b'.data = b.data) : b' = b := by
  have hocc : b ∈ s.encoder.outputOccupyBufferQueue :=
    hh.perm.mem_iff.mp (List.mem_append_left _ hb)
  exact List.inj_on_of_nodup_map pool.data_nodup (mem_pool hs hb') (mem_pool hs hocc) heq

/-- The occupied buffer that a return of the codec finds is the one that the codec lets go. -/
theorem codec_split (hs : Sound pool s) (hh : Held s) (hb : b ∈ s.codec)
    (hdata : b.data = codecBuffer.data) :
    ∃ l₁ l₂, s.codec = l₁ ++ b :: l₂ ∧ s.codec.eraseP (·.data = codecBuffer.data) = l₁ ++ l₂ := by
  have hsome : (s.codec.find? (·.data = codecBuffer.data)).isSome := by
    rw [List.find?_isSome]
    exact ⟨b, hb, by simpa using hdata⟩
  obtain ⟨b', hb'⟩ := Option.isSome_iff_exists.mp hsome
  have hmem := List.mem_of_find?_eq_some hb'
  have hocc := hh.perm.mem_iff.mp (List.mem_append_left (s.client.map (·.2)) hmem)
  have hdata' : b'.data = codecBuffer.data := by simpa using List.find?_some hb'
  obtain rfl := eq_of_data hs hh hb hocc (hdata'.trans hdata.symm)
  exact Keyed.eraseP_of_find? hb'

theorem held_returnBuffer (hs : Sound pool s) (hh : Held s)
    (hcon : ∃ b ∈ s.codec, b.data = codecBuffer.data) (ht : s.returnBuffer codecBuffer = some t) :
    Held t := by
  obtain ⟨⟨e, given⟩, he, rfl⟩ := Option.map_eq_some_iff.mp ht
  obtain ⟨b, hb, hdata⟩ := hcon
  obtain ⟨c₁, c₂, hc, hcerase⟩ := codec_split hs hh hb hdata
  have hperm := hh.perm
  rw [hc] at hperm
  rcases returnBuffer_cases he with ⟨rfl, hmove⟩ | ⟨rfl, rfl, hnone⟩ | ⟨-, hforce, -⟩ |
    ⟨b', hb', rfl, rfl⟩
  · obtain ⟨b', l₁, l₂, hp, hl, rfl⟩ := moveToFree_cases hmove
    have hdata' : b'.data = codecBuffer.data := by simpa using hp
    obtain rfl := eq_of_data hs hh hb (by simp [hl]) (hdata'.trans hdata.symm)
    refine ⟨?_, by simpa using hh.named, hh.unforced⟩
    simp only [hcerase, Option.toList_none, List.append_nil]
    rw [hl, List.append_assoc, List.cons_append] at hperm
    rw [List.append_assoc]
    exact (List.perm_middle.symm.trans (hperm.trans List.perm_middle)).cons_inv
  · -- the codec has the buffer, so it is occupied
    have hocc : b ∈ s.encoder.outputOccupyBufferQueue :=
      hh.perm.mem_iff.mp (List.mem_append_left _ hb)
    have hfind := Option.map_eq_none_iff.mp hnone
    have := List.find?_eq_none.mp hfind b hocc
    simp [hdata] at this
  · simp [hh.unforced] at hforce
  · have hdata' : b'.data = codecBuffer.data := by simpa using List.find?_some hb'
    obtain rfl := eq_of_data hs hh hb (List.mem_of_find?_eq_some hb') (hdata'.trans hdata.symm)
    refine ⟨?_, ?_, hh.unforced⟩
    · simp only [hcerase, Option.toList_some, List.map_append, List.map_singleton]
      refine List.Perm.trans ?_ hperm
      rw [← List.append_assoc, List.append_assoc c₁ (b' :: c₂), List.cons_append]
      refine (List.perm_append_singleton b' _).trans ?_
      rw [List.append_assoc]
      exact List.perm_middle.symm
    · intro x hx
      rcases List.mem_append.mp hx with hx | hx
      · exact hh.named x hx
      · obtain rfl : x = (TrackEncoder.bnBuffer b' codecBuffer, b') := by simpa using hx
        rfl

/-- The client gets back to the free queue exactly what it had. -/
theorem held_returnFromClient (hs : Sound pool s) (hh : Held s)
    (hsub : bs.Subperm (s.client.map (·.1))) :
    Held { s with encoder := (s.encoder.returnFromClient bs).2
                  client := bs.foldl (fun client b => client.eraseP (·.1 = b)) s.client } := by
  induction bs generalizing s with
  | nil => exact hh
  | cons x bs ih =>
    have hx : x ∈ s.client.map (·.1) := hsub.subset (by simp)
    have hsome : (s.client.find? (·.1 = x)).isSome := by
      rw [List.find?_isSome]
      obtain ⟨y, hy, rfl⟩ := List.mem_map.mp hx
      exact ⟨y, hy, by simp⟩
    obtain ⟨y, hy⟩ := Option.isSome_iff_exists.mp hsome
    obtain rfl : y.1 = x := by simpa using List.find?_some hy
    obtain ⟨c₁, c₂, hc, hcerase⟩ := Keyed.eraseP_of_find? hy
    have hfd := hh.named y (by simp [hc])
    have hocc : y.2 ∈ s.encoder.outputOccupyBufferQueue := hh.perm.mem_iff.mp (by simp [hc])
    have hmoves : (s.encoder.moveToFree (·.fd = y.1.bufferId.toInt32)).isSome := by
      simp only [TrackEncoder.moveToFree, Option.isSome_map, List.find?_isSome]
      exact ⟨y.2, hocc, by simp [hfd]⟩
    obtain ⟨e, he⟩ := Option.isSome_iff_exists.mp hmoves
    obtain ⟨b, l₁, l₂, hp, hl, hedef⟩ := moveToFree_cases he
    have hbocc : b ∈ s.encoder.outputOccupyBufferQueue := by simp [hl]
    obtain rfl : b = y.2 := by
      refine List.inj_on_of_nodup_map pool.fd_nodup (mem_pool hs hbocc) (mem_pool hs hocc) ?_
      rw [← hfd]
      simpa using hp
    have hperm := hh.perm
    rw [hc, hl] at hperm
    have hsub' : bs.Subperm ((c₁ ++ c₂).map (·.1)) := Keyed.subperm_of_cons (f := Prod.fst) hc hsub
    simp only [TrackEncoder.returnFromClient, he, List.foldl_cons, hcerase]
    refine ih (s := { s with encoder := e, client := c₁ ++ c₂ }) ?_ ⟨?_, ?_, ?_⟩ hsub'
    · exact hs.congr (l := [y.2]) (by rw [hedef]) (perm_moveToFree he) _ _
    · simp only [hedef]
      have hleft : (s.codec ++ (c₁ ++ y :: c₂).map (·.2)).Perm
          (y.2 :: (s.codec ++ (c₁ ++ c₂).map (·.2))) := by
        simp only [List.map_append, List.map_cons, ← List.append_assoc]
        exact List.perm_middle
      exact (hleft.symm.trans (hperm.trans List.perm_middle)).cons_inv
    · intro z hz
      apply hh.named z
      rw [hc]
      simp only [List.mem_append, List.mem_cons] at hz ⊢
      tauto
    · rw [hedef]
      exact hh.unforced

theorem held_step : (lts.guarded fun s a => s.InContract a ∧ a.isForced = false).TrInv
    fun s => Sound pool s ∧ Held s := by
  rintro s a t ⟨htr, hcon, hforced⟩ ⟨hs, hh⟩
  refine ⟨sound_step s a t htr hs, ?_⟩
  have hstep : s.step a = some t := htr
  cases a with
  | getBuffer =>
    simp only [step, getBuffer] at hstep
    split at hstep
    · obtain rfl := Option.some.inj hstep
      exact ⟨hh.perm, hh.named, hh.unforced⟩
    · cases hstep
  | endGetBuffer synchronized =>
    obtain ⟨b, hb, rfl⟩ := Option.map_eq_some_iff.mp hstep
    cases synchronized with
    | false => exact ⟨hh.perm, hh.named, hh.unforced⟩
    | true =>
      refine ⟨?_, hh.named, hh.unforced⟩
      have hmiddle : (s.codec ++ [b] ++ s.client.map (·.2)).Perm
          (b :: (s.codec ++ s.client.map (·.2))) := by
        rw [List.append_assoc, List.singleton_append]
        exact List.perm_middle
      exact hmiddle.trans ((hh.perm.cons b).trans (List.perm_append_singleton b _).symm)
  | returnBuffer codecBuffer => exact held_returnBuffer hs hh hcon hstep
  | onBufferReturnFromClient bs =>
    obtain rfl := Option.some.inj hstep
    have hheld := held_returnFromClient hs hh hcon
    simpa only [onBufferReturnFromClient, TrackEncoder.onBufferReturnFromClient, hh.unforced,
      Bool.false_eq_true, if_false] using hheld
  | start =>
    obtain rfl := Option.some.inj hstep
    exact ⟨hh.perm, hh.named, hh.unforced⟩
  | stop isForceCleanup =>
    obtain rfl := Option.some.inj hstep
    obtain rfl : isForceCleanup = false := hforced
    exact ⟨hh.perm, hh.named, hh.unforced⟩

theorem exclusive_of_held (hs : Sound pool s) (hh : Held s) : s.Exclusive := by
  intro b hb
  have hnodup : (s.encoder.outputFreeBufferQueue ++ s.encoder.outputOccupyBufferQueue).Nodup :=
    hs.conserved.nodup_iff.mpr (List.Nodup.of_map _ pool.fd_nodup)
  have hdisjoint := (List.nodup_append.mp hnodup).2.2
  have hnot : b ∉ s.codec ++ s.client.map (·.2) := by
    intro hmem
    exact hdisjoint b hb b (hh.perm.mem_iff.mp hmem) rfl
  simpa only [List.mem_append, not_or] using hnot

/-- In every state that can be reached from `Init` the free queue and the occupied list hold each
allocated buffer once; and as long as there was no forced stop and codec and client return only
what they have, no buffer is free while one of them has it. -/
theorem conserved_and_exclusive :
    (∀ as s, lts.MTr (initial pool) as s → s.Conserved pool) ∧
      ∀ as s, (lts.guarded fun s a => s.InContract a ∧ a.isForced = false).MTr (initial pool) as s →
        s.Exclusive := by
  refine ⟨fun as s h => ?_, fun as s h => ?_⟩
  · exact (LTS.inv_of_mTr sound_step h sound_initial).conserved
  · obtain ⟨hs, hh⟩ := LTS.inv_of_mTr held_step h ⟨@sound_initial pool, held_initial⟩
    exact exclusive_of_held hs hh

instance : Decidable (s.InContract a) :=
  match a with
  | .returnBuffer codecBuffer =>
    inferInstanceAs (Decidable (∃ b ∈ s.codec, b.data = codecBuffer.data))
  | .onBufferReturnFromClient bs => inferInstanceAs (Decidable (bs.Subperm (s.client.map (·.1))))
  | .getBuffer | .endGetBuffer _ | .start | .stop _ => .isTrue trivial

def sampleBuffer (fd : Int32) (size : UInt32) : BufferDescriptor where
  data := 4096 * fd.toUInt32.toUInt64
  fd
  size
  capacity := 4096
  timestamp := 0
  flag := 0

def samplePool : OutputBuffers where
  buffers := [sampleBuffer 3 0, sampleBuffer 4 0]
  fd_nodup := by decide
  data_nodup := by decide

/-- One buffer goes by way of the client, the other comes back empty. -/
def roundTripRun : List Action :=
  [.getBuffer, .endGetBuffer true, .getBuffer, .endGetBuffer true, .returnBuffer (sampleBuffer 3 100),
    .returnBuffer (sampleBuffer 4 0), .stop false,
    .onBufferReturnFromClient [TrackEncoder.bnBuffer (sampleBuffer 3 0) (sampleBuffer 3 100)]]

theorem exclusive_round_trip :
    (LTS.run step (initial samplePool) roundTripRun).map
        (fun s => s.encoder.outputFreeBufferQueue) = some [sampleBuffer 4 0, sampleBuffer 3 0] ∧
      ∃ s, s.Conserved samplePool ∧ s.Exclusive ∧
        (lts.guarded fun s a => s.InContract a ∧ a.isForced = false).MTr (initial samplePool)
          roundTripRun s := by
  have hrun : (LTS.run step (initial samplePool) roundTripRun).map
      (fun s => s.encoder.outputFreeBufferQueue) = some [sampleBuffer 4 0, sampleBuffer 3 0] := by
    decide
  obtain ⟨s, hs, -⟩ := Option.map_eq_some_iff.mp hrun
  have hguard := LTS.mTr_guarded_iff.mpr ⟨hs, (by decide : LTS.Meets step
    (fun s a => s.InContract a ∧ a.isForced = false) (initial samplePool) roundTripRun)⟩
  obtain ⟨hconserved, hexclusive⟩ := @conserved_and_exclusive samplePool
  exact ⟨hrun, s, hconserved _ s (LTS.mTr_ofStep_iff.mpr hs), hexclusive _ s hguard, hguard⟩

/-- A forced stop frees a buffer that the codec has. -/
theorem forced_stop_frees_held :
    ¬ ∀ (pool : OutputBuffers) (as : List Action) (s : EncoderFlow),
      (lts.guarded InContract).MTr (initial pool) as s → s.Conserved pool ∧ s.Exclusive := by
  intro hall
  have hrun : (LTS.run step (initial samplePool)
      [.getBuffer, .endGetBuffer true, .stop true]).map
        (fun s => (s.encoder.outputFreeBufferQueue, s.codec)) =
          some ([sampleBuffer 4 0, sampleBuffer 3 0], [sampleBuffer 3 0]) := by decide
  obtain ⟨s, hs, hend⟩ := Option.map_eq_some_iff.mp hrun
  obtain ⟨hfree, hcodec⟩ := Prod.mk.inj hend
  have hguard := LTS.mTr_guarded_iff.mpr ⟨hs, (by decide : LTS.Meets step InContract
    (initial samplePool) [.getBuffer, .endGetBuffer true, .stop true])⟩
  have hnot := (hall samplePool _ s hguard).2 (sampleBuffer 3 0) (by simp [hfree])
  exact hnot.1 (by simp [hcodec])

end EncoderFlow

end QmmfSdk.Pipeline
