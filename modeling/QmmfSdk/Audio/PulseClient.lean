import QmmfSdk.Library.Transition

/-! `AudioPulseClient`: its thread takes messages, and copies what the audio server has for the stream
into the buffers that it was sent. -/
namespace QmmfSdk.Audio

open Library

/-- `data` are the bytes that have been copied to the memory of the buffer. -/
structure BufferDescriptor where
  data : List UInt8 := []
  fd : Int32
  size : UInt32 := 0
  capacity : UInt32
  timestamp : UInt64 := 0
  flag : UInt32 := 0
  deriving DecidableEq, Repr

def kFlagEOS : UInt32 := 2

/-- `kLatency`, in microseconds. -/
def kLatency : Int64 := 25000

inductive AudioMessage where
  | stop
  | pause
  | resume
  | buffer (buffers : List BufferDescriptor)
  deriving DecidableEq, Repr

def AudioMessage.sent : AudioMessage → List BufferDescriptor
  | .buffer buffers => buffers
  | .stop | .pause | .resume => []

/-- What the audio server has for the stream, piece by piece. -/
inductive Fragment where
  | data (bytes : List UInt8)
  | hole
  deriving DecidableEq, Repr

def Fragment.bytes : Fragment → List UInt8
  | .data bytes => bytes
  | .hole => []

def bytesOf (fs : List Fragment) : List UInt8 := fs.flatMap Fragment.bytes

/-- Where the thread is: at the head of its loop, copying into the front buffer, returned, or returned
after `NotifyErrorEvent`. -/
inductive Phase where
  | top
  | reading
  | ended
  | failed
  deriving DecidableEq, Repr

/-- `messages` is shared, the fields from `buffers` on are locals of the thread; `bData` are the bytes
copied to the front buffer so far. `stream` is what the server has and was not told to drop, `arrived`
all it ever had during this run of the thread, and `notified` are the buffers given to
`NotifyBufferEvent`. -/
structure PulseClient where
  messages : List AudioMessage := []
  buffers : List BufferDescriptor := []
  phase : Phase := .top
  bLength : Nat := 0
  bData : List UInt8 := []
  firstBufferRead : Bool := true
  stopReceived : Bool := false
  paused : Bool := false
  paData : Option (List UInt8) := none
  paIndex : Nat := 0
  paLength : Nat := 0
  trackingClock : UInt64 := 0
  adjustmentTimestamp : Int64 := 0
  stream : List Fragment := []
  arrived : List Fragment := []
  notified : List BufferDescriptor := []
  deriving DecidableEq, Repr

namespace PulseClient

/-- The steps of other threads (`post`), of the server (`arrive`), and of the thread with what the
library and the clock answer it. -/
inductive Action where
  | post (m : AudioMessage)
  | arrive (f : Fragment)
  | next
  | streamDied
  | peek (peeked dropped : Bool)
  | copy (dropped : Bool)
  | deliver (boottime : Int64)
  deriving DecidableEq, Repr

/-- `Start`, with the property that adjusts timestamps: the messages are flushed and a thread is made.
A fragment that the last thread did not drop is peeked anew. -/
def start (s : PulseClient) (adjust : Int64) : PulseClient where
  stream := s.stream
  arrived := s.stream
  adjustmentTimestamp := adjust - kLatency

def handle (s : PulseClient) : AudioMessage → PulseClient
  | .pause => { s with paused := true }
  | .resume => { s with paused := false }
  | .stop => { s with paused := false, stopReceived := true }
  | .buffer bs => { s with buffers := s.buffers ++ bs }

/-- The front buffer is taken up unless the thread is paused. -/
def look (s : PulseClient) : PulseClient :=
  match s.buffers with
  | [] => s
  | b :: _ =>
    if s.paused then s
    else { s with phase := .reading, bLength := b.capacity.toNat, bData := [] }

/-- The head of the loop; the thread waits while it has no message and no buffer. -/
def next (s : PulseClient) : Option PulseClient :=
  match s.messages with
  | [] => if s.buffers = [] then none else some s.look
  | m :: ms => some ({ s with messages := ms }.handle m).look

/-- One turn of the loop around `pa_stream_peek`: without data the thread waits and peeks again, a hole
is dropped. -/
def peek (s : PulseClient) (peeked dropped : Bool) : PulseClient :=
  if !peeked then { s with phase := .failed }
  else
    match s.stream with
    | [] => { s with paLength := 0 }
    | .hole :: rest => if dropped then { s with stream := rest } else { s with phase := .failed }
    | .data bytes :: _ => { s with paData := some bytes, paIndex := 0, paLength := bytes.length }

/-- The bytes that fit are copied from the fragment to the front buffer. -/
def copyBytes (s : PulseClient) (bytes : List UInt8) : PulseClient :=
  let length := min s.paLength s.bLength
  { s with
    bData := s.bData ++ (bytes.drop s.paIndex).take length
    bLength := s.bLength - length
    buffers := s.buffers.modifyHead fun b => { b with size := b.size + .ofNat length }
    paIndex := s.paIndex + length
    paLength := s.paLength - length }

/-- A fragment that is used up is dropped. -/
def dropUsed (s : PulseClient) (dropped : Bool) : PulseClient :=
  if s.paLength = 0 then
    if dropped then
      { s with paData := none, paLength := 0, paIndex := 0, stream := s.stream.tail }
    else { s with paData := none, paLength := 0, paIndex := 0, phase := .failed }
  else s

/-- The first buffer sets the clock, the others move it on by their own duration. -/
def tick (s : PulseClient) (bytesToUsec : UInt32 → UInt64) (boottime : Int64) (size : UInt32) :
    PulseClient :=
  if s.firstBufferRead then
    { s with
      adjustmentTimestamp := s.adjustmentTimestamp + boottime
      trackingClock := 0
      firstBufferRead := false }
  else { s with trackingClock := s.trackingClock + bytesToUsec size }

/-- The buffer as it is given to `NotifyBufferEvent`. -/
def stamped (s : PulseClient) (b : BufferDescriptor) : BufferDescriptor :=
  { b with
    data := s.bData
    timestamp := s.trackingClock + s.adjustmentTimestamp.toUInt64
    flag := if s.stopReceived then b.flag ||| kFlagEOS else 0 }

def notify (s : PulseClient) (b : BufferDescriptor) (rest : List BufferDescriptor) : PulseClient :=
  { s with
    notified := s.notified ++ [s.stamped b]
    buffers := rest
    bData := []
    phase := if s.stopReceived then .ended else .top }

def step (bytesToUsec : UInt32 → UInt64) (s : PulseClient) : Action → Option PulseClient
  | .post m => some { s with messages := s.messages ++ [m] }
  | .arrive f => some { s with stream := s.stream ++ [f], arrived := s.arrived ++ [f] }
  | .next => if s.phase = .top then s.next else none
  | .streamDied => if s.phase = .reading then some { s with phase := .failed } else none
  | .peek peeked dropped =>
    if s.phase = .reading ∧ 0 < s.bLength ∧ s.paData = none then some (s.peek peeked dropped)
    else none
  | .copy dropped =>
    match s.paData with
    | some bytes =>
      if s.phase = .reading ∧ 0 < s.bLength then some ((s.copyBytes bytes).dropUsed dropped)
      else none
    | none => none
  | .deliver boottime =>
    match s.buffers with
    | b :: rest =>
      if s.phase = .reading ∧ s.bLength = 0 then
        some ((s.tick bytesToUsec boottime b.size).notify b rest)
      else none
    | [] => none

/-! What a step does. -/

variable {s t : PulseClient} {usec : UInt32 → UInt64} {a : Action} {as : List Action}

/-- What stays the same about a buffer while it is filled. -/
def key (b : BufferDescriptor) : Int32 × UInt32 := (b.fd, b.capacity)

/-- The buffers that have been sent and not been given back, in the order of sending. -/
def held (s : PulseClient) : List BufferDescriptor :=
  s.buffers ++ s.messages.flatMap AudioMessage.sent

/-- The buffers that another thread sends. -/
def Action.posted : Action → List BufferDescriptor
  | .post m => m.sent
  | _ => []

/-- The fragments that come during a run. -/
def arrivals (as : List Action) : List Fragment :=
  as.filterMap fun
    | .arrive f => some f
    | _ => none

/-- Nothing has been given back, and the clock stands. -/
structure Kept (s t : PulseClient) : Prop where
  notified : t.notified = s.notified
  firstBufferRead : t.firstBufferRead = s.firstBufferRead
  trackingClock : t.trackingClock = s.trackingClock
  adjustmentTimestamp : t.adjustmentTimestamp = s.adjustmentTimestamp

theorem kept_handle (s : PulseClient) (m : AudioMessage) : Kept s (s.handle m) := by
  cases m <;> exact ⟨rfl, rfl, rfl, rfl⟩

theorem kept_look (s : PulseClient) : Kept s s.look := by
  unfold look
  split
  · exact ⟨rfl, rfl, rfl, rfl⟩
  · split <;> exact ⟨rfl, rfl, rfl, rfl⟩

/-- Taking a buffer up leaves it in its queue. -/
theorem look_frame (s : PulseClient) :
    s.look.buffers = s.buffers ∧ s.look.messages = s.messages ∧ s.look.arrived = s.arrived := by
  unfold look
  split
  · exact ⟨rfl, rfl, rfl⟩
  · split <;> exact ⟨rfl, rfl, rfl⟩

/-- The buffers of a message move to the end of the queue of the thread. -/
theorem handle_frame (s : PulseClient) (m : AudioMessage) :
    (s.handle m).buffers = s.buffers ++ m.sent ∧ (s.handle m).messages = s.messages ∧
      (s.handle m).arrived = s.arrived := by
  cases m <;> simp [handle, AudioMessage.sent]

theorem next_frame (ht : s.next = some t) :
    Kept s t ∧ t.held = s.held ∧ t.arrived = s.arrived := by
  unfold next at ht
  cases hm : s.messages with
  | nil =>
    simp only [hm] at ht
    split_ifs at ht
    obtain rfl := Option.some.inj ht
    obtain ⟨hbuffers, hmessages, harrived⟩ := look_frame s
    exact ⟨kept_look s, by simp [held, hbuffers, hmessages], harrived⟩
  | cons m ms =>
    simp only [hm] at ht
    obtain rfl := Option.some.inj ht
    have hk := kept_handle { s with messages := ms } m
    have hl := kept_look ({ s with messages := ms }.handle m)
    obtain ⟨hbuffers, hmessages, harrived⟩ := look_frame ({ s with messages := ms }.handle m)
    obtain ⟨hb, hms, ha⟩ := handle_frame { s with messages := ms } m
    refine ⟨⟨hl.notified.trans hk.notified, hl.firstBufferRead.trans hk.firstBufferRead,
      hl.trackingClock.trans hk.trackingClock,
      hl.adjustmentTimestamp.trans hk.adjustmentTimestamp⟩, ?_, harrived.trans ha⟩
    simp [held, hbuffers, hmessages, hb, hms, hm]

theorem peek_frame (s : PulseClient) (peeked dropped : Bool) :
    Kept s (s.peek peeked dropped) ∧ (s.peek peeked dropped).held = s.held ∧
      (s.peek peeked dropped).arrived = s.arrived := by
  unfold peek
  split
  · exact ⟨⟨rfl, rfl, rfl, rfl⟩, rfl, rfl⟩
  · split
    · exact ⟨⟨rfl, rfl, rfl, rfl⟩, rfl, rfl⟩
    · split <;> exact ⟨⟨rfl, rfl, rfl, rfl⟩, rfl, rfl⟩
    · exact ⟨⟨rfl, rfl, rfl, rfl⟩, rfl, rfl⟩

theorem dropUsed_frame (s : PulseClient) (dropped : Bool) :
    Kept s (s.dropUsed dropped) ∧ (s.dropUsed dropped).held = s.held ∧
      (s.dropUsed dropped).arrived = s.arrived := by
  unfold dropUsed
  split
  · split <;> exact ⟨⟨rfl, rfl, rfl, rfl⟩, rfl, rfl⟩
  · exact ⟨⟨rfl, rfl, rfl, rfl⟩, rfl, rfl⟩

/-- Copying changes the size of the front buffer only. -/
theorem map_key_copyBytes (s : PulseClient) (bytes : List UInt8) :
    (s.copyBytes bytes).held.map key = s.held.map key := by
  unfold held copyBytes
  cases s.buffers <;> simp [key]

/-- The front buffer is given back. -/
theorem deliver_frame (s : PulseClient) (usec : UInt32 → UInt64) (boottime : Int64)
    (b : BufferDescriptor) (rest : List BufferDescriptor) :
    ((s.tick usec boottime b.size).notify b rest).notified =
        s.notified ++ [(s.tick usec boottime b.size).stamped b] ∧
      ((s.tick usec boottime b.size).notify b rest).held =
        rest ++ s.messages.flatMap AudioMessage.sent := by
  unfold tick
  split
  · exact ⟨rfl, rfl⟩
  · exact ⟨rfl, rfl⟩

/-- A step gives back the front buffer and moves the clock on, or it gives nothing back and adds what
was sent to the buffers that are held. -/
theorem step_cases (ht : s.step usec a = some t) : t.arrived = s.arrived ++ arrivals [a] ∧
    ((Kept s t ∧ t.held.map key = (s.held ++ a.posted).map key) ∨
    ∃ boottime b rest, a = .deliver boottime ∧ s.phase = .reading ∧ s.bLength = 0 ∧
      s.buffers = b :: rest ∧ t = (s.tick usec boottime b.size).notify b rest) := by
  cases a with
  | post m =>
    obtain rfl := Option.some.inj ht
    exact ⟨by simp [arrivals], .inl ⟨⟨rfl, rfl, rfl, rfl⟩, by simp [held, Action.posted]⟩⟩
  | arrive f =>
    obtain rfl := Option.some.inj ht
    exact ⟨by simp [arrivals], .inl ⟨⟨rfl, rfl, rfl, rfl⟩, by simp [held, Action.posted]⟩⟩
  | next =>
    simp only [step] at ht
    split_ifs at ht
    obtain ⟨hk, hheld, harrived⟩ := next_frame ht
    exact ⟨by simp [arrivals, harrived], .inl ⟨hk, by simp [hheld, Action.posted]⟩⟩
  | streamDied =>
    simp only [step] at ht
    split_ifs at ht
    obtain rfl := Option.some.inj ht
    exact ⟨by simp [arrivals], .inl ⟨⟨rfl, rfl, rfl, rfl⟩, by simp [held, Action.posted]⟩⟩
  | peek peeked dropped =>
    simp only [step] at ht
    split_ifs at ht
    obtain rfl := Option.some.inj ht
    obtain ⟨hk, hheld, harrived⟩ := peek_frame s peeked dropped
    exact ⟨by simp [arrivals, harrived], .inl ⟨hk, by simp [hheld, Action.posted]⟩⟩
  | copy dropped =>
    simp only [step] at ht
    split at ht
    next bytes hd =>
      split_ifs at ht
      obtain rfl := Option.some.inj ht
      obtain ⟨hk, hheld, harrived⟩ := dropUsed_frame (s.copyBytes bytes) dropped
      have harrived : ((s.copyBytes bytes).dropUsed dropped).arrived = s.arrived := harrived
      refine ⟨by simp [arrivals, harrived], .inl ⟨⟨hk.notified, hk.firstBufferRead,
        hk.trackingClock, hk.adjustmentTimestamp⟩, ?_⟩⟩
      rw [hheld, map_key_copyBytes]
      simp [Action.posted]
    next => cases ht
  | deliver boottime =>
    simp only [step] at ht
    split at ht
    next b rest hb =>
      split_ifs at ht with hp
      obtain rfl := Option.some.inj ht
      have harrived : ((s.tick usec boottime b.size).notify b rest).arrived = s.arrived := by
        unfold tick
        split <;> rfl
      exact ⟨by simp [arrivals, harrived], .inr ⟨boottime, b, rest, rfl, hp.1, hp.2, hb, rfl⟩⟩
    next => cases ht

theorem arrived_run (hrun : LTS.run (step usec) s as = some t) :
    t.arrived = s.arrived ++ arrivals as := by
  induction as generalizing s with
  | nil =>
    obtain rfl := Option.some.inj hrun
    simp [arrivals]
  | cons a as ih =>
    obtain ⟨u, hu, hrest⟩ := Option.bind_eq_some_iff.mp hrun
    rw [ih hrest, (step_cases hu).1, List.append_assoc]
    simp only [arrivals]
    rw [← List.filterMap_append, List.singleton_append]

/-- The buffers come back in the order in which they were sent. -/
theorem buffers_in_order (hrun : LTS.run (step usec) s as = some t) :
    (t.notified ++ t.held).map key = (s.notified ++ s.held ++ as.flatMap Action.posted).map key := by
  induction as generalizing s with
  | nil =>
    obtain rfl := Option.some.inj hrun
    simp
  | cons a as ih =>
    obtain ⟨u, hu, hrest⟩ := Option.bind_eq_some_iff.mp hrun
    rw [ih hrest]
    obtain ⟨hk, hheld⟩ | ⟨boottime, b, rest, rfl, -, -, hb, rfl⟩ := (step_cases hu).2
    · simp [hk.notified, hheld]
    · have hnotified : ((s.tick usec boottime b.size).notify b rest).notified.map key =
          s.notified.map key ++ [key b] := by
        unfold tick
        split <;> simp [notify, stamped, key]
      have hrest : ((s.tick usec boottime b.size).notify b rest).held =
          rest ++ s.messages.flatMap AudioMessage.sent := by
        unfold tick
        split <;> rfl
      rw [List.map_append, List.map_append, hnotified, hrest]
      simp [held, hb, Action.posted]

end PulseClient

end QmmfSdk.Audio
