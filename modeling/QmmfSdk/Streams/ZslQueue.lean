import QmmfSdk.Library.Transition
import QmmfSdk.Library.Keyed

/-! `ZslPort`: the queue of the latest frames, in which a buffer and its capture result meet, and the
one frame that is picked for reprocessing. -/
namespace QmmfSdk.Streams

open Library

/-- The fields that the port reads, and those that it hands on. -/
structure StreamBuffer where
  timestamp : Int := 0
  handle : Nat := 0
  fd : Int := 0
  streamId : Int := 0
  frameNumber : UInt32 := 0
  deriving DecidableEq, Repr

/-- The tags of a capture result that the port looks up; it keeps the others. -/
inductive ResultTag where
  | sensorTimestamp (timestamp : Int)
  | aeState (states : List UInt8)
  | other (tag : UInt32) (data : List UInt8)
  deriving DecidableEq, Repr

/-- `CameraMetadata`: a lookup finds the first entry of a tag. -/
abbrev ResultMetadata := List ResultTag

namespace ResultMetadata

def sensorTimestamp (m : ResultMetadata) : Option Int :=
  m.findSome? fun
    | .sensorTimestamp t => some t
    | _ => none

def aeState (m : ResultMetadata) : List UInt8 :=
  (m.findSome? fun
    | .aeState states => some states
    | _ => none).getD []

end ResultMetadata

/-- `ANDROID_CONTROL_AE_STATE_CONVERGED` and `ANDROID_CONTROL_AE_STATE_LOCKED`. -/
def aeConverged : List UInt8 := [2, 3]

structure ZslEntry where
  buffer : StreamBuffer := {}
  result : ResultMetadata := []
  timestamp : Int := 0
  deriving DecidableEq, Repr

namespace ZslEntry

/-- The buffer of the entry has arrived. -/
def matched (e : ZslEntry) : Bool := e.timestamp == e.buffer.timestamp

/-- An entry has a time of its own, and the buffer of that time or none. -/
def Sound (e : ZslEntry) : Prop :=
  0 < e.timestamp ∧ (e.buffer.timestamp = e.timestamp ∨ e.buffer.timestamp ≤ 0)

/-- A frame with its result, taken with a settled exposure. -/
def good (e : ZslEntry) : Bool :=
  e.matched && !e.result.isEmpty && (e.result.aeState.head?.any (· ∈ aeConverged))

end ZslEntry

inductive ZslStatus where
  | noError
  | noInit
  | busy
  | nameNotFound
  deriving DecidableEq, Repr

structure ZslPort where
  cameraStreamId : Int
  zslQueueDepth : UInt32
  zslRunning : Bool := true
  zslQueue : List ZslEntry := []
  zslInputBuffer : ZslEntry := { timestamp := -1 }

namespace ZslPort

/-- The loop of both callbacks: the first entry of this time is changed, or a new one is put at the
end. -/
def place (timestamp : Int) (change : ZslEntry → ZslEntry) (newEntry : ZslEntry) :
    List ZslEntry → List ZslEntry
  | [] => [newEntry]
  | e :: es =>
    if e.timestamp = timestamp then change e :: es else e :: place timestamp change newEntry es

/-- The oldest entry goes when there is one too many; `entry` is what the callback holds else. -/
def evict (depth : UInt32) (entry : ZslEntry) : List ZslEntry → ZslEntry × List ZslEntry
  | [] => (entry, [])
  | e :: es => if (depth + 1).toNat ≤ (e :: es).length then (e, es) else (entry, e :: es)

/-- With the buffers that it gives to `ReturnStreamBuffer`. -/
def pauseAndFlushZSLQueue (p : ZslPort) : ZslPort × List StreamBuffer :=
  ({ p with zslRunning := false, zslQueue := [] },
    (p.zslQueue.filter ZslEntry.matched).map ZslEntry.buffer)

def resumeZSL (p : ZslPort) : ZslPort := { p with zslRunning := true }

/-- The search goes from the newest entry to the oldest. -/
def pickZSLBuffer (p : ZslPort) : ZslStatus × ZslPort :=
  if p.zslQueue.isEmpty then (.noInit, p)
  else if 0 ≤ p.zslInputBuffer.timestamp then (.busy, p)
  else
    match p.zslQueue.reverse.find? ZslEntry.good with
    | some e =>
      (.noError,
        { p with
          zslInputBuffer := e
          zslQueue := (p.zslQueue.reverse.eraseP ZslEntry.good).reverse })
    | none => (.nameNotFound, p)

/-- The end of both callbacks. -/
def handBack (e : ZslEntry) : List StreamBuffer := if e.matched then [e.buffer] else []

def handleZSLCaptureResult (p : ZslPort) (metadata : ResultMetadata) :
    ZslPort × List StreamBuffer :=
  if 0 ≤ p.cameraStreamId then
    match metadata.sensorTimestamp with
    | none => (p, [])
    | some timestamp =>
      let entry : ZslEntry := { timestamp := -1 }
      if p.zslRunning then
        let queue := place timestamp (fun e => { e with result := e.result ++ metadata })
          { result := metadata, timestamp := timestamp } p.zslQueue
        let (entry, queue) := evict p.zslQueueDepth entry queue
        ({ p with zslQueue := queue }, handBack entry)
      else (p, handBack entry)
  else (p, [])

/-- `junk` is what the local entry of the callback holds before it is written: it has no
initializer here, as it has in `HandleZSLCaptureResult`. -/
def zslCaptureCallback (p : ZslPort) (buffer junk : StreamBuffer) : ZslPort × List StreamBuffer :=
  let entry : ZslEntry := { buffer := junk, timestamp := -1 }
  if p.zslRunning then
    let queue := place buffer.timestamp (fun e => { e with buffer := buffer })
      { buffer := buffer, timestamp := buffer.timestamp } p.zslQueue
    let (entry, queue) := evict p.zslQueueDepth entry queue
    ({ p with zslQueue := queue }, handBack entry)
  else (p, handBack { buffer := buffer, timestamp := buffer.timestamp })

/-- `GetZSLInputBuffer` gives the device the same buffer. -/
def returnZSLInputBuffer (p : ZslPort) (buffer : StreamBuffer) : ZslPort × List StreamBuffer :=
  if buffer.handle = p.zslInputBuffer.buffer.handle then
    ({ p with zslInputBuffer := { p.zslInputBuffer with timestamp := -1 } },
      [p.zslInputBuffer.buffer])
  else (p, [])

/-- What is picked and not yet returned. -/
def inputSlot (p : ZslPort) : List StreamBuffer :=
  if 0 ≤ p.zslInputBuffer.timestamp then [p.zslInputBuffer.buffer] else []

def buffers (p : ZslPort) : List StreamBuffer := p.zslQueue.map ZslEntry.buffer

end ZslPort

/-- The port, and what went over the interface to the camera. -/
structure ZslFlow where
  port : ZslPort
  received : List StreamBuffer := []
  returned : List StreamBuffer := []

namespace ZslFlow

/-- Each is one critical section of `zsl_queue_lock_`, or touches the picked frame only: what a
callback does after it has left the section is to give back its own local entry. -/
inductive Action where
  | capture (buffer junk : StreamBuffer)
  | result (metadata : ResultMetadata)
  | pick
  | returnInput (buffer : StreamBuffer)
  | pauseAndFlush
  | resume
  deriving DecidableEq, Repr

/-- What the camera is promised to do: the times of its buffers are positive and no two are equal,
the times of its results are positive, and it returns the input buffer that it was given, once. -/
def Allowed (s : ZslFlow) : Action → Prop
  | .capture buffer _ => 0 < buffer.timestamp ∧ ∀ b ∈ s.received, b.timestamp ≠ buffer.timestamp
  | .result metadata => ∀ t ∈ metadata.sensorTimestamp, 0 < t
  | .returnInput buffer => s.port.inputSlot = [buffer]
  | .pick | .pauseAndFlush | .resume => True

instance (s : ZslFlow) (a : Action) : Decidable (s.Allowed a) := by
  cases a <;> unfold Allowed <;> infer_instance

def hand (s : ZslFlow) (r : ZslPort × List StreamBuffer) : ZslFlow :=
  { s with port := r.1, returned := s.returned ++ r.2 }

def next (s : ZslFlow) : Action → ZslFlow
  | .capture buffer junk =>
    { s with received := s.received ++ [buffer] }.hand (s.port.zslCaptureCallback buffer junk)
  | .result metadata => s.hand (s.port.handleZSLCaptureResult metadata)
  | .pick => { s with port := s.port.pickZSLBuffer.2 }
  | .returnInput buffer => s.hand (s.port.returnZSLInputBuffer buffer)
  | .pauseAndFlush => s.hand s.port.pauseAndFlushZSLQueue
  | .resume => { s with port := s.port.resumeZSL }

def step (s : ZslFlow) (a : Action) : Option ZslFlow :=
  if s.Allowed a then some (s.next a) else none

def lts : LTS ZslFlow Action := .ofStep step

/-- After `SetUpZSL`. -/
def init (cameraStreamId : Int) (depth : UInt32) : ZslFlow :=
  { port := { cameraStreamId := cameraStreamId, zslQueueDepth := depth } }

end ZslFlow

namespace ZslPort

variable {p : ZslPort} {e entry : ZslEntry} {queue : List ZslEntry} {t : Int} {depth : UInt32}
  {b buffer junk : StreamBuffer} {metadata : ResultMetadata}

/-- A result meets its entry or waits for its buffer; it brings no buffer. -/
theorem count_place_result (t : Int) (metadata : ResultMetadata) (queue : List ZslEntry)
    (hb : 0 < b.timestamp) :
    ((place t (fun e => { e with result := e.result ++ metadata })
      { result := metadata, timestamp := t } queue).map ZslEntry.buffer).count b =
      (queue.map ZslEntry.buffer).count b := by
  induction queue with
  | nil =>
    have hne : ({} : StreamBuffer) ≠ b := by
      rintro rfl
      exact absurd hb (by decide)
    simp [place, hne]
  | cons e es ih =>
    rw [place]
    split
    · rfl
    · rw [List.map_cons, List.map_cons, List.count_cons, List.count_cons, ih]

/-- A buffer takes a place of its own, unless another one is in it. -/
theorem count_place_capture (hb : 0 < b.timestamp)
    (hfree : ∀ e ∈ queue, e.timestamp = buffer.timestamp → e.buffer.timestamp ≤ 0) :
    ((place buffer.timestamp (fun e => { e with buffer := buffer })
      { buffer := buffer, timestamp := buffer.timestamp } queue).map ZslEntry.buffer).count b =
      (queue.map ZslEntry.buffer).count b + [buffer].count b := by
  induction queue with
  | nil => simp [place]
  | cons e es ih =>
    rw [place]
    split
    next htime =>
      have hne : e.buffer ≠ b := by
        rintro rfl
        exact absurd hb (Int.not_lt.mpr (hfree e (by simp) htime))
      rw [List.map_cons, List.map_cons, List.count_cons, List.count_cons, List.count_singleton]
      simp [hne]
    next =>
      rw [List.map_cons, List.map_cons, List.count_cons, List.count_cons,
        ih fun e he => hfree e (by simp [he])]
      omega

theorem length_place {change : ZslEntry → ZslEntry} :
    (place t change entry queue).length ≤ queue.length + 1 := by
  induction queue with
  | nil => simp [place]
  | cons e es ih =>
    rw [place]
    split
    · simp
    · simpa using ih

theorem forall_mem_place {P : ZslEntry → Prop} {change : ZslEntry → ZslEntry}
    (hqueue : ∀ e ∈ queue, P e) (hchange : ∀ e, e.timestamp = t → P e → P (change e))
    (hentry : P entry) : ∀ e ∈ place t change entry queue, P e := by
  induction queue with
  | nil => simpa [place] using hentry
  | cons e es ih =>
    rw [place]
    split
    next htime =>
      rw [List.forall_mem_cons] at hqueue ⊢
      exact ⟨hchange e htime hqueue.1, hqueue.2⟩
    next =>
      rw [List.forall_mem_cons] at hqueue ⊢
      exact ⟨hqueue.1, ih hqueue.2⟩

/-- What an eviction does: nothing, or the oldest entry is in the hands of the callback. -/
theorem evict_cases (depth : UInt32) (entry : ZslEntry) (queue : List ZslEntry) :
    (evict depth entry queue = (entry, queue) ∧
      (queue = [] ∨ queue.length ≤ depth.toNat)) ∨
    ∃ e es, queue = e :: es ∧ evict depth entry queue = (e, es) := by
  cases queue with
  | nil => exact .inl ⟨rfl, .inl rfl⟩
  | cons e es =>
    by_cases hfull : (depth + 1).toNat ≤ (e :: es).length
    · exact .inr ⟨e, es, rfl, if_pos hfull⟩
    · refine .inl ⟨if_neg hfull, .inr ?_⟩
      rw [UInt32.toNat_add] at hfull
      have hdepth := depth.toNat_lt
      have hone : (1 : UInt32).toNat = 1 := rfl
      omega

theorem length_evict (h : queue.length ≤ depth.toNat + 1) :
    (evict depth entry queue).2.length ≤ depth.toNat := by
  obtain ⟨heq, hnil | hle⟩ | ⟨e, es, rfl, heq⟩ := evict_cases depth entry queue
  · rw [heq, hnil]
    exact Nat.zero_le _
  · rw [heq]
    exact hle
  · rw [heq]
    simpa using h

/-- What the callback holds goes back as soon as it is the frame's own buffer. -/
theorem count_handBack (he : e.Sound) (hb : 0 < b.timestamp) :
    (handBack e).count b = [e.buffer].count b := by
  unfold handBack
  split
  · rfl
  next hmatched =>
    rw [ZslEntry.matched, beq_iff_eq] at hmatched
    have hne : e.buffer ≠ b := by
      rintro rfl
      obtain heq | hle := he.2
      · exact hmatched heq.symm
      · omega
    simp [hne]

/-- Its own empty entry is no frame of the camera's, whatever memory it is made of. -/
theorem count_handBack_local (hb : 0 < b.timestamp) :
    (handBack { buffer := junk, timestamp := -1 }).count b = 0 := by
  unfold handBack
  split
  next hmatched =>
    rw [ZslEntry.matched, beq_iff_eq] at hmatched
    have hne : junk ≠ b := by
      rintro rfl
      simp only at hmatched
      omega
    simp [hne]
  · rfl

theorem count_evict (depth : UInt32) (junk : StreamBuffer) (hqueue : ∀ e ∈ queue, e.Sound) (hb : 0 < b.timestamp) :
    (((evict depth { buffer := junk, timestamp := -1 } queue).2.map ZslEntry.buffer).count b +
      (handBack (evict depth { buffer := junk, timestamp := -1 } queue).1).count b) =
      (queue.map ZslEntry.buffer).count b := by
  obtain ⟨heq, -⟩ | ⟨e, es, rfl, heq⟩ := evict_cases depth
    { buffer := junk, timestamp := -1 } queue
  · rw [heq]
    simp only [count_handBack_local hb, Nat.add_zero]
  · rw [heq]
    simp only [count_handBack (hqueue e (by simp)) hb, List.map_cons, List.count_cons,
      List.count_nil, Nat.zero_add]

theorem mem_of_mem_evict (h : e ∈ (evict depth entry queue).2) : e ∈ queue := by
  obtain ⟨heq, -⟩ | ⟨e', es, rfl, heq⟩ := evict_cases depth entry queue
  · rwa [heq] at h
  · rw [heq] at h
    exact List.mem_cons_of_mem e' h

/-- What a flush gives back is all that the queue has. -/
theorem count_flush (hqueue : ∀ e ∈ queue, e.Sound) (hb : 0 < b.timestamp) :
    ((queue.filter ZslEntry.matched).map ZslEntry.buffer).count b =
      (queue.map ZslEntry.buffer).count b := by
  induction queue with
  | nil => rfl
  | cons e es ih =>
    rw [List.forall_mem_cons] at hqueue
    have hhead := count_handBack hqueue.1 hb
    unfold handBack at hhead
    rw [List.map_cons, List.count_cons, ← ih hqueue.2, List.filter_cons]
    split at hhead
    next hmatched => rw [if_pos hmatched, List.map_cons, List.count_cons]
    next hmatched =>
      rw [if_neg hmatched]
      simp only [List.count_nil, List.count_singleton] at hhead
      omega

/-- The search leaves all as it is, or moves one frame into the free slot. -/
theorem pickZSLBuffer_cases : p.pickZSLBuffer.2 = p ∨
    ∃ l₁ e l₂, p.zslQueue = l₁ ++ e :: l₂ ∧ e.good ∧ p.zslInputBuffer.timestamp < 0 ∧
      p.pickZSLBuffer.2 = { p with zslInputBuffer := e, zslQueue := l₁ ++ l₂ } := by
  unfold pickZSLBuffer
  split
  · exact .inl rfl
  split
  · exact .inl rfl
  next hslot =>
  split
  next e hfind =>
    obtain ⟨l₁, l₂, hqueue, herase⟩ := Keyed.eraseP_of_find? hfind
    refine .inr ⟨l₂.reverse, e, l₁.reverse, ?_, List.find?_some hfind, by omega, ?_⟩
    · rw [← List.reverse_reverse p.zslQueue, hqueue]
      simp
    · rw [herase, List.reverse_append]
  next => exact .inl rfl

end ZslPort

namespace ZslFlow

variable {s t : ZslFlow} {a : Action} {as : List Action} {b : StreamBuffer} {cameraStreamId : Int}
  {depth : UInt32}

/-- The places in which a frame can be, with what went back. -/
def whereabouts (s : ZslFlow) : List StreamBuffer :=
  s.port.buffers ++ (s.port.inputSlot ++ s.returned)

structure Conserved (depth : UInt32) (s : ZslFlow) : Prop where
  sound : ∀ e ∈ s.port.zslQueue, e.Sound
  counted : ∀ b : StreamBuffer, 0 < b.timestamp → s.whereabouts.count b = s.received.count b
  positive : ∀ b ∈ s.received, 0 < b.timestamp
  distinct : s.received.Nodup
  bounded : s.port.zslQueue.length ≤ depth.toNat
  depth_eq : s.port.zslQueueDepth = depth

/-- A new frame finds no other frame in the entry of its time. -/
theorem Conserved.free (hs : s.Conserved depth) (hb : 0 < b.timestamp)
    (hnew : ∀ r ∈ s.received, r.timestamp ≠ b.timestamp) :
    ∀ e ∈ s.port.zslQueue, e.timestamp = b.timestamp → e.buffer.timestamp ≤ 0 := by
  intro e he htime
  obtain heq | hle := (hs.sound e he).2
  · have hpos : 0 < e.buffer.timestamp := by omega
    have hcount := hs.counted e.buffer hpos
    have hmem : e.buffer ∈ s.whereabouts :=
      List.mem_append_left _ (List.mem_map_of_mem he)
    have hreceived : e.buffer ∈ s.received := by
      rw [← List.count_pos_iff] at hmem ⊢
      omega
    exact absurd (heq.trans htime) (hnew _ hreceived)
  · exact hle

theorem conserved_init : (init cameraStreamId depth).Conserved depth where
  sound := by simp [init]
  counted := fun b _ => by simp [init, whereabouts, ZslPort.buffers, ZslPort.inputSlot]
  positive := by simp [init]
  distinct := by simp [init]
  bounded := Nat.zero_le _
  depth_eq := rfl

theorem Conserved.capture {junk : StreamBuffer} (hs : s.Conserved depth) (hb : 0 < b.timestamp)
    (hnew : ∀ r ∈ s.received, r.timestamp ≠ b.timestamp) :
    (s.next (.capture b junk)).Conserved depth := by
  have hdistinct : (s.received ++ [b]).Nodup := by
    refine List.nodup_append.mpr ⟨hs.distinct, by simp, ?_⟩
    rintro r hr x hx rfl
    obtain rfl := List.mem_singleton.mp hx
    exact hnew r hr rfl
  have hpositive : ∀ r ∈ s.received ++ [b], 0 < r.timestamp := by
    intro r hr
    obtain hr | hr := List.mem_append.mp hr
    · exact hs.positive r hr
    · rwa [List.mem_singleton.mp hr]
  cases hrun : s.port.zslRunning with
  | false =>
    have hfresh : ZslPort.handBack { buffer := b, timestamp := b.timestamp } = [b] :=
      if_pos (beq_self_eq_true _)
    simp only [next, ZslPort.zslCaptureCallback, hrun, Bool.false_eq_true, if_false, hand, hfresh]
    refine ⟨hs.sound, fun c hc => ?_, hpositive, hdistinct, hs.bounded, hs.depth_eq⟩
    have hcount := hs.counted c hc
    simp only [whereabouts, List.count_append] at hcount ⊢
    omega
  | true =>
    simp only [next, ZslPort.zslCaptureCallback, hrun, if_true, hand]
    have hplaced : ∀ e ∈ ZslPort.place b.timestamp (fun e => { e with buffer := b })
        { buffer := b, timestamp := b.timestamp } s.port.zslQueue, e.Sound :=
      ZslPort.forall_mem_place hs.sound (fun e htime he => ⟨he.1, .inl htime.symm⟩) ⟨hb, .inl rfl⟩
    refine ⟨fun e he => hplaced e (ZslPort.mem_of_mem_evict he), fun c hc => ?_, hpositive,
      hdistinct, ?_, hs.depth_eq⟩
    · have hcount := hs.counted c hc
      have hplace := ZslPort.count_place_capture hc (hs.free hb hnew)
      have hevict := ZslPort.count_evict s.port.zslQueueDepth junk hplaced hc
      simp only [whereabouts, ZslPort.buffers, ZslPort.inputSlot, List.count_append] at hcount ⊢
      omega
    · rw [← hs.depth_eq]
      refine ZslPort.length_evict (Nat.le_trans ZslPort.length_place (Nat.succ_le_succ ?_))
      rw [hs.depth_eq]
      exact hs.bounded

theorem Conserved.result {metadata : ResultMetadata} (hs : s.Conserved depth)
    (hpos : ∀ t ∈ metadata.sensorTimestamp, 0 < t) : (s.next (.result metadata)).Conserved depth := by
  simp only [next, ZslPort.handleZSLCaptureResult]
  have hsame : s.hand (s.port, []) = s := by simp [hand]
  split
  · split
    next => rwa [hsame]
    next time htime =>
      have htime := hpos time htime
      cases hrun : s.port.zslRunning with
      | false =>
        have hlocal : ZslPort.handBack { timestamp := -1 } = [] := rfl
        simpa only [Bool.false_eq_true, if_false, hlocal, hsame] using hs
      | true =>
        simp only [if_true, hand]
        have hplaced : ∀ e ∈ ZslPort.place time (fun e => { e with result := e.result ++ metadata })
            { result := metadata, timestamp := time } s.port.zslQueue, e.Sound :=
          ZslPort.forall_mem_place hs.sound (fun e _ he => he) ⟨htime, .inr (Int.le_refl 0)⟩
        refine ⟨fun e he => hplaced e (ZslPort.mem_of_mem_evict he), fun c hc => ?_, hs.positive,
          hs.distinct, ?_, hs.depth_eq⟩
        · have hcount := hs.counted c hc
          have hplace := ZslPort.count_place_result time metadata s.port.zslQueue hc
          have hevict := ZslPort.count_evict s.port.zslQueueDepth {} hplaced hc
          simp only [whereabouts, ZslPort.buffers, ZslPort.inputSlot, List.count_append] at hcount ⊢
          omega
        · rw [← hs.depth_eq]
          refine ZslPort.length_evict (Nat.le_trans ZslPort.length_place (Nat.succ_le_succ ?_))
          rw [hs.depth_eq]
          exact hs.bounded
  · rwa [hsame]

theorem Conserved.pick (hs : s.Conserved depth) : (s.next .pick).Conserved depth := by
  obtain heq | ⟨l₁, e, l₂, hqueue, -, hslot, heq⟩ := ZslPort.pickZSLBuffer_cases (p := s.port)
  · simp only [next, heq]
    exact hs
  · simp only [next, heq]
    have hsound : ∀ x ∈ l₁ ++ e :: l₂, x.Sound := hqueue ▸ hs.sound
    have he : 0 ≤ e.timestamp := Int.le_of_lt (hsound e (by simp)).1
    refine ⟨fun x hx => hsound x ?_, fun c hc => ?_, hs.positive, hs.distinct, ?_, hs.depth_eq⟩
    · simp only [List.mem_append, List.mem_cons] at hx ⊢
      exact hx.imp_right .inr
    · have hcount := hs.counted c hc
      simp only [whereabouts, ZslPort.buffers, ZslPort.inputSlot, hqueue, if_pos he,
        if_neg (Int.not_le.mpr hslot), List.map_append, List.map_cons, List.count_append,
        List.count_cons, List.count_nil] at hcount ⊢
      omega
    · have hlength := hs.bounded
      rw [hqueue] at hlength
      simp only [List.length_append, List.length_cons] at hlength ⊢
      omega

theorem Conserved.returnInput (hs : s.Conserved depth) (hslot : s.port.inputSlot = [b]) :
    (s.next (.returnInput b)).Conserved depth := by
  have hbuffer : s.port.zslInputBuffer.buffer = b := by
    unfold ZslPort.inputSlot at hslot
    split at hslot
    · exact List.singleton_inj.mp hslot
    · simp at hslot
  simp only [next, ZslPort.returnZSLInputBuffer, hbuffer, if_true, hand]
  refine ⟨hs.sound, fun c hc => ?_, hs.positive, hs.distinct, hs.bounded, hs.depth_eq⟩
  have hcount := hs.counted c hc
  have hempty : ¬ (0 : Int) ≤ -1 := by decide
  simp only [whereabouts, hslot, List.count_append] at hcount ⊢
  simp only [ZslPort.buffers, ZslPort.inputSlot, if_neg hempty, List.count_nil] at hcount ⊢
  omega

theorem Conserved.pauseAndFlush (hs : s.Conserved depth) :
    (s.next .pauseAndFlush).Conserved depth := by
  simp only [next, ZslPort.pauseAndFlushZSLQueue, hand]
  refine ⟨by simp, fun c hc => ?_, hs.positive, hs.distinct, Nat.zero_le _, hs.depth_eq⟩
  have hcount := hs.counted c hc
  have hflush := ZslPort.count_flush hs.sound hc
  simp only [whereabouts, ZslPort.buffers, ZslPort.inputSlot, List.count_append, List.map_nil,
    List.count_nil] at hcount ⊢
  omega

theorem conserved_step (hs : s.Conserved depth) (h : s.step a = some t) : t.Conserved depth := by
  unfold step at h
  split at h
  next hallowed =>
    obtain rfl := Option.some.inj h
    cases a with
    | capture buffer junk => exact hs.capture hallowed.1 hallowed.2
    | result metadata => exact hs.result hallowed
    | pick => exact hs.pick
    | returnInput buffer => exact hs.returnInput hallowed
    | pauseAndFlush => exact hs.pauseAndFlush
    | resume => exact ⟨hs.sound, hs.counted, hs.positive, hs.distinct, hs.bounded, hs.depth_eq⟩
  next => simp at h

theorem conserved_run (h : lts.MTr (init cameraStreamId depth) as s) : s.Conserved depth :=
  LTS.inv_of_mTr (fun _ _ _ hstep hs => conserved_step hs hstep) h conserved_init

/-- Every frame of the camera's is in one place only, and the queue keeps to its depth. -/
theorem frames_conserved (h : lts.MTr (init cameraStreamId depth) as s) :
    (∀ b ∈ s.received, s.port.buffers.count b + s.port.inputSlot.count b + s.returned.count b = 1) ∧
      s.port.zslQueue.length ≤ depth.toNat := by
  have hs := conserved_run h
  refine ⟨fun b hb => ?_, hs.bounded⟩
  have hcount := hs.counted b (hs.positive b hb)
  rw [hs.distinct.count, if_pos hb] at hcount
  simp only [whereabouts, List.count_append] at hcount
  omega

/-- A result before its frame, a pick, a flush that finds the pick still out, and its return. -/
theorem frames_conserved_run :
    let as : List Action :=
      [.result [.sensorTimestamp 5, .aeState [2]], .capture { timestamp := 5, handle := 1 } {},
        .capture { timestamp := 6, handle := 2 } { timestamp := -1 }, .pick, .pauseAndFlush,
        .capture { timestamp := 7, handle := 3 } {}, .returnInput { timestamp := 5, handle := 1 }]
    ∃ s, lts.MTr (init 0 2) as s ∧ s.received.length = 3 ∧
      (∀ b ∈ s.received,
        s.port.buffers.count b + s.port.inputSlot.count b + s.returned.count b = 1) ∧
      s.port.zslQueue.length ≤ (2 : UInt32).toNat := by
  intro as
  have hrun : lts.MTr (init 0 2) as ((LTS.run step (init 0 2) as).get (by decide)) :=
    LTS.mTr_ofStep_iff.mpr (Option.some_get _).symm
  exact ⟨_, hrun, by decide, frames_conserved hrun⟩

end ZslFlow

end QmmfSdk.Streams
