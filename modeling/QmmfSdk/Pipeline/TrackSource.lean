import QmmfSdk.Binder.Types
import QmmfSdk.Pipeline.Producer
import QmmfSdk.Recorder.Types

/-! `TrackSource`: frames from the producer go to linked consumers, to the encoder or to the
client, and a count kept by handle decides when the producer gets a frame back. -/
namespace QmmfSdk.Pipeline

open Library Binder Recorder

structure StreamBuffer where
  handle : IBufferHandle
  fd : Int32
  metafd : Int32 := -1
  size : UInt32 := 0
  frameLength : UInt32 := 0
  flags : UInt32 := 0
  timestamp : Int64 := 0
  /-- Width and height of the first plane. -/
  width : UInt32 := 0
  height : UInt32 := 0
  pendingEncodesPerFrame : UInt32 := 0
  encodesPerFrameCount : UInt32 := 0
  needsReturn : Bool := false
  deriving DecidableEq, Repr

/-- What `GetBuffer` writes into the descriptor of the encoder. -/
structure BufferDescriptor where
  data : UInt64
  fd : Int32
  size : UInt32
  capacity : UInt32
  timestamp : UInt64
  flag : UInt32
  deriving DecidableEq, Repr

def StreamBuffer.toBnBuffer (b : StreamBuffer) : BnBuffer where
  ionFd := b.fd
  ionMetaFd := b.metafd
  size := b.size
  timestamp := b.timestamp.toUInt64
  width := b.width
  height := b.height
  bufferId := b.fd.toUInt32
  flag := 0x10
  capacity := b.size

/-- What stays fixed from `Init` to `DeInit`. `GetAllocBufferHandle` gives the native handle that
an `IBufferHandle` wraps, a different one for each. -/
structure TrackConfig where
  format : VideoFormat
  timeLapseInterval : Option UInt32 := none
  rescaler : Bool := false
  getAllocBufferHandle : IBufferHandle → UInt64 := id
  getAllocBufferHandle_injective : Function.Injective getAllocBufferHandle := by
    exact Function.injective_id

structure TrackSource where
  bufferMap : OrdMap IBufferHandle UInt32 := ∅
  framesReceived : List StreamBuffer := []
  framesBeingEncoded : List StreamBuffer := []
  buffersMap : OrdMap UInt64 IBufferHandle := ∅
  bufferList : OrdMap UInt32 StreamBuffer := ∅
  numConsumers : UInt32 := 0
  isStop : Bool := false
  isPaused : Bool := false
  eosAcked : Bool := false
  frameRepeatTsPrev : UInt64 := 0
  frameRepeatTsCurr : UInt64 := 0
  timeStamp : UInt64 := 0

/-- What becomes of a frame at the end of `OnFrameAvailable`. -/
inductive Destination where
  | producer
  | client
  | encoder
  deriving DecidableEq, Repr

namespace TrackSource

variable (cfg : TrackConfig)

/-- With its last consumer gone a rescaled track gives a buffer back at the next release, whatever
its count is. -/
def cutsShort (t : TrackSource) (h : IBufferHandle) : Bool :=
  cfg.rescaler && t.numConsumers == 0 && (t.bufferMap[h]?).any (· != 1)

/-- `ReturnBufferToProducer`: the counts after it, and whether it calls `NotifyBufferReturned` of
the producer. -/
def returnBufferToProducer (t : TrackSource) (h : IBufferHandle) :
    OrdMap IBufferHandle UInt32 × Bool :=
  match t.bufferMap[h]? with
  | none => (t.bufferMap, false)
  | some n =>
    if n = 1 then (t.bufferMap.erase h, true)
    else if t.numConsumers = 0 && cfg.rescaler then (t.bufferMap.erase h, true)
    else (t.bufferMap.insert h (n - 1), false)

/-- The first locked block of `OnFrameAvailable`. -/
def count (t : TrackSource) (h : IBufferHandle) : TrackSource :=
  { t with bufferMap := t.bufferMap.insertIfNew h 1 }

def isDrained (t : TrackSource) : Bool := t.eosAcked && t.isStop && cfg.format.isEncoded

/-- The frame that goes on; `encodes` is what `CalculateEncodesPerFrame` returns. -/
def prepare (encodes : UInt32) (b : StreamBuffer) : StreamBuffer :=
  if cfg.timeLapseInterval.isSome then b
  else { b with needsReturn := false, pendingEncodesPerFrame := encodes,
                encodesPerFrameCount := encodes }

/-- One more holder; `at` throws for a handle that is not in the map. -/
def countLinked (t : TrackSource) (h : IBufferHandle) : Option TrackSource :=
  (t.bufferMap[h]?).map fun n => { t with bufferMap := t.bufferMap.insert h (n + 1) }

def destination (t : TrackSource) : Destination :=
  if t.isPaused then .producer
  else if cfg.format.isEncoded then .encoder
  else if t.isStop then .producer
  else .client

/-- The descriptor, the frame as it is queued for `ReturnBuffer`, and the time stamps. Each frame
is encoded so many times; the last time it leaves the queue. -/
def getBuffer (t : TrackSource) : Option (BufferDescriptor × TrackSource) :=
  match t.framesReceived with
  | [] => none
  | b :: rest =>
    let data := cfg.getAllocBufferHandle b.handle
    let d : BufferDescriptor :=
      { data, fd := b.fd, size := b.size, capacity := b.frameLength,
        timestamp := b.timestamp.toUInt64, flag := b.flags }
    let t := { t with buffersMap := t.buffersMap.insert data b.handle }
    match cfg.timeLapseInterval with
    | some interval =>
      let timeStamp := t.timeStamp + (interval * 1000000).toUInt64
      some ({ d with timestamp := timeStamp },
        { t with framesBeingEncoded := t.framesBeingEncoded ++ [{ b with needsReturn := true }],
                 framesReceived := rest, timeStamp })
    | none =>
      -- the division traps
      if b.encodesPerFrameCount = 0 then none
      else
        let tsFactor := (b.timestamp.toUInt64 - t.frameRepeatTsPrev) /
          b.encodesPerFrameCount.toUInt64 - 10000000
        let timestamp := if b.encodesPerFrameCount ≠ b.pendingEncodesPerFrame then
          t.frameRepeatTsCurr + tsFactor else b.timestamp.toUInt64
        let t := { t with frameRepeatTsCurr := timestamp }
        let b : StreamBuffer := { b with pendingEncodesPerFrame := b.pendingEncodesPerFrame - 1 }
        let d := { d with timestamp }
        if b.pendingEncodesPerFrame = 0 then
          some (d, { t with
            framesBeingEncoded := t.framesBeingEncoded ++ [{ b with needsReturn := true }],
            framesReceived := rest, frameRepeatTsPrev := b.timestamp.toUInt64 })
        else
          some (d, { t with framesBeingEncoded := t.framesBeingEncoded ++ [b],
                            framesReceived := b :: rest })

/-- The frame that `ReturnBuffer` finds for a descriptor. -/
def encodedFrame (t : TrackSource) (d : BufferDescriptor) : Option StreamBuffer :=
  (t.buffersMap[d.data]?).bind fun h => t.framesBeingEncoded.find? (·.handle = h)

def dropEncoded (t : TrackSource) (d : BufferDescriptor) (b : StreamBuffer) : TrackSource :=
  { t with framesBeingEncoded := t.framesBeingEncoded.eraseP (·.handle = b.handle),
           buffersMap := t.buffersMap.erase d.data }

end TrackSource

/-- Where the thread in `OnFrameAvailable` is: the frame is counted, prepared for its holders, or
with the linked consumers. -/
inductive Arrival where
  | counted (b : StreamBuffer)
  | prepared (b : StreamBuffer)
  | linked (b : StreamBuffer)

def Arrival.buffer : Arrival → StreamBuffer
  | .counted b | .prepared b | .linked b => b

/-- A track source with its callers: the frame that arrives, the linked consumers, what encoder
and client hold, and what was received from the producer and given back to it. -/
structure TrackFlow where
  track : TrackSource := {}
  flow : Flow := {}
  arriving : Option Arrival := none
  encoder : List BufferDescriptor := []
  client : List (BnBuffer × IBufferHandle) := []
  received : List IBufferHandle := []
  givenBack : List IBufferHandle := []

namespace TrackFlow

inductive Action where
  | onFrameAvailable (b : StreamBuffer)
  | prepare (encodes : UInt32)
  | link
  | linkedFrame
  | endNotify
  | pass
  | getBuffer
  | returnBuffer (d : BufferDescriptor)
  | returnTrackBuffer (bs : List BnBuffer)
  | linkedReturn (c : ConsumerKey) (h : IBufferHandle)
  | notifyBufferReturned (h : IBufferHandle)
  | addConsumer (c : ConsumerKey)
  | removeConsumer (c : ConsumerKey)
  | setState (isStop isPaused eosAcked : Bool)

variable (cfg : TrackConfig)

/-- A holder releases a buffer. -/
def release (s : TrackFlow) (h : IBufferHandle) : TrackFlow :=
  let back := s.track.returnBufferToProducer cfg h
  { s with track := { s.track with bufferMap := back.1 }
           givenBack := if back.2 then s.givenBack ++ [h] else s.givenBack }

def onFrameAvailable (s : TrackFlow) (b : StreamBuffer) : Option TrackFlow :=
  match s.arriving with
  | some _ => none
  | none => some { s with track := s.track.count b.handle, arriving := some (.counted b),
                          received := s.received ++ [b.handle] }

/-- The track may be stopped and drained by the time the frame is counted. -/
def prepare (s : TrackFlow) (encodes : UInt32) : Option TrackFlow :=
  match s.arriving with
  | some (.counted b) =>
    if s.track.isDrained cfg then some (release cfg { s with arriving := none } b.handle)
    else some { s with arriving := some (.prepared (TrackSource.prepare cfg encodes b)) }
  | _ => none

/-- The linked consumers hold the frame together as one. -/
def link (s : TrackFlow) : Option TrackFlow :=
  match s.arriving with
  | some (.prepared b) =>
    if s.track.numConsumers = 0 then some { s with arriving := some (.linked b) }
    else
      (s.track.countLinked b.handle).bind fun t => (s.flow.notifyBuffer b.handle).map fun flow =>
        let s' := { s with track := t, flow, arriving := some (.linked b) }
        -- a producer without consumers calls back at once
        if s.flow.producer.bufferConsumers.isEmpty then release cfg s' b.handle else s'
  | _ => none

def onFlow (s : TrackFlow) (f : Option Flow) : Option TrackFlow := f.map fun flow => { s with flow }

def toClient (s : TrackFlow) (b : StreamBuffer) : TrackFlow :=
  { s with track := { s.track with bufferList := s.track.bufferList.insertIfNew b.fd.toUInt32 b }
           client := s.client ++ [(b.toBnBuffer, b.handle)] }

def pushFrameToQueue (s : TrackFlow) (b : StreamBuffer) : TrackFlow :=
  { s with track := { s.track with framesReceived := s.track.framesReceived ++ [b] } }

def pass (s : TrackFlow) : Option TrackFlow :=
  match s.arriving, s.flow.notifying with
  | some (.linked b), none =>
    match s.track.destination cfg with
    | .producer => some (release cfg { s with arriving := none } b.handle)
    | .client => some (toClient { s with arriving := none } b)
    | .encoder => some (pushFrameToQueue { s with arriving := none } b)
  | _, _ => none

def getBuffer (s : TrackFlow) : Option TrackFlow :=
  (s.track.getBuffer cfg).map fun (d, t) => { s with track := t, encoder := s.encoder ++ [d] }

/-- `none` is the assertion that the buffer is found. -/
def returnBuffer (s : TrackFlow) (d : BufferDescriptor) : Option TrackFlow :=
  (s.track.encodedFrame d).map fun b =>
    let s := if b.needsReturn then release cfg s b.handle else s
    { s with track := s.track.dropEncoded d b, encoder := s.encoder.erase d }

/-- One turn of the loop in `ReturnTrackBuffer`. -/
def returnOne (s : TrackFlow) (b : BnBuffer) : Option TrackFlow :=
  (s.track.bufferList[b.ionFd.toUInt32]?).map fun sb =>
    let s := release cfg s sb.handle
    { s with track := { s.track with bufferList := s.track.bufferList.erase b.ionFd.toUInt32 }
             client := s.client.eraseP (·.1 = b) }

def returnTrackBuffer (s : TrackFlow) (bs : List BnBuffer) : Option TrackFlow :=
  if bs = [] then none else bs.foldlM (returnOne cfg) s

def notifyBufferReturned (s : TrackFlow) (h : IBufferHandle) : Option TrackFlow :=
  (s.flow.callSource h).map fun flow => release cfg { s with flow } h

def countConsumers (s : TrackFlow) : TrackFlow :=
  { s with track := { s.track with
      numConsumers := .ofNat s.flow.producer.bufferConsumers.size } }

/-- A null consumer is refused. -/
def addConsumer (s : TrackFlow) (c : ConsumerKey) : Option TrackFlow :=
  if c = 0 then some s
  else (s.onFlow (s.flow.withConsumers (s.flow.producer.addConsumer c))).map countConsumers

def removeConsumer (s : TrackFlow) (c : ConsumerKey) : Option TrackFlow :=
  if (UInt32.ofNat s.flow.producer.bufferConsumers.size) = 0 then some s
  else (s.onFlow (s.flow.withConsumers (s.flow.producer.removeConsumer c))).map countConsumers

def step (s : TrackFlow) : Action → Option TrackFlow
  | .onFrameAvailable b => s.onFrameAvailable b
  | .prepare encodes => s.prepare cfg encodes
  | .link => s.link cfg
  | .linkedFrame => s.onFlow s.flow.onFrameAvailable
  | .endNotify => s.onFlow s.flow.endNotify
  | .pass => s.pass cfg
  | .getBuffer => s.getBuffer cfg
  | .returnBuffer d => s.returnBuffer cfg d
  | .returnTrackBuffer bs => s.returnTrackBuffer cfg bs
  | .linkedReturn c h => s.onFlow (some (s.flow.notifyBufferReturned c h))
  | .notifyBufferReturned h => s.notifyBufferReturned cfg h
  | .addConsumer c => s.addConsumer c
  | .removeConsumer c => s.removeConsumer c
  | .setState isStop isPaused eosAcked =>
    some { s with track := { s.track with isStop, isPaused, eosAcked } }

def lts : LTS TrackFlow Action := .ofStep (step cfg)

end TrackFlow

end QmmfSdk.Pipeline
