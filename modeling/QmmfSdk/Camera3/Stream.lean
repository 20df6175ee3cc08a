import Mathlib.Data.List.Nodup
import QmmfSdk.Library.Counter
import QmmfSdk.Library.Keyed
import QmmfSdk.Library.OrdMap
import QmmfSdk.Library.Transition
import QmmfSdk.Pipeline.Producer

/-! `Camera3Stream` once it is configured: the buffers it allocates, marks and counts, and the
request handler, the HAL and the client between which they travel. -/
namespace QmmfSdk.Camera3

open Library
open Pipeline (IBufferHandle)

inductive StreamStatus where
  | error
  | initialized
  | configActive
  | reconfigActive
  | configured
  | prepareActive
  deriving DecidableEq, Repr

inductive Errno where
  | enosys
  | einval
  | enomem
  | enodata
  | enodev
  deriving DecidableEq, Repr

/-- `GetAllocBufferHandle` gives the native handle that an `IBufferHandle` wraps, a different one
for each. -/
structure AllocDevice where
  getAllocBufferHandle : IBufferHandle → UInt64 := id
  getAllocBufferHandle_injective : Function.Injective getAllocBufferHandle := by
    exact Function.injective_id

/-- A buffer is marked `true` while it is free. Of the slots only those below
`hw_buffer_allocated_` are kept. -/
structure Camera3Stream where
  status : StreamStatus := .configured
  totalBufferCount : UInt32
  pendingBufferCount : UInt32 := 0
  halBufferCnt : UInt32 := 0
  clientBufferCnt : UInt32 := 0
  memAllocBuffers : OrdMap IBufferHandle Bool := ∅
  memAllocSlots : List IBufferHandle := []
  buffersMap : OrdMap UInt64 IBufferHandle := ∅
  isStreamActive : Bool := false
  preparedBuffersCount : UInt32 := 0

namespace Camera3Stream

variable (dev : AllocDevice)

/-- The entries that are marked in use. -/
def inUse (s : Camera3Stream) : Nat :=
  s.memAllocBuffers.keys.countP fun h => s.memAllocBuffers[h]? = some false

def firstFree (s : Camera3Stream) : Option IBufferHandle :=
  s.memAllocBuffers.keys.find? fun h => s.memAllocBuffers[h]? = some true

/-- The end of `GetBufferLocked`, for a caller that passes a stream buffer. -/
def handOut (s : Camera3Stream) (h : IBufferHandle) : Camera3Stream :=
  { s with buffersMap := s.buffersMap.insert (dev.getAllocBufferHandle h) h
           halBufferCnt := s.halBufferCnt + 1
           pendingBufferCount := s.pendingBufferCount + 1 }

/-- `GetBufferLocked`; `alloc` is what `AllocBuffer` answers. Without a stream buffer it only
allocates. -/
def getBufferLocked (s : Camera3Stream) (streamBuffer : Bool) (alloc : Option IBufferHandle) :
    Except Errno IBufferHandle × Camera3Stream :=
  if s.status = .error ∨ s.status = .initialized then (.error .enosys, s)
  else
    match if streamBuffer then s.firstFree else none with
    | some h =>
      let s := { s with memAllocBuffers := s.memAllocBuffers.insert h false }
      if h ∈ s.memAllocSlots then (.ok h, s.handOut dev h) else (.error .enosys, s)
    | none =>
      if s.memAllocSlots.length < s.totalBufferCount.toNat then
        match alloc with
        | none => (.error .enomem, s)
        | some h =>
          let s := { s with memAllocSlots := s.memAllocSlots ++ [h]
                            memAllocBuffers := s.memAllocBuffers.insert h !streamBuffer }
          (.ok h, if streamBuffer then s.handOut dev h else s)
      else (.error .enosys, s)

/-- `none` is success. -/
def returnBufferLocked (s : Camera3Stream) (h : IBufferHandle) : Option Errno × Camera3Stream :=
  if s.status = .initialized then (some .enosys, s)
  else if s.pendingBufferCount = 0 then (some .enosys, s)
  else if h ∈ s.memAllocBuffers then
    (none, { s with memAllocBuffers := s.memAllocBuffers.insert h true
                    pendingBufferCount := s.pendingBufferCount - 1
                    clientBufferCnt := s.clientBufferCnt - 1 })
  else (some .einval, s)

/-- The locked part of `ReturnBufferToClient`; `none` is the assertion that the HAL returns a
buffer that it was given. -/
def returnBufferToClient (s : Camera3Stream) (native : UInt64) :
    Option (IBufferHandle × Camera3Stream) :=
  (s.buffersMap[native]?).map fun h =>
    (h, { s with halBufferCnt := s.halBufferCnt - 1, clientBufferCnt := s.clientBufferCnt + 1
                 isStreamActive := true })

def beginPrepare (s : Camera3Stream) : Errno × Camera3Stream :=
  if s.status ≠ .configured then (.enosys, s)
  else if s.isStreamActive then (.enosys, s)
  else if 0 < s.pendingBufferCount then (.enosys, s)
  else (.enodata, { s with preparedBuffersCount := 0, status := .prepareActive })

def endPrepareLocked (s : Camera3Stream) : Option Errno × Camera3Stream :=
  if s.status ≠ .prepareActive then (some .enosys, s)
  else (none, { s with preparedBuffersCount := 0, status := .configured })

def prepareBuffer (s : Camera3Stream) (alloc : Option IBufferHandle) :
    Option Errno × Camera3Stream :=
  if s.status ≠ .prepareActive then (some .enosys, s)
  else
    match s.getBufferLocked dev false alloc with
    | (.error _, s) => (some .enodev, s)
    | (.ok _, s) =>
      let s := { s with preparedBuffersCount := s.preparedBuffersCount + 1 }
      if s.preparedBuffersCount < s.totalBufferCount then (some .enodata, s)
      else s.endPrepareLocked

def tearDown (s : Camera3Stream) : Option Errno × Camera3Stream :=
  if s.status ≠ .configured then (some .enosys, s)
  else if 0 < s.pendingBufferCount then (some .enosys, s)
  else (none, { s with
    memAllocBuffers := if s.memAllocSlots = [] then s.memAllocBuffers else ∅
    memAllocSlots := [], isStreamActive := false })

end Camera3Stream

/-- Who has a buffer: the handler of the request that it was obtained for, the HAL, the client, or
the error branch of `ReturnBufferToClient`. -/
inductive Place where
  | handler
  | hal
  | client
  | failing
  deriving DecidableEq, Repr

/-- A stream with its callers: how many `GetBuffer` calls wait, the output buffers of the request
under way, the buffers that `ReturnBufferToClient` is about to return itself, where every buffer
is, which returns succeeded for a buffer that was not out, and whether a counter went below
zero. -/
structure StreamFlow where
  stream : Camera3Stream
  waiting : Nat := 0
  outputBuffers : List IBufferHandle := []
  failing : List IBufferHandle := []
  out : List (IBufferHandle × Place) := []
  wrongly : List IBufferHandle := []
  wrapped : Bool := false

namespace StreamFlow

inductive Action where
  | getBuffer (alloc : Option IBufferHandle)
  | wake (alloc : Option IBufferHandle)
  | timeOut
  | processCaptureRequest
  | handleErrorRequest (h : IBufferHandle)
  | returnBufferToClient (native : UInt64) (ok : Bool)
  | returnFailed (h : IBufferHandle)
  | returnBuffer (h : IBufferHandle)
  | beginPrepare
  | prepareBuffer (alloc : Option IBufferHandle)
  | endPrepare
  | tearDown

/-- The state that `EndConfigure` leaves. -/
def configured (totalBufferCount : UInt32) : StreamFlow where
  stream := { totalBufferCount }

variable (dev : AllocDevice)

def takeBuffer (s : StreamFlow) (alloc : Option IBufferHandle) : StreamFlow :=
  match s.stream.getBufferLocked dev true alloc with
  | (.ok h, stream) =>
    { s with stream, outputBuffers := s.outputBuffers ++ [h], out := s.out ++ [(h, .handler)] }
  | (.error _, stream) => { s with stream }

/-- With all buffers out `GetBuffer` waits for a return. -/
def getBuffer (s : StreamFlow) (alloc : Option IBufferHandle) : StreamFlow :=
  if s.stream.status ≠ .configured then s
  else if s.stream.pendingBufferCount = s.stream.totalBufferCount then
    { s with waiting := s.waiting + 1 }
  else s.takeBuffer dev alloc

def wake (s : StreamFlow) (alloc : Option IBufferHandle) : Option StreamFlow :=
  if s.waiting = 0 then none else some (takeBuffer dev { s with waiting := s.waiting - 1 } alloc)

/-- `ReturnBuffer`. -/
def returnBuffer (s : StreamFlow) (h : IBufferHandle) : StreamFlow :=
  match s.stream.returnBufferLocked h with
  | (some _, stream) => { s with stream }
  | (none, stream) =>
    { s with stream
             out := s.out.eraseP (·.1 = h)
             wrongly := if h ∈ s.out.map (·.1) then s.wrongly else s.wrongly ++ [h]
             wrapped := s.wrapped || s.stream.clientBufferCnt == 0 }

/-- The places of all buffers that meet a test. -/
def moveTo (s : StreamFlow) (p : IBufferHandle × Place → Bool) (place : Place) :
    List (IBufferHandle × Place) :=
  s.out.map fun x => if p x then (x.1, place) else x

/-- The HAL accepts the request. -/
def processCaptureRequest (s : StreamFlow) : StreamFlow :=
  { s with outputBuffers := [], out := s.moveTo (·.2 = .handler) .hal }

/-- One turn of the loop in `HandleErrorRequest`. -/
def handleErrorRequest (s : StreamFlow) (h : IBufferHandle) : Option StreamFlow :=
  if h ∈ s.outputBuffers then
    let native := dev.getAllocBufferHandle h
    let handle := (s.stream.buffersMap[native]?).getD 0
    some (returnBuffer { s with
      stream := { s.stream with buffersMap := s.stream.buffersMap.erase native }
      outputBuffers := s.outputBuffers.erase h } handle)
  else none

/-- A buffer with an error status is returned by the call itself, after its locked part. -/
def returnBufferToClient (s : StreamFlow) (native : UInt64) (ok : Bool) : Option StreamFlow :=
  (s.stream.returnBufferToClient native).map fun (h, stream) =>
    { s with stream
             failing := if ok then s.failing else h :: s.failing
             out := s.moveTo (·.1 = h) (if ok then .client else .failing)
             wrapped := s.wrapped || s.stream.halBufferCnt == 0 }

def returnFailed (s : StreamFlow) (h : IBufferHandle) : Option StreamFlow :=
  if h ∈ s.failing then some (returnBuffer { s with failing := s.failing.erase h } h) else none

def step (s : StreamFlow) : Action → Option StreamFlow
  | .getBuffer alloc => some (s.getBuffer dev alloc)
  | .wake alloc => s.wake dev alloc
  | .timeOut => if s.waiting = 0 then none else some { s with waiting := s.waiting - 1 }
  | .processCaptureRequest => some s.processCaptureRequest
  | .handleErrorRequest h => s.handleErrorRequest dev h
  | .returnBufferToClient native ok => s.returnBufferToClient native ok
  | .returnFailed h => s.returnFailed h
  | .returnBuffer h => some (s.returnBuffer h)
  | .beginPrepare => some { s with stream := s.stream.beginPrepare.2 }
  | .prepareBuffer alloc => some { s with stream := (s.stream.prepareBuffer dev alloc).2 }
  | .endPrepare => some { s with stream := s.stream.endPrepareLocked.2 }
  | .tearDown => some { s with stream := s.stream.tearDown.2 }

def lts : LTS StreamFlow Action := .ofStep (step dev)

end StreamFlow

end QmmfSdk.Camera3
