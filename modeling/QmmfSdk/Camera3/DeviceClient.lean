import QmmfSdk.Library.Counter
import QmmfSdk.Library.OrdMap
import QmmfSdk.Library.Transition

/-! `Camera3DeviceClient`: requests in flight, and the callbacks by which the HAL completes
them. -/
namespace QmmfSdk.Camera3

open Library

/-- `KeyedVector<uint32_t, V>`, keyed by frame number. -/
abbrev FrameMap (V : Type) := OrdMap UInt32 V

/-- Frame numbers grow until the counter wraps. -/
theorem lt_next_frame {n : UInt32} (h : n.toNat + 1 < 2 ^ 32) : n < n + 1 := by
  rw [UInt32.lt_iff_toNat_lt, Counter.toNat_up rfl h]
  exact Nat.lt_succ_self _

/-- The error codes of a HAL error notify; any other code is `invalid`. -/
inductive HalError where
  | invalid
  | device
  | request
  | result
  | buffer
  deriving DecidableEq, Repr

/-- What the client reads of a metadata buffer: the values under `ANDROID_SENSOR_TIMESTAMP` and
how many other entries there are. -/
structure Metadata where
  sensorTimestamps : List Int := []
  others : Nat := 0
  deriving DecidableEq, Repr

def Metadata.isEmpty (m : Metadata) : Bool := m.sensorTimestamps.isEmpty && m.others == 0

/-- `append`; of two entries with one tag a lookup finds the first. -/
def Metadata.append (m n : Metadata) : Metadata where
  sensorTimestamps := if m.sensorTimestamps.isEmpty then n.sensorTimestamps else m.sensorTimestamps
  others := m.others + n.others

/-- `camera3_stream_buffer_t`: the buffer, its stream and whether its status is an error. -/
structure StreamBuffer where
  buffer : Nat
  stream : Nat
  error : Bool := false
  deriving DecidableEq, Repr

structure CaptureResultExtras where
  requestId : Int := 0
  frameNumber : UInt32 := 0
  partialResultCount : UInt32 := 0
  input : Bool := false
  deriving DecidableEq, Repr

/-- `status` is `none` while it is `OK`; the metadata are empty while nothing is pending. -/
structure PendingRequest where
  buffersRemaining : Int
  resultExtras : CaptureResultExtras
  shutterTS : Int := 0
  sensorTS : Int := 0
  status : Option HalError := none
  isMetaPresent : Bool := false
  pendingMetadata : Metadata := {}
  pendingBuffers : List StreamBuffer := []
  partial3AReceived : Bool := false
  composedResult : Metadata := {}
  deriving DecidableEq, Repr

/-- All buffers are back, and the request has failed or has both metadata and shutter. -/
def PendingRequest.isComplete (r : PendingRequest) : Bool :=
  r.buffersRemaining == 0 && (r.status.isSome || (r.isMetaPresent && r.shutterTS != 0))

/-- One call of `client_cb_.resultCb`: `frameNumber` is what the metadata carry under
`ANDROID_REQUEST_FRAME_COUNT`. -/
structure Report where
  partialResult : Bool
  input : Bool
  frameNumber : UInt32
  deriving DecidableEq, Repr

/-- What is fixed once the camera is open: the number of partial results per frame and whether
the client has registered a result callback. -/
structure Config where
  partialResultCount : UInt32 := 1
  hasResultCb : Bool := true

def Config.isPartialResultSupported (cfg : Config) : Bool := cfg.partialResultCount > 1

/-- The tables of the client, and a record of what it passed on: results to the client and
buffers to their streams. -/
structure DeviceClient where
  flushOnGoing : Bool := false
  pendingRequests : FrameMap PendingRequest := ∅
  pendingErrorRequests : FrameMap PendingRequest := ∅
  nextShutterFrameNumber : UInt32 := 0
  nextShutterInputFrameNumber : UInt32 := 0
  nextResultFrameNumber : UInt32 := 0
  nextResultInputFrameNumber : UInt32 := 0
  reports : List Report := []
  returned : List (UInt32 × StreamBuffer) := []
  returnedInputs : List StreamBuffer := []

/-- `camera3_capture_result`. -/
structure CaptureResult where
  frameNumber : UInt32
  result : Option Metadata := none
  partialResult : UInt32 := 0
  outputBuffers : List StreamBuffer := []
  inputBuffer : Option StreamBuffer := none
  deriving DecidableEq, Repr

namespace DeviceClient

variable (cfg : Config)

def nextShutter (c : DeviceClient) (input : Bool) : UInt32 :=
  if input then c.nextShutterInputFrameNumber else c.nextShutterFrameNumber

def setNextShutter (c : DeviceClient) (input : Bool) (n : UInt32) : DeviceClient :=
  if input then { c with nextShutterInputFrameNumber := n }
  else { c with nextShutterFrameNumber := n }

def nextResult (c : DeviceClient) (input : Bool) : UInt32 :=
  if input then c.nextResultInputFrameNumber else c.nextResultFrameNumber

def setNextResult (c : DeviceClient) (input : Bool) (n : UInt32) : DeviceClient :=
  if input then { c with nextResultInputFrameNumber := n }
  else { c with nextResultFrameNumber := n }

/-- Writes through a reference into the vector. -/
def setPending (c : DeviceClient) (frame : UInt32) (r : PendingRequest) : DeviceClient :=
  { c with pendingRequests := c.pendingRequests.insert frame r }

/-- Edits the entry of a frame if there is one. -/
def editPending (c : DeviceClient) (frame : UInt32) (f : PendingRequest → PendingRequest) :
    DeviceClient :=
  match c.pendingRequests[frame]? with
  | some r => c.setPending frame (f r)
  | none => c

/-- An existing entry of the same frame number is replaced. -/
def markPendingRequest (c : DeviceClient) (frame : UInt32) (numBuffers : Nat)
    (extras : CaptureResultExtras) : DeviceClient :=
  c.setPending frame { buffersRemaining := numBuffers, resultExtras := extras }

/-- `updates` says whether the tags can be added to the metadata. -/
def handlePartialResult (c : DeviceClient) (frame : UInt32) (extras : CaptureResultExtras)
    (updates : Bool) : Bool × DeviceClient :=
  if !cfg.hasResultCb then (true, c)
  else if !updates then (false, c)
  else (true, { c with reports := c.reports ++ [⟨true, extras.input, frame⟩] })

def sendCaptureResult (c : DeviceClient) (pendingMetadata : Metadata)
    (extras : CaptureResultExtras) (collected : Metadata) (frame : UInt32) (updates : Bool) :
    DeviceClient :=
  if pendingMetadata.isEmpty then c
  else if !cfg.hasResultCb then c
  else if frame < c.nextResult extras.input then c
  else
    let c := c.setNextResult extras.input (frame + 1)
    if !updates then c
    else
      let metadata := if cfg.isPartialResultSupported && !collected.isEmpty then
        pendingMetadata.append collected else pendingMetadata
      if metadata.sensorTimestamps.isEmpty then c
      else { c with reports := c.reports ++ [⟨false, extras.input, frame⟩] }

/-- One turn of `ReturnOutputBuffers`. -/
def returnOutputBuffer (frame : UInt32) (c : DeviceClient) (b : StreamBuffer) : DeviceClient :=
  let c := { c with returned := c.returned ++ [(frame, b)] }
  if b.error && !c.flushOnGoing then
    c.editPending frame fun r => { r with status := some .buffer }
  else c

def returnOutputBuffers (c : DeviceClient) (buffers : List StreamBuffer) (frame : UInt32) :
    DeviceClient :=
  buffers.foldl (returnOutputBuffer frame) c

/-- `RemovePendingRequestLocked`. The loop that returns the parked buffers may change the status
of the very entry. -/
def removePendingRequestLocked (c : DeviceClient) (frame : UInt32) : DeviceClient :=
  match c.pendingRequests[frame]? with
  | none => c
  | some r =>
    if r.isComplete then
      let c := c.returnOutputBuffers r.pendingBuffers frame
      let r := c.pendingRequests[frame]?.getD r
      let errors := if r.status.isSome && (!r.isMetaPresent || r.shutterTS == 0) then
        c.pendingErrorRequests.insert frame r else c.pendingErrorRequests
      { c with
        pendingErrorRequests := errors
        pendingRequests := c.pendingRequests.erase frame }
    else c

/-- What `HandleCaptureResult` does to the entry before it looks at the metadata. -/
def notePartialCount (res : CaptureResult) (r : PendingRequest) : PendingRequest :=
  if res.partialResult ≠ 0 then
    { r with resultExtras := { r.resultExtras with partialResultCount := res.partialResult } }
  else r

/-- Metadata of a frame whose other parts are still to come. -/
def isPartialResult (res : CaptureResult) : Bool :=
  cfg.isPartialResultSupported && res.result.isSome && res.partialResult < cfg.partialResultCount

/-- The range check of `partial_result` when metadata come with it. -/
def isPartialCountInvalid (res : CaptureResult) : Bool :=
  cfg.isPartialResultSupported && res.result.isSome &&
    (res.partialResult > cfg.partialResultCount || res.partialResult < 1)

/-- The buffers that a result takes off the count, the input buffer included. -/
def numBuffersReturned (res : CaptureResult) : Nat :=
  res.outputBuffers.length + (if res.inputBuffer.isSome then 1 else 0)

/-- A partial result: the entry collects its metadata and the client sees what was collected. -/
def composePartial (c : DeviceClient) (res : CaptureResult) (r : PendingRequest)
    (updates : Bool) : DeviceClient × PendingRequest :=
  match res.result with
  | some metadata =>
    if isPartialResult cfg res then
      let r := { r with composedResult := r.composedResult.append metadata }
      let (received, c) := c.handlePartialResult cfg res.frameNumber r.resultExtras updates
      (c, { r with partial3AReceived := received })
    else (c, r)
  | none => (c, r)

/-- The metadata with which the result of a frame is complete. -/
def finalMetadata (res : CaptureResult) : Option Metadata :=
  res.result.filter fun _ => !isPartialResult cfg res

/-- What earlier partial results left, if the result is complete. -/
def collectedPartialResult (res : CaptureResult) (r : PendingRequest) : Metadata :=
  if (finalMetadata cfg res).isSome && cfg.isPartialResultSupported then r.composedResult else {}

/-- The entry after its metadata are noted and its buffers counted. -/
def countResult (res : CaptureResult) (r : PendingRequest) : PendingRequest :=
  let isFinal := (finalMetadata cfg res).isSome
  { r with
    composedResult := if isFinal && cfg.isPartialResultSupported then {} else r.composedResult
    isMetaPresent := r.isMetaPresent || isFinal
    buffersRemaining := r.buffersRemaining - numBuffersReturned res }

def noteSensorTimestamp (res : CaptureResult) (r : PendingRequest) : PendingRequest :=
  match res.result with
  | some ⟨[ts], _⟩ => { r with sensorTS := ts }
  | _ => r

/-- Before the shutter the entry keeps the buffers and the complete metadata. -/
def park (res : CaptureResult) (collected : Metadata) (r : PendingRequest) : PendingRequest :=
  if r.shutterTS = 0 then
    let r := { r with pendingBuffers := r.pendingBuffers ++ res.outputBuffers }
    match finalMetadata cfg res with
    | some metadata => { r with pendingMetadata := metadata, composedResult := collected }
    | none => r
  else r

/-- After the shutter a complete result goes out at once. -/
def sendFinal (c : DeviceClient) (res : CaptureResult) (r : PendingRequest) (collected : Metadata)
    (updates : Bool) : DeviceClient :=
  match finalMetadata cfg res with
  | some metadata =>
    if r.shutterTS = 0 then c
    else c.sendCaptureResult cfg metadata r.resultExtras collected res.frameNumber updates
  | none => c

def returnInputBuffer (c : DeviceClient) (res : CaptureResult) : DeviceClient :=
  { c with returnedInputs := c.returnedInputs ++ res.inputBuffer.toList }

/-- The part of `HandleCaptureResult` after the checks: `r` already counts the buffers and
`collected` is what earlier partial results left. -/
def deliverResult (c : DeviceClient) (res : CaptureResult) (r : PendingRequest)
    (collected : Metadata) (updates : Bool) : DeviceClient :=
  let r := noteSensorTimestamp res r
  let c := c.setPending res.frameNumber (park cfg res collected r)
  let c := c.sendFinal cfg res r collected updates
  let c := if 0 < r.shutterTS then c.returnOutputBuffers res.outputBuffers res.frameNumber else c
  let c := c.removePendingRequestLocked res.frameNumber
  c.returnInputBuffer res

/-- A result that fails a check only raises an error; what was written to the entry before the
check stays. -/
def handleCaptureResult (c : DeviceClient) (res : CaptureResult) (updates : Bool) :
    DeviceClient :=
  if res.result.isNone && res.outputBuffers.isEmpty && res.inputBuffer.isNone then c
  else if !cfg.isPartialResultSupported && res.result.isSome && res.partialResult ≠ 1 then c
  else
    match c.pendingRequests[res.frameNumber]? with
    | none => { c with pendingErrorRequests := c.pendingErrorRequests.erase res.frameNumber }
    | some r =>
      let r := notePartialCount res r
      if isPartialCountInvalid cfg res then c.setPending res.frameNumber r
      else
        let (c, r) := c.composePartial cfg res r updates
        if (finalMetadata cfg res).isSome && r.isMetaPresent then c.setPending res.frameNumber r
        else
          let collected := collectedPartialResult cfg res r
          let r := countResult cfg res r
          if r.buffersRemaining < 0 then c.setPending res.frameNumber r
          else c.deliverResult cfg res r collected updates

/-- Only errors of a request, a result or a buffer concern a frame. -/
def notifyError (c : DeviceClient) (code : HalError) (frame : UInt32) : DeviceClient :=
  match code with
  | .request | .result | .buffer => c.editPending frame fun r => { r with status := some code }
  | .invalid | .device => c

def notifyShutter (c : DeviceClient) (frame : UInt32) (timestamp : Int) (updates : Bool) :
    DeviceClient :=
  match c.pendingRequests[frame]? with
  | none => c
  | some r =>
    if frame < c.nextShutter r.resultExtras.input then c
    else
      let c := c.setNextShutter r.resultExtras.input (frame + 1)
      let c := c.setPending frame { r with shutterTS := timestamp }
      let c := c.sendCaptureResult cfg r.pendingMetadata r.resultExtras r.composedResult frame
        updates
      let c := c.returnOutputBuffers r.pendingBuffers frame
      let c := c.editPending frame fun r => { r with pendingBuffers := [] }
      c.removePendingRequestLocked frame

/-- What happens to the client: a request is registered, the HAL calls back, or `Flush` begins
or ends. `updates` says whether a callback can add its tags to the metadata. -/
inductive Event where
  | mark (frame : UInt32) (numBuffers : Nat) (extras : CaptureResultExtras)
  | result (res : CaptureResult) (updates : Bool)
  | shutter (frame : UInt32) (timestamp : Int) (updates : Bool)
  | error (code : HalError) (frame : UInt32)
  | flush (on : Bool)
  deriving DecidableEq, Repr

/-- The frame that an event is about. -/
def Event.frame : Event → UInt32
  | .mark frame _ _ | .shutter frame _ _ | .error _ frame => frame
  | .result res _ => res.frameNumber
  | .flush _ => 0

def Event.isMark : Event → Bool
  | .mark _ _ _ => true
  | _ => false

def step (c : DeviceClient) : Event → DeviceClient
  | .mark frame numBuffers extras => c.markPendingRequest frame numBuffers extras
  | .result res updates => c.handleCaptureResult cfg res updates
  | .shutter frame timestamp updates => c.notifyShutter cfg frame timestamp updates
  | .error code frame => c.notifyError code frame
  | .flush on => { c with flushOnGoing := on }

/-- The callbacks hold one lock, so each is one step; their order is arbitrary. -/
def lts : LTS DeviceClient Event := .ofStep fun c e => some (c.step cfg e)

end DeviceClient

end QmmfSdk.Camera3
