import QmmfSdk.Camera3.RequestLoops

/-! `Camera3DeviceClient` around the request handler: its streams, its state, and the calls that
pause the handler while they reconfigure the device. -/
namespace QmmfSdk.Camera3

open Library

/-- `state_` of an open camera; before that every call is refused. -/
inductive DeviceState where
  | notConfigured
  | configured
  | running
  | error
  deriving DecidableEq, Repr

/-- The calls that may pause the request handler. -/
inductive StreamCall where
  | createStream
  | createInputStream
  | deleteStream (stream : Nat)
  deriving DecidableEq, Repr

/-- A call that waits in `WaitUntilStateThenRelock`, for the device to be idle or, when it resumes,
to be active. `seen` says whether such an update of the state has come since. -/
structure Waiting where
  call : StreamCall
  resuming : Bool
  seen : Bool := false
  deriving DecidableEq, Repr

/-- What `ConfigureStreamsLocked` meets: a stream that cannot begin or end or abort its
configuration, or the answer of the HAL, of which `-EINVAL` is treated apart. -/
inductive HalConfigure where
  | beginFails
  | invalid
  | abortFails
  | refused
  | endFails
  | ok
  deriving DecidableEq, Repr

/-- The answers that a call gets on its way: whether the size of a blob is valid, whether the new
stream can be added, and how the configuration ends. -/
structure Answers where
  blobOk : Bool := true
  added : Bool := true
  configure : HalConfigure := .ok
  deriving DecidableEq, Repr

/-- `togglePause` is `toggle_pause_state_` of the request handler. A stream is its id, and
`input_stream_.stream_id` is `none` while it is -1. -/
structure Device where
  loops : Loops := {}
  state : DeviceState := .notConfigured
  togglePause : Bool := false
  pauseStateNotify : Bool := false
  reconfig : Bool := true
  streams : List Nat := []
  inputStream : Option Nat := none
  nextStreamId : Nat := 0
  deletedStreams : List Nat := []
  nextRequestId : Int := 0
  waits : List Waiting := []

inductive DeviceAction where
  | createStream (ans : Answers)
  | createInputStream (ans : Answers)
  | deleteStream (stream : Nat) (cache : Bool) (ans : Answers)
  | wake (i : Nat) (timely : Bool) (ans : Answers)
  | configureStreams (o : HalConfigure)
  | submitRequestList (rs : List (List Nat)) (streaming : Bool) (o : HalConfigure) (ready : Bool)
  | notifyStatus (idle : Bool)
  | setError
  | loop (a : Camera.Action)
  deriving DecidableEq, Repr

def Waiting.note (s : DeviceState) (w : Waiting) : Waiting :=
  { w with seen := w.seen || w.resuming == (s == .running) }

namespace Device

/-- `InternalUpdateStatusLocked`. -/
def updateStatus (d : Device) (s : DeviceState) : Device :=
  { d with state := s, waits := d.waits.map (Waiting.note s) }

/-- `SetErrorStateLocked`. -/
def setErrorState (d : Device) : Device :=
  if d.state = .error then d else { d.updateStatus .error with togglePause := true }

/-- `ConfigureStreamsLocked`, and whether it returns 0. -/
def configureStreamsLocked (d : Device) (o : HalConfigure) : Bool × Device :=
  if d.state ≠ .notConfigured ∧ d.state ≠ .configured then (false, d)
  else if !d.reconfig then (true, d)
  else
    match o with
    | .ok => (true, { d.updateStatus .configured with reconfig := false, deletedStreams := [] })
    | .invalid => (false, d.updateStatus .notConfigured)
    | .beginFails | .abortFails | .refused | .endFails => (false, d)

/-- The end of a call; `CreateStream` counts its stream only here. -/
def finish (d : Device) : StreamCall → Device
  | .createStream => { d with nextStreamId := d.nextStreamId + 1 }
  | .createInputStream | .deleteStream _ => d

/-- `InternalResumeLocked` and the end of the call. Without a request to submit it returns before
it resets the flag. -/
def internalResumeLocked (d : Device) (call : StreamCall) : Device :=
  let d := { d with togglePause := false }
  if !d.loops.pendingRequest then d.finish call
  else if d.state = .running then { d with pauseStateNotify := false }.finish call
  else { d with waits := d.waits ++ [{ call, resuming := true }] }

/-- A call that has paused the device configures it and resumes. -/
def reconfigure (d : Device) (call : StreamCall) (o : HalConfigure) : Device :=
  match d.configureStreamsLocked o with
  | (false, d) => d
  | (true, d) => d.internalResumeLocked call

def addStream (d : Device) : Device :=
  { d with
    streams := if d.nextStreamId ∈ d.streams then d.streams else d.streams ++ [d.nextStreamId]
    reconfig := true }

/-- `CreateStream` from where the device is idle. -/
def createStreamIdle (d : Device) (wasActive : Bool) (ans : Answers) : Device :=
  if !ans.blobOk || !ans.added then d
  else if wasActive then d.addStream.reconfigure .createStream ans.configure
  else d.addStream.finish .createStream

def addInputStream (d : Device) : Device :=
  { d with
    reconfig := true
    inputStream := some d.nextStreamId
    nextStreamId := d.nextStreamId + 1 }

/-- `CreateInputStream` from where the device is idle. -/
def createInputStreamIdle (d : Device) (wasActive : Bool) (ans : Answers) : Device :=
  if wasActive then d.addInputStream.reconfigure .createInputStream ans.configure
  else d.addInputStream

def removeStream (d : Device) (stream : Nat) : Device :=
  { d with streams := d.streams.filter (· ≠ stream) }

/-- `DeleteStream` from where the device is idle, or at once when the stream is cached. -/
def deleteStreamIdle (d : Device) (stream : Nat) (cache : Bool) (ans : Answers) : Device :=
  if d.inputStream = some stream then { d with inputStream := none }
  else if stream ∉ d.streams then d
  else if d.loops.isStreamActive stream then d
  else
    let d := d.removeStream stream
    if !cache && !d.streams.isEmpty then
      { d with reconfig := true }.reconfigure (.deleteStream stream) ans.configure
    else
      { d with
        reconfig := d.reconfig || d.state != .running
        deletedStreams := d.deletedStreams ++ [stream] }

/-- What a call that has paused the device does when it is idle. -/
def proceed (d : Device) (ans : Answers) : StreamCall → Device
  | .createStream => d.createStreamIdle true ans
  | .createInputStream => d.createInputStreamIdle true ans
  | .deleteStream stream => d.deleteStreamIdle stream false ans

/-- `InternalPauseAndWaitLocked`: only a running device is waited for. -/
def internalPauseLocked (d : Device) (call : StreamCall) (ans : Answers) : Device :=
  let d := { d with togglePause := true, pauseStateNotify := true }
  if d.state = .running then { d with waits := d.waits ++ [{ call, resuming := false }] }
  else d.proceed ans call

def createStream (d : Device) (ans : Answers) : Device :=
  match d.state with
  | .error => d
  | .notConfigured | .configured => d.createStreamIdle false ans
  | .running => d.internalPauseLocked .createStream ans

def createInputStream (d : Device) (ans : Answers) : Device :=
  if d.inputStream.isSome then d
  else
    match d.state with
    | .error => d
    | .notConfigured | .configured => d.createInputStreamIdle false ans
    | .running => d.internalPauseLocked .createInputStream ans

def deleteStream (d : Device) (stream : Nat) (cache : Bool) (ans : Answers) : Device :=
  match d.state with
  | .error => d
  | .notConfigured | .configured | .running =>
    if cache then d.deleteStreamIdle stream true ans
    else d.internalPauseLocked (.deleteStream stream) ans

/-- A wait that times out puts the device into its error state; only the pause ends the call. -/
def wake (d : Device) (w : Waiting) (timely : Bool) (ans : Answers) : Device :=
  if w.resuming then
    let d := if timely then d else d.setErrorState
    { d with pauseStateNotify := false }.finish w.call
  else if timely then d.proceed ans w.call
  else d.setErrorState

def isInput (d : Device) (id : Nat) : Bool := d.inputStream == some id

/-- The output streams of a request, and whether it names the input stream. -/
def requestOf (d : Device) (r : List Nat) : List Nat × Bool := (r.eraseP d.isInput, r.any d.isInput)

/-- The checks of `SubmitRequestList`: each request names streams, and apart from the input stream
only such as exist, none twice. -/
def isValidList (d : Device) (rs : List (List Nat)) : Bool :=
  !rs.isEmpty && rs.all fun r =>
    let streams := r.filter fun id => !d.isInput id
    !r.isEmpty && decide streams.Nodup && streams.all fun id => id ∈ d.streams

/-- The checks of `GenerateCaptureRequestLocked`: there is an output stream, and all exist. -/
def hasOutputs (d : Device) (ps : List (List Nat × Bool)) : Bool :=
  ps.all fun p => !p.1.isEmpty && p.1.all fun id => id ∈ d.streams

/-- `GenerateCaptureRequestLocked` configures a device whose streams have changed. `ready` says
whether the streams that it names can all be used. -/
def configureForRequest (d : Device) (o : HalConfigure) (ready : Bool) : Bool × Device :=
  let (res, d) := if d.state = .notConfigured ∨ d.reconfig then d.configureStreamsLocked o
    else (true, d)
  (res && d.state != .notConfigured && ready, d)

/-- `SubmitRequestList`. The wait that ends it changes nothing. -/
def submitRequestList (cfg : Config) (d : Device) (rs : List (List Nat)) (streaming : Bool)
    (o : HalConfigure) (ready : Bool) : Option Device :=
  if d.state = .error ∨ !d.isValidList rs then some d
  else
    let ps := rs.map d.requestOf
    let requests := Loops.requestsOf d.nextRequestId ps
    let d := { d with nextRequestId := d.nextRequestId + rs.length }
    match d.configureForRequest o ready with
    | (false, d) => some d
    | (true, d) =>
      if !d.hasOutputs ps then some d
      else do return { d with loops := ← d.loops.step cfg (.addRequestList requests streaming) }

def notifyStatus (d : Device) (idle : Bool) : Device :=
  if d.state = .running ∨ d.state = .configured then
    d.updateStatus (if idle then .configured else .running)
  else d

/-- The client's calls, the steps of the handler's loops and the notifications of the monitor, in
any order. A wait is over in time only after an update that it waits for. -/
def step (cfg : Config) (d : Device) : DeviceAction → Option Device
  | .createStream ans => some (d.createStream ans)
  | .createInputStream ans => some (d.createInputStream ans)
  | .deleteStream stream cache ans => some (d.deleteStream stream cache ans)
  | .wake i timely ans =>
    match d.waits[i]? with
    | some w =>
      if timely && !w.seen then none
      else some ({ d with waits := d.waits.eraseIdx i }.wake w timely ans)
    | none => none
  | .configureStreams o => some (d.configureStreamsLocked o).2
  | .submitRequestList rs streaming o ready => d.submitRequestList cfg rs streaming o ready
  | .notifyStatus idle => some (d.notifyStatus idle)
  | .setError => some d.setErrorState
  | .loop a =>
    match a with
    | .addRequestList _ _ => none
    | a => do return { d with loops := ← d.loops.step cfg a }

def lts (cfg : Config) : LTS Device DeviceAction := .ofStep (step cfg)

end Device

end QmmfSdk.Camera3
