import QmmfSdk.Camera3.DeviceClient

/-! `Camera3RequestHandler`: the two loops that number requests and hand them to the HAL, next to
the client that keeps what is in flight. -/
namespace QmmfSdk.Camera3

open Library

/-- A request and its output streams. -/
structure CaptureRequest where
  streams : List Nat
  resultExtras : CaptureResultExtras
  deriving DecidableEq, Repr

namespace CaptureRequest

/-- Whether there is an input stream; `GenerateCaptureRequestLocked` sets the pointer and the
flag together. -/
def input (r : CaptureRequest) : Bool := r.resultExtras.input

def frameNumber (r : CaptureRequest) : UInt32 := r.resultExtras.frameNumber

def stamp (r : CaptureRequest) (n : UInt32) : CaptureRequest :=
  { r with resultExtras := { r.resultExtras with frameNumber := n } }

end CaptureRequest

/-- `workerBusy` is set while `ReprocLoop` goes through its list and holds `worker_lock_`. -/
structure RequestHandler where
  requests : List CaptureRequest := []
  streamingRequests : List CaptureRequest := []
  reprocRequests : List CaptureRequest := []
  currentFrameNumber : UInt32 := 0
  currentInputFrameNumber : UInt32 := 0
  workerBusy : Bool := false
  hasErrorCb : Bool := true

namespace RequestHandler

def queueRequestList (h : RequestHandler) (rs : List CaptureRequest) : RequestHandler :=
  { h with requests := h.requests ++ rs }

/-- Waits (`none`) while the worker holds its lock. -/
def queueReprocRequestList (h : RequestHandler) (rs : List CaptureRequest) :
    Option RequestHandler :=
  if h.workerBusy then none else some { h with reprocRequests := h.reprocRequests ++ rs }

def setRepeatingRequests (h : RequestHandler) (rs : List CaptureRequest) : RequestHandler :=
  { h with streamingRequests := rs }

def clearRepeatingRequests (h : RequestHandler) : RequestHandler :=
  { h with streamingRequests := [] }

/-- `AddRequestListLocked` of the client: a list is of one kind only, and its kind decides which
loop takes it. -/
def addRequestList (h : RequestHandler) (rs : List CaptureRequest) (streaming : Bool) :
    Option RequestHandler :=
  let requestList := rs.filter fun r => !r.input
  let requestListReproc := rs.filter CaptureRequest.input
  if requestList.isEmpty == requestListReproc.isEmpty then some h
  else if !requestListReproc.isEmpty then h.queueReprocRequestList requestListReproc
  else if streaming then some (h.setRepeatingRequests requestList)
  else some (h.queueRequestList requestList)

/-- Every queued request is reported as failed, under a frame number of its own. -/
def clear (h : RequestHandler) : RequestHandler :=
  { h with
    streamingRequests := []
    requests := []
    currentFrameNumber :=
      if h.hasErrorCb then h.currentFrameNumber + UInt32.ofNat h.requests.length
      else h.currentFrameNumber }

/-- The request that `ThreadLoop` submits next: the first of a new round of the streaming list,
or a queued one, reprocess requests first. -/
def getRequest (h : RequestHandler) : Option CaptureRequest × RequestHandler :=
  match h.requests with
  | [] =>
    match h.streamingRequests with
    | [] => (none, h)
    | r :: rest =>
      (some (r.stamp h.currentFrameNumber),
        { h with requests := rest, currentFrameNumber := h.currentFrameNumber + 1 })
  | r :: rest =>
    match (r :: rest).find? CaptureRequest.input with
    | some reproc =>
      (some (reproc.stamp h.currentInputFrameNumber),
        { h with
          requests := (r :: rest).eraseP CaptureRequest.input
          currentInputFrameNumber := h.currentInputFrameNumber + 1 })
    | none =>
      (some (r.stamp h.currentFrameNumber),
        { h with requests := rest, currentFrameNumber := h.currentFrameNumber + 1 })

/-- One turn of `ReprocLoop` up to the submission. The list keeps only what is still to come. -/
def nextReproc (h : RequestHandler) : Option CaptureRequest × RequestHandler :=
  match h.reprocRequests with
  | [] => (none, h)
  | r :: rest =>
    (some (r.stamp h.currentInputFrameNumber),
      { h with
        reprocRequests := rest
        currentInputFrameNumber := h.currentInputFrameNumber + 1
        workerBusy := true })

end RequestHandler

/-- How the submission of a request ends: a stream has no buffer, there is no device, the request
is not registered, or the HAL refuses or accepts it. -/
inductive Submission where
  | noBuffer
  | noDevice
  | notRegistered
  | refused
  | accepted
  deriving DecidableEq, Repr

/-- Requests that the HAL refuses stay registered. -/
def Submission.marks : Submission → Bool
  | .refused | .accepted => true
  | .noBuffer | .noDevice | .notRegistered => false

/-- The handler, the client, and the request that each loop has stamped and not yet submitted. -/
structure Camera where
  handler : RequestHandler := {}
  client : DeviceClient := {}
  held : Option CaptureRequest := none
  heldReproc : Option CaptureRequest := none

namespace Camera

/-- `SubmitRequest`; an input buffer counts as one more buffer. -/
def submitRequest (c : DeviceClient) (r : CaptureRequest) (inBuf : Bool) (o : Submission) :
    DeviceClient :=
  if o.marks then
    c.markPendingRequest r.frameNumber (r.streams.length + if inBuf then 1 else 0) r.resultExtras
  else c

/-- The calls of the user, the steps of the two loops, and what the HAL does in between. -/
inductive Action where
  | addRequestList (rs : List CaptureRequest) (streaming : Bool)
  | clearRepeatingRequests
  | clear
  | getRequest
  | exitPending
  | submitRequest (o : Submission)
  | nextReproc
  | submitReproc (o : Submission)
  | hal (e : DeviceClient.Event)
  deriving DecidableEq, Repr

variable (cfg : Config)

/-- `none` is a step that is not enabled: a loop submits what it has stamped before it stamps
again, and only `SubmitRequest` registers requests. -/
def step (s : Camera) : Action → Option Camera
  | .addRequestList rs streaming => do
    return { s with handler := ← s.handler.addRequestList rs streaming }
  | .clearRepeatingRequests => some { s with handler := s.handler.clearRepeatingRequests }
  | .clear => some { s with handler := s.handler.clear }
  | .getRequest =>
    if s.held.isSome then none
    else
      let (r, h) := s.handler.getRequest
      some { s with handler := h, held := r }
  | .exitPending => some { s with held := none }
  | .submitRequest o => do
    let r ← s.held
    return { s with client := submitRequest s.client r false o, held := none }
  | .nextReproc =>
    if s.heldReproc.isSome then none
    else
      let (r, h) := s.handler.nextReproc
      some { s with handler := h, heldReproc := r }
  | .submitReproc o => do
    let r ← s.heldReproc
    return { s with
      client := submitRequest s.client r true o
      handler := { s.handler with workerBusy := !s.handler.reprocRequests.isEmpty }
      heldReproc := none }
  | .hal e => if e.isMark then none else some { s with client := s.client.step cfg e }

def lts : LTS Camera Action := .ofStep (step cfg)

end Camera

end QmmfSdk.Camera3
