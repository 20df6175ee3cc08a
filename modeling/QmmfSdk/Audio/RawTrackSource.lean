import QmmfSdk.Audio.PulseClient
import QmmfSdk.Binder.Types

/-! `AudioRawTrackSource`: the calls that start, stop, pause and resume it, its thread, the thread of the
pulse client under it and a client of the recorder, step by step. -/
namespace QmmfSdk.Audio

open Library
open Binder (BnBuffer)

/-- The keys of `ion_buffer_map_`, in the order of the map, and `request_size_`. -/
structure RecorderIon where
  fds : List Int32
  requestSize : Int32
  ascending : fds.Pairwise (· < ·)

namespace RecorderIon

def getList (ion : RecorderIon) : List BufferDescriptor :=
  ion.fds.map fun fd => { fd, capacity := ion.requestSize.toUInt32 }

def «import» (ion : RecorderIon) (bn : BnBuffer) : Option BufferDescriptor :=
  if bn.bufferId.toInt32 ∈ ion.fds then
    some {
      fd := bn.bufferId.toInt32
      capacity := ion.requestSize.toUInt32
      size := bn.size
      timestamp := bn.timestamp
      flag := bn.flag }
  else none

def «export» (ion : RecorderIon) (b : BufferDescriptor) : Option BnBuffer :=
  if b.fd ∈ ion.fds then
    some {
      ionFd := b.fd
      ionMetaFd := -1
      size := b.size
      timestamp := b.timestamp
      width := -1
      height := -1
      bufferId := b.fd.toUInt32
      flag := b.flag
      capacity := b.capacity }
  else none

end RecorderIon

inductive SourceMessage where
  | stop
  | pause
  | resume
  | buffer (b : BufferDescriptor)
  | bnBuffer (bn : BnBuffer)
  deriving DecidableEq, Repr

def SourceMessage.filled : SourceMessage → List BufferDescriptor
  | .buffer b => [b]
  | .stop | .pause | .resume | .bnBuffer _ => []

def SourceMessage.returned : SourceMessage → List BnBuffer
  | .bnBuffer bn => [bn]
  | .stop | .pause | .resume | .buffer _ => []

/-- Where the thread of the source is: before it sends the initial list, at the three parts of its loop,
or returned. -/
inductive SourcePhase where
  | initial
  | message
  | buffers
  | bnBuffers
  | ended
  deriving DecidableEq, Repr

/-- Where the caller of the track is; `started` is that there is a thread. -/
inductive Caller where
  | ready (started : Bool)
  | starting
  | pausing (started : Bool)
  | resuming (started : Bool)
  | stopping
  | joiningPulse
  | joiningThread
  deriving DecidableEq, Repr

def Caller.HasThread : Caller → Prop
  | .ready started | .pausing started | .resuming started => started = true
  | .starting => False
  | .stopping | .joiningPulse | .joiningThread => True

/-- `messages` is shared; `buffers` to `paused` are locals of the thread. `hands` is what the client was
given and has not returned. -/
structure AudioRawTrackSource where
  ion : RecorderIon
  pulse : PulseClient := { phase := .ended }
  messages : List SourceMessage := []
  phase : SourcePhase := .ended
  buffers : List BufferDescriptor := []
  bnBuffers : List BnBuffer := []
  stopReceived : Bool := false
  paused : Bool := false
  hands : List BnBuffer := []
  caller : Caller := .ready false

def PulseClient.send (p : PulseClient) (m : AudioMessage) : PulseClient :=
  { p with messages := p.messages ++ [m] }

namespace AudioRawTrackSource

/-- `StartTrack` with the property that adjusts timestamps, and the other calls. -/
inductive Call where
  | startTrack (adjust : Int64)
  | stopTrack
  | pauseTrack
  | resumeTrack
  deriving DecidableEq, Repr

/-- A call begins or goes on, the thread of the source or that of the pulse client takes a step, or the
client returns a buffer. -/
inductive Action where
  | call (c : Call)
  | goOn
  | thread
  | pulse (a : PulseClient.Action)
  | returnTrackBuffer (bn : BnBuffer)
  deriving DecidableEq, Repr

def push (s : AudioRawTrackSource) (m : SourceMessage) : AudioRawTrackSource :=
  { s with messages := s.messages ++ [m] }

/-- The first part of a call; a track that has been started is not started again, and only such a track
is stopped. -/
def begin (s : AudioRawTrackSource) : Call → Option AudioRawTrackSource
  | .startTrack adjust =>
    if s.caller = .ready false then
      some { s with pulse := s.pulse.start adjust, caller := .starting }
    else none
  | .stopTrack =>
    if s.caller = .ready true then some { s.push .stop with caller := .stopping } else none
  | .pauseTrack =>
    match s.caller with
    | .ready started => some { s.push .pause with caller := .pausing started }
    | _ => none
  | .resumeTrack =>
    match s.caller with
    | .ready started => some { s with pulse := s.pulse.send .resume, caller := .resuming started }
    | _ => none

/-- The rest of a call. A thread that is joined is gone with its queues, and the messages to it are
flushed. -/
def goOn (s : AudioRawTrackSource) : Option AudioRawTrackSource :=
  match s.caller with
  | .ready _ => none
  | .starting =>
    some { s with
      messages := []
      phase := .initial
      buffers := []
      bnBuffers := []
      stopReceived := false
      paused := false
      caller := .ready true }
  | .pausing started => some { s with pulse := s.pulse.send .pause, caller := .ready started }
  | .resuming started => some { s.push .resume with caller := .ready started }
  | .stopping => some { s with pulse := s.pulse.send .stop, caller := .joiningPulse }
  | .joiningPulse =>
    if s.pulse.phase = .ended then
      some { s with pulse := { s.pulse with messages := [], buffers := [] }, caller := .joiningThread }
    else none
  | .joiningThread =>
    if s.phase = .ended then some { s with messages := [], caller := .ready false } else none

def handle (s : AudioRawTrackSource) : SourceMessage → AudioRawTrackSource
  | .pause => { s with paused := true }
  | .resume => { s with paused := false }
  | .stop => { s with paused := false, stopReceived := true }
  | .buffer b => { s with buffers := s.buffers ++ [b] }
  | .bnBuffer bn => { s with bnBuffers := s.bnBuffers ++ [bn] }

/-- The thread waits while it has no message and both of its queues are empty. -/
def takeMessage (s : AudioRawTrackSource) : Option AudioRawTrackSource :=
  match s.messages with
  | [] =>
    if s.buffers = [] ∧ s.bnBuffers = [] then none else some { s with phase := .buffers }
  | m :: ms => some { { s with messages := ms }.handle m with phase := .buffers }

/-- The next buffer of the pulse client goes to the client. -/
def processBuffers (s : AudioRawTrackSource) : Option AudioRawTrackSource :=
  match s.buffers with
  | [] => some { s with phase := .bnBuffers }
  | b :: rest =>
    if s.paused then some { s with phase := .bnBuffers }
    else
      (s.ion.export b).map fun bn =>
        { s with phase := .bnBuffers, buffers := rest, hands := s.hands ++ [bn] }

/-- The next returned buffer goes to the pulse client, or ends the thread, with whatever its queues
hold. -/
def processBnBuffers (s : AudioRawTrackSource) : Option AudioRawTrackSource :=
  match s.bnBuffers with
  | [] => some { s with phase := .message }
  | bn :: rest =>
    if s.paused then some { s with phase := .message }
    else if s.stopReceived ∧ bn.flag &&& kFlagEOS ≠ 0 then
      some { s with phase := .ended, buffers := [], bnBuffers := [] }
    else
      (s.ion.import bn).map fun b =>
        { s with
          phase := .message
          bnBuffers := rest
          pulse := s.pulse.send (.buffer [{ b with size := 0, timestamp := 0 }]) }

def threadStep (s : AudioRawTrackSource) : Option AudioRawTrackSource :=
  match s.phase with
  | .initial =>
    some { s with phase := .message, pulse := s.pulse.send (.buffer s.ion.getList) }
  | .message => s.takeMessage
  | .buffers => s.processBuffers
  | .bnBuffers => s.processBnBuffers
  | .ended => none

/-- A buffer that the pulse client gives to `NotifyBufferEvent` is a message to the thread; after
`NotifyErrorEvent` nothing runs, because `ErrorHandler` asserts. -/
def pulseStep (bytesToUsec : UInt32 → UInt64) (s : AudioRawTrackSource) (a : PulseClient.Action) :
    Option AudioRawTrackSource :=
  match a with
  | .post _ => none
  | a => (s.pulse.step bytesToUsec a).bind fun p =>
    if p.phase = .failed then none
    else some { s with
      pulse := p
      messages := s.messages ++ (p.notified.drop s.pulse.notified.length).map .buffer }

def returnTrackBuffer (s : AudioRawTrackSource) (bn : BnBuffer) : Option AudioRawTrackSource :=
  if bn ∈ s.hands then some { s.push (.bnBuffer bn) with hands := s.hands.erase bn } else none

def step (bytesToUsec : UInt32 → UInt64) (s : AudioRawTrackSource) :
    Action → Option AudioRawTrackSource
  | .call c => s.begin c
  | .goOn => s.goOn
  | .thread => s.threadStep
  | .pulse a => s.pulseStep bytesToUsec a
  | .returnTrackBuffer bn => s.returnTrackBuffer bn

end AudioRawTrackSource

end QmmfSdk.Audio
