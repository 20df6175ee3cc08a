import Mathlib.Logic.Function.Basic
import QmmfSdk.Pipeline.FrameRate
import QmmfSdk.Recorder.CameraSource

/-! The HAL1 `CameraContext`: its two ports, the streams that share them, and the calls a
`TrackSource` makes to it. -/
namespace QmmfSdk.Hal1

open Library
open Recorder (BufferFormat Status)
open Pipeline (BufferProducer ConsumerKey Flow)

structure StreamParam where
  id : UInt32 := 0
  width : UInt32 := 0
  height : UInt32 := 0
  format : BufferFormat := .unsupported
  framerate : Rat := 0
  deriving DecidableEq, Repr

inductive CameraPortType where
  | preview
  | video
  deriving DecidableEq, Repr

inductive PortState where
  | created
  | initialized
  | started
  deriving DecidableEq, Repr

/-- The pixel formats of `CameraParameters`. -/
inductive HalFormat where
  | nv12Venus
  | nv21Venus
  | yuv422SP
  | bayerRGGB
  deriving DecidableEq, Repr

/-- `none` is the null pointer for an unsupported format. -/
def fromQmmfToHalFormat : BufferFormat → Option HalFormat
  | .nv12UBWC | .nv12 | .nv12Encodable => some .nv12Venus
  | .nv21 => some .nv21Venus
  | .nv16 => some .yuv422SP
  | .raw8 | .raw10 | .raw12 | .raw16 => some .bayerRGGB
  | .rgb | .blob | .unsupported => none

/-- What the ports set of `mParameters_`. -/
structure CameraParameters where
  previewSize : UInt32 × UInt32 := (0, 0)
  previewFormat : Option HalFormat := none
  videoSize : UInt32 × UInt32 := (0, 0)
  videoFrameFormat : Option HalFormat := none
  recordingHint : Bool := false
  storeMetaDataInBuffers : Bool := false
  zsl : Bool := false
  previewFrameRate : Int32 := 0
  previewFpsRange : Int32 × Int32 := (0, 0)
  deriving DecidableEq, Repr

/-- `fps * 1000.0f`, rounded to single precision. -/
def thousandfold (fps : Rat) : Rat :=
  mkRat (fps.num.sign * Pipeline.roundNat 24 (fps.num.natAbs * 1000)) fps.den

/-- The conversion of a `float` to `int`, towards zero. The language leaves it open outside of the
range of `int`, where the processor takes the nearest bound. -/
def truncate (x : Rat) : Int32 :=
  .ofInt (max Int32.minValue.toInt (min (x.num.tdiv x.den) Int32.maxValue.toInt))

/-- The product of 29.97 is rounded up to a whole number before the conversion. -/
example : truncate (mkRat 15712911 524288) = 29 ∧
    truncate (thousandfold (mkRat 15712911 524288)) = 29970 := by decide

/-- `camera_device_`: the parameters it was given last, and which of its streams run. -/
structure CameraDevice where
  parameters : CameraParameters := {}
  storeMetaData : Bool := false
  streaming : CameraPortType → Bool := fun _ => false

/-- `buffer_map_` takes the fd of a frame to the address the HAL knows it by. -/
structure CameraPort where
  trackId : UInt32
  portState : PortState := .created
  portFrameRate : Rat := 0
  width : UInt32 := 0
  height : UInt32 := 0
  frameNumber : UInt32 := 0
  consumers : OrdMap ConsumerKey Unit := ∅
  flow : Flow := {}
  bufferMap : OrdMap Int32 UInt64 := ∅
  bufferCount : Int := 0

structure CameraContext where
  port : CameraPortType → CameraPort
  streamsParams : OrdMap UInt32 StreamParam := ∅
  consumers : OrdMap UInt32 ConsumerKey := ∅
  mParameters : CameraParameters := {}
  device : CameraDevice := {}

namespace CameraPort

def init (p : CameraPort) (param : StreamParam) : CameraPort :=
  { p with
    trackId := param.id, portFrameRate := param.framerate, width := param.width,
    height := param.height, portState := .initialized }

def start (p : CameraPort) : CameraPort :=
  if p.portState ≠ .initialized then p else { p with frameNumber := 0, portState := .started }

def stop (p : CameraPort) : CameraPort :=
  if p.portState ≠ .started then p else { p with portState := .initialized }

/-- An answer other than `NO_ERROR` changes nothing, and no caller looks at it. -/
def addConsumer (p : CameraPort) (c : ConsumerKey) : Option CameraPort :=
  if c = 0 then none
  else if c ∈ p.consumers then some p
  else (p.flow.withConsumers (p.flow.producer.addConsumer c)).map fun flow =>
    { p with flow := flow, consumers := p.consumers.insertIfNew c () }

def removeConsumer (p : CameraPort) (c : ConsumerKey) : Option CameraPort :=
  if c = 0 then none
  else if c ∉ p.consumers then some p
  else (p.flow.withConsumers (p.flow.producer.removeConsumer c)).map fun flow =>
    { p with flow := flow, consumers := p.consumers.erase c }

/-- `none` is the assertion that no consumer is left. -/
def deInit (p : CameraPort) : Option CameraPort :=
  if p.consumers.isEmpty then
    some { p with trackId := 0, portFrameRate := 0, portState := .created }
  else none

end CameraPort

namespace CameraContext

/-- The order of `ports_`. -/
def portTypes : List CameraPortType := [.preview, .video]

/-- After `OpenCamera`. A constructor leaves `track_id_` as it finds it in memory. -/
def opened (junk : CameraPortType → UInt32) : CameraContext where
  port t := { trackId := junk t }

def setPort (ctx : CameraContext) (t : CameraPortType) (p : CameraPort) : CameraContext :=
  { ctx with port := Function.update ctx.port t p }

section SetPort

variable {ctx : CameraContext} {t u : CameraPortType} {p : CameraPort}

@[simp] theorem port_setPort : (ctx.setPort t p).port u = if u = t then p else ctx.port u := by
  simp [setPort, Function.update_apply]

@[simp] theorem device_setPort : (ctx.setPort t p).device = ctx.device := rfl

@[simp] theorem mParameters_setPort : (ctx.setPort t p).mParameters = ctx.mParameters := rfl

@[simp] theorem streamsParams_setPort :
    (ctx.setPort t p).streamsParams = ctx.streamsParams := rfl

@[simp] theorem consumers_setPort : (ctx.setPort t p).consumers = ctx.consumers := rfl

end SetPort

def getFreePort (ctx : CameraContext) : Option CameraPortType :=
  portTypes.find? fun t => (ctx.port t).portState = .created

/-- A null format is dereferenced by the parameters. -/
def initPort (ctx : CameraContext) (t : CameraPortType) (param : StreamParam) :
    Option CameraContext := do
  let format ← fromQmmfToHalFormat param.format
  let size := (param.width, param.height)
  let parameters := match t with
    | .preview => { ctx.mParameters with
        previewSize := size, videoSize := (320, 240), previewFormat := some format,
        recordingHint := false, storeMetaDataInBuffers := true, zsl := true }
    | .video => { ctx.mParameters with
        videoSize := size, videoFrameFormat := some format, recordingHint := true,
        storeMetaDataInBuffers := true, zsl := false }
  some { ctx.setPort t ((ctx.port t).init param) with
    mParameters := parameters, device := { ctx.device with storeMetaData := true } }

def startPort (ctx : CameraContext) (t : CameraPortType) : CameraContext :=
  if (ctx.port t).portState ≠ .initialized then ctx
  else
    { ctx.setPort t (ctx.port t).start with
      device := { ctx.device with streaming := Function.update ctx.device.streaming t true } }

def stopPort (ctx : CameraContext) (t : CameraPortType) : CameraContext :=
  if (ctx.port t).portState ≠ .started then ctx
  else
    { ctx.setPort t (ctx.port t).stop with
      device := { ctx.device with streaming := Function.update ctx.device.streaming t false } }

def setFps (ctx : CameraContext) (fps : Rat) : CameraContext :=
  let parameters := { ctx.mParameters with
    previewFrameRate := truncate fps
    previewFpsRange := (truncate (thousandfold fps), truncate (thousandfold fps)) }
  { ctx with mParameters := parameters, device := { ctx.device with parameters := parameters } }

def maxFps (ctx : CameraContext) : Rat :=
  portTypes.foldl (fun fps t =>
    if fps < (ctx.port t).portFrameRate then (ctx.port t).portFrameRate else fps) 0

/-- What `StartStream` does with the port it found, and `StopStream` again. -/
def runOn (ctx : CameraContext) (t : CameraPortType) (param : StreamParam) (c : ConsumerKey) :
    Option CameraContext := do
  let ctx ← ctx.initPort t param
  let port ← (ctx.port t).addConsumer c
  let ctx := ctx.setPort t port
  some ((ctx.setFps ctx.maxFps).startPort t)

/-- Stop, `RemoveConsumer` and `DeInit` of one port. -/
def release (ctx : CameraContext) (t : CameraPortType) (id : UInt32) : Option CameraContext := do
  let ctx := ctx.stopPort t
  -- the subscript makes a null consumer for an id without one
  let port ← (ctx.port t).removeConsumer (ctx.consumers[id]?.getD 0)
  let port ← port.deInit
  some (ctx.setPort t port)

def createStream (ctx : CameraContext) (param : StreamParam) : Status × CameraContext :=
  if ctx.streamsParams.size > 2 then (.badValue, ctx)
  else (.noError, { ctx with streamsParams := ctx.streamsParams.insertIfNew param.id param })

/-- Whether a port makes `DeleteStream` wait for buffers. -/
def waits (ctx : CameraContext) (id : UInt32) (t : CameraPortType) : Bool :=
  (ctx.port t).trackId = id ∧ (ctx.port t).portState = .created ∧ 0 < (ctx.port t).bufferCount

/-- `allReturned` says whether the buffers a port waits for come back in time. -/
def deleteStream (ctx : CameraContext) (id : UInt32) (allReturned : Bool) :
    Status × CameraContext :=
  match portTypes.find? fun t => (ctx.port t).trackId = id ∧
      ((ctx.port t).portState ≠ .created ∨ ctx.waits id t ∧ !allReturned) with
  | some t => (if (ctx.port t).portState ≠ .created then .badValue else .timedOut, ctx)
  | none => (.noError, { ctx with streamsParams := ctx.streamsParams.erase id })

def addConsumer (ctx : CameraContext) (id : UInt32) (c : ConsumerKey) : Status × CameraContext :=
  (.noError, { ctx with consumers := ctx.consumers.insertIfNew id c })

/-- Only the first port of the stream is looked at. -/
def removeConsumer (ctx : CameraContext) (id : UInt32) : Status × CameraContext :=
  match portTypes.find? fun t => (ctx.port t).trackId = id with
  | some t =>
    if (ctx.port t).portState = .started then (.badValue, ctx)
    else (.noError, { ctx with consumers := ctx.consumers.erase id })
  | none => (.noError, { ctx with consumers := ctx.consumers.erase id })

def startStream (ctx : CameraContext) (id : UInt32) : Option (Status × CameraContext) :=
  let param := ctx.streamsParams[id]?.getD {}
  let consumer := ctx.consumers[id]?.getD 0
  -- both subscripts create the entry they do not find
  let ctx := { ctx with streamsParams := ctx.streamsParams.insertIfNew id {},
                        consumers := ctx.consumers.insertIfNew id 0 }
  match ctx.getFreePort with
  | none => some (.badValue, ctx)
  | some t => (ctx.runOn t param consumer).map fun ctx => (.noError, ctx)

/-- The first stream but `id` in the order of the map. -/
def otherStream (ctx : CameraContext) (id : UInt32) : StreamParam :=
  ((ctx.streamsParams.toList.find? fun iter => iter.2.id ≠ id).map (·.2)).getD {}

/-- Both ports stop, and the stream that goes on takes the free one. -/
def handOver (ctx : CameraContext) (id : UInt32) : Option (Status × CameraContext) := do
  let ctx ← ctx.release .video (ctx.port .video).trackId
  let ctx ← ctx.release .preview (ctx.port .preview).trackId
  let param := ctx.otherStream id
  let consumer := ctx.consumers[param.id]?.getD 0
  match ctx.getFreePort with
  | none => some (.badValue, ctx)
  | some t => (ctx.runOn t param consumer).map fun ctx => (.noError, ctx)

/-- `none` is the assertion that a port has the stream; the last one that has it counts. -/
def stopStream (ctx : CameraContext) (id : UInt32) : Option (Status × CameraContext) :=
  match portTypes.reverse.find? fun t => (ctx.port t).trackId = id with
  | none => none
  | some .preview =>
    if portTypes.all fun t => (ctx.port t).portState = .started then ctx.handOver id
    else (ctx.release .preview id).map fun ctx => (.noError, ctx)
  | some .video => (ctx.release .video id).map fun ctx => (.noError, ctx)

/-- The calls of a `TrackSource`, which asserts that each returns `NO_ERROR`. -/
def expect (r : Status × CameraContext) : Option CameraContext :=
  if r.1 = .noError then some r.2 else none

inductive Call where
  | init (param : StreamParam)
  | startTrack (id : UInt32) (consumer : ConsumerKey)
  | stopTrack (id : UInt32)
  | deInit (id : UInt32)
  deriving DecidableEq, Repr

/-- Only the answer of `CreateStream` is handed on. -/
def call (ctx : CameraContext) : Call → Option CameraContext
  | .init param => some (ctx.createStream param).2
  | .startTrack id c => do
    let ctx ← expect (ctx.addConsumer id c)
    (ctx.startStream id).bind expect
  | .stopTrack id => do
    let ctx ← (ctx.stopStream id).bind expect
    expect (ctx.removeConsumer id)
  | .deInit id => expect (ctx.deleteStream id true)

end CameraContext

end QmmfSdk.Hal1
