import Mathlib.Logic.Function.Iterate
import QmmfSdk.Pipeline.Producer

/-! `FrameRateController`: which frames are skipped, repeated or passed on, and how its calls
interleave with the consumers behind it. -/
namespace QmmfSdk.Pipeline

open Library

/-- The nearest number with so many significant bits, ties to even: the conversion of an integer
to `float` (24 bits) or `double` (53 bits). -/
def roundNat (bits n : Nat) : Nat :=
  let shift := n.log2 + 1 - bits
  let q := n / 2 ^ shift
  let r := n % 2 ^ shift
  if 2 ^ shift < 2 * r ∨ (2 * r = 2 ^ shift ∧ q % 2 = 1) then (q + 1) * 2 ^ shift
  else q * 2 ^ shift

def roundInt (bits : Nat) (n : Int) : Int := n.sign * roundNat bits n.natAbs

/-- `static_cast<double>(num) / den >= 0.5`. A quotient of two doubles that is below one half
stays below it when it is rounded, so the test is exact on the rounded operands. -/
def isAtLeastHalf (num den : Int64) : Bool :=
  let num := roundInt 53 num.toInt
  let den := roundInt 53 den.toInt
  if den = 0 then 0 < num
  else if 0 < den then den ≤ 2 * num
  else 2 * num ≤ den

/-- `std::llround(0.5f * interval)`, which rounds a half away from zero. -/
def halfOf (interval : Int64) : Int64 :=
  let f := roundInt 24 interval.toInt
  .ofInt (f.sign * ((f.natAbs + 1) / 2 : Nat))

/-- `std::llround(0.01f * interval)`; the constant is 10737418 / 2^30. -/
def hundredthOf (interval : Int64) : Int64 :=
  let f := roundInt 24 interval.toInt
  .ofInt (f.sign * ((roundNat 24 (10737418 * f.natAbs) + 2 ^ 29) / 2 ^ 30 : Nat))

structure FrameRateController where
  active : Bool := false
  frameRepeatEnabled : Bool := false
  inputFrameCount : Int32 := 0
  outputFrameCount : Int32 := 0
  measurementInterval : Int64 := 0
  outputFrameInterval : Int64 := 0
  expectedOutputTs : Int64 := 0
  inputFrameInterval : Int64 := 0
  previousInputTs : Int64 := 0
  deriving DecidableEq

namespace FrameRateController

/-- What `Start` and `Stop` have in common. -/
def reset (active : Bool) (c : FrameRateController) : FrameRateController :=
  { c with active, inputFrameCount := 0, outputFrameCount := 0, measurementInterval := 0,
           expectedOutputTs := 0, previousInputTs := 0 }

def start (c : FrameRateController) : FrameRateController := if c.active then c else c.reset true

def stop (c : FrameRateController) : FrameRateController := if c.active then c.reset false else c

/-- The new output interval; a rate of zero gives none and is refused. -/
def setFrameRate (c : FrameRateController) (interval : Option Int64) : FrameRateController :=
  { c with outputFrameInterval := interval.getD c.outputFrameInterval }

def enableFrameRepeat (c : FrameRateController) (enable : Bool) : FrameRateController :=
  { c with frameRepeatEnabled := enable }

/-- The beginning of `OnFrameAvailable`, up to the choice between repeat and skip. -/
def receive (c : FrameRateController) (timestamp : Int64) : FrameRateController :=
  let interval := if c.previousInputTs = 0 then 0 else timestamp - c.previousInputTs
  { c with inputFrameInterval := interval,
           measurementInterval := c.measurementInterval + interval,
           inputFrameCount := c.inputFrameCount + 1,
           previousInputTs := timestamp,
           expectedOutputTs := if c.expectedOutputTs = 0 then timestamp else c.expectedOutputTs }

def skipFrame (c : FrameRateController) (timestamp : Int64) : Bool :=
  let delta := c.expectedOutputTs - timestamp
  0 < delta && halfOf c.outputFrameInterval ≤ delta

def repeatFrame (c : FrameRateController) (timestamp : Int64) : Bool :=
  let delta := c.expectedOutputTs - timestamp
  let delta := if delta < 0 then -delta else delta
  c.inputFrameInterval != 0 && isAtLeastHalf delta c.outputFrameInterval

/-- The end of a turn of the repeat loop. -/
def countRepeat (c : FrameRateController) : FrameRateController :=
  { c with expectedOutputTs := c.expectedOutputTs + c.outputFrameInterval,
           outputFrameCount := c.outputFrameCount + 1 }

/-- The rest of the locked part: the next expected timestamp and the measurement. -/
def schedule (c : FrameRateController) (timestamp : Int64) : FrameRateController :=
  let delta := c.expectedOutputTs - timestamp
  let c := if 0 < delta ∧ delta < hundredthOf c.outputFrameInterval then
    { c with expectedOutputTs := c.expectedOutputTs - delta } else c
  let c := c.countRepeat
  if 3000000000 ≤ c.measurementInterval then
    { c with inputFrameCount := 0, outputFrameCount := 0, measurementInterval := 0 }
  else c

/-- The repeat loop for a timestamp ends after finitely many turns. -/
def LoopEnds (c : FrameRateController) (timestamp : Int64) : Prop :=
  ∃ n : Nat, (countRepeat^[n] c).repeatFrame timestamp = false

/-- After a turn, one turn fewer is left. -/
theorem LoopEnds.countRepeat {c : FrameRateController} {timestamp : Int64}
    (h : c.LoopEnds timestamp) (hrepeat : c.repeatFrame timestamp = true) :
    c.countRepeat.LoopEnds timestamp := by
  obtain ⟨n, hn⟩ := h
  cases n with
  | zero => simp [hrepeat] at hn
  | succ n => exact ⟨n, hn⟩

end FrameRateController

structure Frame where
  handle : IBufferHandle
  timestamp : Int64
  deriving DecidableEq

/-- Where `OnFrameAvailable` is: before the test of the repeat loop, after so many repeats, inside
the `NotifyBuffer` of a repeat, or inside the last one. -/
inductive Phase where
  | testing (b : Frame) (repeats : Nat)
  | repeating (b : Frame) (repeats : Nat)
  | sending (b : Frame)
  deriving DecidableEq

/-- A controller between its upstream producer, which sends one frame at a time, and the consumers
of its own producer. -/
structure FrcFlow where
  frc : FrameRateController := {}
  flow : Flow := {}
  phase : Option Phase := none
  given : List IBufferHandle := []
  /-- Buffers that go back upstream without being passed on. -/
  dropped : List IBufferHandle := []

namespace FrcFlow

inductive Action where
  | onFrameAvailable (b : Frame)
  | repeatTest
  | deliver
  | endNotify
  | notifyBufferReturned (c : ConsumerKey) (h : IBufferHandle)
  | callSource (h : IBufferHandle)
  | addConsumer (c : ConsumerKey)
  | removeConsumer (c : ConsumerKey)
  | start
  | stop
  | setFrameRate (interval : Option Int64)
  | enableFrameRepeat (enable : Bool)

/-- Buffers that were returned to the upstream producer. -/
def upstream (s : FrcFlow) (h : IBufferHandle) : Nat :=
  s.flow.returned.count h + s.dropped.count h

/-- The `NotifyBuffer` that the controller enters, and where it goes on after it. -/
def send (s : FrcFlow) (h : IBufferHandle) (phase : Phase) : Option FrcFlow :=
  (s.flow.notifyBuffer h).map fun flow => { s with flow, phase := some phase }

def onFrameAvailable (s : FrcFlow) (b : Frame) : Option FrcFlow :=
  if s.phase.isSome then none
  else
    let s := { s with given := s.given ++ [b.handle] }
    if s.frc.active then
      let s := { s with frc := s.frc.receive b.timestamp }
      if s.frc.frameRepeatEnabled then some { s with phase := some (.testing b 0) }
      else if s.frc.skipFrame b.timestamp then some { s with dropped := s.dropped ++ [b.handle] }
      else send { s with frc := s.frc.schedule b.timestamp } b.handle (.sending b)
    else some { s with dropped := s.dropped ++ [b.handle] }

def repeatTest (s : FrcFlow) : Option FrcFlow :=
  match s.phase with
  | some (.testing b n) =>
    if s.frc.repeatFrame b.timestamp then s.send b.handle (.repeating b n)
    else send { s with frc := s.frc.schedule b.timestamp } b.handle (.sending b)
  | _ => none

/-- `NotifyBuffer` is over: at once when there was no consumer, else after its loop. -/
def endNotify (s : FrcFlow) : Option FrcFlow :=
  let flow := if s.flow.notifying = none then some s.flow else s.flow.endNotify
  flow.bind fun flow =>
    match s.phase with
    | some (.repeating b n) =>
      some { s with flow, frc := s.frc.countRepeat, phase := some (.testing b (n + 1)) }
    | some (.sending _) => some { s with flow, phase := none }
    | _ => none

def onFlow (s : FrcFlow) (o : Option Flow) : Option FrcFlow := o.map fun flow => { s with flow }

/-- `frame_lock_` is held during the whole repeat loop. -/
def isLooping (s : FrcFlow) : Bool :=
  match s.phase with
  | some (.testing _ _) | some (.repeating _ _) => true
  | some (.sending _) | none => false

/-- Consumers change only while the controller is not active, and never while it sends. -/
def withConsumers (s : FrcFlow) (c : ConsumerKey) (o : Option BufferProducer) : Option FrcFlow :=
  if s.frc.active || c == 0 then some s
  else if s.phase.isSome then none
  else s.onFlow (s.flow.withConsumers o)

def configure (s : FrcFlow) (frc : FrameRateController) : Option FrcFlow :=
  if s.isLooping then none else some { s with frc }

def step (s : FrcFlow) : Action → Option FrcFlow
  | .onFrameAvailable b => s.onFrameAvailable b
  | .repeatTest => s.repeatTest
  | .deliver => s.onFlow s.flow.onFrameAvailable
  | .endNotify => s.endNotify
  | .notifyBufferReturned c h => some { s with flow := s.flow.notifyBufferReturned c h }
  | .callSource h => s.onFlow (s.flow.callSource h)
  | .addConsumer c => s.withConsumers c (s.flow.producer.addConsumer c)
  | .removeConsumer c => s.withConsumers c (s.flow.producer.removeConsumer c)
  | .start => s.configure s.frc.start
  | .stop => s.configure s.frc.stop
  | .setFrameRate interval => s.configure (s.frc.setFrameRate interval)
  | .enableFrameRepeat enable => s.configure (s.frc.enableFrameRepeat enable)

def lts : LTS FrcFlow Action := .ofStep step

end FrcFlow

end QmmfSdk.Pipeline
