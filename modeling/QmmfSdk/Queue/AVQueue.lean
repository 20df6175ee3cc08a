import QmmfSdk.Library.Ring
import QmmfSdk.Library.Transition

/-! `AVQueue`: a ring of nodes around a sentinel, the newest behind it and the oldest before it. A
step that touches a freed node does not return. -/
namespace QmmfSdk.Queue

open Library

inductive QueueType where
  | realtime
  | complete
  | unknownType
  deriving DecidableEq, Repr

/-- Data is `none` where the pointer is null. -/
structure AVQueue (D : Type) where
  heap : Heap (Option D)
  headNode : Nat
  type : QueueType
  maxSize : Int
  delay : Int
  queueSize : Int
  overflow : Bool

variable {D : Type}

/-- `malloc` gives `node` for the sentinel; `none` is the answer -1. -/
def avQueueInit (heap : Heap (Option D)) (queueType : QueueType) (queueSize delayCount : Int)
    (node : Option Nat) : Option (AVQueue D) := do
  if queueType = .unknownType then failure
  if queueType = .realtime ∧ queueSize < delayCount then failure
  let headNode ← node
  let heap ← (heap.alloc headNode none).close headNode
  return {
    heap, headNode
    type := queueType
    maxSize := if queueType = .realtime then queueSize else 0
    delay := if queueType = .realtime then delayCount else 0
    queueSize := 0
    overflow := false }

namespace AVQueue

/-- `queue_size--` and the unlinking of the oldest node, with its data. -/
def unlinkTail (q : AVQueue D) : Option (AVQueue D × Option D) := do
  let (heap, data) ← q.heap.unlinkBefore q.headNode
  return ({ q with heap := heap, queueSize := q.queueSize - 1 }, data)

/-- What a push does first, with the data it frees. -/
def makeRoom (q : AVQueue D) : Option (AVQueue D × List (Option D)) :=
  if q.type = .realtime ∧ q.maxSize ≤ q.queueSize then do
    let (q, data) ← unlinkTail { q with overflow := true }
    return (q, [data])
  else some (q, [])

/-- `node` is what `malloc` gives; the data that is freed comes back with the queue. -/
def avQueuePushHead (node : Option Nat) (databuf : Option D) (q : AVQueue D) :
    Option (AVQueue D × List (Option D)) :=
  match node with
  | none => some (q, [])
  | some node => do
    let (q, freed) ← makeRoom { q with heap := q.heap.alloc node databuf }
    let heap ← q.heap.linkAfter q.headNode node
    return ({ q with heap := heap, queueSize := q.queueSize + 1 }, freed)

/-- `n` turns of the loop that trims the queue. -/
def trim : Nat → AVQueue D → Option (AVQueue D × List (Option D))
  | 0, q => some (q, [])
  | n + 1, q => do
    let (q, data) ← q.unlinkTail
    let (q, freed) ← trim n q
    return (q, data :: freed)

/-- After an overflow only `delay` nodes are left. -/
def trimToDelay (q : AVQueue D) : Option (AVQueue D × List (Option D)) :=
  if q.overflow then do
    let (q, freed) ← trim (q.queueSize - q.delay).toNat q
    return ({ q with overflow := false }, freed)
  else some (q, [])

/-- The data that is unlinked for the caller, if any, and the data that is freed. -/
def avQueuePopTail (q : AVQueue D) : Option (AVQueue D × Option (Option D) × List (Option D)) :=
  if 0 < q.queueSize then do
    let (q, freed) ← q.trimToDelay
    let (q, data) ← q.unlinkTail
    return (q, some data, freed)
  -- empty until the wait times out, or woken
  else some (q, none, [])

def avQueueWake (q : AVQueue D) : AVQueue D :=
  if q.queueSize = 0 then { q with queueSize := -1 } else q

def avQueueSize (q : AVQueue D) : Int := q.queueSize

/-- `n` turns of the loop of `AVQueueAbort`, with the data of the nodes that go. -/
def abortLoop : Nat → AVQueue D → Option (AVQueue D × List (Option D))
  | 0, q => some (q, [])
  | n + 1, q => do
    let (heap, data) ← q.heap.unlinkAfter q.headNode
    let (q, gone) ← abortLoop n { q with heap := heap, queueSize := q.queueSize - 1 }
    return (q, data :: gone)

def avQueueAbort (q : AVQueue D) : Option (AVQueue D × List (Option D)) := do
  let (q, gone) ← abortLoop q.queueSize.toNat q
  let heap ← q.heap.close q.headNode
  return ({ q with heap := heap }, gone)

end AVQueue

/-- The calls; a push comes with what `malloc` gives it, an abort with whether it has a callback. -/
inductive Op (D : Type) where
  | push (node : Option Nat) (databuf : Option D)
  | pop
  | wake
  | abort (func : Bool)
  | size

open AVQueue

def step (q : AVQueue D) : Op D → Option (AVQueue D)
  | .push node databuf => (q.avQueuePushHead node databuf).map Prod.fst
  | .pop => q.avQueuePopTail.map Prod.fst
  | .wake => some q.avQueueWake
  | .abort _ => q.avQueueAbort.map Prod.fst
  | .size => some q

/-- `malloc` gives no block that is in use. -/
def Fresh (q : AVQueue D) : Op D → Prop
  | .push (some node) _ => q.heap.live node = false
  | _ => True

end QmmfSdk.Queue
