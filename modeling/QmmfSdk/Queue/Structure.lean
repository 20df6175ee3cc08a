import QmmfSdk.Library.Fifo
import QmmfSdk.Queue.AVQueue

/-! The ring of an `AVQueue` and what each call does to it. -/
namespace QmmfSdk.Queue

open Library

variable {D : Type} {q q' : AVQueue D} {ds gone : List (Option D)} {d : Option D} {n : Nat}
  {b : Bool}

namespace AVQueue

/-- The ring is well formed and holds `ds`, the oldest first. -/
def Contents (q : AVQueue D) (ds : List (Option D)) : Prop :=
  ∃ xs, Ring q.heap q.headNode xs ∧ ds = (xs.map q.heap.data).reverse

/-- The queue after a change of its ring and its size. -/
def withRing (q : AVQueue D) (heap : Heap (Option D)) (queueSize : Int) : AVQueue D :=
  { q with heap := heap, queueSize := queueSize }

theorem withRing_withRing {h h' : Heap (Option D)} {k k' : Int} :
    (q.withRing h k).withRing h' k' = q.withRing h' k' := rfl

theorem unlinkTail_ring {xs : List Nat} {x : Nat} (hr : Ring q.heap q.headNode (xs ++ [x])) :
    ∃ heap, q.unlinkTail = some (q.withRing heap (q.queueSize - 1), q.heap.data x) ∧
      Ring heap q.headNode xs ∧ heap.data = q.heap.data ∧
      heap.live = Function.update q.heap.live x false := by
  obtain ⟨heap, hrun, hring, hdata, hlive⟩ := hr.unlinkBefore
  refine ⟨heap, ?_, hring, hdata, hlive⟩
  rw [unlinkTail, hrun]
  rfl

/-- The oldest node of a ring that is not empty. -/
theorem last_of_contents {xs : List Nat} {f : Nat → Option D} (h : d :: ds = (xs.map f).reverse) :
    ∃ ys y, xs = ys ++ [y] ∧ f y = d ∧ ds = (ys.map f).reverse := by
  obtain rfl | ⟨ys, y, rfl⟩ := List.eq_nil_or_concat xs
  · cases h
  · rw [List.concat_eq_append, List.map_append, List.reverse_append] at h
    obtain ⟨hd, hds⟩ := List.cons.inj h
    exact ⟨ys, y, List.concat_eq_append, hd.symm, hds⟩

theorem Contents.unlinkTail (h : q.Contents (d :: ds)) :
    ∃ heap, q.unlinkTail = some (q.withRing heap (q.queueSize - 1), d) ∧
      (q.withRing heap (q.queueSize - 1)).Contents ds := by
  obtain ⟨xs, hr, hds⟩ := h
  obtain ⟨ys, y, rfl, rfl, rfl⟩ := last_of_contents hds
  obtain ⟨heap, hrun, hring, hdata, -⟩ := unlinkTail_ring hr
  exact ⟨heap, hrun, ys, hring, congrArg (fun f => (ys.map f).reverse) hdata.symm⟩

/-- Trimming frees the oldest and leaves the others. -/
theorem Contents.trim {front : List (Option D)} (h : q.Contents (front ++ ds)) :
    ∃ heap, trim front.length q = some (q.withRing heap (q.queueSize - front.length), front) ∧
      (q.withRing heap (q.queueSize - front.length)).Contents ds := by
  induction front generalizing q with
  | nil =>
    refine ⟨q.heap, ?_, ?_⟩
    · rw [List.length_nil, Int.natCast_zero, Int.sub_zero]
      rfl
    · rw [List.length_nil, Int.natCast_zero, Int.sub_zero]
      exact h
  | cons d front ih =>
    obtain ⟨heap, hrun, hnext⟩ := h.unlinkTail
    obtain ⟨heap', hrest, hcont⟩ := ih hnext
    have hsize : (q.withRing heap (q.queueSize - 1)).queueSize - front.length =
        q.queueSize - (d :: front).length := by
      simp only [withRing, List.length_cons]
      omega
    rw [hsize, withRing_withRing] at hrest hcont
    refine ⟨heap', ?_, hcont⟩
    rw [List.length_cons, AVQueue.trim, hrun, Option.bind_eq_bind, Option.bind_some]
    dsimp only
    rw [hrest]
    rfl

/-- Beside its contents the heap has an allocated node `n` with data `d`, not linked in yet. -/
structure Spare (q : AVQueue D) (n : Nat) (d : Option D) (ds : List (Option D)) : Prop where
  ring : ∃ xs, Ring q.heap q.headNode xs ∧ n ∉ q.headNode :: xs ∧ ds = (xs.map q.heap.data).reverse
  live : q.heap.live n = true
  data : q.heap.data n = d

theorem Contents.spare (h : q.Contents ds) (hn : q.heap.live n = false) :
    Spare { q with heap := q.heap.alloc n d } n d ds := by
  obtain ⟨xs, hr, hds⟩ := h
  have hmem := Ring.notMem_of_dead hr.toForward hn
  have hmap : xs.map (q.heap.alloc n d).data = xs.map q.heap.data := by
    refine List.map_congr_left fun a ha => ?_
    have hne : a ≠ n := by
      intro heq
      exact hmem (heq ▸ List.mem_cons_of_mem _ ha)
    simp only [Heap.alloc, Function.update_of_ne hne]
  refine ⟨⟨xs, hr.alloc hn, hmem, ?_⟩, Function.update_self .., Function.update_self ..⟩
  rw [hds]
  exact congrArg List.reverse hmap.symm

theorem Spare.unlinkTail {e : Option D} (h : q.Spare n d (e :: ds)) :
    ∃ heap, q.unlinkTail = some (q.withRing heap (q.queueSize - 1), e) ∧
      (q.withRing heap (q.queueSize - 1)).Spare n d ds := by
  obtain ⟨xs, hr, hmem, hds⟩ := h.ring
  obtain ⟨ys, y, rfl, rfl, rfl⟩ := last_of_contents hds
  obtain ⟨heap, hrun, hring, hdata, hlive⟩ := unlinkTail_ring hr
  have hne : n ≠ y := by
    rintro rfl
    exact hmem (by simp)
  refine ⟨heap, hrun, ⟨ys, hring, ?_, ?_⟩, ?_, ?_⟩
  · intro hin
    obtain heq | hin := List.mem_cons.mp hin
    · exact hmem (by simp [show n = q.headNode from heq])
    · exact hmem (by simp [hin])
  · exact congrArg (fun f => (ys.map f).reverse) hdata.symm
  · simp only [withRing, hlive, Function.update_of_ne hne]
    exact h.live
  · simp only [withRing, hdata]
    exact h.data

/-- Linked in, the node is the newest. -/
theorem Spare.link (h : q.Spare n d ds) (k : Int) :
    ∃ heap, q.heap.linkAfter q.headNode n = some heap ∧ (q.withRing heap k).Contents (ds ++ [d]) := by
  obtain ⟨xs, hr, hmem, hds⟩ := h.ring
  obtain ⟨heap, hrun, hring, -, hdata⟩ := hr.linkAfter hmem h.live
  refine ⟨heap, hrun, n :: xs, hring, ?_⟩
  simp only [withRing, hdata]
  rw [List.map_cons, List.reverse_cons, h.data, hds]

/-- The loop of an abort takes the nodes from the newest on. -/
theorem abortLoop_forward {xs : List Nat} (hr : Forward q.heap q.headNode xs) :
    ∃ heap, abortLoop xs.length q = some (q.withRing heap (q.queueSize - xs.length),
        xs.map q.heap.data) ∧ Forward heap q.headNode [] := by
  induction xs generalizing q with
  | nil =>
    refine ⟨q.heap, ?_, hr⟩
    rw [List.length_nil, Int.natCast_zero, Int.sub_zero]
    rfl
  | cons x xs ih =>
    obtain ⟨heap, hrun, hforward, hdata⟩ := hr.unlinkAfter
    obtain ⟨heap', hrest, hdone⟩ := @ih (q.withRing heap (q.queueSize - 1)) hforward
    have hsize : (q.withRing heap (q.queueSize - 1)).queueSize - xs.length =
        q.queueSize - (x :: xs).length := by
      simp only [withRing, List.length_cons]
      omega
    rw [hsize, withRing_withRing] at hrest
    refine ⟨heap', ?_, hdone⟩
    rw [List.length_cons, abortLoop, hrun, Option.bind_eq_bind, Option.bind_some]
    dsimp only
    have hrest' : abortLoop xs.length { q with heap := heap, queueSize := q.queueSize - 1 } =
        some (q.withRing heap' (q.queueSize - (x :: xs).length), xs.map heap.data) := hrest
    rw [hrest', hdata]
    rfl

theorem Contents.abort (h : q.Contents ds) (hsize : q.queueSize = ds.length) :
    ∃ heap, q.avQueueAbort = some (q.withRing heap 0, ds.reverse) ∧
      (q.withRing heap 0).Contents [] := by
  obtain ⟨xs, hr, rfl⟩ := h
  rw [List.length_reverse, List.length_map] at hsize
  obtain ⟨heap, hrun, hforward⟩ := abortLoop_forward hr.toForward
  obtain ⟨heap', hclose, hring, -, -⟩ := Ring.close (hforward.live q.headNode (by simp))
  have hcount : q.queueSize.toNat = xs.length := by omega
  have hzero : q.queueSize - xs.length = 0 := by omega
  rw [hzero] at hrun
  refine ⟨heap', ?_, [], hring, rfl⟩
  rw [avQueueAbort, hcount, hrun, Option.bind_eq_bind, Option.bind_some]
  dsimp only
  have hclose' : (q.withRing heap 0).heap.close (q.withRing heap 0).headNode = some heap' := hclose
  rw [hclose', List.reverse_reverse]
  rfl

/-- What the settings of a queue say as a bounded queue. -/
def limits (q : AVQueue D) : Limits where
  capacity := if q.type = .realtime then some q.maxSize.toNat else none
  keep := q.delay.toNat

/-- The queue holds the elements of `f`, and the size says how many. -/
structure Refines (q : AVQueue D) (f : Fifo (Option D)) : Prop where
  contents : q.Contents f.items
  size : q.queueSize = f.items.length
  overflow : q.overflow = f.overflow

/-- The settings never change. -/
structure SameSetup (q q' : AVQueue D) : Prop where
  type : q'.type = q.type
  maxSize : q'.maxSize = q.maxSize
  delay : q'.delay = q.delay

theorem SameSetup.limits (h : SameSetup q q') : q'.limits = q.limits := by
  rw [AVQueue.limits, AVQueue.limits, h.type, h.maxSize, h.delay]

section Refinement

variable {f : Fifo (Option D)}

theorem full_iff (h : q.Refines f) :
    f.Full q.limits ↔ q.type = .realtime ∧ q.maxSize ≤ q.queueSize := by
  rw [h.size]
  constructor
  · rintro ⟨c, hc, hle⟩
    simp only [AVQueue.limits] at hc
    split at hc
    · next htype =>
      obtain rfl := Option.some.inj hc
      exact ⟨htype, by omega⟩
    · cases hc
  · rintro ⟨htype, hle⟩
    exact ⟨q.maxSize.toNat, if_pos htype, by omega⟩

/-- A push, when a realtime queue has room for one element at all. -/
theorem push_refines (h : q.Refines f) (hn : q.heap.live n = false)
    (hmax : q.type = .realtime → 0 < q.maxSize) :
    ∃ q', q.avQueuePushHead (some n) d = some (q', (f.push q.limits d).2) ∧
      q'.Refines (f.push q.limits d).1 ∧ SameSetup q q' := by
  have hspare := h.contents.spare (d := d) hn
  by_cases hfull : f.Full q.limits
  · obtain ⟨htype, hle⟩ := (full_iff h).mp hfull
    have hpos := hmax htype
    have hsize := h.size
    cases hitems : f.items with
    | nil =>
      rw [hitems, List.length_nil] at hsize
      omega
    | cons y ys =>
      rw [hitems] at hspare
      have hfreed : Spare { q with heap := q.heap.alloc n d, overflow := true } n d (y :: ys) :=
        ⟨hspare.ring, hspare.live, hspare.data⟩
      obtain ⟨heap, hrun, hrest⟩ := hfreed.unlinkTail
      obtain ⟨heap', hlink, hcont⟩ := hrest.link q.queueSize
      rw [Fifo.push_of_full hfull hitems]
      refine ⟨{ q with heap := heap', overflow := true }, ?_, ⟨hcont, ?_, rfl⟩, rfl, rfl, rfl⟩
      · have hmake : makeRoom { q with heap := q.heap.alloc n d } =
            some ({ q with heap := heap, queueSize := q.queueSize - 1, overflow := true }, [y]) := by
          rw [makeRoom, if_pos ⟨htype, hle⟩, hrun]
          rfl
        have hlink' : heap.linkAfter q.headNode n = some heap' := hlink
        have hsame : q.queueSize - 1 + 1 = q.queueSize := Int.sub_add_cancel ..
        simp only [avQueuePushHead, hmake, Option.bind_eq_bind, Option.bind_some, hlink', hsame,
          Option.pure_def]
      · rw [hitems] at hsize
        simp only [hsize, List.length_append, List.length_cons, List.length_nil]
  · have hroom : ¬ (q.type = .realtime ∧ q.maxSize ≤ q.queueSize) :=
      fun hc => hfull ((full_iff h).mpr hc)
    obtain ⟨heap', hlink, hcont⟩ := hspare.link (q.queueSize + 1)
    rw [Fifo.push_of_room hfull]
    refine ⟨_, ?_, ⟨hcont, ?_, h.overflow⟩, rfl, rfl, rfl⟩
    · have hmake : makeRoom { q with heap := q.heap.alloc n d } = some (_, []) := if_neg hroom
      simp only [avQueuePushHead, hmake, Option.bind_eq_bind, Option.bind_some, hlink, withRing,
        Option.pure_def]
    · simp only [withRing, h.size, List.length_append, List.length_singleton]
      rfl

/-- A pop, when some element outlives the trimming. -/
theorem pop_refines (h : q.Refines f) (hdelay : q.overflow = true → 0 < q.queueSize → 0 < q.delay) :
    ∃ q', q.avQueuePopTail = some (q', (f.pop q.limits).2) ∧ q'.Refines (f.pop q.limits).1 ∧
      SameSetup q q' := by
  have hsize := h.size
  by_cases hnil : f.items = []
  · rw [Fifo.pop_of_nil hnil]
    rw [hnil, List.length_nil] at hsize
    refine ⟨q, ?_, h, rfl, rfl, rfl⟩
    rw [avQueuePopTail, if_neg (by omega)]
  · have hpos : 0 < q.queueSize := by
      have hlen := List.length_pos_iff.mpr hnil
      omega
    have hlt : (if f.overflow then f.items.length - q.limits.keep else 0) < f.items.length := by
      have hkeep : q.limits.keep = q.delay.toNat := rfl
      cases hflag : f.overflow with
      | true =>
        have hd := hdelay (h.overflow.trans hflag) hpos
        rw [if_pos rfl]
        omega
      | false =>
        rw [if_neg Bool.false_ne_true]
        omega
    obtain ⟨out, y, rest, hitems, hout⟩ := Fifo.split_of_lt hlt
    rw [Fifo.pop_of_items hitems hout]
    have hcont := h.contents
    rw [hitems] at hcont
    obtain ⟨heap, htrim, hleft⟩ := hcont.trim
    -- the flag is down after the trimming, whether it was up or not
    have hsettle : q.trimToDelay = some ({ q with
        heap := heap, queueSize := q.queueSize - out.length, overflow := false }, out) := by
      rw [trimToDelay]
      cases hflag : q.overflow with
      | true =>
        have hd := hdelay hflag hpos
        have hkeep : q.limits.keep = q.delay.toNat := rfl
        rw [← h.overflow, hflag, if_pos rfl] at hout
        have hcount : (q.queueSize - q.delay).toNat = out.length := by omega
        rw [if_pos rfl, hcount, htrim]
        rfl
      | false =>
        rw [← h.overflow, hflag, if_neg Bool.false_ne_true] at hout
        obtain rfl := List.length_eq_zero_iff.mp hout
        have hheap : q.heap = heap := congrArg (fun r => r.1.heap) (Option.some.inj htrim)
        rw [if_neg Bool.false_ne_true, ← hheap, ← hflag, List.length_nil, Int.natCast_zero,
          Int.sub_zero]
    have hleft' : Contents { q with
        heap := heap, queueSize := q.queueSize - out.length, overflow := false } (y :: rest) := hleft
    obtain ⟨heap', htail, hrest⟩ := hleft'.unlinkTail
    refine ⟨{ q with heap := heap', queueSize := q.queueSize - out.length - 1, overflow := false },
      ?_, ⟨hrest, ?_, rfl⟩, rfl, rfl, rfl⟩
    · rw [avQueuePopTail, if_pos hpos, hsettle, Option.bind_eq_bind, Option.bind_some]
      dsimp only
      rw [htail]
      rfl
    · have hlen : f.items.length = out.length + (rest.length + 1) := by
        rw [hitems, List.length_append, List.length_cons]
      simp only
      omega

theorem abort_refines (h : q.Refines f) :
    ∃ q', q.avQueueAbort = some (q', f.clear.2) ∧ q'.Refines f.clear.1 ∧ SameSetup q q' := by
  obtain ⟨heap, hrun, hcont⟩ := h.contents.abort h.size
  exact ⟨_, hrun, ⟨hcont, rfl, h.overflow⟩, rfl, rfl, rfl⟩

theorem init_refines {heap : Heap (Option D)} {queueType : QueueType} {queueSize delayCount : Int}
    {node : Option Nat} (h : avQueueInit heap queueType queueSize delayCount node = some q) :
    q.Refines ⟨[], false⟩ ∧ q.type = queueType ∧ (q.type = .realtime →
      q.maxSize = queueSize ∧ q.delay = delayCount ∧ delayCount ≤ queueSize) := by
  simp only [avQueueInit, Option.bind_eq_bind] at h
  split at h
  · cases h
  · split at h
    · cases h
    · next hdelay =>
      simp only [Option.pure_def, Option.bind_eq_some_iff] at h
      obtain ⟨headNode, -, heap', hclose, h⟩ := h
      obtain rfl := Option.some.inj h
      obtain ⟨heap'', hclose', hring, -, -⟩ :=
        Ring.close (h := heap.alloc headNode none) (s := headNode) (Function.update_self ..)
      obtain rfl : heap'' = heap' := Option.some.inj (hclose'.symm.trans hclose)
      refine ⟨⟨⟨[], hring, rfl⟩, rfl, rfl⟩, rfl, fun htype => ?_⟩
      have htype' : queueType = .realtime := htype
      refine ⟨if_pos htype', if_pos htype', ?_⟩
      exact Int.not_lt.mp fun hlt => hdelay ⟨htype', hlt⟩

end Refinement

end AVQueue

open AVQueue

/-- The ring is well formed with the sentinel in it, and the size is the number of data nodes, or -1
while there are none. -/
def WellFormed (q : AVQueue D) : Prop :=
  ∃ xs, Ring q.heap q.headNode xs ∧ (q.queueSize = xs.length ∨ xs = [] ∧ q.queueSize = -1)

/-- A push does not meet the marker of a wake, nor a realtime queue without room for one element; a
pop that trims keeps one. -/
def Safe (q : AVQueue D) : Op D → Prop
  | .push (some _) _ => q.queueSize ≠ -1 ∧ (q.type = .realtime → 0 < q.maxSize)
  | .pop => q.overflow = true → 0 < q.queueSize → 0 < q.delay
  | _ => True

instance {q : AVQueue D} : (op : Op D) → Decidable (Fresh q op ∧ Safe q op)
  | .push (some node) _ => inferInstanceAs (Decidable (q.heap.live node = false ∧
      q.queueSize ≠ -1 ∧ (q.type = .realtime → 0 < q.maxSize)))
  | .push none _ => .isTrue ⟨trivial, trivial⟩
  | .pop => inferInstanceAs (Decidable (True ∧ (q.overflow = true → 0 < q.queueSize → 0 < q.delay)))
  | .wake => .isTrue ⟨trivial, trivial⟩
  | .abort _ => .isTrue ⟨trivial, trivial⟩
  | .size => .isTrue ⟨trivial, trivial⟩

theorem AVQueue.Refines.wellFormed {f : Fifo (Option D)} (h : q.Refines f) : WellFormed q := by
  obtain ⟨xs, hr, hds⟩ := h.contents
  refine ⟨xs, hr, .inl ?_⟩
  rw [h.size, hds, List.length_reverse, List.length_map]

theorem WellFormed.cases (h : WellFormed q) :
    (∃ f, q.Refines f) ∨ Ring q.heap q.headNode [] ∧ q.queueSize = -1 := by
  obtain ⟨xs, hr, hsize | ⟨rfl, hsize⟩⟩ := h
  · refine .inl ⟨⟨(xs.map q.heap.data).reverse, q.overflow⟩, ⟨xs, hr, rfl⟩, ?_, rfl⟩
    rw [hsize, List.length_reverse, List.length_map]
  · exact .inr ⟨hr, hsize⟩

theorem wake_wellFormed (h : WellFormed q) : WellFormed q.avQueueWake := by
  obtain ⟨xs, hr, hsize⟩ := h
  unfold AVQueue.avQueueWake
  split
  · next hzero =>
    obtain hlen | ⟨-, hwoken⟩ := hsize
    · obtain rfl : xs = [] := List.length_eq_zero_iff.mp (by omega)
      exact ⟨[], hr, .inr ⟨rfl, rfl⟩⟩
    · omega
  · exact ⟨xs, hr, hsize⟩

/-- An abort of a woken queue finds nothing to take out. -/
theorem abort_of_woken (hr : Ring q.heap q.headNode []) (hsize : q.queueSize = -1) :
    ∃ q', step q (.abort b) = some q' ∧ WellFormed q' := by
  obtain ⟨heap, hclose, hring, -, -⟩ := Ring.close (hr.live q.headNode (by simp))
  refine ⟨{ q with heap := heap }, ?_, [], hring, .inr ⟨rfl, hsize⟩⟩
  have hloop : abortLoop q.queueSize.toNat q = some (q, []) := by
    rw [hsize]
    rfl
  rw [step, avQueueAbort, hloop, Option.bind_eq_bind, Option.bind_some]
  dsimp only
  rw [hclose]
  rfl

/-- One call keeps the structure, unless it is one of those that break it. -/
theorem step_wellFormed {op : Op D} (h : WellFormed q) (hfresh : Fresh q op) (hsafe : Safe q op) :
    ∃ q', step q op = some q' ∧ WellFormed q' := by
  cases op with
  | push node databuf =>
    cases node with
    | none => exact ⟨q, rfl, h⟩
    | some n =>
      obtain ⟨f, hf⟩ | ⟨-, hwoken⟩ := h.cases
      · obtain ⟨q', hrun, hf', -⟩ := push_refines (d := databuf) hf hfresh hsafe.2
        exact ⟨q', by rw [step, hrun]; rfl, hf'.wellFormed⟩
      · exact absurd hwoken hsafe.1
  | pop =>
    obtain ⟨f, hf⟩ | ⟨-, hwoken⟩ := h.cases
    · obtain ⟨q', hrun, hf', -⟩ := pop_refines hf hsafe
      exact ⟨q', by rw [step, hrun]; rfl, hf'.wellFormed⟩
    · refine ⟨q, ?_, h⟩
      rw [step, avQueuePopTail, if_neg (by omega)]
      rfl
  | wake => exact ⟨_, rfl, wake_wellFormed h⟩
  | abort func =>
    obtain ⟨f, hf⟩ | ⟨hr, hwoken⟩ := h.cases
    · obtain ⟨q', hrun, hf', -⟩ := abort_refines hf
      exact ⟨q', by rw [step, hrun]; rfl, hf'.wellFormed⟩
    · exact abort_of_woken hr hwoken
  | size => exact ⟨q, rfl, h⟩

/-- Every queue that is accepted keeps its structure over every sequence of calls, as long as no call
is one of those that break it. -/
theorem avQueue_keeps_structure {heap : Heap (Option D)} {queueType : QueueType}
    {queueSize delayCount : Int} {node : Option Nat} {ops : List (Op D)}
    (hinit : avQueueInit heap queueType queueSize delayCount node = some q)
    (hops : LTS.Meets step (fun q op => Fresh q op ∧ Safe q op) q ops) :
    ∃ q', LTS.run step q ops = some q' ∧ WellFormed q' := by
  have hstart : WellFormed q := (init_refines hinit).1.wellFormed
  exact LTS.run_refines (R := fun q (_ : Unit) => WellFormed q) (g := fun _ _ => ())
    (fun q _ op hq hop => step_wellFormed hq hop.1 hop.2) (x := ()) hops hstart

/-- A heap without blocks. -/
def emptyHeap : Heap (Option Unit) := ⟨fun _ => false, id, id, fun _ => none⟩

/-- A new queue whose sentinel is at 0. -/
def newQueue (queueType : QueueType) (maxSize delay : Int) : AVQueue Unit where
  heap := { emptyHeap.alloc 0 none with next := Function.update id 0 0, prev := Function.update id 0 0 }
  headNode := 0
  type := queueType
  maxSize := maxSize
  delay := delay
  queueSize := 0
  overflow := false

/-- An overflow, a pop that trims, and a wake of the empty queue. -/
theorem avQueue_keeps_structure_realtime :
    avQueueInit emptyHeap .realtime 2 1 (some 0) = some (newQueue .realtime 2 1) ∧
    ∃ q', LTS.run step (newQueue .realtime 2 1) [.push (some 1) (some ()), .push (some 2) (some ()),
      .push (some 3) (some ()), .pop, .wake, .pop, .abort true] = some q' ∧ WellFormed q' := by
  have hinit : avQueueInit emptyHeap .realtime 2 1 (some 0) = some (newQueue .realtime 2 1) := rfl
  exact ⟨hinit, avQueue_keeps_structure hinit (by decide)⟩

/-- An empty ring has its sentinel linked to itself. -/
theorem next_of_wellFormed (h : WellFormed q) (hsize : q.queueSize = 0) :
    q.heap.next q.headNode = q.headNode := by
  obtain ⟨xs, hr, hlen | ⟨-, hwoken⟩⟩ := h
  · obtain rfl : xs = [] := List.length_eq_zero_iff.mp (by omega)
    exact hr.next
  · omega

/-- Woken and then pushed to, a queue has a node and says that it has none. -/
theorem push_after_wake_miscounts : ∃ q',
    avQueueInit emptyHeap .complete 0 0 (some 0) = some (newQueue .complete 0 0) ∧
    LTS.run step (newQueue .complete 0 0) [.wake, .push (some 1) (some ())] = some q' ∧
    ¬ WellFormed q' := by
  refine ⟨_, rfl, rfl, fun h => ?_⟩
  have hnext := next_of_wellFormed h (by decide)
  exact absurd hnext (by decide)

end QmmfSdk.Queue
