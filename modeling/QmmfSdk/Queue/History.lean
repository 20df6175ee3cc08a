import QmmfSdk.Queue.Structure

/-! What becomes of the elements of an `AVQueue` over whole runs. -/
namespace QmmfSdk.Queue

open Library AVQueue

variable {D : Type}

/-- The elements by what happened to them, in the order in which it did. -/
structure History (D : Type) where
  pushed : List (Option D) := []
  popped : List (Option D) := []
  /-- By a push to a full queue or by the trimming of a pop. -/
  freed : List (Option D) := []
  /-- To the callback of an abort. -/
  handed : List (Option D) := []
  /-- By an abort without a callback, or as a null pointer. -/
  dropped : List (Option D) := []
  /-- An element was freed for another since the last pop that returned one. -/
  overflowed : Bool := false

/-- A call, written down. -/
def record (s : AVQueue D × History D) : Op D → Option (AVQueue D × History D)
  | .push node databuf =>
    (s.1.avQueuePushHead node databuf).map fun (q, freed) =>
      (q, if node.isSome then
        { s.2 with
          pushed := s.2.pushed ++ [databuf]
          freed := s.2.freed ++ freed
          overflowed := s.2.overflowed || !freed.isEmpty }
        else s.2)
  | .pop =>
    s.1.avQueuePopTail.map fun (q, data, freed) =>
      (q, { s.2 with
        popped := s.2.popped ++ data.toList
        freed := s.2.freed ++ freed
        overflowed := s.2.overflowed && data.isNone })
  | .abort func =>
    s.1.avQueueAbort.map fun (q, gone) =>
      (q, { s.2 with
        handed := s.2.handed ++ gone.filter fun d => func && d.isSome
        dropped := s.2.dropped ++ gone.filter fun d => !(func && d.isSome) })
  | .wake => some (s.1.avQueueWake, s.2)
  | .size => some s

variable {q : AVQueue D} {s : AVQueue D × History D} {l : Limits}

/-- The run so far as one of a bounded queue. -/
structure Books (l : Limits) (s : AVQueue D × History D) (f : Fifo (Option D))
    (b : Fifo.Ledger (Option D)) : Prop where
  queue : s.1.Refines f
  limits : s.1.limits = l
  accounted : Fifo.Accounted l (f, b)
  pushed : s.2.pushed = b.pushed
  popped : s.2.popped = b.popped
  freed : s.2.freed = b.dropped
  aborted : b.cleared.Perm (s.2.handed ++ s.2.dropped)
  overflowed : s.2.overflowed = b.pressed

variable {f : Fifo (Option D)} {b : Fifo.Ledger (Option D)}

/-- Sound limits are those of a queue that no push and no pop breaks. -/
theorem maxSize_pos (hl : q.limits.Sound) : q.type = .realtime → 0 < q.maxSize := by
  intro htype
  have h := hl q.maxSize.toNat (if_pos htype)
  omega

theorem Books.delay_pos (hl : l.Sound) (h : Books l s f b) :
    s.1.overflow = true → 0 < s.1.queueSize → 0 < s.1.delay := by
  intro hov _
  have hkeep : s.1.limits.keep = s.1.delay.toNat := rfl
  rw [h.limits] at hkeep
  cases hc : l.capacity with
  | none =>
    have hflag : f.overflow = false := (h.accounted.unbounded hc).2
    rw [h.queue.overflow, hflag] at hov
    cases hov
  | some c =>
    have hs := hl c hc
    omega

theorem Books.push (hl : l.Sound) (h : Books l s f b) {n : Nat} {d : Option D}
    (hn : s.1.heap.live n = false) : ∃ s' f' b', record s (.push (some n) d) = some s' ∧
      Books l s' f' b' := by
  obtain ⟨q', hrun, href, hsetup⟩ :=
    push_refines (d := d) h.queue hn (maxSize_pos (by rw [h.limits]; exact hl))
  rw [h.limits] at hrun href
  have hrec : record s (.push (some n) d) = some (q', { s.2 with
      pushed := s.2.pushed ++ [d]
      freed := s.2.freed ++ (f.push l d).2
      overflowed := s.2.overflowed || !(f.push l d).2.isEmpty }) := by
    rw [record, hrun]
    rfl
  refine ⟨_, _, _, hrec, href, hsetup.limits.trans h.limits,
    Fifo.Accounted.push hl h.accounted, ?_, h.popped, ?_, h.aborted, ?_⟩
  · exact congrArg (· ++ [d]) h.pushed
  · exact congrArg (· ++ (f.push l d).2) h.freed
  · exact congrArg (· || !(f.push l d).2.isEmpty) h.overflowed

theorem Books.pop (hl : l.Sound) (h : Books l s f b) : ∃ s' f' b', record s .pop = some s' ∧
    Books l s' f' b' := by
  obtain ⟨q', hrun, href, hsetup⟩ := pop_refines h.queue (h.delay_pos hl)
  rw [h.limits] at hrun href
  have hrec : record s .pop = some (q', { s.2 with
      popped := s.2.popped ++ (f.pop l).2.1.toList
      freed := s.2.freed ++ (f.pop l).2.2
      overflowed := s.2.overflowed && (f.pop l).2.1.isNone }) := by
    rw [record, hrun]
    rfl
  refine ⟨_, _, _, hrec, href, hsetup.limits.trans h.limits,
    Fifo.Accounted.pop hl h.accounted, h.pushed, ?_, ?_, h.aborted, ?_⟩
  · exact congrArg (· ++ (f.pop l).2.1.toList) h.popped
  · exact congrArg (· ++ (f.pop l).2.2) h.freed
  · exact congrArg (· && (f.pop l).2.1.isNone) h.overflowed

theorem Books.abort (h : Books l s f b) (func : Bool) :
    ∃ s' f' b', record s (.abort func) = some s' ∧ Books l s' f' b' := by
  obtain ⟨q', hrun, href, hsetup⟩ := abort_refines h.queue
  have hrec : record s (.abort func) = some (q', { s.2 with
      handed := s.2.handed ++ f.clear.2.filter fun d => func && d.isSome
      dropped := s.2.dropped ++ f.clear.2.filter fun d => !(func && d.isSome) }) := by
    rw [record, hrun]
    rfl
  refine ⟨_, _, _, hrec, href, hsetup.limits.trans h.limits,
    Fifo.Accounted.clear h.accounted, h.pushed, h.popped, h.freed, ?_, h.overflowed⟩
  have hsplit := List.filter_append_perm (fun d : Option D => func && d.isSome) f.clear.2
  have hold := h.aborted
  simp only
  rw [← Multiset.coe_eq_coe] at hsplit hold ⊢
  simp only [← Multiset.coe_add] at hsplit hold ⊢
  rw [hold, show f.items.reverse = f.clear.2 from rfl, ← hsplit]
  ac_rfl

/-- The calls of a run without a wake. -/
def Calls (s : AVQueue D × History D) (op : Op D) : Prop := Fresh s.1 op ∧ op ≠ .wake

instance {s : AVQueue D × History D} : (op : Op D) → Decidable (Calls s op)
  | .push (some node) _ => decidable_of_iff (s.1.heap.live node = false) (by simp [Calls, Fresh])
  | .push none _ => .isTrue ⟨trivial, nofun⟩
  | .pop => .isTrue ⟨trivial, nofun⟩
  | .wake => .isFalse fun h => h.2 rfl
  | .abort _ => .isTrue ⟨trivial, nofun⟩
  | .size => .isTrue ⟨trivial, nofun⟩

theorem Books.record {op : Op D} (hl : l.Sound) (h : Books l s f b) (hop : Calls s op) :
    ∃ s' f' b', record s op = some s' ∧ Books l s' f' b' := by
  cases op with
  | push node databuf =>
    cases node with
    | none => exact ⟨s, f, b, rfl, h⟩
    | some n => exact h.push hl hop.1
  | pop => exact h.pop hl
  | wake => exact absurd rfl hop.2
  | abort func => exact h.abort func
  | size => exact ⟨s, f, b, rfl, h⟩

theorem books_of_run {ops : List (Op D)} (hl : l.Sound) (h : Books l s f b)
    (hops : LTS.Meets Queue.record Calls s ops) :
    ∃ s', LTS.run Queue.record s ops = some s' ∧ ∃ f' b', Books l s' f' b' :=
  LTS.run_refines (R := fun s (_ : Unit) => ∃ f b, Books l s f b) (g := fun _ _ => ())
    (fun s _ op ⟨f, b, hs⟩ hop => by
      obtain ⟨s', f', b', hrun, hs'⟩ := hs.record hl hop
      exact ⟨s', hrun, f', b', hs'⟩) (x := ()) hops ⟨f, b, h⟩

/-- A queue that is not realtime, or one that keeps an element. -/
theorem books_init {heap : Heap (Option D)} {queueType : QueueType} {queueSize delayCount : Int}
    {node : Option Nat} (h : avQueueInit heap queueType queueSize delayCount node = some q)
    (hdelay : queueType = .realtime → 1 ≤ delayCount) :
    q.limits.Sound ∧ Books q.limits (q, {}) ⟨[], false⟩ {} := by
  obtain ⟨href, htype, hset⟩ := init_refines h
  refine ⟨?_, href, rfl, Fifo.accounted_init, rfl, rfl, rfl, .nil, rfl⟩
  intro c hc
  simp only [AVQueue.limits] at hc ⊢
  split at hc
  · next hreal =>
    obtain rfl := Option.some.inj hc
    obtain ⟨hmax, hdel, hle⟩ := hset hreal
    have hone := hdelay (htype.symm.trans hreal)
    omega
  · cases hc

/-- A pop after an overflow: what it leaves is the newest, and less than the delay. -/
def LeavesNewest (s : AVQueue D × History D) (delay : Int) : Prop :=
  ∃ q' data freed left, s.1.avQueuePopTail = some (q', data, freed) ∧ q'.Contents left ∧
    (left.length : Int) ≤ delay - 1 ∧ left <:+ s.2.pushed

theorem Books.leavesNewest (hl : l.Sound) (h : Books l s f b) (hov : s.2.overflowed = true)
    (hne : f.items ≠ []) : LeavesNewest s s.1.delay := by
  have hflag : f.overflow = true := h.accounted.flag.trans (h.overflowed.symm.trans hov)
  obtain ⟨q', hrun, href, -⟩ := pop_refines h.queue (h.delay_pos hl)
  have hpos : 0 < s.1.delay := by
    refine h.delay_pos hl (h.queue.overflow.trans hflag) ?_
    have hlen := List.length_pos_iff.mpr hne
    have hsize := h.queue.size
    omega
  rw [h.limits] at hrun href
  obtain ⟨hleft, hnew⟩ := Fifo.pop_of_overflow hl h.accounted hflag hne
  have hkeep : s.1.limits.keep = s.1.delay.toNat := rfl
  rw [h.limits] at hkeep
  refine ⟨q', _, _, _, hrun, href.contents, ?_, ?_⟩
  · omega
  · rw [h.pushed]
    exact hnew

/-- Over every run without a wake: pops give the elements in the order of the pushes; every push is
accounted for exactly once; the bound holds; only a realtime queue frees; and a pop after an overflow
leaves the newest, fewer than the delay. -/
theorem avQueue_loses_nothing {heap : Heap (Option D)} {queueType : QueueType}
    {queueSize delayCount : Int} {node : Option Nat} {ops : List (Op D)}
    (hinit : avQueueInit heap queueType queueSize delayCount node = some q)
    (hdelay : queueType = .realtime → 1 ≤ delayCount)
    (hops : LTS.Meets Queue.record Calls (q, {}) ops) :
    ∃ s queued, LTS.run Queue.record (q, {}) ops = some s ∧ s.1.Contents queued ∧
      s.2.popped.Sublist s.2.pushed ∧
      s.2.pushed.Perm (s.2.popped ++ (s.2.freed ++ (s.2.handed ++ (s.2.dropped ++ queued)))) ∧
      (queueType = .realtime → (queued.length : Int) ≤ queueSize) ∧
      (queueType ≠ .realtime → s.2.freed = []) ∧
      (s.2.overflowed = true → queued ≠ [] → LeavesNewest s delayCount) := by
  obtain ⟨hl, hbooks⟩ := books_init hinit hdelay
  obtain ⟨-, htype, hset⟩ := init_refines hinit
  obtain ⟨s, hrun, f, b, h⟩ := books_of_run hl hbooks hops
  obtain ⟨gone, hpushed, hsub, hperm⟩ := h.accounted.split
  refine ⟨s, f.items, hrun, h.queue.contents, ?_, ?_, ?_, ?_, ?_⟩
  · rw [h.pushed, h.popped, hpushed]
    exact hsub.trans (List.sublist_append_left _ _)
  · have haborted := h.aborted
    rw [h.pushed, h.popped, h.freed, hpushed]
    rw [← Multiset.coe_eq_coe] at hperm haborted ⊢
    simp only [← Multiset.coe_add] at hperm haborted ⊢
    rw [hperm, haborted]
    ac_rfl
  · intro hreal
    obtain ⟨hmax, -, hlt⟩ := hset (htype.trans hreal)
    have hle : f.items.length ≤ q.maxSize.toNat :=
      h.accounted.bounded _ (if_pos (htype.trans hreal))
    have hone := hdelay hreal
    omega
  · intro hreal
    rw [h.freed]
    exact (h.accounted.unbounded (if_neg fun hr => hreal (htype.symm.trans hr))).1
  · intro hov hne
    by_cases hreal : queueType = .realtime
    · obtain ⟨-, hdel, -⟩ := hset (htype.trans hreal)
      have hkeep : s.1.delay.toNat = q.delay.toNat := congrArg Limits.keep h.limits
      have hone := hdelay hreal
      obtain hsame : s.1.delay = delayCount := by omega
      rw [← hsame]
      exact h.leavesNewest hl hov hne
    -- a queue that is not realtime never overflows
    · have hfree : q.limits.capacity = none := if_neg fun hr => hreal (htype.symm.trans hr)
      have hflag : f.overflow = false := (h.accounted.unbounded hfree).2
      have hpressed : f.overflow = b.pressed := h.accounted.flag
      rw [h.overflowed, ← hpressed, hflag] at hov
      cases hov

/-- A realtime queue of two with a delay of one: the third push frees the first element, the pop
returns the third and frees the second. -/
theorem avQueue_loses_nothing_realtime : ∃ s queued,
    LTS.run Queue.record (newQueue .realtime 2 1, {}) [.push (some 1) (some ()),
      .push (some 2) (some ()), .push (some 3) (some ()), .pop, .push (some 1) (some ()),
      .abort true] = some s ∧ s.1.Contents queued ∧
    s.2.pushed.Perm (s.2.popped ++ (s.2.freed ++ (s.2.handed ++ (s.2.dropped ++ queued)))) := by
  have hinit : avQueueInit emptyHeap .realtime 2 1 (some 0) = some (newQueue .realtime 2 1) := rfl
  have hops : LTS.Meets Queue.record Calls (newQueue .realtime 2 1, {}) [.push (some 1) (some ()),
      .push (some 2) (some ()), .push (some 3) (some ()), .pop, .push (some 1) (some ()),
      .abort true] := by
    decide
  obtain ⟨s, queued, hrun, hcont, -, hperm, -⟩ := avQueue_loses_nothing hinit (by decide) hops
  exact ⟨s, queued, hrun, hcont, hperm⟩

/-- A sentinel that is linked to itself has no other node in its ring. -/
theorem contents_nil {queued : List (Option D)} (h : q.Contents queued)
    (hnext : q.heap.next q.headNode = q.headNode) : queued = [] := by
  obtain ⟨xs, hr, hds⟩ := h
  cases xs with
  | nil => exact hds
  | cons x xs =>
    have hx : q.heap.next q.headNode = x := hr.next.1
    have hnd := (List.nodup_cons.mp hr.nodup).1
    exact absurd (by simp [← hx, hnext]) hnd

/-- An abort without a callback: the element is not handed to anyone. -/
theorem abort_without_callback_drops : ∃ s,
    LTS.run Queue.record (newQueue .complete 0 0, {}) [.push (some 1) (some ()), .abort false] =
      some s ∧
    ¬ ∃ queued, s.1.Contents queued ∧
      s.2.pushed.Perm (s.2.popped ++ (s.2.freed ++ (s.2.handed ++ queued))) := by
  refine ⟨_, rfl, ?_⟩
  rintro ⟨queued, hcont, hperm⟩
  obtain rfl := contents_nil hcont (by decide)
  exact absurd hperm.length_eq (by decide)

end QmmfSdk.Queue
