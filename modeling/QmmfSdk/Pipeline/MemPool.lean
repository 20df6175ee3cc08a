import QmmfSdk.Library.Counter
import QmmfSdk.Pipeline.Rescaler

/-! `CameraRescalerMemPool`: what requests and returns of buffers answer, and whether the pool's count
agrees with its marks. -/
namespace QmmfSdk.Pipeline.RescalerMemPool

open Library Std

inductive Status where
  | noError
  | noMemory
  | badValue
  | invalidOperation
  deriving DecidableEq, Repr

def free (pool : RescalerMemPool) : Option (IBufferHandle × Bool) :=
  pool.memAllocBuffers.toList.find? (·.2)

/-- What `GetBufferLocked` returns. -/
def getBufferStatus (pool : RescalerMemPool) (ans : Answers) : Status :=
  match (pool.takeBuffer ans).1 with
  | some _ => if ans.populated then .noError else .badValue
  | none =>
    if pool.free = none ∧ pool.memAllocSlots.length < pool.bufferCnt.toNat then .noMemory
    else .invalidOperation

/-- What `ReturnBufferLocked` returns. -/
def returnBufferStatus (pool : RescalerMemPool) (handle : IBufferHandle) : Status :=
  if pool.pendingBufferCount = 0 then .invalidOperation
  else if handle ∉ pool.memAllocBuffers then .badValue
  else .noError

/-- The calls of the pool's users. -/
inductive Call where
  | getFreeOutputBuffer (ans : Answers)
  | returnBuffer (handle : IBufferHandle)

/-- `none` is a call that waits, or an allocator that gives out a buffer which it has not got back. -/
def step (pool : RescalerMemPool) : Call → Option RescalerMemPool
  | .getFreeOutputBuffer ans =>
    if ∃ handle ∈ ans.allocated, handle ∈ pool.memAllocBuffers then none
    else (pool.getFreeOutputBuffer ans).map Prod.snd
  | .returnBuffer handle => some (pool.returnBufferLocked handle)

/-- Without slots a request gets no buffer, and no error either. -/
def status (pool : RescalerMemPool) : Call → Status
  | .getFreeOutputBuffer ans => if !pool.allocSlots then .noError else pool.getBufferStatus ans
  | .returnBuffer handle => pool.returnBufferStatus handle

/-- The buffer that a call hands out. -/
def handed (pool : RescalerMemPool) : Call → Option IBufferHandle
  | .getFreeOutputBuffer ans =>
    if pool.allocSlots ∧ pool.getBufferStatus ans = .noError then (pool.takeBuffer ans).1 else none
  | .returnBuffer _ => none

def inUse (pool : RescalerMemPool) : Nat := OrdMap.sizeWhere pool.memAllocBuffers not

/-- A call that fails changes nothing, and what is handed out is not in use before and is after. -/
structure Sound (pool : RescalerMemPool) (call : Call) (next : RescalerMemPool) : Prop where
  failed : pool.status call ≠ .noError → next = pool
  handed : ∀ handle ∈ pool.handed call, pool.memAllocBuffers[handle]? ≠ some false ∧
    next.memAllocBuffers[handle]? = some false

/-- In a run of calls the count is that of the marks, and each call is sound. -/
def Accounts (pool : RescalerMemPool) (calls : List Call) : Prop :=
  ∀ before after t, calls = before ++ after → LTS.run step pool before = some t →
    t.pendingBufferCount.toNat = t.inUse ∧
    ∀ call ∈ after.head?, ∀ next, t.step call = some next → t.Sound call next

/-- A request that gets a buffer can tell its layout, and a known buffer that is returned while others
are out is out itself. -/
def Balanced (pool : RescalerMemPool) : Call → Prop
  | .getFreeOutputBuffer ans =>
    pool.allocSlots = false ∨ ans.populated = true ∨ ans.allocated = none ∧ pool.free = none
  | .returnBuffer handle =>
    pool.pendingBufferCount = 0 ∨ pool.memAllocBuffers[handle]? ≠ some true

instance (pool : RescalerMemPool) (call : Call) : Decidable (pool.Balanced call) :=
  match call with
  | .getFreeOutputBuffer ans => inferInstanceAs (Decidable (pool.allocSlots = false ∨
      ans.populated = true ∨ ans.allocated = none ∧ pool.free = none))
  | .returnBuffer handle => inferInstanceAs (Decidable (pool.pendingBufferCount = 0 ∨
      pool.memAllocBuffers[handle]? ≠ some true))

variable {pool next : RescalerMemPool} {ans : Answers} {handle : IBufferHandle} {call : Call}
  {slots : List IBufferHandle} {calls : List Call}

/-- Every buffer of the pool has its slot. -/
structure Laid (pool : RescalerMemPool) : Prop where
  slots : ∀ handle ∈ pool.memAllocBuffers, handle ∈ pool.memAllocSlots
  size : pool.memAllocBuffers.size = pool.memAllocSlots.length
  bound : pool.memAllocSlots.length ≤ pool.bufferCnt.toNat

/-- The pool with a buffer marked as taken. -/
def marked (pool : RescalerMemPool) (slots : List IBufferHandle) (handle : IBufferHandle) :
    RescalerMemPool :=
  { pool with memAllocSlots := slots, memAllocBuffers := pool.memAllocBuffers.insert handle false }

/-- All that taking a buffer can do. -/
inductive Takes (pool : RescalerMemPool) (ans : Answers) :
    Option IBufferHandle × RescalerMemPool → Prop where
  | unused {handle : IBufferHandle} (hfree : pool.memAllocBuffers[handle]? = some true) :
      Takes pool ans (some handle, pool.marked pool.memAllocSlots handle)
  | allocated {handle : IBufferHandle} (hfree : pool.free = none)
      (hroom : pool.memAllocSlots.length < pool.bufferCnt.toNat)
      (hnew : handle ∉ pool.memAllocBuffers) :
      Takes pool ans (some handle, pool.marked (pool.memAllocSlots ++ [handle]) handle)
  | failed (hfree : pool.free = none) (hans : ans.allocated = none) : Takes pool ans (none, pool)
  | full (hfree : pool.free = none)
      (hroom : ¬ pool.memAllocSlots.length < pool.bufferCnt.toNat) : Takes pool ans (none, pool)

theorem insertIfNew_of_new (hnew : handle ∉ pool.memAllocBuffers) :
    pool.memAllocBuffers.insertIfNew handle false = pool.memAllocBuffers.insert handle false := by
  apply ExtTreeMap.ext_getElem?
  intro k
  rw [OrdMap.getElem?_emplace, ExtTreeMap.getElem?_insert]
  by_cases hk : handle = k
  · subst hk
    simp [ExtTreeMap.getElem?_eq_none hnew]
  · simp [hk]

theorem takes_takeBuffer (hlaid : pool.Laid)
    (hnew : ∀ handle ∈ ans.allocated, handle ∉ pool.memAllocBuffers) :
    Takes pool ans (pool.takeBuffer ans) := by
  unfold takeBuffer
  split
  next handle free hfree =>
    have hmem : pool.memAllocBuffers[handle]? = some true := by
      have hfound := List.mem_of_find?_eq_some hfree
      have htrue : free = true := by simpa using List.find?_some hfree
      rwa [htrue, ExtTreeMap.mem_toList_iff_getElem?_eq_some] at hfound
    have hslot : handle ∈ pool.memAllocSlots :=
      hlaid.slots handle (ExtTreeMap.mem_iff_isSome_getElem?.mpr (by rw [hmem]; rfl))
    rw [if_pos hslot]
    exact .unused hmem
  next hfree =>
    split
    next hroom =>
      split
      next hans => exact .failed hfree hans
      next handle hans =>
        have hfresh := hnew handle hans
        rw [insertIfNew_of_new hfresh]
        exact .allocated hfree hroom hfresh
    next hroom => exact .full hfree hroom

/-- All that a call can do. -/
inductive Does (pool : RescalerMemPool) : Call → RescalerMemPool → Prop where
  | noSlots {ans : Answers} (h : pool.allocSlots = false) :
      Does pool (.getFreeOutputBuffer ans) pool
  | failed {ans : Answers} (hfree : pool.free = none) (hans : ans.allocated = none)
      (hhanded : pool.handed (.getFreeOutputBuffer ans) = none) :
      Does pool (.getFreeOutputBuffer ans) pool
  | full {ans : Answers} (hslots : pool.allocSlots = true) (hfree : pool.free = none)
      (hroom : ¬ pool.memAllocSlots.length < pool.bufferCnt.toNat)
      (hcount : pool.pendingBufferCount ≠ pool.bufferCnt)
      (hhanded : pool.handed (.getFreeOutputBuffer ans) = none) :
      Does pool (.getFreeOutputBuffer ans) pool
  | got {ans : Answers} {handle : IBufferHandle} {slots : List IBufferHandle}
      (hunused : pool.memAllocBuffers[handle]? ≠ some false)
      (hlaid : (pool.marked slots handle).Laid) (hpopulated : ans.populated = true)
      (hstatus : pool.status (.getFreeOutputBuffer ans) = .noError)
      (hhanded : pool.handed (.getFreeOutputBuffer ans) = some handle) :
      Does pool (.getFreeOutputBuffer ans)
        { pool.marked slots handle with pendingBufferCount := pool.pendingBufferCount + 1 }
  | lost {ans : Answers} {handle : IBufferHandle} {slots : List IBufferHandle}
      (hslots : pool.allocSlots = true)
      (hunused : pool.memAllocBuffers[handle]? ≠ some false)
      (hlaid : (pool.marked slots handle).Laid) (hpopulated : ans.populated = false)
      (hans : ¬ (ans.allocated = none ∧ pool.free = none)) :
      Does pool (.getFreeOutputBuffer ans) (pool.marked slots handle)
  | rejected {handle : IBufferHandle}
      (h : pool.pendingBufferCount = 0 ∨ handle ∉ pool.memAllocBuffers) :
      Does pool (.returnBuffer handle) pool
  | returned {handle : IBufferHandle} (hcount : pool.pendingBufferCount ≠ 0)
      (hmem : handle ∈ pool.memAllocBuffers) :
      Does pool (.returnBuffer handle) { pool with
        memAllocBuffers := pool.memAllocBuffers.insert handle true
        pendingBufferCount := pool.pendingBufferCount - 1 }

theorem laid_insert (free : Bool) (hlaid : pool.Laid) (hmem : handle ∈ pool.memAllocBuffers) :
    Laid { pool with memAllocBuffers := pool.memAllocBuffers.insert handle free } := by
  refine ⟨fun k hk => ?_, ?_, hlaid.bound⟩
  · rcases ExtTreeMap.mem_insert.mp hk with heq | hk
    · obtain rfl := LawfulEqCmp.compare_eq_iff_eq.mp heq
      exact hlaid.slots _ hmem
    · exact hlaid.slots k hk
  · have hsize := hlaid.size
    simp [ExtTreeMap.size_insert, hmem, hsize]

theorem laid_marked_new (hlaid : pool.Laid) (hnew : handle ∉ pool.memAllocBuffers)
    (hroom : pool.memAllocSlots.length < pool.bufferCnt.toNat) :
    (pool.marked (pool.memAllocSlots ++ [handle]) handle).Laid := by
  refine ⟨fun k hk => ?_, ?_, ?_⟩
  · rcases ExtTreeMap.mem_insert.mp hk with heq | hk
    · obtain rfl := LawfulEqCmp.compare_eq_iff_eq.mp heq
      exact List.mem_append_right _ (List.mem_singleton_self _)
    · exact List.mem_append_left _ (hlaid.slots k hk)
  · have hsize := hlaid.size
    simp [marked, ExtTreeMap.size_insert, hnew, hsize]
  · simp only [marked, List.length_append, List.length_singleton]
    omega

/-- A buffer that is taken was not in use, and everything stays in its slot. -/
theorem marked_of_takes {taken : RescalerMemPool} (hlaid : pool.Laid)
    (h : Takes pool ans (some handle, taken)) :
    ∃ slots, taken = pool.marked slots handle ∧ pool.memAllocBuffers[handle]? ≠ some false ∧
      (pool.marked slots handle).Laid := by
  cases h with
  | unused hfree =>
    refine ⟨pool.memAllocSlots, rfl, by simp [hfree], laid_insert false hlaid ?_⟩
    rw [ExtTreeMap.mem_iff_isSome_getElem?, hfree]
    rfl
  | allocated hfree hroom hnew =>
    refine ⟨_, rfl, ?_, laid_marked_new hlaid hnew hroom⟩
    rw [ExtTreeMap.getElem?_eq_none hnew]
    nofun

theorem does_getFreeOutputBuffer (hlaid : pool.Laid)
    (hstep : pool.step (.getFreeOutputBuffer ans) = some next) :
    Does pool (.getFreeOutputBuffer ans) next := by
  simp only [step] at hstep
  split at hstep
  · cases hstep
  next hfresh =>
  have hnew : ∀ handle ∈ ans.allocated, handle ∉ pool.memAllocBuffers :=
    fun handle hans hmem => hfresh ⟨handle, hans, hmem⟩
  have htakes := takes_takeBuffer hlaid hnew
  unfold getFreeOutputBuffer at hstep
  split at hstep
  next hslots =>
    obtain rfl := Option.some.inj hstep
    exact .noSlots (by simpa using hslots)
  next hslots =>
  have hslots : pool.allocSlots = true := by simpa using hslots
  split at hstep
  · cases hstep
  next hcount =>
  obtain rfl := Option.some.inj hstep
  unfold getBufferLocked
  cases htake : pool.takeBuffer ans with
  | mk chosen taken =>
    rw [htake] at htakes
    cases chosen with
    | none =>
      have hhanded : pool.handed (.getFreeOutputBuffer ans) = none := by simp [handed, htake]
      cases htakes with
      | failed hfree hans => exact .failed hfree hans hhanded
      | full hfree hroom => exact .full hslots hfree hroom hcount hhanded
    | some handle =>
      have hans : ¬ (ans.allocated = none ∧ pool.free = none) := by
        rintro ⟨hnone, hfree⟩
        rw [free] at hfree
        simp only [takeBuffer, hfree, hnone] at htake
        split at htake <;> cases htake
      obtain ⟨slots, rfl, hunused, hmarked⟩ := marked_of_takes hlaid htakes
      cases hpopulated : ans.populated with
      | true =>
        have hstatus : pool.getBufferStatus ans = .noError := by
          simp [getBufferStatus, htake, hpopulated]
        refine .got hunused hmarked hpopulated ?_ ?_
        · simp [status, hslots, hstatus]
        · simp [handed, hslots, hstatus, htake]
      | false => exact .lost hslots hunused hmarked hpopulated hans

/-- Everything that a call can do. -/
theorem does_step (hlaid : pool.Laid) (hstep : pool.step call = some next) :
    Does pool call next := by
  cases call with
  | getFreeOutputBuffer ans => exact does_getFreeOutputBuffer hlaid hstep
  | returnBuffer handle =>
    obtain rfl := Option.some.inj hstep
    unfold returnBufferLocked
    split
    next h => exact .rejected h
    next h =>
      rw [not_or, not_not] at h
      exact .returned h.1 h.2

theorem laid_step (hlaid : pool.Laid) (hstep : pool.step call = some next) : next.Laid := by
  cases does_step hlaid hstep with
  | noSlots | failed | full | rejected => exact hlaid
  | got _ hmarked => exact ⟨hmarked.slots, hmarked.size, hmarked.bound⟩
  | lost _ _ hmarked => exact hmarked
  | returned hcount hmem =>
    have hreturned := laid_insert true hlaid hmem
    exact ⟨hreturned.slots, hreturned.size, hreturned.bound⟩

theorem inUse_marked (hunused : pool.memAllocBuffers[handle]? ≠ some false) :
    (pool.marked slots handle).inUse = pool.inUse + 1 := by
  have hcount := OrdMap.sizeWhere_insert (m := pool.memAllocBuffers) (k := handle) (v := false)
    (p := not)
  have hbefore : (pool.memAllocBuffers[handle]?.any not) = false := by
    cases hm : pool.memAllocBuffers[handle]? with
    | none => rfl
    | some free =>
      cases free with
      | true => rfl
      | false => exact absurd hm hunused
  rw [hbefore] at hcount
  exact hcount

theorem inUse_insert_true (hmem : handle ∈ pool.memAllocBuffers) :
    OrdMap.sizeWhere (pool.memAllocBuffers.insert handle true) not +
      (if pool.memAllocBuffers[handle]? = some false then 1 else 0) = pool.inUse := by
  have hcount := OrdMap.sizeWhere_insert (m := pool.memAllocBuffers) (k := handle) (v := true)
    (p := not)
  rw [ExtTreeMap.mem_iff_isSome_getElem?] at hmem
  cases hm : pool.memAllocBuffers[handle]? with
  | none => simp [hm] at hmem
  | some free =>
    rw [hm] at hcount
    cases free with
    | true => exact hcount
    | false => exact hcount

theorem inUse_le (hlaid : pool.Laid) : pool.inUse ≤ pool.bufferCnt.toNat := by
  have hsize : pool.inUse ≤ pool.memAllocBuffers.size := OrdMap.sizeWhere_le
  rw [hlaid.size] at hsize
  exact hsize.trans hlaid.bound

/-- When no buffer of the pool is free, all are in use. -/
theorem inUse_eq_size (hlaid : pool.Laid) (hfree : pool.free = none) :
    pool.inUse = pool.memAllocSlots.length := by
  rw [← hlaid.size]
  refine ExtTreeMap.size_filter_eq_size_iff.mpr fun k hk => ?_
  have hmem : (k, pool.memAllocBuffers[k]) ∈ pool.memAllocBuffers.toList :=
    ExtTreeMap.mem_toList_iff_getElem?_eq_some.mpr (ExtTreeMap.getElem?_eq_some_getElem hk)
  have hused := List.find?_eq_none.mp hfree _ hmem
  simpa using hused

/-- A call keeps the count exact just when it is balanced. -/
theorem counts_step_iff (hlaid : pool.Laid) (hcount : pool.pendingBufferCount.toNat = pool.inUse)
    (hstep : pool.step call = some next) :
    next.pendingBufferCount.toNat = next.inUse ↔ pool.Balanced call := by
  have hbound := inUse_le (laid_step hlaid hstep)
  cases does_step hlaid hstep with
  | noSlots h => exact iff_of_true hcount (.inl h)
  | failed hfree hans => exact iff_of_true hcount (.inr (.inr ⟨hans, hfree⟩))
  | full hslots hfree hroom hne =>
    -- all slots are out, so the request would have waited
    refine absurd (UInt32.toNat_inj.mp ?_) hne
    rw [hcount, inUse_eq_size hlaid hfree]
    exact hlaid.bound.antisymm (Nat.le_of_not_lt hroom)
  | @got ans handle slots hunused hmarked hpopulated =>
    refine iff_of_true ?_ (.inr (.inl hpopulated))
    have hmore : (pool.marked slots handle).inUse = pool.inUse + 1 := inUse_marked hunused
    have hlt : pool.inUse + 1 ≤ pool.bufferCnt.toNat := hmore ▸ hbound
    change (pool.pendingBufferCount + 1).toNat = (pool.marked slots handle).inUse
    rw [hmore]
    exact Counter.toNat_up hcount (hlt.trans_lt pool.bufferCnt.toNat_lt)
  | @lost ans handle slots hslots hunused hmarked hpopulated hans =>
    refine iff_of_false ?_ ?_
    · intro heq
      have hmore : (pool.marked slots handle).inUse = pool.inUse + 1 := inUse_marked hunused
      rw [hmore, ← hcount] at heq
      exact absurd heq (Nat.ne_of_lt (Nat.lt_succ_self _))
    · rintro (h | h | h)
      · rw [hslots] at h
        cases h
      · rw [hpopulated] at h
        cases h
      · exact hans h
  | rejected h =>
    refine iff_of_true hcount (h.imp_right fun hunknown => ?_)
    rw [ExtTreeMap.getElem?_eq_none hunknown]
    nofun
  | @returned handle hpending hmem =>
    have hused := inUse_insert_true hmem
    change (pool.pendingBufferCount - 1).toNat =
      OrdMap.sizeWhere (pool.memAllocBuffers.insert handle true) not ↔ _
    obtain ⟨n, hn⟩ : ∃ n, pool.inUse = n + 1 := by
      refine Nat.exists_eq_succ_of_ne_zero fun hzero => hpending ?_
      rw [← UInt32.toNat_inj, hcount, hzero]
      rfl
    rw [Counter.toNat_down (hcount.trans hn), Balanced, or_iff_right hpending]
    cases hm : pool.memAllocBuffers[handle]? with
    | none => simp [ExtTreeMap.mem_iff_isSome_getElem?, hm] at hmem
    | some free =>
      rw [hm, hn] at hused
      cases free with
      | true =>
        refine iff_of_false (fun heq => ?_) (fun h => h rfl)
        simp only [Option.some.injEq, Bool.true_eq_false, if_false, Nat.add_zero] at hused
        omega
      | false =>
        refine iff_of_true ?_ nofun
        simp only [if_true] at hused
        omega

/-- A balanced call is sound. -/
theorem sound_step (hlaid : pool.Laid) (hbalanced : pool.Balanced call)
    (hstep : pool.step call = some next) : pool.Sound call next := by
  cases does_step hlaid hstep with
  | noSlots h => exact ⟨fun _ => rfl, by simp [handed, h]⟩
  | failed _ _ hhanded => exact ⟨fun _ => rfl, by simp [hhanded]⟩
  | full _ _ _ _ hhanded => exact ⟨fun _ => rfl, by simp [hhanded]⟩
  | got hunused hmarked hpopulated hstatus hhanded =>
    refine ⟨fun h => absurd hstatus h, fun k hk => ?_⟩
    obtain rfl : k = _ := Option.some.inj (hk.symm.trans hhanded)
    exact ⟨hunused, ExtTreeMap.getElem?_insert_self⟩
  | lost hslots hunused hmarked hpopulated hans =>
    rcases hbalanced with h | h | h
    · rw [hslots] at h
      cases h
    · rw [hpopulated] at h
      cases h
    · exact absurd h hans
  | rejected h => exact ⟨fun _ => rfl, by simp [handed]⟩
  | returned hpending hmem =>
    refine ⟨fun h => absurd ?_ h, by simp [handed]⟩
    simp [status, returnBufferStatus, hpending, hmem]

/-- In every run of calls the pool accounts for its buffers just when the calls are balanced. -/
theorem accounts_iff (allocSlots : Bool) (calls : List Call) {t : RescalerMemPool}
    (hrun : LTS.run step { allocSlots } calls = some t) :
    Accounts { allocSlots } calls ↔ LTS.Meets step Balanced { allocSlots } calls := by
  have hinit : ({ allocSlots } : RescalerMemPool).Laid := ⟨by simp, by simp, by simp⟩
  have hruns := LTS.forall_prefix_iff_meets_of (f := step) (G := Balanced)
    (P := fun pool => pool.Laid ∧ pool.pendingBufferCount.toNat = pool.inUse)
    (Q := fun pool => pool.pendingBufferCount.toNat = pool.inUse) (fun _ h => h.2)
    (fun _ _ _ h hstep hG => ⟨laid_step h.1 hstep, (counts_step_iff h.1 h.2 hstep).mpr hG⟩)
    (fun _ _ _ h hstep hQ => (counts_step_iff h.1 h.2 hstep).mp hQ) ⟨hinit, rfl⟩ hrun
  have hlaid : (LTS.ofStep step).TrInv Laid := fun _ _ _ hstep h => laid_step h hstep
  constructor
  · intro h
    exact hruns.mp fun before after u heq hu => (h before after u heq hu).1
  · intro hmeets before after u heq hu
    refine ⟨hruns.mpr hmeets before after u heq hu, fun call hcall next hnext => ?_⟩
    have hafter : LTS.Meets step Balanced u after := (heq ▸ hmeets).of_append hu
    cases after with
    | nil => cases hcall
    | cons first rest =>
      obtain rfl := Option.some.inj hcall
      have hu : u.Laid := LTS.inv_of_mTr hlaid (LTS.mTr_ofStep_iff.mpr hu) hinit
      exact sound_step hu hafter.1 hnext

/-- Two buffers are taken, one comes back, and another is taken. -/
def takeTwo : List Call :=
  [.getFreeOutputBuffer ⟨some 1, true, 11, 64⟩, .getFreeOutputBuffer ⟨some 2, true, 12, 64⟩,
    .returnBuffer 1]

theorem accounts_takeTwo : Accounts {} takeTwo := by
  have hsome : (LTS.run step {} takeTwo).isSome = true := by decide
  obtain ⟨t, ht⟩ := Option.isSome_iff_exists.mp hsome
  exact (accounts_iff true takeTwo ht).mpr (by decide)

/-- A buffer that is returned again while another one is out is counted twice. -/
theorem not_accounts_returned_again : ¬ ∀ calls t, LTS.run step {} calls = some t →
    Accounts {} calls := by
  intro h
  have hcounts : ((LTS.run step {} (takeTwo ++ [.returnBuffer 1])).map fun t =>
      (t.pendingBufferCount.toNat, t.inUse)) = some (0, 1) := by decide +kernel
  obtain ⟨t, ht, hpair⟩ := Option.map_eq_some_iff.mp hcounts
  obtain ⟨hpending, hused⟩ := Prod.mk.inj hpair
  have hsame := (h _ t ht _ [] t (List.append_nil _).symm ht).1
  rw [hpending, hused] at hsame
  cases hsame

end QmmfSdk.Pipeline.RescalerMemPool
