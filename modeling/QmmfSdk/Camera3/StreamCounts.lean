import QmmfSdk.Camera3.Stream

/-! The counters of a configured stream over whole runs. -/
namespace QmmfSdk.Camera3

open Library
open Pipeline (IBufferHandle)

namespace StreamFlow

variable {dev : AllocDevice} {s t : StreamFlow} {st : Camera3Stream} {a : Action}
  {as : List Action} {h k : IBufferHandle} {alloc : Option IBufferHandle} {total : UInt32}

/-- An allocator gives a handle that the stream does not have yet. -/
def FreshAlloc (s : StreamFlow) : Action → Prop
  | .getBuffer alloc | .wake alloc | .prepareBuffer alloc =>
    ∀ h ∈ alloc, h ∉ s.stream.memAllocBuffers
  | _ => True

/-- The handle that a call of `ReturnBuffer` is made with. -/
def returned (dev : AllocDevice) (s : StreamFlow) : Action → Option IBufferHandle
  | .handleErrorRequest h =>
    some ((s.stream.buffersMap[dev.getAllocBufferHandle h]?).getD 0)
  | .returnFailed h | .returnBuffer h => some h
  | _ => none

/-- A buffer that is marked free is returned only while no buffer is pending. -/
def MarkedReturns (dev : AllocDevice) (s : StreamFlow) (a : Action) : Prop :=
  ∀ h ∈ s.returned dev a, s.stream.memAllocBuffers[h]? = some true →
    s.stream.pendingBufferCount = 0

/-- The count of pending buffers is the number of entries marked in use, and no return has
succeeded for a buffer that was not out. -/
structure Accounted (s : StreamFlow) : Prop where
  pending : s.stream.pendingBufferCount.toNat = s.stream.inUse
  wrongly : s.wrongly = []

/-- The entries marked in use are the buffers that are out, each once. -/
structure Marked (st : Camera3Stream) (out : List (IBufferHandle × Place)) : Prop where
  keys : ∀ h, h ∈ st.memAllocBuffers ↔ h ∈ st.memAllocSlots
  slots_le : st.memAllocSlots.length ≤ st.totalBufferCount.toNat
  marks : ∀ h, st.memAllocBuffers[h]? = some false ↔ h ∈ out.map (·.1)
  nodup : (out.map (·.1)).Nodup
  pending : st.pendingBufferCount.toNat = out.length

variable {out : List (IBufferHandle × Place)}

theorem Marked.length_le (hm : Marked st out) : out.length ≤ st.totalBufferCount.toNat := by
  have hsub : out.map (·.1) ⊆ st.memAllocSlots := by
    intro h hh
    rw [← hm.keys, Std.ExtTreeMap.mem_iff_isSome_getElem?, (hm.marks h).mpr hh]
    rfl
  have hle := (hm.nodup.subperm hsub).length_le
  have hslots := hm.slots_le
  rw [List.length_map] at hle
  omega

theorem Marked.inUse_eq (hm : Marked st out) : st.inUse = out.length := by
  have hperm : (st.memAllocBuffers.keys.filter
      fun h => st.memAllocBuffers[h]? = some false).Perm (out.map (·.1)) := by
    rw [List.perm_ext_iff_of_nodup (Std.ExtTreeMap.nodup_keys.filter _) hm.nodup]
    intro h
    rw [List.mem_filter, ← hm.marks, Std.ExtTreeMap.mem_keys, decide_eq_true_iff]
    constructor
    · exact fun hh => hh.2
    · intro hh
      refine ⟨?_, hh⟩
      rw [Std.ExtTreeMap.mem_iff_isSome_getElem?, hh]
      rfl
  rw [Camera3Stream.inUse, List.countP_eq_length_filter, hperm.length_eq, List.length_map]

/-- A buffer that is not out is handed out. -/
theorem Marked.handOut (hm : Marked st out) {slots : List IBufferHandle} {place : Place}
    (hnot : h ∉ out.map (·.1))
    (hkeys : ∀ k, k = h ∨ k ∈ st.memAllocSlots ↔ k ∈ slots)
    (hle : slots.length ≤ st.totalBufferCount.toNat) :
    Marked (Camera3Stream.handOut dev { st with
        memAllocSlots := slots, memAllocBuffers := st.memAllocBuffers.insert h false } h)
      (out ++ [(h, place)]) := by
  have hmarks : ∀ k, (st.memAllocBuffers.insert h false)[k]? = some false ↔
      k ∈ (out ++ [(h, place)]).map (·.1) := by
    intro k
    rw [Std.ExtTreeMap.getElem?_insert, List.map_append, List.mem_append, ← hm.marks]
    by_cases hk : h = k
    · simp [hk]
    · simp [hk, Ne.symm hk]
  have hnodup : ((out ++ [(h, place)]).map (·.1)).Nodup := by
    rw [List.map_append, List.nodup_append]
    refine ⟨hm.nodup, by simp, ?_⟩
    intro x hx y hy
    obtain rfl : y = h := by simpa using hy
    rintro rfl
    exact hnot hx
  have hsub : (out ++ [(h, place)]).map (·.1) ⊆ slots := by
    intro k hk
    rw [← hkeys]
    rw [List.map_append, List.mem_append] at hk
    rcases hk with hk | hk
    · right
      rw [← hm.keys, Std.ExtTreeMap.mem_iff_isSome_getElem?, (hm.marks k).mpr hk]
      rfl
    · left
      simpa using hk
  have hlen := (hnodup.subperm hsub).length_le
  have htotal := st.totalBufferCount.toNat_lt
  refine ⟨fun k => ?_, hle, hmarks, hnodup, ?_⟩
  · change k ∈ st.memAllocBuffers.insert h false ↔ k ∈ slots
    rw [Std.ExtTreeMap.mem_insert, ← hkeys, ← hm.keys, Std.compare_eq_iff_eq, eq_comm]
  · change (st.pendingBufferCount + 1).toNat = _
    simp only [List.length_map, List.length_append, List.length_singleton] at hlen ⊢
    exact Counter.toNat_up hm.pending (by omega)

/-- A buffer comes back. -/
theorem Marked.giveBack (hm : Marked st out) (hmem : h ∈ out.map (·.1)) {client : UInt32} :
    Marked { st with
        memAllocBuffers := st.memAllocBuffers.insert h true
        pendingBufferCount := st.pendingBufferCount - 1
        clientBufferCnt := client } (out.eraseP (·.1 = h)) := by
  have hsome : (out.find? (·.1 = h)).isSome := by
    rw [List.find?_isSome]
    obtain ⟨x, hx, rfl⟩ := List.mem_map.mp hmem
    exact ⟨x, hx, by simp⟩
  obtain ⟨x, hx⟩ := Option.isSome_iff_exists.mp hsome
  obtain rfl : x.1 = h := by simpa using List.find?_some hx
  obtain ⟨l₁, l₂, rfl, herase⟩ := Keyed.eraseP_of_find? hx
  have hin : x.1 ∈ st.memAllocBuffers := by
    rw [Std.ExtTreeMap.mem_iff_isSome_getElem?, (hm.marks x.1).mpr hmem]
    rfl
  rw [herase]
  refine ⟨fun k => ?_, hm.slots_le, fun k => ?_, ?_, ?_⟩
  · change k ∈ st.memAllocBuffers.insert x.1 true ↔ k ∈ st.memAllocSlots
    rw [Std.ExtTreeMap.mem_insert, ← hm.keys, Std.compare_eq_iff_eq]
    constructor
    · rintro (rfl | hk)
      · exact hin
      · exact hk
    · exact .inr
  · change (st.memAllocBuffers.insert x.1 true)[k]? = some false ↔ _
    rw [Std.ExtTreeMap.getElem?_insert]
    by_cases hk : x.1 = k
    · subst hk
      simp only [Std.compare_self, if_true, Option.some.injEq, Bool.true_eq_false, false_iff]
      intro hmem'
      obtain ⟨y, hy, heq⟩ := List.mem_map.mp hmem'
      exact Keyed.ne_of_nodup_middle (f := Prod.fst) hm.nodup hy heq
    · rw [if_neg (by simpa using hk), hm.marks]
      simp only [List.map_append, List.map_cons, List.mem_append, List.mem_cons]
      constructor
      · rintro (hl | rfl | hl)
        · exact .inl hl
        · exact absurd rfl hk
        · exact .inr hl
      · tauto
  · have hsub : ((l₁ ++ l₂).map (·.1)).Sublist ((l₁ ++ x :: l₂).map (·.1)) :=
      (List.Sublist.append_left (List.sublist_cons_self x l₂) l₁).map _
    exact hm.nodup.sublist hsub
  · have hp := hm.pending
    simp only [List.length_append, List.length_cons] at hp ⊢
    exact Counter.toNat_down (n := st.pendingBufferCount) (by omega)

/-- Only the marks and the count of pending buffers matter, and where the buffers are. -/
theorem Marked.congr (hm : Marked st out) {st' : Camera3Stream} {out' : List (IBufferHandle × Place)}
    (hbuffers : st'.memAllocBuffers = st.memAllocBuffers)
    (hslots : st'.memAllocSlots = st.memAllocSlots)
    (htotal : st'.totalBufferCount = st.totalBufferCount)
    (hpending : st'.pendingBufferCount = st.pendingBufferCount)
    (hout : out'.map (·.1) = out.map (·.1)) : Marked st' out' := by
  have hlen : out'.length = out.length := by
    rw [← List.length_map (·.1), hout, List.length_map]
  refine ⟨?_, ?_, ?_, ?_, ?_⟩
  · rw [hbuffers, hslots]
    exact hm.keys
  · rw [hslots, htotal]
    exact hm.slots_le
  · rw [hbuffers, hout]
    exact hm.marks
  · rw [hout]
    exact hm.nodup
  · rw [hpending, hlen]
    exact hm.pending

/-- `GetBufferLocked` fails and changes nothing, takes a free buffer, or allocates one. -/
theorem getBufferLocked_cases (dev : AllocDevice) (alloc : Option IBufferHandle) (wants : Bool)
    (hm : Marked st out) :
    (∃ e, st.getBufferLocked dev wants alloc = (.error e, st)) ∨
    (wants = true ∧ ∃ h, st.memAllocBuffers[h]? = some true ∧ st.getBufferLocked dev wants alloc =
      (.ok h, Camera3Stream.handOut dev { st with
        memAllocBuffers := st.memAllocBuffers.insert h false } h)) ∨
    (∃ h, alloc = some h ∧ st.memAllocSlots.length < st.totalBufferCount.toNat ∧
      st.getBufferLocked dev wants alloc = (.ok h,
        let st := { st with memAllocSlots := st.memAllocSlots ++ [h]
                            memAllocBuffers := st.memAllocBuffers.insert h !wants }
        if wants then st.handOut dev h else st)) := by
  unfold Camera3Stream.getBufferLocked
  split
  · exact .inl ⟨_, rfl⟩
  · cases hfree : (if wants then st.firstFree else none) with
    | some h =>
      have hwants : wants = true := by
        by_contra hne
        simp [hne] at hfree
      rw [if_pos hwants, Camera3Stream.firstFree] at hfree
      have hmark : st.memAllocBuffers[h]? = some true := by simpa using List.find?_some hfree
      have hslot : h ∈ st.memAllocSlots := by
        rw [← hm.keys, Std.ExtTreeMap.mem_iff_isSome_getElem?, hmark]
        rfl
      refine .inr (.inl ⟨hwants, h, hmark, ?_⟩)
      simp [hslot]
    | none =>
      by_cases hroom : st.memAllocSlots.length < st.totalBufferCount.toNat
      · cases alloc with
        | none => exact .inl ⟨.enomem, by simp [hroom]⟩
        | some h => exact .inr (.inr ⟨h, rfl, hroom, by simp [hroom]⟩)
      · exact .inl ⟨.enosys, by simp [hroom]⟩

/-- A new buffer is in no place yet. -/
theorem Marked.not_out_of_fresh (hm : Marked st out) (hfresh : h ∉ st.memAllocBuffers) :
    h ∉ out.map (·.1) := by
  intro hmem
  rw [← hm.marks, Std.ExtTreeMap.getElem?_eq_none hfresh] at hmem
  cases hmem

/-- What a call that takes a buffer leaves: nothing new, or one more buffer with the handler. -/
theorem takeBuffer_cases (dev : AllocDevice) (hm : Marked s.stream s.out)
    (hfresh : ∀ h ∈ alloc, h ∉ s.stream.memAllocBuffers) :
    s.takeBuffer dev alloc = s ∨
    ∃ h slots, h ∉ s.out.map (·.1) ∧ (∀ k, k = h ∨ k ∈ s.stream.memAllocSlots ↔ k ∈ slots) ∧
      slots.length ≤ s.stream.totalBufferCount.toNat ∧
      s.takeBuffer dev alloc = { s with
        stream := Camera3Stream.handOut dev { s.stream with
          memAllocSlots := slots
          memAllocBuffers := s.stream.memAllocBuffers.insert h false } h
        outputBuffers := s.outputBuffers ++ [h]
        out := s.out ++ [(h, .handler)] } := by
  rcases getBufferLocked_cases dev alloc true hm with ⟨e, heq⟩ |
    ⟨-, h, hmark, heq⟩ | ⟨h, rfl, hroom, heq⟩
  · left
    simp [takeBuffer, heq]
  · right
    have hnot : h ∉ s.out.map (·.1) := by
      rw [← hm.marks, hmark]
      simp
    have hslot : h ∈ s.stream.memAllocSlots := by
      rw [← hm.keys, Std.ExtTreeMap.mem_iff_isSome_getElem?, hmark]
      rfl
    refine ⟨h, s.stream.memAllocSlots, hnot, fun k => ?_, hm.slots_le, by simp [takeBuffer, heq]⟩
    constructor
    · rintro (rfl | hk)
      · exact hslot
      · exact hk
    · exact .inr
  · right
    refine ⟨h, s.stream.memAllocSlots ++ [h], hm.not_out_of_fresh (hfresh h rfl), fun k => ?_, ?_,
      by simp [takeBuffer, heq]⟩
    · rw [List.mem_append, List.mem_singleton, or_comm]
    · rw [List.length_append, List.length_singleton]
      omega

theorem marked_takeBuffer (dev : AllocDevice) (hm : Marked s.stream s.out)
    (hfresh : ∀ h ∈ alloc, h ∉ s.stream.memAllocBuffers) :
    Marked (s.takeBuffer dev alloc).stream (s.takeBuffer dev alloc).out := by
  rcases takeBuffer_cases dev hm hfresh with heq | ⟨h, slots, hnot, hkeys, hle, heq⟩
  · rw [heq]
    exact hm
  · rw [heq]
    exact hm.handOut hnot hkeys hle

/-- `ReturnBuffer` is rejected and changes nothing, or the buffer comes back. -/
theorem returnBuffer_cases :
    s.returnBuffer h = s ∨
    s.stream.pendingBufferCount ≠ 0 ∧ h ∈ s.stream.memAllocBuffers ∧
      s.returnBuffer h = { s with
        stream := { s.stream with
          memAllocBuffers := s.stream.memAllocBuffers.insert h true
          pendingBufferCount := s.stream.pendingBufferCount - 1
          clientBufferCnt := s.stream.clientBufferCnt - 1 }
        out := s.out.eraseP (·.1 = h)
        wrongly := if h ∈ s.out.map (·.1) then s.wrongly else s.wrongly ++ [h]
        wrapped := s.wrapped || s.stream.clientBufferCnt == 0 } := by
  by_cases hinit : s.stream.status = .initialized
  · left
    simp [returnBuffer, Camera3Stream.returnBufferLocked, hinit]
  · by_cases hzero : s.stream.pendingBufferCount = 0
    · left
      simp [returnBuffer, Camera3Stream.returnBufferLocked, hinit, hzero]
    · by_cases hmem : h ∈ s.stream.memAllocBuffers
      · exact .inr ⟨hzero, hmem, by
          simp [returnBuffer, Camera3Stream.returnBufferLocked, hinit, hzero, hmem]⟩
      · left
        simp [returnBuffer, Camera3Stream.returnBufferLocked, hinit, hzero, hmem]

theorem map_fst_moveTo {p : IBufferHandle × Place → Bool} {place : Place} :
    (s.moveTo p place).map (·.1) = s.out.map (·.1) := by
  rw [moveTo, List.map_map]
  apply List.map_congr_left
  intro x _
  simp only [Function.comp_apply]
  split <;> rfl

/-- The invariant of the runs in which no buffer is returned twice. -/
structure Sound (s : StreamFlow) : Prop where
  marked : Marked s.stream s.out
  wrongly : s.wrongly = []

theorem sound_configured : Sound (configured total) := by
  refine ⟨⟨fun h => ?_, ?_, fun h => ?_, ?_, ?_⟩, rfl⟩ <;> simp [configured]

/-- A return of a buffer that is marked free is rejected, so one that succeeds is of a buffer that
is out. -/
theorem sound_returnBuffer (hs : Sound s)
    (hret : s.stream.memAllocBuffers[h]? = some true → s.stream.pendingBufferCount = 0) :
    Sound (s.returnBuffer h) := by
  rcases returnBuffer_cases (s := s) (h := h) with heq | ⟨hpending, hmem, heq⟩
  · rw [heq]
    exact hs
  · have hout : h ∈ s.out.map (·.1) := by
      rw [← hs.marked.marks]
      obtain ⟨v, hv⟩ := Option.isSome_iff_exists.mp
        (Std.ExtTreeMap.mem_iff_isSome_getElem?.mp hmem)
      cases v with
      | true => exact absurd (hret hv) hpending
      | false => exact hv
    rw [heq]
    refine ⟨hs.marked.giveBack hout, ?_⟩
    rw [if_pos hout]
    exact hs.wrongly

theorem Sound.congr (hs : Sound s) (hm : Marked t.stream t.out) (hw : t.wrongly = s.wrongly) :
    Sound t := ⟨hm, hw.trans hs.wrongly⟩

theorem sound_takeBuffer (hs : Sound s)
    (hfresh : ∀ h ∈ alloc, h ∉ s.stream.memAllocBuffers) : Sound (s.takeBuffer dev alloc) := by
  refine hs.congr (marked_takeBuffer dev hs.marked hfresh) ?_
  rcases takeBuffer_cases dev hs.marked hfresh with heq | ⟨h, slots, -, -, -, heq⟩ <;> rw [heq]

theorem marked_endPrepare (hm : Marked st out) : Marked st.endPrepareLocked.2 out := by
  unfold Camera3Stream.endPrepareLocked
  split
  · exact hm
  · exact hm.congr rfl rfl rfl rfl rfl

theorem marked_prepareBuffer (hm : Marked st out) (hfresh : ∀ h ∈ alloc, h ∉ st.memAllocBuffers) :
    Marked (st.prepareBuffer dev alloc).2 out := by
  unfold Camera3Stream.prepareBuffer
  split
  · exact hm
  · rcases getBufferLocked_cases dev alloc false hm with ⟨e, heq⟩ |
      ⟨hfalse, -⟩ | ⟨h, rfl, hroom, heq⟩
    · simp only [heq]
      exact hm
    · cases hfalse
    · have hnew := hfresh h rfl
      have hadded : ∀ n : UInt32, Marked { st with
          memAllocSlots := st.memAllocSlots ++ [h]
          memAllocBuffers := st.memAllocBuffers.insert h true
          preparedBuffersCount := n } out := by
        intro n
        refine ⟨fun k => ?_, ?_, fun k => ?_, hm.nodup, hm.pending⟩
        · change k ∈ st.memAllocBuffers.insert h true ↔ k ∈ st.memAllocSlots ++ [h]
          rw [Std.ExtTreeMap.mem_insert, List.mem_append, List.mem_singleton, ← hm.keys,
            Std.compare_eq_iff_eq, or_comm, eq_comm]
        · change (st.memAllocSlots ++ [h]).length ≤ st.totalBufferCount.toNat
          rw [List.length_append, List.length_singleton]
          omega
        · change (st.memAllocBuffers.insert h true)[k]? = some false ↔ _
          rw [Std.ExtTreeMap.getElem?_insert]
          by_cases hk : h = k
          · subst hk
            simpa using hm.not_out_of_fresh hnew
          · rw [if_neg (by simpa using hk)]
            exact hm.marks k
      simp only [heq, Bool.not_false, Bool.false_eq_true, if_false]
      split
      · exact hadded _
      · exact marked_endPrepare (hadded _)

theorem marked_tearDown (hm : Marked st out) : Marked st.tearDown.2 out := by
  unfold Camera3Stream.tearDown
  split
  · exact hm
  · split
    · exact hm
    next hzero =>
      have hlen : out.length = 0 := by
        rw [← hm.pending]
        rw [UInt32.lt_iff_toNat_lt] at hzero
        simpa using hzero
      obtain rfl : out = [] := List.length_eq_zero_iff.mp hlen
      have hempty : (if st.memAllocSlots = [] then st.memAllocBuffers else ∅) =
          (∅ : OrdMap IBufferHandle Bool) := by
        split
        next hnil =>
          apply Std.ExtTreeMap.ext_getElem?
          intro h
          have hnot : h ∉ st.memAllocBuffers := by simp [hm.keys, hnil]
          simp [Std.ExtTreeMap.getElem?_eq_none hnot]
        next => rfl
      refine ⟨fun h => ?_, ?_, fun h => ?_, by simp, hm.pending⟩
      · simp [hempty]
      · simp
      · simp [hempty]

theorem sound_step : ((lts dev).guarded fun s a => s.FreshAlloc a ∧ s.MarkedReturns dev a).TrInv
    Sound := by
  rintro s a t ⟨hstep, hfresh, hret⟩ hs
  have hstep : s.step dev a = some t := hstep
  cases a with
  | getBuffer alloc =>
    obtain rfl := Option.some.inj hstep
    unfold getBuffer
    split
    · exact hs
    · split
      · exact ⟨hs.marked, hs.wrongly⟩
      · exact sound_takeBuffer hs hfresh
  | wake alloc =>
    simp only [step, wake] at hstep
    split at hstep
    · cases hstep
    · obtain rfl := Option.some.inj hstep
      exact sound_takeBuffer ⟨hs.marked, hs.wrongly⟩ hfresh
  | timeOut =>
    simp only [step] at hstep
    split at hstep
    · cases hstep
    · obtain rfl := Option.some.inj hstep
      exact ⟨hs.marked, hs.wrongly⟩
  | processCaptureRequest =>
    obtain rfl := Option.some.inj hstep
    exact hs.congr (hs.marked.congr rfl rfl rfl rfl map_fst_moveTo) rfl
  | handleErrorRequest h =>
    simp only [step, handleErrorRequest] at hstep
    split at hstep
    · obtain rfl := Option.some.inj hstep
      apply sound_returnBuffer
      · exact ⟨hs.marked.congr rfl rfl rfl rfl rfl, hs.wrongly⟩
      · exact hret _ rfl
    · cases hstep
  | returnBufferToClient native ok =>
    obtain ⟨⟨h, st⟩, hst, rfl⟩ := Option.map_eq_some_iff.mp hstep
    obtain ⟨h', hh', heq⟩ := Option.map_eq_some_iff.mp hst
    obtain ⟨rfl, rfl⟩ := Prod.mk.inj heq
    exact hs.congr (hs.marked.congr rfl rfl rfl rfl map_fst_moveTo) rfl
  | returnFailed h =>
    simp only [step, returnFailed] at hstep
    split at hstep
    · obtain rfl := Option.some.inj hstep
      exact sound_returnBuffer ⟨hs.marked, hs.wrongly⟩ (hret h rfl)
    · cases hstep
  | returnBuffer h =>
    obtain rfl := Option.some.inj hstep
    exact sound_returnBuffer hs (hret h rfl)
  | beginPrepare =>
    obtain rfl := Option.some.inj hstep
    refine hs.congr ?_ rfl
    change Marked s.stream.beginPrepare.2 s.out
    unfold Camera3Stream.beginPrepare
    repeat' split
    all_goals exact hs.marked.congr rfl rfl rfl rfl rfl
  | prepareBuffer alloc =>
    obtain rfl := Option.some.inj hstep
    exact hs.congr (marked_prepareBuffer hs.marked hfresh) rfl
  | endPrepare =>
    obtain rfl := Option.some.inj hstep
    exact hs.congr (marked_endPrepare hs.marked) rfl
  | tearDown =>
    obtain rfl := Option.some.inj hstep
    exact hs.congr (marked_tearDown hs.marked) rfl

/-- While no buffer that is marked free is returned with others pending, the count is the number of
entries in use, and `ReturnBuffer` has succeeded only for buffers that were out. -/
theorem accounted_of_markedReturns
    (h : ((lts dev).guarded fun s a => s.FreshAlloc a ∧ s.MarkedReturns dev a).MTr
      (configured total) as s) : s.Accounted := by
  have hs := LTS.inv_of_mTr sound_step h sound_configured
  refine ⟨?_, hs.wrongly⟩
  rw [hs.marked.inUse_eq, hs.marked.pending]

instance : Decidable (s.FreshAlloc a) :=
  match a with
  | .getBuffer alloc | .wake alloc | .prepareBuffer alloc =>
    Option.decidableForallMem (p := fun h => h ∉ s.stream.memAllocBuffers) alloc
  | .timeOut | .processCaptureRequest | .handleErrorRequest _ | .returnBufferToClient _ _
  | .returnFailed _ | .returnBuffer _ | .beginPrepare | .endPrepare | .tearDown => .isTrue trivial

instance : Decidable (s.MarkedReturns dev a) :=
  Option.decidableForallMem (p := fun h => s.stream.memAllocBuffers[h]? = some true →
    s.stream.pendingBufferCount = 0) (s.returned dev a)

/-- One buffer goes to the client and back, the HAL reports an error for another one, and a last
return is one too many. -/
def clientAndErrorRun : List Action :=
  [.getBuffer (some 1), .getBuffer (some 2), .processCaptureRequest, .returnBufferToClient 1 true,
    .returnBufferToClient 2 false, .returnFailed 2, .returnBuffer 1, .returnBuffer 1,
    .getBuffer none]

theorem accounted_client_and_error :
    (LTS.run (step {}) (configured 2) clientAndErrorRun).map (fun s => (s.out, s.stream.inUse)) =
        some ([(1, .handler)], 1) ∧
      ∃ s, ((lts {}).guarded fun s a => s.FreshAlloc a ∧ s.MarkedReturns {} a).MTr (configured 2)
        clientAndErrorRun s ∧ s.Accounted := by
  have hrun : (LTS.run (step {}) (configured 2) clientAndErrorRun).map
      (fun s => (s.out, s.stream.inUse)) = some ([(1, .handler)], 1) := by decide
  obtain ⟨s, hs, -⟩ := Option.map_eq_some_iff.mp hrun
  have hguard := LTS.mTr_guarded_iff.mpr ⟨hs, (by decide : LTS.Meets (step {})
    (fun s a => s.FreshAlloc a ∧ s.MarkedReturns {} a) (configured 2) clientAndErrorRun)⟩
  exact ⟨hrun, s, hguard, accounted_of_markedReturns hguard⟩

/-- The client has two buffers and returns the first of them twice. -/
def twiceReturnedRun : List Action :=
  [.getBuffer (some 1), .getBuffer (some 2), .processCaptureRequest, .returnBufferToClient 1 true,
    .returnBufferToClient 2 true, .returnBuffer 1, .returnBuffer 1]

/-- The second return succeeds, and a buffer in use is no longer counted. -/
theorem second_return_accepted :
    ¬ ∀ (dev : AllocDevice) (total : UInt32) (as : List Action) (s : StreamFlow),
      ((lts dev).guarded FreshAlloc).MTr (configured total) as s → s.Accounted := by
  intro hall
  have hrun : (LTS.run (step {}) (configured 2) twiceReturnedRun).map
      (fun s => (s.stream.pendingBufferCount, s.stream.inUse, s.wrongly)) = some (0, 1, [1]) := by
    decide
  obtain ⟨s, hs, hend⟩ := Option.map_eq_some_iff.mp hrun
  have hguard := LTS.mTr_guarded_iff.mpr ⟨hs, (by decide : LTS.Meets (step {}) FreshAlloc
    (configured 2) twiceReturnedRun)⟩
  have hwrongly := (hall {} 2 _ s hguard).wrongly
  simp only [Prod.mk.injEq, hwrongly, List.nil_eq, reduceCtorEq, and_false] at hend

end StreamFlow

end QmmfSdk.Camera3
