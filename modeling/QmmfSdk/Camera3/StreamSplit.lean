import QmmfSdk.Camera3.StreamCounts

/-! Which of a stream's buffers are counted for the HAL and which for the client. -/
namespace QmmfSdk.Camera3

open Library
open Pipeline (IBufferHandle)

/-- Past the HAL: delivered, or on the way back with an error. -/
def Place.isPastHal : Place → Bool
  | .client | .failing => true
  | .handler | .hal => false

namespace StreamFlow

variable {dev : AllocDevice} {s t : StreamFlow} {a : Action} {as : List Action}
  {h : IBufferHandle} {alloc : Option IBufferHandle} {total : UInt32} {place : Place}
  {x : IBufferHandle × Place} {l₁ l₂ : List (IBufferHandle × Place)}

/-- The HAL returns only buffers that it was given with a request, and the client only buffers that
were delivered to it. -/
def InContract (dev : AllocDevice) (s : StreamFlow) : Action → Prop
  | .returnBufferToClient native _ =>
    ∃ x ∈ s.out, x.2 = .hal ∧ dev.getAllocBufferHandle x.1 = native
  | .returnBuffer h => (h, .client) ∈ s.out
  | _ => True

def Action.isErrorRequest : Action → Bool
  | .handleErrorRequest _ => true
  | _ => false

/-- HAL and client share the pending buffers, which are never more than there are, and no counter
has gone below zero. -/
structure Split (s : StreamFlow) : Prop where
  sum : s.stream.halBufferCnt.toNat + s.stream.clientBufferCnt.toNat =
    s.stream.pendingBufferCount.toNat
  le : s.stream.pendingBufferCount ≤ s.stream.totalBufferCount
  wrapped : s.wrapped = false

/-- Each counter counts the buffers in its places, and the HAL's native handles lead back. -/
structure Placed (dev : AllocDevice) (s : StreamFlow) : Prop where
  marked : Marked s.stream s.out
  hal : s.stream.halBufferCnt.toNat = s.out.countP fun x => !x.2.isPastHal
  client : s.stream.clientBufferCnt.toNat = s.out.countP fun x => x.2.isPastHal
  native : ∀ x ∈ s.out, x.2.isPastHal = false →
    s.stream.buffersMap[dev.getAllocBufferHandle x.1]? = some x.1
  failing : ∀ h ∈ s.failing, (h, .failing) ∈ s.out
  nodup : s.failing.Nodup
  wrapped : s.wrapped = false

theorem placed_configured : Placed dev (configured total) := by
  refine ⟨sound_configured.marked, ?_, ?_, ?_, ?_, ?_, rfl⟩ <;> simp [configured]

theorem Placed.split (hp : Placed dev s) : s.Split := by
  have hm := hp.marked
  have hle := hm.length_le
  refine ⟨?_, ?_, hp.wrapped⟩
  · have hsum := List.length_eq_countP_add_countP (fun x => x.2.isPastHal) (l := s.out)
    simp only [Bool.not_eq_true, Bool.decide_eq_false] at hsum
    rw [hp.hal, hp.client, hm.pending, hsum, Nat.add_comm]
  · rw [UInt32.le_iff_toNat_le, hm.pending]
    exact hle

/-- A place of a buffer determines it. -/
theorem Placed.eq_of_mem (hp : Placed dev s) {y : IBufferHandle × Place} (hx : x ∈ s.out)
    (hy : y ∈ s.out) (heq : x.1 = y.1) : x = y :=
  List.inj_on_of_nodup_map hp.marked.nodup hx hy heq

theorem Placed.not_failing (hp : Placed dev s) (hx : x ∈ s.out) (hplace : x.2 ≠ .failing) :
    x.1 ∉ s.failing := by
  intro hmem
  have heq := hp.eq_of_mem hx (hp.failing _ hmem) rfl
  rw [heq] at hplace
  exact hplace rfl

/-- Buffers on the way back stay there when another one moves. -/
theorem Placed.failing_middle (hp : Placed dev s) (hout : s.out = l₁ ++ x :: l₂)
    (hx : x.1 ∉ s.failing) (hk : h ∈ s.failing) : (h, .failing) ∈ l₁ ++ l₂ := by
  have hmem := hp.failing h hk
  rw [hout, List.mem_append, List.mem_cons] at hmem
  rcases hmem with hmem | rfl | hmem
  · exact List.mem_append_left _ hmem
  · exact absurd hk hx
  · exact List.mem_append_right _ hmem

/-- The stream changes, but neither the places nor the counters of them. -/
theorem Placed.congr (hp : Placed dev s) {st : Camera3Stream} (hm : Marked st s.out)
    (hhal : st.halBufferCnt = s.stream.halBufferCnt)
    (hclient : st.clientBufferCnt = s.stream.clientBufferCnt)
    (hmap : st.buffersMap = s.stream.buffersMap) : Placed dev { s with stream := st } := by
  refine ⟨hm, ?_, ?_, ?_, hp.failing, hp.nodup, hp.wrapped⟩
  · rw [← hp.hal, hhal]
  · rw [← hp.client, hclient]
  · change ∀ x ∈ s.out, _ → st.buffersMap[_]? = _
    rw [hmap]
    exact hp.native

theorem placed_takeBuffer (hp : Placed dev s)
    (hfresh : ∀ h ∈ alloc, h ∉ s.stream.memAllocBuffers) : Placed dev (s.takeBuffer dev alloc) := by
  have hm := marked_takeBuffer dev hp.marked hfresh
  rcases takeBuffer_cases dev hp.marked hfresh with heq | ⟨h, slots, hnot, -, -, heq⟩
  · rw [heq]
    exact hp
  · rw [heq] at hm ⊢
    have hle := hm.length_le
    have hcount := List.countP_le_length (p := fun x : IBufferHandle × Place => !x.2.isPastHal)
      (l := s.out)
    have htotal := s.stream.totalBufferCount.toNat_lt
    have hbound : (s.out ++ [(h, Place.handler)]).length ≤ s.stream.totalBufferCount.toNat := hle
    rw [List.length_append, List.length_singleton] at hbound
    refine ⟨hm, ?_, ?_, ?_, ?_, hp.nodup, hp.wrapped⟩
    · change (s.stream.halBufferCnt + 1).toNat = _
      rw [Counter.toNat_up hp.hal (by omega), List.countP_append]
      rfl
    · change s.stream.clientBufferCnt.toNat = _
      rw [hp.client, List.countP_append]
      rfl
    · intro x hx hplace
      change (s.stream.buffersMap.insert (dev.getAllocBufferHandle h) h)[_]? = some x.1
      rw [Std.ExtTreeMap.getElem?_insert]
      rcases List.mem_append.mp hx with hx | hx
      · have hne : dev.getAllocBufferHandle h ≠ dev.getAllocBufferHandle x.1 := by
          intro heq
          apply hnot
          rw [dev.getAllocBufferHandle_injective heq]
          exact List.mem_map_of_mem hx
        rw [if_neg (by simpa using hne)]
        exact hp.native x hx hplace
      · obtain rfl : x = (h, .handler) := by simpa using hx
        simp
    · intro k hk
      exact List.mem_append_left _ (hp.failing k hk)

/-- Moving one buffer changes its place only. -/
theorem moveTo_middle (hout : s.out = l₁ ++ x :: l₂) (hn : (s.out.map (·.1)).Nodup) :
    s.moveTo (·.1 = x.1) place = l₁ ++ (x.1, place) :: l₂ := by
  have hsame : ∀ l : List (IBufferHandle × Place), (∀ y ∈ l, y.1 ≠ x.1) →
      l.map (fun y => if y.1 = x.1 then (y.1, place) else y) = l := by
    intro l hl
    have hid : l.map (fun y => if y.1 = x.1 then (y.1, place) else y) = l.map id := by
      apply List.map_congr_left
      intro y hy
      exact if_neg (hl y hy)
    rw [hid, List.map_id]
  have hne : ∀ y ∈ l₁ ++ l₂, y.1 ≠ x.1 :=
    fun y hy => Keyed.ne_of_nodup_middle (f := Prod.fst) (hout ▸ hn) hy
  simp only [moveTo, hout, List.map_append, List.map_cons, decide_eq_true_eq, if_true]
  rw [hsame l₁ fun y hy => hne y (List.mem_append_left _ hy),
    hsame l₂ fun y hy => hne y (List.mem_append_right _ hy)]

theorem eraseP_middle (hout : s.out = l₁ ++ x :: l₂) (hn : (s.out.map (·.1)).Nodup) :
    s.out.eraseP (·.1 = x.1) = l₁ ++ l₂ := by
  have hne : ∀ y ∈ l₁, ¬ decide (y.1 = x.1) = true := by
    intro y hy
    simpa using Keyed.ne_of_nodup_middle (f := Prod.fst) (hout ▸ hn) (List.mem_append_left l₂ hy)
  rw [hout, List.eraseP_append_right _ hne, List.eraseP_cons_of_pos (by simp)]

/-- The HAL gives a buffer back. -/
theorem placed_returnBufferToClient (hp : Placed dev s) {native : UInt64} {ok : Bool}
    (hcon : ∃ x ∈ s.out, x.2 = .hal ∧ dev.getAllocBufferHandle x.1 = native)
    (ht : s.returnBufferToClient native ok = some t) : Placed dev t := by
  obtain ⟨x, hx, hplace, rfl⟩ := hcon
  obtain ⟨l₁, l₂, hout⟩ := List.append_of_mem hx
  have hbefore : x.2.isPastHal = false := by
    rw [hplace]
    rfl
  have hnot : x.1 ∉ s.failing := hp.not_failing hx (by simp [hplace])
  have hnative := hp.native x hx hbefore
  obtain rfl : { s with
      stream := { s.stream with
        halBufferCnt := s.stream.halBufferCnt - 1
        clientBufferCnt := s.stream.clientBufferCnt + 1, isStreamActive := true }
      failing := if ok then s.failing else x.1 :: s.failing
      out := s.moveTo (·.1 = x.1) (if ok then .client else .failing)
      wrapped := s.wrapped || s.stream.halBufferCnt == 0 } = t := by
    simpa [returnBufferToClient, Camera3Stream.returnBufferToClient, hnative] using ht
  set place : Place := if ok then .client else .failing with hpl
  have hpast : place.isPastHal = true := by
    cases ok <;> rfl
  have hmove : s.moveTo (·.1 = x.1) place = l₁ ++ (x.1, place) :: l₂ :=
    moveTo_middle hout hp.marked.nodup
  have hhal := hp.hal
  have hclient := hp.client
  rw [hout, List.countP_append, List.countP_cons] at hhal hclient
  simp only [hbefore, Bool.not_false, if_true, Bool.false_eq_true, if_false] at hhal hclient
  have hlen := hp.marked.length_le
  have htotal := s.stream.totalBufferCount.toNat_lt
  have hcount := List.countP_le_length (p := fun x : IBufferHandle × Place => x.2.isPastHal)
    (l := l₁ ++ l₂)
  rw [hout] at hlen
  simp only [List.length_append, List.length_cons, List.countP_append] at hlen hcount
  refine ⟨hp.marked.congr rfl rfl rfl rfl map_fst_moveTo, ?_, ?_, ?_, ?_, ?_, ?_⟩
  · rw [hmove, List.countP_append, List.countP_cons]
    simp only [hpast, Bool.not_true, Bool.false_eq_true, if_false]
    exact Counter.toNat_down hhal
  · rw [hmove, List.countP_append, List.countP_cons]
    simp only [hpast, if_true]
    rw [Counter.toNat_up hclient (by omega)]
    omega
  · rw [hmove]
    intro y hy hplace'
    apply hp.native y _ hplace'
    rw [hout]
    simp only [List.mem_append, List.mem_cons] at hy ⊢
    rcases hy with hy | rfl | hy
    · exact .inl hy
    · simp [hpast] at hplace'
    · exact .inr (.inr hy)
  · rw [hmove]
    intro k hk
    have hold : ∀ k ∈ s.failing, (k, Place.failing) ∈ l₁ ++ (x.1, place) :: l₂ :=
      fun k hk => List.perm_middle.mem_iff.mpr
        (List.mem_cons_of_mem _ (hp.failing_middle hout hnot hk))
    cases ok with
    | true => exact hold k (by simpa using hk)
    | false =>
      rcases List.mem_cons.mp (by simpa using hk) with rfl | hk
      · simp [hpl]
      · exact hold k hk
  · cases ok with
    | true => exact hp.nodup
    | false => exact List.nodup_cons.mpr ⟨hnot, hp.nodup⟩
  · simp [hp.wrapped, Counter.ne_zero hhal]

/-- A buffer that is past the HAL comes back. -/
theorem placed_returnBuffer (hp : Placed dev s) (hx : (h, place) ∈ s.out)
    (hpast : place.isPastHal = true) (hfailing : h ∉ s.failing) : Placed dev (s.returnBuffer h) := by
  obtain ⟨l₁, l₂, hout⟩ := List.append_of_mem hx
  have hmem : h ∈ s.out.map (·.1) := List.mem_map_of_mem (f := Prod.fst) hx
  have herase : s.out.eraseP (·.1 = h) = l₁ ++ l₂ := eraseP_middle hout hp.marked.nodup
  rcases returnBuffer_cases (s := s) (h := h) with heq | ⟨-, -, heq⟩
  · rw [heq]
    exact hp
  have hhal := hp.hal
  have hclient := hp.client
  rw [hout, List.countP_append, List.countP_cons] at hhal hclient
  simp only [hpast, Bool.not_true, Bool.false_eq_true, if_false, if_true] at hhal hclient
  rw [heq]
  refine ⟨hp.marked.giveBack hmem, ?_, ?_, ?_, ?_, hp.nodup, ?_⟩
  · rw [herase, List.countP_append]
    exact hhal
  · change (s.stream.clientBufferCnt - 1).toNat = _
    rw [herase, List.countP_append]
    exact Counter.toNat_down hclient
  · intro y hy
    exact hp.native y (List.mem_of_mem_eraseP hy)
  · intro k hk
    rw [herase]
    exact hp.failing_middle hout hfailing hk
  · simp [hp.wrapped, Counter.ne_zero hclient]

/-- The HAL takes what the handler has. -/
theorem placed_processCaptureRequest (hp : Placed dev s) : Placed dev s.processCaptureRequest := by
  have hsame : ∀ x : IBufferHandle × Place,
      (if decide (x.2 = .handler) then (x.1, Place.hal) else x).2.isPastHal = x.2.isPastHal := by
    rintro ⟨h, place⟩
    cases place <;> rfl
  refine ⟨hp.marked.congr rfl rfl rfl rfl map_fst_moveTo, ?_, ?_, ?_, ?_, hp.nodup, hp.wrapped⟩
  · change s.stream.halBufferCnt.toNat = (s.moveTo _ _).countP _
    rw [hp.hal, moveTo, List.countP_map]
    congr 1
    funext x
    simp only [Function.comp_apply, hsame]
  · change s.stream.clientBufferCnt.toNat = (s.moveTo _ _).countP _
    rw [hp.client, moveTo, List.countP_map]
    congr 1
    funext x
    simp only [Function.comp_apply, hsame]
  · intro y hy hplace
    obtain ⟨x, hx, rfl⟩ := List.mem_map.mp hy
    rw [hsame] at hplace
    have hfst : (if decide (x.2 = .handler) then (x.1, Place.hal) else x).1 = x.1 := by
      split <;> rfl
    rw [hfst]
    exact hp.native x hx hplace
  · intro k hk
    exact List.mem_map.mpr ⟨(k, .failing), hp.failing k hk, by simp⟩

theorem placed_prepareBuffer (hp : Placed dev s)
    (hfresh : ∀ h ∈ alloc, h ∉ s.stream.memAllocBuffers) :
    Placed dev { s with stream := (s.stream.prepareBuffer dev alloc).2 } := by
  have hkept : ∀ st : Camera3Stream, st.endPrepareLocked.2.halBufferCnt = st.halBufferCnt ∧
      st.endPrepareLocked.2.clientBufferCnt = st.clientBufferCnt ∧
      st.endPrepareLocked.2.buffersMap = st.buffersMap := by
    intro st
    unfold Camera3Stream.endPrepareLocked
    split <;> exact ⟨rfl, rfl, rfl⟩
  have hall : (s.stream.prepareBuffer dev alloc).2.halBufferCnt = s.stream.halBufferCnt ∧
      (s.stream.prepareBuffer dev alloc).2.clientBufferCnt = s.stream.clientBufferCnt ∧
      (s.stream.prepareBuffer dev alloc).2.buffersMap = s.stream.buffersMap := by
    unfold Camera3Stream.prepareBuffer
    split
    · exact ⟨rfl, rfl, rfl⟩
    · rcases getBufferLocked_cases dev alloc false hp.marked with
        ⟨e, heq⟩ | ⟨hfalse, -⟩ | ⟨h, rfl, hroom, heq⟩
      · simp [heq]
      · cases hfalse
      · simp only [heq, Bool.not_false, Bool.false_eq_true, if_false]
        split
        · exact ⟨rfl, rfl, rfl⟩
        · exact hkept _
  exact hp.congr (marked_prepareBuffer hp.marked hfresh) hall.1 hall.2.1 hall.2.2

theorem placed_step : ((lts dev).guarded fun s a => s.FreshAlloc a ∧ s.InContract dev a ∧
    a.isErrorRequest = false).TrInv (Placed dev) := by
  rintro s a t ⟨hstep, hfresh, hcon, herror⟩ hp
  have hstep : s.step dev a = some t := hstep
  cases a with
  | getBuffer alloc =>
    obtain rfl := Option.some.inj hstep
    unfold getBuffer
    split
    · exact hp
    · split
      · exact ⟨hp.marked, hp.hal, hp.client, hp.native, hp.failing, hp.nodup, hp.wrapped⟩
      · exact placed_takeBuffer hp hfresh
  | wake alloc =>
    simp only [step, wake] at hstep
    split at hstep
    · cases hstep
    · obtain rfl := Option.some.inj hstep
      have hp' : Placed dev { s with waiting := s.waiting - 1 } :=
        ⟨hp.marked, hp.hal, hp.client, hp.native, hp.failing, hp.nodup, hp.wrapped⟩
      exact placed_takeBuffer hp' hfresh
  | timeOut =>
    simp only [step] at hstep
    split at hstep
    · cases hstep
    · obtain rfl := Option.some.inj hstep
      exact ⟨hp.marked, hp.hal, hp.client, hp.native, hp.failing, hp.nodup, hp.wrapped⟩
  | processCaptureRequest =>
    obtain rfl := Option.some.inj hstep
    exact placed_processCaptureRequest hp
  | handleErrorRequest h => cases herror
  | returnBufferToClient native ok => exact placed_returnBufferToClient hp hcon hstep
  | returnFailed h =>
    simp only [step, returnFailed] at hstep
    split at hstep
    next hmem =>
      obtain rfl := Option.some.inj hstep
      have hp' : Placed dev { s with failing := s.failing.erase h } :=
        ⟨hp.marked, hp.hal, hp.client, hp.native, fun k hk => hp.failing k (List.mem_of_mem_erase hk),
          hp.nodup.erase h, hp.wrapped⟩
      exact placed_returnBuffer hp' (hp.failing h hmem) rfl hp.nodup.not_mem_erase
    next => cases hstep
  | returnBuffer h =>
    obtain rfl := Option.some.inj hstep
    exact placed_returnBuffer hp hcon rfl (hp.not_failing hcon (by simp))
  | beginPrepare =>
    obtain rfl := Option.some.inj hstep
    simp only [Camera3Stream.beginPrepare]
    repeat' split
    all_goals exact hp.congr (hp.marked.congr rfl rfl rfl rfl rfl) rfl rfl rfl
  | prepareBuffer alloc =>
    obtain rfl := Option.some.inj hstep
    exact placed_prepareBuffer hp hfresh
  | endPrepare =>
    obtain rfl := Option.some.inj hstep
    refine hp.congr (marked_endPrepare hp.marked) ?_ ?_ ?_ <;>
      (unfold Camera3Stream.endPrepareLocked; split <;> rfl)
  | tearDown =>
    obtain rfl := Option.some.inj hstep
    refine hp.congr (marked_tearDown hp.marked) ?_ ?_ ?_ <;>
      (unfold Camera3Stream.tearDown; repeat' split) <;> rfl

/-- In every run without a failed request HAL and client share the pending buffers, and no counter
goes below zero. -/
theorem split_of_no_errorRequest
    (h : ((lts dev).guarded fun s a => s.FreshAlloc a ∧ s.InContract dev a ∧
      a.isErrorRequest = false).MTr (configured total) as s) : s.Split :=
  (LTS.inv_of_mTr placed_step h placed_configured).split

instance : Decidable (s.InContract dev a) :=
  match a with
  | .returnBufferToClient native _ =>
    inferInstanceAs (Decidable (∃ x ∈ s.out, x.2 = .hal ∧ dev.getAllocBufferHandle x.1 = native))
  | .returnBuffer _ => inferInstanceAs (Decidable (_ ∈ _))
  | .getBuffer _ | .wake _ | .timeOut | .processCaptureRequest | .handleErrorRequest _
  | .returnFailed _ | .beginPrepare | .prepareBuffer _ | .endPrepare | .tearDown => .isTrue trivial

/-- A stream is prepared; then one buffer goes to the client and another one fails. -/
def preparedRun : List Action :=
  [.beginPrepare, .prepareBuffer (some 1), .endPrepare, .getBuffer none, .getBuffer (some 2),
    .processCaptureRequest, .getBuffer none, .returnBufferToClient 1 true,
    .returnBufferToClient 2 false, .returnBuffer 1, .wake none, .returnFailed 2]

theorem split_prepared :
    (LTS.run (step {}) (configured 2) preparedRun).map
        (fun s => (s.stream.halBufferCnt, s.stream.clientBufferCnt)) = some (1, 0) ∧
      ∃ s, ((lts {}).guarded fun s a => s.FreshAlloc a ∧ s.InContract {} a ∧
        a.isErrorRequest = false).MTr (configured 2) preparedRun s ∧ s.Split := by
  have hrun : (LTS.run (step {}) (configured 2) preparedRun).map
      (fun s => (s.stream.halBufferCnt, s.stream.clientBufferCnt)) = some (1, 0) := by decide
  obtain ⟨s, hs, -⟩ := Option.map_eq_some_iff.mp hrun
  have hguard := LTS.mTr_guarded_iff.mpr ⟨hs, (by decide : LTS.Meets (step {})
    (fun s a => s.FreshAlloc a ∧ s.InContract {} a ∧ a.isErrorRequest = false) (configured 2)
      preparedRun)⟩
  exact ⟨hrun, s, hguard, split_of_no_errorRequest hguard⟩

/-- A buffer of a request that fails before it reaches the HAL is taken off the client's count. -/
theorem error_request_wraps_client :
    ¬ ∀ (dev : AllocDevice) (total : UInt32) (as : List Action) (s : StreamFlow),
      ((lts dev).guarded fun s a => s.FreshAlloc a ∧ s.InContract dev a).MTr (configured total) as s →
        s.Split := by
  intro hall
  have hrun : (LTS.run (step {}) (configured 2)
      [.getBuffer (some 1), .handleErrorRequest 1]).map (fun s =>
        (s.stream.halBufferCnt, s.stream.clientBufferCnt, s.wrapped)) =
          some (1, 4294967295, true) := by decide
  obtain ⟨s, hs, hend⟩ := Option.map_eq_some_iff.mp hrun
  have hguard := LTS.mTr_guarded_iff.mpr ⟨hs, (by decide : LTS.Meets (step {})
    (fun s a => s.FreshAlloc a ∧ s.InContract {} a) (configured 2)
      [.getBuffer (some 1), .handleErrorRequest 1])⟩
  have hwrapped := (hall {} 2 _ s hguard).wrapped
  simp [hwrapped] at hend

end StreamFlow

end QmmfSdk.Camera3
