import QmmfSdk.Streams.ZslQueue

/-! `CaptureZSLImage` on the ZSL port: where a picked frame is when its reprocess request is refused. -/
namespace QmmfSdk.Streams

open Library

/-- What `CaptureZSLImage` returns. -/
inductive CaptureStatus where
  | noError
  | unknownError
  deriving DecidableEq, Repr

/-- `captures` are the calls between their pick and their submission, with the frame that was picked or
none for a regular snapshot, `submitted` the input frames of the requests that the device has accepted
and not given back, and `refused` those of the requests that it has refused. -/
structure ZslCaptures where
  flow : ZslFlow
  captures : List (Option StreamBuffer) := []
  submitted : List StreamBuffer := []
  refused : List StreamBuffer := []

namespace ZslCaptures

/-- The steps of the port and of the calls of `CaptureZSLImage`; `id` is what `SubmitRequest` returns. -/
inductive Action where
  | port (a : ZslFlow.Action)
  | pick
  | submit (i : Nat) (id : Int)
  | returnInput (buffer : StreamBuffer)
  deriving DecidableEq, Repr

/-- The pick decides between a reprocess request and a regular snapshot. -/
def pick (s : ZslCaptures) : ZslCaptures :=
  let (stat, port) := s.flow.port.pickZSLBuffer
  { s with
    flow := { s.flow with port }
    captures := s.captures ++ [if stat = .noError then some port.zslInputBuffer.buffer else none] }

def captureStatus (id : Int) : CaptureStatus := if 0 > id then .unknownError else .noError

/-- The device gets the picked frame with the request that it accepts. -/
def submit (s : ZslCaptures) (i : Nat) (picked : Option StreamBuffer) (id : Int) : ZslCaptures :=
  let s := { s with captures := s.captures.eraseIdx i }
  if 0 > id then { s with refused := s.refused ++ picked.toList }
  else { s with submitted := s.submitted ++ picked.toList }

/-- `none` is a step that is not enabled; the device returns the input frames that it was given. -/
def step (s : ZslCaptures) : Action → Option ZslCaptures
  | .port a =>
    match a with
    | .pick | .returnInput _ => none
    | a => (s.flow.step a).map fun flow => { s with flow }
  | .pick => some s.pick
  | .submit i id => (s.captures[i]?).map fun picked => s.submit i picked id
  | .returnInput buffer =>
    if buffer ∈ s.submitted then
      some { s with
        flow := s.flow.next (.returnInput buffer)
        submitted := s.submitted.erase buffer }
    else none

def lts : LTS ZslCaptures Action := .ofStep step

/-- After `SetUpZSL`. -/
def init (cameraStreamId : Int) (depth : UInt32) : ZslCaptures :=
  { flow := .init cameraStreamId depth }

/-- The picked frames that no device has given back. -/
def out (s : ZslCaptures) : List StreamBuffer :=
  s.refused ++ (s.captures.flatMap Option.toList ++ s.submitted)

/-- The slot has the one picked frame that is out. -/
structure Parked (s : ZslCaptures) : Prop where
  out : s.out.Perm s.flow.port.inputSlot
  positive : ∀ b ∈ s.flow.port.inputSlot, 0 < b.timestamp

variable {s t u : ZslCaptures} {a : Action} {as : List Action} {b : StreamBuffer} {i : Nat} {id : Int}
  {depth : UInt32} {cameraStreamId : Int}

theorem length_out_le (h : s.Parked) : s.out.length ≤ 1 := by
  rw [h.out.length_eq, ZslPort.inputSlot]
  split <;> simp

/-- A frame whose request was refused is the only one out. -/
theorem of_refused (h : s.Parked) (hb : b ∈ s.refused) :
    s.flow.port.inputSlot = [b] ∧ s.submitted = [] := by
  have hle := length_out_le h
  simp only [out, List.length_append] at hle
  have hpos := List.length_pos_of_mem hb
  have hsubmitted : s.submitted = [] := List.length_eq_zero_iff.mp (by omega)
  have hcaptures : s.captures.flatMap Option.toList = [] := List.length_eq_zero_iff.mp (by omega)
  obtain ⟨x, hx⟩ := List.length_eq_one_iff.mp (show s.refused.length = 1 by omega)
  have hbx : b = x := by simpa [hx] using hb
  have hperm := h.out
  rw [out, hsubmitted, hcaptures, hx, ← hbx] at hperm
  exact ⟨List.perm_singleton.mp hperm.symm, hsubmitted⟩

/-- The slot is left alone by all of the port's other steps. -/
theorem inputSlot_next {a : ZslFlow.Action} {f : ZslFlow} (hpick : a ≠ .pick)
    (hreturn : ∀ b, a ≠ .returnInput b) : (f.next a).port.inputSlot = f.port.inputSlot := by
  cases a with
  | capture buffer junk =>
    simp only [ZslFlow.next, ZslPort.zslCaptureCallback, ZslFlow.hand]
    split <;> rfl
  | result metadata =>
    simp only [ZslFlow.next, ZslPort.handleZSLCaptureResult, ZslFlow.hand]
    split
    · split
      · rfl
      · split <;> rfl
    · rfl
  | pick => exact absurd rfl hpick
  | returnInput b => exact absurd rfl (hreturn b)
  | pauseAndFlush => rfl
  | resume => rfl

/-- The pick succeeds on a free slot, with a frame of the queue, or leaves all as it is. -/
theorem pickZSLBuffer_status (p : ZslPort) :
    (p.pickZSLBuffer.1 = .noError ∧ p.zslInputBuffer.timestamp < 0 ∧
      p.pickZSLBuffer.2.zslInputBuffer ∈ p.zslQueue ∧ p.pickZSLBuffer.2.zslInputBuffer.good) ∨
    (p.pickZSLBuffer.1 ≠ .noError ∧ p.pickZSLBuffer.2 = p) := by
  unfold ZslPort.pickZSLBuffer
  split
  · exact .inr ⟨nofun, rfl⟩
  split
  · exact .inr ⟨nofun, rfl⟩
  next hslot =>
  split
  next e hfind =>
    refine .inl ⟨rfl, by omega, ?_, List.find?_some hfind⟩
    exact List.mem_reverse.mp (List.mem_of_find?_eq_some hfind)
  next => exact .inr ⟨nofun, rfl⟩

/-- A pick is refused while the slot has a frame. -/
theorem pickZSLBuffer_of_parked {p : ZslPort} (h : 0 ≤ p.zslInputBuffer.timestamp) :
    p.pickZSLBuffer.1 = if p.zslQueue.isEmpty then .noInit else .busy := by
  unfold ZslPort.pickZSLBuffer
  split
  · rfl
  · rfl

theorem inputSlot_of_positive {p : ZslPort} (h : 0 ≤ p.zslInputBuffer.timestamp) :
    p.inputSlot = [p.zslInputBuffer.buffer] := if_pos h

theorem parked_pick (hs : s.flow.Conserved depth) (h : s.Parked) : s.pick.Parked := by
  have hslot : s.pick.flow.port = s.flow.port.pickZSLBuffer.2 := rfl
  rcases pickZSLBuffer_status s.flow.port with ⟨hok, hfree, hmem, hgood⟩ | ⟨hfail, hsame⟩
  · have hempty : s.out = [] := by
      have hnone : s.flow.port.inputSlot = [] := if_neg (Int.not_le.mpr hfree)
      exact List.perm_nil.mp (hnone ▸ h.out)
    have hsound := (hs.sound _ hmem).1
    have hpicked : s.pick.flow.port.inputSlot =
        [s.flow.port.pickZSLBuffer.2.zslInputBuffer.buffer] := by
      rw [hslot]
      exact inputSlot_of_positive (Int.le_of_lt hsound)
    constructor
    · rw [hpicked]
      simp only [out, List.append_eq_nil_iff] at hempty
      simp [out, pick, hok, hempty]
    · intro b hb
      rw [hpicked, List.mem_singleton] at hb
      rw [hb]
      simp only [ZslEntry.good, ZslEntry.matched, Bool.and_eq_true, beq_iff_eq] at hgood
      rw [← hgood.1.1]
      exact hsound
  · constructor
    · rw [hslot, hsame]
      simpa [out, pick, hfail] using h.out
    · rw [hslot, hsame]
      exact h.positive

theorem out_submit {picked : Option StreamBuffer} (hi : s.captures[i]? = some picked) :
    (s.submit i picked id).out.Perm s.out := by
  have hcaptures : (s.captures.flatMap Option.toList).Perm
      (picked.toList ++ (s.captures.eraseIdx i).flatMap Option.toList) := by
    obtain ⟨hlt, rfl⟩ := List.getElem?_eq_some_iff.mp hi
    exact (List.getElem_cons_eraseIdx_perm hlt).symm.flatMap_right Option.toList
  unfold submit
  split
  · have hleft := ((hcaptures.symm.append_right s.submitted).append_left s.refused)
    simpa [out] using hleft
  · have hlast : ((s.captures.eraseIdx i).flatMap Option.toList ++
        (s.submitted ++ picked.toList)).Perm (s.captures.flatMap Option.toList ++ s.submitted) := by
      rw [← List.append_assoc]
      refine List.perm_append_comm.trans ?_
      rw [← List.append_assoc]
      exact hcaptures.symm.append_right s.submitted
    exact hlast.append_left s.refused

/-- The device gives back the one frame that is out, and frees the slot. -/
theorem parked_returnInput (hs : s.flow.Conserved depth) (h : s.Parked) (hb : b ∈ s.submitted) :
    (s.flow.next (.returnInput b)).Conserved depth ∧
      Parked { s with
        flow := s.flow.next (.returnInput b)
        submitted := s.submitted.erase b } := by
  have hle := length_out_le h
  simp only [out, List.length_append] at hle
  have hpos := List.length_pos_of_mem hb
  have hrefused : s.refused = [] := List.length_eq_zero_iff.mp (by omega)
  have hcaptures : s.captures.flatMap Option.toList = [] := List.length_eq_zero_iff.mp (by omega)
  obtain ⟨x, hx⟩ := List.length_eq_one_iff.mp (show s.submitted.length = 1 by omega)
  obtain rfl : b = x := by simpa [hx] using hb
  have hslot : s.flow.port.inputSlot = [b] := by
    have hperm := h.out
    rw [out, hrefused, hcaptures, hx] at hperm
    exact List.perm_singleton.mp hperm.symm
  have hbuffer : s.flow.port.zslInputBuffer.buffer = b := by
    unfold ZslPort.inputSlot at hslot
    split at hslot
    · exact List.singleton_inj.mp hslot
    · cases hslot
  have hfree : (s.flow.next (.returnInput b)).port.inputSlot = [] := by
    simp [ZslFlow.next, ZslPort.returnZSLInputBuffer, hbuffer, ZslFlow.hand, ZslPort.inputSlot]
  refine ⟨hs.returnInput hslot, ?_, ?_⟩
  · rw [hfree]
    simp [out, hrefused, hcaptures, hx]
  · simp [hfree]

theorem parked_step (hs : s.flow.Conserved depth) (h : s.Parked) (hstep : s.step a = some t) :
    t.flow.Conserved depth ∧ t.Parked := by
  cases a with
  | port a =>
    have hport : a ≠ .pick → (∀ b, a ≠ .returnInput b) →
        ((s.flow.step a).map fun flow => { s with flow }) = some t →
        t.flow.Conserved depth ∧ t.Parked := by
      intro hpick hreturn hmap
      obtain ⟨flow, hflow, rfl⟩ := Option.map_eq_some_iff.mp hmap
      have hsame : flow.port.inputSlot = s.flow.port.inputSlot := by
        unfold ZslFlow.step at hflow
        split at hflow
        · obtain rfl := Option.some.inj hflow
          exact inputSlot_next hpick hreturn
        · cases hflow
      refine ⟨ZslFlow.conserved_step hs hflow, ?_, ?_⟩
      · rw [hsame]
        exact h.out
      · rw [hsame]
        exact h.positive
    cases a with
    | pick => cases hstep
    | returnInput b => cases hstep
    | capture buffer junk => exact hport nofun nofun hstep
    | result metadata => exact hport nofun nofun hstep
    | pauseAndFlush => exact hport nofun nofun hstep
    | resume => exact hport nofun nofun hstep
  | pick =>
    obtain rfl := Option.some.inj hstep
    exact ⟨hs.pick, parked_pick hs h⟩
  | submit i id =>
    obtain ⟨picked, hi, rfl⟩ := Option.map_eq_some_iff.mp hstep
    have hflow : (s.submit i picked id).flow = s.flow := by
      unfold submit
      split <;> rfl
    refine ⟨hflow ▸ hs, ?_, ?_⟩
    · rw [hflow]
      exact (out_submit hi).trans h.out
    · rw [hflow]
      exact h.positive
  | returnInput b =>
    simp only [step] at hstep
    split at hstep
    next hb =>
      obtain rfl := Option.some.inj hstep
      exact parked_returnInput hs h hb
    · cases hstep

theorem parked_trace (hs : s.flow.Conserved depth ∧ s.Parked) (h : lts.MTr s as t) :
    t.flow.Conserved depth ∧ t.Parked :=
  LTS.inv_of_mTr (P := fun s => s.flow.Conserved depth ∧ s.Parked)
    (fun _ _ _ hstep hs => parked_step hs.1 hs.2 hstep) h hs

theorem parked_init : (init cameraStreamId depth).Parked where
  out := List.Perm.refl _
  positive := nofun

theorem parked_run (h : lts.MTr (init cameraStreamId depth) as s) :
    s.flow.Conserved depth ∧ s.Parked :=
  parked_trace ⟨ZslFlow.conserved_init, parked_init⟩ h

/-- A refused request stays one. -/
theorem refused_step (hb : b ∈ s.refused) (hstep : s.step a = some t) : b ∈ t.refused := by
  cases a with
  | port a =>
    have hmap : ((s.flow.step a).map fun flow => { s with flow }) = some t → b ∈ t.refused := by
      intro h
      obtain ⟨flow, -, rfl⟩ := Option.map_eq_some_iff.mp h
      exact hb
    cases a with
    | pick => cases hstep
    | returnInput b => cases hstep
    | capture buffer junk => exact hmap hstep
    | result metadata => exact hmap hstep
    | pauseAndFlush => exact hmap hstep
    | resume => exact hmap hstep
  | pick =>
    obtain rfl := Option.some.inj hstep
    exact hb
  | submit i id =>
    obtain ⟨picked, -, rfl⟩ := Option.map_eq_some_iff.mp hstep
    unfold submit
    split
    · exact List.mem_append_left _ hb
    · exact hb
  | returnInput c =>
    simp only [step] at hstep
    split at hstep
    · obtain rfl := Option.some.inj hstep
      exact hb
    · cases hstep

theorem refused_run (hb : b ∈ s.refused) (h : lts.MTr s as t) : b ∈ t.refused :=
  LTS.inv_of_mTr (P := fun s => b ∈ s.refused) (fun _ _ _ hstep hb => refused_step hb hstep) h hb

/-- The frame of a refused request is in the slot, and nowhere else. -/
theorem only_parked (hs : s.flow.Conserved depth) (h : s.Parked) (hb : b ∈ s.refused) :
    b ∉ s.flow.port.buffers ∧ b ∉ s.flow.returned ∧ 0 ≤ s.flow.port.zslInputBuffer.timestamp := by
  have hslot := (of_refused h hb).1
  have hpos : 0 < b.timestamp := h.positive b (by simp [hslot])
  have hcount := hs.counted b hpos
  have hone : s.flow.received.count b ≤ 1 := List.nodup_iff_count.mp hs.distinct b
  simp only [ZslFlow.whereabouts, hslot, List.count_append, List.count_singleton_self] at hcount
  refine ⟨List.count_eq_zero.mp (by omega), List.count_eq_zero.mp (by omega), ?_⟩
  unfold ZslPort.inputSlot at hslot
  split at hslot
  next hheld => exact hheld
  next => cases hslot

/-- A frame that was picked for a request that the device refuses stays in the slot for ever: it is
neither in the queue nor given back, and every later pick is refused. -/
theorem refused_frame_stays {before after : List Action}
    (hs : lts.MTr (init cameraStreamId depth) before s) (hpicked : s.captures[i]? = some (some b))
    (hfails : captureStatus id = .unknownError) (ht : s.step (.submit i id) = some t)
    (hu : lts.MTr t after u) :
    b ∉ u.flow.port.buffers ∧ b ∉ u.flow.returned ∧ u.flow.port.pickZSLBuffer.1 ≠ .noError ∧
      (u.flow.port.zslQueue ≠ [] → u.flow.port.pickZSLBuffer.1 = .busy) := by
  have hid : 0 > id := by
    unfold captureStatus at hfails
    split at hfails
    next hid => exact hid
    next => cases hfails
  have hb : b ∈ t.refused := by
    obtain ⟨picked, hi, rfl⟩ := Option.map_eq_some_iff.mp ht
    obtain rfl := Option.some.inj (hpicked.symm.trans hi)
    simp [submit, hid]
  obtain ⟨hconserved, hparked⟩ := parked_run hs
  obtain ⟨hconserved, hparked⟩ := parked_trace (parked_step hconserved hparked ht) hu
  obtain ⟨hqueue, hreturned, hheld⟩ := only_parked hconserved hparked (refused_run hb hu)
  have hpick := pickZSLBuffer_of_parked hheld
  refine ⟨hqueue, hreturned, ?_, ?_⟩
  · rw [hpick]
    split <;> nofun
  · intro hne
    rw [hpick]
    simp [hne]

/-- The refusal of the only picked frame, and a good frame after it. -/
theorem refused_frame_stays_goodFrame :
    let before : List Action :=
      [.port (.result [.sensorTimestamp 5, .aeState [2]]),
        .port (.capture { timestamp := 5, handle := 1 } {}), .pick]
    let after : List Action :=
      [.port (.capture { timestamp := 6, handle := 2 } {}),
        .port (.result [.sensorTimestamp 6, .aeState [2]])]
    ∃ s t u, lts.MTr (init 0 4) before s ∧ s.step (.submit 0 (-38)) = some t ∧
      lts.MTr t after u ∧ ({ timestamp := 5, handle := 1 } : StreamBuffer) ∉ u.flow.port.buffers ∧
      ({ timestamp := 5, handle := 1 } : StreamBuffer) ∉ u.flow.returned ∧
      u.flow.port.pickZSLBuffer.1 ≠ .noError ∧
      (u.flow.port.zslQueue ≠ [] → u.flow.port.pickZSLBuffer.1 = .busy) := by
  intro before after
  let s := (LTS.run step (init 0 4) before).get (by decide)
  let t := (s.step (.submit 0 (-38))).get (by decide)
  have hs : lts.MTr (init 0 4) before s := LTS.mTr_ofStep_iff.mpr (Option.some_get _).symm
  have ht : s.step (.submit 0 (-38)) = some t := (Option.some_get _).symm
  have hu : lts.MTr t after ((LTS.run step t after).get (by decide)) :=
    LTS.mTr_ofStep_iff.mpr (Option.some_get _).symm
  exact ⟨s, t, _, hs, ht, hu, refused_frame_stays hs (by decide) (by decide) ht hu⟩

/-- The next good frame cannot be picked. -/
theorem busy_after_refusal :
    ¬ ∀ before s picked t after u, lts.MTr (init 0 4) before s →
      s.captures[0]? = some (some picked) → s.step (.submit 0 (-38)) = some t → lts.MTr t after u →
      (picked ∈ u.flow.port.buffers ∨ picked ∈ u.flow.returned) ∧
        u.flow.port.pickZSLBuffer.1 ≠ .busy ∧
        (u.flow.port.zslQueue.any ZslEntry.good → u.flow.port.pickZSLBuffer.1 = .noError) := by
  intro h
  let before : List Action :=
    [.port (.result [.sensorTimestamp 5, .aeState [2]]),
      .port (.capture { timestamp := 5, handle := 1 } {}), .pick]
  let after : List Action :=
    [.port (.capture { timestamp := 6, handle := 2 } {}),
      .port (.result [.sensorTimestamp 6, .aeState [2]])]
  let s := (LTS.run step (init 0 4) before).get (by decide)
  let t := (s.step (.submit 0 (-38))).get (by decide)
  have hs : lts.MTr (init 0 4) before s := LTS.mTr_ofStep_iff.mpr (Option.some_get _).symm
  have hu : lts.MTr t after ((LTS.run step t after).get (by decide)) :=
    LTS.mTr_ofStep_iff.mpr (Option.some_get _).symm
  have hlast := (h before s { timestamp := 5, handle := 1 } t after _ hs (by decide)
    (Option.some_get _).symm hu).2.2
  exact absurd (hlast (by decide)) (by decide)

end ZslCaptures

end QmmfSdk.Streams
