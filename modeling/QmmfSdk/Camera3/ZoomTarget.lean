import QmmfSdk.Camera3.ZoomArithmetic

/-! Whether smooth zoom reaches the crop that was asked for last, over the iterations of the request
handler with one repeating request. -/
namespace QmmfSdk.Camera3

open Library
open SettingsLoops (ratOps)

namespace SmoothZoom

variable {stepSize : ℚ} {size r : CropData} {z : SmoothZoom ℚ} {m : CameraSettings} {n : ℕ}

/-- When a crop that is asked for will be reached. Before the first update, or without a step size, it is
taken as it is, so it has to be on the array; during a transition it is not looked at, so it has to be
where the transition goes; at rest it begins a transition, which has to get through, and its far ends have to
be numbers and its origin not negative. -/
def Honours (size : CropData) (z : SmoothZoom ℚ) (r : CropData) : Prop :=
  if z.maxWidth = 0 ∨ z.zoomStepSize ≤ 0 then r.On size.width size.height
  else if z.isGoing then r.onto size.width size.height = z.cropTarget
  else
    (0 ≤ r.left.toInt ∧ 0 ≤ r.top.toInt) ∧
      r.left.toInt + (min r.width size.width).toInt < 2147483648 ∧
      r.top.toInt + (min r.height size.height).toInt < 2147483648 ∧
      z.cropCurrent.Passes z.zoomStepSize size.width (r.onto size.width size.height)

/-- The states of smooth zoom that runs go through. -/
inductive Regular (stepSize : ℚ) (size : CropData) (z : SmoothZoom ℚ) : Prop where
  | still (hle : stepSize ≤ 0) (h : z.zoomStepSize = stepSize)
  | fresh (hpos : 0 < stepSize) (h : Fresh stepSize z)
  | rests (h : Rests stepSize size.width size.height z)
  | goes {c t : CropData} {n k : ℕ} (h : Goes stepSize size.width size.height c t n k z)

/-- At most `n` updates of the request `m` are left until the crop is that of `r` on the array. -/
inductive Nears (stepSize : ℚ) (size r : CropData) (n : ℕ) (z : SmoothZoom ℚ) (m : CameraSettings) :
    Prop where
  | still (hle : stepSize ≤ 0) (h : z.zoomStepSize = stepSize) (hm : m.cropRegion = some r)
      (hon : r.On size.width size.height)
  | fresh (hpos : 0 < stepSize) (h : Fresh stepSize z) (hsize : m.activeArraySize = some size)
      (hm : m.cropRegion = some r) (hon : r.On size.width size.height) (hn : 0 < n)
  | waits (h : Rests stepSize size.width size.height z) (hm : m.cropRegion = some r)
      (hclamp : z.clamp r = r.onto size.width size.height)
      (hon : (r.onto size.width size.height).On size.width size.height)
      (hpasses : z.cropCurrent.Passes stepSize size.width (r.onto size.width size.height))
      (hn : CropData.steps stepSize size.width z.cropCurrent (r.onto size.width size.height) < n)
  | goes {c : CropData} {j k : ℕ}
      (h : Goes stepSize size.width size.height c (r.onto size.width size.height) j k z)
      (hn : j < n + k)
  | rests (h : Rests stepSize size.width size.height z)
      (hreached : z.cropCurrent = r.onto size.width size.height)
      (hm : m.cropRegion = some z.cropCurrent)

theorem Nears.regular (h : Nears stepSize size r n z m) : Regular stepSize size z := by
  cases h with
  | still hle h => exact .still hle h
  | fresh hpos h => exact .fresh hpos h
  | waits h => exact .rests h
  | goes h => exact .goes h
  | rests h => exact .rests h

/-- A request for a crop that will be reached. -/
theorem Regular.nears (h : Regular stepSize size z) (hsize : m.activeArraySize = some size)
    (hm : m.cropRegion = some r) (hr : 0 < r.width.toInt ∧ 0 < r.height.toInt)
    (hhonours : Honours size z r) : ∃ n, Nears stepSize size r n z m := by
  unfold Honours at hhonours
  cases h with
  | still hle h =>
    rw [if_pos (.inr (h.trans_le hle))] at hhonours
    exact ⟨0, .still hle h hm hhonours⟩
  | fresh hpos h =>
    rw [if_pos (.inl h.width)] at hhonours
    exact ⟨1, .fresh hpos h hsize hm hhonours Nat.one_pos⟩
  | rests h =>
    have hknown : ¬ (z.maxWidth = 0 ∨ z.zoomStepSize ≤ 0) := by
      rw [h.ready.width, h.ready.size]
      exact not_or.mpr ⟨ne_zero_of_pos h.ready.widthPos, not_le.mpr h.ready.pos⟩
    have hrest : ¬ z.isGoing = true := by
      rw [isGoing, h.steps]
      decide
    rw [if_neg hknown, if_neg hrest, h.ready.size] at hhonours
    obtain ⟨horigin, hright, hbottom, hpasses⟩ := hhonours
    exact ⟨_, .waits h hm (h.ready.clamp_eq_onto horigin hr hright hbottom)
      (CropData.onto_on h.ready.widthPos h.ready.heightPos hr) hpasses (Nat.lt_succ_self _)⟩
  | @goes c t n k h =>
    have hknown : ¬ (z.maxWidth = 0 ∨ z.zoomStepSize ≤ 0) := by
      rw [h.ready.width, h.ready.size]
      exact not_or.mpr ⟨ne_zero_of_pos h.ready.widthPos, not_le.mpr h.ready.pos⟩
    have hgoing : z.isGoing = true := by
      have hle := h.le
      have hsteps := h.moves.steps
      refine decide_eq_true ?_
      rw [ge_iff_le, Int32.le_iff_toInt_le, Int32.toInt_zero]
      omega
    rw [if_neg hknown, if_pos hgoing, h.moves.target] at hhonours
    exact ⟨n + 1, .goes (hhonours.symm ▸ h) (by omega)⟩

/-- One update less is left. -/
theorem Nears.update (h : Nears stepSize size r (n + 1) z m) :
    Nears stepSize size r n (z.update ratOps m).1 (z.update ratOps m).2 := by
  cases h with
  | still hle h hm hon =>
    obtain ⟨hsame, hstep⟩ := update_of_nonpos (m := m) (h.trans_le hle)
    rw [hsame]
    exact .still hle (hstep.trans h) hm hon
  | fresh hpos h hsize hm hon hn =>
    obtain ⟨hrests, hcurrent, hsame⟩ := h.update_eq hpos hsize hm hon
    rw [hsame]
    exact .rests hrests (hcurrent.trans hon.onto_eq.symm) (hm.trans (congrArg some hcurrent.symm))
  | waits h hm hclamp hon hpasses hn =>
    by_cases hne : r = z.cropCurrent
    · rw [h.update_same (hne ▸ hm)]
      have hr : r.On size.width size.height := hne ▸ h.on
      exact .rests h (hne.symm.trans hr.onto_eq.symm) (hne ▸ hm)
    · rcases h.update_other hm hne hclamp hon hpasses with ⟨hrests, hcurrent, heq⟩ | ⟨j, hgoes, heq⟩
      · exact .rests hrests hcurrent (by rw [heq, hcurrent])
      · have hcount := hgoes.count
        exact .goes hgoes (by omega)
  | @goes c j k h hn =>
    by_cases hk : k < j
    · exact .goes (h.update_next hk).1 (by omega)
    · obtain rfl : k = j := by
        have hle := h.le
        omega
      obtain ⟨hrests, hcurrent, heq⟩ := h.update_last (m := m)
      exact .rests hrests hcurrent (by rw [heq, hcurrent])
  | rests h hreached hm =>
    rw [h.update_same hm]
    exact .rests h hreached hm

/-- With none left, the update writes the crop that was asked for, and so do all that follow. -/
theorem Nears.update_zero (h : Nears stepSize size r 0 z m) :
    Nears stepSize size r 0 (z.update ratOps m).1 (z.update ratOps m).2 ∧
      (z.update ratOps m).2.cropRegion = some (r.onto size.width size.height) := by
  cases h with
  | still hle h hm hon =>
    obtain ⟨hsame, hstep⟩ := update_of_nonpos (m := m) (h.trans_le hle)
    rw [hsame, hon.onto_eq]
    exact ⟨.still hle (hstep.trans h) hm hon, hm⟩
  | fresh hpos h hsize hm hon hn => omega
  | waits h hm hclamp hon hpasses hn => omega
  | goes h hn =>
    have hle := h.le
    omega
  | rests h hreached hm =>
    rw [h.update_same hm, hm, hreached]
    exact ⟨.rests h hreached hm, rfl⟩

end SmoothZoom

namespace SettingsLoops

variable {stepSize : ℚ} {size r : CropData} {s t : SettingsLoops ℚ} {a : SettingsAction}
  {as : List SettingsAction} {q : MetaRequest} {n : ℕ}

/-- The crop that a new repeating request asks for. -/
def asked : SettingsAction → Option CropData
  | .submitRequestList [p] _ => p.1.cropRegion
  | _ => none

/-- The last crop that was asked for. -/
def lastAsked (as : List SettingsAction) : Option CropData := (as.filterMap asked).getLast?

/-- There is one repeating request at most, and others take its place: each names the array and a crop of
positive size. -/
def Repeating (size : CropData) : SettingsAction → Prop
  | .submitRequestList rs streaming =>
    streaming = true ∧ ∃ p, rs = [p] ∧ p.2.2 = false ∧ p.1.activeArraySize = some size ∧
      ∃ r, p.1.cropRegion = some r ∧ 0 < r.width.toInt ∧ 0 < r.height.toInt
  | .clearRepeatingRequests | .clear => False
  | .configureStreams | .finishConfiguration _ | .getRequest | .exitPending | .nextReproc
  | .chooseSettings _ | .submit _ _ => True

/-- The crop of the request that `GetRequest` takes next. -/
def nextCrop (s : SettingsLoops ℚ) : Option CropData :=
  (s.nextRequest ratOps).bind fun x => x.1.metadata.cropRegion

def isGetRequest : SettingsAction → Bool
  | .getRequest => true
  | _ => false

/-- The loops with one repeating request, where no further crop is asked for. -/
def unasked (size : CropData) : LTS (SettingsLoops ℚ) SettingsAction :=
  (LTS.ofStep (step ratOps)).guarded fun _ a => Repeating size a ∧ asked a = none

/-- Once no further crop is asked for, every request that is taken after finitely many has the crop that was
asked for, clamped to the array. -/
def Reaches (size r : CropData) (s : SettingsLoops ℚ) : Prop :=
  ∃ n, ∀ (as : List SettingsAction) (t : SettingsLoops ℚ), (unasked size).MTr s as t →
    n ≤ as.countP isGetRequest → t.nextCrop = some (r.onto size.width size.height)

/-- Nothing is queued but one repeating request, with at most `n` updates left. -/
structure Settles (stepSize : ℚ) (size r : CropData) (n : ℕ) (s : SettingsLoops ℚ) (q : MetaRequest) :
    Prop where
  requests : s.requests = []
  streaming : s.streamingRequests = [q]
  nears : SmoothZoom.Nears stepSize size r n s.smoothZoom q.metadata

/-- The queues and the zoom, which a loop does not touch on its way to the HAL. -/
def Same (s t : SettingsLoops ℚ) : Prop :=
  t.requests = s.requests ∧ t.streamingRequests = s.streamingRequests ∧ t.smoothZoom = s.smoothZoom

theorem same_setLoop {l : LoopName} {p : SubmitPhase} : s.Same (s.setLoop l p) := ⟨rfl, rfl, rfl⟩

theorem same_forgetOld : s.Same s.forgetOld := by
  unfold forgetOld
  split
  · exact ⟨rfl, rfl, rfl⟩
  · exact ⟨rfl, rfl, rfl⟩

/-- The steps that are no iteration and no request leave the zoom and the requests alone. -/
theorem same_step (h : s.step ratOps a = some t) (ha : Repeating size a) (hasked : asked a = none)
    (hget : isGetRequest a = false) : s.Same t := by
  cases a with
  | submitRequestList rs streaming =>
    obtain ⟨-, p, rfl, -, -, r, hr, -⟩ := ha
    rw [show asked (.submitRequestList [p] streaming) = p.1.cropRegion from rfl, hr] at hasked
    cases hasked
  | clearRepeatingRequests | clear => exact ha.elim
  | configureStreams =>
    obtain rfl := Option.some.inj h
    exact ⟨rfl, rfl, rfl⟩
  | finishConfiguration batchSize =>
    simp only [step] at h
    split at h
    · obtain rfl := Option.some.inj h
      exact ⟨rfl, rfl, rfl⟩
    · cases h
  | getRequest => cases hget
  | exitPending =>
    simp only [step] at h
    split at h
    · obtain rfl := Option.some.inj h
      exact same_setLoop
    · obtain rfl := Option.some.inj h
      exact same_setLoop
    · cases h
  | nextReproc =>
    simp only [step] at h
    split at h
    · obtain rfl := Option.some.inj h
      unfold nextReproc
      split
      · exact ⟨rfl, rfl, rfl⟩
      · obtain ⟨h₁, h₂, h₃⟩ := same_forgetOld (s := { s with
          reprocRequests := _
          currentInputFrameNumber := s.currentInputFrameNumber + 1
          workerBusy := true })
        exact ⟨h₁, h₂, h₃⟩
    · cases h
    · cases h
  | chooseSettings l =>
    simp only [step] at h
    split at h
    next r hl =>
      obtain rfl := Option.some.inj h
      unfold chooseSettings
      split
      · exact ⟨rfl, rfl, rfl⟩
      · exact same_setLoop
    next => cases h
    next => cases h
  | submit l o =>
    simp only [step] at h
    split at h
    next r settings hl =>
      obtain rfl := Option.some.inj h
      exact ⟨rfl, rfl, rfl⟩
    next => cases h
    next => cases h

theorem Settles.of_same (h : Settles stepSize size r n s q) (hsame : s.Same t) :
    Settles stepSize size r n t q := by
  refine ⟨hsame.1.trans h.requests, hsame.2.1.trans h.streaming, ?_⟩
  rw [hsame.2.2]
  exact h.nears

/-- What `GetRequest` takes where nothing is queued but one repeating request. -/
theorem nextRequest_of_repeats (hrequests : s.requests = []) (hstreaming : s.streamingRequests = [q]) :
    s.nextRequest ratOps =
      some ({ q with metadata := (s.smoothZoom.update ratOps q.metadata).2 }.stamp s.currentFrameNumber,
        { s with
          requests := []
          streamingRequests := [{ q with metadata := (s.smoothZoom.update ratOps q.metadata).2 }]
          smoothZoom := (s.smoothZoom.update ratOps q.metadata).1
          currentFrameNumber := s.currentFrameNumber + 1 }) := by
  unfold nextRequest
  rw [hrequests, hstreaming]
  rfl

theorem nextCrop_of_repeats (hrequests : s.requests = []) (hstreaming : s.streamingRequests = [q]) :
    s.nextCrop = (s.smoothZoom.update ratOps q.metadata).2.cropRegion := by
  rw [nextCrop, nextRequest_of_repeats hrequests hstreaming]
  rfl

/-- An iteration is one update of the repeating request. -/
theorem getRequest_repeats (h : s.step ratOps .getRequest = some t) (hrequests : s.requests = [])
    (hstreaming : s.streamingRequests = [q]) :
    t.requests = [] ∧
      t.streamingRequests = [{ q with metadata := (s.smoothZoom.update ratOps q.metadata).2 }] ∧
      t.smoothZoom = (s.smoothZoom.update ratOps q.metadata).1 := by
  simp only [step] at h
  split at h
  · obtain rfl := Option.some.inj h
    unfold getRequest
    rw [nextRequest_of_repeats hrequests hstreaming]
    exact (same_forgetOld (s := { s with
      requests := []
      streamingRequests := [{ q with metadata := (s.smoothZoom.update ratOps q.metadata).2 }]
      smoothZoom := (s.smoothZoom.update ratOps q.metadata).1
      currentFrameNumber := s.currentFrameNumber + 1 }))
  · cases h
  · cases h

/-- A step without a request leaves no more updates to do, and an iteration one less. -/
theorem Settles.step (hs : Settles stepSize size r n s q) (h : s.step ratOps a = some t)
    (ha : Repeating size a) (hasked : asked a = none) :
    ∃ q, Settles stepSize size r (n - [a].countP isGetRequest) t q := by
  cases hget : isGetRequest a with
  | false =>
    refine ⟨q, ?_⟩
    have hcount : [a].countP isGetRequest = 0 := by simp [hget]
    rw [hcount]
    exact hs.of_same (same_step h ha hasked hget)
  | true =>
    obtain rfl : a = .getRequest := by
      cases a with
      | getRequest => rfl
      | _ => cases hget
    obtain ⟨hrequests, hstreaming, hzoom⟩ := getRequest_repeats h hs.requests hs.streaming
    refine ⟨_, hrequests, hstreaming, ?_⟩
    rw [hzoom]
    change SmoothZoom.Nears stepSize size r (n - 1) _ _
    cases n with
    | zero => exact hs.nears.update_zero.1
    | succ n => exact hs.nears.update

/-- A run without a request leaves fewer updates to do by the number of its iterations. -/
theorem Settles.run (hs : Settles stepSize size r n s q) (h : (unasked size).MTr s as t) :
    ∃ q, Settles stepSize size r (n - as.countP isGetRequest) t q := by
  induction h generalizing n q with
  | refl => exact ⟨q, hs⟩
  | @stepL s u t a as hstep _ ih =>
    obtain ⟨q', hq'⟩ := hs.step hstep.1 hstep.2.1 hstep.2.2
    obtain ⟨q'', hq''⟩ := ih hq'
    refine ⟨q'', ?_⟩
    have hcount : n - (a :: as).countP isGetRequest =
        n - [a].countP isGetRequest - as.countP isGetRequest := by
      rw [List.countP_cons, List.countP_singleton]
      omega
    rw [hcount]
    exact hq''

theorem Settles.reaches (hs : Settles stepSize size r n s q) : Reaches size r s := by
  refine ⟨n, fun as t h hle => ?_⟩
  obtain ⟨q', hq'⟩ := hs.run h
  rw [Nat.sub_eq_zero_of_le hle] at hq'
  rw [nextCrop_of_repeats hq'.requests hq'.streaming]
  exact hq'.nears.update_zero.2

/-- The states of the loops by the last crop that was asked for. -/
def Steady (stepSize : ℚ) (size : CropData) (s : SettingsLoops ℚ) : Option CropData → Prop
  | none => s.requests = [] ∧ s.streamingRequests = [] ∧ SmoothZoom.Regular stepSize size s.smoothZoom
  | some r => ∃ n q, Settles stepSize size r n s q

theorem Steady.regular {last : Option CropData} (h : Steady stepSize size s last) :
    s.requests = [] ∧ SmoothZoom.Regular stepSize size s.smoothZoom := by
  cases last with
  | none => exact ⟨h.1, h.2.2⟩
  | some r =>
    obtain ⟨n, q, hq⟩ := h
    exact ⟨hq.requests, hq.nears.regular⟩

/-- Without a repeating request an iteration does nothing. -/
theorem getRequest_of_empty (h : s.step ratOps .getRequest = some t) (hrequests : s.requests = [])
    (hstreaming : s.streamingRequests = []) : t = s := by
  have hnext : s.nextRequest ratOps = none := by
    unfold nextRequest
    rw [hrequests, hstreaming]
    rfl
  simp only [step] at h
  split at h
  · obtain rfl := Option.some.inj h
    unfold getRequest
    rw [hnext]
  · cases h
  · cases h

theorem Steady.step_unasked {last : Option CropData} (hs : Steady stepSize size s last)
    (h : s.step ratOps a = some t) (ha : Repeating size a) (hasked : asked a = none) :
    Steady stepSize size t last := by
  cases last with
  | none =>
    cases hget : isGetRequest a with
    | false =>
      obtain ⟨hrequests, hstreaming, hzoom⟩ := same_step h ha hasked hget
      exact ⟨hrequests.trans hs.1, hstreaming.trans hs.2.1, hzoom ▸ hs.2.2⟩
    | true =>
      obtain rfl : a = .getRequest := by
        cases a with
        | getRequest => rfl
        | _ => cases hget
      rw [getRequest_of_empty h hs.1 hs.2.1]
      exact hs
  | some r =>
    obtain ⟨n, q, hq⟩ := hs
    obtain ⟨q', hq'⟩ := hq.step h ha hasked
    exact ⟨_, q', hq'⟩

/-- A repeating request takes the place of the one before. -/
theorem step_submit (s : SettingsLoops ℚ) {p : CameraSettings × List Nat × Bool}
    (hinput : p.2.2 = false) : ∃ q t, s.step ratOps (.submitRequestList [p] true) = some t ∧
      t.requests = s.requests ∧ t.streamingRequests = [q] ∧ t.smoothZoom = s.smoothZoom ∧
      q.metadata.activeArraySize = p.1.activeArraySize ∧ q.metadata.cropRegion = p.1.cropRegion := by
  obtain ⟨q, hq, hno, hsize, hcrop⟩ : ∃ q, requestsOf s.nextRequestId [p] = [q] ∧ q.input = p.2.2 ∧
      q.metadata.activeArraySize = p.1.activeArraySize ∧
      q.metadata.cropRegion = p.1.cropRegion := ⟨_, rfl, rfl, rfl, rfl⟩
  have hadd : s.addRequestList [q] true = some { s with streamingRequests := [q] } := by
    simp [addRequestList, hno, hinput]
  refine ⟨q, { s with streamingRequests := [q], nextRequestId := s.nextRequestId + 1 }, ?_, rfl, rfl, rfl,
    hsize, hcrop⟩
  simp only [step, hq, hadd]
  rfl

/-- A request for a crop that will be reached. -/
theorem Steady.step_asked {last : Option CropData} (hs : Steady stepSize size s last)
    (h : s.step ratOps a = some t) (ha : Repeating size a) (hasked : asked a = some r)
    (hhonours : s.smoothZoom.Honours size r) : Steady stepSize size t (some r) := by
  cases a with
  | submitRequestList rs streaming =>
    obtain ⟨rfl, p, rfl, hinput, hsize, r', hcrop, hpos⟩ := ha
    obtain rfl : r' = r := Option.some.inj (hcrop.symm.trans hasked)
    obtain ⟨q, t', ht, hrequests, hstreaming, hzoom, hqsize, hqcrop⟩ := step_submit s hinput
    obtain rfl := Option.some.inj (ht.symm.trans h)
    obtain ⟨hempty, hregular⟩ := hs.regular
    obtain ⟨n, hn⟩ := hregular.nears (hqsize.trans hsize) (hqcrop.trans hcrop) hpos hhonours
    exact ⟨n, q, hrequests.trans hempty, hstreaming, hzoom ▸ hn⟩
  | _ => cases hasked

/-- The last crop of a run that begins with a step. -/
theorem lastAsked_cons : lastAsked (a :: as) = (lastAsked as).or (asked a) := by
  unfold lastAsked
  cases ha : asked a with
  | none => rw [List.filterMap_cons_none ha, Option.or_none]
  | some r =>
    rw [List.filterMap_cons_some ha, List.getLast?_cons]
    cases (as.filterMap asked).getLast? <;> rfl

theorem Steady.run {last : Option CropData} (hs : Steady stepSize size s last)
    (h : ((LTS.ofStep (step ratOps)).guarded fun s a => Repeating size a ∧
      ∀ r ∈ asked a, s.smoothZoom.Honours size r).MTr s as t) :
    Steady stepSize size t ((lastAsked as).or last) := by
  induction h generalizing last with
  | refl => exact hs
  | @stepL s u t a as hstep _ ih =>
    obtain ⟨hstep, ha, hhonours⟩ := hstep
    rw [lastAsked_cons]
    cases hasked : asked a with
    | none =>
      rw [Option.or_none]
      exact ih (hs.step_unasked hstep ha hasked)
    | some r =>
      have hnext := ih (hs.step_asked hstep ha hasked (hhonours r hasked))
      rwa [Option.or_assoc, Option.some_or]

theorem steady_init : Steady stepSize size
    { smoothZoom := { SmoothZoom.init ratOps stepSize with enable := true } } none := by
  refine ⟨rfl, rfl, ?_⟩
  by_cases hpos : 0 < stepSize
  · exact .fresh hpos ⟨rfl, rfl, rfl, rfl⟩
  · exact .still (not_lt.mp hpos) rfl

/-- As long as each crop that is asked for can be reached from where smooth zoom is then, the last one is
reached after finitely many iterations, and stays. -/
theorem reaches_of_honours
    (h : ((LTS.ofStep (step ratOps)).guarded fun s a => Repeating size a ∧
      ∀ r ∈ asked a, s.smoothZoom.Honours size r).MTr
        { smoothZoom := { SmoothZoom.init ratOps stepSize with enable := true } } as s)
    (hlast : lastAsked as = some r) : Reaches size r s := by
  have hs := steady_init.run h
  rw [hlast, Option.some_or] at hs
  obtain ⟨n, q, hq⟩ := hs
  exact hq.reaches

/-- A crop that is asked for during a transition is lost: the loops settle as they would have without it. -/
theorem Settles.lost (hs : Settles stepSize size r n s q)
    (hknown : ¬ (s.smoothZoom.maxWidth = 0 ∨ s.smoothZoom.zoomStepSize ≤ 0))
    (hgoing : s.smoothZoom.isGoing = true) (h : s.step ratOps a = some t) (ha : Repeating size a)
    {r' : CropData} (hasked : asked a = some r') : ∃ q, Settles stepSize size r n t q := by
  cases a with
  | submitRequestList rs streaming =>
    obtain ⟨rfl, p, rfl, hinput, -⟩ := ha
    obtain ⟨q', t', ht, hrequests, hstreaming, hzoom, -⟩ := step_submit s hinput
    obtain rfl := Option.some.inj (ht.symm.trans h)
    refine ⟨q', hrequests.trans hs.requests, hstreaming, ?_⟩
    rw [hzoom]
    have hrest : s.smoothZoom.zoomSteps = -1 → s.smoothZoom.isGoing = false := by
      intro hsteps
      rw [SmoothZoom.isGoing, hsteps]
      decide
    cases hs.nears with
    | still hle h => exact absurd (.inr (h.trans_le hle)) hknown
    | fresh hpos h => exact absurd (.inl h.width) hknown
    | waits h => exact absurd hgoing (Bool.eq_false_iff.mp (hrest h.steps))
    | rests h => exact absurd hgoing (Bool.eq_false_iff.mp (hrest h.steps))
    | goes h hn => exact .goes h hn
  | _ => cases hasked

/-- The way of the handler's thread to where it can take the next request. -/
theorem exists_idle (size : CropData) (s : SettingsLoops ℚ) : ∃ as t, (unasked size).MTr s as t ∧
    as.countP isGetRequest = 0 ∧ t.loops .thread = .idle := by
  have hsubmit : ∀ (s : SettingsLoops ℚ) r settings, s.loops .thread = .submitting r settings →
      ∃ t, (unasked size).MTr s [.submit .thread .accepted] t ∧ t.loops .thread = .idle := by
    intro s r settings hl
    refine ⟨s.submit .thread r settings .accepted, .stepL ⟨?_, trivial, rfl⟩ .refl, ?_⟩
    · change SettingsLoops.step _ _ _ = _
      simp only [SettingsLoops.step, hl]
    · simp [SettingsLoops.submit, setLoop]
  cases hl : s.loops .thread with
  | idle => exact ⟨[], s, .refl, rfl, hl⟩
  | submitting r settings =>
    obtain ⟨t, ht, hidle⟩ := hsubmit s r settings hl
    exact ⟨_, t, ht, rfl, hidle⟩
  | taken r =>
    have hchosen : ∃ settings, (s.chooseSettings .thread r).loops .thread = .submitting r settings := by
      unfold SettingsLoops.chooseSettings
      split
      · exact ⟨some r.metadata, by simp [setLoop]⟩
      · exact ⟨none, by simp [setLoop]⟩
    obtain ⟨settings, hchosen⟩ := hchosen
    obtain ⟨t, ht, hidle⟩ := hsubmit _ r settings hchosen
    refine ⟨.chooseSettings .thread :: _, t, .stepL ⟨?_, trivial, rfl⟩ ht, rfl, hidle⟩
    change SettingsLoops.step _ _ _ = _
    simp only [SettingsLoops.step, hl]

/-- There are runs with any number of iterations. -/
theorem exists_iterations (size : CropData) (s : SettingsLoops ℚ) (n : ℕ) :
    ∃ as t, (unasked size).MTr s as t ∧ as.countP isGetRequest = n := by
  induction n generalizing s with
  | zero => exact ⟨[], s, .refl, rfl⟩
  | succ n ih =>
    obtain ⟨as, t, ht, hzero, hidle⟩ := exists_idle size s
    obtain ⟨bs, u, hu, hcount⟩ := ih (t.getRequest ratOps)
    have hget : t.step ratOps .getRequest = some (t.getRequest ratOps) := by
      simp only [SettingsLoops.step, hidle]
    refine ⟨as ++ .getRequest :: bs, u, ht.append (.stepL ⟨hget, trivial, rfl⟩ hu), ?_⟩
    rw [List.countP_append, List.countP_cons, hzero, hcount, Nat.zero_add]
    rfl

/-- Two crops are not both reached. -/
theorem Reaches.unique {r' : CropData} (h : Reaches size r s) (h' : Reaches size r' s) :
    r.onto size.width size.height = r'.onto size.width size.height := by
  obtain ⟨n, hn⟩ := h
  obtain ⟨n', hn'⟩ := h'
  obtain ⟨as, t, ht, hcount⟩ := exists_iterations size s (max n n')
  have hr := hn as t ht (hcount ▸ le_max_left n n')
  have hr' := hn' as t ht (hcount ▸ le_max_right n n')
  exact Option.some.inj (hr.symm.trans hr')

instance {size : CropData} {z : SmoothZoom ℚ} {r : CropData} : Decidable (z.Honours size r) := by
  unfold SmoothZoom.Honours
  infer_instance

instance : Decidable (Repeating size a) :=
  match a with
  | .submitRequestList rs streaming =>
    decidable_of_iff (streaming = true ∧ ∃ p ∈ rs.head?, rs = [p] ∧ p.2.2 = false ∧
        p.1.activeArraySize = some size ∧
        ∃ r ∈ p.1.cropRegion, 0 < r.width.toInt ∧ 0 < r.height.toInt) (by
      constructor
      · rintro ⟨hstreaming, p, -, hp⟩
        exact ⟨hstreaming, p, hp⟩
      · rintro ⟨hstreaming, p, rfl, hp⟩
        exact ⟨hstreaming, p, rfl, rfl, hp⟩)
  | .clearRepeatingRequests | .clear => .isFalse id
  | .configureStreams | .finishConfiguration _ | .getRequest | .exitPending | .nextReproc
  | .chooseSettings _ | .submit _ _ => .isTrue trivial

/-- A repeating request for another crop, and an iteration with it. -/
def cropRound (crop : CropData) : List SettingsAction :=
  [.submitRequestList [({ activeArraySize := some wholeArray, cropRegion := some crop }, [0], false)] true,
    .getRequest, .chooseSettings .thread, .submit .thread .accepted]

def zoomedIn : CropData := ⟨1000, 750, 2000, 1500⟩

/-- The whole array, and then half of it. -/
def zoomInRounds : List SettingsAction := cropRound wholeArray ++ cropRound zoomedIn

/-- The transition is under way when the run ends, and goes to the crop that was asked for. -/
theorem reaches_zoomedIn : ∃ s,
    ((LTS.ofStep (step ratOps)).guarded fun s a => Repeating wholeArray a ∧
      ∀ r ∈ asked a, s.smoothZoom.Honours wholeArray r).MTr { smoothZoom := zoom } zoomInRounds s ∧
      s.nextCrop = some ⟨400, 300, 3200, 2400⟩ ∧ Reaches wholeArray zoomedIn s := by
  have hcrop : (LTS.run (step ratOps) { smoothZoom := zoom } zoomInRounds).map (·.nextCrop) =
      some (some ⟨400, 300, 3200, 2400⟩) := by decide +kernel
  obtain ⟨s, hs, hnext⟩ := Option.map_eq_some_iff.mp hcrop
  have hmeets : LTS.Meets (step ratOps) (fun s a => Repeating wholeArray a ∧
      ∀ r ∈ asked a, s.smoothZoom.Honours wholeArray r) { smoothZoom := zoom } zoomInRounds := by
    decide +kernel
  have hrun := LTS.mTr_guarded_iff.mpr ⟨hs, hmeets⟩
  exact ⟨s, hrun, hnext, reaches_of_honours hrun rfl⟩

/-- The request for the whole array again, which comes during the transition. -/
def zoomOutAgain : SettingsAction :=
  .submitRequestList [({ activeArraySize := some wholeArray, cropRegion := some wholeArray }, [0], false)]
    true

/-- The crop stays where the transition went. -/
theorem zoomOut_lost : ¬ ∀ (stepSize : ℚ) (size : CropData) (as : List SettingsAction)
    (s : SettingsLoops ℚ) (r : CropData),
      ((LTS.ofStep (step ratOps)).guarded fun _ a => Repeating size a).MTr
        { smoothZoom := { SmoothZoom.init ratOps stepSize with enable := true } } as s →
      lastAsked as = some r → Reaches size r s := by
  intro hall
  have hstate : (LTS.run (step ratOps) { smoothZoom := zoom } zoomInRounds).map (fun s =>
      (decide (s.smoothZoom.maxWidth = 0 ∨ s.smoothZoom.zoomStepSize ≤ 0), s.smoothZoom.isGoing)) =
      some (false, true) := by decide +kernel
  obtain ⟨s, hs, hfields⟩ := Option.map_eq_some_iff.mp hstate
  obtain ⟨hknown, hgoing⟩ := Prod.mk.inj hfields
  have hmeets : LTS.Meets (step ratOps) (fun s a => Repeating wholeArray a ∧
      ∀ r ∈ asked a, s.smoothZoom.Honours wholeArray r) { smoothZoom := zoom } zoomInRounds := by
    decide +kernel
  have hrun := LTS.mTr_guarded_iff.mpr ⟨hs, hmeets⟩
  obtain ⟨n, q, hq⟩ : Steady (1 / 10) wholeArray s (some zoomedIn) := steady_init.run hrun
  have hrepeats : Repeating wholeArray zoomOutAgain := by decide
  obtain ⟨-, t, ht, -⟩ := step_submit s
    (p := ({ activeArraySize := some wholeArray, cropRegion := some wholeArray }, [0], false)) rfl
  obtain ⟨q', hq'⟩ := hq.lost (of_decide_eq_false hknown) hgoing ht hrepeats rfl
  have hrepeating : ((LTS.ofStep (step ratOps)).guarded fun _ a => Repeating wholeArray a).MTr
      { smoothZoom := zoom } zoomInRounds s := LTS.mTr_guarded_mono hrun fun _ _ h => h.1
  have hreached := hall (1 / 10) wholeArray _ t wholeArray
    (hrepeating.append (.stepL ⟨ht, hrepeats⟩ .refl)) rfl
  have heq := hreached.unique hq'.reaches
  revert heq
  decide

end SettingsLoops

end QmmfSdk.Camera3
