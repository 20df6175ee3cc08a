import QmmfSdk.Pipeline.Pacing

/-! The repeat loop of `OnFrameAvailable` in exact arithmetic: for which frames it ends. -/
namespace QmmfSdk.Pipeline

namespace Pacer

variable {th : Thresholds} {p q : Pacer} {t u I : Int} {ts : List Int} {n : Nat}

/-- The distance to the expected timestamp is half an interval or more. -/
def repeatFrame (p : Pacer) (timestamp : Int) : Bool :=
  let delta := (p.expectedOutputTs - timestamp).natAbs
  p.inputFrameInterval != 0 && p.outputFrameInterval ≤ 2 * delta

/-- The repeat loop, where it ends within so many tests. -/
def repeatLoop (p : Pacer) (timestamp : Int) : Nat → Option Pacer
  | 0 => none
  | n + 1 =>
    if p.repeatFrame timestamp then p.countRepeat.repeatLoop timestamp n else some p

def LoopEnds (p : Pacer) (timestamp : Int) : Prop := ∃ n q, p.repeatLoop timestamp n = some q

/-- A frame with repeat, where the loop ends within so many tests. -/
def onFrameRepeat (th : Thresholds) (p : Pacer) (timestamp : Int) (n : Nat) : Option Pacer :=
  ((p.receive timestamp).repeatLoop timestamp n).map fun p => p.schedule th timestamp

/-- The loop ends for every frame of the run. -/
def EveryLoopEnds (th : Thresholds) (p : Pacer) : List Int → Prop
  | [] => True
  | t :: ts => (p.receive t).LoopEnds t ∧
      ∀ n q, p.onFrameRepeat th t n = some q → EveryLoopEnds th q ts

/-- Steps of one interval from the expected timestamp come within half an interval of the frame: it
is not half an interval after the frame, nor an odd number of half intervals away. -/
def ComesNear (p : Pacer) (timestamp : Int) : Prop :=
  2 * (p.expectedOutputTs - timestamp) < p.outputFrameInterval ∧
    2 * (p.expectedOutputTs - timestamp) % (2 * p.outputFrameInterval) ≠ p.outputFrameInterval

instance : Decidable (p.ComesNear t) := by
  unfold ComesNear
  infer_instance

/-- Every frame of the run comes near. -/
def EveryFrameComesNear (th : Thresholds) (p : Pacer) : List Int → Prop
  | [] => True
  | t :: ts => (p.receive t).ComesNear t ∧
      ∀ n q, p.onFrameRepeat th t n = some q → EveryFrameComesNear th q ts

theorem repeatFrame_iff : p.repeatFrame t = true ↔ p.inputFrameInterval ≠ 0 ∧
    (p.outputFrameInterval ≤ 2 * (p.expectedOutputTs - t) ∨
      2 * (p.expectedOutputTs - t) ≤ -p.outputFrameInterval) := by
  simp only [repeatFrame, Bool.and_eq_true, bne_iff_ne, decide_eq_true_eq]
  omega

theorem LoopEnds.of_countRepeat (h : p.countRepeat.LoopEnds t) : p.LoopEnds t := by
  obtain ⟨n, q, hq⟩ := h
  by_cases hrep : p.repeatFrame t = true
  · exact ⟨n + 1, q, by simp [repeatLoop, hrep, hq]⟩
  · exact ⟨1, p, by simp [repeatLoop, hrep]⟩

theorem emod_countRepeat :
    2 * (p.countRepeat.expectedOutputTs - t) % (2 * p.outputFrameInterval) =
      2 * (p.expectedOutputTs - t) % (2 * p.outputFrameInterval) := by
  have hadd : 2 * (p.countRepeat.expectedOutputTs - t) =
      2 * (p.expectedOutputTs - t) + 2 * p.outputFrameInterval := by
    simp only [countRepeat]
    ring
  rw [hadd, Int.add_emod_right]

/-- A turn of the loop keeps a frame near that the loop repeats. -/
theorem ComesNear.countRepeat (h : p.ComesNear t) (hI : 0 < p.outputFrameInterval)
    (hrep : p.repeatFrame t = true) : p.countRepeat.ComesNear t := by
  obtain ⟨hlt, hne⟩ := h
  obtain ⟨-, hfar⟩ := repeatFrame_iff.mp hrep
  have hhalf : 2 * (p.expectedOutputTs - t) ≠ -p.outputFrameInterval := by
    intro heq
    apply hne
    have hwrap : -p.outputFrameInterval =
        p.outputFrameInterval + 2 * p.outputFrameInterval * -1 := by ring
    rw [heq, hwrap, Int.add_mul_emod_self_left, Int.emod_eq_of_lt (by omega) (by omega)]
  refine ⟨?_, by rw [← emod_countRepeat] at hne; exact hne⟩
  simp only [Pacer.countRepeat]
  omega

theorem ComesNear.of_countRepeat (h : p.countRepeat.ComesNear t) (hI : 0 < p.outputFrameInterval) :
    p.ComesNear t := by
  obtain ⟨hlt, hne⟩ := h
  have hmod := emod_countRepeat (p := p) (t := t)
  have hint : p.countRepeat.outputFrameInterval = p.outputFrameInterval := rfl
  have hexp : p.countRepeat.expectedOutputTs = p.expectedOutputTs + p.outputFrameInterval := rfl
  rw [hint] at hlt hne
  rw [hmod] at hne
  rw [hexp] at hlt
  exact ⟨by omega, hne⟩

theorem comesNear_of_not_repeatFrame (hnew : p.inputFrameInterval ≠ 0)
    (hrep : p.repeatFrame t ≠ true) : p.ComesNear t := by
  rw [Ne, repeatFrame_iff] at hrep
  have hnear : -p.outputFrameInterval < 2 * (p.expectedOutputTs - t) ∧
      2 * (p.expectedOutputTs - t) < p.outputFrameInterval := by
    by_contra hnot
    exact hrep ⟨hnew, by omega⟩
  refine ⟨hnear.2, ?_⟩
  by_cases hneg : 2 * (p.expectedOutputTs - t) < 0
  · rw [← Int.add_emod_right, Int.emod_eq_of_lt (by omega) (by omega)]
    omega
  · rw [Int.emod_eq_of_lt (by omega) (by omega)]
    omega

theorem comesNear_of_repeatLoop (hI : 0 < p.outputFrameInterval) (hnew : p.inputFrameInterval ≠ 0)
    (h : p.repeatLoop t n = some q) : p.ComesNear t := by
  induction n generalizing p with
  | zero => simp [repeatLoop] at h
  | succ n ih =>
    by_cases hrep : p.repeatFrame t = true
    · rw [repeatLoop, if_pos hrep] at h
      exact (ih (p := p.countRepeat) hI hnew h).of_countRepeat hI
    · exact comesNear_of_not_repeatFrame hnew hrep

/-- The distance left is what each turn makes smaller. -/
theorem ComesNear.loopEnds (h : p.ComesNear t) (hI : 0 < p.outputFrameInterval) : p.LoopEnds t := by
  induction hleft : (t - p.expectedOutputTs).toNat using Nat.strong_induction_on generalizing p with
  | _ left ih =>
    by_cases hrep : p.repeatFrame t = true
    · have hfar := (repeatFrame_iff.mp hrep).2
      have hlt := h.1
      refine .of_countRepeat (ih _ ?_ (h.countRepeat hI hrep) hI rfl)
      simp only [Pacer.countRepeat]
      omega
    · exact ⟨1, p, by simp [repeatLoop, hrep]⟩

/-- The loop ends for a frame after the first exactly when it comes near. -/
theorem loopEnds_iff (hI : 0 < p.outputFrameInterval) (hnew : p.inputFrameInterval ≠ 0) :
    p.LoopEnds t ↔ p.ComesNear t :=
  ⟨fun ⟨_, _, h⟩ => comesNear_of_repeatLoop hI hnew h, fun h => h.loopEnds hI⟩

theorem repeatLoop_keeps (h : p.repeatLoop t n = some q) :
    q.outputFrameInterval = p.outputFrameInterval ∧ q.previousInputTs = p.previousInputTs := by
  induction n generalizing p with
  | zero => simp [repeatLoop] at h
  | succ n ih =>
    rw [repeatLoop] at h
    split at h
    · exact ih (p := p.countRepeat) h
    · obtain rfl := Option.some.inj h
      exact ⟨rfl, rfl⟩

theorem schedule_previousInputTs : (p.schedule th t).previousInputTs = p.previousInputTs := by
  unfold schedule
  dsimp only
  split <;> rfl

theorem onFrameRepeat_keeps (h : p.onFrameRepeat th t n = some q) :
    q.outputFrameInterval = p.outputFrameInterval ∧ q.previousInputTs = t := by
  obtain ⟨r, hr, rfl⟩ := Option.map_eq_some_iff.mp h
  obtain ⟨hint, hprev⟩ := repeatLoop_keeps hr
  exact ⟨by rw [schedule_outputFrameInterval, hint]; rfl,
    by rw [schedule_previousInputTs, hprev]; rfl⟩

theorem everyLoopEnds_iff_after (hI : 0 < p.outputFrameInterval) (hprev : p.previousInputTs = u)
    (hu : 0 < u) (hmono : (u :: ts).IsChain (· < ·)) :
    p.EveryLoopEnds th ts ↔ p.EveryFrameComesNear th ts := by
  induction ts generalizing p u with
  | nil => rfl
  | cons t ts ih =>
    obtain ⟨hlt, hrest⟩ := List.isChain_cons_cons.mp hmono
    have hnew : (p.receive t).inputFrameInterval ≠ 0 := by
      simp only [receive, hprev]
      split <;> omega
    refine and_congr (loopEnds_iff hI hnew) (forall_congr' fun n => forall_congr' fun q =>
      imp_congr_right fun hq => ?_)
    obtain ⟨hint, hprev'⟩ := onFrameRepeat_keeps hq
    exact ih (hint ▸ hI) hprev' (by omega) hrest

/-- With repeat on, the loop ends for every frame of a run exactly when every frame comes near. -/
theorem everyLoopEnds_iff (hI : 0 < I) (hpos : ∀ t ∈ ts, 0 < t) (hmono : ts.IsChain (· < ·)) :
    (start I).EveryLoopEnds th ts ↔ (start I).EveryFrameComesNear th ts := by
  cases ts with
  | nil => rfl
  | cons t ts =>
    have ht : 0 < t := hpos t List.mem_cons_self
    have hrec : (start I).receive t =
        { outputFrameInterval := I, expectedOutputTs := t, previousInputTs := t } := rfl
    have hnear : ((start I).receive t).ComesNear t := by
      rw [hrec]
      exact ⟨by simpa using hI, by simpa using hI.ne⟩
    refine and_congr (iff_of_true (hnear.loopEnds hI) hnear) (forall_congr' fun n =>
      forall_congr' fun q => imp_congr_right fun hq => ?_)
    obtain ⟨hint, hprev⟩ := onFrameRepeat_keeps hq
    exact everyLoopEnds_iff_after (hint ▸ hI) hprev ht hmono

/-- Thirty frames a second go out; two frames of the source are missing, and the next one makes up for
them. -/
theorem everyLoopEnds_same_rate :
    (start 33333333).EveryLoopEnds .single [1000000000, 1100000000, 1133333333] := by
  refine (everyLoopEnds_iff (by decide) (by decide) (by decide)).mpr
    ⟨by decide, fun n q hq => ⟨?_, fun m r hr => ⟨?_, fun _ _ _ => trivial⟩⟩⟩
  · cases n with
    | zero => cases hq
    | succ n =>
      obtain rfl := Option.some.inj hq
      decide
  · have hfirst : q =
        { outputFrameInterval := 33333333
          expectedOutputTs := 1033333333
          previousInputTs := 1000000000 } := by
      cases n with
      | zero => cases hq
      | succ n => exact (Option.some.inj hq).symm
    subst hfirst
    have hsecond : r =
        { outputFrameInterval := 33333333
          expectedOutputTs := 1133333332
          inputFrameInterval := 100000000
          previousInputTs := 1100000000 } := by
      match m with
      | 0 | 1 | 2 => cases hr
      | m + 3 => exact (Option.some.inj hr).symm
    subst hsecond
    decide

/-- Sixty frames a second come in, thirty are to go out: the second frame is repeated for ever. -/
theorem repeat_fast_input : ¬ ∀ (I : Int) (ts : List Int), 0 < I → (∀ t ∈ ts, 0 < t) →
    ts.IsChain (· < ·) → (start I).EveryLoopEnds .single ts := by
  intro h
  have hends := h 33333333 [1000000000, 1016666666] (by decide) (by decide) (by decide)
  have hnear := (hends.2 1 _ rfl).1
  rw [loopEnds_iff (by decide) (by decide)] at hnear
  revert hnear
  decide

end Pacer

namespace FrameRateController

variable {c : FrameRateController} {t : Int64} {n : Nat}

theorem roundNat_of_lt (h : n < 2 ^ 53) : roundNat 53 n = n := by
  have hshift : n.log2 + 1 - 53 = 0 := by
    rcases eq_or_ne n 0 with rfl | hne
    · rfl
    · have := (Nat.log2_lt hne).mpr h
      omega
  simp [roundNat, hshift, Nat.mod_one]

theorem roundInt_of_lt {i : Int} (h : i.natAbs < 2 ^ 53) : roundInt 53 i = i := by
  rw [roundInt, roundNat_of_lt h, Int.sign_mul_natAbs]

/-- Doubles hold the distances of the first hundred days, and the test is the exact one. -/
theorem pacer_repeatFrame (h : c.InRange t) (hI : 0 < c.outputFrameInterval.toInt)
    (hexp : c.expectedOutputTs.toInt < 2 ^ 53) (ht : t.toInt < 2 ^ 53)
    (hint : c.outputFrameInterval.toInt < 2 ^ 53) :
    c.repeatFrame t = c.pacer.repeatFrame t.toInt := by
  have hsub := toInt_sub_of_nonneg h.expected h.timestamp
  have h0 := h.expected
  have h1 := h.timestamp
  have hdelta : (if c.expectedOutputTs - t < 0 then -(c.expectedOutputTs - t)
      else c.expectedOutputTs - t).toInt = (c.expectedOutputTs.toInt - t.toInt).natAbs := by
    split
    next hneg =>
      rw [Int64.lt_iff_toInt_lt, hsub, Int64.toInt_zero] at hneg
      rw [Int64.toInt_neg, hsub, Int.bmod_eq_of_le (by omega) (by omega)]
      omega
    next hneg =>
      rw [Int64.lt_iff_toInt_lt, hsub, Int64.toInt_zero] at hneg
      rw [hsub]
      omega
  have hhalf : isAtLeastHalf (if c.expectedOutputTs - t < 0 then -(c.expectedOutputTs - t)
      else c.expectedOutputTs - t) c.outputFrameInterval =
      decide (c.outputFrameInterval.toInt ≤ 2 * (c.expectedOutputTs.toInt - t.toInt).natAbs) := by
    unfold isAtLeastHalf
    dsimp only
    rw [hdelta, roundInt_of_lt (by omega), roundInt_of_lt (by omega), if_neg hI.ne', if_pos hI]
  have hnew : (c.inputFrameInterval != 0) = (c.pacer.inputFrameInterval != 0) := by
    rw [Bool.eq_iff_iff, bne_iff_ne, bne_iff_ne]
    exact not_congr toInt_eq_zero.symm
  unfold repeatFrame Pacer.repeatFrame
  dsimp only
  rw [hhalf, hnew]
  rfl

end FrameRateController

end QmmfSdk.Pipeline
