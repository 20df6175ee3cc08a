import Mathlib.Data.List.Chain
import Mathlib.Tactic.Ring
import QmmfSdk.Pipeline.FrameRate

/-! The frame rate in exact arithmetic: how many frames a run of `OnFrameAvailable` passes on. -/
namespace QmmfSdk.Pipeline

open Library

/-- A rounding changes a number by one part in `2 ^ bits` at most. -/
theorem roundNat_le (bits n : Nat) : 2 ^ bits * roundNat bits n ≤ (2 ^ bits + 1) * n := by
  unfold roundNat
  dsimp only
  generalize hshift : n.log2 + 1 - bits = shift
  have hdiv := Nat.div_add_mod n (2 ^ shift)
  have hlow : n / 2 ^ shift * 2 ^ shift ≤ n := Nat.div_mul_le_self n (2 ^ shift)
  split
  next hup =>
    cases shift with
    | zero =>
      simp only [pow_zero, Nat.mod_one] at hup
      omega
    | succ m =>
      -- Rounding up adds half a unit at most, and the unit is small beside the number.
      have hne : n ≠ 0 := by
        rintro rfl
        simp at hup
      have hbits : 2 ^ bits * 2 ^ m ≤ n := by
        rw [← pow_add, show bits + m = n.log2 by omega]
        exact Nat.log2_self_le hne
      have hpow : 2 ^ (m + 1) = 2 * 2 ^ m := by ring
      have hround : (n / 2 ^ (m + 1) + 1) * 2 ^ (m + 1) ≤ n + 2 ^ m := by
        rw [Nat.add_one_mul, Nat.mul_comm]
        omega
      calc 2 ^ bits * ((n / 2 ^ (m + 1) + 1) * 2 ^ (m + 1)) ≤ 2 ^ bits * (n + 2 ^ m) :=
            Nat.mul_le_mul_left _ hround
        _ = 2 ^ bits * n + 2 ^ bits * 2 ^ m := Nat.mul_add ..
        _ ≤ (2 ^ bits + 1) * n := by
            rw [Nat.add_one_mul]
            omega
  next =>
    calc 2 ^ bits * (n / 2 ^ shift * 2 ^ shift) ≤ 2 ^ bits * n := Nat.mul_le_mul_left _ hlow
      _ ≤ (2 ^ bits + 1) * n := Nat.mul_le_mul_right _ (Nat.le_succ _)

/-- The quotient rounded to the nearest integer, a half away from zero: `std::llround`. -/
def llround (num : Int) (den : Nat) : Int := num.sign * ((2 * num.natAbs + den) / (2 * den) : Nat)

/-- The two products of the output interval that the controller compares a distance with. -/
structure Thresholds where
  maxDelta : Int → Int
  tsDelta : Int → Int

/-- One half of the interval as a rational, rounded to the nearest integer. -/
def exactHalfOf (interval : Int64) : Int64 := .ofInt (llround interval.toInt 2)

namespace Thresholds

/-- A given skip threshold, and the early window in single precision, as the code takes it. -/
def of (maxDelta : Int64 → Int64) : Thresholds where
  maxDelta interval := (maxDelta (.ofInt interval)).toInt
  tsDelta interval := (hundredthOf (.ofInt interval)).toInt

/-- Both products in single precision. -/
def single : Thresholds := of halfOf

/-- The skip threshold alone as a rational. -/
def exactSkip : Thresholds := of exactHalfOf

end Thresholds

/-- What of a `FrameRateController` decides over its frames, in integers without bounds. -/
structure Pacer where
  outputFrameInterval : Int
  expectedOutputTs : Int := 0
  inputFrameInterval : Int := 0
  previousInputTs : Int := 0
  deriving DecidableEq

namespace Pacer

variable {th : Thresholds} {p q : Pacer} {t t0 I k e : Int} {ts : List Int} {n : Nat}

def receive (p : Pacer) (timestamp : Int) : Pacer :=
  { p with inputFrameInterval := if p.previousInputTs = 0 then 0 else timestamp - p.previousInputTs,
           previousInputTs := timestamp,
           expectedOutputTs := if p.expectedOutputTs = 0 then timestamp else p.expectedOutputTs }

def skipFrame (th : Thresholds) (p : Pacer) (timestamp : Int) : Bool :=
  let delta := p.expectedOutputTs - timestamp
  0 < delta && th.maxDelta p.outputFrameInterval ≤ delta

def countRepeat (p : Pacer) : Pacer :=
  { p with expectedOutputTs := p.expectedOutputTs + p.outputFrameInterval }

def schedule (th : Thresholds) (p : Pacer) (timestamp : Int) : Pacer :=
  let delta := p.expectedOutputTs - timestamp
  let p := if 0 < delta ∧ delta < th.tsDelta p.outputFrameInterval then
    { p with expectedOutputTs := p.expectedOutputTs - delta } else p
  p.countRepeat

/-- A frame without repeat: whether it is passed on, and the controller after it. -/
def onFrame (th : Thresholds) (p : Pacer) (timestamp : Int) : Bool × Pacer :=
  let p := p.receive timestamp
  if p.skipFrame th timestamp then (false, p) else (true, p.schedule th timestamp)

/-- The controller after so many frames. -/
def run (th : Thresholds) (p : Pacer) (ts : List Int) : Pacer :=
  ts.foldl (fun p t => (p.onFrame th t).2) p

/-- How many of the frames are passed on. -/
def forwarded (th : Thresholds) (p : Pacer) : List Int → Nat
  | [] => 0
  | t :: ts => (p.onFrame th t).1.toNat + forwarded th (p.onFrame th t).2 ts

/-- `Start` with a given output interval. -/
def start (interval : Int) : Pacer := { outputFrameInterval := interval }

/-- Where the expected timestamp is after `k` frames were passed on. -/
structure Paced (t0 I k : Int) (p : Pacer) : Prop where
  interval : p.outputFrameInterval = I
  after : t0 ≤ p.expectedOutputTs
  early : p.expectedOutputTs - t0 ≤ k * I

/-- The expected timestamp does not fall behind the `k` frames, the last frame at `t`. -/
structure Held (t0 I k t : Int) (p : Pacer) : Prop where
  late : 100 * (p.expectedOutputTs - t0) ≥ (99 * k + 1) * I
  notFast : 99 * (k - 1) * I ≤ 100 * (t - t0) + 50 * I

@[simp] theorem receive_outputFrameInterval :
    (p.receive t).outputFrameInterval = p.outputFrameInterval := rfl

theorem receive_expectedOutputTs (hset : p.expectedOutputTs ≠ 0) :
    (p.receive t).expectedOutputTs = p.expectedOutputTs := if_neg hset

@[simp] theorem schedule_outputFrameInterval :
    (p.schedule th t).outputFrameInterval = p.outputFrameInterval := by
  unfold schedule
  dsimp only
  split <;> rfl

theorem schedule_expectedOutputTs :
    (p.schedule th t).expectedOutputTs =
      (if 0 < p.expectedOutputTs - t ∧ p.expectedOutputTs - t < th.tsDelta p.outputFrameInterval
        then t else p.expectedOutputTs) + p.outputFrameInterval := by
  unfold schedule
  dsimp only
  split
  · simp [countRepeat]
  · rfl

/-- What a frame does once the expected timestamp is set. -/
theorem onFrame_cases (th : Thresholds) (t : Int) (hset : p.expectedOutputTs ≠ 0) :
    ((p.onFrame th t).1 = false ∧ (p.onFrame th t).2.expectedOutputTs = p.expectedOutputTs ∧
      0 < p.expectedOutputTs - t ∧ th.maxDelta p.outputFrameInterval ≤ p.expectedOutputTs - t) ∨
    ((p.onFrame th t).1 = true ∧
      (p.expectedOutputTs - t ≤ 0 ∨ p.expectedOutputTs - t < th.maxDelta p.outputFrameInterval) ∧
      ((p.onFrame th t).2.expectedOutputTs = p.expectedOutputTs + p.outputFrameInterval ∨
        0 < p.expectedOutputTs - t ∧ p.expectedOutputTs - t < th.tsDelta p.outputFrameInterval ∧
          (p.onFrame th t).2.expectedOutputTs = t + p.outputFrameInterval)) := by
  have hskip : (p.receive t).skipFrame th t = true ↔ 0 < p.expectedOutputTs - t ∧
      th.maxDelta p.outputFrameInterval ≤ p.expectedOutputTs - t := by
    simp [skipFrame, receive_expectedOutputTs hset]
  unfold onFrame
  dsimp only
  split
  next h => exact .inl ⟨rfl, receive_expectedOutputTs hset, hskip.mp h⟩
  next h =>
    rw [hskip] at h
    refine .inr ⟨rfl, by omega, ?_⟩
    dsimp only
    rw [schedule_expectedOutputTs, receive_expectedOutputTs hset, receive_outputFrameInterval]
    split
    next hearly => exact .inr ⟨hearly.1, hearly.2, rfl⟩
    next => exact .inl rfl

@[simp] theorem onFrame_outputFrameInterval :
    (p.onFrame th t).2.outputFrameInterval = p.outputFrameInterval := by
  unfold onFrame
  dsimp only
  split
  · rfl
  · exact schedule_outputFrameInterval

/-- What a frame does that comes inside the early window. -/
theorem onFrame_early (hexp : p.expectedOutputTs = t + e) (hset : p.expectedOutputTs ≠ 0)
    (hpos : 0 < e) (hwindow : e < th.tsDelta p.outputFrameInterval)
    (hmax : e < th.maxDelta p.outputFrameInterval) :
    (p.onFrame th t).1 = true ∧
      (p.onFrame th t).2.expectedOutputTs = t + p.outputFrameInterval := by
  have hdelta : p.expectedOutputTs - t = e := by omega
  have hskip : (p.receive t).skipFrame th t = false := by
    rw [Bool.eq_false_iff]
    simp [skipFrame, receive_expectedOutputTs hset, hdelta, hmax]
  unfold onFrame
  dsimp only
  rw [hskip, if_neg Bool.false_ne_true]
  refine ⟨rfl, ?_⟩
  dsimp only
  rw [schedule_expectedOutputTs, receive_expectedOutputTs hset, receive_outputFrameInterval, hdelta,
    if_pos ⟨hpos, hwindow⟩]

/-- What the run bounds need of the skip threshold for an interval. -/
structure Fit (th : Thresholds) (I : Int) : Prop where
  positive : 1 ≤ I
  half_le : I ≤ 2 * th.maxDelta I
  le_half : 2 * (th.maxDelta I - 1) ≤ I

theorem paced_onFrame (hth : Fit th I) (ht0 : 0 < t0) (h : Paced t0 I k p) (hle : t0 ≤ t) :
    Paced t0 I (k + (p.onFrame th t).1.toNat) (p.onFrame th t).2 := by
  have hI := hth.positive
  have hearly := h.early
  have hafter := h.after
  obtain ⟨hb, he, -, -⟩ | ⟨hb, hd, he⟩ := onFrame_cases th t (show p.expectedOutputTs ≠ 0 by omega)
  · refine ⟨by simp [h.interval], ?_, ?_⟩
    · simpa [he] using hafter
    · simpa [hb, he] using hearly
  · rw [h.interval] at he
    refine ⟨by simp [h.interval], ?_, ?_⟩
    · obtain he | ⟨-, -, he⟩ := he <;> rw [he] <;> omega
    · have hmul : (k + 1) * I = k * I + I := by ring
      rw [hb]
      simp only [Bool.toNat_true, Nat.cast_one]
      rw [hmul]
      obtain he | ⟨hd', -, he⟩ := he <;> rw [he] <;> omega

/-- An early frame takes a hundredth of the interval at most. -/
theorem held_onFrame (hth : Fit th I) (hwindow : 100 * (th.tsDelta I - 1) ≤ I) (ht0 : 0 < t0)
    (hp : Paced t0 I k p) (h : Held t0 I k t p) {t' : Int} (hle : t ≤ t') :
    Held t0 I (k + (p.onFrame th t').1.toNat) t' (p.onFrame th t').2 := by
  have hI := hth.positive
  have hhalf := hth.le_half
  have hlate := h.late
  have hfast := h.notFast
  have hafter := hp.after
  obtain ⟨hb, he, -, -⟩ | ⟨hb, hd, he⟩ := onFrame_cases th t' (show p.expectedOutputTs ≠ 0 by omega)
  · refine ⟨?_, ?_⟩
    · simpa [hb, he] using hlate
    · have hk : k + ((p.onFrame th t').1.toNat : Int) = k := by simp [hb]
      rw [hk]
      omega
  · rw [hp.interval] at hd he
    refine ⟨?_, ?_⟩
    all_goals rw [hb]; simp only [Bool.toNat_true, Nat.cast_one]
    · have hmul : (99 * (k + 1) + 1) * I = (99 * k + 1) * I + 99 * I := by ring
      rw [hmul]
      obtain he | ⟨-, hd', he⟩ := he <;> rw [he] <;> omega
    · have hmul : 99 * (k + 1 - 1) * I = (99 * k + 1) * I - I := by ring
      rw [hmul]
      omega

theorem notSlow_onFrame (hth : Fit th I) (ht0 : 0 < t0) (h : Paced t0 I k p)
    (hslow : 2 * (t - t0) - I ≤ 2 * k * I) {t' : Int} (hgap : t' - t ≤ I) :
    2 * (t' - t0) - I ≤ 2 * (k + (p.onFrame th t').1.toNat) * I := by
  have hI := hth.positive
  have hhalf := hth.half_le
  have hearly := h.early
  have hafter := h.after
  obtain ⟨hb, -, hpos, hd⟩ | ⟨hb, -, -⟩ := onFrame_cases th t' (show p.expectedOutputTs ≠ 0 by omega)
  · -- A skipped frame is half an interval before the expected one.
    rw [h.interval] at hd
    have hk : 2 * (k + ((p.onFrame th t').1.toNat : Int)) * I = 2 * (k * I) := by
      rw [hb]
      simp only [Bool.toNat_false, Nat.cast_zero, add_zero]
      ring
    rw [hk]
    omega
  · have hk : 2 * (k + ((p.onFrame th t').1.toNat : Int)) * I = 2 * k * I + 2 * I := by
      rw [hb]
      simp only [Bool.toNat_true, Nat.cast_one]
      ring
    rw [hk]
    omega

/-- The first frame of a run is passed on, and the next is expected one interval after it. -/
theorem onFrame_start (th : Thresholds) (t0 I : Int) : ((start I).onFrame th t0).1 = true ∧
    ((start I).onFrame th t0).2.outputFrameInterval = I ∧
      ((start I).onFrame th t0).2.expectedOutputTs = t0 + I := by
  have hrec : (start I).receive t0 =
      { outputFrameInterval := I, expectedOutputTs := t0, previousInputTs := t0 } := rfl
  have hskip : ((start I).receive t0).skipFrame th t0 = false := by simp [hrec, skipFrame]
  refine ⟨by simp [onFrame, hskip], by simp [start], ?_⟩
  unfold onFrame
  dsimp only
  rw [hskip, if_neg Bool.false_ne_true]
  dsimp only
  rw [schedule_expectedOutputTs]
  simp [hrec]

theorem forwarded_start (th : Thresholds) (t0 I : Int) (ts : List Int) :
    ((start I).forwarded th (t0 :: ts) : Int) = 1 + ((start I).onFrame th t0).2.forwarded th ts := by
  simp [forwarded, (onFrame_start th t0 I).1]

theorem paced_start (hth : Fit th I) : Paced t0 I 1 ((start I).onFrame th t0).2 := by
  obtain ⟨-, hint, hexp⟩ := onFrame_start th t0 I
  have hI := hth.positive
  exact ⟨hint, by omega, by omega⟩

theorem held_run (hth : Fit th I) (hwindow : 100 * (th.tsDelta I - 1) ≤ I) (ht0 : 0 < t0)
    (hp : Paced t0 I k p) (h : Held t0 I k t p) (hfrom : t0 ≤ t)
    (hmono : (t :: ts).IsChain (· ≤ ·)) :
    Held t0 I (k + p.forwarded th ts) ((t :: ts).getLast (List.cons_ne_nil t ts)) (p.run th ts) := by
  induction ts generalizing p k t with
  | nil => simpa [forwarded, run] using h
  | cons u us ih =>
    obtain ⟨hle, hrest⟩ := List.isChain_cons_cons.mp hmono
    have hnext := ih (paced_onFrame hth ht0 hp (hfrom.trans hle))
      (held_onFrame hth hwindow ht0 hp h hle) (hfrom.trans hle) hrest
    rw [List.getLast_cons_cons]
    simpa [forwarded, run, add_assoc] using hnext

theorem notSlow_run (hth : Fit th I) (ht0 : 0 < t0) (h : Paced t0 I k p) (hfrom : t0 ≤ t)
    (hslow : 2 * (t - t0) - I ≤ 2 * k * I) (hmono : (t :: ts).IsChain (· ≤ ·))
    (hgap : (t :: ts).IsChain fun a b => b - a ≤ I) :
    2 * ((t :: ts).getLast (List.cons_ne_nil t ts) - t0) - I ≤ 2 * (k + p.forwarded th ts) * I := by
  induction ts generalizing p k t with
  | nil => simpa [forwarded] using hslow
  | cons u us ih =>
    obtain ⟨hle, hrest⟩ := List.isChain_cons_cons.mp hmono
    obtain ⟨hnear, hgaps⟩ := List.isChain_cons_cons.mp hgap
    have hnext := ih (paced_onFrame hth ht0 h (hfrom.trans hle)) (hfrom.trans hle)
      (notSlow_onFrame hth ht0 h hslow hnear) hrest hgaps
    rw [List.getLast_cons_cons]
    simpa [forwarded, add_assoc] using hnext

/-- The frames passed on by the time of the last one are not more than the interval allows, with a
hundredth off for each and half an interval on top. -/
def NotTooFast (th : Thresholds) (I t0 : Int) (ts : List Int) : Prop :=
  99 * (((start I).forwarded th (t0 :: ts) : Int) - 1) * I ≤
    100 * ((t0 :: ts).getLast (List.cons_ne_nil t0 ts) - t0) + 50 * I

/-- Nor are they fewer, but for half an interval. -/
def NotTooSlow (th : Thresholds) (I t0 : Int) (ts : List Int) : Prop :=
  2 * ((t0 :: ts).getLast (List.cons_ne_nil t0 ts) - t0) - I ≤
    2 * ((start I).forwarded th (t0 :: ts) : Int) * I

theorem notTooFast_of_window (hth : Fit th I) (hwindow : 100 * (th.tsDelta I - 1) ≤ I) (ht0 : 0 < t0)
    (hmono : (t0 :: ts).IsChain (· ≤ ·)) : NotTooFast th I t0 ts := by
  obtain ⟨-, -, hexp⟩ := onFrame_start th t0 I
  have hI := hth.positive
  have hheld : Held t0 I 1 t0 ((start I).onFrame th t0).2 := ⟨by omega, by omega⟩
  rw [NotTooFast, forwarded_start]
  exact (held_run hth hwindow ht0 (paced_start hth) hheld (le_refl t0) hmono).notFast

theorem notTooSlow (hth : Fit th I) (ht0 : 0 < t0) (hmono : (t0 :: ts).IsChain (· ≤ ·))
    (hgap : (t0 :: ts).IsChain fun a b => b - a ≤ I) : NotTooSlow th I t0 ts := by
  have hI := hth.positive
  rw [NotTooSlow, forwarded_start]
  exact notSlow_run hth ht0 (paced_start hth) (le_refl t0) (by omega) hmono hgap

/-- After a frame at `t`, each next one comes `e` before it is expected. -/
def earlyFrames (I e t : Int) : Nat → List Int
  | 0 => []
  | n + 1 => (t + (I - e)) :: earlyFrames I e (t + (I - e)) n

theorem isChain_earlyFrames (hle : e ≤ I) : (t :: earlyFrames I e t n).IsChain (· ≤ ·) := by
  induction n generalizing t with
  | zero => exact List.isChain_singleton t
  | succ n ih => exact List.isChain_cons_cons.mpr ⟨by omega, ih⟩

theorem getLast_earlyFrames :
    (t :: earlyFrames I e t n).getLast (List.cons_ne_nil t _) = t + n * (I - e) := by
  induction n generalizing t with
  | zero => simp [earlyFrames]
  | succ n ih =>
    simp only [earlyFrames, List.getLast_cons_cons, ih, Nat.cast_succ]
    ring

/-- Inside the early window all of them are passed on. -/
theorem forwarded_earlyFrames (hint : p.outputFrameInterval = I) (hexp : p.expectedOutputTs = t + I)
    (ht : 0 < t) (hpos : 0 < e) (hle : e ≤ I) (hwindow : e < th.tsDelta I) (hmax : e < th.maxDelta I) :
    p.forwarded th (earlyFrames I e t n) = n := by
  induction n generalizing p t with
  | zero => rfl
  | succ n ih =>
    obtain ⟨hb, hnext⟩ := onFrame_early (t := t + (I - e)) (e := e) (p := p) (by omega) (by omega)
      hpos (by rwa [hint]) (by rwa [hint])
    rw [earlyFrames, forwarded, hb,
      ih (by rw [onFrame_outputFrameInterval, hint]) (by rw [hnext, hint]) (by omega)]
    simp [add_comm]

/-- A window beyond the hundredth lets so many of them through that the rate is not kept. -/
theorem not_notTooFast (hth : Fit th I) (ht0 : 0 < t0) (hpos : 0 < e) (hwindow : e < th.tsDelta I)
    (hmax : e < th.maxDelta I) (hmany : 50 * I < n * (100 * e - I)) :
    (t0 :: earlyFrames I e t0 n).IsChain (· ≤ ·) ∧ ¬ NotTooFast th I t0 (earlyFrames I e t0 n) := by
  have hI := hth.positive
  have hhalf := hth.le_half
  obtain ⟨-, hint, hexp⟩ := onFrame_start th t0 I
  refine ⟨isChain_earlyFrames (by omega), ?_⟩
  rw [NotTooFast, forwarded_start, getLast_earlyFrames,
    forwarded_earlyFrames hint hexp ht0 hpos (by omega) hwindow hmax]
  have hleft : 99 * (1 + (n : Int) - 1) * I = 99 * (n * I) := by ring
  have hright : 100 * (t0 + (n : Int) * (I - e) - t0) = 100 * (n * I) - n * (100 * e) := by ring
  have hgain : (n : Int) * (100 * e - I) = n * (100 * e) - n * I := by ring
  rw [hleft, hright]
  rw [hgain] at hmany
  omega

theorem exactSkip_maxDelta (hI : 1 ≤ I) (hbound : I < 2 ^ 63) :
    Thresholds.exactSkip.maxDelta I = (I + 1) / 2 := by
  have hof : (Int64.ofInt I).toInt = I := Int64.toInt_ofInt_of_le (by omega) (by omega)
  have hround : llround I 2 = (I + 1) / 2 := by
    rw [llround, Int.sign_eq_one_of_pos (by omega)]
    omega
  change (exactHalfOf (.ofInt I)).toInt = _
  rw [exactHalfOf, hof, hround]
  exact Int64.toInt_ofInt_of_le (by omega) (by omega)

/-- The two roundings of the early window. -/
theorem exists_tsDelta (hI : 1 ≤ I) (hbound : I < 2 ^ 63) : ∃ f r : Nat,
    2 ^ 24 * (f : Int) ≤ (2 ^ 24 + 1) * I ∧ 2 ^ 24 * r ≤ (2 ^ 24 + 1) * (10737418 * f) ∧
      Thresholds.exactSkip.tsDelta I = ((r + 2 ^ 29) / 2 ^ 30 : Nat) := by
  obtain ⟨n, rfl⟩ := Int.eq_ofNat_of_zero_le (show 0 ≤ I by omega)
  have hof : (Int64.ofInt n).toInt = n := Int64.toInt_ofInt_of_le (by omega) (by omega)
  have hsign : (n : Int).sign = 1 := Int.sign_eq_one_of_pos (by omega)
  have hfloat := roundNat_le 24 n
  have hround : roundInt 24 n = roundNat 24 n := by simp [roundInt, hsign]
  have hprod := roundNat_le 24 (10737418 * roundNat 24 n)
  generalize hf : roundNat 24 n = f at hround hfloat hprod
  generalize hr : roundNat 24 (10737418 * f) = r at hprod
  refine ⟨f, r, by omega, hprod, ?_⟩
  change (hundredthOf (.ofInt n)).toInt = _
  simp only [hundredthOf, hof, hround, Int.natAbs_natCast, hr]
  rcases Nat.eq_zero_or_pos f with rfl | hf0
  · obtain rfl : r = 0 := by simpa [roundNat] using hr.symm
    decide
  · rw [Int.sign_eq_one_of_pos (by omega), Int.one_mul,
      Int64.toInt_ofInt_of_le (by omega) (by omega)]

/-- The early window of an interval of up to half a second does not go beyond a hundredth of it. -/
theorem hundredth_of_short (hI : 1 ≤ I) (hshort : I ≤ 500000000) :
    100 * (Thresholds.exactSkip.tsDelta I - 1) ≤ I := by
  obtain ⟨f, r, hf, hr, hdelta⟩ := exists_tsDelta hI (by omega)
  omega

/-- It never comes near the half. -/
theorem tsDelta_le_maxDelta (hI : 1 ≤ I) (hbound : I < 2 ^ 63) :
    Thresholds.exactSkip.tsDelta I ≤ Thresholds.exactSkip.maxDelta I := by
  obtain ⟨f, r, hf, hr, hdelta⟩ := exists_tsDelta hI hbound
  rw [exactSkip_maxDelta hI hbound]
  omega

theorem exactSkip_fit (hI : 1 ≤ I) (hbound : I < 2 ^ 63) : Fit .exactSkip I := by
  have hhalf := exactSkip_maxDelta hI hbound
  exact ⟨hI, by omega, by omega⟩

end Pacer

namespace FrameRateController

variable {c : FrameRateController} {t : Int64} {maxDelta : Int64 → Int64}

/-- The machine integers of the controller as integers. -/
def pacer (c : FrameRateController) : Pacer where
  outputFrameInterval := c.outputFrameInterval.toInt
  expectedOutputTs := c.expectedOutputTs.toInt
  inputFrameInterval := c.inputFrameInterval.toInt
  previousInputTs := c.previousInputTs.toInt

/-- The locked part of `OnFrameAvailable` without repeat, for a product that gives the skip threshold:
whether the frame is passed on. -/
def onFrame (maxDelta : Int64 → Int64) (c : FrameRateController) (timestamp : Int64) :
    Bool × FrameRateController :=
  let c := c.receive timestamp
  let delta := c.expectedOutputTs - timestamp
  if 0 < delta && maxDelta c.outputFrameInterval ≤ delta then (false, c)
  else (true, c.schedule timestamp)

/-- With the product that the code takes the test is `SkipFrame`. -/
theorem onFrame_halfOf : c.onFrame halfOf t =
    if (c.receive t).skipFrame t then (false, c.receive t)
    else (true, (c.receive t).schedule t) := rfl

/-- Timestamps are not negative, and the next expected one is still a machine integer. -/
structure InRange (c : FrameRateController) (t : Int64) : Prop where
  timestamp : 0 ≤ t.toInt
  expected : 0 ≤ c.expectedOutputTs.toInt
  previous : 0 ≤ c.previousInputTs.toInt
  interval : 0 ≤ c.outputFrameInterval.toInt
  expected_fits : c.expectedOutputTs.toInt + c.outputFrameInterval.toInt < 2 ^ 63
  timestamp_fits : t.toInt + c.outputFrameInterval.toInt < 2 ^ 63

instance : Decidable (c.InRange t) :=
  decidable_of_iff (0 ≤ t.toInt ∧ 0 ≤ c.expectedOutputTs.toInt ∧ 0 ≤ c.previousInputTs.toInt ∧
      0 ≤ c.outputFrameInterval.toInt ∧
      c.expectedOutputTs.toInt + c.outputFrameInterval.toInt < 2 ^ 63 ∧
      t.toInt + c.outputFrameInterval.toInt < 2 ^ 63)
    ⟨fun ⟨h₁, h₂, h₃, h₄, h₅, h₆⟩ => ⟨h₁, h₂, h₃, h₄, h₅, h₆⟩,
      fun ⟨h₁, h₂, h₃, h₄, h₅, h₆⟩ => ⟨h₁, h₂, h₃, h₄, h₅, h₆⟩⟩

theorem toInt_sub_of_nonneg {a b : Int64} (ha : 0 ≤ a.toInt) (hb : 0 ≤ b.toInt) :
    (a - b).toInt = a.toInt - b.toInt := by
  rw [Int64.toInt_sub]
  have := a.toInt_lt
  have := b.toInt_lt
  exact Int.bmod_eq_of_le (by omega) (by omega)

theorem toInt_add_of_lt {a b : Int64} (ha : 0 ≤ a.toInt) (hb : 0 ≤ b.toInt)
    (h : a.toInt + b.toInt < 2 ^ 63) : (a + b).toInt = a.toInt + b.toInt := by
  rw [Int64.toInt_add]
  exact Int.bmod_eq_of_le (by omega) (by omega)

theorem toInt_eq_zero {a : Int64} : a.toInt = 0 ↔ a = 0 := by
  rw [← Int64.toInt_inj, Int64.toInt_zero]

theorem pacer_receive (h : c.InRange t) : (c.receive t).pacer = c.pacer.receive t.toInt := by
  have hsub := toInt_sub_of_nonneg h.timestamp h.previous
  simp only [pacer, receive, Pacer.receive, toInt_eq_zero]
  split <;> split <;> simp [hsub]

theorem InRange.receive (h : c.InRange t) : (c.receive t).InRange t := by
  refine ⟨h.timestamp, ?_, h.timestamp, h.interval, ?_, h.timestamp_fits⟩
  all_goals
    simp only [FrameRateController.receive]
    split
  · exact h.timestamp
  · exact h.expected
  · exact h.timestamp_fits
  · exact h.expected_fits

theorem pacer_skipFrame (h : c.InRange t) :
    (0 < c.expectedOutputTs - t && maxDelta c.outputFrameInterval ≤ c.expectedOutputTs - t) =
      c.pacer.skipFrame (.of maxDelta) t.toInt := by
  have hsub := toInt_sub_of_nonneg h.expected h.timestamp
  simp [Pacer.skipFrame, pacer, Thresholds.of, Int64.lt_iff_toInt_lt, Int64.le_iff_toInt_le, hsub]

theorem pacer_countRepeat (hexp : 0 ≤ c.expectedOutputTs.toInt)
    (hint : 0 ≤ c.outputFrameInterval.toInt)
    (hfits : c.expectedOutputTs.toInt + c.outputFrameInterval.toInt < 2 ^ 63) :
    c.countRepeat.pacer = c.pacer.countRepeat := by
  simp [countRepeat, Pacer.countRepeat, pacer, toInt_add_of_lt hexp hint hfits]

theorem pacer_schedule (maxDelta : Int64 → Int64) (h : c.InRange t) :
    (c.schedule t).pacer = c.pacer.schedule (.of maxDelta) t.toInt := by
  have hsub := toInt_sub_of_nonneg h.expected h.timestamp
  have hmeasure : ∀ d : FrameRateController, (if 3000000000 ≤ d.measurementInterval then
      { d with inputFrameCount := 0, outputFrameCount := 0, measurementInterval := 0 }
      else d).pacer = d.pacer := by
    intro d
    split <;> rfl
  have hcond : (0 < c.pacer.expectedOutputTs - t.toInt ∧
      c.pacer.expectedOutputTs - t.toInt < (Thresholds.of maxDelta).tsDelta c.pacer.outputFrameInterval) ↔
      (0 < c.expectedOutputTs - t ∧
        c.expectedOutputTs - t < hundredthOf c.outputFrameInterval) := by
    simp [pacer, Thresholds.of, Int64.lt_iff_toInt_lt, hsub]
  unfold schedule Pacer.schedule
  dsimp only
  rw [hmeasure, if_congr hcond rfl rfl]
  split
  next hearly =>
    have hpos : 0 < c.expectedOutputTs.toInt - t.toInt := by
      simpa [Int64.lt_iff_toInt_lt, hsub] using hearly.1
    have hback : (c.expectedOutputTs - (c.expectedOutputTs - t)).toInt = t.toInt := by
      rw [toInt_sub_of_nonneg h.expected (by omega), hsub]
      omega
    have hstep := pacer_countRepeat
      (c := { c with expectedOutputTs := c.expectedOutputTs - (c.expectedOutputTs - t) })
      (by rw [hback]; exact h.timestamp) h.interval (by rw [hback]; exact h.timestamp_fits)
    rw [hstep]
    simp [pacer, hback]
  next => exact pacer_countRepeat h.expected h.interval h.expected_fits

/-- While the timestamps stay in range the controller passes on what the unbounded one does. -/
theorem pacer_onFrame (maxDelta : Int64 → Int64) (h : c.InRange t) :
    ((c.onFrame maxDelta t).1, (c.onFrame maxDelta t).2.pacer) =
      c.pacer.onFrame (.of maxDelta) t.toInt := by
  unfold onFrame Pacer.onFrame
  dsimp only
  rw [pacer_skipFrame h.receive, pacer_receive h]
  split
  · simp [pacer_receive h]
  · simp [pacer_schedule maxDelta h.receive, pacer_receive h]

/-- How many of the frames are passed on. -/
def forwarded (maxDelta : Int64 → Int64) (c : FrameRateController) : List Int64 → Nat
  | [] => 0
  | t :: ts => (c.onFrame maxDelta t).1.toNat + forwarded maxDelta (c.onFrame maxDelta t).2 ts

/-- Every frame of the run is in range when it comes. -/
def StaysInRange (maxDelta : Int64 → Int64) (c : FrameRateController) : List Int64 → Prop
  | [] => True
  | t :: ts => c.InRange t ∧ StaysInRange maxDelta (c.onFrame maxDelta t).2 ts

instance StaysInRange.decidable : (c : FrameRateController) → (ts : List Int64) →
    Decidable (c.StaysInRange maxDelta ts)
  | _, [] => .isTrue trivial
  | c, t :: ts =>
    have := StaysInRange.decidable (c.onFrame maxDelta t).2 ts
    inferInstanceAs (Decidable (c.InRange t ∧ StaysInRange maxDelta (c.onFrame maxDelta t).2 ts))

theorem forwarded_eq_pacer {ts : List Int64} (h : c.StaysInRange maxDelta ts) :
    c.forwarded maxDelta ts = c.pacer.forwarded (.of maxDelta) (ts.map Int64.toInt) := by
  induction ts generalizing c with
  | nil => rfl
  | cons t ts ih =>
    have hframe := pacer_onFrame maxDelta h.1
    rw [forwarded, List.map_cons, Pacer.forwarded, ← hframe, ih h.2]

/-- What `Start` leaves: the interval between input frames is written before it is read. -/
theorem pacer_onFrame_start {ts : Int} (hactive : c.active = false) :
    c.start.pacer.onFrame (.of maxDelta) ts =
      (Pacer.start c.outputFrameInterval.toInt).onFrame (.of maxDelta) ts := by
  have hfirst : c.start.pacer.receive ts =
      (Pacer.start c.outputFrameInterval.toInt).receive ts := by
    simp [start, hactive, reset, pacer, Pacer.start, Pacer.receive]
  unfold Pacer.onFrame
  rw [hfirst]

theorem forwarded_start {ts : List Int64} (hactive : c.active = false)
    (h : c.start.StaysInRange maxDelta ts) :
    c.start.forwarded maxDelta ts =
      (Pacer.start c.outputFrameInterval.toInt).forwarded (.of maxDelta) (ts.map Int64.toInt) := by
  rw [forwarded_eq_pacer h]
  cases ts with
  | nil => simp only [List.map_nil, Pacer.forwarded]
  | cons t ts => rw [List.map_cons, Pacer.forwarded, Pacer.forwarded, pacer_onFrame_start hactive]

end FrameRateController

namespace Pacer

variable {I : Int}

/-- A controller without repeat passes on too few frames for no interval, when no frame is missing. It
passes on too many only for intervals whose early window is more than a hundredth. Its machine integers
do not matter while the timestamps fit in them. -/
theorem rate_kept (hI : 1 ≤ I) (hbound : I < 2 ^ 63) :
    ((∀ (t0 : Int) (ts : List Int), 0 < t0 → (t0 :: ts).IsChain (· ≤ ·) →
        NotTooFast .exactSkip I t0 ts) ↔ 100 * (Thresholds.exactSkip.tsDelta I - 1) ≤ I) ∧
      (∀ (t0 : Int) (ts : List Int), 0 < t0 → (t0 :: ts).IsChain (· ≤ ·) →
        (t0 :: ts).IsChain (fun a b => b - a ≤ I) → NotTooSlow .exactSkip I t0 ts) ∧
      ∀ (c : FrameRateController) (ts : List Int64), c.active = false →
        c.outputFrameInterval.toInt = I → c.start.StaysInRange exactHalfOf ts →
        c.start.forwarded exactHalfOf ts = (start I).forwarded .exactSkip (ts.map Int64.toInt) := by
  have hfit := exactSkip_fit hI hbound
  refine ⟨⟨fun h => ?_, fun hwindow t0 ts ht0 hmono => notTooFast_of_window hfit hwindow ht0 hmono⟩,
    fun t0 ts ht0 hmono hgap => notTooSlow hfit ht0 hmono hgap, ?_⟩
  · by_contra hwide
    have hhalf := tsDelta_le_maxDelta hI hbound
    have hgain : 1 ≤ 100 * (Thresholds.exactSkip.tsDelta I - 1) - I := by omega
    have hmany : 50 * I < ((50 * I + 1).toNat : Int) *
        (100 * (Thresholds.exactSkip.tsDelta I - 1) - I) := by
      rw [Int.toNat_of_nonneg (by omega)]
      have := Int.mul_le_mul_of_nonneg_left hgain (show 0 ≤ 50 * I + 1 by omega)
      omega
    obtain ⟨hmono, hfast⟩ := not_notTooFast hfit (show 0 < 1 by decide) (by omega) (by omega)
      (by omega) hmany
    exact hfast (h 1 _ (by decide) hmono)
  · rintro c ts hactive rfl hrange
    exact FrameRateController.forwarded_start hactive hrange

/-- An interval above four seconds: a frame that is early each time is passed on too often after
852667074 of them. -/
theorem too_fast_after_years :
    (1000000000 :: earlyFrames 4297442048 42974423 1000000000 852667074).IsChain (· ≤ ·) ∧
      ¬ NotTooFast .exactSkip 4297442048 1000000000
        (earlyFrames 4297442048 42974423 1000000000 852667074) := by
  have hwindow : Thresholds.exactSkip.tsDelta 4297442048 = 42974424 := by decide
  have hmax := exactSkip_maxDelta (I := 4297442048) (by decide) (by decide)
  exact not_notTooFast (exactSkip_fit (by decide) (by decide)) (by decide) (by decide) (by omega)
    (by omega) (by decide)

/-- Sixty frames a second in and thirty out. -/
theorem rate_kept_half :
    let ts : List Int := [1016666666, 1033333333, 1049999999, 1066666666]
    let c : FrameRateController := { outputFrameInterval := 33333333, inputFrameInterval := 7 }
    NotTooFast .exactSkip 33333333 1000000000 ts ∧ NotTooSlow .exactSkip 33333333 1000000000 ts ∧
      c.start.forwarded exactHalfOf
        [1000000000, 1016666666, 1033333333, 1049999999, 1066666666] = 3 := by
  intro ts c
  obtain ⟨hfast, hslow, hsame⟩ := rate_kept (I := 33333333) (by decide) (by decide)
  have hmono : (1000000000 :: ts).IsChain (· ≤ ·) := by decide
  refine ⟨hfast.mpr (hundredth_of_short (by decide) (by decide)) _ ts (by decide) hmono,
    hslow _ ts (by decide) hmono (by decide), ?_⟩
  rw [hsame c _ rfl (by decide) (by decide)]
  decide

end Pacer

end QmmfSdk.Pipeline
