import Mathlib.Algebra.Order.Field.Basic
import Mathlib.Algebra.Order.Field.Rat
import Mathlib.Tactic.FieldSimp
import Mathlib.Tactic.Linarith
import Mathlib.Tactic.NormNum
import Mathlib.Tactic.Positivity
import QmmfSdk.Audio.Rechunk

/-! The timestamps of the buffers of `AudioPulseClient`: each is the one before it and its own duration,
in whole microseconds, and what that adds up to. -/
namespace QmmfSdk.Audio

open Library PulseClient

/-- `frameSize` is the size of one sample of all channels. -/
structure PaSampleSpec where
  rate : Nat
  frameSize : Nat
  rate_pos : 0 < rate
  frameSize_pos : 0 < frameSize

def PaSampleSpec.bytesPerSecond (spec : PaSampleSpec) : Nat := spec.rate * spec.frameSize

/-- Whole frames have the exact duration, rounded down to microseconds. -/
def PaSampleSpec.Rounds (spec : PaSampleSpec) (usec : UInt32 → UInt64) : Prop :=
  ∀ size : UInt32, spec.frameSize ∣ size.toNat →
    (usec size).toNat = size.toNat * 1000000 / spec.bytesPerSecond

/-- The timestamp `d` microseconds after that of the first buffer tells the duration of `k` buffers of
`c` bytes, to the microsecond. -/
def PaSampleSpec.Exact (spec : PaSampleSpec) (c : UInt32) (k : Nat) (d : UInt64) : Prop :=
  |(d.toNat : ℚ) - k * c.toNat * 1000000 / spec.bytesPerSecond| < 1

namespace PulseClient

variable {s t : PulseClient} {usec : UInt32 → UInt64} {a : Action} {as : List Action}
  {b b₀ : BufferDescriptor} {bs : List BufferDescriptor} {c : UInt32} {k : Nat}

/-- The time that the buffers after the first one take. -/
def clockAfter (usec : UInt32 → UInt64) (bs : List BufferDescriptor) : UInt64 :=
  (bs.tail.map fun b => usec b.size).foldl (· + ·) 0

/-- The clock is the sum of the durations so far, and each buffer was stamped with it. -/
structure Clocked (usec : UInt32 → UInt64) (s : PulseClient) : Prop where
  fresh : s.firstBufferRead = true ↔ s.notified = []
  clock : s.notified ≠ [] → s.trackingClock = clockAfter usec s.notified
  stamps : ∀ k b, s.notified[k]? = some b →
    b.timestamp = clockAfter usec (s.notified.take (k + 1)) + s.adjustmentTimestamp.toUInt64

theorem clockAfter_append (h : bs ≠ []) :
    clockAfter usec (bs ++ [b]) = clockAfter usec bs + usec b.size := by
  unfold clockAfter
  cases bs with
  | nil => exact absurd rfl h
  | cons b' bs => simp

theorem clocked_start (s : PulseClient) (adjust : Int64) : (s.start adjust).Clocked usec where
  fresh := by simp [start]
  clock h := absurd rfl h
  stamps k b h := by simp [start] at h

theorem Kept.clocked (hk : Kept s t) (h : s.Clocked usec) : t.Clocked usec where
  fresh := by
    rw [hk.firstBufferRead, hk.notified]
    exact h.fresh
  clock := by
    rw [hk.trackingClock, hk.notified]
    exact h.clock
  stamps := by
    rw [hk.notified, hk.adjustmentTimestamp]
    exact h.stamps

/-- The clock after a buffer is the one it is stamped with; those stamped before keep theirs, because
the offset is set once. -/
theorem clocked_notify {boottime : Int64} {rest : List BufferDescriptor} (h : s.Clocked usec) :
    ((s.tick usec boottime b.size).notify b rest).Clocked usec := by
  cases hfirst : s.firstBufferRead with
  | true =>
    have hnone := h.fresh.mp hfirst
    refine ⟨?_, fun _ => ?_, fun k b' hb' => ?_⟩
    · simp [tick, notify, hfirst]
    · simp [tick, notify, hfirst, hnone, clockAfter]
    · have hk : k = 0 := by
        by_contra hk
        have hlt := (List.getElem?_eq_some_iff.mp hb').1
        simp [tick, notify, hfirst, hnone] at hlt
        omega
      subst hk
      simp [tick, notify, hfirst, hnone, stamped] at hb'
      subst hb'
      simp [tick, notify, hfirst, hnone, clockAfter]
  | false =>
    have hsome : s.notified ≠ [] := fun hnone => by simp [h.fresh.mpr hnone] at hfirst
    have hclock := h.clock hsome
    refine ⟨?_, fun _ => ?_, fun k b' hb' => ?_⟩
    · simp [tick, notify, hfirst]
    · simp [tick, notify, hfirst, clockAfter_append hsome, hclock, stamped]
    · simp only [tick, notify, hfirst, Bool.false_eq_true, if_false] at hb' ⊢
      by_cases hk : k < s.notified.length
      · rw [List.getElem?_append_left hk] at hb'
        rw [List.take_append_of_le_length hk]
        exact h.stamps k b' hb'
      · have hlt := (List.getElem?_eq_some_iff.mp hb').1
        rw [List.length_append, List.length_singleton] at hlt
        obtain rfl : k = s.notified.length := by omega
        rw [List.getElem?_append_right le_rfl, Nat.sub_self] at hb'
        obtain rfl := Option.some.inj hb'
        rw [List.take_of_length_le (by simp), clockAfter_append hsome, ← hclock]
        rfl

theorem clocked_run (h : s.Clocked usec) (hrun : LTS.run (step usec) s as = some t) :
    t.Clocked usec := by
  induction as generalizing s with
  | nil =>
    obtain rfl := Option.some.inj hrun
    exact h
  | cons a as ih =>
    obtain ⟨u, hu, hrest⟩ := Option.bind_eq_some_iff.mp hrun
    refine ih ?_ hrest
    obtain ⟨hk, -⟩ | ⟨boottime, b, rest, -, -, -, -, rfl⟩ := (step_cases hu).2
    · exact hk.clocked h
    · exact clocked_notify h

/-- Buffers of one size move the clock on evenly. -/
theorem clockAfter_of_size (hsize : ∀ b ∈ bs, b.size = c) :
    clockAfter usec bs = .ofNat (bs.length - 1) * usec c := by
  have hconst : bs.tail.map (fun b => usec b.size) = List.replicate (bs.length - 1) (usec c) := by
    rw [List.eq_replicate_iff]
    refine ⟨by simp, fun x hx => ?_⟩
    obtain ⟨b, hb, rfl⟩ := List.mem_map.mp hx
    rw [hsize b (List.mem_of_mem_tail hb)]
  have hsum (n : Nat) : (List.replicate n (usec c)).foldl (· + ·) 0 = .ofNat n * usec c := by
    induction n with
    | zero => simp
    | succ n ih =>
      rw [List.replicate_succ', List.foldl_append, ih, UInt64.ofNat_add, UInt64.add_mul]
      simp
  rw [clockAfter, hconst, hsum]

/-- Between the first buffer and buffer `k` of equal capacities lie `k` rounded durations. -/
theorem timestamp_sub (s : PulseClient) (adjust : Int64) (has : ∀ a ∈ as, a.Empty)
    (hcap : ∀ a ∈ as, ∀ b ∈ a.posted, b.capacity = c)
    (hrun : LTS.run (step usec) (s.start adjust) as = some t)
    (h₀ : t.notified[0]? = some b₀) (hk : t.notified[k]? = some b) :
    b.timestamp - b₀.timestamp = .ofNat k * usec c := by
  have hclocked := clocked_run (clocked_start s adjust) hrun
  have hfull := (chunked_run (chunked_start s adjust) has hrun).full
  have horder := buffers_in_order hrun
  have hsize : ∀ b ∈ t.notified, b.size = c := by
    intro b hb
    have hkey : key b ∈ (t.notified ++ t.held).map key :=
      List.mem_map_of_mem (List.mem_append_left _ hb)
    rw [horder] at hkey
    obtain ⟨b', hb', heq⟩ := List.mem_map.mp hkey
    obtain ⟨a, ha, hposted⟩ := List.mem_flatMap.mp (by simpa [start, held] using hb')
    rw [(hfull b hb).2, ← hcap a ha b' hposted]
    exact (congrArg Prod.snd heq).symm
  have hlen : k < t.notified.length := (List.getElem?_eq_some_iff.mp hk).1
  have htake (n : Nat) : ∀ b ∈ t.notified.take n, b.size = c :=
    fun b hb => hsize b (List.mem_of_mem_take hb)
  rw [hclocked.stamps 0 b₀ h₀, hclocked.stamps k b hk, clockAfter_of_size (htake _),
    clockAfter_of_size (htake _), List.length_take, List.length_take,
    show min (k + 1) t.notified.length - 1 = k by omega,
    show min (0 + 1) t.notified.length - 1 = 0 by omega]
  simp

end PulseClient

/-- A sum of rounded-down durations is exact while the cut parts add up to less than a microsecond. -/
theorem abs_sub_lt_one_iff (k n : Nat) {m : Nat} (hm : 0 < m) :
    |((k * (n / m) % 2 ^ 64 : Nat) : ℚ) - k * n / m| < 1 ↔
      k * (n % m) < m ∧ k * (n / m) < 2 ^ 64 := by
  have hm' : (0 : ℚ) < m := by exact_mod_cast hm
  have hdiv : (n : ℚ) = m * (n / m : Nat) + (n % m : Nat) := by
    exact_mod_cast (Nat.div_add_mod n m).symm
  have hexact : (k : ℚ) * n / m = (k * (n / m) : Nat) + (k * (n % m) : Nat) / m := by
    rw [hdiv]
    push_cast
    field_simp
  by_cases hwrap : k * (n / m) < 2 ^ 64
  · have hrest : (0 : ℚ) ≤ (k * (n % m) : Nat) / m := by positivity
    rw [Nat.mod_eq_of_lt hwrap, hexact, sub_add_cancel_left, abs_neg, abs_of_nonneg hrest,
      div_lt_one hm', Nat.cast_lt]
    exact (and_iff_left hwrap).symm
  · have hlt : k * (n / m) % 2 ^ 64 + 1 ≤ k * (n / m) := by
      have := Nat.mod_lt (k * (n / m)) (by decide : 0 < 2 ^ 64)
      omega
    have hlt' : ((k * (n / m) % 2 ^ 64 : Nat) : ℚ) + 1 ≤ (k * (n / m) : Nat) := by
      exact_mod_cast hlt
    have hrest : (0 : ℚ) ≤ (k * (n % m) : Nat) / m := by positivity
    have hfar : ¬ |((k * (n / m) % 2 ^ 64 : Nat) : ℚ) - k * n / m| < 1 := by
      rw [hexact, not_lt, abs_sub_comm]
      refine le_trans ?_ (le_abs_self _)
      linarith
    exact ⟨fun h => absurd h hfar, fun h => absurd h.2 hwrap⟩

variable {s t : PulseClient} {usec : UInt32 → UInt64} {as : List PulseClient.Action}
  {b b₀ : BufferDescriptor} {c : UInt32} {k : Nat}

/-- In every run, for every rate and format and for every buffer. -/
theorem timestamp_exact_iff (spec : PaSampleSpec) (husec : spec.Rounds usec) (s : PulseClient)
    (adjust : Int64) (hframes : spec.frameSize ∣ c.toNat) (has : ∀ a ∈ as, a.Empty)
    (hcap : ∀ a ∈ as, ∀ b ∈ a.posted, b.capacity = c)
    (hrun : LTS.run (step usec) (s.start adjust) as = some t)
    (h₀ : t.notified[0]? = some b₀) (hk : t.notified[k]? = some b) :
    spec.Exact c k (b.timestamp - b₀.timestamp) ↔
      k * (c.toNat * 1000000 % spec.bytesPerSecond) < spec.bytesPerSecond ∧
        k * (c.toNat * 1000000 / spec.bytesPerSecond) < 2 ^ 64 := by
  have hpos : 0 < spec.bytesPerSecond := Nat.mul_pos spec.rate_pos spec.frameSize_pos
  have hdiff : (b.timestamp - b₀.timestamp).toNat =
      k * (c.toNat * 1000000 / spec.bytesPerSecond) % 2 ^ 64 := by
    rw [timestamp_sub s adjust has hcap hrun h₀ hk, UInt64.toNat_mul, husec c hframes,
      UInt64.toNat_ofNat', Nat.mod_mul_mod]
  have hcast : (k : ℚ) * c.toNat * 1000000 / spec.bytesPerSecond =
      k * (c.toNat * 1000000 : Nat) / spec.bytesPerSecond := by
    push_cast
    rw [mul_assoc (k : ℚ)]
  unfold PaSampleSpec.Exact
  rw [hdiff, hcast]
  exact abs_sub_lt_one_iff k _ hpos

/-- `pa_bytes_to_usec`, for whole frames. -/
def PaSampleSpec.bytesToUsec (spec : PaSampleSpec) (size : UInt32) : UInt64 :=
  .ofNat (size.toNat * 1000000 / spec.bytesPerSecond)

theorem PaSampleSpec.rounds_bytesToUsec (spec : PaSampleSpec) : spec.Rounds spec.bytesToUsec := by
  intro size _
  have hle : size.toNat * 1000000 / spec.bytesPerSecond ≤ size.toNat * 1000000 := Nat.div_le_self _ _
  have hsize := size.toNat_lt
  exact UInt64.toNat_ofNat_of_lt' (show _ < 2 ^ 64 by omega)

/-- Stereo samples of 16 bits at 44.1 kHz. -/
def stereo44100 : PaSampleSpec := ⟨44100, 4, by decide, by decide⟩

/-- Three buffers of 1024 bytes, filled from one fragment. -/
def threeBuffers : List PulseClient.Action :=
  [.post (.buffer [{ fd := 1, capacity := 1024 }, { fd := 2, capacity := 1024 },
      { fd := 3, capacity := 1024 }]),
    .arrive (.data (List.replicate 3072 0)), .next, .peek true true, .copy true, .deliver 0,
    .next, .copy true, .deliver 0, .next, .copy true, .deliver 0]

theorem threeBuffers_notified :
    ∃ t b₀ b, LTS.run (step stereo44100.bytesToUsec) (start {} 0) threeBuffers = some t ∧
      t.notified[0]? = some b₀ ∧ t.notified[2]? = some b ∧ b.timestamp - b₀.timestamp = 11608 := by
  have hstamps : (LTS.run (step stereo44100.bytesToUsec) (start {} 0) threeBuffers).map
      (fun t => t.notified.map BufferDescriptor.timestamp) =
      some [(0 - 25000), (5804 - 25000), (11608 - 25000)] := by decide +kernel
  obtain ⟨t, ht, hmap⟩ := Option.map_eq_some_iff.mp hstamps
  obtain ⟨b₀, bs, hb, h₀, hbs⟩ := List.map_eq_cons_iff.mp hmap
  obtain ⟨b₁, bs, rfl, h₁, hbs⟩ := List.map_eq_cons_iff.mp hbs
  obtain ⟨b₂, bs, rfl, h₂, hbs⟩ := List.map_eq_cons_iff.mp hbs
  refine ⟨t, b₀, b₂, ht, by simp [hb], by simp [hb], ?_⟩
  rw [h₀, h₂]
  decide

/-- Two buffers of 1024 bytes take 11609.97 microseconds, and 11608 are counted. -/
theorem timestamps_drift :
    ∃ t b₀ b, LTS.run (step stereo44100.bytesToUsec) (start {} 0) threeBuffers = some t ∧
      t.notified[0]? = some b₀ ∧ t.notified[2]? = some b ∧
      ¬ stereo44100.Exact 1024 2 (b.timestamp - b₀.timestamp) := by
  obtain ⟨t, b₀, b, ht, h₀, hk, hdiff⟩ := threeBuffers_notified
  refine ⟨t, b₀, b, ht, h₀, hk, ?_⟩
  unfold PaSampleSpec.Exact
  rw [hdiff, show ((1024 : UInt32)).toNat = 1024 from rfl, show ((11608 : UInt64)).toNat = 11608 from rfl,
    show stereo44100.bytesPerSecond = 176400 from rfl, abs_lt]
  norm_num

theorem timestamp_exact_iff_three_buffers :
    ∃ t b₀ b, LTS.run (step stereo44100.bytesToUsec) (start {} 0) threeBuffers = some t ∧
      t.notified[0]? = some b₀ ∧ t.notified[2]? = some b ∧
      (stereo44100.Exact 1024 2 (b.timestamp - b₀.timestamp) ↔
        2 * ((1024 : UInt32).toNat * 1000000 % stereo44100.bytesPerSecond) <
            stereo44100.bytesPerSecond ∧
          2 * ((1024 : UInt32).toNat * 1000000 / stereo44100.bytesPerSecond) < 2 ^ 64) := by
  obtain ⟨t, b₀, b, ht, h₀, hk, -⟩ := threeBuffers_notified
  have hempty : ∀ a ∈ threeBuffers, a.Empty := by
    simp [-List.reduceReplicate, threeBuffers, Action.Empty]
  have hcap : ∀ a ∈ threeBuffers, ∀ b ∈ a.posted, b.capacity = 1024 := by
    simp [-List.reduceReplicate, threeBuffers, Action.posted, AudioMessage.sent]
  exact ⟨t, b₀, b, ht, h₀, hk, timestamp_exact_iff stereo44100 stereo44100.rounds_bytesToUsec {} 0
    (by decide) hempty hcap ht h₀ hk⟩

end QmmfSdk.Audio
