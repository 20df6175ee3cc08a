import Mathlib.Data.Nat.Digits.Defs
import Mathlib.Tactic.Ring

/-! Vector registers of 64 and 128 bits as numbers, seen as lanes of any width, and the vector
instructions of 32-bit ARM on them. -/
namespace Library.Neon

variable {w n k x y r : ℕ} {xs ys : List ℕ}

/-- The `i`-th lane of width `w` of a register. -/
def lane (w i r : ℕ) : ℕ := r / 2 ^ (w * i) % 2 ^ w

/-- The first `n` lanes of width `w`, the lowest one first. -/
def lanes (w n r : ℕ) : List ℕ := (List.range n).map fun i => lane w i r

/-- `n` values for lanes of width `w`. -/
def Fits (w n : ℕ) (xs : List ℕ) : Prop := xs.length = n ∧ ∀ x ∈ xs, x < 2 ^ w

/-- The register with the given lanes. -/
def ofLanes (w : ℕ) (xs : List ℕ) : ℕ := Nat.ofDigits (2 ^ w) xs

/-- A 128-bit register: its low and its high 64-bit half. -/
structure Q where
  lo : ℕ
  hi : ℕ
  deriving DecidableEq, Repr

/-- All lanes of width `8 * 2 ^ j` of a 128-bit register, for `n` of them in each half. -/
def Q.lanes (w n : ℕ) (q : Q) : List ℕ := Neon.lanes w n q.lo ++ Neon.lanes w n q.hi

def Q.ofLanes (w n : ℕ) (xs : List ℕ) : Q := ⟨Neon.ofLanes w (xs.take n), Neon.ofLanes w (xs.drop n)⟩

/-- Every other element, from the first one on. -/
def evens : List ℕ → List ℕ
  | [] => []
  | [x] => [x]
  | x :: _ :: xs => x :: evens xs

/-! The instructions. -/

/-- `vext.8 d, n, m, #k`: the upper bytes of `n` below the lowest `k` bytes of `m`. -/
def vext8 (k n m : ℕ) : ℕ := ofLanes 8 ((lanes 8 8 n).drop k ++ (lanes 8 8 m).take k)

/-- `vuzp.8 q, r`: the even bytes of both registers, and the odd ones. -/
def vuzp8 (q r : Q) : Q × Q :=
  let bytes := q.lanes 8 8 ++ r.lanes 8 8
  (.ofLanes 8 8 (evens bytes), .ofLanes 8 8 (evens bytes.tail))

/-- `vmovl.u8 q, d`: each byte in a lane of 16 bits. -/
def vmovlU8 (d : ℕ) : Q := .ofLanes 16 4 (lanes 8 8 d)

/-- `vdup.16 q, r`. -/
def vdup16 (r : ℕ) : Q := .ofLanes 16 4 (List.replicate 8 (r % 2 ^ 16))

/-- `vsub.i16 q, n, m`. -/
def vsubI16 (n m : Q) : Q :=
  .ofLanes 16 4 (List.zipWith (fun x y => (x + 2 ^ 16 - y) % 2 ^ 16) (n.lanes 16 4) (m.lanes 16 4))

/-- `vmull.u32 q, n, m`: the two products of lanes of 32 bits, 64 bits each. -/
def vmullU32 (n m : ℕ) : Q := ⟨lane 32 0 n * lane 32 0 m, lane 32 1 n * lane 32 1 m⟩

/-- `vmlal.u32 q, n, m`: the products are added to the lanes of 64 bits. -/
def vmlalU32 (q : Q) (n m : ℕ) : Q :=
  ⟨(q.lo + lane 32 0 n * lane 32 0 m) % 2 ^ 64, (q.hi + lane 32 1 n * lane 32 1 m) % 2 ^ 64⟩

/-- `vrshrn.u16 d, q, #k`: each lane of 16 bits shifted down with rounding, its low byte kept. -/
def vrshrnU16 (k : ℕ) (q : Q) : ℕ :=
  ofLanes 8 ((q.lanes 16 4).map fun x => (x + 2 ^ (k - 1)) / 2 ^ k % 2 ^ 8)

/-- `vmovn.u16 d, q`: the low byte of each lane of 16 bits. -/
def vmovnU16 (q : Q) : ℕ := ofLanes 8 ((q.lanes 16 4).map fun x => x % 2 ^ 8)

@[simp] theorem evens_cons : evens (x :: xs) = x :: evens xs.tail := by
  cases xs <;> rfl

/-! Lanes of registers that are given by their lanes. -/

@[simp] theorem ofLanes_nil : ofLanes w [] = 0 := rfl

theorem ofLanes_cons : ofLanes w (x :: xs) = x + 2 ^ w * ofLanes w xs := Nat.ofDigits_cons ..

theorem lanes_succ : lanes w (n + 1) r = r % 2 ^ w :: lanes w n (r / 2 ^ w) := by
  unfold lanes lane
  rw [List.range_succ_eq_map, List.map_cons, List.map_map]
  congr 1
  · simp
  · apply List.map_congr_left
    intro i _
    rw [Function.comp_apply, Nat.succ_eq_add_one, Nat.mul_succ, Nat.add_comm, Nat.pow_add,
      Nat.div_div_eq_div_mul]

/-- The lanes are what the register was made of. -/
theorem lanes_ofLanes (h : Fits w n xs) : lanes w n (ofLanes w xs) = xs := by
  obtain ⟨rfl, hxs⟩ := h
  induction xs with
  | nil => rfl
  | cons x xs ih =>
    have hx : x < 2 ^ w := hxs x (by simp)
    rw [List.length_cons, lanes_succ, ofLanes_cons, Nat.add_mul_mod_self_left, Nat.mod_eq_of_lt hx,
      Nat.add_mul_div_left _ _ (Nat.two_pow_pos w), Nat.div_eq_of_lt hx, Nat.zero_add,
      ih fun y hy => hxs y (by simp [hy])]

/-- Two neighbouring lanes are one lane of twice the width. -/
theorem ofLanes_pairs (ps : List (ℕ × ℕ)) :
    ofLanes w (ps.flatMap fun p => [p.1, p.2]) =
      ofLanes (2 * w) (ps.map fun p => p.1 + 2 ^ w * p.2) := by
  induction ps with
  | nil => rfl
  | cons p ps ih =>
    simp only [List.flatMap_cons, List.map_cons, List.cons_append, List.nil_append, ofLanes_cons, ih]
    rw [show 2 * w = w + w by ring, Nat.pow_add]
    ring

theorem Q.lanes_ofLanes (h : Fits w (2 * n) xs) : (Q.ofLanes w n xs).lanes w n = xs := by
  obtain ⟨hn, hxs⟩ := h
  have hlow : Fits w n (xs.take n) := ⟨by simp; omega, fun x hx => hxs x (List.mem_of_mem_take hx)⟩
  have hhigh : Fits w n (xs.drop n) := ⟨by simp; omega, fun x hx => hxs x (List.mem_of_mem_drop hx)⟩
  unfold Q.lanes Q.ofLanes
  rw [Neon.lanes_ofLanes hlow, Neon.lanes_ofLanes hhigh, List.take_append_drop]

theorem Fits.of_forall {f : ℕ → ℕ} (hf : ∀ i, f i < 2 ^ w) (is : List ℕ) :
    Fits w is.length (is.map f) := by
  refine ⟨List.length_map f, ?_⟩
  intro x hx
  obtain ⟨i, _, rfl⟩ := List.mem_map.mp hx
  exact hf i

theorem Fits.ext (hx : Fits w n xs) (hy : Fits w n ys) (hk : k ≤ n) :
    Fits w n (xs.drop k ++ ys.take k) := by
  constructor
  · have := hx.1
    have := hy.1
    simp
    omega
  · intro x hx'
    obtain h | h := List.mem_append.mp hx'
    · exact hx.2 x (List.mem_of_mem_drop h)
    · exact hy.2 x (List.mem_of_mem_take h)

theorem vext8_ofLanes (hx : Fits 8 8 xs) (hy : Fits 8 8 ys) :
    vext8 k (ofLanes 8 xs) (ofLanes 8 ys) = ofLanes 8 (xs.drop k ++ ys.take k) := by
  unfold vext8
  rw [lanes_ofLanes hx, lanes_ofLanes hy]

theorem vmovlU8_ofLanes (hx : Fits 8 8 xs) : vmovlU8 (ofLanes 8 xs) = .ofLanes 16 4 xs := by
  unfold vmovlU8
  rw [lanes_ofLanes hx]

theorem vsubI16_ofLanes (hx : Fits 16 8 xs) (hy : Fits 16 8 ys) :
    vsubI16 (.ofLanes 16 4 xs) (.ofLanes 16 4 ys) =
      .ofLanes 16 4 (List.zipWith (fun x y => (x + 2 ^ 16 - y) % 2 ^ 16) xs ys) := by
  unfold vsubI16
  rw [Q.lanes_ofLanes hx, Q.lanes_ofLanes hy]

theorem vrshrnU16_ofLanes (hx : Fits 16 8 xs) :
    vrshrnU16 k (.ofLanes 16 4 xs) =
      ofLanes 8 (xs.map fun x => (x + 2 ^ (k - 1)) / 2 ^ k % 2 ^ 8) := by
  unfold vrshrnU16
  rw [Q.lanes_ofLanes hx]

section Pairs

variable {ps qs : List (ℕ × ℕ)} {a b c d : ℕ}

theorem lanes_pairs (ps : List (ℕ × ℕ)) (hps : ∀ p ∈ ps, p.1 < 2 ^ w ∧ p.2 < 2 ^ w) :
    lanes (2 * w) ps.length (ofLanes w (ps.flatMap fun p => [p.1, p.2])) =
      ps.map fun p => p.1 + 2 ^ w * p.2 := by
  rw [ofLanes_pairs]
  apply lanes_ofLanes
  constructor
  · simp
  · intro x hx
    obtain ⟨p, hp, rfl⟩ := List.mem_map.mp hx
    obtain ⟨h₁, h₂⟩ := hps p hp
    calc p.1 + 2 ^ w * p.2 < 2 ^ w + 2 ^ w * p.2 := Nat.add_lt_add_right h₁ _
      _ = 2 ^ w * (p.2 + 1) := by ring
      _ ≤ 2 ^ w * 2 ^ w := Nat.mul_le_mul_left _ h₂
      _ = 2 ^ (2 * w) := by ring

/-- A lane of 32 bits is made of two lanes of 16 bits. -/
theorem lane32_ofLanes16 (h : Fits 16 4 [a, b, c, d]) :
    lane 32 0 (ofLanes 16 [a, b, c, d]) = a + 2 ^ 16 * b ∧
      lane 32 1 (ofLanes 16 [a, b, c, d]) = c + 2 ^ 16 * d := by
  have hpairs : lanes 32 2 (ofLanes 16 [a, b, c, d]) = [a + 2 ^ 16 * b, c + 2 ^ 16 * d] :=
    lanes_pairs [(a, b), (c, d)] (by simpa [and_assoc] using h.2)
  simpa [lanes, List.range_succ] using hpairs

/-- Narrowing keeps the lower byte of each two. -/
theorem vmovnU16_pairs (hps : ∀ p ∈ ps, p.1 < 2 ^ 8 ∧ p.2 < 2 ^ 8)
    (hqs : ∀ q ∈ qs, q.1 < 2 ^ 8 ∧ q.2 < 2 ^ 8) (hlp : ps.length = 4) (hlq : qs.length = 4) :
    vmovnU16 ⟨ofLanes 8 (ps.flatMap fun p => [p.1, p.2]),
        ofLanes 8 (qs.flatMap fun q => [q.1, q.2])⟩ =
      ofLanes 8 (ps.map Prod.fst ++ qs.map Prod.fst) := by
  have hlow : ∀ p ∈ ps ++ qs, (p.1 + 2 ^ 8 * p.2) % 2 ^ 8 = p.1 := by
    intro p hp
    have h : p.1 < 2 ^ 8 := (List.mem_append.mp hp).elim (fun h => (hps p h).1) fun h => (hqs p h).1
    omega
  have hp := lanes_pairs ps hps
  have hq := lanes_pairs qs hqs
  rw [hlp] at hp
  rw [hlq] at hq
  unfold vmovnU16 Q.lanes
  rw [hp, hq, ← List.map_append, ← List.map_append, List.map_map]
  congr 1
  exact List.map_congr_left hlow

/-- What the lanes of 16 bits hold after two products of pairs have been added up: the wanted sums,
the sum of the cross products between them, and its carry in the upper one. -/
theorem pair_products {x₀ x₁ w₀ w₁ y₀ y₁ v₀ v₁ : ℕ} (hlow : x₀ * w₀ + y₀ * v₀ < 2 ^ 16)
    (hhigh : x₁ * w₁ + y₁ * v₁ + (x₀ * w₁ + x₁ * w₀ + (y₀ * v₁ + y₁ * v₀)) / 2 ^ 16 < 2 ^ 16) :
    ((x₀ + 2 ^ 16 * x₁) * (w₀ + 2 ^ 16 * w₁) + (y₀ + 2 ^ 16 * y₁) * (v₀ + 2 ^ 16 * v₁)) % 2 ^ 64 =
      ofLanes 16 [x₀ * w₀ + y₀ * v₀, (x₀ * w₁ + x₁ * w₀ + (y₀ * v₁ + y₁ * v₀)) % 2 ^ 16,
        x₁ * w₁ + y₁ * v₁ + (x₀ * w₁ + x₁ * w₀ + (y₀ * v₁ + y₁ * v₀)) / 2 ^ 16, 0] := by
  have hsum : (x₀ + 2 ^ 16 * x₁) * (w₀ + 2 ^ 16 * w₁) + (y₀ + 2 ^ 16 * y₁) * (v₀ + 2 ^ 16 * v₁) =
      x₀ * w₀ + y₀ * v₀ + 2 ^ 16 * (x₀ * w₁ + x₁ * w₀ + (y₀ * v₁ + y₁ * v₀)) +
        2 ^ 32 * (x₁ * w₁ + y₁ * v₁) := by
    ring
  rw [hsum]
  simp only [ofLanes_cons, ofLanes_nil]
  omega

end Pairs

end Library.Neon
