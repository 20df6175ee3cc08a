import QmmfSdk.Library.Neon
import QmmfSdk.Resizer.Neon

/-! The vector code of the luma pass with vertical skip, and the interpolation that it stands for. -/
namespace QmmfSdk.Resizer

open Library Library.Neon

/-- The interpolation of two neighbours, rounded. -/
def plain (a b c : ℕ) : ℕ := ((256 - c) * a + c * b + 128) / 256

/-- The instructions on the eight loaded words, with whatever `q5` holds before. -/
def interpolate (d : ℕ → ℕ) (q5 q6 : Q) (oneVal : ℕ) : ℕ :=
  let d8 := vext8 2 (d 0) (d 0)
  let d8 := vext8 2 d8 (d 1)
  let d8 := vext8 2 d8 (d 2)
  let d8 := vext8 2 d8 (d 3)
  let d9 := vext8 2 (d 4) (d 4)
  let d9 := vext8 2 d9 (d 5)
  let d9 := vext8 2 d9 (d 6)
  let d9 := vext8 2 d9 (d 7)
  let (q4, q5) := vuzp8 ⟨d8, d9⟩ q5
  let q0 := vmovlU8 q4.lo
  let q1 := vmovlU8 q5.lo
  let q2 := vdup16 oneVal
  let q3 := vsubI16 q2 q6
  let q4 := vmullU32 q0.lo q3.lo
  let q4 := vmlalU32 q4 q1.lo q6.lo
  let q5 := vmullU32 q0.hi q3.hi
  let q5 := vmlalU32 q5 q1.hi q6.hi
  let d0 := vrshrnU16 8 q4
  let d1 := vrshrnU16 8 q5
  vmovnU16 ⟨d0, d1⟩

/-- `vld1.8 {d}, [src]`. -/
def load8 (mem : ℕ → UInt8) (src : ℕ) : ℕ :=
  ofLanes 8 ((List.range 8).map fun k => (mem (src + k)).toNat)

namespace NeonImgArgs

/-- Where the source row of an output row begins. -/
def skipSrc (img : NeonImgArgs) (row : ℕ) : ℕ := indOf (u32 (row * img.hCoef)) * img.srcStride

/-- Where the left neighbour of pixel `k` of the group `col` lies. -/
def src (img : NeonImgArgs) (row col k : ℕ) : ℕ :=
  img.skipSrc row + img.inputOffsets.getD (col * 8 + k) 0

def coef (img : NeonImgArgs) (col k : ℕ) : ℕ := img.yCoefs.getD (col * 8 + k) 0

/-- The eight bytes that are stored for the group `col` of a row. -/
def lumaGroupVSkip (img : NeonImgArgs) (mem : ℕ → UInt8) (q5 : Q) (row col : ℕ) : List ℕ :=
  let q6 := Q.ofLanes 16 4 ((List.range 8).map (img.coef col))
  lanes 8 8 (interpolate (fun k => load8 mem (img.src row col k)) q5 q6 256)

def left (img : NeonImgArgs) (mem : ℕ → UInt8) (row col k : ℕ) : ℕ :=
  (mem (img.src row col k)).toNat

def right (img : NeonImgArgs) (mem : ℕ → UInt8) (row col k : ℕ) : ℕ :=
  (mem (img.src row col k + 1)).toNat

/-- The same eight bytes in integer arithmetic. -/
def plainGroup (img : NeonImgArgs) (mem : ℕ → UInt8) (row col : ℕ) : List ℕ :=
  (List.range 8).map fun k => plain (img.left mem row col k) (img.right mem row col k) (img.coef col k)

end NeonImgArgs

variable {a b c : ℕ → ℕ} {t : ℕ → List ℕ} {q5 : Q} {i k : ℕ}

/-- The word that is loaded for a pixel: its two neighbours, and six bytes that do not matter. -/
def word (a b : ℕ → ℕ) (t : ℕ → List ℕ) (k : ℕ) : List ℕ := a k :: b k :: t k

/-- The wanted sum of a pixel. -/
def wanted (a b c : ℕ → ℕ) (k : ℕ) : ℕ := a k * (256 - c k) + b k * c k

/-- The products of each of two pixels with the weights of the other. -/
def crossed (a b c : ℕ → ℕ) (k : ℕ) : ℕ :=
  a k * (256 - c (k + 1)) + a (k + 1) * (256 - c k) + (b k * c (k + 1) + b (k + 1) * c k)

/-- A lane of 16 bits after the rounding shift. -/
def rounded (x : ℕ) : ℕ := (x + 2 ^ (8 - 1)) / 2 ^ 8 % 2 ^ 8

/-- Pixel `k + 1` gets the carry of the cross products, and it changes the rounding. -/
def Disturbed (a b c : ℕ → ℕ) (k : ℕ) : Prop :=
  2 ^ 16 ≤ crossed a b c k ∧ wanted a b c (k + 1) % 256 = 127

instance : Decidable (Disturbed a b c k) := inferInstanceAs (Decidable (_ ∧ _))

/-- The first two bytes of four loaded words, one behind the other. -/
theorem collect (hab : ∀ k, Fits 8 8 (word a b t k)) :
    vext8 2 (vext8 2 (vext8 2 (vext8 2 (ofLanes 8 (word a b t i)) (ofLanes 8 (word a b t i)))
      (ofLanes 8 (word a b t (i + 1)))) (ofLanes 8 (word a b t (i + 2))))
      (ofLanes 8 (word a b t (i + 3))) =
    ofLanes 8 [a i, b i, a (i + 1), b (i + 1), a (i + 2), b (i + 2), a (i + 3), b (i + 3)] := by
  have h₀ := (hab i).ext (hab i) (by decide : 2 ≤ 8)
  have h₁ := h₀.ext (hab (i + 1)) (by decide : 2 ≤ 8)
  have h₂ := h₁.ext (hab (i + 2)) (by decide : 2 ≤ 8)
  have ht : (t i).length = 6 := by
    have hlen := (hab i).1
    simp [word] at hlen
    omega
  rw [vext8_ofLanes (hab i) (hab i), vext8_ofLanes h₀ (hab (i + 1)), vext8_ofLanes h₁ (hab (i + 2)),
    vext8_ofLanes h₂ (hab (i + 3))]
  simp [word, List.drop_append, ht]

/-- The bytes of the two neighbours apart. -/
theorem unzip (q5 : Q) (hlow : Fits 8 8 [a 0, b 0, a 1, b 1, a 2, b 2, a 3, b 3])
    (hhigh : Fits 8 8 [a 4, b 4, a 5, b 5, a 6, b 6, a 7, b 7]) :
    (vuzp8 ⟨ofLanes 8 [a 0, b 0, a 1, b 1, a 2, b 2, a 3, b 3],
        ofLanes 8 [a 4, b 4, a 5, b 5, a 6, b 6, a 7, b 7]⟩ q5).1.lo =
        ofLanes 8 [a 0, a 1, a 2, a 3, a 4, a 5, a 6, a 7] ∧
      (vuzp8 ⟨ofLanes 8 [a 0, b 0, a 1, b 1, a 2, b 2, a 3, b 3],
        ofLanes 8 [a 4, b 4, a 5, b 5, a 6, b 6, a 7, b 7]⟩ q5).2.lo =
        ofLanes 8 [b 0, b 1, b 2, b 3, b 4, b 5, b 6, b 7] := by
  unfold vuzp8 Q.lanes
  simp [lanes_ofLanes hlow, lanes_ofLanes hhigh, Q.ofLanes]

/-- The complements of the coefficients. -/
theorem complements (hc : ∀ k, c k < 256) :
    vsubI16 (vdup16 256) (.ofLanes 16 4 [c 0, c 1, c 2, c 3, c 4, c 5, c 6, c 7]) =
      .ofLanes 16 4 [256 - c 0, 256 - c 1, 256 - c 2, 256 - c 3, 256 - c 4, 256 - c 5, 256 - c 6,
        256 - c 7] := by
  have hcoef (k : ℕ) : (65792 - c k) % 65536 = 256 - c k := by
    have := hc k
    omega
  have hfits : Fits 16 8 [c 0, c 1, c 2, c 3, c 4, c 5, c 6, c 7] :=
    .of_forall (fun k => (hc k).trans (by decide)) [0, 1, 2, 3, 4, 5, 6, 7]
  unfold vdup16
  rw [vsubI16_ofLanes ⟨rfl, by simp⟩ hfits]
  simp [List.replicate, hcoef]

/-- What four pixels have in their lanes after the two multiplications. -/
def products (a b c : ℕ → ℕ) (i : ℕ) : Q :=
  .ofLanes 16 4 [wanted a b c i, crossed a b c i % 2 ^ 16,
    wanted a b c (i + 1) + crossed a b c i / 2 ^ 16, 0,
    wanted a b c (i + 2), crossed a b c (i + 2) % 2 ^ 16,
    wanted a b c (i + 3) + crossed a b c (i + 2) / 2 ^ 16, 0]

theorem wanted_le (ha : ∀ k, a k < 256) (hb : ∀ k, b k < 256) (hc : ∀ k, c k < 256) (k : ℕ) :
    wanted a b c k ≤ 255 * 256 := by
  have hsum : 256 - c k + c k = 256 := by
    have := hc k
    omega
  calc wanted a b c k ≤ 255 * (256 - c k) + 255 * c k :=
        Nat.add_le_add (Nat.mul_le_mul_right _ (Nat.le_of_lt_succ (ha k)))
          (Nat.mul_le_mul_right _ (Nat.le_of_lt_succ (hb k)))
    _ = 255 * 256 := by rw [← Nat.mul_add, hsum]

theorem crossed_lt (ha : ∀ k, a k < 256) (hb : ∀ k, b k < 256) (hc : ∀ k, c k < 256) (k : ℕ) :
    crossed a b c k < 2 * 2 ^ 16 := by
  have hle (x y : ℕ) : a x * (256 - c y) + b x * c y ≤ 255 * 256 :=
    wanted_le (c := fun _ => c y) ha hb (fun _ => hc y) x
  have h₀ := hle k (k + 1)
  have h₁ := hle (k + 1) k
  unfold crossed
  omega

theorem multiply (ha : ∀ k, a k < 256) (hb : ∀ k, b k < 256) (hc : ∀ k, c k < 256) (i : ℕ) :
    vmlalU32 (vmullU32 (ofLanes 16 [a i, a (i + 1), a (i + 2), a (i + 3)])
      (ofLanes 16 [256 - c i, 256 - c (i + 1), 256 - c (i + 2), 256 - c (i + 3)]))
      (ofLanes 16 [b i, b (i + 1), b (i + 2), b (i + 3)])
      (ofLanes 16 [c i, c (i + 1), c (i + 2), c (i + 3)]) = products a b c i := by
  have hfits (f : ℕ → ℕ) (hf : ∀ k, f k ≤ 256) :
      Fits 16 4 [f i, f (i + 1), f (i + 2), f (i + 3)] :=
    .of_forall (fun k => (hf k).trans_lt (by decide)) [i, i + 1, i + 2, i + 3]
  have hpair (k : ℕ) : wanted a b c k < 2 ^ 16 ∧
      wanted a b c (k + 1) + crossed a b c k / 2 ^ 16 < 2 ^ 16 := by
    have h₀ := wanted_le ha hb hc k
    have h₁ := wanted_le ha hb hc (k + 1)
    have hx := crossed_lt ha hb hc k
    omega
  obtain ⟨ha₀, ha₁⟩ := lane32_ofLanes16 (hfits a fun k => (ha k).le)
  obtain ⟨hb₀, hb₁⟩ := lane32_ofLanes16 (hfits b fun k => (hb k).le)
  obtain ⟨hc₀, hc₁⟩ := lane32_ofLanes16 (hfits c fun k => (hc k).le)
  obtain ⟨hw₀, hw₁⟩ := lane32_ofLanes16 (hfits (fun k => 256 - c k) fun k => Nat.sub_le _ _)
  unfold vmlalU32 vmullU32
  rw [ha₀, ha₁, hb₀, hb₁, hc₀, hc₁, hw₀, hw₁, pair_products (hpair i).1 (hpair i).2,
    pair_products (hpair (i + 2)).1 (hpair (i + 2)).2]
  rfl

/-- Rounded and narrowed, the sums are left, the upper one of each two with its carry. -/
theorem narrow (ha : ∀ k, a k < 256) (hb : ∀ k, b k < 256) (hc : ∀ k, c k < 256) :
    vmovnU16 ⟨vrshrnU16 8 (products a b c 0), vrshrnU16 8 (products a b c 4)⟩ =
      ofLanes 8 [rounded (wanted a b c 0), rounded (wanted a b c 1 + crossed a b c 0 / 2 ^ 16),
        rounded (wanted a b c 2), rounded (wanted a b c 3 + crossed a b c 2 / 2 ^ 16),
        rounded (wanted a b c 4), rounded (wanted a b c 5 + crossed a b c 4 / 2 ^ 16),
        rounded (wanted a b c 6), rounded (wanted a b c 7 + crossed a b c 6 / 2 ^ 16)] := by
  have hrounded (x : ℕ) : rounded x < 256 := Nat.mod_lt _ (by decide)
  have hfits (i : ℕ) : Fits 16 8 [wanted a b c i, crossed a b c i % 2 ^ 16,
      wanted a b c (i + 1) + crossed a b c i / 2 ^ 16, 0, wanted a b c (i + 2),
      crossed a b c (i + 2) % 2 ^ 16, wanted a b c (i + 3) + crossed a b c (i + 2) / 2 ^ 16, 0] := by
    have hw := wanted_le ha hb hc
    have hx := crossed_lt ha hb hc
    have h₀ := hw i
    have h₁ := hw (i + 1)
    have h₂ := hw (i + 2)
    have h₃ := hw (i + 3)
    have hx₀ := hx i
    have hx₂ := hx (i + 2)
    refine ⟨rfl, ?_⟩
    simp only [List.mem_cons, List.not_mem_nil, or_false, forall_eq_or_imp, forall_eq]
    omega
  have hshift (i : ℕ) : vrshrnU16 8 (products a b c i) =
      ofLanes 8 ([(rounded (wanted a b c i), rounded (crossed a b c i % 2 ^ 16)),
        (rounded (wanted a b c (i + 1) + crossed a b c i / 2 ^ 16), rounded 0),
        (rounded (wanted a b c (i + 2)), rounded (crossed a b c (i + 2) % 2 ^ 16)),
        (rounded (wanted a b c (i + 3) + crossed a b c (i + 2) / 2 ^ 16), rounded 0)].flatMap
          fun p => [p.1, p.2]) := vrshrnU16_ofLanes (hfits i)
  rw [hshift, hshift, vmovnU16_pairs (by simp [hrounded]) (by simp [hrounded]) rfl rfl]
  rfl

/-- The instructions on the words of eight pixels. -/
theorem interpolate_eq (q5 : Q) (hab : ∀ k, Fits 8 8 (word a b t k)) (hc : ∀ k, c k < 256) :
    interpolate (fun k => ofLanes 8 (word a b t k)) q5
        (.ofLanes 16 4 [c 0, c 1, c 2, c 3, c 4, c 5, c 6, c 7]) 256 =
      ofLanes 8 [rounded (wanted a b c 0), rounded (wanted a b c 1 + crossed a b c 0 / 2 ^ 16),
        rounded (wanted a b c 2), rounded (wanted a b c 3 + crossed a b c 2 / 2 ^ 16),
        rounded (wanted a b c 4), rounded (wanted a b c 5 + crossed a b c 4 / 2 ^ 16),
        rounded (wanted a b c 6), rounded (wanted a b c 7 + crossed a b c 6 / 2 ^ 16)] := by
  have ha (k : ℕ) : a k < 256 := (hab k).2 (a k) (by simp [word])
  have hb (k : ℕ) : b k < 256 := (hab k).2 (b k) (by simp [word])
  have hzip (i : ℕ) : Fits 8 8
      [a i, b i, a (i + 1), b (i + 1), a (i + 2), b (i + 2), a (i + 3), b (i + 3)] := by
    refine ⟨rfl, ?_⟩
    simp [ha, hb]
  obtain ⟨hleft, hright⟩ := unzip q5 (hzip 0) (hzip 4)
  have hfits (f : ℕ → ℕ) (hf : ∀ k, f k < 256) :
      Fits 8 8 [f 0, f 1, f 2, f 3, f 4, f 5, f 6, f 7] :=
    .of_forall hf [0, 1, 2, 3, 4, 5, 6, 7]
  unfold interpolate
  simp only [collect (i := 0) hab, collect (i := 4) hab]
  rw [hleft, hright, vmovlU8_ofLanes (hfits a ha), vmovlU8_ofLanes (hfits b hb), complements hc,
    ← narrow ha hb hc, ← multiply ha hb hc 0, ← multiply ha hb hc 4]
  rfl

theorem rounded_wanted (ha : ∀ k, a k < 256) (hb : ∀ k, b k < 256) (hc : ∀ k, c k < 256) (k : ℕ) :
    rounded (wanted a b c k) = plain (a k) (b k) (c k) := by
  have hle := wanted_le ha hb hc k
  have hplain : plain (a k) (b k) (c k) = (wanted a b c k + 128) / 256 := by
    unfold plain wanted
    rw [Nat.mul_comm (a k), Nat.mul_comm (b k)]
  rw [hplain]
  unfold rounded
  omega

/-- At most one carry reaches a pixel, and it changes the byte at one remainder only. -/
theorem rounded_carry_iff (ha : ∀ k, a k < 256) (hb : ∀ k, b k < 256) (hc : ∀ k, c k < 256)
    (hi : i = k + 1) :
    rounded (wanted a b c i + crossed a b c k / 2 ^ 16) = plain (a i) (b i) (c i) ↔
      ¬ Disturbed a b c k := by
  subst hi
  have hle := wanted_le ha hb hc (k + 1)
  have hlt := crossed_lt ha hb hc k
  rw [← rounded_wanted ha hb hc (k + 1)]
  unfold rounded Disturbed
  omega

variable {img : NeonImgArgs} {mem : ℕ → UInt8} {row col : ℕ}

theorem coef_lt (hc : ∀ x ∈ img.yCoefs, x < 256) (col k : ℕ) : img.coef col k < 256 := by
  unfold NeonImgArgs.coef
  rw [List.getD]
  cases hx : img.yCoefs[col * 8 + k]? with
  | none => decide
  | some x => exact hc x (List.mem_of_getElem? hx)

/-- For every row and group: the vector code stores the plain bytes unless a carry between two pixels
changes one of them. -/
theorem lumaGroupVSkip_eq_plain_iff (img : NeonImgArgs) (mem : ℕ → UInt8) (q5 : Q) (row col : ℕ)
    (hc : ∀ x ∈ img.yCoefs, x < 256) :
    img.lumaGroupVSkip mem q5 row col = img.plainGroup mem row col ↔
      ∀ k ∈ [0, 2, 4, 6],
        ¬ Disturbed (img.left mem row col) (img.right mem row col) (img.coef col) k := by
  have ha (k : ℕ) : img.left mem row col k < 256 := UInt8.toNat_lt _
  have hb (k : ℕ) : img.right mem row col k < 256 := UInt8.toNat_lt _
  have hcoef := coef_lt hc col
  have hword (k : ℕ) : Fits 8 8 (word (img.left mem row col) (img.right mem row col)
      (fun k => (List.range' 2 6).map fun i => (mem (img.src row col k + i)).toNat) k) :=
    .of_forall (fun i => UInt8.toNat_lt (mem (img.src row col k + i))) (List.range 8)
  have hrounded (x : ℕ) : rounded x < 256 := Nat.mod_lt _ (by decide)
  have hwords := interpolate_eq q5 hword hcoef
  have hgroup : img.lumaGroupVSkip mem q5 row col = _ := congrArg (lanes 8 8) hwords
  rw [hgroup, lanes_ofLanes (n := 8) ⟨rfl, by simp [hrounded]⟩]
  unfold NeonImgArgs.plainGroup
  rw [show List.range 8 = [0, 1, 2, 3, 4, 5, 6, 7] from rfl]
  simp only [List.map_cons, List.map_nil, List.cons.injEq, rounded_wanted ha hb hcoef,
    rounded_carry_iff ha hb hcoef (by decide : 1 = 0 + 1),
    rounded_carry_iff ha hb hcoef (by decide : 3 = 2 + 1),
    rounded_carry_iff ha hb hcoef (by decide : 5 = 4 + 1),
    rounded_carry_iff ha hb hcoef (by decide : 7 = 6 + 1)]
  simp

/-- A row of 26 pixels drawn on 24, with the tables of `update_coefs`. -/
def from26to24 : NeonImgArgs :=
  workerImg ((newTables 26 8 24 8).getD {}) ⟨26, 8, 128, 24, 8, 24, .bilinearVSkip⟩ 0

/-- A source row that begins with 255, 180, 247. -/
def brightRow (address : ℕ) : UInt8 := [255, 180, 247].getD address 0

/-- Pixel 1 should be 185, and 186 is stored. -/
theorem brightRow_disturbed :
    from26to24.lumaGroupVSkip brightRow ⟨0, 0⟩ 0 0 ≠ from26to24.plainGroup brightRow 0 0 := by
  decide

/-- A source row that gets lighter from pixel to pixel and starts again. -/
def risingRow (address : ℕ) : UInt8 := (31 * address + 17).toUInt8

/-- Its second group is stored as it should be. -/
theorem lumaGroupVSkip_eq_plain_iff_risingRow :
    (∀ k ∈ [0, 2, 4, 6], ¬ Disturbed (from26to24.left risingRow 0 1) (from26to24.right risingRow 0 1)
      (from26to24.coef 1) k) ∧
    from26to24.lumaGroupVSkip risingRow ⟨0, 0⟩ 0 1 = from26to24.plainGroup risingRow 0 1 := by
  have hcalm : ∀ k ∈ [0, 2, 4, 6], ¬ Disturbed (from26to24.left risingRow 0 1)
      (from26to24.right risingRow 0 1) (from26to24.coef 1) k := by decide
  exact ⟨hcalm, (lumaGroupVSkip_eq_plain_iff from26to24 risingRow ⟨0, 0⟩ 0 1
    (by decide)).mpr hcalm⟩

end QmmfSdk.Resizer
