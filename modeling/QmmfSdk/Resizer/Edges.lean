import QmmfSdk.Resizer.Draw
import QmmfSdk.Resizer.Split

/-! Which source samples the resizer looks at: exactly when all of them belong to the picture. -/
namespace QmmfSdk.Resizer

open Library

variable {l rows cols : List (ℕ × ℕ)} {l' : List ℕ} {bound R C step index coef src dst n i : ℕ}

/-- Each sample that counts lies below the bound. -/
def TapsIn (bound : ℕ) (l : List (ℕ × ℕ)) : Prop := ∀ x ∈ l, x.2 ≠ 0 → x.1 < bound

/-- Each source sample that enters one of the outputs lies in the plane of that size. -/
def InsidePlane (stores : List Store) (rows cols : ℕ) : Prop :=
  ∀ s ∈ stores, ∀ t ∈ s.2, t.weight ≠ 0 → t.row < rows ∧ t.col < cols

/-- The outputs are made of samples of the source picture only. -/
def LooksInside (p : Resn) (out : Output) : Prop :=
  InsidePlane out.luma p.srcHeight p.srcWidth ∧ InsidePlane out.chroma (p.srcHeight / 2) p.srcWidth

/-- The last of `n` interpolated samples and its neighbour lie among `size` samples. -/
def LinearFits (n coef size : ℕ) : Prop := (n - 1) * coef + 256 ≤ 256 * size

def RowsFit (m : ResMethod) (n coef size : ℕ) : Prop :=
  match m with
  | .bilinearVSkip => (n - 1) * coef < 256 * size
  | .bilinear => LinearFits n coef size

/-- The last rows and columns of both planes fit; a picture of one line has no chroma. -/
structure EdgeFits (p : Resn) : Prop where
  lumaCols : LinearFits p.dstWidth (axisCoef p.srcWidth p.dstWidth) p.srcWidth
  lumaRows : RowsFit p.resMethod p.dstHeight (axisCoef p.srcHeight p.dstHeight) p.srcHeight
  chromaCols : 2 ≤ p.dstHeight →
    LinearFits (p.dstWidth / 2) (axisCoef p.srcWidth p.dstWidth) (p.srcWidth / 2)
  chromaRows : 2 ≤ p.dstHeight →
    RowsFit p.resMethod (p.dstHeight / 2) (axisCoef p.srcHeight p.dstHeight) (p.srcHeight / 2)

instance {stores : List Store} {rows cols : ℕ} : Decidable (InsidePlane stores rows cols) :=
  inferInstanceAs (Decidable (∀ s ∈ stores, ∀ t ∈ s.2, t.weight ≠ 0 → t.row < rows ∧ t.col < cols))

instance {p : Resn} {out : Output} : Decidable (LooksInside p out) :=
  inferInstanceAs (Decidable (_ ∧ _))

theorem tapsIn_linear (hc : coef < 256) : TapsIn bound (linear step index coef) ↔
    index < bound ∧ (coef ≠ 0 → index + step < bound) := by
  have hleft : 256 - coef ≠ 0 := by omega
  simp [TapsIn, linear, hleft]

theorem tapsIn_singleton : TapsIn bound [(index, 1)] ↔ index < bound := by
  simp [TapsIn]

/-- Where both axes have a sample that counts, a cell lies inside when both axes do. -/
theorem taps_inside_iff (hrows : ∃ r ∈ rows, r.2 ≠ 0) (hcols : ∃ c ∈ cols, c.2 ≠ 0) :
    (∀ t ∈ taps rows cols, t.weight ≠ 0 → t.row < R ∧ t.col < C) ↔
      TapsIn R rows ∧ TapsIn C cols := by
  obtain ⟨r₀, hr₀, hwr₀⟩ := hrows
  obtain ⟨c₀, hc₀, hwc₀⟩ := hcols
  have hmem (r c) (hr : r ∈ rows) (hc : c ∈ cols) : ⟨r.1, c.1, r.2 * c.2⟩ ∈ taps rows cols :=
    List.mem_flatMap.mpr ⟨r, hr, List.mem_map_of_mem hc⟩
  constructor
  · intro h
    constructor
    · intro r hr hw
      exact (h _ (hmem r c₀ hr hc₀) (Nat.mul_ne_zero hw hwc₀)).1
    · intro c hc hw
      exact (h _ (hmem r₀ c hr₀ hc) (Nat.mul_ne_zero hwr₀ hw)).2
  · rintro ⟨hR, hC⟩ t ht hw
    obtain ⟨r, hr, ht⟩ := List.mem_flatMap.mp ht
    obtain ⟨c, hc, rfl⟩ := List.mem_map.mp ht
    exact ⟨hR r hr (Nat.ne_zero_of_mul_ne_zero_left hw), hC c hc (Nat.ne_zero_of_mul_ne_zero_right hw)⟩

/-! The fixed-point index along one axis. -/

theorem dst_mul_axisCoef_le (src dst : ℕ) : dst * axisCoef src dst ≤ 256 * src := by
  have hdiv : dst * (u32 (src * 256) / dst) ≤ u32 (src * 256) := Nat.mul_div_le _ _
  have hmod : u32 (src * 256) ≤ src * 256 := Nat.mod_le _ _
  unfold axisCoef
  omega

/-- No index on the way to the last sample is cut to 32 bits. -/
theorem u32_mul_axisCoef (hi : i < dst) : u32 (i * axisCoef src dst) = i * axisCoef src dst := by
  have hdiv : dst * axisCoef src dst ≤ u32 (src * 256) := Nat.mul_div_le _ _
  have hmod : u32 (src * 256) < 2 ^ 32 := Nat.mod_lt _ (by decide)
  have hlt : i * axisCoef src dst ≤ dst * axisCoef src dst := Nat.mul_le_mul_right _ hi.le
  exact Nat.mod_eq_of_lt (by omega)

/-- Where the 16-bit offsets would be cut, the source is so much larger that they stay inside. -/
theorem linear_inside_iff (hn : 0 < n)
    (hcut : 2 ^ 24 ≤ (n - 1) * coef → LinearFits n coef bound ∧ 2 ^ 16 < bound) :
    (∀ i < n, u16 (i * coef / 256) < bound ∧
        (i * coef % 256 ≠ 0 → u16 (i * coef / 256) + 1 < bound)) ↔
      LinearFits n coef bound := by
  unfold LinearFits at *
  by_cases hlast : 2 ^ 24 ≤ (n - 1) * coef
  · obtain ⟨hfits, hbound⟩ := hcut hlast
    refine ⟨fun _ => hfits, fun _ i _ => ?_⟩
    have hoffset : u16 (i * coef / 256) < 2 ^ 16 := Nat.mod_lt _ (by decide)
    omega
  · have huncut (i : ℕ) (hi : i < n) :
        i * coef ≤ (n - 1) * coef ∧ u16 (i * coef / 256) = i * coef / 256 := by
      have hle : i * coef ≤ (n - 1) * coef := Nat.mul_le_mul_right _ (by omega)
      exact ⟨hle, Nat.mod_eq_of_lt (by omega)⟩
    constructor
    · intro h
      obtain ⟨hoffset, hnext⟩ := h (n - 1) (by omega)
      rw [(huncut (n - 1) (by omega)).2] at hoffset hnext
      omega
    · intro h i hi
      obtain ⟨hle, heq⟩ := huncut i hi
      rw [heq]
      omega

/-- A full axis that is cut is scaled down. -/
theorem cut_axis (hdst : dst < 2 ^ 16) (h : 2 ^ 24 ≤ (dst - 1) * axisCoef src dst) :
    LinearFits dst (axisCoef src dst) src ∧ 2 ^ 16 < src := by
  have hall := dst_mul_axisCoef_le src dst
  have hcoef : 256 < axisCoef src dst := by
    by_contra hle
    have := Nat.mul_le_mul_left (dst - 1) (Nat.le_of_not_lt hle)
    omega
  have hstep : (dst - 1) * axisCoef src dst + axisCoef src dst = dst * axisCoef src dst := by
    have hpos : 0 < dst := by
      by_contra hzero
      obtain rfl : dst = 0 := by omega
      simp at h
    rw [← Nat.succ_mul, Nat.succ_eq_add_one, Nat.sub_add_cancel hpos]
  unfold LinearFits
  omega

theorem cut_halfAxis (hdst : dst < 2 ^ 16) (h : 2 ^ 24 ≤ (dst / 2 - 1) * axisCoef src dst) :
    LinearFits (dst / 2) (axisCoef src dst) (src / 2) ∧ 2 ^ 16 < src / 2 := by
  have hall := dst_mul_axisCoef_le src dst
  have hcoef : 512 < axisCoef src dst := by
    by_contra hle
    have := Nat.mul_le_mul_left (dst / 2 - 1) (Nat.le_of_not_lt hle)
    omega
  have hstep : 2 * ((dst / 2 - 1) * axisCoef src dst) + 2 * axisCoef src dst ≤
      dst * axisCoef src dst := by
    have hpos : 0 < dst / 2 := by
      by_contra hzero
      obtain h0 : dst / 2 = 0 := by omega
      simp [h0] at h
    calc 2 * ((dst / 2 - 1) * axisCoef src dst) + 2 * axisCoef src dst
        = 2 * (dst / 2 - 1 + 1) * axisCoef src dst := by ring
      _ ≤ dst * axisCoef src dst := Nat.mul_le_mul_right _ (by omega)
  unfold LinearFits
  omega

/-! What the tables hold. -/

theorem getD_flatMap_pair {f : ℕ → ℕ} {rest : List ℕ} (hi : i < 2 * n) :
    (((List.range n).flatMap fun k => [f k, f k]) ++ rest).getD i 0 = f (i / 2) := by
  have hpairs : ((List.range n).flatMap fun k => [f k, f k]) =
      (List.range (2 * n)).map fun c => f (c / 2) := by
    clear hi
    induction n with
    | zero => rfl
    | succ n ih =>
      rw [List.range_succ, List.flatMap_append, ih, show 2 * (n + 1) = 2 * n + 1 + 1 by ring,
        List.range_succ, List.range_succ]
      simp [show (2 * n + 1) / 2 = n by omega]
  rw [hpairs, List.getD, List.getElem?_append_left (by simpa using hi)]
  simp [hi]

theorem getD_map_range {f : ℕ → ℕ} (hi : i < n) : ((List.range n).map f).getD i 0 = f i := by
  simp [List.getD, hi]

theorem counts16_eq_some (h : counts16 n = some l') : n < 2 ^ 16 ∧ l' = List.range n := by
  unfold counts16 at h
  split_ifs at h with hn
  exact ⟨hn, (Option.some.inj h).symm⟩

/-- The tables of a finished `update_coefs`, without the cuts that change nothing. -/
structure TablesOf (sw sh dw dh : ℕ) (ctx : ResnCtx) : Prop where
  width : dw < 2 ^ 16
  height : dh < 2 ^ 16
  yCoefs : ∀ c < dw, ctx.yCoefs.getD c 0 = c * axisCoef sw dw % 256
  inputOffsets : ∀ c < dw, ctx.inputOffsets.getD c 0 = u16 (c * axisCoef sw dw / 256)
  uvCoefs : ∀ c < 2 * (dw / 2), ctx.uvCoefs.getD c 0 = c / 2 * axisCoef sw dw % 256
  verOffsets : ∀ r < dh, ctx.verOffsets.getD r 0 = u16 (r * axisCoef sh dh / 256)
  verCoefs : ∀ r < dh, ctx.verCoefs.getD r 0 = r * axisCoef sh dh % 256

theorem tablesOf_newTables {sw sh dw dh : ℕ} {ctx : ResnCtx} (h : newTables sw sh dw dh = some ctx) :
    TablesOf sw sh dw dh ctx := by
  simp only [newTables, Option.bind_eq_bind, Option.bind_eq_some_iff, Option.pure_def,
    Option.some.injEq] at h
  obtain ⟨cols, hcols, pairs, hpairs, rows, hrows, rfl⟩ := h
  obtain ⟨hdw, rfl⟩ := counts16_eq_some hcols
  obtain ⟨_, rfl⟩ := counts16_eq_some hpairs
  obtain ⟨hdh, rfl⟩ := counts16_eq_some hrows
  refine ⟨hdw, hdh, ?_, ?_, ?_, ?_, ?_⟩
  · intro c hc
    rw [getD_map_range hc, remOf_eq, u32_mul_axisCoef hc]
  · intro c hc
    rw [getD_map_range hc, indOf_eq, u32_mul_axisCoef hc]
  · intro c hc
    rw [getD_flatMap_pair hc, remOf_eq, u32_mul_axisCoef (by omega)]
  · intro r hr
    rw [getD_map_range hr, indOf_eq, u32_mul_axisCoef hr]
  · intro r hr
    rw [getD_map_range hr, remOf_eq, u32_mul_axisCoef hr]

/-! The cells of the two planes. -/

section Cells

variable {ctx : ResnCtx} {p : Resn} {sw sh dw dh : ℕ}

theorem forall_cells_iff {α : Type*} {h w : ℕ} {P : α → Prop} {cell : ℕ → ℕ → ℕ → α} {stride : ℕ} :
    (∀ s ∈ Raster.plane 8 w stride cell (List.range h), P s.2) ↔
      ∀ r < h, ∀ c < w, P (cell r (c / 8) (c % 8)) := by
  constructor
  · intro hall r hr c hc
    exact hall _ (Raster.mem_plane.mpr ⟨r, List.mem_range.mpr hr, c, hc, rfl⟩)
  · intro hall s hs
    obtain ⟨r, hr, c, hc, rfl⟩ := Raster.mem_plane.mp hs
    exact hall r (List.mem_range.mp hr) c hc

/-- A plane of cells that are made of their rows and columns. -/
theorem insidePlane_iff {h w stride : ℕ} {cell : ℕ → ℕ → ℕ → List Tap} {rt : ℕ → List (ℕ × ℕ)}
    {ct : ℕ → ℕ → List (ℕ × ℕ)} (hcell : ∀ r col j, cell r col j = taps (rt r) (ct col j))
    (hrt : ∀ r < h, ∃ x ∈ rt r, x.2 ≠ 0) (hct : ∀ c < w, ∃ x ∈ ct (c / 8) (c % 8), x.2 ≠ 0)
    (hh : 0 < h) (hw : 0 < w) :
    InsidePlane (Raster.plane 8 w stride cell (List.range h)) R C ↔
      (∀ r < h, TapsIn R (rt r)) ∧ ∀ c < w, TapsIn C (ct (c / 8) (c % 8)) := by
  have hcells : InsidePlane (Raster.plane 8 w stride cell (List.range h)) R C ↔
      ∀ r < h, ∀ c < w, TapsIn R (rt r) ∧ TapsIn C (ct (c / 8) (c % 8)) := by
    refine (forall_cells_iff (P := fun l : List Tap =>
      ∀ t ∈ l, t.weight ≠ 0 → t.row < R ∧ t.col < C)).trans (forall₄_congr fun r hr c hc => ?_)
    rw [hcell]
    exact taps_inside_iff (hrt r hr) (hct c hc)
  rw [hcells]
  constructor
  · intro hall
    exact ⟨fun r hr => (hall r hr 0 hw).1, fun c hc => (hall 0 hh c hc).2⟩
  · rintro ⟨hR, hC⟩ r hr c hc
    exact ⟨hR r hr, hC c hc⟩

theorem exists_linear (hc : coef < 256) : ∃ x ∈ linear step index coef, x.2 ≠ 0 :=
  ⟨_, List.mem_cons_self, by simp only; omega⟩

theorem rowTaps_weight (ht : TablesOf sw p.srcHeight dw p.dstHeight ctx) {r : ℕ}
    (hr : r < p.dstHeight) : ∃ x ∈ (workerImg ctx p 0).rowTaps r, x.2 ≠ 0 := by
  unfold NeonImgArgs.rowTaps
  split
  · exact ⟨_, List.mem_singleton_self _, Nat.one_ne_zero⟩
  · apply exists_linear
    rw [show (workerImg ctx p 0).verCoefs = ctx.verCoefs from rfl, ht.verCoefs r hr]
    exact Nat.mod_lt _ (by decide)

/-- The rows of a plane of `n` output rows. -/
theorem rowTaps_inside_iff (ht : TablesOf sw p.srcHeight dw p.dstHeight ctx) (hn : 0 < n)
    (hle : n ≤ p.dstHeight)
    (hcut : 2 ^ 24 ≤ (n - 1) * axisCoef p.srcHeight p.dstHeight →
      LinearFits n (axisCoef p.srcHeight p.dstHeight) R ∧ 2 ^ 16 < R) :
    (∀ r < n, TapsIn R ((workerImg ctx p 0).rowTaps r)) ↔
      RowsFit p.resMethod n (axisCoef p.srcHeight p.dstHeight) R := by
  unfold NeonImgArgs.rowTaps RowsFit
  rw [show (workerImg ctx p 0).resMethod = p.resMethod from rfl]
  cases p.resMethod with
  | bilinearVSkip =>
    have hrow (r : ℕ) (hr : r < n) : TapsIn R ((workerImg ctx p 0).skipRow r) ↔
        r * axisCoef p.srcHeight p.dstHeight < 256 * R := by
      unfold NeonImgArgs.skipRow
      rw [tapsIn_singleton, indOf_eq,
        show (workerImg ctx p 0).hCoef = axisCoef p.srcHeight p.dstHeight from rfl,
        u32_mul_axisCoef (by omega), Nat.div_lt_iff_lt_mul (by decide), Nat.mul_comm R]
    refine (forall₂_congr hrow).trans ⟨fun h => h (n - 1) (by omega), fun h r hr => ?_⟩
    exact Nat.lt_of_le_of_lt (Nat.mul_le_mul_right _ (by omega)) h
  | bilinear =>
    refine Iff.trans (forall₂_congr fun r hr => ?_) (linear_inside_iff hn hcut)
    unfold NeonImgArgs.bilinearRow
    rw [show (workerImg ctx p 0).verCoefs = ctx.verCoefs from rfl,
      show (workerImg ctx p 0).verOffsets = ctx.verOffsets from rfl,
      ht.verCoefs r (by omega), ht.verOffsets r (by omega)]
    exact tapsIn_linear (Nat.mod_lt _ (by decide))

theorem lumaCol_eq (ht : TablesOf p.srcWidth sh p.dstWidth dh ctx) {c : ℕ} (hc : c < p.dstWidth) :
    (workerImg ctx p 0).lumaCol (c / 8) (c % 8) =
      linear 1 (u16 (c * axisCoef p.srcWidth p.dstWidth / 256))
        (c * axisCoef p.srcWidth p.dstWidth % 256) := by
  unfold NeonImgArgs.lumaCol
  rw [Nat.div_add_mod' c 8, ← ht.yCoefs c hc, ← ht.inputOffsets c hc]
  rfl

theorem chromaCol_eq (ht : TablesOf p.srcWidth sh p.dstWidth dh ctx) (h8 : 8 ∣ p.dstWidth) {c : ℕ}
    (hc : c < p.dstWidth) :
    (workerImg ctx p 0).chromaCol (c / 8) (c % 8) =
      linear 2 (u16 (c / 2 * axisCoef p.srcWidth p.dstWidth / 256) * 2 + c % 2)
        (c / 2 * axisCoef p.srcWidth p.dstWidth % 256) := by
  unfold NeonImgArgs.chromaCol
  rw [Nat.div_add_mod' c 8, show c / 8 * 4 + c % 8 / 2 = c / 2 by omega,
    show c % 8 % 2 = c % 2 by omega, ← ht.uvCoefs c (by omega),
    ← ht.inputOffsets (c / 2) (by omega)]
  rfl

/-- A pair of chroma bytes lies inside when its second byte does. -/
theorem chroma_inside_iff (hw : 0 < p.dstWidth) (h8 : 8 ∣ p.dstWidth)
    (ht : TablesOf p.srcWidth sh p.dstWidth dh ctx) :
    (∀ c < p.dstWidth, TapsIn p.srcWidth ((workerImg ctx p 0).chromaCol (c / 8) (c % 8))) ↔
      LinearFits (p.dstWidth / 2) (axisCoef p.srcWidth p.dstWidth) (p.srcWidth / 2) := by
  rw [← linear_inside_iff (by omega) (cut_halfAxis ht.width)]
  have hcol (c : ℕ) (hc : c < p.dstWidth) :
      TapsIn p.srcWidth ((workerImg ctx p 0).chromaCol (c / 8) (c % 8)) ↔
        u16 (c / 2 * axisCoef p.srcWidth p.dstWidth / 256) * 2 + c % 2 < p.srcWidth ∧
          (c / 2 * axisCoef p.srcWidth p.dstWidth % 256 ≠ 0 →
            u16 (c / 2 * axisCoef p.srcWidth p.dstWidth / 256) * 2 + c % 2 + 2 < p.srcWidth) := by
    rw [chromaCol_eq ht h8 hc]
    exact tapsIn_linear (Nat.mod_lt _ (by decide))
  constructor
  · intro h k hk
    have hpair := (hcol (2 * k + 1) (by omega)).mp (h (2 * k + 1) (by omega))
    rw [show (2 * k + 1) / 2 = k by omega] at hpair
    omega
  · intro h c hc
    have hpair := h (c / 2) (by omega)
    rw [hcol c hc]
    omega

theorem luma_inside_iff (ht : TablesOf p.srcWidth p.srcHeight p.dstWidth p.dstHeight ctx)
    (hw : 0 < p.dstWidth) (h8 : 8 ∣ p.dstWidth) (hh : 0 < p.dstHeight)
    (hs : p.dstWidth ≤ p.dstStride) :
    InsidePlane (lumaStores ctx p) p.srcHeight p.srcWidth ↔
      RowsFit p.resMethod p.dstHeight (axisCoef p.srcHeight p.dstHeight) p.srcHeight ∧
        LinearFits p.dstWidth (axisCoef p.srcWidth p.dstWidth) p.srcWidth := by
  have hcols : (∀ c < p.dstWidth,
      TapsIn p.srcWidth ((workerImg ctx p 0).lumaCol (c / 8) (c % 8))) ↔
      LinearFits p.dstWidth (axisCoef p.srcWidth p.dstWidth) p.srcWidth := by
    refine Iff.trans (forall₂_congr fun c hc => ?_) (linear_inside_iff hw (cut_axis ht.width))
    rw [lumaCol_eq ht hc]
    exact tapsIn_linear (Nat.mod_lt _ (by decide))
  have hcell (r col j : ℕ) : (workerImg ctx p 0).lumaCell r col j =
      taps ((workerImg ctx p 0).rowTaps r) ((workerImg ctx p 0).lumaCol col j) := rfl
  rw [lumaStores_eq h8 hs, insidePlane_iff hcell (fun _ hr => rowTaps_weight ht hr) ?_
    hh hw, rowTaps_inside_iff ht hh le_rfl (cut_axis ht.height), hcols]
  intro c hc
  rw [lumaCol_eq ht hc]
  exact exists_linear (Nat.mod_lt _ (by decide))

/-- A picture of one line has no chroma, and nothing to look at. -/
theorem chromaPlane_inside_iff (ht : TablesOf p.srcWidth p.srcHeight p.dstWidth p.dstHeight ctx)
    (hw : 0 < p.dstWidth) (h8 : 8 ∣ p.dstWidth) (hs : p.dstWidth ≤ p.dstStride) :
    InsidePlane (chromaStores ctx p) (p.srcHeight / 2) p.srcWidth ↔
      (2 ≤ p.dstHeight →
        RowsFit p.resMethod (p.dstHeight / 2) (axisCoef p.srcHeight p.dstHeight) (p.srcHeight / 2) ∧
        LinearFits (p.dstWidth / 2) (axisCoef p.srcWidth p.dstWidth) (p.srcWidth / 2)) := by
  rw [chromaStores_eq h8 hs]
  by_cases hh : 2 ≤ p.dstHeight
  · have hrows : ∀ r < p.dstHeight / 2, ∃ x ∈ (workerImg ctx p 0).rowTaps r, x.2 ≠ 0 :=
      fun r hr => rowTaps_weight ht (by omega)
    have hcell (r col j : ℕ) : (workerImg ctx p 0).chromaCell r col j =
        taps ((workerImg ctx p 0).rowTaps r) ((workerImg ctx p 0).chromaCol col j) := rfl
    rw [insidePlane_iff hcell hrows ?_ (by omega) hw,
      rowTaps_inside_iff ht (by omega) (by omega) (cut_halfAxis ht.height),
      chroma_inside_iff hw h8 ht]
    · simp [hh]
    · intro c hc
      rw [chromaCol_eq ht h8 hc]
      exact exists_linear (Nat.mod_lt _ (by decide))
  · have hnone : p.dstHeight / 2 = 0 := by omega
    simp [hh, hnone, InsidePlane, Raster.plane]

end Cells

variable {z₀ z z' : NEONResizer} {pf : Platform} {src' dst' : StreamBuffer} {p : Resn} {out : Output}
  {calls : List NEONResizer.Call}

/-- After any earlier calls, for every drawing that the resizer accepts. -/
theorem looksInside_iff (hinit : z₀.ctx = {})
    (hrun : LTS.run (NEONResizer.step pf) z₀ calls = some z)
    (hp : z.fillProcessParams pf src' dst' = some p)
    (hdraw : z.draw pf src' dst' = some (.ok out, z')) : LooksInside p out ↔ EdgeFits p := by
  have hfresh := fresh_run hinit hrun
  obtain ⟨_, hr⟩ | ⟨hv, q, hq, result, hresult, hok, _⟩ := draw_cases hdraw
  · cases hr
  obtain rfl : p = q := Option.some.inj (hp.symm.trans hq)
  obtain ⟨hw, h8, hh⟩ := validateInParams_dst hv hp
  obtain ⟨_, e, rfl⟩ | ⟨_, hs, htables, rfl⟩ := resnProcess_cases hfresh hw.ne' hresult
  · cases hok
  obtain rfl := Except.ok.inj hok
  have ht := tablesOf_newTables htables
  unfold LooksInside
  rw [luma_inside_iff ht hw h8 hh hs, chromaPlane_inside_iff ht hw h8 hs]
  constructor
  · rintro ⟨⟨hrows, hcols⟩, hchroma⟩
    exact ⟨hcols, hrows, fun h => (hchroma h).2, fun h => (hchroma h).1⟩
  · intro h
    exact ⟨⟨h.lumaRows, h.lumaCols⟩, fun h2 => ⟨h.chromaRows h2, h.chromaCols h2⟩⟩

/-- Strides of 128 bytes and 32 lines, as NV12 buffers of the video hardware have them. -/
def aligned : Platform where
  yStride w := (w + 127) / 128 * 128
  yScanlines h := (h + 31) / 32 * 32
  preserveAspect src _ := { width := src.width, height := src.height }

/-- A mapped NV12 buffer. -/
def nv12 (width height stride scanline : UInt32) : StreamBuffer :=
  ⟨true, 2, ⟨stride, scanline, width, height⟩, stride * scanline * 3 / 2⟩

/-- Doubled, a picture is read at the column behind its last one. -/
theorem double_reads_outside :
    ∃ p out z', ({} : NEONResizer).fillProcessParams aligned (nv12 8 8 128 32) (nv12 16 16 16 16) =
        some p ∧
      ({} : NEONResizer).draw aligned (nv12 8 8 128 32) (nv12 16 16 16 16) = some (.ok out, z') ∧
      ¬ LooksInside p out :=
  ⟨_, _, _, rfl, rfl, by decide⟩

/-- After a picture was doubled, another one is drawn at two thirds of its size. -/
theorem looksInside_iff_two_thirds :
    ∃ z p out z', LTS.run (NEONResizer.step aligned) {} [.draw (nv12 8 8 128 32) (nv12 16 16 16 16)] =
        some z ∧
      z.fillProcessParams aligned (nv12 48 24 128 32) (nv12 32 16 32 16) = some p ∧
      z.draw aligned (nv12 48 24 128 32) (nv12 32 16 32 16) = some (.ok out, z') ∧
      (LooksInside p out ↔ EdgeFits p) := by
  obtain ⟨z, p, out, z', hrun, hp, hdraw⟩ : ∃ z p out z',
      LTS.run (NEONResizer.step aligned) {} [.draw (nv12 8 8 128 32) (nv12 16 16 16 16)] = some z ∧
      z.fillProcessParams aligned (nv12 48 24 128 32) (nv12 32 16 32 16) = some p ∧
      z.draw aligned (nv12 48 24 128 32) (nv12 32 16 32 16) = some (.ok out, z') :=
    ⟨_, _, _, _, rfl, rfl, rfl⟩
  exact ⟨z, p, out, z', hrun, hp, hdraw, looksInside_iff rfl hrun hp hdraw⟩

end QmmfSdk.Resizer
