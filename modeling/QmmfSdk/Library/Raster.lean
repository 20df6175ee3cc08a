import Mathlib.Data.List.Nodup
import Mathlib.Data.List.Range
import Mathlib.Tactic.Ring

/-! Passes over a plane that store groups of cells row by row through one running pointer. -/
namespace Library.Raster

universe u

variable {α : Type u} {lanes groups gap n row rows width stride : ℕ} {cell : ℕ → ℕ → ℕ → α}

/-- `n` groups of a row from group `col` on; the pointer ends behind the last of them. -/
def rowLoop (lanes : ℕ) (cell : ℕ → ℕ → α) : ℕ → ℕ → ℕ → List (ℕ × α) × ℕ
  | 0, _, dst => ([], dst)
  | n + 1, col, dst =>
    let group := (List.range lanes).map fun j => (dst + j, cell col j)
    let (rest, dst) := rowLoop lanes cell n (col + 1) (dst + lanes)
    (group ++ rest, dst)

/-- `n` rows from row `row` on; the pointer skips `gap` cells behind each of them. -/
def pass (lanes groups gap : ℕ) (cell : ℕ → ℕ → ℕ → α) : ℕ → ℕ → ℕ → List (ℕ × α)
  | 0, _, _ => []
  | n + 1, row, dst =>
    let (stores, dst) := rowLoop lanes (cell row) groups 0 dst
    stores ++ pass lanes groups gap cell n (row + 1) (dst + gap)

/-- The cells of the given rows, each at its own place in the plane. -/
def plane (lanes width stride : ℕ) (cell : ℕ → ℕ → ℕ → α) (rows : List ℕ) : List (ℕ × α) :=
  rows.flatMap fun r =>
    (List.range width).map fun c => (r * stride + c, cell r (c / lanes) (c % lanes))

/-- Each cell of the plane is stored exactly once, and nothing else is stored. -/
def Covers (positions : List ℕ) (rows width stride : ℕ) : Prop :=
  (∀ r < rows, ∀ c < width, positions.count (r * stride + c) = 1) ∧
    ∀ p ∈ positions, ∃ r < rows, ∃ c < width, p = r * stride + c

theorem rowLoop_eq {cell : ℕ → ℕ → α} {col dst : ℕ} (hl : 0 < lanes) :
    rowLoop lanes cell n col dst =
      ((List.range (n * lanes)).map fun c => (dst + c, cell (col + c / lanes) (c % lanes)),
        dst + n * lanes) := by
  induction n generalizing col dst with
  | zero => simp [rowLoop]
  | succ n ih =>
    have hcells : (List.range ((n + 1) * lanes)).map
        (fun c => (dst + c, cell (col + c / lanes) (c % lanes))) =
        (List.range lanes).map (fun j => (dst + j, cell col j)) ++
          (List.range (n * lanes)).map
            fun c => (dst + lanes + c, cell (col + 1 + c / lanes) (c % lanes)) := by
      rw [show (n + 1) * lanes = lanes + n * lanes by ring, List.range_add, List.map_append,
        List.map_map]
      congr 1
      · apply List.map_congr_left
        intro j hj
        have hj : j < lanes := List.mem_range.mp hj
        rw [Nat.div_eq_of_lt hj, Nat.mod_eq_of_lt hj, Nat.add_zero]
      · apply List.map_congr_left
        intro c _
        have hdiv : col + (lanes + c) / lanes = col + 1 + c / lanes := by
          rw [Nat.add_div_left c hl]
          omega
        simp [hdiv, Nat.add_assoc]
    simp only [rowLoop, ih, hcells]
    congr 1
    ring

/-- The running pointer stays at the places of its row. -/
theorem pass_eq_plane (hl : 0 < lanes) (hgap : groups * lanes + gap = stride) :
    pass lanes groups gap cell n row (row * stride) =
      plane lanes (groups * lanes) stride cell (List.range' row n) := by
  induction n generalizing row with
  | zero => rfl
  | succ n ih =>
    have hdst : row * stride + groups * lanes + gap = (row + 1) * stride := by
      rw [Nat.add_assoc, hgap]
      ring
    rw [List.range'_succ]
    simp only [pass, rowLoop_eq hl, hdst, ih, plane, List.flatMap_cons, Nat.zero_add]

theorem plane_flatMap {ι : Type*} {l : List ι} {f : ι → List ℕ} :
    plane lanes width stride cell (l.flatMap f) =
      l.flatMap fun i => plane lanes width stride cell (f i) :=
  List.flatMap_assoc

theorem plane_append {l l' : List ℕ} :
    plane lanes width stride cell (l ++ l') =
      plane lanes width stride cell l ++ plane lanes width stride cell l' :=
  List.flatMap_append

theorem mem_plane {rows : List ℕ} {s : ℕ × α} : s ∈ plane lanes width stride cell rows ↔
    ∃ r ∈ rows, ∃ c < width, (r * stride + c, cell r (c / lanes) (c % lanes)) = s := by
  simp [plane]

theorem nodup_positions (hs : width ≤ stride) :
    ((plane lanes width stride cell (List.range rows)).map Prod.fst).Nodup := by
  unfold plane
  rw [List.map_flatMap, List.nodup_flatMap]
  constructor
  · intro r _
    rw [List.map_map]
    exact List.nodup_range.map fun c c' h => Nat.add_left_cancel h
  · apply List.pairwise_lt_range.imp
    intro r r' hr p hp hp'
    simp only [List.map_map, List.mem_map, List.mem_range, Function.comp_apply] at hp hp'
    obtain ⟨c, hc, rfl⟩ := hp
    obtain ⟨c', hc', heq⟩ := hp'
    have hrow : (r + 1) * stride ≤ r' * stride := Nat.mul_le_mul_right stride hr
    rw [Nat.add_mul] at hrow
    omega

theorem covers_plane (hs : width ≤ stride) :
    Covers ((plane lanes width stride cell (List.range rows)).map Prod.fst) rows width stride := by
  constructor
  · intro r hr c hc
    apply List.count_eq_one_of_mem (nodup_positions hs)
    exact List.mem_map_of_mem (mem_plane.mpr ⟨r, List.mem_range.mpr hr, c, hc, rfl⟩)
  · intro p hp
    obtain ⟨s, hs, rfl⟩ := List.mem_map.mp hp
    obtain ⟨r, hr, c, hc, rfl⟩ := mem_plane.mp hs
    exact ⟨r, List.mem_range.mp hr, c, hc, rfl⟩

/-- Ranges of one length laid end to end. -/
theorem flatMap_range'_mul (m p : ℕ) :
    (List.range m).flatMap (fun i => List.range' (i * p) p) = List.range (m * p) := by
  induction m with
  | zero => simp
  | succ m ih =>
    rw [List.range_succ, List.flatMap_append, ih, Nat.succ_mul, List.range_add,
      List.flatMap_singleton, List.range'_eq_map_range]

/-- Ranges of one length and a last one with what is left. -/
theorem flatMap_range'_append {m p h : ℕ} (hle : m * p ≤ h) :
    (List.range m).flatMap (fun i => List.range' (i * p) p) ++ List.range' (m * p) (h - m * p) =
      List.range h := by
  have hh : h = m * p + (h - m * p) := by omega
  rw [flatMap_range'_mul]
  conv_rhs => rw [hh, List.range_add]
  rw [List.range'_eq_map_range]

end Library.Raster
