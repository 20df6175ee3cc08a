import QmmfSdk.Library.RoundUp
import QmmfSdk.Resizer.Neon

/-! The line ranges of the workers partition the lines of the picture, and their running pointers store
every sample once, at its own place. -/
namespace QmmfSdk.Resizer

open Library

variable {img : NeonImgArgs} {cell : ℕ → ℕ → ℕ → List Tap} {first last : ℕ}

theorem partLines_eq (h : ℕ) : partLines h = h / 8 * 2 := by
  unfold partLines numThreads
  omega

namespace NeonImgArgs

/-- The rows that a row of the output is made of. -/
def rowTaps (img : NeonImgArgs) (row : ℕ) : List (ℕ × ℕ) :=
  match img.resMethod with
  | .bilinearVSkip => img.skipRow row
  | .bilinear => img.bilinearRow row

def lumaCell (img : NeonImgArgs) (row col j : ℕ) : List Tap :=
  taps (img.rowTaps row) (img.lumaCol col j)

def chromaCell (img : NeonImgArgs) (row col j : ℕ) : List Tap :=
  taps (img.rowTaps row) (img.chromaCol col j)

/-- A worker that starts at the place of its first line stays at the places of its lines. -/
theorem process_eq_plane (h8 : 8 ∣ img.width) (hs : img.width ≤ img.stride) :
    img.process cell first last (first * img.stride) =
      Raster.plane 8 img.width img.stride cell (List.range' first (last - first)) := by
  have hgroups : img.width / 8 * 8 = img.width := Nat.div_mul_cancel h8
  have hgap : img.width / 8 * 8 + (img.stride - img.width) = img.stride := by omega
  unfold process
  rw [Raster.pass_eq_plane (by decide) hgap, hgroups]

theorem funcY_eq (h8 : 8 ∣ img.width) (hs : img.width ≤ img.stride) :
    img.funcY = Raster.plane 8 img.width img.stride img.lumaCell
      (List.range' img.lineStart (img.lineEnd - img.lineStart)) := by
  rw [← process_eq_plane h8 hs]
  unfold funcY lumaCell rowTaps
  cases img.resMethod <;> rfl

/-- An even first line has its half at its own place in the chroma plane. -/
theorem funcUV_eq (h8 : 8 ∣ img.width) (hs : img.width ≤ img.stride) (heven : 2 ∣ img.lineStart) :
    img.funcUV = Raster.plane 8 img.width img.stride img.chromaCell
      (List.range' (img.lineStart / 2) (img.lineEnd / 2 - img.lineStart / 2)) := by
  have hdst : img.lineStart * img.stride / 2 = img.lineStart / 2 * img.stride :=
    (Nat.div_mul_right_comm heven img.stride).symm
  rw [← process_eq_plane h8 hs, ← hdst]
  unfold funcUV chromaCell rowTaps
  cases img.resMethod <;> rfl

end NeonImgArgs

variable {ctx : ResnCtx} {resn : Resn}

/-- The workers in order, the last one with the patched range. -/
theorem flatMap_passImgs {β : Type*} (workers : ℕ) (f : NeonImgArgs → List β) :
    (passImgs ctx resn (workers + 1)).flatMap f =
      (List.range workers).flatMap (fun i => f (workerImg ctx resn i)) ++
        f { workerImg ctx resn workers with lineEnd := resn.dstHeight } := by
  have hmodify : passImgs ctx resn (workers + 1) =
      (List.range workers).map (workerImg ctx resn) ++
        [{ workerImg ctx resn workers with lineEnd := resn.dstHeight }] := by
    unfold passImgs
    rw [List.modify_eq_take_cons_drop (by simp)]
    simp [← List.map_take, ← List.map_drop, List.take_range]
  rw [hmodify, List.flatMap_append, List.flatMap_map]
  simp

/-- The luma pass stores each line of the picture once. -/
theorem lumaStores_eq (h8 : 8 ∣ resn.dstWidth) (hs : resn.dstWidth ≤ resn.dstStride) :
    lumaStores ctx resn = Raster.plane 8 resn.dstWidth resn.dstStride
      (workerImg ctx resn 0).lumaCell (List.range resn.dstHeight) := by
  have hle : 3 * partLines resn.dstHeight ≤ resn.dstHeight := by
    rw [partLines_eq]
    omega
  have hworker (i : ℕ) : (workerImg ctx resn i).funcY =
      Raster.plane 8 resn.dstWidth resn.dstStride (workerImg ctx resn 0).lumaCell
        (List.range' (i * partLines resn.dstHeight) (partLines resn.dstHeight)) := by
    rw [NeonImgArgs.funcY_eq h8 hs]
    simp only [workerImg, Nat.add_sub_cancel_left]
    rfl
  have hlast : { workerImg ctx resn 3 with lineEnd := resn.dstHeight }.funcY =
      Raster.plane 8 resn.dstWidth resn.dstStride (workerImg ctx resn 0).lumaCell
        (List.range' (3 * partLines resn.dstHeight) (resn.dstHeight - 3 * partLines resn.dstHeight)) :=
    NeonImgArgs.funcY_eq h8 hs
  unfold lumaStores
  rw [show numThreads / 2 = 3 + 1 from rfl, flatMap_passImgs, hlast]
  simp only [hworker]
  rw [← Raster.plane_flatMap, ← Raster.plane_append, Raster.flatMap_range'_append hle]

/-- The chroma pass stores half as many lines. -/
theorem chromaStores_eq (h8 : 8 ∣ resn.dstWidth) (hs : resn.dstWidth ≤ resn.dstStride) :
    chromaStores ctx resn = Raster.plane 8 resn.dstWidth resn.dstStride
      (workerImg ctx resn 0).chromaCell (List.range (resn.dstHeight / 2)) := by
  have hpart : partLines resn.dstHeight = resn.dstHeight / 8 * 2 := partLines_eq _
  have hle : 3 * (partLines resn.dstHeight / 2) ≤ resn.dstHeight / 2 := by omega
  have heven (i : ℕ) : 2 ∣ i * partLines resn.dstHeight :=
    Dvd.dvd.mul_left (by rw [hpart]; exact Nat.dvd_mul_left 2 _) i
  have hhalf (i : ℕ) : i * partLines resn.dstHeight / 2 = i * (partLines resn.dstHeight / 2) :=
    Nat.mul_div_assoc i (by rw [hpart]; exact Nat.dvd_mul_left 2 _)
  have hlen (i : ℕ) : (i * partLines resn.dstHeight + partLines resn.dstHeight) / 2 -
      i * partLines resn.dstHeight / 2 = partLines resn.dstHeight / 2 := by
    have := heven i
    omega
  have hworker (i : ℕ) : (workerImg ctx resn i).funcUV =
      Raster.plane 8 resn.dstWidth resn.dstStride (workerImg ctx resn 0).chromaCell
        (List.range' (i * (partLines resn.dstHeight / 2)) (partLines resn.dstHeight / 2)) := by
    rw [NeonImgArgs.funcUV_eq h8 hs (heven i)]
    simp only [workerImg, hlen]
    rw [hhalf]
    rfl
  have hlast : { workerImg ctx resn 3 with lineEnd := resn.dstHeight }.funcUV =
      Raster.plane 8 resn.dstWidth resn.dstStride (workerImg ctx resn 0).chromaCell
        (List.range' (3 * (partLines resn.dstHeight / 2))
          (resn.dstHeight / 2 - 3 * (partLines resn.dstHeight / 2))) := by
    rw [← hhalf]
    exact NeonImgArgs.funcUV_eq h8 hs (heven 3)
  unfold chromaStores
  rw [show numThreads - numThreads / 2 = 3 + 1 from rfl, flatMap_passImgs, hlast]
  simp only [hworker]
  rw [← Raster.plane_flatMap, ← Raster.plane_append, Raster.flatMap_range'_append hle]

/-- For every height, every width that is a multiple of eight and every stride, whatever the tables
and the method are. -/
theorem passes_cover (ctx : ResnCtx) (resn : Resn) (h8 : 8 ∣ resn.dstWidth)
    (hs : resn.dstWidth ≤ resn.dstStride) :
    Raster.Covers ((lumaStores ctx resn).map Prod.fst) resn.dstHeight resn.dstWidth
        resn.dstStride ∧
      Raster.Covers ((chromaStores ctx resn).map Prod.fst) (resn.dstHeight / 2) resn.dstWidth
        resn.dstStride := by
  rw [lumaStores_eq h8 hs, chromaStores_eq h8 hs]
  exact ⟨Raster.covers_plane hs, Raster.covers_plane hs⟩

theorem passes_cover_odd_height :
    Raster.Covers ((lumaStores {} ⟨8, 8, 8, 16, 13, 24, .bilinear⟩).map Prod.fst) 13 16 24 ∧
      Raster.Covers ((chromaStores {} ⟨8, 8, 8, 16, 13, 24, .bilinear⟩).map Prod.fst) 6 16 24 :=
  passes_cover {} ⟨8, 8, 8, 16, 13, 24, .bilinear⟩ (by decide) (by decide)

/-- In 32 bits the first line of a worker and its place come out the same, in every plane that has a
32-bit size. -/
theorem uint32_lineStart (h stride : UInt32) (i : ℕ) (hi : i < numThreads / 2)
    (hstride : 2 ≤ stride.toNat) (hfit : h.toNat * stride.toNat < 2 ^ 32) :
    let line := UInt32.ofNat i * (h * 2 / 8 &&& ~~~1)
    line.toNat = i * partLines h.toNat ∧ (line * stride).toNat = line.toNat * stride.toNat := by
  have hi : i < 4 := hi
  have hh : h.toNat * 2 ≤ h.toNat * stride.toNat := Nat.mul_le_mul_left _ hstride
  have hpart : (h * 2 / 8 &&& ~~~1).toNat = partLines h.toNat := by
    have heven : (h * 2 / 8 &&& ~~~(2 - 1)).toNat = (h * 2 / 8).toNat / 2 ^ 1 * 2 ^ 1 :=
      toNat_and_not_sub_one rfl
    rw [show (2 - 1 : UInt32) = 1 from rfl] at heven
    rw [heven, partLines_eq, UInt32.toNat_div, UInt32.toNat_mul]
    simp only [UInt32.reduceToNat]
    omega
  have hline : i * partLines h.toNat ≤ h.toNat := by
    have hmul : i * (h.toNat / 8 * 2) ≤ 3 * (h.toNat / 8 * 2) := Nat.mul_le_mul_right _ (by omega)
    rw [partLines_eq]
    omega
  have hstart : (UInt32.ofNat i * (h * 2 / 8 &&& ~~~1)).toNat = i * partLines h.toNat := by
    rw [UInt32.toNat_mul, hpart, UInt32.toNat_ofNat_of_lt' (show i < 2 ^ 32 by omega),
      Nat.mod_eq_of_lt (by omega)]
  refine ⟨hstart, ?_⟩
  have hplace := Nat.mul_le_mul_right stride.toNat hline
  rw [UInt32.toNat_mul, hstart, Nat.mod_eq_of_lt (by omega)]

end QmmfSdk.Resizer
