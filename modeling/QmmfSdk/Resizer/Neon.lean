import Mathlib.Logic.Function.Iterate
import QmmfSdk.Library.Raster

/-! The NEON resizer: its coefficient tables, the images that `resn_process` hands to the worker
threads, and what each worker stores where. Sizes and pointers are natural numbers; the 32-bit and
16-bit values that can wrap are cut explicitly. -/
namespace QmmfSdk.Resizer

open Library

def u32 (n : ℕ) : ℕ := n % 2 ^ 32

def u16 (n : ℕ) : ℕ := n % 2 ^ 16

/-- The fraction of a fixed-point index with eight binary places. -/
def remOf (ind : ℕ) : ℕ := ind - (ind >>> 8) <<< 8

def indOf (ind : ℕ) : ℕ := (ind - remOf ind) >>> 8

@[simp] theorem remOf_eq (ind : ℕ) : remOf ind = ind % 256 := by
  unfold remOf
  rw [Nat.shiftRight_eq_div_pow, Nat.shiftLeft_eq]
  omega

@[simp] theorem indOf_eq (ind : ℕ) : indOf ind = ind / 256 := by
  unfold indOf
  rw [remOf_eq, Nat.shiftRight_eq_div_pow]
  omega

/-- The values of a `uint16_t` counter that runs up to `bound`, `none` when it never gets there. -/
def counts16 (bound : ℕ) : Option (List ℕ) :=
  if bound < 2 ^ 16 then some (List.range bound) else none

inductive ResMethod where
  | bilinearVSkip
  | bilinear
  deriving DecidableEq, Repr

inductive ResnStatus where
  | wrongWidthOutbuf
  | wrongWidthInbuf
  deriving DecidableEq, Repr

structure Resn where
  srcWidth : ℕ
  srcHeight : ℕ
  srcStride : ℕ
  dstWidth : ℕ
  dstHeight : ℕ
  dstStride : ℕ
  resMethod : ResMethod
  deriving DecidableEq, Repr

/-- The sizes that the tables were made for, and the tables. -/
structure ResnCtx where
  srcWidth : ℕ := 0
  srcHeight : ℕ := 0
  dstWidth : ℕ := 0
  dstHeight : ℕ := 0
  yCoefs : List ℕ := []
  uvCoefs : List ℕ := []
  inputOffsets : List ℕ := []
  verOffsets : List ℕ := []
  verCoefs : List ℕ := []
  deriving DecidableEq, Repr

/-- Source samples for each destination sample, times 256. -/
def axisCoef (src dst : ℕ) : ℕ := u32 (src * 256) / dst

/-- The tables of the given sizes; `none` when one of the loops does not end. -/
def newTables (srcWidth srcHeight dstWidth dstHeight : ℕ) : Option ResnCtx := do
  let wCoef := axisCoef srcWidth dstWidth
  let hCoef := axisCoef srcHeight dstHeight
  let cols ← counts16 dstWidth
  let pairs ← counts16 (dstWidth / 2)
  let rows ← counts16 dstHeight
  return {
    srcWidth, srcHeight, dstWidth, dstHeight
    yCoefs := cols.map fun col => remOf (u32 (col * wCoef))
    inputOffsets := cols.map fun col => u16 (indOf (u32 (col * wCoef)))
    uvCoefs := (pairs.flatMap fun col =>
      [remOf (u32 (col * wCoef)), remOf (u32 (col * wCoef))]) ++ List.replicate (dstWidth % 2) 0
    verOffsets := rows.map fun row => u16 (indOf (u32 (row * hCoef)))
    verCoefs := rows.map fun row => remOf (u32 (row * hCoef)) }

/-- New tables are made for new sizes only. -/
def ResnCtx.updateCoefs (ctx : ResnCtx) (srcWidth srcHeight dstWidth dstHeight : ℕ) :
    Option ResnCtx :=
  if srcWidth ≠ ctx.srcWidth ∨ srcHeight ≠ ctx.srcHeight ∨ dstWidth ≠ ctx.dstWidth ∨
      dstHeight ≠ ctx.dstHeight then
    newTables srcWidth srcHeight dstWidth dstHeight
  else some ctx

/-- A source sample that enters an output sample. -/
structure Tap where
  row : ℕ
  col : ℕ
  weight : ℕ
  deriving DecidableEq, Repr

/-- An output sample: its place in the destination plane and what it is made of. -/
abbrev Store := ℕ × List Tap

structure NeonImgArgs where
  width : ℕ
  stride : ℕ
  srcStride : ℕ
  lineStart : ℕ
  lineEnd : ℕ
  hCoef : ℕ
  yCoefs : List ℕ
  uvCoefs : List ℕ
  inputOffsets : List ℕ
  verOffsets : List ℕ
  verCoefs : List ℕ
  resMethod : ResMethod

/-- The index and the neighbour `step` further on, each with its weight. -/
def linear (step index coef : ℕ) : List (ℕ × ℕ) := [(index, 256 - coef), (index + step, coef)]

/-- Samples interpolated in the rows first and then between them. -/
def taps (rows cols : List (ℕ × ℕ)) : List Tap :=
  rows.flatMap fun r => cols.map fun c => ⟨r.1, c.1, r.2 * c.2⟩

namespace NeonImgArgs

/-- The one row that the methods with vertical skip look at. -/
def skipRow (img : NeonImgArgs) (row : ℕ) : List (ℕ × ℕ) := [(indOf (u32 (row * img.hCoef)), 1)]

def bilinearRow (img : NeonImgArgs) (row : ℕ) : List (ℕ × ℕ) :=
  linear 1 (img.verOffsets.getD row 0) (img.verCoefs.getD row 0)

/-- Lane `j` of the group `col` of a luma row. -/
def lumaCol (img : NeonImgArgs) (col j : ℕ) : List (ℕ × ℕ) :=
  linear 1 (img.inputOffsets.getD (col * 8 + j) 0) (img.yCoefs.getD (col * 8 + j) 0)

/-- Lane `j` of the group `col` of a chroma row: the two bytes of a pair lie side by side. -/
def chromaCol (img : NeonImgArgs) (col j : ℕ) : List (ℕ × ℕ) :=
  linear 2 (img.inputOffsets.getD (col * 4 + j / 2) 0 * 2 + j % 2) (img.uvCoefs.getD (col * 8 + j) 0)

/-- Eight samples at a time, `stride - width` cells skipped behind each row. -/
def process (img : NeonImgArgs) (cell : ℕ → ℕ → ℕ → List Tap) (first last dst : ℕ) : List Store :=
  Raster.pass 8 (img.width / 8) (img.stride - img.width) cell (last - first) first dst

def lumaProcessBilinearVSkip (img : NeonImgArgs) : List Store :=
  img.process (fun row col j => taps (img.skipRow row) (img.lumaCol col j))
    img.lineStart img.lineEnd (img.lineStart * img.stride)

def lumaProcessBilinear (img : NeonImgArgs) : List Store :=
  img.process (fun row col j => taps (img.bilinearRow row) (img.lumaCol col j))
    img.lineStart img.lineEnd (img.lineStart * img.stride)

def chromaProcessBilinearVSkip (img : NeonImgArgs) : List Store :=
  img.process (fun row col j => taps (img.skipRow row) (img.chromaCol col j))
    (img.lineStart / 2) (img.lineEnd / 2) (img.lineStart * img.stride / 2)

def chromaProcessBilinear (img : NeonImgArgs) : List Store :=
  img.process (fun row col j => taps (img.bilinearRow row) (img.chromaCol col j))
    (img.lineStart / 2) (img.lineEnd / 2) (img.lineStart * img.stride / 2)

/-- The function that `func_y_` has for the method. -/
def funcY (img : NeonImgArgs) : List Store :=
  match img.resMethod with
  | .bilinearVSkip => img.lumaProcessBilinearVSkip
  | .bilinear => img.lumaProcessBilinear

/-- The function that `func_uv_` has for the method. -/
def funcUV (img : NeonImgArgs) : List Store :=
  match img.resMethod with
  | .bilinearVSkip => img.chromaProcessBilinearVSkip
  | .bilinear => img.chromaProcessBilinear

end NeonImgArgs

def numThreads : ℕ := 8

/-- The lines of one worker, an even number. -/
def partLines (dstHeight : ℕ) : ℕ := dstHeight * 2 / numThreads / 2 * 2

def workerImg (ctx : ResnCtx) (resn : Resn) (i : ℕ) : NeonImgArgs where
  width := resn.dstWidth
  stride := resn.dstStride
  srcStride := resn.srcStride
  lineStart := i * partLines resn.dstHeight
  lineEnd := i * partLines resn.dstHeight + partLines resn.dstHeight
  hCoef := axisCoef resn.srcHeight resn.dstHeight
  yCoefs := ctx.yCoefs
  uvCoefs := ctx.uvCoefs
  inputOffsets := ctx.inputOffsets
  verOffsets := ctx.verOffsets
  verCoefs := ctx.verCoefs
  resMethod := resn.resMethod

/-- The images of the workers of one pass; the last one takes the lines that are left. -/
def passImgs (ctx : ResnCtx) (resn : Resn) (workers : ℕ) : List NeonImgArgs :=
  ((List.range workers).map (workerImg ctx resn)).modify (workers - 1)
    fun img => { img with lineEnd := resn.dstHeight }

def lumaStores (ctx : ResnCtx) (resn : Resn) : List Store :=
  (passImgs ctx resn (numThreads / 2)).flatMap NeonImgArgs.funcY

def chromaStores (ctx : ResnCtx) (resn : Resn) : List Store :=
  (passImgs ctx resn (numThreads - numThreads / 2)).flatMap NeonImgArgs.funcUV

/-- What the two passes store. -/
structure Output where
  luma : List Store
  chroma : List Store
  deriving DecidableEq, Repr

/-- `none` when the tables are never finished. -/
def resnProcess (ctx : ResnCtx) (resn : Resn) : Option (Except ResnStatus Output × ResnCtx) :=
  if resn.srcWidth > resn.srcStride then some (.error .wrongWidthInbuf, ctx)
  else if resn.dstWidth > resn.dstStride then some (.error .wrongWidthOutbuf, ctx)
  else do
    let ctx ← ctx.updateCoefs resn.srcWidth resn.srcHeight resn.dstWidth resn.dstHeight
    return (.ok ⟨lumaStores ctx resn, chromaStores ctx resn⟩, ctx)

end QmmfSdk.Resizer
