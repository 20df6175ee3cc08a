import QmmfSdk.Library.Transition
import QmmfSdk.Resizer.Neon

/-! `NEONResizer`: the pictures that `Draw` accepts, and the tables it finds after any earlier calls. -/
namespace QmmfSdk.Resizer

open Library

structure PlaneInfo where
  stride : UInt32
  scanline : UInt32
  width : UInt32
  height : UInt32
  deriving DecidableEq, Repr

/-- `data` tells that the buffer is mapped, `planeInfo` is that of its first plane. -/
structure StreamBuffer where
  data : Bool
  numPlanes : UInt32
  planeInfo : PlaneInfo
  size : UInt32
  deriving DecidableEq, Repr

structure ResizerCrop where
  x : UInt32 := 0
  y : UInt32 := 0
  width : UInt32 := 0
  height : UInt32 := 0
  valid : Bool := false
  deriving DecidableEq, Repr

def ResizerCrop.validateCropData (c : ResizerCrop) (b : StreamBuffer) : Bool :=
  c.valid && c.width > 0 && c.height > 0 && c.width ≤ b.planeInfo.width &&
    c.height ≤ b.planeInfo.height && c.x < b.planeInfo.width && c.y < b.planeInfo.height

/-- The strides and scan lines of the video hardware, and the crop that keeps the aspect ratio, which
is computed in floating point. -/
structure Platform where
  yStride : UInt32 → UInt32
  yScanlines : UInt32 → UInt32
  preserveAspect : PlaneInfo → PlaneInfo → ResizerCrop

structure NEONResizer where
  method : ResMethod := .bilinearVSkip
  crop : ResizerCrop := {}
  aspectRatioPreserve : Bool := false
  ctx : ResnCtx := {}
  deriving DecidableEq, Repr

namespace NEONResizer

def configure (z : NEONResizer) (c : ResizerCrop) : NEONResizer :=
  if c.valid then { z with crop := c } else z

def validateInParams (src dst : StreamBuffer) : Bool :=
  src.data && dst.data && src.numPlanes ≠ 0 && dst.numPlanes ≠ 0 &&
    src.planeInfo.width ≠ 0 && src.planeInfo.height ≠ 0 &&
    dst.planeInfo.width ≠ 0 && dst.planeInfo.height ≠ 0 && dst.planeInfo.width % 8 = 0

/-- The part of the source picture that is drawn. -/
def sourceRect (z : NEONResizer) (pf : Platform) (src dst : StreamBuffer) : ResizerCrop :=
  if z.crop.validateCropData src then z.crop
  else if z.aspectRatioPreserve then pf.preserveAspect src.planeInfo dst.planeInfo
  else { width := src.planeInfo.width, height := src.planeInfo.height }

/-- `none` stands for `RESIZER_STATUS_ERROR`. -/
def fillProcessParams (z : NEONResizer) (pf : Platform) (src dst : StreamBuffer) : Option Resn :=
  let rect := z.sourceRect pf src dst
  let stride := pf.yStride src.planeInfo.width
  let lumaLen := stride * pf.yScanlines src.planeInfo.height
  if lumaLen > src.size then none
  else if lumaLen < rect.y * stride + rect.x then none
  else if rect.y / 2 * stride + rect.x + lumaLen > src.size then none
  else if dst.planeInfo.stride * dst.planeInfo.scanline > dst.size then none
  else some {
    srcWidth := rect.width.toNat
    srcHeight := rect.height.toNat
    srcStride := stride.toNat
    dstWidth := dst.planeInfo.width.toNat
    dstHeight := dst.planeInfo.height.toNat
    dstStride := dst.planeInfo.stride.toNat
    resMethod := z.method }

/-- `none` when the call does not return: its assertion fails or the tables are never finished. An
`.error` is a call that returns `RESIZER_STATUS_ERROR`. -/
def draw (z : NEONResizer) (pf : Platform) (src dst : StreamBuffer) :
    Option (Except Unit Output × NEONResizer) :=
  if validateInParams src dst then do
    let params ← z.fillProcessParams pf src dst
    let (result, ctx) ← resnProcess z.ctx params
    return (result.mapError fun _ => (), { z with ctx })
  else some (.error (), z)

inductive Call where
  | configure (c : ResizerCrop)
  | draw (src dst : StreamBuffer)

def step (pf : Platform) (z : NEONResizer) : Call → Option NEONResizer
  | .configure c => some (z.configure c)
  | .draw src dst => (z.draw pf src dst).map Prod.snd

end NEONResizer

variable {ctx ctx' : ResnCtx} {z z' : NEONResizer} {pf : Platform} {src dst : StreamBuffer}
  {p : Resn} {calls : List NEONResizer.Call}

/-- The tables are those of the sizes next to them, or have not been made yet. -/
def ResnCtx.Fresh (ctx : ResnCtx) : Prop :=
  ctx = {} ∨ newTables ctx.srcWidth ctx.srcHeight ctx.dstWidth ctx.dstHeight = some ctx

theorem newTables_sizes {sw sh dw dh : ℕ} (h : newTables sw sh dw dh = some ctx) :
    ctx.srcWidth = sw ∧ ctx.srcHeight = sh ∧ ctx.dstWidth = dw ∧ ctx.dstHeight = dh := by
  simp only [newTables, Option.bind_eq_bind, Option.bind_eq_some_iff, Option.pure_def,
    Option.some.injEq] at h
  obtain ⟨_, _, _, _, _, _, rfl⟩ := h
  exact ⟨rfl, rfl, rfl, rfl⟩

/-- Tables that are fresh are found or made anew alike, for a destination that has a width. -/
theorem ResnCtx.Fresh.updateCoefs_eq (h : ctx.Fresh) {sw sh dw dh : ℕ} (hdw : dw ≠ 0) :
    ctx.updateCoefs sw sh dw dh = newTables sw sh dw dh := by
  unfold updateCoefs
  split
  next => rfl
  next hsame =>
    simp only [ne_eq, not_or, not_not] at hsame
    obtain ⟨rfl, rfl, rfl, rfl⟩ := hsame
    obtain rfl | hnew := h
    · exact absurd rfl hdw
    · exact hnew.symm

theorem fresh_of_newTables {sw sh dw dh : ℕ} (h : newTables sw sh dw dh = some ctx) :
    ctx.Fresh := by
  obtain ⟨rfl, rfl, rfl, rfl⟩ := newTables_sizes h
  exact Or.inr h

/-- The sizes of the destination go to the core as they are. -/
theorem fillProcessParams_dst (hp : z.fillProcessParams pf src dst = some p) :
    p.dstWidth = dst.planeInfo.width.toNat ∧ p.dstHeight = dst.planeInfo.height.toNat := by
  simp only [NEONResizer.fillProcessParams] at hp
  split_ifs at hp
  obtain rfl := Option.some.inj hp
  exact ⟨rfl, rfl⟩

/-- What the validation says about the sizes of the destination. -/
theorem validateInParams_dst (hv : NEONResizer.validateInParams src dst = true)
    (hp : z.fillProcessParams pf src dst = some p) :
    0 < p.dstWidth ∧ 8 ∣ p.dstWidth ∧ 0 < p.dstHeight := by
  simp only [NEONResizer.validateInParams, Bool.and_eq_true, decide_eq_true_eq, ne_eq,
    ← UInt32.toNat_inj, UInt32.toNat_mod] at hv
  obtain ⟨⟨⟨_, hw⟩, hh⟩, h8⟩ := hv
  obtain ⟨hwidth, hheight⟩ := fillProcessParams_dst hp
  rw [hwidth, hheight]
  exact ⟨Nat.pos_of_ne_zero hw, Nat.dvd_of_mod_eq_zero h8, Nat.pos_of_ne_zero hh⟩

/-- The core either refuses the sizes, or works with the tables of these sizes. -/
theorem resnProcess_cases (h : ctx.Fresh) (hw : p.dstWidth ≠ 0) {r : Except ResnStatus Output}
    (hr : resnProcess ctx p = some (r, ctx')) :
    (ctx' = ctx ∧ ∃ e, r = .error e) ∨
    (p.srcWidth ≤ p.srcStride ∧ p.dstWidth ≤ p.dstStride ∧
      newTables p.srcWidth p.srcHeight p.dstWidth p.dstHeight = some ctx' ∧
      r = .ok ⟨lumaStores ctx' p, chromaStores ctx' p⟩) := by
  unfold resnProcess at hr
  split_ifs at hr with hin hout
  · obtain ⟨rfl, rfl⟩ := Prod.mk.inj (Option.some.inj hr)
    exact Or.inl ⟨rfl, _, rfl⟩
  · obtain ⟨rfl, rfl⟩ := Prod.mk.inj (Option.some.inj hr)
    exact Or.inl ⟨rfl, _, rfl⟩
  · rw [h.updateCoefs_eq hw] at hr
    obtain ⟨tables, htables, hr⟩ := Option.bind_eq_some_iff.mp hr
    obtain ⟨rfl, rfl⟩ := Prod.mk.inj (Option.some.inj hr)
    exact Or.inr ⟨by omega, by omega, htables, rfl⟩

/-- What a `Draw` that returns has done. -/
theorem draw_cases {r : Except Unit Output} (h : z.draw pf src dst = some (r, z')) :
    (z' = z ∧ r = .error ()) ∨
    (NEONResizer.validateInParams src dst = true ∧
      ∃ p, z.fillProcessParams pf src dst = some p ∧
      ∃ result, resnProcess z.ctx p = some (result, z'.ctx) ∧
        r = result.mapError (fun _ => ()) ∧ z' = { z with ctx := z'.ctx }) := by
  unfold NEONResizer.draw at h
  split_ifs at h with hv
  · obtain ⟨p, hp, h⟩ := Option.bind_eq_some_iff.mp h
    obtain ⟨⟨result, ctx⟩, hresult, h⟩ := Option.bind_eq_some_iff.mp h
    obtain ⟨rfl, rfl⟩ := Prod.mk.inj (Option.some.inj h)
    exact Or.inr ⟨hv, p, hp, result, hresult, rfl, rfl⟩
  · obtain ⟨rfl, rfl⟩ := Prod.mk.inj (Option.some.inj h)
    exact Or.inl ⟨rfl, rfl⟩

theorem fresh_draw {r : Except Unit Output} (hz : z.ctx.Fresh)
    (h : z.draw pf src dst = some (r, z')) : z'.ctx.Fresh := by
  obtain ⟨rfl, _⟩ | ⟨hv, p, hp, result, hresult, _⟩ := draw_cases h
  · exact hz
  · obtain ⟨hctx, _⟩ | ⟨_, _, htables, _⟩ :=
      resnProcess_cases hz (validateInParams_dst hv hp).1.ne' hresult
    · rw [hctx]
      exact hz
    · exact fresh_of_newTables htables

theorem fresh_step {c : NEONResizer.Call} (hz : z.ctx.Fresh) (h : z.step pf c = some z') :
    z'.ctx.Fresh := by
  cases c with
  | configure c =>
    obtain rfl := Option.some.inj h
    unfold NEONResizer.configure
    split
    · exact hz
    · exact hz
  | draw src dst =>
    obtain ⟨⟨r, t⟩, hdraw, rfl⟩ := Option.map_eq_some_iff.mp h
    exact fresh_draw hz hdraw

/-- After any calls the tables are those of the sizes next to them. -/
theorem fresh_run (hz : z.ctx = {}) (h : LTS.run (NEONResizer.step pf) z calls = some z') :
    z'.ctx.Fresh :=
  LTS.inv_of_mTr (L := LTS.ofStep (NEONResizer.step pf)) (P := fun z => z.ctx.Fresh)
    (fun _ _ _ hstep hs => fresh_step hs hstep) (LTS.mTr_ofStep_iff.mpr h) (Or.inl hz)

end QmmfSdk.Resizer
