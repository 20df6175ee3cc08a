import QmmfSdk.Exif.Decode
import Mathlib.Logic.Function.Conjugate

/-! The writers neither read the flags that a call may find raised nor lower them. -/
namespace QmmfSdk.Exif

open Library Library.Tiff

/-- A writer that neither reads the flags nor lowers them: `carry` raises them beforehand. -/
def Carries {ι S : Type} (carry : ι → S → S) (f : S → S) : Prop := ∀ b, Function.Commute f (carry b)

section Carries

variable {ι S α : Type} {carry : ι → S → S} {f g : S → S}

theorem Carries.comp (hf : Carries carry f) (hg : Carries carry g) : Carries carry fun s => g (f s) :=
  fun b => (hg b).comp_left (hf b)

/-- A writer that reads of the state what no flag changes. -/
theorem Carries.dep {f : α → S → S} {p : S → α} (hf : ∀ k, Carries carry (f k))
    (hp : ∀ b s, p (carry b s) = p s) : Carries carry fun s => f (p s) s := by
  intro b s
  show f (p (carry b s)) (carry b s) = _
  rw [hp]
  exact hf (p s) b s

end Carries

namespace Out

variable {o : Out} {last : Nat} {bs : List UInt8}

/-- An overflow of an earlier call is in the flag from the start. -/
def carry (b : Bool) (o : Out) : Out := { o with overflow := b || o.overflow }

theorem carries_put : Carries carry fun o => o.put last bs := by
  intro b o
  by_cases hroom : kMaxExifApp1Length ≤ (o.offset + last) % 2 ^ 32
  · show put (carry b o) last bs = carry b (put o last bs)
    rw [put, put, if_pos hroom, if_pos (show kMaxExifApp1Length ≤ ((carry b o).offset + last) % _
      from hroom)]
    simp only [carry, Bool.or_true]
  · show put (carry b o) last bs = carry b (put o last bs)
    rw [put, put, if_neg hroom, if_neg (show ¬ kMaxExifApp1Length ≤ ((carry b o).offset + last) % _
      from hroom)]
    rfl

theorem carries_writeByte (v : UInt8) : Carries carry (writeByte v) := carries_put

theorem carries_writeShort (v : UInt16) : Carries carry (writeShort v) := carries_put

theorem carries_writeLong (v : UInt32) : Carries carry (writeLong v) := carries_put

theorem carries_writeAll {α : Type} {write : α → Out → Out} {xs : List α}
    (h : ∀ x, Carries carry (write x)) : Carries carry fun o => o.writeAll write xs := by
  induction xs with
  | nil => exact fun _ _ => rfl
  | cons x xs ih => exact (h x).comp ih

theorem carries_writeTagValue {v : Value} : Carries carry fun o => o.writeTagValue v := by
  cases v with
  | ascii s => exact carries_put
  | undefined s => exact carries_put
  | byte v vs => exact carries_writeAll carries_writeByte
  | short v vs => exact carries_writeAll carries_writeShort
  | long v vs => exact carries_writeAll carries_writeLong
  | slong v vs => exact carries_writeAll fun n => carries_writeLong n.toUInt32
  | rational v vs =>
    exact carries_writeAll fun r => (carries_writeLong r.num).comp (carries_writeLong r.denom)
  | srational v vs =>
    exact carries_writeAll fun r =>
      (carries_writeLong r.num.toUInt32).comp (carries_writeLong r.denom.toUInt32)

end Out

namespace IfdWriter

variable {w : IfdWriter} {t : Tag} {ts : List Tag} {tiff dest i : Nat}

def carry (b : Bool) (w : IfdWriter) : IfdWriter :=
  { w with overflowFlag := b || w.overflowFlag }

/-- A flag that is down at the end was down before. -/
theorem quiet_of_carries {f : IfdWriter → IfdWriter} (hf : Carries carry f)
    (h : (f w).overflowFlag = false) : w.overflowFlag = false := by
  cases hw : w.overflowFlag with
  | false => rfl
  | true =>
    have hup : w.carry true = w := by rw [carry, Bool.true_or, ← hw]
    have hcomm := hf true w
    rw [hup] at hcomm
    rw [hcomm] at h
    cases h

theorem carries_beginIfd : Carries carry beginIfd := fun _ _ => rfl

theorem carries_onExif {f : Out → Out} (hf : Carries Out.carry f) : Carries carry fun w => w.onExif f := by
  intro b w
  have h := hf b ⟨w.exifBuffer, w.currentOffset, w.overflowFlag⟩
  simp only [Out.carry] at h
  simp only [onExif, carry, h]

theorem carries_onHelper {f : Out → Out} (hf : Carries Out.carry f) : Carries carry fun w => w.onHelper f := by
  intro b w
  have h := hf b ⟨w.helperBuffer, w.helperBufferOffset, w.overflowFlag⟩
  simp only [Out.carry] at h
  simp only [onHelper, carry, h]

theorem carries_writeExifTag : Carries carry fun w => w.writeExifTag t := by
  have hentry : Carries carry fun w => w.onExif fun o => ((o.writeShort t.id.toUInt16).writeShort
      t.value.type.code).writeLong (.ofNat t.value.count) :=
    carries_onExif (((Out.carries_writeShort _).comp (Out.carries_writeShort _)).comp
      (Out.carries_writeLong _))
  have hcount : Carries carry fun w => { w with tagCount := w.tagCount + 1 } := fun _ _ => rfl
  by_cases hin : typeSize t.value.type.code * t.value.count ≤ 4
  · simp only [writeExifTag, if_pos hin]
    have hvalue (n : Nat) : Carries carry fun w => w.onExif fun o =>
        (o.writeTagValue t.value).writeAll Out.writeByte (List.replicate n 0) :=
      carries_onExif (Out.carries_writeTagValue.comp (Out.carries_writeAll Out.carries_writeByte))
    exact (hentry.comp (hvalue _)).comp hcount
  · simp only [writeExifTag, if_neg hin]
    have hvalue : Carries carry fun w => w.onHelper (Out.writeTagValue t.value) :=
      carries_onHelper Out.carries_writeTagValue
    have halign : Carries carry fun w => { w with helperBufferOffset := evenUp w.helperBufferOffset } :=
      fun _ _ => rfl
    have hoffset : Carries carry fun w => w.onExif (Out.writeLong (.ofNat w.helperBufferOffset)) :=
      Carries.dep (f := fun k (w : IfdWriter) => w.onExif (Out.writeLong (.ofNat k)))
        (fun _ => carries_onExif (Out.carries_writeLong _)) fun _ _ => rfl
    exact (((hentry.comp halign).comp hoffset).comp hvalue).comp hcount

theorem carries_writeTags (ts : List Tag) : Carries carry fun w => w.writeTags ts := by
  induction ts with
  | nil => exact fun _ _ => rfl
  | cons t ts ih => exact carries_writeExifTag.comp ih

theorem carries_relocate : Carries carry fun w => relocate tiff dest w i := by
  intro b w
  show relocate tiff dest (carry b w) i = carry b (relocate tiff dest w i)
  have h := Out.carries_writeLong (loadU32 w.exifBuffer
    (w.tagCountOffset + i * kTagSize + tagDataOffset) + .ofNat dest - .ofNat tiff) b
    ⟨w.exifBuffer, w.tagCountOffset + i * kTagSize + tagDataOffset, w.overflowFlag⟩
  simp only [Out.carry] at h
  unfold relocate
  dsimp only [carry]
  split
  · rfl
  · split
    · simp only [h]
    · rfl

theorem carries_closeTable : Carries carry closeTable := by
  have hzero : Carries carry fun w => w.onExif (Out.writeLong 0) :=
    carries_onExif (Out.carries_writeLong 0)
  have hcount : Carries carry fun w =>
      let o := Out.writeShort (.ofNat w.tagCount) ⟨w.exifBuffer, w.tagCountOffset, w.overflowFlag⟩
      { w with exifBuffer := o.buffer, tagCountOffset := o.offset, overflowFlag := o.overflow } := by
    intro b w
    have h := Out.carries_writeShort (.ofNat w.tagCount) b
      ⟨w.exifBuffer, w.tagCountOffset, w.overflowFlag⟩
    simp only [Out.carry] at h
    simp only [carry, h]
  exact hzero.comp hcount

theorem carries_relocateAll {is : List Nat} :
    Carries carry fun w => is.foldl (relocate tiff dest) w := by
  induction is with
  | nil => exact fun _ _ => rfl
  | cons i is ih => exact carries_relocate.comp ih

theorem carries_endWritingIfd (tiff : Nat) : Carries carry (endWritingIfd tiff) := by
  have hcopy (n dest : Nat) : Carries carry fun w =>
      ((List.range n).foldl (relocate tiff dest) w).copyHelper dest :=
    carries_relocateAll.comp fun _ _ => rfl
  have hrest : Carries carry fun w =>
      let dest := w.tagCountOffset + w.tagCount * kTagSize + 4
      ((List.range w.tagCount).foldl (relocate tiff dest) w).copyHelper dest :=
    Carries.dep (f := fun k w => ((List.range k.1).foldl (relocate tiff k.2) w).copyHelper k.2)
      (p := fun w => (w.tagCount, w.tagCountOffset + w.tagCount * kTagSize + 4))
      (fun k => hcopy k.1 k.2) fun _ _ => rfl
  exact carries_closeTable.comp hrest

theorem carries_padToEven : Carries carry padToEven := by
  intro b w
  unfold padToEven
  by_cases hodd : w.currentOffset % 2 = 1
  · rw [if_pos hodd, if_pos (show (w.carry b).currentOffset % 2 = 1 from hodd)]
    exact carries_onExif (Out.carries_writeByte 0) b w
  · rw [if_neg hodd, if_neg (show ¬ (w.carry b).currentOffset % 2 = 1 from hodd)]

theorem carries_firstTags (ts : List Tag) : Carries carry fun w => w.beginIfd.writeTags ts := by
  have h := carries_beginIfd.comp (carries_writeTags ts)
  exact h

/-- A whole IFD. -/
theorem carries_ifd (ts : List Tag) (tiff : Nat) :
    Carries carry fun w => (w.beginIfd.writeTags ts).endWritingIfd tiff := by
  have h := (carries_firstTags ts).comp (carries_endWritingIfd tiff)
  exact h

end IfdWriter

namespace ExifGenerator

variable {g : ExifGenerator} {pic : Picture} {buffer helper : Nat → UInt8}

/-- The overflow flag and `app1_present_` of an earlier call. -/
def carry (flags : Bool × Bool) (g : ExifGenerator) : ExifGenerator :=
  { g with overflowFlag := flags.1 || g.overflowFlag, app1Present := flags.2 || g.app1Present }

/-- A flag that is down at the end was down before. -/
theorem quiet_of_carries {f : ExifGenerator → ExifGenerator} (hf : Carries carry f)
    (h : (f g).overflowFlag = false) : g.overflowFlag = false := by
  cases hg : g.overflowFlag with
  | false => rfl
  | true =>
    have hup : carry (true, false) g = g := by rw [carry, Bool.true_or, Bool.false_or, ← hg]
    have hcomm := hf (true, false) g
    rw [hup] at hcomm
    rw [hcomm] at h
    cases h

theorem carries_onIfd {f : IfdWriter → IfdWriter} (hf : Carries IfdWriter.carry f) :
    Carries carry fun g => onIfd g f := by
  intro b g
  have h := hf b.1 g.toIfdWriter
  simp only [IfdWriter.carry] at h
  simp only [onIfd, carry, h]

theorem carries_writeHeader : Carries carry writeHeader := by
  have hmarker : Carries carry fun g => onIfd g fun w => w.onExif (Out.writeShort 0xFFE1) :=
    carries_onIfd (IfdWriter.carries_onExif (Out.carries_writeShort _))
  have hcode : Carries carry fun g => onIfd g fun w => w.onExif fun o =>
      (o.writeLong 0x45786966).writeShort 0 :=
    carries_onIfd (IfdWriter.carries_onExif ((Out.carries_writeLong _).comp
      (Out.carries_writeShort _)))
  have htiff : Carries carry fun g => onIfd g fun w => w.onExif fun o =>
      ((o.writeShort 0x4D4D).writeShort 0x002A).writeLong 8 :=
    carries_onIfd (IfdWriter.carries_onExif (((Out.carries_writeShort _).comp
      (Out.carries_writeShort _)).comp (Out.carries_writeLong _)))
  have hbegin : Carries carry fun g =>
      onIfd { g with app1beginOffset := g.currentOffset } fun w =>
        { w with currentOffset := w.currentOffset + 2 } := fun _ _ => rfl
  have hset : Carries carry fun g => { g with tiffHeaderBeginOffset := g.currentOffset } :=
    fun _ _ => rfl
  exact (((hmarker.comp hbegin).comp hcode).comp hset).comp htiff

/-- A step on the IFDs that counts offsets from the TIFF header. -/
theorem carries_onIfd_tiff {f : Nat → IfdWriter → IfdWriter}
    (hf : ∀ k, Carries IfdWriter.carry (f k)) :
    Carries carry fun g => onIfd g (f g.tiffHeaderBeginOffset) :=
  Carries.dep (f := fun k g => onIfd g (f k)) (p := tiffHeaderBeginOffset)
    (fun k => carries_onIfd (hf k)) fun _ _ => rfl

theorem carries_write0thIfd (v p : List UInt8) : Carries carry (write0thIfd v p) := by
  have hnames : Carries carry fun g => onIfd g fun w => w.beginIfd.writeTags (nameTags v p) :=
    carries_onIfd (IfdWriter.carries_firstTags _)
  have hexif : Carries carry fun g : ExifGenerator =>
      { g with exifIfdPointerOffset := g.currentOffset } := fun _ _ => rfl
  have hgps : Carries carry fun g : ExifGenerator =>
      { g with gpsIfdPointerOffset := g.currentOffset } := fun _ _ => rfl
  have hpointer (id : UInt32) : Carries carry fun g => onIfd g fun w => w.writeExifTag (.long id 0) :=
    carries_onIfd IfdWriter.carries_writeExifTag
  have hend : Carries carry fun g => onIfd g fun w =>
      (w.endWritingIfd g.tiffHeaderBeginOffset).padToEven :=
    carries_onIfd_tiff (f := fun k w => (w.endWritingIfd k).padToEven)
      fun k => (IfdWriter.carries_endWritingIfd k).comp IfdWriter.carries_padToEven
  have hnew : Carries carry fun g : ExifGenerator =>
      { g with
        exifIfdPointerOffset := g.exifIfdPointerOffset + tagDataOffset
        newExifIfdPointerOffset := g.currentOffset - g.tiffHeaderBeginOffset } := fun _ _ => rfl
  exact (((((hnames.comp hexif).comp (hpointer _)).comp hgps).comp (hpointer _)).comp hend).comp hnew

theorem carries_writeExifIfd (v : ExifTagValues) (time : List UInt8 × List UInt8)
    (width height : UInt32) : Carries carry (writeExifIfd v time width height) := by
  have hpicture : Carries carry fun g => onIfd g fun w =>
      w.beginIfd.writeTags (pictureTags v time width height) :=
    carries_onIfd (IfdWriter.carries_firstTags _)
  have hinterop : Carries carry fun g : ExifGenerator =>
      { g with interopIfdPointerOffset := g.currentOffset } := fun _ _ => rfl
  have hmode : Carries carry fun g => onIfd g fun w =>
      w.writeTags (.long TagId.interopIfdPtr 0 :: modeTags v) :=
    carries_onIfd (IfdWriter.carries_writeTags _)
  have hend : Carries carry fun g => onIfd g fun w => w.endWritingIfd g.tiffHeaderBeginOffset :=
    carries_onIfd_tiff (f := fun k w => w.endWritingIfd k) IfdWriter.carries_endWritingIfd
  have hnew : Carries carry fun g : ExifGenerator =>
      { g with
        interopIfdPointerOffset := g.interopIfdPointerOffset + tagDataOffset
        newInteropIfdPointerOffset := g.currentOffset - g.tiffHeaderBeginOffset } := fun _ _ => rfl
  exact (((hpicture.comp hinterop).comp hmode).comp hend).comp hnew

theorem carries_writeInteropIfd : Carries carry writeInteropIfd := by
  have hifd : Carries carry fun g => onIfd g fun w =>
      ((w.beginIfd.writeTags interopIfdTags).endWritingIfd g.tiffHeaderBeginOffset).padToEven :=
    carries_onIfd_tiff
      (f := fun k w => ((w.beginIfd.writeTags interopIfdTags).endWritingIfd k).padToEven)
      fun k => (IfdWriter.carries_ifd interopIfdTags k).comp IfdWriter.carries_padToEven
  have hnew : Carries carry fun g : ExifGenerator =>
      { g with
        gpsIfdPointerOffset := g.gpsIfdPointerOffset + tagDataOffset
        newGpsIfdPointerOffset := g.currentOffset - g.tiffHeaderBeginOffset } := fun _ _ => rfl
  have h := hifd.comp hnew
  exact h

theorem carries_writeGpsIfd (v : ExifTagValues) : Carries carry (writeGpsIfd v) :=
  carries_onIfd_tiff (f := fun k w => (w.beginIfd.writeTags (gpsIfdTags v)).endWritingIfd k)
    (IfdWriter.carries_ifd (gpsIfdTags v))

theorem carries_writeIfds (pic : Picture) : Carries carry (writeIfds pic) := by
  have h := ((carries_write0thIfd pic.vendorName pic.productName).comp (carries_writeExifIfd
    pic.values (getDateTime pic.clock) pic.width.toUInt32 pic.height.toUInt32)).comp
    (carries_writeInteropIfd.comp (carries_writeGpsIfd pic.values))
  exact h

theorem carries_writeLongAt {off : Nat} {v : UInt32} :
    Carries carry fun g => writeLongAt g off v := by
  intro b g
  have h := Out.carries_writeLong v b.1 ⟨g.exifBuffer, off, g.overflowFlag⟩
  simp only [Out.carry] at h
  simp only [writeLongAt, carry, h]

theorem carries_overwriteShort {off : Nat} {v : UInt16} :
    Carries carry fun g => overwriteShort g off v := by
  intro b g
  have h := Out.carries_writeShort v b.1 ⟨g.exifBuffer, off, g.overflowFlag⟩
  simp only [Out.carry] at h
  simp only [overwriteShort, carry, h]

theorem carries_updateFields : Carries carry updateFields := by
  have hpointer (k : Nat × Nat) : Carries carry fun g => writeLongAt g k.1 (.ofNat k.2) :=
    carries_writeLongAt
  have hexif := Carries.dep (p := fun g => (g.exifIfdPointerOffset, g.newExifIfdPointerOffset))
    hpointer fun _ _ => rfl
  have hinterop := Carries.dep
    (p := fun g => (g.interopIfdPointerOffset, g.newInteropIfdPointerOffset)) hpointer fun _ _ => rfl
  have hgps := Carries.dep (p := fun g => (g.gpsIfdPointerOffset, g.newGpsIfdPointerOffset))
    hpointer fun _ _ => rfl
  have hlength := Carries.dep (f := fun k g => overwriteShort g k.1 (.ofNat k.2))
    (p := fun g : ExifGenerator => (g.app1beginOffset, g.currentOffset - g.app1beginOffset))
    (fun _ => carries_overwriteShort) fun _ _ => rfl
  have h := ((hexif.comp hinterop).comp hgps).comp hlength
  exact h

/-- What a fresh generator has drawn before it decides on the number to return. -/
def drawnFresh (pic : Picture) (buffer : Nat → UInt8) : ExifGenerator :=
  ((fresh buffer (init buffer)).writeHeader.writeIfds pic).updateFields

/-- The writing reads of the generator what `Generate` has set, the two flags apart. -/
theorem writeIfds_forgets (h : g.helperBufferOffset = 0) :
    (fresh buffer g).writeHeader.writeIfds pic =
      (carry (g.overflowFlag, g.app1Present) (fresh buffer (init buffer))).writeHeader.writeIfds
        pic := by
  obtain ⟨⟨_, _, _, helperBufferOffset, _, _, _⟩, _, _, _, _, _, _, _, _, _⟩ := g
  obtain rfl : helperBufferOffset = 0 := h
  simp only [carry, Bool.or_false, fresh, init]
  rfl

theorem drawn_carried (h : g.helperBufferOffset = 0) :
    ((fresh buffer g).writeHeader.writeIfds pic).updateFields =
      carry (g.overflowFlag, g.app1Present) (drawnFresh pic buffer) := by
  rw [writeIfds_forgets h]
  exact ((carries_writeHeader.comp (carries_writeIfds pic)).comp carries_updateFields) _ _

end ExifGenerator
end QmmfSdk.Exif
