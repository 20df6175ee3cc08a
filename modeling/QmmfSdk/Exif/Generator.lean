import QmmfSdk.Exif.TagValues

/-! `ExifGenerator`: the checked writers, one IFD with its staged values, and the whole segment. -/
namespace QmmfSdk.Exif

open Library Library.Tiff

def kMaxExifApp1Length : Nat := 0xFFFF

def kTagSize : Nat := 12

/-- `kTagIdSize + kTagTypeSize + kTagCountSize`. -/
def tagDataOffset : Nat := 8

/-- A buffer, the offset that a writer is given a pointer to, and the overflow flag. -/
structure Out where
  buffer : Nat → UInt8
  offset : Nat
  overflow : Bool

namespace Out

/-- Writes `bs` unless the offset `last` places on, in `uint32_t`, has left the segment. -/
def put (o : Out) (last : Nat) (bs : List UInt8) : Out :=
  if kMaxExifApp1Length ≤ (o.offset + last) % 2 ^ 32 then { o with overflow := true }
  else
    { o with
      buffer := store o.buffer o.offset bs
      offset := (o.offset + bs.length) % 2 ^ 32 }

def writeByte (v : UInt8) (o : Out) : Out := o.put 0 [v]

def writeShort (v : UInt16) (o : Out) : Out := o.put 1 (encodeBe16 v)

def writeLong (v : UInt32) (o : Out) : Out := o.put 3 (encodeBe32 v)

def writeNBytes (data : List UInt8) (o : Out) : Out := o.put data.length data

def writeRational (r : Rational) (o : Out) : Out := (o.writeLong r.num).writeLong r.denom

def writeSRational (r : SRational) (o : Out) : Out :=
  (o.writeLong r.num.toUInt32).writeLong r.denom.toUInt32

/-- Writes one element after the other. -/
def writeAll {α : Type} (write : α → Out → Out) (xs : List α) (o : Out) : Out :=
  xs.foldl (fun o x => write x o) o

def writeTagValue (v : Value) (o : Out) : Out :=
  match v with
  | .ascii s => o.writeNBytes s
  | .undefined s => o.writeNBytes s
  | .byte v vs => o.writeAll writeByte (v :: vs)
  | .short v vs => o.writeAll writeShort (v :: vs)
  | .long v vs => o.writeAll writeLong (v :: vs)
  | .slong v vs => o.writeAll (fun n => writeLong n.toUInt32) (v :: vs)
  | .rational v vs => o.writeAll writeRational (v :: vs)
  | .srational v vs => o.writeAll writeSRational (v :: vs)

end Out

/-- `ReadU16`. -/
def loadU16 (m : Nat → UInt8) (off : Nat) : UInt16 := decodeBe16 (m off) (m (off + 1))

/-- `ReadU32`. -/
def loadU32 (m : Nat → UInt8) (off : Nat) : UInt32 :=
  decodeBe32 (m off) (m (off + 1)) (m (off + 2)) (m (off + 3))

/-- The fields of the generator that the writing of one IFD works on. -/
structure IfdWriter where
  exifBuffer : Nat → UInt8
  helperBuffer : Nat → UInt8
  currentOffset : Nat
  helperBufferOffset : Nat
  tagCount : Nat
  tagCountOffset : Nat
  overflowFlag : Bool

namespace IfdWriter

/-- `exif_buffer_` written at `current_offset_`. -/
def onExif (w : IfdWriter) (f : Out → Out) : IfdWriter :=
  let o := f ⟨w.exifBuffer, w.currentOffset, w.overflowFlag⟩
  { w with exifBuffer := o.buffer, currentOffset := o.offset, overflowFlag := o.overflow }

/-- `helper_buffer_` written at `helper_buffer_offset_`. -/
def onHelper (w : IfdWriter) (f : Out → Out) : IfdWriter :=
  let o := f ⟨w.helperBuffer, w.helperBufferOffset, w.overflowFlag⟩
  { w with helperBuffer := o.buffer, helperBufferOffset := o.offset, overflowFlag := o.overflow }

/-- The first lines of every IFD. -/
def beginIfd (w : IfdWriter) : IfdWriter :=
  { w with tagCount := 0, tagCountOffset := w.currentOffset, currentOffset := w.currentOffset + 2 }

def writeExifTag (w : IfdWriter) (tag : Tag) : IfdWriter :=
  let w := w.onExif fun o =>
    ((o.writeShort tag.id.toUInt16).writeShort tag.value.type.code).writeLong (.ofNat tag.value.count)
  let writeLength := typeSize tag.value.type.code * tag.value.count
  let w :=
    if writeLength ≤ 4 then
      w.onExif fun o =>
        (o.writeTagValue tag.value).writeAll Out.writeByte (List.replicate (4 - writeLength) 0)
    else
      let w := { w with helperBufferOffset := evenUp w.helperBufferOffset }
      let w := w.onExif (Out.writeLong (.ofNat w.helperBufferOffset))
      w.onHelper (Out.writeTagValue tag.value)
  { w with tagCount := w.tagCount + 1 }

def writeTags (w : IfdWriter) (tags : List Tag) : IfdWriter := tags.foldl writeExifTag w

/-- One round of the loop in `EndWritingIfd`: an entry that refers to the helper buffer is made to
refer to where the helper buffer is copied. -/
def relocate (tiff dest : Nat) (w : IfdWriter) (i : Nat) : IfdWriter :=
  let writeOffset := w.tagCountOffset + i * kTagSize + tagDataOffset
  let type := loadU16 w.exifBuffer (writeOffset - 6)
  let count := loadU32 w.exifBuffer (writeOffset - 4)
  if tagTypeSizes.length ≤ type.toNat then w
  else if 4 < (count.toNat * typeSize type) % 2 ^ 32 then
    let adjustedOffset := loadU32 w.exifBuffer writeOffset + .ofNat dest - .ofNat tiff
    let o := Out.writeLong adjustedOffset ⟨w.exifBuffer, writeOffset, w.overflowFlag⟩
    { w with exifBuffer := o.buffer, overflowFlag := o.overflow }
  else w

/-- `EndWritingIfd` up to its loop: the offset of the next IFD and the number of entries. -/
def closeTable (w : IfdWriter) : IfdWriter :=
  let w := w.onExif (Out.writeLong 0)
  let o := Out.writeShort (.ofNat w.tagCount) ⟨w.exifBuffer, w.tagCountOffset, w.overflowFlag⟩
  { w with exifBuffer := o.buffer, tagCountOffset := o.offset, overflowFlag := o.overflow }

/-- `EndWritingIfd` after its loop; the copy is not checked against `kMaxExifApp1Length`. -/
def copyHelper (dest : Nat) (w : IfdWriter) : IfdWriter :=
  { w with
    exifBuffer := store w.exifBuffer dest (load w.helperBuffer 0 w.helperBufferOffset)
    currentOffset := dest + w.helperBufferOffset
    helperBufferOffset := 0
    tagCount := 0 }

def endWritingIfd (tiff : Nat) (w : IfdWriter) : IfdWriter :=
  let w := w.closeTable
  let dest := w.tagCountOffset + w.tagCount * kTagSize + 4
  ((List.range w.tagCount).foldl (relocate tiff dest) w).copyHelper dest

/-- The zero byte that makes `current_offset_` even. -/
def padToEven (w : IfdWriter) : IfdWriter :=
  if w.currentOffset % 2 = 1 then w.onExif (Out.writeByte 0) else w

end IfdWriter

structure ExifGenerator extends IfdWriter where
  tiffHeaderBeginOffset : Nat
  app1beginOffset : Nat
  gpsIfdPointerOffset : Nat
  newGpsIfdPointerOffset : Nat
  interopIfdPointerOffset : Nat
  newInteropIfdPointerOffset : Nat
  exifIfdPointerOffset : Nat
  newExifIfdPointerOffset : Nat
  app1Present : Bool

namespace ExifGenerator

/-- The constructor; the helper buffer is not set, `Generate` clears it. -/
def init (helper : Nat → UInt8) : ExifGenerator where
  exifBuffer := fun _ => 0
  helperBuffer := helper
  currentOffset := 0
  helperBufferOffset := 0
  tagCount := 0
  tagCountOffset := 0
  overflowFlag := false
  tiffHeaderBeginOffset := 0
  app1beginOffset := 0
  gpsIfdPointerOffset := 0
  newGpsIfdPointerOffset := 0
  interopIfdPointerOffset := 0
  newInteropIfdPointerOffset := 0
  exifIfdPointerOffset := 0
  newExifIfdPointerOffset := 0
  app1Present := false

/-- A step on the part that writes the IFDs. -/
def onIfd (g : ExifGenerator) (f : IfdWriter → IfdWriter) : ExifGenerator :=
  { g with toIfdWriter := f g.toIfdWriter }

def writeGpsIfd (v : ExifTagValues) (g : ExifGenerator) : ExifGenerator :=
  g.onIfd fun w => (w.beginIfd.writeTags (gpsIfdTags v)).endWritingIfd g.tiffHeaderBeginOffset

def writeInteropIfd (g : ExifGenerator) : ExifGenerator :=
  let g := g.onIfd fun w =>
    ((w.beginIfd.writeTags interopIfdTags).endWritingIfd g.tiffHeaderBeginOffset).padToEven
  { g with
    gpsIfdPointerOffset := g.gpsIfdPointerOffset + tagDataOffset
    newGpsIfdPointerOffset := g.currentOffset - g.tiffHeaderBeginOffset }

def writeExifIfd (v : ExifTagValues) (time : List UInt8 × List UInt8) (width height : UInt32)
    (g : ExifGenerator) : ExifGenerator :=
  let g := g.onIfd fun w => w.beginIfd.writeTags (pictureTags v time width height)
  let g := { g with interopIfdPointerOffset := g.currentOffset }
  let g := g.onIfd fun w => w.writeTags (.long TagId.interopIfdPtr 0 :: modeTags v)
  let g := g.onIfd fun w => w.endWritingIfd g.tiffHeaderBeginOffset
  { g with
    interopIfdPointerOffset := g.interopIfdPointerOffset + tagDataOffset
    newInteropIfdPointerOffset := g.currentOffset - g.tiffHeaderBeginOffset }

def write0thIfd (vendorName productName : List UInt8) (g : ExifGenerator) : ExifGenerator :=
  let g := g.onIfd fun w => w.beginIfd.writeTags (nameTags vendorName productName)
  let g := { g with exifIfdPointerOffset := g.currentOffset }
  let g := g.onIfd fun w => w.writeExifTag (.long TagId.exifIfdPtr 0)
  let g := { g with gpsIfdPointerOffset := g.currentOffset }
  let g := g.onIfd fun w => w.writeExifTag (.long TagId.gpsIfdPtr 0)
  let g := g.onIfd fun w => (w.endWritingIfd g.tiffHeaderBeginOffset).padToEven
  { g with
    exifIfdPointerOffset := g.exifIfdPointerOffset + tagDataOffset
    newExifIfdPointerOffset := g.currentOffset - g.tiffHeaderBeginOffset }

/-- A pointer of `UpdateFields`; the offset it is written at is not used again. -/
def writeLongAt (g : ExifGenerator) (offset : Nat) (v : UInt32) : ExifGenerator :=
  let o := Out.writeLong v ⟨g.exifBuffer, offset, g.overflowFlag⟩
  { g with exifBuffer := o.buffer, overflowFlag := o.overflow }

def overwriteShort (g : ExifGenerator) (offset : Nat) (v : UInt16) : ExifGenerator :=
  let o := Out.writeShort v ⟨g.exifBuffer, offset, g.overflowFlag⟩
  { g with exifBuffer := o.buffer, overflowFlag := o.overflow }

def updateFields (g : ExifGenerator) : ExifGenerator :=
  let g := g.writeLongAt g.exifIfdPointerOffset (.ofNat g.newExifIfdPointerOffset)
  let g := g.writeLongAt g.interopIfdPointerOffset (.ofNat g.newInteropIfdPointerOffset)
  let g := g.writeLongAt g.gpsIfdPointerOffset (.ofNat g.newGpsIfdPointerOffset)
  g.overwriteShort g.app1beginOffset (.ofNat (g.currentOffset - g.app1beginOffset))

/-- The APP1 marker, room for the length, the Exif code and the TIFF header. -/
def writeHeader (g : ExifGenerator) : ExifGenerator :=
  let g := g.onIfd fun w => w.onExif (Out.writeShort 0xFFE1)
  let g := { g with app1beginOffset := g.currentOffset }
  let g := g.onIfd fun w => { w with currentOffset := w.currentOffset + 2 }
  let g := g.onIfd fun w => w.onExif fun o => (o.writeLong 0x45786966).writeShort 0
  let g := { g with tiffHeaderBeginOffset := g.currentOffset }
  g.onIfd fun w => w.onExif fun o => ((o.writeShort 0x4D4D).writeShort 0x002A).writeLong 8

/-- What the tags are made of. -/
structure Picture where
  values : ExifTagValues
  vendorName : List UInt8
  productName : List UInt8
  width : Int32
  height : Int32
  clock : Clock

/-- The IFDs in the order in which they are written. -/
def writeIfds (pic : Picture) (g : ExifGenerator) : ExifGenerator :=
  let g := g.write0thIfd pic.vendorName pic.productName
  let g := g.writeExifIfd pic.values (getDateTime pic.clock) pic.width.toUInt32 pic.height.toUInt32
  g.writeInteropIfd.writeGpsIfd pic.values

/-- The number returned is the size of the segment, 0 after an overflow. -/
def writeExifData (pic : Picture) (g : ExifGenerator) : ExifGenerator × Int :=
  let g := (g.writeHeader.writeIfds pic).updateFields
  let g := if g.overflowFlag then g else { g with app1Present := true }
  if g.overflowFlag && !g.app1Present then (g, 0) else (g, g.currentOffset)

/-- The arguments of `Generate` and the clock it reads; `none` is a null buffer. -/
structure Request (F D : Type) where
  metadata : CameraMetadata F D
  vendorName : List UInt8
  productName : List UInt8
  width : Int32
  height : Int32
  buffer : Option (Nat → UInt8)
  clock : Clock

variable {F D : Type}

def Request.picture (r : Request F D) (v : ExifTagValues) : Picture where
  values := v
  vendorName := r.vendorName
  productName := r.productName
  width := r.width
  height := r.height
  clock := r.clock

/-- The generator as `Generate` prepares it. -/
def fresh (buffer : Nat → UInt8) (g : ExifGenerator) : ExifGenerator :=
  { g with helperBuffer := fun _ => 0, exifBuffer := buffer, currentOffset := 0 }

/-- `none` is a processing method that leaves its array. -/
def generate (p : Platform F D) (g : ExifGenerator) (r : Request F D) :
    Option (ExifGenerator × Int) :=
  match r.buffer with
  -- `BAD_VALUE`
  | none => some (g, -22)
  | some buffer => do
    let v ← extractExifTagValues p r.metadata
    return writeExifData (r.picture v) (g.fresh buffer)

end ExifGenerator

end QmmfSdk.Exif
