import QmmfSdk.Library.Tiff

/-! EXIF tags: ids, types and values, and the bytes a value takes. -/
namespace QmmfSdk.Exif

open Library Library.Tiff

/-- `qmmf_exif_tag_type_t`. -/
inductive TagType where
  | byte | ascii | short | long | rational | undefined | slong | srational
  deriving DecidableEq, Repr

def TagType.code : TagType → UInt16
  | .byte => 1
  | .ascii => 2
  | .short => 3
  | .long => 4
  | .rational => 5
  | .undefined => 7
  | .slong => 9
  | .srational => 10

/-- `tag_type_sizes`. -/
def tagTypeSizes : List Nat := [0, 1, 1, 2, 4, 8, 0, 1, 0, 4, 8]

/-- Bytes of one element; a type code outside the table has none. -/
def typeSize (type : UInt16) : Nat := tagTypeSizes.getD type.toNat 0

/-- `qmmf_exif_rat_t`. -/
structure Rational where
  num : UInt32
  denom : UInt32
  deriving DecidableEq, Repr

/-- `qmmf_exif_srat_t`. -/
structure SRational where
  num : Int32
  denom : Int32
  deriving DecidableEq, Repr

/-- `type`, `count` and `data` of `qmmf_exif_tag_entry_t`. The members with a single element and with
a pointer to several are one here: the first element and the others. A text is the bytes that `count`
covers. -/
inductive Value where
  | byte (v : UInt8) (vs : List UInt8)
  | ascii (s : List UInt8)
  | short (v : UInt16) (vs : List UInt16)
  | long (v : UInt32) (vs : List UInt32)
  | rational (v : Rational) (vs : List Rational)
  | undefined (s : List UInt8)
  | slong (v : Int32) (vs : List Int32)
  | srational (v : SRational) (vs : List SRational)
  deriving DecidableEq, Repr

namespace Value

def type : Value → TagType
  | byte .. => .byte
  | ascii _ => .ascii
  | short .. => .short
  | long .. => .long
  | rational .. => .rational
  | undefined _ => .undefined
  | slong .. => .slong
  | srational .. => .srational

def count : Value → Nat
  | byte _ vs => vs.length + 1
  | ascii s => s.length
  | short _ vs => vs.length + 1
  | long _ vs => vs.length + 1
  | rational _ vs => vs.length + 1
  | undefined s => s.length
  | slong _ vs => vs.length + 1
  | srational _ vs => vs.length + 1

/-- The value in big-endian order. -/
def bytes : Value → List UInt8
  | byte v vs => v :: vs
  | ascii s => s
  | short v vs => (v :: vs).flatMap encodeBe16
  | long v vs => (v :: vs).flatMap encodeBe32
  | rational v vs => (v :: vs).flatMap fun r => encodeBe32 r.num ++ encodeBe32 r.denom
  | undefined s => s
  | slong v vs => (v :: vs).flatMap fun n => encodeBe32 n.toUInt32
  | srational v vs =>
    (v :: vs).flatMap fun r => encodeBe32 r.num.toUInt32 ++ encodeBe32 r.denom.toUInt32

end Value

/-- `qmmf_exif_tag_t`; `write_length` is computed in `uint32_t`. -/
structure Tag where
  id : UInt32
  value : Value
  fits : value.bytes.length < 2 ^ 32
  deriving DecidableEq

/-- What a file holds of a tag. -/
def Tag.field (t : Tag) : Field where
  id := t.id.toUInt16
  type := t.value.type.code
  count := .ofNat t.value.count
  value := t.value.bytes

/-- `QMMF_CONSTRUCT_TAGID`. -/
def constructTagId (offset id : UInt32) : UInt32 := offset <<< 16 ||| id

-- The `QMMF_EXIFTAGID` constants: the place in `qmmf_exif_tag_offset_t` above the EXIF id.
namespace TagId

def gpsLatitudeRef := constructTagId 1 0x0001
def gpsLatitude := constructTagId 2 0x0002
def gpsLongitudeRef := constructTagId 3 0x0003
def gpsLongitude := constructTagId 4 0x0004
def gpsAltitudeRef := constructTagId 5 0x0005
def gpsAltitude := constructTagId 6 0x0006
def gpsTimestamp := constructTagId 7 0x0007
def gpsProcessingMethod := constructTagId 27 0x001b
def gpsDatestamp := constructTagId 29 0x001d
def make := constructTagId 44 0x010f
def model := constructTagId 45 0x0110
def orientation := constructTagId 47 0x0112
def software := constructTagId 68 0x0131
def dateTime := constructTagId 69 0x0132
def exifIfdPtr := constructTagId 107 0x8769
def gpsIfdPtr := constructTagId 109 0x8825
def exposureTime := constructTagId 140 0x829a
def fNumber := constructTagId 141 0x829d
def isoSpeedRating := constructTagId 144 0x8827
def exifDateTimeOriginal := constructTagId 147 0x9003
def exifDateTimeDigitized := constructTagId 148 0x9004
def aperture := constructTagId 152 0x9202
def focalLength := constructTagId 160 0x920a
def subsecTime := constructTagId 164 0x9290
def subsecTimeOriginal := constructTagId 165 0x9291
def subsecTimeDigitized := constructTagId 166 0x9292
def exifPixelXDimension := constructTagId 169 0xa002
def exifPixelYDimension := constructTagId 170 0xa003
def interopIfdPtr := constructTagId 172 0xa005
def exposureMode := constructTagId 185 0xa402
def whiteBalance := constructTagId 186 0xa403
def interopIndex := constructTagId 198 0x0001
def interopVersion := constructTagId 198 0x0002

end TagId

section Elements

variable {α : Type} {k : Nat} {enc : α → List UInt8} {xs : List α}

theorem length_flatMap_of_length (h : ∀ x, (enc x).length = k) :
    (xs.flatMap enc).length = k * xs.length := by
  induction xs with
  | nil => rfl
  | cons x xs ih =>
    rw [List.flatMap_cons, List.length_append, h, ih, List.length_cons, Nat.mul_succ, Nat.add_comm]

end Elements

namespace Value

variable {v : Value}

/-- The bytes of a value are those that type and count announce. -/
theorem length_bytes : v.bytes.length = typeSize v.type.code * v.count := by
  cases v with
  | byte v vs => exact (Nat.one_mul _).symm
  | ascii s => exact (Nat.one_mul _).symm
  | undefined s => exact (Nat.one_mul _).symm
  | short v vs => exact length_flatMap_of_length fun _ => rfl
  | long v vs => exact length_flatMap_of_length fun _ => rfl
  | rational v vs => exact length_flatMap_of_length fun _ => rfl
  | slong v vs => exact length_flatMap_of_length fun _ => rfl
  | srational v vs => exact length_flatMap_of_length fun _ => rfl

end Value

theorem TagType.typeSize_pos (t : TagType) : 0 < typeSize t.code := by
  cases t <;> decide

theorem TagType.code_lt_length (t : TagType) : t.code.toNat < tagTypeSizes.length := by
  cases t <;> decide

theorem Tag.count_lt (t : Tag) : t.value.count < 2 ^ 32 := by
  have hfits := t.fits
  have hpos := Nat.le_mul_of_pos_left t.value.count t.value.type.typeSize_pos
  rw [Value.length_bytes] at hfits
  omega

theorem Tag.field_sized (t : Tag) : t.field.Sized typeSize := by
  have hcount : (UInt32.ofNat t.value.count).toNat = t.value.count :=
    UInt32.toNat_ofNat_of_lt' t.count_lt
  rw [Field.Sized]
  show t.value.bytes.length = typeSize t.value.type.code * (UInt32.ofNat t.value.count).toNat
  rw [hcount, Value.length_bytes]

end QmmfSdk.Exif
