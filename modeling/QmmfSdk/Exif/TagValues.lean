import QmmfSdk.Exif.Types

/-! What `ExifGenerator` takes from the metadata, the names and the clock, and the tags it writes. -/
namespace QmmfSdk.Exif

open Library

/-- Degrees, minutes and seconds, or hours, minutes and seconds. -/
structure Triple where
  fst : Rational
  snd : Rational
  thd : Rational
  deriving DecidableEq

def Rational.zero : Rational := ⟨0, 0⟩

def Triple.zero : Triple := ⟨.zero, .zero, .zero⟩

/-- The tags of `CameraMetadata` that the generator reads; `F` is `float`, `D` is `double`. -/
structure CameraMetadata (F D : Type) where
  sensorExposureTime : Option Int64 := none
  sensorSensitivity : Option Int32 := none
  lensFocalLength : Option F := none
  lensAperture : Option F := none
  controlAeMode : Option UInt8 := none
  controlAwbMode : Option UInt8 := none
  jpegGpsCoordinates : Option (D × D × D) := none
  jpegGpsTimestamp : Option Int64 := none
  /-- The text up to its NUL. -/
  jpegGpsProcessingMethod : Option (List UInt8) := none

/-- `struct tm` as far as it is used, with the date as `strftime` prints it. -/
structure GpsTime where
  hour : UInt32
  min : UInt32
  sec : UInt32
  date : List UInt8
  fits : date.length < 20

/-- The floating point arithmetic and `gmtime`. -/
structure Platform (F D : Type) where
  /-- `ExpTimeToFraction` of nanoseconds over `1000000000.0`. -/
  expTimeToFraction : Int64 → Rational
  /-- `focal_length * 1000`. -/
  focalLengthMilli : F → UInt32
  /-- `2 * log2(aperture) * 1000`. -/
  apexMilli : F → UInt32
  isNegative : D → Bool
  /-- The degrees, the minutes and ten thousand times the seconds of `ParseGpsCoordinates`. -/
  degrees : D → UInt32 × UInt32 × UInt32
  /-- The absolute value times 1000. -/
  altitudeMilli : D → UInt32
  gmtime : Int64 → Option GpsTime

structure ExifTagValues where
  exposureTime : Rational := .zero
  isoSpeed : UInt16 := 0
  focalLength : Rational := .zero
  aperture : Rational := .zero
  awbMode : UInt16 := 0
  latitude : Triple := .zero
  latitudeReference : UInt8 := 0
  longitude : Triple := .zero
  longitudeReference : UInt8 := 0
  altitude : Rational := .zero
  altitudeReference : UInt8 := 0
  gpsTimestamp : Triple := .zero
  gpsDatestamp : List UInt8 := []
  /-- The `gps_proc_method_size_` bytes set in the array. -/
  gpsProcessingMethod : List UInt8 := []
  aeMode : UInt16 := 0
  gpsCoordsPresent : Bool := false
  gpsTimestampPresent : Bool := false
  gpsProcMethodPresent : Bool := false

/-- `kASCIICharacterCode`. -/
def kASCIICharacterCode : List UInt8 := [65, 83, 67, 73, 73, 0, 0, 0]

/-- `sizeof(gps_processing_method)`. -/
def gpsProcessingMethodSize : Nat := 42

section Extract

variable {F D : Type} (p : Platform F D) (meta_ : CameraMetadata F D)

def parseGpsCoordinates (coord : D) : Triple :=
  let d := p.degrees coord
  ⟨⟨d.1, 1⟩, ⟨d.2.1, 1⟩, ⟨d.2.2, 10000⟩⟩

def getGpsCoordinates (latitude longitude altitude : D) (v : ExifTagValues) : ExifTagValues :=
  { v with
    latitude := parseGpsCoordinates p latitude
    latitudeReference := if p.isNegative latitude then 83 else 78
    longitude := parseGpsCoordinates p longitude
    longitudeReference := if p.isNegative longitude then 87 else 69
    altitudeReference := if p.isNegative altitude then 1 else 0
    altitude := ⟨p.altitudeMilli altitude, 1000⟩ }

def getGpsDateTimestamp (utcTime : Int64) (v : ExifTagValues) : ExifTagValues :=
  match p.gmtime utcTime with
  | some t =>
    { v with
      gpsDatestamp := t.date
      gpsTimestamp := ⟨⟨t.hour, 1⟩, ⟨t.min, 1⟩, ⟨t.sec, 1⟩⟩ }
  | none => v

/-- `none` when the text and its NUL leave the array. -/
def getGpsProcessingMethod (method : List UInt8) (v : ExifTagValues) : Option ExifTagValues :=
  if kASCIICharacterCode.length + method.length + 1 ≤ gpsProcessingMethodSize then
    some { v with gpsProcessingMethod := kASCIICharacterCode ++ method ++ [0] }
  else none

def extractExifTagValues : Option ExifTagValues :=
  let v : ExifTagValues := {}
  let v := match meta_.sensorExposureTime with
    | some t => if t ≠ 0 then { v with exposureTime := p.expTimeToFraction t } else v
    | none => v
  let v := match meta_.sensorSensitivity with
    | some s => { v with isoSpeed := s.toUInt32.toUInt16 }
    | none => v
  let v := match meta_.lensFocalLength with
    | some f => { v with focalLength := ⟨p.focalLengthMilli f, 1000⟩ }
    | none => v
  let v := match meta_.lensAperture with
    | some a => { v with aperture := ⟨p.apexMilli a, 1000⟩ }
    | none => v
  let v := match meta_.controlAeMode with
    -- `ANDROID_CONTROL_AE_MODE_ON` is 1
    | some mode => { v with aeMode := if mode = 1 then 0 else 1 }
    | none => v
  let v := match meta_.controlAwbMode with
    -- `ANDROID_CONTROL_AWB_MODE_AUTO` is 1
    | some mode => { v with awbMode := if mode = 1 then 0 else 1 }
    | none => v
  let v := match meta_.jpegGpsCoordinates with
    | some (lat, lon, alt) => getGpsCoordinates p lat lon alt { v with gpsCoordsPresent := true }
    | none => v
  let v := match meta_.jpegGpsTimestamp with
    | some t => getGpsDateTimestamp p t { v with gpsTimestampPresent := true }
    | none => v
  match meta_.jpegGpsProcessingMethod with
  | some method => getGpsProcessingMethod method { v with gpsProcMethodPresent := true }
  | none => some v

end Extract

/-- What `gettimeofday` and `localtime_r` give, the year and the month as they are printed. -/
structure Clock where
  year : UInt32
  mon : UInt32
  mday : UInt32
  hour : UInt32
  min : UInt32
  sec : UInt32
  usec : UInt64

/-- `%0wu`. -/
def decimal (w n : Nat) : List UInt8 :=
  let ds : List UInt8 := (Nat.toDigits 10 n).map fun c => .ofNat c.toNat
  List.replicate (w - ds.length) 48 ++ ds

/-- Date and time of day, and the microseconds; `snprintf` cuts both to 19 characters. -/
def getDateTime (c : Clock) : List UInt8 × List UInt8 :=
  ((decimal 4 c.year.toNat ++ [58] ++ decimal 2 c.mon.toNat ++ [58] ++ decimal 2 c.mday.toNat ++ [32] ++
      decimal 2 c.hour.toNat ++ [58] ++ decimal 2 c.min.toNat ++ [58] ++ decimal 2 c.sec.toNat).take 19,
    (decimal 6 c.usec.toNat).take 19)

namespace Tag

def short (id : UInt32) (v : UInt16) : Tag := ⟨id, .short v [], by simp [Value.bytes]⟩

def long (id : UInt32) (v : UInt32) : Tag := ⟨id, .long v [], by simp [Value.bytes]⟩

def byte (id : UInt32) (v : UInt8) : Tag := ⟨id, .byte v [], by simp [Value.bytes]⟩

def rational (id : UInt32) (v : Rational) : Tag := ⟨id, .rational v [], by simp [Value.bytes]⟩

def rationals (id : UInt32) (v : Triple) : Tag :=
  ⟨id, .rational v.fst [v.snd, v.thd], by simp [Value.bytes]⟩

/-- A text with `count` cast to `uint32_t`. -/
def text (id : UInt32) (s : List UInt8) : Tag where
  id := id
  value := .ascii (s.take (s.length % 2 ^ 32))
  fits := by
    have hlt : s.length % 2 ^ 32 < 2 ^ 32 := Nat.mod_lt _ (by decide)
    simp only [Value.bytes, List.length_take]
    omega

/-- `c_str()` with `length() + 1` bytes. -/
def cString (id : UInt32) (s : List UInt8) : Tag := text id (s ++ [0])

end Tag

def nameTags (vendorName productName : List UInt8) : List Tag :=
  [.cString TagId.make vendorName,
   .cString TagId.model productName,
   .cString TagId.software productName]

/-- The tags of the 0th IFD, with what its two pointers hold. -/
def zerothIfdTags (vendorName productName : List UInt8) (exifIfd gpsIfd : UInt32) : List Tag :=
  nameTags vendorName productName ++ [.long TagId.exifIfdPtr exifIfd, .long TagId.gpsIfdPtr gpsIfd]

def pictureTags (v : ExifTagValues) (time : List UInt8 × List UInt8) (width height : UInt32) :
    List Tag :=
  [.rational TagId.exposureTime v.exposureTime,
   .rational TagId.fNumber v.aperture,
   .short TagId.isoSpeedRating v.isoSpeed,
   .cString TagId.dateTime time.1,
   .cString TagId.exifDateTimeOriginal time.1,
   .cString TagId.exifDateTimeDigitized time.1,
   .rational TagId.aperture v.aperture,
   .rational TagId.focalLength v.focalLength,
   .cString TagId.subsecTime time.2,
   .cString TagId.subsecTimeOriginal time.2,
   .cString TagId.subsecTimeDigitized time.2,
   .long TagId.exifPixelXDimension width,
   .long TagId.exifPixelYDimension height]

def modeTags (v : ExifTagValues) : List Tag :=
  [.short TagId.exposureMode v.aeMode, .short TagId.whiteBalance v.awbMode]

/-- The tags of the Exif IFD, with what its pointer holds. -/
def exifIfdTags (v : ExifTagValues) (time : List UInt8 × List UInt8) (width height : UInt32)
    (interopIfd : UInt32) : List Tag :=
  pictureTags v time width height ++ .long TagId.interopIfdPtr interopIfd :: modeTags v

/-- `kDefaultVersionName` and `kDefaultVersion`. -/
def interopIfdTags : List Tag :=
  [⟨TagId.interopIndex, .ascii [82, 57, 56, 0], by decide⟩,
   ⟨TagId.interopVersion, .undefined [48, 49, 48, 48], by decide⟩]

def coordinateTags (v : ExifTagValues) : List Tag :=
  if v.gpsCoordsPresent then
    [.rationals TagId.gpsLatitude v.latitude,
     .text TagId.gpsLatitudeRef [v.latitudeReference, 0],
     .rationals TagId.gpsLongitude v.longitude,
     .text TagId.gpsLongitudeRef [v.longitudeReference, 0],
     .rational TagId.gpsAltitude v.altitude,
     .byte TagId.gpsAltitudeRef v.altitudeReference]
  else []

def timestampTags (v : ExifTagValues) : List Tag :=
  if v.gpsTimestampPresent then
    [.rationals TagId.gpsTimestamp v.gpsTimestamp,
     .cString TagId.gpsDatestamp v.gpsDatestamp]
  else []

def methodTags (v : ExifTagValues) : List Tag :=
  if v.gpsProcMethodPresent then [.text TagId.gpsProcessingMethod v.gpsProcessingMethod] else []

/-- The tags of the GPS IFD: the groups that the metadata has. -/
def gpsIfdTags (v : ExifTagValues) : List Tag :=
  coordinateTags v ++ (timestampTags v ++ methodTags v)

end QmmfSdk.Exif
