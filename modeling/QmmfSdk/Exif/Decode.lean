import QmmfSdk.Exif.Reader
import QmmfSdk.Exif.Overflow
import QmmfSdk.Library.Transition

/-! When the segment of `ExifGenerator` reads back as the tags it was made of. -/
namespace QmmfSdk.Exif

open Library Library.Tiff

namespace ExifGenerator

variable {F D : Type} {p : Platform F D} {g g' : ExifGenerator} {r : Request F D} {pic : Picture}
  {m : Nat → UInt8} {n : Int}

/-- A reader that starts at the marker finds every tag of every IFD, the pointers holding the offsets
of the IFDs; tables and values lie in the segment and apart; the length is the size less 2. -/
def Decodes (pic : Picture) (m : Nat → UInt8) (size : Int) : Prop :=
  ∃ f, readExif (load m 0 size.toNat) = some f ∧
    f.zeroth.tags = (zerothIfdTags pic.vendorName pic.productName (.ofNat f.exif.offset)
      (.ofNat f.gps.offset)).map Tag.recovered ∧
    f.exif.tags = (pic.exifTags (.ofNat f.interop.offset)).map Tag.recovered ∧
    f.interop.tags = interopIfdTags.map Tag.recovered ∧
    f.gps.tags = (gpsIfdTags pic.values).map Tag.recovered ∧
    (∀ r ∈ f.ranges, 10 + r.stop ≤ 2 + f.length) ∧
    f.ranges.Pairwise Range.Apart ∧
    (f.length : Int) = size - 2

section Reading

/-- What the reader gives for an IFD laid out at `off`. -/
def ifdOf (off : Nat) (ts : List Tag) : Ifd where
  offset := off
  tags := ts.map Tag.recovered
  ranges := (Directory.mk off (found (off + tableSize (ts.map Tag.field).length) 0
    (ts.map Tag.field)) 0).ranges

def Picture.file (pic : Picture) : ExifFile where
  length := pic.segmentSize - 2
  zeroth := ifdOf 8 (zerothIfdTags pic.vendorName pic.productName (.ofNat pic.exifOffset)
    (.ofNat pic.gpsOffset))
  exif := ifdOf pic.exifOffset (pic.exifTags (.ofNat pic.interopOffset))
  interop := ifdOf pic.interopOffset interopIfdTags
  gps := ifdOf pic.gpsOffset (gpsIfdTags pic.values)

theorem pointer_of_split {off : Nat} {pre post : List Tag} {tid : UInt32} {id : UInt16} {i : Nat}
    (hpre : id ∉ pre.map fun t => t.id.toUInt16) (hid : tid.toUInt16 = id) (hi : i < 2 ^ 32) :
    (ifdOf off (pre ++ .long tid (.ofNat i) :: post)).pointer id = some i := by
  have hnone : (pre.map Tag.recovered).find? (fun t => t.id = id) = none := by
    rw [List.find?_eq_none]
    intro t ht hteq
    obtain ⟨t', ht', rfl⟩ := List.mem_map.mp ht
    exact hpre (List.mem_map.mpr ⟨t', ht', of_decide_eq_true hteq⟩)
  have hthis : (Tag.long tid (.ofNat i)).recovered = ⟨id, .long (.ofNat i) []⟩ := by
    rw [← hid]
    rfl
  rw [Ifd.pointer, ifdOf]
  simp only [List.map_append, List.map_cons, List.find?_append, hnone, hthis, Option.none_or,
    List.find?_cons, decide_true]
  rw [UInt32.toNat_ofNat_of_lt' hi]

theorem pointer_exif {off i : Nat} {j : UInt32} {v q : List UInt8} (hi : i < 2 ^ 32) :
    (ifdOf off (zerothIfdTags v q (.ofNat i) j)).pointer 0x8769 = some i := by
  refine pointer_of_split ?_ (by decide) hi
  rw [show (nameTags v q).map (fun t => t.id.toUInt16) =
    [TagId.make, TagId.model, TagId.software].map UInt32.toUInt16 from rfl]
  decide

theorem pointer_gps {off j : Nat} {i : UInt32} {v q : List UInt8} (hj : j < 2 ^ 32) :
    (ifdOf off (zerothIfdTags v q i (.ofNat j))).pointer 0x8825 = some j := by
  have hsplit : zerothIfdTags v q i (.ofNat j) =
      (nameTags v q ++ [.long TagId.exifIfdPtr i]) ++ [.long TagId.gpsIfdPtr (.ofNat j)] := rfl
  rw [hsplit]
  refine pointer_of_split ?_ (by decide) hj
  rw [show (nameTags v q ++ [Tag.long TagId.exifIfdPtr i]).map (fun t => t.id.toUInt16) =
    [TagId.make, TagId.model, TagId.software, TagId.exifIfdPtr].map UInt32.toUInt16 from rfl]
  decide

theorem pointer_interop {off i : Nat} (hi : i < 2 ^ 32) :
    (ifdOf off (pic.exifTags (.ofNat i))).pointer 0xA005 = some i := by
  refine pointer_of_split ?_ (by decide) hi
  rw [show (pictureTags pic.values (getDateTime pic.clock) pic.width.toUInt32
      pic.height.toUInt32).map (fun t => t.id.toUInt16) =
    [TagId.exposureTime, TagId.fNumber, TagId.isoSpeedRating, TagId.dateTime,
      TagId.exifDateTimeOriginal, TagId.exifDateTimeDigitized, TagId.aperture, TagId.focalLength,
      TagId.subsecTime, TagId.subsecTimeOriginal, TagId.subsecTimeDigitized,
      TagId.exifPixelXDimension, TagId.exifPixelYDimension].map UInt32.toUInt16 from rfl]
  decide

/-- The offsets go up and the last directory ends with the segment. -/
theorem Picture.offsets (pic : Picture) : 8 + extent (pic.zerothFields 0 0) ≤ pic.exifOffset ∧
    pic.exifOffset + extent (pic.exifFields 0) = pic.interopOffset ∧
    pic.interopOffset + extent (interopIfdTags.map Tag.field) ≤ pic.gpsOffset ∧
    10 + pic.gpsOffset + extent pic.gpsFields = pic.segmentSize :=
  ⟨pic.exifOffset_ge, rfl, pic.gpsOffset_ge, rfl⟩

/-- The reader finds the four IFDs of a picture behind their pointers. -/
structure Picture.ReadsBack (pic : Picture) (tiff : List UInt8) : Prop where
  first : readU32 tiff 4 = some 8
  zeroth : readIfd tiff 8 = some pic.file.zeroth
  exif : readIfd tiff pic.exifOffset = some pic.file.exif
  interop : readIfd tiff pic.interopOffset = some pic.file.interop
  gps : readIfd tiff pic.gpsOffset = some pic.file.gps
  atExif : pic.file.zeroth.pointer 0x8769 = some pic.exifOffset
  atInterop : pic.file.exif.pointer 0xA005 = some pic.interopOffset
  atGps : pic.file.zeroth.pointer 0x8825 = some pic.gpsOffset

/-- A finished segment gives its IFDs to the reader, whatever its size. -/
theorem readsBack_written (h : Written pic m) (hsize : pic.segmentSize < 2 ^ 32) :
    pic.ReadsBack (load m 10 (pic.segmentSize - 10)) := by
  obtain ⟨o₁, o₂, o₃, o₄⟩ := pic.offsets
  have xz : extent (pic.zerothFields pic.exifOffset pic.gpsOffset) = extent (pic.zerothFields 0 0) :=
    extent_zerothFields
  have xe : extent (pic.exifFields pic.interopOffset) = extent (pic.exifFields 0) := extent_exifFields
  obtain ⟨-, htiff⟩ := Holds.append_iff.mp h.header.tiff
  obtain ⟨-, hfirst⟩ := Holds.append_iff.mp htiff
  exact {
    first := readU32_of_holds hfirst (by omega)
    zeroth := readIfd_of_laid h.zeroth (by rw [length_zerothIfdTags]; decide)
      (show 8 + extent (pic.zerothFields pic.exifOffset pic.gpsOffset) ≤ _ by omega) (by omega)
    exif := readIfd_of_laid h.exif (by rw [Picture.length_exifTags]; decide)
      (show _ + extent (pic.exifFields pic.interopOffset) ≤ _ by omega) (by omega)
    interop := readIfd_of_laid h.interop (by decide) (by omega) (by omega)
    gps := readIfd_of_laid h.gps (Nat.lt_of_le_of_lt length_gpsIfdTags (by decide))
      (show _ + extent pic.gpsFields ≤ _ by omega) (by omega)
    atExif := pointer_exif (by omega)
    atInterop := pointer_interop (by omega)
    atGps := pointer_gps (by omega) }

/-- A finished segment of at most 65537 bytes reads back. -/
theorem readExif_written (h : Written pic m) (hsize : pic.segmentSize ≤ 65537) :
    readExif (load m 0 pic.segmentSize) = some pic.file := by
  obtain ⟨o₁, o₂, o₃, o₄⟩ := pic.offsets
  have hread := readsBack_written h (by omega)
  set n := pic.segmentSize with hn
  rw [show n - 10 = n - 2 - 8 from (Nat.sub_sub n 2 8).symm] at hread
  have hlen : (UInt16.ofNat (n - 2)).toNat = n - 2 :=
    UInt16.toNat_ofNat_of_lt' (show n - 2 < 2 ^ 16 by omega)
  obtain ⟨hmm, hfirst⟩ := Holds.append_iff.mp h.header.tiff
  obtain ⟨h2a, -⟩ := Holds.append_iff.mp hfirst
  have hcode : Holds m (2 + 2) [0x45, 0x78, 0x69, 0x66, 0, 0] := h.header.code
  have horder : Holds m (10 + 0) [0x4D, 0x4D, 0, 0x2A] := hmm.append h2a
  have h1 : readU16 (load m 0 n) 0 = some 0xFFE1 := readU16_of_holds h.header.marker (by omega)
  have h2 : readU16 (load m 0 n) 2 = some (.ofNat (n - 2)) :=
    readU16_of_holds (by rw [Nat.zero_add]; exact h.length) (by omega)
  have h3 : slice (load m 0 n) 2 (n - 2) = some (load m 2 (n - 2)) := slice_load (by omega)
  have h4 : slice (load m 2 (n - 2)) 2 6 = some [0x45, 0x78, 0x69, 0x66, 0, 0] :=
    hcode.slice_eq (show 2 + 6 ≤ n - 2 by omega)
  have h5 : slice (load m 2 (n - 2)) 8 (n - 2 - 8) = some (load m 10 (n - 2 - 8)) :=
    slice_load (by omega)
  have h6 : slice (load m 10 (n - 2 - 8)) 0 4 = some [0x4D, 0x4D, 0, 0x2A] :=
    horder.slice_eq (show 0 + 4 ≤ n - 2 - 8 by omega)
  have hfst : (8 : UInt32).toNat = 8 := rfl
  simp only [readExif, h1, h2, hlen, h3, h4, length_load, h5, h6, hread.first, hfst, hread.zeroth,
    hread.atExif, hread.exif, hread.atInterop, hread.interop, hread.atGps, hread.gps, guard, if_true,
    Option.bind_eq_bind, Option.bind_some, Option.pure_def]
  rfl

theorem ifdOf_ranges {off : Nat} {ts : List Tag} {q : Range} (h : q ∈ (ifdOf off ts).ranges) :
    off ≤ q.start ∧ q.start ≤ q.stop ∧ q.stop ≤ off + extent (ts.map Tag.field) :=
  range_laid h

/-- Where each IFD lies. -/
theorem Picture.file_ranges (pic : Picture) (q : Range) :
    (q ∈ pic.file.zeroth.ranges → 8 ≤ q.start ∧ q.stop ≤ 8 + extent (pic.zerothFields 0 0)) ∧
    (q ∈ pic.file.exif.ranges → pic.exifOffset ≤ q.start ∧ q.stop ≤ pic.interopOffset) ∧
    (q ∈ pic.file.interop.ranges → pic.interopOffset ≤ q.start ∧
      q.stop ≤ pic.interopOffset + extent (interopIfdTags.map Tag.field)) ∧
    (q ∈ pic.file.gps.ranges → pic.gpsOffset ≤ q.start ∧
      q.stop ≤ pic.gpsOffset + extent pic.gpsFields) := by
  refine ⟨fun h => ?_, fun h => ?_, fun h => ?_, fun h => ?_⟩
  · have xz : extent (pic.zerothFields pic.exifOffset pic.gpsOffset) =
      extent (pic.zerothFields 0 0) := extent_zerothFields
    obtain ⟨h1, -, h2⟩ := ifdOf_ranges h
    exact ⟨h1, Nat.le_trans h2 (Nat.le_of_eq (congrArg (8 + ·) xz))⟩
  · have xe : extent (pic.exifFields pic.interopOffset) = extent (pic.exifFields 0) :=
      extent_exifFields
    obtain ⟨h1, -, h2⟩ := ifdOf_ranges h
    exact ⟨h1, Nat.le_trans h2 (Nat.le_of_eq (congrArg (pic.exifOffset + ·) xe))⟩
  · obtain ⟨h1, -, h2⟩ := ifdOf_ranges h
    exact ⟨h1, h2⟩
  · obtain ⟨h1, -, h2⟩ := ifdOf_ranges h
    exact ⟨h1, h2⟩

theorem Picture.file_ranges_within {q : Range} (h : q ∈ pic.file.ranges) :
    10 + q.stop ≤ pic.segmentSize := by
  obtain ⟨o₁, o₂, o₃, o₄⟩ := pic.offsets
  obtain ⟨hz, he, hi, hg⟩ := pic.file_ranges q
  rw [ExifFile.ranges, List.mem_append, List.mem_append, List.mem_append] at h
  obtain h | h | h | h := h
  · have := hz h
    omega
  · have := he h
    omega
  · have := hi h
    omega
  · have := hg h
    omega

/-- The ranges come in the order in which they lie in the segment. -/
theorem Picture.file_ranges_sorted : pic.file.ranges.Pairwise fun q s => q.stop ≤ s.start := by
  obtain ⟨o₁, o₂, o₃, o₄⟩ := pic.offsets
  have ranges := pic.file_ranges
  rw [ExifFile.ranges, List.pairwise_append, List.pairwise_append, List.pairwise_append]
  refine ⟨pairwise_laid, ⟨pairwise_laid, ⟨pairwise_laid, pairwise_laid, ?_⟩, ?_⟩, ?_⟩
  · intro q hq s hs
    have := (ranges q).2.2.1 hq
    have := (ranges s).2.2.2 hs
    omega
  · intro q hq s hs
    have := (ranges q).2.1 hq
    rw [List.mem_append] at hs
    obtain hs | hs := hs
    · have := (ranges s).2.2.1 hs
      omega
    · have := (ranges s).2.2.2 hs
      omega
  · intro q hq s hs
    have := (ranges q).1 hq
    rw [List.mem_append, List.mem_append] at hs
    obtain hs | hs | hs := hs
    · have := (ranges s).2.1 hs
      omega
    · have := (ranges s).2.2.1 hs
      omega
    · have := (ranges s).2.2.2 hs
      omega

theorem decodes_of_written (h : Written pic m) (hsize : pic.segmentSize ≤ 65537) :
    Decodes pic m pic.segmentSize := by
  obtain ⟨o₁, o₂, o₃, o₄⟩ := pic.offsets
  have hlen : pic.file.length = pic.segmentSize - 2 := rfl
  refine ⟨pic.file, readExif_written h hsize, rfl, rfl, rfl, rfl, fun q hq => ?_, ?_, ?_⟩
  · have := Picture.file_ranges_within hq
    omega
  · exact Picture.file_ranges_sorted.imp fun hle => .inl hle
  · omega

end Reading

section Room

/-- Where a value of `k` bytes behind `o` ends, when it does not fit in its entry. -/
def valueEnd (o k : Nat) : Nat := if k ≤ 4 then o else evenUp o + k

/-- `count` of a text with its NUL, in `uint32_t`. -/
def cLength (s : List UInt8) : Nat := (s.length + 1) % 2 ^ 32

def Picture.nameRoom (pic : Picture) : Nat :=
  valueEnd (valueEnd (valueEnd 0 (cLength pic.vendorName)) (cLength pic.productName))
    (cLength pic.productName)

/-- Four rationals, the date three times and the microseconds three times. -/
def Picture.timeRoom (pic : Picture) : Nat :=
  let date := cLength (getDateTime pic.clock).1
  let subsec := cLength (getDateTime pic.clock).2
  valueEnd (valueEnd (valueEnd (valueEnd (valueEnd (valueEnd (valueEnd (valueEnd 16 date) date) date)
    8) 8) subsec) subsec) subsec

/-- Entries of the GPS groups that are there, and their values. -/
def Picture.gpsRoom (pic : Picture) : Nat :=
  let v := pic.values
  let coords := if v.gpsCoordsPresent then 24 + 24 + 8 else 0
  let stamp := if v.gpsTimestampPresent then valueEnd (coords + 24) (cLength v.gpsDatestamp) else coords
  let method :=
    if v.gpsProcMethodPresent then valueEnd stamp (v.gpsProcessingMethod.length % 2 ^ 32) else stamp
  12 * ((if v.gpsCoordsPresent then 6 else 0) + ((if v.gpsTimestampPresent then 2 else 0) +
    (if v.gpsProcMethodPresent then 1 else 0))) + method

/-- The bytes that the texts and the GPS groups take with the fixed parts around them: 18 of header,
tables of 5, 16 and 2 entries, and the GPS table. -/
def Picture.room (pic : Picture) : Nat :=
  10 + evenUp (evenUp (8 + (6 + 12 * 5 + pic.nameRoom)) + (6 + 12 * 16 + pic.timeRoom) +
    (6 + 12 * 2)) + (6 + pic.gpsRoom)

variable {o k : Nat} {id : UInt32} {s : List UInt8} {v : ExifTagValues}

theorem grow_eq {f : Field} : f.grow o = valueEnd o f.value.length := by
  rw [Field.grow, valueEnd]

theorem valueEnd_inline (h : k ≤ 4) : valueEnd o k = o := if_pos h

@[simp] theorem length_text : (Tag.text id s).field.value.length = s.length % 2 ^ 32 := by
  have hle := Nat.mod_le s.length (2 ^ 32)
  simp only [Tag.text, Tag.field, Value.bytes, List.length_take]
  omega

@[simp] theorem length_cString : (Tag.cString id s).field.value.length = cLength s := by
  rw [Tag.cString, length_text, List.length_append, List.length_singleton, cLength]

@[simp] theorem length_rational {x : Rational} : (Tag.rational id x).field.value.length = 8 := by
  simp [Tag.rational, Tag.field, Value.bytes]

@[simp] theorem length_rationals {x : Triple} : (Tag.rationals id x).field.value.length = 24 := by
  simp [Tag.rationals, Tag.field, Value.bytes]

@[simp] theorem length_long {x : UInt32} : (Tag.long id x).field.value.length = 4 := by
  simp [Tag.long, Tag.field, Value.bytes]

@[simp] theorem length_short {x : UInt16} : (Tag.short id x).field.value.length = 2 := by
  simp [Tag.short, Tag.field, Value.bytes]

@[simp] theorem length_byte {x : UInt8} : (Tag.byte id x).field.value.length = 1 := by
  simp [Tag.byte, Tag.field, Value.bytes]

theorem areaEnd_nil : areaEnd o [] = o := by
  rw [areaEnd, List.foldl_nil]

theorem areaEnd_zeroth : areaEnd 0 (pic.zerothFields 0 0) = pic.nameRoom := by
  simp -implicitDefEqProofs only [Picture.zerothFields, zerothIfdTags, nameTags, List.map_append, List.map_cons,
    List.map_nil, areaEnd_append, areaEnd_cons, areaEnd_nil, grow_eq, length_cString, length_long]
  simp -implicitDefEqProofs (disch := decide) only [valueEnd_inline, Picture.nameRoom]

theorem areaEnd_exif : areaEnd 0 (pic.exifFields 0) = pic.timeRoom := by
  have h16 : valueEnd (valueEnd 0 8) 8 = 16 := rfl
  simp -implicitDefEqProofs only [Picture.exifFields, Picture.exifTags, exifIfdTags, pictureTags, modeTags,
    List.map_append, List.map_cons, List.map_nil, areaEnd_append, areaEnd_cons, areaEnd_nil, grow_eq,
    length_cString, length_long, length_short, length_rational, h16]
  simp -implicitDefEqProofs (disch := decide) only [valueEnd_inline, Picture.timeRoom]

theorem areaEnd_coordinates : areaEnd 0 ((coordinateTags v).map Tag.field) =
    if v.gpsCoordsPresent then 24 + 24 + 8 else 0 := by
  unfold coordinateTags
  split
  · simp only [List.map_cons, List.map_nil, areaEnd_cons, areaEnd_nil, grow_eq, length_rationals,
      length_text, length_rational, length_byte, List.length_cons, List.length_nil]
    decide
  · rfl

theorem areaEnd_timestamp (ho : o % 2 = 0) : areaEnd o ((timestampTags v).map Tag.field) =
    if v.gpsTimestampPresent then valueEnd (o + 24) (cLength v.gpsDatestamp) else o := by
  unfold timestampTags
  split
  · have h24 : valueEnd o 24 = o + 24 := by
      simp [valueEnd, evenUp, ho]
    simp only [List.map_cons, List.map_nil, areaEnd_cons, areaEnd_nil, grow_eq, length_rationals, h24,
      length_cString]
  · rfl

theorem areaEnd_method : areaEnd o ((methodTags v).map Tag.field) =
    if v.gpsProcMethodPresent then valueEnd o (v.gpsProcessingMethod.length % 2 ^ 32) else o := by
  unfold methodTags
  split
  · simp only [List.map_cons, List.map_nil, areaEnd_cons, areaEnd_nil, grow_eq, length_text]
  · rfl

theorem length_gpsFields : pic.gpsFields.length =
    (if pic.values.gpsCoordsPresent then 6 else 0) +
      ((if pic.values.gpsTimestampPresent then 2 else 0) +
        (if pic.values.gpsProcMethodPresent then 1 else 0)) := by
  simp only [Picture.gpsFields, gpsIfdTags, List.map_append, List.length_append, List.length_map]
  unfold coordinateTags timestampTags methodTags
  congr 1
  · split <;> rfl
  · congr 1
    · split <;> rfl
    · split <;> rfl

theorem gpsRoom_eq : 12 * pic.gpsFields.length + areaEnd 0 pic.gpsFields = pic.gpsRoom := by
  rw [length_gpsFields]
  simp only [Picture.gpsFields, gpsIfdTags, List.map_append, areaEnd_append, areaEnd_coordinates]
  have heven : (if pic.values.gpsCoordsPresent then 24 + 24 + 8 else 0) % 2 = 0 := by split <;> rfl
  rw [areaEnd_timestamp heven, areaEnd_method, Picture.gpsRoom]

theorem gpsOffset_eq : pic.gpsOffset = evenUp (evenUp (8 + (6 + 12 * 5 + pic.nameRoom)) +
    (6 + 12 * 16 + pic.timeRoom) + (6 + 12 * 2)) := by
  have hinterop : extent (interopIfdTags.map Tag.field) = 6 + 12 * 2 := by decide
  have hzeroth : extent (pic.zerothFields 0 0) = 6 + 12 * 5 + pic.nameRoom := by
    rw [extent, areaEnd_zeroth, Picture.length_zerothFields, tableSize]
  have hexif : extent (pic.exifFields 0) = 6 + 12 * 16 + pic.timeRoom := by
    rw [extent, areaEnd_exif, Picture.length_exifFields, tableSize]
  rw [Picture.gpsOffset, Picture.interopOffset, Picture.exifOffset, hinterop, hzeroth, hexif]

/-- The segment takes exactly that room. -/
theorem segmentSize_eq_room : pic.segmentSize = pic.room := by
  have hgps := @gpsRoom_eq pic
  have hlast : extent pic.gpsFields = 6 + pic.gpsRoom := by
    rw [extent, tableSize]
    omega
  rw [Picture.segmentSize, gpsOffset_eq, hlast, Picture.room]

end Room

section Small

theorem length_le_extent {ts : List Tag} {t : Tag} (h : t ∈ ts) :
    t.value.bytes.length ≤ extent (ts.map Tag.field) := by
  have hle : t.field.value.length ≤ areaEnd 0 (ts.map Tag.field) + 4 :=
    length_le_areaEnd (List.mem_map.mpr ⟨t, h, rfl⟩)
  have hval : t.field.value.length = t.value.bytes.length := rfl
  rw [extent, tableSize]
  omega

theorem small_of_segmentSize (h : pic.segmentSize < 2 ^ 31) : pic.Small := by
  obtain ⟨o₁, o₂, o₃, o₄⟩ := pic.offsets
  refine ⟨fun t ht => ?_, fun t ht => ?_, fun t ht => ?_⟩
  · have hle : _ ≤ extent (pic.zerothFields 0 0) := length_le_extent ht
    omega
  · have hle : _ ≤ extent (pic.exifFields 0) := length_le_extent ht
    omega
  · have hle : _ ≤ extent pic.gpsFields := length_le_extent ht
    omega

/-- What a segment length covers is below 2^16. -/
theorem readExif_lengths {bs : List UInt8} {f : ExifFile} (h : readExif bs = some f) :
    ∃ tiff, tiff.length < 2 ^ 16 ∧ readIfd tiff f.zeroth.offset = some f.zeroth ∧
      readIfd tiff f.exif.offset = some f.exif ∧ readIfd tiff f.gps.offset = some f.gps := by
  have hoff : ∀ {tiff : List UInt8} {off : Nat} {ifd : Ifd}, readIfd tiff off = some ifd →
      ifd.offset = off := by
    intro tiff off ifd hr
    simp only [readIfd, Option.bind_eq_bind, Option.bind_eq_some_iff] at hr
    obtain ⟨d, -, tags, -, hr⟩ := hr
    obtain rfl := Option.some.inj hr
    rfl
  simp only [readExif, Option.bind_eq_bind, Option.bind_eq_some_iff] at h
  obtain ⟨-, -, length, -, segment, hseg, -, -, tiff, htiff, -, -, first, -, zeroth, hz, a, -, exif, he,
    b, -, interop, -, c, -, gps, hg, h⟩ := h
  obtain rfl := Option.some.inj h
  refine ⟨tiff, ?_, ?_, ?_, ?_⟩
  · have h1 := slice_eq_some hseg
    have h2 := slice_eq_some htiff
    have h3 := length.toNat_lt
    omega
  · rwa [hoff hz]
  · rwa [hoff he]
  · rwa [hoff hg]

theorem length_lt_of_readExif {bs : List UInt8} {f : ExifFile} (h : readExif bs = some f) :
    f.length < 2 ^ 16 := by
  simp only [readExif, Option.bind_eq_bind, Option.bind_eq_some_iff] at h
  obtain ⟨-, -, length, -, segment, -, -, -, tiff, -, -, -, first, -, zeroth, -, a, -, exif, -,
    b, -, interop, -, c, -, gps, -, h⟩ := h
  obtain rfl := Option.some.inj h
  exact length.toNat_lt

/-- Tags that were read back are not longer than the segment. -/
theorem small_of_recovered {tiff : List UInt8} {ifd : Ifd} {ts : List Tag} {t : Tag} {off : Nat}
    (hlen : tiff.length < 2 ^ 16) (h : readIfd tiff off = some ifd)
    (htags : ifd.tags = ts.map Tag.recovered) (ht : t ∈ ts) : t.value.bytes.length < 2 ^ 31 := by
  have hmem : t.recovered ∈ ifd.tags := by
    rw [htags]
    exact List.mem_map.mpr ⟨t, ht, rfl⟩
  have hle : t.recovered.value.bytes.length ≤ tiff.length := length_le_of_readIfd h hmem
  have hval : t.recovered.value = t.value := rfl
  rw [hval] at hle
  omega

theorem small_of_decodes (h : Decodes pic m n) : pic.Small := by
  obtain ⟨f, hf, hz, he, -, hg, -, -, -⟩ := h
  obtain ⟨tiff, hlen, rz, re, rg⟩ := readExif_lengths hf
  refine ⟨fun t ht => ?_, fun t ht => ?_, fun t ht => small_of_recovered hlen rg hg ht⟩
  -- the pointers are longs, whatever they hold
  · rw [zerothIfdTags, List.mem_append] at ht
    obtain ht | ht := ht
    · exact small_of_recovered hlen rz hz (List.mem_append_left _ ht)
    · simp only [List.mem_cons, List.not_mem_nil, or_false] at ht
      obtain rfl | rfl := ht <;> decide
  · rw [Picture.exifTags, exifIfdTags, List.mem_append] at ht
    obtain ht | ht := ht
    · exact small_of_recovered hlen re he (List.mem_append_left _ ht)
    · obtain rfl | ht := List.mem_cons.mp ht
      · decide
      · exact small_of_recovered hlen re he (List.mem_append_right _ (List.mem_cons_of_mem _ ht))

end Small

section Generate

theorem quiet_of_writeLongAt {off : Nat} {v : UInt32}
    (hov : (g.writeLongAt off v).overflowFlag = false) : g.overflowFlag = false :=
  (Out.writeLong_appends.back hov).1

theorem quiet_of_updateFields (hov : g.updateFields.overflowFlag = false) :
    g.overflowFlag = false := by
  rw [updateFields_eq] at hov
  exact quiet_of_writeLongAt (quiet_of_writeLongAt (quiet_of_writeLongAt
    (Out.writeShort_appends.back hov).1))

theorem writeExifData_quiet (hov : (writeExifData pic g).1.overflowFlag = false) :
    (g.writeHeader.writeIfds pic).updateFields.overflowFlag = false ∧
      (writeExifData pic g).1.exifBuffer = (g.writeHeader.writeIfds pic).updateFields.exifBuffer ∧
      (writeExifData pic g).2 = (g.writeHeader.writeIfds pic).updateFields.currentOffset := by
  unfold writeExifData at hov ⊢
  generalize (g.writeHeader.writeIfds pic).updateFields = g' at *
  cases hflag : g'.overflowFlag with
  | false => simp [hflag]
  | true =>
    simp only [hflag, if_true, Bool.true_and] at hov
    split at hov
    · exact absurd hov (by simp [hflag])
    · exact absurd hov (by simp [hflag])

/-- Without an overflow the segment is written and its size returned. -/
theorem writeExifData_written (hcur : g.currentOffset = 0) (hhelp : g.helperBufferOffset = 0)
    (hsmall : pic.Small) (hov : (writeExifData pic g).1.overflowFlag = false) :
    Written pic (writeExifData pic g).1.exifBuffer ∧
      (writeExifData pic g).2 = pic.segmentSize := by
  obtain ⟨hquiet, hbuf, hsize⟩ := writeExifData_quiet hov
  have hready := writeHeader_ready hcur hhelp
  have hdrawn := writeIfds_drawn hready hsmall (quiet_of_updateFields hquiet)
  obtain ⟨-, hwritten, hcurrent, -⟩ := updateFields_written hdrawn hquiet
  rw [hbuf, hsize, hcurrent]
  exact ⟨hwritten, rfl⟩

theorem helperOffset_updateFields : g.updateFields.helperBufferOffset = g.helperBufferOffset := rfl

theorem helperOffset_writeGpsIfd {v : ExifTagValues} : (g.writeGpsIfd v).helperBufferOffset = 0 := by
  simp only [writeGpsIfd, onIfd, IfdWriter.endWritingIfd, IfdWriter.copyHelper]

theorem helperOffset_writeExifData : (writeExifData pic g).1.helperBufferOffset = 0 := by
  have h : (g.writeHeader.writeIfds pic).updateFields.helperBufferOffset = 0 := by
    rw [helperOffset_updateFields, writeIfds]
    exact helperOffset_writeGpsIfd
  unfold writeExifData
  generalize (g.writeHeader.writeIfds pic).updateFields = g' at *
  dsimp only
  split <;> split <;> exact h

/-- A call as a step of the generator. -/
def call (p : Platform F D) (g : ExifGenerator) (r : Request F D) : Option ExifGenerator :=
  (generate p g r).map Prod.fst

theorem generate_cases (h : generate p g r = some (g', n)) :
    (r.buffer = none ∧ g' = g) ∨
    ∃ buffer v, r.buffer = some buffer ∧ extractExifTagValues p r.metadata = some v ∧
      writeExifData (r.picture v) (fresh buffer g) = (g', n) := by
  unfold generate at h
  split at h
  · next hb =>
    obtain ⟨rfl, -⟩ := Prod.mk.inj (Option.some.inj h)
    exact .inl ⟨hb, rfl⟩
  · next buffer hb =>
    obtain ⟨v, hv, h⟩ := Option.bind_eq_some_iff.mp h
    exact .inr ⟨buffer, v, hb, hv, Option.some.inj h⟩

/-- Nothing stays staged between calls. -/
theorem helperOffset_of_run {helper : Nat → UInt8} {rs : List (Request F D)}
    (h : LTS.run (call p) (init helper) rs = some g) : g.helperBufferOffset = 0 := by
  have hinv : (LTS.ofStep (call p)).TrInv fun g => g.helperBufferOffset = 0 := by
    intro g r g' hstep hg
    obtain ⟨⟨g'', n⟩, hgen, rfl⟩ := Option.map_eq_some_iff.mp hstep
    obtain ⟨-, rfl⟩ | ⟨buffer, v, -, -, heq⟩ := generate_cases hgen
    · exact hg
    · have h := @helperOffset_writeExifData (fresh buffer g) (r.picture v)
      rw [heq] at h
      exact h
  have hinit : (init helper).helperBufferOffset = 0 := rfl
  have hm := LTS.mTr_ofStep_iff.mpr h
  exact LTS.inv_of_mTr (P := fun g => g.helperBufferOffset = 0) hinv hm hinit

theorem decodes_iff_of_nothing_staged {buffer : Nat → UInt8} {v : ExifTagValues}
    (hstart : g.helperBufferOffset = 0) (hbuffer : r.buffer = some buffer)
    (hv : extractExifTagValues p r.metadata = some v) (h : generate p g r = some (g', n))
    (hov : g'.overflowFlag = false) :
    Decodes (r.picture v) g'.exifBuffer n ↔ (r.picture v).room ≤ 65537 := by
  obtain ⟨hnone, -⟩ | ⟨buffer', v', -, hv', heq⟩ := generate_cases h
  · rw [hbuffer] at hnone
    cases hnone
  · obtain rfl := Option.some.inj (hv.symm.trans hv')
    have hwrite : (r.picture v).Small → Written (r.picture v) g'.exifBuffer ∧
        n = (r.picture v).segmentSize := by
      intro hsmall
      have hhelp : (fresh buffer' g).helperBufferOffset = 0 := hstart
      have h := writeExifData_written rfl hhelp hsmall
      rw [heq] at h
      exact h hov
    rw [← segmentSize_eq_room]
    constructor
    · intro hdec
      obtain ⟨-, hsize⟩ := hwrite (small_of_decodes hdec)
      obtain ⟨f, hf, -, -, -, -, -, -, hlen⟩ := hdec
      have hlt := length_lt_of_readExif hf
      omega
    · intro hroom
      obtain ⟨hwritten, hsize⟩ := hwrite (small_of_segmentSize (by omega))
      rw [hsize]
      exact decodes_of_written hwritten hroom

/-- Whatever was generated before, a call that does not overflow gives a segment that reads back if
and only if the names, the texts and the GPS groups take at most 65537 bytes with what surrounds
them: the last IFD's values are copied without a check. -/
theorem decodes_iff_room {helper : Nat → UInt8} {rs : List (Request F D)} {buffer : Nat → UInt8}
    {v : ExifTagValues} (hrun : LTS.run (call p) (init helper) rs = some g)
    (hbuffer : r.buffer = some buffer) (hv : extractExifTagValues p r.metadata = some v)
    (h : generate p g r = some (g', n)) (hov : g'.overflowFlag = false) :
    Decodes (r.picture v) g'.exifBuffer n ↔ (r.picture v).room ≤ 65537 :=
  decodes_iff_of_nothing_staged (helperOffset_of_run hrun) hbuffer hv h hov

/-- A first call on a picture with room for its tables. -/
theorem generate_of_fits {helper buffer : Nat → UInt8} {v : ExifTagValues}
    (hbuffer : r.buffer = some buffer) (hv : extractExifTagValues p r.metadata = some v)
    (hsmall : (r.picture v).Small) (hfits : (r.picture v).Fits) :
    ∃ g' n, generate p (init helper) r = some (g', n) ∧ g'.overflowFlag = false := by
  refine ⟨(writeExifData (r.picture v) (fresh buffer (init helper))).1,
    (writeExifData (r.picture v) (fresh buffer (init helper))).2, ?_, ?_⟩
  · simp [generate, hbuffer, hv]
  · exact writeExifData_fits rfl rfl rfl hsmall hfits

theorem fits_of_room {v : ExifTagValues} (hnames : (r.picture v).nameRoom < 65535)
    (htime : (r.picture v).timeRoom < 65535) (hgps : (r.picture v).gpsRoom < 65535)
    (htables : 10 + evenUp (evenUp (8 + (6 + 12 * 5 + (r.picture v).nameRoom)) +
      (6 + 12 * 16 + (r.picture v).timeRoom) + (6 + 12 * 2)) + (6 + 12 * 9) < 65535) :
    (r.picture v).Fits := by
  have hmax : kMaxExifApp1Length = 65535 := rfl
  have hroom := @gpsRoom_eq (r.picture v)
  have hlen : (r.picture v).gpsFields.length ≤ 9 := by
    rw [Picture.gpsFields, List.length_map]
    exact length_gpsIfdTags
  refine ⟨?_, ?_, ?_, ?_⟩
  · rw [areaEnd_zeroth]
    omega
  · rw [areaEnd_exif]
    omega
  · omega
  · rw [gpsOffset_eq, tableSize]
    omega

/-- The one coordinate is 0.0 and the one time the epoch. -/
def epochPlatform : Platform Unit Unit where
  expTimeToFraction := fun _ => .zero
  focalLengthMilli := fun _ => 0
  apexMilli := fun _ => 0
  isNegative := fun _ => false
  degrees := fun _ => (0, 0, 0)
  altitudeMilli := fun _ => 0
  gmtime := fun _ => some ⟨0, 0, 0, [49, 57, 55, 48, 58, 48, 49, 58, 48, 49], by decide⟩

/-- A picture at the epoch with all GPS groups. -/
def epochRequest (vendorName : List UInt8) : Request Unit Unit where
  metadata :=
    { jpegGpsCoordinates := some ((), (), ())
      jpegGpsTimestamp := some 0
      jpegGpsProcessingMethod := some [71, 80, 83] }
  vendorName := vendorName
  productName := []
  width := 640
  height := 480
  buffer := some fun _ => 0
  clock := ⟨1970, 1, 1, 0, 0, 0, 0⟩

def epochValues : ExifTagValues where
  latitude := ⟨⟨0, 1⟩, ⟨0, 1⟩, ⟨0, 10000⟩⟩
  latitudeReference := 78
  longitude := ⟨⟨0, 1⟩, ⟨0, 1⟩, ⟨0, 10000⟩⟩
  longitudeReference := 69
  altitude := ⟨0, 1000⟩
  gpsTimestamp := ⟨⟨0, 1⟩, ⟨0, 1⟩, ⟨0, 1⟩⟩
  gpsDatestamp := [49, 57, 55, 48, 58, 48, 49, 58, 48, 49]
  gpsProcessingMethod := [65, 83, 67, 73, 73, 0, 0, 0, 71, 80, 83, 0]
  gpsCoordsPresent := true
  gpsTimestampPresent := true
  gpsProcMethodPresent := true

section Epoch

variable {vendorName : List UInt8}

theorem epoch_extract :
    extractExifTagValues epochPlatform (epochRequest vendorName).metadata = some epochValues := rfl

theorem epoch_nameRoom (h : 4 ≤ vendorName.length) (hlt : vendorName.length < 2 ^ 16) :
    ((epochRequest vendorName).picture epochValues).nameRoom = vendorName.length + 1 := by
  have hv : cLength vendorName = vendorName.length + 1 := Nat.mod_eq_of_lt (by omega)
  have hp : cLength ([] : List UInt8) = 1 := rfl
  simp only [Picture.nameRoom, Request.picture, epochRequest, hv, hp]
  rw [valueEnd_inline (by decide), valueEnd_inline (by decide), valueEnd, if_neg (by omega)]
  simp [evenUp]

theorem epoch_timeRoom : ((epochRequest vendorName).picture epochValues).timeRoom = 115 := by
  have htime : getDateTime ⟨1970, 1, 1, 0, 0, 0, 0⟩ =
      ([49, 57, 55, 48, 58, 48, 49, 58, 48, 49, 32, 48, 48, 58, 48, 48, 58, 48, 48],
        [48, 48, 48, 48, 48, 48]) := by
    decide
  simp only [Picture.timeRoom, Request.picture, epochRequest, htime, cLength]
  decide

theorem epoch_gpsRoom : ((epochRequest vendorName).picture epochValues).gpsRoom = 212 := by
  simp only [Picture.gpsRoom, Request.picture, epochValues, cLength, if_true]
  decide

theorem epoch_room (h : 4 ≤ vendorName.length) (hlt : vendorName.length < 2 ^ 16) :
    ((epochRequest vendorName).picture epochValues).room =
      10 + evenUp (evenUp (75 + vendorName.length) + 343) + 218 := by
  rw [Picture.room, epoch_nameRoom h hlt, epoch_timeRoom, epoch_gpsRoom]
  unfold evenUp
  omega

theorem epoch_generated (helper : Nat → UInt8) (h : 4 ≤ vendorName.length)
    (hlt : vendorName.length ≤ 64991) :
    ∃ g' n, generate epochPlatform (init helper) (epochRequest vendorName) = some (g', n) ∧
      g'.overflowFlag = false := by
  have hn := epoch_nameRoom h (by omega)
  have ht := @epoch_timeRoom vendorName
  have hg := @epoch_gpsRoom vendorName
  refine generate_of_fits rfl epoch_extract (small_of_segmentSize ?_) (fits_of_room ?_ ?_ ?_ ?_)
  · rw [segmentSize_eq_room, epoch_room h (by omega)]
    unfold evenUp
    omega
  · omega
  · omega
  · omega
  · rw [hn, ht]
    unfold evenUp
    omega

end Epoch

theorem decodes_iff_room_short_vendorName : ∃ g' n,
    generate epochPlatform (init fun _ => 0) (epochRequest [81, 67, 79, 77]) = some (g', n) ∧
    g'.overflowFlag = false ∧
    Decodes ((epochRequest [81, 67, 79, 77]).picture epochValues) g'.exifBuffer n := by
  have hlen : ([81, 67, 79, 77] : List UInt8).length = 4 := rfl
  obtain ⟨g', n, hgen, hov⟩ := @epoch_generated [81, 67, 79, 77] (fun _ => 0) (by decide) (by decide)
  have hrun : LTS.run (call epochPlatform) (init fun _ => 0) [] = some (init fun _ => 0) := rfl
  have hroom := @epoch_room [81, 67, 79, 77] (by decide) (by decide)
  refine ⟨g', n, hgen, hov, (decodes_iff_room hrun rfl epoch_extract hgen hov).mpr ?_⟩
  rw [hroom]
  decide

/-- A vendor name of 64991 bytes: the tables fit, the values of the GPS IFD do not. -/
theorem long_vendorName_not_decoded : ∃ g' n,
    generate epochPlatform (init fun _ => 0) (epochRequest (List.replicate 64991 65)) =
      some (g', n) ∧
    g'.overflowFlag = false ∧
    ¬ Decodes ((epochRequest (List.replicate 64991 65)).picture epochValues) g'.exifBuffer n := by
  have hlen : (List.replicate 64991 (65 : UInt8)).length = 64991 := List.length_replicate
  generalize List.replicate 64991 (65 : UInt8) = name at *
  obtain ⟨g', n, hgen, hov⟩ := @epoch_generated name (fun _ => 0) (by omega) (by omega)
  refine ⟨g', n, hgen, hov, fun hdec => ?_⟩
  have hroom := (decodes_iff_of_nothing_staged rfl rfl epoch_extract hgen hov).mp hdec
  rw [epoch_room (by omega) (by omega), hlen] at hroom
  exact absurd hroom (by decide)

end Generate

end ExifGenerator

end QmmfSdk.Exif
