import QmmfSdk.Exif.Decode

/-! `ExifConverter`, which the encoder gets its tags from: what it makes of a segment of
`ExifGenerator`. -/
namespace QmmfSdk.Exif

open Library

/-- `qmmf_exif_tag_t` as the converter fills it; `none` is a union that was only zeroed. -/
structure Entity where
  id : UInt32
  type : UInt16
  count : UInt32
  data : Option Value
  deriving DecidableEq

/-- `qmmf_exif_tag_t tag{}`. -/
def Entity.zero : Entity := ⟨0, 0, 0, none⟩

def Tag.entity (t : Tag) : Entity := ⟨t.id, t.value.type.code, .ofNat t.value.count, some t.value⟩

/-- `kMaxExifEntries`. -/
def kMaxExifEntries : Nat := 23

/-- The cases of `getTagIdByExifId`; the last two are above what two bytes can hold. -/
def exifIds : List (UInt32 × UInt32) :=
  [(0x0112, TagId.orientation), (0x8769, TagId.exifIfdPtr), (0x8825, TagId.gpsIfdPtr),
   (0x829a, TagId.exposureTime), (0x829d, TagId.fNumber), (0x8827, TagId.isoSpeedRating),
   (0x9202, TagId.aperture), (0x920a, TagId.focalLength), (0xa002, TagId.exifPixelXDimension),
   (0xa003, TagId.exifPixelYDimension), (0xa005, TagId.interopIfdPtr),
   (0xa403, TagId.whiteBalance), (0xa402, TagId.exposureMode), (0x0132, TagId.dateTime),
   (0x9003, TagId.exifDateTimeOriginal), (0x9004, TagId.exifDateTimeDigitized),
   (0x9290, TagId.subsecTime), (0x9291, TagId.subsecTimeOriginal),
   (0x9292, TagId.subsecTimeDigitized), (0x010f, TagId.make), (0x0110, TagId.model),
   (0x0131, TagId.software), (0x0001, TagId.gpsLatitudeRef), (0x0002, TagId.gpsLatitude),
   (0x0003, TagId.gpsLongitudeRef), (0x0004, TagId.gpsLongitude), (0x0005, TagId.gpsAltitudeRef),
   (0x0006, TagId.gpsAltitude), (0x0007, TagId.gpsTimestamp), (0x001d, TagId.gpsDatestamp),
   (0x001b, TagId.gpsProcessingMethod), (TagId.interopIndex, TagId.interopIndex),
   (TagId.interopVersion, TagId.interopVersion)]

def getTagIdByExifId (exifId : UInt32) : UInt32 := (exifIds.lookup exifId).getD 0

structure ExifConverter where
  exifEntities : List Entity := []
  exifIfdPtrOffset : UInt32 := 0
  interopIfdPtrOffset : UInt32 := 0
  gpsIfdPtrOffset : UInt32 := 0
  tiffHeaderOffset : UInt32 := 0

namespace ExifConverter

def readU16 (buffer : Nat → UInt8) (offset : UInt32) : UInt16 :=
  decodeBe16 (buffer offset.toNat) (buffer (offset + 1).toNat)

def readU32 (buffer : Nat → UInt8) (offset : UInt32) : UInt32 :=
  decodeBe32 (buffer offset.toNat) (buffer (offset + 1).toNat) (buffer (offset + 2).toNat)
    (buffer (offset + 3).toNat)

/-- `constructExifTag`. -/
def constructExifTag (id count : UInt32) (type : UInt16) (data : Value) (c : ExifConverter) :
    ExifConverter :=
  { c with exifEntities := c.exifEntities ++ [⟨id, type, count, some data⟩] }

/-- The loop over the elements of a rational tag. -/
def readRationals (binary : Nat → UInt8) : Nat → UInt32 → List Rational
  | 0, _ => []
  | n + 1, off =>
    ⟨readU32 binary off, readU32 binary (off + 4)⟩ :: readRationals binary n (off + 8)

/-- The place of the data of a tag that does not hold it itself. -/
def dataOffset (binary : Nat → UInt8) (offset : UInt32) (c : ExifConverter) : UInt32 :=
  readU32 binary offset + c.tiffHeaderOffset

/-- The new offset, `none` for `BAD_VALUE`. -/
def getTagDataByTagType (binary : Nat → UInt8) (offset id : UInt32) (type : UInt16) (count : UInt32)
    (c : ExifConverter) : ExifConverter × Option UInt32 :=
  if kMaxExifApp1Length ≤ offset.toNat then (c, none)
  else match type.toNat with
  | 3 => (c.constructExifTag id count type (.short (readU16 binary offset) []), some (offset + 4))
  | 4 =>
    let v := readU32 binary offset
    let c :=
      if id = TagId.exifIfdPtr then { c with exifIfdPtrOffset := v + 10 }
      else if id = TagId.gpsIfdPtr then { c with gpsIfdPtrOffset := v + 10 }
      else if id = TagId.interopIfdPtr then { c with interopIfdPtrOffset := v + 10 }
      else c.constructExifTag id count type (.long v [])
    (c, some (offset + 4))
  | 5 =>
    let at_ := c.dataOffset binary offset
    let first : Rational := ⟨readU32 binary at_, readU32 binary (at_ + 4)⟩
    -- one element at least is read, whatever `count` is
    let others := readRationals binary (count.toNat - 1) (at_ + 8)
    (c.constructExifTag id count type (.rational first others), some (offset + 4))
  | 2 =>
    let at_ := if count.toNat ≤ 4 then offset else c.dataOffset binary offset
    (c.constructExifTag id count type (.ascii (load binary at_.toNat count.toNat)),
      some (offset + 4))
  -- `binary[offset] << 8`, cut to a byte
  | 1 =>
    (c.constructExifTag id count type (.byte (.ofNat ((binary offset.toNat).toNat <<< 8)) []),
      some (offset + 4))
  | _ => (c, none)

/-- The loop of `parseIfd` with `n` tags to go. -/
def parseTags (binary : Nat → UInt8) : Nat → UInt32 → ExifConverter → ExifConverter × Option UInt32
  | 0, offset, c => (c, some offset)
  | n + 1, offset, c =>
    let id := getTagIdByExifId (readU16 binary offset).toUInt32
    let type := readU16 binary (offset + 2)
    let count := readU32 binary (offset + 4)
    match c.getTagDataByTagType binary (offset + 8) id type count with
    | (c, none) => (c, none)
    | (c, some offset) => parseTags binary n offset c

def parseIfd (binary : Nat → UInt8) (offset : UInt32) (c : ExifConverter) :
    ExifConverter × Option UInt32 :=
  if kMaxExifApp1Length ≤ offset.toNat then (c, none)
  else parseTags binary (readU16 binary offset).toNat (offset + 2) c

/-- The 0th, the Exif and the GPS IFD; whether all went well. -/
def parseIfds (binary : Nat → UInt8) (c : ExifConverter) : ExifConverter × Bool :=
  match c.parseIfd binary 18 with
  | (c, none) => (c, false)
  | (c, some _) =>
    match c.parseIfd binary c.exifIfdPtrOffset with
    | (c, none) => (c, false)
    | (c, some _) =>
      match c.parseIfd binary c.gpsIfdPtrOffset with
      | (c, none) => (c, false)
      | (c, some _) => (c, true)

/-- What the members are set to first: `resize` puts `kMaxExifEntries` zeroed tags in the list. -/
def cleared : ExifConverter := { exifEntities := List.replicate kMaxExifEntries .zero }

/-- `true` for `NO_ERROR`; `none` is a null pointer. -/
def convertExifBinaryToExifInfoStruct (binary : Option (Nat → UInt8)) (c : ExifConverter) :
    ExifConverter × Bool :=
  match binary with
  | none => (c, false)
  | some binary =>
    if readU16 binary 0 ≠ 0xFFE1 then (cleared, false)
    else if readU32 binary 4 ≠ 0x45786966 then (cleared, false)
    else
      let c := { cleared with tiffHeaderOffset := 10 }
      if readU16 binary 10 ≠ 0x4D4D then (c, false)
      else if readU16 binary 12 ≠ 0x002A then (c, false)
      else if readU32 binary 14 ≠ 8 then (c, false)
      else c.parseIfds binary

section Grows

variable {binary : Nat → UInt8} {c : ExifConverter}

/-- The tags of `c'` are those of `c` and some more. -/
def Grows (c c' : ExifConverter) : Prop := ∃ es, c'.exifEntities = c.exifEntities ++ es

theorem Grows.refl : Grows c c := ⟨[], (List.append_nil _).symm⟩

theorem Grows.trans {c' c'' : ExifConverter} (h : Grows c c') (h' : Grows c' c'') : Grows c c'' := by
  obtain ⟨es, hes⟩ := h
  obtain ⟨es', hes'⟩ := h'
  refine ⟨es ++ es', ?_⟩
  rw [hes', hes, List.append_assoc]

theorem constructExifTag_grows {id count : UInt32} {type : UInt16} {data : Value} :
    Grows c (c.constructExifTag id count type data) :=
  ⟨_, rfl⟩

theorem getTagDataByTagType_grows {offset id count : UInt32} {type : UInt16} :
    Grows c (c.getTagDataByTagType binary offset id type count).1 := by
  unfold getTagDataByTagType
  split
  · exact .refl
  · split
    · exact constructExifTag_grows
    · dsimp only
      split
      · exact .refl
      · split
        · exact .refl
        · split
          · exact .refl
          · exact constructExifTag_grows
    · exact constructExifTag_grows
    · exact constructExifTag_grows
    · exact constructExifTag_grows
    · exact .refl

theorem parseTags_grows {n : Nat} {offset : UInt32} :
    Grows c (parseTags binary n offset c).1 := by
  induction n generalizing c offset with
  | zero => exact .refl
  | succ n ih =>
    unfold parseTags
    dsimp only
    generalize getTagIdByExifId _ = id
    generalize readU16 _ _ = type
    generalize readU32 _ _ = count
    have hstep := @getTagDataByTagType_grows binary c (offset + 8) id count type
    split
    · next c' heq =>
      rw [heq] at hstep
      exact hstep
    · next c' offset' heq =>
      rw [heq] at hstep
      exact hstep.trans ih

theorem parseIfd_grows {offset : UInt32} : Grows c (c.parseIfd binary offset).1 := by
  unfold parseIfd
  split
  · exact .refl
  · exact parseTags_grows

theorem parseIfds_grows : Grows c (c.parseIfds binary).1 := by
  unfold parseIfds
  have h₁ := @parseIfd_grows binary c 18
  split
  · next c₁ heq₁ => rwa [heq₁] at h₁
  · next c₁ _ heq₁ =>
    rw [heq₁] at h₁
    have h₂ := @parseIfd_grows binary c₁ c₁.exifIfdPtrOffset
    split
    · next c₂ heq₂ =>
      rw [heq₂] at h₂
      exact h₁.trans h₂
    · next c₂ _ heq₂ =>
      rw [heq₂] at h₂
      have h₃ := @parseIfd_grows binary c₂ c₂.gpsIfdPtrOffset
      split
      · next c₃ heq₃ =>
        rw [heq₃] at h₃
        exact (h₁.trans h₂).trans h₃
      · next c₃ _ heq₃ =>
        rw [heq₃] at h₃
        exact (h₁.trans h₂).trans h₃

/-- The zeroed tags stay in front. -/
theorem convert_starts_zeroed : ∃ es,
    (convertExifBinaryToExifInfoStruct (some binary) c).1.exifEntities =
      List.replicate kMaxExifEntries .zero ++ es := by
  have hclear : Grows cleared cleared := .refl
  unfold convertExifBinaryToExifInfoStruct
  dsimp only
  split
  · exact hclear
  · split
    · exact hclear
    · split
      · exact hclear
      · split
        · exact hclear
        · split
          · exact hclear
          · exact parseIfds_grows

end Grows

end ExifConverter

open ExifGenerator

variable {F D : Type} {p : Platform F D} {g g' : ExifGenerator} {r : Request F D} {n : Int}

def Tag.isPointer (t : Tag) : Bool :=
  t.id = TagId.exifIfdPtr || t.id = TagId.gpsIfdPtr || t.id = TagId.interopIfdPtr

/-- The tags of the 0th, the Exif and the GPS IFD that are not pointers. -/
def ExifGenerator.Picture.plainTags (pic : Picture) : List Tag :=
  (zerothIfdTags pic.vendorName pic.productName 0 0 ++ pic.exifTags 0 ++
    gpsIfdTags pic.values).filter fun t => !t.isPointer

/-- The converter accepts the bytes and lists exactly the tags of the picture. -/
def Undoes (c : ExifConverter) (binary : Nat → UInt8) (pic : Picture) : Prop :=
  (c.convertExifBinaryToExifInfoStruct (some binary)).2 = true ∧
    (c.convertExifBinaryToExifInfoStruct (some binary)).1.exifEntities =
      pic.plainTags.map Tag.entity

theorem head_plainTags {pic : Picture} : (pic.plainTags.map Tag.entity).head? =
    some (Tag.cString TagId.make pic.vendorName).entity := by
  have hfirst : zerothIfdTags pic.vendorName pic.productName 0 0 ++ pic.exifTags 0 ++
      gpsIfdTags pic.values = .cString TagId.make pic.vendorName ::
        (zerothIfdTags pic.vendorName pic.productName 0 0 ++ pic.exifTags 0 ++
          gpsIfdTags pic.values).tail := rfl
  have hplain : (!(Tag.cString TagId.make pic.vendorName).isPointer) = true := by
    show (!(TagId.make = TagId.exifIfdPtr || TagId.make = TagId.gpsIfdPtr ||
      TagId.make = TagId.interopIfdPtr : Bool)) = true
    decide
  rw [Picture.plainTags, hfirst, List.filter_cons, if_pos hplain]
  rfl

theorem not_undoes (c : ExifConverter) (binary : Nat → UInt8) (pic : Picture) :
    ¬ Undoes c binary pic := by
  rintro ⟨-, heq⟩
  obtain ⟨es, hes⟩ := @ExifConverter.convert_starts_zeroed binary c
  have hhead := @head_plainTags pic
  rw [← heq, hes] at hhead
  have hid : Entity.zero.id = (Tag.cString TagId.make pic.vendorName).entity.id :=
    congrArg Entity.id (Option.some.inj hhead)
  exact absurd hid (show ¬ (0 : UInt32) = TagId.make by decide)

/-- No generated segment is turned back into the tags it was made of: the list starts with zeroed
tags. -/
theorem generated_never_undone (c : ExifConverter) (v : ExifTagValues) :
    extractExifTagValues p r.metadata = some v → generate p g r = some (g', n) →
      g'.overflowFlag = false → ¬ Undoes c g'.exifBuffer (r.picture v) := by
  intro _ _ _
  exact not_undoes c g'.exifBuffer (r.picture v)

theorem generated_never_undone_short_vendorName : ∃ g' n,
    generate epochPlatform (init fun _ => 0) (epochRequest [81, 67, 79, 77]) = some (g', n) ∧
    g'.overflowFlag = false ∧
    ¬ Undoes {} g'.exifBuffer ((epochRequest [81, 67, 79, 77]).picture epochValues) := by
  obtain ⟨g', n, hgen, hov⟩ := @epoch_generated [81, 67, 79, 77] (fun _ => 0) (by decide) (by decide)
  exact ⟨g', n, hgen, hov, generated_never_undone {} epochValues epoch_extract hgen hov⟩

/-- The first tag listed is a zeroed one, not the vendor name. -/
theorem short_vendorName_not_undone : ∃ g' n,
    generate epochPlatform (init fun _ => 0) (epochRequest [81, 67, 79, 77]) = some (g', n) ∧
    g'.overflowFlag = false ∧
    ((ExifConverter.convertExifBinaryToExifInfoStruct (some g'.exifBuffer) {}).1.exifEntities.head? =
      some .zero) ∧
    ¬ Undoes {} g'.exifBuffer ((epochRequest [81, 67, 79, 77]).picture epochValues) := by
  obtain ⟨g', n, hgen, hov⟩ := @epoch_generated [81, 67, 79, 77] (fun _ => 0) (by decide) (by decide)
  obtain ⟨es, hes⟩ := @ExifConverter.convert_starts_zeroed g'.exifBuffer {}
  refine ⟨g', n, hgen, hov, ?_, not_undoes _ _ _⟩
  rw [hes]
  rfl

end QmmfSdk.Exif
