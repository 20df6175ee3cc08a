import QmmfSdk.Exif.Converter

/-! Which bytes `ExifConverter` reads, and when they all lie in the array. -/
namespace QmmfSdk.Exif

open Library

namespace ExifConverter

section Cells

variable (binary : Nat → UInt8)

def cellsU16 (offset : UInt32) : List Nat := [offset.toNat, (offset + 1).toNat]

def cellsU32 (offset : UInt32) : List Nat :=
  [offset.toNat, (offset + 1).toNat, (offset + 2).toNat, (offset + 3).toNat]

def cellsRationals : Nat → UInt32 → List Nat
  | 0, _ => []
  | n + 1, off => cellsU32 off ++ cellsU32 (off + 4) ++ cellsRationals n (off + 8)

/-- What `getTagDataByTagType` reads; a text is copied with `memcpy`. -/
def cellsTag (offset : UInt32) (type : UInt16) (count : UInt32) (c : ExifConverter) : List Nat :=
  if kMaxExifApp1Length ≤ offset.toNat then []
  else match type.toNat with
  | 3 => cellsU16 offset
  | 4 => cellsU32 offset
  | 5 => cellsU32 offset ++ cellsRationals (count.toNat - 1 + 1) (c.dataOffset binary offset)
  | 2 =>
    if count.toNat ≤ 4 then List.range' offset.toNat count.toNat
    else cellsU32 offset ++ List.range' (c.dataOffset binary offset).toNat count.toNat
  | 1 => [offset.toNat]
  | _ => []

/-- What the loop of `parseIfd` reads. -/
def cellsTags : Nat → UInt32 → ExifConverter → List Nat
  | 0, _, _ => []
  | n + 1, offset, c =>
    let id := getTagIdByExifId (readU16 binary offset).toUInt32
    let type := readU16 binary (offset + 2)
    let count := readU32 binary (offset + 4)
    cellsU16 offset ++ cellsU16 (offset + 2) ++ cellsU32 (offset + 4) ++
      cellsTag binary (offset + 8) type count c ++
      match c.getTagDataByTagType binary (offset + 8) id type count with
      | (_, none) => []
      | (c, some offset) => cellsTags n offset c

def cellsIfd (offset : UInt32) (c : ExifConverter) : List Nat :=
  if kMaxExifApp1Length ≤ offset.toNat then []
  else cellsU16 offset ++ cellsTags binary (readU16 binary offset).toNat (offset + 2) c

def cellsIfds (c : ExifConverter) : List Nat :=
  cellsIfd binary 18 c ++
    match c.parseIfd binary 18 with
    | (_, none) => []
    | (c, some _) =>
      cellsIfd binary c.exifIfdPtrOffset c ++
        match c.parseIfd binary c.exifIfdPtrOffset with
        | (_, none) => []
        | (c, some _) => cellsIfd binary c.gpsIfdPtrOffset c

/-- What `convertExifBinaryToExifInfoStruct` reads, the size of the section included. -/
def cellsConvert : List Nat :=
  cellsU16 0 ++
    if readU16 binary 0 ≠ 0xFFE1 then [] else cellsU16 2 ++ cellsU32 4 ++
      if readU32 binary 4 ≠ 0x45786966 then [] else cellsU16 10 ++
        if readU16 binary 10 ≠ 0x4D4D then [] else cellsU16 12 ++
          if readU16 binary 12 ≠ 0x002A then [] else cellsU32 14 ++
            if readU32 binary 14 ≠ 8 then []
            else cellsIfds binary { cleared with tiffHeaderOffset := 10 }

/-- The call returns `BAD_VALUE`, or it has read only bytes of the array. -/
def ReadsInside (c : ExifConverter) : Prop :=
  (c.convertExifBinaryToExifInfoStruct (some binary)).2 = false ∨
    ∀ i ∈ cellsConvert binary, i < kMaxExifApp1Length

end Cells

/-! ### The directories in the bytes -/

section Directories

variable (binary : Nat → UInt8)

/-- The entry at `e`. -/
def entryId (e : Nat) : UInt32 := getTagIdByExifId (loadU16 binary e).toUInt32

def entryType (e : Nat) : UInt16 := loadU16 binary (e + 2)

def entryCount (e : Nat) : UInt32 := loadU32 binary (e + 4)

def entryValue (e : Nat) : UInt32 := loadU32 binary (e + 8)

/-- Where `n` entries one behind the other begin. -/
def entriesFrom : Nat → Nat → List Nat
  | 0, _ => []
  | n + 1, e => e :: entriesFrom n (e + 12)

def entries (o : Nat) : List Nat := entriesFrom (loadU16 binary o).toNat (o + 2)

/-- The place that the last of the entries with this id refers to, `p` without one. -/
def pointer (id : UInt32) (es : List Nat) (p : UInt32) : UInt32 :=
  es.foldl (fun p e => if (entryType binary e).toNat = 4 ∧ entryId binary e = id then
    entryValue binary e + 10 else p) p

def exifAt : UInt32 := pointer binary TagId.exifIfdPtr (entries binary 18) 0

def gpsAt : UInt32 := pointer binary TagId.gpsIfdPtr
  (entries binary 18 ++ entries binary (exifAt binary).toNat) 0

/-- The 0th, the Exif and the GPS IFD. -/
def directories : List Nat := [18, (exifAt binary).toNat, (gpsAt binary).toNat]

/-- An entry of a type that is understood, the value of which begins in the array. -/
def Readable (e : Nat) : Prop :=
  e + 8 < kMaxExifApp1Length ∧ (entryType binary e).toNat ∈ [1, 2, 3, 4, 5]

/-- Where the value of an entry is, and what it refers to, as beginnings and lengths. -/
def valueSpans (e : Nat) : List (Nat × Nat) :=
  let count := (entryCount binary e).toNat
  let at_ := (entryValue binary e + 10).toNat
  match (entryType binary e).toNat with
  | 3 => [(e + 8, 2)]
  | 4 => [(e + 8, 4)]
  | 5 => [(e + 8, 4), (at_, 8 * max 1 count)]
  | 2 => if count ≤ 4 then [(e + 8, count)] else [(e + 8, 4), (at_, count)]
  | 1 => [(e + 8, 1)]
  | _ => []

/-- They end in the array. -/
def EntryInside (e : Nat) : Prop :=
  ∀ s ∈ valueSpans binary e, s.1 + s.2 ≤ kMaxExifApp1Length

def HeaderRight : Prop :=
  readU16 binary 0 = 0xFFE1 ∧ readU32 binary 4 = 0x45786966 ∧ readU16 binary 10 = 0x4D4D ∧
    readU16 binary 12 = 0x002A ∧ readU32 binary 14 = 8

/-- A directory at `o` with nothing in it that is refused. -/
def ReadableIfd (o : Nat) : Prop :=
  o < kMaxExifApp1Length ∧ ∀ e ∈ entries binary o, Readable binary e

/-- The number of entries, the entries and their values end in the array. -/
def IfdInside (o : Nat) : Prop :=
  o + 2 ≤ kMaxExifApp1Length ∧ ∀ e ∈ entries binary o, EntryInside binary e

def Accepted : Prop := HeaderRight binary ∧ ∀ o ∈ directories binary, ReadableIfd binary o

def Inside : Prop := ∀ o ∈ directories binary, IfdInside binary o

instance {e : Nat} : Decidable (Readable binary e) := inferInstanceAs (Decidable (_ ∧ _))

instance {e : Nat} : Decidable (EntryInside binary e) := inferInstanceAs (Decidable (∀ _ ∈ _, _))

instance {o : Nat} : Decidable (ReadableIfd binary o) := inferInstanceAs (Decidable (_ ∧ _))

instance {o : Nat} : Decidable (IfdInside binary o) := inferInstanceAs (Decidable (_ ∧ _))

instance : Decidable (HeaderRight binary) := inferInstanceAs (Decidable (_ ∧ _))

instance : Decidable (Accepted binary) := inferInstanceAs (Decidable (_ ∧ _))

instance : Decidable (Inside binary) := inferInstanceAs (Decidable (∀ _ ∈ _, _))

end Directories

section Tags

variable {binary : Nat → UInt8} {c : ExifConverter} {off : UInt32} {e n : Nat}

theorem toNat_add_of_lt {a b : UInt32} (k : Nat) (hk : b.toNat = k) (h : a.toNat + k < 2 ^ 32) :
    (a + b).toNat = a.toNat + k := by
  rw [UInt32.toNat_add, hk, Nat.mod_eq_of_lt h]

theorem readU16_eq (h : off.toNat + 1 < 2 ^ 32) : readU16 binary off = loadU16 binary off.toNat := by
  rw [readU16, loadU16, toNat_add_of_lt 1 rfl h]

theorem readU32_eq (h : off.toNat + 3 < 2 ^ 32) : readU32 binary off = loadU32 binary off.toNat := by
  rw [readU32, loadU32, toNat_add_of_lt 1 rfl (by omega), toNat_add_of_lt 2 rfl (by omega),
    toNat_add_of_lt 3 rfl h]

theorem cellsU16_inside (h : off.toNat + 1 < 2 ^ 32) :
    (∀ i ∈ cellsU16 off, i < kMaxExifApp1Length) ↔ off.toNat + 2 ≤ kMaxExifApp1Length := by
  rw [cellsU16, toNat_add_of_lt 1 rfl h]
  simp only [List.mem_cons, List.not_mem_nil, or_false, forall_eq_or_imp, forall_eq]
  omega

theorem cellsU32_inside (h : off.toNat + 3 < 2 ^ 32) :
    (∀ i ∈ cellsU32 off, i < kMaxExifApp1Length) ↔ off.toNat + 4 ≤ kMaxExifApp1Length := by
  rw [cellsU32, toNat_add_of_lt 1 rfl (by omega), toNat_add_of_lt 2 rfl (by omega),
    toNat_add_of_lt 3 rfl h]
  simp only [List.mem_cons, List.not_mem_nil, or_false, forall_eq_or_imp, forall_eq]
  omega

/-- The first cell keeps the others from wrapping. -/
theorem cellsRational_inside :
    (∀ i ∈ cellsU32 off ++ cellsU32 (off + 4), i < kMaxExifApp1Length) ↔
      off.toNat + 8 ≤ kMaxExifApp1Length := by
  have hmax : kMaxExifApp1Length = 65535 := rfl
  rw [List.forall_mem_append]
  by_cases hlow : off.toNat < kMaxExifApp1Length
  · have hnext : (off + 4).toNat = off.toNat + 4 := toNat_add_of_lt 4 rfl (by omega)
    rw [cellsU32_inside (by omega), cellsU32_inside (by omega), hnext]
    omega
  · constructor
    · intro h
      exact absurd (h.1 off.toNat List.mem_cons_self) hlow
    · intro h
      omega

theorem cellsRationals_inside : (∀ i ∈ cellsRationals (n + 1) off, i < kMaxExifApp1Length) ↔
    off.toNat + 8 * (n + 1) ≤ kMaxExifApp1Length := by
  have hmax : kMaxExifApp1Length = 65535 := rfl
  induction n generalizing off with
  | zero =>
    rw [cellsRationals, List.forall_mem_append, cellsRational_inside]
    exact and_iff_left fun i hi => absurd hi List.not_mem_nil
  | succ n ih =>
    have hrest : (∀ i ∈ cellsRationals (n + 1) (off + 8), i < kMaxExifApp1Length) ↔
      (off + 8).toNat + 8 * (n + 1) ≤ kMaxExifApp1Length := ih
    rw [cellsRationals, List.forall_mem_append, cellsRational_inside, hrest]
    by_cases hlow : off.toNat + 8 ≤ kMaxExifApp1Length
    · rw [toNat_add_of_lt 8 rfl (by omega)]
      omega
    · omega

theorem range'_inside {a k : Nat} (h : 0 < k) :
    (∀ i ∈ List.range' a k, i < kMaxExifApp1Length) ↔ a + k ≤ kMaxExifApp1Length := by
  simp only [List.mem_range'_1]
  constructor
  · intro hall
    have hlast := hall (a + k - 1) (by omega)
    omega
  · intro hle i hi
    omega

/-- The reads of one value are the spans of its entry. -/
theorem cellsTag_inside (hoff : off.toNat = e + 8) (hlow : e + 8 < kMaxExifApp1Length)
    (htiff : c.tiffHeaderOffset = 10) :
    (∀ i ∈ cellsTag binary off (entryType binary e) (entryCount binary e) c,
      i < kMaxExifApp1Length) ↔ EntryInside binary e := by
  have hmax : kMaxExifApp1Length = 65535 := rfl
  have hvalue : readU32 binary off = entryValue binary e := by
    rw [readU32_eq (by omega), hoff, entryValue]
  have hat : c.dataOffset binary off = entryValue binary e + 10 := by
    rw [dataOffset, hvalue, htiff]
  unfold cellsTag EntryInside valueSpans
  rw [if_neg (by omega), hat]
  dsimp only
  generalize entryValue binary e + 10 = at_
  generalize (entryCount binary e).toNat = count
  split
  · rw [cellsU16_inside (by omega), hoff, List.forall_mem_singleton]
  · rw [cellsU32_inside (by omega), hoff, List.forall_mem_singleton]
  · rw [List.forall_mem_append, cellsU32_inside (by omega), hoff, cellsRationals_inside,
      List.forall_mem_cons, List.forall_mem_singleton]
    have hcount : count - 1 + 1 = max 1 count := by omega
    rw [hcount]
  · by_cases hin : count ≤ 4
    · rw [if_pos hin, if_pos hin, List.forall_mem_singleton, hoff]
      cases count with
      | zero => simp [List.range']; omega
      | succ k => exact range'_inside (Nat.succ_pos k)
    · rw [if_neg hin, if_neg hin, List.forall_mem_append, cellsU32_inside (by omega), hoff,
        range'_inside (by omega), List.forall_mem_cons, List.forall_mem_singleton]
  · rw [List.forall_mem_singleton, List.forall_mem_singleton, hoff]
    omega
  · simp

/-- What the entries have told of the other directories. -/
structure Noted (binary : Nat → UInt8) (es : List Nat) (c c' : ExifConverter) : Prop where
  exif : c'.exifIfdPtrOffset = pointer binary TagId.exifIfdPtr es c.exifIfdPtrOffset
  gps : c'.gpsIfdPtrOffset = pointer binary TagId.gpsIfdPtr es c.gpsIfdPtrOffset
  tiff : c'.tiffHeaderOffset = c.tiffHeaderOffset

theorem pointer_cons {id p : UInt32} {es : List Nat} :
    pointer binary id (e :: es) p = pointer binary id es (pointer binary id [e] p) := rfl

theorem pointer_append {id p : UInt32} {es es' : List Nat} :
    pointer binary id (es ++ es') p = pointer binary id es' (pointer binary id es p) :=
  List.foldl_append

theorem pointer_of_ne {id p : UInt32}
    (h : ¬ ((entryType binary e).toNat = 4 ∧ entryId binary e = id)) :
    pointer binary id [e] p = p := if_neg h

theorem pointer_of_eq {id p : UInt32} (htype : (entryType binary e).toNat = 4)
    (hid : entryId binary e = id) : pointer binary id [e] p = entryValue binary e + 10 :=
  if_pos ⟨htype, hid⟩

theorem noted_constructExifTag {id count : UInt32} {type : UInt16} {data : Value}
    (h : (entryType binary e).toNat ≠ 4) : Noted binary [e] c (c.constructExifTag id count type data) :=
  ⟨(pointer_of_ne fun ⟨htype, _⟩ => h htype).symm, (pointer_of_ne fun ⟨htype, _⟩ => h htype).symm, rfl⟩

theorem Noted.trans {es : List Nat} {c' c'' : ExifConverter} (h : Noted binary [e] c c')
    (h' : Noted binary es c' c'') : Noted binary (e :: es) c c'' where
  exif := by rw [pointer_cons, ← h.exif, h'.exif]
  gps := by rw [pointer_cons, ← h.gps, h'.gps]
  tiff := h'.tiff.trans h.tiff

theorem getTagDataByTagType_readable (hoff : off.toNat = e + 8) (h : Readable binary e) :
    ∃ c', c.getTagDataByTagType binary off (entryId binary e) (entryType binary e)
      (entryCount binary e) = (c', some (off + 4)) ∧ Noted binary [e] c c' := by
  have hmax : kMaxExifApp1Length = 65535 := rfl
  obtain ⟨hlow, htypes⟩ := h
  have hvalue : readU32 binary off = entryValue binary e := by
    rw [readU32_eq (by omega), hoff, entryValue]
  unfold getTagDataByTagType
  rw [if_neg (by omega)]
  generalize htype : (entryType binary e).toNat = type at htypes
  simp only [List.mem_cons, List.not_mem_nil, or_false] at htypes
  obtain rfl | rfl | rfl | rfl | rfl := htypes
  · exact ⟨_, rfl, noted_constructExifTag (by omega)⟩
  · exact ⟨_, rfl, noted_constructExifTag (by omega)⟩
  · exact ⟨_, rfl, noted_constructExifTag (by omega)⟩
  · refine ⟨_, rfl, ?_⟩
    rw [hvalue]
    have hexifGps : TagId.exifIfdPtr ≠ TagId.gpsIfdPtr := by decide
    have hexifInterop : TagId.exifIfdPtr ≠ TagId.interopIfdPtr := by decide
    have hgpsInterop : TagId.gpsIfdPtr ≠ TagId.interopIfdPtr := by decide
    split
    · next hid =>
      exact ⟨(pointer_of_eq htype hid).symm, (pointer_of_ne fun h => hexifGps (hid.symm.trans h.2)).symm,
        rfl⟩
    · next hne =>
      split
      · next hid =>
        exact ⟨(pointer_of_ne fun h => hne h.2).symm, (pointer_of_eq htype hid).symm, rfl⟩
      · next hne' =>
        split
        · exact ⟨(pointer_of_ne fun h => hne h.2).symm, (pointer_of_ne fun h => hne' h.2).symm, rfl⟩
        · exact ⟨(pointer_of_ne fun h => hne h.2).symm, (pointer_of_ne fun h => hne' h.2).symm, rfl⟩
  · exact ⟨_, rfl, noted_constructExifTag (by omega)⟩

theorem getTagDataByTagType_refused (hoff : off.toNat = e + 8) (h : ¬ Readable binary e) :
    (c.getTagDataByTagType binary off (entryId binary e) (entryType binary e)
      (entryCount binary e)).2 = none := by
  unfold getTagDataByTagType
  by_cases hlow : kMaxExifApp1Length ≤ off.toNat
  · rw [if_pos hlow]
  · rw [if_neg hlow]
    have htypes : (entryType binary e).toNat ∉ [1, 2, 3, 4, 5] := fun hmem => h ⟨by omega, hmem⟩
    split <;> first | rfl | simp_all

end Tags

section Walk

variable {binary : Nat → UInt8} {c : ExifConverter} {off : UInt32} {e n o : Nat}

theorem entry_read (hoff : off.toNat = e) (hsmall : e < 2 ^ 17) :
    getTagIdByExifId (readU16 binary off).toUInt32 = entryId binary e ∧
      readU16 binary (off + 2) = entryType binary e ∧
      readU32 binary (off + 4) = entryCount binary e ∧ (off + 8).toNat = e + 8 := by
  have htype : (off + 2).toNat = e + 2 := by rw [toNat_add_of_lt 2 rfl (by omega), hoff]
  have hcount : (off + 4).toNat = e + 4 := by rw [toNat_add_of_lt 4 rfl (by omega), hoff]
  refine ⟨?_, ?_, ?_, ?_⟩
  · rw [readU16_eq (by omega), hoff, entryId]
  · rw [readU16_eq (by omega), htype, entryType]
  · rw [readU32_eq (by omega), hcount, entryCount]
  · rw [toNat_add_of_lt 8 rfl (by omega), hoff]

/-- What precedes the value of an entry that is readable. -/
theorem cellsEntry_inside (hoff : off.toNat = e) (hlow : e + 8 < kMaxExifApp1Length) :
    ∀ i ∈ cellsU16 off ++ cellsU16 (off + 2) ++ cellsU32 (off + 4), i < kMaxExifApp1Length := by
  have hmax : kMaxExifApp1Length = 65535 := rfl
  have htype : (off + 2).toNat = e + 2 := by rw [toNat_add_of_lt 2 rfl (by omega), hoff]
  have hcount : (off + 4).toNat = e + 4 := by rw [toNat_add_of_lt 4 rfl (by omega), hoff]
  rw [List.forall_mem_append, List.forall_mem_append, cellsU16_inside (by omega),
    cellsU16_inside (by omega), cellsU32_inside (by omega)]
  omega

theorem parseTags_readable (hoff : off.toNat = e) (hsmall : e < 2 ^ 17)
    (htiff : c.tiffHeaderOffset = 10) (h : ∀ x ∈ entriesFrom n e, Readable binary x) :
    ∃ c' off', parseTags binary n off c = (c', some off') ∧ Noted binary (entriesFrom n e) c c' ∧
      ((∀ i ∈ cellsTags binary n off c, i < kMaxExifApp1Length) ↔
        ∀ x ∈ entriesFrom n e, EntryInside binary x) := by
  have hmax : kMaxExifApp1Length = 65535 := rfl
  induction n generalizing off e c with
  | zero => exact ⟨c, off, rfl, ⟨rfl, rfl, rfl⟩, by simp [cellsTags, entriesFrom]⟩
  | succ n ih =>
    have hfirst : Readable binary e := h e List.mem_cons_self
    have hlow := hfirst.1
    obtain ⟨hid, htype, hcount, hvalue⟩ := @entry_read binary _ _ hoff hsmall
    obtain ⟨c₁, hstep, hnoted⟩ := getTagDataByTagType_readable (c := c) hvalue hfirst
    have hnext : (off + 8 + 4).toNat = e + 12 := by
      rw [toNat_add_of_lt 4 rfl (by omega), hvalue]
    obtain ⟨c', off', hrest, hnoted', hcells⟩ := @ih c₁ (off + 8 + 4) (e + 12) hnext (by omega)
      (hnoted.tiff.trans htiff) fun x hx => h x (List.mem_cons_of_mem _ hx)
    refine ⟨c', off', ?_, hnoted.trans hnoted', ?_⟩
    · unfold parseTags
      dsimp only
      rw [hid, htype, hcount, hstep]
      exact hrest
    · unfold cellsTags
      dsimp only
      rw [hid, htype, hcount, hstep]
      dsimp only
      rw [List.forall_mem_append, List.forall_mem_append, hcells, cellsTag_inside hvalue hlow htiff,
        entriesFrom, List.forall_mem_cons]
      exact and_congr_left' (and_iff_right (cellsEntry_inside hoff hlow))

theorem parseTags_refused (hoff : off.toNat = e) (hsmall : e < 2 ^ 17)
    (h : ¬ ∀ x ∈ entriesFrom n e, Readable binary x) : (parseTags binary n off c).2 = none := by
  have hmax : kMaxExifApp1Length = 65535 := rfl
  induction n generalizing off e c with
  | zero => exact absurd (fun x hx => absurd hx List.not_mem_nil) h
  | succ n ih =>
    obtain ⟨hid, htype, hcount, hvalue⟩ := @entry_read binary _ _ hoff hsmall
    unfold parseTags
    dsimp only
    rw [hid, htype, hcount]
    by_cases hfirst : Readable binary e
    · have hlow := hfirst.1
      obtain ⟨c₁, hstep, -⟩ := getTagDataByTagType_readable (c := c) hvalue hfirst
      rw [hstep]
      refine ih (e := e + 12) ?_ (by omega) fun hrest => h ?_
      · rw [toNat_add_of_lt 4 rfl (by omega), hvalue]
      · rw [entriesFrom, List.forall_mem_cons]
        exact ⟨hfirst, hrest⟩
    · have hnone := getTagDataByTagType_refused (c := c) hvalue hfirst
      generalize c.getTagDataByTagType binary (off + 8) _ _ _ = x at hnone
      obtain ⟨c₁, next⟩ := x
      obtain rfl : next = none := hnone
      rfl

theorem parseIfd_readable (htiff : c.tiffHeaderOffset = 10) (h : ReadableIfd binary off.toNat) :
    ∃ c' off', c.parseIfd binary off = (c', some off') ∧ Noted binary (entries binary off.toNat) c c' ∧
      ((∀ i ∈ cellsIfd binary off c, i < kMaxExifApp1Length) ↔ IfdInside binary off.toNat) := by
  have hmax : kMaxExifApp1Length = 65535 := rfl
  obtain ⟨hlow, hall⟩ := h
  have hbegin : (off + 2).toNat = off.toNat + 2 := toNat_add_of_lt 2 rfl (by omega)
  obtain ⟨c', off', hparse, hnoted, hcells⟩ := parseTags_readable (n := (loadU16 binary off.toNat).toNat)
    hbegin (by omega) htiff hall
  have hcount : readU16 binary off = loadU16 binary off.toNat := readU16_eq (by omega)
  refine ⟨c', off', ?_, hnoted, ?_⟩
  · rw [parseIfd, if_neg (by omega), hcount, hparse]
  · rw [cellsIfd, if_neg (by omega), hcount, List.forall_mem_append, cellsU16_inside (by omega), hcells]
    rfl

theorem parseIfd_refused (h : ¬ ReadableIfd binary off.toNat) : (c.parseIfd binary off).2 = none := by
  have hmax : kMaxExifApp1Length = 65535 := rfl
  unfold parseIfd
  by_cases hlow : kMaxExifApp1Length ≤ off.toNat
  · rw [if_pos hlow]
  · rw [if_neg hlow, readU16_eq (by omega)]
    have hbegin : (off + 2).toNat = off.toNat + 2 := toNat_add_of_lt 2 rfl (by omega)
    exact parseTags_refused hbegin (by omega) fun hall => h ⟨by omega, hall⟩

/-- The converter behind the header. -/
def behindHeader : ExifConverter := { cleared with tiffHeaderOffset := 10 }

theorem forall_directories {p : Nat → Prop} : (∀ o ∈ directories binary, p o) ↔
    p 18 ∧ p (exifAt binary).toNat ∧ p (gpsAt binary).toNat := by
  simp only [directories, List.forall_mem_cons, List.not_mem_nil, false_imp_iff, implies_true, and_true]

theorem exif_of_noted {c₁ : ExifConverter} (h : Noted binary (entries binary 18) behindHeader c₁) :
    c₁.exifIfdPtrOffset = exifAt binary := h.exif

theorem gps_of_noted {c₁ c₂ : ExifConverter} (h : Noted binary (entries binary 18) behindHeader c₁)
    (h' : Noted binary (entries binary (exifAt binary).toNat) c₁ c₂) :
    c₂.gpsIfdPtrOffset = gpsAt binary := by
  rw [h'.gps, h.gps, gpsAt, pointer_append]
  rfl

theorem parseIfds_accepted (h : ∀ o ∈ directories binary, ReadableIfd binary o) :
    (parseIfds binary behindHeader).2 = true ∧
      ((∀ i ∈ cellsIfds binary behindHeader, i < kMaxExifApp1Length) ↔ Inside binary) := by
  obtain ⟨hzeroth, hexif, hgps⟩ := forall_directories.mp h
  obtain ⟨c₁, off₁, hparse₁, hnoted₁, hcells₁⟩ :=
    parseIfd_readable (c := behindHeader) (show behindHeader.tiffHeaderOffset = 10 from rfl)
      (show ReadableIfd binary (18 : UInt32).toNat from hzeroth)
  rw [← exif_of_noted hnoted₁] at hexif
  obtain ⟨c₂, off₂, hparse₂, hnoted₂, hcells₂⟩ := parseIfd_readable hnoted₁.tiff hexif
  rw [exif_of_noted hnoted₁] at hnoted₂ hcells₂
  rw [← gps_of_noted hnoted₁ hnoted₂] at hgps
  obtain ⟨c₃, off₃, hparse₃, -, hcells₃⟩ := parseIfd_readable (hnoted₂.tiff.trans hnoted₁.tiff) hgps
  rw [gps_of_noted hnoted₁ hnoted₂] at hcells₃
  unfold parseIfds cellsIfds
  rw [hparse₁]
  dsimp only
  rw [hparse₂]
  dsimp only
  rw [hparse₃]
  refine ⟨rfl, ?_⟩
  rw [List.forall_mem_append, List.forall_mem_append, hcells₁, exif_of_noted hnoted₁, hcells₂,
    gps_of_noted hnoted₁ hnoted₂, hcells₃]
  exact forall_directories.symm

theorem refused_of_none {x : ExifConverter × Option UInt32} {k : ExifConverter → ExifConverter × Bool}
    (h : x.2 = none) : (match x with
      | (c, none) => (c, false)
      | (c, some _) => k c).2 = false := by
  obtain ⟨c, next⟩ := x
  obtain rfl : next = none := h
  rfl

theorem parseIfds_refused (h : ¬ ∀ o ∈ directories binary, ReadableIfd binary o) :
    (parseIfds binary behindHeader).2 = false := by
  unfold parseIfds
  by_cases hzeroth : ReadableIfd binary (18 : UInt32).toNat
  · obtain ⟨c₁, off₁, hparse₁, hnoted₁, -⟩ :=
      parseIfd_readable (c := behindHeader) (show behindHeader.tiffHeaderOffset = 10 from rfl) hzeroth
    rw [hparse₁]
    dsimp only
    by_cases hexif : ReadableIfd binary c₁.exifIfdPtrOffset.toNat
    · obtain ⟨c₂, off₂, hparse₂, hnoted₂, -⟩ := parseIfd_readable hnoted₁.tiff hexif
      rw [hparse₂]
      rw [exif_of_noted hnoted₁] at hnoted₂ hexif
      refine refused_of_none (parseIfd_refused fun hgps => h (forall_directories.mpr ⟨hzeroth, hexif, ?_⟩))
      rw [← gps_of_noted hnoted₁ hnoted₂]
      exact hgps
    · exact refused_of_none (parseIfd_refused hexif)
  · exact refused_of_none (parseIfd_refused hzeroth)

/-- The bytes of the header are read whatever they are. -/
theorem header_inside : ∀ i ∈ cellsU16 0 ++ (cellsU16 2 ++ cellsU32 4) ++ cellsU16 10 ++ cellsU16 12 ++
    cellsU32 14, i < kMaxExifApp1Length := by decide

theorem convert_accepted (h : HeaderRight binary) :
    (c.convertExifBinaryToExifInfoStruct (some binary)).2 = (parseIfds binary behindHeader).2 ∧
      ((∀ i ∈ cellsConvert binary, i < kMaxExifApp1Length) ↔
        ∀ i ∈ cellsIfds binary behindHeader, i < kMaxExifApp1Length) := by
  obtain ⟨happ1, hcode, horder, htiff, hfirst⟩ := h
  constructor
  · simp only [convertExifBinaryToExifInfoStruct, happ1, hcode, horder, htiff, hfirst, ne_eq,
      not_true_eq_false, if_false]
    rfl
  · have hheader := header_inside
    simp only [cellsConvert, happ1, hcode, horder, htiff, hfirst, ne_eq, not_true_eq_false, if_false,
      List.forall_mem_append] at hheader ⊢
    tauto

theorem convert_refused (h : ¬ HeaderRight binary) :
    (c.convertExifBinaryToExifInfoStruct (some binary)).2 = false := by
  unfold convertExifBinaryToExifInfoStruct
  dsimp only
  split
  · rfl
  · split
    · rfl
    · split
      · rfl
      · split
        · rfl
        · split
          · rfl
          · next h₁ h₂ h₃ h₄ h₅ =>
            exact absurd ⟨not_not.mp h₁, not_not.mp h₂, not_not.mp h₃, not_not.mp h₄, not_not.mp h₅⟩ h

/-- Three entries at 18, and an empty directory at 100 for both pointers: the five bytes of the make
are said to be at 65535 behind the TIFF header. -/
def strayMake (i : Nat) : UInt8 :=
  [0xFF, 0xE1, 0, 0, 0x45, 0x78, 0x69, 0x66, 0, 0, 0x4D, 0x4D, 0, 0x2A, 0, 0, 0, 8,
    0, 3, 0x01, 0x0F, 0, 2, 0, 0, 0, 5, 0, 0, 0xFF, 0xFF,
    0x87, 0x69, 0, 4, 0, 0, 0, 1, 0, 0, 0, 90,
    0x88, 0x25, 0, 4, 0, 0, 0, 1, 0, 0, 0, 90].getD i 0

end Walk

end ExifConverter

end QmmfSdk.Exif
