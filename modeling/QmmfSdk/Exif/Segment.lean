import QmmfSdk.Exif.Writing

/-! The whole segment that `WriteExifData` leaves: header, four directories one behind the other, and
the pointers between them. -/
namespace QmmfSdk.Exif

open Library Library.Tiff

namespace ExifGenerator

namespace Picture

variable (pic : Picture)

/-- The fields of the 0th IFD, with the offsets its pointers hold. -/
def zerothFields (exifIfd gpsIfd : Nat) : List Field :=
  (zerothIfdTags pic.vendorName pic.productName (.ofNat exifIfd) (.ofNat gpsIfd)).map Tag.field

def exifTags (interopIfd : UInt32) : List Tag :=
  exifIfdTags pic.values (getDateTime pic.clock) pic.width.toUInt32 pic.height.toUInt32 interopIfd

def exifFields (interopIfd : Nat) : List Field := (pic.exifTags (.ofNat interopIfd)).map Tag.field

def gpsFields : List Field := (gpsIfdTags pic.values).map Tag.field

/-- Where the IFDs start, counted from the TIFF header, and how long the segment is. -/
def exifOffset : Nat := evenUp (8 + extent (pic.zerothFields 0 0))

def interopOffset : Nat := pic.exifOffset + extent (pic.exifFields 0)

def gpsOffset : Nat := evenUp (pic.interopOffset + extent (interopIfdTags.map Tag.field))

def segmentSize : Nat := 10 + pic.gpsOffset + extent pic.gpsFields

/-- No text is so long that `uint32_t` offsets wrap. -/
structure Small : Prop where
  zeroth : ∀ t ∈ zerothIfdTags pic.vendorName pic.productName 0 0, t.value.bytes.length < 2 ^ 31
  exif : ∀ t ∈ pic.exifTags 0, t.value.bytes.length < 2 ^ 31
  gps : ∀ t ∈ gpsIfdTags pic.values, t.value.bytes.length < 2 ^ 31

end Picture

variable {g : ExifGenerator} {pic : Picture} {m m' : Nat → UInt8}

/-- Marker, Exif code and TIFF header; the length is written last. -/
structure Header (m : Nat → UInt8) : Prop where
  marker : Holds m 0 (encodeBe16 0xFFE1)
  code : Holds m 4 (encodeBe32 0x45786966 ++ encodeBe16 0)
  tiff : Holds m 10 (encodeBe16 0x4D4D ++ (encodeBe16 0x002A ++ encodeBe32 8))

theorem Header.congr (h : Header m) (heq : ∀ i < 18, i ≠ 2 → i ≠ 3 → m' i = m i) : Header m' where
  marker := h.marker.congr fun i _ hi => heq i (by rw [length_encodeBe16] at hi; omega)
    (by rw [length_encodeBe16] at hi; omega) (by rw [length_encodeBe16] at hi; omega)
  code := h.code.congr fun i hl hr => by
    have hlen : i < 10 := hr
    exact heq i (by omega) (by omega) (by omega)
  tiff := h.tiff.congr fun i hl hr => by
    have hlen : i < 18 := hr
    exact heq i (by omega) (by omega) (by omega)

/-- The generator right before the first IFD. -/
structure Ready (g : ExifGenerator) : Prop where
  current : g.currentOffset = 18
  helperOffset : g.helperBufferOffset = 0
  tiffBegin : g.tiffHeaderBeginOffset = 10
  app1begin : g.app1beginOffset = 2
  header : Header g.exifBuffer

theorem put_low {o : Out} {last : Nat} {bs : List UInt8} (h : o.offset + last < 65535)
    (hlen : bs.length ≤ last + 1) :
    o.put last bs = ⟨store o.buffer o.offset bs, o.offset + bs.length, o.overflow⟩ := by
  have hguard : ¬ kMaxExifApp1Length ≤ (o.offset + last) % 2 ^ 32 := by
    rw [Nat.mod_eq_of_lt (by omega), kMaxExifApp1Length]
    omega
  have hmod : (o.offset + bs.length) % 2 ^ 32 = o.offset + bs.length := Nat.mod_eq_of_lt (by omega)
  rw [Out.put, if_neg hguard, hmod]

theorem writeShort_low {k : Nat} {b : Bool} {v : UInt16} (h : k + 1 < 65535) :
    Out.writeShort v ⟨m, k, b⟩ = ⟨store m k (encodeBe16 v), k + 2, b⟩ :=
  put_low h (Nat.le_refl 2)

theorem writeLong_low {k : Nat} {b : Bool} {v : UInt32} (h : k + 3 < 65535) :
    Out.writeLong v ⟨m, k, b⟩ = ⟨store m k (encodeBe32 v), k + 4, b⟩ :=
  put_low h (Nat.le_refl 4)

theorem writeHeader_eq (h : g.currentOffset = 0) : g.writeHeader =
    { g with
      exifBuffer := store (store (store g.exifBuffer 0 (encodeBe16 0xFFE1)) 4
        (encodeBe32 0x45786966 ++ encodeBe16 0)) 10
        (encodeBe16 0x4D4D ++ (encodeBe16 0x002A ++ encodeBe32 8))
      currentOffset := 18
      tiffHeaderBeginOffset := 10
      app1beginOffset := 2 } := by
  rw [← store_append, ← store_append, ← store_append]
  simp (disch := omega) only [writeHeader, onIfd, IfdWriter.onExif, h, writeShort_low, writeLong_low]
  rfl

theorem writeHeader_ready (h : g.currentOffset = 0) (hhelp : g.helperBufferOffset = 0) :
    Ready g.writeHeader := by
  rw [writeHeader_eq h]
  refine ⟨rfl, hhelp, rfl, rfl, ?_, ?_, ?_⟩
  · exact (Holds.store_self.store_apart (.inl (by decide))).store_apart (.inl (by decide))
  · exact Holds.store_self.store_apart (.inl (by decide))
  · exact Holds.store_self

/-- The segment with its pointers still zero. -/
structure Drawn (pic : Picture) (g : ExifGenerator) : Prop where
  header : Header g.exifBuffer
  zeroth : Laid g.exifBuffer 10 8 (pic.zerothFields 0 0)
  exif : Laid g.exifBuffer 10 pic.exifOffset (pic.exifFields 0)
  interop : Laid g.exifBuffer 10 pic.interopOffset (interopIfdTags.map Tag.field)
  gps : Laid g.exifBuffer 10 pic.gpsOffset pic.gpsFields
  current : g.currentOffset = pic.segmentSize
  helperOffset : g.helperBufferOffset = 0
  app1begin : g.app1beginOffset = 2
  exifPointer : g.exifIfdPointerOffset = 10 + 8 + 2 + 12 * 3 + 8
  newExif : g.newExifIfdPointerOffset = pic.exifOffset
  gpsPointer : g.gpsIfdPointerOffset = 10 + 8 + 2 + 12 * 4 + 8
  newGps : g.newGpsIfdPointerOffset = pic.gpsOffset
  interopPointer : g.interopIfdPointerOffset = 10 + pic.exifOffset + 2 + 12 * 13 + 8
  newInterop : g.newInteropIfdPointerOffset = pic.interopOffset
  /-- The last table ends inside the segment; its values need not. -/
  tableRoom : 10 + pic.gpsOffset + tableSize pic.gpsFields.length ≤ kMaxExifApp1Length
  areaRoom : areaEnd 0 pic.gpsFields ≤ 2 ^ 16

theorem Picture.exifOffset_ge (pic : Picture) :
    8 + extent (pic.zerothFields 0 0) ≤ pic.exifOffset := le_evenUp

theorem Picture.gpsOffset_ge (pic : Picture) :
    pic.interopOffset + extent (interopIfdTags.map Tag.field) ≤ pic.gpsOffset := le_evenUp

theorem length_gpsIfdTags {v : ExifTagValues} : (gpsIfdTags v).length ≤ 9 := by
  unfold gpsIfdTags coordinateTags timestampTags methodTags
  split <;> split <;> split <;> simp

theorem length_zerothIfdTags {vendorName productName : List UInt8} {i j : UInt32} :
    (zerothIfdTags vendorName productName i j).length = 5 := rfl

theorem Picture.length_exifTags {i : UInt32} : (pic.exifTags i).length = 16 := rfl

theorem Picture.length_zerothFields {i j : Nat} : (pic.zerothFields i j).length = 5 := rfl

theorem Picture.length_exifFields {i : Nat} : (pic.exifFields i).length = 16 := rfl

theorem interop_small : ∀ t ∈ interopIfdTags, t.value.bytes.length < 2 ^ 31 := by decide

section Ifds

variable {w : IfdWriter} {t : Tag} {ts us : List Tag} {off : Nat}

theorem writeTags_nil : w.writeTags [] = w := rfl

theorem writeTags_cons : w.writeTags (t :: ts) = (w.writeExifTag t).writeTags ts := rfl

theorem writeTags_append : w.writeTags (ts ++ us) = (w.writeTags ts).writeTags us :=
  List.foldl_append

/-- The current offset after some of the tags of an IFD. -/
theorem current_of_tags (ts us : List Tag) (hhelp : w.helperBufferOffset = 0)
    (hcur : w.currentOffset < 2 ^ 30)
    (hlen : ts.length < 2 ^ 16) (hts : ∀ t ∈ ts ++ us, t.value.bytes.length < 2 ^ 31)
    (hov : (w.beginIfd.writeTags (ts ++ us)).overflowFlag = false) :
    (w.beginIfd.writeTags ts).currentOffset = w.currentOffset + 2 + 12 * ts.length := by
  rw [writeTags_append] at hov
  have hov' := IfdWriter.quiet_of_writeTags hov fun t ht => hts t (by simp [ht])
  have hw : IfdWriter.Writing w.exifBuffer w.currentOffset ([] ++ ts.map Tag.field)
      (w.beginIfd.writeTags ts) :=
    (IfdWriter.writing_begin hhelp).writeTags hcur (by simpa using hlen) hov'
      fun t ht => hts t (by simp [ht])
  simpa using hw.current

theorem ended_small {fs : List Field} {stop : Nat} (h : IfdWriter.Ended m 10 off fs stop w)
    (hstop : stop ≤ off + extent fs + 1) : w.currentOffset < 2 ^ 30 := by
  have h1 := h.current
  have h2 := h.tableRoom
  have h3 := h.areaRoom
  have hmax : kMaxExifApp1Length = 65535 := rfl
  rw [extent] at hstop
  omega

end Ifds

theorem evenUp_le {n : Nat} : evenUp n ≤ n + 1 := by
  unfold evenUp
  omega

section Steps

variable {v : ExifTagValues} {vendorName productName : List UInt8} {time : List UInt8 × List UInt8}
  {width height : UInt32}

theorem write0thIfd_eq : g.write0thIfd vendorName productName =
    let w := ((g.toIfdWriter.beginIfd.writeTags (zerothIfdTags vendorName productName 0 0)).endWritingIfd
      g.tiffHeaderBeginOffset).padToEven
    { g with
      toIfdWriter := w
      exifIfdPointerOffset :=
        (g.toIfdWriter.beginIfd.writeTags (nameTags vendorName productName)).currentOffset +
          tagDataOffset
      newExifIfdPointerOffset := w.currentOffset - g.tiffHeaderBeginOffset
      gpsIfdPointerOffset := (g.toIfdWriter.beginIfd.writeTags
        (nameTags vendorName productName ++ [.long TagId.exifIfdPtr 0])).currentOffset } := by
  simp only [write0thIfd, onIfd, zerothIfdTags, writeTags_append, writeTags_cons, writeTags_nil]

theorem writeExifIfd_eq : g.writeExifIfd v time width height =
    let w := (g.toIfdWriter.beginIfd.writeTags (exifIfdTags v time width height 0)).endWritingIfd
      g.tiffHeaderBeginOffset
    { g with
      toIfdWriter := w
      interopIfdPointerOffset :=
        (g.toIfdWriter.beginIfd.writeTags (pictureTags v time width height)).currentOffset +
          tagDataOffset
      newInteropIfdPointerOffset := w.currentOffset - g.tiffHeaderBeginOffset } := by
  simp only [writeExifIfd, onIfd, exifIfdTags, writeTags_append]

/-- What the 0th IFD leaves. -/
structure After0th (m : Nat → UInt8) (pic : Picture) (g : ExifGenerator) : Prop where
  ended : IfdWriter.Ended m 10 8 (pic.zerothFields 0 0) pic.exifOffset g.toIfdWriter
  tiffBegin : g.tiffHeaderBeginOffset = 10
  app1begin : g.app1beginOffset = 2
  exifPointer : g.exifIfdPointerOffset = 10 + 8 + 2 + 12 * 3 + 8
  newExif : g.newExifIfdPointerOffset = pic.exifOffset
  gpsPointer : g.gpsIfdPointerOffset = 10 + 8 + 2 + 12 * 4

/-- What the Exif IFD adds. -/
structure AfterExif (pic : Picture) (g g' : ExifGenerator) : Prop where
  ended : IfdWriter.Ended g.exifBuffer 10 pic.exifOffset (pic.exifFields 0) pic.interopOffset
    g'.toIfdWriter
  kept : g' =
    { g with
      toIfdWriter := g'.toIfdWriter
      interopIfdPointerOffset := 10 + pic.exifOffset + 2 + 12 * 13 + 8
      newInteropIfdPointerOffset := pic.interopOffset }

/-- What the Interop IFD adds. -/
structure AfterInterop (pic : Picture) (g g' : ExifGenerator) : Prop where
  ended : IfdWriter.Ended g.exifBuffer 10 pic.interopOffset (interopIfdTags.map Tag.field)
    pic.gpsOffset g'.toIfdWriter
  kept : g' =
    { g with
      toIfdWriter := g'.toIfdWriter
      gpsIfdPointerOffset := g.gpsIfdPointerOffset + tagDataOffset
      newGpsIfdPointerOffset := pic.gpsOffset }

/-- What the GPS IFD adds. -/
structure AfterGps (pic : Picture) (g g' : ExifGenerator) : Prop where
  ended : IfdWriter.Ended g.exifBuffer 10 pic.gpsOffset pic.gpsFields
    (pic.gpsOffset + extent pic.gpsFields) g'.toIfdWriter
  kept : g' = { g with toIfdWriter := g'.toIfdWriter }

theorem write0thIfd_after (hg : Ready g) (hsmall : pic.Small)
    (hov : (g.write0thIfd pic.vendorName pic.productName).overflowFlag = false) :
    After0th g.exifBuffer pic (g.write0thIfd pic.vendorName pic.productName) := by
  have hcur := hg.current
  rw [write0thIfd_eq, hg.tiffBegin] at hov ⊢
  have hov' := IfdWriter.quiet_of_padToEven hov
  have hov'' := IfdWriter.quiet_of_endWritingIfd hov'
  have hended : IfdWriter.Ended g.exifBuffer 10 8 (pic.zerothFields 0 0)
      (8 + extent (pic.zerothFields 0 0)) _ :=
    IfdWriter.ifd_ended hg.helperOffset hcur (by omega) (by rw [length_zerothIfdTags]; decide)
      hsmall.zeroth hov'
  have hpad : IfdWriter.Ended g.exifBuffer 10 8 (pic.zerothFields 0 0) pic.exifOffset _ :=
    hended.padToEven (by decide) (Nat.lt_trans (ended_small hended (Nat.le_succ _)) (by decide)) hov
  refine ⟨hpad, rfl, hg.app1begin, ?_, ?_, ?_⟩
  · have h := current_of_tags (nameTags pic.vendorName pic.productName) _ hg.helperOffset
      (by omega) (by simp [nameTags]) hsmall.zeroth hov''
    simp only [h, hcur, tagDataOffset]
    simp [nameTags]
  · exact (congrArg (· - 10) hpad.current).trans (Nat.add_sub_cancel_left ..)
  · have hsplit : zerothIfdTags pic.vendorName pic.productName 0 0 =
        (nameTags pic.vendorName pic.productName ++ [.long TagId.exifIfdPtr 0]) ++
          [.long TagId.gpsIfdPtr 0] := rfl
    have hsm := hsmall.zeroth
    rw [hsplit] at hsm hov''
    have h := current_of_tags _ _ hg.helperOffset (by omega) (by simp [nameTags]) hsm hov''
    simp only [h, hcur]
    simp [nameTags]

theorem quiet_of_writeExifIfd (hsmall : pic.Small)
    (hov : (g.writeExifIfd pic.values (getDateTime pic.clock) pic.width.toUInt32
      pic.height.toUInt32).overflowFlag = false) : g.overflowFlag = false := by
  rw [writeExifIfd_eq] at hov
  exact IfdWriter.quiet_of_ifd hsmall.exif hov

theorem writeExifIfd_after (htiff : g.tiffHeaderBeginOffset = 10)
    (hcur : g.currentOffset = 10 + pic.exifOffset) (hhelp : g.helperBufferOffset = 0)
    (hlow : g.currentOffset < 2 ^ 30) (hsmall : pic.Small)
    (hov : (g.writeExifIfd pic.values (getDateTime pic.clock) pic.width.toUInt32
      pic.height.toUInt32).overflowFlag = false) :
    AfterExif pic g (g.writeExifIfd pic.values (getDateTime pic.clock) pic.width.toUInt32
      pic.height.toUInt32) := by
  rw [writeExifIfd_eq, htiff] at hov ⊢
  have hended : IfdWriter.Ended g.exifBuffer 10 pic.exifOffset (pic.exifFields 0) pic.interopOffset _ :=
    IfdWriter.ifd_ended hhelp hcur hlow (by rw [Picture.length_exifTags]; decide) hsmall.exif hov
  have hptr := current_of_tags (pictureTags pic.values (getDateTime pic.clock) pic.width.toUInt32
    pic.height.toUInt32) _ hhelp hlow (by simp [pictureTags]) hsmall.exif
    (IfdWriter.quiet_of_endWritingIfd hov)
  have hnew := (congrArg (· - 10) hended.current).trans (Nat.add_sub_cancel_left 10 pic.interopOffset)
  refine ⟨hended, ?_⟩
  simp only [hptr, hcur, tagDataOffset, ← htiff]
  rw [ExifGenerator.mk.injEq]
  refine ⟨rfl, rfl, rfl, rfl, rfl, ?_, ?_, rfl, rfl, rfl⟩
  · simp [pictureTags]
  · rw [htiff]
    exact hnew

theorem quiet_of_writeInteropIfd (hov : g.writeInteropIfd.overflowFlag = false) :
    g.overflowFlag = false := by
  simp only [writeInteropIfd, onIfd] at hov
  exact IfdWriter.quiet_of_ifd interop_small (IfdWriter.quiet_of_padToEven hov)

theorem writeInteropIfd_after (htiff : g.tiffHeaderBeginOffset = 10)
    (hcur : g.currentOffset = 10 + pic.interopOffset) (hhelp : g.helperBufferOffset = 0)
    (hlow : g.currentOffset < 2 ^ 30) (hov : g.writeInteropIfd.overflowFlag = false) :
    AfterInterop pic g g.writeInteropIfd := by
  simp only [writeInteropIfd, onIfd, htiff] at hov ⊢
  have hended := IfdWriter.ifd_ended hhelp hcur hlow (by decide) interop_small
    (IfdWriter.quiet_of_padToEven hov)
  have hpad : IfdWriter.Ended g.exifBuffer 10 pic.interopOffset (interopIfdTags.map Tag.field)
      pic.gpsOffset _ :=
    hended.padToEven (by decide) (Nat.lt_trans (ended_small hended (Nat.le_succ _)) (by decide)) hov
  generalize (IfdWriter.endWritingIfd 10 (g.beginIfd.writeTags interopIfdTags)).padToEven = w at hpad ⊢
  have hnew := (congrArg (· - 10) hpad.current).trans (Nat.add_sub_cancel_left 10 pic.gpsOffset)
  refine ⟨hpad, ?_⟩
  rw [ExifGenerator.mk.injEq]
  exact ⟨rfl, htiff.symm, rfl, rfl, hnew, rfl, rfl, rfl, rfl, rfl⟩

theorem quiet_of_writeGpsIfd (hsmall : pic.Small)
    (hov : (g.writeGpsIfd pic.values).overflowFlag = false) : g.overflowFlag = false := by
  simp only [writeGpsIfd, onIfd] at hov
  exact IfdWriter.quiet_of_ifd hsmall.gps hov

theorem writeGpsIfd_after (htiff : g.tiffHeaderBeginOffset = 10)
    (hcur : g.currentOffset = 10 + pic.gpsOffset) (hhelp : g.helperBufferOffset = 0)
    (hlow : g.currentOffset < 2 ^ 30) (hsmall : pic.Small)
    (hov : (g.writeGpsIfd pic.values).overflowFlag = false) :
    AfterGps pic g (g.writeGpsIfd pic.values) := by
  simp only [writeGpsIfd, onIfd, htiff] at hov ⊢
  have hlen : (gpsIfdTags pic.values).length < 2 ^ 16 :=
    Nat.lt_of_le_of_lt length_gpsIfdTags (by decide)
  refine ⟨IfdWriter.ifd_ended hhelp hcur hlow hlen hsmall.gps hov, ?_⟩
  rw [ExifGenerator.mk.injEq]
  exact ⟨rfl, htiff.symm, rfl, rfl, rfl, rfl, rfl, rfl, rfl, rfl⟩

end Steps

/-- Without an overflow the four IFDs stand where their sizes put them. -/
theorem writeIfds_drawn (hg : Ready g) (hsmall : pic.Small)
    (hov : (g.writeIfds pic).overflowFlag = false) : Drawn pic (g.writeIfds pic) := by
  simp only [writeIfds] at hov ⊢
  -- the flag at the end speaks for every IFD before it
  have hov₃ := quiet_of_writeGpsIfd hsmall hov
  have hov₂ := quiet_of_writeInteropIfd hov₃
  have hov₁ := quiet_of_writeExifIfd hsmall hov₂
  have a₁ := write0thIfd_after hg hsmall hov₁
  generalize g.write0thIfd pic.vendorName pic.productName = g₁ at *
  have a₂ := writeExifIfd_after a₁.tiffBegin a₁.ended.current a₁.ended.helperOffset
    (ended_small a₁.ended evenUp_le) hsmall hov₂
  generalize g₁.writeExifIfd pic.values (getDateTime pic.clock) pic.width.toUInt32
    pic.height.toUInt32 = g₂ at *
  have t₂ : g₂.tiffHeaderBeginOffset = 10 := by rw [a₂.kept]; exact a₁.tiffBegin
  have a₃ := writeInteropIfd_after t₂ a₂.ended.current a₂.ended.helperOffset
    (ended_small a₂.ended (Nat.le_succ _)) hov₃
  generalize g₂.writeInteropIfd = g₃ at *
  have t₃ : g₃.tiffHeaderBeginOffset = 10 := by rw [a₃.kept]; exact t₂
  have a₄ := writeGpsIfd_after t₃ a₃.ended.current a₃.ended.helperOffset
    (ended_small a₃.ended evenUp_le) hsmall hov
  generalize g₃.writeGpsIfd pic.values = g₄ at *
  -- each IFD leaves everything before it alone
  have o₁ := a₁.ended.after
  have o₂ := a₂.ended.after
  have o₃ := a₃.ended.after
  have b₃ : ∀ i < 10 + pic.gpsOffset, g₄.exifBuffer i = g₃.exifBuffer i := a₄.ended.below
  have b₂ : ∀ i < 10 + pic.interopOffset, g₄.exifBuffer i = g₂.exifBuffer i := fun i hi => by
    rw [b₃ i (by omega), a₃.ended.below i hi]
  have b₁ : ∀ i < 10 + pic.exifOffset, g₄.exifBuffer i = g₁.exifBuffer i := fun i hi => by
    rw [b₂ i (by omega), a₂.ended.below i hi]
  have b₀ : ∀ i < 18, g₄.exifBuffer i = g.exifBuffer i := fun i hi => by
    rw [b₁ i (by omega), a₁.ended.below i hi]
  refine
    { header := hg.header.congr fun i hi _ _ => b₀ i hi
      zeroth := a₁.ended.laid.congr fun i _ hi => b₁ i (by omega)
      exif := a₂.ended.laid.congr fun i _ hi => b₂ i (by omega)
      interop := a₃.ended.laid.congr fun i _ hi => b₃ i (by omega)
      gps := a₄.ended.laid
      current := a₄.ended.current.trans (Nat.add_assoc ..).symm
      helperOffset := a₄.ended.helperOffset
      app1begin := ?_, exifPointer := ?_, newExif := ?_, gpsPointer := ?_, newGps := ?_
      interopPointer := ?_, newInterop := ?_
      tableRoom := a₄.ended.tableRoom
      areaRoom := a₄.ended.areaRoom }
  all_goals rw [a₄.kept, a₃.kept, a₂.kept]
  · exact a₁.app1begin
  · exact a₁.exifPointer
  · exact a₁.newExif
  · exact congrArg (· + tagDataOffset) a₁.gpsPointer

/-- The segment with its pointers and its length. -/
structure Written (pic : Picture) (m : Nat → UInt8) : Prop where
  header : Header m
  length : Holds m 2 (encodeBe16 (.ofNat (pic.segmentSize - 2)))
  zeroth : Laid m 10 8 (pic.zerothFields pic.exifOffset pic.gpsOffset)
  exif : Laid m 10 pic.exifOffset (pic.exifFields pic.interopOffset)
  interop : Laid m 10 pic.interopOffset (interopIfdTags.map Tag.field)
  gps : Laid m 10 pic.gpsOffset pic.gpsFields

section Patch

variable {off : Nat} {a b : Nat}

theorem writeLongAt_eq {v : UInt32} (hov : (g.writeLongAt off v).overflowFlag = false)
    (hoff : off < 2 ^ 31) : g.overflowFlag = false ∧
      g.writeLongAt off v = { g with exifBuffer := store g.exifBuffer off (encodeBe32 v) } := by
  obtain ⟨hquiet, happ⟩ := Out.writeLong_appends.back hov
  obtain ⟨hbuf, -, -⟩ := happ hoff
  have hquiet' : g.overflowFlag = false := hquiet
  refine ⟨hquiet, ?_⟩
  simp only [writeLongAt] at hov ⊢
  rw [hbuf, hov, hquiet']

theorem overwriteShort_eq {v : UInt16} (hov : (g.overwriteShort off v).overflowFlag = false)
    (hoff : off < 2 ^ 31) : g.overflowFlag = false ∧
      g.overwriteShort off v = { g with exifBuffer := store g.exifBuffer off (encodeBe16 v) } := by
  obtain ⟨hquiet, happ⟩ := Out.writeShort_appends.back hov
  obtain ⟨hbuf, -, -⟩ := happ hoff
  have hquiet' : g.overflowFlag = false := hquiet
  refine ⟨hquiet, ?_⟩
  simp only [overwriteShort] at hov ⊢
  rw [hbuf, hov, hquiet']

/-- The pointer to the Exif IFD is the fourth entry of the 0th. -/
theorem patch_exif (h : Laid m 10 8 (pic.zerothFields a b)) {n : Nat} :
    Laid (store m (10 + 8 + 2 + 12 * 3 + 8) (encodeBe32 (.ofNat n))) 10 8 (pic.zerothFields n b) :=
  Laid.patch ((nameTags pic.vendorName pic.productName).map Tag.field) h rfl rfl

/-- The pointer to the GPS IFD is its last. -/
theorem patch_gps (h : Laid m 10 8 (pic.zerothFields a b)) {n : Nat} :
    Laid (store m (10 + 8 + 2 + 12 * 4 + 8) (encodeBe32 (.ofNat n))) 10 8 (pic.zerothFields a n) :=
  Laid.patch ((nameTags pic.vendorName pic.productName ++
    [Tag.long TagId.exifIfdPtr (.ofNat a)]).map Tag.field) h rfl rfl

/-- The pointer to the Interop IFD is the fourteenth entry of the Exif IFD. -/
theorem patch_interop (h : Laid m 10 off (pic.exifFields a)) {n : Nat} :
    Laid (store m (10 + off + 2 + 12 * 13 + 8) (encodeBe32 (.ofNat n))) 10 off (pic.exifFields n) :=
  Laid.patch ((pictureTags pic.values (getDateTime pic.clock) pic.width.toUInt32
    pic.height.toUInt32).map Tag.field) h rfl rfl

theorem extent_zerothFields : extent (pic.zerothFields a b) = extent (pic.zerothFields 0 0) := by
  have h₁ : extent (pic.zerothFields a b) = extent (pic.zerothFields 0 b) :=
    extent_patch ((nameTags pic.vendorName pic.productName).map Tag.field) rfl rfl
  have h₂ : extent (pic.zerothFields 0 b) = extent (pic.zerothFields 0 0) :=
    extent_patch ((nameTags pic.vendorName pic.productName ++
      [Tag.long TagId.exifIfdPtr (.ofNat 0)]).map Tag.field) rfl rfl
  rw [h₁, h₂]

theorem extent_exifFields : extent (pic.exifFields a) = extent (pic.exifFields 0) :=
  extent_patch ((pictureTags pic.values (getDateTime pic.clock) pic.width.toUInt32
    pic.height.toUInt32).map Tag.field) rfl rfl

end Patch

theorem updateFields_eq : g.updateFields =
    (((g.writeLongAt g.exifIfdPointerOffset (.ofNat g.newExifIfdPointerOffset)).writeLongAt
      g.interopIfdPointerOffset (.ofNat g.newInteropIfdPointerOffset)).writeLongAt
      g.gpsIfdPointerOffset (.ofNat g.newGpsIfdPointerOffset)).overwriteShort g.app1beginOffset
      (.ofNat (g.currentOffset - g.app1beginOffset)) := rfl

/-- `UpdateFields` turns what was drawn into the finished segment. -/
theorem updateFields_written (h : Drawn pic g) (hov : g.updateFields.overflowFlag = false) :
    g.overflowFlag = false ∧ Written pic g.updateFields.exifBuffer ∧
      g.updateFields.currentOffset = pic.segmentSize ∧ g.updateFields.helperBufferOffset = 0 := by
  have hmax : kMaxExifApp1Length = 65535 := rfl
  have htab := h.tableRoom
  have o₁ := pic.exifOffset_ge
  have o₂ : pic.exifOffset + extent (pic.exifFields 0) = pic.interopOffset := rfl
  have o₃ := pic.gpsOffset_ge
  have hsize : 6 + 12 * 16 ≤ extent (pic.exifFields 0) := by
    rw [extent, Picture.length_exifFields, tableSize]
    omega
  have hzero : 6 + 12 * 5 ≤ extent (pic.zerothFields 0 0) := by
    rw [extent, Picture.length_zerothFields, tableSize]
    omega
  rw [updateFields_eq, h.exifPointer, h.newExif, h.interopPointer, h.newInterop, h.gpsPointer, h.newGps,
    h.app1begin, h.current] at hov ⊢
  obtain ⟨hov₃, heq₄⟩ := overwriteShort_eq hov (by decide)
  obtain ⟨hov₂, heq₃⟩ := writeLongAt_eq hov₃ (by decide)
  obtain ⟨hov₁, heq₂⟩ := writeLongAt_eq hov₂ (by omega)
  obtain ⟨hov₀, heq₁⟩ := writeLongAt_eq hov₁ (by decide)
  rw [heq₄, heq₃, heq₂, heq₁]
  refine ⟨hov₀, ?_, h.current, h.helperOffset⟩
  simp only
  have hz : Laid _ 10 8 (pic.zerothFields pic.exifOffset 0) := patch_exif h.zeroth
  have hz' : Laid (store _ (10 + pic.exifOffset + 2 + 12 * 13 + 8)
      (encodeBe32 (.ofNat pic.interopOffset))) 10 8 (pic.zerothFields pic.exifOffset 0) :=
    hz.store_apart (.inr (by rw [extent_zerothFields]; omega))
  have he : Laid (store _ (10 + 8 + 2 + 12 * 3 + 8) (encodeBe32 (.ofNat pic.exifOffset))) 10
      pic.exifOffset (pic.exifFields 0) :=
    h.exif.store_apart (.inl (by rw [length_encodeBe32]; omega))
  refine ⟨?_, Holds.store_self, ?_, ?_, ?_, ?_⟩
  · refine h.header.congr fun i hi h2 h3 => ?_
    rw [store_of_apart (by rw [length_encodeBe16]; omega), store_of_lt (by omega),
      store_of_lt (by omega), store_of_lt (by omega)]
  · exact (patch_gps hz').store_apart (.inl (by rw [length_encodeBe16]; omega))
  · exact ((patch_interop he).store_apart (.inl (by rw [length_encodeBe32]; omega))).store_apart
      (.inl (by rw [length_encodeBe16]; omega))
  -- the Interop and the GPS IFD lie behind everything that is patched
  · refine h.interop.congr fun i hi _ => ?_
    rw [store_of_ge (by rw [length_encodeBe16]; omega), store_of_ge (by rw [length_encodeBe32]; omega),
      store_of_ge (by rw [length_encodeBe32]; omega), store_of_ge (by rw [length_encodeBe32]; omega)]
  · refine h.gps.congr fun i hi _ => ?_
    rw [store_of_ge (by rw [length_encodeBe16]; omega), store_of_ge (by rw [length_encodeBe32]; omega),
      store_of_ge (by rw [length_encodeBe32]; omega), store_of_ge (by rw [length_encodeBe32]; omega)]

end ExifGenerator

end QmmfSdk.Exif
