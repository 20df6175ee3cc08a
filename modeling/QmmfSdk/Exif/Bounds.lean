import QmmfSdk.Exif.Memory

/-! When `Generate` writes inside its buffers, and reports what does not fit. -/
namespace QmmfSdk.Exif

open Library Library.Tiff
open ExifGenerator (cLength length_cString)

namespace ExifGenerator

open IfdWriter

variable {g : ExifGenerator} {pic : Picture} {exif helper : Nat → UInt8}

section Copies

/-- `Generate` clears its helper buffer, but not what lies behind it. -/
def cleared (helper : Nat → UInt8) : Nat → UInt8 :=
  fun i => if i < kMaxExifApp1Length then 0 else helper i

theorem cleared_of_le {i : Nat} (h : kMaxExifApp1Length ≤ i) : cleared helper i = helper i :=
  if_neg (Nat.not_lt.mpr h)

/-- The generator as `Generate` prepares it, with what lies behind the two buffers. -/
def onMemory (g : ExifGenerator) (exif helper : Nat → UInt8) : ExifGenerator :=
  { fresh exif g with helperBuffer := cleared helper }

/-- No cell behind the buffers is written, whatever it holds. -/
def WritesInside (pic : Picture) (g : ExifGenerator) : Prop :=
  ∀ exif helper i, kMaxExifApp1Length ≤ i →
    (writeExifData pic (g.onMemory exif helper)).1.exifBuffer i = exif i ∧
      (writeExifData pic (g.onMemory exif helper)).1.helperBuffer i = helper i

/-- Where the values of the Exif IFD end. -/
def Picture.exifEnd (pic : Picture) : Nat :=
  10 + (evenUp (8 + (6 + 12 * 5 + pic.keptNames)) + (6 + 12 * 16 + pic.timeRoom))

/-- What is copied without a check ends in the buffer: the values of the Exif IFD, and those of the
GPS IFD if there are any. -/
structure Picture.CopiesInside (pic : Picture) : Prop where
  names : pic.NamesSummed
  exif : pic.exifEnd ≤ kMaxExifApp1Length
  gps : 0 < areaEnd 0 pic.gpsFields →
    evenUp (pic.exifEnd + (6 + 12 * 2)) + (6 + pic.gpsRoom) ≤ kMaxExifApp1Length

theorem writeExifData_memory : (writeExifData pic g).1.exifBuffer =
      (g.writeHeader.writeIfds pic).updateFields.exifBuffer ∧
    (writeExifData pic g).1.helperBuffer =
      (g.writeHeader.writeIfds pic).updateFields.helperBuffer := by
  unfold writeExifData
  generalize (g.writeHeader.writeIfds pic).updateFields = g'
  dsimp only
  split <;> split <;> exact ⟨rfl, rfl⟩

/-- The memory behind the buffers after a call. -/
theorem onMemory_memory (hhelp : g.helperBufferOffset = 0) (hv : Bounded pic.values) {a : Nat}
    (ha : (zerothOut pic (cleared helper)).offset = a) (hsmall : a < 2 ^ 28) :
    (writeExifData pic (g.onMemory exif helper)).1.helperBuffer = (gpsOut pic (cleared helper)).buffer ∧
      ∀ i, kMaxExifApp1Length ≤ i →
        (writeExifData pic (g.onMemory exif helper)).1.exifBuffer i =
          copied (areaStart (gpsBegin a pic.timeRoom) pic.gpsFields.length) (areaEnd 0 pic.gpsFields)
            (gpsOut pic (cleared helper)).buffer
            (copied (areaStart (exifBegin a) 16) pic.timeRoom (exifOut pic (cleared helper)).buffer
              (copied (areaStart 18 5) a (zerothOut pic (cleared helper)).buffer exif)) i := by
  have hmax : kMaxExifApp1Length = 65535 := rfl
  have hheader := writeHeader_eq (g := g.onMemory exif helper) rfl
  have hbetween : Between (g.onMemory exif helper).writeHeader 18 (cleared helper) := by
    rw [hheader]
    refine ⟨rfl, ?_⟩
    show (⟨cleared helper, g.helperBufferOffset, false⟩ : Out) = _
    rw [hhelp]
  have hbegin : (g.onMemory exif helper).writeHeader.app1beginOffset < 2 ^ 31 := by
    rw [hheader]
    show 2 < 2 ^ 31
    decide
  have hbehind : ∀ i, kMaxExifApp1Length ≤ i →
      (g.onMemory exif helper).writeHeader.exifBuffer i = exif i := by
    intro i hi
    rw [hheader]
    show store _ 10 _ i = _
    rw [store_of_ge (by rw [List.length_append, List.length_append, length_encodeBe16,
      length_encodeBe16, length_encodeBe32]; omega), store_of_ge (by
      rw [List.length_append, length_encodeBe16, length_encodeBe32]; omega),
      store_of_ge (by rw [length_encodeBe16]; omega)]
    rfl
  have hplaced : Placed ((g.onMemory exif helper).writeHeader.writeIfds pic) :=
    writeIfds_placed hbetween hbegin (by rw [ha]; exact hsmall)
  obtain ⟨hhelper, hexif⟩ := writeIfds_memory (g := (g.onMemory exif helper).writeHeader) hv hbetween
    ha hsmall
  obtain ⟨huhelper, huexif⟩ := updateFields_memory hplaced
  rw [writeExifData_memory.1, writeExifData_memory.2, huhelper]
  refine ⟨hhelper, fun i hi => ?_⟩
  rw [huexif i hi, hexif i hi]
  unfold copied
  rw [hbehind i hi]

theorem copied_of_le {dest k i : Nat} {m m' : Nat → UInt8} (h : dest + k ≤ i ∨ k = 0) :
    copied dest k m' m i = m i :=
  if_neg fun hin => by omega

theorem copied_of_lt {dest k i : Nat} {m m' : Nat → UInt8} (h : i < dest) :
    copied dest k m' m i = m i :=
  if_neg fun hin => by omega

theorem copied_of_within {dest k i : Nat} {m m' : Nat → UInt8} (h : dest ≤ i) (h' : i < dest + k) :
    copied dest k m' m i = m' (i - dest) :=
  if_pos ⟨h, h'⟩

theorem areaStart_of_lt {c n : Nat} (h : c + 1 < kMaxExifApp1Length) :
    areaStart c n = c + (6 + 12 * n) := by
  rw [areaStart, if_pos h, kTagSize]
  omega

theorem padded_of_lt {c : Nat} (h : c < kMaxExifApp1Length) : padded c = evenUp c := if_pos h

/-- Where the unchecked copies end, as long as they are inside. -/
theorem copies_of_exifEnd (h : pic.exifEnd ≤ kMaxExifApp1Length) :
    areaStart 18 5 + pic.keptNames ≤ kMaxExifApp1Length ∧
      areaStart (exifBegin pic.keptNames) 16 + pic.timeRoom = pic.exifEnd := by
  have hmax : kMaxExifApp1Length = 65535 := rfl
  have hfirst : areaStart 18 5 = 84 := by decide
  have hle := @le_evenUp (8 + (6 + 12 * 5 + pic.keptNames))
  rw [Picture.exifEnd] at h
  have hbegin : exifBegin pic.keptNames = 10 + evenUp (8 + (6 + 12 * 5 + pic.keptNames)) := by
    rw [exifBegin, padded_of_lt (by omega), hfirst, evenUp, evenUp]
    omega
  refine ⟨by omega, ?_⟩
  rw [hbegin, areaStart_of_lt (by omega), Picture.exifEnd]
  omega

theorem gpsArea_end (h : evenUp (pic.exifEnd + (6 + 12 * 2)) + (6 + pic.gpsRoom) ≤ kMaxExifApp1Length)
    (hexif : pic.exifEnd ≤ kMaxExifApp1Length) :
    areaStart (gpsBegin pic.keptNames pic.timeRoom) pic.gpsFields.length +
      areaEnd 0 pic.gpsFields = evenUp (pic.exifEnd + (6 + 12 * 2)) + (6 + pic.gpsRoom) := by
  have hmax : kMaxExifApp1Length = 65535 := rfl
  have hroom := @gpsRoom_eq pic
  have hle := @le_evenUp (pic.exifEnd + (6 + 12 * 2))
  have hinterop : interopBegin pic.keptNames pic.timeRoom = pic.exifEnd :=
    (copies_of_exifEnd hexif).2
  have hbegin : gpsBegin pic.keptNames pic.timeRoom = evenUp (pic.exifEnd + (6 + 12 * 2)) := by
    rw [gpsBegin, hinterop, areaStart_of_lt (by omega), padded_of_lt (by omega)]
  rw [hbegin, areaStart_of_lt (by omega)]
  omega

theorem timeRoom_pos (pic : Picture) : 0 < pic.timeRoom := by
  have hlong : ∃ f ∈ pic.exifFields 0, f.value.length = 8 :=
    ⟨(Tag.rational TagId.exposureTime pic.values.exposureTime).field, List.mem_cons_self, rfl⟩
  obtain ⟨f, hf, hlen⟩ := hlong
  have hle : f.value.length ≤ areaEnd 0 (pic.exifFields 0) + 4 := length_le_areaEnd hf
  rw [areaEnd_exif] at hle
  omega

theorem keptNames_lt (pic : Picture) : pic.keptNames < kMaxExifApp1Length :=
  keptEnd_lt (keptEnd_lt (keptEnd_lt (by decide)))

theorem writesInside_of_copiesInside (hhelp : g.helperBufferOffset = 0) (hv : Bounded pic.values)
    (h : pic.CopiesInside) : WritesInside pic g := by
  have hmax : kMaxExifApp1Length = 65535 := rfl
  intro exif helper i hi
  have hkept := keptNames_lt pic
  obtain ⟨hbehind, ha⟩ := @zerothOut_kept pic (cleared helper) h.names
  obtain ⟨hhelper, hexif⟩ := @onMemory_memory g pic exif helper hhelp hv _ ha (by omega)
  obtain ⟨hzeroth, hexifCopy⟩ := copies_of_exifEnd h.exif
  have hexifEnd := h.exif
  constructor
  · rw [hexif i hi, copied_of_le, copied_of_le (.inl (by omega)), copied_of_le (.inl (by omega))]
    by_cases harea : 0 < areaEnd 0 pic.gpsFields
    · have hgps := h.gps harea
      have hgpsCopy := gpsArea_end hgps h.exif
      exact .inl (by omega)
    · exact .inr (by omega)
  · rw [hhelper, (gpsOut_fits hv).1 i hi, exifOut_fits.1 i hi, hbehind i hi,
      cleared_of_le hi]

/-! ### What leaves a buffer is seen -/

theorem store_congr {m m' : Nat → UInt8} {off i : Nat} {bs : List UInt8} (h : off ≤ i)
    (h' : i < off + bs.length) : store m off bs i = store m' off bs i := by
  have hcell : bs[i - off]? = some bs[i - off] := List.getElem?_eq_getElem (by omega)
  simp only [store, if_pos h, hcell, Option.getD_some]

theorem stage_cString_lt {o : Out} {id : UInt32} {s : List UInt8}
    (h : o.offset < kMaxExifApp1Length) : (stage o (.cString id s)).offset < kMaxExifApp1Length := by
  have hmax : kMaxExifApp1Length = 65535 := rfl
  rw [stage_cString]
  split
  · exact h
  · split
    · show evenUp o.offset < _
      rw [evenUp]
      omega
    · show (evenUp o.offset + cLength s) % 2 ^ 32 < _
      omega

theorem zerothOut_lt : (zerothOut pic helper).offset < kMaxExifApp1Length := by
  rw [zerothOut_eq]
  exact stage_cString_lt (stage_cString_lt (stage_cString_lt (show 0 < 65535 by decide)))

/-- A wrapped sum: the product name is stored over the end of the helper buffer, whatever is there. -/
theorem zerothOut_wrapped (h : ¬ pic.NamesSummed) (helper helper' : Nat → UInt8) :
    (zerothOut pic helper).buffer kMaxExifApp1Length =
      (zerothOut pic helper').buffer kMaxExifApp1Length := by
  have hmax : kMaxExifApp1Length = 65535 := rfl
  have hwrap : cLength pic.productName < 2 ^ 32 := Nat.mod_lt _ (by decide)
  have hlen (id : UInt32) : (Tag.cString id pic.productName).value.bytes.length =
    cLength pic.productName := @length_cString id pic.productName
  unfold Picture.NamesSummed at h
  rw [zerothOut_eq, zerothOut_eq]
  have hoff := (@stage_vendor helper TagId.make pic.vendorName).2
  have hoff' := (@stage_vendor helper' TagId.make pic.vendorName).2
  generalize stage ⟨helper, 0, false⟩ (.cString TagId.make pic.vendorName) = o at *
  generalize stage ⟨helper', 0, false⟩ (.cString TagId.make pic.vendorName) = o' at *
  have hkept : keptEnd 0 (cLength pic.vendorName) < kMaxExifApp1Length := keptEnd_lt (by decide)
  rw [← hoff] at h hkept hoff'
  have heven : evenUp o.offset ≤ 65534 := by
    rw [evenUp]
    omega
  have hlong : ¬ cLength pic.productName ≤ 4 := by omega
  have hroom : ¬ kMaxExifApp1Length ≤ (evenUp o.offset + cLength pic.productName) % 2 ^ 32 := by
    omega
  rw [stage_cString (o := o), stage_cString (o := o'), hoff', if_neg hlong, if_neg hroom, if_neg hlong,
    if_neg hroom, stage_cString, stage_cString, if_neg hlong, if_neg hlong]
  dsimp only
  generalize hnext : (evenUp o.offset + cLength pic.productName) % 2 ^ 32 = next
  have hmodel : store o.buffer (evenUp o.offset) (Tag.cString TagId.model pic.productName).value.bytes
      kMaxExifApp1Length = store o'.buffer (evenUp o.offset)
        (Tag.cString TagId.model pic.productName).value.bytes kMaxExifApp1Length :=
    store_congr (by omega) (by rw [hlen]; omega)
  split
  · exact hmodel
  · refine store_congr ?_ ?_
    · rw [evenUp]
      omega
    · rw [hlen, evenUp]
      omega

theorem namesSummed_of_writesInside (hhelp : g.helperBufferOffset = 0) (hv : Bounded pic.values)
    (h : WritesInside pic g) : pic.NamesSummed := by
  have hmax : kMaxExifApp1Length = 65535 := rfl
  by_contra hwrap
  have hcell (helper : Nat → UInt8) : (zerothOut pic (cleared helper)).buffer kMaxExifApp1Length =
      helper kMaxExifApp1Length := by
    have hlt := @zerothOut_lt pic (cleared helper)
    have hinside := (h helper helper kMaxExifApp1Length (Nat.le_refl _)).2
    rw [(onMemory_memory hhelp hv rfl (by omega)).1, (gpsOut_fits hv).1 _ (Nat.le_refl _),
      exifOut_fits.1 _ (Nat.le_refl _)] at hinside
    exact hinside
  have hzero := hcell fun _ => 0
  have hone := hcell fun _ => 1
  rw [zerothOut_wrapped hwrap (cleared fun _ => 0) (cleared fun _ => 1), hone] at hzero
  exact absurd hzero (by decide)

/-- No byte is in a cell of every memory. -/
theorem false_of_every_memory {byte : UInt8} {i : Nat}
    (h : ∀ memory : Nat → UInt8, byte = memory i) : False := by
  have hzero := h fun _ => 0
  rw [h fun _ => 1] at hzero
  exact absurd hzero (by decide)

theorem exifEnd_le_of_writesInside (hhelp : g.helperBufferOffset = 0) (hv : Bounded pic.values)
    (hnames : pic.NamesSummed) (h : WritesInside pic g) : pic.exifEnd ≤ kMaxExifApp1Length := by
  have hmax : kMaxExifApp1Length = 65535 := rfl
  by_contra hend
  have ha := (@zerothOut_kept pic (cleared fun _ => 0) hnames).2
  have hkept := keptNames_lt pic
  have htime := timeRoom_pos pic
  have hstart := @areaStart_bounds (exifBegin pic.keptNames) 16
  have hover : kMaxExifApp1Length < areaStart (exifBegin pic.keptNames) 16 + pic.timeRoom := by
    by_cases hlow : exifBegin pic.keptNames + 1 < kMaxExifApp1Length
    · have hfirst : areaStart 18 5 = 84 := by decide
      have hle : areaStart 18 5 + pic.keptNames ≤ exifBegin pic.keptNames := le_padded
      have hbegin : exifBegin pic.keptNames = 10 + evenUp (8 + (6 + 12 * 5 + pic.keptNames)) := by
        rw [exifBegin, padded_of_lt (by omega), hfirst, evenUp, evenUp]
        omega
      rw [Picture.exifEnd] at hend
      rw [areaStart_of_lt hlow]
      omega
    · omega
  -- the last cell that is copied
  obtain ⟨i, hi⟩ : ∃ i, i + 1 = areaStart (exifBegin pic.keptNames) 16 + pic.timeRoom :=
    ⟨_, Nat.sub_add_cancel (by omega)⟩
  have hgps : i < areaStart (gpsBegin pic.keptNames pic.timeRoom) pic.gpsFields.length := by
    have h₁ := @areaStart_bounds (gpsBegin pic.keptNames pic.timeRoom) pic.gpsFields.length
    have h₂ : areaStart (interopBegin pic.keptNames pic.timeRoom) 2 ≤
      gpsBegin pic.keptNames pic.timeRoom := le_padded
    have h₃ := @areaStart_bounds (interopBegin pic.keptNames pic.timeRoom) 2
    have h₄ : interopBegin pic.keptNames pic.timeRoom =
      areaStart (exifBegin pic.keptNames) 16 + pic.timeRoom := rfl
    omega
  have hcell (exif : Nat → UInt8) : (exifOut pic (cleared fun _ => 0)).buffer
      (i - areaStart (exifBegin pic.keptNames) 16) = exif i := by
    have hinside := (h exif (fun _ => 0) i (by omega)).1
    rw [(onMemory_memory hhelp hv ha (by omega)).2 i (by omega), copied_of_lt hgps,
      copied_of_within (by omega) (by omega)] at hinside
    exact hinside
  exact false_of_every_memory hcell

theorem gpsEnd_le_of_writesInside (hhelp : g.helperBufferOffset = 0) (hv : Bounded pic.values)
    (hnames : pic.NamesSummed) (h : WritesInside pic g) (hexif : pic.exifEnd ≤ kMaxExifApp1Length)
    (harea : 0 < areaEnd 0 pic.gpsFields) :
    evenUp (pic.exifEnd + (6 + 12 * 2)) + (6 + pic.gpsRoom) ≤ kMaxExifApp1Length := by
  have hmax : kMaxExifApp1Length = 65535 := rfl
  by_contra hend
  have ha := (@zerothOut_kept pic (cleared fun _ => 0) hnames).2
  have hkept := keptNames_lt pic
  have hroom := @gpsRoom_eq pic
  have hinterop : interopBegin pic.keptNames pic.timeRoom = pic.exifEnd :=
    (copies_of_exifEnd hexif).2
  have hstart := @areaStart_bounds (gpsBegin pic.keptNames pic.timeRoom) pic.gpsFields.length
  have hover : kMaxExifApp1Length < areaStart (gpsBegin pic.keptNames pic.timeRoom)
      pic.gpsFields.length + areaEnd 0 pic.gpsFields := by
    by_cases hlow : gpsBegin pic.keptNames pic.timeRoom + 1 < kMaxExifApp1Length
    · have hle : areaStart (interopBegin pic.keptNames pic.timeRoom) 2 ≤
        gpsBegin pic.keptNames pic.timeRoom := le_padded
      have hnear := @areaStart_bounds (interopBegin pic.keptNames pic.timeRoom) 2
      have hbegin : gpsBegin pic.keptNames pic.timeRoom = evenUp (pic.exifEnd + (6 + 12 * 2)) := by
        rw [gpsBegin, padded_of_lt (by omega), hinterop, areaStart_of_lt (by omega)]
      rw [areaStart_of_lt hlow]
      omega
    · omega
  -- the last cell that is copied
  obtain ⟨i, hi⟩ : ∃ i, i + 1 = areaStart (gpsBegin pic.keptNames pic.timeRoom)
      pic.gpsFields.length + areaEnd 0 pic.gpsFields := ⟨_, Nat.sub_add_cancel (by omega)⟩
  have hcell (exif : Nat → UInt8) : (gpsOut pic (cleared fun _ => 0)).buffer
      (i - areaStart (gpsBegin pic.keptNames pic.timeRoom) pic.gpsFields.length) = exif i := by
    have hinside := (h exif (fun _ => 0) i (by omega)).1
    rw [(onMemory_memory hhelp hv ha (by omega)).2 i (by omega),
      copied_of_within (by omega) (by omega)] at hinside
    exact hinside
  exact false_of_every_memory hcell

theorem writesInside_iff (hhelp : g.helperBufferOffset = 0) (hv : Bounded pic.values) :
    WritesInside pic g ↔ pic.CopiesInside := by
  refine ⟨fun h => ?_, writesInside_of_copiesInside hhelp hv⟩
  have hnames := namesSummed_of_writesInside hhelp hv h
  have hexif := exifEnd_le_of_writesInside hhelp hv hnames h
  exact ⟨hnames, hexif, gpsEnd_le_of_writesInside hhelp hv hnames h hexif⟩

end Copies

section Report

variable {F D : Type} {p : Platform F D} {r : Request F D} {buffer : Nat → UInt8}

theorem keptEnd_of_lt {o k : Nat} (h : valueEnd o k < kMaxExifApp1Length) :
    keptEnd o k = valueEnd o k := by
  unfold keptEnd valueEnd at *
  split
  · rfl
  · next hlong =>
    rw [if_neg hlong] at h
    exact if_pos h

theorem Picture.NamesSummed.modelSummed (h : pic.NamesSummed) : pic.ModelSummed := by
  intro hvendor
  have hroom : valueEnd 0 (cLength pic.vendorName) < kMaxExifApp1Length := by
    rw [valueEnd, evenUp]
    split <;> omega
  rw [← keptEnd_of_lt hroom]
  exact h

theorem le_valueEnd_left {o k : Nat} : o ≤ valueEnd o k := by
  unfold valueEnd
  split
  · exact Nat.le_refl o
  · exact Nat.le_trans le_evenUp (Nat.le_add_right _ k)

/-- Names that fit one after the other are all staged. -/
theorem keptNames_of_lt (h : pic.nameRoom < kMaxExifApp1Length) : pic.keptNames = pic.nameRoom := by
  unfold Picture.nameRoom at h
  have hmodel := Nat.lt_of_le_of_lt le_valueEnd_left h
  have hmake := Nat.lt_of_le_of_lt le_valueEnd_left hmodel
  rw [Picture.keptNames, keptEnd_of_lt hmake, keptEnd_of_lt hmodel, keptEnd_of_lt h, Picture.nameRoom]

theorem room_eq : pic.room = 10 + pic.gpsOffset + (6 + pic.gpsRoom) := by
  rw [gpsOffset_eq, Picture.room]

/-- Where the unchecked copies are inside, the flag tells whether the picture fits. -/
theorem room_le_of_quiet (hv : Bounded pic.values) (h : pic.CopiesInside)
    (hov : (drawnFresh pic buffer).overflowFlag = false) : pic.room ≤ kMaxExifApp1Length := by
  have hmax : kMaxExifApp1Length = 65535 := rfl
  have hfit : 10 + pic.gpsOffset + tableSize pic.gpsFields.length < kMaxExifApp1Length :=
    tablesFit_of_quiet hv h.names.modelSummed hov
  have htab : tableSize pic.gpsFields.length = 2 + 12 * pic.gpsFields.length + 4 := rfl
  have hgps := @gpsRoom_eq pic
  have hroom := @room_eq pic
  obtain ⟨hge, -, -⟩ := @gpsOffset_bounds pic
  by_cases harea : 0 < areaEnd 0 pic.gpsFields
  · have hend := h.gps harea
    rw [Picture.exifEnd, keptNames_of_lt (by omega)] at hend
    rw [Picture.room]
    unfold evenUp at *
    omega
  · omega

theorem quiet_of_room_le (hv : Bounded pic.values) (h : pic.room ≤ kMaxExifApp1Length) :
    (drawnFresh pic buffer).overflowFlag = false := by
  have hmax : kMaxExifApp1Length = 65535 := rfl
  have htab : tableSize pic.gpsFields.length = 2 + 12 * pic.gpsFields.length + 4 := rfl
  have hgps := @gpsRoom_eq pic
  have hroom := @room_eq pic
  obtain ⟨-, -, heven⟩ := @gpsOffset_bounds pic
  refine quiet_of_tablesFit ?_ hv
  unfold Picture.TablesFit
  omega

/-- The header, the tables and all values take at most `kMaxExifApp1Length` bytes; a name of 4 GiB is
counted with 32 bits. -/
structure Picture.DataFits (pic : Picture) : Prop where
  vendor : pic.vendorName.length < kMaxExifApp1Length
  product : pic.productName.length < kMaxExifApp1Length
  room : pic.room ≤ kMaxExifApp1Length

/-- Nothing was written successfully before, and this picture or one before it is seen not to fit. -/
def Picture.Refused (pic : Picture) (g : ExifGenerator) : Prop :=
  g.app1Present = false ∧ (g.overflowFlag = true ∨ kMaxExifApp1Length < pic.room)

/-- On a generator that nothing is staged in. -/
theorem reports_iff (hhelp : g.helperBufferOffset = 0) (hv : Bounded pic.values)
    (h : pic.CopiesInside) :
    ((writeExifData pic (fresh buffer g)).1.overflowFlag = true ∧
      (writeExifData pic (fresh buffer g)).2 = 0) ↔ pic.Refused g := by
  have hc := @writeExifData_carried g pic buffer hhelp
  have hpos := @currentOffset_drawnFresh pic buffer
  have hflag : (drawnFresh pic buffer).overflowFlag = true ↔ kMaxExifApp1Length < pic.room := by
    rw [← Bool.not_eq_false, ← Nat.not_le]
    exact not_congr ⟨room_le_of_quiet hv h, quiet_of_room_le hv⟩
  rw [hc.overflow, hc.size, Picture.Refused, ← hflag, Bool.or_eq_true]
  constructor
  · rintro ⟨hup, hzero⟩
    refine ⟨?_, hup⟩
    by_contra hpresent
    rw [if_neg (by simp [hpresent])] at hzero
    omega
  · rintro ⟨hpresent, hup⟩
    refine ⟨hup, if_pos ?_⟩
    rw [hpresent, Bool.or_eq_true_iff.mpr hup]
    rfl

/-- The text of the processing method has room in its array. -/
def Request.MethodFits (r : Request F D) : Prop :=
  ∀ method ∈ r.metadata.jpegGpsProcessingMethod,
    kASCIICharacterCode.length + method.length + 1 ≤ gpsProcessingMethodSize

theorem extract_isSome_iff :
    (extractExifTagValues p r.metadata).isSome = true ↔ r.MethodFits := by
  unfold extractExifTagValues Request.MethodFits
  extract_lets v₀ v₁ v₂ v₃ v₄ v₅ v₆ v₇ v₈
  cases r.metadata.jpegGpsProcessingMethod with
  | none => simp
  | some method =>
    simp only [getGpsProcessingMethod, Option.mem_def, Option.some.injEq, forall_eq']
    split <;> simp_all

/-- What a call with a buffer has to do: no write leaves an array, and a picture that does not fit is
reported. -/
def StaysInBounds (p : Platform F D) (g : ExifGenerator) (r : Request F D) : Prop :=
  r.buffer.isSome = true → ∃ v g' n, extractExifTagValues p r.metadata = some v ∧
    generate p g r = some (g', n) ∧ WritesInside (r.picture v) g ∧
    (¬ (r.picture v).DataFits → g'.overflowFlag = true ∧ n = 0)

/-- The texts have room in the arrays they are copied to without a check. -/
structure Request.Accommodated (p : Platform F D) (g : ExifGenerator) (r : Request F D) : Prop where
  method : r.MethodFits
  copies : ∀ v ∈ extractExifTagValues p r.metadata, (r.picture v).CopiesInside
  told : ∀ v ∈ extractExifTagValues p r.metadata, (r.picture v).DataFits ∨ (r.picture v).Refused g

theorem generate_of_extract {v : ExifTagValues} (hbuffer : r.buffer = some buffer)
    (hv : extractExifTagValues p r.metadata = some v) :
    generate p g r = some (writeExifData (r.picture v) (fresh buffer g)) := by
  simp only [generate, hbuffer, hv, Option.bind_eq_bind, Option.bind_some, Option.pure_def]

section Epoch

variable {vendorName : List UInt8}

theorem epoch_exifEnd (h : 4 ≤ vendorName.length) (hlt : vendorName.length < 65000) :
    ((epochRequest vendorName).picture epochValues).exifEnd =
      10 + (evenUp (75 + vendorName.length) + 313) := by
  have hmax : kMaxExifApp1Length = 65535 := rfl
  have hnames := epoch_nameRoom h (by omega)
  rw [Picture.exifEnd, keptNames_of_lt (by omega), hnames, epoch_timeRoom]
  unfold evenUp
  omega

theorem epoch_namesSummed : ((epochRequest vendorName).picture epochValues).NamesSummed := by
  have hmax : kMaxExifApp1Length = 65535 := rfl
  have hkept : keptEnd 0 (cLength vendorName) < kMaxExifApp1Length := keptEnd_lt (by decide)
  show evenUp (keptEnd 0 (cLength vendorName)) + cLength [] < 2 ^ 32
  have hproduct : cLength [] = 1 := rfl
  rw [evenUp]
  omega

theorem epoch_accommodated (hlt : vendorName.length ≤ 64000) (h : 4 ≤ vendorName.length) :
    (epochRequest vendorName).Accommodated epochPlatform g := by
  have hmax : kMaxExifApp1Length = 65535 := rfl
  have hend := epoch_exifEnd h (by omega)
  have hgps := @epoch_gpsRoom vendorName
  have hroom := epoch_room h (by omega)
  have hle := @evenUp_le (75 + vendorName.length)
  have hle' := @evenUp_le (evenUp (75 + vendorName.length) + 343)
  refine ⟨?_, fun v hv => ?_, fun v hv => ?_⟩
  · intro method hmethod
    obtain rfl := Option.some.inj hmethod
    decide
  · obtain rfl := Option.some.inj (epoch_extract.symm.trans hv)
    refine ⟨epoch_namesSummed, by omega, fun _ => ?_⟩
    rw [hend, hgps]
    unfold evenUp at *
    omega
  · obtain rfl := Option.some.inj (epoch_extract.symm.trans hv)
    exact .inl ⟨show vendorName.length < _ by omega, show 0 < 65535 by decide, by omega⟩

end Epoch

/-- After whatever calls, the next one stays in its arrays and reports what does not fit if and only
if it is given no buffer, or its texts have room where they are copied without a check and no
picture that fitted was written before one that does not. -/
theorem staysInBounds_iff {rs : List (Request F D)}
    (hrun : LTS.run (call p) (init helper) rs = some g) :
    StaysInBounds p g r ↔ (r.buffer.isSome = true → r.Accommodated p g) := by
  have hhelp : g.helperBufferOffset = 0 := helperOffset_of_run hrun
  refine imp_congr_right fun hbuffer => ?_
  obtain ⟨buffer, hbuffer⟩ := Option.isSome_iff_exists.mp hbuffer
  constructor
  · rintro ⟨v, g', n, hv, hgen, hinside, hreport⟩
    have hbounded : Bounded (r.picture v).values := extract_bounded hv
    have hcopies := (writesInside_iff hhelp hbounded).mp hinside
    rw [generate_of_extract hbuffer hv, Option.some.injEq] at hgen
    refine ⟨extract_isSome_iff.mp (by rw [hv]; rfl), fun v' hv' => ?_, fun v' hv' => ?_⟩
    · obtain rfl := Option.some.inj (hv.symm.trans hv')
      exact hcopies
    · obtain rfl := Option.some.inj (hv.symm.trans hv')
      by_cases hfits : (r.picture v).DataFits
      · exact .inl hfits
      · refine .inr ((@reports_iff g (r.picture v) buffer hhelp hbounded hcopies).mp ?_)
        rw [hgen]
        exact hreport hfits
  · rintro ⟨hmethod, hcopies, htold⟩
    obtain ⟨v, hv⟩ := Option.isSome_iff_exists.mp (extract_isSome_iff (p := p).mpr hmethod)
    have hbounded : Bounded (r.picture v).values := extract_bounded hv
    have hgen : generate p g r = _ := generate_of_extract hbuffer hv
    have hreport := @reports_iff g (r.picture v) buffer hhelp hbounded (hcopies v hv)
    generalize writeExifData (r.picture v) (fresh buffer g) = x at *
    obtain ⟨g', n⟩ := x
    exact ⟨v, g', n, hv, hgen, (writesInside_iff hhelp hbounded).mpr (hcopies v hv),
      fun hnot => hreport.mpr ((htold v hv).resolve_left hnot)⟩

theorem staysInBounds_iff_second_picture : ∃ g,
    LTS.run (call epochPlatform) (init fun _ => 0) [epochRequest [81, 67, 79, 77]] = some g ∧
    StaysInBounds epochPlatform g (epochRequest [81, 67, 79, 77]) := by
  obtain ⟨g, hrun⟩ := epoch_call (fun _ => 0) [81, 67, 79, 77]
  exact ⟨g, hrun, (staysInBounds_iff hrun).mpr fun _ => epoch_accommodated (by decide) (by decide)⟩

/-- A vendor name of 64991 bytes: the values of the GPS IFD are copied behind the output buffer. -/
theorem long_vendorName_leaves_buffer :
    ¬ StaysInBounds epochPlatform (init fun _ => 0) (epochRequest (List.replicate 64991 65)) := by
  have hmax : kMaxExifApp1Length = 65535 := rfl
  have hlen : (List.replicate 64991 (65 : UInt8)).length = 64991 := List.length_replicate
  generalize List.replicate 64991 (65 : UInt8) = name at *
  intro h
  obtain ⟨v, -, -, hv, -, hinside, -⟩ := h rfl
  obtain rfl := Option.some.inj (epoch_extract.symm.trans hv)
  have hcopies := (writesInside_iff rfl (extract_bounded hv)).mp hinside
  have hgps := @epoch_gpsRoom name
  have harea := @gpsRoom_eq ((epochRequest name).picture epochValues)
  have hfields : ((epochRequest name).picture epochValues).gpsFields.length = 9 := rfl
  have hend := hcopies.gps (by omega)
  rw [epoch_exifEnd (by omega) (by omega), hgps, hlen] at hend
  unfold evenUp at hend
  omega

end Report

end ExifGenerator

end QmmfSdk.Exif
