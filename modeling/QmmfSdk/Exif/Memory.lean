import QmmfSdk.Exif.Moves

/-! What the IFDs do to the memory behind the buffers, overflow or not. -/
namespace QmmfSdk.Exif

open Library Library.Tiff
open ExifGenerator (cLength length_cString)

namespace IfdWriter

variable {o : Out} {t : Tag} {ts : List Tag} {id : UInt32} {s : List UInt8}

/-- Where the helper data ends behind a text of `k` bytes: it is left out when it does not fit. -/
def keptEnd (o k : Nat) : Nat :=
  if k ≤ 4 then o else if evenUp o + k < kMaxExifApp1Length then evenUp o + k else evenUp o

theorem keptEnd_lt {o k : Nat} (h : o < kMaxExifApp1Length) : keptEnd o k < kMaxExifApp1Length := by
  have hmax : kMaxExifApp1Length = 65535 := rfl
  unfold keptEnd evenUp
  split
  · exact h
  · split <;> omega

/-- A value with room in the helper buffer. -/
theorem stage_fits (h : t.field.grow o.offset < kMaxExifApp1Length) :
    (∀ i, kMaxExifApp1Length ≤ i → (stage o t).buffer i = o.buffer i) ∧
      (stage o t).offset = t.field.grow o.offset := by
  have hmax : kMaxExifApp1Length = 65535 := rfl
  have hgrow : t.field.grow o.offset =
    if t.value.bytes.length ≤ 4 then o.offset else evenUp o.offset + t.value.bytes.length := rfl
  unfold stage
  rw [hgrow] at h ⊢
  by_cases hin : t.value.bytes.length ≤ 4
  · simp only [if_pos hin, implies_true, and_self]
  · simp only [if_neg hin] at h ⊢
    have hmoves := Out.writeTagValue_moves (v := t.value)
      (o := { o with offset := evenUp o.offset }) (show evenUp o.offset < _ by omega)
      (show evenUp o.offset + _ < _ by omega)
    exact ⟨hmoves.behind, hmoves.exact h⟩

theorem staged_fits (h : areaEnd o.offset (ts.map Tag.field) < kMaxExifApp1Length) :
    (∀ i, kMaxExifApp1Length ≤ i → (ts.foldl stage o).buffer i = o.buffer i) ∧
      (ts.foldl stage o).offset = areaEnd o.offset (ts.map Tag.field) := by
  have hmax : kMaxExifApp1Length = 65535 := rfl
  induction ts generalizing o with
  | nil => exact ⟨fun _ _ => rfl, rfl⟩
  | cons t ts ih =>
    rw [List.map_cons, areaEnd_cons] at h ⊢
    have hle : t.field.grow o.offset ≤ areaEnd (t.field.grow o.offset) (ts.map Tag.field) :=
      le_areaEnd
    obtain ⟨hbehind, hoff⟩ := stage_fits (show t.field.grow o.offset < _ by omega)
    rw [← hoff] at h hle ⊢
    obtain ⟨hbehind', hoff'⟩ := ih h
    exact ⟨fun i hi => (hbehind' i hi).trans (hbehind i hi), hoff'⟩

/-- A text is stored whole or not at all; the sum that decides may wrap. -/
theorem stage_cString : stage o (.cString id s) =
    if cLength s ≤ 4 then o
    else if kMaxExifApp1Length ≤ (evenUp o.offset + cLength s) % 2 ^ 32 then
      { o with offset := evenUp o.offset, overflow := false }
    else
      { buffer := store o.buffer (evenUp o.offset) (Tag.cString id s).value.bytes
        offset := (evenUp o.offset + cLength s) % 2 ^ 32, overflow := false } := by
  have hlen : (Tag.cString id s).value.bytes.length = cLength s := @length_cString id s
  have hwrite (o : Out) : o.writeTagValue (Tag.cString id s).value =
      o.put (Tag.cString id s).value.bytes.length (Tag.cString id s).value.bytes := rfl
  unfold stage
  rw [hwrite, hlen, Out.put]
  split
  · rfl
  · split
    · rfl
    · simp only [hlen]

/-- A text whose sum does not wrap. -/
theorem stage_kept (hsum : evenUp o.offset + cLength s < 2 ^ 32) :
    (∀ i, kMaxExifApp1Length ≤ i → (stage o (.cString id s)).buffer i = o.buffer i) ∧
      (stage o (.cString id s)).offset = keptEnd o.offset (cLength s) := by
  have hlen : (Tag.cString id s).value.bytes.length = cLength s := @length_cString id s
  rw [stage_cString, Nat.mod_eq_of_lt hsum, keptEnd]
  by_cases hin : cLength s ≤ 4
  · simp only [if_pos hin, implies_true, and_self]
  · rw [if_neg hin, if_neg hin]
    by_cases hroom : kMaxExifApp1Length ≤ evenUp o.offset + cLength s
    · rw [if_pos hroom, if_neg (Nat.not_lt.mpr hroom)]
      exact ⟨fun _ _ => rfl, rfl⟩
    · rw [if_neg hroom, if_pos (Nat.not_le.mp hroom)]
      exact ⟨fun i hi => store_of_ge (by omega), rfl⟩

theorem stage_inline (h : t.value.bytes.length ≤ 4) : stage o t = o := if_pos h

theorem staged_inline (h : ∀ t ∈ ts, t.value.bytes.length ≤ 4) : ts.foldl stage o = o := by
  induction ts with
  | nil => rfl
  | cons t ts ih =>
    rw [List.foldl_cons, stage_inline (h t (by simp))]
    exact ih fun t' ht' => h t' (by simp [ht'])

end IfdWriter

namespace ExifGenerator

open IfdWriter

variable {g : ExifGenerator} {pic : Picture} {exif helper : Nat → UInt8}

/-! ### The helper buffer of each IFD -/

def zerothOut (pic : Picture) (helper : Nat → UInt8) : Out :=
  (zerothIfdTags pic.vendorName pic.productName 0 0).foldl stage ⟨helper, 0, false⟩

def exifOut (pic : Picture) (helper : Nat → UInt8) : Out :=
  (pic.exifTags 0).foldl stage ⟨(zerothOut pic helper).buffer, 0, false⟩

def gpsOut (pic : Picture) (helper : Nat → UInt8) : Out :=
  (gpsIfdTags pic.values).foldl stage ⟨(exifOut pic helper).buffer, 0, false⟩

/-- The names that are staged, each unless it is too long for the helper buffer. -/
def Picture.keptNames (pic : Picture) : Nat :=
  keptEnd (keptEnd (keptEnd 0 (cLength pic.vendorName)) (cLength pic.productName))
    (cLength pic.productName)

/-- The 32-bit sum of the helper offset and the product name does not wrap. -/
def Picture.NamesSummed (pic : Picture) : Prop :=
  evenUp (keptEnd 0 (cLength pic.vendorName)) + cLength pic.productName < 2 ^ 32

theorem zerothOut_eq : zerothOut pic helper =
    stage (stage (stage ⟨helper, 0, false⟩ (.cString TagId.make pic.vendorName))
      (.cString TagId.model pic.productName)) (.cString TagId.software pic.productName) := by
  have hexif {o : Out} : stage o (.long TagId.exifIfdPtr 0) = o := stage_inline (by decide)
  have hgps {o : Out} : stage o (.long TagId.gpsIfdPtr 0) = o := stage_inline (by decide)
  simp only [zerothOut, zerothIfdTags, nameTags, List.cons_append, List.nil_append, List.foldl_cons,
    List.foldl_nil, hexif, hgps]

/-- The vendor name cannot wrap: it is staged at the start of the helper buffer. -/
theorem stage_vendor (id : UInt32) (s : List UInt8) :
    (∀ i, kMaxExifApp1Length ≤ i → (stage ⟨helper, 0, false⟩ (.cString id s)).buffer i = helper i) ∧
      (stage ⟨helper, 0, false⟩ (.cString id s)).offset = keptEnd 0 (cLength s) := by
  have hwrap : cLength s < 2 ^ 32 := Nat.mod_lt _ (by decide)
  exact stage_kept (show evenUp 0 + _ < _ by rw [evenUp]; omega)

theorem zerothOut_kept (hsum : pic.NamesSummed) :
    (∀ i, kMaxExifApp1Length ≤ i → (zerothOut pic helper).buffer i = helper i) ∧
      (zerothOut pic helper).offset = pic.keptNames := by
  have hmax : kMaxExifApp1Length = 65535 := rfl
  rw [zerothOut_eq]
  obtain ⟨hmake, hmakeOff⟩ := @stage_vendor helper TagId.make pic.vendorName
  generalize stage ⟨helper, 0, false⟩ (.cString TagId.make pic.vendorName) = o₁ at *
  have h₁ : o₁.offset < kMaxExifApp1Length := by
    rw [hmakeOff]
    exact keptEnd_lt (by decide)
  have hsum₁ : evenUp o₁.offset + cLength pic.productName < 2 ^ 32 := by
    rw [hmakeOff]
    exact hsum
  obtain ⟨hmodel, hmodelOff⟩ := @stage_kept o₁ TagId.model _ hsum₁
  generalize stage o₁ (.cString TagId.model pic.productName) = o₂ at *
  have h₂ : o₂.offset < kMaxExifApp1Length := by
    rw [hmodelOff]
    exact keptEnd_lt h₁
  have hsum₂ : evenUp o₂.offset + cLength pic.productName < 2 ^ 32 := by
    rw [hmodelOff]
    unfold keptEnd
    split
    · exact hsum₁
    · unfold evenUp at *
      split <;> omega
  obtain ⟨hsoft, hsoftOff⟩ := @stage_kept o₂ TagId.software _ hsum₂
  refine ⟨fun i hi => by rw [hsoft i hi, hmodel i hi, hmake i hi], ?_⟩
  rw [hsoftOff, hmodelOff, hmakeOff]
  rfl

theorem exifOut_fits : (∀ i, kMaxExifApp1Length ≤ i →
    (exifOut pic helper).buffer i = (zerothOut pic helper).buffer i) ∧
      (exifOut pic helper).offset = pic.timeRoom := by
  have htime := @timeRoom_le pic
  have harea : areaEnd 0 ((pic.exifTags 0).map Tag.field) = pic.timeRoom := areaEnd_exif
  have h := @staged_fits ⟨(zerothOut pic helper).buffer, 0, false⟩ (pic.exifTags 0)
    (by rw [harea]; exact Nat.lt_of_le_of_lt htime (by decide))
  rw [harea] at h
  exact h

theorem gpsOut_fits (hv : Bounded pic.values) : (∀ i, kMaxExifApp1Length ≤ i →
    (gpsOut pic helper).buffer i = (exifOut pic helper).buffer i) ∧
      (gpsOut pic helper).offset = areaEnd 0 pic.gpsFields := by
  have harea := gpsArea_le hv
  exact @staged_fits ⟨(exifOut pic helper).buffer, 0, false⟩ (gpsIfdTags pic.values)
    (Nat.lt_of_le_of_lt harea (by decide))

/-! ### The output buffer -/

/-- The zero byte is written only with room for it. -/
def padded (c : Nat) : Nat := if c < kMaxExifApp1Length then evenUp c else c

theorem le_padded {c : Nat} : c ≤ padded c := by
  unfold padded
  split
  · exact le_evenUp
  · exact Nat.le_refl c

theorem padded_le {c : Nat} : padded c ≤ c + 1 := by
  unfold padded
  split
  · exact evenUp_le
  · exact Nat.le_succ c

theorem areaStart_bounds {c n : Nat} : c + 12 * n + 4 ≤ areaStart c n ∧ areaStart c n ≤ c + 12 * n + 6 := by
  rw [areaStart, kTagSize]
  split <;> omega

/-- The cell of a copy of `k` bytes from `m'` to `dest`. -/
def copied (dest k : Nat) (m' m : Nat → UInt8) (i : Nat) : UInt8 :=
  if dest ≤ i ∧ i < dest + k then m' (i - dest) else m i

/-- Where the Exif, the Interop and the GPS IFD begin, from the helper data of those before. -/
def exifBegin (a : Nat) : Nat := padded (areaStart 18 5 + a)

def interopBegin (a b : Nat) : Nat := areaStart (exifBegin a) 16 + b

def gpsBegin (a b : Nat) : Nat := padded (areaStart (interopBegin a b) 2)

/-- The generator between two IFDs. -/
structure Between (g : ExifGenerator) (c : Nat) (helper : Nat → UInt8) : Prop where
  current : g.currentOffset = c
  helperOut : g.helperOut = ⟨helper, 0, false⟩

theorem between_of_drafted {w w' : IfdWriter} {o : Out} {n : Nat} (h : Drafted w w' o n) :
    w'.currentOffset = areaStart w.currentOffset n + o.offset ∧ w'.helperOut = ⟨o.buffer, 0, false⟩ := by
  refine ⟨h.current, ?_⟩
  rw [IfdWriter.helperOut, h.helper, h.helperOffset]

theorem write0thIfd_memory (hg : Between g 18 helper)
    (hsmall : (zerothOut pic helper).offset < 2 ^ 28) :
    Between (g.write0thIfd pic.vendorName pic.productName) (exifBegin (zerothOut pic helper).offset)
        (zerothOut pic helper).buffer ∧
      ∀ i, kMaxExifApp1Length ≤ i →
        (g.write0thIfd pic.vendorName pic.productName).exifBuffer i = copied (areaStart 18 5)
          (zerothOut pic helper).offset (zerothOut pic helper).buffer g.exifBuffer i := by
  rw [write0thIfd_eq]
  have hdrafted := @ifd_drafted g.toIfdWriter
    (zerothIfdTags pic.vendorName pic.productName 0 0) g.tiffHeaderBeginOffset (by rw [hg.current]; decide)
    (show 5 < 2 ^ 16 by decide)
  rw [hg.helperOut] at hdrafted
  obtain ⟨hcur, hhelper⟩ := between_of_drafted hdrafted
  have hbehind := hdrafted.behind
  rw [hg.current] at hcur hbehind
  change _ = areaStart 18 5 + (zerothOut pic helper).offset at hcur
  obtain ⟨hpad, hpadHelper, hpadCur⟩ := padToEven_moves (w := (g.toIfdWriter.beginIfd.writeTags
    (zerothIfdTags pic.vendorName pic.productName 0 0)).endWritingIfd g.tiffHeaderBeginOffset) (by
      have := @areaStart_bounds 18 5
      omega)
  refine ⟨⟨?_, hpadHelper.trans hhelper⟩, fun i hi => (hpad i hi).trans (hbehind i hi)⟩
  rw [hcur] at hpadCur
  exact hpadCur

theorem writeExifIfd_memory {c : Nat} (hg : Between g c (zerothOut pic helper).buffer)
    (hsmall : c < 2 ^ 29) :
    Between (g.writeExifIfd pic.values (getDateTime pic.clock) pic.width.toUInt32 pic.height.toUInt32)
        (areaStart c 16 + pic.timeRoom) (exifOut pic helper).buffer ∧
      ∀ i, kMaxExifApp1Length ≤ i →
        (g.writeExifIfd pic.values (getDateTime pic.clock) pic.width.toUInt32
          pic.height.toUInt32).exifBuffer i =
            copied (areaStart c 16) pic.timeRoom (exifOut pic helper).buffer g.exifBuffer i := by
  rw [writeExifIfd_eq]
  have hdrafted := @ifd_drafted g.toIfdWriter (pic.exifTags 0) g.tiffHeaderBeginOffset
    (by rw [hg.current]; exact hsmall) (show 16 < 2 ^ 16 by decide)
  rw [hg.helperOut] at hdrafted
  have hout : (pic.exifTags 0).foldl stage ⟨(zerothOut pic helper).buffer, 0, false⟩ =
    exifOut pic helper := rfl
  have hlen : (pic.exifTags 0).length = 16 := rfl
  rw [hout, hlen] at hdrafted
  obtain ⟨hcur, hhelper⟩ := between_of_drafted hdrafted
  have hbehind := hdrafted.behind
  rw [hg.current, exifOut_fits.2] at hcur hbehind
  exact ⟨⟨hcur, hhelper⟩, hbehind⟩

theorem toIfdWriter_writeInteropIfd : g.writeInteropIfd.toIfdWriter =
    ((g.toIfdWriter.beginIfd.writeTags interopIfdTags).endWritingIfd
      g.tiffHeaderBeginOffset).padToEven := by
  simp only [writeInteropIfd, onIfd]

theorem interop_staged (o : Out) : interopIfdTags.foldl stage o = o :=
  staged_inline (by decide)

theorem writeInteropIfd_memory {c : Nat} (hg : Between g c helper) (hsmall : c < 2 ^ 29) :
    Between g.writeInteropIfd (padded (areaStart c 2)) helper ∧
      ∀ i, kMaxExifApp1Length ≤ i → g.writeInteropIfd.exifBuffer i = g.exifBuffer i := by
  have hdrafted := @ifd_drafted g.toIfdWriter interopIfdTags g.tiffHeaderBeginOffset
    (by rw [hg.current]; exact hsmall) (by decide)
  have hlen : interopIfdTags.length = 2 := rfl
  rw [hg.helperOut, interop_staged, hlen] at hdrafted
  obtain ⟨hcur, hhelper⟩ := between_of_drafted hdrafted
  have hbehind := hdrafted.behind
  rw [hg.current, Nat.add_zero] at hcur
  rw [hg.current] at hbehind
  obtain ⟨hpad, hpadHelper, hpadCur⟩ := padToEven_moves
    (w := (g.toIfdWriter.beginIfd.writeTags interopIfdTags).endWritingIfd g.tiffHeaderBeginOffset) (by
      have := @areaStart_bounds c 2
      omega)
  rw [hcur] at hpadCur
  refine ⟨⟨?_, ?_⟩, fun i hi => ?_⟩
  · rw [toIfdWriter_writeInteropIfd]
    exact hpadCur
  · rw [toIfdWriter_writeInteropIfd]
    exact hpadHelper.trans hhelper
  · rw [toIfdWriter_writeInteropIfd, hpad i hi, hbehind i hi]
    refine if_neg fun h => ?_
    have hlt : i < areaStart c 2 + 0 := h.2
    omega

theorem writeGpsIfd_memory {c : Nat} (hv : Bounded pic.values)
    (hg : Between g c (exifOut pic helper).buffer) (hsmall : c < 2 ^ 29) :
    (g.writeGpsIfd pic.values).helperBuffer = (gpsOut pic helper).buffer ∧
      ∀ i, kMaxExifApp1Length ≤ i → (g.writeGpsIfd pic.values).exifBuffer i =
        copied (areaStart c pic.gpsFields.length) (areaEnd 0 pic.gpsFields) (gpsOut pic helper).buffer
          g.exifBuffer i := by
  have hlen : (gpsIfdTags pic.values).length = pic.gpsFields.length := by
    rw [Picture.gpsFields, List.length_map]
  have hdrafted := @ifd_drafted g.toIfdWriter (gpsIfdTags pic.values) g.tiffHeaderBeginOffset
    (by rw [hg.current]; exact hsmall)
    (Nat.lt_of_le_of_lt length_gpsIfdTags (by decide))
  have hout : (gpsIfdTags pic.values).foldl stage ⟨(exifOut pic helper).buffer, 0, false⟩ =
    gpsOut pic helper := rfl
  rw [hg.helperOut, hout, hlen] at hdrafted
  have hbehind := hdrafted.behind
  rw [hg.current, (gpsOut_fits hv).2] at hbehind
  exact ⟨hdrafted.helper, hbehind⟩

/-- All IFDs: each staging area is copied behind its table, and nothing else is touched behind the
buffers. -/
theorem writeIfds_memory (hv : Bounded pic.values) (hg : Between g 18 helper)
    {a : Nat} (ha : (zerothOut pic helper).offset = a) (hsmall : a < 2 ^ 28) :
    (g.writeIfds pic).helperBuffer = (gpsOut pic helper).buffer ∧
      ∀ i, kMaxExifApp1Length ≤ i → (g.writeIfds pic).exifBuffer i =
        copied (areaStart (gpsBegin a pic.timeRoom) pic.gpsFields.length) (areaEnd 0 pic.gpsFields)
          (gpsOut pic helper).buffer
          (copied (areaStart (exifBegin a) 16) pic.timeRoom (exifOut pic helper).buffer
            (copied (areaStart 18 5) a (zerothOut pic helper).buffer g.exifBuffer)) i := by
  have htime := @timeRoom_le pic
  obtain ⟨hzeroth, bzeroth⟩ := write0thIfd_memory hg (by rw [ha]; exact hsmall)
  rw [ha] at hzeroth bzeroth
  have hexifBegin : exifBegin a < 2 ^ 28 + 200 := by
    have h₁ := @padded_le (areaStart 18 5 + a)
    have h₂ := @areaStart_bounds 18 5
    rw [exifBegin]
    omega
  obtain ⟨hexif, bexif⟩ := writeExifIfd_memory hzeroth (by omega)
  have hexifArea := @areaStart_bounds (exifBegin a) 16
  obtain ⟨hinterop, binterop⟩ := writeInteropIfd_memory hexif (by omega)
  have hgpsBegin : gpsBegin a pic.timeRoom < 2 ^ 28 + 1000 := by
    have h₁ := @padded_le (areaStart (interopBegin a pic.timeRoom) 2)
    have h₂ := @areaStart_bounds (interopBegin a pic.timeRoom) 2
    have h₃ : interopBegin a pic.timeRoom = areaStart (exifBegin a) 16 + pic.timeRoom := rfl
    rw [gpsBegin]
    omega
  obtain ⟨hgps, bgps⟩ := writeGpsIfd_memory hv hinterop
    (show gpsBegin a pic.timeRoom < 2 ^ 29 by omega)
  refine ⟨hgps, fun i hi => ?_⟩
  rw [writeIfds]
  refine (bgps i hi).trans ?_
  -- the cells behind the buffer come from the copies before
  unfold copied
  rw [binterop i hi, bexif i hi, copied, bzeroth i hi, copied]
  rfl

/-- The places that `UpdateFields` writes to are no wrapped offsets. -/
structure Placed (g : ExifGenerator) : Prop where
  exif : g.exifIfdPointerOffset < 2 ^ 31
  interop : g.interopIfdPointerOffset < 2 ^ 31
  gps : g.gpsIfdPointerOffset < 2 ^ 31
  begin : g.app1beginOffset < 2 ^ 31

theorem current_tags_lt {w : IfdWriter} {ts : List Tag} (h : w.currentOffset < 2 ^ 29) :
    (w.beginIfd.writeTags ts).currentOffset < 2 ^ 30 := by
  have hmax : kMaxExifApp1Length = 65535 := rfl
  have hbegin : w.beginIfd.currentOffset = w.currentOffset + 2 := rfl
  have hbound := (@onward_writeTags w.beginIfd ts (by omega)).bound
  omega

theorem writeIfds_placed (hg : Between g 18 helper) (hbegin : g.app1beginOffset < 2 ^ 31)
    (hsmall : (zerothOut pic helper).offset < 2 ^ 28) : Placed (g.writeIfds pic) := by
  obtain ⟨hzeroth, -⟩ := write0thIfd_memory hg hsmall
  have h₁ := @padded_le (areaStart 18 5 + (zerothOut pic helper).offset)
  have h₂ := @areaStart_bounds 18 5
  have hexifBegin : exifBegin (zerothOut pic helper).offset < 2 ^ 29 := by
    rw [exifBegin]
    omega
  have hcur : g.toIfdWriter.currentOffset < 2 ^ 29 := by
    rw [hg.current]
    decide
  have hcur' := hzeroth.current
  have hexif : (g.write0thIfd pic.vendorName pic.productName).exifIfdPointerOffset < 2 ^ 31 := by
    rw [write0thIfd_eq]
    have := @current_tags_lt g.toIfdWriter (nameTags pic.vendorName pic.productName) hcur
    simp only [tagDataOffset]
    omega
  have hgps : (g.write0thIfd pic.vendorName pic.productName).gpsIfdPointerOffset < 2 ^ 30 := by
    rw [write0thIfd_eq]
    have := @current_tags_lt g.toIfdWriter (nameTags pic.vendorName pic.productName ++
      [.long TagId.exifIfdPtr 0]) hcur
    dsimp only
    exact this
  have hkept : (g.write0thIfd pic.vendorName pic.productName).app1beginOffset = g.app1beginOffset := by
    rw [write0thIfd_eq]
  rw [writeIfds]
  generalize g.write0thIfd pic.vendorName pic.productName = g₁ at *
  have hinterop : (g₁.writeExifIfd pic.values (getDateTime pic.clock) pic.width.toUInt32
      pic.height.toUInt32).interopIfdPointerOffset < 2 ^ 31 := by
    rw [writeExifIfd_eq]
    have := @current_tags_lt g₁.toIfdWriter (pictureTags pic.values (getDateTime pic.clock)
      pic.width.toUInt32 pic.height.toUInt32) (by omega)
    simp only [tagDataOffset]
    omega
  have hkept₂ : (g₁.writeExifIfd pic.values (getDateTime pic.clock) pic.width.toUInt32
      pic.height.toUInt32).exifIfdPointerOffset = g₁.exifIfdPointerOffset ∧
      (g₁.writeExifIfd pic.values (getDateTime pic.clock) pic.width.toUInt32
        pic.height.toUInt32).gpsIfdPointerOffset = g₁.gpsIfdPointerOffset ∧
      (g₁.writeExifIfd pic.values (getDateTime pic.clock) pic.width.toUInt32
        pic.height.toUInt32).app1beginOffset = g₁.app1beginOffset := by
    rw [writeExifIfd_eq]
    exact ⟨rfl, rfl, rfl⟩
  generalize g₁.writeExifIfd pic.values (getDateTime pic.clock) pic.width.toUInt32
    pic.height.toUInt32 = g₂ at *
  obtain ⟨k₁, k₂, k₃⟩ := hkept₂
  have hlast : (g₂.writeInteropIfd.writeGpsIfd pic.values).exifIfdPointerOffset =
      g₂.exifIfdPointerOffset ∧
      (g₂.writeInteropIfd.writeGpsIfd pic.values).interopIfdPointerOffset =
        g₂.interopIfdPointerOffset ∧
      (g₂.writeInteropIfd.writeGpsIfd pic.values).gpsIfdPointerOffset =
        g₂.gpsIfdPointerOffset + tagDataOffset ∧
      (g₂.writeInteropIfd.writeGpsIfd pic.values).app1beginOffset = g₂.app1beginOffset := by
    simp only [writeInteropIfd, writeGpsIfd, onIfd, and_self]
  obtain ⟨l₁, l₂, l₃, l₄⟩ := hlast
  refine ⟨?_, ?_, ?_, ?_⟩
  · omega
  · omega
  · rw [l₃, k₂, tagDataOffset]
    omega
  · omega

theorem behind_writeLongAt {off : Nat} {v : UInt32} (h : off < 2 ^ 31) :
    ∀ i, kMaxExifApp1Length ≤ i → (g.writeLongAt off v).exifBuffer i = g.exifBuffer i :=
  (Out.writeLong_moves (o := ⟨g.exifBuffer, off, g.overflowFlag⟩) h).behind

theorem updateFields_memory (h : Placed g) : g.updateFields.helperBuffer = g.helperBuffer ∧
    ∀ i, kMaxExifApp1Length ≤ i → g.updateFields.exifBuffer i = g.exifBuffer i := by
  refine ⟨rfl, fun i hi => ?_⟩
  rw [updateFields_eq]
  refine ((Out.writeShort_moves (o := ⟨_, g.app1beginOffset, _⟩) h.begin).behind i hi).trans ?_
  dsimp only
  rw [behind_writeLongAt h.gps i hi, behind_writeLongAt h.interop i hi,
    behind_writeLongAt h.exif i hi]

end ExifGenerator

end QmmfSdk.Exif
