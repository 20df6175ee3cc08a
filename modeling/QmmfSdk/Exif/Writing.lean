import QmmfSdk.Exif.Generator

/-! What the writers leave in the buffers as long as the overflow flag stays down: one IFD is laid out
as a directory with its values behind the table. -/
namespace QmmfSdk.Exif

open Library Library.Tiff

namespace Out

variable {o o' o'' : Out} {bs cs : List UInt8} {last : Nat}

/-- `o'` is `o` with `bs` written, unless the overflow flag went up; with room it does not. -/
structure Appends (o o' : Out) (bs : List UInt8) : Prop where
  back : o'.overflow = false → o.overflow = false ∧ (o.offset < 2 ^ 31 →
    o'.buffer = store o.buffer o.offset bs ∧ o'.offset = o.offset + bs.length ∧
    o'.offset ≤ max o.offset kMaxExifApp1Length)
  fits : o.overflow = false → o.offset + bs.length < kMaxExifApp1Length → o'.overflow = false

theorem Appends.refl : o.Appends o [] :=
  ⟨fun h => ⟨h, fun _ => ⟨store_nil.symm, rfl, Nat.le_max_left ..⟩⟩, fun h _ => h⟩

theorem Appends.trans (h : o.Appends o' bs) (h' : o'.Appends o'' cs) : o.Appends o'' (bs ++ cs) := by
  have hmax : kMaxExifApp1Length = 65535 := rfl
  constructor
  · intro hov
    obtain ⟨hov', hcs⟩ := h'.back hov
    obtain ⟨hov'', hbs⟩ := h.back hov'
    refine ⟨hov'', fun hsmall => ?_⟩
    obtain ⟨hbuf, hoff, hle⟩ := hbs hsmall
    obtain ⟨hbuf', hoff', hle'⟩ := hcs (by omega)
    refine ⟨?_, ?_, by omega⟩
    · rw [hbuf', hbuf, hoff, store_append]
    · rw [hoff', hoff, List.length_append, Nat.add_assoc]
  · intro hov hroom
    rw [List.length_append] at hroom
    have hov' := h.fits hov (by omega)
    obtain ⟨-, hoff, -⟩ := (h.back hov').2 (by omega)
    exact h'.fits hov' (by omega)

/-- A successful write ends inside the segment. -/
theorem put_room (h : (o.put last bs).overflow = false) (hsmall : o.offset < 2 ^ 31)
    (hlast : last < 2 ^ 31) : o.offset + last < kMaxExifApp1Length := by
  unfold put at h
  split at h
  · cases h
  · omega

theorem put_appends (hlen : bs.length ≤ last + 1) (hle : last ≤ bs.length) (hlast : last < 2 ^ 31) :
    o.Appends (o.put last bs) bs := by
  have hmax : kMaxExifApp1Length = 65535 := rfl
  constructor
  · intro hov
    have hroom := put_room (o := o) hov
    unfold put at hov ⊢
    split at hov
    · cases hov
    · next hguard =>
      refine ⟨hov, fun hsmall => ?_⟩
      have hlt := hroom hsmall hlast
      have hmod : (o.offset + bs.length) % 2 ^ 32 = o.offset + bs.length :=
        Nat.mod_eq_of_lt (by omega)
      rw [if_neg hguard, hmod]
      exact ⟨rfl, rfl, Nat.le_trans (show o.offset + bs.length ≤ kMaxExifApp1Length by omega)
        (Nat.le_max_right ..)⟩
  · intro hov hroom
    have hguard : ¬ kMaxExifApp1Length ≤ (o.offset + last) % 2 ^ 32 := by
      rw [Nat.mod_eq_of_lt (by omega)]
      omega
    rw [put, if_neg hguard]
    exact hov

theorem writeByte_appends {v : UInt8} : o.Appends (o.writeByte v) [v] :=
  put_appends (Nat.le_refl 1) (Nat.zero_le _) (by decide)

theorem writeShort_appends {v : UInt16} : o.Appends (o.writeShort v) (encodeBe16 v) :=
  put_appends (Nat.le_refl 2) (Nat.le_succ 1) (by decide)

theorem writeLong_appends {v : UInt32} : o.Appends (o.writeLong v) (encodeBe32 v) :=
  put_appends (Nat.le_refl 4) (Nat.le_succ 3) (by decide)

theorem writeNBytes_appends (h : bs.length < 2 ^ 31) : o.Appends (o.writeNBytes bs) bs :=
  put_appends (Nat.le_succ _) (Nat.le_refl _) h

theorem writeAll_appends {α : Type} {write : α → Out → Out} {enc : α → List UInt8} {xs : List α}
    (h : ∀ x o, Appends o (write x o) (enc x)) : o.Appends (o.writeAll write xs) (xs.flatMap enc) := by
  induction xs generalizing o with
  | nil => exact .refl
  | cons x xs ih =>
    rw [List.flatMap_cons]
    exact (h x o).trans ih

theorem writeTagValue_appends {v : Value} (h : v.bytes.length < 2 ^ 31) :
    o.Appends (o.writeTagValue v) v.bytes := by
  cases v with
  | ascii s => exact writeNBytes_appends h
  | undefined s => exact writeNBytes_appends h
  | byte v vs =>
    have hall : o.Appends (o.writeAll writeByte (v :: vs)) ((v :: vs).flatMap fun b => [b]) :=
      writeAll_appends fun _ _ => writeByte_appends
    rwa [List.flatMap_singleton'] at hall
  | short v vs => exact writeAll_appends fun _ _ => writeShort_appends
  | long v vs => exact writeAll_appends fun _ _ => writeLong_appends
  | slong v vs => exact writeAll_appends fun _ _ => writeLong_appends
  | rational v vs => exact writeAll_appends fun _ _ => writeLong_appends.trans writeLong_appends
  | srational v vs => exact writeAll_appends fun _ _ => writeLong_appends.trans writeLong_appends

theorem writeZeros_appends {n : Nat} :
    o.Appends (o.writeAll writeByte (List.replicate n 0)) (List.replicate n 0) := by
  have hall : o.Appends (o.writeAll writeByte (List.replicate n 0))
      ((List.replicate n 0).flatMap fun b => [b]) := writeAll_appends fun _ _ => writeByte_appends
  rwa [List.flatMap_singleton'] at hall

end Out

namespace IfdWriter

variable {w : IfdWriter} {t : Tag} {ts : List Tag} {m : Nat → UInt8} {fs gs : List Field}
  {tiff base dest i : Nat}

/-- What one tag adds: an entry at the current offset and, behind the values staged so far, the value
that does not fit in it. -/
structure Added (w : IfdWriter) (f : Field) (w' : IfdWriter) : Prop where
  quiet : w.overflowFlag = false
  exif : w'.exifBuffer =
    store w.exifBuffer w.currentOffset (f.header ++ f.slot 0 w.helperBufferOffset)
  current : w'.currentOffset = w.currentOffset + 12
  helper : w'.helperBuffer =
    if f.value.length ≤ 4 then w.helperBuffer
    else store w.helperBuffer (evenUp w.helperBufferOffset) f.value
  helperOffset : w'.helperBufferOffset = f.grow w.helperBufferOffset
  helperRoom : w'.helperBufferOffset ≤ 2 ^ 16
  count : w'.tagCount = w.tagCount + 1
  countOffset : w'.tagCountOffset = w.tagCountOffset

theorem writeEntryHeader_appends {o : Out} :
    o.Appends (((o.writeShort t.id.toUInt16).writeShort t.value.type.code).writeLong
      (.ofNat t.value.count)) t.field.header :=
  Out.writeShort_appends.trans (Out.writeShort_appends.trans Out.writeLong_appends)

section Added

variable {f : Field} {o₀ o₁ o₂ : Out} {bs cs : List UInt8}

theorem added_inline (hin : f.value.length ≤ 4)
    (h₀ : Out.Appends ⟨w.exifBuffer, w.currentOffset, w.overflowFlag⟩ o₀ f.header)
    (h₁ : Out.Appends ⟨o₀.buffer, o₀.offset, o₀.overflow⟩ o₁
      (f.value ++ List.replicate (4 - f.value.length) 0))
    (hov : o₁.overflow = false) (hcur : w.currentOffset < 2 ^ 31)
    (hhelp : w.helperBufferOffset ≤ 2 ^ 16) :
    Added w f { w with
      exifBuffer := o₁.buffer, currentOffset := o₁.offset, overflowFlag := o₁.overflow,
      tagCount := w.tagCount + 1 } := by
  obtain ⟨hquiet, happ⟩ := (h₀.trans h₁).back hov
  obtain ⟨hbuf, hoff, -⟩ := happ hcur
  have hslot : f.slot 0 w.helperBufferOffset =
      f.value ++ List.replicate (4 - f.value.length) 0 := if_pos hin
  have hgrow : f.grow w.helperBufferOffset = w.helperBufferOffset := if_pos hin
  refine ⟨hquiet, ?_, ?_, (if_pos hin).symm, hgrow.symm, hhelp, rfl, rfl⟩
  · rw [hslot]
    exact hbuf
  · rw [List.length_append, length_header, List.length_append, List.length_replicate] at hoff
    simp only [hoff]
    omega

theorem added_staged (hin : ¬ f.value.length ≤ 4)
    (h₀ : Out.Appends ⟨w.exifBuffer, w.currentOffset, w.overflowFlag⟩ o₀ f.header)
    (h₁ : Out.Appends ⟨o₀.buffer, o₀.offset, o₀.overflow⟩ o₁
      (encodeBe32 (.ofNat (evenUp w.helperBufferOffset))))
    (h' : Out.Appends ⟨w.helperBuffer, evenUp w.helperBufferOffset, o₁.overflow⟩ o₂ f.value)
    (hov : o₂.overflow = false) (hcur : w.currentOffset < 2 ^ 31)
    (hhelp : w.helperBufferOffset ≤ 2 ^ 16) :
    Added w f { w with
      exifBuffer := o₁.buffer, currentOffset := o₁.offset, overflowFlag := o₂.overflow,
      helperBuffer := o₂.buffer, helperBufferOffset := o₂.offset, tagCount := w.tagCount + 1 } := by
  have hmax : kMaxExifApp1Length = 65535 := rfl
  have heven : evenUp w.helperBufferOffset ≤ 2 ^ 16 := by unfold evenUp; omega
  obtain ⟨hov₁, happ'⟩ := h'.back hov
  obtain ⟨hbuf', hoff', hroom'⟩ := happ' (show evenUp w.helperBufferOffset < 2 ^ 31 by omega)
  obtain ⟨hquiet, happ⟩ := (h₀.trans h₁).back hov₁
  obtain ⟨hbuf, hoff, -⟩ := happ hcur
  have hslot : f.slot 0 w.helperBufferOffset =
      encodeBe32 (.ofNat (evenUp w.helperBufferOffset)) := by
    rw [Field.slot, if_neg hin, Nat.zero_add]
  have hgrow : f.grow w.helperBufferOffset = evenUp w.helperBufferOffset + f.value.length :=
    if_neg hin
  refine ⟨hquiet, ?_, hoff, ?_, ?_, ?_, rfl, rfl⟩
  · rw [hslot]
    exact hbuf
  · rw [if_neg hin]
    exact hbuf'
  · rw [hgrow]
    exact hoff'
  · simp only at hroom' ⊢
    omega

theorem quiet_inline (h₀ : Out.Appends ⟨w.exifBuffer, w.currentOffset, w.overflowFlag⟩ o₀ bs)
    (h₁ : Out.Appends ⟨o₀.buffer, o₀.offset, o₀.overflow⟩ o₁ cs) (hov : o₁.overflow = false) :
    w.overflowFlag = false :=
  (h₀.back (h₁.back hov).1).1

theorem quiet_staged {ds : List UInt8} {off : Nat}
    (h₀ : Out.Appends ⟨w.exifBuffer, w.currentOffset, w.overflowFlag⟩ o₀ bs)
    (h₁ : Out.Appends ⟨o₀.buffer, o₀.offset, o₀.overflow⟩ o₁ cs)
    (h₂ : Out.Appends ⟨w.helperBuffer, off, o₁.overflow⟩ o₂ ds) (hov : o₂.overflow = false) :
    w.overflowFlag = false :=
  quiet_inline h₀ h₁ (h₂.back hov).1

end Added

theorem writeExifTag_added (hov : (w.writeExifTag t).overflowFlag = false)
    (hcur : w.currentOffset < 2 ^ 31) (hhelp : w.helperBufferOffset ≤ 2 ^ 16)
    (ht : t.value.bytes.length < 2 ^ 31) : Added w t.field (w.writeExifTag t) := by
  have hlen : typeSize t.value.type.code * t.value.count = t.field.value.length :=
    Value.length_bytes.symm
  by_cases hin : t.field.value.length ≤ 4
  · simp only [writeExifTag, onExif, hlen, hin, if_true] at hov ⊢
    exact added_inline hin writeEntryHeader_appends
      ((Out.writeTagValue_appends ht).trans Out.writeZeros_appends) hov hcur hhelp
  · simp only [writeExifTag, onExif, onHelper, hlen, hin, if_false] at hov ⊢
    exact added_staged hin writeEntryHeader_appends Out.writeLong_appends
      (Out.writeTagValue_appends ht) hov hcur hhelp

/-- The flag never goes down. -/
theorem quiet_of_writeExifTag (hov : (w.writeExifTag t).overflowFlag = false)
    (ht : t.value.bytes.length < 2 ^ 31) : w.overflowFlag = false := by
  by_cases hin : typeSize t.value.type.code * t.value.count ≤ 4
  · simp only [writeExifTag, onExif, hin, if_true] at hov
    exact quiet_inline writeEntryHeader_appends
      ((Out.writeTagValue_appends ht).trans Out.writeZeros_appends) hov
  · simp only [writeExifTag, onExif, onHelper, hin, if_false] at hov
    exact quiet_staged writeEntryHeader_appends Out.writeLong_appends
      (Out.writeTagValue_appends ht) hov

theorem quiet_of_writeTags (hov : (w.writeTags ts).overflowFlag = false)
    (hts : ∀ t ∈ ts, t.value.bytes.length < 2 ^ 31) : w.overflowFlag = false := by
  induction ts generalizing w with
  | nil => exact hov
  | cons t ts ih =>
    have h : (w.writeExifTag t).overflowFlag = false := ih hov fun t' ht' => hts t' (by simp [ht'])
    exact quiet_of_writeExifTag h (hts t (by simp))

/-- An IFD that starts at `base` with the entries of `fs` so far; the memory below is still `m`. -/
structure Writing (m : Nat → UInt8) (base : Nat) (fs : List Field) (w : IfdWriter) : Prop where
  count : w.tagCount = fs.length
  countOffset : w.tagCountOffset = base
  current : w.currentOffset = base + 2 + 12 * fs.length
  helperOffset : w.helperBufferOffset = areaEnd 0 fs
  helperRoom : w.helperBufferOffset ≤ 2 ^ 16
  table : Holds w.exifBuffer (base + 2) (records 0 0 fs)
  values : HoldsValues w.helperBuffer 0 0 fs
  below : ∀ i < base, w.exifBuffer i = m i

theorem writing_begin (h : w.helperBufferOffset = 0) :
    Writing w.exifBuffer w.currentOffset [] w.beginIfd where
  count := rfl
  countOffset := rfl
  current := rfl
  helperOffset := h
  helperRoom := by
    have heq : w.beginIfd.helperBufferOffset = w.helperBufferOffset := rfl
    omega
  table := .nil
  values := trivial
  below := fun _ _ => rfl

theorem Writing.added {f : Field} {w' : IfdWriter} (h : Writing m base fs w) (ha : Added w f w') :
    Writing m base (fs ++ [f]) w' where
  count := by simp [ha.count, h.count]
  countOffset := ha.countOffset.trans h.countOffset
  current := by
    rw [ha.current, h.current, List.length_append, List.length_singleton]
    omega
  helperOffset := by
    rw [ha.helperOffset, h.helperOffset, areaEnd_append]
    rfl
  helperRoom := ha.helperRoom
  table := by
    rw [ha.exif, h.current, records_append, ← h.helperOffset]
    have hentry : records 0 w.helperBufferOffset [f] = f.header ++ f.slot 0 w.helperBufferOffset := by
      simp [records]
    rw [hentry]
    refine (h.table.store_apart (.inl ?_)).append ?_
    · exact Nat.le_of_eq (by rw [length_records])
    · rw [length_records]
      exact Holds.store_self
  values := by
    rw [HoldsValues.append_iff, ← h.helperOffset, ha.helper]
    by_cases hin : f.value.length ≤ 4
    · rw [if_pos hin]
      exact ⟨h.values, fun hlt => absurd hlt (by omega), trivial⟩
    · rw [if_neg hin]
      refine ⟨h.values.congr fun i _ hi => store_of_lt ?_, fun _ => ?_, trivial⟩
      · have heven : w.helperBufferOffset ≤ evenUp w.helperBufferOffset := le_evenUp
        have hoff := h.helperOffset
        omega
      · rw [Nat.zero_add]
        exact Holds.store_self
  below := by
    intro i hi
    have hcur := h.current
    rw [ha.exif, store_of_lt (by omega), h.below i hi]

theorem Writing.writeExifTag (h : Writing m base fs w) (hbase : base < 2 ^ 30)
    (hfs : fs.length < 2 ^ 16) (hov : (w.writeExifTag t).overflowFlag = false)
    (ht : t.value.bytes.length < 2 ^ 31) : Writing m base (fs ++ [t.field]) (w.writeExifTag t) := by
  have hcur := h.current
  exact h.added (writeExifTag_added hov (by omega) h.helperRoom ht)

/-- Tags without an overflow add their entries in order. -/
theorem Writing.writeTags (h : Writing m base fs w) (hbase : base < 2 ^ 30)
    (hfs : fs.length + ts.length < 2 ^ 16) (hov : (w.writeTags ts).overflowFlag = false)
    (hts : ∀ t ∈ ts, t.value.bytes.length < 2 ^ 31) :
    Writing m base (fs ++ ts.map Tag.field) (w.writeTags ts) := by
  induction ts generalizing w fs with
  | nil =>
    rw [List.map_nil, List.append_nil]
    exact h
  | cons t ts ih =>
    rw [List.length_cons] at hfs
    have hts' : ∀ t' ∈ ts, t'.value.bytes.length < 2 ^ 31 := fun t' ht' => hts t' (by simp [ht'])
    have hov' : (w.writeExifTag t).overflowFlag = false := quiet_of_writeTags hov hts'
    have hw := h.writeExifTag hbase (by omega) hov' (hts t (by simp))
    have hall := ih hw (by simp only [List.length_append, List.length_singleton]; omega) hov hts'
    rwa [List.append_assoc] at hall

section Relocate

variable {f : Field} {off rel o : Nat}

theorem loadU16_of_holds {v : UInt16} (h : Holds m off (encodeBe16 v)) : loadU16 m off = v := by
  have h0 : m off = .ofNat (v.toNat / 2 ^ 8) := h 0 _ rfl
  have h1 : m (off + 1) = .ofNat v.toNat := h 1 _ rfl
  rw [loadU16, h0, h1, decodeBe16_encodeBe16]

theorem loadU32_of_holds {v : UInt32} (h : Holds m off (encodeBe32 v)) : loadU32 m off = v := by
  have h0 : m off = .ofNat (v.toNat / 2 ^ 24) := h 0 _ rfl
  have h1 : m (off + 1) = .ofNat (v.toNat / 2 ^ 16) := h 1 _ rfl
  have h2 : m (off + 2) = .ofNat (v.toNat / 2 ^ 8) := h 2 _ rfl
  have h3 : m (off + 3) = .ofNat v.toNat := h 3 _ rfl
  rw [loadU32, h0, h1, h2, h3, decodeBe32_encodeBe32]

/-- A field of a tag, as far as the loop of `EndWritingIfd` depends on it. -/
structure Known (f : Field) : Prop where
  sized : f.Sized typeSize
  type : f.type.toNat < tagTypeSizes.length
  small : f.value.length < 2 ^ 31

theorem Known.ofTag (ht : t.value.bytes.length < 2 ^ 31) : Known t.field :=
  ⟨t.field_sized, t.value.type.code_lt_length, ht⟩

theorem relocate_kept : relocate tiff dest w i =
    { w with exifBuffer := (relocate tiff dest w i).exifBuffer
             overflowFlag := (relocate tiff dest w i).overflowFlag } := by
  unfold relocate
  dsimp only
  split
  · rfl
  · split <;> rfl

theorem relocateAll_kept {is : List Nat} : is.foldl (relocate tiff dest) w =
    { w with exifBuffer := (is.foldl (relocate tiff dest) w).exifBuffer
             overflowFlag := (is.foldl (relocate tiff dest) w).overflowFlag } := by
  induction is generalizing w with
  | nil => rfl
  | cons i is ih =>
    rw [List.foldl_cons, ih, relocate_kept]

theorem quiet_of_relocate (hov : (relocate tiff dest w i).overflowFlag = false) :
    w.overflowFlag = false := by
  unfold relocate at hov
  dsimp only at hov
  split at hov
  · exact hov
  · split at hov
    · exact (Out.writeLong_appends.back hov).1
    · exact hov

theorem quiet_of_relocateAll {is : List Nat}
    (hov : (is.foldl (relocate tiff dest) w).overflowFlag = false) : w.overflowFlag = false := by
  induction is generalizing w with
  | nil => exact hov
  | cons i is ih => exact quiet_of_relocate (ih hov)

/-- One entry: the offset into the helper buffer becomes one into the file. -/
theorem relocate_entry {a : Nat} (hf : Known f) (ha : a = w.tagCountOffset + i * kTagSize)
    (hdest : dest = tiff + rel) (hsmall : a < 2 ^ 30)
    (h : Holds w.exifBuffer a (f.header ++ f.slot 0 o))
    (hov : (relocate tiff dest w i).overflowFlag = false) :
    Holds (relocate tiff dest w i).exifBuffer a (f.header ++ f.slot rel o) ∧
      ∀ j, j < a ∨ a + 12 ≤ j → (relocate tiff dest w i).exifBuffer j = w.exifBuffer j := by
  obtain ⟨hhead, hslot⟩ := Holds.append_iff.mp h
  obtain ⟨-, hrest⟩ := Holds.append_iff.mp hhead
  obtain ⟨htype, hcount⟩ := Holds.append_iff.mp hrest
  rw [length_encodeBe16] at htype hcount
  rw [length_encodeBe16] at hcount
  rw [length_header] at hslot
  have h6 : a + 8 - 6 = a + 2 := by omega
  have h4 : a + 8 - 4 = a + 2 + 2 := by omega
  have hwidth : (f.count.toNat * typeSize f.type) % 2 ^ 32 = f.value.length := by
    have hsized : f.value.length = typeSize f.type * f.count.toNat := hf.sized
    have hlen := hf.small
    rw [Nat.mul_comm, ← hsized, Nat.mod_eq_of_lt (by omega)]
  have hstep : relocate tiff dest w i =
      if 4 < f.value.length then
        let o' := Out.writeLong (loadU32 w.exifBuffer (a + 8) + .ofNat dest - .ofNat tiff)
          ⟨w.exifBuffer, a + 8, w.overflowFlag⟩
        { w with exifBuffer := o'.buffer, overflowFlag := o'.overflow }
      else w := by
    have hknown := hf.type
    simp only [relocate, tagDataOffset, ← ha, h6, h4, loadU16_of_holds htype, loadU32_of_holds hcount,
      hwidth, Nat.not_le.mpr hknown, if_false]
  by_cases hin : f.value.length ≤ 4
  · rw [if_neg (Nat.not_lt.mpr hin)] at hstep
    have hsame : f.slot rel o = f.slot 0 o := by simp [Field.slot, hin]
    rw [hstep, hsame]
    exact ⟨h, fun _ _ => rfl⟩
  · rw [if_pos (Nat.not_le.mp hin)] at hstep
    rw [Field.slot, if_neg hin, Nat.zero_add] at hslot
    have hadjusted : loadU32 w.exifBuffer (a + 8) + .ofNat dest - .ofNat tiff =
        UInt32.ofNat (rel + evenUp o) := by
      rw [loadU32_of_holds hslot, hdest, UInt32.ofNat_add tiff, UInt32.ofNat_add rel]
      rw [UInt32.add_comm (UInt32.ofNat tiff), ← UInt32.add_assoc, UInt32.add_sub_cancel,
        UInt32.add_comm]
    rw [hadjusted] at hstep
    rw [hstep] at hov ⊢
    obtain ⟨-, happ⟩ := Out.writeLong_appends.back hov
    obtain ⟨hbuf, -, -⟩ := happ (show a + 8 < 2 ^ 31 by omega)
    simp only at hbuf ⊢
    rw [hbuf]
    refine ⟨Holds.append (hhead.store_apart (.inl ?_)) ?_, fun j hj => ?_⟩
    · exact Nat.le_refl _
    · rw [length_header, Field.slot, if_neg hin]
      exact Holds.store_self
    · obtain hj | hj := hj
      · exact store_of_lt (by omega)
      · exact store_of_ge (by rw [length_encodeBe32]; omega)

/-- The loop: the entries of `fs` are done, those of `gs` are to come. -/
theorem relocate_entries {a : Nat} (fs gs : List Field) (rel : Nat) (hgs : ∀ f ∈ gs, Known f)
    (ha : a = w.tagCountOffset)
    (hdest : dest = tiff + rel) (hsmall : a + 12 * (fs.length + gs.length) < 2 ^ 30)
    (h : Holds w.exifBuffer a (records rel 0 fs ++ records 0 (areaEnd 0 fs) gs))
    (hov : ((List.range' fs.length gs.length).foldl (relocate tiff dest) w).overflowFlag = false) :
    Holds ((List.range' fs.length gs.length).foldl (relocate tiff dest) w).exifBuffer a
        (records rel 0 (fs ++ gs)) ∧
      ∀ j, j < a ∨ a + 12 * (fs.length + gs.length) ≤ j →
        ((List.range' fs.length gs.length).foldl (relocate tiff dest) w).exifBuffer j =
          w.exifBuffer j := by
  induction gs generalizing w fs with
  | nil =>
    rw [records, List.append_nil] at h
    rw [List.append_nil]
    exact ⟨h, fun _ _ => rfl⟩
  | cons f gs ih =>
    rw [List.length_cons] at hsmall hov ⊢
    rw [List.range'_succ, List.foldl_cons] at hov ⊢
    obtain ⟨hpre, hrest⟩ := Holds.append_iff.mp h
    obtain ⟨hentry, hpost⟩ := Holds.append_iff.mp hrest
    rw [length_records] at hentry hpost
    rw [List.length_append, length_header, length_slot] at hpost
    have hov' := quiet_of_relocateAll hov
    have hat : a + 12 * fs.length = w.tagCountOffset + fs.length * kTagSize := by
      rw [ha, kTagSize]
      omega
    obtain ⟨hdone, hsame⟩ :=
      relocate_entry (hgs f (by simp)) hat hdest (by omega) hentry hov'
    have hoff : a = (relocate tiff dest w fs.length).tagCountOffset := by
      rw [relocate_kept]
      exact ha
    have hlen : (fs ++ [f]).length = fs.length + 1 := by simp
    have hnext : Holds (relocate tiff dest w fs.length).exifBuffer a
        (records rel 0 (fs ++ [f]) ++ records 0 (areaEnd 0 (fs ++ [f])) gs) := by
      rw [records_append, areaEnd_append]
      refine Holds.append (Holds.append ?_ ?_) ?_
      · refine hpre.congr fun j hl hr => hsame j (.inl ?_)
        rwa [length_records] at hr
      · rw [length_records]
        simpa [records] using hdone
      · rw [List.length_append, length_records, length_records, List.length_singleton]
        have hp := hpost.congr fun j hl _ => hsame j (.inr hl)
        rwa [show a + (12 * fs.length + 12 * 1) = a + 12 * fs.length + (8 + 4) by omega]
    have hall := ih (fs ++ [f]) (fun g hg => hgs g (by simp [hg])) hoff (by rw [hlen]; omega) hnext
      (by rw [hlen]; exact hov)
    rw [hlen, List.append_assoc] at hall
    refine ⟨hall.1, fun j hj => ?_⟩
    rw [hall.2 j (by omega), hsame j (by omega)]

end Relocate

section EndWriting

variable {off : Nat}

/-- The IFD at `off` is complete: its directory is laid out, nothing is staged any more, and the next
one starts `stop` behind the TIFF header. -/
structure Ended (m : Nat → UInt8) (tiff off : Nat) (fs : List Field) (stop : Nat) (w : IfdWriter) :
    Prop where
  laid : Laid w.exifBuffer tiff off fs
  current : w.currentOffset = tiff + stop
  after : off + extent fs ≤ stop
  helperOffset : w.helperBufferOffset = 0
  below : ∀ i < tiff + off, w.exifBuffer i = m i
  tableRoom : tiff + off + tableSize fs.length ≤ kMaxExifApp1Length
  areaRoom : areaEnd 0 fs ≤ 2 ^ 16

theorem quiet_of_closeTable (hov : w.closeTable.overflowFlag = false) : w.overflowFlag = false :=
  (Out.writeLong_appends.back (Out.writeShort_appends.back hov).1).1

theorem quiet_of_endWritingIfd (hov : (w.endWritingIfd tiff).overflowFlag = false) :
    w.overflowFlag = false :=
  quiet_of_closeTable (quiet_of_relocateAll hov)

/-- The table with its count and the offset of the next directory, values still to be relocated. -/
structure Closed (m : Nat → UInt8) (base : Nat) (fs : List Field) (w : IfdWriter) : Prop where
  count : w.tagCount = fs.length
  countOffset : w.tagCountOffset = base + 2
  helperOffset : w.helperBufferOffset = areaEnd 0 fs
  length : Holds w.exifBuffer base (encodeBe16 (.ofNat fs.length))
  table : Holds w.exifBuffer (base + 2) (records 0 0 fs)
  next : Holds w.exifBuffer (base + 2 + 12 * fs.length) (encodeBe32 0)
  values : HoldsValues w.helperBuffer 0 0 fs
  below : ∀ i < base, w.exifBuffer i = m i
  tableRoom : base + tableSize fs.length ≤ kMaxExifApp1Length

theorem Writing.closeTable (h : Writing m base fs w) (hbase : base < 2 ^ 30)
    (hfs : fs.length < 2 ^ 16) (hov : w.closeTable.overflowFlag = false) :
    Closed m base fs w.closeTable := by
  have hcur := h.current
  set o₁ : Out := Out.writeLong 0 ⟨w.exifBuffer, w.currentOffset, w.overflowFlag⟩ with ho₁
  set o₂ : Out := Out.writeShort (.ofNat w.tagCount) ⟨o₁.buffer, w.tagCountOffset, o₁.overflow⟩
    with ho₂
  have hw : w.closeTable = { w with
      exifBuffer := o₂.buffer, currentOffset := o₁.offset, tagCountOffset := o₂.offset
      overflowFlag := o₂.overflow } := rfl
  have h₁ : Out.Appends ⟨w.exifBuffer, w.currentOffset, w.overflowFlag⟩ o₁ (encodeBe32 0) :=
    Out.writeLong_appends
  have h₂ : Out.Appends ⟨o₁.buffer, w.tagCountOffset, o₁.overflow⟩ o₂
      (encodeBe16 (.ofNat w.tagCount)) := Out.writeShort_appends
  rw [hw] at hov
  obtain ⟨hov₁, happ₂⟩ := h₂.back hov
  have hroom : w.currentOffset + 3 < kMaxExifApp1Length :=
    Out.put_room (o := ⟨w.exifBuffer, w.currentOffset, w.overflowFlag⟩) hov₁
      (show w.currentOffset < 2 ^ 31 by omega) (by decide)
  obtain ⟨-, happ₁⟩ := h₁.back hov₁
  obtain ⟨hbuf₁, -, -⟩ := happ₁ (show w.currentOffset < 2 ^ 31 by omega)
  have hco := h.countOffset
  obtain ⟨hbuf₂, hoff₂, -⟩ := happ₂ (show w.tagCountOffset < 2 ^ 31 by omega)
  clear_value o₁ o₂
  simp only [hbuf₁, h.countOffset, h.current, h.count] at hbuf₂
  rw [hw]
  refine ⟨h.count, ?_, h.helperOffset, ?_, ?_, ?_, h.values, ?_, ?_⟩
  · rw [hoff₂, h.countOffset, length_encodeBe16]
  · simp only [hbuf₂]
    exact Holds.store_self
  · simp only [hbuf₂]
    refine (h.table.store_apart (.inl ?_)).store_apart (.inr ?_)
    · exact Nat.le_of_eq (by rw [length_records])
    · exact Nat.le_refl _
  · simp only [hbuf₂]
    refine Holds.store_self.store_apart (.inr ?_)
    rw [length_encodeBe16]
    omega
  · intro i hi
    simp only [hbuf₂]
    rw [store_of_lt hi, store_of_lt (by omega), h.below i hi]
  · rw [tableSize]
    omega

theorem Closed.copy (h : Closed m base fs w) (hbase : base = tiff + off)
    (hfs : ∀ f ∈ fs, Known f) (hdest : dest = base + tableSize fs.length)
    (hov : ((List.range fs.length).foldl (relocate tiff dest) w).overflowFlag = false)
    (hroom : areaEnd 0 fs ≤ 2 ^ 16) :
    Ended m tiff off fs (off + extent fs)
      (copyHelper dest ((List.range fs.length).foldl (relocate tiff dest) w)) := by
  have htab : tableSize fs.length = 2 + 12 * fs.length + 4 := rfl
  have hmax : kMaxExifApp1Length = 65535 := rfl
  have htr := h.tableRoom
  rw [List.range_eq_range'] at hov ⊢
  obtain ⟨htable, hsame⟩ := relocate_entries [] fs (off + tableSize fs.length) hfs
    h.countOffset.symm (by omega) (by simp only [List.length_nil]; omega) h.table hov
  rw [List.length_nil, List.nil_append] at htable
  rw [List.length_nil, Nat.zero_add] at hsame
  rw [relocateAll_kept]
  set b : Nat → UInt8 := ((List.range' 0 fs.length).foldl (relocate tiff dest) w).exifBuffer with hb
  clear_value b
  simp only [copyHelper, h.helperOffset]
  refine ⟨⟨?_, ?_, ?_, ?_⟩, ?_, Nat.le_refl _, rfl, ?_, ?_, hroom⟩
  · refine Holds.store_apart ?_ (.inl ?_)
    · rw [← hbase]
      refine h.length.congr fun j _ hr => hsame j (.inl ?_)
      rwa [length_encodeBe16] at hr
    · rw [length_encodeBe16]
      omega
  · rw [← hbase]
    refine htable.store_apart (.inl ?_)
    rw [length_records]
    omega
  · rw [← hbase]
    refine Holds.store_apart (h.next.congr fun j hl _ => hsame j (.inr hl)) (.inl ?_)
    rw [length_encodeBe32]
    omega
  · rw [← hbase, ← hdest]
    exact h.values.copy (Nat.le_refl _)
  · simp only [hdest, hbase, extent]
    omega
  · intro i hi
    simp only
    rw [store_of_lt (by omega), hsame i (by omega), h.below i (by omega)]
  · rw [← hbase]
    exact htr

/-- The end of an IFD lays it out, unless something overflowed. -/
theorem Writing.endWritingIfd (h : Writing m base fs w) (hbase : base = tiff + off)
    (hsmall : base < 2 ^ 30) (hlen : fs.length < 2 ^ 16) (hfs : ∀ f ∈ fs, Known f)
    (hov : (w.endWritingIfd tiff).overflowFlag = false) :
    Ended m tiff off fs (off + extent fs) (w.endWritingIfd tiff) := by
  unfold IfdWriter.endWritingIfd at hov ⊢
  have hclosed := h.closeTable hsmall hlen (quiet_of_relocateAll hov)
  have hroom := h.helperRoom
  rw [h.helperOffset] at hroom
  simp only [hclosed.count] at hov ⊢
  refine hclosed.copy hbase hfs ?_ hov hroom
  rw [hclosed.countOffset, tableSize, kTagSize]
  omega

variable {stop : Nat}

theorem quiet_of_padToEven (hov : w.padToEven.overflowFlag = false) : w.overflowFlag = false := by
  unfold padToEven at hov
  split at hov
  · exact (Out.writeByte_appends.back hov).1
  · exact hov

theorem Ended.padToEven (h : Ended m tiff off fs stop w) (htiff : tiff % 2 = 0)
    (hsmall : w.currentOffset < 2 ^ 31) (hov : w.padToEven.overflowFlag = false) :
    Ended m tiff off fs (evenUp stop) w.padToEven := by
  have hcur := h.current
  have hafter := h.after
  unfold IfdWriter.padToEven at hov ⊢
  by_cases hodd : w.currentOffset % 2 = 1
  · rw [if_pos hodd] at hov ⊢
    obtain ⟨-, happ⟩ := Out.writeByte_appends.back hov
    obtain ⟨hbuf, hoff, -⟩ := happ hsmall
    refine ⟨?_, ?_, ?_, h.helperOffset, ?_, h.tableRoom, h.areaRoom⟩
    · simp only [onExif, hbuf]
      exact h.laid.store_apart (.inr (by omega))
    · simp only [onExif, hoff, List.length_singleton, evenUp]
      omega
    · exact Nat.le_trans hafter le_evenUp
    · intro i hi
      simp only [onExif, hbuf]
      rw [store_of_lt (by omega), h.below i hi]
  · rw [if_neg hodd]
    have heven : evenUp stop = stop := by
      unfold evenUp
      omega
    rwa [heven]

/-- A whole IFD: what was below it stays, and the tags are laid out from where it starts. -/
theorem ifd_ended (hhelp : w.helperBufferOffset = 0) (hcur : w.currentOffset = tiff + off)
    (hsmall : w.currentOffset < 2 ^ 30) (hlen : ts.length < 2 ^ 16)
    (hts : ∀ t ∈ ts, t.value.bytes.length < 2 ^ 31)
    (hov : ((w.beginIfd.writeTags ts).endWritingIfd tiff).overflowFlag = false) :
    Ended w.exifBuffer tiff off (ts.map Tag.field) (off + extent (ts.map Tag.field))
      ((w.beginIfd.writeTags ts).endWritingIfd tiff) := by
  have hwriting : Writing w.exifBuffer w.currentOffset (ts.map Tag.field) (w.beginIfd.writeTags ts) :=
    (writing_begin hhelp).writeTags hsmall (by simpa using hlen) (quiet_of_endWritingIfd hov) hts
  refine hwriting.endWritingIfd hcur hsmall (by simpa using hlen) (fun f hf => ?_) hov
  obtain ⟨t, ht, rfl⟩ := List.mem_map.mp hf
  exact .ofTag (hts t ht)

theorem quiet_of_ifd (hts : ∀ t ∈ ts, t.value.bytes.length < 2 ^ 31)
    (hov : ((w.beginIfd.writeTags ts).endWritingIfd tiff).overflowFlag = false) :
    w.overflowFlag = false :=
  quiet_of_writeTags (w := w.beginIfd) (quiet_of_endWritingIfd hov) hts

end EndWriting

end IfdWriter

end QmmfSdk.Exif
