import QmmfSdk.Exif.Segment

/-! With room for the tables and for every staging area the overflow flag stays down. -/
namespace QmmfSdk.Exif

open Library Library.Tiff

namespace IfdWriter

variable {w : IfdWriter} {t : Tag} {ts : List Tag} {m : Nat → UInt8} {fs : List Field}
  {tiff base dest i n : Nat}

section Tags

variable {o₀ o₁ o₂ : Out} {bs cs ds : List UInt8} {off : Nat}

theorem fits_inline (h₀ : Out.Appends ⟨w.exifBuffer, w.currentOffset, w.overflowFlag⟩ o₀ bs)
    (h₁ : Out.Appends ⟨o₀.buffer, o₀.offset, o₀.overflow⟩ o₁ cs) (hov : w.overflowFlag = false)
    (hroom : w.currentOffset + (bs ++ cs).length < kMaxExifApp1Length) : o₁.overflow = false :=
  (h₀.trans h₁).fits hov hroom

theorem fits_staged (h₀ : Out.Appends ⟨w.exifBuffer, w.currentOffset, w.overflowFlag⟩ o₀ bs)
    (h₁ : Out.Appends ⟨o₀.buffer, o₀.offset, o₀.overflow⟩ o₁ cs)
    (h₂ : Out.Appends ⟨w.helperBuffer, off, o₁.overflow⟩ o₂ ds) (hov : w.overflowFlag = false)
    (hroom : w.currentOffset + (bs ++ cs).length < kMaxExifApp1Length)
    (harea : off + ds.length < kMaxExifApp1Length) : o₂.overflow = false := by
  have hov₁ : o₁.overflow = false := fits_inline h₀ h₁ hov hroom
  exact h₂.fits hov₁ harea

theorem writeExifTag_fits (hov : w.overflowFlag = false)
    (hcur : w.currentOffset + 12 < kMaxExifApp1Length)
    (harea : t.field.grow w.helperBufferOffset < kMaxExifApp1Length)
    (ht : t.value.bytes.length < 2 ^ 31) : (w.writeExifTag t).overflowFlag = false := by
  have hlen : typeSize t.value.type.code * t.value.count = t.field.value.length :=
    Value.length_bytes.symm
  have hval : t.field.value.length = t.value.bytes.length := rfl
  by_cases hin : t.field.value.length ≤ 4
  · simp only [writeExifTag, onExif, hlen, hin, if_true]
    refine fits_inline writeEntryHeader_appends
      ((Out.writeTagValue_appends ht).trans Out.writeZeros_appends) hov ?_
    rw [List.length_append, length_header, List.length_append, List.length_replicate]
    omega
  · simp only [writeExifTag, onExif, onHelper, hlen, hin, if_false]
    refine fits_staged writeEntryHeader_appends Out.writeLong_appends
      (Out.writeTagValue_appends ht) hov ?_ ?_
    · rw [List.length_append, length_header, length_encodeBe32]
      omega
    · rw [Field.grow, if_neg hin] at harea
      exact harea

/-- Tags with room for their entries and for what they stage. -/
theorem Writing.writeTags_fits (h : Writing m base fs w) (hov : w.overflowFlag = false)
    (hroom : base + 2 + 12 * (fs.length + ts.length) < kMaxExifApp1Length)
    (harea : areaEnd 0 (fs ++ ts.map Tag.field) < kMaxExifApp1Length)
    (hts : ∀ t ∈ ts, t.value.bytes.length < 2 ^ 31) : (w.writeTags ts).overflowFlag = false := by
  have hmax : kMaxExifApp1Length = 65535 := rfl
  induction ts generalizing w fs with
  | nil => exact hov
  | cons t ts ih =>
    rw [List.length_cons] at hroom
    have hsplit : fs ++ (t :: ts).map Tag.field = (fs ++ [t.field]) ++ ts.map Tag.field := by simp
    rw [hsplit] at harea
    have hcur := h.current
    have hgrow : t.field.grow w.helperBufferOffset ≤
        areaEnd 0 ((fs ++ [t.field]) ++ ts.map Tag.field) := by
      rw [areaEnd_append, areaEnd_append, ← h.helperOffset]
      exact le_areaEnd
    have hov' : (w.writeExifTag t).overflowFlag = false :=
      writeExifTag_fits hov (by omega) (by omega) (hts t (by simp))
    have hnext := h.writeExifTag (by omega) (by omega) hov' (hts t (by simp))
    refine ih hnext hov' ?_ harea fun t' ht' => hts t' (by simp [ht'])
    rw [List.length_append, List.length_singleton]
    omega

end Tags

section EndWriting

theorem closeTable_fits (hov : w.overflowFlag = false)
    (hcur : w.currentOffset + 4 < kMaxExifApp1Length)
    (hcount : w.tagCountOffset + 2 < kMaxExifApp1Length) : w.closeTable.overflowFlag = false :=
  Out.writeShort_appends.fits (Out.writeLong_appends.fits hov hcur) hcount

theorem relocate_fits (hov : w.overflowFlag = false)
    (hroom : w.tagCountOffset + 12 * (i + 1) < kMaxExifApp1Length) :
    (relocate tiff dest w i).overflowFlag = false := by
  unfold relocate
  dsimp only
  split
  · exact hov
  · split
    · refine Out.writeLong_appends.fits hov ?_
      rw [length_encodeBe32]
      simp only [kTagSize, tagDataOffset]
      omega
    · exact hov

theorem relocateAll_fits {is : List Nat} (hov : w.overflowFlag = false)
    (hroom : ∀ i ∈ is, w.tagCountOffset + 12 * (i + 1) < kMaxExifApp1Length) :
    (is.foldl (relocate tiff dest) w).overflowFlag = false := by
  induction is generalizing w with
  | nil => exact hov
  | cons i is ih =>
    have hoff : (relocate tiff dest w i).tagCountOffset = w.tagCountOffset := by rw [relocate_kept]
    refine ih (relocate_fits hov (hroom i (by simp))) fun j hj => ?_
    rw [hoff]
    exact hroom j (by simp [hj])

theorem Writing.endWritingIfd_fits (h : Writing m base fs w) (hov : w.overflowFlag = false)
    (hroom : base + tableSize fs.length < kMaxExifApp1Length) :
    (w.endWritingIfd tiff).overflowFlag = false := by
  have hmax : kMaxExifApp1Length = 65535 := rfl
  have htab : tableSize fs.length = 2 + 12 * fs.length + 4 := rfl
  have hcur := h.current
  have hco := h.countOffset
  have hclose := closeTable_fits hov (by omega) (by omega)
  have hclosed := h.closeTable (by omega) (by omega) hclose
  unfold IfdWriter.endWritingIfd
  refine relocateAll_fits hclose fun i hi => ?_
  have hlt := List.mem_range.mp hi
  have hc := hclosed.count
  have ho := hclosed.countOffset
  omega

/-- A whole IFD. -/
theorem ifd_fits (tiff : Nat) (hhelp : w.helperBufferOffset = 0) (hov : w.overflowFlag = false)
    (hroom : w.currentOffset + tableSize ts.length < kMaxExifApp1Length)
    (harea : areaEnd 0 (ts.map Tag.field) < kMaxExifApp1Length)
    (hts : ∀ t ∈ ts, t.value.bytes.length < 2 ^ 31) :
    ((w.beginIfd.writeTags ts).endWritingIfd tiff).overflowFlag = false := by
  have hmax : kMaxExifApp1Length = 65535 := rfl
  have htab : tableSize ts.length = 2 + 12 * ts.length + 4 := rfl
  have hbegin := writing_begin hhelp
  have hov' : (w.beginIfd.writeTags ts).overflowFlag = false :=
    hbegin.writeTags_fits hov (by simp only [List.length_nil]; omega) harea hts
  have hwriting := hbegin.writeTags (by omega) (by simp only [List.length_nil]; omega) hov' hts
  refine hwriting.endWritingIfd_fits hov' ?_
  rw [List.nil_append, List.length_map]
  exact hroom

theorem padToEven_fits (hov : w.overflowFlag = false)
    (hroom : w.currentOffset + 1 < kMaxExifApp1Length) : w.padToEven.overflowFlag = false := by
  unfold padToEven
  split
  · exact Out.writeByte_appends.fits hov hroom
  · exact hov

end EndWriting

end IfdWriter

namespace ExifGenerator

variable {g : ExifGenerator} {pic : Picture}

/-- Room for every table and, in the helper buffer, for the values of every IFD; the values of the
last IFD need no room in the segment. -/
structure Picture.Fits (pic : Picture) : Prop where
  zeroth : areaEnd 0 (pic.zerothFields 0 0) < kMaxExifApp1Length
  exif : areaEnd 0 (pic.exifFields 0) < kMaxExifApp1Length
  gps : areaEnd 0 pic.gpsFields < kMaxExifApp1Length
  tables : 10 + pic.gpsOffset + tableSize pic.gpsFields.length < kMaxExifApp1Length

theorem writeLongAt_fits {off : Nat} {v : UInt32} (hov : g.overflowFlag = false)
    (hroom : off + 4 < kMaxExifApp1Length) : (g.writeLongAt off v).overflowFlag = false :=
  Out.writeLong_appends.fits hov hroom

theorem updateFields_fits (h : Drawn pic g) (hov : g.overflowFlag = false)
    (hroom : 10 + pic.exifOffset + 2 + 12 * 13 + 12 < kMaxExifApp1Length) :
    g.updateFields.overflowFlag = false := by
  have hmax : kMaxExifApp1Length = 65535 := rfl
  have hexif := h.exifPointer
  have hinterop := h.interopPointer
  have hgps := h.gpsPointer
  have hbegin := h.app1begin
  rw [updateFields_eq]
  refine Out.writeShort_appends.fits (writeLongAt_fits (writeLongAt_fits (writeLongAt_fits hov
    ?_) ?_) ?_) (show g.app1beginOffset + 2 < _ from ?_)
  all_goals omega

/-- A picture that fits raises no overflow on a generator whose flag is down. -/
theorem writeIfds_fits (hg : Ready g) (hov : g.overflowFlag = false) (hsmall : pic.Small)
    (hfits : pic.Fits) : (g.writeIfds pic).overflowFlag = false := by
  have hmax : kMaxExifApp1Length = 65535 := rfl
  have htables := hfits.tables
  have hcur := hg.current
  have o₁ := pic.exifOffset_ge
  have o₂ : pic.exifOffset + extent (pic.exifFields 0) = pic.interopOffset := rfl
  have o₃ := pic.gpsOffset_ge
  have x₁ : extent (pic.zerothFields 0 0) =
      tableSize (zerothIfdTags pic.vendorName pic.productName 0 0).length +
        areaEnd 0 (pic.zerothFields 0 0) := by
    rw [extent, Picture.length_zerothFields, length_zerothIfdTags]
  have x₂ : extent (pic.exifFields 0) =
      tableSize (pic.exifTags 0).length + areaEnd 0 (pic.exifFields 0) := by
    rw [extent, Picture.length_exifFields, Picture.length_exifTags]
  have x₃ : extent (interopIfdTags.map Tag.field) = tableSize interopIfdTags.length := by decide
  have hgps : tableSize (gpsIfdTags pic.values).length = tableSize pic.gpsFields.length := by
    rw [Picture.gpsFields, List.length_map]
  have hsix : 6 ≤ tableSize pic.gpsFields.length := by
    rw [tableSize]
    omega
  rw [writeIfds]
  -- the 0th IFD
  have f₁ : (g.write0thIfd pic.vendorName pic.productName).overflowFlag = false := by
    rw [write0thIfd_eq, hg.tiffBegin]
    have hifd := IfdWriter.ifd_fits 10 hg.helperOffset hov
      (show _ + tableSize (zerothIfdTags pic.vendorName pic.productName 0 0).length < _ by omega)
      hfits.zeroth hsmall.zeroth
    have hended := IfdWriter.ifd_ended hg.helperOffset (show _ = 10 + 8 from hcur) (by omega)
      (by rw [length_zerothIfdTags]; decide) hsmall.zeroth hifd
    have hend : 8 + extent ((zerothIfdTags pic.vendorName pic.productName 0 0).map Tag.field) ≤
      pic.exifOffset := o₁
    refine IfdWriter.padToEven_fits hifd ?_
    rw [hended.current]
    omega
  have a₁ := write0thIfd_after hg hsmall f₁
  generalize g.write0thIfd pic.vendorName pic.productName = g₁ at *
  have c₁ := a₁.ended.current
  -- the Exif IFD
  have f₂ : (g₁.writeExifIfd pic.values (getDateTime pic.clock) pic.width.toUInt32
      pic.height.toUInt32).overflowFlag = false := by
    rw [writeExifIfd_eq]
    exact IfdWriter.ifd_fits _ a₁.ended.helperOffset f₁
      (show _ + tableSize (pic.exifTags 0).length < _ by omega) hfits.exif hsmall.exif
  have a₂ := writeExifIfd_after a₁.tiffBegin c₁ a₁.ended.helperOffset
    (ended_small a₁.ended evenUp_le) hsmall f₂
  generalize g₁.writeExifIfd pic.values (getDateTime pic.clock) pic.width.toUInt32
    pic.height.toUInt32 = g₂ at *
  have c₂ := a₂.ended.current
  have t₂ : g₂.tiffHeaderBeginOffset = 10 := by rw [a₂.kept]; exact a₁.tiffBegin
  -- the Interop IFD
  have f₃ : g₂.writeInteropIfd.overflowFlag = false := by
    simp only [writeInteropIfd, onIfd, t₂]
    have hifd := IfdWriter.ifd_fits 10 a₂.ended.helperOffset f₂
      (show _ + tableSize interopIfdTags.length < _ by omega) (by decide) interop_small
    have hended := IfdWriter.ifd_ended a₂.ended.helperOffset c₂ (by omega) (by decide)
      interop_small hifd
    refine IfdWriter.padToEven_fits hifd ?_
    rw [hended.current]
    omega
  have a₃ := writeInteropIfd_after t₂ c₂ a₂.ended.helperOffset
    (ended_small a₂.ended (Nat.le_succ _)) f₃
  generalize g₂.writeInteropIfd = g₃ at *
  have c₃ := a₃.ended.current
  -- the GPS IFD
  exact IfdWriter.ifd_fits _ a₃.ended.helperOffset f₃ (by omega) hfits.gps hsmall.gps

theorem writeExifData_fits (hcur : g.currentOffset = 0) (hhelp : g.helperBufferOffset = 0)
    (hov : g.overflowFlag = false) (hsmall : pic.Small) (hfits : pic.Fits) :
    (writeExifData pic g).1.overflowFlag = false := by
  have hmax : kMaxExifApp1Length = 65535 := rfl
  have htables := hfits.tables
  have htab : tableSize pic.gpsFields.length = 2 + 12 * pic.gpsFields.length + 4 := rfl
  have o₂ : pic.exifOffset + extent (pic.exifFields 0) = pic.interopOffset := rfl
  have o₃ := pic.gpsOffset_ge
  have hready := writeHeader_ready hcur hhelp
  have hhead : g.writeHeader.overflowFlag = false := by
    rw [writeHeader_eq hcur]
    exact hov
  have hifds := writeIfds_fits hready hhead hsmall hfits
  have hdrawn := writeIfds_drawn hready hsmall hifds
  have hexif : 198 ≤ extent (pic.exifFields 0) := by
    rw [extent, Picture.length_exifFields, tableSize]
    omega
  have hdone := updateFields_fits hdrawn hifds (by omega)
  unfold writeExifData
  generalize (g.writeHeader.writeIfds pic).updateFields = g' at *
  simp [hdone]

end ExifGenerator

end QmmfSdk.Exif
