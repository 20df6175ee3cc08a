import QmmfSdk.Exif.Leftovers

/-! When the IFDs and the values outside their tables start at even offsets. -/
namespace QmmfSdk.Exif

open Library Library.Tiff

/-- The IFDs behind the pointers, from the TIFF header on. -/
def readIfds (tiff : List UInt8) : Option (List Ifd) := do
  let first ← readU32 tiff 4
  let zeroth ← readIfd tiff first.toNat
  let exif ← readIfd tiff (← zeroth.pointer 0x8769)
  let interop ← readIfd tiff (← exif.pointer 0xA005)
  let gps ← readIfd tiff (← zeroth.pointer 0x8825)
  return [zeroth, exif, interop, gps]

namespace ExifGenerator

variable {F D : Type} {p : Platform F D} {g g' : ExifGenerator} {r : Request F D} {pic : Picture}
  {m : Nat → UInt8} {n : Int}

/-- Each IFD and each value outside a table starts at an even offset from the TIFF header. -/
def WordAligned (m : Nat → UInt8) (size : Int) : Prop :=
  ∃ ifds, readIfds (load m 10 (size.toNat - 10)) = some ifds ∧
    ∀ ifd ∈ ifds, ∀ q ∈ ifd.ranges, q.start % 2 = 0

theorem Picture.exifOffset_even (pic : Picture) : pic.exifOffset % 2 = 0 := by
  rw [Picture.exifOffset, evenUp]
  omega

theorem Picture.gpsOffset_even (pic : Picture) : pic.gpsOffset % 2 = 0 := by
  rw [Picture.gpsOffset, evenUp]
  omega

/-- The Interop IFD starts where the last of the microseconds ends; nothing is padded there. -/
theorem Picture.interopOffset_even_iff (pic : Picture) :
    pic.interopOffset % 2 = 0 ↔ pic.timeRoom % 2 = 0 := by
  have hexif : extent (pic.exifFields 0) = 6 + 12 * 16 + pic.timeRoom := by
    rw [extent, areaEnd_exif, Picture.length_exifFields, tableSize]
  have heven := pic.exifOffset_even
  rw [Picture.interopOffset, hexif]
  omega

theorem le_length_decimal {w k : Nat} : w ≤ (decimal w k).length := by
  simp only [decimal, List.length_append, List.length_replicate]
  omega

/-- The microseconds with their NUL end an even place apart from the one before. -/
theorem timeRoom_even_iff : pic.timeRoom % 2 = 0 ↔ (getDateTime pic.clock).2.length % 2 = 1 := by
  have hlen := (length_getDateTime pic.clock).2
  have hsix : 6 ≤ (getDateTime pic.clock).2.length := by
    have hdecimal : 6 ≤ (decimal 6 pic.clock.usec.toNat).length := le_length_decimal
    simp only [getDateTime, List.length_take]
    omega
  unfold Picture.timeRoom
  generalize (getDateTime pic.clock).2 = subsec at *
  have hc : cLength subsec = subsec.length + 1 := Nat.mod_eq_of_lt (by omega)
  simp only [hc]
  rw [valueEnd, if_neg (by omega), evenUp]
  omega

theorem readIfds_written (h : Written pic m) (hsize : pic.segmentSize < 2 ^ 32) :
    readIfds (load m 10 (pic.segmentSize - 10)) =
      some [pic.file.zeroth, pic.file.exif, pic.file.interop, pic.file.gps] := by
  have hread := readsBack_written h hsize
  have hfst : (8 : UInt32).toNat = 8 := rfl
  simp only [readIfds, hread.first, hfst, hread.zeroth, hread.atExif, hread.exif, hread.atInterop,
    hread.interop, hread.atGps, hread.gps, Option.bind_eq_bind, Option.bind_some]
  rfl

theorem table_mem_ifdOf {off : Nat} {ts : List Tag} :
    (⟨off, off + tableSize ts.length⟩ : Range) ∈ (ifdOf off ts).ranges := by
  simp [ifdOf, Directory.ranges]

theorem wordAligned_written_iff (h : Written pic m) (hsize : pic.segmentSize < 2 ^ 32) :
    WordAligned m pic.segmentSize ↔ pic.interopOffset % 2 = 0 := by
  have hread := readIfds_written h hsize
  constructor
  · rintro ⟨ifds, hifds, heven⟩
    obtain rfl := Option.some.inj (hread.symm.trans hifds)
    have hinterop : ∀ q ∈ pic.file.interop.ranges, q.start % 2 = 0 := by
      refine heven pic.file.interop ?_
      exact List.mem_cons_of_mem _ (List.mem_cons_of_mem _ List.mem_cons_self)
    have htable : (⟨pic.interopOffset, pic.interopOffset + tableSize interopIfdTags.length⟩ : Range) ∈
        pic.file.interop.ranges := table_mem_ifdOf
    have hstart := hinterop _ htable
    exact hstart
  · intro hinterop
    refine ⟨_, hread, fun ifd hifd q hq => ?_⟩
    simp only [List.mem_cons, List.not_mem_nil, or_false] at hifd
    obtain rfl | rfl | rfl | rfl := hifd
    · exact start_laid rfl hq
    · exact start_laid pic.exifOffset_even hq
    · exact start_laid hinterop hq
    · exact start_laid pic.gpsOffset_even hq

theorem segmentSize_lt (hv : Bounded pic.values) (h : pic.TablesFit) : pic.segmentSize < 2 ^ 32 := by
  have hmax : kMaxExifApp1Length = 65535 := rfl
  have harea := gpsArea_le hv
  unfold Picture.TablesFit at h
  rw [Picture.segmentSize, extent]
  omega

theorem wordAligned_iff_of_nothing_staged {buffer : Nat → UInt8} {v : ExifTagValues}
    (hhelp : g.helperBufferOffset = 0) (hbuffer : r.buffer = some buffer)
    (hv : extractExifTagValues p r.metadata = some v) (hbounds : (r.picture v).InBounds)
    (h : generate p g r = some (g', n)) (hov : g'.overflowFlag = false) :
    WordAligned g'.exifBuffer n ↔ (getDateTime r.clock).2.length % 2 = 1 := by
  obtain ⟨hnone, -⟩ | ⟨buffer', v', -, hv', heq⟩ := generate_cases h
  · rw [hbuffer] at hnone
    cases hnone
  · obtain rfl := Option.some.inj (hv.symm.trans hv')
    have hbounded : Bounded (r.picture v).values := extract_bounded hv
    have hov' : (writeExifData (r.picture v) (fresh buffer' g)).1.overflowFlag = false := by
      rw [heq]
      exact hov
    have hquiet := (writeExifData_quiet hov').1
    rw [drawn_carried hhelp] at hquiet
    have hfits := tablesFit_of_quiet hbounded hbounds.modelSummed (Bool.or_eq_false_iff.mp hquiet).2
    have hsmall : (r.picture v).Small := by
      refine small_of_gpsOffset hbounded ?_
      have hmax : kMaxExifApp1Length = 65535 := rfl
      unfold Picture.TablesFit at hfits
      omega
    obtain ⟨hwritten, hsize⟩ := writeExifData_written (g := fresh buffer' g) rfl hhelp hsmall hov'
    rw [heq] at hwritten hsize
    have hn : n = (r.picture v).segmentSize := hsize
    rw [hn, wordAligned_written_iff hwritten (segmentSize_lt hbounded hfits),
      Picture.interopOffset_even_iff, timeRoom_even_iff]
    rfl

/-- Whatever was generated before: the Interop IFD, the only one that may not, stands at an even place
if and only if the microseconds have an odd number of characters. -/
theorem wordAligned_iff_odd_subsec {helper : Nat → UInt8} {rs : List (Request F D)}
    {buffer : Nat → UInt8} {v : ExifTagValues}
    (hrun : LTS.run (call p) (init helper) rs = some g) (hbuffer : r.buffer = some buffer)
    (hv : extractExifTagValues p r.metadata = some v) (hbounds : (r.picture v).InBounds)
    (h : generate p g r = some (g', n)) (hov : g'.overflowFlag = false) :
    WordAligned g'.exifBuffer n ↔ (getDateTime r.clock).2.length % 2 = 1 :=
  wordAligned_iff_of_nothing_staged (helperOffset_of_run hrun) hbuffer hv hbounds h hov

theorem wordAligned_iff_odd_subsec_epoch : ∃ g' n,
    generate epochPlatform (init fun _ => 0) (epochRequest [81, 67, 79, 77]) = some (g', n) ∧
    g'.overflowFlag = false ∧ (WordAligned g'.exifBuffer n ↔
      (getDateTime (epochRequest [81, 67, 79, 77]).clock).2.length % 2 = 1) := by
  obtain ⟨g', n, hgen, hov⟩ := @epoch_generated [81, 67, 79, 77] (fun _ => 0) (by decide) (by decide)
  have hrun : LTS.run (call epochPlatform) (init fun _ => 0) [] = some (init fun _ => 0) := rfl
  exact ⟨g', n, hgen, hov,
    wordAligned_iff_odd_subsec hrun rfl epoch_extract epoch_inBounds hgen hov⟩

/-- Six characters of microseconds, as at any time below a second. -/
theorem epoch_not_wordAligned : ∃ g' n,
    generate epochPlatform (init fun _ => 0) (epochRequest [81, 67, 79, 77]) = some (g', n) ∧
    g'.overflowFlag = false ∧ ¬ WordAligned g'.exifBuffer n := by
  obtain ⟨g', n, hgen, hov⟩ := @epoch_generated [81, 67, 79, 77] (fun _ => 0) (by decide) (by decide)
  have haligned := wordAligned_iff_of_nothing_staged rfl rfl epoch_extract epoch_inBounds hgen hov
  have hsubsec : (getDateTime (epochRequest [81, 67, 79, 77]).clock).2.length = 6 := by decide
  rw [hsubsec] at haligned
  exact ⟨g', n, hgen, hov, fun h => absurd (haligned.mp h) (by decide)⟩

end ExifGenerator

end QmmfSdk.Exif
