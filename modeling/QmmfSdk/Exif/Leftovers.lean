import QmmfSdk.Exif.Carries

/-! What one call of `Generate` leaves for the next: two flags that no call resets. -/
namespace QmmfSdk.Exif

open Library Library.Tiff

namespace ExifGenerator

variable {F D : Type} {p : Platform F D} {g g' : ExifGenerator} {r : Request F D}
  {rs : List (Request F D)} {pic : Picture} {buffer helper : Nat → UInt8}

section Fitting

/-- The tables of the IFDs, with the values between them, end inside the segment; the values of the
last IFD need not. -/
def Picture.TablesFit (pic : Picture) : Prop :=
  10 + pic.gpsOffset + tableSize pic.gpsFields.length < kMaxExifApp1Length

instance : Decidable pic.TablesFit := inferInstanceAs (Decidable (_ < _))

/-- A longer model name wraps the sum that `WriteNBytes` checks, and `memcpy` leaves the helper
buffer. -/
def Picture.InBounds (pic : Picture) : Prop := cLength pic.productName + kMaxExifApp1Length < 2 ^ 32

instance : Decidable pic.InBounds := inferInstanceAs (Decidable (_ < _))

/-- The texts of the metadata are in arrays. -/
structure Bounded (v : ExifTagValues) : Prop where
  datestamp : v.gpsDatestamp.length < 20
  method : v.gpsProcessingMethod.length ≤ gpsProcessingMethodSize

theorem valueEnd_le {o k : Nat} : valueEnd o k ≤ o + k + 1 := by
  unfold valueEnd evenUp
  split
  · omega
  · omega

theorem cLength_le {s : List UInt8} {n : Nat} (h : s.length ≤ n) : cLength s ≤ n + 1 :=
  Nat.le_trans (Nat.mod_le _ _) (Nat.succ_le_succ h)

theorem Bounded.congr {v v' : ExifTagValues} (h : Bounded v)
    (hdate : v'.gpsDatestamp = v.gpsDatestamp)
    (hmethod : v'.gpsProcessingMethod = v.gpsProcessingMethod) : Bounded v' :=
  ⟨hdate ▸ h.datestamp, hmethod ▸ h.method⟩

theorem bounded_getGpsDateTimestamp {v : ExifTagValues} {t : Int64} (h : Bounded v) :
    Bounded (getGpsDateTimestamp p t v) := by
  unfold getGpsDateTimestamp
  split
  · next time _ => exact ⟨time.fits, h.method⟩
  · exact h

theorem bounded_getGpsProcessingMethod {v v' : ExifTagValues} {method : List UInt8} (h : Bounded v)
    (hv : getGpsProcessingMethod method v = some v') : Bounded v' := by
  unfold getGpsProcessingMethod at hv
  split at hv
  · next hfits =>
    obtain rfl := Option.some.inj hv
    have hmethod : (kASCIICharacterCode ++ method ++ [0]).length ≤ gpsProcessingMethodSize := by
      simp only [List.length_append, List.length_singleton]
      exact hfits
    exact ⟨h.datestamp, hmethod⟩
  · cases hv

/-- Only the last two groups set the texts. -/
theorem extract_bounded {m : CameraMetadata F D} {v : ExifTagValues}
    (h : extractExifTagValues p m = some v) : Bounded v := by
  unfold extractExifTagValues at h
  extract_lets v₀ v₁ v₂ v₃ v₄ v₅ v₆ v₇ v₈ at h
  have h₀ : Bounded v₀ := ⟨by decide, by decide⟩
  have h₁ : Bounded v₁ := by
    unfold v₁
    split
    · split
      · exact h₀.congr rfl rfl
      · exact h₀
    · exact h₀
  have h₂ : Bounded v₂ := by
    unfold v₂
    split
    · exact h₁.congr rfl rfl
    · exact h₁
  have h₃ : Bounded v₃ := by
    unfold v₃
    split
    · exact h₂.congr rfl rfl
    · exact h₂
  have h₄ : Bounded v₄ := by
    unfold v₄
    split
    · exact h₃.congr rfl rfl
    · exact h₃
  have h₅ : Bounded v₅ := by
    unfold v₅
    split
    · exact h₄.congr rfl rfl
    · exact h₄
  have h₆ : Bounded v₆ := by
    unfold v₆
    split
    · exact h₅.congr rfl rfl
    · exact h₅
  have h₇ : Bounded v₇ := by
    unfold v₇
    split
    · exact h₆.congr rfl rfl
    · exact h₆
  have h₈ : Bounded v₈ := by
    unfold v₈
    split
    · exact bounded_getGpsDateTimestamp (h₇.congr rfl rfl)
    · exact h₇
  split at h
  · apply bounded_getGpsProcessingMethod _ h
    exact h₈.congr rfl rfl
  · exact Option.some.inj h ▸ h₈

theorem length_getDateTime (c : Clock) :
    (getDateTime c).1.length ≤ 19 ∧ (getDateTime c).2.length ≤ 19 := by
  simp only [getDateTime]
  exact ⟨List.length_take_le _ _, List.length_take_le _ _⟩

theorem timeRoom_le : pic.timeRoom ≤ 200 := by
  have hdate : cLength (getDateTime pic.clock).1 ≤ 20 := cLength_le (length_getDateTime _).1
  have hsubsec : cLength (getDateTime pic.clock).2 ≤ 20 := cLength_le (length_getDateTime _).2
  unfold Picture.timeRoom
  generalize cLength (getDateTime pic.clock).1 = date at *
  generalize cLength (getDateTime pic.clock).2 = subsec at *
  have h₁ := @valueEnd_le 16 date
  have h₂ := @valueEnd_le (valueEnd 16 date) date
  have h₃ := @valueEnd_le (valueEnd (valueEnd 16 date) date) date
  dsimp only
  generalize valueEnd (valueEnd (valueEnd 16 date) date) date = o₃ at *
  have h₄ := @valueEnd_le o₃ 8
  have h₅ := @valueEnd_le (valueEnd o₃ 8) 8
  generalize valueEnd (valueEnd o₃ 8) 8 = o₅ at *
  have h₆ := @valueEnd_le o₅ subsec
  have h₇ := @valueEnd_le (valueEnd o₅ subsec) subsec
  have h₈ := @valueEnd_le (valueEnd (valueEnd o₅ subsec) subsec) subsec
  omega

theorem gpsArea_le (hv : Bounded pic.values) : areaEnd 0 pic.gpsFields ≤ 200 := by
  have hdate : cLength pic.values.gpsDatestamp ≤ 20 := cLength_le (by have := hv.datestamp; omega)
  have hmethod : pic.values.gpsProcessingMethod.length % 2 ^ 32 ≤ 42 :=
    Nat.le_trans (Nat.mod_le _ _) hv.method
  have hroom := @gpsRoom_eq pic
  rw [length_gpsFields, Picture.gpsRoom] at hroom
  have hcoords : (if pic.values.gpsCoordsPresent then 24 + 24 + 8 else 0) ≤ 56 := by
    split <;> decide
  generalize (if pic.values.gpsCoordsPresent then 24 + 24 + 8 else 0) = coords at *
  have h₁ := @valueEnd_le (coords + 24) (cLength pic.values.gpsDatestamp)
  have hstamp : (if pic.values.gpsTimestampPresent then
      valueEnd (coords + 24) (cLength pic.values.gpsDatestamp) else coords) ≤ 101 := by
    split <;> omega
  generalize (if pic.values.gpsTimestampPresent then
    valueEnd (coords + 24) (cLength pic.values.gpsDatestamp) else coords) = stamp at *
  have h₂ := @valueEnd_le stamp (pic.values.gpsProcessingMethod.length % 2 ^ 32)
  have hlast : (if pic.values.gpsProcMethodPresent then
      valueEnd stamp (pic.values.gpsProcessingMethod.length % 2 ^ 32) else stamp) ≤ 144 := by
    split <;> omega
  omega

theorem nameRoom_le {n : Nat} (hvendor : cLength pic.vendorName ≤ n)
    (hproduct : cLength pic.productName ≤ n) : pic.nameRoom ≤ 3 * n + 3 := by
  unfold Picture.nameRoom
  have h₁ := @valueEnd_le 0 (cLength pic.vendorName)
  have h₂ := @valueEnd_le (valueEnd 0 (cLength pic.vendorName)) (cLength pic.productName)
  have h₃ := @valueEnd_le (valueEnd (valueEnd 0 (cLength pic.vendorName)) (cLength pic.productName))
    (cLength pic.productName)
  omega

theorem gpsOffset_bounds : 300 + pic.nameRoom ≤ pic.gpsOffset ∧
    pic.gpsOffset ≤ pic.nameRoom + pic.timeRoom + 310 ∧ pic.gpsOffset % 2 = 0 := by
  rw [gpsOffset_eq]
  unfold evenUp
  omega

theorem small_of_gpsOffset (hv : Bounded pic.values) (h : pic.gpsOffset < 2 ^ 30) : pic.Small := by
  have hlen : pic.gpsFields.length ≤ 9 := by
    rw [Picture.gpsFields, List.length_map]
    exact length_gpsIfdTags
  have harea := gpsArea_le hv
  apply small_of_segmentSize
  rw [Picture.segmentSize, extent, tableSize]
  omega

theorem Picture.TablesFit.fits (h : pic.TablesFit) (hv : Bounded pic.values) : pic.Fits := by
  have hmax : kMaxExifApp1Length = 65535 := rfl
  have htime := @timeRoom_le pic
  have harea := gpsArea_le hv
  obtain ⟨hge, -, -⟩ := @gpsOffset_bounds pic
  have htables : 10 + pic.gpsOffset + tableSize pic.gpsFields.length < kMaxExifApp1Length := h
  have hzeroth : areaEnd 0 (pic.zerothFields 0 0) < kMaxExifApp1Length := by
    rw [areaEnd_zeroth]
    omega
  have hexif : areaEnd 0 (pic.exifFields 0) < kMaxExifApp1Length := by
    rw [areaEnd_exif]
    omega
  exact ⟨hzeroth, hexif, by omega, htables⟩

end Fitting

section Overflow

/-- A text that leaves the helper buffer. -/
theorem up_of_longText {w : IfdWriter} {id : UInt32} {s : List UInt8}
    (hlong : kMaxExifApp1Length ≤ cLength s)
    (hend : evenUp w.helperBufferOffset + cLength s < 2 ^ 32) :
    (w.writeExifTag (.cString id s)).overflowFlag = true := by
  have hmax : kMaxExifApp1Length = 65535 := rfl
  have hlen : (Tag.cString id s).value.bytes.length = cLength s := @length_cString id s
  have hsize : typeSize (Tag.cString id s).value.type.code * (Tag.cString id s).value.count =
      cLength s := by rw [← Value.length_bytes, hlen]
  have hput (o : Out) (ho : o.offset = evenUp w.helperBufferOffset) :
      (o.writeTagValue (Tag.cString id s).value).overflow = true := by
    show (o.put (Tag.cString id s).value.bytes.length _).overflow = true
    rw [hlen, Out.put, if_pos]
    rw [ho, Nat.mod_eq_of_lt hend]
    omega
  simp only [IfdWriter.writeExifTag, hsize, if_neg (show ¬ cLength s ≤ 4 by omega)]
  exact hput _ rfl

/-- The sum that is checked for the model name does not wrap. -/
def Picture.ModelSummed (pic : Picture) : Prop := cLength pic.vendorName < kMaxExifApp1Length →
  evenUp (valueEnd 0 (cLength pic.vendorName)) + cLength pic.productName < 2 ^ 32

theorem Picture.InBounds.modelSummed (h : pic.InBounds) : pic.ModelSummed := by
  have hmax : kMaxExifApp1Length = 65535 := rfl
  unfold Picture.InBounds at h
  intro hvendor
  rw [valueEnd, evenUp, evenUp]
  split <;> omega

/-- Without an overflow both names are short. -/
theorem names_short (hhelp : g.helperBufferOffset = 0) (hcur : g.currentOffset < 2 ^ 30)
    (hsum : pic.ModelSummed) (hov : (g.writeIfds pic).overflowFlag = false) :
    cLength pic.vendorName < kMaxExifApp1Length ∧ cLength pic.productName < kMaxExifApp1Length := by
  have hmax : kMaxExifApp1Length = 65535 := rfl
  have hwrap : cLength pic.vendorName < 2 ^ 32 := Nat.mod_lt _ (by decide)
  -- the flag at the end speaks for every IFD and for every tag before it
  have hfirst : (g.write0thIfd pic.vendorName pic.productName).overflowFlag = false :=
    quiet_of_carries ((carries_writeExifIfd _ _ _ _).comp (carries_writeInteropIfd.comp
      (carries_writeGpsIfd _))) hov
  rw [write0thIfd_eq] at hfirst
  have htags := IfdWriter.quiet_of_carries ((IfdWriter.carries_endWritingIfd
    g.tiffHeaderBeginOffset).comp IfdWriter.carries_padToEven) hfirst
  rw [show zerothIfdTags pic.vendorName pic.productName 0 0 = .cString TagId.make pic.vendorName ::
    .cString TagId.model pic.productName :: _ from rfl, writeTags_cons, writeTags_cons] at htags
  generalize hw : g.toIfdWriter.beginIfd = w at htags
  have hoff : w.helperBufferOffset = 0 := by rw [← hw]; exact hhelp
  have hmodel := IfdWriter.quiet_of_carries (IfdWriter.carries_writeTags _) htags
  have hmake := IfdWriter.quiet_of_carries IfdWriter.carries_writeExifTag hmodel
  have hvendor : cLength pic.vendorName < kMaxExifApp1Length := by
    by_contra hlong
    rw [up_of_longText (by omega) (by rw [hoff, evenUp]; omega)] at hmake
    cases hmake
  refine ⟨hvendor, ?_⟩
  by_contra hlong
  have hsmall : (Tag.cString TagId.make pic.vendorName).value.bytes.length < 2 ^ 31 := by
    have hlen : (Tag.cString TagId.make pic.vendorName).value.bytes.length =
      cLength pic.vendorName := @length_cString TagId.make pic.vendorName
    omega
  have hcur' : w.currentOffset = g.currentOffset + 2 := by rw [← hw]; rfl
  have hadded := IfdWriter.writeExifTag_added hmake (by omega) (by omega) hsmall
  have hend : (w.writeExifTag (.cString TagId.make pic.vendorName)).helperBufferOffset =
      valueEnd 0 (cLength pic.vendorName) := by
    rw [hadded.helperOffset, grow_eq, length_cString, hoff]
  rw [up_of_longText (by omega) (by rw [hend]; exact hsum hvendor)] at hmodel
  cases hmodel

/-- A fresh generator raises the flag if and only if the tables do not fit. -/
theorem tablesFit_of_quiet (hv : Bounded pic.values) (hsum : pic.ModelSummed)
    (hov : (drawnFresh pic buffer).overflowFlag = false) : pic.TablesFit := by
  have hmax : kMaxExifApp1Length = 65535 := rfl
  have hready : Ready (fresh buffer (init buffer)).writeHeader := writeHeader_ready rfl rfl
  have hifds := quiet_of_updateFields hov
  have hcur := hready.current
  obtain ⟨hvendor, hproduct⟩ := names_short hready.helperOffset (by omega) hsum hifds
  obtain ⟨-, hle, heven⟩ := @gpsOffset_bounds pic
  have hnames := nameRoom_le (Nat.le_of_lt hvendor) (Nat.le_of_lt hproduct)
  have htime := @timeRoom_le pic
  have hdrawn := writeIfds_drawn hready (small_of_gpsOffset hv (by omega)) hifds
  have hroom := hdrawn.tableRoom
  -- the tables end at an even offset
  have htab : tableSize pic.gpsFields.length = 6 + 12 * pic.gpsFields.length := by
    rw [tableSize]
    omega
  unfold Picture.TablesFit
  omega

/-- With room for the tables no writer raises the flag of a fresh generator. -/
theorem quiet_of_tablesFit (h : pic.TablesFit) (hv : Bounded pic.values) :
    (drawnFresh pic buffer).overflowFlag = false := by
  have hmax : kMaxExifApp1Length = 65535 := rfl
  have hsmall : pic.Small := by
    apply small_of_gpsOffset hv
    unfold Picture.TablesFit at h
    omega
  have hfits := writeExifData_fits (g := fresh buffer (init buffer)) rfl rfl rfl hsmall (h.fits hv)
  exact (writeExifData_quiet hfits).1

end Overflow

section History

/-- The picture of a call that comes to the writing. -/
def Request.written (p : Platform F D) (r : Request F D) : Option Picture :=
  r.buffer.bind fun _ => (extractExifTagValues p r.metadata).map r.picture

/-- What the caller has of a call: its buffer and the number returned. -/
def output (p : Platform F D) (g : ExifGenerator) (r : Request F D) :
    Option (Option (Nat → UInt8) × Int) :=
  (generate p g r).map fun x => (r.buffer.map fun _ => x.1.exifBuffer, x.2)

/-- The first picture that was written and the one of `r` both have tables that fit, or neither. -/
def FitAlike (p : Platform F D) (rs : List (Request F D)) (r : Request F D) : Prop :=
  ∀ pic ∈ r.written p, ∀ first ∈ rs.findSome? (Request.written p), first.TablesFit ↔ pic.TablesFit

/-- What the flags tell of the calls so far, given the first picture that was written. -/
structure Remembers (first : Option Picture) (g : ExifGenerator) : Prop where
  helperOffset : g.helperBufferOffset = 0
  unused : first = none → g.overflowFlag = false ∧ g.app1Present = false
  used : ∀ pic ∈ first, (g.app1Present = true ↔ pic.TablesFit) ∧
    (g.app1Present = false → g.overflowFlag = true)

theorem app1Present_drawnFresh : (drawnFresh pic buffer).app1Present = false := rfl

theorem currentOffset_drawnFresh : 0 < (drawnFresh pic buffer).currentOffset := by
  show 0 < _ + _ * _ + 4 + _
  omega

/-- A call on any generator, from what the same call draws on a fresh one. -/
structure Carried (d g g' : ExifGenerator) (n : Int) : Prop where
  buffer : g'.exifBuffer = d.exifBuffer
  overflow : g'.overflowFlag = (g.overflowFlag || d.overflowFlag)
  app1Present : g'.app1Present = (g.app1Present || !(g.overflowFlag || d.overflowFlag))
  size : n =
    if (g.overflowFlag || d.overflowFlag) && !g.app1Present then (0 : Int) else d.currentOffset

theorem writeExifData_carried (h : g.helperBufferOffset = 0) : Carried (drawnFresh pic buffer) g
    (writeExifData pic (fresh buffer g)).1 (writeExifData pic (fresh buffer g)).2 := by
  have hdrawn := @drawn_carried g pic buffer h
  have happ := @app1Present_drawnFresh pic buffer
  unfold writeExifData
  rw [hdrawn]
  generalize drawnFresh pic buffer = d at *
  cases hover : g.overflowFlag || d.overflowFlag with
  | false => constructor <;> simp [carry, hover, happ]
  | true => cases hg : g.app1Present <;> constructor <;> simp [carry, hover, hg, happ]

theorem written_eq_some (hpic : r.written p = some pic) : ∃ buffer v, r.buffer = some buffer ∧
    extractExifTagValues p r.metadata = some v ∧ pic = r.picture v := by
  obtain ⟨buffer, hbuffer, h⟩ := Option.bind_eq_some_iff.mp hpic
  obtain ⟨v, hv, rfl⟩ := Option.map_eq_some_iff.mp h
  exact ⟨buffer, v, hbuffer, hv, rfl⟩

/-- Pictures come with their texts in arrays. -/
theorem overflow_iff (hpic : r.written p = some pic) (hbounds : pic.InBounds) :
    (drawnFresh pic buffer).overflowFlag = false ↔ pic.TablesFit := by
  obtain ⟨-, v, -, hv, rfl⟩ := written_eq_some hpic
  have hbounded : Bounded (r.picture v).values := extract_bounded hv
  exact ⟨tablesFit_of_quiet hbounded hbounds.modelSummed, fun h => quiet_of_tablesFit h hbounded⟩

theorem remembers_init : Remembers none (init helper) :=
  ⟨rfl, fun _ => ⟨rfl, rfl⟩, fun _ h => by cases h⟩

/-- A call with a null buffer changes nothing; the first picture settles `app1_present_` for good. -/
theorem remembers_call {first : Option Picture} (h : Remembers first g)
    (hbounds : ∀ pic ∈ r.written p, pic.InBounds) (hcall : call p g r = some g') :
    Remembers (first.or (r.written p)) g' := by
  obtain ⟨⟨g'', n⟩, hgen, rfl⟩ := Option.map_eq_some_iff.mp hcall
  obtain ⟨hnone, rfl⟩ | ⟨buffer, v, hbuffer, hv, hwrite⟩ := generate_cases hgen
  · rw [Request.written, hnone, Option.bind_none, Option.or_none]
    exact h
  · have hpic : r.written p = some (r.picture v) := by
      rw [Request.written, hbuffer, hv]
      rfl
    have hfit := @overflow_iff _ _ p r _ buffer hpic (hbounds _ hpic)
    have hc := @writeExifData_carried g (r.picture v) buffer h.helperOffset
    have hhelp := @helperOffset_writeExifData (fresh buffer g) (r.picture v)
    rw [hwrite] at hc hhelp
    rw [hpic]
    cases first with
    | none =>
      obtain ⟨hov, happ⟩ := h.unused rfl
      have hover := hc.overflow
      have hpresent := hc.app1Present
      rw [hov, Bool.false_or] at hover hpresent
      rw [happ, Bool.false_or] at hpresent
      refine ⟨hhelp, nofun, fun pic hmem => ?_⟩
      obtain rfl := Option.some.inj hmem
      rw [hpresent, hover, ← hfit]
      simp
    | some first =>
      obtain ⟨hfirst, hpast⟩ := h.used first rfl
      refine ⟨hhelp, nofun, fun pic hmem => ?_⟩
      obtain rfl := Option.some.inj hmem
      cases happ : g.app1Present with
      | true =>
        have hpresent : g''.app1Present = true := by rw [hc.app1Present, happ, Bool.true_or]
        simp [hpresent, ← hfirst, happ]
      | false =>
        have hpresent : g''.app1Present = false := by
          rw [hc.app1Present, happ, hpast happ, Bool.true_or, Bool.not_true, Bool.false_or]
        have hover : g''.overflowFlag = true := by rw [hc.overflow, hpast happ, Bool.true_or]
        simp [hpresent, hover, ← hfirst, happ]

theorem remembers_run {first : Option Picture} (h : Remembers first g)
    (hbounds : ∀ q ∈ rs, ∀ pic ∈ q.written p, pic.InBounds)
    (hrun : LTS.run (call p) g rs = some g') :
    Remembers (first.or (rs.findSome? (Request.written p))) g' := by
  induction rs generalizing g first with
  | nil =>
    obtain rfl := Option.some.inj hrun
    rwa [List.findSome?_nil, Option.or_none]
  | cons q qs ih =>
    obtain ⟨g₁, hcall, hrest⟩ := Option.bind_eq_some_iff.mp hrun
    have hq := remembers_call h (hbounds q (by simp)) hcall
    have hqs := ih hq (fun q' hq' => hbounds q' (by simp [hq'])) hrest
    rw [Option.or_assoc] at hqs
    rw [List.findSome?_cons]
    cases hw : q.written p with
    | none => simpa [hw] using hqs
    | some pic => simpa [hw] using hqs

theorem output_written {v : ExifTagValues} (hbuffer : r.buffer = some buffer)
    (hv : extractExifTagValues p r.metadata = some v) :
    output p g r = some (some (writeExifData (r.picture v) (fresh buffer g)).1.exifBuffer,
      (writeExifData (r.picture v) (fresh buffer g)).2) := by
  simp [output, generate, hbuffer, hv]

/-- A call on a generator that remembers `first`, and the same call on a fresh one. -/
theorem output_eq_iff {first : Option Picture} {helper' : Nat → UInt8} (hg : Remembers first g)
    (hbounds : ∀ pic ∈ r.written p, pic.InBounds) :
    output p g r = output p (init helper') r ↔
      ∀ pic ∈ r.written p, ∀ q ∈ first, q.TablesFit ↔ pic.TablesFit := by
  cases hbuffer : r.buffer with
  | none => simp [output, generate, Request.written, hbuffer]
  | some buffer =>
    cases hv : extractExifTagValues p r.metadata with
    | none => simp [output, generate, Request.written, hbuffer, hv]
    | some v =>
      have hpic : r.written p = some (r.picture v) := by
        rw [Request.written, hbuffer, hv]
        rfl
      have hfit := @overflow_iff _ _ p r _ buffer hpic (hbounds _ hpic)
      have hpos := @currentOffset_drawnFresh (r.picture v) buffer
      have hc := @writeExifData_carried g (r.picture v) buffer hg.helperOffset
      have hf := @writeExifData_carried (init helper') (r.picture v) buffer rfl
      rw [output_written hbuffer hv, output_written hbuffer hv, hc.buffer, hf.buffer, hc.size, hf.size,
        hpic]
      generalize drawnFresh (r.picture v) buffer = d at *
      simp only [init, Bool.false_or, Bool.not_false, Bool.and_true, Option.some.injEq, Prod.mk.injEq,
        true_and, Option.mem_def, forall_eq']
      cases hfirst : first with
      | none =>
        obtain ⟨hov, happ⟩ := hg.unused hfirst
        simp [hov, happ]
      | some q =>
        obtain ⟨happ, hpast⟩ := hg.used q hfirst
        simp only [Option.some.injEq, forall_eq', ← happ, ← hfit]
        cases ha : g.app1Present with
        | true =>
          -- the size is returned whatever happens
          cases hd : d.overflowFlag with
          | true =>
            have hne : (d.currentOffset : Int) ≠ 0 := by omega
            simpa using hne
          | false => simp
        | false =>
          -- 0 is returned whatever happens
          cases hd : d.overflowFlag with
          | true => simp [hpast ha]
          | false =>
            have hne : (0 : Int) ≠ d.currentOffset := by omega
            simpa [hpast ha] using hne

section Epoch

theorem epoch_call (helper : Nat → UInt8) (vendorName : List UInt8) : ∃ g,
    LTS.run (call epochPlatform) (init helper) [epochRequest vendorName] = some g := by
  refine ⟨(writeExifData ((epochRequest vendorName).picture epochValues)
    (fresh (fun _ => 0) (init helper))).1, ?_⟩
  simp only [LTS.run, call, generate, epoch_extract]
  rfl

theorem epoch_written {vendorName : List UInt8} : (epochRequest vendorName).written epochPlatform =
    some ((epochRequest vendorName).picture epochValues) := rfl

theorem epoch_inBounds {vendorName : List UInt8} :
    ((epochRequest vendorName).picture epochValues).InBounds := by
  show cLength [] + kMaxExifApp1Length < 2 ^ 32
  decide

theorem epoch_tablesFit {vendorName : List UInt8} (h : 4 ≤ vendorName.length)
    (hlt : vendorName.length < 2 ^ 16) :
    ((epochRequest vendorName).picture epochValues).TablesFit ↔ vendorName.length ≤ 64991 := by
  have hmax : kMaxExifApp1Length = 65535 := rfl
  have hlen : ((epochRequest vendorName).picture epochValues).gpsFields.length = 9 := rfl
  rw [Picture.TablesFit, gpsOffset_eq, epoch_nameRoom h hlt, epoch_timeRoom, hlen, tableSize]
  unfold evenUp
  omega

/-- After whatever calls, the bytes and the number that a call gives are those of a fresh generator
if and only if its picture and the first one written before it both have tables that fit, or
neither. -/
theorem output_fresh_iff_fitAlike {helper' : Nat → UInt8}
    (hrun : LTS.run (call p) (init helper) rs = some g)
    (hbounds : ∀ q ∈ r :: rs, ∀ pic ∈ q.written p, pic.InBounds) :
    output p g r = output p (init helper') r ↔ FitAlike p rs r := by
  have hg := remembers_run remembers_init (fun q hq => hbounds q (by simp [hq])) hrun
  rw [Option.none_or] at hg
  exact output_eq_iff hg (hbounds r (by simp))

theorem output_fresh_iff_fitAlike_second_picture : ∃ g,
    LTS.run (call epochPlatform) (init fun _ => 0) [epochRequest [81, 67, 79, 77]] = some g ∧
    output epochPlatform g (epochRequest [81, 67, 79, 77]) =
      output epochPlatform (init fun _ => 0) (epochRequest [81, 67, 79, 77]) := by
  obtain ⟨g, hrun⟩ := epoch_call (fun _ => 0) [81, 67, 79, 77]
  refine ⟨g, hrun, (output_fresh_iff_fitAlike hrun ?_).mpr ?_⟩
  · intro q hq pic hpic
    obtain rfl : q = epochRequest [81, 67, 79, 77] := by simpa using hq
    rw [epoch_written] at hpic
    obtain rfl := Option.some.inj hpic
    exact epoch_inBounds
  · intro pic hpic first hfirst
    rw [epoch_written] at hpic
    obtain rfl := Option.some.inj hpic
    rw [List.findSome?_singleton, epoch_written] at hfirst
    obtain rfl := Option.some.inj hfirst
    exact Iff.rfl

/-- A vendor name of 65100 bytes overflows; the next picture, small as it is, gives 0. -/
theorem small_picture_after_overflow : ∃ g,
    LTS.run (call epochPlatform) (init fun _ => 0) [epochRequest (List.replicate 65100 65)] = some g ∧
    output epochPlatform g (epochRequest [81, 67, 79, 77]) ≠
      output epochPlatform (init fun _ => 0) (epochRequest [81, 67, 79, 77]) := by
  have hlen : (List.replicate 65100 (65 : UInt8)).length = 65100 := List.length_replicate
  generalize List.replicate 65100 (65 : UInt8) = name at *
  obtain ⟨g, hrun⟩ := epoch_call (fun _ => 0) name
  have hmem := remembers_run remembers_init (p := epochPlatform) (fun q hq pic hpic => by
    obtain rfl : q = epochRequest name := by simpa using hq
    obtain rfl := Option.some.inj hpic
    exact epoch_inBounds) hrun
  refine ⟨g, hrun, fun heq => ?_⟩
  have halike := (output_eq_iff hmem fun pic hpic => by
    obtain rfl := Option.some.inj hpic
    exact epoch_inBounds).mp heq _ epoch_written _ epoch_written
  rw [epoch_tablesFit (by omega) (by omega), epoch_tablesFit (by decide) (by decide), hlen] at halike
  exact absurd (halike.mpr (by decide)) (by decide)

end Epoch

end History

end ExifGenerator

end QmmfSdk.Exif
