import QmmfSdk.Exif.Leftovers

/-! What the writers do to the offsets and to the memory behind the buffers, overflow or not. -/
namespace QmmfSdk.Exif

open Library Library.Tiff

namespace Out

variable {o o' o'' : Out} {bs : List UInt8} {last n k : Nat}

/-- The writer is done with `n` bytes, or with as many as there is room for, and has not left the
buffer. -/
structure Moves (o o' : Out) (n : Nat) : Prop where
  behind : ∀ i, kMaxExifApp1Length ≤ i → o'.buffer i = o.buffer i
  mono : o.offset ≤ o'.offset
  bound : o'.offset ≤ max o.offset kMaxExifApp1Length
  exact : o.offset + n < kMaxExifApp1Length → o'.offset = o.offset + n

theorem Moves.refl : Moves o o 0 :=
  ⟨fun _ _ => rfl, Nat.le_refl _, Nat.le_max_left .., fun _ => rfl⟩

theorem Moves.trans (h : Moves o o' n) (h' : Moves o' o'' k) : Moves o o'' (n + k) where
  behind i hi := (h'.behind i hi).trans (h.behind i hi)
  mono := Nat.le_trans h.mono h'.mono
  bound := by
    have := h.bound
    have := h'.bound
    omega
  exact hroom := by
    have hfirst := h.exact (by omega)
    rw [h'.exact (by omega), hfirst, Nat.add_assoc]

theorem Moves.small (h : Moves o o' n) (ho : o.offset < 2 ^ 31) : o'.offset < 2 ^ 31 := by
  have hmax : kMaxExifApp1Length = 65535 := rfl
  have := h.bound
  omega

/-- With room the bytes are stored, without nothing moves. -/
theorem put_cases (hsmall : o.offset + last < 2 ^ 32) (hlen : bs.length ≤ last + 1) :
    o.offset + last < kMaxExifApp1Length ∧
      o.put last bs = { o with
        buffer := store o.buffer o.offset bs, offset := o.offset + bs.length } ∨
    kMaxExifApp1Length ≤ o.offset + last ∧ o.put last bs = { o with overflow := true } := by
  have hmax : kMaxExifApp1Length = 65535 := rfl
  unfold put
  rw [Nat.mod_eq_of_lt hsmall]
  by_cases hroom : kMaxExifApp1Length ≤ o.offset + last
  · rw [if_pos hroom]
    exact .inr ⟨hroom, rfl⟩
  · rw [if_neg hroom, Nat.mod_eq_of_lt (by omega)]
    exact .inl ⟨by omega, rfl⟩

theorem put_moves (hsmall : o.offset + last < 2 ^ 32) (hlen : bs.length ≤ last + 1)
    (hle : last ≤ bs.length) : Moves o (o.put last bs) bs.length := by
  have hmax : kMaxExifApp1Length = 65535 := rfl
  obtain ⟨hroom, heq⟩ | ⟨hroom, heq⟩ := put_cases hsmall hlen
  · rw [heq]
    refine ⟨fun i hi => store_of_ge (by omega), Nat.le_add_right .., ?_, fun _ => rfl⟩
    show o.offset + bs.length ≤ _
    omega
  · rw [heq]
    exact ⟨fun _ _ => rfl, Nat.le_refl _, Nat.le_max_left .., fun h => absurd h (by omega)⟩

theorem writeByte_moves {v : UInt8} (h : o.offset < 2 ^ 31) : Moves o (o.writeByte v) 1 :=
  put_moves (show o.offset + 0 < _ by omega) (Nat.le_refl 1) (Nat.zero_le _)

theorem writeShort_moves {v : UInt16} (h : o.offset < 2 ^ 31) : Moves o (o.writeShort v) 2 :=
  put_moves (show o.offset + 1 < _ by omega) (Nat.le_refl 2) (Nat.le_succ 1)

theorem writeLong_moves {v : UInt32} (h : o.offset < 2 ^ 31) : Moves o (o.writeLong v) 4 :=
  put_moves (show o.offset + 3 < _ by omega) (Nat.le_refl 4) (Nat.le_succ 3)

theorem writeNBytes_moves (h : o.offset + bs.length < 2 ^ 32) :
    Moves o (o.writeNBytes bs) bs.length :=
  put_moves h (Nat.le_succ _) (Nat.le_refl _)

theorem writeAll_moves {α : Type} {write : α → Out → Out} {xs : List α}
    (hwrite : ∀ x o, o.offset < 2 ^ 31 → Moves o (write x o) n) (h : o.offset < 2 ^ 31) :
    Moves o (o.writeAll write xs) (n * xs.length) := by
  induction xs generalizing o with
  | nil => exact .refl
  | cons x xs ih =>
    have hfirst := hwrite x o h
    rw [List.length_cons, Nat.mul_succ, Nat.add_comm]
    exact hfirst.trans (ih (hfirst.small h))

theorem writeTagValue_moves {v : Value} (h : o.offset < 2 ^ 31)
    (hend : o.offset + v.bytes.length < 2 ^ 32) : Moves o (o.writeTagValue v) v.bytes.length := by
  have hrational {x y : UInt32} (o : Out) (h : o.offset < 2 ^ 31) :
      Moves o ((o.writeLong x).writeLong y) 8 :=
    (writeLong_moves h).trans (writeLong_moves ((writeLong_moves h).small h))
  rw [Value.length_bytes] at hend ⊢
  cases v with
  | ascii s =>
    have hlen : typeSize (Value.ascii s).type.code * (Value.ascii s).count = s.length :=
      Nat.one_mul _
    rw [hlen] at hend ⊢
    exact writeNBytes_moves hend
  | undefined s =>
    have hlen : typeSize (Value.undefined s).type.code * (Value.undefined s).count = s.length :=
      Nat.one_mul _
    rw [hlen] at hend ⊢
    exact writeNBytes_moves hend
  | byte v vs => exact writeAll_moves (fun _ _ => writeByte_moves) h
  | short v vs => exact writeAll_moves (fun _ _ => writeShort_moves) h
  | long v vs => exact writeAll_moves (fun _ _ => writeLong_moves) h
  | slong v vs => exact writeAll_moves (fun _ _ => writeLong_moves) h
  | rational v vs => exact writeAll_moves (fun _ o h => hrational o h) h
  | srational v vs => exact writeAll_moves (fun _ o h => hrational o h) h

/-- Where a writer writes, and what, does not depend on the flag. -/
theorem eq_of_carries {f : Out → Out} (hf : Carries carry f) (o : Out) :
    f o = carry o.overflow (f { o with overflow := false }) := by
  have h := hf o.overflow { o with overflow := false }
  rw [← h]
  simp [carry]

end Out

namespace IfdWriter

variable {w : IfdWriter} {t : Tag} {ts : List Tag} {tiff dest i n : Nat}

def helperOut (w : IfdWriter) : Out := ⟨w.helperBuffer, w.helperBufferOffset, false⟩

/-- What a tag does to the helper buffer. -/
def stage (o : Out) (t : Tag) : Out :=
  if t.value.bytes.length ≤ 4 then o
  else { ({ o with offset := evenUp o.offset } : Out).writeTagValue t.value with overflow := false }

theorem helperOut_onExif (f : Out → Out) : (w.onExif f).helperOut = w.helperOut := rfl

/-- The helper buffer takes no notice of the flag that it is written with. -/
theorem helperOut_onHelper {f : Out → Out} (hf : Carries Out.carry f) :
    (w.onHelper f).helperOut = { f w.helperOut with overflow := false } := by
  simp only [onHelper, helperOut]
  rw [Out.eq_of_carries hf ⟨_, _, w.overflowFlag⟩]
  rfl

theorem helperOut_counted : ({ w with tagCount := n } : IfdWriter).helperOut = w.helperOut := rfl

theorem helperOut_writeExifTag : (w.writeExifTag t).helperOut = stage w.helperOut t := by
  unfold writeExifTag stage
  rw [← Value.length_bytes]
  by_cases hin : t.value.bytes.length ≤ 4
  · simp only [if_pos hin]
    rw [helperOut_counted, helperOut_onExif, helperOut_onExif]
  · simp only [if_neg hin]
    rw [helperOut_counted, helperOut_onHelper Out.carries_writeTagValue, helperOut_onExif]
    rfl

theorem helperOut_writeTags : (w.writeTags ts).helperOut = ts.foldl stage w.helperOut := by
  induction ts generalizing w with
  | nil => rfl
  | cons t ts ih =>
    rw [List.foldl_cons, ← helperOut_writeExifTag]
    exact ih

/-- The writer has written to the output buffer and not left it. -/
structure Onward (w w' : IfdWriter) : Prop where
  behind : ∀ i, kMaxExifApp1Length ≤ i → w'.exifBuffer i = w.exifBuffer i
  mono : w.currentOffset ≤ w'.currentOffset
  bound : w'.currentOffset ≤ max w.currentOffset kMaxExifApp1Length
  countOffset : w'.tagCountOffset = w.tagCountOffset

theorem Onward.refl : Onward w w := ⟨fun _ _ => rfl, Nat.le_refl _, Nat.le_max_left .., rfl⟩

theorem Onward.trans {w' w'' : IfdWriter} (h : Onward w w') (h' : Onward w' w'') :
    Onward w w'' where
  behind i hi := (h'.behind i hi).trans (h.behind i hi)
  mono := Nat.le_trans h.mono h'.mono
  bound := by
    have := h.bound
    have := h'.bound
    omega
  countOffset := h'.countOffset.trans h.countOffset

theorem Onward.small {w' : IfdWriter} (h : Onward w w') (hw : w.currentOffset < 2 ^ 31) :
    w'.currentOffset < 2 ^ 31 := by
  have hmax : kMaxExifApp1Length = 65535 := rfl
  have := h.bound
  omega

theorem onward_onExif {f : Out → Out}
    (h : Out.Moves ⟨w.exifBuffer, w.currentOffset, w.overflowFlag⟩
      (f ⟨w.exifBuffer, w.currentOffset, w.overflowFlag⟩) n) : Onward w (w.onExif f) :=
  ⟨h.behind, h.mono, h.bound, rfl⟩

theorem onward_writeExifTag (hcur : w.currentOffset < 2 ^ 31) : Onward w (w.writeExifTag t) := by
  have hheader : Onward w (w.onExif fun o => ((o.writeShort t.id.toUInt16).writeShort
      t.value.type.code).writeLong (.ofNat t.value.count)) := by
    have hid := Out.writeShort_moves (v := t.id.toUInt16)
      (o := ⟨w.exifBuffer, w.currentOffset, w.overflowFlag⟩) hcur
    have htype := Out.writeShort_moves (v := t.value.type.code) (hid.small hcur)
    have hcount := Out.writeLong_moves (v := .ofNat t.value.count) ((hid.trans htype).small hcur)
    exact onward_onExif ((hid.trans htype).trans hcount)
  unfold writeExifTag
  rw [← Value.length_bytes]
  by_cases hin : t.value.bytes.length ≤ 4
  · simp only [if_pos hin]
    have hsmall := hheader.small hcur
    generalize w.onExif _ = w₁ at *
    have hvalue := Out.writeTagValue_moves (v := t.value)
      (o := ⟨w₁.exifBuffer, w₁.currentOffset, w₁.overflowFlag⟩) hsmall
      (show w₁.currentOffset + _ < _ by omega)
    have hzeros := @Out.writeAll_moves _ 1 _ Out.writeByte
      (List.replicate (4 - t.value.bytes.length) 0) (fun _ _ => Out.writeByte_moves)
      (hvalue.small hsmall)
    have hslot : Onward w₁ (w₁.onExif fun o => (o.writeTagValue t.value).writeAll Out.writeByte
        (List.replicate (4 - t.value.bytes.length) 0)) := onward_onExif (hvalue.trans hzeros)
    have hall := hheader.trans hslot
    exact ⟨hall.behind, hall.mono, hall.bound, hall.countOffset⟩
  · simp only [if_neg hin]
    have hsmall := hheader.small hcur
    generalize w.onExif _ = w₁ at *
    have hoffset := Out.writeLong_moves (v := .ofNat (evenUp w₁.helperBufferOffset))
      (o := ⟨w₁.exifBuffer, w₁.currentOffset, w₁.overflowFlag⟩) hsmall
    have hslot : Onward w₁ (w₁.onExif (Out.writeLong (.ofNat (evenUp w₁.helperBufferOffset)))) :=
      onward_onExif hoffset
    have hall := hheader.trans hslot
    exact ⟨hall.behind, hall.mono, hall.bound, hall.countOffset⟩

theorem onward_writeTags (hcur : w.currentOffset < 2 ^ 31) : Onward w (w.writeTags ts) := by
  induction ts generalizing w with
  | nil => exact .refl
  | cons t ts ih =>
    have hfirst := onward_writeExifTag (t := t) hcur
    exact hfirst.trans (ih (hfirst.small hcur))

theorem tagCount_writeExifTag : (w.writeExifTag t).tagCount = w.tagCount + 1 := by
  unfold writeExifTag
  by_cases hin : typeSize t.value.type.code * t.value.count ≤ 4
  · simp only [if_pos hin, onExif]
  · simp only [if_neg hin, onExif, onHelper]

theorem tagCount_writeTags : (w.writeTags ts).tagCount = w.tagCount + ts.length := by
  induction ts generalizing w with
  | nil => rfl
  | cons t ts ih =>
    show ((w.writeExifTag t).writeTags ts).tagCount = _
    rw [ih, tagCount_writeExifTag, List.length_cons]
    omega

/-! ### The end of an IFD -/

theorem behind_relocate (hsmall : w.tagCountOffset + i * kTagSize < 2 ^ 30) :
    ∀ j, kMaxExifApp1Length ≤ j → (relocate tiff dest w i).exifBuffer j = w.exifBuffer j := by
  intro j hj
  unfold relocate
  dsimp only
  split
  · rfl
  · split
    · refine (Out.writeLong_moves ?_).behind j hj
      show w.tagCountOffset + i * kTagSize + tagDataOffset < _
      rw [tagDataOffset]
      omega
    · rfl

theorem behind_relocateAll {is : List Nat}
    (hsmall : ∀ i ∈ is, w.tagCountOffset + i * kTagSize < 2 ^ 30) :
    ∀ j, kMaxExifApp1Length ≤ j →
      (is.foldl (relocate tiff dest) w).exifBuffer j = w.exifBuffer j := by
  intro j hj
  induction is generalizing w with
  | nil => rfl
  | cons i is ih =>
    have hoff : (relocate tiff dest w i).tagCountOffset = w.tagCountOffset := by rw [relocate_kept]
    rw [List.foldl_cons, ih fun k hk => by rw [hoff]; exact hsmall k (by simp [hk])]
    exact behind_relocate (hsmall i (by simp)) j hj

/-- Where the values of an IFD of `n` tags go that begins at `c`; its number of tags is written only
with room for it. -/
def areaStart (c n : Nat) : Nat :=
  (if c + 1 < kMaxExifApp1Length then c + 2 else c) + n * kTagSize + 4

theorem closeTable_moves (hcur : w.currentOffset < 2 ^ 31) (hcount : w.tagCountOffset < 2 ^ 31) :
    (∀ i, kMaxExifApp1Length ≤ i → w.closeTable.exifBuffer i = w.exifBuffer i) ∧
      w.closeTable.tagCountOffset =
        if w.tagCountOffset + 1 < kMaxExifApp1Length then w.tagCountOffset + 2
        else w.tagCountOffset := by
  have hnext := Out.writeLong_moves (v := 0)
    (o := ⟨w.exifBuffer, w.currentOffset, w.overflowFlag⟩) hcur
  let w₁ := w.onExif (Out.writeLong 0)
  let o : Out := ⟨w₁.exifBuffer, w.tagCountOffset, w₁.overflowFlag⟩
  have hnumber := Out.writeShort_moves (v := .ofNat w.tagCount) (o := o) hcount
  refine ⟨fun i hi => (hnumber.behind i hi).trans (hnext.behind i hi), ?_⟩
  show (o.put 1 (encodeBe16 (.ofNat w.tagCount))).offset = _
  obtain ⟨hroom, heq⟩ | ⟨hroom, heq⟩ := @Out.put_cases o
    (encodeBe16 (.ofNat w.tagCount)) 1 (show w.tagCountOffset + 1 < _ by omega) (Nat.le_refl 2)
  · rw [heq, if_pos hroom]
    rfl
  · rw [heq, if_neg (Nat.not_lt.mpr hroom)]

/-- What a whole IFD does, overflow or not: the staged values `o` are copied behind the table, wherever
that is, and nothing else is touched behind the buffer. -/
structure Drafted (w w' : IfdWriter) (o : Out) (n : Nat) : Prop where
  current : w'.currentOffset = areaStart w.currentOffset n + o.offset
  helper : w'.helperBuffer = o.buffer
  helperOffset : w'.helperBufferOffset = 0
  behind : ∀ i, kMaxExifApp1Length ≤ i → w'.exifBuffer i =
    if areaStart w.currentOffset n ≤ i ∧ i < areaStart w.currentOffset n + o.offset then
      o.buffer (i - areaStart w.currentOffset n) else w.exifBuffer i

theorem store_load_eq {m m' : Nat → UInt8} {dest k i : Nat} : store m dest (load m' 0 k) i =
    if dest ≤ i ∧ i < dest + k then m' (i - dest) else m i := by
  by_cases hin : dest ≤ i ∧ i < dest + k
  · rw [if_pos hin]
    have hholds : Holds (store m dest (load m' 0 k)) dest (load m' 0 k) := Holds.store_self
    have hcell := hholds (i - dest) (m' (i - dest)) (by
      rw [getElem?_load (by omega), Nat.zero_add])
    rw [← hcell]
    congr 1
    omega
  · rw [if_neg hin]
    refine store_of_apart ?_
    rw [length_load]
    omega

theorem ifd_drafted (hcur : w.currentOffset < 2 ^ 29) (hlen : ts.length < 2 ^ 16) :
    Drafted w ((w.beginIfd.writeTags ts).endWritingIfd tiff) (ts.foldl stage w.helperOut)
      ts.length := by
  have hmax : kMaxExifApp1Length = 65535 := rfl
  have hbegin : w.beginIfd.currentOffset = w.currentOffset + 2 := rfl
  have htags := @onward_writeTags w.beginIfd ts (by omega)
  have hhelper : (w.beginIfd.writeTags ts).helperOut = ts.foldl stage w.helperOut :=
    helperOut_writeTags
  have hcount : (w.beginIfd.writeTags ts).tagCount = ts.length := by
    rw [tagCount_writeTags]
    exact Nat.zero_add _
  have hoff : (w.beginIfd.writeTags ts).tagCountOffset = w.currentOffset := htags.countOffset
  have hsmall := htags.small (by omega)
  have hbehind : ∀ i, kMaxExifApp1Length ≤ i →
      (w.beginIfd.writeTags ts).exifBuffer i = w.exifBuffer i := htags.behind
  generalize w.beginIfd.writeTags ts = w₁ at *
  rw [← hhelper]
  obtain ⟨hclosed, hclosedOff⟩ := closeTable_moves hsmall (by omega)
  have hclosedCount : w₁.closeTable.tagCount = ts.length := hcount
  have hclosedHelper : w₁.closeTable.helperBuffer = w₁.helperBuffer := rfl
  have hclosedOffset : w₁.closeTable.helperBufferOffset = w₁.helperBufferOffset := rfl
  unfold IfdWriter.endWritingIfd
  dsimp only
  generalize w₁.closeTable = w₂ at *
  have hstart : w₂.tagCountOffset + w₂.tagCount * kTagSize + 4 =
      areaStart w.currentOffset ts.length := by
    rw [hclosedOff, hclosedCount, hoff, areaStart]
  have hkept := @relocateAll_kept w₂ tiff (w₂.tagCountOffset + w₂.tagCount * kTagSize + 4)
    (List.range w₂.tagCount)
  have hrelocated := @behind_relocateAll w₂ tiff (w₂.tagCountOffset + w₂.tagCount * kTagSize + 4)
    (List.range w₂.tagCount) fun i hi => by
      have hi := List.mem_range.mp hi
      rw [hclosedOff, kTagSize]
      split <;> omega
  rw [hstart] at *
  generalize (List.range w₂.tagCount).foldl (relocate tiff (areaStart w.currentOffset ts.length)) w₂ =
    w₃ at *
  have h₃ : w₃.helperBuffer = w₁.helperBuffer ∧ w₃.helperBufferOffset = w₁.helperBufferOffset := by
    rw [hkept]
    exact ⟨hclosedHelper, hclosedOffset⟩
  refine ⟨?_, ?_, rfl, fun i hi => ?_⟩
  · show _ + w₃.helperBufferOffset = _
    rw [h₃.2]
    rfl
  · exact h₃.1
  · show store w₃.exifBuffer _ (load w₃.helperBuffer 0 w₃.helperBufferOffset) i = _
    rw [store_load_eq, h₃.1, h₃.2, hrelocated i hi, hclosed i hi, hbehind i hi]
    rfl

theorem padToEven_moves (hcur : w.currentOffset < 2 ^ 31) :
    (∀ i, kMaxExifApp1Length ≤ i → w.padToEven.exifBuffer i = w.exifBuffer i) ∧
      w.padToEven.helperOut = w.helperOut ∧ w.padToEven.currentOffset =
        if w.currentOffset < kMaxExifApp1Length then evenUp w.currentOffset
        else w.currentOffset := by
  unfold padToEven
  by_cases hodd : w.currentOffset % 2 = 1
  · rw [if_pos hodd]
    have hmoves := Out.writeByte_moves (v := 0)
      (o := ⟨w.exifBuffer, w.currentOffset, w.overflowFlag⟩) hcur
    refine ⟨hmoves.behind, rfl, ?_⟩
    show (Out.put ⟨w.exifBuffer, w.currentOffset, w.overflowFlag⟩ 0 [0]).offset = _
    obtain ⟨hroom, heq⟩ | ⟨hroom, heq⟩ := @Out.put_cases
      ⟨w.exifBuffer, w.currentOffset, w.overflowFlag⟩ [0] 0
      (show w.currentOffset + 0 < _ by omega) (Nat.le_refl 1)
    · rw [heq, if_pos (show w.currentOffset < _ from hroom), evenUp, hodd]
      rfl
    · rw [heq, if_neg (show ¬ w.currentOffset < _ from Nat.not_lt.mpr hroom)]
  · rw [if_neg hodd]
    refine ⟨fun _ _ => rfl, rfl, ?_⟩
    rw [evenUp, show w.currentOffset % 2 = 0 by omega, Nat.add_zero, ite_self]

end IfdWriter

end QmmfSdk.Exif
