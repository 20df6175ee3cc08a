import QmmfSdk.Library.Memory

/-! Image file directories of big-endian TIFF: a reader, the layout that puts the values which do not
fit in their entries behind the table, and what the reader finds in that layout. -/
namespace Library.Tiff

/-- Tag, type code, count and the bytes of the value. -/
structure Field where
  id : UInt16
  type : UInt16
  count : UInt32
  value : List UInt8
  deriving DecidableEq

/-- A field as read; `place` is where a value outside the table starts. -/
structure Entry where
  field : Field
  place : Option Nat
  deriving DecidableEq

structure Directory where
  offset : Nat
  entries : List Entry
  next : UInt32
  deriving DecidableEq

/-- The bytes from `start` up to `stop`. -/
structure Range where
  start : Nat
  stop : Nat
  deriving DecidableEq

def Range.Apart (r s : Range) : Prop := r.stop ≤ s.start ∨ s.stop ≤ r.start

/-- Number of entries, the entries and the offset of the next directory. -/
def tableSize (n : Nat) : Nat := 2 + 12 * n + 4

def Entry.range? (e : Entry) : Option Range :=
  e.place.map fun p => ⟨p, p + e.field.value.length⟩

/-- The table first, then the values outside it in the order of their entries. -/
def Directory.ranges (d : Directory) : List Range :=
  ⟨d.offset, d.offset + tableSize d.entries.length⟩ :: d.entries.filterMap Entry.range?

section Reader

variable (size : UInt16 → Nat) (bs : List UInt8)

def readU16 (off : Nat) : Option UInt16 :=
  match slice bs off 2 with
  | some [a, b] => some (decodeBe16 a b)
  | _ => none

def readU32 (off : Nat) : Option UInt32 :=
  match slice bs off 4 with
  | some [a, b, c, d] => some (decodeBe32 a b c d)
  | _ => none

/-- One entry; `size` is the number of bytes that an element of a type takes. -/
def readEntry (off : Nat) : Option Entry := do
  let id ← readU16 bs off
  let type ← readU16 bs (off + 2)
  let count ← readU32 bs (off + 4)
  if size type * count.toNat ≤ 4 then
    let value ← slice bs (off + 8) (size type * count.toNat)
    return ⟨⟨id, type, count, value⟩, none⟩
  else
    let place ← readU32 bs (off + 8)
    let value ← slice bs place.toNat (size type * count.toNat)
    return ⟨⟨id, type, count, value⟩, some place.toNat⟩

def readEntries : Nat → Nat → Option (List Entry)
  | 0, _ => some []
  | n + 1, off => do
    let e ← readEntry size bs off
    let es ← readEntries n (off + 12)
    return e :: es

def readDirectory (off : Nat) : Option Directory := do
  let n ← readU16 bs off
  let entries ← readEntries size bs n.toNat (off + 2)
  let next ← readU32 bs (off + 2 + 12 * n.toNat)
  return ⟨off, entries, next⟩

end Reader

/-- Values start at even offsets. -/
def evenUp (n : Nat) : Nat := n + n % 2

theorem le_evenUp {n : Nat} : n ≤ evenUp n := Nat.le_add_right ..

/-- Where the values end once `f` is added to a directory whose values end at `o`. -/
def Field.grow (o : Nat) (f : Field) : Nat :=
  if f.value.length ≤ 4 then o else evenUp o + f.value.length

def areaEnd (o : Nat) (fs : List Field) : Nat := fs.foldl Field.grow o

def Field.header (f : Field) : List UInt8 :=
  encodeBe16 f.id ++ (encodeBe16 f.type ++ encodeBe32 f.count)

/-- The last four bytes of an entry: the value or where it is, counted from `rel`. -/
def Field.slot (rel o : Nat) (f : Field) : List UInt8 :=
  if f.value.length ≤ 4 then f.value ++ List.replicate (4 - f.value.length) 0
  else encodeBe32 (.ofNat (rel + evenUp o))

def records (rel : Nat) : Nat → List Field → List UInt8
  | _, [] => []
  | o, f :: fs => (f.header ++ f.slot rel o) ++ records rel (f.grow o) fs

/-- The values outside the table lie where the entries say. -/
def HoldsValues (m : Nat → UInt8) (base : Nat) : Nat → List Field → Prop
  | _, [] => True
  | o, f :: fs =>
    (4 < f.value.length → Holds m (base + evenUp o) f.value) ∧ HoldsValues m base (f.grow o) fs

/-- What the reader is to find of a layout. -/
def found (rel : Nat) : Nat → List Field → List Entry
  | _, [] => []
  | o, f :: fs =>
    ⟨f, if f.value.length ≤ 4 then none else some (rel + evenUp o)⟩ :: found rel (f.grow o) fs

/-- A whole directory at `off` in a file that starts at `org`, its values right behind the table. -/
structure Laid (m : Nat → UInt8) (org off : Nat) (fs : List Field) : Prop where
  count : Holds m (org + off) (encodeBe16 (.ofNat fs.length))
  table : Holds m (org + off + 2) (records (off + tableSize fs.length) 0 fs)
  next : Holds m (org + off + 2 + 12 * fs.length) (encodeBe32 0)
  values : HoldsValues m (org + off + tableSize fs.length) 0 fs

/-- The bytes of the directory and its values. -/
def extent (fs : List Field) : Nat := tableSize fs.length + areaEnd 0 fs

variable {m m' : Nat → UInt8} {f f' : Field} {fs gs : List Field} {org off rel o n base : Nat}
  {r s : Range} {size : UInt16 → Nat} {bs : List UInt8} {e : Entry} {d : Directory}

@[simp] theorem length_header : f.header.length = 8 := rfl

@[simp] theorem length_slot : (f.slot rel o).length = 4 := by
  unfold Field.slot
  split
  · simp
    omega
  · rfl

@[simp] theorem length_records : (records rel o fs).length = 12 * fs.length := by
  induction fs generalizing o with
  | nil => rfl
  | cons f fs ih =>
    simp only [records, List.length_append, length_header, length_slot, ih, List.length_cons]
    omega

theorem le_grow : o ≤ f.grow o := by
  unfold Field.grow
  split
  · exact Nat.le_refl o
  · exact Nat.le_trans le_evenUp (Nat.le_add_right ..)

@[simp] theorem areaEnd_cons : areaEnd o (f :: fs) = areaEnd (f.grow o) fs := rfl

@[simp] theorem areaEnd_append : areaEnd o (fs ++ gs) = areaEnd (areaEnd o fs) gs := by
  simp [areaEnd]

theorem le_areaEnd : o ≤ areaEnd o fs := by
  induction fs generalizing o with
  | nil => exact Nat.le_refl o
  | cons f fs ih => exact Nat.le_trans le_grow ih

theorem length_le_areaEnd (h : f ∈ fs) : f.value.length ≤ areaEnd o fs + 4 := by
  induction fs generalizing o with
  | nil => simp at h
  | cons g fs ih =>
    rw [areaEnd_cons]
    obtain rfl | h := List.mem_cons.mp h
    · have hle : f.grow o ≤ areaEnd (f.grow o) fs := le_areaEnd
      have hgrow : f.value.length ≤ f.grow o + 4 := by
        unfold Field.grow
        split <;> omega
      omega
    · exact ih h

theorem records_append :
    records rel o (fs ++ gs) = records rel o fs ++ records rel (areaEnd o fs) gs := by
  induction fs generalizing o with
  | nil => rfl
  | cons f fs ih => simp [records, ih, List.append_assoc]

namespace HoldsValues

theorem append_iff : HoldsValues m base o (fs ++ gs) ↔
    HoldsValues m base o fs ∧ HoldsValues m base (areaEnd o fs) gs := by
  induction fs generalizing o with
  | nil => simp [HoldsValues, areaEnd]
  | cons f fs ih => simp [HoldsValues, ih, and_assoc]

/-- Only the area of the values matters. -/
theorem congr (h : HoldsValues m base o fs)
    (heq : ∀ i, base + o ≤ i → i < base + areaEnd o fs → m' i = m i) : HoldsValues m' base o fs := by
  induction fs generalizing o with
  | nil => trivial
  | cons f fs ih =>
    have hle : f.grow o ≤ areaEnd (f.grow o) fs := le_areaEnd
    refine ⟨fun hlen => (h.1 hlen).congr fun i hl hr => heq i ?_ ?_, ih h.2 fun i hl hr => heq i ?_ hr⟩
    · exact Nat.le_trans (Nat.add_le_add_left le_evenUp _) hl
    · have hgrow : f.grow o = evenUp o + f.value.length := by
        simp [Field.grow, Nat.not_le.mpr hlen]
      rw [areaEnd_cons]
      omega
    · exact Nat.le_trans (Nat.add_le_add_left le_grow _) hl

/-- Copying the area copies the values. -/
theorem copy (h : HoldsValues m 0 o fs) (hn : areaEnd o fs ≤ n) :
    HoldsValues (store m' base (load m 0 n)) base o fs := by
  induction fs generalizing o with
  | nil => trivial
  | cons f fs ih =>
    refine ⟨fun hlen => ?_, ih h.2 hn⟩
    have hgrow : f.grow o = evenUp o + f.value.length := by
      simp [Field.grow, Nat.not_le.mpr hlen]
    have hle : f.grow o ≤ areaEnd (f.grow o) fs := le_areaEnd
    have hh := h.1 hlen
    rw [Nat.zero_add] at hh
    rw [areaEnd_cons] at hn
    exact hh.copy (by omega)

end HoldsValues

namespace Laid

/-- Only the directory's own bytes matter. -/
theorem congr (h : Laid m org off fs)
    (heq : ∀ i, org + off ≤ i → i < org + off + extent fs → m' i = m i) : Laid m' org off fs := by
  have hext : extent fs = 2 + 12 * fs.length + 4 + areaEnd 0 fs := rfl
  have htab : tableSize fs.length = 2 + 12 * fs.length + 4 := rfl
  refine ⟨h.count.congr fun i hl hr => heq i hl ?_, h.table.congr fun i hl hr => heq i ?_ ?_,
    h.next.congr fun i hl hr => heq i ?_ ?_, h.values.congr fun i hl hr => heq i ?_ ?_⟩
  all_goals
    first
    | rw [length_encodeBe16] at hr
    | rw [length_records] at hr
    | rw [length_encodeBe32] at hr
    | skip
    omega

/-- Writing elsewhere leaves the directory alone. -/
theorem store_apart {a : Nat} {ys : List UInt8} (h : Laid m org off fs)
    (ha : a + ys.length ≤ org + off ∨ org + off + extent fs ≤ a) :
    Laid (store m a ys) org off fs := by
  exact h.congr fun i hl hr => store_of_apart (by omega)

end Laid

theorem slot_of_length (h : f.value.length = 4) : f.slot rel o = f.value := by
  simp [Field.slot, h]

theorem grow_of_length (h : f.value.length = 4) : f.grow o = o := by
  simp [Field.grow, h]

theorem extent_patch (fs : List Field) {v : List UInt8} (hf : f.value.length = 4) (hv : v.length = 4) :
    extent (fs ++ { f with value := v } :: gs) = extent (fs ++ f :: gs) := by
  have hv' : ({ f with value := v } : Field).value.length = 4 := hv
  simp [extent, grow_of_length hf, grow_of_length hv']

/-- Writing a value of four bytes over that of an entry changes that field only. -/
theorem Laid.patch (fs : List Field) {v : List UInt8} (h : Laid m org off (fs ++ f :: gs))
    (hf : f.value.length = 4) (hv : v.length = 4) :
    Laid (store m (org + off + 2 + 12 * fs.length + 8) v) org off
      (fs ++ { f with value := v } :: gs) := by
  set f' : Field := { f with value := v } with hf'
  have hhead : f'.header = f.header := rfl
  have hlen : (fs ++ f' :: gs).length = (fs ++ f :: gs).length := by simp
  have hlen' : (fs ++ f :: gs).length = fs.length + gs.length + 1 := by simp; omega
  have htab : tableSize (fs ++ f :: gs).length = 2 + 12 * (fs.length + gs.length + 1) + 4 := by
    rw [hlen', tableSize]
  obtain ⟨hcount, htable, hnext, hvalues⟩ := h
  refine ⟨?_, ?_, ?_, ?_⟩
  · rw [hlen]
    exact hcount.store_apart (.inl (by simp only [length_encodeBe16]; omega))
  · rw [hlen]
    rw [records_append, records, grow_of_length hf, slot_of_length hf] at htable
    rw [records_append, records, grow_of_length hv, slot_of_length hv, hhead]
    obtain ⟨hpre, hrest⟩ := Holds.append_iff.mp htable
    obtain ⟨hentry, hpost⟩ := Holds.append_iff.mp hrest
    obtain ⟨hheader, -⟩ := Holds.append_iff.mp hentry
    rw [length_records] at hheader hpost
    rw [List.length_append, length_header, hf] at hpost
    refine (hpre.store_apart (.inl ?_)).append (Holds.append (Holds.append ?_ ?_) ?_)
    · rw [length_records]
      omega
    · rw [length_records]
      exact hheader.store_apart (.inl (Nat.le_refl _))
    · rw [length_records, length_header]
      exact Holds.store_self
    · rw [length_records, List.length_append, length_header, show f'.value.length = 4 from hv]
      exact hpost.store_apart (.inr (by omega))
  · rw [hlen]
    exact hnext.store_apart (.inr (by rw [hv, hlen']; omega))
  · rw [hlen]
    have hmem : HoldsValues (store m (org + off + 2 + 12 * fs.length + 8) v)
        (org + off + tableSize (fs ++ f :: gs).length) 0 (fs ++ f :: gs) :=
      hvalues.congr fun i hl hr => store_of_ge (by omega)
    obtain ⟨hpre, -, hpost⟩ := HoldsValues.append_iff.mp hmem
    refine HoldsValues.append_iff.mpr ⟨hpre, fun hlt => ?_, ?_⟩
    · exact absurd (show f'.value.length = 4 from hv) (by omega)
    · rw [grow_of_length hv]
      rwa [grow_of_length hf] at hpost

section Reading

/-- The value takes as many bytes as its type and count say. -/
def Field.Sized (size : UInt16 → Nat) (f : Field) : Prop :=
  f.value.length = size f.type * f.count.toNat

theorem readU16_of_holds {v : UInt16} (h : Holds m (org + off) (encodeBe16 v)) (hn : off + 2 ≤ n) :
    readU16 (load m org n) off = some v := by
  have hs := h.slice_eq (n := n) hn
  rw [length_encodeBe16] at hs
  rw [readU16, hs]
  exact congrArg some decodeBe16_encodeBe16

theorem readU32_of_holds {v : UInt32} (h : Holds m (org + off) (encodeBe32 v)) (hn : off + 4 ≤ n) :
    readU32 (load m org n) off = some v := by
  have hs := h.slice_eq (n := n) hn
  rw [length_encodeBe32] at hs
  rw [readU32, hs]
  exact congrArg some decodeBe32_encodeBe32

theorem readEntry_of_holds (hf : f.Sized size)
    (hr : Holds m (org + off) (f.header ++ f.slot rel o)) (hoff : off + 12 ≤ n)
    (hv : 4 < f.value.length → Holds m (org + (rel + evenUp o)) f.value)
    (hend : rel + f.grow o ≤ n) (hsmall : n < 2 ^ 32) :
    readEntry size (load m org n) off =
      some ⟨f, if f.value.length ≤ 4 then none else some (rel + evenUp o)⟩ := by
  obtain ⟨hhead, hslot⟩ := Holds.append_iff.mp hr
  obtain ⟨hid, hhead⟩ := Holds.append_iff.mp hhead
  obtain ⟨htype, hcount⟩ := Holds.append_iff.mp hhead
  rw [length_encodeBe16] at htype hcount
  rw [length_encodeBe16] at hcount
  rw [length_header] at hslot
  have h1 : readU16 (load m org n) off = some f.id := readU16_of_holds hid (by omega)
  have h2 : readU16 (load m org n) (off + 2) = some f.type := readU16_of_holds htype (by omega)
  have h3 : readU32 (load m org n) (off + 4) = some f.count := readU32_of_holds hcount (by omega)
  have hsize : size f.type * f.count.toNat = f.value.length := Eq.symm hf
  by_cases hlen : f.value.length ≤ 4
  · have hval : Holds m (org + off + 8) f.value := by
      rw [Field.slot, if_pos hlen] at hslot
      exact (Holds.append_iff.mp hslot).1
    have h4 : slice (load m org n) (off + 8) f.value.length = some f.value :=
      Holds.slice_eq hval (by omega)
    simp [readEntry, h1, h2, h3, hsize, hlen, h4]
  · have hgrow : f.grow o = evenUp o + f.value.length := by simp [Field.grow, hlen]
    rw [Field.slot, if_neg hlen] at hslot
    have hp : (UInt32.ofNat (rel + evenUp o)).toNat = rel + evenUp o :=
      UInt32.toNat_ofNat_of_lt' (by simp only [UInt32.size]; omega)
    have h4 : readU32 (load m org n) (off + 8) = some (.ofNat (rel + evenUp o)) :=
      readU32_of_holds hslot (by omega)
    have h5 : slice (load m org n) (rel + evenUp o) f.value.length = some f.value :=
      (hv (by omega)).slice_eq (by omega)
    simp only [readEntry, h1, h2, h3, hsize, hlen, h4, hp, h5, Option.bind_eq_bind, Option.bind_some,
      if_false, pure]

theorem readEntries_of_holds (hf : ∀ f ∈ fs, f.Sized size)
    (hr : Holds m (org + off) (records rel o fs)) (hoff : off + 12 * fs.length ≤ n)
    (hv : HoldsValues m (org + rel) o fs) (hend : rel + areaEnd o fs ≤ n) (hsmall : n < 2 ^ 32) :
    readEntries size (load m org n) fs.length off = some (found rel o fs) := by
  induction fs generalizing off o with
  | nil => rfl
  | cons f fs ih =>
    rw [List.length_cons] at hoff
    obtain ⟨hhead, htail⟩ := Holds.append_iff.mp hr
    rw [List.length_append, length_header, length_slot] at htail
    have hle : f.grow o ≤ areaEnd (f.grow o) fs := le_areaEnd
    rw [areaEnd_cons] at hend
    have hval : 4 < f.value.length → Holds m (org + (rel + evenUp o)) f.value := by
      intro hlen
      rw [← Nat.add_assoc]
      exact hv.1 hlen
    have h1 := readEntry_of_holds (hf f (by simp)) hhead (by omega) hval (by omega) hsmall
    have h2 : readEntries size (load m org n) fs.length (off + 12) =
        some (found rel (f.grow o) fs) :=
      ih (fun g hg => hf g (by simp [hg])) htail (by omega) hv.2 hend
    simp [readEntries, h1, h2, found]

/-- The reader finds a directory that was laid out, each value where the layout has it. -/
theorem Laid.readDirectory_eq (h : Laid m org off fs) (hf : ∀ f ∈ fs, f.Sized size)
    (hcount : fs.length < 2 ^ 16) (hend : off + extent fs ≤ n) (hsmall : n < 2 ^ 32) :
    readDirectory size (load m org n) off =
      some ⟨off, found (off + tableSize fs.length) 0 fs, 0⟩ := by
  have hext : extent fs = 2 + 12 * fs.length + 4 + areaEnd 0 fs := rfl
  have htab : tableSize fs.length = 2 + 12 * fs.length + 4 := rfl
  have hlen : (UInt16.ofNat fs.length).toNat = fs.length := UInt16.toNat_ofNat_of_lt' hcount
  obtain ⟨hlength, htable, hnext, hvalues⟩ := h
  rw [Nat.add_assoc] at htable hvalues
  rw [Nat.add_assoc, Nat.add_assoc, ← Nat.add_assoc off] at hnext
  have h1 : readU16 (load m org n) off = some (.ofNat fs.length) :=
    readU16_of_holds hlength (by omega)
  have h2 := readEntries_of_holds hf htable (by omega) hvalues (by omega) hsmall
  have h3 : readU32 (load m org n) (off + 2 + 12 * fs.length) = some 0 :=
    readU32_of_holds hnext (by omega)
  simp [readDirectory, h1, hlen, h2, h3]

/-- A value that was read has room in the file. -/
theorem length_le_of_readEntry (h : readEntry size bs off = some e) :
    e.field.value.length ≤ bs.length := by
  simp only [readEntry, Option.bind_eq_bind, Option.bind_eq_some_iff] at h
  obtain ⟨id, -, type, -, count, -, h⟩ := h
  split at h
  · obtain ⟨value, hs, h⟩ := Option.bind_eq_some_iff.mp h
    obtain rfl := Option.some.inj h
    have := slice_eq_some hs
    simp only
    omega
  · obtain ⟨place, -, h⟩ := Option.bind_eq_some_iff.mp h
    obtain ⟨value, hs, h⟩ := Option.bind_eq_some_iff.mp h
    obtain rfl := Option.some.inj h
    have := slice_eq_some hs
    simp only
    omega

theorem length_le_of_readEntries {k : Nat} {es : List Entry}
    (h : readEntries size bs k off = some es) (he : e ∈ es) : e.field.value.length ≤ bs.length := by
  induction k generalizing off es with
  | zero =>
    obtain rfl : es = [] := by simpa [readEntries] using h.symm
    simp at he
  | succ k ih =>
    simp only [readEntries, Option.bind_eq_bind, Option.bind_eq_some_iff] at h
    obtain ⟨e', he', es', hes', h⟩ := h
    obtain rfl := Option.some.inj h
    obtain rfl | he := List.mem_cons.mp he
    · exact length_le_of_readEntry he'
    · exact ih hes' he

theorem length_le_of_readDirectory (h : readDirectory size bs off = some d) (he : e ∈ d.entries) :
    e.field.value.length ≤ bs.length := by
  simp only [readDirectory, Option.bind_eq_bind, Option.bind_eq_some_iff] at h
  obtain ⟨k, -, es, hes, next, -, h⟩ := h
  obtain rfl := Option.some.inj h
  exact length_le_of_readEntries hes he

end Reading

section Ranges

theorem range_found (h : r ∈ (found rel o fs).filterMap Entry.range?) :
    rel + o ≤ r.start ∧ r.start ≤ r.stop ∧ r.stop ≤ rel + areaEnd o fs := by
  induction fs generalizing o with
  | nil => simp [found] at h
  | cons f fs ih =>
    have hgrow : o ≤ f.grow o := le_grow
    have hend : f.grow o ≤ areaEnd (f.grow o) fs := le_areaEnd
    have heven : o ≤ evenUp o := le_evenUp
    rw [areaEnd_cons]
    by_cases hlen : f.value.length ≤ 4
    · rw [found, List.filterMap_cons_none (by simp [Entry.range?, hlen])] at h
      have := ih h
      omega
    · have hg : f.grow o = evenUp o + f.value.length := by simp [Field.grow, hlen]
      rw [found, List.filterMap_cons_some (by simp [Entry.range?, hlen]; rfl)] at h
      obtain rfl | h := List.mem_cons.mp h
      · simp only
        omega
      · have := ih h
        omega

theorem pairwise_found :
    ((found rel o fs).filterMap Entry.range?).Pairwise fun r s => r.stop ≤ s.start := by
  induction fs generalizing o with
  | nil => exact .nil
  | cons f fs ih =>
    by_cases hlen : f.value.length ≤ 4
    · rw [found, List.filterMap_cons_none (by simp [Entry.range?, hlen])]
      exact ih
    · have hg : f.grow o = evenUp o + f.value.length := by simp [Field.grow, hlen]
      rw [found, List.filterMap_cons_some (by simp [Entry.range?, hlen]; rfl)]
      refine List.Pairwise.cons (fun s hs => ?_) ih
      have := range_found hs
      simp only
      omega

@[simp] theorem length_found : (found rel o fs).length = fs.length := by
  induction fs generalizing o with
  | nil => rfl
  | cons f fs ih => simp [found, ih]

variable {next : UInt32}

/-- All that a directory takes lies in its extent. -/
theorem range_laid
    (h : r ∈ (Directory.mk off (found (off + tableSize fs.length) 0 fs) next).ranges) :
    off ≤ r.start ∧ r.start ≤ r.stop ∧ r.stop ≤ off + extent fs := by
  have hext : extent fs = tableSize fs.length + areaEnd 0 fs := rfl
  simp only [Directory.ranges, length_found] at h
  obtain rfl | h := List.mem_cons.mp h
  · simp only
    omega
  · have := range_found h
    omega

/-- The values of a directory that starts at an even offset start at even offsets. -/
theorem start_found (hrel : rel % 2 = 0) (h : r ∈ (found rel o fs).filterMap Entry.range?) :
    r.start % 2 = 0 := by
  induction fs generalizing o with
  | nil => simp [found] at h
  | cons f fs ih =>
    by_cases hlen : f.value.length ≤ 4
    · rw [found, List.filterMap_cons_none (by simp [Entry.range?, hlen])] at h
      exact ih h
    · rw [found, List.filterMap_cons_some (by simp [Entry.range?, hlen]; rfl)] at h
      obtain rfl | h := List.mem_cons.mp h
      · simp only [evenUp]
        omega
      · exact ih h

theorem start_laid (hoff : off % 2 = 0)
    (h : r ∈ (Directory.mk off (found (off + tableSize fs.length) 0 fs) next).ranges) :
    r.start % 2 = 0 := by
  simp only [Directory.ranges, length_found] at h
  obtain rfl | h := List.mem_cons.mp h
  · exact hoff
  · refine start_found ?_ h
    rw [tableSize]
    omega

theorem pairwise_laid :
    (Directory.mk off (found (off + tableSize fs.length) 0 fs) next).ranges.Pairwise
      fun r s => r.stop ≤ s.start := by
  simp only [Directory.ranges, length_found]
  refine List.Pairwise.cons (fun s hs => ?_) pairwise_found
  have := range_found hs
  simp only
  omega

end Ranges

end Library.Tiff
