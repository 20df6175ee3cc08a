import QmmfSdk.Exif.Types

/-! A reference reader of an APP1 Exif segment: it knows the format, not the generator. -/
namespace QmmfSdk.Exif

open Library Library.Tiff

/-- Tag id and value as a file holds them; the value says its type and its count. -/
structure Recovered where
  id : UInt16
  value : Value
  deriving DecidableEq

def Tag.recovered (t : Tag) : Recovered := ⟨t.id.toUInt16, t.value⟩

def decodeShorts : List UInt8 → Option (List UInt16)
  | [] => some []
  | a :: b :: bs => (decodeShorts bs).map (decodeBe16 a b :: ·)
  | _ => none

def decodeLongs : List UInt8 → Option (List UInt32)
  | [] => some []
  | a :: b :: c :: d :: bs => (decodeLongs bs).map (decodeBe32 a b c d :: ·)
  | _ => none

def decodeRationals : List UInt8 → Option (List Rational)
  | [] => some []
  | a :: b :: c :: d :: a' :: b' :: c' :: d' :: bs =>
    (decodeRationals bs).map (⟨decodeBe32 a b c d, decodeBe32 a' b' c' d'⟩ :: ·)
  | _ => none

/-- A numeric value has an element. -/
def nonempty {α : Type} (mk : α → List α → Value) : List α → Option Value
  | [] => none
  | v :: vs => some (mk v vs)

def decodeValue (type : UInt16) (bs : List UInt8) : Option Value :=
  match type.toNat with
  | 1 => nonempty .byte bs
  | 2 => some (.ascii bs)
  | 3 => (decodeShorts bs).bind (nonempty .short)
  | 4 => (decodeLongs bs).bind (nonempty .long)
  | 5 => (decodeRationals bs).bind (nonempty .rational)
  | 7 => some (.undefined bs)
  | 9 => (decodeLongs bs).bind fun vs => nonempty .slong (vs.map UInt32.toInt32)
  | 10 => (decodeRationals bs).bind fun vs =>
    nonempty .srational (vs.map fun r => ⟨r.num.toInt32, r.denom.toInt32⟩)
  | _ => none

def decodeEntries : List Tiff.Entry → Option (List Recovered)
  | [] => some []
  | e :: es => do
    let v ← decodeValue e.field.type e.field.value
    let vs ← decodeEntries es
    return ⟨e.field.id, v⟩ :: vs

/-- An IFD as read: where it starts behind the TIFF header, its tags and the ranges it takes. -/
structure Ifd where
  offset : Nat
  tags : List Recovered
  ranges : List Range
  deriving DecidableEq

def readIfd (tiff : List UInt8) (off : Nat) : Option Ifd := do
  let d ← readDirectory typeSize tiff off
  let tags ← decodeEntries d.entries
  return ⟨off, tags, d.ranges⟩

/-- The offset in a pointer tag. -/
def Ifd.pointer (ifd : Ifd) (id : UInt16) : Option Nat :=
  match ifd.tags.find? fun t => t.id = id with
  | some ⟨_, .long p []⟩ => some p.toNat
  | _ => none

structure ExifFile where
  /-- The length in the segment, which counts its own two bytes. -/
  length : Nat
  zeroth : Ifd
  exif : Ifd
  interop : Ifd
  gps : Ifd
  deriving DecidableEq

/-- All tables and all values outside them. -/
def ExifFile.ranges (f : ExifFile) : List Range :=
  f.zeroth.ranges ++ (f.exif.ranges ++ (f.interop.ranges ++ f.gps.ranges))

/-- From the marker on: length, Exif code, byte order, and the directories behind the pointers. -/
def readExif (bs : List UInt8) : Option ExifFile := do
  guard (readU16 bs 0 = some 0xFFE1)
  let length ← readU16 bs 2
  let segment ← slice bs 2 length.toNat
  guard (slice segment 2 6 = some [0x45, 0x78, 0x69, 0x66, 0, 0])
  let tiff ← slice segment 8 (segment.length - 8)
  guard (slice tiff 0 4 = some [0x4D, 0x4D, 0, 0x2A])
  let first ← readU32 tiff 4
  let zeroth ← readIfd tiff first.toNat
  let exif ← readIfd tiff (← zeroth.pointer 0x8769)
  let interop ← readIfd tiff (← exif.pointer 0xA005)
  let gps ← readIfd tiff (← zeroth.pointer 0x8825)
  return ⟨length.toNat, zeroth, exif, interop, gps⟩

section RoundTrip

theorem decodeShorts_flatMap {vs : List UInt16} :
    decodeShorts (vs.flatMap encodeBe16) = some vs := by
  induction vs with
  | nil => rfl
  | cons v vs ih =>
    rw [List.flatMap_cons, encodeBe16, List.cons_append, List.cons_append, List.nil_append,
      decodeShorts, ih, decodeBe16_encodeBe16]
    rfl

theorem decodeLongs_flatMap {α : Type} {f : α → UInt32} {vs : List α} :
    decodeLongs (vs.flatMap fun v => encodeBe32 (f v)) = some (vs.map f) := by
  induction vs with
  | nil => rfl
  | cons v vs ih =>
    simp only [List.flatMap_cons, encodeBe32, List.cons_append, List.nil_append, decodeLongs,
      decodeBe32_encodeBe32]
    simp only [encodeBe32] at ih
    rw [ih]
    rfl

theorem decodeRationals_flatMap {α : Type} {f h : α → UInt32} {vs : List α} :
    decodeRationals (vs.flatMap fun v => encodeBe32 (f v) ++ encodeBe32 (h v)) =
      some (vs.map fun v => ⟨f v, h v⟩) := by
  induction vs with
  | nil => rfl
  | cons v vs ih =>
    simp only [List.flatMap_cons, encodeBe32, List.cons_append, List.nil_append, decodeRationals,
      decodeBe32_encodeBe32]
    simp only [encodeBe32, List.cons_append, List.nil_append] at ih
    rw [ih]
    rfl

/-- Reading the bytes of a value under its type gives the value. -/
theorem decodeValue_bytes {v : Value} : decodeValue v.type.code v.bytes = some v := by
  cases v with
  | byte v vs => rfl
  | ascii s => rfl
  | undefined s => rfl
  | short v vs =>
    show (decodeShorts ((v :: vs).flatMap encodeBe16)).bind (nonempty .short) = _
    rw [decodeShorts_flatMap]
    rfl
  | long v vs =>
    show (decodeLongs ((v :: vs).flatMap fun n => encodeBe32 (id n))).bind (nonempty .long) = _
    rw [decodeLongs_flatMap, List.map_id]
    rfl
  | rational v vs =>
    show (decodeRationals ((v :: vs).flatMap fun r => encodeBe32 r.num ++ encodeBe32 r.denom)).bind
      (nonempty .rational) = _
    rw [decodeRationals_flatMap]
    simp [nonempty]
  | slong v vs =>
    show (decodeLongs ((v :: vs).flatMap fun n => encodeBe32 n.toUInt32)).bind
      (fun ws => nonempty .slong (ws.map UInt32.toInt32)) = _
    rw [decodeLongs_flatMap]
    simp [nonempty, Function.comp_def]
  | srational v vs =>
    show (decodeRationals ((v :: vs).flatMap fun r => encodeBe32 r.num.toUInt32 ++
      encodeBe32 r.denom.toUInt32)).bind (fun ws => nonempty .srational (ws.map fun r =>
        ⟨r.num.toInt32, r.denom.toInt32⟩)) = _
    rw [decodeRationals_flatMap]
    simp [nonempty, Function.comp_def]

theorem decodeEntries_found {ts : List Tag} {rel o : Nat} :
    decodeEntries (found rel o (ts.map Tag.field)) = some (ts.map Tag.recovered) := by
  induction ts generalizing o with
  | nil => rfl
  | cons t ts ih =>
    have ht : decodeValue t.field.type t.field.value = some t.value := decodeValue_bytes
    simp only [List.map_cons, found, decodeEntries, ht, ih, Option.bind_eq_bind, Option.bind_some]
    rfl

theorem length_of_decodeShorts {bs : List UInt8} {vs : List UInt16}
    (h : decodeShorts bs = some vs) : bs.length = 2 * vs.length := by
  induction bs using decodeShorts.induct generalizing vs with
  | case1 =>
    obtain rfl : vs = [] := by simpa [decodeShorts] using h.symm
    rfl
  | case2 a b bs ih =>
    obtain ⟨ws, hws, rfl⟩ := Option.map_eq_some_iff.mp h
    have := ih hws
    simp only [List.length_cons]
    omega
  | case3 => simp [decodeShorts] at h

theorem length_of_decodeLongs {bs : List UInt8} {vs : List UInt32}
    (h : decodeLongs bs = some vs) : bs.length = 4 * vs.length := by
  induction bs using decodeLongs.induct generalizing vs with
  | case1 =>
    obtain rfl : vs = [] := by simpa [decodeLongs] using h.symm
    rfl
  | case2 a b c d bs ih =>
    obtain ⟨ws, hws, rfl⟩ := Option.map_eq_some_iff.mp h
    have := ih hws
    simp only [List.length_cons]
    omega
  | case3 => simp [decodeLongs] at h

theorem length_of_decodeRationals {bs : List UInt8} {vs : List Rational}
    (h : decodeRationals bs = some vs) : bs.length = 8 * vs.length := by
  induction bs using decodeRationals.induct generalizing vs with
  | case1 =>
    obtain rfl : vs = [] := by simpa [decodeRationals] using h.symm
    rfl
  | case2 a b c d a' b' c' d' bs ih =>
    obtain ⟨ws, hws, rfl⟩ := Option.map_eq_some_iff.mp h
    have := ih hws
    simp only [List.length_cons]
    omega
  | case3 => simp [decodeRationals] at h

theorem of_nonempty {α : Type} {mk : α → List α → Value} {xs : List α} {v : Value}
    (h : nonempty mk xs = some v) : ∃ x ys, xs = x :: ys ∧ v = mk x ys := by
  cases xs with
  | nil => cases h
  | cons x ys => exact ⟨x, ys, rfl, (Option.some.inj h).symm⟩

/-- A value is read from as many bytes as it takes. -/
theorem length_of_decodeValue {type : UInt16} {bs : List UInt8} {v : Value}
    (h : decodeValue type bs = some v) : v.bytes.length = bs.length := by
  unfold decodeValue at h
  split at h
  · obtain ⟨x, ys, rfl, rfl⟩ := of_nonempty h
    rfl
  · obtain rfl := Option.some.inj h
    rfl
  · obtain ⟨xs, hxs, h⟩ := Option.bind_eq_some_iff.mp h
    obtain ⟨x, ys, rfl, rfl⟩ := of_nonempty h
    rw [length_of_decodeShorts hxs]
    exact length_flatMap_of_length fun _ => rfl
  · obtain ⟨xs, hxs, h⟩ := Option.bind_eq_some_iff.mp h
    obtain ⟨x, ys, rfl, rfl⟩ := of_nonempty h
    rw [length_of_decodeLongs hxs]
    exact length_flatMap_of_length fun _ => rfl
  · obtain ⟨xs, hxs, h⟩ := Option.bind_eq_some_iff.mp h
    obtain ⟨x, ys, rfl, rfl⟩ := of_nonempty h
    rw [length_of_decodeRationals hxs]
    exact length_flatMap_of_length fun _ => rfl
  · obtain rfl := Option.some.inj h
    rfl
  · obtain ⟨xs, hxs, h⟩ := Option.bind_eq_some_iff.mp h
    obtain ⟨x, ys, hmap, rfl⟩ := of_nonempty h
    have hlen : xs.length = (x :: ys).length := by rw [← hmap, List.length_map]
    rw [length_of_decodeLongs hxs, hlen]
    exact length_flatMap_of_length fun _ => rfl
  · obtain ⟨xs, hxs, h⟩ := Option.bind_eq_some_iff.mp h
    obtain ⟨x, ys, hmap, rfl⟩ := of_nonempty h
    have hlen : xs.length = (x :: ys).length := by rw [← hmap, List.length_map]
    rw [length_of_decodeRationals hxs, hlen]
    exact length_flatMap_of_length fun _ => rfl
  · cases h

theorem exists_entry {es : List Tiff.Entry} {rs : List Recovered} {r : Recovered}
    (h : decodeEntries es = some rs) (hr : r ∈ rs) :
    ∃ e ∈ es, decodeValue e.field.type e.field.value = some r.value := by
  induction es generalizing rs with
  | nil =>
    obtain rfl : rs = [] := by simpa [decodeEntries] using h.symm
    simp at hr
  | cons e es ih =>
    simp only [decodeEntries, Option.bind_eq_bind, Option.bind_eq_some_iff] at h
    obtain ⟨v, hv, vs, hvs, h⟩ := h
    obtain rfl := Option.some.inj h
    obtain rfl | hr := List.mem_cons.mp hr
    · exact ⟨e, by simp, hv⟩
    · obtain ⟨e', he', hv'⟩ := ih hvs hr
      exact ⟨e', by simp [he'], hv'⟩

/-- Every value of an IFD has room in the file it was read from. -/
theorem length_le_of_readIfd {tiff : List UInt8} {off : Nat} {r : Recovered} {ifd : Ifd}
    (h : readIfd tiff off = some ifd) (hr : r ∈ ifd.tags) :
    r.value.bytes.length ≤ tiff.length := by
  simp only [readIfd, Option.bind_eq_bind, Option.bind_eq_some_iff] at h
  obtain ⟨d, hd, tags, htags, h⟩ := h
  obtain rfl := Option.some.inj h
  obtain ⟨e, he, hv⟩ := exists_entry htags hr
  rw [length_of_decodeValue hv]
  exact length_le_of_readDirectory hd he

/-- A directory of tags reads back as the tags. -/
theorem readIfd_of_laid {m : Nat → UInt8} {org off n : Nat} {ts : List Tag}
    (h : Laid m org off (ts.map Tag.field)) (hlen : ts.length < 2 ^ 16)
    (hend : off + extent (ts.map Tag.field) ≤ n) (hsmall : n < 2 ^ 32) :
    readIfd (load m org n) off = some ⟨off, ts.map Tag.recovered,
      (Directory.mk off (found (off + tableSize (ts.map Tag.field).length) 0
        (ts.map Tag.field)) 0).ranges⟩ := by
  have hsized : ∀ f ∈ ts.map Tag.field, f.Sized typeSize := by
    intro f hf
    obtain ⟨t, -, rfl⟩ := List.mem_map.mp hf
    exact t.field_sized
  have hdir := h.readDirectory_eq hsized (by simpa using hlen) hend hsmall
  simp only [readIfd, hdir, decodeEntries_found, Option.bind_eq_bind, Option.bind_some]
  rfl

end RoundTrip

end QmmfSdk.Exif
