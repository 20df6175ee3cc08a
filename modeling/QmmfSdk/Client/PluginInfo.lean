import QmmfSdk.Library.Bytes

/-! `PluginInfo` and its blob: three lengths, and the fields behind them. -/
namespace QmmfSdk.Client

open Library

/-- The strings are the bytes that they hold. -/
structure PluginInfo where
  name : List UInt8
  version : List UInt8
  togglable : Bool
  tuningFileName : List UInt8
  deriving DecidableEq, Repr

namespace PluginInfo

variable {p q : PluginInfo} {blob : List UInt8} {n v t : UInt16}

def size (p : PluginInfo) : Nat :=
  2 + p.name.length + 2 + p.version.length + 1 + 2 + p.tuningFileName.length

/-- What `ToBlob` copies, piece by piece. -/
def fields (p : PluginInfo) : List (List UInt8) :=
  [encodeU16 (.ofNat p.name.length), encodeU16 (.ofNat p.version.length),
    encodeU16 (.ofNat p.tuningFileName.length), p.name, p.version,
    [if p.togglable then 1 else 0], p.tuningFileName]

/-- `fresh` is the memory that is allocated for the blob. -/
def toBlob (p : PluginInfo) (fresh : List UInt8) : Option (List UInt8) :=
  overwriteAll fresh 0 p.fields

/-- "Invalid blob" -/
def invalidBlob : List UInt8 := [73, 110, 118, 97, 108, 105, 100, 32, 98, 108, 111, 98]

/-- The fields behind the lengths; `none` when a byte behind the blob is read. -/
def readFields (blob : List UInt8) (nameSize versionSize tuningSize : UInt16) : Option PluginInfo := do
  let src := 6
  let name ← readRange blob src nameSize.toNat
  let src := src + nameSize.toNat
  let version ← readRange blob src versionSize.toNat
  let src := src + versionSize.toNat
  let togglable ← readRange blob src 1
  let src := src + 1
  let tuningFileName ← readRange blob src tuningSize.toNat
  return { name, version, togglable := togglable != [0], tuningFileName }

def fromBlob (p : PluginInfo) (blob : List UInt8) : Option PluginInfo := do
  let p := { p with name := invalidBlob, version := invalidBlob, tuningFileName := invalidBlob }
  if 6 < blob.length then
    let remainingSize := blob.length - 6
    let nameSize ← decodeU16 blob
    let versionSize ← decodeU16 (blob.drop 2)
    let tuningSize ← decodeU16 (blob.drop 4)
    if versionSize.toNat + nameSize.toNat + tuningSize.toNat ≤ remainingSize then
      readFields blob nameSize versionSize tuningSize
    else return p
  else return p

/-- Writer and reader agree: the writer fills the blob, and any object reads the same fields from it. -/
def RoundTrips (p : PluginInfo) : Prop :=
  ∃ blob, blob.length = p.size ∧ (∀ fresh, fresh.length = p.size → p.toBlob fresh = some blob) ∧
    ∀ q : PluginInfo, q.fromBlob blob = some p

def ReadsInside (q : PluginInfo) (blob : List UInt8) : Prop := (q.fromBlob blob).isSome

/-- The strings do not take up all that is behind the lengths, the flag included. -/
def LeavesFlag (blob : List UInt8) : Prop :=
  blob.length ≤ 6 ∨ ∀ n v t, decodeU16 blob = some n → decodeU16 (blob.drop 2) = some v →
    decodeU16 (blob.drop 4) = some t → v.toNat + n.toNat + t.toNat ≠ blob.length - 6

theorem length_fields (p : PluginInfo) : p.fields.flatten.length = p.size := by
  simp [fields, size]
  omega

theorem toBlob_eq {fresh : List UInt8} (h : fresh.length = p.size) :
    p.toBlob fresh = some p.fields.flatten := by
  have hfill : overwriteAll ([] ++ fresh) 0 p.fields = some ([] ++ p.fields.flatten) :=
    overwriteAll_append rfl (by rw [h, length_fields])
  exact hfill

theorem fromBlob_of_sizes (q : PluginInfo) (hlen : 6 < blob.length) (hn : decodeU16 blob = some n)
    (hv : decodeU16 (blob.drop 2) = some v) (ht : decodeU16 (blob.drop 4) = some t) :
    q.fromBlob blob = if v.toNat + n.toNat + t.toNat ≤ blob.length - 6 then readFields blob n v t
      else some { q with
        name := invalidBlob, version := invalidBlob, tuningFileName := invalidBlob } := by
  simp only [fromBlob, hlen, hn, hv, ht, if_true, Option.bind_eq_bind, Option.bind_some]
  rfl

theorem fromBlob_fields (hname : p.name.length < 2 ^ 16) (hversion : p.version.length < 2 ^ 16)
    (htuning : p.tuningFileName.length < 2 ^ 16) (q : PluginInfo) :
    q.fromBlob p.fields.flatten = some p := by
  have hn : (UInt16.ofNat p.name.length).toNat = p.name.length := UInt16.toNat_ofNat_of_lt' hname
  have hv : (UInt16.ofNat p.version.length).toNat = p.version.length :=
    UInt16.toNat_ofNat_of_lt' hversion
  have ht : (UInt16.ofNat p.tuningFileName.length).toNat = p.tuningFileName.length :=
    UInt16.toNat_ofNat_of_lt' htuning
  let sizes : List UInt8 := encodeU16 (.ofNat p.name.length) ++
    (encodeU16 (.ofNat p.version.length) ++ encodeU16 (.ofNat p.tuningFileName.length))
  let flag : List UInt8 := [if p.togglable then 1 else 0]
  have hsizes : sizes.length = 6 := rfl
  have hflag : flag.length = 1 := rfl
  have hblob : p.fields.flatten =
      sizes ++ (p.name ++ (p.version ++ (flag ++ (p.tuningFileName ++ [])))) := by
    simp [fields, sizes, flag]
  have hlen : p.fields.flatten.length =
      6 + (p.name.length + (p.version.length + (1 + p.tuningFileName.length))) := by
    rw [hblob, List.append_nil]
    simp only [List.length_append, hsizes, hflag]
  have hreadname : readRange p.fields.flatten 6 p.name.length = some p.name := by
    rw [hblob]
    exact readRange_append hsizes.symm rfl
  have hreadversion : readRange p.fields.flatten (6 + p.name.length) p.version.length =
      some p.version := by
    rw [hblob, ← List.append_assoc]
    exact readRange_append (by rw [List.length_append, hsizes]) rfl
  have hreadflag : readRange p.fields.flatten (6 + p.name.length + p.version.length) 1 =
      some flag := by
    rw [hblob, ← List.append_assoc, ← List.append_assoc]
    exact readRange_append (by simp only [List.length_append, hsizes]) rfl
  have hreadtuning : readRange p.fields.flatten (6 + p.name.length + p.version.length + 1)
      p.tuningFileName.length = some p.tuningFileName := by
    rw [hblob, ← List.append_assoc, ← List.append_assoc, ← List.append_assoc]
    exact readRange_append (by simp only [List.length_append, hsizes, hflag]) rfl
  have hfirst : decodeU16 p.fields.flatten = some (.ofNat p.name.length) := decodeU16_encodeU16
  have hsecond : decodeU16 (p.fields.flatten.drop 2) = some (.ofNat p.version.length) :=
    decodeU16_encodeU16
  have hthird : decodeU16 (p.fields.flatten.drop 4) = some (.ofNat p.tuningFileName.length) :=
    decodeU16_encodeU16
  have htogglable : (flag != [0]) = p.togglable := by
    cases p with
    | mk name version togglable tuningFileName => cases togglable <;> rfl
  rw [fromBlob_of_sizes q (by omega) hfirst hsecond hthird, if_pos (by omega)]
  simp only [readFields, hn, hv, ht, hreadname, hreadversion, hreadflag, hreadtuning,
    Option.bind_eq_bind, Option.bind_some, htogglable]
  rfl

theorem roundTrips (hname : p.name.length < 2 ^ 16) (hversion : p.version.length < 2 ^ 16)
    (htuning : p.tuningFileName.length < 2 ^ 16) : p.RoundTrips :=
  ⟨p.fields.flatten, p.length_fields, fun _ h => toBlob_eq h,
    fromBlob_fields hname hversion htuning⟩

theorem decodeU16_of_length {bs : List UInt8} (h : 2 ≤ bs.length) : ∃ n, decodeU16 bs = some n := by
  match bs, h with
  | a :: b :: bs, _ => exact ⟨_, rfl⟩

theorem readRange_isSome_iff {bs : List UInt8} {off k : Nat} :
    (readRange bs off k).isSome ↔ k = 0 ∨ off + k ≤ bs.length := by
  unfold readRange
  split
  next h => simpa using h
  next h => simpa using h

/-- The strings fit when they leave a byte for the flag. -/
theorem readFields_isSome_iff : (readFields blob n v t).isSome ↔
    7 + n.toNat + v.toNat + t.toNat ≤ blob.length := by
  have hpieces : (readFields blob n v t).isSome ↔ (readRange blob 6 n.toNat).isSome ∧
      (readRange blob (6 + n.toNat) v.toNat).isSome ∧
      (readRange blob (6 + n.toNat + v.toNat) 1).isSome ∧
      (readRange blob (6 + n.toNat + v.toNat + 1) t.toNat).isSome := by
    cases hname : readRange blob 6 n.toNat with
    | none => simp [readFields, hname]
    | some name =>
      cases hversion : readRange blob (6 + n.toNat) v.toNat with
      | none => simp [readFields, hname, hversion]
      | some version =>
        cases hflag : readRange blob (6 + n.toNat + v.toNat) 1 with
        | none => simp [readFields, hname, hversion, hflag]
        | some flag =>
          cases htuning : readRange blob (6 + n.toNat + v.toNat + 1) t.toNat with
          | none => simp [readFields, hname, hversion, hflag, htuning]
          | some tuning => simp [readFields, hname, hversion, hflag, htuning]
  simp only [hpieces, readRange_isSome_iff]
  omega

theorem readsInside_blob_iff (q : PluginInfo) (blob : List UInt8) :
    q.ReadsInside blob ↔ LeavesFlag blob := by
  unfold ReadsInside LeavesFlag
  by_cases hlen : 6 < blob.length
  · obtain ⟨n, hn⟩ : ∃ n, decodeU16 blob = some n := decodeU16_of_length (by omega)
    obtain ⟨v, hv⟩ : ∃ v, decodeU16 (blob.drop 2) = some v :=
      decodeU16_of_length (by rw [List.length_drop]; omega)
    obtain ⟨t, ht⟩ : ∃ t, decodeU16 (blob.drop 4) = some t :=
      decodeU16_of_length (by rw [List.length_drop]; omega)
    have hleaves : (∀ n' v' t', decodeU16 blob = some n' → decodeU16 (blob.drop 2) = some v' →
        decodeU16 (blob.drop 4) = some t' → v'.toNat + n'.toNat + t'.toNat ≠ blob.length - 6) ↔
          v.toNat + n.toNat + t.toNat ≠ blob.length - 6 := by
      simp [hn, hv, ht]
    rw [fromBlob_of_sizes q hlen hn hv ht, hleaves, or_iff_right (by omega)]
    split
    next hle =>
      rw [readFields_isSome_iff]
      omega
    next hle => simp; omega
  · have hshort : q.fromBlob blob = some { q with
        name := invalidBlob, version := invalidBlob, tuningFileName := invalidBlob } := by
      simp only [fromBlob, hlen, if_false]
      rfl
    rw [hshort]
    exact iff_of_true rfl (.inl (by omega))

/-- `FromBlob` compares the strings with what is behind the lengths, and forgets the flag. -/
theorem roundTrips_and_readsInside_iff (p q : PluginInfo) (blob : List UInt8)
    (hname : p.name.length < 2 ^ 16) (hversion : p.version.length < 2 ^ 16)
    (htuning : p.tuningFileName.length < 2 ^ 16) :
    p.RoundTrips ∧ q.ReadsInside blob ↔ LeavesFlag blob := by
  rw [q.readsInside_blob_iff blob]
  exact and_iff_right (roundTrips hname hversion htuning)

def blank : PluginInfo := { name := [], version := [], togglable := false, tuningFileName := [] }

/-- Its blob is three lengths, "eis", "1.2", the flag and "a.b". -/
def stabilizer : PluginInfo where
  name := [101, 105, 115]
  version := [49, 46, 50]
  togglable := true
  tuningFileName := [97, 46, 98]

theorem stabilizer_roundTrips_and_readsInside : stabilizer.RoundTrips ∧
    blank.ReadsInside [3, 0, 3, 0, 3, 0, 101, 105, 115, 49, 46, 50, 1, 97, 46, 98] := by
  refine (roundTrips_and_readsInside_iff stabilizer blank _ (by decide) (by decide) (by decide)).mpr
    (.inr fun n v t hn hv ht => ?_)
  obtain rfl : 3 = n := Option.some.inj hn
  obtain rfl : 3 = v := Option.some.inj hv
  obtain rfl : 3 = t := Option.some.inj ht
  decide

/-- A name that ends with the blob: the flag is behind both. -/
theorem fromBlob_reads_past_end : ¬ blank.ReadsInside [1, 0, 0, 0, 0, 0, 65] := by
  unfold ReadsInside
  decide

end PluginInfo

end QmmfSdk.Client
