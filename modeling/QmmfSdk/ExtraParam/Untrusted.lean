import QmmfSdk.ExtraParam.Blocks

/-! `Acquire` and `Fetch` on bytes from another process, which need not be what a container wrote. -/
namespace QmmfSdk.ExtraParam

open Library

/-- A whole entry: a descriptor and as many bytes as it says. -/
structure Entry where
  desc : DataDecriptor
  data : List UInt8
  length_data : data.length = desc.dataSize.toNat

/-- What a parcel hands over, for a process whose `size_t` and `uintptr_t` have so many bits. -/
structure Blob (bits : Nat) where
  data : List UInt8
  length_lt : data.length < 2 ^ bits

variable {c : ExtraParam} {data tail rest : List UInt8} {es pre : List Entry} {e : Entry}
  {d : DataDecriptor} {tag : UInt32} {m m' : OrdMap UInt32 (List Nat)} {bits turns offset n : Nat}

def Entry.bytes (e : Entry) : List UInt8 := e.desc.encode ++ e.data

def bytesOf (es : List Entry) : List UInt8 := es.flatMap Entry.bytes

/-- Whether `Acquire` files an entry of a tag that has `n` already. -/
def Files (n : Nat) (d : DataDecriptor) : Prop := n = 0 ∨ n ≤ d.entryId.toNat

instance : Decidable (Files n d) := by
  unfold Files
  infer_instance

/-- How many entries of a tag are filed. -/
def filed (tag : UInt32) (es : List Entry) : Nat :=
  es.foldl (fun n e => if e.desc.tagId = tag ∧ Files n e.desc then n + 1 else n) 0

/-- What a turn of `Acquire` does to the index. -/
def fileAt (m : OrdMap UInt32 (List Nat)) (d : DataDecriptor) (offset : Nat) :
    OrdMap UInt32 (List Nat) :=
  match m[d.tagId]? with
  | none => m.insertIfNew d.tagId [offset]
  | some offsets =>
    if offsets.length ≤ d.entryId.toNat then m.insert d.tagId (offsets ++ [offset]) else m

/-- `entry_offset += desc->data_size + kDataDescSize` in words of so many bits. -/
def nextOffset (bits offset : Nat) (d : DataDecriptor) : Nat :=
  (offset + (d.dataSize.toNat + kDataDescSize) % 2 ^ bits) % 2 ^ bits

/-- The loop of `Acquire` in words of so many bits, as far as it goes in so many turns: `none` is a loop
that goes on. -/
def acquireWalk (bits : Nat) (data : List UInt8) :
    Nat → Nat → OrdMap UInt32 (List Nat) → Option (Except Fault (OrdMap UInt32 (List Nat)))
  | 0, _, _ => none
  | turns + 1, offset, m =>
    if data.length ≤ offset then some (.ok m)
    else
      match descAt data offset with
      | none => some (.error .undefined)
      | some d => acquireWalk bits data turns (nextOffset bits offset d) (fileAt m d offset)

/-- What the index names lies inside the buffer, descriptor and payload. -/
def IndexInside (data : List UInt8) (m : OrdMap UInt32 (List Nat)) : Prop :=
  ∀ (tag : UInt32) (offsets : List Nat), m[tag]? = some offsets → ∀ offset ∈ offsets,
    ∃ d, descAt data offset = some d ∧ offset + kDataDescSize + d.dataSize.toNat ≤ data.length

/-- `Acquire` ends, reads no byte outside the buffer, and what it files lies inside. -/
def AcquiresWithin (b : Blob bits) : Prop :=
  ∃ turns m, acquireWalk bits b.data turns 0 ∅ = some (.ok m) ∧ IndexInside b.data m

/-- From an offset on the bytes are whole entries, after those of `pre`. One that is not filed may be cut
short: the bytes have to be whole entries again from where its size leads, which is the end unless the sum
does not fit in a word. -/
inductive Intact (bits : Nat) (data : List UInt8) : List Entry → Nat → Prop where
  | done {pre : List Entry} {offset : Nat} (hend : data.length ≤ offset) : Intact bits data pre offset
  | entry {pre : List Entry} {offset : Nat} {e : Entry} {rest : List UInt8}
      (hbytes : data.drop offset = e.bytes ++ rest)
      (hrest : Intact bits data (pre ++ [e]) (offset + e.bytes.length)) : Intact bits data pre offset
  | cut {pre : List Entry} {offset : Nat} {d : DataDecriptor} {rest : List UInt8}
      (hbytes : data.drop offset = d.encode ++ rest) (hshort : rest.length < d.dataSize.toNat)
      (hunfiled : ¬ Files (filed d.tagId pre) d)
      (hnext : Intact bits data pre (nextOffset bits offset d)) : Intact bits data pre offset

/-- Where no sum leaves the word: only the last entry may be cut short. -/
def WholeEntries (data : List UInt8) : Prop :=
  ∃ es tail, data = bytesOf es ++ tail ∧
    (tail = [] ∨ ∃ d rest, tail = d.encode ++ rest ∧ rest.length < d.dataSize.toNat ∧
      ¬ Files (filed d.tagId es) d)

/-! ### One turn of the walk -/

theorem acquireWalk_end (h : data.length ≤ offset) :
    acquireWalk bits data (turns + 1) offset m = some (.ok m) := by
  rw [acquireWalk, if_pos h]

theorem acquireWalk_turn (h : offset < data.length) (hd : descAt data offset = some d) :
    acquireWalk bits data (turns + 1) offset m =
      acquireWalk bits data turns (nextOffset bits offset d) (fileAt m d offset) := by
  rw [acquireWalk, if_neg (Nat.not_le.mpr h), hd]

theorem acquireWalk_cut (h : offset < data.length) (hd : descAt data offset = none) :
    acquireWalk bits data (turns + 1) offset m = some (.error .undefined) := by
  rw [acquireWalk, if_neg (Nat.not_le.mpr h), hd]

theorem descAt_eq_some (h : descAt data offset = some d) :
    ∃ rest, data.drop offset = d.encode ++ rest := by
  simp only [descAt, Option.bind_eq_bind, Option.bind_eq_some_iff, Option.pure_def] at h
  obtain ⟨tagId, htag, entryId, hentry, dataSize, hsize, hd⟩ := h
  obtain rfl := Option.some.inj hd
  obtain ⟨rest, hrest⟩ := eq_encodeU32_of_decodeU32 htag
  rw [hrest] at hentry hsize
  obtain ⟨rest', hrest'⟩ := eq_encodeU32_of_decodeU32 hentry
  have hrest₁ : rest = encodeU32 entryId ++ rest' := hrest'
  rw [hrest₁] at hsize
  obtain ⟨rest'', hrest''⟩ := eq_encodeU32_of_decodeU32 hsize
  have hrest₂ : rest' = encodeU32 dataSize ++ rest'' := hrest''
  exact ⟨rest'', by rw [hrest, hrest₁, hrest₂]; rfl⟩

theorem descAt_end (h : descAt data offset = some d) : offset + kDataDescSize ≤ data.length := by
  obtain ⟨rest, hrest⟩ := descAt_eq_some h
  have hlen := congrArg List.length hrest
  rw [List.length_drop, List.length_append, DataDecriptor.length_encode] at hlen
  rw [kDataDescSize] at hlen ⊢
  omega

theorem descAt_of_drop (h : data.drop offset = d.encode ++ rest) : descAt data offset = some d := by
  by_cases hlt : offset ≤ data.length
  · have hsplit : data = data.take offset ++ (d.encode ++ rest) := by
      rw [← h, List.take_append_drop]
    rw [hsplit]
    exact descAt_append (by simp [hlt])
  · rw [List.drop_eq_nil_of_le (by omega)] at h
    have hlen := congrArg List.length h
    rw [List.length_append, DataDecriptor.length_encode] at hlen
    rw [List.length_nil, kDataDescSize] at hlen
    omega

theorem length_of_drop_desc (h : data.drop offset = d.encode ++ rest) :
    offset + 12 + rest.length = data.length := by
  have hlen := congrArg List.length h
  rw [List.length_drop, List.length_append, DataDecriptor.length_encode, kDataDescSize] at hlen
  omega

/-- A sum that fits in the word is the sum. -/
theorem nextOffset_of_lt (h : offset + (d.dataSize.toNat + 12) < 2 ^ bits) :
    nextOffset bits offset d = offset + (d.dataSize.toNat + 12) := by
  have hsize : (d.dataSize.toNat + kDataDescSize) % 2 ^ bits = d.dataSize.toNat + 12 :=
    Nat.mod_eq_of_lt (by rw [kDataDescSize]; omega)
  rw [nextOffset, hsize, Nat.mod_eq_of_lt h]

/-! ### The index -/

theorem getElem?_fileAt : (fileAt m d offset)[tag]? =
    if d.tagId = tag ∧ Files (m[tag]?.getD []).length d then some (m[tag]?.getD [] ++ [offset])
    else m[tag]? := by
  unfold fileAt
  by_cases htag : d.tagId = tag
  · subst htag
    cases hm : m[d.tagId]? with
    | none =>
      dsimp only
      rw [OrdMap.getElem?_emplace, hm]
      simp [Files]
    | some offsets =>
      by_cases hle : offsets.length ≤ d.entryId.toNat
      · simp [hle, Files]
      · have hne : offsets ≠ [] := by
          rintro rfl
          simp at hle
        simp [hle, Files, hm, hne]
  · cases hm : m[d.tagId]? with
    | none => simp [OrdMap.getElem?_emplace, htag]
    | some offsets =>
      by_cases hle : offsets.length ≤ d.entryId.toNat
      · simp [hle, htag, Std.ExtTreeMap.getElem?_insert]
      · simp [hle, htag]

/-- The index has as many offsets of a tag as entries of it were filed. -/
def Counts (m : OrdMap UInt32 (List Nat)) (es : List Entry) : Prop :=
  ∀ tag : UInt32, (m[tag]?.getD []).length = filed tag es

theorem filed_append : filed tag (es ++ [e]) =
    if e.desc.tagId = tag ∧ Files (filed tag es) e.desc then filed tag es + 1 else filed tag es := by
  rw [filed, List.foldl_append]
  rfl

theorem counts_fileAt (h : Counts m es) : Counts (fileAt m e.desc offset) (es ++ [e]) := by
  intro tag
  rw [getElem?_fileAt, filed_append, h tag]
  split
  · simp [h tag]
  · exact h tag

theorem indexInside_fileAt (h : IndexInside data m) (hd : descAt data offset = some d)
    (hend : offset + kDataDescSize + d.dataSize.toNat ≤ data.length) :
    IndexInside data (fileAt m d offset) := by
  intro tag offsets hm o ho
  rw [getElem?_fileAt] at hm
  split at hm
  · obtain rfl := Option.some.inj hm
    rcases List.mem_append.mp ho with hold | hnew
    · cases hm : m[tag]? with
      | none => simp [hm] at hold
      | some offsets => exact h tag offsets hm o (by simpa [hm] using hold)
    · obtain rfl := List.mem_singleton.mp hnew
      exact ⟨d, hd, hend⟩
  · exact h tag offsets hm o ho

/-- What is in the index stays there to the end of the walk. -/
def Grows (m m' : OrdMap UInt32 (List Nat)) : Prop :=
  ∀ tag : UInt32, ∀ offset ∈ m[tag]?.getD [], offset ∈ m'[tag]?.getD []

theorem grows_fileAt : Grows m (fileAt m d offset) := by
  intro tag o ho
  rw [getElem?_fileAt]
  split
  · simp [ho]
  · exact ho

theorem grows_acquireWalk (h : acquireWalk bits data turns offset m = some (.ok m')) :
    Grows m m' := by
  induction turns generalizing offset m with
  | zero => cases h
  | succ turns ih =>
    by_cases hend : data.length ≤ offset
    · rw [acquireWalk_end hend] at h
      obtain rfl := Except.ok.inj (Option.some.inj h)
      exact fun _ _ ho => ho
    · have hlt : offset < data.length := Nat.not_le.mp hend
      cases hd : descAt data offset with
      | none =>
        rw [acquireWalk_cut hlt hd] at h
        cases h
      | some d =>
        rw [acquireWalk_turn hlt hd] at h
        intro tag o ho
        exact ih h tag o (grows_fileAt tag o ho)

/-- An entry that is filed is in the index to the end. -/
theorem mem_of_files (hm : Counts m pre) (hfiles : Files (filed d.tagId pre) d)
    (h : acquireWalk bits data turns (nextOffset bits offset d) (fileAt m d offset) = some (.ok m')) :
    ∃ offsets, m'[d.tagId]? = some offsets ∧ offset ∈ offsets := by
  have hfiled : offset ∈ (fileAt m d offset)[d.tagId]?.getD [] := by
    rw [getElem?_fileAt, if_pos ⟨rfl, by rw [hm]; exact hfiles⟩]
    simp
  have hkept := grows_acquireWalk h d.tagId _ hfiled
  cases hidx : m'[d.tagId]? with
  | none => simp [hidx] at hkept
  | some offsets => exact ⟨offsets, rfl, by simpa [hidx] using hkept⟩

/-- An entry that is not filed leaves the index as it is. -/
theorem fileAt_of_unfiled (hm : Counts m pre) (hunfiled : ¬ Files (filed d.tagId pre) d) :
    fileAt m d offset = m := by
  apply Std.ExtTreeMap.ext_getElem?
  intro tag
  rw [getElem?_fileAt, if_neg]
  rintro ⟨rfl, hfiles⟩
  rw [hm] at hfiles
  exact hunfiled hfiles

/-! ### Whole entries -/

theorem length_entryBytes : e.bytes.length = e.desc.dataSize.toNat + 12 := by
  rw [Entry.bytes, List.length_append, DataDecriptor.length_encode, e.length_data, kDataDescSize,
    Nat.add_comm]

theorem counts_empty : Counts ∅ [] := by
  intro tag
  simp [filed]

theorem indexInside_empty : IndexInside data ∅ := by
  intro tag offsets h
  simp at h

theorem drop_entry (hbytes : data.drop offset = e.bytes ++ rest) :
    data.drop offset = e.desc.encode ++ (e.data ++ rest) := by
  rw [hbytes, Entry.bytes, List.append_assoc]

theorem length_of_drop_entry (hbytes : data.drop offset = e.bytes ++ rest) :
    offset + e.bytes.length + rest.length = data.length := by
  have hlen := length_of_drop_desc (drop_entry hbytes)
  rw [List.length_append, e.length_data] at hlen
  rw [length_entryBytes]
  omega

/-- The offset after a whole entry fits in the word. -/
theorem nextOffset_entry (hsize : data.length < 2 ^ bits) (hbytes : data.drop offset = e.bytes ++ rest) :
    nextOffset bits offset e.desc = offset + e.bytes.length := by
  have hlen := length_of_drop_entry hbytes
  rw [length_entryBytes] at hlen ⊢
  exact nextOffset_of_lt (by omega)

/-- The walk over such bytes ends, and stays inside; the induction is on why they are such. -/
theorem acquireWalk_of_intact (hsize : data.length < 2 ^ bits) (h : Intact bits data pre offset)
    (hm : Counts m pre) (hin : IndexInside data m) :
    ∃ turns m', acquireWalk bits data turns offset m = some (.ok m') ∧ IndexInside data m' := by
  induction h generalizing m with
  | done hend => exact ⟨1, m, acquireWalk_end hend, hin⟩
  | @entry pre offset e rest hbytes _ ih =>
    have hlen := length_of_drop_entry hbytes
    have hbytes_len := length_entryBytes (e := e)
    have hdesc := descAt_of_drop (drop_entry hbytes)
    have hend : offset + kDataDescSize + e.desc.dataSize.toNat ≤ data.length := by
      rw [kDataDescSize]
      omega
    obtain ⟨turns, m', hwalk, hinside⟩ := ih (counts_fileAt hm) (indexInside_fileAt hin hdesc hend)
    refine ⟨turns + 1, m', ?_, hinside⟩
    rw [acquireWalk_turn (by omega) hdesc, nextOffset_entry hsize hbytes, hwalk]
  | @cut pre offset d rest hbytes _ hunfiled _ ih =>
    have hlen := length_of_drop_desc hbytes
    obtain ⟨turns, m', hwalk, hinside⟩ := ih hm hin
    refine ⟨turns + 1, m', ?_, hinside⟩
    rw [acquireWalk_turn (by omega) (descAt_of_drop hbytes), fileAt_of_unfiled hm hunfiled, hwalk]

/-- From wherever it is, a walk that ends and stays inside goes over such bytes. -/
theorem intact_of_acquireWalk (hsize : data.length < 2 ^ bits) (hm : Counts m pre)
    (hwalk : acquireWalk bits data turns offset m = some (.ok m')) (hin : IndexInside data m') :
    Intact bits data pre offset := by
  induction turns generalizing pre offset m with
  | zero => cases hwalk
  | succ turns ih =>
    by_cases hend : data.length ≤ offset
    · exact .done hend
    · have hlt : offset < data.length := Nat.not_le.mp hend
      cases hd : descAt data offset with
      | none =>
        rw [acquireWalk_cut hlt hd] at hwalk
        cases hwalk
      | some d =>
        obtain ⟨rest, hrest⟩ := descAt_eq_some hd
        rw [acquireWalk_turn hlt hd] at hwalk
        have hlen := length_of_drop_desc hrest
        by_cases hshort : rest.length < d.dataSize.toNat
        · have hunfiled : ¬ Files (filed d.tagId pre) d := by
            intro hfiles
            obtain ⟨offsets, hidx, hmem⟩ := mem_of_files hm hfiles hwalk
            obtain ⟨d', hd', hwhole⟩ := hin d.tagId offsets hidx offset hmem
            obtain rfl := Option.some.inj (hd.symm.trans hd')
            rw [kDataDescSize] at hwhole
            omega
          rw [fileAt_of_unfiled hm hunfiled] at hwalk
          exact .cut hrest hshort hunfiled (ih hm hwalk)
        · have hfits : d.dataSize.toNat ≤ rest.length := Nat.not_lt.mp hshort
          let e : Entry := ⟨d, rest.take d.dataSize.toNat, by simp [hfits]⟩
          have hbytes : data.drop offset = e.bytes ++ rest.drop d.dataSize.toNat := by
            rw [hrest, Entry.bytes, List.append_assoc, List.take_append_drop]
          have hnext : nextOffset bits offset d = offset + e.bytes.length :=
            nextOffset_entry (e := e) hsize hbytes
          rw [hnext] at hwalk
          exact .entry hbytes (ih (counts_fileAt (e := e) hm) hwalk)

/-! ### Words that hold every sum -/

theorem bytesOf_append {es' : List Entry} : bytesOf (es ++ es') = bytesOf es ++ bytesOf es' := by
  simp [bytesOf]

theorem bytesOf_singleton : bytesOf [e] = e.bytes := by
  simp [bytesOf]

theorem intact_of_entries (hdata : data = bytesOf (pre ++ es) ++ tail)
    (hrest : Intact bits data (pre ++ es) (bytesOf (pre ++ es)).length) :
    Intact bits data pre (bytesOf pre).length := by
  induction es generalizing pre with
  | nil => simpa using hrest
  | cons e es ih =>
    have hsame : pre ++ e :: es = (pre ++ [e]) ++ es := by simp
    rw [hsame] at hdata hrest
    have hnext := ih hdata hrest
    rw [bytesOf_append, bytesOf_singleton, List.length_append] at hnext
    have hhere : data.drop (bytesOf pre).length = e.bytes ++ (bytesOf es ++ tail) := by
      rw [hdata, bytesOf_append, bytesOf_append, bytesOf_singleton]
      simp
    exact .entry hhere hnext

theorem wholeEntries_of_intact (h : Intact bits data pre offset) (hdata : data = bytesOf pre ++ data.drop offset)
    (hoffset : offset = (bytesOf pre).length) : WholeEntries data := by
  induction h with
  | @done pre offset hend => exact ⟨pre, _, hdata, .inl (List.drop_eq_nil_of_le hend)⟩
  | @entry pre offset e rest hbytes _ ih =>
    have hlen : (bytesOf (pre ++ [e])).length = offset + e.bytes.length := by
      rw [bytesOf_append, bytesOf_singleton, List.length_append, hoffset]
    refine ih ?_ hlen.symm
    have hafter : data.drop (offset + e.bytes.length) = rest := by
      rw [← List.drop_drop, hbytes, List.drop_left]
    rw [hafter, bytesOf_append, bytesOf_singleton, List.append_assoc, ← hbytes]
    exact hdata
  | @cut pre offset d rest hbytes hshort hunfiled _ _ =>
    exact ⟨pre, _, hdata, .inr ⟨d, rest, hbytes, hshort, hunfiled⟩⟩

theorem intact_of_wholeEntries (hroom : data.length + 2 ^ 32 + kDataDescSize ≤ 2 ^ bits)
    (h : WholeEntries data) : Intact bits data [] 0 := by
  obtain ⟨es, tail, hdata, htail⟩ := h
  refine intact_of_entries hdata ?_
  rw [List.nil_append]
  have hdrop : data.drop (bytesOf es).length = tail := by rw [hdata, List.drop_left]
  obtain rfl | ⟨d, rest, rfl, hshort, hunfiled⟩ := htail
  · exact .done (by simp [hdata])
  · refine .cut hdrop hshort hunfiled (.done ?_)
    have hlen := length_of_drop_desc hdrop
    have hsize := d.dataSize.toNat_lt
    rw [kDataDescSize] at hroom
    rw [nextOffset_of_lt (by omega)]
    omega

/-- In such words the loop is the one with plain numbers. -/
theorem acquireWalk_of_room (hroom : data.length + 2 ^ 32 + kDataDescSize ≤ 2 ^ bits)
    (hturns : data.length - offset ≤ turns) :
    acquireWalk bits data (turns + 1) offset m = some (acquireLoop data turns offset m) := by
  induction turns generalizing offset m with
  | zero => rw [acquireWalk_end (by omega), acquireLoop]
  | succ turns ih =>
    by_cases hend : data.length ≤ offset
    · rw [acquireWalk_end hend, acquireLoop, if_pos hend]
    · have hlt : offset < data.length := Nat.not_le.mp hend
      cases hd : descAt data offset with
      | none =>
        rw [acquireWalk_cut hlt hd, acquireLoop, if_neg hend, hd]
        rfl
      | some d =>
        have hsize := d.dataSize.toNat_lt
        rw [kDataDescSize] at hroom
        rw [acquireWalk_turn hlt hd, nextOffset_of_lt (by omega), ih (by omega), acquireLoop,
          if_neg hend, hd]
        rfl

theorem acquire_eq_acquireWalk (hroom : data.length + 2 ^ 32 + kDataDescSize ≤ 2 ^ bits) :
    acquireWalk bits data (data.length + 1) 0 ∅ =
      some ((acquire {} data).map fun r => r.2.dataMap) := by
  rw [acquireWalk_of_room hroom (Nat.sub_le _ _), acquire]
  cases acquireLoop data data.length 0 ∅ <;> rfl

/-! ### Acquire -/

/-- `Acquire` ends and stays inside the bytes exactly when they are whole entries, in words of any
width; where the sums fit, as in 64 bits, only the last entry may be cut short. -/
theorem acquire_untrusted (b : Blob bits) : (AcquiresWithin b ↔ Intact bits b.data [] 0) ∧
    (b.data.length + 2 ^ 32 + kDataDescSize ≤ 2 ^ bits →
      (AcquiresWithin b ↔ WholeEntries b.data)) := by
  have hiff : AcquiresWithin b ↔ Intact bits b.data [] 0 :=
    ⟨fun ⟨_, _, hwalk, hin⟩ => intact_of_acquireWalk b.length_lt counts_empty hwalk hin,
      fun h => acquireWalk_of_intact b.length_lt h counts_empty indexInside_empty⟩
  refine ⟨hiff, fun hroom => hiff.trans ⟨fun h => ?_, intact_of_wholeEntries hroom⟩⟩
  exact wholeEntries_of_intact h (by simp [bytesOf]) rfl

/-- Two entries of one tag and number: the second is not filed, and its size leads back to itself. -/
def selfLoop : Blob 32 where
  data := encodeU32 1 ++ (encodeU32 0 ++ (encodeU32 0 ++
    (encodeU32 1 ++ (encodeU32 0 ++ encodeU32 (0 - 12)))))
  length_lt := by decide

theorem acquireWalk_selfLoop (h : m[(1 : UInt32)]? = some [0]) :
    acquireWalk 32 selfLoop.data turns 12 m = none := by
  induction turns with
  | zero => rfl
  | succ turns ih =>
    have hdesc : descAt selfLoop.data 12 = some ⟨1, 0, 0 - 12⟩ := by decide
    have hsame : fileAt m ⟨1, 0, 0 - 12⟩ 12 = m := by simp [fileAt, h]
    rw [acquireWalk_turn (by decide) hdesc, hsame]
    exact ih

/-- One byte is not a descriptor, and in 32 bits the loop need not end. -/
theorem acquire_reads_past_end : ¬ AcquiresWithin (⟨[1], by decide⟩ : Blob 64) ∧
    ¬ AcquiresWithin (⟨[1], by decide⟩ : Blob 32) ∧ ¬ AcquiresWithin selfLoop := by
  refine ⟨?_, ?_, ?_⟩
  · rintro ⟨turns, m, hwalk, -⟩
    cases turns with
    | zero => cases hwalk
    | succ turns =>
      rw [acquireWalk_cut (by decide) (by decide)] at hwalk
      cases hwalk
  · rintro ⟨turns, m, hwalk, -⟩
    cases turns with
    | zero => cases hwalk
    | succ turns =>
      rw [acquireWalk_cut (by decide) (by decide)] at hwalk
      cases hwalk
  · rintro ⟨turns, m, hwalk, -⟩
    cases turns with
    | zero => cases hwalk
    | succ turns =>
      have hdesc : descAt selfLoop.data 0 = some ⟨1, 0, 0⟩ := by decide
      rw [acquireWalk_turn (by decide) hdesc] at hwalk
      have hnone : acquireWalk 32 selfLoop.data turns 12 (fileAt ∅ ⟨1, 0, 0⟩ 0) = none := by
        refine acquireWalk_selfLoop ?_
        rw [getElem?_fileAt]
        simp [Files]
      exact absurd (hnone.symm.trans hwalk) (by simp)

/-! ### Fetch -/

/-- The entry is there, at this offset, with a payload of at least `n` bytes. -/
def StoredAt (c : ExtraParam) (tag entry : UInt32) (n offset : Nat) : Prop :=
  ∃ offsets d, c.dataMap[tag]? = some offsets ∧ offsets[entry.toNat]? = some offset ∧
    descAt c.dataBuffer offset = some d ∧ n ≤ d.dataSize.toNat

/-- `Fetch` returns 0 only for an entry that is large enough; otherwise it returns a negative number
and copies nothing. -/
def FailsClosed (ty : TagTypes) (c : ExtraParam) (tag dest entry : UInt32) : Prop :=
  (∃ bytes, c.fetch ty tag dest entry = .ok (0, some bytes) ∧
    ∃ offset, c.StoredAt tag entry (ty.size dest) offset) ∨
  ∃ ret, ret < 0 ∧ c.fetch ty tag dest entry = .ok (ret, none)

/-- The value is of another tag, or the tag is not there at all, or the entry is there, large enough
and inside the buffer. -/
def FetchAllowed (ty : TagTypes) (c : ExtraParam) (tag dest entry : UInt32) : Prop :=
  dest ≠ tag ∨ tag ∉ c.dataMap ∨ ∃ offset, c.StoredAt tag entry (ty.size dest) offset ∧
    offset + kDataDescSize + ty.size dest ≤ c.dataBuffer.length

theorem StoredAt.offset_eq {entry : UInt32} {offsets : List Nat} (h : c.StoredAt tag entry n offset)
    (hm : c.dataMap[tag]? = some offsets) : offsets[entry.toNat]? = some offset := by
  obtain ⟨offsets', d, hm', ho, -⟩ := h
  obtain rfl := Option.some.inj (hm.symm.trans hm')
  exact ho

/-- Of every container, and so of one that `Acquire` made of any bytes. -/
theorem fetch_closed_iff (ty : TagTypes) (c : ExtraParam) (tag dest entry : UInt32) :
    FailsClosed ty c tag dest entry ↔ FetchAllowed ty c tag dest entry := by
  by_cases hdest : dest = tag
  · subst hdest
    cases hm : c.dataMap[dest]? with
    | none =>
      have hmem : dest ∉ c.dataMap := by
        rw [Std.ExtTreeMap.mem_iff_isSome_getElem?, hm]
        simp
      refine iff_of_true (.inr ⟨ENOENT, by decide, ?_⟩) (.inr (.inl hmem))
      simp [fetch, hm]
    | some offsets =>
      have hmem : dest ∈ c.dataMap := by
        rw [Std.ExtTreeMap.mem_iff_isSome_getElem?, hm]
        rfl
      have hallowed : FetchAllowed ty c dest dest entry ↔ ∃ offset,
          c.StoredAt dest entry (ty.size dest) offset ∧
            offset + kDataDescSize + ty.size dest ≤ c.dataBuffer.length := by
        unfold FetchAllowed
        rw [or_iff_right (not_not_intro rfl), or_iff_right (not_not_intro hmem)]
      rw [hallowed]
      cases ho : offsets[entry.toNat]? with
      | none =>
        -- `vector::at` throws.
        have hfetch : c.fetch ty dest dest entry = .error .outOfRange := by simp [fetch, hm, ho]
        constructor
        · rintro (⟨bytes, hbytes, -⟩ | ⟨ret, -, hret⟩)
          · rw [hfetch] at hbytes
            cases hbytes
          · rw [hfetch] at hret
            cases hret
        · rintro ⟨offset, hstored, -⟩
          rw [hstored.offset_eq hm] at ho
          cases ho
      | some offset =>
        have hlen : ((c.dataBuffer.drop (offset + kDataDescSize)).take (ty.size dest)).length =
            min (ty.size dest) (c.dataBuffer.length - (offset + kDataDescSize)) := by
          rw [List.length_take, List.length_drop]
        constructor
        · rintro (⟨bytes, hbytes, offset', hstored⟩ | ⟨ret, hneg, hret⟩)
          · obtain rfl := Option.some.inj (ho.symm.trans (hstored.offset_eq hm))
            refine ⟨offset, hstored, ?_⟩
            simp only [fetch, ne_eq, not_true_eq_false, if_false, hm, ho] at hbytes
            split at hbytes
            next hfull =>
              obtain ⟨-, d, -, -, hd, -⟩ := hstored
              have hend := descAt_end hd
              omega
            next => cases hbytes
          · simp only [fetch, ne_eq, not_true_eq_false, if_false, hm, ho] at hret
            split at hret <;> cases hret
        · rintro ⟨offset', hstored, hinside⟩
          obtain rfl := Option.some.inj (ho.symm.trans (hstored.offset_eq hm))
          refine .inl ⟨(c.dataBuffer.drop (offset + kDataDescSize)).take (ty.size dest), ?_, offset,
            hstored⟩
          simp only [fetch, ne_eq, not_true_eq_false, if_false, hm, ho]
          rw [if_pos (by omega)]
  · exact iff_of_true (.inr ⟨EINVAL, by decide, by simp [fetch, hdest]⟩) (.inl hdest)

/-- The entry of a tag 1 with a payload of four bytes. -/
def oneEntry : List UInt8 := encodeU32 1 ++ (encodeU32 0 ++ (encodeU32 4 ++ encodeU32 1))

/-- `vector::at` throws for the second of one entry. -/
theorem fetch_throws : ∃ (ty : TagTypes) (c : ExtraParam), acquire {} oneEntry = .ok (0, c) ∧
    ¬ FailsClosed ty c 1 1 1 := by
  let c : ExtraParam :=
    { dataMap := (∅ : OrdMap UInt32 (List Nat)).insertIfNew 1 [0], dataBuffer := oneEntry }
  refine ⟨⟨fun _ => 4, fun _ => by decide⟩, c, rfl, ?_⟩
  have hm : c.dataMap[(1 : UInt32)]? = some [0] := by
    change ((∅ : OrdMap UInt32 (List Nat)).insertIfNew 1 [0])[(1 : UInt32)]? = _
    rw [OrdMap.getElem?_emplace]
    simp
  have hfetch : c.fetch ⟨fun _ => 4, fun _ => by decide⟩ 1 1 1 = .error .outOfRange := by
    simp [fetch, hm]
  rintro (⟨bytes, hbytes, -⟩ | ⟨ret, -, hret⟩)
  · rw [hfetch] at hbytes
    cases hbytes
  · rw [hfetch] at hret
    cases hret

end QmmfSdk.ExtraParam
