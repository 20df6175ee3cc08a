import QmmfSdk.ExtraParam.Blocks

/-! The two walks over in-band descriptors, and the calls that make them. -/
namespace QmmfSdk

namespace ExtraParam

open Library Block

variable {ty : TagTypes} {c d : ExtraParam} {b : Block ty} {bs pre post : List (Block ty)}
  {tag entry : UInt32} {m : OrdMap UInt32 (List Nat)} {turns : Nat}

/-- The number of blocks of a tag. -/
def count (tag : UInt32) (bs : List (Block ty)) : Nat := ((layout ty).itemsOf tag bs).length

theorem count_append {cs : List (Block ty)} :
    count tag (bs ++ cs) = count tag bs + count tag cs := by
  simp [count]

theorem count_singleton : count tag [b] = if b.data.tagId = tag then 1 else 0 := by
  rw [count, Layout.itemsOf_cons]
  change (if b.data.tagId = tag then [b] else []).length = _
  split <;> rfl

theorem count_cons : count tag (b :: bs) = count tag [b] + count tag bs := by
  rw [← List.singleton_append, count_append]

/-- Every block carries its own position among the blocks of its tag. -/
def Numbered (bs : List (Block ty)) : Prop :=
  ∀ pre b post, bs = pre ++ b :: post → b.entryId.toNat = count b.data.tagId pre

/-- One turn of either walk reads the descriptor of the next block and moves to its end. -/
theorem walk_turn (hbs : bs = pre ++ b :: post)
    (ht : (encodeAll (b :: post)).length ≤ turns) :
    (∃ n, turns = n + 1 ∧ (encodeAll post).length ≤ n) ∧
      ¬ (encodeAll bs).length ≤ (encodeAll pre).length ∧
      descAt (encodeAll bs) (encodeAll pre).length = some b.desc ∧
      (encodeAll pre).length + (b.desc.dataSize.toNat + kDataDescSize) =
        (encodeAll (pre ++ [b])).length := by
  subst hbs
  simp only [encodeAll_append, encodeAll_cons, List.length_append, length_bytes, kDataDescSize,
    dataSize_desc, encodeAll_nil, List.length_nil] at ht ⊢
  refine ⟨⟨turns - 1, by omega, by omega⟩, by omega, ?_, by omega⟩
  rw [← encodeAll_cons, ← encodeAll_append]
  exact descAt_block rfl

/-! ### Acquire -/

/-- The walk of `Acquire` files each block as `Update` had filed it. -/
theorem acquireLoop_blocks (hn : Numbered bs) (hbs : bs = pre ++ post)
    (hm : ∀ t, m[t]? = indexOf pre t) (ht : (encodeAll post).length ≤ turns) :
    ∃ m', acquireLoop (encodeAll bs) turns (encodeAll pre).length m = .ok m' ∧
      ∀ t, m'[t]? = indexOf bs t := by
  induction post generalizing pre turns m with
  | nil =>
    obtain rfl : bs = pre := by simpa using hbs
    refine ⟨m, ?_, hm⟩
    cases turns <;> simp [acquireLoop]
  | cons b post ih =>
    obtain ⟨⟨n, rfl, hn'⟩, hlt, hdesc, hoff⟩ := walk_turn hbs ht
    have hid : b.desc.entryId.toNat = count b.data.tagId pre := hn pre b post hbs
    have hfiled : ∀ m' : OrdMap UInt32 (List Nat),
        (∀ t, m'[t]? = if b.data.tagId = t
          then some ((layout ty).offsetsOf b.data.tagId 0 pre ++ [(encodeAll pre).length])
          else m[t]?) → ∀ t, m'[t]? = indexOf (pre ++ [b]) t := by
      intro m' hm' t
      rw [hm', hm, indexOf_append_one]
      split
      · next ht => rw [ht]
      · rfl
    rw [acquireLoop, if_neg hlt, hdesc]
    simp only [orUndefined, bind, Except.bind, tagId_desc]
    rw [hoff]
    refine ih (by simp [hbs]) (hfiled _ fun t => ?_) hn'
    cases ho : m[b.data.tagId]? with
    | none =>
      have hnil : (layout ty).offsetsOf b.data.tagId 0 pre = [] := by
        rw [Layout.offsetsOf_eq_nil]
        by_contra hne
        simp [hm, indexOf, hne] at ho
      rw [OrdMap.getElem?_emplace, hnil]
      split
      · next ht => simp [← ht, ho]
      · rfl
    | some offsets =>
      obtain ⟨heq, -⟩ := indexOf_eq_some ((hm _).symm.trans ho)
      have hle : offsets.length ≤ b.desc.entryId.toNat := by simp [heq, hid, count]
      dsimp only
      rw [if_pos hle, Std.ExtTreeMap.getElem?_insert]
      simp [heq]

/-- Acquiring the buffer of numbered blocks gives the container that holds them. -/
theorem lays_acquire (hn : Numbered bs) :
    ∃ d, acquire {} (encodeAll bs) = .ok (0, d) ∧ Lays d bs := by
  have hempty : ∀ t, (∅ : OrdMap UInt32 (List Nat))[t]? = indexOf ([] : List (Block ty)) t := by
    simp [indexOf]
  obtain ⟨m, hm, hidx⟩ :=
    acquireLoop_blocks hn (List.nil_append bs).symm hempty (Nat.le_refl (encodeAll bs).length)
  refine ⟨{ dataMap := m, dataBuffer := encodeAll bs }, ?_, rfl, rfl, hidx⟩
  have hm : acquireLoop (encodeAll bs) (encodeAll bs).length 0 ∅ = .ok m := hm
  simp [acquire, hm, bind, Except.bind]

/-! ### Cutting the first block -/

variable {first : Block ty}

/-- Each block left after the first one carries its position in the whole list. -/
def NumberedAfter (first : Block ty) (bs : List (Block ty)) : Prop :=
  ∀ pre b post, bs = pre ++ b :: post → b.entryId.toNat = count b.data.tagId (first :: pre)

/-- The offsets of a tag after a walk over the blocks `pre`: a place for the block that was cut,
the new offsets, and the old ones that the walk has not reached. -/
def walked (first : Block ty) (pre : List (Block ty)) (tag : UInt32) (olds : List Nat) : List Nat :=
  olds.take (count tag [first]) ++ (layout ty).offsetsOf tag 0 pre ++
    olds.drop (count tag (first :: pre))

theorem count_last : count b.data.tagId (pre ++ [b]) = count b.data.tagId pre + 1 := by
  rw [count_append, count_singleton, if_pos rfl]

/-- The next block of the tag overwrites the first offset that the walk has not reached. -/
theorem walked_set {olds : List Nat} (h : count b.data.tagId (first :: pre) < olds.length) :
    (walked first pre b.data.tagId olds).set (count b.data.tagId (first :: pre))
      (encodeAll pre).length = walked first (pre ++ [b]) b.data.tagId olds := by
  have hsum : count b.data.tagId (first :: pre) =
      count b.data.tagId [first] + count b.data.tagId pre := count_cons
  have hlen : (olds.take (count b.data.tagId [first]) ++
      (layout ty).offsetsOf b.data.tagId 0 pre).length = count b.data.tagId (first :: pre) := by
    have hpre : ((layout ty).offsetsOf b.data.tagId 0 pre).length = count b.data.tagId pre := by
      simp [count]
    rw [List.length_append, List.length_take, hpre]
    omega
  have hoff : (layout ty).offsetsOf b.data.tagId 0 (pre ++ [b]) =
      (layout ty).offsetsOf b.data.tagId 0 pre ++ [(encodeAll pre).length] := by
    rw [Layout.offsetsOf_append, length_encodeAll, Nat.zero_add]
    simp [Layout.offsetsOf, layout]
  rw [walked, walked, hoff, ← List.cons_append, count_last, ← hlen, set_append_drop (hlen ▸ h)]
  simp

theorem length_walked {olds : List Nat} (h : count tag (first :: pre) ≤ olds.length) :
    (walked first pre tag olds).length = olds.length := by
  have hsum : count tag (first :: pre) = count tag [first] + count tag pre := count_cons
  have hpre : ((layout ty).offsetsOf tag 0 pre).length = count tag pre := by simp [count]
  simp only [walked, List.length_append, List.length_take, List.length_drop, hpre]
  omega

/-- A block of another tag changes nothing for this one. -/
theorem walked_other {olds : List Nat} (h : b.data.tagId ≠ tag) :
    walked first (pre ++ [b]) tag olds = walked first pre tag olds := by
  have hcount : count tag (first :: (pre ++ [b])) = count tag (first :: pre) := by
    rw [← List.cons_append, count_append, count_singleton, if_neg h, Nat.add_zero]
  have hoff : (layout ty).offsetsOf tag 0 (pre ++ [b]) = (layout ty).offsetsOf tag 0 pre := by
    have hk : (layout ty).key b ≠ tag := h
    simp [Layout.offsetsOf_append, Layout.offsetsOf, hk]
  rw [walked, walked, hcount, hoff]

/-- The walk of `ReorganizeDataMap` over what is left gives every block its new offset. -/
theorem reorganizeLoop_blocks (hn : NumberedAfter first bs) (hbs : bs = pre ++ post)
    (hm : ∀ t, m[t]? = (indexOf (first :: bs) t).map (walked first pre t))
    (ht : (encodeAll post).length ≤ turns) :
    ∃ m', reorganizeLoop (encodeAll bs) turns (encodeAll pre).length m = .ok (0, m') ∧
      ∀ t, m'[t]? = (indexOf (first :: bs) t).map (walked first bs t) := by
  induction post generalizing pre turns m with
  | nil =>
    obtain rfl : bs = pre := by simpa using hbs
    refine ⟨m, ?_, hm⟩
    cases turns <;> simp [reorganizeLoop]
  | cons b post ih =>
    obtain ⟨⟨n, rfl, hn'⟩, hlt, hdesc, hoff⟩ := walk_turn hbs ht
    have hid : b.desc.entryId.toNat = count b.data.tagId (first :: pre) := hn pre b post hbs
    -- the tag of the block has an entry in the index, long enough for its number
    have hitems : (layout ty).itemsOf b.data.tagId (first :: bs) ≠ [] := by
      intro hnil
      have hmem : b ∈ (layout ty).itemsOf b.data.tagId (first :: bs) := by
        simp [Layout.itemsOf, layout, hbs]
      simp [hnil] at hmem
    have hidx : indexOf (first :: bs) b.data.tagId =
        some ((layout ty).offsetsOf b.data.tagId 0 (first :: bs)) := if_neg hitems
    have hlen : count b.data.tagId (first :: pre) <
        ((layout ty).offsetsOf b.data.tagId 0 (first :: bs)).length := by
      have hall : count b.data.tagId (first :: bs) =
          count b.data.tagId (first :: pre) + (1 + count b.data.tagId post) := by
        have hpost : count b.data.tagId (b :: post) = 1 + count b.data.tagId post := by
          rw [count_cons, count_singleton, if_pos rfl]
        rw [hbs, ← List.cons_append, count_append, hpost]
      rw [Layout.length_offsetsOf]
      change _ < count b.data.tagId (first :: bs)
      omega
    have htag : m[b.data.tagId]? = some (walked first pre b.data.tagId
        ((layout ty).offsetsOf b.data.tagId 0 (first :: bs))) := by
      rw [hm, hidx]
      rfl
    rw [reorganizeLoop, if_neg hlt, hdesc]
    simp only [orUndefined, bind, Except.bind, tagId_desc, htag]
    rw [length_walked hlen.le, if_neg (by omega), hoff, hid, walked_set hlen]
    refine ih (by simp [hbs]) (fun t => ?_) hn'
    rw [Std.ExtTreeMap.getElem?_insert]
    by_cases htb : b.data.tagId = t
    · subst htb
      simp [hidx]
    · simp only [Std.compare_eq_iff_eq, htb, if_false, hm]
      cases indexOf (first :: bs) t with
      | none => rfl
      | some olds => simp [walked_other htb]

theorem eraseEntry_first (h : Lays c (first :: bs)) :
    eraseEntry c.dataBuffer 0 = .ok (encodeAll bs) := by
  have hdesc : descAt c.dataBuffer 0 = some first.desc := by
    rw [h.buffer, ← List.nil_append (first :: bs)]
    exact descAt_block rfl
  have hsize : (UInt32.ofNat (first.desc.dataSize.toNat + kDataDescSize)).toNat =
      first.bytes.length := by
    have hlt := ty.size_lt first.data.tagId
    rw [dataSize_desc, UInt32.toNat_ofNat', length_bytes, kDataDescSize]
    omega
  have hcut : eraseRange c.dataBuffer 0 first.bytes.length = some (encodeAll bs) := by
    rw [h.buffer, encodeAll_cons]
    exact eraseRange_append rfl
  rw [eraseEntry, hdesc]
  simp only [orUndefined, bind, Except.bind]
  rw [hsize, hcut]

/-- What the index says after the cut, before the place of the first block is dropped. -/
theorem reorganizeDataMap_first (hn : NumberedAfter first bs) (hb : c.dataBuffer = encodeAll bs)
    (hm : ∀ t, c.dataMap[t]? = indexOf (first :: bs) t) :
    ∃ m', c.reorganizeDataMap 0 = .ok (0, { c with dataMap := m' }) ∧
      ∀ t, m'[t]? = (indexOf (first :: bs) t).map fun olds =>
        olds.take (count t [first]) ++ (layout ty).offsetsOf t 0 bs := by
  have hstart : ∀ t, c.dataMap[t]? = (indexOf (first :: bs) t).map (walked first [] t) := by
    intro t
    rw [hm]
    cases indexOf (first :: bs) t with
    | none => rfl
    | some olds => simp [walked, Layout.offsetsOf]
  obtain ⟨m', hloop, hm'⟩ := reorganizeLoop_blocks hn (List.nil_append bs).symm hstart
    (Nat.le_refl (encodeAll bs).length)
  refine ⟨m', ?_, fun t => ?_⟩
  · have hloop : reorganizeLoop (encodeAll bs) (encodeAll bs).length 0 c.dataMap = .ok (0, m') :=
      hloop
    rw [reorganizeDataMap, hb, hloop]
    rfl
  · rw [hm' t]
    cases ho : indexOf (first :: bs) t with
    | none => rfl
    | some olds =>
      obtain ⟨rfl, -⟩ := indexOf_eq_some ho
      have hall : ((layout ty).offsetsOf t 0 (first :: bs)).length ≤ count t (first :: bs) := by
        simp [count]
      simp [walked, List.drop_of_length_le hall]

/-- The index of a tag that the first block does not have. -/
theorem indexOf_other (h : first.data.tagId ≠ tag) :
    ((indexOf (first :: bs) tag).map fun olds =>
      olds.take (count tag [first]) ++ (layout ty).offsetsOf tag 0 bs) = indexOf bs tag := by
  have hitems : (layout ty).itemsOf tag (first :: bs) = (layout ty).itemsOf tag bs := by
    rw [Layout.itemsOf_cons]
    exact if_neg h
  rw [count_singleton, if_neg h, indexOf, indexOf, hitems]
  split <;> simp

theorem indexOf_first : indexOf (first :: bs) first.data.tagId =
    some (0 :: (layout ty).offsetsOf first.data.tagId (first.bytes.length) bs) := by
  have hoff : (layout ty).offsetsOf first.data.tagId 0 (first :: bs) =
      0 :: (layout ty).offsetsOf first.data.tagId (first.bytes.length) bs := by
    simp [Layout.offsetsOf, layout]
  have hne : (layout ty).itemsOf first.data.tagId (first :: bs) ≠ [] := by
    simp [Layout.itemsOf, layout]
  rw [indexOf, if_neg hne, hoff]

/-- Removing the first block keeps the others, as long as its tag has another one. -/
theorem lays_remove (h : Lays c (first :: bs)) (hn : NumberedAfter first bs)
    (hmore : (layout ty).itemsOf first.data.tagId bs ≠ []) :
    ∃ d, c.remove first.data.tagId 0 = .ok (0, d) ∧ Lays d bs := by
  obtain ⟨m', hreorg, hm'⟩ := reorganizeDataMap_first (c := { c with dataBuffer := encodeAll bs })
    hn rfl h.index
  have htag : m'[first.data.tagId]? = some (0 :: (layout ty).offsetsOf first.data.tagId 0 bs) := by
    rw [hm', indexOf_first, count_singleton, if_pos rfl]
    rfl
  refine ⟨{ c with
    dataMap := m'.insert first.data.tagId ((layout ty).offsetsOf first.data.tagId 0 bs)
    dataBuffer := encodeAll bs }, ?_, h.unlocked, rfl, fun t => ?_⟩
  · rw [remove, if_neg (by simp [h.unlocked]), h.index, indexOf_first]
    simp only [UInt32.toNat_zero, List.getElem?_cons_zero, eraseEntry_first h, bind, Except.bind,
      hreorg, htag]
    rfl
  · change (m'.insert _ _)[t]? = _
    rw [Std.ExtTreeMap.getElem?_insert]
    by_cases ht : first.data.tagId = t
    · subst ht
      simp [indexOf, hmore]
    · simp only [Std.compare_eq_iff_eq, ht, if_false]
      rw [hm', indexOf_other ht]

/-- Erasing a tag whose only block is the first one keeps the others. -/
theorem lays_erase (h : Lays c (first :: bs)) (hn : NumberedAfter first bs)
    (honly : (layout ty).itemsOf first.data.tagId bs = []) :
    ∃ d, c.erase first.data.tagId = .ok (0, d) ∧ Lays d bs := by
  have hidx : c.dataMap[first.data.tagId]? = some [0] := by
    rw [h.index, indexOf_first, Layout.offsetsOf_eq_nil.mpr honly]
  have hsame : ∀ t, (c.dataMap.insert first.data.tagId [0])[t]? = indexOf (first :: bs) t := by
    intro t
    rw [Std.ExtTreeMap.getElem?_insert, ← h.index]
    by_cases ht : first.data.tagId = t
    · simp [← ht, hidx]
    · simp [ht]
  obtain ⟨m', hreorg, hm'⟩ := reorganizeDataMap_first (c := { c with
    dataMap := c.dataMap.insert first.data.tagId [0], dataBuffer := encodeAll bs }) hn rfl hsame
  refine ⟨{ c with dataMap := m'.erase first.data.tagId, dataBuffer := encodeAll bs }, ?_,
    h.unlocked, rfl, fun t => ?_⟩
  · rw [erase, if_neg (by simp [h.unlocked]), hidx]
    simp only [List.insertionSort_cons, List.insertionSort_nil, List.orderedInsert_nil,
      List.foldlM_cons, List.foldlM_nil, eraseEntry_first h, List.getLast?_singleton, orUndefined,
      bind, Except.bind, pure, Except.pure, hreorg]
    rfl
  · change (m'.erase _)[t]? = _
    rw [Std.ExtTreeMap.getElem?_erase]
    by_cases ht : first.data.tagId = t
    · subst ht
      simp [indexOf, honly]
    · simp only [Std.compare_eq_iff_eq, ht, if_false]
      rw [hm', indexOf_other ht]

end ExtraParam

end QmmfSdk
