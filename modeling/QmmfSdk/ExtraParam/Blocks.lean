import QmmfSdk.ExtraParam.Container
import QmmfSdk.Library.Layout
import QmmfSdk.Library.Fallible

/-! The buffer as a list of blocks, and what each call does to that list. -/
namespace QmmfSdk

open Library

variable {ty : TagTypes}

@[simp] theorem Payload.length_image {p : Payload ty} : p.image.length = ty.size p.tagId := by
  simp [image, p.length_members]

@[simp] theorem DataDecriptor.length_encode {d : DataDecriptor} :
    d.encode.length = kDataDescSize := by
  simp [encode, kDataDescSize]

theorem ExtraParam.descAt_append {pre post : List UInt8} {d : DataDecriptor} {off : Nat}
    (h : off = pre.length) : descAt (pre ++ (d.encode ++ post)) off = some d := by
  subst h
  have hentry : (d.encode ++ post).drop 4 = encodeU32 d.entryId ++ (encodeU32 d.dataSize ++ post) :=
    rfl
  have hsize : (d.encode ++ post).drop 8 = encodeU32 d.dataSize ++ post := rfl
  have htag : d.encode ++ post =
      encodeU32 d.tagId ++ (encodeU32 d.entryId ++ (encodeU32 d.dataSize ++ post)) := rfl
  simp only [descAt, List.drop_left, hentry, hsize]
  simp [htag]

/-- One entry of the buffer. Its entry number is the one written when it was added, and may no
longer be its position. -/
structure Block (ty : TagTypes) where
  entryId : UInt32
  data : Payload ty

namespace Block

variable {b : Block ty} {bs cs : List (Block ty)}

def desc (b : Block ty) : DataDecriptor :=
  ⟨b.data.tagId, b.entryId, UInt32.ofNat (ty.size b.data.tagId)⟩

def bytes (b : Block ty) : List UInt8 := b.desc.encode ++ b.data.image

def encodeAll (bs : List (Block ty)) : List UInt8 := bs.flatMap bytes

/-- Blocks are filed under their tag. -/
def layout (ty : TagTypes) : Layout (Block ty) UInt32 where
  key b := b.data.tagId
  size b := kDataDescSize + ty.size b.data.tagId

@[simp] theorem tagId_desc : b.desc.tagId = b.data.tagId := rfl

theorem dataSize_desc : b.desc.dataSize.toNat = ty.size b.data.tagId := by
  have h := ty.size_lt b.data.tagId
  simp only [desc, UInt32.toNat_ofNat']
  omega

@[simp] theorem length_bytes : b.bytes.length = kDataDescSize + ty.size b.data.tagId := by
  simp [bytes]

@[simp] theorem encodeAll_nil : encodeAll ([] : List (Block ty)) = [] := rfl

@[simp] theorem encodeAll_append : encodeAll (bs ++ cs) = encodeAll bs ++ encodeAll cs := by
  simp [encodeAll]

@[simp] theorem encodeAll_cons : encodeAll (b :: bs) = b.bytes ++ encodeAll bs := by
  simp [encodeAll]

theorem length_encodeAll : (encodeAll bs).length = (layout ty).extent bs := by
  induction bs with
  | nil => rfl
  | cons b bs ih => simp [ih, layout]

end Block

namespace ExtraParam

open Block

variable {c d : ExtraParam} {b : Block ty} {bs pre post : List (Block ty)} {tag entry : UInt32}
  {m : OrdMap UInt32 (List Nat)} {off i : Nat}

/-- What the index says of a tag: nothing at all when it has no block. -/
def indexOf (bs : List (Block ty)) (tag : UInt32) : Option (List Nat) :=
  if (layout ty).itemsOf tag bs = [] then none else some ((layout ty).offsetsOf tag 0 bs)

/-- The container holds exactly these blocks, in this order. -/
structure Lays (c : ExtraParam) (bs : List (Block ty)) : Prop where
  unlocked : c.locked = false
  buffer : c.dataBuffer = encodeAll bs
  index : ∀ tag, c.dataMap[tag]? = indexOf bs tag

theorem lays_empty : Lays {} ([] : List (Block ty)) :=
  ⟨rfl, rfl, fun tag => by simp [indexOf]⟩

/-- The blocks determine the container. -/
theorem Lays.eq (hc : Lays c bs) (hd : Lays d bs) : c = d := by
  obtain ⟨cl, cm, cb⟩ := c
  obtain ⟨dl, dm, db⟩ := d
  obtain rfl : cl = dl := hc.unlocked.trans hd.unlocked.symm
  obtain rfl : cb = db := hc.buffer.trans hd.buffer.symm
  obtain rfl : cm = dm := by
    apply Std.ExtTreeMap.ext_getElem?
    intro tag
    exact (hc.index tag).trans (hd.index tag).symm
  rfl

theorem indexOf_eq_some {offsets : List Nat} (h : indexOf bs tag = some offsets) :
    offsets = (layout ty).offsetsOf tag 0 bs ∧ (layout ty).itemsOf tag bs ≠ [] := by
  unfold indexOf at h
  split at h
  · simp at h
  · next hne => exact ⟨(Option.some.inj h).symm, hne⟩

/-- The block behind an offset of the index. -/
theorem Lays.block {offsets : List Nat} (h : Lays c bs) (hm : c.dataMap[tag]? = some offsets)
    (ho : offsets[i]? = some off) :
    ∃ pre b post, bs = pre ++ b :: post ∧ b.data.tagId = tag ∧ off = (encodeAll pre).length ∧
      ((layout ty).itemsOf tag pre).length = i := by
  obtain ⟨rfl, -⟩ := indexOf_eq_some ((h.index tag).symm.trans hm)
  obtain ⟨pre, b, post, rfl, hk, rfl, hi⟩ := Layout.offsetsOf_split ho
  exact ⟨pre, b, post, rfl, hk, by simp [length_encodeAll], hi⟩

theorem descAt_block (h : off = (encodeAll pre).length) :
    descAt (encodeAll (pre ++ b :: post)) off = some b.desc := by
  rw [encodeAll_append, encodeAll_cons, bytes, List.append_assoc]
  exact descAt_append h

/-! ### Update -/

theorem copyData_eq {image buffer : List UInt8}
    (h : overwrite c.dataBuffer (off + kDataDescSize) image = some buffer) :
    c.copyData off image = .ok (0, { c with dataBuffer := buffer }) := by
  rw [copyData, h]
  rfl

/-- A copy over an existing entry changes its payload and nothing else. -/
theorem lays_copyData {p : Payload ty} (h : Lays c (pre ++ b :: post))
    (hp : p.tagId = b.data.tagId) (ho : off = (encodeAll pre).length) :
    ∃ d, c.copyData off p.image = .ok (0, d) ∧
      Lays d (pre ++ ⟨b.entryId, p⟩ :: post) := by
  have hbuf : c.dataBuffer =
      (encodeAll pre ++ b.desc.encode) ++ (b.data.image ++ encodeAll post) := by
    rw [h.buffer]
    simp [bytes, List.append_assoc]
  have hwrite : overwrite c.dataBuffer (off + kDataDescSize) p.image =
      some ((encodeAll pre ++ b.desc.encode) ++ (p.image ++ encodeAll post)) := by
    rw [hbuf]
    exact overwrite_append (by simp [ho]) (by simp [hp])
  refine ⟨_, copyData_eq hwrite, h.unlocked, ?_, fun tag => ?_⟩
  · simp [bytes, desc, hp, List.append_assoc]
  · have hkey : (layout ty).key ⟨b.entryId, p⟩ = (layout ty).key b := hp
    have hsize : (layout ty).size ⟨b.entryId, p⟩ = (layout ty).size b := by
      simp [layout, hp]
    have hoff := @Layout.offsetsOf_replace _ _ (layout ty) tag _ _ pre post 0 _ hkey hsize
    have hitems : (layout ty).itemsOf tag (pre ++ ⟨b.entryId, p⟩ :: post) = [] ↔
        (layout ty).itemsOf tag (pre ++ b :: post) = [] := by
      rw [← Layout.offsetsOf_eq_nil, hoff, Layout.offsetsOf_eq_nil]
    change c.dataMap[tag]? = _
    rw [h.index tag, indexOf, indexOf, hoff]
    simp only [hitems]

/-- A new entry goes to the end of the buffer. -/
theorem lays_addEntry {p : Payload ty} (h : Lays c bs)
    (hm : ∀ t, m[t]? = indexOf (bs ++ [⟨entry, p⟩]) t) :
    ∃ d, (do
        let c' ← addEntry { c with dataMap := m } ⟨p.tagId, entry, UInt32.ofNat p.image.length⟩
        c'.copyData c.dataBuffer.length p.image) = .ok (0, d) ∧
      Lays d (bs ++ [⟨entry, p⟩]) := by
  let b : Block ty := ⟨entry, p⟩
  have hdesc : (⟨p.tagId, entry, UInt32.ofNat p.image.length⟩ : DataDecriptor) = b.desc := by
    simp [b, desc]
  have hzeros : List.replicate (UInt32.ofNat (kDataDescSize + b.desc.dataSize.toNat)).toNat
      (0 : UInt8) = List.replicate kDataDescSize 0 ++ (List.replicate p.image.length 0 ++ []) := by
    have hlt := ty.size_lt p.tagId
    have hroom : (UInt32.ofNat (kDataDescSize + b.desc.dataSize.toNat)).toNat =
        kDataDescSize + p.image.length := by
      rw [dataSize_desc, UInt32.toNat_ofNat', Payload.length_image, kDataDescSize]
      change (12 + ty.size p.tagId) % _ = _
      omega
    rw [hroom, List.append_nil, List.replicate_append_replicate]
  have hfirst : overwrite (c.dataBuffer ++ (List.replicate kDataDescSize 0 ++
      (List.replicate p.image.length 0 ++ []))) c.dataBuffer.length b.desc.encode =
      some (c.dataBuffer ++ (b.desc.encode ++ (List.replicate p.image.length 0 ++ []))) :=
    overwrite_append rfl (by simp)
  have hsecond : overwrite (c.dataBuffer ++ (b.desc.encode ++
      (List.replicate p.image.length 0 ++ []))) (c.dataBuffer.length + kDataDescSize) p.image =
      some ((c.dataBuffer ++ b.desc.encode) ++ (p.image ++ [])) := by
    rw [← List.append_assoc c.dataBuffer]
    exact overwrite_append (by simp) (by simp)
  let c' : ExtraParam := { c with
    dataMap := m
    dataBuffer := c.dataBuffer ++ (b.desc.encode ++ (List.replicate p.image.length 0 ++ [])) }
  have hcopy : c'.copyData c.dataBuffer.length p.image = _ := copyData_eq hsecond
  refine ⟨{ c' with dataBuffer := (c.dataBuffer ++ b.desc.encode) ++ (p.image ++ []) }, ?_,
    h.unlocked, ?_, hm⟩
  · rw [hdesc, addEntry, hzeros]
    dsimp only
    rw [hfirst]
    exact hcopy
  · simp [h.buffer, bytes, b, List.append_assoc]

theorem indexOf_append_one {p : Payload ty} :
    indexOf (bs ++ [⟨entry, p⟩]) tag =
      if p.tagId = tag then some ((layout ty).offsetsOf tag 0 bs ++ [(encodeAll bs).length])
      else indexOf bs tag := by
  have hoff : (layout ty).offsetsOf tag 0 (bs ++ [⟨entry, p⟩]) =
      if p.tagId = tag then (layout ty).offsetsOf tag 0 bs ++ [(encodeAll bs).length]
      else (layout ty).offsetsOf tag 0 bs := by
    rw [Layout.offsetsOf_append, length_encodeAll, Nat.zero_add]
    change _ ++ (if p.tagId = tag then [_] else []) = _
    split <;> simp
  have hitems : (layout ty).itemsOf tag (bs ++ [⟨entry, p⟩]) =
      if p.tagId = tag then (layout ty).itemsOf tag bs ++ [⟨entry, p⟩]
      else (layout ty).itemsOf tag bs := by
    rw [Layout.itemsOf_append, Layout.itemsOf_cons]
    change _ ++ (if p.tagId = tag then [_] else []) = _
    split <;> simp
  simp only [indexOf, hoff, hitems]
  split <;> simp

/-- What an update does to the blocks: it is refused, overwrites the entry that it names, or
adds the next entry of its tag. -/
inductive Put (tag entry : UInt32) (p : Payload ty) (bs : List (Block ty)) :
    List (Block ty) → Prop where
  | refused (h : p.tagId ≠ tag ∨ ((layout ty).itemsOf tag bs).length < entry.toNat) :
      Put tag entry p bs bs
  | overwritten {pre post : List (Block ty)} {b : Block ty} (hp : p.tagId = tag)
      (hbs : bs = pre ++ b :: post) (hb : b.data.tagId = tag)
      (he : ((layout ty).itemsOf tag pre).length = entry.toNat) :
      Put tag entry p bs (pre ++ ⟨b.entryId, p⟩ :: post)
  | added (hp : p.tagId = tag) (he : ((layout ty).itemsOf tag bs).length = entry.toNat) :
      Put tag entry p bs (bs ++ [⟨entry, p⟩])

/-- In 64 bits the difference is more than one exactly when entries would be skipped. -/
theorem entryGap_gt_one {n : Nat} (h : n ≤ entry.toNat) : entryGap n entry > 1 ↔ n < entry.toNat := by
  have hlt := entry.toNat_lt
  unfold entryGap
  omega

theorem Lays.items_eq_nil (h : Lays c bs) (hm : c.dataMap[tag]? = none) :
    (layout ty).itemsOf tag bs = [] := by
  rw [h.index] at hm
  by_contra hne
  simp [indexOf, hne] at hm

/-- `FillDataEntry` returns, and puts the payload where it belongs. -/
theorem lays_fillDataEntry {p : Payload ty} (h : Lays c bs) :
    ∃ ret d bs', c.fillDataEntry p.tagId entry p.image = .ok (ret, d) ∧ Lays d bs' ∧
      Put p.tagId entry p bs bs' := by
  have hadded : ∀ (offsets : List Nat) (m : OrdMap UInt32 (List Nat)),
      offsets = (layout ty).offsetsOf p.tagId 0 bs →
      (∀ t, m[t]? = if p.tagId = t then some (offsets ++ [c.dataBuffer.length])
        else c.dataMap[t]?) → ∀ t, m[t]? = indexOf (bs ++ [⟨entry, p⟩]) t := by
    intro offsets m hoff hm t
    rw [hm, indexOf_append_one, h.index, h.buffer, hoff]
    split
    · next ht => rw [ht]
    · rfl
  rw [fillDataEntry, if_neg (by simp [h.unlocked])]
  dsimp only
  cases hm : c.dataMap[p.tagId]? with
  | none =>
    have hnone := h.items_eq_nil hm
    dsimp only
    split
    · next he =>
      have hpos : entry.toNat ≠ 0 := fun h0 => he (UInt32.toNat_inj.mp h0)
      exact ⟨_, c, bs, rfl, h, .refused (.inr (by simp [hnone]; omega))⟩
    · next he =>
      obtain rfl : entry = 0 := by simpa using he
      have hins : ∀ t, (c.dataMap.insertIfNew p.tagId [c.dataBuffer.length])[t]? =
          if p.tagId = t then some ([] ++ [c.dataBuffer.length]) else c.dataMap[t]? := by
        intro t
        rw [OrdMap.getElem?_emplace]
        split
        · next ht => simp [← ht, hm]
        · rfl
      obtain ⟨d, hd, hlays⟩ :=
        lays_addEntry h (hadded [] _ (Layout.offsetsOf_eq_nil.mpr hnone).symm hins)
      exact ⟨0, d, _, hd, hlays, .added rfl (by simp [hnone])⟩
  | some offsets =>
    obtain ⟨hoff, hne⟩ := indexOf_eq_some ((h.index _).symm.trans hm)
    have hlen : offsets.length = ((layout ty).itemsOf p.tagId bs).length := by simp [hoff]
    dsimp only
    cases ho : offsets[entry.toNat]? with
    | some off =>
      obtain ⟨pre, b, post, rfl, hb, hpre, hi⟩ := h.block hm ho
      obtain ⟨d, hd, hlays⟩ := lays_copyData h hb.symm hpre
      exact ⟨0, d, _, hd, hlays, .overwritten rfl rfl hb hi⟩
    | none =>
      have hle : offsets.length ≤ entry.toNat := by simpa using ho
      dsimp only
      split
      · next hgap =>
        have hlt := (entryGap_gt_one hle).mp hgap
        exact ⟨_, c, bs, rfl, h, .refused (.inr (hlen ▸ hlt))⟩
      · next hgap =>
        have heq : offsets.length = entry.toNat := by
          have := mt (entryGap_gt_one hle).mpr hgap
          omega
        have hins : ∀ t, (c.dataMap.insert p.tagId (offsets ++ [c.dataBuffer.length]))[t]? =
            if p.tagId = t then some (offsets ++ [c.dataBuffer.length]) else c.dataMap[t]? := by
          intro t
          simp [Std.ExtTreeMap.getElem?_insert]
        obtain ⟨d, hd, hlays⟩ := lays_addEntry h (hadded offsets _ hoff hins)
        exact ⟨0, d, _, hd, hlays, .added rfl (hlen ▸ heq)⟩

theorem lays_update (h : Lays c bs) (tag : UInt32) (p : Payload ty) (entry : UInt32) :
    ∃ ret d bs', c.update tag p entry = .ok (ret, d) ∧ Lays d bs' ∧ Put tag entry p bs bs' := by
  by_cases hp : p.tagId = tag
  · subst hp
    rw [update, if_neg (by simp)]
    exact lays_fillDataEntry h
  · exact ⟨EINVAL, c, bs, by simp [update, hp], h, .refused (.inl hp)⟩

end ExtraParam

end QmmfSdk
