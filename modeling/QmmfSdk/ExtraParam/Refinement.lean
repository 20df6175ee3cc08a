import QmmfSdk.ExtraParam.Walk

/-! What the container is for, and when it does it: a map from tags to lists of payloads. -/
namespace QmmfSdk

open Library

/-- For every tag in use, its payloads by entry number. -/
abbrev Contents (ty : TagTypes) := OrdMap UInt32 (List (Payload ty))

namespace Contents

variable {ty : TagTypes}

def payloads (m : Contents ty) (tag : UInt32) : List (Payload ty) := m[tag]?.getD []

/-- Overwrites an entry or adds the next one. -/
def put (m : Contents ty) (tag : UInt32) (p : Payload ty) (entry : UInt32) : Contents ty :=
  let ps := m.payloads tag
  if p.tagId ≠ tag then m
  else if entry.toNat < ps.length then m.insert tag (ps.set entry.toNat p)
  else if entry.toNat = ps.length then m.insert tag (ps ++ [p])
  else m

/-- Deletes one entry, and the tag with its last one. -/
def remove (m : Contents ty) (tag entry : UInt32) : Contents ty :=
  let ps := m.payloads tag
  if entry.toNat < ps.length then
    if ps.length = 1 then m.erase tag else m.insert tag (ps.eraseIdx entry.toNat)
  else m

def apply (m : Contents ty) : ExtraParam.Op ty → Contents ty
  | .update tag p entry => m.put tag p entry
  | .remove tag entry => m.remove tag entry
  | .erase tag => m.erase tag
  | .clear => ∅

def fetch (m : Contents ty) (tag dest entry : UInt32) :
    Except Fault (Int × Option (List UInt8)) :=
  if dest ≠ tag then .ok (ExtraParam.EINVAL, none)
  else
    match m[tag]? with
    | none => .ok (ExtraParam.ENOENT, none)
    | some ps =>
      match ps[entry.toNat]? with
      | none => .error .outOfRange
      | some p => .ok (0, some p.image)

end Contents

namespace ExtraParam

open Block

variable {ty : TagTypes} {c d : ExtraParam} {m : Contents ty} {b : Block ty}
  {bs pre post : List (Block ty)} {tag entry : UInt32} {ops : List (Op ty)}

/-- Every query answers as the contents say. -/
structure Observes (c : ExtraParam) (m : Contents ty) : Prop where
  existsTag : ∀ tag, c.existsTag tag = m.contains tag
  tagCount : c.tagCount = m.size
  entryCount : ∀ tag, c.entryCount tag = (m.payloads tag).length
  fetch : ∀ tag dest entry, c.fetch ty tag dest entry = m.fetch tag dest entry

/-- The entries outside the cut still carry their position in the buffer. -/
def numberedOutside (c : ExtraParam) (cut : UInt32 → Nat → Bool) : Bool :=
  c.dataMap.toList.all fun x => x.2.zipIdx.all fun y =>
    cut x.1 y.2 || (descAt c.dataBuffer y.1).all fun desc => desc.entryId.toNat == y.2

/-- A removal meets no defect: it cuts the one entry at the start of the buffer, `Remove` leaves
another entry of the tag, and what is left carries its positions. -/
def cutsFirst (c : ExtraParam) : Op ty → Bool
  | .remove tag entry =>
    let offsets := c.dataMap[tag]?.getD []
    offsets.length ≤ entry.toNat ||
      (offsets[entry.toNat]? == some 0 && 2 ≤ offsets.length &&
        c.numberedOutside fun t i => t == tag && i == entry.toNat)
  | .erase tag =>
    !c.dataMap.contains tag ||
      (c.dataMap[tag]? == some [0] && c.numberedOutside fun t _ => t == tag)
  | _ => true

/-- The contents of a list of blocks. -/
def payloadsOf (tag : UInt32) (bs : List (Block ty)) : List (Payload ty) :=
  ((layout ty).itemsOf tag bs).map Block.data

/-- The contents are those of the blocks, and no tag has an empty list. -/
def Holds (m : Contents ty) (bs : List (Block ty)) : Prop :=
  ∀ tag, m[tag]? = if payloadsOf tag bs = [] then none else some (payloadsOf tag bs)

theorem payloadsOf_eq_nil : payloadsOf tag bs = [] ↔ (layout ty).itemsOf tag bs = [] := by
  simp [payloadsOf]

theorem Holds.payloads (h : Holds m bs) : m.payloads tag = payloadsOf tag bs := by
  rw [Contents.payloads, h tag]
  split
  · next hnil => simp [hnil]
  · rfl

/-- The two maps have the same tags. -/
theorem mem_iff (h : Lays c bs) (hm : Holds m bs) : tag ∈ c.dataMap ↔ tag ∈ m := by
  rw [Std.ExtTreeMap.mem_iff_isSome_getElem?, Std.ExtTreeMap.mem_iff_isSome_getElem?, h.index tag,
    hm tag, indexOf]
  simp only [payloadsOf_eq_nil]
  split <;> rfl

theorem fetch_eq (h : Lays c bs) (hm : Holds m bs) (dest : UInt32) :
    c.fetch ty tag dest entry = m.fetch tag dest entry := by
  unfold fetch Contents.fetch
  split
  · rfl
  next hdest =>
  obtain rfl : dest = tag := by simpa using hdest
  rw [h.index, hm, indexOf]
  by_cases hnil : (layout ty).itemsOf dest bs = []
  · simp [hnil, payloadsOf]
  · simp only [hnil, payloadsOf_eq_nil, if_false]
    cases ho : ((layout ty).offsetsOf dest 0 bs)[entry.toNat]? with
    | none =>
      have hp : (payloadsOf dest bs)[entry.toNat]? = none := by
        simpa [payloadsOf] using ho
      simp [hp]
    | some off =>
      obtain ⟨pre, b, post, rfl, hb, rfl, hi⟩ := Layout.offsetsOf_split ho
      have hp : (payloadsOf dest (pre ++ b :: post))[entry.toNat]? = some b.data := by
        simp [payloadsOf, ← hi, Layout.itemsOf_cons, hb]
      have hbytes : (c.dataBuffer.drop (0 + (layout ty).extent pre + kDataDescSize)).take
          (ty.size dest) = b.data.image := by
        have hbuf : c.dataBuffer =
            (encodeAll pre ++ b.desc.encode) ++ (b.data.image ++ encodeAll post) := by
          rw [h.buffer]
          simp [bytes, List.append_assoc]
        have hlen : 0 + (layout ty).extent pre + kDataDescSize =
            (encodeAll pre ++ b.desc.encode).length := by
          simp [length_encodeAll]
        have hsize : ty.size dest = b.data.image.length := by
          rw [Payload.length_image]
          exact congrArg ty.size hb.symm
        rw [hbuf, hlen, hsize, List.drop_left, List.take_left]
      simp only [hp, hbytes]
      rw [if_pos]
      rw [Payload.length_image]
      exact congrArg ty.size hb

theorem observes (h : Lays c bs) (hm : Holds m bs) : Observes c m where
  existsTag tag := by
    rw [existsTag, Bool.eq_iff_iff, Std.ExtTreeMap.contains_iff_mem, Std.ExtTreeMap.contains_iff_mem]
    exact mem_iff h hm
  tagCount := OrdMap.size_eq_of_mem_iff fun tag => mem_iff h hm
  entryCount tag := by
    rw [entryCount, h.index, hm.payloads, indexOf, payloadsOf, List.length_map]
    split
    · next hnil => simp [hnil]
    · simp
  fetch tag dest entry := fetch_eq h hm dest

/-! ### Each call, on blocks and on contents -/

/-- A list is stored under its tag exactly when it is not empty. -/
theorem holds_insert {ps : List (Payload ty)} (hne : ps ≠ [])
    (hps : payloadsOf tag bs = ps)
    (hrest : ∀ t, tag ≠ t → m[t]? = if payloadsOf t bs = [] then none else some (payloadsOf t bs)) :
    Holds (m.insert tag ps) bs := by
  intro t
  rw [Std.ExtTreeMap.getElem?_insert]
  by_cases ht : tag = t
  · subst ht
    simp [hps, hne]
  · simp [ht, hrest t ht]

theorem holds_erase (hnil : payloadsOf tag bs = [])
    (hrest : ∀ t, tag ≠ t → m[t]? = if payloadsOf t bs = [] then none else some (payloadsOf t bs)) :
    Holds (m.erase tag) bs := by
  intro t
  rw [Std.ExtTreeMap.getElem?_erase]
  by_cases ht : tag = t
  · subst ht
    simp [hnil]
  · simp [ht, hrest t ht]

theorem payloadsOf_append {cs : List (Block ty)} :
    payloadsOf tag (bs ++ cs) = payloadsOf tag bs ++ payloadsOf tag cs := by
  simp [payloadsOf]

theorem payloadsOf_cons : payloadsOf tag (b :: bs) =
    if b.data.tagId = tag then b.data :: payloadsOf tag bs else payloadsOf tag bs := by
  rw [payloadsOf, Layout.itemsOf_cons]
  change List.map _ (if b.data.tagId = tag then _ else _) = _
  split <;> rfl

theorem holds_put {p : Payload ty} {cs : List (Block ty)} (hm : Holds m bs)
    (hput : Put tag entry p bs cs) : Holds (m.put tag p entry) cs := by
  have hps : m.payloads tag = payloadsOf tag bs := hm.payloads
  unfold Contents.put
  cases hput with
  | refused h =>
    have hlen : (payloadsOf tag bs).length = ((layout ty).itemsOf tag bs).length := by
      simp [payloadsOf]
    rcases h with h | h
    · simpa [h] using hm
    · by_cases hp : p.tagId = tag
      · simp only [hp, ne_eq, not_true, if_false, hps]
        rw [if_neg (by omega), if_neg (by omega)]
        exact hm
      · simpa [hp] using hm
  | @overwritten pre post b hp hbs hb he =>
    have hlen : (payloadsOf tag pre).length = entry.toNat := by simp [payloadsOf, he]
    have hold : payloadsOf tag bs = payloadsOf tag pre ++ b.data :: payloadsOf tag post := by
      rw [hbs, payloadsOf_append, payloadsOf_cons, if_pos hb]
    simp only [hp, ne_eq, not_true, if_false, hps, hold]
    rw [if_pos (by simp; omega)]
    refine holds_insert (by simp) ?_ fun t ht => ?_
    · rw [payloadsOf_append, payloadsOf_cons, if_pos hp, ← hlen,
        List.set_append_right _ _ (Nat.le_refl _)]
      simp
    · have hpt : ¬ p.tagId = t := hp ▸ ht
      have hbt : ¬ b.data.tagId = t := hb ▸ ht
      have hsame : payloadsOf t (pre ++ ⟨b.entryId, p⟩ :: post) = payloadsOf t bs := by
        rw [hbs, payloadsOf_append, payloadsOf_append, payloadsOf_cons, payloadsOf_cons,
          if_neg hpt, if_neg hbt]
      rw [hsame]
      exact hm t
  | added hp he =>
    have hlen : (payloadsOf tag bs).length = entry.toNat := by simp [payloadsOf, he]
    simp only [hp, ne_eq, not_true, if_false, hps]
    rw [if_neg (by omega), if_pos hlen.symm]
    refine holds_insert (by simp) ?_ fun t ht => ?_
    · rw [payloadsOf_append, payloadsOf_cons, if_pos hp]
      rfl
    · have hpt : ¬ p.tagId = t := hp ▸ ht
      have hsame : payloadsOf t (bs ++ [⟨entry, p⟩]) = payloadsOf t bs := by
        rw [payloadsOf_append, payloadsOf_cons, if_neg hpt]
        simp [payloadsOf]
      rw [hsame]
      exact hm t

/-- What the check of the numbers says of the blocks after the first one. -/
theorem numberedAfter {first : Block ty} {cut : UInt32 → Nat → Bool} (h : Lays c (first :: bs))
    (hn : c.numberedOutside cut = true)
    (hcut : ∀ pre b post, bs = pre ++ b :: post →
      cut b.data.tagId (count b.data.tagId (first :: pre)) = false) :
    NumberedAfter first bs := by
  rintro pre b post rfl
  have hsplit : first :: (pre ++ b :: post) = (first :: pre) ++ b :: post := rfl
  have hitems : (layout ty).itemsOf b.data.tagId (first :: (pre ++ b :: post)) ≠ [] := by
    intro hnil
    have hmem : b ∈ (layout ty).itemsOf b.data.tagId (first :: (pre ++ b :: post)) := by
      simp [Layout.itemsOf, layout]
    simp [hnil] at hmem
  have hidx : c.dataMap[b.data.tagId]? =
      some ((layout ty).offsetsOf b.data.tagId 0 (first :: (pre ++ b :: post))) := by
    rw [h.index]
    exact if_neg hitems
  have hoff : ((layout ty).offsetsOf b.data.tagId 0 (first :: (pre ++ b :: post)))[count
      b.data.tagId (first :: pre)]? = some (encodeAll (first :: pre)).length := by
    rw [hsplit, length_encodeAll, ← Nat.zero_add ((layout ty).extent _)]
    exact Layout.getElem?_offsetsOf rfl
  have hdesc : descAt c.dataBuffer (encodeAll (first :: pre)).length = some b.desc := by
    rw [h.buffer, hsplit]
    exact descAt_block rfl
  simp only [numberedOutside, List.all_eq_true, Prod.forall] at hn
  have hentry := hn _ _ (Std.ExtTreeMap.mem_toList_iff_getElem?_eq_some.mpr hidx)
    (encodeAll (first :: pre)).length (count b.data.tagId (first :: pre))
    (List.mem_zipIdx_iff_getElem?.mpr hoff)
  rw [hcut pre b post rfl, hdesc, Bool.false_or] at hentry
  exact beq_iff_eq.mp hentry

/-- Only the first block starts at offset 0. -/
theorem block_at_zero {offsets : List Nat} (h : Lays c bs) (hm : c.dataMap[tag]? = some offsets)
    (ho : offsets[entry.toNat]? = some 0) :
    entry = 0 ∧ ∃ first rest, bs = first :: rest ∧ first.data.tagId = tag := by
  obtain ⟨pre, b, post, rfl, hb, hpre, hi⟩ := h.block hm ho
  cases pre with
  | nil =>
    refine ⟨UInt32.toNat_inj.mp ?_, b, post, rfl, hb⟩
    simpa using hi.symm
  | cons a pre =>
    simp [kDataDescSize] at hpre
    omega

theorem holds_tail {first : Block ty} (hm : Holds m (first :: bs)) {t : UInt32}
    (ht : first.data.tagId ≠ t) :
    m[t]? = if payloadsOf t bs = [] then none else some (payloadsOf t bs) := by
  rw [hm t, payloadsOf_cons, if_neg ht]

theorem remove_refines (h : Lays c bs) (hm : Holds m bs)
    (hguard : c.cutsFirst (.remove tag entry : Op ty) = true) :
    ∃ ret d cs, c.remove tag entry = .ok (ret, d) ∧ Lays d cs ∧ Holds (m.remove tag entry) cs := by
  have hps : m.payloads tag = payloadsOf tag bs := hm.payloads
  have hlen : (c.dataMap[tag]?.getD []).length = (payloadsOf tag bs).length := by
    have := (observes h hm).entryCount tag
    rwa [entryCount, hps] at this
  simp only [cutsFirst, Bool.or_eq_true, Bool.and_eq_true, decide_eq_true_eq, beq_iff_eq] at hguard
  by_cases hle : (c.dataMap[tag]?.getD []).length ≤ entry.toNat
  · -- there is no such entry: both sides refuse
    have hout : m.remove tag entry = m := by
      rw [Contents.remove, hps, if_neg (by omega)]
    refine ⟨EINVAL, c, bs, ?_, h, hout.symm ▸ hm⟩
    rw [remove, if_neg (by simp [h.unlocked])]
    cases ho : c.dataMap[tag]? with
    | none => rfl
    | some offsets =>
      have hnone : offsets[entry.toNat]? = none := by simpa [ho] using hle
      simp [hnone]
  · obtain ⟨⟨hzero, htwo⟩, hnum⟩ := hguard.resolve_left hle
    cases ho : c.dataMap[tag]? with
    | none => simp [ho] at hzero
    | some offsets =>
      simp only [ho, Option.getD_some] at hzero htwo hlen
      obtain ⟨rfl, first, rest, rfl, rfl⟩ := block_at_zero h ho hzero
      have hcons : payloadsOf first.data.tagId (first :: rest) =
          first.data :: payloadsOf first.data.tagId rest := by
        rw [payloadsOf_cons, if_pos rfl]
      have hmore : payloadsOf first.data.tagId rest ≠ [] := by
        intro hnil
        simp [hcons, hnil] at hlen
        omega
      have hafter : NumberedAfter first rest := by
        refine numberedAfter h hnum fun pre b post _ => ?_
        by_cases hb : b.data.tagId = first.data.tagId
        · have hpos : count first.data.tagId (first :: pre) =
              1 + count first.data.tagId pre := by
            rw [count_cons, count_singleton, if_pos rfl]
          simp [hb, hpos]
        · simp [hb]
      obtain ⟨d, hd, hlays⟩ := lays_remove h hafter (mt payloadsOf_eq_nil.mpr hmore)
      refine ⟨0, d, rest, hd, hlays, ?_⟩
      have hlen2 : ¬ (payloadsOf first.data.tagId rest).length + 1 = 1 := by
        simpa using hmore
      rw [Contents.remove, hps, hcons]
      simp only [UInt32.toNat_zero, List.length_cons, Nat.zero_lt_succ, if_true, if_neg hlen2,
        List.eraseIdx_zero, List.tail_cons]
      exact holds_insert hmore rfl fun t ht => holds_tail hm ht

theorem erase_refines (h : Lays c bs) (hm : Holds m bs)
    (hguard : c.cutsFirst (.erase tag : Op ty) = true) :
    ∃ ret d cs, c.erase tag = .ok (ret, d) ∧ Lays d cs ∧ Holds (m.erase tag) cs := by
  simp only [cutsFirst, Bool.or_eq_true, Bool.and_eq_true, beq_iff_eq, Bool.not_eq_true'] at hguard
  rcases hguard with hno | ⟨hidx, hnum⟩
  · have hnone : c.dataMap[tag]? = none :=
      Std.ExtTreeMap.getElem?_eq_none_of_contains_eq_false hno
    have hnil : payloadsOf tag bs = [] := payloadsOf_eq_nil.mpr (h.items_eq_nil hnone)
    refine ⟨EINVAL, c, bs, ?_, h, holds_erase hnil fun t _ => hm t⟩
    rw [erase, if_neg (by simp [h.unlocked]), hnone]
  · obtain ⟨-, first, rest, rfl, rfl⟩ := block_at_zero h hidx (rfl : [0][(0 : UInt32).toNat]? = some 0)
    have honly : (layout ty).itemsOf first.data.tagId rest = [] := by
      have := (h.index _).symm.trans hidx
      rw [indexOf_first] at this
      exact Layout.offsetsOf_eq_nil.mp (by simpa using this)
    have hafter : NumberedAfter first rest := by
      refine numberedAfter h hnum fun pre b post hbs => ?_
      have hne : b.data.tagId ≠ first.data.tagId := by
        intro heq
        have hmem : b ∈ (layout ty).itemsOf first.data.tagId rest := by
          simp [Layout.itemsOf, layout, hbs, heq]
        simp [honly] at hmem
      simp [hne]
    obtain ⟨d, hd, hlays⟩ := lays_erase h hafter honly
    exact ⟨0, d, rest, hd, hlays,
      holds_erase (payloadsOf_eq_nil.mpr honly) fun t ht => holds_tail hm ht⟩

/-- The container and the contents agree on some list of blocks. -/
def Refines (c : ExtraParam) (m : Contents ty) : Prop :=
  ∃ bs : List (Block ty), Lays c bs ∧ Holds m bs

theorem refines_step (c : ExtraParam) (m : Contents ty) (op : Op ty) (h : Refines c m)
    (hguard : c.cutsFirst op = true) : ∃ d, c.next op = some d ∧ Refines d (m.apply op) := by
  obtain ⟨bs, hlays, hm⟩ := h
  cases op with
  | update tag p entry =>
    obtain ⟨ret, d, cs, hcall, hd, hput⟩ := lays_update hlays tag p entry
    exact ⟨d, by simp [next, call, hcall], cs, hd, holds_put hm hput⟩
  | remove tag entry =>
    obtain ⟨ret, d, cs, hcall, hd, hm⟩ := remove_refines hlays hm hguard
    exact ⟨d, by simp [next, call, hcall], cs, hd, hm⟩
  | erase tag =>
    obtain ⟨ret, d, cs, hcall, hd, hm⟩ := erase_refines hlays hm hguard
    exact ⟨d, by simp [next, call, hcall], cs, hd, hm⟩
  | clear =>
    refine ⟨{ c with dataMap := ∅, dataBuffer := [] }, ?_, [], ⟨hlays.unlocked, rfl, ?_⟩, ?_⟩
    · simp [next, call, clear, hlays.unlocked]
    · simp [indexOf]
    · intro tag
      simp [Contents.apply, payloadsOf]

/-- Over every sequence of calls whose removals meet no defect, the container returns from each
call and every query answers as the contents say. -/
theorem observes_of_cutsFirst (ty : TagTypes) (ops : List (Op ty))
    (h : LTS.Meets next (fun c op => cutsFirst c op = true) {} ops) :
    ∃ c, LTS.run next {} ops = some c ∧ Observes c (ops.foldl Contents.apply ∅) := by
  have hstart : Refines {} (∅ : Contents ty) := ⟨[], lays_empty, fun tag => by simp [payloadsOf]⟩
  obtain ⟨c, hrun, bs, hlays, hm⟩ := LTS.run_refines refines_step h hstart
  exact ⟨c, hrun, observes hlays hm⟩

/-- A small type for tag 1 and a bigger one for every other tag. -/
def twoTypes : TagTypes where
  size tag := if tag = 1 then 8 else 20
  size_lt tag := by split <;> decide

def small (x : UInt8) : Payload twoTypes := ⟨1, [x, 0, 0, 0], rfl⟩

def big (x : UInt8) : Payload twoTypes := ⟨2, x :: List.replicate 15 0, rfl⟩

/-- Fills both tags, removes the first entry of tag 1 and adds one again. -/
def refillOps : List (Op twoTypes) :=
  [.update 1 (small 5) 0, .update 1 (small 6) 1, .update 2 (big 7) 0, .remove 1 0,
    .update 1 (small 8) 1, .update 1 (small 9) 7]

theorem observes_refill :
    LTS.Meets next (fun c op => cutsFirst c op = true) {} refillOps ∧
      ∃ c, LTS.run next {} refillOps = some c ∧
        Observes c (refillOps.foldl Contents.apply ∅) := by
  have h : LTS.Meets next (fun c op => cutsFirst c op = true) {} refillOps := by decide
  exact ⟨h, observes_of_cutsFirst twoTypes refillOps h⟩

/-- Tag 2 lies behind tag 1 when it is erased. -/
def eraseSecondOps : List (Op twoTypes) :=
  [.update 1 (small 5) 0, .update 2 (big 7) 0, .erase 2]

/-- Erasing a tag that does not start the buffer cuts the wrong range, and the tag stays. -/
theorem erase_cuts_wrong_range :
    ¬ ∀ (ty : TagTypes) (ops : List (Op ty)),
      ∃ c, LTS.run next {} ops = some c ∧ Observes c (ops.foldl Contents.apply ∅) := by
  intro hall
  obtain ⟨c, hrun, hobs⟩ := hall twoTypes eraseSecondOps
  have hcode : (LTS.run next {} eraseSecondOps).map (fun c => c.existsTag 2) = some true := by
    decide
  have hstays : c.existsTag 2 = true := by simpa [hrun] using hcode
  have hgone : c.existsTag 2 = false := by
    rw [hobs.existsTag]
    simp [eraseSecondOps, Contents.apply]
  simp [hstays] at hgone

end ExtraParam

end QmmfSdk
