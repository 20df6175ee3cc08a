import Mathlib.Algebra.Order.Ring.Nat
import Mathlib.Data.List.Sort

/-! Ordered maps as `std::map` has them: lookups, insertion that keeps an old value,
and in-place edits that create a default entry first. -/
namespace Library

universe u v w

/-- An ordered map over any linearly ordered key type. -/
abbrev OrdMap (α : Type u) (β : Type v) [Ord α] := Std.ExtTreeMap α β

namespace OrdMap

open Std

variable {α : Type u} {β : Type v} [Ord α] [TransOrd α] [LawfulEqOrd α]
  {m : OrdMap α β} {a b k : α} {v : β}

section Updates

variable [DecidableEq α]

/-- `m[k] = f(m[k])`, where reading a missing key starts from the empty value. -/
def update [EmptyCollection β] (m : OrdMap α β) (k : α) (f : β → β) : OrdMap α β :=
  m.alter k fun o => some (f (o.getD ∅))

@[simp, grind =] theorem getElem?_update [EmptyCollection β] (f : β → β) :
    (m.update k f)[a]? = if k = a then some (f (m[k]?.getD ∅)) else m[a]? := by
  simp [update, ExtTreeMap.getElem?_alter]

@[simp, grind =] theorem mem_update [EmptyCollection β] (f : β → β) :
    a ∈ m.update k f ↔ k = a ∨ a ∈ m := by
  rw [ExtTreeMap.mem_iff_isSome_getElem?, getElem?_update, ExtTreeMap.mem_iff_isSome_getElem?]
  split <;> simp_all

theorem update_id [EmptyCollection β] (h : k ∈ m) : m.update k id = m := by
  apply ExtTreeMap.ext_getElem?
  intro a
  rw [getElem?_update]
  split
  · next ha =>
    subst ha
    rw [ExtTreeMap.mem_iff_isSome_getElem?] at h
    obtain ⟨v, hv⟩ := Option.isSome_iff_exists.mp h
    rw [hv]
    rfl
  · rfl

/-- Insertion keeps a value that is there already. -/
@[grind =] theorem getElem?_emplace :
    (m.insertIfNew k v)[a]? = if k = a then some (m[a]?.getD v) else m[a]? := by
  rw [ExtTreeMap.getElem?_insertIfNew]
  by_cases h : k = a
  · subst h
    by_cases hk : k ∈ m <;> simp [hk]
  · simp [h]

end Updates

/-- An entry that is there already stays. -/
theorem insertIfNew_of_mem (h : k ∈ m) : m.insertIfNew k v = m := by
  apply ExtTreeMap.ext_getElem?
  intro a
  rw [ExtTreeMap.getElem?_insertIfNew, if_neg fun hnew => hnew.2 h]

/-- An edit that changes nothing the second time, made at each of the keys. -/
theorem getElem?_foldl_modify [DecidableEq α] {f : β → β} (hf : ∀ v, f (f v) = f v) {ks : List α} :
    (ks.foldl (fun m k => m.modify k f) m)[a]? = if a ∈ ks then (m[a]?).map f else m[a]? := by
  induction ks generalizing m with
  | nil => simp
  | cons k ks ih =>
    rw [List.foldl_cons, ih, ExtTreeMap.getElem?_modify]
    by_cases hk : k = a
    · subst hk
      cases hm : m[k]? with
      | none => simp
      | some v => simp [hf]
    · simp [hk, Ne.symm hk]

/-- Some pair of the map meets a test exactly when some lookup does. -/
theorem any_toList {p : α × β → Bool} :
    m.toList.any p = true ↔ ∃ a v, m[a]? = some v ∧ p (a, v) = true := by
  simp only [List.any_eq_true, Prod.exists, ExtTreeMap.mem_toList_iff_getElem?_eq_some]

/-- No key meets a test exactly when the search over the keys finds nothing. -/
theorem find?_keys_eq_none {p : α → Bool} :
    m.keys.find? p = none ↔ ∀ a ∈ m, p a = false := by
  simp [List.find?_eq_none, ExtTreeMap.mem_keys]

/-- The first pair erased, the others follow in their order. -/
theorem toList_erase_of_cons {kvs : List (α × β)} (h : m.toList = (k, v) :: kvs) :
    (m.erase k).toList = kvs := by
  have : Antisymm (fun a b : α × β => compare a.1 b.1 = .lt) :=
    ⟨fun a b hab hba => absurd hba (by rw [OrientedOrd.eq_swap, hab]; simp)⟩
  have : Irrefl (fun a b : α × β => compare a.1 b.1 = .lt) := ⟨fun a => by simp⟩
  have hordered : ((k, v) :: kvs).Pairwise (fun a b => compare a.1 b.1 = .lt) :=
    h ▸ ExtTreeMap.ordered_keys_toList
  have hnot : ∀ w, (k, w) ∉ kvs := fun w hk => by
    simpa using (List.pairwise_cons.mp hordered).1 (k, w) hk
  refine List.Pairwise.eq_of_mem_iff ExtTreeMap.ordered_keys_toList (List.pairwise_cons.mp hordered).2 ?_
  rintro ⟨a, w⟩
  have ha : m[a]? = some w ↔ (a = k ∧ w = v) ∨ (a, w) ∈ kvs := by
    rw [← ExtTreeMap.mem_toList_iff_getElem?_eq_some, h, List.mem_cons, Prod.mk.injEq]
  rw [ExtTreeMap.mem_toList_iff_getElem?_eq_some, ExtTreeMap.getElem?_erase]
  by_cases heq : compare k a = .eq
  · obtain rfl := LawfulEqCmp.compare_eq_iff_eq.mp heq
    simp [hnot w]
  · rw [if_neg heq, ha]
    refine or_iff_right fun ⟨hak, _⟩ => heq ?_
    simp [hak]

/-- The first key erased, the others follow in their order. -/
theorem keys_erase_of_cons {ks : List α} (h : m.keys = k :: ks) : (m.erase k).keys = ks := by
  rw [← ExtTreeMap.map_fst_toList_eq_keys] at h
  obtain ⟨⟨a, v⟩, kvs, hlist, rfl, rfl⟩ := List.map_eq_cons_iff.mp h
  rw [← ExtTreeMap.map_fst_toList_eq_keys, toList_erase_of_cons hlist]

/-- The keys alone make the list of the keys. -/
theorem keys_eq_of_mem_iff {γ : Type w} {m' : OrdMap α γ} (h : ∀ a, a ∈ m ↔ a ∈ m') :
    m.keys = m'.keys := by
  have : Antisymm (fun a b : α => compare a b = .lt) :=
    ⟨fun a b hab hba => absurd hba (by rw [OrientedOrd.eq_swap, hab]; simp)⟩
  have : Irrefl (fun a b : α => compare a b = .lt) := ⟨fun a => by simp⟩
  refine List.Pairwise.eq_of_mem_iff ExtTreeMap.ordered_keys ExtTreeMap.ordered_keys fun a => ?_
  rw [ExtTreeMap.mem_keys, ExtTreeMap.mem_keys, h]

/-- Maps with the same keys have the same size, whatever their values are. -/
theorem size_eq_of_mem_iff {γ : Type w} {m' : OrdMap α γ} (h : ∀ a, a ∈ m ↔ a ∈ m') :
    m.size = m'.size := by
  have heq : m.map (fun _ _ => ()) = m'.map (fun _ _ => ()) := by
    apply ExtTreeMap.ext_getElem?
    intro a
    have ha := h a
    rw [ExtTreeMap.mem_iff_isSome_getElem?, ExtTreeMap.mem_iff_isSome_getElem?] at ha
    rw [ExtTreeMap.getElem?_map, ExtTreeMap.getElem?_map]
    cases hm : m[a]? <;> cases hm' : m'[a]? <;> simp_all
  have hsize := congrArg ExtTreeMap.size heq
  rwa [ExtTreeMap.size_map, ExtTreeMap.size_map] at hsize

/-- Different keys of a map are not more than it has. -/
theorem length_le_size {ks : List α} (hnodup : ks.Nodup) (hmem : ∀ k ∈ ks, k ∈ m) :
    ks.length ≤ m.size := by
  rw [← ExtTreeMap.length_keys]
  exact (List.subperm_of_subset hnodup fun k hk => ExtTreeMap.mem_keys.mpr (hmem k hk)).length_le

/-- How many values meet a test. -/
def sizeWhere (m : OrdMap α β) (p : β → Bool) : Nat := (m.filter fun _ v => p v).size

omit [LawfulEqOrd α] in
theorem sizeWhere_le {p : β → Bool} : m.sizeWhere p ≤ m.size := ExtTreeMap.size_filter_le_size

/-- An insertion takes the old value out of the count and the new one in. -/
theorem sizeWhere_insert [DecidableEq α] {p : β → Bool} :
    sizeWhere (m.insert k v) p + (m[k]?.any p).toNat = sizeWhere m p + (p v).toNat := by
  have hcontains : (m.filter fun _ v => p v).contains k = m[k]?.any p := by
    rw [ExtTreeMap.contains_eq_isSome_getElem?, ExtTreeMap.getElem?_filter']
    cases m[k]? with
    | none => rfl
    | some w => cases hw : p w <;> simp [hw]
  unfold sizeWhere
  cases hv : p v with
  | true =>
    have hfilter : (m.insert k v).filter (fun _ v => p v) = (m.filter fun _ v => p v).insert k v := by
      apply ExtTreeMap.ext_getElem?
      intro a
      rw [ExtTreeMap.getElem?_filter', ExtTreeMap.getElem?_insert, ExtTreeMap.getElem?_insert,
        ExtTreeMap.getElem?_filter']
      split
      · simp [hv]
      · rfl
    rw [hfilter, ExtTreeMap.size_insert, hcontains]
    cases m[k]?.any p <;> simp
  | false =>
    have hfilter : (m.insert k v).filter (fun _ v => p v) = (m.filter fun _ v => p v).erase k := by
      apply ExtTreeMap.ext_getElem?
      intro a
      rw [ExtTreeMap.getElem?_filter', ExtTreeMap.getElem?_insert, ExtTreeMap.getElem?_erase,
        ExtTreeMap.getElem?_filter']
      split
      · simp [hv]
      · rfl
    rw [hfilter, ExtTreeMap.size_erase, hcontains]
    cases hany : m[k]?.any p with
    | false => simp
    | true =>
      have hpos : (m.filter fun _ v => p v).size ≠ 0 := by
        intro hzero
        refine ExtTreeMap.ne_empty_of_mem (a := k) ?_ (ExtTreeMap.eq_empty_iff_size_eq_zero.mpr hzero)
        rw [ExtTreeMap.mem_iff_contains, hcontains, hany]
      simp only [if_true, Bool.toNat_true, Bool.toNat_false]
      omega

/-- An entry erased is one counted less. -/
theorem sizeWhere_erase [DecidableEq α] {p : β → Bool} :
    sizeWhere (m.erase k) p + (m[k]?.any p).toNat = sizeWhere m p := by
  cases hk : m[k]? with
  | none =>
    have hsame : m.erase k = m := by
      apply ExtTreeMap.ext_getElem?
      intro a
      by_cases ha : k = a
      · subst ha
        simp [hk]
      · simp [ExtTreeMap.getElem?_erase, ha]
    simp [hsame]
  | some v =>
    have hback : (m.erase k).insert k v = m := by
      apply ExtTreeMap.ext_getElem?
      intro a
      by_cases ha : k = a
      · subst ha
        simp [hk]
      · simp [ExtTreeMap.getElem?_insert, ExtTreeMap.getElem?_erase, ha]
    have hcount := sizeWhere_insert (m := m.erase k) (k := k) (v := v) (p := p)
    rw [hback] at hcount
    simpa using hcount.symm

end OrdMap

end Library
