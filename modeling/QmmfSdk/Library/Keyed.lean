import Mathlib.Data.List.Perm.Subperm

/-! Lists of entries that a key tells apart: the entry that a search finds, and the others. -/
namespace Library.Keyed

universe u v

variable {α : Type u} {κ : Type v} {p : α → Bool} {f : α → κ} {l l₁ l₂ : List α} {x y : α}

/-- The entry that a search finds is the one that goes. -/
theorem eraseP_of_find? (hx : l.find? p = some x) :
    ∃ l₁ l₂, l = l₁ ++ x :: l₂ ∧ l.eraseP p = l₁ ++ l₂ := by
  obtain ⟨hp, l₁, l₂, rfl, hl₁⟩ := List.find?_eq_some_iff_append.mp hx
  refine ⟨l₁, l₂, rfl, ?_⟩
  rw [List.eraseP_append_right _ (by simpa using hl₁), List.eraseP_cons_of_pos hp]

/-- Keys without repetition tell an entry from all the others. -/
theorem ne_of_nodup_middle
    (hn : ((l₁ ++ x :: l₂).map f).Nodup) (hy : y ∈ l₁ ++ l₂) : f y ≠ f x := by
  have hperm : ((l₁ ++ x :: l₂).map f).Perm ((x :: (l₁ ++ l₂)).map f) := List.perm_middle.map f
  have hnodup := List.nodup_cons.mp (hperm.nodup hn)
  intro heq
  exact hnodup.1 (heq ▸ List.mem_map_of_mem hy)

/-- What was taken from a list is taken from the rest of it, once its first entry is. -/
theorem subperm_of_cons {ks : List κ} (hl : l = l₁ ++ x :: l₂) (hs : (f x :: ks).Subperm (l.map f)) :
    ks.Subperm ((l₁ ++ l₂).map f) := by
  have hperm : (l.map f).Perm (f x :: (l₁ ++ l₂).map f) := by
    rw [hl]
    exact List.perm_middle.map f
  exact (List.subperm_cons (f x)).mp (hs.trans hperm.subperm)

end Library.Keyed
