import Mathlib.Data.List.Basic

/-! A scan over a list that holds one element until a later one replaces it. -/
namespace Library.Scan

universe u

variable {α : Type u} {R : α → α → Prop} {a b t : α} {l : List α}

/-- `R b a` says that `b` replaces `a`. -/
def hold (R : α → α → Prop) [DecidableRel R] (a : α) (l : List α) : α :=
  l.foldl (fun a b => if R b a then b else a) a

/-- `t` is the first element that nothing after it replaces. -/
def FirstLasting (R : α → α → Prop) : List α → α → Prop
  | [], _ => False
  | a :: l, t => ((∃ b ∈ l, R b a) ∧ FirstLasting R l t) ∨ ((∀ b ∈ l, ¬ R b a) ∧ t = a)

theorem FirstLasting.mem (h : FirstLasting R l t) : t ∈ l := by
  induction l with
  | nil => exact h.elim
  | cons a l ih =>
    obtain ⟨-, h⟩ | ⟨-, rfl⟩ := h
    · exact List.mem_cons_of_mem a (ih h)
    · exact List.mem_cons_self

/-- An element that did not replace what was held goes unnoticed, when whatever replaces the one
replaces the other too. -/
theorem firstLasting_skip (hR : ∀ a b c, R c a → R c b ∨ R b a) (hskip : ¬ R b a) :
    FirstLasting R (a :: b :: l) t ↔ FirstLasting R (a :: l) t := by
  have hlater : (∃ c ∈ l, R c a) → ∃ c ∈ l, R c b := by
    rintro ⟨c, hc, hca⟩
    exact ⟨c, hc, (hR a b c hca).resolve_right hskip⟩
  by_cases hreplaced : ∃ c ∈ l, R c a
  · have hnot : ¬ ∀ c ∈ l, ¬ R c b := by
      obtain ⟨c, hc, hcb⟩ := hlater hreplaced
      exact fun h => h c hc hcb
    have hnone : ¬ ∀ c ∈ l, ¬ R c a := by
      obtain ⟨c, hc, hca⟩ := hreplaced
      exact fun h => h c hc hca
    simp only [FirstLasting, List.exists_mem_cons_iff, List.forall_mem_cons, hskip, false_or,
      hreplaced, hlater hreplaced, hnot, hnone, true_and, and_false, false_and, or_false]
  · have hnone : ∀ c ∈ l, ¬ R c a := fun c hc hca => hreplaced ⟨c, hc, hca⟩
    simp only [FirstLasting, List.exists_mem_cons_iff, List.forall_mem_cons, hskip, false_or,
      hreplaced, false_and, not_false_iff, true_and]

theorem firstLasting_iff [DecidableRel R] (hR : ∀ a b c, R c a → R c b ∨ R b a) :
    FirstLasting R (a :: l) t ↔ t = hold R a l := by
  induction l generalizing a with
  | nil => simp [FirstLasting, hold]
  | cons b l ih =>
    by_cases hreplaces : R b a
    · have hsome : ∃ c ∈ b :: l, R c a := ⟨b, List.mem_cons_self, hreplaces⟩
      have hnot : ¬ ∀ c ∈ b :: l, ¬ R c a := fun h => h b List.mem_cons_self hreplaces
      rw [FirstLasting]
      simp only [hsome, hnot, true_and, false_and, or_false]
      rw [ih, hold, hold, List.foldl_cons, if_pos hreplaces]
    · rw [firstLasting_skip hR hreplaces, ih, hold, hold, List.foldl_cons, if_neg hreplaces]

end Library.Scan
