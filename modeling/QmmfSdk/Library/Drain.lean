import Mathlib.Algebra.Order.Group.Multiset
import Mathlib.Data.Set.Insert

/-! Stores with a flush: tokens that wait, tokens in somebody's hand, and what a flush owes to
them. -/
namespace Library

universe u

/-- Where the tokens are. A flush reports and drops `queued`, drops `repeating` and has to wait for
`inHand`. Of the tokens in `copied` there may be many. -/
@[ext]
structure Drain (α : Type u) where
  queued : Multiset α
  repeating : Multiset α
  inHand : Multiset α
  handed : Multiset α
  told : Multiset α
  known : Set α
  copied : Set α

namespace Drain

variable {α : Type u} {d d' : Drain α} {old lost xs : Multiset α} {x : α}

/-- The moves of a store; the label is what gets lost on the way. -/
inductive Step : Drain α → Multiset α → Drain α → Prop where
  | stay {d : Drain α} {K : Set α} (hK : d.known ⊆ K) : Step d 0 { d with known := K }
  | queue {d : Drain α} {xs : Multiset α} {K : Set α} (hK : d.known ⊆ K) (hmem : ∀ x ∈ xs, x ∈ K)
      (hfresh : ∀ x ∈ xs, x ∉ d.known) (hxs : xs.Nodup) :
      Step d 0 { d with queued := d.queued + xs, known := K }
  | hold {d : Drain α} {xs : Multiset α} {K : Set α} (hK : d.known ⊆ K) (hmem : ∀ x ∈ xs, x ∈ K)
      (hfresh : ∀ x ∈ xs, x ∉ d.known) (hxs : xs.Nodup) :
      Step d 0 { d with inHand := d.inHand + xs, known := K }
  | repeats {d : Drain α} {xs : Multiset α} {K C : Set α} (hK : d.known ⊆ K)
      (hmem : ∀ x ∈ xs, x ∈ K) (hfresh : ∀ x ∈ xs, x ∉ d.known) (hC : d.copied ⊆ C)
      (hcopied : ∀ x ∈ xs, x ∈ C) : Step d 0 { d with repeating := xs, known := K, copied := C }
  | stop {d : Drain α} : Step d 0 { d with repeating := 0 }
  | take {d : Drain α} {x : α} {rest : Multiset α} (h : d.queued = x ::ₘ rest) :
      Step d 0 { d with queued := rest, inHand := x ::ₘ d.inHand }
  | round {d : Drain α} {x : α} {rest : Multiset α} (h : d.repeating = x ::ₘ rest) :
      Step d 0 { d with queued := d.queued + rest, inHand := x ::ₘ d.inHand }
  | hand {d : Drain α} {x : α} {rest said : Multiset α} (h : d.inHand = x ::ₘ rest)
      (hsaid : said = 0 ∨ said = {x}) :
      Step d 0 { d with inHand := rest, handed := x ::ₘ d.handed, told := d.told + said }
  | lose {d : Drain α} {x : α} {rest : Multiset α} (h : d.inHand = x ::ₘ rest) :
      Step d {x} { d with inHand := rest }
  | flush {d : Drain α} {said : Multiset α} (hsaid : said = 0 ∨ said = d.queued) :
      Step d 0 { d with queued := 0, repeating := 0, told := d.told + said }

section Sound

variable [DecidableEq α]

/-- A token that is not copied is in one place, has been told of only when it is in none, and then
once. -/
structure Fine (d : Drain α) (x : α) : Prop where
  once : d.queued.count x + d.inHand.count x + d.handed.count x ≤ 1
  silent : 0 < d.queued.count x + d.inHand.count x → d.told.count x = 0
  toldOnce : d.handed.count x = 0 → d.told.count x ≤ 1

structure Sound (d : Drain α) : Prop where
  queued : ∀ x ∈ d.queued, x ∈ d.known
  repeating : ∀ x ∈ d.repeating, x ∈ d.known ∧ x ∈ d.copied
  inHand : ∀ x ∈ d.inHand, x ∈ d.known
  handed : ∀ x ∈ d.handed, x ∈ d.known
  told : ∀ x ∈ d.told, x ∈ d.known
  fine : ∀ x ∉ d.copied, d.Fine x

/-- A new token is nowhere. -/
theorem Sound.count_fresh (h : Sound d) (hx : x ∉ d.known) :
    d.queued.count x = 0 ∧ d.inHand.count x = 0 ∧ d.handed.count x = 0 ∧ d.told.count x = 0 :=
  ⟨Multiset.count_eq_zero.mpr fun hm => hx (h.queued x hm),
    Multiset.count_eq_zero.mpr fun hm => hx (h.inHand x hm),
    Multiset.count_eq_zero.mpr fun hm => hx (h.handed x hm),
    Multiset.count_eq_zero.mpr fun hm => hx (h.told x hm)⟩

/-- A set of new tokens has at most one of each, and none where something is already. -/
theorem count_new (hfresh : ∀ x ∈ xs, x ∉ d.known) (hxs : xs.Nodup) :
    xs.count x = 0 ∨ (xs.count x = 1 ∧ x ∉ d.known) := by
  by_cases hx : x ∈ xs
  · exact .inr ⟨Multiset.count_eq_one_of_mem hxs hx, hfresh x hx⟩
  · exact .inl (Multiset.count_eq_zero.mpr hx)

/-- More may be known than before. -/
theorem Sound.knows {K : Set α} (h : Sound d) (hK : d.known ⊆ K) : Sound { d with known := K } :=
  ⟨fun x hx => hK (h.queued x hx), fun x hx => ⟨hK (h.repeating x hx).1, (h.repeating x hx).2⟩,
    fun x hx => hK (h.inHand x hx), fun x hx => hK (h.handed x hx), fun x hx => hK (h.told x hx),
    fun x hx => ⟨(h.fine x hx).once, (h.fine x hx).silent, (h.fine x hx).toldOnce⟩⟩

/-- New tokens may join the queue or go into a hand. -/
theorem Sound.fine_new {e : Drain α} (h : Sound d) (hx : x ∉ d.copied)
    (hfresh : ∀ x ∈ xs, x ∉ d.known) (hxs : xs.Nodup)
    (hcount : e.queued.count x + e.inHand.count x =
      d.queued.count x + d.inHand.count x + xs.count x)
    (hhanded : e.handed = d.handed) (htold : e.told = d.told) : e.Fine x := by
  obtain ⟨honce, hsilent, htoldOnce⟩ := h.fine x hx
  rcases count_new hfresh hxs (x := x) with hc | ⟨hc, hnew⟩
  · refine ⟨?_, fun hpos => ?_, ?_⟩
    · rw [hhanded]
      omega
    · rw [htold]
      exact hsilent (by omega)
    · rw [hhanded, htold]
      exact htoldOnce
  · obtain ⟨hq, hi, hh, ht⟩ := h.count_fresh hnew
    refine ⟨?_, fun _ => ?_, fun _ => ?_⟩
    · rw [hhanded]
      omega
    · rw [htold]
      exact ht
    · rw [htold]
      omega

theorem sound_queue {K : Set α} (h : Sound d) (hK : d.known ⊆ K) (hmem : ∀ x ∈ xs, x ∈ K)
    (hfresh : ∀ x ∈ xs, x ∉ d.known) (hxs : xs.Nodup) :
    Sound { d with queued := d.queued + xs, known := K } := by
  have hd := h.knows hK
  refine ⟨fun x hx => ?_, hd.repeating, hd.inHand, hd.handed, hd.told, fun x hx => ?_⟩
  · rcases Multiset.mem_add.mp hx with hx | hx
    · exact hd.queued x hx
    · exact hmem x hx
  · refine h.fine_new hx hfresh hxs ?_ rfl rfl
    simp only [Multiset.count_add]
    omega

theorem sound_hold {K : Set α} (h : Sound d) (hK : d.known ⊆ K) (hmem : ∀ x ∈ xs, x ∈ K)
    (hfresh : ∀ x ∈ xs, x ∉ d.known) (hxs : xs.Nodup) :
    Sound { d with inHand := d.inHand + xs, known := K } := by
  have hd := h.knows hK
  refine ⟨hd.queued, hd.repeating, fun x hx => ?_, hd.handed, hd.told, fun x hx => ?_⟩
  · rcases Multiset.mem_add.mp hx with hx | hx
    · exact hd.inHand x hx
    · exact hmem x hx
  · refine h.fine_new hx hfresh hxs ?_ rfl rfl
    simp only [Multiset.count_add]
    omega

theorem sound_take {y : α} {rest : Multiset α} (h : Sound d) (heq : d.queued = y ::ₘ rest) :
    Sound { d with queued := rest, inHand := y ::ₘ d.inHand } := by
  refine ⟨fun x hx => h.queued x (by simp [heq, hx]), h.repeating, fun x hx => ?_, h.handed,
    h.told, fun x hx => ?_⟩
  · rcases Multiset.mem_cons.mp hx with rfl | hx
    · exact h.queued x (by simp [heq])
    · exact h.inHand x hx
  · obtain ⟨honce, hsilent, htold⟩ := h.fine x hx
    simp only [heq, Multiset.count_cons] at honce hsilent
    refine ⟨?_, ?_, htold⟩
    · simp only [Multiset.count_cons]
      omega
    · simp only [Multiset.count_cons]
      intro hpos
      exact hsilent (by omega)

theorem sound_round {y : α} {rest : Multiset α} (h : Sound d) (heq : d.repeating = y ::ₘ rest) :
    Sound { d with queued := d.queued + rest, inHand := y ::ₘ d.inHand } := by
  have hy := h.repeating y (by simp [heq])
  have hrest : ∀ x ∈ rest, x ∈ d.known ∧ x ∈ d.copied :=
    fun x hx => h.repeating x (by simp [heq, hx])
  refine ⟨fun x hx => ?_, h.repeating, fun x hx => ?_, h.handed, h.told, fun x hx => ?_⟩
  · rcases Multiset.mem_add.mp hx with hx | hx
    · exact h.queued x hx
    · exact (hrest x hx).1
  · rcases Multiset.mem_cons.mp hx with rfl | hx
    · exact hy.1
    · exact h.inHand x hx
  · obtain ⟨honce, hsilent, htold⟩ := h.fine x hx
    have hzero : rest.count x = 0 := Multiset.count_eq_zero.mpr fun hm => hx (hrest x hm).2
    have hne : x ≠ y := fun heq' => hx (heq' ▸ hy.2)
    refine ⟨?_, ?_, htold⟩ <;>
      simpa only [Multiset.count_add, hzero, Multiset.count_cons_of_ne hne, Nat.add_zero]

/-- What is said of a token when it is handed over concerns no other. -/
theorem count_said {y : α} {said : Multiset α} (hsaid : said = 0 ∨ said = {y}) :
    said.count x ≤ 1 ∧ (x ≠ y → said.count x = 0) := by
  rcases hsaid with rfl | rfl
  · simp
  · by_cases hxy : x = y
    · simp [hxy]
    · have hcount : ({y} : Multiset α).count x = 0 :=
        Multiset.count_eq_zero.mpr (by simpa using hxy)
      simp [hcount]

theorem sound_hand {y : α} {rest said : Multiset α} (h : Sound d) (heq : d.inHand = y ::ₘ rest)
    (hsaid : said = 0 ∨ said = {y}) :
    Sound { d with inHand := rest, handed := y ::ₘ d.handed, told := d.told + said } := by
  have hy : y ∈ d.known := h.inHand y (by simp [heq])
  refine ⟨h.queued, h.repeating, fun x hx => h.inHand x (by simp [heq, hx]), fun x hx => ?_,
    fun x hx => ?_, fun x hx => ?_⟩
  · rcases Multiset.mem_cons.mp hx with rfl | hx
    · exact hy
    · exact h.handed x hx
  · rcases Multiset.mem_add.mp hx with hx | hx
    · exact h.told x hx
    · rcases hsaid with rfl | rfl
      · simp at hx
      · rw [Multiset.mem_singleton.mp hx]
        exact hy
  · obtain ⟨honce, hsilent, htold⟩ := h.fine x hx
    obtain ⟨hle, hother⟩ := count_said hsaid (x := x)
    simp only [heq, Multiset.count_cons] at honce hsilent
    by_cases hxy : x = y
    · rw [if_pos hxy] at honce hsilent
      have ht := hsilent (by omega)
      refine ⟨?_, ?_, ?_⟩ <;> simp only [Multiset.count_cons, Multiset.count_add, if_pos hxy] <;>
        omega
    · rw [if_neg hxy] at honce hsilent
      refine ⟨?_, ?_, ?_⟩ <;>
        simp only [Multiset.count_cons, Multiset.count_add, if_neg hxy, hother hxy] <;> assumption

theorem sound_lose {y : α} {rest : Multiset α} (h : Sound d) (heq : d.inHand = y ::ₘ rest) :
    Sound { d with inHand := rest } := by
  refine ⟨h.queued, h.repeating, fun x hx => h.inHand x (by simp [heq, hx]), h.handed, h.told,
    fun x hx => ?_⟩
  obtain ⟨honce, hsilent, htold⟩ := h.fine x hx
  simp only [heq, Multiset.count_cons] at honce hsilent
  refine ⟨?_, fun hpos => hsilent ?_, htold⟩
  · dsimp only
    omega
  · dsimp only at hpos
    omega

theorem sound_flush {said : Multiset α} (h : Sound d) (hsaid : said = 0 ∨ said = d.queued) :
    Sound { d with queued := 0, repeating := 0, told := d.told + said } := by
  have hle : ∀ x, said.count x ≤ d.queued.count x := by
    intro x
    rcases hsaid with rfl | rfl
    · simp
    · exact le_refl _
  refine ⟨by simp, by simp, h.inHand, h.handed, fun x hx => ?_, fun x hx => ?_⟩
  · rcases Multiset.mem_add.mp hx with hx | hx
    · exact h.told x hx
    · have hpos := Multiset.count_pos.mpr hx
      exact h.queued x (Multiset.count_pos.mp (Nat.lt_of_lt_of_le hpos (hle x)))
  · obtain ⟨honce, hsilent, htold⟩ := h.fine x hx
    have hx' := hle x
    refine ⟨?_, fun hpos => ?_, fun hzero => ?_⟩
    · simp only [Multiset.count_zero]
      omega
    · simp only [Multiset.count_zero, Multiset.count_add] at hpos ⊢
      have ht := hsilent (by omega)
      omega
    · simp only [Multiset.count_add]
      have ht := htold hzero
      by_cases hq : d.queued.count x = 0
      · omega
      · have ht' := hsilent (by omega)
        omega

theorem sound_step (h : Sound d) (hs : Step d lost d') : Sound d' := by
  cases hs with
  | stay hK => exact h.knows hK
  | queue hK hmem hfresh hxs => exact sound_queue h hK hmem hfresh hxs
  | hold hK hmem hfresh hxs => exact sound_hold h hK hmem hfresh hxs
  | repeats hK hmem hfresh hC hcopied =>
    have hd := h.knows hK
    refine ⟨hd.queued, fun x hx => ⟨hmem x hx, hcopied x hx⟩, hd.inHand, hd.handed, hd.told,
      fun x hx => ?_⟩
    have hf := h.fine x fun hc => hx (hC hc)
    exact ⟨hf.once, hf.silent, hf.toldOnce⟩
  | stop =>
    exact ⟨h.queued, by simp, h.inHand, h.handed, h.told,
      fun x hx => ⟨(h.fine x hx).once, (h.fine x hx).silent, (h.fine x hx).toldOnce⟩⟩
  | take heq => exact sound_take h heq
  | round heq => exact sound_round h heq
  | hand heq hsaid => exact sound_hand h heq hsaid
  | lose heq => exact sound_lose h heq
  | flush hsaid => exact sound_flush h hsaid

/-- What a flush that found `old` has left of it: nothing waits, and each token is copied, still
in hand, handed over or told of once. -/
structure Left (old : Multiset α) (d : Drain α) : Prop where
  known : ∀ x ∈ old, x ∈ d.known
  queued : ∀ x ∈ old, x ∉ d.queued
  repeating : ∀ x ∈ old, x ∉ d.repeating
  fate : ∀ x ∈ old, x ∈ d.copied ∨ x ∈ d.inHand ∨ x ∈ d.handed ∨ d.told.count x = 1

theorem Left.mono {new : Multiset α} (h : Left old d) (hsub : ∀ x ∈ new, x ∈ old) : Left new d where
  known x hx := h.known x (hsub x hx)
  queued x hx := h.queued x (hsub x hx)
  repeating x hx := h.repeating x (hsub x hx)
  fate x hx := h.fate x (hsub x hx)

theorem left_step (hs : Step d lost d') (hlost : ∀ x ∈ lost, x ∉ old)
    (hold : Left old d) : Left old d' := by
  obtain ⟨hknown, hqueued, hrepeating, hfate⟩ := hold
  cases hs with
  | stay hK => exact ⟨fun x hx => hK (hknown x hx), hqueued, hrepeating, hfate⟩
  | queue hK hmem hfresh hxs =>
    refine ⟨fun x hx => hK (hknown x hx), fun x hx hm => ?_, hrepeating, hfate⟩
    rcases Multiset.mem_add.mp hm with hm | hm
    · exact hqueued x hx hm
    · exact hfresh x hm (hknown x hx)
  | hold hK hmem hfresh hxs =>
    refine ⟨fun x hx => hK (hknown x hx), hqueued, hrepeating, fun x hx => ?_⟩
    rcases hfate x hx with hc | hi | hh | ht
    · exact .inl hc
    · exact .inr (.inl (Multiset.mem_add.mpr (.inl hi)))
    · exact .inr (.inr (.inl hh))
    · exact .inr (.inr (.inr ht))
  | repeats hK hmem hfresh hC hcopied =>
    refine ⟨fun x hx => hK (hknown x hx), hqueued, fun x hx hm => hfresh x hm (hknown x hx),
      fun x hx => ?_⟩
    exact (hfate x hx).imp_left fun hc => hC hc
  | stop => exact ⟨hknown, hqueued, by simp, hfate⟩
  | @take y rest heq =>
    refine ⟨hknown, fun x hx hm => hqueued x hx (by simp [heq, hm]), hrepeating, fun x hx => ?_⟩
    exact (hfate x hx).imp_right fun hr => hr.imp_left fun hi => Multiset.mem_cons_of_mem hi
  | @round y rest heq =>
    refine ⟨hknown, fun x hx hm => ?_, hrepeating, fun x hx => ?_⟩
    · rcases Multiset.mem_add.mp hm with hm | hm
      · exact hqueued x hx hm
      · exact hrepeating x hx (by simp [heq, hm])
    · exact (hfate x hx).imp_right fun hr => hr.imp_left fun hi => Multiset.mem_cons_of_mem hi
  | @hand y rest said heq hsaid =>
    refine ⟨hknown, hqueued, hrepeating, fun x hx => ?_⟩
    by_cases hxy : x = y
    · exact .inr (.inr (.inl (by simp [hxy])))
    rcases hfate x hx with hc | hi | hh | ht
    · exact .inl hc
    · rw [heq] at hi
      exact .inr (.inl ((Multiset.mem_cons.mp hi).resolve_left hxy))
    · exact .inr (.inr (.inl (Multiset.mem_cons_of_mem hh)))
    · refine .inr (.inr (.inr ?_))
      simp only [Multiset.count_add, (count_said hsaid).2 hxy, Nat.add_zero]
      exact ht
  | @lose y rest heq =>
    refine ⟨hknown, hqueued, hrepeating, fun x hx => ?_⟩
    have hxy : x ≠ y := fun heq' => hlost y (Multiset.mem_singleton_self y) (heq' ▸ hx)
    refine (hfate x hx).imp_right fun hr => hr.imp_left fun hi => ?_
    rw [heq] at hi
    exact (Multiset.mem_cons.mp hi).resolve_left hxy
  | @flush said hsaid =>
    refine ⟨hknown, by simp, by simp, fun x hx => ?_⟩
    refine (hfate x hx).imp_right fun hr => hr.imp_right fun hr => hr.imp_right fun ht => ?_
    have hcount : said.count x = 0 := by
      rcases hsaid with rfl | rfl
      · simp
      · exact Multiset.count_eq_zero.mpr (hqueued x hx)
    simp only [Multiset.count_add, hcount, Nat.add_zero]
    exact ht

/-- A flush that tells of what it drops leaves nothing unaccounted for. -/
theorem left_flush {said : Multiset α} (h : Sound d)
    (hsaid : said = d.queued ∨ ∀ x ∈ d.queued, x ∈ d.copied) :
    Left (d.queued + d.repeating + d.inHand)
      { d with queued := 0, repeating := 0, told := d.told + said } := by
  refine ⟨fun x hx => ?_, by simp, by simp, fun x hx => ?_⟩
  · simp only [Multiset.mem_add] at hx
    rcases hx with (hx | hx) | hx
    · exact h.queued x hx
    · exact (h.repeating x hx).1
    · exact h.inHand x hx
  · by_cases hc : x ∈ d.copied
    · exact .inl hc
    simp only [Multiset.mem_add] at hx
    rcases hx with (hx | hx) | hx
    · rcases hsaid with rfl | hall
      · obtain ⟨honce, hsilent, -⟩ := h.fine x hc
        have hpos := Multiset.count_pos.mpr hx
        have ht := hsilent (by omega)
        refine .inr (.inr (.inr ?_))
        simp only [Multiset.count_add]
        omega
      · exact absurd (hall x hx) hc
    · exact absurd (h.repeating x hx).2 hc
    · exact .inr (.inl hx)

/-- Of what an older flush found nothing is in hand any more either. -/
structure Gone (old : Multiset α) (d : Drain α) : Prop where
  left : Left old d
  inHand : ∀ x ∈ old, x ∉ d.inHand

theorem Gone.add {new : Multiset α} (h : Gone old d) (hnew : Gone new d) : Gone (old + new) d := by
  have hcases : ∀ {P : α → Prop}, (∀ x ∈ old, P x) → (∀ x ∈ new, P x) → ∀ x ∈ old + new, P x :=
    fun ho hn x hx => (Multiset.mem_add.mp hx).elim (ho x) (hn x)
  exact ⟨⟨hcases h.left.known hnew.left.known, hcases h.left.queued hnew.left.queued,
    hcases h.left.repeating hnew.left.repeating, hcases h.left.fate hnew.left.fate⟩,
    hcases h.inHand hnew.inHand⟩

theorem gone_step (hs : Step d lost d') (hold : Gone old d) : Gone old d' := by
  have hlost : ∀ x ∈ lost, x ∉ old := by
    intro x hx hxold
    cases hs with
    | lose heq => exact hold.inHand x hxold (by simp [heq, Multiset.mem_singleton.mp hx])
    | _ => simp at hx
  refine ⟨left_step hs hlost hold.left, fun x hx => ?_⟩
  have hnot := hold.inHand x hx
  cases hs with
  | stay _ => exact hnot
  | queue _ _ _ _ => exact hnot
  | repeats _ _ _ _ _ => exact hnot
  | stop => exact hnot
  | flush _ => exact hnot
  | hold hK hmem hfresh hxs =>
    rw [Multiset.mem_add]
    exact not_or.mpr ⟨hnot, fun hm => hfresh x hm (hold.left.known x hx)⟩
  | @take y rest heq =>
    rw [Multiset.mem_cons]
    refine not_or.mpr ⟨fun hxy => ?_, hnot⟩
    exact hold.left.queued x hx (by simp [heq, hxy])
  | @round y rest heq =>
    rw [Multiset.mem_cons]
    refine not_or.mpr ⟨fun hxy => ?_, hnot⟩
    exact hold.left.repeating x hx (by simp [heq, hxy])
  | hand heq hsaid => exact fun hm => hnot (by simp [heq, hm])
  | lose heq => exact fun hm => hnot (by simp [heq, hm])

/-- In the end a token that was neither copied nor handed over has been told of exactly once. -/
theorem Gone.told_once (h : Gone old d) (hx : x ∈ old) (hc : x ∉ d.copied) (hh : x ∉ d.handed) :
    d.told.count x = 1 := by
  rcases h.left.fate x hx with hc' | hi | hh' | ht
  · exact absurd hc' hc
  · exact absurd hi (h.inHand x hx)
  · exact absurd hh' hh
  · exact ht

end Sound

end Drain

end Library
