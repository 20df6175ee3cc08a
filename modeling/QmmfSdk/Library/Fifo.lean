import Mathlib.Algebra.Order.Group.Multiset

/-! Bounded first-in first-out queues that drop the oldest on overflow, and the books of what became
of each element. -/
namespace Library

universe u

/-- `capacity` is `none` for a queue without a bound; `keep` elements stay when the first pop after
an overflow begins. -/
structure Limits where
  capacity : Option Nat
  keep : Nat

/-- The bound lets an element in, and one is kept. -/
def Limits.Sound (l : Limits) : Prop := ∀ c, l.capacity = some c → 1 ≤ l.keep ∧ l.keep ≤ c

structure Fifo (α : Type u) where
  /-- The oldest first. -/
  items : List α
  overflow : Bool

namespace Fifo

variable {α : Type u}

def Full (l : Limits) (f : Fifo α) : Prop := ∃ c, l.capacity = some c ∧ c ≤ f.items.length

instance (l : Limits) (f : Fifo α) : Decidable (f.Full l) :=
  match h : l.capacity with
  | none => .isFalse fun ⟨c, hc, _⟩ => by rw [h] at hc; cases hc
  | some c => decidable_of_iff (c ≤ f.items.length) (by simp [Full, h])

/-- With what is dropped for it. -/
def push (l : Limits) (x : α) (f : Fifo α) : Fifo α × List α :=
  if f.Full l then (⟨f.items.drop 1 ++ [x], true⟩, f.items.take 1)
  else (⟨f.items ++ [x], f.overflow⟩, [])

def settle (l : Limits) (f : Fifo α) : Fifo α × List α :=
  if f.overflow then
    (⟨f.items.drop (f.items.length - l.keep), false⟩, f.items.take (f.items.length - l.keep))
  else (f, [])

/-- The element, and what is dropped before it. -/
def pop (l : Limits) (f : Fifo α) : Fifo α × Option α × List α :=
  if f.items = [] then (f, none, [])
  else
    let (g, dropped) := f.settle l
    (⟨g.items.drop 1, g.overflow⟩, g.items.head?, dropped)

/-- All at once, the newest first. -/
def clear (f : Fifo α) : Fifo α × List α := (⟨[], f.overflow⟩, f.items.reverse)

/-- What became of the elements, and whether one was dropped for another since the last pop. -/
structure Ledger (α : Type u) where
  pushed : List α := []
  popped : List α := []
  dropped : List α := []
  cleared : List α := []
  pressed : Bool := false

inductive Op (α : Type u) where
  | push (x : α)
  | pop
  | clear

def exec (l : Limits) (s : Fifo α × Ledger α) : Op α → Fifo α × Ledger α
  | .push x =>
    let (f, out) := s.1.push l x
    (f, { s.2 with
      pushed := s.2.pushed ++ [x]
      dropped := s.2.dropped ++ out
      pressed := s.2.pressed || !out.isEmpty })
  | .pop =>
    let (f, x, out) := s.1.pop l
    (f, { s.2 with
      popped := s.2.popped ++ x.toList
      dropped := s.2.dropped ++ out
      pressed := s.2.pressed && x.isNone })
  | .clear =>
    let (f, out) := s.1.clear
    (f, { s.2 with cleared := s.2.cleared ++ out })

/-- The elements in the queue are the newest; the others went out in order, each in one way. -/
structure Accounted (l : Limits) (s : Fifo α × Ledger α) : Prop where
  split : ∃ gone, s.2.pushed = gone ++ s.1.items ∧ s.2.popped.Sublist gone ∧
    gone.Perm (s.2.popped ++ (s.2.dropped ++ s.2.cleared))
  bounded : ∀ c, l.capacity = some c → s.1.items.length ≤ c
  unbounded : l.capacity = none → s.2.dropped = [] ∧ s.1.overflow = false
  flag : s.1.overflow = s.2.pressed

variable {l : Limits} {f : Fifo α} {b : Ledger α} {x : α}

theorem accounted_init : Accounted l (⟨[], false⟩, ({} : Ledger α)) where
  split := ⟨[], rfl, .slnil, .nil⟩
  bounded := fun _ _ => Nat.zero_le _
  unbounded := fun _ => ⟨rfl, rfl⟩
  flag := rfl

theorem not_full_of_unbounded (h : l.capacity = none) : ¬ f.Full l := by
  rintro ⟨c, hc, -⟩
  rw [h] at hc
  cases hc

/-- A full queue has an element to drop. -/
theorem items_of_full (hl : l.Sound) (h : f.Full l) : ∃ y ys, f.items = y :: ys := by
  obtain ⟨c, hc, hle⟩ := h
  have hs := hl c hc
  cases hitems : f.items with
  | nil =>
    rw [hitems, List.length_nil] at hle
    omega
  | cons y ys => exact ⟨y, ys, rfl⟩

theorem push_of_full {y : α} {ys : List α} (h : f.Full l) (hitems : f.items = y :: ys) :
    f.push l x = (⟨ys ++ [x], true⟩, [y]) := by
  rw [push, if_pos h, hitems]
  rfl

theorem push_of_room (h : ¬ f.Full l) : f.push l x = (⟨f.items ++ [x], f.overflow⟩, []) := if_neg h

theorem pop_of_nil (h : f.items = []) : f.pop l = (f, none, []) := if_pos h

/-- What a pop finds: with an overflow behind it, the oldest of those that are kept. -/
theorem pop_of_items {y : α} {out rest : List α} (hitems : f.items = out ++ y :: rest)
    (hout : out.length = if f.overflow then f.items.length - l.keep else 0) :
    f.pop l = (⟨rest, false⟩, some y, out) := by
  have hne : f.items ≠ [] := by simp [hitems]
  rw [pop, if_neg hne, settle]
  cases hov : f.overflow with
  | true =>
    rw [hov, if_pos rfl] at hout
    rw [if_pos rfl, ← hout, hitems, List.drop_left, List.take_left]
    rfl
  | false =>
    rw [hov, if_neg Bool.false_ne_true] at hout
    obtain rfl := List.length_eq_zero_iff.mp hout
    rw [if_neg Bool.false_ne_true]
    dsimp only
    rw [hitems, hov]
    rfl

theorem split_of_lt {xs : List α} {k : Nat} (h : k < xs.length) :
    ∃ out y rest, xs = out ++ y :: rest ∧ out.length = k := by
  refine ⟨xs.take k, xs[k], xs.drop (k + 1), ?_, ?_⟩
  · rw [← List.drop_eq_getElem_cons h, List.take_append_drop]
  · rw [List.length_take]
    omega

/-- There is always such an element. -/
theorem split_of_items (hl : l.Sound) (hov : l.capacity = none → f.overflow = false)
    (hne : f.items ≠ []) : ∃ out y rest, f.items = out ++ y :: rest ∧
      out.length = if f.overflow then f.items.length - l.keep else 0 := by
  have hpos : 0 < f.items.length := List.length_pos_iff.mpr hne
  have hlt : (if f.overflow then f.items.length - l.keep else 0) < f.items.length := by
    cases hflag : f.overflow with
    | false => simpa using hpos
    | true =>
      cases hc : l.capacity with
      | none =>
        rw [hov hc] at hflag
        cases hflag
      | some c =>
        have hs := hl c hc
        rw [if_pos rfl]
        omega
  exact split_of_lt hlt

theorem Accounted.push (hl : l.Sound) (h : Accounted l (f, b)) :
    Accounted l (exec l (f, b) (.push x)) := by
  obtain ⟨gone, hpushed, hsub, hperm⟩ := h.split
  by_cases hfull : f.Full l
  · obtain ⟨y, ys, hitems⟩ := items_of_full hl hfull
    simp only [exec, push_of_full hfull hitems]
    refine ⟨⟨gone ++ [y], ?_, hsub.trans (List.sublist_append_left _ _), ?_⟩, ?_, ?_, ?_⟩
    · simp only at hpushed
      rw [hpushed, hitems]
      simp
    · rw [← Multiset.coe_eq_coe] at hperm ⊢
      simp only [← Multiset.coe_add] at hperm ⊢
      rw [hperm]
      ac_rfl
    · intro c hc
      have hle := h.bounded c hc
      simp only [hitems, List.length_cons, List.length_append, List.length_nil] at hle ⊢
      omega
    · intro hc
      exact absurd hfull (not_full_of_unbounded hc)
    · simp
  · simp only [exec, push_of_room hfull]
    refine ⟨⟨gone, ?_, hsub, ?_⟩, ?_, ?_, ?_⟩
    · simp only at hpushed
      rw [hpushed, List.append_assoc]
    · rw [List.append_nil]
      exact hperm
    · intro c hc
      have hroom : ¬ c ≤ f.items.length := fun hle => hfull ⟨c, hc, hle⟩
      rw [List.length_append, List.length_singleton]
      omega
    · intro hc
      rw [List.append_nil]
      exact h.unbounded hc
    · simpa using h.flag

theorem Accounted.pop (hl : l.Sound) (h : Accounted l (f, b)) :
    Accounted l (exec l (f, b) .pop) := by
  obtain ⟨gone, hpushed, hsub, hperm⟩ := h.split
  by_cases hnil : f.items = []
  · simp only [exec, pop_of_nil hnil, Option.toList_none, List.append_nil, Option.isNone_none,
      Bool.and_true]
    exact h
  · obtain ⟨out, y, rest, hitems, hout⟩ :=
      split_of_items (f := f) hl (fun hc => (h.unbounded hc).2) hnil
    simp only [exec, pop_of_items hitems hout]
    refine ⟨⟨gone ++ (out ++ [y]), ?_, ?_, ?_⟩, ?_, ?_, ?_⟩
    · simp only at hpushed
      rw [hpushed, hitems]
      simp
    · exact hsub.append (List.sublist_append_right _ _)
    · rw [← Multiset.coe_eq_coe] at hperm ⊢
      simp only [← Multiset.coe_add, Option.toList_some] at hperm ⊢
      rw [hperm]
      ac_rfl
    · intro c hc
      have hle := h.bounded c hc
      simp only [hitems, List.length_append, List.length_cons] at hle ⊢
      omega
    · intro hc
      obtain ⟨hdropped, hov⟩ := h.unbounded hc
      simp only at hdropped hov
      rw [hov, if_neg Bool.false_ne_true] at hout
      rw [hdropped, List.length_eq_zero_iff.mp hout]
      exact ⟨rfl, rfl⟩
    · simp

theorem Accounted.clear (h : Accounted l (f, b)) : Accounted l (exec l (f, b) .clear) := by
  obtain ⟨gone, hpushed, hsub, hperm⟩ := h.split
  refine ⟨⟨gone ++ f.items, ?_, hsub.trans (List.sublist_append_left _ _), ?_⟩, ?_, h.unbounded,
    h.flag⟩
  · simpa [exec, Fifo.clear] using hpushed
  · rw [← Multiset.coe_eq_coe] at hperm ⊢
    simp only [exec, Fifo.clear, ← Multiset.coe_add, Multiset.coe_reverse] at hperm ⊢
    rw [hperm]
    ac_rfl
  · intro c hc
    exact Nat.zero_le _

/-- After an overflow a pop leaves fewer than are kept, and they are the newest. -/
theorem pop_of_overflow (hl : l.Sound) (h : Accounted l (f, b)) (hov : f.overflow = true)
    (hne : f.items ≠ []) :
    (f.pop l).1.items.length ≤ l.keep - 1 ∧ (f.pop l).1.items <:+ b.pushed := by
  obtain ⟨gone, hpushed, -, -⟩ := h.split
  obtain ⟨out, y, rest, hitems, hout⟩ := split_of_items (f := f) hl (fun hc => (h.unbounded hc).2) hne
  rw [pop_of_items hitems hout]
  rw [hov, if_pos rfl] at hout
  constructor
  · have hlen : f.items.length = out.length + (rest.length + 1) := by
      rw [hitems, List.length_append, List.length_cons]
    simp only
    omega
  · refine ⟨gone ++ (out ++ [y]), ?_⟩
    simp only at hpushed
    rw [hpushed, hitems]
    simp

end Fifo

end Library
