import Mathlib.Data.List.Nodup
import Mathlib.Logic.Function.Basic

/-! Doubly linked rings of heap nodes: paths along one link, and what linking a node in and taking
one out do to them. -/
namespace Library

universe u

/-- From `a` along `f` through `xs` to `b`. -/
def Path (f : Nat → Nat) : Nat → List Nat → Nat → Prop
  | a, [], b => f a = b
  | a, x :: xs, b => f a = x ∧ Path f x xs b

namespace Path

variable {f : Nat → Nat} {a b c v x : Nat} {xs ys : List Nat}

/-- Only the links of the nodes that are left matter. -/
theorem update (h : Path f a xs b) (hc : c ∉ a :: xs) : Path (Function.update f c v) a xs b := by
  induction xs generalizing a with
  | nil =>
    rw [List.mem_singleton] at hc
    rw [Path, Function.update_of_ne (Ne.symm hc)]
    exact h
  | cons x xs ih =>
    obtain ⟨hne, hx⟩ := List.ne_and_not_mem_of_not_mem_cons hc
    rw [Path, Function.update_of_ne hne.symm]
    exact ⟨h.1, ih h.2 hx⟩

theorem append_iff : Path f a (xs ++ x :: ys) b ↔ Path f a xs x ∧ Path f x ys b := by
  induction xs generalizing a with
  | nil => rfl
  | cons y xs ih => rw [List.cons_append, Path, Path, ih, and_assoc]

/-- A path can start from elsewhere, with the link that it started with. -/
theorem relink (h : Path f a xs b) (hc : c ∉ xs) (hv : f a = v) :
    Path (Function.update f c v) c xs b := by
  cases xs with
  | nil =>
    rw [Path, Function.update_self, ← hv]
    exact h
  | cons x xs =>
    refine ⟨?_, h.2.update hc⟩
    rw [Function.update_self, ← hv]
    exact h.1

/-- The last step can be sent elsewhere. -/
theorem retarget (h : Path f a xs b) (hn : (a :: xs).Nodup) :
    Path (Function.update f ((a :: xs).getLast (List.cons_ne_nil _ _)) v) a xs v := by
  induction xs generalizing a with
  | nil => exact Function.update_self ..
  | cons x xs ih =>
    rw [List.getLast_cons (List.cons_ne_nil _ _)]
    obtain ⟨ha, hx⟩ := List.nodup_cons.mp hn
    refine ⟨?_, ih h.2 hx⟩
    rw [Function.update_of_ne]
    · exact h.1
    · intro heq
      exact ha (heq ▸ List.getLast_mem _)

end Path

/-- Nodes with two links; a dead one must not be touched. -/
structure Heap (D : Type u) where
  live : Nat → Bool
  next : Nat → Nat
  prev : Nat → Nat
  data : Nat → D

namespace Heap

variable {D : Type u} (h : Heap D) (s n : Nat) (d : D)

/-- `malloc` returned `n`; its links are still what they were. -/
def alloc : Heap D :=
  { h with live := Function.update h.live n true, data := Function.update h.data n d }

/-- Links `n` in behind `s`. -/
def linkAfter : Option (Heap D) :=
  if h.live s && h.live n && h.live (h.next s) then
    some { h with
      next := Function.update (Function.update h.next n (h.next s)) s n
      prev := Function.update (Function.update h.prev (h.next s) n) n s }
  else none

/-- Takes out and frees the node before `s`, which may be `s` itself. -/
def unlinkBefore : Option (Heap D × D) :=
  let node := h.prev s
  let prev := Function.update h.prev s (h.prev node)
  if h.live s && h.live node && h.live (prev node) then
    some ({ h with
      prev := prev
      next := Function.update h.next (prev node) s
      live := Function.update h.live node false }, h.data node)
  else none

/-- Takes out and frees the node behind `s`; the links back stay as they are. -/
def unlinkAfter : Option (Heap D × D) :=
  let node := h.next s
  if h.live s && h.live node then
    some ({ h with
      next := Function.update h.next s (h.next node)
      live := Function.update h.live node false }, h.data node)
  else none

/-- `s` is linked to itself. -/
def close : Option (Heap D) :=
  if h.live s then
    some { h with next := Function.update h.next s s, prev := Function.update h.prev s s }
  else none

end Heap

variable {D : Type u} {h h' : Heap D} {s n x : Nat} {d : D} {xs : List Nat}

/-- The links forward lead from `s` through `xs` back to `s`. -/
structure Forward (h : Heap D) (s : Nat) (xs : List Nat) : Prop where
  nodup : (s :: xs).Nodup
  live : ∀ a ∈ s :: xs, h.live a = true
  next : Path h.next s xs s

/-- A ring: the links back lead the other way round. -/
structure Ring (h : Heap D) (s : Nat) (xs : List Nat) : Prop extends Forward h s xs where
  prev : Path h.prev s xs.reverse s

/-- The other nodes stay alive when one is freed. -/
theorem live_of_free {live : Nat → Bool} {l l' : List Nat} (hl : ∀ a ∈ l, live a = true)
    (hsub : l' ⊆ l) (hx : x ∉ l') : ∀ a ∈ l', Function.update live x false a = true := by
  intro a ha
  rw [Function.update_of_ne]
  · exact hl a (hsub ha)
  · intro heq
    exact hx (heq ▸ ha)

namespace Ring

theorem close (hs : h.live s = true) : ∃ h', h.close s = some h' ∧ Ring h' s [] ∧
    h'.live = h.live ∧ h'.data = h.data := by
  refine ⟨_, if_pos hs, ⟨⟨by simp, ?_, ?_⟩, ?_⟩, rfl, rfl⟩
  · intro a ha
    rw [List.mem_singleton.mp ha]
    exact hs
  · exact Function.update_self ..
  · exact Function.update_self ..

theorem notMem_of_dead (hr : Forward h s xs) (hn : h.live n = false) : n ∉ s :: xs := by
  intro hmem
  rw [hr.live n hmem] at hn
  cases hn

theorem alloc (hr : Ring h s xs) (hn : h.live n = false) : Ring (h.alloc n d) s xs := by
  refine ⟨⟨hr.nodup, ?_, hr.next⟩, hr.prev⟩
  intro a ha
  have hne : a ≠ n := by
    intro heq
    exact notMem_of_dead hr.toForward hn (heq ▸ ha)
  simp only [Heap.alloc, Function.update_of_ne hne]
  exact hr.live a ha

/-- The node behind `s`. -/
theorem next_mem (hr : Forward h s xs) : h.next s ∈ s :: xs := by
  have hp := hr.next
  cases xs with
  | nil => exact List.mem_singleton.mpr hp
  | cons x xs => simp [hp.1]

theorem linkAfter (hr : Ring h s xs) (hn : n ∉ s :: xs) (hlive : h.live n = true) :
    ∃ h', h.linkAfter s n = some h' ∧ Ring h' s (n :: xs) ∧ h'.live = h.live ∧
      h'.data = h.data := by
  obtain ⟨hns, hnx⟩ := List.ne_and_not_mem_of_not_mem_cons hn
  obtain ⟨hsx, hxs⟩ := List.nodup_cons.mp hr.nodup
  have hfirst := next_mem hr.toForward
  have hguard : (h.live s && h.live n && h.live (h.next s)) = true := by
    rw [hr.live s (by simp), hlive, hr.live _ hfirst]
    rfl
  refine ⟨_, if_pos hguard, ⟨⟨?_, ?_, ?_⟩, ?_⟩, rfl, rfl⟩
  · refine List.nodup_cons.mpr ⟨?_, List.nodup_cons.mpr ⟨hnx, hxs⟩⟩
    intro hmem
    obtain heq | hmem := List.mem_cons.mp hmem
    · exact hns heq.symm
    · exact hsx hmem
  · intro a ha
    obtain rfl | ha := List.mem_cons.mp ha
    · exact hr.live a (by simp)
    · obtain rfl | ha := List.mem_cons.mp ha
      · exact hlive
      · exact hr.live a (by simp [ha])
  · refine ⟨Function.update_self .., ?_⟩
    refine Path.update (hr.next.relink hnx rfl) ?_
    intro hmem
    obtain heq | hmem := List.mem_cons.mp hmem
    · exact hns heq.symm
    · exact hsx hmem
  · rw [List.reverse_cons, Path.append_iff]
    have hne : n ∉ s :: xs.reverse := by simpa using hn
    have hnd : (s :: xs.reverse).Nodup := by simpa using hr.nodup
    have hlast : (s :: xs.reverse).getLast (List.cons_ne_nil _ _) = h.next s := by
      have hp := hr.next
      cases xs with
      | nil => exact hp.symm
      | cons x xs => simp [hp.1]
    refine ⟨?_, Function.update_self ..⟩
    rw [← hlast]
    exact (hr.prev.retarget hnd).update hne

theorem unlinkBefore (hr : Ring h s (xs ++ [x])) :
    ∃ h', h.unlinkBefore s = some (h', h.data x) ∧ Ring h' s xs ∧ h'.data = h.data ∧
      h'.live = Function.update h.live x false := by
  have hprev := hr.prev
  rw [List.reverse_append] at hprev
  obtain ⟨hnode, hback⟩ : h.prev s = x ∧ Path h.prev x xs.reverse s := hprev
  obtain ⟨hforth, -⟩ := Path.append_iff.mp hr.next
  obtain ⟨hs, hnd⟩ := List.nodup_cons.mp hr.nodup
  obtain ⟨hsx, hs⟩ : s ∉ xs ∧ s ≠ x := by simpa using hs
  obtain ⟨hxs, -, hx⟩ := List.nodup_append.mp hnd
  have hxmem : x ∉ xs := fun hmem => hx x hmem x (by simp) rfl
  have hnd' : (s :: xs).Nodup := List.nodup_cons.mpr ⟨hsx, hxs⟩
  -- the link back of the node that goes
  have hlast : h.prev x = (s :: xs).getLast (List.cons_ne_nil _ _) := by
    obtain rfl | ⟨ys, y, rfl⟩ := List.eq_nil_or_concat xs
    · exact hback
    · rw [List.concat_eq_append, List.reverse_append] at hback
      have hy : h.prev x = y := hback.1
      simp [hy]
  have hmem : h.prev x ∈ s :: xs := hlast ▸ List.getLast_mem _
  have hkept : Function.update h.prev s (h.prev x) x = h.prev x :=
    Function.update_of_ne (Ne.symm hs) ..
  have hguard : (h.live s && h.live x && h.live (h.prev x)) = true := by
    rw [hr.live s (by simp), hr.live x (by simp), hr.live (h.prev x) ?_]
    · rfl
    · obtain heq | hin := List.mem_cons.mp hmem
      · simp [heq]
      · simp [hin]
  have hrun : h.unlinkBefore s = some ({ h with
      prev := Function.update h.prev s (h.prev x)
      next := Function.update h.next (h.prev x) s
      live := Function.update h.live x false }, h.data x) := by
    simp only [Heap.unlinkBefore, hnode, hkept, hguard, if_true]
  refine ⟨_, hrun, ⟨⟨hnd', ?_, ?_⟩, ?_⟩, rfl, rfl⟩
  · exact live_of_free hr.live (by simp) (List.not_mem_cons_of_ne_of_not_mem (Ne.symm hs) hxmem)
  · rw [hlast]
    exact hforth.retarget hnd'
  · exact hback.relink (by simpa using hsx) rfl

end Ring

theorem Forward.unlinkAfter (hr : Forward h s (x :: xs)) :
    ∃ h', h.unlinkAfter s = some (h', h.data x) ∧ Forward h' s xs ∧ h'.data = h.data := by
  obtain ⟨hs, hnd⟩ := List.nodup_cons.mp hr.nodup
  obtain ⟨hsx, hs⟩ := List.ne_and_not_mem_of_not_mem_cons hs
  obtain ⟨hx, hxs⟩ := List.nodup_cons.mp hnd
  obtain ⟨hnode, hforth⟩ := hr.next
  have hguard : (h.live s && h.live x) = true := by
    rw [hr.live s (by simp), hr.live x (by simp)]
    rfl
  have hrun : h.unlinkAfter s = some ({ h with
      next := Function.update h.next s (h.next x)
      live := Function.update h.live x false }, h.data x) := by
    simp only [Heap.unlinkAfter, hnode, hguard, if_true]
  refine ⟨_, hrun, ⟨List.nodup_cons.mpr ⟨hs, hxs⟩, ?_, ?_⟩, rfl⟩
  · exact live_of_free hr.live (by simp) (List.not_mem_cons_of_ne_of_not_mem (Ne.symm hsx) hx)
  · exact hforth.relink hs rfl

end Library
