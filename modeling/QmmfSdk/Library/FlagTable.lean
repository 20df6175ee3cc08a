import Mathlib.Data.List.Basic

/-! Words of flags, and tables that translate the flags of one word into those of another. -/
namespace Library.FlagTable

variable {n : Nat} {table : List (BitVec n × BitVec n)} {a b w w' : BitVec n} {i : Nat}

/-- The two words have a bit in common. -/
def Hits (a w : BitVec n) : Prop := a &&& w ≠ 0

instance : DecidableRel (Hits (n := n)) := fun a w => inferInstanceAs (Decidable (a &&& w ≠ 0))

/-- All second words of the entries whose first word the given word hits. -/
def translate (table : List (BitVec n × BitVec n)) (w : BitVec n) : BitVec n :=
  table.foldl (fun acc e => if Hits e.1 w then acc ||| e.2 else acc) 0

theorem hits_iff : Hits a w ↔ ∃ i, a.getLsbD i = true ∧ w.getLsbD i = true := by
  unfold Hits
  constructor
  · intro h
    by_contra hnone
    apply h
    apply BitVec.eq_of_getLsbD_eq
    intro i hi
    have hboth : ¬ (a.getLsbD i = true ∧ w.getLsbD i = true) := fun hboth => hnone ⟨i, hboth⟩
    simpa using hboth
  · rintro ⟨i, ha, hw⟩ hzero
    have hbit := congrArg (fun v => v.getLsbD i) hzero
    simp [ha, hw] at hbit

theorem hits_comm : Hits a w ↔ Hits w a := by
  simp only [hits_iff, and_comm]

theorem not_hits_zero : ¬ Hits a 0 := by
  simp [hits_iff]

theorem getLsbD_foldl (acc : BitVec n) :
    (table.foldl (fun acc e => if Hits e.1 w then acc ||| e.2 else acc) acc).getLsbD i = true ↔
      acc.getLsbD i = true ∨ ∃ e ∈ table, Hits e.1 w ∧ e.2.getLsbD i = true := by
  induction table generalizing acc with
  | nil => simp
  | cons e table ih =>
    rw [List.foldl_cons, ih]
    by_cases he : Hits e.1 w
    · simp [he, or_assoc]
    · simp [he]

theorem getLsbD_translate :
    (translate table w).getLsbD i = true ↔ ∃ e ∈ table, Hits e.1 w ∧ e.2.getLsbD i = true := by
  unfold translate
  rw [getLsbD_foldl]
  simp

/-- What a translation hits, it has from one of its entries. -/
theorem hits_translate : Hits a (translate table w) ↔ ∃ e ∈ table, Hits e.1 w ∧ Hits a e.2 := by
  simp only [hits_iff, getLsbD_translate]
  constructor
  · rintro ⟨i, ha, e, he, hw, hi⟩
    exact ⟨e, he, hw, i, ha, hi⟩
  · rintro ⟨e, he, hw, i, ha, hi⟩
    exact ⟨i, ha, e, he, hw, hi⟩

/-- Two words are translated alike when they hit the same entries; one that gives nothing does not
count. -/
theorem translate_congr (h : ∀ e ∈ table, e.2 = 0 ∨ (Hits e.1 w ↔ Hits e.1 w')) :
    translate table w = translate table w' := by
  apply BitVec.eq_of_getLsbD_eq
  intro i _
  rw [Bool.eq_iff_iff, getLsbD_translate, getLsbD_translate]
  refine exists_congr fun e => and_congr_right fun he => ?_
  obtain hzero | hiff := h e he
  · simp [hzero]
  · rw [hiff]

theorem hits_twoPow : Hits (BitVec.twoPow n i) w ↔ w.getLsbD i = true := by
  rw [hits_iff]
  constructor
  · rintro ⟨j, hj, hw⟩
    rw [BitVec.getLsbD_twoPow] at hj
    simp only [Bool.and_eq_true, decide_eq_true_eq] at hj
    rwa [hj.2]
  · intro hw
    have hlt := BitVec.lt_of_getLsbD hw
    exact ⟨i, by simp [hlt], hw⟩

theorem hits_twoPow_twoPow {j : Nat} (hi : i < n) :
    Hits (BitVec.twoPow n i) (BitVec.twoPow n j) ↔ i = j := by
  rw [hits_twoPow, BitVec.getLsbD_twoPow]
  simp only [Bool.and_eq_true, decide_eq_true_eq]
  exact ⟨fun h => h.2.symm, fun h => ⟨h ▸ hi, h.symm⟩⟩

end Library.FlagTable
