import QmmfSdk.Library.Fallible

/-! Partial correctness of fallible computations: what holds of the result, if there is one. -/
namespace Library

universe u

variable {ε α β σ : Type u} {x y : Except ε α} {P Q : α → Prop} {a : α} {e : ε}

/-- Every result is such a one; an error is no result. -/
def Ensures (x : Except ε α) (P : α → Prop) : Prop := ∀ a, x = .ok a → P a

@[simp] theorem ensures_ok : Ensures (.ok a : Except ε α) P ↔ P a := by
  simp [Ensures]

@[simp] theorem ensures_error : Ensures (.error e : Except ε α) P := by
  simp [Ensures]

theorem Ensures.imp (h : Ensures x P) (hPQ : ∀ a, P a → Q a) : Ensures x Q :=
  fun a ha => hPQ a (h a ha)

/-- The rule of composition. -/
theorem Ensures.bind {f : α → Except ε β} {R : β → Prop} (hx : Ensures x P)
    (hf : ∀ a, P a → Ensures (f a) R) : Ensures (x >>= f) R := by
  intro b hb
  obtain ⟨a, ha, hfa⟩ := bind_eq_ok_iff.mp hb
  exact hf a (hx a ha) b hfa

/-- The rule of the conditional. -/
theorem Ensures.ite {c : Prop} [Decidable c] (hx : c → Ensures x P) (hy : ¬ c → Ensures y P) :
    Ensures (if c then x else y) P := by
  split
  next hc => exact hx hc
  next hc => exact hy hc

/-- The rule of the loop. -/
theorem Ensures.foldlM {f : σ → α → Except ε σ} {I : σ → Prop} {as : List α} {s : σ} (hs : I s)
    (hstep : ∀ s a, I s → Ensures (f s a) I) : Ensures (as.foldlM f s) I :=
  fun _ ht => foldlM_inv hs (fun s a t _ hI h => hstep s a hI t h) ht

/-- A computation whose success is known exactly has one result. -/
theorem Ensures.of_succeeds {C : Prop} (h : ∀ P : α → Prop, Succeeds x P ↔ C ∧ P a) (ha : Q a) :
    Ensures x Q := by
  intro b hb
  have hresult : C ∧ a = b := (h (· = b)).mp ⟨b, hb, rfl⟩
  exact hresult.2 ▸ ha

end Library
