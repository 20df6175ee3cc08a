import QmmfSdk.Library.Transition

/-! Non-interference by unwinding: what an observer can tell of a run that he sees in part. -/
namespace Library

namespace LTS

universe u v w x

variable {σ : Type u} {α : Type v} {β : Type w} {ω : Type x} {f : σ → α → Option σ}
  {G : σ → α → Prop} {seen : α → Bool} {answer : σ → α → β} {V : σ → ω} {F : ω → α → β → ω}
  {P : σ → Prop} {s s' t t' : σ} {as bs : List α}

/-- The answers to the steps that the observer sees. -/
def answers (f : σ → α → Option σ) (seen : α → Bool) (answer : σ → α → β) : σ → List α → List β
  | _, [] => []
  | s, a :: as =>
    let rest := match f s a with
      | some t => answers f seen answer t as
      | none => []
    if seen a then answer s a :: rest else rest

/-- The view is unwound: a step that is seen changes it as its answer says, any other one does
not change it. -/
def Unwinds (f : σ → α → Option σ) (G : σ → α → Prop) (P : σ → Prop) (seen : α → Bool)
    (answer : σ → α → β) (V : σ → ω) (F : ω → α → β → ω) : Prop :=
  ∀ s a t, P s → G s a → f s a = some t → V t = if seen a then F (V s) a (answer s a) else V s

/-- The view at the end of a run is made from its beginning by the steps that are seen. -/
theorem view_of_mTr (hV : Unwinds f G P seen answer V F) (hP : ((ofStep f).guarded G).TrInv P)
    (hs : P s) (h : ((ofStep f).guarded G).MTr s as t) :
    V t = ((as.filter seen).zip (answers f seen answer s as)).foldl (fun v e => F v e.1 e.2) (V s) := by
  induction h with
  | refl => rfl
  | @stepL s u t a as hstep _ ih =>
    have hf : f s a = some u := hstep.1
    rw [ih (hP _ _ _ hstep hs), hV s a u hs hstep.2 hf, answers, hf]
    cases hseen : seen a with
    | true => simp [hseen]
    | false => simp [hseen]

/-- Runs in which the same is seen end with the same view. -/
theorem view_eq_of_agree (hV : Unwinds f G P seen answer V F)
    (hP : ((ofStep f).guarded G).TrInv P) (hs : P s) (ht : P t) (heq : V s = V t)
    (h : ((ofStep f).guarded G).MTr s as s') (h' : ((ofStep f).guarded G).MTr t bs t')
    (hseen : as.filter seen = bs.filter seen)
    (hanswers : answers f seen answer s as = answers f seen answer t bs) : V s' = V t' := by
  rw [view_of_mTr hV hP hs h, view_of_mTr hV hP ht h', hseen, hanswers, heq]

end LTS

end Library
