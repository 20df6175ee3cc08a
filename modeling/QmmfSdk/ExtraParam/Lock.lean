import QmmfSdk.ExtraParam.Container
import QmmfSdk.Library.Fallible

/-! The lock of `ExtraParam`: who may read the buffer through a pointer, and what takes it away. -/
namespace QmmfSdk

open Library

namespace ExtraParam

/-- What a pointer from `GetAndLock` refers to: the memory, its bytes and the index. -/
structure View where
  data : Nat
  buffer : List UInt8
  index : OrdMap UInt32 (List Nat)

/-- A container, `data_buffer_.data()`, and the users between `GetAndLock` and their
`ReturnAndUnlock`, with what they were given. -/
structure Shared where
  param : ExtraParam := {}
  data : Nat := 0
  holders : List (Nat × View) := []

namespace Shared

variable {ty : TagTypes}

def view (s : Shared) : View := ⟨s.data, s.param.dataBuffer, s.param.dataMap⟩

/-- Where the buffer lies after a change: a vector moves only when it grows. -/
def changeTo (s : Shared) (param : ExtraParam) (data : Nat) : Shared :=
  { s with
    param := param
    data := if s.param.dataBuffer.length < param.dataBuffer.length then data else s.data }

def releaseOwnership (s : Shared) : Shared :=
  { s with param := { s.param with dataMap := ∅, dataBuffer := [] } }

def getAndLock (s : Shared) (user : Nat) : Shared :=
  { s with param := { s.param with locked := true }, holders := (user, s.view) :: s.holders }

/-- A pointer that is taken back ends one hold of the user that gave it. -/
def returnAndUnlock (s : Shared) (user data : Nat) : Int × Shared :=
  if !s.param.locked then (EPERM, s)
  else if data ≠ s.data then (EINVAL, s)
  else
    (0, { s with
      param := { s.param with locked := false }
      holders := s.holders.eraseP fun h => h.1 = user })

/-- The end of a copy from the container: its own `GetAndLock` and `ReturnAndUnlock`. -/
def lockAndUnlock (s : Shared) : Shared := { s with param := { s.param with locked := false } }

/-- `ExtraParam(const ExtraParam &other)` from the container. -/
def copyOf (s : Shared) : Except Fault (ExtraParam × Shared) := do
  let (_, copy) ← acquire {} s.param.dataBuffer
  return (copy, s.lockAndUnlock)

/-- `operator=` into `target`, whose buffer lies at `at_`; its answer is not looked at. -/
def assignTo (s : Shared) (target : ExtraParam) (at_ : Nat) : Except Fault (ExtraParam × Shared) := do
  if s.data ≠ at_ then
    let (_, target) ← target.acquire s.param.dataBuffer
    return (target, s.lockAndUnlock)
  else return (target, s.lockAndUnlock)

/-- `operator=` from `other`, whose buffer lies at `source`. -/
def assignFrom (s : Shared) (other : ExtraParam) (source data : Nat) : Except Fault Shared := do
  if source ≠ s.data then
    let (_, param) ← s.param.acquire other.dataBuffer
    return s.changeTo param data
  else return s

/-- The public operations, with the user where it matters and with where a grown buffer lies. -/
inductive Action (ty : TagTypes) where
  | change (op : Op ty) (data : Nat)
  | acquire (bytes : List UInt8) (data : Nat)
  | releaseOwnership
  | getAndLock (user : Nat)
  | returnAndUnlock (user data : Nat)
  | copyOf
  | assignTo (target : ExtraParam) (at_ : Nat)
  | assignFrom (other : ExtraParam) (source data : Nat)
  | assignSelf

/-- The container after an operation that returns. -/
def perform (s : Shared) : Action ty → Except Fault Shared
  | .change op data => do
    let (_, param) ← s.param.call op
    return s.changeTo param data
  | .acquire bytes data => do
    let (_, param) ← s.param.acquire bytes
    return s.changeTo param data
  | .releaseOwnership => return s.releaseOwnership
  | .getAndLock user => return s.getAndLock user
  | .returnAndUnlock user data => return (s.returnAndUnlock user data).2
  | .copyOf => return (← s.copyOf).2
  | .assignTo target at_ => return (← s.assignTo target at_).2
  | .assignFrom other source data => s.assignFrom other source data
  -- the pointers are equal, so nothing is acquired
  | .assignSelf => return s.lockAndUnlock

def step (s : Shared) (a : Action ty) : Option Shared := (s.perform a).toOption

/-- Every holder has what it was given, and whoever wants to change it is refused. -/
structure Protected (ty : TagTypes) (s : Shared) : Prop where
  same : ∀ h ∈ s.holders, h.2 = s.view
  refusesChange : s.holders ≠ [] → ∀ op : Op ty, ∃ e < 0, s.param.call op = .ok (e, s.param)
  refusesAcquire : s.holders ≠ [] → ∀ bytes, s.param.acquire bytes = .ok (EPERM, s.param)

/-- While the lock is held, nobody takes the contents out, copies the container or assigns from it,
and only its last holder gives the pointer back. -/
def KeepsLock (s : Shared) : Action ty → Prop
  | .releaseOwnership => s.holders ≠ [] → s.param.dataBuffer = [] ∧ s.param.dataMap = ∅
  | .returnAndUnlock user data => data = s.data → (s.holders.eraseP fun h => h.1 = user) = []
  | .copyOf | .assignTo .. | .assignSelf => s.holders = []
  | .change .. | .acquire .. | .getAndLock _ | .assignFrom .. => True

variable {s t : Shared} {a : Action ty} {c : ExtraParam}

theorem refuses_of_locked (h : c.locked = true) (op : Op ty) :
    ∃ e < 0, c.call op = .ok (e, c) := by
  cases op with
  | update tag data entry =>
    by_cases htag : data.tagId ≠ tag
    · exact ⟨EINVAL, by decide, by simp [call, update, htag]⟩
    · exact ⟨EPERM, by decide, by simp [call, update, htag, fillDataEntry, h]⟩
  | remove tag entry => exact ⟨EPERM, by decide, by simp [call, remove, h]⟩
  | erase tag => exact ⟨EPERM, by decide, by simp [call, erase, h]⟩
  | clear => exact ⟨EPERM, by decide, by simp [call, clear, h]⟩

theorem acquire_of_locked (h : c.locked = true) (bytes : List UInt8) :
    c.acquire bytes = .ok (EPERM, c) := by
  simp [acquire, h]

/-- The lock is what refuses: `Clear` is refused by nothing else. -/
theorem protected_iff : Protected ty s ↔
    (∀ h ∈ s.holders, h.2 = s.view) ∧ (s.holders ≠ [] → s.param.locked = true) := by
  constructor
  · intro h
    refine ⟨h.same, fun hheld => ?_⟩
    obtain ⟨e, he, hclear⟩ := h.refusesChange hheld .clear
    by_contra hunlocked
    have hok : s.param.call (.clear : Op ty) =
        .ok (0, { s.param with dataMap := ∅, dataBuffer := [] }) := by
      rw [call, clear, if_neg hunlocked]
    rw [hok] at hclear
    obtain ⟨rfl, -⟩ := Prod.mk.inj (Except.ok.inj hclear)
    exact absurd he (by decide)
  · intro h
    exact ⟨h.1, fun hheld => refuses_of_locked (h.2 hheld), fun hheld => acquire_of_locked (h.2 hheld)⟩

theorem changeTo_self {data : Nat} : s.changeTo s.param data = s := by
  simp [changeTo]

theorem protected_of_no_holders (h : s.holders = []) : Protected ty s :=
  protected_iff.mpr ⟨by simp [h], fun hheld => absurd h hheld⟩

theorem protected_init : Protected ty {} := protected_of_no_holders rfl

/-- Without the lock the container is protected only if nobody holds it. -/
theorem protected_lockAndUnlock : Protected ty s.lockAndUnlock ↔ s.holders = [] := by
  constructor
  · intro h
    by_contra hheld
    have hlocked := (protected_iff.mp h).2 hheld
    cases hlocked
  · exact fun h => protected_of_no_holders h

theorem protected_getAndLock {user : Nat} (h : Protected ty s) : Protected ty (s.getAndLock user) := by
  refine protected_iff.mpr ⟨fun x hx => ?_, fun _ => rfl⟩
  obtain rfl | hx := List.mem_cons.mp hx
  · rfl
  · exact h.same x hx

theorem protected_releaseOwnership (h : Protected ty s) : Protected ty s.releaseOwnership ↔
    (s.holders ≠ [] → s.param.dataBuffer = [] ∧ s.param.dataMap = ∅) := by
  constructor
  · intro ht hheld
    obtain ⟨x, hx⟩ := List.exists_mem_of_ne_nil _ hheld
    have hview := (h.same x hx).symm.trans (ht.same x hx)
    injection hview with _ hbuffer hindex
    exact ⟨hbuffer, hindex⟩
  · intro hempty
    refine protected_iff.mpr ⟨fun x hx => ?_, (protected_iff.mp h).2⟩
    obtain ⟨hbuffer, hindex⟩ := hempty (List.ne_nil_of_mem hx)
    rw [h.same x hx, view, hbuffer, hindex]
    rfl

theorem protected_returnAndUnlock {user data : Nat} (h : Protected ty s) :
    Protected ty (s.returnAndUnlock user data).2 ↔
      (data = s.data → (s.holders.eraseP fun h => h.1 = user) = []) := by
  unfold returnAndUnlock
  cases hlocked : s.param.locked with
  | false =>
    -- nobody holds an unlocked container
    have hfree : s.holders = [] := by
      by_contra hheld
      rw [(protected_iff.mp h).2 hheld] at hlocked
      cases hlocked
    simp [hfree, h]
  | true =>
    by_cases hdata : data ≠ s.data
    · simp [hdata, h]
    · simp only [Bool.not_true, Bool.false_eq_true, if_false, if_neg hdata]
      rw [ne_eq, not_not] at hdata
      constructor
      · intro ht _
        by_contra hheld
        have hlocked' := (protected_iff.mp ht).2 hheld
        cases hlocked'
      · exact fun hlast => protected_of_no_holders (hlast hdata)

/-- Copying from the container leaves it unlocked, whatever becomes of the copy. -/
theorem copyOf_ok {x : ExtraParam × Shared} (h : s.copyOf = .ok x) : x.2 = s.lockAndUnlock := by
  obtain ⟨⟨e, copy⟩, -, h⟩ := bind_eq_ok_iff.mp h
  obtain rfl := Except.ok.inj h
  rfl

theorem assignTo_ok {target : ExtraParam} {at_ : Nat} {x : ExtraParam × Shared}
    (h : s.assignTo target at_ = .ok x) : x.2 = s.lockAndUnlock := by
  unfold assignTo at h
  split at h
  · obtain ⟨⟨e, copy⟩, -, h⟩ := bind_eq_ok_iff.mp h
    obtain rfl := Except.ok.inj h
    rfl
  · obtain rfl := Except.ok.inj h
    rfl

theorem step_eq_some : s.step a = some t ↔ s.perform a = .ok t := by
  unfold step
  cases s.perform a <;> simp [Except.toOption]

/-- A change or an acquisition: refused while the container is held. -/
theorem protected_changeTo {x : Result} {data : Nat} (h : Protected ty s)
    (hrefused : s.holders ≠ [] → ∃ e, x = .ok (e, s.param))
    (hstep : (x >>= fun y => pure (s.changeTo y.2 data)) = Except.ok t) : Protected ty t := by
  by_cases hheld : s.holders = []
  · cases x with
    | error e => cases hstep
    | ok y =>
      obtain rfl := Except.ok.inj hstep
      exact protected_of_no_holders hheld
  · obtain ⟨e, rfl⟩ := hrefused hheld
    obtain rfl := Except.ok.inj hstep
    rw [changeTo_self]
    exact h

/-- A step keeps the protection exactly if it keeps the lock. -/
theorem protected_step (h : Protected ty s) (hstep : s.step a = some t) :
    Protected ty t ↔ KeepsLock s a := by
  rw [step_eq_some] at hstep
  cases a with
  | change op data =>
    refine iff_of_true (protected_changeTo h (fun hheld => ?_) hstep) trivial
    obtain ⟨e, -, hrefused⟩ := h.refusesChange hheld op
    exact ⟨e, hrefused⟩
  | acquire bytes data =>
    refine iff_of_true (protected_changeTo h (fun hheld => ?_) hstep) trivial
    exact ⟨EPERM, h.refusesAcquire hheld bytes⟩
  | releaseOwnership =>
    obtain rfl := Except.ok.inj hstep
    exact protected_releaseOwnership h
  | getAndLock user =>
    obtain rfl := Except.ok.inj hstep
    exact iff_of_true (protected_getAndLock h) trivial
  | returnAndUnlock user data =>
    obtain rfl := Except.ok.inj hstep
    exact protected_returnAndUnlock h
  | copyOf =>
    obtain ⟨x, hx, hstep⟩ := bind_eq_ok_iff.mp hstep
    obtain rfl := Except.ok.inj hstep
    rw [copyOf_ok hx]
    exact protected_lockAndUnlock
  | assignTo target at_ =>
    obtain ⟨x, hx, hstep⟩ := bind_eq_ok_iff.mp hstep
    obtain rfl := Except.ok.inj hstep
    rw [assignTo_ok hx]
    exact protected_lockAndUnlock
  | assignFrom other source data =>
    refine iff_of_true ?_ trivial
    simp only [perform, assignFrom] at hstep
    split at hstep
    · exact protected_changeTo h (fun hheld => ⟨EPERM, h.refusesAcquire hheld _⟩) hstep
    · obtain rfl := Except.ok.inj hstep
      exact h
  | assignSelf =>
    obtain rfl := Except.ok.inj hstep
    exact protected_lockAndUnlock

/-- In a run of public operations every holder keeps its view, and every change is refused while
there is one, if and only if each step keeps the lock. -/
theorem protected_iff_keepsLock {as : List (Action ty)} (hrun : LTS.run step {} as = some s) :
    (∀ bs cs t, as = bs ++ cs → LTS.run step {} bs = some t → Protected ty t) ↔
      LTS.Meets step KeepsLock {} as :=
  LTS.forall_prefix_iff_meets (fun _ _ _ h hstep => protected_step h hstep) protected_init hrun

def blankTags : TagTypes := ⟨fun _ => 4, fun _ => by decide⟩

/-- One empty entry, at address 64, lent to the user 1. -/
def lent : List (Action blankTags) := [.acquire (List.replicate 12 0) 64, .getAndLock 1]

def lentState : Shared :=
  let index := (∅ : OrdMap UInt32 (List Nat)).insertIfNew 0 [0]
  let buffer := List.replicate 12 0
  { param := ⟨true, index, buffer⟩, data := 64, holders := [(1, ⟨64, buffer, index⟩)] }

theorem run_lent : LTS.run step {} lent = some lentState := rfl

theorem protected_iff_keepsLock_lent : Protected blankTags lentState :=
  (protected_iff_keepsLock run_lent).mpr ⟨trivial, fun _ _ => ⟨trivial, fun _ _ => trivial⟩⟩ lent []
    lentState rfl run_lent

/-- While the user 1 holds the pointer, the contents are taken out. -/
theorem releaseOwnership_ignores_lock : ∃ s,
    LTS.run step {} (lent ++ [.releaseOwnership]) = some s ∧ ¬ Protected blankTags s := by
  refine ⟨lentState.releaseOwnership, rfl, fun h => ?_⟩
  have hsame := h.same (1, lentState.view) (List.mem_singleton.mpr rfl)
  injection hsame with _ hbuffer
  exact absurd hbuffer (by decide)

end Shared

end ExtraParam

end QmmfSdk
