import Mathlib.Data.List.Basic
import Mathlib.Logic.Function.Basic

/-!
# The IRQL, and the pool

`DsAcquireSpinLock` raises the current IRQL to `HIGH_LEVEL` and keeps the old one in the
lock, `DsReleaseSpinLock` lowers it to what the lock kept. `ExAllocatePoolWithTag` and
`ExFreePoolWithTag` may be called at `DISPATCH_LEVEL` at most.

What a routine does about either is a list of actions. `PoolLegal` says of such a list
that every pool call in it is made at a legal IRQL; a critical section changes nothing
outside it (`irqlAfter_locked`), and no pool call inside it is legal.
-/

namespace DeepShield.Os

/-- `KIRQL`. -/
abbrev Kirql := Nat

def passiveLevel : Kirql := 0

def dispatchLevel : Kirql := 2

def highLevel : Kirql := 15

/-- The current IRQL, and `OldIrql` of each lock. -/
structure IrqlState (Lock : Type) where
  irql : Kirql
  oldIrql : Lock → Kirql

/-- What a routine does with a lock or with the pool. -/
inductive PoolAction (Lock : Type)
  | dsAcquireSpinLock (spinLock : Lock)
  | dsReleaseSpinLock (spinLock : Lock)
  | exAllocatePoolWithTag
  | exFreePoolWithTag
deriving Repr, DecidableEq

/-- It is a call of the pool. -/
def PoolAction.isPoolCall {Lock : Type} : PoolAction Lock → Bool
  | dsAcquireSpinLock _ | dsReleaseSpinLock _ => false
  | exAllocatePoolWithTag | exFreePoolWithTag => true

section Actions

variable {Lock : Type} [DecidableEq Lock]

/-- At `PASSIVE_LEVEL`, with no lock taken. -/
def IrqlState.passive : IrqlState Lock := ⟨passiveLevel, fun _ => passiveLevel⟩

/-- `DsAcquireSpinLock`. -/
def IrqlState.acquire (s : IrqlState Lock) (spinLock : Lock) : IrqlState Lock where
  irql := highLevel
  oldIrql := Function.update s.oldIrql spinLock s.irql

/-- `DsReleaseSpinLock`. -/
def IrqlState.release (s : IrqlState Lock) (spinLock : Lock) : IrqlState Lock where
  irql := s.oldIrql spinLock
  oldIrql := Function.update s.oldIrql spinLock passiveLevel

/-- One action. -/
def irqlStep (s : IrqlState Lock) : PoolAction Lock → IrqlState Lock
  | .dsAcquireSpinLock spinLock => s.acquire spinLock
  | .dsReleaseSpinLock spinLock => s.release spinLock
  | .exAllocatePoolWithTag | .exFreePoolWithTag => s

/-- Some actions, one after the other. -/
def irqlAfter (s : IrqlState Lock) (actions : List (PoolAction Lock)) : IrqlState Lock :=
  actions.foldl irqlStep s

/-- Every pool call among the actions is at `DISPATCH_LEVEL` or below. -/
def PoolLegal : IrqlState Lock → List (PoolAction Lock) → Prop
  | _, [] => True
  | s, action :: actions =>
    (action.isPoolCall = true → s.irql ≤ dispatchLevel) ∧ PoolLegal (irqlStep s action) actions

instance PoolLegal.decidable :
    ∀ (s : IrqlState Lock) (actions : List (PoolAction Lock)), Decidable (PoolLegal s actions)
  | _, [] => isTrue trivial
  | s, action :: actions =>
    have : Decidable (PoolLegal (irqlStep s action) actions) := PoolLegal.decidable _ actions
    inferInstanceAs (Decidable (_ ∧ _))

/-- The actions between an acquire and its release. -/
def locked (spinLock : Lock) (actions : List (PoolAction Lock)) : List (PoolAction Lock) :=
  .dsAcquireSpinLock spinLock :: actions ++ [.dsReleaseSpinLock spinLock]

variable {s : IrqlState Lock} {spinLock : Lock} {actions actions' : List (PoolAction Lock)}

@[simp] theorem irqlAfter_nil : irqlAfter s [] = s := rfl

@[simp] theorem irqlAfter_append :
    irqlAfter s (actions ++ actions') = irqlAfter (irqlAfter s actions) actions' :=
  List.foldl_append

/-- **One after the other**: both parts are legal. -/
theorem poolLegal_append :
    PoolLegal s (actions ++ actions') ↔
      PoolLegal s actions ∧ PoolLegal (irqlAfter s actions) actions' := by
  induction actions generalizing s with
  | nil => exact ⟨fun h => ⟨trivial, h⟩, fun h => h.2⟩
  | cons action actions ih =>
    show _ ∧ PoolLegal (irqlStep s action) (actions ++ actions') ↔ (_ ∧ _) ∧ _
    rw [ih, and_assoc]
    exact Iff.rfl

/-- Pool calls leave the IRQL as it is. -/
theorem irqlAfter_poolCalls (h : ∀ action ∈ actions, action.isPoolCall = true) :
    irqlAfter s actions = s := by
  induction actions generalizing s with
  | nil => rfl
  | cons action actions ih =>
    have hhead := h action List.mem_cons_self
    have hstep : irqlStep s action = s := by
      cases action with
      | dsAcquireSpinLock spinLock => exact absurd hhead (by simp [PoolAction.isPoolCall])
      | dsReleaseSpinLock spinLock => exact absurd hhead (by simp [PoolAction.isPoolCall])
      | exAllocatePoolWithTag => rfl
      | exFreePoolWithTag => rfl
    show irqlAfter (irqlStep s action) actions = s
    rw [hstep]
    exact ih fun other hother => h other (List.mem_cons_of_mem action hother)

/-- They are legal where the IRQL is, and nowhere else. -/
theorem poolLegal_poolCalls (h : ∀ action ∈ actions, action.isPoolCall = true) :
    PoolLegal s actions ↔ actions = [] ∨ s.irql ≤ dispatchLevel := by
  induction actions with
  | nil => exact iff_of_true trivial (Or.inl rfl)
  | cons action actions ih =>
    have hhead := h action List.mem_cons_self
    have hstep : irqlStep s action = s :=
      @irqlAfter_poolCalls Lock _ s [action] fun other hother => by
        rw [List.mem_singleton.mp hother]
        exact hhead
    have hrest := ih fun other hother => h other (List.mem_cons_of_mem action hother)
    show (action.isPoolCall = true → s.irql ≤ dispatchLevel) ∧
      PoolLegal (irqlStep s action) actions ↔ _
    rw [hstep, hrest]
    constructor
    · intro hboth
      exact Or.inr (hboth.1 hhead)
    · intro hlegal
      have hirql : s.irql ≤ dispatchLevel := hlegal.resolve_left (by simp)
      exact ⟨fun _ => hirql, Or.inr hirql⟩

/-- **A critical section** whose actions leave the IRQL alone does so itself. -/
theorem irqlAfter_locked (hfree : s.oldIrql spinLock = passiveLevel)
    (hactions : irqlAfter (s.acquire spinLock) actions = s.acquire spinLock) :
    irqlAfter s (locked spinLock actions) = s := by
  have hrun : irqlAfter s (locked spinLock actions)
      = (irqlAfter (s.acquire spinLock) actions).release spinLock := by
    unfold locked
    rw [irqlAfter_append]
    rfl
  rw [hrun, hactions]
  unfold IrqlState.acquire IrqlState.release
  simp only [Function.update_self, Function.update_idem]
  rw [← hfree, Function.update_eq_self]

/-- It is legal exactly if its actions are, at `HIGH_LEVEL`. -/
theorem poolLegal_locked :
    PoolLegal s (locked spinLock actions) ↔ PoolLegal (s.acquire spinLock) actions := by
  have hopen : PoolLegal s (locked spinLock actions) ↔
      PoolLegal (s.acquire spinLock) (actions ++ [.dsReleaseSpinLock spinLock]) :=
    ⟨fun h => h.2, fun h => ⟨fun hcall => absurd hcall (by simp [PoolAction.isPoolCall]), h⟩⟩
  rw [hopen, poolLegal_append]
  exact ⟨fun h => h.1, fun h =>
    ⟨h, fun hcall => absurd hcall (by simp [PoolAction.isPoolCall]), trivial⟩⟩

@[simp] theorem acquire_irql : (s.acquire spinLock).irql = highLevel := rfl

/-- Pool calls in a critical section are not legal. -/
theorem poolLegal_acquire (h : ∀ action ∈ actions, action.isPoolCall = true) :
    PoolLegal (s.acquire spinLock) actions ↔ actions = [] := by
  rw [poolLegal_poolCalls h]
  exact ⟨fun hlegal => hlegal.resolve_right (show ¬ highLevel ≤ dispatchLevel by decide), Or.inl⟩

/-- Taking one lock leaves what another one keeps. -/
theorem acquire_oldIrql {other : Lock} (h : other ≠ spinLock) :
    (s.acquire spinLock).oldIrql other = s.oldIrql other :=
  Function.update_of_ne h _ _

end Actions

end DeepShield.Os
