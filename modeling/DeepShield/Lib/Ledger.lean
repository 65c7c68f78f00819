import Mathlib.Algebra.BigOperators.Group.List.Basic
import Mathlib.Algebra.Order.Group.Multiset
import Mathlib.Logic.Function.Basic
import Mathlib.Tactic.Abel
import Mathlib.Tactic.Common

/-!
# A ledger of allocations

A heap seen from outside: which blocks were handed out, how often each was
freed, and whether one was ever touched that was not live at the time. Blocks
are numbered as they are allocated and a number is never handed out again, so
"freed exactly once" is a statement about one allocation.

A program that frees what it allocated is one that can say at every point which
blocks it still holds. `Owns ledger owned` is that statement: of every block
allocated so far, the frees and the places in `owned` add up to one. The
multiset `owned` is what the data structures of the program hold between them,
and each operation has its rule:

* `Owns.alloc` puts the new block in, `Owns.free` takes one out;
* `Owns.use`: touching a block that is held changes nothing;
* `Owns.freedOnce`: a program that holds nothing has freed every block once.

`sum_map_update` and `mem_sum_map` are for the data structure that is an array,
one of whose entries is written or read.
-/

namespace DeepShield.Lib

/-- The books of a heap. -/
structure Ledger where
  next : Nat
  frees : Nat → Nat
  misused : Bool

namespace Ledger

/-- Nothing was allocated yet. -/
def empty : Ledger := { next := 0, frees := fun _ => 0, misused := false }

/-- Allocated and not freed. -/
def Live (l : Ledger) (b : Nat) : Prop := b < l.next ∧ l.frees b = 0

instance (l : Ledger) (b : Nat) : Decidable (l.Live b) :=
  inferInstanceAs (Decidable (b < l.next ∧ l.frees b = 0))

/-- An allocation that succeeds or not: the new block, if there is one. -/
def alloc (ok : Bool) (l : Ledger) : Option Nat × Ledger :=
  if ok then (some l.next, { l with next := l.next + 1 }) else (none, l)

/-- An access to a block. -/
def use (b : Nat) (l : Ledger) : Ledger := { l with misused := l.misused || !decide (l.Live b) }

/-- Freeing a block; one that is not live is misused by it. -/
def free (b : Nat) (l : Ledger) : Ledger :=
  { l.use b with frees := Function.update l.frees b (l.frees b + 1) }

/-- What is no access to a block at all: one through a null pointer. -/
def misuse (l : Ledger) : Ledger := { l with misused := true }

/-- An access through a pointer, which should not be null. -/
def usePointer (p : Option Nat) (l : Ledger) : Ledger :=
  match p with
  | none => l.misuse
  | some b => l.use b

/-- Freeing through a pointer, which should not be null. -/
def freePointer (p : Option Nat) (l : Ledger) : Ledger :=
  match p with
  | none => l.misuse
  | some b => l.free b

@[simp] theorem alloc_true (l : Ledger) :
    l.alloc true = (some l.next, { l with next := l.next + 1 }) := rfl

@[simp] theorem alloc_false (l : Ledger) : l.alloc false = (none, l) := rfl

/-- **The books balance**: every block allocated so far was freed once or is
held once, and nothing was ever misused. -/
structure Owns (l : Ledger) (owned : Multiset Nat) : Prop where
  balance : ∀ b < l.next, l.frees b + owned.count b = 1
  fresh : ∀ b, l.next ≤ b → l.frees b = 0 ∧ b ∉ owned
  notMisused : l.misused = false

theorem owns_empty : Owns empty 0 where
  balance b hb := absurd hb (Nat.not_lt_zero b)
  fresh b _ := ⟨rfl, Multiset.notMem_zero b⟩
  notMisused := rfl

variable {l : Ledger} {owned : Multiset Nat} {b : Nat}

/-- The blocks that are held are those that are live. -/
theorem Owns.live_iff (h : l.Owns owned) : l.Live b ↔ b ∈ owned := by
  by_cases hb : b < l.next
  · have hsum := h.balance b hb
    rw [← Multiset.count_pos]
    constructor
    · intro hlive
      have hfrees := hlive.2
      omega
    · intro hcount
      exact ⟨hb, by omega⟩
  · have hfresh := h.fresh b (by omega)
    exact iff_of_false (fun hlive => hb hlive.1) hfresh.2

/-- **Touching** a block that is held. -/
theorem Owns.use (h : l.Owns owned) (hb : b ∈ owned) : l.use b = l := by
  have hlive := h.live_iff.mpr hb
  unfold Ledger.use
  simp [hlive]

/-- **Allocating.** -/
theorem Owns.alloc (h : l.Owns owned) : Owns { l with next := l.next + 1 } ({l.next} + owned) where
  balance := by
    intro b hb
    rw [Multiset.count_add, Multiset.count_singleton]
    by_cases hnew : b = l.next
    · obtain ⟨hfrees, hmem⟩ := h.fresh b (by omega)
      rw [if_pos hnew, Multiset.count_eq_zero.mpr hmem]
      exact congrArg (· + 1) hfrees
    · rw [if_neg hnew, Nat.zero_add]
      have hlt : b < l.next := by
        have : b < l.next + 1 := hb
        omega
      exact h.balance b hlt
  fresh := by
    intro b hb
    have hle : l.next + 1 ≤ b := hb
    obtain ⟨hfrees, hmem⟩ := h.fresh b (by omega)
    refine ⟨hfrees, ?_⟩
    rw [Multiset.mem_add, Multiset.mem_singleton]
    intro hor
    rcases hor with rfl | hold
    · omega
    · exact hmem hold
  notMisused := h.notMisused

/-- **Freeing.** -/
theorem Owns.free (h : l.Owns ({b} + owned)) : (l.free b).Owns owned := by
  have hb : b ∈ ({b} : Multiset Nat) + owned :=
    Multiset.mem_add.mpr (Or.inl (Multiset.mem_singleton_self b))
  have huse := h.use hb
  have hfree : l.free b = { l with frees := Function.update l.frees b (l.frees b + 1) } := by
    unfold Ledger.free
    rw [huse]
  rw [hfree]
  refine ⟨fun c hc => ?_, fun c hc => ?_, h.notMisused⟩
  · have hsum := h.balance c hc
    rw [Multiset.count_add, Multiset.count_singleton] at hsum
    by_cases hcb : c = b
    · subst hcb
      rw [if_pos rfl] at hsum
      show Function.update l.frees c (l.frees c + 1) c + _ = 1
      rw [Function.update_self]
      omega
    · rw [if_neg hcb] at hsum
      show Function.update l.frees b (l.frees b + 1) c + _ = 1
      rw [Function.update_of_ne hcb]
      omega
  · obtain ⟨hfrees, hmem⟩ := h.fresh c hc
    have hcb : c ≠ b := fun heq => hmem (heq ▸ hb)
    refine ⟨?_, fun hold => hmem (Multiset.mem_add.mpr (Or.inr hold))⟩
    show Function.update l.frees b (l.frees b + 1) c = 0
    rw [Function.update_of_ne hcb]
    exact hfrees

/-- The same blocks, held in another order. -/
theorem Owns.of_eq {owned' : Multiset Nat} (h : l.Owns owned) (heq : owned = owned') :
    l.Owns owned' := heq ▸ h

/-- **Nothing held.** -/
theorem Owns.freedOnce (h : l.Owns 0) : ∀ b < l.next, l.frees b = 1 := by
  intro b hb
  have hsum := h.balance b hb
  rwa [Multiset.count_zero, Nat.add_zero] at hsum

/-- Every block was freed once, and none touched that was not live. -/
def Settled (l : Ledger) : Prop := (∀ b < l.next, l.frees b = 1) ∧ l.misused = false

theorem Owns.settled (h : l.Owns 0) : l.Settled := ⟨h.freedOnce, h.notMisused⟩

theorem not_settled_of_misused (h : l.misused = true) : ¬ l.Settled :=
  fun hsettled => absurd (h.symm.trans hsettled.2) (by decide)

theorem Owns.not_live (h : l.Owns 0) (b : Nat) : ¬ l.Live b :=
  fun hlive => absurd (h.live_iff.mp hlive) (Multiset.notMem_zero b)

/-- **What is held is determined** by the books. -/
theorem Owns.unique {owned' : Multiset Nat} (h : l.Owns owned) (h' : l.Owns owned') :
    owned = owned' := by
  refine Multiset.ext.mpr fun b => ?_
  by_cases hb : b < l.next
  · have hsum := h.balance b hb
    have hsum' := h'.balance b hb
    omega
  · rw [Multiset.count_eq_zero.mpr (h.fresh b (Nat.le_of_not_lt hb)).2,
      Multiset.count_eq_zero.mpr (h'.fresh b (Nat.le_of_not_lt hb)).2]

/-! ## What was misused stays so -/

theorem misused_use (h : l.misused = true) : (l.use b).misused = true := by
  show (l.misused || _) = true
  rw [h, Bool.true_or]

theorem misused_free (h : l.misused = true) : (l.free b).misused = true := misused_use h

theorem misused_alloc (ok : Bool) (h : l.misused = true) : (l.alloc ok).2.misused = true := by
  cases ok with
  | true => exact h
  | false => exact h

theorem misused_usePointer {p : Option Nat} (h : l.misused = true) :
    (l.usePointer p).misused = true := by
  cases p with
  | none => rfl
  | some b => exact misused_use h

/-- What was misused before a loop is so after it. -/
theorem misused_foldl {α : Type} {f : Ledger → α → Ledger}
    (hf : ∀ {l a}, l.misused = true → (f l a).misused = true) :
    ∀ {as : List α} {l : Ledger}, l.misused = true → (as.foldl f l).misused = true := by
  intro as
  induction as with
  | nil =>
    intro l h
    exact h
  | cons a as ih =>
    intro l h
    exact ih (hf h)

theorem misused_freePointer {p : Option Nat} (h : l.misused = true) :
    (l.freePointer p).misused = true := by
  cases p with
  | none => rfl
  | some b => exact misused_free h

/-- A block that is not live is misused by an access. -/
theorem use_misused (h : ¬ l.Live b) : (l.use b).misused = true := by
  show (l.misused || !decide (l.Live b)) = true
  rw [decide_eq_false h, Bool.not_false, Bool.or_true]

/-- A block just freed is not live. -/
theorem not_live_free (b : Nat) (l : Ledger) : ¬ (l.free b).Live b := by
  intro hlive
  have hfrees : (l.free b).frees b = 0 := hlive.2
  have hupdated : (l.free b).frees b = l.frees b + 1 := Function.update_self ..
  omega

/-! ## Pointers and arrays of them -/

/-- What a pointer that may be null holds. -/
def pointee (p : Option Nat) : Multiset Nat := ↑p.toList

@[simp] theorem pointee_none : pointee none = 0 := rfl

@[simp] theorem pointee_some (b : Nat) : pointee (some b) = {b} := rfl

/-- A block that is held is held beside what a pointer points to. -/
theorem mem_add_right (p : Option Nat) (hb : b ∈ owned) : b ∈ pointee p + owned :=
  Multiset.mem_add.mpr (Or.inr hb)

/-- Freeing what a pointer points to, if it is not null. -/
def freePointee (p : Option Nat) (l : Ledger) : Ledger :=
  match p with
  | none => l
  | some b => l.free b

theorem misused_freePointee {p : Option Nat} (h : l.misused = true) :
    (l.freePointee p).misused = true := by
  cases p with
  | none => exact h
  | some b => exact misused_free h

theorem Owns.freePointee {p : Option Nat} (h : l.Owns (pointee p + owned)) :
    (l.freePointee p).Owns owned := by
  cases p with
  | none => exact h.of_eq (zero_add owned)
  | some b => exact h.free

end Ledger

/-- What an entry of an array holds, the array holds. -/
theorem mem_sum_map {ι : Type} {f : ι → Multiset Nat} {b : Nat} {i : ι} {l : List ι}
    (hi : i ∈ l) (hb : b ∈ f i) : b ∈ (l.map f).sum := by
  induction l with
  | nil => exact absurd hi List.not_mem_nil
  | cons j l ih =>
    rw [List.map_cons, List.sum_cons, Multiset.mem_add]
    rcases List.mem_cons.mp hi with heq | hmem
    · exact Or.inl (by rwa [← heq])
    · exact Or.inr (ih hmem)

/-- One entry of an array is written: the sum over the array gains what the new
entry has and loses what the old one had. -/
theorem sum_map_update {ι α M : Type} [DecidableEq ι] [AddCommMonoid M] (f : α → M)
    (entries : ι → α) (i : ι) (entry : α) {l : List ι} (hnodup : l.Nodup) (hi : i ∈ l) :
    (l.map fun j => f (Function.update entries i entry j)).sum + f (entries i) =
      (l.map fun j => f (entries j)).sum + f entry := by
  induction l with
  | nil => exact absurd hi List.not_mem_nil
  | cons j l ih =>
    obtain ⟨hj, hl⟩ := List.nodup_cons.mp hnodup
    rw [List.map_cons, List.map_cons, List.sum_cons, List.sum_cons]
    by_cases hij : i = j
    · subst hij
      have hrest : (l.map fun k => f (Function.update entries i entry k))
          = l.map fun k => f (entries k) := by
        apply List.map_congr_left
        intro k hk
        have hki : k ≠ i := fun heq => hj (by rwa [← heq])
        rw [Function.update_of_ne hki]
      rw [Function.update_self, hrest]
      abel
    · have hmem : i ∈ l := (List.mem_cons.mp hi).resolve_left hij
      rw [Function.update_of_ne (Ne.symm hij), add_assoc, ih hl hmem, add_assoc]

end DeepShield.Lib
