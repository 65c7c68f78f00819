import Mathlib.Algebra.Group.Nat.Defs
import Mathlib.Tactic.Common

/-!
# Machine arithmetic that says what it loses

An operation on machine words gives the word the machine gives, and records whether that is
the number the operation is for. A computation is inexact if one of its steps is.

So that nothing overflows is an equation: a computation that is `pure` of some word gives
that word and lost nothing on the way. Each operation has its rule for when it is `pure`, and
`pure` steps drop out of a computation by `Computed.pure_bind`.
-/

namespace DeepShield.Lib

variable {α β : Type}

/-- What a computation comes to, and whether it has lost something. -/
structure Computed (α : Type) where
  value : α
  inexact : Bool
deriving Repr, DecidableEq

instance : Monad Computed where
  pure value := ⟨value, false⟩
  bind c f := ⟨(f c.value).value, c.inexact || (f c.value).inexact⟩

/-- A step that loses nothing. -/
theorem Computed.pure_bind (value : α) (f : α → Computed β) : (pure value >>= f) = f value := by
  show Computed.mk (f value).value (false || (f value).inexact) = f value
  rw [Bool.false_or]

/-- A word that stands for a number, exactly if it is that number. -/
def word32 (value : UInt32) (number : Int) : Computed UInt32 :=
  ⟨value, decide ((value.toNat : Int) ≠ number)⟩

/-- The same of 64 bits. -/
def word64 (value : UInt64) (number : Int) : Computed UInt64 :=
  ⟨value, decide ((value.toNat : Int) ≠ number)⟩

def add32 (a b : UInt32) : Computed UInt32 := word32 (a + b) (a.toNat + b.toNat)

def mul32 (a b : UInt32) : Computed UInt32 := word32 (a * b) (a.toNat * b.toNat)

def add64 (a b : UInt64) : Computed UInt64 := word64 (a + b) (a.toNat + b.toNat)

def sub64 (a b : UInt64) : Computed UInt64 := word64 (a - b) (a.toNat - b.toNat)

def shiftLeft64 (a n : UInt64) : Computed UInt64 :=
  word64 (a <<< n) (a.toNat * 2 ^ n.toNat : Nat)

/-- The lower half of a word. -/
def narrow32 (a : UInt64) : Computed UInt32 := word32 a.toUInt32 a.toNat

theorem word32_exact {value : UInt32} {number : Int} (h : (value.toNat : Int) = number) :
    word32 value number = pure value := by
  unfold word32
  rw [decide_eq_false (not_not_intro h)]
  rfl

theorem word64_exact {value : UInt64} {number : Int} (h : (value.toNat : Int) = number) :
    word64 value number = pure value := by
  unfold word64
  rw [decide_eq_false (not_not_intro h)]
  rfl

section Rules

variable {a b : UInt64} {c d : UInt32}

theorem add32_exact (h : c.toNat + d.toNat < 2 ^ 32) : add32 c d = pure (c + d) := by
  refine word32_exact ?_
  rw [UInt32.toNat_add, Nat.mod_eq_of_lt h]
  exact Int.natCast_add _ _

theorem mul32_exact (h : c.toNat * d.toNat < 2 ^ 32) : mul32 c d = pure (c * d) := by
  refine word32_exact ?_
  rw [UInt32.toNat_mul, Nat.mod_eq_of_lt h]
  exact Int.natCast_mul _ _

theorem add64_exact (h : a.toNat + b.toNat < 2 ^ 64) : add64 a b = pure (a + b) := by
  refine word64_exact ?_
  rw [UInt64.toNat_add, Nat.mod_eq_of_lt h]
  exact Int.natCast_add _ _

theorem sub64_exact (h : b ≤ a) : sub64 a b = pure (a - b) := by
  refine word64_exact ?_
  rw [UInt64.toNat_sub_of_le a b h]
  exact Int.natCast_sub (UInt64.le_iff_toNat_le.mp h)

theorem shiftLeft64_exact (hn : b.toNat < 64) (h : a.toNat * 2 ^ b.toNat < 2 ^ 64) :
    shiftLeft64 a b = pure (a <<< b) := by
  refine word64_exact ?_
  rw [UInt64.toNat_shiftLeft, Nat.mod_eq_of_lt hn, Nat.shiftLeft_eq, Nat.mod_eq_of_lt h]

theorem narrow32_exact (h : a.toNat < 2 ^ 32) : narrow32 a = pure a.toUInt32 := by
  refine word32_exact ?_
  rw [UInt64.toNat_toUInt32, Nat.mod_eq_of_lt h]

end Rules

end DeepShield.Lib
