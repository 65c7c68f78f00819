import Mathlib.Tactic.Common

/-!
# Interlocked operations

What reads a value and writes it in one step, as what it returns and what is there then.
-/

namespace DeepShield.Os

/-- `InterlockedCompareExchange` and `InterlockedCompareExchange64`. -/
def interlockedCompareExchange {α : Type} [DecidableEq α] (destination exchange comparand : α) :
    α × α :=
  (destination, if destination = comparand then exchange else destination)

/-- `InterlockedBitTestAndReset`. -/
def interlockedBitTestAndReset (base : BitVec 32) (offset : Nat) : Bool × BitVec 32 :=
  (base.getLsbD offset, base &&& ~~~(BitVec.twoPow 32 offset))

/-- `InterlockedBitTestAndSet`. -/
def interlockedBitTestAndSet (base : BitVec 32) (offset : Nat) : Bool × BitVec 32 :=
  (base.getLsbD offset, base ||| BitVec.twoPow 32 offset)

/-- `InterlockedAnd`; only what is there then is used. -/
def interlockedAnd (destination value : BitVec 32) : BitVec 32 := destination &&& value

section Bits

variable {base : BitVec 32} {offset b : Nat}

@[simp] theorem interlockedBitTestAndReset_fst :
    (interlockedBitTestAndReset base offset).1 = base.getLsbD offset := rfl

@[simp] theorem interlockedBitTestAndSet_fst :
    (interlockedBitTestAndSet base offset).1 = base.getLsbD offset := rfl

/-- The bit is clear after the reset. -/
theorem interlockedBitTestAndReset_same :
    (interlockedBitTestAndReset base offset).2.getLsbD offset = false := by
  by_cases hoffset : offset < 32
  · simp [interlockedBitTestAndReset, hoffset]
  · exact BitVec.getLsbD_of_ge _ _ (by omega)

/-- The other bits stay. -/
theorem interlockedBitTestAndReset_ne (h : b ≠ offset) :
    (interlockedBitTestAndReset base offset).2.getLsbD b = base.getLsbD b := by
  by_cases hb : b < 32
  · simp [interlockedBitTestAndReset, hb, h]
  · rw [BitVec.getLsbD_of_ge _ _ (by omega), BitVec.getLsbD_of_ge _ _ (by omega)]

/-- The bit is set after the set. -/
theorem interlockedBitTestAndSet_same (h : offset < 32) :
    (interlockedBitTestAndSet base offset).2.getLsbD offset = true := by
  simp [interlockedBitTestAndSet, h]

theorem interlockedBitTestAndSet_ne (h : b ≠ offset) :
    (interlockedBitTestAndSet base offset).2.getLsbD b = base.getLsbD b := by
  have hother : (BitVec.twoPow 32 offset).getLsbD b = false := by
    rw [BitVec.getLsbD_twoPow]
    simp [Ne.symm h]
  simp [interlockedBitTestAndSet, hother]

/-- The first bit, of a word that is used as a lock. -/
theorem interlockedBitTestAndSet_zero : interlockedBitTestAndSet 0 0 = (false, 1) := by decide

theorem interlockedBitTestAndSet_one : interlockedBitTestAndSet 1 0 = (true, 1) := by decide

theorem interlockedAnd_zero (destination : BitVec 32) : interlockedAnd destination 0 = 0 :=
  BitVec.and_zero

end Bits

end DeepShield.Os
