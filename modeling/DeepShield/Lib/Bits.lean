import Mathlib.Algebra.Group.Nat.Defs
import Mathlib.Tactic.Common

/-!
# Words as sets of bits

Masks, shadows and fixed bits are Boolean algebra bit by bit: two words are
equal if they agree at every bit (`eq_of_bit`), and the operators are those on
Booleans there. `Within` is inclusion of the set bits.
-/

namespace DeepShield.Lib

/-- Bit `i` of a word. -/
def bit (x : UInt64) (i : Nat) : Bool := x.toNat.testBit i

variable {x y z : UInt64} {i : Nat}

@[simp] theorem bit_and : bit (x &&& y) i = (bit x i && bit y i) := by
  unfold bit
  rw [UInt64.toNat_and, Nat.testBit_and]

@[simp] theorem bit_or : bit (x ||| y) i = (bit x i || bit y i) := by
  unfold bit
  rw [UInt64.toNat_or, Nat.testBit_or]

@[simp] theorem bit_xor : bit (x ^^^ y) i = (bit x i ^^ bit y i) := by
  unfold bit
  rw [UInt64.toNat_xor, Nat.testBit_xor]

@[simp] theorem bit_zero : bit 0 i = false := by
  unfold bit
  exact Nat.zero_testBit i

/-- Complementing, inside the word. -/
theorem bit_not (hi : i < 64) : bit (~~~x) i = !bit x i := by
  show (~~~x).toBitVec.toNat.testBit i = !x.toBitVec.toNat.testBit i
  rw [UInt64.toBitVec_not, BitVec.testBit_toNat, BitVec.testBit_toNat, BitVec.getLsbD_not]
  simp [hi]

/-- Shifting to the left brings in zeros. -/
theorem bit_shiftLeft {n : UInt64} (hn : n.toNat < 64) (hi : i < n.toNat) :
    bit (x <<< n) i = false := by
  unfold bit
  rw [UInt64.toNat_shiftLeft, Nat.mod_eq_of_lt hn, Nat.testBit_mod_two_pow, Nat.testBit_shiftLeft,
    decide_eq_false (Nat.not_le_of_gt hi), Bool.false_and, Bool.and_false]

theorem bit_shiftRight {n : UInt64} (hn : n.toNat < 64) :
    bit (x >>> n) i = bit x (n.toNat + i) := by
  unfold bit
  rw [UInt64.toNat_shiftRight, Nat.mod_eq_of_lt hn, Nat.testBit_shiftRight]

/-- A mask of `k` ones from bit `n` on leaves that field. -/
theorem and_field (a k n : Nat) : a &&& (2 ^ k - 1) * 2 ^ n = a / 2 ^ n % 2 ^ k * 2 ^ n := by
  apply Nat.eq_of_testBit_eq
  intro i
  rw [Nat.testBit_and, Nat.testBit_mul_two_pow, Nat.testBit_mul_two_pow,
    Nat.testBit_two_pow_sub_one, Nat.testBit_mod_two_pow, Nat.testBit_div_two_pow]
  by_cases hi : n ≤ i
  · rw [Nat.sub_add_cancel hi, decide_eq_true hi, Bool.true_and, Bool.true_and, Bool.and_comm]
  · rw [decide_eq_false hi, Bool.false_and, Bool.false_and, Bool.and_false]

/-- Words with the same bits are equal. -/
theorem eq_of_bit (h : ∀ i < 64, bit x i = bit y i) : x = y := by
  refine UInt64.toNat_inj.mp (Nat.eq_of_testBit_eq fun i => ?_)
  by_cases hi : i < 64
  · exact h i hi
  · have hle : 2 ^ 64 ≤ 2 ^ i := Nat.pow_le_pow_right (by omega) (Nat.le_of_not_lt hi)
    rw [Nat.testBit_lt_two_pow (Nat.lt_of_lt_of_le x.toNat_lt hle),
      Nat.testBit_lt_two_pow (Nat.lt_of_lt_of_le y.toNat_lt hle)]

/-! ## Words of 32 bits -/

/-- Bit `i` of a word of 32 bits. -/
def bit32 (w : UInt32) (i : Nat) : Bool := w.toNat.testBit i

section Bits32

variable {v w : UInt32}

@[simp] theorem bit32_and : bit32 (v &&& w) i = (bit32 v i && bit32 w i) := by
  unfold bit32
  rw [UInt32.toNat_and, Nat.testBit_and]

@[simp] theorem bit32_or : bit32 (v ||| w) i = (bit32 v i || bit32 w i) := by
  unfold bit32
  rw [UInt32.toNat_or, Nat.testBit_or]

@[simp] theorem bit32_zero : bit32 0 i = false := by
  unfold bit32
  exact Nat.zero_testBit i

/-- Words with the same bits are equal. -/
theorem eq_of_bit32 (h : ∀ i < 32, bit32 v i = bit32 w i) : v = w := by
  refine UInt32.toNat_inj.mp (Nat.eq_of_testBit_eq fun i => ?_)
  by_cases hi : i < 32
  · exact h i hi
  · have hle : 2 ^ 32 ≤ 2 ^ i := Nat.pow_le_pow_right (by omega) (Nat.le_of_not_lt hi)
    rw [Nat.testBit_lt_two_pow (Nat.lt_of_lt_of_le v.toNat_lt hle),
      Nat.testBit_lt_two_pow (Nat.lt_of_lt_of_le w.toNat_lt hle)]

end Bits32

/-! ## Inclusion -/

/-- An equation of words, at one bit. -/
theorem bit_congr (h : x = y) (i : Nat) : bit x i = bit y i := by rw [h]

/-- Every bit set in `x` is set in `y`. -/
def Within (x y : UInt64) : Prop := x &&& y = x

instance : Decidable (Within x y) := inferInstanceAs (Decidable (_ = _))

/-- Inclusion, at one bit. -/
theorem Within.bit (h : Within x y) (hi : Lib.bit x i = true) : Lib.bit y i = true := by
  have hbit := bit_congr h i
  rw [bit_and, hi, Bool.true_and] at hbit
  exact hbit

theorem within_of_bit (h : ∀ i < 64, bit x i = true → bit y i = true) : Within x y := by
  refine eq_of_bit fun i hi => ?_
  rw [bit_and]
  cases hx : bit x i with
  | false => rfl
  | true => rw [h i hi hx]; rfl

end DeepShield.Lib
