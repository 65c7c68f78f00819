import Mathlib.Algebra.Group.Nat.Defs

/-!
# Tables of bits

Bits stored eight to a byte, as masks set and clear them: a write changes the bit it is
for and no other, also of the same byte (`bitOf_setBit`).

A table is a state of which keys can be read. If every step writes its value at the keys
it names and leaves the others alone, then after a run each key reads as the last step
that named it wrote, or as it did at first (`lastWrite`).
-/

namespace DeepShield.Lib

/-! ## Bits of bytes -/

/-- Bit `n` of a sequence of bytes. -/
def bitOf (bytes : List UInt8) (n : Nat) : Bool := ((bytes[n / 8]?).getD 0).toNat.testBit (n % 8)

/-- The mask of bit `n` in its byte. -/
def bitMask (n : Nat) : UInt8 := UInt8.ofNat (2 ^ (n % 8))

/-- Set or clear bit `n`. -/
def setBit (bytes : List UInt8) (n : Nat) (value : Bool) : List UInt8 :=
  bytes.modify (n / 8) fun byte => if value then byte ||| bitMask n else byte &&& ~~~bitMask n

@[simp] theorem setBit_length (bytes : List UInt8) (n : Nat) (value : Bool) :
    (setBit bytes n value).length = bytes.length :=
  List.length_modify _ _ _

section Byte

variable {byte : UInt8} {n i : Nat}

/-- A mask is one bit. -/
theorem testBit_bitMask : (bitMask n).toNat.testBit i = decide (n % 8 = i) := by
  have hlt : 2 ^ (n % 8) < 2 ^ 8 :=
    Nat.pow_lt_pow_right (by decide) (Nat.mod_lt n (by decide))
  have hmask : (bitMask n).toNat = 2 ^ (n % 8) := by
    show (UInt8.ofNat (2 ^ (n % 8))).toNat = _
    rw [UInt8.toNat_ofNat', Nat.mod_eq_of_lt hlt]
  rw [hmask, Nat.testBit_two_pow]

theorem testBit_not (hi : i < 8) : (~~~byte).toNat.testBit i = !byte.toNat.testBit i := by
  show (~~~byte).toBitVec.toNat.testBit i = !byte.toBitVec.toNat.testBit i
  rw [UInt8.toBitVec_not, BitVec.testBit_toNat, BitVec.testBit_toNat, BitVec.getLsbD_not]
  simp [hi]

/-- A masked byte, bit by bit. -/
theorem testBit_masked (value : Bool) (hi : i < 8) :
    (if value then byte ||| bitMask n else byte &&& ~~~bitMask n).toNat.testBit i
      = if n % 8 = i then value else byte.toNat.testBit i := by
  cases value with
  | true =>
    rw [if_pos rfl, UInt8.toNat_or, Nat.testBit_or, testBit_bitMask]
    by_cases hsame : n % 8 = i
    · rw [if_pos hsame, decide_eq_true hsame, Bool.or_true]
    · rw [if_neg hsame, decide_eq_false hsame, Bool.or_false]
  | false =>
    rw [if_neg (by decide), UInt8.toNat_and, Nat.testBit_and, testBit_not hi, testBit_bitMask]
    by_cases hsame : n % 8 = i
    · rw [if_pos hsame, decide_eq_true hsame, Bool.not_true, Bool.and_false]
    · rw [if_neg hsame, decide_eq_false hsame, Bool.not_false, Bool.and_true]

end Byte

/-- **Writing one bit** changes that bit, and no other. -/
theorem bitOf_setBit {bytes : List UInt8} {n : Nat} (hstored : n / 8 < bytes.length)
    (value : Bool) (i : Nat) :
    bitOf (setBit bytes n value) i = if n = i then value else bitOf bytes i := by
  unfold bitOf setBit
  by_cases hbyte : n / 8 = i / 8
  · have hsame : n % 8 = i % 8 ↔ n = i := by omega
    rw [hbyte, List.getElem?_modify_eq, List.getElem?_eq_getElem (hbyte ▸ hstored)]
    rw [Option.map_eq_map, Option.map_some, Option.getD_some, Option.getD_some,
      testBit_masked value (Nat.mod_lt i (by decide))]
    exact ite_congr (propext hsame) (fun _ => rfl) fun _ => rfl
  · have hother : n ≠ i := fun heq => hbyte (heq ▸ rfl)
    rw [List.getElem?_modify_ne _ _ hbyte, if_neg hother]

/-! ## The last write -/

section LastWrite

variable {σ α κ β : Type} {step : σ → α → Option σ} {read : σ → κ → β} {names : α → κ → Bool}
  {value : α → β}

/-- **The last write wins.** -/
theorem lastWrite (hstep : ∀ s a, ∃ s', step s a = some s' ∧
      ∀ k, read s' k = if names a k then value a else read s k) (as : List α) :
    ∀ s, ∃ s', as.foldlM step s = some s' ∧
      ∀ k, read s' k = (((as.filter (names · k)).getLast?).map value).getD (read s k) := by
  induction as with
  | nil =>
    intro s
    exact ⟨s, rfl, fun k => rfl⟩
  | cons a as ih =>
    intro s
    obtain ⟨s₁, hs₁, hread⟩ := hstep s a
    obtain ⟨s', hs', hrest⟩ := ih s₁
    refine ⟨s', ?_, fun k => ?_⟩
    · rw [List.foldlM_cons, hs₁]
      exact hs'
    · rw [hrest k, hread k]
      cases hnamed : names a k with
      | true =>
        rw [List.filter_cons, if_pos hnamed, List.getLast?_cons, if_pos rfl]
        cases (as.filter (names · k)).getLast? <;> rfl
      | false =>
        rw [List.filter_cons, hnamed, if_neg Bool.false_ne_true, if_neg Bool.false_ne_true]

end LastWrite

end DeepShield.Lib
