import DeepShield.Mmu.Initialize

/-!
# The self map

One entry of the top-level table points to that table itself, so that all page tables are
mapped as one array of PTEs, 512 GB long. `MmuAddressToPte` finds the PTE of an address in it,
`MmuPteToAddress` the address that a PTE is for.

The first shifts the address by nine bits instead of computing an index, and leaves it to the
two bounds to clear what does not belong there: above the array they have the same bits, so
ORing and ANDing with them sets these bits whatever the sign of the address has put there
(`mmuAddressToPte_eq`), and the upper one clears the last three. The second shifts bit 38 of
the PTE's address, which is bit 47 of the address it is for, to the sign and back
(`mmuPteToAddress_bit`). `selfMap_exact` puts the two together.

With 5-level paging the upper bound is not at the end of the array, and nothing is claimed.
-/

namespace DeepShield.Mmu.Initialize

open DeepShield.Lib

/-- `MmuPteToAddress`, with shifts of signed numbers. -/
def mmuPteToAddress (pointerPte : UInt64) : UInt64 :=
  ((pointerPte.toInt64 <<< 25) >>> 16).toUInt64

/-- A canonical address of 48 bits: bit 47 is repeated above. -/
def IsCanonical (va : UInt64) : Prop := ∀ i < 64, 47 ≤ i → bit va i = bit va 47

instance (va : UInt64) : Decidable (IsCanonical va) := Nat.decidableBallLT 64 _

/-- Where its page begins. -/
def pageOf (va : UInt64) : UInt64 := va &&& 0xFFFFFFFFFFFFF000

/-- **What the self map is for**: the PTEs are one array from the entry of the top-level
table on, indexed by the page of the address; each is between the bounds, is the PTE of one
page only, and leads back to it. -/
structure MapsPage (selfMap : SelfMap) (va : UInt64) : Prop where
  base : mmuAddressToPte selfMap 0
    = (0xFFFF000000000000 : UInt64) ||| (selfMap.selfMapPmlIndex <<< 39)
  pte : (mmuAddressToPte selfMap va).toNat
    = (mmuAddressToPte selfMap 0).toNat + 8 * (va.toNat / 2 ^ 12 % 2 ^ 36)
  lower : selfMap.lowerBound ≤ mmuAddressToPte selfMap va
  upper : mmuAddressToPte selfMap va ≤ selfMap.upperBound
  distinct : ∀ va', IsCanonical va' →
    mmuAddressToPte selfMap va = mmuAddressToPte selfMap va' → pageOf va = pageOf va'
  inverse : mmuPteToAddress (mmuAddressToPte selfMap va) = pageOf va

/-! ## The bounds -/

section Bounds

variable {index : UInt64}

/-- The lower bound is a multiple of the size of the array. -/
theorem lowerBoundOf_mod (index : UInt64) : (lowerBoundOf false index).toNat % 2 ^ 39 = 0 := by
  refine Nat.eq_of_testBit_eq fun j => ?_
  rw [Nat.testBit_mod_two_pow, Nat.zero_testBit]
  by_cases hj : j < 39
  · have hbit : (lowerBoundOf false index).toNat.testBit j = false :=
      @lowerBoundOf_bit false index j hj
    rw [hbit, Bool.and_false]
  · rw [decide_eq_false hj, Bool.false_and]

/-- What is added below it does not carry. -/
theorem lowerBoundOf_or {x : UInt64} (hx : x.toNat < 2 ^ 39) :
    (lowerBoundOf false index ||| x).toNat = (lowerBoundOf false index).toNat + x.toNat := by
  have hmod := lowerBoundOf_mod index
  have hmul : (lowerBoundOf false index).toNat
      = 2 ^ 39 * ((lowerBoundOf false index).toNat / 2 ^ 39) := by
    omega
  rw [UInt64.toNat_or, hmul, ← Nat.two_pow_add_eq_or_of_lt hx, ← hmul]

/-- **The upper bound** is the last PTE from the lower one on. -/
theorem upperBoundOf_eq (index : UInt64) : upperBoundOf false (lowerBoundOf false index)
    = lowerBoundOf false index ||| 0x7FFFFFFFF8 := by
  have hmod := lowerBoundOf_mod index
  have hlt := (lowerBoundOf false index).toNat_lt
  have hlast : lowerBoundOf false index + 0x8000000000 - 1
      = lowerBoundOf false index ||| 0x7FFFFFFFFF := by
    refine UInt64.toNat_inj.mp ?_
    rw [lowerBoundOf_or (by decide), UInt64.toNat_sub, UInt64.toNat_add]
    simp only [UInt64.reduceToNat]
    omega
  have hmasks : ∀ i < 64, (bit 0x7FFFFFFFFF i && bit 0xFFFFFFFFFFFFFFF8 i) = bit 0x7FFFFFFFF8 i ∧
      (39 ≤ i → bit 0xFFFFFFFFFFFFFFF8 i = true) := by
    decide
  show (lowerBoundOf false index + 0x8000000000 - 1) &&& 0xFFFFFFFFFFFFFFF8 = _
  rw [hlast]
  refine eq_of_bit fun i hi => ?_
  obtain ⟨hlow, hhigh⟩ := hmasks i hi
  rw [bit_and, bit_or, bit_or, Bool.and_or_distrib_right, hlow]
  by_cases hbelow : i < 39
  · rw [@lowerBoundOf_bit false index i hbelow, Bool.false_and]
  · rw [hhigh (Nat.le_of_not_lt hbelow), Bool.and_true]

end Bounds

/-! ## From an address to its PTE -/

section Forward

variable {la57Enabled : Bool} {vfp va : UInt64}

/-- **The bounds clear what the shift brings in.** -/
theorem mmuAddressToPte_eq (vfp va : UInt64) :
    mmuAddressToPte (mmuInitializeMmuGlobals false vfp) va
      = (mmuInitializeMmuGlobals false vfp).lowerBound ||| ((va >>> 9) &&& 0x7FFFFFFFF8) := by
  show ((va >>> 9) ||| lowerBoundOf false _) &&& upperBoundOf false (lowerBoundOf false _) = _
  rw [upperBoundOf_eq]
  refine eq_of_bit fun i _ => ?_
  rw [bit_and, bit_or, bit_or, bit_or, bit_and, Bool.or_comm, ← Bool.or_and_distrib_left]
  rfl

/-- The index of a page, eight bytes a PTE. -/
theorem shifted_toNat (va : UInt64) :
    ((va >>> 9) &&& 0x7FFFFFFFF8).toNat = 8 * (va.toNat / 2 ^ 12 % 2 ^ 36) := by
  have hmask : (0x7FFFFFFFF8 : UInt64).toNat = (2 ^ 36 - 1) * 2 ^ 3 := rfl
  have hshift : (va >>> 9).toNat = va.toNat / 2 ^ 9 := by
    rw [UInt64.toNat_shiftRight, Nat.shiftRight_eq_div_pow]
    rfl
  rw [UInt64.toNat_and, hmask, hshift, and_field, Nat.div_div_eq_div_mul]
  omega

theorem shifted_lt (va : UInt64) : ((va >>> 9) &&& 0x7FFFFFFFF8).toNat < 2 ^ 39 := by
  rw [shifted_toNat]
  omega

/-- **The PTE of an address**, by the index of its page. -/
theorem mmuAddressToPte_toNat (vfp va : UInt64) :
    (mmuAddressToPte (mmuInitializeMmuGlobals false vfp) va).toNat
      = (mmuInitializeMmuGlobals false vfp).lowerBound.toNat
        + 8 * (va.toNat / 2 ^ 12 % 2 ^ 36) := by
  rw [mmuAddressToPte_eq, ← shifted_toNat]
  exact lowerBoundOf_or (shifted_lt va)

/-- The array begins at the lower bound. -/
theorem mmuAddressToPte_zero (vfp : UInt64) :
    mmuAddressToPte (mmuInitializeMmuGlobals false vfp) 0
      = (mmuInitializeMmuGlobals false vfp).lowerBound := by
  refine UInt64.toNat_inj.mp ?_
  rw [mmuAddressToPte_toNat]
  rfl

/-- A PTE is eight bytes, and begins at a multiple of it. -/
theorem mmuAddressToPte_aligned {i : Nat} (hi : i < 3) :
    bit (mmuAddressToPte (mmuInitializeMmuGlobals false vfp) va) i = false := by
  have hmask : ∀ j < 3, bit 0x7FFFFFFFF8 j = false := by decide
  rw [mmuAddressToPte_eq, bit_or, bit_and, hmask i hi, Bool.and_false, Bool.or_false]
  exact @lowerBoundOf_bit false _ i (Nat.lt_trans hi (by decide))

end Forward

/-! ## And back -/

section Back

variable {vfp va va' : UInt64}

/-- **The shifts of `MmuPteToAddress`**, bit by bit: bit 38 becomes the sign. -/
theorem mmuPteToAddress_bit (pointerPte : UInt64) {i : Nat} (hi : i < 64) :
    bit (mmuPteToAddress pointerPte) i
      = if i < 9 then false else if i < 48 then bit pointerPte (i - 9) else bit pointerPte 38 := by
  have hvec : (mmuPteToAddress pointerPte).toBitVec
      = (pointerPte.toBitVec <<< 25).sshiftRight 16 := rfl
  have hbits : ∀ (x : UInt64) (j : Nat), bit x j = x.toBitVec.getLsbD j := fun x j =>
    BitVec.testBit_toNat x.toBitVec
  rw [hbits, hbits, hbits, hvec, BitVec.getLsbD_sshiftRight, decide_eq_false (Nat.not_le.mpr hi),
    Bool.not_false, Bool.true_and]
  by_cases hindex : i < 48
  · rw [if_pos (by omega), BitVec.getLsbD_shiftLeft, decide_eq_true (by omega), Bool.true_and]
    by_cases hnine : i < 9
    · rw [if_pos hnine, decide_eq_true (by omega), Bool.not_true, Bool.false_and]
    · rw [if_neg hnine, if_pos hindex, decide_eq_false (by omega), Bool.not_false, Bool.true_and]
      congr 1
      omega
  · rw [if_neg (by omega), if_neg (by omega), if_neg hindex, BitVec.msb_eq_getLsbD_last,
      BitVec.getLsbD_shiftLeft]
    rfl

/-- **Back to the page.** -/
theorem mmuPteToAddress_mmuAddressToPte (h : IsCanonical va) :
    mmuPteToAddress (mmuAddressToPte (mmuInitializeMmuGlobals false vfp) va) = pageOf va := by
  have hmask : ∀ i < 64, bit 0xFFFFFFFFFFFFF000 i = decide (12 ≤ i) := by decide
  refine eq_of_bit fun i hi => ?_
  rw [mmuPteToAddress_bit _ hi, pageOf, bit_and, hmask i hi]
  by_cases hoffset : i < 12
  · rw [decide_eq_false (Nat.not_le.mpr hoffset), Bool.and_false]
    by_cases hnine : i < 9
    · rw [if_pos hnine]
    · rw [if_neg hnine, if_pos (by omega), mmuAddressToPte_aligned (by omega)]
  · rw [decide_eq_true (Nat.le_of_not_lt hoffset), Bool.and_true, if_neg (by omega)]
    by_cases hindex : i < 48
    · rw [if_pos hindex, @mmuAddressToPte_bit false vfp (i - 9) va (by omega)
        (show i - 9 < 39 by omega)]
      congr 1
      omega
    · rw [if_neg hindex, @mmuAddressToPte_bit false vfp 38 va (by decide) (by decide)]
      exact (h i hi (by omega)).symm

end Back

/-- **The self map is exact**, wherever the kernel has put it. -/
theorem selfMap_exact (mmGetVirtualForPhysical : UInt64) {va : UInt64} (h : IsCanonical va) :
    MapsPage (mmuInitializeMmuGlobals false mmGetVirtualForPhysical) va where
  base := by
    rw [mmuAddressToPte_zero]
    exact UInt64.or_comm _ _
  pte := by rw [mmuAddressToPte_toNat, mmuAddressToPte_zero]
  lower := by
    rw [UInt64.le_iff_toNat_le, mmuAddressToPte_toNat]
    exact Nat.le_add_right _ _
  upper := by
    have hupper : (mmuInitializeMmuGlobals false mmGetVirtualForPhysical).upperBound.toNat
        = (mmuInitializeMmuGlobals false mmGetVirtualForPhysical).lowerBound.toNat
          + 0x7FFFFFFFF8 := by
      show (upperBoundOf false (lowerBoundOf false _)).toNat = _
      rw [upperBoundOf_eq]
      exact lowerBoundOf_or (by decide)
    rw [UInt64.le_iff_toNat_le, mmuAddressToPte_toNat, hupper]
    omega
  distinct va' h' hpte := by
    rw [← mmuPteToAddress_mmuAddressToPte h, hpte, mmuPteToAddress_mmuAddressToPte h']
  inverse := mmuPteToAddress_mmuAddressToPte h

/-- The last page of the address space, with the self map where Windows 7 has it. -/
theorem selfMap_exact_lastPage :
    MapsPage (mmuInitializeMmuGlobals false 0xFFFFF6FB7DBED000) 0xFFFFFFFFFFFFFFFF :=
  selfMap_exact 0xFFFFF6FB7DBED000 (by decide)

end DeepShield.Mmu.Initialize
