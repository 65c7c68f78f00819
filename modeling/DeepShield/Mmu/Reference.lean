import DeepShield.Lib.Bits
import DeepShield.Mmu.Walk

/-!
# The walk, and the one the processor makes

With four levels an address has four indices of nine bits, and an entry has the frame of the
next table, or of the page, in its bits 12 to 51 (`referenceWalk`). Above them there are bits
for software, a protection key and no-execute.

`MmuGetPhysicalAddress` takes a frame with the mask `0xFFFFFFFFFFFFF000`. On the way down that
makes no difference, since `MmupCreatePte` masks the table that is mapped with
`PTE64_PFN_MASK`, but what it returns has the upper bits of the last entry
(`walkMatches_iff`).
-/

namespace DeepShield.Mmu

open DeepShield.Lib

/-! ## The reference -/

/-- Bits 12 to 51. -/
def frameOf (entry : Nat) : Nat := 2 ^ 12 * (entry / 2 ^ 12 % 2 ^ 40)

/-- Bit 0. -/
def Present (entry : Nat) : Prop := entry % 2 = 1

/-- Bit 7. -/
def LargePage (entry : Nat) : Prop := entry / 2 ^ 7 % 2 = 1

instance (entry : Nat) : Decidable (Present entry) := inferInstanceAs (Decidable (_ = _))

instance (entry : Nat) : Decidable (LargePage entry) := inferInstanceAs (Decidable (_ = _))

/-- An entry of the table that `parent` points to. -/
def tableEntry (physical : Mem) (parent index : Nat) : Nat :=
  ofBytes (readBytes physical (frameOf parent + 8 * index) 8)

/-- One that points to another table, if it does. -/
def upperEntry (physical : Mem) (parent index : Nat) : Option Nat :=
  let entry := tableEntry physical parent index
  if Present entry ∧ ¬ LargePage entry then some entry else none

/-- One that points to a page. -/
def leafEntry (physical : Mem) (parent index : Nat) : Option Nat :=
  let entry := tableEntry physical parent index
  if Present entry then some entry else none

/-- The entry of the page, by the bits 47 to 39, 38 to 30, 29 to 21 and 20 to 12 of the
address. -/
def referenceLeaf (physical : Mem) (cr3 address : Nat) : Option Nat :=
  (upperEntry physical cr3 (address / 2 ^ 39 % 512)).bind fun pml4e =>
    (upperEntry physical pml4e (address / 2 ^ 30 % 512)).bind fun pdpte =>
      (upperEntry physical pdpte (address / 2 ^ 21 % 512)).bind fun pde =>
        leafEntry physical pde (address / 2 ^ 12 % 512)

/-- **The reference walk.** -/
def referenceWalk (physical : Mem) (cr3 address : Nat) : Nat :=
  match referenceLeaf physical cr3 address with
  | none => 0
  | some leaf => frameOf leaf ||| (address &&& 0xFFF)

/-- `MmuGetPhysicalAddress` returns what the reference walk does. -/
def WalkMatches (machine : Machine) (mmu : MmuPerCpu) (targetCr3 baseAddress : UInt64) : Prop :=
  (mmuGetPhysicalAddress machine mmu targetCr3 baseAddress).1.toNat
    = referenceWalk machine.physical targetCr3.toNat baseAddress.toNat

/-! ## Words and their fields -/

section Fields

variable {physical : Mem} {currentPa baseAddress : UInt64} {parent : Nat}

theorem ofBytes_lt : ∀ (bs : List UInt8), ofBytes bs < 2 ^ (8 * bs.length) := by
  intro bs
  induction bs with
  | nil => exact Nat.one_pos
  | cons b bs ih =>
    have hb := b.toNat_lt
    have hpow : 2 ^ (8 * (bs.length + 1)) = 2 ^ (8 * bs.length) * 2 ^ 8 := by
      rw [← Nat.pow_add, Nat.mul_add, Nat.mul_one]
    rw [List.length_cons, hpow, ofBytes]
    omega

theorem tableEntry_lt (index : Nat) : tableEntry physical parent index < 2 ^ 64 := by
  have hlt := ofBytes_lt (readBytes physical (frameOf parent + 8 * index) 8)
  rwa [readBytes_length] at hlt

/-- `PTE64_PFN_MASK` leaves the frame. -/
theorem pte64PfnMask_toNat (entry : UInt64) :
    (entry &&& pte64PfnMask).toNat = frameOf entry.toNat := by
  have hmask : pte64PfnMask.toNat = (2 ^ 40 - 1) * 2 ^ 12 := rfl
  rw [UInt64.toNat_and, hmask, and_field, frameOf, Nat.mul_comm]

/-- The longer mask leaves the same frame. -/
theorem frameOf_pageAlign (entry : UInt64) :
    frameOf (entry &&& 0xFFFFFFFFFFFFF000).toNat = frameOf entry.toNat := by
  have hpage := pageAlign_toNat entry
  unfold frameOf
  show 2 ^ 12 * ((pageAlign entry).toNat / 2 ^ 12 % 2 ^ 40) = _
  omega

/-- An index is nine bits of the address. -/
theorem mmuAddressToPti_toNat {level : Nat} (hlevel : level < 4) :
    (mmuAddressToPti (level + 1) baseAddress).toNat
      = baseAddress.toNat / 2 ^ (12 + 9 * level) % 512 := by
  have hmask : (0x1FF : UInt64).toNat = 2 ^ 9 - 1 := rfl
  have hshift : (UInt64.ofNat (12 + 9 * level)).toNat % 64 = 12 + 9 * level := by
    rw [UInt64.toNat_ofNat']
    omega
  unfold mmuAddressToPti
  rw [Nat.add_sub_cancel, UInt64.toNat_and, hmask, Nat.and_two_pow_sub_one_eq_mod,
    UInt64.toNat_shiftRight, hshift, Nat.shiftRight_eq_div_pow]

/-- What the walk reads is the entry of the table. -/
theorem pageEntry_toNat {level : Nat} (hlevel : level < 4)
    (hframe : frameOf currentPa.toNat = frameOf parent) :
    (pageEntry physical baseAddress (level + 1) currentPa).toNat
      = tableEntry physical parent (baseAddress.toNat / 2 ^ (12 + 9 * level) % 512) := by
  have hlt := @tableEntry_lt physical parent (baseAddress.toNat / 2 ^ (12 + 9 * level) % 512)
  unfold pageEntry
  rw [pte64PfnMask_toNat, hframe, mmuAddressToPti_toNat hlevel, UInt64.toNat_ofNat']
  exact Nat.mod_eq_of_lt hlt

theorem pteValid_iff (entry : UInt64) : entry &&& pteValid ≠ 0 ↔ Present entry.toNat := by
  have hmask : pteValid.toNat = 2 ^ 1 - 1 := rfl
  rw [ne_eq, ← UInt64.toNat_inj, UInt64.toNat_and, hmask, Nat.and_two_pow_sub_one_eq_mod,
    UInt64.toNat_zero, Present]
  omega

theorem pdePse_iff (entry : UInt64) : entry &&& pdePse ≠ 0 ↔ LargePage entry.toNat := by
  have hmask : pdePse.toNat = (2 ^ 1 - 1) * 2 ^ 7 := rfl
  rw [ne_eq, ← UInt64.toNat_inj, UInt64.toNat_and, hmask, and_field, UInt64.toNat_zero, LargePage]
  omega

/-- What the walk makes of the last entry. -/
theorem leaf_toNat (entry baseAddress : UInt64) :
    ((entry &&& 0xFFFFFFFFFFFFF000) ||| (baseAddress &&& 0xFFF)).toNat
      = 2 ^ 12 * (entry.toNat / 2 ^ 12) + baseAddress.toNat % 2 ^ 12 := by
  have hpage := pageAlign_toNat entry
  have hoffset := byteOffset_toNat baseAddress
  have hfield : (pageAlign entry).toNat = 2 ^ 12 * (entry.toNat / 2 ^ 12) := by
    omega
  show ((pageAlign entry) ||| (byteOffset baseAddress)).toNat = _
  rw [UInt64.toNat_or, hfield, hoffset]
  exact (Nat.two_pow_add_eq_or_of_lt (Nat.mod_lt _ (by decide)) _).symm

end Fields

/-! ## Level by level -/

section Levels

variable {physical : Mem} {baseAddress : UInt64}

/-- The result for a last entry, with all that is above the offset. -/
def unmasked (address : Nat) : Option Nat → Nat
  | none => 0
  | some leaf => 2 ^ 12 * (leaf / 2 ^ 12) + address % 2 ^ 12

/-- The last level. -/
theorem pageWalk_leaf {currentPa : UInt64} {parent : Nat}
    (hframe : frameOf currentPa.toNat = frameOf parent) :
    (pageWalk physical baseAddress 1 currentPa).toNat
      = unmasked baseAddress.toNat
          (leafEntry physical parent (baseAddress.toNat / 2 ^ 12 % 512)) := by
  have hentry := @pageEntry_toNat physical currentPa baseAddress parent 0 (by decide) hframe
  rw [Nat.mul_zero, Nat.add_zero] at hentry
  have hvalid := pteValid_iff (pageEntry physical baseAddress 1 currentPa)
  unfold pageWalk leafEntry
  rw [hentry] at hvalid
  by_cases hpresent : Present (tableEntry physical parent (baseAddress.toNat / 2 ^ 12 % 512))
  · rw [if_neg (hvalid.mpr hpresent), if_pos rfl, if_pos hpresent, leaf_toNat, hentry]
    rfl
  · rw [if_pos (not_not.mp fun hne => hpresent (hvalid.mp hne)), if_neg hpresent]
    rfl

/-- **A level above**: the walk goes on exactly if there is another table. -/
theorem pageWalk_upper {level : Nat} (hlevel : level + 1 < 4) {rest : Nat → Option Nat}
    (hrest : ∀ {currentPa : UInt64} {parent : Nat}, frameOf currentPa.toNat = frameOf parent →
      (pageWalk physical baseAddress (level + 1) currentPa).toNat
        = unmasked baseAddress.toNat (rest parent))
    {currentPa : UInt64} {parent : Nat} (hframe : frameOf currentPa.toNat = frameOf parent) :
    (pageWalk physical baseAddress (level + 2) currentPa).toNat
      = unmasked baseAddress.toNat ((upperEntry physical parent
          (baseAddress.toNat / 2 ^ (12 + 9 * (level + 1)) % 512)).bind rest) := by
  have hentry := @pageEntry_toNat physical currentPa baseAddress parent (level + 1) hlevel hframe
  have hvalid := pteValid_iff (pageEntry physical baseAddress (level + 2) currentPa)
  have hlarge := pdePse_iff (pageEntry physical baseAddress (level + 2) currentPa)
  have hnext := frameOf_pageAlign (pageEntry physical baseAddress (level + 2) currentPa)
  rw [hentry] at hvalid hlarge hnext
  unfold pageWalk upperEntry
  dsimp only
  generalize tableEntry physical parent (baseAddress.toNat / 2 ^ (12 + 9 * (level + 1)) % 512)
    = entry at hvalid hlarge hnext
  by_cases hpresent : Present entry
  · rw [if_neg (hvalid.mpr hpresent), if_neg (Nat.succ_ne_zero level)]
    by_cases hpse : LargePage entry
    · rw [if_pos (hlarge.mpr hpse), if_neg fun h => h.2 hpse]
      rfl
    · rw [if_neg fun hne => hpse (hlarge.mp hne), if_pos ⟨hpresent, hpse⟩]
      exact hrest hnext
  · rw [if_pos (not_not.mp fun hne => hpresent (hvalid.mp hne)), if_neg fun h => hpresent h.1]
    rfl

/-- **All four levels.** -/
theorem pageWalk_toNat (targetCr3 : UInt64) :
    (pageWalk physical baseAddress mmuGetPagingLevels (targetCr3 &&& 0xFFFFFFFFFFFFF000)).toNat
      = unmasked baseAddress.toNat (referenceLeaf physical targetCr3.toNat baseAddress.toNat) := by
  unfold referenceLeaf mmuGetPagingLevels
  apply @pageWalk_upper physical baseAddress 2 (by decide)
  · apply @pageWalk_upper physical baseAddress 1 (by decide)
    apply @pageWalk_upper physical baseAddress 0 (by decide)
    exact pageWalk_leaf
  · exact frameOf_pageAlign targetCr3

end Levels

/-! ## When they match -/

section Matches

variable {machine : Machine} {mmu : MmuPerCpu} {targetCr3 : UInt64}

/-- With the frame alone the result is the reference's, and with more it is not. -/
theorem unmasked_eq_iff (leaf address : Nat) :
    unmasked address (some leaf) = frameOf leaf ||| (address &&& 0xFFF) ↔ leaf < 2 ^ 52 := by
  rw [show 0xFFF = 2 ^ 12 - 1 from rfl, Nat.and_two_pow_sub_one_eq_mod, frameOf,
    ← Nat.two_pow_add_eq_or_of_lt (Nat.mod_lt address (by decide)), unmasked]
  omega

/-- **The walk is the reference walk** exactly if the upper bits of the last entry are clear,
when it gets there. Where `TargetCr3` has no frame at all, the kernel's answer takes its
place. -/
theorem walkMatches_iff (hfree : 0 < mmu.freeSlots)
    (hframe : frameOf targetCr3.toNat ≠ frameOf machine.currentCr3.toNat) (baseAddress : UInt64) :
    WalkMatches machine mmu targetCr3 baseAddress ↔
      if pageAlign targetCr3 = 0 then
        (machine.mmGetPhysicalAddress baseAddress).toNat
          = referenceWalk machine.physical targetCr3.toNat baseAddress.toNat
      else
        ∀ leaf, referenceLeaf machine.physical targetCr3.toNat baseAddress.toNat = some leaf →
          leaf < 2 ^ 52 := by
  unfold WalkMatches
  rw [(mmuGetPhysicalAddress_eq machine targetCr3 baseAddress hfree).1]
  unfold translation
  have hother : targetCr3 &&& 0xFFFFFFFFFFFFF000
      ≠ machine.currentCr3 &&& 0xFFFFFFFFFFFFF000 := by
    intro hsame
    apply hframe
    rw [← frameOf_pageAlign targetCr3, hsame, frameOf_pageAlign]
  unfold pageAlign
  dsimp only
  by_cases hzero : targetCr3 &&& 0xFFFFFFFFFFFFF000 = 0
  · rw [if_pos hzero, if_pos (Or.inl hzero)]
  · rw [if_neg hzero, if_neg (not_or.mpr ⟨hzero, hother⟩), pageWalk_toNat]
    unfold referenceWalk
    cases referenceLeaf machine.physical targetCr3.toNat baseAddress.toNat with
    | none => exact iff_of_true rfl fun leaf hleaf => absurd hleaf (Option.some_ne_none leaf).symm
    | some leaf =>
      rw [unmasked_eq_iff]
      constructor
      · rintro hlt leaf' hleaf
        rwa [← Option.some.inj hleaf]
      · intro hall
        exact hall leaf rfl

/-- Page tables in the frames 1, 3, 4 and 5, all of whose entries point to the next; those in
the last have the no-execute bit set if `noExecute`. -/
def dataPage (noExecute : Bool) : Mem := fun a =>
  match a / 4096, a % 8 with
  | 1, 0 | 3, 0 | 4, 0 | 5, 0 => 0x07
  | 1, 1 => 0x30
  | 3, 1 => 0x40
  | 4, 1 => 0x50
  | 5, 1 => 0x60
  | 5, 7 => if noExecute then 0x80 else 0
  | _, _ => 0

/-- The machine with these. -/
def dataPageMachine (noExecute : Bool) : Machine := ⟨dataPage noExecute, 0x2000, fun _ => 0⟩

/-- A page that may be executed. -/
theorem walkMatches_executable : WalkMatches (dataPageMachine false) bootMmu 0x1000 0x9123 := by
  refine (walkMatches_iff (by decide) (by decide) 0x9123).mpr ?_
  rw [if_neg (by decide)]
  intro leaf hleaf
  have hentry : referenceLeaf (dataPageMachine false).physical 0x1000 0x9123 = some 0x6007 := by
    decide +kernel
  rw [← Option.some.inj (hentry.symm.trans hleaf)]
  decide

/-- One that may not: the address returned is beyond all memory. -/
theorem not_walkMatches_noExecute :
    0 < bootMmu.freeSlots ∧ frameOf 0x1000 ≠ frameOf (dataPageMachine true).currentCr3.toNat ∧
      ¬ WalkMatches (dataPageMachine true) bootMmu 0x1000 0x9123 := by
  refine ⟨by decide, by decide, ?_⟩
  unfold WalkMatches
  have hreturned : (mmuGetPhysicalAddress (dataPageMachine true) bootMmu 0x1000 0x9123).1
      = 0x8000000000006123 := by
    decide +kernel
  have hreference : referenceWalk (dataPageMachine true).physical 0x1000 0x9123 = 0x6123 := by
    decide +kernel
  rw [hreturned]
  exact fun hsame => absurd (hsame.trans hreference) (by decide)

end Matches

end DeepShield.Mmu
