import DeepShield.Mmu.Mapping

/-!
# The software page walk

`MmuGetPhysicalAddress` walks the page tables of another address space, mapping
one table at a time into a slot. `pageWalk` is the same walk over physical
memory, without slots: what the page tables say. `mmuGetPhysicalAddress_eq`
relates the two. With a slot free they agree, and the slots are as free after
the call as before; with none free every walk ends at once.

For the address space root mode itself runs in, the kernel's
`MmGetPhysicalAddress` answers instead.
-/

namespace DeepShield.Mmu

open DeepShield.Lib

/-- `PTE_VALID`. -/
def pteValid : UInt64 := 1

/-- `PDE_PSE`. -/
def pdePse : UInt64 := 0x80

/-- `MmuGetPagingLevels`. -/
def mmuGetPagingLevels : Nat := 4

/-- `MmuAddressToPti`. -/
def mmuAddressToPti (level : Nat) (address : UInt64) : UInt64 :=
  (address >>> UInt64.ofNat (12 + 9 * (level - 1))) &&& 0x1FF

/-- What root mode sees of the machine: physical memory, its own CR3 and the
kernel's translation of its own addresses. -/
structure Machine where
  physical : Mem
  currentCr3 : UInt64
  mmGetPhysicalAddress : UInt64 → UInt64

/-- `MmuGetPmlEntry`, for a table mapped at `pageTable`. -/
def mmuGetPmlEntry (physical : Mem) (mmu : MmuPerCpu) (pageTable index : UInt64) : UInt64 :=
  UInt64.ofNat (ofBytes (mmuReadPage physical mmu pageTable (8 * index.toNat) 8))

/-- The loop of `MmuGetPhysicalAddress`. -/
def mmuWalkLoop (physical : Mem) (baseAddress : UInt64) :
    Nat → UInt64 → UInt64 → MmuPerCpu → UInt64 × MmuPerCpu
  | 0, _, returnPa, mmu => (returnPa, mmu)
  | pagingLevel + 1, currentPa, returnPa, mmu =>
    match mmuMapIoPage mmu currentPa true with
    | (pageTable, mmu) =>
      -- no more mapping slots
      if pageTable = 0 then (returnPa, mmu)
      else
        let pteIndex := mmuAddressToPti (pagingLevel + 1) baseAddress
        let pteEntry := mmuGetPmlEntry physical mmu pageTable pteIndex
        let mmu := mmuUnmapIoPage mmu pageTable
        if pteEntry &&& pteValid = 0 then (returnPa, mmu)
        -- fail if PDE is for a large page
        else if pagingLevel + 1 ≠ 1 ∧ pteEntry &&& pdePse ≠ 0 then (returnPa, mmu)
        else if pagingLevel + 1 = 1 then
          mmuWalkLoop physical baseAddress pagingLevel currentPa
            ((pteEntry &&& 0xFFFFFFFFFFFFF000) ||| (baseAddress &&& 0xFFF)) mmu
        else
          mmuWalkLoop physical baseAddress pagingLevel (pteEntry &&& 0xFFFFFFFFFFFFF000)
            returnPa mmu

/-- `MmuGetPhysicalAddress`. -/
def mmuGetPhysicalAddress (machine : Machine) (mmu : MmuPerCpu)
    (targetCr3 baseAddress : UInt64) : UInt64 × MmuPerCpu :=
  let targetCr3 := targetCr3 &&& 0xFFFFFFFFFFFFF000
  let currentCr3 := machine.currentCr3 &&& 0xFFFFFFFFFFFFF000
  if targetCr3 = 0 ∨ targetCr3 = currentCr3 then (machine.mmGetPhysicalAddress baseAddress, mmu)
  else mmuWalkLoop machine.physical baseAddress mmuGetPagingLevels targetCr3 0 mmu

/-! ## What the page tables say -/

/-- The entry the walk looks at in the table at `currentPa`. -/
def pageEntry (physical : Mem) (baseAddress : UInt64) (pagingLevel : Nat) (currentPa : UInt64) :
    UInt64 :=
  UInt64.ofNat (ofBytes (readBytes physical
    ((currentPa &&& pte64PfnMask).toNat + 8 * (mmuAddressToPti pagingLevel baseAddress).toNat) 8))

/-- The walk from the table at `currentPa` down: zero if an entry is absent or
maps a large page. -/
def pageWalk (physical : Mem) (baseAddress : UInt64) : Nat → UInt64 → UInt64
  | 0, _ => 0
  | pagingLevel + 1, currentPa =>
    let pteEntry := pageEntry physical baseAddress (pagingLevel + 1) currentPa
    if pteEntry &&& pteValid = 0 then 0
    else if pagingLevel = 0 then (pteEntry &&& 0xFFFFFFFFFFFFF000) ||| (baseAddress &&& 0xFFF)
    else if pteEntry &&& pdePse ≠ 0 then 0
    else pageWalk physical baseAddress pagingLevel (pteEntry &&& 0xFFFFFFFFFFFFF000)

/-- The physical address behind `baseAddress` in the address space `targetCr3`,
zero if there is none. -/
def translation (machine : Machine) (targetCr3 baseAddress : UInt64) : UInt64 :=
  let targetCr3 := targetCr3 &&& 0xFFFFFFFFFFFFF000
  let currentCr3 := machine.currentCr3 &&& 0xFFFFFFFFFFFFF000
  if targetCr3 = 0 ∨ targetCr3 = currentCr3 then machine.mmGetPhysicalAddress baseAddress
  else pageWalk machine.physical baseAddress mmuGetPagingLevels targetCr3

/-! ## The two agree -/

/-- With a slot free, the loop computes the walk and gives its slot back. -/
theorem mmuWalkLoop_eq (physical : Mem) (baseAddress : UInt64) :
    ∀ {pagingLevel : Nat} {currentPa : UInt64} {mmu : MmuPerCpu}, 0 < mmu.freeSlots →
      (mmuWalkLoop physical baseAddress pagingLevel currentPa 0 mmu).1
          = pageWalk physical baseAddress pagingLevel currentPa ∧
        (mmuWalkLoop physical baseAddress pagingLevel currentPa 0 mmu).2.freeSlots
          = mmu.freeSlots := by
  intro pagingLevel
  induction pagingLevel with
  | zero =>
    intro currentPa mmu _
    exact ⟨rfl, rfl⟩
  | succ pagingLevel ih =>
    intro currentPa mmu hfree
    obtain ⟨va, mmu', hmap, ⟨hva, _⟩, _, hback, hread⟩ := mmuMapIoPage_spec hfree currentPa true
    have hentry : mmuGetPmlEntry physical mmu' va (mmuAddressToPti (pagingLevel + 1) baseAddress)
        = pageEntry physical baseAddress (pagingLevel + 1) currentPa := by
      unfold mmuGetPmlEntry pageEntry
      rw [hread]
    simp only [mmuWalkLoop, pageWalk, hmap, if_neg hva, hentry]
    generalize pageEntry physical baseAddress (pagingLevel + 1) currentPa = pteEntry
    by_cases hvalid : pteEntry &&& pteValid = 0
    · simp only [if_pos hvalid]
      exact ⟨trivial, hback⟩
    · simp only [if_neg hvalid]
      by_cases hleaf : pagingLevel = 0
      · subst hleaf
        simp only [mmuWalkLoop]
        exact ⟨rfl, hback⟩
      · have hone : pagingLevel + 1 ≠ 1 := by omega
        by_cases hpse : pteEntry &&& pdePse = 0
        · simp only [hleaf, hone, hpse, ne_eq, not_true_eq_false, and_false, if_false]
          have hfree' : 0 < (mmuUnmapIoPage mmu' va).freeSlots := by
            rw [hback]
            exact hfree
          obtain ⟨hpa, hslots⟩ := @ih (pteEntry &&& 0xFFFFFFFFFFFFF000) _ hfree'
          exact ⟨hpa, hslots.trans hback⟩
        · simp only [hleaf, hone, hpse, ne_eq, not_false_eq_true, and_self, if_true, if_false]
          exact ⟨trivial, hback⟩

/-- With no slot free, the loop ends before it looks at anything. -/
theorem mmuWalkLoop_of_full (physical : Mem) (baseAddress : UInt64) {pagingLevel : Nat}
    {currentPa : UInt64} {mmu : MmuPerCpu} (h : mmu.freeSlots = 0) :
    mmuWalkLoop physical baseAddress pagingLevel currentPa 0 mmu = (0, mmu) := by
  cases pagingLevel with
  | zero => rfl
  | succ pagingLevel => simp only [mmuWalkLoop, mmuMapIoPage_of_full h, if_true]

/-- **`MmuGetPhysicalAddress` is the translation**, given a slot, and leaves as
many slots free as it found. -/
theorem mmuGetPhysicalAddress_eq (machine : Machine) (targetCr3 baseAddress : UInt64)
    {mmu : MmuPerCpu} (h : 0 < mmu.freeSlots) :
    (mmuGetPhysicalAddress machine mmu targetCr3 baseAddress).1
        = translation machine targetCr3 baseAddress ∧
      (mmuGetPhysicalAddress machine mmu targetCr3 baseAddress).2.freeSlots
        = mmu.freeSlots := by
  unfold mmuGetPhysicalAddress translation
  by_cases hsame : targetCr3 &&& 0xFFFFFFFFFFFFF000 = 0 ∨
      targetCr3 &&& 0xFFFFFFFFFFFFF000 = machine.currentCr3 &&& 0xFFFFFFFFFFFFF000
  · simp only [if_pos hsame]
    exact ⟨trivial, trivial⟩
  · simp only [if_neg hsame]
    exact mmuWalkLoop_eq machine.physical baseAddress h

/-- Without a slot nothing is left to map either. -/
theorem mmuGetPhysicalAddress_of_full (machine : Machine) (targetCr3 baseAddress : UInt64)
    {mmu : MmuPerCpu} (h : mmu.freeSlots = 0) :
    (mmuGetPhysicalAddress machine mmu targetCr3 baseAddress).2 = mmu := by
  unfold mmuGetPhysicalAddress
  simp only
  split
  next => rfl
  next => rw [mmuWalkLoop_of_full _ _ h]

/-! ## A page that stays mapped -/

/-- The walk uses other slots than those in use. -/
theorem MmuPerCpu.Maps.walkLoop {va page : UInt64} (physical : Mem) (baseAddress : UInt64) :
    ∀ {pagingLevel : Nat} {currentPa returnPa : UInt64} {mmu : MmuPerCpu}, mmu.Maps va page →
      (mmuWalkLoop physical baseAddress pagingLevel currentPa returnPa mmu).2.Maps va page := by
  intro pagingLevel
  induction pagingLevel with
  | zero =>
    intro currentPa returnPa mmu h
    exact h
  | succ pagingLevel ih =>
    intro currentPa returnPa mmu h
    obtain ⟨hne, hmapped⟩ := h.mapIoPage currentPa true
    have hback := hmapped.unmapIoPage hne
    simp only [mmuWalkLoop]
    split
    next => exact hmapped
    next =>
      split
      next => exact hback
      next =>
        split
        next => exact hback
        next =>
          split
          next => exact ih hback
          next => exact ih hback

/-- So does `MmuGetPhysicalAddress`. -/
theorem MmuPerCpu.Maps.getPhysicalAddress {va page : UInt64} {mmu : MmuPerCpu}
    (h : mmu.Maps va page) (machine : Machine) (targetCr3 baseAddress : UInt64) :
    (mmuGetPhysicalAddress machine mmu targetCr3 baseAddress).2.Maps va page := by
  unfold mmuGetPhysicalAddress
  simp only
  split
  next => exact h
  next => exact h.walkLoop machine.physical baseAddress

end DeepShield.Mmu
