import DeepShield.Lib.Bits
import DeepShield.Lib.Ledger
import DeepShield.Mmu.Setup

/-!
# What `MmuInitialize` acquires and gives back

Each slot is a page of `MappingSpace`, rounded up to a page boundary. To be mapped it
takes an MDL, a lock on the page and a system mapping, and then the PTE of that mapping is
saved and cleared. If a slot cannot be had, `MmuFinalize` walks over all slots and gives
back what those with a `BaseVa` have.

Here all of these are blocks of one ledger, and the page tables are part of the state. The
slots and the status are those of `Mmu/Setup` (`mmuInitialize_refines`).

`allOrNothing_iff` says when the whole is all or nothing. It is not in three cases: there is
no memory for the array, which is reported as a success; a page cannot be locked, which
frees the MDL and returns it all the same; and there are `MAX_CPU + 1` processors while
`MappingSpace` does not begin on a page boundary, which pushes the last page out of it.
-/

namespace DeepShield.Mmu.Initialize

open DeepShield.Lib DeepShield.Os

/-! ## The self map -/

/-- `MmuGetSelfMapPmlIndex`, from where the kernel has the page that CR3 points to. -/
def mmuGetSelfMapPmlIndex (la57Enabled : Bool) (mmGetVirtualForPhysical : UInt64) : UInt64 :=
  if la57Enabled then (mmGetVirtualForPhysical >>> 48) &&& 0x1FF
  else (mmGetVirtualForPhysical >>> 39) &&& 0x1FF

/-- `gMmu.LowerBound`, as `MmuInitializeMmuGlobals` computes it. -/
def lowerBoundOf (la57Enabled : Bool) (selfMapPmlIndex : UInt64) : UInt64 :=
  if la57Enabled then (selfMapPmlIndex <<< 48) ||| ((0xFE : UInt64) <<< 57)
  else (selfMapPmlIndex <<< 39) ||| ((0xFFFF : UInt64) <<< 48)

/-- `gMmu.UpperBound`. -/
def upperBoundOf (la57Enabled : Bool) (lowerBound : UInt64) : UInt64 :=
  (lowerBound + (if la57Enabled then 0x1000000000000 else 0x8000000000) - 1) &&& 0xFFFFFFFFFFFFFFF8

/-- The fields of `gMmu` that locate the PTEs. -/
structure SelfMap where
  la57Enabled : Bool
  selfMapPmlIndex : UInt64
  lowerBound : UInt64
  upperBound : UInt64
deriving Repr, DecidableEq

/-- `MmuAddressToPte`. -/
def mmuAddressToPte (selfMap : SelfMap) (address : UInt64) : UInt64 :=
  ((address >>> 9) ||| selfMap.lowerBound) &&& selfMap.upperBound

/-- `MmuInitializeMmuGlobals`, which always succeeds. -/
def mmuInitializeMmuGlobals (la57Enabled : Bool) (mmGetVirtualForPhysical : UInt64) : SelfMap :=
  let selfMapPmlIndex := mmuGetSelfMapPmlIndex la57Enabled mmGetVirtualForPhysical
  let lowerBound := lowerBoundOf la57Enabled selfMapPmlIndex
  ⟨la57Enabled, selfMapPmlIndex, lowerBound, upperBoundOf la57Enabled lowerBound⟩

/-! ## The kernel -/

/-- Where the upper half of the address space begins. -/
def systemRangeStart (la57Enabled : Bool) : UInt64 :=
  if la57Enabled then 0xFF00000000000000 else 0xFFFF800000000000

/-- `sizeof( MappingSpace )`. -/
def mappingSpaceSize : Nat := (maxCpu + 1) * maxMappingSlots * 4096

/-- What `MmuInitialize` finds: where the section with `MappingSpace` was loaded, and how its
calls turn out, for each slot: whether there is an MDL, whether the page can be locked, and
the page of system space it is mapped at, NULL if it is not. The kernel maps at pages of
its own half of the address space, and not two at one page. -/
structure MmuKernel where
  la57Enabled : Bool
  mmGetVirtualForPhysical : UInt64
  mappingSpace : UInt64
  memAllocArray : Bool
  ioAllocateMdl : Nat × Nat → Bool
  mmProbeAndLockPages : Nat × Nat → Bool
  mmMapLockedPages : Nat × Nat → UInt64
  loaded : mappingSpace.toNat + mappingSpaceSize ≤ 2 ^ 64
  aligned : ∀ slot, (mmMapLockedPages slot).toNat % 4096 = 0
  system : ∀ slot, mmMapLockedPages slot ≠ 0 →
    systemRangeStart la57Enabled ≤ mmMapLockedPages slot
  distinct : ∀ slot slot', mmMapLockedPages slot ≠ 0 →
    mmMapLockedPages slot = mmMapLockedPages slot' → slot = slot'

/-- An MDL: its block, the address it describes, and the lock on the page. -/
structure MappingMdl where
  block : Nat
  startVa : UInt64
  lock : Option Nat
deriving Repr, DecidableEq

/-- `MMU_MAPPING`; `view` is the system mapping at `BaseVa`. -/
structure Mapping where
  mapInUse : Bool
  baseVa : UInt64
  pointerPte : UInt64
  baseMdl : Option MappingMdl
  originalPte : UInt64
  view : Option Nat
deriving Repr, DecidableEq

/-- `gMmu.MmuArray`, by processor and slot. -/
abbrev Mappings := Nat × Nat → Mapping

/-- The array after `RtlZeroMemory`. -/
def zeroedMappings : Mappings := fun _ => ⟨false, 0, 0, none, 0, none⟩

/-- `gMmu`: the array with the block it is in, none for NULL. -/
structure MmuState where
  selfMap : SelfMap
  mmuArray : Option (Nat × Mappings)

/-- What was allocated, locked and mapped, and the PTEs by their addresses. -/
structure KernelState where
  ledger : Ledger
  ptes : UInt64 → UInt64

/-! ## One slot -/

/-- `ROUND_TO_PAGES`. -/
def roundToPages (address : UInt64) : UInt64 := (address + 0xFFF) &&& 0xFFFFFFFFFFFFF000

/-- `ROUND_TO_PAGES( &MappingSpace[Index][Slot][0] )`. -/
def slotSpace (mappingSpace : UInt64) (slot : Nat × Nat) : UInt64 :=
  roundToPages (mappingSpace + UInt64.ofNat ((slot.1 * maxMappingSlots + slot.2) * 4096))

/-- `MmupWriteMappingPte`. -/
def mmupWriteMappingPte (mapping : Mapping) (pteContents : UInt64) (s : KernelState) :
    KernelState :=
  { s with ptes := Function.update s.ptes mapping.pointerPte pteContents }

/-- `MmuAllocateMappingMdl`. -/
def mmuAllocateMappingMdl (kernel : MmuKernel) (slot : Nat × Nat) (ledger : Ledger) :
    Option MappingMdl × Ledger :=
  if slot.1 > maxCpu then (none, ledger)
  else
    match ledger.alloc (kernel.ioAllocateMdl slot) with
    | (none, ledger) => (none, ledger)
    | (some block, ledger) =>
      let startVa := slotSpace kernel.mappingSpace slot
      if kernel.mmProbeAndLockPages slot then
        match ledger.alloc true with
        | (lock, ledger) => (some ⟨block, startVa, lock⟩, ledger)
      -- the exception handler frees it, and it is returned
      else (some ⟨block, startVa, none⟩, ledger.free block)

/-- `MmuFreeMappingMdl`: `MmUnlockPages` and `IoFreeMdl`. -/
def mmuFreeMappingMdl (mdl : Option MappingMdl) (ledger : Ledger) : Ledger :=
  match mdl with
  | none => ledger.misuse
  | some mdl => (ledger.freePointer mdl.lock).free mdl.block

/-- `MmMapLockedPagesSpecifyCache`: the address, as far into its page as what the MDL
describes, and the mapping. -/
def mmMapLockedPagesSpecifyCache (kernel : MmuKernel) (slot : Nat × Nat) (mdl : MappingMdl)
    (ledger : Ledger) : UInt64 × Option Nat × Ledger :=
  let ledger := ledger.use mdl.block
  if kernel.mmMapLockedPages slot = 0 then (0, none, ledger)
  else
    match ledger.alloc true with
    | (view, ledger) => (kernel.mmMapLockedPages slot + byteOffset mdl.startVa, view, ledger)

/-- `MmuInitializeMapping`. -/
def mmuInitializeMapping (kernel : MmuKernel) (selfMap : SelfMap) (slot : Nat × Nat)
    (mapping : Mapping) (s : KernelState) : NtStatus × Mapping × KernelState :=
  match mmuAllocateMappingMdl kernel slot s.ledger with
  | (none, ledger) =>
    (statusNoMemory, { mapping with baseMdl := none }, { s with ledger := ledger })
  | (some mdl, ledger) =>
    match mmMapLockedPagesSpecifyCache kernel slot mdl ledger with
    | (baseVa, view, ledger) =>
      if baseVa = 0 then
        (statusNoMemory,
          { mapping with
            baseVa := 0
            baseMdl := none },
          { s with ledger := mmuFreeMappingMdl (some mdl) ledger })
      else
        let pointerPte := mmuAddressToPte selfMap baseVa
        let mapping := ⟨false, baseVa, pointerPte, some mdl, s.ptes pointerPte, view⟩
        (statusSuccess, mapping, mmupWriteMappingPte mapping zeroPte { s with ledger := ledger })

/-- `MmuDeleteMapping`. -/
def mmuDeleteMapping (mapping : Mapping) (s : KernelState) : KernelState :=
  let s := mmupWriteMappingPte mapping mapping.originalPte s
  { s with ledger := mmuFreeMappingMdl mapping.baseMdl (s.ledger.freePointer mapping.view) }

/-! ## All of them -/

/-- The two loops of `MmuInitialize`, over the slots that are left. -/
def mmuInitializeLoop (kernel : MmuKernel) (selfMap : SelfMap) :
    List (Nat × Nat) → Mappings → KernelState → NtStatus × Mappings × KernelState
  | [], mappings, s => (statusSuccess, mappings, s)
  | slot :: rest, mappings, s =>
    match mmuInitializeMapping kernel selfMap slot (mappings slot) s with
    | (status, mapping, s) =>
      let mappings := Function.update mappings slot mapping
      if ntSuccess status then mmuInitializeLoop kernel selfMap rest mappings s
      else (status, mappings, s)

/-- The two loops of `MmuFinalize`. -/
def mmuFinalizeLoop (mappings : Mappings) : List (Nat × Nat) → KernelState → KernelState
  | [], s => s
  | slot :: rest, s =>
    mmuFinalizeLoop mappings rest
      (if (mappings slot).baseVa ≠ 0 then mmuDeleteMapping (mappings slot) s else s)

/-- `MmuFinalize`, with an array. -/
def mmuFinalize (processorCount block : Nat) (mappings : Mappings) (selfMap : SelfMap)
    (s : KernelState) : MmuState × KernelState :=
  let s := mmuFinalizeLoop mappings (slots processorCount) s
  ({ selfMap := { selfMap with
      lowerBound := 0
      upperBound := 0 }
     mmuArray := none },
    { s with ledger := s.ledger.free block })

/-- `MmuInitialize`. -/
def mmuInitialize (kernel : MmuKernel) (processorCount : Nat) (s : KernelState) :
    NtStatus × MmuState × KernelState :=
  let selfMap := mmuInitializeMmuGlobals kernel.la57Enabled kernel.mmGetVirtualForPhysical
  match s.ledger.alloc kernel.memAllocArray with
  -- the status is still that of MmuInitializeMmuGlobals
  | (none, ledger) => (statusSuccess, ⟨selfMap, none⟩, { s with ledger := ledger })
  | (some block, ledger) =>
    match mmuInitializeLoop kernel selfMap (slots processorCount) zeroedMappings
        { s with ledger := ledger } with
    | (status, mappings, s) =>
      if ntSuccess status = false then
        match mmuFinalize processorCount block mappings selfMap s with
        | (mmu, s) => (status, mmu, s)
      else (status, ⟨selfMap, some (block, mappings)⟩, s)

/-! ## The PTE of a page -/

section SelfMap

variable {la57Enabled : Bool} {x y selfMapPmlIndex : UInt64} {i : Nat}

/-- The bits of an address that its PTE is found by. -/
def pteBits (la57Enabled : Bool) : Nat := if la57Enabled then 48 else 39

/-- The bound is above the bits that tell PTEs apart. -/
theorem lowerBoundOf_bit (hi : i < pteBits la57Enabled) :
    bit (lowerBoundOf la57Enabled selfMapPmlIndex) i = false := by
  unfold pteBits at hi
  unfold lowerBoundOf
  cases la57Enabled with
  | false =>
    rw [if_neg Bool.false_ne_true] at hi ⊢
    rw [bit_or, bit_shiftLeft (by decide) hi,
      bit_shiftLeft (by decide) (Nat.lt_trans hi (by decide)), Bool.false_or]
  | true =>
    rw [if_pos rfl] at hi ⊢
    rw [bit_or, bit_shiftLeft (by decide) hi,
      bit_shiftLeft (by decide) (Nat.lt_trans hi (by decide)), Bool.false_or]

/-- The other one has all of them set, but for the alignment of a PTE. -/
theorem upperBoundOf_bit (hlow : 3 ≤ i) (hi : i < pteBits la57Enabled) :
    bit (upperBoundOf la57Enabled (lowerBoundOf la57Enabled selfMapPmlIndex)) i = true := by
  have hzero : (lowerBoundOf la57Enabled selfMapPmlIndex).toNat % 2 ^ pteBits la57Enabled = 0 := by
    refine Nat.eq_of_testBit_eq fun j => ?_
    rw [Nat.testBit_mod_two_pow, Nat.zero_testBit]
    by_cases hj : j < pteBits la57Enabled
    · have hbit : (lowerBoundOf la57Enabled selfMapPmlIndex).toNat.testBit j = false :=
        lowerBoundOf_bit hj
      rw [hbit, Bool.and_false]
    · rw [decide_eq_false hj, Bool.false_and]
  have hlt := (lowerBoundOf la57Enabled selfMapPmlIndex).toNat_lt
  have hmask : bit 0xFFFFFFFFFFFFFFF8 i = true := by
    have hi64 : i < 64 := by
      unfold pteBits at hi
      split at hi <;> omega
    have hall : ∀ j < 64, 3 ≤ j → bit 0xFFFFFFFFFFFFFFF8 j = true := by decide
    exact hall i hi64 hlow
  have hones : (lowerBoundOf la57Enabled selfMapPmlIndex
      + (if la57Enabled then 0x1000000000000 else 0x8000000000) - 1).toNat % 2 ^ pteBits la57Enabled
      = 2 ^ pteBits la57Enabled - 1 := by
    generalize lowerBoundOf la57Enabled selfMapPmlIndex = bound at hzero hlt
    unfold pteBits at hzero ⊢
    cases la57Enabled with
    | false =>
      rw [if_neg Bool.false_ne_true] at hzero ⊢
      rw [if_neg Bool.false_ne_true, UInt64.toNat_sub, UInt64.toNat_add]
      simp only [UInt64.reduceToNat]
      omega
    | true =>
      rw [if_pos rfl] at hzero ⊢
      rw [if_pos rfl, UInt64.toNat_sub, UInt64.toNat_add]
      simp only [UInt64.reduceToNat]
      omega
  unfold upperBoundOf
  rw [bit_and, hmask, Bool.and_true]
  have hlast := Nat.testBit_mod_two_pow (lowerBoundOf la57Enabled selfMapPmlIndex
      + (if la57Enabled then 0x1000000000000 else 0x8000000000) - 1).toNat (pteBits la57Enabled) i
  rw [hones, Nat.testBit_two_pow_sub_one, decide_eq_true hi, Bool.true_and] at hlast
  exact hlast.symm

/-- What an address has at the bits it is found by, its PTE has nine further down. -/
theorem mmuAddressToPte_bit (va : UInt64) (hlow : 3 ≤ i) (hi : i < pteBits la57Enabled) :
    bit (mmuAddressToPte (mmuInitializeMmuGlobals la57Enabled x) va) i = bit va (9 + i) := by
  show bit (((va >>> 9) ||| lowerBoundOf la57Enabled _) &&& upperBoundOf la57Enabled _) i = _
  rw [bit_and, bit_or, upperBoundOf_bit hlow hi, lowerBoundOf_bit hi, Bool.or_false, Bool.and_true]
  exact bit_shiftRight (by decide)

/-- An address of the kernel's half has all bits above set. -/
theorem bit_of_system (h : systemRangeStart la57Enabled ≤ x) (hi : pteBits la57Enabled + 8 ≤ i)
    (hlt : i < 64) : bit x i = true := by
  have hle : 2 ^ 64 - 2 ^ (pteBits la57Enabled + 8) ≤ x.toNat := by
    refine Nat.le_trans ?_ (UInt64.le_iff_toNat_le.mp h)
    unfold pteBits systemRangeStart
    cases la57Enabled <;> decide
  have hlt' := x.toNat_lt
  have hsmall : 2 ^ 64 - (x.toNat + 1) < 2 ^ i := by
    have hpow : 2 ^ (pteBits la57Enabled + 8) ≤ 2 ^ i := Nat.pow_le_pow_right (by decide) hi
    omega
  have hflip := Nat.testBit_two_pow_sub_succ hlt' i
  rw [Nat.testBit_lt_two_pow hsmall, decide_eq_true hlt, Bool.true_and] at hflip
  unfold bit
  cases hbit : x.toNat.testBit i with
  | true => rfl
  | false =>
    rw [hbit] at hflip
    exact absurd hflip (by decide)

/-- **Pages of the kernel have PTEs of their own.** -/
theorem mmuAddressToPte_inj {v : UInt64} (hx : x.toNat % 4096 = 0) (hy : y.toNat % 4096 = 0)
    (hsx : systemRangeStart la57Enabled ≤ x) (hsy : systemRangeStart la57Enabled ≤ y)
    (h : mmuAddressToPte (mmuInitializeMmuGlobals la57Enabled v) x
      = mmuAddressToPte (mmuInitializeMmuGlobals la57Enabled v) y) : x = y := by
  have hoffset : ∀ {z : UInt64} {j : Nat}, z.toNat % 4096 = 0 → j < 12 → bit z j = false := by
    intro z j hz hj
    have hmod := Nat.testBit_mod_two_pow z.toNat 12 j
    rw [show (2 : Nat) ^ 12 = 4096 from rfl, hz, Nat.zero_testBit, decide_eq_true hj,
      Bool.true_and] at hmod
    exact hmod.symm
  refine eq_of_bit fun j hj => ?_
  by_cases hlow : j < 12
  · rw [hoffset hx hlow, hoffset hy hlow]
  · by_cases hmid : j < pteBits la57Enabled + 9
    · have hbit := bit_congr h (j - 9)
      rw [mmuAddressToPte_bit x (by omega) (by omega), mmuAddressToPte_bit y (by omega) (by omega),
        show 9 + (j - 9) = j by omega] at hbit
      exact hbit
    · rw [bit_of_system hsx (by omega) hj, bit_of_system hsy (by omega) hj]

end SelfMap

/-! ## The page of a slot -/

section SlotSpace

variable {kernel : MmuKernel} {slot slot' : Nat × Nat}

/-- How far into `MappingSpace` the slot is. -/
def slotOffset (slot : Nat × Nat) : Nat := (slot.1 * maxMappingSlots + slot.2) * 4096

/-- The slots of the processors there may be. -/
def InSpace (slot : Nat × Nat) : Prop := slot.1 ≤ maxCpu ∧ slot.2 < maxMappingSlots

theorem slotOffset_le (h : InSpace slot) : slotOffset slot + 4096 ≤ mappingSpaceSize := by
  obtain ⟨hcpu, hslot⟩ := h
  unfold slotOffset mappingSpaceSize maxCpu maxMappingSlots at *
  omega

/-- **Its page** begins at the next page boundary. -/
theorem slotSpace_toNat (h : InSpace slot) :
    (slotSpace kernel.mappingSpace slot).toNat
      = (kernel.mappingSpace.toNat + 4095) / 4096 * 4096 + slotOffset slot := by
  have hle := slotOffset_le h
  have hloaded := kernel.loaded
  have hsize : mappingSpaceSize = 1064960 := rfl
  have hoffset : slotOffset slot % 4096 = 0 := Nat.mul_mod_left ..
  show (pageAlign (kernel.mappingSpace + UInt64.ofNat (slotOffset slot) + 0xFFF)).toNat = _
  have hsum : (kernel.mappingSpace + UInt64.ofNat (slotOffset slot)).toNat
      = kernel.mappingSpace.toNat + slotOffset slot := by
    rw [UInt64.toNat_add, UInt64.toNat_ofNat', Nat.mod_eq_of_lt (by omega),
      Nat.mod_eq_of_lt (by omega)]
  have hround : (kernel.mappingSpace + UInt64.ofNat (slotOffset slot) + 0xFFF).toNat
      = kernel.mappingSpace.toNat + slotOffset slot + 4095 := by
    rw [UInt64.toNat_add, hsum, show (0xFFF : UInt64).toNat = 4095 from rfl,
      Nat.mod_eq_of_lt (by omega)]
  have hpage := pageAlign_toNat (kernel.mappingSpace + UInt64.ofNat (slotOffset slot) + 0xFFF)
  omega

/-- Different slots have different pages. -/
theorem slotSpace_disjoint (h : InSpace slot) (h' : InSpace slot') (hne : slot ≠ slot') :
    (slotSpace kernel.mappingSpace slot).toNat + 4096
        ≤ (slotSpace kernel.mappingSpace slot').toNat ∨
      (slotSpace kernel.mappingSpace slot').toNat + 4096
        ≤ (slotSpace kernel.mappingSpace slot).toNat := by
  rw [slotSpace_toNat h, slotSpace_toNat h']
  obtain ⟨p, i⟩ := slot
  obtain ⟨p', i'⟩ := slot'
  have hdiff : p ≠ p' ∨ i ≠ i' := by
    by_contra hsame
    rw [not_or, not_not, not_not] at hsame
    exact hne (by rw [hsame.1, hsame.2])
  have hslot : i < maxMappingSlots := h.2
  have hslot' : i' < maxMappingSlots := h'.2
  unfold slotOffset maxMappingSlots at *
  simp only
  omega

/-- **The pages are inside** if the section begins on a page boundary, or there are not too
many processors. -/
theorem slotSpace_inside (h : InSpace slot) :
    kernel.mappingSpace.toNat ≤ (slotSpace kernel.mappingSpace slot).toNat ∧
      ((slotSpace kernel.mappingSpace slot).toNat + 4096
          ≤ kernel.mappingSpace.toNat + mappingSpaceSize ↔
        kernel.mappingSpace.toNat % 4096 = 0 ∨ slotOffset slot + 4096 < mappingSpaceSize) := by
  rw [slotSpace_toNat h]
  have hle := slotOffset_le h
  have hoffset : slotOffset slot % 4096 = 0 := Nat.mul_mod_left ..
  have hsize : mappingSpaceSize = 1064960 := rfl
  omega

end SlotSpace

/-! ## The property -/

/-- A slot that is mapped: over a locked page inside `MappingSpace`, with its PTE saved and
cleared. -/
structure SlotMapped (kernel : MmuKernel) (before after : KernelState) (mapping : Mapping)
    (mdl : MappingMdl) : Prop where
  baseVa : mapping.baseVa ≠ 0
  baseMdl : mapping.baseMdl = some mdl ∧ after.ledger.Live mdl.block
  lock : ∃ lock, mdl.lock = some lock ∧ after.ledger.Live lock
  view : ∃ view, mapping.view = some view ∧ after.ledger.Live view
  aligned : mdl.startVa.toNat % 4096 = 0
  inside : kernel.mappingSpace.toNat ≤ mdl.startVa.toNat ∧
    mdl.startVa.toNat + 4096 ≤ kernel.mappingSpace.toNat + mappingSpaceSize
  saved : mapping.originalPte = before.ptes mapping.pointerPte
  cleared : after.ptes mapping.pointerPte = zeroPte

/-- All slots are, over different pages. -/
def AllMapped (kernel : MmuKernel) (processorCount : Nat) (before after : KernelState)
    (mappings : Mappings) : Prop :=
  ∃ mdl : Nat × Nat → MappingMdl,
    (∀ slot ∈ slots processorCount,
      SlotMapped kernel before after (mappings slot) (mdl slot)) ∧
    ∀ slot ∈ slots processorCount, ∀ slot' ∈ slots processorCount, slot ≠ slot' →
      (mdl slot).startVa.toNat + 4096 ≤ (mdl slot').startVa.toNat ∨
        (mdl slot').startVa.toNat + 4096 ≤ (mdl slot).startVa.toNat

/-- Before anything was acquired. -/
def KernelState.initial (ptes : UInt64 → UInt64) : KernelState := ⟨Ledger.empty, ptes⟩

/-- A success leaves the array with every slot mapped; a failure leaves nothing: all is
given back once, the PTEs are as before, and there is no array. -/
def AllOrNothing (kernel : MmuKernel) (processorCount : Nat) (before : KernelState) : Prop :=
  let (status, mmu, after) := mmuInitialize kernel processorCount before
  if ntSuccess status then
    ∃ block mappings, mmu.mmuArray = some (block, mappings) ∧ after.ledger.Live block ∧
      AllMapped kernel processorCount before after mappings
  else mmu.mmuArray = none ∧ after.ledger.Settled ∧ after.ptes = before.ptes

/-- What the calls amount to for the slots. -/
def MmuKernel.answers (kernel : MmuKernel) : MmuAnswers where
  memAllocArray := kernel.memAllocArray
  ioAllocateMdl procIdx slotIdx := kernel.ioAllocateMdl (procIdx, slotIdx)
  mmMapLockedPages procIdx slotIdx := kernel.mmMapLockedPages (procIdx, slotIdx)

/-- No call of `MmProbeAndLockPages` raises an exception: the page of a slot can be locked if
there is an MDL for it and every slot before it can be had. -/
def LocksHold (kernel : MmuKernel) (processorCount : Nat) : Prop :=
  ∀ before slot after, slots processorCount = before ++ slot :: after →
    (∀ earlier ∈ before, kernel.answers.Maps earlier) → slot.1 ≤ maxCpu →
    kernel.ioAllocateMdl slot = true → kernel.mmProbeAndLockPages slot = true

/-! ## One slot -/

section Slot

variable {kernel : MmuKernel} {slot slot' : Nat × Nat} {mapping : Mapping} {s : KernelState}
  {owned : Multiset Nat}

/-- `MmuInitializeMmuGlobals`. -/
def MmuKernel.selfMap (kernel : MmuKernel) : SelfMap :=
  mmuInitializeMmuGlobals kernel.la57Enabled kernel.mmGetVirtualForPhysical

/-- The PTE of a slot. -/
def MmuKernel.pteOf (kernel : MmuKernel) (slot : Nat × Nat) : UInt64 :=
  mmuAddressToPte kernel.selfMap (kernel.mmMapLockedPages slot)

theorem MmuKernel.pteOf_inj (h : kernel.mmMapLockedPages slot ≠ 0)
    (h' : kernel.mmMapLockedPages slot' ≠ 0) (heq : kernel.pteOf slot = kernel.pteOf slot') :
    slot = slot' :=
  kernel.distinct slot slot' h (mmuAddressToPte_inj (kernel.aligned slot) (kernel.aligned slot')
    (kernel.system slot h) (kernel.system slot' h') heq)

/-- A slot as `MmuInitializeMapping` leaves it. -/
def readyMapping (kernel : MmuKernel) (ptes : UInt64 → UInt64) (slot : Nat × Nat)
    (block lock view : Nat) : Mapping :=
  ⟨false, kernel.mmMapLockedPages slot, kernel.pteOf slot,
    some ⟨block, slotSpace kernel.mappingSpace slot, some lock⟩, ptes (kernel.pteOf slot),
    some view⟩

/-- What a slot holds, if it has a `BaseVa`. -/
def Mapping.held (mapping : Mapping) : Multiset Nat :=
  if mapping.baseVa = 0 then 0
  else
    Ledger.pointee mapping.view +
      match mapping.baseMdl with
      | none => 0
      | some mdl => Ledger.pointee mdl.lock + {mdl.block}

/-- A page is rounded to its beginning. -/
theorem byteOffset_slotSpace (mappingSpace : UInt64) (slot : Nat × Nat) :
    byteOffset (slotSpace mappingSpace slot) = 0 := by
  have hpage := pageAlign_toNat (mappingSpace
    + UInt64.ofNat ((slot.1 * maxMappingSlots + slot.2) * 4096) + 0xFFF)
  rw [← UInt64.toNat_inj, byteOffset_toNat]
  show (pageAlign _).toNat % 4096 = 0
  omega

/-- **A slot that can be had** is ready, and holds three blocks more. -/
theorem mmuInitializeMapping_maps (hmaps : kernel.answers.Maps slot)
    (hlock : kernel.mmProbeAndLockPages slot = true) (howns : s.ledger.Owns owned)
    (mapping : Mapping) :
    ∃ block lock view s', mmuInitializeMapping kernel kernel.selfMap slot mapping s
        = (statusSuccess, readyMapping kernel s.ptes slot block lock view, s') ∧
      s'.ledger.Owns ((readyMapping kernel s.ptes slot block lock view).held + owned) ∧
      s'.ptes = Function.update s.ptes (kernel.pteOf slot) zeroPte := by
  obtain ⟨hcpu, hmdl, hva⟩ := hmaps
  have hmdl' : kernel.ioAllocateMdl slot = true := hmdl
  have hva' : kernel.mmMapLockedPages slot ≠ 0 := hva
  have hlocked := howns.alloc.alloc
  have hmem : s.ledger.next ∈ ({s.ledger.next + 1} : Multiset Nat) + ({s.ledger.next} + owned) :=
    Multiset.mem_add.mpr (Or.inr (Multiset.mem_add.mpr (Or.inl (Multiset.mem_singleton_self _))))
  have huse := hlocked.use hmem
  refine ⟨s.ledger.next, s.ledger.next + 1, s.ledger.next + 2,
    ⟨{ s.ledger with next := s.ledger.next + 3 },
      Function.update s.ptes (kernel.pteOf slot) zeroPte⟩, ?_, ?_, rfl⟩
  · unfold mmuInitializeMapping mmuAllocateMappingMdl mmMapLockedPagesSpecifyCache
    simp only [if_neg (Nat.not_lt_of_ge hcpu), hmdl', Ledger.alloc_true, hlock, if_true, huse,
      if_neg hva', byteOffset_slotSpace, UInt64.add_zero]
    rfl
  · refine hlocked.alloc.of_eq ?_
    unfold Mapping.held readyMapping
    simp only [if_neg hva', Ledger.pointee_some]
    abel

/-- **A slot that cannot be had** leaves nothing behind, if its page could be locked. -/
theorem mmuInitializeMapping_not_maps (hnot : ¬ kernel.answers.Maps slot)
    (hlock : slot.1 ≤ maxCpu → kernel.ioAllocateMdl slot = true →
      kernel.mmProbeAndLockPages slot = true)
    (howns : s.ledger.Owns owned) (hzero : mapping.baseVa = 0) :
    ∃ mapping' s', mmuInitializeMapping kernel kernel.selfMap slot mapping s
        = (statusNoMemory, mapping', s') ∧ mapping'.baseVa = 0 ∧ s'.ledger.Owns owned ∧
      s'.ptes = s.ptes := by
  unfold mmuInitializeMapping mmuAllocateMappingMdl
  by_cases hcpu : slot.1 > maxCpu
  · rw [if_pos hcpu]
    exact ⟨_, _, rfl, hzero, howns, rfl⟩
  · rw [if_neg hcpu]
    cases hmdl : kernel.ioAllocateMdl slot with
    | false => exact ⟨_, _, rfl, hzero, howns, rfl⟩
    | true =>
      have hva : kernel.mmMapLockedPages slot = 0 := by
        by_contra hva
        exact hnot ⟨Nat.le_of_not_gt hcpu, hmdl, hva⟩
      have hlocked := howns.alloc.alloc
      have hmem : s.ledger.next ∈ ({s.ledger.next + 1} : Multiset Nat)
          + ({s.ledger.next} + owned) :=
        Multiset.mem_add.mpr
          (Or.inr (Multiset.mem_add.mpr (Or.inl (Multiset.mem_singleton_self _))))
      have huse := hlocked.use hmem
      unfold mmMapLockedPagesSpecifyCache
      simp only [hlock (Nat.le_of_not_gt hcpu) hmdl, Ledger.alloc_true, if_true, huse, if_pos hva]
      exact ⟨_, _, rfl, rfl, hlocked.free.free, rfl⟩

/-- **A page that cannot be locked**: the MDL is used after it was freed, and the slot has no
lock. -/
theorem mmuInitializeMapping_not_locked (hcpu : slot.1 ≤ maxCpu)
    (hmdl : kernel.ioAllocateMdl slot = true) (hlock : kernel.mmProbeAndLockPages slot = false)
    (mapping : Mapping) (s : KernelState) :
    (mmuInitializeMapping kernel kernel.selfMap slot mapping s).2.2.ledger.misused = true ∧
      (ntSuccess (mmuInitializeMapping kernel kernel.selfMap slot mapping s).1 = true →
        ∃ mdl, (mmuInitializeMapping kernel kernel.selfMap slot mapping s).2.1.baseMdl = some mdl ∧
          mdl.lock = none) := by
  have hused : ((Ledger.free s.ledger.next { s.ledger with next := s.ledger.next + 1 }).use
      s.ledger.next).misused = true :=
    Ledger.use_misused (Ledger.not_live_free _ _)
  unfold mmuInitializeMapping mmuAllocateMappingMdl mmMapLockedPagesSpecifyCache
  simp only [if_neg (Nat.not_lt_of_ge hcpu), hmdl, Ledger.alloc_true, hlock, Bool.false_eq_true,
    if_false]
  by_cases hva : kernel.mmMapLockedPages slot = 0
  · simp only [if_pos hva, if_true]
    exact ⟨Ledger.misused_free (Ledger.misused_freePointer hused),
      fun hsuccess => absurd hsuccess (by decide)⟩
  · have hva' : kernel.mmMapLockedPages slot
        + byteOffset (slotSpace kernel.mappingSpace slot) ≠ 0 := by
      rwa [byteOffset_slotSpace, UInt64.add_zero]
    simp only [if_neg hva, if_neg hva']
    exact ⟨Ledger.misused_alloc true hused, fun _ => ⟨_, rfl, rfl⟩⟩

end Slot

/-! ## The loops -/

section Loop

variable {kernel : MmuKernel} {ptes : UInt64 → UInt64} {mappings : Mappings} {s : KernelState}
  {owned : Multiset Nat}

/-- A slot that was set up when the page tables had these PTEs. -/
def Ready (kernel : MmuKernel) (ptes : UInt64 → UInt64) (slot : Nat × Nat) (mapping : Mapping) :
    Prop :=
  ∃ block lock view, mapping = readyMapping kernel ptes slot block lock view

/-- **Slots that can be had** are gone through: they are ready, hold what was acquired, and
their PTEs are cleared. -/
theorem mmuInitializeLoop_maps :
    ∀ {first : List (Nat × Nat)} {mappings : Mappings} {s : KernelState} {owned : Multiset Nat},
      first.Nodup → (∀ slot ∈ first, kernel.answers.Maps slot) →
      (∀ slot ∈ first, kernel.mmProbeAndLockPages slot = true) → s.ledger.Owns owned →
      (∀ slot ∈ first, s.ptes (kernel.pteOf slot) = ptes (kernel.pteOf slot)) →
      ∃ mappings' s', (∀ rest, mmuInitializeLoop kernel kernel.selfMap (first ++ rest) mappings s
          = mmuInitializeLoop kernel kernel.selfMap rest mappings' s') ∧
        (∀ slot ∉ first, mappings' slot = mappings slot) ∧
        (∀ slot ∈ first, Ready kernel ptes slot (mappings' slot)) ∧
        s'.ledger.Owns ((first.map fun slot => (mappings' slot).held).sum + owned) ∧
        ∀ p, s'.ptes p = if ∃ slot ∈ first, kernel.pteOf slot = p then zeroPte else s.ptes p := by
  intro first
  induction first with
  | nil =>
    intro mappings s owned _ _ _ howns _
    refine ⟨mappings, s, fun rest => rfl, fun slot _ => rfl, fun slot hmem => absurd hmem (by simp),
      howns.of_eq (by simp), fun p => by simp⟩
  | cons slot first ih =>
    intro mappings s owned hnodup hmaps hlocks howns hptes
    obtain ⟨hfresh, hnodup⟩ := List.nodup_cons.mp hnodup
    obtain ⟨hslot, hmaps⟩ := List.forall_mem_cons.mp hmaps
    obtain ⟨hlock, hlocks⟩ := List.forall_mem_cons.mp hlocks
    obtain ⟨hpte, hptes⟩ := List.forall_mem_cons.mp hptes
    obtain ⟨block, lock, view, s₁, hinit, howns₁, hptes₁⟩ :=
      mmuInitializeMapping_maps hslot hlock howns (mappings slot)
    have hready : Ready kernel ptes slot (readyMapping kernel s.ptes slot block lock view) := by
      refine ⟨block, lock, view, ?_⟩
      unfold readyMapping
      rw [hpte]
    -- the PTEs of the others are still as they were
    have hothers : ∀ other ∈ first, s₁.ptes (kernel.pteOf other) = ptes (kernel.pteOf other) := by
      intro other hother
      have hne : kernel.pteOf other ≠ kernel.pteOf slot := by
        intro heq
        have hsame : other = slot := kernel.pteOf_inj (hmaps other hother).2.2 hslot.2.2 heq
        exact hfresh (hsame ▸ hother)
      rw [hptes₁, Function.update_of_ne hne]
      exact hptes other hother
    obtain ⟨mappings', s', hloop, hkept, hdone, howns', hptes'⟩ :=
      @ih (Function.update mappings slot (readyMapping kernel s.ptes slot block lock view)) s₁ _
        hnodup hmaps hlocks howns₁ hothers
    have hself : mappings' slot = readyMapping kernel s.ptes slot block lock view := by
      rw [hkept slot hfresh, Function.update_self]
    refine ⟨mappings', s', fun rest => ?_, fun other hother => ?_, ?_, howns'.of_eq ?_,
      fun p => ?_⟩
    · rw [List.cons_append, mmuInitializeLoop, hinit]
      exact (if_pos ntSuccess_statusSuccess).trans (hloop rest)
    · obtain ⟨hne, hrest⟩ := not_or.mp (mt List.mem_cons.mpr hother)
      rw [hkept other hrest, Function.update_of_ne hne]
    · refine List.forall_mem_cons.mpr ⟨?_, hdone⟩
      rw [hself]
      exact hready
    · rw [List.map_cons, List.sum_cons, hself]
      abel
    · rw [hptes', hptes₁]
      by_cases hrest : ∃ other ∈ first, kernel.pteOf other = p
      · obtain ⟨other, hother, heq⟩ := hrest
        rw [if_pos ⟨other, hother, heq⟩, if_pos ⟨other, List.mem_cons_of_mem slot hother, heq⟩]
      · rw [if_neg hrest]
        by_cases hp : kernel.pteOf slot = p
        · rw [if_pos ⟨slot, List.mem_cons_self, hp⟩, ← hp, Function.update_self]
        · rw [Function.update_of_ne (Ne.symm hp), if_neg]
          rintro ⟨other, hother, heq⟩
          rcases List.mem_cons.mp hother with rfl | hother
          · exact hp heq
          · exact hrest ⟨other, hother, heq⟩

/-- A slot that is ready holds three blocks, which deleting it gives back. -/
theorem mmuDeleteMapping_ready {slot : Nat × Nat} {mapping : Mapping}
    (hready : Ready kernel ptes slot mapping) (hva : mapping.baseVa ≠ 0)
    (howns : s.ledger.Owns (mapping.held + owned)) :
    (mmuDeleteMapping mapping s).ledger.Owns owned ∧ (mmuDeleteMapping mapping s).ptes
      = Function.update s.ptes (kernel.pteOf slot) (ptes (kernel.pteOf slot)) := by
  obtain ⟨block, lock, view, rfl⟩ := hready
  refine ⟨?_, rfl⟩
  have hheld : s.ledger.Owns ({view} + ({lock} + ({block} + owned))) := by
    refine howns.of_eq ?_
    unfold Mapping.held
    rw [if_neg hva]
    show ({view} : Multiset Nat) + ({lock} + {block}) + owned = _
    abel
  exact hheld.free.free.free

/-- **`MmuFinalize`** gives back what the slots hold, and restores their PTEs. -/
theorem mmuFinalizeLoop_ready :
    ∀ {rest : List (Nat × Nat)} {s : KernelState} {owned : Multiset Nat},
      (∀ slot ∈ rest, (mappings slot).baseVa ≠ 0 → Ready kernel ptes slot (mappings slot)) →
      s.ledger.Owns ((rest.map fun slot => (mappings slot).held).sum + owned) →
      (mmuFinalizeLoop mappings rest s).ledger.Owns owned ∧
        ∀ p, (mmuFinalizeLoop mappings rest s).ptes p
          = if ∃ slot ∈ rest, (mappings slot).baseVa ≠ 0 ∧ kernel.pteOf slot = p then ptes p
            else s.ptes p := by
  intro rest
  induction rest with
  | nil =>
    intro s owned _ howns
    exact ⟨howns.of_eq (by simp), fun p => by simp [mmuFinalizeLoop]⟩
  | cons slot rest ih =>
    intro s owned hready howns
    obtain ⟨hslot, hrest⟩ := List.forall_mem_cons.mp hready
    rw [List.map_cons, List.sum_cons, add_assoc] at howns
    rw [mmuFinalizeLoop]
    by_cases hva : (mappings slot).baseVa = 0
    · rw [if_neg (not_not_intro hva)]
      have howns' : s.ledger.Owns ((rest.map fun slot => (mappings slot).held).sum + owned) := by
        refine howns.of_eq ?_
        unfold Mapping.held
        rw [if_pos hva, zero_add]
      obtain ⟨hfinal, hptes⟩ := ih hrest howns'
      refine ⟨hfinal, fun p => ?_⟩
      rw [hptes p]
      refine if_congr ⟨?_, ?_⟩ rfl rfl
      · rintro ⟨other, hother, hne⟩
        exact ⟨other, List.mem_cons_of_mem slot hother, hne⟩
      · rintro ⟨other, hother, hne⟩
        rcases List.mem_cons.mp hother with rfl | hother
        · exact absurd hva hne.1
        · exact ⟨other, hother, hne⟩
    · rw [if_pos hva]
      obtain ⟨howns', hdeleted⟩ := mmuDeleteMapping_ready (hslot hva) hva howns
      obtain ⟨hfinal, hptes⟩ := ih hrest howns'
      refine ⟨hfinal, fun p => ?_⟩
      rw [hptes p, hdeleted]
      by_cases hmore : ∃ other ∈ rest, (mappings other).baseVa ≠ 0 ∧ kernel.pteOf other = p
      · obtain ⟨other, hother, hne⟩ := hmore
        rw [if_pos ⟨other, hother, hne⟩, if_pos ⟨other, List.mem_cons_of_mem slot hother, hne⟩]
      · rw [if_neg hmore]
        by_cases hp : kernel.pteOf slot = p
        · rw [if_pos ⟨slot, List.mem_cons_self, hva, hp⟩, ← hp, Function.update_self]
        · rw [Function.update_of_ne (Ne.symm hp), if_neg]
          rintro ⟨other, hother, hne⟩
          rcases List.mem_cons.mp hother with rfl | hother
          · exact hp hne.2
          · exact hmore ⟨other, hother, hne⟩

/-! ## Once something is misused -/

theorem misused_mmuAllocateMappingMdl {ledger : Ledger} (h : ledger.misused = true)
    (slot : Nat × Nat) : (mmuAllocateMappingMdl kernel slot ledger).2.misused = true := by
  unfold mmuAllocateMappingMdl
  split
  next => exact h
  next =>
    cases kernel.ioAllocateMdl slot with
    | false => exact h
    | true =>
      cases kernel.mmProbeAndLockPages slot with
      | true => exact h
      | false => exact Ledger.misused_free (Ledger.misused_alloc true h)

theorem misused_mmuFreeMappingMdl {ledger : Ledger} (h : ledger.misused = true)
    (mdl : Option MappingMdl) : (mmuFreeMappingMdl mdl ledger).misused = true := by
  cases mdl with
  | none => rfl
  | some mdl => exact Ledger.misused_free (Ledger.misused_freePointer h)

theorem misused_mmuInitializeMapping (h : s.ledger.misused = true) (slot : Nat × Nat)
    (mapping : Mapping) :
    (mmuInitializeMapping kernel kernel.selfMap slot mapping s).2.2.ledger.misused = true := by
  have hmdl := @misused_mmuAllocateMappingMdl kernel _ h slot
  unfold mmuInitializeMapping mmMapLockedPagesSpecifyCache
  cases hallocated : mmuAllocateMappingMdl kernel slot s.ledger with
  | mk mdl ledger =>
    rw [hallocated] at hmdl
    cases mdl with
    | none => exact hmdl
    | some mdl =>
      have hused := Ledger.misused_use hmdl (b := mdl.block)
      by_cases hva : kernel.mmMapLockedPages slot = 0
      · simp only [if_pos hva, if_true]
        exact misused_mmuFreeMappingMdl hused _
      · simp only [if_neg hva]
        split
        next => exact misused_mmuFreeMappingMdl (Ledger.misused_alloc true hused) _
        next => exact Ledger.misused_alloc true hused

theorem misused_mmuInitializeLoop :
    ∀ {rest : List (Nat × Nat)} {mappings : Mappings} {s : KernelState},
      s.ledger.misused = true →
      (mmuInitializeLoop kernel kernel.selfMap rest mappings s).2.2.ledger.misused = true := by
  intro rest
  induction rest with
  | nil =>
    intro mappings s h
    exact h
  | cons slot rest ih =>
    intro mappings s h
    have hslot := @misused_mmuInitializeMapping kernel _ h slot (mappings slot)
    rw [mmuInitializeLoop]
    dsimp only
    split
    next => exact ih hslot
    next => exact hslot

theorem misused_mmuFinalizeLoop :
    ∀ {rest : List (Nat × Nat)} {s : KernelState}, s.ledger.misused = true →
      (mmuFinalizeLoop mappings rest s).ledger.misused = true := by
  intro rest
  induction rest with
  | nil =>
    intro s h
    exact h
  | cons slot rest ih =>
    intro s h
    rw [mmuFinalizeLoop]
    split
    next => exact ih (misused_mmuFreeMappingMdl (Ledger.misused_freePointer h) _)
    next => exact ih h

/-- A slot that is not to come is left as it is. -/
theorem mmuInitializeLoop_other {slot : Nat × Nat} :
    ∀ {rest : List (Nat × Nat)} {mappings : Mappings} {s : KernelState}, slot ∉ rest →
      (mmuInitializeLoop kernel kernel.selfMap rest mappings s).2.1 slot = mappings slot := by
  intro rest
  induction rest with
  | nil =>
    intro mappings s _
    rfl
  | cons first rest ih =>
    intro mappings s hmem
    obtain ⟨hne, hrest⟩ := not_or.mp (mt List.mem_cons.mpr hmem)
    rw [mmuInitializeLoop]
    dsimp only
    split
    next =>
      rw [ih hrest]
      exact Function.update_of_ne hne _ _
    next => exact Function.update_of_ne hne _ _

end Loop

/-! ## The whole -/

section Initialize

variable {kernel : MmuKernel} {processorCount : Nat} {ptes : UInt64 → UInt64}

theorem slots_nodup (processorCount : Nat) : (slots processorCount).Nodup :=
  List.nodup_range.product List.nodup_range

/-- With the array in block 0. -/
def KernelState.withArray (ptes : UInt64 → UInt64) : KernelState :=
  ⟨{ Ledger.empty with next := 1 }, ptes⟩

theorem owns_withArray (ptes : UInt64 → UInt64) :
    (KernelState.withArray ptes).ledger.Owns ({0} + 0) := Ledger.owns_empty.alloc

/-- If the array can be had, all depends on the loops. -/
theorem mmuInitialize_of_array (harray : kernel.memAllocArray = true) {status : NtStatus}
    {mappings : Mappings} {s : KernelState}
    (hloop : mmuInitializeLoop kernel kernel.selfMap (slots processorCount) zeroedMappings
      (.withArray ptes) = (status, mappings, s)) :
    mmuInitialize kernel processorCount (.initial ptes) =
      if ntSuccess status = false then
        (status, mmuFinalize processorCount 0 mappings kernel.selfMap s)
      else (status, ⟨kernel.selfMap, some (0, mappings)⟩, s) := by
  have hinit : mmuInitialize kernel processorCount (.initial ptes)
      = match mmuInitializeLoop kernel kernel.selfMap (slots processorCount) zeroedMappings
          (.withArray ptes) with
        | (status, mappings, s) =>
          if ntSuccess status = false then
            (status, mmuFinalize processorCount 0 mappings kernel.selfMap s)
          else (status, ⟨kernel.selfMap, some (0, mappings)⟩, s) := by
    unfold mmuInitialize
    rw [harray]
    rfl
  rw [hinit, hloop]

/-! ## The slots and the status -/

/-- One slot, in both models. -/
theorem mmuInitializeMapping_refines (slot : Nat × Nat) (mapping : Mapping) (coarse : MmuMapping)
    (s : KernelState) (hva : mapping.baseVa = coarse.baseVa) :
    (mmuInitializeMapping kernel kernel.selfMap slot mapping s).1
        = (Mmu.mmuInitializeMapping kernel.answers slot.1 slot.2 coarse).1 ∧
      (mmuInitializeMapping kernel kernel.selfMap slot mapping s).2.1.baseVa
        = (Mmu.mmuInitializeMapping kernel.answers slot.1 slot.2 coarse).2.baseVa := by
  unfold mmuInitializeMapping Mmu.mmuInitializeMapping mmuAllocateMappingMdl
    Mmu.mmuAllocateMappingMdl MmuKernel.answers mmMapLockedPagesSpecifyCache
  by_cases hcpu : slot.1 > maxCpu
  · simp only [if_pos hcpu, if_true]
    exact ⟨trivial, hva⟩
  · simp only [if_neg hcpu]
    cases hmdl : kernel.ioAllocateMdl slot with
    | false =>
      simp only [if_true]
      exact ⟨rfl, hva⟩
    | true =>
      cases kernel.mmProbeAndLockPages slot <;>
        by_cases hzero : kernel.mmMapLockedPages slot = 0 <;>
        simp [hzero, byteOffset_slotSpace]

/-- The loops. -/
theorem mmuInitializeLoop_refines :
    ∀ {rest : List (Nat × Nat)} {mappings : Mappings} {array : MmuArray} {s : KernelState},
      (∀ slot, (mappings slot).baseVa = (array slot.1 slot.2).baseVa) →
      (mmuInitializeLoop kernel kernel.selfMap rest mappings s).1
          = (Mmu.mmuInitializeLoop kernel.answers rest array).1 ∧
        ∀ slot, ((mmuInitializeLoop kernel kernel.selfMap rest mappings s).2.1 slot).baseVa
          = ((Mmu.mmuInitializeLoop kernel.answers rest array).2 slot.1 slot.2).baseVa := by
  intro rest
  induction rest with
  | nil =>
    intro mappings array s hva
    exact ⟨rfl, hva⟩
  | cons slot rest ih =>
    intro mappings array s hva
    obtain ⟨hstatus, hbase⟩ := @mmuInitializeMapping_refines kernel slot (mappings slot)
      (array slot.1 slot.2) s (hva slot)
    have hstored : ∀ other, (Function.update mappings slot
        (mmuInitializeMapping kernel kernel.selfMap slot (mappings slot) s).2.1 other).baseVa
        = ((array.store slot
          (Mmu.mmuInitializeMapping kernel.answers slot.1 slot.2 (array slot.1 slot.2)).2)
          other.1 other.2).baseVa := by
      intro other
      unfold MmuArray.store
      by_cases hself : other = slot
      · rw [hself, Function.update_self, if_pos rfl]
        exact hbase
      · rw [Function.update_of_ne hself, if_neg hself]
        exact hva other
    rw [mmuInitializeLoop, Mmu.mmuInitializeLoop]
    dsimp only
    rw [← hstatus]
    split
    next => exact ih hstored
    next => exact ⟨rfl, hstored⟩

/-- **The slots are those of `Mmu/Setup`**: the status is the same, and there is an array in the
same cases, with the same addresses. -/
theorem mmuInitialize_refines (kernel : MmuKernel) (processorCount : Nat)
    (ptes : UInt64 → UInt64) :
    (mmuInitialize kernel processorCount (.initial ptes)).1
        = (Mmu.mmuInitialize kernel.answers processorCount).1 ∧
      (mmuInitialize kernel processorCount (.initial ptes)).2.1.mmuArray.map
          (fun array procIdx slotIdx => (array.2 (procIdx, slotIdx)).baseVa)
        = (Mmu.mmuInitialize kernel.answers processorCount).2.map
          fun array procIdx slotIdx => (array procIdx slotIdx).baseVa := by
  unfold Mmu.mmuInitialize
  cases harray : kernel.memAllocArray with
  | false =>
    have hnone : kernel.answers.memAllocArray = false := harray
    unfold mmuInitialize
    simp [harray, hnone, Mmu.mmuInitializeMmuGlobals]
  | true =>
    have hsome : kernel.answers.memAllocArray = true := harray
    obtain ⟨hstatus, hbase⟩ := @mmuInitializeLoop_refines kernel (slots processorCount)
      zeroedMappings zeroedArray (.withArray ptes) fun _ => rfl
    rw [mmuInitialize_of_array harray rfl]
    simp only [Mmu.mmuInitializeMmuGlobals, ntSuccess_statusSuccess, Bool.true_eq_false, if_false,
      hsome]
    rw [← hstatus]
    cases ntSuccess (mmuInitializeLoop kernel kernel.selfMap (slots processorCount)
        zeroedMappings (.withArray ptes)).1 with
    | false => exact ⟨rfl, rfl⟩
    | true =>
      refine ⟨rfl, congrArg some ?_⟩
      funext procIdx slotIdx
      exact hbase (procIdx, slotIdx)

/-! ## All or nothing -/

/-- A list all of whose elements satisfy a property, or the first that does not. -/
theorem all_or_first {α : Type} (p : α → Prop) [DecidablePred p] (l : List α) :
    (∀ a ∈ l, p a) ∨ ∃ before a after, l = before ++ a :: after ∧ (∀ b ∈ before, p b) ∧ ¬ p a := by
  cases hfind : l.find? fun a => !decide (p a) with
  | none =>
    left
    intro a ha
    have hnot := List.find?_eq_none.mp hfind a ha
    simpa using hnot
  | some a =>
    right
    obtain ⟨hnot, before, after, hsplit, hbefore⟩ := List.find?_eq_some_iff_append.mp hfind
    exact ⟨before, a, after, hsplit, fun b hb => by simpa using hbefore b hb, by simpa using hnot⟩

/-- If a lock fails, there is a first one that does. -/
theorem exists_first_lock (h : ¬ LocksHold kernel processorCount) :
    ∃ before slot after, slots processorCount = before ++ slot :: after ∧
      (∀ earlier ∈ before, kernel.answers.Maps earlier ∧
        kernel.mmProbeAndLockPages earlier = true) ∧
      slot.1 ≤ maxCpu ∧ kernel.ioAllocateMdl slot = true ∧
      kernel.mmProbeAndLockPages slot = false := by
  unfold LocksHold at h
  push Not at h
  obtain ⟨before, slot, after, hsplit, hmaps, hcpu, hmdl, hlock⟩ := h
  have hfails : kernel.mmProbeAndLockPages slot = false := by simpa using hlock
  rcases all_or_first (fun earlier => kernel.mmProbeAndLockPages earlier = true) before with
    hall | ⟨before', slot', after', hsplit', hlocks, hlock'⟩
  · exact ⟨before, slot, after, hsplit, fun earlier he => ⟨hmaps earlier he, hall earlier he⟩, hcpu,
      hmdl, hfails⟩
  · have hslot' := hmaps slot' (by rw [hsplit']; simp)
    refine ⟨before', slot', after' ++ slot :: after, ?_, fun earlier he => ?_, hslot'.1, hslot'.2.1,
      by simpa using hlock'⟩
    · rw [hsplit, hsplit', List.append_assoc, List.cons_append]
    · exact ⟨hmaps earlier (by rw [hsplit']; exact List.mem_append_left _ he), hlocks earlier he⟩

/-- **All slots can be had**: all is well if their pages are in `MappingSpace`. -/
theorem allOrNothing_of_maps (harray : kernel.memAllocArray = true)
    (hlocks : ∀ slot ∈ slots processorCount, kernel.mmProbeAndLockPages slot = true)
    (hmaps : ∀ slot ∈ slots processorCount, kernel.answers.Maps slot) :
    AllOrNothing kernel processorCount (.initial ptes) ↔
      kernel.mappingSpace.toNat % 4096 = 0 ∨ processorCount ≤ maxCpu := by
  obtain ⟨mappings, s, hloop, -, hready, howns, hptes⟩ := @mmuInitializeLoop_maps kernel ptes _
    zeroedMappings _ _ (slots_nodup processorCount) hmaps hlocks (owns_withArray ptes)
    fun _ _ => rfl
  have hdone := hloop []
  rw [List.append_nil, mmuInitializeLoop] at hdone
  have hinit := mmuInitialize_of_array harray hdone
  rw [if_neg (by decide)] at hinit
  have hspace : ∀ slot ∈ slots processorCount, InSpace slot := fun slot hslot =>
    ⟨(hmaps slot hslot).1, (mem_slots.mp hslot).2⟩
  unfold AllOrNothing
  rw [hinit]
  dsimp only
  rw [if_pos ntSuccess_statusSuccess]
  constructor
  · rintro ⟨block, mappings', hsome, -, mdl, hmapped, -⟩
    obtain ⟨rfl, rfl⟩ := Prod.mk.inj (Option.some.inj hsome)
    by_contra hnot
    rw [not_or, Nat.not_le] at hnot
    have hlast : (maxCpu, 3) ∈ slots processorCount := mem_slots.mpr ⟨hnot.2, by decide⟩
    have hslot := hmapped _ hlast
    obtain ⟨block, lock, view, hmapping⟩ := hready _ hlast
    have hmdl := hslot.baseMdl.1
    rw [hmapping] at hmdl
    have hinside := hslot.inside.2
    rw [← Option.some.inj hmdl] at hinside
    rcases (slotSpace_inside (hspace _ hlast)).2.mp hinside with haligned | hlt
    · exact hnot.1 haligned
    · exact absurd hlt (by decide)
  · intro hwhere
    have hlive : ∀ {slot b}, slot ∈ slots processorCount → b ∈ (mappings slot).held →
        s.ledger.Live b := fun hslot hb =>
      howns.live_iff.mpr (Multiset.mem_add.mpr (Or.inl (mem_sum_map hslot hb)))
    choose! block lock view hmapping using hready
    refine ⟨0, mappings, rfl, howns.live_iff.mpr (Multiset.mem_add.mpr (Or.inr (by simp))),
      fun slot => ⟨block slot, slotSpace kernel.mappingSpace slot, some (lock slot)⟩,
      fun slot hslot => ?_, fun slot hslot slot' hslot' hne =>
        slotSpace_disjoint (hspace slot hslot) (hspace slot' hslot') hne⟩
    have hva : (mappings slot).baseVa ≠ 0 := by
      rw [hmapping slot hslot]
      exact (hmaps slot hslot).2.2
    have hheld : (mappings slot).held = {view slot} + ({lock slot} + {block slot}) := by
      unfold Mapping.held
      rw [if_neg hva, hmapping slot hslot]
      rfl
    have hblock := hlive hslot (b := block slot) (by rw [hheld]; simp)
    have hlock := hlive hslot (b := lock slot) (by rw [hheld]; simp)
    have hview := hlive hslot (b := view slot) (by rw [hheld]; simp)
    have hinside := @slotSpace_inside kernel slot (hspace slot hslot)
    refine ⟨hva, ⟨by rw [hmapping slot hslot]; rfl, hblock⟩, ⟨_, rfl, hlock⟩,
      ⟨view slot, by rw [hmapping slot hslot]; rfl, hview⟩, ?_, ⟨hinside.1, hinside.2.mpr ?_⟩,
      by rw [hmapping slot hslot]; rfl, ?_⟩
    · have hoffset := congrArg UInt64.toNat (byteOffset_slotSpace kernel.mappingSpace slot)
      rwa [byteOffset_toNat] at hoffset
    · refine hwhere.imp_right fun hcount => ?_
      obtain ⟨hproc, hidx⟩ := mem_slots.mp hslot
      have hsize : mappingSpaceSize = 1064960 := rfl
      unfold slotOffset maxMappingSlots maxCpu at *
      omega
    · rw [hptes, if_pos ⟨slot, hslot, by rw [hmapping slot hslot]; rfl⟩]

/-- **A slot cannot be had**: everything is given back. -/
theorem allOrNothing_of_not_maps (harray : kernel.memAllocArray = true)
    (hlocks : LocksHold kernel processorCount)
    {before after : List (Nat × Nat)} {slot : Nat × Nat}
    (hsplit : slots processorCount = before ++ slot :: after)
    (hmaps : ∀ earlier ∈ before, kernel.answers.Maps earlier) (hnot : ¬ kernel.answers.Maps slot) :
    AllOrNothing kernel processorCount (.initial ptes) := by
  have hnodup := slots_nodup processorCount
  rw [hsplit] at hnodup
  have hearlier : ∀ earlier ∈ before, kernel.mmProbeAndLockPages earlier = true := by
    intro earlier hmem
    obtain ⟨before', after', rfl⟩ := List.append_of_mem hmem
    refine hlocks before' earlier (after' ++ slot :: after) ?_ (fun e he => ?_)
      (hmaps earlier hmem).1 (hmaps earlier hmem).2.1
    · rw [hsplit, List.append_assoc, List.cons_append]
    · exact hmaps e (List.mem_append_left _ he)
  obtain ⟨mappings, s, hloop, hkept, hready, howns, hptes⟩ := @mmuInitializeLoop_maps kernel ptes _
    zeroedMappings _ _ (List.Nodup.of_append_left hnodup) hmaps hearlier (owns_withArray ptes)
    fun _ _ => rfl
  have hfresh : ∀ other ∈ slot :: after, other ∉ before := fun other hother hmem =>
    List.disjoint_of_nodup_append hnodup hmem hother
  have hzero : ∀ other ∈ slot :: after, (mappings other).baseVa = 0 := by
    intro other hother
    rw [hkept other (hfresh other hother)]
    rfl
  obtain ⟨mapping, s', hfail, hva, howns', hptes'⟩ := mmuInitializeMapping_not_maps hnot
    (hlocks before slot after hsplit hmaps) howns (hzero slot List.mem_cons_self)
  have hdone : mmuInitializeLoop kernel kernel.selfMap (slots processorCount) zeroedMappings
      (.withArray ptes) = (statusNoMemory, Function.update mappings slot mapping, s') := by
    rw [hsplit, hloop, mmuInitializeLoop, hfail]
    rfl
  have hinit := mmuInitialize_of_array harray hdone
  rw [if_pos ntSuccess_statusNoMemory] at hinit
  -- only the slots in front have a BaseVa
  have hbehind : ∀ other ∈ slot :: after,
      (Function.update mappings slot mapping other).baseVa = 0 := by
    intro other hother
    by_cases hself : other = slot
    · rw [hself, Function.update_self]
      exact hva
    · rw [Function.update_of_ne hself]
      exact hzero other hother
  have hfront : ∀ other ∈ before, Function.update mappings slot mapping other = mappings other := by
    intro other hother
    refine Function.update_of_ne (fun heq => ?_) _ _
    exact hfresh slot List.mem_cons_self (heq ▸ hother)
  have hcases : ∀ other ∈ slots processorCount, other ∈ before ∨ other ∈ slot :: after := by
    intro other hother
    rw [hsplit] at hother
    exact List.mem_append.mp hother
  have hsum : ((slots processorCount).map fun other =>
      (Function.update mappings slot mapping other).held).sum
      = (before.map fun other => (mappings other).held).sum := by
    have hnone : ((slot :: after).map fun other =>
        (Function.update mappings slot mapping other).held).sum = 0 := by
      refine List.sum_eq_zero fun held hmem => ?_
      obtain ⟨other, hother, rfl⟩ := List.mem_map.mp hmem
      exact if_pos (hbehind other hother)
    rw [hsplit, List.map_append, List.sum_append, hnone, add_zero]
    refine congrArg List.sum (List.map_congr_left fun other hother => ?_)
    rw [hfront other hother]
  obtain ⟨hfinal, hrestored⟩ := @mmuFinalizeLoop_ready kernel ptes
    (Function.update mappings slot mapping) (slots processorCount) s' ({0} + 0)
    (fun other hother hne => by
      rcases hcases other hother with hmem | hmem
      · rw [hfront other hmem]
        exact hready other hmem
      · exact absurd (hbehind other hmem) hne)
    (by rw [hsum]; exact howns')
  unfold AllOrNothing
  rw [hinit]
  dsimp only
  rw [if_neg (by decide)]
  refine ⟨rfl, (Ledger.Owns.free hfinal).settled, ?_⟩
  funext p
  show (mmuFinalizeLoop _ _ s').ptes p = ptes p
  rw [hrestored p, hptes', hptes p]
  split
  next => rfl
  next hnone =>
    refine if_neg ?_
    rintro ⟨other, hother, heq⟩
    refine hnone ⟨other, by rw [hsplit]; exact List.mem_append_left _ hother, ?_, heq⟩
    obtain ⟨block, lock, view, hmapping⟩ := hready other hother
    rw [hfront other hother, hmapping]
    exact (hmaps other hother).2.2

/-- **A lock fails**: it is not all or nothing. -/
theorem not_allOrNothing_of_not_locked (harray : kernel.memAllocArray = true)
    (hnot : ¬ LocksHold kernel processorCount) :
    ¬ AllOrNothing kernel processorCount (.initial ptes) := by
  obtain ⟨before, slot, after, hsplit, hearlier, hcpu, hmdl, hlock⟩ := exists_first_lock hnot
  have hnodup := slots_nodup processorCount
  rw [hsplit] at hnodup
  obtain ⟨hbefore, hslotAfter, -⟩ := List.nodup_append.mp hnodup
  obtain ⟨mappings, s, hloop, -, -, -, -⟩ := @mmuInitializeLoop_maps kernel ptes _
    zeroedMappings _ _ hbefore (fun e he => (hearlier e he).1)
    (fun e he => (hearlier e he).2) (owns_withArray ptes) fun _ _ => rfl
  obtain ⟨hmisused, hnolock⟩ := mmuInitializeMapping_not_locked hcpu hmdl hlock (mappings slot) s
  obtain ⟨status, mappings', s', hdone⟩ : ∃ status mappings' s',
      mmuInitializeLoop kernel kernel.selfMap (slots processorCount) zeroedMappings
        (.withArray ptes) = (status, mappings', s') := ⟨_, _, _, rfl⟩
  have hstep : mmuInitializeLoop kernel kernel.selfMap (slot :: after) mappings s
      = (status, mappings', s') := by
    rw [← hloop, ← hsplit, hdone]
  rw [mmuInitializeLoop] at hstep
  cases hmapping : mmuInitializeMapping kernel kernel.selfMap slot (mappings slot) s with
  | mk first rest =>
    obtain ⟨mapping, s₁⟩ := rest
    rw [hmapping] at hstep hmisused hnolock
    dsimp only at hstep hmisused hnolock
    have hmisused' : s'.ledger.misused = true := by
      split at hstep
      next =>
        have hlater := @misused_mmuInitializeLoop kernel after
          (Function.update mappings slot mapping) s₁ hmisused
        rwa [hstep] at hlater
      next =>
        obtain ⟨-, -, rfl⟩ := hstep
        exact hmisused
    have hinit := mmuInitialize_of_array harray hdone
    unfold AllOrNothing
    rw [hinit]
    cases hstatus : ntSuccess status with
    | false =>
      rw [if_pos rfl]
      dsimp only
      rw [hstatus, if_neg Bool.false_ne_true]
      rintro ⟨-, hsettled, -⟩
      exact Ledger.not_settled_of_misused
        (Ledger.misused_free (misused_mmuFinalizeLoop hmisused')) hsettled
    | true =>
      rw [if_neg (by decide)]
      dsimp only
      rw [hstatus, if_pos rfl]
      rintro ⟨block, mappings'', hsome, -, mdl, hmapped, -⟩
      obtain ⟨rfl, rfl⟩ := Prod.mk.inj (Option.some.inj hsome)
      have hslot := hmapped slot (by rw [hsplit]; simp)
      obtain ⟨hmdlSome, -⟩ := hslot.baseMdl
      obtain ⟨lock, hlocked, -⟩ := hslot.lock
      split at hstep
      next hsuccess =>
        -- the slot is as it was left then
        have hkept := @mmuInitializeLoop_other kernel slot after
          (Function.update mappings slot mapping) s₁ (List.nodup_cons.mp hslotAfter).1
        rw [hstep, Function.update_self] at hkept
        obtain ⟨mdl', hmdl', hnone⟩ := hnolock hsuccess
        rw [← hkept, hmdlSome] at hmdl'
        obtain rfl := Option.some.inj hmdl'
        exact absurd (hlocked.symm.trans hnone) (Option.some_ne_none lock)
      next hfailed =>
        obtain ⟨rfl, -⟩ := hstep
        exact hfailed hstatus

end Initialize

/-- **`MmuInitialize` is all or nothing** exactly if there is memory for the array, every lock
that is asked for is granted, and, should all slots be had, their pages are inside
`MappingSpace`. -/
theorem allOrNothing_iff (kernel : MmuKernel) (processorCount : Nat) (ptes : UInt64 → UInt64) :
    AllOrNothing kernel processorCount (.initial ptes) ↔
      kernel.memAllocArray = true ∧ LocksHold kernel processorCount ∧
        ((∀ slot ∈ slots processorCount, kernel.answers.Maps slot) →
          kernel.mappingSpace.toNat % 4096 = 0 ∨ processorCount ≤ maxCpu) := by
  cases harray : kernel.memAllocArray with
  | false =>
    refine iff_of_false ?_ (fun h => absurd h.1 (by decide))
    unfold AllOrNothing mmuInitialize
    rw [harray]
    dsimp only [Ledger.alloc_false]
    rw [if_pos ntSuccess_statusSuccess]
    rintro ⟨block, mappings, hsome, -⟩
    exact absurd hsome (Option.some_ne_none _).symm
  | true =>
    by_cases hlocks : LocksHold kernel processorCount
    · rcases all_or_first kernel.answers.Maps (slots processorCount) with
        hall | ⟨before, slot, after, hsplit, hmaps, hnot⟩
      · have hgranted : ∀ slot ∈ slots processorCount, kernel.mmProbeAndLockPages slot = true := by
          intro slot hslot
          obtain ⟨before, after, hsplit⟩ := List.append_of_mem hslot
          refine hlocks before slot after hsplit (fun e he => hall e ?_) (hall slot hslot).1
            (hall slot hslot).2.1
          rw [hsplit]
          exact List.mem_append_left _ he
        rw [allOrNothing_of_maps harray hgranted hall]
        exact ⟨fun hwhere => ⟨rfl, hlocks, fun _ => hwhere⟩, fun h => h.2.2 hall⟩
      · refine iff_of_true (allOrNothing_of_not_maps harray hlocks hsplit hmaps hnot)
          ⟨rfl, hlocks, fun hall => absurd (hall slot ?_) hnot⟩
        rw [hsplit]
        simp
    · exact iff_of_false (not_allOrNothing_of_not_locked harray hlocks) fun h => hlocks h.2.1

/-- A section on a page boundary; the page of the first slot cannot be locked, and what is left
of its MDL is not mapped. -/
def unlockedKernel : MmuKernel where
  la57Enabled := false
  mmGetVirtualForPhysical := 0xFFFFF6FB7DBED000
  mappingSpace := 0xFFFFF80000010000
  memAllocArray := true
  ioAllocateMdl _ := true
  mmProbeAndLockPages _ := false
  mmMapLockedPages _ := 0
  loaded := by decide
  aligned _ := rfl
  system _ h := absurd rfl h
  distinct _ _ h := absurd rfl h

/-- Its MDL is freed a second time. -/
theorem not_allOrNothing_unlocked :
    ¬ AllOrNothing unlockedKernel 1 (.initial fun _ => 0x63) := by
  refine not_allOrNothing_of_not_locked rfl fun hlocks => ?_
  have hlock := hlocks [] (0, 0) [(0, 1), (0, 2), (0, 3)] rfl (by simp) (by decide) rfl
  exact absurd hlock (by decide)

end DeepShield.Mmu.Initialize
