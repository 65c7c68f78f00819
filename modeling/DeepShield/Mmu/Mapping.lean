import DeepShield.Lib.Bits
import DeepShield.Lib.Bytes

/-!
# Mapping slots of `mmu.c`

Root mode reads physical memory through a few fixed virtual pages, four on each
processor. Mapping a page takes a free slot and writes its PTE, unmapping finds
the slot by its address, clears the PTE and gives the slot back.

What a read through a slot sees is what the PTE says, so a PTE is part of the
model (`mmuReadPage`). That the slots have distinct, page-aligned, non-NULL
addresses comes from `MmuInitialize` and is part of `MmuPerCpu`; it is what lets
`MmuUnmapIoPage` find the slot that was mapped (`mmuMapIoPage_spec`).
-/

namespace DeepShield.Mmu

open DeepShield.Lib

/-- `MAX_MAPPING_SLOTS`. -/
def maxMappingSlots : Nat := 4

/-- `PTE64_PFN_MASK`. -/
def pte64PfnMask : UInt64 := 0x000FFFFFFFFFF000

/-- `DefaultPte`: valid, writable, dirty and accessed. -/
def defaultPte : UInt64 := 0x63

/-- `PAGE_CACHE_UC`. -/
def pageCacheUc : UInt64 := 0x18

/-- `ZeroPte`. -/
def zeroPte : UInt64 := 0

/-- `PAGE_ALIGN`. -/
def pageAlign (va : UInt64) : UInt64 := va &&& 0xFFFFFFFFFFFFF000

/-- `BYTE_OFFSET`. -/
def byteOffset (va : UInt64) : UInt64 := va &&& 0xFFF

/-- `MMU_MAPPING`, with the PTE at `PointerPte`. -/
structure MmuMapping where
  mapInUse : Bool
  baseVa : UInt64
  pte : UInt64
deriving Repr, DecidableEq

/-- `MMU_PERCPU` of the current processor, as `MmuInitialize` made it. -/
structure MmuPerCpu where
  mappings : List MmuMapping
  length_eq : mappings.length = maxMappingSlots
  distinct : (mappings.map MmuMapping.baseVa).Nodup
  nonNull : 0 ∉ mappings.map MmuMapping.baseVa
  aligned : ∀ va ∈ mappings.map MmuMapping.baseVa, va.toNat % 4096 = 0

/-- A processor whose mapping slots are all free. -/
def bootMmu : MmuPerCpu where
  mappings := [⟨false, 0x10000, 0⟩, ⟨false, 0x11000, 0⟩, ⟨false, 0x12000, 0⟩,
    ⟨false, 0x13000, 0⟩]
  length_eq := rfl
  distinct := by decide
  nonNull := by decide
  aligned := by simp

/-- Change what slot `i` is used for, but not where it is. -/
def MmuPerCpu.modify (mmu : MmuPerCpu) (i : Nat) (mapInUse : Bool) (pte : UInt64) : MmuPerCpu :=
  have hva : (mmu.mappings.modify i fun m => { m with mapInUse := mapInUse, pte := pte }).map
      MmuMapping.baseVa = mmu.mappings.map MmuMapping.baseVa := by
    apply List.ext_getElem?
    intro j
    rw [List.getElem?_map, List.getElem?_modify, List.getElem?_map]
    cases mmu.mappings[j]? with
    | none => rfl
    | some m =>
      by_cases hij : i = j
      · simp [hij]
      · simp [hij]
  ⟨mmu.mappings.modify i fun m => { m with mapInUse := mapInUse, pte := pte },
    by rw [List.length_modify, mmu.length_eq], by rw [hva]; exact mmu.distinct,
    by rw [hva]; exact mmu.nonNull, by rw [hva]; exact mmu.aligned⟩

/-- The slots that can be acquired. -/
def MmuPerCpu.freeSlots (mmu : MmuPerCpu) : Nat := mmu.mappings.countP fun m => !m.mapInUse

/-- `MmupCreatePte`. -/
def mmupCreatePte (physicalAddress pteContents : UInt64) : UInt64 :=
  (physicalAddress &&& pte64PfnMask) ||| pteContents

/-- `MmuAcquireMapping`: the first slot whose compare-exchange finds it free. -/
def mmuAcquireMapping (mmu : MmuPerCpu) : Option Nat :=
  mmu.mappings.findIdx? fun m => !m.mapInUse

/-- `MmuGetMappingForVa`. -/
def mmuGetMappingForVa (mmu : MmuPerCpu) (virtualAddress : UInt64) : Option Nat :=
  mmu.mappings.findIdx? fun m => m.mapInUse && m.baseVa == virtualAddress

/-- `MmuMapIoPage`: the address of the mapping, NULL if no slot is free. -/
def mmuMapIoPage (mmu : MmuPerCpu) (physicalPage : UInt64) (uncached : Bool) :
    UInt64 × MmuPerCpu :=
  match mmuAcquireMapping mmu with
  | none => (0, mmu)
  | some i =>
    let tempPte := if uncached then defaultPte ||| pageCacheUc else defaultPte
    ((mmu.mappings.map MmuMapping.baseVa).getD i 0,
      mmu.modify i true (mmupCreatePte physicalPage tempPte))

/-- `MmuUnmapIoPage`. -/
def mmuUnmapIoPage (mmu : MmuPerCpu) (virtualAddress : UInt64) : MmuPerCpu :=
  match mmuGetMappingForVa mmu virtualAddress with
  | none => mmu
  | some i => mmu.modify i false zeroPte

/-- `n` bytes from offset `offset` on of the page mapped at `baseVa`, as the
PTE of that address has it; none where no slot has that address. -/
def mmuReadPage (physical : Mem) (mmu : MmuPerCpu) (baseVa : UInt64) (offset n : Nat) :
    List UInt8 :=
  match mmu.mappings.find? fun m => m.baseVa == baseVa with
  | none => []
  | some m => readBytes physical ((m.pte &&& pte64PfnMask).toNat + offset) n

/-! ## Addresses -/

/-- `BYTE_OFFSET` is the remainder by the page size. -/
theorem byteOffset_toNat (va : UInt64) : (byteOffset va).toNat = va.toNat % 4096 := by
  have hmask : (0xFFF : UInt64).toNat = 2 ^ 12 - 1 := rfl
  rw [byteOffset, UInt64.toNat_and, hmask, Nat.and_two_pow_sub_one_eq_mod]

/-- `PAGE_ALIGN` takes the remainder off. -/
theorem pageAlign_toNat (va : UInt64) : (pageAlign va).toNat + va.toNat % 4096 = va.toNat := by
  have hmask : (0xFFFFFFFFFFFFF000 : UInt64).toNat = (2 ^ 52 - 1) * 2 ^ 12 := rfl
  have hlt := va.toNat_lt
  rw [pageAlign, UInt64.toNat_and, hmask, and_field]
  omega

/-- An address inside a page is on that page. -/
theorem pageAlign_add_byteOffset {page : UInt64} (h : page.toNat % 4096 = 0) (va : UInt64) :
    pageAlign (page + byteOffset va) = page := by
  have hoffset := byteOffset_toNat va
  have hlt := page.toNat_lt
  have hpage := pageAlign_toNat (page + byteOffset va)
  have hnum : (page + byteOffset va).toNat = page.toNat + va.toNat % 4096 := by
    rw [UInt64.toNat_add, hoffset, Nat.mod_eq_of_lt (by omega)]
  rw [← UInt64.toNat_inj]
  omega

/-! ## Mapping and unmapping -/

/-- Changing one element of a list changes a count by what it does to that
element. -/
theorem countP_modify {α : Type} {p : α → Bool} {f : α → α} :
    ∀ {l : List α} {i : Nat} {a : α}, l[i]? = some a →
      (l.modify i f).countP p + (p a).toNat = l.countP p + (p (f a)).toNat := by
  intro l
  induction l with
  | nil =>
    intro i a h
    exact absurd h (by simp)
  | cons b l ih =>
    intro i a h
    cases i with
    | zero =>
      obtain rfl := Option.some.inj h
      rw [List.modify_zero_cons, List.countP_cons, List.countP_cons]
      cases p b <;> cases p (f b) <;> simp
    | succ i =>
      have hrest := ih (i := i) (a := a) (by simpa using h)
      rw [List.modify_succ_cons, List.countP_cons, List.countP_cons]
      omega

section Spec

variable {mmu : MmuPerCpu} {i : Nat}

theorem modify_getElem? (j : Nat) (mapInUse : Bool) (pte : UInt64) :
    (mmu.modify i mapInUse pte).mappings[j]? = mmu.mappings[j]?.map fun m =>
      if i = j then { m with mapInUse := mapInUse, pte := pte } else m := by
  show (mmu.mappings.modify i _)[j]? = _
  rw [List.getElem?_modify]
  cases mmu.mappings[j]? with
  | none => rfl
  | some m =>
    by_cases hij : i = j
    · simp [hij]
    · simp [hij]

/-- Addresses tell slots apart. -/
theorem index_unique {j : Nat} {m m' : MmuMapping} (hi : mmu.mappings[i]? = some m)
    (hj : mmu.mappings[j]? = some m') (hva : m.baseVa = m'.baseVa) : i = j := by
  have hlt : i < (mmu.mappings.map MmuMapping.baseVa).length := by
    rw [List.length_map]
    exact (List.getElem?_eq_some_iff.mp hi).1
  refine (List.getElem?_inj hlt mmu.distinct).mp ?_
  rw [List.getElem?_map, List.getElem?_map, hi, hj, Option.map_some, Option.map_some, hva]

theorem baseVa_ne_zero {m : MmuMapping} (hi : mmu.mappings[i]? = some m) : m.baseVa ≠ 0 := by
  intro hzero
  refine mmu.nonNull (List.mem_map.mpr ⟨m, List.mem_of_getElem? hi, hzero⟩)

theorem baseVa_aligned {m : MmuMapping} (hi : mmu.mappings[i]? = some m) :
    m.baseVa.toNat % 4096 = 0 :=
  mmu.aligned m.baseVa (List.mem_map.mpr ⟨m, List.mem_of_getElem? hi, rfl⟩)

/-- The slots left when one of them changes hands. -/
theorem freeSlots_modify {m : MmuMapping} (hi : mmu.mappings[i]? = some m) (mapInUse : Bool)
    (pte : UInt64) : (mmu.modify i mapInUse pte).freeSlots + (!m.mapInUse).toNat
      = mmu.freeSlots + (!mapInUse).toNat :=
  countP_modify hi

/-- No slot can be acquired exactly if none is free. -/
theorem mmuAcquireMapping_eq_none : mmuAcquireMapping mmu = none ↔ mmu.freeSlots = 0 := by
  unfold mmuAcquireMapping MmuPerCpu.freeSlots
  rw [List.findIdx?_eq_none_iff, List.countP_eq_zero]
  simp

theorem mmuAcquireMapping_eq_some (h : mmuAcquireMapping mmu = some i) :
    ∃ m, mmu.mappings[i]? = some m ∧ m.mapInUse = false := by
  obtain ⟨hlt, hfree, _⟩ := List.findIdx?_eq_some_iff_getElem.mp h
  exact ⟨mmu.mappings[i], List.getElem?_eq_getElem hlt, by simpa using hfree⟩

/-- The slot of an address that is in use is found by it. -/
theorem mmuGetMappingForVa_eq {m : MmuMapping} (hi : mmu.mappings[i]? = some m)
    (huse : m.mapInUse = true) : mmuGetMappingForVa mmu m.baseVa = some i := by
  unfold mmuGetMappingForVa
  cases hfound : mmu.mappings.findIdx? fun m' => m'.mapInUse && m'.baseVa == m.baseVa with
  | none =>
    have hnot := List.findIdx?_eq_none_iff.mp hfound m (List.mem_of_getElem? hi)
    simp [huse] at hnot
  | some j =>
    obtain ⟨hlt, hj, _⟩ := List.findIdx?_eq_some_iff_getElem.mp hfound
    have hva : mmu.mappings[j].baseVa = m.baseVa := by
      simp only [Bool.and_eq_true, beq_iff_eq] at hj
      exact hj.2
    rw [index_unique (List.getElem?_eq_getElem hlt) hi hva]

/-- A read through an address sees the page its slot has. -/
theorem mmuReadPage_eq (physical : Mem) {m : MmuMapping} (hi : mmu.mappings[i]? = some m)
    (offset n : Nat) : mmuReadPage physical mmu m.baseVa offset n
      = readBytes physical ((m.pte &&& pte64PfnMask).toNat + offset) n := by
  unfold mmuReadPage
  cases hfound : mmu.mappings.find? fun m' => m'.baseVa == m.baseVa with
  | none =>
    have hnot := List.find?_eq_none.mp hfound m (List.mem_of_getElem? hi)
    simp at hnot
  | some m' =>
    obtain ⟨j, hj⟩ := List.getElem?_of_mem (List.mem_of_find?_eq_some hfound)
    have hva : m'.baseVa = m.baseVa := by simpa using List.find?_some hfound
    obtain rfl := index_unique hj hi hva
    obtain rfl := Option.some.inj (hj.symm.trans hi)
    rfl

/-- With no slot free, nothing is mapped. -/
theorem mmuMapIoPage_of_full (h : mmu.freeSlots = 0) (physicalPage : UInt64) (uncached : Bool) :
    mmuMapIoPage mmu physicalPage uncached = (0, mmu) := by
  unfold mmuMapIoPage
  rw [mmuAcquireMapping_eq_none.mpr h]

/-- The frame a PTE made by `MmupCreatePte` maps. -/
theorem mmupCreatePte_frame (pa contents : UInt64) (h : contents &&& pte64PfnMask = 0) :
    mmupCreatePte pa contents &&& pte64PfnMask = pa &&& pte64PfnMask := by
  have hbits : ((pa &&& pte64PfnMask) ||| contents) &&& pte64PfnMask
      = (pa &&& pte64PfnMask) ||| (contents &&& pte64PfnMask) := by
    apply UInt64.eq_of_toBitVec_eq
    ext j hj
    simp only [UInt64.toBitVec_and, UInt64.toBitVec_or, BitVec.getElem_and, BitVec.getElem_or]
    cases pa.toBitVec[j] <;> cases pte64PfnMask.toBitVec[j] <;> simp
  rw [mmupCreatePte, hbits, h, UInt64.or_zero]

/-- What mapping a page writes to the slot it takes. -/
theorem mmuMapIoPage_taken (h : 0 < mmu.freeSlots) (physicalPage : UInt64) (uncached : Bool) :
    ∃ i m, mmu.mappings[i]? = some m ∧ m.mapInUse = false ∧
      mmuMapIoPage mmu physicalPage uncached = (m.baseVa, mmu.modify i true
        (mmupCreatePte physicalPage
          (if uncached then defaultPte ||| pageCacheUc else defaultPte))) := by
  cases hacq : mmuAcquireMapping mmu with
  | none =>
    rw [mmuAcquireMapping_eq_none] at hacq
    exact absurd hacq (Nat.ne_of_gt h)
  | some i =>
    obtain ⟨m, hi, hfree⟩ := mmuAcquireMapping_eq_some hacq
    have hva : (mmu.mappings.map MmuMapping.baseVa).getD i 0 = m.baseVa := by
      rw [List.getD_eq_getElem?_getD, List.getElem?_map, hi]
      rfl
    refine ⟨i, m, hi, hfree, ?_⟩
    unfold mmuMapIoPage
    simp only [hacq, hva]

/-- The slot that mapping a page takes. -/
theorem mmuMapIoPage_acquired (h : 0 < mmu.freeSlots) (physicalPage : UInt64) (uncached : Bool) :
    ∃ i m pte, mmu.mappings[i]? = some m ∧ m.mapInUse = false ∧
      mmuMapIoPage mmu physicalPage uncached = (m.baseVa, mmu.modify i true pte) ∧
      pte &&& pte64PfnMask = physicalPage &&& pte64PfnMask := by
  obtain ⟨i, m, hi, hfree, hmap⟩ := mmuMapIoPage_taken h physicalPage uncached
  refine ⟨i, m, _, hi, hfree, hmap, mmupCreatePte_frame _ _ ?_⟩
  cases uncached <;> decide

/-- The slot afterwards. -/
theorem modify_self {m : MmuMapping} (hi : mmu.mappings[i]? = some m) (mapInUse : Bool)
    (pte : UInt64) : (mmu.modify i mapInUse pte).mappings[i]?
      = some { m with mapInUse := mapInUse, pte := pte } := by
  rw [modify_getElem?, hi, Option.map_some, if_pos rfl]

/-- **Mapping a page, resolved.** With a slot free, one slot is taken and its
address reads the page asked for; unmapping that address gives it back. -/
theorem mmuMapIoPage_spec (h : 0 < mmu.freeSlots) (physicalPage : UInt64) (uncached : Bool) :
    ∃ va mmu', mmuMapIoPage mmu physicalPage uncached = (va, mmu') ∧
      (va ≠ 0 ∧ va.toNat % 4096 = 0) ∧ mmu'.freeSlots + 1 = mmu.freeSlots ∧
      (mmuUnmapIoPage mmu' va).freeSlots = mmu.freeSlots ∧
      ∀ physical offset n, mmuReadPage physical mmu' va offset n
        = readBytes physical ((physicalPage &&& pte64PfnMask).toNat + offset) n := by
  obtain ⟨i, m, pte, hi, hfree, hmap, hframe⟩ := mmuMapIoPage_acquired h physicalPage uncached
  have hnew := modify_self hi true pte
  have htaken := freeSlots_modify hi true pte
  simp only [hfree, Bool.not_false, Bool.not_true, Bool.toNat_true, Bool.toNat_false] at htaken
  refine ⟨m.baseVa, _, hmap, ⟨baseVa_ne_zero hi, baseVa_aligned hi⟩, htaken, ?_,
    fun physical offset n => ?_⟩
  · have hback := freeSlots_modify hnew false zeroPte
    simp only [Bool.not_false, Bool.not_true, Bool.toNat_true, Bool.toNat_false] at hback
    unfold mmuUnmapIoPage
    simp only [mmuGetMappingForVa_eq hnew rfl]
    omega
  · rw [← hframe]
    exact mmuReadPage_eq physical hnew offset n

/-! ## A page that stays mapped -/

/-- A slot in use has this address, and its PTE this page. -/
def MmuPerCpu.Maps (mmu : MmuPerCpu) (va physicalPage : UInt64) : Prop :=
  ∃ (i : Nat) (m : MmuMapping), mmu.mappings[i]? = some m ∧ m.mapInUse = true ∧
    m.baseVa = va ∧ m.pte &&& pte64PfnMask = physicalPage &&& pte64PfnMask

variable {va physicalPage : UInt64}

/-- A read through the address sees the page. -/
theorem MmuPerCpu.Maps.read (h : mmu.Maps va physicalPage) (physical : Mem) (offset n : Nat) :
    mmuReadPage physical mmu va offset n
      = readBytes physical ((physicalPage &&& pte64PfnMask).toNat + offset) n := by
  obtain ⟨i, m, hi, -, rfl, hframe⟩ := h
  rw [← hframe]
  exact mmuReadPage_eq physical hi offset n

/-- Mapping a page maps it. -/
theorem mmuMapIoPage_maps (h : 0 < mmu.freeSlots) (physicalPage : UInt64) (uncached : Bool) :
    (mmuMapIoPage mmu physicalPage uncached).2.Maps (mmuMapIoPage mmu physicalPage uncached).1
      physicalPage := by
  obtain ⟨i, m, pte, hi, -, hmap, hframe⟩ := mmuMapIoPage_acquired h physicalPage uncached
  rw [hmap]
  exact ⟨i, _, modify_self hi true pte, rfl, rfl, hframe⟩

/-- Changing one slot leaves a page mapped by another. -/
theorem MmuPerCpu.Maps.modify {j : Nat} {m : MmuMapping} (h : mmu.Maps va physicalPage)
    (hj : mmu.mappings[j]? = some m) (hne : m.baseVa ≠ va) (mapInUse : Bool) (pte : UInt64) :
    (mmu.modify j mapInUse pte).Maps va physicalPage := by
  obtain ⟨i, m', hi, huse, hva, hframe⟩ := h
  have hij : j ≠ i := by
    rintro rfl
    obtain rfl := Option.some.inj (hj.symm.trans hi)
    exact hne hva
  exact ⟨i, m', by rw [modify_getElem?, hi, Option.map_some, if_neg hij], huse, hva, hframe⟩

/-- Mapping another page takes another slot. -/
theorem MmuPerCpu.Maps.mapIoPage (h : mmu.Maps va physicalPage) (other : UInt64)
    (uncached : Bool) : (mmuMapIoPage mmu other uncached).1 ≠ va ∧
      (mmuMapIoPage mmu other uncached).2.Maps va physicalPage := by
  obtain ⟨i, m', hi, huse, hva, -⟩ := id h
  by_cases hfull : mmu.freeSlots = 0
  · rw [mmuMapIoPage_of_full hfull]
    exact ⟨fun hzero => baseVa_ne_zero hi (hva.trans hzero.symm), h⟩
  · obtain ⟨j, m, pte, hj, hfree, hmap, -⟩ :=
      mmuMapIoPage_acquired (Nat.pos_of_ne_zero hfull) other uncached
    rw [hmap]
    have hne : m.baseVa ≠ va := by
      intro heq
      obtain rfl := index_unique hi hj (hva.trans heq.symm)
      obtain rfl := Option.some.inj (hi.symm.trans hj)
      rw [huse] at hfree
      exact absurd hfree (by decide)
    exact ⟨hne, h.modify hj hne true pte⟩

/-- Unmapping another address leaves it mapped. -/
theorem MmuPerCpu.Maps.unmapIoPage (h : mmu.Maps va physicalPage) {other : UInt64}
    (hne : other ≠ va) : (mmuUnmapIoPage mmu other).Maps va physicalPage := by
  unfold mmuUnmapIoPage
  cases hfound : mmuGetMappingForVa mmu other with
  | none => exact h
  | some j =>
    obtain ⟨hlt, htest, -⟩ := List.findIdx?_eq_some_iff_getElem.mp hfound
    simp only [Bool.and_eq_true, beq_iff_eq] at htest
    exact h.modify (List.getElem?_eq_getElem hlt) (fun heq => hne (htest.2.symm.trans heq)) false
      zeroPte

end Spec

end DeepShield.Mmu
