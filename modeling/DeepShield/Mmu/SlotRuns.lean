import DeepShield.Lib.Runs
import DeepShield.Mmu.Initialize
import DeepShield.Mmu.Walk

/-!
# Runs of mapping and unmapping

From outside, a processor's slots are at most four mappings that were handed out and not
taken back, each with its address and what was asked for (`Outstanding`). The flag, the PTE
and the address of a slot are kept in step with that by four routines, one after another.

`SlotsInv` is how: a slot is in use exactly for one of the mappings, its PTE is what that one
asked for, and the PTE of a slot that is not in use is zero. `slots_always` is what follows,
for every sequence of calls after `MmuInitialize`.

As the PTEs of free slots are cleared, unmapping what was mapped gives back the very slots there
were before (`MmuPerCpu.Cleared.unmap_map`), and so does a walk of the page tables.
-/

namespace DeepShield.Mmu

open DeepShield.Lib DeepShield.Os

/-! ## PTEs -/

/-- `PTE_VALID`, `PTE_RW`, `PTE_ACCESSED` and `PTE_DIRTY`. -/
def mappedBits : UInt64 := 0x1 ||| 0x2 ||| 0x20 ||| 0x40

/-- `PTE_PCD` and `PTE_PWT`, if a page is not to be cached. -/
def cachingBits (uncached : Bool) : UInt64 := if uncached then 0x10 ||| 0x8 else 0

/-- A PTE for this page and caching: the frame number, and nothing beside it but the flags. -/
def PteFor (pte physicalPage : UInt64) (uncached : Bool) : Prop :=
  pte &&& pte64PfnMask = physicalPage &&& pte64PfnMask ∧
    pte &&& ~~~pte64PfnMask = mappedBits ||| cachingBits uncached

/-- **`MmupCreatePte`** makes such a PTE. -/
theorem pteFor_mmupCreatePte (physicalPage : UInt64) (uncached : Bool) :
    PteFor (mmupCreatePte physicalPage
      (if uncached then defaultPte ||| pageCacheUc else defaultPte)) physicalPage uncached := by
  have hflags : (if uncached then defaultPte ||| pageCacheUc else defaultPte)
      = mappedBits ||| cachingBits uncached := by
    cases uncached <;> decide
  have hframe : (mappedBits ||| cachingBits uncached) &&& pte64PfnMask = 0 := by
    cases uncached <;> decide
  have hother : (mappedBits ||| cachingBits uncached) &&& ~~~pte64PfnMask
      = mappedBits ||| cachingBits uncached := by
    cases uncached <;> decide
  rw [hflags]
  refine ⟨mmupCreatePte_frame _ _ hframe, ?_⟩
  refine Eq.trans (eq_of_bit fun i hi => ?_) hother
  unfold mmupCreatePte
  rw [bit_and, bit_or, bit_and, bit_and, bit_not hi]
  cases bit pte64PfnMask i <;> simp

/-- It is not zero. -/
theorem PteFor.ne_zero {pte physicalPage : UInt64} {uncached : Bool}
    (h : PteFor pte physicalPage uncached) : pte ≠ zeroPte := by
  rintro rfl
  have hflags := h.2
  cases uncached with
  | false => exact absurd hflags (by decide)
  | true => exact absurd hflags (by decide)

/-! ## Calls -/

/-- A mapping that was handed out: its address, and what was asked for. -/
structure Outstanding where
  virtualAddress : UInt64
  physicalPage : UInt64
  uncached : Bool
deriving Repr, DecidableEq

/-- The slots, and the mappings handed out and not taken back. -/
structure SlotHistory where
  mmu : MmuPerCpu
  outstanding : List Outstanding

/-- A call on the processor. -/
inductive SlotCall
  | mmuMapIoPage (physicalPage : UInt64) (uncached : Bool)
  | mmuUnmapIoPage (virtualAddress : UInt64)
deriving Repr, DecidableEq

/-- One call. -/
def slotStep (h : SlotHistory) : SlotCall → Option SlotHistory
  | .mmuMapIoPage physicalPage uncached =>
    let (virtualAddress, mmu) := mmuMapIoPage h.mmu physicalPage uncached
    some
      { mmu := mmu
        outstanding :=
          if virtualAddress = 0 then h.outstanding
          else ⟨virtualAddress, physicalPage, uncached⟩ :: h.outstanding }
  | .mmuUnmapIoPage virtualAddress =>
    some
      { mmu := mmuUnmapIoPage h.mmu virtualAddress
        outstanding := h.outstanding.filter fun o => o.virtualAddress ≠ virtualAddress }

/-- A slot has the mapping. -/
def Outstanding.Has (o : Outstanding) (m : MmuMapping) : Prop :=
  m.mapInUse = true ∧ m.baseVa = o.virtualAddress ∧ PteFor m.pte o.physicalPage o.uncached

/-- What holds between the slots and the mappings, now and for the next call. -/
structure SlotsOk (h : SlotHistory) : Prop where
  zeroIffFree : ∀ m ∈ h.mmu.mappings, m.pte = zeroPte ↔ m.mapInUse = false
  carried : ∀ o ∈ h.outstanding, ∃ m ∈ h.mmu.mappings, o.Has m
  distinct : (h.outstanding.map Outstanding.virtualAddress).Nodup
  nullIffFull : ∀ physicalPage uncached,
    (mmuMapIoPage h.mmu physicalPage uncached).1 = 0 ↔ h.outstanding.length = maxMappingSlots
  othersIntact : ∀ virtualAddress, ∀ o ∈ h.outstanding, o.virtualAddress ≠ virtualAddress →
    ∃ m ∈ h.mmu.mappings, o.Has m ∧ m ∈ (mmuUnmapIoPage h.mmu virtualAddress).mappings

/-- **The invariant.** -/
structure SlotsInv (h : SlotHistory) : Prop where
  free : ∀ m ∈ h.mmu.mappings, m.mapInUse = false → m.pte = zeroPte
  held : ∀ m ∈ h.mmu.mappings, m.mapInUse = true → ∃ o ∈ h.outstanding, o.Has m
  carried : ∀ o ∈ h.outstanding, ∃ m ∈ h.mmu.mappings, o.Has m
  distinct : (h.outstanding.map Outstanding.virtualAddress).Nodup

/-! ## One call -/

section Call

variable {mmu : MmuPerCpu} {h h' : SlotHistory} {m : MmuMapping}

/-- A slot is known by its address. -/
theorem mapping_unique {m' : MmuMapping} (hm : m ∈ mmu.mappings) (hm' : m' ∈ mmu.mappings)
    (hva : m.baseVa = m'.baseVa) : m = m' := by
  obtain ⟨i, hi⟩ := List.getElem?_of_mem hm
  obtain ⟨j, hj⟩ := List.getElem?_of_mem hm'
  obtain rfl := index_unique hi hj hva
  exact Option.some.inj (hi.symm.trans hj)

/-- **Unmapping** clears the slot in use that has the address, and no other. -/
theorem mmuUnmapIoPage_mappings (virtualAddress : UInt64) :
    (mmuUnmapIoPage mmu virtualAddress).mappings = mmu.mappings.map fun m =>
      if m.mapInUse = true ∧ m.baseVa = virtualAddress then ⟨false, m.baseVa, zeroPte⟩ else m := by
  unfold mmuUnmapIoPage
  cases hfound : mmuGetMappingForVa mmu virtualAddress with
  | none =>
    symm
    refine (List.map_congr_left fun m hm => if_neg ?_).trans (List.map_id _)
    rintro ⟨hused, hva⟩
    have htest := List.findIdx?_eq_none_iff.mp hfound m hm
    simp [hused, hva] at htest
  | some j =>
    obtain ⟨hlt, htest, -⟩ := List.findIdx?_eq_some_iff_getElem.mp hfound
    simp only [Bool.and_eq_true, beq_iff_eq] at htest
    have hj := List.getElem?_eq_getElem hlt
    refine List.ext_getElem? fun i => ?_
    rw [modify_getElem?, List.getElem?_map]
    cases hi : mmu.mappings[i]? with
    | none => rfl
    | some m =>
      refine congrArg some (if_congr ⟨?_, ?_⟩ rfl rfl)
      · rintro rfl
        obtain rfl := Option.some.inj (hj.symm.trans hi)
        exact htest
      · rintro ⟨-, hva⟩
        exact index_unique hj hi (htest.2.trans hva.symm)

theorem mem_mmuUnmapIoPage (virtualAddress : UInt64) :
    m ∈ (mmuUnmapIoPage mmu virtualAddress).mappings ↔ ∃ m' ∈ mmu.mappings,
      m = if m'.mapInUse = true ∧ m'.baseVa = virtualAddress then ⟨false, m'.baseVa, zeroPte⟩
        else m' := by
  rw [mmuUnmapIoPage_mappings, List.mem_map]
  simp only [eq_comm]

/-- **Mapping** a page, with a slot free, writes to one of those and leaves the others. -/
theorem mmuMapIoPage_mappings (hfree : 0 < mmu.freeSlots) (physicalPage : UInt64)
    (uncached : Bool) :
    ∃ taken ∈ mmu.mappings, ∃ pte, taken.mapInUse = false ∧ PteFor pte physicalPage uncached ∧
      (mmuMapIoPage mmu physicalPage uncached).1 = taken.baseVa ∧
      (mmuMapIoPage mmu physicalPage uncached).2.mappings = mmu.mappings.map fun m =>
        if m.baseVa = taken.baseVa then ⟨true, taken.baseVa, pte⟩ else m := by
  obtain ⟨i, taken, hi, hunused, hmap⟩ := mmuMapIoPage_taken hfree physicalPage uncached
  rw [hmap]
  refine ⟨taken, List.mem_of_getElem? hi, _, hunused, pteFor_mmupCreatePte _ _, rfl,
    List.ext_getElem? fun j => ?_⟩
  rw [modify_getElem?, List.getElem?_map]
  cases hj : mmu.mappings[j]? with
  | none => rfl
  | some m =>
    rw [Option.map_some, Option.map_some]
    by_cases hva : m.baseVa = taken.baseVa
    · rw [if_pos hva, if_pos (index_unique hi hj hva.symm), hva]
    · rw [if_neg hva, if_neg]
      rintro rfl
      obtain rfl := Option.some.inj (hi.symm.trans hj)
      exact hva rfl

theorem mem_mmuMapIoPage (hfree : 0 < mmu.freeSlots) (physicalPage : UInt64) (uncached : Bool) :
    ∃ taken ∈ mmu.mappings, ∃ pte, taken.mapInUse = false ∧ PteFor pte physicalPage uncached ∧
      (mmuMapIoPage mmu physicalPage uncached).1 = taken.baseVa ∧
      ∀ m, m ∈ (mmuMapIoPage mmu physicalPage uncached).2.mappings ↔
        m = ⟨true, taken.baseVa, pte⟩ ∨ (m ∈ mmu.mappings ∧ m.baseVa ≠ taken.baseVa) := by
  obtain ⟨taken, htaken, pte, hunused, hpte, hva, hmappings⟩ :=
    mmuMapIoPage_mappings hfree physicalPage uncached
  refine ⟨taken, htaken, pte, hunused, hpte, hva, fun m => ?_⟩
  rw [hmappings, List.mem_map]
  constructor
  · rintro ⟨m', hm', rfl⟩
    split
    next => exact Or.inl rfl
    next hne => exact Or.inr ⟨hm', hne⟩
  · rintro (rfl | ⟨hm, hne⟩)
    · exact ⟨taken, htaken, if_pos rfl⟩
    · exact ⟨m, hm, if_neg hne⟩

end Call

section Invariant

variable {mmu : MmuPerCpu} {h h' : SlotHistory} {m : MmuMapping}

/-- No slot is at NULL. -/
theorem mapping_ne_null (hm : m ∈ mmu.mappings) : m.baseVa ≠ 0 := by
  obtain ⟨i, hi⟩ := List.getElem?_of_mem hm
  exact baseVa_ne_zero hi

/-- A mapping is in the slot with its address. -/
theorem SlotsInv.slot_of_address {o : Outstanding} (hinv : SlotsInv h) (ho : o ∈ h.outstanding)
    (hm : m ∈ h.mmu.mappings) (hva : m.baseVa = o.virtualAddress) : o.Has m := by
  obtain ⟨m', hm', hhas⟩ := hinv.carried o ho
  obtain rfl := mapping_unique hm hm' (hva.trans hhas.2.1.symm)
  exact hhas

/-- **Mapping keeps the invariant.** -/
theorem SlotsInv.map (hinv : SlotsInv h) {physicalPage : UInt64} {uncached : Bool}
    (hstep : slotStep h (.mmuMapIoPage physicalPage uncached) = some h') : SlotsInv h' := by
  obtain rfl := Option.some.inj hstep
  show SlotsInv ⟨(mmuMapIoPage h.mmu physicalPage uncached).2, if
    (mmuMapIoPage h.mmu physicalPage uncached).1 = 0 then h.outstanding else
    ⟨(mmuMapIoPage h.mmu physicalPage uncached).1, physicalPage, uncached⟩ :: h.outstanding⟩
  by_cases hfull : h.mmu.freeSlots = 0
  · rw [mmuMapIoPage_of_full hfull]
    exact hinv
  · obtain ⟨taken, htaken, pte, hunused, hpte, hva, hmem⟩ :=
      mem_mmuMapIoPage (Nat.pos_of_ne_zero hfull) physicalPage uncached
    have hfresh : ∀ o ∈ h.outstanding, o.virtualAddress ≠ taken.baseVa := by
      intro o ho heq
      have hused := (hinv.slot_of_address ho htaken heq.symm).1
      exact absurd (hunused.symm.trans hused) (by decide)
    have hnew : (mmuMapIoPage h.mmu physicalPage uncached).1 ≠ 0 := by
      rw [hva]
      exact mapping_ne_null htaken
    rw [if_neg hnew, hva]
    constructor
    case free =>
      intro m hm hfree
      rcases (hmem m).mp hm with rfl | ⟨hm, -⟩
      · exact absurd hfree (by simp)
      · exact hinv.free m hm hfree
    case held =>
      intro m hm hused
      rcases (hmem m).mp hm with rfl | ⟨hm, -⟩
      · exact ⟨_, List.mem_cons_self, rfl, rfl, hpte⟩
      · obtain ⟨o, ho, hhas⟩ := hinv.held m hm hused
        exact ⟨o, List.mem_cons_of_mem _ ho, hhas⟩
    case carried =>
      intro o ho
      rcases List.mem_cons.mp ho with rfl | ho
      · exact ⟨_, (hmem _).mpr (Or.inl rfl), rfl, rfl, hpte⟩
      · obtain ⟨m, hm, hhas⟩ := hinv.carried o ho
        refine ⟨m, (hmem m).mpr (Or.inr ⟨hm, ?_⟩), hhas⟩
        rw [hhas.2.1]
        exact hfresh o ho
    case distinct =>
      refine List.nodup_cons.mpr ⟨fun hmem' => ?_, hinv.distinct⟩
      obtain ⟨o, ho, heq⟩ := List.mem_map.mp hmem'
      exact hfresh o ho heq

/-- A mapping with another address survives an unmapping. -/
theorem SlotsInv.survives (hinv : SlotsInv h) {o : Outstanding} {virtualAddress : UInt64}
    (ho : o ∈ h.outstanding) (hne : o.virtualAddress ≠ virtualAddress) :
    ∃ m ∈ h.mmu.mappings, o.Has m ∧ m ∈ (mmuUnmapIoPage h.mmu virtualAddress).mappings := by
  obtain ⟨m, hm, hhas⟩ := hinv.carried o ho
  refine ⟨m, hm, hhas, (mem_mmuUnmapIoPage virtualAddress).mpr ⟨m, hm, (if_neg ?_).symm⟩⟩
  rintro ⟨-, hva⟩
  exact hne (hhas.2.1.symm.trans hva)

/-- **So does unmapping.** -/
theorem SlotsInv.unmap (hinv : SlotsInv h) {virtualAddress : UInt64}
    (hstep : slotStep h (.mmuUnmapIoPage virtualAddress) = some h') : SlotsInv h' := by
  obtain rfl := Option.some.inj hstep
  constructor
  case free =>
    intro m hm hfree
    obtain ⟨m', hm', heq⟩ := (mem_mmuUnmapIoPage virtualAddress).mp hm
    split at heq
    next =>
      rw [heq]
    next =>
      subst heq
      exact hinv.free m hm' hfree
  case held =>
    intro m hm hused
    obtain ⟨m', hm', heq⟩ := (mem_mmuUnmapIoPage virtualAddress).mp hm
    split at heq
    next =>
      rw [heq] at hused
      exact absurd hused (by simp)
    next hother =>
      subst heq
      obtain ⟨o, ho, hhas⟩ := hinv.held m hm' hused
      refine ⟨o, List.mem_filter.mpr ⟨ho, ?_⟩, hhas⟩
      simp only [ne_eq, decide_not, Bool.not_eq_true', decide_eq_false_iff_not]
      intro heq
      exact hother ⟨hused, hhas.2.1.trans heq⟩
  case carried =>
    intro o ho
    obtain ⟨ho, hne⟩ := List.mem_filter.mp ho
    obtain ⟨m, -, hhas, hm⟩ := hinv.survives ho (of_decide_eq_true hne)
    exact ⟨m, hm, hhas⟩
  case distinct => exact hinv.distinct.sublist (List.filter_sublist.map _)

/-- As many slots are in use as mappings are outstanding. -/
theorem SlotsInv.count (hinv : SlotsInv h) :
    h.outstanding.length + h.mmu.freeSlots = maxMappingSlots := by
  have hsub : ((h.mmu.mappings.filter MmuMapping.mapInUse).map MmuMapping.baseVa).Nodup :=
    h.mmu.distinct.sublist (List.filter_sublist.map _)
  have hperm : (h.outstanding.map Outstanding.virtualAddress).Perm
      ((h.mmu.mappings.filter MmuMapping.mapInUse).map MmuMapping.baseVa) := by
    refine (List.perm_ext_iff_of_nodup hinv.distinct hsub).mpr fun va => ?_
    rw [List.mem_map, List.mem_map]
    constructor
    · rintro ⟨o, ho, rfl⟩
      obtain ⟨m, hm, hhas⟩ := hinv.carried o ho
      exact ⟨m, List.mem_filter.mpr ⟨hm, hhas.1⟩, hhas.2.1⟩
    · rintro ⟨m, hm, rfl⟩
      obtain ⟨hm, hused⟩ := List.mem_filter.mp hm
      obtain ⟨o, ho, hhas⟩ := hinv.held m hm hused
      exact ⟨o, ho, hhas.2.1.symm⟩
  have hlength := hperm.length_eq
  rw [List.length_map, List.length_map, ← List.countP_eq_length_filter] at hlength
  have hall := List.length_eq_countP_add_countP MmuMapping.mapInUse (l := h.mmu.mappings)
  rw [h.mmu.length_eq] at hall
  have hfree : h.mmu.freeSlots
      = h.mmu.mappings.countP fun m => decide (¬ m.mapInUse = true) := by
    unfold MmuPerCpu.freeSlots
    refine List.countP_congr fun m _ => ?_
    simp
  omega

/-- **What the invariant says.** -/
theorem SlotsInv.ok (hinv : SlotsInv h) : SlotsOk h where
  zeroIffFree m hm := by
    refine ⟨fun hzero => ?_, hinv.free m hm⟩
    by_contra hused
    obtain ⟨o, -, hhas⟩ := hinv.held m hm (by simpa using hused)
    exact hhas.2.2.ne_zero hzero
  carried := hinv.carried
  distinct := hinv.distinct
  nullIffFull physicalPage uncached := by
    have hcount := hinv.count
    by_cases hfull : h.mmu.freeSlots = 0
    · rw [mmuMapIoPage_of_full hfull]
      exact iff_of_true rfl (by omega)
    · obtain ⟨taken, htaken, -, -, -, hva, -⟩ :=
        mem_mmuMapIoPage (Nat.pos_of_ne_zero hfull) physicalPage uncached
      rw [hva]
      exact iff_of_false (mapping_ne_null htaken) (by omega)
  othersIntact virtualAddress o ho hne := hinv.survives ho hne

/-- **Every call keeps it.** -/
theorem SlotsInv.step {call : SlotCall} (hinv : SlotsInv h) (hstep : slotStep h call = some h') :
    SlotsInv h' := by
  cases call with
  | mmuMapIoPage physicalPage uncached => exact hinv.map hstep
  | mmuUnmapIoPage virtualAddress => exact hinv.unmap hstep

/-- With all slots free and their PTEs cleared, nothing is outstanding. -/
theorem slotsInv_boot (hfree : ∀ m ∈ mmu.mappings, m.mapInUse = false ∧ m.pte = zeroPte) :
    SlotsInv ⟨mmu, []⟩ where
  free m hm _ := (hfree m hm).2
  held m hm hused := absurd ((hfree m hm).1.symm.trans hused) (by decide)
  carried o ho := absurd ho (by simp)
  distinct := List.nodup_nil

end Invariant

/-! ## Giving back -/

section Slots

variable {mmu mmu' : MmuPerCpu} {physicalPage : UInt64} {uncached : Bool}

/-- The PTEs of the slots that are not in use are cleared. -/
def MmuPerCpu.Cleared (mmu : MmuPerCpu) : Prop :=
  ∀ m ∈ mmu.mappings, m.mapInUse = false → m.pte = zeroPte

/-- The slots say everything. -/
theorem MmuPerCpu.eq_of_mappings (h : mmu.mappings = mmu'.mappings) : mmu = mmu' := by
  obtain ⟨mappings, _, _, _, _⟩ := mmu
  obtain ⟨mappings', _, _, _, _⟩ := mmu'
  obtain rfl : mappings = mappings' := h
  rfl

/-- NULL takes no slot. -/
theorem mmuMapIoPage_null (h : (mmuMapIoPage mmu physicalPage uncached).1 = 0) :
    (mmuMapIoPage mmu physicalPage uncached).2 = mmu := by
  by_cases hfull : mmu.freeSlots = 0
  · rw [mmuMapIoPage_of_full hfull]
  · obtain ⟨taken, htaken, -, -, -, hva, -⟩ :=
      mmuMapIoPage_mappings (Nat.pos_of_ne_zero hfull) physicalPage uncached
    exact absurd (hva.symm.trans h) (mapping_ne_null htaken)

/-- A mapping that is not NULL had a slot. -/
theorem freeSlots_pos (h : (mmuMapIoPage mmu physicalPage uncached).1 ≠ 0) :
    0 < mmu.freeSlots := by
  refine Nat.pos_of_ne_zero fun hfull => h ?_
  rw [mmuMapIoPage_of_full hfull]

theorem pageAlign_zero : pageAlign 0 = 0 := by decide

/-- What is mapped begins a page. -/
theorem mmuMapIoPage_pageAlign (physicalPage : UInt64) (uncached : Bool) :
    pageAlign (mmuMapIoPage mmu physicalPage uncached).1
      = (mmuMapIoPage mmu physicalPage uncached).1 := by
  by_cases hfull : mmu.freeSlots = 0
  · rw [mmuMapIoPage_of_full hfull]
    exact pageAlign_zero
  · obtain ⟨va, mmu', hmap, ⟨-, haligned⟩, -⟩ :=
      mmuMapIoPage_spec (Nat.pos_of_ne_zero hfull) physicalPage uncached
    have hpage := pageAlign_toNat va
    rw [hmap, ← UInt64.toNat_inj]
    dsimp only
    omega

/-- A slot that is taken is in use. -/
theorem MmuPerCpu.Cleared.map (h : mmu.Cleared) (physicalPage : UInt64) (uncached : Bool) :
    (mmuMapIoPage mmu physicalPage uncached).2.Cleared := by
  by_cases hfull : mmu.freeSlots = 0
  · rw [mmuMapIoPage_of_full hfull]
    exact h
  · obtain ⟨taken, -, pte, -, -, -, hmem⟩ :=
      mem_mmuMapIoPage (Nat.pos_of_ne_zero hfull) physicalPage uncached
    intro m hm hfree
    rcases (hmem m).mp hm with rfl | ⟨hm, -⟩
    · exact absurd hfree (by simp)
    · exact h m hm hfree

/-- **Unmapping what was mapped** gives back the slots as they were. -/
theorem MmuPerCpu.Cleared.unmap_map (h : mmu.Cleared)
    (hva : (mmuMapIoPage mmu physicalPage uncached).1 ≠ 0) :
    mmuUnmapIoPage (mmuMapIoPage mmu physicalPage uncached).2
      (mmuMapIoPage mmu physicalPage uncached).1 = mmu := by
  obtain ⟨taken, htaken, pte, hunused, -, hbase, hmappings⟩ :=
    mmuMapIoPage_mappings (freeSlots_pos hva) physicalPage uncached
  refine MmuPerCpu.eq_of_mappings ?_
  rw [mmuUnmapIoPage_mappings, hmappings, hbase, List.map_map]
  refine (List.map_congr_left fun m hm => ?_).trans (List.map_id _)
  show (if (if m.baseVa = taken.baseVa then (⟨true, taken.baseVa, pte⟩ : MmuMapping)
      else m).mapInUse = true ∧ _ then _ else _) = m
  by_cases hsame : m.baseVa = taken.baseVa
  · obtain rfl := mapping_unique hm htaken hsame
    simp only [if_true, and_self, ← h m hm hunused, ← hunused]
  · simp only [if_neg hsame]
    exact if_neg fun hboth => hsame hboth.2

/-- Two pages may be unmapped in either order. -/
theorem mmuUnmapIoPage_comm (mmu : MmuPerCpu) (va va' : UInt64) :
    mmuUnmapIoPage (mmuUnmapIoPage mmu va) va' = mmuUnmapIoPage (mmuUnmapIoPage mmu va') va := by
  refine MmuPerCpu.eq_of_mappings ?_
  rw [mmuUnmapIoPage_mappings, mmuUnmapIoPage_mappings, mmuUnmapIoPage_mappings,
    mmuUnmapIoPage_mappings, List.map_map, List.map_map]
  refine List.map_congr_left fun m _ => ?_
  simp only [Function.comp_apply]
  by_cases hva : m.mapInUse = true ∧ m.baseVa = va
  · by_cases hva' : m.mapInUse = true ∧ m.baseVa = va'
    · rw [if_pos hva, if_pos hva']
      simp
    · rw [if_pos hva, if_neg hva', if_pos hva]
      simp
  · by_cases hva' : m.mapInUse = true ∧ m.baseVa = va'
    · rw [if_neg hva, if_pos hva']
      simp
    · rw [if_neg hva, if_neg hva', if_neg hva]

/-- **The walk** gives back its slot at every level, and at every way out. -/
theorem MmuPerCpu.Cleared.walkLoop (physical : Mem) (baseAddress : UInt64) (h : mmu.Cleared) :
    ∀ {pagingLevel : Nat} {currentPa returnPa : UInt64},
      (mmuWalkLoop physical baseAddress pagingLevel currentPa returnPa mmu).2 = mmu := by
  intro pagingLevel
  induction pagingLevel with
  | zero =>
    intro currentPa returnPa
    rfl
  | succ pagingLevel ih =>
    intro currentPa returnPa
    rw [mmuWalkLoop]
    by_cases hnull : (mmuMapIoPage mmu currentPa true).1 = 0
    · simp only [if_pos hnull]
      exact mmuMapIoPage_null hnull
    · have hback := h.unmap_map hnull
      simp only [if_neg hnull, hback]
      split
      next => rfl
      next =>
        split
        next => rfl
        next =>
          split
          next => exact ih
          next => exact ih

/-- **`MmuGetPhysicalAddress`.** -/
theorem MmuPerCpu.Cleared.getPhysicalAddress (h : mmu.Cleared) (machine : Machine)
    (targetCr3 baseAddress : UInt64) :
    (mmuGetPhysicalAddress machine mmu targetCr3 baseAddress).2 = mmu := by
  unfold mmuGetPhysicalAddress
  dsimp only
  split
  next => rfl
  next => exact h.walkLoop machine.physical baseAddress

/-- A page was asked for: without one the slots are as before, and with one they will be when
it is unmapped. -/
structure Borrows (mmu : MmuPerCpu) (va : UInt64) (mmu' : MmuPerCpu) : Prop where
  null : va = 0 → mmu' = mmu
  cleared : mmu'.Cleared
  back : va ≠ 0 → mmuUnmapIoPage mmu' (pageAlign va) = mmu

theorem MmuPerCpu.Cleared.borrows (h : mmu.Cleared) (physicalPage : UInt64) (uncached : Bool) :
    Borrows mmu (mmuMapIoPage mmu physicalPage uncached).1
      (mmuMapIoPage mmu physicalPage uncached).2 where
  null := mmuMapIoPage_null
  cleared := h.map physicalPage uncached
  back hva := by
    rw [mmuMapIoPage_pageAlign]
    exact h.unmap_map hva

end Slots

/-! ## After `MmuInitialize` -/

namespace Initialize

variable {kernel : MmuKernel}

/-- What a success leaves in a slot that was gone through. -/
structure SlotReady (kernel : MmuKernel) (s : KernelState) (slot : Nat × Nat) (mapping : Mapping) :
    Prop where
  mapInUse : mapping.mapInUse = false
  baseVa : mapping.baseVa = kernel.mmMapLockedPages slot
  nonNull : mapping.baseVa ≠ 0
  pointerPte : mapping.pointerPte = kernel.pteOf slot
  cleared : s.ptes mapping.pointerPte = zeroPte

/-- An MDL describes the page of its slot, locked or not. -/
theorem mmuAllocateMappingMdl_startVa {slot : Nat × Nat} {ledger : Ledger} {mdl : MappingMdl}
    (h : (mmuAllocateMappingMdl kernel slot ledger).1 = some mdl) :
    mdl.startVa = slotSpace kernel.mappingSpace slot := by
  unfold mmuAllocateMappingMdl at h
  split at h
  next => exact absurd h (Option.some_ne_none mdl).symm
  next =>
    cases hmdl : kernel.ioAllocateMdl slot with
    | false =>
      rw [hmdl] at h
      exact absurd h (Option.some_ne_none mdl).symm
    | true =>
      cases hlock : kernel.mmProbeAndLockPages slot with
      | false =>
        rw [hmdl, hlock] at h
        rw [← Option.some.inj h]
      | true =>
        rw [hmdl, hlock] at h
        rw [← Option.some.inj h]

/-- **One slot**: what was cleared stays so. -/
theorem mmuInitializeMapping_ready {slot : Nat × Nat} {mapping mapping' : Mapping}
    {s s' : KernelState} {status : NtStatus}
    (hinit : mmuInitializeMapping kernel kernel.selfMap slot mapping s = (status, mapping', s'))
    (hsuccess : ntSuccess status = true) :
    SlotReady kernel s' slot mapping' ∧ ∀ p, s.ptes p = zeroPte → s'.ptes p = zeroPte := by
  have hstart := @mmuAllocateMappingMdl_startVa kernel slot s.ledger
  unfold mmuInitializeMapping mmMapLockedPagesSpecifyCache at hinit
  cases hallocated : mmuAllocateMappingMdl kernel slot s.ledger with
  | mk mdl ledger =>
    rw [hallocated] at hinit hstart
    cases mdl with
    | none =>
      obtain ⟨rfl, -⟩ := Prod.mk.inj hinit
      exact absurd hsuccess (by decide)
    | some mdl =>
      by_cases hva : kernel.mmMapLockedPages slot = 0
      · simp only [if_pos hva, if_true] at hinit
        obtain ⟨rfl, -⟩ := Prod.mk.inj hinit
        exact absurd hsuccess (by decide)
      · simp only [if_neg hva, hstart rfl, byteOffset_slotSpace, UInt64.add_zero] at hinit
        obtain ⟨-, hrest⟩ := Prod.mk.inj hinit
        obtain ⟨rfl, rfl⟩ := Prod.mk.inj hrest
        refine ⟨⟨rfl, rfl, hva, rfl, Function.update_self ..⟩, fun p hp => ?_⟩
        show Function.update s.ptes (kernel.pteOf slot) zeroPte p = zeroPte
        by_cases hself : p = kernel.pteOf slot
        · rw [hself, Function.update_self]
        · rw [Function.update_of_ne hself]
          exact hp

/-- **The loops**, whether or not the pages could be locked. -/
theorem mmuInitializeLoop_ready :
    ∀ {rest : List (Nat × Nat)} {mappings mappings' : Mappings} {s s' : KernelState}
      {status : NtStatus}, rest.Nodup →
      mmuInitializeLoop kernel kernel.selfMap rest mappings s = (status, mappings', s') →
      ntSuccess status = true →
      (∀ slot ∈ rest, SlotReady kernel s' slot (mappings' slot)) ∧
        ∀ p, s.ptes p = zeroPte → s'.ptes p = zeroPte := by
  intro rest
  induction rest with
  | nil =>
    intro mappings mappings' s s' status _ hloop _
    obtain ⟨-, hrest⟩ := Prod.mk.inj hloop
    obtain ⟨-, rfl⟩ := Prod.mk.inj hrest
    exact ⟨fun slot hslot => absurd hslot (by simp), fun p hp => hp⟩
  | cons slot rest ih =>
    intro mappings mappings' s s' status hnodup hloop hsuccess
    obtain ⟨hfresh, hnodup⟩ := List.nodup_cons.mp hnodup
    rw [mmuInitializeLoop] at hloop
    cases hinit : mmuInitializeMapping kernel kernel.selfMap slot (mappings slot) s with
    | mk first more =>
      obtain ⟨mapping, s₁⟩ := more
      rw [hinit] at hloop
      dsimp only at hloop
      split at hloop
      next hfirst =>
        obtain ⟨hready, hfirstPtes⟩ := mmuInitializeMapping_ready hinit hfirst
        obtain ⟨hrest, hptes⟩ := ih hnodup hloop hsuccess
        have hkept := @mmuInitializeLoop_other kernel slot rest
          (Function.update mappings slot mapping) s₁ hfresh
        rw [hloop, Function.update_self] at hkept
        refine ⟨List.forall_mem_cons.mpr ⟨?_, hrest⟩, fun p hp => hptes p (hfirstPtes p hp)⟩
        have hkept : mappings' slot = mapping := hkept
        rw [hkept]
        exact { hready with cleared := hptes _ hready.cleared }
      next hfailed =>
        obtain ⟨rfl, -⟩ := Prod.mk.inj hloop
        exact absurd hsuccess hfailed

/-- **A success with an array** has all slots ready. -/
theorem mmuInitialize_ready {processorCount block : Nat} {ptes : UInt64 → UInt64}
    {mappings : Mappings}
    (hsuccess : ntSuccess (mmuInitialize kernel processorCount (.initial ptes)).1 = true)
    (harray : (mmuInitialize kernel processorCount (.initial ptes)).2.1.mmuArray
      = some (block, mappings)) :
    ∀ slot ∈ slots processorCount,
      SlotReady kernel (mmuInitialize kernel processorCount (.initial ptes)).2.2 slot
        (mappings slot) := by
  cases hmemory : kernel.memAllocArray with
  | false =>
    unfold mmuInitialize at harray
    rw [hmemory] at harray
    exact absurd harray (Option.some_ne_none _).symm
  | true =>
    obtain ⟨status, mappings', s, hloop⟩ : ∃ status mappings' s,
        mmuInitializeLoop kernel kernel.selfMap (slots processorCount) zeroedMappings
          (.withArray ptes) = (status, mappings', s) := ⟨_, _, _, rfl⟩
    rw [mmuInitialize_of_array hmemory hloop] at hsuccess harray ⊢
    cases hstatus : ntSuccess status with
    | false =>
      rw [hstatus, if_pos rfl] at hsuccess
      exact absurd (hstatus.symm.trans hsuccess) (by decide)
    | true =>
      rw [hstatus, if_neg (by decide)] at harray
      rw [if_neg (by decide)]
      obtain ⟨-, rfl⟩ := Prod.mk.inj (Option.some.inj harray)
      exact (mmuInitializeLoop_ready (slots_nodup processorCount) hloop hstatus).1

/-- The slot with its PTE. -/
def Mapping.slot (mapping : Mapping) (s : KernelState) : MmuMapping :=
  ⟨mapping.mapInUse, mapping.baseVa, s.ptes mapping.pointerPte⟩

end Initialize

open Initialize in
/-- After a success that left an array, each processor has four slots with PTEs of their own,
all of them free and cleared. -/
theorem mmuInitialize_boot {kernel : MmuKernel} {processorCount block procIdx : Nat}
    {ptes : UInt64 → UInt64} {mappings : Mappings}
    (hsuccess :
      ntSuccess (Initialize.mmuInitialize kernel processorCount (.initial ptes)).1 = true)
    (harray : (Initialize.mmuInitialize kernel processorCount (.initial ptes)).2.1.mmuArray
      = some (block, mappings)) (hproc : procIdx < processorCount) :
    (∀ slotIdx < maxMappingSlots, ∀ slotIdx' < maxMappingSlots,
      (mappings (procIdx, slotIdx)).pointerPte = (mappings (procIdx, slotIdx')).pointerPte →
        slotIdx = slotIdx') ∧
    ∃ boot : MmuPerCpu, boot.mappings = (List.range maxMappingSlots).map (fun slotIdx =>
        (mappings (procIdx, slotIdx)).slot
          (Initialize.mmuInitialize kernel processorCount (.initial ptes)).2.2) ∧
      ∀ m ∈ boot.mappings, m.mapInUse = false ∧ m.pte = zeroPte := by
  have hready : ∀ slotIdx < maxMappingSlots, SlotReady kernel _ (procIdx, slotIdx)
      (mappings (procIdx, slotIdx)) := fun slotIdx hslot =>
    mmuInitialize_ready hsuccess harray (procIdx, slotIdx) (mem_slots.mpr ⟨hproc, hslot⟩)
  generalize (Initialize.mmuInitialize kernel processorCount (.initial ptes)).2.2 = s at hready ⊢
  have hsame : ∀ slotIdx < maxMappingSlots, ∀ slotIdx', kernel.mmMapLockedPages (procIdx, slotIdx)
      = kernel.mmMapLockedPages (procIdx, slotIdx') → slotIdx = slotIdx' := by
    intro slotIdx hslot slotIdx' heq
    have hva := (hready slotIdx hslot).nonNull
    rw [(hready slotIdx hslot).baseVa] at hva
    exact congrArg Prod.snd (kernel.distinct _ _ hva heq)
  refine ⟨fun slotIdx hslot slotIdx' hslot' heq => ?_, ?_⟩
  · have hva := (hready slotIdx hslot).nonNull
    have hva' := (hready slotIdx' hslot').nonNull
    rw [(hready _ hslot).baseVa] at hva
    rw [(hready _ hslot').baseVa] at hva'
    rw [(hready _ hslot).pointerPte, (hready _ hslot').pointerPte] at heq
    exact congrArg Prod.snd (kernel.pteOf_inj hva hva' heq)
  · have hvas : ((List.range maxMappingSlots).map fun slotIdx =>
        (mappings (procIdx, slotIdx)).slot s).map MmuMapping.baseVa
        = (List.range maxMappingSlots).map fun slotIdx =>
            kernel.mmMapLockedPages (procIdx, slotIdx) := by
      rw [List.map_map]
      refine List.map_congr_left fun slotIdx hslot => ?_
      exact (hready slotIdx (List.mem_range.mp hslot)).baseVa
    have hnodup : ((List.range maxMappingSlots).map fun slotIdx =>
        kernel.mmMapLockedPages (procIdx, slotIdx)).Nodup :=
      List.nodup_range.map_on fun slotIdx hslot slotIdx' _ heq =>
        hsame slotIdx (List.mem_range.mp hslot) slotIdx' heq
    have hnonNull : 0 ∉ (List.range maxMappingSlots).map fun slotIdx =>
        kernel.mmMapLockedPages (procIdx, slotIdx) := by
      intro hzero
      obtain ⟨slotIdx, hslot, hva⟩ := List.mem_map.mp hzero
      have hslot := hready slotIdx (List.mem_range.mp hslot)
      exact hslot.nonNull (hslot.baseVa.trans hva)
    have haligned : ∀ va ∈ (List.range maxMappingSlots).map fun slotIdx =>
        kernel.mmMapLockedPages (procIdx, slotIdx), va.toNat % 4096 = 0 := by
      intro va hva
      obtain ⟨slotIdx, -, rfl⟩ := List.mem_map.mp hva
      exact kernel.aligned _
    refine ⟨MmuPerCpu.mk ((List.range maxMappingSlots).map fun slotIdx =>
        (mappings (procIdx, slotIdx)).slot s) (by rw [List.length_map, List.length_range])
      (by rw [hvas]; exact hnodup) (by rw [hvas]; exact hnonNull) (by rw [hvas]; exact haligned),
      rfl, fun m hm => ?_⟩
    obtain ⟨slotIdx, hslot, rfl⟩ := List.mem_map.mp hm
    have hslot := hready slotIdx (List.mem_range.mp hslot)
    exact ⟨hslot.mapInUse, hslot.cleared⟩

open Initialize in
/-- **Mapping slots**: after a success that left an array, each processor has four slots with
PTEs of their own, and every sequence of calls keeps them in step with the mappings that
are outstanding. -/
theorem slots_always {kernel : MmuKernel} {processorCount block procIdx : Nat}
    {ptes : UInt64 → UInt64} {mappings : Mappings}
    (hsuccess :
      ntSuccess (Initialize.mmuInitialize kernel processorCount (.initial ptes)).1 = true)
    (harray : (Initialize.mmuInitialize kernel processorCount (.initial ptes)).2.1.mmuArray
      = some (block, mappings)) (hproc : procIdx < processorCount) :
    (∀ slotIdx < maxMappingSlots, ∀ slotIdx' < maxMappingSlots,
      (mappings (procIdx, slotIdx)).pointerPte = (mappings (procIdx, slotIdx')).pointerPte →
        slotIdx = slotIdx') ∧
    ∃ boot : MmuPerCpu, boot.mappings = (List.range maxMappingSlots).map (fun slotIdx =>
        (mappings (procIdx, slotIdx)).slot
          (Initialize.mmuInitialize kernel processorCount (.initial ptes)).2.2) ∧
      ∀ calls, Always slotStep SlotsOk ⟨boot, []⟩ calls := by
  obtain ⟨hptes, boot, hmappings, hboot⟩ := mmuInitialize_boot hsuccess harray hproc
  exact ⟨hptes, boot, hmappings, fun calls =>
    always_of_inv SlotsInv.ok SlotsInv.step (slotsInv_boot hboot)⟩

namespace Initialize

/-- Where a kernel puts the pages of the slots, one behind the other. -/
def pagesInARow (slot : Nat × Nat) : UInt64 :=
  if slot.1 ≤ maxCpu ∧ slot.2 < maxMappingSlots then
    UInt64.ofNat (0xFFFFA00000000000 + slotOffset slot)
  else 0

theorem pagesInARow_toNat {slot : Nat × Nat} (h : InSpace slot) :
    (pagesInARow slot).toNat = 0xFFFFA00000000000 + slotOffset slot := by
  have hle := slotOffset_le h
  have hsize : mappingSpaceSize = 1064960 := rfl
  obtain ⟨hcpu, hslot⟩ := h
  unfold pagesInARow
  rw [if_pos ⟨hcpu, hslot⟩, UInt64.toNat_ofNat', Nat.mod_eq_of_lt (by omega)]

theorem inSpace_of_pagesInARow {slot : Nat × Nat} (h : pagesInARow slot ≠ 0) : InSpace slot := by
  by_contra hnot
  exact h (if_neg hnot)

theorem pagesInARow_aligned (slot : Nat × Nat) : (pagesInARow slot).toNat % 4096 = 0 := by
  by_cases h : pagesInARow slot = 0
  · rw [h]
    rfl
  · have hoffset : slotOffset slot % 4096 = 0 := Nat.mul_mod_left ..
    rw [pagesInARow_toNat (inSpace_of_pagesInARow h)]
    omega

theorem pagesInARow_system (slot : Nat × Nat) (h : pagesInARow slot ≠ 0) :
    systemRangeStart false ≤ pagesInARow slot := by
  refine UInt64.le_iff_toNat_le.mpr ?_
  rw [pagesInARow_toNat (inSpace_of_pagesInARow h)]
  exact Nat.le_trans (by decide) (Nat.le_add_right _ _)

theorem pagesInARow_distinct (slot slot' : Nat × Nat) (h : pagesInARow slot ≠ 0)
    (heq : pagesInARow slot = pagesInARow slot') : slot = slot' := by
  have hspace := inSpace_of_pagesInARow h
  have hspace' := inSpace_of_pagesInARow (heq ▸ h)
  have hnat := congrArg UInt64.toNat heq
  rw [pagesInARow_toNat hspace, pagesInARow_toNat hspace'] at hnat
  obtain ⟨p, i⟩ := slot
  obtain ⟨p', i'⟩ := slot'
  have hslot : i < maxMappingSlots := hspace.2
  have hslot' : i' < maxMappingSlots := hspace'.2
  unfold slotOffset maxMappingSlots at *
  simp only at hnat
  rw [show p = p' by omega, show i = i' by omega]

/-- Where `MappingSpace` is. -/
theorem mappingSpace_loaded :
    (0xFFFFF80000010000 : UInt64).toNat + mappingSpaceSize ≤ 2 ^ 64 := by
  decide

/-- A kernel all of whose calls succeed. -/
def mappedKernel : MmuKernel where
  la57Enabled := false
  mmGetVirtualForPhysical := 0xFFFFF6FB7DBED000
  mappingSpace := 0xFFFFF80000010000
  memAllocArray := true
  ioAllocateMdl _ := true
  mmProbeAndLockPages _ := true
  mmMapLockedPages := pagesInARow
  loaded := mappingSpace_loaded
  aligned := pagesInARow_aligned
  system := pagesInARow_system
  distinct := pagesInARow_distinct

end Initialize

open Initialize in
/-- The first of two processors. -/
theorem slots_always_mapped : ∃ boot : MmuPerCpu,
    boot.mappings.map MmuMapping.baseVa
      = [0xFFFFA00000000000, 0xFFFFA00000001000, 0xFFFFA00000002000, 0xFFFFA00000003000] ∧
    ∀ calls, Always slotStep SlotsOk ⟨boot, []⟩ calls := by
  obtain ⟨-, boot, hboot, halways⟩ := @slots_always mappedKernel 2 0 0 (fun _ => 0x63) _ rfl rfl
    (by decide)
  refine ⟨boot, ?_, halways⟩
  rw [hboot]
  rfl

end DeepShield.Mmu
