import DeepShield.Mmu.Mapping
import DeepShield.Os.NtStatus

/-!
# Setting up the mapping slots

`MmuInitialize` allocates `gMmu.MmuArray` and gives every slot of every processor a page of
its own. A slot that cannot be had ends it, and `MmuFinalize` takes everything back.

It leaves an array exactly if the array and all slots could be had (`mmuInitialize_mapped`,
`mmuInitialize_not_mapped`), and then the slots of a processor are what `MmuPerCpu` asks for
(`mmuInitialize_perCpu`). The status does not say as much: if there is no memory for the
array, it is still that of `MmuInitializeMmuGlobals`, a success.
-/

namespace DeepShield.Mmu

open DeepShield.Os

/-- `MAX_CPU`. -/
def maxCpu : Nat := 64

/-- How the allocations of `MmuInitialize` turn out: that of the array, and for each slot
that of the MDL and the address its page is mapped at, NULL if it is not. -/
structure MmuAnswers where
  memAllocArray : Bool
  ioAllocateMdl : Nat → Nat → Bool
  mmMapLockedPages : Nat → Nat → UInt64

/-- `gMmu.MmuArray`, by processor and slot. -/
abbrev MmuArray := Nat → Nat → MmuMapping

/-- The array after `RtlZeroMemory`. -/
def zeroedArray : MmuArray := fun _ _ => ⟨false, 0, 0⟩

/-- `MmuInitializeMmuGlobals`: `MmuGetSelfMapPmlIndex` always finds an index. -/
def mmuInitializeMmuGlobals : NtStatus := statusSuccess

/-- `MmuAllocateMappingMdl`: there is one. -/
def mmuAllocateMappingMdl (answers : MmuAnswers) (index slot : Nat) : Bool :=
  if index > maxCpu then false else answers.ioAllocateMdl index slot

/-- `MmuInitializeMapping`. -/
def mmuInitializeMapping (answers : MmuAnswers) (procIdx slotIdx : Nat) (mapping : MmuMapping) :
    NtStatus × MmuMapping :=
  if mmuAllocateMappingMdl answers procIdx slotIdx = false then (statusNoMemory, mapping)
  else
    let baseVa := answers.mmMapLockedPages procIdx slotIdx
    if baseVa = 0 then (statusNoMemory, { mapping with baseVa := 0 })
    else (statusSuccess, ⟨false, baseVa, zeroPte⟩)

/-- The slots of the processors, in the order of the two loops. -/
def slots (processorCount : Nat) : List (Nat × Nat) :=
  (List.range processorCount).flatMap fun procIdx =>
    (List.range maxMappingSlots).map fun slotIdx => (procIdx, slotIdx)

/-- `Mmu->Mappings[SlotIdx]` of a processor, assigned to. -/
def MmuArray.store (array : MmuArray) (slot : Nat × Nat) (mapping : MmuMapping) : MmuArray :=
  fun procIdx slotIdx => if (procIdx, slotIdx) = slot then mapping else array procIdx slotIdx

/-- The two loops of `MmuInitialize`, over the slots that are left. -/
def mmuInitializeLoop (answers : MmuAnswers) : List (Nat × Nat) → MmuArray → NtStatus × MmuArray
  | [], array => (statusSuccess, array)
  | slot :: rest, array =>
    let (status, mapping) := mmuInitializeMapping answers slot.1 slot.2 (array slot.1 slot.2)
    let array := array.store slot mapping
    if ntSuccess status then mmuInitializeLoop answers rest array else (status, array)

/-- `MmuInitialize`: the status, and `gMmu.MmuArray`, none for NULL. -/
def mmuInitialize (answers : MmuAnswers) (processorCount : Nat) : NtStatus × Option MmuArray :=
  let status := mmuInitializeMmuGlobals
  if ntSuccess status = false then (status, none)
  else if answers.memAllocArray = false then (status, none)
  else
    let (status, array) := mmuInitializeLoop answers (slots processorCount) zeroedArray
    -- MmuFinalize sets it to NULL again
    if ntSuccess status then (status, some array) else (status, none)

/-- Every slot of every processor is initialised. -/
def SlotsReady (processorCount : Nat) (array : MmuArray) : Prop :=
  ∀ procIdx < processorCount, ∀ slotIdx < maxMappingSlots, (array procIdx slotIdx).baseVa ≠ 0

/-- A slot gets its page. -/
def MmuAnswers.Maps (answers : MmuAnswers) (slot : Nat × Nat) : Prop :=
  slot.1 ≤ maxCpu ∧ answers.ioAllocateMdl slot.1 slot.2 = true ∧
    answers.mmMapLockedPages slot.1 slot.2 ≠ 0

/-- The array and every slot can be had. -/
def MmuAnswers.MapsAll (answers : MmuAnswers) (processorCount : Nat) : Prop :=
  answers.memAllocArray = true ∧
    ∀ procIdx < processorCount, ∀ slotIdx < maxMappingSlots, answers.Maps (procIdx, slotIdx)

instance (answers : MmuAnswers) (slot : Nat × Nat) : Decidable (answers.Maps slot) :=
  inferInstanceAs (Decidable (_ ∧ _))

instance (answers : MmuAnswers) (processorCount : Nat) :
    Decidable (answers.MapsAll processorCount) :=
  inferInstanceAs (Decidable (_ ∧ _))

section Initialize

variable {answers : MmuAnswers} {processorCount : Nat}

theorem mem_slots {slot : Nat × Nat} :
    slot ∈ slots processorCount ↔ slot.1 < processorCount ∧ slot.2 < maxMappingSlots := by
  obtain ⟨procIdx, slotIdx⟩ := slot
  simp [slots]

/-- **One slot.** -/
theorem mmuInitializeMapping_cases (answers : MmuAnswers) (slot : Nat × Nat)
    (mapping : MmuMapping) :
    (answers.Maps slot ∧ mmuInitializeMapping answers slot.1 slot.2 mapping
        = (statusSuccess, ⟨false, answers.mmMapLockedPages slot.1 slot.2, zeroPte⟩)) ∨
      ¬ answers.Maps slot ∧
        (mmuInitializeMapping answers slot.1 slot.2 mapping).1 = statusNoMemory := by
  unfold mmuInitializeMapping mmuAllocateMappingMdl MmuAnswers.Maps
  by_cases hcpu : slot.1 > maxCpu
  · right
    rw [if_pos hcpu, if_pos rfl]
    exact ⟨fun hmaps => absurd hmaps.1 (Nat.not_le_of_gt hcpu), rfl⟩
  · rw [if_neg hcpu]
    cases hmdl : answers.ioAllocateMdl slot.1 slot.2 with
    | false => exact Or.inr ⟨fun hmaps => absurd hmaps.2.1 (by decide), rfl⟩
    | true =>
      rw [if_neg (by decide)]
      by_cases hva : answers.mmMapLockedPages slot.1 slot.2 = 0
      · right
        simp only [if_pos hva]
        exact ⟨fun hmaps => hmaps.2.2 hva, trivial⟩
      · left
        simp only [if_neg hva]
        exact ⟨⟨Nat.le_of_not_gt hcpu, trivial, hva⟩, trivial⟩

/-- **The loops**: they go through if every slot can be had, and give each its page. -/
theorem mmuInitializeLoop_maps :
    ∀ {rest : List (Nat × Nat)} {array : MmuArray}, (∀ slot ∈ rest, answers.Maps slot) →
      ∃ array', mmuInitializeLoop answers rest array = (statusSuccess, array') ∧
        ∀ slot, array' slot.1 slot.2 = if slot ∈ rest then
          ⟨false, answers.mmMapLockedPages slot.1 slot.2, zeroPte⟩ else array slot.1 slot.2 := by
  intro rest
  induction rest with
  | nil =>
    intro array _
    exact ⟨array, rfl, fun slot => by simp⟩
  | cons first rest ih =>
    intro array hmaps
    obtain ⟨hfirst, hrest⟩ := List.forall_mem_cons.mp hmaps
    rcases mmuInitializeMapping_cases answers first (array first.1 first.2) with
      ⟨_, hmapping⟩ | ⟨hnot, _⟩
    · obtain ⟨array', hloop, hslots⟩ := @ih (array.store first
        ⟨false, answers.mmMapLockedPages first.1 first.2, zeroPte⟩) hrest
      refine ⟨array', ?_, fun slot => ?_⟩
      · rw [mmuInitializeLoop, hmapping]
        exact (if_pos ntSuccess_statusSuccess).trans hloop
      · rw [hslots slot]
        by_cases hmem : slot ∈ rest
        · rw [if_pos hmem, if_pos (List.mem_cons_of_mem first hmem)]
        · rw [if_neg hmem]
          by_cases hself : slot = first
          · rw [hself, if_pos List.mem_cons_self]
            exact if_pos rfl
          · rw [if_neg (by simp [hself, hmem])]
            exact if_neg hself
    · exact absurd hfirst hnot

/-- They fail at a slot that cannot be had. -/
theorem mmuInitializeLoop_not_maps {slot : Nat × Nat} (hnot : ¬ answers.Maps slot) :
    ∀ {rest : List (Nat × Nat)} {array : MmuArray}, slot ∈ rest →
      ntSuccess (mmuInitializeLoop answers rest array).1 = false := by
  intro rest
  induction rest with
  | nil =>
    intro array hmem
    exact absurd hmem (by simp)
  | cons first rest ih =>
    intro array hmem
    rw [mmuInitializeLoop]
    rcases mmuInitializeMapping_cases answers first (array first.1 first.2) with
      ⟨hfirst, hmapping⟩ | ⟨_, hfailed⟩
    · have hother : slot ∈ rest := by
        rcases List.mem_cons.mp hmem with hself | hrest
        · exact absurd (hself ▸ hfirst) hnot
        · exact hrest
      simp only [hmapping, ntSuccess_statusSuccess, if_true]
      exact ih hother
    · simp only [hfailed]
      rfl

/-- **All slots are set up** if everything can be had. -/
theorem mmuInitialize_mapped (h : answers.MapsAll processorCount) :
    ∃ array, mmuInitialize answers processorCount = (statusSuccess, some array) ∧
      ∀ procIdx < processorCount, ∀ slotIdx < maxMappingSlots,
        array procIdx slotIdx = ⟨false, answers.mmMapLockedPages procIdx slotIdx, zeroPte⟩ := by
  obtain ⟨array, hloop, hslots⟩ := @mmuInitializeLoop_maps answers (slots processorCount)
    zeroedArray fun slot hmem => h.2 slot.1 (mem_slots.mp hmem).1 slot.2 (mem_slots.mp hmem).2
  refine ⟨array, ?_, fun procIdx hproc slotIdx hslot => ?_⟩
  · simp [mmuInitialize, mmuInitializeMmuGlobals, h.1, hloop]
  · rw [hslots (procIdx, slotIdx), if_pos (mem_slots.mpr ⟨hproc, hslot⟩)]

/-- **There is no array** otherwise. -/
theorem mmuInitialize_not_mapped (h : ¬ answers.MapsAll processorCount) :
    (mmuInitialize answers processorCount).2 = none := by
  unfold mmuInitialize
  cases hmemory : answers.memAllocArray with
  | false => simp [mmuInitializeMmuGlobals]
  | true =>
    have hslot : ∃ slot ∈ slots processorCount, ¬ answers.Maps slot := by
      by_contra hall
      refine h ⟨hmemory, fun procIdx hproc slotIdx hslot => ?_⟩
      by_contra hnot
      exact hall ⟨(procIdx, slotIdx), mem_slots.mpr ⟨hproc, hslot⟩, hnot⟩
    obtain ⟨slot, hmem, hnot⟩ := hslot
    have hfailed := @mmuInitializeLoop_not_maps answers slot hnot _ zeroedArray hmem
    simp [mmuInitializeMmuGlobals, hfailed]

/-- Without memory for the array it reports a success all the same. -/
theorem mmuInitialize_noArray (h : answers.memAllocArray = false) :
    mmuInitialize answers processorCount = (statusSuccess, none) := by
  simp [mmuInitialize, mmuInitializeMmuGlobals, h]

/-- **The slots of a processor** are an `MmuPerCpu` with all of them free, if the pages are
mapped at addresses of their own. -/
theorem mmuInitialize_perCpu (h : answers.MapsAll processorCount) {procIdx : Nat}
    (hproc : procIdx < processorCount)
    (hdistinct : ((List.range maxMappingSlots).map (answers.mmMapLockedPages procIdx)).Nodup)
    (haligned : ∀ slotIdx < maxMappingSlots,
      (answers.mmMapLockedPages procIdx slotIdx).toNat % 4096 = 0) :
    ∃ array, mmuInitialize answers processorCount = (statusSuccess, some array) ∧
      ∃ mmu : MmuPerCpu, mmu.mappings = (List.range maxMappingSlots).map (array procIdx) ∧
        mmu.freeSlots = maxMappingSlots := by
  obtain ⟨array, hinit, hslots⟩ := mmuInitialize_mapped h
  have hmappings : (List.range maxMappingSlots).map (array procIdx)
      = (List.range maxMappingSlots).map fun slotIdx =>
          ⟨false, answers.mmMapLockedPages procIdx slotIdx, zeroPte⟩ :=
    List.map_congr_left fun slotIdx hslot => hslots procIdx hproc slotIdx (List.mem_range.mp hslot)
  have hvas : ((List.range maxMappingSlots).map (array procIdx)).map MmuMapping.baseVa
      = (List.range maxMappingSlots).map (answers.mmMapLockedPages procIdx) := by
    rw [hmappings, List.map_map]
    rfl
  have hnonNull : 0 ∉ ((List.range maxMappingSlots).map (array procIdx)).map MmuMapping.baseVa := by
    intro hzero
    rw [hvas] at hzero
    obtain ⟨slotIdx, hslot, hva⟩ := List.mem_map.mp hzero
    exact (h.2 procIdx hproc slotIdx (List.mem_range.mp hslot)).2.2 hva
  have haddress : ∀ va ∈ ((List.range maxMappingSlots).map (array procIdx)).map MmuMapping.baseVa,
      va.toNat % 4096 = 0 := by
    intro va hva
    rw [hvas] at hva
    obtain ⟨slotIdx, hslot, hva⟩ := List.mem_map.mp hva
    rw [← hva]
    exact haligned slotIdx (List.mem_range.mp hslot)
  refine ⟨array, hinit, MmuPerCpu.mk ((List.range maxMappingSlots).map (array procIdx))
    (by rw [List.length_map, List.length_range]) (by rw [hvas]; exact hdistinct) hnonNull haddress,
    rfl, ?_⟩
  show ((List.range maxMappingSlots).map (array procIdx)).countP (fun m => !m.mapInUse) = _
  rw [hmappings]
  rfl

end Initialize

end DeepShield.Mmu
