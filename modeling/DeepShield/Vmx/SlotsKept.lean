import DeepShield.Mmu.SlotRuns
import DeepShield.Td.CopyCode
import DeepShield.Vmx.Exits

/-!
# No slot is leaked

`MmuGetPhysicalAddress` maps a table at each level, `VmReadGuestInstruction` a code page and
then the next one, `TdCopySiblingMemory` two at a time; all of them leave in the middle if a
page is absent, large, or there is no slot for it. Four slots are all there are.

As long as the PTEs of free slots are cleared, which they are in every run of a processor, the
three routines leave the slots as they found them, flags and PTEs, on every way out
(`slots_kept`).
-/

namespace DeepShield.Vmx

open DeepShield.Lib DeepShield.Os DeepShield.Mmu DeepShield.Td

section Frame

variable {machine : Machine} {mmu : MmuPerCpu} {cr3 : UInt64}

/-- The page of an instruction. -/
theorem mapGuestPage_borrows (h : mmu.Cleared) (va : UInt64) :
    Borrows mmu (mapGuestPage machine mmu cr3 va).1 (mapGuestPage machine mmu cr3 va).2 ∧
      pageAlign (mapGuestPage machine mmu cr3 va).1 = (mapGuestPage machine mmu cr3 va).1 := by
  have hwalk := h.getPhysicalAddress machine cr3 va
  unfold mapGuestPage
  cases hpa : mmuGetPhysicalAddress machine mmu cr3 va with
  | mk codePa mmu₁ =>
    rw [hpa] at hwalk
    obtain rfl : mmu = mmu₁ := hwalk.symm
    dsimp only
    split
    next => exact ⟨⟨fun _ => rfl, h, fun hne => absurd rfl hne⟩, pageAlign_zero⟩
    next => exact ⟨h.borrows codePa false, mmuMapIoPage_pageAlign codePa false⟩

/-- **`VmReadGuestInstruction`.** -/
theorem vmReadGuestInstruction_mmu (h : mmu.Cleared) (remoteVa : UInt64) :
    (vmReadGuestInstruction machine mmu cr3 remoteVa).2 = mmu := by
  obtain ⟨hfirst, hpage⟩ := @mapGuestPage_borrows machine mmu cr3 h remoteVa
  unfold vmReadGuestInstruction
  cases hmap : mapGuestPage machine mmu cr3 remoteVa with
  | mk codePage mmu₁ =>
    rw [hmap] at hfirst hpage
    dsimp only at hfirst hpage ⊢
    by_cases hnull : codePage = 0
    · rw [if_pos hnull]
      exact hfirst.null hnull
    · have hback := hfirst.back hnull
      rw [hpage] at hback
      rw [if_neg hnull, hback]
      split
      next => rfl
      next =>
        -- the page after it, from the slots there were at first
        obtain ⟨hsecond, hpage'⟩ :=
          @mapGuestPage_borrows machine mmu cr3 h (remoteVa + UInt64.ofNat tscpInsLenght)
        cases hmap' : mapGuestPage machine mmu cr3 (remoteVa + UInt64.ofNat tscpInsLenght) with
        | mk codePage' mmu₂ =>
          rw [hmap'] at hsecond hpage'
          dsimp only at hsecond hpage' ⊢
          by_cases hnull' : codePage' = 0
          · rw [if_pos hnull']
            exact hsecond.null hnull'
          · have hback' := hsecond.back hnull'
            rw [hpage'] at hback'
            rw [if_neg hnull']
            exact hback'

/-- The page of an address of an entry. -/
theorem tdMapAddress_borrows (h : mmu.Cleared) (address : UInt64) :
    Borrows mmu (tdMapAddress machine mmu cr3 address).1
      (tdMapAddress machine mmu cr3 address).2 := by
  have hwalk := h.getPhysicalAddress machine cr3 (pageAlign address)
  unfold tdMapAddress
  cases hpa : mmuGetPhysicalAddress machine mmu cr3 (pageAlign address) with
  | mk codePa mmu₁ =>
    rw [hpa] at hwalk
    obtain rfl : mmu = mmu₁ := hwalk.symm
    dsimp only
    split
    next => exact ⟨fun _ => rfl, h, fun hne => absurd rfl hne⟩
    next =>
      have hborrow := h.borrows codePa false
      split
      next hnull => exact ⟨fun _ => hborrow.null hnull, hborrow.cleared, fun hne => absurd rfl hne⟩
      next hne =>
        obtain ⟨va, mmu', hmap, ⟨hva, haligned⟩, -⟩ :=
          mmuMapIoPage_spec (freeSlots_pos hne) codePa false
        have hback := h.unmap_map hne
        have hcleared := hborrow.cleared
        rw [hmap] at hback hcleared ⊢
        have hpage := pageAlign_add_byteOffset haligned address
        refine ⟨fun hnull => ?_, hcleared, fun _ => ?_⟩
        · rw [show va + byteOffset address = 0 from hnull] at hpage
          exact absurd hpage.symm hva
        · show mmuUnmapIoPage mmu' (pageAlign (va + byteOffset address)) = mmu
          rw [hpage]
          exact hback

/-- **`TdCopySiblingMemory`.** -/
theorem tdCopySiblingMemory_mmu (h : mmu.Cleared) {sibling : TscEntry} {code : List UInt8}
    {r : CopyResult} (hr : tdCopySiblingMemory machine mmu cr3 sibling code = some r) :
    r.mmu = mmu := by
  have hfirst := @tdMapAddress_borrows machine mmu cr3 h sibling.before.address
  unfold tdCopySiblingMemory at hr
  cases hmap : tdMapAddress machine mmu cr3 sibling.before.address with
  | mk startAddress mmu₁ =>
    rw [hmap] at hfirst hr
    dsimp only at hfirst hr
    by_cases hstart : startAddress = 0
    · rw [if_pos hstart] at hr
      rw [← Option.some.inj hr]
      exact hfirst.null hstart
    · have hback := hfirst.back hstart
      rw [if_neg hstart] at hr
      split at hr
      next =>
        have hsecond := @tdMapAddress_borrows machine mmu₁ cr3 hfirst.cleared sibling.after.address
        cases hmap' : tdMapAddress machine mmu₁ cr3 sibling.after.address with
        | mk endAddress mmu₂ =>
          rw [hmap'] at hsecond hr
          dsimp only at hsecond hr
          by_cases hend : endAddress = 0
          · rw [if_pos hend] at hr
            rw [← Option.some.inj hr]
            show mmuUnmapIoPage mmu₂ (pageAlign startAddress) = mmu
            rw [hsecond.null hend]
            exact hback
          · rw [if_neg hend] at hr
            obtain ⟨code₁, -, hr⟩ := Option.bind_eq_some_iff.mp hr
            obtain ⟨code₂, -, hr⟩ := Option.bind_eq_some_iff.mp hr
            rw [← Option.some.inj hr]
            show mmuUnmapIoPage (mmuUnmapIoPage mmu₂ (pageAlign startAddress))
              (pageAlign endAddress) = mmu
            rw [mmuUnmapIoPage_comm, hsecond.back hend]
            exact hback
      next =>
        obtain ⟨code₁, -, hr⟩ := Option.bind_eq_some_iff.mp hr
        rw [← Option.some.inj hr]
        exact hback

end Frame

/-! ## Whatever is outstanding -/

/-- The three routines leave the slots as they found them, whatever the page tables say; and
the copy ends for every entry that fits `TSC_REPORT.Code`. -/
structure SlotsKept (mmu : MmuPerCpu) : Prop where
  getPhysicalAddress : ∀ machine targetCr3 baseAddress,
    (mmuGetPhysicalAddress machine mmu targetCr3 baseAddress).2 = mmu
  readGuestInstruction : ∀ machine cr3 remoteVa,
    (vmReadGuestInstruction machine mmu cr3 remoteVa).2 = mmu
  copySiblingMemory : ∀ machine cr3 sibling code r,
    tdCopySiblingMemory machine mmu cr3 sibling code = some r → r.mmu = mmu
  copied : ∀ machine cr3 sibling code, TscEntry.Fits sibling →
    ∃ r, tdCopySiblingMemory machine mmu cr3 sibling code = some r

theorem slotsKept_of_cleared {mmu : MmuPerCpu} (h : mmu.Cleared) : SlotsKept mmu where
  getPhysicalAddress := h.getPhysicalAddress
  readGuestInstruction _ _ := vmReadGuestInstruction_mmu h
  copySiblingMemory _ _ _ _ _ := tdCopySiblingMemory_mmu h
  copied _ _ _ _ := tdCopySiblingMemory_fits

open Initialize in
/-- **No slot is leaked**, whichever mappings are outstanding on a processor since
`MmuInitialize`. -/
theorem slots_kept {kernel : MmuKernel} {processorCount block procIdx : Nat}
    {ptes : UInt64 → UInt64} {mappings : Mappings}
    (hsuccess :
      ntSuccess (Initialize.mmuInitialize kernel processorCount (.initial ptes)).1 = true)
    (harray : (Initialize.mmuInitialize kernel processorCount (.initial ptes)).2.1.mmuArray
      = some (block, mappings)) (hproc : procIdx < processorCount) :
    ∃ boot : MmuPerCpu, boot.mappings = (List.range maxMappingSlots).map (fun slotIdx =>
        (mappings (procIdx, slotIdx)).slot
          (Initialize.mmuInitialize kernel processorCount (.initial ptes)).2.2) ∧
      ∀ calls, Always slotStep (fun h => SlotsKept h.mmu) ⟨boot, []⟩ calls := by
  obtain ⟨-, boot, hmappings, hboot⟩ := mmuInitialize_boot hsuccess harray hproc
  exact ⟨boot, hmappings, fun calls =>
    always_of_inv (fun hinv => slotsKept_of_cleared hinv.free) SlotsInv.step
      (slotsInv_boot hboot)⟩

open Initialize in
/-- The last of the processors there may be. -/
theorem slots_kept_mapped : ∃ boot : MmuPerCpu,
    boot.mappings.map MmuMapping.baseVa
      = [0xFFFFA00000004000, 0xFFFFA00000005000, 0xFFFFA00000006000, 0xFFFFA00000007000] ∧
    ∀ calls, Always slotStep (fun h => SlotsKept h.mmu) ⟨boot, []⟩ calls := by
  obtain ⟨boot, hboot, halways⟩ := @slots_kept mappedKernel 2 0 1 (fun _ => 0x63) _ rfl rfl
    (by decide)
  refine ⟨boot, ?_, halways⟩
  rw [hboot]
  rfl

end DeepShield.Vmx
