import DeepShield.Vmx.TimeStamp

/-!
# Which instructions are emulated

`VmReadGuestInstruction` fetches up to three bytes, in one of four ways as the instruction lies
to the end of its page, and counts what it got. Whichever way, it gets the bytes in front of
the first one that cannot be read (`vmReadGuestInstruction_eq`), so RDTSC is found exactly if
its two bytes can be read, and RDTSCP if its three can (`exactlyTimeStamps_fetch`).

A page is asked for by an address on it: RIP for the first, RIP + 3 for the next. Of
`MmuGetPhysicalAddress` zero means that there is none; it is also what a page in frame 0 has
for its first address, and for no other (`not_exactlyTimeStamps_frameZero`).
-/

namespace DeepShield.Vmx

open DeepShield.Lib DeepShield.Mmu DeepShield.Td

/-! ## Bytes of the instruction -/

/-- An address is translated, and there is a slot for its page. -/
def Readable (machine : Machine) (mmu : MmuPerCpu) (cr3 va : UInt64) : Prop :=
  (mmuGetPhysicalAddress machine mmu cr3 va).1 ≠ 0 ∧ 0 < mmu.freeSlots

instance (machine : Machine) (mmu : MmuPerCpu) (cr3 va : UInt64) :
    Decidable (Readable machine mmu cr3 va) := inferInstanceAs (Decidable (_ ∧ _))

/-- The byte at an offset of the page that an address on it is translated to. -/
def pageByte (machine : Machine) (mmu : MmuPerCpu) (cr3 va : UInt64) (offset : Nat) : UInt8 :=
  machine.physical
    (((mmuGetPhysicalAddress machine mmu cr3 va).1 &&& pte64PfnMask).toNat + offset)

/-- The first address of the page of byte `i`. -/
def pageAddress (rip : UInt64) (i : Nat) : UInt64 := pageAlign (rip + UInt64.ofNat i)

/-- The address that the fetch has translated for the page of byte `i`. -/
def fetchAddress (rip : UInt64) (i : Nat) : UInt64 :=
  if (byteOffset rip).toNat + i < 4096 then rip else rip + UInt64.ofNat tscpInsLenght

/-- The bytes at RIP can be read, and are these; `asked` says by which address a page is asked
for. -/
def Reads (asked : UInt64 → Nat → UInt64) (env : ExitEnvironment) (vcpu : Vcpu)
    (bytes : List UInt8) : Prop :=
  ∀ i b, bytes[i]? = some b →
    Readable env.machine vcpu.mmu vcpu.vmcs.guestCr3 (asked vcpu.registers.rip i) ∧
      pageByte env.machine vcpu.mmu vcpu.vmcs.guestCr3 (asked vcpu.registers.rip i)
        (((byteOffset vcpu.registers.rip).toNat + i) % 4096) = b

/-- The emulation of an instruction. -/
def TscInstruction.emulate (env : ExitEnvironment) (vcpu : Vcpu) :
    TscInstruction → Except Halt Vcpu
  | .rdtsc => vmRdtscEmulate env vcpu
  | .rdtscp => vmRdtscpEmulate env vcpu

/-- RDTSC and RDTSCP of user code are emulated, where their bytes can be read, and nothing else
is: the exception goes back to the guest, with its registers. -/
structure ExactlyTimeStamps (asked : UInt64 → Nat → UInt64) (others : OtherHandlers)
    (env : ExitEnvironment) (vcpu : Vcpu) : Prop where
  rdtsc : (tscInstructionAt env vcpu).1 = some .rdtsc ↔
    mmuIsUserModeAddress vcpu.registers.rip = true ∧ Reads asked env vcpu [0x0F, 0x31]
  rdtscp : (tscInstructionAt env vcpu).1 = some .rdtscp ↔
    mmuIsUserModeAddress vcpu.registers.rip = true ∧ Reads asked env vcpu [0x0F, 0x01, 0xF9]
  emulated : ∀ instruction, (tscInstructionAt env vcpu).1 = some instruction →
    dsHvmExitHandler others env exitReasonException vcpu
      = instruction.emulate env { vcpu with mmu := (tscInstructionAt env vcpu).2 }
  reinjected : (tscInstructionAt env vcpu).1 = none → ∃ vcpu',
    dsHvmExitHandler others env exitReasonException vcpu = .ok vcpu' ∧
      vcpu' = vmInjectHardwareException vcpu.vmcs.exitInterruptionInformation
        { vcpu with mmu := (tscInstructionAt env vcpu).2 } ∧
      vcpu'.registers = vcpu.registers

/-! ## The fetch -/

/-- The bytes in front of the first that is not readable, of three. -/
def readablePrefix (readable : Nat → Prop) [DecidablePred readable] (byte : Nat → UInt8) :
    List UInt8 :=
  ((List.range 3).takeWhile fun i => decide (readable i)).map byte

section Fetch

variable {machine : Machine} {mmu : MmuPerCpu} {cr3 va : UInt64}

/-- As long as there are as many slots, the same is translated. -/
theorem mmuGetPhysicalAddress_congr {mmu' : MmuPerCpu} (h : mmu'.freeSlots = mmu.freeSlots)
    (hfree : 0 < mmu.freeSlots) : (mmuGetPhysicalAddress machine mmu' cr3 va).1
      = (mmuGetPhysicalAddress machine mmu cr3 va).1 := by
  rw [(mmuGetPhysicalAddress_eq machine cr3 va hfree).1,
    (mmuGetPhysicalAddress_eq machine cr3 va (h ▸ hfree)).1]

/-- A page that is not readable is not mapped. -/
theorem mapGuestPage_of_not_readable (h : ¬ Readable machine mmu cr3 va) :
    (mapGuestPage machine mmu cr3 va).1 = 0 := by
  unfold mapGuestPage
  dsimp only
  by_cases hpa : (mmuGetPhysicalAddress machine mmu cr3 va).1 = 0
  · rw [if_pos hpa]
  · have hfull : mmu.freeSlots = 0 := Nat.eq_zero_of_not_pos fun hfree => h ⟨hpa, hfree⟩
    rw [if_neg hpa, mmuGetPhysicalAddress_of_full machine cr3 va hfull, mmuMapIoPage_of_full hfull]

/-- **One that is** is mapped and read, and its slot given back. -/
theorem mapGuestPage_of_readable (h : Readable machine mmu cr3 va) :
    ∃ page mmu', mapGuestPage machine mmu cr3 va = (page, mmu') ∧ page ≠ 0 ∧
      (mmuUnmapIoPage mmu' page).freeSlots = mmu.freeSlots ∧
      ∀ offset n, mmuReadPage machine.physical mmu' page offset n
        = (List.range n).map fun i => pageByte machine mmu cr3 va (offset + i) := by
  have hslots := (mmuGetPhysicalAddress_eq machine cr3 va h.2).2
  obtain ⟨page, mmu', hmap, ⟨hpage, -⟩, -, hback, hread⟩ := mmuMapIoPage_spec (hslots ▸ h.2)
    (mmuGetPhysicalAddress machine mmu cr3 va).1 false
  refine ⟨page, mmu', ?_, hpage, hback.trans hslots, fun offset n => ?_⟩
  · unfold mapGuestPage
    dsimp only
    rw [if_neg h.1, hmap]
  · rw [hread]
    unfold readBytes pageByte
    exact List.map_congr_left fun i _ => by rw [Nat.add_assoc]

/-- Neither does what is readable and what is read there depend on which slots there are. -/
theorem readable_congr {mmu' : MmuPerCpu} (h : mmu'.freeSlots = mmu.freeSlots)
    (hfree : 0 < mmu.freeSlots) :
    (Readable machine mmu' cr3 va ↔ Readable machine mmu cr3 va) ∧
      ∀ offset, pageByte machine mmu' cr3 va offset = pageByte machine mmu cr3 va offset := by
  have hpa := @mmuGetPhysicalAddress_congr machine mmu cr3 va mmu' h hfree
  unfold Readable pageByte
  rw [hpa, h]
  exact ⟨Iff.rfl, fun _ => rfl⟩

/-- So many bytes are in front of the first that is not readable. -/
theorem readablePrefix_eq {readable : Nat → Prop} [DecidablePred readable] (byte : Nat → UInt8)
    {n : Nat} (hn : n ≤ 3) (hall : ∀ i < n, readable i) (hnot : n < 3 → ¬ readable n) :
    readablePrefix readable byte = (List.range n).map byte := by
  have hcases : n = 0 ∨ n = 1 ∨ n = 2 ∨ n = 3 := by omega
  unfold readablePrefix
  rw [show List.range 3 = [0, 1, 2] from rfl]
  rcases hcases with rfl | rfl | rfl | rfl
  · rw [List.takeWhile_cons_of_neg (by simpa using hnot (by omega))]
    rfl
  · rw [List.takeWhile_cons_of_pos (by simpa using hall 0 (by omega)),
      List.takeWhile_cons_of_neg (by simpa using hnot (by omega))]
    rfl
  · rw [List.takeWhile_cons_of_pos (by simpa using hall 0 (by omega)),
      List.takeWhile_cons_of_pos (by simpa using hall 1 (by omega)),
      List.takeWhile_cons_of_neg (by simpa using hnot (by omega))]
    rfl
  · rw [List.takeWhile_cons_of_pos (by simpa using hall 0 (by omega)),
      List.takeWhile_cons_of_pos (by simpa using hall 1 (by omega)),
      List.takeWhile_cons_of_pos (by simpa using hall 2 (by omega))]
    rfl

/-- **Whichever way the instruction lies**, the fetch gets the bytes in front of the first that
cannot be read. -/
theorem vmReadGuestInstruction_eq (rip : UInt64) :
    (vmReadGuestInstruction machine mmu cr3 rip).1 = guestInstruction (readablePrefix
      (fun i => Readable machine mmu cr3 (fetchAddress rip i))
      fun i => pageByte machine mmu cr3 (fetchAddress rip i)
        (((byteOffset rip).toNat + i) % 4096)) := by
  have hlt : (byteOffset rip).toNat < 4096 := by
    rw [byteOffset_toNat]
    exact Nat.mod_lt _ (by omega)
  unfold vmReadGuestInstruction fetchAddress numberPagesSpanned
  generalize (byteOffset rip).toNat = offset at hlt
  by_cases hreadable : Readable machine mmu cr3 rip
  · obtain ⟨page, mmu', hmap, hpage, hback, hread⟩ := mapGuestPage_of_readable hreadable
    simp only [hmap, if_neg hpage]
    by_cases hone : offset + 2 < 4096
    · -- all three on one page
      rw [if_pos (show (offset + tscpInsLenght + 4095) / 4096 = 1 by unfold tscpInsLenght; omega)]
      rw [readablePrefix_eq _ (Nat.le_refl 3) (fun i hi => ?_) (fun h => absurd h (by omega))]
      · rw [hread]
        dsimp only
        refine congrArg guestInstruction (List.map_congr_left fun i hi => ?_)
        have hi := List.mem_range.mp hi
        rw [if_pos (by omega), Nat.mod_eq_of_lt (by omega)]
      · rw [if_pos (by omega)]
        exact hreadable
    · rw [if_neg (show (offset + tscpInsLenght + 4095) / 4096 ≠ 1 by unfold tscpInsLenght; omega)]
      -- the next page, asked for with as many slots
      obtain ⟨hsame, hbyte⟩ := @readable_congr machine mmu cr3 (rip + UInt64.ofNat tscpInsLenght) _
        hback hreadable.2
      by_cases hnext : Readable machine mmu cr3 (rip + UInt64.ofNat tscpInsLenght)
      · obtain ⟨page', mmu'', hmap', hpage', -, hread'⟩ :=
          mapGuestPage_of_readable (hsame.mpr hnext)
        simp only [hmap', if_neg hpage', hread, hread', hbyte]
        rw [readablePrefix_eq _ (Nat.le_refl 3) (fun i hi => ?_) (fun h => absurd h (by omega))]
        · obtain rfl | rfl : offset = 4094 ∨ offset = 4095 := by omega
          · simp [lastByteInPage, List.range_succ]
          · simp [lastByteInPage, List.range_succ]
        · split
          next => exact hreadable
          next => exact hnext
      · have hnull := mapGuestPage_of_not_readable (fun h => hnext (hsame.mp h))
        simp only [hnull, if_true, hread]
        obtain rfl | rfl : offset = 4094 ∨ offset = 4095 := by omega
        · rw [readablePrefix_eq _ (show 2 ≤ 3 by omega) (fun i hi => ?_) (fun _ => hnext)]
          · simp [lastByteInPage, List.range_succ]
          · rw [if_pos (by omega)]
            exact hreadable
        · rw [readablePrefix_eq _ (show 1 ≤ 3 by omega) (fun i hi => ?_) (fun _ => hnext)]
          · simp [lastByteInPage, List.range_succ]
          · rw [if_pos (by omega)]
            exact hreadable
  · have hnull := mapGuestPage_of_not_readable hreadable
    have hnone : ¬ Readable machine mmu cr3
        (if offset + 0 < 4096 then rip else rip + UInt64.ofNat tscpInsLenght) := by
      rw [if_pos (show offset + 0 < 4096 from hlt)]
      exact hreadable
    rw [readablePrefix_eq _ (Nat.zero_le 3) (fun i hi => absurd hi (Nat.not_lt_zero i))
      (fun _ => hnone)]
    simp only [hnull, if_true]
    rfl

end Fetch

/-! ## The decision -/

/-- What `DsHvmExceptionHandler` makes of the bytes it gets. -/
def tscInstructionOf : Option (List UInt8) → Option TscInstruction
  | none => none
  | some opcode =>
    if isRdtscInstruction opcode then some .rdtsc
    else if isRdtscpInstruction opcode then some .rdtscp
    else none

/-- The bytes are readable, and these. -/
def ReadsAs (readable : Nat → Prop) (byte : Nat → UInt8) (bytes : List UInt8) : Prop :=
  ∀ i b, bytes[i]? = some b → readable i ∧ byte i = b

section Decision

variable {readable : Nat → Prop} {byte : Nat → UInt8}

theorem readsAs_cons {b : UInt8} {bytes : List UInt8} :
    ReadsAs readable byte (b :: bytes) ↔ (readable 0 ∧ byte 0 = b) ∧
      ReadsAs (fun i => readable (i + 1)) (fun i => byte (i + 1)) bytes := by
  constructor
  · intro h
    exact ⟨h 0 b rfl, fun i c hc => h (i + 1) c hc⟩
  · rintro ⟨hhead, htail⟩ i c hc
    cases i with
    | zero =>
      obtain rfl := Option.some.inj hc
      exact hhead
    | succ i => exact htail i c hc

theorem readsAs_nil : ReadsAs readable byte [] := fun _ _ hc => absurd hc (by simp)

/-- There is a first byte that cannot be read, or all can. -/
theorem exists_readable (readable : Nat → Prop) [DecidablePred readable] (k : Nat) :
    ∃ n ≤ k, (∀ i < n, readable i) ∧ (n < k → ¬ readable n) := by
  induction k with
  | zero => exact ⟨0, Nat.le_refl 0, fun i hi => absurd hi (Nat.not_lt_zero i), fun h => absurd h
      (Nat.lt_irrefl 0)⟩
  | succ k ih =>
    obtain ⟨n, hn, hall, hnot⟩ := ih
    rcases Nat.lt_or_eq_of_le hn with hlt | rfl
    · exact ⟨n, Nat.le_succ_of_le hn, hall, fun _ => hnot hlt⟩
    · by_cases hlast : readable n
      · refine ⟨n + 1, Nat.le_refl _, fun i hi => ?_, fun h => absurd h (Nat.lt_irrefl _)⟩
        rcases Nat.lt_succ_iff_lt_or_eq.mp hi with hi | rfl
        · exact hall i hi
        · exact hlast
      · exact ⟨n, Nat.le_succ n, hall, fun _ => hlast⟩

/-- **RDTSC** is found exactly if its two bytes are there. -/
theorem tscInstructionOf_rdtsc [DecidablePred readable] :
    tscInstructionOf (guestInstruction (readablePrefix readable byte)) = some .rdtsc ↔
      ReadsAs readable byte [0x0F, 0x31] := by
  obtain ⟨n, hn, hall, hnot⟩ := exists_readable readable 3
  rw [readablePrefix_eq byte hn hall hnot, readsAs_cons, readsAs_cons]
  have hcases : n = 0 ∨ n = 1 ∨ n = 2 ∨ n = 3 := by omega
  rcases hcases with rfl | rfl | rfl | rfl
  · exact iff_of_false (by simp [guestInstruction, tscInstructionOf, tscInsLenght])
      fun h => hnot (by omega) h.1.1
  · exact iff_of_false (by simp [guestInstruction, tscInstructionOf, tscInsLenght])
      fun h => hnot (by omega) h.2.1.1
  · have h0 := hall 0 (by omega)
    have h1 := hall 1 (by omega)
    simp [guestInstruction, tscInstructionOf, tscInsLenght, isRdtscInstruction,
      isRdtscpInstruction, List.range_succ, readsAs_nil, h0, h1]
  · have h0 := hall 0 (by omega)
    have h1 := hall 1 (by omega)
    simp [guestInstruction, tscInstructionOf, tscInsLenght, isRdtscInstruction,
      isRdtscpInstruction, List.range_succ, readsAs_nil, h0, h1]

/-- **RDTSCP** exactly if its three are. -/
theorem tscInstructionOf_rdtscp [DecidablePred readable] :
    tscInstructionOf (guestInstruction (readablePrefix readable byte)) = some .rdtscp ↔
      ReadsAs readable byte [0x0F, 0x01, 0xF9] := by
  obtain ⟨n, hn, hall, hnot⟩ := exists_readable readable 3
  rw [readablePrefix_eq byte hn hall hnot, readsAs_cons, readsAs_cons, readsAs_cons]
  have hcases : n = 0 ∨ n = 1 ∨ n = 2 ∨ n = 3 := by omega
  rcases hcases with rfl | rfl | rfl | rfl
  · exact iff_of_false (by simp [guestInstruction, tscInstructionOf, tscInsLenght])
      fun h => hnot (by omega) h.1.1
  · exact iff_of_false (by simp [guestInstruction, tscInstructionOf, tscInsLenght])
      fun h => hnot (by omega) h.2.1.1
  · exact iff_of_false (by simp [guestInstruction, tscInstructionOf, tscInsLenght,
      isRdtscInstruction, isRdtscpInstruction, List.range_succ]) fun h => hnot (by omega) h.2.2.1.1
  · have h0 := hall 0 (by omega)
    have h1 := hall 1 (by omega)
    have h2 := hall 2 (by omega)
    simp [guestInstruction, tscInstructionOf, tscInsLenght, isRdtscInstruction,
      isRdtscpInstruction, List.range_succ, readsAs_nil, h0, h1, h2]
    by_cases hrdtsc : byte 0 = 15 ∧ byte 1 = 49
    · rw [if_pos hrdtsc]
      exact iff_of_false (by simp) fun h => absurd (hrdtsc.2.symm.trans h.2.1) (by decide)
    · rw [if_neg hrdtsc]
      split
      next hrdtscp => exact iff_of_true rfl hrdtscp
      next hrdtscp => exact iff_of_false (by simp) hrdtscp

end Decision

section Exit

variable {env : ExitEnvironment} {vcpu : Vcpu}

/-- The decision, by the bytes. -/
theorem tscInstructionAt_fst : (tscInstructionAt env vcpu).1
    = if mmuIsUserModeAddress vcpu.registers.rip = true then
        tscInstructionOf (vmReadGuestInstruction env.machine vcpu.mmu vcpu.vmcs.guestCr3
          vcpu.registers.rip).1
      else none := by
  unfold tscInstructionAt tscInstructionOf
  cases hfetch : vmReadGuestInstruction env.machine vcpu.mmu vcpu.vmcs.guestCr3
    vcpu.registers.rip with
  | mk opcode mmu =>
    cases mmuIsUserModeAddress vcpu.registers.rip with
    | false => rfl
    | true =>
      rw [if_neg Bool.noConfusion, if_pos rfl]
      cases opcode with
      | none => rfl
      | some opcode =>
        dsimp only
        split
        next => rfl
        next =>
          split
          next => rfl
          next => rfl

/-- **Exactly the time-stamp instructions** are emulated. -/
theorem exactlyTimeStamps_fetch (others : OtherHandlers) (env : ExitEnvironment) {vcpu : Vcpu}
    (h : hwExceptionUdOrGp vcpu.vmcs.exitInterruptionInformation = true) :
    ExactlyTimeStamps fetchAddress others env vcpu := by
  have hexit : dsHvmExitHandler others env exitReasonException vcpu
      = dsHvmExceptionHandler env vcpu.vmcs.exitInterruptionInformation vcpu :=
    if_pos h
  have hdecision := @tscInstructionAt_fst env vcpu
  rw [vmReadGuestInstruction_eq] at hdecision
  constructor
  case rdtsc =>
    rw [hdecision]
    by_cases huser : mmuIsUserModeAddress vcpu.registers.rip = true
    · rw [if_pos huser, tscInstructionOf_rdtsc, and_iff_right huser]
      rfl
    · rw [if_neg huser]
      exact iff_of_false (by simp) fun h => huser h.1
  case rdtscp =>
    rw [hdecision]
    by_cases huser : mmuIsUserModeAddress vcpu.registers.rip = true
    · rw [if_pos huser, tscInstructionOf_rdtscp, and_iff_right huser]
      rfl
    · rw [if_neg huser]
      exact iff_of_false (by simp) fun h => huser h.1
  case emulated =>
    intro instruction hinstruction
    rw [hexit, dsHvmExceptionHandler,
      show tscInstructionAt env vcpu = (some instruction, (tscInstructionAt env vcpu).2) from
        Prod.ext hinstruction rfl]
    cases instruction with
    | rdtsc => rfl
    | rdtscp => rfl
  case reinjected =>
    intro hnone
    refine ⟨_, ?_, rfl, rfl⟩
    rw [hexit, dsHvmExceptionHandler,
      show tscInstructionAt env vcpu = (none, (tscInstructionAt env vcpu).2) from
        Prod.ext hnone rfl]

/-- A page in frame 0, with RDTSC at 0x10; the tables are in the frames 1, 3, 4 and 5. -/
def frameZero : Mem := fun a =>
  match a / 4096, a % 8 with
  | 1, 0 | 3, 0 | 4, 0 | 5, 0 => 0x07
  | 1, 1 => 0x30
  | 3, 1 => 0x40
  | 4, 1 => 0x50
  | 0, 0 => 0x0F
  | 0, 1 => 0x31
  | _, _ => 0

/-- The machine with these. -/
def frameZeroEnvironment : ExitEnvironment :=
  { rdtscEnvironment with machine := ⟨frameZero, 0x2000, fun _ => 0⟩ }

/-- #GP in the middle of that page. -/
def frameZeroExit : Vcpu :=
  { rdtscExit 2 with registers := { (rdtscExit 2).registers with rip := 0x9010 } }

/-- RDTSC is emulated where `MmuGetPhysicalAddress` has nothing for the page. -/
theorem not_exactlyTimeStamps_frameZero :
    hwExceptionUdOrGp frameZeroExit.vmcs.exitInterruptionInformation = true ∧
      ¬ ExactlyTimeStamps pageAddress deepShieldHandlers frameZeroEnvironment frameZeroExit := by
  refine ⟨by decide, fun h => ?_⟩
  have hdecision : (tscInstructionAt frameZeroEnvironment frameZeroExit).1 = some .rdtsc := by
    decide +kernel
  obtain ⟨⟨hpage, -⟩, -⟩ := (h.rdtsc.mp hdecision).2 0 0x0F rfl
  exact hpage (by decide +kernel)

/-- An RDTSC at the beginning of a page. -/
theorem exactlyTimeStamps_gp :
    ExactlyTimeStamps fetchAddress deepShieldHandlers rdtscEnvironment (rdtscExit 2) :=
  exactlyTimeStamps_fetch deepShieldHandlers rdtscEnvironment (by decide)

end Exit

end DeepShield.Vmx
