import DeepShield.Vmx.Completion

/-!
# MSR accesses of the guest

The guest chooses the index and the value of an RDMSR or WRMSR freely, and root mode makes
the access for it. On the processor itself an operand that it does not accept raises #GP,
and that is what the guest should see: the access is not made, #GP(0) is queued, and RIP
and the registers stay (`MsrContract`). `InstrXsetbvEmulate` does so for XSETBV.

The handlers of RDMSR and WRMSR check nothing. `msrContract_iff`: they keep the contract
exactly for the operands that the processor accepts. An index or a value that it refuses
is an exception in root mode, and an address that is not canonical goes into
GUEST_FS_BASE, where the next entry fails on it.
-/

namespace DeepShield.Vmx

/-! ## The processor -/

/-- An address of 48 bits, extended with its sign. -/
def Canonical (address : UInt64) : Prop :=
  address.toNat < 2 ^ 47 ∨ 2 ^ 64 - 2 ^ 47 ≤ address.toNat

instance (address : UInt64) : Decidable (Canonical address) :=
  inferInstanceAs (Decidable (_ ∨ _))

/-- RDMSR of this index does not fault; `IA32_FS_BASE` can be read. -/
def ReadAccepted (env : ExitEnvironment) (index : UInt32) : Prop :=
  index = ia32FsBase ∨ env.rdmsr index ≠ none

/-- WRMSR of this value does not fault; `IA32_FS_BASE` takes canonical addresses. -/
def WriteAccepted (env : ExitEnvironment) (index : UInt32) (value : UInt64) : Prop :=
  if index = ia32FsBase then Canonical value else env.wrmsr index value = true

instance (env : ExitEnvironment) (index : UInt32) (value : UInt64) :
    Decidable (WriteAccepted env index value) :=
  inferInstanceAs
    (Decidable (if index = ia32FsBase then Canonical value else env.wrmsr index value = true))

/-- An exit by RDMSR or WRMSR. -/
inductive MsrExit
  | read
  | write
deriving Repr, DecidableEq

/-- Its reason. -/
def MsrExit.reason : MsrExit → UInt32
  | read => exitReasonMsrRead
  | write => exitReasonMsrWrite

/-- The processor accepts the operand in the registers. -/
def MsrExit.Accepted (env : ExitEnvironment) (registers : GpRegisters) : MsrExit → Prop
  | read => ReadAccepted env (ecx registers)
  | write => WriteAccepted env (ecx registers) (edxEax registers)

/-! ## The contract -/

/-- #GP(0) is queued for the guest. -/
def GpQueued (vcpu : Vcpu) : Prop :=
  vcpu.vmcs.vmEntryInterruptionInformation
      = (vmInjectGpException 0 vcpu).vmcs.vmEntryInterruptionInformation ∧
    vcpu.vmcs.vmEntryExceptionErrorCode = 0

/-- Root mode makes only accesses that the processor accepts, stores only canonical
addresses into GUEST_FS_BASE, and gives the guest #GP(0) for every other operand. -/
structure MsrContract (env : ExitEnvironment) (exit : MsrExit) (vcpu : Vcpu) : Prop where
  onlyAccepted : dsHvmExitHandler deepShieldHandlers env exit.reason vcpu ≠ .error .rootException
  canonical : ∀ vcpu', dsHvmExitHandler deepShieldHandlers env exit.reason vcpu = .ok vcpu' →
    vcpu'.vmcs.guestFsBase = vcpu.vmcs.guestFsBase ∨ Canonical vcpu'.vmcs.guestFsBase
  refused : ¬ exit.Accepted env vcpu.registers →
    ∃ vcpu', dsHvmExitHandler deepShieldHandlers env exit.reason vcpu = .ok vcpu' ∧
      GpQueued vcpu' ∧ vcpu'.registers = vcpu.registers

/-! ## What the handlers do -/

section Handlers

variable {env : ExitEnvironment} {vcpu vcpu' : Vcpu}

theorem hvmMsrHandlerRegistered_iff {registers : GpRegisters} :
    hvmMsrHandlerRegistered registers = true ↔ ecx registers = ia32FsBase :=
  beq_iff_eq

@[simp] theorem instrRipAdvance_guestFsBase :
    (instrRipAdvance vcpu).vmcs.guestFsBase = vcpu.vmcs.guestFsBase := by
  unfold instrRipAdvance
  dsimp only
  split
  next => rfl
  next => rfl

/-- An exit that ends with an advance has not left the registers as they were. -/
theorem instrRipAdvance_registers {moved : Vcpu}
    (hlength : vcpu.vmcs.exitInstructionLength ≠ 0)
    (hrip : moved.registers.rip = vcpu.registers.rip)
    (hkept : moved.vmcs.exitInstructionLength = vcpu.vmcs.exitInstructionLength) :
    (instrRipAdvance moved).registers ≠ vcpu.registers := by
  intro heq
  have hsame : (instrRipAdvance moved).registers.rip = vcpu.registers.rip := by rw [heq]
  rw [instrRipAdvance_rip, hrip, hkept] at hsame
  exact add_length_ne hlength hsame

/-- An access that is made and advances keeps the contract if the operand is accepted,
and if what it leaves in GUEST_FS_BASE is. -/
theorem msrContract_of_advance {exit : MsrExit} {moved : Vcpu}
    (hrun : dsHvmExitHandler deepShieldHandlers env exit.reason vcpu
      = .ok (instrRipAdvance moved))
    (haccepted : exit.Accepted env vcpu.registers)
    (hfsBase : moved.vmcs.guestFsBase = vcpu.vmcs.guestFsBase ∨
      Canonical moved.vmcs.guestFsBase) : MsrContract env exit vcpu where
  onlyAccepted herror := by
    rw [hrun] at herror
    exact absurd herror (by simp)
  canonical vcpu' hok := by
    obtain rfl := Except.ok.inj (hrun.symm.trans hok)
    rw [instrRipAdvance_guestFsBase]
    exact hfsBase
  refused hrefused := absurd haccepted hrefused

/-- An access that is made and advances breaks it if the operand is refused. -/
theorem not_msrContract_of_advance {exit : MsrExit} {moved : Vcpu}
    (hrun : dsHvmExitHandler deepShieldHandlers env exit.reason vcpu
      = .ok (instrRipAdvance moved))
    (hrefused : ¬ exit.Accepted env vcpu.registers)
    (hlength : vcpu.vmcs.exitInstructionLength ≠ 0)
    (hrip : moved.registers.rip = vcpu.registers.rip)
    (hkept : moved.vmcs.exitInstructionLength = vcpu.vmcs.exitInstructionLength) :
    ¬ MsrContract env exit vcpu := by
  intro hcontract
  obtain ⟨vcpu', hok, _, hregisters⟩ := hcontract.refused hrefused
  obtain rfl := Except.ok.inj (hrun.symm.trans hok)
  exact instrRipAdvance_registers hlength hrip hkept hregisters

/-- RDMSR. -/
theorem msrContract_read :
    MsrContract env .read vcpu ↔ ReadAccepted env (ecx vcpu.registers) := by
  have hrun : dsHvmExitHandler deepShieldHandlers env MsrExit.read.reason vcpu
      = if hvmMsrHandlerRegistered vcpu.registers then
          .ok (instrRipAdvance (hvmHandleMsrReadFsBase vcpu))
        else (instrMsrReadEmulate env vcpu).map instrRipAdvance := rfl
  cases hregistered : hvmMsrHandlerRegistered vcpu.registers with
  | true =>
    have haccepted : ReadAccepted env (ecx vcpu.registers) :=
      Or.inl (hvmMsrHandlerRegistered_iff.mp hregistered)
    rw [hregistered, if_pos rfl] at hrun
    exact iff_of_true (msrContract_of_advance hrun haccepted (Or.inl rfl)) haccepted
  | false =>
    have hother : ecx vcpu.registers ≠ ia32FsBase := by
      intro heq
      rw [hvmMsrHandlerRegistered_iff.mpr heq] at hregistered
      exact Bool.noConfusion hregistered
    rw [hregistered, if_neg Bool.false_ne_true] at hrun
    unfold instrMsrReadEmulate at hrun
    cases hread : env.rdmsr (ecx vcpu.registers) with
    | some value =>
      have haccepted : ReadAccepted env (ecx vcpu.registers) :=
        Or.inr (by rw [hread]; exact Option.some_ne_none _)
      rw [hread] at hrun
      exact iff_of_true (msrContract_of_advance hrun haccepted (Or.inl rfl)) haccepted
    | none =>
      rw [hread] at hrun
      refine iff_of_false (fun hcontract => hcontract.onlyAccepted hrun) fun haccepted => ?_
      rcases haccepted with heq | hsome
      · exact hother heq
      · exact hsome hread

/-- WRMSR. -/
theorem msrContract_write (h : EmulatedExit exitReasonMsrWrite vcpu) :
    MsrContract env .write vcpu ↔
      WriteAccepted env (ecx vcpu.registers) (edxEax vcpu.registers) := by
  have hrun : dsHvmExitHandler deepShieldHandlers env MsrExit.write.reason vcpu
      = if hvmMsrHandlerRegistered vcpu.registers then
          .ok (instrRipAdvance (hvmHandleMsrWriteFsBase env vcpu))
        else (instrMsrWriteEmulate env vcpu).map instrRipAdvance := rfl
  cases hregistered : hvmMsrHandlerRegistered vcpu.registers with
  | true =>
    have hfsBase := hvmMsrHandlerRegistered_iff.mp hregistered
    have hiff : WriteAccepted env (ecx vcpu.registers) (edxEax vcpu.registers) ↔
        Canonical (edxEax vcpu.registers) := by
      unfold WriteAccepted
      rw [if_pos hfsBase]
    rw [hregistered, if_pos rfl] at hrun
    by_cases hcanonical : Canonical (edxEax vcpu.registers)
    · exact iff_of_true (msrContract_of_advance hrun (hiff.mpr hcanonical) (Or.inr hcanonical))
        (hiff.mpr hcanonical)
    · have hrefused := fun haccepted => hcanonical (hiff.mp haccepted)
      exact iff_of_false
        (not_msrContract_of_advance hrun hrefused (h.length (by decide)) rfl rfl) hrefused
  | false =>
    have hother : ecx vcpu.registers ≠ ia32FsBase := by
      intro heq
      rw [hvmMsrHandlerRegistered_iff.mpr heq] at hregistered
      exact Bool.noConfusion hregistered
    have hiff : WriteAccepted env (ecx vcpu.registers) (edxEax vcpu.registers) ↔
        env.wrmsr (ecx vcpu.registers) (edxEax vcpu.registers) = true := by
      unfold WriteAccepted
      rw [if_neg hother]
    rw [hregistered, if_neg Bool.false_ne_true] at hrun
    unfold instrMsrWriteEmulate at hrun
    by_cases haccepted : env.wrmsr (ecx vcpu.registers) (edxEax vcpu.registers) = true
    · rw [if_pos haccepted] at hrun
      exact iff_of_true (msrContract_of_advance hrun (hiff.mpr haccepted) (Or.inl rfl))
        (hiff.mpr haccepted)
    · rw [if_neg haccepted] at hrun
      exact iff_of_false (fun hcontract => hcontract.onlyAccepted hrun)
        fun hyes => haccepted (hiff.mp hyes)

end Handlers

/-! ## Every exit -/

/-- **The contract is kept** exactly for the operands that the processor accepts. -/
theorem msrContract_iff (env : ExitEnvironment) (exit : MsrExit) {vcpu : Vcpu}
    (h : EmulatedExit exit.reason vcpu) :
    MsrContract env exit vcpu ↔ exit.Accepted env vcpu.registers := by
  cases exit with
  | read => exact msrContract_read
  | write => exact msrContract_write h

/-- A canonical FS base is accepted. -/
theorem msrContract_fsBase :
    MsrContract bareEnvironment .write
      (userExitOf exitReasonMsrWrite 2 0x7FFE0000 ia32FsBase.toUInt64) :=
  (msrContract_iff bareEnvironment .write
    ⟨Or.inr (Or.inl (by decide)), by decide, fun _ => by decide⟩).mpr
    (show WriteAccepted _ _ _ from by decide)

/-- RDMSR of an index that the processor does not have. -/
theorem not_msrContract_unknownIndex :
    EmulatedExit exitReasonMsrRead (userExitOf exitReasonMsrRead 2 0 0x12345678) ∧
      ¬ MsrContract bareEnvironment .read (userExitOf exitReasonMsrRead 2 0 0x12345678) := by
  refine ⟨⟨Or.inr (Or.inl (by decide)), by decide, fun _ => by decide⟩, fun hcontract => ?_⟩
  have hrun : dsHvmExitHandler deepShieldHandlers bareEnvironment exitReasonMsrRead
      (userExitOf exitReasonMsrRead 2 0 0x12345678) = .error .rootException := rfl
  exact hcontract.onlyAccepted hrun

end DeepShield.Vmx
