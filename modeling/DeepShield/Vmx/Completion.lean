import DeepShield.Vmx.Handlers
import DeepShield.Vmx.UserExits
import Mathlib.Logic.Basic

/-!
# Emulated exits complete or fault

An exit that is emulated should end in one of two ways: RIP has advanced past the
instruction, or it has not moved and an exception is queued for the guest.
Advancing is left to each handler, so this is a matter of every branch.

`completesOrFaults_iff` goes through them. Four do neither: the signature leaves
of CPUID return before the advance they share with the other leaves; an MSR
access or an XSETBV that the processor refuses in root mode does not return; and
an exception emulated as RDTSC or RDTSCP may overrun the report's buffer, or
advance by a length field that the processor left zero.
-/

namespace DeepShield.Vmx

open DeepShield.Mmu DeepShield.Td

/-- Moves to or from CR3 or CR4. -/
def MovesCr3OrCr4 (qualification : UInt64) : Prop :=
  (lookupCr qualification = .cr3 ∨ lookupCr qualification = .cr4) ∧
    (accessType qualification = .movToCr ∨ accessType qualification = .movFromCr)

/-- An exit by CPUID, INVD, XSETBV, an MSR access, a VMX instruction, a move to or
from CR3 or CR4, or an intercepted #UD or #GP, as the processor leaves it: no
event is pending, and the length of an instruction that exits is known. -/
structure EmulatedExit (exitReason : UInt32) (vcpu : Vcpu) : Prop where
  cause : exitReason = exitReasonCpuid ∨ exitReason ∈ commonExitReasons ∨
    (exitReason = exitReasonCrAccess ∧ MovesCr3OrCr4 vcpu.vmcs.exitQualification) ∨
    (exitReason = exitReasonException ∧
      hwExceptionUdOrGp vcpu.vmcs.exitInterruptionInformation = true)
  noEvent : vcpu.vmcs.vmEntryInterruptionInformation &&& vmxIntInfoValid = 0
  length : exitReason ≠ exitReasonException → vcpu.vmcs.exitInstructionLength ≠ 0

/-- RIP has advanced once by the length of the instruction. -/
def Advanced (vcpu vcpu' : Vcpu) : Prop :=
  vcpu.vmcs.exitInstructionLength ≠ 0 ∧
    vcpu'.registers.rip = vcpu.registers.rip + vcpu.vmcs.exitInstructionLength.toUInt64

/-- RIP is where it was, and an exception is queued, whichever it is. The single-step trap
that advancing by nothing leaves counts here; `FaultInjected`, which is about user code
that is resumed, does not count it. -/
def Faulted (vcpu vcpu' : Vcpu) : Prop :=
  vcpu'.registers.rip = vcpu.registers.rip ∧
    vcpu'.vmcs.vmEntryInterruptionInformation &&& vmxIntInfoValid ≠ 0 ∧
    interruptTypeOf vcpu'.vmcs.vmEntryInterruptionInformation = interruptHardwareException

/-- The handler returns, with exactly one of the two. -/
def CompletesOrFaults (env : ExitEnvironment) (exitReason : UInt32) (vcpu : Vcpu) : Prop :=
  ∃ vcpu', dsHvmExitHandler deepShieldHandlers env exitReason vcpu = .ok vcpu' ∧
    Xor (Advanced vcpu vcpu') (Faulted vcpu vcpu')

/-- A CPUID asks for a leaf other than the signature leaves; an MSR access other
than that of FS_BASE and an XSETBV that passes the checks are accepted by the
processor; and an exception that is emulated comes with an event that fits, and
with a length or a single step. -/
structure Completable (env : ExitEnvironment) (exitReason : UInt32) (vcpu : Vcpu) : Prop where
  cpuid : exitReason = exitReasonCpuid →
    vcpu.registers.rax.toUInt32 ≠ cpuidVmmVendorSignature ∧
      vcpu.registers.rax.toUInt32 ≠ cpuidVmmInterfaceSignature
  xsetbv : exitReason = exitReasonXsetbv → xsetbvFault vcpu = none →
    env.xsetbv (ecx vcpu.registers) (xcr0Value vcpu.registers) = true
  msrRead : exitReason = exitReasonMsrRead → hvmMsrHandlerRegistered vcpu.registers = false →
    env.rdmsr (ecx vcpu.registers) ≠ none
  msrWrite : exitReason = exitReasonMsrWrite → hvmMsrHandlerRegistered vcpu.registers = false →
    env.wrmsr (ecx vcpu.registers) (edxEax vcpu.registers) = true
  exception : exitReason = exitReasonException → (tscInstructionAt env vcpu).1 ≠ none →
    EventFits env vcpu ∧
      (vcpu.vmcs.exitInstructionLength ≠ 0 ∨ isSingleStep vcpu.registers = true)

/-! ## The two ends -/

section Ends

variable {vcpu vcpu' : Vcpu}

/-- A length that is not zero moves RIP. -/
theorem add_length_ne {rip : UInt64} {length : UInt32} (h : length ≠ 0) :
    rip + length.toUInt64 ≠ rip := by
  intro heq
  have hzero : rip + length.toUInt64 = rip + (0 : UInt32).toUInt64 :=
    heq.trans (UInt64.add_zero rip).symm
  exact h (add_length_inj.mp hzero)

/-- An advance is no fault. -/
theorem Advanced.not_faulted (h : Advanced vcpu vcpu') : ¬ Faulted vcpu vcpu' := by
  intro hfault
  exact add_length_ne h.1 (h.2.symm.trans hfault.1)

/-- Advancing once, from where the exit was. -/
theorem xor_of_advance {moved : Vcpu} (hlength : vcpu.vmcs.exitInstructionLength ≠ 0)
    (hrip : moved.registers.rip = vcpu.registers.rip)
    (hkept : moved.vmcs.exitInstructionLength = vcpu.vmcs.exitInstructionLength) :
    Xor (Advanced vcpu (instrRipAdvance moved)) (Faulted vcpu (instrRipAdvance moved)) := by
  have hadvanced : Advanced vcpu (instrRipAdvance moved) := by
    refine ⟨hlength, ?_⟩
    rw [instrRipAdvance_rip, hrip, hkept]
  exact Or.inl ⟨hadvanced, hadvanced.not_faulted⟩

/-- A fault is no advance. -/
theorem xor_of_fault (h : Faulted vcpu vcpu') :
    Xor (Advanced vcpu vcpu') (Faulted vcpu vcpu') :=
  Or.inr ⟨h, fun hadvanced => hadvanced.not_faulted h⟩

/-- Nothing moved and nothing queued is neither. -/
theorem not_xor_of_stuck (hrip : vcpu'.registers.rip = vcpu.registers.rip)
    (hevent : vcpu'.vmcs.vmEntryInterruptionInformation &&& vmxIntInfoValid = 0) :
    ¬ Xor (Advanced vcpu vcpu') (Faulted vcpu vcpu') := by
  intro hxor
  rcases hxor with ⟨hadvanced, _⟩ | ⟨hfault, _⟩
  · exact add_length_ne hadvanced.1 (hadvanced.2.symm.trans hrip)
  · exact hfault.2.1 hevent

/-- An exception that is queued. -/
theorem faulted_of_information {info : UInt32} (hrip : vcpu'.registers.rip = vcpu.registers.rip)
    (hinfo : vcpu'.vmcs.vmEntryInterruptionInformation = info)
    (hqueued : info &&& vmxIntInfoValid ≠ 0 ∧
      interruptTypeOf info = interruptHardwareException) : Faulted vcpu vcpu' := by
  refine ⟨hrip, ?_⟩
  rw [hinfo]
  exact hqueued

/-- An injected #UD or #GP is. -/
theorem injectFault_faulted (fault : InjectedFault) : Faulted vcpu (injectFault vcpu fault) := by
  cases fault with
  | ud => exact @faulted_of_information vcpu _ 0x80000306 rfl rfl (by decide)
  | gp => exact @faulted_of_information vcpu _ 0x80000B0D rfl rfl (by decide)

/-- So is a #UD or #GP that is reflected. -/
theorem reflected_faulted {info : UInt32} (hinfo : hwExceptionUdOrGp info = true)
    (mmu : MmuPerCpu) :
    Faulted vcpu (vmInjectHardwareException info { vcpu with mmu := mmu }) := by
  refine @faulted_of_information vcpu _
    (vmxIntInfoValid ||| (exceptionType (vectorOf info) <<< 8) ||| vectorOf info) rfl rfl ?_
  simp only [hwExceptionUdOrGp, Bool.and_eq_true, Bool.or_eq_true, beq_iff_eq] at hinfo
  rcases hinfo.2 with hud | hgp
  · rw [hud]
    decide
  · rw [hgp]
    decide

end Ends

/-! ## The handlers one by one -/

section Handlers

variable {env : ExitEnvironment} {exitReason : UInt32} {vcpu : Vcpu}

/-- A handler that returns what it is known to return. -/
theorem completesOrFaults_of_ok {vcpu' : Vcpu}
    (h : dsHvmExitHandler deepShieldHandlers env exitReason vcpu = .ok vcpu') :
    CompletesOrFaults env exitReason vcpu ↔ Xor (Advanced vcpu vcpu') (Faulted vcpu vcpu') := by
  unfold CompletesOrFaults
  rw [h]
  constructor
  · intro ⟨v, heq, hxor⟩
    obtain rfl := Except.ok.inj heq
    exact hxor
  · intro hxor
    exact ⟨vcpu', rfl, hxor⟩

/-- A handler that does not return. -/
theorem not_completesOrFaults_of_error {halt : Halt}
    (h : dsHvmExitHandler deepShieldHandlers env exitReason vcpu = .error halt) :
    ¬ CompletesOrFaults env exitReason vcpu := by
  intro ⟨v, heq, _⟩
  rw [h] at heq
  exact absurd heq (by simp)

/-- The switch gives the common exits to their handler. -/
theorem dsHvmExitHandler_common (h : exitReason ∈ commonExitReasons) :
    dsHvmExitHandler deepShieldHandlers env exitReason vcpu
      = hvmVcpuCommonExitsHandler env exitReason vcpu := if_pos h

/-- CPUID. -/
theorem completes_cpuid (h : EmulatedExit exitReasonCpuid vcpu) :
    CompletesOrFaults env exitReasonCpuid vcpu ↔
      vcpu.registers.rax.toUInt32 ≠ cpuidVmmVendorSignature ∧
        vcpu.registers.rax.toUInt32 ≠ cpuidVmmInterfaceSignature := by
  have hrun : dsHvmExitHandler deepShieldHandlers env exitReasonCpuid vcpu
      = .ok (cpuidEmulate env vcpu) := rfl
  rw [completesOrFaults_of_ok hrun]
  unfold cpuidEmulate cpuidEmulateBuilt
  by_cases hvendor : vcpu.registers.rax.toUInt32 = cpuidVmmVendorSignature
  · simp only [if_pos hvendor]
    exact iff_of_false (not_xor_of_stuck rfl h.noEvent) (fun hk => hk.1 hvendor)
  · by_cases hinterface : vcpu.registers.rax.toUInt32 = cpuidVmmInterfaceSignature
    · simp only [if_neg hvendor, if_pos hinterface]
      exact iff_of_false (not_xor_of_stuck rfl h.noEvent) (fun hk => hk.2 hinterface)
    · simp only [if_neg hvendor, if_neg hinterface]
      refine iff_of_true (xor_of_advance (h.length (by decide)) ?_ rfl) ⟨hvendor, hinterface⟩
      rw [cpuidMask_eq]
      rfl

/-- INVD. -/
theorem completes_invd (h : EmulatedExit exitReasonInvd vcpu) :
    CompletesOrFaults env exitReasonInvd vcpu := by
  have hrun : dsHvmExitHandler deepShieldHandlers env exitReasonInvd vcpu
      = .ok (instrRipAdvance vcpu) := rfl
  rw [completesOrFaults_of_ok hrun]
  exact xor_of_advance (h.length (by decide)) rfl rfl

/-- XSETBV: a fault, or a write that the processor accepts. -/
theorem completes_xsetbv (h : EmulatedExit exitReasonXsetbv vcpu) :
    CompletesOrFaults env exitReasonXsetbv vcpu ↔ (xsetbvFault vcpu = none →
      env.xsetbv (ecx vcpu.registers) (xcr0Value vcpu.registers) = true) := by
  have hrun : dsHvmExitHandler deepShieldHandlers env exitReasonXsetbv vcpu
      = instrXsetbvEmulate env vcpu := rfl
  unfold instrXsetbvEmulate at hrun
  cases hfault : xsetbvFault vcpu with
  | some fault =>
    rw [hfault] at hrun
    rw [completesOrFaults_of_ok hrun]
    exact iff_of_true (xor_of_fault (injectFault_faulted fault)) (fun hk => absurd hk (by simp))
  | none =>
    rw [hfault] at hrun
    by_cases haccepted : env.xsetbv (ecx vcpu.registers) (xcr0Value vcpu.registers) = true
    · simp only [if_pos haccepted] at hrun
      rw [completesOrFaults_of_ok hrun]
      exact iff_of_true (xor_of_advance (h.length (by decide)) rfl rfl) (fun _ => haccepted)
    · simp only [if_neg haccepted] at hrun
      exact iff_of_false (not_completesOrFaults_of_error hrun) (fun hk => haccepted (hk rfl))

/-- The VMX instructions. -/
theorem completes_vmxInstruction (h : exitReason ∈ vmxInstructionExits) :
    CompletesOrFaults env exitReason vcpu := by
  have hcommon : exitReason ∈ commonExitReasons := by
    revert h
    simp only [vmxInstructionExits, commonExitReasons, List.mem_cons, List.not_mem_nil]
    tauto
  have hnot : exitReason ≠ exitReasonInvd ∧ exitReason ≠ exitReasonXsetbv := by
    constructor
    · intro heq
      rw [heq] at h
      exact absurd h (by decide)
    · intro heq
      rw [heq] at h
      exact absurd h (by decide)
  have hrun : dsHvmExitHandler deepShieldHandlers env exitReason vcpu
      = .ok (refuseVmxInstruction vcpu) := by
    rw [dsHvmExitHandler_common hcommon]
    unfold hvmVcpuCommonExitsHandler
    rw [if_neg hnot.1, if_neg hnot.2, if_pos h]
  rw [completesOrFaults_of_ok hrun]
  exact xor_of_fault (@faulted_of_information vcpu _ 0x80000306 rfl rfl (by decide))

/-- RDMSR. -/
theorem completes_msrRead (h : EmulatedExit exitReasonMsrRead vcpu) :
    CompletesOrFaults env exitReasonMsrRead vcpu ↔
      (hvmMsrHandlerRegistered vcpu.registers = false →
        env.rdmsr (ecx vcpu.registers) ≠ none) := by
  have hrun : dsHvmExitHandler deepShieldHandlers env exitReasonMsrRead vcpu
      = if hvmMsrHandlerRegistered vcpu.registers then
          .ok (instrRipAdvance (hvmHandleMsrReadFsBase vcpu))
        else (instrMsrReadEmulate env vcpu).map instrRipAdvance := rfl
  have hlength := h.length (by decide)
  cases hregistered : hvmMsrHandlerRegistered vcpu.registers with
  | true =>
    rw [hregistered, if_pos rfl] at hrun
    rw [completesOrFaults_of_ok hrun]
    exact iff_of_true (xor_of_advance hlength rfl rfl) (fun hk => absurd hk (by decide))
  | false =>
    rw [hregistered, if_neg (by decide)] at hrun
    unfold instrMsrReadEmulate at hrun
    cases hread : env.rdmsr (ecx vcpu.registers) with
    | some value =>
      rw [hread] at hrun
      rw [completesOrFaults_of_ok hrun]
      exact iff_of_true (xor_of_advance hlength rfl rfl) (fun _ => Option.some_ne_none _)
    | none =>
      rw [hread] at hrun
      exact iff_of_false (not_completesOrFaults_of_error hrun) (fun hk => hk rfl rfl)

/-- WRMSR. -/
theorem completes_msrWrite (h : EmulatedExit exitReasonMsrWrite vcpu) :
    CompletesOrFaults env exitReasonMsrWrite vcpu ↔
      (hvmMsrHandlerRegistered vcpu.registers = false →
        env.wrmsr (ecx vcpu.registers) (edxEax vcpu.registers) = true) := by
  have hrun : dsHvmExitHandler deepShieldHandlers env exitReasonMsrWrite vcpu
      = if hvmMsrHandlerRegistered vcpu.registers then
          .ok (instrRipAdvance (hvmHandleMsrWriteFsBase env vcpu))
        else (instrMsrWriteEmulate env vcpu).map instrRipAdvance := rfl
  have hlength := h.length (by decide)
  cases hregistered : hvmMsrHandlerRegistered vcpu.registers with
  | true =>
    rw [hregistered, if_pos rfl] at hrun
    rw [completesOrFaults_of_ok hrun]
    exact iff_of_true (xor_of_advance hlength rfl rfl) (fun hk => absurd hk (by decide))
  | false =>
    rw [hregistered, if_neg (by decide)] at hrun
    unfold instrMsrWriteEmulate at hrun
    by_cases haccepted : env.wrmsr (ecx vcpu.registers) (edxEax vcpu.registers) = true
    · rw [if_pos haccepted] at hrun
      rw [completesOrFaults_of_ok hrun]
      exact iff_of_true (xor_of_advance hlength rfl rfl) (fun _ => haccepted)
    · rw [if_neg haccepted] at hrun
      exact iff_of_false (not_completesOrFaults_of_error hrun) (fun hk => haccepted (hk rfl))

/-- No register a move can name is RIP. -/
theorem assignGpr_rip (registers : GpRegisters) (gpr : Nat) (value : UInt64) :
    (assignGpr registers gpr value).rip = registers.rip := by
  unfold assignGpr
  split <;> rfl

/-- What a move to or from a control register leaves of RIP and the length. -/
theorem instrCr_frame (env : ExitEnvironment) (qualification : UInt64) (vcpu : Vcpu) :
    ((instrCr4Emulate env qualification vcpu).registers.rip = vcpu.registers.rip ∧
      (instrCr4Emulate env qualification vcpu).vmcs.exitInstructionLength
        = vcpu.vmcs.exitInstructionLength) ∧
    ((instrCr3Emulate qualification vcpu).registers.rip = vcpu.registers.rip ∧
      (instrCr3Emulate qualification vcpu).vmcs.exitInstructionLength
        = vcpu.vmcs.exitInstructionLength) := by
  unfold instrCr4Emulate instrCr3Emulate
  cases accessType qualification with
  | movToCr => exact ⟨⟨rfl, rfl⟩, rfl, rfl⟩
  | movFromCr => exact ⟨⟨assignGpr_rip _ _ _, rfl⟩, assignGpr_rip _ _ _, rfl⟩
  | clts => exact ⟨⟨rfl, rfl⟩, rfl, rfl⟩
  | lmsw => exact ⟨⟨rfl, rfl⟩, rfl, rfl⟩

/-- MOV CR. -/
theorem completes_crAccess (h : EmulatedExit exitReasonCrAccess vcpu) :
    CompletesOrFaults env exitReasonCrAccess vcpu := by
  have hrun : dsHvmExitHandler deepShieldHandlers env exitReasonCrAccess vcpu
      = crAccessHandler env vcpu := rfl
  obtain ⟨⟨hrip4, hlength4⟩, hrip3, hlength3⟩ :=
    instrCr_frame env vcpu.vmcs.exitQualification vcpu
  have hlength := h.length (by decide)
  unfold crAccessHandler at hrun
  rw [completesOrFaults_of_ok hrun]
  cases lookupCr vcpu.vmcs.exitQualification with
  | cr4 => exact xor_of_advance hlength hrip4 hlength4
  | cr3 => exact xor_of_advance hlength hrip3 hlength3
  | cr0 => exact xor_of_advance hlength rfl rfl
  | cr8 => exact xor_of_advance hlength rfl rfl
  | unsupported => exact xor_of_advance hlength rfl rfl

/-- The single-step trap, or what was queued before. -/
theorem instrRipAdvance_information (vcpu : Vcpu) :
    (instrRipAdvance vcpu).vmcs.vmEntryInterruptionInformation
      = if isSingleStep vcpu.registers then 0x80000301
        else vcpu.vmcs.vmEntryInterruptionInformation := by
  show (if isSingleStep vcpu.registers then _ else _ : Vcpu).vmcs.vmEntryInterruptionInformation = _
  split
  next => rfl
  next => rfl

/-- Advancing by nothing is a fault if the guest is single-stepped, and else
neither end. -/
theorem xor_of_zero_length {moved : Vcpu} (hzero : vcpu.vmcs.exitInstructionLength = 0)
    (hevent : vcpu.vmcs.vmEntryInterruptionInformation &&& vmxIntInfoValid = 0)
    (hrip : moved.registers.rip = vcpu.registers.rip)
    (hflags : moved.registers.rflags = vcpu.registers.rflags)
    (hvmcs : ∃ cr4, moved.vmcs = { vcpu.vmcs with cr4 := cr4 }) :
    Xor (Advanced vcpu (instrRipAdvance moved)) (Faulted vcpu (instrRipAdvance moved)) ↔
      isSingleStep vcpu.registers = true := by
  obtain ⟨cr4, hvmcs⟩ := hvmcs
  have hmoved : (instrRipAdvance moved).registers.rip = vcpu.registers.rip := by
    rw [instrRipAdvance_rip, hrip, hvmcs]
    show vcpu.registers.rip + vcpu.vmcs.exitInstructionLength.toUInt64 = _
    rw [hzero]
    exact UInt64.add_zero _
  have hstep : isSingleStep moved.registers = isSingleStep vcpu.registers := by
    unfold isSingleStep
    rw [hflags]
  by_cases hsingle : isSingleStep vcpu.registers = true
  · refine iff_of_true (xor_of_fault ?_) hsingle
    refine @faulted_of_information vcpu _ 0x80000301 hmoved ?_ (by decide)
    rw [instrRipAdvance_information, if_pos (hstep.trans hsingle)]
  · refine iff_of_false (not_xor_of_stuck hmoved ?_) hsingle
    have hnostep : ¬ isSingleStep moved.registers = true := fun hk => hsingle (hstep.symm.trans hk)
    rw [instrRipAdvance_information, if_neg hnostep, hvmcs]
    exact hevent

/-- #UD and #GP. -/
theorem completes_exception (h : EmulatedExit exitReasonException vcpu)
    (hinfo : hwExceptionUdOrGp vcpu.vmcs.exitInterruptionInformation = true) :
    CompletesOrFaults env exitReasonException vcpu ↔ ((tscInstructionAt env vcpu).1 ≠ none →
      EventFits env vcpu ∧
        (vcpu.vmcs.exitInstructionLength ≠ 0 ∨ isSingleStep vcpu.registers = true)) := by
  have hrun := @dsHvmExitHandler_exception env vcpu deepShieldHandlers hinfo
  cases hat : tscInstructionAt env vcpu with
  | mk found mmu =>
    rw [eventFits_iff hat]
    cases found with
    | none =>
      have hreflected : dsHvmExitHandler deepShieldHandlers env exitReasonException vcpu
          = .ok (vmInjectHardwareException vcpu.vmcs.exitInterruptionInformation
              { vcpu with mmu := mmu }) := by
        rw [hrun]
        unfold dsHvmExceptionHandler
        rw [hat]
      rw [completesOrFaults_of_ok hreflected]
      exact iff_of_true (xor_of_fault (reflected_faulted hinfo mmu)) (fun hk => absurd rfl hk)
    | some instruction =>
      obtain ⟨hoverflow, hok⟩ :=
        dsHvmExceptionHandler_emulated hat vcpu.vmcs.exitInterruptionInformation
      have hsome : (some instruction, mmu).1 ≠ none := Option.some_ne_none _
      by_cases hfits : tdProcessTscEvent vcpu.tscHits
          (tscEventOf env { vcpu with mmu := mmu }) = none
      · exact iff_of_false (not_completesOrFaults_of_error (hrun.trans (hoverflow hfits)))
          (fun hk => (hk hsome).1 hfits)
      · obtain ⟨recorded, hrecorded, hrip, hflags, cr4, hvmcs⟩ := hok hfits
        rw [completesOrFaults_of_ok (hrun.trans hrecorded)]
        by_cases hzero : vcpu.vmcs.exitInstructionLength = 0
        · rw [xor_of_zero_length hzero h.noEvent hrip hflags ⟨cr4, hvmcs⟩]
          constructor
          · intro hsingle _
            exact ⟨hfits, Or.inr hsingle⟩
          · intro hk
            exact (hk hsome).2.resolve_left fun hne => hne hzero
        · refine iff_of_true (xor_of_advance hzero hrip ?_) (fun _ => ⟨hfits, Or.inl hzero⟩)
          rw [hvmcs]

end Handlers

/-! ## All of them -/

/-- **Every emulated exit completes or faults, as long as it is completable.** -/
theorem completesOrFaults_iff (env : ExitEnvironment) {exitReason : UInt32} {vcpu : Vcpu}
    (h : EmulatedExit exitReason vcpu) :
    CompletesOrFaults env exitReason vcpu ↔ Completable env exitReason vcpu := by
  have hcommon : exitReason ∈ commonExitReasons → exitReason = exitReasonInvd ∨
      exitReason = exitReasonXsetbv ∨ exitReason = exitReasonMsrRead ∨
      exitReason = exitReasonMsrWrite ∨ exitReason ∈ vmxInstructionExits := by
    simp only [commonExitReasons, vmxInstructionExits, List.mem_cons, List.not_mem_nil,
      exitReasonInvd, exitReasonXsetbv, exitReasonMsrRead, exitReasonMsrWrite]
    tauto
  -- a cause that no condition is about
  have hfree : exitReason ≠ exitReasonCpuid → exitReason ≠ exitReasonXsetbv →
      exitReason ≠ exitReasonMsrRead → exitReason ≠ exitReasonMsrWrite →
      exitReason ≠ exitReasonException → Completable env exitReason vcpu := by
    intro h1 h2 h3 h4 h5
    exact ⟨fun hk => absurd hk h1, fun hk => absurd hk h2, fun hk => absurd hk h3,
      fun hk => absurd hk h4, fun hk => absurd hk h5⟩
  rcases h.cause with rfl | hmem | ⟨rfl, _⟩ | ⟨rfl, hinfo⟩
  · rw [completes_cpuid h]
    constructor
    · intro hleaf
      exact ⟨fun _ => hleaf, fun hk => absurd hk (by decide), fun hk => absurd hk (by decide),
        fun hk => absurd hk (by decide), fun hk => absurd hk (by decide)⟩
    · intro hcompletable
      exact hcompletable.cpuid rfl
  · rcases hcommon hmem with rfl | rfl | rfl | rfl | hvmx
    · exact iff_of_true (completes_invd h)
        (hfree (by decide) (by decide) (by decide) (by decide) (by decide))
    · rw [completes_xsetbv h]
      constructor
      · intro haccepted
        exact ⟨fun hk => absurd hk (by decide), fun _ => haccepted, fun hk => absurd hk (by decide),
          fun hk => absurd hk (by decide), fun hk => absurd hk (by decide)⟩
      · intro hcompletable
        exact hcompletable.xsetbv rfl
    · rw [completes_msrRead h]
      constructor
      · intro haccepted
        exact ⟨fun hk => absurd hk (by decide), fun hk => absurd hk (by decide), fun _ => haccepted,
          fun hk => absurd hk (by decide), fun hk => absurd hk (by decide)⟩
      · intro hcompletable
        exact hcompletable.msrRead rfl
    · rw [completes_msrWrite h]
      constructor
      · intro haccepted
        exact ⟨fun hk => absurd hk (by decide), fun hk => absurd hk (by decide),
          fun hk => absurd hk (by decide), fun _ => haccepted, fun hk => absurd hk (by decide)⟩
      · intro hcompletable
        exact hcompletable.msrWrite rfl
    · have hne : ∀ reason, reason ∉ vmxInstructionExits → exitReason ≠ reason :=
        fun reason hnot => ne_of_mem_of_not_mem hvmx hnot
      exact iff_of_true (completes_vmxInstruction hvmx)
        (hfree (hne _ (by decide)) (hne _ (by decide)) (hne _ (by decide)) (hne _ (by decide))
          (hne _ (by decide)))
  · exact iff_of_true (completes_crAccess h)
      (hfree (by decide) (by decide) (by decide) (by decide) (by decide))
  · rw [completes_exception h hinfo]
    constructor
    · intro hemulated
      exact ⟨fun hk => absurd hk (by decide), fun hk => absurd hk (by decide),
        fun hk => absurd hk (by decide), fun hk => absurd hk (by decide), fun _ => hemulated⟩
    · intro hcompletable
      exact hcompletable.exception rfl

/-- A CPUID of the feature information completes. -/
theorem completesOrFaults_featureLeaf :
    CompletesOrFaults bareEnvironment exitReasonCpuid (userExitOf exitReasonCpuid 2 1 0) :=
  (completesOrFaults_iff bareEnvironment
    ⟨Or.inl rfl, by decide, fun _ => by decide⟩).mpr
    ⟨fun _ => by decide, fun hk => absurd hk (by decide), fun hk => absurd hk (by decide),
      fun hk => absurd hk (by decide), fun hk => absurd hk (by decide)⟩

/-- A CPUID of the vendor signature does neither. -/
theorem not_completesOrFaults_vendorLeaf :
    EmulatedExit exitReasonCpuid (userExitOf exitReasonCpuid 2 0x40000000 0) ∧
      ¬ CompletesOrFaults bareEnvironment exitReasonCpuid
        (userExitOf exitReasonCpuid 2 0x40000000 0) := by
  refine ⟨⟨Or.inl rfl, by decide, fun _ => by decide⟩, ?_⟩
  intro ⟨vcpu', heq, hxor⟩
  have hstuck : dsHvmExitHandler deepShieldHandlers bareEnvironment exitReasonCpuid
      (userExitOf exitReasonCpuid 2 0x40000000 0)
        = .ok (cpuidEmulate bareEnvironment (userExitOf exitReasonCpuid 2 0x40000000 0)) := rfl
  obtain rfl := Except.ok.inj (heq.symm.trans hstuck)
  exact not_xor_of_stuck rfl (by decide) hxor

end DeepShield.Vmx
