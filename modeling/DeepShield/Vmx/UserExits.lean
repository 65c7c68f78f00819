import DeepShield.Td.Siblings
import DeepShield.Vmx.Exits

/-!
# Exits that user code can cause

CPUID and VMCALL leave the guest at any privilege level, and so does an
instruction that raises #UD or #GP. `Resumes` is what such an exit should do:
return to the guest, past the instruction or at it with a fault to deliver.

Three things keep the handler from it. A VMCALL reaches either the stop service
or, with any other magic value, the `KeBugCheckEx` of the switch; the two
signature leaves of CPUID return without advancing RIP; and an exception that is
emulated as RDTSC or RDTSCP advances RIP by `EXIT_INSTRUCTION_LENGTH`, which the
processor leaves undefined for exceptions, after a time-stamp event that may
overrun its buffer. `resumes_iff_harmless` shows that there is nothing else.
-/

namespace DeepShield.Vmx

open DeepShield.Mmu DeepShield.Td

/-- An exit by CPUID, VMCALL or an intercepted #UD or #GP, as the processor
leaves it: no event is pending, and the length of an instruction that exits is
known. -/
structure UserExit (vcpu : Vcpu) : Prop where
  cause : vcpu.exitReason = exitReasonCpuid ∨ vcpu.exitReason = exitReasonVmcall ∨
    vcpu.exitReason = exitReasonException ∧
      hwExceptionUdOrGp vcpu.vmcs.exitInterruptionInformation = true
  noEvent : vcpu.vmcs.vmEntryInterruptionInformation &&& vmxIntInfoValid = 0
  length : vcpu.exitReason ≠ exitReasonException → vcpu.vmcs.exitInstructionLength ≠ 0

/-- The length of an emulated instruction. -/
def TscInstruction.length : TscInstruction → UInt32
  | .rdtsc => 2
  | .rdtscp => 3

/-- The RDTSC or RDTSCP that an exit by exception is emulated as. -/
def emulated (env : ExitEnvironment) (vcpu : Vcpu) : Option TscInstruction :=
  (tscInstructionAt env (loadGuestRegisters vcpu)).1

/-- The length of the instruction an exit leaves behind when it is not to be
delivered as a fault. -/
def instructionLength (env : ExitEnvironment) (vcpu : Vcpu) : UInt32 :=
  if vcpu.exitReason = exitReasonException then
    ((emulated env vcpu).map TscInstruction.length).getD 0
  else vcpu.vmcs.exitInstructionLength

/-- The guest continues behind the instruction that caused the exit. -/
def PastInstruction (env : ExitEnvironment) (vcpu vcpu' : Vcpu) : Prop :=
  instructionLength env vcpu ≠ 0 ∧
    vcpu'.vmcs.guestRip = vcpu.vmcs.guestRip + (instructionLength env vcpu).toUInt64

/-- The guest continues at the instruction with a fault, which the single-step trap that
advancing may leave pending is not: it is delivered behind the instruction, and so goes
with `PastInstruction`. -/
def FaultInjected (vcpu vcpu' : Vcpu) : Prop :=
  vcpu'.vmcs.guestRip = vcpu.vmcs.guestRip ∧
    vcpu'.vmcs.vmEntryInterruptionInformation &&& vmxIntInfoValid ≠ 0 ∧
    vectorOf vcpu'.vmcs.vmEntryInterruptionInformation ≠ vectorDebugException

/-- `HvmpExitHandler` returns, and the guest is resumed in one of the two ways. -/
def Resumes (others : OtherHandlers) (env : ExitEnvironment) (vcpu : Vcpu) : Prop :=
  ∃ vcpu', hvmpExitHandler others env vcpu = .ok vcpu' ∧
    (PastInstruction env vcpu vcpu' ∨ FaultInjected vcpu vcpu')

/-- The time-stamp event of an exit that is emulated does not overrun
`TSC_REPORT.Code`: if it makes its entry a candidate whose code can be read, the parts
that are copied are no longer than that. -/
def EventFits (env : ExitEnvironment) (vcpu : Vcpu) : Prop :=
  CandidateFits vcpu.tscHits
    (tscEventOf env { vcpu with mmu := (tscInstructionAt env vcpu).2 })

/-- Then the detector returns. -/
theorem eventFits_iff {env : ExitEnvironment} {vcpu : Vcpu} {found : Option TscInstruction}
    {mmu : MmuPerCpu} (h : tscInstructionAt env vcpu = (found, mmu)) :
    EventFits env vcpu ↔
      tdProcessTscEvent vcpu.tscHits (tscEventOf env { vcpu with mmu := mmu }) ≠ none := by
  rw [EventFits, h, ← tdProcessTscEvent_some_iff, Option.ne_none_iff_exists']

/-- A VMCALL asks for a service other than the stop service, a CPUID for a leaf
other than the signature leaves, and an exception that is emulated comes with
the length of the instruction and an event that fits. -/
structure Harmless (env : ExitEnvironment) (vcpu : Vcpu) : Prop where
  vmcall : vcpu.exitReason = exitReasonVmcall →
    vcpu.registers.rax = hvmCallMagic ∧ vcpu.registers.rcx ≠ hvmInternalServiceStop
  cpuid : vcpu.exitReason = exitReasonCpuid →
    vcpu.registers.rax.toUInt32 ≠ cpuidVmmVendorSignature ∧
      vcpu.registers.rax.toUInt32 ≠ cpuidVmmInterfaceSignature
  exception : vcpu.exitReason = exitReasonException → ∀ instruction,
    emulated env vcpu = some instruction →
      vcpu.vmcs.exitInstructionLength = instruction.length ∧
        EventFits env (loadGuestRegisters vcpu)

/-! ## What advancing does -/

section Advance

variable (vcpu : Vcpu)

@[simp] theorem instrRipAdvance_rip : (instrRipAdvance vcpu).registers.rip
    = vcpu.registers.rip + vcpu.vmcs.exitInstructionLength.toUInt64 := by
  unfold instrRipAdvance
  simp only
  split
  next => rfl
  next => rfl

/-- Lengths that move RIP alike are equal. -/
theorem add_length_inj {rip : UInt64} {a b : UInt32} :
    rip + a.toUInt64 = rip + b.toUInt64 ↔ a = b := by
  constructor
  · intro heq
    have hwide : a.toUInt64 = b.toUInt64 := by simpa using heq
    exact UInt32.toNat_inj.mp (by simpa using congrArg UInt64.toNat hwide)
  · intro heq
    rw [heq]

/-- Advancing injects nothing but the single-step trap. -/
theorem instrRipAdvance_event :
    (instrRipAdvance vcpu).vmcs.vmEntryInterruptionInformation
        = vcpu.vmcs.vmEntryInterruptionInformation ∨
      vectorOf (instrRipAdvance vcpu).vmcs.vmEntryInterruptionInformation
        = vectorDebugException := by
  unfold instrRipAdvance
  simp only
  split
  next =>
    right
    show vectorOf (vmxIntInfoValid ||| (interruptHardwareException <<< 8) |||
      vectorDebugException) = vectorDebugException
    decide
  next => exact Or.inl rfl

/-- Where nothing was pending and the handler has advanced, there is no fault. -/
theorem not_faultInjected_of_advance {vcpu vcpu' : Vcpu} {exit : Vcpu}
    (hevent : vcpu.vmcs.vmEntryInterruptionInformation &&& vmxIntInfoValid = 0)
    (hstored : vcpu'.vmcs.vmEntryInterruptionInformation
      = (instrRipAdvance vcpu).vmcs.vmEntryInterruptionInformation) :
    ¬ FaultInjected exit vcpu' := by
  intro ⟨_, hvalid, hvector⟩
  rw [hstored] at hvalid hvector
  rcases instrRipAdvance_event vcpu with hsame | htrap
  · rw [hsame] at hvalid
    exact hvalid hevent
  · exact hvector htrap

end Advance

/-! ## The causes one by one -/

section Causes

variable {others : OtherHandlers} {env : ExitEnvironment} {vcpu : Vcpu}

/-- VMCALL: a service that is not the stop service, or no return. -/
theorem resumes_vmcall (h : UserExit vcpu) (hreason : vcpu.exitReason = exitReasonVmcall) :
    Resumes others env vcpu ↔
      vcpu.registers.rax = hvmCallMagic ∧ vcpu.registers.rcx ≠ hvmInternalServiceStop := by
  have hlength : instructionLength env vcpu = vcpu.vmcs.exitInstructionLength := by
    rw [instructionLength, hreason, if_neg (by decide)]
  have hrax : (loadGuestRegisters vcpu).registers.rax = vcpu.registers.rax := rfl
  have hrcx : (loadGuestRegisters vcpu).registers.rcx = vcpu.registers.rcx := rfl
  unfold Resumes hvmpExitHandler
  simp only [hreason, hrax, true_and]
  by_cases hmagic : vcpu.registers.rax = hvmCallMagic
  · simp only [if_pos hmagic, hvmHandleService, hrcx]
    by_cases hstop : vcpu.registers.rcx = hvmInternalServiceStop
    · simp only [if_pos hstop]
      refine iff_of_false ?_ (fun hk => hk.2 hstop)
      intro ⟨vcpu', heq, _⟩
      exact absurd heq (by simp [bind, Except.bind])
    · simp only [if_neg hstop]
      refine iff_of_true ⟨_, rfl, Or.inl ⟨?_, ?_⟩⟩ ⟨hmagic, hstop⟩
      · rw [hlength]
        exact h.length (by rw [hreason]; decide)
      · rw [hlength]
        exact instrRipAdvance_rip (loadGuestRegisters vcpu)
  · simp only [if_neg hmagic]
    refine iff_of_false ?_ (fun hk => hmagic hk.1)
    intro ⟨vcpu', heq, _⟩
    have hbug : dsHvmExitHandler others env exitReasonVmcall (loadGuestRegisters vcpu)
        = .error (.keBugCheckEx exitReasonVmcall) := rfl
    rw [hbug] at heq
    exact absurd heq (by simp [bind, Except.bind])

/-- CPUID: a leaf that is not a signature leaf, or the guest is where it was. -/
theorem resumes_cpuid (h : UserExit vcpu) (hreason : vcpu.exitReason = exitReasonCpuid) :
    Resumes others env vcpu ↔
      vcpu.registers.rax.toUInt32 ≠ cpuidVmmVendorSignature ∧
        vcpu.registers.rax.toUInt32 ≠ cpuidVmmInterfaceSignature := by
  have hlength : instructionLength env vcpu = vcpu.vmcs.exitInstructionLength := by
    rw [instructionLength, hreason, if_neg (by decide)]
  have hne : vcpu.vmcs.exitInstructionLength ≠ 0 := h.length (by rw [hreason]; decide)
  have hrun : hvmpExitHandler others env vcpu
      = .ok (storeGuestRegisters (cpuidEmulate env (loadGuestRegisters vcpu))) := by
    unfold hvmpExitHandler
    simp only [hreason]
    rfl
  have hrax : (loadGuestRegisters vcpu).registers.rax = vcpu.registers.rax := rfl
  -- a leaf that leaves RIP and the pending event alone
  have hstuck : ∀ vcpu' : Vcpu, vcpu'.vmcs.guestRip = vcpu.vmcs.guestRip →
      vcpu'.vmcs.vmEntryInterruptionInformation = vcpu.vmcs.vmEntryInterruptionInformation →
      ¬ (PastInstruction env vcpu vcpu' ∨ FaultInjected vcpu vcpu') := by
    intro vcpu' hrip hevent hresumed
    rcases hresumed with ⟨_, hpast⟩ | ⟨_, hvalid, _⟩
    · rw [hlength, hrip] at hpast
      have hzero : vcpu.vmcs.exitInstructionLength.toUInt64 = 0 := by
        simpa using hpast.symm
      exact hne (UInt32.toNat_inj.mp (by simpa using congrArg UInt64.toNat hzero))
    · rw [hevent] at hvalid
      exact hvalid h.noEvent
  unfold Resumes
  simp only [hrun, Except.ok.injEq, exists_eq_left', cpuidEmulate, cpuidEmulateBuilt,
    hrax]
  by_cases hvendor : vcpu.registers.rax.toUInt32 = cpuidVmmVendorSignature
  · simp only [if_pos hvendor]
    exact iff_of_false (hstuck _ rfl rfl) (fun hk => hk.1 hvendor)
  · by_cases hinterface : vcpu.registers.rax.toUInt32 = cpuidVmmInterfaceSignature
    · simp only [if_neg hvendor, if_pos hinterface]
      exact iff_of_false (hstuck _ rfl rfl) (fun hk => hk.2 hinterface)
    · simp only [if_neg hvendor, if_neg hinterface]
      refine iff_of_true (Or.inl ⟨?_, ?_⟩) ⟨hvendor, hinterface⟩
      · rw [hlength]
        exact hne
      · rw [hlength]
        refine (instrRipAdvance_rip _).trans ?_
        rw [cpuidMask_eq]
        rfl

/-- The interruption information of a reflected #UD or #GP. -/
theorem reflected_event {info : UInt32} (h : hwExceptionUdOrGp info = true) :
    (vmxIntInfoValid ||| (exceptionType (vectorOf info) <<< 8) ||| vectorOf info)
        &&& vmxIntInfoValid ≠ 0 ∧
      vectorOf (vmxIntInfoValid ||| (exceptionType (vectorOf info) <<< 8) ||| vectorOf info)
        ≠ vectorDebugException := by
  simp only [hwExceptionUdOrGp, Bool.and_eq_true, Bool.or_eq_true, beq_iff_eq] at h
  rcases h.2 with hud | hgp
  · rw [hud]
    decide
  · rw [hgp]
    decide

/-- Emulating, with RIP where it was: the event is processed and RIP advanced,
unless the event overruns its buffer. -/
theorem emulateTsc_spec (env : ExitEnvironment) (vcpu : Vcpu) {registers : GpRegisters}
    (hrip : registers.rip = vcpu.registers.rip) :
    (tdProcessTscEvent vcpu.tscHits (tscEventOf env vcpu) = none →
        emulateTsc env vcpu registers = .error .codeOverflow) ∧
      (tdProcessTscEvent vcpu.tscHits (tscEventOf env vcpu) ≠ none →
        ∃ recorded, emulateTsc env vcpu registers = .ok (instrRipAdvance recorded) ∧
          recorded.registers.rip = vcpu.registers.rip ∧
          recorded.registers.rflags = registers.rflags ∧
          ∃ cr4, recorded.vmcs = { vcpu.vmcs with cr4 := cr4 }) := by
  have hargument : tscEventOf env { vcpu with registers := registers } = tscEventOf env vcpu := by
    simp only [tscEventOf, hrip]
  unfold emulateTsc processTscEvent
  rw [hargument]
  cases tdProcessTscEvent vcpu.tscHits (tscEventOf env vcpu) with
  | none => exact ⟨fun _ => rfl, fun hne => absurd rfl hne⟩
  | some outcome =>
    exact ⟨fun hnone => absurd hnone (by simp), fun _ => ⟨_, rfl, hrip, rfl, _, rfl⟩⟩

/-- Either instruction. -/
theorem dsHvmExceptionHandler_emulated {instruction : TscInstruction} {mmu : MmuPerCpu}
    (h : tscInstructionAt env vcpu = (some instruction, mmu)) (info : UInt32) :
    (tdProcessTscEvent vcpu.tscHits (tscEventOf env { vcpu with mmu := mmu }) = none →
        dsHvmExceptionHandler env info vcpu = .error .codeOverflow) ∧
      (tdProcessTscEvent vcpu.tscHits (tscEventOf env { vcpu with mmu := mmu }) ≠ none →
        ∃ recorded, dsHvmExceptionHandler env info vcpu = .ok (instrRipAdvance recorded) ∧
          recorded.registers.rip = vcpu.registers.rip ∧
          recorded.registers.rflags = vcpu.registers.rflags ∧
          ∃ cr4, recorded.vmcs = { vcpu.vmcs with cr4 := cr4 }) := by
  unfold dsHvmExceptionHandler
  rw [h]
  cases instruction with
  | rdtsc =>
    exact emulateTsc_spec env { vcpu with mmu := mmu }
      (show ({ vcpu.registers with rdx := _, rax := _ } : GpRegisters).rip = _ from rfl)
  | rdtscp =>
    exact emulateTsc_spec env { vcpu with mmu := mmu }
      (show ({ vcpu.registers with rdx := _, rax := _, rcx := _ } : GpRegisters).rip = _ from rfl)

/-- The switch gives #UD and #GP to their handler. -/
theorem dsHvmExitHandler_exception (others : OtherHandlers)
    (h : hwExceptionUdOrGp vcpu.vmcs.exitInterruptionInformation = true) :
    dsHvmExitHandler others env exitReasonException vcpu
      = dsHvmExceptionHandler env vcpu.vmcs.exitInterruptionInformation vcpu :=
  if_pos h

/-- #UD and #GP: reflected, or emulated with the right length. -/
theorem resumes_exception (h : UserExit vcpu)
    (hreason : vcpu.exitReason = exitReasonException)
    (hinfo : hwExceptionUdOrGp vcpu.vmcs.exitInterruptionInformation = true) :
    Resumes others env vcpu ↔ ∀ instruction, emulated env vcpu = some instruction →
      vcpu.vmcs.exitInstructionLength = instruction.length ∧
        EventFits env (loadGuestRegisters vcpu) := by
  have hrun : hvmpExitHandler others env vcpu
      = (dsHvmExceptionHandler env vcpu.vmcs.exitInterruptionInformation
          (loadGuestRegisters vcpu)).map storeGuestRegisters := by
    have hloaded : hwExceptionUdOrGp (loadGuestRegisters vcpu).vmcs.exitInterruptionInformation
        = true := hinfo
    unfold hvmpExitHandler
    simp only [hreason]
    rw [if_neg (fun hk => absurd hk.1 (by decide)), dsHvmExitHandler_exception others hloaded]
    rfl
  have hlength : instructionLength env vcpu
      = ((emulated env vcpu).map TscInstruction.length).getD 0 := by
    rw [instructionLength, if_pos hreason]
  unfold Resumes
  rw [hrun]
  unfold emulated at hlength ⊢
  cases hat : tscInstructionAt env (loadGuestRegisters vcpu) with
  | mk found mmu =>
    rw [hat] at hlength
    simp only [eventFits_iff hat]
    cases found with
    | none =>
      refine iff_of_true ?_ (fun instruction hk => absurd hk (by simp))
      refine ⟨storeGuestRegisters (vmInjectHardwareException
        vcpu.vmcs.exitInterruptionInformation { loadGuestRegisters vcpu with mmu := mmu }),
        ?_, Or.inr ⟨rfl, reflected_event hinfo⟩⟩
      unfold dsHvmExceptionHandler
      rw [hat]
      rfl
    | some instruction =>
      obtain ⟨hoverflow, hok⟩ :=
        dsHvmExceptionHandler_emulated hat vcpu.vmcs.exitInterruptionInformation
      simp only [Option.some.injEq, forall_eq']
      by_cases hfits : tdProcessTscEvent (loadGuestRegisters vcpu).tscHits
          (tscEventOf env { loadGuestRegisters vcpu with mmu := mmu }) = none
      · refine iff_of_false ?_ (fun hk => hk.2 hfits)
        intro ⟨vcpu', heq, _⟩
        rw [hoverflow hfits] at heq
        exact absurd heq (by simp [Except.map])
      · obtain ⟨recorded, hrecorded, hrip, _, cr4, hvmcs⟩ := hok hfits
        have hfinal : (storeGuestRegisters (instrRipAdvance recorded)).vmcs.guestRip
            = vcpu.vmcs.guestRip + vcpu.vmcs.exitInstructionLength.toUInt64 := by
          show (instrRipAdvance recorded).registers.rip = _
          rw [instrRipAdvance_rip, hrip, hvmcs]
          rfl
        have hnofault : ¬ FaultInjected vcpu (storeGuestRegisters (instrRipAdvance recorded)) :=
          not_faultInjected_of_advance (by rw [hvmcs]; exact h.noEvent) rfl
        have hpositive : instruction.length ≠ 0 := by
          cases instruction with
          | rdtsc => decide
          | rdtscp => decide
        rw [hrecorded]
        simp only [Except.map, Except.ok.injEq, exists_eq_left', hnofault, or_false,
          PastInstruction, hlength, Option.map_some, Option.getD_some, hfinal, hpositive,
          ne_eq, not_false_eq_true, true_and, hfits, and_true]
        exact add_length_inj

end Causes

/-! ## All of them -/

/-- **An exit that user code can cause resumes the guest exactly if it is
harmless.** -/
theorem resumes_iff_harmless (others : OtherHandlers) (env : ExitEnvironment) {vcpu : Vcpu}
    (h : UserExit vcpu) : Resumes others env vcpu ↔ Harmless env vcpu := by
  rcases h.cause with hcpuid | hvmcall | ⟨hexception, hinfo⟩
  · rw [resumes_cpuid h hcpuid]
    constructor
    · intro hleaf
      exact ⟨fun hk => absurd (hcpuid.symm.trans hk) (by decide), fun _ => hleaf,
        fun hk => absurd (hcpuid.symm.trans hk) (by decide)⟩
    · intro hharmless
      exact hharmless.cpuid hcpuid
  · rw [resumes_vmcall h hvmcall]
    constructor
    · intro hservice
      exact ⟨fun _ => hservice, fun hk => absurd (hvmcall.symm.trans hk) (by decide),
        fun hk => absurd (hvmcall.symm.trans hk) (by decide)⟩
    · intro hharmless
      exact hharmless.vmcall hvmcall
  · rw [resumes_exception h hexception hinfo]
    constructor
    · intro hemulated
      exact ⟨fun hk => absurd (hexception.symm.trans hk) (by decide),
        fun hk => absurd (hexception.symm.trans hk) (by decide), fun _ => hemulated⟩
    · intro hharmless
      exact hharmless.exception hexception

/-- Handlers that do nothing. -/
def idleHandlers : OtherHandlers := ⟨fun _ _ vcpu => .ok vcpu, fun _ vcpu => .ok vcpu⟩

/-- A machine with empty memory, whose CPUID returns zeros. -/
def bareEnvironment : ExitEnvironment where
  processId := 4
  threadId := 8
  pmGetClientTrustLevel := 1
  ia32Tsc := 0
  ia32TscAux := 0
  cpuidex := fun _ _ => (0, 0, 0, 0)
  rdmsr := fun _ => none
  wrmsr := fun _ _ => false
  xsetbv := fun _ _ => false
  readCr4 := 0
  cr4Fixed := vmInitializeVmState ⟨0x2000, 0x3767FF⟩
  machine := ⟨fun _ => 0, 0x1000, fun _ => 0⟩
  decoder := nopDecoder
  interruptControl := 0

/-- An exit of user code at 0x401000, by an instruction of the given length. -/
def userExitOf (exitReason length : UInt32) (rax rcx : UInt64) : Vcpu where
  registers := { (default : GpRegisters) with rax := rax, rcx := rcx }
  hostStateCr4 := 0
  vmcs := { (default : Vmcs) with
    exitReason := exitReason
    exitInstructionLength := length
    guestRip := 0x401000 }
  tscHits := .zero
  mmu := bootMmu
  effects := []

/-- CPUID of the leaf with the feature information. -/
theorem resumes_featureLeaf :
    Resumes idleHandlers bareEnvironment (userExitOf exitReasonCpuid 2 1 0) :=
  (resumes_iff_harmless idleHandlers bareEnvironment
    ⟨Or.inl rfl, by decide, fun _ => by decide⟩).mpr
    ⟨fun h => absurd h (by decide), fun _ => by decide, fun h => absurd h (by decide)⟩

/-- A VMCALL of user code that asks for the stop service gets it. -/
theorem not_resumes_stopService :
    UserExit (userExitOf exitReasonVmcall 3 0xCAFEBABE 0) ∧
      ¬ Resumes idleHandlers bareEnvironment (userExitOf exitReasonVmcall 3 0xCAFEBABE 0) := by
  refine ⟨⟨Or.inr (Or.inl rfl), by decide, fun _ => by decide⟩, ?_⟩
  intro ⟨vcpu', heq, _⟩
  have hstop : hvmpExitHandler idleHandlers bareEnvironment
      (userExitOf exitReasonVmcall 3 0xCAFEBABE 0) = .error .hvmpStop := rfl
  exact absurd (hstop.symm.trans heq) (by simp)

end DeepShield.Vmx
