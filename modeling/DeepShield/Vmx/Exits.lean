import DeepShield.Td.Verdict
import DeepShield.Vmx.Cr4

/-!
# VM exits

What root mode does with an exit. `HvmpExitHandler` takes the stop service,
a VMCALL with `HVM_CALL_MAGIC` in RAX, itself and gives every other exit to
`DsHvmExitHandler`, a switch over the exit reason whose default is
`KeBugCheckEx`. A handler that returns resumes the guest; the other ways it can
end are `Halt`.

The VMCS is the record of the fields the handlers read and write. INVD, XSETBV,
MSR accesses, the VMX instructions and MOV CR have handlers of their own
(`OtherHandlers`), which the switch only calls; `Vmx/Handlers` has the real ones.
-/

namespace DeepShield.Vmx

open DeepShield.Mmu DeepShield.Td

/-! ## The state of a virtual processor -/

/-- `GP_REGISTERS`. -/
structure GpRegisters where
  rax : UInt64
  rcx : UInt64
  rdx : UInt64
  rbx : UInt64
  rsp : UInt64
  rbp : UInt64
  rsi : UInt64
  rdi : UInt64
  r8 : UInt64
  r9 : UInt64
  r10 : UInt64
  r11 : UInt64
  r12 : UInt64
  r13 : UInt64
  r14 : UInt64
  r15 : UInt64
  rip : UInt64
  rflags : UInt64
deriving Repr, DecidableEq, Inhabited

/-- The VMCS fields the handlers use. -/
structure Vmcs where
  exitReason : UInt32
  exitInstructionLength : UInt32
  exitInterruptionInformation : UInt32
  exitInterruptionErrorCode : UInt32
  exitQualification : UInt64
  guestCr3 : UInt64
  cr4 : Cr4Vmcs
  hostCr4 : UInt64
  guestFsBase : UInt64
  guestRsp : UInt64
  guestRip : UInt64
  guestRflags : UInt64
  vmEntryInterruptionInformation : UInt32
  vmEntryExceptionErrorCode : UInt32
  vmEntryInstructionLength : UInt32
deriving Repr, DecidableEq, Inhabited

/-- `HVM_VCPU` with its VMCS and its `VCPU_CONTEXT`; `hostStateCr4` is
`HostState.Cr4`, and `effects` are the effects of time-stamp events so far. -/
structure Vcpu where
  registers : GpRegisters
  hostStateCr4 : UInt64
  vmcs : Vmcs
  tscHits : TscTable
  mmu : MmuPerCpu
  effects : List TdEffect

/-- What the handlers find at an exit: the current process and thread and how
far it is trusted, the time-stamp MSRs, the processor's CPUID and CR4, the fixed
bits of CR4, the machine and the disassembler. `rdmsr` gives none, and `wrmsr`
and `xsetbv` give false, where the processor raises an exception instead.
`interruptControl` is the uninitialised local of `VmInjectInterruptOrException`. -/
structure ExitEnvironment where
  processId : UInt64
  threadId : UInt64
  pmGetClientTrustLevel : UInt32
  ia32Tsc : UInt64
  ia32TscAux : UInt64
  cpuidex : UInt32 → UInt32 → UInt32 × UInt32 × UInt32 × UInt32
  rdmsr : UInt32 → Option UInt64
  wrmsr : UInt32 → UInt64 → Bool
  xsetbv : UInt32 → UInt64 → Bool
  readCr4 : UInt64
  cr4Fixed : Cr4Fixed
  machine : Machine
  decoder : Decoder
  interruptControl : UInt32

/-- How a handler ends if it does not return: `HvmpStop` leaves VMX operation,
`KeBugCheckEx` stops the machine, after a copy past the end of
`TSC_REPORT.Code` nothing is defined, and an exception in root mode goes to the
host. -/
inductive Halt
  | hvmpStop
  | keBugCheckEx (exitReason : UInt32)
  | codeOverflow
  | rootException
deriving Repr, DecidableEq

/-! ## Advancing and injecting -/

/-- `VECTOR_DEBUG_EXCEPTION`. -/
def vectorDebugException : UInt32 := 1

/-- `VECTOR_INVALID_OPCODE_EXCEPTION`. -/
def vectorInvalidOpcodeException : UInt32 := 6

/-- `VECTOR_GENERAL_PROTECTION_EXCEPTION`. -/
def vectorGeneralProtectionException : UInt32 := 13

/-- `INTERRUPT_HARDWARE_EXCEPTION`. -/
def interruptHardwareException : UInt32 := 3

/-- `EXCEPTION_ERROR_CODE_VALID`. -/
def exceptionErrorCodeValid : UInt32 := 8

/-- `VMX_INT_INFO_VALID`. -/
def vmxIntInfoValid : UInt32 := 0x80000000

/-- `Bits.Vector` of an interruption information. -/
def vectorOf (info : UInt32) : UInt32 := info &&& 0xFF

/-- `Bits.InterruptType`. -/
def interruptTypeOf (info : UInt32) : UInt32 := (info >>> 8) &&& 7

/-- `Bits.ErrorCodeValid`. -/
def errorCodeValid (info : UInt32) : Bool := info &&& 0x800 ≠ 0

/-- The trap flag of RFLAGS. -/
def rflagsTf : UInt64 := 0x100

/-- The carry flag of RFLAGS. -/
def rflagsCf : UInt64 := 1

/-- `IsSingleStep`. -/
def isSingleStep (registers : GpRegisters) : Bool := registers.rflags &&& rflagsTf ≠ 0

/-- `InjectInt1`. -/
def injectInt1 (vcpu : Vcpu) : Vcpu :=
  { vcpu with
    registers := { vcpu.registers with rflags := vcpu.registers.rflags &&& ~~~rflagsTf }
    vmcs := { vcpu.vmcs with
      vmEntryInterruptionInformation :=
        vmxIntInfoValid ||| (interruptHardwareException <<< 8) ||| vectorDebugException } }

/-- `InstrRipAdvance`. -/
def instrRipAdvance (vcpu : Vcpu) : Vcpu :=
  let vcpu := { vcpu with
    registers := { vcpu.registers with
      rip := vcpu.registers.rip + vcpu.vmcs.exitInstructionLength.toUInt64 } }
  if isSingleStep vcpu.registers then injectInt1 vcpu else vcpu

/-- `ExceptionType`. -/
def exceptionType (vector : UInt32) : UInt32 :=
  if vector = 8 ∨ (10 ≤ vector ∧ vector ≤ 14) ∨ vector = 17 then
    interruptHardwareException ||| exceptionErrorCodeValid
  else interruptHardwareException

/-- `VmInjectHardwareException`. -/
def vmInjectHardwareException (info : UInt32) (vcpu : Vcpu) : Vcpu :=
  { vcpu with
    vmcs := { vcpu.vmcs with
      vmEntryExceptionErrorCode :=
        if errorCodeValid info then vcpu.vmcs.exitInterruptionErrorCode
        else vcpu.vmcs.vmEntryExceptionErrorCode
      vmEntryInterruptionInformation :=
        vmxIntInfoValid ||| (exceptionType (vectorOf info) <<< 8) ||| vectorOf info
      vmEntryInstructionLength := 0 } }

/-- `VmInjectInterruptOrException`. -/
def vmInjectInterruptOrException (env : ExitEnvironment) (info : UInt32) (vcpu : Vcpu) : Vcpu :=
  { vcpu with
    vmcs := { vcpu.vmcs with
      vmEntryExceptionErrorCode :=
        if errorCodeValid info then vcpu.vmcs.exitInterruptionErrorCode
        else vcpu.vmcs.vmEntryExceptionErrorCode
      vmEntryInterruptionInformation :=
        -- bits 12 to 30 of the local are never assigned
        (env.interruptControl &&& 0x7FFFF000) ||| (info &&& 0x80000FFF)
      vmEntryInstructionLength :=
        if interruptTypeOf info = 4 ∨ interruptTypeOf info = 5 ∨ interruptTypeOf info = 6 then
          vcpu.vmcs.exitInstructionLength
        else 0 } }

/-! ## CPUID -/

/-- `CPUID_VMM_VENDOR_SIGNATURE`. -/
def cpuidVmmVendorSignature : UInt32 := 0x40000000

/-- `CPUID_VMM_INTERFACE_SIGNATURE`. -/
def cpuidVmmInterfaceSignature : UInt32 := 0x40000001

/-- `CPUID_FEATURE_INFORMATION`. -/
def cpuidFeatureInformation : UInt32 := 1

/-- An `INT32` cast to `UINTN`. -/
def int32ToUintn (x : UInt32) : UInt64 := x.toInt32.toInt64.toUInt64

/-- `InstrCpuidEmulate`. -/
def instrCpuidEmulate (env : ExitEnvironment) (registers : GpRegisters) : GpRegisters :=
  match env.cpuidex registers.rax.toUInt32 registers.rcx.toUInt32 with
  | (eax, ebx, ecx, edx) =>
    { registers with
      rax := int32ToUintn eax
      rbx := int32ToUintn ebx
      rcx := int32ToUintn ecx
      rdx := int32ToUintn edx }

/-- `CPUID_EXTENDED_FEATURE_FLAGS`. -/
def cpuidExtendedFeatureFlags : UInt32 := 7

/-- `CPUID_LEAF_7H_0H_EBX_RTM`. -/
def cpuidLeaf7h0hEbxRtm : UInt32 := 0x800

/-- `CPUID_LEAF_1H_ECX_HYPERVISOR_BIT`. -/
def cpuidLeaf1hEcxHypervisorBit : UInt32 := 0x80000000

/-- The build hides RTM, and this is the leaf that shows it. -/
def HidesRtm (removeTsxSupport : Bool) (function subLeaf : UInt32) : Prop :=
  removeTsxSupport = true ∧ function = cpuidExtendedFeatureFlags ∧ subLeaf = 0

instance (removeTsxSupport : Bool) (function subLeaf : UInt32) :
    Decidable (HidesRtm removeTsxSupport function subLeaf) :=
  inferInstanceAs (Decidable (_ ∧ _))

/-- The masks that `CpuidEmulate` applies, built with `REMOVE_TSX_SUPPORT` or without. -/
def cpuidMask (removeTsxSupport : Bool) (function subLeaf : UInt32)
    (registers : GpRegisters) : GpRegisters :=
  let registers :=
    if HidesRtm removeTsxSupport function subLeaf then
      -- the complement is one of 32 bits
      { registers with rbx := registers.rbx &&& (~~~cpuidLeaf7h0hEbxRtm).toUInt64 }
    else registers
  if function = cpuidFeatureInformation then
    { registers with rcx := registers.rcx ||| cpuidLeaf1hEcxHypervisorBit.toUInt64 }
  else registers

/-- `CpuidEmulate`, built with `REMOVE_TSX_SUPPORT` or without. -/
def cpuidEmulateBuilt (removeTsxSupport : Bool) (env : ExitEnvironment) (vcpu : Vcpu) : Vcpu :=
  let function := vcpu.registers.rax.toUInt32
  let subLeaf := vcpu.registers.rcx.toUInt32
  if function = cpuidVmmVendorSignature then
    { vcpu with
      registers := { vcpu.registers with
        rbx := 0x42797465
        rcx := 0x48656564
        rdx := 0x4C796E78
        rax := 0x40000001 } }
  else if function = cpuidVmmInterfaceSignature then
    { vcpu with registers := { vcpu.registers with rax := 0x3123784C } }
  else
    instrRipAdvance { vcpu with
      registers := cpuidMask removeTsxSupport function subLeaf
        (instrCpuidEmulate env vcpu.registers) }

/-- `CpuidEmulate`; nothing defines `REMOVE_TSX_SUPPORT`. -/
def cpuidEmulate (env : ExitEnvironment) (vcpu : Vcpu) : Vcpu := cpuidEmulateBuilt false env vcpu

/-- The masks change two registers, each in its leaf. -/
theorem cpuidMask_eq {removeTsxSupport : Bool} {function subLeaf : UInt32}
    {registers : GpRegisters} :
    cpuidMask removeTsxSupport function subLeaf registers
      = { registers with
          rbx :=
            if HidesRtm removeTsxSupport function subLeaf then
              registers.rbx &&& (~~~cpuidLeaf7h0hEbxRtm).toUInt64
            else registers.rbx
          rcx :=
            if function = cpuidFeatureInformation then
              registers.rcx ||| cpuidLeaf1hEcxHypervisorBit.toUInt64
            else registers.rcx } := by
  unfold cpuidMask
  dsimp only
  split
  next => split <;> rfl
  next => split <;> rfl

/-! ## Exceptions -/

/-- `TSC_INS_LENGHT`. -/
def tscInsLenght : Nat := 2

/-- `TSCP_INS_LENGHT`. -/
def tscpInsLenght : Nat := 3

/-- `LAST_BYTE_IN_PAGE`. -/
def lastByteInPage : Nat := 4095

/-- `NUMBER_PAGES_SPANNED`. -/
def numberPagesSpanned (va : UInt64) (size : Nat) : Nat :=
  ((byteOffset va).toNat + size + 4095) / 4096

/-- `MmuGetPhysicalAddress`, then `MmuMapIoPage`: the mapped page, NULL if either
fails. -/
def mapGuestPage (machine : Machine) (mmu : MmuPerCpu) (cr3 va : UInt64) : UInt64 × MmuPerCpu :=
  match mmuGetPhysicalAddress machine mmu cr3 va with
  | (codePa, mmu) => if codePa = 0 then (0, mmu) else mmuMapIoPage mmu codePa false

/-- The bytes read, if they are enough for RDTSC. -/
def guestInstruction (opcode : List UInt8) : Option (List UInt8) :=
  if tscInsLenght ≤ opcode.length then some opcode else none

/-- `VmReadGuestInstruction`: the two or three bytes it gets. -/
def vmReadGuestInstruction (machine : Machine) (mmu : MmuPerCpu) (cr3 remoteVa : UInt64) :
    Option (List UInt8) × MmuPerCpu :=
  let offset := (byteOffset remoteVa).toNat
  match mapGuestPage machine mmu cr3 remoteVa with
  | (codePage, mmu) =>
    if codePage = 0 then (none, mmu)
    else if numberPagesSpanned remoteVa tscpInsLenght = 1 then
      (guestInstruction (mmuReadPage machine.physical mmu codePage offset 3),
        mmuUnmapIoPage mmu codePage)
    else
      let opcode := mmuReadPage machine.physical mmu codePage offset
        (if offset = lastByteInPage then 1 else 2)
      let mmu := mmuUnmapIoPage mmu codePage
      -- the rest is on the next page
      match mapGuestPage machine mmu cr3 (remoteVa + UInt64.ofNat tscpInsLenght) with
      | (codePage, mmu) =>
        if codePage = 0 then (guestInstruction opcode, mmu)
        else
          let second := if offset = lastByteInPage then
            mmuReadPage machine.physical mmu codePage 0 1 else []
          let third := mmuReadPage machine.physical mmu codePage ((offset + 2) % 4096) 1
          (guestInstruction (opcode ++ second ++ third), mmuUnmapIoPage mmu codePage)

/-- `IS_RDTSC_INSTRUCTION`. -/
def isRdtscInstruction (opcode : List UInt8) : Bool := opcode.take 2 == [0x0F, 0x31]

/-- `IS_RDTSCP_INSTRUCTION`. -/
def isRdtscpInstruction (opcode : List UInt8) : Bool := opcode == [0x0F, 0x01, 0xF9]

/-- `MmuIsUserModeAddress`. -/
def mmuIsUserModeAddress (va : UInt64) : Bool := va ≤ 0x00007FFFFFFFFFFF

/-- The time-stamp event of an exit. -/
def tscEventOf (env : ExitEnvironment) (vcpu : Vcpu) : TscEvent where
  processId := env.processId
  threadId := env.threadId
  offensiveAddress := vcpu.registers.rip
  timeStamp := env.ia32Tsc
  machine := env.machine
  mmu := vcpu.mmu
  guestCr3 := vcpu.vmcs.guestCr3
  decoder := env.decoder

/-- CR4 after the effects of a time-stamp event: the event may have called
`HvmTrimTsdForQuantum( FALSE )`. -/
def cr4AfterEffects (env : ExitEnvironment) (effects : List TdEffect) (cr4 : Cr4Vmcs) : Cr4Vmcs :=
  if .hvmTrimTsdForQuantum ∈ effects then hvmTrimTsdForQuantum env.cr4Fixed false cr4 else cr4

/-- `TdProcessTscEvent( Local->TscHits, Registers->Rip, TimeStamp )`. -/
def processTscEvent (env : ExitEnvironment) (vcpu : Vcpu) : Except Halt Vcpu :=
  match tdProcessTscEvent vcpu.tscHits (tscEventOf env vcpu) with
  | none => .error .codeOverflow
  | some outcome =>
    .ok { vcpu with
      vmcs := { vcpu.vmcs with cr4 := cr4AfterEffects env outcome.effects vcpu.vmcs.cr4 }
      tscHits := outcome.head
      mmu := outcome.mmu
      effects := vcpu.effects ++ outcome.effects }

/-- How both emulations end: with the registers set, the event is processed and
RIP advanced. -/
def emulateTsc (env : ExitEnvironment) (vcpu : Vcpu) (registers : GpRegisters) :
    Except Halt Vcpu :=
  (processTscEvent env { vcpu with registers := registers }).map instrRipAdvance

/-- `VmRdtscEmulate`. -/
def vmRdtscEmulate (env : ExitEnvironment) (vcpu : Vcpu) : Except Halt Vcpu :=
  emulateTsc env vcpu { vcpu.registers with
    rdx := env.ia32Tsc >>> 32
    rax := env.ia32Tsc &&& 0xFFFFFFFF }

/-- `VmRdtscpEmulate`. -/
def vmRdtscpEmulate (env : ExitEnvironment) (vcpu : Vcpu) : Except Halt Vcpu :=
  emulateTsc env vcpu { vcpu.registers with
    rdx := env.ia32Tsc >>> 32
    rax := env.ia32Tsc &&& 0xFFFFFFFF
    rcx := env.ia32TscAux &&& 0xFFFFFFFF }

/-- The instructions emulated on an exception. -/
inductive TscInstruction
  | rdtsc
  | rdtscp
deriving Repr, DecidableEq

/-- The decision of `DsHvmExceptionHandler`: which instruction to emulate, none
if the exception is not handled, and the slots after looking. -/
def tscInstructionAt (env : ExitEnvironment) (vcpu : Vcpu) : Option TscInstruction × MmuPerCpu :=
  if mmuIsUserModeAddress vcpu.registers.rip = false then (none, vcpu.mmu)
  else
    match vmReadGuestInstruction env.machine vcpu.mmu vcpu.vmcs.guestCr3 vcpu.registers.rip with
    | (none, mmu) => (none, mmu)
    | (some opcode, mmu) =>
      if isRdtscInstruction opcode then (some .rdtsc, mmu)
      else if isRdtscpInstruction opcode then (some .rdtscp, mmu)
      else (none, mmu)

/-- `DsHvmExceptionHandler`, and `VmInjectHardwareException` if it returns
FALSE. -/
def dsHvmExceptionHandler (env : ExitEnvironment) (info : UInt32) (vcpu : Vcpu) :
    Except Halt Vcpu :=
  match tscInstructionAt env vcpu with
  | (none, mmu) => .ok (vmInjectHardwareException info { vcpu with mmu := mmu })
  | (some .rdtsc, mmu) => vmRdtscEmulate env { vcpu with mmu := mmu }
  | (some .rdtscp, mmu) => vmRdtscpEmulate env { vcpu with mmu := mmu }

/-- `HW_EXCEPTION_UD_OR_GP`. -/
def hwExceptionUdOrGp (info : UInt32) : Bool :=
  interruptTypeOf info == interruptHardwareException &&
    (vectorOf info == vectorInvalidOpcodeException ||
      vectorOf info == vectorGeneralProtectionException)

/-! ## The dispatch -/

/-- `EXIT_REASON_SOFTWARE_INTERRUPT_EXCEPTION_NMI`. -/
def exitReasonException : UInt32 := 0

/-- `EXIT_REASON_CPUID`. -/
def exitReasonCpuid : UInt32 := 10

/-- `EXIT_REASON_VMCALL`. -/
def exitReasonVmcall : UInt32 := 18

/-- `EXIT_REASON_CR_ACCESS`. -/
def exitReasonCrAccess : UInt32 := 28

/-- The reasons `DsHvmExitHandler` gives to `HvmVcpuCommonExitsHandler`: INVD,
XSETBV, VMXON, VMXOFF, VMCLEAR, VMRESUME, VMLAUNCH, VMPTRLD, VMPTRST, VMREAD,
VMWRITE, INVEPT, INVVPID, MSR_READ, MSR_WRITE. -/
def commonExitReasons : List UInt32 := [13, 55, 27, 26, 19, 24, 20, 21, 22, 23, 25, 50, 53, 31, 32]

/-- The reasons it ignores: INIT, SIPI, TRIPLE_FAULT. -/
def ignoredExitReasons : List UInt32 := [3, 4, 2]

/-- The handlers that the switch calls for the exits not modelled here. -/
structure OtherHandlers where
  hvmVcpuCommonExitsHandler : ExitEnvironment → UInt32 → Vcpu → Except Halt Vcpu
  crAccessHandler : ExitEnvironment → Vcpu → Except Halt Vcpu

/-- `DsHvmExitHandler`. -/
def dsHvmExitHandler (others : OtherHandlers) (env : ExitEnvironment) (exitReason : UInt32)
    (vcpu : Vcpu) : Except Halt Vcpu :=
  if exitReason ∈ commonExitReasons then
    others.hvmVcpuCommonExitsHandler env exitReason vcpu
  else if exitReason = exitReasonException then
    let info := vcpu.vmcs.exitInterruptionInformation
    if hwExceptionUdOrGp info then dsHvmExceptionHandler env info vcpu
    else .ok (vmInjectInterruptOrException env info vcpu)
  else if exitReason = exitReasonCrAccess then others.crAccessHandler env vcpu
  else if exitReason = exitReasonCpuid then .ok (cpuidEmulate env vcpu)
  else if exitReason ∈ ignoredExitReasons then .ok vcpu
  else .error (.keBugCheckEx exitReason)

/-- `HVM_CALL_MAGIC`. -/
def hvmCallMagic : UInt64 := 0xCAFEBABE

/-- `HVM_INTERNAL_SERVICE_STOP`. -/
def hvmInternalServiceStop : UInt64 := 0

/-- `HvmHandleService`. -/
def hvmHandleService (vcpu : Vcpu) : Except Halt Vcpu :=
  let service := vcpu.registers.rcx
  let vcpu := instrRipAdvance vcpu
  if service = hvmInternalServiceStop then .error .hvmpStop
  else .ok { vcpu with
    registers := { vcpu.registers with
      -- (UINT32)STATUS_UNSUCCESSFUL
      rax := 0xC0000001
      rflags := vcpu.registers.rflags ||| rflagsCf } }

/-- `InfoBasic.Bits.Reason`. -/
def Vcpu.exitReason (vcpu : Vcpu) : UInt32 := vcpu.vmcs.exitReason &&& 0xFFFF

/-- The registers completed from the VMCS at the start of `HvmpExitHandler`. -/
def loadGuestRegisters (vcpu : Vcpu) : Vcpu :=
  { vcpu with
    registers := { vcpu.registers with
      rsp := vcpu.vmcs.guestRsp
      rip := vcpu.vmcs.guestRip
      rflags := vcpu.vmcs.guestRflags } }

/-- Their way back at its end. -/
def storeGuestRegisters (vcpu : Vcpu) : Vcpu :=
  { vcpu with
    vmcs := { vcpu.vmcs with
      guestRsp := vcpu.registers.rsp
      guestRip := vcpu.registers.rip
      guestRflags := vcpu.registers.rflags } }

/-- `HvmpExitHandler`. -/
def hvmpExitHandler (others : OtherHandlers) (env : ExitEnvironment) (vcpu : Vcpu) :
    Except Halt Vcpu := do
  let reason := vcpu.exitReason
  let vcpu := loadGuestRegisters vcpu
  let vcpu ←
    if reason = exitReasonVmcall ∧ vcpu.registers.rax = hvmCallMagic then hvmHandleService vcpu
    else dsHvmExitHandler others env reason vcpu
  return storeGuestRegisters vcpu

end DeepShield.Vmx
