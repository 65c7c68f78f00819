import DeepShield.Pm.ProcessTable
import DeepShield.Vmx.Exits

/-!
# The handlers behind the switch

`HvmVcpuCommonExitsHandler` answers INVD, XSETBV, MSR accesses and the VMX
instructions, `CrAccessHandler` MOV CR. Each handler advances RIP itself, or
injects a fault instead.

An MSR access and an XSETBV that pass the handler's checks are made in root mode,
where the processor may refuse them with an exception of its own. No handler
catches it, so none of them returns from it.
-/

namespace DeepShield.Vmx

/-- `LOW32`, as a 64-bit value. -/
def low32 (x : UInt64) : UInt64 := x &&& 0xFFFFFFFF

/-- `HIGH32`, as a 64-bit value. -/
def high32 (x : UInt64) : UInt64 := x >>> 32

/-- `EDX:EAX`. -/
def edxEax (registers : GpRegisters) : UInt64 :=
  (low32 registers.rdx <<< 32) ||| low32 registers.rax

/-- `LOW32( Registers->Rcx )`. -/
def ecx (registers : GpRegisters) : UInt32 := registers.rcx.toUInt32

/-! ## Injecting -/

/-- The faults the handlers inject. -/
inductive InjectedFault
  | ud
  | gp
deriving Repr, DecidableEq

/-- `VmInjectUdException`. -/
def vmInjectUdException (vcpu : Vcpu) : Vcpu :=
  vmInjectHardwareException
    (vmxIntInfoValid ||| (interruptHardwareException <<< 8) ||| vectorInvalidOpcodeException) vcpu

/-- `VmInjectGpException`. -/
def vmInjectGpException (errorCode : UInt32) (vcpu : Vcpu) : Vcpu :=
  { vcpu with
    vmcs := { vcpu.vmcs with
      vmEntryExceptionErrorCode := errorCode
      vmEntryInterruptionInformation :=
        vmxIntInfoValid ||| (exceptionType vectorGeneralProtectionException <<< 8) |||
          vectorGeneralProtectionException
      vmEntryInstructionLength := 0 } }

/-- Either of them. -/
def injectFault (vcpu : Vcpu) : InjectedFault → Vcpu
  | .ud => vmInjectUdException vcpu
  | .gp => vmInjectGpException 0 vcpu

/-! ## XSETBV -/

/-- `XFEATURE_ENABLED_X87`. -/
def xfeatureEnabledX87 : UInt64 := 0x1

/-- `XFEATURE_ENABLED_AVX`. -/
def xfeatureEnabledAvx : UInt64 := 0x4

/-- `XFEATURE_ENABLED_BNDREGS`. -/
def xfeatureEnabledBndregs : UInt64 := 0x8

/-- `XFEATURE_ENABLED_BNDCSR`. -/
def xfeatureEnabledBndcsr : UInt64 := 0x10

/-- `XFEATURE_AVX`. -/
def xfeatureAvx : UInt64 := 0x7

/-- `XFEATURE_AVX512`. -/
def xfeatureAvx512 : UInt64 := 0xE0

/-- `IsXStateEnabled`. -/
def isXStateEnabled (vcpu : Vcpu) : Bool := vcpu.vmcs.cr4.guestCr4 &&& cr4Osxsave ≠ 0

/-- `Xcr0Value`. -/
def xcr0Value (registers : GpRegisters) : UInt64 := (registers.rdx <<< 32) ||| low32 registers.rax

/-- The values of XCR0 that `InstrXsetbvEmulate` refuses. -/
def xcr0Refused (value : UInt64) : Bool :=
  value &&& xfeatureEnabledX87 ≠ 0 ∨
    (value &&& xfeatureEnabledAvx ≠ 0 ∧ value &&& xfeatureAvx ≠ xfeatureAvx) ∨
    (value &&& xfeatureAvx512 ≠ 0 ∧
      value &&& (xfeatureAvx512 ||| xfeatureAvx) ≠ (xfeatureAvx512 ||| xfeatureAvx)) ∨
    -- two different bits, so equal only where both are clear
    value &&& xfeatureEnabledBndregs ≠ value &&& xfeatureEnabledBndcsr

/-- The checks of `InstrXsetbvEmulate`: the fault it injects, none if it goes on
to write XCR0. -/
def xsetbvFault (vcpu : Vcpu) : Option InjectedFault :=
  if vcpu.registers.rcx ≠ 0 then some .gp
  else if isXStateEnabled vcpu = false then some .ud
  else if xcr0Refused (xcr0Value vcpu.registers) then some .gp
  else none

/-- `InstrXsetbvEmulate`, and `InstrRipAdvance` if it returns TRUE. -/
def instrXsetbvEmulate (env : ExitEnvironment) (vcpu : Vcpu) : Except Halt Vcpu :=
  match xsetbvFault vcpu with
  | some fault => .ok (injectFault vcpu fault)
  | none =>
    if env.xsetbv (ecx vcpu.registers) (xcr0Value vcpu.registers) then .ok (instrRipAdvance vcpu)
    else .error .rootException

/-! ## MSRs -/

/-- `IA32_FS_BASE`. -/
def ia32FsBase : UInt32 := 0xC0000100

/-- `HvmMsrHandlerRegistered`. -/
def hvmMsrHandlerRegistered (registers : GpRegisters) : Bool := ecx registers == ia32FsBase

/-- The value of an MSR, read into EDX:EAX. -/
def setEdxEax (value : UInt64) (vcpu : Vcpu) : Vcpu :=
  { vcpu with
    registers := { vcpu.registers with rax := low32 value, rdx := high32 value } }

/-- `HvmHandleMsrReadFsBase`. -/
def hvmHandleMsrReadFsBase (vcpu : Vcpu) : Vcpu := setEdxEax vcpu.vmcs.guestFsBase vcpu

/-- `HvmHandleMsrWriteFsBase`. -/
def hvmHandleMsrWriteFsBase (env : ExitEnvironment) (vcpu : Vcpu) : Vcpu :=
  let enableTsd := !Td.flagOn env.pmGetClientTrustLevel Pm.trustLevelExempted
  { vcpu with
    vmcs := { vcpu.vmcs with
      guestFsBase := edxEax vcpu.registers
      cr4 := hvmTrimTsdForQuantum env.cr4Fixed enableTsd vcpu.vmcs.cr4 } }

/-- `InstrMsrReadEmulate`. -/
def instrMsrReadEmulate (env : ExitEnvironment) (vcpu : Vcpu) : Except Halt Vcpu :=
  match env.rdmsr (ecx vcpu.registers) with
  | some value => .ok (setEdxEax value vcpu)
  | none => .error .rootException

/-- `InstrMsrWriteEmulate`. -/
def instrMsrWriteEmulate (env : ExitEnvironment) (vcpu : Vcpu) : Except Halt Vcpu :=
  if env.wrmsr (ecx vcpu.registers) (edxEax vcpu.registers) then .ok vcpu
  else .error .rootException

/-! ## The common handler -/

/-- `EXIT_REASON_INVD`. -/
def exitReasonInvd : UInt32 := 13

/-- `EXIT_REASON_MSR_READ`. -/
def exitReasonMsrRead : UInt32 := 31

/-- `EXIT_REASON_MSR_WRITE`. -/
def exitReasonMsrWrite : UInt32 := 32

/-- `EXIT_REASON_XSETBV`. -/
def exitReasonXsetbv : UInt32 := 55

/-- VMXON, VMXOFF, VMCLEAR, VMRESUME, VMLAUNCH, VMPTRLD, VMPTRST, VMREAD,
VMWRITE, INVEPT and INVVPID. -/
def vmxInstructionExits : List UInt32 := [27, 26, 19, 24, 20, 21, 22, 23, 25, 50, 53]

/-- The resume flag of RFLAGS. -/
def rflagsRf : UInt64 := 0x10000

/-- The answer to a VMX instruction. -/
def refuseVmxInstruction (vcpu : Vcpu) : Vcpu :=
  let vcpu := vmInjectUdException vcpu
  let rflags := vcpu.registers.rflags ||| rflagsRf
  { vcpu with
    registers := { vcpu.registers with rflags := rflags }
    vmcs := { vcpu.vmcs with guestRflags := rflags } }

/-- `HvmVcpuCommonExitsHandler`. -/
def hvmVcpuCommonExitsHandler (env : ExitEnvironment) (exitReason : UInt32) (vcpu : Vcpu) :
    Except Halt Vcpu :=
  if exitReason = exitReasonInvd then .ok (instrRipAdvance vcpu)
  else if exitReason = exitReasonXsetbv then instrXsetbvEmulate env vcpu
  else if exitReason ∈ vmxInstructionExits then .ok (refuseVmxInstruction vcpu)
  else if exitReason = exitReasonMsrRead then
    if hvmMsrHandlerRegistered vcpu.registers then
      .ok (instrRipAdvance (hvmHandleMsrReadFsBase vcpu))
    else (instrMsrReadEmulate env vcpu).map instrRipAdvance
  else if exitReason = exitReasonMsrWrite then
    if hvmMsrHandlerRegistered vcpu.registers then
      .ok (instrRipAdvance (hvmHandleMsrWriteFsBase env vcpu))
    else (instrMsrWriteEmulate env vcpu).map instrRipAdvance
  else .ok vcpu

/-! ## Control registers -/

/-- `*LookupGpr( Registers, Gpr )`; the field has four bits, so the last register
is 15. -/
def lookupGpr (registers : GpRegisters) (gpr : Nat) : UInt64 :=
  match gpr with
  | 0 => registers.rax
  | 1 => registers.rcx
  | 2 => registers.rdx
  | 3 => registers.rbx
  | 4 => registers.rsp
  | 5 => registers.rbp
  | 6 => registers.rsi
  | 7 => registers.rdi
  | 8 => registers.r8
  | 9 => registers.r9
  | 10 => registers.r10
  | 11 => registers.r11
  | 12 => registers.r12
  | 13 => registers.r13
  | 14 => registers.r14
  | _ => registers.r15

/-- `*LookupGpr( Registers, Gpr ) = value`. -/
def assignGpr (registers : GpRegisters) (gpr : Nat) (value : UInt64) : GpRegisters :=
  match gpr with
  | 0 => { registers with rax := value }
  | 1 => { registers with rcx := value }
  | 2 => { registers with rdx := value }
  | 3 => { registers with rbx := value }
  | 4 => { registers with rsp := value }
  | 5 => { registers with rbp := value }
  | 6 => { registers with rsi := value }
  | 7 => { registers with rdi := value }
  | 8 => { registers with r8 := value }
  | 9 => { registers with r9 := value }
  | 10 => { registers with r10 := value }
  | 11 => { registers with r11 := value }
  | 12 => { registers with r12 := value }
  | 13 => { registers with r13 := value }
  | 14 => { registers with r14 := value }
  | _ => { registers with r15 := value }

/-- `IA32_CONTROL_REGISTERS`. -/
inductive Ia32ControlRegisters
  | cr0
  | cr3
  | cr4
  | cr8
  | unsupported
deriving Repr, DecidableEq

/-- `LookupCr[Qualification.CrAccess.Number]`. The table ends at 8, and the
processor reports no other number. -/
def lookupCr (qualification : UInt64) : Ia32ControlRegisters :=
  match (qualification &&& 0xF).toNat with
  | 0 => .cr0
  | 3 => .cr3
  | 4 => .cr4
  | 8 => .cr8
  | _ => .unsupported

/-- `CR_ACCESS_TYPE_*`. -/
inductive CrAccessType
  | movToCr
  | movFromCr
  | clts
  | lmsw
deriving Repr, DecidableEq

/-- `Qualification.CrAccess.AccessType`. -/
def accessType (qualification : UInt64) : CrAccessType :=
  match ((qualification >>> 4) &&& 3).toNat with
  | 0 => .movToCr
  | 1 => .movFromCr
  | 2 => .clts
  | _ => .lmsw

/-- `Qualification.CrAccess.MoveGp`. -/
def moveGp (qualification : UInt64) : Nat := ((qualification >>> 8) &&& 0xF).toNat

/-- `IsXStateSupported`. -/
def isXStateSupported (env : ExitEnvironment) : Bool :=
  match env.cpuidex cpuidFeatureInformation 0 with
  | (_, _, ecx, _) => ecx &&& 0x4000000 ≠ 0 ∧ ecx &&& 0x8000000 ≠ 0

/-- `InstrCr4Emulate`. -/
def instrCr4Emulate (env : ExitEnvironment) (qualification : UInt64) (vcpu : Vcpu) : Vcpu :=
  match accessType qualification with
  | .movToCr =>
    let operand := lookupGpr vcpu.registers (moveGp qualification)
    let cr4 := vmMakeCompliantCr4 env.cr4Fixed (vmGetGuestVisibleCr4 vcpu.vmcs.cr4 operand)
    { vcpu with
      hostStateCr4 := operand
      vmcs := { vcpu.vmcs with
        cr4 := instrCr4MovTo env.cr4Fixed operand vcpu.vmcs.cr4
        hostCr4 :=
          if cr4 &&& cr4Osxsave ≠ 0 then
            if isXStateSupported env then env.readCr4 ||| cr4Osxsave else vcpu.vmcs.hostCr4
          else env.readCr4 &&& ~~~cr4Osxsave } }
  | .movFromCr =>
    { vcpu with
      registers := assignGpr vcpu.registers (moveGp qualification) vcpu.vmcs.cr4.guestCr4 }
  | .clts | .lmsw => vcpu

/-- `InstrCr3Emulate`. -/
def instrCr3Emulate (qualification : UInt64) (vcpu : Vcpu) : Vcpu :=
  match accessType qualification with
  | .movToCr =>
    { vcpu with
      vmcs := { vcpu.vmcs with guestCr3 := lookupGpr vcpu.registers (moveGp qualification) } }
  | .movFromCr =>
    { vcpu with
      registers := assignGpr vcpu.registers (moveGp qualification) vcpu.vmcs.guestCr3 }
  | .clts | .lmsw => vcpu

/-- `CrAccessHandler`. -/
def crAccessHandler (env : ExitEnvironment) (vcpu : Vcpu) : Except Halt Vcpu :=
  let qualification := vcpu.vmcs.exitQualification
  let vcpu :=
    match lookupCr qualification with
    | .cr4 => instrCr4Emulate env qualification vcpu
    | .cr3 => instrCr3Emulate qualification vcpu
    | .cr0 | .cr8 | .unsupported => vcpu
  .ok (instrRipAdvance vcpu)

/-- The handlers of DeepShield. -/
def deepShieldHandlers : OtherHandlers := ⟨hvmVcpuCommonExitsHandler, crAccessHandler⟩

end DeepShield.Vmx
