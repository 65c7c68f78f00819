import DeepShield.Os.NtStatus
import DeepShield.Vmx.Quantum

/-!
# Leaving VMX operation

The stop service takes a processor out of VMX operation while the guest runs on.
`HvmpStop` puts what the VMCS has of the guest into the processor itself, in place of the
host's: CR0, CR3, CR4 and the bases of FS and GS. What monitoring had set in CR4 has to go
on the way, TSD in `HvmpRestoreHostState` and VMXE in `VmxpDisable`.

The guest should not notice: afterwards CR4 is what the guest read just before
(`Transparent`). Both bits are host-owned, and the guest reads VMXE clear, so clearing
VMXE is right. But TSD it reads as it last wrote it, and the stop clears TSD whatever that
was. `devirtualise_iff`: after any run, the stop is transparent exactly if the guest's
last move to CR4 had TSD clear.
-/

namespace DeepShield.Vmx

open DeepShield.Lib DeepShield.Os

/-! ## The processor -/

/-- The part of `HOST_SAVED_STATE` that the stop service restores. -/
structure HostSavedState where
  cs : UInt16
  ss : UInt16
  ds : UInt16
  es : UInt16
  fs : UInt16
  gdt : UInt64 × UInt16
  idt : UInt64 × UInt16
deriving Repr, DecidableEq, Inhabited

/-- The VMCS fields of the guest that only the stop service reads. -/
structure StopVmcs where
  guestCr0 : UInt64
  guestGsBase : UInt64
deriving Repr, DecidableEq, Inhabited

/-- A processor. `vmx` is whether it is in VMX operation. -/
structure Processor where
  host : HostSavedState
  cr0 : UInt64
  cr3 : UInt64
  cr4 : UInt64
  fsBase : UInt64
  gsBase : UInt64
  vmx : Bool
  registers : GpRegisters
deriving Repr, DecidableEq, Inhabited

/-! ## Setting up -/

/-- `VmcsSetGuestField`, then `DsHvmSetupVmcs`, on a processor. -/
def setupVmcs (fixed : Cr4Fixed) (processor : Processor) (vcpu : Vcpu) : Vcpu :=
  { vcpu with
    vmcs := { vcpu.vmcs with
      guestCr3 := processor.cr3
      cr4 := dsHvmSetupVmcs fixed processor.cr4
      guestFsBase := processor.fsBase } }

/-! ## The stop service -/

/-- `HvmpRestoreHostState`. -/
def hvmpRestoreHostState (host : HostSavedState) (stop : StopVmcs) (vmcs : Vmcs)
    (processor : Processor) : Processor :=
  { processor with
    host := { processor.host with
      ds := host.ds
      es := host.es
      fs := host.fs
      gdt := host.gdt
      idt := host.idt }
    fsBase := vmcs.guestFsBase
    gsBase := stop.guestGsBase
    cr0 := stop.guestCr0
    -- disable TSD monitoring
    cr4 := vmcs.cr4.guestCr4 &&& ~~~cr4Tsd
    cr3 := vmcs.guestCr3 }

/-- `RestoreHostCr4Vmxe`. -/
def restoreHostCr4Vmxe (enable : Bool) (processor : Processor) : Processor :=
  { processor with
    cr4 := if enable then processor.cr4 ||| cr4Vmxe else processor.cr4 &&& ~~~cr4Vmxe }

/-- `VmxpDisable`. -/
def vmxpDisable (processor : Processor) : Processor :=
  restoreHostCr4Vmxe false { processor with vmx := false }

/-- `AsmHvmpStop`: the registers are restored, and the IRET takes RIP, RFLAGS, RSP
and the two selectors from the frame. -/
def asmHvmpStop (cs ss : UInt16) (registers : GpRegisters) (processor : Processor) : Processor :=
  { processor with
    registers := registers
    host := { processor.host with
      cs := cs
      ss := ss } }

/-- `HvmpStop`. -/
def hvmpStop (host : HostSavedState) (stop : StopVmcs) (vcpu : Vcpu) (processor : Processor) :
    Processor :=
  asmHvmpStop host.cs host.ss vcpu.registers
    (vmxpDisable (hvmpRestoreHostState host stop vcpu.vmcs processor))

/-- The branch `HVM_INTERNAL_SERVICE_STOP` of `HvmHandleService`, which ends in
`HvmpStop`. -/
def hvmHandleServiceStop (host : HostSavedState) (stop : StopVmcs) (vcpu : Vcpu)
    (processor : Processor) : Processor :=
  let vcpu := instrRipAdvance vcpu
  hvmpStop host stop
    { vcpu with registers := { vcpu.registers with rax := statusSuccess.toUInt64 } } processor

/-! ## Runs -/

/-- What the guest's exit brings with it. -/
structure GuestExit where
  registers : GpRegisters
  exitReason : UInt32
  exitQualification : UInt64
  exitInstructionLength : UInt32
deriving Repr, DecidableEq, Inhabited

/-- A virtual processor at an exit. -/
def atExit (exit : GuestExit) (vcpu : Vcpu) : Vcpu :=
  { vcpu with
    registers := exit.registers
    vmcs := { vcpu.vmcs with
      exitReason := exit.exitReason
      exitQualification := exit.exitQualification
      exitInstructionLength := exit.exitInstructionLength
      guestRsp := exit.registers.rsp
      guestRip := exit.registers.rip
      guestRflags := exit.registers.rflags } }

/-- An exit by MOV to CR4. -/
structure GuestExit.MovToCr4 (exit : GuestExit) : Prop where
  reason : exit.exitReason &&& 0xFFFF = exitReasonCrAccess
  cr : lookupCr exit.exitQualification = .cr4
  access : accessType exit.exitQualification = .movToCr

/-- An exit by WRMSR to `IA32_FS_BASE`. -/
structure GuestExit.WrmsrFsBase (exit : GuestExit) : Prop where
  reason : exit.exitReason &&& 0xFFFF = exitReasonMsrWrite
  index : ecx exit.registers = ia32FsBase

/-- A VMCALL for the stop service. -/
structure GuestExit.StopCall (exit : GuestExit) : Prop where
  reason : exit.exitReason &&& 0xFFFF = exitReasonVmcall
  magic : exit.registers.rax = hvmCallMagic
  service : exit.registers.rcx = hvmInternalServiceStop

instance (exit : GuestExit) : Decidable exit.MovToCr4 :=
  decidable_of_iff (exit.exitReason &&& 0xFFFF = exitReasonCrAccess ∧
      lookupCr exit.exitQualification = .cr4 ∧ accessType exit.exitQualification = .movToCr)
    ⟨fun h => ⟨h.1, h.2.1, h.2.2⟩, fun h => ⟨h.reason, h.cr, h.access⟩⟩

instance (exit : GuestExit) : Decidable exit.WrmsrFsBase :=
  decidable_of_iff (exit.exitReason &&& 0xFFFF = exitReasonMsrWrite ∧
      ecx exit.registers = ia32FsBase)
    ⟨fun h => ⟨h.1, h.2⟩, fun h => ⟨h.reason, h.index⟩⟩

/-- The operand of a MOV to CR4. -/
def GuestExit.operand (exit : GuestExit) : UInt64 :=
  lookupGpr exit.registers (moveGp exit.exitQualification)

/-- What happens on a processor between its start and its stop. -/
inductive GuestEvent
  | movToCr4 (env : ExitEnvironment) (exit : GuestExit)
  | wrmsrFsBase (env : ExitEnvironment) (exit : GuestExit)
  | hvmTrimTsdForQuantum (enableTsd : Bool)

/-- A virtual processor, with what its guest wrote last: the base of FS, which at first
is the processor's, and the operand of its last move to CR4, if it made one. -/
structure Virtualised where
  vcpu : Vcpu
  fsBase : UInt64
  lastMove : Option UInt64

/-- A processor is virtualised. -/
def Virtualised.start (fixed : Cr4Fixed) (processor : Processor) (vcpu : Vcpu) : Virtualised where
  vcpu := setupVmcs fixed processor vcpu
  fsBase := processor.fsBase
  lastMove := none

/-- One exit, or one switch of TSD. -/
def guestStep (fixed : Cr4Fixed) (s : Virtualised) : GuestEvent → Option Virtualised
  | .movToCr4 env exit =>
    if exit.MovToCr4 then
      match hvmpExitHandler deepShieldHandlers { env with cr4Fixed := fixed }
          (atExit exit s.vcpu) with
      | .ok vcpu => some { s with vcpu := vcpu, lastMove := some exit.operand }
      | .error _ => none
    else none
  | .wrmsrFsBase env exit =>
    if exit.WrmsrFsBase then
      match hvmpExitHandler deepShieldHandlers { env with cr4Fixed := fixed }
          (atExit exit s.vcpu) with
      | .ok vcpu => some { s with vcpu := vcpu, fsBase := edxEax exit.registers }
      | .error _ => none
    else none
  | .hvmTrimTsdForQuantum enableTsd =>
    some { s with
      vcpu := { s.vcpu with
        vmcs := { s.vcpu.vmcs with
          cr4 := hvmTrimTsdForQuantum fixed enableTsd s.vcpu.vmcs.cr4 } } }

/-! ## Transparency -/

/-- The guest goes on behind its VMCALL as if it had never been one: CR4 is what it read,
FS has the base it wrote last, CR3 is its own, and only RAX is new. -/
structure Transparent (s : Virtualised) (exit : GuestExit) (processor : Processor) : Prop where
  cr4 : processor.cr4 = guestReads s.vcpu.vmcs.cr4
  fsBase : processor.fsBase = s.fsBase
  cr3 : processor.cr3 = s.vcpu.vmcs.guestCr3
  rip : processor.registers.rip = exit.registers.rip + exit.exitInstructionLength.toUInt64
  rax : processor.registers.rax = statusSuccess.toUInt64
  others : { processor.registers with
      rax := exit.registers.rax
      rip := exit.registers.rip
      rflags := exit.registers.rflags } = exit.registers

/-- The guest's last move to CR4, if it made one, had TSD clear. -/
def LastMoveTsdClear (s : Virtualised) : Prop :=
  ∀ operand, s.lastMove = some operand → operand &&& cr4Tsd = 0

/-- A stop call is taken, and transparent, whatever the processor holds of the host. -/
def StopTransparent (s : Virtualised) : Prop :=
  ∀ (env : ExitEnvironment) (exit : GuestExit) (host : HostSavedState) (stop : StopVmcs)
    (processor : Processor), exit.StopCall →
    hvmpExitHandler deepShieldHandlers env (atExit exit s.vcpu) = .error .hvmpStop ∧
      Transparent s exit (hvmHandleServiceStop host stop
        (loadGuestRegisters (atExit exit s.vcpu)) processor)

section Stop

variable {vmcs : Cr4Vmcs} {s : Virtualised} {exit : GuestExit}

/-- The host-owned bits hide what monitoring and VMX operation need. -/
theorem HostOwned.guestReads_eq (h : HostOwned vmcs) :
    guestReads vmcs = (vmcs.guestCr4 &&& ~~~cr4Tsd &&& ~~~cr4Vmxe) ||| vmcs.cr4ReadShadow := by
  refine eq_of_bit fun i hi => ?_
  have hshadow := @Within.bit vmcs.cr4ReadShadow cr4Tsd i h.shadow
  rw [bit_guestReads hi, h.bit_mask, bit_or, bit_and, bit_and, bit_not hi, bit_not hi]
  cases hset : bit vmcs.cr4ReadShadow i with
  | false =>
    cases bit vmcs.guestCr4 i <;> cases bit cr4Tsd i <;> cases bit cr4Vmxe i <;> rfl
  | true => rw [hshadow hset, Bool.or_true, Bool.and_true, Bool.or_true, Bool.or_true]

/-- **CR4 after the stop** is what the guest read exactly if the shadow is clear. -/
theorem HostOwned.stopped_iff (h : HostOwned vmcs) :
    vmcs.guestCr4 &&& ~~~cr4Tsd &&& ~~~cr4Vmxe = guestReads vmcs ↔ vmcs.cr4ReadShadow = 0 := by
  rw [h.guestReads_eq]
  constructor
  · intro heq
    refine eq_of_bit fun i hi => ?_
    have hbit := bit_congr heq i
    rw [bit_or, bit_and, bit_and, bit_not hi, bit_not hi] at hbit
    rw [bit_zero]
    cases hset : bit vmcs.cr4ReadShadow i with
    | false => rfl
    | true =>
      -- TSD, which the stop has cleared
      rw [h.shadow.bit hset, hset, Bool.not_true, Bool.and_false, Bool.false_and,
        Bool.false_or] at hbit
      exact absurd hbit (by decide)
  · intro hzero
    rw [hzero, UInt64.or_zero]

/-- A stop call is taken. -/
theorem GuestExit.StopCall.taken (h : exit.StopCall) (env : ExitEnvironment) (vcpu : Vcpu) :
    hvmpExitHandler deepShieldHandlers env (atExit exit vcpu) = .error .hvmpStop := by
  have hvmcall : (atExit exit vcpu).exitReason = exitReasonVmcall ∧
      (loadGuestRegisters (atExit exit vcpu)).registers.rax = hvmCallMagic := ⟨h.reason, h.magic⟩
  have hstop : hvmHandleService (loadGuestRegisters (atExit exit vcpu)) = .error .hvmpStop := by
    unfold hvmHandleService
    exact if_pos h.service
  unfold hvmpExitHandler
  simp only [if_pos hvmcall, hstop]
  rfl

/-- Advancing leaves CR3 as it is, too. -/
theorem instrRipAdvance_guestCr3 (vcpu : Vcpu) :
    (instrRipAdvance vcpu).vmcs.guestCr3 = vcpu.vmcs.guestCr3 := by
  unfold instrRipAdvance
  dsimp only
  split
  next => rfl
  next => rfl

/-- **All of the guest but CR4** is there after the stop. -/
theorem transparent_iff_cr4 (hfsBase : s.vcpu.vmcs.guestFsBase = s.fsBase)
    (host : HostSavedState) (stop : StopVmcs) (processor : Processor) :
    Transparent s exit (hvmHandleServiceStop host stop
        (loadGuestRegisters (atExit exit s.vcpu)) processor) ↔
      s.vcpu.vmcs.cr4.guestCr4 &&& ~~~cr4Tsd &&& ~~~cr4Vmxe = guestReads s.vcpu.vmcs.cr4 := by
  obtain ⟨hcr4, hbase, rip, rflags, hregisters⟩ :=
    instrRipAdvance_keeps (loadGuestRegisters (atExit exit s.vcpu))
  have hstopped : (hvmHandleServiceStop host stop
      (loadGuestRegisters (atExit exit s.vcpu)) processor).cr4
        = s.vcpu.vmcs.cr4.guestCr4 &&& ~~~cr4Tsd &&& ~~~cr4Vmxe := by
    show (instrRipAdvance _).vmcs.cr4.guestCr4 &&& ~~~cr4Tsd &&& ~~~cr4Vmxe = _
    rw [hcr4]
    rfl
  constructor
  · intro h
    rw [← hstopped]
    exact h.cr4
  · intro h
    refine ⟨hstopped.trans h, ?_, ?_, ?_, rfl, ?_⟩
    · exact hbase.trans hfsBase
    · exact instrRipAdvance_guestCr3 _
    · exact instrRipAdvance_rip (loadGuestRegisters (atExit exit s.vcpu))
    · show { (instrRipAdvance (loadGuestRegisters (atExit exit s.vcpu))).registers with
        rax := exit.registers.rax
        rip := exit.registers.rip
        rflags := exit.registers.rflags } = exit.registers
      rw [hregisters]
      rfl

end Stop

/-! ## What a run keeps -/

/-- The VMCS shows the guest what it wrote last. -/
structure VirtualisedInv (s : Virtualised) : Prop where
  owned : HostOwned s.vcpu.vmcs.cr4
  shadow : s.vcpu.vmcs.cr4.cr4ReadShadow = s.lastMove.getD 0 &&& cr4Tsd
  fsBase : s.vcpu.vmcs.guestFsBase = s.fsBase

section Step

variable {fixed : Cr4Fixed} {s s' : Virtualised} {exit : GuestExit}

theorem virtualisedInv_start (fixed : Cr4Fixed) (processor : Processor) (vcpu : Vcpu) :
    VirtualisedInv (Virtualised.start fixed processor vcpu) where
  owned := hostOwned_dsHvmSetupVmcs fixed processor.cr4
  shadow := by
    show (0 : UInt64) &&& _ = 0 &&& cr4Tsd
    rw [UInt64.zero_and, UInt64.zero_and]
  fsBase := rfl

/-- Switching TSD is not for the guest to see. -/
theorem hvmTrimTsdForQuantum_shadow {vmcs : Cr4Vmcs} (enableTsd : Bool) :
    (hvmTrimTsdForQuantum fixed enableTsd vmcs).cr4ReadShadow = vmcs.cr4ReadShadow := by
  rcases hvmTrimTsdForQuantum_cases fixed enableTsd vmcs with hsame | hswitched
  · rw [hsame]
  · rw [hswitched]

/-- The exit for a MOV to CR4. -/
theorem hvmpExitHandler_movToCr4 (env : ExitEnvironment) (h : exit.MovToCr4) (vcpu : Vcpu) :
    hvmpExitHandler deepShieldHandlers env (atExit exit vcpu) = .ok (storeGuestRegisters
      (instrRipAdvance (instrCr4Emulate env exit.exitQualification
        (loadGuestRegisters (atExit exit vcpu))))) := by
  have hreason : (atExit exit vcpu).exitReason = exitReasonCrAccess := h.reason
  have hcr : crAccessHandler env (loadGuestRegisters (atExit exit vcpu))
      = .ok (instrRipAdvance (instrCr4Emulate env exit.exitQualification
        (loadGuestRegisters (atExit exit vcpu)))) := by
    have hlookup : lookupCr (loadGuestRegisters (atExit exit vcpu)).vmcs.exitQualification
        = .cr4 := h.cr
    unfold crAccessHandler
    simp only [hlookup]
    rfl
  have hswitch : dsHvmExitHandler deepShieldHandlers env exitReasonCrAccess
      (loadGuestRegisters (atExit exit vcpu)) = .ok (instrRipAdvance (instrCr4Emulate env
        exit.exitQualification (loadGuestRegisters (atExit exit vcpu)))) := by
    rw [dsHvmExitHandler, if_neg (by decide), if_neg (by decide), if_pos rfl]
    exact hcr
  exact hvmpExitHandler_handled hreason (by decide) hswitch

/-- Emulating it: CR4 is moved to, and the base of FS stays. -/
theorem instrCr4Emulate_movToCr4 (env : ExitEnvironment) (h : exit.MovToCr4) (vcpu : Vcpu) :
    (instrCr4Emulate env exit.exitQualification
        (loadGuestRegisters (atExit exit vcpu))).vmcs.cr4
        = instrCr4MovTo env.cr4Fixed exit.operand vcpu.vmcs.cr4 ∧
      (instrCr4Emulate env exit.exitQualification
        (loadGuestRegisters (atExit exit vcpu))).vmcs.guestFsBase = vcpu.vmcs.guestFsBase := by
  unfold instrCr4Emulate
  rw [h.access]
  exact ⟨rfl, rfl⟩

/-- **An exit keeps it**, and so does a switch of TSD. -/
theorem VirtualisedInv.step {event : GuestEvent} (h : VirtualisedInv s)
    (hstep : guestStep fixed s event = some s') : VirtualisedInv s' := by
  cases event with
  | movToCr4 env exit =>
    by_cases hmov : exit.MovToCr4
    · obtain ⟨hcr4, hbase, _⟩ := instrRipAdvance_keeps (instrCr4Emulate
        { env with cr4Fixed := fixed } exit.exitQualification
          (loadGuestRegisters (atExit exit s.vcpu)))
      obtain ⟨hmoved, hkept⟩ :=
        instrCr4Emulate_movToCr4 { env with cr4Fixed := fixed } hmov s.vcpu
      rw [guestStep, if_pos hmov, hvmpExitHandler_movToCr4 _ hmov] at hstep
      obtain rfl := Option.some.inj hstep
      refine ⟨?_, ?_, ?_⟩
      · show HostOwned (instrRipAdvance _).vmcs.cr4
        rw [hcr4, hmoved]
        exact h.owned.moved.1
      · show (instrRipAdvance _).vmcs.cr4.cr4ReadShadow = exit.operand &&& cr4Tsd
        rw [hcr4, hmoved]
        exact h.owned.shadow_movTo
      · show (instrRipAdvance _).vmcs.guestFsBase = s.fsBase
        rw [hbase, hkept]
        exact h.fsBase
    · rw [guestStep, if_neg hmov] at hstep
      exact absurd hstep (by simp)
  | wrmsrFsBase env exit =>
    by_cases hwrmsr : exit.WrmsrFsBase
    · have hreason : (atExit exit s.vcpu).exitReason = exitReasonMsrWrite := hwrmsr.reason
      have hindex : ecx (atExit exit s.vcpu).registers = ia32FsBase := hwrmsr.index
      obtain ⟨hcr4, hbase, _⟩ := instrRipAdvance_keeps (hvmHandleMsrWriteFsBase
        { env with cr4Fixed := fixed } (loadGuestRegisters (atExit exit s.vcpu)))
      rw [guestStep, if_pos hwrmsr, hvmpExitHandler_fsBase _ hreason hindex] at hstep
      obtain rfl := Option.some.inj hstep
      refine ⟨?_, ?_, ?_⟩
      · show HostOwned (instrRipAdvance _).vmcs.cr4
        rw [hcr4]
        exact h.owned.trim _
      · show (instrRipAdvance _).vmcs.cr4.cr4ReadShadow = _
        rw [hcr4]
        exact (hvmTrimTsdForQuantum_shadow _).trans h.shadow
      · exact hbase
    · rw [guestStep, if_neg hwrmsr] at hstep
      exact absurd hstep (by simp)
  | hvmTrimTsdForQuantum enableTsd =>
    obtain rfl := Option.some.inj hstep
    exact ⟨h.owned.trim enableTsd, (hvmTrimTsdForQuantum_shadow enableTsd).trans h.shadow,
      h.fsBase⟩

/-- After a run, the shadow has the TSD of the guest's last move to CR4. -/
theorem VirtualisedInv.shadow_eq_zero (h : VirtualisedInv s) :
    s.vcpu.vmcs.cr4.cr4ReadShadow = 0 ↔ LastMoveTsdClear s := by
  rw [h.shadow]
  unfold LastMoveTsdClear
  cases s.lastMove with
  | none => simp
  | some operand => simp

/-- **The stop, after any run.** -/
theorem VirtualisedInv.stopTransparent_iff (h : VirtualisedInv s) :
    StopTransparent s ↔ LastMoveTsdClear s := by
  have hshadow := h.shadow_eq_zero
  constructor
  · intro hstop
    have hcall : GuestExit.StopCall
        { registers := { (default : GpRegisters) with rax := hvmCallMagic }
          exitReason := exitReasonVmcall
          exitQualification := 0
          exitInstructionLength := 3 } := ⟨by decide, rfl, rfl⟩
    have hcr4 := (transparent_iff_cr4 h.fsBase default default default).mp
      (hstop bareEnvironment _ default default default hcall).2
    exact hshadow.mp (h.owned.stopped_iff.mp hcr4)
  · intro hclear env exit host stop processor hcall
    refine ⟨hcall.taken env s.vcpu, (transparent_iff_cr4 h.fsBase host stop processor).mpr ?_⟩
    exact h.owned.stopped_iff.mpr (hshadow.mpr hclear)

end Step

/-- **Devirtualisation is transparent exactly if the guest's last move to CR4 had TSD
clear**, whatever run of exits and switches of TSD came before the stop. -/
theorem devirtualise_iff (fixed : Cr4Fixed) (processor : Processor) (vcpu : Vcpu)
    (events : List GuestEvent) :
    Always (guestStep fixed) (fun s => StopTransparent s ↔ LastMoveTsdClear s)
      (Virtualised.start fixed processor vcpu) events :=
  always_of_inv (fun h => h.stopTransparent_iff) (fun h hstep => h.step hstep)
    (virtualisedInv_start fixed processor vcpu)

/-- A MOV of RAX to CR4, with 0x506FC in RAX: TSD, and what a system has there. -/
def movTsd : GuestExit where
  registers := { (default : GpRegisters) with rax := 0x506FC, rip := 0xFFFFF80002A81000 }
  exitReason := exitReasonCrAccess
  exitQualification := 4
  exitInstructionLength := 3

/-- After it, a stop: the guest had TSD set, and finds it clear. -/
theorem not_devirtualise_tsd :
    ¬ Always (guestStep (vmInitializeVmState someConstraints)) StopTransparent
      (Virtualised.start (vmInitializeVmState someConstraints)
        { (default : Processor) with cr4 := 0x506F8 } (userExitOf exitReasonCrAccess 3 0 0))
      [.movToCr4 bareEnvironment movTsd] := by
  intro halways
  have hmov : movTsd.MovToCr4 := ⟨by decide, by decide, by decide⟩
  have hstep : ∃ s', guestStep (vmInitializeVmState someConstraints)
      (Virtualised.start (vmInitializeVmState someConstraints)
        { (default : Processor) with cr4 := 0x506F8 } (userExitOf exitReasonCrAccess 3 0 0))
      (.movToCr4 bareEnvironment movTsd) = some s' ∧ s'.lastMove = some 0x506FC := by
    rw [guestStep, if_pos hmov, hvmpExitHandler_movToCr4 _ hmov]
    exact ⟨_, rfl, rfl⟩
  obtain ⟨s', hstep, hlast⟩ := hstep
  have hinv := (virtualisedInv_start _ _ _).step hstep
  have hclear := hinv.stopTransparent_iff.mp (halways.2 s' hstep) _ hlast
  exact absurd hclear (by decide)

end DeepShield.Vmx
