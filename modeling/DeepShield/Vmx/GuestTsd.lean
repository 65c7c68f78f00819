import DeepShield.Vmx.Devirtualise
import DeepShield.Vmx.TimeStamp

/-!
# The guest's own TSD

TSD is the host's while a processor is virtualised. What the guest has of it is a bit in
the read shadow, and for the guest that bit should be TSD: the one its system had set
when the VMCS was set up, the one it writes and reads afterwards, and the one that says
whether user code may read the time stamp.

Moves to CR4 keep the second part (`reads_back`). The first and the last fail.
`VmSetPrivilegedTimeStamp` combines the shadow with the bit that was set by AND, and the
shadow is still zero, so the bit is lost (`setupInvisible_iff`). And the exception
handler emulates every RDTSC of user code; the shadow is written, but nothing reads it
there (`tsdHonoured_iff`).
-/

namespace DeepShield.Vmx

open DeepShield.Lib DeepShield.Mmu DeepShield.Os DeepShield.Td

/-! ## Set up -/

/-- `VmxpEnable`; `asmVmxOn` is whether VMXON succeeds. -/
def vmxpEnable (asmVmxOn : Bool) (processor : Processor) : NtStatus × Processor :=
  let processor := restoreHostCr4Vmxe true processor
  if asmVmxOn then (statusSuccess, { processor with vmx := true })
  else (statusUnsuccessful, restoreHostCr4Vmxe false processor)

/-- The capability MSRs allow a CR4. -/
def Cr4Legal (constraints : Cr4Constraints) (cr4 : UInt64) : Prop :=
  Within constraints.cr4Maybe0 cr4 ∧ Within cr4 constraints.cr4Maybe1

/-- After the set up, the guest reads the CR4 the processor had, VMXE apart. -/
def SetupInvisible (constraints : Cr4Constraints) (processor : Processor) (vcpu : Vcpu) : Prop :=
  guestReads (setupVmcs (vmInitializeVmState constraints) processor vcpu).vmcs.cr4
    = processor.cr4 &&& ~~~cr4Vmxe

section Setup

variable {constraints : Cr4Constraints}

/-- What is legal is compliant. -/
theorem Cr4Legal.compliant_eq {cr4 : UInt64} (h : Cr4Legal constraints cr4) :
    vmMakeCompliantCr4 (vmInitializeVmState constraints) cr4 = cr4 :=
  @Enterable.compliant_eq constraints ⟨cr4, 0, 0⟩ h

/-- **What the guest reads after the set up**: everything but the two bits of the host. -/
theorem Cr4Legal.guestReads_setup {processor : Processor} (h : Cr4Legal constraints processor.cr4)
    (vcpu : Vcpu) :
    guestReads (setupVmcs (vmInitializeVmState constraints) processor vcpu).vmcs.cr4
      = processor.cr4 &&& ~~~cr4Tsd &&& ~~~cr4Vmxe := by
  have hreads := (hostOwned_dsHvmSetupVmcs (vmInitializeVmState constraints)
    processor.cr4).guestReads_eq
  have hguest : (dsHvmSetupVmcs (vmInitializeVmState constraints) processor.cr4).guestCr4
      = processor.cr4 ||| cr4Tsd := by
    show vmMakeCompliantCr4 (vmInitializeVmState constraints) processor.cr4 ||| cr4Tsd = _
    rw [h.compliant_eq]
  have hshadow : (dsHvmSetupVmcs (vmInitializeVmState constraints) processor.cr4).cr4ReadShadow
      = 0 := UInt64.zero_and
  rw [hguest, hshadow, UInt64.or_zero] at hreads
  refine hreads.trans (eq_of_bit fun i hi => ?_)
  rw [bit_and, bit_and, bit_and, bit_and, bit_or, bit_not hi]
  cases bit cr4Tsd i with
  | false => rw [Bool.or_false]
  | true => rw [Bool.not_true, Bool.and_false, Bool.and_false]

/-- Enabling sets VMXE, and leaves TSD alone. -/
theorem vmxpEnable_tsd {asmVmxOn : Bool} {processor enabled : Processor}
    (h : vmxpEnable asmVmxOn processor = (statusSuccess, enabled)) :
    bit enabled.cr4 2 = bit processor.cr4 2 := by
  have hother : bit cr4Vmxe 2 = false := by decide
  cases asmVmxOn with
  | true =>
    obtain rfl := (Prod.mk.inj h).2
    show bit (processor.cr4 ||| cr4Vmxe) 2 = _
    rw [bit_or, hother, Bool.or_false]
  | false => exact absurd (Prod.mk.inj h).1 (by decide)

/-- **The set up is invisible in CR4** exactly if the system had TSD clear. -/
theorem setupInvisible_iff {asmVmxOn : Bool} {processor enabled : Processor}
    (henable : vmxpEnable asmVmxOn processor = (statusSuccess, enabled))
    (hlegal : Cr4Legal constraints enabled.cr4) (vcpu : Vcpu) :
    SetupInvisible constraints enabled vcpu ↔ processor.cr4 &&& cr4Tsd = 0 := by
  rw [SetupInvisible, hlegal.guestReads_setup, and_tsd_eq_zero, ← vmxpEnable_tsd henable]
  constructor
  · intro heq
    have htsd := bit_congr heq 2
    rw [bit_and, bit_and, bit_and, bit_not (by decide), bit_not (by decide)] at htsd
    cases hset : bit enabled.cr4 2 with
    | false => rfl
    | true =>
      rw [hset] at htsd
      exact absurd htsd (by decide)
  · intro hclear
    refine eq_of_bit fun i hi => ?_
    rw [bit_and, bit_and, bit_and, bit_not hi, bit_cr4Tsd i hi]
    by_cases htwo : i = 2
    · rw [htwo, hclear, Bool.false_and, Bool.false_and]
    · rw [decide_eq_false htwo, Bool.not_false, Bool.and_true]

end Setup

/-- A processor whose system has not set TSD. -/
theorem setupInvisible_clear :
    SetupInvisible someConstraints { (default : Processor) with cr4 := 0x526F8, vmx := true }
      (userExitOf exitReasonCpuid 2 1 0) :=
  (@setupInvisible_iff someConstraints true { (default : Processor) with cr4 := 0x506F8 } _ rfl
    (by unfold Cr4Legal; decide) (userExitOf exitReasonCpuid 2 1 0)).mpr (by decide)

/-- One whose system has. -/
theorem not_setupInvisible_tsd :
    vmxpEnable true { (default : Processor) with cr4 := 0x506FC }
        = (statusSuccess, { (default : Processor) with cr4 := 0x526FC, vmx := true }) ∧
      Cr4Legal someConstraints 0x526FC ∧
      ¬ SetupInvisible someConstraints { (default : Processor) with cr4 := 0x526FC, vmx := true }
        (userExitOf exitReasonCpuid 2 1 0) := by
  unfold Cr4Legal SetupInvisible
  decide

/-! ## Reading the time stamp -/

/-- A #GP for an RDTSC or RDTSCP of user code. -/
structure TscFault (env : ExitEnvironment) (vcpu : Vcpu) : Prop where
  exception : hwExceptionUdOrGp vcpu.vmcs.exitInterruptionInformation = true
  gp : vectorOf vcpu.vmcs.exitInterruptionInformation = vectorGeneralProtectionException
  instruction : (tscInstructionAt env vcpu).1 ≠ none

/-- The fault is queued for the guest again; nothing else of the guest has changed, and
no event is recorded. -/
structure Reinjected (vcpu vcpu' : Vcpu) : Prop where
  valid : vcpu'.vmcs.vmEntryInterruptionInformation &&& vmxIntInfoValid ≠ 0
  vector : vectorOf vcpu'.vmcs.vmEntryInterruptionInformation = vectorGeneralProtectionException
  registers : vcpu'.registers = vcpu.registers
  tscHits : vcpu'.tscHits = vcpu.tscHits
  effects : vcpu'.effects = vcpu.effects

/-- While the guest reads TSD as set, the faults of its user code are its own. -/
def TsdHonoured (s : Virtualised) : Prop :=
  ∀ (env : ExitEnvironment) (vcpu : Vcpu), vcpu.vmcs.cr4 = s.vcpu.vmcs.cr4 → TscFault env vcpu →
    s.vcpu.vmcs.cr4.cr4ReadShadow &&& cr4Tsd ≠ 0 →
    ∃ vcpu', dsHvmExitHandler deepShieldHandlers env exitReasonException vcpu = .ok vcpu' ∧
      Reinjected vcpu vcpu'

section Fault

variable {env : ExitEnvironment} {vcpu : Vcpu} {s : Virtualised}

/-- The decision to emulate looks at RIP, CR3 and the slots, and not at CR4. -/
theorem tscInstructionAt_cr4 (env : ExitEnvironment) (vcpu : Vcpu) (cr4 : Cr4Vmcs) :
    tscInstructionAt env { vcpu with vmcs := { vcpu.vmcs with cr4 := cr4 } }
      = tscInstructionAt env vcpu := rfl

/-- **What is emulated is not reinjected**, at the latest where RIP moves. -/
theorem TscFault.not_reinjected (h : TscFault env vcpu)
    (hlength : vcpu.vmcs.exitInstructionLength ≠ 0) :
    ¬ ∃ vcpu', dsHvmExitHandler deepShieldHandlers env exitReasonException vcpu = .ok vcpu' ∧
      Reinjected vcpu vcpu' := by
  obtain ⟨instruction, hsome⟩ := Option.ne_none_iff_exists'.mp h.instruction
  have hat : tscInstructionAt env vcpu = (some instruction, (tscInstructionAt env vcpu).2) :=
    Prod.ext hsome rfl
  rw [dsHvmExitHandler_emulates h.exception hat]
  rintro ⟨vcpu', hok, hreinjected⟩
  cases hprocess : processTscEvent env
      { vcpu with
        registers := instruction.stamped env vcpu.registers
        mmu := (tscInstructionAt env vcpu).2 } with
  | error halt =>
    rw [hprocess] at hok
    cases hok
  | ok recorded =>
    rw [hprocess] at hok
    cases hok
    obtain ⟨hregisters, hkept⟩ := processTscEvent_keeps hprocess
    have hrip : (instrRipAdvance recorded).registers.rip
        = vcpu.registers.rip + vcpu.vmcs.exitInstructionLength.toUInt64 := by
      rw [instrRipAdvance_rip, hregisters, hkept]
      rfl
    rw [hreinjected.registers] at hrip
    exact add_length_ne hlength hrip.symm

/-- An RDTSC faults under any CR4. -/
theorem tscFault_rdtsc (cr4 : Cr4Vmcs) :
    TscFault rdtscEnvironment
      { rdtscExit 2 with vmcs := { (rdtscExit 2).vmcs with cr4 := cr4 } } where
  exception := by
    show hwExceptionUdOrGp 0x80000B0D = true
    decide
  gp := by
    show vectorOf 0x80000B0D = vectorGeneralProtectionException
    decide
  instruction := by
    rw [tscInstructionAt_cr4]
    decide +kernel

/-- **TSD is honoured** where it is clear, and only there. -/
theorem tsdHonoured_of_shadow :
    TsdHonoured s ↔ s.vcpu.vmcs.cr4.cr4ReadShadow &&& cr4Tsd = 0 := by
  constructor
  · intro hhonoured
    by_contra hset
    have hfault := tscFault_rdtsc s.vcpu.vmcs.cr4
    exact hfault.not_reinjected (show (2 : UInt32) ≠ 0 by decide) (hhonoured _ _ rfl hfault hset)
  · intro hclear env vcpu _ _ hset
    exact absurd hclear hset

/-- After a run, that is the TSD of the guest's last move to CR4. -/
theorem VirtualisedInv.shadow_tsd (h : VirtualisedInv s) :
    s.vcpu.vmcs.cr4.cr4ReadShadow &&& cr4Tsd = 0 ↔ LastMoveTsdClear s := by
  have hwithin : s.vcpu.vmcs.cr4.cr4ReadShadow &&& cr4Tsd = s.vcpu.vmcs.cr4.cr4ReadShadow :=
    h.owned.shadow
  rw [hwithin, h.shadow_eq_zero]

end Fault

/-- **The guest's TSD is honoured exactly if its last move to CR4 had TSD clear**, in
every state of every run of moves to CR4 and switches of the quantum. -/
theorem tsdHonoured_iff (fixed : Cr4Fixed) (processor : Processor) (vcpu : Vcpu)
    (events : List GuestEvent) :
    Always (guestStep fixed) (fun s => TsdHonoured s ↔ LastMoveTsdClear s)
      (Virtualised.start fixed processor vcpu) events :=
  always_of_inv (fun h => tsdHonoured_of_shadow.trans h.shadow_tsd)
    (fun h hstep => h.step hstep) (virtualisedInv_start fixed processor vcpu)

/-- After a move with TSD set, an RDTSC of user code is emulated. -/
theorem not_tsdHonoured_moved :
    ¬ Always (guestStep (vmInitializeVmState someConstraints)) TsdHonoured
      (Virtualised.start (vmInitializeVmState someConstraints)
        { (default : Processor) with cr4 := 0x526F8 } (userExitOf exitReasonCrAccess 3 0 0))
      [.movToCr4 bareEnvironment movTsd] := by
  intro halways
  have hmov : movTsd.MovToCr4 := ⟨by decide, by decide, by decide⟩
  have hstep : ∃ s', guestStep (vmInitializeVmState someConstraints)
      (Virtualised.start (vmInitializeVmState someConstraints)
        { (default : Processor) with cr4 := 0x526F8 } (userExitOf exitReasonCrAccess 3 0 0))
      (.movToCr4 bareEnvironment movTsd) = some s' ∧ s'.lastMove = some 0x506FC := by
    rw [guestStep, if_pos hmov, hvmpExitHandler_movToCr4 _ hmov]
    exact ⟨_, rfl, rfl⟩
  obtain ⟨s', hstep, hlast⟩ := hstep
  have hshadow := ((virtualisedInv_start _ _ _).step hstep).shadow_tsd.mp
    (tsdHonoured_of_shadow.mp (halways.2 s' hstep)) _ hlast
  exact absurd hshadow (by decide)

end DeepShield.Vmx
