import DeepShield.Td.GuestCode
import DeepShield.Vmx.Completion

/-!
# The time stamp as the guest reads it

RDTSC returns the time stamp in EDX:EAX, RDTSCP the processor's number in ECX besides,
and the guest goes on behind the instruction. The emulation decodes the instruction from
the guest's memory, sets the registers, has the detector process the event, and leaves
the last step to `InstrRipAdvance`.

That adds `EXIT_INSTRUCTION_LENGTH`, a field the processor fills in for instructions
that exit. #GP and #UD exit as exceptions, and leave whatever is there; the sizes that
the opcode gives (`RDTSC_INS_SIZE`, `RDTSCP_INS_SIZE`) are defined and not used.
`tscArchitectural_iff` is about every content of the field.
-/

namespace DeepShield.Vmx

open DeepShield.Mmu DeepShield.Td

/-- The registers behind the instruction. -/
def TscInstruction.execute (env : ExitEnvironment) (registers : GpRegisters) :
    TscInstruction → GpRegisters
  | .rdtsc =>
    { registers with
      rax := env.ia32Tsc.toUInt32.toUInt64
      rdx := (env.ia32Tsc >>> 32).toUInt32.toUInt64
      rip := registers.rip + 2 }
  | .rdtscp =>
    { registers with
      rax := env.ia32Tsc.toUInt32.toUInt64
      rdx := (env.ia32Tsc >>> 32).toUInt32.toUInt64
      rcx := env.ia32TscAux.toUInt32.toUInt64
      rip := registers.rip + 3 }

/-- The exit returns with the registers behind the instruction, RFLAGS apart. -/
def TscArchitectural (env : ExitEnvironment) (instruction : TscInstruction) (vcpu : Vcpu) : Prop :=
  ∃ vcpu', dsHvmExitHandler deepShieldHandlers env exitReasonException vcpu = .ok vcpu' ∧
    { vcpu'.registers with rflags := vcpu.registers.rflags }
      = instruction.execute env vcpu.registers

/-! ## Halves -/

section Halves

variable (x : UInt64)

theorem low_half : x.toUInt32.toUInt64 = x &&& 0xFFFFFFFF := by
  refine UInt64.toNat_inj.mp ?_
  rw [UInt64.toNat_and, UInt32.toNat_toUInt64, UInt64.toNat_toUInt32]
  exact (Nat.and_two_pow_sub_one_eq_mod x.toNat 32).symm

/-- The upper half is what the shift leaves. -/
theorem high_half : (x >>> 32).toUInt32.toUInt64 = x >>> 32 := by
  refine UInt64.toNat_inj.mp ?_
  have hshift : (x >>> 32).toNat = x.toNat / 2 ^ 32 := by
    rw [UInt64.toNat_shiftRight]
    exact Nat.shiftRight_eq_div_pow x.toNat 32
  have hlt : (x >>> 32).toNat < 2 ^ 32 := by
    rw [hshift]
    exact Nat.div_lt_of_lt_mul x.toNat_lt
  rw [UInt32.toNat_toUInt64, UInt64.toNat_toUInt32, Nat.mod_eq_of_lt hlt]

end Halves

/-! ## The emulation -/

section Emulation

variable {env : ExitEnvironment} {vcpu : Vcpu} {instruction : TscInstruction} {mmu : MmuPerCpu}

/-- The registers as the emulation leaves them to `InstrRipAdvance`. -/
def TscInstruction.stamped (env : ExitEnvironment) (registers : GpRegisters)
    (instruction : TscInstruction) : GpRegisters :=
  { instruction.execute env registers with rip := registers.rip }

/-- Either instruction is emulated by setting its registers and having the event
processed. -/
theorem dsHvmExceptionHandler_eq (h : tscInstructionAt env vcpu = (some instruction, mmu))
    (info : UInt32) : dsHvmExceptionHandler env info vcpu
      = emulateTsc env { vcpu with mmu := mmu } (instruction.stamped env vcpu.registers) := by
  unfold dsHvmExceptionHandler
  rw [h]
  cases instruction with
  | rdtsc =>
    unfold TscInstruction.stamped TscInstruction.execute
    dsimp only
    rw [low_half, high_half]
    rfl
  | rdtscp =>
    unfold TscInstruction.stamped TscInstruction.execute
    dsimp only
    rw [low_half, low_half, high_half]
    rfl

/-- Processing the event keeps the registers and the length. -/
theorem processTscEvent_keeps {recorded : Vcpu} (h : processTscEvent env vcpu = .ok recorded) :
    recorded.registers = vcpu.registers ∧
      recorded.vmcs.exitInstructionLength = vcpu.vmcs.exitInstructionLength := by
  unfold processTscEvent at h
  cases houtcome : tdProcessTscEvent vcpu.tscHits (tscEventOf env vcpu) with
  | none =>
    rw [houtcome] at h
    cases h
  | some outcome =>
    rw [houtcome] at h
    cases h
    exact ⟨rfl, rfl⟩

/-- It succeeds exactly if the event fits. -/
theorem processTscEvent_ok_iff (h : tscInstructionAt env vcpu = (some instruction, mmu)) :
    (∃ recorded, processTscEvent env
      { vcpu with
        registers := instruction.stamped env vcpu.registers
        mmu := mmu } = .ok recorded) ↔ EventFits env vcpu := by
  have hevent : tscEventOf env
      { vcpu with
        registers := instruction.stamped env vcpu.registers
        mmu := mmu } = tscEventOf env { vcpu with mmu := mmu } := rfl
  rw [eventFits_iff h]
  unfold processTscEvent
  rw [hevent]
  dsimp only
  cases tdProcessTscEvent vcpu.tscHits (tscEventOf env { vcpu with mmu := mmu }) with
  | none =>
    refine iff_of_false ?_ (fun hne => hne rfl)
    rintro ⟨recorded, herror⟩
    cases herror
  | some outcome => exact iff_of_true ⟨_, rfl⟩ (Option.some_ne_none outcome)

/-- Advancing, RFLAGS apart. -/
theorem instrRipAdvance_moved (vcpu : Vcpu) (rflags : UInt64) :
    { (instrRipAdvance vcpu).registers with rflags := rflags }
      = { vcpu.registers with
          rip := vcpu.registers.rip + vcpu.vmcs.exitInstructionLength.toUInt64
          rflags := rflags } := by
  unfold instrRipAdvance
  dsimp only
  split
  next => rfl
  next => rfl

/-- Behind the instruction, RIP is its length further. -/
theorem execute_eq (env : ExitEnvironment) (registers : GpRegisters)
    (instruction : TscInstruction) :
    instruction.execute env registers
      = { instruction.stamped env registers with
          rip := registers.rip + instruction.length.toUInt64 } := by
  cases instruction with
  | rdtsc => rfl
  | rdtscp => rfl

/-- #UD and #GP at an RDTSC or RDTSCP. -/
theorem dsHvmExitHandler_emulates
    (hexception : hwExceptionUdOrGp vcpu.vmcs.exitInterruptionInformation = true)
    (h : tscInstructionAt env vcpu = (some instruction, mmu)) :
    dsHvmExitHandler deepShieldHandlers env exitReasonException vcpu
      = (processTscEvent env
        { vcpu with
          registers := instruction.stamped env vcpu.registers
          mmu := mmu }).map instrRipAdvance := by
  rw [dsHvmExitHandler_exception deepShieldHandlers hexception, dsHvmExceptionHandler_eq h]
  rfl

/-- Once the event is processed, all depends on the length field. -/
theorem advance_eq_execute_iff {recorded : Vcpu}
    (h : processTscEvent env
      { vcpu with
        registers := instruction.stamped env vcpu.registers
        mmu := mmu } = .ok recorded) :
    { (instrRipAdvance recorded).registers with rflags := vcpu.registers.rflags }
        = instruction.execute env vcpu.registers ↔
      vcpu.vmcs.exitInstructionLength = instruction.length := by
  obtain ⟨hregisters, hlength⟩ := processTscEvent_keeps h
  have hmoved : { (instrRipAdvance recorded).registers with rflags := vcpu.registers.rflags }
      = { instruction.stamped env vcpu.registers with
          rip := vcpu.registers.rip + vcpu.vmcs.exitInstructionLength.toUInt64
          rflags := vcpu.registers.rflags } := by
    rw [instrRipAdvance_moved, hregisters, hlength]
    rfl
  have hbehind : instruction.execute env vcpu.registers
      = { instruction.stamped env vcpu.registers with
          rip := vcpu.registers.rip + instruction.length.toUInt64
          rflags := vcpu.registers.rflags } := by
    rw [execute_eq]
    cases instruction with
    | rdtsc => rfl
    | rdtscp => rfl
  rw [hmoved, hbehind]
  constructor
  · intro heq
    exact add_length_inj.mp (congrArg GpRegisters.rip heq)
  · intro hsame
    rw [hsame]

/-- What is architectural was processed, with the right length. -/
theorem TscArchitectural.processed
    (hexception : hwExceptionUdOrGp vcpu.vmcs.exitInterruptionInformation = true)
    (hat : tscInstructionAt env vcpu = (some instruction, mmu))
    (h : TscArchitectural env instruction vcpu) :
    vcpu.vmcs.exitInstructionLength = instruction.length ∧
      ∃ recorded, processTscEvent env
        { vcpu with
          registers := instruction.stamped env vcpu.registers
          mmu := mmu } = .ok recorded := by
  obtain ⟨vcpu', hok, heq⟩ := h
  rw [dsHvmExitHandler_emulates hexception hat] at hok
  cases hprocess : processTscEvent env
      { vcpu with
        registers := instruction.stamped env vcpu.registers
        mmu := mmu } with
  | error halt =>
    rw [hprocess] at hok
    cases hok
  | ok recorded =>
    rw [hprocess] at hok
    cases hok
    exact ⟨(advance_eq_execute_iff hprocess).mp heq, recorded, rfl⟩

end Emulation

/-- **The emulation is architectural** exactly if the length field happens to hold the
length of the instruction that was decoded, and the detector stays inside its buffer. -/
theorem tscArchitectural_iff (env : ExitEnvironment) {vcpu : Vcpu} {instruction : TscInstruction}
    (hexception : hwExceptionUdOrGp vcpu.vmcs.exitInterruptionInformation = true)
    (hemulated : (tscInstructionAt env vcpu).1 = some instruction) :
    TscArchitectural env instruction vcpu ↔
      vcpu.vmcs.exitInstructionLength = instruction.length ∧ EventFits env vcpu := by
  have hat : tscInstructionAt env vcpu = (some instruction, (tscInstructionAt env vcpu).2) :=
    Prod.ext hemulated rfl
  rw [← processTscEvent_ok_iff hat]
  constructor
  · exact TscArchitectural.processed hexception hat
  · rintro ⟨hlength, recorded, hprocess⟩
    refine ⟨instrRipAdvance recorded, ?_, (advance_eq_execute_iff hprocess).mpr hlength⟩
    rw [dsHvmExitHandler_emulates hexception hat, hprocess]
    rfl

/-- Every page is one that begins with RDTSC. -/
def rdtscPage : Lib.Mem := fun a =>
  if a = 0x6000 then 0x0F else if a = 0x6001 then 0x31 else onePage a

/-- The machine with these. -/
def rdtscEnvironment : ExitEnvironment :=
  { bareEnvironment with machine := ⟨rdtscPage, 0x2000, fun _ => 0⟩ }

/-- #GP at the beginning of a page, with the length field as it was left. -/
def rdtscExit (length : UInt32) : Vcpu :=
  { userExitOf exitReasonException length 0 0 with
    registers := { (default : GpRegisters) with rip := 0x9000 }
    vmcs := { (userExitOf exitReasonException length 0 0).vmcs with
      exitInterruptionInformation := 0x80000B0D
      guestCr3 := 0x1000 } }

/-- A length of two, left by an exit before. -/
theorem tscArchitectural_two : TscArchitectural rdtscEnvironment .rdtsc (rdtscExit 2) := by
  have hfits : EventFits rdtscEnvironment (rdtscExit 2) := by
    unfold EventFits
    decide +kernel
  exact (tscArchitectural_iff rdtscEnvironment (by decide) (by decide +kernel)).mpr ⟨rfl, hfits⟩

/-- A length of zero: the guest is resumed at the same RDTSC. -/
theorem not_tscArchitectural_zero :
    hwExceptionUdOrGp (rdtscExit 0).vmcs.exitInterruptionInformation = true ∧
      (tscInstructionAt rdtscEnvironment (rdtscExit 0)).1 = some .rdtsc ∧
      ¬ TscArchitectural rdtscEnvironment .rdtsc (rdtscExit 0) := by
  have hdecoded : (tscInstructionAt rdtscEnvironment (rdtscExit 0)).1 = some .rdtsc := by
    decide +kernel
  refine ⟨by decide, hdecoded, fun h => ?_⟩
  have hlength := (TscArchitectural.processed (by decide) (Prod.ext hdecoded rfl) h).1
  exact absurd hlength (by decide)

end DeepShield.Vmx
