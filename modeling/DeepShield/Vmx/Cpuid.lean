import DeepShield.Vmx.Handlers
import DeepShield.Vmx.UserExits

/-!
# What CPUID leaves in the registers

The processor writes the four 32-bit results of CPUID to RAX, RBX, RCX and RDX and
clears their upper halves. `InstrCpuidEmulate` reads the results into `INT32` and casts
them to `UINTN`, which extends the sign: a result with bit 31 set arrives with an upper
half of ones (`int32ToUintn_eq_iff`), and the masks that `CpuidEmulate` then applies do
not clear it. The one exception is a build that hides RTM, whose mask is the complement
of a 32-bit constant and has no upper half.

`cpuidArchitectural_iff` is about every leaf but the two signature leaves, every
processor and both builds.
-/

namespace DeepShield.Vmx

open DeepShield.Lib

/-- What the guest is to see of the results of a leaf: the hypervisor bit, no RTM if the
build hides it, and the rest as the processor has it. -/
def cpuidVisible (removeTsxSupport : Bool) (env : ExitEnvironment) (function subLeaf : UInt32) :
    UInt32 × UInt32 × UInt32 × UInt32 :=
  match env.cpuidex function subLeaf with
  | (eax, ebx, ecx, edx) =>
    (eax,
      if HidesRtm removeTsxSupport function subLeaf then ebx &&& ~~~cpuidLeaf7h0hEbxRtm else ebx,
      if function = cpuidFeatureInformation then ecx ||| cpuidLeaf1hEcxHypervisorBit else ecx,
      edx)

/-- The four registers hold the results in their lower halves, and nothing in the upper
ones. -/
def CpuidArchitectural (removeTsxSupport : Bool) (env : ExitEnvironment) (vcpu vcpu' : Vcpu) :
    Prop :=
  match cpuidVisible removeTsxSupport env vcpu.registers.rax.toUInt32
      vcpu.registers.rcx.toUInt32 with
  | (eax, ebx, ecx, edx) =>
    vcpu'.registers.rax = eax.toUInt64 ∧ vcpu'.registers.rbx = ebx.toUInt64 ∧
      vcpu'.registers.rcx = ecx.toUInt64 ∧ vcpu'.registers.rdx = edx.toUInt64

/-- No result has bit 31 set, EBX where RTM is hidden apart. -/
def CpuidPositive (removeTsxSupport : Bool) (env : ExitEnvironment) (function subLeaf : UInt32) :
    Prop :=
  match env.cpuidex function subLeaf with
  | (eax, ebx, ecx, edx) =>
    eax < 0x80000000 ∧ (HidesRtm removeTsxSupport function subLeaf ∨ ebx < 0x80000000) ∧
      ecx < 0x80000000 ∧ edx < 0x80000000

instance (removeTsxSupport : Bool) (env : ExitEnvironment) (function subLeaf : UInt32) :
    Decidable (CpuidPositive removeTsxSupport env function subLeaf) :=
  inferInstanceAs (Decidable (_ ∧ _ ∧ _ ∧ _))

/-! ## Signs -/

section Sign

variable {x mask : UInt32}

/-- A value of 32 bits has no bit 63. -/
theorem bit_toUInt64_sign (x : UInt32) : bit x.toUInt64 63 = false := by
  unfold bit
  rw [UInt32.toNat_toUInt64]
  exact Nat.testBit_lt_two_pow (Nat.lt_trans x.toNat_lt (by decide))

/-- Bit 63 of a value that was cast is its bit 31. -/
theorem bit_int32ToUintn_sign (x : UInt32) :
    bit (int32ToUintn x) 63 = decide (0x80000000 ≤ x) := by
  have hsign : bit (int32ToUintn x) 63 = x.toBitVec.msb := by
    show (x.toBitVec.signExtend 64).toNat.testBit 63 = x.toBitVec.msb
    rw [BitVec.testBit_toNat, BitVec.getLsbD_signExtend]
    simp
  rw [hsign, BitVec.msb_eq_decide]
  rfl

theorem int32ToUintn_of_lt (h : x < 0x80000000) : int32ToUintn x = x.toUInt64 := by
  have hmsb : x.toBitVec.msb = false := by
    rw [BitVec.msb_eq_decide]
    exact decide_eq_false (Nat.not_le_of_lt (UInt32.lt_iff_toNat_lt.mp h))
  refine UInt64.toBitVec_inj.mp ?_
  exact BitVec.signExtend_eq_setWidth_of_msb_false hmsb

/-- The lower half is the value. -/
theorem int32ToUintn_low (x : UInt32) : int32ToUintn x &&& 0xFFFFFFFF = x.toUInt64 := by
  refine eq_of_bit fun i hi => ?_
  show ((x.toBitVec.signExtend 64) &&& 0xFFFFFFFF#64).toNat.testBit i
    = (x.toBitVec.setWidth 64).toNat.testBit i
  rw [BitVec.testBit_toNat, BitVec.testBit_toNat, BitVec.getLsbD_and, BitVec.getLsbD_signExtend,
    BitVec.getLsbD_setWidth]
  by_cases hlow : i < 32
  · have hones : (0xFFFFFFFF#64).getLsbD i = true := by
      have hall : ∀ j < 32, (0xFFFFFFFF#64).getLsbD j = true := by decide
      exact hall i hlow
    simp [hlow, hi, hones]
  · have hzeros : (0xFFFFFFFF#64).getLsbD i = false := by
      have hall : ∀ j < 64, 32 ≤ j → (0xFFFFFFFF#64).getLsbD j = false := by decide
      exact hall i hi (Nat.le_of_not_lt hlow)
    rw [hzeros, BitVec.getLsbD_of_ge _ _ (Nat.le_of_not_lt hlow), Bool.and_false, Bool.and_false]

/-- **Setting bits** of a result that was cast gives the result with these bits exactly
if its sign was clear. -/
theorem int32ToUintn_or_iff :
    int32ToUintn x ||| mask.toUInt64 = (x ||| mask).toUInt64 ↔ x < 0x80000000 := by
  constructor
  · intro heq
    have hsign := bit_congr heq 63
    rw [bit_or, bit_int32ToUintn_sign, bit_toUInt64_sign, bit_toUInt64_sign, Bool.or_false,
      decide_eq_false_iff_not] at hsign
    exact UInt32.not_le.mp hsign
  · intro hlt
    rw [int32ToUintn_of_lt hlt, ← UInt32.toUInt64_or]

/-- **A result that was cast** is the result exactly if its sign was clear. -/
theorem int32ToUintn_eq_iff : int32ToUintn x = x.toUInt64 ↔ x < 0x80000000 := by
  have hor := @int32ToUintn_or_iff x 0
  have hzero : (0 : UInt32).toUInt64 = 0 := rfl
  rwa [hzero, UInt64.or_zero, UInt32.or_zero] at hor

/-- Clearing bits with a mask of 32 bits clears the upper half with them. -/
theorem int32ToUintn_and : int32ToUintn x &&& mask.toUInt64 = (x &&& mask).toUInt64 := by
  have hmask : mask.toUInt64 = 0xFFFFFFFF &&& mask.toUInt64 := by
    rw [← int32ToUintn_low mask, UInt64.and_comm (int32ToUintn mask), ← UInt64.and_assoc]
    rfl
  rw [hmask, ← UInt64.and_assoc, int32ToUintn_low, UInt32.toUInt64_and]

end Sign

/-! ## One exit -/

/-- Advancing leaves the registers of the results alone. -/
theorem instrRipAdvance_results (vcpu : Vcpu) :
    (instrRipAdvance vcpu).registers.rax = vcpu.registers.rax ∧
      (instrRipAdvance vcpu).registers.rbx = vcpu.registers.rbx ∧
      (instrRipAdvance vcpu).registers.rcx = vcpu.registers.rcx ∧
      (instrRipAdvance vcpu).registers.rdx = vcpu.registers.rdx := by
  unfold instrRipAdvance
  dsimp only
  split
  next => exact ⟨rfl, rfl, rfl, rfl⟩
  next => exact ⟨rfl, rfl, rfl, rfl⟩

/-- **CPUID is architectural** exactly where the results have bit 31 clear, whatever the
leaf, the processor and the build. -/
theorem cpuidArchitectural_iff (removeTsxSupport : Bool) (env : ExitEnvironment) {vcpu : Vcpu}
    (hvendor : vcpu.registers.rax.toUInt32 ≠ cpuidVmmVendorSignature)
    (hinterface : vcpu.registers.rax.toUInt32 ≠ cpuidVmmInterfaceSignature) :
    CpuidArchitectural removeTsxSupport env vcpu (cpuidEmulateBuilt removeTsxSupport env vcpu) ↔
      CpuidPositive removeTsxSupport env vcpu.registers.rax.toUInt32
        vcpu.registers.rcx.toUInt32 := by
  obtain ⟨hrax, hrbx, hrcx, hrdx⟩ := instrRipAdvance_results { vcpu with
    registers := cpuidMask removeTsxSupport vcpu.registers.rax.toUInt32
      vcpu.registers.rcx.toUInt32 (instrCpuidEmulate env vcpu.registers) }
  unfold CpuidArchitectural CpuidPositive cpuidVisible cpuidEmulateBuilt
  dsimp only
  rw [if_neg hvendor, if_neg hinterface, hrax, hrbx, hrcx, hrdx, cpuidMask_eq]
  dsimp only
  unfold instrCpuidEmulate
  refine and_congr int32ToUintn_eq_iff (and_congr ?_ (and_congr ?_ int32ToUintn_eq_iff))
  · by_cases hhides : HidesRtm removeTsxSupport vcpu.registers.rax.toUInt32
        vcpu.registers.rcx.toUInt32
    · rw [if_pos hhides, if_pos hhides]
      exact iff_of_true int32ToUintn_and (Or.inl hhides)
    · rw [if_neg hhides, if_neg hhides]
      exact int32ToUintn_eq_iff.trans (or_iff_right hhides).symm
  · by_cases hfeature : vcpu.registers.rax.toUInt32 = cpuidFeatureInformation
    · rw [if_pos hfeature, if_pos hfeature]
      exact int32ToUintn_or_iff
    · rw [if_neg hfeature, if_neg hfeature]
      exact int32ToUintn_eq_iff

/-- The leaf with the feature information, of a processor whose results are zero. -/
theorem cpuidArchitectural_zero :
    CpuidArchitectural false bareEnvironment (userExitOf exitReasonCpuid 2 1 0)
      (cpuidEmulateBuilt false bareEnvironment (userExitOf exitReasonCpuid 2 1 0)) :=
  (cpuidArchitectural_iff false bareEnvironment (by decide) (by decide)).mpr (by decide)

/-- The highest extended leaf is reported in EAX as 0x80000008, and arrives in RAX as
0xFFFFFFFF80000008. -/
theorem not_cpuidArchitectural_extended :
    ¬ CpuidArchitectural false
        { bareEnvironment with cpuidex := fun _ _ => (0x80000008, 0, 0, 0) }
        (userExitOf exitReasonCpuid 2 0x80000000 0)
        (cpuidEmulateBuilt false
          { bareEnvironment with cpuidex := fun _ _ => (0x80000008, 0, 0, 0) }
          (userExitOf exitReasonCpuid 2 0x80000000 0)) := by
  intro h
  exact absurd h.1 (by decide)

end DeepShield.Vmx
