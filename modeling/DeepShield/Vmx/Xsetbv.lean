import DeepShield.Lib.Bits
import DeepShield.Vmx.Handlers
import DeepShield.Vmx.UserExits

/-!
# What XSETBV lets through

XCR0 has rules: x87 state cannot be disabled, AVX needs SSE, AVX-512 is one block that
needs both, MPX has two bits that go together. A value that breaks one is answered with
#GP(0); any other is written, with the processor's own XSETBV.

`InstrXsetbvEmulate` lists the rules in its comment and tests the opposite of the first
one: it refuses a value *with* the x87 bit. As AVX and AVX-512 require that bit, they
are refused too, and so are the MPX bits, which are compared as different bits. What
remains is a value with no feature but SSE (`xcr0Refused_eq_false`), which the rules
forbid. `xsetbvExact_iff` says where the answer is right all the same.
-/

namespace DeepShield.Vmx

open DeepShield.Lib

/-- `XFEATURE_ENABLED_SSE`. -/
def xfeatureEnabledSse : UInt64 := 0x2

/-- The rules for XCR0, as documented. -/
structure Xcr0Documented (value : UInt64) : Prop where
  x87 : value &&& xfeatureEnabledX87 ≠ 0
  avx : value &&& xfeatureEnabledAvx ≠ 0 → value &&& xfeatureEnabledSse ≠ 0
  avx512 : value &&& xfeatureAvx512 ≠ 0 →
    value &&& xfeatureAvx512 = xfeatureAvx512 ∧ value &&& xfeatureEnabledAvx ≠ 0 ∧
      value &&& xfeatureEnabledSse ≠ 0
  mpx : value &&& xfeatureEnabledBndregs ≠ 0 ↔ value &&& xfeatureEnabledBndcsr ≠ 0

/-- The rules for XSETBV: there is no register but XCR0. -/
def XsetbvDocumented (registers : GpRegisters) : Prop :=
  ecx registers = 0 ∧ Xcr0Documented (edxEax registers)

/-- `__xsetbv` is executed with these operands: the processor decides about them, and
about nothing else. -/
def Executes (vcpu : Vcpu) (xcr : UInt32) (value : UInt64) : Prop :=
  ∀ env : ExitEnvironment, instrXsetbvEmulate env vcpu =
    if env.xsetbv xcr value then .ok (instrRipAdvance vcpu) else .error .rootException

/-- #GP(0) is queued, and nothing is executed. -/
def RaisesGp (vcpu : Vcpu) : Prop :=
  ∀ env : ExitEnvironment, instrXsetbvEmulate env vcpu = .ok (vmInjectGpException 0 vcpu)

/-- XSETBV is executed where the rules allow it, and refused elsewhere. -/
def XsetbvExact (vcpu : Vcpu) : Prop :=
  (XsetbvDocumented vcpu.registers → Executes vcpu 0 (edxEax vcpu.registers)) ∧
    (¬ XsetbvDocumented vcpu.registers → RaisesGp vcpu)

/-- Every feature bit with a rule: all but SSE. -/
def ruledFeatures : UInt64 := 0xFD

/-! ## Masks of a value -/

section Masks

variable {value a b : UInt64}

theorem and_or_eq_zero : value &&& (a ||| b) = 0 ↔ value &&& a = 0 ∧ value &&& b = 0 := by
  have hdistrib : value &&& (a ||| b) = (value &&& a) ||| (value &&& b) :=
    UInt64.toBitVec_inj.mp BitVec.and_or_distrib_left
  rw [hdistrib, UInt64.or_eq_zero_iff]

/-- A value that has all of a mask has every part of it. -/
theorem and_ne_zero_of_and_eq (h : value &&& a = a) (hpart : a &&& b ≠ 0) : value &&& b ≠ 0 := by
  intro hzero
  have hboth : (value &&& b) &&& a = a &&& b := by
    rw [UInt64.and_assoc, UInt64.and_comm b a, ← UInt64.and_assoc, h]
  rw [hzero, UInt64.zero_and] at hboth
  exact hpart hboth.symm

/-- Masking with two different bits gives the same only if both are clear. -/
theorem and_eq_and_iff (hdisjoint : a &&& b = 0) :
    value &&& a = value &&& b ↔ value &&& a = 0 ∧ value &&& b = 0 := by
  constructor
  · intro heq
    have ha : value &&& a = 0 := by
      calc value &&& a = (value &&& a) &&& a := by rw [UInt64.and_assoc, UInt64.and_self]
        _ = (value &&& b) &&& a := by rw [heq]
        _ = value &&& (a &&& b) := by rw [UInt64.and_assoc, UInt64.and_comm b a]
        _ = 0 := by rw [hdisjoint, UInt64.and_zero]
    exact ⟨ha, heq.symm.trans ha⟩
  · rintro ⟨ha, hb⟩
    rw [ha, hb]

end Masks

/-! ## The test of the source -/

/-- **What passes the test** has no feature but SSE. -/
theorem xcr0Refused_eq_false {value : UInt64} :
    xcr0Refused value = false ↔ value &&& ruledFeatures = 0 := by
  have hruled : ruledFeatures = xfeatureEnabledX87 ||| (xfeatureEnabledAvx ||| (xfeatureAvx512 |||
      (xfeatureEnabledBndregs ||| xfeatureEnabledBndcsr))) := by decide
  unfold xcr0Refused
  rw [decide_eq_false_iff_not, not_or, not_or, not_or, not_ne_iff, not_ne_iff,
    and_eq_and_iff (show xfeatureEnabledBndregs &&& xfeatureEnabledBndcsr = 0 by decide), hruled,
    and_or_eq_zero, and_or_eq_zero, and_or_eq_zero, and_or_eq_zero]
  refine and_congr_right fun hx87 => and_congr ?_ (and_congr ?_ Iff.rfl)
  · -- AVX would need the x87 bit
    have hneed : value &&& xfeatureAvx ≠ xfeatureAvx :=
      fun h => and_ne_zero_of_and_eq h (by decide) hx87
    rw [not_and_not_right]
    exact ⟨fun h => by_contra fun hset => hneed (h hset), fun h hset => absurd h hset⟩
  · have hneed : value &&& (xfeatureAvx512 ||| xfeatureAvx) ≠ xfeatureAvx512 ||| xfeatureAvx :=
      fun h => and_ne_zero_of_and_eq h (by decide) hx87
    rw [not_and_not_right]
    exact ⟨fun h => by_contra fun hset => hneed (h hset), fun h hset => absurd h hset⟩

/-- The value handed to the processor is EDX:EAX: the shift loses the upper half of
RDX. -/
theorem xcr0Value_eq (registers : GpRegisters) : xcr0Value registers = edxEax registers := by
  have hlow : low32 registers.rdx <<< 32 = registers.rdx <<< 32 := by
    calc low32 registers.rdx <<< 32 = (registers.rdx <<< 32) &&& ((0xFFFFFFFF : UInt64) <<< 32) :=
          UInt64.shiftLeft_and
      _ = (registers.rdx <<< 32) &&& ((-1 : UInt64) <<< 32) := rfl
      _ = (registers.rdx &&& -1) <<< 32 := UInt64.shiftLeft_and.symm
      _ = registers.rdx <<< 32 := by rw [UInt64.and_neg_one]
  unfold xcr0Value edxEax
  rw [hlow]

/-! ## The answer -/

section Answer

variable {vcpu : Vcpu}

/-- Where the guest has XSAVE enabled, the test leaves two ways. -/
theorem xsetbvFault_eq (hxsave : isXStateEnabled vcpu = true) :
    xsetbvFault vcpu = if vcpu.registers.rcx = 0 ∧
        edxEax vcpu.registers &&& ruledFeatures = 0 then none else some .gp := by
  unfold xsetbvFault
  rw [hxsave, xcr0Value_eq]
  by_cases hrcx : vcpu.registers.rcx = 0
  · rw [if_neg (not_not_intro hrcx), if_neg (by decide)]
    cases hrefused : xcr0Refused (edxEax vcpu.registers) with
    | false => rw [if_neg (by decide), if_pos ⟨hrcx, xcr0Refused_eq_false.mp hrefused⟩]
    | true =>
      rw [if_pos rfl, if_neg]
      rintro ⟨-, hclear⟩
      exact absurd (hrefused.symm.trans (xcr0Refused_eq_false.mpr hclear)) (by decide)
  · rw [if_pos hrcx, if_neg fun h => hrcx h.1]

theorem raisesGp_of_fault (h : xsetbvFault vcpu = some .gp) : RaisesGp vcpu := by
  intro env
  unfold instrXsetbvEmulate
  rw [h]
  rfl

theorem executes_of_fault (h : xsetbvFault vcpu = none) :
    Executes vcpu (ecx vcpu.registers) (xcr0Value vcpu.registers) := by
  intro env
  unfold instrXsetbvEmulate
  rw [h]

/-- A processor that refuses tells executing from injecting. -/
theorem not_raisesGp_of_executes {xcr : UInt32} {value : UInt64} (h : Executes vcpu xcr value) :
    ¬ RaisesGp vcpu := by
  intro hraises
  have hrefused := h { bareEnvironment with xsetbv := fun _ _ => false }
  rw [hraises] at hrefused
  injection hrefused

/-- What is documented has the x87 bit, and so does not pass the test. -/
theorem Xcr0Documented.ruled {value : UInt64} (h : Xcr0Documented value) :
    value &&& ruledFeatures ≠ 0 := by
  intro hclear
  have hruled : ruledFeatures = xfeatureEnabledX87 ||| 0xFC := by decide
  rw [hruled, and_or_eq_zero] at hclear
  exact h.x87 hclear.1

/-- **XSETBV is answered as documented** exactly where the rules forbid it and the test
notices: RCX is not zero, or there is a feature other than SSE. -/
theorem xsetbvExact_iff (hxsave : vcpu.vmcs.cr4.guestCr4 &&& cr4Osxsave ≠ 0) :
    XsetbvExact vcpu ↔ ¬ XsetbvDocumented vcpu.registers ∧
      (vcpu.registers.rcx ≠ 0 ∨ edxEax vcpu.registers &&& ruledFeatures ≠ 0) := by
  have hfault := @xsetbvFault_eq vcpu (decide_eq_true hxsave)
  by_cases hpasses : vcpu.registers.rcx = 0 ∧ edxEax vcpu.registers &&& ruledFeatures = 0
  · -- executed, though the x87 bit is clear
    rw [if_pos hpasses] at hfault
    have hforbidden : ¬ XsetbvDocumented vcpu.registers := fun h => h.2.ruled hpasses.2
    refine iff_of_false ?_ ?_
    · intro hexact
      exact not_raisesGp_of_executes (executes_of_fault hfault) (hexact.2 hforbidden)
    · rintro ⟨-, hrcx | hruled⟩
      · exact hrcx hpasses.1
      · exact hruled hpasses.2
  · rw [if_neg hpasses] at hfault
    have hraises := raisesGp_of_fault hfault
    rw [not_and_or] at hpasses
    rw [and_iff_left hpasses]
    constructor
    · intro hexact hdocumented
      exact not_raisesGp_of_executes (hexact.1 hdocumented) hraises
    · intro hforbidden
      exact ⟨fun h => absurd h hforbidden, fun _ => hraises⟩

end Answer

/-- An exit for XSETBV with the given XCR0, by a guest that has XSAVE enabled. -/
def xsetbvExit (rax : UInt64) : Vcpu :=
  { userExitOf exitReasonXsetbv 3 rax 0 with
    vmcs := { (userExitOf exitReasonXsetbv 3 rax 0).vmcs with
      cr4 := { (userExitOf exitReasonXsetbv 3 rax 0).vmcs.cr4 with guestCr4 := cr4Osxsave } } }

/-- AVX without SSE is refused. -/
theorem xsetbvExact_avx : XsetbvExact (xsetbvExit 0x5) :=
  (xsetbvExact_iff (by decide)).mpr
    ⟨fun h => absurd (h.2.avx (by decide)) (by decide), Or.inr (by decide)⟩

/-- So is x87 with SSE, which every guest may enable. -/
theorem not_xsetbvExact_sse :
    (xsetbvExit 0x3).vmcs.cr4.guestCr4 &&& cr4Osxsave ≠ 0 ∧ ¬ XsetbvExact (xsetbvExit 0x3) := by
  have hdocumented : XsetbvDocumented (xsetbvExit 0x3).registers :=
    ⟨by decide, by decide, by decide, by decide, by decide⟩
  refine ⟨by decide, fun hexact => ?_⟩
  exact not_raisesGp_of_executes (hexact.1 hdocumented) (raisesGp_of_fault (by decide))

end DeepShield.Vmx
