import DeepShield.Lib.Bits
import DeepShield.Lib.Runs

/-!
# The guest's CR4

CR4 of the guest is in three fields of the VMCS: `GUEST_CR4` is what the
processor runs with, and of the bits in `CR4_GUEST_HOST_MASK` the guest reads
those of `CR4_READ_SHADOW` instead. The host owns VMXE, and TSD, which makes
RDTSC fault in user code.

Four routines write them: `VmcsSetGuestField` and `VmSetPrivilegedTimeStamp`
when the VMCS is set up, `InstrCr4Emulate` when the guest moves to CR4, and
`HvmTrimTsdForQuantum` when TSD is switched for the quantum of a thread.
`VmMakeCompliantCr4` forces the bits that VM entry requires.
-/

namespace DeepShield.Vmx

open DeepShield.Lib

/-- `CR4_TSD`. -/
def cr4Tsd : UInt64 := 0x4

/-- `CR4_VMXE`. -/
def cr4Vmxe : UInt64 := 0x2000

/-- `CR4_OSXSAVE`. -/
def cr4Osxsave : UInt64 := 0x40000

/-- `Constraints.Cr4Maybe0` and `Constraints.Cr4Maybe1`, as the two capability
MSRs have them: the bits of CR4 that must be set and those that may be. -/
structure Cr4Constraints where
  cr4Maybe0 : UInt64
  cr4Maybe1 : UInt64
deriving Repr, DecidableEq, Inhabited

/-- `gVmState.Fixed.Cr4Fixed0` and `Cr4Fixed1`. -/
structure Cr4Fixed where
  cr4Fixed0 : UInt64
  cr4Fixed1 : UInt64
deriving Repr, DecidableEq, Inhabited

/-- The part of `VmInitializeVmState` for CR4. -/
def vmInitializeVmState (constraints : Cr4Constraints) : Cr4Fixed where
  cr4Fixed1 := constraints.cr4Maybe0 &&& constraints.cr4Maybe1
  cr4Fixed0 := constraints.cr4Maybe0 ||| constraints.cr4Maybe1

/-- `VmMakeCompliantCr4`. -/
def vmMakeCompliantCr4 (fixed : Cr4Fixed) (value : UInt64) : UInt64 :=
  (value &&& fixed.cr4Fixed0) ||| fixed.cr4Fixed1

/-- The VMCS fields of the guest's CR4. -/
structure Cr4Vmcs where
  guestCr4 : UInt64
  cr4GuestHostMask : UInt64
  cr4ReadShadow : UInt64
deriving Repr, DecidableEq, Inhabited

/-- `VmGetGuestVisibleCr4`. -/
def vmGetGuestVisibleCr4 (vmcs : Cr4Vmcs) (cr4Value : UInt64) : UInt64 :=
  (cr4Value &&& ~~~vmcs.cr4GuestHostMask) ||| (vmcs.cr4ReadShadow &&& vmcs.cr4GuestHostMask)

/-- What a MOV from CR4 that does not exit gives the guest. -/
def guestReads (vmcs : Cr4Vmcs) : UInt64 := vmGetGuestVisibleCr4 vmcs vmcs.guestCr4

/-- The part of `VmcsSetGuestField` for CR4; `cr4` is `__readcr4()`. -/
def vmcsSetGuestField (fixed : Cr4Fixed) (cr4 : UInt64) : Cr4Vmcs where
  guestCr4 := vmMakeCompliantCr4 fixed cr4
  -- remove support for nested guest with CR4_VMXE
  cr4GuestHostMask := cr4Vmxe
  cr4ReadShadow := 0

/-- `VmSetPrivilegedTimeStamp`, without `EXCEPTION_BITMAP`. -/
def vmSetPrivilegedTimeStamp (vmcs : Cr4Vmcs) : Cr4Vmcs :=
  let currentTsd := vmcs.guestCr4 &&& cr4Tsd
  { guestCr4 := vmcs.guestCr4 ||| cr4Tsd
    cr4GuestHostMask := vmcs.cr4GuestHostMask ||| cr4Tsd
    cr4ReadShadow := vmcs.cr4ReadShadow &&& currentTsd }

/-- What `InstrCr4Emulate` does to the three fields for a MOV to CR4. -/
def instrCr4MovTo (fixed : Cr4Fixed) (operand : UInt64) (vmcs : Cr4Vmcs) : Cr4Vmcs :=
  let operandTsd := operand &&& cr4Tsd
  let cr4 := vmMakeCompliantCr4 fixed (vmGetGuestVisibleCr4 vmcs operand)
  let quantumTsd := vmcs.guestCr4 &&& cr4Tsd
  { vmcs with
    guestCr4 := cr4 ||| quantumTsd
    cr4ReadShadow := (vmcs.cr4ReadShadow &&& ~~~cr4Tsd) ||| operandTsd }

/-- `HvmTrimTsdForQuantum`. -/
def hvmTrimTsdForQuantum (fixed : Cr4Fixed) (enableTsd : Bool) (vmcs : Cr4Vmcs) : Cr4Vmcs :=
  let expiredTsd := vmcs.guestCr4 &&& cr4Tsd
  if (enableTsd ∧ expiredTsd ≠ 0) ∨ (¬ enableTsd ∧ expiredTsd = 0) then vmcs
  else { vmcs with guestCr4 := vmMakeCompliantCr4 fixed vmcs.guestCr4 ^^^ cr4Tsd }

/-! ## Bit by bit -/

section Bits

variable {fixed : Cr4Fixed} {vmcs : Cr4Vmcs} {i : Nat}

@[simp] theorem bit_vmMakeCompliantCr4 {value : UInt64} :
    bit (vmMakeCompliantCr4 fixed value) i
      = (bit value i && bit fixed.cr4Fixed0 i || bit fixed.cr4Fixed1 i) := by
  unfold vmMakeCompliantCr4
  rw [bit_or, bit_and]

theorem bit_vmGetGuestVisibleCr4 {value : UInt64} (hi : i < 64) :
    bit (vmGetGuestVisibleCr4 vmcs value) i
      = (bit value i && !bit vmcs.cr4GuestHostMask i ||
          bit vmcs.cr4ReadShadow i && bit vmcs.cr4GuestHostMask i) := by
  unfold vmGetGuestVisibleCr4
  rw [bit_or, bit_and, bit_and, bit_not hi]

theorem bit_guestReads (hi : i < 64) :
    bit (guestReads vmcs) i
      = (bit vmcs.guestCr4 i && !bit vmcs.cr4GuestHostMask i ||
          bit vmcs.cr4ReadShadow i && bit vmcs.cr4GuestHostMask i) :=
  bit_vmGetGuestVisibleCr4 hi

/-- A value made compliant is compliant. -/
theorem vmMakeCompliantCr4_idem (value : UInt64) :
    vmMakeCompliantCr4 fixed (vmMakeCompliantCr4 fixed value) = vmMakeCompliantCr4 fixed value := by
  refine eq_of_bit fun i _ => ?_
  rw [bit_vmMakeCompliantCr4, bit_vmMakeCompliantCr4]
  cases bit value i <;> cases bit fixed.cr4Fixed0 i <;> cases bit fixed.cr4Fixed1 i <;> rfl

end Bits

end DeepShield.Vmx
