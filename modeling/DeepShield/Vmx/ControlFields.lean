import DeepShield.Vmx.Capabilities

/-!
# Writing the control fields

VM entry fails if a control is 1 that may not be, or 0 that must not be. So `VmWrite32` sends
what it writes through `VmxpNormalizeControls`, which sets the five control fields to legal
values by the capability MSRs and leaves other fields alone.

The MSR is selected twice in the source, here and in `VmxAllowed`, by two switches that do not
share a line: both go to the TRUE variant where the processor has it, and both leave out the
secondary controls where the primary ones do not allow them. `vmxpNormalizeControls_eq` is the
one for writing; with `vmxAllowed_eq`, the one for asking, both are about the same capability.
-/

namespace DeepShield.Vmx

open DeepShield.Lib

/-! ## The fields -/

/-- `VMCS_FIELD`. -/
def vmcsField (type width index : UInt32) : UInt32 :=
  (width <<< 13) ||| (type <<< 10) ||| (index <<< 1)

/-- `VMCS_FIELD_WIDTH`. -/
def vmcsFieldWidth (field : UInt32) : UInt32 := (field &&& ((3 : UInt32) <<< 13)) >>> 13

/-- `TYPE_CONTROL`. -/
def typeControl : UInt32 := 0

/-- `WIDTH_32`. -/
def width32 : UInt32 := 2

/-- `VM_EXEC_CONTROLS_PIN_BASED`. -/
def vmExecControlsPinBased : UInt32 := vmcsField typeControl width32 0

/-- `VM_EXEC_CONTROLS_PROC_PRIMARY`. -/
def vmExecControlsProcPrimary : UInt32 := vmcsField typeControl width32 1

/-- `VM_EXEC_CONTROLS_PROC_SECONDARY`. -/
def vmExecControlsProcSecondary : UInt32 := vmcsField typeControl width32 15

/-- `VM_EXIT_CONTROLS`. -/
def vmExitControls : UInt32 := vmcsField typeControl width32 6

/-- `VM_ENTRY_CONTROLS`. -/
def vmEntryControls : UInt32 := vmcsField typeControl width32 9

/-- The first switch of `VmxpNormalizeControls`: the MSR of a field, none for the default. -/
def vmxMsrOfField (field : UInt32) : Option UInt32 :=
  if field = vmExecControlsPinBased then some ia32VmxPinCtls
  else if field = vmExecControlsProcPrimary then some ia32VmxProcPrimaryCtls
  else if field = vmExecControlsProcSecondary then some ia32VmxProcSecondaryCtls
  else if field = vmExitControls then some ia32VmxExitCtls
  else if field = vmEntryControls then some ia32VmxEntryCtls
  else none

/-- The case of `VmxpNormalizeControls` for all five MSRs. -/
def vmxpNormalizeCase (processor : LogicalProcessor) (vmxMsr data : UInt32) : UInt32 :=
  let vmxMsr :=
    if processor.vmxControlDefaultClear = true ∧ vmxMsr ≠ ia32VmxProcSecondaryCtls then
      -- from IA32_VMX_XXXX_CTLS to IA32_VMX_TRUE_XXXX_CTLS
      vmxMsr + 0xC
    else vmxMsr
  let caps := processor.readmsr vmxMsr
  let def0 := caps.toUInt32
  let def1 := (caps >>> 32).toUInt32
  (data &&& def1) ||| def0

/-- `VmxpNormalizeControls`: what `*data` is afterwards. -/
def vmxpNormalizeControls (processor : LogicalProcessor) (field data : UInt32) : UInt32 :=
  match vmxMsrOfField field with
  | none => data
  | some vmxMsr =>
    if vmxMsr = ia32VmxProcSecondaryCtls then
      -- SecondaryControl of the primary controls
      if vmxAllowed processor ia32VmxProcPrimaryCtls &&& 0x80000000 = 0 then data
      else vmxpNormalizeCase processor vmxMsr data
    else vmxpNormalizeCase processor vmxMsr data

/-- `VmWrite32`: what it returns, and the field and the word that `AsmVmxWrite` is called
with, if it is. -/
def vmWrite32 (processor : LogicalProcessor) (asmVmxWrite : UInt32 → UInt64 → UInt8)
    (field data : UInt32) : Bool × Option (UInt32 × UInt64) :=
  if vmcsFieldWidth field ≠ width32 then (false, none)
  else
    let toWrite := (vmxpNormalizeControls processor field data).toUInt64
    (asmVmxWrite field toWrite = 0, some (field, toWrite))

/-! ## What it is for -/

/-- The field of a set of controls. -/
def VmxControls.field : VmxControls → UInt32
  | .pin => vmExecControlsPinBased
  | .procPrimary => vmExecControlsProcPrimary
  | .procSecondary => vmExecControlsProcSecondary
  | .exit => vmExitControls
  | .entry => vmEntryControls

/-- What must be 1 may be, in every capability. -/
def HalvesNested (processor : LogicalProcessor) : Prop :=
  ∀ controls, ∀ i < 32, bit32 (processor.capability controls).allowed0 i = true →
    bit32 (processor.capability controls).allowed1 i = true

/-- The processor has these controls: the secondary ones, if a primary one may be 1. -/
def HasControls (processor : LogicalProcessor) (controls : VmxControls) : Prop :=
  controls = .procSecondary → bit32 (processor.capability .procPrimary).allowed1 31 = true

/-- A word is legal where another one was asked for: what must be 1 is, what may not be is
not, and the rest is as it was asked for. -/
structure Legal (capability : ControlCapability) (asked word : UInt32) : Prop where
  mustBe1 : ∀ i < 32, bit32 capability.allowed0 i = true → bit32 word i = true
  mustBe0 : ∀ i < 32, bit32 capability.allowed1 i = false → bit32 word i = false
  flexible : ∀ i < 32, bit32 capability.allowed0 i = false → bit32 capability.allowed1 i = true →
    bit32 word i = bit32 asked i

/-- **What is written to a control field** when a word is asked for. -/
structure WritesLegal (processor : LogicalProcessor) (asmVmxWrite : UInt32 → UInt64 → UInt8)
    (controls : VmxControls) (asked word : UInt32) : Prop where
  written : (vmWrite32 processor asmVmxWrite controls.field asked).2
    = some (controls.field, word.toUInt64)
  legal : Legal (processor.capability controls) asked word
  again : vmxpNormalizeControls processor controls.field word = word
  all : asked = 0xFFFFFFFF → word = vmxAllowed processor controls.msr

section Normalize

variable {processor : LogicalProcessor} {controls : VmxControls}

/-- A word fitted to a capability. -/
def ControlCapability.fit (capability : ControlCapability) (data : UInt32) : UInt32 :=
  (data &&& capability.allowed1) ||| capability.allowed0

/-- **A fitted word is legal.** -/
theorem fit_legal {capability : ControlCapability} (h : ∀ i < 32,
    bit32 capability.allowed0 i = true → bit32 capability.allowed1 i = true) (data : UInt32) :
    Legal capability data (capability.fit data) where
  mustBe1 i _ h0 := by
    rw [ControlCapability.fit, bit32_or, h0, Bool.or_true]
  mustBe0 i hi h1 := by
    cases h0 : bit32 capability.allowed0 i with
    | false =>
      rw [ControlCapability.fit, bit32_or, bit32_and, h0, h1, Bool.and_false, Bool.or_false]
    | true => exact absurd ((h i hi h0).symm.trans h1) (by decide)
  flexible i _ h0 h1 := by
    rw [ControlCapability.fit, bit32_or, bit32_and, h0, h1, Bool.and_true, Bool.or_false]

/-- Fitting it again changes nothing. -/
theorem fit_fit (capability : ControlCapability) (data : UInt32) :
    capability.fit (capability.fit data) = capability.fit data := by
  refine eq_of_bit32 fun i _ => ?_
  unfold ControlCapability.fit
  rw [bit32_or, bit32_and, bit32_or, bit32_and]
  cases bit32 data i <;> cases bit32 capability.allowed1 i <;>
    cases bit32 capability.allowed0 i <;> rfl

/-- All controls at once. -/
theorem fit_all (capability : ControlCapability) :
    capability.fit 0xFFFFFFFF = capability.union := by
  rw [ControlCapability.fit, ControlCapability.union, show (0xFFFFFFFF : UInt32) = -1 from rfl,
    UInt32.neg_one_and]

/-- The case for an MSR with a TRUE variant. -/
theorem vmxpNormalizeCase_eq {msr : UInt32} (hmsr : msr ≠ ia32VmxProcSecondaryCtls)
    (data : UInt32) : vmxpNormalizeCase processor msr data
      = (processor.halves (if processor.vmxControlDefaultClear then msr + 0xC else msr)).fit
          data := by
  have htrue : (if processor.vmxControlDefaultClear = true ∧ msr ≠ ia32VmxProcSecondaryCtls then
      msr + 0xC else msr) = if processor.vmxControlDefaultClear then msr + 0xC else msr :=
    if_congr (and_iff_left hmsr) rfl rfl
  unfold vmxpNormalizeCase
  dsimp only
  rw [htrue]
  rfl

/-- The secondary controls have none. -/
theorem vmxpNormalizeCase_secondary (data : UInt32) :
    vmxpNormalizeCase processor ia32VmxProcSecondaryCtls data
      = (processor.halves ia32VmxProcSecondaryCtls).fit data := by
  unfold vmxpNormalizeCase
  dsimp only
  rw [if_neg fun h => h.2 rfl]
  rfl

/-- The primary controls allow the secondary ones, as both switches ask for it. -/
theorem secondary_allowed (h : HasControls processor .procSecondary) :
    (processor.capability .procPrimary).union &&& 0x80000000 ≠ 0 := by
  intro hzero
  have hbit := congrArg (fun w => bit32 w 31) hzero
  simp only [ControlCapability.union, bit32_and, bit32_or, bit32_zero, h rfl, Bool.true_or,
    Bool.true_and] at hbit
  exact absurd hbit (by decide)

/-- **Normalising** is fitting to the capability. -/
theorem vmxpNormalizeControls_eq (h : HasControls processor controls) (data : UInt32) :
    vmxpNormalizeControls processor controls.field data
      = (processor.capability controls).fit data := by
  cases controls with
  | procSecondary =>
    have hallowed := secondary_allowed h
    show (if vmxAllowed processor VmxControls.procPrimary.msr &&& 0x80000000 = 0 then data
      else vmxpNormalizeCase processor ia32VmxProcSecondaryCtls data) = _
    rw [vmxAllowed_eq, if_neg hallowed, vmxpNormalizeCase_secondary, LogicalProcessor.capability]
    exact congrArg (fun c => ControlCapability.fit c data) (if_neg hallowed).symm
  | pin => exact vmxpNormalizeCase_eq (by decide) data
  | procPrimary => exact vmxpNormalizeCase_eq (by decide) data
  | exit => exact vmxpNormalizeCase_eq (by decide) data
  | entry => exact vmxpNormalizeCase_eq (by decide) data

/-- **Another field** is left alone. -/
theorem vmxpNormalizeControls_other {field : UInt32} (h : ∀ controls : VmxControls,
    field ≠ controls.field) (data : UInt32) :
    vmxpNormalizeControls processor field data = data := by
  have hnone : vmxMsrOfField field = none := by
    show (if field = VmxControls.pin.field then some ia32VmxPinCtls
      else if field = VmxControls.procPrimary.field then some ia32VmxProcPrimaryCtls
      else if field = VmxControls.procSecondary.field then some ia32VmxProcSecondaryCtls
      else if field = VmxControls.exit.field then some ia32VmxExitCtls
      else if field = VmxControls.entry.field then some ia32VmxEntryCtls
      else none) = none
    rw [if_neg (h .pin), if_neg (h .procPrimary), if_neg (h .procSecondary), if_neg (h .exit),
      if_neg (h .entry)]
  unfold vmxpNormalizeControls
  rw [hnone]

theorem vmWrite32_written {field : UInt32} (hwidth : vmcsFieldWidth field = width32)
    (asmVmxWrite : UInt32 → UInt64 → UInt8) (data : UInt32) :
    (vmWrite32 processor asmVmxWrite field data).2
      = some (field, (vmxpNormalizeControls processor field data).toUInt64) := by
  unfold vmWrite32
  rw [if_neg (not_not_intro hwidth)]

/-- The control fields have 32 bits. -/
theorem VmxControls.field_width (controls : VmxControls) :
    vmcsFieldWidth controls.field = width32 := by
  cases controls <;> decide

end Normalize

/-- **The control fields are always legal**, and no other field is changed. -/
theorem vmWrite32_legal {processor : LogicalProcessor} (h : HalvesNested processor)
    (asmVmxWrite : UInt32 → UInt64 → UInt8) (asked : UInt32) :
    (∀ controls, HasControls processor controls →
        ∃ word, WritesLegal processor asmVmxWrite controls asked word) ∧
      ∀ field, vmcsFieldWidth field = width32 → (∀ controls : VmxControls, field ≠ controls.field) →
        (vmWrite32 processor asmVmxWrite field asked).2 = some (field, asked.toUInt64) := by
  refine ⟨fun controls hhas => ?_, fun field hwidth hother => ?_⟩
  · refine ⟨(processor.capability controls).fit asked, ?_, fit_legal (h controls) asked, ?_, ?_⟩
    · rw [vmWrite32_written controls.field_width, vmxpNormalizeControls_eq hhas]
    · rw [vmxpNormalizeControls_eq hhas, fit_fit]
    · rintro rfl
      rw [fit_all, vmxAllowed_eq]
  · rw [vmWrite32_written hwidth, vmxpNormalizeControls_other hother]

/-- A processor whose pin controls must have bits 1, 2 and 4 set and may have the first seven,
and has no other controls. -/
theorem vmWrite32_legal_pin :
    (∀ controls, HasControls (processorOf 0x7F00000016) controls →
        ∃ word, WritesLegal (processorOf 0x7F00000016) (fun _ _ => 0) controls 0x81 word) ∧
      ∀ field, vmcsFieldWidth field = width32 → (∀ controls : VmxControls, field ≠ controls.field) →
        (vmWrite32 (processorOf 0x7F00000016) (fun _ _ => 0) field 0x81).2
          = some (field, (0x81 : UInt32).toUInt64) :=
  vmWrite32_legal (fun controls => by cases controls <;> decide) (fun _ _ => 0) 0x81

end DeepShield.Vmx
