import DeepShield.Lib.Bits
import DeepShield.Os.Smp

/-!
# Processors of one kind

A guest may be moved between processors that can do the same in VMX operation, and
`VmxVerifySupport` checks that all can: VMX is enabled, the VMCS has the same revision,
and the capability MSRs of five sets of controls are those of the calling processor. Each
of these MSRs has two halves, the controls that must be 1 and those that may be.

The check keeps one word of 32 bits of each, the union of the halves (`vmxAllowed_eq`).
On a processor whose MSR has nothing in the lower half that the upper one lacks, that is
the upper half: what must be 1 is not compared. `rejectsHeterogeneous_iff` is about any
number of processors, any MSRs and any order in which the processors are asked.
-/

namespace DeepShield.Vmx

open DeepShield.Lib DeepShield.Os

/-! ## The processors -/

/-- What `VmxVerifySupport` reads of a logical processor: ECX of
`CPUID_FEATURE_INFORMATION`, and the MSRs. -/
structure LogicalProcessor where
  cpuidEcx : UInt32
  readmsr : UInt32 → UInt64

/-- `__writemsr`. -/
def LogicalProcessor.writemsr (processor : LogicalProcessor) (msr : UInt32) (value : UInt64) :
    LogicalProcessor :=
  { processor with readmsr := fun other => if other = msr then value else processor.readmsr other }

/-- `IA32_FEATURE_CONTROL`. -/
def ia32FeatureControl : UInt32 := 0x3A

/-- `IA32_FC_LOCK`. -/
def ia32FcLock : UInt64 := 1

/-- `IA32_FC_ENABLE_VMXON_OUTSMX`. -/
def ia32FcEnableVmxonOutsmx : UInt64 := 4

/-- `CPUID_LEAF_1H_ECX_VMX`. -/
def cpuidLeaf1hEcxVmx : UInt32 := 0x20

/-- `IA32_VMX_BASIC`. -/
def ia32VmxBasic : UInt32 := 0x480

/-- `IA32_VMX_PIN_CTLS`. -/
def ia32VmxPinCtls : UInt32 := 0x481

/-- `IA32_VMX_PROC_PRIMARY_CTLS`. -/
def ia32VmxProcPrimaryCtls : UInt32 := 0x482

/-- `IA32_VMX_EXIT_CTLS`. -/
def ia32VmxExitCtls : UInt32 := 0x483

/-- `IA32_VMX_ENTRY_CTLS`. -/
def ia32VmxEntryCtls : UInt32 := 0x484

/-- `IA32_VMX_PROC_SECONDARY_CTLS`. -/
def ia32VmxProcSecondaryCtls : UInt32 := 0x48B

/-- `STATUS_VMX_NOT_SUPPORTED`. -/
def statusVmxNotSupported : NtStatus := 0xEB1E001E

/-- `STATUS_VMX_BIOS_DISABLED`. -/
def statusVmxBiosDisabled : NtStatus := 0xEB1E001F

/-- `STATUS_VMX_DIFFERENT_CONFIG_ACROSS_PROCESSORS`. -/
def statusVmxDifferentConfigAcrossProcessors : NtStatus := 0xEB1E0020

/-- `VmxBasic.Bits.RevisionId`. -/
def LogicalProcessor.revisionId (processor : LogicalProcessor) : UInt32 :=
  (processor.readmsr ia32VmxBasic &&& 0x7FFFFFFF).toUInt32

/-- `VmxBasic.Bits.VmxControlDefaultClear`. -/
def LogicalProcessor.vmxControlDefaultClear (processor : LogicalProcessor) : Bool :=
  processor.readmsr ia32VmxBasic &&& 0x80000000000000 ≠ 0

/-! ## The check -/

/-- `VmxpVerifyFeatureControl`. -/
def vmxpVerifyFeatureControl (processor : LogicalProcessor) : NtStatus × LogicalProcessor :=
  if processor.cpuidEcx &&& cpuidLeaf1hEcxVmx = 0 then (statusVmxNotSupported, processor)
  else
    let featureControl := processor.readmsr ia32FeatureControl
    if featureControl &&& ia32FcLock = 0 then
      -- some machines resume from S3 with the MSR zero
      (statusSuccess, processor.writemsr ia32FeatureControl
        (featureControl ||| (ia32FcLock ||| ia32FcEnableVmxonOutsmx)))
    else if featureControl &&& ia32FcEnableVmxonOutsmx = 0 then (statusVmxBiosDisabled, processor)
    else (statusSuccess, processor)

/-- The case of `VmxAllowed` for all five MSRs. -/
def vmxAllowedCase (processor : LogicalProcessor) (vmxMsr : UInt32) : UInt32 :=
  let vmxMsr :=
    if processor.vmxControlDefaultClear = true ∧ vmxMsr ≠ ia32VmxProcSecondaryCtls then
      -- from IA32_VMX_XXXX_CTLS to IA32_VMX_TRUE_XXXX_CTLS
      vmxMsr + 0xC
    else vmxMsr
  let caps := processor.readmsr vmxMsr
  let def0 := caps.toUInt32
  let def1 := (caps >>> 32).toUInt32
  (0xFFFFFFFF &&& def1) ||| def0

/-- `VmxAllowed`. -/
def vmxAllowed (processor : LogicalProcessor) (vmxMsr : UInt32) : UInt32 :=
  if vmxMsr = ia32VmxProcSecondaryCtls then
    -- SecondaryControl of the primary controls
    if vmxAllowedCase processor ia32VmxProcPrimaryCtls &&& 0x80000000 = 0 then 0
    else vmxAllowedCase processor vmxMsr
  else if vmxMsr = ia32VmxPinCtls ∨ vmxMsr = ia32VmxProcPrimaryCtls ∨ vmxMsr = ia32VmxExitCtls ∨
      vmxMsr = ia32VmxEntryCtls then
    vmxAllowedCase processor vmxMsr
  else 0

/-- `VMX_VERIFY_INFO`. -/
structure VmxVerifyInfo where
  revisionId : UInt32
  pinCtls : UInt32
  procPrimaryCtls : UInt32
  procSecondaryCtls : UInt32
  exitCtls : UInt32
  entryCtls : UInt32
deriving Repr, DecidableEq

/-- `VmxpVerifyCapabilities`, which checks the entry controls twice. -/
def vmxpVerifyCapabilities (verifyInfo : VmxVerifyInfo) (processor : LogicalProcessor) :
    NtStatus :=
  if verifyInfo.revisionId ≠ processor.revisionId then statusVmxDifferentConfigAcrossProcessors
  else if verifyInfo.pinCtls ≠ vmxAllowed processor ia32VmxPinCtls then
    statusVmxDifferentConfigAcrossProcessors
  else if verifyInfo.procPrimaryCtls ≠ vmxAllowed processor ia32VmxProcPrimaryCtls then
    statusVmxDifferentConfigAcrossProcessors
  else if verifyInfo.procSecondaryCtls ≠ vmxAllowed processor ia32VmxProcSecondaryCtls then
    statusVmxDifferentConfigAcrossProcessors
  else if verifyInfo.exitCtls ≠ vmxAllowed processor ia32VmxExitCtls then
    statusVmxDifferentConfigAcrossProcessors
  else if verifyInfo.entryCtls ≠ vmxAllowed processor ia32VmxEntryCtls then
    statusVmxDifferentConfigAcrossProcessors
  else if verifyInfo.entryCtls ≠ vmxAllowed processor ia32VmxEntryCtls then
    statusVmxDifferentConfigAcrossProcessors
  else statusSuccess

/-- `VmxpVerifySupportPerCpu`. -/
def vmxpVerifySupportPerCpu (verifyInfo : VmxVerifyInfo) (_vcpuId : Nat)
    (processor : LogicalProcessor) : NtStatus × LogicalProcessor :=
  match vmxpVerifyFeatureControl processor with
  | (status, processor) =>
    if ntSuccess status = false then (status, processor)
    else (vmxpVerifyCapabilities verifyInfo processor, processor)

/-- The revision and the capabilities that `VmxVerifySupport` prepares. -/
def LogicalProcessor.verifyInfo (processor : LogicalProcessor) : VmxVerifyInfo where
  revisionId := processor.revisionId
  pinCtls := vmxAllowed processor ia32VmxPinCtls
  procPrimaryCtls := vmxAllowed processor ia32VmxProcPrimaryCtls
  procSecondaryCtls := vmxAllowed processor ia32VmxProcSecondaryCtls
  exitCtls := vmxAllowed processor ia32VmxExitCtls
  entryCtls := vmxAllowed processor ia32VmxEntryCtls

/-- `VmxVerifySupport`. -/
def vmxVerifySupport (smp : Smp) (processors : Nat → LogicalProcessor) :
    NtStatus × (Nat → LogicalProcessor) :=
  smpRunPerProcessor smp
    (ownCallback (vmxpVerifySupportPerCpu (processors smp.current).verifyInfo)) processors

/-! ## What it is to check -/

/-- The sets of controls. -/
inductive VmxControls
  | pin
  | procPrimary
  | procSecondary
  | exit
  | entry
deriving Repr, DecidableEq

/-- A capability MSR: `allowed0` are the controls that must be 1, `allowed1` those that
may be. -/
structure ControlCapability where
  allowed0 : UInt32
  allowed1 : UInt32
deriving Repr, DecidableEq

/-- Both halves in one. -/
def ControlCapability.union (capability : ControlCapability) : UInt32 :=
  capability.allowed1 ||| capability.allowed0

/-- The halves of an MSR. -/
def LogicalProcessor.halves (processor : LogicalProcessor) (msr : UInt32) : ControlCapability where
  allowed0 := (processor.readmsr msr).toUInt32
  allowed1 := (processor.readmsr msr >>> 32).toUInt32

/-- The capability of a set of controls, by the TRUE MSR where the processor reports it.
There are secondary controls where a primary one says so. -/
def LogicalProcessor.capability (processor : LogicalProcessor) : VmxControls → ControlCapability
  | .pin => processor.halves (if processor.vmxControlDefaultClear then 0x48D else 0x481)
  | .procPrimary => processor.halves (if processor.vmxControlDefaultClear then 0x48E else 0x482)
  | .exit => processor.halves (if processor.vmxControlDefaultClear then 0x48F else 0x483)
  | .entry => processor.halves (if processor.vmxControlDefaultClear then 0x490 else 0x484)
  | .procSecondary =>
    if (processor.halves (if processor.vmxControlDefaultClear then 0x48E else 0x482)).union
        &&& 0x80000000 = 0 then ⟨0, 0⟩
    else processor.halves 0x48B

/-- VMX is there, and enabled for good. -/
structure VmxEnabled (processor : LogicalProcessor) : Prop where
  cpuid : processor.cpuidEcx &&& cpuidLeaf1hEcxVmx ≠ 0
  lock : processor.readmsr ia32FeatureControl &&& ia32FcLock ≠ 0
  outsmx : processor.readmsr ia32FeatureControl &&& ia32FcEnableVmxonOutsmx ≠ 0

/-- The same revision, and the same halves of every capability. -/
structure Agrees (processor caller : LogicalProcessor) : Prop where
  revisionId : processor.revisionId = caller.revisionId
  allowed0 : ∀ controls,
    (processor.capability controls).allowed0 = (caller.capability controls).allowed0
  allowed1 : ∀ controls,
    (processor.capability controls).allowed1 = (caller.capability controls).allowed1

/-- The check succeeds on processors of one kind with VMX enabled, and on no others. -/
def RejectsHeterogeneous (smp : Smp) (processors : Nat → LogicalProcessor) : Prop :=
  (vmxVerifySupport smp processors).1 = statusSuccess ↔ ∀ p < smp.count,
    VmxEnabled ((vmxVerifySupport smp processors).2 p) ∧
      Agrees (processors p) (processors smp.current)

/-- VMX can be enabled: it is there, and the firmware has not locked it out. -/
def CanEnable (processor : LogicalProcessor) : Prop :=
  processor.cpuidEcx &&& cpuidLeaf1hEcxVmx ≠ 0 ∧
    (processor.readmsr ia32FeatureControl &&& ia32FcLock = 0 ∨
      processor.readmsr ia32FeatureControl &&& ia32FcEnableVmxonOutsmx ≠ 0)

/-- The same revision, and the same union of the halves of every capability. -/
def AgreesInUnion (processor caller : LogicalProcessor) : Prop :=
  processor.revisionId = caller.revisionId ∧ ∀ controls,
    (processor.capability controls).union = (caller.capability controls).union

/-! ## The digest -/

section Digest

variable {processor caller : LogicalProcessor}

/-- The MSR of a set of controls. -/
def VmxControls.msr : VmxControls → UInt32
  | .pin => ia32VmxPinCtls
  | .procPrimary => ia32VmxProcPrimaryCtls
  | .procSecondary => ia32VmxProcSecondaryCtls
  | .exit => ia32VmxExitCtls
  | .entry => ia32VmxEntryCtls

/-- The digest of an MSR with a TRUE variant. -/
theorem vmxAllowedCase_eq {msr : UInt32} (hmsr : msr ≠ ia32VmxProcSecondaryCtls) :
    vmxAllowedCase processor msr
      = (processor.halves (if processor.vmxControlDefaultClear then msr + 0xC else msr)).union := by
  have htrue : (if processor.vmxControlDefaultClear = true ∧ msr ≠ ia32VmxProcSecondaryCtls then
      msr + 0xC else msr) = if processor.vmxControlDefaultClear then msr + 0xC else msr :=
    if_congr (and_iff_left hmsr) rfl rfl
  unfold vmxAllowedCase ControlCapability.union LogicalProcessor.halves
  dsimp only
  rw [htrue, show (0xFFFFFFFF : UInt32) = -1 from rfl, UInt32.neg_one_and]

/-- The secondary controls have none. -/
theorem vmxAllowedCase_secondary : vmxAllowedCase processor ia32VmxProcSecondaryCtls
    = (processor.halves ia32VmxProcSecondaryCtls).union := by
  unfold vmxAllowedCase ControlCapability.union LogicalProcessor.halves
  dsimp only
  rw [if_neg fun h => h.2 rfl, show (0xFFFFFFFF : UInt32) = -1 from rfl, UInt32.neg_one_and]

/-- **`VmxAllowed` is the union of the halves.** -/
theorem vmxAllowed_eq (processor : LogicalProcessor) (controls : VmxControls) :
    vmxAllowed processor controls.msr = (processor.capability controls).union := by
  cases controls with
  | procSecondary =>
    have hprimary : vmxAllowedCase processor ia32VmxProcPrimaryCtls
        = (processor.halves (if processor.vmxControlDefaultClear then 0x48E else 0x482)).union :=
      vmxAllowedCase_eq (by decide)
    show (if vmxAllowedCase processor ia32VmxProcPrimaryCtls &&& 0x80000000 = 0 then 0
      else vmxAllowedCase processor ia32VmxProcSecondaryCtls) = _
    rw [hprimary, vmxAllowedCase_secondary, LogicalProcessor.capability]
    by_cases hnone : (processor.halves
        (if processor.vmxControlDefaultClear then 0x48E else 0x482)).union &&& 0x80000000 = 0
    · rw [if_pos hnone, if_pos hnone]
      rfl
    · rw [if_neg hnone, if_neg hnone]
      rfl
  | pin => exact vmxAllowedCase_eq (by decide)
  | procPrimary => exact vmxAllowedCase_eq (by decide)
  | exit => exact vmxAllowedCase_eq (by decide)
  | entry => exact vmxAllowedCase_eq (by decide)

/-- What is prepared and compared is the revision and the unions. -/
theorem verifyInfo_eq_iff : caller.verifyInfo = processor.verifyInfo ↔
    AgreesInUnion processor caller := by
  have hunion : ∀ controls, vmxAllowed caller controls.msr = vmxAllowed processor controls.msr ↔
      (processor.capability controls).union = (caller.capability controls).union := by
    intro controls
    rw [vmxAllowed_eq, vmxAllowed_eq, eq_comm]
  unfold LogicalProcessor.verifyInfo AgreesInUnion
  rw [VmxVerifyInfo.mk.injEq]
  constructor
  · rintro ⟨hrevision, hpin, hprimary, hsecondary, hexit, hentry⟩
    refine ⟨hrevision.symm, fun controls => (hunion controls).mp ?_⟩
    cases controls with
    | pin => exact hpin
    | procPrimary => exact hprimary
    | procSecondary => exact hsecondary
    | exit => exact hexit
    | entry => exact hentry
  · rintro ⟨hrevision, hunions⟩
    exact ⟨hrevision.symm, (hunion .pin).mpr (hunions _), (hunion .procPrimary).mpr (hunions _),
      (hunion .procSecondary).mpr (hunions _), (hunion .exit).mpr (hunions _),
      (hunion .entry).mpr (hunions _)⟩

/-- One comparison. -/
theorem different_iff {a b : UInt32} {status : NtStatus} :
    (if a ≠ b then statusVmxDifferentConfigAcrossProcessors else status) = statusSuccess ↔
      a = b ∧ status = statusSuccess := by
  have hdifferent : statusVmxDifferentConfigAcrossProcessors ≠ statusSuccess := by decide
  by_cases heq : a = b
  · rw [if_neg (not_not_intro heq), and_iff_right heq]
  · rw [if_pos heq]
    exact iff_of_false hdifferent fun h => heq h.1

/-- All of them. -/
theorem vmxpVerifyCapabilities_success {verifyInfo : VmxVerifyInfo} :
    vmxpVerifyCapabilities verifyInfo processor = statusSuccess ↔
      verifyInfo = processor.verifyInfo := by
  obtain ⟨revisionId, pinCtls, procPrimaryCtls, procSecondaryCtls, exitCtls, entryCtls⟩ :=
    verifyInfo
  unfold vmxpVerifyCapabilities LogicalProcessor.verifyInfo
  rw [VmxVerifyInfo.mk.injEq, different_iff, different_iff, different_iff, different_iff,
    different_iff, different_iff, different_iff]
  -- the entry controls, for the second time
  rw [and_iff_left rfl, and_self]

/-- Agreeing is having the same revision and the same capabilities. -/
theorem agrees_iff : Agrees processor caller ↔ processor.revisionId = caller.revisionId ∧
    ∀ controls, processor.capability controls = caller.capability controls := by
  constructor
  · intro h
    refine ⟨h.revisionId, fun controls => ?_⟩
    have h0 := h.allowed0 controls
    have h1 := h.allowed1 controls
    cases hp : processor.capability controls
    cases hc : caller.capability controls
    rw [hp, hc] at h0 h1
    rw [ControlCapability.mk.injEq]
    exact ⟨h0, h1⟩
  · rintro ⟨hrevision, hcapability⟩
    exact ⟨hrevision, fun controls => by rw [hcapability], fun controls => by rw [hcapability]⟩

/-- Agreeing in the halves is agreeing in the unions. -/
theorem Agrees.inUnion (h : Agrees processor caller) : AgreesInUnion processor caller := by
  refine ⟨h.revisionId, fun controls => ?_⟩
  unfold ControlCapability.union
  rw [h.allowed0, h.allowed1]

end Digest

/-! ## One processor -/

section One

variable {processor : LogicalProcessor}

/-- Writing `IA32_FEATURE_CONTROL` changes no capability. -/
theorem writemsr_capability (value : UInt64) (controls : VmxControls) :
    (processor.writemsr ia32FeatureControl value).capability controls
      = processor.capability controls := by
  have hdefaultClear : (processor.writemsr ia32FeatureControl value).vmxControlDefaultClear
      = processor.vmxControlDefaultClear := rfl
  unfold LogicalProcessor.capability
  rw [hdefaultClear]
  cases controls <;> cases processor.vmxControlDefaultClear <;> rfl

theorem writemsr_verifyInfo (value : UInt64) :
    (processor.writemsr ia32FeatureControl value).verifyInfo = processor.verifyInfo :=
  verifyInfo_eq_iff.mpr ⟨rfl, fun controls => by rw [writemsr_capability]⟩

/-- Setting bits. -/
theorem or_and_ne_zero {x y mask : UInt64} (i : Nat) (hset : bit y i = true)
    (hmask : bit mask i = true) : (x ||| y) &&& mask ≠ 0 := by
  intro hzero
  have hbit := bit_congr hzero i
  rw [bit_and, bit_or, hset, hmask, Bool.or_true, Bool.and_true, bit_zero] at hbit
  exact absurd hbit (by decide)

/-- **Enabling** succeeds exactly if VMX can be enabled, and then it is. -/
theorem vmxpVerifyFeatureControl_spec (processor : LogicalProcessor) :
    (CanEnable processor ∧ (vmxpVerifyFeatureControl processor).1 = statusSuccess ∧
        VmxEnabled (vmxpVerifyFeatureControl processor).2 ∨
      ¬ CanEnable processor ∧ ntSuccess (vmxpVerifyFeatureControl processor).1 = false ∧
        ¬ VmxEnabled (vmxpVerifyFeatureControl processor).2) ∧
      (vmxpVerifyFeatureControl processor).2.verifyInfo = processor.verifyInfo := by
  unfold vmxpVerifyFeatureControl
  dsimp only
  by_cases hcpuid : processor.cpuidEcx &&& cpuidLeaf1hEcxVmx = 0
  · rw [if_pos hcpuid]
    have hfailure : ntSuccess statusVmxNotSupported = false := by decide
    exact ⟨Or.inr ⟨fun h => h.1 hcpuid, hfailure, fun h => h.cpuid hcpuid⟩, rfl⟩
  · rw [if_neg hcpuid]
    by_cases hlock : processor.readmsr ia32FeatureControl &&& ia32FcLock = 0
    · rw [if_pos hlock]
      have hwritten : VmxEnabled (processor.writemsr ia32FeatureControl
          (processor.readmsr ia32FeatureControl ||| (ia32FcLock ||| ia32FcEnableVmxonOutsmx))) :=
        ⟨hcpuid, or_and_ne_zero 0 (by decide) (by decide),
          or_and_ne_zero 2 (by decide) (by decide)⟩
      exact ⟨Or.inl ⟨⟨hcpuid, Or.inl hlock⟩, rfl, hwritten⟩, writemsr_verifyInfo _⟩
    · rw [if_neg hlock]
      by_cases houtsmx : processor.readmsr ia32FeatureControl &&& ia32FcEnableVmxonOutsmx = 0
      · rw [if_pos houtsmx]
        have hfailure : ntSuccess statusVmxBiosDisabled = false := by decide
        refine ⟨Or.inr ⟨?_, hfailure, fun h => h.outsmx houtsmx⟩, rfl⟩
        rintro ⟨-, hopen | henabled⟩
        · exact hlock hopen
        · exact henabled houtsmx
      · rw [if_neg houtsmx]
        exact ⟨Or.inl ⟨⟨hcpuid, Or.inr houtsmx⟩, rfl, ⟨hcpuid, hlock, houtsmx⟩⟩, rfl⟩

/-- **A processor passes** if VMX can be enabled and it agrees in the unions; and it is
left with VMX enabled if that can be. -/
theorem vmxpVerifySupportPerCpu_spec (caller processor : LogicalProcessor) (vcpuId : Nat) :
    ((vmxpVerifySupportPerCpu caller.verifyInfo vcpuId processor).1 = statusSuccess ↔
        CanEnable processor ∧ AgreesInUnion processor caller) ∧
      (VmxEnabled (vmxpVerifySupportPerCpu caller.verifyInfo vcpuId processor).2 ↔
        CanEnable processor) := by
  obtain ⟨hcases, hkept⟩ := vmxpVerifyFeatureControl_spec processor
  unfold vmxpVerifySupportPerCpu
  cases hfeature : vmxpVerifyFeatureControl processor with
  | mk status enabled =>
    rw [hfeature] at hcases hkept
    dsimp only at hcases hkept ⊢
    rcases hcases with ⟨hcan, hstatus, henabled⟩ | ⟨hcannot, hstatus, hdisabled⟩
    · rw [if_neg (by rw [hstatus, ntSuccess_statusSuccess]; decide)]
      refine ⟨?_, iff_of_true henabled hcan⟩
      rw [vmxpVerifyCapabilities_success, hkept, verifyInfo_eq_iff, and_iff_right hcan]
    · rw [if_pos hstatus]
      refine ⟨iff_of_false ?_ fun h => hcannot h.1, iff_of_false hdisabled hcannot⟩
      intro hsuccess
      rw [show status = statusSuccess from hsuccess, ntSuccess_statusSuccess] at hstatus
      exact absurd hstatus (by decide)

end One

/-- **Heterogeneous processors are rejected** exactly where none of them hides behind a
union: if all can be enabled and agree in the revision and the unions, they agree in
the halves. -/
theorem rejectsHeterogeneous_iff (smp : Smp) (processors : Nat → LogicalProcessor) :
    RejectsHeterogeneous smp processors ↔
      ((∀ p < smp.count, CanEnable (processors p) ∧
          AgreesInUnion (processors p) (processors smp.current)) →
        ∀ p < smp.count, ∀ controls, (processors p).capability controls
          = (processors smp.current).capability controls) := by
  obtain ⟨hstatus, hstate⟩ := @smpRunPerProcessor_own _
    (vmxpVerifySupportPerCpu (processors smp.current).verifyInfo) smp processors
  have hpasses : ∀ p, _ := fun p =>
    (vmxpVerifySupportPerCpu_spec (processors smp.current) (processors p) p).1
  have henabled : ∀ p < smp.count, (VmxEnabled ((vmxVerifySupport smp processors).2 p) ↔
      CanEnable (processors p)) := by
    intro p hp
    rw [vmxVerifySupport, hstate p hp]
    exact (vmxpVerifySupportPerCpu_spec (processors smp.current) (processors p) p).2
  have hsuccess : (vmxVerifySupport smp processors).1 = statusSuccess ↔
      ∀ p < smp.count, CanEnable (processors p) ∧
        AgreesInUnion (processors p) (processors smp.current) := by
    rw [vmxVerifySupport, hstatus]
    exact forall₂_congr fun p _ => hpasses p
  unfold RejectsHeterogeneous
  constructor
  · intro hrejects hunion p hp
    exact (agrees_iff.mp (hrejects.mp (hsuccess.mpr hunion) p hp).2).2
  · intro hhalves
    rw [hsuccess]
    constructor
    · intro hunion p hp
      exact ⟨(henabled p hp).mpr (hunion p hp).1,
        agrees_iff.mpr ⟨(hunion p hp).2.1, hhalves hunion p hp⟩⟩
    · intro hagrees p hp
      exact ⟨(henabled p hp).mp (hagrees p hp).1, (hagrees p hp).2.inUnion⟩

/-- A processor with VMX enabled whose pin controls have these halves. -/
def processorOf (pinCtls : UInt64) : LogicalProcessor where
  cpuidEcx := cpuidLeaf1hEcxVmx
  readmsr := fun msr =>
    if msr = ia32FeatureControl then 5 else if msr = ia32VmxPinCtls then pinCtls else 0

/-- Two processors, of which the first calls. -/
def twoProcessors : Smp where
  count := 2
  current := 0
  order := [1, 0]
  current_lt := by decide
  order_perm := by decide

/-- The second must have virtual NMIs on, the first may: the check succeeds. -/
theorem not_rejectsHeterogeneous_pin :
    ¬ RejectsHeterogeneous twoProcessors
        (fun p => if p = 0 then processorOf 0x7F00000016 else processorOf 0x7F00000036) := by
  intro h
  have hsuccess : (vmxVerifySupport twoProcessors (fun p =>
      if p = 0 then processorOf 0x7F00000016 else processorOf 0x7F00000036)).1
        = statusSuccess := by
    decide
  have hagrees := (h.mp hsuccess 1 (by decide)).2.allowed0 .pin
  exact absurd hagrees (by decide)

end DeepShield.Vmx
