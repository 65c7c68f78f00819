import DeepShield.Vmx.Cr4Runs
import DeepShield.Vmx.UserExits
import DeepShield.Vmx.Handlers

/-!
# Monitoring by the quantum

Windows writes `IA32_FS_BASE` when it switches threads, and the write exits. The
handler makes the write, asks how far the thread that is now current is trusted,
and sets TSD for it or clears it: time-stamp reads of user code fault exactly
while a thread runs that is not excluded.

`quantum_monitored` is about the whole exit, for every consistent process table,
every register content and every CR4 that can be entered with.
-/

namespace DeepShield.Vmx

open DeepShield.Lib DeepShield.Pm

section Trim

variable {constraints : Cr4Constraints} {vmcs : Cr4Vmcs}

/-- A CR4 that can be entered with is compliant. -/
theorem Enterable.compliant_eq (h : Enterable constraints vmcs) :
    vmMakeCompliantCr4 (vmInitializeVmState constraints) vmcs.guestCr4 = vmcs.guestCr4 := by
  refine eq_of_bit fun i _ => ?_
  have hmust := @Within.bit _ _ i h.1
  have hmay := @Within.bit _ _ i h.2
  rw [bit_vmMakeCompliantCr4]
  show (bit vmcs.guestCr4 i && bit (constraints.cr4Maybe0 ||| constraints.cr4Maybe1) i ||
    bit (constraints.cr4Maybe0 &&& constraints.cr4Maybe1) i) = _
  rw [bit_or, bit_and]
  cases hguest : bit vmcs.guestCr4 i with
  | true => rw [hmay hguest, Bool.or_true, Bool.and_true, Bool.true_or]
  | false =>
    cases hset : bit constraints.cr4Maybe0 i with
    | true => exact absurd (hguest.symm.trans (hmust hset)) (by decide)
    | false => rw [Bool.false_and, Bool.false_and, Bool.or_false]

/-- **Switching TSD** of a CR4 that can be entered with: TSD is as asked for, and
nothing else has changed. -/
theorem Enterable.hvmTrimTsdForQuantum (h : Enterable constraints vmcs) (enableTsd : Bool) :
    let vmcs' := hvmTrimTsdForQuantum (vmInitializeVmState constraints) enableTsd vmcs
    (vmcs'.guestCr4 &&& cr4Tsd = 0 ↔ enableTsd = false) ∧
      vmcs'.guestCr4 &&& ~~~cr4Tsd = vmcs.guestCr4 &&& ~~~cr4Tsd ∧
      vmcs'.cr4GuestHostMask = vmcs.cr4GuestHostMask ∧
      vmcs'.cr4ReadShadow = vmcs.cr4ReadShadow := by
  intro vmcs'
  have hswitched : (vmcs.guestCr4 ^^^ cr4Tsd) &&& cr4Tsd = 0 ↔ ¬ vmcs.guestCr4 &&& cr4Tsd = 0 := by
    rw [and_tsd_eq_zero, and_tsd_eq_zero, bit_xor]
    cases bit vmcs.guestCr4 2 <;> decide
  have hothers : (vmcs.guestCr4 ^^^ cr4Tsd) &&& ~~~cr4Tsd = vmcs.guestCr4 &&& ~~~cr4Tsd := by
    refine eq_of_bit fun i hi => ?_
    rw [bit_and, bit_and, bit_xor, bit_not hi]
    cases bit cr4Tsd i <;> cases bit vmcs.guestCr4 i <;> rfl
  by_cases hearly : (enableTsd ∧ vmcs.guestCr4 &&& cr4Tsd ≠ 0) ∨
      (¬ enableTsd ∧ vmcs.guestCr4 &&& cr4Tsd = 0)
  · have hsame : vmcs' = vmcs := if_pos hearly
    rw [hsame]
    refine ⟨?_, rfl, rfl, rfl⟩
    rcases hearly with ⟨henable, hset⟩ | ⟨henable, hclear⟩
    · simp [henable, hset]
    · simp [henable, hclear]
  · have htoggled : vmcs' = { vmcs with guestCr4 := vmcs.guestCr4 ^^^ cr4Tsd } := by
      rw [← h.compliant_eq]
      exact if_neg hearly
    rw [htoggled]
    refine ⟨?_, hothers, rfl, rfl⟩
    rw [hswitched]
    cases enableTsd with
    | true =>
      have hclear : vmcs.guestCr4 &&& cr4Tsd = 0 := by
        by_contra hset
        exact hearly (Or.inl ⟨rfl, hset⟩)
      simp [hclear]
    | false =>
      have hset : ¬ vmcs.guestCr4 &&& cr4Tsd = 0 :=
        fun hclear => hearly (Or.inr ⟨by decide, hclear⟩)
      simp [hset]

end Trim

/-- What the exit has done: TSD is clear exactly if the thread is excluded, nothing
else of CR4 has changed, the base is written, and of the registers no other than RIP
and RFLAGS is touched. -/
structure Monitored (excluded : Prop) (vcpu vcpu' : Vcpu) : Prop where
  tsd : vcpu'.vmcs.cr4.guestCr4 &&& cr4Tsd = 0 ↔ excluded
  others : vcpu'.vmcs.cr4.guestCr4 &&& ~~~cr4Tsd = vcpu.vmcs.cr4.guestCr4 &&& ~~~cr4Tsd
  mask : vcpu'.vmcs.cr4.cr4GuestHostMask = vcpu.vmcs.cr4.cr4GuestHostMask
  shadow : vcpu'.vmcs.cr4.cr4ReadShadow = vcpu.vmcs.cr4.cr4ReadShadow
  fsBase : vcpu'.vmcs.guestFsBase = edxEax vcpu.registers
  registers : { vcpu'.registers with
    rip := vcpu.registers.rip
    rflags := vcpu.registers.rflags } = { vcpu.registers with rsp := vcpu.vmcs.guestRsp }
  guestRsp : vcpu'.vmcs.guestRsp = vcpu.vmcs.guestRsp

/-- An exit that is no hypercall goes to its handler and back into the guest. -/
theorem hvmpExitHandler_handled {env : ExitEnvironment} {vcpu vcpu' : Vcpu} {reason : UInt32}
    (hreason : vcpu.exitReason = reason) (hnot : reason ≠ exitReasonVmcall)
    (hhandled : dsHvmExitHandler deepShieldHandlers env reason (loadGuestRegisters vcpu)
      = .ok vcpu') :
    hvmpExitHandler deepShieldHandlers env vcpu = .ok (storeGuestRegisters vcpu') := by
  unfold hvmpExitHandler
  simp only [hreason, if_neg (fun hk : _ ∧ _ => hnot hk.1), hhandled]
  rfl

/-- The exit for a WRMSR to `IA32_FS_BASE`. -/
theorem hvmpExitHandler_fsBase (env : ExitEnvironment) {vcpu : Vcpu}
    (hreason : vcpu.exitReason = exitReasonMsrWrite) (hecx : ecx vcpu.registers = ia32FsBase) :
    hvmpExitHandler deepShieldHandlers env vcpu = .ok (storeGuestRegisters
      (instrRipAdvance (hvmHandleMsrWriteFsBase env (loadGuestRegisters vcpu)))) := by
  have hregistered : hvmMsrHandlerRegistered (loadGuestRegisters vcpu).registers = true := by
    show (ecx vcpu.registers == ia32FsBase) = true
    rw [hecx]
    rfl
  have hswitch : dsHvmExitHandler deepShieldHandlers env exitReasonMsrWrite
      (loadGuestRegisters vcpu) = .ok (instrRipAdvance
        (hvmHandleMsrWriteFsBase env (loadGuestRegisters vcpu))) := by
    rw [dsHvmExitHandler, if_pos (show exitReasonMsrWrite ∈ commonExitReasons by decide)]
    show hvmVcpuCommonExitsHandler env exitReasonMsrWrite _ = _
    rw [hvmVcpuCommonExitsHandler, if_neg (by decide), if_neg (by decide), if_neg (by decide),
      if_neg (by decide), if_pos rfl, if_pos hregistered]
  exact hvmpExitHandler_handled hreason (by decide) hswitch

/-- Advancing touches RIP, and the trap flag. -/
theorem instrRipAdvance_keeps (vcpu : Vcpu) :
    (instrRipAdvance vcpu).vmcs.cr4 = vcpu.vmcs.cr4 ∧
      (instrRipAdvance vcpu).vmcs.guestFsBase = vcpu.vmcs.guestFsBase ∧
      ∃ rip rflags, (instrRipAdvance vcpu).registers
        = { vcpu.registers with
            rip := rip
            rflags := rflags } := by
  unfold instrRipAdvance
  simp only
  split
  next => exact ⟨rfl, rfl, _, _, rfl⟩
  next => exact ⟨rfl, rfl, _, _, rfl⟩

/-- **Per-quantum monitoring.** After the exit of the WRMSR to `IA32_FS_BASE` that
goes with a switch of threads, the thread that is current now is monitored exactly
if it is not excluded. -/
theorem quantum_monitored {s : PmState} {contents : UInt64 → List Exclusion}
    (hconsistent : Consistent s contents) {constraints : Cr4Constraints} {vcpu : Vcpu}
    (hlegal : Enterable constraints vcpu.vmcs.cr4)
    (hreason : vcpu.exitReason = exitReasonMsrWrite) (hecx : ecx vcpu.registers = ia32FsBase)
    (env : ExitEnvironment) (currentThread : UInt64) :
    ∃ trustLevel, pmGetClientTrustLevel s env.processId currentThread = some trustLevel ∧
      ∃ vcpu', hvmpExitHandler deepShieldHandlers
          { env with
            pmGetClientTrustLevel := trustLevel
            cr4Fixed := vmInitializeVmState constraints } vcpu = .ok vcpu' ∧
        Monitored (∃ e ∈ contents env.processId, e.entry.thread = currentThread) vcpu vcpu' := by
  refine ⟨_, hconsistent.pmGetClientTrustLevel env.processId currentThread, ?_⟩
  refine ⟨_, hvmpExitHandler_fsBase _ hreason hecx, ?_⟩
  have henable : (!Td.flagOn (if ∃ e ∈ contents env.processId, e.entry.thread = currentThread
      then trustLevelMassive else trustLevelNone) trustLevelExempted) = false ↔
        ∃ e ∈ contents env.processId, e.entry.thread = currentThread := by
    split
    next hexcluded => exact iff_of_true rfl hexcluded
    next hexcluded => exact iff_of_false (by decide) hexcluded
  obtain ⟨hcr4, hbase, rip, rflags, hregisters⟩ := instrRipAdvance_keeps
    (hvmHandleMsrWriteFsBase
      { env with
        pmGetClientTrustLevel :=
          if ∃ e ∈ contents env.processId, e.entry.thread = currentThread then trustLevelMassive
          else trustLevelNone
        cr4Fixed := vmInitializeVmState constraints } (loadGuestRegisters vcpu))
  obtain ⟨htsd, hothers, hmask, hshadow⟩ := hlegal.hvmTrimTsdForQuantum
    (!Td.flagOn (if ∃ e ∈ contents env.processId, e.entry.thread = currentThread
      then trustLevelMassive else trustLevelNone) trustLevelExempted)
  refine ⟨?_, ?_, ?_, ?_, hbase, ?_, ?_⟩
  · exact (congrArg (fun cr4 : Cr4Vmcs => cr4.guestCr4 &&& cr4Tsd = 0) hcr4).to_iff.trans
      (htsd.trans henable)
  · exact (congrArg (fun cr4 : Cr4Vmcs => cr4.guestCr4 &&& ~~~cr4Tsd) hcr4).trans hothers
  · exact (congrArg Cr4Vmcs.cr4GuestHostMask hcr4).trans hmask
  · exact (congrArg Cr4Vmcs.cr4ReadShadow hcr4).trans hshadow
  · show { (instrRipAdvance _).registers with
      rip := vcpu.registers.rip
      rflags := vcpu.registers.rflags } = _
    rw [hregisters]
    rfl
  · show (instrRipAdvance _).registers.rsp = _
    rw [hregisters]
    rfl

/-- In a new table, a switch to a thread of a process without an entry: monitored. -/
theorem quantum_monitored_newTable :
    ∃ trustLevel, pmGetClientTrustLevel pmInitializeProcessTable 4 0xFFFFFA8001234560
        = some trustLevel ∧
      ∃ vcpu', hvmpExitHandler deepShieldHandlers
          { bareEnvironment with
            pmGetClientTrustLevel := trustLevel
            cr4Fixed := vmInitializeVmState someConstraints }
          { userExitOf exitReasonMsrWrite 2 0x7FFDE000 0xC0000100 with
            vmcs := { (userExitOf exitReasonMsrWrite 2 0x7FFDE000 0xC0000100).vmcs with
              cr4 := dsHvmSetupVmcs (vmInitializeVmState someConstraints) 0x506F8 } } = .ok vcpu' ∧
        Monitored (∃ e ∈ ([] : List Exclusion), e.entry.thread = 0xFFFFFA8001234560)
          { userExitOf exitReasonMsrWrite 2 0x7FFDE000 0xC0000100 with
            vmcs := { (userExitOf exitReasonMsrWrite 2 0x7FFDE000 0xC0000100).vmcs with
              cr4 := dsHvmSetupVmcs (vmInitializeVmState someConstraints) 0x506F8 } } vcpu' :=
  quantum_monitored consistent_new (by unfold Enterable; decide) rfl rfl bareEnvironment
    0xFFFFFA8001234560

end DeepShield.Vmx
