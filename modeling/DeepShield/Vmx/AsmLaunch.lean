import DeepShield.Vmx.AsmExitHandler
import DeepShield.Vmx.Capabilities
import DeepShield.Vmx.GuestTsd
import DeepShield.Vmx.Launch

/-!
# Entering guest mode

`AsmHvmLaunch` of `amd64/hvm_a.asm` with the functions of `hvm_launch.c` it
calls. It saves the registers it uses, has `HvmpEnterRoot` turn VMX on and set the
VMCS up so that the guest starts at `vmlaunchReturn` on the very stack of the
call, and executes VMLAUNCH. From that label on one piece of code serves three
arrivals: the guest, and VMLAUNCH failed with or without a current VMCS, told
apart by ZF and CF. The guest arrives with both clear because
`VmcsSetCommonField` clears them. A VM entry can fail in a fourth way, while it loads the
guest's state; that is an exit, to HOST_RIP, and is left out here.

`asmHvmLaunch_returns` says what this amounts to, whichever instruction fails:
the call comes back on its own stack with its registers, and the processor is a
guest or out of VMX operation, as the status says. That is what `Launch` takes a
processor's launch to be.
-/

namespace DeepShield.Vmx

open DeepShield.Lib.X64 DeepShield.Os

/-! ## VMX operation of a processor -/

/-- A processor with its current VMCS, of which there are the fields
`VmcsSetCommonField` writes, and `Vcpu->Launched`. -/
structure LaunchState where
  processor : Processor
  currentVmcs : Bool
  guest : Bool
  launched : Bool
  hostRsp : BitVec 64
  guestRsp : BitVec 64
  guestRip : BitVec 64
  guestRflags : BitVec 64
  vmInstructionError : UInt32
deriving Repr, DecidableEq

/-- Which of the VMX instructions of a launch succeed; `vmlaunch` is the error
VMLAUNCH records in the VMCS if it does not. -/
structure LaunchHardware where
  asmVmxOn : Bool
  asmVmxClear : Bool
  asmVmxPtrLoad : Bool
  vmlaunch : Option UInt32
deriving Repr, DecidableEq

/-- `VmcsSetCommonField`. -/
def vmcsSetCommonField (hostRsp rip rsp flags : BitVec 64) (s : LaunchState) : LaunchState :=
  { s with
    hostRsp := hostRsp
    guestRsp := rsp
    guestRip := rip
    guestRflags := flags &&& ~~~(zfMask ||| cfMask) }

/-- `HvmpEnterRoot`. A VMCS that cannot be cleared or loaded leaves `Status` a
success, and none is current then. -/
def hvmpEnterRoot (hw : LaunchHardware) (vcpuRsp code stack flags : BitVec 64)
    (s : LaunchState) : NtStatus × LaunchState :=
  let (status, processor) := vmxpEnable hw.asmVmxOn s.processor
  if ntSuccess status = false then (status, { s with processor := processor })
  else
    let s := { s with processor := processor, currentVmcs := false }
    if hw.asmVmxClear = false then (status, s)
    else if hw.asmVmxPtrLoad = false then (status, s)
    else
      let s := vmcsSetCommonField vcpuRsp code stack flags { s with currentVmcs := true }
      (status, { s with launched := true })

/-- `VMX_STATUS`. -/
def vmxStatus (error : UInt32) : NtStatus := 0xEB1E0000 ||| (error &&& 0xFFFF)

/-- `HvmpFailure`. -/
def hvmpFailure (valid : Bool) (s : LaunchState) : NtStatus :=
  if valid then vmxStatus s.vmInstructionError else statusUnsuccessful

/-- `HvmpStartFailure`. -/
def hvmpStartFailure (valid : Bool) (s : LaunchState) : NtStatus × LaunchState :=
  let s := { s with launched := false }
  (hvmpFailure valid s, { s with processor := vmxpDisable s.processor, currentVmcs := false })

/-- VMLAUNCH. -/
def vmlaunchEntry (hw : LaunchHardware) (s : LaunchState) : VmEntry LaunchState :=
  if s.currentVmcs = false then .failInvalid s
  else
    match hw.vmlaunch with
    | some error => .failValid { s with vmInstructionError := error }
    | none => .entered s.guestRip s.guestRsp s.guestRflags { s with guest := true }

theorem ntSuccess_vmxStatus (error : UInt32) : ntSuccess (vmxStatus error) = false := by
  have hle : 0xEB1E0000 ≤ vmxStatus error := UInt32.left_le_or
  unfold ntSuccess
  simp only [decide_eq_false_iff_not, UInt32.not_lt]
  exact UInt32.le_trans (by decide) hle

/-- How the launch of a processor turns out, as `Launch` has it. -/
def LaunchHardware.startVcpu (hw : LaunchHardware) : Option NtFailure :=
  if hw.asmVmxOn && hw.asmVmxClear && hw.asmVmxPtrLoad then
    hw.vmlaunch.map fun error => ⟨vmxStatus error, ntSuccess_vmxStatus error⟩
  else some ⟨statusUnsuccessful, ntSuccess_statusUnsuccessful⟩

/-- The processor is a guest exactly if `started`, and in VMX operation, with
CR4.VMXE set, exactly then. -/
structure LaunchState.Decided (s : LaunchState) (started : Prop) : Prop where
  guest : s.guest = true ↔ started
  launched : s.launched = true ↔ started
  vmx : s.processor.vmx = true ↔ started
  vmxe : s.processor.cr4 &&& cr4Vmxe ≠ 0 ↔ started

/-! ## The routine -/

/-- The registers it saves and how it sets up the parameters of `HvmpEnterRoot`. -/
def launchPrologue : List Plain :=
  [.push .r9,
    .push .r8,
    .push .rbx,
    .push .rdx,
    .push .rcx,
    .mov .r9 .rcx,
    .pushfq,
    .pop .r8,
    .mov .rdx .rsp]

/-- How it returns. -/
def launchFinish : HvmCode :=
  [.plain (.pop .rcx), .plain (.pop .rdx), .plain (.pop .rbx), .plain (.pop .r8),
    .plain (.pop .r9), .ret]

/-- From `vmlaunchReturn` on. -/
def launchReturn : HvmCode :=
  checkVmEntry ++
    ([.plain (.xor .rax .rax), .jmp .finish] ++
      (callfVmEntryFailureHandler .hvmpStartFailure ++ (.label .finish :: launchFinish)))

/-- After `HvmpEnterRoot`. -/
def launchEnter : HvmCode :=
  [.plain (.cmpImm .rax 0), .jnz .finish, .vmlaunch, .label .vmlaunchReturn] ++ launchReturn

/-- `AsmHvmLaunch`. -/
def asmHvmLaunch : HvmCode :=
  launchPrologue.map .plain ++
    (.movLabel .rcx .vmlaunchReturn :: (Win64.callAligned .hvmpEnterRoot ++ launchEnter))

/-- From `fail` on. -/
def launchFail : HvmCode :=
  .plain (.load (.gpr .rcx) .rsp 0#64) ::
    (Win64.callAligned .hvmpStartFailure ++ (.label .finish :: launchFinish))

/-! ## What the routine runs on -/

/-- The bytes of the stack above the home space that the compiled functions
leave alone. -/
def launchFrameBytes : Nat := 0x40

/-- The compiled functions, called for the VCPU at `vcpu` with the root-mode stack
pointer `vcpuRsp`, compute what the functions do, return the status in EAX, which
clears the upper half of RAX, and keep the convention. -/
structure LaunchCompiled (hw : LaunchHardware) (vcpu vcpuRsp : BitVec 64)
    (p : Platform HvmFunction HvmLabel LaunchState) : Prop where
  enterRoot : ∀ {m : Machine LaunchState} {result : NtStatus × LaunchState},
    m.cpu.gpr .r9 = vcpu → (m.cpu.gpr .rsp + 8#64).toNat % 16 = 0 →
    hvmpEnterRoot hw vcpuRsp (m.cpu.gpr .rcx) (m.cpu.gpr .rdx) (m.cpu.gpr .r8) m.world =
      result →
    ∃ m', p.call .hvmpEnterRoot m = some m' ∧
      m'.cpu.gpr .rax = result.1.toBitVec.setWidth 64 ∧ m'.world = result.2 ∧
      Win64.Kept m.cpu m'.cpu (m.cpu.gpr .rsp + 0x28#64) launchFrameBytes
  startFailure : ∀ {m : Machine LaunchState} {result : NtStatus × LaunchState},
    m.cpu.gpr .rcx = vcpu → (m.cpu.gpr .rsp + 8#64).toNat % 16 = 0 →
    hvmpStartFailure ((m.cpu.gpr .rdx).setWidth 8 ≠ 0#8) m.world = result →
    ∃ m', p.call .hvmpStartFailure m = some m' ∧
      m'.cpu.gpr .rax = result.1.toBitVec.setWidth 64 ∧ m'.world = result.2 ∧
      Win64.Kept m.cpu m'.cpu (m.cpu.gpr .rsp + 0x28#64) launchFrameBytes
  vmlaunch : p.vmlaunch = vmlaunchEntry hw

/-! ## The frame -/

/-- The words on the stack of the routine, the return address last. -/
def launchFrame (s : State) : List (BitVec 64) :=
  [s.gpr .rcx, s.gpr .rdx, s.gpr .rbx, s.gpr .r8, s.gpr .r9, s.stackWord 0]

/-- The registers it never touches. -/
def launchUntouched : List Reg := [.rbp, .rsi, .rdi, .r12, .r13, .r14, .r15]

/-- A state of the routine entered in `s₀`: its words are on the stack. -/
structure InLaunch (s₀ s : State) : Prop where
  rsp : s.gpr .rsp = s₀.gpr .rsp - 40#64
  words : ∀ i < 6, some (s.stackWord i) = (launchFrame s₀)[i]?
  untouched : ∀ r ∈ launchUntouched, s.gpr r = s₀.gpr r

/-- A state at the return from the routine entered in `s₀`: the stack is that of
the caller, and of the registers only RAX and those a function may change that the
routine does not save are not as they were. -/
structure LaunchReturned (s₀ s : State) : Prop where
  rsp : s.gpr .rsp = s₀.gpr .rsp + 8#64
  saved : ∀ r ∈ [Reg.rcx, .rdx, .rbx, .r8, .r9], s.gpr r = s₀.gpr r
  untouched : ∀ r ∈ launchUntouched, s.gpr r = s₀.gpr r

theorem not_mem_launchUntouched_rsp : Reg.rsp ∉ launchUntouched := by decide

/-- Other registers may change. -/
theorem InLaunch.setGpr {s₀ s : State} (h : InLaunch s₀ s) {r : Reg} (v : BitVec 64)
    (hrsp : r ≠ .rsp) (hr : r ∉ launchUntouched) : InLaunch s₀ (s.setGpr r v) where
  rsp := by rw [State.setGpr_gpr, if_neg hrsp.symm, h.rsp]
  words i hi := by rw [State.stackWord_setGpr v i hrsp, h.words i hi]
  untouched q hq := by
    have hne : q ≠ r := by
      rintro rfl
      exact hr hq
    rw [State.setGpr_gpr, if_neg hne, h.untouched q hq]

theorem InLaunch.congr {s₀ s s' : State} (h : InLaunch s₀ s) (hslots : s'.slots = s.slots)
    (hmem : s'.memory = s.memory) : InLaunch s₀ s' := by
  have hgpr : ∀ r, s'.gpr r = s.gpr r := fun r => congrFun hslots _
  refine ⟨(hgpr _).trans h.rsp, fun i hi => ?_, fun r hr => (hgpr r).trans (h.untouched r hr)⟩
  rw [State.stackWord, hgpr, hmem]
  exact h.words i hi

/-- A compiled function that is called may change them. -/
theorem InLaunch.called {s₀ s s' : State} {a : BitVec 64} (h : InLaunch s₀ s)
    (hkept : Win64.Kept (Win64.callEntry s a) s'
      ((Win64.callEntry s a).gpr .rsp + 0x28#64) launchFrameBytes) :
    InLaunch s₀ (s'.setGpr .rsp (s.gpr .rsp)) where
  rsp := (State.setGpr_gpr_self ..).trans h.rsp
  words i hi := by
    rw [← h.words i hi]
    refine congrArg some (State.stackWord_congr (n := 48) (State.setGpr_gpr_self ..) (by omega)
      (by decide) fun x hx => ?_)
    exact hkept.above hx (by decide) (by decide)
  untouched r hr := by
    have hmem : r ∈ Win64.nonvolatile ∧ r ≠ .rsp ∧ r ≠ .rbx := by
      revert r
      decide
    rw [State.setGpr_gpr, if_neg hmem.2.1, hkept.nonvolatile r hmem.1, Win64.callEntry_gpr,
      if_neg hmem.2.1, if_neg hmem.2.2, h.untouched r hr]

/-- The five pushes lay the frame out. -/
theorem execAll_launchPrologue (s₀ : State) :
    ∃ s, execAll launchPrologue s₀ = some s ∧ InLaunch s₀ s ∧ s.gpr .rcx = s₀.gpr .rcx ∧
      s.gpr .r9 = s₀.gpr .rcx ∧ s.gpr .rdx = s.gpr .rsp ∧ s.gpr .r8 = s₀.rflags := by
  let pushed := ((((s₀.push (s₀.gpr .r9)).push (s₀.gpr .r8)).push (s₀.gpr .rbx)).push
    (s₀.gpr .rdx)).push (s₀.gpr .rcx)
  have hpushed : InLaunch s₀ pushed := by
    refine ⟨?_, fun i hi => ?_, fun r hr => ?_⟩
    · simp only [pushed, State.push_gpr, if_pos]
      bv_omega
    · rcases i with _ | _ | _ | _ | _ | _ | i
      · simp [pushed, launchFrame]
      · simp [pushed, launchFrame, State.stackWord_push_succ]
      · simp [pushed, launchFrame, State.stackWord_push_succ]
      · simp [pushed, launchFrame, State.stackWord_push_succ]
      · simp [pushed, launchFrame, State.stackWord_push_succ]
      · simp [pushed, launchFrame, State.stackWord_push_succ]
      · omega
    · have hne : r ≠ .rsp := by
        rintro rfl
        exact not_mem_launchUntouched_rsp hr
      simp only [pushed, State.push_gpr, if_neg hne]
  let flags := (pushed.setGpr .r9 (s₀.gpr .rcx)).push s₀.rflags
  have hflags : InLaunch s₀ flags.drop := by
    have hr9 := hpushed.setGpr (r := .r9) (s₀.gpr .rcx) (by decide) (by decide)
    refine ⟨?_, fun i hi => ?_, fun r hr => ?_⟩
    · rw [State.drop_gpr, if_pos rfl, State.push_gpr, if_pos rfl, ← hr9.rsp]
      exact BitVec.sub_add_cancel ..
    · rw [State.stackWord_drop, State.stackWord_push_succ _ _ (by omega), hr9.words i hi]
    · have hne : r ≠ .rsp := by
        rintro rfl
        exact not_mem_launchUntouched_rsp hr
      rw [State.drop_gpr, if_neg hne, State.push_gpr, if_neg hne, hr9.untouched r hr]
  refine ⟨(flags.drop.setGpr .r8 s₀.rflags).setGpr .rdx (flags.drop.gpr .rsp), ?_,
    (hflags.setGpr _ (by decide) (by decide)).setGpr _ (by decide) (by decide), ?_, ?_, ?_, ?_⟩
  · simp [launchPrologue, execAll, Plain.exec_pop_stackWord, -Plain.exec_pop, flags, pushed]
  · simp [flags, pushed]
  · simp [flags, pushed]
  · simp [flags, pushed]
  · simp [flags, pushed]

/-- **The return** from any state of the routine. -/
theorem reaches_launchFinish {p : Platform HvmFunction HvmLabel LaunchState} {s₀ s : State}
    (h : InLaunch s₀ s) (w : LaunchState) :
    ∃ s', Reaches p asmHvmLaunch (.run launchFinish ⟨s, w⟩)
        (.returned (s₀.stackWord 0) ⟨s', w⟩) ∧ LaunchReturned s₀ s' ∧
      s'.gpr .rax = s.gpr .rax := by
  have hword : ∀ i (hi : i < 6), s.stackWord i = (launchFrame s₀)[i] := fun i hi =>
    Option.some.inj ((h.words i hi).trans (List.getElem?_eq_getElem hi))
  let popped := ((((((((s.drop.setGpr .rcx (s₀.gpr .rcx)).drop).setGpr .rdx (s₀.gpr .rdx)).drop
    ).setGpr .rbx (s₀.gpr .rbx)).drop).setGpr .r8 (s₀.gpr .r8)).drop).setGpr .r9 (s₀.gpr .r9)
  have hexec : execAll [.pop .rcx, .pop .rdx, .pop .rbx, .pop .r8, .pop .r9] s = some popped := by
    simp [execAll, Plain.exec_pop_stackWord, State.stackWord_setGpr, State.stackWord_drop, hword,
      launchFrame, popped, -Plain.exec_pop]
  have hreturn : popped.stackWord 0 = s₀.stackWord 0 := by
    simp [popped, State.stackWord_setGpr, State.stackWord_drop, hword, launchFrame]
  refine ⟨popped.drop, ?_, ⟨?_, ?_, ?_⟩, ?_⟩
  · have hpops : Reaches p asmHvmLaunch (.run launchFinish ⟨s, w⟩) (.run [.ret] ⟨popped, w⟩) :=
      reaches_execAll (m := ⟨s, w⟩) hexec
    refine hpops.trans (Reaches.of_step ?_)
    rw [step, State.stackWord_zero, hreturn]
    rfl
  · simp only [popped, State.drop_gpr, State.setGpr_gpr, if_pos, h.rsp]
    simp only [reduceCtorEq, if_false]
    bv_omega
  · intro r hr
    simp only [List.mem_cons, List.not_mem_nil, or_false] at hr
    rcases hr with rfl | rfl | rfl | rfl | rfl <;> simp [popped]
  · intro r hr
    have hne : r ≠ .rcx ∧ r ≠ .rdx ∧ r ≠ .rbx ∧ r ≠ .r8 ∧ r ≠ .r9 ∧ r ≠ .rsp := by
      revert r
      decide
    simp [popped, hne, h.untouched r hr]
  · simp [popped]

/-! ## The ways through it -/

section Ways

variable {hw : LaunchHardware} {vcpu vcpuRsp : BitVec 64}
  {p : Platform HvmFunction HvmLabel LaunchState}

/-- Down to the return from `HvmpEnterRoot`, which got the code and the stack the
guest will start with. -/
theorem launch_prepared (hc : LaunchCompiled hw vcpu vcpuRsp p) {s₀ : State} {w : LaunchState}
    (hvcpu : s₀.gpr .rcx = vcpu) :
    ∃ s result, Reaches p asmHvmLaunch (.run asmHvmLaunch ⟨s₀, w⟩)
        (.run launchEnter ⟨s, result.2⟩) ∧ InLaunch s₀ s ∧
      hvmpEnterRoot hw vcpuRsp (p.labelAddress .vmlaunchReturn) (s.gpr .rsp) s₀.rflags w =
        result ∧
      s.gpr .rax = result.1.toBitVec.setWidth 64 := by
  obtain ⟨s₁, hprologue, hframe, hrcx, hr9, hrdx, hr8⟩ := execAll_launchPrologue s₀
  let s₂ := s₁.setGpr .rcx (p.labelAddress .vmlaunchReturn)
  have hframe₂ : InLaunch s₀ s₂ := hframe.setGpr _ (by decide) (by decide)
  have hrsp₂ : s₂.gpr .rsp = s₁.gpr .rsp := by simp [s₂]
  let entry := Win64.callEntry s₂ (p.returnAddress (.plain (.mov .rsp .rbx) :: launchEnter))
  have hargs : entry.gpr .rcx = p.labelAddress .vmlaunchReturn ∧
      entry.gpr .rdx = s₁.gpr .rsp ∧ entry.gpr .r8 = s₀.rflags := by
    simp [entry, s₂, hrdx, hr8]
  obtain ⟨result, hresult⟩ : ∃ result, hvmpEnterRoot hw vcpuRsp
      (p.labelAddress .vmlaunchReturn) (s₁.gpr .rsp) s₀.rflags w = result := ⟨_, rfl⟩
  have hcalled : hvmpEnterRoot hw vcpuRsp (entry.gpr .rcx) (entry.gpr .rdx) (entry.gpr .r8) w =
      result := by
    rw [hargs.1, hargs.2.1, hargs.2.2]
    exact hresult
  obtain ⟨m, hcall, hrax, hworld, hkept⟩ := hc.enterRoot (m := ⟨entry, w⟩)
    (by simp [entry, s₂, hr9, hvcpu])
    (by
      rw [Win64.callEntry_gpr, if_pos rfl]
      exact Win64.entryRsp_aligned _)
    hcalled
  have hreaches : Reaches p asmHvmLaunch
      (.run (Win64.callAligned .hvmpEnterRoot ++ launchEnter) ⟨s₂, w⟩) _ :=
    Win64.reaches_callAligned hcall hkept
  refine ⟨m.cpu.setGpr .rsp (s₂.gpr .rsp), result, ?_, hframe₂.called hkept, ?_, ?_⟩
  · refine (reaches_execAll (m := ⟨s₀, w⟩) hprologue).trans (Reaches.head rfl ?_)
    rw [← hworld]
    exact hreaches
  · rw [State.setGpr_gpr_self, hrsp₂]
    exact hresult
  · rw [State.setGpr_gpr, if_neg (by decide)]
    exact hrax

/-- From `fail` on, with what is in RDX as the second parameter of
`HvmpStartFailure`. -/
theorem launch_failed (hc : LaunchCompiled hw vcpu vcpuRsp p) {s₀ s : State} {w : LaunchState}
    {result : NtStatus × LaunchState} (h : InLaunch s₀ s) (hvcpu : s₀.gpr .rcx = vcpu)
    (hresult : hvmpStartFailure ((s.gpr .rdx).setWidth 8 ≠ 0#8) w = result) :
    ∃ s', Reaches p asmHvmLaunch (.run launchFail ⟨s, w⟩)
        (.returned (s₀.stackWord 0) ⟨s', result.2⟩) ∧ LaunchReturned s₀ s' ∧
      s'.gpr .rax = result.1.toBitVec.setWidth 64 := by
  let s₁ := s.setGpr .rcx vcpu
  have hload : (Plain.load (.gpr .rcx) .rsp 0#64).exec s = some s₁ := by
    have hword : s.stackWord 0 = s₀.gpr .rcx := Option.some.inj (h.words 0 (by decide))
    rw [Plain.exec_load_gpr, BitVec.add_zero, State.stackWord_zero, hword, hvcpu]
  have hframe₁ : InLaunch s₀ s₁ := h.setGpr _ (by decide) (by decide)
  let entry := Win64.callEntry s₁
    (p.returnAddress (.plain (.mov .rsp .rbx) :: .label .finish :: launchFinish))
  have hrdx : entry.gpr .rdx = s.gpr .rdx := by simp [entry, s₁]
  have hcalled : hvmpStartFailure ((entry.gpr .rdx).setWidth 8 ≠ 0#8) w = result := by
    rw [hrdx]
    exact hresult
  obtain ⟨m, hcall, hrax, hworld, hkept⟩ := hc.startFailure (m := ⟨entry, w⟩)
    (by simp [entry, s₁])
    (by
      rw [Win64.callEntry_gpr, if_pos rfl]
      exact Win64.entryRsp_aligned _)
    hcalled
  obtain ⟨s', hfinish, hreturned, hrax'⟩ :=
    reaches_launchFinish (p := p) (hframe₁.called hkept) m.world
  refine ⟨s', ?_, hreturned, ?_⟩
  · have hstep : step p asmHvmLaunch (.run launchFail ⟨s, w⟩) =
        some (.run (Win64.callAligned .hvmpStartFailure ++ (.label .finish :: launchFinish))
          ⟨s₁, w⟩) := by
      rw [launchFail, step, hload]
      rfl
    have hreaches : Reaches p asmHvmLaunch
        (.run (Win64.callAligned .hvmpStartFailure ++ (.label .finish :: launchFinish))
          ⟨s₁, w⟩) _ := Win64.reaches_callAligned hcall hkept
    rw [← hworld]
    exact Reaches.head hstep (hreaches.trans (Reaches.head rfl hfinish))
  · rw [hrax', State.setGpr_gpr, if_neg (by decide)]
    exact hrax

/-- A launch that could not enter VMX operation returns at once. -/
theorem launch_not_prepared {s₀ s : State} {w : LaunchState} (h : InLaunch s₀ s)
    (hrax : s.gpr .rax ≠ 0#64) :
    ∃ s', Reaches p asmHvmLaunch (.run launchEnter ⟨s, w⟩)
        (.returned (s₀.stackWord 0) ⟨s', w⟩) ∧ LaunchReturned s₀ s' ∧
      s'.gpr .rax = s.gpr .rax := by
  let s₁ := s.setFlags (s.gpr .rax = 0#64) (s.gpr .rax < 0#64)
  have hframe₁ : InLaunch s₀ s₁ := h.congr rfl rfl
  obtain ⟨s', hfinish, hreturned, hrax'⟩ := reaches_launchFinish (p := p) hframe₁ w
  have hzf : s₁.zf = false := by simp [s₁, hrax]
  refine ⟨s', Reaches.head rfl (Reaches.head ?_ hfinish), hreturned, hrax'⟩
  show some (Config.run (if s₁.zf then _ else fromLabel asmHvmLaunch .finish) _) = _
  rw [hzf]
  rfl

/-- VMLAUNCH is reached. -/
theorem launch_entering {s : State} {w : LaunchState} (hrax : s.gpr .rax = 0#64) :
    Reaches p asmHvmLaunch (.run launchEnter ⟨s, w⟩)
      (.run (.vmlaunch :: .label .vmlaunchReturn :: launchReturn)
        ⟨s.setFlags (s.gpr .rax = 0#64) (s.gpr .rax < 0#64), w⟩) := by
  refine Reaches.head rfl (Reaches.of_step ?_)
  show some (Config.run (if State.zf _ then _ else _) _) = _
  rw [State.setFlags_zf, hrax]
  rfl

/-- VMLAUNCH failed with a current VMCS. -/
theorem launch_failValid {s : State} {w : LaunchState} (hzf : s.zf = true) :
    Reaches p asmHvmLaunch (.run launchReturn ⟨s, w⟩)
      (.run launchFail ⟨s.setGpr .rdx 1#64, w⟩) := by
  refine Reaches.head rfl (Reaches.head (b := .run (fromLabel asmHvmLaunch .failValid) ⟨s, w⟩)
    ?_ (Reaches.head rfl (Reaches.of_step rfl)))
  show some (Config.run (if s.zf then fromLabel asmHvmLaunch .failValid else _) _) = _
  rw [hzf]
  rfl

/-- VMLAUNCH failed without one. -/
theorem launch_failInvalid {s : State} {w : LaunchState} (hzf : s.zf = false)
    (hcf : s.cf = true) :
    Reaches p asmHvmLaunch (.run launchReturn ⟨s, w⟩)
      (.run launchFail ⟨s.logic .rdx (s.gpr .rdx ^^^ s.gpr .rdx), w⟩) := by
  refine Reaches.head rfl (Reaches.head (b := .run (launchReturn.drop 2) ⟨s, w⟩) ?_
    (Reaches.head (b := .run (fromLabel asmHvmLaunch .failInvalid) ⟨s, w⟩) ?_
      (Reaches.head rfl (Reaches.of_step rfl))))
  · show some (Config.run (if s.zf then _ else launchReturn.drop 2) _) = _
    rw [hzf]
    rfl
  · show some (Config.run (if s.cf then fromLabel asmHvmLaunch .failInvalid else _) _) = _
    rw [hcf]
    rfl

/-- The guest has arrived. -/
theorem launch_arrived {s : State} {w : LaunchState} (hzf : s.zf = false) (hcf : s.cf = false) :
    Reaches p asmHvmLaunch (.run launchReturn ⟨s, w⟩)
      (.run launchFinish ⟨s.logic .rax (s.gpr .rax ^^^ s.gpr .rax), w⟩) := by
  refine Reaches.head rfl (Reaches.head (b := .run (launchReturn.drop 2) ⟨s, w⟩) ?_
    (Reaches.head (b := .run (launchReturn.drop 3) ⟨s, w⟩) ?_
      (Reaches.head rfl (Reaches.of_step rfl))))
  · show some (Config.run (if s.zf then _ else launchReturn.drop 2) _) = _
    rw [hzf]
    rfl
  · show some (Config.run (if s.cf then _ else launchReturn.drop 3) _) = _
    rw [hcf]
    rfl

/-- **VMLAUNCH fails**, and `HvmpStartFailure` hears how. -/
theorem launch_fails (hc : LaunchCompiled hw vcpu vcpuRsp p) (valid : Bool) {s₀ s : State}
    {w w' : LaunchState} (h : InLaunch s₀ s) (hvcpu : s₀.gpr .rcx = vcpu)
    (hrax : s.gpr .rax = 0#64)
    (hentry : vmlaunchEntry hw w = if valid then .failValid w' else .failInvalid w') :
    ∃ s', Reaches p asmHvmLaunch (.run launchEnter ⟨s, w⟩)
        (.returned (s₀.stackWord 0) ⟨s', (hvmpStartFailure valid w').2⟩) ∧
      LaunchReturned s₀ s' ∧
      s'.gpr .rax = (hvmpStartFailure valid w').1.toBitVec.setWidth 64 := by
  let s₁ := (s.setFlags (s.gpr .rax = 0#64) (s.gpr .rax < 0#64)).setFlags valid (!valid)
  have hframe₁ : InLaunch s₀ s₁ := h.congr rfl rfl
  have hfailed : Reaches p asmHvmLaunch (.run launchEnter ⟨s, w⟩) (.run launchReturn ⟨s₁, w'⟩) := by
    refine (launch_entering hrax).trans (Reaches.head
      (b := .run (.label .vmlaunchReturn :: launchReturn) ⟨s₁, w'⟩) ?_ (Reaches.of_step rfl))
    rw [step, hc.vmlaunch, hentry]
    cases valid <;> rfl
  -- RDX tells how
  obtain ⟨s₂, hfail, hframe₂, hvalid⟩ : ∃ s₂,
      Reaches p asmHvmLaunch (.run launchReturn ⟨s₁, w'⟩) (.run launchFail ⟨s₂, w'⟩) ∧
      InLaunch s₀ s₂ ∧ decide ((s₂.gpr .rdx).setWidth 8 ≠ 0#8) = valid := by
    cases valid with
    | true =>
      exact ⟨_, launch_failValid (State.setFlags_zf ..),
        hframe₁.setGpr _ (by decide) (by decide), by simp⟩
    | false =>
      exact ⟨_, launch_failInvalid (State.setFlags_zf ..) (State.setFlags_cf ..),
        (hframe₁.setGpr _ (by decide) (by decide)).congr rfl rfl, by simp⟩
  obtain ⟨s', hreturn, hreturned, hrax'⟩ := launch_failed hc hframe₂ hvcpu (by rw [hvalid])
  exact ⟨s', (hfailed.trans hfail).trans hreturn, hreturned, hrax'⟩

/-- **VMLAUNCH enters the guest**, on the stack of the call and with ZF and CF
clear. -/
theorem launch_enters (hc : LaunchCompiled hw vcpu vcpuRsp p) {s₀ s : State}
    {w w' : LaunchState} {rflags : BitVec 64} (h : InLaunch s₀ s) (hrax : s.gpr .rax = 0#64)
    (hentry : vmlaunchEntry hw w =
      .entered (p.labelAddress .vmlaunchReturn) (s.gpr .rsp) rflags w')
    (hzf : rflags &&& zfMask = 0) (hcf : rflags &&& cfMask = 0) :
    ∃ s', Reaches p asmHvmLaunch (.run launchEnter ⟨s, w⟩)
        (.returned (s₀.stackWord 0) ⟨s', w'⟩) ∧ LaunchReturned s₀ s' ∧ s'.gpr .rax = 0#64 := by
  let s₁ : State := { (s.setFlags (s.gpr .rax = 0#64) (s.gpr .rax < 0#64)).setGpr .rsp
    (s.gpr .rsp) with rflags := rflags }
  have hframe₁ : InLaunch s₀ s₁ := h.congr (Function.update_eq_self ..) rfl
  have harrived : Reaches p asmHvmLaunch (.run launchEnter ⟨s, w⟩)
      (.run launchReturn ⟨s₁, w'⟩) := by
    refine (launch_entering hrax).trans (Reaches.head
      (b := .guest (p.labelAddress .vmlaunchReturn) ⟨s₁, w'⟩) ?_ (Reaches.of_step ?_))
    · rw [step, hc.vmlaunch, hentry]
      rfl
    · have hfind : (labelsOf asmHvmLaunch).find?
          (fun l => p.labelAddress l = p.labelAddress .vmlaunchReturn) =
            some .vmlaunchReturn := List.find?_cons_of_pos (by simp)
      rw [step, hfind]
      rfl
  have hzf₁ : s₁.zf = false := by simp [State.zf, s₁, hzf]
  have hcf₁ : s₁.cf = false := by simp [State.cf, s₁, hcf]
  have hframe₂ : InLaunch s₀ (s₁.logic .rax (s₁.gpr .rax ^^^ s₁.gpr .rax)) :=
    (hframe₁.setGpr (r := .rax) _ (by decide) (by decide)).congr rfl rfl
  obtain ⟨s', hreturn, hreturned, hrax'⟩ := reaches_launchFinish (p := p) hframe₂ w'
  exact ⟨s', (harrived.trans (launch_arrived hzf₁ hcf₁)).trans hreturn, hreturned,
    hrax'.trans (by simp)⟩

end Ways

/-! ## The launch of a processor -/

/-- A processor that is not in VMX operation. -/
structure LaunchState.Off (w : LaunchState) : Prop where
  guest : w.guest = false
  launched : w.launched = false
  vmx : w.processor.vmx = false

theorem vmxe_set (cr4 : UInt64) : (cr4 ||| cr4Vmxe) &&& cr4Vmxe ≠ 0 :=
  or_and_ne_zero 13 (by decide) (by decide)

theorem vmxe_cleared (cr4 : UInt64) : cr4 &&& ~~~cr4Vmxe &&& cr4Vmxe = 0 := by
  rw [UInt64.and_assoc, show ~~~cr4Vmxe &&& cr4Vmxe = 0 by decide, UInt64.and_zero]

/-- Whatever `HvmpStartFailure` finds, it leaves no VMX operation. -/
theorem decided_startFailure {valid : Bool} {w : LaunchState} (h : w.guest = false) :
    (hvmpStartFailure valid w).2.Decided False where
  guest := by simp [hvmpStartFailure, h]
  launched := by simp [hvmpStartFailure]
  vmx := by simp [hvmpStartFailure, vmxpDisable, restoreHostCr4Vmxe]
  vmxe := by simp [hvmpStartFailure, vmxpDisable, restoreHostCr4Vmxe, vmxe_cleared]

section Outcomes

variable {hw : LaunchHardware} {vcpuRsp code stack flags : BitVec 64} {w : LaunchState}

/-- VMXON fails: VMXE is taken back. -/
theorem hvmpEnterRoot_off (h : hw.asmVmxOn = false) (hoff : w.Off) :
    ∃ w', hvmpEnterRoot hw vcpuRsp code stack flags w = (statusUnsuccessful, w') ∧
      w'.Decided False := by
  refine ⟨{ w with
    processor := restoreHostCr4Vmxe false (restoreHostCr4Vmxe true w.processor) }, ?_, ?_⟩
  · simp [hvmpEnterRoot, vmxpEnable, h]
  · exact ⟨by simp [hoff.guest], by simp [hoff.launched],
      by simp [restoreHostCr4Vmxe, hoff.vmx], by simp [restoreHostCr4Vmxe, vmxe_cleared]⟩

/-- The VMCS cannot be made current. -/
theorem hvmpEnterRoot_noVmcs (h : hw.asmVmxOn = true)
    (hvmcs : (hw.asmVmxClear && hw.asmVmxPtrLoad) = false) :
    ∃ w', hvmpEnterRoot hw vcpuRsp code stack flags w = (statusSuccess, w') ∧
      w'.currentVmcs = false ∧ w'.guest = w.guest := by
  refine ⟨{ w with
    processor := { restoreHostCr4Vmxe true w.processor with vmx := true }
    currentVmcs := false }, ?_, rfl, rfl⟩
  unfold hvmpEnterRoot vmxpEnable
  cases hclear : hw.asmVmxClear with
  | false => simp [h]
  | true =>
    rw [hclear, Bool.true_and] at hvmcs
    simp [h, hvmcs]

/-- The guest is set up. -/
theorem hvmpEnterRoot_prepared (h : hw.asmVmxOn = true) (hclear : hw.asmVmxClear = true)
    (hload : hw.asmVmxPtrLoad = true) :
    ∃ w', hvmpEnterRoot hw vcpuRsp code stack flags w = (statusSuccess, w') ∧
      w'.currentVmcs = true ∧ w'.guest = w.guest ∧
      ({ w' with guest := true } : LaunchState).Decided True ∧ w'.guestRip = code ∧
      w'.guestRsp = stack ∧ w'.guestRflags = flags &&& ~~~(zfMask ||| cfMask) := by
  refine ⟨{ vmcsSetCommonField vcpuRsp code stack flags { w with
      processor := { restoreHostCr4Vmxe true w.processor with vmx := true }
      currentVmcs := true } with
    launched := true }, ?_, rfl, rfl, ⟨?_, ?_, ?_, ?_⟩, rfl, rfl, rfl⟩
  · simp [hvmpEnterRoot, vmxpEnable, h, hclear, hload]
  · simp
  · simp
  · simp [vmcsSetCommonField]
  · simp [vmcsSetCommonField, restoreHostCr4Vmxe, vmxe_set]

end Outcomes

/-- **The launch of a processor.** However the VMX instructions turn out,
`AsmHvmLaunch` returns to its caller, with the caller's stack and registers; the
status it returns is that of the launch, and the processor then is a guest in VMX
operation, or neither. -/
theorem asmHvmLaunch_returns {hw : LaunchHardware} {vcpu vcpuRsp : BitVec 64}
    {p : Platform HvmFunction HvmLabel LaunchState} (hc : LaunchCompiled hw vcpu vcpuRsp p)
    {s₀ : State} {w : LaunchState} (hvcpu : s₀.gpr .rcx = vcpu) (hoff : w.Off) :
    ∃ s w', Reaches p asmHvmLaunch (.run asmHvmLaunch ⟨s₀, w⟩)
        (.returned (s₀.stackWord 0) ⟨s, w'⟩) ∧ LaunchReturned s₀ s ∧
      s.gpr .rax = (statusOf hw.startVcpu).toBitVec.setWidth 64 ∧
      w'.Decided (hw.startVcpu = none) := by
  obtain ⟨s₁, result, hprepared, hframe, hresult, hrax⟩ := launch_prepared hc (w := w) hvcpu
  cases hon : hw.asmVmxOn with
  | false =>
    have hstart : hw.startVcpu = some ⟨statusUnsuccessful, ntSuccess_statusUnsuccessful⟩ := by
      simp [LaunchHardware.startVcpu, hon]
    obtain ⟨w₁, henter, hdecided⟩ := hvmpEnterRoot_off hon hoff
    obtain rfl := henter.symm.trans hresult
    obtain ⟨s', hreturn, hreturned, hrax'⟩ := launch_not_prepared (p := p) (w := w₁) hframe
      (by rw [hrax]; exact (by decide : statusUnsuccessful.toBitVec.setWidth 64 ≠ 0#64))
    refine ⟨s', w₁, hprepared.trans hreturn, hreturned, ?_, by simpa [hstart] using hdecided⟩
    rw [hrax', hrax, hstart]
    rfl
  | true =>
    cases hvmcs : hw.asmVmxClear && hw.asmVmxPtrLoad with
    | false =>
      -- VMLAUNCH finds no current VMCS
      have hstart : hw.startVcpu = some ⟨statusUnsuccessful, ntSuccess_statusUnsuccessful⟩ := by
        simp only [LaunchHardware.startVcpu, hon, Bool.true_and, hvmcs]
        rfl
      obtain ⟨w₁, henter, hcurrent, hguest⟩ := hvmpEnterRoot_noVmcs hon hvmcs
      obtain rfl := henter.symm.trans hresult
      have hentry : vmlaunchEntry hw w₁ = .failInvalid w₁ := if_pos hcurrent
      obtain ⟨s', hreturn, hreturned, hrax'⟩ :=
        launch_fails hc false hframe hvcpu hrax hentry
      refine ⟨s', _, hprepared.trans hreturn, hreturned, ?_, ?_⟩
      · rw [hrax', hstart]
        rfl
      · simpa [hstart] using decided_startFailure (hguest.trans hoff.guest)
    | true =>
      obtain ⟨hclear, hload⟩ := Bool.and_eq_true_iff.mp hvmcs
      obtain ⟨w₁, henter, hcurrent, hguest, hdecided, hrip, hrsp, hrflags⟩ :=
        hvmpEnterRoot_prepared hon hclear hload
      obtain rfl := henter.symm.trans hresult
      cases hvmlaunch : hw.vmlaunch with
      | some error =>
        have hstart : hw.startVcpu = some ⟨vmxStatus error, ntSuccess_vmxStatus error⟩ := by
          simp [LaunchHardware.startVcpu, hon, hclear, hload, hvmlaunch]
        have hentry : vmlaunchEntry hw w₁ =
            .failValid { w₁ with vmInstructionError := error } := by
          simp [vmlaunchEntry, hcurrent, hvmlaunch]
        obtain ⟨s', hreturn, hreturned, hrax'⟩ :=
          launch_fails hc true hframe hvcpu hrax hentry
        refine ⟨s', _, hprepared.trans hreturn, hreturned, ?_, ?_⟩
        · rw [hrax', hstart]
          rfl
        · simpa [hstart] using decided_startFailure
            (w := { w₁ with vmInstructionError := error }) (hguest.trans hoff.guest)
      | none =>
        have hstart : hw.startVcpu = none := by
          simp [LaunchHardware.startVcpu, hon, hclear, hload, hvmlaunch]
        have hentry : vmlaunchEntry hw w₁ =
            .entered (p.labelAddress .vmlaunchReturn) (s₁.gpr .rsp)
              (s₀.rflags &&& ~~~(zfMask ||| cfMask)) { w₁ with guest := true } := by
          simp [vmlaunchEntry, hcurrent, hvmlaunch, hrip, hrsp, hrflags]
        obtain ⟨s', hreturn, hreturned, hrax'⟩ := launch_enters hc hframe hrax hentry
          (clear_flags_and (by decide)) (clear_flags_and (by decide))
        refine ⟨s', _, hprepared.trans hreturn, hreturned, ?_, by simpa [hstart] using hdecided⟩
        rw [hrax', hstart]
        rfl

/-! ## The plainest compiled functions -/

/-- They do what the functions do and touch nothing else. -/
def plainLaunchCall (hw : LaunchHardware) (vcpuRsp : BitVec 64) :
    HvmFunction → Machine LaunchState → Option (Machine LaunchState)
  | .hvmpEnterRoot, m =>
    let result := hvmpEnterRoot hw vcpuRsp (m.cpu.gpr .rcx) (m.cpu.gpr .rdx) (m.cpu.gpr .r8)
      m.world
    some ⟨(m.cpu.setGpr .rax (result.1.toBitVec.setWidth 64)).drop, result.2⟩
  | .hvmpStartFailure, m =>
    let result := hvmpStartFailure ((m.cpu.gpr .rdx).setWidth 8 ≠ 0#8) m.world
    some ⟨(m.cpu.setGpr .rax (result.1.toBitVec.setWidth 64)).drop, result.2⟩
  | _, _ => none

/-- A launch on them. -/
def plainLaunch (hw : LaunchHardware) (vcpuRsp : BitVec 64) :
    Platform HvmFunction HvmLabel LaunchState where
  call := plainLaunchCall hw vcpuRsp
  labelAddress
    | .vmlaunchReturn => 0
    | .failValid => 1
    | .failInvalid => 2
    | .fail => 3
    | .finish => 4
  returnAddress _ := 0
  vmlaunch := vmlaunchEntry hw
  vmresume := .failInvalid

theorem kept_plainCall {s : State} {v frame : BitVec 64} {n : Nat} :
    Win64.Kept s (s.setGpr .rax v).drop frame n where
  rsp := by simp
  nonvolatile r hr := by
    have hne : r ≠ .rsp ∧ r ≠ .rax := by
      revert r
      decide
    simp [hne]
  frame _ _ := rfl

theorem launchCompiled_plain (hw : LaunchHardware) (vcpu vcpuRsp : BitVec 64) :
    LaunchCompiled hw vcpu vcpuRsp (plainLaunch hw vcpuRsp) where
  enterRoot := by
    intro m result _ _ hresult
    refine ⟨⟨(m.cpu.setGpr .rax (result.1.toBitVec.setWidth 64)).drop, result.2⟩, ?_, by simp,
      rfl, kept_plainCall⟩
    rw [← hresult]
    rfl
  startFailure := by
    intro m result _ _ hresult
    refine ⟨⟨(m.cpu.setGpr .rax (result.1.toBitVec.setWidth 64)).drop, result.2⟩, ?_, by simp,
      rfl, kept_plainCall⟩
    rw [← hresult]
    rfl
  vmlaunch := rfl

/-! ## Against the model of the launch -/

/-- **`HvmpStartVcpu`, assembled.** `Launch` has a processor's launch as one step
with a given outcome. The routine is that step: it returns the status, and the
processor is a guest in VMX operation exactly if the step makes it one, whichever of the VMX
instructions fail. Not among their outcomes is a VM entry that fails while it loads the guest's
state: it is an exit to HOST_RIP, not a failure of VMLAUNCH. -/
theorem hvmpStartVcpu_assembled {hw : Nat → LaunchHardware} {vcpuId : Nat}
    {vcpu vcpuRsp : BitVec 64} {p : Platform HvmFunction HvmLabel LaunchState}
    (hc : LaunchCompiled (hw vcpuId) vcpu vcpuRsp p) {s₀ : State} {w : LaunchState}
    (hvcpu : s₀.gpr .rcx = vcpu) (hoff : w.Off) {hvm : DsHvm}
    (hguest : hvm.guest vcpuId = w.guest) :
    ∃ s w', Reaches p asmHvmLaunch (.run asmHvmLaunch ⟨s₀, w⟩)
        (.returned (s₀.stackWord 0) ⟨s, w'⟩) ∧ LaunchReturned s₀ s ∧
      s.gpr .rax =
        (hvmpStartVcpu (fun i => (hw i).startVcpu) vcpuId hvm).1.toBitVec.setWidth 64 ∧
      w'.Decided
        ((hvmpStartVcpu (fun i => (hw i).startVcpu) vcpuId hvm).2.guest vcpuId = true) := by
  obtain ⟨s, w', hreturn, hreturned, hrax, hdecided⟩ := asmHvmLaunch_returns hc hvcpu hoff
  have hstarted : (hvmpStartVcpu (fun i => (hw i).startVcpu) vcpuId hvm).2.guest vcpuId = true ↔
      (hw vcpuId).startVcpu = none := by
    unfold hvmpStartVcpu
    by_cases hstart : (hw vcpuId).startVcpu = none
    · simp [hstart]
    · simp [hstart, hguest, hoff.guest]
  exact ⟨s, w', hreturn, hreturned, hrax, propext hstarted ▸ hdecided⟩

/-- A processor before the launch, its CR4 all zero. -/
def idleProcessor : LaunchState where
  processor := default
  currentVmcs := false
  guest := false
  launched := false
  hostRsp := 0
  guestRsp := 0
  guestRip := 0
  guestRflags := 0
  vmInstructionError := 0

/-- The call of the routine, with ZF set. -/
def launchCaller : State := ⟨fun _ => 0, 0x246#64, fun _ => 0⟩

/-- A VMCS that cannot be loaded: VMLAUNCH fails, and the processor is out of VMX
operation again. -/
theorem hvmpStartVcpu_assembled_noVmcs :
    ∃ s w', Reaches (plainLaunch ⟨true, true, false, none⟩ 0x22FC0#64) asmHvmLaunch
        (.run asmHvmLaunch ⟨launchCaller, idleProcessor⟩)
        (.returned (launchCaller.stackWord 0) ⟨s, w'⟩) ∧
      s.gpr .rax = 0xC0000001#64 ∧ w'.processor.vmx = false := by
  obtain ⟨s, w', hreturn, -, hrax, hdecided⟩ :=
    @hvmpStartVcpu_assembled (fun _ => ⟨true, true, false, none⟩) 0 0#64 0x22FC0#64 _
      (launchCompiled_plain _ _ _) launchCaller idleProcessor rfl
      ⟨rfl, rfl, rfl⟩ .unloaded rfl
  refine ⟨s, w', hreturn, hrax, ?_⟩
  have hstep : (hvmpStartVcpu (fun _ => (⟨true, true, false, none⟩ : LaunchHardware).startVcpu)
    0 .unloaded).2.guest 0 = false := rfl
  have hvmx := hdecided.vmx
  rw [hstep] at hvmx
  simpa using hvmx

end DeepShield.Vmx
