import DeepShield.Vmx.Devirtualise
import DeepShield.Vmx.RootMode

/-!
# The last exit of a guest, down to its registers

A VMCALL for the stop service does not come back through VMRESUME. `HvmpStop` builds
an IRET frame on the stack of root mode, puts the guest's state into the processor, leaves
VMX operation, and ends in `AsmHvmpStop` of `amd64/hvm_a.asm`, which moves RSP to the frame,
restores the registers from the save area and executes IRETQ.

`Devirtualise` has all of this as one function on records, `hvmHandleServiceStop`. Here
the routine is assembler, as in `RootMode`, and `guestRun_stopped` continues the run of exits
there by this last one: behind the IRETQ the processor is what the function computes, and the
vector registers, which the function does not know, are the guest's.
-/

namespace DeepShield.Vmx

open DeepShield.Lib.X64 DeepShield.Os

/-! ## The routine -/

/-- What `AsmHvmpStop` does with its parameters, the frame and the save area. -/
def stopParameters : List Plain := [.mov .rsp .rcx, .mov .rbx .rdx]

/-- `AsmHvmpStop`. -/
def asmHvmpStopCode : HvmCode := (stopParameters ++ cpuRestoreRegs).map .plain ++ [.iretq]

/-- The `IRET_FRAME` at `a`. -/
def iretFrameAt (m : Memory) (a : BitVec 64) : IretFrame where
  rip := m.read (a + BitVec.ofNat 64 (8 * 0)) 8
  cs := m.read (a + BitVec.ofNat 64 (8 * 1)) 8
  rflags := m.read (a + BitVec.ofNat 64 (8 * 2)) 8
  rsp := m.read (a + BitVec.ofNat 64 (8 * 3)) 8
  ss := m.read (a + BitVec.ofNat 64 (8 * 4)) 8

/-- The frame `HvmpStop` fills in. -/
def hvmpStopFrame (host : HostSavedState) (registers : GpRegisters) : IretFrame where
  rip := registers.rip.toBitVec
  cs := host.cs.toBitVec.zeroExtend 64
  rflags := registers.rflags.toBitVec
  rsp := registers.rsp.toBitVec
  ss := host.ss.toBitVec.zeroExtend 64

/-- Load the two selectors an IRETQ pops. -/
def loadSelectors (frame : IretFrame) (processor : Processor) : Processor :=
  { processor with
    host := { processor.host with
      cs := .ofBitVec (frame.cs.truncate 16)
      ss := .ofBitVec (frame.ss.truncate 16) } }

/-- Where the processor is after an IRETQ, and what it is. -/
def afterIretq (frame : IretFrame) (m : Machine Processor) : BitVec 64 × Machine Processor :=
  (frame.rip, ⟨{ m.cpu.setGpr .rsp frame.rsp with rflags := frame.rflags },
    loadSelectors frame m.world⟩)

theorem afterIretq_slots {frame : IretFrame} {m : Machine Processor} {x : Slot}
    (hx : x ≠ .gpr .rsp) : (afterIretq frame m).2.cpu.slots x = m.cpu.slots x :=
  State.setGpr_slots_of_ne hx

/-- **The routine**: the registers are those of the save area, but for what the IRETQ
takes from the frame. It writes nothing. -/
theorem asmHvmpStop_reaches {k : VcpuPlacement} (p : Platform HvmFunction HvmLabel Processor)
    {m : Machine Processor} (hrdx : m.cpu.gpr .rdx = k.vcpu)
    (hmxcsr : Slot.Holds .mxcsr (savedAt saveOffset m.cpu.memory k.vcpu .mxcsr)) :
    ∃ m', Reaches p asmHvmpStopCode (.run asmHvmpStopCode m)
        (.iret (iretFrameAt m.cpu.memory (m.cpu.gpr .rcx)) m') ∧ m'.world = m.world ∧
      ∀ x, x ≠ .gpr .rsp → m'.cpu.slots x = savedAt saveOffset m.cpu.memory k.vcpu x := by
  -- RSP and RBX come from the parameters
  let s := (m.cpu.setGpr .rsp (m.cpu.gpr .rcx)).setGpr .rbx (m.cpu.gpr .rdx)
  have hrbx : s.gpr .rbx = k.vcpu := (State.setGpr_gpr_self _ _ _).trans hrdx
  have hrsp : s.gpr .rsp = m.cpu.gpr .rcx := by simp [s]
  obtain ⟨s', hrestore, hrsp', hmem', hslots'⟩ := execAll_cpuRestoreRegs hrbx hmxcsr
  have hmoves : execAll stopParameters m.cpu = some s := by simp [stopParameters, execAll, s]
  have hexec : execAll (stopParameters ++ cpuRestoreRegs) m.cpu = some s' := by
    rw [execAll_append, hmoves, Option.bind_some]
    exact hrestore
  have hframe : iretFrameAt s'.memory (s'.gpr .rsp)
      = iretFrameAt m.cpu.memory (m.cpu.gpr .rcx) := by
    rw [hmem', hrsp', hrsp]
    rfl
  refine ⟨⟨s', m.world⟩, ?_, rfl, hslots'⟩
  rw [← hframe]
  exact Reaches.trans (reaches_execAll hexec) (Reaches.of_step rfl)

/-! ## The record and the processor -/

/-- The processor at `c`, vector registers included, is the record `processor`. -/
structure IsProcessor (c : BitVec 64 × Machine Processor) (processor : Processor)
    (xmm : Fin 16 → BitVec 128) (mxcsr : BitVec 32) : Prop where
  gpr : ∀ r, c.2.cpu.gpr r = processor.registers.gpr r
  rip : c.1 = processor.registers.rip.toBitVec
  rflags : c.2.cpu.rflags = processor.registers.rflags.toBitVec
  xmm : ∀ i, c.2.cpu.slots (.xmm i) = xmm i
  mxcsr : c.2.cpu.slots .mxcsr = mxcsr
  others : { c.2.world with registers := processor.registers } = processor

/-- `HvmpStop` up to the call of `AsmHvmpStop`. -/
def hvmpStopProcessor (host : HostSavedState) (stop : StopVmcs) (vmcs : Vmcs)
    (processor : Processor) : Processor :=
  vmxpDisable (hvmpRestoreHostState host stop vmcs processor)

/-- What a stop call leaves in the record of the virtual processor. -/
def stoppedVcpu (vcpu : Vcpu) : Vcpu :=
  let vcpu := instrRipAdvance vcpu
  { vcpu with registers := { vcpu.registers with rax := statusSuccess.toUInt64 } }

/-- The selectors of the frame are those saved at the launch. -/
theorem loadSelectors_hvmpStopFrame (host : HostSavedState) (stop : StopVmcs)
    (vcpu : Vcpu) (processor : Processor) :
    { loadSelectors (hvmpStopFrame host vcpu.registers)
        (hvmpStopProcessor host stop vcpu.vmcs processor) with registers := vcpu.registers } =
      hvmpStop host stop vcpu processor := by
  have hselector : ∀ x : UInt16, UInt16.ofBitVec ((x.toBitVec.zeroExtend 64).truncate 16) = x := by
    intro x
    refine UInt16.toBitVec_inj.mp ?_
    exact BitVec.eq_of_toNat_eq (by simp)
  unfold loadSelectors hvmpStopFrame
  simp only [hselector]
  rfl

/-! ## What the stop runs on -/

/-- The compiled `HvmpExitHandler` where the guest calls for the stop: it does not return.
It arrives in `AsmHvmpStop` with the frame and the save area as the parameters, the processor
out of VMX operation, and the vector registers of the guest still in the save area. The part
of the processor that root mode runs with is `processor`; `host` was saved at the launch. -/
structure StopMode (k : VcpuPlacement) (host : HostSavedState) (stop : StopVmcs)
    (processor : Processor)
    (arrives : ExitEnvironment → Machine Vcpu → Option (Machine Processor)) : Prop where
  hvmpStop : ∀ {env : ExitEnvironment} {m : Machine Vcpu} {vcpu : Vcpu},
    m.cpu.gpr .rcx = k.vcpu → m.cpu.gpr .rdx = k.vcpu →
    m.cpu.gpr .rsp = Win64.entryRsp k.rsp → (m.cpu.gpr .rsp + 8#64).toNat % 16 = 0 →
    loadGuestRegisters { m.world with registers := gpRegistersAt m.cpu.memory k.vcpu } = vcpu →
    vcpu.exitReason = exitReasonVmcall → vcpu.registers.rax = hvmCallMagic →
    vcpu.registers.rcx = hvmInternalServiceStop →
    ∃ m', arrives env m = some m' ∧ m'.cpu.gpr .rdx = k.vcpu ∧
      iretFrameAt m'.cpu.memory (m'.cpu.gpr .rcx)
        = hvmpStopFrame host (stoppedVcpu vcpu).registers ∧
      m'.world = hvmpStopProcessor host stop (stoppedVcpu vcpu).vmcs processor ∧
      gpRegistersAt m'.cpu.memory k.vcpu = (stoppedVcpu vcpu).registers ∧
      ∀ x, (∀ r, x ≠ .gpr r) →
        savedAt saveOffset m'.cpu.memory k.vcpu x = savedAt saveOffset m.cpu.memory k.vcpu x

/-- The last exit, from its first instruction in root mode through the compiled handler to
the instruction behind the IRETQ. -/
inductive AsmStop {k : VcpuPlacement}
    (p : ExitEnvironment → Platform HvmFunction HvmLabel Vcpu)
    (arrives : ExitEnvironment → Machine Vcpu → Option (Machine Processor))
    (q : Platform HvmFunction HvmLabel Processor) :
    Machine Vcpu → ExitEnvironment → GuestStint k → BitVec 64 × Machine Processor → Prop
  | intro {m : Machine Vcpu} {env : ExitEnvironment} {e : GuestStint k} {called : Machine Vcpu}
      {arrived left : Machine Processor} {frame : IretFrame}
      (entered : Reaches (p env) asmHvmpExitHandler (.run asmHvmpExitHandler (e.exit m))
        (.run (Win64.callAligned .hvmpExitHandler ++ resumeGuest) called))
      (stopped : arrives env (called.onCpu fun s => Win64.callEntry s
        ((p env).returnAddress (.plain (.mov .rsp .rbx) :: resumeGuest))) = some arrived)
      (returned : Reaches q asmHvmpStopCode (.run asmHvmpStopCode arrived) (.iret frame left)) :
      AsmStop p arrives q m env e (afterIretq frame left)

/-- A guest that calls for the stop. -/
structure GuestStint.StopCall {k : VcpuPlacement} (e : GuestStint k) (vmcs : Vmcs) : Prop where
  reason : (e.vmcs vmcs).exitReason &&& 0xFFFF = exitReasonVmcall
  magic : e.cpu.registers.rax = hvmCallMagic
  service : e.cpu.registers.rcx = hvmInternalServiceStop

section Stop

variable {k : VcpuPlacement} {host : HostSavedState} {stop : StopVmcs} {processor : Processor}
  {p : ExitEnvironment → Platform HvmFunction HvmLabel Vcpu}
  {arrives : ExitEnvironment → Machine Vcpu → Option (Machine Processor)}

/-- The guest at this exit, as the handler sees it. -/
def GuestStint.loaded (e : GuestStint k) (vcpu : Vcpu) : Vcpu :=
  loadGuestRegisters { vcpu with registers := e.cpu.registers, vmcs := e.vmcs vcpu.vmcs }

/-- **The stop**: behind the IRETQ the processor is what `hvmHandleServiceStop` makes of
it. -/
theorem exit_stopped (hstop : StopMode k host stop processor arrives)
    (q : Platform HvmFunction HvmLabel Processor) {env : ExitEnvironment} {e : GuestStint k}
    {m : Machine Vcpu} (hinit : k.Initialized m.cpu.memory) (hcall : e.StopCall m.world.vmcs) :
    ∃ c, AsmStop p arrives q m env e c ∧
      IsProcessor c (hvmHandleServiceStop host stop (e.loaded m.world) processor)
        e.cpu.xmm e.cpu.mxcsr := by
  obtain ⟨s, hentered, hrcx, hrdx, hrsp, _, hsaved⟩ := exit_entered (p env) (e := e) hinit
  let entry := Win64.callEntry s ((p env).returnAddress (.plain (.mov .rsp .rbx) :: resumeGuest))
  have hentry_rsp : entry.gpr .rsp = Win64.entryRsp k.rsp := by
    rw [Win64.callEntry_gpr, if_pos rfl, hrsp]
  have hsaved_entry : ∀ x, x ≠ .gpr .rsp →
      savedAt saveOffset entry.memory k.vcpu x = e.cpu.slots x :=
    fun x hx => (savedAt_congr (callEntry_area hrsp)).trans (hsaved x hx)
  have hloaded : loadGuestRegisters
      { (e.exit m).world with registers := gpRegistersAt entry.memory k.vcpu }
        = e.loaded m.world := loadGuestRegisters_area hsaved_entry
  obtain ⟨arrived, harrives, hrdx', hframe, hworld, hregs, hvectors⟩ :=
    @StopMode.hvmpStop _ _ _ _ _ hstop env ⟨entry, (e.exit m).world⟩ _ hrcx hrdx hentry_rsp
      (by rw [hentry_rsp]; exact Win64.entryRsp_aligned _) hloaded hcall.reason hcall.magic
      hcall.service
  have hmxcsr : savedAt saveOffset arrived.cpu.memory k.vcpu .mxcsr = e.cpu.slots .mxcsr :=
    (hvectors .mxcsr (by simp)).trans (hsaved_entry .mxcsr (by simp))
  obtain ⟨left, hreturned, hleft, hslots⟩ := asmHvmpStop_reaches q hrdx'
    (by rw [hmxcsr]; exact e.mxcsr_valid)
  rw [hframe] at hreturned
  refine ⟨_, .intro hentered harrives hreturned, ?_⟩
  have hvector : ∀ x, (∀ r, x ≠ .gpr r) → left.cpu.slots x = e.cpu.slots x := fun x hx =>
    (hslots x (hx .rsp)).trans ((hvectors x hx).trans (hsaved_entry x (hx .rsp)))
  refine ⟨fun r => ?_, rfl, rfl, fun i => ?_, ?_, ?_⟩
  · by_cases hr : r = .rsp
    · subst hr
      exact State.setGpr_gpr_self left.cpu .rsp _
    · have hne : Slot.gpr r ≠ .gpr .rsp := fun h => hr (Slot.gpr.inj h)
      have hgpr := congrArg (fun g => GpRegisters.gpr g r) hregs
      refine (afterIretq_slots hne).trans ((hslots _ hne).trans ?_)
      exact (GpRegisters.ofGprs_gpr ..).symm.trans hgpr
  · exact (afterIretq_slots (by simp)).trans (hvector (.xmm i) (by simp))
  · exact (afterIretq_slots (by simp)).trans (hvector .mxcsr (by simp))
  · show { loadSelectors _ left.world with registers := (stoppedVcpu (e.loaded m.world)).registers }
      = _
    rw [hleft, hworld]
    exact loadSelectors_hvmpStopFrame host stop (stoppedVcpu (e.loaded m.world)) processor

end Stop

/-! ## The plainest compiled stop

It stores the record over the save area, and the frame at `a`. -/

/-- Store quadwords from `a` on. -/
def storeWords (m : Memory) (a : BitVec 64) : List (BitVec 64) → Memory
  | [] => m
  | v :: vs => (storeWords m (a + 8) vs).write a 8 v

/-- They are read as they were stored. -/
theorem read_storeWords (m : Memory) :
    ∀ (vs : List (BitVec 64)) (a : BitVec 64) (i : Nat) (v : BitVec 64), vs.length ≤ 2 ^ 32 →
      vs[i]? = some v → (storeWords m a vs).read (a + BitVec.ofNat 64 (8 * i)) 8 = v := by
  intro vs
  induction vs with
  | nil => exact fun a i v _ h => absurd h (by simp)
  | cons w vs ih =>
    intro a i v hlen h
    cases i with
    | zero =>
      obtain rfl := Option.some.inj h
      rw [Nat.mul_zero, BitVec.add_zero]
      exact Memory.read_write _ _ _ (by decide)
    | succ i =>
      have hi : i + 1 < (w :: vs).length := (List.getElem?_eq_some_iff.mp h).1
      rw [List.length_cons] at hlen hi
      have haddr : a + BitVec.ofNat 64 (8 * (i + 1)) = a + 8 + BitVec.ofNat 64 (8 * i) := by
        bv_omega
      have hapart : Apart (a + BitVec.ofNat 64 (8 * (i + 1))) 8 a 8 := by
        intro x hx hx'
        unfold Within at hx hx'
        bv_omega
      refine (Memory.read_write_apart hapart (by decide)).trans ?_
      rw [haddr]
      exact ih (a + 8) i v (by omega) h

/-- Other bytes stay. -/
theorem storeWords_out (m : Memory) :
    ∀ (vs : List (BitVec 64)) (a x : BitVec 64), vs.length ≤ 2 ^ 32 →
      ¬ Within x a (8 * vs.length) → storeWords m a vs x = m x := by
  intro vs
  induction vs with
  | nil => exact fun a x _ _ => rfl
  | cons w vs ih =>
    intro a x hlen hx
    rw [List.length_cons] at hlen hx
    refine (Memory.write_out fun hin => hx ?_).trans (ih (a + 8) x (by omega) fun hin => hx ?_)
    · unfold Within at *
      omega
    · unfold Within at *
      bv_omega

/-- The words of an `IRET_FRAME`. -/
def iretFrameWords (frame : IretFrame) : List (BitVec 64) :=
  [frame.rip, frame.cs, frame.rflags, frame.rsp, frame.ss]

/-- A frame is read as it was stored. -/
theorem iretFrameAt_storeWords (m : Memory) (a : BitVec 64) (frame : IretFrame) :
    iretFrameAt (storeWords m a (iretFrameWords frame)) a = frame := by
  have hword : ∀ i v, (iretFrameWords frame)[i]? = some v →
      (storeWords m a (iretFrameWords frame)).read (a + BitVec.ofNat 64 (8 * i)) 8 = v :=
    fun i v => read_storeWords m (iretFrameWords frame) a i v (by simp [iretFrameWords])
  unfold iretFrameAt
  rw [hword 0 frame.rip rfl, hword 1 frame.cs rfl, hword 2 frame.rflags rfl,
    hword 3 frame.rsp rfl, hword 4 frame.ss rfl]

/-- A frame depends on its five words. -/
theorem iretFrameAt_congr {m m' : Memory} {a : BitVec 64}
    (h : ∀ x, Within x a (8 * 5) → m' x = m x) : iretFrameAt m' a = iretFrameAt m a := by
  have hword : ∀ i < 5, m'.read (a + BitVec.ofNat 64 (8 * i)) 8
      = m.read (a + BitVec.ofNat 64 (8 * i)) 8 := fun i hi =>
    Memory.read_congr (by decide) fun x hx => h x (hx.of_part (by omega) (by decide))
  unfold iretFrameAt
  rw [hword 0 (by decide), hword 1 (by decide), hword 2 (by decide), hword 3 (by decide),
    hword 4 (by decide)]

/-- The plainest compiled stop. -/
def plainStop (k : VcpuPlacement) (a : BitVec 64) (host : HostSavedState) (stop : StopVmcs)
    (processor : Processor) (_ : ExitEnvironment) (m : Machine Vcpu) : Option (Machine Processor) :=
  let vcpu := stoppedVcpu (loadGuestRegisters
    { m.world with registers := gpRegistersAt m.cpu.memory k.vcpu })
  some ⟨{ (m.cpu.setGpr .rcx a).setGpr .rdx k.vcpu with
      memory := storeGpRegisters (storeWords m.cpu.memory a
        (iretFrameWords (hvmpStopFrame host vcpu.registers))) k.vcpu vcpu.registers },
    hvmpStopProcessor host stop vcpu.vmcs processor⟩

/-- `AsmHvmpStop` calls nothing. -/
def plainReturn : Platform HvmFunction HvmLabel Processor where
  call _ _ := none
  labelAddress _ := 0
  returnAddress _ := 0
  vmlaunch := .failInvalid
  vmresume := .failInvalid

theorem stopMode_plain {k : VcpuPlacement} {a : BitVec 64} (host : HostSavedState)
    (stop : StopVmcs) (processor : Processor) (hapart : Apart k.vcpu sizeofGpRegisters a (8 * 5)) :
    StopMode k host stop processor (plainStop k a host stop processor) where
  hvmpStop := by
    intro env m vcpu _ _ _ _ hloaded _ _ _
    subst hloaded
    refine ⟨_, rfl, State.setGpr_gpr_self (m.cpu.setGpr .rcx a) .rdx _, ?_, rfl,
      gpRegistersAt_storeGpRegisters .., fun x hx => ?_⟩
    · have hrcx : (((m.cpu.setGpr .rcx a).setGpr .rdx k.vcpu).gpr .rcx) = a := by simp
      refine (congrArg _ hrcx).trans ((iretFrameAt_congr fun x hx => ?_).trans
        (iretFrameAt_storeWords m.cpu.memory a _))
      exact storeGpRegisters_out _ fun hin => hapart x hin hx
    · refine (savedAt_storeGpRegisters ..).trans
        ((savedAt_storeGprs_vector _ _ hx gprs _).trans (savedAt_congr fun b hb => ?_))
      exact storeWords_out _ _ a b (by simp [iretFrameWords]) fun hin => hapart b hb hin

/-- **The stop of a guest**: after a run of exits, a VMCALL for the stop service leads, through
the assembler of the exit and of the stop, to the instruction behind it, on exactly the
processor `hvmHandleServiceStop` computes from the record the run leaves, and with the vector
registers of the guest. -/
theorem guestRun_stopped {k : VcpuPlacement} {others : OtherHandlers}
    {p : ExitEnvironment → Platform HvmFunction HvmLabel Vcpu} (hroot : RootMode others k p)
    {host : HostSavedState} {stop : StopVmcs} {processor : Processor}
    {arrives : ExitEnvironment → Machine Vcpu → Option (Machine Processor)}
    (hstop : StopMode k host stop processor arrives)
    (q : Platform HvmFunction HvmLabel Processor)
    {es : List (ExitEnvironment × GuestStint k)} {env : ExitEnvironment} {e : GuestStint k} :
    ∀ {c : BitVec 64 × Machine Vcpu} {st st' : Vcpu × GuestCpu}, InGuest k c st →
      guestRun others st es = .ok st' → e.StopCall st'.1.vmcs →
      ∃ c' c'', AsmRun p c es c' ∧ AsmStop p arrives q c'.2 env e c'' ∧
        IsProcessor c'' (hvmHandleServiceStop host stop (e.loaded st'.1) processor)
          e.cpu.xmm e.cpu.mxcsr := by
  induction es with
  | nil =>
    intro c st st' hc hrun hcall
    obtain rfl : st = st' := Except.ok.inj hrun
    rw [← hc.world] at hcall
    obtain ⟨c'', hstopped, hprocessor⟩ := exit_stopped (p := p) hstop q hc.initialized hcall
    rw [hc.world] at hprocessor
    exact ⟨c, c'', .nil c, hstopped, hprocessor⟩
  | cons exit es ih =>
    obtain ⟨env₁, e₁⟩ := exit
    intro c st st' hc hrun hcall
    obtain ⟨vcpu, hok, hrest⟩ := guestRun_cons hrun
    rw [← hc.world] at hok
    obtain ⟨c₁, hhandled, hc₁⟩ := exit_handled hroot hc.initialized hok
    obtain ⟨c', c'', hrun', hstopped, hprocessor⟩ := ih hc₁ hrest hcall
    exact ⟨c', c'', .cons hhandled hrun', hstopped, hprocessor⟩

/-- A guest with its VMCALL for the stop at 0x402000. -/
def stopStint : GuestStint placementAt where
  cpu := ⟨{ (default : GpRegisters) with
    rax := hvmCallMagic, rcx := hvmInternalServiceStop, r8 := 8, rsp := 0x7000, rip := 0x402000 },
    fun i => BitVec.ofNat 128 i, 0x1F80#32⟩
  memory := id
  exitInfo vmcs := { vmcs with exitReason := exitReasonVmcall, exitInstructionLength := 3 }
  keeps := cpuidStint.keeps
  mxcsr_valid := cpuidStint.mxcsr_valid

theorem stopStint_call (vmcs : Vmcs) : stopStint.StopCall vmcs where
  reason := by
    show exitReasonVmcall &&& 0xFFFF = exitReasonVmcall
    decide
  magic := rfl
  service := rfl

/-- After a CPUID it calls for the stop, and goes on behind the VMCALL with success in RAX and
its own R8, no longer in VMX operation. -/
theorem guestRun_stopped_cpuid :
    ∃ c' c'', AsmRun (plainPlatform deepShieldHandlers placementAt)
        (guestAt placementAt (userExitOf exitReasonCpuid 2 1 0) cpuidStint.cpu)
        [(bareEnvironment, cpuidStint)] c' ∧
      AsmStop (plainPlatform deepShieldHandlers placementAt)
        (plainStop placementAt 0x22E00#64 default default default) plainReturn c'.2
        bareEnvironment stopStint c'' ∧
      c''.1 = 0x402003#64 ∧ c''.2.cpu.gpr .rax = 0 ∧ c''.2.cpu.gpr .r8 = 8 ∧
      c''.2.world.vmx = false := by
  obtain ⟨vcpu, cpu, hrun⟩ : ∃ vcpu cpu, guestRun deepShieldHandlers
      (userExitOf exitReasonCpuid 2 1 0, cpuidStint.cpu) [(bareEnvironment, cpuidStint)] =
        .ok (vcpu, cpu) := ⟨_, _, rfl⟩
  have hapart : Apart placementAt.vcpu sizeofGpRegisters 0x22E00#64 (8 * 5) := by
    intro x hx hx'
    unfold Within sizeofGpRegisters placementAt at *
    bv_omega
  obtain ⟨c', c'', hhandled, hstopped, hprocessor⟩ := guestRun_stopped
    (rootMode_plain _ _) (stopMode_plain default default default hapart) plainReturn
    (inGuest_guestAt _ _ _) hrun (stopStint_call vcpu.vmcs)
  obtain ⟨_, _, rip, rflags, hregisters⟩ := instrRipAdvance_keeps (stopStint.loaded vcpu)
  have hrip : (instrRipAdvance (stopStint.loaded vcpu)).registers.rip = 0x402003 := by
    rw [instrRipAdvance_rip]
    exact (by decide : (0x402000 : UInt64) + (3 : UInt32).toUInt64 = 0x402003)
  have hr8 : (instrRipAdvance (stopStint.loaded vcpu)).registers.r8 = 8 := by
    rw [hregisters]
    rfl
  have hvmx := congrArg Processor.vmx hprocessor.others
  exact ⟨c', c'', hhandled, hstopped, hprocessor.rip.trans (congrArg UInt64.toBitVec hrip),
    hprocessor.gpr .rax, (hprocessor.gpr .r8).trans (congrArg UInt64.toBitVec hr8), hvmx⟩

end DeepShield.Vmx
