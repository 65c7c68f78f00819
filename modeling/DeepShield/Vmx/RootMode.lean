import DeepShield.Vmx.AsmExitHandler
import DeepShield.Vmx.Handlers
import DeepShield.Vmx.UserExits

/-!
# The exits of a guest, down to its registers

`hvmpExitHandler` of `Exits` works on a record of registers. Here the record is
what the assembler makes of the processor: `guestRun_simulated` runs a guest from
exit to exit, through `AsmHvmpExitHandler`, the compiled `HvmpExitHandler` and
VMRESUME, and finds it each time on the processor the record model computes, down
to the vector registers, of which the model knows nothing.

What the compiler makes of `HvmpExitHandler` is a parameter (`RootMode`): it
computes what the C function does and keeps the Win64 convention.
-/

namespace DeepShield.Vmx

open DeepShield.Lib.X64

/-! ## `GP_REGISTERS` as a record -/

/-- A general register of the record. -/
def GpRegisters.gpr (g : GpRegisters) : Reg → BitVec 64
  | .rax => g.rax.toBitVec
  | .rcx => g.rcx.toBitVec
  | .rdx => g.rdx.toBitVec
  | .rbx => g.rbx.toBitVec
  | .rsp => g.rsp.toBitVec
  | .rbp => g.rbp.toBitVec
  | .rsi => g.rsi.toBitVec
  | .rdi => g.rdi.toBitVec
  | .r8 => g.r8.toBitVec
  | .r9 => g.r9.toBitVec
  | .r10 => g.r10.toBitVec
  | .r11 => g.r11.toBitVec
  | .r12 => g.r12.toBitVec
  | .r13 => g.r13.toBitVec
  | .r14 => g.r14.toBitVec
  | .r15 => g.r15.toBitVec

/-- The record with these general registers. -/
def GpRegisters.ofGprs (f : Reg → BitVec 64) (rip rflags : UInt64) : GpRegisters where
  rax := .ofBitVec (f .rax)
  rcx := .ofBitVec (f .rcx)
  rdx := .ofBitVec (f .rdx)
  rbx := .ofBitVec (f .rbx)
  rsp := .ofBitVec (f .rsp)
  rbp := .ofBitVec (f .rbp)
  rsi := .ofBitVec (f .rsi)
  rdi := .ofBitVec (f .rdi)
  r8 := .ofBitVec (f .r8)
  r9 := .ofBitVec (f .r9)
  r10 := .ofBitVec (f .r10)
  r11 := .ofBitVec (f .r11)
  r12 := .ofBitVec (f .r12)
  r13 := .ofBitVec (f .r13)
  r14 := .ofBitVec (f .r14)
  r15 := .ofBitVec (f .r15)
  rip := rip
  rflags := rflags

@[simp] theorem GpRegisters.ofGprs_gpr (f : Reg → BitVec 64) (rip rflags : UInt64) (r : Reg) :
    (ofGprs f rip rflags).gpr r = f r := by
  cases r <;> rfl

/-- Registers agree if they do one by one. -/
theorem GpRegisters.eq_of_gpr {g g' : GpRegisters} (hgpr : ∀ r, g.gpr r = g'.gpr r)
    (hrip : g.rip = g'.rip) (hrflags : g.rflags = g'.rflags) : g = g' := by
  have hreg : ∀ f : GpRegisters → UInt64, ∀ r, (∀ h, (f h).toBitVec = h.gpr r) → f g = f g' :=
    fun f r hf => UInt64.toBitVec_inj.mp ((hf g).trans ((hgpr r).trans (hf g').symm))
  cases g
  cases g'
  simp only [mk.injEq]
  exact ⟨hreg (·.rax) .rax fun _ => rfl, hreg (·.rcx) .rcx fun _ => rfl,
    hreg (·.rdx) .rdx fun _ => rfl, hreg (·.rbx) .rbx fun _ => rfl,
    hreg (·.rsp) .rsp fun _ => rfl, hreg (·.rbp) .rbp fun _ => rfl,
    hreg (·.rsi) .rsi fun _ => rfl, hreg (·.rdi) .rdi fun _ => rfl,
    hreg (·.r8) .r8 fun _ => rfl, hreg (·.r9) .r9 fun _ => rfl,
    hreg (·.r10) .r10 fun _ => rfl, hreg (·.r11) .r11 fun _ => rfl,
    hreg (·.r12) .r12 fun _ => rfl, hreg (·.r13) .r13 fun _ => rfl,
    hreg (·.r14) .r14 fun _ => rfl, hreg (·.r15) .r15 fun _ => rfl, hrip, hrflags⟩

/-- The `GP_REGISTERS` at `a`. -/
def gpRegistersAt (m : Memory) (a : BitVec 64) : GpRegisters :=
  .ofGprs (fun r => savedAt saveOffset m a (.gpr r))
    (.ofBitVec (m.read (a + BitVec.ofNat 64 ripOffset) 8))
    (.ofBitVec (m.read (a + BitVec.ofNat 64 rflagsOffset) 8))

/-! ## The guest -/

/-- What the guest sees of the processor. -/
structure GuestCpu where
  registers : GpRegisters
  xmm : Fin 16 → BitVec 128
  mxcsr : BitVec 32

/-- Its slots. -/
def GuestCpu.slots (g : GuestCpu) : (x : Slot) → BitVec (8 * x.bytes)
  | .gpr r => g.registers.gpr r
  | .xmm i => g.xmm i
  | .mxcsr => g.mxcsr

/-- What a guest does until its next exit: the processor then, what it wrote to
memory, and what the processor records in the VMCS besides RSP, RIP and RFLAGS.
It does not write to the top of the stack of root mode, and MXCSR has no reserved
bit set. -/
structure GuestStint (k : VcpuPlacement) where
  cpu : GuestCpu
  memory : Memory → Memory
  exitInfo : Vmcs → Vmcs
  keeps : ∀ m a, Within a k.rsp VcpuPlacement.topBytes → memory m a = m a
  mxcsr_valid : Slot.Holds .mxcsr (cpu.slots .mxcsr)

variable {k : VcpuPlacement}

/-- The VMCS after the exit. -/
def GuestStint.vmcs (e : GuestStint k) (vmcs : Vmcs) : Vmcs :=
  { e.exitInfo vmcs with
    guestRsp := e.cpu.registers.rsp
    guestRip := e.cpu.registers.rip
    guestRflags := e.cpu.registers.rflags }

/-- The processor after the exit, at the first instruction of root mode. -/
def GuestStint.exit (e : GuestStint k) (m : Machine Vcpu) : Machine Vcpu where
  cpu := { State.setGpr ⟨e.cpu.slots, 0, e.memory m.cpu.memory⟩ .rsp k.rsp with rflags := 2#64 }
  world := { m.world with vmcs := e.vmcs m.world.vmcs }

/-- The exits of a guest, as `Exits` has them: its registers become the record,
the handler works on that, and the guest goes on with what it left there. -/
def guestRun (others : OtherHandlers) :
    Vcpu × GuestCpu → List (ExitEnvironment × GuestStint k) → Except Halt (Vcpu × GuestCpu)
  | st, [] => .ok st
  | (vcpu, _), (env, e) :: es => do
    let vcpu ← hvmpExitHandler others env
      { vcpu with registers := e.cpu.registers, vmcs := e.vmcs vcpu.vmcs }
    guestRun others (vcpu, { e.cpu with registers := vcpu.registers }) es

/-- The same exits on the processor, each from its first instruction in root
mode to the guest. -/
inductive AsmRun (p : ExitEnvironment → Platform HvmFunction HvmLabel Vcpu) :
    BitVec 64 × Machine Vcpu → List (ExitEnvironment × GuestStint k) →
      BitVec 64 × Machine Vcpu → Prop
  | nil (c) : AsmRun p c [] c
  | cons {rip rip' : BitVec 64} {m m' : Machine Vcpu} {env : ExitEnvironment} {e : GuestStint k}
      {es : List (ExitEnvironment × GuestStint k)} {c : BitVec 64 × Machine Vcpu}
      (handled : Reaches (p env) asmHvmpExitHandler (.run asmHvmpExitHandler (e.exit m))
        (.guest rip' m'))
      (rest : AsmRun p (rip', m') es c) : AsmRun p (rip, m) ((env, e) :: es) c

/-- The guest runs on the processor `st.2`, and root mode is ready for its next
exit. -/
structure InGuest (k : VcpuPlacement) (c : BitVec 64 × Machine Vcpu) (st : Vcpu × GuestCpu) :
    Prop where
  slots : ∀ x, c.2.cpu.slots x = st.2.slots x
  rip : c.1 = st.2.registers.rip.toBitVec
  rflags : c.2.cpu.rflags = st.2.registers.rflags.toBitVec
  world : c.2.world = st.1
  initialized : k.Initialized c.2.cpu.memory

/-! ## What root mode runs on -/

/-- The compiled `HvmpExitHandler`, called with the VCPU and its registers on the
stack of that VCPU, computes what the function does on the registers, leaves the
vector registers saved beside them, and keeps the convention: of the stack, what
is above the home space of its parameters. VMRESUME enters the guest. -/
structure RootMode (others : OtherHandlers) (k : VcpuPlacement)
    (p : ExitEnvironment → Platform HvmFunction HvmLabel Vcpu) : Prop where
  exitHandler : ∀ {env : ExitEnvironment} {m : Machine Vcpu} {vcpu : Vcpu},
    m.cpu.gpr .rcx = k.vcpu → m.cpu.gpr .rdx = k.vcpu →
    m.cpu.gpr .rsp = Win64.entryRsp k.rsp → (m.cpu.gpr .rsp + 8#64).toNat % 16 = 0 →
    hvmpExitHandler others env
      { m.world with registers := gpRegistersAt m.cpu.memory k.vcpu } = .ok vcpu →
    ∃ m', (p env).call .hvmpExitHandler m = some m' ∧ m'.world = vcpu ∧
      gpRegistersAt m'.cpu.memory k.vcpu = vcpu.registers ∧
      (∀ x, (∀ r, x ≠ .gpr r) →
        savedAt saveOffset m'.cpu.memory k.vcpu x = savedAt saveOffset m.cpu.memory k.vcpu x) ∧
      Win64.Kept m.cpu m'.cpu (m.cpu.gpr .rsp + 0x28#64) VcpuPlacement.topBytes
  resumes : ∀ (env : ExitEnvironment) (vcpu : Vcpu),
    (p env).vmresume vcpu =
      .entered vcpu.vmcs.guestRip.toBitVec vcpu.vmcs.guestRsp.toBitVec
        vcpu.vmcs.guestRflags.toBitVec vcpu

/-! ## One exit -/

/-- The handler looks at RSP, RIP and RFLAGS in the VMCS only. -/
theorem hvmpExitHandler_congr {others : OtherHandlers} {env : ExitEnvironment} {v v' : Vcpu}
    (hvmcs : v.vmcs = v'.vmcs) (h : loadGuestRegisters v = loadGuestRegisters v') :
    hvmpExitHandler others env v = hvmpExitHandler others env v' := by
  unfold hvmpExitHandler Vcpu.exitReason
  rw [h, hvmcs]

/-- Its way back to the VMCS. -/
theorem hvmpExitHandler_stores {others : OtherHandlers} {env : ExitEnvironment} {v v' : Vcpu}
    (h : hvmpExitHandler others env v = .ok v') :
    v'.vmcs.guestRsp = v'.registers.rsp ∧ v'.vmcs.guestRip = v'.registers.rip ∧
      v'.vmcs.guestRflags = v'.registers.rflags := by
  unfold hvmpExitHandler at h
  obtain ⟨w, -, hw⟩ : ∃ w, _ ∧ storeGuestRegisters w = v' := by
    dsimp only at h
    split at h
    · cases hs : hvmHandleService (loadGuestRegisters v) with
      | error e => rw [hs] at h; cases h
      | ok w =>
        rw [hs] at h
        exact ⟨w, trivial, by injection h⟩
    · cases hs : dsHvmExitHandler others env v.exitReason (loadGuestRegisters v) with
      | error e => rw [hs] at h; cases h
      | ok w =>
        rw [hs] at h
        exact ⟨w, trivial, by injection h⟩
  subst hw
  exact ⟨rfl, rfl, rfl⟩

theorem GuestStint.exit_slots (e : GuestStint k) (m : Machine Vcpu) {x : Slot}
    (hx : x ≠ .gpr .rsp) : (e.exit m).cpu.slots x = e.cpu.slots x := by
  exact State.setGpr_slots_of_ne hx

theorem GuestStint.exit_rsp (e : GuestStint k) (m : Machine Vcpu) :
    (e.exit m).cpu.gpr .rsp = k.rsp :=
  State.setGpr_gpr_self ⟨e.cpu.slots, 0, e.memory m.cpu.memory⟩ .rsp k.rsp

theorem GuestStint.exit_initialized (e : GuestStint k) {m : Machine Vcpu}
    (h : k.Initialized m.cpu.memory) : k.Initialized (e.exit m).cpu.memory :=
  h.congr (e.keeps m.cpu.memory)

/-- The bytes a call takes below the stack pointer are apart from the save area. -/
theorem callEntry_area {s : State} {a : BitVec 64} (hrsp : s.gpr .rsp = k.rsp) :
    ∀ b, Within b k.vcpu sizeofGpRegisters → (Win64.callEntry s a).memory b = s.memory b := by
  intro b hb
  refine Win64.callEntry_memory fun hin => ?_
  rw [hrsp] at hin
  exact VcpuPlacement.apart_stack (d := Win64.callBytes) (by decide) (by decide) b hb hin

theorem callEntry_top {s : State} {a : BitVec 64} (hrsp : s.gpr .rsp = k.rsp) :
    ∀ b, Within b k.rsp VcpuPlacement.topBytes → (Win64.callEntry s a).memory b = s.memory b := by
  intro b hb
  rw [← hrsp] at hb
  exact Win64.callEntry_above hb (by decide)

/-- The handler is entered on the frame right below the saved stack pointer. -/
theorem entryRsp_frame : Win64.entryRsp k.rsp + 0x28#64 = k.rsp := by
  have halign := Win64.and_align_toNat k.rsp
  have hmod := k.rsp_mod
  unfold Win64.entryRsp
  bv_omega

/-- What is in the save area when the handler is called, as far as the handler
looks at it, is the guest's registers. -/
theorem loadGuestRegisters_area {e : GuestStint k} {w : Vcpu} {m : Memory}
    (hsaved : ∀ x, x ≠ .gpr .rsp → savedAt saveOffset m k.vcpu x = e.cpu.slots x) :
    loadGuestRegisters { w with registers := gpRegistersAt m k.vcpu } =
      loadGuestRegisters { w with registers := e.cpu.registers } := by
  have hregs : ({ gpRegistersAt m k.vcpu with
      rsp := w.vmcs.guestRsp, rip := w.vmcs.guestRip, rflags := w.vmcs.guestRflags } :
        GpRegisters) =
      { e.cpu.registers with
        rsp := w.vmcs.guestRsp, rip := w.vmcs.guestRip, rflags := w.vmcs.guestRflags } := by
    refine GpRegisters.eq_of_gpr (fun r => ?_) rfl rfl
    by_cases hr : r = .rsp
    · subst hr
      rfl
    · have h := hsaved (.gpr r) fun h => hr (Slot.gpr.inj h)
      cases r <;> first | exact absurd rfl hr | exact h
  unfold loadGuestRegisters
  exact congrArg (fun registers => { w with registers := registers }) hregs

/-- The way into root mode: `HvmpExitHandler` is about to be called with the
VCPU and its registers. -/
theorem exit_entered (p : Platform HvmFunction HvmLabel Vcpu) {e : GuestStint k}
    {m : Machine Vcpu} (hinit : k.Initialized m.cpu.memory) :
    ∃ s, Reaches p asmHvmpExitHandler (.run asmHvmpExitHandler (e.exit m))
        (.run (Win64.callAligned .hvmpExitHandler ++ resumeGuest) ⟨s, (e.exit m).world⟩) ∧
      s.gpr .rcx = k.vcpu ∧ s.gpr .rdx = k.vcpu ∧ s.gpr .rsp = k.rsp ∧
      k.Initialized s.memory ∧
      ∀ x, x ≠ .gpr .rsp → savedAt saveOffset s.memory k.vcpu x = e.cpu.slots x := by
  obtain ⟨s₁, hsave, hrbx₁, hrsp₁, hsaved₁, htop₁⟩ :=
    execAll_cpuSaveRegs (e.exit_rsp m) (e.exit_initialized hinit)
  have hinit₁ : k.Initialized s₁.memory := (e.exit_initialized hinit).congr htop₁
  obtain ⟨s₂, hparams, hrcx₂, hrdx₂, hrsp₂, hmem₂⟩ :=
    execAll_exitHandlerParameters hrbx₁ hrsp₁ hinit₁
  have hentered : execAll (cpuSaveRegs ++ exitHandlerParameters) (e.exit m).cpu = some s₂ := by
    rw [execAll_append, hsave, Option.bind_some]
    exact hparams
  refine ⟨s₂, reaches_execAll hentered, hrcx₂, hrdx₂, hrsp₂, by rw [hmem₂]; exact hinit₁, ?_⟩
  intro x hx
  rw [hmem₂, hsaved₁ x hx]
  exact e.exit_slots m hx

/-- The way back: the guest runs on what the save area holds. -/
theorem exit_left {others : OtherHandlers}
    {p : ExitEnvironment → Platform HvmFunction HvmLabel Vcpu} (hroot : RootMode others k p)
    (env : ExitEnvironment) {m : Machine Vcpu} (hrsp : m.cpu.gpr .rsp = k.rsp)
    (hinit : k.Initialized m.cpu.memory)
    (hmxcsr : Slot.Holds .mxcsr (savedAt saveOffset m.cpu.memory k.vcpu .mxcsr)) :
    ∃ s, Reaches (p env) asmHvmpExitHandler (.run resumeGuest m)
        (.guest m.world.vmcs.guestRip.toBitVec ⟨s, m.world⟩) ∧
      s.gpr .rsp = m.world.vmcs.guestRsp.toBitVec ∧
      s.rflags = m.world.vmcs.guestRflags.toBitVec ∧ k.Initialized s.memory ∧
      ∀ x, x ≠ .gpr .rsp → s.slots x = savedAt saveOffset m.cpu.memory k.vcpu x := by
  obtain ⟨s₁, harea, hrbx₁, hrsp₁, hmem₁⟩ := execAll_loadGuestArea hrsp hinit
  obtain ⟨s₂, hrestore, hrsp₂, hmem₂, hslots₂⟩ :=
    execAll_cpuRestoreRegs hrbx₁ (by rw [hmem₁]; exact hmxcsr)
  have hleft : execAll (loadGuestArea ++ cpuRestoreRegs) m.cpu = some s₂ := by
    rw [execAll_append, harea, Option.bind_some]
    exact hrestore
  refine ⟨{ s₂.setGpr .rsp m.world.vmcs.guestRsp.toBitVec with
    rflags := m.world.vmcs.guestRflags.toBitVec }, ?_,
    State.setGpr_gpr_self s₂ .rsp _, rfl, ?_, ?_⟩
  · refine (reaches_execAll hleft).trans (Reaches.of_step ?_)
    rw [step, hroot.resumes]
    rfl
  · show k.Initialized s₂.memory
    rw [hmem₂, hmem₁]
    exact hinit
  · intro x hx
    refine (State.setGpr_slots_of_ne hx).trans ((hslots₂ x hx).trans ?_)
    rw [hmem₁]

/-- **One exit**: the processor goes through root mode and the guest goes on
with what the handler left in the record. -/
theorem exit_handled {others : OtherHandlers}
    {p : ExitEnvironment → Platform HvmFunction HvmLabel Vcpu} (hroot : RootMode others k p)
    {env : ExitEnvironment} {e : GuestStint k} {m : Machine Vcpu} {vcpu : Vcpu}
    (hinit : k.Initialized m.cpu.memory)
    (hok : hvmpExitHandler others env
      { m.world with registers := e.cpu.registers, vmcs := e.vmcs m.world.vmcs } = .ok vcpu) :
    ∃ c : BitVec 64 × Machine Vcpu,
      Reaches (p env) asmHvmpExitHandler (.run asmHvmpExitHandler (e.exit m)) (.guest c.1 c.2) ∧
        InGuest k c (vcpu, { e.cpu with registers := vcpu.registers }) := by
  obtain ⟨s, hentered, hrcx, hrdx, hrsp, hinit_s, hsaved⟩ := exit_entered (p env) (e := e) hinit
  -- the call leaves the parameters and the save area alone
  let entry := Win64.callEntry s ((p env).returnAddress (.plain (.mov .rsp .rbx) :: resumeGuest))
  have harea : ∀ b, Within b k.vcpu sizeofGpRegisters → entry.memory b = s.memory b :=
    callEntry_area hrsp
  have hentry_rsp : entry.gpr .rsp = Win64.entryRsp k.rsp := by
    rw [Win64.callEntry_gpr, if_pos rfl, hrsp]
  have hsaved_entry : ∀ x, x ≠ .gpr .rsp →
      savedAt saveOffset entry.memory k.vcpu x = e.cpu.slots x :=
    fun x hx => (savedAt_congr harea).trans (hsaved x hx)
  have hcalled : hvmpExitHandler others env
      { (e.exit m).world with registers := gpRegistersAt entry.memory k.vcpu } = .ok vcpu := by
    rw [← hok]
    exact hvmpExitHandler_congr rfl (loadGuestRegisters_area hsaved_entry)
  obtain ⟨m₁, hcall, hworld, hregs, hvectors, hkept⟩ := hroot.exitHandler
    (m := ⟨entry, (e.exit m).world⟩) hrcx hrdx hentry_rsp
    (by rw [hentry_rsp]; exact Win64.entryRsp_aligned _) hcalled
  have hframe : entry.gpr .rsp + 0x28#64 = k.rsp := by rw [hentry_rsp, entryRsp_frame]
  have hinit₁ : k.Initialized m₁.cpu.memory := hinit_s.congr fun b hb =>
    (hkept.frame b (by rw [hframe]; exact hb)).trans (callEntry_top hrsp b hb)
  have hmxcsr : savedAt saveOffset m₁.cpu.memory k.vcpu .mxcsr = e.cpu.slots .mxcsr :=
    (hvectors .mxcsr (by simp)).trans (hsaved_entry .mxcsr (by simp))
  obtain ⟨s', hleft, hrsp', hrflags', hinit', hslots'⟩ := exit_left hroot env
    (m := m₁.onCpu fun s' => s'.setGpr .rsp (s.gpr .rsp)) (by simp [hrsp]) hinit₁
    (by rw [Machine.onCpu_cpu, State.setGpr_memory, hmxcsr]; exact e.mxcsr_valid)
  simp only [Machine.onCpu_world, Machine.onCpu_cpu, State.setGpr_memory, hworld] at *
  obtain ⟨hrsp_stored, hrip_stored, hrflags_stored⟩ := hvmpExitHandler_stores hok
  refine ⟨(vcpu.vmcs.guestRip.toBitVec, ⟨s', vcpu⟩),
    (hentered.trans (Win64.reaches_callAligned hcall hkept)).trans ?_, ?_, ?_, ?_, rfl, hinit'⟩
  · simpa only [hworld] using hleft
  · intro x
    by_cases hx : x = .gpr .rsp
    · subst hx
      exact hrsp'.trans (congrArg UInt64.toBitVec hrsp_stored)
    · refine (hslots' x hx).trans ?_
      cases x with
      | gpr r =>
        have hgpr := congrArg (fun g => GpRegisters.gpr g r) hregs
        exact (GpRegisters.ofGprs_gpr ..).symm.trans hgpr
      | xmm i => exact (hvectors _ (by simp)).trans (hsaved_entry _ (by simp))
      | mxcsr => exact hmxcsr
  · exact congrArg UInt64.toBitVec hrip_stored
  · exact hrflags'.trans (congrArg UInt64.toBitVec hrflags_stored)

/-! ## The plainest compiled handler

It stores the record over the save area and returns. -/

/-- Store general registers to a save area. -/
def storeGprs (a : BitVec 64) (f : Reg → BitVec 64) : List Reg → Memory → Memory
  | [], m => m
  | r :: rs, m => storeGprs a f rs (m.write (a + BitVec.ofNat 64 (saveOffset (.gpr r))) 8 (f r))

/-- The general registers. -/
def gprs : List Reg :=
  [.rax, .rcx, .rdx, .rbx, .rsp, .rbp, .rsi, .rdi, .r8, .r9, .r10, .r11, .r12, .r13, .r14, .r15]

/-- Store a record over the `GP_REGISTERS` at `a`. -/
def storeGpRegisters (m : Memory) (a : BitVec 64) (g : GpRegisters) : Memory :=
  ((storeGprs a g.gpr gprs m).write (a + BitVec.ofNat 64 ripOffset) 8 g.rip.toBitVec).write
    (a + BitVec.ofNat 64 rflagsOffset) 8 g.rflags.toBitVec

theorem savedAt_storeGprs (a : BitVec 64) (f : Reg → BitVec 64) (r : Reg) :
    ∀ (rs : List Reg) (m : Memory), savedAt saveOffset (storeGprs a f rs m) a (.gpr r) =
      if r ∈ rs then f r else savedAt saveOffset m a (.gpr r) := by
  intro rs
  induction rs with
  | nil => exact fun m => rfl
  | cons q rs ih =>
    intro m
    have hbytes := Nat.le_trans (Slot.bytes_le (.gpr r)) (by decide : 16 ≤ 2 ^ 64)
    refine (ih _).trans ?_
    by_cases hmem : r ∈ rs
    · exact (if_pos hmem).trans (if_pos (List.mem_cons_of_mem q hmem)).symm
    · refine (if_neg hmem).trans ?_
      by_cases hq : r = q
      · subst hq
        exact (Memory.read_write _ _ _ hbytes).trans (if_pos List.mem_cons_self).symm
      · exact (Memory.read_write_apart (saveOffset_layout.apart fun h => hq (Slot.gpr.inj h))
          hbytes).trans (if_neg (by simp [hq, hmem])).symm

theorem savedAt_storeGprs_vector (a : BitVec 64) (f : Reg → BitVec 64) {x : Slot}
    (hx : ∀ r, x ≠ .gpr r) :
    ∀ (rs : List Reg) (m : Memory), savedAt saveOffset (storeGprs a f rs m) a x =
      savedAt saveOffset m a x := by
  intro rs
  induction rs with
  | nil => exact fun m => rfl
  | cons q rs ih =>
    intro m
    exact (ih _).trans (Memory.read_write_apart (saveOffset_layout.apart (hx q))
      (Nat.le_trans x.bytes_le (by decide)))

theorem storeGprs_out {a b : BitVec 64} (f : Reg → BitVec 64)
    (h : ¬ Within b a sizeofGpRegisters) :
    ∀ (rs : List Reg) (m : Memory), storeGprs a f rs m b = m b := by
  intro rs
  induction rs with
  | nil => exact fun m => rfl
  | cons q rs ih =>
    intro m
    refine (ih _).trans (Memory.write_out fun hin => h ?_)
    exact within_area (x := .gpr q) hin

/-- The fields of the slots end where RIP begins. -/
theorem slot_before_rip (x : Slot) : saveOffset x + x.bytes ≤ ripOffset := by
  cases x with
  | gpr r =>
    have := ctorIdx_lt r
    rw [saveOffset_gpr]
    simp only [Slot.bytes, ripOffset]
    omega
  | mxcsr => decide
  | xmm i =>
    simp only [saveOffset, Slot.bytes, ripOffset]
    omega

theorem savedAt_storeGpRegisters (m : Memory) (a : BitVec 64) (g : GpRegisters) (x : Slot) :
    savedAt saveOffset (storeGpRegisters m a g) a x =
      savedAt saveOffset (storeGprs a g.gpr gprs m) a x := by
  have hx := slot_before_rip x
  have hlt : ripOffset = 392 := rfl
  have hbytes : x.bytes ≤ 2 ^ 64 := Nat.le_trans x.bytes_le (by decide)
  have hrip : Apart (a + BitVec.ofNat 64 (saveOffset x)) x.bytes
      (a + BitVec.ofNat 64 ripOffset) 8 := apart_of_lt (Or.inl hx) (by omega) (by decide)
  have hrflags : Apart (a + BitVec.ofNat 64 (saveOffset x)) x.bytes
      (a + BitVec.ofNat 64 rflagsOffset) 8 :=
    apart_of_lt (Or.inl (Nat.le_trans hx (by decide))) (by omega) (by decide)
  exact (Memory.read_write_apart hrflags hbytes).trans (Memory.read_write_apart hrip hbytes)

/-- A record is read as it was stored. -/
theorem gpRegistersAt_storeGpRegisters (m : Memory) (a : BitVec 64) (g : GpRegisters) :
    gpRegistersAt (storeGpRegisters m a g) a = g := by
  have hrip : (storeGpRegisters m a g).read (a + BitVec.ofNat 64 ripOffset) 8 =
      g.rip.toBitVec :=
    (Memory.read_write_apart (apart_of_lt (by decide) (by decide) (by decide))
      (by decide)).trans (Memory.read_write _ _ _ (by decide))
  have hrflags : (storeGpRegisters m a g).read (a + BitVec.ofNat 64 rflagsOffset) 8 =
      g.rflags.toBitVec := Memory.read_write _ _ _ (by decide)
  refine GpRegisters.eq_of_gpr (fun r => ?_) (congrArg UInt64.ofBitVec hrip)
    (congrArg UInt64.ofBitVec hrflags)
  have hmem : r ∈ gprs := by cases r <;> decide
  exact (GpRegisters.ofGprs_gpr ..).trans ((savedAt_storeGpRegisters ..).trans
    ((savedAt_storeGprs ..).trans (if_pos hmem)))

theorem storeGpRegisters_out {m : Memory} {a b : BitVec 64} (g : GpRegisters)
    (h : ¬ Within b a sizeofGpRegisters) : storeGpRegisters m a g b = m b :=
  (Memory.write_out fun hin => h (hin.of_part (by decide) (by decide))).trans
    ((Memory.write_out fun hin => h (hin.of_part (by decide) (by decide))).trans
      (storeGprs_out _ h gprs m))

/-- The plainest compiled `HvmpExitHandler`. -/
def plainExitHandler (others : OtherHandlers) (k : VcpuPlacement) (env : ExitEnvironment)
    (m : Machine Vcpu) : Option (Machine Vcpu) :=
  match hvmpExitHandler others env
      { m.world with registers := gpRegistersAt m.cpu.memory k.vcpu } with
  | .error _ => none
  | .ok vcpu =>
    some ⟨{ m.cpu.setGpr .rsp (m.cpu.gpr .rsp + 8) with
      memory := storeGpRegisters m.cpu.memory k.vcpu vcpu.registers }, vcpu⟩

/-- Root mode on it. -/
def plainPlatform (others : OtherHandlers) (k : VcpuPlacement) (env : ExitEnvironment) :
    Platform HvmFunction HvmLabel Vcpu where
  call
    | .hvmpExitHandler, m => plainExitHandler others k env m
    | _, _ => none
  labelAddress
    | .vmlaunchReturn => 0
    | .failValid => 1
    | .failInvalid => 2
    | .fail => 3
    | .finish => 4
  returnAddress _ := 0
  vmlaunch := .failInvalid
  vmresume vcpu :=
    .entered vcpu.vmcs.guestRip.toBitVec vcpu.vmcs.guestRsp.toBitVec
      vcpu.vmcs.guestRflags.toBitVec vcpu

theorem rootMode_plain (others : OtherHandlers) (k : VcpuPlacement) :
    RootMode others k (plainPlatform others k) where
  resumes _ _ := rfl
  exitHandler := by
    intro env m vcpu _ _ hrsp _ hok
    refine ⟨⟨{ m.cpu.setGpr .rsp (m.cpu.gpr .rsp + 8) with
      memory := storeGpRegisters m.cpu.memory k.vcpu vcpu.registers }, vcpu⟩,
      ?_, rfl, gpRegistersAt_storeGpRegisters .., ?_, ?_, ?_, ?_⟩
    · show plainExitHandler others k env m = _
      rw [plainExitHandler, hok]
    · exact fun x hx => (savedAt_storeGpRegisters ..).trans
        (savedAt_storeGprs_vector _ _ hx gprs m.cpu.memory)
    · exact State.setGpr_gpr_self m.cpu .rsp _
    · intro r hr
      have hne : Slot.gpr r ≠ .gpr .rsp := by
        rintro ⟨⟩
        exact absurd hr (by decide)
      exact State.setGpr_slots_of_ne hne
    · intro x hx
      rw [hrsp, entryRsp_frame] at hx
      exact storeGpRegisters_out _ fun hin => VcpuPlacement.apart_top x hin hx

/-- A VCPU and a stack of three pages. -/
def placementAt : VcpuPlacement where
  vcpu := 0x10000#64
  stack := 0x20000#64
  stackPages := 3
  vcpu_aligned := by decide
  stack_aligned := by decide
  stackPages_pos := by decide
  stack_le := by decide
  apart := by
    intro x hx hx'
    unfold Within sizeofGpRegisters at *
    bv_omega

/-- A guest that executes CPUID at 0x401000. -/
def cpuidStint : GuestStint placementAt where
  cpu := ⟨{ (default : GpRegisters) with rax := 1, r8 := 8, rsp := 0x7000, rip := 0x401000 },
    fun i => BitVec.ofNat 128 i, 0x1F80#32⟩
  memory := id
  exitInfo vmcs := { vmcs with exitReason := exitReasonCpuid, exitInstructionLength := 2 }
  keeps _ _ _ := rfl
  mxcsr_valid := by decide

/-- A guest before its first exit. -/
def guestAt (k : VcpuPlacement) (vcpu : Vcpu) (g : GuestCpu) : BitVec 64 × Machine Vcpu :=
  (g.registers.rip.toBitVec,
    ⟨⟨g.slots, g.registers.rflags.toBitVec, k.hvmInitializeStack fun _ => 0⟩, vcpu⟩)

theorem inGuest_guestAt (k : VcpuPlacement) (vcpu : Vcpu) (g : GuestCpu) :
    InGuest k (guestAt k vcpu g) (vcpu, g) where
  slots _ := rfl
  rip := rfl
  rflags := rfl
  world := rfl
  initialized := k.initialized_hvmInitializeStack _

/-! ## Runs of exits -/

/-- A run goes through its first exit. -/
theorem guestRun_cons {others : OtherHandlers} {st st' : Vcpu × GuestCpu} {env : ExitEnvironment}
    {e : GuestStint k} {es : List (ExitEnvironment × GuestStint k)}
    (h : guestRun others st ((env, e) :: es) = .ok st') :
    ∃ vcpu, hvmpExitHandler others env
        { st.1 with registers := e.cpu.registers, vmcs := e.vmcs st.1.vmcs } = .ok vcpu ∧
      guestRun others (vcpu, { e.cpu with registers := vcpu.registers }) es = .ok st' := by
  cases hok : hvmpExitHandler others env
      { st.1 with registers := e.cpu.registers, vmcs := e.vmcs st.1.vmcs } with
  | error halt =>
    rw [guestRun, hok] at h
    cases h
  | ok vcpu =>
    rw [guestRun, hok] at h
    exact ⟨vcpu, rfl, h⟩

/-- **The exits of a guest.** As long as the handler returns, a guest that runs
from exit to exit is, after each, on exactly the processor the record model
computes: the registers the handler left, RSP, RIP and RFLAGS included, and its
own vector registers; and root mode is ready for the next exit. -/
theorem guestRun_simulated {others : OtherHandlers}
    {p : ExitEnvironment → Platform HvmFunction HvmLabel Vcpu} (hroot : RootMode others k p)
    {es : List (ExitEnvironment × GuestStint k)} :
    ∀ {c : BitVec 64 × Machine Vcpu} {st st' : Vcpu × GuestCpu}, InGuest k c st →
      guestRun others st es = .ok st' → ∃ c', AsmRun p c es c' ∧ InGuest k c' st' := by
  induction es with
  | nil =>
    intro c st st' hc hrun
    obtain rfl : st = st' := Except.ok.inj hrun
    exact ⟨c, .nil c, hc⟩
  | cons exit es ih =>
    obtain ⟨env, e⟩ := exit
    intro c st st' hc hrun
    obtain ⟨vcpu, hok, hrest⟩ := guestRun_cons hrun
    rw [← hc.world] at hok
    obtain ⟨c₁, hhandled, hc₁⟩ := exit_handled hroot hc.initialized hok
    obtain ⟨c', hrun', hc'⟩ := ih hc₁ hrest
    exact ⟨c', .cons hhandled hrun', hc'⟩

/-- It gets the processor's answer with the hypervisor bit, its other registers
as they were, and goes on behind the instruction. -/
theorem guestRun_simulated_cpuid :
    ∃ vcpu cpu, guestRun deepShieldHandlers
        (userExitOf exitReasonCpuid 2 1 0, cpuidStint.cpu) [(bareEnvironment, cpuidStint)] =
          .ok (vcpu, cpu) ∧
      cpu.registers.rcx = 0x80000000 ∧ cpu.registers.r8 = 8 ∧ cpu.registers.rip = 0x401002 ∧
      ∃ c, AsmRun (plainPlatform deepShieldHandlers placementAt)
          (guestAt placementAt (userExitOf exitReasonCpuid 2 1 0) cpuidStint.cpu)
          [(bareEnvironment, cpuidStint)] c ∧ InGuest placementAt c (vcpu, cpu) :=
  ⟨_, _, rfl, rfl, rfl, rfl, guestRun_simulated (rootMode_plain _ _) (inGuest_guestAt _ _ _) rfl⟩

end DeepShield.Vmx
