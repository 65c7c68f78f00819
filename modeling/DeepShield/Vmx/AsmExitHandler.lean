import DeepShield.Lib.X64
import DeepShield.Vmx.Exits

/-!
# Entering and leaving root mode

`AsmHvmpExitHandler` of `amd64/hvm_a.asm`, where the processor arrives at a VM
exit: it saves the registers of the guest to `Vcpu->GuestRegisters`, calls
`HvmpExitHandler`, restores what that left there and resumes the guest. It finds
the area through the stack, at whose top `HvmInitializeStack` stored the address
of the VCPU: `CPU_SAVE_REGS` loads it from `[rsp+38h]`, the first parameter of
the call from the top of the page of RSP.
-/

namespace DeepShield.Vmx

open DeepShield.Lib.X64

/-! ## `GP_REGISTERS` in memory -/

/-- `RAX_SAVE`, `RCX_SAVE`, … `XMM0_SAVE`, … `MXCSR_SAVE`. -/
def saveOffset : Slot → Nat
  | .gpr .rax => 0x00
  | .gpr .rcx => 0x08
  | .gpr .rdx => 0x10
  | .gpr .rbx => 0x18
  | .gpr .rsp => 0x20
  | .gpr .rbp => 0x28
  | .gpr .rsi => 0x30
  | .gpr .rdi => 0x38
  | .gpr .r8 => 0x40
  | .gpr .r9 => 0x48
  | .gpr .r10 => 0x50
  | .gpr .r11 => 0x58
  | .gpr .r12 => 0x60
  | .gpr .r13 => 0x68
  | .gpr .r14 => 0x70
  | .gpr .r15 => 0x78
  | .xmm i => 0x80 + 0x10 * i
  | .mxcsr => 0x180

/-- The sizes and alignments of the fields of `GP_REGISTERS`: Rax to R15, the 16
elements of XmmRegisters, MxCsr, Rip, Rflags. -/
def gpRegistersFields : List (Nat × Nat) :=
  List.replicate 16 (8, 8) ++ List.replicate 16 (16, 16) ++ [(4, 4), (8, 8), (8, 8)]

/-- The offset of each field of a C structure, the first at `start` or the next
multiple of its alignment. -/
def fieldOffsets : Nat → List (Nat × Nat) → List Nat
  | _, [] => []
  | start, (size, alignment) :: fields =>
    let offset := (start + alignment - 1) / alignment * alignment
    offset :: fieldOffsets (offset + size) fields

/-- The field of `GP_REGISTERS` a slot is saved in. -/
def gpRegistersField : Slot → Nat
  | .gpr r => r.ctorIdx
  | .xmm i => 16 + i
  | .mxcsr => 32

/-- `offsetof( GP_REGISTERS, Rip )`. -/
def ripOffset : Nat := 0x188

/-- `offsetof( GP_REGISTERS, Rflags )`. -/
def rflagsOffset : Nat := 0x190

/-- `sizeof( GP_REGISTERS )`. -/
def sizeofGpRegisters : Nat := 0x1A0

/-- The constants of the assembler are the offsets the compiler gives the
fields. -/
theorem saveOffset_eq_fieldOffset (x : Slot) :
    (fieldOffsets 0 gpRegistersFields)[gpRegistersField x]? = some (saveOffset x) := by
  cases x with
  | gpr r => cases r <;> rfl
  | mxcsr => rfl
  | xmm i => revert i; decide

theorem saveOffset_gpr (r : Reg) : saveOffset (.gpr r) = 8 * r.ctorIdx := by
  cases r <;> rfl

theorem ctorIdx_lt (r : Reg) : r.ctorIdx < 16 := by
  cases r <;> decide

theorem saveOffset_layout : Layout saveOffset sizeofGpRegisters where
  size_lt := by decide
  inside x := by
    cases x with
    | gpr r =>
      have := ctorIdx_lt r
      rw [saveOffset_gpr]
      simp only [Slot.bytes, sizeofGpRegisters]
      omega
    | mxcsr => decide
    | xmm i =>
      simp only [saveOffset, Slot.bytes, sizeofGpRegisters]
      omega
  disjoint x y hne := by
    cases x with
    | gpr r =>
      have hr := ctorIdx_lt r
      rw [saveOffset_gpr]
      cases y with
      | gpr q =>
        have hidx : r.ctorIdx ≠ q.ctorIdx := fun h => hne (by
          rw [← Reg.ofNat_ctorIdx r, h, Reg.ofNat_ctorIdx])
        rw [saveOffset_gpr]
        simp only [Slot.bytes]
        omega
      | mxcsr => simp only [saveOffset, Slot.bytes]; omega
      | xmm j => simp only [saveOffset, Slot.bytes]; omega
    | mxcsr =>
      cases y with
      | gpr q =>
        have := ctorIdx_lt q
        rw [saveOffset_gpr]
        simp only [saveOffset, Slot.bytes]
        omega
      | mxcsr => exact absurd rfl hne
      | xmm j => simp only [saveOffset, Slot.bytes]; omega
    | xmm i =>
      cases y with
      | gpr q =>
        have := ctorIdx_lt q
        rw [saveOffset_gpr]
        simp only [saveOffset, Slot.bytes]
        omega
      | mxcsr => simp only [saveOffset, Slot.bytes]; omega
      | xmm j =>
        have hij : i.val ≠ j.val := fun h => hne (by rw [Fin.ext h])
        simp only [saveOffset, Slot.bytes]
        omega
  aligned x := by
    cases x with
    | gpr r => exact Nat.mod_one _
    | mxcsr => rfl
    | xmm i => simp only [saveOffset, Slot.alignment]; omega

/-! ## The routines -/

/-- The functions the routines call. -/
inductive HvmFunction
  | hvmpEnterRoot
  | hvmpStartFailure
  | hvmpExitHandler
  | hvmpFailure
  | keBugCheck
deriving Repr, DecidableEq

/-- Their labels. -/
inductive HvmLabel
  | vmlaunchReturn
  | failValid
  | failInvalid
  | fail
  | finish
deriving Repr, DecidableEq

/-- The code of a routine. -/
abbrev HvmCode := List (Instr HvmFunction HvmLabel)

/-- The slots `CPU_SAVE_REGS` saves after RAX and RBX. -/
def savedSlots : List Slot :=
  [.gpr .rcx, .gpr .rdx, .gpr .rbp, .gpr .rsi, .gpr .rdi, .gpr .r8, .gpr .r9, .gpr .r10,
    .gpr .r11, .gpr .r12, .gpr .r13, .gpr .r14, .gpr .r15,
    .xmm 0, .xmm 1, .xmm 2, .xmm 3, .xmm 4, .xmm 5, .xmm 6, .xmm 7,
    .xmm 8, .xmm 9, .xmm 10, .xmm 11, .xmm 12, .xmm 13, .xmm 14, .xmm 15,
    .mxcsr]

/-- How `CPU_SAVE_REGS` saves RAX and RBX. -/
def saveRaxRbx : List Plain :=
  [.push .rbx,
    .lea .rbx .rsp (0x38#64 + 8#64),
    .load (.gpr .rbx) .rbx 0#64,
    .store .rbx (BitVec.ofNat 64 (saveOffset (.gpr .rax))) (.gpr .rax),
    .pop .rax,
    .store .rbx (BitVec.ofNat 64 (saveOffset (.gpr .rbx))) (.gpr .rax)]

/-- `CPU_SAVE_REGS`. -/
def cpuSaveRegs : List Plain := saveRaxRbx ++ stores .rbx saveOffset savedSlots

/-- The slots `CPU_RESTORE_REGS` restores before RBX. -/
def restoredSlots : List Slot :=
  [.xmm 0, .xmm 1, .xmm 2, .xmm 3, .xmm 4, .xmm 5, .xmm 6, .xmm 7,
    .xmm 8, .xmm 9, .xmm 10, .xmm 11, .xmm 12, .xmm 13, .xmm 14, .xmm 15,
    .mxcsr,
    .gpr .rax, .gpr .rcx, .gpr .rdx, .gpr .rbp, .gpr .rsi, .gpr .rdi, .gpr .r8, .gpr .r9,
    .gpr .r10, .gpr .r11, .gpr .r12, .gpr .r13, .gpr .r14, .gpr .r15]

/-- `CPU_RESTORE_REGS`. -/
def cpuRestoreRegs : List Plain :=
  loads .rbx saveOffset restoredSlots ++
    [.load (.gpr .rbx) .rbx (BitVec.ofNat 64 (saveOffset (.gpr .rbx)))]

/-- `CHECK_VM_ENTRY`. -/
def checkVmEntry : HvmCode := [.plain .nop, .jz .failValid, .jc .failInvalid]

/-- `CALLF_VM_ENTRY_FAILURE_HANDLER`. -/
def callfVmEntryFailureHandler (handler : HvmFunction) : HvmCode :=
  [.label .failValid,
    .plain (.movImm .rdx 1#64),
    .jmp .fail,
    .label .failInvalid,
    .plain (.xor .rdx .rdx),
    .label .fail,
    .plain (.load (.gpr .rcx) .rsp 0#64)] ++
  Win64.callAligned handler

/-- What sets up the parameters of `HvmpExitHandler`: the save area, and the
VCPU from the top of the page of the stack. -/
def exitHandlerParameters : List Plain :=
  [.mov .rdx .rbx,
    .mov .rcx .rsp,
    .orImm .rcx 0xFF8#64,
    .load (.gpr .rcx) .rcx 0#64]

/-- What loads the save area again. -/
def loadGuestArea : List Plain :=
  [.lea .rbx .rsp 0x38#64,
    .load (.gpr .rbx) .rbx 0#64]

/-- What follows VMRESUME if it fails. -/
def resumeFailed : HvmCode :=
  checkVmEntry ++ callfVmEntryFailureHandler .hvmpFailure ++
    [.plain (.mov .rcx .rax)] ++ Win64.callAligned .keBugCheck

/-- What follows the call of `HvmpExitHandler`. -/
def resumeGuest : HvmCode :=
  (loadGuestArea ++ cpuRestoreRegs).map .plain ++ (.vmresume :: resumeFailed)

/-- `AsmHvmpExitHandler`. -/
def asmHvmpExitHandler : HvmCode :=
  (cpuSaveRegs ++ exitHandlerParameters).map .plain ++
    (Win64.callAligned .hvmpExitHandler ++ resumeGuest)

/-! ## The stack of root mode -/

/-- Where a VCPU and its stack are: `HvmInitializePerCpu` allocates the VCPUs
aligned to `XMM_ALIGNMENT_SIZE`, `HvmInitializeStack` each stack aligned to pages,
and allocations do not overlap. -/
structure VcpuPlacement where
  vcpu : BitVec 64
  stack : BitVec 64
  stackPages : Nat
  vcpu_aligned : vcpu.toNat % 16 = 0
  stack_aligned : stack.toNat % 4096 = 0
  stackPages_pos : 0 < stackPages
  stack_le : stack.toNat + stackPages * 4096 ≤ 2 ^ 64
  apart : Apart vcpu sizeofGpRegisters stack (stackPages * 4096)

namespace VcpuPlacement

variable (k : VcpuPlacement)

/-- `StackSize`. -/
def stackSize : Nat := k.stackPages * 4096

/-- `&StackFrame[StackSize - sizeof(UINTN)]`. -/
def slot : BitVec 64 := k.stack + BitVec.ofNat 64 (k.stackSize - 8)

/-- `CurrentVcpu->Rsp`. -/
def rsp : BitVec 64 := k.stack + BitVec.ofNat 64 k.stackSize - 0x40#64

/-- The stack is as `HvmInitializeStack` left it. -/
def Initialized (m : Memory) : Prop := m.read k.slot 8 = k.vcpu

/-- `HvmInitializeStack`, on the stack that was allocated. -/
def hvmInitializeStack (m : Memory) : Memory := m.write k.slot 8 k.vcpu

theorem initialized_hvmInitializeStack (m : Memory) : k.Initialized (k.hvmInitializeStack m) :=
  Memory.read_write _ _ _ (by decide)

theorem rsp_toNat : k.rsp.toNat + 0x40 = k.stack.toNat + k.stackSize := by
  have hpos := k.stackPages_pos
  have hle := k.stack_le
  unfold rsp stackSize
  simp only [BitVec.toNat_sub, BitVec.toNat_add, BitVec.toNat_ofNat]
  have hsize : k.stackPages * 4096 % 2 ^ 64 = k.stackPages * 4096 ∨
      k.stack.toNat = 0 := by omega
  have hlt := k.stack.isLt
  omega

/-- `[rsp+38h]` is the word `HvmInitializeStack` stored. -/
theorem rsp_add_slot : k.rsp + 0x38#64 = k.slot := by
  have hpos := k.stackPages_pos
  have hrsp := k.rsp_toNat
  have hle := k.stack_le
  have hlt := k.stack.isLt
  unfold slot stackSize at *
  bv_omega

theorem rsp_mod : k.rsp.toNat % 4096 = 0xFC0 := by
  have hpos := k.stackPages_pos
  have hrsp := k.rsp_toNat
  have hal := k.stack_aligned
  unfold stackSize at hrsp
  omega

end VcpuPlacement

/-- The top of the page of an address in the last 64 bytes of it. -/
theorem or_top_of_page {x : BitVec 64} (h : x.toNat % 4096 = 0xFC0) :
    x ||| 0xFF8#64 = x + 0x38#64 := by
  have hlow : ∀ i < 12, x.getLsbD i = (0xFC0#64).getLsbD i := by
    intro i hi
    have hbit : Nat.testBit (x.toNat % 2 ^ 12) i = x.toNat.testBit i := by
      rw [Nat.testBit_mod_two_pow]
      simp [hi]
    unfold BitVec.getLsbD
    rw [← hbit, show (2 ^ 12 : Nat) = 4096 from rfl, h]
    rfl
  -- the constants have no bit from 12 on
  have hhigh : ∀ i < 64, ¬ i < 12 →
      (0x38#64).getLsbD i = false ∧ (0xFF8#64).getLsbD i = false := by decide
  have hand : x &&& 0x38#64 = 0#64 := by
    apply BitVec.eq_of_getLsbD_eq
    intro i hi
    rw [BitVec.getLsbD_and]
    by_cases h12 : i < 12
    · rw [hlow i h12]
      clear hi
      revert i
      decide
    · rw [(hhigh i hi h12).1]
      simp
  rw [BitVec.add_eq_or_of_and_eq_zero x 0x38#64 hand]
  apply BitVec.eq_of_getLsbD_eq
  intro i hi
  rw [BitVec.getLsbD_or, BitVec.getLsbD_or]
  by_cases h12 : i < 12
  · rw [hlow i h12]
    clear hi
    revert i
    decide
  · rw [(hhigh i hi h12).1, (hhigh i hi h12).2]

namespace VcpuPlacement

variable (k : VcpuPlacement)

/-- The part of the stack above the frame of `AsmHvmpExitHandler`. -/
def topBytes : Nat := 0x40

theorem or_rsp : k.rsp ||| 0xFF8#64 = k.slot := by
  rw [or_top_of_page k.rsp_mod, rsp_add_slot]

variable {k}

/-- What is a little below RSP, or above it, is in the stack. -/
theorem within_stack {a : BitVec 64} {d n : Nat} (hd : d ≤ 64) (hn : n ≤ d + topBytes)
    (h : Within a (k.rsp - BitVec.ofNat 64 d) n) : Within a k.stack k.stackSize := by
  have hpos := k.stackPages_pos
  have hrsp := k.rsp_toNat
  have hle := k.stack_le
  have hlt := k.rsp.isLt
  unfold stackSize topBytes Within at *
  bv_omega

theorem within_top_of_slot {a : BitVec 64} (h : Within a k.slot 8) : Within a k.rsp topBytes := by
  rw [← k.rsp_add_slot] at h
  exact h.of_part (i := 0x38) (by decide) (by decide)

/-- The save area is apart from what is pushed and from the top of the stack. -/
theorem apart_stack {d n : Nat} (hd : d ≤ 64) (hn : n ≤ d + topBytes) :
    Apart k.vcpu sizeofGpRegisters (k.rsp - BitVec.ofNat 64 d) n :=
  fun x hx hx' => k.apart x hx (within_stack hd hn hx')

theorem apart_top : Apart k.vcpu sizeofGpRegisters k.rsp topBytes := by
  have h := @apart_stack k 0 topBytes (Nat.zero_le _) (Nat.le_of_eq (Nat.zero_add _).symm)
  rwa [show k.rsp - BitVec.ofNat 64 0 = k.rsp from BitVec.sub_zero _] at h

theorem Initialized.congr {m m' : Memory} (h : k.Initialized m)
    (hm : ∀ a, Within a k.rsp topBytes → m' a = m a) : k.Initialized m' :=
  (Memory.read_congr (by decide) fun a ha => hm a (within_top_of_slot ha)).trans h

end VcpuPlacement

theorem savedAt_congr {m m' : Memory} {a : BitVec 64} {x : Slot}
    (h : ∀ b, Within b a sizeofGpRegisters → m' b = m b) :
    savedAt saveOffset m' a x = savedAt saveOffset m a x := by
  have hin := saveOffset_layout.inside x
  exact Memory.read_congr (Nat.le_trans x.bytes_le (by decide))
    fun b hb => h b (hb.of_part hin (by decide))

section Save

variable {k : VcpuPlacement}

/-- The bytes of a field are in the save area. -/
theorem within_area {a b : BitVec 64} {x : Slot}
    (h : Within a (b + BitVec.ofNat 64 (saveOffset x)) x.bytes) : Within a b sizeofGpRegisters :=
  h.of_part (saveOffset_layout.inside x) (by decide)

/-- A field of the save area is apart from the stack. -/
theorem apart_field {d n : Nat} (hd : d ≤ 64) (hn : n ≤ d + VcpuPlacement.topBytes) (x : Slot) :
    Apart (k.vcpu + BitVec.ofNat 64 (saveOffset x)) x.bytes (k.rsp - BitVec.ofNat 64 d) n :=
  (VcpuPlacement.apart_stack hd hn).mono (fun _ ha => within_area ha) fun _ ha => ha

theorem execAll_saveRaxRbx {s : State} (hrsp : s.gpr .rsp = k.rsp)
    (hinit : k.Initialized s.memory) :
    ∃ s', execAll saveRaxRbx s = some s' ∧ s'.gpr .rbx = k.vcpu ∧ s'.gpr .rsp = k.rsp ∧
      savedAt saveOffset s'.memory k.vcpu (.gpr .rax) = s.gpr .rax ∧
      savedAt saveOffset s'.memory k.vcpu (.gpr .rbx) = s.gpr .rbx ∧
      (∀ x, x ≠ .gpr .rax → x ≠ .gpr .rbx → x ≠ .gpr .rsp → s'.slots x = s.slots x) ∧
      ∀ a, Within a k.rsp VcpuPlacement.topBytes → s'.memory a = s.memory a := by
  -- RBX is pushed below the slot, which then gives the save area
  have hpushed : ∀ a, Within a k.rsp VcpuPlacement.topBytes →
      s.memory.write (k.rsp - 8#64) 8 (s.gpr .rbx) a = s.memory a := by
    intro a ha
    refine Memory.write_out fun hin => ?_
    unfold Within VcpuPlacement.topBytes at *
    bv_omega
  have harea : (s.memory.write (k.rsp - 8#64) 8 (s.gpr .rbx)).read k.slot 8 = k.vcpu :=
    hinit.congr hpushed
  have hslot : k.rsp - 8#64 + 64#64 = k.slot := by
    rw [← k.rsp_add_slot]
    bv_omega
  -- and is popped again once RAX is saved
  have hapart : Apart (k.rsp - 8#64) 8 (k.vcpu + BitVec.ofNat 64 (saveOffset (.gpr .rax))) 8 :=
    (apart_field (d := 8) (by decide) (by decide) (.gpr .rax)).symm
  have hpopped : ((s.memory.write (k.rsp - 8#64) 8 (s.gpr .rbx)).write
      (k.vcpu + BitVec.ofNat 64 (saveOffset (.gpr .rax))) 8 (s.gpr .rax)).read
        (k.rsp - 8#64) 8 = s.gpr .rbx := by
    rw [Memory.read_write_apart hapart (by decide)]
    exact Memory.read_write _ _ _ (by decide)
  have hback : k.rsp - 8#64 + 8#64 = k.rsp := BitVec.sub_add_cancel ..
  have hexec : execAll saveRaxRbx s =
      some (((((((s.push (s.gpr .rbx)).setGpr .rbx k.slot).setGpr .rbx k.vcpu).store
        (k.vcpu + BitVec.ofNat 64 (saveOffset (.gpr .rax))) 8 (s.gpr .rax)).setGpr
          .rsp k.rsp).setGpr .rax (s.gpr .rbx)).store
        (k.vcpu + BitVec.ofNat 64 (saveOffset (.gpr .rbx))) 8 (s.gpr .rbx)) := by
    simp [saveRaxRbx, execAll, hrsp, hslot, harea, hpopped, hback]
  refine ⟨_, hexec, by simp, by simp, ?_, ?_, ?_, ?_⟩
  · exact (saveOffset_layout.savedAt_store_of_ne (x := .gpr .rbx) (y := .gpr .rax)
      (by decide)).trans (Memory.read_write _ _ _ (by decide))
  · exact Memory.read_write _ _ _ (by decide)
  · intro x hrax hrbx hrspx
    simp only [State.store_slots, State.setGpr_slots_of_ne hrax, State.setGpr_slots_of_ne hrbx,
      State.setGpr_slots_of_ne hrspx, State.push_slots hrspx]
  · intro a ha
    have hout : ∀ x, ¬ Within a (k.vcpu + BitVec.ofNat 64 (saveOffset x)) x.bytes := by
      intro x hx
      exact VcpuPlacement.apart_top a (within_area hx) ha
    refine (Memory.write_out (hout (.gpr .rbx))).trans
      ((Memory.write_out (hout (.gpr .rax))).trans ?_)
    rw [State.setGpr_memory, State.setGpr_memory, State.push_memory, hrsp]
    exact hpushed a ha

/-- **`CPU_SAVE_REGS`** saves every slot but RSP, whose word it leaves, and
changes nothing above the stack pointer; RBX then is the save area. -/
theorem execAll_cpuSaveRegs {s : State} (hrsp : s.gpr .rsp = k.rsp)
    (hinit : k.Initialized s.memory) :
    ∃ s', execAll cpuSaveRegs s = some s' ∧ s'.gpr .rbx = k.vcpu ∧ s'.gpr .rsp = k.rsp ∧
      (∀ x, x ≠ .gpr .rsp → savedAt saveOffset s'.memory k.vcpu x = s.slots x) ∧
      ∀ a, Within a k.rsp VcpuPlacement.topBytes → s'.memory a = s.memory a := by
  obtain ⟨s₁, hexec, hrbx, hrsp₁, hrax, hrbxSaved, hslots, htop⟩ :=
    execAll_saveRaxRbx hrsp hinit
  obtain ⟨m, hstores, hsaved, hout⟩ := execAll_stores saveOffset_layout .rbx savedSlots s₁
    (by rw [hrbx]; exact k.vcpu_aligned)
  refine ⟨{ s₁ with memory := m }, ?_, hrbx, hrsp₁, ?_, ?_⟩
  · rw [cpuSaveRegs, execAll_append, hexec, Option.bind_some]
    exact hstores
  · intro x hx
    rw [hrbx] at hsaved
    have hmem : x = .gpr .rax ∨ x = .gpr .rbx ∨ x ∈ savedSlots := by
      cases x with
      | gpr r => cases r <;> first | exact absurd rfl hx | decide
      | xmm i => revert i; decide
      | mxcsr => decide
    rcases hmem with rfl | rfl | hmem
    · rw [hsaved, if_neg (by decide)]
      exact hrax
    · rw [hsaved, if_neg (by decide)]
      exact hrbxSaved
    · rw [hsaved, if_pos hmem]
      refine hslots x ?_ ?_ hx
      · rintro rfl
        exact absurd hmem (by decide)
      · rintro rfl
        exact absurd hmem (by decide)
  · intro a ha
    rw [← htop a ha]
    refine hout a fun hin => ?_
    rw [hrbx] at hin
    exact VcpuPlacement.apart_top a hin ha

/-- **`CPU_RESTORE_REGS`** sets every slot but RSP from the save area. -/
theorem execAll_cpuRestoreRegs {s : State} (hrbx : s.gpr .rbx = k.vcpu)
    (hmxcsr : Slot.Holds .mxcsr (savedAt saveOffset s.memory k.vcpu .mxcsr)) :
    ∃ s', execAll cpuRestoreRegs s = some s' ∧ s'.gpr .rsp = s.gpr .rsp ∧
      s'.memory = s.memory ∧
      ∀ x, x ≠ .gpr .rsp → s'.slots x = savedAt saveOffset s.memory k.vcpu x := by
  have hholds : ∀ x ∈ restoredSlots, x.Holds (savedAt saveOffset s.memory (s.gpr .rbx) x) := by
    intro x _
    rw [hrbx]
    cases x with
    | gpr r => trivial
    | xmm i => trivial
    | mxcsr => exact hmxcsr
  obtain ⟨f, hloads, hf⟩ := execAll_loads saveOffset_layout .rbx restoredSlots s
    (by rw [hrbx]; exact k.vcpu_aligned) (by decide) hholds
  rw [hrbx] at hf
  have hf_rbx : f (.gpr .rbx) = k.vcpu := by
    rw [hf, if_neg (by decide)]
    exact hrbx
  refine ⟨({ s with slots := f } : State).setGpr .rbx
    (savedAt saveOffset s.memory k.vcpu (.gpr .rbx)), ?_, ?_, rfl, ?_⟩
  · rw [cpuRestoreRegs, execAll_append, hloads, Option.bind_some]
    refine (execAll_cons (Plain.exec_load_gpr ..)).trans ?_
    rw [execAll, show State.gpr { s with slots := f } .rbx = k.vcpu from hf_rbx]
    rfl
  · exact (State.setGpr_slots_of_ne (by decide)).trans
      ((hf (.gpr .rsp)).trans (if_neg (by decide)))
  · intro x hx
    by_cases hrbx' : x = .gpr .rbx
    · subst hrbx'
      exact State.set_slots_self ..
    · have hmem : x ∈ restoredSlots := by
        cases x with
        | gpr r => cases r <;> first | exact absurd rfl hx | exact absurd rfl hrbx' | decide
        | xmm i => revert i; decide
        | mxcsr => decide
      exact (State.setGpr_slots_of_ne hrbx').trans ((hf x).trans (if_pos hmem))

end Save

/-! ## The parameters and the area again -/

section Between

variable {k : VcpuPlacement}

/-- The first parameter of `HvmpExitHandler` is the VCPU, the second the save
area. -/
theorem execAll_exitHandlerParameters {s : State} (hrbx : s.gpr .rbx = k.vcpu)
    (hrsp : s.gpr .rsp = k.rsp) (hinit : k.Initialized s.memory) :
    ∃ s', execAll exitHandlerParameters s = some s' ∧ s'.gpr .rcx = k.vcpu ∧
      s'.gpr .rdx = k.vcpu ∧ s'.gpr .rsp = k.rsp ∧ s'.memory = s.memory := by
  have hread : s.memory.read k.slot 8 = k.vcpu := hinit
  refine ⟨(((s.setGpr .rdx k.vcpu).setGpr .rcx k.rsp).logic .rcx k.slot).setGpr .rcx k.vcpu,
    ?_, by simp, by simp, by simp [hrsp], rfl⟩
  simp [exitHandlerParameters, execAll, hrbx, hrsp, k.or_rsp, hread]

/-- RBX is the save area again. -/
theorem execAll_loadGuestArea {s : State} (hrsp : s.gpr .rsp = k.rsp)
    (hinit : k.Initialized s.memory) :
    ∃ s', execAll loadGuestArea s = some s' ∧ s'.gpr .rbx = k.vcpu ∧ s'.gpr .rsp = k.rsp ∧
      s'.memory = s.memory := by
  have hread : s.memory.read k.slot 8 = k.vcpu := hinit
  refine ⟨(s.setGpr .rbx k.slot).setGpr .rbx k.vcpu, ?_, by simp, by simp [hrsp], rfl⟩
  simp [loadGuestArea, execAll, hrsp, k.rsp_add_slot, hread]

end Between

end DeepShield.Vmx
