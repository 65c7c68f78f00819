import DeepShield.Lib.Ledger
import DeepShield.Os.NtStatus

/-!
# Building the HVM and taking it down

`hvm_create.c`: an `HVM`, an array of `HVM_VCPU`s and, for each processor, a
VMXON region, a VMCS and a stack, every one of them a block of the private heap
that may not be there. Which of the allocations of a load succeed is an input
(`LoadOutcome`); the books of the heap are a `Ledger`.

What has been built at any point is what hangs off the `HVM` (`hvmBlocks`), with
a null pointer wherever the construction has not come to. That is the whole
invariant. The construction keeps it at every step, whether or not the step
fails, and taking the `HVM` down frees what hangs off it and nothing else
(`hvmFinalize_owns`), whatever part of it was built.
-/

namespace DeepShield.Load

open DeepShield.Os DeepShield.Lib

/-! ## The data -/

/-- `HVM_VCPU`: the processor it is for and the pointers it holds. `Context`
points into an array and is the array's block with the index. -/
structure HvmVcpu where
  index : Nat
  hvm : Option Nat
  vmxOnHva : Option Nat
  vmcsHva : Option Nat
  stack : Option Nat
  context : Option (Nat × Nat)
  launched : Bool
deriving Repr, DecidableEq

/-- An `HVM_VCPU` that `RtlZeroMemory` went over. -/
def HvmVcpu.zero : HvmVcpu :=
  { index := 0, hvm := none, vmxOnHva := none, vmcsHva := none, stack := none, context := none,
    launched := false }

/-- `HVM`. -/
structure Hvm where
  vcpuArray : Option Nat
  hvmContext : Option Nat
  launched : Bool
deriving Repr, DecidableEq

/-- An `HVM` that `RtlZeroMemory` went over. -/
def Hvm.zero : Hvm := { vcpuArray := none, hvmContext := none, launched := false }

/-- `HVM_CONTEXT`: the one block it holds. -/
structure HvmContext where
  msrBitmap : Option Nat
deriving Repr, DecidableEq

/-- `VCPU_CONTEXT`: the one block it holds. -/
structure VcpuContext where
  tscHits : Option Nat
deriving Repr, DecidableEq

/-- What each block holds, by the type the driver gives it. A block that was just
allocated holds what memory happens to hold there. -/
structure Memory where
  hvm : Nat → Hvm
  vcpu : Nat → Nat → HvmVcpu
  hvmContext : Nat → HvmContext
  vcpuContext : Nat → Nat → VcpuContext

/-- The heap, the globals of `dshvm.c` and `context.c` and, for each processor in
guest mode, the blocks it is running on. -/
structure DsHvm where
  ledger : Ledger
  memory : Memory
  gHvm : Option Nat
  gHvmContext : Option Nat
  gVcpuContexts : Option Nat
  guest : Nat → List Nat

/-- The allocations of a load, each of which happens at most once. -/
inductive AllocSite
  | hvm
  | vcpuArray
  | vmxOn (vcpuId : Nat)
  | vmcs (vcpuId : Nat)
  | stack (vcpuId : Nat)
  | hvmContext
  | msrBitmap
  | vcpuContexts
  | tscHits (vcpuId : Nat)
deriving Repr, DecidableEq

/-- How the calls out of a load turn out: whether VMX is there, which allocations
succeed, which processors start and which would stop again. -/
structure LoadOutcome where
  vmxVerifySupport : Bool
  memAlloc : AllocSite → Bool
  startVcpu : Nat → Option NtFailure
  stopVcpu : Nat → Option NtFailure

namespace DsHvm

/-- An access to a block. -/
def use (b : Nat) (s : DsHvm) : DsHvm := { s with ledger := s.ledger.use b }

/-- `MemAlloc` and its siblings. -/
def memAlloc (ok : Bool) (s : DsHvm) : Option Nat × DsHvm :=
  ((s.ledger.alloc ok).1, { s with ledger := (s.ledger.alloc ok).2 })

/-- `MemFree`. -/
def memFree (b : Nat) (s : DsHvm) : DsHvm := { s with ledger := s.ledger.free b }

/-- `MemFree` behind a test for a null pointer. -/
def memFreePointee (p : Option Nat) (s : DsHvm) : DsHvm :=
  { s with ledger := s.ledger.freePointee p }

/-- The `HVM` in `hvm` is written. -/
def setHvm (hvm : Nat) (write : Hvm → Hvm) (s : DsHvm) : DsHvm :=
  { s.use hvm with
    memory := { s.memory with
      hvm := Function.update s.memory.hvm hvm (write (s.memory.hvm hvm)) } }

/-- The `HVM_VCPU`s in `vcpus` are written. -/
def setVcpus (vcpus : Nat) (entries : Nat → HvmVcpu) (s : DsHvm) : DsHvm :=
  { s.use vcpus with
    memory := { s.memory with vcpu := Function.update s.memory.vcpu vcpus entries } }

/-- One of the `HVM_VCPU`s in `vcpus` is written. -/
def setVcpu (vcpus cpuIdx : Nat) (write : HvmVcpu → HvmVcpu) (s : DsHvm) : DsHvm :=
  s.setVcpus vcpus (Function.update (s.memory.vcpu vcpus) cpuIdx
    (write (s.memory.vcpu vcpus cpuIdx)))

end DsHvm

/-- `if (!NT_SUCCESS( Status )) goto RoutineExit;` before the rest of a routine. -/
def andThen (result : NtStatus × DsHvm) (rest : DsHvm → NtStatus × DsHvm) : NtStatus × DsHvm :=
  if ntSuccess result.1 then rest result.2 else result

/-! ## The functions -/

/-- `HvmInitializeVmxOn` and `HvmInitializeVmcs`: allocate, store the pointer in
its field and write the header of the region. -/
def hvmInitializeRegion (store : Option Nat → HvmVcpu → HvmVcpu) (ok : Bool)
    (vcpus cpuIdx : Nat) (s : DsHvm) : NtStatus × DsHvm :=
  let (region, s) := s.memAlloc ok
  let s := s.setVcpu vcpus cpuIdx (store region)
  match region with
  | some region => (statusSuccess, s.use region)
  | none => (statusNoMemory, s)

/-- `Vcpu->VmxOnHva = region`. -/
def storeVmxOn (region : Option Nat) (vcpu : HvmVcpu) : HvmVcpu := { vcpu with vmxOnHva := region }

/-- `Vcpu->VmcsHva = region`. -/
def storeVmcs (region : Option Nat) (vcpu : HvmVcpu) : HvmVcpu := { vcpu with vmcsHva := region }

/-- `HvmInitializeVmxOn`. -/
def hvmInitializeVmxOn : Bool → Nat → Nat → DsHvm → NtStatus × DsHvm :=
  hvmInitializeRegion storeVmxOn

/-- `HvmInitializeVmcs`. -/
def hvmInitializeVmcs : Bool → Nat → Nat → DsHvm → NtStatus × DsHvm :=
  hvmInitializeRegion storeVmcs

/-- `HvmInitializeStack`: the pointer is stored only once there is a stack. -/
def hvmInitializeStack (ok : Bool) (vcpus cpuIdx : Nat) (s : DsHvm) : NtStatus × DsHvm :=
  match s.memAlloc ok with
  | (some stackFrame, s) =>
    (statusSuccess,
      (s.use stackFrame).setVcpu vcpus cpuIdx fun vcpu => { vcpu with stack := some stackFrame })
  | (none, s) => (statusNoMemory, s)

/-- One pass of the loop in `HvmInitializePerCpu`. -/
def hvmInitializeVcpu (o : LoadOutcome) (hvm vcpus cpuIdx : Nat) (s : DsHvm) :
    NtStatus × DsHvm :=
  let s := (s.use hvm).setVcpu vcpus cpuIdx fun vcpu =>
    { vcpu with hvm := some hvm, index := cpuIdx, launched := false }
  andThen (hvmInitializeVmxOn (o.memAlloc (.vmxOn cpuIdx)) vcpus cpuIdx s) fun s =>
  andThen (hvmInitializeVmcs (o.memAlloc (.vmcs cpuIdx)) vcpus cpuIdx s) fun s =>
  hvmInitializeStack (o.memAlloc (.stack cpuIdx)) vcpus cpuIdx s

/-- The loop in `HvmInitializePerCpu`. -/
def hvmInitializeVcpus (o : LoadOutcome) (hvm vcpus : Nat) : List Nat → DsHvm → NtStatus × DsHvm
  | [], s => (statusSuccess, s)
  | cpuIdx :: rest, s =>
    andThen (hvmInitializeVcpu o hvm vcpus cpuIdx s) (hvmInitializeVcpus o hvm vcpus rest)

/-- One pass of the loop in `HvmDeletePerCpu`. -/
def hvmDeleteVcpu (vcpus cpuIdx : Nat) (s : DsHvm) : DsHvm :=
  let vcpu := s.memory.vcpu vcpus cpuIdx
  let s := (s.use vcpus).memFreePointee vcpu.stack
  let s := (s.use vcpus).memFreePointee vcpu.vmcsHva
  (s.use vcpus).memFreePointee vcpu.vmxOnHva

/-- `HvmDeletePerCpu` on a machine of `cpuCount` processors. -/
def hvmDeletePerCpu (cpuCount hvm : Nat) (s : DsHvm) : DsHvm :=
  let s := s.use hvm
  match (s.memory.hvm hvm).vcpuArray with
  | none => s
  | some vcpus =>
    ((List.range cpuCount).foldl (fun s cpuIdx => hvmDeleteVcpu vcpus cpuIdx s) s).memFree vcpus

/-- `HvmInitializePerCpu` from where it has an array of VCPUs. -/
def hvmInitializeVcpuArray (cpuCount : Nat) (o : LoadOutcome) (hvm vcpus : Nat) (s : DsHvm) :
    NtStatus × DsHvm :=
  let (status, s) := hvmInitializeVcpus o hvm vcpus (List.range cpuCount)
    (s.setVcpus vcpus fun _ => .zero)
  if ntSuccess status then (status, s) else (status, hvmDeletePerCpu cpuCount hvm s)

/-- `HvmInitializePerCpu`. -/
def hvmInitializePerCpu (cpuCount : Nat) (o : LoadOutcome) (hvm : Nat) (s : DsHvm) :
    NtStatus × DsHvm :=
  let (vcpuArray, s) := s.memAlloc (o.memAlloc .vcpuArray)
  let s := s.setHvm hvm fun hvm => { hvm with vcpuArray := vcpuArray }
  match vcpuArray with
  | none => (statusNoMemory, s)
  | some vcpus => hvmInitializeVcpuArray cpuCount o hvm vcpus s

/-- `HvmInitialize`: the status, `*ReturnHvm` and the state. The last access copies
`gVmState` into the `HVM`. -/
def hvmInitialize (cpuCount : Nat) (o : LoadOutcome) (s : DsHvm) :
    NtStatus × Option Nat × DsHvm :=
  if o.vmxVerifySupport = false then (statusNotSupported, none, s)
  else
    match s.memAlloc (o.memAlloc .hvm) with
    | (none, s) => (statusNoMemory, none, s)
    | (some hvm, s) =>
      let (status, s) := hvmInitializePerCpu cpuCount o hvm (s.setHvm hvm fun _ => .zero)
      if ntSuccess status then (status, some hvm, s.use hvm) else (status, none, s.memFree hvm)

/-- `HvmFinalize`. -/
def hvmFinalize (cpuCount hvm : Nat) (s : DsHvm) : DsHvm :=
  (hvmDeletePerCpu cpuCount hvm s).memFree hvm

/-! ## What hangs off an HVM -/

/-- The blocks of a processor. -/
def vcpuBlocks (vcpu : HvmVcpu) : Multiset Nat :=
  Ledger.pointee vcpu.stack + (Ledger.pointee vcpu.vmcsHva + Ledger.pointee vcpu.vmxOnHva)

/-- The blocks of the processors of a list. -/
def vcpusBlocks (cpus : List Nat) (entries : Nat → HvmVcpu) : Multiset Nat :=
  (cpus.map fun cpuIdx => vcpuBlocks (entries cpuIdx)).sum

/-- The array of VCPUs with what hangs off it. -/
def vcpuArrayBlocks (cpuCount : Nat) (memory : Memory) : Option Nat → Multiset Nat
  | none => 0
  | some vcpus => vcpusBlocks (List.range cpuCount) (memory.vcpu vcpus) + {vcpus}

/-- The `HVM` with what hangs off it. -/
def hvmBlocks (cpuCount : Nat) (memory : Memory) (hvm : Nat) : Multiset Nat :=
  vcpuArrayBlocks cpuCount memory (memory.hvm hvm).vcpuArray + {hvm}

variable {s : DsHvm} {owned : Multiset Nat} {b hvm vcpus cpuIdx cpuCount : Nat}

theorem mem_hvmBlocks_self (cpuCount : Nat) (memory : Memory) (hvm : Nat) :
    hvm ∈ hvmBlocks cpuCount memory hvm :=
  Multiset.mem_add.mpr (Or.inr (Multiset.mem_singleton_self hvm))

theorem mem_hvmBlocks_array {memory : Memory}
    (h : (memory.hvm hvm).vcpuArray = some vcpus) : vcpus ∈ hvmBlocks cpuCount memory hvm := by
  unfold hvmBlocks
  rw [h]
  exact Multiset.mem_add.mpr (Or.inl (Multiset.mem_add.mpr (Or.inr
    (Multiset.mem_singleton_self vcpus))))

/-! ## Accesses and writes -/

/-- Touching a block that is held changes nothing. -/
theorem DsHvm.use_owned (h : s.ledger.Owns owned) (hb : b ∈ owned) : s.use b = s := by
  unfold DsHvm.use
  rw [h.use hb]

/-- The state once a block more was allocated. -/
def DsHvm.allocated (s : DsHvm) : DsHvm :=
  { s with ledger := { s.ledger with next := s.ledger.next + 1 } }

@[simp] theorem DsHvm.memAlloc_true (s : DsHvm) :
    s.memAlloc true = (some s.ledger.next, s.allocated) := rfl

@[simp] theorem DsHvm.memAlloc_false (s : DsHvm) : s.memAlloc false = (none, s) := rfl

@[simp] theorem DsHvm.allocated_memory (s : DsHvm) : s.allocated.memory = s.memory := rfl

theorem DsHvm.allocated_owns (h : s.ledger.Owns owned) :
    s.allocated.ledger.Owns ({s.ledger.next} + owned) := h.alloc

/-- The state with other books. -/
def DsHvm.withLedger (s : DsHvm) (ledger : Ledger) : DsHvm := { s with ledger := ledger }

/-- The state with other books and other entries in the array `vcpus`. -/
def DsHvm.withVcpus (s : DsHvm) (ledger : Ledger) (vcpus : Nat) (entries : Nat → HvmVcpu) : DsHvm :=
  { s with
    ledger := ledger
    memory := { s.memory with vcpu := Function.update s.memory.vcpu vcpus entries } }

@[simp] theorem DsHvm.withVcpus_vcpu {ledger : Ledger} {entries : Nat → HvmVcpu} :
    (s.withVcpus ledger vcpus entries).memory.vcpu vcpus = entries := by
  unfold DsHvm.withVcpus
  exact Function.update_self _ _ _

/-- The last write to the array is the one that counts. -/
@[simp] theorem DsHvm.withVcpus_withVcpus {ledger ledger' : Ledger}
    {entries entries' : Nat → HvmVcpu} :
    (s.withVcpus ledger vcpus entries).withVcpus ledger' vcpus entries'
      = s.withVcpus ledger' vcpus entries' := by
  unfold DsHvm.withVcpus
  simp only [Function.update_idem]

/-- The state with other books, and one entry written. -/
def DsHvm.withVcpu (s : DsHvm) (ledger : Ledger) (vcpus cpuIdx : Nat) (entry : HvmVcpu) : DsHvm :=
  s.withVcpus ledger vcpus (Function.update (s.memory.vcpu vcpus) cpuIdx entry)

@[simp] theorem DsHvm.withVcpu_ledger {ledger : Ledger} {entry : HvmVcpu} :
    (s.withVcpu ledger vcpus cpuIdx entry).ledger = ledger := rfl

@[simp] theorem DsHvm.withVcpu_vcpu {ledger : Ledger} {entry : HvmVcpu} :
    (s.withVcpu ledger vcpus cpuIdx entry).memory.vcpu vcpus cpuIdx = entry := by
  unfold DsHvm.withVcpu
  rw [DsHvm.withVcpus_vcpu, Function.update_self]

@[simp] theorem DsHvm.withVcpu_withVcpu {ledger ledger' : Ledger} {entry entry' : HvmVcpu} :
    (s.withVcpu ledger vcpus cpuIdx entry).withVcpu ledger' vcpus cpuIdx entry'
      = s.withVcpu ledger' vcpus cpuIdx entry' := by
  unfold DsHvm.withVcpu
  rw [DsHvm.withVcpus_vcpu, DsHvm.withVcpus_withVcpus, Function.update_idem]

theorem DsHvm.setVcpu_owned (cpuIdx : Nat) (write : HvmVcpu → HvmVcpu) (h : s.ledger.Owns owned)
    (hv : vcpus ∈ owned) :
    s.setVcpu vcpus cpuIdx write
      = s.withVcpu s.ledger vcpus cpuIdx (write (s.memory.vcpu vcpus cpuIdx)) := by
  unfold DsHvm.setVcpu DsHvm.setVcpus
  rw [DsHvm.use_owned h hv]
  rfl

/-! ## Taking down -/

/-- A processor's blocks are freed, whichever of them there are. -/
theorem hvmDeleteVcpu_owns
    (h : s.ledger.Owns (vcpuBlocks (s.memory.vcpu vcpus cpuIdx) + owned)) (hv : vcpus ∈ owned) :
    ∃ ledger : Ledger, ledger.Owns owned ∧
      hvmDeleteVcpu vcpus cpuIdx s = s.withLedger ledger := by
  unfold vcpuBlocks at h
  rw [add_assoc, add_assoc] at h
  have hstack := h.freePointee
  have hvmcs := hstack.freePointee
  have hv₁ := Ledger.mem_add_right (s.memory.vcpu vcpus cpuIdx).vmxOnHva hv
  have hv₂ := Ledger.mem_add_right (s.memory.vcpu vcpus cpuIdx).vmcsHva hv₁
  have hv₃ := Ledger.mem_add_right (s.memory.vcpu vcpus cpuIdx).stack hv₂
  refine ⟨_, hvmcs.freePointee, ?_⟩
  unfold hvmDeleteVcpu DsHvm.memFreePointee DsHvm.use DsHvm.withLedger
  simp only [h.use hv₃, hstack.use hv₂, hvmcs.use hv₁]

/-- So are those of the processors of a list. -/
theorem foldl_hvmDeleteVcpu_owns (cpus : List Nat)
    (h : s.ledger.Owns (vcpusBlocks cpus (s.memory.vcpu vcpus) + owned)) (hv : vcpus ∈ owned) :
    ∃ ledger : Ledger, ledger.Owns owned ∧
      cpus.foldl (fun s cpuIdx => hvmDeleteVcpu vcpus cpuIdx s) s = s.withLedger ledger := by
  induction cpus generalizing s with
  | nil => exact ⟨s.ledger, h.of_eq (zero_add owned), rfl⟩
  | cons cpuIdx cpus ih =>
    have hsplit : vcpusBlocks (cpuIdx :: cpus) (s.memory.vcpu vcpus) + owned
        = vcpuBlocks (s.memory.vcpu vcpus cpuIdx)
          + (vcpusBlocks cpus (s.memory.vcpu vcpus) + owned) := by
      unfold vcpusBlocks
      rw [List.map_cons, List.sum_cons, add_assoc]
    obtain ⟨ledger, hledger, hs⟩ :=
      hvmDeleteVcpu_owns (h.of_eq hsplit) (Multiset.mem_add.mpr (Or.inr hv))
    obtain ⟨ledger', hledger', hs'⟩ := ih (s := s.withLedger ledger) hledger
    refine ⟨ledger', hledger', ?_⟩
    rw [List.foldl_cons, hs, hs']
    rfl

/-- **Taking the VCPUs down** leaves the `HVM` itself. -/
theorem hvmDeletePerCpu_owns (h : s.ledger.Owns (hvmBlocks cpuCount s.memory hvm + owned)) :
    ∃ ledger : Ledger, ledger.Owns ({hvm} + owned) ∧
      hvmDeletePerCpu cpuCount hvm s = s.withLedger ledger := by
  unfold hvmBlocks at h
  rw [add_assoc] at h
  have huse : s.use hvm = s := DsHvm.use_owned h (by simp)
  unfold hvmDeletePerCpu
  simp only [huse]
  cases hvcpus : (s.memory.hvm hvm).vcpuArray with
  | none =>
    rw [hvcpus] at h
    exact ⟨s.ledger, h.of_eq (zero_add _), rfl⟩
  | some vcpus =>
    rw [hvcpus] at h
    have hloop := h.of_eq (add_assoc _ {vcpus} ({hvm} + owned))
    obtain ⟨ledger, hledger, hs⟩ := foldl_hvmDeleteVcpu_owns (List.range cpuCount) hloop (by simp)
    refine ⟨ledger.free vcpus, hledger.free, ?_⟩
    simp only [hs]
    rfl

/-- **Taking the HVM down** frees what hangs off it, whatever part of it was
built. -/
theorem hvmFinalize_owns (h : s.ledger.Owns (hvmBlocks cpuCount s.memory hvm + owned)) :
    ∃ ledger : Ledger, ledger.Owns owned ∧ hvmFinalize cpuCount hvm s = s.withLedger ledger := by
  obtain ⟨ledger, hledger, hs⟩ := hvmDeletePerCpu_owns h
  refine ⟨ledger.free hvm, hledger.free, ?_⟩
  unfold hvmFinalize
  rw [hs]
  rfl

/-! ## Building up -/

/-- The status of an allocation. -/
def allocStatus (ok : Bool) : NtStatus := if ok then statusSuccess else statusNoMemory

@[simp] theorem ntSuccess_allocStatus (ok : Bool) : ntSuccess (allocStatus ok) = ok := by
  cases ok <;> decide

theorem vcpuBlocks_storeVmxOn (vcpu : HvmVcpu) (hnull : vcpu.vmxOnHva = none)
    (region : Option Nat) :
    vcpuBlocks (storeVmxOn region vcpu) = Ledger.pointee region + vcpuBlocks vcpu := by
  unfold vcpuBlocks storeVmxOn
  simp only [hnull, Ledger.pointee_none]
  abel

theorem vcpuBlocks_storeVmcs (vcpu : HvmVcpu) (hnull : vcpu.vmcsHva = none)
    (region : Option Nat) :
    vcpuBlocks (storeVmcs region vcpu) = Ledger.pointee region + vcpuBlocks vcpu := by
  unfold vcpuBlocks storeVmcs
  simp only [hnull, Ledger.pointee_none]
  abel

/-- A region is the processor's from the moment its pointer is stored. -/
theorem hvmInitializeRegion_owns {store : Option Nat → HvmVcpu → HvmVcpu} {ledger : Ledger}
    {entry : HvmVcpu} (s : DsHvm) (cpuIdx : Nat) (ok : Bool)
    (hstore : ∀ region, vcpuBlocks (store region entry)
      = Ledger.pointee region + vcpuBlocks entry)
    (h : ledger.Owns (vcpuBlocks entry + owned)) (hv : vcpus ∈ owned) :
    ∃ (ledger' : Ledger) (region : Option Nat),
      ledger'.Owns (vcpuBlocks (store region entry) + owned) ∧
      hvmInitializeRegion store ok vcpus cpuIdx (s.withVcpu ledger vcpus cpuIdx entry)
        = (allocStatus ok, s.withVcpu ledger' vcpus cpuIdx (store region entry)) := by
  have hmem : vcpus ∈ vcpuBlocks entry + owned := Multiset.mem_add.mpr (Or.inr hv)
  cases ok with
  | false =>
    refine ⟨ledger, none, h.of_eq (by rw [hstore, Ledger.pointee_none, zero_add]), ?_⟩
    have hset := DsHvm.setVcpu_owned (s := s.withVcpu ledger vcpus cpuIdx entry)
      cpuIdx (store none) h hmem
    rw [DsHvm.withVcpu_vcpu, DsHvm.withVcpu_ledger, DsHvm.withVcpu_withVcpu] at hset
    rw [← hset]
    rfl
  | true =>
    have hnew := h.alloc
    refine ⟨_, some ledger.next, hnew.of_eq ?_, ?_⟩
    · rw [hstore, Ledger.pointee_some, add_assoc]
    · have hset := DsHvm.setVcpu_owned
        (s := s.withVcpu { ledger with next := ledger.next + 1 } vcpus cpuIdx entry)
        cpuIdx (store (some ledger.next)) hnew
        (Multiset.mem_add.mpr (Or.inr hmem))
      rw [DsHvm.withVcpu_vcpu, DsHvm.withVcpu_ledger, DsHvm.withVcpu_withVcpu] at hset
      have huse := DsHvm.use_owned
        (s := s.withVcpu { ledger with next := ledger.next + 1 } vcpus cpuIdx
          (store (some ledger.next) entry)) (b := ledger.next) hnew (by simp)
      rw [← huse, ← hset]
      rfl

/-- So is a stack, whose field stays null without one. -/
theorem hvmInitializeStack_owns {ledger : Ledger} {entry : HvmVcpu} (s : DsHvm) (cpuIdx : Nat)
    (ok : Bool) (hnull : entry.stack = none) (h : ledger.Owns (vcpuBlocks entry + owned))
    (hv : vcpus ∈ owned) :
    ∃ (ledger' : Ledger) (entry' : HvmVcpu), ledger'.Owns (vcpuBlocks entry' + owned) ∧
      hvmInitializeStack ok vcpus cpuIdx (s.withVcpu ledger vcpus cpuIdx entry)
        = (allocStatus ok, s.withVcpu ledger' vcpus cpuIdx entry') := by
  have hmem : vcpus ∈ vcpuBlocks entry + owned := Multiset.mem_add.mpr (Or.inr hv)
  cases ok with
  | false => exact ⟨ledger, entry, h, rfl⟩
  | true =>
    have hnew := h.alloc
    have hblocks : vcpuBlocks { entry with stack := some ledger.next }
        = {ledger.next} + vcpuBlocks entry := by
      unfold vcpuBlocks
      rw [hnull, Ledger.pointee_none, Ledger.pointee_some, zero_add]
    refine ⟨_, { entry with stack := some ledger.next }, hnew.of_eq ?_, ?_⟩
    · rw [hblocks, add_assoc]
    · have huse := DsHvm.use_owned
        (s := s.withVcpu { ledger with next := ledger.next + 1 } vcpus cpuIdx entry)
        (b := ledger.next) hnew (by simp)
      have hset := DsHvm.setVcpu_owned
        (s := s.withVcpu { ledger with next := ledger.next + 1 } vcpus cpuIdx entry)
        cpuIdx (fun vcpu => { vcpu with stack := some ledger.next }) hnew
        (Multiset.mem_add.mpr (Or.inr hmem))
      rw [DsHvm.withVcpu_vcpu, DsHvm.withVcpu_ledger, DsHvm.withVcpu_withVcpu] at hset
      rw [← hset, ← huse]
      rfl

/-- The allocations for a processor succeed. -/
def LoadOutcome.allocatesVcpu (o : LoadOutcome) (cpuIdx : Nat) : Bool :=
  o.memAlloc (.vmxOn cpuIdx) && (o.memAlloc (.vmcs cpuIdx) && o.memAlloc (.stack cpuIdx))

/-- A VCPU that nothing hangs off. -/
def HvmVcpu.Bare (vcpu : HvmVcpu) : Prop :=
  vcpu.vmxOnHva = none ∧ vcpu.vmcsHva = none ∧ vcpu.stack = none

theorem HvmVcpu.Bare.blocks {vcpu : HvmVcpu} (h : vcpu.Bare) : vcpuBlocks vcpu = 0 := by
  unfold vcpuBlocks
  rw [h.1, h.2.1, h.2.2]
  rfl

/-- **One processor's share**, wherever its construction ends. -/
theorem hvmInitializeVcpu_owns (o : LoadOutcome) (s : DsHvm) (cpuIdx : Nat)
    (hbare : (s.memory.vcpu vcpus cpuIdx).Bare)
    (h : s.ledger.Owns owned) (hv : vcpus ∈ owned) (hh : hvm ∈ owned) :
    ∃ (ledger : Ledger) (entry : HvmVcpu) (status : NtStatus),
      ledger.Owns (vcpuBlocks entry + owned) ∧ ntSuccess status = o.allocatesVcpu cpuIdx ∧
      hvmInitializeVcpu o hvm vcpus cpuIdx s = (status, s.withVcpu ledger vcpus cpuIdx entry) := by
  have hfirst : (s.use hvm).setVcpu vcpus cpuIdx
      (fun vcpu => { vcpu with hvm := some hvm, index := cpuIdx, launched := false })
      = s.withVcpu s.ledger vcpus cpuIdx { s.memory.vcpu vcpus cpuIdx with
          hvm := some hvm, index := cpuIdx, launched := false } := by
    rw [DsHvm.use_owned h hh, DsHvm.setVcpu_owned cpuIdx _ h hv]
  have hbare₀ : HvmVcpu.Bare { s.memory.vcpu vcpus cpuIdx with
      hvm := some hvm, index := cpuIdx, launched := false } := hbare
  generalize { s.memory.vcpu vcpus cpuIdx with
    hvm := some hvm, index := cpuIdx, launched := false } = entry at hfirst hbare₀
  have h₀ : s.ledger.Owns (vcpuBlocks entry + owned) := h.of_eq (by rw [hbare₀.blocks, zero_add])
  obtain ⟨hvmxOn, hvmcs, hstack⟩ := hbare₀
  unfold hvmInitializeVcpu
  simp only [hfirst]
  obtain ⟨ledger₁, vmxOn, h₁, hrun₁⟩ := hvmInitializeRegion_owns s cpuIdx
    (o.memAlloc (.vmxOn cpuIdx)) (vcpuBlocks_storeVmxOn entry hvmxOn) h₀ hv
  unfold hvmInitializeVmxOn
  rw [hrun₁]
  unfold andThen LoadOutcome.allocatesVcpu
  simp only [ntSuccess_allocStatus]
  cases hok₁ : o.memAlloc (.vmxOn cpuIdx) with
  | false => exact ⟨ledger₁, storeVmxOn vmxOn entry, _, h₁, by simp, rfl⟩
  | true =>
    obtain ⟨ledger₂, vmcs, h₂, hrun₂⟩ := hvmInitializeRegion_owns s cpuIdx
      (o.memAlloc (.vmcs cpuIdx)) (vcpuBlocks_storeVmcs (storeVmxOn vmxOn entry) hvmcs) h₁ hv
    unfold hvmInitializeVmcs
    simp only [if_true, hrun₂, ntSuccess_allocStatus]
    cases hok₂ : o.memAlloc (.vmcs cpuIdx) with
    | false => exact ⟨ledger₂, storeVmcs vmcs (storeVmxOn vmxOn entry), _, h₂, by simp, rfl⟩
    | true =>
      obtain ⟨ledger₃, entry', h₃, hrun₃⟩ := hvmInitializeStack_owns s cpuIdx
        (o.memAlloc (.stack cpuIdx)) (show (storeVmcs vmcs (storeVmxOn vmxOn entry)).stack = none
          from hstack) h₂ hv
      refine ⟨ledger₃, entry', allocStatus (o.memAlloc (.stack cpuIdx)), h₃, ?_, ?_⟩
      · simp
      · simp only [if_true, hrun₃]

/-- One entry of the array is written, to which nothing hung before. -/
theorem vcpusBlocks_update {cpus : List Nat} {entries : Nat → HvmVcpu} (hcpus : cpus.Nodup)
    (hmem : cpuIdx ∈ cpus) (hbare : (entries cpuIdx).Bare) (entry : HvmVcpu) :
    vcpusBlocks cpus (Function.update entries cpuIdx entry)
      = vcpuBlocks entry + vcpusBlocks cpus entries := by
  have hsum := sum_map_update vcpuBlocks entries cpuIdx entry hcpus hmem
  rw [hbare.blocks, add_zero] at hsum
  unfold vcpusBlocks
  rw [hsum, add_comm]

/-- **The processors of a list**, wherever the construction ends. -/
theorem hvmInitializeVcpus_owns (o : LoadOutcome) (s : DsHvm) {cpus : List Nat}
    (hcpus : cpus.Nodup) (hv : vcpus ∈ owned) (hh : hvm ∈ owned) (rest : List Nat)
    (hrest : rest.Nodup) (hsub : ∀ p ∈ rest, p ∈ cpus) {ledger : Ledger}
    {entries : Nat → HvmVcpu} (hbare : ∀ p ∈ rest, (entries p).Bare)
    (h : ledger.Owns (vcpusBlocks cpus entries + owned)) :
    ∃ (ledger' : Ledger) (entries' : Nat → HvmVcpu) (status : NtStatus),
      ledger'.Owns (vcpusBlocks cpus entries' + owned) ∧
      ntSuccess status = rest.all o.allocatesVcpu ∧
      hvmInitializeVcpus o hvm vcpus rest (s.withVcpus ledger vcpus entries)
        = (status, s.withVcpus ledger' vcpus entries') := by
  induction rest generalizing ledger entries with
  | nil => exact ⟨ledger, entries, statusSuccess, h, rfl, rfl⟩
  | cons cpuIdx rest ih =>
    obtain ⟨hnotin, hrest'⟩ := List.nodup_cons.mp hrest
    have hbare' : (entries cpuIdx).Bare := hbare cpuIdx List.mem_cons_self
    obtain ⟨ledger₁, entry, status, h₁, hstatus, hrun⟩ :=
      hvmInitializeVcpu_owns o (s.withVcpus ledger vcpus entries) cpuIdx
        (by rw [DsHvm.withVcpus_vcpu]; exact hbare') h
        (Multiset.mem_add.mpr (Or.inr hv)) (Multiset.mem_add.mpr (Or.inr hh))
    have hnext : (s.withVcpus ledger vcpus entries).withVcpu ledger₁ vcpus cpuIdx entry
        = s.withVcpus ledger₁ vcpus (Function.update entries cpuIdx entry) := by
      unfold DsHvm.withVcpu
      rw [DsHvm.withVcpus_vcpu, DsHvm.withVcpus_withVcpus]
    rw [hnext] at hrun
    have hblocks := vcpusBlocks_update hcpus (hsub cpuIdx List.mem_cons_self) hbare' entry
    have hnew : ledger₁.Owns
        (vcpusBlocks cpus (Function.update entries cpuIdx entry) + owned) :=
      h₁.of_eq (by rw [hblocks, add_assoc])
    unfold hvmInitializeVcpus
    rw [hrun, List.all_cons]
    unfold andThen
    cases hok : o.allocatesVcpu cpuIdx with
    | false =>
      rw [hok] at hstatus
      refine ⟨ledger₁, _, status, hnew, by rw [hstatus]; rfl, ?_⟩
      rw [if_neg (by rw [hstatus]; decide)]
    | true =>
      rw [hok] at hstatus
      rw [if_pos hstatus, Bool.true_and]
      -- the entries still to be built are the ones that were there
      refine ih hrest' (fun p hp => hsub p (List.mem_cons_of_mem cpuIdx hp)) ?_ hnew
      intro p hp
      have hne : p ≠ cpuIdx := fun heq => hnotin (by rwa [← heq])
      rw [Function.update_of_ne hne]
      exact hbare p (List.mem_cons_of_mem cpuIdx hp)

/-- The state with other books and other contents of the `HVM`s and VCPUs. -/
def DsHvm.withHvms (s : DsHvm) (ledger : Ledger) (hvms : Nat → Hvm)
    (vcpu : Nat → Nat → HvmVcpu) : DsHvm :=
  { s with ledger := ledger, memory := { s.memory with hvm := hvms, vcpu := vcpu } }

@[simp] theorem DsHvm.withHvms_hvm {ledger : Ledger} {hvms : Nat → Hvm}
    {vcpu : Nat → Nat → HvmVcpu} : (s.withHvms ledger hvms vcpu).memory.hvm = hvms := rfl

/-- The allocations of `HvmInitializePerCpu` succeed. -/
def LoadOutcome.allocatesPerCpu (o : LoadOutcome) (cpuCount : Nat) : Bool :=
  o.memAlloc .vcpuArray && (List.range cpuCount).all o.allocatesVcpu

theorem vcpusBlocks_zero (cpus : List Nat) : vcpusBlocks cpus (fun _ => .zero) = 0 := by
  have hbare : HvmVcpu.zero.Bare := ⟨rfl, rfl, rfl⟩
  induction cpus with
  | nil => rfl
  | cons cpuIdx cpus ih =>
    unfold vcpusBlocks at ih ⊢
    rw [List.map_cons, List.sum_cons, ih, hbare.blocks]
    rfl

theorem DsHvm.setHvm_owned (write : Hvm → Hvm) (h : s.ledger.Owns owned) (hh : hvm ∈ owned) :
    s.setHvm hvm write
      = s.withHvms s.ledger (Function.update s.memory.hvm hvm (write (s.memory.hvm hvm)))
        s.memory.vcpu := by
  unfold DsHvm.setHvm
  rw [DsHvm.use_owned h hh]
  rfl

/-- Once there is an array, its entries are all built or none of its blocks is
left. -/
theorem hvmInitializeVcpuArray_owns (o : LoadOutcome) (s : DsHvm) (cpuCount : Nat)
    (hvcpus : (s.memory.hvm hvm).vcpuArray = some vcpus)
    (h : s.ledger.Owns ({vcpus} + ({hvm} + owned))) :
    ∃ (ledger : Ledger) (vcpu : Nat → Nat → HvmVcpu) (status : NtStatus),
      hvmInitializeVcpuArray cpuCount o hvm vcpus s
        = (status, s.withHvms ledger s.memory.hvm vcpu) ∧
      ntSuccess status = (List.range cpuCount).all o.allocatesVcpu ∧
      ledger.Owns ((if ntSuccess status then
        hvmBlocks cpuCount (s.withHvms ledger s.memory.hvm vcpu).memory hvm
        else {hvm}) + owned) := by
  have hzero : s.setVcpus vcpus (fun _ => .zero)
      = s.withVcpus s.ledger vcpus (fun _ => .zero) := by
    unfold DsHvm.setVcpus
    rw [DsHvm.use_owned h (by simp)]
    rfl
  have hv : vcpus ∈ ({vcpus} : Multiset Nat) + ({hvm} + owned) := by simp
  have hh : hvm ∈ ({vcpus} : Multiset Nat) + ({hvm} + owned) := by simp
  have hstart : s.ledger.Owns (vcpusBlocks (List.range cpuCount) (fun _ => .zero)
      + ({vcpus} + ({hvm} + owned))) := by
    rw [vcpusBlocks_zero, zero_add]
    exact h
  obtain ⟨ledger, entries, status, hledger, hstatus, hrun⟩ :=
    hvmInitializeVcpus_owns o s List.nodup_range hv hh (List.range cpuCount) List.nodup_range
      (fun _ hp => hp) (fun _ _ => ⟨rfl, rfl, rfl⟩) hstart
  have hstate : s.withVcpus ledger vcpus entries
      = s.withHvms ledger s.memory.hvm (Function.update s.memory.vcpu vcpus entries) := rfl
  have hbuilt : ledger.Owns
      (hvmBlocks cpuCount (s.withVcpus ledger vcpus entries).memory hvm + owned) := by
    refine hledger.of_eq ?_
    have hsame : (s.withVcpus ledger vcpus entries).memory.hvm hvm = s.memory.hvm hvm := rfl
    unfold hvmBlocks vcpuArrayBlocks
    rw [hsame, hvcpus]
    simp only [DsHvm.withVcpus_vcpu, add_assoc]
  unfold hvmInitializeVcpuArray
  rw [hzero, hrun]
  cases hok : ntSuccess status with
  | true =>
    refine ⟨ledger, Function.update s.memory.vcpu vcpus entries, status, ?_, hok ▸ hstatus, ?_⟩
    · rw [← hstate]
      simp only [hok, if_true]
    · rw [hok, if_pos rfl, ← hstate]
      exact hbuilt
  | false =>
    obtain ⟨ledger', hledger', hdelete⟩ :=
      hvmDeletePerCpu_owns (s := s.withVcpus ledger vcpus entries) hbuilt
    refine ⟨ledger', Function.update s.memory.vcpu vcpus entries, status, ?_, hok ▸ hstatus, ?_⟩
    · simp only [hok, if_false, Bool.false_eq_true, hdelete]
      rfl
    · rw [hok, if_neg (by decide)]
      exact hledger'

/-- **The VCPUs of an HVM** are all built, or none of their blocks is left. -/
theorem hvmInitializePerCpu_owns (o : LoadOutcome) (s : DsHvm) (cpuCount : Nat)
    (h : s.ledger.Owns ({hvm} + owned)) :
    ∃ (ledger : Ledger) (hvms : Nat → Hvm) (vcpu : Nat → Nat → HvmVcpu) (status : NtStatus),
      hvmInitializePerCpu cpuCount o hvm s = (status, s.withHvms ledger hvms vcpu) ∧
      ntSuccess status = o.allocatesPerCpu cpuCount ∧
      (hvms hvm).launched = (s.memory.hvm hvm).launched ∧
      ledger.Owns ((if ntSuccess status then
        hvmBlocks cpuCount (s.withHvms ledger hvms vcpu).memory hvm else {hvm}) + owned) := by
  have hmem : hvm ∈ ({hvm} : Multiset Nat) + owned := by simp
  unfold hvmInitializePerCpu LoadOutcome.allocatesPerCpu
  cases o.memAlloc .vcpuArray with
  | false =>
    have hset := DsHvm.setHvm_owned (fun hvm => { hvm with vcpuArray := none }) h hmem
    refine ⟨_, _, _, statusNoMemory, congrArg (Prod.mk statusNoMemory) hset, rfl, ?_, ?_⟩
    · rw [Function.update_self]
    · rw [if_neg (by decide)]
      exact h
  | true =>
    have hnew := DsHvm.allocated_owns h
    have hset := DsHvm.setHvm_owned (fun hvm => { hvm with vcpuArray := some s.ledger.next }) hnew
      (Multiset.mem_add.mpr (Or.inr hmem))
    rw [DsHvm.memAlloc_true]
    simp only [hset]
    obtain ⟨ledger, vcpu, status, hrun, hstatus, hledger⟩ :=
      hvmInitializeVcpuArray_owns o
        (s.allocated.withHvms s.allocated.ledger
          (Function.update s.allocated.memory.hvm hvm
            { s.allocated.memory.hvm hvm with vcpuArray := some s.ledger.next })
          s.allocated.memory.vcpu) cpuCount
        (by rw [DsHvm.withHvms_hvm, Function.update_self]) hnew
    refine ⟨ledger, _, vcpu, status, hrun, by rw [hstatus, Bool.true_and], ?_, hledger⟩
    rw [DsHvm.withHvms_hvm, Function.update_self]
    rfl

/-- The allocations of `HvmInitialize` succeed, and VMX is there. -/
def LoadOutcome.allocatesHvm (o : LoadOutcome) (cpuCount : Nat) : Bool :=
  o.vmxVerifySupport && (o.memAlloc .hvm && o.allocatesPerCpu cpuCount)

/-- **Building an HVM**: it is all there or none of its blocks is left. -/
theorem hvmInitialize_owns (o : LoadOutcome) (s : DsHvm) (cpuCount : Nat)
    (h : s.ledger.Owns owned) :
    ∃ (ledger : Ledger) (hvms : Nat → Hvm) (vcpu : Nat → Nat → HvmVcpu) (status : NtStatus)
      (hvm : Option Nat),
      hvmInitialize cpuCount o s = (status, hvm, s.withHvms ledger hvms vcpu) ∧
      ntSuccess status = o.allocatesHvm cpuCount ∧
      match hvm with
      | none => ntSuccess status = false ∧ ledger.Owns owned
      | some hvm => ntSuccess status = true ∧ (hvms hvm).launched = false ∧
        ledger.Owns (hvmBlocks cpuCount (s.withHvms ledger hvms vcpu).memory hvm + owned) := by
  unfold hvmInitialize LoadOutcome.allocatesHvm
  cases o.vmxVerifySupport with
  | false => exact ⟨s.ledger, _, _, statusNotSupported, none, rfl, rfl, rfl, h⟩
  | true =>
    cases o.memAlloc .hvm with
    | false => exact ⟨s.ledger, _, _, statusNoMemory, none, rfl, rfl, rfl, h⟩
    | true =>
      have hnew := DsHvm.allocated_owns h
      have hset := DsHvm.setHvm_owned (fun _ => .zero) hnew
        (Multiset.mem_add.mpr (Or.inl (Multiset.mem_singleton_self s.ledger.next)))
      rw [DsHvm.memAlloc_true, if_neg (by decide)]
      simp only [hset, Bool.true_and]
      obtain ⟨ledger, hvms, vcpu, status, hrun, hstatus, hlaunched, hledger⟩ :=
        hvmInitializePerCpu_owns o
          (s.allocated.withHvms s.allocated.ledger
            (Function.update s.allocated.memory.hvm s.ledger.next .zero)
            s.allocated.memory.vcpu) cpuCount hnew
      rw [hrun]
      rw [DsHvm.withHvms_hvm, Function.update_self] at hlaunched
      cases hok : ntSuccess status with
      | true =>
        rw [hok, if_pos rfl] at hledger
        have huse := DsHvm.use_owned (b := s.ledger.next) (s := s.withHvms ledger hvms vcpu) hledger
          (Multiset.mem_add.mpr (Or.inl (mem_hvmBlocks_self cpuCount _ s.ledger.next)))
        refine ⟨ledger, hvms, vcpu, status, some s.ledger.next, ?_, hok ▸ hstatus, hok, hlaunched,
          hledger⟩
        rw [← huse]
        simp only [if_true]
        rfl
      | false =>
        rw [hok, if_neg (by decide)] at hledger
        refine ⟨ledger.free s.ledger.next, hvms, vcpu, status, none, ?_, hok ▸ hstatus, hok,
          hledger.free⟩
        simp only [if_false, Bool.false_eq_true]
        rfl

end DeepShield.Load
