import DeepShield.Load.Create
import DeepShield.Os.Smp

/-!
# The contexts of a load

`context.c` and the part of `dshvm.c` that builds and deletes the contexts: the
`HVM_CONTEXT` with its MSR bitmap, and an array of `VCPU_CONTEXT`s, each with its
table of time-stamp hits that the processor itself allocates.

The array is not zeroed when it is allocated, so until every processor has been
over its entry the pointers in it are whatever memory held. No cleanup happens in
between: `SmpRunPerProcessor` runs every processor's routine even if one of them
failed, and each of them begins by zeroing its entry. From then on the contexts
are described by what hangs off the two globals (`contextBlocks`), as the `HVM`
is, and `dsDeleteHvmContexts_owns` frees that, whatever part of it was built.
-/

namespace DeepShield.Load

open DeepShield.Os DeepShield.Lib

/-- An `HVM_CONTEXT` that `RtlZeroMemory` went over. -/
def HvmContext.zero : HvmContext := { msrBitmap := none }

/-- A `VCPU_CONTEXT` that `RtlZeroMemory` went over. -/
def VcpuContext.zero : VcpuContext := { tscHits := none }

namespace DsHvm

/-- The `HVM_CONTEXT` in `hvmContext` is written. -/
def setHvmContext (hvmContext : Nat) (entry : HvmContext) (s : DsHvm) : DsHvm :=
  { s.use hvmContext with
    memory := { s.memory with
      hvmContext := Function.update s.memory.hvmContext hvmContext entry } }

/-- One of the `VCPU_CONTEXT`s in `contexts` is written. -/
def setVcpuContext (contexts vcpuId : Nat) (entry : VcpuContext) (s : DsHvm) : DsHvm :=
  { s.use contexts with
    memory := { s.memory with
      vcpuContext := Function.update s.memory.vcpuContext contexts
        (Function.update (s.memory.vcpuContext contexts) vcpuId entry) } }

end DsHvm

/-! ## The functions -/

/-- `InitializeHvmContext`. -/
def initializeHvmContext (ok : Bool) (hvmContext : Nat) (s : DsHvm) : Bool × DsHvm :=
  let (msrBitmap, s) := (s.setHvmContext hvmContext .zero).memAlloc ok
  let s := s.setHvmContext hvmContext { msrBitmap := msrBitmap }
  match msrBitmap with
  | none => (false, s)
  | some msrBitmap => (true, s.use msrBitmap)

/-- `ResetHvmContext`. -/
def resetHvmContext (hvmContext : Nat) (s : DsHvm) : DsHvm :=
  ((s.use hvmContext).memFreePointee (s.memory.hvmContext hvmContext).msrBitmap).setHvmContext
    hvmContext .zero

/-- `InitializeVcpuContext` on an entry of `contexts`. -/
def initializeVcpuContext (ok : Bool) (contexts vcpuId : Nat) (s : DsHvm) : Bool × DsHvm :=
  let (tscHits, s) := (s.setVcpuContext contexts vcpuId .zero).memAlloc ok
  let s := s.setVcpuContext contexts vcpuId { tscHits := tscHits }
  match tscHits with
  | none => (false, s)
  | some tscHits => (true, s.use tscHits)

/-- `ResetVcpuContext` on an entry of `contexts`. -/
def resetVcpuContext (contexts vcpuId : Nat) (s : DsHvm) : DsHvm :=
  ((s.use contexts).memFreePointee (s.memory.vcpuContext contexts vcpuId).tscHits).setVcpuContext
    contexts vcpuId .zero

/-- `InitVcpuContextPerCpu`, with `gVcpuContexts` in `contexts`. -/
def initVcpuContextPerCpu (o : LoadOutcome) (contexts : Nat) : ProcessorCallback DsHvm :=
  fun vcpuId s =>
    let (ok, s) := initializeVcpuContext (o.memAlloc (.tscHits vcpuId)) contexts vcpuId s
    (if ok then statusSuccess else statusUnsuccessful, s)

/-- `ResetVcpuContextPerCpu`, with `gVcpuContexts` in `contexts`. -/
def resetVcpuContextPerCpu (contexts : Nat) : ProcessorCallback DsHvm :=
  fun vcpuId s => (statusSuccess, resetVcpuContext contexts vcpuId s)

/-- The first half of `DsDeleteHvmContexts`. -/
def dsDeleteVcpuContexts (smp : Smp) (s : DsHvm) : DsHvm :=
  match s.gVcpuContexts with
  | none => s
  | some contexts =>
    let s := (smpRunPerProcessor smp (resetVcpuContextPerCpu contexts) s).2
    { s.memFree contexts with gVcpuContexts := none }

/-- The second half of `DsDeleteHvmContexts`. -/
def dsDeleteHvmContext (s : DsHvm) : DsHvm :=
  match s.gHvmContext with
  | none => s
  | some hvmContext =>
    { (resetHvmContext hvmContext s).memFree hvmContext with gHvmContext := none }

/-- `DsDeleteHvmContexts`. -/
def dsDeleteHvmContexts (smp : Smp) (s : DsHvm) : DsHvm :=
  dsDeleteHvmContext (dsDeleteVcpuContexts smp s)

/-- `HvmSetHvmContext`. -/
def hvmSetHvmContext (hvm hvmContext : Nat) (s : DsHvm) : DsHvm :=
  s.setHvm hvm fun hvm => { hvm with hvmContext := some hvmContext }

/-- `HvmSetVcpuContext`, with the entry `vcpuId` of `contexts` for the context. -/
def hvmSetVcpuContext (hvm contexts vcpuId : Nat) (s : DsHvm) : DsHvm :=
  match (s.memory.hvm hvm).vcpuArray with
  | none => s
  | some vcpus =>
    (s.use hvm).setVcpu vcpus vcpuId fun vcpu => { vcpu with context := some (contexts, vcpuId) }

/-- `DsInitializeHvmContexts` up to `RoutineExit`, from where it has an array of
contexts. -/
def dsInitializeVcpuContexts (smp : Smp) (o : LoadOutcome) (hvm contexts : Nat) (s : DsHvm) :
    NtStatus × DsHvm :=
  let (status, s) := smpRunPerProcessor smp (initVcpuContextPerCpu o contexts) s
  if ntSuccess status = false then (statusUnsuccessful, s)
  else
    (statusSuccess,
      (List.range smp.count).foldl (fun s i => hvmSetVcpuContext hvm contexts i s) s)

/-- `DsInitializeHvmContexts` up to `RoutineExit`, from the allocation of that
array. -/
def dsAllocateVcpuContexts (smp : Smp) (o : LoadOutcome) (hvm : Nat) (s : DsHvm) :
    NtStatus × DsHvm :=
  match s.memAlloc (o.memAlloc .vcpuContexts) with
  | (none, s) => (statusUnsuccessful, { s with gVcpuContexts := none })
  | (some contexts, s) =>
    dsInitializeVcpuContexts smp o hvm contexts { s with gVcpuContexts := some contexts }

/-- `DsInitializeHvmContexts` up to `RoutineExit`, from where it has an
`HVM_CONTEXT`. -/
def dsInitializeHvmContext (smp : Smp) (o : LoadOutcome) (hvm hvmContext : Nat) (s : DsHvm) :
    NtStatus × DsHvm :=
  let (ok, s) := initializeHvmContext (o.memAlloc .msrBitmap) hvmContext s
  if ok = false then (statusUnsuccessful, s)
  else dsAllocateVcpuContexts smp o hvm (hvmSetHvmContext hvm hvmContext s)

/-- `DsInitializeHvmContexts` up to `RoutineExit`. -/
def dsAllocateHvmContexts (smp : Smp) (o : LoadOutcome) (hvm : Nat) (s : DsHvm) :
    NtStatus × DsHvm :=
  match s.memAlloc (o.memAlloc .hvmContext) with
  | (none, s) => (statusUnsuccessful, { s with gHvmContext := none })
  | (some hvmContext, s) =>
    dsInitializeHvmContext smp o hvm hvmContext { s with gHvmContext := some hvmContext }

/-- `DsInitializeHvmContexts`. -/
def dsInitializeHvmContexts (smp : Smp) (o : LoadOutcome) (hvm : Nat) (s : DsHvm) :
    NtStatus × DsHvm :=
  let (status, s) := dsAllocateHvmContexts smp o hvm s
  if ntSuccess status then (status, s) else (status, dsDeleteHvmContexts smp s)

/-! ## What hangs off the contexts -/

/-- The tables of the processors of a list. -/
def tscHitsBlocks (cpus : List Nat) (entries : Nat → VcpuContext) : Multiset Nat :=
  (cpus.map fun vcpuId => Ledger.pointee (entries vcpuId).tscHits).sum

/-- The array of contexts with what hangs off it. -/
def vcpuContextsBlocks (cpuCount : Nat) (memory : Memory) : Option Nat → Multiset Nat
  | none => 0
  | some contexts =>
    tscHitsBlocks (List.range cpuCount) (memory.vcpuContext contexts) + {contexts}

/-- The `HVM_CONTEXT` with what hangs off it. -/
def hvmContextBlocks (memory : Memory) : Option Nat → Multiset Nat
  | none => 0
  | some hvmContext =>
    Ledger.pointee (memory.hvmContext hvmContext).msrBitmap + {hvmContext}

/-- What hangs off the two globals. -/
def contextBlocks (cpuCount : Nat) (s : DsHvm) : Multiset Nat :=
  vcpuContextsBlocks cpuCount s.memory s.gVcpuContexts
    + hvmContextBlocks s.memory s.gHvmContext

variable {s : DsHvm} {owned : Multiset Nat} {contexts hvmContext vcpuId hvm : Nat}

/-- The state with other books and another `HVM_CONTEXT` in `hvmContext`. -/
def DsHvm.withHvmContext (s : DsHvm) (ledger : Ledger) (hvmContext : Nat) (entry : HvmContext) :
    DsHvm :=
  { s with
    ledger := ledger
    memory := { s.memory with
      hvmContext := Function.update s.memory.hvmContext hvmContext entry } }

/-- The state with other books and other entries in the array `contexts`. -/
def DsHvm.withVcpuContexts (s : DsHvm) (ledger : Ledger) (contexts : Nat)
    (entries : Nat → VcpuContext) : DsHvm :=
  { s with
    ledger := ledger
    memory := { s.memory with
      vcpuContext := Function.update s.memory.vcpuContext contexts entries } }

@[simp] theorem DsHvm.withVcpuContexts_vcpuContext {ledger : Ledger}
    {entries : Nat → VcpuContext} :
    (s.withVcpuContexts ledger contexts entries).memory.vcpuContext contexts = entries := by
  unfold DsHvm.withVcpuContexts
  exact Function.update_self _ _ _

@[simp] theorem DsHvm.withVcpuContexts_withVcpuContexts {ledger ledger' : Ledger}
    {entries entries' : Nat → VcpuContext} :
    (s.withVcpuContexts ledger contexts entries).withVcpuContexts ledger' contexts entries'
      = s.withVcpuContexts ledger' contexts entries' := by
  unfold DsHvm.withVcpuContexts
  simp only [Function.update_idem]

theorem DsHvm.setHvmContext_owned (entry : HvmContext) (h : s.ledger.Owns owned)
    (hc : hvmContext ∈ owned) :
    s.setHvmContext hvmContext entry = s.withHvmContext s.ledger hvmContext entry := by
  unfold DsHvm.setHvmContext
  rw [DsHvm.use_owned h hc]
  rfl

theorem DsHvm.setVcpuContext_owned (vcpuId : Nat) (entry : VcpuContext)
    (h : s.ledger.Owns owned) (hc : contexts ∈ owned) :
    s.setVcpuContext contexts vcpuId entry
      = s.withVcpuContexts s.ledger contexts
        (Function.update (s.memory.vcpuContext contexts) vcpuId entry) := by
  unfold DsHvm.setVcpuContext
  rw [DsHvm.use_owned h hc]
  rfl

/-! ## Deleting -/

/-- An entry is reset: its table is freed, if there is one. -/
theorem resetVcpuContext_owns (vcpuId : Nat)
    (h : s.ledger.Owns (Ledger.pointee (s.memory.vcpuContext contexts vcpuId).tscHits + owned))
    (hc : contexts ∈ owned) :
    ∃ ledger : Ledger, ledger.Owns owned ∧
      resetVcpuContext contexts vcpuId s = s.withVcpuContexts ledger contexts
        (Function.update (s.memory.vcpuContext contexts) vcpuId .zero) := by
  have hfreed := h.freePointee
  refine ⟨_, hfreed, ?_⟩
  have hset := DsHvm.setVcpuContext_owned
    (s := s.memFreePointee (s.memory.vcpuContext contexts vcpuId).tscHits) vcpuId .zero hfreed hc
  unfold resetVcpuContext
  rw [DsHvm.use_owned h (Multiset.mem_add.mpr (Or.inr hc)), hset]
  rfl

/-- So are the entries of the processors of a list. -/
theorem foldl_resetVcpuContext_owns (cpus : List Nat) (hcpus : cpus.Nodup)
    (h : s.ledger.Owns (tscHitsBlocks cpus (s.memory.vcpuContext contexts) + owned))
    (hc : contexts ∈ owned) :
    ∃ (ledger : Ledger) (entries : Nat → VcpuContext), ledger.Owns owned ∧
      cpus.foldl (fun s p => (resetVcpuContextPerCpu contexts p s).2) s
        = s.withVcpuContexts ledger contexts entries := by
  induction cpus generalizing s with
  | nil =>
    refine ⟨s.ledger, s.memory.vcpuContext contexts, h.of_eq (zero_add owned), ?_⟩
    unfold DsHvm.withVcpuContexts
    rw [Function.update_eq_self]
    rfl
  | cons vcpuId cpus ih =>
    obtain ⟨hnotin, hcpus'⟩ := List.nodup_cons.mp hcpus
    have hsplit : tscHitsBlocks (vcpuId :: cpus) (s.memory.vcpuContext contexts) + owned
        = Ledger.pointee (s.memory.vcpuContext contexts vcpuId).tscHits
          + (tscHitsBlocks cpus (s.memory.vcpuContext contexts) + owned) := by
      unfold tscHitsBlocks
      rw [List.map_cons, List.sum_cons, add_assoc]
    obtain ⟨ledger, hledger, hs⟩ :=
      resetVcpuContext_owns vcpuId (h.of_eq hsplit) (Multiset.mem_add.mpr (Or.inr hc))
    -- the entries still to be reset are the ones that were there
    have hothers : tscHitsBlocks cpus (Function.update (s.memory.vcpuContext contexts) vcpuId .zero)
        = tscHitsBlocks cpus (s.memory.vcpuContext contexts) := by
      unfold tscHitsBlocks
      refine congrArg List.sum (List.map_congr_left fun p hp => ?_)
      have hne : p ≠ vcpuId := fun heq => hnotin (by rwa [← heq])
      rw [Function.update_of_ne hne]
    obtain ⟨ledger', entries, hledger', hs'⟩ := ih (s := s.withVcpuContexts ledger contexts
      (Function.update (s.memory.vcpuContext contexts) vcpuId .zero)) hcpus'
      (by rw [DsHvm.withVcpuContexts_vcpuContext, hothers]; exact hledger)
    refine ⟨ledger', entries, hledger', ?_⟩
    rw [DsHvm.withVcpuContexts_withVcpuContexts] at hs'
    rw [List.foldl_cons, ← hs', ← hs]
    rfl

/-- The table of every processor is counted once, in whatever order. -/
theorem tscHitsBlocks_order (smp : Smp) (entries : Nat → VcpuContext) :
    tscHitsBlocks smp.order entries = tscHitsBlocks (List.range smp.count) entries :=
  (smp.order_perm.map _).sum_eq

theorem dsDeleteVcpuContexts_owns (smp : Smp)
    (h : s.ledger.Owns (vcpuContextsBlocks smp.count s.memory s.gVcpuContexts + owned)) :
    ∃ (ledger : Ledger) (vcpuContexts : Nat → Nat → VcpuContext), ledger.Owns owned ∧
      dsDeleteVcpuContexts smp s = { s with
        ledger := ledger
        memory := { s.memory with vcpuContext := vcpuContexts }
        gVcpuContexts := none } := by
  unfold dsDeleteVcpuContexts
  cases hcontexts : s.gVcpuContexts with
  | none =>
    rw [hcontexts] at h
    have hsame : { s with gVcpuContexts := none } = s := by rw [← hcontexts]
    exact ⟨s.ledger, s.memory.vcpuContext, h.of_eq (zero_add owned), hsame.symm⟩
  | some contexts =>
    rw [hcontexts] at h
    have hloop : s.ledger.Owns (tscHitsBlocks smp.order (s.memory.vcpuContext contexts)
        + ({contexts} + owned)) := by
      rw [tscHitsBlocks_order, ← add_assoc]
      exact h
    obtain ⟨ledger, entries, hledger, hs⟩ :=
      foldl_resetVcpuContext_owns smp.order smp.order_nodup hloop (by simp)
    refine ⟨ledger.free contexts, Function.update s.memory.vcpuContext contexts entries,
      hledger.free, ?_⟩
    simp only [smpRunPerProcessor_snd, hs]
    rfl

theorem dsDeleteHvmContext_owns
    (h : s.ledger.Owns (hvmContextBlocks s.memory s.gHvmContext + owned)) :
    ∃ (ledger : Ledger) (hvmContexts : Nat → HvmContext), ledger.Owns owned ∧
      dsDeleteHvmContext s = { s with
        ledger := ledger
        memory := { s.memory with hvmContext := hvmContexts }
        gHvmContext := none } := by
  unfold dsDeleteHvmContext
  cases hcontext : s.gHvmContext with
  | none =>
    rw [hcontext] at h
    have hsame : { s with gHvmContext := none } = s := by rw [← hcontext]
    exact ⟨s.ledger, s.memory.hvmContext, h.of_eq (zero_add owned), hsame.symm⟩
  | some hvmContext =>
    rw [hcontext] at h
    have howned := h.of_eq (add_assoc _ {hvmContext} owned)
    have hfreed := howned.freePointee
    have hset := DsHvm.setHvmContext_owned
      (s := s.memFreePointee (s.memory.hvmContext hvmContext).msrBitmap) .zero hfreed
      (by simp : hvmContext ∈ ({hvmContext} : Multiset Nat) + owned)
    refine ⟨_, Function.update s.memory.hvmContext hvmContext .zero, hfreed.free, ?_⟩
    unfold resetHvmContext
    simp only [DsHvm.use_owned howned
      (by simp : hvmContext ∈ Ledger.pointee (s.memory.hvmContext hvmContext).msrBitmap
        + ({hvmContext} + owned)), hset]
    rfl

/-- The state without contexts. -/
def DsHvm.withoutContexts (s : DsHvm) (ledger : Ledger) (hvmContexts : Nat → HvmContext)
    (vcpuContexts : Nat → Nat → VcpuContext) : DsHvm :=
  { s with
    ledger := ledger
    memory := { s.memory with hvmContext := hvmContexts, vcpuContext := vcpuContexts }
    gHvmContext := none
    gVcpuContexts := none }

/-- **Deleting the contexts** frees what hangs off the globals, whatever part of
it was built. -/
theorem dsDeleteHvmContexts_owns (smp : Smp)
    (h : s.ledger.Owns (contextBlocks smp.count s + owned)) :
    ∃ (ledger : Ledger) (hvmContexts : Nat → HvmContext)
      (vcpuContexts : Nat → Nat → VcpuContext), ledger.Owns owned ∧
      dsDeleteHvmContexts smp s = s.withoutContexts ledger hvmContexts vcpuContexts := by
  obtain ⟨ledger, vcpuContexts, hledger, hs⟩ :=
    dsDeleteVcpuContexts_owns smp (h.of_eq (add_assoc _ _ owned))
  obtain ⟨ledger', hvmContexts, hledger', hs'⟩ := dsDeleteHvmContext_owns (s := { s with
    ledger := ledger
    memory := { s.memory with vcpuContext := vcpuContexts }
    gVcpuContexts := none }) hledger
  refine ⟨ledger', hvmContexts, vcpuContexts, hledger', ?_⟩
  unfold dsDeleteHvmContexts
  rw [hs, hs']
  rfl

/-! ## Building -/

@[simp] theorem DsHvm.withHvmContext_withHvmContext {ledger ledger' : Ledger}
    {entry entry' : HvmContext} :
    (s.withHvmContext ledger hvmContext entry).withHvmContext ledger' hvmContext entry'
      = s.withHvmContext ledger' hvmContext entry' := by
  unfold DsHvm.withHvmContext
  simp only [Function.update_idem]

/-- An `HVM_CONTEXT` is initialised, with its bitmap if there is one. -/
theorem initializeHvmContext_owns (ok : Bool) (h : s.ledger.Owns owned)
    (hc : hvmContext ∈ owned) :
    ∃ (ledger : Ledger) (entry : HvmContext),
      ledger.Owns (Ledger.pointee entry.msrBitmap + owned) ∧
      initializeHvmContext ok hvmContext s = (ok, s.withHvmContext ledger hvmContext entry) := by
  have hzero := DsHvm.setHvmContext_owned .zero h hc
  unfold initializeHvmContext
  rw [hzero]
  cases ok with
  | false =>
    have hset := DsHvm.setHvmContext_owned (s := s.withHvmContext s.ledger hvmContext .zero)
      { msrBitmap := none } h hc
    rw [DsHvm.withHvmContext_withHvmContext] at hset
    refine ⟨s.ledger, { msrBitmap := none }, h.of_eq (zero_add owned).symm, ?_⟩
    simp only [DsHvm.memAlloc_false, hset]
    rfl
  | true =>
    have hnew := DsHvm.allocated_owns h
    have hset := DsHvm.setHvmContext_owned
      (s := (s.withHvmContext s.ledger hvmContext .zero).allocated)
      { msrBitmap := some s.ledger.next } hnew (Multiset.mem_add.mpr (Or.inr hc))
    have hwritten : (s.withHvmContext s.ledger hvmContext .zero).allocated.withHvmContext
        s.allocated.ledger hvmContext { msrBitmap := some s.ledger.next }
        = s.withHvmContext s.allocated.ledger hvmContext { msrBitmap := some s.ledger.next } := by
      unfold DsHvm.withHvmContext DsHvm.allocated
      simp only [Function.update_idem]
    have huse := DsHvm.use_owned (b := s.ledger.next)
      (s := s.withHvmContext s.allocated.ledger hvmContext { msrBitmap := some s.ledger.next })
      hnew (by simp)
    refine ⟨s.allocated.ledger, { msrBitmap := some s.ledger.next }, hnew, ?_⟩
    exact congrArg (Prod.mk true)
      ((congrArg (DsHvm.use s.ledger.next) (hset.trans hwritten)).trans huse)

/-- An entry is initialised, with its table if there is one. -/
theorem initializeVcpuContext_owns (ok : Bool) (vcpuId : Nat) (h : s.ledger.Owns owned)
    (hc : contexts ∈ owned) :
    ∃ (ledger : Ledger) (entry : VcpuContext),
      ledger.Owns (Ledger.pointee entry.tscHits + owned) ∧
      initializeVcpuContext ok contexts vcpuId s
        = (ok, s.withVcpuContexts ledger contexts
          (Function.update (s.memory.vcpuContext contexts) vcpuId entry)) := by
  have hzero := DsHvm.setVcpuContext_owned vcpuId .zero h hc
  unfold initializeVcpuContext
  rw [hzero]
  cases ok with
  | false =>
    have hset := DsHvm.setVcpuContext_owned (s := s.withVcpuContexts s.ledger contexts
      (Function.update (s.memory.vcpuContext contexts) vcpuId .zero)) vcpuId
      { tscHits := none } h hc
    rw [DsHvm.withVcpuContexts_withVcpuContexts, DsHvm.withVcpuContexts_vcpuContext,
      Function.update_idem] at hset
    refine ⟨s.ledger, { tscHits := none }, h.of_eq (zero_add owned).symm, ?_⟩
    simp only [DsHvm.memAlloc_false, hset]
    rfl
  | true =>
    have hnew := DsHvm.allocated_owns h
    have hset := DsHvm.setVcpuContext_owned
      (s := (s.withVcpuContexts s.ledger contexts
        (Function.update (s.memory.vcpuContext contexts) vcpuId .zero)).allocated) vcpuId
      { tscHits := some s.ledger.next } hnew (Multiset.mem_add.mpr (Or.inr hc))
    rw [DsHvm.allocated_memory, DsHvm.withVcpuContexts_vcpuContext, Function.update_idem] at hset
    have hwritten : (s.withVcpuContexts s.ledger contexts
        (Function.update (s.memory.vcpuContext contexts) vcpuId .zero)).allocated.withVcpuContexts
        s.allocated.ledger contexts (Function.update (s.memory.vcpuContext contexts) vcpuId
          { tscHits := some s.ledger.next })
        = s.withVcpuContexts s.allocated.ledger contexts
          (Function.update (s.memory.vcpuContext contexts) vcpuId
            { tscHits := some s.ledger.next }) := by
      unfold DsHvm.withVcpuContexts DsHvm.allocated
      simp only [Function.update_idem]
    have huse := DsHvm.use_owned (b := s.ledger.next)
      (s := s.withVcpuContexts s.allocated.ledger contexts
        (Function.update (s.memory.vcpuContext contexts) vcpuId
          { tscHits := some s.ledger.next }))
      hnew (by simp)
    refine ⟨s.allocated.ledger, { tscHits := some s.ledger.next }, hnew, ?_⟩
    exact congrArg (Prod.mk true)
      ((congrArg (DsHvm.use s.ledger.next) (hset.trans hwritten)).trans huse)

/-- So are the entries of the processors of a list, which may hold anything
before. -/
theorem foldl_initVcpuContext_owns (o : LoadOutcome) (cpus : List Nat) (hcpus : cpus.Nodup)
    (h : s.ledger.Owns owned) (hc : contexts ∈ owned) :
    ∃ (ledger : Ledger) (entries : Nat → VcpuContext),
      ledger.Owns (tscHitsBlocks cpus entries + owned) ∧
      (∀ p, p ∉ cpus → entries p = s.memory.vcpuContext contexts p) ∧
      cpus.foldl (fun s p => (initVcpuContextPerCpu o contexts p s).2) s
        = s.withVcpuContexts ledger contexts entries := by
  induction cpus generalizing s owned with
  | nil =>
    refine ⟨s.ledger, s.memory.vcpuContext contexts, h.of_eq (zero_add owned).symm,
      fun _ _ => rfl, ?_⟩
    unfold DsHvm.withVcpuContexts
    rw [Function.update_eq_self]
    rfl
  | cons vcpuId cpus ih =>
    obtain ⟨hnotin, hcpus'⟩ := List.nodup_cons.mp hcpus
    obtain ⟨ledger, entry, hledger, hs⟩ :=
      initializeVcpuContext_owns (o.memAlloc (.tscHits vcpuId)) vcpuId h hc
    obtain ⟨ledger', entries, hledger', hentries, hs'⟩ :=
      ih (s := s.withVcpuContexts ledger contexts
        (Function.update (s.memory.vcpuContext contexts) vcpuId entry)) hcpus' hledger
        (Multiset.mem_add.mpr (Or.inr hc))
    rw [DsHvm.withVcpuContexts_vcpuContext] at hentries
    rw [DsHvm.withVcpuContexts_withVcpuContexts] at hs'
    refine ⟨ledger', entries, hledger'.of_eq ?_, ?_, ?_⟩
    · -- nothing writes this entry again
      have hentry := hentries vcpuId hnotin
      rw [Function.update_self] at hentry
      unfold tscHitsBlocks
      rw [List.map_cons, List.sum_cons, hentry]
      abel
    · intro p hp
      have hne : p ≠ vcpuId := fun heq => hp (by rw [heq]; exact List.mem_cons_self)
      rw [hentries p (fun hmem => hp (List.mem_cons_of_mem vcpuId hmem)),
        Function.update_of_ne hne]
    · rw [List.foldl_cons, ← hs']
      unfold initVcpuContextPerCpu
      simp only [hs]

/-! ## The contexts and the HVM -/

/-- Steps that leave the HVM with what hangs off it. -/
structure KeepsHvm (cpuCount hvm : Nat) (s s' : DsHvm) : Prop where
  gHvm : s'.gHvm = s.gHvm
  guest : s'.guest = s.guest
  launched : (s'.memory.hvm hvm).launched = (s.memory.hvm hvm).launched
  blocks : hvmBlocks cpuCount s'.memory hvm = hvmBlocks cpuCount s.memory hvm

theorem KeepsHvm.trans {cpuCount : Nat} {s s' s'' : DsHvm} (h : KeepsHvm cpuCount hvm s s')
    (h' : KeepsHvm cpuCount hvm s' s'') : KeepsHvm cpuCount hvm s s'' where
  gHvm := h'.gHvm.trans h.gHvm
  guest := h'.guest.trans h.guest
  launched := h'.launched.trans h.launched
  blocks := h'.blocks.trans h.blocks

/-- The HVM and its VCPUs point at the contexts of the two globals. -/
structure PointsAtContexts (cpuCount hvm : Nat) (s : DsHvm) : Prop where
  hvmContext : (s.memory.hvm hvm).hvmContext = s.gHvmContext
  context : ∀ vcpus, (s.memory.hvm hvm).vcpuArray = some vcpus → ∀ p < cpuCount,
    (s.memory.vcpu vcpus p).context = s.gVcpuContexts.map fun contexts => (contexts, p)

/-- The entries after `HvmSetVcpuContext` for the processors of a list. -/
def pointAt (contexts : Nat) (cpus : List Nat) (entries : Nat → HvmVcpu) (p : Nat) : HvmVcpu :=
  if p ∈ cpus then { entries p with context := some (contexts, p) } else entries p

theorem vcpuBlocks_pointAt (contexts : Nat) (cpus : List Nat) (entries : Nat → HvmVcpu) (p : Nat) :
    vcpuBlocks (pointAt contexts cpus entries p) = vcpuBlocks (entries p) := by
  unfold pointAt
  split
  next => rfl
  next => rfl

/-- Setting the contexts writes nothing but these pointers. -/
theorem foldl_hvmSetVcpuContext {vcpus : Nat} (cpus : List Nat) (h : s.ledger.Owns owned)
    (hh : hvm ∈ owned) (hv : vcpus ∈ owned) (hvcpus : (s.memory.hvm hvm).vcpuArray = some vcpus) :
    cpus.foldl (fun s i => hvmSetVcpuContext hvm contexts i s) s
      = s.withVcpus s.ledger vcpus (pointAt contexts cpus (s.memory.vcpu vcpus)) := by
  induction cpus generalizing s with
  | nil =>
    unfold DsHvm.withVcpus
    have hsame : pointAt contexts [] (s.memory.vcpu vcpus) = s.memory.vcpu vcpus := by
      funext p
      exact if_neg List.not_mem_nil
    rw [hsame, Function.update_eq_self]
    rfl
  | cons vcpuId cpus ih =>
    have hset : hvmSetVcpuContext hvm contexts vcpuId s
        = s.withVcpu s.ledger vcpus vcpuId
          { s.memory.vcpu vcpus vcpuId with context := some (contexts, vcpuId) } := by
      unfold hvmSetVcpuContext
      simp only [hvcpus]
      rw [DsHvm.use_owned h hh, DsHvm.setVcpu_owned vcpuId _ h hv]
    rw [List.foldl_cons, hset, ih (s := s.withVcpu s.ledger vcpus vcpuId
      { s.memory.vcpu vcpus vcpuId with context := some (contexts, vcpuId) }) h hvcpus]
    unfold DsHvm.withVcpu
    rw [DsHvm.withVcpus_withVcpus, DsHvm.withVcpus_vcpu]
    congr 1
    funext p
    unfold pointAt
    by_cases hp : p = vcpuId
    · rw [hp, Function.update_self, if_pos List.mem_cons_self]
      split
      next => rfl
      next => rfl
    · rw [Function.update_of_ne hp]
      simp only [List.mem_cons, hp, false_or]

/-- **Pointing the VCPUs at their contexts** leaves their blocks. -/
theorem setVcpuContexts_owned (contexts : Nat) (cpus : List Nat) (h : s.ledger.Owns owned)
    (hh : hvm ∈ owned)
    (hv : ∀ vcpus, (s.memory.hvm hvm).vcpuArray = some vcpus → vcpus ∈ owned) :
    ∃ vcpu : Nat → Nat → HvmVcpu,
      cpus.foldl (fun s i => hvmSetVcpuContext hvm contexts i s) s
        = s.withHvms s.ledger s.memory.hvm vcpu ∧
      (∀ vcpus p, vcpuBlocks (vcpu vcpus p) = vcpuBlocks (s.memory.vcpu vcpus p)) ∧
      ∀ vcpus, (s.memory.hvm hvm).vcpuArray = some vcpus → ∀ p ∈ cpus,
        (vcpu vcpus p).context = some (contexts, p) := by
  cases hvcpus : (s.memory.hvm hvm).vcpuArray with
  | none =>
    have hnone : ∀ i, hvmSetVcpuContext hvm contexts i s = s := by
      intro i
      unfold hvmSetVcpuContext
      simp only [hvcpus]
    refine ⟨s.memory.vcpu, ?_, fun _ _ => rfl, fun _ hsome => absurd hsome.symm (by simp)⟩
    induction cpus with
    | nil => rfl
    | cons i cpus ih =>
      rw [List.foldl_cons, hnone]
      exact ih
  | some vcpus =>
    refine ⟨Function.update s.memory.vcpu vcpus
      (pointAt contexts cpus (s.memory.vcpu vcpus)),
      foldl_hvmSetVcpuContext cpus h hh (hv vcpus hvcpus) hvcpus, ?_, ?_⟩
    · intro a p
      by_cases ha : a = vcpus
      · rw [ha, Function.update_self, vcpuBlocks_pointAt]
      · rw [Function.update_of_ne ha]
    · intro a hsome p hp
      obtain rfl := Option.some.inj hsome
      rw [Function.update_self]
      unfold pointAt
      rw [if_pos hp]

/-- What hangs off an HVM depends on the blocks of the VCPUs alone. -/
theorem hvmBlocks_congr {cpuCount : Nat} {memory memory' : Memory}
    (harray : (memory'.hvm hvm).vcpuArray = (memory.hvm hvm).vcpuArray)
    (hvcpu : ∀ vcpus p, vcpuBlocks (memory'.vcpu vcpus p) = vcpuBlocks (memory.vcpu vcpus p)) :
    hvmBlocks cpuCount memory' hvm = hvmBlocks cpuCount memory hvm := by
  unfold hvmBlocks
  rw [harray]
  cases (memory.hvm hvm).vcpuArray with
  | none => rfl
  | some vcpus =>
    unfold vcpuArrayBlocks vcpusBlocks
    simp only [hvcpu]

/-- The tables of the processors are allocated. -/
def LoadOutcome.allocatesTscHits (o : LoadOutcome) (cpuCount : Nat) : Bool :=
  (List.range cpuCount).all fun p => o.memAlloc (.tscHits p)

theorem ntSuccess_initVcpuContexts (smp : Smp) (o : LoadOutcome) (contexts : Nat) (s : DsHvm) :
    ntSuccess (smpRunPerProcessor smp (initVcpuContextPerCpu o contexts) s).1
      = o.allocatesTscHits smp.count := by
  have hstatus : ∀ p s, (initVcpuContextPerCpu o contexts p s).1
      = if o.memAlloc (.tscHits p) then statusSuccess else statusUnsuccessful := by
    intro p s
    unfold initVcpuContextPerCpu initializeVcpuContext
    cases o.memAlloc (.tscHits p) <;> rfl
  have hfail : ∀ p, ntSuccess (if o.memAlloc (.tscHits p) then statusSuccess
      else statusUnsuccessful) = true →
      (if o.memAlloc (.tscHits p) then statusSuccess else statusUnsuccessful)
        = statusSuccess := by
    intro p
    cases o.memAlloc (.tscHits p) <;> decide
  have hiff := smpRunPerProcessor_ntSuccess_iff hstatus hfail smp s
  rw [Bool.eq_iff_iff, hiff]
  unfold LoadOutcome.allocatesTscHits
  rw [List.all_eq_true]
  refine ⟨fun h p hp => ?_, fun h p hp => ?_⟩
  · have hp' := h p (List.mem_range.mp hp)
    by_contra hfalse
    rw [if_neg hfalse] at hp'
    exact absurd hp' (by decide)
  · rw [if_pos (h p (List.mem_range.mpr hp))]

/-- From an array of contexts on, whatever its entries hold: they are initialised
and, if that succeeded, the HVM points at them. -/
theorem dsInitializeVcpuContexts_owns (smp : Smp) (o : LoadOutcome)
    (hcontexts : s.gVcpuContexts = some contexts) (h : s.ledger.Owns ({contexts} + owned))
    (hh : hvm ∈ owned) (hv : ∀ vcpus, (s.memory.hvm hvm).vcpuArray = some vcpus → vcpus ∈ owned) :
    ∃ (s' : DsHvm) (status : NtStatus),
      dsInitializeVcpuContexts smp o hvm contexts s = (status, s') ∧
      ntSuccess status = o.allocatesTscHits smp.count ∧
      KeepsHvm smp.count hvm s s' ∧
      s'.gHvmContext = s.gHvmContext ∧ s'.gVcpuContexts = s.gVcpuContexts ∧
      s'.memory.hvmContext = s.memory.hvmContext ∧
      s'.memory.hvm = s.memory.hvm ∧
      s'.ledger.Owns (vcpuContextsBlocks smp.count s'.memory s'.gVcpuContexts + owned) ∧
      (ntSuccess status = true → ∀ vcpus, (s.memory.hvm hvm).vcpuArray = some vcpus →
        ∀ p < smp.count, (s'.memory.vcpu vcpus p).context = some (contexts, p)) := by
  obtain ⟨ledger, entries, hledger, -, hs⟩ :=
    foldl_initVcpuContext_owns o smp.order smp.order_nodup h
      (Multiset.mem_add.mpr (Or.inl (Multiset.mem_singleton_self contexts)))
  have hblocks : tscHitsBlocks smp.order entries + ({contexts} + owned)
      = vcpuContextsBlocks smp.count (s.withVcpuContexts ledger contexts entries).memory
        (some contexts) + owned := by
    unfold vcpuContextsBlocks
    simp only [DsHvm.withVcpuContexts_vcpuContext]
    rw [tscHitsBlocks_order, add_assoc]
  rw [hblocks, ← hcontexts] at hledger
  unfold dsInitializeVcpuContexts
  simp only [smpRunPerProcessor_snd, hs, ntSuccess_initVcpuContexts]
  cases hok : o.allocatesTscHits smp.count with
  | false =>
    exact ⟨s.withVcpuContexts ledger contexts entries, statusUnsuccessful, rfl, rfl,
      ⟨rfl, rfl, rfl, rfl⟩, rfl, rfl, rfl, rfl, hledger,
      fun hsucc => absurd hsucc (by decide)⟩
  | true =>
    obtain ⟨vcpu, hset, hvcpu, hcontext⟩ :=
      setVcpuContexts_owned (s := s.withVcpuContexts ledger contexts entries) contexts
        (List.range smp.count) hledger (Multiset.mem_add.mpr (Or.inr hh))
        (fun vcpus hvcpus => Multiset.mem_add.mpr (Or.inr (hv vcpus hvcpus)))
    simp only [hset]
    exact ⟨_, statusSuccess, rfl, rfl,
      ⟨rfl, rfl, rfl, hvmBlocks_congr rfl hvcpu⟩, rfl, rfl, rfl, rfl, hledger,
      fun _ vcpus hvcpus p hp => hcontext vcpus hvcpus p (List.mem_range.mpr hp)⟩

/-- The state once `HvmSetHvmContext` ran, the contexts being in `s`. -/
theorem hvmSetHvmContext_owned (hvm hvmContext : Nat) (h : s.ledger.Owns owned)
    (hh : hvm ∈ owned) :
    ∃ hvms : Nat → Hvm,
      hvmSetHvmContext hvm hvmContext s = s.withHvms s.ledger hvms s.memory.vcpu ∧
      (hvms hvm).hvmContext = some hvmContext ∧
      (hvms hvm).vcpuArray = (s.memory.hvm hvm).vcpuArray ∧
      (hvms hvm).launched = (s.memory.hvm hvm).launched := by
  refine ⟨Function.update s.memory.hvm hvm
    { s.memory.hvm hvm with hvmContext := some hvmContext }, ?_, ?_, ?_, ?_⟩
  · exact DsHvm.setHvm_owned (fun hvm => { hvm with hvmContext := some hvmContext }) h hh
  · rw [Function.update_self]
  · rw [Function.update_self]
  · rw [Function.update_self]

@[simp] theorem DsHvm.withHvmContext_hvmContext {ledger : Ledger} {entry : HvmContext} :
    (s.withHvmContext ledger hvmContext entry).memory.hvmContext hvmContext = entry := by
  unfold DsHvm.withHvmContext
  exact Function.update_self _ _ _

/-- From the array of contexts on: what was built hangs off the globals. -/
theorem dsAllocateVcpuContexts_owns (smp : Smp) (o : LoadOutcome)
    (hpoints : (s.memory.hvm hvm).hvmContext = s.gHvmContext)
    (h : s.ledger.Owns (hvmContextBlocks s.memory s.gHvmContext
      + hvmBlocks smp.count s.memory hvm)) :
    ∃ (s' : DsHvm) (status : NtStatus),
      dsAllocateVcpuContexts smp o hvm s = (status, s') ∧
      ntSuccess status = (o.memAlloc .vcpuContexts && o.allocatesTscHits smp.count) ∧
      KeepsHvm smp.count hvm s s' ∧
      s'.ledger.Owns (contextBlocks smp.count s' + hvmBlocks smp.count s'.memory hvm) ∧
      (ntSuccess status = true → PointsAtContexts smp.count hvm s') := by
  unfold dsAllocateVcpuContexts
  cases o.memAlloc .vcpuContexts with
  | false =>
    refine ⟨{ s with gVcpuContexts := none }, statusUnsuccessful, rfl, rfl, ⟨rfl, rfl, rfl, rfl⟩,
      h.of_eq ?_, fun hsucc => absurd hsucc (by decide)⟩
    unfold contextBlocks vcpuContextsBlocks
    rw [zero_add]
  | true =>
    have hnew := DsHvm.allocated_owns h
    obtain ⟨s', status, hrun, hstatus, hkeeps, hgHvmContext, hgVcpuContexts, hhvmContext, hhvm,
        hledger, hcontext⟩ :=
      dsInitializeVcpuContexts_owns
        (s := { s.allocated with gVcpuContexts := some s.ledger.next }) smp o rfl hnew
        (Multiset.mem_add.mpr (Or.inr (mem_hvmBlocks_self smp.count s.memory hvm)))
        (fun vcpus hvcpus => Multiset.mem_add.mpr (Or.inr (mem_hvmBlocks_array hvcpus)))
    refine ⟨s', status, hrun, hstatus.trans (Bool.true_and _).symm,
      ⟨hkeeps.gHvm, hkeeps.guest, hkeeps.launched, hkeeps.blocks⟩, hledger.of_eq ?_,
      fun hsucc => ⟨?_, ?_⟩⟩
    · have hsame : hvmContextBlocks s'.memory s'.gHvmContext
          = hvmContextBlocks s.memory s.gHvmContext := by
        unfold hvmContextBlocks
        rw [hgHvmContext, hhvmContext]
        rfl
      unfold contextBlocks
      rw [hsame, hkeeps.blocks, add_assoc]
      rfl
    · rw [hhvm, hgHvmContext]
      exact hpoints
    · intro vcpus hvcpus p hp
      rw [hhvm] at hvcpus
      rw [hgVcpuContexts]
      exact hcontext hsucc vcpus hvcpus p hp

/-- From an `HVM_CONTEXT` on. -/
theorem dsInitializeHvmContext_owns (smp : Smp) (o : LoadOutcome)
    (hcontext : s.gHvmContext = some hvmContext) (hnone : s.gVcpuContexts = none)
    (h : s.ledger.Owns ({hvmContext} + hvmBlocks smp.count s.memory hvm)) :
    ∃ (s' : DsHvm) (status : NtStatus),
      dsInitializeHvmContext smp o hvm hvmContext s = (status, s') ∧
      ntSuccess status = (o.memAlloc .msrBitmap &&
        (o.memAlloc .vcpuContexts && o.allocatesTscHits smp.count)) ∧
      KeepsHvm smp.count hvm s s' ∧
      s'.ledger.Owns (contextBlocks smp.count s' + hvmBlocks smp.count s'.memory hvm) ∧
      (ntSuccess status = true → PointsAtContexts smp.count hvm s') := by
  obtain ⟨ledger₁, entry, h₁, hs₁⟩ := initializeHvmContext_owns (o.memAlloc .msrBitmap) h
    (Multiset.mem_add.mpr (Or.inl (Multiset.mem_singleton_self hvmContext)))
  -- the bitmap hangs off the `HVM_CONTEXT` from here on
  have hheld : hvmContextBlocks (s.withHvmContext ledger₁ hvmContext entry).memory s.gHvmContext
      = Ledger.pointee entry.msrBitmap + {hvmContext} := by
    unfold hvmContextBlocks
    rw [hcontext]
    simp only [DsHvm.withHvmContext_hvmContext]
  have h₂ := h₁.of_eq (by rw [← add_assoc, ← hheld])
  unfold dsInitializeHvmContext
  rw [hs₁]
  cases o.memAlloc .msrBitmap with
  | false =>
    refine ⟨s.withHvmContext ledger₁ hvmContext entry, statusUnsuccessful, rfl, rfl,
      ⟨rfl, rfl, rfl, rfl⟩, h₂.of_eq ?_, fun hsucc => absurd hsucc (by decide)⟩
    have hglobal : (s.withHvmContext ledger₁ hvmContext entry).gVcpuContexts = none := hnone
    unfold contextBlocks
    rw [hglobal]
    exact (congrArg (· + _) (zero_add _)).symm
  | true =>
    obtain ⟨hvms, hs₂, hpoints, harray, hlaunched⟩ :=
      hvmSetHvmContext_owned (s := s.withHvmContext ledger₁ hvmContext entry) hvm hvmContext h₁
        (Multiset.mem_add.mpr (Or.inr (Multiset.mem_add.mpr (Or.inr
          (mem_hvmBlocks_self smp.count s.memory hvm)))))
    have hblocks : hvmBlocks smp.count ((s.withHvmContext ledger₁ hvmContext entry).withHvms ledger₁
        hvms s.memory.vcpu).memory hvm = hvmBlocks smp.count s.memory hvm :=
      hvmBlocks_congr harray fun _ _ => rfl
    obtain ⟨s', status, hrun, hstatus, hkeeps, hledger, hlinked⟩ :=
      dsAllocateVcpuContexts_owns smp o
        (s := (s.withHvmContext ledger₁ hvmContext entry).withHvms ledger₁ hvms s.memory.vcpu)
        (hpoints.trans hcontext.symm) (h₂.of_eq (congrArg (_ + ·) hblocks.symm))
    have hfirst : KeepsHvm smp.count hvm s
        ((s.withHvmContext ledger₁ hvmContext entry).withHvms ledger₁ hvms s.memory.vcpu) :=
      ⟨rfl, rfl, hlaunched, hblocks⟩
    simp only [hs₂, Bool.true_eq_false, if_false, Bool.true_and]
    exact ⟨s', status, hrun, hstatus, hfirst.trans hkeeps, hledger, hlinked⟩

/-- The allocations of `DsInitializeHvmContexts` succeed. -/
def LoadOutcome.allocatesContexts (o : LoadOutcome) (cpuCount : Nat) : Bool :=
  o.memAlloc .hvmContext && (o.memAlloc .msrBitmap &&
    (o.memAlloc .vcpuContexts && o.allocatesTscHits cpuCount))

/-- Wherever the construction ends, what was built hangs off the globals. -/
theorem dsAllocateHvmContexts_owns (smp : Smp) (o : LoadOutcome)
    (hnone : s.gVcpuContexts = none) (h : s.ledger.Owns (hvmBlocks smp.count s.memory hvm)) :
    ∃ (s' : DsHvm) (status : NtStatus),
      dsAllocateHvmContexts smp o hvm s = (status, s') ∧
      ntSuccess status = o.allocatesContexts smp.count ∧
      KeepsHvm smp.count hvm s s' ∧
      s'.ledger.Owns (contextBlocks smp.count s' + hvmBlocks smp.count s'.memory hvm) ∧
      (ntSuccess status = true → PointsAtContexts smp.count hvm s') := by
  unfold dsAllocateHvmContexts LoadOutcome.allocatesContexts
  cases o.memAlloc .hvmContext with
  | false =>
    refine ⟨{ s with gHvmContext := none }, statusUnsuccessful, rfl, rfl, ⟨rfl, rfl, rfl, rfl⟩,
      h.of_eq ?_, fun hsucc => absurd hsucc (by decide)⟩
    unfold contextBlocks
    simp only [hnone]
    exact (zero_add _).symm
  | true =>
    have hnew := DsHvm.allocated_owns h
    obtain ⟨s', status, hrun, hstatus, hkeeps, hledger, hlinked⟩ :=
      dsInitializeHvmContext_owns
        (s := { s.allocated with gHvmContext := some s.ledger.next }) smp o rfl hnone hnew
    exact ⟨s', status, hrun, hstatus.trans (Bool.true_and _).symm,
      ⟨hkeeps.gHvm, hkeeps.guest, hkeeps.launched, hkeeps.blocks⟩, hledger, hlinked⟩

/-- **Building the contexts**: they are all there, or none of their blocks is
left and the globals are null again. -/
theorem dsInitializeHvmContexts_owns (smp : Smp) (o : LoadOutcome)
    (hnone : s.gVcpuContexts = none) (h : s.ledger.Owns (hvmBlocks smp.count s.memory hvm)) :
    ∃ (s' : DsHvm) (status : NtStatus),
      dsInitializeHvmContexts smp o hvm s = (status, s') ∧
      ntSuccess status = o.allocatesContexts smp.count ∧
      KeepsHvm smp.count hvm s s' ∧
      (ntSuccess status = true → PointsAtContexts smp.count hvm s' ∧
        s'.ledger.Owns (contextBlocks smp.count s' + hvmBlocks smp.count s'.memory hvm)) ∧
      (ntSuccess status = false → s'.gHvmContext = none ∧ s'.gVcpuContexts = none ∧
        s'.ledger.Owns (hvmBlocks smp.count s'.memory hvm)) := by
  obtain ⟨s₁, status, hrun, hstatus, hkeeps, hledger, hlinked⟩ :=
    dsAllocateHvmContexts_owns smp o hnone h
  unfold dsInitializeHvmContexts
  rw [hrun]
  cases hok : ntSuccess status with
  | true =>
    refine ⟨s₁, status, if_pos hok, hok ▸ hstatus, hkeeps,
      fun _ => ⟨hlinked hok, hledger⟩, fun hfail => absurd (hok.symm.trans hfail) (by decide)⟩
  | false =>
    obtain ⟨ledger, hvmContexts, vcpuContexts, hfreed, hdelete⟩ :=
      dsDeleteHvmContexts_owns smp hledger
    refine ⟨s₁.withoutContexts ledger hvmContexts vcpuContexts, status, ?_, hok ▸ hstatus,
      ⟨hkeeps.gHvm, hkeeps.guest, hkeeps.launched, hkeeps.blocks⟩,
      fun hsucc => absurd (hok.symm.trans hsucc) (by decide), fun _ => ⟨rfl, rfl, hfreed⟩⟩
    rw [← hdelete]
    exact if_neg (by rw [hok]; decide)

end DeepShield.Load
