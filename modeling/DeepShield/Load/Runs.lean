import DeepShield.Lib.Runs
import DeepShield.Load.Contexts
import DeepShield.Vmx.Launch

/-!
# Loading and unloading, again and again

`DsLoadHvm` and `DsUnloadHvm` of `dshvm.c` over the heap blocks they allocate
and free, with `HvmStart` and `HvmStop` of `hvm_launch.c` between. A processor
that was started runs on blocks of the load: its VMCS is current, its exits land
on its stack and their handlers read the contexts.

Within the calls no block is lost, freed twice or touched once it is freed,
whichever of the calls out of them fail. What goes wrong is outside them: the
roll-back of a start that some processors made and others did not frees the
blocks under those that did, because `HvmStop` returns at the test of
`Hvm->Launched` before it stops any of them. `loadUnload_accounted_iff` says that
this is the only thing.
-/

namespace DeepShield.Load

open DeepShield.Os DeepShield.Lib
open DeepShield.Vmx (statusOf statusOf_eq_success_iff ntSuccess_statusOf_iff)

/-! ## The functions -/

/-- Accesses to several blocks. -/
def DsHvm.useAll (blocks : List Nat) (s : DsHvm) : DsHvm :=
  blocks.foldl (fun s b => s.use b) s

/-- What the `HVM_CONTEXT` behind `Hvm->HvmContext` and its bitmap are in. -/
def DsHvm.hvmContextGuestBlocks (s : DsHvm) : Option Nat → List Nat
  | none => []
  | some hvmContext => hvmContext :: (s.memory.hvmContext hvmContext).msrBitmap.toList

/-- What the `VCPU_CONTEXT` behind `Vcpu->Context` and its table are in. -/
def DsHvm.vcpuContextGuestBlocks (s : DsHvm) : Option (Nat × Nat) → List Nat
  | none => []
  | some (contexts, vcpuId) => contexts :: (s.memory.vcpuContext contexts vcpuId).tscHits.toList

/-- What the `HVM_VCPU` of a processor and its regions, stack and context are
in. -/
def DsHvm.vcpuGuestBlocks (s : DsHvm) (vcpuId : Nat) : Option Nat → List Nat
  | none => []
  | some vcpus =>
    let vcpu := s.memory.vcpu vcpus vcpuId
    vcpus :: (vcpu.vmxOnHva.toList ++ (vcpu.vmcsHva.toList ++ (vcpu.stack.toList
      ++ s.vcpuContextGuestBlocks vcpu.context)))

/-- The blocks that processor `vcpuId` runs on as a guest of `hvm`. -/
def DsHvm.guestBlocks (s : DsHvm) (hvm vcpuId : Nat) : List Nat :=
  hvm :: (s.hvmContextGuestBlocks (s.memory.hvm hvm).hvmContext
    ++ s.vcpuGuestBlocks vcpuId (s.memory.hvm hvm).vcpuArray)

/-- `HvmpStartVcpu` on a processor whose launch turns out as `startVcpu` says. -/
def hvmpStartVcpu (startVcpu : Nat → Option NtFailure) (hvm : Nat) : ProcessorCallback DsHvm :=
  fun vcpuId s =>
    let blocks := s.guestBlocks hvm vcpuId
    let s := s.useAll blocks
    (statusOf (startVcpu vcpuId),
      if startVcpu vcpuId = none then
        { s with guest := Function.update s.guest vcpuId blocks }
      else s)

/-- `HvmpStopVcpu`: the exit of the hypercall is handled on the blocks of the
guest. -/
def hvmpStopVcpu (stopVcpu : Nat → Option NtFailure) : ProcessorCallback DsHvm :=
  fun vcpuId s =>
    let s := s.useAll (s.guest vcpuId)
    (statusOf (stopVcpu vcpuId),
      if stopVcpu vcpuId = none then { s with guest := Function.update s.guest vcpuId [] } else s)

/-- `AtomicWrite( &Hvm->Launched, … )`. -/
def DsHvm.setLaunched (hvm : Nat) (launched : Bool) (s : DsHvm) : DsHvm :=
  s.setHvm hvm fun hvm => { hvm with launched := launched }

/-- `HvmStart`. -/
def hvmStart (smp : Smp) (startVcpu : Nat → Option NtFailure) (hvm : Nat) (s : DsHvm) :
    NtStatus × DsHvm :=
  let s := s.use hvm
  if (s.memory.hvm hvm).launched = true then (statusUnsuccessful, s)
  else
    let (status, s) := smpRunPerProcessor smp (hvmpStartVcpu startVcpu hvm) s
    if ntSuccess status then (status, s.setLaunched hvm true) else (status, s)

/-- `HvmStop`. -/
def hvmStop (smp : Smp) (stopVcpu : Nat → Option NtFailure) (hvm : Nat) (s : DsHvm) :
    NtStatus × DsHvm :=
  let s := s.use hvm
  if (s.memory.hvm hvm).launched = false then (statusUnsuccessful, s)
  else
    let (status, s) := smpRunPerProcessor smp (hvmpStopVcpu stopVcpu) s
    if ntSuccess status then (status, s.setLaunched hvm false) else (status, s)

/-- `DsInitializeHvm`, but for its assertions. -/
def dsInitializeHvm (smp : Smp) (o : LoadOutcome) (s : DsHvm) : NtStatus × DsHvm :=
  let (status, hvm, s) := hvmInitialize smp.count o s
  match ntSuccess status, hvm with
  | true, some hvm =>
    let (status, s) := dsInitializeHvmContexts smp o hvm s
    if ntSuccess status then (status, { s with gHvm := some hvm })
    else (status, hvmFinalize smp.count hvm s)
  | _, _ => (status, s)

/-- `DsFinalizeHvm`. -/
def dsFinalizeHvm (smp : Smp) (s : DsHvm) : DsHvm :=
  match s.gHvm with
  | none => dsDeleteHvmContexts smp s
  | some hvm => dsDeleteHvmContexts smp { hvmFinalize smp.count hvm s with gHvm := none }

/-- `DsLoadHvm`. -/
def dsLoadHvm (smp : Smp) (o : LoadOutcome) (s : DsHvm) : NtStatus × DsHvm :=
  let (status, s) := dsInitializeHvm smp o s
  match ntSuccess status, s.gHvm with
  | true, some hvm =>
    let (status, s) := hvmStart smp o.startVcpu hvm s
    if ntSuccess status then (status, s)
    else (status, dsFinalizeHvm smp (hvmStop smp o.stopVcpu hvm s).2)
  | _, _ => (status, s)

/-- `DsUnloadHvm`, called while there is an `HVM`. -/
def dsUnloadHvm (smp : Smp) (stopVcpu : Nat → Option NtFailure) (s : DsHvm) : NtStatus × DsHvm :=
  match s.gHvm with
  | none => (statusUnsuccessful, s)
  | some hvm =>
    let (status, s) := hvmStop smp stopVcpu hvm s
    if ntSuccess status then (status, dsFinalizeHvm smp s) else (status, s)

/-- `DsIsHvmLaunched`. -/
def dsIsHvmLaunched (s : DsHvm) : Bool :=
  match s.gHvm with
  | none => false
  | some hvm => (s.memory.hvm hvm).launched

/-! ## Runs -/

/-- The calls of a run, each with the order in which the processors take their
turns and the way its own calls turn out. -/
inductive Call
  | load (smp : Smp) (o : LoadOutcome)
  | unload (smp : Smp) (stopVcpu : Nat → Option NtFailure)

/-- A load while not launched or an unload while launched, on a machine of
`cpuCount` processors. -/
def callStep (cpuCount : Nat) (s : DsHvm) : Call → Option DsHvm
  | .load smp o =>
    if smp.count = cpuCount ∧ dsIsHvmLaunched s = false then some (dsLoadHvm smp o s).2 else none
  | .unload smp stopVcpu =>
    if smp.count = cpuCount ∧ dsIsHvmLaunched s = true then some (dsUnloadHvm smp stopVcpu s).2
    else none

/-- Before the first load, with `memory` in the blocks of the heap. -/
def DsHvm.unloaded (memory : Memory) : DsHvm :=
  { ledger := .empty
    memory := memory
    gHvm := none
    gHvmContext := none
    gVcpuContexts := none
    guest := fun _ => [] }

/-- Every block is accounted for: once the `HVM` is gone none is left and each was
freed once, none was touched that was not live, and the processors in guest mode
run on live blocks. -/
structure Accounted (s : DsHvm) : Prop where
  noneLive : s.gHvm = none → ∀ b, ¬ s.ledger.Live b
  freedOnce : s.gHvm = none → ∀ b < s.ledger.next, s.ledger.frees b = 1
  notMisused : s.ledger.misused = false
  guestsLive : ∀ p, ∀ b ∈ s.guest p, s.ledger.Live b

/-- VMX is there and every allocation of the load succeeds. -/
def LoadOutcome.allocates (o : LoadOutcome) (cpuCount : Nat) : Bool :=
  o.allocatesHvm cpuCount && o.allocatesContexts cpuCount

/-- If the load comes to starting the processors, all of them start or none
does. -/
def Call.StartsTogether (cpuCount : Nat) : Call → Prop
  | .load _ o => o.allocates cpuCount = true →
    (∀ p < cpuCount, o.startVcpu p = none) ∨ ∀ p < cpuCount, o.startVcpu p ≠ none
  | .unload _ _ => True

/-! ## What is held between calls -/

/-- No `HVM`, no contexts and no block. -/
structure Unloaded (s : DsHvm) : Prop where
  gHvm : s.gHvm = none
  gHvmContext : s.gHvmContext = none
  gVcpuContexts : s.gVcpuContexts = none
  owns : s.ledger.Owns 0

/-- Launched, and the heap holds what hangs off the globals. -/
structure Loaded (cpuCount hvm : Nat) (s : DsHvm) : Prop where
  gHvm : s.gHvm = some hvm
  launched : (s.memory.hvm hvm).launched = true
  owns : s.ledger.Owns (contextBlocks cpuCount s + hvmBlocks cpuCount s.memory hvm)
  guests : ∀ p, ∀ b ∈ s.guest p, b ∈ contextBlocks cpuCount s + hvmBlocks cpuCount s.memory hvm
  beyond : ∀ p, cpuCount ≤ p → s.guest p = []

/-- The states between calls. -/
def Settled (cpuCount : Nat) (s : DsHvm) : Prop :=
  (Unloaded s ∧ ∀ p, s.guest p = []) ∨ ∃ hvm, Loaded cpuCount hvm s

/-- **Everything is accounted for between calls.** -/
theorem Settled.accounted {cpuCount : Nat} {s : DsHvm} (h : Settled cpuCount s) : Accounted s := by
  rcases h with ⟨hun, hguest⟩ | ⟨hvm, hload⟩
  · refine ⟨fun _ => hun.owns.not_live, fun _ => hun.owns.freedOnce, hun.owns.notMisused, ?_⟩
    intro p b hb
    rw [hguest p] at hb
    exact absurd hb List.not_mem_nil
  · have hgHvm : s.gHvm ≠ none := by
      rw [hload.gHvm]
      exact Option.some_ne_none hvm
    exact ⟨fun hnone => absurd hnone hgHvm, fun hnone => absurd hnone hgHvm,
      hload.owns.notMisused, fun p b hb => hload.owns.live_iff.mpr (hload.guests p b hb)⟩

variable {s : DsHvm} {owned : Multiset Nat} {cpuCount hvm : Nat}

theorem DsHvm.useAll_owned (h : s.ledger.Owns owned) (blocks : List Nat)
    (hblocks : ∀ b ∈ blocks, b ∈ owned) : s.useAll blocks = s := by
  unfold DsHvm.useAll
  induction blocks with
  | nil => rfl
  | cons b blocks ih =>
    rw [List.foldl_cons, DsHvm.use_owned h (hblocks b List.mem_cons_self)]
    exact ih fun c hc => hblocks c (List.mem_cons_of_mem b hc)

theorem DsHvm.setLaunched_owned (launched : Bool) (h : s.ledger.Owns owned) (hh : hvm ∈ owned) :
    s.setLaunched hvm launched
      = s.withHvms s.ledger (Function.update s.memory.hvm hvm
        { s.memory.hvm hvm with launched := launched }) s.memory.vcpu :=
  DsHvm.setHvm_owned (fun hvm => { hvm with launched := launched }) h hh

/-! ## Finalising -/

/-- **Finalising** frees everything there is. -/
theorem dsFinalizeHvm_owns (smp : Smp) (hhvm : s.gHvm = some hvm)
    (h : s.ledger.Owns (contextBlocks smp.count s + hvmBlocks smp.count s.memory hvm)) :
    Unloaded (dsFinalizeHvm smp s) ∧ (dsFinalizeHvm smp s).guest = s.guest := by
  obtain ⟨ledger, hledger, hs⟩ := hvmFinalize_owns (s := s) (h.of_eq (add_comm _ _))
  obtain ⟨ledger', hvmContexts, vcpuContexts, hledger', hs'⟩ :=
    dsDeleteHvmContexts_owns (s := { s.withLedger ledger with gHvm := none }) smp
      (hledger.of_eq (add_zero _).symm)
  have hfinal : dsFinalizeHvm smp s
      = DsHvm.withoutContexts { s.withLedger ledger with gHvm := none } ledger' hvmContexts
        vcpuContexts := by
    unfold dsFinalizeHvm
    simp only [hhvm, hs]
    exact hs'
  rw [hfinal]
  exact ⟨⟨rfl, rfl, rfl, hledger'⟩, rfl⟩

/-! ## Starting and stopping -/

/-- The state with other guests. -/
def DsHvm.withGuests (s : DsHvm) (guest : Nat → List Nat) : DsHvm := { s with guest := guest }

/-- The guests after the processors of `cpus` that `moves` came to run on
`blocks`. -/
def movedGuests (moves : Nat → Bool) (blocks : Nat → List Nat) (cpus : List Nat)
    (guest : Nat → List Nat) (p : Nat) : List Nat :=
  if p ∈ cpus ∧ moves p = true then blocks p else guest p

section MovedGuests

variable {moves : Nat → Bool} {blocks guest : Nat → List Nat} {cpus : List Nat} {p b : Nat}

theorem movedGuests_moved (hp : p ∈ cpus) (hmove : moves p = true) :
    movedGuests moves blocks cpus guest p = blocks p := if_pos ⟨hp, hmove⟩

theorem movedGuests_kept (h : ¬ (p ∈ cpus ∧ moves p = true)) :
    movedGuests moves blocks cpus guest p = guest p := if_neg h

theorem mem_movedGuests (hb : b ∈ movedGuests moves blocks cpus guest p) :
    (p ∈ cpus ∧ b ∈ blocks p) ∨ b ∈ guest p := by
  by_cases h : p ∈ cpus ∧ moves p = true
  · rw [movedGuests_moved h.1 h.2] at hb
    exact Or.inl ⟨h.1, hb⟩
  · rw [movedGuests_kept h] at hb
    exact Or.inr hb

end MovedGuests

/-- A routine that moves the processor it runs on moves those of a list, one
after another. `Inv` is what the routine relies on. -/
theorem foldl_moveGuests {routine : DsHvm → Nat → DsHvm} (Inv : (Nat → List Nat) → Prop)
    {moves : Nat → Bool} {blocks : Nat → List Nat}
    (hstep : ∀ p guest, p < cpuCount → Inv guest → routine (s.withGuests guest) p
      = s.withGuests (if moves p then Function.update guest p (blocks p) else guest))
    (hinv : ∀ p guest, p < cpuCount → Inv guest → Inv (Function.update guest p (blocks p)))
    (cpus : List Nat) (hcpus : ∀ p ∈ cpus, p < cpuCount) {guest : Nat → List Nat}
    (h : Inv guest) :
    cpus.foldl routine (s.withGuests guest)
      = s.withGuests (movedGuests moves blocks cpus guest) := by
  induction cpus generalizing guest with
  | nil =>
    refine congrArg s.withGuests (funext fun p => ?_)
    unfold movedGuests
    rw [if_neg (fun hmem => absurd hmem.1 List.not_mem_nil)]
  | cons q cpus ih =>
    have hq := hcpus q List.mem_cons_self
    have hrest : ∀ p ∈ cpus, p < cpuCount := fun p hp => hcpus p (List.mem_cons_of_mem q hp)
    rw [List.foldl_cons, hstep q guest hq h]
    cases hmove : moves q with
    | true =>
      rw [if_pos rfl, ih hrest (hinv q guest hq h)]
      refine congrArg s.withGuests (funext fun p => ?_)
      unfold movedGuests
      by_cases hpq : p = q
      · simp [hpq, hmove]
      · simp [hpq]
    | false =>
      rw [if_neg (by decide), ih hrest h]
      refine congrArg s.withGuests (funext fun p => ?_)
      unfold movedGuests
      by_cases hpq : p = q
      · simp [hpq, hmove]
      · simp [hpq]

/-- Who is still a guest after a stop. -/
def stoppedGuests (smp : Smp) (stopVcpu : Nat → Option NtFailure) :
    (Nat → List Nat) → Nat → List Nat :=
  movedGuests (fun p => (stopVcpu p).isNone) (fun _ => []) smp.order

theorem stoppedGuests_nil {smp : Smp} {stopVcpu : Nat → Option NtFailure} {guest : Nat → List Nat}
    {p : Nat} (h : guest p = []) : stoppedGuests smp stopVcpu guest p = [] := by
  unfold stoppedGuests movedGuests
  rw [h, ite_self]

theorem mem_stoppedGuests {smp : Smp} {stopVcpu : Nat → Option NtFailure}
    {guest : Nat → List Nat} {p b : Nat} (hb : b ∈ stoppedGuests smp stopVcpu guest p) :
    b ∈ guest p := by
  rcases mem_movedGuests hb with ⟨_, hnil⟩ | hleft
  · exact absurd hnil List.not_mem_nil
  · exact hleft

/-- Who is a guest after a start. -/
def startedGuests (smp : Smp) (startVcpu : Nat → Option NtFailure) (blocks : Nat → List Nat) :
    (Nat → List Nat) → Nat → List Nat :=
  movedGuests (fun p => (startVcpu p).isNone) blocks smp.order

theorem mem_startedGuests {smp : Smp} {startVcpu : Nat → Option NtFailure}
    {blocks guest : Nat → List Nat} {p b : Nat} (hguest : guest p = [])
    (hb : b ∈ startedGuests smp startVcpu blocks guest p) : p < smp.count ∧ b ∈ blocks p := by
  rcases mem_movedGuests hb with ⟨hmem, hblock⟩ | hleft
  · exact ⟨smp.mem_order.mp hmem, hblock⟩
  · rw [hguest] at hleft
    exact absurd hleft List.not_mem_nil

theorem startedGuests_eq_nil_iff {smp : Smp} {startVcpu : Nat → Option NtFailure}
    {blocks guest : Nat → List Nat} {p : Nat} (hblocks : blocks p ≠ []) (hguest : guest p = []) :
    startedGuests smp startVcpu blocks guest p = [] ↔
      ¬ (p < smp.count ∧ startVcpu p = none) := by
  have hmoves : (p ∈ smp.order ∧ (startVcpu p).isNone = true) ↔
      p < smp.count ∧ startVcpu p = none := by
    rw [smp.mem_order, Option.isNone_iff_eq_none]
  rw [← hmoves]
  unfold startedGuests movedGuests
  by_cases hmove : p ∈ smp.order ∧ (startVcpu p).isNone = true
  · rw [if_pos hmove]
    exact iff_of_false hblocks (not_not_intro hmove)
  · rw [if_neg hmove]
    exact iff_of_true hguest hmove

/-- Stopping the processors changes nothing but who is a guest. -/
theorem smpRun_hvmpStopVcpu_snd (smp : Smp) (stopVcpu : Nat → Option NtFailure)
    (h : s.ledger.Owns owned) (hguests : ∀ p, ∀ b ∈ s.guest p, b ∈ owned) :
    (smpRunPerProcessor smp (hvmpStopVcpu stopVcpu) s).2
      = s.withGuests (stoppedGuests smp stopVcpu s.guest) := by
  rw [smpRunPerProcessor_snd]
  refine foldl_moveGuests (fun guest => ∀ p, ∀ b ∈ guest p, b ∈ owned) ?_ ?_ smp.order
    (fun p hp => smp.mem_order.mp hp) hguests
  · intro p guest _ hinv
    have huse : (s.withGuests guest).useAll ((s.withGuests guest).guest p)
        = s.withGuests guest :=
      DsHvm.useAll_owned (s := s.withGuests guest) h _ (hinv p)
    unfold hvmpStopVcpu
    simp only [huse]
    cases stopVcpu p <;> rfl
  · intro p guest _ hinv q b hb
    by_cases hqp : q = p
    · rw [hqp, Function.update_self] at hb
      exact absurd hb List.not_mem_nil
    · rw [Function.update_of_ne hqp] at hb
      exact hinv q b hb

/-- Starting them does not either. -/
theorem smpRun_hvmpStartVcpu_snd (smp : Smp) (startVcpu : Nat → Option NtFailure)
    (h : s.ledger.Owns owned)
    (hblocks : ∀ p < smp.count, ∀ b ∈ s.guestBlocks hvm p, b ∈ owned) :
    (smpRunPerProcessor smp (hvmpStartVcpu startVcpu hvm) s).2
      = s.withGuests (startedGuests smp startVcpu (s.guestBlocks hvm) s.guest) := by
  rw [smpRunPerProcessor_snd]
  refine foldl_moveGuests (fun _ => True) ?_ (fun _ _ _ _ => trivial) smp.order
    (fun p hp => smp.mem_order.mp hp) trivial
  intro p guest hp _
  have huse : (s.withGuests guest).useAll ((s.withGuests guest).guestBlocks hvm p)
      = s.withGuests guest :=
    DsHvm.useAll_owned (s := s.withGuests guest) h _ (hblocks p hp)
  unfold hvmpStartVcpu
  simp only [huse]
  cases startVcpu p <;> rfl

/-- A routine whose status is a failure or not, on every processor. -/
theorem ntSuccess_smpRun_iff (callback : ProcessorCallback DsHvm)
    {failure : Nat → Option NtFailure}
    (hstatus : ∀ p s, (callback p s).1 = statusOf (failure p)) (smp : Smp) (s : DsHvm) :
    ntSuccess (smpRunPerProcessor smp callback s).1 = true ↔ ∀ p < smp.count, failure p = none := by
  rw [smpRunPerProcessor_ntSuccess_iff hstatus
    (fun p hsucc => statusOf_eq_success_iff.mpr (ntSuccess_statusOf_iff.mp hsucc))]
  simp only [statusOf_eq_success_iff]

/-! ## Unloading -/

theorem Loaded.mem_self {s : DsHvm} (_ : Loaded cpuCount hvm s) :
    hvm ∈ contextBlocks cpuCount s + hvmBlocks cpuCount s.memory hvm :=
  Multiset.mem_add.mpr (Or.inr (mem_hvmBlocks_self cpuCount s.memory hvm))

/-- Writing `Hvm->Launched` leaves what hangs off the HVM. -/
theorem hvmBlocks_setLaunched (cpuCount : Nat) (s : DsHvm) (hvm : Nat) (launched : Bool) :
    hvmBlocks cpuCount (s.withHvms s.ledger (Function.update s.memory.hvm hvm
      { s.memory.hvm hvm with launched := launched }) s.memory.vcpu).memory hvm
      = hvmBlocks cpuCount s.memory hvm := by
  refine hvmBlocks_congr ?_ fun _ _ => rfl
  rw [DsHvm.withHvms_hvm, Function.update_self]

/-- **A stop** either takes every processor out of guest mode or leaves the HVM
launched with the guests that are left. -/
theorem hvmStop_owns (smp : Smp) (stopVcpu : Nat → Option NtFailure)
    (h : Loaded smp.count hvm s) :
    ∃ (s' : DsHvm) (status : NtStatus), hvmStop smp stopVcpu hvm s = (status, s') ∧
      (ntSuccess status = true ↔ ∀ p < smp.count, stopVcpu p = none) ∧
      (ntSuccess status = true → s'.gHvm = some hvm ∧ (∀ p, s'.guest p = []) ∧
        s'.ledger.Owns (contextBlocks smp.count s' + hvmBlocks smp.count s'.memory hvm)) ∧
      (ntSuccess status = false → Loaded smp.count hvm s') := by
  have hlaunched : ¬ (s.memory.hvm hvm).launched = false := by
    rw [h.launched]
    decide
  have hrun := smpRun_hvmpStopVcpu_snd smp stopVcpu h.owns h.guests
  have hiff := ntSuccess_smpRun_iff (hvmpStopVcpu stopVcpu) (fun _ _ => rfl) smp s
  unfold hvmStop
  simp only [DsHvm.use_owned h.owns h.mem_self]
  rw [if_neg hlaunched]
  generalize (smpRunPerProcessor smp (hvmpStopVcpu stopVcpu) s) = result at hrun hiff ⊢
  obtain ⟨status, stopped⟩ := result
  obtain rfl : stopped = _ := hrun
  cases hok : ntSuccess status with
  | true =>
    have hset := DsHvm.setLaunched_owned
      (s := s.withGuests (stoppedGuests smp stopVcpu s.guest)) false h.owns h.mem_self
    simp only [hset, if_true]
    refine ⟨_, status, rfl, hok ▸ hiff, fun _ => ⟨h.gHvm, ?_, ?_⟩,
      fun hfail => absurd (hok.symm.trans hfail) (by decide)⟩
    · intro p
      show stoppedGuests smp stopVcpu s.guest p = []
      by_cases hp : p < smp.count
      · exact movedGuests_moved (smp.mem_order.mpr hp)
          (Option.isNone_iff_eq_none.mpr (hiff.mp hok p hp))
      · exact stoppedGuests_nil (h.beyond p (by omega))
    · exact h.owns.of_eq (congrArg (_ + ·) (hvmBlocks_setLaunched smp.count _ hvm false).symm)
  | false =>
    simp only [Bool.false_eq_true, if_false]
    refine ⟨_, status, rfl, hok ▸ hiff, fun hsucc => absurd (hok.symm.trans hsucc) (by decide),
      fun _ => ⟨h.gHvm, h.launched, h.owns, ?_, ?_⟩⟩
    · intro p b hb
      exact h.guests p b (mem_stoppedGuests (show b ∈ stoppedGuests smp stopVcpu s.guest p from hb))
    · intro p hp
      show stoppedGuests smp stopVcpu s.guest p = []
      exact stoppedGuests_nil (h.beyond p hp)

/-- The roll-back of a launch that was never recorded does nothing. -/
theorem hvmStop_of_not_launched (smp : Smp) (stopVcpu : Nat → Option NtFailure)
    (h : s.ledger.Owns owned) (hh : hvm ∈ owned) (hlaunched : (s.memory.hvm hvm).launched = false) :
    hvmStop smp stopVcpu hvm s = (statusUnsuccessful, s) := by
  unfold hvmStop
  rw [DsHvm.use_owned h hh]
  exact if_pos hlaunched

/-- **What an unload does.** It frees everything if every processor stops, and otherwise
leaves the HVM launched. -/
theorem dsUnloadHvm_cases (smp : Smp) (stopVcpu : Nat → Option NtFailure)
    (h : Loaded smp.count hvm s) :
    ((∀ p < smp.count, stopVcpu p = none) ∧ ntSuccess (dsUnloadHvm smp stopVcpu s).1 = true ∧
      Unloaded (dsUnloadHvm smp stopVcpu s).2 ∧
      ∀ p, (dsUnloadHvm smp stopVcpu s).2.guest p = []) ∨
    (¬ (∀ p < smp.count, stopVcpu p = none) ∧
      ntSuccess (dsUnloadHvm smp stopVcpu s).1 = false ∧
      Loaded smp.count hvm (dsUnloadHvm smp stopVcpu s).2) := by
  obtain ⟨s', status, hrun, hiff, hsucc, hfail⟩ := hvmStop_owns smp stopVcpu h
  unfold dsUnloadHvm
  simp only [h.gHvm, hrun]
  cases hok : ntSuccess status with
  | true =>
    obtain ⟨hgHvm, hguest, howns⟩ := hsucc hok
    obtain ⟨hunloaded, hsame⟩ := dsFinalizeHvm_owns smp hgHvm howns
    rw [if_pos rfl]
    exact Or.inl ⟨hiff.mp hok, hok, hunloaded, fun p => by rw [hsame, hguest p]⟩
  | false =>
    rw [if_neg (by decide)]
    exact Or.inr ⟨fun hall => absurd (hok.symm.trans (hiff.mpr hall)) (by decide), hok, hfail hok⟩

/-! ## Loading -/

/-- What an `HVM_CONTEXT` is in hangs off the global it is behind. -/
theorem mem_hvmContextGuestBlocks {b : Nat} (hb : b ∈ s.hvmContextGuestBlocks s.gHvmContext) :
    b ∈ contextBlocks cpuCount s := by
  unfold contextBlocks
  refine Multiset.mem_add.mpr (Or.inr ?_)
  cases hcontext : s.gHvmContext with
  | none =>
    rw [hcontext] at hb
    exact absurd hb List.not_mem_nil
  | some hvmContext =>
    rw [hcontext] at hb
    rcases List.mem_cons.mp hb with heq | hbitmap
    · exact Multiset.mem_add.mpr (Or.inr (Multiset.mem_singleton.mpr heq))
    · exact Multiset.mem_add.mpr (Or.inl (Multiset.mem_coe.mpr hbitmap))

/-- So does what the `VCPU_CONTEXT` of a processor is in. -/
theorem mem_vcpuContextGuestBlocks {b p : Nat} (hp : p < cpuCount)
    (hb : b ∈ s.vcpuContextGuestBlocks (s.gVcpuContexts.map fun contexts => (contexts, p))) :
    b ∈ contextBlocks cpuCount s := by
  unfold contextBlocks
  refine Multiset.mem_add.mpr (Or.inl ?_)
  cases hcontexts : s.gVcpuContexts with
  | none =>
    rw [hcontexts] at hb
    exact absurd hb List.not_mem_nil
  | some contexts =>
    rw [hcontexts] at hb
    rcases List.mem_cons.mp hb with heq | htable
    · exact Multiset.mem_add.mpr (Or.inr (Multiset.mem_singleton.mpr heq))
    · exact Multiset.mem_add.mpr (Or.inl
        (mem_sum_map (List.mem_range.mpr hp) (Multiset.mem_coe.mpr htable)))

/-- **A guest runs on blocks that hang off the globals.** -/
theorem mem_guestBlocks {p : Nat} (hp : p < cpuCount) (h : PointsAtContexts cpuCount hvm s) :
    ∀ b ∈ s.guestBlocks hvm p, b ∈ contextBlocks cpuCount s + hvmBlocks cpuCount s.memory hvm := by
  intro b hb
  unfold DsHvm.guestBlocks at hb
  rw [Multiset.mem_add]
  rcases List.mem_cons.mp hb with rfl | hb
  · exact Or.inr (mem_hvmBlocks_self cpuCount s.memory b)
  · rcases List.mem_append.mp hb with hcontext | hvcpu
    · rw [h.hvmContext] at hcontext
      exact Or.inl (mem_hvmContextGuestBlocks hcontext)
    · cases hvcpus : (s.memory.hvm hvm).vcpuArray with
      | none =>
        rw [hvcpus] at hvcpu
        exact absurd hvcpu List.not_mem_nil
      | some vcpus =>
        have hown : ∀ c ∈ vcpuBlocks (s.memory.vcpu vcpus p),
            c ∈ hvmBlocks cpuCount s.memory hvm := by
          intro c hc
          unfold hvmBlocks
          rw [hvcpus]
          exact Multiset.mem_add.mpr (Or.inl (Multiset.mem_add.mpr (Or.inl
            (mem_sum_map (List.mem_range.mpr hp) hc))))
        unfold vcpuBlocks Ledger.pointee at hown
        simp only [Multiset.mem_add, Multiset.mem_coe] at hown
        rw [hvcpus] at hvcpu
        unfold DsHvm.vcpuGuestBlocks at hvcpu
        simp only [List.mem_cons, List.mem_append, h.context vcpus hvcpus p hp] at hvcpu
        rcases hvcpu with rfl | hvmxOn | hvmcs | hstack | hcontext
        · exact Or.inr (mem_hvmBlocks_array hvcpus)
        · exact Or.inr (hown b (Or.inr (Or.inr hvmxOn)))
        · exact Or.inr (hown b (Or.inr (Or.inl hvmcs)))
        · exact Or.inr (hown b (Or.inl hstack))
        · exact Or.inl (mem_vcpuContextGuestBlocks hp hcontext)

/-- Built and not launched yet. -/
structure Built (cpuCount hvm : Nat) (s : DsHvm) : Prop where
  gHvm : s.gHvm = some hvm
  launched : (s.memory.hvm hvm).launched = false
  owns : s.ledger.Owns (contextBlocks cpuCount s + hvmBlocks cpuCount s.memory hvm)
  points : PointsAtContexts cpuCount hvm s

/-- **Initialising** builds everything or leaves nothing. -/
theorem dsInitializeHvm_owns (smp : Smp) (o : LoadOutcome) (h : Unloaded s) :
    ∃ (s' : DsHvm) (status : NtStatus), dsInitializeHvm smp o s = (status, s') ∧
      ntSuccess status = o.allocates smp.count ∧ s'.guest = s.guest ∧
      (ntSuccess status = true → ∃ hvm, Built smp.count hvm s') ∧
      (ntSuccess status = false → Unloaded s') := by
  obtain ⟨ledger, hvms, vcpu, status, hvm, hrun, hstatus, hhvm⟩ :=
    hvmInitialize_owns o s smp.count h.owns
  unfold dsInitializeHvm LoadOutcome.allocates
  simp only [hrun, ← hstatus]
  cases hvm with
  | none =>
    obtain ⟨hfail, howns⟩ := hhvm
    refine ⟨s.withHvms ledger hvms vcpu, status, ?_, ?_, rfl,
      fun hsucc => absurd (hfail.symm.trans hsucc) (by decide),
      fun _ => ⟨h.gHvm, h.gHvmContext, h.gVcpuContexts, howns⟩⟩
    · rw [hfail]
    · rw [hfail, Bool.false_and]
  | some hvm =>
    obtain ⟨hsucc, hlaunched, howns⟩ := hhvm
    obtain ⟨s₁, status', hrun', hstatus', hkeeps, hbuilt, hgone⟩ :=
      dsInitializeHvmContexts_owns (s := s.withHvms ledger hvms vcpu) smp o h.gVcpuContexts
        (howns.of_eq (add_zero _))
    rw [hsucc, Bool.true_and, ← hstatus']
    simp only [hrun']
    cases hok : ntSuccess status' with
    | true =>
      obtain ⟨hpoints, howns'⟩ := hbuilt hok
      refine ⟨{ s₁ with gHvm := some hvm }, status', if_pos rfl, hok, hkeeps.guest,
        fun _ => ⟨hvm, rfl, hkeeps.launched.trans hlaunched, howns',
          ⟨hpoints.hvmContext, hpoints.context⟩⟩,
        fun hfail => absurd (hok.symm.trans hfail) (by decide)⟩
    | false =>
      obtain ⟨hcontext, hcontexts, howns'⟩ := hgone hok
      obtain ⟨ledger', hfreed, hfinal⟩ := hvmFinalize_owns (howns'.of_eq (add_zero _).symm)
      rw [if_neg (by decide), hfinal]
      exact ⟨s₁.withLedger ledger', status', rfl, hok, hkeeps.guest,
        fun hsucc' => absurd (hok.symm.trans hsucc') (by decide),
        fun _ => ⟨hkeeps.gHvm.trans h.gHvm, hcontext, hcontexts, hfreed⟩⟩

/-- **A start** launches the HVM if every processor starts; otherwise those that
did are guests of an HVM that is not launched. -/
theorem hvmStart_owns (smp : Smp) (startVcpu : Nat → Option NtFailure)
    (h : Built smp.count hvm s) (hguest : ∀ p, s.guest p = []) :
    ∃ (s' : DsHvm) (status : NtStatus), hvmStart smp startVcpu hvm s = (status, s') ∧
      (ntSuccess status = true ↔ ∀ p < smp.count, startVcpu p = none) ∧
      (ntSuccess status = true → Loaded smp.count hvm s' ∧ ∀ p < smp.count, s'.guest p ≠ []) ∧
      (ntSuccess status = false →
        s' = s.withGuests (startedGuests smp startVcpu (s.guestBlocks hvm) s.guest)) := by
  have hself : hvm ∈ contextBlocks smp.count s + hvmBlocks smp.count s.memory hvm :=
    Multiset.mem_add.mpr (Or.inr (mem_hvmBlocks_self smp.count s.memory hvm))
  have hnot : ¬ (s.memory.hvm hvm).launched = true := by
    rw [h.launched]
    decide
  have hblocks := fun p (hp : p < smp.count) => mem_guestBlocks hp h.points
  have hrun := smpRun_hvmpStartVcpu_snd smp startVcpu h.owns hblocks
  have hiff := ntSuccess_smpRun_iff (hvmpStartVcpu startVcpu hvm) (fun _ _ => rfl) smp s
  unfold hvmStart
  simp only [DsHvm.use_owned h.owns hself]
  rw [if_neg hnot]
  generalize (smpRunPerProcessor smp (hvmpStartVcpu startVcpu hvm) s) = result at hrun hiff ⊢
  obtain ⟨status, started⟩ := result
  obtain rfl : started = _ := hrun
  cases hok : ntSuccess status with
  | true =>
    have hset := DsHvm.setLaunched_owned
      (s := s.withGuests (startedGuests smp startVcpu (s.guestBlocks hvm) s.guest)) true h.owns
      hself
    simp only [hset, if_true]
    refine ⟨_, status, rfl, hok ▸ hiff, fun _ => ⟨⟨h.gHvm, ?_, ?_, ?_, ?_⟩, fun p hp hnil => ?_⟩,
      fun hfail => absurd (hok.symm.trans hfail) (by decide)⟩
    · rw [DsHvm.withHvms_hvm, Function.update_self]
    · exact h.owns.of_eq (congrArg (_ + ·) (hvmBlocks_setLaunched smp.count _ hvm true).symm)
    · intro p b hb
      obtain ⟨hp, hblock⟩ := mem_startedGuests (hguest p)
        (show b ∈ startedGuests smp startVcpu (s.guestBlocks hvm) s.guest p from hb)
      have hsame := hvmBlocks_setLaunched smp.count
        (s.withGuests (startedGuests smp startVcpu (s.guestBlocks hvm) s.guest)) hvm true
      rw [hsame]
      exact hblocks p hp b hblock
    · intro p hp
      refine List.eq_nil_iff_forall_not_mem.mpr fun b hb => ?_
      have hlt := (mem_startedGuests (hguest p)
        (show b ∈ startedGuests smp startVcpu (s.guestBlocks hvm) s.guest p from hb)).1
      omega
    · exact (startedGuests_eq_nil_iff (List.cons_ne_nil _ _) (hguest p)).mp hnil
        ⟨hp, hiff.mp hok p hp⟩
  | false =>
    exact ⟨_, status, if_neg (by decide), hok ▸ hiff,
      fun hsucc => absurd (hok.symm.trans hsucc) (by decide), fun _ => rfl⟩

/-- **What a load does.** It launches the HVM if everything is allocated and every
processor starts. Otherwise nothing is left but the guests that did start. -/
theorem dsLoadHvm_cases (smp : Smp) (o : LoadOutcome) (h : Unloaded s)
    (hguest : ∀ p, s.guest p = []) :
    (o.allocates smp.count = true ∧ (∀ p < smp.count, o.startVcpu p = none) ∧
      ntSuccess (dsLoadHvm smp o s).1 = true ∧
      ∃ hvm, Loaded smp.count hvm (dsLoadHvm smp o s).2 ∧
        ∀ p < smp.count, (dsLoadHvm smp o s).2.guest p ≠ []) ∨
    (¬ (o.allocates smp.count = true ∧ ∀ p < smp.count, o.startVcpu p = none) ∧
      ntSuccess (dsLoadHvm smp o s).1 = false ∧
      Unloaded (dsLoadHvm smp o s).2 ∧
      ∀ p, (dsLoadHvm smp o s).2.guest p = [] ↔
        ¬ (o.allocates smp.count = true ∧ p < smp.count ∧ o.startVcpu p = none)) := by
  obtain ⟨s₁, status, hrun, hstatus, hsame, hbuilt, hgone⟩ := dsInitializeHvm_owns smp o h
  rw [← hstatus]
  cases hok : ntSuccess status with
  | false =>
    have hload : dsLoadHvm smp o s = (status, s₁) := by
      unfold dsLoadHvm
      rw [hrun]
      simp only [hok]
    rw [hload]
    refine Or.inr ⟨fun hall => absurd hall.1 (by decide), hok, hgone hok, fun p => ?_⟩
    refine iff_of_true ?_ (fun hall => absurd hall.1 (by decide))
    show s₁.guest p = []
    rw [hsame, hguest p]
  | true =>
    obtain ⟨hvm, hb⟩ := hbuilt hok
    have hguest₁ : ∀ p, s₁.guest p = [] := fun p => by rw [hsame, hguest p]
    obtain ⟨s₂, status', hrun', hiff, hlaunched, hleft⟩ :=
      hvmStart_owns smp o.startVcpu hb hguest₁
    have hload : dsLoadHvm smp o s = if ntSuccess status' then (status', s₂)
        else (status', dsFinalizeHvm smp (hvmStop smp o.stopVcpu hvm s₂).2) := by
      unfold dsLoadHvm
      rw [hrun]
      simp only [hok, hb.gHvm, hrun']
    cases hok' : ntSuccess status' with
    | true =>
      rw [hload, if_pos hok']
      exact Or.inl ⟨rfl, hiff.mp hok', hok', hvm, hlaunched hok'⟩
    | false =>
      obtain rfl := hleft hok'
      have hself : hvm ∈ contextBlocks smp.count s₁ + hvmBlocks smp.count s₁.memory hvm :=
        Multiset.mem_add.mpr (Or.inr (mem_hvmBlocks_self smp.count s₁.memory hvm))
      have hstop := hvmStop_of_not_launched (s := s₁.withGuests
        (startedGuests smp o.startVcpu (s₁.guestBlocks hvm) s₁.guest)) smp o.stopVcpu hb.owns
        hself hb.launched
      obtain ⟨hunloaded, hkept⟩ := dsFinalizeHvm_owns (s := s₁.withGuests
        (startedGuests smp o.startVcpu (s₁.guestBlocks hvm) s₁.guest)) smp hb.gHvm hb.owns
      rw [hload, if_neg (by rw [hok']; decide), hstop]
      refine Or.inr ⟨fun hall => absurd (hok'.symm.trans (hiff.mpr hall.2)) (by decide),
        hok', hunloaded, fun p => ?_⟩
      show (dsFinalizeHvm smp (s₁.withGuests (startedGuests smp o.startVcpu
        (s₁.guestBlocks hvm) s₁.guest))).guest p = [] ↔ _
      rw [hkept, and_iff_right rfl]
      exact startedGuests_eq_nil_iff (List.cons_ne_nil _ _) (hguest₁ p)

/-! ## Runs of calls -/

theorem Loaded.isLaunched {s : DsHvm} (h : Loaded cpuCount hvm s) : dsIsHvmLaunched s = true := by
  unfold dsIsHvmLaunched
  rw [h.gHvm]
  exact h.launched

theorem settled_unloaded (cpuCount : Nat) (memory : Memory) :
    Settled cpuCount (.unloaded memory) :=
  Or.inl ⟨⟨rfl, rfl, rfl, Ledger.owns_empty⟩, fun _ => rfl⟩

/-- Between calls the HVM is launched or there is none. -/
theorem Settled.of_not_launched {s : DsHvm} (h : Settled cpuCount s)
    (hnot : dsIsHvmLaunched s = false) : Unloaded s ∧ ∀ p, s.guest p = [] := by
  rcases h with hun | ⟨hvm, hload⟩
  · exact hun
  · exact absurd (hnot.symm.trans hload.isLaunched) (by decide)

theorem Settled.of_launched {s : DsHvm} (h : Settled cpuCount s)
    (hlaunched : dsIsHvmLaunched s = true) : ∃ hvm, Loaded cpuCount hvm s := by
  rcases h with ⟨hun, _⟩ | hload
  · unfold dsIsHvmLaunched at hlaunched
    rw [hun.gHvm] at hlaunched
    exact absurd hlaunched Bool.false_ne_true
  · exact hload

theorem callStep_load {s s' : DsHvm} {smp : Smp} {o : LoadOutcome}
    (hstep : callStep cpuCount s (.load smp o) = some s') :
    smp.count = cpuCount ∧ dsIsHvmLaunched s = false ∧ (dsLoadHvm smp o s).2 = s' := by
  obtain ⟨henabled, hs'⟩ := Option.ite_none_right_eq_some.mp hstep
  exact ⟨henabled.1, henabled.2, Option.some.inj hs'⟩

theorem callStep_unload {s s' : DsHvm} {smp : Smp} {stopVcpu : Nat → Option NtFailure}
    (hstep : callStep cpuCount s (.unload smp stopVcpu) = some s') :
    smp.count = cpuCount ∧ dsIsHvmLaunched s = true ∧ (dsUnloadHvm smp stopVcpu s).2 = s' := by
  obtain ⟨henabled, hs'⟩ := Option.ite_none_right_eq_some.mp hstep
  exact ⟨henabled.1, henabled.2, Option.some.inj hs'⟩

/-- **A call** whose processors start together leads to where a call starts. -/
theorem callStep_settled {s s' : DsHvm} {call : Call} (h : Settled cpuCount s)
    (hguard : call.StartsTogether cpuCount) (hstep : callStep cpuCount s call = some s') :
    Settled cpuCount s' := by
  cases call with
  | load smp o =>
    obtain ⟨rfl, hnot, rfl⟩ := callStep_load hstep
    obtain ⟨hun, hguest⟩ := h.of_not_launched hnot
    rcases dsLoadHvm_cases smp o hun hguest with
      ⟨_, _, _, hvm, hload, _⟩ | ⟨hfail, _, hun', hguest'⟩
    · exact Or.inr ⟨hvm, hload⟩
    · refine Or.inl ⟨hun', fun p => (hguest' p).mpr fun hstarted => ?_⟩
      obtain ⟨hall, hp, hstart⟩ := hstarted
      rcases hguard hall with htogether | hnone
      · exact hfail ⟨hall, htogether⟩
      · exact hnone p hp hstart
  | unload smp stopVcpu =>
    obtain ⟨rfl, hlaunched, rfl⟩ := callStep_unload hstep
    obtain ⟨hvm, hload⟩ := h.of_launched hlaunched
    rcases dsUnloadHvm_cases smp stopVcpu hload with ⟨_, _, hstopped⟩ | ⟨_, _, hload'⟩
    · exact Or.inl hstopped
    · exact Or.inr ⟨hvm, hload'⟩

/-- **Any other call** frees the blocks that a guest runs on. -/
theorem callStep_not_accounted {s s' : DsHvm} {call : Call} (h : Settled cpuCount s)
    (hguard : ¬ call.StartsTogether cpuCount) (hstep : callStep cpuCount s call = some s') :
    ¬ Accounted s' := by
  cases call with
  | unload smp stopVcpu => exact absurd trivial hguard
  | load smp o =>
    obtain ⟨rfl, hnot, rfl⟩ := callStep_load hstep
    obtain ⟨hun, hguest⟩ := h.of_not_launched hnot
    unfold Call.StartsTogether at hguard
    push Not at hguard
    obtain ⟨hall, ⟨q, hq, hfailed⟩, p, hp, hstart⟩ := hguard
    rcases dsLoadHvm_cases smp o hun hguest with ⟨_, htogether, _⟩ | ⟨_, _, hun', hguest'⟩
    · exact absurd (htogether q hq) hfailed
    · intro haccounted
      have hstarted : (dsLoadHvm smp o s).2.guest p ≠ [] :=
        fun hnil => (hguest' p).mp hnil ⟨hall, hp, hstart⟩
      obtain ⟨b, hb⟩ := List.exists_mem_of_ne_nil _ hstarted
      exact hun'.owns.not_live b (haccounted.guestsLive p b hb)

/-- **Loading and unloading account for every block exactly if the processors
start together**: along a run of loads while not launched and unloads while
launched, whatever fails on the way, once the HVM is gone no block is left and
each was freed once, none is touched that is not live, and no processor runs on
a freed one, if and only if no load that comes to starting the processors starts
some of them and fails to start others. -/
theorem loadUnload_accounted_iff (cpuCount : Nat) (memory : Memory) (calls : List Call) :
    Always (callStep cpuCount) Accounted (.unloaded memory) calls ↔
      Guarded (callStep cpuCount) (fun _ call => call.StartsTogether cpuCount)
        (.unloaded memory) calls :=
  always_iff_guarded (fun h => h.accounted) callStep_settled callStep_not_accounted
    (settled_unloaded cpuCount memory)

/-- Of two processors the second fails to start, and the first is left running on
what the roll-back freed. -/
theorem not_accounted_secondFails :
    ¬ Always (callStep 2) Accounted
      (.unloaded
        { hvm := fun _ => .zero
          vcpu := fun _ _ => .zero
          hvmContext := fun _ => .zero
          vcpuContext := fun _ _ => .zero })
      [.load ⟨2, 0, [0, 1], by decide, by decide⟩
        { vmxVerifySupport := true
          memAlloc := fun _ => true
          startVcpu := fun p => if p = 1 then some ⟨statusUnsuccessful, by decide⟩ else none
          stopVcpu := fun _ => none }] := by
  intro h
  have haccounted := h.2 _ rfl
  exact absurd (haccounted.guestsLive 0 0 (by decide)) (by decide)

end DeepShield.Load
