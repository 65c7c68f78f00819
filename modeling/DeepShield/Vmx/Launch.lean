import DeepShield.Os.Smp

/-!
# Launching the hypervisor on every processor

`DsLoadHvm` of `dshvm.c` over `HvmStart` and `HvmStop` of `hvm_launch.c`:
allocate, start every processor, and on a failure stop them again and free what
was allocated. Whether an allocation succeeds and whether a processor enters
guest mode are inputs (`LaunchOutcome`).

`HvmStart` records the launch in `Hvm->Launched` only if *every* processor
started, and `HvmStop` begins with a test of that flag. The roll-back of a
partial failure is therefore a call that returns at its gate
(`hvmStop_of_not_launched`): the processors that did start keep running as
guests while `DsFinalizeHvm` frees the memory under them.
`dsLoadHvm_allOrNothing_iff` says exactly which outcomes are affected.
-/

namespace DeepShield.Vmx

open DeepShield.Os

/-- `HVM`, as far as launching it goes. -/
structure Hvm where
  launched : Bool
deriving Repr, DecidableEq

/-- The globals of `dshvm.c` and the mode each processor is in. `vmcallFault`
records a `vmcall` executed by a processor that is not a guest. -/
structure DsHvm where
  gHvm : Option Hvm
  contexts : Bool
  guest : Nat → Bool
  vmcallFault : Bool

/-- Nothing allocated, no processor virtualised. -/
def DsHvm.unloaded : DsHvm :=
  { gHvm := none, contexts := false, guest := fun _ => false, vmcallFault := false }

/-- How the calls out of `DsLoadHvm` turn out: the failure of `HvmInitialize`,
of `DsInitializeHvmContexts` and of each processor's launch, if there is one. -/
structure LaunchOutcome where
  hvmInitialize : Option NtFailure
  initializeHvmContexts : Option NtFailure
  startVcpu : Nat → Option NtFailure

/-- The status a call returns. -/
def statusOf : Option NtFailure → NtStatus
  | none => statusSuccess
  | some status => status

theorem statusOf_eq_success_iff {failure : Option NtFailure} :
    statusOf failure = statusSuccess ↔ failure = none := by
  cases failure with
  | none => exact ⟨fun _ => rfl, fun _ => rfl⟩
  | some status =>
    constructor
    · intro h
      have hfail := status.2
      rw [show status.1 = statusSuccess from h, ntSuccess_statusSuccess] at hfail
      exact absurd hfail (by decide)
    · intro h
      exact absurd h (by simp)

/-- A call either returns `STATUS_SUCCESS` or no success at all. -/
theorem ntSuccess_statusOf_iff {failure : Option NtFailure} :
    ntSuccess (statusOf failure) = true ↔ failure = none := by
  cases failure with
  | none => simp [statusOf]
  | some status => simp [statusOf, status.2]

/-! ## Starting and stopping -/

/-- `HvmpStartVcpu` on a processor whose launch turns out as `startVcpu` says. -/
def hvmpStartVcpu (startVcpu : Nat → Option NtFailure) : ProcessorCallback DsHvm :=
  fun vcpuId s =>
    (statusOf (startVcpu vcpuId),
      if startVcpu vcpuId = none then
        { s with guest := fun p => if p = vcpuId then true else s.guest p }
      else s)

/-- `HvmpStopVcpu`: the hypercall takes the processor out of guest mode. -/
def hvmpStopVcpu : ProcessorCallback DsHvm :=
  fun vcpuId s =>
    (statusSuccess,
      { s with
        guest := fun p => if p = vcpuId then false else s.guest p
        vmcallFault := s.vmcallFault || !s.guest vcpuId })

/-- `AtomicWrite( &Hvm->Launched, … )` for the `HVM` behind `gHvm`. -/
def DsHvm.setLaunched (s : DsHvm) (launched : Bool) : DsHvm :=
  { s with gHvm := s.gHvm.map fun hvm => { hvm with launched := launched } }

/-- `HvmStart`. -/
def hvmStart (smp : Smp) (startVcpu : Nat → Option NtFailure) (hvm : Hvm) (s : DsHvm) :
    NtStatus × DsHvm :=
  if hvm.launched = true then (statusUnsuccessful, s)
  else
    let result := smpRunPerProcessor smp (hvmpStartVcpu startVcpu) s
    if ntSuccess result.1 then (result.1, result.2.setLaunched true) else result

/-- `HvmStop`. -/
def hvmStop (smp : Smp) (hvm : Hvm) (s : DsHvm) : NtStatus × DsHvm :=
  if hvm.launched = false then (statusUnsuccessful, s)
  else
    let result := smpRunPerProcessor smp hvmpStopVcpu s
    if ntSuccess result.1 then (result.1, result.2.setLaunched false) else result

/-! ## Loading -/

/-- `DsInitializeHvm`: a failure on the way frees what was allocated before it. -/
def dsInitializeHvm (o : LaunchOutcome) (s : DsHvm) : NtStatus × DsHvm :=
  match o.hvmInitialize with
  | some status => (status, s)
  | none =>
    match o.initializeHvmContexts with
    | some status => (status, { s with contexts := false })
    | none => (statusSuccess, { s with gHvm := some ⟨false⟩, contexts := true })

/-- `DsFinalizeHvm`: the VCPUs, their VMCSs and stacks and the contexts are
freed. -/
def dsFinalizeHvm (s : DsHvm) : DsHvm := { s with gHvm := none, contexts := false }

/-- `DsLoadHvm`. -/
def dsLoadHvm (smp : Smp) (o : LaunchOutcome) (s : DsHvm) : NtStatus × DsHvm :=
  let (status, s) := dsInitializeHvm o s
  match ntSuccess status, s.gHvm with
  | true, some hvm =>
    let (status, s) := hvmStart smp o.startVcpu hvm s
    if ntSuccess status then (status, s)
    else
      let (_, s) := hvmStop smp (s.gHvm.getD hvm) s
      (status, dsFinalizeHvm s)
  | _, _ => (status, s)

/-- After a success every processor is a guest, after a failure none is. -/
def AllOrNothing (smp : Smp) (result : NtStatus × DsHvm) : Prop :=
  if ntSuccess result.1 = true then ∀ p < smp.count, result.2.guest p = true
  else ∀ p < smp.count, result.2.guest p = false

/-! ## Which processors are guests -/

/-- The roll-back of a launch that was never recorded does nothing. -/
theorem hvmStop_of_not_launched (smp : Smp) {hvm : Hvm} (s : DsHvm)
    (h : hvm.launched = false) : hvmStop smp hvm s = (statusUnsuccessful, s) := if_pos h

/-- Starting the processors of a list makes guests of those whose launch
succeeds, and touches nothing else. -/
theorem foldl_hvmpStartVcpu (startVcpu : Nat → Option NtFailure) (order : List Nat)
    (s : DsHvm) :
    order.foldl (fun s p => (hvmpStartVcpu startVcpu p s).2) s =
      { s with
        guest := fun p => if p ∈ order ∧ startVcpu p = none then true else s.guest p } := by
  induction order generalizing s with
  | nil => simp
  | cons q order ih =>
    rw [List.foldl_cons, ih]
    by_cases hq : startVcpu q = none
    · simp only [hvmpStartVcpu, if_pos hq, List.mem_cons]
      congr 1
      funext p
      by_cases hpq : p = q
      · simp [hpq, hq]
      · simp [hpq]
    · simp only [hvmpStartVcpu, if_neg hq, List.mem_cons]
      congr 1
      funext p
      by_cases hpq : p = q
      · simp [hpq, hq]
      · simp [hpq]

/-- The state once the processors of the machine were started. -/
def DsHvm.started (s : DsHvm) (smp : Smp) (startVcpu : Nat → Option NtFailure) : DsHvm :=
  { s with
    guest := fun p => if p < smp.count ∧ startVcpu p = none then true else s.guest p }

theorem DsHvm.started_guest {s : DsHvm} {smp : Smp} {startVcpu : Nat → Option NtFailure}
    (h : ∀ p, s.guest p = false) (p : Nat) :
    (s.started smp startVcpu).guest p = true ↔ p < smp.count ∧ startVcpu p = none := by
  unfold started
  simp only [h p]
  by_cases hstarts : p < smp.count ∧ startVcpu p = none
  · rw [if_pos hstarts]
    exact iff_of_true rfl hstarts
  · rw [if_neg hstarts]
    exact iff_of_false (by decide) hstarts

theorem smpRun_hvmpStartVcpu_snd (smp : Smp) (startVcpu : Nat → Option NtFailure) (s : DsHvm) :
    (smpRunPerProcessor smp (hvmpStartVcpu startVcpu) s).2 = s.started smp startVcpu := by
  rw [smpRunPerProcessor_snd, foldl_hvmpStartVcpu]
  simp only [smp.mem_order, DsHvm.started]

/-- Stopping the processors leaves no guest among them. -/
theorem smpRun_hvmpStopVcpu_guest (smp : Smp) (s : DsHvm) (p : Nat) :
    (smpRunPerProcessor smp hvmpStopVcpu s).2.guest p
      = if p < smp.count then false else s.guest p := by
  have hlist : ∀ (order : List Nat) (s : DsHvm),
      (order.foldl (fun s p => (hvmpStopVcpu p s).2) s).guest p
        = if p ∈ order then false else s.guest p := by
    intro order
    induction order with
    | nil => exact fun s => (if_neg List.not_mem_nil).symm
    | cons q order ih =>
      intro s
      rw [List.foldl_cons, ih]
      by_cases hpq : p = q
      · simp [hvmpStopVcpu, hpq]
      · simp [hvmpStopVcpu, hpq]
  rw [smpRunPerProcessor_snd, hlist]
  exact if_congr smp.mem_order rfl rfl

/-- Starting succeeds exactly if every processor does. -/
theorem smpRun_hvmpStartVcpu_success_iff (smp : Smp) (startVcpu : Nat → Option NtFailure)
    (s : DsHvm) :
    ntSuccess (smpRunPerProcessor smp (hvmpStartVcpu startVcpu) s).1 = true ↔
      ∀ p < smp.count, startVcpu p = none := by
  have hstatus : ∀ p s, (hvmpStartVcpu startVcpu p s).1 = statusOf (startVcpu p) :=
    fun _ _ => rfl
  have hfail : ∀ p, ntSuccess (statusOf (startVcpu p)) = true →
      statusOf (startVcpu p) = statusSuccess := by
    intro p hsucc
    rw [statusOf_eq_success_iff]
    exact ntSuccess_statusOf_iff.mp hsucc
  rw [smpRunPerProcessor_ntSuccess_iff hstatus hfail]
  simp only [statusOf_eq_success_iff]

/-- A complete start is recorded. -/
theorem hvmStart_of_all {smp : Smp} {startVcpu : Nat → Option NtFailure} (s : DsHvm)
    (h : ∀ p < smp.count, startVcpu p = none) :
    ntSuccess (hvmStart smp startVcpu ⟨false⟩ s).1 = true ∧
      (hvmStart smp startVcpu ⟨false⟩ s).2 = (s.started smp startVcpu).setLaunched true := by
  have hsucc := (smpRun_hvmpStartVcpu_success_iff smp startVcpu s).mpr h
  have hstart : hvmStart smp startVcpu ⟨false⟩ s
      = ((smpRunPerProcessor smp (hvmpStartVcpu startVcpu) s).1,
        (smpRunPerProcessor smp (hvmpStartVcpu startVcpu) s).2.setLaunched true) := if_pos hsucc
  rw [hstart, smpRun_hvmpStartVcpu_snd]
  exact ⟨hsucc, rfl⟩

/-- A partial start is not, and the processors that started stay guests. -/
theorem hvmStart_of_not_all {smp : Smp} {startVcpu : Nat → Option NtFailure} (s : DsHvm)
    (h : ¬ ∀ p < smp.count, startVcpu p = none) :
    ntSuccess (hvmStart smp startVcpu ⟨false⟩ s).1 = false ∧
      (hvmStart smp startVcpu ⟨false⟩ s).2 = s.started smp startVcpu := by
  have hfail := mt (smpRun_hvmpStartVcpu_success_iff smp startVcpu s).mp h
  have hstart : hvmStart smp startVcpu ⟨false⟩ s
      = smpRunPerProcessor smp (hvmpStartVcpu startVcpu) s := if_neg hfail
  rw [hstart, smpRun_hvmpStartVcpu_snd]
  exact ⟨eq_false_of_ne_true hfail, rfl⟩

/-- **`DsLoadHvm`, once the allocations succeeded.** It succeeds exactly if
every processor starts, and either way the processors that started stay
guests. -/
theorem dsLoadHvm_of_initialized (smp : Smp) {o : LaunchOutcome} {s : DsHvm}
    (hinit : o.hvmInitialize = none) (hctx : o.initializeHvmContexts = none)
    (hnone : ∀ p, s.guest p = false) :
    (ntSuccess (dsLoadHvm smp o s).1 = true ↔ ∀ p < smp.count, o.startVcpu p = none) ∧
      ∀ p, (dsLoadHvm smp o s).2.guest p = true ↔ p < smp.count ∧ o.startVcpu p = none := by
  have hinited : dsInitializeHvm o s
      = (statusSuccess, { s with gHvm := some ⟨false⟩, contexts := true }) := by
    unfold dsInitializeHvm
    simp only [hinit, hctx]
  have hguest : ∀ p, (({ s with gHvm := some ⟨false⟩, contexts := true } : DsHvm).started smp
      o.startVcpu).guest p = true ↔ p < smp.count ∧ o.startVcpu p = none :=
    DsHvm.started_guest hnone
  unfold dsLoadHvm
  simp only [hinited, ntSuccess_statusSuccess]
  by_cases hall : ∀ p < smp.count, o.startVcpu p = none
  · obtain ⟨hsucc, hstate⟩ := hvmStart_of_all
      { s with gHvm := some ⟨false⟩, contexts := true } hall
    rw [if_pos hsucc, hstate]
    exact ⟨iff_of_true hsucc hall, hguest⟩
  · obtain ⟨hfail, hstate⟩ := hvmStart_of_not_all
      { s with gHvm := some ⟨false⟩, contexts := true } hall
    rw [if_neg (by rw [hfail]; decide), hstate]
    -- the launch was not recorded, so stopping returns at once
    rw [hvmStop_of_not_launched smp _ (by rfl)]
    exact ⟨iff_of_false (by rw [hfail]; decide) hall, hguest⟩

/-- A failed allocation launches nothing. -/
theorem dsLoadHvm_of_not_initialized (smp : Smp) {o : LaunchOutcome} (s : DsHvm)
    (h : o.hvmInitialize ≠ none ∨ o.initializeHvmContexts ≠ none) :
    ntSuccess (dsLoadHvm smp o s).1 = false ∧ (dsLoadHvm smp o s).2.guest = s.guest := by
  unfold dsLoadHvm dsInitializeHvm
  cases hinit : o.hvmInitialize with
  | some status =>
    simp only [status.2]
    exact ⟨trivial, trivial⟩
  | none =>
    cases hctx : o.initializeHvmContexts with
    | some status =>
      simp only [status.2]
      exact ⟨trivial, trivial⟩
    | none => exact absurd h (by simp [hinit, hctx])

/-- **Launching is all or nothing exactly if an allocation fails, every
processor starts, or none does.** -/
theorem dsLoadHvm_allOrNothing_iff (smp : Smp) (o : LaunchOutcome) :
    AllOrNothing smp (dsLoadHvm smp o .unloaded) ↔
      (o.hvmInitialize ≠ none ∨ o.initializeHvmContexts ≠ none) ∨
        (∀ p < smp.count, o.startVcpu p = none) ∨
        (∀ p < smp.count, o.startVcpu p ≠ none) := by
  by_cases hinit : o.hvmInitialize ≠ none ∨ o.initializeHvmContexts ≠ none
  · obtain ⟨hfail, hguest⟩ := dsLoadHvm_of_not_initialized smp .unloaded hinit
    refine iff_of_true ?_ (Or.inl hinit)
    unfold AllOrNothing
    rw [hfail, hguest, if_neg (by decide)]
    exact fun _ _ => rfl
  · rw [or_iff_right hinit]
    obtain ⟨hinit', hctx'⟩ : o.hvmInitialize = none ∧ o.initializeHvmContexts = none := by
      simpa using hinit
    obtain ⟨hsucc, hguest⟩ := @dsLoadHvm_of_initialized smp _ .unloaded hinit' hctx' fun _ => rfl
    unfold AllOrNothing
    by_cases hall : ∀ p < smp.count, o.startVcpu p = none
    · rw [if_pos (hsucc.mpr hall)]
      refine iff_of_true ?_ (Or.inl hall)
      intro p hp
      exact (hguest p).mpr ⟨hp, hall p hp⟩
    · rw [if_neg (mt hsucc.mp hall), or_iff_right hall]
      refine forall₂_congr fun p hp => ?_
      rw [← Bool.not_eq_true, hguest p, and_iff_right hp]

/-- Of two processors the second fails to start: `DsLoadHvm` fails, and the
first is still a guest. -/
theorem not_allOrNothing_secondFails :
    ¬ AllOrNothing ⟨2, 0, [0, 1], by decide, by decide⟩
      (dsLoadHvm ⟨2, 0, [0, 1], by decide, by decide⟩
        { hvmInitialize := none
          initializeHvmContexts := none
          startVcpu := fun p => if p = 1 then some ⟨statusUnsuccessful, by decide⟩ else none }
        .unloaded) := by
  intro h
  exact absurd (h 0 (by decide)) (by decide)

end DeepShield.Vmx
