import DeepShield.Mmu.Setup
import DeepShield.Shield.Control

/-!
# From `DriverEntry` to `HvmStart`

The exit handlers read guest memory through the mapping slots, so the hypervisor must not
run without them. `DriverEntry` sets them up with `DsInitializeShield`, which is
`MmuInitialize`, and remembers a success in `DSH_GFL_SHIELD_INITIALIZED`. If it fails, the
driver is loaded all the same, and neither controller looks at the flag before it starts
the shield.

`startsMapped_iff`: the hypervisor is only started with all slots in place exactly if
everything `MmuInitialize` asks for could be had, or it is not started at all. Where an event
gets as far as `HvmStart` is `ReachesHvmStart`; `running_iff_reaches` ties it to what the
driver does.
-/

namespace DeepShield.Shield

open DeepShield.Lib DeepShield.Mmu DeepShield.Os DeepShield.Vmx

/-! ## Loading the driver -/

/-- How the calls of `DriverEntry` turn out. -/
structure DriverAnswers where
  dsInitializeNonPagedPoolList : Option NtFailure
  rtlMailboxInitialize : Option NtFailure
  dsCloneUnicodeString : Option NtFailure
  ioCreateDeviceSecure : Option NtFailure
  ioCreateSymbolicLink : Option NtFailure
  dsRegisterPowerChangeCallback : Bool
  pmInitializeProcessMonitor : Option NtFailure
  mmu : MmuAnswers

/-- The driver: whether `DriverEntry` succeeded, the flags of `gStateFlags` it sets,
`gMmu.MmuArray`, and the shield. -/
structure Driver where
  loaded : Bool
  powerRegistered : Bool
  procmonStarted : Bool
  shieldInitialized : Bool
  mmuArray : Option MmuArray
  shield : ShieldState

/-- Before `DriverEntry`. -/
def Driver.initial : Driver := ⟨false, false, false, false, none, .initial⟩

/-- `DsInitializeShield`. -/
def dsInitializeShield (answers : MmuAnswers) (processorCount : Nat) :
    NtStatus × Option MmuArray :=
  mmuInitialize answers processorCount

/-- `DriverEntry` up to its `RoutineExit`, from the mailbox on. -/
def driverEntryBody (answers : DriverAnswers) (processorCount : Nat) (s : Driver) :
    NtStatus × Driver :=
  match answers.rtlMailboxInitialize, answers.dsCloneUnicodeString, answers.ioCreateDeviceSecure,
    answers.ioCreateSymbolicLink with
  | some status, _, _, _ | none, some status, _, _ | none, none, some status, _
  | none, none, none, some status => (status, s)
  | none, none, none, none =>
    let s := { s with powerRegistered := answers.dsRegisterPowerChangeCallback }
    match answers.pmInitializeProcessMonitor with
    | some status => (status, s)
    | none =>
      let (status, mmuArray) := dsInitializeShield answers.mmu processorCount
      let s := { s with
        procmonStarted := true
        mmuArray := mmuArray }
      -- a failure of DsInitializeShield is replaced by STATUS_SUCCESS
      if ntSuccess status = false then (statusSuccess, s)
      else (status, { s with shieldInitialized := true })

/-- Its `RoutineExit`. -/
def routineExit (status : NtStatus) (s : Driver) : Driver :=
  if ntSuccess status = false then
    { s with
      mmuArray := if s.shieldInitialized then none else s.mmuArray
      shieldInitialized := false
      procmonStarted := false
      powerRegistered := false }
  else { s with loaded := true }

/-- `DriverEntry`. -/
def driverEntry (answers : DriverAnswers) (processorCount : Nat) : NtStatus × Driver :=
  match answers.dsInitializeNonPagedPoolList with
  | some status => (status, .initial)
  | none =>
    let (status, s) := driverEntryBody answers processorCount .initial
    (status, routineExit status s)

/-! ## Requests and callbacks -/

/-- A request that reaches the device, or a callback that is registered. -/
def driverStep (smp : Smp) (vmxAbsent : Bool) (s : Driver) : ShieldEvent → Option Driver
  | .control o request =>
    if s.loaded then
      some { s with shield := (dsCtlShieldControl smp vmxAbsent o request s.shield).2 }
    else none
  | .power o powerStateEvent eventSpecifics =>
    if s.loaded ∧ s.powerRegistered then
      some { s with
        shield := dsPowerChangeCallback smp o powerStateEvent eventSpecifics s.shield }
    else none

/-- `DsInitializeHvm` succeeds, and `DsLoadHvm` goes on to `HvmStart`. -/
def LoadReaches (o : LaunchOutcome) (s : DsHvm) : Prop :=
  ntSuccess (dsInitializeHvm o s).1 = true

instance (o : LaunchOutcome) (s : DsHvm) : Decidable (LoadReaches o s) :=
  inferInstanceAs (Decidable (_ = _))

/-- The event gets as far as `HvmStart`. -/
def ReachesHvmStart (vmxAbsent : Bool) (s : Driver) : ShieldEvent → Prop
  | .control o request =>
    s.loaded = true ∧ vmxAbsent = false ∧
      ¬ max request.inputLength request.outputLength < shieldControlDataSize ∧
      request.action = shieldStart ∧ dsIsShieldRunning s.shield = false ∧
      LoadReaches o.start s.shield.hvm
  | .power o powerStateEvent eventSpecifics =>
    (s.loaded = true ∧ s.powerRegistered = true) ∧ powerStateEvent = poCbSystemStateLock ∧
      eventSpecifics = 1 ∧ (dsIsShieldRunning s.shield = false ∧ s.shield.suspended = true) ∧
      LoadReaches o.start s.shield.hvm

/-- How the processors answer to it. -/
def ShieldEvent.outcome : ShieldEvent → ShieldOutcome
  | .control o _ | .power o _ _ => o

/-- If it does, the array is there and all its slots are initialised. -/
def StartsMapped (smp : Smp) (vmxAbsent : Bool) (s : Driver) (event : ShieldEvent) : Prop :=
  ReachesHvmStart vmxAbsent s event →
    ∃ array, s.mmuArray = some array ∧ SlotsReady smp.count array

section Reach

variable {smp : Smp} {vmxAbsent : Bool} {s s' : Driver}

/-- Loading that does not reach `HvmStart` fails, and leaves `gHvm` as it is. -/
theorem dsLoadHvm_not_reached {o : LaunchOutcome} {hvm : DsHvm} (h : ¬ LoadReaches o hvm) :
    ntSuccess (dsLoadHvm smp o hvm).1 = false ∧ (dsLoadHvm smp o hvm).2.gHvm = hvm.gHvm := by
  unfold LoadReaches at h
  unfold dsLoadHvm dsInitializeHvm at *
  cases hinit : o.hvmInitialize with
  | some status =>
    simp only [status.2]
    exact ⟨trivial, trivial⟩
  | none =>
    cases hctx : o.initializeHvmContexts with
    | some status =>
      simp only [status.2]
      exact ⟨trivial, trivial⟩
    | none =>
      rw [hinit, hctx] at h
      exact absurd ntSuccess_statusSuccess h

/-- So does starting the shield. -/
theorem dsStartShield_not_reached {o : LaunchOutcome} {shield : ShieldState}
    (h : ¬ LoadReaches o shield.hvm) (hstopped : dsIsShieldRunning shield = false) :
    ntSuccess (dsStartShield smp o shield).1 = false ∧
      dsIsShieldRunning (dsStartShield smp o shield).2 = false := by
  obtain ⟨hfailed, hgHvm⟩ := @dsLoadHvm_not_reached smp o shield.hvm h
  refine ⟨hfailed, ?_⟩
  unfold dsIsShieldRunning dsStartShield at *
  simp only [hgHvm]
  exact hstopped

/-- **Nothing else starts the shield**: it is not running after an event that does not get
to `HvmStart`, if it was not before. -/
theorem stopped_of_not_reaches {event : ShieldEvent}
    (hstep : driverStep smp vmxAbsent s event = some s')
    (hstopped : dsIsShieldRunning s.shield = false)
    (hnot : ¬ ReachesHvmStart vmxAbsent s event) : dsIsShieldRunning s'.shield = false := by
  cases event with
  | control o request =>
    simp only [driverStep] at hstep
    split at hstep
    next hloaded =>
      obtain rfl := Option.some.inj hstep
      show dsIsShieldRunning (dsCtlShieldControl smp vmxAbsent o request s.shield).2 = false
      unfold dsCtlShieldControl
      by_cases habsent : vmxAbsent = true
      · rw [if_pos habsent]
        exact hstopped
      · rw [if_neg habsent]
        by_cases hshort : max request.inputLength request.outputLength < shieldControlDataSize
        · rw [if_pos hshort]
          exact hstopped
        · rw [if_neg hshort]
          show dsIsShieldRunning (controlAction smp o request.action s.shield).2.2 = false
          unfold controlAction
          by_cases hstart : request.action = shieldStart
          · have hload : ¬ LoadReaches o.start s.shield.hvm := fun hload =>
              hnot ⟨hloaded, by simpa using habsent, hshort, hstart, hstopped, hload⟩
            obtain ⟨hfailed, hstill⟩ := @dsStartShield_not_reached smp _ _ hload hstopped
            rw [if_pos hstart, if_neg (by rw [hstopped]; decide)]
            simp only [hfailed]
            exact hstill
          · rw [if_neg hstart]
            by_cases hstop : request.action = shieldStop
            · rw [if_pos hstop, if_pos hstopped]
              exact hstopped
            · rw [if_neg hstop]
              exact hstopped
    next => exact absurd hstep (by simp)
  | power o powerStateEvent eventSpecifics =>
    simp only [driverStep] at hstep
    split at hstep
    next hregistered =>
      obtain rfl := Option.some.inj hstep
      show dsIsShieldRunning (dsPowerChangeCallback smp o powerStateEvent eventSpecifics s.shield)
        = false
      unfold dsPowerChangeCallback
      by_cases hlock : powerStateEvent = poCbSystemStateLock
      · rw [if_neg (not_not_intro hlock)]
        by_cases henter : eventSpecifics = 1
        · rw [if_pos henter]
          by_cases hresume : dsIsShieldRunning s.shield = false ∧ s.shield.suspended = true
          · have hload : ¬ LoadReaches o.start s.shield.hvm := fun hload =>
              hnot ⟨hregistered, hlock, henter, hresume, hload⟩
            obtain ⟨hfailed, hstill⟩ := @dsStartShield_not_reached smp o.start
              { s.shield with suspended := false } hload hstopped
            rw [if_pos hresume]
            simp only [hfailed]
            exact hstill
          · rw [if_neg hresume]
            exact hstopped
        · rw [if_neg henter]
          by_cases hleave : eventSpecifics = 0
          · rw [if_pos hleave, if_neg (by rw [hstopped]; decide)]
            exact hstopped
          · rw [if_neg hleave]
            exact hstopped
      · rw [if_pos hlock]
        exact hstopped
    next => exact absurd hstep (by simp)

/-- **Getting there shows**: where everything can be had and every processor starts, the
shield runs after an event that gets to `HvmStart`. -/
theorem running_of_reaches {event : ShieldEvent} (hlaunched : OnlyLaunched s.shield)
    (hstep : driverStep smp vmxAbsent s event = some s')
    (hreaches : ReachesHvmStart vmxAbsent s event)
    (hlaunches : Launches smp event.outcome.start) : dsIsShieldRunning s'.shield = true := by
  cases event with
  | control o request =>
    obtain ⟨hloaded, hpresent, hlong, hstart, hstopped, -⟩ := hreaches
    have hnone : s.shield.hvm.gHvm = none := by
      rcases hlaunched.running with ⟨hrunning, _⟩ | ⟨_, hnone⟩
      · exact absurd (hstopped.symm.trans hrunning) (by decide)
      · exact hnone
    obtain ⟨hsucc, hgHvm⟩ := (@dsLoadHvm_gHvm smp s.shield.hvm o.start hnone).1 hlaunches
    have hstep' := Option.some.inj ((if_pos hloaded).symm.trans hstep)
    rw [← hstep']
    show dsIsShieldRunning (dsCtlShieldControl smp vmxAbsent o request s.shield).2 = true
    unfold dsCtlShieldControl
    rw [if_neg (by rw [hpresent]; decide), if_neg hlong]
    show dsIsShieldRunning (controlAction smp o request.action s.shield).2.2 = true
    unfold controlAction
    rw [if_pos hstart, if_neg (by rw [hstopped]; decide)]
    simp only [dsStartShield, hsucc, if_true]
    rw [dsIsShieldRunning, hgHvm]
  | power o powerStateEvent eventSpecifics =>
    obtain ⟨hregistered, hevent, henter, ⟨hstopped, hsuspended⟩, -⟩ := hreaches
    have hstep' := Option.some.inj ((if_pos hregistered).symm.trans hstep)
    rw [← hstep']
    exact ((hlaunched.dsPowerChangeCallback o powerStateEvent eventSpecifics).2 hstopped).mpr
      ⟨hevent, henter, hsuspended, hlaunches⟩

/-- The controllers leave no hypervisor that is not launched. -/
theorem driverStep_onlyLaunched {event : ShieldEvent} (hlaunched : OnlyLaunched s.shield)
    (hstep : driverStep smp vmxAbsent s event = some s') : OnlyLaunched s'.shield := by
  cases event with
  | control o request =>
    obtain ⟨-, hstep'⟩ := Option.ite_none_right_eq_some.mp hstep
    rw [← Option.some.inj hstep']
    show OnlyLaunched (dsCtlShieldControl smp vmxAbsent o request s.shield).2
    unfold dsCtlShieldControl
    split
    next => exact hlaunched
    next =>
      split
      next => exact hlaunched
      next =>
        exact (@OnlyLaunched.controlAction smp _ none hlaunched o request.action
          fun hlast => absurd hlast (by simp)).1
  | power o powerStateEvent eventSpecifics =>
    obtain ⟨-, hstep'⟩ := Option.ite_none_right_eq_some.mp hstep
    rw [← Option.some.inj hstep']
    exact (hlaunched.dsPowerChangeCallback o powerStateEvent eventSpecifics).1

/-- An event that happens leaves the array as it is. -/
theorem driverStep_keeps {event : ShieldEvent}
    (hstep : driverStep smp vmxAbsent s event = some s') :
    s'.mmuArray = s.mmuArray ∧ s'.loaded = s.loaded := by
  unfold driverStep at hstep
  cases event with
  | control o request =>
    simp only at hstep
    split at hstep
    next =>
      obtain rfl := Option.some.inj hstep
      exact ⟨rfl, rfl⟩
    next => exact absurd hstep (by simp)
  | power o powerStateEvent eventSpecifics =>
    simp only at hstep
    split at hstep
    next =>
      obtain rfl := Option.some.inj hstep
      exact ⟨rfl, rfl⟩
    next => exact absurd hstep (by simp)

/-- What gets to `HvmStart` happens in a driver that was loaded. -/
theorem ReachesHvmStart.loaded {event : ShieldEvent} (h : ReachesHvmStart vmxAbsent s event) :
    s.loaded = true := by
  cases event with
  | control o request => exact h.1
  | power o powerStateEvent eventSpecifics => exact h.1.1

end Reach

/-! ## The slots -/

section Slots

variable {smp : Smp} {vmxAbsent : Bool} {answers : DriverAnswers}

/-- `DriverEntry` ends with the failure of a call, or gets through `DsInitializeShield`. -/
theorem driverEntryBody_cases (answers : DriverAnswers) (processorCount : Nat) {s : Driver}
    (hs : s.loaded = false) :
    (∃ (failure : NtFailure) (s' : Driver),
      driverEntryBody answers processorCount s = (failure.val, s') ∧ s'.loaded = false) ∨
    ∃ status s', driverEntryBody answers processorCount s = (status, s') ∧
      ntSuccess status = true ∧ s'.mmuArray = (mmuInitialize answers.mmu processorCount).2 := by
  unfold driverEntryBody dsInitializeShield
  split
  next => exact Or.inl ⟨_, s, rfl, hs⟩
  next => exact Or.inl ⟨_, s, rfl, hs⟩
  next => exact Or.inl ⟨_, s, rfl, hs⟩
  next => exact Or.inl ⟨_, s, rfl, hs⟩
  next =>
    cases answers.pmInitializeProcessMonitor with
    | some status => exact Or.inl ⟨status, _, rfl, hs⟩
    | none =>
      right
      by_cases hfailed : ntSuccess (mmuInitialize answers.mmu processorCount).1 = false
      · exact ⟨statusSuccess, _, if_pos hfailed, ntSuccess_statusSuccess, rfl⟩
      · exact ⟨(mmuInitialize answers.mmu processorCount).1, _, if_neg hfailed,
          by simpa using hfailed, rfl⟩

/-- **A driver that is loaded** has gone through `DsInitializeShield`, and kept its array. -/
theorem driverEntry_loaded {processorCount : Nat}
    (h : (driverEntry answers processorCount).2.loaded = true) :
    (driverEntry answers processorCount).2.mmuArray
      = (mmuInitialize answers.mmu processorCount).2 := by
  unfold driverEntry at h ⊢
  cases hpool : answers.dsInitializeNonPagedPoolList with
  | some status =>
    rw [hpool] at h
    exact absurd (show false = true from h) (by decide)
  | none =>
    rw [hpool] at h
    simp only at h ⊢
    rcases driverEntryBody_cases answers processorCount
      (show Driver.initial.loaded = false from rfl) with
      ⟨failure, s', hbody, hunloaded⟩ | ⟨status, s', hbody, hsuccess, harray⟩
    · rw [hbody, routineExit, if_pos failure.2] at h
      exact absurd (hunloaded.symm.trans h) (by decide)
    · rw [hbody, routineExit, if_neg (by rw [hsuccess]; decide)]
      exact harray

/-- The array is what `MmuInitialize` left, as far as `HvmStart` is concerned. -/
def ArrayKept (smp : Smp) (answers : DriverAnswers) (s : Driver) : Prop :=
  s.loaded = true → s.mmuArray = (mmuInitialize answers.mmu smp.count).2

theorem ArrayKept.step {s s' : Driver} {event : ShieldEvent} (h : ArrayKept smp answers s)
    (hstep : driverStep smp vmxAbsent s event = some s') : ArrayKept smp answers s' := by
  obtain ⟨harray, hloaded⟩ := driverStep_keeps hstep
  intro hnow
  rw [harray]
  exact h (hloaded ▸ hnow)

/-- With everything there, a start finds the slots. -/
theorem ArrayKept.mapped {s : Driver} (h : ArrayKept smp answers s)
    (hmaps : answers.mmu.MapsAll smp.count) (event : ShieldEvent) :
    StartsMapped smp vmxAbsent s event := by
  intro hreaches
  obtain ⟨array, hinit, hslots⟩ := mmuInitialize_mapped hmaps
  refine ⟨array, (h hreaches.loaded).trans (congrArg Prod.snd hinit), fun procIdx hproc slotIdx
    hslot => ?_⟩
  rw [hslots procIdx hproc slotIdx hslot]
  exact (hmaps.2 procIdx hproc slotIdx hslot).2.2

/-- With anything missing, a start does not. -/
theorem ArrayKept.unmapped {s : Driver} (h : ArrayKept smp answers s)
    (hmaps : ¬ answers.mmu.MapsAll smp.count) (event : ShieldEvent) :
    StartsMapped smp vmxAbsent s event ↔ ¬ ReachesHvmStart vmxAbsent s event := by
  constructor
  · intro hmapped hreaches
    obtain ⟨array, harray, _⟩ := hmapped hreaches
    rw [h hreaches.loaded, mmuInitialize_not_mapped hmaps] at harray
    exact absurd harray (by simp)
  · intro hnot hreaches
    exact absurd hreaches hnot

end Slots

/-- `DriverEntry` does not start the shield. -/
theorem driverEntry_shield (answers : DriverAnswers) (processorCount : Nat) :
    (driverEntry answers processorCount).2.shield = .initial := by
  have hexit : ∀ status s, (routineExit status s).shield = s.shield := by
    intro status s
    unfold routineExit
    split
    next => rfl
    next => rfl
  have hbody : (driverEntryBody answers processorCount .initial).2.shield = .initial := by
    unfold driverEntryBody
    split
    next => rfl
    next => rfl
    next => rfl
    next => rfl
    next =>
      cases answers.pmInitializeProcessMonitor with
      | some status => rfl
      | none =>
        simp only
        split
        next => rfl
        next => rfl
  unfold driverEntry
  cases answers.dsInitializeNonPagedPoolList with
  | some status => rfl
  | none => exact (hexit _ _).trans hbody

/-- **What `ReachesHvmStart` says is what the driver does**, in every run: if the shield does
not run, and every processor would start, then it runs after the event exactly if the event
gets to `HvmStart`. -/
theorem running_iff_reaches (smp : Smp) (vmxAbsent : Bool) (answers : DriverAnswers)
    (events : List ShieldEvent) :
    Throughout (driverStep smp vmxAbsent) (fun s event =>
        dsIsShieldRunning s.shield = false → Launches smp event.outcome.start →
          ∀ s', driverStep smp vmxAbsent s event = some s' →
            (dsIsShieldRunning s'.shield = true ↔ ReachesHvmStart vmxAbsent s event))
      (driverEntry answers smp.count).2 events := by
  have hinit : OnlyLaunched (driverEntry answers smp.count).2.shield := by
    rw [driverEntry_shield]
    exact onlyLaunched_none rfl
  refine throughout_of_inv (fun {s event} hlaunched (_ : True) hstopped hlaunches s' hstep => ?_)
    (fun hlaunched _ hstep => driverStep_onlyLaunched hlaunched hstep) hinit (fun _ _ => trivial)
  refine ⟨fun hrunning => ?_,
    fun hreaches => running_of_reaches hlaunched hstep hreaches hlaunches⟩
  by_contra hnot
  exact absurd ((stopped_of_not_reaches hstep hstopped hnot).symm.trans hrunning) (by decide)

/-- **The hypervisor is only started with its mapping slots exactly if everything they need
could be had, or it is not started.** From `DriverEntry` on, in every run of requests and
power callbacks. -/
theorem startsMapped_iff (smp : Smp) (vmxAbsent : Bool) (answers : DriverAnswers)
    (events : List ShieldEvent) :
    Throughout (driverStep smp vmxAbsent) (StartsMapped smp vmxAbsent)
        (driverEntry answers smp.count).2 events ↔
      answers.mmu.MapsAll smp.count ∨
        Throughout (driverStep smp vmxAbsent) (fun s event => ¬ ReachesHvmStart vmxAbsent s event)
          (driverEntry answers smp.count).2 events := by
  have hkept : ArrayKept smp answers (driverEntry answers smp.count).2 := driverEntry_loaded
  by_cases hmaps : answers.mmu.MapsAll smp.count
  · refine iff_of_true ?_ (Or.inl hmaps)
    exact throughout_of_inv (fun {_ event} h (_ : True) => ArrayKept.mapped h hmaps event)
      (fun h _ hstep => h.step hstep) hkept (fun _ _ => trivial)
  · rw [or_iff_right hmaps]
    exact throughout_iff
      (fun {_ event} h (_ : True) => ArrayKept.unmapped h hmaps event)
      (fun h _ _ hstep => h.step hstep) hkept (fun _ _ => trivial)

/-- Everything goes well but for the third slot of the only processor, whose page is not
mapped. -/
def thirdSlotMissing : DriverAnswers where
  dsInitializeNonPagedPoolList := none
  rtlMailboxInitialize := none
  dsCloneUnicodeString := none
  ioCreateDeviceSecure := none
  ioCreateSymbolicLink := none
  dsRegisterPowerChangeCallback := true
  pmInitializeProcessMonitor := none
  mmu := {
    memAllocArray := true
    ioAllocateMdl := fun _ _ => true
    mmMapLockedPages := fun _ slotIdx =>
      if slotIdx = 2 then 0 else 0xFFFFF88000010000 + 0x1000 * UInt64.ofNat slotIdx }

/-- A request to start gets to `HvmStart` without an array, and the shield runs. -/
theorem not_startsMapped_thirdSlot :
    ¬ Throughout (driverStep ⟨1, 0, [0], by decide, by decide⟩ false)
        (StartsMapped ⟨1, 0, [0], by decide, by decide⟩ false)
        (driverEntry thirdSlotMissing 1).2 [.control obligingOutcome ⟨8, 8, shieldStart⟩] ∧
      ∃ s', driverStep ⟨1, 0, [0], by decide, by decide⟩ false (driverEntry thirdSlotMissing 1).2
          (.control obligingOutcome ⟨8, 8, shieldStart⟩) = some s' ∧
        dsIsShieldRunning s'.shield = true ∧ s'.mmuArray = none := by
  have hnone : (driverEntry thirdSlotMissing 1).2.mmuArray = none := by
    rw [driverEntry_loaded (by decide)]
    exact mmuInitialize_not_mapped (by decide)
  refine ⟨fun hall => ?_, _, rfl, by decide, hnone⟩
  obtain ⟨array, harray, _⟩ :=
    hall.1 ⟨by decide, rfl, by decide, rfl, by decide, by decide⟩
  exact absurd (hnone.symm.trans harray) (by simp)

end DeepShield.Shield
