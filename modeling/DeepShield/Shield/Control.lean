import DeepShield.Lib.Runs
import DeepShield.Vmx.Launch

/-!
# Two controllers of the shield

The shield is started and stopped by control requests (`DsCtlShieldControl`) and
by the power manager (`DsPowerChangeCallback`), which stops it before the machine
leaves S0 and starts it again on the way back. Whether it runs is decided by
`Hvm->Launched`. Two flags of `gStateFlags` go with it: `DSH_GFL_SHIELD_STARTED`,
and `DSH_GFL_SHIELD_SUSPENDED`, by which the power callback knows on the way back
that it was itself that stopped the shield.

A control request leaves the second flag alone. So the flag outlives a start and a
stop by requests, and the next callback for S0 starts a shield that the user had
stopped. `stopFinal_iff` says that this is the only way a stop is undone.
-/

namespace DeepShield.Shield

open DeepShield.Lib DeepShield.Os DeepShield.Vmx

/-! ## Starting and stopping -/

/-- What the shield is: the hypervisor and the two flags. -/
structure ShieldState where
  hvm : DsHvm
  started : Bool
  suspended : Bool

/-- After the driver was loaded. -/
def ShieldState.initial : ShieldState := ⟨.unloaded, false, false⟩

/-- `DsIsShieldRunning`, which is `DsIsHvmLaunched`. -/
def dsIsShieldRunning (s : ShieldState) : Bool :=
  match s.hvm.gHvm with
  | some hvm => hvm.launched
  | none => false

/-- `DsUnloadHvm`. `refusal` is the status `HvmStop` gets if a processor refuses
to stop; what the others do then is not looked at here. -/
def dsUnloadHvm (smp : Smp) (refusal : Option NtFailure) (s : DsHvm) : NtStatus × DsHvm :=
  match s.gHvm, refusal with
  -- only called while the hypervisor is launched
  | none, _ => (statusUnsuccessful, s)
  | some _, some status => (status, s)
  | some hvm, none =>
    let (status, s) := hvmStop smp hvm s
    if ntSuccess status then (status, dsFinalizeHvm s) else (status, s)

/-- `DsStartShield`. -/
def dsStartShield (smp : Smp) (o : LaunchOutcome) (s : ShieldState) : NtStatus × ShieldState :=
  let (status, hvm) := dsLoadHvm smp o s.hvm
  (status, { s with hvm := hvm })

/-- `DsStopShield`. -/
def dsStopShield (smp : Smp) (refusal : Option NtFailure) (s : ShieldState) :
    NtStatus × ShieldState :=
  let (status, hvm) := dsUnloadHvm smp refusal s.hvm
  (status, { s with hvm := hvm })

/-! ## The controllers -/

/-- `SHIELD_CONTROL_ACTION`. -/
def shieldStop : UInt32 := 1

/-- `SHIELD_CONTROL_ACTION`. -/
def shieldStart : UInt32 := 2

/-- `sizeof( SHIELD_CONTROL_DATA )`. -/
def shieldControlDataSize : UInt32 := 8

/-- A request with `IOCTL_SHIELD_CONTROL`. -/
structure ControlRequest where
  inputLength : UInt32
  outputLength : UInt32
  action : UInt32
deriving Repr, DecidableEq

/-- How the processors answer if they are asked to start or to stop. -/
structure ShieldOutcome where
  start : LaunchOutcome
  stop : Option NtFailure

/-- What a request gets back: the status, `ControlData->Result` if it was written,
and `IoStatus.Information`. -/
structure ControlReply where
  status : NtStatus
  result : Option UInt32
  information : UInt32
deriving Repr, DecidableEq

/-- `DsCtlShieldControl` once the action is to be done. -/
def controlAction (smp : Smp) (o : ShieldOutcome) (action : UInt32) (s : ShieldState) :
    NtStatus × UInt32 × ShieldState :=
  if action = shieldStart then
    if dsIsShieldRunning s then (statusSuccess, 0xFF, s)
    else
      let (status, s) := dsStartShield smp o.start s
      (status, 0, if ntSuccess status then { s with started := true } else s)
  else if action = shieldStop then
    if dsIsShieldRunning s = false then (statusSuccess, 0xFF, s)
    else
      let (status, s) := dsStopShield smp o.stop s
      (status, 0, if ntSuccess status then { s with started := false } else s)
  else (statusInvalidDeviceRequest, 0, s)

/-- `DsCtlShieldControl`; `vmxAbsent` is `DSH_VMX_ABSENT( &gVmxFeature )`. The
policy for the next load, which it writes to the registry, is left out. -/
def dsCtlShieldControl (smp : Smp) (vmxAbsent : Bool) (o : ShieldOutcome)
    (request : ControlRequest) (s : ShieldState) : ControlReply × ShieldState :=
  if vmxAbsent then (⟨statusNotSupported, none, 0⟩, s)
  else if max request.inputLength request.outputLength < shieldControlDataSize then
    (⟨statusBufferTooSmall, none, 0⟩, s)
  else
    let (status, result, s) := controlAction smp o request.action s
    (⟨status, some result, if ntSuccess status then shieldControlDataSize else 0⟩, s)

/-- `PO_CB_SYSTEM_STATE_LOCK`. -/
def poCbSystemStateLock : UInt64 := 3

/-- `DsPowerChangeCallback`. -/
def dsPowerChangeCallback (smp : Smp) (o : ShieldOutcome)
    (powerStateEvent eventSpecifics : UInt64) (s : ShieldState) : ShieldState :=
  if powerStateEvent ≠ poCbSystemStateLock then s
  else if eventSpecifics = 1 then
    -- back in S0
    if dsIsShieldRunning s = false ∧ s.suspended then
      let (status, s) := dsStartShield smp o.start { s with suspended := false }
      if ntSuccess status then { s with started := true } else s
    else s
  else if eventSpecifics = 0 then
    -- leaving S0
    if dsIsShieldRunning s then
      let (status, s) := dsStopShield smp o.stop s
      if ntSuccess status then
        { s with
          started := false
          suspended := true }
      else s
    else s
  else s

/-! ## What starting and stopping do -/

/-- Everything is allocated and every processor starts. -/
def Launches (smp : Smp) (o : LaunchOutcome) : Prop :=
  o.hvmInitialize = none ∧ o.initializeHvmContexts = none ∧ ∀ p < smp.count, o.startVcpu p = none

section Spec

variable {smp : Smp} {s : DsHvm}

/-- **Loading** either succeeds and leaves a launched hypervisor or fails and leaves
none. -/
theorem dsLoadHvm_gHvm (o : LaunchOutcome) (hnone : s.gHvm = none) :
    (Launches smp o → ntSuccess (dsLoadHvm smp o s).1 = true ∧
      (dsLoadHvm smp o s).2.gHvm = some ⟨true⟩) ∧
    (¬ Launches smp o → ntSuccess (dsLoadHvm smp o s).1 = false ∧
      (dsLoadHvm smp o s).2.gHvm = none) := by
  unfold dsLoadHvm dsInitializeHvm Launches
  cases hinit : o.hvmInitialize with
  | some status =>
    simp only [status.2]
    exact ⟨fun hlaunches => absurd hlaunches.1 (by simp), fun _ => ⟨trivial, hnone⟩⟩
  | none =>
    cases hctx : o.initializeHvmContexts with
    | some status =>
      simp only [status.2]
      exact ⟨fun hlaunches => absurd hlaunches.2.1 (by simp), fun _ => ⟨trivial, hnone⟩⟩
    | none =>
      simp only [ntSuccess_statusSuccess]
      by_cases hall : ∀ p < smp.count, o.startVcpu p = none
      · obtain ⟨hsucc, hstate⟩ := hvmStart_of_all
          { s with
            gHvm := some ⟨false⟩
            contexts := true } hall
        rw [if_pos hsucc, hstate]
        exact ⟨fun _ => ⟨hsucc, rfl⟩, fun hnot => absurd ⟨trivial, trivial, hall⟩ hnot⟩
      · obtain ⟨hfail, _⟩ := hvmStart_of_not_all
          { s with
            gHvm := some ⟨false⟩
            contexts := true } hall
        rw [if_neg (by rw [hfail]; decide)]
        exact ⟨fun hlaunches => absurd hlaunches.2.2 hall, fun _ => ⟨hfail, rfl⟩⟩

/-- **Unloading** a launched hypervisor that no processor refuses takes all of them out of
guest mode. -/
theorem dsUnloadHvm_stops (smp : Smp) (hsome : s.gHvm = some ⟨true⟩) :
    ntSuccess (dsUnloadHvm smp none s).1 = true ∧ (dsUnloadHvm smp none s).2.gHvm = none ∧
      ∀ p, (dsUnloadHvm smp none s).2.guest p = if p < smp.count then false else s.guest p := by
  have hstatus : ntSuccess (smpRunPerProcessor smp hvmpStopVcpu s).1 = true := by
    have hall : ∀ p s, (hvmpStopVcpu p s).1 = (fun _ => statusSuccess) p := fun _ _ => rfl
    rw [(smpRunPerProcessor_success_iff hall smp s).mpr fun _ _ => rfl, ntSuccess_statusSuccess]
  have hstop : hvmStop smp ⟨true⟩ s = ((smpRunPerProcessor smp hvmpStopVcpu s).1,
      (smpRunPerProcessor smp hvmpStopVcpu s).2.setLaunched false) := if_pos hstatus
  unfold dsUnloadHvm
  rw [hsome]
  simp only [hstop, hstatus, if_true]
  exact ⟨trivial, rfl, smpRun_hvmpStopVcpu_guest smp s⟩

/-- So it leaves none, or fails and leaves it. -/
theorem dsUnloadHvm_gHvm (refusal : Option NtFailure) (hsome : s.gHvm = some ⟨true⟩) :
    (ntSuccess (dsUnloadHvm smp refusal s).1 = true ∧
      (dsUnloadHvm smp refusal s).2.gHvm = none) ∨
    (ntSuccess (dsUnloadHvm smp refusal s).1 = false ∧
      (dsUnloadHvm smp refusal s).2.gHvm = some ⟨true⟩) := by
  cases refusal with
  | some status =>
    unfold dsUnloadHvm
    rw [hsome]
    exact Or.inr ⟨status.2, hsome⟩
  | none =>
    obtain ⟨hsucc, hnone, -⟩ := dsUnloadHvm_stops smp hsome
    exact Or.inl ⟨hsucc, hnone⟩

end Spec

/-! ## Runs -/

/-- The state, and the action of the last control request that returned success. -/
structure ControlHistory where
  state : ShieldState
  lastRequest : Option UInt32

/-- A control request or a power callback. -/
inductive ShieldEvent
  | control (o : ShieldOutcome) (request : ControlRequest)
  | power (o : ShieldOutcome) (powerStateEvent eventSpecifics : UInt64)

/-- One event. -/
def controlStep (smp : Smp) (vmxAbsent : Bool) (h : ControlHistory) :
    ShieldEvent → Option ControlHistory
  | .control o request =>
    let (reply, state) := dsCtlShieldControl smp vmxAbsent o request h.state
    some
      { state := state
        lastRequest := if ntSuccess reply.status then some request.action else h.lastRequest }
  | .power o powerStateEvent eventSpecifics =>
    some { h with state := dsPowerChangeCallback smp o powerStateEvent eventSpecifics h.state }

/-- If the last request was to stop, the shield does not run. -/
def StopFinal (h : ControlHistory) : Prop :=
  h.lastRequest = some shieldStop → dsIsShieldRunning h.state = false

instance : DecidablePred StopFinal := fun h =>
  inferInstanceAs (Decidable (h.lastRequest = some shieldStop → dsIsShieldRunning h.state = false))

/-- A callback for S0 does not find the shield suspended and the last request a
stop, unless the hypervisor cannot be launched. -/
def ResumeHarmless (smp : Smp) (h : ControlHistory) : ShieldEvent → Prop
  | .control _ _ => True
  | .power o powerStateEvent eventSpecifics =>
    powerStateEvent = poCbSystemStateLock → eventSpecifics = 1 → h.state.suspended = true →
      h.lastRequest = some shieldStop → ¬ Launches smp o.start

/-- A hypervisor that exists is launched. -/
def OnlyLaunched (s : ShieldState) : Prop :=
  ∀ hvm, s.hvm.gHvm = some hvm → hvm = ⟨true⟩

/-- So it is, and a stop was final so far. -/
def ControlInv (h : ControlHistory) : Prop := OnlyLaunched h.state ∧ StopFinal h

section Step

variable {smp : Smp} {s : ShieldState} {last : Option UInt32}

theorem onlyLaunched_none (hnone : s.hvm.gHvm = none) : OnlyLaunched s := by
  intro hvm hsome
  exact absurd (hnone.symm.trans hsome) (by simp)

theorem onlyLaunched_some (hsome : s.hvm.gHvm = some ⟨true⟩) : OnlyLaunched s := by
  intro hvm hother
  exact (Option.some.inj (hsome.symm.trans hother)).symm

theorem notRunning_of_none (hnone : s.hvm.gHvm = none) : dsIsShieldRunning s = false := by
  rw [dsIsShieldRunning, hnone]

/-- The shield runs exactly if there is a hypervisor. -/
theorem OnlyLaunched.running (h : OnlyLaunched s) :
    dsIsShieldRunning s = true ∧ s.hvm.gHvm = some ⟨true⟩ ∨
      dsIsShieldRunning s = false ∧ s.hvm.gHvm = none := by
  cases hgHvm : s.hvm.gHvm with
  | none => exact Or.inr ⟨notRunning_of_none hgHvm, rfl⟩
  | some hvm =>
    have hlaunched := h hvm hgHvm
    left
    rw [dsIsShieldRunning, hgHvm, hlaunched]
    exact ⟨rfl, rfl⟩

/-- **A control request** keeps a stop final. -/
theorem OnlyLaunched.controlAction (h : OnlyLaunched s) (o : ShieldOutcome) (action : UInt32)
    (hfinal : last = some shieldStop → dsIsShieldRunning s = false) :
    OnlyLaunched (controlAction smp o action s).2.2 ∧
      ((if ntSuccess (controlAction smp o action s).1 then some action else last)
        = some shieldStop → dsIsShieldRunning (controlAction smp o action s).2.2 = false) := by
  unfold Shield.controlAction
  by_cases hstart : action = shieldStart
  · rw [if_pos hstart, hstart]
    rcases h.running with ⟨hrunning, _⟩ | ⟨hrunning, hnone⟩
    · rw [if_pos hrunning, ntSuccess_statusSuccess, if_pos rfl]
      exact ⟨h, fun hk => absurd hk (by decide)⟩
    · rw [if_neg (by rw [hrunning]; decide)]
      obtain ⟨hload, hfail⟩ := @dsLoadHvm_gHvm smp s.hvm o.start hnone
      by_cases hlaunches : Launches smp o.start
      · obtain ⟨hsucc, hgHvm⟩ := hload hlaunches
        simp only [dsStartShield, hsucc, if_true]
        exact ⟨onlyLaunched_some hgHvm, fun hk => absurd hk (by decide)⟩
      · obtain ⟨hsucc, hgHvm⟩ := hfail hlaunches
        simp only [dsStartShield, hsucc]
        exact ⟨onlyLaunched_none hgHvm, fun _ => notRunning_of_none hgHvm⟩
  · rw [if_neg hstart]
    by_cases hstop : action = shieldStop
    · rw [if_pos hstop, hstop]
      rcases h.running with ⟨hrunning, hsome⟩ | ⟨hrunning, _⟩
      · rw [if_neg (by rw [hrunning]; decide)]
        rcases @dsUnloadHvm_gHvm smp s.hvm o.stop hsome with ⟨hsucc, hgHvm⟩ | ⟨hsucc, hgHvm⟩
        · simp only [dsStopShield, hsucc, if_true]
          exact ⟨onlyLaunched_none hgHvm, fun _ => notRunning_of_none hgHvm⟩
        · simp only [dsStopShield, hsucc]
          refine ⟨onlyLaunched_some hgHvm, fun hk => ?_⟩
          exact absurd (hfinal hk) (by rw [hrunning]; decide)
      · rw [if_pos hrunning, ntSuccess_statusSuccess, if_pos rfl]
        exact ⟨h, fun _ => hrunning⟩
    · rw [if_neg hstop, ntSuccess_statusInvalidDeviceRequest, if_neg (by decide)]
      exact ⟨h, hfinal⟩

/-- **A power callback** starts a hypervisor only on the way back to S0, for a
suspended shield. -/
theorem OnlyLaunched.dsPowerChangeCallback (h : OnlyLaunched s) (o : ShieldOutcome)
    (powerStateEvent eventSpecifics : UInt64) :
    OnlyLaunched (dsPowerChangeCallback smp o powerStateEvent eventSpecifics s) ∧
      (dsIsShieldRunning s = false →
        (dsIsShieldRunning (dsPowerChangeCallback smp o powerStateEvent eventSpecifics s) = true ↔
          powerStateEvent = poCbSystemStateLock ∧ eventSpecifics = 1 ∧ s.suspended = true ∧
            Launches smp o.start)) := by
  unfold Shield.dsPowerChangeCallback
  by_cases hevent : powerStateEvent = poCbSystemStateLock
  · rw [if_neg (not_not_intro hevent)]
    by_cases henter : eventSpecifics = 1
    · rw [if_pos henter]
      by_cases hresume : dsIsShieldRunning s = false ∧ s.suspended = true
      · rw [if_pos hresume]
        have hnone : s.hvm.gHvm = none := by
          rcases h.running with ⟨hrunning, _⟩ | ⟨_, hnone⟩
          · exact absurd (hresume.1.symm.trans hrunning) (by decide)
          · exact hnone
        obtain ⟨hload, hfail⟩ := @dsLoadHvm_gHvm smp s.hvm o.start hnone
        by_cases hlaunches : Launches smp o.start
        · obtain ⟨hsucc, hgHvm⟩ := hload hlaunches
          simp only [dsStartShield, hsucc, if_true]
          refine ⟨onlyLaunched_some hgHvm, fun _ => ?_⟩
          refine iff_of_true ?_ ⟨hevent, henter, hresume.2, hlaunches⟩
          rw [dsIsShieldRunning, hgHvm]
        · obtain ⟨hsucc, hgHvm⟩ := hfail hlaunches
          simp only [dsStartShield, hsucc]
          refine ⟨onlyLaunched_none hgHvm, fun _ => ?_⟩
          refine iff_of_false ?_ (fun hk => hlaunches hk.2.2.2)
          rw [notRunning_of_none hgHvm]
          decide
      · rw [if_neg hresume]
        refine ⟨h, fun hrunning => ?_⟩
        exact iff_of_false (by rw [hrunning]; decide) (fun hk => hresume ⟨hrunning, hk.2.2.1⟩)
    · rw [if_neg henter]
      have hnot : dsIsShieldRunning s = false → ¬ dsIsShieldRunning s = true :=
        fun hrunning => by rw [hrunning]; decide
      by_cases hleave : eventSpecifics = 0
      · rw [if_pos hleave]
        rcases h.running with ⟨hrunning, hsome⟩ | ⟨hrunning, _⟩
        · rw [if_pos hrunning]
          rcases @dsUnloadHvm_gHvm smp s.hvm o.stop hsome with ⟨hsucc, hgHvm⟩ | ⟨hsucc, hgHvm⟩
          · simp only [dsStopShield, hsucc, if_true]
            exact ⟨onlyLaunched_none hgHvm, fun hk => absurd (hk.symm.trans hrunning) (by decide)⟩
          · simp only [dsStopShield, hsucc]
            exact ⟨onlyLaunched_some hgHvm, fun hk => absurd (hk.symm.trans hrunning) (by decide)⟩
        · rw [if_neg (hnot hrunning)]
          exact ⟨h, fun _ => iff_of_false (hnot hrunning) (fun hk => henter hk.2.1)⟩
      · rw [if_neg hleave]
        exact ⟨h, fun hrunning => iff_of_false (hnot hrunning) (fun hk => henter hk.2.1)⟩
  · rw [if_pos hevent]
    exact ⟨h, fun hrunning => iff_of_false (by rw [hrunning]; decide) (fun hk => hevent hk.1)⟩

/-- A control request, of any size and with any action, keeps the invariant. -/
theorem ControlInv.control {h h' : ControlHistory} {vmxAbsent : Bool} (hinv : ControlInv h)
    (o : ShieldOutcome) (request : ControlRequest)
    (hstep : controlStep smp vmxAbsent h (.control o request) = some h') : ControlInv h' := by
  obtain ⟨hlaunched, hfinal⟩ := hinv
  obtain rfl := Option.some.inj hstep
  show ControlInv ⟨(dsCtlShieldControl smp vmxAbsent o request h.state).2,
    if ntSuccess (dsCtlShieldControl smp vmxAbsent o request h.state).1.status then
      some request.action else h.lastRequest⟩
  unfold dsCtlShieldControl
  by_cases habsent : vmxAbsent = true
  · simp only [if_pos habsent]
    exact ⟨hlaunched, hfinal⟩
  · by_cases hshort : max request.inputLength request.outputLength < shieldControlDataSize
    · simp only [if_neg habsent, if_pos hshort]
      exact ⟨hlaunched, hfinal⟩
    · simp only [if_neg habsent, if_neg hshort]
      exact hlaunched.controlAction o request.action hfinal

end Step

/-- **A stop is final exactly as long as no callback for S0 undoes it.** In every
run from the load of the driver, whether the hypervisor starts and stops when it is
asked to or not. -/
theorem stopFinal_iff (smp : Smp) (vmxAbsent : Bool) (events : List ShieldEvent) :
    Always (controlStep smp vmxAbsent) StopFinal ⟨.initial, none⟩ events ↔
      Guarded (controlStep smp vmxAbsent) (ResumeHarmless smp) ⟨.initial, none⟩ events := by
  have hinit : ControlInv ⟨.initial, none⟩ :=
    ⟨onlyLaunched_none rfl, fun hk => absurd hk (by simp)⟩
  refine always_iff_guarded (fun hinv => hinv.2) (fun {h event h'} hinv hguard hstep => ?_)
    (fun {h event h'} hinv hguard hstep => ?_) hinit
  · cases event with
    | control o request => exact hinv.control o request hstep
    | power o powerStateEvent eventSpecifics =>
      obtain ⟨hlaunched, hfinal⟩ := hinv
      obtain rfl := Option.some.inj hstep
      obtain ⟨hlaunched', hresumed⟩ :=
        @OnlyLaunched.dsPowerChangeCallback smp _ hlaunched o powerStateEvent eventSpecifics
      refine ⟨hlaunched', fun hlast => ?_⟩
      have hnot := (hresumed (hfinal hlast)).mp
      rw [← Bool.not_eq_true]
      intro hrunning
      obtain ⟨hevent, henter, hsuspended, hlaunches⟩ := hnot hrunning
      exact hguard hevent henter hsuspended hlast hlaunches
  · cases event with
    | control o request => exact absurd trivial hguard
    | power o powerStateEvent eventSpecifics =>
      obtain ⟨hlaunched, hfinal⟩ := hinv
      obtain rfl := Option.some.inj hstep
      simp only [ResumeHarmless, not_forall, not_not] at hguard
      obtain ⟨hevent, henter, hsuspended, hlast, hlaunches⟩ := hguard
      intro hfinal'
      have hresumed := (@OnlyLaunched.dsPowerChangeCallback smp _ hlaunched o powerStateEvent
        eventSpecifics).2 (hfinal hlast)
      exact absurd ((hfinal' hlast).symm.trans
        (hresumed.mpr ⟨hevent, henter, hsuspended, hlaunches⟩)) (by decide)

/-- One processor, which starts and stops as it is asked to. -/
def obligingOutcome : ShieldOutcome := ⟨⟨none, none, fun _ => none⟩, none⟩

/-- The shield is started, suspended, started by a request before the machine slept,
and stopped by a request. The next callback for S0 starts it again. -/
theorem not_stopFinal_resumed :
    ¬ Always (controlStep ⟨1, 0, [0], by decide, by decide⟩ false) StopFinal ⟨.initial, none⟩
      [.control obligingOutcome ⟨8, 8, shieldStart⟩,
        .power obligingOutcome poCbSystemStateLock 0,
        .control obligingOutcome ⟨8, 8, shieldStart⟩,
        .control obligingOutcome ⟨8, 8, shieldStop⟩,
        .power obligingOutcome poCbSystemStateLock 1] := by
  decide

end DeepShield.Shield
