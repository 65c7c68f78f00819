import DeepShield.Load.Runs
import DeepShield.Shield.Control

/-!
# What is seen of a load

`DsLoadHvm` and `DsUnloadHvm` are in this development twice. `Vmx/Launch` and `Shield/Control`
have them as what the rest of the driver sees of them: the flag `Hvm->Launched` and which
processors are guests. `Load/Runs` has them with the heap, the blocks they allocate and free,
and what hangs off which pointer.

The first is an abstraction of the second. `SeenAs` says of two states that the one is what
is seen of the other, and `dsLoadHvm_seen` and `dsUnloadHvm_seen` that it stays so by a call, which
also succeeds in both or in neither; `calls_seen` is this for runs. Which allocation fails is
seen as a failure of `HvmInitialize` or of `DsInitializeHvmContexts`, and the processors that
refuse to stop as one refusal.
-/

namespace DeepShield.Load

open DeepShield.Os DeepShield.Lib
open DeepShield.Vmx (LaunchOutcome)

/-- How the calls out of a load are seen to turn out. -/
def LoadOutcome.launch (o : LoadOutcome) (cpuCount : Nat) : LaunchOutcome where
  hvmInitialize :=
    if o.allocatesHvm cpuCount then none
    else some ⟨statusUnsuccessful, ntSuccess_statusUnsuccessful⟩
  initializeHvmContexts :=
    if o.allocatesContexts cpuCount then none
    else some ⟨statusUnsuccessful, ntSuccess_statusUnsuccessful⟩
  startVcpu := o.startVcpu

/-- The first processor that refuses to stop. -/
def refusal (smp : Smp) (stopVcpu : Nat → Option NtFailure) : Option NtFailure :=
  smp.order.findSome? stopVcpu

/-- `t` is what is seen of `s`. Who is a guest is not seen of an HVM that is launched, as some
processors may have refused to stop. -/
structure SeenAs (cpuCount : Nat) (s : DsHvm) (t : Vmx.DsHvm) : Prop where
  gHvm : t.gHvm = s.gHvm.map fun hvm => ⟨(s.memory.hvm hvm).launched⟩
  guest : s.gHvm = none → ∀ p, t.guest p = true ↔ s.guest p ≠ []
  beyond : ∀ p, cpuCount ≤ p → t.guest p = false

/-- A call, as it is seen. -/
def seenStep (t : Vmx.DsHvm) : Call → Vmx.DsHvm
  | .load smp o => (Vmx.dsLoadHvm smp (o.launch smp.count) t).2
  | .unload smp stopVcpu => (Shield.dsUnloadHvm smp (refusal smp stopVcpu) t).2

section Seen

variable {s s' : DsHvm} {t : Vmx.DsHvm} {smp : Smp} {o : LoadOutcome} {cpuCount hvm : Nat}
  {stopVcpu : Nat → Option NtFailure}

theorem refusal_eq_none_iff : refusal smp stopVcpu = none ↔ ∀ p < smp.count, stopVcpu p = none := by
  unfold refusal
  rw [List.findSome?_eq_none_iff]
  exact forall_congr' fun p => by rw [smp.mem_order]

theorem launches_launch : Shield.Launches smp (o.launch smp.count) ↔
    o.allocates smp.count = true ∧ ∀ p < smp.count, o.startVcpu p = none := by
  unfold Shield.Launches LoadOutcome.launch LoadOutcome.allocates
  cases o.allocatesHvm smp.count with
  | true | false =>
    cases o.allocatesContexts smp.count with
    | true | false => simp

/-- Who is a guest after a launch. -/
theorem launch_guest (hnone : ∀ p, t.guest p = false) (p : Nat) :
    (Vmx.dsLoadHvm smp (o.launch smp.count) t).2.guest p = true ↔
      o.allocates smp.count = true ∧ p < smp.count ∧ o.startVcpu p = none := by
  by_cases hall : o.allocates smp.count = true
  · obtain ⟨hhvm, hcontexts⟩ := Bool.and_eq_true_iff.mp hall
    rw [and_iff_right hall]
    exact (Vmx.dsLoadHvm_of_initialized smp (if_pos hhvm) (if_pos hcontexts) hnone).2 p
  · have hfails : (o.launch smp.count).hvmInitialize ≠ none ∨
        (o.launch smp.count).initializeHvmContexts ≠ none := by
      unfold LoadOutcome.allocates at hall
      unfold LoadOutcome.launch
      cases hhvm : o.allocatesHvm smp.count with
      | false => simp
      | true =>
        cases hcontexts : o.allocatesContexts smp.count with
        | false => simp
        | true => exact absurd (by rw [hhvm, hcontexts]; rfl) hall
    rw [(Vmx.dsLoadHvm_of_not_initialized smp t hfails).2, hnone p]
    exact iff_of_false (by decide) fun hstarts => hall hstarts.1

theorem SeenAs.of_loaded (hload : Loaded cpuCount hvm s) (hgHvm : t.gHvm = some ⟨true⟩)
    (hbeyond : ∀ p, cpuCount ≤ p → t.guest p = false) : SeenAs cpuCount s t where
  gHvm := by rw [hgHvm, hload.gHvm, Option.map_some, hload.launched]
  guest hnone := absurd (hload.gHvm.symm.trans hnone) (Option.some_ne_none hvm)
  beyond := hbeyond

theorem SeenAs.of_unloaded (hun : Unloaded s) (hgHvm : t.gHvm = none)
    (hguest : ∀ p, t.guest p = true ↔ s.guest p ≠ [])
    (hbeyond : ∀ p, cpuCount ≤ p → t.guest p = false) : SeenAs cpuCount s t where
  gHvm := by rw [hgHvm, hun.gHvm, Option.map_none]
  guest _ := hguest
  beyond := hbeyond

/-- **A load** is seen as a launch, which succeeds if it does and leaves the same guests. -/
theorem dsLoadHvm_seen (h : SeenAs smp.count s t) (hun : Unloaded s)
    (hguest : ∀ p, s.guest p = []) (o : LoadOutcome) :
    SeenAs smp.count (dsLoadHvm smp o s).2 (Vmx.dsLoadHvm smp (o.launch smp.count) t).2 ∧
      ntSuccess (Vmx.dsLoadHvm smp (o.launch smp.count) t).1
        = ntSuccess (dsLoadHvm smp o s).1 ∧
      ∀ p < smp.count, (Vmx.dsLoadHvm smp (o.launch smp.count) t).2.guest p = true ↔
        (dsLoadHvm smp o s).2.guest p ≠ [] := by
  have hnone : ∀ p, t.guest p = false := by
    intro p
    rw [← Bool.not_eq_true, h.guest hun.gHvm p]
    exact not_not_intro (hguest p)
  have hgHvm : t.gHvm = none := by rw [h.gHvm, hun.gHvm, Option.map_none]
  have hstarted := @launch_guest t smp o hnone
  have hbeyond : ∀ p, smp.count ≤ p →
      (Vmx.dsLoadHvm smp (o.launch smp.count) t).2.guest p = false := by
    intro p hp
    rw [← Bool.not_eq_true, hstarted p]
    exact fun hstarts => absurd hstarts.2.1 (Nat.not_lt_of_le hp)
  obtain ⟨hlaunches, hfails⟩ := @Shield.dsLoadHvm_gHvm smp t (o.launch smp.count) hgHvm
  rw [launches_launch] at hlaunches hfails
  rcases dsLoadHvm_cases smp o hun hguest with
    ⟨hall, htogether, hsucc, hvm, hload, hrun⟩ | ⟨hnot, hfail, hun', hguest'⟩
  · obtain ⟨hsucc', hgHvm'⟩ := hlaunches ⟨hall, htogether⟩
    refine ⟨SeenAs.of_loaded hload hgHvm' hbeyond, hsucc'.trans hsucc.symm, fun p hp => ?_⟩
    rw [hstarted p]
    exact iff_of_true ⟨hall, hp, htogether p hp⟩ (hrun p hp)
  · obtain ⟨hfail', hgHvm'⟩ := hfails hnot
    have hsame : ∀ p, (Vmx.dsLoadHvm smp (o.launch smp.count) t).2.guest p = true ↔
        (dsLoadHvm smp o s).2.guest p ≠ [] := by
      intro p
      rw [hstarted p, Ne, hguest' p, not_not]
    exact ⟨SeenAs.of_unloaded hun' hgHvm' hsame hbeyond, hfail'.trans hfail.symm,
      fun p _ => hsame p⟩

/-- **An unload** is seen as one that a processor refuses, or none does. -/
theorem dsUnloadHvm_seen (h : SeenAs smp.count s t) (hload : Loaded smp.count hvm s)
    (stopVcpu : Nat → Option NtFailure) :
    SeenAs smp.count (dsUnloadHvm smp stopVcpu s).2
        (Shield.dsUnloadHvm smp (refusal smp stopVcpu) t).2 ∧
      ntSuccess (Shield.dsUnloadHvm smp (refusal smp stopVcpu) t).1
        = ntSuccess (dsUnloadHvm smp stopVcpu s).1 := by
  have hgHvm : t.gHvm = some ⟨true⟩ := by
    rw [h.gHvm, hload.gHvm, Option.map_some, hload.launched]
  rcases dsUnloadHvm_cases smp stopVcpu hload with
    ⟨hall, hsucc, hun, hguest⟩ | ⟨hnot, hfail, hload'⟩
  · rw [refusal_eq_none_iff.mpr hall]
    obtain ⟨hsucc', hgHvm', hguest'⟩ := Shield.dsUnloadHvm_stops smp hgHvm
    have hstopped : ∀ p, (Shield.dsUnloadHvm smp none t).2.guest p = false := by
      intro p
      rw [hguest' p]
      split
      next => rfl
      next hge => exact h.beyond p (Nat.le_of_not_lt hge)
    refine ⟨SeenAs.of_unloaded hun hgHvm' (fun p => ?_) fun p _ => hstopped p,
      hsucc'.trans hsucc.symm⟩
    rw [hstopped p, hguest p]
    exact iff_of_false (by decide) (not_not_intro rfl)
  · cases hrefusal : refusal smp stopVcpu with
    | none => exact absurd (refusal_eq_none_iff.mp hrefusal) hnot
    | some status =>
      have hkept : Shield.dsUnloadHvm smp (some status) t = (status.1, t) := by
        unfold Shield.dsUnloadHvm
        rw [hgHvm]
      rw [hkept]
      exact ⟨SeenAs.of_loaded hload' hgHvm h.beyond, status.2.trans hfail.symm⟩

/-- Whether the hypervisor is launched is seen. -/
theorem SeenAs.isRunning (h : SeenAs cpuCount s t) (started suspended : Bool) :
    Shield.dsIsShieldRunning ⟨t, started, suspended⟩ = dsIsHvmLaunched s := by
  unfold Shield.dsIsShieldRunning dsIsHvmLaunched
  rw [h.gHvm]
  cases s.gHvm with
  | none | some hvm => rfl

/-- **One call.** -/
theorem callStep_seen {call : Call} (h : SeenAs cpuCount s t) (hsettled : Settled cpuCount s)
    (hstep : callStep cpuCount s call = some s') : SeenAs cpuCount s' (seenStep t call) := by
  cases call with
  | load smp o =>
    obtain ⟨rfl, hnot, rfl⟩ := callStep_load hstep
    obtain ⟨hun, hguest⟩ := hsettled.of_not_launched hnot
    exact (dsLoadHvm_seen h hun hguest o).1
  | unload smp stopVcpu =>
    obtain ⟨rfl, hlaunched, rfl⟩ := callStep_unload hstep
    obtain ⟨hvm, hload⟩ := hsettled.of_launched hlaunched
    exact (dsUnloadHvm_seen h hload stopVcpu).1

/-- **Runs of calls** whose processors start together: what is seen of the last state is what
the calls as they are seen make of nothing. -/
theorem calls_seen (cpuCount : Nat) (memory : Memory) {calls : List Call}
    (hguard : Guarded (callStep cpuCount) (fun _ call => call.StartsTogether cpuCount)
      (.unloaded memory) calls)
    (hrun : calls.foldlM (callStep cpuCount) (.unloaded memory) = some s) :
    SeenAs cpuCount s (calls.foldl seenStep .unloaded) := by
  have hrest : ∀ {calls : List Call} {s₀ : DsHvm} {t : Vmx.DsHvm}, Settled cpuCount s₀ →
      SeenAs cpuCount s₀ t →
      Guarded (callStep cpuCount) (fun _ call => call.StartsTogether cpuCount) s₀ calls →
      calls.foldlM (callStep cpuCount) s₀ = some s →
      SeenAs cpuCount s (calls.foldl seenStep t) := by
    intro calls
    induction calls with
    | nil =>
      intro s₀ t _ hseen _ hrun
      obtain rfl := Option.some.inj hrun
      exact hseen
    | cons call calls ih =>
      intro s₀ t hsettled hseen hguard hrun
      rw [List.foldlM_cons] at hrun
      obtain ⟨s₁, hstep, hmore⟩ := Option.bind_eq_some_iff.mp hrun
      obtain ⟨hcall, hcalls⟩ := hguard s₁ hstep
      exact ih (callStep_settled hsettled hcall hstep) (callStep_seen hseen hsettled hstep)
        hcalls hmore
  refine hrest (settled_unloaded cpuCount memory) ⟨rfl, fun _ p => ?_, fun _ _ => rfl⟩ hguard hrun
  exact iff_of_false Bool.false_ne_true (not_not_intro rfl)

end Seen

end DeepShield.Load
