import DeepShield.Lib.Parties
import DeepShield.Lib.Runs
import DeepShield.Os.Smp
import Mathlib.Data.List.Nodup

/-!
# The rendezvous in `SmpRunPerProcessor`

`Os.Smp` takes the processors one after another. Here they run at once: the caller
queues a DPC to every other processor, runs `DpcRoutine` itself, and then spins on
`info.sync`, which every `DpcRoutine` increments last. `info` is on the caller's stack,
so that it must not be touched after the call returned.

The spin is a compare-exchange that resets the counter when it has reached the number
of processors, and goes on; it ends when it reads zero. That is also the value the
counter starts from, and what keeps the loop from ending at once is that the caller's
own increment comes first.

Each processor's `DpcRoutine` is a program counter, and so is the caller; the steps are
the accesses to `info`. A callback returns any status.

* `Caller.At` says, for each place of the caller, where the processors are and what the
  counter is; `Reported` connects `info.error` with the callbacks.
* `rendezvous_complete` is the result, and `RendezvousInv.status` the connection with the
  processors taken one after another.
* `rendezvous_returns`: the call can always go on until it returns.
-/

namespace DeepShield.Os

open DeepShield.Lib

/-! ## The parties -/

/-- The machine: `SmpActiveProcessorCount`, and the processor of the caller. -/
structure Processors where
  processorCount : UInt32
  current : Nat
  current_lt : current < processorCount.toNat

/-- How many there are. -/
abbrev Processors.count (p : Processors) : Nat := p.processorCount.toNat

/-- `DpcRoutine` on one processor: not queued, queued or called, in the callback, with
the callback's status, about to increment `info->sync`, and done. -/
inductive Dpc
  | idle
  | queued
  | calling
  | returned (status : NtStatus)
  | counting
  | finished
deriving Repr, DecidableEq

/-- The caller: queueing, from processor `i` on, in its own `DpcRoutine`, spinning, past
the loop, and back; on a machine of one processor it runs the callback itself. -/
inductive Caller
  | queueing (i : Nat)
  | running
  | spinning
  | exited
  | direct
  | returned (status : NtStatus)
deriving Repr, DecidableEq

/-- `PROCESSOR_INFO`, the parties, and the callbacks that returned, each with the index
it was given. -/
structure Rendezvous where
  sync : UInt32
  error : NtStatus
  dpcs : Nat → Dpc
  caller : Caller
  completed : List (Nat × NtStatus)

/-- `SmpRunPerProcessor` is called. -/
def Rendezvous.start (p : Processors) : Rendezvous where
  sync := 0
  error := statusSuccess
  dpcs _ := .idle
  caller := if p.processorCount > 1 then .queueing 0 else .direct
  completed := []

/-- `DpcRoutine` on processor `i` moves on. -/
def Rendezvous.goto (s : Rendezvous) (i : Nat) (dpc : Dpc) : Rendezvous :=
  { s with dpcs := Function.update s.dpcs i dpc }

/-! ## Steps -/

/-- `DpcRoutine` on processor `i`; `status` is what its callback returns. -/
def dpcStep (s : Rendezvous) (i : Nat) (status : NtStatus) : Option Rendezvous :=
  match s.dpcs i with
  | .idle => none
  | .queued => some (s.goto i .calling)
  | .calling =>
    some ({ s with completed := s.completed ++ [(i, status)] }.goto i (.returned status))
  | .returned result =>
    some ({ s with
      error := if result ≠ statusSuccess then
          (interlockedCompareExchange s.error result statusSuccess).2
        else s.error }.goto i .counting)
  | .counting => some ({ s with sync := s.sync + 1 }.goto i .finished)
  | .finished => none

/-- `SmpRunPerProcessor`; `status` is what the callback returns where it calls it. -/
def callerStep (p : Processors) (s : Rendezvous) (status : NtStatus) : Option Rendezvous :=
  match s.caller with
  | .queueing i =>
    if i < p.count then
      some (if i ≠ p.current then { s with caller := .queueing (i + 1) }.goto i .queued
        else { s with caller := .queueing (i + 1) })
    else some ({ s with caller := .running }.goto p.current .queued)
  | .running => if s.dpcs p.current = .finished then some { s with caller := .spinning } else none
  | .spinning =>
    some { s with
      sync := (interlockedCompareExchange s.sync 0 p.processorCount).2
      -- the loop goes on as long as the old value is not zero
      caller := if s.sync ≠ 0 then .spinning else .exited }
  | .exited => some { s with caller := .returned s.error }
  | .direct =>
    some { s with completed := s.completed ++ [(p.current, status)], caller := .returned status }
  | .returned _ => none

/-- What happens: the caller goes on, or `DpcRoutine` on a processor. -/
inductive SmpAction
  | caller (status : NtStatus)
  | dpc (i : Nat) (status : NtStatus)
deriving Repr, DecidableEq

/-- One step. -/
def smpStep (p : Processors) (s : Rendezvous) : SmpAction → Option Rendezvous
  | .caller status => callerStep p s status
  | .dpc i status => dpcStep s i status

/-! ## The property -/

/-- When the call returns, every processor has run the callback once, with its own
index; no `DpcRoutine` takes another step; and the status is as the callbacks have it. -/
def RendezvousOk (p : Processors) (s : Rendezvous) : Prop :=
  ∀ status, s.caller = .returned status →
    (s.completed.map Prod.fst).Perm (List.range p.count) ∧
    (∀ i outcome, dpcStep s i outcome = none) ∧
    (status = statusSuccess ↔ ∀ call ∈ s.completed, call.2 = statusSuccess) ∧
    (status ≠ statusSuccess → ∃ call ∈ s.completed, call.2 = status)

/-! ## The invariant -/

/-- The callback has returned. -/
def Dpc.called : Dpc → Bool
  | .returned _ | .counting | .finished => true
  | .idle | .queued | .calling => false

/-- `info->sync` has been incremented. -/
def Dpc.done : Dpc → Bool
  | .finished => true
  | .idle | .queued | .calling | .returned _ | .counting => false

/-- What `info.error` says of the callbacks that returned. -/
structure Reported (s : Rendezvous) : Prop where
  once : (s.completed.map Prod.fst).Nodup
  called : ∀ j, j ∈ s.completed.map Prod.fst ↔ (s.dpcs j).called = true
  pending : ∀ j status, s.dpcs j = .returned status → (j, status) ∈ s.completed
  success : s.error = statusSuccess →
    ∀ call ∈ s.completed, call.2 = statusSuccess ∨ s.dpcs call.1 = .returned call.2
  failure : s.error ≠ statusSuccess → ∃ call ∈ s.completed, call.2 = s.error

/-- All processors were queued to, and no others. -/
def AllQueued (p : Processors) (s : Rendezvous) : Prop :=
  ∀ j, s.dpcs j = .idle ↔ p.count ≤ j

/-- The counter counts. -/
def Counts (p : Processors) (s : Rendezvous) : Prop :=
  s.sync.toNat = tally Dpc.done p.count s.dpcs

/-- Every processor is done. -/
def Met (p : Processors) (s : Rendezvous) : Prop :=
  ∀ j < p.count, s.dpcs j = .finished

/-- Where the processors are and what the counter is, for each place of the caller. -/
def Caller.At (p : Processors) (s : Rendezvous) : Caller → Prop
  | .queueing i => i ≤ p.count ∧ Counts p s ∧
      ∀ j, s.dpcs j = .idle ↔ i ≤ j ∨ j = p.current
  | .running => AllQueued p s ∧ Counts p s
  | .spinning => AllQueued p s ∧ s.dpcs p.current = .finished ∧
      (Counts p s ∨ s.sync = 0 ∧ Met p s)
  | .exited => AllQueued p s ∧ Met p s
  | .returned status => AllQueued p s ∧ Met p s ∧ status = s.error
  | .direct => False

/-- **The invariant**: on a machine of one processor the call is a call of the
callback. -/
def RendezvousInv (p : Processors) (s : Rendezvous) : Prop :=
  s.caller.At p s ∧ Reported s ∨
    p.count = 1 ∧ (∀ j, s.dpcs j = .idle) ∧
      (s.caller = .direct ∧ s.completed = [] ∨
        ∃ status, s.caller = .returned status ∧ s.completed = [(p.current, status)])

/-! ## A step of `DpcRoutine` -/

section DpcStep

variable {p : Processors} {s s' : Rendezvous} {i j : Nat} {status : NtStatus}

@[simp] theorem goto_dpcs_same {dpc : Dpc} : (s.goto i dpc).dpcs i = dpc := by
  simp [Rendezvous.goto]

theorem goto_dpcs_ne {dpc : Dpc} (h : j ≠ i) : (s.goto i dpc).dpcs j = s.dpcs j := by
  simp [Rendezvous.goto, h]

/-- What a step of `DpcRoutine` can be. -/
theorem dpcStep_cases (h : dpcStep s i status = some s') :
    (s.dpcs i = .queued ∧ s' = s.goto i .calling) ∨
    (s.dpcs i = .calling ∧
      s' = { s with completed := s.completed ++ [(i, status)] }.goto i (.returned status)) ∨
    (∃ result, s.dpcs i = .returned result ∧
      s' = { s with
        error := if result ≠ statusSuccess then
            (interlockedCompareExchange s.error result statusSuccess).2
          else s.error }.goto i .counting) ∨
    (s.dpcs i = .counting ∧ s' = { s with sync := s.sync + 1 }.goto i .finished) := by
  unfold dpcStep at h
  split at h
  next => exact absurd h.symm (Option.some_ne_none _)
  next hpc => exact Or.inl ⟨hpc, (Option.some.inj h).symm⟩
  next hpc => exact Or.inr (Or.inl ⟨hpc, (Option.some.inj h).symm⟩)
  next result hpc => exact Or.inr (Or.inr (Or.inl ⟨result, hpc, (Option.some.inj h).symm⟩))
  next hpc => exact Or.inr (Or.inr (Or.inr ⟨hpc, (Option.some.inj h).symm⟩))
  next => exact absurd h.symm (Option.some_ne_none _)

/-- A processor that takes a step was queued to and is not done, and moves on. -/
theorem dpcStep_moves (h : dpcStep s i status = some s') :
    s.dpcs i ≠ .idle ∧ s.dpcs i ≠ .finished ∧ s'.caller = s.caller ∧
      ∃ dpc, dpc ≠ .idle ∧ s'.dpcs = Function.update s.dpcs i dpc := by
  rcases dpcStep_cases h with ⟨hpc, rfl⟩ | ⟨hpc, rfl⟩ | ⟨result, hpc, rfl⟩ | ⟨hpc, rfl⟩
  all_goals
    refine ⟨?_, ?_, rfl, _, ?_, rfl⟩
    · rw [hpc]
      exact Dpc.noConfusion
    · rw [hpc]
      exact Dpc.noConfusion
    · exact Dpc.noConfusion

/-- Who was queued to stays so. -/
theorem dpcStep_idle (h : dpcStep s i status = some s') :
    s'.dpcs j = .idle ↔ s.dpcs j = .idle := by
  obtain ⟨hidle, _, _, dpc, hdpc, hdpcs⟩ := dpcStep_moves h
  rw [hdpcs]
  by_cases hji : j = i
  · subst hji
    rw [Function.update_self]
    exact ⟨fun heq => absurd heq hdpc, fun heq => absurd heq hidle⟩
  · rw [Function.update_of_ne hji]

/-- Who is done stays so. -/
theorem dpcStep_finished (h : dpcStep s i status = some s') (hj : s.dpcs j = .finished) :
    s'.dpcs j = .finished := by
  obtain ⟨_, hfinished, _, dpc, _, hdpcs⟩ := dpcStep_moves h
  have hji : j ≠ i := by
    intro heq
    rw [heq] at hj
    exact hfinished hj
  rw [hdpcs, Function.update_of_ne hji]
  exact hj

/-- Nobody takes a step after all are done. -/
theorem Met.no_step (hqueued : AllQueued p s) (hmet : Met p s) :
    dpcStep s i status = none := by
  cases hstep : dpcStep s i status with
  | none => rfl
  | some s' =>
    obtain ⟨hidle, hfinished, _⟩ := dpcStep_moves hstep
    by_cases hi : i < p.count
    · exact absurd (hmet i hi) hfinished
    · exact absurd ((hqueued i).mpr (Nat.le_of_not_lt hi)) hidle

/-- The counter goes on counting: there is room for every processor in it. -/
theorem Counts.dpcStep (hcounts : Counts p s) (hbeyond : ∀ j, p.count ≤ j → s.dpcs j = .idle)
    (h : dpcStep s i status = some s') : Counts p s' := by
  have hi : i < p.count := by
    by_contra hge
    exact (dpcStep_moves h).1 (hbeyond i (Nat.le_of_not_lt hge))
  unfold Counts at hcounts ⊢
  rcases dpcStep_cases h with ⟨hpc, rfl⟩ | ⟨hpc, rfl⟩ | ⟨result, hpc, rfl⟩ | ⟨hpc, rfl⟩
  · exact hcounts.trans (tally_update_same (by rw [hpc]; rfl)).symm
  · exact hcounts.trans (tally_update_same (by rw [hpc]; rfl)).symm
  · exact hcounts.trans (tally_update_same (by rw [hpc]; rfl)).symm
  · have hmore := @tally_update_in _ Dpc.done p.count s.dpcs i .finished hi (by rw [hpc]; rfl) rfl
    have hle := @tally_le _ Dpc.done p.count (Function.update s.dpcs i .finished)
    have hlt : p.count < 2 ^ 32 := p.processorCount.toNat_lt
    show (s.sync + 1).toNat = _
    rw [UInt32.toNat_add]
    show (s.sync.toNat + 1) % 2 ^ 32 = tally Dpc.done p.count (Function.update s.dpcs i .finished)
    rw [hmore] at hle ⊢
    rw [hcounts]
    exact Nat.mod_eq_of_lt (by omega)

/-- A step that neither ends a callback nor reports one. -/
theorem Reported.move {dpc : Dpc} (hrep : Reported s) (hold : ∀ result, s.dpcs i ≠ .returned result)
    (hnew : ∀ result, dpc ≠ .returned result) (hsame : dpc.called = (s.dpcs i).called)
    (herror : s'.error = s.error) (hcompleted : s'.completed = s.completed)
    (hdpcs : s'.dpcs = Function.update s.dpcs i dpc) : Reported s' where
  once := by rw [hcompleted]; exact hrep.once
  called j := by
    rw [hcompleted, hdpcs, hrep.called]
    by_cases hji : j = i
    · rw [hji, Function.update_self, hsame]
    · rw [Function.update_of_ne hji]
  pending j result hj := by
    rw [hdpcs] at hj
    rw [hcompleted]
    by_cases hji : j = i
    · rw [hji, Function.update_self] at hj
      exact absurd hj (hnew result)
    · rw [Function.update_of_ne hji] at hj
      exact hrep.pending j result hj
  success herr call hcall := by
    rw [herror] at herr
    rw [hcompleted] at hcall
    rcases hrep.success herr call hcall with hsuccess | hreturned
    · exact Or.inl hsuccess
    · have hne : call.1 ≠ i := by
        intro heq
        rw [heq] at hreturned
        exact hold call.2 hreturned
      rw [hdpcs, Function.update_of_ne hne]
      exact Or.inr hreturned
  failure herr := by
    rw [herror] at herr ⊢
    rw [hcompleted]
    exact hrep.failure herr

/-- **A callback that returns** is recorded, and still to be reported. -/
theorem Reported.complete (hrep : Reported s) (hpc : s.dpcs i = .calling) :
    Reported
      ({ s with completed := s.completed ++ [(i, status)] }.goto i (.returned status)) where
  once := by
    have hfresh : i ∉ s.completed.map Prod.fst := by
      rw [hrep.called, hpc]
      exact Bool.noConfusion
    show ((s.completed ++ [(i, status)]).map Prod.fst).Nodup
    rw [List.map_append]
    refine List.nodup_append.mpr ⟨hrep.once, List.nodup_singleton i, fun j hj k hk hjk => ?_⟩
    obtain rfl := List.mem_singleton.mp hk
    exact hfresh (hjk ▸ hj)
  called j := by
    show j ∈ (s.completed ++ [(i, status)]).map Prod.fst ↔ _
    rw [List.map_append, List.mem_append, hrep.called, List.map_singleton, List.mem_singleton]
    by_cases hji : j = i
    · subst hji
      simp [Dpc.called]
    · rw [goto_dpcs_ne hji]
      simp [hji]
  pending j result hj := by
    refine List.mem_append.mpr ?_
    by_cases hji : j = i
    · rw [hji, goto_dpcs_same] at hj
      obtain rfl := Dpc.returned.inj hj
      exact Or.inr (by rw [hji]; exact List.mem_singleton.mpr rfl)
    · rw [goto_dpcs_ne hji] at hj
      exact Or.inl (hrep.pending j result hj)
  success herr call hcall := by
    rcases List.mem_append.mp hcall with hold | hnew
    · rcases hrep.success herr call hold with hsuccess | hreturned
      · exact Or.inl hsuccess
      · have hne : call.1 ≠ i := by
          intro heq
          rw [heq, hpc] at hreturned
          exact Dpc.noConfusion hreturned
        rw [goto_dpcs_ne hne]
        exact Or.inr hreturned
    · obtain rfl := List.mem_singleton.mp hnew
      exact Or.inr goto_dpcs_same
  failure herr := by
    obtain ⟨call, hcall, hstatus⟩ := hrep.failure herr
    exact ⟨call, List.mem_append_left _ hcall, hstatus⟩

/-- The first failure that is reported is kept. -/
theorem error_after_report {error result : NtStatus} :
    (if result ≠ statusSuccess then (interlockedCompareExchange error result statusSuccess).2
      else error) = if error = statusSuccess then result else error := by
  unfold interlockedCompareExchange
  by_cases hresult : result = statusSuccess
  · by_cases herror : error = statusSuccess
    · simp [hresult, herror]
    · simp [hresult, herror]
  · simp [hresult]

/-- **Reporting** a callback's status. -/
theorem Reported.report {result : NtStatus} (hrep : Reported s)
    (hpc : s.dpcs i = .returned result) :
    Reported ({ s with error := if s.error = statusSuccess then result else s.error }.goto i
      .counting) where
  once := hrep.once
  called j := by
    refine (hrep.called j).trans ?_
    by_cases hji : j = i
    · rw [hji, goto_dpcs_same, hpc]
      rfl
    · rw [goto_dpcs_ne hji]
  pending j outcome hj := by
    by_cases hji : j = i
    · rw [hji, goto_dpcs_same] at hj
      exact Dpc.noConfusion hj
    · rw [goto_dpcs_ne hji] at hj
      exact hrep.pending j outcome hj
  success herr call hcall := by
    have hboth : s.error = statusSuccess ∧ result = statusSuccess := by
      by_cases herror : s.error = statusSuccess
      · exact ⟨herror, by simpa [Rendezvous.goto, herror] using herr⟩
      · simp [Rendezvous.goto, herror] at herr
    rcases hrep.success hboth.1 call hcall with hsuccess | hreturned
    · exact Or.inl hsuccess
    · by_cases hcalli : call.1 = i
      · rw [hcalli, hpc] at hreturned
        exact Or.inl ((Dpc.returned.inj hreturned).symm.trans hboth.2)
      · rw [goto_dpcs_ne hcalli]
        exact Or.inr hreturned
  failure herr := by
    by_cases herror : s.error = statusSuccess
    · refine ⟨(i, result), hrep.pending i result hpc, ?_⟩
      simp [Rendezvous.goto, herror]
    · obtain ⟨call, hcall, hstatus⟩ := hrep.failure herror
      refine ⟨call, hcall, ?_⟩
      simpa [Rendezvous.goto, herror] using hstatus

/-- **What `DpcRoutine` reports.** -/
theorem Reported.dpcStep (hrep : Reported s) (h : dpcStep s i status = some s') :
    Reported s' := by
  rcases dpcStep_cases h with ⟨hpc, rfl⟩ | ⟨hpc, rfl⟩ | ⟨result, hpc, rfl⟩ | ⟨hpc, rfl⟩
  · refine hrep.move ?_ ?_ ?_ rfl rfl rfl
    · exact fun result heq => Dpc.noConfusion (hpc.symm.trans heq)
    · exact fun result => Dpc.noConfusion
    · rw [hpc]
      rfl
  · exact hrep.complete hpc
  · rw [error_after_report]
    exact hrep.report hpc
  · refine hrep.move ?_ ?_ ?_ rfl rfl rfl
    · exact fun result heq => Dpc.noConfusion (hpc.symm.trans heq)
    · exact fun result => Dpc.noConfusion
    · rw [hpc]
      rfl

/-- The place of the caller stays right while a processor goes on. -/
theorem Caller.At.dpcStep {caller : Caller} (hat : caller.At p s)
    (h : Os.dpcStep s i status = some s') : caller.At p s' := by
  have hqueued : AllQueued p s → AllQueued p s' := fun hall j => (dpcStep_idle h).trans (hall j)
  have hmet : Met p s → Met p s' := fun hall j hj => dpcStep_finished h (hall j hj)
  cases caller with
  | queueing i =>
    obtain ⟨hle, hcounts, hidle⟩ := hat
    have hbeyond : ∀ j, p.count ≤ j → s.dpcs j = .idle := fun j hj =>
      (hidle j).mpr (Or.inl (Nat.le_trans hle hj))
    exact ⟨hle, hcounts.dpcStep hbeyond h, fun j => (dpcStep_idle h).trans (hidle j)⟩
  | running =>
    obtain ⟨hall, hcounts⟩ := hat
    exact ⟨hqueued hall, hcounts.dpcStep (fun j => (hall j).mpr) h⟩
  | spinning =>
    obtain ⟨hall, hown, hcounts⟩ := hat
    refine ⟨hqueued hall, dpcStep_finished h hown, ?_⟩
    rcases hcounts with hcounts | ⟨_, hdone⟩
    · exact Or.inl (hcounts.dpcStep (fun j => (hall j).mpr) h)
    · rw [hdone.no_step hall] at h
      exact absurd h.symm (Option.some_ne_none _)
  | exited => exact ⟨hqueued hat.1, hmet hat.2⟩
  | direct => exact hat
  | returned outcome =>
    rw [hat.2.1.no_step hat.1] at h
    exact absurd h.symm (Option.some_ne_none _)

end DpcStep

/-! ## A step of the caller -/

section CallerStep

variable {p : Processors} {s s' : Rendezvous} {status : NtStatus}

/-- What is reported does not depend on the counter and the caller. -/
theorem Reported.congr (hrep : Reported s) (herror : s'.error = s.error)
    (hcompleted : s'.completed = s.completed) (hdpcs : s'.dpcs = s.dpcs) : Reported s' where
  once := by rw [hcompleted]; exact hrep.once
  called := by rw [hcompleted, hdpcs]; exact hrep.called
  pending := by rw [hcompleted, hdpcs]; exact hrep.pending
  success := by rw [herror, hcompleted, hdpcs]; exact hrep.success
  failure := by rw [herror, hcompleted]; exact hrep.failure

/-- **Queueing** to a processor that was idle. -/
theorem Reported.queue {i : Nat} (hrep : Reported s) (hidle : s.dpcs i = .idle)
    (herror : s'.error = s.error) (hcompleted : s'.completed = s.completed)
    (hdpcs : s'.dpcs = Function.update s.dpcs i .queued) : Reported s' := by
  refine hrep.move ?_ ?_ ?_ herror hcompleted hdpcs
  · exact fun result heq => Dpc.noConfusion (hidle.symm.trans heq)
  · exact fun result => Dpc.noConfusion
  · rw [hidle]
    rfl

theorem Counts.queue {i : Nat} (hcounts : Counts p s) (hidle : s.dpcs i = .idle)
    (hsync : s'.sync = s.sync) (hdpcs : s'.dpcs = Function.update s.dpcs i .queued) :
    Counts p s' := by
  unfold Counts at hcounts ⊢
  rw [hsync, hdpcs, hcounts]
  exact (tally_update_same (by rw [hidle]; rfl)).symm

/-- **The caller queues**: to the next processor, to none, or to itself at last. -/
theorem callerStep_queueing {i : Nat} (hpc : s.caller = .queueing i)
    (hat : (Caller.queueing i).At p s) (hrep : Reported s)
    (h : callerStep p s status = some s') : s'.caller.At p s' ∧ Reported s' := by
  have hcurrent : p.current < p.count := p.current_lt
  obtain ⟨hle, hcounts, hidle⟩ := hat
  simp only [callerStep, hpc] at h
  by_cases hi : i < p.count
  · rw [if_pos hi] at h
    by_cases hown : i = p.current
    · rw [if_neg (not_not_intro hown)] at h
      obtain rfl := Option.some.inj h
      refine ⟨⟨hi, hcounts, fun j => (hidle j).trans ?_⟩, hrep.congr rfl rfl rfl⟩
      omega
    · have hfree : s.dpcs i = .idle := (hidle i).mpr (Or.inl (Nat.le_refl i))
      rw [if_pos hown] at h
      obtain rfl := Option.some.inj h
      refine ⟨⟨hi, hcounts.queue hfree rfl rfl, fun j => ?_⟩, hrep.queue hfree rfl rfl rfl⟩
      by_cases hji : j = i
      · rw [hji, goto_dpcs_same]
        exact ⟨Dpc.noConfusion, fun hor => absurd hor (by omega)⟩
      · rw [goto_dpcs_ne hji]
        exact (hidle j).trans (by omega)
  · have hfree : s.dpcs p.current = .idle := (hidle p.current).mpr (Or.inr rfl)
    rw [if_neg hi] at h
    obtain rfl := Option.some.inj h
    refine ⟨⟨fun j => ?_, hcounts.queue hfree rfl rfl⟩, hrep.queue hfree rfl rfl rfl⟩
    by_cases hj : j = p.current
    · rw [hj, goto_dpcs_same]
      exact ⟨Dpc.noConfusion, fun hge => absurd hge (by omega)⟩
    · rw [goto_dpcs_ne hj]
      exact (hidle j).trans (by omega)

/-- **The caller spins**: it resets a full counter, and leaves only one that was reset,
because its own increment is counted. -/
theorem callerStep_spinning (hpc : s.caller = .spinning) (hat : Caller.spinning.At p s)
    (hrep : Reported s) (h : callerStep p s status = some s') :
    s'.caller.At p s' ∧ Reported s' := by
  have hcurrent := p.current_lt
  obtain ⟨hqueued, hown, hcounts⟩ := hat
  unfold callerStep at h
  rw [hpc] at h
  obtain rfl := Option.some.inj h
  refine ⟨?_, hrep.congr rfl rfl rfl⟩
  by_cases hzero : s.sync = 0
  · rw [if_neg (not_not_intro hzero)]
    rcases hcounts with hcounts | ⟨_, hmet⟩
    · have hnone : tally Dpc.done p.count s.dpcs = 0 := by
        rw [← hcounts, hzero]
        rfl
      have hnot := tally_eq_zero_iff.mp hnone p.current hcurrent
      rw [hown] at hnot
      exact absurd hnot (by decide)
    · exact ⟨hqueued, hmet⟩
  · rw [if_pos hzero]
    refine ⟨hqueued, hown, ?_⟩
    rcases hcounts with hcounts | ⟨hreset, _⟩
    · by_cases hfull : s.sync = p.processorCount
      · refine Or.inr ⟨if_pos hfull, fun j hj => ?_⟩
        have hall : tally Dpc.done p.count s.dpcs = p.count := by
          rw [← hcounts, hfull]
        have hdone := tally_eq_iff.mp hall j hj
        cases hdpc : s.dpcs j with
        | finished => rfl
        | idle | queued | calling | returned _ | counting =>
          rw [hdpc] at hdone
          exact absurd hdone (by simp [Dpc.done])
      · refine Or.inl ?_
        show (interlockedCompareExchange s.sync 0 p.processorCount).2.toNat = _
        rw [interlockedCompareExchange, if_neg hfull]
        exact hcounts
    · exact absurd hreset hzero

/-- **A step of the caller**, wherever it is on a machine of several processors. -/
theorem callerStep_at (hat : s.caller.At p s) (hrep : Reported s)
    (h : callerStep p s status = some s') : s'.caller.At p s' ∧ Reported s' := by
  cases hpc : s.caller with
  | queueing i =>
    rw [hpc] at hat
    exact callerStep_queueing hpc hat hrep h
  | running =>
    rw [hpc] at hat
    simp only [callerStep, hpc] at h
    split at h
    next hown =>
      obtain rfl := Option.some.inj h
      exact ⟨⟨hat.1, hown, Or.inl hat.2⟩, hrep.congr rfl rfl rfl⟩
    next => exact absurd h.symm (Option.some_ne_none _)
  | spinning =>
    rw [hpc] at hat
    exact callerStep_spinning hpc hat hrep h
  | exited =>
    rw [hpc] at hat
    simp only [callerStep, hpc] at h
    obtain rfl := Option.some.inj h
    exact ⟨⟨hat.1, hat.2, rfl⟩, hrep.congr rfl rfl rfl⟩
  | direct =>
    rw [hpc] at hat
    exact absurd hat id
  | returned outcome =>
    simp only [callerStep, hpc] at h
    exact absurd h.symm (Option.some_ne_none _)

end CallerStep

/-! ## Every run -/

variable {p : Processors} {s s' : Rendezvous} {action : SmpAction}

/-- The invariant holds at the call. -/
theorem rendezvousInv_start : RendezvousInv p (.start p) := by
  have hcurrent : p.current < p.count := p.current_lt
  by_cases hmany : p.processorCount > 1
  · left
    have hcaller : (Rendezvous.start p).caller = .queueing 0 := if_pos hmany
    rw [hcaller]
    refine ⟨⟨Nat.zero_le _, ?_, fun j => ⟨fun _ => Or.inl (Nat.zero_le j), fun _ => rfl⟩⟩, ?_⟩
    · exact (tally_eq_zero_iff.mpr fun _ _ => rfl).symm
    · exact
        { once := List.nodup_nil
          called := fun j => ⟨fun h => absurd h List.not_mem_nil, Bool.noConfusion⟩
          pending := fun j result h => Dpc.noConfusion h
          success := fun _ call hcall => absurd hcall List.not_mem_nil
          failure := fun h => absurd rfl h }
  · right
    have hone : p.count = 1 := by
      have hle : p.count ≤ 1 := Nat.le_of_not_lt fun hlt => hmany (UInt32.lt_iff_toNat_lt.mpr hlt)
      omega
    exact ⟨hone, fun _ => rfl, Or.inl ⟨if_neg hmany, rfl⟩⟩

/-- **One step** keeps the invariant. -/
theorem smpStep_inv (hinv : RendezvousInv p s) (h : smpStep p s action = some s') :
    RendezvousInv p s' := by
  cases action with
  | dpc i status =>
    rcases hinv with ⟨hat, hrep⟩ | ⟨_, hidle, _⟩
    · left
      have hcaller : s'.caller = s.caller := (dpcStep_moves h).2.2.1
      rw [hcaller]
      exact ⟨hat.dpcStep h, hrep.dpcStep h⟩
    · exact absurd (hidle i) (dpcStep_moves h).1
  | caller status =>
    rcases hinv with ⟨hat, hrep⟩ | ⟨hone, hidle, hdirect⟩
    · exact Or.inl (callerStep_at hat hrep h)
    · right
      rcases hdirect with ⟨hpc, hnone⟩ | ⟨outcome, hpc, _⟩
      · have hstep : callerStep p s status = some s' := h
        simp only [callerStep, hpc] at hstep
        obtain rfl := Option.some.inj hstep
        exact ⟨hone, hidle, Or.inr ⟨status, rfl, by rw [hnone]; rfl⟩⟩
      · have hstep : callerStep p s status = some s' := h
        simp only [callerStep, hpc] at hstep
        exact absurd hstep.symm (Option.some_ne_none _)

/-- All processors are done, and what they report is complete. -/
theorem Reported.ok (hrep : Reported s) (hqueued : AllQueued p s) (hmet : Met p s) :
    (s.completed.map Prod.fst).Perm (List.range p.count) ∧
    (s.error = statusSuccess ↔ ∀ call ∈ s.completed, call.2 = statusSuccess) ∧
    (s.error ≠ statusSuccess → ∃ call ∈ s.completed, call.2 = s.error) := by
  have hcalled : ∀ j, (s.dpcs j).called = true ↔ j < p.count := by
    intro j
    by_cases hj : j < p.count
    · rw [hmet j hj]
      exact ⟨fun _ => hj, fun _ => rfl⟩
    · rw [(hqueued j).mpr (Nat.le_of_not_lt hj)]
      exact ⟨Bool.noConfusion, fun hlt => absurd hlt hj⟩
  refine ⟨?_, ⟨fun herror call hcall => ?_, fun hall => ?_⟩, hrep.failure⟩
  · refine (List.perm_ext_iff_of_nodup hrep.once List.nodup_range).mpr fun j => ?_
    rw [hrep.called, hcalled, List.mem_range]
  · rcases hrep.success herror call hcall with hsuccess | hreturned
    · exact hsuccess
    · have hin : call.1 ∈ s.completed.map Prod.fst := List.mem_map_of_mem hcall
      have hlt := (hcalled call.1).mp ((hrep.called call.1).mp hin)
      exact Dpc.noConfusion ((hmet call.1 hlt).symm.trans hreturned)
  · by_contra herror
    obtain ⟨call, hcall, hstatus⟩ := hrep.failure herror
    exact herror (hstatus ▸ hall call hcall)

theorem RendezvousInv.ok (hinv : RendezvousInv p s) : RendezvousOk p s := by
  have hcurrent : p.current < p.count := p.current_lt
  intro status hpc
  rcases hinv with ⟨hat, hrep⟩ | ⟨hone, hidle, hdirect⟩
  · rw [hpc] at hat
    obtain ⟨hqueued, hmet, rfl⟩ := hat
    obtain ⟨hperm, hsuccess, hfailure⟩ := hrep.ok hqueued hmet
    exact ⟨hperm, fun i outcome => hmet.no_step hqueued, hsuccess, hfailure⟩
  · rcases hdirect with ⟨hdirect, _⟩ | ⟨outcome, hreturned, hcompleted⟩
    · exact Caller.noConfusion (hdirect.symm.trans hpc)
    · obtain rfl := Caller.returned.inj (hreturned.symm.trans hpc)
      have hzero : p.current = 0 := by omega
      rw [hcompleted, hone, hzero]
      refine ⟨List.Perm.refl _, fun i status => ?_, ?_, fun _ => ⟨(0, outcome), by simp⟩⟩
      · simp [dpcStep, hidle i]
      · simp

/-- **One after another**: a call returns success exactly if it would with the
processors taken one after another, in any order. -/
theorem RendezvousInv.status {σ : Type} {callback : ProcessorCallback σ} {status : Nat → NtStatus}
    {result : NtStatus} (hinv : RendezvousInv p s) (hpc : s.caller = .returned result)
    (hcalls : ∀ call ∈ s.completed, call.2 = status call.1)
    (hstatus : ∀ i x, (callback i x).1 = status i) (smp : Smp) (hcount : smp.count = p.count)
    (x : σ) :
    result = statusSuccess ↔ (smpRunPerProcessor smp callback x).1 = statusSuccess := by
  obtain ⟨hperm, _, hsuccess, _⟩ := hinv.ok result hpc
  rw [hsuccess, smpRunPerProcessor_success_iff hstatus, hcount]
  constructor
  · intro hall i hi
    obtain ⟨call, hcall, rfl⟩ := List.mem_map.mp (hperm.mem_iff.mpr (List.mem_range.mpr hi))
    rw [← hcalls call hcall]
    exact hall call hcall
  · intro hall call hcall
    rw [hcalls call hcall]
    exact hall call.1 (List.mem_range.mp (hperm.mem_iff.mp (List.mem_map_of_mem hcall)))

/-- **The rendezvous is complete**, in every interleaving of the processors with the
caller. -/
theorem rendezvous_complete (p : Processors) (actions : List SmpAction) :
    Always (smpStep p) (RendezvousOk p) (.start p) actions :=
  always_of_inv RendezvousInv.ok smpStep_inv rendezvousInv_start

/-! ## The call returns -/

/-- The steps a processor has before it. -/
def Dpc.toGo : Dpc → Nat
  | .idle => 5
  | .queued => 4
  | .calling => 3
  | .returned _ => 2
  | .counting => 1
  | .finished => 0

/-- The steps the caller has, which spins once more after it has reset the counter. -/
def Caller.toGo (p : Processors) (sync : UInt32) : Caller → Nat
  | .queueing i => p.count - i + 5
  | .running => 4
  | .spinning => if sync = 0 then 2 else 3
  | .exited | .direct => 1
  | .returned _ => 0

/-- What is left to do. The counter moves with a processor, which therefore counts twice. -/
def Rendezvous.toGo (p : Processors) (s : Rendezvous) : Nat :=
  2 * total Dpc.toGo p.count s.dpcs + s.caller.toGo p s.sync

section Returns

variable {i : Nat}

theorem Caller.toGo_spinning (sync : UInt32) :
    Caller.spinning.toGo p sync = if sync = 0 then 2 else 3 := rfl

theorem Caller.toGo_spinning_bounds (sync : UInt32) :
    2 ≤ Caller.spinning.toGo p sync ∧ Caller.spinning.toGo p sync ≤ 3 := by
  rw [toGo_spinning]
  split
  next => omega
  next => omega

theorem Caller.toGo_le (caller : Caller) (sync sync' : UInt32) :
    caller.toGo p sync' ≤ caller.toGo p sync + 1 := by
  cases caller with
  | spinning =>
    have hbefore := @toGo_spinning_bounds p sync
    have hafter := @toGo_spinning_bounds p sync'
    omega
  | queueing | running | exited | direct | returned => exact Nat.le_succ _

/-- **A processor** that is queued to and not done gets on. -/
theorem dpcStep_advances (hi : i < p.count) (hidle : s.dpcs i ≠ .idle)
    (hfinished : s.dpcs i ≠ .finished) :
    ∃ s', smpStep p s (.dpc i statusSuccess) = some s' ∧ s'.toGo p < s.toGo p := by
  have hless : ∀ {t : Rendezvous} {dpc}, t.dpcs = s.dpcs → t.caller = s.caller →
      dpc.toGo < (s.dpcs i).toGo → (t.goto i dpc).toGo p < s.toGo p := by
    intro t dpc hdpcs hcaller hdpc
    have hlighter := @total_update_lt _ Dpc.toGo p.count i s.dpcs dpc hi hdpc
    have hsync := s.caller.toGo_le (p := p) s.sync t.sync
    show 2 * total Dpc.toGo p.count (Function.update t.dpcs i dpc) + t.caller.toGo p t.sync < _
    rw [hdpcs, hcaller]
    unfold Rendezvous.toGo
    omega
  show ∃ s', dpcStep s i statusSuccess = some s' ∧ _
  cases hpc : s.dpcs i with
  | idle => exact absurd hpc hidle
  | finished => exact absurd hpc hfinished
  | queued =>
    simp only [dpcStep, hpc]
    exact ⟨_, rfl, hless rfl rfl (by rw [hpc]; decide)⟩
  | calling =>
    simp only [dpcStep, hpc]
    exact ⟨_, rfl, hless rfl rfl (by rw [hpc]; exact Nat.lt_succ_self 2)⟩
  | returned result =>
    simp only [dpcStep, hpc]
    exact ⟨_, rfl, hless rfl rfl (by rw [hpc]; exact Nat.lt_succ_self 1)⟩
  | counting =>
    simp only [dpcStep, hpc]
    exact ⟨_, rfl, hless rfl rfl (by rw [hpc]; decide)⟩

/-- The caller queues a DPC, passes its own processor by, or goes on to that. -/
theorem queueing_advances (hpc : s.caller = .queueing i)
    (hidle : ∀ j, s.dpcs j = .idle ↔ i ≤ j ∨ j = p.current) :
    ∃ s', callerStep p s statusSuccess = some s' ∧ s'.toGo p < s.toGo p := by
  have hlighter : ∀ {j}, j < p.count → s.dpcs j = .idle →
      total Dpc.toGo p.count (Function.update s.dpcs j .queued)
        < total Dpc.toGo p.count s.dpcs :=
    fun hj hjidle => total_update_lt hj (by rw [hjidle]; decide)
  simp only [callerStep, hpc]
  by_cases hi : i < p.count
  · rw [if_pos hi]
    refine ⟨_, rfl, ?_⟩
    by_cases hcurrent : i ≠ p.current
    · rw [if_pos hcurrent]
      have hqueued := hlighter hi ((hidle i).mpr (Or.inl (Nat.le_refl i)))
      show 2 * total Dpc.toGo p.count (Function.update s.dpcs i .queued) + _ < _
      unfold Rendezvous.toGo
      rw [hpc]
      show _ + (p.count - (i + 1) + 5) < _ + (p.count - i + 5)
      omega
    · rw [if_neg hcurrent]
      unfold Rendezvous.toGo
      rw [hpc]
      show 2 * total Dpc.toGo p.count s.dpcs + (p.count - (i + 1) + 5) < _ + (p.count - i + 5)
      omega
  · rw [if_neg hi]
    refine ⟨_, rfl, ?_⟩
    have hqueued := hlighter p.current_lt ((hidle p.current).mpr (Or.inr rfl))
    unfold Rendezvous.toGo
    rw [hpc]
    show 2 * total Dpc.toGo p.count (Function.update s.dpcs p.current .queued) + 4
      < _ + (p.count - i + 5)
    omega

/-- The caller sees the full count and resets it, or sees that it was reset and leaves. -/
theorem spinning_advances (hpc : s.caller = .spinning)
    (hfull : s.sync = p.processorCount ∨ s.sync = 0) :
    ∃ s', callerStep p s statusSuccess = some s' ∧ s'.toGo p < s.toGo p := by
  simp only [callerStep, hpc]
  refine ⟨_, rfl, ?_⟩
  unfold Rendezvous.toGo
  rw [hpc]
  by_cases hzero : s.sync = 0
  · rw [if_neg (fun hne => hne hzero), Caller.toGo_spinning, if_pos hzero]
    show 2 * total Dpc.toGo p.count s.dpcs + 1 < _
    omega
  · rw [if_pos hzero, interlockedCompareExchange, if_pos (hfull.resolve_right hzero),
      Caller.toGo_spinning, Caller.toGo_spinning, if_pos rfl, if_neg hzero]
    show 2 * total Dpc.toGo p.count s.dpcs + 2 < _
    omega

/-- **The caller** gets on once no processor can. -/
theorem callerStep_advances (hat : s.caller.At p s)
    (hrest : ∀ i < p.count, s.dpcs i = .idle ∨ s.dpcs i = .finished)
    (hnot : ∀ status, s.caller ≠ .returned status) :
    ∃ s', smpStep p s (.caller statusSuccess) = some s' ∧ s'.toGo p < s.toGo p := by
  have hmet : AllQueued p s → Met p s := by
    intro hqueued j hj
    refine (hrest j hj).resolve_left fun hidle => ?_
    exact absurd ((hqueued j).mp hidle) (Nat.not_le_of_lt hj)
  show ∃ s', callerStep p s statusSuccess = some s' ∧ _
  cases hpc : s.caller with
  | queueing i =>
    rw [hpc] at hat
    exact queueing_advances hpc hat.2.2
  | running =>
    rw [hpc] at hat
    simp only [callerStep, hpc, hmet hat.1 p.current p.current_lt, if_true]
    refine ⟨_, rfl, ?_⟩
    have hspinning := (@Caller.toGo_spinning_bounds p s.sync).2
    unfold Rendezvous.toGo
    rw [hpc]
    show 2 * total Dpc.toGo p.count s.dpcs + Caller.spinning.toGo p s.sync < _ + 4
    omega
  | spinning =>
    rw [hpc] at hat
    obtain ⟨hqueued, hown, hcounts⟩ := hat
    -- all have called back, so that the count is full if it was not reset
    have hall : tally Dpc.done p.count s.dpcs = p.count := by
      refine tally_eq_iff.mpr fun j hj => ?_
      rw [hmet hqueued j hj]
      rfl
    refine spinning_advances hpc (hcounts.imp (fun hcounts => ?_) And.left)
    exact UInt32.toNat_inj.mp (hcounts.trans hall)
  | exited =>
    simp only [callerStep, hpc]
    refine ⟨_, rfl, ?_⟩
    unfold Rendezvous.toGo
    rw [hpc]
    exact Nat.lt_succ_self _
  | direct =>
    rw [hpc] at hat
    exact absurd hat id
  | returned status => exact absurd hpc (hnot status)

/-- **The call returns**: whatever the caller and the processors have done, they can go on
until it has. -/
theorem rendezvous_returns {actions : List SmpAction}
    (hrun : actions.foldlM (smpStep p) (.start p) = some s) :
    Leads (smpStep p) (fun s => ∃ status, s.caller = .returned status) s := by
  refine leads_of_measure (Rendezvous.toGo p) (fun {t} hinv => ?_)
    (inv_of_run smpStep_inv rendezvousInv_start hrun)
  by_cases hdone : ∃ status, t.caller = .returned status
  · exact Or.inl hdone
  have hnot : ∀ status, t.caller ≠ .returned status := fun status heq => hdone ⟨status, heq⟩
  have hlead : ∀ {action t'}, smpStep p t action = some t' → t'.toGo p < t.toGo p →
      Leads (smpStep p) (fun t' => RendezvousInv p t' ∧ t'.toGo p < t.toGo p) t :=
    fun hstep hless => Leads.after hstep (Leads.here ⟨smpStep_inv hinv hstep, hless⟩)
  right
  rcases hinv with ⟨hat, _⟩ | ⟨_, _, ⟨hdirect, _⟩ | ⟨status, hreturned, _⟩⟩
  · by_cases hpending : ∃ i < p.count, t.dpcs i ≠ .idle ∧ t.dpcs i ≠ .finished
    · obtain ⟨i, hi, hidle, hfinished⟩ := hpending
      obtain ⟨t', hstep, hless⟩ := dpcStep_advances hi hidle hfinished
      exact hlead hstep hless
    · have hrest : ∀ i < p.count, t.dpcs i = .idle ∨ t.dpcs i = .finished := by
        intro i hi
        by_contra hneither
        exact hpending ⟨i, hi, fun h => hneither (Or.inl h), fun h => hneither (Or.inr h)⟩
      obtain ⟨t', hstep, hless⟩ := callerStep_advances hat hrest hnot
      exact hlead hstep hless
  · have hstep : smpStep p t (.caller statusSuccess)
        = some { t with
          completed := t.completed ++ [(p.current, statusSuccess)]
          caller := .returned statusSuccess } := by
      show callerStep p t statusSuccess = _
      simp only [callerStep, hdirect]
    refine hlead hstep ?_
    unfold Rendezvous.toGo
    rw [hdirect]
    exact Nat.lt_succ_self _
  · exact absurd hreturned (hnot status)

end Returns

/-- Two processors; the callback fails on the other one, whose DPC comes late. -/
example : ([.caller 0, .caller 0, .caller 0, .dpc 0 0, .dpc 0 0, .dpc 0 0, .dpc 0 0, .caller 0,
      .caller 0, .dpc 1 0, .dpc 1 statusUnsuccessful, .dpc 1 0, .dpc 1 0, .caller 0, .caller 0,
      .caller 0].foldlM (smpStep ⟨2, 0, by decide⟩) (.start ⟨2, 0, by decide⟩)).map
        Rendezvous.caller = some (.returned statusUnsuccessful) := by decide

end DeepShield.Os
