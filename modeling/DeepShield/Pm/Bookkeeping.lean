import DeepShield.Lib.Runs
import DeepShield.Pm.ProcessTable

/-!
# Exclusion bookkeeping

Runs of process-notify callbacks and dispatched records over the process table,
with the dispatches remembered that were made since the present entry of their
process was created (`History`).

In every state of every run (`always_booked`), whatever the kernel answers to the
calls that are made:

* a thread is excluded on the list of a process exactly if a dispatch for the two
  succeeded since the entry of the process was created;
* creating an entry that is present changes nothing;
* the exclusion entry of a dispatch that succeeded is freed once, by the deletion
  of its process; that of a dispatch that failed once, by the dispatch;
* the next event completes: no access goes wrong, nothing is freed twice, no loop
  goes on for ever.
-/

namespace DeepShield.Pm

open DeepShield.Lib DeepShield.Os DeepShield.Rtl.Unbounded

/-! ## Runs -/

/-- What happens to the process table. -/
inductive PmEvent
  | create (processId : UInt64) (outcome : CreationOutcome)
  | delete (processId : UInt64)
  | dispatch (processId threadId : UInt64) (outcome : ExclusionOutcome)

/-- What is remembered of a dispatch: for which process and thread it was, the
address of the exclusion entry it allocated, and the status it ended with. -/
structure DispatchRecord where
  processId : UInt64
  thread : Option UInt64
  exclusion : Option Nat
  status : NtStatus
deriving Repr, DecidableEq

/-- The state and the dispatches that count. -/
structure History where
  state : PmState
  since : List DispatchRecord

/-- Before the first event. -/
def History.initial : History := ⟨pmInitializeProcessTable, []⟩

/-- The thread with an id. -/
def threadOf (outcome : ExclusionOutcome) (threadId : UInt64) : Option UInt64 :=
  (outcome.psLookupThreadByThreadId (lowPart threadId)).toOption

/-- The address given out between two states. -/
def allocatedBetween (s s' : PmState) : Option Nat :=
  if s'.pool.allocated = s.pool.allocated then none else some s.pool.allocated

/-- The dispatches for other processes. -/
def since (h : History) (processId : UInt64) : List DispatchRecord :=
  h.since.filter fun record => record.processId ≠ processId

/-- One event. The records of a process count from the creation of its entry to its
deletion. -/
def historyStep (h : History) : PmEvent → Option History
  | .create processId outcome => do
    let state ← dsProcessCreationCallback outcome processId h.state
    let created := (pmLookupProcessEntryById h.state processId).isNone &&
      (pmLookupProcessEntryById state processId).isSome
    return { state := state, since := if created then since h processId else h.since }
  | .delete processId => do
    let state ← dsProcessDeletionCallback processId h.state
    return { state := state, since := since h processId }
  | .dispatch processId threadId outcome => do
    let (status, state) ← dispatchTimerFalsePositive outcome processId threadId h.state
    return {
      state := state
      since :=
        { processId := lowPart processId
          thread := threadOf outcome threadId
          exclusion := allocatedBetween h.state state
          status := status } :: h.since }

/-! ## What is booked -/

/-- The dispatch completed successfully. -/
def DispatchRecord.Completed (record : DispatchRecord) : Prop :=
  ntSuccess record.status = true

instance (record : DispatchRecord) : Decidable record.Completed :=
  inferInstanceAs (Decidable (_ = _))

/-- A thread is excluded exactly if a dispatch completed for it. -/
def ExcludedExactly (h : History) : Prop :=
  ∀ p processEntry, h.state.gProcessTree p = some processEntry → ∀ thread,
    pmIsThreadExcluded h.state.pool processEntry.threadList thread = some true ↔
      ∃ record ∈ h.since, record.processId = p ∧ record.thread = some thread ∧ record.Completed

/-- `PmIsThreadExcluded` returns. -/
def AnswersAlways (h : History) : Prop :=
  ∀ p processEntry, h.state.gProcessTree p = some processEntry → ∀ thread,
    (pmIsThreadExcluded h.state.pool processEntry.threadList thread).isSome

/-- Creating an entry that is present changes no list. -/
def CreationHarmless (h : History) : Prop :=
  ∀ p outcome, h.state.gProcessTree p ≠ none →
    historyStep h (.create p outcome) = some h

/-- Every exclusion entry ever allocated was freed once, except those of dispatches
that completed and whose process is still there, which were not. -/
def FreedExactly (h : History) : Prop :=
  ∀ a < h.state.pool.allocated, h.state.pool.freed.count a
    = if ∃ record ∈ h.since, record.exclusion = some a ∧ record.Completed then 0 else 1

/-- No event goes wrong. -/
def Completes (h : History) : Prop :=
  ∀ event, (historyStep h event).isSome

/-- All of it. -/
structure Booked (h : History) : Prop where
  excluded : ExcludedExactly h
  answers : AnswersAlways h
  creation : CreationHarmless h
  freed : FreedExactly h
  completes : Completes h

/-! ## The invariant -/

/-- The entries on the lists are those of the dispatches that completed. -/
structure Recorded (h : History) (contents : UInt64 → List Exclusion) : Prop where
  consistent : Consistent h.state contents
  listed : ∀ p, ∀ e ∈ contents p, ∃ record ∈ h.since, record.processId = p ∧
    record.thread = some e.entry.thread ∧ record.exclusion = some e.address ∧ record.Completed
  recorded : ∀ record ∈ h.since, record.Completed →
    h.state.gProcessTree record.processId ≠ none → ∃ e ∈ contents record.processId,
      record.thread = some e.entry.thread ∧ record.exclusion = some e.address
  absent : ∀ record ∈ h.since, h.state.gProcessTree record.processId = none →
    record.exclusion = none

section Recorded

variable {h : History} {contents : UInt64 → List Exclusion} {p : UInt64}

/-- The dispatches for other processes are remembered. -/
theorem mem_since {record : DispatchRecord} :
    record ∈ since h p ↔ record ∈ h.since ∧ record.processId ≠ p := by
  simp [since]

theorem recorded_initial : Recorded History.initial fun _ => [] where
  consistent := consistent_new
  listed p e he := absurd he (by simp)
  recorded record hrecord := absurd hrecord (by simp [History.initial])
  absent record hrecord := absurd hrecord (by simp [History.initial])

/-- Forgetting the dispatches of a process that has nothing on its list. -/
theorem Recorded.forget (hrec : Recorded h contents) {state : PmState}
    {contents' : UInt64 → List Exclusion} (hconsistent : Consistent state contents')
    (htree : ∀ q, q ≠ p → state.gProcessTree q = h.state.gProcessTree q)
    (hnil : contents' p = []) (hcontents : ∀ q, q ≠ p → contents' q = contents q) :
    Recorded ⟨state, since h p⟩ contents' where
  consistent := hconsistent
  listed q e he := by
    have hq : q ≠ p := by
      intro hk
      rw [hk, hnil] at he
      exact absurd he (by simp)
    rw [hcontents q hq] at he
    obtain ⟨record, hmem, hid, hrest⟩ := hrec.listed q e he
    exact ⟨record, mem_since.mpr ⟨hmem, hid ▸ hq⟩, hid, hrest⟩
  recorded record hrecord hcompleted hpresent := by
    obtain ⟨hmem, hid⟩ := mem_since.mp hrecord
    rw [htree record.processId hid] at hpresent
    rw [hcontents record.processId hid]
    exact hrec.recorded record hmem hcompleted hpresent
  absent record hrecord hnone := by
    obtain ⟨hmem, hid⟩ := mem_since.mp hrecord
    rw [htree record.processId hid] at hnone
    exact hrec.absent record hmem hnone

/-- Creating an entry. -/
theorem Recorded.create (hrec : Recorded h contents) (outcome : CreationOutcome) :
    ∃ h', historyStep h (.create p outcome) = some h' ∧ Recorded h' contents := by
  cases htree : h.state.gProcessTree p with
  | some processEntry =>
    refine ⟨h, ?_, hrec⟩
    simp [historyStep, dsProcessCreationCallback_present htree, pmLookupProcessEntryById, htree]
  | none =>
    rcases dsProcessCreationCallback_absent htree outcome with hsame | hcreated
    · refine ⟨h, ?_, hrec⟩
      simp [historyStep, hsame, pmLookupProcessEntryById, htree]
    · refine ⟨_, ?_, hrec.forget (hrec.consistent.create htree) (fun q hq => ?_)
        (hrec.consistent.absent p htree) (fun q _ => rfl)⟩
      · simp [historyStep, hcreated, pmLookupProcessEntryById, htree]
      · exact Function.update_of_ne hq _ _

/-- Deleting one. -/
theorem Recorded.delete (hrec : Recorded h contents) :
    ∃ h' contents', historyStep h (.delete p) = some h' ∧ Recorded h' contents' := by
  cases htree : h.state.gProcessTree p with
  | some processEntry =>
    obtain ⟨state, hstep, htree', _, hconsistent⟩ := hrec.consistent.delete htree
    refine ⟨⟨state, since h p⟩, _, ?_, hrec.forget hconsistent (fun q hq => ?_)
      (Function.update_self _ _ _) (fun q hq => Function.update_of_ne hq _ _)⟩
    · simp [historyStep, hstep]
    · rw [htree', Function.update_of_ne hq]
  | none =>
    refine ⟨⟨h.state, since h p⟩, contents, ?_, hrec.forget hrec.consistent (fun q _ => rfl)
      (hrec.consistent.absent p htree) (fun q _ => rfl)⟩
    simp [historyStep, dsProcessDeletionCallback_absent htree]

/-- Remembering a dispatch that did not put anything on a list. -/
theorem Recorded.remember (hrec : Recorded h contents) {state : PmState} {record : DispatchRecord}
    (hconsistent : Consistent state contents) (htree : state.gProcessTree = h.state.gProcessTree)
    (hcompleted : record.Completed → h.state.gProcessTree record.processId = none)
    (hexclusion : h.state.gProcessTree record.processId = none → record.exclusion = none) :
    Recorded ⟨state, record :: h.since⟩ contents where
  consistent := hconsistent
  listed q e he := by
    obtain ⟨other, hmem, hrest⟩ := hrec.listed q e he
    exact ⟨other, List.mem_cons_of_mem record hmem, hrest⟩
  recorded other hother hdone hpresent := by
    simp only [htree] at hpresent
    rcases List.mem_cons.mp hother with hnew | hmem
    · rw [hnew] at hdone hpresent
      exact absurd (hcompleted hdone) hpresent
    · exact hrec.recorded other hmem hdone hpresent
  absent other hother hnone := by
    simp only [htree] at hnone
    rcases List.mem_cons.mp hother with hnew | hmem
    · rw [hnew] at hnone ⊢
      exact hexclusion hnone
    · exact hrec.absent other hmem hnone

/-- Remembering one that did. -/
theorem Recorded.exclude (hrec : Recorded h contents) {state : PmState} {record : DispatchRecord}
    {e : Exclusion} (hconsistent : Consistent state (Function.update contents p (e :: contents p)))
    (hpresent : state.gProcessTree p ≠ none)
    (htree : ∀ q, q ≠ p → state.gProcessTree q = h.state.gProcessTree q)
    (hpresent' : h.state.gProcessTree p ≠ none)
    (hid : record.processId = p) (hthread : record.thread = some e.entry.thread)
    (hexclusion : record.exclusion = some e.address) (hcompleted : record.Completed) :
    Recorded ⟨state, record :: h.since⟩ (Function.update contents p (e :: contents p)) where
  consistent := hconsistent
  listed q f hf := by
    by_cases hq : q = p
    · rw [hq, Function.update_self] at hf
      rcases List.mem_cons.mp hf with hnew | hold
      · rw [hnew, hq]
        exact ⟨record, List.mem_cons_self, hid, hthread, hexclusion, hcompleted⟩
      · obtain ⟨other, hmem, hrest⟩ := hrec.listed p f hold
        rw [hq]
        exact ⟨other, List.mem_cons_of_mem record hmem, hrest⟩
    · rw [Function.update_of_ne hq] at hf
      obtain ⟨other, hmem, hrest⟩ := hrec.listed q f hf
      exact ⟨other, List.mem_cons_of_mem record hmem, hrest⟩
  recorded other hother hdone hthere := by
    rcases List.mem_cons.mp hother with hnew | hmem
    · rw [hnew, hid, Function.update_self]
      exact ⟨e, List.mem_cons_self, hthread, hexclusion⟩
    · by_cases hq : other.processId = p
      · have hfound := hrec.recorded other hmem hdone (hq ▸ hpresent')
        rw [hq] at hfound ⊢
        rw [Function.update_self]
        obtain ⟨f, hf, hrest⟩ := hfound
        exact ⟨f, List.mem_cons_of_mem e hf, hrest⟩
      · rw [Function.update_of_ne hq]
        refine hrec.recorded other hmem hdone ?_
        rwa [← htree other.processId hq]
  absent other hother hnone := by
    rcases List.mem_cons.mp hother with hnew | hmem
    · rw [hnew, hid] at hnone
      exact absurd hnone hpresent
    · by_cases hq : other.processId = p
      · exact absurd (hq ▸ hnone) hpresent
      · exact hrec.absent other hmem ((htree other.processId hq).symm.trans hnone)

/-- A dispatch and what is remembered of it. -/
theorem historyStep_dispatch {processId threadId : UInt64} {outcome : ExclusionOutcome}
    {status : NtStatus} {state : PmState}
    (hstep : dispatchTimerFalsePositive outcome processId threadId h.state
      = some (status, state)) :
    historyStep h (.dispatch processId threadId outcome) = some ⟨state,
      ⟨lowPart processId, threadOf outcome threadId, allocatedBetween h.state state, status⟩ ::
        h.since⟩ := by
  simp [historyStep, hstep]

/-- Dispatching a record. -/
theorem Recorded.dispatch (hrec : Recorded h contents) (processId threadId : UInt64)
    (outcome : ExclusionOutcome) :
    ∃ h' contents', historyStep h (.dispatch processId threadId outcome) = some h' ∧
      Recorded h' contents' := by
  cases htree : h.state.gProcessTree (lowPart processId) with
  | none =>
    have hstep := dispatchTimerFalsePositive_absent htree outcome threadId
    exact ⟨_, contents, historyStep_dispatch hstep,
      hrec.remember hrec.consistent rfl (fun _ => htree) fun _ => if_pos rfl⟩
  | some processEntry =>
    have hlist := (hrec.consistent.lists _ _ htree).2
    rcases hlist.pmExcludeThread outcome threadId hrec.consistent.fresh with
      ⟨status, pool, hexclude, hfailed, hentry, hpool⟩ |
        ⟨pool, list, thread, uniqueId, hexclude, hlookup, hallocated, hfreed, hentry, hheld⟩
    · have hstep := dispatchTimerFalsePositive_present htree hexclude
      have hsame : Function.update h.state.gProcessTree (lowPart processId)
          (some { processEntry with threadList := processEntry.threadList })
            = h.state.gProcessTree := by
        rw [← htree]
        exact Function.update_eq_self _ _
      refine ⟨_, contents, historyStep_dispatch hstep,
        hrec.remember ?_ hsame (fun hdone => ?_) (fun hnone => ?_)⟩
      · rw [hsame]
        exact hrec.consistent.dispatch_failed hentry hpool
      · exact absurd (hfailed.symm.trans hdone) (by decide)
      · exact absurd (htree.symm.trans hnone) (by simp)
    · have hstep := dispatchTimerFalsePositive_present htree hexclude
      refine ⟨_, _, historyStep_dispatch hstep, hrec.exclude
        (hrec.consistent.dispatch_excluded htree hallocated hfreed hentry hheld)
        ?_ ?_ ?_ rfl ?_ ?_ ?_⟩
      · simp
      · intro q hq
        exact Function.update_of_ne hq _ _
      · simp [htree]
      · simp [threadOf, hlookup, Except.toOption]
      · simp [allocatedBetween, hallocated]
      · exact ntSuccess_statusSuccess

end Recorded

/-- Some entries are recorded. -/
def HistoryInv (h : History) : Prop := ∃ contents, Recorded h contents

/-- **Every event completes and keeps the books.** -/
theorem HistoryInv.step {h : History} (hinv : HistoryInv h) (event : PmEvent) :
    ∃ h', historyStep h event = some h' ∧ HistoryInv h' := by
  obtain ⟨contents, hrec⟩ := hinv
  cases event with
  | create processId outcome =>
    obtain ⟨h', hstep, hrec'⟩ := hrec.create outcome
    exact ⟨h', hstep, contents, hrec'⟩
  | delete processId =>
    obtain ⟨h', contents', hstep, hrec'⟩ := hrec.delete
    exact ⟨h', hstep, contents', hrec'⟩
  | dispatch processId threadId outcome =>
    obtain ⟨h', contents', hstep, hrec'⟩ := hrec.dispatch processId threadId outcome
    exact ⟨h', hstep, contents', hrec'⟩

/-- **What is recorded is booked.** -/
theorem Recorded.booked {h : History} {contents : UInt64 → List Exclusion}
    (hrec : Recorded h contents) : Booked h where
  excluded p processEntry htree thread := by
    rw [(hrec.consistent.lists p processEntry htree).2.pmIsThreadExcluded, Option.some.injEq,
      decide_eq_true_iff]
    constructor
    · intro hlisted
      obtain ⟨e, he, hthread⟩ := hlisted
      obtain ⟨record, hmem, hid, hfor, _, hdone⟩ := hrec.listed p e he
      exact ⟨record, hmem, hid, hthread ▸ hfor, hdone⟩
    · intro hrecorded
      obtain ⟨record, hmem, hid, hfor, hdone⟩ := hrecorded
      obtain ⟨e, he, hthread, _⟩ := hrec.recorded record hmem hdone (by simp [hid, htree])
      rw [hid] at he
      exact ⟨e, he, Option.some.inj (hthread.symm.trans hfor)⟩
  answers p processEntry htree thread := by
    rw [(hrec.consistent.lists p processEntry htree).2.pmIsThreadExcluded]
    rfl
  creation p outcome hpresent := by
    cases htree : h.state.gProcessTree p with
    | none => exact absurd htree hpresent
    | some processEntry =>
      simp [historyStep, dsProcessCreationCallback_present htree, pmLookupProcessEntryById, htree]
  freed a ha := by
    have hlisted : (∃ record ∈ h.since, record.exclusion = some a ∧ record.Completed) ↔
        h.state.pool.entry a ≠ none := by
      constructor
      · intro hrecorded
        obtain ⟨record, hmem, hexclusion, hdone⟩ := hrecorded
        have hpresent : h.state.gProcessTree record.processId ≠ none := by
          intro hnone
          rw [hrec.absent record hmem hnone] at hexclusion
          exact absurd hexclusion (by simp)
        obtain ⟨e, he, _, haddress⟩ := hrec.recorded record hmem hdone hpresent
        have hsome := hrec.consistent.entry he
        rw [Option.some.inj (haddress.symm.trans hexclusion)] at hsome
        rw [hsome]
        simp
      · intro hsome
        obtain ⟨p, e, he, haddress⟩ := hrec.consistent.owned a hsome
        obtain ⟨record, hmem, _, _, hexclusion, hdone⟩ := hrec.listed p e he
        exact ⟨record, hmem, haddress ▸ hexclusion, hdone⟩
    rw [hrec.consistent.freed a]
    by_cases hnone : h.state.pool.entry a = none
    · rw [if_pos ⟨ha, hnone⟩, if_neg fun hk => hlisted.mp hk hnone]
    · rw [if_neg fun hk => hnone hk.2, if_pos (hlisted.mpr hnone)]
  completes event := by
    obtain ⟨h', hstep, _⟩ := HistoryInv.step ⟨contents, hrec⟩ event
    rw [hstep]
    rfl

/-- **The books are right in every state of every run.** -/
theorem always_booked (events : List PmEvent) :
    Always historyStep Booked History.initial events := by
  have hinit : HistoryInv History.initial := ⟨_, recorded_initial⟩
  refine always_of_inv (fun hinv => ?_) (fun {h event h'} hinv hstep => ?_) hinit
  · obtain ⟨contents, hrec⟩ := hinv
    exact hrec.booked
  · obtain ⟨h'', hstep', hinv'⟩ := hinv.step event
    rwa [Option.some.inj (hstep.symm.trans hstep')]

/-! ## A dispatch that fails -/

/-- Every exclusion entry is freed when the entry of its process is deleted, and
not before. -/
def FreedWithProcess (h : History) : Prop :=
  ∀ a < h.state.pool.allocated, h.state.pool.freed.count a
    = if ∃ record ∈ h.since, record.exclusion = some a then 0 else 1

instance (h : History) : Decidable (FreedWithProcess h) :=
  inferInstanceAs (Decidable (∀ a < h.state.pool.allocated, h.state.pool.freed.count a
    = if ∃ record ∈ h.since, record.exclusion = some a then 0 else 1))

/-- The kernel has everything. -/
def createdOutcome : CreationOutcome := ⟨true, true, true, true⟩

/-- There is no thread with that id. -/
def noSuchThread : ExclusionOutcome where
  entryAllocated := true
  -- STATUS_INVALID_CID
  psLookupThreadByThreadId _ := .error ⟨0xC000000B, by decide⟩
  block := none

/-- The thread of a record is gone when the record is dispatched: the dispatch frees
the entry it allocated, with the process still there. -/
theorem not_freedWithProcess : ¬ Always historyStep FreedWithProcess History.initial
    [.create 8 createdOutcome, .dispatch 8 12 noSuchThread] := by
  decide

end DeepShield.Pm
