import Mathlib.Data.List.Sort
import DeepShield.Lib.Runs
import DeepShield.Os.Irql
import DeepShield.Pm.ProcessTable

/-!
# The IRQL of the pool calls

The process table and the exclusion lists are in the pool, and both are used under spin
locks that raise the IRQL to `HIGH_LEVEL`. Many of the pool calls are not where the lock is
taken: `RtlInsertElementGenericTableAvl` allocates a node through `PmAllocateNode` and
`RtlDeleteElementGenericTableAvl` frees one through `PmFreeNode`, and an index list grows in
`InsertHeadIdxList` when its free list is used up.

The functions `…Actions` give the lock and pool calls of the routine they are named after,
in the order it makes them, and none where its loop would not end.

`PoolGuard` is where they are legal: no entry is inserted or deleted, no list grows, no list
that is not empty is cleared, and the monitor is not finalised.
-/

namespace DeepShield.Pm

open DeepShield.Lib DeepShield.Os DeepShield.Rtl.Unbounded

/-- The spin locks: that of the tree, those of the lists in its entries, and that in an
entry which is not in the tree. -/
inductive PmLock
  | gProcessTreeLock
  | list (processId : UInt64)
  | callerList
deriving Repr, DecidableEq

/-- What a routine does with them and with the pool. -/
abbrev PmAction := PoolAction PmLock

/-! ## Index lists and exclusion lists -/

/-- `ExtendIdxList`. -/
def extendIdxListActions (block : Option (Nat → IdxListNode Nat)) (table : IdxListTable Nat) :
    List PmAction :=
  .exAllocatePoolWithTag ::
    if block.isSome ∧ table.nodeList.isSome then [.exFreePoolWithTag] else []

/-- `InsertHeadIdxList`. -/
def insertHeadIdxListActions (block : Option (Nat → IdxListNode Nat))
    (table : IdxListTable Nat) : List PmAction :=
  if table.nodeFreeList = 0 then extendIdxListActions block table else []

/-- `DestroyIdxList`. -/
def destroyIdxListActions (table : IdxListTable Nat) : List PmAction :=
  if table.nodeList.isSome then [.exFreePoolWithTag] else []

/-- The loop of `PmCleanupThreadExclusionList`. -/
def pmCleanupLoopActions : Nat → ExclusionPool → IdxListTable Nat → Option (List PmAction)
  | fuel, pool, list =>
    if getNodeCountIdxList list = 0 then some []
    else
      match fuel with
      | 0 => none
      | fuel + 1 => do
        let (removedEntry, list) ← removeHeadIdxList list
        match removedEntry with
        | some address =>
          let pool ← pool.free address
          let actions ← pmCleanupLoopActions fuel pool list
          return .exFreePoolWithTag :: actions
        | none => pmCleanupLoopActions fuel pool list

/-- `PmCleanupThreadExclusionList`. -/
def pmCleanupThreadExclusionListActions (lock : PmLock) (pool : ExclusionPool)
    (list : IdxListTable Nat) : Option (List PmAction) :=
  (pmCleanupLoopActions (getNodeCountIdxList list) pool list).map (locked lock)

/-- `PmDestroyThreadExclusionList`. -/
def pmDestroyThreadExclusionListActions (lock : PmLock) (pool : ExclusionPool)
    (list : IdxListTable Nat) : Option (List PmAction) := do
  let cleanup ← pmCleanupThreadExclusionListActions lock pool list
  let (_, list) ← pmCleanupThreadExclusionList pool list
  return cleanup ++ destroyIdxListActions list

/-- `PmExcludeThread`. -/
def pmExcludeThreadActions (lock : PmLock) (outcome : ExclusionOutcome) (threadId : UInt64)
    (list : IdxListTable Nat) : List PmAction :=
  if outcome.entryAllocated = false then [.exAllocatePoolWithTag]
  else
    match outcome.psLookupThreadByThreadId (lowPart threadId) with
    | .error _ => [.exAllocatePoolWithTag, .exFreePoolWithTag]
    | .ok _ =>
      .exAllocatePoolWithTag ::
        (locked lock (insertHeadIdxListActions outcome.block list) ++
          -- UniqueId is 0 if the list could not grow
          if list.nodeFreeList = 0 ∧ outcome.block.isNone then [.exFreePoolWithTag] else [])

/-! ## The tree -/

/-- `RtlInsertElementGenericTableAvl`, with `PmAllocateNode`. -/
def rtlInsertElementGenericTableAvlActions (table : UInt64 → Option DsProcessEntry)
    (processId : UInt64) : List PmAction :=
  match table processId with
  | some _ => []
  | none => [.exAllocatePoolWithTag]

/-- `PmCreateProcessEntry`. -/
def pmCreateProcessEntryActions (nodeAllocated : Bool) (processId : UInt64) (s : PmState) :
    Option (List PmAction) :=
  let insert := rtlInsertElementGenericTableAvlActions s.gProcessTree processId
  if (s.gProcessTree processId).isNone ∧ nodeAllocated then some insert
  else do
    let destroy ←
      pmDestroyThreadExclusionListActions .callerList s.pool pmInitializeThreadExclusionList
    return insert ++ destroy

/-- `PmDeleteProcessEntry`; `RtlDeleteElementGenericTableAvl` ends in `PmFreeNode`. -/
def pmDeleteProcessEntryActions (processEntry : DsProcessEntry) (s : PmState) :
    Option (List PmAction) := do
  let destroy ← pmDestroyThreadExclusionListActions (.list processEntry.processId) s.pool
    processEntry.threadList
  return destroy ++ [.exFreePoolWithTag]

/-! ## The process-notify callbacks -/

/-- How `PmAllocateProcessImageName` turns out. -/
inductive ImageNameAnswer
  | notLocated
  | noMemory
  | copied
deriving Repr, DecidableEq

/-- How `PmGetProcessSid` turns out. -/
inductive SidAnswer
  | notOpened
  | noMemory
  | notConverted
  | converted
deriving Repr, DecidableEq

/-- What the kernel answers to `DsProcessCreationCallback`. -/
structure CreationAnswers where
  imageName : ImageNameAnswer
  entryAllocated : Bool
  sid : SidAnswer
  nodeAllocated : Bool
deriving Repr, DecidableEq

/-- What matters of them for the table. -/
def CreationAnswers.outcome (answers : CreationAnswers) : CreationOutcome where
  imageName := answers.imageName = .copied
  entryAllocated := answers.entryAllocated
  sid := answers.sid = .converted
  nodeAllocated := answers.nodeAllocated

/-- `PmAllocateProcessImageName`: the name it copies, and the one it is given. -/
def pmAllocateProcessImageNameActions : ImageNameAnswer → List PmAction
  | .notLocated => []
  | .noMemory | .copied => [.exAllocatePoolWithTag, .exFreePoolWithTag]

/-- `PmGetProcessSid`. -/
def pmGetProcessSidActions : SidAnswer → List PmAction
  | .notOpened => []
  | .noMemory => [.exAllocatePoolWithTag]
  | .notConverted | .converted => [.exAllocatePoolWithTag, .exFreePoolWithTag]

/-- `DsProcessCreationCallback`. -/
def dsProcessCreationCallbackActions (answers : CreationAnswers) (processId : UInt64)
    (s : PmState) : Option (List PmAction) :=
  let imageName := pmAllocateProcessImageNameActions answers.imageName
  if answers.imageName ≠ .copied then some imageName
  else if answers.entryAllocated = false then
    -- returns at once, without RoutineExit
    some (imageName ++ [.exAllocatePoolWithTag])
  else
    let sid := .exAllocatePoolWithTag :: pmGetProcessSidActions answers.sid
    let routineExit := [.exFreePoolWithTag, .exFreePoolWithTag]
    if answers.sid ≠ .converted then some (imageName ++ sid ++ routineExit)
    else do
      let create ← pmCreateProcessEntryActions answers.nodeAllocated processId s
      return imageName ++ sid ++ locked .gProcessTreeLock create ++ routineExit

/-- `DsProcessDeletionCallback`. -/
def dsProcessDeletionCallbackActions (processId : UInt64) (s : PmState) :
    Option (List PmAction) :=
  match pmLookupProcessEntryById s processId with
  | some processEntry =>
    (pmDeleteProcessEntryActions processEntry s).map (locked .gProcessTreeLock)
  | none => some (locked .gProcessTreeLock [])

/-- `RtlDispatchMailboxData` for a `TimerFalsePositive` record. -/
def dispatchTimerFalsePositiveActions (outcome : ExclusionOutcome) (processId threadId : UInt64)
    (s : PmState) : List PmAction :=
  match pmLookupProcessEntryById s (lowPart processId) with
  | some processEntry =>
    pmExcludeThreadActions (.list (lowPart processId)) outcome threadId processEntry.threadList
  | none => []

/-! ## The monitor -/

/-- How far `PmInitializeProcessMonitor` is: before it registers the callback, while it
enumerates the processes, after it. -/
inductive MonitorPhase
  | stopped
  | enumerating
  | started
deriving Repr, DecidableEq

/-- The process monitor. `elements` are the ids in the tree, in the order in which
`RtlGetElementGenericTableAvl` numbers them. -/
structure PmMonitor where
  phase : MonitorPhase
  state : PmState
  elements : List UInt64

/-- Before the driver is loaded. -/
def PmMonitor.initial : PmMonitor := ⟨.stopped, pmInitializeProcessTable, []⟩

/-- `DsProcessCreationCallback`. -/
def PmMonitor.create (m : PmMonitor) (answers : CreationAnswers) (processId : UInt64) :
    Option PmMonitor := do
  let state ← dsProcessCreationCallback answers.outcome processId m.state
  let inserted := (m.state.gProcessTree processId).isNone ∧ (state.gProcessTree processId).isSome
  return { m with
    state := state
    elements :=
      if inserted then m.elements.orderedInsert (· ≤ ·) processId else m.elements }

/-- `DsProcessDeletionCallback`. -/
def PmMonitor.delete (m : PmMonitor) (processId : UInt64) : Option PmMonitor := do
  let state ← dsProcessDeletionCallback processId m.state
  return { m with
    state := state
    elements := m.elements.erase processId }

/-- The loop of `PmClearProcessTable`: the first element is deleted until there is none. -/
def pmClearProcessTable : List UInt64 → PmState → Option (List PmAction × PmState)
  | [], s => some ([], s)
  | processId :: elements, s => do
    let processEntry ← pmLookupProcessEntryById s processId
    let actions ← pmDeleteProcessEntryActions processEntry s
    let s ← pmDeleteProcessEntry processEntry s
    let (rest, s) ← pmClearProcessTable elements s
    return (actions ++ rest, s)

/-- `PmDeleteProcessTable`, after which `gProcessTree` is NULL. -/
def PmMonitor.deleteProcessTable (m : PmMonitor) : Option (List PmAction × PmMonitor) := do
  let (actions, state) ← pmClearProcessTable m.elements m.state
  return (actions ++ [.exFreePoolWithTag],
    { phase := .stopped
      state := state
      elements := [] })

/-- `PmInitializeProcessMonitor` up to the enumeration. -/
def pmInitializeProcessMonitor (tableAllocated routineSet : Bool) (m : PmMonitor) :
    Option (List PmAction × PmMonitor) :=
  if tableAllocated = false then some ([.exAllocatePoolWithTag], m)
  else if routineSet = false then do
    let (actions, m) ← m.deleteProcessTable
    return (.exAllocatePoolWithTag :: actions, m)
  else some ([.exAllocatePoolWithTag], { m with phase := .enumerating })

/-- What the last round of `PmEnumerareProcesses` gets. -/
inductive QueryAnswer
  | noMemory
  | failed
  | listed (processes : List (UInt64 × CreationAnswers))
deriving Repr, DecidableEq

/-- The processes `EnumProcessCallback` is called for. The loop ends when it comes to an
entry whose `NextEntryOffset` is 0, so the last one is left out unless it is the only one. -/
def notified : List (UInt64 × CreationAnswers) → List (UInt64 × CreationAnswers)
  | [process] => [process].filter fun process => process.1 ≠ 0 ∧ process.1 ≠ 4
  | processes => processes.dropLast.filter fun process => process.1 ≠ 0 ∧ process.1 ≠ 4

/-- `SeNotifyProcess` for each of them. -/
def seNotifyProcesses :
    List (UInt64 × CreationAnswers) → PmMonitor → Option (List PmAction × PmMonitor)
  | [], m => some ([], m)
  | (processId, answers) :: processes, m => do
    let actions ← dsProcessCreationCallbackActions answers processId m.state
    let m ← m.create answers processId
    let (rest, m) ← seNotifyProcesses processes m
    return (actions ++ rest, m)

/-- The rounds of `PmEnumerareProcesses` in which the buffer was too small. -/
def mismatchActions : Nat → List PmAction
  | 0 => []
  | mismatches + 1 => .exAllocatePoolWithTag :: .exFreePoolWithTag :: mismatchActions mismatches

/-- `PmEnumerareProcesses` after so many such rounds, and the rest of
`PmInitializeProcessMonitor`. -/
def pmEnumerareProcesses (mismatches : Nat) (answer : QueryAnswer) (m : PmMonitor) :
    Option (List PmAction × PmMonitor) :=
  match answer with
  | .noMemory => do
    let (actions, m) ← m.deleteProcessTable
    return (mismatchActions mismatches ++ .exAllocatePoolWithTag :: actions, m)
  | .failed => do
    let (actions, m) ← m.deleteProcessTable
    return (mismatchActions mismatches ++
      .exAllocatePoolWithTag :: .exFreePoolWithTag :: actions, m)
  | .listed processes => do
    let (actions, m) ← seNotifyProcesses (notified processes) m
    return (mismatchActions mismatches ++
      .exAllocatePoolWithTag :: (actions ++ [.exFreePoolWithTag]),
      { m with phase := .started })

/-- `PmFinalizeProcessMonitor`. -/
def pmFinalizeProcessMonitor (m : PmMonitor) : Option (List PmAction × PmMonitor) := do
  let (actions, m) ← m.deleteProcessTable
  return (locked .gProcessTreeLock actions, m)

/-! ## Runs -/

/-- What happens to the monitor, each at `PASSIVE_LEVEL`. -/
inductive MonitorEvent
  | initialise (tableAllocated routineSet : Bool)
  | enumerate (mismatches : Nat) (answer : QueryAnswer)
  | create (processId : UInt64) (answers : CreationAnswers)
  | delete (processId : UInt64)
  | dispatch (processId threadId : UInt64) (outcome : ExclusionOutcome)
  | finalise

/-- The phases in which it may happen. -/
def MonitorEvent.Enabled (phase : MonitorPhase) : MonitorEvent → Prop
  | .initialise _ _ => phase = .stopped
  | .enumerate _ _ => phase = .enumerating
  | .create _ _ | .delete _ | .dispatch _ _ _ => phase ≠ .stopped
  | .finalise => phase = .started

instance (phase : MonitorPhase) : ∀ event : MonitorEvent, Decidable (event.Enabled phase)
  | .initialise _ _ | .enumerate _ _ | .finalise => inferInstanceAs (Decidable (_ = _))
  | .create _ _ | .delete _ | .dispatch _ _ _ => inferInstanceAs (Decidable (_ ≠ _))

/-- What is done, and what comes of it. -/
def monitorEvent (m : PmMonitor) : MonitorEvent → Option (List PmAction × PmMonitor)
  | .initialise tableAllocated routineSet =>
    pmInitializeProcessMonitor tableAllocated routineSet m
  | .enumerate mismatches answer => pmEnumerareProcesses mismatches answer m
  | .create processId answers => do
    let actions ← dsProcessCreationCallbackActions answers processId m.state
    let m ← m.create answers processId
    return (actions, m)
  | .delete processId => do
    let actions ← dsProcessDeletionCallbackActions processId m.state
    let m ← m.delete processId
    return (actions, m)
  | .dispatch processId threadId outcome => do
    let (_, state) ← dispatchTimerFalsePositive outcome processId threadId m.state
    return (dispatchTimerFalsePositiveActions outcome processId threadId m.state,
      { m with state := state })
  | .finalise => pmFinalizeProcessMonitor m

/-- One event. -/
def processMonitorStep (m : PmMonitor) (event : MonitorEvent) : Option PmMonitor :=
  if event.Enabled m.phase then (monitorEvent m event).map Prod.snd else none

/-- An event that happens ends, and all its pool calls are at `DISPATCH_LEVEL` or below. -/
def EventLegal (m : PmMonitor) (event : MonitorEvent) : Prop :=
  event.Enabled m.phase → ∃ actions m', monitorEvent m event = some (actions, m') ∧
    PoolLegal IrqlState.passive actions

/-! ## Where it goes wrong -/

/-- The callback gets as far as the insertion of an entry that is not there. -/
def Inserts (s : PmState) (processId : UInt64) (answers : CreationAnswers) : Prop :=
  answers.imageName = .copied ∧ answers.entryAllocated = true ∧ answers.sid = .converted ∧
    s.gProcessTree processId = none

/-- The dispatch gets as far as the insertion into a list with no free node. -/
def Grows (s : PmState) (processId threadId : UInt64) (outcome : ExclusionOutcome) : Prop :=
  ∃ processEntry thread, s.gProcessTree (lowPart processId) = some processEntry ∧
    outcome.entryAllocated = true ∧
    outcome.psLookupThreadByThreadId (lowPart threadId) = .ok thread ∧
    processEntry.threadList.nodeFreeList = 0

/-- No list of a process has an entry. -/
def ListsEmpty (s : PmState) : Prop :=
  ∀ p processEntry, s.gProcessTree p = some processEntry →
    getNodeCountIdxList processEntry.threadList = 0

/-- The event, if it happens, does none of what makes a pool call under a lock. -/
def PoolGuard (m : PmMonitor) (event : MonitorEvent) : Prop :=
  event.Enabled m.phase →
    match event with
    | .initialise _ _ => True
    | .enumerate _ (.listed processes) =>
      ∀ process ∈ notified processes, ¬ Inserts m.state process.1 process.2
    | .enumerate _ .noMemory | .enumerate _ .failed => ListsEmpty m.state
    | .create processId answers => ¬ Inserts m.state processId answers
    | .delete processId => m.state.gProcessTree processId = none
    | .dispatch processId threadId outcome => ¬ Grows m.state processId threadId outcome
    | .finalise => False

end DeepShield.Pm
