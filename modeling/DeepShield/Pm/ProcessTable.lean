import DeepShield.Pm.Exclusion

/-!
# The process table

`gProcessTree` has an entry for each process that was created since the driver was
loaded. It is an `RTL_AVL_TABLE` ordered by process id, here the finite map it
implements. A process-notify callback inserts and deletes entries, the mailbox
worker puts exclusion entries on their lists when a record says that what looked
like an abuse was none (`TimerFalsePositive`), and root mode asks how far the
current thread is trusted.

All of these run one after the other here, as the locks and the worker being one
thread mean them to. Like the operations on lists, they give none where an access
would go wrong or a loop would not end.

Of `DS_PROCESS_ENTRY` the model has the fields some function reads.
-/

namespace DeepShield.Pm

open DeepShield.Os DeepShield.Rtl.Unbounded

/-- `DS_PROCESS_ENTRY`. -/
structure DsProcessEntry where
  processId : UInt64
  threadList : IdxListTable Nat
  trustLevel : UInt32

/-- `gProcessTree` and the pool of exclusion entries. -/
structure PmState where
  gProcessTree : UInt64 → Option DsProcessEntry
  pool : ExclusionPool

/-- After `PmInitializeProcessTable`. -/
def pmInitializeProcessTable : PmState := ⟨fun _ => none, ExclusionPool.empty⟩

/-- `TRUST_LEVEL_NONE`. -/
def trustLevelNone : UInt32 := 0x00000001

/-- `TRUST_LEVEL_EXEMPTED`. -/
def trustLevelExempted : UInt32 := 0x00000002

/-- `TRUST_LEVEL_FORCEFUL`. -/
def trustLevelForceful : UInt32 := 0x00010000

/-- `TRUST_LEVEL_MASSIVE`. -/
def trustLevelMassive : UInt32 := trustLevelForceful ||| trustLevelExempted

/-- `PmLookupProcessEntryById`. -/
def pmLookupProcessEntryById (s : PmState) (processId : UInt64) : Option DsProcessEntry :=
  s.gProcessTree processId

/-- `PmGetClientTrustLevel`, with `PsGetCurrentProcessId` and `KeGetCurrentThread`. -/
def pmGetClientTrustLevel (s : PmState) (currentProcessId currentThread : UInt64) :
    Option UInt32 :=
  match pmLookupProcessEntryById s currentProcessId with
  | none => some trustLevelNone
  | some processEntry => do
    let isExcluded ← pmIsThreadExcluded s.pool processEntry.threadList currentThread
    return if isExcluded then trustLevelMassive else trustLevelNone

/-- `RtlInsertElementGenericTableAvl`: the inserted entry or the one that was there,
none if there is no memory for a node, `NewElement`, and the table. -/
def rtlInsertElementGenericTableAvl (nodeAllocated : Bool)
    (table : UInt64 → Option DsProcessEntry) (processEntry : DsProcessEntry) :
    Option DsProcessEntry × Bool × (UInt64 → Option DsProcessEntry) :=
  match table processEntry.processId with
  | some present => (some present, false, table)
  | none =>
    if nodeAllocated then
      (some processEntry, true,
        Function.update table processEntry.processId (some processEntry))
    else (none, false, table)

/-- `PmCreateProcessEntry`. -/
def pmCreateProcessEntry (nodeAllocated : Bool) (processEntry : DsProcessEntry) (s : PmState) :
    Option (NtStatus × PmState) :=
  let processEntry := { processEntry with threadList := pmInitializeThreadExclusionList }
  match rtlInsertElementGenericTableAvl nodeAllocated s.gProcessTree processEntry with
  | (insertedEntry, newElement, gProcessTree) =>
    let status :=
      match insertedEntry with
      | some _ => if newElement then statusSuccess else statusObjectidExists
      | none => statusInternalError
    let s := { s with gProcessTree := gProcessTree }
    if ntSuccess status then some (status, s)
    else do
      -- the list of the caller's entry, not of the one in the table
      let (pool, _) ← pmDestroyThreadExclusionList s.pool processEntry.threadList
      return (status, { s with pool := pool })

/-- `PmDeleteProcessEntry`, of an entry in the table. -/
def pmDeleteProcessEntry (processEntry : DsProcessEntry) (s : PmState) : Option PmState := do
  let (pool, _) ← pmDestroyThreadExclusionList s.pool processEntry.threadList
  return {
    gProcessTree := Function.update s.gProcessTree processEntry.processId none
    pool := pool }

/-- What the kernel answers to `DsProcessCreationCallback`: whether the image name,
the memory for the entry, the SID and the memory for a node can be had. -/
structure CreationOutcome where
  imageName : Bool
  entryAllocated : Bool
  sid : Bool
  nodeAllocated : Bool
deriving Repr, DecidableEq

/-- `DsProcessCreationCallback`. -/
def dsProcessCreationCallback (outcome : CreationOutcome) (processId : UInt64) (s : PmState) :
    Option PmState :=
  if outcome.imageName = false ∨ outcome.entryAllocated = false ∨ outcome.sid = false then some s
  else
    -- zeroed but for the id
    (pmCreateProcessEntry outcome.nodeAllocated ⟨processId, initializeIdxList, 0⟩ s).map Prod.snd

/-- `DsProcessDeletionCallback`. -/
def dsProcessDeletionCallback (processId : UInt64) (s : PmState) : Option PmState :=
  match pmLookupProcessEntryById s processId with
  | some processEntry => pmDeleteProcessEntry processEntry s
  | none => some s

/-- `RtlDispatchMailboxData` for a `TimerFalsePositive` record. -/
def dispatchTimerFalsePositive (outcome : ExclusionOutcome) (processId threadId : UInt64)
    (s : PmState) : Option (NtStatus × PmState) :=
  match pmLookupProcessEntryById s (lowPart processId) with
  | some processEntry => do
    let (status, pool, threadList) ← pmExcludeThread outcome threadId s.pool processEntry.threadList
    return (status, {
      gProcessTree := Function.update s.gProcessTree (lowPart processId)
        (some { processEntry with threadList := threadList })
      pool := pool })
  | none => some (statusSuccess, s)

/-! ## Consistent tables -/

/-- The lists of the processes have these entries, and the pool has no others; what
is no longer in it was freed once. -/
structure Consistent (s : PmState) (contents : UInt64 → List Exclusion) : Prop where
  lists : ∀ p processEntry, s.gProcessTree p = some processEntry →
    processEntry.processId = p ∧ Holds s.pool processEntry.threadList (contents p)
  absent : ∀ p, s.gProcessTree p = none → contents p = []
  disjoint : ∀ p q, ∀ e ∈ contents p, ∀ f ∈ contents q, e.address = f.address → p = q
  owned : ∀ a, s.pool.entry a ≠ none → ∃ p, ∃ e ∈ contents p, e.address = a
  allocated : ∀ a, s.pool.entry a ≠ none → a < s.pool.allocated
  freed : ∀ a, s.pool.freed.count a = if a < s.pool.allocated ∧ s.pool.entry a = none then 1 else 0

section Consistent

variable {s : PmState} {contents : UInt64 → List Exclusion} {p : UInt64}

/-- The new table. -/
theorem consistent_new : Consistent pmInitializeProcessTable fun _ => [] where
  lists p processEntry h := absurd h (by simp [pmInitializeProcessTable])
  absent p _ := rfl
  disjoint p q e he := absurd he (by simp)
  owned a h := absurd rfl h
  allocated a h := absurd rfl h
  freed a := rfl

/-- An entry on a list is in the pool. -/
theorem Consistent.entry (h : Consistent s contents) {e : Exclusion} (he : e ∈ contents p) :
    s.pool.entry e.address = some e.entry := by
  cases htree : s.gProcessTree p with
  | none =>
    rw [h.absent p htree] at he
    exact absurd he (by simp)
  | some processEntry => exact (h.lists p processEntry htree).2.entries e he

/-- The next address is free. -/
theorem Consistent.fresh (h : Consistent s contents) :
    s.pool.entry s.pool.allocated = none := by
  by_contra hsome
  exact absurd (h.allocated _ hsome) (Nat.lt_irrefl _)

/-- **Trust**: a thread is trusted exactly if there is an entry for it on the list of
its process. -/
theorem Consistent.pmGetClientTrustLevel (h : Consistent s contents)
    (currentProcessId currentThread : UInt64) :
    pmGetClientTrustLevel s currentProcessId currentThread
      = some (if ∃ e ∈ contents currentProcessId, e.entry.thread = currentThread then
          trustLevelMassive else trustLevelNone) := by
  unfold Pm.pmGetClientTrustLevel pmLookupProcessEntryById
  cases htree : s.gProcessTree currentProcessId with
  | none => simp [h.absent _ htree]
  | some processEntry =>
    have hanswer := (h.lists _ _ htree).2.pmIsThreadExcluded currentThread
    simp [hanswer]

/-! ## The operations -/

/-- Nothing is freed by destroying an empty list. -/
theorem freeAll_nil (pool : ExclusionPool) : pool.freeAll [] = pool := by
  simp [ExclusionPool.freeAll]

/-- **Creating an entry** whose id is present changes nothing. -/
theorem dsProcessCreationCallback_present {processEntry : DsProcessEntry}
    (htree : s.gProcessTree p = some processEntry) (outcome : CreationOutcome) :
    dsProcessCreationCallback outcome p s = some s := by
  unfold dsProcessCreationCallback
  split
  next => rfl
  next =>
    have hdestroy := (holds_new s.pool).pmDestroyThreadExclusionList
    rw [List.map_nil, freeAll_nil] at hdestroy
    simp [pmCreateProcessEntry, rtlInsertElementGenericTableAvl, htree, hdestroy]

/-- **Creating an entry** whose id is absent adds an empty list or nothing. -/
theorem dsProcessCreationCallback_absent (htree : s.gProcessTree p = none)
    (outcome : CreationOutcome) :
    dsProcessCreationCallback outcome p s = some s ∨
      dsProcessCreationCallback outcome p s
        = some { s with
            gProcessTree := Function.update s.gProcessTree p
              (some ⟨p, pmInitializeThreadExclusionList, 0⟩) } := by
  unfold dsProcessCreationCallback
  split
  next => exact Or.inl rfl
  next =>
    cases hnode : outcome.nodeAllocated with
    | true =>
      right
      simp [pmCreateProcessEntry, rtlInsertElementGenericTableAvl, htree]
    | false =>
      left
      have hdestroy := (holds_new s.pool).pmDestroyThreadExclusionList
      rw [List.map_nil, freeAll_nil] at hdestroy
      simp [pmCreateProcessEntry, rtlInsertElementGenericTableAvl, htree, hdestroy]

/-- The table stays consistent when an empty list is added. -/
theorem Consistent.create (h : Consistent s contents) (htree : s.gProcessTree p = none) :
    Consistent { s with
      gProcessTree := Function.update s.gProcessTree p
        (some ⟨p, pmInitializeThreadExclusionList, 0⟩) } contents where
  lists q processEntry hq := by
    by_cases hp : q = p
    · rw [hp] at hq ⊢
      simp only [Function.update_self, Option.some.injEq] at hq
      rw [← hq, h.absent p htree]
      exact ⟨rfl, holds_new s.pool⟩
    · simp only [Function.update_of_ne hp] at hq
      exact h.lists q processEntry hq
  absent q hq := by
    by_cases hp : q = p
    · rw [hp] at hq
      simp at hq
    · simp only [Function.update_of_ne hp] at hq
      exact h.absent q hq
  disjoint := h.disjoint
  owned := h.owned
  allocated := h.allocated
  freed := h.freed

/-- **Deleting an entry** frees what is on its list. -/
theorem Consistent.delete (h : Consistent s contents) {processEntry : DsProcessEntry}
    (htree : s.gProcessTree p = some processEntry) :
    ∃ s', dsProcessDeletionCallback p s = some s' ∧
      s'.gProcessTree = Function.update s.gProcessTree p none ∧
      s'.pool = s.pool.freeAll ((contents p).map Exclusion.address) ∧
      Consistent s' (Function.update contents p []) := by
  obtain ⟨hid, hlist⟩ := h.lists p processEntry htree
  refine ⟨⟨Function.update s.gProcessTree p none,
    s.pool.freeAll ((contents p).map Exclusion.address)⟩, ?_, rfl, rfl, ?_⟩
  · simp [dsProcessDeletionCallback, pmLookupProcessEntryById, htree, pmDeleteProcessEntry,
      hlist.pmDestroyThreadExclusionList, hid]
  -- what is in the pool now is what was, without the entries of the list
  have hentry : ∀ a, (s.pool.freeAll ((contents p).map Exclusion.address)).entry a
      = if a ∈ (contents p).map Exclusion.address then none else s.pool.entry a := fun a => rfl
  have hcontents : ∀ q, ∀ e ∈ Function.update contents p [] q, q ≠ p ∧ e ∈ contents q := by
    intro q e he
    by_cases hq : q = p
    · rw [hq, Function.update_self] at he
      exact absurd he (by simp)
    · rw [Function.update_of_ne hq] at he
      exact ⟨hq, he⟩
  refine ⟨?_, ?_, ?_, ?_, ?_, ?_⟩
  · intro q other hq
    by_cases hp : q = p
    · rw [hp] at hq
      simp at hq
    · simp only [Function.update_of_ne hp] at hq
      obtain ⟨hqid, hqlist⟩ := h.lists q other hq
      rw [Function.update_of_ne hp]
      refine ⟨hqid, hqlist.congr fun e he => ?_⟩
      rw [hentry, if_neg]
      intro hmem
      obtain ⟨f, hf, heq⟩ := List.mem_map.mp hmem
      exact hp (h.disjoint q p e he f hf heq.symm)
  · intro q hq
    by_cases hp : q = p
    · rw [hp, Function.update_self]
    · simp only [Function.update_of_ne hp] at hq
      rw [Function.update_of_ne hp]
      exact h.absent q hq
  · intro q r e he f hf
    exact h.disjoint q r e (hcontents q e he).2 f (hcontents r f hf).2
  · intro a ha
    obtain ⟨hmem, hbefore⟩ := ExclusionPool.freeAll_entry_ne.mp ha
    obtain ⟨q, e, he, heq⟩ := h.owned a hbefore
    have hq : q ≠ p := fun hk => hmem (List.mem_map.mpr ⟨e, hk ▸ he, heq⟩)
    exact ⟨q, e, by rwa [Function.update_of_ne hq], heq⟩
  · intro a ha
    exact h.allocated a (ExclusionPool.freeAll_entry_ne.mp ha).2
  · intro a
    show ((((contents p).map Exclusion.address).reverse ++ s.pool.freed).count a) = _
    rw [List.count_append, List.count_reverse, h.freed a, hentry]
    by_cases hmem : a ∈ (contents p).map Exclusion.address
    · obtain ⟨e, he, heq⟩ := List.mem_map.mp hmem
      have hsome := h.entry he
      rw [heq] at hsome
      have hlt : a < s.pool.allocated := h.allocated a (by rw [hsome]; simp)
      rw [List.count_eq_one_of_mem hlist.nodup hmem, if_pos hmem, hsome, if_neg (by simp),
        if_pos ⟨hlt, rfl⟩]
    · rw [List.count_eq_zero_of_not_mem hmem, if_neg hmem, Nat.zero_add]
      rfl

/-- Deleting an entry that is absent changes nothing. -/
theorem dsProcessDeletionCallback_absent (htree : s.gProcessTree p = none) :
    dsProcessDeletionCallback p s = some s := by
  simp [dsProcessDeletionCallback, pmLookupProcessEntryById, htree]

/-- A record for a process that is absent is dropped. -/
theorem dispatchTimerFalsePositive_absent {processId : UInt64}
    (htree : s.gProcessTree (lowPart processId) = none) (outcome : ExclusionOutcome)
    (threadId : UInt64) :
    dispatchTimerFalsePositive outcome processId threadId s = some (statusSuccess, s) := by
  simp [dispatchTimerFalsePositive, pmLookupProcessEntryById, htree]

/-- For one that is present, the list changes as `PmExcludeThread` says. -/
theorem dispatchTimerFalsePositive_present {processId threadId : UInt64} {status : NtStatus}
    {outcome : ExclusionOutcome} {processEntry : DsProcessEntry} {pool : ExclusionPool}
    {list : IdxListTable Nat} (htree : s.gProcessTree (lowPart processId) = some processEntry)
    (hexclude : pmExcludeThread outcome threadId s.pool processEntry.threadList
      = some (status, pool, list)) :
    dispatchTimerFalsePositive outcome processId threadId s = some (status,
      { gProcessTree := Function.update s.gProcessTree (lowPart processId)
          (some { processEntry with threadList := list })
        pool := pool }) := by
  simp [dispatchTimerFalsePositive, pmLookupProcessEntryById, htree, hexclude]

/-- A failed dispatch leaves the lists alone, and nothing of it in the pool. -/
theorem Consistent.dispatch_failed (h : Consistent s contents) {pool : ExclusionPool}
    (hentry : pool.entry = s.pool.entry)
    (hpool : (pool.allocated = s.pool.allocated ∧ pool.freed = s.pool.freed) ∨
      (pool.allocated = s.pool.allocated + 1 ∧
        pool.freed = s.pool.allocated :: s.pool.freed)) :
    Consistent { s with pool := pool } contents where
  lists q processEntry hq := by
    obtain ⟨hid, hlist⟩ := h.lists q processEntry hq
    exact ⟨hid, hlist.congr fun e _ => congrFun hentry e.address⟩
  absent := h.absent
  disjoint := h.disjoint
  owned a ha := h.owned a (by rwa [← hentry])
  allocated a ha := by
    have hlt := h.allocated a (by rwa [← hentry])
    rcases hpool with ⟨hsame, _⟩ | ⟨hmore, _⟩
    · exact hsame ▸ hlt
    · rw [show ({ s with pool := pool } : PmState).pool.allocated = _ from hmore]
      exact Nat.lt_succ_of_lt hlt
  freed a := by
    show pool.freed.count a = if a < pool.allocated ∧ pool.entry a = none then 1 else 0
    rw [hentry]
    rcases hpool with ⟨hsame, hfreed⟩ | ⟨hmore, hfreed⟩
    · rw [hsame, hfreed]
      exact h.freed a
    · rw [hmore, hfreed, List.count_cons, h.freed a]
      by_cases hself : s.pool.allocated = a
      · rw [← hself]
        simp [h.fresh]
      · have hlt : a < s.pool.allocated + 1 ↔ a < s.pool.allocated := by omega
        simp [hself, hlt]

/-- A dispatch that succeeds adds an entry. -/
theorem Consistent.dispatch_excluded (h : Consistent s contents) {processEntry : DsProcessEntry}
    {pool : ExclusionPool} {list : IdxListTable Nat} {entry : PmExclusionEntry}
    (htree : s.gProcessTree p = some processEntry)
    (hallocated : pool.allocated = s.pool.allocated + 1) (hfreed : pool.freed = s.pool.freed)
    (hentry : pool.entry = Function.update s.pool.entry s.pool.allocated (some entry))
    (hlist : Holds pool list (⟨s.pool.allocated, entry⟩ :: contents p)) :
    Consistent
      { gProcessTree := Function.update s.gProcessTree p
          (some { processEntry with threadList := list })
        pool := pool }
      (Function.update contents p (⟨s.pool.allocated, entry⟩ :: contents p)) := by
  -- the entries that were there have other addresses
  have hold : ∀ q, ∀ e ∈ contents q, e.address ≠ s.pool.allocated := by
    intro q e he hk
    have hsome := h.entry he
    rw [hk, h.fresh] at hsome
    exact absurd hsome (by simp)
  have hcontents : ∀ q, ∀ e ∈ Function.update contents p
      (⟨s.pool.allocated, entry⟩ :: contents p) q,
      (q = p ∧ e = ⟨s.pool.allocated, entry⟩) ∨ e ∈ contents q := by
    intro q e he
    by_cases hq : q = p
    · rw [hq, Function.update_self] at he
      rcases List.mem_cons.mp he with hnew | hmem
      · exact Or.inl ⟨hq, hnew⟩
      · exact Or.inr (hq ▸ hmem)
    · rw [Function.update_of_ne hq] at he
      exact Or.inr he
  refine ⟨?_, ?_, ?_, ?_, ?_, ?_⟩
  · intro q other hq
    by_cases hp : q = p
    · rw [hp] at hq ⊢
      simp only [Function.update_self, Option.some.injEq] at hq ⊢
      rw [← hq]
      exact ⟨(h.lists p processEntry htree).1, hlist⟩
    · simp only [Function.update_of_ne hp] at hq ⊢
      obtain ⟨hid, hheld⟩ := h.lists q other hq
      refine ⟨hid, hheld.congr fun e he => ?_⟩
      rw [hentry, Function.update_of_ne (hold q e he)]
  · intro q hq
    by_cases hp : q = p
    · rw [hp] at hq
      simp at hq
    · simp only [Function.update_of_ne hp] at hq ⊢
      exact h.absent q hq
  · intro q r e he f hf heq
    rcases hcontents q e he with ⟨hq, hnew⟩ | hmem
    · rcases hcontents r f hf with ⟨hr, _⟩ | hmem'
      · rw [hq, hr]
      · exact absurd (heq.symm.trans (congrArg Exclusion.address hnew)) (hold r f hmem')
    · rcases hcontents r f hf with ⟨_, hnew⟩ | hmem'
      · exact absurd (heq.trans (congrArg Exclusion.address hnew)) (hold q e hmem)
      · exact h.disjoint q r e hmem f hmem' heq
  · intro a ha
    have ha' : pool.entry a ≠ none := ha
    rw [hentry] at ha'
    by_cases hself : a = s.pool.allocated
    · exact ⟨p, ⟨s.pool.allocated, entry⟩, by simp, hself.symm⟩
    · rw [Function.update_of_ne hself] at ha'
      obtain ⟨q, e, he, heq⟩ := h.owned a ha'
      refine ⟨q, e, ?_, heq⟩
      by_cases hq : q = p
      · rw [hq] at he ⊢
        rw [Function.update_self]
        exact List.mem_cons_of_mem _ he
      · rwa [Function.update_of_ne hq]
  · intro a ha
    have ha' : pool.entry a ≠ none := ha
    show a < pool.allocated
    rw [hentry] at ha'
    by_cases hself : a = s.pool.allocated
    · omega
    · rw [Function.update_of_ne hself] at ha'
      have hlt := h.allocated a ha'
      omega
  · intro a
    show pool.freed.count a = if a < pool.allocated ∧ pool.entry a = none then 1 else 0
    rw [hfreed, hallocated, hentry, h.freed a]
    by_cases hself : a = s.pool.allocated
    · simp [hself]
    · have hlt : a < s.pool.allocated + 1 ↔ a < s.pool.allocated := by omega
      simp only [Function.update_of_ne hself, hlt]

end Consistent

end DeepShield.Pm
