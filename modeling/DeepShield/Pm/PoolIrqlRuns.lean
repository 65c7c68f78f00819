import DeepShield.Pm.PoolIrql

/-!
# Where the pool is touched at an illegal IRQL

First each routine by itself, what its actions are and when they are legal, then the
monitor: every event ends and keeps the table consistent, and its pool calls are legal
exactly under `PoolGuard` (`ProcessMonitorInv.exact`). From there `poolLegal_iff` is about
runs from any consistent table, with any entries on any lists.
-/

namespace DeepShield.Pm

open DeepShield.Lib DeepShield.Os DeepShield.Rtl.Unbounded

/-! ## Lists -/

/-- No list is locked. -/
def ListsFree (t : IrqlState PmLock) : Prop :=
  t.oldIrql .callerList = passiveLevel ∧ ∀ p, t.oldIrql (.list p) = passiveLevel

theorem listsFree_passive : ListsFree IrqlState.passive := ⟨rfl, fun _ => rfl⟩

/-- Nor does taking the lock of the tree lock any. -/
theorem listsFree_acquire {t : IrqlState PmLock} (h : ListsFree t) :
    ListsFree (t.acquire .gProcessTreeLock) :=
  ⟨(acquire_oldIrql (by decide)).trans h.1, fun p => (acquire_oldIrql (by simp)).trans (h.2 p)⟩

section Lists

variable {pool : ExclusionPool} {list : IdxListTable Nat} {exclusions : List Exclusion}

theorem isPoolCall_destroyIdxListActions (table : IdxListTable Nat) :
    ∀ action ∈ destroyIdxListActions table, action.isPoolCall = true := by
  unfold destroyIdxListActions
  split
  next => simp [PoolAction.isPoolCall]
  next => simp

theorem isPoolCall_insertHeadIdxListActions (block : Option (Nat → IdxListNode Nat))
    (table : IdxListTable Nat) :
    ∀ action ∈ insertHeadIdxListActions block table, action.isPoolCall = true := by
  unfold insertHeadIdxListActions extendIdxListActions
  split
  next =>
    split
    next => simp [PoolAction.isPoolCall]
    next => simp [PoolAction.isPoolCall]
  next => simp

/-- The loop frees each entry. -/
theorem Holds.pmCleanupLoopActions :
    ∀ {exclusions : List Exclusion} {fuel : Nat} {pool : ExclusionPool} {list : IdxListTable Nat},
      Holds pool list exclusions → exclusions.length ≤ fuel →
      pmCleanupLoopActions fuel pool list
        = some (List.replicate exclusions.length .exFreePoolWithTag) := by
  intro exclusions
  induction exclusions with
  | nil =>
    intro fuel pool list h _
    have hcount : getNodeCountIdxList list = 0 := h.count
    cases fuel with
    | zero => rw [Pm.pmCleanupLoopActions, if_pos hcount]; rfl
    | succ fuel => rw [Pm.pmCleanupLoopActions, if_pos hcount]; rfl
  | cons e exclusions ih =>
    intro fuel pool list h hfuel
    cases fuel with
    | zero => exact absurd hfuel (by simp)
    | succ fuel =>
      have hcount : getNodeCountIdxList list ≠ 0 := by
        rw [h.count]
        simp
      obtain ⟨list₁, pool₁, hremoved, hpool₁, hrest⟩ := h.removeHead
      have hloop := ih hrest (Nat.le_of_succ_le_succ hfuel)
      rw [Pm.pmCleanupLoopActions, if_neg hcount, hremoved]
      simp only [Option.bind_eq_bind, Option.bind_some, hpool₁, hloop]
      rfl

/-- Destroying a list: its entries are freed under its lock, and its array after that. -/
theorem Holds.pmDestroyThreadExclusionListActions (h : Holds pool list exclusions)
    (lock : PmLock) :
    ∃ array, pmDestroyThreadExclusionListActions lock pool list
        = some (locked lock (List.replicate exclusions.length .exFreePoolWithTag) ++ array) ∧
      ∀ action ∈ array, action.isPoolCall = true := by
  obtain ⟨list', hloop⟩ := h.pmCleanupLoop (Nat.le_of_eq h.count.symm)
  have hactions := h.pmCleanupLoopActions (Nat.le_of_eq h.count.symm)
  refine ⟨destroyIdxListActions list', ?_, isPoolCall_destroyIdxListActions list'⟩
  rw [Pm.pmDestroyThreadExclusionListActions, pmCleanupThreadExclusionListActions, hactions,
    pmCleanupThreadExclusionList, hloop]
  rfl

/-- Destroying a new list does nothing but take its lock. -/
theorem pmDestroyThreadExclusionListActions_new (lock : PmLock) (pool : ExclusionPool) :
    pmDestroyThreadExclusionListActions lock pool pmInitializeThreadExclusionList
      = some (locked lock []) := rfl

end Lists

/-! ## Entries of the tree -/

section Entries

variable {s : PmState} {contents : UInt64 → List Exclusion} {p : UInt64} {t : IrqlState PmLock}

/-- **Deleting an entry** leaves the IRQL alone, and is legal exactly at a legal IRQL and
with nothing on the list. -/
theorem Consistent.pmDeleteProcessEntryActions (h : Consistent s contents)
    {processEntry : DsProcessEntry} (htree : s.gProcessTree p = some processEntry) :
    ∃ actions, pmDeleteProcessEntryActions processEntry s = some actions ∧
      ∀ t : IrqlState PmLock, ListsFree t → irqlAfter t actions = t ∧
        (PoolLegal t actions ↔ t.irql ≤ dispatchLevel ∧ contents p = []) := by
  obtain ⟨hid, hlist⟩ := h.lists p processEntry htree
  obtain ⟨array, hdestroy, harray⟩ :=
    hlist.pmDestroyThreadExclusionListActions (.list processEntry.processId)
  have hfrees : ∀ action ∈ List.replicate (contents p).length
      (PoolAction.exFreePoolWithTag : PmAction), action.isPoolCall = true := by
    intro action hmem
    rw [List.eq_of_mem_replicate hmem]
    rfl
  have hrest : ∀ action ∈ array ++ [(PoolAction.exFreePoolWithTag : PmAction)],
      action.isPoolCall = true := by
    intro action hmem
    rcases List.mem_append.mp hmem with hmem | hmem
    · exact harray action hmem
    · rw [List.mem_singleton.mp hmem]
      rfl
  refine ⟨_, by rw [Pm.pmDeleteProcessEntryActions, hdestroy]; rfl, fun t ht => ?_⟩
  have hcleanup : irqlAfter t (locked (.list processEntry.processId)
      (List.replicate (contents p).length .exFreePoolWithTag)) = t :=
    irqlAfter_locked (ht.2 _) (irqlAfter_poolCalls hfrees)
  show irqlAfter t (locked _ _ ++ array ++ [_]) = t ∧
    (PoolLegal t (locked _ _ ++ array ++ [_]) ↔ _)
  rw [List.append_assoc, irqlAfter_append, poolLegal_append, hcleanup, irqlAfter_poolCalls hrest,
    poolLegal_locked, poolLegal_acquire hfrees, poolLegal_poolCalls hrest]
  refine ⟨rfl, ?_⟩
  rw [List.replicate_eq_nil_iff, List.length_eq_zero_iff]
  constructor
  · intro hlegal
    exact ⟨hlegal.2.resolve_left (by simp), hlegal.1⟩
  · intro hboth
    exact ⟨hboth.2, Or.inr hboth.1⟩

/-- **Creating an entry** under the lock of the tree is legal exactly if it is there. -/
theorem pmCreateProcessEntryActions_legal (nodeAllocated : Bool) (s : PmState) (p : UInt64)
    (ht : ListsFree t) (hirql : t.irql = highLevel) :
    ∃ actions, pmCreateProcessEntryActions nodeAllocated p s = some actions ∧
      irqlAfter t actions = t ∧ (PoolLegal t actions ↔ s.gProcessTree p ≠ none) := by
  have hcaller : irqlAfter t (locked .callerList []) = t := irqlAfter_locked ht.1 rfl
  have hlegal : PoolLegal t (locked .callerList []) := poolLegal_locked.mpr trivial
  have hillegal : ¬ (PoolAction.isPoolCall (.exAllocatePoolWithTag : PmAction) = true →
      t.irql ≤ dispatchLevel) := by
    rw [hirql]
    exact fun hcall => absurd (hcall rfl) (by decide)
  cases htree : s.gProcessTree p with
  | some processEntry =>
    refine ⟨locked .callerList [], ?_, hcaller, iff_of_true hlegal (by simp)⟩
    simp [pmCreateProcessEntryActions, rtlInsertElementGenericTableAvlActions, htree,
      pmDestroyThreadExclusionListActions_new]
  | none =>
    cases nodeAllocated with
    | true =>
      refine ⟨[.exAllocatePoolWithTag], ?_, rfl,
        iff_of_false (fun hlegal => hillegal hlegal.1) (fun hne => hne rfl)⟩
      simp [pmCreateProcessEntryActions, rtlInsertElementGenericTableAvlActions, htree]
    | false =>
      refine ⟨.exAllocatePoolWithTag :: locked .callerList [], ?_, hcaller,
        iff_of_false (fun hlegal => hillegal hlegal.1) (fun hne => hne rfl)⟩
      simp [pmCreateProcessEntryActions, rtlInsertElementGenericTableAvlActions, htree,
        pmDestroyThreadExclusionListActions_new]

end Entries

/-! ## At `PASSIVE_LEVEL` -/

section Passive

variable {s : PmState} {contents : UInt64 → List Exclusion}

/-- Pool calls before and after a part that leaves the IRQL alone are legal. -/
theorem passive_around {before part after : List PmAction}
    (hbefore : ∀ action ∈ before, action.isPoolCall = true)
    (hafter : ∀ action ∈ after, action.isPoolCall = true)
    (hpart : irqlAfter IrqlState.passive part = IrqlState.passive) :
    irqlAfter IrqlState.passive (before ++ part ++ after) = IrqlState.passive ∧
      (PoolLegal IrqlState.passive (before ++ part ++ after) ↔
        PoolLegal IrqlState.passive part) := by
  have hlow : (IrqlState.passive : IrqlState PmLock).irql ≤ dispatchLevel := by decide
  rw [irqlAfter_append, irqlAfter_append, poolLegal_append, poolLegal_append, irqlAfter_append,
    irqlAfter_poolCalls hbefore, hpart, irqlAfter_poolCalls hafter, poolLegal_poolCalls hbefore,
    poolLegal_poolCalls hafter]
  exact ⟨rfl, fun h => h.1.2, fun h => ⟨⟨Or.inr hlow, h⟩, Or.inr hlow⟩⟩

/-- Nothing but pool calls is legal. -/
theorem passive_poolCalls {actions : List PmAction}
    (h : ∀ action ∈ actions, action.isPoolCall = true) :
    irqlAfter IrqlState.passive actions = IrqlState.passive ∧
      PoolLegal IrqlState.passive actions :=
  ⟨irqlAfter_poolCalls h, (poolLegal_poolCalls h).mpr (Or.inr (by decide))⟩

theorem isPoolCall_append {actions actions' : List PmAction}
    (h : ∀ action ∈ actions, action.isPoolCall = true)
    (h' : ∀ action ∈ actions', action.isPoolCall = true) :
    ∀ action ∈ actions ++ actions', action.isPoolCall = true := by
  intro action hmem
  rcases List.mem_append.mp hmem with hmem | hmem
  · exact h action hmem
  · exact h' action hmem

theorem isPoolCall_pmAllocateProcessImageNameActions (answer : ImageNameAnswer) :
    ∀ action ∈ pmAllocateProcessImageNameActions answer, action.isPoolCall = true := by
  cases answer <;> simp [pmAllocateProcessImageNameActions, PoolAction.isPoolCall]

theorem isPoolCall_pmGetProcessSidActions (answer : SidAnswer) :
    ∀ action ∈ pmGetProcessSidActions answer, action.isPoolCall = true := by
  cases answer <;> simp [pmGetProcessSidActions, PoolAction.isPoolCall]

/-- **The creation callback** is legal exactly if it inserts nothing. -/
theorem dsProcessCreationCallbackActions_legal (answers : CreationAnswers) (p : UInt64)
    (s : PmState) :
    ∃ actions, dsProcessCreationCallbackActions answers p s = some actions ∧
      irqlAfter IrqlState.passive actions = IrqlState.passive ∧
      (PoolLegal IrqlState.passive actions ↔ ¬ Inserts s p answers) := by
  have hname := isPoolCall_pmAllocateProcessImageNameActions answers.imageName
  have hsid : ∀ action ∈ (PoolAction.exAllocatePoolWithTag : PmAction) ::
      pmGetProcessSidActions answers.sid, action.isPoolCall = true := by
    intro action hmem
    rcases List.mem_cons.mp hmem with hfirst | hmem
    · rw [hfirst]
      rfl
    · exact isPoolCall_pmGetProcessSidActions answers.sid action hmem
  have hexit : ∀ action ∈ [(PoolAction.exFreePoolWithTag : PmAction), .exFreePoolWithTag],
      action.isPoolCall = true := by
    simp [PoolAction.isPoolCall]
  unfold dsProcessCreationCallbackActions
  by_cases hcopied : answers.imageName = .copied
  · rw [if_neg (not_not.mpr hcopied)]
    by_cases hallocated : answers.entryAllocated = false
    · rw [if_pos hallocated]
      obtain ⟨hafter, hlegal⟩ := passive_poolCalls (@isPoolCall_append _
        [.exAllocatePoolWithTag] hname (by simp [PoolAction.isPoolCall]))
      refine ⟨_, rfl, hafter, iff_of_true hlegal fun hinserts => ?_⟩
      exact absurd (hallocated.symm.trans hinserts.2.1) (by decide)
    · rw [if_neg hallocated]
      by_cases hconverted : answers.sid = .converted
      · rw [if_neg (not_not.mpr hconverted)]
        obtain ⟨create, hcreate, hsame, hlegal⟩ :=
          pmCreateProcessEntryActions_legal answers.nodeAllocated s p
            (listsFree_acquire listsFree_passive) acquire_irql
        have hpart : irqlAfter (IrqlState.passive : IrqlState PmLock)
            (locked .gProcessTreeLock create) = IrqlState.passive := irqlAfter_locked rfl hsame
        obtain ⟨hafter, hiff⟩ := passive_around (isPoolCall_append hname hsid) hexit hpart
        refine ⟨_, by rw [hcreate]; rfl, hafter, ?_⟩
        rw [hiff, poolLegal_locked, hlegal]
        constructor
        · intro hpresent hinserts
          exact hpresent hinserts.2.2.2
        · intro hnot habsent
          exact hnot ⟨hcopied, by simpa using hallocated, hconverted, habsent⟩
      · rw [if_pos hconverted]
        obtain ⟨hafter, hlegal⟩ :=
          passive_poolCalls (isPoolCall_append (isPoolCall_append hname hsid) hexit)
        exact ⟨_, rfl, hafter, iff_of_true hlegal fun hinserts => hconverted hinserts.2.2.1⟩
  · rw [if_pos hcopied]
    obtain ⟨hafter, hlegal⟩ := passive_poolCalls hname
    exact ⟨_, rfl, hafter, iff_of_true hlegal fun hinserts => hcopied hinserts.1⟩

/-- **The deletion callback** is legal exactly if there is nothing to delete. -/
theorem Consistent.dsProcessDeletionCallbackActions (h : Consistent s contents) (p : UInt64) :
    ∃ actions, dsProcessDeletionCallbackActions p s = some actions ∧
      (PoolLegal IrqlState.passive actions ↔ s.gProcessTree p = none) := by
  unfold Pm.dsProcessDeletionCallbackActions pmLookupProcessEntryById
  cases htree : s.gProcessTree p with
  | none => exact ⟨_, rfl, iff_of_true (poolLegal_locked.mpr trivial) rfl⟩
  | some processEntry =>
    obtain ⟨actions, hactions, hlegal⟩ := h.pmDeleteProcessEntryActions htree
    refine ⟨locked .gProcessTreeLock actions, by simp [hactions],
      iff_of_false (fun hall => ?_) (by simp)⟩
    have hirql := ((hlegal _ (listsFree_acquire listsFree_passive)).2.mp
      (poolLegal_locked.mp hall)).1
    exact absurd hirql (show ¬ highLevel ≤ dispatchLevel by decide)

/-- **A dispatch** is legal exactly if it does not make a list grow. -/
theorem dispatchTimerFalsePositiveActions_legal (outcome : ExclusionOutcome)
    (processId threadId : UInt64) (s : PmState) :
    PoolLegal IrqlState.passive
        (dispatchTimerFalsePositiveActions outcome processId threadId s) ↔
      ¬ Grows s processId threadId outcome := by
  unfold dispatchTimerFalsePositiveActions pmLookupProcessEntryById
  cases htree : s.gProcessTree (lowPart processId) with
  | none =>
    refine iff_of_true trivial fun hgrows => ?_
    obtain ⟨processEntry, thread, hpresent, _⟩ := hgrows
    exact absurd (htree.symm.trans hpresent) (by simp)
  | some processEntry =>
    show PoolLegal _ (pmExcludeThreadActions _ _ _ _) ↔ _
    unfold pmExcludeThreadActions
    split
    next hallocated =>
      refine iff_of_true (passive_poolCalls (by simp [PoolAction.isPoolCall])).2 fun hgrows => ?_
      obtain ⟨_, _, _, hallocated', _⟩ := hgrows
      exact absurd (hallocated.symm.trans hallocated') (by decide)
    next hallocated =>
      split
      next status hlookup =>
        refine iff_of_true (passive_poolCalls (by simp [PoolAction.isPoolCall])).2 fun hgrows => ?_
        obtain ⟨_, _, _, _, hlookup', _⟩ := hgrows
        exact absurd (hlookup.symm.trans hlookup') (by simp)
      next thread hlookup =>
        have hinsert := isPoolCall_insertHeadIdxListActions outcome.block processEntry.threadList
        have hpart : irqlAfter (IrqlState.passive : IrqlState PmLock)
            (locked (.list (lowPart processId))
              (insertHeadIdxListActions outcome.block processEntry.threadList))
            = IrqlState.passive := irqlAfter_locked rfl (irqlAfter_poolCalls hinsert)
        have haround := (@passive_around [.exAllocatePoolWithTag] _
          (if processEntry.threadList.nodeFreeList = 0 ∧ outcome.block.isNone then
            [.exFreePoolWithTag] else []) (by simp [PoolAction.isPoolCall])
          (by split <;> simp [PoolAction.isPoolCall]) hpart).2
        refine haround.trans ?_
        rw [poolLegal_locked, poolLegal_acquire hinsert, insertHeadIdxListActions]
        constructor
        · intro hnil hgrows
          obtain ⟨processEntry', _, hpresent, _, _, hfull⟩ := hgrows
          obtain rfl := Option.some.inj (htree.symm.trans hpresent)
          rw [if_pos hfull, extendIdxListActions] at hnil
          exact absurd hnil (by simp)
        · intro hnot
          rw [if_neg]
          exact fun hfull => hnot ⟨processEntry, thread, htree, by simpa using hallocated, hlookup,
            hfull⟩

end Passive

/-! ## The monitor over runs -/

/-- The table is consistent, and its elements are what is in the tree. -/
structure ProcessMonitorInv (m : PmMonitor) : Prop where
  consistent : ∃ contents, Consistent m.state contents
  elements : ∀ p, p ∈ m.elements ↔ m.state.gProcessTree p ≠ none
  nodup : m.elements.Nodup
  stopped : m.phase = .stopped → m.elements = []

theorem processMonitorInv_initial : ProcessMonitorInv PmMonitor.initial where
  consistent := ⟨_, consistent_new⟩
  elements p := by simp [PmMonitor.initial, pmInitializeProcessTable]
  nodup := List.nodup_nil
  stopped _ := rfl

/-- **Clearing the table** deletes every element, and is legal exactly at a legal IRQL and
with nothing on any list. -/
theorem Consistent.pmClearProcessTable :
    ∀ {elements : List UInt64} {s : PmState} {contents : UInt64 → List Exclusion},
      Consistent s contents → (∀ p ∈ elements, s.gProcessTree p ≠ none) → elements.Nodup →
      ∃ actions s' contents', pmClearProcessTable elements s = some (actions, s') ∧
        Consistent s' contents' ∧
        (∀ q, s'.gProcessTree q = if q ∈ elements then none else s.gProcessTree q) ∧
        ∀ t : IrqlState PmLock, ListsFree t → irqlAfter t actions = t ∧
          (PoolLegal t actions ↔
            ∀ p ∈ elements, t.irql ≤ dispatchLevel ∧ contents p = []) := by
  intro elements
  induction elements with
  | nil =>
    intro s contents h _ _
    exact ⟨[], s, contents, rfl, h, fun q => by simp, fun t _ =>
      ⟨rfl, iff_of_true trivial (by simp)⟩⟩
  | cons p elements ih =>
    intro s contents h hpresent hnodup
    obtain ⟨hfresh, hnodup⟩ := List.nodup_cons.mp hnodup
    cases htree : s.gProcessTree p with
    | none => exact absurd htree (hpresent p List.mem_cons_self)
    | some processEntry =>
      obtain ⟨delete, hdelete, hlegal⟩ := h.pmDeleteProcessEntryActions htree
      obtain ⟨s₁, hstep, htree₁, _, h₁⟩ := h.delete htree
      have hdeleted : pmDeleteProcessEntry processEntry s = some s₁ := by
        simpa [dsProcessDeletionCallback, pmLookupProcessEntryById, htree] using hstep
      have hother : ∀ q ∈ elements, q ≠ p := fun q hq hk => hfresh (hk ▸ hq)
      obtain ⟨rest, s', contents', hrest, h', htree', hlegal'⟩ := ih h₁
        (fun q hq => by
          rw [htree₁, Function.update_of_ne (hother q hq)]
          exact hpresent q (List.mem_cons_of_mem p hq)) hnodup
      refine ⟨delete ++ rest, s', contents', ?_, h', fun q => ?_, fun t ht => ?_⟩
      · simp [Pm.pmClearProcessTable, pmLookupProcessEntryById, htree, hdelete, hdeleted, hrest]
      · rw [htree' q, htree₁]
        by_cases hq : q = p
        · simp [hq]
        · simp [hq]
      · obtain ⟨hafter, hiff⟩ := hlegal t ht
        obtain ⟨hafter', hiff'⟩ := hlegal' t ht
        rw [irqlAfter_append, poolLegal_append, hafter, hafter', hiff, hiff', List.forall_mem_cons]
        refine ⟨rfl, and_congr_right fun _ => forall₂_congr fun q hq => ?_⟩
        rw [Function.update_of_ne (hother q hq)]

section Monitor

variable {m : PmMonitor}

/-- The lists are empty as the contents are. -/
theorem ProcessMonitorInv.listsEmpty_iff (h : ProcessMonitorInv m)
    {contents : UInt64 → List Exclusion} (hconsistent : Consistent m.state contents) :
    ListsEmpty m.state ↔ ∀ p ∈ m.elements, contents p = [] := by
  constructor
  · intro hempty p hp
    cases htree : m.state.gProcessTree p with
    | none => exact absurd htree ((h.elements p).mp hp)
    | some processEntry =>
      have hcount := (hconsistent.lists p processEntry htree).2.count
      rw [hempty p processEntry htree] at hcount
      exact List.length_eq_zero_iff.mp hcount.symm
  · intro hempty p processEntry htree
    rw [(hconsistent.lists p processEntry htree).2.count,
      hempty p ((h.elements p).mpr (by simp [htree]))]
    rfl

/-- **Deleting the table** is legal exactly at a legal IRQL and with nothing on any list. -/
theorem ProcessMonitorInv.deleteProcessTable (h : ProcessMonitorInv m) :
    ∃ actions m', m.deleteProcessTable = some (actions, m') ∧ ProcessMonitorInv m' ∧
      ∀ t : IrqlState PmLock, ListsFree t → irqlAfter t actions = t ∧
        (PoolLegal t actions ↔ t.irql ≤ dispatchLevel ∧ ListsEmpty m.state) := by
  obtain ⟨contents, hconsistent⟩ := h.consistent
  obtain ⟨actions, s', contents', hclear, h', htree', hlegal⟩ :=
    hconsistent.pmClearProcessTable (fun p hp => (h.elements p).mp hp) h.nodup
  refine ⟨_, _, by rw [PmMonitor.deleteProcessTable, hclear]; rfl, ⟨⟨contents', h'⟩, ?_,
    List.nodup_nil, fun _ => rfl⟩, fun t ht => ?_⟩
  · intro p
    refine iff_of_false (by simp) (fun hne => hne ?_)
    rw [htree' p]
    by_cases hp : p ∈ m.elements
    · rw [if_pos hp]
    · rw [if_neg hp]
      by_contra hsome
      exact hp ((h.elements p).mpr hsome)
  · obtain ⟨hafter, hiff⟩ := hlegal t ht
    have htable : ∀ action ∈ [(PoolAction.exFreePoolWithTag : PmAction)],
        action.isPoolCall = true := by
      simp [PoolAction.isPoolCall]
    rw [irqlAfter_append, poolLegal_append, hafter, irqlAfter_poolCalls htable, hiff,
      poolLegal_poolCalls htable, h.listsEmpty_iff hconsistent]
    refine ⟨rfl, fun hboth => ?_, fun hboth => ?_⟩
    · exact ⟨hboth.2.resolve_left (by simp), fun p hp => (hboth.1 p hp).2⟩
    · exact ⟨fun p hp => ⟨hboth.1, hboth.2 p hp⟩, Or.inr hboth.1⟩

/-- Nothing is on the list of a process that is not there. -/
theorem ProcessMonitorInv.listsEmpty_stopped (h : ProcessMonitorInv m)
    (hphase : m.phase = .stopped) : ListsEmpty m.state := by
  intro p processEntry htree
  have hmem := (h.elements p).mpr (by simp [htree])
  rw [h.stopped hphase] at hmem
  exact absurd hmem (by simp)

/-- **A creation** keeps the invariant; one that inserts nothing changes nothing. -/
theorem ProcessMonitorInv.create (h : ProcessMonitorInv m) (hphase : m.phase ≠ .stopped)
    (answers : CreationAnswers) (p : UInt64) :
    ∃ m', m.create answers p = some m' ∧ ProcessMonitorInv m' ∧ m'.phase = m.phase ∧
      (¬ Inserts m.state p answers → m' = m) := by
  obtain ⟨contents, hconsistent⟩ := h.consistent
  cases htree : m.state.gProcessTree p with
  | some processEntry =>
    have hsame : m.create answers p = some m := by
      simp [PmMonitor.create, dsProcessCreationCallback_present htree, htree]
    exact ⟨m, hsame, h, rfl, fun _ => rfl⟩
  | none =>
    rcases dsProcessCreationCallback_absent htree answers.outcome with hsame | hcreated
    · have hstays : m.create answers p = some m := by
        simp [PmMonitor.create, hsame, htree]
      exact ⟨m, hstays, h, rfl, fun _ => rfl⟩
    · have hmoves : m.create answers p = some { m with
          state := { m.state with
            gProcessTree := Function.update m.state.gProcessTree p
              (some ⟨p, pmInitializeThreadExclusionList, 0⟩) }
          elements := m.elements.orderedInsert (· ≤ ·) p } := by
        simp [PmMonitor.create, hcreated, htree]
      refine ⟨_, hmoves, ⟨⟨contents, hconsistent.create htree⟩, ?_, ?_, fun hk => absurd hk hphase⟩,
        rfl, ?_⟩
      · intro q
        show q ∈ m.elements.orderedInsert (· ≤ ·) p ↔
          Function.update m.state.gProcessTree p _ q ≠ none
        rw [List.mem_orderedInsert, h.elements q]
        by_cases hq : q = p
        · simp [hq]
        · simp [hq]
      · refine (List.perm_orderedInsert (· ≤ ·) p m.elements).nodup_iff.mpr
          (List.nodup_cons.mpr ⟨fun hmem => ?_, h.nodup⟩)
        exact (h.elements p).mp hmem htree
      · -- without an insertion the callback would have left the table as it is
        intro hnot
        have hkept : dsProcessCreationCallback answers.outcome p m.state = some m.state := by
          unfold dsProcessCreationCallback
          rw [if_pos]
          by_contra hreached
          simp only [CreationAnswers.outcome, not_or, Bool.not_eq_false, decide_eq_true_eq]
            at hreached
          exact hnot ⟨hreached.1, hreached.2.1, hreached.2.2, htree⟩
        have hsame := Option.some.inj (hcreated.symm.trans hkept)
        have hgone := congrFun (congrArg PmState.gProcessTree hsame) p
        rw [htree] at hgone
        exact absurd hgone (by simp)

/-- **The notified processes**: legal exactly if nothing is inserted for any of them. -/
theorem ProcessMonitorInv.seNotifyProcesses {processes : List (UInt64 × CreationAnswers)} :
    ∀ {m : PmMonitor}, ProcessMonitorInv m → m.phase ≠ .stopped →
      ∃ actions m', seNotifyProcesses processes m = some (actions, m') ∧ ProcessMonitorInv m' ∧
        m'.phase = m.phase ∧ irqlAfter IrqlState.passive actions = IrqlState.passive ∧
        (PoolLegal IrqlState.passive actions ↔
          ∀ process ∈ processes, ¬ Inserts m.state process.1 process.2) := by
  induction processes with
  | nil =>
    intro m h _
    exact ⟨[], m, rfl, h, rfl, rfl, iff_of_true trivial (by simp)⟩
  | cons process processes ih =>
    intro m h hphase
    obtain ⟨p, answers⟩ := process
    obtain ⟨actions, hactions, hafter, hlegal⟩ :=
      dsProcessCreationCallbackActions_legal answers p m.state
    obtain ⟨m₁, hcreate, h₁, hphase₁, hsame⟩ := h.create hphase answers p
    obtain ⟨rest, m', hrest, h', hphase', hafter', hlegal'⟩ := ih h₁ (hphase₁ ▸ hphase)
    refine ⟨actions ++ rest, m', ?_, h', hphase'.trans hphase₁, ?_, ?_⟩
    · simp [Pm.seNotifyProcesses, hactions, hcreate, hrest]
    · rw [irqlAfter_append, hafter, hafter']
    · rw [poolLegal_append, hafter, hlegal, hlegal', List.forall_mem_cons]
      refine and_congr_right fun hnot => ?_
      rw [hsame hnot]

theorem isPoolCall_mismatchActions (mismatches : Nat) :
    ∀ action ∈ mismatchActions mismatches, action.isPoolCall = true := by
  induction mismatches with
  | zero => simp [mismatchActions]
  | succ mismatches ih =>
    intro action hmem
    rw [mismatchActions, List.mem_cons, List.mem_cons] at hmem
    rcases hmem with hmem | hmem | hmem
    · rw [hmem]
      rfl
    · rw [hmem]
      rfl
    · exact ih action hmem

/-- An invariant state where `event` has its actions, leads to one, and is legal exactly
under the guard. -/
def EventExact (m : PmMonitor) (event : MonitorEvent) (guard : Prop) : Prop :=
  ∃ actions m', monitorEvent m event = some (actions, m') ∧ ProcessMonitorInv m' ∧
    (PoolLegal IrqlState.passive actions ↔ guard)

/-- `PmInitializeProcessMonitor`. -/
theorem ProcessMonitorInv.initialise (h : ProcessMonitorInv m) (hphase : m.phase = .stopped)
    (tableAllocated routineSet : Bool) :
    EventExact m (.initialise tableAllocated routineSet) True := by
  have halloc : ∀ action ∈ [(PoolAction.exAllocatePoolWithTag : PmAction)],
      action.isPoolCall = true := by
    simp [PoolAction.isPoolCall]
  have hlegal := (passive_poolCalls halloc).2
  unfold EventExact
  show ∃ actions m', pmInitializeProcessMonitor tableAllocated routineSet m = _ ∧ _
  unfold pmInitializeProcessMonitor
  cases tableAllocated with
  | false => exact ⟨_, m, if_pos rfl, h, iff_of_true hlegal trivial⟩
  | true =>
    rw [if_neg (by decide)]
    cases routineSet with
    | false =>
      obtain ⟨actions, m', hdelete, h', hactions⟩ := h.deleteProcessTable
      refine ⟨_, m', by rw [if_pos rfl, hdelete]; rfl, h', iff_of_true ?_ trivial⟩
      exact ⟨fun _ => by decide, ((hactions _ listsFree_passive).2).mpr
        ⟨by decide, h.listsEmpty_stopped hphase⟩⟩
    | true =>
      refine ⟨_, { m with phase := .enumerating }, by rw [if_neg (by decide)], ?_,
        iff_of_true hlegal trivial⟩
      exact ⟨h.consistent, h.elements, h.nodup, fun hk => absurd hk (by simp)⟩

theorem isPoolCall_query :
    ∀ action ∈ [(PoolAction.exAllocatePoolWithTag : PmAction)], action.isPoolCall = true := by
  simp [PoolAction.isPoolCall]

theorem isPoolCall_release :
    ∀ action ∈ [(PoolAction.exFreePoolWithTag : PmAction)], action.isPoolCall = true := by
  simp [PoolAction.isPoolCall]

/-- The end of a failed enumeration. -/
theorem ProcessMonitorInv.enumerate_failed (h : ProcessMonitorInv m) {before : List PmAction}
    (hbefore : ∀ action ∈ before, action.isPoolCall = true) :
    ∃ actions m', m.deleteProcessTable = some (actions, m') ∧ ProcessMonitorInv m' ∧
      (PoolLegal IrqlState.passive (before ++ actions) ↔ ListsEmpty m.state) := by
  obtain ⟨actions, m', hdelete, h', hactions⟩ := h.deleteProcessTable
  obtain ⟨hafter, hlegal⟩ := hactions _ listsFree_passive
  refine ⟨actions, m', hdelete, h', ?_⟩
  rw [poolLegal_append, (passive_poolCalls hbefore).1, hlegal]
  exact ⟨fun hboth => hboth.2.2, fun hempty =>
    ⟨(passive_poolCalls hbefore).2, by decide, hempty⟩⟩

/-- `PmEnumerareProcesses`. -/
theorem ProcessMonitorInv.enumerate (h : ProcessMonitorInv m) (hphase : m.phase = .enumerating)
    (mismatches : Nat) (answer : QueryAnswer) :
    EventExact m (.enumerate mismatches answer)
      (match answer with
        | .listed processes =>
          ∀ process ∈ notified processes, ¬ Inserts m.state process.1 process.2
        | .noMemory | .failed => ListsEmpty m.state) := by
  have hmismatches := isPoolCall_mismatchActions mismatches
  unfold EventExact
  show ∃ actions m', pmEnumerareProcesses mismatches answer m = _ ∧ _
  cases answer with
  | noMemory =>
    obtain ⟨actions, m', hdelete, h', hlegal⟩ :=
      h.enumerate_failed (isPoolCall_append hmismatches isPoolCall_query)
    rw [List.append_assoc] at hlegal
    exact ⟨_, m', by simp [pmEnumerareProcesses, hdelete], h', hlegal⟩
  | failed =>
    obtain ⟨actions, m', hdelete, h', hlegal⟩ := h.enumerate_failed
      (isPoolCall_append hmismatches (isPoolCall_append isPoolCall_query isPoolCall_release))
    rw [List.append_assoc] at hlegal
    exact ⟨_, m', by simp [pmEnumerareProcesses, hdelete], h', hlegal⟩
  | listed processes =>
    obtain ⟨actions, m', hnotify, h', hphase', hafter, hlegal⟩ :=
      @ProcessMonitorInv.seNotifyProcesses (notified processes) m h (by rw [hphase]; decide)
    have haround := (passive_around (isPoolCall_append hmismatches isPoolCall_query)
      isPoolCall_release hafter).2
    rw [List.append_assoc, List.append_assoc] at haround
    refine ⟨_, { m' with phase := .started }, by simp [pmEnumerareProcesses, hnotify], ?_,
      haround.trans hlegal⟩
    exact ⟨h'.consistent, h'.elements, h'.nodup, fun hk => absurd hk (by simp)⟩

/-- `DsProcessDeletionCallback`. -/
theorem ProcessMonitorInv.delete (h : ProcessMonitorInv m) (hphase : m.phase ≠ .stopped)
    (p : UInt64) : EventExact m (.delete p) (m.state.gProcessTree p = none) := by
  obtain ⟨contents, hconsistent⟩ := h.consistent
  obtain ⟨actions, hactions, hlegal⟩ := hconsistent.dsProcessDeletionCallbackActions p
  have hdelete : ∃ state contents', dsProcessDeletionCallback p m.state = some state ∧
      state.gProcessTree = Function.update m.state.gProcessTree p none ∧
      Consistent state contents' := by
    cases htree : m.state.gProcessTree p with
    | none =>
      refine ⟨m.state, contents, dsProcessDeletionCallback_absent htree, ?_, hconsistent⟩
      rw [← htree, Function.update_eq_self]
    | some processEntry =>
      obtain ⟨state, hstep, htree', _, hstate⟩ := hconsistent.delete htree
      exact ⟨state, _, hstep, htree', hstate⟩
  obtain ⟨state, contents', hstep, htree', hstate⟩ := hdelete
  refine ⟨actions, { m with state := state, elements := m.elements.erase p },
    by simp [monitorEvent, PmMonitor.delete, hactions, hstep],
    ⟨⟨contents', hstate⟩, fun q => ?_, h.nodup.erase p, fun hk => absurd hk hphase⟩, hlegal⟩
  rw [h.nodup.mem_erase_iff, h.elements q]
  show _ ↔ state.gProcessTree q ≠ none
  rw [htree']
  by_cases hq : q = p
  · simp [hq]
  · simp [hq]

/-- A dispatched record. -/
theorem ProcessMonitorInv.dispatch (h : ProcessMonitorInv m) (hphase : m.phase ≠ .stopped)
    (processId threadId : UInt64) (outcome : ExclusionOutcome) :
    EventExact m (.dispatch processId threadId outcome)
      (¬ Grows m.state processId threadId outcome) := by
  obtain ⟨contents, hconsistent⟩ := h.consistent
  have hdispatch : ∃ status state contents',
      dispatchTimerFalsePositive outcome processId threadId m.state = some (status, state) ∧
      (∀ q, state.gProcessTree q ≠ none ↔ m.state.gProcessTree q ≠ none) ∧
      Consistent state contents' := by
    cases htree : m.state.gProcessTree (lowPart processId) with
    | none =>
      exact ⟨_, m.state, contents, dispatchTimerFalsePositive_absent htree outcome threadId,
        fun q => Iff.rfl, hconsistent⟩
    | some processEntry =>
      have hother : ∀ list q, Function.update m.state.gProcessTree (lowPart processId)
          (some { processEntry with threadList := list }) q ≠ none ↔
            m.state.gProcessTree q ≠ none := by
        intro list q
        by_cases hq : q = lowPart processId
        · simp [hq, htree]
        · simp [hq]
      have hlist := (hconsistent.lists _ _ htree).2
      rcases hlist.pmExcludeThread outcome threadId hconsistent.fresh with
        ⟨status, pool, hexclude, _, hentry, hpool⟩ |
          ⟨pool, list, thread, uniqueId, hexclude, _, hallocated, hfreed, hentry, hheld⟩
      · have hsame : Function.update m.state.gProcessTree (lowPart processId)
            (some { processEntry with threadList := processEntry.threadList })
              = m.state.gProcessTree := by
          rw [← htree]
          exact Function.update_eq_self _ _
        refine ⟨_, _, contents, dispatchTimerFalsePositive_present htree hexclude,
          hother processEntry.threadList, ?_⟩
        rw [hsame]
        exact hconsistent.dispatch_failed hentry hpool
      · exact ⟨_, _, _, dispatchTimerFalsePositive_present htree hexclude, hother list,
          hconsistent.dispatch_excluded htree hallocated hfreed hentry hheld⟩
  obtain ⟨status, state, contents', hstep, htree', hstate⟩ := hdispatch
  refine ⟨_, { m with state := state }, by simp [monitorEvent, hstep],
    ⟨⟨contents', hstate⟩, fun q => (h.elements q).trans (htree' q).symm, h.nodup,
      fun hk => absurd hk hphase⟩,
    dispatchTimerFalsePositiveActions_legal outcome processId threadId m.state⟩

/-- `PmFinalizeProcessMonitor`, which frees the table under its own lock. -/
theorem ProcessMonitorInv.finalise (h : ProcessMonitorInv m) : EventExact m .finalise False := by
  obtain ⟨actions, m', hdelete, h', hactions⟩ := h.deleteProcessTable
  refine ⟨_, m', by simp [monitorEvent, pmFinalizeProcessMonitor, hdelete]; rfl, h',
    iff_of_false (fun hall => ?_) id⟩
  have hirql := ((hactions _ (listsFree_acquire listsFree_passive)).2.mp
    (poolLegal_locked.mp hall)).1
  exact absurd hirql (show ¬ highLevel ≤ dispatchLevel by decide)

/-- **Every event** that happens ends, keeps the invariant, and is legal exactly under its
guard. -/
theorem ProcessMonitorInv.exact (h : ProcessMonitorInv m) {event : MonitorEvent}
    (henabled : event.Enabled m.phase) : EventExact m event (PoolGuard m event) := by
  have hguard : ∀ {guard : Prop}, EventExact m event guard → (PoolGuard m event ↔ guard) →
      EventExact m event (PoolGuard m event) := by
    intro guard hexact hiff
    obtain ⟨actions, m', hevent, h', hlegal⟩ := hexact
    exact ⟨actions, m', hevent, h', hlegal.trans hiff.symm⟩
  cases event with
  | initialise tableAllocated routineSet =>
    exact hguard (h.initialise henabled tableAllocated routineSet)
      (imp_iff_right henabled)
  | enumerate mismatches answer =>
    refine hguard (h.enumerate henabled mismatches answer) ?_
    cases answer with
    | noMemory | failed | listed processes => exact imp_iff_right henabled
  | create p answers =>
    obtain ⟨actions, hactions, _, hlegal⟩ :=
      dsProcessCreationCallbackActions_legal answers p m.state
    obtain ⟨m', hcreate, h', _, _⟩ := h.create henabled answers p
    exact hguard ⟨actions, m', by simp [monitorEvent, hactions, hcreate], h', hlegal⟩
      (imp_iff_right henabled)
  | delete p =>
    exact hguard (h.delete henabled p) (imp_iff_right henabled)
  | dispatch processId threadId outcome =>
    exact hguard (h.dispatch henabled processId threadId outcome)
      (imp_iff_right henabled)
  | finalise => exact hguard h.finalise (imp_iff_right henabled)

/-- Its step. -/
theorem ProcessMonitorInv.step (h : ProcessMonitorInv m) {m' : PmMonitor} {event : MonitorEvent}
    (hstep : processMonitorStep m event = some m') : ProcessMonitorInv m' := by
  unfold processMonitorStep at hstep
  split at hstep
  next henabled =>
    obtain ⟨actions, m'', hevent, h', _⟩ := h.exact henabled
    rw [hevent] at hstep
    obtain rfl := Option.some.inj hstep
    exact h'
  next => exact absurd hstep (by simp)

/-- **One event is legal exactly under its guard.** -/
theorem ProcessMonitorInv.eventLegal_iff (h : ProcessMonitorInv m) (event : MonitorEvent) :
    EventLegal m event ↔ PoolGuard m event := by
  by_cases henabled : event.Enabled m.phase
  · obtain ⟨actions, m', hevent, _, hlegal⟩ := h.exact henabled
    constructor
    · intro hall
      obtain ⟨actions', m'', hevent', hlegal'⟩ := hall henabled
      have hpair := Option.some.inj (hevent.symm.trans hevent')
      rw [← (Prod.mk.inj hpair).1] at hlegal'
      exact hlegal.mp hlegal'
    · intro hguard _
      exact ⟨actions, m', hevent, hlegal.mpr hguard⟩
  · exact iff_of_true (fun hk => absurd hk henabled) (fun hk => absurd hk henabled)

end Monitor

/-- **The pool is only touched at a legal IRQL exactly as long as nothing is inserted,
deleted, grown or cleared under a lock**, over every run from every consistent monitor. -/
theorem poolLegal_iff {m : PmMonitor} (h : ProcessMonitorInv m) (events : List MonitorEvent) :
    Throughout processMonitorStep EventLegal m events ↔
      Throughout processMonitorStep PoolGuard m events :=
  throughout_iff (fun {_ event} h (_ : True) => ProcessMonitorInv.eventLegal_iff h event)
    (fun h _ _ hstep => h.step hstep) h (fun _ _ => trivial)

/-- A callback whose process gets an entry. -/
def answersAll : CreationAnswers := ⟨.copied, true, .converted, true⟩

/-- From before the driver is loaded, to the creation of a process. -/
theorem poolLegal_iff_creation :
    Throughout processMonitorStep EventLegal PmMonitor.initial
        [.initialise true true, .enumerate 1 (.listed []), .create 0x5DC answersAll] ↔
      Throughout processMonitorStep PoolGuard PmMonitor.initial
        [.initialise true true, .enumerate 1 (.listed []), .create 0x5DC answersAll] :=
  poolLegal_iff processMonitorInv_initial _

/-- There the node of the entry is allocated at `HIGH_LEVEL`. -/
theorem not_poolLegal_creation :
    ¬ Throughout processMonitorStep EventLegal PmMonitor.initial
      [.initialise true true, .enumerate 1 (.listed []), .create 0x5DC answersAll] := by
  intro hall
  have hcreate := ((hall.2 _ rfl).2 _ rfl).1
  obtain ⟨actions, m', hevent, hlegal⟩ := hcreate (by decide)
  obtain ⟨rfl, _⟩ := Prod.mk.inj (Option.some.inj hevent)
  exact absurd hlegal (by decide)

end DeepShield.Pm
