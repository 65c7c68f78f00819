import DeepShield.Lib.Runs
import DeepShield.Pm.Exclusion

/-!
# References on excluded threads

`PmExcludeThread` finds the thread with `PsLookupThreadByThreadId`, which takes a reference
on it, and the entry keeps the pointer. The reference should go with the entry: when the
entry is not inserted after all, and when the list is destroyed. No function of the driver
drops it.

`referencesBalanced_iff`: the references that are outstanding are those of the live entries
for as long as neither happens.
-/

namespace DeepShield.Pm

open DeepShield.Lib DeepShield.Os DeepShield.Rtl.Unbounded

/-! ## Runs -/

/-- The list of a process, and the pool of its entries. -/
structure ExclusionRun where
  pool : ExclusionPool
  list : IdxListTable Nat

/-- The entry of the process was just created. -/
def ExclusionRun.initial : ExclusionRun := ⟨.empty, pmInitializeThreadExclusionList⟩

/-- What is done to the list. -/
inductive ExclusionEvent
  | exclude (outcome : ExclusionOutcome) (threadId : UInt64)
  | isExcluded (thread : UInt64)
  | destroy

/-- One event. -/
def exclusionStep (s : ExclusionRun) : ExclusionEvent → Option ExclusionRun
  | .exclude outcome threadId => do
    let (_, pool, list) ← pmExcludeThread outcome threadId s.pool s.list
    return ⟨pool, list⟩
  | .isExcluded thread => do
    let _ ← pmIsThreadExcluded s.pool s.list thread
    return s
  | .destroy => do
    let (pool, list) ← pmDestroyThreadExclusionList s.pool s.list
    return ⟨pool, list⟩

/-- The entries that were allocated and not freed. -/
def liveEntries (pool : ExclusionPool) : List PmExclusionEntry :=
  (List.range pool.allocated).filterMap pool.entry

/-- **The balance**: the references taken, none of which is ever dropped, are one for each
live entry, on its thread. -/
def ReferencesBalanced (s : ExclusionRun) : Prop :=
  s.pool.references.Perm ((liveEntries s.pool).map PmExclusionEntry.thread)

/-- An exclusion that finds its thread finds a node for the entry, and a list that is
destroyed is empty. -/
def KeepsReferences (s : ExclusionRun) : ExclusionEvent → Prop
  | .exclude outcome threadId =>
    outcome.entryAllocated = true →
      (∃ thread, outcome.psLookupThreadByThreadId (lowPart threadId) = .ok thread) →
        s.list.nodeFreeList ≠ 0 ∨ outcome.block ≠ none
  | .isExcluded _ => True
  | .destroy => getNodeCountIdxList s.list = 0

/-! ## Excluding -/

section Exclude

variable {pool : ExclusionPool} {list : IdxListTable Nat} {exclusions : List Exclusion}

/-- No reference is taken. -/
def NotFound (outcome : ExclusionOutcome) (threadId : UInt64) : Prop :=
  outcome.entryAllocated = true →
    ¬ ∃ thread, outcome.psLookupThreadByThreadId (lowPart threadId) = .ok thread

/-- **References**: one is taken if the thread is found, and kept if there is no node for the
entry. -/
theorem Holds.pmExcludeThread_references (h : Holds pool list exclusions)
    (outcome : ExclusionOutcome) (threadId : UInt64) :
    ∃ status pool' list', Pm.pmExcludeThread outcome threadId pool list
        = some (status, pool', list') ∧
      ((NotFound outcome threadId ∧ ntSuccess status = false ∧
          pool'.references = pool.references) ∨
        ∃ thread, outcome.entryAllocated = true ∧
          outcome.psLookupThreadByThreadId (lowPart threadId) = .ok thread ∧
          pool'.references = thread :: pool.references ∧
          (ntSuccess status = true ↔ list.nodeFreeList ≠ 0 ∨ outcome.block ≠ none)) := by
  unfold Pm.pmExcludeThread
  by_cases halloc : outcome.entryAllocated = false
  · rw [if_pos halloc]
    refine ⟨_, _, _, rfl, Or.inl ⟨fun hk => ?_, ntSuccess_statusNoMemory, rfl⟩⟩
    exact absurd (halloc.symm.trans hk) Bool.false_ne_true
  rw [if_neg halloc]
  have halloc := eq_true_of_ne_false halloc
  dsimp only [ExclusionPool.allocate]
  cases hlookup : outcome.psLookupThreadByThreadId (lowPart threadId) with
  | error status =>
    simp only [ExclusionPool.free, Function.update_self, Option.map_some, Option.bind_eq_bind,
      Option.bind_some]
    refine ⟨_, _, _, rfl, Or.inl ⟨fun _ => ?_, status.property, rfl⟩⟩
    rintro ⟨thread, hthread⟩
    rw [hlookup] at hthread
    cases hthread
  | ok thread =>
    obtain ⟨free, htable⟩ := h.table
    simp only [ExclusionPool.store, Function.update_self, Option.map_some, Option.bind_eq_bind,
      Option.bind_some, Function.update_idem]
    by_cases hroom : list.nodeFreeList ≠ 0 ∨ outcome.block ≠ none
    · rcases htable.insertHeadIdxList outcome.block pool.allocated with
        ⟨hfree, hblock, _⟩ | ⟨uniqueId, list', _, hpos, _, hinsert⟩
      · refine absurd hroom (not_or.mpr ⟨not_not_intro ?_, not_not_intro hblock⟩)
        exact htable.nodeFreeList_eq_zero.mpr hfree
      · rw [hinsert]
        simp only [Option.bind_some, Nat.ne_of_gt hpos, if_false]
        exact ⟨_, _, _, rfl, Or.inr ⟨thread, halloc, rfl, rfl,
          iff_of_true ntSuccess_statusSuccess hroom⟩⟩
    · obtain ⟨hfree, hblock⟩ := not_or.mp hroom
      rw [not_not, htable.nodeFreeList_eq_zero] at hfree
      rw [hfree] at htable
      have hfull := (htable.insertHead_full (some pool.allocated)).1
      rw [not_not] at hblock
      rw [hblock, hfull]
      simp only [ExclusionPool.free, Function.update_self, Option.map_some, Option.bind_some,
        if_true]
      refine ⟨_, _, _, rfl, Or.inr ⟨thread, halloc, rfl, rfl, ?_⟩⟩
      refine iff_of_false (ne_true_of_eq_false ntSuccess_statusNoMemory) fun hk => ?_
      exact hk.elim (fun hk => hk (htable.nodeFreeList_eq_zero.mpr rfl)) (fun hk => hk rfl)

end Exclude

/-! ## The invariant -/

/-- The list has these entries, and the pool has no others. -/
structure Tracks (s : ExclusionRun) (exclusions : List Exclusion) : Prop where
  holds : Holds s.pool s.list exclusions
  owned : ∀ a, s.pool.entry a ≠ none → ∃ e ∈ exclusions, e.address = a
  allocated : ∀ a, s.pool.entry a ≠ none → a < s.pool.allocated

/-- So it is, with a reference for each entry. -/
def ReferenceInv (s : ExclusionRun) : Prop :=
  (∃ exclusions, Tracks s exclusions) ∧ ReferencesBalanced s

section Invariant

variable {s s' : ExclusionRun} {pool pool' : ExclusionPool} {exclusions : List Exclusion}

theorem Tracks.fresh (h : Tracks s exclusions) : s.pool.entry s.pool.allocated = none := by
  by_contra hsome
  exact absurd (h.allocated _ hsome) (Nat.lt_irrefl _)

/-- An entry that was freed again is not live. -/
theorem liveEntries_same (hentry : pool'.entry = pool.entry)
    (hallocated : pool'.allocated = pool.allocated ∨ pool'.allocated = pool.allocated + 1)
    (hfresh : pool.entry pool.allocated = none) : liveEntries pool' = liveEntries pool := by
  unfold liveEntries
  rw [hentry]
  rcases hallocated with hsame | hmore
  · rw [hsame]
  · rw [hmore, List.range_succ, List.filterMap_append, List.filterMap_cons_none hfresh,
      List.filterMap_nil, List.append_nil]

/-- A new entry is. -/
theorem liveEntries_new {entry : PmExclusionEntry}
    (hentry : pool'.entry = Function.update pool.entry pool.allocated (some entry))
    (hallocated : pool'.allocated = pool.allocated + 1) :
    liveEntries pool' = liveEntries pool ++ [entry] := by
  have hold : (List.range pool.allocated).filterMap pool'.entry = liveEntries pool := by
    apply List.filterMap_congr
    intro a ha
    rw [hentry, Function.update_of_ne (Nat.ne_of_lt (List.mem_range.mp ha))]
  have hnew : pool'.entry pool.allocated = some entry := by
    rw [hentry, Function.update_self]
  unfold liveEntries
  rw [hallocated, List.range_succ, List.filterMap_append, List.filterMap_cons_some hnew,
    List.filterMap_nil]
  exact congrArg (· ++ [entry]) hold

/-- Where the list is empty nothing is live, and nowhere else. -/
theorem Tracks.liveEntries_eq_nil (h : Tracks s exclusions) :
    liveEntries s.pool = [] ↔ exclusions = [] := by
  constructor
  · intro hnil
    cases exclusions with
    | nil => rfl
    | cons e rest =>
      have hentry := h.holds.entries e List.mem_cons_self
      have hlt := h.allocated e.address (by rw [hentry]; exact Option.some_ne_none e.entry)
      have hmem : e.entry ∈ liveEntries s.pool :=
        List.mem_filterMap.mpr ⟨e.address, List.mem_range.mpr hlt, hentry⟩
      rw [hnil] at hmem
      exact absurd hmem List.not_mem_nil
  · rintro rfl
    refine List.filterMap_eq_nil_iff.mpr fun a _ => ?_
    by_contra hsome
    obtain ⟨e, he, -⟩ := h.owned a hsome
    exact absurd he List.not_mem_nil

/-- **A failed exclusion** leaves the entries. -/
theorem Tracks.failed (h : Tracks s exclusions) (hentry : pool'.entry = s.pool.entry)
    (hallocated : s.pool.allocated ≤ pool'.allocated) : Tracks ⟨pool', s.list⟩ exclusions where
  holds := h.holds.congr fun e _ => congrFun hentry e.address
  owned a ha := h.owned a (by rwa [← hentry])
  allocated a ha := Nat.lt_of_lt_of_le (h.allocated a (by rwa [← hentry])) hallocated

/-- **An exclusion** adds one. -/
theorem Tracks.excluded (h : Tracks s exclusions) {entry : PmExclusionEntry}
    {list' : IdxListTable Nat}
    (hallocated : pool'.allocated = s.pool.allocated + 1)
    (hentry : pool'.entry = Function.update s.pool.entry s.pool.allocated (some entry))
    (hholds : Holds pool' list' (⟨s.pool.allocated, entry⟩ :: exclusions)) :
    Tracks ⟨pool', list'⟩ (⟨s.pool.allocated, entry⟩ :: exclusions) := by
  have hcases : ∀ a, pool'.entry a ≠ none →
      a = s.pool.allocated ∨ s.pool.entry a ≠ none := by
    intro a ha
    by_cases hnew : a = s.pool.allocated
    · exact Or.inl hnew
    · rw [hentry, Function.update_of_ne hnew] at ha
      exact Or.inr ha
  refine ⟨hholds, fun a ha => ?_, fun a ha => ?_⟩
  · rcases hcases a ha with hnew | hold
    · exact ⟨_, List.mem_cons_self, hnew.symm⟩
    · obtain ⟨e, he, haddress⟩ := h.owned a hold
      exact ⟨e, List.mem_cons_of_mem _ he, haddress⟩
  · show a < pool'.allocated
    rw [hallocated]
    rcases hcases a ha with hnew | hold
    · exact Nat.lt_succ_of_le (Nat.le_of_eq hnew)
    · exact Nat.lt_succ_of_lt (h.allocated a hold)

/-- **Destroying the list** leaves none. -/
theorem Tracks.destroyed (h : Tracks s exclusions) :
    Tracks ⟨s.pool.freeAll (exclusions.map Exclusion.address), pmInitializeThreadExclusionList⟩
      [] := by
  have hnone : ∀ a, (s.pool.freeAll (exclusions.map Exclusion.address)).entry a = none := by
    intro a
    by_contra hsome
    obtain ⟨hmem, hentry⟩ := ExclusionPool.freeAll_entry_ne.mp hsome
    obtain ⟨e, he, rfl⟩ := h.owned a hentry
    exact hmem (List.mem_map_of_mem he)
  exact ⟨holds_new _, fun a ha => absurd (hnone a) ha, fun a ha => absurd (hnone a) ha⟩

/-! ## One event -/

/-- **An exclusion** keeps the balance exactly if the entry of a thread that was found is
inserted. -/
theorem Tracks.exclude (h : Tracks s exclusions) {outcome : ExclusionOutcome} {threadId : UInt64}
    (hstep : exclusionStep s (.exclude outcome threadId) = some s') :
    (∃ exclusions', Tracks s' exclusions') ∧
      (ReferencesBalanced s →
        (ReferencesBalanced s' ↔ KeepsReferences s (.exclude outcome threadId))) := by
  obtain ⟨status, pool, list, hresult, hreferences⟩ :=
    h.holds.pmExcludeThread_references outcome threadId
  have hafter : s' = ⟨pool, list⟩ := by
    rw [exclusionStep, hresult] at hstep
    exact (Option.some.inj hstep).symm
  subst hafter
  unfold ReferencesBalanced KeepsReferences
  rcases h.holds.pmExcludeThread outcome threadId h.fresh with
    ⟨status', pool', hfail, hstatus, hentry, hpool⟩ |
    ⟨pool', list', thread, uniqueId, hsucc, hlookup, hallocated, -, hentry, hholds⟩
  · -- no entry
    obtain ⟨rfl, rfl, rfl⟩ : status = status' ∧ pool = pool' ∧ list = s.list := by
      simpa using hresult.symm.trans hfail
    have hor : pool.allocated = s.pool.allocated ∨ pool.allocated = s.pool.allocated + 1 :=
      hpool.imp And.left And.left
    refine ⟨⟨exclusions, h.failed hentry (by omega)⟩, fun hbalanced => ?_⟩
    dsimp only
    rw [liveEntries_same hentry hor h.fresh]
    rcases hreferences with ⟨hnot, -, hsame⟩ | ⟨thread, halloc, hfound, htaken, hroom⟩
    · rw [hsame]
      exact iff_of_true hbalanced fun halloc hfound => absurd hfound (hnot halloc)
    · refine iff_of_false (fun hperm => ?_) fun hkeeps => ?_
      · -- one more reference than before, and the same entries
        rw [htaken] at hperm
        have hlength := hperm.length_eq.trans hbalanced.length_eq.symm
        rw [List.length_cons] at hlength
        omega
      · rw [hroom.mpr (hkeeps halloc ⟨thread, hfound⟩)] at hstatus
        exact Bool.false_ne_true hstatus.symm
  · -- an entry in front
    obtain ⟨rfl, rfl, rfl⟩ : status = statusSuccess ∧ pool = pool' ∧ list = list' := by
      simpa using hresult.symm.trans hsucc
    refine ⟨⟨_, h.excluded hallocated hentry hholds⟩, fun hbalanced => ?_⟩
    rcases hreferences with ⟨-, hstatus, -⟩ | ⟨thread', halloc, hfound, htaken, hroom⟩
    · exact absurd hstatus (ne_false_of_eq_true ntSuccess_statusSuccess)
    · obtain rfl : thread' = thread := Except.ok.inj (hfound.symm.trans hlookup)
      dsimp only
      rw [liveEntries_new hentry hallocated, htaken, List.map_append]
      refine iff_of_true ?_ fun _ _ => hroom.mp ntSuccess_statusSuccess
      exact (hbalanced.cons thread').trans (List.perm_append_singleton ..).symm

/-- **A destruction** keeps the balance exactly if there is nothing to destroy. -/
theorem Tracks.destroy (h : Tracks s exclusions)
    (hstep : exclusionStep s .destroy = some s') :
    (∃ exclusions', Tracks s' exclusions') ∧
      (ReferencesBalanced s → (ReferencesBalanced s' ↔ KeepsReferences s .destroy)) := by
  have hafter : s' = ⟨s.pool.freeAll (exclusions.map Exclusion.address),
      pmInitializeThreadExclusionList⟩ := by
    rw [exclusionStep, h.holds.pmDestroyThreadExclusionList] at hstep
    exact (Option.some.inj hstep).symm
  subst hafter
  refine ⟨⟨[], h.destroyed⟩, fun hbalanced => ?_⟩
  unfold ReferencesBalanced KeepsReferences
  rw [h.destroyed.liveEntries_eq_nil.mpr rfl, List.map_nil, List.perm_nil, h.holds.count,
    List.length_eq_zero_iff, ← h.liveEntries_eq_nil]
  show s.pool.references = [] ↔ _
  constructor
  · intro hnil
    have hperm : s.pool.references.Perm _ := hbalanced
    rw [hnil] at hperm
    exact List.map_eq_nil_iff.mp hperm.nil_eq.symm
  · intro hnil
    have hperm : s.pool.references.Perm _ := hbalanced
    rw [hnil] at hperm
    exact hperm.eq_nil

/-- A question changes nothing. -/
theorem exclusionStep_isExcluded {thread : UInt64}
    (hstep : exclusionStep s (.isExcluded thread) = some s') : s' = s := by
  rw [exclusionStep] at hstep
  cases hanswer : pmIsThreadExcluded s.pool s.list thread with
  | none =>
    rw [hanswer] at hstep
    exact nomatch hstep
  | some answer =>
    rw [hanswer] at hstep
    exact (Option.some.inj hstep).symm

/-- **No event goes wrong**, and no loop fails to end. -/
theorem Tracks.exclusionStep_ne_none (h : Tracks s exclusions) (event : ExclusionEvent) :
    exclusionStep s event ≠ none := by
  cases event with
  | exclude outcome threadId =>
    obtain ⟨status, pool, list, hresult, -⟩ :=
      h.holds.pmExcludeThread_references outcome threadId
    rw [exclusionStep, hresult]
    exact Option.some_ne_none _
  | isExcluded thread =>
    rw [exclusionStep, h.holds.pmIsThreadExcluded]
    exact Option.some_ne_none _
  | destroy =>
    rw [exclusionStep, h.holds.pmDestroyThreadExclusionList]
    exact Option.some_ne_none _

end Invariant

/-! ## Any run -/

theorem tracks_initial : Tracks .initial [] :=
  ⟨holds_new _, fun _ h => absurd rfl h, fun _ h => absurd rfl h⟩

/-- **No run goes wrong**: wherever it leads, the next event is possible. -/
theorem exclusionStep_always (events : List ExclusionEvent) :
    Always exclusionStep (fun s => ∀ event, exclusionStep s event ≠ none) .initial events := by
  refine @always_of_inv _ _ _ _ (fun s => ∃ exclusions, Tracks s exclusions)
    (fun {s} ⟨_, htracks⟩ event => htracks.exclusionStep_ne_none event)
    (fun {s event s'} ⟨exclusions, htracks⟩ hstep => ?_) events .initial ⟨[], tracks_initial⟩
  cases event with
  | exclude outcome threadId => exact (htracks.exclude hstep).1
  | isExcluded thread =>
    rw [exclusionStep_isExcluded hstep]
    exact ⟨exclusions, htracks⟩
  | destroy => exact (htracks.destroy hstep).1

theorem referenceInv_initial : ReferenceInv .initial := ⟨⟨[], tracks_initial⟩, List.Perm.nil⟩

/-- **The references are balanced** in every state of a run exactly if no thread is found
whose entry has no node, and no list is destroyed that has entries. -/
theorem referencesBalanced_iff (events : List ExclusionEvent) :
    Always exclusionStep ReferencesBalanced .initial events ↔
      Guarded exclusionStep KeepsReferences .initial events := by
  refine always_iff_guarded (fun h => h.2) (fun {s event s'} h hkeeps hstep => ?_)
    (fun {s event s'} h hkeeps hstep => ?_) referenceInv_initial
  · obtain ⟨⟨exclusions, htracks⟩, hbalanced⟩ := h
    cases event with
    | exclude outcome threadId =>
      obtain ⟨htracks', hiff⟩ := htracks.exclude hstep
      exact ⟨htracks', (hiff hbalanced).mpr hkeeps⟩
    | isExcluded thread =>
      rw [exclusionStep_isExcluded hstep]
      exact ⟨⟨exclusions, htracks⟩, hbalanced⟩
    | destroy =>
      obtain ⟨htracks', hiff⟩ := htracks.destroy hstep
      exact ⟨htracks', (hiff hbalanced).mpr hkeeps⟩
  · obtain ⟨⟨exclusions, htracks⟩, hbalanced⟩ := h
    cases event with
    | exclude outcome threadId => exact mt ((htracks.exclude hstep).2 hbalanced).mp hkeeps
    | isExcluded thread => exact absurd trivial hkeeps
    | destroy => exact mt ((htracks.destroy hstep).2 hbalanced).mp hkeeps

instance : DecidablePred ReferencesBalanced := fun s =>
  inferInstanceAs
    (Decidable (s.pool.references.Perm ((liveEntries s.pool).map PmExclusionEntry.thread)))

/-- Thread 1 of a process is at 0x1000, and the list gets its first block. -/
def foundThread : ExclusionOutcome where
  entryAllocated := true
  psLookupThreadByThreadId _ := .ok 0x1000
  block := some fun _ => emptyList

/-- A thread is excluded, and its process ends: no entry is left, and a reference. -/
theorem not_referencesBalanced_destroyed :
    ¬ Always exclusionStep ReferencesBalanced .initial
      [.exclude foundThread 1, .destroy] := by
  decide +kernel

end DeepShield.Pm
