import DeepShield.Os.NtStatus
import DeepShield.Rtl.IdxEntries

/-!
# Exclusion lists

Each process has a list of the threads whose time-stamp reads are known to be
harmless. The list is an index list of pointers to `PM_EXCLUSION_ENTRY`s, and
every entry has its own index in it (`UniqueId`), by which a walk goes on. The table
is the one on numbers: on `ULONG32`s it is the same (`Rtl.IdxWords`) until one process
has 2^32 - 257 excluded threads, each held by a reference.

The entries are in the non-paged pool, under addresses that are not given out
twice. An access to an entry that is not allocated, and freeing one, give none, as
an access outside a table does; so does a walk or a clean-up that would not end. A
result that is not none says that nothing of this happened.

`Holds pool list exclusions` says that the list of a process has these entries,
newest first. It is what `PmIsThreadExcluded` reads (`pmIsThreadExcluded_eq`), what
`PmExcludeThread` adds to (`pmExcludeThread_cases`), and what destroying the list
frees, each entry once (`Holds.pmDestroyThreadExclusionList`).
-/

namespace DeepShield.Pm

open DeepShield.Os DeepShield.Rtl.Unbounded

/-- `PM_EXCLUSION_ENTRY`; `thread` is the address of the thread object. -/
structure PmExclusionEntry where
  thread : UInt64
  uniqueId : Nat
deriving Repr, DecidableEq, Inhabited

/-- The pool of exclusion entries: those allocated now, how many ever were, which
were freed, last first, and the references `PsLookupThreadByThreadId` has taken on
threads. -/
structure ExclusionPool where
  entry : Nat → Option PmExclusionEntry
  allocated : Nat
  freed : List Nat
  references : List UInt64

namespace ExclusionPool

/-- No entry was allocated yet. -/
def empty : ExclusionPool := ⟨fun _ => none, 0, [], []⟩

/-- `ExAllocatePoolWithTag( …, 'eEsD' )` where it succeeds: the address, and the
pool with an entry there that has no meaning yet. -/
def allocate (pool : ExclusionPool) : Nat × ExclusionPool :=
  (pool.allocated, { pool with
    entry := Function.update pool.entry pool.allocated (some ⟨0, 0⟩)
    allocated := pool.allocated + 1 })

/-- `ExFreePoolWithTag( …, 'eEsD' )`. -/
def free (pool : ExclusionPool) (address : Nat) : Option ExclusionPool :=
  (pool.entry address).map fun _ =>
    { pool with
      entry := Function.update pool.entry address none
      freed := address :: pool.freed }

/-- An assignment to fields of an entry. -/
def store (pool : ExclusionPool) (address : Nat)
    (assign : PmExclusionEntry → PmExclusionEntry) : Option ExclusionPool :=
  (pool.entry address).map fun entry =>
    { pool with entry := Function.update pool.entry address (some (assign entry)) }

end ExclusionPool

/-- `((PLARGE_INTEGER) &value)->LowPart`, as a handle. -/
def lowPart (value : UInt64) : UInt64 := value &&& 0xFFFFFFFF

/-- What the kernel answers to `PmExcludeThread`: whether there is memory for the
entry, which thread has an id, and the block if the list has to grow. -/
structure ExclusionOutcome where
  entryAllocated : Bool
  psLookupThreadByThreadId : UInt64 → Except NtFailure UInt64
  block : Option (Nat → IdxListNode Nat)

/-- `PmInitializeThreadExclusionList`. -/
def pmInitializeThreadExclusionList : IdxListTable Nat := initializeIdxList

/-- The loop of `PmCleanupThreadExclusionList`. A pass that removes nothing
changes nothing, so there are as many passes as entries, or no end. -/
def pmCleanupLoop : Nat → ExclusionPool → IdxListTable Nat →
    Option (ExclusionPool × IdxListTable Nat)
  | fuel, pool, list =>
    if getNodeCountIdxList list = 0 then some (pool, list)
    else
      match fuel with
      | 0 => none
      | fuel + 1 => do
        let (removedEntry, list) ← removeHeadIdxList list
        let pool ←
          match removedEntry with
          | some address => pool.free address
          | none => some pool
        pmCleanupLoop fuel pool list

/-- `PmCleanupThreadExclusionList`. -/
def pmCleanupThreadExclusionList (pool : ExclusionPool) (list : IdxListTable Nat) :
    Option (ExclusionPool × IdxListTable Nat) :=
  pmCleanupLoop (getNodeCountIdxList list) pool list

/-- `PmDestroyThreadExclusionList`. -/
def pmDestroyThreadExclusionList (pool : ExclusionPool) (list : IdxListTable Nat) :
    Option (ExclusionPool × IdxListTable Nat) := do
  let (pool, list) ← pmCleanupThreadExclusionList pool list
  return (pool, destroyIdxList list)

/-- `PmExcludeThread`. -/
def pmExcludeThread (outcome : ExclusionOutcome) (threadId : UInt64) (pool : ExclusionPool)
    (list : IdxListTable Nat) : Option (NtStatus × ExclusionPool × IdxListTable Nat) :=
  if outcome.entryAllocated = false then some (statusNoMemory, pool, list)
  else
    match pool.allocate with
    | (exclusion, pool) =>
      match outcome.psLookupThreadByThreadId (lowPart threadId) with
      | .error status => do
        let pool ← pool.free exclusion
        return (status.val, pool, list)
      | .ok thread => do
        let pool := { pool with references := thread :: pool.references }
        let pool ← pool.store exclusion fun entry => { entry with thread := thread }
        let (uniqueId, list) ← insertHeadIdxList outcome.block (some exclusion) list
        let pool ← pool.store exclusion fun entry => { entry with uniqueId := uniqueId }
        if uniqueId = 0 then
          let pool ← pool.free exclusion
          return (statusNoMemory, pool, list)
        else return (statusSuccess, pool, list)

/-- The loop of `PmIsThreadExcluded`, from `CurrentEntry` on. -/
def pmIsThreadExcludedLoop (pool : ExclusionPool) (list : IdxListTable Nat) (thread : UInt64) :
    Nat → Option Nat → Option Bool
  | _, none => some false
  | 0, some _ => none
  | fuel + 1, some currentEntry => do
    let entry ← pool.entry currentEntry
    if entry.thread = thread then return true
    else
      let currentEntry ← getNextNodeIdxList list entry.uniqueId
      pmIsThreadExcludedLoop pool list thread fuel currentEntry

/-- `PmIsThreadExcluded`. A walk longer than the array is a cycle and would not
end. -/
def pmIsThreadExcluded (pool : ExclusionPool) (list : IdxListTable Nat) (thread : UInt64) :
    Option Bool := do
  let currentEntry ← getHeadNodeIdxList list
  pmIsThreadExcludedLoop pool list thread list.size currentEntry

/-! ## What a list holds -/

/-- An entry and where it is. -/
structure Exclusion where
  address : Nat
  entry : PmExclusionEntry
deriving Repr, DecidableEq

/-- Its place in the index list. -/
def Exclusion.slot (exclusion : Exclusion) : Nat × Nat :=
  (exclusion.entry.uniqueId, exclusion.address)

/-- The list has these entries, newest first. -/
structure Holds (pool : ExclusionPool) (list : IdxListTable Nat) (exclusions : List Exclusion) :
    Prop where
  table : ∃ free, list.Represents (exclusions.map Exclusion.slot) free
  entries : ∀ e ∈ exclusions, pool.entry e.address = some e.entry
  nodup : (exclusions.map Exclusion.address).Nodup

section Holds

variable {pool pool' : ExclusionPool} {list : IdxListTable Nat} {exclusions : List Exclusion}

/-- A new list is empty. -/
theorem holds_new (pool : ExclusionPool) :
    Holds pool pmInitializeThreadExclusionList [] where
  table := ⟨[], IdxListTable.represents_initializeIdxList⟩
  entries e he := absurd he (by simp)
  nodup := List.nodup_nil

/-- Only the pool at the addresses of the entries matters. -/
theorem Holds.congr (h : Holds pool list exclusions)
    (hsame : ∀ e ∈ exclusions, pool'.entry e.address = pool.entry e.address) :
    Holds pool' list exclusions where
  table := h.table
  entries e he := (hsame e he).trans (h.entries e he)
  nodup := h.nodup

/-! ## Looking for a thread -/

/-- The walk finds what is still in front of it. -/
theorem Holds.pmIsThreadExcludedLoop (h : Holds pool list exclusions) (thread : UInt64) :
    ∀ {after before : List Exclusion} {fuel : Nat}, exclusions = before ++ after →
      after.length ≤ fuel →
      pmIsThreadExcludedLoop pool list thread fuel (after.head?.map Exclusion.address)
        = some (decide (∃ e ∈ after, e.entry.thread = thread)) := by
  intro after
  induction after with
  | nil =>
    intro before fuel _ _
    simp [Pm.pmIsThreadExcludedLoop]
  | cons e after ih =>
    intro before fuel hsplit hfuel
    cases fuel with
    | zero => exact absurd hfuel (by simp)
    | succ fuel =>
      have hmem : e ∈ exclusions := by
        rw [hsplit]
        simp
      rw [List.head?_cons, Option.map_some, Pm.pmIsThreadExcludedLoop, h.entries e hmem,
        Option.bind_eq_bind, Option.bind_some]
      by_cases hthread : e.entry.thread = thread
      · rw [if_pos hthread]
        simp [hthread]
      · obtain ⟨free, htable⟩ := h.table
        rw [hsplit, List.map_append] at htable
        have hnext := htable.getNextNodeIdxList
        rw [if_neg hthread, hnext, List.head?_map, Option.map_map]
        have hrest := @ih (before ++ [e]) fuel (by rw [hsplit, List.append_assoc]; rfl)
          (Nat.le_of_succ_le_succ hfuel)
        refine hrest.trans ?_
        simp [hthread]

/-- **`PmIsThreadExcluded`** answers whether an entry is for the thread. -/
theorem Holds.pmIsThreadExcluded (h : Holds pool list exclusions) (thread : UInt64) :
    pmIsThreadExcluded pool list thread
      = some (decide (∃ e ∈ exclusions, e.entry.thread = thread)) := by
  obtain ⟨free, htable⟩ := h.table
  have hlength := htable.length_le
  rw [List.length_map] at hlength
  have hloop := @Holds.pmIsThreadExcludedLoop pool list exclusions h thread exclusions []
    list.size rfl hlength
  rw [Pm.pmIsThreadExcluded, htable.getHeadNodeIdxList, List.head?_map, Option.map_map]
  exact hloop

/-! ## Destroying a list -/

/-- The pool after entries were freed, the first of them first. -/
def ExclusionPool.freeAll (pool : ExclusionPool) (addresses : List Nat) : ExclusionPool :=
  { pool with
    entry := fun address => if address ∈ addresses then none else pool.entry address
    freed := addresses.reverse ++ pool.freed }

/-- What is left in the pool is what was there and is not freed. -/
theorem ExclusionPool.freeAll_entry_ne {pool : ExclusionPool} {addresses : List Nat} {a : Nat} :
    (pool.freeAll addresses).entry a ≠ none ↔ a ∉ addresses ∧ pool.entry a ≠ none := by
  show (if a ∈ addresses then none else pool.entry a) ≠ none ↔ _
  by_cases hmem : a ∈ addresses
  · rw [if_pos hmem]
    exact iff_of_false (fun hk => hk rfl) (fun hk => hk.1 hmem)
  · rw [if_neg hmem]
    exact ⟨fun hsome => ⟨hmem, hsome⟩, fun hk => hk.2⟩

/-- Freeing one entry, then the others. -/
theorem ExclusionPool.freeAll_cons {address : Nat} {addresses : List Nat}
    (hsome : pool.free address = some pool') :
    pool'.freeAll addresses = pool.freeAll (address :: addresses) := by
  unfold ExclusionPool.free at hsome
  cases hentry : pool.entry address with
  | none =>
    rw [hentry] at hsome
    exact absurd hsome (by simp)
  | some entry =>
    rw [hentry] at hsome
    obtain rfl := Option.some.inj hsome
    unfold ExclusionPool.freeAll
    simp only [List.reverse_cons, List.append_assoc, List.singleton_append,
      ExclusionPool.mk.injEq, and_true]
    funext other
    by_cases hrest : other ∈ addresses
    · simp [hrest]
    · by_cases hself : other = address
      · simp [hself]
      · simp [hrest, hself]

/-- One pass of the loop removes the first entry and frees it. -/
theorem Holds.removeHead {e : Exclusion} (h : Holds pool list (e :: exclusions)) :
    ∃ list' pool', removeHeadIdxList list = some (some e.address, list') ∧
      pool.free e.address = some pool' ∧ Holds pool' list' exclusions := by
  obtain ⟨free, htable⟩ := h.table
  obtain ⟨list', hremoved, htable'⟩ := htable.removeHeadIdxList
  obtain ⟨hfresh, hnodup⟩ := List.nodup_cons.mp h.nodup
  have hentry := h.entries e List.mem_cons_self
  have hfreed : ∃ pool', pool.free e.address = some pool' ∧
      ∀ a, a ≠ e.address → pool'.entry a = pool.entry a := by
    rw [ExclusionPool.free, hentry]
    exact ⟨_, rfl, fun a ha => Function.update_of_ne ha _ _⟩
  obtain ⟨pool', hpool', hother⟩ := hfreed
  refine ⟨list', pool', hremoved, hpool', ⟨⟨_, htable'⟩, fun e' he' => ?_, hnodup⟩⟩
  rw [hother e'.address fun hk => hfresh (hk ▸ List.mem_map_of_mem he')]
  exact h.entries e' (List.mem_cons_of_mem e he')

/-- There are as many nodes as entries. -/
theorem Holds.count (h : Holds pool list exclusions) :
    getNodeCountIdxList list = exclusions.length := by
  obtain ⟨free, htable⟩ := h.table
  rw [getNodeCountIdxList, htable.count, List.length_map]

/-- The loop frees every entry. -/
theorem Holds.pmCleanupLoop :
    ∀ {exclusions : List Exclusion} {fuel : Nat} {pool : ExclusionPool} {list : IdxListTable Nat},
      Holds pool list exclusions → exclusions.length ≤ fuel →
      ∃ list', pmCleanupLoop fuel pool list
        = some (pool.freeAll (exclusions.map Exclusion.address), list') := by
  intro exclusions
  induction exclusions with
  | nil =>
    intro fuel pool list h _
    refine ⟨list, ?_⟩
    have hcount : getNodeCountIdxList list = 0 := h.count
    have hsame : pool.freeAll [] = pool := by
      simp [ExclusionPool.freeAll]
    cases fuel with
    | zero => rw [Pm.pmCleanupLoop, if_pos hcount, List.map_nil, hsame]
    | succ fuel => rw [Pm.pmCleanupLoop, if_pos hcount, List.map_nil, hsame]
  | cons e exclusions ih =>
    intro fuel pool list h hfuel
    cases fuel with
    | zero => exact absurd hfuel (by simp)
    | succ fuel =>
      have hcount : getNodeCountIdxList list ≠ 0 := by
        rw [h.count]
        simp
      obtain ⟨list₁, pool₁, hremoved, hpool₁, hrest⟩ := h.removeHead
      obtain ⟨list', hloop⟩ := ih hrest (Nat.le_of_succ_le_succ hfuel)
      refine ⟨list', ?_⟩
      rw [Pm.pmCleanupLoop, if_neg hcount, hremoved]
      show (pool.free e.address).bind (fun pool => Pm.pmCleanupLoop fuel pool list₁) = _
      rw [hpool₁, Option.bind_some, hloop, ExclusionPool.freeAll_cons hpool₁]
      rfl

/-- **Destroying a list** frees its entries, and leaves an empty list. -/
theorem Holds.pmDestroyThreadExclusionList (h : Holds pool list exclusions) :
    pmDestroyThreadExclusionList pool list
      = some (pool.freeAll (exclusions.map Exclusion.address),
          pmInitializeThreadExclusionList) := by
  obtain ⟨list', hloop⟩ := h.pmCleanupLoop (Nat.le_of_eq h.count.symm)
  rw [Pm.pmDestroyThreadExclusionList, pmCleanupThreadExclusionList, hloop]
  rfl

/-! ## Excluding a thread -/

/-- **`PmExcludeThread`.** Either it fails, and the list is as before and an entry
that was allocated is freed again, or it puts an entry for the thread in front. -/
theorem Holds.pmExcludeThread (h : Holds pool list exclusions) (outcome : ExclusionOutcome)
    (threadId : UInt64) (hfresh : pool.entry pool.allocated = none) :
    (∃ status pool', pmExcludeThread outcome threadId pool list = some (status, pool', list) ∧
      ntSuccess status = false ∧ pool'.entry = pool.entry ∧
      ((pool'.allocated = pool.allocated ∧ pool'.freed = pool.freed) ∨
        (pool'.allocated = pool.allocated + 1 ∧ pool'.freed = pool.allocated :: pool.freed))) ∨
    ∃ pool' list' thread uniqueId,
      pmExcludeThread outcome threadId pool list = some (statusSuccess, pool', list') ∧
      outcome.psLookupThreadByThreadId (lowPart threadId) = .ok thread ∧
      pool'.allocated = pool.allocated + 1 ∧ pool'.freed = pool.freed ∧
      pool'.entry = Function.update pool.entry pool.allocated (some ⟨thread, uniqueId⟩) ∧
      Holds pool' list' (⟨pool.allocated, ⟨thread, uniqueId⟩⟩ :: exclusions) := by
  have hfreed : ∀ entry, Function.update (Function.update pool.entry pool.allocated entry)
      pool.allocated none = pool.entry := by
    intro entry
    rw [Function.update_idem, ← hfresh, Function.update_eq_self]
  have hother : ∀ e ∈ exclusions, e.address ≠ pool.allocated := by
    intro e he hk
    have hentry := h.entries e he
    rw [hk, hfresh] at hentry
    exact absurd hentry (by simp)
  unfold Pm.pmExcludeThread
  by_cases halloc : outcome.entryAllocated = false
  · rw [if_pos halloc]
    exact Or.inl ⟨statusNoMemory, pool, rfl, ntSuccess_statusNoMemory, rfl, Or.inl ⟨rfl, rfl⟩⟩
  rw [if_neg halloc]
  simp only [ExclusionPool.allocate]
  cases hlookup : outcome.psLookupThreadByThreadId (lowPart threadId) with
  | error status =>
    simp only [ExclusionPool.free, Function.update_self, Option.map_some, Option.bind_eq_bind,
      Option.bind_some, hfreed]
    exact Or.inl ⟨status.val, _, rfl, status.property, rfl, Or.inr ⟨rfl, rfl⟩⟩
  | ok thread =>
    obtain ⟨free, htable⟩ := h.table
    simp only [ExclusionPool.store, Function.update_self, Option.map_some, Option.bind_eq_bind,
      Option.bind_some, Function.update_idem]
    rcases htable.insertHeadIdxList outcome.block pool.allocated with
      ⟨_, _, hfull⟩ | ⟨uniqueId, list', free', hpos, htable', hinsert⟩
    · rw [hfull]
      simp only [ExclusionPool.free, Function.update_self, Option.map_some, Option.bind_some,
        if_true, hfreed]
      exact Or.inl ⟨statusNoMemory, _, rfl, ntSuccess_statusNoMemory, rfl, Or.inr ⟨rfl, rfl⟩⟩
    · rw [hinsert]
      simp only [Option.bind_some, Nat.ne_of_gt hpos, if_false]
      refine Or.inr ⟨_, list', thread, uniqueId, rfl, rfl, rfl, rfl, rfl,
        ⟨⟨free', htable'⟩, ?_, ?_⟩⟩
      · intro e he
        rcases List.mem_cons.mp he with hnew | hold
        · rw [hnew]
          exact Function.update_self _ _ _
        · exact (Function.update_of_ne (hother e hold) _ _).trans (h.entries e hold)
      · refine List.nodup_cons.mpr ⟨fun hk => ?_, h.nodup⟩
        obtain ⟨e, he, heq⟩ := List.mem_map.mp hk
        exact hother e he heq

end Holds

end DeepShield.Pm
