import DeepShield.Lib.Parties
import DeepShield.Lib.Runs

/-!
# Who uses a process entry, and until when

`Pm.ProcessTable` has one call after another. Here they overlap. The process-notify
callbacks and the root-mode query `PmGetClientTrustLevel` take `gProcessTreeLock` before
they look an entry up, and release it after their last use of it. The mailbox worker
takes no lock: it looks an entry up, and only then does `PmExcludeThread` take the lock
*in* the entry.

Each party is a program counter. A step is one access to shared data or one call that may
wait; what goes on for some time, a search of the tree, an insertion and a deletion, is a
place of its own, so that two of them may overlap. Entries are told apart by the node they
are in, not by the memory it occupies.

Two things should hold: the tree is not searched while it is modified (`TreeStable`), and
nobody uses an entry or its list after they were freed (`UsesLive`). They hold among those
that take the lock, and with the worker as long as no modification overlaps its search and
no deletion its use of the entry it found: `entryUse_guarded`.
-/

namespace DeepShield.Pm

open DeepShield.Lib

/-! ## The parties -/

/-- What a party that takes `gProcessTreeLock` is there for: `DsProcessCreationCallback`,
`DsProcessDeletionCallback` or `PmGetClientTrustLevel`. -/
inductive TreeUse
  | create (processId : UInt64)
  | delete (processId : UInt64)
  | trust (processId thread : UInt64)
deriving Repr, DecidableEq

/-- Where it is: before the lock, with it, searching the tree, inserting a node; with an
entry it found, before the lock of the list, with that lock, and before its release; before
`DestroyIdxList`, removing the node, and before the release of the lock. -/
inductive TreeUser
  | idle
  | entered (use : TreeUse)
  | locked (use : TreeUse)
  | searching (use : TreeUse)
  | inserting (processId : UInt64)
  | found (use : TreeUse) (entry : Nat)
  | listLocked (use : TreeUse) (entry : Nat)
  | listDone (use : TreeUse) (entry : Nat)
  | destroying (entry : Nat)
  | removing (entry : Nat)
  | unlocking
deriving Repr, DecidableEq

/-- Where the worker is: without a record; with one, searching the tree; with an entry,
before the allocation, before `PsLookupThreadByThreadId`, before the lock of the list, with
it, before its release, and before the trace of a failure, which reads the entry. -/
inductive EntryWorker
  | idle
  | record (processId thread : UInt64)
  | searching (processId thread : UInt64)
  | found (entry : Nat) (thread : UInt64)
  | allocated (entry : Nat) (thread : UInt64)
  | threadFound (entry : Nat) (thread : UInt64)
  | listLocked (entry : Nat) (thread : UInt64)
  | listDone (entry : Nat) (inserted : Bool)
  | failed (entry : Nat)
deriving Repr, DecidableEq

/-- The tree and the memory behind it: its nodes with their ids, the next node to be
allocated, the lock and the threads of each entry's list, the lists that
`DestroyIdxList` went over and the nodes that were freed; and the parties. -/
structure EntryState where
  gProcessTreeLock : Bool
  gProcessTree : List (UInt64 × Nat)
  nextEntry : Nat
  listLock : Nat → Bool
  threadList : Nat → List UInt64
  destroyed : List Nat
  freed : List Nat
  users : Nat → TreeUser
  worker : EntryWorker

/-- An empty tree. -/
def EntryState.initial : EntryState where
  gProcessTreeLock := false
  gProcessTree := []
  nextEntry := 0
  listLock _ := false
  threadList _ := []
  destroyed := []
  freed := []
  users _ := .idle
  worker := .idle

/-- Party `i` moves on. -/
def EntryState.goto (s : EntryState) (i : Nat) (user : TreeUser) : EntryState :=
  { s with users := Function.update s.users i user }

/-- `PmLookupProcessEntryById`. -/
def EntryState.lookup (s : EntryState) (processId : UInt64) : Option Nat :=
  (s.gProcessTree.find? fun node => node.1 == processId).map Prod.snd

/-! ## Steps -/

/-- A step of party `i`; `ok` says whether there is memory for a node. -/
def userStep (s : EntryState) (i : Nat) (ok : Bool) : Option EntryState :=
  match s.users i with
  | .idle => none
  | .entered use =>
    if s.gProcessTreeLock then none
    else some ({ s with gProcessTreeLock := true }.goto i (.locked use))
  | .locked use => some (s.goto i (.searching use))
  -- RtlInsertElementGenericTableAvl
  | .searching (.create processId) =>
    match s.lookup processId with
    | some _ => some (s.goto i .unlocking)
    | none => some (s.goto i (if ok then .inserting processId else .unlocking))
  | .inserting processId =>
    some ({ s with
      gProcessTree := (processId, s.nextEntry) :: s.gProcessTree
      nextEntry := s.nextEntry + 1
      listLock := Function.update s.listLock s.nextEntry false
      threadList := Function.update s.threadList s.nextEntry [] }.goto i .unlocking)
  | .searching (.delete processId) =>
    match s.lookup processId with
    | some entry => some (s.goto i (.found (.delete processId) entry))
    | none => some (s.goto i .unlocking)
  | .searching (.trust processId thread) =>
    match s.lookup processId with
    | some entry => some (s.goto i (.found (.trust processId thread) entry))
    | none => some (s.goto i .unlocking)
  -- PmCleanupThreadExclusionList, PmIsThreadExcluded
  | .found use entry =>
    if s.listLock entry then none
    else some ({ s with
      listLock := Function.update s.listLock entry true }.goto i (.listLocked use entry))
  | .listLocked (.delete processId) entry =>
    some ({ s with
      threadList := Function.update s.threadList entry [] }.goto i
        (.listDone (.delete processId) entry))
  | .listLocked use entry => some (s.goto i (.listDone use entry))
  | .listDone (.delete _) entry =>
    some ({ s with
      listLock := Function.update s.listLock entry false }.goto i (.destroying entry))
  | .listDone _ entry =>
    some ({ s with listLock := Function.update s.listLock entry false }.goto i .unlocking)
  -- DestroyIdxList, and then RtlDeleteElementGenericTableAvl
  | .destroying entry =>
    some ({ s with destroyed := entry :: s.destroyed }.goto i (.removing entry))
  | .removing entry =>
    some ({ s with
      gProcessTree := s.gProcessTree.filter fun node => node.2 != entry
      freed := entry :: s.freed }.goto i .unlocking)
  | .unlocking => some ({ s with gProcessTreeLock := false }.goto i .idle)

/-- A step of the worker, in `RtlDispatchMailboxData` and `PmExcludeThread`; `ok` says
whether what it needs can be had. -/
def entryWorkerStep (s : EntryState) (ok : Bool) : Option EntryState :=
  match s.worker with
  | .idle => none
  | .record processId thread => some { s with worker := .searching processId thread }
  | .searching processId thread =>
    match s.lookup processId with
    | some entry => some { s with worker := .found entry thread }
    | none => some { s with worker := .idle }
  | .found entry thread =>
    some { s with worker := if ok then .allocated entry thread else .failed entry }
  | .allocated entry thread =>
    some { s with worker := if ok then .threadFound entry thread else .failed entry }
  | .threadFound entry thread =>
    if s.listLock entry then none
    else some { s with
      listLock := Function.update s.listLock entry true
      worker := .listLocked entry thread }
  | .listLocked entry thread =>
    some { s with
      threadList :=
        if ok then Function.update s.threadList entry (thread :: s.threadList entry)
        else s.threadList
      worker := .listDone entry ok }
  | .listDone entry inserted =>
    some { s with
      listLock := Function.update s.listLock entry false
      worker := if inserted then .idle else .failed entry }
  | .failed _ => some { s with worker := .idle }

/-- What happens: a record for the worker, a call of a callback or a query, and a step. -/
inductive EntryAction
  | post (processId thread : UInt64)
  | enter (i : Nat) (use : TreeUse)
  | user (i : Nat) (ok : Bool)
  | worker (ok : Bool)
deriving Repr, DecidableEq

/-- One step; none if the party has to wait, or is at something else. -/
def entryStep (s : EntryState) : EntryAction → Option EntryState
  | .post processId thread =>
    if s.worker = .idle then some { s with worker := .record processId thread } else none
  | .enter i use => if s.users i = .idle then some (s.goto i (.entered use)) else none
  | .user i ok => userStep s i ok
  | .worker ok => entryWorkerStep s ok

/-! ## The property -/

namespace TreeUser

/-- In a search of the tree. -/
def searches : TreeUser → Bool
  | searching _ => true
  | idle | entered _ | locked _ | inserting _ | found _ _ | listLocked _ _ | listDone _ _
  | destroying _ | removing _ | unlocking => false

/-- In an insertion or a deletion. -/
def modifies : TreeUser → Bool
  | inserting _ | removing _ => true
  | idle | entered _ | locked _ | searching _ | found _ _ | listLocked _ _ | listDone _ _
  | destroying _ | unlocking => false

/-- The entry whose list it uses next. -/
def list : TreeUser → Option Nat
  | found _ entry | listLocked _ entry | listDone _ entry | destroying entry => some entry
  | idle | entered _ | locked _ | searching _ | inserting _ | removing _ | unlocking => none

/-- The entry it uses next. -/
def entry : TreeUser → Option Nat
  | found _ entry | listLocked _ entry | listDone _ entry | destroying entry
  | removing entry => some entry
  | idle | entered _ | locked _ | searching _ | inserting _ | unlocking => none

end TreeUser

namespace EntryWorker

def searches : EntryWorker → Bool
  | searching _ _ => true
  | idle | record _ _ | found _ _ | allocated _ _ | threadFound _ _ | listLocked _ _
  | listDone _ _ | failed _ => false

/-- The entry whose list it uses next. -/
def list : EntryWorker → Option Nat
  | threadFound entry _ | listLocked entry _ | listDone entry _ => some entry
  | idle | record _ _ | searching _ _ | found _ _ | allocated _ _ | failed _ => none

/-- The entry it uses next. -/
def entry : EntryWorker → Option Nat
  | threadFound entry _ | listLocked entry _ | listDone entry _ | failed entry => some entry
  | idle | record _ _ | searching _ _ | found _ _ | allocated _ _ => none

/-- The entry it found and is not done with. -/
def held : EntryWorker → Option Nat
  | found entry _ | allocated entry _ | threadFound entry _ | listLocked entry _
  | listDone entry _ | failed entry => some entry
  | idle | record _ _ | searching _ _ => none

end EntryWorker

/-- The tree is not searched, or modified a second time, while a party modifies it. -/
def TreeStable (s : EntryState) : Prop :=
  ∀ i, (s.users i).modifies = true →
    s.worker.searches = false ∧
    ∀ j, j ≠ i → (s.users j).searches = false ∧ (s.users j).modifies = false

/-- The entry that a step reads or writes, and the one whose list. -/
def EntryAction.uses (s : EntryState) : EntryAction → Option Nat × Option Nat
  | .user i _ => ((s.users i).entry, (s.users i).list)
  | .worker _ => (s.worker.entry, s.worker.list)
  | .post _ _ | .enter _ _ => (none, none)

/-- They are used before they are freed. -/
def UsesLive (s : EntryState) (a : EntryAction) : Prop :=
  (∀ entry ∈ (a.uses s).1, entry ∉ s.freed) ∧ ∀ entry ∈ (a.uses s).2, entry ∉ s.destroyed

instance (s : EntryState) (a : EntryAction) : Decidable (UsesLive s a) :=
  inferInstanceAs (Decidable (_ ∧ _))

/-! ## The condition -/

/-- No modification of the tree overlaps the worker's search, and no deletion the worker's
use of the entry it found. -/
def EntryGuard (s : EntryState) : EntryAction → Prop
  | .user i ok =>
    match s.users i with
    | .searching (.create processId) =>
      s.lookup processId = none → ok = true → s.worker.searches = false
    | .destroying entry => s.worker.searches = false ∧ s.worker.held ≠ some entry
    | _ => True
  | .worker _ =>
    (∃ processId thread, s.worker = .record processId thread) →
      ∀ i, (s.users i).modifies = false
  | .post _ _ | .enter _ _ => True

/-! ## The invariant -/

/-- Inside `gProcessTreeLock`. -/
def TreeUser.inside : TreeUser → Prop
  | idle | entered _ => False
  | locked _ | searching _ | inserting _ | found _ _ | listLocked _ _ | listDone _ _
  | destroying _ | removing _ | unlocking => True

/-- An entry that is in the tree, with its list. -/
def EntryState.Live (s : EntryState) (entry : Nat) : Prop :=
  entry ∈ s.gProcessTree.map Prod.snd ∧ entry ∉ s.destroyed

/-- **The invariant**: who takes the lock is alone, and every entry in use is in the tree,
with its list unless it is just being removed. -/
structure EntryInv (s : EntryState) : Prop where
  lock : Guards TreeUser.inside s.gProcessTreeLock s.users
  nodes : ∀ entry ∈ s.gProcessTree.map Prod.snd, entry ∉ s.freed ∧ entry < s.nextEntry
  freed : ∀ entry ∈ s.freed, entry < s.nextEntry
  destroyed : ∀ entry ∈ s.destroyed, entry < s.nextEntry
  lists : ∀ entry ∈ s.gProcessTree.map Prod.snd, entry ∈ s.destroyed →
    ∃ i, s.users i = .removing entry
  users : ∀ i, (∀ entry, (s.users i).list = some entry → s.Live entry) ∧
    ∀ entry, s.users i = .removing entry →
      entry ∈ s.gProcessTree.map Prod.snd ∧ entry ∈ s.destroyed
  searching : s.worker.searches = true → ∀ i, (s.users i).modifies = false
  held : ∀ entry, s.worker.held = some entry → s.Live entry

theorem entryInv_initial : EntryInv .initial where
  lock := guards_free fun _ => id
  nodes _ h := absurd h List.not_mem_nil
  freed _ h := absurd h List.not_mem_nil
  destroyed _ h := absurd h List.not_mem_nil
  lists _ h := absurd h List.not_mem_nil
  users _ := ⟨fun _ h => absurd h (Option.some_ne_none _).symm, fun _ => TreeUser.noConfusion⟩
  searching h := Bool.noConfusion h
  held _ h := absurd h (Option.some_ne_none _).symm

namespace EntryInv

variable {s s' : EntryState} {i : Nat} {ok : Bool}

/-! ### What it says -/

theorem inside_of_modifies {user : TreeUser} (h : user.modifies = true) : user.inside := by
  cases user with
  | inserting _ | removing _ => trivial
  | idle | entered _ | locked _ | searching _ | found _ _ | listLocked _ _ | listDone _ _
  | destroying _ | unlocking => exact Bool.noConfusion h

theorem removing_ne {user : TreeUser} (h : user.modifies = false) (entry : Nat) :
    user ≠ .removing entry := by
  rintro rfl
  exact Bool.noConfusion h

theorem outside_quiet {user : TreeUser} (h : ¬ user.inside) :
    user.searches = false ∧ user.modifies = false ∧ user.list = none ∧
      ∀ entry, user ≠ .removing entry := by
  cases user with
  | idle | entered _ => exact ⟨rfl, rfl, rfl, fun _ => TreeUser.noConfusion⟩
  | locked _ | searching _ | inserting _ | found _ _ | listLocked _ _ | listDone _ _
  | destroying _ | removing _ | unlocking => exact absurd trivial h

theorem treeStable (h : EntryInv s) : TreeStable s := by
  intro i hi
  refine ⟨?_, fun j hji => ?_⟩
  · by_contra hsearches
    have hquiet := h.searching (by simpa using hsearches) i
    rw [hi] at hquiet
    exact Bool.noConfusion hquiet
  · obtain ⟨hsearches, hmodifies, _⟩ :=
      outside_quiet (h.lock.others (inside_of_modifies hi) j hji)
    exact ⟨hsearches, hmodifies⟩

theorem usesLive (h : EntryInv s) (a : EntryAction) : UsesLive s a := by
  have hlive : ∀ {entry}, s.Live entry → entry ∉ s.freed := fun hentry =>
    (h.nodes _ hentry.1).1
  cases a with
  | post processId thread | enter i use =>
    exact ⟨fun _ hnone => absurd hnone (Option.some_ne_none _).symm,
      fun _ hnone => absurd hnone (Option.some_ne_none _).symm⟩
  | user i ok =>
    obtain ⟨hlist, hremoving⟩ := h.users i
    refine ⟨fun entry hentry => ?_, fun entry hentry => (hlist entry hentry).2⟩
    have huses : (s.users i).entry = some entry := hentry
    cases hpc : s.users i with
    | idle | entered _ | locked _ | searching _ | inserting _ | unlocking =>
      rw [hpc] at huses
      exact absurd huses.symm (Option.some_ne_none _)
    | found _ e | listLocked _ e | listDone _ e | destroying e =>
      rw [hpc] at huses hlist
      exact hlive (hlist entry huses)
    | removing e =>
      rw [hpc] at huses
      obtain rfl := Option.some.inj huses
      exact (h.nodes e (hremoving e hpc).1).1
  | worker ok =>
    have hheld := h.held
    cases hpc : s.worker with
    | idle | record _ _ | searching _ _ | found _ _ | allocated _ _ =>
      unfold UsesLive EntryAction.uses
      rw [hpc]
      exact ⟨fun _ hnone => absurd hnone (Option.some_ne_none _).symm,
        fun _ hnone => absurd hnone (Option.some_ne_none _).symm⟩
    | threadFound e _ | listLocked e _ | listDone e _ =>
      rw [hpc] at hheld
      unfold UsesLive EntryAction.uses
      rw [hpc]
      exact ⟨fun entry hentry => hlive (hheld entry hentry),
        fun entry hentry => (hheld entry hentry).2⟩
    | failed e =>
      rw [hpc] at hheld
      unfold UsesLive EntryAction.uses
      rw [hpc]
      exact ⟨fun entry hentry => hlive (hheld entry hentry),
        fun _ hnone => absurd hnone (Option.some_ne_none _).symm⟩

/-- What a search finds is in the tree. -/
theorem mem_of_lookup {processId : UInt64} {entry : Nat} (h : s.lookup processId = some entry) :
    entry ∈ s.gProcessTree.map Prod.snd := by
  obtain ⟨node, hfind, rfl⟩ := Option.map_eq_some_iff.mp h
  exact List.mem_map_of_mem (List.mem_of_find?_eq_some hfind)

/-- A search that no removal overlaps finds a live entry. -/
theorem live_of_lookup (h : EntryInv s) {processId : UInt64} {entry : Nat}
    (hlookup : s.lookup processId = some entry)
    (hquiet : ∀ j, s.users j ≠ .removing entry) : s.Live entry := by
  refine ⟨mem_of_lookup hlookup, fun hdestroyed => ?_⟩
  obtain ⟨j, hj⟩ := h.lists entry (mem_of_lookup hlookup) hdestroyed
  exact hquiet j hj

/-- Nobody else is removing an entry while this party has the lock. -/
theorem not_removing (h : EntryInv s) (hinside : (s.users i).inside)
    (hi : ∀ entry, s.users i ≠ .removing entry) (entry : Nat) (j : Nat) :
    s.users j ≠ .removing entry := by
  by_cases hji : j = i
  · rw [hji]
    exact hi entry
  · exact (outside_quiet (h.lock.others hinside j hji)).2.2.2 entry

/-! ### Steps of the parties with the lock -/

/-- A party that moves is not the one that a destroyed list waits for, so that one is
still there. -/
theorem lists_kept {user : TreeUser} {entry : Nat} (h : EntryInv s)
    (hentry : entry ∈ s.gProcessTree.map Prod.snd) (hdestroyed : entry ∈ s.destroyed)
    (hold : s.users i ≠ .removing entry) :
    ∃ j, Function.update s.users i user j = .removing entry := by
  obtain ⟨j, hj⟩ := h.lists entry hentry hdestroyed
  have hji : j ≠ i := by
    intro heq
    rw [heq] at hj
    exact hold hj
  exact ⟨j, (Function.update_of_ne hji _ _).trans hj⟩

/-- Nobody comes to modify the tree while the worker searches it. -/
theorem searching_kept {user : TreeUser} (h : EntryInv s) (hsearches : s.worker.searches = true)
    (hmodifies : user.modifies = false) :
    ∀ j, (Function.update s.users i user j).modifies = false :=
  forall_update (P := fun _ (user : TreeUser) => user.modifies = false) hmodifies
    fun j _ => h.searching hsearches j

/-- The parties without the lock have no list and remove nothing. -/
theorem users_kept {user : TreeUser} {Plist Premoving : Nat → Prop} (h : EntryInv s)
    (hinside : (s.users i).inside) (hlist : ∀ entry, user.list = some entry → Plist entry)
    (hremoving : ∀ entry, user = .removing entry → Premoving entry) (j : Nat) :
    (∀ entry, (Function.update s.users i user j).list = some entry → Plist entry) ∧
      ∀ entry, Function.update s.users i user j = .removing entry → Premoving entry := by
  by_cases hji : j = i
  · rw [hji, Function.update_self]
    exact ⟨hlist, hremoving⟩
  · rw [Function.update_of_ne hji]
    obtain ⟨_, _, hnone, hnot⟩ := outside_quiet (h.lock.others hinside j hji)
    rw [hnone]
    exact ⟨fun _ hsome => absurd hsome (Option.some_ne_none _).symm,
      fun entry heq => absurd heq (hnot entry)⟩

/-- **A step that leaves the tree alone.** -/
theorem move {user : TreeUser} {lock : Bool} {listLock : Nat → Bool}
    {threadList : Nat → List UInt64} (h : EntryInv s)
    (hlock : Guards TreeUser.inside lock (Function.update s.users i user))
    (hlist : ∀ entry, user.list = some entry → s.Live entry)
    (hnew : ∀ entry, user ≠ .removing entry) (hold : ∀ entry, s.users i ≠ .removing entry)
    (hmodifies : s.worker.searches = true → user.modifies = false) :
    EntryInv ({ s with
      gProcessTreeLock := lock
      listLock := listLock
      threadList := threadList }.goto i user) where
  lock := hlock
  nodes := h.nodes
  freed := h.freed
  destroyed := h.destroyed
  lists entry hentry hdestroyed := h.lists_kept hentry hdestroyed (hold entry)
  users j := by
    show (∀ entry, (Function.update s.users i user j).list = some entry → _) ∧
      ∀ entry, Function.update s.users i user j = .removing entry → _
    by_cases hji : j = i
    · rw [hji, Function.update_self]
      exact ⟨hlist, fun entry heq => absurd heq (hnew entry)⟩
    · rw [Function.update_of_ne hji]
      exact h.users j
  searching hsearches := h.searching_kept hsearches (hmodifies hsearches)
  held := h.held

/-- A step inside the lock that leaves the tree alone. -/
theorem stay {user : TreeUser} {listLock : Nat → Bool} {threadList : Nat → List UInt64}
    (h : EntryInv s) (hinside : (s.users i).inside) (hstays : user.inside)
    (hlist : ∀ entry, user.list = some entry → s.Live entry)
    (hnew : ∀ entry, user ≠ .removing entry) (hold : ∀ entry, s.users i ≠ .removing entry)
    (hmodifies : s.worker.searches = true → user.modifies = false) :
    EntryInv ({ s with listLock := listLock, threadList := threadList }.goto i user) :=
  h.move (h.lock.stay ⟨fun _ => hinside, fun _ => hstays⟩) hlist hnew hold hmodifies

/-- **A node is inserted.** -/
theorem insert {processId : UInt64} (h : EntryInv s) (hpc : s.users i = .inserting processId) :
    EntryInv ({ s with
      gProcessTree := (processId, s.nextEntry) :: s.gProcessTree
      nextEntry := s.nextEntry + 1
      listLock := Function.update s.listLock s.nextEntry false
      threadList := Function.update s.threadList s.nextEntry [] }.goto i .unlocking) := by
  have hinside : (s.users i).inside := by
    rw [hpc]
    trivial
  have hmem : ∀ {entry}, entry ∈ s.gProcessTree.map Prod.snd →
      entry ∈ ((processId, s.nextEntry) :: s.gProcessTree).map Prod.snd :=
    fun hentry => List.mem_cons_of_mem _ hentry
  have hlive : ∀ {entry}, s.Live entry →
      entry ∈ ((processId, s.nextEntry) :: s.gProcessTree).map Prod.snd ∧
        entry ∉ s.destroyed := fun hentry => ⟨hmem hentry.1, hentry.2⟩
  refine
    { lock := h.lock.stay ⟨fun _ => hinside, fun _ => trivial⟩
      nodes := fun entry hentry => ?_
      freed := fun entry hentry => Nat.lt_succ_of_lt (h.freed entry hentry)
      destroyed := fun entry hentry => Nat.lt_succ_of_lt (h.destroyed entry hentry)
      lists := fun entry hentry hdestroyed => ?_
      users := fun j => ?_
      searching := fun hsearches => h.searching_kept hsearches rfl
      held := fun entry hentry => hlive (h.held entry hentry) }
  · rcases List.mem_cons.mp hentry with heq | hentry
    · have heq : entry = s.nextEntry := heq
      rw [heq]
      exact ⟨fun hfreed => Nat.lt_irrefl _ (h.freed _ hfreed), Nat.lt_succ_self _⟩
    · exact ⟨(h.nodes entry hentry).1, Nat.lt_succ_of_lt (h.nodes entry hentry).2⟩
  · rcases List.mem_cons.mp hentry with heq | hentry
    · have heq : entry = s.nextEntry := heq
      rw [heq] at hdestroyed
      exact absurd (h.destroyed _ hdestroyed) (Nat.lt_irrefl _)
    · refine h.lists_kept hentry hdestroyed ?_
      rw [hpc]
      exact TreeUser.noConfusion
  · show (∀ entry, (Function.update s.users i .unlocking j).list = some entry → _) ∧
      ∀ entry, Function.update s.users i .unlocking j = .removing entry → _
    by_cases hji : j = i
    · rw [hji, Function.update_self]
      exact ⟨fun _ hnone => absurd hnone (Option.some_ne_none _).symm,
        fun _ => TreeUser.noConfusion⟩
    · rw [Function.update_of_ne hji]
      obtain ⟨hlist, hremoving⟩ := h.users j
      exact ⟨fun entry hentry => hlive (hlist entry hentry),
        fun entry heq => ⟨hmem (hremoving entry heq).1, (hremoving entry heq).2⟩⟩

/-- **A list is destroyed**, of an entry that the worker does not have. -/
theorem destroy {entry : Nat} (h : EntryInv s) (hpc : s.users i = .destroying entry)
    (hsearches : s.worker.searches = false) (hheld : s.worker.held ≠ some entry) :
    EntryInv ({ s with destroyed := entry :: s.destroyed }.goto i (.removing entry)) := by
  have hinside : (s.users i).inside := by
    rw [hpc]
    trivial
  have hlive := (h.users i).1 entry (by rw [hpc]; rfl)
  refine
    { lock := h.lock.stay ⟨fun _ => hinside, fun _ => trivial⟩
      nodes := h.nodes
      freed := h.freed
      destroyed := fun e he => ?_
      lists := fun e he hdestroyed => ?_
      users := fun j => ?_
      searching := fun hs => absurd (hs.symm.trans hsearches) (by decide)
      held := fun e he => ⟨(h.held e he).1, fun hdestroyed => ?_⟩ }
  · rcases List.mem_cons.mp he with rfl | he
    · exact (h.nodes e hlive.1).2
    · exact h.destroyed e he
  · rcases List.mem_cons.mp hdestroyed with rfl | hdestroyed
    · exact ⟨i, Function.update_self _ _ _⟩
    · refine h.lists_kept he hdestroyed ?_
      rw [hpc]
      exact TreeUser.noConfusion
  · refine h.users_kept hinside (fun e hsome => ?_) (fun e heq => ?_) j
    · exact absurd hsome (Option.some_ne_none e).symm
    · obtain rfl := TreeUser.removing.inj heq
      exact ⟨hlive.1, List.mem_cons_self⟩
  · rcases List.mem_cons.mp hdestroyed with rfl | hdestroyed
    · exact hheld he
    · exact (h.held e he).2 hdestroyed

/-- **A node is removed.** -/
theorem remove {entry : Nat} (h : EntryInv s) (hpc : s.users i = .removing entry) :
    EntryInv ({ s with
      gProcessTree := s.gProcessTree.filter fun node => node.2 != entry
      freed := entry :: s.freed }.goto i .unlocking) := by
  have hinside : (s.users i).inside := by
    rw [hpc]
    trivial
  obtain ⟨hentry, hdestroyed⟩ := (h.users i).2 entry hpc
  have hmem : ∀ {e}, e ∈ (s.gProcessTree.filter fun node => node.2 != entry).map Prod.snd ↔
      e ∈ s.gProcessTree.map Prod.snd ∧ e ≠ entry := by
    intro e
    simp only [List.mem_map, List.mem_filter, bne_iff_ne, ne_eq]
    constructor
    · intro hsome
      obtain ⟨node, ⟨hnode, hne⟩, rfl⟩ := hsome
      exact ⟨⟨node, hnode, rfl⟩, hne⟩
    · intro hsome
      obtain ⟨⟨node, hnode, rfl⟩, hne⟩ := hsome
      exact ⟨node, ⟨hnode, hne⟩, rfl⟩
  refine
    { lock := h.lock.stay ⟨fun _ => hinside, fun _ => trivial⟩
      nodes := fun e he => ⟨fun hfreed => ?_, (h.nodes e (hmem.mp he).1).2⟩
      freed := fun e he => ?_
      destroyed := h.destroyed
      lists := fun e he hlist => ?_
      users := fun j => ?_
      searching := fun hsearches => ?_
      held := fun e he => ⟨hmem.mpr ⟨(h.held e he).1, fun heq => ?_⟩, (h.held e he).2⟩ }
  · rcases List.mem_cons.mp hfreed with rfl | hfreed
    · exact (hmem.mp he).2 rfl
    · exact (h.nodes e (hmem.mp he).1).1 hfreed
  · rcases List.mem_cons.mp he with rfl | he
    · exact (h.nodes e hentry).2
    · exact h.freed e he
  · refine h.lists_kept (hmem.mp he).1 hlist ?_
    rw [hpc]
    intro heq
    exact (hmem.mp he).2 (TreeUser.removing.inj heq).symm
  · refine h.users_kept hinside (fun e hsome => ?_) (fun _ => TreeUser.noConfusion) j
    exact absurd hsome (Option.some_ne_none e).symm
  · have hquiet := h.searching hsearches i
    rw [hpc] at hquiet
    exact Bool.noConfusion hquiet
  · rw [heq] at he
    exact (h.held entry he).2 hdestroyed

/-- **A party goes on** inside the lock, with a live list or none. -/
theorem goOn {user : TreeUser} {listLock : Nat → Bool} {threadList : Nat → List UInt64}
    (h : EntryInv s) (hinside : (s.users i).inside) (hbefore : (s.users i).modifies = false)
    (hstays : user.inside) (hafter : user.modifies = false)
    (hlist : ∀ entry, user.list = some entry → s.Live entry) :
    EntryInv ({ s with listLock := listLock, threadList := threadList }.goto i user) :=
  h.stay hinside hstays hlist (removing_ne hafter) (removing_ne hbefore) fun _ => hafter

/-- **A search** inside the lock finds a live entry. -/
theorem found {use use' : TreeUse} {processId : UInt64} {entry : Nat} (h : EntryInv s)
    (hpc : s.users i = .searching use) (hlookup : s.lookup processId = some entry) :
    EntryInv (s.goto i (.found use' entry)) := by
  have hinside : (s.users i).inside := by
    rw [hpc]
    trivial
  have hbefore : (s.users i).modifies = false := by
    rw [hpc]
    rfl
  refine h.goOn hinside hbefore trivial rfl fun e he => ?_
  obtain rfl := Option.some.inj he
  exact h.live_of_lookup hlookup fun j => h.not_removing hinside (removing_ne hbefore) _ j

/-- **A step of a party** that takes the lock. -/
theorem user (h : EntryInv s) (hguard : EntryGuard s (.user i ok))
    (hstep : userStep s i ok = some s') : EntryInv s' := by
  have hsome : ∀ {entry : Nat}, (none : Option Nat) = some entry → s.Live entry :=
    fun hnone => absurd hnone.symm (Option.some_ne_none _)
  have hlists := (h.users i).1
  cases hpc : s.users i with
  | idle =>
    simp only [userStep, hpc] at hstep
    exact absurd hstep.symm (Option.some_ne_none _)
  | entered use =>
    simp only [userStep, hpc] at hstep
    split at hstep
    next => exact absurd hstep.symm (Option.some_ne_none _)
    next hfree =>
      obtain rfl := Option.some.inj hstep
      have hlock := h.lock
      rw [Bool.eq_false_iff.mpr hfree] at hlock
      exact h.move (hlock.take trivial) (fun _ => hsome) (removing_ne rfl)
        (removing_ne (by rw [hpc]; rfl)) fun _ => rfl
  | locked use =>
    simp only [userStep, hpc] at hstep
    obtain rfl := Option.some.inj hstep
    exact h.goOn (by rw [hpc]; trivial) (by rw [hpc]; rfl) trivial rfl fun _ => hsome
  | searching use =>
    have hinside : (s.users i).inside := by
      rw [hpc]
      trivial
    have hbefore : (s.users i).modifies = false := by
      rw [hpc]
      rfl
    have hdone : EntryInv (s.goto i .unlocking) :=
      h.goOn hinside hbefore trivial rfl fun _ => hsome
    cases use with
    | create processId =>
      simp only [userStep, hpc] at hstep
      simp only [EntryGuard, hpc] at hguard
      split at hstep
      next =>
        obtain rfl := Option.some.inj hstep
        exact hdone
      next hlookup =>
        obtain rfl := Option.some.inj hstep
        cases ok with
        | false => exact hdone
        | true =>
          -- the one move that needs the guard: the party comes to modify the tree
          refine h.stay hinside trivial (fun _ => hsome) (fun _ => TreeUser.noConfusion)
            (removing_ne hbefore) fun hsearches => ?_
          exact absurd ((hguard hlookup rfl).symm.trans hsearches) Bool.noConfusion
    | delete processId | trust processId thread =>
      simp only [userStep, hpc] at hstep
      split at hstep
      next hlookup =>
        obtain rfl := Option.some.inj hstep
        exact h.found hpc hlookup
      next =>
        obtain rfl := Option.some.inj hstep
        exact hdone
  | inserting processId =>
    simp only [userStep, hpc] at hstep
    obtain rfl := Option.some.inj hstep
    exact h.insert hpc
  | found use entry =>
    rw [hpc] at hlists
    simp only [userStep, hpc] at hstep
    split at hstep
    next => exact absurd hstep.symm (Option.some_ne_none _)
    next =>
      obtain rfl := Option.some.inj hstep
      exact h.goOn (by rw [hpc]; trivial) (by rw [hpc]; rfl) trivial rfl hlists
  | listLocked use entry =>
    rw [hpc] at hlists
    cases use with
    | create processId | delete processId | trust processId thread =>
      simp only [userStep, hpc] at hstep
      obtain rfl := Option.some.inj hstep
      exact h.goOn (by rw [hpc]; trivial) (by rw [hpc]; rfl) trivial rfl hlists
  | listDone use entry =>
    rw [hpc] at hlists
    cases use with
    | delete processId =>
      simp only [userStep, hpc] at hstep
      obtain rfl := Option.some.inj hstep
      exact h.goOn (by rw [hpc]; trivial) (by rw [hpc]; rfl) trivial rfl hlists
    | create processId | trust processId thread =>
      simp only [userStep, hpc] at hstep
      obtain rfl := Option.some.inj hstep
      exact h.goOn (by rw [hpc]; trivial) (by rw [hpc]; rfl) trivial rfl fun _ => hsome
  | destroying entry =>
    simp only [userStep, hpc] at hstep
    simp only [EntryGuard, hpc] at hguard
    obtain rfl := Option.some.inj hstep
    exact h.destroy hpc hguard.1 hguard.2
  | removing entry =>
    simp only [userStep, hpc] at hstep
    obtain rfl := Option.some.inj hstep
    exact h.remove hpc
  | unlocking =>
    simp only [userStep, hpc] at hstep
    obtain rfl := Option.some.inj hstep
    exact h.move (h.lock.give (by rw [hpc]; trivial) id) (fun _ => hsome) (removing_ne rfl)
      (removing_ne (by rw [hpc]; rfl)) fun _ => rfl

/-! ### Steps of the worker -/

/-- The worker moves on, with an entry that is live or none. -/
theorem moveWorker {worker : EntryWorker} {listLock : Nat → Bool} {threadList : Nat → List UInt64}
    (h : EntryInv s) (hsearches : worker.searches = true → ∀ i, (s.users i).modifies = false)
    (hheld : ∀ entry, worker.held = some entry → s.Live entry) :
    EntryInv { s with listLock := listLock, threadList := threadList, worker := worker } where
  lock := h.lock
  nodes := h.nodes
  freed := h.freed
  destroyed := h.destroyed
  lists := h.lists
  users := h.users
  searching := hsearches
  held := hheld

/-- **A step of the worker.** -/
theorem worker (h : EntryInv s) (hguard : EntryGuard s (.worker ok))
    (hstep : entryWorkerStep s ok = some s') : EntryInv s' := by
  have hsome : ∀ {entry : Nat}, (none : Option Nat) = some entry → s.Live entry :=
    fun hnone => absurd hnone.symm (Option.some_ne_none _)
  have hheld := h.held
  cases hpc : s.worker with
  | idle =>
    simp only [entryWorkerStep, hpc] at hstep
    exact absurd hstep.symm (Option.some_ne_none _)
  | record processId thread =>
    simp only [entryWorkerStep, hpc] at hstep
    obtain rfl := Option.some.inj hstep
    exact h.moveWorker (fun _ => hguard ⟨processId, thread, hpc⟩) fun _ => hsome
  | searching processId thread =>
    simp only [entryWorkerStep, hpc] at hstep
    split at hstep
    next entry hlookup =>
      obtain rfl := Option.some.inj hstep
      refine h.moveWorker Bool.noConfusion fun e he => ?_
      obtain rfl := Option.some.inj he
      refine h.live_of_lookup hlookup fun j hj => ?_
      -- nothing is removed during the search
      have hquiet := h.searching (by rw [hpc]; rfl) j
      rw [hj] at hquiet
      exact Bool.noConfusion hquiet
    next =>
      obtain rfl := Option.some.inj hstep
      exact h.moveWorker Bool.noConfusion fun _ => hsome
  | found entry thread | allocated entry thread =>
    rw [hpc] at hheld
    simp only [entryWorkerStep, hpc] at hstep
    obtain rfl := Option.some.inj hstep
    cases ok with
    | true | false => exact h.moveWorker Bool.noConfusion hheld
  | threadFound entry thread =>
    rw [hpc] at hheld
    simp only [entryWorkerStep, hpc] at hstep
    split at hstep
    next => exact absurd hstep.symm (Option.some_ne_none _)
    next =>
      obtain rfl := Option.some.inj hstep
      exact h.moveWorker Bool.noConfusion hheld
  | listLocked entry thread =>
    rw [hpc] at hheld
    simp only [entryWorkerStep, hpc] at hstep
    obtain rfl := Option.some.inj hstep
    exact h.moveWorker Bool.noConfusion hheld
  | listDone entry inserted =>
    rw [hpc] at hheld
    simp only [entryWorkerStep, hpc] at hstep
    obtain rfl := Option.some.inj hstep
    cases inserted with
    | true => exact h.moveWorker Bool.noConfusion fun _ => hsome
    | false => exact h.moveWorker Bool.noConfusion hheld
  | failed entry =>
    simp only [entryWorkerStep, hpc] at hstep
    obtain rfl := Option.some.inj hstep
    exact h.moveWorker Bool.noConfusion fun _ => hsome

/-- **One step** that meets the condition keeps the invariant. -/
theorem step {a : EntryAction} (h : EntryInv s) (hguard : EntryGuard s a)
    (hstep : entryStep s a = some s') : EntryInv s' := by
  cases a with
  | post processId thread =>
    simp only [entryStep] at hstep
    split at hstep
    next =>
      obtain rfl := Option.some.inj hstep
      exact h.moveWorker Bool.noConfusion fun _ hnone => absurd hnone.symm (Option.some_ne_none _)
    next => exact absurd hstep.symm (Option.some_ne_none _)
  | enter i use =>
    simp only [entryStep] at hstep
    split at hstep
    next hpc =>
      obtain rfl := Option.some.inj hstep
      refine h.move (h.lock.stay ?_) (fun _ hnone => absurd hnone.symm (Option.some_ne_none _))
        (fun _ => TreeUser.noConfusion)
        (fun _ heq => TreeUser.noConfusion (hpc.symm.trans heq)) fun _ => rfl
      rw [hpc]
      exact Iff.rfl
    next => exact absurd hstep.symm (Option.some_ne_none _)
  | user i ok => exact h.user hguard hstep
  | worker ok => exact h.worker hguard hstep

end EntryInv

/-! ## The condition is needed -/

/-- Whoever has an entry whose list is destroyed comes to use it, or the entry itself
after it was freed. -/
theorem uses_destroyed {s : EntryState} {i entry : Nat} (hheld : s.worker.held = some entry)
    (hpc : s.users i = .removing entry) (hdestroyed : entry ∈ s.destroyed) :
    ∃ actions, ¬ Throughout entryStep UsesLive s actions := by
  have hnow : ∀ {t : EntryState}, t.worker.list = some entry → entry ∈ t.destroyed →
      ∃ actions, ¬ Throughout entryStep UsesLive t actions :=
    fun hlist hmem => ⟨[.worker true], fun hthrough => hthrough.1.2 entry hlist hmem⟩
  have hlater : ∀ {t t' : EntryState} {a : EntryAction}, entryStep t a = some t' →
      (∃ actions, ¬ Throughout entryStep UsesLive t' actions) →
      ∃ actions, ¬ Throughout entryStep UsesLive t actions := by
    intro t t' a hstep hsome
    obtain ⟨actions, hnot⟩ := hsome
    exact ⟨a :: actions, fun hthrough => hnot (hthrough.2 t' hstep)⟩
  have hallocated : ∀ {t : EntryState} {thread : UInt64},
      t.worker = .allocated entry thread → entry ∈ t.destroyed →
      ∃ actions, ¬ Throughout entryStep UsesLive t actions := by
    intro t thread hworker hmem
    have hstep : entryStep t (.worker true)
        = some { t with worker := .threadFound entry thread } := by
      simp [entryStep, entryWorkerStep, hworker]
    exact hlater hstep (hnow rfl hmem)
  cases hworker : s.worker with
  | idle | record _ _ | searching _ _ =>
    rw [hworker] at hheld
    exact absurd hheld.symm (Option.some_ne_none _)
  | found e thread =>
    rw [hworker] at hheld
    obtain rfl := Option.some.inj hheld
    have hstep : entryStep s (.worker true) = some { s with worker := .allocated e thread } := by
      simp [entryStep, entryWorkerStep, hworker]
    exact hlater hstep (hallocated rfl hdestroyed)
  | allocated e thread =>
    rw [hworker] at hheld
    obtain rfl := Option.some.inj hheld
    exact hallocated hworker hdestroyed
  | threadFound e thread | listLocked e thread | listDone e inserted =>
    refine hnow ?_ hdestroyed
    rw [hworker] at hheld ⊢
    exact hheld
  | failed e =>
    rw [hworker] at hheld
    obtain rfl := Option.some.inj hheld
    have hstep : entryStep s (.user i true) = some ({ s with
        gProcessTree := s.gProcessTree.filter fun node => node.2 != e
        freed := e :: s.freed }.goto i .unlocking) := by
      simp [entryStep, userStep, hpc]
    refine hlater hstep ⟨[.worker true], fun hthrough => hthrough.1.1 e ?_ List.mem_cons_self⟩
    show s.worker.entry = some e
    rw [hworker]
    rfl

/-- **A step that does not meet the condition** makes the tree unstable, or leads to a use
of what was freed. -/
theorem entryGuard_needed {s s' : EntryState} {a : EntryAction} (hguard : ¬ EntryGuard s a)
    (hstep : entryStep s a = some s') :
    ¬ TreeStable s' ∨ ∃ actions, ¬ Throughout entryStep UsesLive s' actions := by
  cases a with
  | post processId thread | enter i use => exact absurd trivial hguard
  | worker ok =>
    left
    obtain ⟨hrecord, hmodifies⟩ := Classical.not_imp.mp hguard
    obtain ⟨processId, thread, hpc⟩ := hrecord
    obtain ⟨i, hi⟩ := Classical.not_forall.mp hmodifies
    simp only [entryStep, entryWorkerStep, hpc] at hstep
    obtain rfl := Option.some.inj hstep
    intro hstable
    exact Bool.noConfusion (hstable i (by simpa using hi)).1
  | user i ok =>
    have hbegins : ∀ {user : TreeUser} {destroyed : List Nat}, user.modifies = true →
        s.worker.searches = true →
        ¬ TreeStable ({ s with destroyed := destroyed }.goto i user) := by
      intro user destroyed hmodifies hsearches hstable
      have hi : ({ s with destroyed := destroyed }.goto i user).users i = user :=
        Function.update_self _ _ _
      exact absurd ((hstable i (by rw [hi]; exact hmodifies)).1.symm.trans hsearches)
        Bool.noConfusion
    cases hpc : s.users i with
    | idle | entered _ | locked _ | inserting _ | found _ _ | listLocked _ _ | listDone _ _
    | removing _ | unlocking =>
      simp only [EntryGuard, hpc] at hguard
      exact absurd trivial hguard
    | searching use =>
      cases use with
      | delete processId | trust processId thread =>
        simp only [EntryGuard, hpc] at hguard
        exact absurd trivial hguard
      | create processId =>
        left
        simp only [EntryGuard, hpc] at hguard
        obtain ⟨hlookup, hguard⟩ := Classical.not_imp.mp hguard
        obtain ⟨rfl, hsearches⟩ := Classical.not_imp.mp hguard
        simp only [entryStep, userStep, hpc, hlookup] at hstep
        obtain rfl := Option.some.inj hstep
        exact hbegins rfl (by simpa using hsearches)
    | destroying entry =>
      simp only [EntryGuard, hpc] at hguard
      simp only [entryStep, userStep, hpc] at hstep
      obtain rfl := Option.some.inj hstep
      by_cases hsearches : s.worker.searches = true
      · exact Or.inl (hbegins rfl hsearches)
      · right
        have hheld : s.worker.held = some entry := by
          by_contra hne
          exact hguard ⟨by simpa using hsearches, hne⟩
        exact @uses_destroyed _ i entry hheld (Function.update_self _ _ _) List.mem_cons_self

/-! ## Every run -/

/-- **Use before free**: in a run in which no modification of the tree overlaps the
worker's search, and no deletion the worker's use of what it found, the tree is never
searched while it is modified, and no entry and no list is used after it was freed. -/
theorem entryUse_guarded (actions : List EntryAction)
    (hguard : Guarded entryStep EntryGuard .initial actions) :
    Always entryStep TreeStable .initial actions ∧
      Throughout entryStep UsesLive .initial actions := by
  constructor
  · exact always_of_guarded EntryInv.treeStable EntryInv.step entryInv_initial hguard
  · exact throughout_of_guarded (fun h => h.usesLive _) EntryInv.step entryInv_initial hguard

/-- The callbacks come to modify the tree only while the worker has nothing to do, and the
worker begins to search only while nobody has the lock. -/
def EntryState.undisturbed (s : EntryState) : EntryAction → Bool
  | .user i _ =>
    match s.users i with
    | .searching (.create _) | .destroying _ => s.worker == .idle
    | _ => true
  | .worker _ =>
    match s.worker with
    | .record _ _ => !s.gProcessTreeLock
    | _ => true
  | .post _ _ | .enter _ _ => true

/-- Then the worker and they stay out of each other's way. -/
theorem EntryInv.guard_of_undisturbed {s : EntryState} {a : EntryAction} (h : EntryInv s)
    (hundisturbed : s.undisturbed a = true) : EntryGuard s a := by
  cases a with
  | post processId thread | enter i use => trivial
  | user i ok =>
    unfold EntryState.undisturbed at hundisturbed
    unfold EntryGuard
    dsimp only at hundisturbed ⊢
    split
    next processId hpc =>
      rw [hpc] at hundisturbed
      rw [eq_of_beq hundisturbed]
      exact fun _ _ => rfl
    next entry hpc =>
      rw [hpc] at hundisturbed
      rw [eq_of_beq hundisturbed]
      exact ⟨rfl, (Option.some_ne_none entry).symm⟩
    next => trivial
  | worker ok =>
    rintro ⟨processId, thread, hrecord⟩ i
    unfold EntryState.undisturbed at hundisturbed
    rw [hrecord] at hundisturbed
    have hfree : s.gProcessTreeLock = false := by simpa using hundisturbed
    by_contra hmodifies
    have htaken := h.lock.taken.mpr ⟨i, EntryInv.inside_of_modifies (by simpa using hmodifies)⟩
    exact absurd (hfree.symm.trans htaken) (by decide)

/-- The process 4 is created, the worker excludes a thread of it, and it is deleted. -/
def processLives : List EntryAction :=
  [.enter 0 (.create 4)] ++ List.replicate 5 (.user 0 true) ++ [.post 4 8] ++
    List.replicate 7 (.worker true) ++ [.enter 0 (.delete 4)] ++ List.replicate 9 (.user 0 true)

theorem entryUse_created :
    Always entryStep TreeStable .initial processLives ∧
      Throughout entryStep UsesLive .initial processLives ∧
      (processLives.foldlM entryStep .initial).map EntryState.freed = some [0] := by
  obtain ⟨hstable, hlive⟩ := entryUse_guarded processLives
    (@Guarded.mono _ _ entryStep EntryInv (fun s a => s.undisturbed a = true) EntryGuard
      EntryInv.guard_of_undisturbed EntryInv.step processLives .initial entryInv_initial
      (by decide))
  exact ⟨hstable, hlive, by decide⟩

/-- The process 4 is created, the worker finds its entry for a record, the process is
deleted, and the worker goes on: it takes the lock of a list that was freed. -/
theorem not_entryUse_exits :
    ¬ (Always entryStep TreeStable .initial
          ([.enter 0 (.create 4)] ++ List.replicate 5 (.user 0 true) ++
            [.post 4 8, .worker true, .worker true, .enter 0 (.delete 4)] ++
            List.replicate 9 (.user 0 true) ++ List.replicate 3 (.worker true)) ∧
        Throughout entryStep UsesLive .initial
          ([.enter 0 (.create 4)] ++ List.replicate 5 (.user 0 true) ++
            [.post 4 8, .worker true, .worker true, .enter 0 (.delete 4)] ++
            List.replicate 9 (.user 0 true) ++ List.replicate 3 (.worker true))) := by
  intro hok
  exact absurd hok.2 (by decide)

end DeepShield.Pm
