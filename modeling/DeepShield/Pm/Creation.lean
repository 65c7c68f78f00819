import DeepShield.Lib.Ledger
import DeepShield.Lib.Runs
import DeepShield.Pm.ProcessTable

/-!
# What a process notification acquires and gives back

`DsProcessCreationCallback` asks for the image name of the process, allocates an entry, asks
for the SID, and inserts a copy of the entry into `gProcessTree`. On the way it takes two
references to the process and one to its token, a handle, two strings and four blocks of
pool. All of these are blocks of one ledger here, and the ids in the tree are those of the
process table (`dsProcessNotifyCallback_refines`).

At the end there should be one more node in the tree and nothing else. But `PmGetProcessSid`
never drops its reference to the process, and when the token cannot be opened the one to the
token neither; and if there is no memory for the entry, the callback returns with the image
name. So whatever goes well leaks, and `balanced_iff` says that only two things do not.
-/

namespace DeepShield.Pm.Creation

open DeepShield.Lib DeepShield.Os

/-! ## The tree -/

/-- `gProcessTree`: the process ids in it, each with the block its node is in. -/
structure ProcessTree where
  nodes : List (UInt64 × Nat)
  distinct : (nodes.map Prod.fst).Nodup

namespace ProcessTree

/-- After `PmInitializeProcessTable`. -/
def empty : ProcessTree := ⟨[], List.nodup_nil⟩

/-- `RtlLookupElementGenericTableAvl`. -/
def lookup (tree : ProcessTree) (processId : UInt64) : Option Nat := tree.nodes.lookup processId

theorem not_mem_of_lookup {nodes : List (UInt64 × Nat)} {processId : UInt64}
    (h : nodes.lookup processId = none) : processId ∉ nodes.map Prod.fst := by
  intro hmem
  obtain ⟨node, hnode, rfl⟩ := List.mem_map.mp hmem
  exact absurd rfl (bne_iff_ne.mp (List.lookup_eq_none_iff.mp h node hnode))

/-- A new node, for an id that is absent. -/
def insert (tree : ProcessTree) (processId : UInt64) (node : Nat)
    (habsent : tree.lookup processId = none) : ProcessTree :=
  ⟨(processId, node) :: tree.nodes,
    List.nodup_cons.mpr ⟨not_mem_of_lookup habsent, tree.distinct⟩⟩

/-- Without the node of an id. -/
def erase (tree : ProcessTree) (processId : UInt64) : ProcessTree :=
  ⟨tree.nodes.eraseP (fun node => processId == node.1),
    tree.distinct.sublist (List.eraseP_sublist.map Prod.fst)⟩

/-- The blocks of the nodes. -/
def held (tree : ProcessTree) : Multiset Nat := ↑(tree.nodes.map Prod.snd)

end ProcessTree

/-! ## The calls -/

/-- How the calls of `PmAllocateProcessImageName` turn out. -/
structure ImageNameCalls where
  psLookupProcessByProcessId : NtStatus
  seLocateProcessImageName : NtStatus
  exAllocatePool : Bool
  rtlUnicodeStringCbCopyN : NtStatus

/-- How the calls of `PmGetProcessSid` turn out; the token is queried for a size first. -/
structure SidCalls where
  psLookupProcessByProcessId : NtStatus
  obOpenObjectByPointer : NtStatus
  zwQueryInformationTokenSize : NtStatus
  exAllocatePool : Bool
  zwQueryInformationToken : NtStatus
  rtlConvertSidToUnicodeString : NtStatus

/-- How the calls of `DsProcessCreationCallback` turn out. -/
structure CreationCalls where
  imageName : ImageNameCalls
  entryAllocated : Bool
  sid : SidCalls
  nodeAllocated : Bool

/-- The tree, and what was acquired and released. -/
structure CreationState where
  gProcessTree : ProcessTree
  ledger : Ledger

/-- The process monitor was just started. -/
def CreationState.initial : CreationState := ⟨.empty, Ledger.empty⟩

/-! ## The functions -/

/-- `PmAllocateProcessImageName`: the status, `*ReturnedProcessName`, and the ledger. -/
def pmAllocateProcessImageName (calls : ImageNameCalls) (ledger : Ledger) :
    NtStatus × Option Nat × Ledger :=
  match ledger.alloc (ntSuccess calls.psLookupProcessByProcessId) with
  | (none, ledger) => (calls.psLookupProcessByProcessId, none, ledger)
  | (some process, ledger) =>
    match ledger.alloc (ntSuccess calls.seLocateProcessImageName) with
    | (none, ledger) => (calls.seLocateProcessImageName, none, ledger.free process)
    | (some imageFileName, ledger) =>
      match ledger.alloc calls.exAllocatePool with
      | (none, ledger) => (statusNoMemory, none, (ledger.free imageFileName).free process)
      | (some processName, ledger) =>
        (calls.rtlUnicodeStringCbCopyN, some processName,
          (ledger.free imageFileName).free process)

/-- `PmGetProcessSid`: the status, the buffer of the string if one was made, and the
ledger. -/
def pmGetProcessSid (calls : SidCalls) (ledger : Ledger) : NtStatus × Option Nat × Ledger :=
  match ledger.alloc (ntSuccess calls.psLookupProcessByProcessId) with
  | (none, ledger) => (calls.psLookupProcessByProcessId, none, ledger)
  | (some _, ledger) =>
    -- PsReferencePrimaryToken, which does not fail
    let token := ledger.next
    let ledger := (ledger.alloc true).2
    match ledger.alloc (ntSuccess calls.obOpenObjectByPointer) with
    | (none, ledger) => (calls.obOpenObjectByPointer, none, ledger)
    | (some processToken, ledger) =>
      let ledger := ledger.free token
      if calls.zwQueryInformationTokenSize ≠ statusBufferTooSmall then
        -- a success among them
        (calls.zwQueryInformationTokenSize, none, ledger.free processToken)
      else
        match ledger.alloc calls.exAllocatePool with
        | (none, ledger) => (statusNoMemory, none, ledger.free processToken)
        | (some processUser, ledger) =>
          if ntSuccess calls.zwQueryInformationToken = false then
            (calls.zwQueryInformationToken, none, (ledger.free processToken).free processUser)
          else
            match ledger.alloc (ntSuccess calls.rtlConvertSidToUnicodeString) with
            | (sid, ledger) =>
              (calls.rtlConvertSidToUnicodeString, sid,
                (ledger.free processToken).free processUser)

/-- `PmCreateProcessEntry`: the tree makes a copy of the entry, in a block of its own. -/
def pmCreateProcessEntry (nodeAllocated : Bool) (processId : UInt64) (s : CreationState) :
    NtStatus × CreationState :=
  match habsent : s.gProcessTree.lookup processId with
  | some _ => (statusObjectidExists, s)
  | none =>
    match s.ledger.alloc nodeAllocated with
    | (none, _) => (statusInternalError, s)
    | (some node, ledger) =>
      (statusSuccess, ⟨s.gProcessTree.insert processId node habsent, ledger⟩)

/-- The `RoutineExit` of `DsProcessCreationCallback`. -/
def routineExit (processPath processEntry : Option Nat) (s : CreationState) : CreationState :=
  { s with ledger := (s.ledger.freePointee processPath).freePointee processEntry }

/-- `DsProcessCreationCallback`. -/
def dsProcessCreationCallback (calls : CreationCalls) (processId : UInt64) (s : CreationState) :
    CreationState :=
  match pmAllocateProcessImageName calls.imageName s.ledger with
  | (status, processPath, ledger) =>
    if ntSuccess status = false then routineExit processPath none { s with ledger := ledger }
    else
      match ledger.alloc calls.entryAllocated with
      -- returns, past RoutineExit
      | (none, ledger) => { s with ledger := ledger }
      | (some processEntry, ledger) =>
        match pmGetProcessSid calls.sid ledger with
        | (status, sid, ledger) =>
          if ntSuccess status = false then
            routineExit processPath (some processEntry) { s with ledger := ledger }
          else
            -- RtlFreeUnicodeString
            let s := { s with ledger := ledger.freePointer sid }
            let (_, s) := pmCreateProcessEntry calls.nodeAllocated processId s
            routineExit processPath (some processEntry) s

/-- `DsProcessDeletionCallback`. -/
def dsProcessDeletionCallback (processId : UInt64) (s : CreationState) : CreationState :=
  match s.gProcessTree.lookup processId with
  | none => s
  | some node => ⟨s.gProcessTree.erase processId, s.ledger.free node⟩

/-- A process was created or deleted. -/
inductive Notification
  | create (calls : CreationCalls) (processId : UInt64)
  | delete (processId : UInt64)

/-- `DsProcessNotifyCallback`. -/
def dsProcessNotifyCallback (s : CreationState) : Notification → Option CreationState
  | .create calls processId => some (dsProcessCreationCallback calls processId s)
  | .delete processId => some (dsProcessDeletionCallback processId s)

/-- **The balance**: whatever was acquired was released once, but for the nodes of the tree. -/
def Balanced (s : CreationState) : Prop := s.ledger.Owns s.gProcessTree.held

/-! ## When it is kept -/

/-- The image name can be had. -/
structure ImageNameCalls.Succeed (calls : ImageNameCalls) : Prop where
  psLookupProcessByProcessId : ntSuccess calls.psLookupProcessByProcessId = true
  seLocateProcessImageName : ntSuccess calls.seLocateProcessImageName = true
  exAllocatePool : calls.exAllocatePool = true
  rtlUnicodeStringCbCopyN : ntSuccess calls.rtlUnicodeStringCbCopyN = true

/-- There is no image name, or there is an entry and the process is not found for its SID. -/
def CreationCalls.Harmless (calls : CreationCalls) : Prop :=
  ¬ calls.imageName.Succeed ∨
    calls.entryAllocated = true ∧ ntSuccess calls.sid.psLookupProcessByProcessId = false

/-- Deletions are harmless. -/
def Harmless (_ : CreationState) : Notification → Prop
  | .create calls _ => calls.Harmless
  | .delete _ => True

/-! ## The functions, one by one -/

section Spec

variable {ledger : Ledger} {owned : Multiset Nat}

/-- **The image name**, if it can be had, is all that is left of the first function. -/
theorem pmAllocateProcessImageName_spec (calls : ImageNameCalls) (h : ledger.Owns owned) :
    (ntSuccess (pmAllocateProcessImageName calls ledger).1 = true ↔ calls.Succeed) ∧
      (calls.Succeed → ∃ name, (pmAllocateProcessImageName calls ledger).2.1 = some name) ∧
      (pmAllocateProcessImageName calls ledger).2.2.Owns
        (Ledger.pointee (pmAllocateProcessImageName calls ledger).2.1 + owned) := by
  unfold pmAllocateProcessImageName
  cases hlookup : ntSuccess calls.psLookupProcessByProcessId with
  | false =>
    have hnot : ¬ calls.Succeed := fun hk =>
      Bool.false_ne_true (hlookup.symm.trans hk.psLookupProcessByProcessId)
    exact ⟨iff_of_false (ne_true_of_eq_false hlookup) hnot, fun hk => absurd hk hnot,
      h.of_eq (zero_add owned).symm⟩
  | true =>
    dsimp only [Ledger.alloc_true]
    cases hlocate : ntSuccess calls.seLocateProcessImageName with
    | false =>
      have hnot : ¬ calls.Succeed := fun hk =>
        Bool.false_ne_true (hlocate.symm.trans hk.seLocateProcessImageName)
      exact ⟨iff_of_false (ne_true_of_eq_false hlocate) hnot, fun hk => absurd hk hnot,
        h.alloc.free.of_eq (zero_add owned).symm⟩
    | true =>
      dsimp only [Ledger.alloc_true]
      cases hpool : calls.exAllocatePool with
      | false =>
        have hnot : ¬ calls.Succeed := fun hk =>
          Bool.false_ne_true (hpool.symm.trans hk.exAllocatePool)
        exact ⟨iff_of_false (ne_true_of_eq_false ntSuccess_statusNoMemory) hnot,
          fun hk => absurd hk hnot, h.alloc.alloc.free.free.of_eq (zero_add owned).symm⟩
      | true =>
        dsimp only [Ledger.alloc_true]
        refine ⟨⟨fun hcopy => ⟨hlookup, hlocate, hpool, hcopy⟩, fun hk =>
          hk.rtlUnicodeStringCbCopyN⟩, fun _ => ⟨_, rfl⟩, ?_⟩
        -- the name stays, the string of the kernel and the reference go
        apply Ledger.Owns.free
        apply Ledger.Owns.free
        refine h.alloc.alloc.alloc.of_eq ?_
        rw [Ledger.pointee_some]
        abel

/-- **The SID**: once the process was found, a reference to it is left, and maybe more. -/
theorem pmGetProcessSid_spec (calls : SidCalls) (h : ledger.Owns owned) :
    (ntSuccess calls.psLookupProcessByProcessId = false ∧
        ntSuccess (pmGetProcessSid calls ledger).1 = false ∧
        (pmGetProcessSid calls ledger).2.2.Owns owned) ∨
      (ntSuccess calls.psLookupProcessByProcessId = true ∧
        ∃ more : Multiset Nat,
          (pmGetProcessSid calls ledger).2.2.Owns
            (Ledger.pointee (pmGetProcessSid calls ledger).2.1
              + ({ledger.next} + (more + owned))) ∧
          (ntSuccess (pmGetProcessSid calls ledger).1 = false →
            (pmGetProcessSid calls ledger).2.1 = none)) := by
  unfold pmGetProcessSid
  cases hlookup : ntSuccess calls.psLookupProcessByProcessId with
  | false => exact Or.inl ⟨rfl, hlookup, h⟩
  | true =>
    refine Or.inr ⟨rfl, ?_⟩
    have htoken := h.alloc.alloc
    dsimp only [Ledger.alloc_true]
    cases ntSuccess calls.obOpenObjectByPointer with
    | false =>
      dsimp only [Ledger.alloc_false]
      refine ⟨{ledger.next + 1}, htoken.of_eq ?_, fun _ => rfl⟩
      rw [Ledger.pointee_none]
      abel
    | true =>
      -- only the handle and the reference to the process from here on
      have hopened := (htoken.alloc.of_eq (add_left_comm _ _ _)).free
      dsimp only [Ledger.alloc_true]
      by_cases hsize : calls.zwQueryInformationTokenSize ≠ statusBufferTooSmall
      · rw [if_pos hsize]
        refine ⟨0, hopened.free.of_eq ?_, fun _ => rfl⟩
        rw [Ledger.pointee_none, zero_add, zero_add]
      · rw [if_neg hsize]
        cases calls.exAllocatePool with
        | false =>
          dsimp only [Ledger.alloc_false]
          refine ⟨0, hopened.free.of_eq ?_, fun _ => rfl⟩
          rw [Ledger.pointee_none, zero_add, zero_add]
        | true =>
          dsimp only [Ledger.alloc_true]
          have huser := hopened.alloc
          by_cases hquery : ntSuccess calls.zwQueryInformationToken = false
          · rw [if_pos hquery]
            refine ⟨0, (huser.of_eq (add_left_comm _ _ _)).free.free.of_eq ?_, fun _ => rfl⟩
            rw [Ledger.pointee_none, zero_add, zero_add]
          · rw [if_neg hquery]
            cases hconvert : ntSuccess calls.rtlConvertSidToUnicodeString with
            | false =>
              dsimp only [Ledger.alloc_false]
              refine ⟨0, (huser.of_eq (add_left_comm _ _ _)).free.free.of_eq ?_, fun _ => rfl⟩
              rw [Ledger.pointee_none, zero_add, zero_add]
            | true =>
              dsimp only [Ledger.alloc_true]
              refine ⟨0, ?_, fun hfail => absurd hfail Bool.false_ne_true.symm⟩
              apply Ledger.Owns.free
              apply Ledger.Owns.free
              refine huser.alloc.of_eq ?_
              rw [Ledger.pointee_some]
              abel

end Spec

section Step

variable {s : CreationState} {owned : Multiset Nat} {processId : UInt64}

/-- **Inserting** takes a block for each node that it adds. -/
theorem pmCreateProcessEntry_spec (nodeAllocated : Bool)
    (h : s.ledger.Owns (owned + s.gProcessTree.held)) :
    (pmCreateProcessEntry nodeAllocated processId s).2.ledger.Owns
      (owned + (pmCreateProcessEntry nodeAllocated processId s).2.gProcessTree.held) := by
  unfold pmCreateProcessEntry
  split
  next => exact h
  next =>
    cases nodeAllocated with
    | false => exact h
    | true =>
      refine h.alloc.of_eq ?_
      exact add_left_comm _ _ _

theorem misused_pmCreateProcessEntry (nodeAllocated : Bool) (h : s.ledger.misused = true) :
    (pmCreateProcessEntry nodeAllocated processId s).2.ledger.misused = true := by
  unfold pmCreateProcessEntry
  split
  next => exact h
  next =>
    cases nodeAllocated with
    | false => exact h
    | true => exact h

/-- **At the exit** the name and the entry go. -/
theorem routineExit_spec {processPath processEntry : Option Nat}
    (h : s.ledger.Owns (Ledger.pointee processPath + (Ledger.pointee processEntry + owned))) :
    (routineExit processPath processEntry s).ledger.Owns owned :=
  h.freePointee.freePointee

/-- What is left over breaks the balance. -/
theorem not_balanced_of_leaked (block : Nat) (more : Multiset Nat)
    (h : s.ledger.Owns ({block} + (more + s.gProcessTree.held))) : ¬ Balanced s := by
  intro hbalanced
  have hcard := congrArg Multiset.card (hbalanced.unique h)
  rw [Multiset.card_add, Multiset.card_add, Multiset.card_singleton] at hcard
  omega

/-- Neither the name nor the entry is what was left over. -/
theorem not_balanced_routineExit {name entry : Nat} (block : Nat) (more : Multiset Nat)
    (h : s.ledger.Owns ({block} + (more + ({entry} + ({name} + s.gProcessTree.held))))) :
    ¬ Balanced (routineExit (some name) (some entry) s) := by
  refine not_balanced_of_leaked block more (routineExit_spec (h.of_eq ?_))
  show _ = {name} + ({entry} + ({block} + (more + s.gProcessTree.held)))
  abel

theorem not_balanced_of_misused (h : s.ledger.misused = true) : ¬ Balanced s :=
  fun hbalanced => Bool.false_ne_true (hbalanced.notMisused.symm.trans h)

/-- **A creation** keeps the balance if it is harmless, and breaks it otherwise. -/
theorem balanced_dsProcessCreationCallback_iff (calls : CreationCalls) (h : Balanced s) :
    Balanced (dsProcessCreationCallback calls processId s) ↔ calls.Harmless := by
  obtain ⟨hname, hsome, howns⟩ := pmAllocateProcessImageName_spec calls.imageName h
  unfold dsProcessCreationCallback CreationCalls.Harmless
  dsimp only
  by_cases hstatus : ntSuccess (pmAllocateProcessImageName calls.imageName s.ledger).1 = true
  · obtain ⟨name, hpath⟩ := hsome (hname.mp hstatus)
    rw [hpath] at howns
    rw [if_neg (ne_false_of_eq_true hstatus), or_iff_right (not_not_intro (hname.mp hstatus)),
      hpath]
    generalize (pmAllocateProcessImageName calls.imageName s.ledger).2.2 = ledger at howns
    cases calls.entryAllocated with
    | false =>
      dsimp only [Ledger.alloc_false]
      refine iff_of_false (not_balanced_of_leaked name 0 ?_) fun hk => Bool.false_ne_true hk.1
      exact howns.of_eq (congrArg _ (zero_add _).symm)
    | true =>
      dsimp only [Ledger.alloc_true]
      rw [and_iff_right rfl]
      rcases pmGetProcessSid_spec calls.sid howns.alloc with
        ⟨hlookup, hsid, howns⟩ | ⟨hlookup, more, howns, hnone⟩
      · rw [if_pos hsid]
        refine iff_of_true ?_ hlookup
        exact routineExit_spec (howns.of_eq (add_left_comm _ _ _))
      · refine iff_of_false ?_ (ne_false_of_eq_true hlookup)
        by_cases hsid : ntSuccess (pmGetProcessSid calls.sid
            { ledger with next := ledger.next + 1 }).1 = false
        · rw [if_pos hsid]
          rw [hnone hsid, Ledger.pointee_none, zero_add] at howns
          exact not_balanced_routineExit (ledger.next + 1) more howns
        · rw [if_neg hsid]
          generalize (pmGetProcessSid calls.sid { ledger with next := ledger.next + 1 }).2.1 = sid
            at howns
          generalize (pmGetProcessSid calls.sid { ledger with next := ledger.next + 1 }).2.2 = after
            at howns
          cases sid with
          | none =>
            -- the string was never written
            apply not_balanced_of_misused
            apply Ledger.misused_freePointee
            apply Ledger.misused_freePointee
            apply misused_pmCreateProcessEntry
            rfl
          | some sid =>
            -- freed, and the node joins what the tree holds
            have hfreed : (after.free sid).Owns
                ({ledger.next + 1} + (more + ({ledger.next} + {name})) + s.gProcessTree.held) := by
              refine howns.free.of_eq ?_
              rw [Ledger.pointee_some]
              abel
            have hcreated := @pmCreateProcessEntry_spec ⟨s.gProcessTree, after.free sid⟩ _
              processId calls.nodeAllocated hfreed
            refine not_balanced_routineExit (ledger.next + 1) more (hcreated.of_eq ?_)
            rw [add_assoc, add_assoc, add_assoc]
            rfl
  · rw [if_pos (eq_false_of_ne_true hstatus)]
    refine iff_of_true ?_ (Or.inl (mt hname.mpr hstatus))
    exact routineExit_spec (howns.of_eq (congrArg _ (zero_add _).symm))

/-- The node of an id that is erased is not held any more. -/
theorem ProcessTree.held_erase {tree : ProcessTree} {node : Nat}
    (h : tree.lookup processId = some node) : tree.held = {node} + (tree.erase processId).held := by
  obtain ⟨nodes, hdistinct⟩ := tree
  unfold ProcessTree.held ProcessTree.erase
  dsimp only
  change nodes.lookup processId = some node at h
  clear hdistinct
  induction nodes with
  | nil => exact absurd h (Option.some_ne_none node).symm
  | cons first nodes ih =>
    obtain ⟨id, block⟩ := first
    rw [List.lookup_cons] at h
    rw [List.eraseP_cons]
    dsimp only
    cases hid : processId == id with
    | true =>
      rw [hid] at h
      obtain rfl := Option.some.inj h
      rfl
    | false =>
      rw [hid] at h
      have hrest := ih h
      rw [List.map_cons, ← Multiset.cons_coe, hrest]
      exact (Multiset.add_cons ..).symm

/-- **A deletion** frees the node that leaves the tree. -/
theorem balanced_dsProcessDeletionCallback (h : Balanced s) :
    Balanced (dsProcessDeletionCallback processId s) := by
  unfold dsProcessDeletionCallback
  split
  next => exact h
  next node hlookup =>
    exact Ledger.Owns.free (h.of_eq (ProcessTree.held_erase hlookup))

end Step

theorem balanced_initial : Balanced .initial := Ledger.owns_empty

/-- **The balance of process creation**: in any run of notifications, it is kept exactly if
every creation is harmless. -/
theorem balanced_iff (notifications : List Notification) :
    Always dsProcessNotifyCallback Balanced .initial notifications ↔
      Guarded dsProcessNotifyCallback Harmless .initial notifications := by
  refine always_iff_guarded id (fun {s a s'} h hguard hstep => ?_)
    (fun {s a s'} h hguard hstep => ?_) balanced_initial
  · cases a with
    | create calls processId =>
      obtain rfl := Option.some.inj hstep
      exact (balanced_dsProcessCreationCallback_iff calls h).mpr hguard
    | delete processId =>
      obtain rfl := Option.some.inj hstep
      exact balanced_dsProcessDeletionCallback h
  · cases a with
    | create calls processId =>
      obtain rfl := Option.some.inj hstep
      exact mt (balanced_dsProcessCreationCallback_iff calls h).mp hguard
    | delete processId => exact absurd trivial hguard

/-- Every call succeeds. -/
def obligingCalls : CreationCalls where
  imageName := ⟨statusSuccess, statusSuccess, true, statusSuccess⟩
  entryAllocated := true
  sid := ⟨statusSuccess, statusSuccess, statusBufferTooSmall, true, statusSuccess, statusSuccess⟩
  nodeAllocated := true

/-- A process is created, all goes well, and a reference to it stays. -/
theorem not_balanced_created :
    ¬ Always dsProcessNotifyCallback Balanced .initial [.create obligingCalls 8] := by
  intro h
  have hbalanced : Balanced (dsProcessCreationCallback obligingCalls 8 .initial) := h.2 _ rfl
  rcases (balanced_dsProcessCreationCallback_iff obligingCalls balanced_initial).mp hbalanced
    with hname | ⟨-, hlookup⟩
  · exact hname ⟨rfl, rfl, rfl, rfl⟩
  · exact Bool.false_ne_true hlookup.symm

/-! ## The process table -/

section Refinement

variable {tree : ProcessTree} {processId id : UInt64} {s : CreationState} {table : PmState}

theorem ProcessTree.lookup_eq_none_iff :
    tree.lookup id = none ↔ id ∉ tree.nodes.map Prod.fst := by
  refine ⟨not_mem_of_lookup, fun h => List.lookup_eq_none_iff.mpr fun node hnode => ?_⟩
  rw [bne_iff_ne]
  rintro rfl
  exact h (List.mem_map_of_mem hnode)

theorem ProcessTree.lookup_insert {node : Nat} (habsent : tree.lookup processId = none) :
    (tree.insert processId node habsent).lookup id = none ↔
      id ≠ processId ∧ tree.lookup id = none := by
  rw [lookup_eq_none_iff, lookup_eq_none_iff]
  exact List.mem_cons.not.trans not_or

theorem ProcessTree.lookup_erase :
    (tree.erase processId).lookup id = none ↔ id = processId ∨ tree.lookup id = none := by
  rw [lookup_eq_none_iff, lookup_eq_none_iff]
  have hkeys : (tree.erase processId).nodes.map Prod.fst
      = (tree.nodes.map Prod.fst).erase processId := by
    rw [List.erase_eq_eraseP, List.eraseP_map]
    rfl
  rw [hkeys, tree.distinct.mem_erase_iff, not_and_or, not_not]

/-- What the calls come to. -/
def CreationCalls.outcome (calls : CreationCalls) : CreationOutcome where
  imageName := ntSuccess (pmAllocateProcessImageName calls.imageName Ledger.empty).1
  entryAllocated := calls.entryAllocated
  sid := ntSuccess (pmGetProcessSid calls.sid Ledger.empty).1
  nodeAllocated := calls.nodeAllocated

/-- A status does not depend on the books. -/
theorem pmAllocateProcessImageName_status (calls : ImageNameCalls) (ledger : Ledger) :
    (pmAllocateProcessImageName calls ledger).1
      = (pmAllocateProcessImageName calls Ledger.empty).1 := by
  unfold pmAllocateProcessImageName
  cases ntSuccess calls.psLookupProcessByProcessId with
  | false => rfl
  | true =>
    dsimp only [Ledger.alloc_true]
    cases ntSuccess calls.seLocateProcessImageName with
    | false => rfl
    | true =>
      dsimp only [Ledger.alloc_true]
      cases calls.exAllocatePool with
      | false => rfl
      | true => rfl

theorem pmGetProcessSid_status (calls : SidCalls) (ledger : Ledger) :
    (pmGetProcessSid calls ledger).1 = (pmGetProcessSid calls Ledger.empty).1 := by
  unfold pmGetProcessSid
  cases ntSuccess calls.psLookupProcessByProcessId with
  | false => rfl
  | true =>
    dsimp only [Ledger.alloc_true]
    cases ntSuccess calls.obOpenObjectByPointer with
    | false => rfl
    | true =>
      dsimp only [Ledger.alloc_true]
      by_cases hsize : calls.zwQueryInformationTokenSize ≠ statusBufferTooSmall
      · rw [if_pos hsize, if_pos hsize]
      · rw [if_neg hsize, if_neg hsize]
        cases calls.exAllocatePool with
        | false => rfl
        | true =>
          dsimp only [Ledger.alloc_true]
          split
          next => rfl
          next => rfl

/-- Whatever is needed for a node can be had. -/
def Inserts (outcome : CreationOutcome) : Prop :=
  outcome.imageName = true ∧ outcome.entryAllocated = true ∧ outcome.sid = true ∧
    outcome.nodeAllocated = true

/-- An insertion adds one id or none. -/
theorem lookup_pmCreateProcessEntry (nodeAllocated : Bool) :
    (pmCreateProcessEntry nodeAllocated processId s).2.gProcessTree.lookup id = none ↔
      s.gProcessTree.lookup id = none ∧ (nodeAllocated = true → id ≠ processId) := by
  unfold pmCreateProcessEntry
  split
  next node hpresent =>
    refine ⟨fun h => ⟨h, fun _ => ?_⟩, And.left⟩
    rintro rfl
    exact absurd (h.symm.trans hpresent) (Option.some_ne_none node).symm
  next habsent =>
    cases nodeAllocated with
    | false => exact ⟨fun h => ⟨h, fun hk => absurd hk Bool.false_ne_true⟩, And.left⟩
    | true =>
      refine (ProcessTree.lookup_insert habsent).trans ?_
      exact ⟨fun h => ⟨h.2, fun _ => h.1⟩, fun h => ⟨h.2 rfl, h.1⟩⟩

/-- **A creation** adds an id if everything can be had. -/
theorem lookup_dsProcessCreationCallback (calls : CreationCalls) :
    (dsProcessCreationCallback calls processId s).gProcessTree.lookup id = none ↔
      s.gProcessTree.lookup id = none ∧ (Inserts calls.outcome → id ≠ processId) := by
  unfold dsProcessCreationCallback Inserts CreationCalls.outcome
  dsimp only
  rw [← pmAllocateProcessImageName_status calls.imageName s.ledger]
  cases ntSuccess (pmAllocateProcessImageName calls.imageName s.ledger).1 with
  | false => exact ⟨fun h => ⟨h, fun hk => absurd hk.1 Bool.false_ne_true⟩, And.left⟩
  | true =>
    rw [if_neg Bool.false_ne_true.symm]
    cases calls.entryAllocated with
    | false => exact ⟨fun h => ⟨h, fun hk => absurd hk.2.1 Bool.false_ne_true⟩, And.left⟩
    | true =>
      dsimp only [Ledger.alloc_true]
      generalize Ledger.mk _ _ _ = ledger
      rw [← pmGetProcessSid_status calls.sid ledger]
      cases ntSuccess (pmGetProcessSid calls.sid ledger).1 with
      | false => exact ⟨fun h => ⟨h, fun hk => absurd hk.2.2.1 Bool.false_ne_true⟩, And.left⟩
      | true =>
        rw [if_neg Bool.false_ne_true.symm, and_iff_right rfl, and_iff_right rfl,
          and_iff_right rfl]
        exact @lookup_pmCreateProcessEntry processId id ⟨s.gProcessTree, _⟩ calls.nodeAllocated

/-- In the process table it is the same. -/
theorem gProcessTree_dsProcessCreationCallback (outcome : CreationOutcome) :
    ∃ table', Pm.dsProcessCreationCallback outcome processId table = some table' ∧
      ∀ id, table'.gProcessTree id = none ↔
        table.gProcessTree id = none ∧ (Inserts outcome → id ≠ processId) := by
  cases htree : table.gProcessTree processId with
  | some processEntry =>
    refine ⟨table, dsProcessCreationCallback_present htree outcome, fun id => ?_⟩
    refine ⟨fun h => ⟨h, fun _ => ?_⟩, And.left⟩
    rintro rfl
    exact absurd (h.symm.trans htree) (Option.some_ne_none processEntry).symm
  | none =>
    by_cases hinserts : Inserts outcome
    · obtain ⟨himage, hentry, hsid, hnode⟩ := hinserts
      refine ⟨{ table with
        gProcessTree := Function.update table.gProcessTree processId
          (some ⟨processId, pmInitializeThreadExclusionList, 0⟩) }, ?_, fun id => ?_⟩
      · simp [Pm.dsProcessCreationCallback, Pm.pmCreateProcessEntry,
          rtlInsertElementGenericTableAvl, himage, hentry, hsid, hnode, htree]
      · by_cases hid : id = processId
        · rw [hid]
          dsimp only
          rw [Function.update_self]
          refine iff_of_false (Option.some_ne_none _) fun h => ?_
          exact h.2 ⟨himage, hentry, hsid, hnode⟩ rfl
        · dsimp only
          rw [Function.update_of_ne hid]
          exact ⟨fun h => ⟨h, fun _ => hid⟩, And.left⟩
    · refine ⟨table, ?_, fun id => ⟨fun h => ⟨h, fun hk => absurd hk hinserts⟩, And.left⟩⟩
      have hdestroy := (holds_new table.pool).pmDestroyThreadExclusionList
      rw [List.map_nil, freeAll_nil] at hdestroy
      unfold Pm.dsProcessCreationCallback
      split
      next => rfl
      next hhad =>
        have hnode : outcome.nodeAllocated = false := by
          simp only [not_or, Bool.not_eq_false] at hhad
          refine eq_false_of_ne_true fun hnode => hinserts ?_
          exact ⟨hhad.1, hhad.2.1, hhad.2.2, hnode⟩
        simp [Pm.pmCreateProcessEntry, rtlInsertElementGenericTableAvl, hnode, htree, hdestroy]

/-- The same processes. -/
def SameIds (s : CreationState) (table : PmState) : Prop :=
  ∀ id, s.gProcessTree.lookup id = none ↔ table.gProcessTree id = none

/-- The same notification, to the process table. -/
def notifyTable (table : PmState) : Notification → Option PmState
  | .create calls processId => Pm.dsProcessCreationCallback calls.outcome processId table
  | .delete processId => Pm.dsProcessDeletionCallback processId table

/-- **Refinement**: the tree keeps the ids of the process table. -/
theorem dsProcessNotifyCallback_refines {contents : UInt64 → List Exclusion}
    {notification : Notification} {s' : CreationState} (htable : Consistent table contents)
    (hids : SameIds s table) (hstep : dsProcessNotifyCallback s notification = some s') :
    ∃ table', notifyTable table notification = some table' ∧ SameIds s' table' := by
  cases notification with
  | create calls processId =>
    obtain rfl := Option.some.inj hstep
    obtain ⟨table', hcreate, hlookup⟩ :=
      @gProcessTree_dsProcessCreationCallback processId table calls.outcome
    refine ⟨table', hcreate, fun id => ?_⟩
    rw [lookup_dsProcessCreationCallback, hlookup id, hids id]
  | delete processId =>
    obtain rfl := Option.some.inj hstep
    cases htree : table.gProcessTree processId with
    | none =>
      refine ⟨table, dsProcessDeletionCallback_absent htree, fun id => ?_⟩
      unfold dsProcessDeletionCallback
      rw [(hids processId).mpr htree]
      exact hids id
    | some processEntry =>
      obtain ⟨table', hdelete, herase, -, -⟩ := htable.delete htree
      refine ⟨table', hdelete, fun id => ?_⟩
      have hpresent : s.gProcessTree.lookup processId ≠ none := fun hnone =>
        Option.some_ne_none processEntry (htree.symm.trans ((hids processId).mp hnone))
      obtain ⟨node, hnode⟩ := Option.ne_none_iff_exists'.mp hpresent
      unfold dsProcessDeletionCallback
      rw [hnode, herase]
      dsimp only
      rw [ProcessTree.lookup_erase, hids id]
      by_cases hid : id = processId
      · rw [hid, Function.update_self]
        exact iff_of_true (Or.inl rfl) rfl
      · rw [Function.update_of_ne hid, or_iff_right hid]

end Refinement

end DeepShield.Pm.Creation
