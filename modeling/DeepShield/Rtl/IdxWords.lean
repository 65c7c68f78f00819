import DeepShield.Rtl.IdxList
import DeepShield.Rtl.IdxUnbounded
import Mathlib.Algebra.Group.Nat.Defs

/-!
# Index lists on machine words

`IdxListTable.unbounded` reads the indices and counts of a table as numbers. Each
function of `IdxList` is then the one of the same name in `IdxUnbounded`, as long as
nothing wraps: an insertion may not bring `NodeCount` to 2^32, and growing may not bring
`Size` there. Where growing does, the new block is smaller than the array that is copied
into it (`extendIdxList_wraps`).
-/

namespace DeepShield.Rtl

variable {α : Type}

/-! ## Words as numbers -/

def IdxListNode.unbounded (node : IdxListNode α) : Unbounded.IdxListNode α :=
  ⟨node.fidx.toNat, node.bidx.toNat, node.data⟩

/-- The nodes of an array; there are none from 2^32 on. -/
def unboundedNodes (nodes : UInt32 → IdxListNode α) (i : Nat) : Unbounded.IdxListNode α :=
  if i < 2 ^ 32 then (nodes (UInt32.ofNat i)).unbounded else Unbounded.emptyList

def IdxListTable.unbounded (table : IdxListTable α) : Unbounded.IdxListTable α where
  size := table.size.toNat
  nodeList := table.nodeList.map unboundedNodes
  nodeFreeList := table.nodeFreeList.toNat
  nodeCount := table.nodeCount.toNat

section Words

variable {nodes nodes' : UInt32 → IdxListNode α} {idx : UInt32}

theorem IdxListNode.unbounded_inj {node node' : IdxListNode α}
    (h : node.unbounded = node'.unbounded) : node = node' := by
  obtain ⟨hfidx, hbidx, hdata⟩ := Unbounded.IdxListNode.mk.inj h
  exact IdxListNode.ext (UInt32.toNat_inj.mp hfidx) (UInt32.toNat_inj.mp hbidx) hdata

theorem unboundedNodes_toNat (nodes : UInt32 → IdxListNode α) (idx : UInt32) :
    unboundedNodes nodes idx.toNat = (nodes idx).unbounded := by
  unfold unboundedNodes
  rw [if_pos idx.toNat_lt, UInt32.ofNat_toNat]

theorem unboundedNodes_inj (h : unboundedNodes nodes = unboundedNodes nodes') :
    nodes = nodes' := by
  funext idx
  refine IdxListNode.unbounded_inj ?_
  rw [← unboundedNodes_toNat, ← unboundedNodes_toNat, h]

/-- **A table is known by its numbers.** -/
theorem IdxListTable.unbounded_inj {table table' : IdxListTable α}
    (h : table.unbounded = table'.unbounded) : table = table' := by
  obtain ⟨hsize, hlist, hfree, hcount⟩ := Unbounded.IdxListTable.mk.inj h
  exact IdxListTable.ext (UInt32.toNat_inj.mp hsize)
    (Option.map_injective (fun _ _ => unboundedNodes_inj) hlist) (UInt32.toNat_inj.mp hfree)
    (UInt32.toNat_inj.mp hcount)

theorem unboundedNodes_update (node : IdxListNode α) :
    unboundedNodes (Function.update nodes idx node)
      = Function.update (unboundedNodes nodes) idx.toNat node.unbounded := by
  funext i
  by_cases hi : i = idx.toNat
  · rw [hi, unboundedNodes_toNat, Function.update_self, Function.update_self]
  · rw [Function.update_of_ne hi]
    unfold unboundedNodes
    split
    next hlt =>
      have hne : UInt32.ofNat i ≠ idx :=
        fun heq => hi (by rw [← heq, UInt32.toNat_ofNat_of_lt' hlt])
      rw [Function.update_of_ne hne]
    next => rfl

/-- The first nodes of one array and the rest of another. -/
theorem unboundedNodes_ite (size : UInt32) :
    (unboundedNodes fun idx => if idx < size then nodes idx else nodes' idx)
      = fun i => if i < size.toNat then unboundedNodes nodes i else unboundedNodes nodes' i := by
  have hsize := size.toNat_lt
  funext i
  unfold unboundedNodes
  by_cases hlt : i < 2 ^ 32
  · simp only [if_pos hlt, UInt32.lt_iff_toNat_lt, UInt32.toNat_ofNat_of_lt' hlt]
    split
    next => rfl
    next => rfl
  · simp only [if_neg hlt, ite_self]

end Words

/-! ## One access -/

section Access

variable {table table' : IdxListTable α} {idx : UInt32}

/-- A node is read where its number says. -/
theorem unbounded_node (table : IdxListTable α) (idx : UInt32) :
    table.unbounded.node idx.toNat = (table.node idx).map IdxListNode.unbounded := by
  obtain ⟨size, list, free, count⟩ := table
  cases list with
  | none =>
    unfold IdxListTable.node Unbounded.IdxListTable.node IdxListTable.unbounded
    simp only [Option.map_none, ← UInt32.toNat_inj, UInt32.toNat_zero]
    split
    next => rfl
    next => rfl
  | some nodes =>
    unfold IdxListTable.node Unbounded.IdxListTable.node IdxListTable.unbounded
    simp only [Option.map_some, ← UInt32.lt_iff_toNat_lt, unboundedNodes_toNat]
    split
    next => rfl
    next => rfl

/-- So is a node of the array. -/
theorem unbounded_nodes (table : IdxListTable α) (idx : UInt32) :
    table.unbounded.nodes idx.toNat = (table.nodes idx).unbounded := by
  unfold Unbounded.IdxListTable.nodes IdxListTable.nodes IdxListTable.unbounded
  cases table.nodeList with
  | none => rfl
  | some nodes => exact unboundedNodes_toNat nodes idx

/-- And a node is assigned to there. -/
theorem unbounded_store {assign : IdxListNode α → IdxListNode α}
    {assign' : Unbounded.IdxListNode α → Unbounded.IdxListNode α}
    (h : ∀ node, assign' node.unbounded = (assign node).unbounded) (table : IdxListTable α)
    (idx : UInt32) :
    table.unbounded.store idx.toNat assign'
      = (table.store idx assign).map IdxListTable.unbounded := by
  obtain ⟨size, list, free, count⟩ := table
  cases list with
  | none => rfl
  | some nodes =>
    unfold IdxListTable.store Unbounded.IdxListTable.store IdxListTable.unbounded
    simp only [Option.map_some, ← UInt32.lt_iff_toNat_lt, unboundedNodes_toNat, h]
    split
    next => simp only [Option.map_some, unboundedNodes_update]
    next => rfl

/-- An assignment to a node changes no count. -/
theorem store_nodeCount {assign : IdxListNode α → IdxListNode α}
    (h : table.store idx assign = some table') : table'.nodeCount = table.nodeCount := by
  unfold IdxListTable.store at h
  split at h
  next => exact absurd h (by simp)
  next =>
    split at h
    next =>
      obtain rfl := Option.some.inj h
      rfl
    next => exact absurd h (by simp)

/-- One access and what follows it. -/
theorem bind_unbounded {β β' γ γ' : Type} {word : β → β'} {words : γ → γ'} {x : Option β}
    {x' : Option β'} {f : β → Option γ} {f' : β' → Option γ'} (hx : x' = x.map word)
    (h : ∀ a, x = some a → f' (word a) = (f a).map words) :
    x'.bind f' = (x.bind f).map words := by
  rw [hx]
  cases x with
  | none => rfl
  | some a => exact h a rfl

end Access

/-! ## The functions -/

section Functions

variable {table : IdxListTable α} {idx : UInt32}

theorem unbounded_initializeIdxList :
    (initializeIdxList : IdxListTable α).unbounded = Unbounded.initializeIdxList := rfl

theorem unbounded_destroyIdxList (table : IdxListTable α) :
    (destroyIdxList table).unbounded = Unbounded.destroyIdxList table.unbounded := rfl

theorem unbounded_lookupNodeIdxList (table : IdxListTable α) (idx : UInt32) :
    Unbounded.lookupNodeIdxList table.unbounded idx.toNat = lookupNodeIdxList table idx := by
  have hsize : table.unbounded.size = table.size.toNat := rfl
  unfold Unbounded.lookupNodeIdxList lookupNodeIdxList
  simp only [unbounded_node, hsize, ← UInt32.lt_iff_toNat_lt]
  split
  next =>
    cases table.node idx with
    | none => rfl
    | some node => rfl
  next => rfl

/-- The data of the node that follows another. -/
theorem unbounded_following (table : IdxListTable α) (idx : UInt32) :
    (do
      let current ← table.unbounded.node idx.toNat
      let node ← table.unbounded.node current.fidx
      return node.data) = (do
      let current ← table.node idx
      let node ← table.node current.fidx
      return node.data) := by
  rw [unbounded_node]
  cases table.node idx with
  | none => rfl
  | some current =>
    show (table.unbounded.node current.fidx.toNat).bind _ = (table.node current.fidx).bind _
    rw [unbounded_node]
    cases table.node current.fidx with
    | none => rfl
    | some node => rfl

theorem unbounded_getHeadNodeIdxList (table : IdxListTable α) :
    Unbounded.getHeadNodeIdxList table.unbounded = getHeadNodeIdxList table := by
  have hsize : table.unbounded.size ≠ 0 ↔ table.size ≠ 0 :=
    not_congr (@UInt32.toNat_inj table.size 0)
  unfold Unbounded.getHeadNodeIdxList getHeadNodeIdxList
  simp only [hsize]
  split
  next => exact unbounded_following table 0
  next => rfl

theorem unbounded_getNextNodeIdxList (table : IdxListTable α) (idx : UInt32) :
    Unbounded.getNextNodeIdxList table.unbounded idx.toNat = getNextNodeIdxList table idx := by
  have hsize : table.unbounded.size = table.size.toNat := rfl
  unfold Unbounded.getNextNodeIdxList getNextNodeIdxList
  simp only [hsize, ← UInt32.lt_iff_toNat_lt]
  split
  next => exact unbounded_following table idx
  next => rfl

/-- The loop frees the nodes that it does with numbers. -/
theorem unbounded_extendLoop (size : UInt32) :
    ∀ {n : Nat} (_ : n ≤ 2 ^ 32) (nodes : UInt32 → IdxListNode α) (nodeFreeList : UInt32),
      Unbounded.extendLoop size.toNat n (unboundedNodes nodes) nodeFreeList.toNat
        = (unboundedNodes (extendLoop size n nodes nodeFreeList).1,
          (extendLoop size n nodes nodeFreeList).2.toNat) := by
  intro n
  induction n with
  | zero =>
    intro _ nodes nodeFreeList
    rfl
  | succ n ih =>
    intro hn nodes nodeFreeList
    have hword : (UInt32.ofNat n).toNat = n := UInt32.toNat_ofNat_of_lt' hn
    rw [extendLoop, Unbounded.extendLoop]
    by_cases hmore : n + 1 > size.toNat
    · rw [if_pos hmore, if_pos hmore, ← ih (Nat.le_of_succ_le hn), unboundedNodes_update, hword]
      have hnode := unboundedNodes_toNat nodes (UInt32.ofNat n)
      rw [hword] at hnode
      rw [hnode]
      rfl
    · rw [if_neg hmore, if_neg hmore]

/-- **Growing**, below 2^32 nodes. -/
theorem unbounded_extendIdxList (block : UInt32 → IdxListNode α)
    (hsize : table.size.toNat + 256 < 2 ^ 32) :
    ∃ grown, extendIdxList (some block) table = some (true, grown) ∧
      grown.nodeCount = table.nodeCount ∧
      Unbounded.extendIdxList (some (unboundedNodes block)) table.unbounded
        = some grown.unbounded := by
  have hgrown : (table.size + nodesPerPage).toNat = table.size.toNat + 256 := by
    rw [UInt32.toNat_add]
    exact Nat.mod_eq_of_lt hsize
  have hloop := unbounded_extendLoop table.size
    (Nat.le_of_lt (table.size + nodesPerPage).toNat_lt) block table.nodeFreeList
  cases hlist : table.nodeList with
  | none =>
    have hpos : 0 < table.size + nodesPerPage := by
      rw [UInt32.lt_iff_toNat_lt, hgrown]
      exact Nat.lt_of_lt_of_le (by decide) (Nat.le_add_left 256 _)
    unfold extendIdxList
    simp only [hlist, if_pos hpos]
    refine ⟨_, rfl, rfl, ?_⟩
    unfold Unbounded.extendIdxList IdxListTable.unbounded
    rw [hgrown] at hloop
    simp only [hlist, Option.map_some, Option.map_none, Unbounded.nodesPerPage, hloop,
      unboundedNodes_update, hgrown]
    rfl
  | some old =>
    have hle : table.size ≤ table.size + nodesPerPage := by
      rw [UInt32.le_iff_toNat_le, hgrown]
      exact Nat.le_add_right _ 256
    unfold extendIdxList
    simp only [hlist, if_pos hle]
    refine ⟨_, rfl, rfl, ?_⟩
    unfold Unbounded.extendIdxList IdxListTable.unbounded
    rw [hgrown] at hloop
    simp only [hlist, Option.map_some, Unbounded.nodesPerPage, hloop, unboundedNodes_ite, hgrown]

/-- **Where `Size` wraps**, all nodes are copied into a block of none. -/
theorem extendIdxList_wraps (block : UInt32 → IdxListNode α)
    (hsize : table.size.toNat + 256 = 2 ^ 32) (hlist : table.nodeList ≠ none) :
    extendIdxList (some block) table = none := by
  have hzero : table.size + nodesPerPage = 0 := by
    refine UInt32.toNat_inj.mp ?_
    rw [UInt32.toNat_add, show nodesPerPage.toNat = 256 from rfl, hsize]
    rfl
  have hlarge : ¬ table.size ≤ 0 := by
    rw [UInt32.le_iff_toNat_le, UInt32.toNat_zero]
    omega
  cases hold : table.nodeList with
  | none => exact absurd hold hlist
  | some old => simp only [extendIdxList, hold, hzero, if_neg hlarge]

/-- The assignments of an insertion. -/
theorem unbounded_insertFreeNode (data : Option α) (hcount : table.nodeCount.toNat + 1 < 2 ^ 32) :
    Unbounded.insertFreeNode data table.unbounded
      = (insertFreeNode data table).map fun r => (r.1.toNat, r.2.unbounded) := by
  unfold Unbounded.insertFreeNode insertFreeNode
  refine bind_unbounded (unbounded_node table table.nodeFreeList) fun node _ => ?_
  refine bind_unbounded (unbounded_store (fun _ => rfl)
    { table with nodeFreeList := node.fidx } table.nodeFreeList) fun table₁ h₁ => ?_
  refine bind_unbounded (unbounded_node table₁ 0) fun head _ => ?_
  refine bind_unbounded (unbounded_store (fun _ => rfl) table₁ table.nodeFreeList)
    fun table₂ h₂ => ?_
  refine bind_unbounded (unbounded_store (fun _ => rfl) table₂ 0) fun table₃ h₃ => ?_
  refine bind_unbounded (unbounded_store (fun _ => rfl) table₃ table.nodeFreeList)
    fun table₄ h₄ => ?_
  refine bind_unbounded (unbounded_node table₄ table.nodeFreeList) fun first _ => ?_
  refine bind_unbounded (unbounded_store (fun _ => rfl) table₄ first.fidx) fun table₅ h₅ => ?_
  have hfirst : table₁.nodeCount = table.nodeCount :=
    (store_nodeCount h₁).trans rfl
  have hsame : table₅.nodeCount = table.nodeCount :=
    (store_nodeCount h₅).trans ((store_nodeCount h₄).trans ((store_nodeCount h₃).trans
      ((store_nodeCount h₂).trans hfirst)))
  have hnext : (table₅.nodeCount + 1).toNat = table₅.nodeCount.toNat + 1 := by
    rw [UInt32.toNat_add, hsame]
    exact Nat.mod_eq_of_lt hcount
  rw [Option.pure_def, Option.pure_def, Option.map_some]
  unfold IdxListTable.unbounded
  rw [hnext]

/-- **`InsertHeadIdxList`**, if it need not grow to 2^32 nodes. -/
theorem unbounded_insertHeadIdxList {block : Option (UInt32 → IdxListNode α)} (data : Option α)
    (hcount : table.nodeCount.toNat + 1 < 2 ^ 32)
    (hroom : table.nodeFreeList = 0 → block = none ∨ table.size.toNat + 256 < 2 ^ 32) :
    Unbounded.insertHeadIdxList (block.map unboundedNodes) data table.unbounded
      = (insertHeadIdxList block data table).map fun r => (r.1.toNat, r.2.unbounded) := by
  have hfree : table.unbounded.nodeFreeList = 0 ↔ table.nodeFreeList = 0 :=
    @UInt32.toNat_inj table.nodeFreeList 0
  unfold Unbounded.insertHeadIdxList insertHeadIdxList
  simp only [hfree]
  by_cases hfull : table.nodeFreeList = 0
  · rw [if_pos hfull, if_pos hfull]
    cases block with
    | none => rfl
    | some block =>
      have hsize := (hroom hfull).resolve_left (by simp)
      obtain ⟨grown, hextend, hkept, hunbounded⟩ := unbounded_extendIdxList block hsize
      rw [Option.map_some, hunbounded, hextend]
      exact unbounded_insertFreeNode data (by rw [hkept]; exact hcount)
  · rw [if_neg hfull, if_neg hfull]
    exact unbounded_insertFreeNode data hcount

/-- **`RemoveNodeIdxList`**, if a live node is counted. -/
theorem unbounded_removeNodeIdxList (idx : UInt32)
    (hcount : ∀ idx node, table.node idx = some node → node.data ≠ none →
      0 < table.nodeCount.toNat) :
    Unbounded.removeNodeIdxList table.unbounded idx.toNat
      = (removeNodeIdxList table idx).map fun r => (r.1, r.2.unbounded) := by
  have hguard : (idx.toNat ≥ table.unbounded.size ∨ idx.toNat = 0) ↔
      (idx ≥ table.size ∨ idx = 0) := by
    rw [ge_iff_le, ge_iff_le, UInt32.le_iff_toNat_le, ← UInt32.toNat_inj]
    rfl
  unfold Unbounded.removeNodeIdxList removeNodeIdxList
  simp only [hguard]
  split
  next => rfl
  next =>
    refine bind_unbounded (unbounded_node table idx) fun node hnode => ?_
    cases hdata : node.data with
    | none =>
      simp only [IdxListNode.unbounded, hdata]
      rfl
    | some data =>
      have hlive := hcount idx node hnode (by rw [hdata]; exact Option.some_ne_none data)
      simp only [IdxListNode.unbounded, hdata]
      refine bind_unbounded (unbounded_store (fun _ => rfl) table node.fidx) fun table₁ h₁ => ?_
      refine bind_unbounded (unbounded_node table₁ idx) fun current _ => ?_
      refine bind_unbounded (unbounded_store (fun _ => rfl) table₁ current.bidx)
        fun table₂ h₂ => ?_
      refine bind_unbounded (unbounded_store (fun _ => rfl) table₂ idx) fun table₃ h₃ => ?_
      refine bind_unbounded (unbounded_store (fun _ => rfl) table₃ idx) fun table₄ h₄ => ?_
      have hsame : table₄.nodeCount = table.nodeCount :=
        (store_nodeCount h₄).trans ((store_nodeCount h₃).trans
          ((store_nodeCount h₂).trans (store_nodeCount h₁)))
      have hless : (table₄.nodeCount - 1).toNat = table₄.nodeCount.toNat - 1 := by
        refine UInt32.toNat_sub_of_le _ _ ?_
        rw [UInt32.le_iff_toNat_le, hsame]
        exact hlive
      show some _ = some (_, IdxListTable.unbounded _)
      unfold IdxListTable.unbounded
      rw [hless]

/-- **`RemoveHeadIdxList`**, likewise. -/
theorem unbounded_removeHeadIdxList
    (hcount : ∀ idx node, table.node idx = some node → node.data ≠ none →
      0 < table.nodeCount.toNat) :
    Unbounded.removeHeadIdxList table.unbounded
      = (removeHeadIdxList table).map fun r => (r.1, r.2.unbounded) :=
  bind_unbounded (unbounded_node table 0) fun head _ =>
    unbounded_removeNodeIdxList head.fidx hcount

end Functions

end DeepShield.Rtl
