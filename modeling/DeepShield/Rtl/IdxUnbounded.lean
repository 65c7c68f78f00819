import DeepShield.Lib.Links

/-!
# Index lists without a bound

The index list of `IdxList`, with numbers for its indices and counts. It grows for as
long as the pool gives it blocks, and no index ever wraps. `IdxWords` proves that the
table on machine words does the same until it has 2^32 - 256 nodes, and that is what
the two are for: here are the links and the entries, there is the arithmetic.

The process monitor uses these. A list of its own has one node for each excluded thread
of one process, which holds a reference to the thread.
-/

namespace DeepShield.Rtl.Unbounded

variable {α : Type}

/-- `IDXLIST_NODE`. -/
structure IdxListNode (α : Type) where
  fidx : Nat
  bidx : Nat
  data : Option α

/-- `EmptyList`. -/
def emptyList : IdxListNode α := ⟨0, 0, none⟩

/-- `IDXLIST_TABLE`; `nodeList` is none for `&EmptyList`. -/
structure IdxListTable (α : Type) where
  size : Nat
  nodeList : Option (Nat → IdxListNode α)
  nodeFreeList : Nat
  nodeCount : Nat

/-- `PAGE_SIZE / sizeof( IDXLIST_NODE )`. -/
def nodesPerPage : Nat := 256

namespace IdxListTable

/-- The array behind `NodeList`. -/
def nodes (table : IdxListTable α) : Nat → IdxListNode α :=
  table.nodeList.getD fun _ => emptyList

/-- `Table->NodeList[idx]`, read. -/
def node (table : IdxListTable α) (idx : Nat) : Option (IdxListNode α) :=
  match table.nodeList with
  | none => if idx = 0 then some emptyList else none
  | some nodes => if idx < table.size then some (nodes idx) else none

/-- `Table->NodeList[idx]`, assigned to. -/
def store (table : IdxListTable α) (idx : Nat) (assign : IdxListNode α → IdxListNode α) :
    Option (IdxListTable α) :=
  match table.nodeList with
  | none => none
  | some nodes =>
    if idx < table.size then
      some { table with nodeList := some (Function.update nodes idx (assign (nodes idx))) }
    else none

end IdxListTable

/-- `InitializeIdxList`. -/
def initializeIdxList : IdxListTable α := ⟨0, none, 0, 0⟩

/-- `DestroyIdxList`. -/
def destroyIdxList (table : IdxListTable α) : IdxListTable α :=
  { table with
    size := 0
    nodeList := none
    nodeFreeList := 0
    nodeCount := 0 }

/-- `GetNodeCountIdxList`. -/
def getNodeCountIdxList (table : IdxListTable α) : Nat := table.nodeCount

/-- `LookupNodeIdxList`. -/
def lookupNodeIdxList (table : IdxListTable α) (idx : Nat) : Option (Option α) :=
  if idx < table.size then do
    let node ← table.node idx
    return node.data
  else some none

/-- `GetHeadNodeIdxList`. -/
def getHeadNodeIdxList (table : IdxListTable α) : Option (Option α) :=
  if table.size ≠ 0 then do
    let head ← table.node 0
    let node ← table.node head.fidx
    return node.data
  else some none

/-- `GetNextNodeIdxList`. -/
def getNextNodeIdxList (table : IdxListTable α) (idx : Nat) : Option (Option α) :=
  if idx < table.size then do
    let current ← table.node idx
    let node ← table.node current.fidx
    return node.data
  else some none

/-- The loop of `ExtendIdxList`: the nodes of the new block from the end down to
`size` go to the free list. -/
def extendLoop (size : Nat) : Nat → (Nat → IdxListNode α) → Nat → (Nat → IdxListNode α) × Nat
  | 0, nodes, nodeFreeList => (nodes, nodeFreeList)
  | idx + 1, nodes, nodeFreeList =>
    if idx + 1 > size then
      extendLoop size idx
        (Function.update nodes idx { nodes idx with
          data := none
          fidx := nodeFreeList }) idx
    else (nodes, nodeFreeList)

/-- `ExtendIdxList`, none for FALSE. `block` is what `ExAllocatePoolWithTag`
returns, with whatever the pool left in it, none for NULL. -/
def extendIdxList (block : Option (Nat → IdxListNode α)) (table : IdxListTable α) :
    Option (IdxListTable α) :=
  block.map fun nodes =>
    let size := table.size + nodesPerPage
    match extendLoop table.size size nodes table.nodeFreeList with
    | (nodes, nodeFreeList) =>
      match table.nodeList with
      | some old =>
        { table with
          nodeList := some fun idx => if idx < table.size then old idx else nodes idx
          nodeFreeList := nodeFreeList
          size := size }
      | none =>
        { table with
          nodeList := some (Function.update nodes 0 { nodes 0 with
            fidx := 0
            bidx := 0 })
          nodeFreeList := 1
          size := size }

/-- `InsertHeadIdxList` once there is a free node. -/
def insertFreeNode (data : Option α) (table : IdxListTable α) :
    Option (Nat × IdxListTable α) := do
  let idx := table.nodeFreeList
  let node ← table.node idx
  let table := { table with nodeFreeList := node.fidx }
  let table ← table.store idx fun node => { node with data := data }
  let head ← table.node 0
  let table ← table.store idx fun node => { node with fidx := head.fidx }
  let table ← table.store 0 fun node => { node with fidx := idx }
  let table ← table.store idx fun node => { node with bidx := 0 }
  let node ← table.node idx
  let table ← table.store node.fidx fun node => { node with bidx := idx }
  return (idx, { table with nodeCount := table.nodeCount + 1 })

/-- `InsertHeadIdxList`: the index, 0 if there is no node for it. -/
def insertHeadIdxList (block : Option (Nat → IdxListNode α)) (data : Option α)
    (table : IdxListTable α) : Option (Nat × IdxListTable α) :=
  if table.nodeFreeList = 0 then
    match extendIdxList block table with
    | none => some (0, table)
    | some table => insertFreeNode data table
  else insertFreeNode data table

/-- `RemoveNodeIdxList`. -/
def removeNodeIdxList (table : IdxListTable α) (idx : Nat) :
    Option (Option α × IdxListTable α) :=
  if idx ≥ table.size ∨ idx = 0 then some (none, table)
  else do
    let node ← table.node idx
    match node.data with
    | none => return (none, table)
    | some data =>
      let table ← table.store node.fidx fun next => { next with bidx := node.bidx }
      let node ← table.node idx
      let table ← table.store node.bidx fun previous => { previous with fidx := node.fidx }
      let table ← table.store idx fun node => { node with data := none }
      let table ← table.store idx fun node => { node with fidx := table.nodeFreeList }
      return (some data, { table with
        nodeFreeList := idx
        nodeCount := table.nodeCount - 1 })

/-- `RemoveHeadIdxList`. -/
def removeHeadIdxList (table : IdxListTable α) : Option (Option α × IdxListTable α) := do
  let head ← table.node 0
  removeNodeIdxList table head.fidx

end DeepShield.Rtl.Unbounded
