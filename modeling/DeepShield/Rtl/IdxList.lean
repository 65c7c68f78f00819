import Mathlib.Logic.Function.Basic

/-!
# Index lists

An `IDXLIST_TABLE` maps indices to pointers. Its nodes are one array, which grows
by reallocation, and all links are indices into it: node 0 is the head of a
doubly linked list of the live nodes, and the dead ones are chained through `Fidx`
from `NodeFreeList`. Index 0 is also what ends both lists. A table that never
grew has the shared node `EmptyList` for an array.

A node is read and written through `node` and `store`. They give none where the
source would go past the end of the array, or write to `EmptyList`, and so does
`extendIdxList` where it would write past the end of the new block; so a result
that is not none says that nothing of the kind happened.

Indices and counts are `ULONG32`, and so is the size that `ExtendIdxList` computes.
-/

namespace DeepShield.Rtl

variable {α : Type}

/-- `IDXLIST_NODE`. -/
@[ext] structure IdxListNode (α : Type) where
  fidx : UInt32
  bidx : UInt32
  data : Option α

/-- `EmptyList`. -/
def emptyList : IdxListNode α := ⟨0, 0, none⟩

/-- `IDXLIST_TABLE`; `nodeList` is none for `&EmptyList`. -/
@[ext] structure IdxListTable (α : Type) where
  size : UInt32
  nodeList : Option (UInt32 → IdxListNode α)
  nodeFreeList : UInt32
  nodeCount : UInt32

/-- `PAGE_SIZE / sizeof( IDXLIST_NODE )`. -/
def nodesPerPage : UInt32 := 256

namespace IdxListTable

/-- The array behind `NodeList`. -/
def nodes (table : IdxListTable α) : UInt32 → IdxListNode α :=
  table.nodeList.getD fun _ => emptyList

/-- `Table->NodeList[idx]`, read. -/
def node (table : IdxListTable α) (idx : UInt32) : Option (IdxListNode α) :=
  match table.nodeList with
  | none => if idx = 0 then some emptyList else none
  | some nodes => if idx < table.size then some (nodes idx) else none

/-- `Table->NodeList[idx]`, assigned to. -/
def store (table : IdxListTable α) (idx : UInt32) (assign : IdxListNode α → IdxListNode α) :
    Option (IdxListTable α) :=
  match table.nodeList with
  | none => none
  | some nodes =>
    if idx < table.size then
      some { table with nodeList := some (Function.update nodes idx (assign (nodes idx))) }
    else none

end IdxListTable

/-- `InitializeIdxList`. -/
def initializeIdxList : IdxListTable α := ⟨0, none, 0, 0⟩

/-- `DestroyIdxList`. -/
def destroyIdxList (table : IdxListTable α) : IdxListTable α :=
  { table with
    size := 0
    nodeList := none
    nodeFreeList := 0
    nodeCount := 0 }

/-- `GetNodeCountIdxList`. -/
def getNodeCountIdxList (table : IdxListTable α) : UInt32 := table.nodeCount

/-- `LookupNodeIdxList`. -/
def lookupNodeIdxList (table : IdxListTable α) (idx : UInt32) : Option (Option α) :=
  if idx < table.size then do
    let node ← table.node idx
    return node.data
  else some none

/-- `GetHeadNodeIdxList`. -/
def getHeadNodeIdxList (table : IdxListTable α) : Option (Option α) :=
  if table.size ≠ 0 then do
    let head ← table.node 0
    let node ← table.node head.fidx
    return node.data
  else some none

/-- `GetNextNodeIdxList`. -/
def getNextNodeIdxList (table : IdxListTable α) (idx : UInt32) : Option (Option α) :=
  if idx < table.size then do
    let current ← table.node idx
    let node ← table.node current.fidx
    return node.data
  else some none

/-- The loop of `ExtendIdxList`: `Idx` goes from the size of the new block down to
`size`, and the nodes go to the free list. -/
def extendLoop (size : UInt32) : Nat → (UInt32 → IdxListNode α) → UInt32 →
    (UInt32 → IdxListNode α) × UInt32
  | 0, nodes, nodeFreeList => (nodes, nodeFreeList)
  | idx + 1, nodes, nodeFreeList =>
    if idx + 1 > size.toNat then
      extendLoop size idx
        (Function.update nodes (UInt32.ofNat idx) { nodes (UInt32.ofNat idx) with
          data := none
          fidx := nodeFreeList }) (UInt32.ofNat idx)
    else (nodes, nodeFreeList)

/-- `ExtendIdxList`: its result, and the table. `block` is what `ExAllocatePoolWithTag`
returns, with whatever the pool left in it, none for NULL; it has `Size` nodes. -/
def extendIdxList (block : Option (UInt32 → IdxListNode α)) (table : IdxListTable α) :
    Option (Bool × IdxListTable α) :=
  let size := table.size + nodesPerPage
  match block with
  | none => some (false, table)
  | some nodes =>
    match extendLoop table.size size.toNat nodes table.nodeFreeList with
    | (nodes, nodeFreeList) =>
      match table.nodeList with
      | some old =>
        -- RtlCopyMemory of all the old nodes
        if table.size ≤ size then
          some (true, { table with
            nodeList := some fun idx => if idx < table.size then old idx else nodes idx
            nodeFreeList := nodeFreeList
            size := size })
        else none
      | none =>
        if 0 < size then
          some (true, { table with
            nodeList := some (Function.update nodes 0 { nodes 0 with
              fidx := 0
              bidx := 0 })
            nodeFreeList := 1
            size := size })
        else none

/-- `InsertHeadIdxList` once there is a free node. -/
def insertFreeNode (data : Option α) (table : IdxListTable α) :
    Option (UInt32 × IdxListTable α) := do
  let idx := table.nodeFreeList
  let node ← table.node idx
  let table := { table with nodeFreeList := node.fidx }
  let table ← table.store idx fun node => { node with data := data }
  let head ← table.node 0
  let table ← table.store idx fun node => { node with fidx := head.fidx }
  let table ← table.store 0 fun node => { node with fidx := idx }
  let table ← table.store idx fun node => { node with bidx := 0 }
  let node ← table.node idx
  let table ← table.store node.fidx fun node => { node with bidx := idx }
  return (idx, { table with nodeCount := table.nodeCount + 1 })

/-- `InsertHeadIdxList`: the index, 0 if there is no node for it. -/
def insertHeadIdxList (block : Option (UInt32 → IdxListNode α)) (data : Option α)
    (table : IdxListTable α) : Option (UInt32 × IdxListTable α) :=
  if table.nodeFreeList = 0 then do
    match ← extendIdxList block table with
    | (false, table) => return (0, table)
    | (true, table) => insertFreeNode data table
  else insertFreeNode data table

/-- `RemoveNodeIdxList`. -/
def removeNodeIdxList (table : IdxListTable α) (idx : UInt32) :
    Option (Option α × IdxListTable α) :=
  if idx ≥ table.size ∨ idx = 0 then some (none, table)
  else do
    let node ← table.node idx
    match node.data with
    | none => return (none, table)
    | some data =>
      let table ← table.store node.fidx fun next => { next with bidx := node.bidx }
      let node ← table.node idx
      let table ← table.store node.bidx fun previous => { previous with fidx := node.fidx }
      let table ← table.store idx fun node => { node with data := none }
      let table ← table.store idx fun node => { node with fidx := table.nodeFreeList }
      return (some data, { table with
        nodeFreeList := idx
        nodeCount := table.nodeCount - 1 })

/-- `RemoveHeadIdxList`. -/
def removeHeadIdxList (table : IdxListTable α) : Option (Option α × IdxListTable α) := do
  let head ← table.node 0
  removeNodeIdxList table head.fidx

end DeepShield.Rtl
