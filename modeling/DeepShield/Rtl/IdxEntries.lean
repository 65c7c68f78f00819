import DeepShield.Rtl.IdxUnbounded
import Mathlib.Data.List.Perm.Subperm
import Mathlib.Data.List.Range

/-!
# The entries of an index list

What an index list is for: a list of entries, each a pointer under an index,
newest first. `Represents table entries free` says that `table` is such a list
and that `free` are its dead nodes in the order they will be used. Its fields are
what the operations keep.

Each operation has one lemma, which says that it accesses nodes of the array only
and what list there is afterwards. An insertion uses the first dead node, or fails
and changes nothing; growing keeps every index; removing a live node drops its
entry and makes it the first dead one; removing a dead one changes nothing.
-/

namespace DeepShield.Rtl.Unbounded

open DeepShield.Lib

variable {α : Type}

namespace IdxListTable

/-- The links of the nodes. -/
def links (table : IdxListTable α) : Links Nat where
  next idx := (table.nodes idx).fidx
  prev idx := (table.nodes idx).bidx

/-- The live nodes are those of `entries`, the dead ones `free`. -/
structure Represents (table : IdxListTable α) (entries : List (Nat × α)) (free : List Nat) :
    Prop where
  array : table.nodeList = none ↔ table.size = 0
  head : (table.nodes 0).fidx = (entries.map Prod.fst).headD 0
  linked : table.links.Linked 0 (entries.map Prod.fst) 0
  freeList : Links.Path table.links.next table.nodeFreeList free 0
  nodup : (entries.map Prod.fst ++ free).Nodup
  indices : ∀ idx, idx ∈ entries.map Prod.fst ++ free ↔ 0 < idx ∧ idx < table.size
  live : ∀ entry ∈ entries, (table.nodes entry.1).data = some entry.2
  dead : ∀ idx ∈ 0 :: free, (table.nodes idx).data = none
  count : table.nodeCount = entries.length

/-! ## Nodes of the array -/

section Nodes

variable {table : IdxListTable α} {nodes : Nat → IdxListNode α} {idx : Nat}

theorem nodes_some (h : table.nodeList = some nodes) : table.nodes = nodes := by
  rw [IdxListTable.nodes, h]
  rfl

theorem nodes_none (h : table.nodeList = none) : table.nodes = fun _ => emptyList := by
  rw [IdxListTable.nodes, h]
  rfl

theorem node_eq (h : table.nodeList = some nodes) (hidx : idx < table.size) :
    table.node idx = some (nodes idx) := by
  rw [node, h]
  exact if_pos hidx

end Nodes

/-! ## What an array of nodes gives -/

section Represents

variable {table : IdxListTable α} {entries : List (Nat × α)} {free : List Nat} {idx : Nat}

/-- A table with a live or a dead node has an array. -/
theorem Represents.nodeList (h : table.Represents entries free)
    (hidx : idx ∈ entries.map Prod.fst ++ free) : table.nodeList = some table.nodes := by
  have hsize := (h.indices idx).mp hidx
  cases hlist : table.nodeList with
  | none =>
    have hzero := h.array.mp hlist
    omega
  | some nodes => rw [nodes_some hlist]

/-- The first dead node. -/
theorem Represents.nodeFreeList (h : table.Represents entries free) :
    table.nodeFreeList = free.headD 0 := h.freeList.start

/-- There is a dead node exactly if the free list says so. -/
theorem Represents.nodeFreeList_eq_zero (h : table.Represents entries free) :
    table.nodeFreeList = 0 ↔ free = [] := by
  rw [h.nodeFreeList]
  cases free with
  | nil => exact ⟨fun _ => rfl, fun _ => rfl⟩
  | cons idx free =>
    have hpos := ((h.indices idx).mp (by simp)).1
    constructor
    · intro hzero
      exact absurd (show idx = 0 from hzero) (Nat.ne_of_gt hpos)
    · intro hnil
      exact absurd hnil (by simp)

/-- The indices of the entries are non-zero and differ. -/
theorem Represents.ids (h : table.Represents entries free) :
    (entries.map Prod.fst).Nodup ∧ 0 ∉ entries.map Prod.fst := by
  refine ⟨(List.nodup_append.mp h.nodup).1, fun hzero => ?_⟩
  exact absurd ((h.indices 0).mp (List.mem_append_left free hzero)).1 (Nat.lt_irrefl 0)

/-- There are no more entries than nodes. -/
theorem Represents.length_le (h : table.Represents entries free) :
    entries.length ≤ table.size := by
  have hsubset : entries.map Prod.fst ⊆ List.range table.size := fun i hi =>
    List.mem_range.mpr ((h.indices i).mp (List.mem_append_left free hi)).2
  have hle := (h.ids.1.subperm hsubset).length_le
  rwa [List.length_map, List.length_range] at hle

/-- The head of the list is in the array. -/
theorem Represents.head_lt (h : table.Represents entries free)
    (hidx : idx ∈ entries.map Prod.fst ++ free) : (table.nodes 0).fidx < table.size := by
  have hsize := (h.indices idx).mp hidx
  rw [h.head]
  rcases Links.headD_mem (entries.map Prod.fst) 0 with hzero | hmem
  · rw [hzero]
    omega
  · exact ((h.indices _).mp (List.mem_append_left free hmem)).2

end Represents

/-- `InitializeIdxList` makes an empty list. -/
theorem represents_initializeIdxList : (initializeIdxList : IdxListTable α).Represents [] [] where
  array := ⟨fun _ => rfl, fun _ => rfl⟩
  head := rfl
  linked := trivial
  freeList := rfl
  nodup := List.nodup_nil
  indices idx :=
    ⟨fun hidx => absurd hidx (by simp), fun hidx => absurd hidx.2 (Nat.not_lt_zero idx)⟩
  live entry hentry := absurd hentry (by simp)
  dead idx hidx := rfl
  count := rfl

/-! ## Inserting -/

section Insert

variable {table : IdxListTable α} {entries : List (Nat × α)} {free : List Nat} {idx : Nat}

/-- The array after an insertion at `idx`. -/
def insertedNodes (nodes : Nat → IdxListNode α) (idx : Nat) (data : Option α) (i : Nat) :
    IdxListNode α where
  fidx := if i = 0 then idx else if i = idx then (nodes 0).fidx else (nodes i).fidx
  bidx := if i = (nodes 0).fidx then idx else if i = idx then 0 else (nodes i).bidx
  data := if i = idx then data else (nodes i).data

/-- The assignments of `InsertHeadIdxList`, made one after the other. -/
theorem insertFreeNode_eq {nodes : Nat → IdxListNode α} {data : Option α}
    (hlist : table.nodeList = some nodes) (hidx : table.nodeFreeList < table.size)
    (hpos : 0 < table.nodeFreeList) (hhead : (nodes 0).fidx < table.size)
    (hne : (nodes 0).fidx ≠ table.nodeFreeList) :
    insertFreeNode data table
      = some (table.nodeFreeList, { table with
          nodeList := some (insertedNodes nodes table.nodeFreeList data)
          nodeFreeList := (nodes table.nodeFreeList).fidx
          nodeCount := table.nodeCount + 1 }) := by
  obtain ⟨size, list, idx, count⟩ := table
  simp only at hlist hidx hpos hhead hne
  subst hlist
  have hzero : 0 < size := Nat.lt_trans hpos hidx
  have hidxne : idx ≠ 0 := Nat.ne_of_gt hpos
  simp only [insertFreeNode, node, store, hidx, hzero, hhead, hidxne, Ne.symm hidxne, if_true,
    Option.bind_eq_bind, Option.bind_some, Option.pure_def, Function.update_self, ne_eq,
    not_false_eq_true, Function.update_of_ne, Option.some.injEq, Prod.mk.injEq, mk.injEq,
    true_and, and_true]
  funext i
  by_cases hi0 : i = 0
  · by_cases hzerohead : (nodes 0).fidx = 0
    · simp [insertedNodes, hi0, hzerohead, Ne.symm hidxne]
    · simp [insertedNodes, hi0, Ne.symm hidxne, Ne.symm hzerohead]
  · by_cases hnew : i = idx
    · simp [insertedNodes, hnew, hidxne, Ne.symm hne]
    · by_cases hold : i = (nodes 0).fidx
      · have hheadne : (nodes 0).fidx ≠ 0 := hold ▸ hi0
        simp [insertedNodes, hold, hne, hheadne]
      · simp [insertedNodes, hi0, hnew, hold]

/-- The links of all nodes but node 0 are those after a push. -/
theorem insertedNodes_fidx {i : Nat} (data : Option α) (hnull : i ≠ 0) :
    (insertedNodes table.nodes idx data i).fidx
      = (table.links.push 0 (table.nodes 0).fidx idx).next i := by
  rw [Links.push_next]
  exact if_neg hnull

theorem insertedNodes_bidx {i : Nat} (data : Option α) (hnull : i ≠ 0) :
    (insertedNodes table.nodes idx data i).bidx
      = (table.links.push 0 (table.nodes 0).fidx idx).prev i := by
  rw [Links.push_prev]
  show (if i = (table.nodes 0).fidx then idx else if i = idx then 0 else _) = _
  by_cases hfirst : i = (table.nodes 0).fidx
  · rw [if_pos hfirst, if_pos ⟨hfirst, hfirst ▸ hnull⟩]
  · have hfirst' : ¬ (i = (table.nodes 0).fidx ∧ (table.nodes 0).fidx ≠ 0) :=
      fun hk => hfirst hk.1
    rw [if_neg hfirst, if_neg hfirst']
    rfl

/-- **Inserting** at the first dead node. -/
theorem Represents.insertFreeNode (h : table.Represents entries (idx :: free)) (data : α) :
    ∃ table', insertFreeNode (some data) table = some (idx, table') ∧
      table'.Represents ((idx, data) :: entries) free := by
  have hmem : idx ∈ entries.map Prod.fst ++ idx :: free := by simp
  have hlist := h.nodeList hmem
  have hfree : table.nodeFreeList = idx := h.nodeFreeList
  obtain ⟨hpos, hlt⟩ := (h.indices idx).mp hmem
  obtain ⟨hids, hzero⟩ := h.ids
  have hperm := @List.perm_middle _ idx (entries.map Prod.fst) free
  obtain ⟨hnew, hrest⟩ := List.nodup_cons.mp (hperm.nodup_iff.mp h.nodup)
  have hidx : idx ∉ entries.map Prod.fst := fun hk => hnew (List.mem_append_left free hk)
  have hhead : (table.nodes 0).fidx ≠ idx := by
    rw [h.head]
    rcases Links.headD_mem (entries.map Prod.fst) 0 with hnull | hfirst
    · rw [hnull]
      exact Nat.ne_of_lt hpos
    · exact ne_of_mem_of_not_mem hfirst hidx
  have heq := @insertFreeNode_eq _ table _ (some data) hlist (hfree ▸ hlt) (hfree ▸ hpos)
    (h.head_lt hmem) (hfree ▸ hhead)
  rw [hfree] at heq
  refine ⟨_, heq, ⟨?_, ?_, ?_, ?_, ?_, ?_, ?_, ?_, ?_⟩⟩
  · exact iff_of_false (fun hk => absurd hk (by simp)) (Nat.ne_of_gt (Nat.lt_trans hpos hlt))
  · rfl
  · -- node 0 is on no list, so that its links change does not matter
    have hnull : ∀ y ∈ idx :: entries.map Prod.fst, y ≠ 0 := by
      intro y hy heq0
      rcases List.mem_cons.mp hy with hself | hold
      · exact Nat.ne_of_gt hpos (hself ▸ heq0)
      · exact hzero (heq0 ▸ hold)
    refine (h.linked.push hids hzero hidx).congr (fun y hy => ?_) (fun y hy => ?_)
    · rw [← h.head]
      exact insertedNodes_fidx (some data) (hnull y hy)
    · rw [← h.head]
      exact insertedNodes_bidx (some data) (hnull y hy)
  · refine h.freeList.2.congr fun y hy => ?_
    have hyidx : y ≠ idx := fun hk => hnew (List.mem_append_right _ (hk ▸ hy))
    have hy0 : y ≠ 0 :=
      Nat.ne_of_gt ((h.indices y).mp (List.mem_append_right _ (List.mem_cons_of_mem idx hy))).1
    show (if y = 0 then idx else if y = idx then _ else _) = _
    rw [if_neg hy0, if_neg hyidx]
    rfl
  · exact hperm.nodup_iff.mp h.nodup
  · intro y
    exact hperm.mem_iff.symm.trans (h.indices y)
  · intro entry hentry
    show (if entry.1 = idx then some data else _) = _
    rcases List.mem_cons.mp hentry with hnull | hold
    · rw [hnull, if_pos rfl]
    · have hne : entry.1 ≠ idx := fun hk => hidx (hk ▸ List.mem_map_of_mem hold)
      rw [if_neg hne]
      exact h.live entry hold
  · intro y hy
    have hyidx : y ≠ idx := by
      rcases List.mem_cons.mp hy with hnull | hold
      · rw [hnull]
        exact Nat.ne_of_lt hpos
      · exact fun hk => hnew (List.mem_append_right _ (hk ▸ hold))
    show (if y = idx then some data else _) = none
    rw [if_neg hyidx]
    refine h.dead y ?_
    rcases List.mem_cons.mp hy with hnull | hold
    · exact List.mem_cons.mpr (Or.inl hnull)
    · exact List.mem_cons_of_mem 0 (List.mem_cons_of_mem idx hold)
  · show table.nodeCount + 1 = _
    rw [h.count]
    rfl

end Insert

/-! ## Growing -/

section Extend

variable {table : IdxListTable α} {entries : List (Nat × α)} {idx size free : Nat}

/-- The nodes from `size` up to `idx` on the free list. -/
def freedNodes (size idx : Nat) (nodes : Nat → IdxListNode α) (free : Nat) (i : Nat) :
    IdxListNode α :=
  if size ≤ i ∧ i < idx then { nodes i with
    data := none
    fidx := if i + 1 = idx then free else i + 1 }
  else nodes i

/-- The loop frees all new nodes. -/
theorem extendLoop_eq (h : size ≤ idx) (nodes : Nat → IdxListNode α) (free : Nat) :
    extendLoop size idx nodes free
      = (freedNodes size idx nodes free, if size < idx then size else free) := by
  induction idx generalizing nodes free with
  | zero =>
    have hnone : freedNodes size 0 nodes free = nodes := by
      funext i
      exact if_neg (fun hk => Nat.not_lt_zero i hk.2)
    rw [hnone, if_neg (Nat.not_lt_zero size)]
    rfl
  | succ idx ih =>
    rw [extendLoop]
    by_cases hmore : size < idx + 1
    · rw [if_pos hmore, if_pos hmore, ih (Nat.le_of_lt_succ hmore)]
      refine Prod.ext (funext fun i => ?_) ?_
      · show freedNodes _ _ _ _ i = freedNodes _ _ _ _ i
        unfold freedNodes
        by_cases hlast : i = idx
        · have hin : size ≤ i ∧ i < idx + 1 := by omega
          have hout : ¬ (size ≤ i ∧ i < idx) := by omega
          rw [if_pos hin, if_neg hout, hlast, Function.update_self, if_pos rfl]
        · by_cases hin : size ≤ i ∧ i < idx
          · have hin' : size ≤ i ∧ i < idx + 1 := by omega
            have hnext : (if i + 1 = idx then idx else i + 1) = i + 1 := by
              split
              next heq => exact heq.symm
              next => rfl
            have hnext' : i + 1 ≠ idx + 1 := by omega
            rw [if_pos hin, if_pos hin', Function.update_of_ne hlast, hnext, if_neg hnext']
          · have hout : ¬ (size ≤ i ∧ i < idx + 1) := by omega
            rw [if_neg hin, if_neg hout, Function.update_of_ne hlast]
      · show (if size < idx then size else idx) = size
        split
        next => rfl
        next hge => omega
    · have hnone : freedNodes size (idx + 1) nodes free = nodes := by
        funext i
        exact if_neg (fun hk => hmore (Nat.lt_of_le_of_lt hk.1 hk.2))
      rw [if_neg hmore, if_neg hmore, hnone]

/-- Consecutive nodes, each followed by the next. -/
theorem path_range' {next : Nat → Nat} (e n : Nat) : ∀ s : Nat,
    (∀ i, s ≤ i → i < s + n → next i = if i + 1 = s + n then e else i + 1) →
      Links.Path next (if n = 0 then e else s) (List.range' s n) e := by
  induction n with
  | zero =>
    intro s _
    rfl
  | succ n ih =>
    intro s hnext
    refine ⟨rfl, ?_⟩
    have hrest := ih (s + 1) fun i hi hlt => by
      rw [hnext i (Nat.le_of_succ_le hi) (by omega), show s + (n + 1) = s + 1 + n by omega]
    have hfirst := hnext s (Nat.le_refl s) (by omega)
    by_cases hn : n = 0
    · rw [if_pos hn] at hrest
      rwa [hfirst, if_pos (by omega)]
    · rw [if_neg hn] at hrest
      rwa [hfirst, if_neg (by omega)]

/-- What growing leaves: the old nodes, and new ones that are free. -/
theorem extendIdxList_eq (harray : table.nodeList = none ↔ table.size = 0)
    (hfree : table.nodeFreeList = 0) (block : Nat → IdxListNode α) :
    ∃ nodes, extendIdxList (some block) table
        = some { table with
            size := table.size + nodesPerPage
            nodeList := some nodes
            nodeFreeList := max 1 table.size } ∧
      (∀ i < max 1 table.size, nodes i = table.nodes i) ∧
      ∀ i, max 1 table.size ≤ i → i < table.size + nodesPerPage →
        (nodes i).data = none ∧
          (nodes i).fidx = if i + 1 = table.size + nodesPerPage then 0 else i + 1 := by
  have hpage : 1 < nodesPerPage := by decide
  have hloop := extendLoop_eq (Nat.le_add_right table.size nodesPerPage) block 0
  rw [if_pos (by omega)] at hloop
  -- a node that the loop freed
  have hfreed : ∀ i, table.size ≤ i → i < table.size + nodesPerPage →
      (freedNodes table.size (table.size + nodesPerPage) block 0 i).data = none ∧
        (freedNodes table.size (table.size + nodesPerPage) block 0 i).fidx
          = if i + 1 = table.size + nodesPerPage then 0 else i + 1 := by
    intro i hi hlt
    unfold freedNodes
    rw [if_pos ⟨hi, hlt⟩]
    exact ⟨rfl, rfl⟩
  cases hlist : table.nodeList with
  | none =>
    have hsize := harray.mp hlist
    refine ⟨Function.update (freedNodes table.size (table.size + nodesPerPage) block 0) 0
      { freedNodes table.size (table.size + nodesPerPage) block 0 0 with
        fidx := 0
        bidx := 0 }, ?_, ?_, ?_⟩
    · simp only [extendIdxList, Option.map_some, hfree, hloop, hlist]
      rw [Nat.max_eq_left (by omega)]
    · intro i hi
      have hzero : i = 0 := by omega
      have hdata := (hfreed 0 (by omega) (by omega)).1
      rw [hzero, Function.update_self, nodes_none hlist]
      simp only [emptyList, hdata]
    · intro i hi hlt
      rw [Function.update_of_ne (by omega)]
      exact hfreed i (by omega) hlt
  | some old =>
    have hsize : table.size ≠ 0 := fun hk => absurd (harray.mpr hk) (by simp [hlist])
    refine ⟨fun i => if i < table.size then old i
      else freedNodes table.size (table.size + nodesPerPage) block 0 i, ?_, ?_, ?_⟩
    · simp only [extendIdxList, Option.map_some, hfree, hloop, hlist]
      rw [Nat.max_eq_right (by omega)]
    · intro i hi
      show (if i < table.size then old i else _) = _
      rw [if_pos (by omega), nodes_some hlist]
    · intro i hi hlt
      show (if i < table.size then old i else _ : IdxListNode α).data = none ∧
        (if i < table.size then old i else _ : IdxListNode α).fidx = _
      rw [if_neg (by omega)]
      exact hfreed i (by omega) hlt

/-- **Growing** a table without dead nodes adds some and keeps every entry. -/
theorem Represents.extendIdxList (h : table.Represents entries [])
    (block : Nat → IdxListNode α) :
    ∃ table' idx free, extendIdxList (some block) table = some table' ∧
      table'.Represents entries (idx :: free) := by
  obtain ⟨nodes, heq, hold, hnew⟩ := extendIdxList_eq h.array h.freeList block
  have hpage : 1 < nodesPerPage := by decide
  have hids : ∀ i ∈ entries.map Prod.fst, 0 < i ∧ i < max 1 table.size := by
    intro i hi
    have hmem := (h.indices i).mp (List.mem_append_left [] hi)
    omega
  have hcount : table.size + nodesPerPage
      = max 1 table.size + (table.size + nodesPerPage - max 1 table.size) := by omega
  obtain ⟨n, hn⟩ : ∃ n, table.size + nodesPerPage - max 1 table.size = n + 1 :=
    ⟨table.size + nodesPerPage - max 1 table.size - 1, by omega⟩
  rw [hn] at hcount
  refine ⟨_, max 1 table.size, List.range' (max 1 table.size + 1) n, heq, ?_⟩
  have hrange : max 1 table.size :: List.range' (max 1 table.size + 1) n
      = List.range' (max 1 table.size) (n + 1) := rfl
  rw [hrange]
  have hmem : ∀ i, i ∈ List.range' (max 1 table.size) (n + 1) ↔
      max 1 table.size ≤ i ∧ i < table.size + nodesPerPage := by
    intro i
    rw [List.mem_range'_1, ← hcount]
  refine ⟨?_, ?_, ?_, ?_, ?_, ?_, ?_, ?_, h.count⟩
  · show some nodes = none ↔ table.size + nodesPerPage = 0
    exact iff_of_false (by simp) (by omega)
  · show (nodes 0).fidx = _
    rw [hold 0 (by omega), h.head]
  · refine h.linked.congr (fun i hi => ?_) (fun i hi => ?_)
    · exact congrArg IdxListNode.fidx (hold i (hids i hi).2)
    · exact congrArg IdxListNode.bidx (hold i (hids i hi).2)
  · refine @path_range' (fun i => (nodes i).fidx) 0 (n + 1) (max 1 table.size) fun i hi hlt => ?_
    rw [← hcount] at hlt ⊢
    exact (hnew i hi hlt).2
  · refine List.nodup_append.mpr ⟨h.ids.1, List.nodup_range', ?_⟩
    intro i hi j hj heq'
    have hlt := (hids i hi).2
    have hge := ((hmem j).mp hj).1
    omega
  · intro i
    rw [List.mem_append, hmem]
    have hall := h.indices i
    rw [List.append_nil] at hall
    rw [hall]
    show _ ↔ 0 < i ∧ i < table.size + nodesPerPage
    omega
  · intro entry hentry
    show (nodes entry.1).data = _
    rw [hold entry.1 (hids entry.1 (List.mem_map_of_mem hentry)).2]
    exact h.live entry hentry
  · intro i hi
    show (nodes i).data = none
    rcases List.mem_cons.mp hi with hzero | hfree
    · rw [hzero, hold 0 (by omega)]
      exact h.dead 0 List.mem_cons_self
    · obtain ⟨hge, hlt⟩ := (hmem i).mp hfree
      exact (hnew i hge hlt).1

end Extend

section InsertHead

variable {table : IdxListTable α} {entries : List (Nat × α)} {free : List Nat} {idx : Nat}

/-- With a free node, `InsertHeadIdxList` takes it. -/
theorem Represents.insertHead_free (h : table.Represents entries (idx :: free))
    (block : Option (Nat → IdxListNode α)) (data : Option α) :
    insertHeadIdxList block data table = Unbounded.insertFreeNode data table := by
  have hsome : table.nodeFreeList ≠ 0 := by
    rw [Ne, h.nodeFreeList_eq_zero]
    simp
  rw [Unbounded.insertHeadIdxList, if_neg hsome]

/-- Without one, it grows the array first, if it gets a block. -/
theorem Represents.insertHead_full (h : table.Represents entries []) (data : Option α) :
    insertHeadIdxList none data table = some (0, table) ∧
      ∀ {block grown}, Unbounded.extendIdxList (some block) table = some grown →
        insertHeadIdxList (some block) data table = Unbounded.insertFreeNode data grown := by
  have hnone : table.nodeFreeList = 0 := h.nodeFreeList_eq_zero.mpr rfl
  constructor
  · rw [Unbounded.insertHeadIdxList, if_pos hnone]
    rfl
  · intro block grown hgrown
    rw [Unbounded.insertHeadIdxList, if_pos hnone, hgrown]

/-- **`InsertHeadIdxList`** puts the entry in front, or finds no node for it and
changes nothing. -/
theorem Represents.insertHeadIdxList (h : table.Represents entries free)
    (block : Option (Nat → IdxListNode α)) (data : α) :
    (free = [] ∧ block = none ∧ insertHeadIdxList block (some data) table = some (0, table)) ∨
      ∃ idx table' free', 0 < idx ∧ table'.Represents ((idx, data) :: entries) free' ∧
        insertHeadIdxList block (some data) table = some (idx, table') := by
  have hpos : ∀ {table : IdxListTable α} {idx free}, table.Represents entries (idx :: free) →
      0 < idx := fun h' => ((h'.indices _).mp (by simp)).1
  cases free with
  | cons idx free =>
    obtain ⟨table', heq, hrep⟩ := h.insertFreeNode data
    exact Or.inr ⟨idx, table', free, hpos h, hrep, (h.insertHead_free block (some data)).trans heq⟩
  | nil =>
    obtain ⟨hnone, hgrow⟩ := h.insertHead_full (some data)
    cases block with
    | none => exact Or.inl ⟨rfl, rfl, hnone⟩
    | some block =>
      obtain ⟨grown, idx, free, hgrown, hrep⟩ := h.extendIdxList block
      obtain ⟨table', heq, hrep'⟩ := hrep.insertFreeNode data
      exact Or.inr ⟨idx, table', free, hpos hrep, hrep', (hgrow hgrown).trans heq⟩

end InsertHead

/-! ## Removing -/

section Remove

variable {table : IdxListTable α} {entries before after : List (Nat × α)} {free : List Nat}
variable {idx : Nat} {data : α}

/-- The array after the removal of `idx`. -/
def removedNodes (nodes : Nat → IdxListNode α) (idx nodeFreeList : Nat) (i : Nat) :
    IdxListNode α where
  fidx := if i = idx then nodeFreeList
    else if i = (nodes idx).bidx then (nodes idx).fidx else (nodes i).fidx
  bidx := if i = (nodes idx).fidx then (nodes idx).bidx else (nodes i).bidx
  data := if i = idx then none else (nodes i).data

/-- The assignments of `RemoveNodeIdxList`, made one after the other. -/
theorem removeNodeIdxList_eq {nodes : Nat → IdxListNode α}
    (hlist : table.nodeList = some nodes) (hpos : 0 < idx) (hidx : idx < table.size)
    (hdata : (nodes idx).data = some data) (hnext : (nodes idx).fidx < table.size)
    (hprev : (nodes idx).bidx < table.size) (hnextne : (nodes idx).fidx ≠ idx)
    (hprevne : (nodes idx).bidx ≠ idx) :
    removeNodeIdxList table idx
      = some (some data, { table with
          nodeList := some (removedNodes nodes idx table.nodeFreeList)
          nodeFreeList := idx
          nodeCount := table.nodeCount - 1 }) := by
  obtain ⟨size, list, free, count⟩ := table
  simp only at hlist hidx hnext hprev
  subst hlist
  have hguard : ¬ (idx ≥ size ∨ idx = 0) := by omega
  simp only [removeNodeIdxList, hguard, if_false, node, store, hidx, hdata, hnext, hprev, if_true,
    Option.bind_eq_bind, Option.bind_some, Option.pure_def, Function.update_of_ne (Ne.symm hnextne),
    Function.update_of_ne (Ne.symm hprevne), Function.update_self, Option.some.injEq,
    Prod.mk.injEq, mk.injEq, true_and, and_true]
  funext i
  by_cases hself : i = idx
  · simp [removedNodes, hself, Ne.symm hnextne]
  · rw [Function.update_of_ne hself, Function.update_of_ne hself]
    by_cases hp : i = (nodes idx).bidx
    · by_cases hn : i = (nodes idx).fidx
      · simp [removedNodes, hself, ← hp, ← hn]
      · simp [removedNodes, hself, ← hp, hn]
    · by_cases hn : i = (nodes idx).fidx
      · simp [removedNodes, hself, hp, ← hn]
      · simp [removedNodes, hself, hp, hn]

/-- The links of the other nodes are those after unlinking. -/
theorem removedNodes_fidx {i : Nat} (nodeFreeList : Nat) (hself : i ≠ idx) (hnull : i ≠ 0) :
    (removedNodes table.nodes idx nodeFreeList i).fidx = (table.links.unlink 0 idx).next i := by
  rw [Links.unlink_next]
  show (if i = idx then _ else if i = table.links.prev idx then _ else _) = _
  rw [if_neg hself]
  by_cases hprev : i = table.links.prev idx
  · rw [if_pos hprev, if_pos ⟨hprev, hprev ▸ hnull⟩]
    rfl
  · have hprev' : ¬ (i = table.links.prev idx ∧ table.links.prev idx ≠ 0) := fun hk => hprev hk.1
    rw [if_neg hprev, if_neg hprev']
    rfl

theorem removedNodes_bidx {i : Nat} (nodeFreeList : Nat) (hnull : i ≠ 0) :
    (removedNodes table.nodes idx nodeFreeList i).bidx = (table.links.unlink 0 idx).prev i := by
  rw [Links.unlink_prev]
  show (if i = table.links.next idx then _ else _) = _
  by_cases hnext : i = table.links.next idx
  · rw [if_pos hnext, if_pos ⟨hnext, hnext ▸ hnull⟩]
    rfl
  · have hnext' : ¬ (i = table.links.next idx ∧ table.links.next idx ≠ 0) := fun hk => hnext hk.1
    rw [if_neg hnext, if_neg hnext']
    rfl

/-- The indices, with that of the removed entry among them. -/
theorem ids_middle : (before ++ (idx, data) :: after).map Prod.fst
    = before.map Prod.fst ++ idx :: after.map Prod.fst := by
  rw [List.map_append]
  rfl

/-- A removal takes an index from the live ones to the dead ones. -/
theorem ids_perm : ((before ++ (idx, data) :: after).map Prod.fst ++ free).Perm
    ((before ++ after).map Prod.fst ++ idx :: free) := by
  rw [ids_middle, List.map_append, List.append_assoc, List.cons_append]
  refine List.perm_middle.trans ?_
  rw [← List.append_assoc]
  exact List.perm_middle.symm

/-- The other live nodes are not the removed one, nor node 0. -/
theorem Represents.other_ids (h : table.Represents (before ++ (idx, data) :: after) free) {i : Nat}
    (hi : i ∈ (before ++ after).map Prod.fst) : i ≠ idx ∧ i ≠ 0 ∧ i < table.size := by
  have hdisjoint := (List.nodup_append.mp (ids_perm.nodup_iff.mp h.nodup)).2.2
  have hrange := (h.indices i).mp (ids_perm.mem_iff.mpr (List.mem_append_left _ hi))
  exact ⟨hdisjoint i hi idx List.mem_cons_self, Nat.ne_of_gt hrange.1, hrange.2⟩

/-- The neighbours of a live node are in the array, and not the node itself. -/
theorem Represents.neighbours (h : table.Represents (before ++ (idx, data) :: after) free) :
    ((table.nodes idx).fidx < table.size ∧ (table.nodes idx).fidx ≠ idx) ∧
      ((table.nodes idx).bidx < table.size ∧ (table.nodes idx).bidx ≠ idx) := by
  have hrange := (h.indices idx).mp (ids_perm.mem_iff.mpr (by simp))
  have hlinked := h.linked
  rw [ids_middle] at hlinked
  obtain ⟨hprev, hnext⟩ := hlinked.neighbours
  have hneighbour : ∀ i, i = 0 ∨ i ∈ (before ++ after).map Prod.fst →
      i < table.size ∧ i ≠ idx := by
    intro i hi
    rcases hi with hnull | hlive
    · omega
    · obtain ⟨hne, _, hlt⟩ := h.other_ids hlive
      exact ⟨hlt, hne⟩
  rw [List.map_append] at hneighbour
  constructor
  · apply hneighbour
    rw [show (table.nodes idx).fidx = _ from hnext]
    exact (Links.headD_mem (after.map Prod.fst) 0).imp_right (List.mem_append_right _)
  · apply hneighbour
    rw [show (table.nodes idx).bidx = _ from hprev]
    exact (Links.getLastD_mem (before.map Prod.fst) 0).imp_right (List.mem_append_left _)

/-- **Removing** a live node drops its entry. -/
theorem Represents.removeNodeIdxList
    (h : table.Represents (before ++ (idx, data) :: after) free) :
    ∃ table', removeNodeIdxList table idx = some (some data, table') ∧
      table'.Represents (before ++ after) (idx :: free) := by
  have hids' : (before ++ after).map Prod.fst = before.map Prod.fst ++ after.map Prod.fst :=
    List.map_append
  have hmem : idx ∈ (before ++ (idx, data) :: after).map Prod.fst ++ free :=
    ids_perm.mem_iff.mpr (by simp)
  obtain ⟨hpos, hlt⟩ := (h.indices idx).mp hmem
  obtain ⟨hnodup, hzero⟩ := h.ids
  have hlinked := h.linked
  rw [ids_middle] at hlinked hnodup hzero
  obtain ⟨hprev, hnext⟩ := hlinked.neighbours
  obtain ⟨⟨hnextlt, hnextne⟩, hprevlt, hprevne⟩ := h.neighbours
  have heq := removeNodeIdxList_eq (h.nodeList hmem) hpos hlt (h.live (idx, data) (by simp)) hnextlt
    hprevlt hnextne hprevne
  refine ⟨_, heq, ⟨?_, ?_, ?_, ?_, ?_, ?_, ?_, ?_, ?_⟩⟩
  · exact iff_of_false (fun hk => absurd hk (by simp)) (Nat.ne_of_gt (Nat.lt_trans hpos hlt))
  · show (if 0 = idx then _ else if 0 = (table.nodes idx).bidx then (table.nodes idx).fidx
      else (table.nodes 0).fidx) = _
    rw [if_neg (Nat.ne_of_lt hpos), hids', h.head, ids_middle,
      show (table.nodes idx).bidx = _ from hprev, show (table.nodes idx).fidx = _ from hnext]
    cases hfirst : before.map Prod.fst with
    | nil => rfl
    | cons first ids =>
      rw [hfirst] at hzero
      rw [if_neg]
      · rfl
      · intro hk
        rw [List.getLastD_cons] at hk
        exact hzero (List.mem_append_left _ (hk ▸ List.getLastD_mem_cons))
  · rw [hids']
    refine (hlinked.unlink hnodup hzero).congr (fun y hy => ?_) (fun y hy => ?_)
    · obtain ⟨hself, hnull, _⟩ := h.other_ids (hids' ▸ hy)
      exact removedNodes_fidx table.nodeFreeList hself hnull
    · exact removedNodes_bidx table.nodeFreeList (h.other_ids (hids' ▸ hy)).2.1
  · refine (h.freeList.congr fun y hy => ?_).cons ?_
    · have hout := (List.nodup_append.mp h.nodup).2.2
      have hself : y ≠ idx := fun hk => hout idx (by rw [ids_middle]; simp) y hy hk.symm
      have hnull := Nat.ne_of_gt ((h.indices y).mp (List.mem_append_right _ hy)).1
      have hframe := hlinked.unlink_frame (List.mem_append_right _ List.mem_cons_self)
        fun hk => hout y (ids_middle ▸ hk) y hy rfl
      exact (removedNodes_fidx table.nodeFreeList hself hnull).trans hframe.1
    · exact if_pos rfl
  · exact ids_perm.nodup_iff.mp h.nodup
  · intro y
    exact ids_perm.mem_iff.symm.trans (h.indices y)
  · intro entry hentry
    have hne := (h.other_ids (List.mem_map_of_mem hentry)).1
    show (if entry.1 = idx then none else _) = some entry.2
    rw [if_neg hne]
    refine h.live entry ?_
    rcases List.mem_append.mp hentry with hin | hin
    · exact List.mem_append_left _ hin
    · exact List.mem_append_right _ (List.mem_cons_of_mem _ hin)
  · intro y hy
    show (if y = idx then none else _) = none
    by_cases hself : y = idx
    · rw [if_pos hself]
    · rw [if_neg hself]
      refine h.dead y ?_
      rcases List.mem_cons.mp hy with hy | hy
      · exact List.mem_cons.mpr (Or.inl hy)
      · exact List.mem_cons_of_mem 0 ((List.mem_cons.mp hy).resolve_left hself)
  · show table.nodeCount - 1 = _
    rw [h.count, List.length_append, List.length_append, List.length_cons]
    rfl

/-- Removing a dead node, or none, changes nothing. -/
theorem Represents.removeNodeIdxList_dead (h : table.Represents entries free)
    (hdead : idx ∉ entries.map Prod.fst) :
    Unbounded.removeNodeIdxList table idx = some (none, table) := by
  unfold Unbounded.removeNodeIdxList
  by_cases hguard : idx ≥ table.size ∨ idx = 0
  · rw [if_pos hguard]
  · have hlt : idx < table.size := by omega
    have hmem : idx ∈ entries.map Prod.fst ++ free := (h.indices idx).mpr (by omega)
    have hfree := (List.mem_append.mp hmem).resolve_left hdead
    rw [if_neg hguard, node_eq (h.nodeList hmem) hlt, Option.bind_eq_bind, Option.bind_some,
      h.dead idx (List.mem_cons_of_mem 0 hfree)]
    rfl

/-- The head node leads to the newest entry. -/
theorem Represents.removeHead_eq (h : table.Represents ((idx, data) :: after) free) :
    Unbounded.removeHeadIdxList table = Unbounded.removeNodeIdxList table idx := by
  have hmem : idx ∈ ((idx, data) :: after).map Prod.fst ++ free := by simp
  have hlt := (h.indices idx).mp hmem
  have hhead : (table.nodes 0).fidx = idx := h.head
  rw [Unbounded.removeHeadIdxList, node_eq (h.nodeList hmem) (Nat.lt_trans hlt.1 hlt.2),
    Option.bind_eq_bind, Option.bind_some, hhead]

/-- **`RemoveHeadIdxList`** removes the newest entry. -/
theorem Represents.removeHeadIdxList (h : table.Represents ((idx, data) :: after) free) :
    ∃ table', removeHeadIdxList table = some (some data, table') ∧
      table'.Represents after (idx :: free) := by
  obtain ⟨table', heq, hrep⟩ := @Represents.removeNodeIdxList _ table [] after free idx data h
  exact ⟨table', h.removeHead_eq.trans heq, hrep⟩

end Remove

/-! ## Reading -/

section Read

variable {table : IdxListTable α} {entries before after : List (Nat × α)} {free : List Nat}
variable {idx : Nat} {data : α}

/-- What is under the index that follows on some entries. -/
theorem Represents.data_headD (h : table.Represents entries free)
    (hafter : ∀ entry ∈ after, entry ∈ entries) :
    (table.nodes ((after.map Prod.fst).headD 0)).data = after.head?.map Prod.snd := by
  cases after with
  | nil => exact h.dead 0 List.mem_cons_self
  | cons entry after => exact h.live entry (hafter entry List.mem_cons_self)

/-- **`GetHeadNodeIdxList`** gives the newest entry. -/
theorem Represents.getHeadNodeIdxList (h : table.Represents entries free) :
    getHeadNodeIdxList table = some (entries.head?.map Prod.snd) := by
  unfold Unbounded.getHeadNodeIdxList
  by_cases hsize : table.size = 0
  · have hnil : entries = [] := by
      cases entries with
      | nil => rfl
      | cons entry entries =>
        have hlt := (h.indices entry.1).mp (by simp)
        omega
    rw [if_neg (not_not_intro hsize), hnil]
    rfl
  · have hlist : table.nodeList = some table.nodes := by
      cases hl : table.nodeList with
      | none => exact absurd (h.array.mp hl) hsize
      | some nodes => rw [nodes_some hl]
    have hhead : (table.nodes 0).fidx < table.size := by
      rw [h.head]
      rcases Links.headD_mem (entries.map Prod.fst) 0 with hnull | hmem
      · omega
      · exact ((h.indices _).mp (List.mem_append_left free hmem)).2
    rw [if_pos hsize, node_eq hlist (by omega), Option.bind_eq_bind, Option.bind_some,
      node_eq hlist hhead, Option.bind_some, h.head, h.data_headD fun _ hentry => hentry]
    rfl

/-- **`GetNextNodeIdxList`** gives the entry behind the one under `idx`. -/
theorem Represents.getNextNodeIdxList
    (h : table.Represents (before ++ (idx, data) :: after) free) :
    getNextNodeIdxList table idx = some (after.head?.map Prod.snd) := by
  have hids : (before ++ (idx, data) :: after).map Prod.fst
      = before.map Prod.fst ++ idx :: after.map Prod.fst := by
    rw [List.map_append]
    rfl
  have hmem : idx ∈ (before ++ (idx, data) :: after).map Prod.fst ++ free := by
    rw [hids]
    simp
  have hlt := (h.indices idx).mp hmem
  have hlinked := h.linked
  rw [hids] at hlinked
  have hnext : (table.nodes idx).fidx = (after.map Prod.fst).headD 0 := hlinked.neighbours.2
  have hnextlt : (table.nodes idx).fidx < table.size := by
    rw [hnext]
    rcases Links.headD_mem (after.map Prod.fst) 0 with hnull | hafter
    · omega
    · refine ((h.indices _).mp (List.mem_append_left free ?_)).2
      rw [hids]
      exact List.mem_append_right _ (List.mem_cons_of_mem idx hafter)
  rw [Unbounded.getNextNodeIdxList, if_pos hlt.2, node_eq (h.nodeList hmem) hlt.2,
    Option.bind_eq_bind, Option.bind_some, node_eq (h.nodeList hmem) hnextlt, Option.bind_some,
    hnext, h.data_headD fun entry hentry => List.mem_append_right _ (List.mem_cons_of_mem _ hentry)]
  rfl

/-- **`LookupNodeIdxList`** finds what is under a live index. -/
theorem Represents.lookupNodeIdxList (h : table.Represents entries free)
    (hentry : (idx, data) ∈ entries) : lookupNodeIdxList table idx = some (some data) := by
  have hmem : idx ∈ entries.map Prod.fst ++ free :=
    List.mem_append_left free (List.mem_map_of_mem (f := Prod.fst) hentry)
  have hlt := ((h.indices idx).mp hmem).2
  rw [Unbounded.lookupNodeIdxList, if_pos hlt, node_eq (h.nodeList hmem) hlt, Option.bind_eq_bind,
    Option.bind_some]
  exact congrArg some (h.live (idx, data) hentry)

end Read

end IdxListTable

end DeepShield.Rtl.Unbounded
