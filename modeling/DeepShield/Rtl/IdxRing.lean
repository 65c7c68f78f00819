import DeepShield.Rtl.IdxEntries

/-!
# The ring of an index list

Node 0 leads to the newest entry, and back to the oldest one: with `Represents` that
makes the live nodes a ring (`Whole`). Every operation keeps it, and the size of the
array is a whole number of pages.
-/

namespace DeepShield.Rtl.Unbounded

open DeepShield.Lib

variable {α : Type}

/-- No entry is under an index that is not among them. -/
theorem lookup_eq_none {ι : Type} [BEq ι] [LawfulBEq ι] (idx : ι) (entries : List (ι × α)) :
    entries.lookup idx = none ↔ idx ∉ entries.map Prod.fst := by
  rw [List.lookup_eq_none_iff]
  constructor
  · intro hall hmem
    obtain ⟨entry, hentry, heq⟩ := List.mem_map.mp hmem
    exact absurd (hall entry hentry) (by simp [heq])
  · intro hmem entry hentry
    have hne : idx ≠ entry.1 := fun heq => hmem (heq ▸ List.mem_map_of_mem hentry)
    simpa using hne

namespace IdxListTable

/-- The entries, with node 0 leading back to the oldest one. -/
structure Whole (table : IdxListTable α) (entries : List (Nat × α)) (free : List Nat) :
    Prop where
  represents : table.Represents entries free
  last : (table.nodes 0).bidx = (entries.map Prod.fst).getLastD 0
  pages : nodesPerPage ∣ table.size

theorem whole_initializeIdxList : (initializeIdxList : IdxListTable α).Whole [] [] where
  represents := represents_initializeIdxList
  last := rfl
  pages := Nat.dvd_zero nodesPerPage

section Whole

variable {table : IdxListTable α} {entries before after : List (Nat × α)} {free : List Nat}
  {idx : Nat} {data : α}

/-- **Inserting** keeps the ring. -/
theorem Whole.insertFreeNode (h : table.Whole entries (idx :: free)) (data : α) :
    ∃ table', insertFreeNode (some data) table = some (idx, table') ∧
      table'.Whole ((idx, data) :: entries) free := by
  obtain ⟨table', heq, hrep⟩ := h.represents.insertFreeNode data
  have hmem : idx ∈ entries.map Prod.fst ++ idx :: free := by simp
  have hlist := h.represents.nodeList hmem
  have hfree : table.nodeFreeList = idx := h.represents.nodeFreeList
  obtain ⟨hpos, hlt⟩ := (h.represents.indices idx).mp hmem
  have hne : (table.nodes 0).fidx ≠ idx := by
    rw [h.represents.head]
    rcases Links.headD_mem (entries.map Prod.fst) 0 with hzero | hhead
    · rw [hzero]
      exact Nat.ne_of_lt hpos
    · exact (List.nodup_append.mp h.represents.nodup).2.2 _ hhead idx List.mem_cons_self
  have hassigned := @insertFreeNode_eq _ table _ (some data) hlist (hfree ▸ hlt) (hfree ▸ hpos)
    (h.represents.head_lt hmem) (hfree ▸ hne)
  rw [heq] at hassigned
  obtain ⟨-, rfl⟩ := Prod.mk.inj (Option.some.inj hassigned)
  refine ⟨_, heq, hrep, ?_, h.pages⟩
  -- node 0 was followed by the first entry, or by itself
  show (if 0 = (table.nodes 0).fidx then table.nodeFreeList
    else if 0 = table.nodeFreeList then 0 else (table.nodes 0).bidx) = _
  rw [h.represents.head, hfree, if_neg (Nat.ne_of_lt hpos), h.last]
  cases entries with
  | nil => rfl
  | cons entry entries =>
    have hentry := ((h.represents.indices entry.1).mp (by simp)).1
    rw [List.map_cons, List.headD_cons, if_neg (Nat.ne_of_lt hentry)]
    rfl

/-- **Growing** keeps it. -/
theorem Whole.extendIdxList (h : table.Whole entries []) (block : Nat → IdxListNode α) :
    ∃ table' idx free, extendIdxList (some block) table = some table' ∧
      table'.Whole entries (idx :: free) := by
  obtain ⟨table', idx, free, heq, hrep⟩ := h.represents.extendIdxList block
  obtain ⟨nodes, hnodes, hold, -⟩ :=
    extendIdxList_eq h.represents.array h.represents.freeList block
  rw [heq] at hnodes
  obtain rfl := Option.some.inj hnodes
  refine ⟨_, idx, free, heq, hrep, ?_, Nat.dvd_add h.pages (Nat.dvd_refl nodesPerPage)⟩
  show (nodes 0).bidx = _
  rw [hold 0 (Nat.lt_of_lt_of_le Nat.one_pos (Nat.le_max_left 1 table.size)), h.last]

/-- **`InsertHeadIdxList`** keeps it, or finds no node and changes nothing. -/
theorem Whole.insertHeadIdxList (h : table.Whole entries free)
    (block : Option (Nat → IdxListNode α)) (data : α) :
    (block = none ∧ insertHeadIdxList block (some data) table = some (0, table)) ∨
      ∃ idx table' free', 0 < idx ∧ idx ∉ entries.map Prod.fst ∧
        table'.Whole ((idx, data) :: entries) free' ∧
        insertHeadIdxList block (some data) table = some (idx, table') := by
  have hnew : ∀ {table : IdxListTable α} {idx free}, table.Whole entries (idx :: free) →
      0 < idx ∧ idx ∉ entries.map Prod.fst := by
    intro table idx free h'
    refine ⟨((h'.represents.indices idx).mp (by simp)).1, fun hmem => ?_⟩
    exact (List.nodup_append.mp h'.represents.nodup).2.2 idx hmem idx List.mem_cons_self rfl
  cases free with
  | cons idx free =>
    obtain ⟨table', heq, hwhole⟩ := h.insertFreeNode data
    exact Or.inr ⟨idx, table', free, (hnew h).1, (hnew h).2, hwhole,
      (h.represents.insertHead_free block (some data)).trans heq⟩
  | nil =>
    obtain ⟨hnone, hgrow⟩ := h.represents.insertHead_full (some data)
    cases block with
    | none => exact Or.inl ⟨rfl, hnone⟩
    | some block =>
      obtain ⟨grown, idx, free, hgrown, hwhole⟩ := h.extendIdxList block
      obtain ⟨table', heq, hwhole'⟩ := hwhole.insertFreeNode data
      exact Or.inr ⟨idx, table', free, (hnew hwhole).1, (hnew hwhole).2, hwhole',
        (hgrow hgrown).trans heq⟩

/-- **Removing** a live node keeps it. -/
theorem Whole.removeNodeIdxList (h : table.Whole (before ++ (idx, data) :: after) free) :
    ∃ table', removeNodeIdxList table idx = some (some data, table') ∧
      table'.Whole (before ++ after) (idx :: free) := by
  obtain ⟨table', heq, hrep⟩ := h.represents.removeNodeIdxList
  have hmem : idx ∈ (before ++ (idx, data) :: after).map Prod.fst ++ free :=
    ids_perm.mem_iff.mpr (by simp)
  obtain ⟨hpos, hlt⟩ := (h.represents.indices idx).mp hmem
  obtain ⟨⟨hnextlt, hnextne⟩, hprevlt, hprevne⟩ := h.represents.neighbours
  have hassigned := removeNodeIdxList_eq (h.represents.nodeList hmem) hpos hlt
    (h.represents.live (idx, data) (by simp)) hnextlt hprevlt hnextne hprevne
  rw [heq] at hassigned
  obtain ⟨-, rfl⟩ := Prod.mk.inj (Option.some.inj hassigned)
  refine ⟨_, heq, hrep, ?_, h.pages⟩
  have hlinked := h.represents.linked
  rw [ids_middle] at hlinked
  obtain ⟨hprev, hnext⟩ := hlinked.neighbours
  show (if 0 = (table.nodes idx).fidx then (table.nodes idx).bidx else (table.nodes 0).bidx) = _
  rw [show (table.nodes idx).fidx = _ from hnext, show (table.nodes idx).bidx = _ from hprev,
    h.last, ids_middle, List.map_append]
  cases after with
  | nil => simp
  | cons entry after =>
    have hentry := ((h.represents.indices entry.1).mp (by simp)).1
    rw [List.map_cons, List.headD_cons, if_neg (Nat.ne_of_lt hentry)]
    simp [List.getLastD_eq_getLast?, List.getLast?_append]

/-- **`RemoveHeadIdxList`** keeps it. -/
theorem Whole.removeHeadIdxList (h : table.Whole ((idx, data) :: after) free) :
    ∃ table', removeHeadIdxList table = some (some data, table') ∧
      table'.Whole after (idx :: free) := by
  obtain ⟨table', heq, hwhole⟩ := @Whole.removeNodeIdxList _ table [] after free idx data h
  exact ⟨table', h.represents.removeHead_eq.trans heq, hwhole⟩

/-- On an empty list it changes nothing. -/
theorem Whole.removeHeadIdxList_nil (h : table.Whole [] free) :
    Unbounded.removeHeadIdxList table = some (none, table) := by
  have hdead := h.represents.removeNodeIdxList_dead
    (show 0 ∉ ([] : List (Nat × α)).map Prod.fst from List.not_mem_nil)
  have hhead : (table.nodes 0).fidx = 0 := h.represents.head
  rw [Unbounded.removeHeadIdxList]
  cases hlist : table.nodeList with
  | none =>
    rw [node, hlist, if_pos rfl, Option.bind_eq_bind, Option.bind_some]
    exact hdead
  | some nodes =>
    have hsize : table.size ≠ 0 := fun hk => absurd (h.represents.array.mpr hk) (by simp [hlist])
    rw [nodes_some hlist] at hhead
    rw [node_eq hlist (Nat.pos_of_ne_zero hsize), Option.bind_eq_bind, Option.bind_some, hhead]
    exact hdead

/-- All nodes but node 0 are live or free. -/
theorem Whole.length_eq (h : table.Whole entries free) :
    entries.length + free.length = table.size - 1 := by
  have hperm : (entries.map Prod.fst ++ free).Perm (List.range' 1 (table.size - 1)) := by
    refine (List.perm_ext_iff_of_nodup h.represents.nodup List.nodup_range').mpr fun i => ?_
    rw [h.represents.indices i, List.mem_range'_1]
    omega
  have hlength := hperm.length_eq
  rwa [List.length_append, List.length_map, List.length_range'] at hlength

/-- **`LookupNodeIdxList`** gives what is under an index, and NULL for a dead one. -/
theorem Whole.lookupNodeIdxList (h : table.Whole entries free) (idx : Nat) :
    Unbounded.lookupNodeIdxList table idx = some (entries.lookup idx) := by
  cases hlookup : entries.lookup idx with
  | some data =>
    obtain ⟨before, after, hsplit, -⟩ := List.lookup_eq_some_iff.mp hlookup
    exact h.represents.lookupNodeIdxList (hsplit ▸ List.mem_append_right _ List.mem_cons_self)
  | none =>
    rw [Unbounded.lookupNodeIdxList]
    by_cases hlt : idx < table.size
    · have hnone := (lookup_eq_none idx entries).mp hlookup
      have hdead : idx ∈ 0 :: free := by
        by_cases hzero : idx = 0
        · exact List.mem_cons.mpr (Or.inl hzero)
        · have hmem := (h.represents.indices idx).mpr ⟨Nat.pos_of_ne_zero hzero, hlt⟩
          exact List.mem_cons_of_mem 0 ((List.mem_append.mp hmem).resolve_left hnone)
      have hlist : table.nodeList = some table.nodes := by
        cases hl : table.nodeList with
        | none => exact absurd (h.represents.array.mp hl) (Nat.ne_of_gt (Nat.zero_lt_of_lt hlt))
        | some nodes => rw [nodes_some hl]
      rw [if_pos hlt, node_eq hlist hlt, Option.bind_eq_bind, Option.bind_some,
        h.represents.dead idx hdead]
      rfl
    · rw [if_neg hlt]

end Whole

end IdxListTable

end DeepShield.Rtl.Unbounded
