import DeepShield.Lib.Runs
import DeepShield.Rtl.IdxRing
import DeepShield.Rtl.IdxWords

/-!
# Runs of an index list

To its users an index list is a list of entries, newest first, that hands out an index
for each and finds the entry under it again for as long as it is not removed. The
entries are kept beside the table here, from nothing but what the calls were given and
returned (`IdxListRun`).

`IdxListOk` is what the table says about the entries: the chain of `Fidx` from node 0
runs through them and ends at 0, `Bidx` leads the other way, and every index leads to its
data or to NULL. `IdxCallOk` is what a call returns, and when it changes nothing. The
pool fails as it likes.

The size that `ExtendIdxList` computes for the table is a `ULONG32`, and with 2^32 - 257
entries it is 0. `idxListRefines_iff` says that this is all that goes wrong: the
table is such a list exactly in the runs that never get another block then.
-/

namespace DeepShield.Rtl

open DeepShield.Lib
open Unbounded (lookup_eq_none)

variable {α : Type}

/-! ## Entries -/

/-- The entries after an insertion, by the index it returned. -/
def entriesInserted (idx : UInt32) (data : α) (entries : List (UInt32 × α)) :
    List (UInt32 × α) :=
  if idx = 0 then entries else (idx, data) :: entries

/-- The entries after a removal. -/
def entriesRemoved (idx : UInt32) (entries : List (UInt32 × α)) : List (UInt32 × α) :=
  entries.filter fun entry => entry.1 != idx

/-- An index that is not among them is not removed. -/
theorem entriesRemoved_of_dead {idx : UInt32} {entries : List (UInt32 × α)}
    (hdead : idx ∉ entries.map Prod.fst) : entriesRemoved idx entries = entries := by
  refine List.filter_eq_self.mpr fun entry hentry => ?_
  have hne : entry.1 ≠ idx := fun heq => hdead (heq ▸ List.mem_map_of_mem hentry)
  simpa using hne

/-- One that is among them is removed, and the others are not. -/
theorem entriesRemoved_middle {idx : UInt32} {data : α} {before after : List (UInt32 × α)}
    (hnodup : ((before ++ (idx, data) :: after).map Prod.fst).Nodup) :
    entriesRemoved idx (before ++ (idx, data) :: after) = before ++ after := by
  rw [List.map_append, List.map_cons] at hnodup
  obtain ⟨hbefore, hafter, -⟩ := Links.nodup_around hnodup
  have hself : ((idx, data).1 != idx) = false := by simp
  rw [entriesRemoved, List.filter_append, List.filter_cons, hself]
  exact congrArg₂ _ (entriesRemoved_of_dead hbefore) (entriesRemoved_of_dead hafter)

/-- A table and the entries its users put there. -/
structure IdxListRun (α : Type) where
  table : IdxListTable α
  entries : List (UInt32 × α)

/-- A new table. -/
def IdxListRun.initial : IdxListRun α := ⟨initializeIdxList, []⟩

/-- A call; `block` is what the pool returns if the table has to grow. -/
inductive IdxListCall (α : Type)
  | insertHead (block : Option (UInt32 → IdxListNode α)) (data : α)
  | removeNode (idx : UInt32)
  | removeHead

/-- One call. -/
def idxListStep (s : IdxListRun α) : IdxListCall α → Option (IdxListRun α)
  | .insertHead block data =>
    (insertHeadIdxList block (some data) s.table).map fun (idx, table) =>
      ⟨table, entriesInserted idx data s.entries⟩
  | .removeNode idx =>
    (removeNodeIdxList s.table idx).map fun (_, table) => ⟨table, entriesRemoved idx s.entries⟩
  | .removeHead =>
    (removeHeadIdxList s.table).map fun (_, table) => ⟨table, s.entries.tail⟩

/-! ## The property -/

/-- The links of the nodes. -/
def IdxListTable.links (table : IdxListTable α) : Links UInt32 where
  next idx := (table.nodes idx).fidx
  prev idx := (table.nodes idx).bidx

/-- What the table says about the entries. -/
structure IdxListOk (s : IdxListRun α) : Prop where
  /-- From node 0, `Fidx` leads through the live nodes, newest first, and back to 0. -/
  forward : Links.Path s.table.links.next (s.table.links.next 0) (s.entries.map Prod.fst) 0
  /-- `Bidx` is its inverse. -/
  backward : ∀ idx ∈ 0 :: s.entries.map Prod.fst,
    s.table.links.prev (s.table.links.next idx) = idx ∧
      s.table.links.next (s.table.links.prev idx) = idx
  count : (getNodeCountIdxList s.table).toNat = s.entries.length
  lookup : ∀ idx, lookupNodeIdxList s.table idx = some (s.entries.lookup idx)
  indices : (s.entries.map Prod.fst).Nodup ∧ 0 ∉ s.entries.map Prod.fst
  /-- The free list has the other indices, once each. -/
  free : ∃ free, Links.Path s.table.links.next s.table.nodeFreeList free 0 ∧ free.Nodup ∧
    ∀ idx, idx ∈ free ↔ 0 < idx ∧ idx < s.table.size ∧ idx ∉ s.entries.map Prod.fst

/-- What a call returns. It accesses nodes of the array only, and reads of `EmptyList`
at most. -/
def IdxCallOk (s : IdxListRun α) : IdxListCall α → Prop
  | .insertHead block data => ∃ idx table,
    insertHeadIdxList block (some data) s.table = some (idx, table) ∧
      idx ∉ s.entries.map Prod.fst ∧ (idx = 0 → block = none ∧ table = s.table)
  | .removeNode idx => ∃ table,
    removeNodeIdxList s.table idx = some (s.entries.lookup idx, table) ∧
      (idx ∉ s.entries.map Prod.fst → table = s.table)
  | .removeHead => ∃ table,
    removeHeadIdxList s.table = some (s.entries.head?.map Prod.snd, table) ∧
      (s.entries = [] → table = s.table)

/-- The table need not grow beyond 2^32 - 256 nodes, or the pool fails. -/
def IdxRoom (s : IdxListRun α) : IdxListCall α → Prop
  | .insertHead block _ => block = none ∨ s.entries.length < 2 ^ 32 - 257
  | .removeNode _ => True
  | .removeHead => True

/-! ## Entries by number -/

/-- The entries under their indices as numbers. -/
def numbered (entries : List (UInt32 × α)) : List (Nat × α) :=
  entries.map fun entry => (entry.1.toNat, entry.2)

section Numbered

variable {entries : List (UInt32 × α)} {idx : UInt32}

theorem toNat_injective : Function.Injective UInt32.toNat := fun _ _ => UInt32.toNat_inj.mp

theorem numbered_fst (entries : List (UInt32 × α)) :
    (numbered entries).map Prod.fst = (entries.map Prod.fst).map UInt32.toNat := by
  rw [numbered, List.map_map, List.map_map]
  rfl

theorem mem_numbers {l : List UInt32} : idx.toNat ∈ l.map UInt32.toNat ↔ idx ∈ l :=
  List.mem_map_of_injective toNat_injective

theorem lookup_numbered (idx : UInt32) (entries : List (UInt32 × α)) :
    (numbered entries).lookup idx.toNat = entries.lookup idx := by
  induction entries with
  | nil => rfl
  | cons entry entries ih =>
    have hbeq : (idx.toNat == entry.1.toNat) = (idx == entry.1) := by
      rw [Bool.eq_iff_iff, beq_iff_eq, beq_iff_eq, UInt32.toNat_inj]
    show (match idx.toNat == entry.1.toNat with | true => some entry.2 | false => _) = _
    rw [hbeq]
    cases hidx : idx == entry.1 with
    | true => rw [List.lookup_cons, hidx]
    | false =>
      rw [List.lookup_cons, hidx]
      exact ih

/-- Numbers below 2^32 are words. -/
theorem exists_words {l : List Nat} (h : ∀ i ∈ l, i < 2 ^ 32) :
    ∃ words : List UInt32, words.map UInt32.toNat = l := by
  refine ⟨l.map UInt32.ofNat, ?_⟩
  rw [List.map_map]
  refine (List.map_congr_left fun i hi => ?_).trans l.map_id
  exact UInt32.toNat_ofNat_of_lt' (h i hi)

end Numbered

/-! ## The invariant -/

/-- The table has the entries, both by their numbers. -/
def IdxListRun.Whole (s : IdxListRun α) : Prop :=
  ∃ free, s.table.unbounded.Whole (numbered s.entries) free

namespace IdxListRun

theorem whole_initial : (IdxListRun.initial : IdxListRun α).Whole :=
  ⟨[], Unbounded.IdxListTable.whole_initializeIdxList⟩

section Whole

variable {s s' : IdxListRun α} {idx : UInt32} {data : α} {block : Option (UInt32 → IdxListNode α)}

/-- What the table says about the entries. -/
theorem Whole.ok (h : s.Whole) : IdxListOk s := by
  obtain ⟨free, hwhole⟩ := h
  have hrep := hwhole.represents
  have hnext : ∀ idx, s.table.unbounded.links.next idx.toNat = (s.table.links.next idx).toNat :=
    fun idx => congrArg Unbounded.IdxListNode.fidx (unbounded_nodes s.table idx)
  have hprev : ∀ idx, s.table.unbounded.links.prev idx.toNat = (s.table.links.prev idx).toNat :=
    fun idx => congrArg Unbounded.IdxListNode.bidx (unbounded_nodes s.table idx)
  have hids := hrep.ids
  have hlinked := hrep.linked
  rw [numbered_fst] at hids hlinked
  constructor
  case forward =>
    refine (Links.path_map toNat_injective hnext).mp ?_
    have hpath := hlinked.path
    rw [← numbered_fst, ← hrep.head, numbered_fst] at hpath
    rw [← hnext]
    exact hpath
  case backward =>
    intro idx hidx
    have hring := hrep.linked.ring hrep.head hwhole.last (x := idx.toNat) (by
      rw [numbered_fst]
      exact mem_numbers (l := 0 :: s.entries.map Prod.fst) |>.mpr hidx)
    rw [hnext, hprev, hprev, hnext] at hring
    exact ⟨toNat_injective hring.1, toNat_injective hring.2⟩
  case count =>
    have hcount := hrep.count
    rwa [numbered, List.length_map] at hcount
  case lookup =>
    intro idx
    rw [← unbounded_lookupNodeIdxList, hwhole.lookupNodeIdxList, lookup_numbered]
  case indices => exact ⟨hids.1.of_map, fun hzero => hids.2 (mem_numbers.mpr hzero)⟩
  case free =>
    obtain ⟨-, hnodup, hdisjoint⟩ := List.nodup_append.mp hrep.nodup
    have hindices := fun idx : UInt32 => hrep.indices idx.toNat
    obtain ⟨words, rfl⟩ := exists_words fun i (hi : i ∈ free) =>
      ((hrep.indices i).mp (List.mem_append_right _ hi)).2.trans s.table.size.toNat_lt
    refine ⟨words, (Links.path_map toNat_injective hnext).mp hrep.freeList, hnodup.of_map,
      fun idx => ?_⟩
    specialize hindices idx
    rw [List.mem_append, numbered_fst, mem_numbers, mem_numbers] at hindices
    rw [numbered_fst] at hdisjoint
    constructor
    · intro hidx
      obtain ⟨hpos, hlt⟩ := hindices.mp (Or.inr hidx)
      exact ⟨UInt32.lt_iff_toNat_lt.mpr hpos, UInt32.lt_iff_toNat_lt.mpr hlt,
        fun hlive => hdisjoint _ (mem_numbers.mpr hlive) _ (mem_numbers.mpr hidx) rfl⟩
    · rintro ⟨hpos, hlt, hlive⟩
      exact (hindices.mpr ⟨UInt32.lt_iff_toNat_lt.mp hpos,
        UInt32.lt_iff_toNat_lt.mp hlt⟩).resolve_left hlive

/-- A live node is counted. -/
theorem Whole.counted (h : s.Whole) {node : IdxListNode α} (hnode : s.table.node idx = some node)
    (hlive : node.data ≠ none) : 0 < s.table.nodeCount.toNat := by
  have hok := h.ok
  have hcount : s.table.nodeCount.toNat = s.entries.length := hok.count
  rw [hcount, List.length_pos_iff]
  intro hnil
  have hlookup := hok.lookup idx
  rw [hnil, List.lookup_nil, lookupNodeIdxList] at hlookup
  split at hlookup
  next =>
    rw [hnode] at hlookup
    exact hlive (Option.some.inj hlookup)
  next hsize =>
    -- only EmptyList is read past the end of the array
    unfold IdxListTable.node at hnode
    split at hnode
    next =>
      split at hnode
      next => exact hlive (congrArg IdxListNode.data (Option.some.inj hnode).symm)
      next => exact absurd hnode (by simp)
    next => exact absurd hnode (by rw [if_neg hsize]; simp)

/-- All nodes but node 0 are live or free, and the array is a number of pages. -/
theorem Whole.size (h : s.Whole) :
    256 ∣ s.table.size.toNat ∧ s.entries.length ≤ s.table.size.toNat - 1 ∧
      (s.table.nodeFreeList = 0 → s.entries.length = s.table.size.toNat - 1) := by
  obtain ⟨free, hwhole⟩ := h
  have hlength : (numbered s.entries).length + free.length = s.table.size.toNat - 1 :=
    hwhole.length_eq
  rw [numbered, List.length_map] at hlength
  refine ⟨hwhole.pages, by omega, fun hfull => ?_⟩
  have hnil : free = [] := hwhole.represents.nodeFreeList_eq_zero.mp (UInt32.toNat_inj.mpr hfull)
  rw [hnil] at hlength
  exact hlength

/-- There is always another number for `NodeCount`. -/
theorem Whole.count_lt (h : s.Whole) : s.table.nodeCount.toNat + 1 < 2 ^ 32 := by
  have hcount : s.table.nodeCount.toNat = s.entries.length := h.ok.count
  obtain ⟨hpages, hle, -⟩ := h.size
  have hlt := s.table.size.toNat_lt
  omega

/-! ## The calls -/

/-- **`InsertHeadIdxList`** with room for the node gives it a new index, or there is no
block and nothing changes. -/
theorem Whole.insertHead (h : s.Whole) (hroom : IdxRoom s (.insertHead block data)) :
    (block = none ∧ insertHeadIdxList block (some data) s.table = some (0, s.table)) ∨
      ∃ idx table, idx ≠ 0 ∧ idx ∉ s.entries.map Prod.fst ∧
        insertHeadIdxList block (some data) s.table = some (idx, table) ∧
        IdxListRun.Whole ⟨table, (idx, data) :: s.entries⟩ := by
  have hgrows : s.table.nodeFreeList = 0 → block = none ∨ s.table.size.toNat + 256 < 2 ^ 32 := by
    intro hfull
    refine hroom.imp_right fun hlt => ?_
    have hlength := h.size.2.2 hfull
    omega
  have hnumbers := unbounded_insertHeadIdxList (some data) h.count_lt hgrows
  obtain ⟨free, hwhole⟩ := h
  rcases hwhole.insertHeadIdxList (block.map unboundedNodes) data with
    ⟨hblock, heq⟩ | ⟨i, grown, free', hpos, hnew, hgrown, heq⟩
  · rw [hnumbers] at heq
    obtain ⟨⟨idx, table⟩, hword, hpair⟩ := Option.map_eq_some_iff.mp heq
    obtain ⟨hidx, htable⟩ := Prod.mk.inj hpair
    obtain rfl : idx = 0 := toNat_injective hidx
    obtain rfl : table = s.table := IdxListTable.unbounded_inj htable
    exact Or.inl ⟨Option.map_eq_none_iff.mp hblock, hword⟩
  · rw [hnumbers] at heq
    obtain ⟨⟨idx, table⟩, hword, hpair⟩ := Option.map_eq_some_iff.mp heq
    obtain ⟨rfl, rfl⟩ := Prod.mk.inj hpair
    rw [numbered_fst, mem_numbers] at hnew
    exact Or.inr ⟨idx, table, fun hzero => Nat.ne_of_gt hpos (congrArg UInt32.toNat hzero), hnew,
      hword, free', hgrown⟩

/-- **Without room** it copies the array into an empty block. -/
theorem Whole.insertHead_overruns (h : s.Whole) (hroom : ¬ IdxRoom s (.insertHead block data)) :
    insertHeadIdxList block (some data) s.table = none := by
  obtain ⟨hblock, hlength⟩ := not_or.mp hroom
  obtain ⟨block, rfl⟩ := Option.ne_none_iff_exists'.mp hblock
  obtain ⟨hpages, hle, -⟩ := h.size
  have hlt := s.table.size.toNat_lt
  obtain ⟨free, hwhole⟩ := h
  have hcount : (numbered s.entries).length + free.length = s.table.size.toNat - 1 :=
    hwhole.length_eq
  rw [numbered, List.length_map] at hcount
  have hnil : free = [] := List.eq_nil_of_length_eq_zero (by omega)
  have hfull : s.table.nodeFreeList = 0 :=
    toNat_injective (hwhole.represents.nodeFreeList_eq_zero.mpr hnil)
  have hlist : s.table.nodeList ≠ none := by
    intro hnone
    have hsize : s.table.size.toNat = 0 :=
      hwhole.represents.array.mp (congrArg (Option.map unboundedNodes) hnone)
    omega
  rw [insertHeadIdxList, if_pos hfull, extendIdxList_wraps block (by omega) hlist]
  rfl

/-- **`RemoveNodeIdxList`** on an index that is not live changes nothing. -/
theorem Whole.removeNode_dead (h : s.Whole) (hdead : idx ∉ s.entries.map Prod.fst) :
    removeNodeIdxList s.table idx = some (none, s.table) := by
  have hnumbers := unbounded_removeNodeIdxList idx fun _ _ => h.counted
  obtain ⟨free, hwhole⟩ := h
  rw [← mem_numbers, ← numbered_fst] at hdead
  rw [hwhole.represents.removeNodeIdxList_dead hdead] at hnumbers
  obtain ⟨⟨data, table⟩, hword, hpair⟩ := Option.map_eq_some_iff.mp hnumbers.symm
  obtain ⟨rfl, htable⟩ := Prod.mk.inj hpair
  obtain rfl : table = s.table := IdxListTable.unbounded_inj htable
  exact hword

/-- And otherwise drops the entry. -/
theorem Whole.removeNode (h : s.Whole) {before after : List (UInt32 × α)}
    (hentries : s.entries = before ++ (idx, data) :: after) :
    ∃ table, removeNodeIdxList s.table idx = some (some data, table) ∧
      IdxListRun.Whole ⟨table, before ++ after⟩ := by
  have hnumbers := unbounded_removeNodeIdxList idx fun _ _ => h.counted
  obtain ⟨free, hwhole⟩ := h
  have hsplit : numbered s.entries
      = numbered before ++ (idx.toNat, data) :: numbered after := by
    rw [hentries, numbered, List.map_append, List.map_cons]
    rfl
  rw [hsplit] at hwhole
  obtain ⟨removed, heq, hwhole'⟩ := hwhole.removeNodeIdxList
  rw [heq] at hnumbers
  obtain ⟨⟨data', table⟩, hword, hpair⟩ := Option.map_eq_some_iff.mp hnumbers.symm
  obtain ⟨rfl, rfl⟩ := Prod.mk.inj hpair
  refine ⟨table, hword, idx.toNat :: free, ?_⟩
  rwa [numbered, List.map_append]

/-- **`RemoveHeadIdxList`** removes the newest entry. -/
theorem Whole.removeHead {table : IdxListTable α} {entries : List (UInt32 × α)}
    (h : IdxListRun.Whole ⟨table, (idx, data) :: entries⟩) :
    ∃ table', removeHeadIdxList table = some (some data, table') ∧
      IdxListRun.Whole ⟨table', entries⟩ := by
  have hnumbers := unbounded_removeHeadIdxList fun _ _ => h.counted
  obtain ⟨free, hwhole⟩ := h
  obtain ⟨removed, heq, hwhole'⟩ :=
    @Unbounded.IdxListTable.Whole.removeHeadIdxList _ _ (numbered entries) _ _ _ hwhole
  rw [heq] at hnumbers
  obtain ⟨⟨data', table'⟩, hword, hpair⟩ := Option.map_eq_some_iff.mp hnumbers.symm
  obtain ⟨rfl, rfl⟩ := Prod.mk.inj hpair
  exact ⟨table', hword, idx.toNat :: free, hwhole'⟩

/-- On an empty list it changes nothing. -/
theorem Whole.removeHead_nil {table : IdxListTable α} (h : IdxListRun.Whole ⟨table, []⟩) :
    removeHeadIdxList table = some (none, table) := by
  have hnumbers := unbounded_removeHeadIdxList fun _ _ => h.counted
  obtain ⟨free, hwhole⟩ := h
  rw [hwhole.removeHeadIdxList_nil] at hnumbers
  obtain ⟨⟨data, table'⟩, hword, hpair⟩ := Option.map_eq_some_iff.mp hnumbers.symm
  obtain ⟨rfl, htable⟩ := Prod.mk.inj hpair
  obtain rfl : table' = table := IdxListTable.unbounded_inj htable
  exact hword

/-- **One call** returns what it should exactly if it has room. -/
theorem Whole.call_iff (h : s.Whole) (call : IdxListCall α) :
    IdxCallOk s call ↔ IdxRoom s call := by
  cases call with
  | insertHead block data =>
    constructor
    · rintro ⟨idx, table, heq, -, -⟩
      by_contra hroom
      rw [h.insertHead_overruns hroom] at heq
      exact absurd heq (by simp)
    · intro hroom
      rcases h.insertHead hroom with ⟨hblock, heq⟩ | ⟨idx, table, hidx, hnew, heq, -⟩
      · exact ⟨0, s.table, heq, h.ok.indices.2, fun _ => ⟨hblock, rfl⟩⟩
      · exact ⟨idx, table, heq, hnew, fun hzero => absurd hzero hidx⟩
  | removeNode idx =>
    refine iff_of_true ?_ trivial
    cases hlookup : s.entries.lookup idx with
    | none =>
      have heq := h.removeNode_dead ((lookup_eq_none idx s.entries).mp hlookup)
      exact ⟨s.table, by rw [hlookup, heq], fun _ => rfl⟩
    | some data =>
      obtain ⟨before, after, hsplit, -⟩ := List.lookup_eq_some_iff.mp hlookup
      obtain ⟨table', heq, -⟩ := h.removeNode hsplit
      refine ⟨table', by rw [hlookup, heq], fun hdead => ?_⟩
      rw [(lookup_eq_none idx s.entries).mpr hdead] at hlookup
      exact absurd hlookup (Option.some_ne_none data).symm
  | removeHead =>
    refine iff_of_true ?_ trivial
    obtain ⟨table, entries⟩ := s
    cases entries with
    | nil => exact ⟨table, h.removeHead_nil, fun _ => rfl⟩
    | cons entry entries =>
      obtain ⟨table', heq, -⟩ := h.removeHead
      exact ⟨table', heq, fun hnil => absurd hnil (by simp)⟩

/-- And keeps the invariant, if it returns at all. -/
theorem Whole.step {call : IdxListCall α} (h : s.Whole) (hs' : idxListStep s call = some s') :
    s'.Whole := by
  cases call with
  | insertHead block data =>
    by_cases hroom : IdxRoom s (.insertHead block data)
    · rcases h.insertHead hroom with ⟨-, heq⟩ | ⟨idx, table, hidx, -, heq, hwhole⟩
      · rw [idxListStep, heq] at hs'
        obtain rfl := Option.some.inj hs'
        exact h
      · rw [idxListStep, heq] at hs'
        obtain rfl := Option.some.inj hs'
        show IdxListRun.Whole ⟨table, entriesInserted idx data s.entries⟩
        rwa [entriesInserted, if_neg hidx]
    · rw [idxListStep, h.insertHead_overruns hroom] at hs'
      exact absurd hs' (by simp)
  | removeNode idx =>
    cases hlookup : s.entries.lookup idx with
    | none =>
      have hdead := (lookup_eq_none idx s.entries).mp hlookup
      rw [idxListStep, h.removeNode_dead hdead] at hs'
      obtain rfl := Option.some.inj hs'
      show IdxListRun.Whole ⟨s.table, entriesRemoved idx s.entries⟩
      rwa [entriesRemoved_of_dead hdead]
    | some data =>
      obtain ⟨before, after, hsplit, -⟩ := List.lookup_eq_some_iff.mp hlookup
      have hnodup := h.ok.indices.1
      obtain ⟨table', heq, hwhole⟩ := h.removeNode hsplit
      rw [idxListStep, heq] at hs'
      obtain rfl := Option.some.inj hs'
      show IdxListRun.Whole ⟨table', entriesRemoved idx s.entries⟩
      rw [hsplit] at hnodup ⊢
      rwa [entriesRemoved_middle hnodup]
  | removeHead =>
    obtain ⟨table, entries⟩ := s
    cases entries with
    | nil =>
      rw [idxListStep, h.removeHead_nil] at hs'
      obtain rfl := Option.some.inj hs'
      exact h
    | cons entry entries =>
      obtain ⟨table', heq, hwhole⟩ := h.removeHead
      rw [idxListStep, heq] at hs'
      obtain rfl := Option.some.inj hs'
      exact hwhole

end Whole

end IdxListRun

/-! ## Runs -/

/-- **The index list is a list of entries with stable indices** exactly in the runs that
do not grow it once it has 2^32 - 257 entries, whenever the pool fails. -/
theorem idxListRefines_iff (calls : List (IdxListCall α)) :
    (Always idxListStep IdxListOk .initial calls ∧
      Throughout idxListStep IdxCallOk .initial calls) ↔
      Throughout idxListStep IdxRoom .initial calls := by
  have hinit : (IdxListRun.initial : IdxListRun α).Whole := IdxListRun.whole_initial
  have halways : Always idxListStep IdxListOk .initial calls :=
    always_of_inv (fun h => h.ok) (fun h hs' => h.step hs') hinit
  rw [and_iff_right halways]
  exact throughout_iff (E := fun _ => True) (fun h _ => h.call_iff _)
    (fun h _ _ hs' => h.step hs') hinit fun _ _ => trivial

/-- Insertions, for which the pool always has a block. -/
def insertions (n : Nat) : List (IdxListCall Unit) :=
  List.replicate n (.insertHead (some fun _ => emptyList) ())

/-- The insertion that comes to 2^32 - 256 entries overruns the block. -/
theorem insertions_overrun {s : IdxListRun Unit} {n : Nat} (h : s.Whole)
    (hlength : s.entries.length + n = 2 ^ 32 - 257) :
    ¬ Throughout idxListStep IdxCallOk s (insertions (n + 1)) := by
  intro hrun
  induction n generalizing s with
  | zero =>
    have hroom := ((h.call_iff _).mp hrun.1).resolve_left (by simp)
    exact Nat.ne_of_lt hroom hlength
  | succ n ih =>
    have hroom := (h.call_iff _).mp hrun.1
    rcases h.insertHead hroom with ⟨hblock, -⟩ | ⟨idx, table, hidx, -, heq, hwhole⟩
    · exact absurd hblock (by simp)
    · refine ih hwhole ?_ (hrun.2 _ ?_)
      · show s.entries.length + 1 + n = _
        omega
      · rw [idxListStep, heq, Option.map_some]
        simp only [entriesInserted, if_neg hidx]

/-- **The code's table is not always such a list.** -/
theorem not_idxListRefines :
    ¬ (Always idxListStep IdxListOk .initial (insertions (2 ^ 32 - 257 + 1)) ∧
      Throughout idxListStep IdxCallOk .initial (insertions (2 ^ 32 - 257 + 1))) :=
  fun h => insertions_overrun IdxListRun.whole_initial (Nat.zero_add _) h.2

end DeepShield.Rtl
