import DeepShield.Pm.ProcessTable

/-!
# The list of exempted processes

`PmGetExemptedProcessList` is to store the ids of all exempted processes in the caller's
buffer. It goes over the process table and calls `PmGetExemptedProcessListCallback` for each
entry.

The count of the ids found is a local variable of the callback, so every entry is the first
one: its id goes to the start of the buffer, and `*BytesReturned` and the status are what the
last entry says. `listsExempted_iff`: the list is right where that makes no difference.
-/

namespace DeepShield.Pm.ExemptedList

open DeepShield.Os

/-- The table as `RtlEnumerateGenericTableAvl` goes over it, by ascending process id. -/
structure EntryTable where
  entries : List DsProcessEntry
  ordered : entries.Pairwise fun e f => e.processId < f.processId

/-- What is stored for the caller: the ids stored to `ProcessList`, one after the other, each
with its index there, and `*BytesReturned`, none for NULL. -/
structure ListOutput where
  stores : List (UInt32 × Nat)
  bytesReturned : Option UInt32
deriving Repr, DecidableEq

/-- `PtrToUlong`. -/
def ptrToUlong (p : UInt64) : UInt32 := p.toUInt32

/-- `FlagOn( ProcessEntry->TrustLevel, TRUST_LEVEL_EXEMPTED )`. -/
def isExempted (processEntry : DsProcessEntry) : Bool :=
  processEntry.trustLevel &&& trustLevelExempted ≠ 0

/-- `PDS_PROCESS_ENUMERATE_CALLBACK`. -/
abbrev ProcessEnumerateCallback :=
  DsProcessEntry → UInt32 → UInt32 → ListOutput → NtStatus × ListOutput

/-- `PmGetExemptedProcessListCallback`. -/
def pmGetExemptedProcessListCallback : ProcessEnumerateCallback :=
  fun processEntry _flags bufferSize output =>
    -- the count starts anew with each entry
    let processCount := 0
    let (status, stores, processCount) :=
      if isExempted processEntry then
        if (processCount + 1) * 4 ≤ bufferSize.toNat then
          (statusSuccess, output.stores ++ [(ptrToUlong processEntry.processId, processCount)],
            processCount + 1)
        else (statusBufferTooSmall, output.stores, processCount + 1)
      else (statusSuccess, output.stores, processCount)
    (status, ⟨stores, output.bytesReturned.map fun _ => UInt32.ofNat (processCount * 4)⟩)

/-- The loop of `PmEnumerateEntryProcessTable`, over the entries that are left. -/
def pmEnumerateLoop (enumerationRoutine : ProcessEnumerateCallback) (flags bufferSize : UInt32) :
    List DsProcessEntry → NtStatus → ListOutput → NtStatus × ListOutput
  | [], status, output => (status, output)
  | processEntry :: rest, _, output =>
    let (status, output) := enumerationRoutine processEntry flags bufferSize output
    pmEnumerateLoop enumerationRoutine flags bufferSize rest status output

/-- `PmEnumerateEntryProcessTable`. -/
def pmEnumerateEntryProcessTable (table : EntryTable)
    (enumerationRoutine : ProcessEnumerateCallback) (flags bufferSize : UInt32)
    (output : ListOutput) : NtStatus × ListOutput :=
  pmEnumerateLoop enumerationRoutine flags bufferSize table.entries statusSuccess output

/-- `PmGetExemptedProcessList`, with what `*BytesReturned` is before. -/
def pmGetExemptedProcessList (table : EntryTable) (bufferSize : UInt32)
    (bytesReturned : Option UInt32) : NtStatus × ListOutput :=
  pmEnumerateEntryProcessTable table pmGetExemptedProcessListCallback 0 bufferSize
    ⟨[], bytesReturned⟩

/-! ## What it is for -/

/-- The ids of the exempted entries, in table order. -/
def exemptedIds (entries : List DsProcessEntry) : List UInt32 :=
  (entries.filter isExempted).map fun processEntry => ptrToUlong processEntry.processId

/-- A result is the list of these ids: each is stored once, at its place, and
`*BytesReturned` is four bytes for each. -/
def IsListOf (ids : List UInt32) (result : NtStatus × ListOutput) : Prop :=
  result.1 = statusSuccess ∧ result.2.stores = ids.zipIdx ∧
    ∀ bytes, result.2.bytesReturned = some bytes → bytes.toNat = 4 * ids.length

/-- A result says that the buffer is too small, and keeps inside it. -/
def IsTooSmall (bufferSize : UInt32) (result : NtStatus × ListOutput) : Prop :=
  result.1 = statusBufferTooSmall ∧
    ∀ store ∈ result.2.stores, 4 * (store.2 + 1) ≤ bufferSize.toNat

/-- The ids of all exempted processes are listed, or the buffer is too small for them. -/
def ListsExempted (table : EntryTable) (bufferSize : UInt32) (bytesReturned : Option UInt32) :
    Prop :=
  IsListOf (exemptedIds table.entries) (pmGetExemptedProcessList table bufferSize bytesReturned) ∨
    bufferSize.toNat < 4 * (exemptedIds table.entries).length ∧
      IsTooSmall bufferSize (pmGetExemptedProcessList table bufferSize bytesReturned)

/-- The last entry is exempted. -/
def LastExempted (entries : List DsProcessEntry) : Prop :=
  ∃ processEntry, entries.getLast? = some processEntry ∧ isExempted processEntry = true

/-- Starting anew with each entry makes no difference: no entry is exempted, and what is in
`*BytesReturned` without any entry is right; or one is, there is room for it, and it is the
last one if `*BytesReturned` is asked for; or there is no room for any and the last one is
exempted. -/
def CountsOneEntry (table : EntryTable) (bufferSize : UInt32) (bytesReturned : Option UInt32) :
    Prop :=
  (exemptedIds table.entries = [] ∧
      (table.entries = [] → ∀ bytes, bytesReturned = some bytes → bytes = 0)) ∨
    ((exemptedIds table.entries).length = 1 ∧ 4 ≤ bufferSize.toNat ∧
      (bytesReturned ≠ none → LastExempted table.entries)) ∨
    (bufferSize.toNat < 4 ∧ LastExempted table.entries)

section List

variable {entries : List DsProcessEntry} {bufferSize : UInt32}

/-- **One entry.** -/
theorem pmGetExemptedProcessListCallback_eq (processEntry : DsProcessEntry)
    (flags bufferSize : UInt32) (output : ListOutput) :
    pmGetExemptedProcessListCallback processEntry flags bufferSize output
      = (if isExempted processEntry = true ∧ bufferSize.toNat < 4 then statusBufferTooSmall
          else statusSuccess,
        ⟨output.stores ++ (if 4 ≤ bufferSize.toNat then
            (exemptedIds [processEntry]).map fun id => (id, 0) else []),
          output.bytesReturned.map fun _ => if isExempted processEntry then 4 else 0⟩) := by
  unfold pmGetExemptedProcessListCallback exemptedIds
  cases hexempted : isExempted processEntry with
  | false => simp [hexempted]
  | true =>
    by_cases hroom : 4 ≤ bufferSize.toNat
    · simp [hexempted, hroom, Nat.not_lt.mpr hroom]
    · simp [hroom, Nat.not_le.mp hroom]

theorem exemptedIds_cons (processEntry : DsProcessEntry) (entries : List DsProcessEntry) :
    exemptedIds (processEntry :: entries) = exemptedIds [processEntry] ++ exemptedIds entries := by
  unfold exemptedIds
  rw [← List.map_append, ← List.filter_append, List.singleton_append]

/-- **What is stored**: every id at the start of the buffer, if there is room for one. -/
theorem pmEnumerateLoop_stores (flags : UInt32) :
    ∀ (entries : List DsProcessEntry) (status : NtStatus) (output : ListOutput),
      (pmEnumerateLoop pmGetExemptedProcessListCallback flags bufferSize entries status
          output).2.stores
        = output.stores ++ if 4 ≤ bufferSize.toNat then
            (exemptedIds entries).map fun id => (id, 0) else [] := by
  intro entries
  induction entries with
  | nil =>
    intro status output
    show output.stores = output.stores ++ _
    split
    next => exact (List.append_nil _).symm
    next => exact (List.append_nil _).symm
  | cons processEntry rest ih =>
    intro status output
    rw [pmEnumerateLoop, pmGetExemptedProcessListCallback_eq,
      exemptedIds_cons processEntry rest]
    dsimp only
    rw [ih, List.append_assoc]
    split
    next => rw [List.map_append]
    next => rfl

/-- **The last entry decides** on the status and on `*BytesReturned`. -/
theorem pmEnumerateLoop_last (flags : UInt32) {last : DsProcessEntry} :
    ∀ {entries : List DsProcessEntry}, entries.getLast? = some last →
      ∀ (status : NtStatus) (output : ListOutput),
      (pmEnumerateLoop pmGetExemptedProcessListCallback flags bufferSize entries status output).1
          = (if isExempted last = true ∧ bufferSize.toNat < 4 then statusBufferTooSmall
            else statusSuccess) ∧
        (pmEnumerateLoop pmGetExemptedProcessListCallback flags bufferSize entries status
            output).2.bytesReturned
          = output.bytesReturned.map fun _ => if isExempted last then 4 else 0 := by
  intro entries
  induction entries with
  | nil =>
    intro hlast
    exact absurd hlast (by simp)
  | cons processEntry rest ih =>
    intro hlast status output
    rw [pmEnumerateLoop, pmGetExemptedProcessListCallback_eq]
    cases rest with
    | nil =>
      obtain rfl : processEntry = last := by simpa using hlast
      exact ⟨rfl, rfl⟩
    | cons second rest =>
      obtain ⟨hstatus, hbytes⟩ := ih (by rwa [List.getLast?_cons_cons] at hlast) _ _
      refine ⟨hstatus, hbytes.trans ?_⟩
      rw [Option.map_map]
      rfl

/-- Ids that are all stored at the start are at their places if there is one at most. -/
theorem map_zero_eq_zipIdx_iff (ids : List UInt32) :
    (ids.map fun id => (id, 0)) = ids.zipIdx ↔ ids.length ≤ 1 := by
  match ids with
  | [] => simp
  | [id] => simp
  | id :: other :: rest => simp

theorem exemptedIds_of_last {last : DsProcessEntry} (hlast : entries.getLast? = some last)
    (hexempted : isExempted last = true) : exemptedIds entries ≠ [] := by
  intro hnil
  have hmem : last ∈ entries.filter isExempted :=
    List.mem_filter.mpr ⟨List.mem_of_getLast? hlast, hexempted⟩
  rw [List.map_eq_nil_iff.mp hnil] at hmem
  exact absurd hmem (by simp)

end List

section Result

variable {table : EntryTable} {bufferSize : UInt32} {bytesReturned : Option UInt32}

theorem pmGetExemptedProcessList_stores :
    (pmGetExemptedProcessList table bufferSize bytesReturned).2.stores
      = if 4 ≤ bufferSize.toNat then (exemptedIds table.entries).map fun id => (id, 0) else [] := by
  unfold pmGetExemptedProcessList pmEnumerateEntryProcessTable
  rw [pmEnumerateLoop_stores, List.nil_append]

/-- **An empty table** leaves everything as it was. -/
theorem pmGetExemptedProcessList_nil (h : table.entries = []) :
    pmGetExemptedProcessList table bufferSize bytesReturned
      = (statusSuccess, ⟨[], bytesReturned⟩) := by
  unfold pmGetExemptedProcessList pmEnumerateEntryProcessTable
  rw [h]
  rfl

/-- **The last entry** decides, in a table that has one. -/
theorem pmGetExemptedProcessList_last {last : DsProcessEntry}
    (hlast : table.entries.getLast? = some last) :
    (pmGetExemptedProcessList table bufferSize bytesReturned).1
        = (if isExempted last = true ∧ bufferSize.toNat < 4 then statusBufferTooSmall
          else statusSuccess) ∧
      (pmGetExemptedProcessList table bufferSize bytesReturned).2.bytesReturned
        = bytesReturned.map fun _ => if isExempted last then 4 else 0 :=
  pmEnumerateLoop_last 0 hlast statusSuccess ⟨[], bytesReturned⟩

/-- **The status** is a failure only if the last entry finds no room. -/
theorem pmGetExemptedProcessList_status :
    (pmGetExemptedProcessList table bufferSize bytesReturned).1 = statusSuccess ∧
        ¬ (bufferSize.toNat < 4 ∧ LastExempted table.entries) ∨
      (pmGetExemptedProcessList table bufferSize bytesReturned).1 = statusBufferTooSmall ∧
        bufferSize.toNat < 4 ∧ LastExempted table.entries := by
  cases hlast : table.entries.getLast? with
  | none =>
    left
    rw [pmGetExemptedProcessList_nil (List.getLast?_eq_none_iff.mp hlast)]
    refine ⟨rfl, fun ⟨_, last, hsome, _⟩ => ?_⟩
    exact absurd (hlast.symm.trans hsome) (by simp)
  | some last =>
    obtain ⟨hstatus, -⟩ := @pmGetExemptedProcessList_last table bufferSize bytesReturned last hlast
    by_cases hfull : isExempted last = true ∧ bufferSize.toNat < 4
    · right
      exact ⟨hstatus.trans (if_pos hfull), hfull.2, last, hlast, hfull.1⟩
    · left
      refine ⟨hstatus.trans (if_neg hfull), fun ⟨hsmall, other, hother, hexempted⟩ => ?_⟩
      obtain rfl : last = other := Option.some.inj (hlast.symm.trans hother)
      exact hfull ⟨hexempted, hsmall⟩

/-- **`*BytesReturned`** without an exempted entry: what it was is right in an empty table. -/
theorem pmGetExemptedProcessList_bytesNone (hids : exemptedIds table.entries = []) :
    (∀ bytes, (pmGetExemptedProcessList table bufferSize bytesReturned).2.bytesReturned
        = some bytes → bytes.toNat = 0) ↔
      (table.entries = [] → ∀ bytes, bytesReturned = some bytes → bytes = 0) := by
  cases hlast : table.entries.getLast? with
  | none =>
    have hentries : table.entries = [] := List.getLast?_eq_none_iff.mp hlast
    rw [pmGetExemptedProcessList_nil hentries]
    constructor
    · intro h _ bytes hbytes
      exact UInt32.toNat_inj.mp (h bytes hbytes)
    · intro hbefore bytes hbytes
      rw [hbefore hentries bytes hbytes]
      rfl
  | some last =>
    have hentries : table.entries ≠ [] := fun hnil => by
      rw [hnil] at hlast
      exact absurd hlast (by simp)
    have hnot : isExempted last ≠ true := fun hexempted =>
      exemptedIds_of_last hlast hexempted hids
    refine iff_of_true ?_ fun hnil => absurd hnil hentries
    rw [(pmGetExemptedProcessList_last hlast).2]
    intro bytes hsome
    obtain ⟨before, -, rfl⟩ := Option.map_eq_some_iff.mp hsome
    rw [if_neg hnot]
    rfl

/-- **`*BytesReturned`** with one exempted entry: it has to be the last. -/
theorem pmGetExemptedProcessList_bytesOne (hlength : (exemptedIds table.entries).length = 1) :
    (∀ bytes, (pmGetExemptedProcessList table bufferSize bytesReturned).2.bytesReturned
        = some bytes → bytes.toNat = 4) ↔ (bytesReturned ≠ none → LastExempted table.entries) := by
  cases hlast : table.entries.getLast? with
  | none =>
    rw [List.getLast?_eq_none_iff.mp hlast] at hlength
    exact absurd (show 0 = 1 from hlength) (by decide)
  | some last =>
    rw [(pmGetExemptedProcessList_last hlast).2]
    constructor
    · intro h hasked
      refine ⟨last, hlast, ?_⟩
      obtain ⟨before, hbefore⟩ := Option.ne_none_iff_exists'.mp hasked
      have hfour := h _ (by rw [hbefore]; rfl)
      by_contra hnot
      rw [if_neg hnot] at hfour
      exact absurd (show (0 : UInt32).toNat = 4 from hfour) (by decide)
    · intro hasked bytes hsome
      obtain ⟨before, hbefore, rfl⟩ := Option.map_eq_some_iff.mp hsome
      obtain ⟨other, hother, hexempted⟩ := hasked (by rw [hbefore]; simp)
      obtain rfl : last = other := Option.some.inj (hlast.symm.trans hother)
      rw [if_pos hexempted]
      rfl

/-- **`*BytesReturned`** is right for no entry, or for one that is the last. -/
theorem pmGetExemptedProcessList_bytes (hone : (exemptedIds table.entries).length ≤ 1) :
    (∀ bytes, (pmGetExemptedProcessList table bufferSize bytesReturned).2.bytesReturned
        = some bytes → bytes.toNat = 4 * (exemptedIds table.entries).length) ↔
      (exemptedIds table.entries = [] ∧
        (table.entries = [] → ∀ bytes, bytesReturned = some bytes → bytes = 0)) ∨
      ((exemptedIds table.entries).length = 1 ∧
        (bytesReturned ≠ none → LastExempted table.entries)) := by
  rcases Nat.lt_or_ge 0 (exemptedIds table.entries).length with hpos | hzero
  · have hlength : (exemptedIds table.entries).length = 1 := by omega
    have hids : exemptedIds table.entries ≠ [] := List.length_pos_iff.mp hpos
    rw [or_iff_right fun h => hids h.1, hlength, pmGetExemptedProcessList_bytesOne hlength,
      and_iff_right rfl]
  · have hids : exemptedIds table.entries = [] := List.eq_nil_of_length_eq_zero (by omega)
    rw [or_iff_left fun h => by omega, and_iff_right hids, hids]
    exact pmGetExemptedProcessList_bytesNone hids

/-- **The exempted processes are listed** exactly where counting one entry is enough. -/
theorem listsExempted_iff (table : EntryTable) (bufferSize : UInt32)
    (bytesReturned : Option UInt32) :
    ListsExempted table bufferSize bytesReturned ↔
      CountsOneEntry table bufferSize bytesReturned := by
  have hdifferent : statusBufferTooSmall ≠ statusSuccess := by decide
  have hstores := @pmGetExemptedProcessList_stores table bufferSize bytesReturned
  unfold ListsExempted CountsOneEntry IsListOf IsTooSmall
  rcases @pmGetExemptedProcessList_status table bufferSize bytesReturned with
    ⟨hstatus, hroom⟩ | ⟨hstatus, hsmall, hexempted⟩
  · -- it succeeds, so it has to be the list
    rw [hstatus, and_iff_right rfl, or_iff_left fun h => hdifferent h.2.1.symm]
    have hplaces : (pmGetExemptedProcessList table bufferSize bytesReturned).2.stores
        = (exemptedIds table.entries).zipIdx ↔ (exemptedIds table.entries).length ≤ 1 ∧
          (exemptedIds table.entries = [] ∨ 4 ≤ bufferSize.toNat) := by
      rw [hstores]
      by_cases hfour : 4 ≤ bufferSize.toNat
      · rw [if_pos hfour, map_zero_eq_zipIdx_iff, and_iff_left (Or.inr hfour)]
      · rw [if_neg hfour, or_iff_left hfour, eq_comm, List.zipIdx_eq_nil_iff]
        exact ⟨fun hnil => ⟨by rw [hnil]; exact Nat.zero_le 1, hnil⟩, And.right⟩
    rw [hplaces]
    constructor
    · rintro ⟨⟨hone, hplace⟩, hbytes⟩
      rcases (pmGetExemptedProcessList_bytes hone).mp hbytes with hnone | ⟨hlength, hlast⟩
      · exact Or.inl hnone
      · refine Or.inr (Or.inl ⟨hlength, hplace.resolve_left fun hnil => ?_, hlast⟩)
        rw [hnil] at hlength
        exact absurd hlength (by simp)
    · rintro (hnone | ⟨hlength, hfour, hlast⟩ | hfull)
      · have hone : (exemptedIds table.entries).length ≤ 1 := by
          rw [hnone.1]
          exact Nat.zero_le 1
        exact ⟨⟨hone, Or.inl hnone.1⟩, (pmGetExemptedProcessList_bytes hone).mpr (Or.inl hnone)⟩
      · have hone := Nat.le_of_eq hlength
        exact ⟨⟨hone, Or.inr hfour⟩,
          (pmGetExemptedProcessList_bytes hone).mpr (Or.inr ⟨hlength, hlast⟩)⟩
      · exact absurd hfull hroom
  · -- it finds no room, and there is none
    refine iff_of_true (Or.inr ⟨?_, hstatus, ?_⟩) (Or.inr (Or.inr ⟨hsmall, hexempted⟩))
    · obtain ⟨last, hlast, hflag⟩ := hexempted
      have hpos := List.length_pos_iff.mpr (exemptedIds_of_last hlast hflag)
      omega
    · rw [hstores, if_neg (Nat.not_le.mpr hsmall)]
      intro store hstore
      exact absurd hstore (by simp)

end Result

/-- The processes 8 and 12, both exempted. -/
def twoExempted : EntryTable where
  entries := [⟨8, Rtl.Unbounded.initializeIdxList, trustLevelExempted⟩,
    ⟨12, Rtl.Unbounded.initializeIdxList, trustLevelExempted⟩]
  ordered := by simp

/-- Only the last of the two is listed, and four bytes are returned. -/
theorem not_listsExempted_two : ¬ ListsExempted twoExempted 4096 (some 0) := by
  rintro (⟨-, hstores, -⟩ | ⟨hsmall, -⟩)
  · exact absurd hstores (by decide)
  · exact absurd hsmall (by decide)

end DeepShield.Pm.ExemptedList
