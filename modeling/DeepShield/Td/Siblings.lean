import DeepShield.Lib.Runs
import DeepShield.Td.CopyCode

/-!
# Paired addresses are close, as far as they are

Only `TdFindSibling` compares addresses, and it compares the low 32 bits of
their difference. An orphan whose `Before.Address` is a multiple of 4 GiB away
from the new address (or 2 GiB: `abs(INT_MIN)` is negative) passes the test, and
`TdUpdateSibling` pairs the two. The distance `TdCopySiblingMemory` later copies
into `Code` is then that difference.

`EntryInv` is what creation, pairing, the swap, recycling and clearing keep of
an entry: an entry without a first address is cleared, and an entry with both
fits. All of them do so whatever the addresses, except the pairing of an orphan
(`tdUpdateSibling_addresses`), which needs the addresses to be close
(`PairsNear`). `pairsStayClose_iff` says that this is exactly what a run needs.

What an event does to the table is said once, in `tdRecordEvent_ways` and
`tdStep_cases`; the later modules start from these two.
-/

namespace DeepShield.Td

open DeepShield.Lib DeepShield.Mmu

/-! ## What is claimed of a run -/

/-- Every entry with two addresses fits. -/
def PairsClose (head : TscTable) : Prop :=
  ∀ entry ∈ head.entries, entry.before.address ≠ 0 → entry.after.address ≠ 0 → entry.Fits

instance (entry : TscEntry) : Decidable entry.Fits :=
  inferInstanceAs (Decidable (_ ∧ _))

instance : DecidablePred PairsClose :=
  fun head => inferInstanceAs (Decidable (∀ entry ∈ head.entries, _ → _ → entry.Fits))

/-- Inside one call: the entries are close once the event is recorded, and the
copy that may follow stays inside `Code`. -/
def CallFits (head : TscTable) (event : TscEvent) : Prop :=
  (∃ i recorded, tdRecordEvent head event.tscHash event.offensiveAddress event.timeStamp
      = some (i, recorded) ∧ PairsClose recorded) ∧
    ∃ outcome, tdProcessTscEvent head event = some outcome

/-- Between the calls of a run and inside them. -/
def PairsStayClose (events : List TscEvent) : Prop :=
  Always tdStep PairsClose .zero events ∧ Throughout tdStep CallFits .zero events

/-- The addresses are in order and close, or in the other order and close. -/
def Near (a b : UInt64) : Prop :=
  if a > b then a - b < siblingDistanceLimit else b - a < siblingDistanceLimit

instance (a b : UInt64) : Decidable (Near a b) := by
  unfold Near
  exact inferInstance

/-- An event that adds its address to an orphan adds a near one. -/
def PairsNear (head : TscTable) (event : TscEvent) : Prop :=
  ∀ i, tdFindSibling head event.tscHash event.offensiveAddress = some i →
    (head.get i).before.address ≠ event.offensiveAddress →
    (head.get i).after.address ≠ event.offensiveAddress →
    Near (head.get i).before.address event.offensiveAddress

instance (head : TscTable) (event : TscEvent) : Decidable (PairsNear head event) :=
  match h : tdFindSibling head event.tscHash event.offensiveAddress with
  | none => isTrue fun _ hi => absurd (h.symm.trans hi) (Option.some_ne_none _).symm
  | some i => decidable_of_iff ((head.get i).before.address ≠ event.offensiveAddress →
      (head.get i).after.address ≠ event.offensiveAddress →
      Near (head.get i).before.address event.offensiveAddress)
    ⟨fun hnear _ hj => Option.some.inj (h.symm.trans hj) ▸ hnear, fun hnear => hnear i h⟩

/-! ## Entries of a table -/

/-- What holds of every entry. -/
structure EntryInv (entry : TscEntry) : Prop where
  cleared : entry.before.address = 0 → entry.after.address = 0 ∧ entry.tscHash = 0
  fits : entry.before.address ≠ 0 → entry.after.address ≠ 0 → entry.Fits

/-- What holds of every table. -/
def TableInv (head : TscTable) : Prop := ∀ entry ∈ head.entries, EntryInv entry

theorem entryInv_clear : EntryInv tdClearSibling :=
  ⟨fun _ => ⟨rfl, rfl⟩, fun h => absurd rfl h⟩

theorem tableInv_zero : TableInv .zero := by
  intro entry hmem
  obtain rfl := List.eq_of_mem_replicate hmem
  exact entryInv_clear

namespace TscTable

variable {head : TscTable} {i : Nat} {entry : TscEntry}

theorem get_eq (h : i < head.entries.length) : head.get i = head.entries[i] := by
  show head.entries.getD i tdClearSibling = head.entries[i]
  rw [List.getD_eq_getElem?_getD, List.getElem?_eq_getElem h]
  rfl

theorem get_set (h : i < maxTscHits) : (head.set i entry).get i = entry := by
  show (head.entries.set i entry).getD i tdClearSibling = entry
  rw [List.getD_eq_getElem?_getD, List.getElem?_set_self (by rw [head.length_eq]; exact h)]
  rfl

theorem get_mem (h : i < maxTscHits) : head.get i ∈ head.entries := by
  have hlt : i < head.entries.length := by
    rw [head.length_eq]
    exact h
  rw [get_eq hlt]
  exact List.getElem_mem hlt

theorem mem_set (h : i < maxTscHits) : entry ∈ (head.set i entry).entries := by
  have hmem : (head.set i entry).get i ∈ (head.set i entry).entries := get_mem h
  rw [get_set h] at hmem
  exact hmem

/-- The rest of a scan that has come to index `i`, taken apart. -/
theorem of_drop_eq_cons {rest : List TscEntry} (h : head.entries.drop i = entry :: rest) :
    i < maxTscHits ∧ head.get i = entry ∧ head.entries.drop (i + 1) = rest := by
  have hlt : i < head.entries.length := by
    by_cases hlt : i < head.entries.length
    · exact hlt
    · rw [List.drop_eq_nil_of_le (Nat.le_of_not_lt hlt)] at h
      exact absurd h (by simp)
  rw [List.drop_eq_getElem_cons hlt] at h
  obtain ⟨hhere, hrest⟩ := List.cons.inj h
  exact ⟨head.length_eq ▸ hlt, (get_eq hlt).trans hhere, hrest⟩

theorem get_set_ne {j : Nat} (h : i ≠ j) : (head.set i entry).get j = head.get j := by
  show (head.entries.set i entry).getD j tdClearSibling = head.entries.getD j tdClearSibling
  rw [List.getD_eq_getElem?_getD, List.getElem?_set_ne h, ← List.getD_eq_getElem?_getD]

end TscTable

section Table

variable {head : TscTable} {i : Nat} {entry : TscEntry}

theorem TableInv.get (h : TableInv head) (hi : i < maxTscHits) : EntryInv (head.get i) :=
  h _ (TscTable.get_mem hi)

theorem TableInv.set (h : TableInv head) (hentry : EntryInv entry) :
    TableInv (head.set i entry) := by
  intro e hmem
  rcases List.mem_or_eq_of_mem_set hmem with hold | hnew
  · exact h e hold
  · subst hnew
    exact hentry

theorem TableInv.close (h : TableInv head) : PairsClose head :=
  fun entry hmem => (h entry hmem).fits

end Table

/-! ## Finding -/

/-- The index found is in the table, and its entry passes the test. -/
theorem tdFindSibling_some {head : TscTable} {tscHash address : UInt64} {i : Nat}
    (h : tdFindSibling head tscHash address = some i) :
    i < maxTscHits ∧ isSiblingOf tscHash address (head.get i) = true := by
  obtain ⟨hlt, htest, _⟩ := List.findIdx?_eq_some_iff_getElem.mp h
  refine ⟨head.length_eq ▸ hlt, ?_⟩
  rw [TscTable.get_eq hlt]
  exact htest

/-- An entry that passes the test of a thread has the thread's hash, and the
address, if it is neither of the entry's, finds its second address unset. -/
theorem isSiblingOf_eq_true {tscHash address : UInt64} {entry : TscEntry}
    (h : isSiblingOf tscHash address entry = true) :
    tscHash = entry.tscHash ∧ (entry.before.address ≠ address → entry.after.address ≠ address →
      entry.after.address = 0) := by
  simp only [isSiblingOf, Bool.and_eq_true, Bool.or_eq_true, beq_iff_eq] at h
  obtain ⟨⟨hhash, _⟩, hknown⟩ := h
  refine ⟨hhash, fun hbefore hafter => ?_⟩
  rcases hknown with (hb | ha) | hz
  · exact absurd hb hbefore
  · exact absurd ha hafter
  · exact hz

/-! ## Updating -/

/-- The average leaves the addresses and the hash alone. -/
theorem tdUpdateDifference_frame (sibling : TscEntry) (timeStamp : UInt64) :
    (tdUpdateDifference sibling timeStamp).before = sibling.before ∧
      (tdUpdateDifference sibling timeStamp).after = sibling.after ∧
      (tdUpdateDifference sibling timeStamp).tscHash = sibling.tscHash := by
  unfold tdUpdateDifference
  simp only
  split
  next => exact ⟨rfl, rfl, rfl⟩
  next =>
    split
    next => exact ⟨rfl, rfl, rfl⟩
    next => exact ⟨rfl, rfl, rfl⟩

/-- So does counting a hit. -/
theorem increment_frame (sibling : TscEntry) (timeStamp : UInt64) (hit : HitRef) :
    (sibling.increment timeStamp hit).before.address = sibling.before.address ∧
      (sibling.increment timeStamp hit).after.address = sibling.after.address ∧
      (sibling.increment timeStamp hit).tscHash = sibling.tscHash := by
  cases hit with
  | before => exact ⟨rfl, rfl, rfl⟩
  | after => exact ⟨rfl, rfl, rfl⟩

/-- The addresses of an entry after it took `address` in: unchanged if it had
it, else the two in order. -/
def pairedAddresses (entry : TscEntry) (address : UInt64) : UInt64 × UInt64 :=
  if entry.before.address = address ∨ entry.after.address = address then
    (entry.before.address, entry.after.address)
  else if entry.before.address > address then (address, entry.before.address)
  else (entry.before.address, address)

/-- `Hit` is assigned on an entry that was found, and this is what becomes of the
addresses. -/
theorem tdAssignHit_addresses {sibling : TscEntry} {address : UInt64}
    (h : sibling.before.address ≠ address → sibling.after.address ≠ address →
      sibling.after.address = 0) :
    ∃ hit assigned, tdAssignHit sibling address = some (hit, assigned) ∧
      (assigned.before.address, assigned.after.address) = pairedAddresses sibling address ∧
      assigned.tscHash = sibling.tscHash := by
  unfold tdAssignHit pairedAddresses
  by_cases hbefore : sibling.before.address = address
  · simp only [hbefore, beq_self_eq_true, if_true, true_or]
    exact ⟨_, _, rfl, by rw [hbefore], rfl⟩
  · by_cases hafter : sibling.after.address = address
    · simp only [beq_eq_false_iff_ne.mpr hbefore, hafter, beq_self_eq_true, or_true, if_true,
        Bool.false_eq_true, if_false]
      exact ⟨_, _, rfl, by rw [hafter], rfl⟩
    · have hzero := h hbefore hafter
      have hknown : ¬ (sibling.before.address = address ∨ sibling.after.address = address) :=
        fun hk => hk.elim hbefore hafter
      simp only [beq_eq_false_iff_ne.mpr hbefore, beq_eq_false_iff_ne.mpr hafter,
        beq_iff_eq.mpr hzero, if_neg hknown, if_true, Bool.false_eq_true, if_false]
      by_cases hswap : sibling.before.address > address
      · simp only [if_pos hswap]
        exact ⟨_, _, rfl, rfl, rfl⟩
      · simp only [if_neg hswap]
        exact ⟨_, _, rfl, rfl, rfl⟩

/-- `TdUpdateSibling` never leaves `Hit` NULL on an entry that was found, and
this is what it does to the addresses. -/
theorem tdUpdateSibling_addresses {sibling : TscEntry} {address : UInt64}
    (h : sibling.before.address ≠ address → sibling.after.address ≠ address →
      sibling.after.address = 0) (timeStamp : UInt64) :
    ∃ updated, tdUpdateSibling sibling address timeStamp = some updated ∧
      (updated.before.address, updated.after.address) = pairedAddresses sibling address ∧
      updated.tscHash = sibling.tscHash := by
  obtain ⟨hit, assigned, heq, haddresses, hhash⟩ := tdAssignHit_addresses h
  unfold tdUpdateSibling
  simp only [heq]
  refine ⟨_, rfl, ?_, ?_⟩
  · rw [← haddresses]
    split
    next =>
      obtain ⟨hb, ha, _⟩ := increment_frame (tdUpdateDifference assigned timeStamp) timeStamp hit
      obtain ⟨hb', ha', _⟩ := tdUpdateDifference_frame assigned timeStamp
      rw [hb, ha, hb', ha']
    next =>
      obtain ⟨hb, ha, _⟩ := increment_frame assigned timeStamp hit
      rw [hb, ha]
  · rw [← hhash]
    split
    next =>
      obtain ⟨_, _, hh⟩ := increment_frame (tdUpdateDifference assigned timeStamp) timeStamp hit
      rw [hh, (tdUpdateDifference_frame assigned timeStamp).2.2]
    next => exact (increment_frame assigned timeStamp hit).2.2

/-- The first address of an entry stays set. -/
theorem pairedAddresses_fst_ne {entry : TscEntry} {address : UInt64}
    (hbefore : entry.before.address ≠ 0) (haddress : address ≠ 0) :
    (pairedAddresses entry address).1 ≠ 0 := by
  unfold pairedAddresses
  split
  next => exact hbefore
  next =>
    split
    next => exact haddress
    next => exact hbefore

/-- A new address sets the second one. -/
theorem pairedAddresses_snd_ne {entry : TscEntry} {address : UInt64}
    (hbefore : entry.before.address ≠ 0) (haddress : address ≠ 0)
    (hnew : entry.before.address ≠ address) (hnew' : entry.after.address ≠ address) :
    (pairedAddresses entry address).2 ≠ 0 := by
  unfold pairedAddresses
  rw [if_neg (fun hk => hk.elim hnew hnew')]
  split
  next => exact hbefore
  next => exact haddress

/-- Pairing two different addresses fits exactly if they are near. -/
theorem pairedAddresses_fits {entry updated : TscEntry} {address : UInt64}
    (hbefore : entry.before.address ≠ address) (hafter : entry.after.address ≠ address)
    (h : (updated.before.address, updated.after.address) = pairedAddresses entry address) :
    updated.Fits ↔ Near entry.before.address address := by
  have hknown : ¬ (entry.before.address = address ∨ entry.after.address = address) :=
    fun hk => hk.elim hbefore hafter
  unfold TscEntry.Fits Near
  rw [pairedAddresses, if_neg hknown] at h
  by_cases hswap : entry.before.address > address
  · rw [if_pos hswap] at h ⊢
    obtain ⟨hb, ha⟩ := Prod.mk.inj h
    rw [hb, ha]
    exact and_iff_right hswap
  · rw [if_neg hswap] at h ⊢
    obtain ⟨hb, ha⟩ := Prod.mk.inj h
    rw [hb, ha]
    exact and_iff_right (UInt64.lt_of_le_of_ne (UInt64.not_lt.mp hswap) hbefore)

/-! ## Creating -/

/-- The slots `TdGetSiblingSlot` may return are in the table; one that is not
recycled is free. -/
theorem tdGetSiblingSlotLoop_spec {head : TscTable} :
    ∀ {rest : List TscEntry} {i : Nat} {orphanOldest siblingOldest : Option (Nat × TscEntry)},
      head.entries.drop i = rest →
      (∀ p ∈ orphanOldest, p.1 < maxTscHits) → (∀ p ∈ siblingOldest, p.1 < maxTscHits) →
      (tdGetSiblingSlotLoop rest i orphanOldest siblingOldest).1 < maxTscHits ∧
        ((tdGetSiblingSlotLoop rest i orphanOldest siblingOldest).2 = false →
          (head.get (tdGetSiblingSlotLoop rest i orphanOldest siblingOldest).1).before.address
            = 0) := by
  intro rest
  induction rest with
  | nil =>
    intro i orphanOldest siblingOldest _ horphan hsibling
    cases orphanOldest with
    | some p =>
      obtain ⟨j, old⟩ := p
      exact ⟨horphan _ rfl, fun h => absurd h (by simp [tdGetSiblingSlotLoop])⟩
    | none =>
      cases siblingOldest with
      | some p => exact ⟨hsibling _ rfl, fun h => absurd h (by simp [tdGetSiblingSlotLoop])⟩
      | none =>
        exact ⟨show 0 < maxTscHits by decide, fun h => absurd h (by simp [tdGetSiblingSlotLoop])⟩
  | cons sibling rest ih =>
    intro i orphanOldest siblingOldest hdrop horphan hsibling
    obtain ⟨hi, hhere, hrest⟩ := TscTable.of_drop_eq_cons hdrop
    have holder : ∀ oldest : Option (Nat × TscEntry), (∀ p ∈ oldest, p.1 < maxTscHits) →
        ∀ p ∈ olderHit oldest i sibling, p.1 < maxTscHits := by
      intro oldest hold p hp
      unfold olderHit at hp
      split at hp
      next =>
        obtain rfl := Option.some.inj hp
        exact hi
      next j old =>
        split at hp
        next =>
          obtain rfl := Option.some.inj hp
          exact hi
        next =>
          obtain rfl := Option.some.inj hp
          exact hold _ rfl
    unfold tdGetSiblingSlotLoop
    split
    next hfree =>
      refine ⟨hi, fun _ => ?_⟩
      rw [hhere]
      simpa [tdIsFreeSlot] using hfree
    next =>
      split
      next => exact ih hrest horphan (holder _ hsibling)
      next => exact ih hrest (holder _ horphan) hsibling

/-- The slot an entry is created in: in the table, and without addresses. -/
theorem tdGetSiblingSlot_spec {head : TscTable} (h : TableInv head) :
    (tdGetSiblingSlot head).1 < maxTscHits ∧ TableInv (tdGetSiblingSlot head).2 ∧
      ((tdGetSiblingSlot head).2.get (tdGetSiblingSlot head).1).after.address = 0 := by
  obtain ⟨hi, hfree⟩ := @tdGetSiblingSlotLoop_spec head head.entries 0 none none rfl
    (by simp) (by simp)
  unfold tdGetSiblingSlot
  generalize tdGetSiblingSlotLoop head.entries 0 none none = slot at hi hfree
  obtain ⟨i, recycled⟩ := slot
  cases recycled with
  | true => exact ⟨hi, h.set entryInv_clear, by rw [TscTable.get_set hi]; rfl⟩
  | false => exact ⟨hi, h, ((h.get hi).cleared (hfree rfl)).1⟩

/-! ## One call -/

/-- What an event does to a table, in one of two ways: it creates an orphan, or
it updates the entry found. -/
theorem tdRecordEvent_cases {head : TscTable} (h : TableInv head) {tscHash address : UInt64}
    (haddress : address ≠ 0) (hhash : tscHash ≠ 0) (timeStamp : UInt64) :
    ∃ i table entry, tdRecordEvent head tscHash address timeStamp = some (i, table.set i entry) ∧
      i < maxTscHits ∧ TableInv table ∧
      (EntryInv entry ↔ ∀ j, tdFindSibling head tscHash address = some j →
        (head.get j).before.address ≠ address → (head.get j).after.address ≠ address →
        Near (head.get j).before.address address) ∧
      (EntryInv entry ↔ (entry.before.address ≠ 0 → entry.after.address ≠ 0 → entry.Fits)) := by
  unfold tdRecordEvent
  cases hfind : tdFindSibling head tscHash address with
  | none =>
    obtain ⟨hi, htable, hafter⟩ := tdGetSiblingSlot_spec h
    have hentry : EntryInv (tdInitSibling
        ((tdGetSiblingSlot head).2.get (tdGetSiblingSlot head).1) address tscHash timeStamp) :=
      ⟨fun hzero => absurd hzero haddress, fun _ hpaired => absurd hafter hpaired⟩
    refine ⟨_, _, _, rfl, hi, htable, ?_, ?_⟩
    · exact iff_of_true hentry (fun j hj => absurd hj (by simp))
    · exact iff_of_true hentry hentry.fits
  | some i =>
    obtain ⟨hi, htest⟩ := tdFindSibling_some hfind
    obtain ⟨hhash', hunset⟩ := isSiblingOf_eq_true htest
    have hold := h.get hi
    have hbefore : (head.get i).before.address ≠ 0 := by
      intro hzero
      exact hhash (hhash'.trans (hold.cleared hzero).2)
    obtain ⟨updated, hupdate, haddresses, hkept⟩ := tdUpdateSibling_addresses hunset timeStamp
    simp only [hupdate, Option.map_some]
    have hset : updated.before.address ≠ 0 := by
      rw [show updated.before.address = _ from congrArg Prod.fst haddresses]
      exact pairedAddresses_fst_ne hbefore haddress
    have hfits : EntryInv updated ↔
        (updated.before.address ≠ 0 → updated.after.address ≠ 0 → updated.Fits) :=
      ⟨fun hinv => hinv.fits, fun hfits => ⟨fun hzero => absurd hzero hset, hfits⟩⟩
    refine ⟨i, head, updated, rfl, hi, h, ?_, hfits⟩
    rw [hfits]
    by_cases hnew : (head.get i).before.address ≠ address ∧ (head.get i).after.address ≠ address
    · have hpair := pairedAddresses_fits hnew.1 hnew.2 haddresses
      have hafter : updated.after.address ≠ 0 := by
        rw [show updated.after.address = _ from congrArg Prod.snd haddresses]
        exact pairedAddresses_snd_ne hbefore haddress hnew.1 hnew.2
      constructor
      · intro hf j hj _ _
        obtain rfl := Option.some.inj hj
        exact hpair.mp (hf hset hafter)
      · intro hn _ _
        exact hpair.mpr (hn i rfl hnew.1 hnew.2)
    · refine iff_of_true (fun hb ha => ?_) (fun j hj hb ha => ?_)
      · have hknown : (head.get i).before.address = address ∨
            (head.get i).after.address = address := by
          by_cases hb' : (head.get i).before.address = address
          · exact Or.inl hb'
          · exact Or.inr (Decidable.of_not_not fun ha' => hnew ⟨hb', ha'⟩)
        rw [pairedAddresses, if_pos hknown] at haddresses
        obtain ⟨hb', ha'⟩ := Prod.mk.inj haddresses
        unfold TscEntry.Fits
        rw [hb', ha']
        exact hold.fits (hb' ▸ hb) (ha' ▸ ha)
      · obtain rfl := Option.some.inj hj
        exact absurd ⟨hb, ha⟩ hnew

/-- Only entries with two addresses become candidates. -/
theorem candidate_addresses {entry : TscEntry} (h : tdIsTimingCandidate entry = .candidate) :
    entry.before.address ≠ 0 ∧ entry.after.address ≠ 0 := by
  have horphan : isOrphanSibling entry = false := by
    cases horphan : isOrphanSibling entry with
    | false => rfl
    | true =>
      unfold tdIsTimingCandidate at h
      simp only [horphan, if_true, ite_self] at h
      exact absurd h (by decide)
  simp only [isOrphanSibling, Bool.or_eq_false_iff, beq_eq_false_iff_ne] at horphan
  exact ⟨horphan.2, horphan.1⟩

/-- An entry that was found is updated, so every event is recorded. -/
theorem tdRecordEvent_some (head : TscTable) (tscHash address timeStamp : UInt64) :
    ∃ i recorded, tdRecordEvent head tscHash address timeStamp = some (i, recorded) := by
  unfold tdRecordEvent
  cases hfind : tdFindSibling head tscHash address with
  | none => exact ⟨_, _, rfl⟩
  | some i =>
    obtain ⟨-, hunset⟩ := isSiblingOf_eq_true (tdFindSibling_some hfind).2
    obtain ⟨updated, hupdate, -⟩ := tdUpdateSibling_addresses hunset timeStamp
    refine ⟨i, head.set i updated, ?_⟩
    show (tdUpdateSibling (head.get i) address timeStamp).map _ = _
    rw [hupdate, Option.map_some]

/-- `TdIsTimingAttack` is decided exactly if the copy stays inside `Code`. -/
theorem tdIsTimingAttack_some_iff {event : TscEvent} {entry : TscEntry} {report : TscReport} :
    (∃ verdict, tdIsTimingAttack event entry report = some verdict) ↔
      (CodeReadable event.machine event.mmu event.guestCr3 entry → entry.CopyFits) := by
  rw [← @tdCopySiblingMemory_some_iff _ _ _ _ report.code]
  unfold tdIsTimingAttack
  cases tdCopySiblingMemory event.machine event.mmu event.guestCr3 entry report.code with
  | none => exact iff_of_false (fun hsome => by simp at hsome) (fun hsome => by simp at hsome)
  | some copied =>
    refine iff_of_true ?_ ⟨copied, rfl⟩
    simp only [Option.bind_eq_bind, Option.bind_some]
    split
    next => exact ⟨_, rfl⟩
    next => exact ⟨_, rfl⟩

/-- If the event makes its entry a candidate whose code can be read, the copy fits. -/
def CandidateFits (head : TscTable) (event : TscEvent) : Prop :=
  ∀ i recorded, tdRecordEvent head event.tscHash event.offensiveAddress event.timeStamp
      = some (i, recorded) → tdIsTimingCandidate (recorded.get i) = .candidate →
    CodeReadable event.machine event.mmu event.guestCr3 (recorded.get i) →
      (recorded.get i).CopyFits

instance (head : TscTable) (event : TscEvent) : Decidable (CandidateFits head event) :=
  match h : tdRecordEvent head event.tscHash event.offensiveAddress event.timeStamp with
  | none => isTrue fun _ _ hi => absurd (h.symm.trans hi) (Option.some_ne_none _).symm
  | some (i, recorded) => decidable_of_iff (tdIsTimingCandidate (recorded.get i) = .candidate →
      CodeReadable event.machine event.mmu event.guestCr3 (recorded.get i) →
        (recorded.get i).CopyFits)
    ⟨fun hfits _ _ hj hcandidate => by
      obtain ⟨rfl, rfl⟩ := Prod.mk.inj (Option.some.inj (h.symm.trans hj))
      exact hfits hcandidate, fun hfits => hfits i recorded h⟩

/-- **A call returns** exactly if it reads no code that does not fit. -/
theorem tdProcessTscEvent_some_iff {head : TscTable} {event : TscEvent} :
    (∃ outcome, tdProcessTscEvent head event = some outcome) ↔ CandidateFits head event := by
  obtain ⟨i, recorded, hrecord⟩ :=
    tdRecordEvent_some head event.tscHash event.offensiveAddress event.timeStamp
  have hfits : CandidateFits head event ↔ (tdIsTimingCandidate (recorded.get i) = .candidate →
      CodeReadable event.machine event.mmu event.guestCr3 (recorded.get i) →
        (recorded.get i).CopyFits) := by
    refine ⟨fun h => h i recorded hrecord, fun h j table hj => ?_⟩
    obtain ⟨rfl, rfl⟩ := Prod.mk.inj (Option.some.inj (hrecord.symm.trans hj))
    exact h
  rw [hfits]
  unfold tdProcessTscEvent
  simp only [hrecord, Option.bind_eq_bind, Option.bind_some]
  split
  next hnotYet => exact iff_of_true ⟨_, rfl⟩ fun h => absurd (hnotYet.symm.trans h) (by decide)
  next hdiscontinued =>
    exact iff_of_true ⟨_, rfl⟩ fun h => absurd (hdiscontinued.symm.trans h) (by decide)
  next hcandidate =>
    rw [imp_iff_right hcandidate, ← @tdIsTimingAttack_some_iff event (recorded.get i)
      ⟨event.processId, event.threadId, recorded.get i, zeroCode, 0, 0⟩]
    split
    next hnone => exact iff_of_false (fun h => by simp at h) (fun h => by simp [hnone] at h)
    next hsome => exact iff_of_true ⟨_, rfl⟩ ⟨_, hsome⟩
    next hsome => exact iff_of_true ⟨_, rfl⟩ ⟨_, hsome⟩

section Step

variable {head head' : TscTable} {event : TscEvent}

/-- **What an event does to the table**: it records itself in one slot, which is
cleared unless the entry is to be watched on. -/
theorem tdStep_cases (h : tdStep head event = some head') :
    ∃ i recorded, tdRecordEvent head event.tscHash event.offensiveAddress event.timeStamp
        = some (i, recorded) ∧
      (tdIsTimingCandidate (recorded.get i) = .notYet ∧ head' = recorded ∨
        tdIsTimingCandidate (recorded.get i) ≠ .notYet ∧
          head' = recorded.set i tdClearSibling) := by
  obtain ⟨outcome, houtcome, rfl⟩ := Option.map_eq_some_iff.mp h
  unfold tdProcessTscEvent at houtcome
  cases hrecord : tdRecordEvent head event.tscHash event.offensiveAddress event.timeStamp with
  | none =>
    rw [hrecord] at houtcome
    exact absurd houtcome (by simp)
  | some p =>
    obtain ⟨i, recorded⟩ := p
    rw [hrecord] at houtcome
    simp only [Option.bind_eq_bind, Option.bind_some] at houtcome
    refine ⟨i, recorded, rfl, ?_⟩
    split at houtcome
    next hcandidate =>
      obtain rfl := Option.some.inj houtcome
      exact Or.inl ⟨hcandidate, rfl⟩
    next hcandidate =>
      obtain rfl := Option.some.inj houtcome
      exact Or.inr ⟨by rw [hcandidate]; decide, rfl⟩
    next hcandidate =>
      have hne : tdIsTimingCandidate (recorded.get i) ≠ .notYet := by
        rw [hcandidate]
        decide
      split at houtcome
      next => exact absurd houtcome (by simp)
      next =>
        obtain rfl := Option.some.inj houtcome
        exact Or.inr ⟨hne, rfl⟩
      next =>
        obtain rfl := Option.some.inj houtcome
        exact Or.inr ⟨hne, rfl⟩

/-- The two ways to record an event: in the entry found, or in a new one. -/
theorem tdRecordEvent_ways {tscHash address timeStamp : UInt64} {i : Nat} {recorded : TscTable}
    (h : tdRecordEvent head tscHash address timeStamp = some (i, recorded)) :
    (tdFindSibling head tscHash address = some i ∧
      ∃ updated, tdUpdateSibling (head.get i) address timeStamp = some updated ∧
        recorded = head.set i updated) ∨
      tdFindSibling head tscHash address = none ∧
        tdCreateSibling head address tscHash timeStamp = (i, recorded) := by
  unfold tdRecordEvent at h
  cases hfind : tdFindSibling head tscHash address with
  | some k =>
    rw [hfind] at h
    obtain ⟨updated, hupdate, heq⟩ := Option.map_eq_some_iff.mp h
    obtain ⟨rfl, rfl⟩ := Prod.mk.inj heq
    exact Or.inl ⟨rfl, updated, hupdate, rfl⟩
  | none =>
    rw [hfind] at h
    exact Or.inr ⟨rfl, Option.some.inj h⟩

end Step

section Call

variable {head : TscTable} {event : TscEvent}

/-- The arguments of a call that the run may make. -/
def TscEvent.Nonzero (event : TscEvent) : Prop :=
  event.offensiveAddress ≠ 0 ∧ event.tscHash ≠ 0

/-- **A call fits exactly if it pairs near addresses.** -/
theorem callFits_iff_pairsNear (h : TableInv head) (hevent : event.Nonzero) :
    CallFits head event ↔ PairsNear head event := by
  obtain ⟨i, table, entry, hrecord, hi, htable, hnear, hclose⟩ :=
    tdRecordEvent_cases h hevent.1 hevent.2 event.timeStamp
  unfold PairsNear
  rw [← hnear]
  constructor
  · intro ⟨⟨j, recorded, hrecord', hpairs⟩, _⟩
    obtain ⟨-, rfl⟩ := Prod.mk.inj (Option.some.inj (hrecord.symm.trans hrecord'))
    exact hclose.mpr (hpairs entry (TscTable.mem_set hi))
  · intro hentry
    refine ⟨⟨i, _, hrecord, (htable.set hentry).close⟩, tdProcessTscEvent_some_iff.mpr ?_⟩
    intro j recorded hrecord' hcandidate _
    obtain ⟨rfl, rfl⟩ := Prod.mk.inj (Option.some.inj (hrecord.symm.trans hrecord'))
    rw [TscTable.get_set hi] at hcandidate ⊢
    obtain ⟨hbefore, hafter⟩ := candidate_addresses hcandidate
    exact (hentry.fits hbefore hafter).copyFits

/-- A call that fits keeps the invariant. -/
theorem TableInv.step {head' : TscTable} (h : TableInv head) (hevent : event.Nonzero)
    (hcall : CallFits head event) (hstep : tdStep head event = some head') :
    TableInv head' := by
  obtain ⟨i, table, entry, hrecord, hi, htable, hnear, hclose⟩ :=
    tdRecordEvent_cases h hevent.1 hevent.2 event.timeStamp
  have hentry := hnear.mpr ((callFits_iff_pairsNear h hevent).mp hcall)
  obtain ⟨j, recorded, hrecord', hdecided⟩ := tdStep_cases hstep
  obtain ⟨rfl, rfl⟩ := Prod.mk.inj (Option.some.inj (hrecord.symm.trans hrecord'))
  rcases hdecided with ⟨-, rfl⟩ | ⟨-, rfl⟩
  · exact htable.set hentry
  · exact (htable.set hentry).set entryInv_clear

end Call

/-! ## Runs -/

/-- All calls of a run fit exactly if all of them pair near addresses. -/
theorem callFits_throughout_iff {events : List TscEvent} (h : ∀ event ∈ events, event.Nonzero) :
    Throughout tdStep CallFits .zero events ↔ Throughout tdStep PairsNear .zero events :=
  @throughout_iff _ _ tdStep TableInv TscEvent.Nonzero CallFits PairsNear
    callFits_iff_pairsNear (fun hinv hevent hcall hstep => hinv.step hevent hcall hstep) events
    .zero tableInv_zero h

/-- **Addresses stay close, between the calls and inside them, exactly in the
runs that pair near addresses.** -/
theorem pairsStayClose_iff {events : List TscEvent} (h : ∀ event ∈ events, event.Nonzero) :
    PairsStayClose events ↔ Throughout tdStep PairsNear .zero events := by
  have hkeeps : ∀ {head event head'}, TableInv head → event.Nonzero → CallFits head event →
      tdStep head event = some head' → TableInv head' :=
    fun hinv hevent hcall hstep => hinv.step hevent hcall hstep
  have hiff := callFits_throughout_iff h
  have halways := @Throughout.always _ _ tdStep PairsClose TableInv TscEvent.Nonzero CallFits
    TableInv.close hkeeps events .zero tableInv_zero h
  constructor
  · intro hclose
    exact hiff.mp hclose.2
  · intro hnear
    exact ⟨halways (hiff.mpr hnear), hiff.mpr hnear⟩

/-- Page tables at 0x1000, 0x3000 and 0x4000 that map every address by a large
page. -/
def largePages : Mem := fun a =>
  match a / 4096, a % 8 with
  | 1, 0 | 3, 0 => 0x07
  | 1, 1 => 0x30
  | 3, 1 => 0x40
  | 4, 0 => 0x87
  | _, _ => 0

/-- A read of the counter by one thread, under these page tables and with all
mapping slots free. -/
def readTsc (offensiveAddress timeStamp : UInt64) : TscEvent where
  processId := 4
  threadId := 8
  offensiveAddress := offensiveAddress
  timeStamp := timeStamp
  machine := ⟨largePages, 0x2000, fun _ => 0⟩
  mmu := bootMmu
  guestCr3 := 0x1000
  decoder := nopDecoder

/-- The `rdtsc` pair of the comment in `TdFindSibling`, the later one first. -/
theorem pairsStayClose_rdtscPair :
    PairsStayClose [readTsc 0x7FF6AED493E4 5, readTsc 0x7FF6AED493E0 9] :=
  (pairsStayClose_iff (by
    intro event hmem
    rcases List.mem_cons.mp hmem with rfl | hmem
    · exact ⟨by decide, by decide⟩
    · obtain rfl := List.mem_singleton.mp hmem
      exact ⟨by decide, by decide⟩)).mpr (by decide +kernel)

/-- Two reads 4 GiB and 16 bytes apart are paired. -/
theorem not_pairsClose_truncated :
    ¬ Always tdStep PairsClose .zero [readTsc 0x1000 5, readTsc 0x100001010 9] := by
  decide +kernel

end DeepShield.Td
