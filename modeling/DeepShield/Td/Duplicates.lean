import DeepShield.Td.Eviction

/-!
# One entry for an address

`TdFindSibling` takes the first entry that passes its test, and an orphan in sibling
range passes it for any address. So an orphan in an earlier slot takes an event whose
address a later entry of the thread records, and the table has two entries for it.

Nothing else makes a second one: an entry that records an address passes the test for
it, so that a new entry is made only where there is none (`Records.passes`), and an
orphan takes an address only if no entry before it has it. `oneEntry_iff` says that this
is exactly what a run needs.
-/

namespace DeepShield.Td

open DeepShield.Lib

/-! ## The property -/

/-- The entry records the address for the thread. -/
def Records (entry : TscEntry) (tscHash address : UInt64) : Prop :=
  entry.tscHash = tscHash ∧ (entry.before.address = address ∨ entry.after.address = address)

instance (entry : TscEntry) (tscHash address : UInt64) :
    Decidable (Records entry tscHash address) :=
  inferInstanceAs (Decidable (_ ∧ _))

/-- The entries are of one thread and have an address in common. -/
def Share (entry other : TscEntry) : Prop :=
  entry.tscHash = other.tscHash ∧ ∃ address ∈ [entry.before.address, entry.after.address],
    address ≠ 0 ∧ address ∈ [other.before.address, other.after.address]

instance (entry other : TscEntry) : Decidable (Share entry other) :=
  inferInstanceAs (Decidable (_ ∧ _))

/-- No two entries of the table do. -/
def OneEntryPerAddress (head : TscTable) : Prop :=
  head.entries.Pairwise fun entry other => ¬ Share entry other

instance : DecidablePred OneEntryPerAddress := fun head =>
  inferInstanceAs (Decidable (head.entries.Pairwise _))

/-- The event finds the entry that records its address. -/
def FindsRecorded (head : TscTable) (event : TscEvent) : Prop :=
  ∀ j < maxTscHits, Records (head.get j) event.tscHash event.offensiveAddress →
    tdFindSibling head event.tscHash event.offensiveAddress = some j

/-- One entry for an address in every table of a run, and every event in its entry. -/
def OneEntry (events : List TscEvent) : Prop :=
  Always tdStep OneEntryPerAddress .zero events ∧ Throughout tdStep FindsRecorded .zero events

/-- An orphan of the event's thread that its address is in range of. -/
def OrphanInRange (entry : TscEntry) (event : TscEvent) : Prop :=
  entry.tscHash = event.tscHash ∧ entry.after.address = 0 ∧
    areVasWithinSiblingRange entry.before.address event.offensiveAddress = true

instance (entry : TscEntry) (event : TscEvent) : Decidable (OrphanInRange entry event) :=
  inferInstanceAs (Decidable (_ ∧ _))

/-- There is none in a slot before that of the entry that records the address. -/
def NoEarlierOrphan (head : TscTable) (event : TscEvent) : Prop :=
  ∀ j < maxTscHits, Records (head.get j) event.tscHash event.offensiveAddress →
    ∀ i < j, ¬ OrphanInRange (head.get i) event

theorem pairwise_iff_tail_dropWhile {α : Type} (P Q : α → Prop) [DecidablePred Q] (l : List α) :
    (l.Pairwise fun a b => Q a → ¬ P b) ↔
      ∀ b ∈ (l.dropWhile fun a => ¬ Q a).tail, ¬ P b := by
  induction l with
  | nil => simp
  | cons a l ih =>
    rw [List.pairwise_cons]
    by_cases ha : Q a
    · rw [List.dropWhile_cons_of_neg (by simpa using ha), List.tail_cons]
      constructor
      · intro h b hb
        exact h.1 b hb ha
      · intro h
        exact ⟨fun b hb _ => h b hb, List.pairwise_of_forall_mem_list fun b _ c hc _ => h c hc⟩
    · rw [List.dropWhile_cons_of_pos (by simpa using ha), ← ih]
      exact and_iff_right fun b _ hQ => absurd hQ ha

/-- No slot after that of the first orphan records the address. -/
theorem noEarlierOrphan_iff (head : TscTable) (event : TscEvent) :
    NoEarlierOrphan head event ↔
      ∀ entry ∈ (head.entries.dropWhile fun entry => ¬ OrphanInRange entry event).tail,
        ¬ Records entry event.tscHash event.offensiveAddress := by
  rw [← pairwise_iff_tail_dropWhile, List.pairwise_iff_getElem]
  have hget : ∀ {i} (hi : i < head.entries.length), head.get i = head.entries[i] :=
    TscTable.get_eq
  constructor
  · intro h i j hi hj hij horphan hrecords
    rw [← hget hi] at horphan
    rw [← hget hj] at hrecords
    exact h j (head.length_eq ▸ hj) hrecords i hij horphan
  · intro h j hj hrecords i hij horphan
    have hj' : j < head.entries.length := head.length_eq ▸ hj
    rw [hget (hij.trans hj')] at horphan
    rw [hget hj'] at hrecords
    exact h i j (hij.trans hj') hj' hij horphan hrecords

instance (head : TscTable) (event : TscEvent) : Decidable (NoEarlierOrphan head event) :=
  decidable_of_iff _ (noEarlierOrphan_iff head event).symm

/-! ## The range -/

/-- Distances are the same both ways. -/
theorem areVasWithinSiblingRange_comm (source target : UInt64) :
    areVasWithinSiblingRange source target = areVasWithinSiblingRange target source := by
  have hlow : (target - source).toNat % 2 ^ 32
      = (2 ^ 32 - (source - target).toNat % 2 ^ 32) % 2 ^ 32 := by
    have hs := source.toNat_lt
    have ht := target.toNat_lt
    rw [UInt64.toNat_sub, UInt64.toNat_sub]
    omega
  have hone := absInt_low (source - target)
  have hother := absInt_low (target - source)
  have hlt := Nat.mod_lt (source - target).toNat (show 0 < 2 ^ 32 by decide)
  have hsame : (absInt (source - target)).toInt = (absInt (target - source)).toInt := by
    rw [hone, hother, hlow]
    split
    next => split <;> omega
    next => split <;> omega
  unfold areVasWithinSiblingRange
  rw [Int32.toInt_inj.mp hsame]

/-- An address is in range of itself. -/
theorem areVasWithinSiblingRange_self (address : UInt64) :
    areVasWithinSiblingRange address address = true := by
  unfold areVasWithinSiblingRange
  rw [UInt64.sub_self]
  decide

/-! ## The invariant -/

/-- The two addresses of an entry are in range, and a free slot has no thread. -/
structure InRange (entry : TscEntry) : Prop where
  cleared : entry.before.address = 0 → entry.after.address = 0 ∧ entry.tscHash = 0
  range : entry.after.address ≠ 0 →
    areVasWithinSiblingRange entry.before.address entry.after.address = true

theorem inRange_clear : InRange tdClearSibling := ⟨fun _ => ⟨rfl, rfl⟩, fun h => absurd rfl h⟩

/-- An entry that records the event's address passes the test. -/
theorem Records.passes {entry : TscEntry} {tscHash address : UInt64} (hrange : InRange entry)
    (h : Records entry tscHash address) (hne : address ≠ 0) :
    isSiblingOf tscHash address entry = true := by
  obtain ⟨rfl, haddress⟩ := h
  unfold isSiblingOf
  rcases haddress with rfl | rfl
  · rw [areVasWithinSiblingRange_self]
    simp
  · rw [hrange.range hne]
    simp

/-- One that does not passes it as an orphan only. -/
theorem orphanInRange_of_passes {entry : TscEntry} {event : TscEvent}
    (h : isSiblingOf event.tscHash event.offensiveAddress entry = true)
    (hnot : ¬ Records entry event.tscHash event.offensiveAddress) :
    OrphanInRange entry event := by
  simp only [isSiblingOf, Bool.and_eq_true, Bool.or_eq_true, beq_iff_eq] at h
  obtain ⟨⟨hhash, hrange⟩, hknown⟩ := h
  refine ⟨hhash.symm, ?_, hrange⟩
  rcases hknown with hknown | hzero
  · exact absurd ⟨hhash.symm, hknown⟩ hnot
  · exact hzero

/-- An orphan in range does pass. -/
theorem OrphanInRange.passes {entry : TscEntry} {event : TscEvent} (h : OrphanInRange entry event) :
    isSiblingOf event.tscHash event.offensiveAddress entry = true := by
  obtain ⟨hhash, hzero, hrange⟩ := h
  simp [isSiblingOf, hhash, hzero, hrange]

/-- What holds of every table of a run. -/
structure DistinctInv (head : TscTable) : Prop where
  inRange : ∀ j < maxTscHits, InRange (head.get j)
  distinct : ∀ i < maxTscHits, ∀ j < maxTscHits, ∀ tscHash address, address ≠ 0 →
    Records (head.get i) tscHash address → Records (head.get j) tscHash address → i = j

section Inv

variable {head head' : TscTable} {event : TscEvent} {i : Nat} {entry : TscEntry}

theorem distinctInv_zero : DistinctInv .zero := by
  have hclear : ∀ j < maxTscHits, TscTable.zero.get j = tdClearSibling := fun j hj =>
    List.eq_of_mem_replicate (TscTable.get_mem hj)
  refine ⟨fun j hj => ?_, fun i hi _ _ tscHash address hne hrecords _ => ?_⟩
  · rw [hclear j hj]
    exact inRange_clear
  · rw [hclear i hi] at hrecords
    exact absurd (hrecords.2.elim id id).symm hne

theorem DistinctInv.pairwise (h : DistinctInv head) : OneEntryPerAddress head := by
  refine List.pairwise_iff_getElem.mpr fun i j hi hj hij hshare => ?_
  rw [← TscTable.get_eq hi, ← TscTable.get_eq hj] at hshare
  obtain ⟨hhash, address, hmem, hne, hmem'⟩ := hshare
  simp only [List.mem_cons, List.not_mem_nil, or_false] at hmem hmem'
  rw [head.length_eq] at hi hj
  have heq := h.distinct i hi j hj (head.get j).tscHash address hne
    ⟨hhash, hmem.imp Eq.symm Eq.symm⟩ ⟨rfl, hmem'.imp Eq.symm Eq.symm⟩
  exact absurd heq (Nat.ne_of_lt hij)

/-- **The rule for assignments**: nothing the new entry records is recorded elsewhere. -/
theorem DistinctInv.set (h : DistinctInv head) (hentry : InRange entry)
    (hnew : ∀ tscHash address, address ≠ 0 → Records entry tscHash address →
      ∀ j < maxTscHits, j ≠ i → ¬ Records (head.get j) tscHash address) :
    DistinctInv (head.set i entry) := by
  refine ⟨fun j hj => ?_, fun k hk j hj tscHash address hne hkrec hjrec => ?_⟩
  · by_cases hji : i = j
    · subst hji
      rwa [TscTable.get_set hj]
    · rw [TscTable.get_set_ne hji]
      exact h.inRange j hj
  · by_cases hki : i = k
    · by_cases hji : i = j
      · exact hki.symm.trans hji
      · subst hki
        rw [TscTable.get_set hk] at hkrec
        rw [TscTable.get_set_ne hji] at hjrec
        exact absurd hjrec (hnew tscHash address hne hkrec j hj (Ne.symm hji))
    · rw [TscTable.get_set_ne hki] at hkrec
      by_cases hji : i = j
      · subst hji
        rw [TscTable.get_set hj] at hjrec
        exact absurd hkrec (hnew tscHash address hne hjrec k hk (Ne.symm hki))
      · rw [TscTable.get_set_ne hji] at hjrec
        exact h.distinct k hk j hj tscHash address hne hkrec hjrec

/-- A cleared slot records nothing. -/
theorem DistinctInv.clear (h : DistinctInv head) : DistinctInv (head.set i tdClearSibling) := by
  refine h.set inRange_clear fun tscHash address hne hrecords => ?_
  exact absurd (hrecords.2.elim id id).symm hne

/-! ## Finding -/

/-- The entry found is the first that passes. -/
theorem tdFindSibling_first_passes (h : tdFindSibling head event.tscHash event.offensiveAddress
      = some i) {k : Nat} (hk : k < i) :
    isSiblingOf event.tscHash event.offensiveAddress (head.get k) = false := by
  obtain ⟨hlt, -, hfirst⟩ := List.findIdx?_eq_some_iff_getElem.mp h
  rw [TscTable.get_eq (Nat.lt_trans hk hlt)]
  simpa using hfirst k hk

/-- None passes if none is found. -/
theorem tdFindSibling_none_passes
    (h : tdFindSibling head event.tscHash event.offensiveAddress = none) {k : Nat}
    (hk : k < maxTscHits) :
    isSiblingOf event.tscHash event.offensiveAddress (head.get k) = false :=
  List.findIdx?_eq_none_iff.mp h _ (TscTable.get_mem hk)

/-- **An event finds the entry that records its address exactly if no orphan comes
first.** -/
theorem DistinctInv.findsRecorded_iff (h : DistinctInv head) (hevent : event.Nonzero) :
    FindsRecorded head event ↔ NoEarlierOrphan head event := by
  constructor
  · intro hfinds j hj hrecords i hi horphan
    have hpasses := tdFindSibling_first_passes (hfinds j hj hrecords) hi
    rw [horphan.passes] at hpasses
    exact absurd hpasses (by decide)
  · intro hfirst j hj hrecords
    have hpasses := hrecords.passes (h.inRange j hj) hevent.1
    cases hfind : tdFindSibling head event.tscHash event.offensiveAddress with
    | none =>
      rw [tdFindSibling_none_passes hfind hj] at hpasses
      exact absurd hpasses (by decide)
    | some i =>
      obtain ⟨hi, htest⟩ := tdFindSibling_some hfind
      have hle : i ≤ j := by
        by_cases hle : i ≤ j
        · exact hle
        · rw [tdFindSibling_first_passes hfind (Nat.lt_of_not_le hle)] at hpasses
          exact absurd hpasses (by decide)
      by_cases hij : i = j
      · rw [hij]
      · have hnot : ¬ Records (head.get i) event.tscHash event.offensiveAddress := fun hrec =>
          hij (h.distinct i hi j hj _ _ hevent.1 hrec hrecords)
        have horphan := orphanInRange_of_passes htest hnot
        exact absurd horphan (hfirst j hj hrecords i (Nat.lt_of_le_of_ne hle hij))

/-! ## One event -/

/-- The three ways to take an address in. -/
theorem pairedAddresses_cases (entry : TscEntry) (address : UInt64) :
    pairedAddresses entry address = (entry.before.address, entry.after.address) ∨
      pairedAddresses entry address = (address, entry.before.address) ∨
        pairedAddresses entry address = (entry.before.address, address) := by
  unfold pairedAddresses
  split
  next => exact Or.inl rfl
  next =>
    split
    next => exact Or.inr (Or.inl rfl)
    next => exact Or.inr (Or.inr rfl)

/-- An entry that took an address in records what it did, and that address. -/
theorem records_paired {entry updated : TscEntry} {tscHash address address' : UInt64}
    (hpaired : (updated.before.address, updated.after.address) = pairedAddresses entry address)
    (hhash : updated.tscHash = entry.tscHash) (h : Records updated tscHash address') :
    Records entry tscHash address' ∨ tscHash = entry.tscHash ∧ address' = address := by
  obtain ⟨rfl, haddress⟩ := h
  unfold Records
  rw [hhash]
  rcases pairedAddresses_cases entry address with heq | heq | heq
  · obtain ⟨hb, ha⟩ := Prod.mk.inj (hpaired.trans heq)
    rw [hb, ha] at haddress
    exact Or.inl ⟨rfl, haddress⟩
  · obtain ⟨hb, ha⟩ := Prod.mk.inj (hpaired.trans heq)
    rw [hb, ha] at haddress
    rcases haddress with hnew | hold
    · exact Or.inr ⟨rfl, hnew.symm⟩
    · exact Or.inl ⟨rfl, Or.inl hold⟩
  · obtain ⟨hb, ha⟩ := Prod.mk.inj (hpaired.trans heq)
    rw [hb, ha] at haddress
    rcases haddress with hold | hnew
    · exact Or.inl ⟨rfl, Or.inl hold⟩
    · exact Or.inr ⟨rfl, hnew.symm⟩

/-- Its addresses stay in range. -/
theorem InRange.paired {entry updated : TscEntry} (h : InRange entry)
    (hbefore : entry.before.address ≠ 0) (hevent : event.Nonzero)
    (htest : isSiblingOf event.tscHash event.offensiveAddress entry = true)
    (hpaired : (updated.before.address, updated.after.address)
      = pairedAddresses entry event.offensiveAddress) : InRange updated := by
  have hrange : areVasWithinSiblingRange entry.before.address event.offensiveAddress = true := by
    simp only [isSiblingOf, Bool.and_eq_true] at htest
    exact htest.1.2
  have hset : updated.before.address ≠ 0 := by
    rw [show updated.before.address = _ from congrArg Prod.fst hpaired]
    exact pairedAddresses_fst_ne hbefore hevent.1
  refine ⟨fun hzero => absurd hzero hset, fun hafter => ?_⟩
  rcases pairedAddresses_cases entry event.offensiveAddress with heq | heq | heq
  · obtain ⟨hb, ha⟩ := Prod.mk.inj (hpaired.trans heq)
    rw [hb, ha]
    exact h.range (ha ▸ hafter)
  · obtain ⟨hb, ha⟩ := Prod.mk.inj (hpaired.trans heq)
    rw [hb, ha, areVasWithinSiblingRange_comm]
    exact hrange
  · obtain ⟨hb, ha⟩ := Prod.mk.inj (hpaired.trans heq)
    rw [hb, ha]
    exact hrange

/-- **Recording** an event in the entry that records its address, or where there is
none, keeps the entries distinct. -/
theorem DistinctInv.record (h : DistinctInv head) (hevent : event.Nonzero)
    (hfinds : FindsRecorded head event) {recorded : TscTable}
    (hrecord : tdRecordEvent head event.tscHash event.offensiveAddress event.timeStamp
      = some (i, recorded)) : DistinctInv recorded := by
  rcases tdRecordEvent_ways hrecord with ⟨hfind, updated, hupdate, rfl⟩ | ⟨hfind, hcreate⟩
  · obtain ⟨hi, htest⟩ := tdFindSibling_some hfind
    obtain ⟨hhash, hunset⟩ := isSiblingOf_eq_true htest
    obtain ⟨updated', hupdate', hpaired, hkept⟩ := tdUpdateSibling_addresses hunset event.timeStamp
    obtain rfl := Option.some.inj (hupdate'.symm.trans hupdate)
    have hbefore : (head.get i).before.address ≠ 0 := fun hzero =>
      hevent.2 (hhash.trans ((h.inRange i hi).cleared hzero).2)
    refine h.set ((h.inRange i hi).paired hbefore hevent htest hpaired) ?_
    intro tscHash address hne hrecords j hj hji hjrec
    rcases records_paired hpaired hkept hrecords with hold | ⟨rfl, rfl⟩
    · exact hji (h.distinct j hj i hi _ _ hne hjrec hold)
    · rw [← hhash] at hjrec
      rw [hfinds j hj hjrec] at hfind
      exact hji (Option.some.inj hfind)
  · have hnone : ∀ j < maxTscHits, ¬ Records (head.get j) event.tscHash event.offensiveAddress := by
      intro j hj hjrec
      rw [hfinds j hj hjrec] at hfind
      exact Option.some_ne_none j hfind
    have hnew : ∀ {table : TscTable} {k : Nat}, DistinctInv table → k < maxTscHits →
        (table.get k).after.address = 0 →
        (∀ j < maxTscHits, j ≠ k → table.get j = head.get j) →
        DistinctInv (table.set k (tdInitSibling (table.get k) event.offensiveAddress
          event.tscHash event.timeStamp)) := by
      intro table k htable hk hzero hothers
      refine htable.set ⟨fun hz => absurd hz hevent.1, fun hz => absurd hzero hz⟩ ?_
      intro tscHash address hne hrecords j hj hjk hjrec
      rw [hothers j hj hjk] at hjrec
      obtain ⟨rfl, haddress⟩ := hrecords
      rcases haddress with rfl | hafter
      · exact hnone j hj hjrec
      · exact hne (hafter.symm.trans hzero)
    rw [tdCreateSibling_eq] at hcreate
    rcases tdGetSiblingSlot_victim head with ⟨k, hk, heq, hfree⟩ | ⟨k, hk, heq, -⟩
    · rw [heq] at hcreate
      obtain ⟨rfl, rfl⟩ := Prod.mk.inj hcreate
      have hzero := ((h.inRange k hk).cleared (beq_iff_eq.mp hfree)).1
      exact hnew h hk hzero fun _ _ _ => rfl
    · rw [heq] at hcreate
      obtain ⟨rfl, rfl⟩ := Prod.mk.inj hcreate
      refine hnew h.clear hk ?_ fun j _ hjk => TscTable.get_set_ne (Ne.symm hjk)
      rw [TscTable.get_set hk]
      rfl

/-- **One event** keeps them so. -/
theorem DistinctInv.step (h : DistinctInv head) (hevent : event.Nonzero)
    (hfinds : FindsRecorded head event) (hstep : tdStep head event = some head') :
    DistinctInv head' := by
  obtain ⟨i, recorded, hrecord, hdecided⟩ := tdStep_cases hstep
  have hrecorded := h.record hevent hfinds hrecord
  rcases hdecided with ⟨-, rfl⟩ | ⟨-, rfl⟩
  · exact hrecorded
  · exact hrecorded.clear

end Inv

/-! ## Runs -/

/-- **One entry for an address** is exactly what a run has in which no orphan comes
before the entry that records the address of an event. -/
theorem oneEntry_iff {events : List TscEvent} (h : ∀ event ∈ events, event.Nonzero) :
    OneEntry events ↔ Throughout tdStep NoEarlierOrphan .zero events := by
  have hkeeps : ∀ {head event head'}, DistinctInv head → event.Nonzero →
      FindsRecorded head event → tdStep head event = some head' → DistinctInv head' :=
    fun hinv hevent hfinds hstep => hinv.step hevent hfinds hstep
  have hiff := @throughout_iff _ _ tdStep DistinctInv TscEvent.Nonzero FindsRecorded
    NoEarlierOrphan (fun hinv hevent => hinv.findsRecorded_iff hevent) hkeeps events .zero
    distinctInv_zero h
  have halways := @Throughout.always _ _ tdStep OneEntryPerAddress DistinctInv TscEvent.Nonzero
    FindsRecorded DistinctInv.pairwise hkeeps events .zero distinctInv_zero h
  constructor
  · intro hone
    exact hiff.mp hone.2
  · intro hnone
    exact ⟨halways (hiff.mpr hnone), hiff.mpr hnone⟩

/-- One pair has one entry. -/
theorem oneEntry_pair : OneEntry [readTsc 0x1000 5, readTsc 0x1010 9, readTsc 0x1000 15] :=
  (oneEntry_iff (by
    intro event hmem
    simp only [List.mem_cons, List.not_mem_nil, or_false] at hmem
    rcases hmem with rfl | rfl | rfl
    · exact ⟨by decide, by decide⟩
    · exact ⟨by decide, by decide⟩
    · exact ⟨by decide, by decide⟩)).mpr (by decide +kernel)

/-- The pair of one thread is in the second slot when that of another leaves the first;
a read at 0xFF0 puts an orphan there, and the next read at 0x1000 goes to it. -/
def earlierOrphan : List TscEvent :=
  [{ readTsc 0x2000 0 with threadId := 12 }, readTsc 0x1000 10, readTsc 0x1010 20,
    { readTsc 0x2010 0x60000 with threadId := 12 }, readTsc 0xFF0 0x60100,
    readTsc 0x1000 0x60200]

/-- The address 0x1000 has two entries then. -/
theorem not_oneEntry_earlierOrphan : ¬ OneEntry earlierOrphan := by
  have htwo : ¬ Always tdStep OneEntryPerAddress .zero earlierOrphan := by decide +kernel
  exact fun h => htwo h.1

end DeepShield.Td
