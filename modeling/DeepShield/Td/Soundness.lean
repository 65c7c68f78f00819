import DeepShield.Td.Duplicates
import DeepShield.Td.Hits

/-!
# What the counts of a candidate stand for

The counts of an entry are moved from one hit to the other by the swap and are
lost when the slot is recycled, so what they count is a matter of history. A
history is kept for every slot (`SlotHistory`): the events delivered since its
entry was created, and those of them that were recorded in it, that is, whose
lookup found it.

`SlotInv` says what every path keeps: all events recorded are of the entry's
thread and at one of its current addresses, and each count is the number of
those at its address. `candidate_recorded` is the result for runs.

The counts miss an event of the same thread at the same address that came before
the entry had this address, and was recorded where another entry of the thread had
it (`not_countsDelivered_shared`).
-/

namespace DeepShield.Td

open DeepShield.Lib

/-! ## Histories -/

/-- What happened since the entry of a slot was created, the latest first. -/
structure SlotHistory where
  delivered : List TscEvent
  recorded : List TscEvent

/-- The histories of all slots after an event. -/
def remember (head : TscTable) (histories : Nat → SlotHistory) (event : TscEvent) (j : Nat) :
    SlotHistory :=
  match tdFindSibling head event.tscHash event.offensiveAddress with
  | some i =>
    ⟨event :: (histories j).delivered,
      if j = i then event :: (histories j).recorded else (histories j).recorded⟩
  | none =>
    if j = (tdGetSiblingSlot head).1 then ⟨[event], [event]⟩
    else ⟨event :: (histories j).delivered, (histories j).recorded⟩

/-- A table and what its slots have seen. -/
structure Remembered where
  head : TscTable
  histories : Nat → SlotHistory

/-- Before the first event. -/
def Remembered.zero : Remembered := ⟨.zero, fun _ => ⟨[], []⟩⟩

/-- One event, remembered. -/
def rememberStep (remembered : Remembered) (event : TscEvent) : Option Remembered :=
  (tdStep remembered.head event).map fun head =>
    ⟨head, remember remembered.head remembered.histories event⟩

/-- The event is of the entry's thread and at one of its addresses. -/
def IsHitOf (entry : TscEntry) (event : TscEvent) : Prop :=
  event.tscHash = entry.tscHash ∧
    (event.offensiveAddress = entry.before.address ∨ event.offensiveAddress = entry.after.address)

instance (entry : TscEntry) (event : TscEvent) : Decidable (IsHitOf entry event) :=
  inferInstanceAs (Decidable (_ ∧ _))

/-- How many of the events are. -/
def hitCount (entry : TscEntry) (events : List TscEvent) : Nat :=
  events.countP fun event => IsHitOf entry event

/-! ## What is claimed of a run -/

/-- If the event makes its entry a candidate, the property holds of the entry
and the history of its slot, the event included. -/
def OfCandidate (P : TscEntry → SlotHistory → Prop) (remembered : Remembered)
    (event : TscEvent) : Prop :=
  ∀ i recorded, tdRecordEvent remembered.head event.tscHash event.offensiveAddress
      event.timeStamp = some (i, recorded) → tdIsTimingCandidate (recorded.get i) = .candidate →
    P (recorded.get i) (remember remembered.head remembered.histories event i)

instance {P : TscEntry → SlotHistory → Prop} [∀ entry history, Decidable (P entry history)]
    (remembered : Remembered) (event : TscEvent) : Decidable (OfCandidate P remembered event) :=
  match h : tdRecordEvent remembered.head event.tscHash event.offensiveAddress
      event.timeStamp with
  | none => isTrue fun _ _ hi => absurd (h.symm.trans hi) (Option.some_ne_none _).symm
  | some (i, recorded) => decidable_of_iff (tdIsTimingCandidate (recorded.get i) = .candidate →
      P (recorded.get i) (remember remembered.head remembered.histories event i))
    ⟨fun hp _ _ hj hcandidate => by
      obtain ⟨rfl, rfl⟩ := Prod.mk.inj (Option.some.inj (h.symm.trans hj))
      exact hp hcandidate, fun hp => hp i recorded h⟩

/-- At least 511 hits were delivered since the entry was created, and the counts
are the number of them. -/
def CountsDelivered (entry : TscEntry) (history : SlotHistory) : Prop :=
  511 ≤ hitCount entry history.delivered ∧
    entry.before.count.toNat + entry.after.count.toNat = hitCount entry history.delivered

instance (entry : TscEntry) (history : SlotHistory) : Decidable (CountsDelivered entry history) :=
  inferInstanceAs (Decidable (_ ∧ _))

/-- At least 511 hits were delivered since the entry was created and recorded in
it, nothing else was recorded in it, and the counts are the number of the hits
recorded, as far as a `UINT64` can tell. -/
structure CountsRecorded (entry : TscEntry) (history : SlotHistory) : Prop where
  delivered : history.recorded.Sublist history.delivered
  hits : ∀ event ∈ history.recorded, IsHitOf entry event
  enough : 511 ≤ history.recorded.length
  counts : entry.before.count + entry.after.count = UInt64.ofNat history.recorded.length

/-! ## The history of one slot -/

/-- How many of the events are at the address. -/
def countAt (address : UInt64) (events : List TscEvent) : Nat :=
  events.countP fun event => event.offensiveAddress = address

/-- An entry and the events recorded in it. -/
structure Counted (entry : TscEntry) (recorded : List TscEvent) : Prop where
  nonzero : entry.before.address ≠ 0
  distinct : entry.before.address ≠ entry.after.address
  hits : ∀ event ∈ recorded, event.offensiveAddress ≠ 0 ∧ IsHitOf entry event
  before : entry.before.count = UInt64.ofNat (countAt entry.before.address recorded)
  after : entry.after.count = UInt64.ofNat (countAt entry.after.address recorded)

/-- What holds of every slot: it is cleared, or its counts are those of its
history. -/
structure SlotInv (entry : TscEntry) (history : SlotHistory) : Prop where
  sublist : history.recorded.Sublist history.delivered
  counted : entry ≠ tdClearSibling → Counted entry history.recorded

section Counts

variable {entry : TscEntry} {recorded : List TscEvent} {event : TscEvent}

theorem countAt_cons_of_eq {address : UInt64} (h : event.offensiveAddress = address) :
    countAt address (event :: recorded) = countAt address recorded + 1 := by
  unfold countAt
  rw [List.countP_cons, if_pos (decide_eq_true h)]

theorem countAt_cons_of_ne {address : UInt64} (h : event.offensiveAddress ≠ address) :
    countAt address (event :: recorded) = countAt address recorded := by
  unfold countAt
  rw [List.countP_cons, if_neg (by simpa using h), Nat.add_zero]

/-- An address no event is at. -/
theorem countAt_eq_zero {address : UInt64}
    (h : ∀ event ∈ recorded, event.offensiveAddress ≠ address) : countAt address recorded = 0 :=
  List.countP_eq_zero.mpr fun event hmem => by simpa using h event hmem

/-- The hits of an entry are those at its first address and those at its
second. -/
theorem Counted.length_eq (h : Counted entry recorded) :
    countAt entry.before.address recorded + countAt entry.after.address recorded
      = recorded.length := by
  have hdistinct := h.distinct
  have hhits : ∀ event ∈ recorded, IsHitOf entry event := fun event hmem => (h.hits event hmem).2
  clear h
  induction recorded with
  | nil => rfl
  | cons event recorded ih =>
    have hrest := ih fun e hmem => hhits e (List.mem_cons_of_mem event hmem)
    rw [List.length_cons]
    rcases (hhits event List.mem_cons_self).2 with heq | heq
    · rw [countAt_cons_of_eq heq, countAt_cons_of_ne (by rw [heq]; exact hdistinct)]
      omega
    · rw [countAt_cons_of_eq heq, countAt_cons_of_ne (by rw [heq]; exact hdistinct.symm)]
      omega

/-- The first event of an entry. -/
theorem counted_first (haddress : event.offensiveAddress ≠ 0) :
    Counted (tdInitSibling tdClearSibling event.offensiveAddress event.tscHash event.timeStamp)
      [event] where
  nonzero := haddress
  distinct := haddress
  hits := by
    intro e hmem
    obtain rfl := List.mem_singleton.mp hmem
    exact ⟨haddress, rfl, Or.inl rfl⟩
  before := by
    show (1 : UInt64) = UInt64.ofNat (countAt event.offensiveAddress [event])
    rw [countAt_cons_of_eq rfl]
    rfl
  after := by
    show (0 : UInt64) = UInt64.ofNat (countAt 0 [event])
    rw [countAt_cons_of_ne haddress]
    rfl

/-- A hit more on one side, nothing on the other. -/
theorem ofNat_countAt_cons {address count : UInt64} (heq : event.offensiveAddress = address)
    (h : count = UInt64.ofNat (countAt address recorded)) :
    count + 1 = UInt64.ofNat (countAt address (event :: recorded)) := by
  rw [countAt_cons_of_eq heq, UInt64.ofNat_add, ← h]
  rfl

/-- An event at the first address is counted there. -/
theorem Counted.hitBefore (h : Counted entry recorded) (haddress : event.offensiveAddress ≠ 0)
    (hhash : event.tscHash = entry.tscHash)
    (hbefore : entry.before.address = event.offensiveAddress) {updated : TscEntry}
    (hupdate : tdUpdateSibling entry event.offensiveAddress event.timeStamp = some updated) :
    Counted updated (event :: recorded) := by
  have hafter : entry.after.address ≠ event.offensiveAddress := by
    rw [← hbefore]
    exact h.distinct.symm
  rw [tdUpdateSibling_before hbefore hafter] at hupdate
  obtain rfl := Option.some.inj hupdate
  refine ⟨h.nonzero, h.distinct, ?_, ofNat_countAt_cons hbefore.symm h.before, ?_⟩
  · intro e hmem
    rcases List.mem_cons.mp hmem with rfl | hmem
    · exact ⟨haddress, hhash, Or.inl hbefore.symm⟩
    · exact h.hits e hmem
  · show entry.after.count = _
    rw [countAt_cons_of_ne hafter.symm]
    exact h.after

/-- One at the second address is counted there. -/
theorem Counted.hitAfter (h : Counted entry recorded) (haddress : event.offensiveAddress ≠ 0)
    (hhash : event.tscHash = entry.tscHash)
    (hbefore : entry.before.address ≠ event.offensiveAddress)
    (hafter : entry.after.address = event.offensiveAddress) {updated : TscEntry}
    (hupdate : tdUpdateSibling entry event.offensiveAddress event.timeStamp = some updated) :
    Counted updated (event :: recorded) := by
  obtain ⟨hb, ha, hh⟩ := tdUpdateDifference_frame entry event.timeStamp
  rw [tdUpdateSibling_after hbefore hafter] at hupdate
  obtain rfl := Option.some.inj hupdate
  refine ⟨?_, ?_, ?_, ?_, ofNat_countAt_cons hafter.symm h.after⟩
  · exact fun hzero => h.nonzero ((congrArg TscHit.address hb).symm.trans hzero)
  · exact fun heq => h.distinct ((congrArg TscHit.address hb).symm.trans heq)
  · intro e hmem
    show _ ∧ e.tscHash = (tdUpdateDifference entry _).tscHash ∧
      (_ = (tdUpdateDifference entry _).before.address ∨ _ = entry.after.address)
    rw [hb, hh]
    rcases List.mem_cons.mp hmem with rfl | hmem
    · exact ⟨haddress, hhash, Or.inr hafter.symm⟩
    · exact h.hits e hmem
  · show (tdUpdateDifference entry _).before.count
      = UInt64.ofNat (countAt (tdUpdateDifference entry _).before.address _)
    rw [hb, countAt_cons_of_ne (Ne.symm hbefore)]
    exact h.before

/-- All events of an orphan are at its one address. -/
theorem Counted.orphan (h : Counted entry recorded) (hzero : entry.after.address = 0) :
    ∀ e ∈ recorded, e.offensiveAddress = entry.before.address := by
  intro e hmem
  obtain ⟨hne, _, heq⟩ := h.hits e hmem
  rcases heq with heq | heq
  · exact heq
  · exact absurd (heq.trans hzero) hne

/-- One at a new address is the first there. -/
theorem Counted.hitNew (h : Counted entry recorded) (haddress : event.offensiveAddress ≠ 0)
    (hhash : event.tscHash = entry.tscHash)
    (hbefore : entry.before.address ≠ event.offensiveAddress)
    (hzero : entry.after.address = 0) {updated : TscEntry}
    (hupdate : tdUpdateSibling entry event.offensiveAddress event.timeStamp = some updated) :
    Counted updated (event :: recorded) := by
  obtain ⟨hb, ha, hh⟩ := tdUpdateDifference_frame entry event.timeStamp
  have hold := h.orphan hzero
  have hnew : countAt event.offensiveAddress recorded = 0 :=
    countAt_eq_zero fun e hmem heq => hbefore ((hold e hmem).symm.trans heq)
  by_cases hlt : event.offensiveAddress < entry.before.address
  · rw [tdUpdateSibling_swap hzero haddress hlt] at hupdate
    obtain rfl := Option.some.inj hupdate
    refine ⟨haddress, Ne.symm hbefore, ?_, ?_, ?_⟩
    · intro e hmem
      rcases List.mem_cons.mp hmem with rfl | hmem
      · exact ⟨haddress, hhash, Or.inl rfl⟩
      · exact ⟨(h.hits e hmem).1, (h.hits e hmem).2.1, Or.inr (hold e hmem)⟩
    · show (1 : UInt64) = UInt64.ofNat (countAt event.offensiveAddress _)
      rw [countAt_cons_of_eq rfl, hnew]
      rfl
    · show entry.before.count = UInt64.ofNat (countAt entry.before.address _)
      rw [countAt_cons_of_ne (Ne.symm hbefore)]
      exact h.before
  · have hgt := UInt64.lt_of_le_of_ne (UInt64.not_lt.mp hlt) hbefore
    rw [tdUpdateSibling_pair hzero haddress hgt] at hupdate
    obtain rfl := Option.some.inj hupdate
    have hnone : entry.after.count = 0 := by
      rw [h.after, hzero, countAt_eq_zero fun e hmem => (h.hits e hmem).1]
      rfl
    refine ⟨?_, ?_, ?_, ?_, ?_⟩
    · exact fun hz => h.nonzero ((congrArg TscHit.address hb).symm.trans hz)
    · exact fun heq => hbefore ((congrArg TscHit.address hb).symm.trans heq)
    · intro e hmem
      show _ ∧ e.tscHash = (tdUpdateDifference entry _).tscHash ∧
        (_ = (tdUpdateDifference entry _).before.address ∨ _ = event.offensiveAddress)
      rw [hb, hh]
      rcases List.mem_cons.mp hmem with rfl | hmem
      · exact ⟨haddress, hhash, Or.inr rfl⟩
      · exact ⟨(h.hits e hmem).1, (h.hits e hmem).2.1, Or.inl (hold e hmem)⟩
    · show (tdUpdateDifference entry _).before.count
        = UInt64.ofNat (countAt (tdUpdateDifference entry _).before.address _)
      rw [hb, countAt_cons_of_ne (Ne.symm hbefore)]
      exact h.before
    · show entry.after.count + 1 = UInt64.ofNat (countAt event.offensiveAddress _)
      rw [hnone, countAt_cons_of_eq rfl, hnew]
      rfl

/-- **Every outcome of an update counts the event at its address.** -/
theorem Counted.update (h : Counted entry recorded) (haddress : event.offensiveAddress ≠ 0)
    (hpasses : isSiblingOf event.tscHash event.offensiveAddress entry = true)
    {updated : TscEntry}
    (hupdate : tdUpdateSibling entry event.offensiveAddress event.timeStamp = some updated) :
    Counted updated (event :: recorded) := by
  obtain ⟨hhash, hunset⟩ := isSiblingOf_eq_true hpasses
  by_cases hbefore : entry.before.address = event.offensiveAddress
  · exact h.hitBefore haddress hhash hbefore hupdate
  · by_cases hafter : entry.after.address = event.offensiveAddress
    · exact h.hitAfter haddress hhash hbefore hafter hupdate
    · exact h.hitNew haddress hhash hbefore (hunset hbefore hafter) hupdate

/-- **A candidate has counted 511 events.** -/
theorem candidate_count (h : tdIsTimingCandidate entry = .candidate) :
    511 ≤ entry.before.count.toNat + entry.after.count.toNat := by
  unfold tdIsTimingCandidate at h
  split at h
  next => exact absurd h (by decide)
  next =>
    split at h
    next => exact absurd h (by decide)
    next =>
      split at h
      next => exact absurd h (by decide)
      next =>
        simp only at h
        split at h
        next hall =>
          obtain ⟨hsync, _, hcount⟩ := hall
          have hcount' : 255 < entry.before.count.toNat := UInt64.lt_iff_toNat_lt.mp hcount
          have hsync' := Int32.lt_iff_toInt_lt.mp hsync
          have htwo : (2 : Int32).toInt = 2 := rfl
          -- counts that small are compared exactly
          by_cases hsmall : entry.before.count.toNat + entry.after.count.toNat < 511
          · rw [absInt_sub (by omega), htwo] at hsync'
            omega
          · exact Nat.le_of_not_lt hsmall
        next =>
          split at h
          next => exact absurd h (by decide)
          next => exact absurd h (by decide)

/-- What the history of a candidate's slot says. -/
theorem SlotInv.candidate {history : SlotHistory} (h : SlotInv entry history)
    (hcandidate : tdIsTimingCandidate entry = .candidate) : CountsRecorded entry history := by
  have hcounted := h.counted fun heq => by
    rw [heq] at hcandidate
    exact absurd hcandidate (by decide)
  have htotal := hcounted.length_eq
  refine ⟨h.sublist, fun event hmem => (hcounted.hits event hmem).2, ?_, ?_⟩
  · have hcount := candidate_count hcandidate
    rw [hcounted.before, hcounted.after, UInt64.toNat_ofNat', UInt64.toNat_ofNat'] at hcount
    have hb := Nat.mod_le (countAt entry.before.address history.recorded) (2 ^ 64)
    have ha := Nat.mod_le (countAt entry.after.address history.recorded) (2 ^ 64)
    omega
  · rw [hcounted.before, hcounted.after, ← UInt64.ofNat_add, htotal]

end Counts

/-! ## One call -/

section Call

variable {remembered : Remembered} {event : TscEvent}

/-- Every slot and its history. -/
def RememberInv (remembered : Remembered) : Prop :=
  ∀ i < maxTscHits, SlotInv (remembered.head.get i) (remembered.histories i)

theorem slotInv_clear {history : SlotHistory}
    (h : history.recorded.Sublist history.delivered) : SlotInv tdClearSibling history :=
  ⟨h, fun hne => absurd rfl hne⟩

theorem rememberInv_zero : RememberInv .zero := by
  intro i hi
  have hclear : TscTable.zero.get i = tdClearSibling :=
    List.eq_of_mem_replicate (TscTable.get_mem hi)
  show SlotInv (TscTable.zero.get i) ⟨[], []⟩
  rw [hclear]
  exact slotInv_clear (List.Sublist.refl _)

/-- A slot without a first address is cleared. -/
theorem SlotInv.cleared {entry : TscEntry} {history : SlotHistory} (h : SlotInv entry history)
    (hzero : entry.before.address = 0) : entry = tdClearSibling := by
  by_cases heq : entry = tdClearSibling
  · exact heq
  · exact absurd hzero (h.counted heq).nonzero

/-- A slot in which an event delivered was not recorded. -/
theorem SlotInv.deliver {entry : TscEntry} {history : SlotHistory} (h : SlotInv entry history)
    (event : TscEvent) : SlotInv entry ⟨event :: history.delivered, history.recorded⟩ :=
  ⟨h.sublist.cons event, h.counted⟩

/-- The slot of a new entry is cleared, and the others are left alone. -/
theorem RememberInv.slot (h : RememberInv remembered) :
    (tdGetSiblingSlot remembered.head).1 < maxTscHits ∧
      (tdGetSiblingSlot remembered.head).2.get (tdGetSiblingSlot remembered.head).1
        = tdClearSibling ∧
      ∀ j, (tdGetSiblingSlot remembered.head).1 ≠ j →
        (tdGetSiblingSlot remembered.head).2.get j = remembered.head.get j := by
  obtain ⟨hi, hfree⟩ := @tdGetSiblingSlotLoop_spec remembered.head remembered.head.entries 0 none
    none rfl (by simp) (by simp)
  unfold tdGetSiblingSlot
  generalize tdGetSiblingSlotLoop remembered.head.entries 0 none none = slot at hi hfree
  obtain ⟨i, recycled⟩ := slot
  cases recycled with
  | true => exact ⟨hi, TscTable.get_set hi, fun j hne => TscTable.get_set_ne hne⟩
  | false => exact ⟨hi, (h i hi).cleared (hfree rfl), fun j _ => rfl⟩

/-- **Recording an event keeps every slot true to its history.** -/
theorem RememberInv.record (h : RememberInv remembered) (hevent : event.Nonzero) {i : Nat}
    {recorded : TscTable}
    (hrecord : tdRecordEvent remembered.head event.tscHash event.offensiveAddress event.timeStamp
      = some (i, recorded)) :
    i < maxTscHits ∧ ∀ j < maxTscHits,
      SlotInv (recorded.get j) (remember remembered.head remembered.histories event j) := by
  unfold remember
  rcases tdRecordEvent_ways hrecord with ⟨hfind, updated, hupdate, rfl⟩ | ⟨hfind, hcreate⟩
  · rw [hfind]
    obtain ⟨hi, hpasses⟩ := tdFindSibling_some hfind
    refine ⟨hi, fun j hj => ?_⟩
    by_cases hji : j = i
    · have hfound : remembered.head.get i ≠ tdClearSibling := by
        intro hclear
        rw [hclear] at hpasses
        exact hevent.2 (isSiblingOf_eq_true hpasses).1
      have hcounted := (h i hi).counted hfound
      rw [hji, TscTable.get_set hi]
      simp only [if_true]
      exact ⟨(h i hi).sublist.cons_cons event,
        fun _ => hcounted.update hevent.1 hpasses hupdate⟩
    · rw [TscTable.get_set_ne (Ne.symm hji)]
      simp only [if_neg hji]
      exact (h j hj).deliver event
  · rw [hfind]
    rw [tdCreateSibling_eq] at hcreate
    obtain ⟨hi, hclear, hkept⟩ := h.slot
    obtain ⟨rfl, rfl⟩ := Prod.mk.inj hcreate
    refine ⟨hi, fun j hj => ?_⟩
    by_cases hji : j = (tdGetSiblingSlot remembered.head).1
    · rw [hji, TscTable.get_set hi, hclear]
      simp only [if_true]
      exact ⟨List.Sublist.refl _, fun _ => counted_first hevent.1⟩
    · rw [TscTable.get_set_ne (Ne.symm hji), hkept j (Ne.symm hji)]
      simp only [if_neg hji]
      exact (h j hj).deliver event

/-- **A step keeps every slot true to its history.** -/
theorem RememberInv.step (h : RememberInv remembered) (hevent : event.Nonzero)
    {remembered' : Remembered} (hstep : rememberStep remembered event = some remembered') :
    RememberInv remembered' := by
  obtain ⟨head', hhead, rfl⟩ := Option.map_eq_some_iff.mp hstep
  obtain ⟨i, recorded, hrecord, hdecided⟩ := tdStep_cases hhead
  obtain ⟨hi, hslots⟩ := h.record hevent hrecord
  intro j hj
  rcases hdecided with ⟨-, rfl⟩ | ⟨-, rfl⟩
  · exact hslots j hj
  · by_cases hji : j = i
    · rw [hji]
      show SlotInv ((recorded.set i tdClearSibling).get i) _
      rw [TscTable.get_set hi]
      exact slotInv_clear (hslots i hi).sublist
    · show SlotInv ((recorded.set i tdClearSibling).get j) _
      rw [TscTable.get_set_ne (Ne.symm hji)]
      exact hslots j hj

end Call

/-! ## Runs -/

/-- **A candidate has recorded what it counts.** In every run of events of other
than zero hashes and addresses, an entry that becomes a candidate was given at
least 511 events since its creation, all of its thread and at its two addresses,
and its counts are the number of those it was given. -/
theorem candidate_recorded (events : List TscEvent) (h : ∀ event ∈ events, event.Nonzero) :
    Throughout rememberStep (OfCandidate CountsRecorded) .zero events := by
  refine throughout_of_inv (fun hinv hevent i recorded hrecord hcandidate => ?_)
    (fun hinv hevent hstep => hinv.step hevent hstep) rememberInv_zero h
  obtain ⟨hi, hslots⟩ := hinv.record hevent hrecord
  exact (hslots i hi).candidate hcandidate

/-- The code between 0x1000 and 0x1010 timed `n` times, from 0xF0000 on. -/
def timedRounds (n : Nat) : List TscEvent :=
  (List.range n).flatMap fun k =>
    [readTsc 0x1000 (0xF0000 + 100 * UInt64.ofNat k),
      readTsc 0x1010 (0xF0000 + 100 * UInt64.ofNat k + 10)]

/-- A thread with two entries: a read at 0x1010 is recorded in the first, which has
that address and is cleared for the time to the next read at 0x1020. Only then does
the second entry get it too, and the code between its addresses is timed. -/
def sharedAddress : List TscEvent :=
  [readTsc 0x1010 0, readTsc 0x1020 0x40000, readTsc 0x1000 0x40001, readTsc 0x1010 0x50000,
    readTsc 0x1020 0xE0000, readTsc 0x1000 0xE0001, readTsc 0x1010 0xE000B,
    readTsc 0x1010 0xE000C] ++ timedRounds 254

/-- Over 500 reads of one thread are no run with a zero in it. -/
theorem candidate_recorded_shared :
    Throughout rememberStep (OfCandidate CountsRecorded) .zero sharedAddress :=
  candidate_recorded sharedAddress (by
    have hnonzero : (sharedAddress.all fun event =>
        event.offensiveAddress != 0 && event.tscHash != 0) = true := by decide +kernel
    intro event hmem
    have hevent := List.all_eq_true.mp hnonzero event hmem
    rw [Bool.and_eq_true, bne_iff_ne, bne_iff_ne] at hevent
    exact hevent)

/-- **The counts need not be the number of hits delivered.** 513 were, and 512
are counted. -/
theorem not_countsDelivered_shared :
    ¬ Throughout rememberStep (OfCandidate CountsDelivered) .zero sharedAddress := by
  decide +kernel

/-- No orphan is in the way of any of these reads. -/
example : Throughout tdStep NoEarlierOrphan .zero sharedAddress := by
  decide +kernel

end DeepShield.Td
