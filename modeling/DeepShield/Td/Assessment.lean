import DeepShield.Td.Eviction
import DeepShield.Td.GuestCode

/-!
# What is watched, and what is accused

Two results about what `TdIsTimingCandidate` is asked. It is asked about the entry of
every event, so that an entry over one of the limits is cleared before the call
returns, and no other entry ever is over one. But for the entry to be cleared the call
has to return, and it does not where the code of a candidate is longer than the buffer
it is copied into. `assessmentEnds_iff` says that there is no other way.

And it does not accuse a pair whose hits lie far apart, as long as they still do once
the time between them is cast to `int`: the average of times over the limit is over the
limit (`SlowDifference`). The cast keeps the low 32 bits, so that a time near a multiple
of 2^32 counts as none (`slowPairs_unaccused`).
-/

namespace DeepShield.Td

open DeepShield.Lib

/-! ## The limits -/

/-- An entry with two addresses and an average is within the limits. -/
def WithinLimits (entry : TscEntry) : Prop :=
  isOrphanSibling entry = false → entry.difference ≠ 0 →
    entry.before.count ≤ 255 ∧ entry.difference ≤ 0x50000

/-- Every entry is. -/
def Bounded (head : TscTable) : Prop := ∀ entry ∈ head.entries, WithinLimits entry

/-- The call returns, and an entry that is not, once the event is recorded, is cleared
then. -/
def CrossedCleared (head : TscTable) (event : TscEvent) : Prop :=
  ∃ i recorded head',
    tdRecordEvent head event.tscHash event.offensiveAddress event.timeStamp
      = some (i, recorded) ∧ tdStep head event = some head' ∧
    ∀ j < maxTscHits, ¬ WithinLimits (recorded.get j) → head'.get j = tdClearSibling

/-- After every event of a run the entries are within the limits, and an entry the event
took over one was cleared by it. -/
def AssessmentEnds (events : List TscEvent) : Prop :=
  Always tdStep Bounded .zero events ∧ Throughout tdStep CrossedCleared .zero events

theorem withinLimits_clear : WithinLimits tdClearSibling := fun _ h => absurd rfl h

/-- An entry that is watched on is within the limits. -/
theorem withinLimits_of_notYet {entry : TscEntry} (h : tdIsTimingCandidate entry = .notYet) :
    WithinLimits entry := by
  intro hpaired hdifference
  unfold tdIsTimingCandidate at h
  rw [if_neg (fun hzero => hdifference (beq_iff_eq.mp hzero)), if_neg (by simp [hpaired])] at h
  split at h
  next => exact absurd h (by decide)
  next hle =>
    simp only at h
    split at h
    next => exact absurd h (by decide)
    next =>
      split at h
      next => exact absurd h (by decide)
      next hcount => exact ⟨UInt64.not_lt.mp hcount, UInt64.not_lt.mp hle⟩

section Bounded

variable {head head' : TscTable} {event : TscEvent} {i : Nat} {recorded : TscTable}

/-- The entry of the event is the only one that can be over a limit. -/
theorem Bounded.record (h : Bounded head)
    (hrecord : tdRecordEvent head event.tscHash event.offensiveAddress event.timeStamp
      = some (i, recorded)) {j : Nat} (hj : j < maxTscHits) (hne : j ≠ i) :
    WithinLimits (recorded.get j) := by
  rw [(tdRecordEvent_frame hrecord).2, TscTable.get_set_ne (Ne.symm hne)]
  exact h _ (TscTable.get_mem hj)

theorem bounded_iff_get : Bounded head ↔ ∀ j < maxTscHits, WithinLimits (head.get j) := by
  constructor
  · intro h j hj
    exact h _ (TscTable.get_mem hj)
  · intro h entry hmem
    obtain ⟨j, hj, rfl⟩ := TscTable.exists_get hmem
    exact h j hj

/-- **One call** leaves no entry over a limit. -/
theorem Bounded.step (h : Bounded head) (hstep : tdStep head event = some head') :
    Bounded head' := by
  obtain ⟨i, recorded, hrecord, hdecided⟩ := tdStep_cases hstep
  rw [bounded_iff_get]
  intro j hj
  by_cases hji : j = i
  · subst hji
    rcases hdecided with ⟨hnotYet, rfl⟩ | ⟨-, rfl⟩
    · exact withinLimits_of_notYet hnotYet
    · rw [TscTable.get_set hj]
      exact withinLimits_clear
  · have hkept := h.record hrecord hj hji
    rcases hdecided with ⟨-, rfl⟩ | ⟨-, rfl⟩
    · exact hkept
    · rwa [TscTable.get_set_ne (Ne.symm hji)]

/-- It clears the one that is, if it returns. -/
theorem Bounded.crossedCleared_iff (h : Bounded head) :
    CrossedCleared head event ↔ CandidateFits head event := by
  rw [← tdProcessTscEvent_some_iff]
  constructor
  · rintro ⟨i, recorded, head', -, hstep, -⟩
    obtain ⟨outcome, houtcome, -⟩ := Option.map_eq_some_iff.mp hstep
    exact ⟨outcome, houtcome⟩
  · rintro ⟨outcome, houtcome⟩
    have hstep : tdStep head event = some outcome.head := by
      rw [tdStep, houtcome, Option.map_some]
    obtain ⟨k, recorded, hrecord, hdecided⟩ := tdStep_cases hstep
    refine ⟨k, recorded, outcome.head, hrecord, hstep, fun j hj hcrossed => ?_⟩
    have hjk : j = k := by
      by_cases hjk : j = k
      · exact hjk
      · exact absurd (h.record hrecord hj hjk) hcrossed
    subst hjk
    rcases hdecided with ⟨hnotYet, -⟩ | ⟨-, hcleared⟩
    · exact absurd (withinLimits_of_notYet hnotYet) hcrossed
    · rw [hcleared]
      exact TscTable.get_set hj

end Bounded

theorem bounded_zero : Bounded .zero := by
  intro entry hmem
  obtain rfl := List.eq_of_mem_replicate hmem
  exact withinLimits_clear

/-- Assessment ends exactly in the runs whose calls return. -/
theorem assessmentEnds_iff_fits (events : List TscEvent) :
    AssessmentEnds events ↔ Throughout tdStep CandidateFits .zero events := by
  have halways : Always tdStep Bounded .zero events :=
    always_of_inv (fun h => h) (fun h hstep => h.step hstep) bounded_zero
  have hiff := @throughout_iff _ _ tdStep Bounded (fun _ => True) CrossedCleared CandidateFits
    (fun h _ => h.crossedCleared_iff) (fun h _ _ hstep => h.step hstep) events .zero bounded_zero
    fun _ _ => trivial
  exact (and_iff_right halways).trans hiff

/-- **Assessment ends** exactly in the runs in which the code of every candidate that can
be read fits into `Code`; and it does if all pairs are near. -/
theorem assessmentEnds_iff {events : List TscEvent} (h : ∀ event ∈ events, event.Nonzero) :
    (AssessmentEnds events ↔ Throughout tdStep CandidateFits .zero events) ∧
      (Throughout tdStep PairsNear .zero events → AssessmentEnds events) := by
  refine ⟨assessmentEnds_iff_fits events, fun hnear => (assessmentEnds_iff_fits events).mpr ?_⟩
  refine @Throughout.mono _ _ tdStep (fun _ => True) CallFits CandidateFits
    (fun _ hcall => tdProcessTscEvent_some_iff.mp hcall.2) (fun _ _ _ => trivial) events .zero
    trivial ((callFits_throughout_iff h).mpr hnear)

/-- One pair 16 bytes apart. -/
theorem assessmentEnds_pair : AssessmentEnds [readTsc 0x1000 5, readTsc 0x1010 9] :=
  (assessmentEnds_iff (by
    intro event hmem
    rcases List.mem_cons.mp hmem with rfl | hmem
    · exact ⟨by decide, by decide⟩
    · obtain rfl := List.mem_singleton.mp hmem
      exact ⟨by decide, by decide⟩)).2 (by decide +kernel)

/-- `n` rounds of a pair 4 GiB and 16 bytes apart, on pages that can be read. -/
def farRounds (n : Nat) : List TscEvent :=
  (List.range n).flatMap fun k =>
    [{ readTsc 0x1000 (100 * UInt64.ofNat k) with machine := onePageMachine },
      { readTsc 0x100001010 (100 * UInt64.ofNat k + 10) with machine := onePageMachine }]

/-- The call that counts the 256th hit at 0x1000 does not return: all code up to the other
address would be copied. -/
theorem not_assessmentEnds_far : ¬ AssessmentEnds (farRounds 256) := by
  rw [assessmentEnds_iff_fits]
  decide +kernel

/-! ## Slow pairs -/

/-- The entry whose second address the event hits, as the average finds it. -/
def afterHit (head : TscTable) (event : TscEvent) : Option TscEntry := do
  let i ← tdFindSibling head event.tscHash event.offensiveAddress
  let (hit, sibling) ← tdAssignHit (head.get i) event.offensiveAddress
  if (sibling.hit hit).address == sibling.after.address then some sibling else none

/-- A property of that entry and the event. -/
def OfAfterHit (P : TscEntry → TscEvent → Prop) (head : TscTable) (event : TscEvent) : Prop :=
  match afterHit head event with
  | none => True
  | some entry => P entry event

instance {P : TscEntry → TscEvent → Prop} [∀ entry event, Decidable (P entry event)]
    (head : TscTable) (event : TscEvent) : Decidable (OfAfterHit P head event) := by
  unfold OfAfterHit
  split
  · exact inferInstance
  · exact inferInstance

/-- The hit comes more than 0x50000 after the last one at the first address. -/
def SlowHit (entry : TscEntry) (event : TscEvent) : Prop :=
  entry.before.timeStamp.toNat + 0x50000 < event.timeStamp.toNat

instance (entry : TscEntry) (event : TscEvent) : Decidable (SlowHit entry event) :=
  inferInstanceAs (Decidable (_ < _))

/-- The entry of the event is no candidate. -/
def Unaccused (head : TscTable) (event : TscEvent) : Prop :=
  match tdRecordEvent head event.tscHash event.offensiveAddress event.timeStamp with
  | none => True
  | some (i, recorded) => tdIsTimingCandidate (recorded.get i) ≠ .candidate

instance (head : TscTable) (event : TscEvent) : Decidable (Unaccused head event) := by
  unfold Unaccused
  split
  · exact inferInstance
  · exact inferInstance

/-- A run in which all pairs are slow accuses none. -/
def SlowPairsUnaccused (events : List TscEvent) : Prop :=
  Throughout tdStep (OfAfterHit SlowHit) .zero events →
    Throughout tdStep Unaccused .zero events

/-- The low 32 bits of the time since the last hit at the first address. -/
def elapsedLow (entry : TscEntry) (event : TscEvent) : Nat :=
  (event.timeStamp - entry.before.timeStamp).toNat % 2 ^ 32

/-- The time since then is not within 0x50000 of a multiple of 2^32, or is a multiple
and the first measured. If it is not the first, it is no odd multiple of 2^31 either. -/
def FarFromWrap (entry : TscEntry) (event : TscEvent) : Prop :=
  if entry.difference = 0 then elapsedLow entry event = 0 ∨
    0x50000 < elapsedLow entry event ∧ elapsedLow entry event < 2 ^ 32 - 0x50000
  else 0x50000 < elapsedLow entry event ∧ elapsedLow entry event < 2 ^ 32 - 0x50000 ∧
    elapsedLow entry event ≠ 2 ^ 31

instance (entry : TscEntry) (event : TscEvent) : Decidable (FarFromWrap entry event) := by
  unfold FarFromWrap
  exact inferInstance

/-! ## The average of slow pairs -/

/-- No average yet, or one over the limit; small enough to add one more time to. -/
def SlowDifference (difference : UInt64) : Prop :=
  difference = 0 ∨ 0x50000 < difference.toNat ∧ difference.toNat ≤ 2 ^ 64 - 2 ^ 31

/-- The same, assigned to a `UINT64`. -/
theorem absIntToUInt64_low (x : UInt64) : (absIntToUInt64 x).toNat
    = if x.toNat % 2 ^ 32 = 2 ^ 31 then 2 ^ 64 - 2 ^ 31
      else min (x.toNat % 2 ^ 32) (2 ^ 32 - x.toNat % 2 ^ 32) := by
  have hlow := absInt_low x
  by_cases hmin : x.toNat % 2 ^ 32 = 2 ^ 31
  · have hint : absInt x = -2 ^ 31 := by
      rw [if_pos hmin] at hlow
      exact Int32.toInt_inj.mp (hlow.trans (by decide))
    rw [if_pos hmin]
    unfold absIntToUInt64
    rw [hint]
    decide
  · rw [if_neg hmin] at hlow ⊢
    exact absIntToUInt64_toNat hlow

/-- **The average of slow pairs is slow.** -/
theorem slowDifference_update {entry : TscEntry} {event : TscEvent}
    (h : SlowDifference entry.difference) (hfar : FarFromWrap entry event) :
    SlowDifference (tdUpdateDifference entry event.timeStamp).difference := by
  have habs := absIntToUInt64_low (event.timeStamp - entry.before.timeStamp)
  have hlt := Nat.mod_lt (event.timeStamp - entry.before.timeStamp).toNat
    (show 0 < 2 ^ 32 by decide)
  unfold FarFromWrap elapsedLow at hfar
  unfold tdUpdateDifference
  generalize absIntToUInt64 (event.timeStamp - entry.before.timeStamp) = delay at habs
  generalize (event.timeStamp - entry.before.timeStamp).toNat % 2 ^ 32 = low at habs hfar hlt
  simp only
  by_cases hfirst : entry.difference = 0
  · rw [if_pos (beq_iff_eq.mpr hfirst)]
    rw [if_pos hfirst] at hfar
    rcases hfar with rfl | ⟨hlower, hupper⟩
    · refine Or.inl (UInt64.toNat_inj.mp ?_)
      rw [habs]
      rfl
    · right
      show 0x50000 < delay.toNat ∧ delay.toNat ≤ _
      rw [habs]
      split
      next => omega
      next => omega
  · rw [if_neg (fun hzero => hfirst (beq_iff_eq.mp hzero))]
    rw [if_neg hfirst] at hfar
    obtain ⟨hlower, hupper, hhalf⟩ := hfar
    rw [if_neg hhalf] at habs
    have hold := h.resolve_left hfirst
    split
    next => exact Or.inr hold
    next =>
      right
      show 0x50000 < ((entry.difference + delay) / 2).toNat ∧ _
      rw [UInt64.toNat_div, UInt64.toNat_add, show (2 : UInt64).toNat = 2 from rfl]
      omega

/-- **Only a hit at the second address moves the average.** -/
theorem tdUpdateSibling_difference {sibling updated : TscEntry} {address timeStamp : UInt64}
    (h : tdUpdateSibling sibling address timeStamp = some updated) :
    ∃ hit assigned, tdAssignHit sibling address = some (hit, assigned) ∧
      assigned.difference = sibling.difference ∧
      updated.difference = if (assigned.hit hit).address == assigned.after.address then
        (tdUpdateDifference assigned timeStamp).difference else assigned.difference := by
  have hincrement : ∀ (entry : TscEntry) (hit : HitRef),
      (entry.increment timeStamp hit).difference = entry.difference := by
    intro entry hit
    cases hit with
    | before => rfl
    | after => rfl
  have hassigned : ∀ {hit assigned}, tdAssignHit sibling address = some (hit, assigned) →
      assigned.difference = sibling.difference := by
    intro hit assigned hassign
    unfold tdAssignHit at hassign
    split at hassign
    next => exact (Prod.mk.inj (Option.some.inj hassign)).2 ▸ rfl
    next =>
      split at hassign
      next => exact (Prod.mk.inj (Option.some.inj hassign)).2 ▸ rfl
      next =>
        split at hassign
        next =>
          split at hassign
          next => exact (Prod.mk.inj (Option.some.inj hassign)).2 ▸ rfl
          next => exact (Prod.mk.inj (Option.some.inj hassign)).2 ▸ rfl
        next => exact absurd hassign (by simp)
  unfold tdUpdateSibling at h
  cases hassign : tdAssignHit sibling address with
  | none =>
    rw [hassign] at h
    exact absurd h (by simp)
  | some p =>
    obtain ⟨hit, assigned⟩ := p
    rw [hassign] at h
    obtain rfl := Option.some.inj h
    refine ⟨hit, assigned, rfl, hassigned hassign, ?_⟩
    rw [hincrement]
    split
    next => rfl
    next => rfl

/-- No entry with a slow average, or none, is a candidate. -/
theorem SlowDifference.unaccused {entry : TscEntry} (h : SlowDifference entry.difference) :
    tdIsTimingCandidate entry ≠ .candidate := by
  unfold tdIsTimingCandidate
  rcases h with hzero | ⟨hslow, -⟩
  · rw [if_pos (beq_iff_eq.mpr hzero)]
    decide
  · have hgt : entry.difference > 0x50000 := UInt64.lt_iff_toNat_lt.mpr hslow
    rw [if_pos hgt]
    split
    next => decide
    next =>
      split
      next => decide
      next => decide

section Slow

variable {head head' : TscTable} {event : TscEvent} {i : Nat} {recorded : TscTable}

/-- Every average is slow. -/
def SlowTable (head : TscTable) : Prop :=
  ∀ j < maxTscHits, SlowDifference (head.get j).difference

theorem slowTable_zero : SlowTable .zero := by
  intro j hj
  rw [show TscTable.zero.get j = tdClearSibling from
    List.eq_of_mem_replicate (TscTable.get_mem hj)]
  exact Or.inl rfl

/-- **Recording an event** that is far from the wrap keeps the averages slow. -/
theorem SlowTable.record (h : SlowTable head) (hfar : OfAfterHit FarFromWrap head event)
    (hrecord : tdRecordEvent head event.tscHash event.offensiveAddress event.timeStamp
      = some (i, recorded)) : SlowTable recorded := by
  obtain ⟨hi, hset⟩ := tdRecordEvent_frame hrecord
  intro j hj
  by_cases hji : j = i
  · subst hji
    rcases tdRecordEvent_ways hrecord with ⟨hfind, updated, hupdate, rfl⟩ | ⟨-, hcreate⟩
    · obtain ⟨hit, assigned, hassign, hsame, hupdated⟩ := tdUpdateSibling_difference hupdate
      rw [TscTable.get_set hi, hupdated]
      have hold : SlowDifference assigned.difference := hsame ▸ h j hj
      have hafter : afterHit head event
          = if (assigned.hit hit).address == assigned.after.address then some assigned
            else none := by
        unfold afterHit
        rw [hfind, Option.bind_eq_bind, Option.bind_some, hassign]
        rfl
      unfold OfAfterHit at hfar
      rw [hafter] at hfar
      split
      next hhit =>
        rw [if_pos hhit] at hfar
        exact slowDifference_update hold hfar
      next => exact hold
    · rw [tdCreateSibling_eq] at hcreate
      rcases tdGetSiblingSlot_victim head with ⟨k, hk, heq, -⟩ | ⟨k, hk, heq, -⟩
      · rw [heq] at hcreate
        obtain ⟨rfl, rfl⟩ := Prod.mk.inj hcreate
        rw [TscTable.get_set hk]
        exact h k hk
      · rw [heq] at hcreate
        obtain ⟨rfl, rfl⟩ := Prod.mk.inj hcreate
        simp only [TscTable.get_set hk]
        exact Or.inl rfl
  · rw [hset, TscTable.get_set_ne (Ne.symm hji)]
    exact h j hj

/-- So the event accuses no entry. -/
theorem SlowTable.unaccused (h : SlowTable head) (hfar : OfAfterHit FarFromWrap head event) :
    Unaccused head event := by
  unfold Unaccused
  split
  next => trivial
  next i recorded hrecord =>
    exact (h.record hfar hrecord i (tdRecordEvent_frame hrecord).1).unaccused

/-- And the next one finds slow averages. -/
theorem SlowTable.step (h : SlowTable head) (hfar : OfAfterHit FarFromWrap head event)
    (hstep : tdStep head event = some head') : SlowTable head' := by
  obtain ⟨i, recorded, hrecord, hdecided⟩ := tdStep_cases hstep
  have hslow := h.record hfar hrecord
  rcases hdecided with ⟨-, rfl⟩ | ⟨-, rfl⟩
  · exact hslow
  · intro j hj
    by_cases hji : i = j
    · subst hji
      rw [TscTable.get_set hj]
      exact Or.inl rfl
    · rw [TscTable.get_set_ne hji]
      exact hslow j hj

end Slow

/-- **Slow pairs are not accused** in runs whose hits are far from the wrap. -/
theorem slowPairs_unaccused {events : List TscEvent}
    (h : Throughout tdStep (OfAfterHit FarFromWrap) .zero events) :
    SlowPairsUnaccused events := fun _ =>
  Throughout.mono (fun hinv hfar => hinv.unaccused hfar)
    (fun hinv hfar hstep => hinv.step hfar hstep) slowTable_zero h

/-- A pair 0x60000 apart is discarded the first time. -/
theorem slowPairs_unaccused_once :
    SlowPairsUnaccused [readTsc 0x1000 0, readTsc 0x1010 0x60000] :=
  slowPairs_unaccused (by decide +kernel)

/-- `n` rounds of a pair 2^32 + 100 apart. -/
def wrappedRounds (n : Nat) : List TscEvent :=
  (List.range n).flatMap fun k =>
    [readTsc 0x1000 (0x200000000 * UInt64.ofNat k),
      readTsc 0x1010 (0x200000000 * UInt64.ofNat k + 0x100000064)]

/-- They are taken to be 100 apart. -/
theorem not_slowPairsUnaccused_wrapped : ¬ SlowPairsUnaccused (wrappedRounds 256) := by
  have hslow : Throughout tdStep (OfAfterHit SlowHit) .zero (wrappedRounds 256) := by
    decide +kernel
  have haccused : ¬ Throughout tdStep Unaccused .zero (wrappedRounds 256) := by
    decide +kernel
  exact fun h => haccused (h hslow)

end DeepShield.Td
