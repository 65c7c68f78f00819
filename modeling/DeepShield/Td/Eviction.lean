import DeepShield.Td.Hits

/-!
# Which slot an event changes

An event changes one slot of the table, that of the entry it finds or creates
(`tdRecordEvent_frame`, `tdStep_cases`). What is decided about the entry happens to
the same slot.

A new entry goes to the first free slot. If there is none, `TdGetSiblingSlot` recycles
one, and has found it in the same pass: `OldestOf` says of each of its two running
minima that it is the oldest entry of its kind among the slots passed. `Victim` is what
that comes to at the end.
-/

namespace DeepShield.Td

open DeepShield.Lib

/-! ## The property -/

/-- The slot to recycle: the oldest orphan, or if there is none the oldest pair. -/
def Victim (head : TscTable) (i : Nat) : Prop :=
  (isOrphanSibling (head.get i) = true ∧
    ∀ entry ∈ head.entries, isOrphanSibling entry = true →
      (head.get i).before.timeStamp ≤ entry.before.timeStamp) ∨
  ((∀ entry ∈ head.entries, isOrphanSibling entry = false) ∧
    ∀ entry ∈ head.entries, (head.get i).before.timeStamp ≤ entry.before.timeStamp)

/-- No slot matches the event, and none is free. -/
def FindsNoSlot (head : TscTable) (event : TscEvent) : Prop :=
  tdFindSibling head event.tscHash event.offensiveAddress = none ∧
    ∀ entry ∈ head.entries, tdIsFreeSlot entry = false

instance (head : TscTable) (event : TscEvent) : Decidable (FindsNoSlot head event) :=
  inferInstanceAs (Decidable (_ ∧ _))

/-- One slot changes at most. It was the thread's or free, unless the event found no
slot; then it is the victim, and has the new entry. -/
def EventFrame (head : TscTable) (event : TscEvent) : Prop :=
  ∀ head', tdStep head event = some head' →
    ∃ i < maxTscHits, (∀ j, j ≠ i → head'.get j = head.get j) ∧
      if FindsNoSlot head event then
        Victim head i ∧ head'.get i
          = tdInitSibling tdClearSibling event.offensiveAddress event.tscHash event.timeStamp
      else (head.get i).tscHash = event.tscHash ∨ tdIsFreeSlot (head.get i) = true

/-! ## The two running minima -/

/-- `oldest` is the oldest entry of a kind among the first `i` slots. -/
def OldestOf (head : TscTable) (kind : TscEntry → Bool) (i : Nat) :
    Option (Nat × TscEntry) → Prop
  | none => ∀ j < i, kind (head.get j) = false
  | some (k, entry) => k < i ∧ head.get k = entry ∧ kind entry = true ∧
    ∀ j < i, kind (head.get j) = true → entry.before.timeStamp ≤ (head.get j).before.timeStamp

section Oldest

variable {head : TscTable} {kind : TscEntry → Bool} {i : Nat} {oldest : Option (Nat × TscEntry)}

/-- An entry of another kind does not count. -/
theorem OldestOf.skip (h : OldestOf head kind i oldest) (hkind : kind (head.get i) = false) :
    OldestOf head kind (i + 1) oldest := by
  cases oldest with
  | none =>
    intro j hj
    rcases Nat.lt_succ_iff_lt_or_eq.mp hj with hlt | rfl
    · exact h j hlt
    · exact hkind
  | some old =>
    obtain ⟨k, entry⟩ := old
    obtain ⟨hk, hentry, hof, hleast⟩ := h
    refine ⟨Nat.lt_succ_of_lt hk, hentry, hof, fun j hj hjkind => ?_⟩
    rcases Nat.lt_succ_iff_lt_or_eq.mp hj with hlt | rfl
    · exact hleast j hlt hjkind
    · rw [hkind] at hjkind
      exact absurd hjkind (by decide)

/-- One of the kind takes the place of the oldest if it is older. -/
theorem OldestOf.olderHit (h : OldestOf head kind i oldest) (hkind : kind (head.get i) = true) :
    OldestOf head kind (i + 1) (olderHit oldest i (head.get i)) := by
  cases oldest with
  | none =>
    refine ⟨Nat.lt_succ_self i, rfl, hkind, fun j hj hjkind => ?_⟩
    rcases Nat.lt_succ_iff_lt_or_eq.mp hj with hlt | rfl
    · rw [h j hlt] at hjkind
      exact absurd hjkind (by decide)
    · exact UInt64.le_refl _
  | some old =>
    obtain ⟨k, entry⟩ := old
    obtain ⟨hk, hentry, hof, hleast⟩ := h
    unfold Td.olderHit
    by_cases holder : (head.get i).before.timeStamp < entry.before.timeStamp
    · simp only [if_pos holder]
      refine ⟨Nat.lt_succ_self i, rfl, hkind, fun j hj hjkind => ?_⟩
      rcases Nat.lt_succ_iff_lt_or_eq.mp hj with hlt | rfl
      · exact UInt64.le_trans (UInt64.le_of_lt holder) (hleast j hlt hjkind)
      · exact UInt64.le_refl _
    · simp only [if_neg holder]
      refine ⟨Nat.lt_succ_of_lt hk, hentry, hof, fun j hj hjkind => ?_⟩
      rcases Nat.lt_succ_iff_lt_or_eq.mp hj with hlt | rfl
      · exact hleast j hlt hjkind
      · exact UInt64.not_lt.mp holder

/-- An entry of the table is in a slot. -/
theorem TscTable.exists_get {entry : TscEntry} (h : entry ∈ head.entries) :
    ∃ j < maxTscHits, head.get j = entry := by
  obtain ⟨j, hj, heq⟩ := List.mem_iff_getElem.mp h
  exact ⟨j, head.length_eq ▸ hj, (TscTable.get_eq hj).trans heq⟩

/-- Once all slots are passed, there is none of the kind. -/
theorem OldestOf.all (h : OldestOf head kind maxTscHits none) :
    ∀ entry ∈ head.entries, kind entry = false := by
  intro entry hmem
  obtain ⟨j, hj, rfl⟩ := TscTable.exists_get hmem
  exact h j hj

/-- Or it is the oldest of all. -/
theorem OldestOf.least {k : Nat} {old : TscEntry}
    (h : OldestOf head kind maxTscHits (some (k, old))) :
    kind (head.get k) = true ∧ ∀ entry ∈ head.entries, kind entry = true →
      (head.get k).before.timeStamp ≤ entry.before.timeStamp := by
  obtain ⟨-, rfl, hof, hleast⟩ := h
  refine ⟨hof, fun entry hmem hkind => ?_⟩
  obtain ⟨j, hj, rfl⟩ := TscTable.exists_get hmem
  exact hleast j hj hkind

end Oldest

/-! ## The slot of a new entry -/

/-- The loop comes to a free slot, or to the victim. -/
theorem tdGetSiblingSlotLoop_victim {head : TscTable} :
    ∀ {rest : List TscEntry} {i : Nat} {orphanOldest siblingOldest : Option (Nat × TscEntry)},
      head.entries.drop i = rest → i ≤ maxTscHits →
      (∀ j < i, tdIsFreeSlot (head.get j) = false) →
      OldestOf head isOrphanSibling i orphanOldest →
      OldestOf head (fun entry => !isOrphanSibling entry) i siblingOldest →
      (∃ k < maxTscHits, tdGetSiblingSlotLoop rest i orphanOldest siblingOldest = (k, false) ∧
        tdIsFreeSlot (head.get k) = true) ∨
      ∃ k < maxTscHits, tdGetSiblingSlotLoop rest i orphanOldest siblingOldest = (k, true) ∧
        (∀ entry ∈ head.entries, tdIsFreeSlot entry = false) ∧ Victim head k := by
  intro rest
  induction rest with
  | nil =>
    intro i orphanOldest siblingOldest hdrop hi hused horphan hsibling
    have hend : i = maxTscHits := by
      have hlen := List.drop_eq_nil_iff.mp hdrop
      rw [head.length_eq] at hlen
      exact Nat.le_antisymm hi hlen
    subst hend
    right
    have hnone : ∀ entry ∈ head.entries, tdIsFreeSlot entry = false := by
      intro entry hmem
      obtain ⟨j, hj, rfl⟩ := TscTable.exists_get hmem
      exact hused j hj
    cases orphanOldest with
    | some old => exact ⟨old.1, horphan.1, rfl, hnone, Or.inl horphan.least⟩
    | none =>
      have hpaired := horphan.all
      cases siblingOldest with
      | some old =>
        refine ⟨old.1, hsibling.1, rfl, hnone, Or.inr ⟨hpaired, fun entry hmem => ?_⟩⟩
        exact hsibling.least.2 entry hmem (by rw [hpaired entry hmem]; rfl)
      | none =>
        -- the first slot is of one kind or the other
        have hfirst := hsibling.all _ (TscTable.get_mem (show 0 < maxTscHits by decide))
        rw [hpaired _ (TscTable.get_mem (by decide))] at hfirst
        exact absurd hfirst (by decide)
  | cons sibling rest ih =>
    intro i orphanOldest siblingOldest hdrop _ hused horphan hsibling
    obtain ⟨hi, rfl, hrest⟩ := TscTable.of_drop_eq_cons hdrop
    unfold tdGetSiblingSlotLoop
    by_cases hfree : tdIsFreeSlot (head.get i) = true
    · rw [if_pos hfree]
      exact Or.inl ⟨i, hi, rfl, hfree⟩
    · rw [if_neg hfree]
      have hused' : ∀ j < i + 1, tdIsFreeSlot (head.get j) = false := by
        intro j hj
        rcases Nat.lt_succ_iff_lt_or_eq.mp hj with hlt | rfl
        · exact hused j hlt
        · exact Bool.not_eq_true _ ▸ hfree
      cases hkind : isOrphanSibling (head.get i) with
      | true =>
        have hother : (!isOrphanSibling (head.get i)) = false := by rw [hkind]; rfl
        exact ih hrest hi hused' (horphan.olderHit hkind) (hsibling.skip hother)
      | false =>
        have hother : (!isOrphanSibling (head.get i)) = true := by rw [hkind]; rfl
        exact ih hrest hi hused' (horphan.skip hkind) (hsibling.olderHit hother)

/-- **`TdGetSiblingSlot`** returns a free slot, or clears the victim. -/
theorem tdGetSiblingSlot_victim (head : TscTable) :
    (∃ i < maxTscHits, tdGetSiblingSlot head = (i, head) ∧ tdIsFreeSlot (head.get i) = true) ∨
      ∃ i < maxTscHits, tdGetSiblingSlot head = (i, head.set i tdClearSibling) ∧
        (∀ entry ∈ head.entries, tdIsFreeSlot entry = false) ∧ Victim head i := by
  have hloop := @tdGetSiblingSlotLoop_victim head head.entries 0 none none rfl (Nat.zero_le _)
    (fun j hj => absurd hj (Nat.not_lt_zero j)) (fun j hj => absurd hj (Nat.not_lt_zero j))
    (fun j hj => absurd hj (Nat.not_lt_zero j))
  unfold tdGetSiblingSlot
  rcases hloop with ⟨i, hi, heq, hfree⟩ | ⟨i, hi, heq, hused, hvictim⟩
  · exact Or.inl ⟨i, hi, by rw [heq], hfree⟩
  · exact Or.inr ⟨i, hi, by rw [heq], hused, hvictim⟩

/-! ## One event -/

section Event

variable {head head' : TscTable} {event : TscEvent}

/-- Two assignments to one slot. -/
theorem TscTable.set_set (head : TscTable) (i : Nat) (old entry : TscEntry) :
    (head.set i old).set i entry = head.set i entry := by
  show (⟨(head.entries.set i old).set i entry, _⟩ : TscTable) = ⟨head.entries.set i entry, _⟩
  simp only [List.set_set]

/-- **Recording an event** changes one slot. -/
theorem tdRecordEvent_frame {tscHash address timeStamp : UInt64} {i : Nat} {recorded : TscTable}
    (h : tdRecordEvent head tscHash address timeStamp = some (i, recorded)) :
    i < maxTscHits ∧ recorded = head.set i (recorded.get i) := by
  rcases tdRecordEvent_ways h with ⟨hfind, updated, -, rfl⟩ | ⟨-, hcreate⟩
  · have hi := (tdFindSibling_some hfind).1
    exact ⟨hi, by rw [TscTable.get_set hi]⟩
  · rw [tdCreateSibling_eq] at hcreate
    rcases tdGetSiblingSlot_victim head with ⟨k, hk, heq, -⟩ | ⟨k, hk, heq, -⟩
    · rw [heq] at hcreate
      obtain ⟨rfl, rfl⟩ := Prod.mk.inj hcreate
      exact ⟨hk, by rw [TscTable.get_set hk]⟩
    · rw [heq] at hcreate
      obtain ⟨rfl, rfl⟩ := Prod.mk.inj hcreate
      refine ⟨hk, ?_⟩
      simp only [TscTable.set_set, TscTable.get_set hk]

/-- A new entry is watched on. -/
theorem tdIsTimingCandidate_new {entry : TscEntry} (h : entry.difference = 0) :
    tdIsTimingCandidate entry = .notYet := by
  unfold tdIsTimingCandidate
  rw [h]
  rfl

end Event

/-- **An event changes one slot**, and takes that of another thread only if it has to,
the one of least worth. -/
theorem tdProcessTscEvent_frame (head : TscTable) (event : TscEvent) : EventFrame head event := by
  intro head' hstep
  obtain ⟨i, recorded, hrecord, hdecided⟩ := tdStep_cases hstep
  obtain ⟨hi, hset⟩ := tdRecordEvent_frame hrecord
  have hothers : ∀ j, j ≠ i → head'.get j = head.get j := by
    intro j hj
    have hkept : recorded.get j = head.get j := by
      rw [hset, TscTable.get_set_ne (Ne.symm hj)]
    rcases hdecided with ⟨-, rfl⟩ | ⟨-, rfl⟩
    · exact hkept
    · rw [TscTable.get_set_ne (Ne.symm hj), hkept]
  refine ⟨i, hi, hothers, ?_⟩
  rcases tdRecordEvent_ways hrecord with ⟨hfind, updated, -, -⟩ | ⟨hfind, hcreate⟩
  · have hfound : ¬ FindsNoSlot head event := by
      intro hnone
      rw [hnone.1] at hfind
      exact Option.some_ne_none i hfind.symm
    rw [if_neg hfound]
    exact Or.inl (isSiblingOf_eq_true (tdFindSibling_some hfind).2).1.symm
  · rw [tdCreateSibling_eq] at hcreate
    rcases tdGetSiblingSlot_victim head with ⟨k, hk, heq, hfree⟩ | ⟨k, hk, heq, hused, hvictim⟩
    · rw [heq] at hcreate
      obtain ⟨rfl, -⟩ := Prod.mk.inj hcreate
      have hfound : ¬ FindsNoSlot head event := by
        intro hnone
        rw [hnone.2 _ (TscTable.get_mem hk)] at hfree
        exact absurd hfree (by decide)
      rw [if_neg hfound]
      exact Or.inr hfree
    · rw [heq] at hcreate
      obtain ⟨rfl, rfl⟩ := Prod.mk.inj hcreate
      rw [if_pos (show FindsNoSlot head event from ⟨hfind, hused⟩)]
      refine ⟨hvictim, ?_⟩
      simp only [TscTable.get_set hk] at hdecided ⊢
      rcases hdecided with ⟨-, rfl⟩ | ⟨hcandidate, -⟩
      · exact TscTable.get_set hk
      · exact absurd (tdIsTimingCandidate_new rfl) hcandidate

end DeepShield.Td
