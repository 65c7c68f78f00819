import DeepShield.Td.Siblings
import Mathlib.Tactic.NormNum

/-!
# What one event does to the hits of an entry

`TdUpdateSibling` has four outcomes, one equation each: the address is the first
one (`tdUpdateSibling_before`), the second one (`tdUpdateSibling_after`), or a
new one above or below the first (`tdUpdateSibling_pair`, `tdUpdateSibling_swap`).
The average has three: it starts, it moves, or the delay is skipped.

`tdStep_other` is the frame condition of the table: an event leaves an entry of
another thread alone as long as it finds an entry of its own, or a slot with
fewer than two addresses to take.
-/

namespace DeepShield.Td

open DeepShield.Lib

/-! ## Differences -/

/-- `abs((int)(a - b))` is the distance as long as that fits an `int`. -/
theorem absInt_sub {a b : UInt64} (h : (a.toNat - b.toNat : Int).natAbs < 2 ^ 31) :
    (absInt (a - b)).toInt = (a.toNat - b.toNat : Int).natAbs := by
  have hlow : (a - b).toUInt32.toBitVec.toInt = (a.toNat - b.toNat : Int) := by
    rw [BitVec.toInt_eq_toNat_cond]
    show (if 2 * (a - b).toUInt32.toNat < 2 ^ 32 then ((a - b).toUInt32.toNat : Int)
      else (a - b).toUInt32.toNat - (2 ^ 32 : Nat)) = _
    have ha := a.toNat_lt
    have hb := b.toNat_lt
    rw [UInt64.toNat_toUInt32, UInt64.toNat_sub]
    omega
  have hmin : (a - b).toUInt32.toBitVec ≠ BitVec.intMin 32 := by
    intro hmin
    rw [hmin, BitVec.toInt_intMin] at hlow
    norm_num at hlow
    omega
  show (a - b).toUInt32.toBitVec.abs.toInt = _
  rw [BitVec.toInt_abs_eq_natAbs_of_ne_intMin hmin, hlow]

/-- `abs((int)x)` is the distance of `x` to the next multiple of 2^32, and negative
half way between two. -/
theorem absInt_low (x : UInt64) : (absInt x).toInt
    = if x.toNat % 2 ^ 32 = 2 ^ 31 then (-2 ^ 31 : Int)
      else (min (x.toNat % 2 ^ 32) (2 ^ 32 - x.toNat % 2 ^ 32) : Nat) := by
  have hlow : x.toUInt32.toNat = x.toNat % 2 ^ 32 := UInt64.toNat_toUInt32 x
  by_cases hmin : x.toNat % 2 ^ 32 = 2 ^ 31
  · have hx : x.toUInt32 = 0x80000000 := UInt32.toNat_inj.mp (hlow.trans hmin)
    rw [if_pos hmin]
    unfold absInt
    rw [hx]
    decide
  · have hint : x.toUInt32.toBitVec.toInt
        = if 2 * (x.toNat % 2 ^ 32) < 2 ^ 32 then (x.toNat % 2 ^ 32 : Int)
          else (x.toNat % 2 ^ 32 : Int) - 2 ^ 32 := by
      rw [BitVec.toInt_eq_toNat_cond]
      show (if 2 * x.toUInt32.toNat < 2 ^ 32 then (x.toUInt32.toNat : Int)
        else x.toUInt32.toNat - (2 ^ 32 : Nat)) = _
      rw [hlow]
      norm_cast
    have hne : x.toUInt32.toBitVec ≠ BitVec.intMin 32 := by
      intro heq
      have hnat := congrArg BitVec.toNat heq
      rw [BitVec.toNat_intMin] at hnat
      exact hmin (hlow.symm.trans (hnat.trans (by norm_num)))
    rw [if_neg hmin]
    show x.toUInt32.toBitVec.abs.toInt = _
    rw [BitVec.toInt_abs_eq_natAbs_of_ne_intMin hne, hint]
    have hlt := Nat.mod_lt x.toNat (show 0 < 2 ^ 32 by decide)
    split
    next => omega
    next => omega

theorem absIntToUInt64_toNat {x : UInt64} {n : Nat} (h : (absInt x).toInt = n) :
    (absIntToUInt64 x).toNat = n := by
  show ((absInt x).toBitVec.signExtend 64).toNat = n
  have hint : (absInt x).toBitVec.toInt = n := h
  have hmsb : (absInt x).toBitVec.msb = false := by
    rw [BitVec.msb_eq_toInt, hint]
    simp
  rw [BitVec.toInt_eq_toNat_of_msb hmsb] at hint
  have hlt : (absInt x).toBitVec.toNat < 2 ^ 32 := BitVec.isLt _
  rw [BitVec.signExtend_eq_setWidth_of_msb_false hmsb, BitVec.toNat_setWidth]
  omega

theorem absIntToUInt64_of_lt {x : UInt64} (h : x.toNat < 2 ^ 31) : absIntToUInt64 x = x := by
  have hsub := @absInt_sub x 0 (by simpa using h)
  exact UInt64.toNat_inj.mp (absIntToUInt64_toNat (by simpa using hsub))

/-- Addresses less than the limit apart are within sibling range. -/
theorem areVasWithinSiblingRange_of_le {a b : UInt64} (hle : a ≤ b)
    (hnear : b - a < siblingDistanceLimit) : areVasWithinSiblingRange a b = true := by
  have hle' := UInt64.le_iff_toNat_le.mp hle
  have hnear' : b.toNat - a.toNat < 255 := by
    have hlt := UInt64.lt_iff_toNat_lt.mp hnear
    rwa [UInt64.toNat_sub_of_le b a hle] at hlt
  have habs := @absInt_sub a b (by omega)
  refine decide_eq_true (Int32.lt_iff_toInt_lt.mpr ?_)
  rw [habs]
  show _ < (255 : Int)
  omega

/-! ## The four outcomes of an update -/

section Update

variable {sibling : TscEntry} {address timeStamp : UInt64}

/-- Neither hit is the second one unless its address is. -/
theorem tdUpdateSibling_of_ne {hit : HitRef} {assigned : TscEntry}
    (hassign : tdAssignHit sibling address = some (hit, assigned))
    (hne : (assigned.hit hit).address ≠ assigned.after.address) :
    tdUpdateSibling sibling address timeStamp = some (assigned.increment timeStamp hit) := by
  unfold tdUpdateSibling
  rw [hassign]
  simp only
  rw [if_neg (fun h => hne (beq_iff_eq.mp h))]

/-- The second hit moves the average. -/
theorem tdUpdateSibling_of_after {assigned : TscEntry}
    (hassign : tdAssignHit sibling address = some (.after, assigned)) :
    tdUpdateSibling sibling address timeStamp
      = some { tdUpdateDifference assigned timeStamp with
          after := tdHitIncrement assigned.after timeStamp } := by
  have hframe := (tdUpdateDifference_frame assigned timeStamp).2.1
  unfold tdUpdateSibling
  rw [hassign]
  simp only [TscEntry.hit, beq_self_eq_true, if_true, TscEntry.increment, hframe]

/-- The first address again. -/
theorem tdUpdateSibling_before (hbefore : sibling.before.address = address)
    (hafter : sibling.after.address ≠ address) :
    tdUpdateSibling sibling address timeStamp
      = some { sibling with before := tdHitIncrement sibling.before timeStamp } := by
  refine @tdUpdateSibling_of_ne sibling address timeStamp .before sibling ?_ ?_
  · unfold tdAssignHit
    rw [if_pos (beq_iff_eq.mpr hbefore)]
  · show sibling.before.address ≠ sibling.after.address
    rw [hbefore]
    exact hafter.symm

/-- The second address again. -/
theorem tdUpdateSibling_after (hbefore : sibling.before.address ≠ address)
    (hafter : sibling.after.address = address) :
    tdUpdateSibling sibling address timeStamp
      = some { tdUpdateDifference sibling timeStamp with
          after := tdHitIncrement sibling.after timeStamp } := by
  refine tdUpdateSibling_of_after ?_
  unfold tdAssignHit
  rw [if_neg (fun h => hbefore (beq_iff_eq.mp h)), if_pos (beq_iff_eq.mpr hafter)]

/-- The entry with its second address set, in the average's eyes. -/
theorem tdUpdateDifference_after (after : TscHit) :
    tdUpdateDifference { sibling with after := after } timeStamp
      = { tdUpdateDifference sibling timeStamp with after := after } := by
  unfold tdUpdateDifference
  simp only
  split
  next => rfl
  next =>
    split
    next => rfl
    next => rfl

/-- A second address above the first. -/
theorem tdUpdateSibling_pair (hunset : sibling.after.address = 0) (hnonzero : address ≠ 0)
    (hlt : sibling.before.address < address) :
    tdUpdateSibling sibling address timeStamp
      = some { tdUpdateDifference sibling timeStamp with
          after := ⟨address, timeStamp, sibling.after.count + 1⟩ } := by
  have hbefore : sibling.before.address ≠ address := UInt64.ne_of_lt hlt
  have hafter : sibling.after.address ≠ address := by
    rw [hunset]
    exact hnonzero.symm
  have hassign : tdAssignHit sibling address
      = some (.after, { sibling with after := { sibling.after with address := address } }) := by
    unfold tdAssignHit
    rw [if_neg (fun h => hbefore (beq_iff_eq.mp h)), if_neg (fun h => hafter (beq_iff_eq.mp h)),
      if_pos (beq_iff_eq.mpr hunset), if_neg (UInt64.not_lt.mpr (UInt64.le_of_lt hlt))]
  rw [tdUpdateSibling_of_after hassign, tdUpdateDifference_after]
  rfl

/-- A second address below the first, which becomes the first. -/
theorem tdUpdateSibling_swap (hunset : sibling.after.address = 0) (hnonzero : address ≠ 0)
    (hlt : address < sibling.before.address) :
    tdUpdateSibling sibling address timeStamp
      = some { sibling with
          before := ⟨address, timeStamp, 1⟩
          after := sibling.before } := by
  have hbefore : sibling.before.address ≠ address := (UInt64.ne_of_lt hlt).symm
  have hafter : sibling.after.address ≠ address := by
    rw [hunset]
    exact hnonzero.symm
  refine @tdUpdateSibling_of_ne sibling address timeStamp .before
    { sibling with after := sibling.before, before := ⟨address, 0, 0⟩ } ?_ hbefore.symm
  unfold tdAssignHit
  rw [if_neg (fun h => hbefore (beq_iff_eq.mp h)), if_neg (fun h => hafter (beq_iff_eq.mp h)),
    if_pos (beq_iff_eq.mpr hunset), if_pos hlt]

end Update

/-! ## The three outcomes of the average -/

section Difference

variable {sibling : TscEntry} {timeStamp delay : UInt64}

/-- The first delay. -/
theorem tdUpdateDifference_first (hdelay : timeStamp - sibling.before.timeStamp = delay)
    (hlt : delay.toNat < 2 ^ 31) (hzero : sibling.difference = 0) :
    tdUpdateDifference sibling timeStamp = { sibling with difference := delay } := by
  unfold tdUpdateDifference
  rw [hdelay, absIntToUInt64_of_lt hlt, if_pos (beq_iff_eq.mpr hzero)]

/-- A delay that is not two and a half times the average moves it. -/
theorem tdUpdateDifference_average (hdelay : timeStamp - sibling.before.timeStamp = delay)
    (hlt : delay.toNat < 2 ^ 31) (hpos : 0 < sibling.difference.toNat)
    (hnear : 2 * delay.toNat ≤ 5 * sibling.difference.toNat) :
    tdUpdateDifference sibling timeStamp
      = { sibling with difference := (sibling.difference + delay) / 2 } := by
  have hne : sibling.difference ≠ 0 := by
    intro hzero
    rw [hzero] at hpos
    exact absurd hpos (by decide)
  unfold tdUpdateDifference
  rw [hdelay, absIntToUInt64_of_lt hlt, if_neg (fun h => hne (beq_iff_eq.mp h)), if_neg]
  intro ⟨hgt, hskip⟩
  have hgt' := UInt64.lt_iff_toNat_lt.mp hgt
  have habs := absIntToUInt64_toNat (@absInt_sub delay sibling.difference (by omega))
  have hskip' := UInt64.lt_iff_toNat_lt.mp hskip
  rw [habs, UInt64.toNat_div, UInt64.toNat_mul] at hskip'
  have h3 : (3 : UInt64).toNat = 3 := rfl
  have h2 : (2 : UInt64).toNat = 2 := rfl
  rw [h3, h2] at hskip'
  omega

/-- A delay of more than two and a half times the average is skipped. -/
theorem tdUpdateDifference_skip (hdelay : timeStamp - sibling.before.timeStamp = delay)
    (hlt : delay.toNat < 2 ^ 31) (hpos : 0 < sibling.difference.toNat)
    (hfar : 5 * sibling.difference.toNat < 2 * delay.toNat) :
    tdUpdateDifference sibling timeStamp = { sibling with skips := sibling.skips + 1 } := by
  have hne : sibling.difference ≠ 0 := by
    intro hzero
    rw [hzero] at hpos
    exact absurd hpos (by decide)
  unfold tdUpdateDifference
  rw [hdelay, absIntToUInt64_of_lt hlt, if_neg (fun h => hne (beq_iff_eq.mp h)), if_pos]
  have habs := absIntToUInt64_toNat (@absInt_sub delay sibling.difference (by omega))
  refine ⟨UInt64.lt_iff_toNat_lt.mpr (by omega), UInt64.lt_iff_toNat_lt.mpr ?_⟩
  rw [habs, UInt64.toNat_div, UInt64.toNat_mul]
  have h3 : (3 : UInt64).toNat = 3 := rfl
  have h2 : (2 : UInt64).toNat = 2 := rfl
  rw [h3, h2]
  omega

end Difference

/-! ## The slot of a new entry -/

/-- A free slot has no address, so it has fewer than two. -/
theorem isOrphanSibling_of_free {entry : TscEntry} (h : tdIsFreeSlot entry = true) :
    isOrphanSibling entry = true := by
  unfold isOrphanSibling
  rw [Bool.or_eq_true]
  exact Or.inr h

/-- If some entry has fewer than two addresses, the slot chosen has. -/
theorem tdGetSiblingSlotLoop_orphan {head : TscTable} :
    ∀ {rest : List TscEntry} {i : Nat} {orphanOldest siblingOldest : Option (Nat × TscEntry)},
      head.entries.drop i = rest →
      (∀ p ∈ orphanOldest, isOrphanSibling (head.get p.1) = true) →
      (orphanOldest ≠ none ∨ ∃ entry ∈ rest, isOrphanSibling entry = true) →
      isOrphanSibling
        (head.get (tdGetSiblingSlotLoop rest i orphanOldest siblingOldest).1) = true := by
  intro rest
  induction rest with
  | nil =>
    intro i orphanOldest siblingOldest _ horphan hsome
    cases orphanOldest with
    | some p => exact horphan p rfl
    | none =>
      rcases hsome with hsome | ⟨entry, hmem, _⟩
      · exact absurd rfl hsome
      · exact absurd hmem (by simp)
  | cons sibling rest ih =>
    intro i orphanOldest siblingOldest hdrop horphan hsome
    obtain ⟨hi, hhere, hrest⟩ := TscTable.of_drop_eq_cons hdrop
    unfold tdGetSiblingSlotLoop
    split
    next hfree =>
      rw [hhere]
      exact isOrphanSibling_of_free hfree
    next =>
      split
      next hpaired =>
        refine ih hrest horphan (hsome.imp_right ?_)
        intro hsome
        obtain ⟨entry, hmem, hentry⟩ := hsome
        rcases List.mem_cons.mp hmem with heq | hmem
        · rw [heq] at hentry
          rw [hentry] at hpaired
          exact absurd hpaired (by decide)
        · exact ⟨entry, hmem, hentry⟩
      next hunpaired =>
        have hsibling : isOrphanSibling (head.get i) = true := by
          rw [hhere]
          simpa using hunpaired
        refine ih hrest ?_ (Or.inl ?_)
        · intro p hp
          unfold olderHit at hp
          split at hp
          next =>
            obtain rfl := Option.some.inj hp
            exact hsibling
          next j old =>
            split at hp
            next =>
              obtain rfl := Option.some.inj hp
              exact hsibling
            next =>
              obtain rfl := Option.some.inj hp
              exact horphan _ rfl
        · unfold olderHit
          split
          next => exact Option.some_ne_none _
          next =>
            split
            next => exact Option.some_ne_none _
            next => exact Option.some_ne_none _

/-- A new entry never takes the slot of one with two addresses as long as
another slot has fewer. -/
theorem tdGetSiblingSlot_keeps {head : TscTable} {j : Nat}
    (hpaired : isOrphanSibling (head.get j) = false)
    (hfree : ∃ entry ∈ head.entries, isOrphanSibling entry = true) :
    (tdGetSiblingSlot head).1 ≠ j ∧ (tdGetSiblingSlot head).2.get j = head.get j := by
  have horphan := @tdGetSiblingSlotLoop_orphan head head.entries 0 none none rfl (by simp)
    (Or.inr hfree)
  unfold tdGetSiblingSlot
  generalize tdGetSiblingSlotLoop head.entries 0 none none = slot at horphan
  obtain ⟨i, recycled⟩ := slot
  have hne : i ≠ j := by
    intro heq
    rw [heq, hpaired] at horphan
    exact absurd horphan (by decide)
  cases recycled with
  | true => exact ⟨hne, TscTable.get_set_ne hne⟩
  | false => exact ⟨hne, rfl⟩

/-- A new entry, by its slot. -/
theorem tdCreateSibling_eq (head : TscTable) (address tscHash timeStamp : UInt64) :
    tdCreateSibling head address tscHash timeStamp = ((tdGetSiblingSlot head).1,
      (tdGetSiblingSlot head).2.set (tdGetSiblingSlot head).1
        (tdInitSibling ((tdGetSiblingSlot head).2.get (tdGetSiblingSlot head).1) address tscHash
          timeStamp)) := rfl

/-! ## The other entries -/

section Other

variable {head : TscTable} {event : TscEvent} {j : Nat}

/-- The event finds an entry or a slot with fewer than two addresses. -/
def FindsRoom (head : TscTable) (event : TscEvent) : Prop :=
  tdFindSibling head event.tscHash event.offensiveAddress = none →
    ∃ entry ∈ head.entries, tdIsFreeSlot entry = true ∨ isOrphanSibling entry = true

instance (head : TscTable) (event : TscEvent) : Decidable (FindsRoom head event) :=
  inferInstanceAs (Decidable (_ → _))

/-- Recording an event leaves alone an entry of another thread that has two
addresses. -/
theorem tdRecordEvent_other (hpaired : isOrphanSibling (head.get j) = false)
    (hother : event.tscHash ≠ (head.get j).tscHash) (hroom : FindsRoom head event)
    {i : Nat} {recorded : TscTable}
    (h : tdRecordEvent head event.tscHash event.offensiveAddress event.timeStamp
      = some (i, recorded)) :
    i ≠ j ∧ recorded.get j = head.get j := by
  rcases tdRecordEvent_ways h with ⟨hfind, updated, -, rfl⟩ | ⟨hfind, hcreate⟩
  · obtain ⟨hhash, _⟩ := isSiblingOf_eq_true (tdFindSibling_some hfind).2
    have hne : i ≠ j := by
      intro heq
      rw [heq] at hhash
      exact hother hhash
    exact ⟨hne, TscTable.get_set_ne hne⟩
  · rw [tdCreateSibling_eq] at hcreate
    obtain ⟨rfl, rfl⟩ := Prod.mk.inj hcreate
    obtain ⟨entry, hmem, hentry⟩ := hroom hfind
    obtain ⟨hne, hkept⟩ := tdGetSiblingSlot_keeps hpaired
      ⟨entry, hmem, hentry.elim isOrphanSibling_of_free id⟩
    exact ⟨hne, (TscTable.get_set_ne hne).trans hkept⟩

/-- **So does whatever is decided about the event.** -/
theorem tdStep_other (hpaired : isOrphanSibling (head.get j) = false)
    (hother : event.tscHash ≠ (head.get j).tscHash) (hroom : FindsRoom head event)
    {head' : TscTable} (h : tdStep head event = some head') : head'.get j = head.get j := by
  obtain ⟨i, recorded, hrecord, hdecided⟩ := tdStep_cases h
  obtain ⟨hne, hkept⟩ := tdRecordEvent_other hpaired hother hroom hrecord
  rcases hdecided with ⟨-, rfl⟩ | ⟨-, rfl⟩
  · exact hkept
  · exact (TscTable.get_set_ne hne).trans hkept

end Other

end DeepShield.Td
