import DeepShield.Td.Hits

/-!
# Every timing loop is found out

A thread that keeps timing the same code reads the counter at one address, then
at a second one close above it, round after round (`RdtscLoop`). All but a few of
its delays lie in a narrow range; the few others are the rounds in which the
caches were flushed.

Its entry is made in the first slot, where every later lookup finds it first, and
from its second event on it has two addresses, so no other thread's entry takes
its slot. `Sampled` says what the entry holds after `k` events of the loop: the
counts are those of the events, the average never leaves the range, and exactly
the outliers were skipped. `rdtscLoop_found` is the result: the loop becomes a
candidate at its 511th event, the first of round 256, and not before.
-/

namespace DeepShield.Td

open DeepShield.Lib

/-! ## The loop -/

/-- A delay of more than two and a half times the upper bound. -/
def isOutlier (hi : Nat) (delay : UInt64) : Bool := 5 * hi < 2 * delay.toNat

/-- The outliers of the first `n` rounds. -/
def outlierCount (hi : Nat) (delay : Nat → UInt64) (n : Nat) : Nat :=
  (List.range n).countP fun i => isOutlier hi (delay i)

/-- A thread that times the code between two addresses for 256 rounds: in round
`i` it reads the counter at `start i` and `delay i` later. -/
structure RdtscLoop where
  tscHash : UInt64
  before : UInt64
  after : UInt64
  lo : Nat
  hi : Nat
  start : Nat → UInt64
  delay : Nat → UInt64
  tscHash_ne : tscHash ≠ 0
  before_ne : before ≠ 0
  before_lt : before < after
  near : after - before < siblingDistanceLimit
  lo_pos : 1 ≤ lo
  lo_le : lo ≤ hi
  hi_le : hi ≤ 0x50000
  ratio : 2 * hi ≤ 5 * lo
  delays : ∀ i < 256, (lo ≤ (delay i).toNat ∧ (delay i).toNat ≤ hi) ∨
    (i ≠ 0 ∧ isOutlier hi (delay i) = true ∧ (delay i).toNat < 2 ^ 31)
  outliers_le : outlierCount hi delay 256 ≤ 11

namespace RdtscLoop

/-- Where the thread's event number `k` happens. -/
def address (loop : RdtscLoop) (k : Nat) : UInt64 :=
  if k % 2 = 0 then loop.before else loop.after

/-- When it happens. -/
def timeStamp (loop : RdtscLoop) (k : Nat) : UInt64 :=
  if k % 2 = 0 then loop.start (k / 2) else loop.start (k / 2) + loop.delay (k / 2)

/-- The outliers of the first `n` rounds of the loop. -/
def outliers (loop : RdtscLoop) (n : Nat) : Nat := outlierCount loop.hi loop.delay n

/-! ## What is claimed of a run -/

/-- One event, with the number of events of the loop so far. -/
def watch (loop : RdtscLoop) (watched : TscTable × Nat) (event : TscEvent) :
    Option (TscTable × Nat) :=
  (tdStep watched.1 event).map fun head =>
    (head, if event.tscHash = loop.tscHash then watched.2 + 1 else watched.2)

/-- The thread of the loop goes on with it for its 256 rounds. Other threads
come in after its second event, and find an entry or room for one. -/
def Follows (loop : RdtscLoop) (watched : TscTable × Nat) (event : TscEvent) : Prop :=
  if event.tscHash = loop.tscHash then
    watched.2 < 512 → event.offensiveAddress = loop.address watched.2 ∧
      event.timeStamp = loop.timeStamp watched.2
  else 2 ≤ watched.2 ∧ FindsRoom watched.1 event

instance (loop : RdtscLoop) (watched : TscTable × Nat) (event : TscEvent) :
    Decidable (loop.Follows watched event) := by
  unfold Follows
  exact inferInstance

/-- The average is in the range of the loop, and `n` delays were skipped. -/
def Measured (loop : RdtscLoop) (n : Nat) (entry : TscEntry) : Prop :=
  loop.lo ≤ entry.difference.toNat ∧ entry.difference.toNat ≤ loop.hi ∧ entry.skips.toNat = n

/-- What is decided about the loop: a candidate at the first event of round 256,
and nothing before. -/
def Judged (loop : RdtscLoop) (watched : TscTable × Nat) (event : TscEvent) : Prop :=
  event.tscHash = loop.tscHash → watched.2 ≤ 510 →
    ∃ i recorded, tdRecordEvent watched.1 event.tscHash event.offensiveAddress event.timeStamp
        = some (i, recorded) ∧
      tdIsTimingCandidate (recorded.get i)
        = (if watched.2 = 510 then .candidate else .notYet) ∧
      (1 ≤ watched.2 → loop.Measured (loop.outliers ((watched.2 + 1) / 2)) (recorded.get i))

variable {loop : RdtscLoop}

theorem after_ne (loop : RdtscLoop) : loop.after ≠ 0 := by
  have hlt := UInt64.lt_iff_toNat_lt.mp loop.before_lt
  intro hzero
  rw [hzero] at hlt
  exact absurd hlt (Nat.not_lt_zero _)

theorem outliers_succ (loop : RdtscLoop) (n : Nat) :
    loop.outliers (n + 1)
      = loop.outliers n + (if isOutlier loop.hi (loop.delay n) = true then 1 else 0) := by
  unfold outliers outlierCount
  rw [List.range_succ, List.countP_append, List.countP_singleton]

theorem outliers_le_of_le (loop : RdtscLoop) {n : Nat} (h : n ≤ 256) : loop.outliers n ≤ 11 := by
  have hsub : (List.range n).Sublist (List.range 256) := List.range_sublist.mpr h
  exact Nat.le_trans hsub.countP_le loop.outliers_le

/-- A regular delay is no outlier. -/
theorem isOutlier_eq_false {n : Nat} (h : (loop.delay n).toNat ≤ loop.hi) :
    isOutlier loop.hi (loop.delay n) = false := by
  have hlo := loop.lo_pos
  have hle := loop.lo_le
  exact decide_eq_false (by omega)

/-- **A round moves the average within the range, or is skipped as an outlier.** -/
theorem measured_tdUpdateDifference {n : Nat} {entry : TscEntry} {timeStamp : UInt64}
    (hn : n < 256) (hdelay : timeStamp - entry.before.timeStamp = loop.delay n)
    (h : loop.Measured (loop.outliers n) entry) :
    loop.Measured (loop.outliers (n + 1)) (tdUpdateDifference entry timeStamp) := by
  obtain ⟨hlo, hhi, hskips⟩ := h
  have hpos := loop.lo_pos
  have hratio := loop.ratio
  have hmax := loop.hi_le
  rw [outliers_succ]
  rcases loop.delays n hn with ⟨hdlo, hdhi⟩ | ⟨-, hout, hlt⟩
  · rw [tdUpdateDifference_average hdelay (by omega) (by omega) (by omega),
      isOutlier_eq_false hdhi]
    have hsum : ((entry.difference + loop.delay n) / 2).toNat
        = (entry.difference.toNat + (loop.delay n).toNat) / 2 := by
      rw [UInt64.toNat_div, UInt64.toNat_add]
      show _ % 2 ^ 64 / 2 = _
      rw [Nat.mod_eq_of_lt (by omega)]
    refine ⟨?_, ?_, hskips⟩
    · show _ ≤ ((entry.difference + loop.delay n) / 2).toNat
      omega
    · show ((entry.difference + loop.delay n) / 2).toNat ≤ _
      omega
  · have hfar : 5 * loop.hi < 2 * (loop.delay n).toNat := of_decide_eq_true hout
    rw [tdUpdateDifference_skip hdelay hlt (by omega) (by omega), hout]
    refine ⟨hlo, hhi, ?_⟩
    have hle := loop.outliers_le_of_le (Nat.le_of_lt hn)
    show (entry.skips + 1).toNat = _
    rw [UInt32.toNat_add, hskips, if_pos rfl]
    show (_ + 1) % 2 ^ 32 = _
    omega

/-- The first round starts it. -/
theorem measured_first {entry : TscEntry} {timeStamp : UInt64}
    (hdelay : timeStamp - entry.before.timeStamp = loop.delay 0)
    (hzero : entry.difference = 0) (hskips : entry.skips = 0) :
    loop.Measured (loop.outliers 1) (tdUpdateDifference entry timeStamp) := by
  have hmax := loop.hi_le
  rcases loop.delays 0 (by omega) with ⟨hlo, hhi⟩ | ⟨hne, _⟩
  · rw [tdUpdateDifference_first hdelay (by omega) hzero, outliers_succ, isOutlier_eq_false hhi]
    exact ⟨hlo, hhi, congrArg UInt32.toNat hskips⟩
  · exact absurd rfl hne

/-! ## The entry of the loop -/

/-- The entry after the first `k` events of the loop. -/
structure Sampled (loop : RdtscLoop) (k : Nat) (entry : TscEntry) : Prop where
  tscHash : entry.tscHash = loop.tscHash
  before : entry.before.address = loop.before
  after : entry.after.address = loop.after
  beforeCount : entry.before.count.toNat = (k + 1) / 2
  afterCount : entry.after.count.toNat = k / 2
  timeStamp : entry.before.timeStamp = loop.start ((k - 1) / 2)
  measured : loop.Measured (loop.outliers (k / 2)) entry

/-- The entry after the first event. -/
def firstEntry (loop : RdtscLoop) : TscEntry :=
  tdInitSibling tdClearSibling loop.before loop.tscHash (loop.start 0)

/-- What holds of the table and the number of events of the loop so far. -/
def Inv (loop : RdtscLoop) (watched : TscTable × Nat) : Prop :=
  (watched.2 = 0 → watched.1 = .zero) ∧
  (watched.2 = 1 → watched.1.get 0 = loop.firstEntry) ∧
  (2 ≤ watched.2 → watched.2 ≤ 510 → loop.Sampled watched.2 (watched.1.get 0))

section Entry

variable {k : Nat} {entry : TscEntry}

/-- Both addresses of the loop are looked up in its entry. -/
theorem Sampled.passes (h : loop.Sampled k entry) (j : Nat) :
    isSiblingOf loop.tscHash (loop.address j) entry = true := by
  unfold isSiblingOf address
  rw [h.tscHash, h.before, h.after, beq_self_eq_true, Bool.true_and, Bool.and_eq_true]
  split
  next =>
    exact ⟨areVasWithinSiblingRange_of_le (UInt64.le_refl _)
      (by rw [UInt64.sub_self]; decide), by simp⟩
  next =>
    exact ⟨areVasWithinSiblingRange_of_le (UInt64.le_of_lt loop.before_lt) loop.near, by simp⟩

/-- It is not the entry to be recycled first. -/
theorem Sampled.paired (h : loop.Sampled k entry) : isOrphanSibling entry = false := by
  unfold isOrphanSibling
  rw [h.before, h.after, Bool.or_eq_false_iff]
  exact ⟨beq_eq_false_iff_ne.mpr loop.after_ne, beq_eq_false_iff_ne.mpr loop.before_ne⟩

/-- **The loop is a candidate at event 511, and not before.** -/
theorem Sampled.judged (h : loop.Sampled (k + 1) entry) (hle : k ≤ 510) :
    tdIsTimingCandidate entry = if k = 510 then .candidate else .notYet := by
  obtain ⟨hlo, hhi, hskips⟩ := h.measured
  have hpos := loop.lo_pos
  have hmax := loop.hi_le
  have hne : ¬ (entry.difference == 0) = true := by
    intro hzero
    rw [beq_iff_eq.mp hzero] at hlo
    exact absurd (Nat.le_trans hpos hlo) (by decide)
  have hsmall : ¬ entry.difference > 0x50000 := by
    intro hgt
    have hgt' := UInt64.lt_iff_toNat_lt.mp hgt
    have hbound : (0x50000 : UInt64).toNat = 0x50000 := rfl
    omega
  have hcount : entry.before.count > 255 ↔ k = 510 := by
    have hbound : (255 : UInt64).toNat = 255 := rfl
    have hbefore := h.beforeCount
    constructor
    · intro hgt
      have hgt' := UInt64.lt_iff_toNat_lt.mp hgt
      omega
    · intro heq
      exact UInt64.lt_iff_toNat_lt.mpr (by omega)
  unfold tdIsTimingCandidate
  rw [if_neg hne, h.paired, if_neg (by decide), if_neg hsmall]
  simp only [hcount]
  by_cases hlast : k = 510
  · have hbefore : entry.before.count = 256 := UInt64.toNat_inj.mp (by
      rw [h.beforeCount, hlast]
      rfl)
    have hafter : entry.after.count = 255 := UInt64.toNat_inj.mp (by
      rw [h.afterCount, hlast]
      rfl)
    have hfew : entry.skips.toUInt64 < max (256 / 20) 1 := by
      have hle := loop.outliers_le_of_le (show (k + 1) / 2 ≤ 256 by omega)
      refine UInt64.lt_iff_toNat_lt.mpr ?_
      rw [UInt32.toNat_toUInt64, hskips]
      exact Nat.lt_of_le_of_lt hle (by decide)
    rw [hbefore, hafter, if_pos ⟨by decide, hfew, hlast⟩, if_pos hlast]
  · rw [if_neg (fun hall => hlast hall.2.2), if_neg hlast, if_neg hlast]

/-- An event at the first address. -/
theorem Sampled.record_before (h : loop.Sampled k entry) (heven : k % 2 = 0) (hle : k ≤ 510) :
    ∃ updated, tdUpdateSibling entry (loop.address k) (loop.timeStamp k) = some updated ∧
      loop.Sampled (k + 1) updated := by
  unfold RdtscLoop.address RdtscLoop.timeStamp
  rw [if_pos heven, if_pos heven]
  have hne : entry.after.address ≠ loop.before := by
    rw [h.after]
    exact (UInt64.ne_of_lt loop.before_lt).symm
  refine ⟨_, tdUpdateSibling_before h.before hne, h.tscHash, h.before, h.after, ?_, ?_, ?_, ?_⟩
  · have hcount := h.beforeCount
    show (entry.before.count + 1).toNat = _
    rw [UInt64.toNat_add]
    show (_ + 1) % 2 ^ 64 = _
    omega
  · exact h.afterCount.trans (by omega)
  · show loop.start (k / 2) = _
    congr 1
  · rw [show (k + 1) / 2 = k / 2 by omega]
    exact h.measured

/-- An event at the second address, which ends a round. -/
theorem Sampled.record_after (h : loop.Sampled k entry) (hodd : k % 2 = 1) (hle : k ≤ 510) :
    ∃ updated, tdUpdateSibling entry (loop.address k) (loop.timeStamp k) = some updated ∧
      loop.Sampled (k + 1) updated := by
  have hne : ¬ k % 2 = 0 := by omega
  unfold RdtscLoop.address RdtscLoop.timeStamp
  rw [if_neg hne, if_neg hne]
  have hbefore : entry.before.address ≠ loop.after := by
    rw [h.before]
    exact UInt64.ne_of_lt loop.before_lt
  obtain ⟨hb, ha, hh⟩ := tdUpdateDifference_frame entry (loop.start (k / 2) + loop.delay (k / 2))
  have hdelay : loop.start (k / 2) + loop.delay (k / 2) - entry.before.timeStamp
      = loop.delay (k / 2) := by
    rw [h.timeStamp, show (k - 1) / 2 = k / 2 by omega, UInt64.add_comm, UInt64.add_sub_cancel]
  have hmeasured := measured_tdUpdateDifference (show k / 2 < 256 by omega) hdelay h.measured
  refine ⟨_, tdUpdateSibling_after hbefore h.after, hh.trans h.tscHash,
    (congrArg TscHit.address hb).trans h.before, h.after, ?_, ?_, ?_, ?_⟩
  · show (tdUpdateDifference entry _).before.count.toNat = _
    rw [hb, h.beforeCount]
    omega
  · have hcount := h.afterCount
    show (entry.after.count + 1).toNat = _
    rw [UInt64.toNat_add]
    show (_ + 1) % 2 ^ 64 = _
    omega
  · show (tdUpdateDifference entry _).before.timeStamp = _
    rw [hb, h.timeStamp]
    congr 1
    omega
  · rw [show (k + 1) / 2 = k / 2 + 1 by omega]
    exact hmeasured

/-- The second event of all, which sets the second address. -/
theorem record_second :
    ∃ updated, tdUpdateSibling loop.firstEntry (loop.address 1) (loop.timeStamp 1) = some updated ∧
      loop.Sampled 2 updated := by
  show ∃ updated, tdUpdateSibling loop.firstEntry loop.after (loop.start 0 + loop.delay 0)
    = some updated ∧ _
  obtain ⟨hb, _, hh⟩ := tdUpdateDifference_frame loop.firstEntry (loop.start 0 + loop.delay 0)
  have hdelay : loop.start 0 + loop.delay 0 - loop.firstEntry.before.timeStamp
      = loop.delay 0 := by
    show loop.start 0 + loop.delay 0 - loop.start 0 = _
    rw [UInt64.add_comm, UInt64.add_sub_cancel]
  have hupdate := @tdUpdateSibling_pair loop.firstEntry loop.after (loop.start 0 + loop.delay 0)
    rfl loop.after_ne loop.before_lt
  refine ⟨_, hupdate, hh, congrArg TscHit.address hb, rfl, ?_, rfl, ?_,
    @measured_first loop loop.firstEntry _ hdelay rfl rfl⟩
  · exact congrArg (fun hit => hit.count.toNat) hb
  · exact congrArg TscHit.timeStamp hb

end Entry

/-! ## The run -/

section Run

variable {watched : TscTable × Nat} {event : TscEvent}

/-- What the first slot holds is found first. -/
theorem tdFindSibling_first {head : TscTable} {tscHash address : UInt64}
    (h : isSiblingOf tscHash address (head.get 0) = true) :
    tdFindSibling head tscHash address = some 0 := by
  have hlen : 0 < head.entries.length := by
    rw [head.length_eq]
    decide
  rw [TscTable.get_eq hlen] at h
  refine List.findIdx?_eq_some_iff_getElem.mpr ⟨hlen, h, fun j hj => ?_⟩
  exact absurd hj (Nat.not_lt_zero j)

/-- No thread finds an entry in the empty table. -/
theorem tdFindSibling_zero {tscHash : UInt64} (hne : tscHash ≠ 0) (address : UInt64) :
    tdFindSibling .zero tscHash address = none := by
  refine List.findIdx?_eq_none_iff.mpr fun entry hmem => ?_
  obtain rfl := List.eq_of_mem_replicate hmem
  unfold isSiblingOf
  rw [show (tscHash == tdClearSibling.tscHash) = false from beq_eq_false_iff_ne.mpr hne]
  rfl

/-- **An event of the loop is recorded in the first slot.** -/
theorem Inv.record (h : loop.Inv watched) (hle : watched.2 ≤ 510) :
    ∃ recorded, tdRecordEvent watched.1 loop.tscHash (loop.address watched.2)
        (loop.timeStamp watched.2) = some (0, recorded) ∧
      (watched.2 = 0 → recorded.get 0 = loop.firstEntry) ∧
      (1 ≤ watched.2 → loop.Sampled (watched.2 + 1) (recorded.get 0)) := by
  obtain ⟨head, k⟩ := watched
  obtain ⟨hempty, hfirst, hsampled⟩ := h
  simp only at hempty hfirst hsampled hle ⊢
  -- the entry found is updated in its place
  have hfound : isSiblingOf loop.tscHash (loop.address k) (head.get 0) = true →
      (∃ updated, tdUpdateSibling (head.get 0) (loop.address k) (loop.timeStamp k) = some updated ∧
        loop.Sampled (k + 1) updated) →
      ∃ recorded, tdRecordEvent head loop.tscHash (loop.address k) (loop.timeStamp k)
          = some (0, recorded) ∧ loop.Sampled (k + 1) (recorded.get 0) := by
    intro hpasses ⟨updated, hupdate, hupdated⟩
    refine ⟨head.set 0 updated, ?_, ?_⟩
    · unfold tdRecordEvent
      rw [tdFindSibling_first hpasses]
      simp only [hupdate, Option.map_some]
    · rw [TscTable.get_set (by decide)]
      exact hupdated
  match k, hle with
  | 0, _ =>
    refine ⟨TscTable.zero.set 0 loop.firstEntry, ?_, fun _ => ?_,
      fun hpos => absurd hpos (by omega)⟩
    · unfold tdRecordEvent
      rw [hempty rfl, tdFindSibling_zero loop.tscHash_ne]
      rfl
    · rw [TscTable.get_set (by decide)]
  | 1, _ =>
    rw [hfirst rfl] at hfound
    have hpasses : isSiblingOf loop.tscHash loop.after loop.firstEntry = true := by
      show ((loop.tscHash == loop.tscHash && areVasWithinSiblingRange loop.before loop.after) &&
        (loop.before == loop.after || (0 : UInt64) == loop.after || (0 : UInt64) == 0)) = true
      rw [areVasWithinSiblingRange_of_le (UInt64.le_of_lt loop.before_lt) loop.near,
        beq_self_eq_true, beq_self_eq_true, Bool.or_true]
      rfl
    obtain ⟨recorded, hrecord, hrecorded⟩ := hfound hpasses record_second
    exact ⟨recorded, hrecord, fun heq => absurd heq (by omega), fun _ => hrecorded⟩
  | k + 2, hle =>
    have hentry := hsampled (by omega) hle
    have hupdated : ∃ updated, tdUpdateSibling (head.get 0) (loop.address (k + 2))
        (loop.timeStamp (k + 2)) = some updated ∧ loop.Sampled (k + 3) updated := by
      rcases Nat.mod_two_eq_zero_or_one (k + 2) with heven | hodd
      · exact hentry.record_before heven hle
      · exact hentry.record_after hodd hle
    obtain ⟨recorded, hrecord, hrecorded⟩ := hfound (hentry.passes _) hupdated
    exact ⟨recorded, hrecord, fun heq => absurd heq (by omega), fun _ => hrecorded⟩

/-- **Judging.** -/
theorem Inv.judged (h : loop.Inv watched) (hfollows : loop.Follows watched event) :
    loop.Judged watched event := by
  intro hhash hle
  unfold Follows at hfollows
  rw [if_pos hhash] at hfollows
  obtain ⟨haddress, htime⟩ := hfollows (by omega)
  obtain ⟨recorded, hrecord, hfirst, hsampled⟩ := h.record hle
  rw [hhash, haddress, htime]
  refine ⟨0, recorded, hrecord, ?_, fun hpos => (hsampled hpos).measured⟩
  by_cases hzero : watched.2 = 0
  · rw [hfirst hzero, hzero]
    rfl
  · exact (hsampled (by omega)).judged hle

/-- **A step of the run keeps what is known of it.** -/
theorem Inv.step (h : loop.Inv watched) (hfollows : loop.Follows watched event)
    {watched' : TscTable × Nat} (hstep : loop.watch watched event = some watched') :
    loop.Inv watched' := by
  obtain ⟨head', hhead, rfl⟩ := Option.map_eq_some_iff.mp hstep
  by_cases hhash : event.tscHash = loop.tscHash
  · rw [if_pos hhash]
    by_cases hle : watched.2 + 1 ≤ 510
    · have hjudged := h.judged hfollows hhash (by omega)
      unfold Follows at hfollows
      rw [if_pos hhash] at hfollows
      obtain ⟨haddress, htime⟩ := hfollows (by omega)
      obtain ⟨recorded, hrecord, hfirst, hsampled⟩ := h.record (show watched.2 ≤ 510 by omega)
      rw [← haddress, ← htime, ← hhash] at hrecord
      obtain ⟨i, recorded', hrecord', hnotYet, _⟩ := hjudged
      obtain ⟨rfl, rfl⟩ := Prod.mk.inj (Option.some.inj (hrecord.symm.trans hrecord'))
      rw [if_neg (by omega)] at hnotYet
      -- nothing is decided, so the table is the one recorded
      have hkept : head' = recorded := by
        obtain ⟨k, recorded', hrecord', hdecided⟩ := tdStep_cases hhead
        obtain ⟨rfl, rfl⟩ := Prod.mk.inj (Option.some.inj (hrecord.symm.trans hrecord'))
        rcases hdecided with ⟨-, hsame⟩ | ⟨hdone, -⟩
        · exact hsame
        · exact absurd hnotYet hdone
      rw [hkept]
      exact ⟨fun heq => absurd heq (Nat.succ_ne_zero _), fun heq => hfirst (by simpa using heq),
        fun hge _ => hsampled (by simpa using hge)⟩
    · refine ⟨fun heq => ?_, fun heq => ?_, fun _ hlt => absurd hlt hle⟩
      · exact absurd heq (Nat.succ_ne_zero _)
      · exact absurd (show watched.2 + 1 = 1 from heq) (by omega)
  · rw [if_neg hhash]
    unfold Follows at hfollows
    rw [if_neg hhash] at hfollows
    obtain ⟨hge, hroom⟩ := hfollows
    refine ⟨fun heq => ?_, fun heq => ?_, fun _ hle => ?_⟩
    · exact absurd (show watched.2 = 0 from heq) (by omega)
    · exact absurd (show watched.2 = 1 from heq) (by omega)
    · have hentry := h.2.2 hge hle
      have hother : event.tscHash ≠ (watched.1.get 0).tscHash := by
        rw [hentry.tscHash]
        exact hhash
      show loop.Sampled watched.2 (head'.get 0)
      rw [tdStep_other hentry.paired hother hroom hhead]
      exact hentry

end Run

end RdtscLoop

end DeepShield.Td
