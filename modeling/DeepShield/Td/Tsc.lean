import Mathlib.Data.List.Basic
import Mathlib.Tactic.Common

/-!
# The time-stamp table of `tsc.c`

Each processor keeps `MAX_TSC_HITS` entries. An entry is a *sibling*: two
nearby addresses at which one thread reads the time-stamp counter, the lower one
in `Before` and the higher one in `After`, with how often each was hit. An entry
whose second address is not known yet is an *orphan*.

An event looks its entry up (`tdFindSibling`), updates it or creates one
(`tdUpdateSibling`, `tdCreateSibling`), and asks whether the entry has become a
candidate for a timing attack (`tdIsTimingCandidate`).

Differences of addresses, time stamps and counts go through `abs((int)x)`: the
cast keeps the low 32 bits and `abs(INT_MIN)` is `INT_MIN` (`absInt`). All other
arithmetic is that of the 64- and 32-bit fields.
-/

namespace DeepShield.Td

/-- `MAX_TSC_HITS`. -/
def maxTscHits : Nat := 100

/-- `SIBLING_DISTANCE_LIMIT`. -/
def siblingDistanceLimit : UInt64 := 0xFF

/-- `TSC_HIT`. -/
structure TscHit where
  address : UInt64
  timeStamp : UInt64
  count : UInt64
deriving Repr, DecidableEq

/-- `TSC_ENTRY`. -/
structure TscEntry where
  before : TscHit
  after : TscHit
  skips : UInt32
  difference : UInt64
  tscHash : UInt64
deriving Repr, DecidableEq

/-- `abs((int)x)`. -/
def absInt (x : UInt64) : Int32 := x.toUInt32.toInt32.abs

/-- `abs((int)x)`, assigned to a `UINT64`. -/
def absIntToUInt64 (x : UInt64) : UInt64 := (absInt x).toInt64.toUInt64

/-- `ARE_VAS_WITHIN_SIBLING_RANGE`. -/
def areVasWithinSiblingRange (source target : UInt64) : Bool :=
  absInt (source - target) < 0xFF

/-- `IS_ORPHAN_SIBLING`. -/
def isOrphanSibling (sibling : TscEntry) : Bool :=
  sibling.after.address == 0 || sibling.before.address == 0

/-- The entry `TdClearSibling` leaves. -/
def tdClearSibling : TscEntry :=
  { before := ⟨0, 0, 0⟩
    after := ⟨0, 0, 0⟩
    skips := 0
    difference := 0
    tscHash := 0 }

/-- `TdIsFreeSlot`. -/
def tdIsFreeSlot (entry : TscEntry) : Bool := entry.before.address == 0

/-- The table of one processor. -/
structure TscTable where
  entries : List TscEntry
  length_eq : entries.length = maxTscHits

namespace TscTable

/-- The table before the first event. -/
def zero : TscTable := ⟨List.replicate maxTscHits tdClearSibling, List.length_replicate⟩

/-- `Head[i] = entry`. -/
def set (head : TscTable) (i : Nat) (entry : TscEntry) : TscTable :=
  ⟨head.entries.set i entry, by rw [List.length_set, head.length_eq]⟩

/-- `Head[i]`. -/
def get (head : TscTable) (i : Nat) : TscEntry := head.entries.getD i tdClearSibling

end TscTable

/-! ## Finding an entry -/

/-- The older of an entry and the oldest one so far. -/
def olderHit (oldest : Option (Nat × TscEntry)) (i : Nat) (sibling : TscEntry) :
    Option (Nat × TscEntry) :=
  match oldest with
  | none => some (i, sibling)
  | some (j, old) =>
    if sibling.before.timeStamp < old.before.timeStamp then some (i, sibling) else some (j, old)

/-- The loop of `TdGetSiblingSlot` from index `i` on: the slot to use and
whether it is recycled. -/
def tdGetSiblingSlotLoop : List TscEntry → Nat → Option (Nat × TscEntry) →
    Option (Nat × TscEntry) → Nat × Bool
  | [], _, orphanOldest, siblingOldest =>
    match orphanOldest with
    | some (i, _) => (i, true)
    | none => ((siblingOldest.map Prod.fst).getD 0, true)
  | sibling :: rest, i, orphanOldest, siblingOldest =>
    if tdIsFreeSlot sibling then (i, false)
    else if !isOrphanSibling sibling then
      tdGetSiblingSlotLoop rest (i + 1) orphanOldest (olderHit siblingOldest i sibling)
    else tdGetSiblingSlotLoop rest (i + 1) (olderHit orphanOldest i sibling) siblingOldest

/-- `TdGetSiblingSlot`: the first free slot, or else the oldest orphan, or else
the oldest sibling, cleared. -/
def tdGetSiblingSlot (head : TscTable) : Nat × TscTable :=
  match tdGetSiblingSlotLoop head.entries 0 none none with
  | (i, true) => (i, head.set i tdClearSibling)
  | (i, false) => (i, head)

/-- The test of `TdFindSibling`. -/
def isSiblingOf (tscHash offensiveAddress : UInt64) (entry : TscEntry) : Bool :=
  (tscHash == entry.tscHash &&
    areVasWithinSiblingRange entry.before.address offensiveAddress) &&
  (entry.before.address == offensiveAddress || entry.after.address == offensiveAddress ||
    entry.after.address == 0)

/-- `TdFindSibling`: the index of the first entry that passes. -/
def tdFindSibling (head : TscTable) (tscHash offensiveAddress : UInt64) : Option Nat :=
  head.entries.findIdx? (isSiblingOf tscHash offensiveAddress)

/-! ## Updating an entry -/

/-- `TdHitIncrement`. -/
def tdHitIncrement (hit : TscHit) (timeStamp : UInt64) : TscHit :=
  { hit with count := hit.count + 1, timeStamp := timeStamp }

/-- Which of the two hits `Hit` points to. -/
inductive HitRef
  | before
  | after
deriving Repr, DecidableEq

/-- The hit of a sibling. -/
def TscEntry.hit (sibling : TscEntry) : HitRef → TscHit
  | .before => sibling.before
  | .after => sibling.after

/-- `TdHitIncrement( Hit, TimeStamp )`. -/
def TscEntry.increment (sibling : TscEntry) (timeStamp : UInt64) : HitRef → TscEntry
  | .before => { sibling with before := tdHitIncrement sibling.before timeStamp }
  | .after => { sibling with after := tdHitIncrement sibling.after timeStamp }

/-- The first half of `TdUpdateSibling`: the hit the address belongs to, once
an unknown address has been recorded. None if `Hit` stays NULL. -/
def tdAssignHit (sibling : TscEntry) (offensiveAddress : UInt64) : Option (HitRef × TscEntry) :=
  if sibling.before.address == offensiveAddress then some (.before, sibling)
  else if sibling.after.address == offensiveAddress then some (.after, sibling)
  else if sibling.after.address == 0 then
    if sibling.before.address > offensiveAddress then
      some (.before,
        { sibling with
          after := sibling.before
          before := ⟨offensiveAddress, 0, 0⟩ })
    else
      some (.after,
        { sibling with after := { sibling.after with address := offensiveAddress } })
  else none

/-- The second half: the running average of the time between the two hits. -/
def tdUpdateDifference (sibling : TscEntry) (timeStamp : UInt64) : TscEntry :=
  let difference := absIntToUInt64 (timeStamp - sibling.before.timeStamp)
  if sibling.difference == 0 then { sibling with difference := difference }
  else
    let currentDifference := absIntToUInt64 (difference - sibling.difference)
    let differenceThreshold := sibling.difference * 3 / 2
    if difference > sibling.difference ∧ currentDifference > differenceThreshold then
      -- if the average isn't below threshold let's skip it
      { sibling with skips := sibling.skips + 1 }
    else { sibling with difference := (sibling.difference + difference) / 2 }

/-- `TdUpdateSibling`; none is the NULL `Hit`. -/
def tdUpdateSibling (sibling : TscEntry) (offensiveAddress timeStamp : UInt64) :
    Option TscEntry :=
  match tdAssignHit sibling offensiveAddress with
  | none => none
  | some (hit, sibling) =>
    let sibling :=
      if (sibling.hit hit).address == sibling.after.address then
        tdUpdateDifference sibling timeStamp
      else sibling
    some (sibling.increment timeStamp hit)

/-- The entry `TdCreateSibling` leaves in the slot it got. -/
def tdInitSibling (slot : TscEntry) (offensiveAddress tscHash timeStamp : UInt64) : TscEntry :=
  { slot with
    tscHash := tscHash
    before := ⟨offensiveAddress, timeStamp, 1⟩ }

/-- `TdCreateSibling`: the index of the new entry and the table. -/
def tdCreateSibling (head : TscTable) (offensiveAddress tscHash timeStamp : UInt64) :
    Nat × TscTable :=
  let (i, head) := tdGetSiblingSlot head
  (i, head.set i (tdInitSibling (head.get i) offensiveAddress tscHash timeStamp))

/-! ## Candidates -/

/-- What `TdIsTimingCandidate` decides about an entry: `discontinued` if
`TdDiscontinueSiblingAssesment` cleared it. -/
inductive Assessment
  | notYet
  | discontinued
  | candidate
deriving Repr, DecidableEq

/-- `TdIsTimingCandidate`. -/
def tdIsTimingCandidate (sibling : TscEntry) : Assessment :=
  if sibling.difference == 0 then .notYet
  else if isOrphanSibling sibling then .notYet
  -- any average up to this should be discarded
  else if sibling.difference > 0x50000 then .discontinued
  else
    let isCountThresholdOk := sibling.before.count > 255
    let isSyncThresholdOk := absInt (sibling.before.count - sibling.after.count) < 2
    let isSkipsThresholdOk := sibling.skips.toUInt64 < max (sibling.before.count / 20) 1
    if isSyncThresholdOk ∧ isSkipsThresholdOk ∧ isCountThresholdOk then .candidate
    else if isCountThresholdOk then .discontinued
    else .notYet

/-! ## The table's part of an event -/

/-- The first half of `TdProcessTscEvent`: find the entry and update it, or
create one. None is the NULL `Hit` of `TdUpdateSibling`. -/
def tdRecordEvent (head : TscTable) (tscHash offensiveAddress timeStamp : UInt64) :
    Option (Nat × TscTable) :=
  match tdFindSibling head tscHash offensiveAddress with
  | some i =>
    (tdUpdateSibling (head.get i) offensiveAddress timeStamp).map fun sibling =>
      (i, head.set i sibling)
  | none => some (tdCreateSibling head offensiveAddress tscHash timeStamp)

end DeepShield.Td
