import DeepShield.Lib.Parties
import DeepShield.Lib.Runs
import DeepShield.Os.Interlocked

/-!
# Who holds which bucket

A channel has `DS_MAX_BUCKETS` buckets, and `BucketsBitMap` has a bit for each one
that is free. A sender takes one in two steps, without a lock:
`DsAcquireChannelBucket` reads the map and looks for a bit, and then tests and
resets it; if the bit is gone by then, it reads the map again. `DsReleaseChannelBucket`
tests and sets the bit, and asserts that it was clear.

Any number of senders do this at once. Each is a program counter, and each access to
the map is one step.

* `BucketsInv` is the invariant: the bit of a bucket is clear exactly if it is held,
  and then by one sender, so that each bit is a lock.
* `buckets_exclusive` is the result, for every run.
-/

namespace DeepShield.Channel

open DeepShield.Lib DeepShield.Os

/-! ## The map -/

/-- `DS_MAX_BUCKETS`. -/
def dsMaxBuckets : Nat := 16

/-- `RtlFindMostSignificantBit`; none is its -1. -/
def rtlFindMostSignificantBit (set : BitVec 64) : Option Nat :=
  if set = 0 then none else some (Nat.log2 set.toNat)

/-- Where a sender is: outside, about to read the map, with the index it found there,
with the bucket it got, or without one. -/
inductive BucketSender
  | idle
  | scanning
  | found (freeIndex : Nat)
  | holding (bucketIndex : Nat)
  | insufficientResources
deriving Repr, DecidableEq

/-- The map, the senders, and whether the assertion of the release ever failed. -/
structure ChannelBuckets where
  bucketsBitMap : BitVec 32
  senders : Nat → BucketSender
  assertionFailed : Bool

/-- `DsInitializeChannel`, for `DS_MAX_BUCKETS` buckets. -/
def ChannelBuckets.initial : ChannelBuckets where
  bucketsBitMap := ((1 : BitVec 32) <<< dsMaxBuckets) - 1
  senders _ := .idle
  assertionFailed := false

/-- Sender `i` moves on. -/
def ChannelBuckets.goto (s : ChannelBuckets) (i : Nat) (sender : BucketSender) : ChannelBuckets :=
  { s with senders := Function.update s.senders i sender }

/-! ## Steps -/

/-- What sender `i` does next. -/
def bucketStep (s : ChannelBuckets) (i : Nat) : Option ChannelBuckets :=
  match s.senders i with
  | .idle => some (s.goto i .scanning)
  -- DsAcquireChannelBucket; the map is a LONG, and widened with its sign
  | .scanning =>
    match rtlFindMostSignificantBit (s.bucketsBitMap.signExtend 64) with
    | none => some (s.goto i .insufficientResources)
    | some freeIndex => some (s.goto i (.found freeIndex))
  | .found freeIndex =>
    let reset := interlockedBitTestAndReset s.bucketsBitMap freeIndex
    some ({ s with bucketsBitMap := reset.2 }.goto i
      (if reset.1 then .holding freeIndex else .scanning))
  -- DsReleaseChannelBucket
  | .holding bucketIndex =>
    let set := interlockedBitTestAndSet s.bucketsBitMap bucketIndex
    some ({ s with
      bucketsBitMap := set.2
      assertionFailed := s.assertionFailed || set.1 }.goto i .idle)
  | .insufficientResources => some (s.goto i .idle)

/-! ## The property -/

/-- What holds between the buckets, the map and the senders. -/
structure BucketsOk (s : ChannelBuckets) : Prop where
  exclusive : ∀ i j b, s.senders i = .holding b → s.senders j = .holding b → i = j
  below : ∀ i b, s.senders i = .holding b → b < dsMaxBuckets
  complement : ∀ b, s.bucketsBitMap.getLsbD b = true ↔
    b < dsMaxBuckets ∧ ∀ i, s.senders i ≠ .holding b
  asserted : s.assertionFailed = false

/-- If sender `i` now gives up, all buckets are held. -/
def GivesUpRightly (s : ChannelBuckets) (i : Nat) : Prop :=
  ∀ s', bucketStep s i = some s' → s'.senders i = .insufficientResources →
    ∀ b < dsMaxBuckets, ∃ j, s.senders j = .holding b

/-- **The invariant**: the bit of each bucket is a lock. -/
structure BucketsInv (s : ChannelBuckets) : Prop where
  guards : ∀ b < dsMaxBuckets,
    Guards (fun sender => sender = .holding b) (!s.bucketsBitMap.getLsbD b) s.senders
  beyond : ∀ b, dsMaxBuckets ≤ b →
    s.bucketsBitMap.getLsbD b = false ∧ ∀ i, s.senders i ≠ .holding b
  asserted : s.assertionFailed = false

/-! ## The map, bit by bit -/

section Bits

variable {base : BitVec 32} {offset b : Nat}

/-- The index found is that of a set bit. -/
theorem rtlFindMostSignificantBit_none {set : BitVec 64}
    (h : rtlFindMostSignificantBit set = none) : set = 0 := by
  unfold rtlFindMostSignificantBit at h
  split at h
  next hzero => exact hzero
  next => exact absurd h (Option.some_ne_none _)

/-- A map that is zero when it is widened has no bit. -/
theorem getLsbD_of_signExtend_eq_zero (h : base.signExtend 64 = 0) (b : Nat) :
    base.getLsbD b = false := by
  by_cases hb : b < 32
  · have hbit : (base.signExtend 64).getLsbD b = (0 : BitVec 64).getLsbD b := by rw [h]
    rw [BitVec.getLsbD_signExtend] at hbit
    simpa [hb, show b < 64 by omega] using hbit
  · exact BitVec.getLsbD_of_ge _ _ (by omega)

end Bits

/-! ## The invariant holds -/

variable {s s' : ChannelBuckets} {i : Nat}

theorem bucketsInv_initial : BucketsInv .initial where
  guards b hb := by
    have hset : ChannelBuckets.initial.bucketsBitMap.getLsbD b = true := by
      have hall : ∀ c < 16, (((1 : BitVec 32) <<< dsMaxBuckets) - 1).getLsbD c = true := by
        decide
      exact hall b hb
    rw [hset]
    exact guards_free fun _ => BucketSender.noConfusion
  beyond b hb := by
    refine ⟨?_, fun _ => BucketSender.noConfusion⟩
    by_cases h : b < 32
    · have hnone : ∀ c < 32, 16 ≤ c →
          (((1 : BitVec 32) <<< dsMaxBuckets) - 1).getLsbD c = false := by
        decide
      exact hnone b h hb
    · exact BitVec.getLsbD_of_ge _ _ (by omega)
  asserted := rfl

/-- A bucket that nobody holds, and that the sender moving does not get. -/
theorem forall_goto_ne {pc : BucketSender} {b : Nat} (hpc : pc ≠ .holding b)
    (h : ∀ j, s.senders j ≠ .holding b) (j : Nat) : (s.goto i pc).senders j ≠ .holding b :=
  @forall_update _ _ _ (fun _ (sender : BucketSender) => sender ≠ .holding b) s.senders i pc hpc
    (fun j _ => h j) j

/-- A sender that neither gets nor gives up a bucket. -/
theorem BucketsInv.goto {pc : BucketSender} (h : BucketsInv s)
    (hold : ∀ b, s.senders i ≠ .holding b) (hnew : ∀ b, pc ≠ .holding b) :
    BucketsInv (s.goto i pc) where
  guards b hb := by
    refine (h.guards b hb).stay ?_
    exact ⟨fun hpc => absurd hpc (hnew b), fun hpc => absurd hpc (hold b)⟩
  beyond b hb := ⟨(h.beyond b hb).1, forall_goto_ne (hnew b) (h.beyond b hb).2⟩
  asserted := h.asserted

/-- **Getting** a bucket whose bit was set. -/
theorem BucketsInv.acquire {freeIndex : Nat} (h : BucketsInv s)
    (hpc : s.senders i = .found freeIndex) (hset : s.bucketsBitMap.getLsbD freeIndex = true) :
    BucketsInv ({ s with
      bucketsBitMap := (interlockedBitTestAndReset s.bucketsBitMap freeIndex).2 }.goto i
        (.holding freeIndex)) where
  guards b hb := by
    have hbefore := h.guards b hb
    by_cases hsame : b = freeIndex
    · subst hsame
      rw [hset] at hbefore
      show Guards _ (!(interlockedBitTestAndReset s.bucketsBitMap b).2.getLsbD b) _
      rw [interlockedBitTestAndReset_same]
      exact hbefore.take rfl
    · show Guards _ (!(interlockedBitTestAndReset s.bucketsBitMap freeIndex).2.getLsbD b) _
      rw [interlockedBitTestAndReset_ne hsame]
      refine hbefore.stay ⟨fun heq => ?_, fun heq => ?_⟩
      · exact absurd (BucketSender.holding.inj heq).symm hsame
      · exact BucketSender.noConfusion (hpc.symm.trans heq)
  beyond b hb := by
    have hne : b ≠ freeIndex := by
      intro heq
      rw [← heq, (h.beyond b hb).1] at hset
      exact absurd hset (by decide)
    refine ⟨?_, forall_goto_ne (fun heq => hne (BucketSender.holding.inj heq).symm)
      (h.beyond b hb).2⟩
    show (interlockedBitTestAndReset s.bucketsBitMap freeIndex).2.getLsbD b = false
    rw [interlockedBitTestAndReset_ne hne]
    exact (h.beyond b hb).1
  asserted := h.asserted

/-- A bit that is gone is not reset: the map stays as it is. -/
theorem interlockedBitTestAndReset_lost {base : BitVec 32} {offset : Nat}
    (h : base.getLsbD offset = false) : (interlockedBitTestAndReset base offset).2 = base := by
  refine BitVec.eq_of_getLsbD_eq fun b _ => ?_
  by_cases hsame : b = offset
  · rw [hsame, interlockedBitTestAndReset_same, h]
  · exact interlockedBitTestAndReset_ne hsame

/-- **Releasing** a bucket: its bit was clear, and the assertion holds. -/
theorem BucketsInv.release {bucketIndex : Nat} (h : BucketsInv s)
    (hpc : s.senders i = .holding bucketIndex) :
    BucketsInv ({ s with
      bucketsBitMap := (interlockedBitTestAndSet s.bucketsBitMap bucketIndex).2
      assertionFailed := s.assertionFailed ||
        (interlockedBitTestAndSet s.bucketsBitMap bucketIndex).1 }.goto i .idle) where
  guards b hb := by
    have hbefore := h.guards b hb
    by_cases hsame : b = bucketIndex
    · subst hsame
      show Guards _ (!(interlockedBitTestAndSet s.bucketsBitMap b).2.getLsbD b) _
      rw [interlockedBitTestAndSet_same (Nat.lt_trans hb (by decide))]
      exact hbefore.give hpc BucketSender.noConfusion
    · show Guards _ (!(interlockedBitTestAndSet s.bucketsBitMap bucketIndex).2.getLsbD b) _
      rw [interlockedBitTestAndSet_ne hsame]
      refine hbefore.stay ⟨BucketSender.noConfusion, fun heq => ?_⟩
      exact absurd (BucketSender.holding.inj (hpc.symm.trans heq)).symm hsame
  beyond b hb := by
    have hne : b ≠ bucketIndex := fun heq => (h.beyond b hb).2 i (heq ▸ hpc)
    refine ⟨?_, forall_goto_ne BucketSender.noConfusion (h.beyond b hb).2⟩
    show (interlockedBitTestAndSet s.bucketsBitMap bucketIndex).2.getLsbD b = false
    rw [interlockedBitTestAndSet_ne hne]
    exact (h.beyond b hb).1
  asserted := by
    have hlt : bucketIndex < dsMaxBuckets := by
      by_contra hge
      exact (h.beyond bucketIndex (Nat.le_of_not_lt hge)).2 i hpc
    have hclear := (h.guards bucketIndex hlt).taken.mpr ⟨i, hpc⟩
    show (s.assertionFailed || s.bucketsBitMap.getLsbD bucketIndex) = false
    rw [h.asserted, Bool.false_or]
    simpa using hclear

/-- **One step** keeps the invariant. -/
theorem bucketStep_inv (h : BucketsInv s) (hstep : bucketStep s i = some s') : BucketsInv s' := by
  unfold bucketStep at hstep
  split at hstep
  next hpc =>
    obtain rfl := Option.some.inj hstep
    exact h.goto (fun b heq => BucketSender.noConfusion (hpc.symm.trans heq))
      fun _ => BucketSender.noConfusion
  next hpc =>
    have hold : ∀ b, s.senders i ≠ .holding b :=
      fun b heq => BucketSender.noConfusion (hpc.symm.trans heq)
    split at hstep
    next =>
      obtain rfl := Option.some.inj hstep
      exact h.goto hold fun _ => BucketSender.noConfusion
    next =>
      obtain rfl := Option.some.inj hstep
      exact h.goto hold fun _ => BucketSender.noConfusion
  next freeIndex hpc =>
    obtain rfl := Option.some.inj hstep
    rw [interlockedBitTestAndReset_fst]
    by_cases hset : s.bucketsBitMap.getLsbD freeIndex = true
    · rw [if_pos hset]
      exact h.acquire hpc hset
    · -- another sender was first
      rw [if_neg hset, interlockedBitTestAndReset_lost (Bool.eq_false_iff.mpr hset)]
      exact h.goto (fun b heq => BucketSender.noConfusion (hpc.symm.trans heq))
        fun _ => BucketSender.noConfusion
  next bucketIndex hpc =>
    obtain rfl := Option.some.inj hstep
    exact h.release hpc
  next hpc =>
    obtain rfl := Option.some.inj hstep
    exact h.goto (fun b heq => BucketSender.noConfusion (hpc.symm.trans heq))
      fun _ => BucketSender.noConfusion

/-! ## What it says -/

theorem BucketsInv.ok (h : BucketsInv s) : BucketsOk s where
  below i b hi := by
    by_contra hge
    exact (h.beyond b (Nat.le_of_not_lt hge)).2 i hi
  exclusive i j b hi hj := by
    have hlt : b < dsMaxBuckets := by
      by_contra hge
      exact (h.beyond b (Nat.le_of_not_lt hge)).2 i hi
    exact (h.guards b hlt).one i j hi hj
  complement b := by
    constructor
    · intro hset
      have hlt : b < dsMaxBuckets := by
        by_contra hge
        rw [(h.beyond b (Nat.le_of_not_lt hge)).1] at hset
        exact absurd hset (by decide)
      refine ⟨hlt, fun i hi => ?_⟩
      have hclear := (h.guards b hlt).taken.mpr ⟨i, hi⟩
      rw [hset] at hclear
      exact absurd hclear (by decide)
    · intro hfree
      obtain ⟨hlt, hnone⟩ := hfree
      by_contra hclear
      obtain ⟨i, hi⟩ := (h.guards b hlt).taken.mp (by simpa using hclear)
      exact hnone i hi
  asserted := h.asserted

/-- A sender gives up only on a map without a bit. -/
theorem BucketsInv.givesUpRightly (h : BucketsInv s) : GivesUpRightly s i := by
  intro s' hstep hup b hb
  have hzero : s.bucketsBitMap.signExtend 64 = 0 := by
    unfold bucketStep at hstep
    split at hstep
    next =>
      obtain rfl := Option.some.inj hstep
      simp [ChannelBuckets.goto] at hup
    next =>
      split at hstep
      next hnone => exact rtlFindMostSignificantBit_none hnone
      next =>
        obtain rfl := Option.some.inj hstep
        simp [ChannelBuckets.goto] at hup
    next =>
      obtain rfl := Option.some.inj hstep
      simp only [ChannelBuckets.goto, Function.update_self] at hup
      split at hup
      next => exact absurd hup BucketSender.noConfusion
      next => exact absurd hup BucketSender.noConfusion
    next =>
      obtain rfl := Option.some.inj hstep
      simp [ChannelBuckets.goto] at hup
    next =>
      obtain rfl := Option.some.inj hstep
      simp [ChannelBuckets.goto] at hup
  have hclear := getLsbD_of_signExtend_eq_zero hzero b
  exact (h.guards b hb).taken.mp (by rw [hclear]; rfl)

/-- **Bucket exclusivity**: in every run no bucket is held twice, every bucket held is
one of the channel's, the map is the complement of what is held, the assertion of the
release holds, and a sender gives up only when the map it read had all buckets held. -/
theorem buckets_exclusive (senders : List Nat) :
    Always bucketStep BucketsOk .initial senders ∧
      Throughout bucketStep GivesUpRightly .initial senders := by
  constructor
  · exact always_of_inv BucketsInv.ok bucketStep_inv bucketsInv_initial
  · exact @throughout_of_inv _ _ _ BucketsInv (fun _ => True) _
      (fun h _ => h.givesUpRightly) (fun h _ hstep => bucketStep_inv h hstep) _ _
      bucketsInv_initial fun _ _ => trivial

end DeepShield.Channel
