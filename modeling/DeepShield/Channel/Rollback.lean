import DeepShield.Channel.Buckets
import DeepShield.Lib.Ledger
import DeepShield.Os.NtStatus

/-!
# Rolling back the creation of a channel

`DsInitializeChannel` acquires the channel itself, an MDL, a mapping for the helper, and for
each bucket two events, each by a handle and a reference. When a call fails,
`DsInitializeBucketEvents` gives back what the bucket has so far, and `DsDestroyChannel` is
run on the whole.

That routine is for channels that are complete. It sets the HighEvent of every bucket and
waits for every LowEvent before it looks at what there is, and a bucket that gave back its
events still has the pointers. So it is only safe where there are no buckets
(`rollsBack_iff`).
-/

namespace DeepShield.Channel

open DeepShield.Lib DeepShield.Os

/-! ## The calls -/

/-- `DS_EVENT_TYPE`. -/
inductive DsEventType
  | lowEvent
  | highEvent
deriving Repr, DecidableEq

/-- A creation: for how many buckets, and how its calls turn out. -/
structure ChannelCalls where
  bucketCount : Nat
  bucketCount_le : bucketCount ≤ dsMaxBuckets
  exAllocatePool : Bool
  ioAllocateMdl : Bool
  mmMapLockedPages : Bool
  zwCreateEvent : Nat → DsEventType → NtStatus
  obReferenceObjectByHandle : Nat → DsEventType → NtStatus

/-- `DS_BUCKET_CLIENT` and `DS_BUCKET_SERVER`: handles and references, none for NULL. -/
structure BucketEvents where
  eventHandle : DsEventType → Option Nat
  pairEvent : DsEventType → Option Nat

/-- A bucket after `RtlZeroMemory`. -/
def BucketEvents.zeroed : BucketEvents := ⟨fun _ => none, fun _ => none⟩

/-- `DS_CHANNEL`, with the pool block it is in. -/
structure ChannelObject where
  block : Nat
  mdl : Option Nat
  userVa : Option Nat
  bucketCount : Nat
  buckets : Nat → BucketEvents

/-! ## Creation and destruction -/

/-- A handle was created. -/
def BucketEvents.setHandle (bucket : BucketEvents) (event : DsEventType) (handle : Nat) :
    BucketEvents :=
  { bucket with eventHandle := Function.update bucket.eventHandle event (some handle) }

/-- An event was referenced. -/
def BucketEvents.setEvent (bucket : BucketEvents) (event : DsEventType) (reference : Nat) :
    BucketEvents :=
  { bucket with pairEvent := Function.update bucket.pairEvent event (some reference) }

/-- `DsInitializeBucketEvents`. -/
def dsInitializeBucketEvents (calls : ChannelCalls) (idx : Nat) (bucket : BucketEvents)
    (ledger : Ledger) : NtStatus × BucketEvents × Ledger :=
  let status := calls.zwCreateEvent idx .lowEvent
  match ledger.alloc (ntSuccess status) with
  | (none, ledger) => (status, bucket, ledger)
  | (some lowHandle, ledger) =>
    let bucket := bucket.setHandle .lowEvent lowHandle
    let status := calls.obReferenceObjectByHandle idx .lowEvent
    match ledger.alloc (ntSuccess status) with
    | (none, ledger) => (status, bucket, ledger.free lowHandle)
    | (some lowEvent, ledger) =>
      let bucket := bucket.setEvent .lowEvent lowEvent
      let status := calls.zwCreateEvent idx .highEvent
      match ledger.alloc (ntSuccess status) with
      | (none, ledger) => (status, bucket, (ledger.free lowEvent).free lowHandle)
      | (some highHandle, ledger) =>
        let bucket := bucket.setHandle .highEvent highHandle
        let status := calls.obReferenceObjectByHandle idx .highEvent
        match ledger.alloc (ntSuccess status) with
        | (none, ledger) =>
          (status, bucket, ((ledger.free highHandle).free lowEvent).free lowHandle)
        | (some highEvent, ledger) => (status, bucket.setEvent .highEvent highEvent, ledger)

/-- One half of `DsCleanupBucketEvents`. -/
def cleanupEvent (bucket : BucketEvents) (event : DsEventType) (ledger : Ledger) : Ledger :=
  match bucket.eventHandle event with
  | none => ledger
  | some handle => (ledger.freePointee (bucket.pairEvent event)).free handle

/-- `DsCleanupBucketEvents`. -/
def dsCleanupBucketEvents (bucket : BucketEvents) (ledger : Ledger) : Ledger :=
  cleanupEvent bucket .lowEvent (cleanupEvent bucket .highEvent ledger)

/-- `DsDestroyChannel`. -/
def dsDestroyChannel (channel : ChannelObject) (ledger : Ledger) : Ledger :=
  let indices := List.range channel.bucketCount
  -- KeSetEvent
  let ledger := indices.foldl
    (fun ledger idx => ledger.usePointer ((channel.buckets idx).pairEvent .highEvent)) ledger
  -- KeWaitForMultipleObjects
  let ledger := indices.foldl
    (fun ledger idx => ledger.usePointer ((channel.buckets idx).pairEvent .lowEvent)) ledger
  let ledger := indices.foldl
    (fun ledger idx => dsCleanupBucketEvents (channel.buckets idx) ledger) ledger
  let ledger :=
    match channel.mdl with
    | none => ledger
    | some mdl => (ledger.freePointee channel.userVa).free mdl
  ledger.free channel.block

/-- The loop of `DsInitializeChannel`, over the buckets that are left. -/
def dsInitializeBuckets (calls : ChannelCalls) :
    List Nat → NtStatus → (Nat → BucketEvents) → Ledger →
      NtStatus × (Nat → BucketEvents) × Ledger
  | [], status, buckets, ledger => (status, buckets, ledger)
  | idx :: rest, _, buckets, ledger =>
    match dsInitializeBucketEvents calls idx (buckets idx) ledger with
    | (status, bucket, ledger) =>
      let buckets := Function.update buckets idx bucket
      if ntSuccess status then dsInitializeBuckets calls rest status buckets ledger
      else (status, buckets, ledger)

/-- `DsInitializeChannel`: the status, and what it writes to `NewChannel`. -/
def dsInitializeChannel (calls : ChannelCalls) (ledger : Ledger) :
    NtStatus × Option ChannelObject × Ledger :=
  match ledger.alloc calls.exAllocatePool with
  | (none, ledger) => (statusInsufficientResources, none, ledger)
  | (some block, ledger) =>
    let channel := ⟨block, none, none, calls.bucketCount, fun _ => .zeroed⟩
    match ledger.alloc calls.ioAllocateMdl with
    | (none, ledger) => (statusInsufficientResources, none, dsDestroyChannel channel ledger)
    | (some mdl, ledger) =>
      let channel := { channel with mdl := some mdl }
      match ledger.alloc calls.mmMapLockedPages with
      | (none, ledger) => (statusNoneMapped, none, dsDestroyChannel channel ledger)
      | (some userVa, ledger) =>
        match dsInitializeBuckets calls (List.range calls.bucketCount)
            statusInsufficientResources channel.buckets ledger with
        | (status, buckets, ledger) =>
          let channel := { channel with
            userVa := some userVa
            buckets := buckets }
          if ntSuccess status then (status, some channel, ledger)
          else (status, none, dsDestroyChannel channel ledger)

/-! ## The property -/

/-- If the creation fails, there is no channel, all it acquired was released once, and nothing
was touched that was not there. -/
def RollsBack (calls : ChannelCalls) : Prop :=
  let (status, newChannel, ledger) := dsInitializeChannel calls Ledger.empty
  ntSuccess status = false → newChannel = none ∧ ledger.Settled

/-- Both events of a bucket can be had. -/
def ChannelCalls.BucketSucceeds (calls : ChannelCalls) (idx : Nat) : Prop :=
  ∀ event, ntSuccess (calls.zwCreateEvent idx event) = true ∧
    ntSuccess (calls.obReferenceObjectByHandle idx event) = true

/-- Whatever follows the allocation of the channel succeeds. -/
structure ChannelCalls.Succeed (calls : ChannelCalls) : Prop where
  ioAllocateMdl : calls.ioAllocateMdl = true
  mmMapLockedPages : calls.mmMapLockedPages = true
  buckets : ∀ idx < calls.bucketCount, calls.BucketSucceeds idx

/-! ## Destroying a channel that is not complete -/

section Destroy

variable {ledger : Ledger}

/-- A bucket that has no event is touched all the same. -/
theorem misused_usePointers {pointers : Nat → Option Nat} {indices : List Nat} {idx : Nat}
    (hidx : idx ∈ indices) (hnull : pointers idx = none) :
    (indices.foldl (fun ledger i => ledger.usePointer (pointers i)) ledger).misused = true := by
  induction indices generalizing ledger with
  | nil => exact absurd hidx List.not_mem_nil
  | cons first indices ih =>
    rw [List.foldl_cons]
    rcases List.mem_cons.mp hidx with rfl | hmem
    · apply Ledger.misused_foldl Ledger.misused_usePointer
      rw [hnull]
      rfl
    · exact ih hmem

theorem misused_cleanupEvent {bucket : BucketEvents} {event : DsEventType}
    (h : ledger.misused = true) : (cleanupEvent bucket event ledger).misused = true := by
  unfold cleanupEvent
  split
  next => exact h
  next => exact Ledger.misused_free (Ledger.misused_freePointee h)

/-- **A bucket without HighEvent**: `DsDestroyChannel` sets NULL. -/
theorem misused_dsDestroyChannel {channel : ChannelObject} {idx : Nat}
    (hidx : idx < channel.bucketCount) (hnull : (channel.buckets idx).pairEvent .highEvent = none) :
    (dsDestroyChannel channel ledger).misused = true := by
  have hset := @misused_usePointers ledger (fun i => (channel.buckets i).pairEvent .highEvent) _ _
    (List.mem_range.mpr hidx) hnull
  have hclean : ((List.range channel.bucketCount).foldl
      (fun l i => dsCleanupBucketEvents (channel.buckets i) l)
      ((List.range channel.bucketCount).foldl
        (fun l i => l.usePointer ((channel.buckets i).pairEvent .lowEvent))
        ((List.range channel.bucketCount).foldl
          (fun l i => l.usePointer ((channel.buckets i).pairEvent .highEvent)) ledger))).misused
      = true := by
    apply Ledger.misused_foldl fun h => misused_cleanupEvent (misused_cleanupEvent h)
    apply Ledger.misused_foldl Ledger.misused_usePointer
    exact hset
  unfold dsDestroyChannel
  apply Ledger.misused_free
  cases channel.mdl with
  | none => exact hclean
  | some mdl =>
    apply Ledger.misused_free
    apply Ledger.misused_freePointee
    exact hclean

end Destroy

/-! ## The buckets -/

section Buckets

variable {calls : ChannelCalls} {ledger : Ledger}

/-- **One bucket**: both events are had, or it is left without a HighEvent. -/
theorem dsInitializeBucketEvents_cases (idx : Nat) {bucket : BucketEvents}
    (hnull : bucket.pairEvent .highEvent = none) :
    (calls.BucketSucceeds idx ∧
        (dsInitializeBucketEvents calls idx bucket ledger).1
          = calls.obReferenceObjectByHandle idx .highEvent ∧
        (dsInitializeBucketEvents calls idx bucket ledger).2.2.misused = ledger.misused) ∨
      (¬ calls.BucketSucceeds idx ∧
        ntSuccess (dsInitializeBucketEvents calls idx bucket ledger).1 = false ∧
        (dsInitializeBucketEvents calls idx bucket ledger).2.1.pairEvent .highEvent = none) := by
  unfold dsInitializeBucketEvents
  dsimp only
  cases hlow : ntSuccess (calls.zwCreateEvent idx .lowEvent) with
  | false =>
    refine Or.inr ⟨fun h => ?_, hlow, hnull⟩
    exact Bool.false_ne_true (hlow.symm.trans (h .lowEvent).1)
  | true =>
    dsimp only [Ledger.alloc_true]
    cases hlowRef : ntSuccess (calls.obReferenceObjectByHandle idx .lowEvent) with
    | false =>
      refine Or.inr ⟨fun h => ?_, hlowRef, hnull⟩
      exact Bool.false_ne_true (hlowRef.symm.trans (h .lowEvent).2)
    | true =>
      dsimp only [Ledger.alloc_true]
      cases hhigh : ntSuccess (calls.zwCreateEvent idx .highEvent) with
      | false =>
        refine Or.inr ⟨fun h => ?_, hhigh, hnull⟩
        exact Bool.false_ne_true (hhigh.symm.trans (h .highEvent).1)
      | true =>
        dsimp only [Ledger.alloc_true]
        cases hhighRef : ntSuccess (calls.obReferenceObjectByHandle idx .highEvent) with
        | false =>
          refine Or.inr ⟨fun h => ?_, hhighRef, hnull⟩
          exact Bool.false_ne_true (hhighRef.symm.trans (h .highEvent).2)
        | true =>
          refine Or.inl ⟨fun event => ?_, rfl, rfl⟩
          cases event with
          | lowEvent => exact ⟨hlow, hlowRef⟩
          | highEvent => exact ⟨hhigh, hhighRef⟩

/-- **All buckets**: each has both events, or one is without a HighEvent. -/
theorem dsInitializeBuckets_cases :
    ∀ {rest : List Nat} {status : NtStatus} {buckets : Nat → BucketEvents} {ledger : Ledger},
      rest.Nodup → rest ≠ [] → (∀ idx ∈ rest, (buckets idx).pairEvent .highEvent = none) →
      ((∀ idx ∈ rest, calls.BucketSucceeds idx) ∧
          (∃ idx ∈ rest, (dsInitializeBuckets calls rest status buckets ledger).1
            = calls.obReferenceObjectByHandle idx .highEvent) ∧
          (dsInitializeBuckets calls rest status buckets ledger).2.2.misused = ledger.misused) ∨
        (¬ (∀ idx ∈ rest, calls.BucketSucceeds idx) ∧
          ntSuccess (dsInitializeBuckets calls rest status buckets ledger).1 = false ∧
          ∃ idx ∈ rest, ((dsInitializeBuckets calls rest status buckets ledger).2.1 idx).pairEvent
            .highEvent = none) := by
  intro rest
  induction rest with
  | nil =>
    intro status buckets ledger _ hne _
    exact absurd rfl hne
  | cons first rest ih =>
    intro status buckets ledger hnodup _ hnull
    obtain ⟨hfresh, hnodup⟩ := List.nodup_cons.mp hnodup
    obtain ⟨hfirst, hnull⟩ := List.forall_mem_cons.mp hnull
    rw [dsInitializeBuckets]
    dsimp only
    rcases @dsInitializeBucketEvents_cases calls ledger first _ hfirst with
      ⟨hsucceeds, hstatus, hkept⟩ | ⟨hfails, hstatus, hlost⟩
    · rw [if_pos (by rw [hstatus]; exact (hsucceeds .highEvent).2)]
      by_cases hempty : rest = []
      · subst hempty
        refine Or.inl ⟨List.forall_mem_cons.mpr ⟨hsucceeds, ?_⟩,
          ⟨first, List.mem_cons_self, hstatus⟩, hkept⟩
        intro idx hidx
        exact absurd hidx List.not_mem_nil
      · have hstill : ∀ idx ∈ rest, ((Function.update buckets first
            (dsInitializeBucketEvents calls first (buckets first) ledger).2.1) idx).pairEvent
            .highEvent = none := by
          intro idx hidx
          have hother : idx ≠ first := by
            rintro rfl
            exact hfresh hidx
          rw [Function.update_of_ne hother]
          exact hnull idx hidx
        rcases @ih (dsInitializeBucketEvents calls first (buckets first) ledger).1 _
            (dsInitializeBucketEvents calls first (buckets first) ledger).2.2 hnodup hempty hstill
          with ⟨hall, ⟨idx, hidx, hdone⟩, hstill⟩ | ⟨hnot, hdone, idx, hidx, hlost⟩
        · exact Or.inl ⟨List.forall_mem_cons.mpr ⟨hsucceeds, hall⟩,
            ⟨idx, List.mem_cons_of_mem first hidx, hdone⟩, hstill.trans hkept⟩
        · refine Or.inr ⟨fun hall => hnot (List.forall_mem_cons.mp hall).2, hdone, idx, ?_, hlost⟩
          exact List.mem_cons_of_mem first hidx
    · rw [if_neg (by rw [hstatus]; exact Bool.false_ne_true)]
      refine Or.inr ⟨fun hall => hfails (hall first List.mem_cons_self), hstatus, first,
        List.mem_cons_self, ?_⟩
      dsimp only
      rw [Function.update_self]
      exact hlost

end Buckets

/-! ## The whole -/

section Whole

variable {calls : ChannelCalls}

/-- The memory of the channel is block 0. -/
theorem owns_channel : Ledger.Owns { Ledger.empty with next := 1 } ({0} + 0) :=
  Ledger.owns_empty.alloc

/-- **No buckets**: what there is, is given back. -/
theorem rollsBack_of_noBuckets (hcount : calls.bucketCount = 0) : RollsBack calls := by
  unfold RollsBack dsInitializeChannel dsDestroyChannel
  rw [hcount]
  cases calls.exAllocatePool with
  | false => exact fun _ => ⟨rfl, Ledger.owns_empty.settled⟩
  | true =>
    cases calls.ioAllocateMdl with
    | false => exact fun _ => ⟨rfl, owns_channel.free.settled⟩
    | true =>
      cases calls.mmMapLockedPages with
      | false => exact fun _ => ⟨rfl, owns_channel.alloc.free.free.settled⟩
      | true => exact fun _ => ⟨rfl, owns_channel.alloc.alloc.free.free.free.settled⟩

/-- **With its memory and buckets**, a channel is created, or something is misused. -/
theorem dsInitializeChannel_cases (hpool : calls.exAllocatePool = true)
    (hcount : 0 < calls.bucketCount) :
    (calls.Succeed ∧
        (∃ idx < calls.bucketCount, (dsInitializeChannel calls Ledger.empty).1
          = calls.obReferenceObjectByHandle idx .highEvent) ∧
        (∃ channel, (dsInitializeChannel calls Ledger.empty).2.1 = some channel) ∧
        (dsInitializeChannel calls Ledger.empty).2.2.misused = false) ∨
      (¬ calls.Succeed ∧ ntSuccess (dsInitializeChannel calls Ledger.empty).1 = false ∧
        (dsInitializeChannel calls Ledger.empty).2.2.misused = true) := by
  unfold dsInitializeChannel
  rw [hpool]
  dsimp only [Ledger.alloc_true]
  cases hmdl : calls.ioAllocateMdl with
  | false =>
    exact Or.inr ⟨fun h => Bool.false_ne_true (hmdl.symm.trans h.ioAllocateMdl),
      ntSuccess_statusInsufficientResources, misused_dsDestroyChannel hcount rfl⟩
  | true =>
    dsimp only [Ledger.alloc_true]
    cases hmap : calls.mmMapLockedPages with
    | false =>
      exact Or.inr ⟨fun h => Bool.false_ne_true (hmap.symm.trans h.mmMapLockedPages),
        ntSuccess_statusNoneMapped, misused_dsDestroyChannel hcount rfl⟩
    | true =>
      dsimp only [Ledger.alloc_true]
      have hne : List.range calls.bucketCount ≠ [] := by
        rw [ne_eq, List.range_eq_nil]
        omega
      have hbooks : Ledger.misused ⟨Ledger.empty.next + 1 + 1 + 1, Ledger.empty.frees,
          Ledger.empty.misused⟩ = false := rfl
      generalize Ledger.mk (Ledger.empty.next + 1 + 1 + 1) Ledger.empty.frees Ledger.empty.misused
        = ledger at hbooks
      rcases @dsInitializeBuckets_cases calls _ statusInsufficientResources
          (fun _ => BucketEvents.zeroed) ledger List.nodup_range hne
          (fun _ _ => rfl) with
        ⟨hall, ⟨idx, hidx, hstatus⟩, hkept⟩ | ⟨hnot, hstatus, idx, hidx, hlost⟩
      · have hsuccess := (hall idx hidx .highEvent).2
        rw [← hstatus] at hsuccess
        rw [if_pos hsuccess]
        refine Or.inl ⟨⟨hmdl, hmap, fun idx hidx => hall idx (List.mem_range.mpr hidx)⟩,
          ⟨idx, List.mem_range.mp hidx, hstatus⟩, ⟨_, rfl⟩, hkept.trans hbooks⟩
      · rw [if_neg (by rw [hstatus]; exact Bool.false_ne_true)]
        refine Or.inr ⟨fun h => hnot fun idx hidx => h.buckets idx (List.mem_range.mp hidx),
          hstatus, misused_dsDestroyChannel (List.mem_range.mp hidx) hlost⟩

/-- **A creation that fails** then is not rolled back. -/
theorem rollsBack_of_buckets (hpool : calls.exAllocatePool = true)
    (hcount : 0 < calls.bucketCount) : RollsBack calls ↔ calls.Succeed := by
  unfold RollsBack
  rcases dsInitializeChannel_cases hpool hcount with
    ⟨hsucceed, ⟨idx, hidx, hstatus⟩, -⟩ | ⟨hnot, hstatus, hmisused⟩
  · have hreferenced := (hsucceed.buckets idx hidx .highEvent).2
    rw [← hstatus] at hreferenced
    refine iff_of_true (fun hfailed => ?_) hsucceed
    exact absurd (hfailed.symm.trans hreferenced) Bool.false_ne_true
  · exact iff_of_false (fun h => Ledger.not_settled_of_misused hmisused (h hstatus).2) hnot

end Whole

/-- **The creation rolls back** exactly if there is no memory for the channel, or it has no
buckets, or nothing has to be rolled back. -/
theorem rollsBack_iff (calls : ChannelCalls) :
    RollsBack calls ↔
      calls.exAllocatePool = false ∨ calls.bucketCount = 0 ∨ calls.Succeed := by
  cases hpool : calls.exAllocatePool with
  | false =>
    refine iff_of_true ?_ (Or.inl rfl)
    unfold RollsBack dsInitializeChannel
    rw [hpool]
    exact fun _ => ⟨rfl, Ledger.owns_empty.settled⟩
  | true =>
    by_cases hcount : calls.bucketCount = 0
    · exact iff_of_true (rollsBack_of_noBuckets hcount) (Or.inr (Or.inl hcount))
    · rw [rollsBack_of_buckets hpool (Nat.pos_of_ne_zero hcount)]
      simp [hcount]

/-- Sixteen buckets, and the second event of the last one cannot be created. -/
def lastEventFails : ChannelCalls where
  bucketCount := dsMaxBuckets
  bucketCount_le := Nat.le_refl dsMaxBuckets
  exAllocatePool := true
  ioAllocateMdl := true
  mmMapLockedPages := true
  zwCreateEvent idx event :=
    if idx = 15 ∧ event = .highEvent then statusInsufficientResources else statusSuccess
  obReferenceObjectByHandle _ _ := statusSuccess

/-- `DsDestroyChannel` sets an event that does not exist. -/
theorem not_rollsBack_lastEvent : ¬ RollsBack lastEventFails := by
  rw [rollsBack_of_buckets rfl (by decide)]
  intro h
  exact absurd (h.buckets 15 (by decide) .highEvent).1 (by decide)

end DeepShield.Channel
