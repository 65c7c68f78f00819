import DeepShield.Rtl.Mailbox
import DeepShield.Rtl.RingFifo

/-!
# What arrives is what was posted

The mailbox layers records of one size over the byte ring. `MailboxInv` relates
the two levels: the ring holds the bytes of the records that are posted and not
yet retrieved, end to end. Both levels then move together (`MailboxInv.post`,
`MailboxInv.retrieve`), wherever the ring happens to wrap.

`RtlRingBufferWrite` writes as much of a record as fits and reports success, and
a record that fills the ring to the last byte leaves it empty. Either way the
mailbox then reports itself empty with records outstanding, so
`runsFramed_iff_postsLeaveRoom` is again an equivalence: records arrive as
posted exactly in the runs in which every record posted leaves room.
-/

namespace DeepShield.Rtl

open DeepShield.Lib DeepShield.Os

/-! ## Runs -/

/-- A call on the mailbox, with the caller's local record as it finds it. -/
inductive MailboxOp
  | postTrace (entry : MailboxRecord) (level area : Nat)
      (traceMessage : Option (Except NtFailure TraceText))
  | postNotification (entry : MailboxRecord) (notification : List UInt8)
  | retrieve (entry : MailboxRecord)

/-- A mailbox with the records posted to it and retrieved from it so far. -/
structure MailboxRun where
  mailbox : Mailbox
  posted : List MailboxRecord
  retrieved : List MailboxRecord

/-- A mailbox over a new pool. -/
def MailboxRun.start (mem : Mem) (poolBuffer poolSize : Nat) : MailboxRun :=
  ⟨rtlMailboxInitialize mem poolBuffer poolSize, [], []⟩

/-- A posting call that filled in `entry` and came to `result`. -/
def MailboxRun.post (s : MailboxRun) (entry : Except NtFailure MailboxRecord)
    (result : NtStatus × Mailbox) : MailboxRun :=
  { s with
    mailbox := result.2
    posted := if ntSuccess result.1 then s.posted ++ entry.toOption.toList else s.posted }

/-- One call; the worker retrieves only while the mailbox is not empty. -/
def MailboxRun.step (s : MailboxRun) : MailboxOp → MailboxRun
  | .postTrace entry level area traceMessage =>
    s.post (mailboxTraceEntry entry level area traceMessage)
      (rtlPostMailboxTrace s.mailbox entry level area traceMessage)
  | .postNotification entry notification =>
    s.post (mailboxNotificationEntry entry notification)
      (rtlPostMailboxNotification s.mailbox entry notification)
  | .retrieve entry =>
    if rtlIsMailboxEmpty s.mailbox then s
    else
      let result := rtlRetrieveMailboxData s.mailbox entry
      { s with mailbox := result.2.1, retrieved := s.retrieved ++ [result.2.2] }

/-- What was retrieved is a prefix of what was posted, and all of it once the
mailbox is empty. -/
def MailboxRun.Framed (s : MailboxRun) : Prop :=
  s.retrieved <+: s.posted ∧ (rtlIsMailboxEmpty s.mailbox = true → s.retrieved = s.posted)

/-- Every state of the run is framed. -/
def RunsFramed : MailboxRun → List MailboxOp → Prop
  | s, [] => s.Framed
  | s, op :: ops => s.Framed ∧ RunsFramed (s.step op) ops

/-- With `n` records in a pool of `poolSize` bytes, a posted record leaves at
least one byte free. -/
def LeavesRoomFor (poolSize n : Nat) : Except NtFailure MailboxRecord → Prop
  | .error _ => True
  | .ok _ => (n + 1) * sizeofMailboxRecord < poolSize

instance (poolSize n : Nat) (entry : Except NtFailure MailboxRecord) :
    Decidable (LeavesRoomFor poolSize n entry) :=
  match entry with
  | .error _ => isTrue trivial
  | .ok _ => inferInstanceAs (Decidable ((n + 1) * sizeofMailboxRecord < poolSize))

/-- The records in the pool after a post. -/
def countPosted (n : Nat) : Except NtFailure MailboxRecord → Nat
  | .error _ => n
  | .ok _ => n + 1

/-- Every record posted in the run leaves room in a pool that starts out with
`n` records. -/
def PostsLeaveRoom (poolSize : Nat) : Nat → List MailboxOp → Prop
  | _, [] => True
  | n, .postTrace entry level area traceMessage :: ops =>
    LeavesRoomFor poolSize n (mailboxTraceEntry entry level area traceMessage) ∧
      PostsLeaveRoom poolSize
        (countPosted n (mailboxTraceEntry entry level area traceMessage)) ops
  | n, .postNotification entry notification :: ops =>
    LeavesRoomFor poolSize n (mailboxNotificationEntry entry notification) ∧
      PostsLeaveRoom poolSize
        (countPosted n (mailboxNotificationEntry entry notification)) ops
  | n, .retrieve _ :: ops => PostsLeaveRoom poolSize (n - 1) ops

/-! ## The invariant -/

/-- The bytes of the records, end to end. -/
def recordBytes (records : List MailboxRecord) : List UInt8 := records.flatMap (·.bytes)

theorem recordBytes_length (records : List MailboxRecord) :
    (recordBytes records).length = records.length * sizeofMailboxRecord := by
  induction records with
  | nil => rfl
  | cons r rs ih =>
    show (r.bytes ++ recordBytes rs).length = (rs.length + 1) * sizeofMailboxRecord
    rw [List.length_append, ih, r.length_eq, Nat.succ_mul, Nat.add_comm]

theorem recordBytes_append (rs ts : List MailboxRecord) :
    recordBytes (rs ++ ts) = recordBytes rs ++ recordBytes ts :=
  List.flatMap_append

theorem recordBytes_singleton (r : MailboxRecord) : recordBytes [r] = r.bytes :=
  List.append_nil _

/-- The ring holds the records that are posted and not yet retrieved. -/
structure MailboxInv (poolSize : Nat) (s : MailboxRun) (pending : List MailboxRecord) :
    Prop where
  ring : RbInv s.mailbox.ringBuffer (recordBytes pending)
  size_eq : s.mailbox.ringBuffer.size = poolSize
  posted_eq : s.posted = s.retrieved ++ pending

theorem mailboxRun_start_inv (mem : Mem) (poolBuffer : Nat) {poolSize : Nat}
    (h : 1 ≤ poolSize) : MailboxInv poolSize (MailboxRun.start mem poolBuffer poolSize) [] :=
  ⟨rtlRingBufferInitialize_inv mem poolBuffer h, rfl, rfl⟩

variable {poolSize : Nat} {s : MailboxRun} {pending : List MailboxRecord}

/-- The mailbox is empty exactly if no record is pending. -/
theorem MailboxInv.empty_iff (h : MailboxInv poolSize s pending) :
    rtlIsMailboxEmpty s.mailbox = true ↔ pending = [] := by
  have havail : (rtlRingBufferGetAvailBytes s.mailbox.ringBuffer).2
      = pending.length * sizeofMailboxRecord := by
    rw [congrArg Prod.snd h.ring.reports, recordBytes_length]
  unfold rtlIsMailboxEmpty
  rw [havail, decide_eq_true_iff]
  cases pending with
  | nil => simp
  | cons r rs =>
    simp only [List.length_cons, sizeofMailboxRecord_eq, List.cons_ne_nil, iff_false]
    omega

theorem MailboxInv.framed (h : MailboxInv poolSize s pending) : s.Framed := by
  refine ⟨⟨pending, h.posted_eq.symm⟩, ?_⟩
  intro hempty
  rw [h.posted_eq, h.empty_iff.mp hempty, List.append_nil]

/-- A call that fails before the write changes nothing. -/
theorem MailboxInv.post_error (h : MailboxInv poolSize s pending) (status : NtFailure) :
    MailboxInv poolSize (s.post (.error status) (rtlPostMailboxEntry s.mailbox (.error status)))
      pending := by
  have hposted : (s.post (.error status)
      (rtlPostMailboxEntry s.mailbox (.error status))).posted = s.posted := by
    simp [MailboxRun.post, Except.toOption]
  exact ⟨h.ring, h.size_eq, hposted.trans h.posted_eq⟩

/-- A record that reaches a ring with room left counts as posted. -/
theorem post_posted {q : List UInt8} (h : RbInv s.mailbox.ringBuffer q) (r : MailboxRecord) :
    (s.post (.ok r) (rtlPostMailboxEntry s.mailbox (.ok r))).posted = s.posted ++ [r] := by
  have hstatus : (rtlPostMailboxEntry s.mailbox (.ok r)).1 = statusSuccess :=
    h.write_status r.bytes
  show (if ntSuccess (rtlPostMailboxEntry s.mailbox (.ok r)).1 then _ else _) = _
  rw [hstatus, ntSuccess_statusSuccess, if_pos rfl]
  rfl

/-- A record that leaves room joins the pending ones. -/
theorem MailboxInv.post_ok (h : MailboxInv poolSize s pending) {r : MailboxRecord}
    (hroom : (pending.length + 1) * sizeofMailboxRecord < poolSize) :
    MailboxInv poolSize (s.post (.ok r) (rtlPostMailboxEntry s.mailbox (.ok r)))
      (pending ++ [r]) := by
  have hfit : (recordBytes pending).length + r.bytes.length < s.mailbox.ringBuffer.size := by
    rw [recordBytes_length, r.length_eq, h.size_eq, ← Nat.succ_mul]
    exact hroom
  refine ⟨?_, ?_, ?_⟩
  · rw [recordBytes_append, recordBytes_singleton]
    exact h.ring.write hfit
  · exact (h.ring.size_write r.bytes).trans h.size_eq
  · rw [post_posted h.ring, h.posted_eq, List.append_assoc]
    rfl

/-- A record that does not leave room makes the mailbox forget all pending
ones. -/
theorem MailboxInv.post_full (h : MailboxInv poolSize s pending) {r : MailboxRecord}
    (hfull : poolSize ≤ (pending.length + 1) * sizeofMailboxRecord) :
    RbInv (s.post (.ok r) (rtlPostMailboxEntry s.mailbox (.ok r))).mailbox.ringBuffer [] := by
  refine h.ring.write_full (d := r.bytes) ?_
  rw [recordBytes_length, r.length_eq, h.size_eq, ← Nat.succ_mul]
  exact hfull

/-- A ring without a whole record in it makes an empty mailbox. -/
theorem rtlIsMailboxEmpty_of_ring_nil {mailbox : Mailbox} (h : RbInv mailbox.ringBuffer []) :
    rtlIsMailboxEmpty mailbox = true := by
  unfold rtlIsMailboxEmpty
  rw [congrArg Prod.snd h.reports]
  rfl

/-- **A retrieval, resolved.** The bytes of the oldest record are delivered as
they are, and leave the ring. -/
theorem rtlRetrieveMailboxData_eq {mailbox : Mailbox} {r : MailboxRecord}
    {rs : List MailboxRecord} (h : RbInv mailbox.ringBuffer (recordBytes (r :: rs)))
    (entry : MailboxRecord) :
    (rtlRetrieveMailboxData mailbox entry).2.2 = r ∧
      RbInv (rtlRetrieveMailboxData mailbox entry).2.1.ringBuffer (recordBytes rs) := by
  have hcons : recordBytes (r :: rs) = r.bytes ++ recordBytes rs := rfl
  have hread := (rtlRingBufferRead_eq sizeofMailboxRecord h).1
  have hring := h.read sizeofMailboxRecord
  rw [hcons, ← r.length_eq, List.take_left, r.length_eq] at hread
  rw [hcons, ← r.length_eq, List.drop_left, r.length_eq] at hring
  refine ⟨?_, hring⟩
  cases r with
  | mk bytes length_eq =>
    simp only [rtlRetrieveMailboxData, MailboxRecord.store, MailboxRecord.mk.injEq]
    rw [hread, patch_all (by rw [length_eq, (entry.setType .mailboxEmpty).length_eq])]

/-- Retrieving from a mailbox that is not empty takes the oldest record. -/
theorem MailboxInv.retrieve_cons {r : MailboxRecord} {rs : List MailboxRecord}
    (h : MailboxInv poolSize s (r :: rs)) (entry : MailboxRecord) :
    MailboxInv poolSize (s.step (.retrieve entry)) rs := by
  obtain ⟨hrecord, hring⟩ := rtlRetrieveMailboxData_eq h.ring entry
  have hempty : ¬ rtlIsMailboxEmpty s.mailbox = true := by
    rw [h.empty_iff]
    exact List.cons_ne_nil r rs
  simp only [MailboxRun.step, if_neg hempty, hrecord]
  refine ⟨hring, (h.ring.size_read _).trans h.size_eq, ?_⟩
  show s.posted = (s.retrieved ++ [r]) ++ rs
  rw [h.posted_eq, List.append_assoc]
  rfl

/-- What a record without room does to the ones around it: the next one
retrieved is the one posted after it. -/
theorem MailboxInv.retrieve_after_full (h : MailboxInv poolSize s pending) {r : MailboxRecord}
    (hfull : poolSize ≤ (pending.length + 1) * sizeofMailboxRecord)
    (hsize : sizeofMailboxRecord < poolSize) (r' entry : MailboxRecord) :
    let s₁ := s.post (.ok r) (rtlPostMailboxEntry s.mailbox (.ok r))
    let s₂ := s₁.post (.ok r') (rtlPostMailboxEntry s₁.mailbox (.ok r'))
    (s₂.step (.retrieve entry)).retrieved = s.retrieved ++ [r'] ∧
      (s₂.step (.retrieve entry)).posted = s.retrieved ++ pending ++ [r] ++ [r'] := by
  intro s₁ s₂
  have hring₁ : RbInv s₁.mailbox.ringBuffer [] := h.post_full hfull
  have hsize₁ : s₁.mailbox.ringBuffer.size = poolSize :=
    (h.ring.size_write r.bytes).trans h.size_eq
  -- as far as the ring is concerned, `r'` is posted to a new mailbox
  have hnew : MailboxInv poolSize { s₁ with posted := s₁.retrieved } [] :=
    ⟨hring₁, hsize₁, (List.append_nil _).symm⟩
  have hone := hnew.post_ok (r := r') (by simpa using hsize)
  have hring₂ : RbInv s₂.mailbox.ringBuffer (recordBytes [r']) := hone.ring
  have hposted : s₂.posted = s.retrieved ++ pending ++ [r] ++ [r'] := by
    rw [post_posted hring₁, post_posted h.ring, h.posted_eq]
  have hempty : ¬ rtlIsMailboxEmpty s₂.mailbox = true := fun he =>
    List.cons_ne_nil r' [] (hone.empty_iff.mp he)
  simp only [MailboxRun.step, if_neg hempty, (rtlRetrieveMailboxData_eq hring₂ entry).1]
  exact ⟨rfl, hposted⟩

/-- The worker's step takes the oldest record, if there is one. -/
theorem MailboxInv.retrieve (h : MailboxInv poolSize s pending) (entry : MailboxRecord) :
    MailboxInv poolSize (s.step (.retrieve entry)) pending.tail := by
  cases pending with
  | nil =>
    have hempty := h.empty_iff.mpr rfl
    simp only [MailboxRun.step, if_pos hempty]
    exact h
  | cons r rs => exact h.retrieve_cons entry

/-! ## The equivalence -/

theorem RunsFramed.head {s : MailboxRun} {ops : List MailboxOp} (h : RunsFramed s ops) :
    s.Framed := by
  cases ops with
  | nil => exact h
  | cons op ops => exact h.1

/-- A posting call, followed by a run of which the equivalence is known. -/
theorem MailboxInv.post_runsFramed_iff {ops : List MailboxOp}
    (ih : ∀ {t : MailboxRun} {rest : List MailboxRecord}, MailboxInv poolSize t rest →
      (RunsFramed t ops ↔ PostsLeaveRoom poolSize rest.length ops))
    (h : MailboxInv poolSize s pending) (entry : Except NtFailure MailboxRecord) :
    RunsFramed (s.post entry (rtlPostMailboxEntry s.mailbox entry)) ops ↔
      LeavesRoomFor poolSize pending.length entry ∧
        PostsLeaveRoom poolSize (countPosted pending.length entry) ops := by
  cases entry with
  | error status => simpa [LeavesRoomFor, countPosted] using ih (h.post_error status)
  | ok r =>
    rcases Nat.lt_or_ge ((pending.length + 1) * sizeofMailboxRecord) poolSize with hroom | hfull
    · rw [ih (h.post_ok hroom), List.length_append, List.length_singleton]
      exact (and_iff_right hroom).symm
    · -- nothing is left to retrieve, yet `r` at least is outstanding
      constructor
      · intro hrun
        have hlost := hrun.head.2 (rtlIsMailboxEmpty_of_ring_nil (h.post_full hfull))
        rw [post_posted h.ring, h.posted_eq, List.append_assoc] at hlost
        exact absurd (List.self_eq_append_right.mp hlost) (by simp)
      · intro hroom
        exact absurd hroom.1 (Nat.not_lt.mpr hfull)

/-- From a mailbox that holds `pending`, a run is framed exactly if every
record posted in it leaves room. -/
theorem MailboxInv.runsFramed_iff : ∀ (ops : List MailboxOp) {s : MailboxRun}
    {pending : List MailboxRecord}, MailboxInv poolSize s pending →
    (RunsFramed s ops ↔ PostsLeaveRoom poolSize pending.length ops) := by
  intro ops
  induction ops with
  | nil =>
    intro s pending h
    exact ⟨fun _ => trivial, fun _ => h.framed⟩
  | cons op ops ih =>
    intro s pending h
    show s.Framed ∧ RunsFramed (s.step op) ops ↔ _
    rw [and_iff_right h.framed]
    cases op with
    | postTrace entry level area traceMessage =>
      exact h.post_runsFramed_iff ih (mailboxTraceEntry entry level area traceMessage)
    | postNotification entry notification =>
      exact h.post_runsFramed_iff ih (mailboxNotificationEntry entry notification)
    | retrieve entry =>
      rw [ih (h.retrieve entry), List.length_tail]
      rfl

/-- **Records arrive as they were posted, none lost, exactly in the runs in
which every record posted leaves room in the pool.** -/
theorem runsFramed_iff_postsLeaveRoom (mem : Mem) (poolBuffer : Nat) {poolSize : Nat}
    (h : sizeofMailboxRecord ≤ poolSize) (ops : List MailboxOp) :
    RunsFramed (MailboxRun.start mem poolBuffer poolSize) ops ↔
      PostsLeaveRoom poolSize 0 ops :=
  (mailboxRun_start_inv mem poolBuffer (Nat.le_trans (by decide) h)).runsFramed_iff ops

/-- A record of zeros. -/
def MailboxRecord.zero : MailboxRecord :=
  ⟨List.replicate sizeofMailboxRecord 0, List.length_replicate⟩

/-- A notification and a trace pass through the default pool. -/
theorem runsFramed_defaultPool :
    RunsFramed (MailboxRun.start (fun _ => 0) 0x1000 (1024 * 256))
      [.postNotification .zero [1, 2], .retrieve .zero, .postTrace .zero 4 1 none,
        .postNotification .zero [3], .retrieve .zero] :=
  (runsFramed_iff_postsLeaveRoom (fun _ => 0) 0x1000 (by decide) _).mpr
    ⟨by decide, trivial, by decide, trivial⟩

/-- A pool one byte longer than a record: the second record is cut to that
byte, which fills the ring, and the third is retrieved as the first. -/
theorem not_runsFramed_shortWrite :
    ¬ RunsFramed (MailboxRun.start (fun _ => 0) 0x1000 1057)
      [.postNotification .zero [1], .postNotification .zero [2],
        .postNotification .zero [3], .retrieve .zero] := by
  obtain ⟨r1, hr1⟩ : ∃ r, mailboxNotificationEntry .zero [1] = .ok r := ⟨_, rfl⟩
  obtain ⟨r2, hr2⟩ : ∃ r, mailboxNotificationEntry .zero [2] = .ok r := ⟨_, rfl⟩
  obtain ⟨r3, hr3⟩ : ∃ r, mailboxNotificationEntry .zero [3] = .ok r := ⟨_, rfl⟩
  have hstart := mailboxRun_start_inv (fun _ => 0) 0x1000 (show 1 ≤ 1057 by decide)
  have hfirst := hstart.post_ok (r := r1) (by decide)
  intro hrun
  have hprefix := hrun.2.2.2.2.1
  simp only [MailboxRun.step, rtlPostMailboxNotification, hr1, hr2, hr3] at hprefix
  have hlost := hfirst.retrieve_after_full (r := r2) (by simp) (by simp) r3 .zero
  simp only [MailboxRun.step] at hlost
  rw [hlost.1, hlost.2] at hprefix
  have hsame : r3 = r1 := by
    simpa using (List.cons_prefix_cons.mp hprefix).1
  have hone : r1.data.take 1 = [1] := mailboxNotificationEntry_data hr1
  have hthree : r1.data.take 1 = [3] := hsame ▸ mailboxNotificationEntry_data hr3
  exact absurd (hone.symm.trans hthree) (by decide)

end DeepShield.Rtl
