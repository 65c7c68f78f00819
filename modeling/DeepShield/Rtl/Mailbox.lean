import DeepShield.Rtl.RingBuf

/-!
# The mailbox of `mailbox.c`

Root mode cannot call into the kernel, so it posts fixed-size records into a
ring buffer and a worker thread takes them out. A `MAILBOX_RECORD` is 1056
bytes: a 32-byte header (`Flags`, `Size`, `Type` and a union) and 1024 bytes of
data. The posting calls fill in a record on their stack, so the fields they do
not set keep what the stack held; the record is therefore modelled as its bytes
and a field assignment as a store to them.

The worker drains the ring while a whole record is there
(`rtlIsMailboxEmpty`); the semaphore of `LET_SWAP_CONTEXT` is compiled out.
-/

namespace DeepShield.Rtl

open DeepShield.Lib DeepShield.Os

/-- `MAILBOX_BUFFER_SIZE`. -/
def mailboxBufferSize : Nat := 1024

/-- `sizeof(MAILBOX_RECORD)`. -/
def sizeofMailboxRecord : Nat := 32 + mailboxBufferSize

@[simp] theorem sizeofMailboxRecord_eq : sizeofMailboxRecord = 1056 := rfl

/-- `MAILBOX_TYPE`. -/
inductive MailboxType
  | mailboxEmpty
  | mailboxTrace
  | mailboxNotification
deriving Repr, DecidableEq

/-- The enumeration's numbering. -/
def MailboxType.toNat : MailboxType → Nat
  | .mailboxEmpty => 0
  | .mailboxTrace => 1
  | .mailboxNotification => 2

/-- `MAILBOX_RECORD`, as its bytes. -/
structure MailboxRecord where
  bytes : List UInt8
  length_eq : bytes.length = sizeofMailboxRecord
deriving DecidableEq

namespace MailboxRecord

/-- Assign to the field at offset `off`. -/
def store (entry : MailboxRecord) (off : Nat) (bs : List UInt8)
    (h : off + bs.length ≤ sizeofMailboxRecord) : MailboxRecord :=
  ⟨patch entry.bytes off bs, by
    rw [patch_length (by rw [entry.length_eq]; exact h), entry.length_eq]⟩

/-- `Header.Size`, at offset 8. -/
def setSize (entry : MailboxRecord) (size : Nat) : MailboxRecord :=
  entry.store 8 (bytes64 size) (by simp)

/-- `Header.Type`, at offset 16. -/
def setType (entry : MailboxRecord) (type : MailboxType) : MailboxRecord :=
  entry.store 16 (bytes32 type.toNat) (by simp)

/-- `Header.Trace.Area` and `Header.Notification.Reserved`, at offset 20. -/
def setArea (entry : MailboxRecord) (area : Nat) : MailboxRecord :=
  entry.store 20 (bytes32 area) (by simp)

/-- `Header.Trace.Level`, at offset 24. -/
def setLevel (entry : MailboxRecord) (level : Nat) : MailboxRecord :=
  entry.store 24 (bytes32 level) (by simp)

/-- `Data`, at offset 32. -/
def setData (entry : MailboxRecord) (data : List UInt8)
    (h : data.length ≤ mailboxBufferSize) : MailboxRecord :=
  entry.store 32 data (Nat.add_le_add_left h 32)

/-- The bytes of `Data`. -/
def data (entry : MailboxRecord) : List UInt8 := entry.bytes.drop 32

end MailboxRecord

/-- What a successful `RtlStringCbVPrintfA` leaves in `Data`: a text that fits
together with its terminator. -/
structure TraceText where
  bytes : List UInt8
  fits : bytes.length < mailboxBufferSize

/-- The bytes the text occupies, its terminator included. -/
def TraceText.terminated (text : TraceText) : List UInt8 := text.bytes ++ [0]

theorem TraceText.terminated_length (text : TraceText) :
    text.terminated.length ≤ mailboxBufferSize := by
  have hfits := text.fits
  simp only [terminated, List.length_append, List.length_singleton]
  omega

/-- `RtlStringCbLengthA`: the length of the string at `s`, of which `cb` bytes
may be looked at. -/
def rtlStringCbLengthA (s : List UInt8) (cb : Nat) : Except NtFailure Nat :=
  let text := (s.take cb).takeWhile (· ≠ 0)
  if text.length < (s.take cb).length then .ok text.length
  else .error ⟨statusInvalidParameter, by decide⟩

/-- `MAILBOX`; the worker's own fields play no part in what is posted and
retrieved. -/
structure Mailbox where
  ringBuffer : RingBuffer

/-- `RtlMailboxInitialize`, once its pool is allocated at `poolBuffer` and its
worker runs. -/
def rtlMailboxInitialize (mem : Mem) (poolBuffer poolSize : Nat) : Mailbox :=
  ⟨rtlRingBufferInitialize mem poolBuffer poolSize⟩

/-- `RtlIsMailboxEmpty`: no complete record is there. -/
def rtlIsMailboxEmpty (mailbox : Mailbox) : Bool :=
  let availToRead := (rtlRingBufferGetAvailBytes mailbox.ringBuffer).2
  availToRead < sizeofMailboxRecord

/-! ## Posting -/

/-- The record `RtlPostMailboxTrace` fills in. `entry` is its uninitialised
local and `traceMessage` what formatting the message came to, absent if the
caller passed none. -/
def mailboxTraceEntry (entry : MailboxRecord) (level area : Nat)
    (traceMessage : Option (Except NtFailure TraceText)) : Except NtFailure MailboxRecord :=
  match traceMessage with
  | none => .error ⟨statusInvalidParameter, by decide⟩
  | some (.error status) => .error status
  | some (.ok text) =>
    let entry := entry.setData text.terminated text.terminated_length
    match rtlStringCbLengthA entry.data mailboxBufferSize with
    | .error status => .error status
    | .ok traceLength =>
      .ok ((((entry.setType .mailboxTrace).setSize traceLength).setLevel level).setArea area)

/-- The record `RtlPostMailboxNotification` fills in. -/
def mailboxNotificationEntry (entry : MailboxRecord) (notification : List UInt8) :
    Except NtFailure MailboxRecord :=
  let entry := ((entry.setType .mailboxNotification).setSize notification.length).setArea 0
  if h : notification.length > mailboxBufferSize then
    .error ⟨statusBufferOverflow, by decide⟩
  else .ok (entry.setData notification (Nat.not_lt.mp h))

/-- The record carries the notification at the start of its data. -/
theorem mailboxNotificationEntry_data {entry r : MailboxRecord} {notification : List UInt8}
    (h : mailboxNotificationEntry entry notification = .ok r) :
    r.data.take notification.length = notification := by
  unfold mailboxNotificationEntry at h
  simp only at h
  split at h
  next => exact absurd h (by simp)
  next =>
    obtain rfl := Except.ok.inj h
    simp only [MailboxRecord.data, MailboxRecord.setData, MailboxRecord.store]
    rw [patch_drop (by rw [MailboxRecord.length_eq]; decide), List.take_left]

/-- The two posting calls, from the record they filled in on: a failure is
returned, a record is written into the ring whole. -/
def rtlPostMailboxEntry (mailbox : Mailbox) (entry : Except NtFailure MailboxRecord) :
    NtStatus × Mailbox :=
  match entry with
  | .error status => (status, mailbox)
  | .ok entry =>
    let written := rtlRingBufferWrite mailbox.ringBuffer entry.bytes
    (written.1, { mailbox with ringBuffer := written.2.1 })

/-- `RtlPostMailboxTrace`. -/
def rtlPostMailboxTrace (mailbox : Mailbox) (entry : MailboxRecord) (level area : Nat)
    (traceMessage : Option (Except NtFailure TraceText)) : NtStatus × Mailbox :=
  rtlPostMailboxEntry mailbox (mailboxTraceEntry entry level area traceMessage)

/-- `RtlPostMailboxNotification`. -/
def rtlPostMailboxNotification (mailbox : Mailbox) (entry : MailboxRecord)
    (notification : List UInt8) : NtStatus × Mailbox :=
  rtlPostMailboxEntry mailbox (mailboxNotificationEntry entry notification)

/-! ## Retrieving -/

/-- A read delivers no more than it was asked for. -/
theorem rtlRingBufferRead_bytes_length (rb : RingBuffer) (dataSize : Nat) :
    (rtlRingBufferRead rb dataSize).bytes.length ≤ dataSize := by
  unfold rtlRingBufferRead
  split
  next => exact Nat.zero_le _
  next hhead =>
    simp only
    split
    next => exact Nat.zero_le _
    next =>
      have hle : (if dataSize > (rtlRingBufferGetAvailBytes rb).2 then
          (rtlRingBufferGetAvailBytes rb).2 else dataSize) ≤ dataSize := by
        split <;> omega
      generalize (if dataSize > (rtlRingBufferGetAvailBytes rb).2 then
          (rtlRingBufferGetAvailBytes rb).2 else dataSize) = copied at hle
      split
      next hwrap =>
        simp only [Copy.out, List.flatMap_cons, List.flatMap_nil, List.append_nil,
          List.length_append, readBytes_length]
        omega
      next =>
        simp only [Copy.out, List.flatMap_cons, List.flatMap_nil, List.append_nil,
          readBytes_length]
        exact hle

/-- `RtlRetrieveMailboxData`: the status, the mailbox and what `mailboxEntry`
then holds. -/
def rtlRetrieveMailboxData (mailbox : Mailbox) (mailboxEntry : MailboxRecord) :
    NtStatus × Mailbox × MailboxRecord :=
  let mailboxEntry := mailboxEntry.setType .mailboxEmpty
  let read := rtlRingBufferRead mailbox.ringBuffer sizeofMailboxRecord
  (read.status, { mailbox with ringBuffer := read.ring },
    mailboxEntry.store 0 read.bytes (by
      rw [Nat.zero_add]
      exact rtlRingBufferRead_bytes_length _ _))

end DeepShield.Rtl
