import DeepShield.Lib.Records
import DeepShield.Rtl.Mailbox
import DeepShield.Td.Verdict

/-!
# The messages of root mode

`TdMessageNotify` makes a `DS_NOTIFICATION_MESSAGE` of a report on its stack and posts it, and
`RtlDispatchMailboxData` reads the data of the record it retrieved as such a message again. So
the message is its bytes: what is not assigned, and the end of a code that does not fill its
field, keeps what the stack held.

What the worker does with a record is its `mailboxAction`, what root mode wants to be done a
`Notice`. Posting and dispatching together do what was wanted: `notificationEntry_notice` for
a report, `traceEntry_notice` for a trace.
-/

namespace DeepShield.Td

open DeepShield.Lib DeepShield.Os DeepShield.Rtl

/-! ## The layout -/

/-- `sizeof(DS_TSC_INFORMATION)`. -/
def sizeofTscInformation : Nat := 344

/-- `DS_TSC_INFORMATION`, as its bytes. -/
abbrev DsTscInformation := Record sizeofTscInformation

namespace DsTscInformation

def beforeAddress : Field sizeofTscInformation 8 := ⟨0, by decide⟩

def beforeTimeStamp : Field sizeofTscInformation 8 := ⟨8, by decide⟩

def beforeCount : Field sizeofTscInformation 8 := ⟨16, by decide⟩

def afterAddress : Field sizeofTscInformation 8 := ⟨24, by decide⟩

def afterTimeStamp : Field sizeofTscInformation 8 := ⟨32, by decide⟩

def afterCount : Field sizeofTscInformation 8 := ⟨40, by decide⟩

def skips : Field sizeofTscInformation 4 := ⟨48, by decide⟩

def difference : Field sizeofTscInformation 8 := ⟨56, by decide⟩

def tscHash : Field sizeofTscInformation 8 := ⟨64, by decide⟩

/-- `Code[SIBLING_DISTANCE_LIMIT]`. -/
def code : Field sizeofTscInformation siblingDistanceLimit.toNat := ⟨72, by decide⟩

def codeSize : Field sizeofTscInformation 8 := ⟨328, by decide⟩

def flags : Field sizeofTscInformation 4 := ⟨336, by decide⟩

/-- `Tsc`. -/
def tsc (info : DsTscInformation) : TscEntry where
  before := ⟨info.load64 beforeAddress, info.load64 beforeTimeStamp, info.load64 beforeCount⟩
  after := ⟨info.load64 afterAddress, info.load64 afterTimeStamp, info.load64 afterCount⟩
  skips := info.load32 skips
  difference := info.load64 difference
  tscHash := info.load64 tscHash

end DsTscInformation

/-- `sizeof(DS_NOTIFICATION_MESSAGE)`. -/
def sizeofNotificationMessage : Nat := 384

/-- `DS_NOTIFICATION_MESSAGE`, as its bytes. -/
abbrev DsNotificationMessage := Record sizeofNotificationMessage

namespace DsNotificationMessage

def controlFlags : Field sizeofNotificationMessage 4 := ⟨8, by decide⟩

def messageType : Field sizeofNotificationMessage 4 := ⟨12, by decide⟩

def processId : Field sizeofNotificationMessage 8 := ⟨16, by decide⟩

def threadId : Field sizeofNotificationMessage 8 := ⟨24, by decide⟩

def type : Field sizeofNotificationMessage 4 := ⟨32, by decide⟩

/-- `Data.Tsc`. -/
def dataTsc : Field sizeofNotificationMessage sizeofTscInformation := ⟨40, by decide⟩

end DsNotificationMessage

/-! ## Filling it in -/

/-- `NotificationMessage`. -/
def notificationMessage : UInt32 := 2

/-- The enumeration's numbering. -/
def DsNotificationType.toUInt32 : DsNotificationType → UInt32
  | .timerAbuse => 1
  | .timerFalsePositive => 2

open DsNotificationMessage in
/-- `Notification.Data.Tsc.Tsc = *Report->Tsc`, but for the padding. -/
def storeTscEntry (message : DsNotificationMessage) (tsc : TscEntry) : DsNotificationMessage :=
  ((((((((message.store64 (dataTsc.inside DsTscInformation.beforeAddress) tsc.before.address
    ).store64 (dataTsc.inside DsTscInformation.beforeTimeStamp) tsc.before.timeStamp
    ).store64 (dataTsc.inside DsTscInformation.beforeCount) tsc.before.count
    ).store64 (dataTsc.inside DsTscInformation.afterAddress) tsc.after.address
    ).store64 (dataTsc.inside DsTscInformation.afterTimeStamp) tsc.after.timeStamp
    ).store64 (dataTsc.inside DsTscInformation.afterCount) tsc.after.count
    ).store32 (dataTsc.inside DsTscInformation.skips) tsc.skips
    ).store64 (dataTsc.inside DsTscInformation.difference) tsc.difference
    ).store64 (dataTsc.inside DsTscInformation.tscHash) tsc.tscHash

open DsNotificationMessage in
/-- The message of `TdMessageNotify`; `message` is its uninitialised local. None if the code
does not fit. -/
def tdMessage (message : DsNotificationMessage) (type : DsNotificationType) (report : TscReport) :
    Option DsNotificationMessage :=
  let message := message.store32 controlFlags 0
  let message := message.store32 messageType notificationMessage
  let message := message.store64 processId report.processId
  let message := message.store64 threadId report.threadId
  let message := message.store32 DsNotificationMessage.type type.toUInt32
  if h : report.codeSize ≤ siblingDistanceLimit then
    let message := message.store (dataTsc.inside DsTscInformation.code)
      (report.code.take report.codeSize.toNat)
      (Nat.le_trans (List.length_take_le _ _) (UInt64.le_iff_toNat_le.mp h))
    let message := storeTscEntry message report.tsc
    let message := message.store64 (dataTsc.inside DsTscInformation.codeSize) report.codeSize
    some (message.store32 (dataTsc.inside DsTscInformation.flags) report.flags)
  else none

/-! ## Reading it again -/

section Message

variable {message sent : DsNotificationMessage} {type : DsNotificationType} {report : TscReport}

open DsNotificationMessage in
/-- **What the message says** is what the report said. -/
theorem tdMessage_says (h : tdMessage message type report = some sent) :
    sent.load64 processId = report.processId ∧ sent.load64 threadId = report.threadId ∧
      sent.load32 DsNotificationMessage.type = type.toUInt32 ∧
      DsTscInformation.tsc (sent.sub dataTsc) = report.tsc ∧
      (sent.sub dataTsc).load64 DsTscInformation.codeSize = report.codeSize ∧
      (sent.sub dataTsc).load32 DsTscInformation.flags = report.flags ∧
      ((sent.sub dataTsc).load DsTscInformation.code).take
        (report.code.take report.codeSize.toNat).length
          = report.code.take report.codeSize.toNat := by
  unfold tdMessage at h
  simp only at h
  split at h
  next hfits =>
    obtain rfl := Option.some.inj h
    unfold storeTscEntry DsTscInformation.tsc
    simp (disch := decide) only [Record.load64_sub, Record.load32_sub, Record.load_sub,
      Record.load64_store64, Record.load32_store32, Record.load64_store64_of_apart,
      Record.load64_store32, Record.load32_store64, Record.load32_store32_of_apart,
      Record.load64_store, Record.load32_store, Record.load_store32, Record.load_store64,
      Record.load_store_take, true_and]
  next => exact absurd h (by simp)

end Message

/-! ## What the worker does with a record -/

/-- The fields of a `MAILBOX_RECORD` that the worker reads. -/
def headerType : Field sizeofMailboxRecord 4 := ⟨16, by decide⟩

def headerSize : Field sizeofMailboxRecord 8 := ⟨8, by decide⟩

def headerTraceArea : Field sizeofMailboxRecord 4 := ⟨20, by decide⟩

def headerTraceLevel : Field sizeofMailboxRecord 4 := ⟨24, by decide⟩

def mailboxData : Field sizeofMailboxRecord mailboxBufferSize := ⟨32, by decide⟩

/-- `*(PDS_NOTIFICATION_MESSAGE) MailboxEntry.Data`. -/
def mailboxMessage : Field sizeofMailboxRecord sizeofNotificationMessage := ⟨32, by decide⟩

/-- The record as one. -/
def asRecord (entry : MailboxRecord) : Record sizeofMailboxRecord := ⟨entry.bytes, entry.length_eq⟩

/-- A string, up to its terminator. -/
def cString (bytes : List UInt8) : List UInt8 := bytes.takeWhile (· ≠ 0)

/-- `TRACE_LEVEL_VERBOSE`, `TRACE_LEVEL_INFORMATION`, `TRACE_LEVEL_WARNING`. -/
def traceLevelVerbose : UInt32 := 5

def traceLevelInformation : UInt32 := 4

def traceLevelWarning : UInt32 := 3

/-- `TRACE_IOA_ROOT` and `TRACE_MSR_ROOT`, the areas of root mode, and those of the worker. -/
def traceIoaRoot : UInt32 := 0x80

def traceIoa : UInt32 := 0x40

def traceMsrRoot : UInt32 := 0x200

def traceMsr : UInt32 := 0x100

/-- The level of the event for a trace of root mode. -/
def traceEventLevel (level : UInt32) : UInt32 :=
  if level = traceLevelVerbose then traceLevelVerbose
  else if level = traceLevelInformation then traceLevelInformation
  else traceLevelWarning

/-- What `RtlDispatchMailboxData` calls for a record. -/
inductive WorkerAction
  | traceEvents (level flags : UInt32) (text : List UInt8)
  | pmExcludeThread (processId threadId : UInt64)
  | dsSendNotificationMessage (processId threadId : UInt64) (type : UInt32)
      (data : DsTscInformation)
  | unrecognized (type : UInt32)
deriving DecidableEq

/-- `RtlDispatchMailboxData`, up to the call. -/
def mailboxAction (entry : MailboxRecord) : Option WorkerAction :=
  let type := (asRecord entry).load32 headerType
  if type = UInt32.ofNat MailboxType.mailboxTrace.toNat then
    let level := traceEventLevel ((asRecord entry).load32 headerTraceLevel)
    let area := (asRecord entry).load32 headerTraceArea
    let text := cString ((asRecord entry).load mailboxData)
    if area = traceIoaRoot then some (.traceEvents level traceIoa text)
    else if area = traceMsrRoot then some (.traceEvents level traceMsr text)
    else none
  else if type = UInt32.ofNat MailboxType.mailboxNotification.toNat then
    let message : DsNotificationMessage := (asRecord entry).sub mailboxMessage
    let processId := message.load64 DsNotificationMessage.processId
    let threadId := message.load64 DsNotificationMessage.threadId
    let type := message.load32 DsNotificationMessage.type
    if type = DsNotificationType.timerFalsePositive.toUInt32 then
      some (.pmExcludeThread processId threadId)
    else some (.dsSendNotificationMessage processId threadId type
      (message.sub DsNotificationMessage.dataTsc))
  else some (.unrecognized type)

/-! ## What root mode wants -/

/-- What is to be made known. -/
inductive Notice
  | trace (level flags : UInt32) (text : List UInt8)
  | falsePositive (processId threadId : UInt64)
  | timerAbuse (processId threadId : UInt64) (tsc : TscEntry) (code : List UInt8) (flags : UInt32)
deriving DecidableEq

/-- What a report makes known. -/
def reportNotice (report : TscReport) : DsNotificationType → Notice
  | .timerFalsePositive => .falsePositive report.processId report.threadId
  | .timerAbuse => .timerAbuse report.processId report.threadId report.tsc
      (report.code.take report.codeSize.toNat) report.flags

/-- What a trace makes known: the text, in the area of the worker. -/
def traceNotice (level area : UInt32) (text : TraceText) : Option Notice :=
  if area = traceIoaRoot then
    some (.trace (traceEventLevel level) traceIoa (cString text.bytes))
  else if area = traceMsrRoot then
    some (.trace (traceEventLevel level) traceMsr (cString text.bytes))
  else none

/-- What a call of the worker makes known; the reader of the data takes as much of the code
as `CodeSize` says. -/
def WorkerAction.notice : WorkerAction → Option Notice
  | .traceEvents level flags text => some (.trace level flags text)
  | .pmExcludeThread processId threadId => some (.falsePositive processId threadId)
  | .dsSendNotificationMessage processId threadId type data =>
    if type = DsNotificationType.timerAbuse.toUInt32 then
      some (.timerAbuse processId threadId (DsTscInformation.tsc data)
        ((data.load DsTscInformation.code).take (data.load64 DsTscInformation.codeSize).toNat)
        (data.load32 DsTscInformation.flags))
    else none
  | .unrecognized _ => none

section Records

variable {entry r : MailboxRecord}

/-- Assigning to a field of the record. -/
theorem asRecord_setType (type : MailboxType) :
    asRecord (entry.setType type)
      = (asRecord entry).store32 headerType (UInt32.ofNat type.toNat) := by
  cases type with
  | mailboxEmpty | mailboxTrace | mailboxNotification => rfl

theorem asRecord_setSize (size : Nat) :
    asRecord (entry.setSize size)
      = (asRecord entry).store headerSize (bytes64 size) (Nat.le_of_eq (bytes64_length _)) := rfl

theorem asRecord_setArea (area : Nat) :
    asRecord (entry.setArea area)
      = (asRecord entry).store32 headerTraceArea (UInt32.ofNat area) := by
  refine Record.ext ?_
  show patch entry.bytes 20 (bytes32 area) = patch entry.bytes 20 (bytes32 (area % 2 ^ 32))
  rw [bytes32_mod]

theorem asRecord_setLevel (level : Nat) :
    asRecord (entry.setLevel level)
      = (asRecord entry).store32 headerTraceLevel (UInt32.ofNat level) := by
  refine Record.ext ?_
  show patch entry.bytes 24 (bytes32 level) = patch entry.bytes 24 (bytes32 (level % 2 ^ 32))
  rw [bytes32_mod]

theorem asRecord_setData {data : List UInt8} (h : data.length ≤ mailboxBufferSize) :
    asRecord (entry.setData data h) = (asRecord entry).store mailboxData data h := rfl

/-- A message in the data. -/
theorem sub_mailboxMessage {record : Record sizeofMailboxRecord} {message : DsNotificationMessage}
    (h : message.bytes.length ≤ mailboxBufferSize) :
    (record.store mailboxData message.bytes h).sub mailboxMessage = message := by
  refine Record.ext ?_
  have hroom : 32 + message.bytes.length ≤ record.bytes.length := by
    rw [message.length_eq, record.length_eq]
    decide
  have hslice := slice_patch hroom
  rw [message.length_eq] at hslice
  exact hslice

/-- **A record for a message**: the worker finds the message again. -/
theorem notificationEntry_fields {message : DsNotificationMessage}
    (h : mailboxNotificationEntry entry message.bytes = .ok r) :
    (asRecord r).load32 headerType = UInt32.ofNat MailboxType.mailboxNotification.toNat ∧
      (asRecord r).sub mailboxMessage = message := by
  unfold mailboxNotificationEntry at h
  simp only at h
  split at h
  next => exact absurd h (by simp)
  next hle =>
    obtain rfl := Except.ok.inj h
    rw [asRecord_setData]
    refine ⟨?_, sub_mailboxMessage _⟩
    simp (disch := decide) only [asRecord_setArea, asRecord_setSize, asRecord_setType,
      Record.load32_store, Record.load32_store32_of_apart, Record.load32_store32]

/-- **A report arrives**: the call the worker makes for its record makes known what the report
did. -/
theorem notificationEntry_notice {message sent : DsNotificationMessage}
    {type : DsNotificationType} {report : TscReport}
    (hcode : report.code.length = siblingDistanceLimit.toNat)
    (hsent : tdMessage message type report = some sent)
    (hentry : mailboxNotificationEntry entry sent.bytes = .ok r) :
    (mailboxAction r).map WorkerAction.notice = some (some (reportNotice report type)) := by
  obtain ⟨htype, hmessage⟩ := notificationEntry_fields hentry
  obtain ⟨hprocess, hthread, hkind, htsc, hsize, hflags, hread⟩ := tdMessage_says hsent
  have hfits : report.codeSize ≤ siblingDistanceLimit := by
    by_contra hlong
    rw [tdMessage, dif_neg hlong] at hsent
    exact absurd hsent (by simp)
  have hlength : (report.code.take report.codeSize.toNat).length = report.codeSize.toNat := by
    rw [List.length_take, hcode]
    exact Nat.min_eq_left (UInt64.le_iff_toNat_le.mp hfits)
  rw [hlength] at hread
  unfold mailboxAction
  simp only [htype, hmessage, hprocess, hthread, hkind]
  rw [if_neg (by decide), if_pos trivial]
  cases type with
  | timerFalsePositive => rfl
  | timerAbuse =>
    rw [if_neg (by decide), Option.map_some, WorkerAction.notice, if_pos rfl, htsc, hsize, hflags,
      hread]
    rfl

/-- A string ends with its terminator, whatever comes behind it. -/
theorem cString_append_zero (bytes rest : List UInt8) :
    cString (bytes ++ 0 :: rest) = cString bytes := by
  unfold cString
  induction bytes with
  | nil => rfl
  | cons b bytes ih =>
    by_cases hb : b = 0
    · rw [List.cons_append, List.takeWhile_cons_of_neg (by simpa using hb),
        List.takeWhile_cons_of_neg (by simpa using hb)]
    · rw [List.cons_append, List.takeWhile_cons_of_pos (by simpa using hb),
        List.takeWhile_cons_of_pos (by simpa using hb), ih]

/-- The text of a record. -/
theorem cString_setData (entry : MailboxRecord) (text : TraceText) :
    cString ((asRecord (entry.setData text.terminated text.terminated_length)).load mailboxData)
      = cString text.bytes := by
  have htake := @Record.load_store_take _ _ (asRecord entry) mailboxData text.terminated
    text.terminated_length
  rw [asRecord_setData, ← List.take_append_drop text.terminated.length (Record.load _ _), htake]
  unfold TraceText.terminated
  rw [List.append_assoc, List.singleton_append, cString_append_zero]

/-- **A text that was formatted is posted.** -/
theorem mailboxTraceEntry_ok (entry : MailboxRecord) (level area : Nat) (text : TraceText) :
    ∃ traceLength, mailboxTraceEntry entry level area (some (.ok text))
      = .ok (((((entry.setData text.terminated text.terminated_length).setType .mailboxTrace
        ).setSize traceLength).setLevel level).setArea area) := by
  have hlength : (cString text.bytes).length < mailboxBufferSize :=
    Nat.lt_of_le_of_lt (List.takeWhile_prefix _).length_le text.fits
  have hdata : cString ((entry.setData text.terminated text.terminated_length).data.take
      mailboxBufferSize) = cString text.bytes := cString_setData entry text
  have hwhole : ((entry.setData text.terminated text.terminated_length).data.take
      mailboxBufferSize).length = mailboxBufferSize :=
    Record.load_length (asRecord (entry.setData text.terminated text.terminated_length)) mailboxData
  have hcb : rtlStringCbLengthA (entry.setData text.terminated text.terminated_length).data
      mailboxBufferSize = .ok (cString text.bytes).length := by
    show (if (cString _).length < _ then Except.ok (cString _).length else _) = _
    rw [hdata, hwhole, if_pos hlength]
  exact ⟨(cString text.bytes).length, by simp only [mailboxTraceEntry, hcb]⟩

/-- **A trace arrives.** -/
theorem traceEntry_notice {level area : UInt32} {text : TraceText}
    (hentry : mailboxTraceEntry entry level.toNat area.toNat (some (.ok text)) = .ok r) :
    (mailboxAction r).map WorkerAction.notice = (traceNotice level area text).map some := by
  obtain ⟨traceLength, hok⟩ := mailboxTraceEntry_ok entry level.toNat area.toNat text
  obtain rfl := Except.ok.inj (hok.symm.trans hentry)
  unfold mailboxAction traceNotice
  simp (disch := decide) only [asRecord_setArea, asRecord_setLevel, asRecord_setSize,
    asRecord_setType, Record.load32_store, Record.load32_store32_of_apart, Record.load32_store32,
    Record.load_store32, Record.load_store_of_apart, cString_setData, UInt32.ofNat_toNat]
  rw [if_pos trivial]
  by_cases hioa : area = traceIoaRoot
  · rw [if_pos hioa, if_pos hioa]
    rfl
  · rw [if_neg hioa, if_neg hioa]
    by_cases hmsr : area = traceMsrRoot
    · rw [if_pos hmsr, if_pos hmsr]
      rfl
    · rw [if_neg hmsr, if_neg hmsr]
      rfl

end Records

end DeepShield.Td
