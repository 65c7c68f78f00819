import DeepShield.Pm.Bookkeeping
import DeepShield.Pm.ThreadReferences
import DeepShield.Rtl.MailboxFraming
import DeepShield.Td.Notification
import DeepShield.Td.Siblings

/-!
# From the detector to the worker

Root mode reports: `TdProcessTscEvent` its verdicts, the handler of IA32_FS_BASE that it ran,
`HvmTrimTsdForQuantum` the CR4 it set. The worker takes the records out of the mailbox again and
excludes threads, sends notifications and writes traces, and the process callbacks add and
delete entries meanwhile. `ReportRun` is all of it, with the notices that root mode gave so
far, and the calls that the worker made.

`reports_carriedOut`: in every run in which the records posted leave room in the pool, the
worker does what root mode wanted, in that order, none twice, and all of it once the mailbox is
empty.
-/

namespace DeepShield.Td

open DeepShield.Lib DeepShield.Os DeepShield.Rtl DeepShield.Pm

/-! ## Posting -/

/-- A posting call of root mode. -/
inductive RootPost
  | rtlPostMailboxTrace (level area : UInt32) (message : String) (arguments : List UInt64)
  | tdMessageNotify (type : DsNotificationType) (report : TscReport)

/-- What a message is formatted to, and what the stack holds where the posting calls have
their locals. -/
structure PostEnvironment where
  rtlStringCbVPrintfA : String → List UInt64 → Except NtFailure TraceText
  stackEntry : MailboxRun → MailboxRecord
  stackMessage : MailboxRun → DsNotificationMessage

/-- `RtlPostMailboxTrace`, with a message. -/
def postTrace (env : PostEnvironment) (run : MailboxRun) (level area : UInt32) (message : String)
    (arguments : List UInt64) : MailboxRun :=
  run.step (.postTrace (env.stackEntry run) level.toNat area.toNat
    (some (env.rtlStringCbVPrintfA message arguments)))

/-- `TdTimingFalsePositiveNotify` and `TdTimingAttackNotify`, and what posts a trace. -/
def rootPost (env : PostEnvironment) (run : MailboxRun) : RootPost → Option MailboxRun
  | .rtlPostMailboxTrace level area message arguments =>
    some (postTrace env run level area message arguments)
  | .tdMessageNotify type report => do
    let message ← tdMessage (env.stackMessage run) type report
    let status :=
      (rtlPostMailboxNotification run.mailbox (env.stackEntry run) message.bytes).1
    let run := run.step (.postNotification (env.stackEntry run) message.bytes)
    if ntSuccess status then some run
    else some (postTrace env run traceLevelWarning traceIoaRoot
      "Unable to notify Timing attack (ProcessId = %p, ThreadId = %p)\n"
      [report.processId, report.threadId])

/-- What a posting call makes known. -/
def RootPost.notice (env : PostEnvironment) : RootPost → Option Notice
  | .rtlPostMailboxTrace level area message arguments =>
    match env.rtlStringCbVPrintfA message arguments with
    | .ok text => traceNotice level area text
    | .error _ => none
  | .tdMessageNotify type report => some (reportNotice report type)

/-- What `HvmTrimTsdForQuantum` posts; `newCr4` is what it sets CR4 to, if it does. -/
def trimPosts (processId threadId : UInt64) (newCr4 : Option UInt64) : List RootPost :=
  newCr4.toList.map fun cr4 => .rtlPostMailboxTrace traceLevelInformation traceMsrRoot
    "New CR4 set (Cid = %4d.%4d, Cr4 = 0x%I64X)\n" [processId, threadId, cr4]

/-- What an effect of `TdProcessTscEvent` posts. -/
def effectPosts (event : TscEvent) (newCr4 : Option UInt64) : TdEffect → List RootPost
  | .hvmTrimTsdForQuantum => trimPosts event.processId event.threadId newCr4
  | .rtlPostMailboxTrace message arguments =>
    [.rtlPostMailboxTrace traceLevelInformation traceIoaRoot message arguments]
  | .tdMessageNotify type report => [.tdMessageNotify type report]

/-- What `HvmHandleMsrWriteFsBase` posts. -/
def fsBasePosts (processId threadId value : UInt64) (newCr4 : Option UInt64) : List RootPost :=
  .rtlPostMailboxTrace traceLevelVerbose traceMsrRoot
    "Writing MSR_FS_BASE (Cid = %4d.%4d, Teb = 0x%I64X)\n" [processId, threadId, value] ::
  trimPosts processId threadId newCr4

/-! ## Runs -/

/-- A call of the worker, and what the kernel answered if it was to exclude a thread. -/
structure WorkerCall where
  action : WorkerAction
  outcome : ExclusionOutcome

/-- The time-stamp tables of the processors, the mailbox, the process table, the notices of
root mode and the calls of the worker. -/
structure ReportRun (ι : Type) where
  heads : ι → TscTable
  mailbox : MailboxRun
  history : History
  wanted : List Notice
  done : List WorkerCall

/-- What happens: a time-stamp read or a write of IA32_FS_BASE on some processor, an iteration
of the worker, a process that is created or deleted. -/
inductive ReportOp (ι : Type)
  | tscEvent (processor : ι) (event : TscEvent) (newCr4 : Option UInt64)
  | msrWriteFsBase (processId threadId value : UInt64) (newCr4 : Option UInt64)
  | dispatch (entry : MailboxRecord) (outcome : ExclusionOutcome)
  | create (processId : UInt64) (outcome : CreationOutcome)
  | delete (processId : UInt64)

variable {ι : Type}

/-- A mailbox over a new pool, and no processes yet. -/
def ReportRun.start (heads : ι → TscTable) (mem : Mem) (poolBuffer poolSize : Nat) :
    ReportRun ι :=
  ⟨heads, MailboxRun.start mem poolBuffer poolSize, History.initial, [], []⟩

/-- The posting calls of an operation. -/
def ReportRun.posts (s : ReportRun ι) : ReportOp ι → List RootPost
  | .tscEvent processor event newCr4 =>
    match tdProcessTscEvent (s.heads processor) event with
    | some outcome => outcome.effects.flatMap (effectPosts event newCr4)
    | none => []
  | .msrWriteFsBase processId threadId value newCr4 =>
    fsBasePosts processId threadId value newCr4
  | .dispatch _ _ | .create _ _ | .delete _ => []

/-- Root mode makes its posting calls. -/
def ReportRun.post (env : PostEnvironment) (s : ReportRun ι) (posts : List RootPost) :
    Option (ReportRun ι) := do
  let mailbox ← posts.foldlM (rootPost env) s.mailbox
  return { s with mailbox := mailbox, wanted := s.wanted ++ posts.filterMap (RootPost.notice env) }

/-- The worker makes the call that a record is for. -/
def ReportRun.call (s : ReportRun ι) (outcome : ExclusionOutcome) (action : WorkerAction) :
    Option (ReportRun ι) := do
  let history ←
    match action with
    | .pmExcludeThread processId threadId =>
      historyStep s.history (.dispatch processId threadId outcome)
    | _ => some s.history
  return { s with history := history, done := s.done ++ [⟨action, outcome⟩] }

/-- One operation. -/
def reportStep [DecidableEq ι] (env : PostEnvironment) (s : ReportRun ι) (op : ReportOp ι) :
    Option (ReportRun ι) :=
  match op with
  | .tscEvent processor event _ => do
    let outcome ← tdProcessTscEvent (s.heads processor) event
    { s with heads := Function.update s.heads processor outcome.head }.post env (s.posts op)
  | .msrWriteFsBase _ _ _ _ => s.post env (s.posts op)
  | .dispatch entry outcome =>
    -- the worker goes on only while the mailbox is not empty
    if rtlIsMailboxEmpty s.mailbox.mailbox then none
    else
      let retrieved := rtlRetrieveMailboxData s.mailbox.mailbox entry
      let s := { s with mailbox := s.mailbox.step (.retrieve entry) }
      if ntSuccess retrieved.1 = false then some s
      else
        match mailboxAction retrieved.2.2 with
        | none => some s
        | some action => s.call outcome action
  | .create processId outcome => do
    let history ← historyStep s.history (.create processId outcome)
    return { s with history := history }
  | .delete processId => do
    let history ← historyStep s.history (.delete processId)
    return { s with history := history }

/-- The records that are posted leave room in the pool. -/
def Roomy (s : ReportRun ι) (op : ReportOp ι) : Prop :=
  (rtlRingBufferGetAvailBytes s.mailbox.mailbox.ringBuffer).2
    + (s.posts op).length * sizeofMailboxRecord < s.mailbox.mailbox.ringBuffer.size

instance (s : ReportRun ι) (op : ReportOp ι) : Decidable (Roomy s op) :=
  inferInstanceAs (Decidable (_ < _))

/-- What the worker has done is what root mode wanted first, and all that it wanted once
the mailbox is empty. -/
structure CarriedOut (s : ReportRun ι) : Prop where
  inOrder : s.done.map (fun call => call.action.notice) <+: s.wanted.map some
  all : rtlIsMailboxEmpty s.mailbox.mailbox = true →
    s.done.map (fun call => call.action.notice) = s.wanted.map some

/-! ## The code of a report -/

/-- A read is no longer than asked for. -/
theorem mmuReadPage_length_le (physical : Mem) (mmu : Mmu.MmuPerCpu) (baseVa : UInt64)
    (offset n : Nat) : (Mmu.mmuReadPage physical mmu baseVa offset n).length ≤ n := by
  unfold Mmu.mmuReadPage
  split
  next => exact Nat.zero_le n
  next => rw [readBytes_length]

section Code

variable {machine : Mmu.Machine} {mmu : Mmu.MmuPerCpu} {cr3 : UInt64} {sibling : TscEntry}
  {code code' : List UInt8}

theorem rtlCopyToCode_length {address n : UInt64}
    (h : rtlCopyToCode machine mmu code address n = some code')
    (hcode : code.length = siblingDistanceLimit.toNat) :
    code'.length = siblingDistanceLimit.toNat := by
  unfold rtlCopyToCode at h
  split at h
  next => exact absurd h (by simp)
  next hle =>
    have hn : n.toNat ≤ siblingDistanceLimit.toNat :=
      UInt64.le_iff_toNat_le.mp (UInt64.not_lt.mp hle)
    have hread := mmuReadPage_length_le machine.physical mmu (Mmu.pageAlign address)
      (Mmu.byteOffset address).toNat n.toNat
    rw [← Option.some.inj h, patch_length (by omega), hcode]

/-- The copy fills the field of the report and no more. -/
theorem tdCopySiblingMemory_length {copied : CopyResult}
    (h : tdCopySiblingMemory machine mmu cr3 sibling code = some copied)
    (hcode : code.length = siblingDistanceLimit.toNat) :
    copied.code.length = siblingDistanceLimit.toNat := by
  unfold tdCopySiblingMemory at h
  simp only at h
  split at h
  next => rwa [← Option.some.inj h]
  next =>
    split at h
    next =>
      split at h
      next => rwa [← Option.some.inj h]
      next =>
        obtain ⟨first, hfirst, hrest⟩ := Option.bind_eq_some_iff.mp h
        obtain ⟨second, hsecond, hcopied⟩ := Option.bind_eq_some_iff.mp hrest
        rw [← Option.some.inj hcopied]
        exact rtlCopyToCode_length hsecond (rtlCopyToCode_length hfirst hcode)
    next =>
      obtain ⟨first, hfirst, hcopied⟩ := Option.bind_eq_some_iff.mp h
      rw [← Option.some.inj hcopied]
      exact rtlCopyToCode_length hfirst hcode

theorem tdIsTimingAttack_length {event : TscEvent} {report report' : TscReport} {attack : Bool}
    {mmu' : Mmu.MmuPerCpu}
    (h : tdIsTimingAttack event sibling report = some (attack, report', mmu'))
    (hcode : report.code.length = siblingDistanceLimit.toNat) :
    report'.code.length = siblingDistanceLimit.toNat := by
  unfold tdIsTimingAttack at h
  obtain ⟨copied, hcopied, hrest⟩ := Option.bind_eq_some_iff.mp h
  have hlength := tdCopySiblingMemory_length hcopied hcode
  split at hrest
  next =>
    obtain rfl : _ = report' := congrArg (fun result => result.2.1) (Option.some.inj hrest)
    exact hlength
  next =>
    obtain rfl : _ = report' := congrArg (fun result => result.2.1) (Option.some.inj hrest)
    exact hlength

end Code

/-- The code of every report that is posted fills its field. -/
theorem tdProcessTscEvent_report {head : TscTable} {event : TscEvent} {outcome : TscOutcome}
    {type : DsNotificationType} {report : TscReport}
    (h : tdProcessTscEvent head event = some outcome)
    (hreport : TdEffect.tdMessageNotify type report ∈ outcome.effects) :
    report.code.length = siblingDistanceLimit.toNat := by
  unfold tdProcessTscEvent at h
  obtain ⟨⟨i, recorded⟩, hrecord, hrest⟩ := Option.bind_eq_some_iff.mp h
  simp only at hrest
  split at hrest
  next =>
    rw [← Option.some.inj hrest] at hreport
    exact absurd hreport (by simp)
  next =>
    rw [← Option.some.inj hrest] at hreport
    exact absurd hreport (by simp)
  next =>
    split at hrest
    next => exact absurd hrest (by simp)
    next hattack =>
      rw [← Option.some.inj hrest] at hreport
      simp only [List.mem_cons, TdEffect.tdMessageNotify.injEq, reduceCtorEq, List.not_mem_nil,
        or_false, false_or] at hreport
      rw [hreport.2]
      exact tdIsTimingAttack_length hattack List.length_replicate
    next hattack =>
      rw [← Option.some.inj hrest] at hreport
      simp only [List.mem_cons, TdEffect.tdMessageNotify.injEq, reduceCtorEq, List.not_mem_nil,
        or_false, false_or] at hreport
      rw [hreport.2]
      exact tdIsTimingAttack_length hattack List.length_replicate

/-! ## Posting keeps the books -/

section Posting

variable {env : PostEnvironment} {poolSize : Nat} {run run' : MailboxRun}
  {pending : List MailboxRecord}

/-- What the calls for some records make known. -/
def recordNotices (records : List MailboxRecord) : List (Option Notice) :=
  (records.filterMap mailboxAction).map WorkerAction.notice

theorem recordNotices_append (rs ts : List MailboxRecord) :
    recordNotices (rs ++ ts) = recordNotices rs ++ recordNotices ts := by
  unfold recordNotices
  rw [List.filterMap_append, List.map_append]

theorem recordNotices_singleton (r : MailboxRecord) :
    recordNotices [r] = ((mailboxAction r).map WorkerAction.notice).toList := by
  unfold recordNotices
  cases h : mailboxAction r with
  | none => simp [h]
  | some action => simp [h]

/-- `new` was posted in between, and makes these notices known. -/
structure Posted (poolSize : Nat) (run run' : MailboxRun) (pending new : List MailboxRecord)
    (notices : List Notice) : Prop where
  inv : MailboxInv poolSize run' (pending ++ new)
  retrieved : run'.retrieved = run.retrieved
  posted : run'.posted = run.posted ++ new
  notices : recordNotices new = notices.map some

/-- A record, or none. -/
theorem posted_step (h : MailboxInv poolSize run pending) {entry : Except NtFailure MailboxRecord}
    {notice : Option Notice} (hroom : (pending.length + 1) * sizeofMailboxRecord < poolSize)
    (herror : ∀ status, entry = .error status → notice = none)
    (hok : ∀ r, entry = .ok r → (mailboxAction r).map WorkerAction.notice = notice.map some) :
    ∃ new, new.length ≤ 1 ∧
      Posted poolSize run (run.post entry (rtlPostMailboxEntry run.mailbox entry)) pending new
        notice.toList := by
  cases entry with
  | error status =>
    refine ⟨[], Nat.zero_le 1, ?_, rfl, ?_, ?_⟩
    · rw [List.append_nil]
      exact h.post_error status
    · have hinv := h.post_error status
      rw [hinv.posted_eq, List.append_nil, h.posted_eq]
      rfl
    · rw [herror status rfl]
      rfl
  | ok r =>
    refine ⟨[r], Nat.le_refl 1, h.post_ok hroom, rfl, post_posted h.ring r, ?_⟩
    rw [recordNotices_singleton, hok r rfl]
    cases notice with
    | none | some n => rfl

/-- A trace. -/
theorem posted_trace (h : MailboxInv poolSize run pending)
    (hroom : (pending.length + 1) * sizeofMailboxRecord < poolSize) (level area : UInt32)
    (message : String) (arguments : List UInt64) :
    ∃ new, new.length ≤ 1 ∧
      Posted poolSize run (postTrace env run level area message arguments) pending new
        (RootPost.notice env (.rtlPostMailboxTrace level area message arguments)).toList := by
  refine posted_step h hroom (fun status herror => ?_) (fun r hok => ?_)
  · cases htext : env.rtlStringCbVPrintfA message arguments with
    | error _ => simp only [RootPost.notice, htext]
    | ok text =>
      obtain ⟨traceLength, hentry⟩ := mailboxTraceEntry_ok (env.stackEntry run) level.toNat
        area.toNat text
      rw [htext, hentry] at herror
      exact absurd herror (by simp)
  · cases htext : env.rtlStringCbVPrintfA message arguments with
    | error status =>
      rw [htext] at hok
      exact absurd hok (by simp [mailboxTraceEntry])
    | ok text =>
      rw [htext] at hok
      simp only [RootPost.notice, htext]
      exact traceEntry_notice hok

/-- A message always fits in a record. -/
theorem mailboxNotificationEntry_ok (entry : MailboxRecord) (message : DsNotificationMessage) :
    ∃ r, mailboxNotificationEntry entry message.bytes = .ok r := by
  unfold mailboxNotificationEntry
  rw [dif_neg (by rw [message.length_eq]; decide)]
  exact ⟨_, rfl⟩

/-- A report. -/
theorem posted_report (h : MailboxInv poolSize run pending)
    (hroom : (pending.length + 1) * sizeofMailboxRecord < poolSize) {type : DsNotificationType}
    {report : TscReport} (hcode : report.code.length = siblingDistanceLimit.toNat)
    (hpost : rootPost env run (.tdMessageNotify type report) = some run') :
    ∃ new, new.length ≤ 1 ∧
      Posted poolSize run run' pending new
        (RootPost.notice env (.tdMessageNotify type report)).toList := by
  obtain ⟨message, hmessage, hrest⟩ := Option.bind_eq_some_iff.mp hpost
  obtain ⟨r, hentry⟩ := mailboxNotificationEntry_ok (env.stackEntry run) message
  have hstatus : (rtlPostMailboxNotification run.mailbox (env.stackEntry run) message.bytes).1
      = statusSuccess := by
    rw [rtlPostMailboxNotification, hentry]
    exact h.ring.write_status r.bytes
  simp only [hstatus, ntSuccess_statusSuccess, if_true] at hrest
  obtain rfl := Option.some.inj hrest
  refine posted_step h hroom (fun status herror => ?_) (fun r' hok => ?_)
  · exact absurd (hentry.symm.trans herror) (by simp)
  · exact notificationEntry_notice hcode hmessage hok

/-- The code of the report fills its field. -/
def RootPost.WellFormed : RootPost → Prop
  | .rtlPostMailboxTrace _ _ _ _ => True
  | .tdMessageNotify _ report => report.code.length = siblingDistanceLimit.toNat

/-- One call. -/
theorem posted_rootPost (h : MailboxInv poolSize run pending)
    (hroom : (pending.length + 1) * sizeofMailboxRecord < poolSize) {post : RootPost}
    (hwell : post.WellFormed) (hpost : rootPost env run post = some run') :
    ∃ new, new.length ≤ 1 ∧ Posted poolSize run run' pending new (post.notice env).toList := by
  cases post with
  | rtlPostMailboxTrace level area message arguments =>
    obtain rfl := Option.some.inj hpost
    exact posted_trace h hroom level area message arguments
  | tdMessageNotify type report => exact posted_report h hroom hwell hpost

/-- **All calls.** -/
theorem posted_all {posts : List RootPost} (hwell : ∀ post ∈ posts, post.WellFormed)
    (h : MailboxInv poolSize run pending)
    (hroom : (pending.length + posts.length) * sizeofMailboxRecord < poolSize)
    (hposts : posts.foldlM (rootPost env) run = some run') :
    ∃ new, Posted poolSize run run' pending new (posts.filterMap (RootPost.notice env)) := by
  induction posts generalizing run pending with
  | nil =>
    obtain rfl := Option.some.inj hposts
    exact ⟨[], by rwa [List.append_nil], rfl, (List.append_nil _).symm, rfl⟩
  | cons post posts ih =>
    rw [List.foldlM_cons] at hposts
    obtain ⟨next, hnext, hrest⟩ := Option.bind_eq_some_iff.mp hposts
    rw [List.length_cons] at hroom
    obtain ⟨first, hone, hfirst⟩ := posted_rootPost h
      (Nat.lt_of_le_of_lt (Nat.mul_le_mul_right _ (by omega)) hroom)
      (hwell post List.mem_cons_self) hnext
    obtain ⟨others, hothers⟩ := ih (fun post' hpost' => hwell post' (List.mem_cons_of_mem _ hpost'))
      hfirst.inv (Nat.lt_of_le_of_lt (Nat.mul_le_mul_right _ (by
        rw [List.length_append]
        omega)) hroom) hrest
    refine ⟨first ++ others, ?_, hothers.retrieved.trans hfirst.retrieved, ?_, ?_⟩
    · rw [← List.append_assoc]
      exact hothers.inv
    · rw [hothers.posted, hfirst.posted, List.append_assoc]
    · rw [recordNotices_append, hfirst.notices, hothers.notices, ← List.map_append]
      cases hnotice : post.notice env with
      | none => rw [List.filterMap_cons_none hnotice, Option.toList_none, List.nil_append]
      | some notice => rw [List.filterMap_cons_some hnotice, Option.toList_some,
          List.singleton_append]

end Posting

/-! ## Every run -/

/-- The call is the one a dispatch was recorded for. -/
def WorkerCall.For (call : WorkerCall) (record : DispatchRecord) : Prop :=
  ∃ processId threadId, call.action = .pmExcludeThread processId threadId ∧
    record.processId = lowPart processId ∧ record.thread = threadOf call.outcome threadId

/-- The mailbox holds the records of what is still to be done. -/
structure ReportInv (poolSize : Nat) (s : ReportRun ι) (pending : List MailboxRecord) : Prop where
  mailbox : MailboxInv poolSize s.mailbox pending
  wanted : recordNotices s.mailbox.posted = s.wanted.map some
  done : s.done.map WorkerCall.action = s.mailbox.retrieved.filterMap mailboxAction
  history : HistoryInv s.history
  since : ∀ record ∈ s.history.since, ∃ call ∈ s.done, call.For record

section Runs

variable {env : PostEnvironment} {poolSize : Nat} {s s' : ReportRun ι}
  {pending : List MailboxRecord}

/-- The notices of the calls that were made. -/
theorem ReportInv.done_notices (h : ReportInv poolSize s pending) :
    s.done.map (fun call => call.action.notice) = recordNotices s.mailbox.retrieved := by
  unfold recordNotices
  rw [← h.done, List.map_map]
  rfl

/-- **What the invariant is for.** -/
theorem ReportInv.carriedOut (h : ReportInv poolSize s pending) : CarriedOut s := by
  have hwanted : s.wanted.map some
      = s.done.map (fun call => call.action.notice) ++ recordNotices pending := by
    rw [← h.wanted, h.mailbox.posted_eq, recordNotices_append, h.done_notices]
  refine ⟨⟨recordNotices pending, hwanted.symm⟩, fun hempty => ?_⟩
  rw [hwanted, h.mailbox.empty_iff.mp hempty]
  exact (List.append_nil _).symm

/-- Every posting call is well formed. -/
theorem ReportRun.posts_wellFormed (s : ReportRun ι) (op : ReportOp ι) :
    ∀ post ∈ s.posts op, post.WellFormed := by
  have htrim : ∀ processId threadId newCr4, ∀ post ∈ trimPosts processId threadId newCr4,
      post.WellFormed := by
    intro processId threadId newCr4 post hpost
    obtain ⟨cr4, -, rfl⟩ := List.mem_map.mp hpost
    trivial
  intro post hpost
  cases op with
  | tscEvent processor event newCr4 =>
    simp only [ReportRun.posts] at hpost
    split at hpost
    next outcome houtcome =>
      obtain ⟨effect, heffect, hmem⟩ := List.mem_flatMap.mp hpost
      cases effect with
      | hvmTrimTsdForQuantum => exact htrim _ _ _ post hmem
      | rtlPostMailboxTrace message arguments =>
        obtain rfl := List.mem_singleton.mp hmem
        trivial
      | tdMessageNotify type report =>
        obtain rfl := List.mem_singleton.mp hmem
        exact tdProcessTscEvent_report houtcome heffect
    next => exact absurd hpost (by simp)
  | msrWriteFsBase processId threadId value newCr4 =>
    rcases List.mem_cons.mp hpost with rfl | hmem
    · trivial
    · exact htrim _ _ _ post hmem
  | dispatch | create | delete => exact absurd hpost List.not_mem_nil

/-- Posting keeps the invariant. -/
theorem ReportInv.post (h : ReportInv poolSize s pending) {posts : List RootPost}
    (hwell : ∀ post ∈ posts, post.WellFormed)
    (hroom : (pending.length + posts.length) * sizeofMailboxRecord < poolSize)
    (hpost : s.post env posts = some s') : ∃ pending', ReportInv poolSize s' pending' := by
  obtain ⟨mailbox, hposts, hs'⟩ := Option.bind_eq_some_iff.mp hpost
  obtain rfl := Option.some.inj hs'
  obtain ⟨new, hnew⟩ := posted_all hwell h.mailbox hroom hposts
  refine ⟨pending ++ new, hnew.inv, ?_, ?_, h.history, h.since⟩
  · show recordNotices mailbox.posted = _
    rw [hnew.posted, recordNotices_append, h.wanted, hnew.notices, List.map_append]
  · show _ = mailbox.retrieved.filterMap mailboxAction
    rw [hnew.retrieved, h.done]

/-- An event keeps the books. -/
theorem historyStep_inv {history history' : History} {event : PmEvent}
    (h : HistoryInv history) (hstep : historyStep history event = some history') :
    HistoryInv history' := by
  obtain ⟨next, hnext, hinv⟩ := h.step event
  rwa [Option.some.inj (hstep.symm.trans hnext)]

/-- Creating and deleting an entry records no dispatch. -/
theorem historyStep_create_since {history history' : History} {processId : UInt64}
    {outcome : CreationOutcome}
    (hstep : historyStep history (.create processId outcome) = some history') :
    ∀ record ∈ history'.since, record ∈ history.since := by
  obtain ⟨state, -, hnext⟩ := Option.bind_eq_some_iff.mp hstep
  obtain rfl := Option.some.inj hnext
  intro record hrecord
  simp only at hrecord
  split at hrecord
  next => exact (mem_since.mp hrecord).1
  next => exact hrecord

theorem historyStep_delete_since {history history' : History} {processId : UInt64}
    (hstep : historyStep history (.delete processId) = some history') :
    ∀ record ∈ history'.since, record ∈ history.since := by
  obtain ⟨state, -, hnext⟩ := Option.bind_eq_some_iff.mp hstep
  obtain rfl := Option.some.inj hnext
  exact fun record hrecord => (mem_since.mp hrecord).1

/-- A call of the worker. -/
theorem ReportRun.call_eq {outcome : ExclusionOutcome} {action : WorkerAction}
    (hcall : s.call outcome action = some s') (h : HistoryInv s.history) :
    ∃ history, HistoryInv history ∧
      (∀ record ∈ history.since,
        record ∈ s.history.since ∨ (⟨action, outcome⟩ : WorkerCall).For record) ∧
      { s with
        history := history
        done := s.done ++ [⟨action, outcome⟩] } = s' := by
  unfold ReportRun.call at hcall
  cases action with
  | pmExcludeThread processId threadId =>
    obtain ⟨history, hstep, hs'⟩ := Option.bind_eq_some_iff.mp hcall
    refine ⟨history, historyStep_inv h hstep, fun record hrecord => ?_, Option.some.inj hs'⟩
    obtain ⟨⟨status, state⟩, -, hnext⟩ := Option.bind_eq_some_iff.mp hstep
    obtain rfl := Option.some.inj hnext
    rcases List.mem_cons.mp hrecord with rfl | hold
    · exact Or.inr ⟨processId, threadId, rfl, rfl, rfl⟩
    · exact Or.inl hold
  | traceEvents | dsSendNotificationMessage | unrecognized =>
    exact ⟨s.history, h, fun record hrecord => Or.inl hrecord, Option.some.inj hcall⟩

/-- The worker retrieves the oldest record and makes the call it is for. -/
theorem ReportInv.dispatch [DecidableEq ι] (h : ReportInv poolSize s pending)
    {entry : MailboxRecord} {outcome : ExclusionOutcome}
    (hstep : reportStep env s (.dispatch entry outcome) = some s') :
    ∃ pending', ReportInv poolSize s' pending' := by
  unfold reportStep at hstep
  simp only at hstep
  split at hstep
  next => exact absurd hstep (by simp)
  next hsome =>
    cases hpending : pending with
    | nil => exact absurd (h.mailbox.empty_iff.mpr hpending) hsome
    | cons r rs =>
      subst hpending
      have hstatus : (rtlRetrieveMailboxData s.mailbox.mailbox entry).1 = statusSuccess :=
        h.mailbox.ring.read_status _
      obtain ⟨hrecord, -⟩ := rtlRetrieveMailboxData_eq h.mailbox.ring entry
      have hmailbox := h.mailbox.retrieve_cons entry
      have hretrieved : (s.mailbox.step (.retrieve entry)).retrieved
          = s.mailbox.retrieved ++ [r] := by
        simp only [MailboxRun.step, if_neg hsome, hrecord]
      have hposted : (s.mailbox.step (.retrieve entry)).posted = s.mailbox.posted := by
        simp only [MailboxRun.step, if_neg hsome]
      rw [hstatus, ntSuccess_statusSuccess, if_neg (by simp), hrecord] at hstep
      split at hstep
      next hnone =>
        obtain rfl := Option.some.inj hstep
        refine ⟨rs, hmailbox, ?_, ?_, h.history, h.since⟩
        · show recordNotices (s.mailbox.step (.retrieve entry)).posted = _
          rw [hposted, h.wanted]
        · show _ = (s.mailbox.step (.retrieve entry)).retrieved.filterMap mailboxAction
          rw [hretrieved, List.filterMap_append, List.filterMap_cons_none hnone, List.filterMap_nil,
            List.append_nil, h.done]
      next action haction =>
        obtain ⟨history, hhistory, hsince, rfl⟩ := ReportRun.call_eq hstep h.history
        refine ⟨rs, hmailbox, ?_, ?_, hhistory, fun record hrecord => ?_⟩
        · show recordNotices (s.mailbox.step (.retrieve entry)).posted = _
          rw [hposted, h.wanted]
        · show (s.done ++ [(⟨action, outcome⟩ : WorkerCall)]).map WorkerCall.action
            = (s.mailbox.step (.retrieve entry)).retrieved.filterMap mailboxAction
          rw [hretrieved, List.filterMap_append, List.filterMap_cons_some haction,
            List.filterMap_nil, List.map_append, h.done]
          rfl
        · rcases hsince record hrecord with hold | hnew
          · obtain ⟨call, hcall, hfor⟩ := h.since record hold
            exact ⟨call, List.mem_append_left _ hcall, hfor⟩
          · exact ⟨_, List.mem_append_right _ (List.mem_singleton_self _), hnew⟩

/-- **One operation.** -/
theorem ReportInv.step [DecidableEq ι] (h : ReportInv poolSize s pending) {op : ReportOp ι}
    (hroomy : Roomy s op) (hstep : reportStep env s op = some s') :
    ∃ pending', ReportInv poolSize s' pending' := by
  have hroom : (pending.length + (s.posts op).length) * sizeofMailboxRecord < poolSize := by
    have havail : (rtlRingBufferGetAvailBytes s.mailbox.mailbox.ringBuffer).2
        = pending.length * sizeofMailboxRecord := by
      rw [congrArg Prod.snd h.mailbox.ring.reports, recordBytes_length]
    unfold Roomy at hroomy
    rwa [havail, h.mailbox.size_eq, ← Nat.add_mul] at hroomy
  cases op with
  | tscEvent processor event newCr4 =>
    obtain ⟨outcome, houtcome, hpost⟩ := Option.bind_eq_some_iff.mp hstep
    have hheads : ReportInv poolSize
        { s with heads := Function.update s.heads processor outcome.head } pending :=
      ⟨h.mailbox, h.wanted, h.done, h.history, h.since⟩
    exact hheads.post (s.posts_wellFormed _) hroom hpost
  | msrWriteFsBase processId threadId value newCr4 =>
    exact h.post (s.posts_wellFormed _) hroom hstep
  | dispatch entry outcome => exact h.dispatch hstep
  | create processId outcome =>
    obtain ⟨history, hnext, hs'⟩ := Option.bind_eq_some_iff.mp hstep
    obtain rfl := Option.some.inj hs'
    exact ⟨pending, h.mailbox, h.wanted, h.done, historyStep_inv h.history hnext,
      fun record hrecord => h.since record (historyStep_create_since hnext record hrecord)⟩
  | delete processId =>
    obtain ⟨history, hnext, hs'⟩ := Option.bind_eq_some_iff.mp hstep
    obtain rfl := Option.some.inj hs'
    exact ⟨pending, h.mailbox, h.wanted, h.done, historyStep_inv h.history hnext,
      fun record hrecord => h.since record (historyStep_delete_since hnext record hrecord)⟩

/-- Before the first operation. -/
theorem reportInv_start (heads : ι → TscTable) (mem : Mem) (poolBuffer : Nat)
    (hpool : 1 ≤ poolSize) :
    ReportInv poolSize (ReportRun.start heads mem poolBuffer poolSize) [] :=
  ⟨mailboxRun_start_inv mem poolBuffer hpool, rfl, rfl, ⟨_, recorded_initial⟩,
    fun _ hrecord => absurd hrecord List.not_mem_nil⟩

/-- What a run keeps in which the records leave room. -/
theorem report_always [DecidableEq ι] {P : ReportRun ι → Prop} {ops : List (ReportOp ι)}
    (hP : ∀ s pending, ReportInv poolSize s pending → P s) (heads : ι → TscTable) (mem : Mem)
    (poolBuffer : Nat) (hpool : 1 ≤ poolSize)
    (hroomy : Throughout (reportStep env) Roomy (ReportRun.start heads mem poolBuffer poolSize)
      ops) :
    Always (reportStep env) P (ReportRun.start heads mem poolBuffer poolSize) ops := by
  refine @Throughout.always _ _ (reportStep env) P
    (fun s => ∃ pending, ReportInv poolSize s pending) (fun _ => True) Roomy ?_ ?_ ops _
    ⟨[], reportInv_start heads mem poolBuffer hpool⟩ (fun _ _ => trivial) hroomy
  · intro s hinv
    obtain ⟨pending, h⟩ := hinv
    exact hP s pending h
  · intro s op s' hinv _ hroom hstep
    obtain ⟨pending, h⟩ := hinv
    exact h.step hroom hstep

/-- Every message is formatted to one letter, and the stack holds zeros. -/
def plainEnvironment : PostEnvironment where
  rtlStringCbVPrintfA _ _ := .ok ⟨[87], by decide⟩
  stackEntry _ := .zero
  stackMessage _ := ⟨List.replicate sizeofNotificationMessage 0, List.length_replicate⟩

/-- A table in which the next read of thread 8 of process 4 is judged. -/
def nearlyJudged : TscTable :=
  TscTable.zero.set 0 ⟨⟨0x1000, 5, 255⟩, ⟨0x1010, 9, 256⟩, 0, 4, 0x400000008⟩

/-- The read is harmless, which the worker is told, and a write of IA32_FS_BASE follows. -/
def harmlessRead : List (ReportOp Unit) :=
  [.create 4 createdOutcome, .tscEvent () (readTsc 0x1000 5) none,
    .dispatch .zero foundThread, .msrWriteFsBase 4 8 0x7FFDE000 none,
    .dispatch .zero foundThread]

end Runs

end DeepShield.Td
