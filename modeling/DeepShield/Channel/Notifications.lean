import DeepShield.Channel.Buckets
import DeepShield.Channel.LifeCycle
import DeepShield.Lib.Simulation
import DeepShield.Os.NtStatus
import DeepShield.Td.Notification

/-!
# Notifications and their answers

A bucket of the channel is a piece of memory that the driver and its helper in user mode both
map, and a pair of events. `DsSendNotificationMessage` takes a bucket, writes its message into
it field by field, sets the HighEvent, waits for the LowEvent, reads the action from the
message and gives the bucket back. The helper takes the HighEvent, reads the message, writes an
action into it and sets the LowEvent. When the channel is closed, `DsDestroyChannel` writes a
terminate message into every bucket and sets all HighEvents.

Nothing but this order keeps the parties apart: they share memory that has no lock. Here every
access to shared data is one step, any number of senders run beside the helper and the thread
that closes the channel, and what the helper reads is read from the bytes of the bucket. The
helper is not part of the driver; it does here what the events are for, in all buckets at once.
There is one channel: the `Channel` that a sender passes to `DsSendNotificationMessage`, which is
what it read from `gChannel` before, is taken to be this one. (That it may be NULL or another
one by then is what `Senders` is about.)

What it should be is `notificationService`, where a call is posted with the next number, taken,
and answered, and the caller gets this answer. `Delivery` proves that nothing else is seen of
the channel.
-/

namespace DeepShield.Channel

open DeepShield.Lib DeepShield.Os DeepShield.Td

/-! ## The memory of a bucket -/

/-- `DS_BUCKET_DATA_SIZE`. -/
def dsBucketDataSize : Nat := 1008

/-- `(PDS_NOTIFICATION_MESSAGE)Bucket->Data`. -/
def bucketMessage : Field dsBucketDataSize sizeofNotificationMessage := ⟨0, by decide⟩

/-- `Message->UniqueId`. -/
def bucketUniqueId : Field dsBucketDataSize 8 := ⟨0, by decide⟩

def bucketControlFlags : Field dsBucketDataSize 4 :=
  bucketMessage.inside DsNotificationMessage.controlFlags

def bucketMessageType : Field dsBucketDataSize 4 :=
  bucketMessage.inside DsNotificationMessage.messageType

def bucketProcessId : Field dsBucketDataSize 8 :=
  bucketMessage.inside DsNotificationMessage.processId

def bucketThreadId : Field dsBucketDataSize 8 :=
  bucketMessage.inside DsNotificationMessage.threadId

def bucketType : Field dsBucketDataSize 4 := bucketMessage.inside DsNotificationMessage.type

/-- `Message->Action`. -/
def bucketAction : Field dsBucketDataSize 4 := ⟨36, by decide⟩

def bucketTsc : Field dsBucketDataSize sizeofTscInformation :=
  bucketMessage.inside DsNotificationMessage.dataTsc

/-- `((PDS_TERMINATE_MESSAGE)Bucket->Data)->Reason`. -/
def bucketReason : Field dsBucketDataSize 4 := ⟨16, by decide⟩

/-- `TerminateMessage`. -/
def terminateMessage : UInt32 := 3

/-- The arguments of `DsSendNotificationMessage`, as the worker passes them: the data is a
`DS_TSC_INFORMATION`. -/
structure NotificationCall where
  processId : UInt64
  threadId : UInt64
  type : UInt32
  data : DsTscInformation
deriving DecidableEq

/-- The stores that make the message of a call, one after the other. -/
def messageStores (uniqueId : UInt64) (call : NotificationCall) :
    List (Record dsBucketDataSize → Record dsBucketDataSize) :=
  [(·.store64 bucketUniqueId uniqueId), (·.store32 bucketMessageType notificationMessage),
    (·.store32 bucketControlFlags 0), (·.store64 bucketProcessId call.processId),
    (·.store64 bucketThreadId call.threadId), (·.store32 bucketType call.type),
    (·.store bucketTsc call.data.bytes (Nat.le_of_eq call.data.length_eq))]

/-- `DS_TERMINATE_MESSAGE`, copied over the beginning of the data. -/
def storeTerminateMessage (reason : UInt32) (data : Record dsBucketDataSize) :
    Record dsBucketDataSize :=
  (((data.store64 bucketUniqueId 0).store32 bucketMessageType terminateMessage).store32
    bucketControlFlags 0).store32 bucketReason reason

/-- What a bucket says to its reader. -/
inductive Heard
  | notification (uniqueId : UInt64) (controlFlags : UInt32) (call : NotificationCall)
  | terminate (uniqueId : UInt64) (controlFlags reason : UInt32)
  | unknown (messageType : UInt32)
deriving DecidableEq

/-- Reading it. -/
def readMessage (data : Record dsBucketDataSize) : Heard :=
  let messageType := data.load32 bucketMessageType
  if messageType = notificationMessage then
    .notification (data.load64 bucketUniqueId) (data.load32 bucketControlFlags)
      ⟨data.load64 bucketProcessId, data.load64 bucketThreadId, data.load32 bucketType,
        data.sub bucketTsc⟩
  else if messageType = terminateMessage then
    .terminate (data.load64 bucketUniqueId) (data.load32 bucketControlFlags)
      (data.load32 bucketReason)
  else .unknown messageType

section Bytes

variable {data : Record dsBucketDataSize}

/-- **The stores make the message**, over whatever was there. -/
theorem readMessage_stores (uniqueId : UInt64) (call : NotificationCall) :
    readMessage ((messageStores uniqueId call).foldl (fun data store => store data) data)
      = .notification uniqueId 0 call := by
  have htsc : ∀ r : Record dsBucketDataSize,
      (r.store bucketTsc call.data.bytes (Nat.le_of_eq call.data.length_eq)).sub bucketTsc
        = call.data := fun r => Record.ext (Record.load_store call.data.length_eq)
  unfold readMessage messageStores
  simp (disch := decide) only [List.foldl_cons, List.foldl_nil, htsc, Record.load64_store,
    Record.load32_store, Record.load32_store64, Record.load64_store32, Record.load32_store32,
    Record.load64_store64, Record.load32_store32_of_apart, Record.load64_store64_of_apart,
    if_true]

/-- An action is not part of what the helper is told. -/
theorem readMessage_storeAction (action : UInt32) :
    readMessage (data.store32 bucketAction action) = readMessage data := by
  have htsc : (data.store32 bucketAction action).sub bucketTsc = data.sub bucketTsc :=
    Record.ext (Record.load_store32 (by decide))
  unfold readMessage
  simp (disch := decide) only [htsc, Record.load64_store32, Record.load32_store32_of_apart]

/-- A terminate message is read as one. -/
theorem readMessage_terminate (reason : UInt32) :
    readMessage (storeTerminateMessage reason data) = .terminate 0 0 reason := by
  have hne : terminateMessage ≠ notificationMessage := by decide
  unfold readMessage storeTerminateMessage
  simp (disch := decide) only [Record.load32_store64, Record.load64_store32,
    Record.load32_store32, Record.load64_store64, Record.load32_store32_of_apart,
    Record.load64_store64_of_apart, hne, if_false, if_true]

end Bytes

/-! ## The parties -/

/-- A bucket: its data, its two events, and whether the helper has taken the HighEvent and not
answered it. -/
structure Bucket where
  data : Record dsBucketDataSize
  lowEvent : Bool
  highEvent : Bool
  serving : Bool
deriving DecidableEq

/-- Where a sender is in `DsSendNotificationMessage`: outside, called, past the flag, in
`DsAcquireChannelBucket`, with a bucket, filling it in with the number it got, waiting, woken,
with the action, and without the bucket again. -/
inductive Notifier
  | idle
  | called (call : NotificationCall)
  | tested (call : NotificationCall)
  | scanning (call : NotificationCall)
  | found (call : NotificationCall) (freeIndex : Nat)
  | taken (call : NotificationCall) (bucket : Nat)
  | filling (call : NotificationCall) (bucket : Nat) (uniqueId : UInt64) (stores : Nat)
  | waiting (call : NotificationCall) (bucket : Nat) (uniqueId : UInt64)
  | woken (call : NotificationCall) (bucket : Nat)
  | answered (call : NotificationCall) (bucket : Nat) (action : UInt32)
  | leaving (call : NotificationCall) (action : Option UInt32)
deriving DecidableEq

/-- Where the thread is that took `gChannel` by its exchange and closes the channel; `filling`
and `signalling` are the loop of `DsDestroyChannel`. -/
inductive Closure
  | exchanged
  | waiting
  | released
  | completed
  | filling (idx : Nat)
  | signalling (idx : Nat)
  | acknowledging
  | destroyed
deriving DecidableEq

/-- The channel, what guards it, its senders and the thread that closes it. `assertionFailed`
is about the assertion of `DsReleaseChannelBucket`. -/
structure Notifying where
  channelSetup : Bool
  gChannelRundown : Rundown
  bucketsBitMap : BitVec 32
  assertionFailed : Bool
  uniqueId : UInt64
  buckets : Nat → Bucket
  notifiers : Nat → Notifier
  closure : Closure

/-- A channel that was set up; its memory is zero, and no event is set. -/
def Notifying.initial : Notifying where
  channelSetup := true
  gChannelRundown := exInitializeRundownProtection
  bucketsBitMap := ((1 : BitVec 32) <<< dsMaxBuckets) - 1
  assertionFailed := false
  uniqueId := 0
  buckets _ := ⟨⟨List.replicate dsBucketDataSize 0, List.length_replicate⟩, false, false, false⟩
  notifiers _ := .idle
  closure := .exchanged

/-- Sender `i` moves on. -/
def Notifying.goto (s : Notifying) (i : Nat) (notifier : Notifier) : Notifying :=
  { s with notifiers := Function.update s.notifiers i notifier }

/-- A bucket is changed. -/
def Notifying.setBucket (s : Notifying) (b : Nat) (bucket : Bucket) : Notifying :=
  { s with buckets := Function.update s.buckets b bucket }

/-- What happens: a sender is called or goes on; the helper takes a HighEvent, reads the bucket,
writes an action or sets the LowEvent; the closing thread goes on. -/
inductive NotifyAction
  | call (i : Nat) (call : NotificationCall)
  | goOn (i : Nat)
  | helperTakes (b : Nat)
  | helperReads (b : Nat)
  | helperDecides (b : Nat) (action : UInt32)
  | helperAnswers (b : Nat)
  | close
deriving DecidableEq

/-- What is seen: a call and its return, with the status and the action if there is one; what
the helper reads; and its answer, with the number in the message. -/
inductive NotifyEvent
  | called (i : Nat) (call : NotificationCall)
  | returned (i : Nat) (call : NotificationCall) (status : NtStatus) (action : Option UInt32)
  | heard (message : Heard)
  | answered (uniqueId : UInt64) (action : UInt32)
deriving DecidableEq

/-! ## Steps -/

/-- A sender goes on; none if it has to wait. -/
def notifierStep (s : Notifying) (i : Nat) : Option Notifying :=
  match s.notifiers i with
  | .idle => none
  | .called call => some (s.goto i (if s.channelSetup then .tested call else .idle))
  | .tested call =>
    match exAcquireRundownProtection s.gChannelRundown with
    | none => some (s.goto i .idle)
    | some rundown => some ({ s with gChannelRundown := rundown }.goto i (.scanning call))
  -- DsAcquireChannelBucket
  | .scanning call =>
    match rtlFindMostSignificantBit (s.bucketsBitMap.signExtend 64) with
    | none => some (s.goto i (.leaving call none))
    | some freeIndex => some (s.goto i (.found call freeIndex))
  | .found call freeIndex =>
    let reset := interlockedBitTestAndReset s.bucketsBitMap freeIndex
    some ({ s with bucketsBitMap := reset.2 }.goto i
      (if reset.1 then .taken call freeIndex else .scanning call))
  -- InterlockedIncrement64
  | .taken call bucket =>
    some ({ s with uniqueId := s.uniqueId + 1 }.goto i (.filling call bucket (s.uniqueId + 1) 0))
  | .filling call bucket uniqueId stores =>
    let x := s.buckets bucket
    match (messageStores uniqueId call)[stores]? with
    | some store =>
      some ((s.setBucket bucket { x with data := store x.data }).goto i
        (.filling call bucket uniqueId (stores + 1)))
    | none =>
      some ((s.setBucket bucket { x with highEvent := true }).goto i
        (.waiting call bucket uniqueId))
  -- KeWaitForSingleObject, without a timeout; the event resets itself
  | .waiting call bucket _ =>
    let x := s.buckets bucket
    if x.lowEvent then
      some ((s.setBucket bucket { x with lowEvent := false }).goto i (.woken call bucket))
    else none
  | .woken call bucket =>
    some (s.goto i (.answered call bucket ((s.buckets bucket).data.load32 bucketAction)))
  -- DsReleaseChannelBucket
  | .answered call bucket action =>
    let set := interlockedBitTestAndSet s.bucketsBitMap bucket
    some ({ s with
      bucketsBitMap := set.2
      assertionFailed := s.assertionFailed || set.1 }.goto i (.leaving call (some action)))
  | .leaving _ _ =>
    some ({ s with
      gChannelRundown := exReleaseRundownProtection s.gChannelRundown }.goto i .idle)

/-- What is seen of it. -/
def notifierShows (s : Notifying) (i : Nat) : Option NotifyEvent :=
  match s.notifiers i with
  | .called call =>
    if s.channelSetup then none else some (.returned i call statusNotSupported none)
  | .tested call =>
    if s.gChannelRundown.active then some (.returned i call statusDeletePending none) else none
  | .leaving call none => some (.returned i call statusInsufficientResources none)
  | .leaving call (some action) => some (.returned i call statusSuccess (some action))
  | _ => none

/-- The closing thread goes on; `reason` is the argument of `DsDestroyChannel`. -/
def closureStep (reason : UInt32) (s : Notifying) : Option Notifying :=
  match s.closure with
  -- ExWaitForRundownProtectionRelease
  | .exchanged =>
    some { s with
      gChannelRundown := { s.gChannelRundown with active := true }
      closure := .waiting }
  | .waiting =>
    if s.gChannelRundown.references = 0 then some { s with closure := .released } else none
  | .released =>
    some { s with
      gChannelRundown := exRundownCompleted
      closure := .completed }
  | .completed =>
    some { s with
      channelSetup := false
      closure := .filling 0 }
  -- DsDestroyChannel
  | .filling idx =>
    if idx < dsMaxBuckets then
      let x := s.buckets idx
      some { s.setBucket idx { x with data := storeTerminateMessage reason x.data } with
        closure := .signalling idx }
    else some { s with closure := .acknowledging }
  | .signalling idx =>
    some { s.setBucket idx { s.buckets idx with highEvent := true } with
      closure := .filling (idx + 1) }
  -- three seconds at most
  | .acknowledging => some { s with closure := .destroyed }
  | .destroyed => none

/-- What the helper answers; a terminate message is only acknowledged. -/
def answerShows (data : Record dsBucketDataSize) : Option NotifyEvent :=
  match readMessage data with
  | .notification uniqueId _ _ => some (.answered uniqueId (data.load32 bucketAction))
  | .terminate _ _ _ | .unknown _ => none

/-- The channel. Once it is destroyed, its memory is no longer mapped. -/
def notifySystem (reason : UInt32) : System Notifying NotifyAction NotifyEvent where
  step s
    | .call i call => if s.notifiers i = .idle then some (s.goto i (.called call)) else none
    | .goOn i => notifierStep s i
    | .helperTakes b =>
      let x := s.buckets b
      if x.highEvent ∧ s.closure ≠ .destroyed then
        some (s.setBucket b { x with
          highEvent := false
          serving := true })
      else none
    | .helperReads b =>
      if (s.buckets b).serving ∧ s.closure ≠ .destroyed then some s else none
    | .helperDecides b action =>
      let x := s.buckets b
      if x.serving ∧ s.closure ≠ .destroyed then
        some (s.setBucket b { x with data := x.data.store32 bucketAction action })
      else none
    | .helperAnswers b =>
      let x := s.buckets b
      if x.serving ∧ s.closure ≠ .destroyed then
        some (s.setBucket b { x with
          serving := false
          lowEvent := true })
      else none
    | .close => closureStep reason s
  shows s
    | .call i call => some (.called i call)
    | .goOn i => notifierShows s i
    | .helperReads b => some (.heard (readMessage (s.buckets b).data))
    | .helperAnswers b => answerShows (s.buckets b).data
    | .helperTakes _ | .helperDecides _ _ | .close => none

/-! ## What it should be -/

/-- Where a call of the service is: asked, posted with its number, taken, or done with the
answer. -/
inductive ServicePlace
  | idle
  | asked (call : NotificationCall)
  | posted (call : NotificationCall) (uniqueId : UInt64)
  | served (call : NotificationCall) (uniqueId : UInt64)
  | done (call : NotificationCall) (action : UInt32)
deriving DecidableEq

/-- A service that answers notifications, until it is shut. -/
structure Service where
  shut : Bool
  uniqueId : UInt64
  places : Nat → ServicePlace

/-- Open, with nothing under way. -/
def Service.initial : Service := ⟨false, 0, fun _ => .idle⟩

inductive ServiceAction
  | call (i : Nat) (call : NotificationCall)
  | refuse (i : Nat) (status : NtStatus)
  | post (i : Nat)
  | take (i : Nat)
  | hear (i : Nat)
  | answer (i : Nat) (action : UInt32)
  | finish (i : Nat)
  | shutDown
  | terminate
deriving DecidableEq

/-- Posted, and its answer not yet with the caller. -/
def ServicePlace.inProgress : ServicePlace → Prop
  | idle | asked _ => False
  | posted _ _ | served _ _ | done _ _ => True

/-- Call `i` moves on. -/
def Service.goto (s : Service) (i : Nat) (place : ServicePlace) : Service :=
  { s with places := Function.update s.places i place }

open Classical in
/-- The service. A call that was asked is posted with the next number unless the service is
shut, or refused; it is heard as it was asked, with this number, from when it is taken to when
it is answered; and it ends with its answer. The service is shut when no call is in progress,
and only then tells its helper to terminate. -/
noncomputable def notificationService (reason : UInt32) :
    System Service ServiceAction NotifyEvent where
  step s
    | .call i call => if s.places i = .idle then some (s.goto i (.asked call)) else none
    | .refuse i status =>
      match s.places i with
      | .asked _ => if ntSuccess status then none else some (s.goto i .idle)
      | _ => none
    | .post i =>
      match s.places i with
      | .asked call =>
        if s.shut then none
        else some ({ s with uniqueId := s.uniqueId + 1 }.goto i (.posted call (s.uniqueId + 1)))
      | _ => none
    | .take i =>
      match s.places i with
      | .posted call uniqueId => some (s.goto i (.served call uniqueId))
      | _ => none
    | .hear i =>
      match s.places i with
      | .served _ _ => some s
      | _ => none
    | .answer i action =>
      match s.places i with
      | .served call _ => some (s.goto i (.done call action))
      | _ => none
    | .finish i =>
      match s.places i with
      | .done _ _ => some (s.goto i .idle)
      | _ => none
    | .shutDown =>
      if ∀ i, ¬ (s.places i).inProgress then some { s with shut := true } else none
    | .terminate => if s.shut then some s else none
  shows s
    | .call i call => some (.called i call)
    | .refuse i status =>
      match s.places i with
      | .asked call => some (.returned i call status none)
      | _ => none
    | .hear i =>
      match s.places i with
      | .served call uniqueId => some (.heard (.notification uniqueId 0 call))
      | _ => none
    | .answer i action =>
      match s.places i with
      | .served _ uniqueId => some (.answered uniqueId action)
      | _ => none
    | .finish i =>
      match s.places i with
      | .done call action => some (.returned i call statusSuccess (some action))
      | _ => none
    | .terminate => some (.heard (.terminate 0 0 reason))
    | .post _ | .take _ | .shutDown => none

end DeepShield.Channel
