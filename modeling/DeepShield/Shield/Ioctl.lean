import DeepShield.Channel.Rollback
import DeepShield.Shield.Control

/-!
# Completing the requests

`DriverDeviceControl` hands a request to the handler of its code, and completes it with the
status that the handler returns. A handler checks the lengths of the buffer, works in it, and
says in `IoStatus.Information` how many bytes are copied back to the caller.

Three things go wrong. A code without a handler keeps the `STATUS_SUCCESS` that `Status`
starts with. Four of the handlers compare the size of their data to the longer of the two
lengths and copy it back whatever the output length is. And three may not return at all: a
channel that cannot be created is destroyed as if it were complete, a channel that is torn
down must be let go by its users first, and a self-test that finds what it looks for reads
the VMCS. `completesWell_iff` says that there is nothing else.
-/

namespace DeepShield.Shield

open DeepShield.Channel DeepShield.Lib DeepShield.Os DeepShield.Vmx

/-! ## Codes and data -/

/-- `CTL_CODE`. -/
def ctlCode (deviceType function method access : UInt32) : UInt32 :=
  deviceType <<< 16 ||| access <<< 14 ||| function <<< 2 ||| method

def methodBuffered : UInt32 := 0

def fileAnyAccess : UInt32 := 0

def fileReadAccess : UInt32 := 1

def fileWriteAccess : UInt32 := 2

/-- `IOCTL_SHIELD_TYPE`. -/
def ioctlShieldType : UInt32 := 0xB080

/-- `IOCTL_SHIELD_STATUS`. -/
def ioctlShieldStatus : UInt32 := ctlCode ioctlShieldType 0x0A00 methodBuffered fileReadAccess

/-- `IOCTL_SHIELD_CONTROL`. -/
def ioctlShieldControl : UInt32 :=
  ctlCode ioctlShieldType 0x0A01 methodBuffered (fileReadAccess ||| fileWriteAccess)

/-- `IOCTL_SHIELD_CHANNEL_SETUP`. -/
def ioctlShieldChannelSetup : UInt32 :=
  ctlCode ioctlShieldType 0x0A100 methodBuffered (fileReadAccess ||| fileWriteAccess)

/-- `IOCTL_SHIELD_CHANNEL_TEARDOWN`. -/
def ioctlShieldChannelTeardown : UInt32 :=
  ctlCode ioctlShieldType 0x0A101 methodBuffered (fileReadAccess ||| fileWriteAccess)

/-- `IOCTL_SHIELD_GET_VMFEATURE`. -/
def ioctlShieldGetVmFeature : UInt32 :=
  ctlCode ioctlShieldType 0x0A201 methodBuffered (fileReadAccess ||| fileWriteAccess)

/-- `IOCTL_TEST_RDTSC`. -/
def ioctlTestRdtsc : UInt32 := ctlCode ioctlShieldType 0x0A20 methodBuffered fileAnyAccess

/-- The codes with a handler. -/
def implemented : List UInt32 :=
  [ioctlShieldStatus, ioctlShieldControl, ioctlShieldChannelSetup, ioctlShieldChannelTeardown,
    ioctlShieldGetVmFeature, ioctlTestRdtsc]

/-- `sizeof( SHIELD_STATUS_DATA )`. -/
def shieldStatusDataSize : UInt32 := 4

/-- `sizeof( SHIELD_CHANNEL_DATA )`. -/
def shieldChannelDataSize : UInt32 := 24

/-- `sizeof( SHIELD_CHANNEL_ID )`. -/
def shieldChannelIdSize : UInt32 := 4

/-- `VM_STATE_SIZE`. -/
def vmStateSize : Nat := 512

/-- `sizeof( SHIELD_VM_FEATURE )`. -/
def shieldVmFeatureSize : UInt32 := 520

/-- `sizeof( TEST_RDTSC_DETECTION )`. -/
def testRdtscDetectionSize : UInt32 := 8

/-- `SHIELD_STATUS_MODE`. -/
def shieldStopped : UInt32 := 1

/-- `SHIELD_STATUS_MODE`. -/
def shieldRunning : UInt32 := 2

/-- `TestErrorRequestInvalid`. -/
def testErrorRequestInvalid : UInt32 := 2

/-- What a handler writes to the buffer. -/
inductive ReplyData
  | shieldStatus (mode : UInt32)
  | shieldControl (result : UInt32)
  | shieldChannel (channelId : UInt32) (channelAddress : UInt64) (channelSize : UInt32)
  | shieldVmFeature (version bits : UInt32) (vmStateBlob : List UInt8)
  | testRdtsc (result : UInt32)

/-! ## The driver -/

/-- What requests read of `DS_CHANNEL`. -/
structure SharedChannel where
  channelId : UInt32
  userVa : UInt64
  userSize : UInt32

/-- `DS_VMX_FEATURE`, no larger than what it is copied to. -/
structure VmxFeature where
  version : UInt32
  bits : UInt32
  vmState : List UInt8
  vmState_le : vmState.length ≤ vmStateSize

/-- `DSH_VMX_ABSENT`. -/
def dshVmxAbsent (feature : VmxFeature) : Bool := feature.bits ≠ 0

/-- What requests find and leave; `channelSetup` is `DSH_GFL_CHANNEL_SETUP`. -/
structure Device where
  shield : ShieldState
  gVmxFeature : VmxFeature
  channelSetup : Bool
  gChannel : Option SharedChannel
  firstUse : Bool

/-- A request, with the first field of its buffer. No handler reads more of it. -/
structure DeviceRequest where
  ioControlCode : UInt32
  inputLength : UInt32
  outputLength : UInt32
  field : UInt32

/-- How the calls of the handlers turn out. A self-test that does not return has no
result. -/
structure DeviceOutcome where
  smp : Smp
  shield : ShieldOutcome
  channel : ChannelCalls
  channel_bucketCount : channel.bucketCount = dsMaxBuckets
  channel_notPending : ∀ idx event, channel.obReferenceObjectByHandle idx event ≠ statusPending
  created : SharedChannel
  rundownReleased : Bool
  testBasicTimeStampDetection : Option UInt32
  testBasicTimeStampDetectionWithSkip : Option UInt32
  testBasicTimeStampDetectionReuse : Option UInt32
  testRdtscInstructionBoundaries : Option UInt32

/-- What a handler returns, `IoStatus.Information`, and what it wrote. -/
structure DeviceReply where
  status : NtStatus
  information : UInt32
  data : Option ReplyData

/-- Nothing but a status. -/
def DeviceReply.fail (status : NtStatus) : DeviceReply := ⟨status, 0, none⟩

/-! ## The handlers -/

/-- The check of the lengths, as it is made by all handlers but one. -/
def isBufferTooSmall (request : DeviceRequest) (size : UInt32) : Bool :=
  max request.inputLength request.outputLength < size

/-- `DsCltGetShieldState`. -/
def dsCltGetShieldState (request : DeviceRequest) (s : Device) : Option (DeviceReply × Device) :=
  if isBufferTooSmall request shieldStatusDataSize then some (.fail statusBufferTooSmall, s)
  else
    let mode := if dsIsShieldRunning s.shield then shieldRunning else shieldStopped
    some (⟨statusSuccess, shieldStatusDataSize, some (.shieldStatus mode)⟩, s)

/-- `DsCtlShieldControl`, on the whole driver. -/
def dsCtlShieldControlRequest (o : DeviceOutcome) (request : DeviceRequest) (s : Device) :
    Option (DeviceReply × Device) :=
  let (reply, shield) := dsCtlShieldControl o.smp (dshVmxAbsent s.gVmxFeature) o.shield
    ⟨request.inputLength, request.outputLength, request.field⟩ s.shield
  some (⟨reply.status, reply.information, reply.result.map .shieldControl⟩,
    { s with shield := shield })

/-- `DsCtlShieldChannelSetup`. It does not return if the channel is destroyed through a
pointer that is not there. -/
def dsCtlShieldChannelSetup (o : DeviceOutcome) (request : DeviceRequest) (s : Device) :
    Option (DeviceReply × Device) :=
  if request.outputLength < shieldChannelDataSize then some (.fail statusBufferTooSmall, s)
  else if s.channelSetup then some (.fail statusInvalidParameter, s)
  else
    let (status, _, ledger) := dsInitializeChannel o.channel Ledger.empty
    if ledger.misused then none
    else if ntSuccess status then
      some
        (⟨status, shieldChannelDataSize,
          some (.shieldChannel o.created.channelId o.created.userVa o.created.userSize)⟩,
        { s with
          gChannel := some o.created
          firstUse := false
          channelSetup := true })
    else some (.fail status, { s with gChannel := none })

/-- `DsCtlShieldChannelTeardown`. -/
def dsCtlShieldChannelTeardown (o : DeviceOutcome) (request : DeviceRequest) (s : Device) :
    Option (DeviceReply × Device) :=
  if isBufferTooSmall request shieldChannelIdSize then some (.fail statusBufferTooSmall, s)
  else if s.channelSetup = false then some (.fail statusInvalidParameter, s)
  else
    match s.gChannel with
    -- gChannel->ChannelId
    | none => none
    | some channel =>
      if request.field ≠ channel.channelId then some (.fail statusInvalidParameter, s)
      -- ExWaitForRundownProtectionRelease
      else if o.rundownReleased = false then none
      else
        some (⟨statusSuccess, 0, none⟩,
          { s with
            gChannel := none
            channelSetup := false })

/-- `DsCtlShieldGetVmFeature`. -/
def dsCtlShieldGetVmFeature (request : DeviceRequest) (s : Device) :
    Option (DeviceReply × Device) :=
  if isBufferTooSmall request shieldVmFeatureSize then some (.fail statusBufferTooSmall, s)
  else
    let feature := s.gVmxFeature
    let blob := feature.vmState ++ List.replicate (vmStateSize - feature.vmState.length) 0
    some (⟨statusSuccess, shieldVmFeatureSize,
      some (.shieldVmFeature feature.version feature.bits blob)⟩, s)

/-- The `switch` of `DsCtlTestRdtscDetection`, over the values of `TestRequest`. -/
def testResult (o : DeviceOutcome) (testRequest : UInt32) : Option UInt32 :=
  if testRequest = 1 then o.testBasicTimeStampDetection
  else if testRequest = 2 then o.testBasicTimeStampDetectionWithSkip
  else if testRequest = 3 then o.testBasicTimeStampDetectionReuse
  else if testRequest = 5 then o.testRdtscInstructionBoundaries
  else some testErrorRequestInvalid

/-- `DsCtlTestRdtscDetection`. -/
def dsCtlTestRdtscDetection (o : DeviceOutcome) (request : DeviceRequest) (s : Device) :
    Option (DeviceReply × Device) :=
  if isBufferTooSmall request testRdtscDetectionSize then some (.fail statusBufferTooSmall, s)
  else
    match testResult o request.field with
    | none => none
    | some result =>
      some (⟨statusSuccess, testRdtscDetectionSize, some (.testRdtsc result)⟩, s)

/-! ## The dispatch routine -/

/-- The `switch` of `DriverDeviceControl`: a code without a handler leaves `Status` as it
is. -/
def handleRequest (o : DeviceOutcome) (request : DeviceRequest) (s : Device) :
    Option (DeviceReply × Device) :=
  if request.ioControlCode = ioctlShieldStatus then dsCltGetShieldState request s
  else if request.ioControlCode = ioctlShieldControl then dsCtlShieldControlRequest o request s
  else if request.ioControlCode = ioctlShieldChannelSetup then
    dsCtlShieldChannelSetup o request s
  else if request.ioControlCode = ioctlShieldChannelTeardown then
    dsCtlShieldChannelTeardown o request s
  else if request.ioControlCode = ioctlShieldGetVmFeature then dsCtlShieldGetVmFeature request s
  else if request.ioControlCode = ioctlTestRdtsc then dsCtlTestRdtscDetection o request s
  else some (⟨statusSuccess, 0, none⟩, s)

/-- `IRP`, with the number of times it was completed. -/
structure Irp where
  completions : Nat
  status : NtStatus
  information : UInt32
  data : Option ReplyData

/-- `DriverDeviceControl`. -/
def driverDeviceControl (o : DeviceOutcome) (request : DeviceRequest) (s : Device) :
    Irp × Device :=
  match handleRequest o request s with
  | none => (⟨0, statusInvalidDeviceRequest, 0, none⟩, s)
  | some (reply, s) =>
    if statusPending ≠ reply.status then
      (⟨1, reply.status, reply.information, reply.data⟩, s)
    else (⟨0, statusInvalidDeviceRequest, reply.information, reply.data⟩, s)

/-- **The contract**: a request is completed once, with success only if its code is
implemented and no more is copied back than was asked for. -/
def CompletesWell (o : DeviceOutcome) (request : DeviceRequest) (s : Device) : Prop :=
  let irp := (driverDeviceControl o request s).1
  irp.completions = 1 ∧
    (ntSuccess irp.status = true →
      request.ioControlCode ∈ implemented ∧ irp.information ≤ request.outputLength)

/-! ## When it holds -/

/-- The input is long enough for the data, the output is not. -/
def Overruns (request : DeviceRequest) (size : UInt32) : Prop :=
  request.outputLength < size ∧ size ≤ request.inputLength

/-- `DsCtlShieldControl` succeeds with the action. -/
def ControlPerformed (o : DeviceOutcome) (action : UInt32) (s : ShieldState) : Prop :=
  action = shieldStart ∧ (dsIsShieldRunning s = true ∨ Launches o.smp o.shield.start) ∨
    action = shieldStop ∧ (dsIsShieldRunning s = false ∨ o.shield.stop = none)

/-- When the handler of an implemented code keeps the contract. -/
def HandlerKeeps (o : DeviceOutcome) (request : DeviceRequest) (s : Device) : Prop :=
  if request.ioControlCode = ioctlShieldStatus then ¬ Overruns request shieldStatusDataSize
  else if request.ioControlCode = ioctlShieldControl then
    dshVmxAbsent s.gVmxFeature = true ∨ ¬ Overruns request shieldControlDataSize ∨
      ¬ ControlPerformed o request.field s.shield
  else if request.ioControlCode = ioctlShieldChannelSetup then
    request.outputLength < shieldChannelDataSize ∨ s.channelSetup = true ∨
      o.channel.exAllocatePool = false ∨ o.channel.Succeed
  else if request.ioControlCode = ioctlShieldChannelTeardown then
    isBufferTooSmall request shieldChannelIdSize = true ∨ s.channelSetup = false ∨
      ∃ channel, s.gChannel = some channel ∧
        (request.field ≠ channel.channelId ∨ o.rundownReleased = true)
  else if request.ioControlCode = ioctlShieldGetVmFeature then
    ¬ Overruns request shieldVmFeatureSize
  else
    isBufferTooSmall request testRdtscDetectionSize = true ∨
      testResult o request.field ≠ none ∧ ¬ Overruns request testRdtscDetectionSize

section Spec

variable {o : DeviceOutcome} {request : DeviceRequest} {s s' : Device} {reply : DeviceReply}

/-- What the contract asks of a handler. -/
def Handled (request : DeviceRequest) : Option (DeviceReply × Device) → Prop
  | none => False
  | some (reply, _) =>
    reply.status ≠ statusPending ∧
      (ntSuccess reply.status = true → reply.information ≤ request.outputLength)

/-- **The dispatch routine**, for a code with a handler. -/
theorem completesWell_iff_handled (hcode : request.ioControlCode ∈ implemented) :
    CompletesWell o request s ↔ Handled request (handleRequest o request s) := by
  unfold CompletesWell driverDeviceControl
  cases handleRequest o request s with
  | none => exact iff_of_false (fun h => absurd h.1 Nat.zero_ne_one) id
  | some result =>
    obtain ⟨reply, after⟩ := result
    by_cases hpending : statusPending = reply.status
    · dsimp only
      rw [if_neg (not_not_intro hpending)]
      exact iff_of_false (fun h => absurd h.1 Nat.zero_ne_one) (fun h => h.1 hpending.symm)
    · dsimp only
      rw [if_pos hpending]
      constructor
      · intro h
        exact ⟨Ne.symm hpending, fun hsucc => (h.2 hsucc).2⟩
      · intro h
        exact ⟨rfl, fun hsucc => ⟨hcode, h.2 hsucc⟩⟩

/-- **A code without a handler** is a success. -/
theorem not_completesWell_of_unknown (hcode : request.ioControlCode ∉ implemented) :
    ¬ CompletesWell o request s := by
  have hunknown : handleRequest o request s = some (⟨statusSuccess, 0, none⟩, s) := by
    simp only [implemented, List.mem_cons, List.not_mem_nil, or_false, not_or] at hcode
    obtain ⟨hstatus, hcontrol, hsetup, hteardown, hfeature, htest⟩ := hcode
    unfold handleRequest
    rw [if_neg hstatus, if_neg hcontrol, if_neg hsetup, if_neg hteardown, if_neg hfeature,
      if_neg htest]
  unfold CompletesWell driverDeviceControl
  rw [hunknown]
  intro h
  exact hcode (h.2 ntSuccess_statusSuccess).1

/-! ### Replies -/

/-- A failure copies nothing back. -/
theorem handled_of_failure (hfail : ntSuccess reply.status = false) :
    Handled request (some (reply, s)) := by
  refine ⟨?_, fun hsucc => absurd (hfail.symm.trans hsucc) Bool.false_ne_true⟩
  intro hpending
  rw [hpending] at hfail
  exact absurd hfail.symm Bool.false_ne_true

theorem statusSuccess_ne_statusPending : statusSuccess ≠ statusPending := by decide

/-- A success copies back what it says. -/
theorem handled_success_iff {information : UInt32} {data : Option ReplyData} :
    Handled request (some (⟨statusSuccess, information, data⟩, s)) ↔
      information ≤ request.outputLength := by
  constructor
  · exact fun h => h.2 ntSuccess_statusSuccess
  · exact fun h => ⟨statusSuccess_ne_statusPending, fun _ => h⟩

theorem isBufferTooSmall_iff {size : UInt32} :
    isBufferTooSmall request size = true ↔
      request.inputLength < size ∧ request.outputLength < size := by
  unfold isBufferTooSmall
  rw [decide_eq_true_iff]
  simp only [Max.max, UInt32.lt_iff_toNat_lt]
  split
  next hle =>
    rw [UInt32.le_iff_toNat_le] at hle
    omega
  next hle =>
    rw [UInt32.le_iff_toNat_le] at hle
    omega

/-- **What is copied back** after the check fits into the output unless it overruns it. -/
theorem handled_size_iff {size : UInt32} {data : Option ReplyData}
    (hsize : isBufferTooSmall request size = false) :
    Handled request (some (⟨statusSuccess, size, data⟩, s)) ↔ ¬ Overruns request size := by
  have hlong := mt isBufferTooSmall_iff.mpr (by rw [hsize]; exact Bool.false_ne_true)
  rw [handled_success_iff]
  unfold Overruns
  rw [UInt32.lt_iff_toNat_lt, UInt32.lt_iff_toNat_lt] at hlong
  rw [UInt32.lt_iff_toNat_lt, UInt32.le_iff_toNat_le, UInt32.le_iff_toNat_le]
  omega

/-- A buffer that is too small is not overrun. -/
theorem not_overruns_of_tooSmall {size : UInt32} (hsize : isBufferTooSmall request size = true) :
    ¬ Overruns request size := by
  intro h
  exact absurd h.2 (UInt32.not_le.mpr (isBufferTooSmall_iff.mp hsize).1)

/-! ### Status and features -/

/-- A handler that checks the lengths and copies back what it checked for. -/
theorem handled_checked_iff {size : UInt32} {data : Option ReplyData} :
    Handled request
        (if isBufferTooSmall request size then some (.fail statusBufferTooSmall, s)
          else some (⟨statusSuccess, size, data⟩, s)) ↔
      ¬ Overruns request size := by
  cases hsize : isBufferTooSmall request size with
  | true =>
    exact iff_of_true (handled_of_failure ntSuccess_statusBufferTooSmall)
      (not_overruns_of_tooSmall hsize)
  | false => exact handled_size_iff hsize

theorem handled_dsCltGetShieldState :
    Handled request (dsCltGetShieldState request s) ↔ ¬ Overruns request shieldStatusDataSize :=
  handled_checked_iff

theorem handled_dsCtlShieldGetVmFeature :
    Handled request (dsCtlShieldGetVmFeature request s) ↔ ¬ Overruns request shieldVmFeatureSize :=
  handled_checked_iff

/-! ### The self-tests -/

theorem handled_dsCtlTestRdtscDetection :
    Handled request (dsCtlTestRdtscDetection o request s) ↔
      isBufferTooSmall request testRdtscDetectionSize = true ∨
        testResult o request.field ≠ none ∧ ¬ Overruns request testRdtscDetectionSize := by
  unfold dsCtlTestRdtscDetection
  cases hsize : isBufferTooSmall request testRdtscDetectionSize with
  | true =>
    exact iff_of_true (handled_of_failure ntSuccess_statusBufferTooSmall) (Or.inl rfl)
  | false =>
    rw [if_neg Bool.false_ne_true, or_iff_right Bool.false_ne_true]
    cases testResult o request.field with
    | none => exact iff_of_false id (fun h => h.1 rfl)
    | some result =>
      rw [and_iff_right (Option.some_ne_none result)]
      exact handled_size_iff hsize

/-! ### The channel -/

theorem handled_dsCtlShieldChannelSetup :
    Handled request (dsCtlShieldChannelSetup o request s) ↔
      request.outputLength < shieldChannelDataSize ∨ s.channelSetup = true ∨
        o.channel.exAllocatePool = false ∨ o.channel.Succeed := by
  unfold dsCtlShieldChannelSetup
  by_cases hsize : request.outputLength < shieldChannelDataSize
  · rw [if_pos hsize]
    exact iff_of_true (handled_of_failure ntSuccess_statusBufferTooSmall) (Or.inl hsize)
  · rw [if_neg hsize, or_iff_right hsize]
    cases s.channelSetup with
    | true =>
      exact iff_of_true (handled_of_failure ntSuccess_statusInvalidParameter) (Or.inl rfl)
    | false =>
      rw [if_neg Bool.false_ne_true, or_iff_right Bool.false_ne_true]
      cases hpool : o.channel.exAllocatePool with
      | false =>
        have hcreate : dsInitializeChannel o.channel Ledger.empty
            = (statusInsufficientResources, none, Ledger.empty) := by
          unfold dsInitializeChannel
          rw [hpool]
          rfl
        rw [hcreate]
        exact iff_of_true (handled_of_failure ntSuccess_statusInsufficientResources) (Or.inl rfl)
      | true =>
        rw [or_iff_right Bool.false_ne_true.symm]
        have hcount : 0 < o.channel.bucketCount := by
          rw [o.channel_bucketCount]
          exact Nat.succ_pos 15
        rcases dsInitializeChannel_cases hpool hcount with
          ⟨hsucceed, ⟨idx, hidx, hstatus⟩, -, hmisused⟩ | ⟨hnot, -, hmisused⟩
        · have hsuccess := (hsucceed.buckets idx hidx .highEvent).2
          rw [← hstatus] at hsuccess
          dsimp only
          rw [hmisused, if_neg Bool.false_ne_true, if_pos hsuccess]
          refine iff_of_true ⟨?_, fun _ => UInt32.not_lt.mp hsize⟩ hsucceed
          dsimp only
          rw [hstatus]
          exact o.channel_notPending idx .highEvent
        · dsimp only
          rw [hmisused]
          exact iff_of_false id hnot

theorem handled_dsCtlShieldChannelTeardown :
    Handled request (dsCtlShieldChannelTeardown o request s) ↔
      isBufferTooSmall request shieldChannelIdSize = true ∨ s.channelSetup = false ∨
        ∃ channel, s.gChannel = some channel ∧
          (request.field ≠ channel.channelId ∨ o.rundownReleased = true) := by
  unfold dsCtlShieldChannelTeardown
  cases isBufferTooSmall request shieldChannelIdSize with
  | true => exact iff_of_true (handled_of_failure ntSuccess_statusBufferTooSmall) (Or.inl rfl)
  | false =>
    rw [if_neg Bool.false_ne_true, or_iff_right Bool.false_ne_true]
    cases s.channelSetup with
    | false =>
      exact iff_of_true (handled_of_failure ntSuccess_statusInvalidParameter) (Or.inl rfl)
    | true =>
      rw [if_neg Bool.false_ne_true.symm, or_iff_right Bool.false_ne_true.symm]
      cases s.gChannel with
      | none =>
        refine iff_of_false id ?_
        rintro ⟨channel, hchannel, -⟩
        exact absurd hchannel.symm (Option.some_ne_none channel)
      | some channel =>
        dsimp only
        by_cases hid : request.field ≠ channel.channelId
        · rw [if_pos hid]
          exact iff_of_true (handled_of_failure ntSuccess_statusInvalidParameter)
            ⟨channel, rfl, Or.inl hid⟩
        · rw [if_neg hid]
          cases o.rundownReleased with
          | true =>
            exact iff_of_true (handled_success_iff.mpr (UInt32.zero_le))
              ⟨channel, rfl, Or.inr rfl⟩
          | false =>
            refine iff_of_false id ?_
            rintro ⟨other, hother, hk⟩
            obtain rfl := Option.some.inj hother
            exact hk.elim hid Bool.false_ne_true

/-! ### Starting and stopping -/

/-- Recording the start leaves the status as it is. -/
theorem hvmStart_fst (smp : Smp) (startVcpu : Nat → Option NtFailure) (hvm : DsHvm) :
    (hvmStart smp startVcpu ⟨false⟩ hvm).1
      = (smpRunPerProcessor smp (hvmpStartVcpu startVcpu) hvm).1 := by
  unfold hvmStart
  rw [if_neg Bool.false_ne_true]
  dsimp only
  split
  next => rfl
  next => rfl

/-- **Starting** is a success exactly if every processor starts. -/
theorem hvmStart_status (smp : Smp) (startVcpu : Nat → Option NtFailure) (hvm : DsHvm) :
    (∀ p < smp.count, startVcpu p = none) ∧
        (hvmStart smp startVcpu ⟨false⟩ hvm).1 = statusSuccess ∨
      (¬ ∀ p < smp.count, startVcpu p = none) ∧
        ntSuccess (hvmStart smp startVcpu ⟨false⟩ hvm).1 = false := by
  have hstatus : ∀ p s, (hvmpStartVcpu startVcpu p s).1 = statusOf (startVcpu p) :=
    fun _ _ => rfl
  by_cases hall : ∀ p < smp.count, startVcpu p = none
  · refine Or.inl ⟨hall, ?_⟩
    rw [hvmStart_fst, smpRunPerProcessor_success_iff hstatus]
    intro p hp
    rw [hall p hp]
    rfl
  · exact Or.inr ⟨hall, (hvmStart_of_not_all hvm hall).1⟩

/-- **Loading** is a success exactly if everything starts. -/
theorem dsLoadHvm_status (smp : Smp) (outcome : LaunchOutcome) (hvm : DsHvm) :
    Launches smp outcome ∧ (dsLoadHvm smp outcome hvm).1 = statusSuccess ∨
      ¬ Launches smp outcome ∧ ntSuccess (dsLoadHvm smp outcome hvm).1 = false := by
  unfold dsLoadHvm dsInitializeHvm Launches
  cases outcome.hvmInitialize with
  | some status =>
    right
    dsimp only
    rw [status.2]
    exact ⟨fun h => absurd h.1 (Option.some_ne_none status), status.2⟩
  | none =>
    cases outcome.initializeHvmContexts with
    | some status =>
      right
      dsimp only
      rw [status.2]
      exact ⟨fun h => absurd h.2.1 (Option.some_ne_none status), status.2⟩
    | none =>
      dsimp only
      rw [ntSuccess_statusSuccess]
      dsimp only
      rcases hvmStart_status smp outcome.startVcpu
          { hvm with
            gHvm := some ⟨false⟩
            contexts := true } with ⟨hall, hstart⟩ | ⟨hnot, hstart⟩
      · rw [if_pos (by rw [hstart, ntSuccess_statusSuccess])]
        exact Or.inl ⟨⟨rfl, rfl, hall⟩, hstart⟩
      · rw [if_neg (by rw [hstart]; exact Bool.false_ne_true)]
        exact Or.inr ⟨fun h => hnot h.2.2, hstart⟩

/-- **Unloading** a launched hypervisor is a success exactly if no processor refuses. -/
theorem dsUnloadHvm_status {smp : Smp} {refusal : Option NtFailure} {hvm : DsHvm}
    (hsome : hvm.gHvm = some ⟨true⟩) :
    refusal = none ∧ (dsUnloadHvm smp refusal hvm).1 = statusSuccess ∨
      refusal ≠ none ∧ ntSuccess (dsUnloadHvm smp refusal hvm).1 = false := by
  unfold dsUnloadHvm
  rw [hsome]
  cases refusal with
  | some status => exact Or.inr ⟨Option.some_ne_none status, status.2⟩
  | none =>
    left
    have hall : ∀ p s, (hvmpStopVcpu p s).1 = (fun _ => statusSuccess) p := fun _ _ => rfl
    have hrun := (smpRunPerProcessor_success_iff hall smp hvm).mpr fun _ _ => rfl
    have hstop : (hvmStop smp ⟨true⟩ hvm).1 = statusSuccess := by
      unfold hvmStop
      rw [if_neg Bool.false_ne_true.symm]
      dsimp only
      rw [hrun, ntSuccess_statusSuccess, if_pos rfl]
    dsimp only
    rw [if_pos (by rw [hstop, ntSuccess_statusSuccess])]
    exact ⟨rfl, hstop⟩

/-- A shield that runs is a launched hypervisor. -/
theorem gHvm_of_running {shield : ShieldState} (hrunning : dsIsShieldRunning shield = true) :
    shield.hvm.gHvm = some ⟨true⟩ := by
  unfold dsIsShieldRunning at hrunning
  cases hhvm : shield.hvm.gHvm with
  | none =>
    rw [hhvm] at hrunning
    exact absurd hrunning Bool.false_ne_true
  | some hvm =>
    rw [hhvm] at hrunning
    obtain ⟨launched⟩ := hvm
    exact congrArg (fun launched => some (Hvm.mk launched)) hrunning

theorem controlPerformed_start {shield : ShieldState} :
    ControlPerformed o shieldStart shield ↔
      dsIsShieldRunning shield = true ∨ Launches o.smp o.shield.start := by
  have hdiffer : shieldStart ≠ shieldStop := by decide
  constructor
  · rintro (⟨-, h⟩ | ⟨hstop, -⟩)
    · exact h
    · exact absurd hstop hdiffer
  · exact fun h => Or.inl ⟨rfl, h⟩

theorem controlPerformed_stop {shield : ShieldState} :
    ControlPerformed o shieldStop shield ↔
      dsIsShieldRunning shield = false ∨ o.shield.stop = none := by
  have hdiffer : shieldStop ≠ shieldStart := by decide
  constructor
  · rintro (⟨hstart, -⟩ | ⟨-, h⟩)
    · exact absurd hstart hdiffer
    · exact h
  · exact fun h => Or.inr ⟨rfl, h⟩

/-- **An action** is a success exactly if it is performed. -/
theorem controlAction_status (action : UInt32) (shield : ShieldState) :
    ControlPerformed o action shield ∧
        (controlAction o.smp o.shield action shield).1 = statusSuccess ∨
      ¬ ControlPerformed o action shield ∧
        ntSuccess (controlAction o.smp o.shield action shield).1 = false := by
  unfold controlAction
  by_cases hstart : action = shieldStart
  · rw [if_pos hstart, hstart, controlPerformed_start]
    cases dsIsShieldRunning shield with
    | true => exact Or.inl ⟨Or.inl rfl, rfl⟩
    | false =>
      rw [if_neg Bool.false_ne_true, or_iff_right Bool.false_ne_true]
      exact dsLoadHvm_status o.smp o.shield.start shield.hvm
  · rw [if_neg hstart]
    by_cases hstop : action = shieldStop
    · rw [if_pos hstop, hstop, controlPerformed_stop]
      cases hrunning : dsIsShieldRunning shield with
      | false => exact Or.inl ⟨Or.inl rfl, rfl⟩
      | true =>
        rw [if_neg Bool.false_ne_true.symm, or_iff_right Bool.false_ne_true.symm]
        exact dsUnloadHvm_status (gHvm_of_running hrunning)
    · rw [if_neg hstop]
      refine Or.inr ⟨?_, ntSuccess_statusInvalidDeviceRequest⟩
      rintro (⟨h, -⟩ | ⟨h, -⟩)
      · exact hstart h
      · exact hstop h

theorem handled_dsCtlShieldControlRequest :
    Handled request (dsCtlShieldControlRequest o request s) ↔
      dshVmxAbsent s.gVmxFeature = true ∨ ¬ Overruns request shieldControlDataSize ∨
        ¬ ControlPerformed o request.field s.shield := by
  unfold dsCtlShieldControlRequest dsCtlShieldControl
  cases dshVmxAbsent s.gVmxFeature with
  | true => exact iff_of_true (handled_of_failure ntSuccess_statusNotSupported) (Or.inl rfl)
  | false =>
    rw [if_neg Bool.false_ne_true, or_iff_right Bool.false_ne_true]
    cases hsize : isBufferTooSmall request shieldControlDataSize with
    | true =>
      rw [if_pos (of_decide_eq_true hsize)]
      exact iff_of_true (handled_of_failure ntSuccess_statusBufferTooSmall)
        (Or.inl (not_overruns_of_tooSmall hsize))
    | false =>
      rw [if_neg (of_decide_eq_false hsize)]
      dsimp only
      rcases @controlAction_status o request.field s.shield with
        ⟨hperformed, hstatus⟩ | ⟨hperformed, hstatus⟩
      · rw [hstatus, ntSuccess_statusSuccess, if_pos rfl, or_iff_left (not_not_intro hperformed)]
        exact handled_size_iff hsize
      · exact iff_of_true (handled_of_failure hstatus) (Or.inr hperformed)

end Spec

/-- **The contract is kept** exactly if the code is implemented, the output is long enough
for what is copied to it, and the handler returns. -/
theorem completesWell_iff (o : DeviceOutcome) (request : DeviceRequest) (s : Device) :
    CompletesWell o request s ↔
      request.ioControlCode ∈ implemented ∧ HandlerKeeps o request s := by
  by_cases hcode : request.ioControlCode ∈ implemented
  · rw [and_iff_right hcode, completesWell_iff_handled hcode]
    unfold handleRequest HandlerKeeps
    by_cases hstatus : request.ioControlCode = ioctlShieldStatus
    · rw [if_pos hstatus, if_pos hstatus]
      exact handled_dsCltGetShieldState
    rw [if_neg hstatus, if_neg hstatus]
    by_cases hcontrol : request.ioControlCode = ioctlShieldControl
    · rw [if_pos hcontrol, if_pos hcontrol]
      exact handled_dsCtlShieldControlRequest
    rw [if_neg hcontrol, if_neg hcontrol]
    by_cases hsetup : request.ioControlCode = ioctlShieldChannelSetup
    · rw [if_pos hsetup, if_pos hsetup]
      exact handled_dsCtlShieldChannelSetup
    rw [if_neg hsetup, if_neg hsetup]
    by_cases hteardown : request.ioControlCode = ioctlShieldChannelTeardown
    · rw [if_pos hteardown, if_pos hteardown]
      exact handled_dsCtlShieldChannelTeardown
    rw [if_neg hteardown, if_neg hteardown]
    by_cases hfeature : request.ioControlCode = ioctlShieldGetVmFeature
    · rw [if_pos hfeature, if_pos hfeature]
      exact handled_dsCtlShieldGetVmFeature
    rw [if_neg hfeature, if_neg hfeature]
    have htest : request.ioControlCode = ioctlTestRdtsc := by
      simp only [implemented, List.mem_cons, List.not_mem_nil, or_false] at hcode
      exact ((((hcode.resolve_left hstatus).resolve_left hcontrol).resolve_left
        hsetup).resolve_left hteardown).resolve_left hfeature
    rw [if_pos htest]
    exact handled_dsCtlTestRdtscDetection
  · exact iff_of_false (not_completesWell_of_unknown hcode) (fun h => hcode h.1)

/-- Everything succeeds. -/
def obligingDevice : DeviceOutcome where
  smp := ⟨1, 0, [0], by decide, by decide⟩
  shield := obligingOutcome
  channel :=
    { bucketCount := dsMaxBuckets
      bucketCount_le := Nat.le_refl dsMaxBuckets
      exAllocatePool := true
      ioAllocateMdl := true
      mmMapLockedPages := true
      zwCreateEvent := fun _ _ => statusSuccess
      obReferenceObjectByHandle := fun _ _ => statusSuccess }
  channel_bucketCount := rfl
  channel_notPending _ _ := statusSuccess_ne_statusPending
  created := ⟨1, 0x10000, 0x10000⟩
  rundownReleased := true
  testBasicTimeStampDetection := some 0
  testBasicTimeStampDetectionWithSkip := some 0
  testBasicTimeStampDetectionReuse := some 0
  testRdtscInstructionBoundaries := some 0

/-- The driver was just loaded. -/
def Device.loaded : Device := ⟨.initial, ⟨1, 0, [], Nat.zero_le vmStateSize⟩, false, none, true⟩

/-- A caller who asks for no byte gets four, and one whose code is not known is told that all
went well. -/
theorem not_completesWell_noOutput :
    ¬ CompletesWell obligingDevice ⟨ioctlShieldStatus, 4, 0, 0⟩ .loaded ∧
      ¬ CompletesWell obligingDevice ⟨0, 0, 0, 0⟩ .loaded := by
  constructor
  · intro h
    exact absurd (h.2 rfl).2 (by decide)
  · exact not_completesWell_of_unknown (by decide)

end DeepShield.Shield
