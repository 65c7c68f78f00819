import Mathlib.Logic.Function.Basic
import Mathlib.Tactic.Common

/-!
# The shield channel and the parties that share it

The channel to the user-mode helper is reached through the global `gChannel`
and guarded by the flag `DSH_GFL_CHANNEL_SETUP` and a rundown reference.
Three kinds of parties touch them:

* *requests* set a channel up or take it down: `DsCtlShieldChannelSetup`,
  `DsCtlShieldChannelTeardown` and the last close in `DriverDeviceCreateClose`;
* *senders* use it: `DsSendNotificationMessage`, called by the mailbox worker.

Each party is a program counter and each access to shared data is one step, so
an interleaving is a list of actions. `SetFlag` and `ClearFlag` are a read and a
write of `gStateFlags`; what is read does not matter to the one bit modelled
here, so they are one step.

Channels are told apart by the allocation they come from, not by the memory
they occupy. `initialised`, `taken` and `destroyed` record what happened to
them: the final store in `DsInitializeChannel`, the exchange that took the
pointer, and `DsDestroyChannel`.
-/

namespace DeepShield.Channel

/-- `DS_CHANNEL`, as far as requests look at it. -/
structure DsChannel where
  address : Nat
  channelId : Nat
deriving Repr, DecidableEq

/-! ## Rundown protection -/

/-- `EX_RUNDOWN_REF`: whether a rundown has begun, and the references held. -/
structure Rundown where
  active : Bool
  references : Nat
deriving Repr, DecidableEq

/-- `ExInitializeRundownProtection`. -/
def exInitializeRundownProtection : Rundown := ⟨false, 0⟩

/-- `ExReInitializeRundownProtection`. -/
def exReInitializeRundownProtection : Rundown := ⟨false, 0⟩

/-- `ExAcquireRundownProtection`; it fails once a rundown has begun. -/
def exAcquireRundownProtection (r : Rundown) : Option Rundown :=
  if r.active then none else some { r with references := r.references + 1 }

/-- `ExReleaseRundownProtection`. -/
def exReleaseRundownProtection (r : Rundown) : Rundown :=
  { r with references := r.references - 1 }

/-- `ExRundownCompleted`. -/
def exRundownCompleted : Rundown := ⟨true, 0⟩

/-! ## Program counters -/

/-- Where a request is. The constructors after `closeTested` are the code that
teardown and close share once the exchange delivered a channel. -/
inductive Request
  | idle
  | setupTested
  | setupCleared
  | setupCreated (channel : DsChannel)
  | setupPublished
  | setupRundown
  | setupFlagged
  | setupReadId
  | setupReadVa
  | teardownTested (channelId : Nat)
  | teardownCompared
  | closeTested
  | taken (channel : DsChannel)
  | waiting (channel : DsChannel)
  | released (channel : DsChannel)
  | completed (channel : DsChannel)
  | cleared (channel : DsChannel)
deriving Repr, DecidableEq

/-- What a request does next: begin, finish creating a channel (with the id it
gets, if that succeeds), or go on. -/
inductive RequestAction
  | setup
  | teardown (channelId : Nat)
  | close
  | create (channelId : Option Nat)
  | next
deriving Repr, DecidableEq

/-- Where a sender is, with the pointer it read. -/
inductive Sender
  | idle
  | read (channel : Option DsChannel)
  | tested (channel : Option DsChannel)
  | acquired (channel : Option DsChannel)
  | used (channel : Option DsChannel)
deriving Repr, DecidableEq

/-- The shared data, the history of the channels and the parties. -/
structure Globals where
  gChannel : Option DsChannel
  channelSetup : Bool
  gChannelRundown : Rundown
  firstUse : Bool
  nextAddress : Nat
  initialised : List DsChannel
  taken : List DsChannel
  destroyed : List DsChannel
  nullDereference : Bool
  requests : Nat → Request
  senders : Nat → Sender

/-- The driver after it was loaded; the rundown is still zeroed memory. -/
def Globals.loaded : Globals :=
  { gChannel := none
    channelSetup := false
    gChannelRundown := ⟨false, 0⟩
    firstUse := true
    nextAddress := 0
    initialised := []
    taken := []
    destroyed := []
    nullDereference := false
    requests := fun _ => .idle
    senders := fun _ => .idle }

namespace Globals

/-- Request `r` moves on to `pc`. -/
def goto (s : Globals) (r : Nat) (pc : Request) : Globals :=
  { s with requests := Function.update s.requests r pc }

/-- Sender `i` moves on to `pc`. -/
def senderGoto (s : Globals) (i : Nat) (pc : Sender) : Globals :=
  { s with senders := Function.update s.senders i pc }

/-- A read through `gChannel` by request `r`, which then moves on to `pc`. -/
def dereference (s : Globals) (r : Nat) (pc : DsChannel → Request) : Globals :=
  match s.gChannel with
  | none => { s with nullDereference := true }.goto r .idle
  | some channel => s.goto r (pc channel)

/-- `InterlockedExchangePointer( &gChannel, NULL )` by request `r`; it is done
if another one was first. -/
def exchange (s : Globals) (r : Nat) : Globals :=
  match s.gChannel with
  | none => s.goto r .idle
  | some channel =>
    { s with gChannel := none, taken := channel :: s.taken }.goto r (.taken channel)

end Globals

/-! ## Steps -/

/-- One step of request `r`; none if `action` is not what it does next or it
has to wait. -/
def requestStep (s : Globals) (r : Nat) (action : RequestAction) : Option Globals :=
  match s.requests r, action with
  -- DsCtlShieldChannelSetup
  | .idle, .setup => some (if s.channelSetup then s else s.goto r .setupTested)
  | .setupTested, .next => some ({ s with gChannel := none }.goto r .setupCleared)
  | .setupCleared, .create none => some (s.goto r .idle)
  | .setupCleared, .create (some channelId) =>
    some ({ s with nextAddress := s.nextAddress + 1 }.goto r
      (.setupCreated ⟨s.nextAddress, channelId⟩))
  | .setupCreated channel, .next =>
    some ({ s with gChannel := some channel, initialised := channel :: s.initialised }.goto r
      .setupPublished)
  | .setupPublished, .next =>
    some ({ s with
      gChannelRundown :=
        if s.firstUse then exInitializeRundownProtection else exReInitializeRundownProtection
      firstUse := false }.goto r .setupRundown)
  | .setupRundown, .next => some ({ s with channelSetup := true }.goto r .setupFlagged)
  | .setupFlagged, .next => some (s.dereference r fun _ => .setupReadId)
  | .setupReadId, .next => some (s.dereference r fun _ => .setupReadVa)
  | .setupReadVa, .next => some (s.dereference r fun _ => .idle)
  -- DsCtlShieldChannelTeardown
  | .idle, .teardown channelId =>
    some (if s.channelSetup then s.goto r (.teardownTested channelId) else s)
  | .teardownTested channelId, .next =>
    some (s.dereference r fun channel =>
      if channelId ≠ channel.channelId then .idle else .teardownCompared)
  | .teardownCompared, .next => some (s.exchange r)
  -- DriverDeviceCreateClose
  | .idle, .close => some (if s.channelSetup then s.goto r .closeTested else s)
  | .closeTested, .next => some (s.exchange r)
  -- both, with the channel in hand
  | .taken channel, .next =>
    some ({ s with gChannelRundown := { s.gChannelRundown with active := true } }.goto r
      (.waiting channel))
  | .waiting channel, .next =>
    if s.gChannelRundown.references = 0 then some (s.goto r (.released channel)) else none
  | .released channel, .next =>
    some ({ s with gChannelRundown := exRundownCompleted }.goto r (.completed channel))
  | .completed channel, .next =>
    some ({ s with channelSetup := false }.goto r (.cleared channel))
  | .cleared channel, .next =>
    some ({ s with destroyed := channel :: s.destroyed }.goto r .idle)
  | _, _ => none

/-- One step of sender `i`: read `gChannel`, test the flag, acquire the rundown,
use the channel, release the rundown. -/
def senderStep (s : Globals) (i : Nat) : Globals :=
  match s.senders i with
  | .idle => s.senderGoto i (.read s.gChannel)
  | .read channel =>
    if s.channelSetup then s.senderGoto i (.tested channel) else s.senderGoto i .idle
  | .tested channel =>
    match exAcquireRundownProtection s.gChannelRundown with
    | none => s.senderGoto i .idle
    | some rundown => { s with gChannelRundown := rundown }.senderGoto i (.acquired channel)
  | .acquired channel => s.senderGoto i (.used channel)
  | .used _ =>
    { s with gChannelRundown := exReleaseRundownProtection s.gChannelRundown }.senderGoto i .idle

/-! ## Updates -/

section Updates

variable (s : Globals) (r i : Nat) (pc : Request) (spc : Sender)

@[simp] theorem goto_requests_same : (s.goto r pc).requests r = pc := by simp [Globals.goto]

theorem goto_requests_ne {r' : Nat} (h : r' ≠ r) : (s.goto r pc).requests r' = s.requests r' := by
  simp [Globals.goto, h]

/-- What holds of the new program counter and of all others holds of all. -/
theorem goto_forall (P : Request → Prop) (hpc : P pc)
    (h : ∀ q, q ≠ r → P (s.requests q)) (q : Nat) : P ((s.goto r pc).requests q) := by
  by_cases hqr : q = r
  · rw [hqr, goto_requests_same]
    exact hpc
  · rw [goto_requests_ne s r pc hqr]
    exact h q hqr

@[simp] theorem senderGoto_senders_same : (s.senderGoto i spc).senders i = spc := by
  simp [Globals.senderGoto]

theorem senderGoto_senders_ne {j : Nat} (h : j ≠ i) :
    (s.senderGoto i spc).senders j = s.senders j := by
  simp [Globals.senderGoto, h]

end Updates

/-- No two requests are seen by `f` with the same channel. -/
def Exclusive (f : Request → Option DsChannel) (requests : Nat → Request) : Prop :=
  ∀ r r' c, f (requests r) = some c → f (requests r') = some c → r = r'

/-- A request that moves on stays exclusive if what it is now seen with is
nobody else's. -/
theorem Exclusive.goto {f : Request → Option DsChannel} {s : Globals} {r : Nat} {pc : Request}
    (h : Exclusive f s.requests)
    (hnew : ∀ q, q ≠ r → ∀ c, f pc = some c → f (s.requests q) ≠ some c) :
    Exclusive f (s.goto r pc).requests := by
  intro q q' c hq hq'
  by_cases hqr : q = r
  · by_cases hqr' : q' = r
    · rw [hqr, hqr']
    · rw [hqr, goto_requests_same] at hq
      rw [goto_requests_ne s r pc hqr'] at hq'
      exact absurd hq' (hnew q' hqr' c hq)
  · rw [goto_requests_ne s r pc hqr] at hq
    by_cases hqr' : q' = r
    · rw [hqr', goto_requests_same] at hq'
      exact absurd hq (hnew q hqr c hq')
    · rw [goto_requests_ne s r pc hqr'] at hq'
      exact h q q' c hq hq'

end DeepShield.Channel
