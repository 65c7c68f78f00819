import DeepShield.Channel.Requests

/-!
# Senders and the channel they use

Requests come one at a time here, in any sequence, and any number of senders
run beside them. A sender reads `gChannel` as the argument of
`DsSendNotificationMessage`, tests the flag, and acquires the rundown; from then
on it relies on the channel (`SendersOk`).

The rundown does what it is for: whoever acquires it keeps the channel of *that
moment* alive until he releases it. But the pointer was read before. A sender
that is overtaken by a teardown and the next setup acquires the rundown of the
new channel with a pointer to the old one, and one that reads between the
exchange and the wait has no pointer at all. `sendersOk_iff_guarded` states this
as an equivalence: a run is safe exactly if every sender that acquires the
rundown read the channel that was published last (`SenderGuard`).

* `PhaseAt` says, for each program counter of the request under way, what the
  flag, the rundown and the channels are.
* `HoldersInv` is the senders' side: the references counted are theirs.
-/

namespace DeepShield.Channel

open DeepShield.Lib

/-- A step of the request under way, or of a sender. -/
inductive SendAction
  | request (action : RequestAction)
  | sender (i : Nat)
deriving Repr, DecidableEq

/-- One step of the system with one request at a time. -/
def sendStep (s : Globals) : SendAction → Option Globals
  | .request action => requestStep s 0 action
  | .sender i => some (senderStep s i)

/-! ## The property and the condition -/

/-- The pointer of a sender that passed the rundown gate. -/
def Sender.holding : Sender → Option (Option DsChannel)
  | .acquired p | .used p => some p
  | _ => none

/-- The pointer a sender read. -/
def Sender.pointer : Sender → Option (Option DsChannel)
  | .read p | .tested p | .acquired p | .used p => some p
  | .idle => none

/-- Every sender that passed the rundown gate holds a channel that is not
destroyed. -/
def SendersOk (s : Globals) : Prop :=
  ∀ i p, (s.senders i).holding = some p →
    ∃ c, p = some c ∧ c ∈ s.initialised ∧ c ∉ s.destroyed

/-- A sender about to acquire the rundown holds the channel published last. -/
def SenderGuard (s : Globals) : SendAction → Prop
  | .request _ => True
  | .sender i =>
    match s.senders i with
    | .tested p => s.gChannelRundown.active = false → p ≠ none ∧ p = s.initialised.head?
    | _ => True

/-! ## The phases of a request -/

/-- Nobody holds the rundown and nobody can acquire it: a rundown is over, or
none was ever initialised and no sender got past the flag. -/
def Quiet (s : Globals) : Prop :=
  s.gChannelRundown.references = 0 ∧ (s.firstUse = false → s.gChannelRundown.active = true)

/-- The rundown may be acquired. -/
def Open (s : Globals) : Prop := s.gChannelRundown.active = false ∧ s.firstUse = false

/-- `c` was published last, and is the one channel not destroyed. -/
def Current (s : Globals) (c : DsChannel) : Prop :=
  ∃ rest, s.initialised = c :: rest ∧ c ∉ s.destroyed ∧ ∀ d ∈ rest, d ∈ s.destroyed

/-- There is no channel. -/
def Down (s : Globals) : Prop :=
  s.channelSetup = false ∧ s.gChannel = none ∧ Quiet s ∧ ∀ c ∈ s.initialised, c ∈ s.destroyed

/-- There is a channel, and everybody may use it. -/
def Up (s : Globals) : Prop :=
  s.channelSetup = true ∧ Open s ∧ ∃ c, s.gChannel = some c ∧ Current s c

/-- The phases a channel goes through. -/
inductive Phase
  | down
  | published
  | opening
  | up
  | taken (channel : DsChannel)
  | draining (channel : DsChannel)
  | drained (channel : DsChannel)
  | cleared (channel : DsChannel)

/-- The phase while the one request is at a program counter. -/
def Request.phase (channelSetup : Bool) : Request → Phase
  | .idle => if channelSetup then .up else .down
  | .setupTested | .setupCleared | .setupCreated _ => .down
  | .setupPublished => .published
  | .setupRundown => .opening
  | .setupFlagged | .setupReadId | .setupReadVa | .teardownTested _ | .teardownCompared
  | .closeTested => .up
  | .taken c => .taken c
  | .waiting c => .draining c
  | .released c | .completed c => .drained c
  | .cleared c => .cleared c

/-- What the shared data is in each phase. -/
def Phase.At (s : Globals) : Phase → Prop
  | .down => Down s
  | .published => s.channelSetup = false ∧ Quiet s ∧ ∃ c, s.gChannel = some c ∧ Current s c
  | .opening => s.channelSetup = false ∧ Open s ∧ ∃ c, s.gChannel = some c ∧ Current s c
  | .up => Up s
  | .taken c => s.gChannel = none ∧ s.firstUse = false ∧ Current s c
  | .draining c =>
    s.gChannel = none ∧ s.firstUse = false ∧ s.gChannelRundown.active = true ∧ Current s c
  | .drained c => s.gChannel = none ∧ s.firstUse = false ∧ Quiet s ∧ Current s c
  | .cleared c => s.channelSetup = false ∧ s.gChannel = none ∧ Quiet s ∧ Current s c

variable {s s' : Globals} {phase : Phase} {holders : List Nat}

/-- Where the rundown is not quiet there is a current channel. -/
theorem Phase.At.current (h : phase.At s) (hquiet : ¬ Quiet s) : ∃ c, Current s c := by
  cases phase with
  | down => exact absurd h.2.2.1 hquiet
  | published => exact absurd h.2.1 hquiet
  | opening =>
    obtain ⟨_, _, c, _, hc⟩ := h
    exact ⟨c, hc⟩
  | up =>
    obtain ⟨_, _, c, _, hc⟩ := h
    exact ⟨c, hc⟩
  | taken c => exact ⟨c, h.2.2⟩
  | draining c => exact ⟨c, h.2.2.2⟩
  | drained c => exact absurd h.2.2.1 hquiet
  | cleared c => exact absurd h.2.2.1 hquiet

/-- The flag is set only once the rundown was initialised. -/
theorem Phase.At.used (h : phase.At s) (hflag : s.channelSetup = true) : s.firstUse = false := by
  cases phase with
  | down => exact absurd (h.1.symm.trans hflag) (by decide)
  | published => exact absurd (h.1.symm.trans hflag) (by decide)
  | opening => exact h.2.1.2
  | up => exact h.2.1.2
  | taken c => exact h.2.1
  | draining c => exact h.2.1
  | drained c => exact h.2.1
  | cleared c => exact absurd (h.1.symm.trans hflag) (by decide)

/-- A rundown that is not quiet may gain and lose references. -/
theorem Phase.At.setReferences (h : phase.At s) (hquiet : ¬ Quiet s) (n : Nat)
    (senders : Nat → Sender) :
    phase.At { s with
      gChannelRundown := { s.gChannelRundown with references := n }
      senders := senders } := by
  cases phase with
  | down => exact absurd h.2.2.1 hquiet
  | published => exact absurd h.2.1 hquiet
  | opening => exact h
  | up => exact h
  | taken c => exact h
  | draining c => exact h
  | drained c => exact absurd h.2.2.1 hquiet
  | cleared c => exact absurd h.2.2.1 hquiet

/-- The current channel is the one at the head, and no other is alive. -/
theorem Current.eq_of_live {c d : DsChannel} (h : Current s c) (hd : d ∈ s.initialised)
    (hlive : d ∉ s.destroyed) : d = c := by
  obtain ⟨rest, hinit, _, hdead⟩ := h
  rw [hinit] at hd
  rcases List.mem_cons.mp hd with rfl | hd
  · rfl
  · exact absurd (hdead d hd) hlive

theorem Current.head {c : DsChannel} (h : Current s c) : s.initialised.head? = some c := by
  obtain ⟨rest, hinit, _⟩ := h
  rw [hinit]
  rfl

/-! ## The senders -/

/-- The references counted are held by `holders`, with the current channel. -/
structure HoldersInv (s : Globals) (holders : List Nat) : Prop where
  references : s.gChannelRundown.references = holders.length
  nodup : holders.Nodup
  mem_iff : ∀ i, i ∈ holders ↔ (s.senders i).holding ≠ none
  pointer : ∀ i c, (s.senders i).pointer = some (some c) → c ∈ s.initialised
  current : ∀ i p, (s.senders i).holding = some p → p ≠ none ∧ p = s.initialised.head?
  tested : ∀ i p, s.senders i = .tested p → s.firstUse = false

/-- The senders do not see what a request does to other data. -/
theorem HoldersInv.congr (h : HoldersInv s holders) (hsenders : s'.senders = s.senders)
    (href : s'.gChannelRundown.references = s.gChannelRundown.references)
    (hinit : s'.initialised = s.initialised)
    (hfirst : s.firstUse = false → s'.firstUse = false) : HoldersInv s' holders where
  references := href.trans h.references
  nodup := h.nodup
  mem_iff := by
    rw [hsenders]
    exact h.mem_iff
  pointer := by
    rw [hsenders, hinit]
    exact h.pointer
  current := by
    rw [hsenders, hinit]
    exact h.current
  tested := by
    rw [hsenders]
    exact fun i p hi => hfirst (h.tested i p hi)

/-- With nobody holding the rundown, a channel may be published. -/
theorem HoldersInv.publish (h : HoldersInv s holders)
    (hzero : s.gChannelRundown.references = 0) (hsenders : s'.senders = s.senders)
    (href : s'.gChannelRundown.references = 0) {c : DsChannel}
    (hinit : s'.initialised = c :: s.initialised) (hfirst : s'.firstUse = s.firstUse) :
    HoldersInv s' holders where
  references := by rw [href, ← hzero, h.references]
  nodup := h.nodup
  mem_iff := by
    rw [hsenders]
    exact h.mem_iff
  pointer := by
    rw [hsenders, hinit]
    exact fun i d hd => List.mem_cons_of_mem c (h.pointer i d hd)
  current := by
    intro i p hi
    have hnil : holders = [] := List.length_eq_zero_iff.mp (h.references.symm.trans hzero)
    rw [hsenders] at hi
    have hmem := (h.mem_iff i).mpr (by rw [hi]; exact Option.some_ne_none p)
    rw [hnil] at hmem
    exact absurd hmem List.not_mem_nil
  tested := by
    rw [hsenders, hfirst]
    exact h.tested

theorem HoldersInv.dereference (h : HoldersInv s holders) {r : Nat}
    {next : DsChannel → Request} : HoldersInv (s.dereference r next) holders := by
  unfold Globals.dereference
  split
  next => exact h.congr rfl rfl rfl id
  next => exact h.congr rfl rfl rfl id

theorem HoldersInv.exchange (h : HoldersInv s holders) {r : Nat} :
    HoldersInv (s.exchange r) holders := by
  unfold Globals.exchange
  split
  next => exact h.congr rfl rfl rfl id
  next => exact h.congr rfl rfl rfl id

/-! ## The invariant -/

/-- The requests' invariant, the phase and the senders. -/
structure SendInv (s : Globals) (holders : List Nat) : Prop where
  requests : RequestInv s
  alone : ∀ r, r ≠ 0 → s.requests r = .idle
  phase : ((s.requests 0).phase s.channelSetup).At s
  holders : HoldersInv s holders

theorem loaded_sendInv : SendInv .loaded [] where
  requests := loaded_requestInv
  alone := fun _ _ => rfl
  phase := by
    refine ⟨rfl, rfl, ⟨rfl, fun hused => absurd hused (by decide)⟩, fun c hc => ?_⟩
    exact absurd hc (by simp [Globals.loaded])
  holders :=
    ⟨rfl, List.nodup_nil, by simp [Globals.loaded, Sender.holding],
      by simp [Globals.loaded, Sender.pointer], by simp [Globals.loaded, Sender.holding],
      by simp [Globals.loaded]⟩

/-- The rundown is not quiet while a sender holds it. -/
theorem HoldersInv.not_quiet (h : HoldersInv s holders) {i : Nat} {p : Option DsChannel}
    (hi : (s.senders i).holding = some p) : ¬ Quiet s := by
  intro hquiet
  have hmem := (h.mem_iff i).mpr (by rw [hi]; exact Option.some_ne_none p)
  have hlen := h.references
  rw [hquiet.1] at hlen
  rw [List.length_eq_zero_iff.mp hlen.symm] at hmem
  exact List.not_mem_nil hmem

/-- Nor is it when a sender that passed the flag test finds it open. -/
theorem HoldersInv.not_quiet_of_tested (h : HoldersInv s holders) {i : Nat}
    {p : Option DsChannel} (hi : s.senders i = .tested p)
    (hactive : s.gChannelRundown.active = false) : ¬ Quiet s := by
  intro hquiet
  have hclosed := hquiet.2 (h.tested i p hi)
  rw [hactive] at hclosed
  exact absurd hclosed (by decide)

/-- Held references keep the current channel alive. -/
theorem SendInv.ok (h : SendInv s holders) : SendersOk s := by
  intro i p hi
  obtain ⟨hne, hhead⟩ := h.holders.current i p hi
  obtain ⟨c, hc⟩ := h.phase.current (h.holders.not_quiet hi)
  refine ⟨c, hhead.trans hc.head, ?_⟩
  obtain ⟨rest, hinit, hlive, _⟩ := hc
  exact ⟨hinit ▸ List.mem_cons_self, hlive⟩

/-- A request that has the driver to itself meets the conditions under which
requests may overlap. -/
theorem SendInv.requestGuard (h : SendInv s holders) (action : RequestAction) :
    RequestGuard s 0 action := by
  have hphase := h.phase
  have halone : ∀ r', r' ≠ 0 → (s.requests r').dereferences = false := by
    intro r' hr'
    rw [h.alone r' hr']
    rfl
  unfold RequestGuard
  split
  next hpc =>
    rw [hpc] at hphase
    exact hphase.2.1
  next hpc =>
    rw [hpc] at hphase
    exact hphase.2.2.2
  next hpc =>
    intro hflag
    rw [hpc, hflag] at hphase
    obtain ⟨_, _, c, hc, _⟩ := hphase
    rw [hc]
    exact Option.some_ne_none c
  next => exact halone
  next => exact halone
  next => trivial

/-! ## A step of the request -/

/-- A request moves no other request and no sender. -/
theorem requestStep_frame {r : Nat} {action : RequestAction}
    (hstep : requestStep s r action = some s') :
    s'.senders = s.senders ∧ ∀ q, q ≠ r → s'.requests q = s.requests q := by
  have hgoto : ∀ (t : Globals) pc, t.requests = s.requests →
      ∀ q, q ≠ r → (t.goto r pc).requests q = s.requests q := by
    intro t pc ht q hq
    rw [goto_requests_ne t r pc hq, ht]
  have hderef : ∀ next, (s.dereference r next).senders = s.senders ∧
      ∀ q, q ≠ r → (s.dereference r next).requests q = s.requests q := by
    intro next
    unfold Globals.dereference
    split
    next => exact ⟨rfl, hgoto _ _ rfl⟩
    next => exact ⟨rfl, hgoto _ _ rfl⟩
  have hexchange : (s.exchange r).senders = s.senders ∧
      ∀ q, q ≠ r → (s.exchange r).requests q = s.requests q := by
    unfold Globals.exchange
    split
    next => exact ⟨rfl, hgoto _ _ rfl⟩
    next => exact ⟨rfl, hgoto _ _ rfl⟩
  unfold requestStep at hstep
  split at hstep
  all_goals first
    | (cases hstep; done)
    | obtain rfl := Option.some.inj hstep
      first
        | exact ⟨rfl, hgoto _ _ rfl⟩
        | exact hderef _
        | exact hexchange
        | split <;> first | exact ⟨rfl, fun _ _ => rfl⟩ | exact ⟨rfl, hgoto _ _ rfl⟩
    | split at hstep
      · obtain rfl := Option.some.inj hstep
        exact ⟨rfl, hgoto _ _ rfl⟩
      · cases hstep

/-- The phases do not depend on where the requests are. -/
theorem Phase.At.goto {r : Nat} {pc : Request} (h : phase.At s) : phase.At (s.goto r pc) := by
  cases phase <;> exact h

/-- The request is in the phase of the program counter it moves to. -/
theorem phase_goto {pc : Request} (h : (pc.phase s.channelSetup).At s) :
    (((s.goto 0 pc).requests 0).phase (s.goto 0 pc).channelSetup).At (s.goto 0 pc) := by
  rw [goto_requests_same]
  exact h.goto

/-- While there is a channel, `gChannel` can be dereferenced. -/
theorem phase_dereference {next : DsChannel → Request} (h : Up s)
    (hnext : ∀ c, (next c).phase true = .up) :
    (((s.dereference 0 next).requests 0).phase (s.dereference 0 next).channelSetup).At
      (s.dereference 0 next) := by
  obtain ⟨hflag, _, c, hc, _⟩ := id h
  unfold Globals.dereference
  rw [hc]
  refine phase_goto ?_
  rw [hflag, hnext c]
  exact h

/-- Whoever exchanges `gChannel` then has the channel. -/
theorem phase_exchange (h : Up s) :
    (((s.exchange 0).requests 0).phase (s.exchange 0).channelSetup).At (s.exchange 0) := by
  obtain ⟨_, hopen, c, hc, hcurrent⟩ := h
  unfold Globals.exchange
  rw [hc]
  exact phase_goto ⟨rfl, hopen.2, hcurrent⟩

/-- **The phases follow one another.** -/
theorem SendInv.request_phase (h : SendInv s holders) {action : RequestAction}
    (hstep : requestStep s 0 action = some s') :
    ((s'.requests 0).phase s'.channelSetup).At s' := by
  have hphase := h.phase
  unfold requestStep at hstep
  split at hstep
  next hpc =>
    obtain rfl := Option.some.inj hstep
    split
    next => exact hphase
    next hflag =>
      rw [hpc, eq_false_of_ne_true hflag] at hphase
      exact phase_goto hphase
  next hpc =>
    obtain rfl := Option.some.inj hstep
    rw [hpc] at hphase
    exact phase_goto ⟨hphase.1, rfl, hphase.2.2⟩
  next hpc =>
    obtain rfl := Option.some.inj hstep
    rw [hpc] at hphase
    refine phase_goto ?_
    rw [hphase.1]
    exact hphase
  next hpc =>
    obtain rfl := Option.some.inj hstep
    rw [hpc] at hphase
    exact phase_goto hphase
  next c hpc =>
    -- the new channel is not among the ones destroyed
    obtain rfl := Option.some.inj hstep
    rw [hpc] at hphase
    obtain ⟨-, hnew⟩ := (h.requests.requests 0).created c (by rw [hpc]; rfl)
    have hlive : c ∉ s.destroyed := fun hd =>
      hnew (h.requests.taken_initialised c (h.requests.destroyed_taken c hd))
    exact phase_goto
      ⟨hphase.1, hphase.2.2.1, c, rfl, s.initialised, rfl, hlive, hphase.2.2.2⟩
  next hpc =>
    obtain rfl := Option.some.inj hstep
    rw [hpc] at hphase
    refine phase_goto ⟨hphase.1, ⟨?_, rfl⟩, hphase.2.2⟩
    show Rundown.active (if s.firstUse then _ else _) = false
    split <;> rfl
  next hpc =>
    obtain rfl := Option.some.inj hstep
    rw [hpc] at hphase
    exact phase_goto ⟨rfl, hphase.2.1, hphase.2.2⟩
  next hpc =>
    obtain rfl := Option.some.inj hstep
    rw [hpc] at hphase
    exact phase_dereference hphase fun _ => rfl
  next hpc =>
    obtain rfl := Option.some.inj hstep
    rw [hpc] at hphase
    exact phase_dereference hphase fun _ => rfl
  next hpc =>
    obtain rfl := Option.some.inj hstep
    rw [hpc] at hphase
    exact phase_dereference hphase fun _ => rfl
  next hpc =>
    obtain rfl := Option.some.inj hstep
    split
    next hflag =>
      rw [hpc, hflag] at hphase
      exact phase_goto hphase
    next => exact hphase
  next hpc =>
    obtain rfl := Option.some.inj hstep
    rw [hpc] at hphase
    refine phase_dereference hphase fun c => ?_
    split <;> rfl
  next hpc =>
    obtain rfl := Option.some.inj hstep
    rw [hpc] at hphase
    exact phase_exchange hphase
  next hpc =>
    obtain rfl := Option.some.inj hstep
    split
    next hflag =>
      rw [hpc, hflag] at hphase
      exact phase_goto hphase
    next => exact hphase
  next hpc =>
    obtain rfl := Option.some.inj hstep
    rw [hpc] at hphase
    exact phase_exchange hphase
  next c hpc =>
    obtain rfl := Option.some.inj hstep
    rw [hpc] at hphase
    exact phase_goto ⟨hphase.1, hphase.2.1, rfl, hphase.2.2⟩
  next c hpc =>
    split at hstep
    next hzero =>
      obtain rfl := Option.some.inj hstep
      rw [hpc] at hphase
      exact phase_goto ⟨hphase.1, hphase.2.1, ⟨hzero, fun _ => hphase.2.2.1⟩, hphase.2.2.2⟩
    next => exact absurd hstep (by simp)
  next c hpc =>
    obtain rfl := Option.some.inj hstep
    rw [hpc] at hphase
    exact phase_goto ⟨hphase.1, hphase.2.1, ⟨rfl, fun _ => rfl⟩, hphase.2.2.2⟩
  next c hpc =>
    obtain rfl := Option.some.inj hstep
    rw [hpc] at hphase
    exact phase_goto ⟨rfl, hphase.1, hphase.2.2⟩
  next c hpc =>
    obtain rfl := Option.some.inj hstep
    rw [hpc] at hphase
    obtain ⟨hflag, hnone, hquiet, rest, hinit, hlive, hdead⟩ := hphase
    refine phase_goto ?_
    rw [hflag]
    refine ⟨rfl, hnone, hquiet, fun d hd => ?_⟩
    rcases List.mem_cons.mp (hinit ▸ hd : d ∈ c :: rest) with rfl | hd
    · exact List.mem_cons_self
    · exact List.mem_cons_of_mem c (hdead d hd)
  next => exact absurd hstep (by simp)

/-- The references stay with their holders: a request resets the rundown, and
publishes a channel, only where there are none. -/
theorem SendInv.request_holders (h : SendInv s holders) {action : RequestAction}
    (hstep : requestStep s 0 action = some s') : HoldersInv s' holders := by
  have hphase := h.phase
  unfold requestStep at hstep
  split at hstep
  next =>
    obtain rfl := Option.some.inj hstep
    split
    next => exact h.holders
    next => exact h.holders.congr rfl rfl rfl id
  next =>
    obtain rfl := Option.some.inj hstep
    exact h.holders.congr rfl rfl rfl id
  next =>
    obtain rfl := Option.some.inj hstep
    exact h.holders.congr rfl rfl rfl id
  next =>
    obtain rfl := Option.some.inj hstep
    exact h.holders.congr rfl rfl rfl id
  next c hpc =>
    obtain rfl := Option.some.inj hstep
    rw [hpc] at hphase
    exact h.holders.publish hphase.2.2.1.1 rfl hphase.2.2.1.1 rfl rfl
  next hpc =>
    obtain rfl := Option.some.inj hstep
    rw [hpc] at hphase
    refine h.holders.congr rfl ?_ rfl fun _ => rfl
    rw [hphase.2.1.1]
    show Rundown.references (if s.firstUse then _ else _) = 0
    split <;> rfl
  next =>
    obtain rfl := Option.some.inj hstep
    exact h.holders.congr rfl rfl rfl id
  next hpc =>
    obtain rfl := Option.some.inj hstep
    exact h.holders.dereference
  next hpc =>
    obtain rfl := Option.some.inj hstep
    exact h.holders.dereference
  next hpc =>
    obtain rfl := Option.some.inj hstep
    exact h.holders.dereference
  next =>
    obtain rfl := Option.some.inj hstep
    split
    next => exact h.holders.congr rfl rfl rfl id
    next => exact h.holders
  next =>
    obtain rfl := Option.some.inj hstep
    exact h.holders.dereference
  next =>
    obtain rfl := Option.some.inj hstep
    exact h.holders.exchange
  next =>
    obtain rfl := Option.some.inj hstep
    split
    next => exact h.holders.congr rfl rfl rfl id
    next => exact h.holders
  next =>
    obtain rfl := Option.some.inj hstep
    exact h.holders.exchange
  next =>
    obtain rfl := Option.some.inj hstep
    exact h.holders.congr rfl rfl rfl id
  next =>
    split at hstep
    next =>
      obtain rfl := Option.some.inj hstep
      exact h.holders.congr rfl rfl rfl id
    next => exact absurd hstep (by simp)
  next hpc =>
    obtain rfl := Option.some.inj hstep
    rw [hpc] at hphase
    refine h.holders.congr rfl ?_ rfl id
    rw [hphase.2.2.1.1]
    rfl
  next =>
    obtain rfl := Option.some.inj hstep
    exact h.holders.congr rfl rfl rfl id
  next =>
    obtain rfl := Option.some.inj hstep
    exact h.holders.congr rfl rfl rfl id
  next => exact absurd hstep (by simp)

theorem SendInv.request (h : SendInv s holders) {action : RequestAction}
    (hstep : requestStep s 0 action = some s') : SendInv s' holders where
  requests := h.requests.requestStep (h.requestGuard action) hstep
  alone := fun r hr => ((requestStep_frame hstep).2 r hr).trans (h.alone r hr)
  phase := h.request_phase hstep
  holders := h.request_holders hstep

/-! ## A step of a sender -/

/-- What holds of the new program counter and of all others holds of all. -/
theorem senderGoto_forall (s : Globals) (i : Nat) (pc : Sender) (P : Nat → Sender → Prop)
    (hpc : P i pc) (h : ∀ j, j ≠ i → P j (s.senders j)) (j : Nat) :
    P j ((s.senderGoto i pc).senders j) := by
  by_cases hji : j = i
  · rw [hji, senderGoto_senders_same]
    exact hpc
  · rw [senderGoto_senders_ne s i pc hji]
    exact h j hji

/-- A sender that neither gains nor loses a reference moves on. -/
theorem HoldersInv.senderGoto (h : HoldersInv s holders) {i : Nat} {pc : Sender}
    (hholding : pc.holding = (s.senders i).holding)
    (hpointer : ∀ c, pc.pointer = some (some c) → c ∈ s.initialised)
    (htested : ∀ p, pc = .tested p → s.firstUse = false) :
    HoldersInv (s.senderGoto i pc) holders where
  references := h.references
  nodup := h.nodup
  mem_iff := by
    refine senderGoto_forall s i pc (fun j spc => j ∈ holders ↔ spc.holding ≠ none) ?_
      fun j _ => h.mem_iff j
    rw [hholding]
    exact h.mem_iff i
  pointer := senderGoto_forall s i pc
    (fun _ spc => ∀ c, spc.pointer = some (some c) → c ∈ s.initialised) hpointer
    fun j _ => h.pointer j
  current := by
    refine senderGoto_forall s i pc
      (fun _ spc => ∀ p, spc.holding = some p → p ≠ none ∧ p = s.initialised.head?) ?_
      fun j _ => h.current j
    rw [hholding]
    exact h.current i
  tested := senderGoto_forall s i pc
    (fun _ spc => ∀ p, spc = .tested p → s.firstUse = false) htested fun j _ => h.tested j

/-- A sender acquires the rundown with the current channel in hand. -/
theorem HoldersInv.acquire (h : HoldersInv s holders) {i : Nat} {p : Option DsChannel}
    (hpc : s.senders i = .tested p) (hp : p ≠ none ∧ p = s.initialised.head?) :
    HoldersInv ({ s with gChannelRundown :=
      { s.gChannelRundown with references := s.gChannelRundown.references + 1 } }.senderGoto i
      (.acquired p)) (i :: holders) where
  references := congrArg (· + 1) h.references
  nodup := by
    refine List.nodup_cons.mpr ⟨fun hmem => ?_, h.nodup⟩
    exact (h.mem_iff i).mp hmem (by rw [hpc]; rfl)
  mem_iff := by
    refine senderGoto_forall _ i _ (fun j spc => j ∈ i :: holders ↔ spc.holding ≠ none) ?_
      fun j hji => ?_
    · exact iff_of_true List.mem_cons_self (Option.some_ne_none p)
    · rw [List.mem_cons, or_iff_right hji]
      exact h.mem_iff j
  pointer := by
    refine senderGoto_forall _ i _
      (fun _ spc => ∀ c, spc.pointer = some (some c) → c ∈ s.initialised) ?_
      fun j _ => h.pointer j
    exact fun c hc => h.pointer i c (by rw [hpc]; exact hc)
  current := by
    refine senderGoto_forall _ i _
      (fun _ spc => ∀ q, spc.holding = some q → q ≠ none ∧ q = s.initialised.head?) ?_
      fun j _ => h.current j
    intro q hq
    obtain rfl := Option.some.inj hq
    exact hp
  tested := senderGoto_forall _ i _ (fun _ spc => ∀ q, spc = .tested q → s.firstUse = false)
    (by simp) fun j _ => h.tested j

/-- A sender releases its reference. -/
theorem HoldersInv.release (h : HoldersInv s holders) {i : Nat} {p : Option DsChannel}
    (hpc : s.senders i = .used p) :
    HoldersInv ({ s with gChannelRundown :=
      exReleaseRundownProtection s.gChannelRundown }.senderGoto i .idle) (holders.erase i) where
  references := by
    have hmem := (h.mem_iff i).mpr (by rw [hpc]; exact Option.some_ne_none p)
    rw [List.length_erase_of_mem hmem, ← h.references]
    rfl
  nodup := h.nodup.erase i
  mem_iff := by
    refine senderGoto_forall _ i _ (fun j spc => j ∈ holders.erase i ↔ spc.holding ≠ none) ?_
      fun j hji => ?_
    · rw [h.nodup.mem_erase_iff]
      simp [Sender.holding]
    · rw [h.nodup.mem_erase_iff, and_iff_right hji]
      exact h.mem_iff j
  pointer := senderGoto_forall _ i _
    (fun _ spc => ∀ c, spc.pointer = some (some c) → c ∈ s.initialised)
    (by simp [Sender.pointer]) fun j _ => h.pointer j
  current := senderGoto_forall _ i _
    (fun _ spc => ∀ q, spc.holding = some q → q ≠ none ∧ q = s.initialised.head?)
    (by simp [Sender.holding]) fun j _ => h.current j
  tested := senderGoto_forall _ i _ (fun _ spc => ∀ q, spc = .tested q → s.firstUse = false)
    (by simp) fun j _ => h.tested j

/-- A guarded step of a sender. -/
theorem SendInv.sender (h : SendInv s holders) {i : Nat} (hguard : SenderGuard s (.sender i)) :
    ∃ holders', SendInv (senderStep s i) holders' := by
  have hrequests := h.requests.senderStep i
  unfold senderStep at hrequests ⊢
  simp only [SenderGuard] at hguard
  split
  next hpc =>
    refine ⟨holders, ⟨by simpa [hpc] using hrequests, h.alone, h.phase, ?_⟩⟩
    refine h.holders.senderGoto (by rw [hpc]; rfl) (fun c hc => ?_) (by simp)
    exact (h.requests.published c (Option.some.inj hc)).1
  next p hpc =>
    rw [hpc] at hrequests
    split
    next hflag =>
      refine ⟨holders, ⟨by simpa [hflag] using hrequests, h.alone, h.phase, ?_⟩⟩
      refine h.holders.senderGoto (by rw [hpc]; rfl) (fun c hc => ?_) fun _ _ => ?_
      · exact h.holders.pointer i c (by rw [hpc]; exact hc)
      · exact h.phase.used hflag
    next hflag =>
      refine ⟨holders, ⟨by simpa [hflag] using hrequests, h.alone, h.phase, ?_⟩⟩
      exact h.holders.senderGoto (by rw [hpc]; rfl) (by simp [Sender.pointer]) (by simp)
  next p hpc =>
    rw [hpc] at hrequests hguard
    unfold exAcquireRundownProtection at hrequests ⊢
    by_cases hactive : s.gChannelRundown.active = true
    · simp only [if_pos hactive] at hrequests ⊢
      refine ⟨holders, ⟨hrequests, h.alone, h.phase, ?_⟩⟩
      exact h.holders.senderGoto (by rw [hpc]; rfl) (by simp [Sender.pointer]) (by simp)
    · simp only [if_neg hactive] at hrequests ⊢
      have hopen := eq_false_of_ne_true hactive
      refine ⟨i :: holders, ⟨hrequests, h.alone, ?_, h.holders.acquire hpc (hguard hopen)⟩⟩
      exact h.phase.setReferences (h.holders.not_quiet_of_tested hpc hopen) _ _
  next p hpc =>
    refine ⟨holders, ⟨by simpa [hpc] using hrequests, h.alone, h.phase, ?_⟩⟩
    refine h.holders.senderGoto (by rw [hpc]; rfl) (fun c hc => ?_) (by simp)
    exact h.holders.pointer i c (by rw [hpc]; exact hc)
  next p hpc =>
    refine ⟨holders.erase i, ⟨by simpa [hpc] using hrequests, h.alone, ?_,
      h.holders.release hpc⟩⟩
    exact h.phase.setReferences (h.holders.not_quiet (p := p) (by rw [hpc]; rfl)) _ _

/-- A sender that acquires the rundown with any other pointer is not safe. -/
theorem SendInv.sender_bad (h : SendInv s holders) {i : Nat}
    (hguard : ¬ SenderGuard s (.sender i)) : ¬ SendersOk (senderStep s i) := by
  simp only [SenderGuard] at hguard
  split at hguard
  next p hpc =>
    obtain ⟨hopen, hp⟩ := Classical.not_imp.mp hguard
    intro hok
    have hstep : senderStep s i = { s with gChannelRundown :=
        { s.gChannelRundown with references := s.gChannelRundown.references + 1 } }.senderGoto i
        (.acquired p) := by
      simp [senderStep, hpc, exAcquireRundownProtection, hopen]
    rw [hstep] at hok
    obtain ⟨c, rfl, hinit, hlive⟩ := hok i p (by rw [senderGoto_senders_same]; rfl)
    obtain ⟨d, hd⟩ := h.phase.current (h.holders.not_quiet_of_tested hpc hopen)
    obtain rfl := hd.eq_of_live hinit hlive
    exact hp ⟨Option.some_ne_none c, hd.head.symm⟩
  next => exact absurd trivial hguard

/-! ## Runs -/

/-- **A run is safe exactly if every sender that acquires the rundown read the
channel that was published last.** -/
theorem sendersOk_iff_guarded (actions : List SendAction) :
    Always sendStep SendersOk .loaded actions ↔
      Guarded sendStep SenderGuard .loaded actions := by
  have hexact := @always_iff_guarded _ _ sendStep SendersOk
    (fun s => ∃ holders, SendInv s holders) SenderGuard
  refine hexact ?_ ?_ ?_ ⟨[], loaded_sendInv⟩
  · intro s ⟨holders, h⟩
    exact h.ok
  · intro s action s' ⟨holders, h⟩ hguard hstep
    cases action with
    | request action => exact ⟨holders, h.request hstep⟩
    | sender i =>
      obtain rfl := Option.some.inj hstep
      exact h.sender hguard
  · intro s action s' ⟨holders, h⟩ hguard hstep
    cases action with
    | request action => exact absurd trivial hguard
    | sender i =>
      obtain rfl := Option.some.inj hstep
      exact h.sender_bad hguard

/-- A sender reads the first channel and passes the flag test; teardown and the
next setup run; it acquires the second channel's rundown. -/
theorem not_sendersOk_overtaken :
    ¬ Always sendStep SendersOk .loaded
      [.request .setup, .request .next, .request (.create (some 7)), .request .next,
        .request .next, .request .next, .request .next, .request .next, .request .next,
        .sender 0, .sender 0, .request (.teardown 7), .request .next, .request .next,
        .request .next, .request .next, .request .next, .request .next, .request .next,
        .request .setup, .request .next, .request (.create (some 8)), .request .next,
        .request .next, .request .next, .sender 0] := by
  intro h
  have hset := ((((((((h.tail rfl).tail rfl).tail rfl).tail rfl).tail rfl).tail rfl).tail
    rfl).tail rfl).tail rfl
  have hdown := (((((((((hset.tail rfl).tail rfl).tail rfl).tail rfl).tail rfl).tail rfl).tail
    rfl).tail rfl).tail rfl).tail rfl
  have hlast := ((((((hdown.tail rfl).tail rfl).tail rfl).tail rfl).tail rfl).tail rfl).tail rfl
  obtain ⟨c, hc, -, hlive⟩ := hlast 0 (some ⟨0, 7⟩) rfl
  obtain rfl := Option.some.inj hc
  exact hlive (by decide)

end DeepShield.Channel
