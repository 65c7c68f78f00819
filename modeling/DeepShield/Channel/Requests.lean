import DeepShield.Channel.LifeCycle
import DeepShield.Lib.Runs

/-!
# Overlapping setup, teardown and close requests

What the requests promise each other (`LifeCycleOk`): there is at most one
channel that is initialised and not destroyed, `gChannel` leads to it until it
is taken, it is taken and destroyed once, and nobody reads through `gChannel`
while it is NULL.

The code relies on testing a flag first and on the exchange deciding who
destroys. Neither keeps two requests from overlapping, and `RequestGuard` lists
the four steps at which an overlap does harm:

* a setup stores NULL to `gChannel`, or publishes its channel, while another
  channel is in place;
* the exchange takes the channel while another request is still going to read
  through `gChannel`;
* a teardown finds the flag set that the request which took the channel has not
  cleared yet.

`lifeCycle_of_guarded` shows that nothing else is needed.
-/

namespace DeepShield.Channel

open DeepShield.Lib

/-- A step of one of the parties. -/
inductive Action
  | request (r : Nat) (action : RequestAction)
  | sender (i : Nat)
deriving Repr, DecidableEq

/-- One step of the system. -/
def step (s : Globals) : Action → Option Globals
  | .request r action => requestStep s r action
  | .sender i => some (senderStep s i)

/-! ## The property -/

/-- The life cycle of the channels is in order. -/
structure LifeCycleOk (s : Globals) : Prop where
  one_live : ∀ c ∈ s.initialised, ∀ d ∈ s.initialised,
    c ∉ s.destroyed → d ∉ s.destroyed → c = d
  reachable : ∀ c ∈ s.initialised, c ∉ s.taken → s.gChannel = some c
  taken_once : s.taken.Nodup
  destroyed_once : s.destroyed.Nodup
  no_null_dereference : s.nullDereference = false

/-! ## The condition -/

/-- The channel a request took and is going to destroy. -/
def Request.inHand : Request → Option DsChannel
  | .taken c | .waiting c | .released c | .completed c | .cleared c => some c
  | _ => none

/-- The channel a setup created and has not published yet. -/
def Request.created : Request → Option DsChannel
  | .setupCreated c => some c
  | _ => none

/-- The request is going to read through `gChannel`. -/
def Request.dereferences : Request → Bool
  | .setupPublished | .setupRundown | .setupFlagged | .setupReadId | .setupReadVa
  | .teardownTested _ => true
  | _ => false

/-- What must hold when request `r` does its next step. -/
def RequestGuard (s : Globals) (r : Nat) (action : RequestAction) : Prop :=
  match s.requests r, action with
  | .setupTested, _ => s.gChannel = none
  | .setupCreated _, _ => ∀ c ∈ s.initialised, c ∈ s.destroyed
  | .idle, .teardown _ => s.channelSetup = true → s.gChannel ≠ none
  | .teardownCompared, _ | .closeTested, _ =>
    ∀ r', r' ≠ r → (s.requests r').dereferences = false
  | _, _ => True

/-- `RequestGuard`, for the step the system takes. -/
def StepGuard (s : Globals) : Action → Prop
  | .request r action => RequestGuard s r action
  | .sender _ => True

/-! ## The invariant -/

/-- What a request has in hand, and what it is going to do with `gChannel`. -/
structure RequestOk (s : Globals) (pc : Request) : Prop where
  inHand : ∀ c, pc.inHand = some c → c ∈ s.taken ∧ c ∉ s.destroyed
  created : ∀ c, pc.created = some c → c.address < s.nextAddress ∧ c ∉ s.initialised
  dereferences : pc.dereferences = true → s.gChannel ≠ none

/-- A program counter with nothing in hand. -/
theorem RequestOk.of_none {s : Globals} {pc : Request} (hhand : pc.inHand = none)
    (hcreated : pc.created = none) (hderef : pc.dereferences = true → s.gChannel ≠ none) :
    RequestOk s pc :=
  ⟨fun _ hc => absurd (hhand.symm.trans hc) (by simp),
    fun _ hc => absurd (hcreated.symm.trans hc) (by simp), hderef⟩

/-- The life cycle is in order, and every request is where it may be. -/
structure RequestInv (s : Globals) : Prop where
  published : ∀ c, s.gChannel = some c → c ∈ s.initialised ∧ c ∉ s.taken
  reachable : ∀ c ∈ s.initialised, c ∉ s.taken → s.gChannel = some c
  one_live : ∀ c ∈ s.initialised, ∀ d ∈ s.initialised,
    c ∉ s.destroyed → d ∉ s.destroyed → c = d
  initialised_lt : ∀ c ∈ s.initialised, c.address < s.nextAddress
  taken_initialised : ∀ c ∈ s.taken, c ∈ s.initialised
  taken_nodup : s.taken.Nodup
  destroyed_taken : ∀ c ∈ s.destroyed, c ∈ s.taken
  destroyed_nodup : s.destroyed.Nodup
  requests : ∀ r, RequestOk s (s.requests r)
  inHand_exclusive : Exclusive Request.inHand s.requests
  created_exclusive : Exclusive Request.created s.requests
  no_fault : s.nullDereference = false

theorem loaded_requestInv : RequestInv .loaded := by
  constructor <;> simp [Globals.loaded, Exclusive, Request.inHand, Request.created]
  exact RequestOk.of_none rfl rfl (by simp [Request.dereferences])

theorem RequestInv.ok {s : Globals} (h : RequestInv s) : LifeCycleOk s :=
  ⟨h.one_live, h.reachable, h.taken_nodup, h.destroyed_nodup, h.no_fault⟩

variable {s : Globals} {r : Nat} {pc : Request}

/-- The flag, the rundown and the senders are nothing the invariant is about. -/
theorem RequestInv.gate (h : RequestInv s) (flag firstUse : Bool) (rundown : Rundown)
    (senders : Nat → Sender) :
    RequestInv { s with
      channelSetup := flag
      firstUse := firstUse
      gChannelRundown := rundown
      senders := senders } :=
  ⟨h.published, h.reachable, h.one_live, h.initialised_lt, h.taken_initialised, h.taken_nodup,
    h.destroyed_taken, h.destroyed_nodup, fun q => ⟨(h.requests q).inHand, (h.requests q).created,
      (h.requests q).dereferences⟩, h.inHand_exclusive, h.created_exclusive, h.no_fault⟩

/-- A request moves on, keeping what it has in hand. -/
theorem RequestInv.goto (h : RequestInv s) (hhand : pc.inHand = (s.requests r).inHand)
    (hcreated : pc.created = none) (hderef : pc.dereferences = true → s.gChannel ≠ none) :
    RequestInv (s.goto r pc) where
  published := h.published
  reachable := h.reachable
  one_live := h.one_live
  initialised_lt := h.initialised_lt
  taken_initialised := h.taken_initialised
  taken_nodup := h.taken_nodup
  destroyed_taken := h.destroyed_taken
  destroyed_nodup := h.destroyed_nodup
  requests := by
    refine goto_forall s r pc (RequestOk _) ⟨fun c hc => ?_, fun c hc => ?_, hderef⟩
      fun q _ => ⟨(h.requests q).inHand, (h.requests q).created, (h.requests q).dereferences⟩
    · exact (h.requests r).inHand c (hhand ▸ hc)
    · exact absurd (hcreated.symm.trans hc) (by simp)
  inHand_exclusive := by
    refine h.inHand_exclusive.goto fun q hq c hc hqc => hq ?_
    exact h.inHand_exclusive q r c hqc (hhand ▸ hc)
  created_exclusive := by
    refine h.created_exclusive.goto fun q _ c hc => ?_
    exact absurd (hcreated.symm.trans hc) (by simp)
  no_fault := h.no_fault

/-! ## The steps that change more than the program counter -/

/-- A setup creates a channel that nobody knows yet. -/
theorem RequestInv.create (h : RequestInv s) (r channelId : Nat) :
    RequestInv ({ s with nextAddress := s.nextAddress + 1 }.goto r
      (.setupCreated ⟨s.nextAddress, channelId⟩)) where
  published := h.published
  reachable := h.reachable
  one_live := h.one_live
  initialised_lt := fun c hc => Nat.lt_succ_of_lt (h.initialised_lt c hc)
  taken_initialised := h.taken_initialised
  taken_nodup := h.taken_nodup
  destroyed_taken := h.destroyed_taken
  destroyed_nodup := h.destroyed_nodup
  requests := by
    refine goto_forall _ r _ (RequestOk _) ⟨?_, fun c hc => ?_, ?_⟩ fun q _ =>
      ⟨(h.requests q).inHand, fun c hc => ?_, (h.requests q).dereferences⟩
    · simp [Request.inHand]
    · obtain rfl := Option.some.inj hc
      refine ⟨Nat.lt_succ_self _, fun hmem => ?_⟩
      exact absurd (h.initialised_lt _ hmem) (Nat.lt_irrefl _)
    · simp [Request.dereferences]
    · obtain ⟨hlt, hnew⟩ := (h.requests q).created c hc
      exact ⟨Nat.lt_succ_of_lt hlt, hnew⟩
  inHand_exclusive := Exclusive.goto h.inHand_exclusive (by simp [Request.inHand])
  created_exclusive := by
    -- everybody else's channel has a smaller address
    refine Exclusive.goto h.created_exclusive fun q _ c hc hqc => ?_
    obtain rfl := Option.some.inj hc
    exact absurd ((h.requests q).created _ hqc).1 (Nat.lt_irrefl _)
  no_fault := h.no_fault

/-- A setup publishes its channel once every earlier one is destroyed. -/
theorem RequestInv.publish (h : RequestInv s) {c : DsChannel}
    (hpc : s.requests r = .setupCreated c) (hdead : ∀ d ∈ s.initialised, d ∈ s.destroyed) :
    RequestInv ({ s with gChannel := some c, initialised := c :: s.initialised }.goto r
      .setupPublished) where
  published := by
    intro d hd
    obtain rfl := Option.some.inj hd
    obtain ⟨-, hnew⟩ := (h.requests r).created c (by rw [hpc]; rfl)
    exact ⟨List.mem_cons_self, fun ht => hnew (h.taken_initialised _ ht)⟩
  reachable := by
    intro d hd hnt
    rcases List.mem_cons.mp hd with rfl | hd
    · rfl
    · exact absurd (h.destroyed_taken d (hdead d hd)) hnt
  one_live := by
    intro d hd e he hdl hel
    rcases List.mem_cons.mp hd with rfl | hd
    · rcases List.mem_cons.mp he with rfl | he
      · rfl
      · exact absurd (hdead e he) hel
    · exact absurd (hdead d hd) hdl
  initialised_lt := by
    intro d hd
    rcases List.mem_cons.mp hd with rfl | hd
    · exact ((h.requests r).created d (by rw [hpc]; rfl)).1
    · exact h.initialised_lt d hd
  taken_initialised := fun d hd => List.mem_cons_of_mem c (h.taken_initialised d hd)
  taken_nodup := h.taken_nodup
  destroyed_taken := h.destroyed_taken
  destroyed_nodup := h.destroyed_nodup
  requests := by
    refine goto_forall _ r _ (RequestOk _) (.of_none rfl rfl fun _ => ?_) fun q hqr =>
      ⟨(h.requests q).inHand, fun d hd => ?_, fun _ => ?_⟩
    · exact Option.some_ne_none c
    · obtain ⟨hlt, hnew⟩ := (h.requests q).created d hd
      refine ⟨hlt, fun hmem => ?_⟩
      rcases List.mem_cons.mp hmem with rfl | hmem
      · exact hqr (h.created_exclusive q r d hd (by rw [hpc]; rfl))
      · exact hnew hmem
    · exact Option.some_ne_none c
  inHand_exclusive := Exclusive.goto h.inHand_exclusive (by simp [Request.inHand])
  created_exclusive := Exclusive.goto h.created_exclusive (by simp [Request.created])
  no_fault := h.no_fault

/-- The exchange takes the channel from everybody at once, so nobody else may
be about to read through `gChannel`. -/
theorem RequestInv.take (h : RequestInv s) {c : DsChannel} (hc : s.gChannel = some c)
    (hderef : ∀ r', r' ≠ r → (s.requests r').dereferences = false) :
    RequestInv ({ s with gChannel := none, taken := c :: s.taken }.goto r (.taken c)) where
  published := fun d hd => absurd hd (by simp [Globals.goto])
  reachable := by
    intro d hd hnt
    have hreach := h.reachable d hd fun ht => hnt (List.mem_cons_of_mem c ht)
    obtain rfl := Option.some.inj (hc.symm.trans hreach)
    exact absurd List.mem_cons_self hnt
  one_live := h.one_live
  initialised_lt := h.initialised_lt
  taken_initialised := by
    intro d hd
    rcases List.mem_cons.mp hd with rfl | hd
    · exact (h.published d hc).1
    · exact h.taken_initialised d hd
  taken_nodup := List.nodup_cons.mpr ⟨(h.published c hc).2, h.taken_nodup⟩
  destroyed_taken := fun d hd => List.mem_cons_of_mem c (h.destroyed_taken d hd)
  destroyed_nodup := h.destroyed_nodup
  requests := by
    refine goto_forall _ r _ (RequestOk _) ⟨fun d hd => ?_, by simp [Request.created],
      by simp [Request.dereferences]⟩ fun q hqr =>
      ⟨fun d hd => ?_, (h.requests q).created, fun hq => ?_⟩
    · obtain rfl := Option.some.inj hd
      exact ⟨List.mem_cons_self, fun hdead => (h.published c hc).2 (h.destroyed_taken c hdead)⟩
    · obtain ⟨ht, hlive⟩ := (h.requests q).inHand d hd
      exact ⟨List.mem_cons_of_mem c ht, hlive⟩
    · have hnot : (s.requests q).dereferences = false := hderef q hqr
      exact absurd (hnot.symm.trans hq) (by decide)
  inHand_exclusive := by
    -- what others have in hand was taken before
    refine Exclusive.goto h.inHand_exclusive fun q _ d hd hqd => ?_
    obtain rfl := Option.some.inj hd
    exact (h.published c hc).2 ((h.requests q).inHand c hqd).1
  created_exclusive := Exclusive.goto h.created_exclusive (by simp [Request.created])
  no_fault := h.no_fault

/-- The request that took a channel destroys it. -/
theorem RequestInv.destroy (h : RequestInv s) {c : DsChannel}
    (hpc : s.requests r = .cleared c) :
    RequestInv ({ s with destroyed := c :: s.destroyed }.goto r .idle) where
  published := h.published
  reachable := h.reachable
  one_live := by
    intro d hd e he hdl hel
    exact h.one_live d hd e he (fun hdead => hdl (List.mem_cons_of_mem c hdead))
      fun hdead => hel (List.mem_cons_of_mem c hdead)
  initialised_lt := h.initialised_lt
  taken_initialised := h.taken_initialised
  taken_nodup := h.taken_nodup
  destroyed_taken := by
    intro d hd
    rcases List.mem_cons.mp hd with rfl | hd
    · exact ((h.requests r).inHand d (by rw [hpc]; rfl)).1
    · exact h.destroyed_taken d hd
  destroyed_nodup :=
    List.nodup_cons.mpr ⟨((h.requests r).inHand c (by rw [hpc]; rfl)).2, h.destroyed_nodup⟩
  requests := by
    refine goto_forall _ r _ (RequestOk _) (.of_none rfl rfl (by simp [Request.dereferences]))
      fun q hqr => ⟨fun d hd => ?_, (h.requests q).created, (h.requests q).dereferences⟩
    obtain ⟨ht, hlive⟩ := (h.requests q).inHand d hd
    refine ⟨ht, fun hdead => ?_⟩
    rcases List.mem_cons.mp hdead with rfl | hdead
    · exact hqr (h.inHand_exclusive q r d hd (by rw [hpc]; rfl))
    · exact hlive hdead
  inHand_exclusive := Exclusive.goto h.inHand_exclusive (by simp [Request.inHand])
  created_exclusive := Exclusive.goto h.created_exclusive (by simp [Request.created])
  no_fault := h.no_fault

/-! ## The step lemma -/

/-- A guarded exchange, whether it takes a channel or comes too late. -/
theorem RequestInv.exchange (h : RequestInv s) (hhand : (s.requests r).inHand = none)
    (hderef : ∀ r', r' ≠ r → (s.requests r').dereferences = false) :
    RequestInv (s.exchange r) := by
  unfold Globals.exchange
  split
  next => exact h.goto (by rw [hhand]; rfl) rfl (by simp [Request.dereferences])
  next c hc => exact h.take hc hderef

/-- A request that was going to read through `gChannel` finds a channel
there. -/
theorem RequestInv.dereference (h : RequestInv s) {next : DsChannel → Request}
    (hpc : (s.requests r).dereferences = true) (hhand : (s.requests r).inHand = none)
    (hnext : ∀ c, (next c).inHand = none ∧ (next c).created = none) :
    RequestInv (s.dereference r next) := by
  unfold Globals.dereference
  split
  next hnone => exact absurd hnone ((h.requests r).dereferences hpc)
  next c hc =>
    refine h.goto (by rw [hhand, (hnext c).1]) (hnext c).2 fun _ => ?_
    rw [hc]
    exact Option.some_ne_none c

/-- **A guarded step of a request keeps the life cycle in order.** -/
theorem RequestInv.requestStep (h : RequestInv s) {action : RequestAction} {s' : Globals}
    (hguard : RequestGuard s r action) (hstep : requestStep s r action = some s') :
    RequestInv s' := by
  unfold Channel.requestStep at hstep
  unfold RequestGuard at hguard
  split at hstep
  next hpc =>
    obtain rfl := Option.some.inj hstep
    split
    next => exact h
    next => exact h.goto (by rw [hpc]; rfl) rfl (by simp [Request.dereferences])
  next hpc =>
    -- storing NULL changes nothing where NULL is stored already
    rw [hpc] at hguard
    obtain rfl := Option.some.inj hstep
    have hsame : { s with gChannel := none } = s := by
      rw [← show s.gChannel = none from hguard]
    rw [hsame]
    exact h.goto (by rw [hpc]; rfl) rfl (by simp [Request.dereferences])
  next hpc =>
    obtain rfl := Option.some.inj hstep
    exact h.goto (by rw [hpc]; rfl) rfl (by simp [Request.dereferences])
  next channelId hpc =>
    obtain rfl := Option.some.inj hstep
    exact h.create r channelId
  next hpc =>
    rw [hpc] at hguard
    obtain rfl := Option.some.inj hstep
    exact h.publish hpc hguard
  next hpc =>
    obtain rfl := Option.some.inj hstep
    refine (h.gate _ _ _ _).goto (by simp only [hpc]; rfl) rfl fun _ => ?_
    exact (h.requests r).dereferences (by rw [hpc]; rfl)
  next hpc =>
    obtain rfl := Option.some.inj hstep
    refine (h.gate _ _ _ _).goto (by simp only [hpc]; rfl) rfl fun _ => ?_
    exact (h.requests r).dereferences (by rw [hpc]; rfl)
  next hpc =>
    obtain rfl := Option.some.inj hstep
    exact h.dereference (by rw [hpc]; rfl) (by rw [hpc]; rfl) fun _ => ⟨rfl, rfl⟩
  next hpc =>
    obtain rfl := Option.some.inj hstep
    exact h.dereference (by rw [hpc]; rfl) (by rw [hpc]; rfl) fun _ => ⟨rfl, rfl⟩
  next hpc =>
    obtain rfl := Option.some.inj hstep
    exact h.dereference (by rw [hpc]; rfl) (by rw [hpc]; rfl) fun _ => ⟨rfl, rfl⟩
  next hpc =>
    rw [hpc] at hguard
    obtain rfl := Option.some.inj hstep
    split
    next hflag => exact h.goto (by rw [hpc]; rfl) rfl fun _ => hguard hflag
    next => exact h
  next hpc =>
    obtain rfl := Option.some.inj hstep
    refine h.dereference (by rw [hpc]; rfl) (by rw [hpc]; rfl) fun c => ?_
    split
    next => exact ⟨rfl, rfl⟩
    next => exact ⟨rfl, rfl⟩
  next hpc =>
    rw [hpc] at hguard
    obtain rfl := Option.some.inj hstep
    exact h.exchange (by rw [hpc]; rfl) hguard
  next hpc =>
    obtain rfl := Option.some.inj hstep
    split
    next => exact h.goto (by rw [hpc]; rfl) rfl (by simp [Request.dereferences])
    next => exact h
  next hpc =>
    rw [hpc] at hguard
    obtain rfl := Option.some.inj hstep
    exact h.exchange (by rw [hpc]; rfl) hguard
  next c hpc =>
    obtain rfl := Option.some.inj hstep
    exact (h.gate _ _ _ _).goto (by simp only [hpc]; rfl) rfl (by simp [Request.dereferences])
  next c hpc =>
    split at hstep
    next =>
      obtain rfl := Option.some.inj hstep
      exact h.goto (by rw [hpc]; rfl) rfl (by simp [Request.dereferences])
    next => exact absurd hstep (by simp)
  next c hpc =>
    obtain rfl := Option.some.inj hstep
    exact (h.gate _ _ _ _).goto (by simp only [hpc]; rfl) rfl (by simp [Request.dereferences])
  next c hpc =>
    obtain rfl := Option.some.inj hstep
    exact (h.gate _ _ _ _).goto (by simp only [hpc]; rfl) rfl (by simp [Request.dereferences])
  next c hpc =>
    obtain rfl := Option.some.inj hstep
    exact h.destroy hpc
  next => exact absurd hstep (by simp)

/-- A sender touches nothing the invariant is about. -/
theorem RequestInv.senderStep (h : RequestInv s) (i : Nat) : RequestInv (senderStep s i) := by
  unfold Channel.senderStep Globals.senderGoto
  split
  next => exact h.gate _ _ _ _
  next =>
    split
    next => exact h.gate _ _ _ _
    next => exact h.gate _ _ _ _
  next =>
    split
    next => exact h.gate _ _ _ _
    next => exact h.gate _ _ _ _
  next => exact h.gate _ _ _ _
  next => exact h.gate _ _ _ _

theorem RequestInv.step (h : RequestInv s) {action : Action} {s' : Globals}
    (hguard : StepGuard s action) (hstep : step s action = some s') : RequestInv s' := by
  cases action with
  | request r action => exact h.requestStep hguard hstep
  | sender i =>
    obtain rfl := Option.some.inj hstep
    exact h.senderStep i

/-! ## Runs -/

/-- **In every run whose steps are guarded, the life cycle stays in order.** -/
theorem lifeCycle_of_guarded {actions : List Action}
    (h : Guarded step StepGuard .loaded actions) : Always step LifeCycleOk .loaded actions :=
  always_of_guarded (fun {s} (hinv : RequestInv s) => hinv.ok)
    (fun hinv hguard hstep => hinv.step hguard hstep) loaded_requestInv h

/-- A setup, then a teardown that a close overlaps: the close passes its flag
test and comes too late for the exchange. -/
theorem lifeCycle_overlappingClose :
    Always step LifeCycleOk .loaded
      [.request 0 .setup, .request 0 .next, .request 0 (.create (some 7)), .request 0 .next,
        .request 0 .next, .request 0 .next, .request 0 .next, .request 0 .next,
        .request 0 .next, .request 1 (.teardown 7), .request 2 .close, .request 1 .next,
        .request 1 .next, .request 2 .next, .request 1 .next, .request 1 .next,
        .request 1 .next, .request 1 .next, .request 1 .next] := by
  apply lifeCycle_of_guarded
  refine .cons rfl trivial (.cons rfl rfl (.cons rfl trivial (.cons rfl ?_ ?_)))
  · intro c hc
    exact absurd hc (by simp [Globals.loaded, Globals.goto])
  refine .cons rfl trivial (.cons rfl trivial (.cons rfl trivial (.cons rfl trivial
    (.cons rfl trivial (.cons rfl (fun _ => by decide) (.cons rfl trivial
    (.cons rfl trivial (.cons rfl ?_ (.cons rfl ?_ ?_)))))))))
  · -- the exchange of the teardown
    intro r' hr'
    rcases r' with _ | _ | _ | r'
    · rfl
    · exact absurd rfl hr'
    · rfl
    · rfl
  · -- the exchange of the close
    intro r' hr'
    rcases r' with _ | _ | _ | r'
    · rfl
    · rfl
    · exact absurd rfl hr'
    · rfl
  exact .cons rfl trivial (.cons rfl trivial (.cons rfl trivial (.cons rfl trivial
    (.cons rfl trivial trivial))))

/-- Two setups find the flag clear. The second one stores NULL over the channel
the first one has published. -/
theorem not_lifeCycle_overlappingSetups :
    ¬ Always step LifeCycleOk .loaded
      [.request 0 .setup, .request 1 .setup, .request 0 .next,
        .request 0 (.create (some 7)), .request 0 .next, .request 1 .next] := by
  intro h
  have hlast := (((((h.tail rfl).tail rfl).tail rfl).tail rfl).tail rfl).tail rfl
  have hlost := hlast.reachable ⟨0, 7⟩ (by decide) (by decide)
  exact absurd hlost (by decide)

end DeepShield.Channel
