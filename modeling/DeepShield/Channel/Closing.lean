import DeepShield.Channel.Buckets
import DeepShield.Channel.LifeCycle

/-!
# Closing the channel

Three paths close the channel: the teardown request, the last close of the device and
`DriverUnload`. Each takes `gChannel` by an exchange, waits until the rundown is released,
completes it, clears the flag, and only then calls `DsDestroyChannel`, which tells the
helper to terminate and waits for its acknowledgement, for three seconds at most.

What the rundown waits for are senders, and a sender waits for the helper: it sets the
HighEvent of its bucket and waits for the LowEvent. `DsSendNotificationMessage` computes a
due time of three seconds for this wait and does not pass it on, so that the wait has no
end if the helper is gone. The terminate message would not end it either, as it comes
after the rundown; and it sets HighEvents.

* `Deadlocked` is the state that should not be reached: a closing thread waits for the
  rundown, and every sender that holds it is in a wait that nobody can end (`Stuck`).
* `stuckless_iff_guarded`: nobody gets stuck exactly if the helper never dies while it owes
  an answer, and no sender turns to it after its death. `closing_guarded` is what follows
  for the closing threads, and `Abandoned.always` says that being stuck is for ever.
-/

namespace DeepShield.Channel

open DeepShield.Lib

/-! ## The parties -/

/-- Where a sender is, in `DsSendNotificationMessage`: outside, past the flag, with the
rundown, with a bucket, waiting for its LowEvent, answered, and before the release of the
rundown. Of the two steps that take a bucket, which `Channel.Buckets` is about, one is
left. -/
inductive ClosingSender
  | idle
  | tested
  | acquired
  | taken (bucket : Nat)
  | waiting (bucket : Nat)
  | answered (bucket : Nat)
  | releasing
deriving Repr, DecidableEq

/-- Where a closing thread is: `DsCtlShieldChannelTeardown`, `DriverDeviceCreateClose` or
`DriverUnload`. -/
inductive Closer
  | idle
  | tested
  | taken
  | waiting
  | released
  | completed
  | destroying (idx : Nat)
  | acknowledging
  | destroyed
deriving Repr, DecidableEq

/-- The channel with its buckets and their events, the helper, with the HighEvents it has
taken and not answered, and the parties. -/
structure Closing where
  gChannel : Bool
  channelSetup : Bool
  gChannelRundown : Rundown
  free : Nat → Bool
  highEvent : Nat → Bool
  lowEvent : Nat → Bool
  helperAlive : Bool
  answering : Nat → Bool
  senders : Nat → ClosingSender
  closers : Nat → Closer

/-- A channel that was set up. -/
def Closing.initial : Closing where
  gChannel := true
  channelSetup := true
  gChannelRundown := exInitializeRundownProtection
  free _ := true
  highEvent _ := false
  lowEvent _ := false
  helperAlive := true
  answering _ := false
  senders _ := .idle
  closers _ := .idle

/-- Sender `i` moves on. -/
def Closing.senderGoto (s : Closing) (i : Nat) (sender : ClosingSender) : Closing :=
  { s with senders := Function.update s.senders i sender }

/-- Closing thread `c` moves on. -/
def Closing.closerGoto (s : Closing) (c : Nat) (closer : Closer) : Closing :=
  { s with closers := Function.update s.closers c closer }

/-! ## Steps -/

/-- A step of sender `i`; `bucket` is the one it takes, if there is a free one. -/
def closingSenderStep (s : Closing) (i bucket : Nat) : Option Closing :=
  match s.senders i with
  | .idle => some (if s.channelSetup then s.senderGoto i .tested else s)
  | .tested =>
    match exAcquireRundownProtection s.gChannelRundown with
    | none => some (s.senderGoto i .idle)
    | some rundown => some ({ s with gChannelRundown := rundown }.senderGoto i .acquired)
  -- DsAcquireChannelBucket
  | .acquired =>
    if ∀ b < dsMaxBuckets, s.free b = false then some (s.senderGoto i .releasing)
    else if bucket < dsMaxBuckets ∧ s.free bucket = true then
      some ({ s with free := Function.update s.free bucket false }.senderGoto i (.taken bucket))
    else none
  | .taken bucket =>
    some ({ s with
      highEvent := Function.update s.highEvent bucket true }.senderGoto i (.waiting bucket))
  -- KeWaitForSingleObject, without a timeout
  | .waiting bucket =>
    if s.lowEvent bucket then
      some ({ s with
        lowEvent := Function.update s.lowEvent bucket false }.senderGoto i (.answered bucket))
    else none
  -- DsReleaseChannelBucket
  | .answered bucket =>
    some ({ s with free := Function.update s.free bucket true }.senderGoto i .releasing)
  | .releasing =>
    some ({ s with
      gChannelRundown := exReleaseRundownProtection s.gChannelRundown }.senderGoto i .idle)

/-- A step of closing thread `c`; `found` says whether the test before the exchange, of
the channel's id or of the open count, lets it pass. -/
def closerStep (s : Closing) (c : Nat) (found : Bool) : Option Closing :=
  match s.closers c with
  | .idle => some (if s.channelSetup && found then s.closerGoto c .tested else s)
  | .tested =>
    some (if s.gChannel then { s with gChannel := false }.closerGoto c .taken
      else s.closerGoto c .idle)
  | .taken =>
    some ({ s with gChannelRundown := { s.gChannelRundown with active := true } }.closerGoto c
      .waiting)
  | .waiting =>
    if s.gChannelRundown.references = 0 then some (s.closerGoto c .released) else none
  | .released => some ({ s with gChannelRundown := exRundownCompleted }.closerGoto c .completed)
  | .completed => some ({ s with channelSetup := false }.closerGoto c (.destroying 0))
  -- DsDestroyChannel
  | .destroying idx =>
    if idx < dsMaxBuckets then
      some ({ s with
        highEvent := Function.update s.highEvent idx true }.closerGoto c (.destroying (idx + 1)))
    else some (s.closerGoto c .acknowledging)
  -- three seconds at most
  | .acknowledging => some (s.closerGoto c .destroyed)
  | .destroyed => none

/-- What happens: a sender or a closing thread goes on, the helper takes a HighEvent or
answers it, or it dies. -/
inductive ClosingAction
  | sender (i bucket : Nat)
  | closer (c : Nat) (found : Bool)
  | helperTakes (bucket : Nat)
  | helperAnswers (bucket : Nat)
  | helperDies
deriving Repr, DecidableEq

/-- One step; none if the party has to wait. -/
def closingStep (s : Closing) : ClosingAction → Option Closing
  | .sender i bucket => closingSenderStep s i bucket
  | .closer c found => closerStep s c found
  | .helperTakes bucket =>
    if s.helperAlive ∧ s.highEvent bucket then
      some { s with
        highEvent := Function.update s.highEvent bucket false
        answering := Function.update s.answering bucket true }
    else none
  | .helperAnswers bucket =>
    if s.helperAlive ∧ s.answering bucket then
      some { s with
        answering := Function.update s.answering bucket false
        lowEvent := Function.update s.lowEvent bucket true }
    else none
  | .helperDies => some { s with helperAlive := false }

/-! ## The property -/

/-- Between the acquisition of the rundown and its release. -/
def ClosingSender.holdsRundown : ClosingSender → Bool
  | idle | tested => false
  | acquired | taken _ | waiting _ | answered _ | releasing => true

/-- The answer to the HighEvent of this bucket is there, or the helper will give it. -/
def Closing.Answered (s : Closing) (bucket : Nat) : Prop :=
  s.lowEvent bucket = true ∨
    s.helperAlive = true ∧ (s.highEvent bucket = true ∨ s.answering bucket = true)

/-- Sender `i` is in a wait that nobody can end. -/
def Stuck (s : Closing) (i : Nat) : Prop :=
  ∃ bucket, s.senders i = .waiting bucket ∧ ¬ s.Answered bucket

/-- A closing thread waits for the rundown, and all senders that hold it are stuck. -/
def Deadlocked (s : Closing) : Prop :=
  (∃ c, s.closers c = .waiting) ∧ (∃ i, (s.senders i).holdsRundown = true) ∧
    ∀ i, (s.senders i).holdsRundown = true → Stuck s i

/-- Nobody is stuck. -/
def Stuckless (s : Closing) : Prop := ∀ i, ¬ Stuck s i

/-! ## The condition -/

/-- The helper dies only while every sender that waits has its answer, and a sender turns
to a helper that is alive. -/
def ClosingGuard (s : Closing) : ClosingAction → Prop
  | .helperDies => ∀ i bucket, s.senders i = .waiting bucket → s.lowEvent bucket = true
  | .sender i _ =>
    ∀ bucket, s.senders i = .taken bucket → s.helperAlive = true ∨ s.lowEvent bucket = true
  | .closer _ _ | .helperTakes _ | .helperAnswers _ => True

/-! ## The invariant -/

/-- With this bucket. -/
def ClosingSender.holds (bucket : Nat) : ClosingSender → Prop
  | taken b | waiting b | answered b => b = bucket
  | idle | tested | acquired | releasing => False

/-- **The invariant**: a bucket is with one sender, and who waits will be answered. -/
structure ClosingInv (s : Closing) : Prop where
  buckets : ∀ b, Guards (ClosingSender.holds b) (!s.free b) s.senders
  answered : ∀ i bucket, s.senders i = .waiting bucket → s.Answered bucket

theorem closingInv_initial : ClosingInv .initial where
  buckets _ := guards_free fun _ => id
  answered _ _ h := ClosingSender.noConfusion h

namespace ClosingInv

variable {s s' : Closing} {i bucket : Nat}

theorem stuckless (h : ClosingInv s) : Stuckless s := by
  intro i hstuck
  obtain ⟨bucket, hpc, hnot⟩ := hstuck
  exact hnot (h.answered i bucket hpc)

/-- **A sender moves on**, and does not take what another one waits for. -/
theorem move {pc : ClosingSender} {rundown : Rundown} {free high low : Nat → Bool}
    (h : ClosingInv s)
    (hbuckets : ∀ b, Guards (ClosingSender.holds b) (!free b) (Function.update s.senders i pc))
    (hself : ∀ b, pc = .waiting b →
      low b = true ∨ s.helperAlive = true ∧ (high b = true ∨ s.answering b = true))
    (hothers : ∀ j b, j ≠ i → s.senders j = .waiting b →
      (s.lowEvent b = true → low b = true) ∧ (s.highEvent b = true → high b = true)) :
    ClosingInv ({ s with
      gChannelRundown := rundown
      free := free
      highEvent := high
      lowEvent := low }.senderGoto i pc) where
  buckets := hbuckets
  answered j b hj := by
    have hj : Function.update s.senders i pc j = .waiting b := hj
    by_cases hji : j = i
    · rw [hji, Function.update_self] at hj
      exact hself b hj
    · rw [Function.update_of_ne hji] at hj
      obtain ⟨hlow, hhigh⟩ := hothers j b hji hj
      rcases h.answered j b hj with hanswer | ⟨halive, hpending⟩
      · exact Or.inl (hlow hanswer)
      · refine Or.inr ⟨halive, ?_⟩
        rcases hpending with hset | htaken
        · exact Or.inl (hhigh hset)
        · exact Or.inr htaken

/-- A sender moves on with the same bucket, or without one as before. -/
theorem stay {pc : ClosingSender} {rundown : Rundown} {high low : Nat → Bool} (h : ClosingInv s)
    (hholds : ∀ b, pc.holds b ↔ (s.senders i).holds b)
    (hself : ∀ b, pc = .waiting b →
      low b = true ∨ s.helperAlive = true ∧ (high b = true ∨ s.answering b = true))
    (hothers : ∀ j b, j ≠ i → s.senders j = .waiting b →
      (s.lowEvent b = true → low b = true) ∧ (s.highEvent b = true → high b = true)) :
    ClosingInv ({ s with
      gChannelRundown := rundown
      highEvent := high
      lowEvent := low }.senderGoto i pc) :=
  h.move (fun b => (h.buckets b).stay (hholds b)) hself hothers

/-- Two senders do not have the same bucket. -/
theorem apart {j b : Nat} (h : ClosingInv s) (hi : (s.senders i).holds bucket) (hji : j ≠ i)
    (hj : s.senders j = .waiting b) : b ≠ bucket := by
  intro heq
  refine (h.buckets bucket).others hi j hji ?_
  rw [hj]
  exact heq

/-- **A step of a sender.** -/
theorem sender {free : Nat} (h : ClosingInv s) (hguard : ClosingGuard s (.sender i free))
    (hstep : closingSenderStep s i free = some s') : ClosingInv s' := by
  have hsame : ∀ j b, j ≠ i → s.senders j = .waiting b →
      (s.lowEvent b = true → s.lowEvent b = true) ∧
        (s.highEvent b = true → s.highEvent b = true) := fun _ _ _ _ => ⟨id, id⟩
  cases hpc : s.senders i with
  | idle =>
    simp only [closingSenderStep, hpc] at hstep
    obtain rfl := Option.some.inj hstep
    split
    next =>
      exact h.stay (fun b => by rw [hpc]; exact Iff.rfl) (fun _ => ClosingSender.noConfusion) hsame
    next => exact h
  | tested =>
    have hmoves : ∀ {pc : ClosingSender} {rundown : Rundown}, (∀ b, ¬ pc.holds b) →
        (∀ b, pc ≠ .waiting b) →
        ClosingInv ({ s with gChannelRundown := rundown }.senderGoto i pc) :=
      fun hnone hwaits => h.stay
        (fun b => by rw [hpc]; exact ⟨fun hb => absurd hb (hnone b), False.elim⟩)
        (fun b heq => absurd heq (hwaits b)) hsame
    simp only [closingSenderStep, hpc] at hstep
    split at hstep
    next =>
      obtain rfl := Option.some.inj hstep
      exact hmoves (fun _ => id) fun _ => ClosingSender.noConfusion
    next =>
      obtain rfl := Option.some.inj hstep
      exact hmoves (fun _ => id) fun _ => ClosingSender.noConfusion
  | acquired =>
    simp only [closingSenderStep, hpc] at hstep
    split at hstep
    next =>
      obtain rfl := Option.some.inj hstep
      exact h.stay (fun b => by rw [hpc]; exact Iff.rfl) (fun _ => ClosingSender.noConfusion) hsame
    next =>
      split at hstep
      next hfree =>
        obtain rfl := Option.some.inj hstep
        refine h.move (fun b => ?_) (fun _ => ClosingSender.noConfusion) hsame
        by_cases hb : b = free
        · rw [hb, Function.update_self]
          have hguards := h.buckets free
          rw [hfree.2] at hguards
          exact hguards.take rfl
        · rw [Function.update_of_ne hb]
          refine (h.buckets b).stay ?_
          rw [hpc]
          exact ⟨fun heq => hb heq.symm, False.elim⟩
      next => exact absurd hstep.symm (Option.some_ne_none _)
  | taken b =>
    simp only [closingSenderStep, hpc] at hstep
    obtain rfl := Option.some.inj hstep
    refine h.stay (fun c => by rw [hpc]; exact Iff.rfl) (fun c hc => ?_) fun j c hji hj => ?_
    · obtain rfl := ClosingSender.waiting.inj hc
      rcases hguard b hpc with halive | hanswer
      · exact Or.inr ⟨halive, Or.inl (Function.update_self _ _ _)⟩
      · exact Or.inl hanswer
    · refine ⟨id, fun hset => ?_⟩
      rw [Function.update_of_ne (h.apart (by rw [hpc]; rfl) hji hj)]
      exact hset
  | waiting b =>
    simp only [closingSenderStep, hpc] at hstep
    split at hstep
    next =>
      obtain rfl := Option.some.inj hstep
      refine h.stay (fun c => by rw [hpc]; exact Iff.rfl) (fun _ => ClosingSender.noConfusion)
        fun j c hji hj => ⟨fun hset => ?_, id⟩
      rw [Function.update_of_ne (h.apart (by rw [hpc]; rfl) hji hj)]
      exact hset
    next => exact absurd hstep.symm (Option.some_ne_none _)
  | answered b =>
    simp only [closingSenderStep, hpc] at hstep
    obtain rfl := Option.some.inj hstep
    refine h.move (fun c => ?_) (fun _ => ClosingSender.noConfusion) hsame
    by_cases hc : c = b
    · rw [hc, Function.update_self]
      exact (h.buckets b).give (by rw [hpc]; rfl) id
    · rw [Function.update_of_ne hc]
      refine (h.buckets c).stay ?_
      rw [hpc]
      exact ⟨False.elim, fun heq => hc heq.symm⟩
  | releasing =>
    simp only [closingSenderStep, hpc] at hstep
    obtain rfl := Option.some.inj hstep
    exact h.stay (fun b => by rw [hpc]; exact Iff.rfl) (fun _ => ClosingSender.noConfusion) hsame

/-- What the senders see of a closing thread: HighEvents that are set. -/
theorem congr (h : ClosingInv s) (hsenders : s'.senders = s.senders) (hfree : s'.free = s.free)
    (hanswered : ∀ i b, s.senders i = .waiting b → s.Answered b → s'.Answered b) :
    ClosingInv s' where
  buckets := by rw [hsenders, hfree]; exact h.buckets
  answered i b hi := by
    rw [hsenders] at hi
    exact hanswered i b hi (h.answered i b hi)

/-- **A step of a closing thread.** -/
theorem closer {c : Nat} {found : Bool} (h : ClosingInv s)
    (hstep : closerStep s c found = some s') : ClosingInv s' := by
  have hmore : ∀ {idx : Nat} {rundown : Rundown} {closers : Nat → Closer},
      ClosingInv { s with
        gChannelRundown := rundown
        highEvent := Function.update s.highEvent idx true
        closers := closers } := by
    intro idx rundown closers
    refine h.congr rfl rfl fun i b _ hanswered => ?_
    rcases hanswered with hanswer | ⟨halive, hset | htaken⟩
    · exact Or.inl hanswer
    · refine Or.inr ⟨halive, Or.inl ?_⟩
      by_cases hb : b = idx
      · rw [hb]
        exact Function.update_self _ _ _
      · exact (Function.update_of_ne hb _ _).trans hset
    · exact Or.inr ⟨halive, Or.inr htaken⟩
  cases hpc : s.closers c with
  | idle =>
    simp only [closerStep, hpc] at hstep
    obtain rfl := Option.some.inj hstep
    split
    next => exact h.congr rfl rfl fun _ _ _ => id
    next => exact h
  | tested =>
    simp only [closerStep, hpc] at hstep
    obtain rfl := Option.some.inj hstep
    split
    next => exact h.congr rfl rfl fun _ _ _ => id
    next => exact h.congr rfl rfl fun _ _ _ => id
  | taken | released | completed | acknowledging =>
    simp only [closerStep, hpc] at hstep
    obtain rfl := Option.some.inj hstep
    exact h.congr rfl rfl fun _ _ _ => id
  | waiting =>
    simp only [closerStep, hpc] at hstep
    split at hstep
    next =>
      obtain rfl := Option.some.inj hstep
      exact h.congr rfl rfl fun _ _ _ => id
    next => exact absurd hstep.symm (Option.some_ne_none _)
  | destroying idx =>
    simp only [closerStep, hpc] at hstep
    split at hstep
    next =>
      obtain rfl := Option.some.inj hstep
      exact hmore
    next =>
      obtain rfl := Option.some.inj hstep
      exact h.congr rfl rfl fun _ _ _ => id
  | destroyed =>
    simp only [closerStep, hpc] at hstep
    exact absurd hstep.symm (Option.some_ne_none _)

/-- **One step** that meets the condition keeps the invariant. -/
theorem step {a : ClosingAction} (h : ClosingInv s) (hguard : ClosingGuard s a)
    (hstep : closingStep s a = some s') : ClosingInv s' := by
  cases a with
  | sender i free => exact h.sender hguard hstep
  | closer c found => exact h.closer hstep
  | helperTakes b =>
    simp only [closingStep] at hstep
    split at hstep
    next htakes =>
      obtain rfl := Option.some.inj hstep
      refine h.congr rfl rfl fun i c _ hanswered => ?_
      by_cases hc : c = b
      · rw [hc]
        exact Or.inr ⟨htakes.1, Or.inr (Function.update_self _ _ _)⟩
      · rcases hanswered with hanswer | ⟨halive, hset | htaken⟩
        · exact Or.inl hanswer
        · exact Or.inr ⟨halive, Or.inl ((Function.update_of_ne hc _ _).trans hset)⟩
        · exact Or.inr ⟨halive, Or.inr ((Function.update_of_ne hc _ _).trans htaken)⟩
    next => exact absurd hstep.symm (Option.some_ne_none _)
  | helperAnswers b =>
    simp only [closingStep] at hstep
    split at hstep
    next =>
      obtain rfl := Option.some.inj hstep
      refine h.congr rfl rfl fun i c _ hanswered => ?_
      by_cases hc : c = b
      · rw [hc]
        exact Or.inl (Function.update_self _ _ _)
      · rcases hanswered with hanswer | ⟨halive, hset | htaken⟩
        · exact Or.inl ((Function.update_of_ne hc _ _).trans hanswer)
        · exact Or.inr ⟨halive, Or.inl hset⟩
        · exact Or.inr ⟨halive, Or.inr ((Function.update_of_ne hc _ _).trans htaken)⟩
    next => exact absurd hstep.symm (Option.some_ne_none _)
  | helperDies =>
    simp only [closingStep] at hstep
    obtain rfl := Option.some.inj hstep
    exact h.congr rfl rfl fun i b hi _ => Or.inl (hguard i b hi)

/-- **A step that does not meet the condition** leaves a sender stuck. -/
theorem bad {a : ClosingAction} (hguard : ¬ ClosingGuard s a)
    (hstep : closingStep s a = some s') : ¬ Stuckless s' := by
  intro hstuckless
  cases a with
  | closer c found | helperTakes b | helperAnswers b => exact hguard trivial
  | helperDies =>
    simp only [closingStep] at hstep
    obtain rfl := Option.some.inj hstep
    refine hguard fun i b hi => ?_
    by_contra hlow
    refine hstuckless i ⟨b, hi, fun hanswered => ?_⟩
    rcases hanswered with hanswer | ⟨halive, _⟩
    · exact hlow hanswer
    · exact Bool.noConfusion halive
  | sender i free =>
    refine hguard fun b hi => ?_
    simp only [closingStep, closingSenderStep, hi] at hstep
    obtain rfl := Option.some.inj hstep
    by_contra hnot
    refine hstuckless i ⟨b, Function.update_self _ _ _, fun hanswered => ?_⟩
    rcases hanswered with hanswer | ⟨halive, _⟩
    · exact hnot (Or.inr hanswer)
    · exact hnot (Or.inl halive)

end ClosingInv

/-! ## Being stuck -/

section Stuck

variable {s s' : Closing} {i bucket : Nat}

/-- A sender leaves the others where they are, and sets no LowEvent. -/
theorem closingSenderStep_frame {j free : Nat} (hstep : closingSenderStep s j free = some s') :
    s'.helperAlive = s.helperAlive ∧ (∀ i, i ≠ j → s'.senders i = s.senders i) ∧
      ∀ b, s.lowEvent b = false → s'.lowEvent b = false := by
  have hgoto : ∀ {t : Closing} {pc : ClosingSender}, t.senders = s.senders →
      ∀ i, i ≠ j → (t.senderGoto j pc).senders i = s.senders i := by
    intro t pc hsame i hij
    rw [← hsame]
    exact Function.update_of_ne hij _ _
  cases hpc : s.senders j with
  | idle =>
    simp only [closingSenderStep, hpc] at hstep
    obtain rfl := Option.some.inj hstep
    split
    next => exact ⟨rfl, hgoto rfl, fun _ => id⟩
    next => exact ⟨rfl, fun _ _ => rfl, fun _ => id⟩
  | tested =>
    simp only [closingSenderStep, hpc] at hstep
    split at hstep
    next =>
      obtain rfl := Option.some.inj hstep
      exact ⟨rfl, hgoto rfl, fun _ => id⟩
    next =>
      obtain rfl := Option.some.inj hstep
      exact ⟨rfl, hgoto rfl, fun _ => id⟩
  | acquired =>
    simp only [closingSenderStep, hpc] at hstep
    split at hstep
    next =>
      obtain rfl := Option.some.inj hstep
      exact ⟨rfl, hgoto rfl, fun _ => id⟩
    next =>
      split at hstep
      next =>
        obtain rfl := Option.some.inj hstep
        exact ⟨rfl, hgoto rfl, fun _ => id⟩
      next => exact absurd hstep.symm (Option.some_ne_none _)
  | taken _ | answered _ | releasing =>
    simp only [closingSenderStep, hpc] at hstep
    obtain rfl := Option.some.inj hstep
    exact ⟨rfl, hgoto rfl, fun _ => id⟩
  | waiting c =>
    simp only [closingSenderStep, hpc] at hstep
    split at hstep
    next =>
      obtain rfl := Option.some.inj hstep
      refine ⟨rfl, hgoto rfl, fun b hlow => ?_⟩
      show Function.update s.lowEvent c false b = false
      by_cases hb : b = c
      · rw [hb, Function.update_self]
      · rw [Function.update_of_ne hb, hlow]
    next => exact absurd hstep.symm (Option.some_ne_none _)

theorem closerStep_frame {c : Nat} {found : Bool} (hstep : closerStep s c found = some s') :
    s'.helperAlive = s.helperAlive ∧ s'.senders = s.senders ∧ s'.lowEvent = s.lowEvent := by
  cases hpc : s.closers c with
  | idle | tested =>
    simp only [closerStep, hpc] at hstep
    obtain rfl := Option.some.inj hstep
    split
    next => exact ⟨rfl, rfl, rfl⟩
    next => exact ⟨rfl, rfl, rfl⟩
  | taken | released | completed | acknowledging =>
    simp only [closerStep, hpc] at hstep
    obtain rfl := Option.some.inj hstep
    exact ⟨rfl, rfl, rfl⟩
  | waiting | destroying _ =>
    simp only [closerStep, hpc] at hstep
    split at hstep
    next =>
      obtain rfl := Option.some.inj hstep
      exact ⟨rfl, rfl, rfl⟩
    next => first
      | exact absurd hstep.symm (Option.some_ne_none _)
      | (obtain rfl := Option.some.inj hstep; exact ⟨rfl, rfl, rfl⟩)
  | destroyed =>
    simp only [closerStep, hpc] at hstep
    exact absurd hstep.symm (Option.some_ne_none _)

/-- Sender `i` waits, unanswered, and the helper is dead. -/
def Abandoned (i bucket : Nat) (s : Closing) : Prop :=
  s.helperAlive = false ∧ s.senders i = .waiting bucket ∧ s.lowEvent bucket = false

theorem Abandoned.stuck (h : Abandoned i bucket s) : Stuck s i := by
  obtain ⟨hdead, hpc, hlow⟩ := h
  refine ⟨bucket, hpc, fun hanswered => ?_⟩
  rcases hanswered with hanswer | ⟨halive, _⟩
  · rw [hlow] at hanswer
    exact Bool.noConfusion hanswer
  · rw [hdead] at halive
    exact Bool.noConfusion halive

theorem Abandoned.step {a : ClosingAction} (h : Abandoned i bucket s)
    (hstep : closingStep s a = some s') : Abandoned i bucket s' := by
  obtain ⟨hdead, hpc, hlow⟩ := h
  cases a with
  | sender j free =>
    obtain ⟨halive, hsenders, hevents⟩ := closingSenderStep_frame hstep
    have hij : i ≠ j := by
      intro heq
      simp only [closingStep, closingSenderStep, ← heq, hpc, hlow] at hstep
      exact absurd hstep.symm (Option.some_ne_none _)
    exact ⟨halive.trans hdead, (hsenders i hij).trans hpc, hevents bucket hlow⟩
  | closer c found =>
    obtain ⟨halive, hsenders, hevents⟩ := closerStep_frame hstep
    exact ⟨halive.trans hdead, by rw [hsenders]; exact hpc, by rw [hevents]; exact hlow⟩
  | helperTakes b | helperAnswers b =>
    simp [closingStep, hdead] at hstep
  | helperDies =>
    simp only [closingStep] at hstep
    obtain rfl := Option.some.inj hstep
    exact ⟨rfl, hpc, hlow⟩

/-- **Stuck for ever**: a sender that a dead helper left waiting never releases the
rundown. -/
theorem Abandoned.always {actions : List ClosingAction} (h : Abandoned i bucket s) :
    Always closingStep (fun s => Stuck s i) s actions :=
  always_of_inv Abandoned.stuck Abandoned.step h

end Stuck

/-- A closing thread that waits for senders none of which is stuck can still be let go. -/
theorem Stuckless.not_deadlocked {s : Closing} (h : Stuckless s) : ¬ Deadlocked s := by
  intro hdeadlocked
  obtain ⟨_, ⟨i, hi⟩, hall⟩ := hdeadlocked
  exact h i (hall i hi)

/-! ## Every run -/

/-- **The exact condition** for no sender to get stuck. -/
theorem stuckless_iff_guarded (actions : List ClosingAction) :
    Always closingStep Stuckless .initial actions ↔
      Guarded closingStep ClosingGuard .initial actions :=
  always_iff_guarded ClosingInv.stuckless ClosingInv.step (fun _ => ClosingInv.bad)
    closingInv_initial

/-- **Closing does not deadlock** in a run in which the helper dies only when it owes no
answer, and no sender turns to it after its death. -/
theorem closing_guarded (actions : List ClosingAction)
    (hguard : Guarded closingStep ClosingGuard .initial actions) :
    Always closingStep (fun s => ¬ Deadlocked s) .initial actions :=
  always_of_guarded (fun h => h.stuckless.not_deadlocked) ClosingInv.step closingInv_initial hguard

/-- A sender, from its start to its wait. -/
def sends (i bucket : Nat) : List ClosingAction :=
  [.sender i bucket, .sender i bucket, .sender i bucket, .sender i bucket]

/-- The helper dies after it has answered, and a thread that closes the channel comes to wait
for the rundown, which the sender still has. -/
def closesAnswered : List ClosingAction :=
  sends 0 15 ++ [.helperTakes 15, .helperAnswers 15, .helperDies, .closer 0 true, .closer 0 true,
    .closer 0 true]

/-- It goes on when the sender has taken its answer. -/
theorem closing_answered :
    Always closingStep (fun s => ¬ Deadlocked s) .initial
        (closesAnswered ++ [.sender 0 0, .sender 0 0, .sender 0 0, .closer 0 true]) ∧
      (closesAnswered.foldlM closingStep .initial).map (fun s => (s.closers 0, s.senders 0))
        = some (.waiting, .waiting 15) := by
  refine ⟨closing_guarded _ (Guarded.cons rfl ?_ (Guarded.cons rfl ?_ (Guarded.cons rfl ?_
    (Guarded.cons rfl ?_ (Guarded.cons rfl trivial (Guarded.cons rfl trivial
      (Guarded.cons rfl ?_ (Guarded.cons rfl trivial (Guarded.cons rfl trivial
        (Guarded.cons rfl trivial (Guarded.cons rfl ?_ (Guarded.cons rfl ?_ (Guarded.cons rfl ?_
          (Guarded.cons rfl trivial trivial)))))))))))))), rfl⟩
  · exact fun _ _ => Or.inl rfl
  · exact fun _ _ => Or.inl rfl
  · exact fun _ _ => Or.inl rfl
  · exact fun _ _ => Or.inl rfl
  · intro i bucket hi
    by_cases h0 : i = 0
    · subst h0
      obtain rfl := ClosingSender.waiting.inj hi
      rfl
    · have hidle : Function.update (Function.update (Function.update (Function.update
          (fun _ => ClosingSender.idle) 0 .tested) 0 .acquired) 0 (.taken 15)) 0 (.waiting 15) i
          = .waiting bucket := hi
      simp [h0] at hidle
  · exact fun _ htaken => ClosingSender.noConfusion htaken
  · exact fun _ htaken => ClosingSender.noConfusion htaken
  · exact fun _ htaken => ClosingSender.noConfusion htaken

/-- A sender waits for the helper, which dies; its handles are closed, and the last close
waits for the sender. -/
theorem not_closing_helperDies :
    ¬ Always closingStep (fun s => ¬ Deadlocked s) .initial
      (sends 0 15 ++ [.helperDies, .closer 0 true, .closer 0 true, .closer 0 true]) := by
  intro halways
  have hlast := ((((((((halways.tail rfl).tail rfl).tail rfl).tail rfl).tail rfl).tail rfl).tail
    rfl).tail rfl).head
  refine hlast ⟨⟨0, rfl⟩, ⟨0, rfl⟩, fun i hi => ?_⟩
  by_cases h0 : i = 0
  · subst h0
    exact @Abandoned.stuck _ 0 15 ⟨rfl, rfl, rfl⟩
  · have hholds : (Function.update (Function.update (Function.update (Function.update
        (fun _ => ClosingSender.idle) 0 .tested) 0 .acquired) 0 (.taken 15)) 0 (.waiting 15)
        i).holdsRundown = true := hi
    simp [h0, ClosingSender.holdsRundown] at hholds

end DeepShield.Channel
