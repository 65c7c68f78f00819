import DeepShield.Os.BarrierRuns
import DeepShield.Os.SemaphoreRuns

/-!
# The turnstiles of the barrier as words

`Barrier` has a semaphore as a truth value and an integer, and lets a thread that finds the
lock taken wait. `SemaphoreRuns` has it as the two words that lie in memory, whose counter
wraps, and there such a thread spins. They are the same two functions: as long as the counter
fits its word, a step of the one is a step of the other (`callStep_words`).

The counters of the turnstiles fit, as they are 0 or 1. So whatever the threads of the barrier
do, what a turnstile sees of it is a run of the semaphore of words
(`barrier_turnstiles`), and what `SemaphoreRuns` says of those runs is true of it.
-/

namespace DeepShield.Os

open DeepShield.Lib DeepShield.Os.Sync

/-! ## Words -/

/-- A semaphore as it lies in memory. -/
def Semaphore.words (semaphore : Semaphore) : Sync.Semaphore where
  lock := if semaphore.lock then 1 else 0
  count := BitVec.ofInt 64 semaphore.count

/-- Where a thread is that is there. -/
def SemaphorePc.words : SemaphorePc → CallPc
  | .lock => .spinning
  | .read => .reading
  | .write count => .writing (BitVec.ofInt 64 count)
  | .retry => .unlocking true
  | .unlock => .unlocking false

/-- The call that an operation is. -/
def SemaphoreUse.call : SemaphoreUse → Call
  | closingWait | passingWait => .semaphoreWait
  | closingSignal | passingSignal => .semaphoreSignal

/-- A counter that its word does not wrap. -/
def FitsWord (count : Int) : Prop := -0x8000000000000000 ≤ count ∧ count < 0x8000000000000000

section Words

variable {ι : Type} [DecidableEq ι] {semaphore : Semaphore} {use : SemaphoreUse} {pc : SemaphorePc}

/-- The test of `SemaphoreWait`. -/
theorem one_sle_ofInt {count : Int} (hfits : FitsWord count) :
    (1 : BitVec 64).sle (BitVec.ofInt 64 count) = decide (count ≥ 1) := by
  obtain ⟨hlo, hhi⟩ := hfits
  have hcount : (BitVec.ofInt 64 count).toInt = count :=
    BitVec.toInt_ofInt_eq_self (by decide) (by omega) (by omega)
  rw [BitVec.sle, hcount]
  rfl

/-- A thread that has read the counter knows the same of it. -/
theorem onRead_words (hfits : FitsWord semaphore.count) :
    ∃ pc', use.step semaphore .read = some (semaphore, some pc') ∧
      use.call.onRead semaphore.words.count = pc'.words := by
  have hwait : Call.semaphoreWait.onRead semaphore.words.count
      = (if semaphore.count ≥ 1 then SemaphorePc.write (semaphore.count - 1)
          else .retry).words := by
    unfold Call.onRead
    have htest : (1 : BitVec 64).sle semaphore.words.count = decide (semaphore.count ≥ 1) :=
      one_sle_ofInt hfits
    rw [htest]
    by_cases hpos : semaphore.count ≥ 1
    · have hless : BitVec.ofInt 64 (semaphore.count - 1) = semaphore.words.count - 1 := by
        rw [Int.sub_eq_add_neg, BitVec.ofInt_add, BitVec.sub_eq_add_neg]
        rfl
      rw [if_pos (decide_eq_true hpos), if_pos hpos, SemaphorePc.words, hless]
    · rw [if_neg (by simpa using hpos), if_neg hpos]
      rfl
  have hsignal : Call.semaphoreSignal.onRead semaphore.words.count
      = (SemaphorePc.write (semaphore.count + 1)).words := by
    rw [SemaphorePc.words, BitVec.ofInt_add]
    rfl
  cases use with
  | closingWait | passingWait => exact ⟨_, rfl, hwait⟩
  | closingSignal | passingSignal => exact ⟨_, rfl, hsignal⟩

/-- The semaphore and the thread after a step, as words; a thread that has to wait spins. -/
def SemaphoreUse.after (use : SemaphoreUse) (semaphore : Semaphore) (pc : SemaphorePc) :
    Sync.Semaphore × Option (Call × CallPc) :=
  match use.step semaphore pc with
  | none => (semaphore.words, some (use.call, .spinning))
  | some (semaphore', pc') => (semaphore'.words, pc'.map fun pc' => (use.call, pc'.words))

/-- **A step of the one is a step of the other.** -/
theorem callStep_words (hfits : FitsWord semaphore.count) {s : SemaphoreState ι}
    (hs : s.semaphore = semaphore.words) (i : ι) :
    callStep s i use.call pc.words
      = s.move i (use.after semaphore pc).1 (use.after semaphore pc).2 := by
  cases pc with
  | lock =>
    obtain ⟨locked, count⟩ := semaphore
    unfold callStep SemaphorePc.words
    rw [hs]
    cases use with
    | closingWait | closingSignal | passingWait | passingSignal =>
      cases locked with
      | true | false => rfl
  | read =>
    obtain ⟨pc', hstep, hread⟩ := @onRead_words _ use hfits
    rw [SemaphoreUse.after, hstep]
    unfold callStep SemaphorePc.words
    rw [hs, hread]
    rfl
  | write c | retry | unlock =>
    obtain ⟨locked, count⟩ := semaphore
    unfold callStep SemaphorePc.words
    rw [hs]
    cases use with
    | closingWait | closingSignal | passingWait | passingSignal =>
      cases locked with
      | true | false => rfl

end Words

/-! ## What a turnstile sees -/

/-- The operation on turnstile `t` that a thread is in. -/
def BarrierThread.inTurnstile (t : Turnstile) (thread : BarrierThread) : Option (Call × CallPc) :=
  match thread.pc with
  | .semaphore use pc =>
    if use.turnstile (barrierCall thread.calls) = t then some (use.call, pc.words) else none
  | .idle | .lock | .read | .write _ | .test _ | .unlock => none

/-- A turnstile, and the threads that are in an operation on it. -/
def Barrier.turnstileWords (s : Barrier) (t : Turnstile) : SemaphoreState Nat where
  semaphore := (s.turnstiles t).words
  threads i := (s.threads i).inTurnstile t

section Turnstiles

variable {n round i : Nat} {s s' : Barrier} {t : Turnstile} {thread : BarrierThread}
  {S : SemaphoreState Nat}

theorem turnstileWords_goto : (s.goto i thread).turnstileWords t
    = (s.turnstileWords t).move i (s.turnstiles t).words (thread.inTurnstile t) := by
  unfold Barrier.turnstileWords SemaphoreState.move
  congr 1
  funext j
  exact Function.apply_update (fun _ => BarrierThread.inTurnstile t) s.threads i thread j

/-- A thread that is in no operation, or at the beginning of one. -/
def BarrierThread.Comes (thread : BarrierThread) : Prop :=
  ∀ use pc, thread.pc = .semaphore use pc → pc = .lock

/-- **A thread comes** to a turnstile, or stays away from it. -/
theorem run_comes (hi : S.threads i = none) (hcomes : thread.Comes) :
    ∃ actions, semaphoreSystem.run S actions
      = some (S.move i S.semaphore (thread.inTurnstile t)) := by
  have haway : S = S.move i S.semaphore none := by
    unfold SemaphoreState.move
    rw [← hi, Function.update_eq_self]
  unfold BarrierThread.inTurnstile
  split
  next use pc hpc =>
    obtain rfl := hcomes use pc hpc
    by_cases ht : use.turnstile (barrierCall thread.calls) = t
    · rw [if_pos ht]
      refine ⟨[.call i use.call], System.run_one ?_⟩
      simp only [semaphoreSystem, hi]
      rfl
    · rw [if_neg ht]
      exact ⟨[], congrArg some haway⟩
  all_goals exact ⟨[], congrArg some haway⟩

/-- A step outside the semaphores. -/
theorem run_outside (hpc : (s.threads i).inTurnstile t = none) (hcomes : thread.Comes)
    (hsame : s'.turnstiles = s.turnstiles) (hthreads : s'.threads = s.threads) :
    ∃ actions, semaphoreSystem.run (s.turnstileWords t) actions
      = some ((s'.goto i thread).turnstileWords t) := by
  have hwords : s'.turnstileWords t = s.turnstileWords t := by
    unfold Barrier.turnstileWords
    rw [hsame, hthreads]
  rw [turnstileWords_goto, hwords, hsame]
  exact run_comes hpc hcomes

theorem comes_next (calls : Nat) (use : SemaphoreUse) :
    BarrierThread.Comes ⟨calls, use.next⟩ := by
  intro use' pc hpc
  cases use with
  | closingWait | passingWait => exact (BarrierPc.semaphore.inj hpc).2.symm
  | closingSignal | passingSignal => exact BarrierPc.noConfusion hpc

section Semaphore

variable {calls : Nat} {use : SemaphoreUse} {pc : SemaphorePc} {semaphore : Semaphore}
  {pc' : Option SemaphorePc}

/-- A thread in a semaphore after a step there: it goes on, or is back from the call. -/
def BarrierThread.afterSemaphore (calls : Nat) (use : SemaphoreUse) (pc' : Option SemaphorePc) :
    BarrierThread :=
  ⟨calls, match pc' with
    | some pc' => .semaphore use pc'
    | none => use.next⟩

theorem inTurnstile_semaphore (calls : Nat) (use : SemaphoreUse) (pc : SemaphorePc) :
    BarrierThread.inTurnstile t ⟨calls, .semaphore use pc⟩
      = if use.turnstile (barrierCall calls) = t then some (use.call, pc.words) else none :=
  rfl

/-- A step in the turnstile: the thread goes on in its call, and may be back from it and
begin the next. -/
theorem run_here (hthread : s.threads i = ⟨calls, .semaphore use pc⟩)
    (hturnstile : use.turnstile (barrierCall calls) = t) (hfits : FitsWord (s.turnstiles t).count)
    (hstep : use.step (s.turnstiles t) pc = some (semaphore, pc')) :
    ∃ actions, semaphoreSystem.run (s.turnstileWords t) actions
      = some ((s.turnstileWords t).move i semaphore.words
        ((BarrierThread.afterSemaphore calls use pc').inTurnstile t)) := by
  have hin : (s.turnstileWords t).threads i = some (use.call, pc.words) := by
    show (s.threads i).inTurnstile t = _
    rw [hthread, inTurnstile_semaphore, if_pos hturnstile]
  have hgoOn : semaphoreSystem.step (s.turnstileWords t) (.goOn i)
      = some ((s.turnstileWords t).move i semaphore.words
        (pc'.map fun pc' => (use.call, pc'.words))) := by
    simp only [semaphoreSystem, hin]
    rw [callStep_words hfits rfl, SemaphoreUse.after, hstep]
  cases pc' with
  | some next =>
    refine ⟨[.goOn i], (System.run_one hgoOn).trans ?_⟩
    unfold BarrierThread.afterSemaphore
    rw [inTurnstile_semaphore, if_pos hturnstile]
    rfl
  | none =>
    have hout : ((s.turnstileWords t).move i semaphore.words none).threads i = none :=
      by simp [SemaphoreState.move]
    obtain ⟨actions, hactions⟩ := @run_comes i t _ _ hout (comes_next calls use)
    refine ⟨.goOn i :: actions, (System.run_cons hgoOn).trans (hactions.trans ?_)⟩
    unfold SemaphoreState.move BarrierThread.afterSemaphore
    dsimp only
    rw [Function.update_idem]

/-- A step in the other turnstile, from which the thread may come to this one. -/
theorem run_elsewhere (hthread : s.threads i = ⟨calls, .semaphore use pc⟩)
    (hturnstile : use.turnstile (barrierCall calls) ≠ t) :
    ∃ actions, semaphoreSystem.run (s.turnstileWords t) actions
      = some ((s.turnstileWords t).move i (s.turnstileWords t).semaphore
        ((BarrierThread.afterSemaphore calls use pc').inTurnstile t)) := by
  have hout : (s.turnstileWords t).threads i = none := by
    show (s.threads i).inTurnstile t = none
    rw [hthread, inTurnstile_semaphore, if_neg hturnstile]
  cases pc' with
  | some next =>
    refine ⟨[], congrArg some ?_⟩
    unfold BarrierThread.afterSemaphore SemaphoreState.move
    rw [inTurnstile_semaphore, if_neg hturnstile, ← hout, Function.update_eq_self]
  | none => exact run_comes hout (comes_next calls use)

/-- A step in a semaphore. -/
theorem run_semaphore (hthread : s.threads i = ⟨calls, .semaphore use pc⟩)
    (hfits : FitsWord (s.turnstiles t).count)
    (hstep : use.step (s.turnstiles (use.turnstile (barrierCall calls))) pc
      = some (semaphore, pc')) :
    ∃ actions, semaphoreSystem.run (s.turnstileWords t) actions = some
      (({ s with
          turnstiles := Function.update s.turnstiles (use.turnstile (barrierCall calls)) semaphore
        }.goto i (.afterSemaphore calls use pc')).turnstileWords t) := by
  rw [turnstileWords_goto]
  by_cases hturnstile : use.turnstile (barrierCall calls) = t
  · rw [hturnstile] at hstep ⊢
    dsimp only
    rw [Function.update_self]
    exact run_here hthread hturnstile hfits hstep
  · have hsame : Function.update s.turnstiles (use.turnstile (barrierCall calls)) semaphore t
        = s.turnstiles t := Function.update_of_ne (Ne.symm hturnstile) _ _
    have hother : Barrier.turnstileWords { s with
        turnstiles := Function.update s.turnstiles (use.turnstile (barrierCall calls)) semaphore
        } t = s.turnstileWords t :=
      congrArg (fun semaphore => SemaphoreState.mk semaphore.words (s.turnstileWords t).threads)
        hsame
    rw [hother]
    dsimp only
    rw [hsame]
    exact run_elsewhere hthread hturnstile

end Semaphore

/-- **One step** of a thread, as the turnstile sees it. -/
theorem threadStep_turnstile (hfits : FitsWord (s.turnstiles t).count)
    (hstep : threadStep s i = some s') :
    ∃ actions, semaphoreSystem.run (s.turnstileWords t) actions
      = some (s'.turnstileWords t) := by
  have hquiet : ∀ {calls pc}, (∀ use pc', pc ≠ .semaphore use pc') →
      BarrierThread.Comes ⟨calls, pc⟩ := fun hpc use pc' heq => absurd heq (hpc use pc')
  have houtside : ∀ {pc}, (s.threads i).pc = pc → (∀ use pc', pc ≠ .semaphore use pc') →
      (s.threads i).inTurnstile t = none := by
    intro pc hpc hnot
    unfold BarrierThread.inTurnstile
    split
    next use pc' hpc' => exact absurd (hpc.symm.trans hpc') (hnot use pc')
    all_goals rfl
  cases hpc : (s.threads i).pc with
  | idle =>
    simp only [threadStep, hpc] at hstep
    obtain rfl := Option.some.inj hstep
    exact run_outside (houtside hpc (by simp)) (hquiet (by simp)) rfl rfl
  | lock =>
    simp only [threadStep, hpc] at hstep
    split at hstep
    next => exact absurd hstep.symm (Option.some_ne_none _)
    next =>
      obtain rfl := Option.some.inj hstep
      exact run_outside (houtside hpc (by simp)) (hquiet (by simp)) rfl rfl
  | read =>
    simp only [threadStep, hpc] at hstep
    obtain rfl := Option.some.inj hstep
    exact run_outside (houtside hpc (by simp)) (hquiet (by simp)) rfl rfl
  | write count =>
    simp only [threadStep, hpc] at hstep
    obtain rfl := Option.some.inj hstep
    exact run_outside (houtside hpc (by simp)) (hquiet (by simp)) rfl rfl
  | test count =>
    simp only [threadStep, hpc] at hstep
    obtain rfl := Option.some.inj hstep
    refine run_outside (houtside hpc (by simp)) (fun use pc heq => ?_) rfl rfl
    dsimp only at heq
    split at heq
    next => exact (BarrierPc.semaphore.inj heq).2.symm
    next => exact BarrierPc.noConfusion heq
  | semaphore use pc =>
    simp only [threadStep, hpc] at hstep
    split at hstep
    next => exact absurd hstep.symm (Option.some_ne_none _)
    next semaphore pc' hsemaphore =>
      obtain rfl := Option.some.inj hstep
      have hthread : s.threads i = ⟨(s.threads i).calls, .semaphore use pc⟩ := by rw [← hpc]
      exact run_semaphore hthread hfits hsemaphore
  | unlock =>
    simp only [threadStep, hpc] at hstep
    obtain rfl := Option.some.inj hstep
    exact run_outside (houtside hpc (by simp))
      (fun use pc heq => (BarrierPc.semaphore.inj heq).2.symm) rfl rfl

/-- The turnstiles that `BarrierSet` makes. -/
theorem barrierSet_turnstileWords : (barrierSet n).turnstileWords t
    = .start (BitVec.ofInt 64 ((barrierSet n).turnstiles t).count) := by
  cases t with
  | turnstile1 | turnstile2 => rfl

/-- **The turnstiles are semaphores**: in every run of `n` threads that enter and exit in
turn, what became of a turnstile, with the threads that are at it, is what a run of the
semaphore of words comes to. -/
theorem barrier_turnstiles (n : Nat) (t : Turnstile) (threads : List Nat) :
    Always (barrierStep n) (fun s => ∃ actions, semaphoreSystem.run
        (.start (BitVec.ofInt 64 ((barrierSet n).turnstiles t).count)) actions
      = some (s.turnstileWords t)) (barrierSet n) threads := by
  refine @always_of_inv _ _ _ _ (fun s => (∃ round, BarrierInv n round s) ∧
    ∃ actions, semaphoreSystem.run
        (.start (BitVec.ofInt 64 ((barrierSet n).turnstiles t).count)) actions
      = some (s.turnstileWords t)) And.right ?_ _ _
    ⟨⟨1, barrierInv_barrierSet⟩, [], congrArg some barrierSet_turnstileWords.symm⟩
  intro s i s' hinv hstep
  obtain ⟨⟨round, h⟩, actions, hactions⟩ := hinv
  unfold barrierStep at hstep
  split at hstep
  next hi =>
    obtain ⟨hlo, hhi⟩ := h.ok.turnstiles t
    have hfits : FitsWord (s.turnstiles t).count := by
      unfold FitsWord
      omega
    obtain ⟨more, hmore⟩ := threadStep_turnstile hfits hstep
    exact ⟨threadStep_inv h hi hstep, actions ++ more, (System.run_append hactions).trans hmore⟩
  next => exact absurd hstep.symm (Option.some_ne_none _)

end Turnstiles

end DeepShield.Os
