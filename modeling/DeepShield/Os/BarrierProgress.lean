import DeepShield.Os.BarrierRuns

/-!
# The barrier does not deadlock

`barrier_reusable` says that no thread gets through too early. Here is the other half: the
threads do get through. The last thread closes a turnstile while it holds the lock of the
barrier, and to do so it waits on it like everybody else; if the token were with a thread
that needs that lock, nobody would move again.

From every state of every run there is a way on to one in which all threads are back from
the same call (`barrier_progresses`). The way is found by a measure. A thread inside the
lock of a semaphore can always leave it (`settles`); where no thread is, the semaphore
operations can be taken whole, and `advances` goes through what the threads can be waiting
for. What it needs besides `BarrierInv` is that the last thread of a round is on its way to
open the turnstile (`Attended`).
-/

namespace DeepShield.Os

open DeepShield.Lib

/-! ## Who opens the turnstile -/

/-- The thread has come, and may find that it is the last one. -/
def BarrierThread.attends (thread : BarrierThread) : Prop :=
  match thread.pc with
  | .test _ | .semaphore .closingWait _ => True
  | .semaphore .closingSignal pc => pc ≠ .unlock
  | .idle | .lock | .read | .write _ | .semaphore .passingWait _ | .semaphore .passingSignal _
  | .unlock => False

/-- When all came, one thread is about to open the turnstile. -/
def Attended (n round : Nat) (s : Barrier) : Prop :=
  Closing s round → ∃ i < n, (s.threads i).attends

section Attended

variable {n round i : Nat} {s s' : Barrier} {thread : BarrierThread}

/-- The round is closing exactly if every thread came. -/
theorem BarrierInv.closing_iff (h : BarrierInv n round s) :
    Closing s round ↔ tally (BarrierThread.came round) n s.threads = n := by
  unfold Closing
  rw [h.counted, h.maxThreads]
  exact closes_gathered

/-- Inside an operation, it goes on attending until it unlocks. -/
theorem attends_inside {calls : Nat} {use : SemaphoreUse} {pc next : SemaphorePc}
    (hnext : next ≠ .unlock) :
    (⟨calls, .semaphore use pc⟩ : BarrierThread).attends →
      (⟨calls, .semaphore use next⟩ : BarrierThread).attends := by
  cases use with
  | closingWait | passingWait | passingSignal => exact id
  | closingSignal => exact fun _ => hnext

/-- A step that leaves the counter alone, of a thread that goes on attending if it did. -/
theorem Attended.goto (h : Attended n round s) (hmax : s'.maxThreads = s.maxThreads)
    (hcount : s'.count = s.count) (hthreads : s'.threads = Function.update s.threads i thread)
    (hkeep : Closing s round → (s.threads i).attends → thread.attends) :
    Attended n round s' := by
  intro hclosing
  have hbefore : Closing s round := by
    unfold Closing at hclosing ⊢
    rwa [hmax, hcount] at hclosing
  obtain ⟨j, hj, hattends⟩ := h hbefore
  refine ⟨j, hj, ?_⟩
  rw [hthreads]
  by_cases hji : j = i
  · rw [hji, Function.update_self]
    exact hkeep hbefore (hji ▸ hattends)
  · rw [Function.update_of_ne hji]
    exact hattends

/-- A round that has just begun is not closing. -/
theorem BarrierInv.attended_of_not_came (h : BarrierInv n round s) (hi : i < n)
    (hout : (s.threads i).came round = false) : Attended n round s := by
  intro hclosing
  have hcame := tally_eq_iff.mp (h.closing_iff.mp hclosing) i hi
  rw [hout] at hcame
  exact Bool.noConfusion hcame

/-- **One step** keeps both. -/
theorem threadStep_attended (h : BarrierInv n round s) (ha : Attended n round s) (hi : i < n)
    (hstep : threadStep s i = some s') :
    ∃ round', BarrierInv n round' s' ∧ Attended n round' s' := by
  have hat := h.place i hi
  have hgone : ∀ {pc : BarrierPc}, (s.threads i).pc = pc →
      ¬ (⟨(s.threads i).calls, pc⟩ : BarrierThread).attends → ¬ (s.threads i).attends := by
    intro pc hpc hnot
    unfold BarrierThread.attends at hnot ⊢
    rwa [hpc]
  unfold threadStep at hstep
  cases hpc : (s.threads i).pc with
  | idle =>
    simp only [hpc] at hstep
    obtain rfl := Option.some.inj hstep
    exact ⟨round, h.begin hi hpc,
      ha.goto rfl rfl rfl fun _ hattends => absurd hattends (hgone hpc id)⟩
  | lock =>
    simp only [hpc] at hstep
    split at hstep
    next => exact absurd hstep.symm (Option.some_ne_none _)
    next hfree =>
      obtain rfl := Option.some.inj hstep
      exact ⟨round, h.lock hi hpc (Bool.eq_false_iff.mpr hfree),
        ha.goto rfl rfl rfl fun _ hattends => absurd hattends (hgone hpc id)⟩
  | read =>
    simp only [hpc] at hstep
    obtain rfl := Option.some.inj hstep
    exact ⟨round, h.read hi hpc,
      ha.goto rfl rfl rfl fun _ hattends => absurd hattends (hgone hpc id)⟩
  | write count =>
    -- the thread that comes attends
    simp only [hpc] at hstep
    obtain rfl := Option.some.inj hstep
    refine ⟨round, h.come hi hpc, fun _ => ⟨i, hi, ?_⟩⟩
    show (Function.update s.threads i _ i).attends
    rw [Function.update_self]
    trivial
  | test count =>
    simp only [hpc] at hstep
    obtain rfl := Option.some.inj hstep
    refine ⟨round, h.test hi hpc, ha.goto rfl rfl rfl fun hclosing _ => ?_⟩
    simp only [BarrierThread.At, hpc] at hat
    obtain ⟨hcalls, rfl⟩ := hat
    have hcloses : (barrierCall round).closes s.count s.maxThreads = true := hclosing
    rw [hcalls, if_pos hcloses]
    trivial
  | unlock =>
    simp only [hpc] at hstep
    obtain rfl := Option.some.inj hstep
    exact ⟨round, h.unlock hi hpc,
      ha.goto rfl rfl rfl fun _ hattends => absurd hattends (hgone hpc id)⟩
  | semaphore use pc =>
    simp only [hpc] at hstep
    split at hstep
    next => exact absurd hstep.symm (Option.some_ne_none _)
    next semaphore pc' huse =>
      obtain rfl := Option.some.inj hstep
      have hattends : ∀ {next : BarrierPc},
          ((⟨(s.threads i).calls, .semaphore use pc⟩ : BarrierThread).attends →
            (⟨(s.threads i).calls, next⟩ : BarrierThread).attends) →
          (s.threads i).attends → (⟨(s.threads i).calls, next⟩ : BarrierThread).attends := by
        intro next hnext hattends
        refine hnext ?_
        unfold BarrierThread.attends at hattends ⊢
        rwa [hpc] at hattends
      rcases SemaphoreUse.step_cases huse with ⟨rfl, hfree, rfl, rfl⟩ |
        ⟨rfl, rfl, hwrites, hnext⟩ | ⟨c, rfl, rfl, rfl⟩ | ⟨rfl, rfl, rfl⟩ | ⟨rfl, rfl, rfl⟩
      · exact ⟨round, h.lockSemaphore hi hpc hfree,
          ha.goto rfl rfl rfl fun _ => hattends (attends_inside SemaphorePc.noConfusion)⟩
      · rcases hnext with rfl | ⟨c, rfl⟩
        · exact ⟨round, h.readSemaphore hi hpc hwrites (Or.inl rfl),
            ha.goto rfl rfl rfl fun _ => hattends (attends_inside SemaphorePc.noConfusion)⟩
        · exact ⟨round, h.readSemaphore hi hpc hwrites (Or.inr ⟨c, rfl⟩),
            ha.goto rfl rfl rfl fun _ => hattends (attends_inside SemaphorePc.noConfusion)⟩
      · cases use with
        | closingWait =>
          exact ⟨round, h.takeToken hi hpc rfl, ha.goto rfl rfl rfl fun _ => hattends id⟩
        | passingWait =>
          exact ⟨round, h.takeToken hi hpc rfl, ha.goto rfl rfl rfl fun _ => hattends id⟩
        | passingSignal =>
          exact ⟨round, h.giveToken hi hpc, ha.goto rfl rfl rfl fun _ => hattends id⟩
        | closingSignal =>
          -- the next round begins, and this thread has not come to it
          have hopen := h.openRound hi hpc
          refine ⟨round + 1, hopen, hopen.attended_of_not_came hi ?_⟩
          have hcalls := ((h.at hi hpc).1.1 SemaphorePc.noConfusion).1
          show (Function.update s.threads i _ i).came (round + 1) = false
          rw [Function.update_self]
          simp only [BarrierThread.came, beq_eq_false_iff_ne]
          omega
      · exact ⟨round, h.retrySemaphore hi hpc,
          ha.goto rfl rfl rfl fun _ => hattends (attends_inside SemaphorePc.noConfusion)⟩
      · refine ⟨round, h.unlockSemaphore hi hpc, ha.goto rfl rfl rfl fun _ => hattends ?_⟩
        cases use with
        | closingWait => exact fun _ => SemaphorePc.noConfusion
        | closingSignal => exact fun hnot => absurd rfl hnot
        | passingWait | passingSignal => exact id

end Attended

/-! ## Where a run is to go -/

/-- What a run to the end of call `last` keeps. -/
structure Towards (n last : Nat) (s : Barrier) : Prop where
  inv : ∃ round, BarrierInv n round s ∧ Attended n round s
  calls : ∀ i < n, (s.threads i).calls ≤ last

/-- All threads are back from their call `last`. -/
def AllBack (n last : Nat) (s : Barrier) : Prop := ∀ i < n, s.threads i = ⟨last, .idle⟩

/-- No thread is inside the lock of a semaphore. -/
def Settled (n : Nat) (s : Barrier) : Prop :=
  ∀ i < n, ∀ use pc, (s.threads i).pc = .semaphore use pc → pc = .lock

/-- How far a thread is from leaving the lock of the semaphore it is in. -/
def BarrierPc.toLeave : BarrierPc → Nat
  | .semaphore _ .read => 3
  | .semaphore _ (.write _) => 2
  | .semaphore _ .retry | .semaphore _ .unlock => 1
  | .semaphore _ .lock | .idle | .lock | .read | .write _ | .test _ | .unlock => 0

/-- How far a thread is from being back. -/
def BarrierPc.toReturn : BarrierPc → Nat
  | .idle => 0
  | .semaphore .passingSignal _ => 1
  | .semaphore .passingWait _ => 2
  | .unlock => 3
  | .semaphore .closingSignal _ => 4
  | .semaphore .closingWait _ => 5
  | .test _ => 6
  | .write _ => 7
  | .read => 8
  | .lock => 9

/-- How far a thread is from being back from its call `last`. -/
def BarrierThread.toGo (last : Nat) (thread : BarrierThread) : Nat :=
  (last - thread.calls) * 10 + thread.pc.toReturn

/-- Where a step of an operation leads. -/
def SemaphoreUse.goesOn (use : SemaphoreUse) : Option SemaphorePc → BarrierPc
  | some pc => .semaphore use pc
  | none => use.next

theorem SemaphoreUse.next_toReturn (use : SemaphoreUse) (pc : SemaphorePc) :
    use.next.toReturn < (BarrierPc.semaphore use pc).toReturn := by
  cases use with
  | closingWait | closingSignal | passingWait | passingSignal => exact Nat.lt_add_one _

section Steps

variable {n last i : Nat} {s s' : Barrier} {thread : BarrierThread} {use : SemaphoreUse}
  {pc : SemaphorePc}

/-- A step of a thread that does not go beyond its call `last`. -/
theorem Towards.after (h : Towards n last s) (hi : i < n) (hstep : threadStep s i = some s')
    (hthreads : s'.threads = Function.update s.threads i thread) (hcalls : thread.calls ≤ last) :
    Towards n last s' := by
  obtain ⟨round, hinv, hattended⟩ := h.inv
  refine ⟨threadStep_attended hinv hattended hi hstep, fun j hj => ?_⟩
  rw [hthreads]
  by_cases hji : j = i
  · rw [hji, Function.update_self]
    exact hcalls
  · rw [Function.update_of_ne hji]
    exact h.calls j hj

theorem barrierStep_of_lt (hi : i < n) : barrierStep n s i = threadStep s i := if_pos hi

/-- **A step that gets nearer.** -/
theorem Towards.nearer (h : Towards n last s) (hi : i < n) (hstep : threadStep s i = some s')
    (hthreads : s'.threads = Function.update s.threads i thread) (hcalls : thread.calls ≤ last)
    (hless : thread.toGo last < (s.threads i).toGo last) :
    Leads (barrierStep n) (fun s' => Towards n last s' ∧
      total (BarrierThread.toGo last) n s'.threads < total (BarrierThread.toGo last) n s.threads)
      s := by
  refine Leads.after ((barrierStep_of_lt hi).trans hstep) (Leads.here ⟨?_, ?_⟩)
  · exact h.after hi hstep hthreads hcalls
  · rw [hthreads]
    exact total_update_lt hi hless

/-- A step in a semaphore. -/
theorem threadStep_semaphore {semaphore : Semaphore} {pc' : Option SemaphorePc}
    (hpc : (s.threads i).pc = .semaphore use pc)
    (huse : use.step (s.turnstiles (use.turnstile (barrierCall (s.threads i).calls))) pc
      = some (semaphore, pc')) :
    ∃ s', threadStep s i = some s' ∧
      s'.threads = Function.update s.threads i ⟨(s.threads i).calls, use.goesOn pc'⟩ ∧
      s'.turnstiles (use.turnstile (barrierCall (s.threads i).calls)) = semaphore := by
  refine ⟨{ s with
      turnstiles := Function.update s.turnstiles
        (use.turnstile (barrierCall (s.threads i).calls)) semaphore }.goto i
      ⟨(s.threads i).calls, use.goesOn pc'⟩, ?_, rfl, ?_⟩
  · simp only [threadStep, hpc, huse]
    cases pc' with
    | none | some pc' => rfl
  · exact Function.update_self ..

/-- Inside the lock nothing keeps a thread from going on. -/
theorem SemaphoreUse.step_enabled (semaphore : Semaphore) (hpc : pc ≠ .lock) :
    ∃ semaphore' pc', use.step semaphore pc = some (semaphore', pc') := by
  cases pc with
  | lock => exact absurd rfl hpc
  | read | write c | retry | unlock =>
    cases use with
    | closingWait | closingSignal | passingWait | passingSignal => exact ⟨_, _, rfl⟩

/-- **Every thread can leave the lock of its semaphore.** -/
theorem settles (h : Towards n last s) :
    Leads (barrierStep n) (fun s' => (Towards n last s' ∧
      total (BarrierThread.toGo last) n s'.threads ≤ total (BarrierThread.toGo last) n s.threads) ∧
      Settled n s') s := by
  refine @leads_of_measure _ _ _ _ (fun s' => Towards n last s' ∧
    total (BarrierThread.toGo last) n s'.threads ≤ total (BarrierThread.toGo last) n s.threads) _
    (fun s' => total (fun thread => thread.pc.toLeave) n s'.threads) ?_ ⟨h, Nat.le_refl _⟩
  intro t ht
  by_cases hsettled : Settled n t
  · exact Or.inl ⟨ht, hsettled⟩
  · right
    obtain ⟨i, hi, use, pc, hpc, hlock⟩ : ∃ i < n, ∃ use pc,
        (t.threads i).pc = .semaphore use pc ∧ pc ≠ .lock := by
      by_contra hnone
      refine hsettled fun i hi use pc hpc => ?_
      by_contra hlock
      exact hnone ⟨i, hi, use, pc, hpc, hlock⟩
    obtain ⟨semaphore, pc', huse⟩ := use.step_enabled (t.turnstiles _) hlock
    obtain ⟨t', hstep, hthreads, _⟩ := threadStep_semaphore hpc huse
    refine Leads.after ((barrierStep_of_lt hi).trans hstep) (Leads.here ?_)
    have hcalls := ht.1.calls i hi
    refine ⟨⟨ht.1.after hi hstep hthreads hcalls, Nat.le_trans ?_ ht.2⟩, ?_⟩
    · rw [hthreads]
      refine total_update_le ?_
      unfold BarrierThread.toGo
      rw [hpc]
      refine Nat.add_le_add_left ?_ _
      cases pc' with
      | none => exact Nat.le_of_lt (use.next_toReturn pc)
      | some pc' => cases use with
        | closingWait | closingSignal | passingWait | passingSignal => exact Nat.le_refl _
    · rw [hthreads]
      refine total_update_lt hi ?_
      rw [hpc]
      rcases SemaphoreUse.step_cases huse with ⟨rfl, _⟩ | ⟨rfl, _, _, hnext⟩ | ⟨c, rfl, _, rfl⟩ |
        ⟨rfl, _, rfl⟩ | ⟨rfl, _, rfl⟩
      · exact absurd rfl hlock
      · rcases hnext with rfl | ⟨c, rfl⟩
        · show 1 < 3
          omega
        · exact Nat.lt_add_one _
      · exact Nat.lt_add_one _
      · exact Nat.lt_add_one _
      · cases use with
        | closingWait | closingSignal | passingWait | passingSignal => exact Nat.lt_add_one _

/-- An operation taken whole: with its lock free, and a permit there if it waits. -/
theorem SemaphoreUse.whole (use : SemaphoreUse) (count : Int)
    (hcount : use.waits = true → 1 ≤ count) :
    ∃ c, use.step ⟨false, count⟩ .lock = some (⟨true, count⟩, some .read) ∧
      use.step ⟨true, count⟩ .read = some (⟨true, count⟩, some (.write c)) ∧
      use.step ⟨true, count⟩ (.write c) = some (⟨true, c⟩, some .unlock) ∧
      use.step ⟨true, c⟩ .unlock = some (⟨false, c⟩, none) := by
  have hwait : 1 ≤ count → (if count ≥ 1 then SemaphorePc.write (count - 1) else .retry)
      = .write (count - 1) := fun hpos => if_pos hpos
  cases use with
  | closingWait | passingWait =>
    refine ⟨count - 1, rfl, ?_, rfl, rfl⟩
    simp only [SemaphoreUse.step, semaphoreWait, semaphoreStep, hwait (hcount rfl)]
  | closingSignal | passingSignal => exact ⟨count + 1, rfl, rfl, rfl, rfl⟩

/-- A step of an operation, towards the end of call `last`. -/
theorem Towards.inSemaphore (h : Towards n last s) (hi : i < n) {calls : Nat}
    {semaphore semaphore' : Semaphore} {pc' : Option SemaphorePc}
    (hthread : s.threads i = ⟨calls, .semaphore use pc⟩)
    (hsemaphore : s.turnstiles (use.turnstile (barrierCall calls)) = semaphore)
    (huse : use.step semaphore pc = some (semaphore', pc')) :
    ∃ s', barrierStep n s i = some s' ∧ Towards n last s' ∧
      s'.threads = Function.update s.threads i ⟨calls, use.goesOn pc'⟩ ∧
      s'.turnstiles (use.turnstile (barrierCall calls)) = semaphore' := by
  have hcalls : (s.threads i).calls = calls := by rw [hthread]
  have hpc : (s.threads i).pc = .semaphore use pc := by rw [hthread]
  rw [← hcalls] at hsemaphore ⊢
  rw [← hsemaphore] at huse
  obtain ⟨s', hstep, hthreads, hturnstile⟩ := threadStep_semaphore hpc huse
  exact ⟨s', (barrierStep_of_lt hi).trans hstep,
    h.after hi hstep hthreads (h.calls i hi), hthreads, hturnstile⟩

/-- **An operation gets a thread nearer.** -/
theorem Towards.operate (h : Towards n last s) (hi : i < n)
    (hpc : (s.threads i).pc = .semaphore use .lock)
    (hfree : (s.turnstiles (use.turnstile (barrierCall (s.threads i).calls))).lock = false)
    (hcount : use.waits = true →
      1 ≤ (s.turnstiles (use.turnstile (barrierCall (s.threads i).calls))).count) :
    Leads (barrierStep n) (fun s' => Towards n last s' ∧
      total (BarrierThread.toGo last) n s'.threads < total (BarrierThread.toGo last) n s.threads)
      s := by
  obtain ⟨c, hlock, hread, hwrite, hunlock⟩ := use.whole _ hcount
  obtain ⟨s₁, hstep₁, h₁, hthreads₁, hsemaphore₁⟩ := h.inSemaphore hi
    (congrArg (BarrierThread.mk (s.threads i).calls) hpc)
    (congrArg (fun lock => Semaphore.mk lock _) hfree) hlock
  obtain ⟨s₂, hstep₂, h₂, hthreads₂, hsemaphore₂⟩ := h₁.inSemaphore hi
    (by rw [hthreads₁, Function.update_self]; rfl) hsemaphore₁ hread
  obtain ⟨s₃, hstep₃, h₃, hthreads₃, hsemaphore₃⟩ := h₂.inSemaphore hi
    (by rw [hthreads₂, Function.update_self]; rfl) hsemaphore₂ hwrite
  obtain ⟨s₄, hstep₄, h₄, hthreads₄, _⟩ := h₃.inSemaphore hi
    (by rw [hthreads₃, Function.update_self]; rfl) hsemaphore₃ hunlock
  refine Leads.after hstep₁ (Leads.after hstep₂ (Leads.after hstep₃ (Leads.after hstep₄
    (Leads.here ⟨h₄, ?_⟩))))
  rw [hthreads₄, hthreads₃, hthreads₂, hthreads₁, Function.update_idem, Function.update_idem,
    Function.update_idem]
  refine total_update_lt hi ?_
  unfold BarrierThread.toGo
  rw [hpc]
  exact Nat.add_lt_add_left (use.next_toReturn .lock) _

/-- Where no thread is inside, the locks of the semaphores are free. -/
theorem Settled.free (hsettled : Settled n s) (h : Towards n last s) (t : Turnstile) :
    (s.turnstiles t).lock = false := by
  obtain ⟨round, hinv, _⟩ := h.inv
  refine Bool.eq_false_iff.mpr fun hlock => ?_
  obtain ⟨i, hlocks⟩ := (hinv.locksTurnstile t).taken.mp hlock
  unfold BarrierThread.locksTurnstile at hlocks
  by_cases hi : i < n
  · cases hpc : (s.threads i).pc with
    | semaphore use pc =>
      simp only [hpc] at hlocks
      obtain rfl := hsettled i hi use pc hpc
      exact Bool.noConfusion hlocks.2
    | idle | lock | read | write c | test c | unlock =>
      simp only [hpc] at hlocks
  · simp only [hinv.beyond i (Nat.not_lt.mp hi)] at hlocks

end Steps

/-! ## Whom the threads can be waiting for -/

/-- The thread is about to signal. -/
def BarrierThread.signals (thread : BarrierThread) : Prop :=
  ∃ use, thread.pc = .semaphore use .lock ∧ use.waits = false

/-- The thread is inside the lock of the barrier, at none of its semaphores. -/
def BarrierThread.works (thread : BarrierThread) : Prop :=
  match thread.pc with
  | .read | .write _ | .test _ | .unlock => True
  | .idle | .lock | .semaphore _ _ => False

/-- The thread waits at the turnstile that is open. -/
def BarrierThread.passes (round : Nat) (thread : BarrierThread) : Prop :=
  ∃ use, thread.pc = .semaphore use .lock ∧ use.waits = true ∧
    use.turnstile (barrierCall thread.calls) = (barrierCall round).waited

section Advance

variable {n last round i : Nat} {s : Barrier}

/-- A run that gets nearer. -/
abbrev GetsNearer (n last : Nat) (s : Barrier) : Prop :=
  Leads (barrierStep n) (fun s' => Towards n last s' ∧
    total (BarrierThread.toGo last) n s'.threads < total (BarrierThread.toGo last) n s.threads) s

/-- A thread that works can go on. -/
theorem Towards.work (h : Towards n last s) (hi : i < n) (hworks : (s.threads i).works) :
    GetsNearer n last s := by
  have hcalls := h.calls i hi
  unfold BarrierThread.works at hworks
  cases hpc : (s.threads i).pc with
  | idle | lock | semaphore use pc =>
    simp only [hpc] at hworks
  | read =>
    refine h.nearer hi (by simp only [threadStep, hpc]; rfl) rfl ?_ ?_
    · exact hcalls
    · simp only [BarrierThread.toGo, hpc, BarrierPc.toReturn]
      omega
  | write c =>
    refine h.nearer hi (by simp only [threadStep, hpc]; rfl) rfl ?_ ?_
    · exact hcalls
    · simp only [BarrierThread.toGo, hpc, BarrierPc.toReturn]
      omega
  | unlock =>
    refine h.nearer hi (by simp only [threadStep, hpc]; rfl) rfl ?_ ?_
    · exact hcalls
    · simp only [BarrierThread.toGo, hpc, BarrierPc.toReturn]
      omega
  | test c =>
    refine h.nearer hi (by simp only [threadStep, hpc]; rfl) rfl ?_ ?_
    · exact hcalls
    · simp only [BarrierThread.toGo, hpc]
      refine Nat.add_lt_add_left ?_ _
      split
      next => exact Nat.lt_add_one _
      next =>
        show 3 < 6
        omega

/-- A thread that passes finds the turnstile open, if nobody is about to signal. -/
theorem Towards.pass (h : Towards n last s) (hinv : BarrierInv n round s) (hsettled : Settled n s)
    (hi : i < n) (hpasses : (s.threads i).passes round)
    (hnone : ∀ j < n, ¬ (s.threads j).signals) : GetsNearer n last s := by
  obtain ⟨use, hpc, _, hturnstile⟩ := hpasses
  refine h.operate hi hpc (hsettled.free h _) fun _ => ?_
  obtain ⟨taken, hguards, hvalue⟩ := hinv.token
  have hfree : taken = false := by
    refine Bool.eq_false_iff.mpr fun htaken => ?_
    obtain ⟨j, hj⟩ := hguards.taken.mp htaken
    unfold BarrierThread.holds at hj
    by_cases hjn : j < n
    · cases hpcj : (s.threads j).pc with
      | semaphore use' pc =>
        simp only [hpcj] at hj
        obtain rfl := hsettled j hjn use' pc hpcj
        refine hnone j hjn ⟨use', hpcj, ?_⟩
        cases use' with
        | closingWait | passingWait => exact Bool.noConfusion hj
        | closingSignal | passingSignal => rfl
      | idle | lock | read | write c | test c | unlock =>
        simp only [hpcj] at hj
    · simp only [hinv.beyond j (Nat.not_lt.mp hjn)] at hj
  rw [hturnstile, hvalue, hfree]
  exact Int.le_refl 1

/-- A thread at the lock of the barrier gets it, if nobody is inside. -/
theorem Towards.enter (h : Towards n last s) (hinv : BarrierInv n round s) (hi : i < n)
    (hpc : (s.threads i).pc = .lock) (hnone : ∀ j < n, ¬ (s.threads j).locks) :
    GetsNearer n last s := by
  have hfree : s.lock = false := by
    refine Bool.eq_false_iff.mpr fun hlock => ?_
    obtain ⟨j, hj⟩ := hinv.locks.taken.mp hlock
    by_cases hjn : j < n
    · exact hnone j hjn hj
    · unfold BarrierThread.locks at hj
      simp only [hinv.beyond j (Nat.not_lt.mp hjn)] at hj
  refine h.nearer hi (by simp only [threadStep, hpc, hfree]; rfl) rfl ?_ ?_
  · exact h.calls i hi
  · simp only [BarrierThread.toGo, hpc, BarrierPc.toReturn]
    omega

/-- A thread that is back calls again, if it has not come to call `last`. -/
theorem Towards.begin (h : Towards n last s) (hi : i < n) (hpc : (s.threads i).pc = .idle)
    (hless : (s.threads i).calls < last) : GetsNearer n last s := by
  refine h.nearer hi (by simp only [threadStep, hpc]; rfl) rfl ?_ ?_
  · exact hless
  · simp only [BarrierThread.toGo, hpc, BarrierPc.toReturn]
    omega

/-- Where none of this is so, a thread is back or waits at the turnstile of the round. -/
theorem BarrierInv.waits_or_back (hinv : BarrierInv n round s) (hsettled : Settled n s)
    (hi : i < n) (hsignals : ¬ (s.threads i).signals) (hworks : ¬ (s.threads i).works)
    (hpasses : ¬ (s.threads i).passes round) (hlock : (s.threads i).pc ≠ .lock) :
    ((s.threads i).pc = .idle ∧ (s.threads i).calls + 1 = round) ∨
      (s.threads i).pc = .semaphore .passingWait .lock ∧ (s.threads i).calls = round := by
  have hat := hinv.place i hi
  unfold BarrierThread.At at hat
  unfold BarrierThread.works at hworks
  cases hpc : (s.threads i).pc with
  | idle =>
    simp only [hpc] at hat
    exact Or.inl ⟨rfl, hat⟩
  | lock => exact absurd hpc hlock
  | read | write c | test c | unlock =>
    simp only [hpc] at hworks
    exact absurd trivial hworks
  | semaphore use pc =>
    obtain rfl := hsettled i hi use pc hpc
    simp only [hpc] at hat
    cases use with
    | closingSignal => exact absurd ⟨_, hpc, rfl⟩ hsignals
    | passingSignal => exact absurd ⟨_, hpc, rfl⟩ hsignals
    | closingWait =>
      refine absurd ⟨_, hpc, rfl, ?_⟩ hpasses
      rw [hat.1.1]
      rfl
    | passingWait =>
      rcases hat.1 with hpassed | ⟨hcalls, _⟩
      · refine absurd ⟨_, hpc, rfl, ?_⟩ hpasses
        rw [← hpassed]
        exact barrierCall_succ_waited.symm
      · exact Or.inr ⟨rfl, hcalls⟩

/-- **Not all wait** at the turnstile of the round: the last one that came opens it. -/
theorem Attended.not_all_wait (hattended : Attended n round s) (hinv : BarrierInv n round s) :
    ¬ ∀ i < n, (s.threads i).pc = .semaphore .passingWait .lock ∧ (s.threads i).calls = round := by
  intro hall
  have hclosing : Closing s round := by
    refine hinv.closing_iff.mpr (tally_eq_iff.mpr fun i hi => ?_)
    obtain ⟨hpc, hcalls⟩ := hall i hi
    simp only [BarrierThread.came, hpc, hcalls, beq_self_eq_true]
  obtain ⟨i, hi, hattends⟩ := hattended hclosing
  unfold BarrierThread.attends at hattends
  simp only [(hall i hi).1] at hattends

/-- **Some thread gets nearer**, unless all are back. -/
theorem advances (h : Towards n last s) (hsettled : Settled n s) :
    AllBack n last s ∨ GetsNearer n last s := by
  obtain ⟨round, hinv, hattended⟩ := h.inv
  by_cases hsignals : ∃ i < n, (s.threads i).signals
  · obtain ⟨i, hi, use, hpc, hwaits⟩ := hsignals
    exact Or.inr (h.operate hi hpc (hsettled.free h _)
      fun hcontra => Bool.noConfusion (hwaits.symm.trans hcontra))
  have hsignals : ∀ i < n, ¬ (s.threads i).signals := fun i hi hs => hsignals ⟨i, hi, hs⟩
  by_cases hworks : ∃ i < n, (s.threads i).works
  · obtain ⟨i, hi, hworks⟩ := hworks
    exact Or.inr (h.work hi hworks)
  have hworks : ∀ i < n, ¬ (s.threads i).works := fun i hi hw => hworks ⟨i, hi, hw⟩
  by_cases hpasses : ∃ i < n, (s.threads i).passes round
  · obtain ⟨i, hi, hpasses⟩ := hpasses
    exact Or.inr (h.pass hinv hsettled hi hpasses hsignals)
  have hpasses : ∀ i < n, ¬ (s.threads i).passes round := fun i hi hp => hpasses ⟨i, hi, hp⟩
  have hnobody : ∀ i < n, ¬ (s.threads i).locks := by
    intro i hi hlocks
    unfold BarrierThread.locks at hlocks
    cases hpc : (s.threads i).pc with
    | idle | lock =>
      simp only [hpc] at hlocks
    | read | write c | test c | unlock =>
      refine hworks i hi ?_
      simp only [BarrierThread.works, hpc]
    | semaphore use pc =>
      simp only [hpc] at hlocks
      obtain rfl := hsettled i hi use pc hpc
      cases use with
      | passingWait | passingSignal => exact Bool.noConfusion hlocks
      | closingSignal => exact hsignals i hi ⟨_, hpc, rfl⟩
      | closingWait =>
        have hat := (hinv.at hi hpc).1
        refine hpasses i hi ⟨_, hpc, rfl, ?_⟩
        rw [hat.1]
        rfl
  by_cases hlock : ∃ i < n, (s.threads i).pc = .lock
  · obtain ⟨i, hi, hpc⟩ := hlock
    exact Or.inr (h.enter hinv hi hpc hnobody)
  have hrest : ∀ i < n, _ := fun i hi => hinv.waits_or_back hsettled hi (hsignals i hi)
    (hworks i hi) (hpasses i hi) fun hpc => hlock ⟨i, hi, hpc⟩
  by_cases hbehind : ∃ i < n, (s.threads i).pc = .idle ∧ (s.threads i).calls < last
  · obtain ⟨i, hi, hpc, hless⟩ := hbehind
    exact Or.inr (h.begin hi hpc hless)
  -- a thread that is back has made its call `last`, so that the round is over for all
  left
  have hback : ∃ i < n, (s.threads i).pc = .idle ∧ (s.threads i).calls + 1 = round := by
    by_contra hnone
    refine hattended.not_all_wait hinv fun i hi => ?_
    exact (hrest i hi).resolve_left fun hidle => hnone ⟨i, hi, hidle⟩
  obtain ⟨i, hi, hpc, hcalls⟩ := hback
  have hround : round = last + 1 := by
    have hle := h.calls i hi
    have hnot : ¬ (s.threads i).calls < last := fun hless => hbehind ⟨i, hi, hpc, hless⟩
    omega
  intro j hj
  rcases hrest j hj with ⟨hidle, hjcalls⟩ | ⟨_, hjcalls⟩
  · have hlast : (s.threads j).calls = last := by omega
    exact hlast ▸ hidle ▸ rfl
  · have hle := h.calls j hj
    omega

end Advance

/-! ## Every run -/

section Runs

variable {n : Nat} {s : Barrier} {threads : List Nat}

/-- **All get back** from call `last`. -/
theorem Towards.all_back {last : Nat} (h : Towards n last s) :
    Leads (barrierStep n) (AllBack n last) s := by
  have hleads : Leads (barrierStep n) (Leads (barrierStep n) (AllBack n last)) s := by
    refine leads_of_measure (fun s => total (BarrierThread.toGo last) n s.threads)
      (fun {t} ht => ?_) h
    obtain ⟨bs, u, hrun, ⟨hu, hle⟩, hsettled⟩ := settles ht
    rcases advances hu hsettled with hback | hnearer
    · exact Or.inl ⟨bs, u, hrun, hback⟩
    · right
      exact (Leads.afterRun hrun hnearer).mono fun hv => ⟨hv.1, Nat.lt_of_lt_of_le hv.2 hle⟩
  exact hleads.trans id

/-- A thread has begun the call of the round, or the one before. -/
theorem BarrierInv.calls_le {round i : Nat} (h : BarrierInv n round s) (hi : i < n) :
    (s.threads i).calls ≤ round ∧ round ≤ (s.threads i).calls + 1 := by
  obtain ⟨hreturned, hcalls⟩ := h.between hi
  refine ⟨?_, hcalls⟩
  unfold BarrierThread.returned at hreturned
  split at hreturned
  next => omega
  next => omega

/-- **The barrier does not deadlock**: whatever `n` threads have done, they can go on until
all of them are back from a call with the same number. No thread has begun a later one by
then, and a thread that has not begun this one is to begin it next. -/
theorem barrier_progresses (hrun : threads.foldlM (barrierStep n) (barrierSet n) = some s) :
    ∃ last, (∀ i < n, (s.threads i).calls ≤ last ∧ last ≤ (s.threads i).calls + 1) ∧
      Leads (barrierStep n) (AllBack n last) s := by
  by_cases hn : n = 0
  · subst hn
    exact ⟨0, fun i hi => absurd hi (Nat.not_lt_zero i),
      Leads.here fun i hi => absurd hi (Nat.not_lt_zero i)⟩
  have hstart : ∃ round, BarrierInv n round (barrierSet n) ∧ Attended n round (barrierSet n) :=
    ⟨1, barrierInv_barrierSet,
      barrierInv_barrierSet.attended_of_not_came (Nat.pos_of_ne_zero hn) rfl⟩
  obtain ⟨round, hinv, hattended⟩ := inv_of_run
    (fun {s i s'} (h : ∃ round, BarrierInv n round s ∧ Attended n round s) hstep => by
      obtain ⟨round, hinv, hattended⟩ := h
      unfold barrierStep at hstep
      split at hstep
      next hi => exact threadStep_attended hinv hattended hi hstep
      next => exact absurd hstep.symm (Option.some_ne_none _)) hstart hrun
  exact ⟨round, fun i hi => hinv.calls_le hi,
    Towards.all_back ⟨⟨round, hinv, hattended⟩, fun i hi => (hinv.calls_le hi).1⟩⟩

/-- Thread 0 has come and is about to wait for thread 1. -/
theorem barrier_progresses_oneWaits :
    ∃ s last, [0, 0, 0, 0, 0, 0].foldlM (barrierStep 2) (barrierSet 2) = some s ∧
      (s.threads 0).pc = .semaphore .passingWait .lock ∧
      Leads (barrierStep 2) (AllBack 2 last) s := by
  obtain ⟨last, _, hleads⟩ := @barrier_progresses 2 _ [0, 0, 0, 0, 0, 0] rfl
  exact ⟨_, last, rfl, rfl, hleads⟩

end Runs

end DeepShield.Os
