import DeepShield.Os.Barrier

/-!
# The barrier over whole runs

At any moment there is one call that the threads are coming to, the `round`. Its
turnstile is closed. The turnstile of the call before, which the last thread of this round
is to close, is open, but for the one thread that is just passing it: that thread holds a
token, from its wait to its signal. The last thread takes the token for good, and hands it
on by signalling the turnstile of the round; then the next round begins.

* `BarrierThread.At` says where a thread is with respect to the round, and what it knows
  of the counters.
* `BarrierInv` is the invariant. The three locks and the token are each with one thread at
  most, and the counter counts the threads that came.
* `BarrierInv.quiet` is the rule for the steps that change no counter; the others are
  `BarrierInv.come`, `BarrierInv.takeToken`, `BarrierInv.giveToken` and
  `BarrierInv.openRound`.
* `barrier_reusable` is the result.
-/

namespace DeepShield.Os

open DeepShield.Lib

/-! ## Where a thread is -/

/-- Inside the lock of a semaphore. -/
def SemaphorePc.locked : SemaphorePc → Bool
  | .lock => false
  | .read | .write _ | .retry | .unlock => true

/-- Still before the semaphore's counter was found positive. -/
def SemaphorePc.before : SemaphorePc → Bool
  | .lock | .read | .retry => true
  | .write _ | .unlock => false

def SemaphoreUse.waits : SemaphoreUse → Bool
  | closingWait | passingWait => true
  | closingSignal | passingSignal => false

/-- The operations of the last thread, inside the lock of the barrier. -/
def SemaphoreUse.closing : SemaphoreUse → Bool
  | closingWait | closingSignal => true
  | passingWait | passingSignal => false

/-- The operation has taken the token, or not yet given it back. -/
def SemaphoreUse.holds (use : SemaphoreUse) (pc : SemaphorePc) : Bool :=
  if use.waits then pc == .unlock else pc != .unlock

namespace BarrierThread

/-- Inside the lock of the barrier. -/
def locks (thread : BarrierThread) : Prop :=
  match thread.pc with
  | .read | .write _ | .test _ | .unlock => True
  | .semaphore use _ => use.closing = true
  | .idle | .lock => False

/-- Inside the lock of turnstile `t`. -/
def locksTurnstile (t : Turnstile) (thread : BarrierThread) : Prop :=
  match thread.pc with
  | .semaphore use pc => use.turnstile (barrierCall thread.calls) = t ∧ pc.locked = true
  | .idle | .lock | .read | .write _ | .test _ | .unlock => False

/-- With the token. -/
def holds (thread : BarrierThread) : Prop :=
  match thread.pc with
  | .semaphore use pc => use.holds pc = true
  | .idle | .lock | .read | .write _ | .test _ | .unlock => False

/-- Counted in this round. -/
def came (round : Nat) (thread : BarrierThread) : Bool :=
  match thread.pc with
  | .lock | .read | .write _ => false
  | .idle | .test _ | .semaphore _ _ | .unlock => thread.calls == round

end BarrierThread

/-- All came: the last thread's test succeeds. -/
def Closing (s : Barrier) (round : Nat) : Prop :=
  (barrierCall round).closes s.count s.maxThreads = true

/-- What a thread that is about to write a semaphore's counter knows of it. -/
def SemaphoreUse.Writes (use : SemaphoreUse) (count : Int) (pc : SemaphorePc) : Prop :=
  ∀ c, pc = .write c → if use.waits then 1 ≤ count ∧ c = count - 1 else c = count + 1

/-- A thread in an operation, in its call `calls`: the round is over for it when the
last thread has signalled. -/
def SemaphoreUse.At (s : Barrier) (round calls : Nat) (use : SemaphoreUse) (pc : SemaphorePc) :
    Prop :=
  match use with
  | .closingWait => calls = round ∧ Closing s round
  | .closingSignal =>
    (pc ≠ .unlock → calls = round ∧ Closing s round) ∧ (pc = .unlock → calls + 1 = round)
  | .passingWait => calls + 1 = round ∨ calls = round ∧ pc.before = true
  | .passingSignal => calls + 1 = round

/-- **Where a thread is** with respect to the round, and what it knows. -/
def BarrierThread.At (s : Barrier) (round : Nat) (thread : BarrierThread) : Prop :=
  match thread.pc with
  | .idle => thread.calls + 1 = round
  | .lock | .read => thread.calls = round
  | .write count => thread.calls = round ∧ count = s.count + (barrierCall round).delta
  | .test count => thread.calls = round ∧ count = s.count
  | .semaphore use pc => use.At s round thread.calls pc ∧
      use.Writes (s.turnstiles (use.turnstile (barrierCall thread.calls))).count pc
  | .unlock => thread.calls = round ∨ thread.calls + 1 = round

/-- The counter, when `k` of `n` threads came in this round. -/
def gathered (n round k : Nat) : Int := if round % 2 = 1 then k else n - k

/-- **The invariant.** -/
structure BarrierInv (n round : Nat) (s : Barrier) : Prop where
  maxThreads : s.maxThreads = n
  begun : 1 ≤ round
  beyond : ∀ i, n ≤ i → (s.threads i).pc = .idle
  place : ∀ i < n, (s.threads i).At s round
  locks : Guards BarrierThread.locks s.lock s.threads
  locksTurnstile : ∀ t,
    Guards (BarrierThread.locksTurnstile t) (s.turnstiles t).lock s.threads
  counted : s.count = gathered n round (tally (BarrierThread.came round) n s.threads)
  closed : (s.turnstiles (barrierCall round).turnstile).count = 0
  token : ∃ taken, Guards BarrierThread.holds taken s.threads ∧
    (s.turnstiles (barrierCall round).waited).count = if taken then 0 else 1

/-! ## Rounds -/

section Rounds

variable {n round k : Nat}

theorem Turnstile.ne_other (t : Turnstile) : t ≠ t.other := by
  cases t with
  | turnstile1 => exact Turnstile.noConfusion
  | turnstile2 => exact Turnstile.noConfusion

theorem barrierCall_waited : (barrierCall round).waited = (barrierCall round).turnstile.other := by
  unfold barrierCall
  split
  next => rfl
  next => rfl

/-- The turnstile that is closed in a round is the one opened by the round before. -/
theorem barrierCall_succ_waited :
    (barrierCall (round + 1)).waited = (barrierCall round).turnstile := by
  unfold barrierCall
  by_cases hodd : round % 2 = 1
  · rw [if_pos hodd, if_neg (by omega)]
    rfl
  · rw [if_neg hodd, if_pos (by omega)]
    rfl

theorem barrierCall_succ_turnstile :
    (barrierCall (round + 1)).turnstile = (barrierCall round).waited := by
  unfold barrierCall
  by_cases hodd : round % 2 = 1
  · rw [if_pos hodd, if_neg (by omega)]
    rfl
  · rw [if_neg hodd, if_pos (by omega)]
    rfl

/-- One more thread came. -/
theorem gathered_succ :
    gathered n round (k + 1) = gathered n round k + (barrierCall round).delta := by
  unfold gathered barrierCall
  by_cases hodd : round % 2 = 1
  · rw [if_pos hodd, if_pos hodd, if_pos hodd]
    simp [barrierEnter]
  · rw [if_neg hodd, if_neg hodd, if_neg hodd]
    simp [barrierExit]
    omega

/-- The last thread's test is right. -/
theorem closes_gathered :
    (barrierCall round).closes (gathered n round k) n = true ↔ k = n := by
  unfold gathered barrierCall
  by_cases hodd : round % 2 = 1
  · rw [if_pos hodd, if_pos hodd]
    simp only [barrierEnter, beq_iff_eq]
    omega
  · rw [if_neg hodd, if_neg hodd]
    simp only [barrierExit, beq_iff_eq]
    omega

/-- When all came, the counter is where the next round starts. -/
theorem gathered_all : gathered n round n = gathered n (round + 1) 0 := by
  unfold gathered
  by_cases hodd : round % 2 = 1
  · rw [if_pos hodd, if_neg (by omega)]
    simp
  · rw [if_neg hodd, if_pos (by omega)]
    simp

theorem gathered_bounds (hk : k ≤ n) : 0 ≤ gathered n round k ∧ gathered n round k ≤ n := by
  unfold gathered
  split
  next => omega
  next => omega

end Rounds

/-! ## The rule for quiet steps -/

section Quiet

variable {n round i : Nat} {s s' : Barrier} {thread : BarrierThread}

/-- What a thread knows depends on the counters it has locked. -/
theorem BarrierThread.At.frame (h : thread.At s round) (hmax : s'.maxThreads = s.maxThreads)
    (hcount : thread.locks → s'.count = s.count)
    (hturnstiles : ∀ t, thread.locksTurnstile t →
      (s'.turnstiles t).count = (s.turnstiles t).count) : thread.At s' round := by
  unfold BarrierThread.At at h ⊢
  unfold BarrierThread.locks at hcount
  unfold BarrierThread.locksTurnstile at hturnstiles
  cases hpc : thread.pc with
  | idle | lock | read | unlock =>
    rw [hpc] at h
    exact h
  | write count | test count =>
    simp only [hpc] at h hcount ⊢
    rw [hcount trivial]
    exact h
  | semaphore use pc =>
    simp only [hpc] at h hcount hturnstiles ⊢
    obtain ⟨hat, hwrites⟩ := h
    refine ⟨?_, fun c hc => ?_⟩
    · cases use with
      | closingWait =>
        simp only [SemaphoreUse.At, Closing, hcount rfl, hmax] at hat ⊢
        exact hat
      | closingSignal =>
        simp only [SemaphoreUse.At, Closing, hcount rfl, hmax] at hat ⊢
        exact hat
      | passingWait => exact hat
      | passingSignal => exact hat
    · rw [hturnstiles _ ⟨rfl, by rw [hc]; rfl⟩]
      exact hwrites c hc

/-- The threads from `n` on never move. -/
theorem BarrierInv.beyond_kept (h : BarrierInv n round s) (hi : i < n) {j : Nat} (hj : n ≤ j) :
    (Function.update s.threads i thread j).pc = .idle := by
  rw [Function.update_of_ne (by omega)]
  exact h.beyond j hj

/-- Writing the counter of a semaphore moves no lock of a semaphore. -/
theorem BarrierInv.locksTurnstile_written {count : Int} {u : Turnstile} (h : BarrierInv n round s)
    (hsame : ∀ t, thread.locksTurnstile t ↔ (s.threads i).locksTurnstile t) (t : Turnstile) :
    Guards (BarrierThread.locksTurnstile t)
      (Function.update s.turnstiles u { s.turnstiles u with count := count } t).lock
      (Function.update s.threads i thread) := by
  have hkept := (h.locksTurnstile t).stay (hsame t)
  by_cases htu : t = u
  · rw [htu] at hkept ⊢
    rw [Function.update_self]
    exact hkept
  · rw [Function.update_of_ne htu]
    exact hkept

/-- **A quiet step**: no counter changes, and neither does who came and who has the
token. -/
theorem BarrierInv.quiet (h : BarrierInv n round s) (hi : i < n)
    (hmax : s'.maxThreads = s.maxThreads) (hcount : s'.count = s.count)
    (hturnstiles : ∀ t, (s'.turnstiles t).count = (s.turnstiles t).count)
    (hthreads : s'.threads = Function.update s.threads i thread)
    (hplace : thread.At s round)
    (hcame : thread.came round = (s.threads i).came round)
    (hholds : thread.holds ↔ (s.threads i).holds)
    (hlocks : Guards BarrierThread.locks s'.lock (Function.update s.threads i thread))
    (hlocksTurnstile : ∀ t, Guards (BarrierThread.locksTurnstile t) (s'.turnstiles t).lock
      (Function.update s.threads i thread)) : BarrierInv n round s' where
  maxThreads := hmax.trans h.maxThreads
  begun := h.begun
  beyond j hj := by
    rw [hthreads]
    exact h.beyond_kept hi hj
  place j hj := by
    rw [hthreads]
    have hframe : ∀ {t : BarrierThread}, t.At s round → t.At s' round :=
      fun ht => ht.frame hmax (fun _ => hcount) fun u _ => hturnstiles u
    by_cases hji : j = i
    · rw [hji, Function.update_self]
      exact hframe hplace
    · rw [Function.update_of_ne hji]
      exact hframe (h.place j hj)
  locks := by rw [hthreads]; exact hlocks
  locksTurnstile := by rw [hthreads]; exact hlocksTurnstile
  counted := by
    rw [hthreads, tally_update_same hcame, hcount]
    exact h.counted
  closed := (hturnstiles _).trans h.closed
  token := by
    obtain ⟨taken, hguards, hvalue⟩ := h.token
    refine ⟨taken, ?_, (hturnstiles _).trans hvalue⟩
    rw [hthreads]
    exact hguards.stay hholds

end Quiet

/-! ## Steps outside the semaphores -/

section Steps

variable {n round i : Nat} {s s' : Barrier} {count : Int}

/-- **A quiet step outside** the semaphores. -/
theorem BarrierInv.outside {pc : BarrierPc} {calls : Nat} {lock : Bool} (h : BarrierInv n round s)
    (hi : i < n) (hplace : (⟨calls, pc⟩ : BarrierThread).At s round)
    (hcame : (⟨calls, pc⟩ : BarrierThread).came round = (s.threads i).came round)
    (hholds : ¬ (⟨calls, pc⟩ : BarrierThread).holds ∧ ¬ (s.threads i).holds)
    (hturnstile : ∀ t, ¬ (⟨calls, pc⟩ : BarrierThread).locksTurnstile t ∧
      ¬ (s.threads i).locksTurnstile t)
    (hlocks : Guards BarrierThread.locks lock (Function.update s.threads i ⟨calls, pc⟩)) :
    BarrierInv n round ({ s with lock := lock }.goto i ⟨calls, pc⟩) :=
  h.quiet hi rfl rfl (fun _ => rfl) rfl hplace hcame
    ⟨fun hh => absurd hh hholds.1, fun hh => absurd hh hholds.2⟩ hlocks
    fun t => (h.locksTurnstile t).stay
      ⟨fun hh => absurd hh (hturnstile t).1, fun hh => absurd hh (hturnstile t).2⟩

/-- A call begins. -/
theorem BarrierInv.begin (h : BarrierInv n round s) (hi : i < n) (hpc : (s.threads i).pc = .idle) :
    BarrierInv n round (s.goto i ⟨(s.threads i).calls + 1, .lock⟩) := by
  have hat := h.place i hi
  simp only [BarrierThread.At, hpc] at hat
  refine h.outside hi hat ?_ ?_ (fun t => ?_) (h.locks.stay ?_)
  · simp only [BarrierThread.came, hpc]
    exact (beq_eq_false_iff_ne.mpr (by omega)).symm
  · simp [BarrierThread.holds, hpc]
  · simp [BarrierThread.locksTurnstile, hpc]
  · simp [BarrierThread.locks, hpc]

/-- The lock is taken. -/
theorem BarrierInv.lock (h : BarrierInv n round s) (hi : i < n) (hpc : (s.threads i).pc = .lock)
    (hfree : s.lock = false) :
    BarrierInv n round ({ s with lock := true }.goto i ⟨(s.threads i).calls, .read⟩) := by
  have hat := h.place i hi
  have hlocks := h.locks
  simp only [BarrierThread.At, hpc] at hat
  rw [hfree] at hlocks
  refine h.outside hi hat ?_ ?_ (fun t => ?_) (hlocks.take trivial)
  · simp only [BarrierThread.came, hpc]
  · simp [BarrierThread.holds, hpc]
  · simp [BarrierThread.locksTurnstile, hpc]

/-- The counter is read. -/
theorem BarrierInv.read (h : BarrierInv n round s) (hi : i < n) (hpc : (s.threads i).pc = .read) :
    BarrierInv n round (s.goto i ⟨(s.threads i).calls,
      .write (s.count + (barrierCall (s.threads i).calls).delta)⟩) := by
  have hat := h.place i hi
  simp only [BarrierThread.At, hpc] at hat
  refine h.outside hi ⟨hat, by rw [hat]⟩ ?_ ?_ (fun t => ?_) (h.locks.stay ?_)
  · simp only [BarrierThread.came, hpc]
  · simp [BarrierThread.holds, hpc]
  · simp [BarrierThread.locksTurnstile, hpc]
  · simp [BarrierThread.locks, hpc]

/-- The new count is tested. -/
theorem BarrierInv.test (h : BarrierInv n round s) (hi : i < n)
    (hpc : (s.threads i).pc = .test count) :
    BarrierInv n round (s.goto i ⟨(s.threads i).calls,
      if (barrierCall (s.threads i).calls).closes count s.maxThreads
        then .semaphore .closingWait .lock else .unlock⟩) := by
  have hat := h.place i hi
  simp only [BarrierThread.At, hpc] at hat
  obtain ⟨hcalls, hcount⟩ := hat
  split
  next hcloses =>
    rw [hcalls, hcount] at hcloses
    refine h.outside hi ⟨⟨hcalls, hcloses⟩, fun c hc => ?_⟩ ?_ ?_ (fun t => ?_) (h.locks.stay ?_)
    · exact SemaphorePc.noConfusion hc
    · simp only [BarrierThread.came, hpc]
    · simp [BarrierThread.holds, hpc, SemaphoreUse.holds, SemaphoreUse.waits]
    · simp [BarrierThread.locksTurnstile, hpc, SemaphorePc.locked]
    · simp [BarrierThread.locks, hpc, SemaphoreUse.closing]
  next =>
    refine h.outside hi (Or.inl hcalls) ?_ ?_ (fun t => ?_) (h.locks.stay ?_)
    · simp only [BarrierThread.came, hpc]
    · simp [BarrierThread.holds, hpc]
    · simp [BarrierThread.locksTurnstile, hpc]
    · simp [BarrierThread.locks, hpc]

/-- The lock is given back. -/
theorem BarrierInv.unlock (h : BarrierInv n round s) (hi : i < n)
    (hpc : (s.threads i).pc = .unlock) :
    BarrierInv n round ({ s with lock := false }.goto i ⟨(s.threads i).calls,
      .semaphore .passingWait .lock⟩) := by
  have hat := h.place i hi
  simp only [BarrierThread.At, hpc] at hat
  refine h.outside hi ⟨?_, fun c hc => ?_⟩ ?_ ?_ (fun t => ?_) (h.locks.give ?_ ?_)
  · rcases hat with hcalls | hcalls
    · exact Or.inr ⟨hcalls, rfl⟩
    · exact Or.inl hcalls
  · exact SemaphorePc.noConfusion hc
  · simp only [BarrierThread.came, hpc]
  · simp [BarrierThread.holds, hpc, SemaphoreUse.holds, SemaphoreUse.waits]
  · simp [BarrierThread.locksTurnstile, hpc, SemaphorePc.locked]
  · simp [BarrierThread.locks, hpc]
  · simp [BarrierThread.locks, SemaphoreUse.closing]

/-- **A thread comes**: it writes the counter it has locked. -/
theorem BarrierInv.come (h : BarrierInv n round s) (hi : i < n)
    (hpc : (s.threads i).pc = .write count) :
    BarrierInv n round ({ s with count := count }.goto i ⟨(s.threads i).calls, .test count⟩) := by
  have hat := h.place i hi
  simp only [BarrierThread.At, hpc] at hat
  obtain ⟨hcalls, hcount⟩ := hat
  have hinside : (s.threads i).locks := by simp [BarrierThread.locks, hpc]
  have hcame := @tally_update_in _ (BarrierThread.came round) n s.threads i
    ⟨(s.threads i).calls, .test count⟩ hi (by simp [BarrierThread.came, hpc])
    (by simp [BarrierThread.came, hcalls])
  refine
    { maxThreads := h.maxThreads, begun := h.begun, beyond := fun j hj => h.beyond_kept hi hj,
      place := fun j hj => ?_, locks := h.locks.stay ?_,
      locksTurnstile := fun t => (h.locksTurnstile t).stay ?_, counted := ?_, closed := h.closed,
      token := ?_ }
  · show BarrierThread.At _ round (Function.update s.threads i _ j)
    by_cases hji : j = i
    · rw [hji, Function.update_self]
      exact ⟨hcalls, rfl⟩
    · rw [Function.update_of_ne hji]
      exact (h.place j hj).frame rfl (fun hlock => absurd hlock (h.locks.others hinside j hji))
        fun _ _ => rfl
  · simp [BarrierThread.locks, hpc]
  · simp [BarrierThread.locksTurnstile, hpc]
  · show count = gathered n round
      (tally (BarrierThread.came round) n (Function.update s.threads i _))
    rw [hcame, gathered_succ, ← h.counted]
    exact hcount
  · obtain ⟨taken, hguards, hvalue⟩ := h.token
    refine ⟨taken, hguards.stay ?_, hvalue⟩
    simp [BarrierThread.holds, hpc]

end Steps

/-! ## Steps in a semaphore -/

section Semaphores

variable {n round i : Nat} {s s' : Barrier} {use : SemaphoreUse} {pc : SemaphorePc}

/-- What a step of `SemaphoreWait` or `SemaphoreSignal` can be. -/
theorem SemaphoreUse.step_cases {semaphore semaphore' : Semaphore} {pc' : Option SemaphorePc}
    (h : use.step semaphore pc = some (semaphore', pc')) :
    (pc = .lock ∧ semaphore.lock = false ∧ semaphore' = { semaphore with lock := true } ∧
      pc' = some .read) ∨
    (pc = .read ∧ semaphore' = semaphore ∧ use.Writes semaphore.count (pc'.getD .lock) ∧
      (pc' = some .retry ∨ ∃ c, pc' = some (.write c))) ∨
    (∃ c, pc = .write c ∧ semaphore' = { semaphore with count := c } ∧ pc' = some .unlock) ∨
    (pc = .retry ∧ semaphore' = { semaphore with lock := false } ∧ pc' = some .lock) ∨
    (pc = .unlock ∧ semaphore' = { semaphore with lock := false } ∧ pc' = none) := by
  obtain ⟨onRead, hstep, hread⟩ : ∃ onRead, use.step = semaphoreStep onRead ∧
      ∀ count, use.Writes count (onRead count) ∧
        (onRead count = .retry ∨ ∃ c, onRead count = .write c) := by
    have hwait : ∀ count : Int, ∀ use : SemaphoreUse, use.waits = true →
        use.Writes count (if count ≥ 1 then .write (count - 1) else .retry) := by
      intro count use hwaits c hc
      split at hc
      next hpos =>
        obtain rfl := SemaphorePc.write.inj hc
        rw [if_pos hwaits]
        exact ⟨hpos, rfl⟩
      next => exact SemaphorePc.noConfusion hc
    have hsignal : ∀ count : Int, ∀ use : SemaphoreUse, use.waits = false →
        use.Writes count (.write (count + 1)) := by
      intro count use hwaits c hc
      obtain rfl := SemaphorePc.write.inj hc
      rw [hwaits]
      rfl
    cases use with
    | closingWait | passingWait =>
      refine ⟨_, rfl, fun count => ⟨hwait count _ rfl, ?_⟩⟩
      split
      next => exact Or.inr ⟨_, rfl⟩
      next => exact Or.inl rfl
    | closingSignal | passingSignal =>
      exact ⟨_, rfl, fun count => ⟨hsignal count _ rfl, Or.inr ⟨_, rfl⟩⟩⟩
  rw [hstep] at h
  cases pc with
  | lock =>
    simp only [semaphoreStep] at h
    split at h
    next => exact absurd h.symm (Option.some_ne_none _)
    next hfree =>
      obtain ⟨rfl, rfl⟩ := Prod.mk.inj (Option.some.inj h)
      exact Or.inl ⟨rfl, Bool.eq_false_iff.mpr hfree, rfl, rfl⟩
  | read =>
    obtain ⟨rfl, rfl⟩ := Prod.mk.inj (Option.some.inj h)
    obtain ⟨hwrites, hnext⟩ := hread semaphore.count
    refine Or.inr (Or.inl ⟨rfl, rfl, hwrites, ?_⟩)
    rcases hnext with hretry | ⟨c, hwrite⟩
    · exact Or.inl (by rw [hretry])
    · exact Or.inr ⟨c, by rw [hwrite]⟩
  | write c =>
    obtain ⟨rfl, rfl⟩ := Prod.mk.inj (Option.some.inj h)
    exact Or.inr (Or.inr (Or.inl ⟨c, rfl, rfl, rfl⟩))
  | retry =>
    obtain ⟨rfl, rfl⟩ := Prod.mk.inj (Option.some.inj h)
    exact Or.inr (Or.inr (Or.inr (Or.inl ⟨rfl, rfl, rfl⟩)))
  | unlock =>
    obtain ⟨rfl, rfl⟩ := Prod.mk.inj (Option.some.inj h)
    exact Or.inr (Or.inr (Or.inr (Or.inr ⟨rfl, rfl, rfl⟩)))

/-- **A quiet step in a semaphore.** -/
theorem BarrierInv.inside {next : BarrierPc} {semaphore : Semaphore} {u : Turnstile}
    (h : BarrierInv n round s) (hi : i < n) (hpc : (s.threads i).pc = .semaphore use pc)
    (hu : u = use.turnstile (barrierCall (s.threads i).calls))
    (hcount : semaphore.count = (s.turnstiles u).count)
    (hplace : (⟨(s.threads i).calls, next⟩ : BarrierThread).At s round)
    (hcame : (⟨(s.threads i).calls, next⟩ : BarrierThread).came round
      = ((s.threads i).calls == round))
    (hholds : (⟨(s.threads i).calls, next⟩ : BarrierThread).holds ↔ use.holds pc = true)
    (hlocks : (⟨(s.threads i).calls, next⟩ : BarrierThread).locks ↔ use.closing = true)
    (hown : Guards (BarrierThread.locksTurnstile u) semaphore.lock
      (Function.update s.threads i ⟨(s.threads i).calls, next⟩))
    (hother : ∀ t, t ≠ u →
      ¬ (⟨(s.threads i).calls, next⟩ : BarrierThread).locksTurnstile t) :
    BarrierInv n round ({ s with
      turnstiles := Function.update s.turnstiles u semaphore }.goto i
        ⟨(s.threads i).calls, next⟩) := by
  refine h.quiet hi rfl rfl (fun t => ?_) rfl hplace ?_ ?_ (h.locks.stay ?_) fun t => ?_
  · show (Function.update s.turnstiles u semaphore t).count = _
    by_cases htu : t = u
    · rw [htu, Function.update_self, hcount]
    · rw [Function.update_of_ne htu]
  · rw [hcame]
    simp only [BarrierThread.came, hpc]
  · rw [hholds]
    simp only [BarrierThread.holds, hpc]
  · rw [hlocks]
    simp only [BarrierThread.locks, hpc]
  · show Guards _ (Function.update s.turnstiles u semaphore t).lock _
    by_cases htu : t = u
    · rw [htu, Function.update_self]
      exact hown
    · rw [Function.update_of_ne htu]
      refine (h.locksTurnstile t).stay
        ⟨fun hnew => absurd hnew (hother t htu), fun hold => absurd hold ?_⟩
      simp only [BarrierThread.locksTurnstile, hpc, ← hu]
      exact fun hlocked => htu hlocked.1.symm

/-- A thread in a semaphore, as it was. -/
theorem BarrierInv.at (h : BarrierInv n round s) (hi : i < n)
    (hpc : (s.threads i).pc = .semaphore use pc) :
    use.At s round (s.threads i).calls pc ∧
      use.Writes (s.turnstiles (use.turnstile (barrierCall (s.threads i).calls))).count pc := by
  have hat := h.place i hi
  simp only [BarrierThread.At, hpc] at hat
  exact hat

/-- The lock of a semaphore is taken. -/
theorem BarrierInv.lockSemaphore (h : BarrierInv n round s) (hi : i < n)
    (hpc : (s.threads i).pc = .semaphore use .lock)
    (hfree : (s.turnstiles (use.turnstile (barrierCall (s.threads i).calls))).lock = false) :
    BarrierInv n round ({ s with
      turnstiles := Function.update s.turnstiles
        (use.turnstile (barrierCall (s.threads i).calls))
        { s.turnstiles (use.turnstile (barrierCall (s.threads i).calls)) with lock := true } }.goto
        i ⟨(s.threads i).calls, .semaphore use .read⟩) := by
  obtain ⟨hat, _⟩ := h.at hi hpc
  have hguards := h.locksTurnstile (use.turnstile (barrierCall (s.threads i).calls))
  rw [hfree] at hguards
  refine h.inside hi hpc rfl rfl ⟨?_, fun c hc => SemaphorePc.noConfusion hc⟩ rfl ?_ Iff.rfl
    (hguards.take ⟨rfl, rfl⟩) fun t ht hlocked => ht hlocked.1.symm
  · cases use with
    | closingWait | passingWait | passingSignal => exact hat
    | closingSignal =>
      exact ⟨fun _ => hat.1 SemaphorePc.noConfusion, fun heq => SemaphorePc.noConfusion heq⟩
  · cases use with
    | closingWait | closingSignal | passingWait | passingSignal => exact Iff.rfl

/-- A semaphore's counter is read. -/
theorem BarrierInv.readSemaphore {next : SemaphorePc} (h : BarrierInv n round s) (hi : i < n)
    (hpc : (s.threads i).pc = .semaphore use .read)
    (hwrites : use.Writes
      (s.turnstiles (use.turnstile (barrierCall (s.threads i).calls))).count next)
    (hnext : next = .retry ∨ ∃ c, next = .write c) :
    BarrierInv n round ({ s with
      turnstiles := Function.update s.turnstiles
        (use.turnstile (barrierCall (s.threads i).calls))
        (s.turnstiles (use.turnstile (barrierCall (s.threads i).calls))) }.goto i
        ⟨(s.threads i).calls, .semaphore use next⟩) := by
  obtain ⟨hat, _⟩ := h.at hi hpc
  have hlocked : next.locked = true := by
    rcases hnext with rfl | ⟨c, rfl⟩
    · rfl
    · rfl
  have hunlock : next ≠ .unlock := by
    rcases hnext with rfl | ⟨c, rfl⟩
    · exact SemaphorePc.noConfusion
    · exact SemaphorePc.noConfusion
  refine h.inside hi hpc rfl rfl ⟨?_, hwrites⟩ rfl ?_ Iff.rfl
    ((h.locksTurnstile _).stay ?_) fun t ht hlocks => ht hlocks.1.symm
  · cases use with
    | closingWait | passingSignal => exact hat
    | closingSignal =>
      exact ⟨fun _ => hat.1 SemaphorePc.noConfusion, fun heq => absurd heq hunlock⟩
    | passingWait =>
      rcases hat with hpassed | ⟨hcalls, _⟩
      · exact Or.inl hpassed
      · -- the turnstile of the round is closed
        refine Or.inr ⟨hcalls, ?_⟩
        rcases hnext with rfl | ⟨c, rfl⟩
        · rfl
        · have hpos := (hwrites c rfl).1
          rw [hcalls] at hpos
          have hclosed := h.closed
          simp only [SemaphoreUse.turnstile] at hpos
          omega
  · cases use with
    | closingWait | closingSignal | passingWait | passingSignal =>
      simp [BarrierThread.holds, SemaphoreUse.holds, SemaphoreUse.waits, hunlock]
  · have hread : SemaphorePc.read.locked = true := rfl
    simp [BarrierThread.locksTurnstile, hpc, hlocked, hread]

/-- The lock of a semaphore is given back to try again. -/
theorem BarrierInv.retrySemaphore (h : BarrierInv n round s) (hi : i < n)
    (hpc : (s.threads i).pc = .semaphore use .retry) :
    BarrierInv n round ({ s with
      turnstiles := Function.update s.turnstiles
        (use.turnstile (barrierCall (s.threads i).calls))
        { s.turnstiles (use.turnstile (barrierCall (s.threads i).calls)) with lock := false } }.goto
        i ⟨(s.threads i).calls, .semaphore use .lock⟩) := by
  obtain ⟨hat, _⟩ := h.at hi hpc
  refine h.inside hi hpc rfl rfl ⟨?_, fun c hc => SemaphorePc.noConfusion hc⟩ rfl ?_ Iff.rfl
    ((h.locksTurnstile _).give ?_ fun hlocked => Bool.noConfusion hlocked.2)
    fun t _ hlocked => Bool.noConfusion hlocked.2
  · cases use with
    | closingWait | passingWait | passingSignal => exact hat
    | closingSignal =>
      exact ⟨fun _ => hat.1 SemaphorePc.noConfusion, fun heq => SemaphorePc.noConfusion heq⟩
  · cases use with
    | closingWait | closingSignal | passingWait | passingSignal => exact Iff.rfl
  · simp [BarrierThread.locksTurnstile, hpc, SemaphorePc.locked]

/-- The lock of a semaphore is given back, and the operation is over. -/
theorem BarrierInv.unlockSemaphore (h : BarrierInv n round s) (hi : i < n)
    (hpc : (s.threads i).pc = .semaphore use .unlock) :
    BarrierInv n round ({ s with
      turnstiles := Function.update s.turnstiles
        (use.turnstile (barrierCall (s.threads i).calls))
        { s.turnstiles (use.turnstile (barrierCall (s.threads i).calls)) with lock := false } }.goto
        i ⟨(s.threads i).calls, use.next⟩) := by
  obtain ⟨hat, _⟩ := h.at hi hpc
  have hlocked : (s.threads i).locksTurnstile
      (use.turnstile (barrierCall (s.threads i).calls)) := by
    simp [BarrierThread.locksTurnstile, hpc, SemaphorePc.locked]
  have hgive : ∀ thread : BarrierThread, (∀ t, ¬ thread.locksTurnstile t) →
      Guards (BarrierThread.locksTurnstile (use.turnstile (barrierCall (s.threads i).calls))) false
        (Function.update s.threads i thread) :=
    fun thread hout => (h.locksTurnstile _).give hlocked (hout _)
  cases use with
  | closingWait =>
    have hout : ∀ t, ¬ (⟨(s.threads i).calls, .semaphore .closingSignal .lock⟩ :
        BarrierThread).locksTurnstile t := fun t ht => Bool.noConfusion ht.2
    exact h.inside hi hpc rfl rfl
      ⟨⟨fun _ => hat, fun heq => SemaphorePc.noConfusion heq⟩,
        fun c hc => SemaphorePc.noConfusion hc⟩ rfl Iff.rfl Iff.rfl (hgive _ hout) fun t _ => hout t
  | closingSignal =>
    have hout : ∀ t, ¬ (⟨(s.threads i).calls, .unlock⟩ : BarrierThread).locksTurnstile t :=
      fun t => id
    exact h.inside hi hpc rfl rfl (Or.inr (hat.2 rfl)) rfl
      ⟨False.elim, fun hh => Bool.noConfusion hh⟩ ⟨fun _ => rfl, fun _ => trivial⟩ (hgive _ hout)
      fun t _ => hout t
  | passingWait =>
    have hout : ∀ t, ¬ (⟨(s.threads i).calls, .semaphore .passingSignal .lock⟩ :
        BarrierThread).locksTurnstile t := fun t ht => Bool.noConfusion ht.2
    have hpassed : (s.threads i).calls + 1 = round := by
      rcases hat with hpassed | ⟨_, hbefore⟩
      · exact hpassed
      · exact Bool.noConfusion hbefore
    exact h.inside hi hpc rfl rfl ⟨hpassed, fun c hc => SemaphorePc.noConfusion hc⟩ rfl Iff.rfl
      Iff.rfl (hgive _ hout) fun t _ => hout t
  | passingSignal =>
    have hout : ∀ t, ¬ (⟨(s.threads i).calls, .idle⟩ : BarrierThread).locksTurnstile t :=
      fun t => id
    exact h.inside hi hpc rfl rfl hat rfl ⟨False.elim, fun hh => Bool.noConfusion hh⟩
      ⟨False.elim, fun hh => Bool.noConfusion hh⟩ (hgive _ hout) fun t _ => hout t

/-- **A step of the token**: the counter of the turnstile that this round closes is
written. -/
theorem BarrierInv.moveToken {c : Int} {taken : Bool} {u : Turnstile} (h : BarrierInv n round s)
    (hi : i < n) (hpc : (s.threads i).pc = .semaphore use (.write c))
    (hu : u = use.turnstile (barrierCall (s.threads i).calls))
    (hwaited : u = (barrierCall round).waited)
    (hat : use.At s round (s.threads i).calls .unlock)
    (hguards : Guards BarrierThread.holds taken
      (Function.update s.threads i ⟨(s.threads i).calls, .semaphore use .unlock⟩))
    (hc : c = if taken then 0 else 1) :
    BarrierInv n round ({ s with
      turnstiles := Function.update s.turnstiles u { s.turnstiles u with count := c } }.goto i
        ⟨(s.threads i).calls, .semaphore use .unlock⟩) := by
  have hlocked : (s.threads i).locksTurnstile u := by
    simp [BarrierThread.locksTurnstile, hpc, SemaphorePc.locked, hu]
  have hne : (barrierCall round).turnstile ≠ u := by
    rw [hwaited, barrierCall_waited]
    exact Turnstile.ne_other _
  refine
    { maxThreads := h.maxThreads, begun := h.begun, beyond := fun j hj => h.beyond_kept hi hj,
      place := fun j hj => ?_, locks := h.locks.stay ?_,
      locksTurnstile := h.locksTurnstile_written fun t => ?_,
      counted := ?_, closed := ?_, token := ⟨taken, hguards, ?_⟩ }
  · show BarrierThread.At _ round (Function.update s.threads i _ j)
    by_cases hji : j = i
    · rw [hji, Function.update_self]
      refine ⟨?_, fun c hc => SemaphorePc.noConfusion hc⟩
      cases use with
      | closingWait | closingSignal | passingWait | passingSignal => exact hat
    · rw [Function.update_of_ne hji]
      refine (h.place j hj).frame rfl (fun _ => rfl) fun t ht => ?_
      have htu : t ≠ u := by
        intro heq
        rw [heq] at ht
        exact (h.locksTurnstile u).others hlocked j hji ht
      show (Function.update s.turnstiles u _ t).count = _
      rw [Function.update_of_ne htu]
  · simp [BarrierThread.locks, hpc]
  · simp [BarrierThread.locksTurnstile, hpc, SemaphorePc.locked]
  · show s.count = gathered n round (tally _ n (Function.update s.threads i _))
    rw [tally_update_same (by simp [BarrierThread.came, hpc])]
    exact h.counted
  · show (Function.update s.turnstiles u _ _).count = 0
    rw [Function.update_of_ne hne]
    exact h.closed
  · show (Function.update s.turnstiles u _ _).count = _
    rw [← hwaited, Function.update_self]
    exact hc

/-- **A wait succeeds**: nobody had the token. -/
theorem BarrierInv.takeToken {c : Int} (h : BarrierInv n round s) (hi : i < n)
    (hpc : (s.threads i).pc = .semaphore use (.write c)) (hwaits : use.waits = true) :
    BarrierInv n round ({ s with
      turnstiles := Function.update s.turnstiles
        (use.turnstile (barrierCall (s.threads i).calls))
        { s.turnstiles (use.turnstile (barrierCall (s.threads i).calls)) with count := c } }.goto i
        ⟨(s.threads i).calls, .semaphore use .unlock⟩) := by
  obtain ⟨hat, hwrites⟩ := h.at hi hpc
  obtain ⟨taken, hguards, hvalue⟩ := h.token
  have hknows := hwrites c rfl
  rw [if_pos hwaits] at hknows
  have hplace : use.turnstile (barrierCall (s.threads i).calls) = (barrierCall round).waited ∧
      use.At s round (s.threads i).calls .unlock := by
    cases use with
    | closingWait => exact ⟨by rw [hat.1]; rfl, hat⟩
    | passingWait =>
      rcases hat with hpassed | ⟨_, hbefore⟩
      · exact ⟨by rw [← hpassed]; exact barrierCall_succ_waited.symm, Or.inl hpassed⟩
      · exact Bool.noConfusion hbefore
    | closingSignal | passingSignal => exact Bool.noConfusion hwaits
  rw [hplace.1, hvalue] at hknows
  obtain ⟨hpos, hc⟩ := hknows
  have hfree : taken = false := by
    by_contra htaken
    rw [if_pos (by simpa using htaken)] at hpos
    omega
  rw [hfree] at hguards hc
  refine h.moveToken hi hpc rfl hplace.1 hplace.2 (hguards.take ?_) hc
  simp [BarrierThread.holds, SemaphoreUse.holds, hwaits]

/-- **A thread that passed signals**: it gives the token back. -/
theorem BarrierInv.giveToken {c : Int} (h : BarrierInv n round s) (hi : i < n)
    (hpc : (s.threads i).pc = .semaphore .passingSignal (.write c)) :
    BarrierInv n round ({ s with
      turnstiles := Function.update s.turnstiles (barrierCall (s.threads i).calls).turnstile
        { s.turnstiles (barrierCall (s.threads i).calls).turnstile with count := c } }.goto i
        ⟨(s.threads i).calls, .semaphore .passingSignal .unlock⟩) := by
  obtain ⟨hat, hwrites⟩ := h.at hi hpc
  obtain ⟨taken, hguards, hvalue⟩ := h.token
  have hpassed : (s.threads i).calls + 1 = round := hat
  have hwaited : (barrierCall (s.threads i).calls).turnstile = (barrierCall round).waited := by
    rw [← hpassed]
    exact barrierCall_succ_waited.symm
  have hholds : (s.threads i).holds := by
    simp [BarrierThread.holds, hpc, SemaphoreUse.holds, SemaphoreUse.waits]
  have htaken : taken = true := hguards.taken.mpr ⟨i, hholds⟩
  have hc : c = 0 + 1 := by
    have hknows : c = (s.turnstiles (barrierCall (s.threads i).calls).turnstile).count + 1 :=
      hwrites c rfl
    rw [hwaited, hvalue, htaken] at hknows
    exact hknows
  refine h.moveToken hi hpc rfl hwaited hat (hguards.give hholds ?_) hc
  exact fun hh => Bool.noConfusion hh

/-- The round closes once every thread came. -/
theorem BarrierInv.closing_all (h : BarrierInv n round s) (hclosing : Closing s round) :
    tally (BarrierThread.came round) n s.threads = n := by
  unfold Closing at hclosing
  rw [h.counted, h.maxThreads] at hclosing
  exact closes_gathered.mp hclosing

/-- When the last thread is inside, every other one waits at the turnstile of the
round. -/
theorem BarrierInv.others_wait (h : BarrierInv n round s)
    (hlocks : (s.threads i).locks) (hclosing : Closing s round) :
    ∀ j < n, j ≠ i → ∃ pc, (s.threads j).pc = .semaphore .passingWait pc ∧
      (s.threads j).calls = round ∧ pc.before = true := by
  intro j hj hji
  have hcame := tally_eq_iff.mp (h.closing_all hclosing) j hj
  have hout := h.locks.others hlocks j hji
  have hat := h.place j hj
  unfold BarrierThread.came at hcame
  unfold BarrierThread.locks at hout
  unfold BarrierThread.At at hat
  cases hpc : (s.threads j).pc with
  | idle =>
    simp only [hpc, beq_iff_eq] at hcame hat
    omega
  | lock | read | write c =>
    simp only [hpc] at hcame
    exact Bool.noConfusion hcame
  | test c | unlock =>
    simp only [hpc] at hout
    exact absurd trivial hout
  | semaphore use pc =>
    simp only [hpc, beq_iff_eq] at hcame hout hat
    cases use with
    | closingWait | closingSignal => exact absurd rfl hout
    | passingSignal =>
      have hpassed : (s.threads j).calls + 1 = round := hat.1
      omega
    | passingWait =>
      rcases hat.1 with hpassed | ⟨hcalls, hbefore⟩
      · omega
      · exact ⟨pc, rfl, hcalls, hbefore⟩

/-- **The last thread signals**: the token is there for the threads of this round, and
the next round begins. -/
theorem BarrierInv.openRound {c : Int} (h : BarrierInv n round s) (hi : i < n)
    (hpc : (s.threads i).pc = .semaphore .closingSignal (.write c)) :
    BarrierInv n (round + 1) ({ s with
      turnstiles := Function.update s.turnstiles (barrierCall (s.threads i).calls).turnstile
        { s.turnstiles (barrierCall (s.threads i).calls).turnstile with count := c } }.goto i
        ⟨(s.threads i).calls, .semaphore .closingSignal .unlock⟩) := by
  obtain ⟨hat, hwrites⟩ := h.at hi hpc
  obtain ⟨hcalls, hclosing⟩ := hat.1 SemaphorePc.noConfusion
  obtain ⟨taken, hguards, hvalue⟩ := h.token
  have hlocks : (s.threads i).locks := by simp [BarrierThread.locks, hpc, SemaphoreUse.closing]
  have hothers := h.others_wait hlocks hclosing
  have hc : c = 0 + 1 := by
    have hknows : c = (s.turnstiles (barrierCall (s.threads i).calls).turnstile).count + 1 :=
      hwrites c rfl
    rw [hcalls, h.closed] at hknows
    exact hknows
  have hholds : (s.threads i).holds := by
    simp [BarrierThread.holds, hpc, SemaphoreUse.holds, SemaphoreUse.waits]
  have htaken : taken = true := hguards.taken.mpr ⟨i, hholds⟩
  rw [hcalls]
  refine
    { maxThreads := h.maxThreads, begun := Nat.le_add_left 1 round,
      beyond := fun j hj => h.beyond_kept hi hj,
      place := fun j hj => ?_, locks := h.locks.stay ?_,
      locksTurnstile := h.locksTurnstile_written fun t => ?_,
      counted := ?_, closed := ?_, token := ⟨false, hguards.give hholds ?_, ?_⟩ }
  · show BarrierThread.At _ (round + 1) (Function.update s.threads i _ j)
    by_cases hji : j = i
    · rw [hji, Function.update_self]
      exact ⟨⟨fun hne => absurd rfl hne, fun _ => rfl⟩, fun c hc => SemaphorePc.noConfusion hc⟩
    · rw [Function.update_of_ne hji]
      obtain ⟨pc, hwait, hround, hbefore⟩ := hothers j hj hji
      simp only [BarrierThread.At, hwait]
      refine ⟨Or.inl (by rw [hround]), fun c hc => ?_⟩
      rw [hc] at hbefore
      exact Bool.noConfusion hbefore
  · simp [BarrierThread.locks, hpc]
  · simp [BarrierThread.locksTurnstile, hpc, SemaphorePc.locked, hcalls]
  · show s.count = gathered n (round + 1) (tally _ n (Function.update s.threads i _))
    have hall : s.count = gathered n round n := by
      rw [h.counted, h.closing_all hclosing]
    have hnone : tally (BarrierThread.came (round + 1)) n
        (Function.update s.threads i ⟨round, .semaphore .closingSignal .unlock⟩) = 0 := by
      refine tally_eq_zero_iff.mpr fun j hj => ?_
      by_cases hji : j = i
      · rw [hji, Function.update_self]
        simp [BarrierThread.came]
      · rw [Function.update_of_ne hji]
        obtain ⟨pc, hwait, hround, _⟩ := hothers j hj hji
        simp [BarrierThread.came, hwait, hround]
    rw [hnone, hall]
    exact gathered_all
  · show (Function.update s.turnstiles _ _ _).count = 0
    rw [barrierCall_succ_turnstile, Function.update_of_ne, hvalue, htaken]
    · rfl
    · rw [barrierCall_waited]
      exact (Turnstile.ne_other _).symm
  · exact fun hh => Bool.noConfusion hh
  · show (Function.update s.turnstiles _ _ _).count = _
    rw [barrierCall_succ_waited, Function.update_self]
    exact hc

end Semaphores

/-! ## Every run -/

variable {n round i : Nat} {s s' : Barrier}

/-- **One step** keeps the invariant, in this round or in the next. -/
theorem threadStep_inv (h : BarrierInv n round s) (hi : i < n)
    (hstep : threadStep s i = some s') : ∃ round', BarrierInv n round' s' := by
  unfold threadStep at hstep
  cases hpc : (s.threads i).pc with
  | idle =>
    simp only [hpc] at hstep
    obtain rfl := Option.some.inj hstep
    exact ⟨round, h.begin hi hpc⟩
  | lock =>
    simp only [hpc] at hstep
    split at hstep
    next => exact absurd hstep.symm (Option.some_ne_none _)
    next hfree =>
      obtain rfl := Option.some.inj hstep
      exact ⟨round, h.lock hi hpc (Bool.eq_false_iff.mpr hfree)⟩
  | read =>
    simp only [hpc] at hstep
    obtain rfl := Option.some.inj hstep
    exact ⟨round, h.read hi hpc⟩
  | write count =>
    simp only [hpc] at hstep
    obtain rfl := Option.some.inj hstep
    exact ⟨round, h.come hi hpc⟩
  | test count =>
    simp only [hpc] at hstep
    obtain rfl := Option.some.inj hstep
    exact ⟨round, h.test hi hpc⟩
  | unlock =>
    simp only [hpc] at hstep
    obtain rfl := Option.some.inj hstep
    exact ⟨round, h.unlock hi hpc⟩
  | semaphore use pc =>
    simp only [hpc] at hstep
    split at hstep
    next => exact absurd hstep.symm (Option.some_ne_none _)
    next semaphore pc' huse =>
      obtain rfl := Option.some.inj hstep
      rcases SemaphoreUse.step_cases huse with ⟨rfl, hfree, rfl, rfl⟩ |
        ⟨rfl, rfl, hwrites, hnext⟩ | ⟨c, rfl, rfl, rfl⟩ | ⟨rfl, rfl, rfl⟩ | ⟨rfl, rfl, rfl⟩
      · exact ⟨round, h.lockSemaphore hi hpc hfree⟩
      · rcases hnext with rfl | ⟨c, rfl⟩
        · exact ⟨round, h.readSemaphore hi hpc hwrites (Or.inl rfl)⟩
        · exact ⟨round, h.readSemaphore hi hpc hwrites (Or.inr ⟨c, rfl⟩)⟩
      · cases use with
        | closingWait => exact ⟨round, h.takeToken hi hpc rfl⟩
        | passingWait => exact ⟨round, h.takeToken hi hpc rfl⟩
        | passingSignal => exact ⟨round, h.giveToken hi hpc⟩
        | closingSignal => exact ⟨round + 1, h.openRound hi hpc⟩
      · exact ⟨round, h.retrySemaphore hi hpc⟩
      · exact ⟨round, h.unlockSemaphore hi hpc⟩

/-- The invariant holds after `BarrierSet`. -/
theorem barrierInv_barrierSet : BarrierInv n 1 (barrierSet n) where
  maxThreads := rfl
  begun := Nat.le_refl 1
  beyond _ _ := rfl
  place _ _ := rfl
  locks := guards_free fun _ => id
  locksTurnstile t := by
    cases t with
    | turnstile1 | turnstile2 => exact guards_free fun _ => id
  counted := by
    have hnone : tally (BarrierThread.came 1) n (barrierSet n).threads = 0 :=
      tally_eq_zero_iff.mpr fun _ _ => rfl
    rw [hnone]
    rfl
  closed := rfl
  token := ⟨false, guards_free fun _ => id, rfl⟩

/-- Nobody is back from the call of the round, and everybody came to the one before. -/
theorem BarrierInv.between (h : BarrierInv n round s) (hi : i < n) :
    (s.threads i).returned + 1 ≤ round ∧ round ≤ (s.threads i).calls + 1 := by
  have hat := h.place i hi
  have hbegun := h.begun
  unfold BarrierThread.At at hat
  unfold BarrierThread.returned
  cases hpc : (s.threads i).pc with
  | idle =>
    simp only [hpc] at hat
    rw [if_pos rfl]
    omega
  | lock | read =>
    simp only [hpc] at hat
    rw [if_neg BarrierPc.noConfusion]
    omega
  | write c | test c =>
    simp only [hpc] at hat
    rw [if_neg BarrierPc.noConfusion]
    omega
  | unlock =>
    simp only [hpc] at hat
    rw [if_neg BarrierPc.noConfusion]
    omega
  | semaphore use pc =>
    simp only [hpc] at hat
    rw [if_neg BarrierPc.noConfusion]
    have hcalls : (s.threads i).calls = round ∨ (s.threads i).calls + 1 = round := by
      cases use with
      | closingWait => exact Or.inl hat.1.1
      | closingSignal =>
        by_cases hunlock : pc = .unlock
        · exact Or.inr (hat.1.2 hunlock)
        · exact Or.inl (hat.1.1 hunlock).1
      | passingWait =>
        rcases hat.1 with hpassed | ⟨hround, _⟩
        · exact Or.inr hpassed
        · exact Or.inl hround
      | passingSignal => exact Or.inr hat.1
    omega

theorem BarrierInv.ok (h : BarrierInv n round s) : BarrierOk n s := by
  have hcalls : ∀ i < n, ∀ j < n, (s.threads i).returned ≤ (s.threads j).calls := by
    intro i hi j hj
    have hback := (h.between hi).1
    have hcome := (h.between hj).2
    omega
  refine
    { enter := fun i hi j hj => ?_, exit := fun i hi j hj => ?_, count := ?_,
      turnstiles := fun t => ?_ }
  · exact Nat.div_le_div_right (Nat.add_le_add_right (hcalls i hi j hj) 1)
  · exact Nat.div_le_div_right (hcalls i hi j hj)
  · rw [h.counted]
    exact gathered_bounds tally_le
  · obtain ⟨taken, _, hvalue⟩ := h.token
    by_cases hround : t = (barrierCall round).turnstile
    · rw [hround, h.closed]
      omega
    · have hwaited : t = (barrierCall round).waited := by
        rw [barrierCall_waited]
        cases t with
        | turnstile1 | turnstile2 =>
          cases hother : (barrierCall round).turnstile with
          | turnstile1 | turnstile2 => simp_all [Turnstile.other]
      rw [hwaited, hvalue]
      split
      next => omega
      next => omega

/-- **The barrier is reusable**: in every run of `n` threads that enter and exit in turn,
nobody is back from a call that some thread has not come to, and the counters stay in
their bounds. -/
theorem barrier_reusable (n : Nat) (threads : List Nat) :
    Always (barrierStep n) (BarrierOk n) (barrierSet n) threads := by
  refine @always_of_inv _ _ _ _ (fun s => ∃ round, BarrierInv n round s) ?_ ?_ _ _
    ⟨1, barrierInv_barrierSet⟩
  · intro s hinv
    obtain ⟨round, h⟩ := hinv
    exact h.ok
  · intro s i s' hinv hstep
    obtain ⟨round, h⟩ := hinv
    unfold barrierStep at hstep
    split at hstep
    next hi => exact threadStep_inv h hi hstep
    next => exact absurd hstep.symm (Option.some_ne_none _)

end DeepShield.Os
