import DeepShield.Lib.Parties
import DeepShield.Lib.Runs

/-!
# The barrier of `sync.c`

`BarrierEnter` and `BarrierExit` are two halves of a barrier that can be used again:
each counts the threads that come, up or down, and the last one opens the turnstile of
its half and closes the other. To close it, it waits on it as a semaphore, holding the
lock of the barrier. All others wait at the turnstile, and each one that gets through
signals it for the next.

A thread calls `BarrierEnter` and `BarrierExit` in turn, so that its calls are numbered:
the odd ones enter and the even ones exit. The two functions differ in four values
(`BarrierCall`). Each access to a lock, to the counter and to a semaphore's counter is a
step of its own.

`BarrierOk` is what the barrier is for: nobody returns from a call before all came to it.
-/

namespace DeepShield.Os

open DeepShield.Lib

/-! ## Semaphores -/

/-- `SEMAPHORE`; the lock is a spin lock. -/
structure Semaphore where
  lock : Bool
  count : Int
deriving Repr, DecidableEq

/-- `SemaphoreSet`. -/
def semaphoreSet (threadCount : Int) : Semaphore := ⟨false, threadCount⟩

/-- Where a thread is in `SemaphoreWait` or `SemaphoreSignal`: at the lock, about to read
the counter or to write it, and about to unlock, to try again or to return. -/
inductive SemaphorePc
  | lock
  | read
  | write (count : Int)
  | retry
  | unlock
deriving Repr, DecidableEq

/-- A step of either, with what it does with the counter it read; the second component is
none when it returns. -/
def semaphoreStep (onRead : Int → SemaphorePc) (semaphore : Semaphore) :
    SemaphorePc → Option (Semaphore × Option SemaphorePc)
  | .lock => if semaphore.lock then none else some ({ semaphore with lock := true }, some .read)
  | .read => some (semaphore, some (onRead semaphore.count))
  | .write count => some ({ semaphore with count := count }, some .unlock)
  | .retry => some ({ semaphore with lock := false }, some .lock)
  | .unlock => some ({ semaphore with lock := false }, none)

/-- `SemaphoreWait`. -/
def semaphoreWait : Semaphore → SemaphorePc → Option (Semaphore × Option SemaphorePc) :=
  semaphoreStep fun count => if count ≥ 1 then .write (count - 1) else .retry

/-- `SemaphoreSignal`. -/
def semaphoreSignal : Semaphore → SemaphorePc → Option (Semaphore × Option SemaphorePc) :=
  semaphoreStep fun count => .write (count + 1)

/-! ## The barrier -/

/-- The fields `turnstile1` and `turnstile2`. -/
inductive Turnstile
  | turnstile1
  | turnstile2
deriving Repr, DecidableEq

def Turnstile.other : Turnstile → Turnstile
  | turnstile1 => turnstile2
  | turnstile2 => turnstile1

/-- A call of the barrier: what it adds to the counter, the test of the new count (with
`maxThreads`) for the last thread, the turnstile that this thread waits on, and the one
that it signals and all pass. -/
structure BarrierCall where
  delta : Int
  closes : Int → Int → Bool
  waited : Turnstile
  turnstile : Turnstile

/-- `BarrierEnter`. -/
def barrierEnter : BarrierCall where
  delta := 1
  closes count maxThreads := count == maxThreads
  waited := .turnstile2
  turnstile := .turnstile1

/-- `BarrierExit`. -/
def barrierExit : BarrierCall where
  delta := -1
  closes count _ := count == 0
  waited := .turnstile1
  turnstile := .turnstile2

/-- The call with this number, of a thread that calls them in turn. -/
def barrierCall (number : Nat) : BarrierCall :=
  if number % 2 = 1 then barrierEnter else barrierExit

/-- The semaphore operations in a call: the last thread's two, and everybody's two. -/
inductive SemaphoreUse
  | closingWait
  | closingSignal
  | passingWait
  | passingSignal
deriving Repr, DecidableEq

/-- The turnstile of an operation. -/
def SemaphoreUse.turnstile (call : BarrierCall) : SemaphoreUse → Turnstile
  | closingWait => call.waited
  | closingSignal | passingWait | passingSignal => call.turnstile

/-- The operation itself. -/
def SemaphoreUse.step : SemaphoreUse → Semaphore → SemaphorePc →
    Option (Semaphore × Option SemaphorePc)
  | closingWait | passingWait => semaphoreWait
  | closingSignal | passingSignal => semaphoreSignal

/-- Where a thread is: outside, at the lock of the barrier, about to read the counter, to
write it and to test it, in a semaphore operation, and about to unlock. -/
inductive BarrierPc
  | idle
  | lock
  | read
  | write (count : Int)
  | test (count : Int)
  | semaphore (use : SemaphoreUse) (pc : SemaphorePc)
  | unlock
deriving Repr, DecidableEq

/-- What follows an operation. -/
def SemaphoreUse.next : SemaphoreUse → BarrierPc
  | closingWait => .semaphore .closingSignal .lock
  | closingSignal => .unlock
  | passingWait => .semaphore .passingSignal .lock
  | passingSignal => .idle

/-- A thread, with the number of calls it has begun. -/
structure BarrierThread where
  calls : Nat
  pc : BarrierPc
deriving Repr, DecidableEq

/-- `BARRIER`, and the threads. -/
structure Barrier where
  maxThreads : Int
  lock : Bool
  count : Int
  turnstiles : Turnstile → Semaphore
  threads : Nat → BarrierThread

/-- `BarrierSet`, before any thread comes. -/
def barrierSet (threadCount : Int) : Barrier where
  maxThreads := threadCount
  lock := false
  count := 0
  turnstiles
    | .turnstile1 => semaphoreSet 0
    | .turnstile2 => semaphoreSet 1
  threads _ := ⟨0, .idle⟩

/-- Thread `i` moves on. -/
def Barrier.goto (s : Barrier) (i : Nat) (thread : BarrierThread) : Barrier :=
  { s with threads := Function.update s.threads i thread }

/-- A step of thread `i`; none if it has to wait. -/
def threadStep (s : Barrier) (i : Nat) : Option Barrier :=
  let thread := s.threads i
  let call := barrierCall thread.calls
  match thread.pc with
  | .idle => some (s.goto i ⟨thread.calls + 1, .lock⟩)
  | .lock =>
    if s.lock then none else some ({ s with lock := true }.goto i ⟨thread.calls, .read⟩)
  | .read => some (s.goto i ⟨thread.calls, .write (s.count + call.delta)⟩)
  | .write count => some ({ s with count := count }.goto i ⟨thread.calls, .test count⟩)
  | .test count =>
    some (s.goto i ⟨thread.calls,
      if call.closes count s.maxThreads then .semaphore .closingWait .lock else .unlock⟩)
  | .semaphore use pc =>
    match use.step (s.turnstiles (use.turnstile call)) pc with
    | none => none
    | some (semaphore, pc') =>
      some ({ s with
        turnstiles := Function.update s.turnstiles (use.turnstile call) semaphore }.goto i
          ⟨thread.calls, match pc' with | some pc' => .semaphore use pc' | none => use.next⟩)
  | .unlock =>
    some ({ s with lock := false }.goto i ⟨thread.calls, .semaphore .passingWait .lock⟩)

/-- A step of one of `n` threads. -/
def barrierStep (n : Nat) (s : Barrier) (i : Nat) : Option Barrier :=
  if i < n then threadStep s i else none

/-! ## The property -/

namespace BarrierThread

/-- The calls a thread has returned from. -/
def returned (thread : BarrierThread) : Nat :=
  if thread.pc = .idle then thread.calls else thread.calls - 1

/-- The calls of `BarrierEnter` among the first `calls`. -/
def enters (calls : Nat) : Nat := (calls + 1) / 2

/-- The calls of `BarrierExit`. -/
def exits (calls : Nat) : Nat := calls / 2

end BarrierThread

/-- Nobody is back from a call that another thread has not come to, and the counters are
in their bounds. -/
structure BarrierOk (n : Nat) (s : Barrier) : Prop where
  enter : ∀ i < n, ∀ j < n, BarrierThread.enters (s.threads i).returned
    ≤ BarrierThread.enters (s.threads j).calls
  exit : ∀ i < n, ∀ j < n, BarrierThread.exits (s.threads i).returned
    ≤ BarrierThread.exits (s.threads j).calls
  count : 0 ≤ s.count ∧ s.count ≤ n
  turnstiles : ∀ t, 0 ≤ (s.turnstiles t).count ∧ (s.turnstiles t).count ≤ 1

end DeepShield.Os
