import Mathlib.Algebra.Group.Int.Defs
import DeepShield.Lib.Parties
import DeepShield.Lib.Simulation
import DeepShield.Os.Interlocked

/-!
# The semaphores of `sync.c`

A semaphore is a counter behind a spin lock of its own. The lock is a word that a
compare-exchange takes and gives back, and the counter is read and written by two
operations with other threads' between them. Here each access to one of the two words is a
step, as the processor makes it, and any number of threads set, signal and wait in any
order; the word of the counter wraps.

What it should be is a counter that every call changes at once, at some moment between the
call and its return (`atomicSemaphore`). `semaphore_linearizable` says that nothing else
can be seen of it: the calls and returns of any run are those of a run of the counter. The
moment is the write. `semaphore_conserves` draws from this that no permit is lost or given
out twice.
-/

namespace DeepShield.Os.Sync

open DeepShield.Lib

/-! ## The words -/

/-- `SEMAPHORE`. -/
structure Semaphore where
  lock : BitVec 64
  count : BitVec 64
deriving Repr, DecidableEq

/-- `SpinTryLock`. -/
def spinTryLock (spinlock : BitVec 64) : Bool × BitVec 64 :=
  let exchange := interlockedCompareExchange spinlock 1 0
  (exchange.1 == 0, exchange.2)

/-- `SpinUnlock`. -/
def spinUnlock (spinlock : BitVec 64) : BitVec 64 := (interlockedCompareExchange spinlock 0 1).2

@[simp] theorem spinTryLock_zero : spinTryLock 0 = (true, 1) := rfl

@[simp] theorem spinTryLock_one : spinTryLock 1 = (false, 1) := by decide

@[simp] theorem spinUnlock_one : spinUnlock 1 = 0 := rfl

/-! ## The threads -/

/-- A call of the semaphore. -/
inductive Call
  | semaphoreSet (threadCount : BitVec 64)
  | semaphoreSignal
  | semaphoreWait
deriving Repr, DecidableEq

/-- Where a call is: in `SpinLock`, about to read the counter, about to write it, and about
to unlock, to return then or to try again. -/
inductive CallPc
  | spinning
  | reading
  | writing (count : BitVec 64)
  | unlocking (again : Bool)
deriving Repr, DecidableEq

/-- What a call does once it has the lock. `SemaphoreSet` does not read. -/
def Call.locked : Call → CallPc
  | semaphoreSet threadCount => .writing threadCount
  | semaphoreSignal | semaphoreWait => .reading

/-- What a call does with the count that it read. -/
def Call.onRead (count : BitVec 64) : Call → CallPc
  | semaphoreSet threadCount => .writing threadCount
  | semaphoreSignal => .writing (count + 1)
  | semaphoreWait => if (1 : BitVec 64).sle count then .writing (count - 1) else .unlocking true

/-- The semaphore and the threads; a thread is in a call or outside. -/
structure SemaphoreState (ι : Type) where
  semaphore : Semaphore
  threads : ι → Option (Call × CallPc)

/-- A thread calls, or goes on in its call. -/
inductive SemaphoreAction (ι : Type)
  | call (i : ι) (call : Call)
  | goOn (i : ι)
deriving Repr, DecidableEq

/-- What is seen of a thread. -/
inductive SemaphoreEvent (ι : Type)
  | called (i : ι) (call : Call)
  | returned (i : ι) (call : Call)
deriving Repr, DecidableEq

section System

variable {ι : Type} [DecidableEq ι]

/-- A thread moves, and leaves the semaphore so. -/
def SemaphoreState.move (s : SemaphoreState ι) (i : ι) (semaphore : Semaphore)
    (thread : Option (Call × CallPc)) : SemaphoreState ι :=
  ⟨semaphore, Function.update s.threads i thread⟩

/-- A step of a call. -/
def callStep (s : SemaphoreState ι) (i : ι) (call : Call) : CallPc → SemaphoreState ι
  | .spinning =>
    let lock := spinTryLock s.semaphore.lock
    s.move i { s.semaphore with lock := lock.2 }
      (some (call, if lock.1 then call.locked else .spinning))
  | .reading => s.move i s.semaphore (some (call, call.onRead s.semaphore.count))
  | .writing count =>
    s.move i { s.semaphore with count := count } (some (call, .unlocking false))
  | .unlocking again =>
    s.move i { s.semaphore with lock := spinUnlock s.semaphore.lock }
      (if again then some (call, .spinning) else none)

/-- The semaphore of `sync.c`. -/
def semaphoreSystem : System (SemaphoreState ι) (SemaphoreAction ι) (SemaphoreEvent ι) where
  step s
    | .call i call =>
      match s.threads i with
      | none => some (s.move i s.semaphore (some (call, .spinning)))
      | some _ => none
    | .goOn i =>
      match s.threads i with
      | none => none
      | some (call, pc) => some (callStep s i call pc)
  shows s
    | .call i call => some (.called i call)
    | .goOn i =>
      match s.threads i with
      | some (call, .unlocking false) => some (.returned i call)
      | _ => none

/-- A semaphore that no thread has come to, with this count. -/
def SemaphoreState.start (count : BitVec 64) : SemaphoreState ι := ⟨⟨0, count⟩, fun _ => none⟩

end System

/-! ## What it should be -/

/-- A call of the atomic semaphore: has it been made effective? -/
structure AtomicCall where
  call : Call
  done : Bool
deriving Repr, DecidableEq

/-- A counter, and the calls that are under way. -/
structure AtomicState (ι : Type) where
  count : BitVec 64
  threads : ι → Option AtomicCall

/-- A thread calls, its call has its effect, and it returns. -/
inductive AtomicAction (ι : Type)
  | call (i : ι) (call : Call)
  | effect (i : ι)
  | leave (i : ι)
deriving Repr, DecidableEq

/-- The effect of a call; a wait has none before the counter is positive. -/
def Call.effect (count : BitVec 64) : Call → Option (BitVec 64)
  | semaphoreSet threadCount => some threadCount
  | semaphoreSignal => some (count + 1)
  | semaphoreWait => if (1 : BitVec 64).sle count then some (count - 1) else none

section Atomic

variable {ι : Type} [DecidableEq ι]

/-- A semaphore each of whose calls has its effect at once. -/
def atomicSemaphore : System (AtomicState ι) (AtomicAction ι) (SemaphoreEvent ι) where
  step s
    | .call i call =>
      match s.threads i with
      | none => some { s with threads := Function.update s.threads i (some ⟨call, false⟩) }
      | some _ => none
    | .effect i =>
      match s.threads i with
      | some ⟨call, false⟩ =>
        match call.effect s.count with
        | some count => some ⟨count, Function.update s.threads i (some ⟨call, true⟩)⟩
        | none => none
      | _ => none
    | .leave i =>
      match s.threads i with
      | some ⟨_, true⟩ => some { s with threads := Function.update s.threads i none }
      | _ => none
  shows s
    | .call i call => some (.called i call)
    | .effect _ => none
    | .leave i => (s.threads i).map fun thread => .returned i thread.call

/-- With nothing under way. -/
def AtomicState.start (count : BitVec 64) : AtomicState ι := ⟨count, fun _ => none⟩

end Atomic

/-! ## The simulation -/

/-- Inside the lock of the semaphore. -/
def inside : Option (Call × CallPc) → Prop
  | none | some (_, .spinning) => False
  | some (_, .reading) | some (_, .writing _) | some (_, .unlocking _) => True

/-- A call as the atomic semaphore has it: its effect is the write. -/
def atomicCall (thread : Option (Call × CallPc)) : Option AtomicCall :=
  thread.map fun (call, pc) => ⟨call, pc == .unlocking false⟩

/-- The lock is with one thread at most, and what is about to be written is what the counter
should become. -/
structure SemaphoreInv {ι : Type} (s : SemaphoreState ι) : Prop where
  lock : ∃ taken, s.semaphore.lock = (if taken then 1 else 0) ∧ Guards inside taken s.threads
  writes : ∀ i call count, s.threads i = some (call, .writing count) →
    call.effect s.semaphore.count = some count

/-- The atomic semaphore that is seen. -/
def SemaphoreState.atomic {ι : Type} (s : SemaphoreState ι) : AtomicState ι :=
  ⟨s.semaphore.count, fun i => atomicCall (s.threads i)⟩

/-- The relation between the two. -/
def SeenAs {ι : Type} (s : SemaphoreState ι) (t : AtomicState ι) : Prop :=
  SemaphoreInv s ∧ t = s.atomic

/-- A call writes its effect, or unlocks to try again. -/
theorem Call.onRead_cases (call : Call) (count : BitVec 64) :
    (∃ count', call.effect count = some count' ∧ call.onRead count = .writing count') ∨
      call.effect count = none ∧ call.onRead count = .unlocking true := by
  cases call with
  | semaphoreSet threadCount => exact Or.inl ⟨threadCount, rfl, rfl⟩
  | semaphoreSignal => exact Or.inl ⟨count + 1, rfl, rfl⟩
  | semaphoreWait =>
    unfold effect onRead
    by_cases hpos : (1 : BitVec 64).sle count = true
    · exact Or.inl ⟨count - 1, if_pos hpos, if_pos hpos⟩
    · exact Or.inr ⟨if_neg hpos, if_neg hpos⟩

section Simulation

variable {ι : Type} [DecidableEq ι] {s s' : SemaphoreState ι} {i : ι} {semaphore : Semaphore}
  {thread : Option (Call × CallPc)} {pc : CallPc}

/-- A thread that moves. -/
theorem SemaphoreState.atomic_move : (s.move i semaphore thread).atomic
    = ⟨semaphore.count, Function.update s.atomic.threads i (atomicCall thread)⟩ := by
  unfold atomic move
  congr 1
  funext j
  exact Function.apply_update (fun _ => atomicCall) s.threads i thread j

/-- A thread that moves unseen. -/
theorem SemaphoreState.atomic_quiet (hcount : semaphore.count = s.semaphore.count)
    (hthread : atomicCall thread = atomicCall (s.threads i)) :
    (s.move i semaphore thread).atomic = s.atomic := by
  rw [atomic_move, hthread, hcount]
  show (⟨_, Function.update s.atomic.threads i (s.atomic.threads i)⟩ : AtomicState ι) = s.atomic
  rw [Function.update_eq_self]
  rfl

/-- **A move** keeps the invariant: the lock is still one thread's, and the thread knows what
it is about to write, which is for the counter as the others know it. -/
theorem SemaphoreInv.move (h : SemaphoreInv s) {taken : Bool}
    (hlock : semaphore.lock = (if taken then 1 else 0))
    (hguards : Guards inside taken (Function.update s.threads i thread))
    (hwrites : ∀ call count, thread = some (call, .writing count) →
      call.effect semaphore.count = some count)
    (hcount : semaphore.count = s.semaphore.count ∨ inside (s.threads i) ∧
      ∀ j, j ≠ i → ¬ inside (s.threads j)) : SemaphoreInv (s.move i semaphore thread) := by
  refine ⟨⟨taken, hlock, hguards⟩, fun j call count hj => ?_⟩
  have hj : Function.update s.threads i thread j = some (call, .writing count) := hj
  show call.effect semaphore.count = some count
  by_cases hji : j = i
  · rw [hji, Function.update_self] at hj
    exact hwrites call count hj
  · rw [Function.update_of_ne hji] at hj
    rcases hcount with hsame | ⟨_, hothers⟩
    · rw [hsame]
      exact h.writes j call count hj
    · refine absurd ?_ (hothers j hji)
      rw [hj]
      trivial

/-- A thread calls. -/
theorem SemaphoreInv.called {call : Call} (h : SemaphoreInv s) (hi : s.threads i = none) :
    SemaphoreInv (s.move i s.semaphore (some (call, .spinning))) := by
  obtain ⟨taken, hlock, hguards⟩ := h.lock
  refine h.move hlock (hguards.stay ?_) ?_ (Or.inl rfl)
  · rw [hi]
    exact Iff.rfl
  · intro call count hthread
    exact CallPc.noConfusion (Prod.mk.inj (Option.some.inj hthread)).2

/-- **One step** of a call. -/
theorem SemaphoreInv.callStep {call : Call} (h : SemaphoreInv s)
    (hi : s.threads i = some (call, pc)) :
    SemaphoreInv (callStep s i call pc) := by
  obtain ⟨taken, hlock, hguards⟩ := h.lock
  cases pc with
  | spinning =>
    have hout : ¬ inside (s.threads i) := by
      rw [hi]
      exact id
    cases taken with
    | true =>
      refine @SemaphoreInv.move _ _ _ _ _ _ h true ?_ (hguards.stay ?_) ?_ (Or.inl rfl)
      · show (spinTryLock s.semaphore.lock).2 = _
        rw [hlock]
        rfl
      · show inside (some (call, if (spinTryLock s.semaphore.lock).1 then _ else _)) ↔ _
        rw [hlock]
        exact iff_of_false id hout
      · show ∀ call' count, some (call, if (spinTryLock s.semaphore.lock).1 then _ else _)
          = some (call', CallPc.writing count) → _
        rw [hlock]
        intro call' count hthread
        exact CallPc.noConfusion (Prod.mk.inj (Option.some.inj hthread)).2
    | false =>
      refine @SemaphoreInv.move _ _ _ _ _ _ h true ?_ (hguards.take ?_) ?_ (Or.inl rfl)
      · show (spinTryLock s.semaphore.lock).2 = _
        rw [hlock]
        rfl
      · show inside (some (call, if (spinTryLock s.semaphore.lock).1 then call.locked else _))
        rw [hlock]
        cases call with
        | semaphoreSet threadCount | semaphoreSignal | semaphoreWait => trivial
      · show ∀ call' count, some (call, if (spinTryLock s.semaphore.lock).1 then call.locked else _)
          = some (call', CallPc.writing count) → call'.effect s.semaphore.count = some count
        rw [hlock]
        intro call' count hthread
        obtain ⟨rfl, hpc⟩ := Prod.mk.inj (Option.some.inj hthread)
        cases call with
        | semaphoreSet threadCount =>
          obtain rfl := CallPc.writing.inj hpc
          rfl
        | semaphoreSignal | semaphoreWait => exact CallPc.noConfusion hpc
  | reading =>
    have hin : inside (s.threads i) := by
      rw [hi]
      trivial
    refine h.move hlock (hguards.stay (iff_of_true ?_ hin)) ?_ (Or.inl rfl)
    · rcases call.onRead_cases s.semaphore.count with ⟨c, _, hread⟩ | ⟨_, hread⟩
      · rw [hread]
        trivial
      · rw [hread]
        trivial
    · intro call' count hthread
      obtain ⟨rfl, hpc⟩ := Prod.mk.inj (Option.some.inj hthread)
      rcases call.onRead_cases s.semaphore.count with ⟨c, heffect, hread⟩ | ⟨_, hread⟩
      · obtain rfl := CallPc.writing.inj (hread.symm.trans hpc)
        exact heffect
      · exact CallPc.noConfusion (hread.symm.trans hpc)
  | writing count =>
    have hin : inside (s.threads i) := by
      rw [hi]
      trivial
    refine @SemaphoreInv.move _ _ _ _ _ _ h taken hlock (hguards.stay (iff_of_true trivial hin)) ?_
      (Or.inr ⟨hin, hguards.others hin⟩)
    intro call' count' hthread
    exact CallPc.noConfusion (Prod.mk.inj (Option.some.inj hthread)).2
  | unlocking again =>
    have hin : inside (s.threads i) := by
      rw [hi]
      trivial
    obtain rfl : taken = true := hguards.taken.mpr ⟨i, hin⟩
    refine @SemaphoreInv.move _ _ _ _ _ _ h false ?_ (hguards.give hin ?_) ?_ (Or.inl rfl)
    · show spinUnlock s.semaphore.lock = _
      rw [hlock]
      rfl
    · cases again with
      | true | false => exact id
    · intro call' count' hthread
      cases again with
      | true => exact CallPc.noConfusion (Prod.mk.inj (Option.some.inj hthread)).2
      | false => exact absurd hthread (by simp)

/-- A call of the atomic semaphore. -/
theorem atomicSemaphore_call {t : AtomicState ι} {call : Call} (hi : t.threads i = none) :
    atomicSemaphore.step t (.call i call)
      = some { t with threads := Function.update t.threads i (some ⟨call, false⟩) } := by
  simp only [atomicSemaphore, hi]

theorem atomicSemaphore_effect {t : AtomicState ι} {call : Call} {count : BitVec 64}
    (hi : t.threads i = some ⟨call, false⟩) (heffect : call.effect t.count = some count) :
    atomicSemaphore.step t (.effect i)
      = some ⟨count, Function.update t.threads i (some ⟨call, true⟩)⟩ := by
  simp only [atomicSemaphore, hi, heffect]

theorem atomicSemaphore_leave {t : AtomicState ι} {call : Call}
    (hi : t.threads i = some ⟨call, true⟩) :
    atomicSemaphore.step t (.leave i)
      = some { t with threads := Function.update t.threads i none } := by
  simp only [atomicSemaphore, hi]

/-- **The semaphore simulates the atomic one.** -/
theorem semaphore_simulates : Simulates (@semaphoreSystem ι _) atomicSemaphore SeenAs := by
  intro s t action s' hrel hstep
  obtain ⟨h, rfl⟩ := hrel
  cases action with
  | call i call =>
    simp only [semaphoreSystem] at hstep
    split at hstep
    next hi =>
      obtain rfl := Option.some.inj hstep
      have houtside : s.atomic.threads i = none := by
        simp only [SemaphoreState.atomic, hi, atomicCall, Option.map_none]
      refine Simulates.moves (atomicSemaphore_call houtside) rfl ⟨h.called hi, ?_⟩
      rw [SemaphoreState.atomic_move]
      rfl
    next => exact absurd hstep (by simp)
  | goOn i =>
    simp only [semaphoreSystem] at hstep
    split at hstep
    next => exact absurd hstep (by simp)
    next call pc hi =>
      obtain rfl := Option.some.inj hstep
      have hcall : s.atomic.threads i = some ⟨call, pc == .unlocking false⟩ := by
        simp only [SemaphoreState.atomic, hi, atomicCall, Option.map_some]
      have hinv := h.callStep hi
      cases pc with
      | spinning =>
        refine Simulates.stays (by simp only [semaphoreSystem, hi]) ⟨hinv, ?_⟩
        have hquiet : atomicCall (some (call, if (spinTryLock s.semaphore.lock).1 then call.locked
            else .spinning)) = atomicCall (s.threads i) := by
          rw [hi]
          cases call with
          | semaphoreSet threadCount | semaphoreSignal | semaphoreWait =>
            cases (spinTryLock s.semaphore.lock).1 with
            | true | false => rfl
        exact (SemaphoreState.atomic_quiet rfl hquiet).symm
      | reading =>
        refine Simulates.stays (by simp only [semaphoreSystem, hi]) ⟨hinv, ?_⟩
        have hquiet : atomicCall (some (call, call.onRead s.semaphore.count))
            = atomicCall (s.threads i) := by
          rw [hi]
          rcases call.onRead_cases s.semaphore.count with ⟨c, _, hread⟩ | ⟨_, hread⟩
          · rw [hread]
            rfl
          · rw [hread]
            rfl
        exact (SemaphoreState.atomic_quiet rfl hquiet).symm
      | writing count =>
        -- the moment of the call
        refine Simulates.moves (atomicSemaphore_effect hcall (h.writes i call count hi))
          (by simp only [semaphoreSystem, atomicSemaphore, hi]) ⟨hinv, ?_⟩
        unfold callStep
        rw [SemaphoreState.atomic_move]
        rfl
      | unlocking again =>
        cases again with
        | true =>
          refine Simulates.stays (by simp only [semaphoreSystem, hi]) ⟨hinv, ?_⟩
          have hquiet : atomicCall (some (call, .spinning)) = atomicCall (s.threads i) := by
            rw [hi]
            rfl
          exact (SemaphoreState.atomic_quiet rfl hquiet).symm
        | false =>
          refine Simulates.moves (atomicSemaphore_leave hcall)
            (by simp only [semaphoreSystem, atomicSemaphore, hi, hcall, Option.map_some])
            ⟨hinv, ?_⟩
          unfold callStep
          rw [SemaphoreState.atomic_move]
          rfl

end Simulation

/-! ## The books of the atomic semaphore -/

namespace SemaphoreEvent

variable {ι : Type}

/-- A thread came with this call. -/
def calls (call : Call) : SemaphoreEvent ι → Bool
  | called _ call' => call' == call
  | returned _ _ => false

/-- A thread is back from this call. -/
def returns (call : Call) : SemaphoreEvent ι → Bool
  | called _ _ => false
  | returned _ call' => call' == call

end SemaphoreEvent

/-- How many came with this call. -/
def callsOf {ι : Type} (call : Call) (shown : List (SemaphoreEvent ι)) : Nat :=
  shown.countP (SemaphoreEvent.calls call)

/-- How many are back from it. -/
def returnsOf {ι : Type} (call : Call) (shown : List (SemaphoreEvent ι)) : Nat :=
  shown.countP (SemaphoreEvent.returns call)

section Books

variable {ι : Type}

/-- How often a call had its effect: for the threads that are back from it, and for those in
`under` that are about to be. -/
def effects (shown : List (SemaphoreEvent ι)) (under : List (ι × AtomicCall)) (call : Call) : Nat :=
  returnsOf call shown + under.countP (·.2 == ⟨call, true⟩)

/-- What the counter is after these signals and waits. -/
def permits (count : BitVec 64) (signals waits : Nat) : Int := count.toInt + signals - waits

/-- **The books**: `under` are the threads under way. The counter is what the effects make of
the first one, and as long as it cannot overflow, there was a permit for each wait. -/
structure Books (count : BitVec 64) (t : AtomicState ι) (shown : List (SemaphoreEvent ι))
    (under : List (ι × AtomicCall)) : Prop where
  listed : Listed under t.threads
  noSet : ∀ x ∈ under, ∀ threadCount, x.2.call ≠ .semaphoreSet threadCount
  called : callsOf .semaphoreSignal shown
    = effects shown under .semaphoreSignal + under.countP (·.2 == ⟨.semaphoreSignal, false⟩)
  balance : t.count = BitVec.ofInt 64 (permits count (effects shown under .semaphoreSignal)
    (effects shown under .semaphoreWait))
  bounded : 0 ≤ count.toInt →
    count.toInt + callsOf .semaphoreSignal shown < 2 ^ 63 →
    0 ≤ permits count (effects shown under .semaphoreSignal) (effects shown under .semaphoreWait)

/-- What has been shown has no `SemaphoreSet`. -/
def NoSet (shown : List (SemaphoreEvent ι)) : Prop :=
  ∀ i threadCount, .called i (.semaphoreSet threadCount) ∉ shown

theorem books_start (count : BitVec 64) : Books count (AtomicState.start count : AtomicState ι)
    [] [] where
  listed := listed_nil
  noSet _ hx := absurd hx List.not_mem_nil
  called := rfl
  balance := by simp [AtomicState.start, permits, effects, returnsOf]
  bounded hcount _ := by simpa [permits, effects, returnsOf] using hcount

variable [DecidableEq ι] {count : BitVec 64} {t t' : AtomicState ι}
  {shown : List (SemaphoreEvent ι)} {under : List (ι × AtomicCall)} {i : ι} {call : Call}

/-- A thread **calls**. -/
theorem Books.calls (h : Books count t shown under) (hi : t.threads i = none)
    (hnoSet : ∀ threadCount, call ≠ .semaphoreSet threadCount) :
    Books count { t with threads := Function.update t.threads i (some ⟨call, false⟩) }
      (shown ++ [.called i call]) ((i, ⟨call, false⟩) :: under) := by
  have heffects : ∀ c, effects (shown ++ [.called i call]) ((i, ⟨call, false⟩) :: under) c
      = effects shown under c := by
    intro c
    simp [effects, returnsOf, SemaphoreEvent.returns]
  refine ⟨h.listed.come hi, ?_, ?_, ?_, ?_⟩
  · exact List.forall_mem_cons.mpr ⟨hnoSet, h.noSet⟩
  · rw [heffects, callsOf, List.countP_append, ← callsOf, h.called, List.countP_cons,
      Nat.add_assoc]
    by_cases hc : call = .semaphoreSignal
    · simp [SemaphoreEvent.calls, hc]
    · simp [SemaphoreEvent.calls, hc]
  · rw [heffects, heffects]
    exact h.balance
  · rw [heffects, heffects]
    intro hcount hbound
    refine h.bounded hcount ?_
    unfold callsOf at hbound ⊢
    rw [List.countP_append] at hbound
    omega

/-- A thread **returns**. -/
theorem Books.returns (h : Books count t shown under) (hi : t.threads i = some ⟨call, true⟩) :
    ∃ under', Books count { t with threads := Function.update t.threads i none }
      (shown ++ [.returned i call]) under' := by
  obtain ⟨rest, hperm, hlisted⟩ := h.listed.go hi
  have heffects : ∀ c, effects (shown ++ [.returned i call]) rest c = effects shown under c := by
    intro c
    unfold effects returnsOf
    rw [hperm.countP_eq, List.countP_append, List.countP_cons]
    simp only [SemaphoreEvent.returns]
    by_cases hc : call = c
    · simp [hc]; omega
    · simp [hc]
  have hcalls : callsOf .semaphoreSignal (shown ++ [.returned i call])
      = callsOf .semaphoreSignal shown := by
    simp [callsOf, SemaphoreEvent.calls]
  refine ⟨rest, hlisted, fun x hx => ?_, ?_, ?_, ?_⟩
  · exact h.noSet x (hperm.mem_iff.mpr (List.mem_cons_of_mem _ hx))
  · rw [heffects, hcalls, h.called, hperm.countP_eq, List.countP_cons]
    simp
  · rw [heffects, heffects]
    exact h.balance
  · rw [heffects, heffects, hcalls]
    exact h.bounded

/-- A counter that did not overflow is the number of permits. -/
theorem one_le_of_sle {word : BitVec 64} {n : Int} (hword : word = BitVec.ofInt 64 n) (hn : 0 ≤ n)
    (hbound : n < 2 ^ 63) (hsle : (1 : BitVec 64).sle word = true) : 1 ≤ n := by
  have hle : (1 : BitVec 64).toInt ≤ word.toInt := by simpa [BitVec.sle] using hsle
  rw [hword, BitVec.toInt_ofInt_eq_self (by decide) (by omega) (by omega)] at hle
  exact hle

/-- One more signal. -/
theorem permits_signal (signals waits : Nat) : BitVec.ofInt 64 (permits count signals waits) + 1
    = BitVec.ofInt 64 (permits count (signals + 1) waits) := by
  have hmore : permits count (signals + 1) waits = permits count signals waits + 1 := by
    unfold permits
    omega
  rw [hmore, BitVec.ofInt_add]
  rfl

/-- One more wait. -/
theorem permits_wait (signals waits : Nat) : BitVec.ofInt 64 (permits count signals waits) - 1
    = BitVec.ofInt 64 (permits count signals (waits + 1)) := by
  have hless : permits count signals (waits + 1) = permits count signals waits + -1 := by
    unfold permits
    omega
  rw [hless, BitVec.ofInt_add, BitVec.sub_eq_add_neg]
  rfl

/-- A call **has its effect**. -/
theorem Books.effect (h : Books count t shown under) (hi : t.threads i = some ⟨call, false⟩)
    {count' : BitVec 64} (heffect : call.effect t.count = some count') :
    ∃ under', Books count ⟨count', Function.update t.threads i (some ⟨call, true⟩)⟩ shown
      under' := by
  obtain ⟨rest, hperm, hlisted⟩ := @Listed.move _ _ _ _ i ⟨call, false⟩ ⟨call, true⟩ _ h.listed hi
  have hmem : (i, ⟨call, false⟩) ∈ under := (h.listed.mem_iff i _).mpr hi
  have hset := h.noSet _ hmem
  have heffects : ∀ c, effects shown ((i, ⟨call, true⟩) :: rest) c
      = effects shown under c + if call = c then 1 else 0 := by
    intro c
    unfold effects
    rw [hperm.countP_eq, List.countP_cons, List.countP_cons]
    by_cases hc : call = c
    · simp [hc]; omega
    · simp [hc]
  have hnoSet : ∀ x ∈ (i, (⟨call, true⟩ : AtomicCall)) :: rest,
      ∀ threadCount, x.2.call ≠ .semaphoreSet threadCount :=
    List.forall_mem_cons.mpr ⟨hset, fun x hx => h.noSet x
      (hperm.mem_iff.mpr (List.mem_cons_of_mem _ hx))⟩
  have hcalled := h.called
  rw [hperm.countP_eq] at hcalled
  cases call with
  | semaphoreSet threadCount => exact absurd rfl (hset threadCount)
  | semaphoreSignal =>
    obtain rfl := Option.some.inj heffect
    have hsignals := heffects .semaphoreSignal
    have hwaits := heffects .semaphoreWait
    rw [if_pos rfl] at hsignals
    rw [if_neg (by decide), Nat.add_zero] at hwaits
    refine ⟨_, hlisted, hnoSet, ?_, ?_, fun hcount hbound => ?_⟩
    · rw [hsignals, hcalled, List.countP_cons, List.countP_cons]
      simp
      omega
    · rw [hsignals, hwaits, h.balance]
      exact permits_signal _ _
    · have hbefore := h.bounded hcount hbound
      rw [hsignals, hwaits]
      unfold permits at hbefore ⊢
      omega
  | semaphoreWait =>
    have hsignals := heffects .semaphoreSignal
    have hwaits := heffects .semaphoreWait
    rw [if_neg (by decide), Nat.add_zero] at hsignals
    rw [if_pos rfl] at hwaits
    unfold Call.effect at heffect
    by_cases hsle : (1 : BitVec 64).sle t.count = true
    · obtain rfl := Option.some.inj ((if_pos hsle).symm.trans heffect)
      refine ⟨_, hlisted, hnoSet, ?_, ?_, fun hcount hbound => ?_⟩
      · rw [hsignals, hcalled, List.countP_cons, List.countP_cons]
        simp
      · rw [hsignals, hwaits, h.balance]
        exact permits_wait _ _
      · have hbefore := h.bounded hcount hbound
        have hone := one_le_of_sle h.balance hbefore (by unfold permits; omega) hsle
        rw [hsignals, hwaits]
        unfold permits at hone ⊢
        omega
    · exact absurd ((if_neg hsle).symm.trans heffect) (by simp)

/-- **The books of a run.** -/
theorem Books.step {action : AtomicAction ι} (h : Books count t shown under)
    (hnoSet : NoSet (shown ++ (atomicSemaphore.shows t action).toList))
    (hstep : atomicSemaphore.step t action = some t') :
    ∃ under', Books count t' (shown ++ (atomicSemaphore.shows t action).toList) under' := by
  cases action with
  | call i call =>
    simp only [atomicSemaphore] at hstep
    split at hstep
    next hi =>
      obtain rfl := Option.some.inj hstep
      refine ⟨_, h.calls hi fun threadCount heq => ?_⟩
      refine hnoSet i threadCount (List.mem_append_right _ ?_)
      rw [heq]
      exact List.mem_singleton_self _
    next => exact absurd hstep (by simp)
  | effect i =>
    simp only [atomicSemaphore] at hstep
    split at hstep
    next call hi =>
      split at hstep
      next count' heffect =>
        obtain rfl := Option.some.inj hstep
        simp only [atomicSemaphore, Option.toList_none, List.append_nil]
        exact h.effect hi heffect
      next => exact absurd hstep (by simp)
    next => exact absurd hstep (by simp)
  | leave i =>
    simp only [atomicSemaphore] at hstep
    split at hstep
    next call hi =>
      obtain rfl := Option.some.inj hstep
      simp only [atomicSemaphore, hi, Option.map_some, Option.toList_some]
      exact h.returns hi
    next => exact absurd hstep (by simp)

/-- The books of whole runs. -/
theorem books_run {moves : List (AtomicAction ι)}
    (hrun : atomicSemaphore.run (.start count) moves = some t)
    (hnoSet : NoSet (atomicSemaphore.trace (.start count) moves)) :
    ∃ under, Books count t (atomicSemaphore.trace (.start count) moves) under := by
  refine @System.run_inv _ _ _ atomicSemaphore _ _ _
    (fun t shown => NoSet shown → ∃ under, Books count t shown under) ?_ []
    (fun _ => ⟨[], books_start count⟩) hrun hnoSet
  intro t action t' shown hbooks hstep hnow
  obtain ⟨under, h⟩ := hbooks fun i threadCount hmem =>
    hnow i threadCount (List.mem_append_left _ hmem)
  exact h.step hnow hstep

end Books

/-! ## Every run -/

section Runs

variable {ι : Type} [DecidableEq ι] {s : SemaphoreState ι} {actions : List (SemaphoreAction ι)}

omit [DecidableEq ι] in
theorem semaphoreInv_start (count : BitVec 64) :
    SemaphoreInv (.start count : SemaphoreState ι) where
  lock := ⟨false, rfl, guards_free fun _ => id⟩
  writes _ _ _ h := absurd h (by simp [SemaphoreState.start])

/-- A run of the semaphore, and the run of the atomic one that shows the same. -/
theorem semaphore_seenAs {count : BitVec 64}
    (hrun : semaphoreSystem.run (.start count) actions = some s) :
    ∃ moves t, atomicSemaphore.run (.start count) moves = some t ∧
      atomicSemaphore.trace (.start count) moves = semaphoreSystem.trace (.start count) actions ∧
      SeenAs s t :=
  semaphore_simulates.run ⟨semaphoreInv_start count, rfl⟩ hrun

/-- **The semaphore is linearizable**: whatever any number of threads do to it, and however
their accesses to its two words are interleaved, they see the calls and returns of a counter
that each call changes at once. -/
theorem semaphore_linearizable (count : BitVec 64)
    (hrun : semaphoreSystem.run (.start count) actions = some s) :
    ∃ moves t, atomicSemaphore.run (.start count) moves = some t ∧
      atomicSemaphore.trace (.start count) moves = semaphoreSystem.trace (.start count) actions ∧
      t.count = s.semaphore.count ∧
      ∀ i, (t.threads i).map AtomicCall.call = (s.threads i).map Prod.fst := by
  obtain ⟨moves, t, hmoves, htrace, _, rfl⟩ := semaphore_seenAs hrun
  refine ⟨moves, _, hmoves, htrace, rfl, fun i => ?_⟩
  simp only [SemaphoreState.atomic, atomicCall, Option.map_map]
  rfl

/-- Thread 1 waits with no permit there, tries again while thread 0 signals, and gets it. -/
def waitMeetsSignal : List (SemaphoreAction Nat) :=
  [.call 1 .semaphoreWait, .goOn 1, .call 0 .semaphoreSignal, .goOn 0, .goOn 1, .goOn 1,
    .goOn 0, .goOn 0, .goOn 1, .goOn 0, .goOn 0, .goOn 1, .goOn 1, .goOn 1, .goOn 1]

theorem waitMeetsSignal_linearizable : ∃ s moves t,
    semaphoreSystem.run (.start 0) waitMeetsSignal = some s ∧
      atomicSemaphore.run (.start 0) moves = some t ∧
      atomicSemaphore.trace (.start 0) moves
        = [.called 1 .semaphoreWait, .called 0 .semaphoreSignal, .returned 0 .semaphoreSignal,
          .returned 1 .semaphoreWait] := by
  obtain ⟨moves, t, hmoves, htrace, _⟩ :=
    @semaphore_linearizable _ _ _ waitMeetsSignal 0 rfl
  exact ⟨_, moves, t, rfl, hmoves, htrace⟩

/-- **No permit is lost or given out twice.** If nobody sets the semaphore, then once all
threads are back its counter is the first one with the signals and without the waits, as a
word; and as long as the signals do not overflow it, there are never more threads back from a
wait than there were permits. -/
theorem semaphore_conserves (count : BitVec 64) {shown : List (SemaphoreEvent ι)}
    (hrun : semaphoreSystem.run (.start count) actions = some s)
    (hshown : semaphoreSystem.trace (.start count) actions = shown) (hnoSet : NoSet shown) :
    ((∀ i, s.threads i = none) → s.semaphore.count = BitVec.ofInt 64 (permits count
        (returnsOf .semaphoreSignal shown) (returnsOf .semaphoreWait shown))) ∧
      (0 ≤ count.toInt → count.toInt + callsOf .semaphoreSignal shown < 2 ^ 63 →
        returnsOf .semaphoreWait shown ≤ count.toInt + callsOf .semaphoreSignal shown) := by
  obtain ⟨moves, t, hmoves, htrace, _, rfl⟩ := semaphore_seenAs hrun
  obtain rfl := htrace.trans hshown
  obtain ⟨under, h⟩ := books_run hmoves hnoSet
  refine ⟨fun hquiet => ?_, fun hcount hbound => ?_⟩
  · have hnone : under = [] := h.listed.eq_nil fun i => by
      simp only [SemaphoreState.atomic, atomicCall, hquiet i, Option.map_none]
    have hbalance := h.balance
    rw [hnone] at hbalance
    exact hbalance
  · have hpermits := h.bounded hcount hbound
    have hcalled := h.called
    unfold permits effects at hpermits
    unfold effects at hcalled
    omega

theorem waitMeetsSignal_conserves : ∃ s : SemaphoreState Nat,
    semaphoreSystem.run (.start 0) waitMeetsSignal = some s ∧
      ((∀ i, s.threads i = none) → s.semaphore.count = BitVec.ofInt 64 (permits 0 1 1)) := by
  have hshown : semaphoreSystem.trace (.start 0) waitMeetsSignal = [.called 1 .semaphoreWait,
      .called 0 .semaphoreSignal, .returned 0 .semaphoreSignal, .returned 1 .semaphoreWait] := rfl
  refine ⟨_, rfl, (@semaphore_conserves _ _ _ waitMeetsSignal 0 _ rfl hshown ?_).1⟩
  intro i threadCount
  simp

end Runs

end DeepShield.Os.Sync
