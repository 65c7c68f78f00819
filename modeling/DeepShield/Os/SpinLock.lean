import DeepShield.Lib.Parties
import DeepShield.Lib.Runs
import DeepShield.Os.Interlocked
import DeepShield.Os.Irql

/-!
# The spin lock

`DsAcquireSpinLock` raises the IRQL to `HIGH_LEVEL` and spins on an atomic test-and-set;
`DsTryToAcquireSpinLock` gives up where the lock is taken. The IRQL there was before is kept
in the lock, next to its owner, and `DsReleaseSpinLock` takes it from there.

Any number of processors call these on any number of locks. A routine is a program counter,
and its steps are its accesses to the lock, so that the processors interleave between any two
of them. A processor nests what it acquires: it releases the lock it acquired last, and does
not acquire one that it has. Between two calls it may do what it likes, with its IRQL and its
thread too.

The saved IRQL and the owner are shared data, written after the lock is acquired and cleared
before it is given back. What makes them the releaser's own is that a processor writes them
only while it has the lock (`SpinInv`): `Processor.owned` are the locks it has, the one that
the routine is at included.

`acquire_alone`, `try_alone` and `release_alone` connect the routines with the locks of
`Os/Irql`, where a call is one step. `spinLock_always` is the result, over every run.
-/

namespace DeepShield.Os.SpinLock

open DeepShield.Lib

/-! ## Locks and processors -/

/-- `DS_SPIN_LOCK`. -/
structure DsSpinLock (Thread : Type) where
  lock : BitVec 32
  oldIrql : Kirql
  owner : Option Thread
deriving Repr, DecidableEq

/-- `DsInitializeSpinLock`. -/
def dsInitializeSpinLock {Thread : Type} : DsSpinLock Thread := ⟨0, passiveLevel, none⟩

/-- A lock a processor has: what its IRQL was before it called for it, and what it stored to
the lock when it got it. -/
structure Acquisition (Lock Thread : Type) where
  lock : Lock
  irqlBefore : Kirql
  oldIrql : Kirql
  owner : Thread
deriving Repr, DecidableEq

/-- Where a processor is, with the lock and the local `OldIrql`: outside; in
`DsAcquireSpinLock` about to test and set, about to read in the loop, about to store
`OldIrql`, about to store `Owner`; in `DsTryToAcquireSpinLock` about to read, about to test and
set, about to store `Owner`, about to store `OldIrql`, without the lock; in
`DsReleaseSpinLock` about to read `OldIrql`, about to clear `Owner`, about to clear `OldIrql`,
about to clear the lock, without the lock. -/
inductive Routine (Lock Thread : Type)
  | outside
  | testing (l : Lock) (oldIrql : Kirql)
  | spinning (l : Lock) (oldIrql : Kirql)
  | acquired (l : Lock) (oldIrql : Kirql)
  | irqlStored (l : Lock) (oldIrql : Kirql)
  | probing (l : Lock) (oldIrql : Kirql)
  | trying (l : Lock) (oldIrql : Kirql)
  | tried (l : Lock) (oldIrql : Kirql)
  | ownerStored (l : Lock) (oldIrql : Kirql) (owner : Thread)
  | failed (oldIrql : Kirql)
  | releasing (a : Acquisition Lock Thread)
  | clearingOwner (a : Acquisition Lock Thread) (oldIrql : Kirql)
  | clearingIrql (a : Acquisition Lock Thread) (oldIrql : Kirql)
  | unlocking (a : Acquisition Lock Thread) (oldIrql : Kirql)
  | released (a : Acquisition Lock Thread) (oldIrql : Kirql)
deriving Repr, DecidableEq

/-- A processor: its IRQL and the thread it runs, where it is, the locks it has, the last one
first, and what its IRQL was when it called the routine it is in. -/
structure Processor (Lock Thread : Type) where
  irql : Kirql
  thread : Thread
  routine : Routine Lock Thread
  held : List (Acquisition Lock Thread)
  calledAt : Kirql
deriving Repr, DecidableEq

/-- The lock the routine has. -/
def Routine.owns {Lock Thread : Type} : Routine Lock Thread → Option Lock
  | .acquired l _ | .irqlStored l _ | .tried l _ | .ownerStored l _ _ => some l
  | .releasing a | .clearingOwner a _ | .clearingIrql a _ | .unlocking a _ => some a.lock
  | _ => none

/-- The lock the routine wants. -/
def Routine.wants {Lock Thread : Type} : Routine Lock Thread → Option Lock
  | .testing l _ | .spinning l _ | .probing l _ | .trying l _ => some l
  | _ => none

/-- There is nothing to show of what a routine wants that wants none. -/
theorem Routine.not_wants {Lock Thread : Type} {routine : Routine Lock Thread} {P : Lock → Prop}
    (h : routine.wants = none) (l : Lock) (hl : routine.wants = some l) : P l :=
  absurd (h.symm.trans hl) (Option.some_ne_none l).symm

/-- The locks between whose acquisition and release a processor is. -/
def Processor.owned {Lock Thread : Type} (processor : Processor Lock Thread) : List Lock :=
  processor.routine.owns.toList ++ processor.held.map Acquisition.lock

/-- The locks and the processors. `restored` has, for every release and every try that
failed, the IRQL before the matching acquire or try and the IRQL after it. -/
structure SpinState (ι Lock Thread : Type) where
  locks : Lock → DsSpinLock Thread
  processors : ι → Processor Lock Thread
  restored : List (Kirql × Kirql)

/-- What a processor does: call a routine, go on in it, or something else. -/
inductive SpinAction (ι Lock Thread : Type)
  | dsAcquireSpinLock (p : ι) (l : Lock)
  | dsTryToAcquireSpinLock (p : ι) (l : Lock)
  | dsReleaseSpinLock (p : ι)
  | goOn (p : ι)
  | other (p : ι) (irql : Kirql) (thread : Thread)
deriving Repr, DecidableEq

/-! ## Steps -/

section Steps

variable {ι Lock Thread : Type} [DecidableEq ι] [DecidableEq Lock]

/-- No processor has a lock. -/
def SpinState.start (irqls : ι → Kirql) (threads : ι → Thread) : SpinState ι Lock Thread where
  locks _ := dsInitializeSpinLock
  processors p := ⟨irqls p, threads p, .outside, [], irqls p⟩
  restored := []

/-- A processor moves. -/
def SpinState.move (s : SpinState ι Lock Thread) (p : ι) (processor : Processor Lock Thread) :
    SpinState ι Lock Thread :=
  { s with processors := Function.update s.processors p processor }

/-- A lock is written to. -/
def SpinState.store (s : SpinState ι Lock Thread) (l : Lock) (spinLock : DsSpinLock Thread) :
    SpinState ι Lock Thread :=
  { s with locks := Function.update s.locks l spinLock }

/-- A processor is back from a release, or from a try that failed. -/
def SpinState.restore (s : SpinState ι Lock Thread) (p : ι) (irqlBefore : Kirql) :
    SpinState ι Lock Thread :=
  { s with restored := (irqlBefore, (s.processors p).irql) :: s.restored }

/-- The routine of a processor takes a step. -/
def routineStep (s : SpinState ι Lock Thread) (p : ι) : Option (SpinState ι Lock Thread) :=
  let processor := s.processors p
  match processor.routine with
  | .outside => none
  -- DsAcquireSpinLock
  | .testing l oldIrql =>
    let test := interlockedBitTestAndSet (s.locks l).lock 0
    some ((s.store l { s.locks l with lock := test.2 }).move p { processor with
      routine := if test.1 then .spinning l oldIrql else .acquired l oldIrql })
  | .spinning l oldIrql =>
    some (s.move p { processor with
      routine := if (s.locks l).lock ≠ 0 then .spinning l oldIrql else .testing l oldIrql })
  | .acquired l oldIrql =>
    some ((s.store l { s.locks l with oldIrql := oldIrql }).move p
      { processor with routine := .irqlStored l oldIrql })
  | .irqlStored l oldIrql =>
    some ((s.store l { s.locks l with owner := some processor.thread }).move p { processor with
      routine := .outside
      held := ⟨l, processor.calledAt, oldIrql, processor.thread⟩ :: processor.held })
  -- DsTryToAcquireSpinLock
  | .probing l oldIrql =>
    some (s.move p { processor with
      routine := if (s.locks l).lock = 0 then .trying l oldIrql else .failed oldIrql })
  | .trying l oldIrql =>
    let test := interlockedBitTestAndSet (s.locks l).lock 0
    some ((s.store l { s.locks l with lock := test.2 }).move p { processor with
      routine := if test.1 then .failed oldIrql else .tried l oldIrql })
  | .tried l oldIrql =>
    some ((s.store l { s.locks l with owner := some processor.thread }).move p
      { processor with routine := .ownerStored l oldIrql processor.thread })
  | .ownerStored l oldIrql owner =>
    some ((s.store l { s.locks l with oldIrql := oldIrql }).move p { processor with
      routine := .outside
      held := ⟨l, processor.calledAt, oldIrql, owner⟩ :: processor.held })
  | .failed oldIrql =>
    some ((s.move p { processor with irql := oldIrql, routine := .outside }).restore p
      processor.calledAt)
  -- DsReleaseSpinLock
  | .releasing a =>
    some (s.move p { processor with routine := .clearingOwner a (s.locks a.lock).oldIrql })
  | .clearingOwner a oldIrql =>
    some ((s.store a.lock { s.locks a.lock with owner := none }).move p
      { processor with routine := .clearingIrql a oldIrql })
  | .clearingIrql a oldIrql =>
    some ((s.store a.lock { s.locks a.lock with oldIrql := passiveLevel }).move p
      { processor with routine := .unlocking a oldIrql })
  | .unlocking a oldIrql =>
    some ((s.store a.lock { s.locks a.lock with
        lock := interlockedAnd (s.locks a.lock).lock 0 }).move p
      { processor with routine := .released a oldIrql })
  | .released a oldIrql =>
    some ((s.move p { processor with irql := oldIrql, routine := .outside }).restore p
      a.irqlBefore)

/-- One step. A processor that is in a routine makes no other call; it acquires no lock it
has, and releases the one it acquired last. -/
def spinStep (s : SpinState ι Lock Thread) :
    SpinAction ι Lock Thread → Option (SpinState ι Lock Thread)
  | .dsAcquireSpinLock p l =>
    let processor := s.processors p
    match processor.routine with
    | .outside =>
      if l ∈ processor.owned then none
      else some (s.move p { processor with
        irql := highLevel
        calledAt := processor.irql
        routine := .testing l processor.irql })
    | _ => none
  | .dsTryToAcquireSpinLock p l =>
    let processor := s.processors p
    match processor.routine with
    | .outside =>
      if l ∈ processor.owned then none
      else some (s.move p { processor with
        irql := highLevel
        calledAt := processor.irql
        routine := .probing l processor.irql })
    | _ => none
  | .dsReleaseSpinLock p =>
    let processor := s.processors p
    match processor.routine, processor.held with
    | .outside, a :: held =>
      some (s.move p { processor with
        calledAt := processor.irql
        routine := .releasing a
        held := held })
    | _, _ => none
  | .goOn p => routineStep s p
  | .other p irql thread =>
    let processor := s.processors p
    match processor.routine with
    | .outside => some (s.move p { processor with irql := irql, thread := thread })
    | _ => none

end Steps

/-! ## The property -/

section Property

variable {ι Lock Thread : Type}

/-- One processor at most is between the acquisition and the release of a lock; who releases
it finds in it what it stored itself, and reads that; and the IRQL is restored. -/
structure SpinLockOk (s : SpinState ι Lock Thread) : Prop where
  exclusive : ∀ l p q, l ∈ (s.processors p).owned → l ∈ (s.processors q).owned → p = q
  seen : ∀ p a, (s.processors p).routine = .releasing a →
    (s.locks a.lock).oldIrql = a.oldIrql ∧ (s.locks a.lock).owner = some a.owner
  read : ∀ p a oldIrql, (s.processors p).routine = .clearingOwner a oldIrql →
    oldIrql = a.oldIrql ∧ (s.locks a.lock).owner = some a.owner
  restored : ∀ entry ∈ s.restored, entry.2 = entry.1

/-- The lock has what was stored to it when it was acquired, and that is the IRQL to go back
to. -/
structure Recorded (locks : Lock → DsSpinLock Thread) (a : Acquisition Lock Thread) : Prop where
  oldIrql : (locks a.lock).oldIrql = a.oldIrql
  owner : (locks a.lock).owner = some a.owner
  before : a.oldIrql = a.irqlBefore

/-- What a routine knows of the lock it has, and of the IRQL. -/
def RoutineOk (locks : Lock → DsSpinLock Thread) (calledAt : Kirql) :
    Routine Lock Thread → Prop
  | .outside => True
  | .testing _ oldIrql | .spinning _ oldIrql | .probing _ oldIrql | .trying _ oldIrql
  | .acquired _ oldIrql | .tried _ oldIrql | .failed oldIrql => oldIrql = calledAt
  | .irqlStored l oldIrql => oldIrql = calledAt ∧ (locks l).oldIrql = oldIrql
  | .ownerStored l oldIrql owner => oldIrql = calledAt ∧ (locks l).owner = some owner
  | .releasing a => Recorded locks a
  | .clearingOwner a oldIrql => oldIrql = a.oldIrql ∧ Recorded locks a
  | .clearingIrql a oldIrql | .unlocking a oldIrql | .released a oldIrql =>
    oldIrql = a.irqlBefore

/-- A processor is in order: it has each of its locks once, wants none of them, and those it
acquired are as it left them. -/
structure ProcessorOk (locks : Lock → DsSpinLock Thread) (processor : Processor Lock Thread) :
    Prop where
  nodup : processor.owned.Nodup
  wants : ∀ l, processor.routine.wants = some l → l ∉ processor.owned
  held : ∀ a ∈ processor.held, Recorded locks a
  routine : RoutineOk locks processor.calledAt processor.routine

/-- **The invariant**: each lock is taken exactly if a processor has it, and then by one; the
processors are in order; and the IRQL was restored. -/
structure SpinInv (s : SpinState ι Lock Thread) : Prop where
  guards : ∀ l, Guards (fun processor : Processor Lock Thread => l ∈ processor.owned)
    (decide ((s.locks l).lock = 1)) s.processors
  word : ∀ l, (s.locks l).lock = 0 ∨ (s.locks l).lock = 1
  processors : ∀ p, ProcessorOk s.locks (s.processors p)
  restored : ∀ entry ∈ s.restored, entry.2 = entry.1

end Property

/-! ## What a store leaves alone -/

section Frame

variable {Lock Thread : Type} {locks locks' : Lock → DsSpinLock Thread}
  {processor processor' : Processor Lock Thread} {l : Lock}

/-- The shared data of two locks is the same. -/
def SameData (spinLock spinLock' : DsSpinLock Thread) : Prop :=
  spinLock.oldIrql = spinLock'.oldIrql ∧ spinLock.owner = spinLock'.owner

theorem SameData.refl {spinLock : DsSpinLock Thread} : SameData spinLock spinLock := ⟨rfl, rfl⟩

theorem Recorded.frame {a : Acquisition Lock Thread} (h : Recorded locks a)
    (hsame : SameData (locks' a.lock) (locks a.lock)) : Recorded locks' a where
  oldIrql := hsame.1.trans h.oldIrql
  owner := hsame.2.trans h.owner
  before := h.before

/-- A routine knows something of the data of the lock it has, and of no other. -/
theorem RoutineOk.frame {routine : Routine Lock Thread} {calledAt : Kirql}
    (h : RoutineOk locks calledAt routine)
    (hsame : ∀ l, routine.owns = some l → SameData (locks' l) (locks l)) :
    RoutineOk locks' calledAt routine := by
  cases routine with
  | irqlStored l oldIrql => exact ⟨h.1, (hsame l rfl).1.trans h.2⟩
  | ownerStored l oldIrql owner => exact ⟨h.1, (hsame l rfl).2.trans h.2⟩
  | releasing a => exact Recorded.frame h (hsame a.lock rfl)
  | clearingOwner a oldIrql => exact ⟨h.1, h.2.frame (hsame a.lock rfl)⟩
  | _ => exact h

theorem Processor.mem_owned :
    l ∈ processor.owned ↔ processor.routine.owns = some l ∨ ∃ a ∈ processor.held, a.lock = l := by
  unfold Processor.owned
  rw [List.mem_append, Option.mem_toList, List.mem_map]

/-- A processor in order stays so while the data of its locks does. -/
theorem ProcessorOk.frame (h : ProcessorOk locks processor)
    (hsame : ∀ l ∈ processor.owned, SameData (locks' l) (locks l)) :
    ProcessorOk locks' processor where
  nodup := h.nodup
  wants := h.wants
  held := by
    intro a ha
    exact (h.held a ha).frame (hsame a.lock (Processor.mem_owned.mpr (.inr ⟨a, ha, rfl⟩)))
  routine := h.routine.frame fun l hl => hsame l (Processor.mem_owned.mpr (.inl hl))

/-- The lock of the routine is none of those acquired before. -/
theorem ProcessorOk.held_ne (h : ProcessorOk locks processor)
    (hl : processor.routine.owns = some l) {a : Acquisition Lock Thread}
    (ha : a ∈ processor.held) : a.lock ≠ l := by
  have hnodup := h.nodup
  unfold Processor.owned at hnodup
  rw [hl] at hnodup
  have hnot : l ∉ processor.held.map Acquisition.lock := (List.nodup_cons.mp hnodup).1
  intro heq
  exact hnot (heq ▸ List.mem_map_of_mem ha)

theorem Processor.owned_of {routine : Routine Lock Thread} (h : processor.routine = routine) :
    processor.owned = routine.owns.toList ++ processor.held.map Acquisition.lock := by
  unfold Processor.owned
  rw [h]

end Frame

/-! ## Rules for the steps -/

section Moves

variable {ι Lock Thread : Type} {s : SpinState ι Lock Thread}

theorem SpinInv.start (irqls : ι → Kirql) (threads : ι → Thread) :
    SpinInv (SpinState.start irqls threads : SpinState ι Lock Thread) where
  guards _ := guards_free fun _ => List.not_mem_nil
  word _ := .inl rfl
  processors _ :=
    { nodup := List.nodup_nil
      wants := Routine.not_wants rfl
      held := fun _ ha => absurd ha List.not_mem_nil
      routine := trivial }
  restored _ hentry := absurd hentry List.not_mem_nil

theorem SpinInv.ok (h : SpinInv s) : SpinLockOk s where
  exclusive l p q hp hq := (h.guards l).one p q hp hq
  seen p a hroutine := by
    have hknown := (h.processors p).routine
    rw [hroutine] at hknown
    exact ⟨hknown.oldIrql, hknown.owner⟩
  read p a oldIrql hroutine := by
    have hknown := (h.processors p).routine
    rw [hroutine] at hknown
    exact ⟨hknown.1, hknown.2.owner⟩
  restored := h.restored

/-- **Restoring** the IRQL there was before. -/
theorem SpinInv.restore (h : SpinInv s) {p : ι} {irqlBefore : Kirql}
    (hirql : (s.processors p).irql = irqlBefore) : SpinInv (s.restore p irqlBefore) where
  guards := h.guards
  word := h.word
  processors := h.processors
  restored := List.forall_mem_cons.mpr ⟨hirql, h.restored⟩

variable [DecidableEq ι] {p : ι} {processor : Processor Lock Thread}

theorem SpinState.move_self : (s.move p processor).processors p = processor := by
  unfold SpinState.move
  exact Function.update_self ..

/-- **Moving**: nothing is written, and the processor keeps its locks. -/
theorem SpinInv.move (h : SpinInv s) (howned : processor.owned = (s.processors p).owned)
    (hplace : ProcessorOk s.locks processor) : SpinInv (s.move p processor) where
  guards l := (h.guards l).stay (by rw [howned])
  word := h.word
  processors := forall_update (P := fun _ => ProcessorOk _) hplace fun j _ => h.processors j
  restored := h.restored

/-- **Going on** without a write: what the processor wants, it does not have. -/
theorem SpinInv.goTo (h : SpinInv s) (howned : processor.owned = (s.processors p).owned)
    (hheld : ∀ a ∈ processor.held, a ∈ (s.processors p).held)
    (hwants : ∀ l, processor.routine.wants = some l → l ∉ (s.processors p).owned)
    (hroutine : RoutineOk s.locks processor.calledAt processor.routine) :
    SpinInv (s.move p processor) :=
  h.move howned
    { nodup := howned ▸ (h.processors p).nodup
      wants := howned ▸ hwants
      held := fun a ha => (h.processors p).held a (hheld a ha)
      routine := hroutine }

/-- The routine goes on. -/
theorem SpinInv.goOn (h : SpinInv s) {routine : Routine Lock Thread}
    (howns : routine.owns = (s.processors p).routine.owns)
    (hwants : ∀ l, routine.wants = some l → l ∉ (s.processors p).owned)
    (hroutine : RoutineOk s.locks (s.processors p).calledAt routine) :
    SpinInv (s.move p { s.processors p with routine := routine }) := by
  refine h.goTo ?_ (fun a ha => ha) hwants hroutine
  rw [Processor.owned_of rfl, Processor.owned_of rfl, howns]

/-- The routine returns, with no lock, and lowers the IRQL to what it was before. -/
theorem SpinInv.lower (h : SpinInv s) {oldIrql irqlBefore : Kirql}
    (howns : (s.processors p).routine.owns = none) (hirql : oldIrql = irqlBefore) :
    SpinInv ((s.move p { s.processors p with irql := oldIrql, routine := .outside }).restore p
      irqlBefore) := by
  refine SpinInv.restore ?_ ?_
  · refine h.goTo ?_ (fun a ha => ha) (Routine.not_wants rfl) trivial
    rw [Processor.owned_of rfl, Processor.owned_of rfl, howns]
    rfl
  · rw [SpinState.move_self]
    exact hirql

end Moves

section Stores

variable {ι Lock Thread : Type} [DecidableEq Lock] {s : SpinState ι Lock Thread} {p : ι}
  {l l' : Lock} {processor : Processor Lock Thread} {spinLock : DsSpinLock Thread}

theorem SpinState.store_self : (s.store l spinLock).locks l = spinLock := by
  unfold SpinState.store
  exact Function.update_self ..

theorem SpinState.store_of_ne (h : l' ≠ l) : (s.store l spinLock).locks l' = s.locks l' := by
  unfold SpinState.store
  exact Function.update_of_ne h ..

variable [DecidableEq ι]

/-- **A step of one processor.** It writes to no lock but its own, except for the lock word. -/
theorem SpinInv.step (h : SpinInv s)
    (hguards : ∀ l', Guards (fun processor : Processor Lock Thread => l' ∈ processor.owned)
      (decide (((s.store l spinLock).locks l').lock = 1))
      (Function.update s.processors p processor))
    (hword : spinLock.lock = 0 ∨ spinLock.lock = 1)
    (hdata : l ∈ (s.processors p).owned ∨ SameData spinLock (s.locks l))
    (hplace : ProcessorOk (s.store l spinLock).locks processor) :
    SpinInv ((s.store l spinLock).move p processor) where
  guards := hguards
  word l' := by
    by_cases hl' : l' = l
    · rw [hl']
      exact SpinState.store_self (s := s) ▸ hword
    · exact SpinState.store_of_ne (s := s) hl' ▸ h.word l'
  processors := by
    refine forall_update (P := fun _ => ProcessorOk _) hplace fun j hj => ?_
    refine (h.processors j).frame fun l' hl => ?_
    show SameData ((s.store l spinLock).locks l') (s.locks l')
    by_cases hl' : l' = l
    · -- a lock of the other processor is not one of this
      have hmine : l ∉ (s.processors p).owned := fun hp => hj ((h.guards l).one j p (hl' ▸ hl) hp)
      rw [hl', SpinState.store_self]
      exact hdata.resolve_left hmine
    · rw [SpinState.store_of_ne hl']
      exact .refl
  restored := h.restored

/-- **Writing** to a lock it has, with the lock word left as it is. -/
theorem SpinInv.write (h : SpinInv s)
    (hdata : l ∈ (s.processors p).owned ∨ SameData spinLock (s.locks l))
    (hword : spinLock.lock = (s.locks l).lock)
    (howned : processor.owned = (s.processors p).owned)
    (hplace : ProcessorOk (s.store l spinLock).locks processor) :
    SpinInv ((s.store l spinLock).move p processor) := by
  refine h.step (fun l' => ?_) (hword ▸ h.word l) hdata hplace
  have hsame : ((s.store l spinLock).locks l').lock = (s.locks l').lock := by
    by_cases hl' : l' = l
    · rw [hl', SpinState.store_self, hword]
    · rw [SpinState.store_of_ne hl']
  rw [hsame]
  refine (h.guards l').stay ?_
  rw [howned]

/-- **Taking** a lock that no processor has. -/
theorem SpinInv.take (h : SpinInv s) (hfree : (s.locks l).lock = 0)
    (hword : spinLock.lock = 1) (hdata : SameData spinLock (s.locks l))
    (howned : processor.owned = l :: (s.processors p).owned)
    (hplace : ProcessorOk (s.store l spinLock).locks processor) :
    SpinInv ((s.store l spinLock).move p processor) := by
  refine h.step (fun l' => ?_) (.inr hword) (.inr hdata) hplace
  by_cases hl' : l' = l
  · have hbefore := h.guards l
    rw [hfree] at hbefore
    rw [hl', SpinState.store_self, hword]
    refine hbefore.take ?_
    rw [howned]
    exact List.mem_cons_self
  · rw [SpinState.store_of_ne hl']
    refine (h.guards l').stay ?_
    rw [howned, List.mem_cons]
    exact ⟨fun hmem => hmem.resolve_left hl', .inr⟩

/-- **Giving back** a lock. -/
theorem SpinInv.give (h : SpinInv s) (howned : (s.processors p).owned = l :: processor.owned)
    (hword : spinLock.lock = 0) (hplace : ProcessorOk (s.store l spinLock).locks processor) :
    SpinInv ((s.store l spinLock).move p processor) := by
  have hl : l ∈ (s.processors p).owned := by
    rw [howned]
    exact List.mem_cons_self
  refine h.step (fun l' => ?_) (.inl hword) (.inl hl) hplace
  by_cases hl' : l' = l
  · have hnodup := (h.processors p).nodup
    rw [howned] at hnodup
    rw [hl', SpinState.store_self, hword]
    exact (h.guards l).give hl (List.nodup_cons.mp hnodup).1
  · rw [SpinState.store_of_ne hl']
    refine (h.guards l').stay ?_
    rw [howned, List.mem_cons]
    exact ⟨.inr, fun hmem => hmem.resolve_left hl'⟩

/-- **Storing** to the lock of the routine. -/
theorem SpinInv.storeTo (h : SpinInv s) (hl : (s.processors p).routine.owns = some l)
    (hword : spinLock.lock = (s.locks l).lock)
    (howned : processor.owned = (s.processors p).owned)
    (hheld : ∀ a ∈ processor.held,
      a ∈ (s.processors p).held ∨ Recorded (s.store l spinLock).locks a)
    (hwants : processor.routine.wants = none)
    (hroutine : RoutineOk (s.store l spinLock).locks processor.calledAt processor.routine) :
    SpinInv ((s.store l spinLock).move p processor) := by
  have hproc := h.processors p
  refine h.write (.inl (Processor.mem_owned.mpr (.inl hl))) hword howned ?_
  refine ⟨howned ▸ hproc.nodup, Routine.not_wants hwants, fun a ha => ?_, hroutine⟩
  rcases hheld a ha with hbefore | hnow
  · refine (hproc.held a hbefore).frame ?_
    rw [SpinState.store_of_ne (hproc.held_ne hl hbefore)]
    exact .refl
  · exact hnow

/-- The routine goes on with its lock. -/
theorem SpinInv.storeOn (h : SpinInv s) {routine : Routine Lock Thread}
    (hl : (s.processors p).routine.owns = some l) (hword : spinLock.lock = (s.locks l).lock)
    (howns : routine.owns = some l) (hwants : routine.wants = none)
    (hroutine : RoutineOk (s.store l spinLock).locks (s.processors p).calledAt routine) :
    SpinInv ((s.store l spinLock).move p { s.processors p with routine := routine }) := by
  refine h.storeTo hl hword ?_ (fun a ha => .inl ha) hwants hroutine
  rw [Processor.owned_of rfl, Processor.owned_of rfl, howns, hl]

/-- The routine was the last to know of its lock: it is acquired. -/
theorem SpinInv.finish (h : SpinInv s) {a : Acquisition Lock Thread}
    (hl : (s.processors p).routine.owns = some a.lock)
    (hword : spinLock.lock = (s.locks a.lock).lock)
    (hrecorded : Recorded (s.store a.lock spinLock).locks a) :
    SpinInv ((s.store a.lock spinLock).move p { s.processors p with
      routine := .outside
      held := a :: (s.processors p).held }) := by
  refine h.storeTo hl hword ?_ ?_ rfl trivial
  · rw [@Processor.owned_of _ _ (s.processors p) _ rfl, hl]
    rfl
  · exact List.forall_mem_cons.mpr ⟨.inr hrecorded, fun a' ha' => .inl ha'⟩

/-- **Testing and setting** a lock the processor wants: it gets it, or the lock is as it was. -/
theorem SpinInv.testAndSet (h : SpinInv s) {routine routine' : Routine Lock Thread}
    (hl : (s.processors p).routine.wants = some l)
    (howns : (s.processors p).routine.owns = none)
    (hset : routine.owns = none) (hclear : routine'.owns = some l)
    (hsetWants : ∀ l', routine.wants = some l' → l' = l) (hclearWants : routine'.wants = none)
    (hsetOk : RoutineOk s.locks (s.processors p).calledAt routine)
    (hclearOk : ∀ locks, RoutineOk locks (s.processors p).calledAt routine') :
    SpinInv ((s.store l { s.locks l with
        lock := (interlockedBitTestAndSet (s.locks l).lock 0).2 }).move p
      { s.processors p with
        routine := if (interlockedBitTestAndSet (s.locks l).lock 0).1 then routine
          else routine' }) := by
  have hproc := h.processors p
  have hnot : l ∉ (s.processors p).owned := hproc.wants l hl
  have hheld : (s.processors p).owned = (s.processors p).held.map Acquisition.lock := by
    unfold Processor.owned
    rw [howns]
    rfl
  rcases h.word l with hfree | htaken
  · rw [hfree, interlockedBitTestAndSet_zero]
    have howned : ({ s.processors p with routine := routine' } : Processor Lock Thread).owned
        = l :: (s.processors p).owned := by
      rw [Processor.owned_of rfl, hclear, hheld]
      rfl
    refine h.take hfree rfl ⟨rfl, rfl⟩ howned ?_
    refine ⟨howned ▸ List.nodup_cons.mpr ⟨hnot, hproc.nodup⟩, Routine.not_wants hclearWants,
      fun a ha => ?_, hclearOk _⟩
    have hne : a.lock ≠ l := by
      intro heq
      exact hnot (Processor.mem_owned.mpr (.inr ⟨a, ha, heq⟩))
    refine (hproc.held a ha).frame ?_
    rw [SpinState.store_of_ne hne]
    exact .refl
  · rw [htaken, interlockedBitTestAndSet_one]
    have hsame : s.store l { s.locks l with lock := 1 } = s := by
      unfold SpinState.store
      rw [← htaken, Function.update_eq_self]
    have howned : ({ s.processors p with routine := routine } : Processor Lock Thread).owned
        = (s.processors p).owned := by
      rw [Processor.owned_of rfl, hset, hheld]
      rfl
    rw [hsame]
    exact h.goTo howned (fun a ha => ha) (fun l' hl' => hsetWants l' hl' ▸ hnot) hsetOk

end Stores

/-! ## One processor, undisturbed -/

section Alone

variable {ι Lock Thread : Type} [DecidableEq Lock] {s : SpinState ι Lock Thread} {p : ι}
  {l : Lock}

/-- The IRQL of a processor, and those the locks keep. -/
def SpinState.irqlState (s : SpinState ι Lock Thread) (p : ι) : IrqlState Lock where
  irql := (s.processors p).irql
  oldIrql l := (s.locks l).oldIrql

theorem oldIrql_update {locks : Lock → DsSpinLock Thread} {spinLock : DsSpinLock Thread} :
    (fun l' => (Function.update locks l spinLock l').oldIrql)
      = Function.update (fun l' => (locks l').oldIrql) l spinLock.oldIrql :=
  funext fun l' => Function.apply_update (fun _ => DsSpinLock.oldIrql) locks l spinLock l'

variable [DecidableEq ι]

/-- **Acquiring** a free lock is what `Os/Irql` says of it. -/
theorem acquire_alone (houtside : (s.processors p).routine = .outside)
    (hnot : l ∉ (s.processors p).owned) (hfree : (s.locks l).lock = 0) :
    ∃ s', [.dsAcquireSpinLock p l, .goOn p, .goOn p, .goOn p].foldlM spinStep s = some s' ∧
      s'.irqlState p = (s.irqlState p).acquire l ∧
      (s'.processors p).held = ⟨l, (s.processors p).irql, (s.processors p).irql,
        (s.processors p).thread⟩ :: (s.processors p).held := by
  simp [spinStep, routineStep, houtside, hnot, hfree, SpinState.store, SpinState.move,
    SpinState.irqlState, IrqlState.acquire, oldIrql_update]

/-- **Trying** a lock that is taken leaves everything as it was. -/
theorem try_alone (houtside : (s.processors p).routine = .outside)
    (hnot : l ∉ (s.processors p).owned) (htaken : (s.locks l).lock ≠ 0) :
    ∃ s', [.dsTryToAcquireSpinLock p l, .goOn p, .goOn p].foldlM spinStep s = some s' ∧
      s'.locks = s.locks ∧ s'.irqlState p = s.irqlState p ∧
      (s'.processors p).held = (s.processors p).held := by
  have htest : ¬ (s.locks l).lock = 0#32 := htaken
  simp [spinStep, routineStep, houtside, hnot, htest, SpinState.move, SpinState.irqlState,
    SpinState.restore]

/-- **Releasing** a lock too. -/
theorem release_alone {a : Acquisition Lock Thread} {held : List (Acquisition Lock Thread)}
    (houtside : (s.processors p).routine = .outside) (hheld : (s.processors p).held = a :: held) :
    ∃ s', [.dsReleaseSpinLock p, .goOn p, .goOn p, .goOn p, .goOn p, .goOn p].foldlM spinStep s
        = some s' ∧
      s'.irqlState p = (s.irqlState p).release a.lock ∧
      (s'.processors p).held = held ∧
      (s'.locks a.lock).lock = 0 := by
  have hcleared : interlockedAnd (s.locks a.lock).lock 0#32 = 0#32 := interlockedAnd_zero _
  simp [spinStep, routineStep, houtside, hheld, hcleared, SpinState.restore, SpinState.store,
    SpinState.move, SpinState.irqlState, IrqlState.release, oldIrql_update]

end Alone
/-! ## Every run -/

section Runs

variable {ι Lock Thread : Type} [DecidableEq ι] {s s' : SpinState ι Lock Thread} {p : ι}

/-- **A call.** The processor is outside, and wants a lock it does not have. -/
theorem SpinInv.call (h : SpinInv s) {routine : Routine Lock Thread} {l : Lock}
    (houtside : (s.processors p).routine = .outside) (hnot : l ∉ (s.processors p).owned)
    (howns : routine.owns = none) (hwants : routine.wants = some l)
    (hroutine : RoutineOk s.locks (s.processors p).irql routine) :
    SpinInv (s.move p { s.processors p with
      irql := highLevel
      calledAt := (s.processors p).irql
      routine := routine }) := by
  refine h.goTo ?_ (fun a ha => ha) (fun l' hl' => ?_) hroutine
  · rw [Processor.owned_of rfl, Processor.owned_of houtside, howns]
    rfl
  · exact Option.some.inj (hwants.symm.trans hl') ▸ hnot

variable [DecidableEq Lock]

/-- **A step of a routine.** -/
theorem SpinInv.routineStep (h : SpinInv s) (hstep : routineStep s p = some s') : SpinInv s' := by
  have hproc := h.processors p
  have hknown := hproc.routine
  unfold SpinLock.routineStep at hstep
  cases hroutine : (s.processors p).routine
  all_goals
    rw [hroutine] at hknown
    simp only [hroutine] at hstep
    have howns := congrArg Routine.owns hroutine
    have hwants := congrArg Routine.wants hroutine
  case outside => exact absurd hstep (by simp)
  case testing l oldIrql =>
    obtain rfl := Option.some.inj hstep
    exact h.testAndSet hwants howns rfl rfl (fun l' hl' => (Option.some.inj hl').symm) rfl hknown
      fun _ => hknown
  case spinning l oldIrql =>
    obtain rfl := Option.some.inj hstep
    have hnot : l ∉ (s.processors p).owned := hproc.wants l hwants
    by_cases hlock : (s.locks l).lock ≠ 0
    · rw [if_pos hlock]
      exact h.goOn howns.symm (fun l' hl' => Option.some.inj hl' ▸ hnot) hknown
    · rw [if_neg hlock]
      exact h.goOn howns.symm (fun l' hl' => Option.some.inj hl' ▸ hnot) hknown
  case acquired l oldIrql =>
    obtain rfl := Option.some.inj hstep
    refine h.storeOn howns rfl rfl rfl ⟨hknown, ?_⟩
    rw [SpinState.store_self]
  case irqlStored l oldIrql =>
    obtain rfl := Option.some.inj hstep
    refine h.finish (a := ⟨l, _, oldIrql, _⟩) howns rfl ⟨?_, ?_, hknown.1⟩
    · rw [SpinState.store_self]
      exact hknown.2
    · rw [SpinState.store_self]
  case probing l oldIrql =>
    obtain rfl := Option.some.inj hstep
    have hnot : l ∉ (s.processors p).owned := hproc.wants l hwants
    by_cases hlock : (s.locks l).lock = 0
    · rw [if_pos hlock]
      exact h.goOn howns.symm (fun l' hl' => Option.some.inj hl' ▸ hnot) hknown
    · rw [if_neg hlock]
      exact h.goOn howns.symm (Routine.not_wants rfl) hknown
  case trying l oldIrql =>
    obtain rfl := Option.some.inj hstep
    exact h.testAndSet hwants howns rfl rfl (Routine.not_wants rfl) rfl hknown fun _ => hknown
  case tried l oldIrql =>
    obtain rfl := Option.some.inj hstep
    refine h.storeOn howns rfl rfl rfl ⟨hknown, ?_⟩
    rw [SpinState.store_self]
  case ownerStored l oldIrql owner =>
    obtain rfl := Option.some.inj hstep
    refine h.finish (a := ⟨l, _, oldIrql, owner⟩) howns rfl ⟨?_, ?_, hknown.1⟩
    · rw [SpinState.store_self]
    · rw [SpinState.store_self]
      exact hknown.2
  case failed oldIrql =>
    obtain rfl := Option.some.inj hstep
    exact h.lower howns hknown
  case releasing a =>
    obtain rfl := Option.some.inj hstep
    exact h.goOn howns.symm (Routine.not_wants rfl) ⟨hknown.oldIrql, hknown⟩
  case clearingOwner a oldIrql =>
    obtain rfl := Option.some.inj hstep
    exact h.storeOn howns rfl rfl rfl (hknown.1.trans hknown.2.before)
  case clearingIrql a oldIrql =>
    obtain rfl := Option.some.inj hstep
    exact h.storeOn howns rfl rfl rfl hknown
  case unlocking a oldIrql =>
    obtain rfl := Option.some.inj hstep
    have howned := Processor.owned_of hroutine
    have hnodup := hproc.nodup
    rw [howned] at hnodup
    refine h.give howned (interlockedAnd_zero _) ?_
    refine ⟨(List.nodup_cons.mp hnodup).2, Routine.not_wants rfl, fun a' ha' => ?_, hknown⟩
    refine (hproc.held a' ha').frame ?_
    rw [SpinState.store_of_ne (hproc.held_ne howns ha')]
    exact .refl
  case released a oldIrql =>
    obtain rfl := Option.some.inj hstep
    exact h.lower howns hknown

/-- **One step.** -/
theorem SpinInv.spinStep {action : SpinAction ι Lock Thread} (h : SpinInv s)
    (hstep : spinStep s action = some s') : SpinInv s' := by
  unfold SpinLock.spinStep at hstep
  cases action with
  | dsAcquireSpinLock p l =>
    dsimp only at hstep
    split at hstep
    · next houtside =>
      split at hstep
      · exact absurd hstep (by simp)
      · next hnot =>
        obtain rfl := Option.some.inj hstep
        exact h.call houtside hnot rfl rfl rfl
    · exact absurd hstep (by simp)
  | dsTryToAcquireSpinLock p l =>
    dsimp only at hstep
    split at hstep
    · next houtside =>
      split at hstep
      · exact absurd hstep (by simp)
      · next hnot =>
        obtain rfl := Option.some.inj hstep
        exact h.call houtside hnot rfl rfl rfl
    · exact absurd hstep (by simp)
  | dsReleaseSpinLock p =>
    dsimp only at hstep
    split at hstep
    · next a held houtside hheld =>
      obtain rfl := Option.some.inj hstep
      have hmem : a ∈ (s.processors p).held := by
        rw [hheld]
        exact List.mem_cons_self
      refine h.goTo ?_ (fun a' ha' => ?_) (Routine.not_wants rfl)
        ((h.processors p).held a hmem)
      · rw [Processor.owned_of houtside, hheld]
        rfl
      · rw [hheld]
        exact List.mem_cons_of_mem a ha'
    · exact absurd hstep (by simp)
  | goOn p => exact h.routineStep hstep
  | other p irql thread =>
    dsimp only at hstep
    split at hstep
    · next houtside =>
      obtain rfl := Option.some.inj hstep
      refine h.goTo ?_ (fun a ha => ha) (h.processors p).wants (h.processors p).routine
      rfl
    · exact absurd hstep (by simp)

/-- **The spin lock**, on any processors and in any order of their steps: one processor at
most has a lock, what the releaser sees in it is what it stored itself, and after a release or
a failed try the IRQL is what it was before. -/
theorem spinLock_always (irqls : ι → Kirql) (threads : ι → Thread)
    (actions : List (SpinAction ι Lock Thread)) :
    Always spinStep SpinLockOk (SpinState.start irqls threads) actions :=
  always_of_inv SpinInv.ok SpinInv.spinStep (SpinInv.start irqls threads)

/-- Processor 1, at IRQL 2, fails to get the lock that processor 0 has. -/
example : ([.dsAcquireSpinLock 0 (), .goOn 0, .dsTryToAcquireSpinLock 1 (), .goOn 1, .goOn 0,
      .goOn 1, .goOn 0, .dsReleaseSpinLock 0, .goOn 0, .goOn 0, .goOn 0, .goOn 0, .goOn 0].foldlM
      spinStep (SpinState.start (fun p : Nat => 2 * p) id)).map SpinState.restored
    = some [(0, 0), (2, 2)] := by decide

end Runs

end DeepShield.Os.SpinLock
