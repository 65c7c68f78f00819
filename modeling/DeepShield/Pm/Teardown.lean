import DeepShield.Lib.Runs

/-!
# Who uses the process tree, and until when

Three parties use `gProcessTree`. The *main* thread creates it when the driver is
loaded and deletes it, in `DriverUnload` or on the failure path of
`PmInitializeProcessMonitor`. Process-notify *callbacks* run while the notify
routine is registered, any number at a time, and take `gProcessTreeLock`. The
mailbox *worker* looks an entry up for each `TimerFalsePositive` record, without
the lock, until it is told to stop.

Each party is a program counter. A step is one access to shared data, one call that
may wait, or a stretch of code without either, so an interleaving is a list of
actions.

The tree has to be there when it is used (`TreeUsed`). It need not be, for two reasons:

* `DriverUnload` finalises the process monitor before it stops the worker, which may be
  looking a process up then, or take another record;
* the failure path deletes the tree before it removes the notify routine, and a
  callback may be at the tree then, or take the lock after it.

`TreeGuard` excludes these four steps, `treeUsed_guarded` is the result for the runs
that do not take them, and `treeGuard_needed` finds the use that each of them leads to.
The callbacks need no condition on the way out through `DriverUnload`, which
removes the routine first, nor does the worker on the failure path, where no record
was ever posted.
-/

namespace DeepShield.Pm

open DeepShield.Lib

/-! ## The parties -/

/-- `gProcessTree`: NULL, a table, or the address of one that was freed. -/
inductive TreePointer
  | null
  | table
  | freed
deriving Repr, DecidableEq

/-- The main thread: `PmInitializeProcessMonitor`, its failure path with the
`CreateNotifyStarted` it has, the loaded driver, `DriverUnload`, and the end of
both, `RtlMailboxStopWorker`. The enumeration of the processes there are is one
step: it uses the tree as a callback would, long before anyone deletes it. -/
inductive MainThread
  | createTable
  | setNotify
  | enumerate
  | failDelete (createNotifyStarted : Bool)
  | failClear (createNotifyStarted : Bool)
  | failRemoveNotify
  | failWait
  | loaded
  | stopShield
  | removeNotify
  | removeWait
  | acquireLock
  | deleteTable
  | clearTree
  | releaseLock
  | deregisterPower
  | setShutdown (unload : Bool)
  | waitWorker (unload : Bool)
  | done
deriving Repr, DecidableEq

/-- A callback, for a process that is created or deleted: before the lock, with the
lock, with an entry it found and deletes, and about to release the lock. -/
inductive NotifyCallback
  | entered (create : Bool)
  | locked (create : Bool)
  | found
  | unlocking
deriving Repr, DecidableEq

/-- The worker: waiting, going through the mailbox, looking up the process of a
record, excluding a thread of it, and terminated. -/
inductive MailboxWorker
  | waiting
  | draining
  | lookingUp
  | excluding
  | terminated
deriving Repr, DecidableEq

/-- The records, as far as they differ here. -/
inductive RecordKind
  | trace
  | timerAbuse
  | timerFalsePositive
deriving Repr, DecidableEq

/-- The shared data and the parties. -/
structure MonitorState where
  gProcessTree : TreePointer
  registered : Bool
  gProcessTreeLock : Bool
  shieldRunning : Bool
  mailbox : List RecordKind
  shutdownEvent : Bool
  main : MainThread
  callbacks : List NotifyCallback
  worker : MailboxWorker
deriving Repr, DecidableEq

/-- `DriverEntry` has initialised the mailbox and calls
`PmInitializeProcessMonitor`. -/
def MonitorState.initial : MonitorState where
  gProcessTree := .null
  registered := false
  gProcessTreeLock := false
  shieldRunning := false
  mailbox := []
  shutdownEvent := false
  main := .createTable
  callbacks := []
  worker := .waiting

/-- Callback `i` moves on. -/
def MonitorState.goto (s : MonitorState) (i : Nat) (callback : NotifyCallback) : MonitorState :=
  { s with callbacks := s.callbacks.set i callback }

/-- Callback `i` returns. -/
def MonitorState.leave (s : MonitorState) (i : Nat) : MonitorState :=
  { s with callbacks := s.callbacks.eraseIdx i }

/-! ## Steps -/

/-- A step of the main thread; `ok` says whether the call it makes succeeds. -/
def mainStep (s : MonitorState) (ok : Bool) : Option MonitorState :=
  match s.main with
  -- PmInitializeProcessMonitor
  | .createTable =>
    some (if ok then { s with gProcessTree := .table, main := .setNotify }
      else { s with main := .setShutdown false })
  | .setNotify =>
    some (if ok then { s with registered := true, main := .enumerate }
      else { s with main := .failDelete false })
  | .enumerate => some { s with main := if ok then .loaded else .failDelete true }
  | .failDelete createNotifyStarted =>
    some { s with gProcessTree := .freed, main := .failClear createNotifyStarted }
  | .failClear createNotifyStarted =>
    some { s with
      gProcessTree := .null
      main := if createNotifyStarted then .failRemoveNotify else .setShutdown false }
  | .failRemoveNotify => some { s with registered := false, main := .failWait }
  -- the call returns when no callback is under way
  | .failWait => if s.callbacks = [] then some { s with main := .setShutdown false } else none
  -- DriverUnload
  | .loaded => some { s with main := .stopShield }
  | .stopShield =>
    some { s with
      -- the status of DsStopShield is ignored
      shieldRunning := s.shieldRunning && !ok
      main := .removeNotify }
  | .removeNotify => some { s with registered := false, main := .removeWait }
  | .removeWait => if s.callbacks = [] then some { s with main := .acquireLock } else none
  | .acquireLock =>
    if s.gProcessTreeLock then none
    else some { s with gProcessTreeLock := true, main := .deleteTable }
  | .deleteTable => some { s with gProcessTree := .freed, main := .clearTree }
  | .clearTree => some { s with gProcessTree := .null, main := .releaseLock }
  | .releaseLock => some { s with gProcessTreeLock := false, main := .deregisterPower }
  | .deregisterPower => some { s with main := .setShutdown true }
  -- RtlMailboxStopWorker
  | .setShutdown unload => some { s with shutdownEvent := true, main := .waitWorker unload }
  | .waitWorker _ => if s.worker = .terminated then some { s with main := .done } else none
  | .done => none

/-- A step of callback `i`; `ok` says whether what it needs can be had, or whether it
finds an entry. -/
def callbackStep (s : MonitorState) (i : Nat) (ok : Bool) : Option MonitorState :=
  match s.callbacks[i]? with
  | none => none
  | some (.entered create) =>
    if create ∧ ¬ ok then some (s.leave i)
    else if s.gProcessTreeLock then none
    else some ({ s with gProcessTreeLock := true }.goto i (.locked create))
  | some (.locked true) => some (s.goto i .unlocking)
  | some (.locked false) => some (s.goto i (if ok then .found else .unlocking))
  | some .found => some (s.goto i .unlocking)
  | some .unlocking => some ({ s with gProcessTreeLock := false }.leave i)

/-- A step of the worker; `ok` says whether it finds an entry. -/
def workerStep (s : MonitorState) (ok : Bool) : Option MonitorState :=
  match s.worker with
  -- the event, or the timeout
  | .waiting => some { s with worker := if s.shutdownEvent then .terminated else .draining }
  | .draining =>
    match s.mailbox with
    | [] => some { s with worker := .waiting }
    | record :: mailbox =>
      some { s with
        mailbox := mailbox
        worker := if record = .timerFalsePositive then .lookingUp else .draining }
  | .lookingUp => some { s with worker := if ok then .excluding else .draining }
  | .excluding => some { s with worker := .draining }
  | .terminated => none

/-- What happens: a step of a party, a callback that is made, the shield starting or
stopping, on request or in a power callback, and a record it posts. -/
inductive MonitorAction
  | main (ok : Bool)
  | callback (i : Nat) (ok : Bool)
  | worker (ok : Bool)
  | notify (create : Bool)
  | setShield (running : Bool)
  | post (record : RecordKind)
deriving Repr, DecidableEq

/-- From the end of `DriverEntry` until `DriverUnload` deregisters the power
callback. -/
def MainThread.shieldAllowed : MainThread → Bool
  | loaded | stopShield | removeNotify | removeWait | acquireLock | deleteTable | clearTree
  | releaseLock | deregisterPower => true
  | createTable | setNotify | enumerate | failDelete _ | failClear _ | failRemoveNotify
  | failWait | setShutdown _ | waitWorker _ | done => false

/-- One step; none if the party has to wait. -/
def monitorStep (s : MonitorState) : MonitorAction → Option MonitorState
  | .main ok => mainStep s ok
  | .callback i ok => callbackStep s i ok
  | .worker ok => workerStep s ok
  | .notify create =>
    if s.registered then some { s with callbacks := s.callbacks ++ [.entered create] } else none
  | .setShield running =>
    if s.main.shieldAllowed then some { s with shieldRunning := running } else none
  | .post record =>
    if s.shieldRunning then some { s with mailbox := s.mailbox ++ [record] } else none

/-! ## The property and the condition -/

/-- The callback looks up, inserts or deletes next. -/
def NotifyCallback.usesTree : NotifyCallback → Bool
  | .locked _ | .found => true
  | .entered _ | .unlocking => false

/-- A dispatch or a callback uses the tree in this step. -/
def UsesTree (s : MonitorState) : MonitorAction → Prop
  | .callback i _ => ∃ callback, s.callbacks[i]? = some callback ∧ callback.usesTree = true
  | .worker _ => s.worker = .lookingUp
  | .main _ | .notify _ | .setShield _ | .post _ => False

instance : ∀ s a, Decidable (UsesTree s a)
  | s, .callback i _ => inferInstanceAs (Decidable (∃ callback, s.callbacks[i]? = some callback ∧
      callback.usesTree = true))
  | s, .worker _ => inferInstanceAs (Decidable (s.worker = .lookingUp))
  | _, .main _ | _, .notify _ | _, .setShield _ | _, .post _ => isFalse id

/-- The tree is not used where it is NULL. -/
def TreeUsed (s : MonitorState) (a : MonitorAction) : Prop :=
  UsesTree s a → s.gProcessTree ≠ .null

instance (s : MonitorState) (a : MonitorAction) : Decidable (TreeUsed s a) :=
  inferInstanceAs (Decidable (UsesTree s a → s.gProcessTree ≠ .null))

/-- `DriverUnload` has cleared the tree and not yet seen the worker terminate. -/
def MainThread.Unloaded (main : MainThread) : Prop :=
  main = .releaseLock ∨ main = .deregisterPower ∨ main = .setShutdown true ∨
    main = .waitWorker true

/-- The failure path has cleared the tree, and the notify routine is not removed. -/
def MainThread.Failing (main : MainThread) : Prop :=
  main = .failRemoveNotify ∨ main = .failWait

instance (main : MainThread) : Decidable main.Unloaded :=
  inferInstanceAs (Decidable (_ ∨ _))

instance (main : MainThread) : Decidable main.Failing :=
  inferInstanceAs (Decidable (_ ∨ _))

/-- The tree is not cleared while the worker looks a process up, or on the failure path
while a callback is at it; and after that the worker takes no record of a false
positive, and no callback the lock. -/
def TreeGuard (s : MonitorState) : MonitorAction → Prop
  | .main _ => (s.main = .clearTree → s.worker ≠ .lookingUp) ∧
      (s.main = .failClear true → ∀ callback ∈ s.callbacks, callback.usesTree = false)
  | .callback i ok => s.main.Failing → ∀ create, s.callbacks[i]? = some (.entered create) →
      create = true ∧ ok = false
  | .worker _ => s.main.Unloaded → s.worker = .draining →
      s.mailbox.head? ≠ some .timerFalsePositive
  | .notify _ | .setShield _ | .post _ => True

instance : ∀ s a, Decidable (TreeGuard s a)
  | s, .main _ => inferInstanceAs (Decidable ((s.main = .clearTree → s.worker ≠ .lookingUp) ∧
      (s.main = .failClear true → ∀ callback ∈ s.callbacks, callback.usesTree = false)))
  | s, .callback i ok => inferInstanceAs (Decidable (s.main.Failing → ∀ create,
      s.callbacks[i]? = some (.entered create) → create = true ∧ ok = false))
  | s, .worker _ => inferInstanceAs (Decidable (s.main.Unloaded → s.worker = .draining →
      s.mailbox.head? ≠ some .timerFalsePositive))
  | _, .notify _ | _, .setShield _ | _, .post _ => isTrue trivial

/-! ## The invariant -/

namespace MainThread

/-- What `gProcessTree` is where the main thread is. -/
def tree : MainThread → TreePointer
  | setNotify | enumerate | failDelete _ | loaded | stopShield | removeNotify | removeWait
  | acquireLock | deleteTable => .table
  | failClear _ | clearTree => .freed
  | createTable | failRemoveNotify | failWait | releaseLock | deregisterPower
  | setShutdown _ | waitWorker _ | done => .null

/-- Whether the notify routine is registered there. -/
def registered : MainThread → Bool
  | failDelete createNotifyStarted | failClear createNotifyStarted => createNotifyStarted
  | enumerate | failRemoveNotify | loaded | stopShield | removeNotify => true
  | createTable | setNotify | failWait | removeWait | acquireLock | deleteTable | clearTree
  | releaseLock | deregisterPower | setShutdown _ | waitWorker _ | done => false

/-- Whether callbacks may be under way there. -/
def callbacks : MainThread → Bool
  | failWait | removeWait => true
  | main => main.registered

/-- Whether the driver was loaded before. -/
def afterLoad : MainThread → Bool
  | createTable | setNotify | enumerate | failDelete _ | failClear _ | failRemoveNotify
  | failWait => false
  | setShutdown unload | waitWorker unload => unload
  | loaded | stopShield | removeNotify | removeWait | acquireLock | deleteTable | clearTree
  | releaseLock | deregisterPower | done => true

theorem callbacks_of_registered (main : MainThread) (h : main.registered = true) :
    main.callbacks = true := by
  cases main <;> first | exact h | rfl

theorem afterLoad_of_shieldAllowed (main : MainThread) (h : main.shieldAllowed = true) :
    main.afterLoad = true := by
  cases main <;> first | rfl | exact absurd h Bool.false_ne_true

/-- Without a tree there are no callbacks, but on the failure path. -/
theorem null_cases (main : MainThread) (h : main.tree = .null) :
    main.callbacks = false ∨ main.Failing := by
  cases main with
  | createTable | releaseLock | deregisterPower | setShutdown _ | waitWorker _ | done =>
    exact Or.inl rfl
  | failRemoveNotify => exact Or.inr (Or.inl rfl)
  | failWait => exact Or.inr (Or.inr rfl)
  | setNotify | enumerate | failDelete _ | loaded | stopShield | removeNotify | removeWait
  | acquireLock | deleteTable | failClear _ | clearTree => exact absurd h nofun

/-- And the driver was not loaded, is being unloaded or is gone. -/
theorem null_cases_load (main : MainThread) (h : main.tree = .null) :
    main.afterLoad = false ∨ main.Unloaded ∨ main = .done := by
  cases main with
  | createTable | failRemoveNotify | failWait => exact Or.inl rfl
  | releaseLock => exact Or.inr (Or.inl (Or.inl rfl))
  | deregisterPower => exact Or.inr (Or.inl (Or.inr (Or.inl rfl)))
  | setShutdown unload =>
    cases unload with
    | true => exact Or.inr (Or.inl (Or.inr (Or.inr (Or.inl rfl))))
    | false => exact Or.inl rfl
  | waitWorker unload =>
    cases unload with
    | true => exact Or.inr (Or.inl (Or.inr (Or.inr (Or.inr rfl))))
    | false => exact Or.inl rfl
  | done => exact Or.inr (Or.inr rfl)
  | setNotify | enumerate | failDelete _ | loaded | stopShield | removeNotify | removeWait
  | acquireLock | deleteTable | failClear _ | clearTree => exact absurd h nofun

end MainThread

/-- What the place of the main thread says of the others. -/
structure MonitorInv (s : MonitorState) : Prop where
  tree : s.gProcessTree = s.main.tree
  registered : s.registered = s.main.registered
  callbacks : s.main.callbacks = false → s.callbacks = []
  records : s.main.afterLoad = false →
    s.mailbox = [] ∧ s.shieldRunning = false ∧ s.worker ≠ .lookingUp
  done : s.main = .done → s.worker = .terminated

theorem monitorInv_initial : MonitorInv .initial where
  tree := rfl
  registered := rfl
  callbacks _ := rfl
  records _ := ⟨rfl, rfl, by decide⟩
  done h := absurd h (by decide)

namespace MonitorInv

variable {s s' : MonitorState}

/-- The main thread moves on to a place that says no more than is known. -/
theorem move (h : MonitorInv s) {tree : TreePointer} {registered lock running event : Bool}
    {before after : MainThread} (hmain : s.main = before) (htree : tree = after.tree)
    (hregistered : registered = after.registered)
    (hcallbacks : after.callbacks = false → before.callbacks = false ∨ s.callbacks = [])
    (hload : after.afterLoad = false →
      before.afterLoad = false ∧ (s.shieldRunning = false → running = false))
    (hdone : after = .done → s.worker = .terminated) :
    MonitorInv { s with
      gProcessTree := tree
      registered := registered
      gProcessTreeLock := lock
      shieldRunning := running
      shutdownEvent := event
      main := after } where
  tree := htree
  registered := hregistered
  callbacks hnone := by
    rcases hcallbacks hnone with hbefore | hempty
    · exact h.callbacks (by rw [hmain]; exact hbefore)
    · exact hempty
  records hearly := by
    obtain ⟨hbefore, hrunning⟩ := hload hearly
    obtain ⟨hmailbox, hstopped, hworker⟩ := h.records (by rw [hmain]; exact hbefore)
    exact ⟨hmailbox, hrunning hstopped, hworker⟩
  done := hdone

/-- **The main thread** keeps the invariant: each of its steps does what its next
place says. -/
theorem main (h : MonitorInv s) {ok : Bool} (hstep : mainStep s ok = some s') :
    MonitorInv s' := by
  have htree := h.tree
  have hregistered := h.registered
  cases hmain : s.main with
  | createTable =>
    rw [hmain] at htree hregistered
    simp only [mainStep, hmain] at hstep
    obtain rfl := Option.some.inj hstep
    cases ok with
    | true =>
      exact h.move hmain rfl hregistered (fun _ => Or.inl rfl) (fun _ => ⟨rfl, id⟩) nofun
    | false =>
      exact h.move hmain htree hregistered (fun _ => Or.inl rfl) (fun _ => ⟨rfl, id⟩) nofun
  | setNotify =>
    rw [hmain] at htree hregistered
    simp only [mainStep, hmain] at hstep
    obtain rfl := Option.some.inj hstep
    cases ok with
    | true => exact h.move hmain htree rfl nofun (fun _ => ⟨rfl, id⟩) nofun
    | false => exact h.move hmain htree hregistered (fun _ => Or.inl rfl) (fun _ => ⟨rfl, id⟩) nofun
  | enumerate =>
    rw [hmain] at htree hregistered
    simp only [mainStep, hmain] at hstep
    obtain rfl := Option.some.inj hstep
    cases ok with
    | true => exact h.move hmain htree hregistered nofun nofun nofun
    | false => exact h.move hmain htree hregistered nofun (fun _ => ⟨rfl, id⟩) nofun
  | failDelete createNotifyStarted =>
    rw [hmain] at hregistered
    simp only [mainStep, hmain] at hstep
    obtain rfl := Option.some.inj hstep
    exact h.move hmain rfl hregistered (fun hnone => Or.inl hnone) (fun _ => ⟨rfl, id⟩) nofun
  | failClear createNotifyStarted =>
    rw [hmain] at hregistered
    simp only [mainStep, hmain] at hstep
    obtain rfl := Option.some.inj hstep
    cases createNotifyStarted with
    | true => exact h.move hmain rfl hregistered nofun (fun _ => ⟨rfl, id⟩) nofun
    | false => exact h.move hmain rfl hregistered (fun _ => Or.inl rfl) (fun _ => ⟨rfl, id⟩) nofun
  | failRemoveNotify =>
    rw [hmain] at htree
    simp only [mainStep, hmain] at hstep
    obtain rfl := Option.some.inj hstep
    exact h.move hmain htree rfl nofun (fun _ => ⟨rfl, id⟩) nofun
  | failWait =>
    rw [hmain] at htree hregistered
    simp only [mainStep, hmain] at hstep
    split at hstep
    next hempty =>
      obtain rfl := Option.some.inj hstep
      exact h.move hmain htree hregistered (fun _ => Or.inr hempty) (fun _ => ⟨rfl, id⟩) nofun
    next => exact absurd hstep (by simp)
  | loaded =>
    rw [hmain] at htree hregistered
    simp only [mainStep, hmain] at hstep
    obtain rfl := Option.some.inj hstep
    exact h.move hmain htree hregistered nofun nofun nofun
  | stopShield =>
    rw [hmain] at htree hregistered
    simp only [mainStep, hmain] at hstep
    obtain rfl := Option.some.inj hstep
    exact h.move hmain htree hregistered nofun nofun nofun
  | removeNotify =>
    rw [hmain] at htree
    simp only [mainStep, hmain] at hstep
    obtain rfl := Option.some.inj hstep
    exact h.move hmain htree rfl nofun nofun nofun
  | removeWait =>
    rw [hmain] at htree hregistered
    simp only [mainStep, hmain] at hstep
    split at hstep
    next hempty =>
      obtain rfl := Option.some.inj hstep
      exact h.move hmain htree hregistered (fun _ => Or.inr hempty) nofun nofun
    next => exact absurd hstep (by simp)
  | acquireLock =>
    rw [hmain] at htree hregistered
    simp only [mainStep, hmain] at hstep
    split at hstep
    next => exact absurd hstep (by simp)
    next =>
      obtain rfl := Option.some.inj hstep
      exact h.move hmain htree hregistered (fun _ => Or.inl rfl) nofun nofun
  | deleteTable =>
    rw [hmain] at hregistered
    simp only [mainStep, hmain] at hstep
    obtain rfl := Option.some.inj hstep
    exact h.move hmain rfl hregistered (fun _ => Or.inl rfl) nofun nofun
  | clearTree =>
    rw [hmain] at hregistered
    simp only [mainStep, hmain] at hstep
    obtain rfl := Option.some.inj hstep
    exact h.move hmain rfl hregistered (fun _ => Or.inl rfl) nofun nofun
  | releaseLock =>
    rw [hmain] at htree hregistered
    simp only [mainStep, hmain] at hstep
    obtain rfl := Option.some.inj hstep
    exact h.move hmain htree hregistered (fun _ => Or.inl rfl) nofun nofun
  | deregisterPower =>
    rw [hmain] at htree hregistered
    simp only [mainStep, hmain] at hstep
    obtain rfl := Option.some.inj hstep
    exact h.move hmain htree hregistered (fun _ => Or.inl rfl) nofun nofun
  | setShutdown unload =>
    rw [hmain] at htree hregistered
    simp only [mainStep, hmain] at hstep
    obtain rfl := Option.some.inj hstep
    exact h.move hmain htree hregistered (fun _ => Or.inl rfl) (fun hearly => ⟨hearly, id⟩) nofun
  | waitWorker unload =>
    rw [hmain] at htree hregistered
    simp only [mainStep, hmain] at hstep
    split at hstep
    next hterminated =>
      obtain rfl := Option.some.inj hstep
      exact h.move hmain htree hregistered (fun _ => Or.inl rfl) nofun (fun _ => hterminated)
    next => exact absurd hstep (by simp)
  | done =>
    simp only [mainStep, hmain] at hstep
    exact absurd hstep (by simp)

/-- **A callback** is under way only where the main thread lets it be, and changes
nothing else than the lock. -/
theorem callback (h : MonitorInv s) {i : Nat} {ok : Bool}
    (hstep : callbackStep s i ok = some s') : MonitorInv s' := by
  have hkeep (lock : Bool) (callbacks : List NotifyCallback) (hsome : s.callbacks ≠ []) :
      MonitorInv { s with
        gProcessTreeLock := lock
        callbacks := callbacks } :=
    ⟨h.tree, h.registered, fun hnone => absurd (h.callbacks hnone) hsome, h.records, h.done⟩
  unfold callbackStep at hstep
  cases hcallback : s.callbacks[i]? with
  | none =>
    rw [hcallback] at hstep
    exact absurd hstep (by simp)
  | some callback =>
    have hsome : s.callbacks ≠ [] := by
      intro hempty
      rw [hempty] at hcallback
      exact absurd hcallback (by simp)
    rw [hcallback] at hstep
    cases callback with
    | entered create =>
      simp only at hstep
      split at hstep
      next =>
        obtain rfl := Option.some.inj hstep
        exact hkeep s.gProcessTreeLock _ hsome
      next =>
        split at hstep
        next => exact absurd hstep (by simp)
        next =>
          obtain rfl := Option.some.inj hstep
          exact hkeep true _ hsome
    | locked create =>
      cases create <;>
      · obtain rfl := Option.some.inj hstep
        exact hkeep s.gProcessTreeLock _ hsome
    | found =>
      obtain rfl := Option.some.inj hstep
      exact hkeep s.gProcessTreeLock _ hsome
    | unlocking =>
      obtain rfl := Option.some.inj hstep
      exact hkeep false _ hsome

/-- **The worker** finds no record before the driver is loaded, and stays terminated. -/
theorem worker (h : MonitorInv s) {ok : Bool} (hstep : workerStep s ok = some s') :
    MonitorInv s' := by
  have hkeep (mailbox : List RecordKind) (worker : MailboxWorker)
      (hbefore : s.worker ≠ .terminated)
      (hearly : s.main.afterLoad = false → mailbox = [] ∧ worker ≠ .lookingUp) :
      MonitorInv { s with
        mailbox := mailbox
        worker := worker } :=
    ⟨h.tree, h.registered, h.callbacks,
      fun hload => ⟨(hearly hload).1, (h.records hload).2.1, (hearly hload).2⟩,
      fun hdone => absurd (h.done hdone) hbefore⟩
  cases hworker : s.worker with
  | waiting =>
    simp only [workerStep, hworker] at hstep
    obtain rfl := Option.some.inj hstep
    refine hkeep s.mailbox _ (by simp [hworker]) (fun hload => ⟨(h.records hload).1, ?_⟩)
    split <;> exact nofun
  | draining =>
    simp only [workerStep, hworker] at hstep
    cases hmailbox : s.mailbox with
    | nil =>
      simp only [hmailbox] at hstep
      obtain rfl := Option.some.inj hstep
      exact hkeep [] .waiting (by simp [hworker]) (fun _ => ⟨rfl, nofun⟩)
    | cons record mailbox =>
      simp only [hmailbox] at hstep
      obtain rfl := Option.some.inj hstep
      refine hkeep mailbox _ (by simp [hworker]) (fun hload => ?_)
      exact absurd ((h.records hload).1.symm.trans hmailbox) (by simp)
  | lookingUp =>
    simp only [workerStep, hworker] at hstep
    obtain rfl := Option.some.inj hstep
    exact hkeep s.mailbox _ (by simp [hworker])
      (fun hload => absurd hworker (h.records hload).2.2)
  | excluding =>
    simp only [workerStep, hworker] at hstep
    obtain rfl := Option.some.inj hstep
    exact hkeep s.mailbox .draining (by simp [hworker])
      (fun hload => ⟨(h.records hload).1, nofun⟩)
  | terminated =>
    simp only [workerStep, hworker] at hstep
    exact absurd hstep (by simp)

/-- **Every step** keeps the invariant. -/
theorem step (h : MonitorInv s) {a : MonitorAction} (hstep : monitorStep s a = some s') :
    MonitorInv s' := by
  cases a with
  | main ok => exact h.main hstep
  | callback i ok => exact h.callback hstep
  | worker ok => exact h.worker hstep
  | notify create =>
    simp only [monitorStep] at hstep
    split at hstep
    next hregistered =>
      obtain rfl := Option.some.inj hstep
      refine ⟨h.tree, h.registered, fun hnone => ?_, h.records, h.done⟩
      rw [h.registered] at hregistered
      exact absurd (s.main.callbacks_of_registered hregistered) (by rw [hnone]; decide)
    next => exact absurd hstep (by simp)
  | setShield running =>
    simp only [monitorStep] at hstep
    split at hstep
    next hallowed =>
      obtain rfl := Option.some.inj hstep
      refine ⟨h.tree, h.registered, h.callbacks, fun hearly => ?_, h.done⟩
      exact absurd (s.main.afterLoad_of_shieldAllowed hallowed) (by rw [hearly]; decide)
    next => exact absurd hstep (by simp)
  | post record =>
    simp only [monitorStep] at hstep
    split at hstep
    next hrunning =>
      obtain rfl := Option.some.inj hstep
      refine ⟨h.tree, h.registered, h.callbacks, fun hearly => ?_, h.done⟩
      exact absurd hrunning (by rw [(h.records hearly).2.1]; decide)
    next => exact absurd hstep (by simp)

/-- A callback under way finds no tree on the failure path only. -/
theorem failing_of_null (h : MonitorInv s) (hsome : s.callbacks ≠ [])
    (hnull : s.gProcessTree = .null) : s.main.Failing := by
  rw [h.tree] at hnull
  exact (s.main.null_cases hnull).resolve_left fun hnone => hsome (h.callbacks hnone)

/-- And the worker in `DriverUnload` only. -/
theorem unloaded_of_null (h : MonitorInv s) (hworker : s.worker = .lookingUp)
    (hnull : s.gProcessTree = .null) : s.main.Unloaded := by
  rw [h.tree] at hnull
  rcases s.main.null_cases_load hnull with hearly | hunloaded | hdone
  · exact absurd hworker (h.records hearly).2.2
  · exact hunloaded
  · exact absurd ((h.done hdone).symm.trans hworker) (by decide)

theorem null_of_failing (h : MonitorInv s) (hfailing : s.main.Failing) :
    s.gProcessTree = .null := by
  rw [h.tree]
  rcases hfailing with hmain | hmain <;> rw [hmain] <;> rfl

theorem null_of_unloaded (h : MonitorInv s) (hunloaded : s.main.Unloaded) :
    s.gProcessTree = .null := by
  rw [h.tree]
  rcases hunloaded with hmain | hmain | hmain | hmain <;> rw [hmain] <;> rfl

end MonitorInv

/-! ## Where nobody is at the tree -/

/-- **The invariant of guarded runs**: once the tree is cleared, nobody who may still
come is about to use it. -/
structure TreeInv (s : MonitorState) : Prop where
  monitor : MonitorInv s
  unloaded : s.main.Unloaded → s.worker ≠ .lookingUp
  failing : s.main.Failing → ∀ callback ∈ s.callbacks, callback.usesTree = false

theorem treeInv_initial : TreeInv .initial where
  monitor := monitorInv_initial
  unloaded _ := by decide
  failing _ _ hmem := absurd hmem List.not_mem_nil

namespace TreeInv

variable {s s' : MonitorState}

/-- What the main thread does to the other parties, and how it comes to these places. -/
theorem mainStep_places {ok : Bool} (hstep : mainStep s ok = some s') :
    s'.worker = s.worker ∧ s'.callbacks = s.callbacks ∧
      (s'.main.Unloaded → s.main.Unloaded ∨ s.main = .clearTree) ∧
      (s'.main.Failing → s.main.Failing ∨ s.main = .failClear true) := by
  unfold mainStep at hstep
  cases hmain : s.main with
  | createTable | setNotify | enumerate =>
    simp only [hmain] at hstep
    obtain rfl := Option.some.inj hstep
    cases ok <;> simp [MainThread.Unloaded, MainThread.Failing]
  | failClear createNotifyStarted =>
    simp only [hmain] at hstep
    obtain rfl := Option.some.inj hstep
    cases createNotifyStarted <;> simp [MainThread.Unloaded, MainThread.Failing]
  | failWait | removeWait | waitWorker unload =>
    simp only [hmain] at hstep
    split at hstep
    next =>
      obtain rfl := Option.some.inj hstep
      simp [MainThread.Unloaded, MainThread.Failing]
    next => exact absurd hstep (by simp)
  | acquireLock =>
    simp only [hmain] at hstep
    split at hstep
    next => exact absurd hstep (by simp)
    next =>
      obtain rfl := Option.some.inj hstep
      simp [MainThread.Unloaded, MainThread.Failing]
  | failDelete createNotifyStarted | failRemoveNotify | loaded | stopShield | removeNotify
  | deleteTable | clearTree | releaseLock | deregisterPower | setShutdown unload =>
    simp only [hmain] at hstep
    obtain rfl := Option.some.inj hstep
    simp [MainThread.Unloaded, MainThread.Failing]
  | done =>
    simp only [hmain] at hstep
    exact absurd hstep (by simp)

theorem main (h : TreeInv s) {ok : Bool} (hguard : TreeGuard s (.main ok))
    (hstep : mainStep s ok = some s') : TreeInv s' := by
  obtain ⟨hworker, hcallbacks, hunloaded, hfailing⟩ := mainStep_places hstep
  refine ⟨h.monitor.main hstep, fun hplace => ?_, fun hplace => ?_⟩
  · rw [hworker]
    exact (hunloaded hplace).elim h.unloaded hguard.1
  · rw [hcallbacks]
    exact (hfailing hplace).elim h.failing hguard.2

theorem callback (h : TreeInv s) {i : Nat} {ok : Bool} (hguard : TreeGuard s (.callback i ok))
    (hstep : callbackStep s i ok = some s') : TreeInv s' := by
  have hmonitor := h.monitor.callback hstep
  have hleave (lock : Bool) (hleft : MonitorInv ({ s with gProcessTreeLock := lock }.leave i)) :
      TreeInv ({ s with gProcessTreeLock := lock }.leave i) :=
    ⟨hleft, h.unloaded, fun hplace callback hmem =>
      h.failing hplace callback (List.mem_of_mem_eraseIdx hmem)⟩
  have hmove (lock : Bool) (place : NotifyCallback)
      (hmoved : MonitorInv ({ s with gProcessTreeLock := lock }.goto i place))
      (hplaces : ¬ s.main.Failing) : TreeInv ({ s with gProcessTreeLock := lock }.goto i place) :=
    ⟨hmoved, h.unloaded, fun hplace => absurd hplace hplaces⟩
  unfold callbackStep at hstep
  cases hcallback : s.callbacks[i]? with
  | none =>
    rw [hcallback] at hstep
    exact absurd hstep (by simp)
  | some callback =>
    have hnotFailing (huse : callback.usesTree = true) : ¬ s.main.Failing := by
      intro hplace
      rw [h.failing hplace callback (List.mem_of_getElem? hcallback)] at huse
      exact absurd huse (by decide)
    rw [hcallback] at hstep
    cases callback with
    | entered create =>
      simp only at hstep
      split at hstep
      next =>
        obtain rfl := Option.some.inj hstep
        exact hleave s.gProcessTreeLock hmonitor
      next hmemory =>
        split at hstep
        next => exact absurd hstep (by simp)
        next =>
          obtain rfl := Option.some.inj hstep
          refine hmove true _ hmonitor fun hplace => hmemory ?_
          obtain ⟨hcreate, hok⟩ := hguard hplace create hcallback
          exact ⟨hcreate, by rw [hok]; decide⟩
    | locked create =>
      cases create <;>
      · obtain rfl := Option.some.inj hstep
        exact hmove s.gProcessTreeLock _ hmonitor (hnotFailing rfl)
    | found =>
      obtain rfl := Option.some.inj hstep
      exact hmove s.gProcessTreeLock _ hmonitor (hnotFailing rfl)
    | unlocking =>
      obtain rfl := Option.some.inj hstep
      exact hleave false hmonitor

theorem worker (h : TreeInv s) {ok : Bool} (hguard : TreeGuard s (.worker ok))
    (hstep : workerStep s ok = some s') : TreeInv s' := by
  have hmonitor := h.monitor.worker hstep
  have hkeep (mailbox : List RecordKind) (worker : MailboxWorker)
      (hmoved : MonitorInv { s with
        mailbox := mailbox
        worker := worker })
      (hplace : s.main.Unloaded → worker ≠ .lookingUp) :
      TreeInv { s with
        mailbox := mailbox
        worker := worker } :=
    ⟨hmoved, hplace, h.failing⟩
  cases hworker : s.worker with
  | waiting =>
    simp only [workerStep, hworker] at hstep
    obtain rfl := Option.some.inj hstep
    refine hkeep s.mailbox _ hmonitor fun _ => ?_
    split <;> exact nofun
  | draining =>
    simp only [workerStep, hworker] at hstep
    cases hmailbox : s.mailbox with
    | nil =>
      simp only [hmailbox] at hstep
      obtain rfl := Option.some.inj hstep
      exact hkeep [] .waiting hmonitor fun _ => nofun
    | cons record mailbox =>
      simp only [hmailbox] at hstep
      obtain rfl := Option.some.inj hstep
      refine hkeep mailbox _ hmonitor fun hplace => ?_
      have hrecord := hguard hplace hworker
      rw [hmailbox, List.head?_cons] at hrecord
      rw [if_neg fun heq => hrecord (congrArg some heq)]
      exact nofun
  | lookingUp =>
    simp only [workerStep, hworker] at hstep
    obtain rfl := Option.some.inj hstep
    exact hkeep s.mailbox _ hmonitor fun hplace => absurd hworker (h.unloaded hplace)
  | excluding =>
    simp only [workerStep, hworker] at hstep
    obtain rfl := Option.some.inj hstep
    exact hkeep s.mailbox .draining hmonitor fun _ => nofun
  | terminated =>
    simp only [workerStep, hworker] at hstep
    exact absurd hstep (by simp)

/-- **A guarded step** keeps the invariant. -/
theorem step (h : TreeInv s) {a : MonitorAction} (hguard : TreeGuard s a)
    (hstep : monitorStep s a = some s') : TreeInv s' := by
  have hmonitor := h.monitor.step hstep
  cases a with
  | main ok => exact h.main hguard hstep
  | callback i ok => exact h.callback hguard hstep
  | worker ok => exact h.worker hguard hstep
  | notify create =>
    simp only [monitorStep] at hstep
    split at hstep
    next =>
      obtain rfl := Option.some.inj hstep
      refine ⟨hmonitor, h.unloaded, fun hplace callback hmem => ?_⟩
      rcases List.mem_append.mp hmem with hmem | hmem
      · exact h.failing hplace callback hmem
      · rw [List.mem_singleton.mp hmem]
        rfl
    next => exact absurd hstep (by simp)
  | setShield running =>
    simp only [monitorStep] at hstep
    split at hstep
    next =>
      obtain rfl := Option.some.inj hstep
      exact ⟨hmonitor, h.unloaded, h.failing⟩
    next => exact absurd hstep (by simp)
  | post record =>
    simp only [monitorStep] at hstep
    split at hstep
    next =>
      obtain rfl := Option.some.inj hstep
      exact ⟨hmonitor, h.unloaded, h.failing⟩
    next => exact absurd hstep (by simp)

/-- The tree is there when it is used next. -/
theorem treeUsed (h : TreeInv s) (a : MonitorAction) : TreeUsed s a := by
  intro huse hnull
  cases a with
  | callback i ok =>
    obtain ⟨callback, hcallback, huse⟩ := huse
    have hmem := List.mem_of_getElem? hcallback
    have hplace := h.monitor.failing_of_null (List.ne_nil_of_mem hmem) hnull
    rw [h.failing hplace callback hmem] at huse
    exact absurd huse (by decide)
  | worker ok => exact h.unloaded (h.monitor.unloaded_of_null huse hnull) huse
  | main ok | notify create | setShield running | post record => exact huse

end TreeInv

/-! ## Runs -/

/-- **A step against the condition** is followed by a use of the tree that is not there. -/
theorem treeGuard_needed {s s' : MonitorState} {a : MonitorAction} (h : MonitorInv s)
    (hguard : ¬ TreeGuard s a) (hstep : monitorStep s a = some s') :
    ∃ next, ¬ TreeUsed s' next := by
  have hinv := h.step hstep
  cases a with
  | notify create | setShield running | post record => exact absurd trivial hguard
  | main ok =>
    rcases Decidable.not_and_iff_not_or_not.mp hguard with hclear | hclear
    · obtain ⟨hmain, hworker⟩ := Classical.not_imp.mp hclear
      simp only [monitorStep, mainStep, hmain] at hstep
      obtain rfl := Option.some.inj hstep
      exact ⟨.worker true, fun hused => hused (Decidable.not_not.mp hworker) rfl⟩
    · obtain ⟨hmain, hcallbacks⟩ := Classical.not_imp.mp hclear
      simp only [monitorStep, mainStep, hmain] at hstep
      obtain rfl := Option.some.inj hstep
      obtain ⟨callback, hnot⟩ := Classical.not_forall.mp hcallbacks
      obtain ⟨hmem, huse⟩ := Classical.not_imp.mp hnot
      obtain ⟨i, hi⟩ := List.mem_iff_getElem?.mp hmem
      exact ⟨.callback i true, fun hused => hused ⟨callback, hi, by simpa using huse⟩ rfl⟩
  | callback i ok =>
    obtain ⟨hplace, hentered⟩ := Classical.not_imp.mp hguard
    obtain ⟨create, hentered⟩ := Classical.not_forall.mp hentered
    obtain ⟨hcallback, hmemory⟩ := Classical.not_imp.mp hentered
    have hlock : ¬ (create = true ∧ ¬ ok = true) := fun hfail =>
      hmemory ⟨hfail.1, by simpa using hfail.2⟩
    simp only [monitorStep, callbackStep, hcallback, if_neg hlock] at hstep
    split at hstep
    next => exact absurd hstep (by simp)
    next =>
      obtain rfl := Option.some.inj hstep
      refine ⟨.callback i true, fun hused => hused ⟨.locked create, ?_, rfl⟩ ?_⟩
      · obtain ⟨hlt, -⟩ := List.getElem?_eq_some_iff.mp hcallback
        exact List.getElem?_set_self hlt
      · exact hinv.null_of_failing hplace
  | worker ok =>
    obtain ⟨hplace, hrecord⟩ := Classical.not_imp.mp hguard
    obtain ⟨hworker, hrecord⟩ := Classical.not_imp.mp hrecord
    obtain ⟨mailbox, hmailbox⟩ := List.head?_eq_some_iff.mp (Decidable.not_not.mp hrecord)
    simp only [monitorStep, workerStep, hworker, hmailbox, if_true] at hstep
    obtain rfl := Option.some.inj hstep
    exact ⟨.worker true, fun hused => hused rfl (hinv.null_of_unloaded hplace)⟩

/-- **The tree is there whenever it is used** in every run, from the call of
`PmInitializeProcessMonitor`, in which `DriverUnload` does not clear it while the worker
looks a process up, nor the failure path while a callback is at it, and after that
the worker takes no record of a false positive and no callback takes the lock. -/
theorem treeUsed_guarded (actions : List MonitorAction)
    (hguard : Guarded monitorStep TreeGuard .initial actions) :
    Throughout monitorStep TreeUsed .initial actions :=
  throughout_of_guarded (fun h => h.treeUsed _) (fun h hstep => h.step hstep) treeInv_initial
    hguard

/-- The driver is loaded, a process exits, the worker dispatches a false positive, and
the driver is unloaded. -/
theorem treeUsed_unloaded :
    Throughout monitorStep TreeUsed .initial
      ([.main true, .main true, .main true, .notify false, .callback 0 true, .callback 0 true,
        .callback 0 true, .callback 0 true, .setShield true, .post .timerFalsePositive] ++
        List.replicate 5 (.worker true) ++ List.replicate 10 (.main true) ++
        [.worker true, .main true]) :=
  treeUsed_guarded _ (by decide)

/-- The driver is unloaded with a false positive in the mailbox, which the worker
takes after the tree is gone; and the failure path clears the tree before the
process of a callback is deleted from it. -/
theorem not_treeUsed :
    ¬ Throughout monitorStep TreeUsed .initial
      [.main true, .main true, .main true, .setShield true, .post .timerFalsePositive,
        .main true, .main true, .main true, .main true, .main true, .main true, .main true,
        .worker true, .worker true, .worker true] ∧
    ¬ Throughout monitorStep TreeUsed .initial
      [.main true, .main true, .main false, .main true, .main true, .notify false,
        .callback 0 true, .callback 0 true] := by
  decide

end DeepShield.Pm
