import Mathlib.Tactic.Common

/-!
# Simulations

What is seen of a system that takes labelled steps is the events that its steps show; a
step may show none. `System.trace` is what a run shows.

One system implements another if it shows nothing that the other could not show, whatever
the order of its steps. `Simulates` is the step-by-step argument for that, with a relation
between the states of the two: each step of the one is matched by a run of the other that
shows the same, and may be empty. `Simulates.run` carries the argument through a run, and
`System.run_inv` is the rule for what can be said of all that a system shows.
-/

namespace DeepShield.Lib

/-- A system, and the event that an action shows where it is taken. -/
structure System (σ α ε : Type) where
  step : σ → α → Option σ
  shows : σ → α → Option ε

variable {σ τ α β ε : Type}

/-- The state a run ends in; none if an action of it is not enabled. -/
def System.run (S : System σ α ε) : σ → List α → Option σ
  | s, [] => some s
  | s, a :: as =>
    match S.step s a with
    | some s' => S.run s' as
    | none => none

/-- What a run shows. -/
def System.trace (S : System σ α ε) : σ → List α → List ε
  | _, [] => []
  | s, a :: as =>
    match S.step s a with
    | some s' => (S.shows s a).toList ++ S.trace s' as
    | none => []

section Runs

variable {S : System σ α ε} {s s' s'' : σ} {a : α} {as bs : List α}

theorem System.run_cons (h : S.step s a = some s') : S.run s (a :: as) = S.run s' as := by
  rw [run, h]

theorem System.trace_cons (h : S.step s a = some s') :
    S.trace s (a :: as) = (S.shows s a).toList ++ S.trace s' as := by
  rw [trace, h]

/-- A run that begins with a step, taken apart. -/
theorem System.run_cons_iff :
    S.run s (a :: as) = some s'' ↔ ∃ s', S.step s a = some s' ∧ S.run s' as = some s'' := by
  rw [run]
  cases S.step s a with
  | none => simp
  | some t => simp

/-- **One run after another.** -/
theorem System.run_append (h : S.run s as = some s') : S.run s (as ++ bs) = S.run s' bs := by
  induction as generalizing s with
  | nil =>
    obtain rfl := Option.some.inj h
    rfl
  | cons a as ih =>
    obtain ⟨t, hstep, hrest⟩ := run_cons_iff.mp h
    rw [List.cons_append, run_cons hstep]
    exact ih hrest

theorem System.trace_append (h : S.run s as = some s') :
    S.trace s (as ++ bs) = S.trace s as ++ S.trace s' bs := by
  induction as generalizing s with
  | nil =>
    obtain rfl := Option.some.inj h
    rfl
  | cons a as ih =>
    obtain ⟨t, hstep, hrest⟩ := run_cons_iff.mp h
    rw [List.cons_append, trace_cons hstep, trace_cons hstep, ih hrest, List.append_assoc]

/-- A run of one step. -/
theorem System.run_one (h : S.step s a = some s') : S.run s [a] = some s' := run_cons h

theorem System.trace_one (h : S.step s a = some s') : S.trace s [a] = (S.shows s a).toList := by
  rw [trace_cons h, trace, List.append_nil]

/-- **The invariant rule**, for an invariant that speaks of what was shown so far. -/
theorem System.run_inv {Inv : σ → List ε → Prop}
    (hstep : ∀ {s a s' shown}, Inv s shown → S.step s a = some s' →
      Inv s' (shown ++ (S.shows s a).toList)) {shown : List ε} (h : Inv s shown)
    (hrun : S.run s as = some s') : Inv s' (shown ++ S.trace s as) := by
  induction as generalizing s shown with
  | nil =>
    obtain rfl := Option.some.inj hrun
    rw [trace, List.append_nil]
    exact h
  | cons a as ih =>
    obtain ⟨t, ht, hrest⟩ := run_cons_iff.mp hrun
    rw [trace_cons ht, ← List.append_assoc]
    exact ih (hstep h ht) hrest

end Runs

/-- **A simulation**: each step of `S` is matched by a run of `T` that shows the same. -/
def Simulates (S : System σ α ε) (T : System τ β ε) (R : σ → τ → Prop) : Prop :=
  ∀ {s t a s'}, R s t → S.step s a = some s' →
    ∃ bs t', T.run t bs = some t' ∧ T.trace t bs = (S.shows s a).toList ∧ R s' t'

section Simulations

variable {S : System σ α ε} {T : System τ β ε} {R : σ → τ → Prop} {s s' : σ} {t : τ} {as : List α}

/-- A step that is matched by none. -/
theorem Simulates.stays {a : α} (hshows : S.shows s a = none) (h : R s' t) :
    ∃ bs t', T.run t bs = some t' ∧ T.trace t bs = (S.shows s a).toList ∧ R s' t' :=
  ⟨[], t, rfl, by rw [hshows]; rfl, h⟩

/-- A step that is matched by one. -/
theorem Simulates.moves {a : α} {b : β} {t' : τ} (hstep : T.step t b = some t')
    (hshows : T.shows t b = S.shows s a) (h : R s' t') :
    ∃ bs t', T.run t bs = some t' ∧ T.trace t bs = (S.shows s a).toList ∧ R s' t' :=
  ⟨[b], t', System.run_one hstep, by rw [System.trace_one hstep, hshows], h⟩

/-- **Whole runs.** -/
theorem Simulates.run (hsim : Simulates S T R) (h : R s t) (hrun : S.run s as = some s') :
    ∃ bs t', T.run t bs = some t' ∧ T.trace t bs = S.trace s as ∧ R s' t' := by
  induction as generalizing s t with
  | nil =>
    obtain rfl := Option.some.inj hrun
    exact ⟨[], t, rfl, rfl, h⟩
  | cons a as ih =>
    obtain ⟨u, hstep, hrest⟩ := System.run_cons_iff.mp hrun
    obtain ⟨bs, v, hbs, hshown, huv⟩ := hsim h hstep
    obtain ⟨cs, w, hcs, htrace, hend⟩ := ih huv hrest
    refine ⟨bs ++ cs, w, ?_, ?_, hend⟩
    · rw [System.run_append hbs]
      exact hcs
    · rw [System.trace_append hbs, hshown, htrace, System.trace_cons hstep]

end Simulations

end DeepShield.Lib
