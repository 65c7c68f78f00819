import Mathlib.Tactic.Common

/-!
# Runs of a system that takes labelled steps

A system is a partial function `step : σ → α → Option σ`: in state `s` the
action `a` is either not enabled or leads to the one state `step s a`. A run is
a start and a list of actions, and goes on for as long as its actions are
enabled.

`Always` is what safety claims are about, a property of every state of a run.
`Guarded` is what their conditions are about, a property of every step of it,
stated on the state *before* the step. The rules connect the two through an
inductive invariant:

* `Inv.always`: an invariant that guarded steps keep holds along guarded runs;
* `always_iff_guarded`: if moreover a step that is not guarded breaks the
  property, the guard is the exact condition for it;
* `throughout_iff`: two properties of actions that agree wherever the invariant
  holds hold throughout the same runs.

`Leads` is what absence of deadlocks is about: from this state there is a run to a state
with the property. `leads_of_measure` finds one by a measure that some run lowers.
-/

namespace DeepShield.Lib

variable {σ α : Type} {step : σ → α → Option σ}

/-- `P` holds in every state of the run from `s`. -/
def Always (step : σ → α → Option σ) (P : σ → Prop) : σ → List α → Prop
  | s, [] => P s
  | s, a :: as => P s ∧ ∀ s', step s a = some s' → Always step P s' as

/-- `G` holds of every step of the run from `s`, in the state it starts from. -/
def Guarded (step : σ → α → Option σ) (G : σ → α → Prop) : σ → List α → Prop
  | _, [] => True
  | s, a :: as => ∀ s', step s a = some s' → G s a ∧ Guarded step G s' as

/-- `G` holds of every action the run from `s` comes to, whether or not it is
enabled there. -/
def Throughout (step : σ → α → Option σ) (G : σ → α → Prop) : σ → List α → Prop
  | _, [] => True
  | s, a :: as => G s a ∧ ∀ s', step s a = some s' → Throughout step G s' as

instance Always.decidable {P : σ → Prop} [DecidablePred P] :
    ∀ (s : σ) (as : List α), Decidable (Always step P s as)
  | s, [] => inferInstanceAs (Decidable (P s))
  | s, a :: as =>
    match hs : step s a with
    | none => decidable_of_iff (P s)
      ⟨fun h => ⟨h, fun _ hs' => absurd (hs.symm.trans hs') (Option.some_ne_none _).symm⟩, And.left⟩
    | some t =>
      have : Decidable (Always step P t as) := Always.decidable t as
      decidable_of_iff (P s ∧ Always step P t as)
        ⟨fun h => ⟨h.1, fun _ hs' => Option.some.inj (hs.symm.trans hs') ▸ h.2⟩,
          fun h => ⟨h.1, h.2 t hs⟩⟩

instance Throughout.decidable {G : σ → α → Prop} [∀ s a, Decidable (G s a)] :
    ∀ (s : σ) (as : List α), Decidable (Throughout step G s as)
  | _, [] => isTrue trivial
  | s, a :: as =>
    match hs : step s a with
    | none => decidable_of_iff (G s a)
      ⟨fun h => ⟨h, fun _ hs' => absurd (hs.symm.trans hs') (Option.some_ne_none _).symm⟩, And.left⟩
    | some t =>
      have : Decidable (Throughout step G t as) := Throughout.decidable t as
      decidable_of_iff (G s a ∧ Throughout step G t as)
        ⟨fun h => ⟨h.1, fun _ hs' => Option.some.inj (hs.symm.trans hs') ▸ h.2⟩,
          fun h => ⟨h.1, h.2 t hs⟩⟩

instance Guarded.decidable {G : σ → α → Prop} [∀ s a, Decidable (G s a)] :
    ∀ (s : σ) (as : List α), Decidable (Guarded step G s as)
  | _, [] => isTrue trivial
  | s, a :: as =>
    match hs : step s a with
    | none => isTrue fun _ hs' => absurd (hs.symm.trans hs') (Option.some_ne_none _).symm
    | some t =>
      have : Decidable (Guarded step G t as) := Guarded.decidable t as
      decidable_of_iff (G s a ∧ Guarded step G t as)
        ⟨fun h _ hs' => Option.some.inj (hs.symm.trans hs') ▸ h, fun h => h t hs⟩

theorem Always.head {P : σ → Prop} {s : σ} {as : List α} (h : Always step P s as) : P s := by
  cases as with
  | nil => exact h
  | cons a as => exact h.1

/-- A step that is taken, taken apart. -/
theorem Always.tail {P : σ → Prop} {s s' : σ} {a : α} {as : List α}
    (h : Always step P s (a :: as)) (hstep : step s a = some s') : Always step P s' as :=
  h.2 s' hstep

/-- A run along which the first action is enabled is guarded if that step and
the rest of the run are. -/
theorem Guarded.cons {G : σ → α → Prop} {s s' : σ} {a : α} {as : List α}
    (hstep : step s a = some s') (ha : G s a) (has : Guarded step G s' as) :
    Guarded step G s (a :: as) := by
  intro t ht
  obtain rfl := Option.some.inj (hstep.symm.trans ht)
  exact ⟨ha, has⟩

/-- **Weakening** a guard under an invariant it keeps. -/
theorem Guarded.mono {Inv : σ → Prop} {G H : σ → α → Prop}
    (himp : ∀ {s a}, Inv s → G s a → H s a)
    (hstep : ∀ {s a s'}, Inv s → H s a → step s a = some s' → Inv s') :
    ∀ {as : List α} {s : σ}, Inv s → Guarded step G s as → Guarded step H s as := by
  intro as
  induction as with
  | nil =>
    intro s _ _
    trivial
  | cons a as ih =>
    intro s h hguard s' hs'
    obtain ⟨ha, has⟩ := hguard s' hs'
    exact ⟨himp h ha, ih (hstep h (himp h ha) hs') has⟩

/-- **The invariant rule.** -/
theorem always_of_guarded {P Inv : σ → Prop} {G : σ → α → Prop}
    (hinv : ∀ {s}, Inv s → P s)
    (hstep : ∀ {s a s'}, Inv s → G s a → step s a = some s' → Inv s') :
    ∀ {as : List α} {s : σ}, Inv s → Guarded step G s as → Always step P s as := by
  intro as
  induction as with
  | nil =>
    intro s h _
    exact hinv h
  | cons a as ih =>
    intro s h hguard
    refine ⟨hinv h, fun s' hs' => ?_⟩
    obtain ⟨ha, has⟩ := hguard s' hs'
    exact ih (hstep h ha hs') has

/-- The invariant rule for runs that need no guard. -/
theorem always_of_inv {P Inv : σ → Prop} (hinv : ∀ {s}, Inv s → P s)
    (hstep : ∀ {s a s'}, Inv s → step s a = some s' → Inv s') :
    ∀ {as : List α} {s : σ}, Inv s → Always step P s as := by
  intro as
  induction as with
  | nil =>
    intro s h
    exact hinv h
  | cons a as ih =>
    intro s h
    exact ⟨hinv h, fun s' hs' => ih (hstep h hs')⟩

/-- **The exact condition.** A guard whose violation shows in the very next
state holds along the runs that satisfy the property, and along no others. -/
theorem always_iff_guarded {P Inv : σ → Prop} {G : σ → α → Prop}
    (hinv : ∀ {s}, Inv s → P s)
    (hstep : ∀ {s a s'}, Inv s → G s a → step s a = some s' → Inv s')
    (hbad : ∀ {s a s'}, Inv s → ¬ G s a → step s a = some s' → ¬ P s') :
    ∀ {as : List α} {s : σ}, Inv s → (Always step P s as ↔ Guarded step G s as) := by
  intro as s h
  refine ⟨?_, always_of_guarded hinv hstep h⟩
  induction as generalizing s with
  | nil => exact fun _ => trivial
  | cons a as ih =>
    intro halways s' hs'
    have hrest := halways.tail hs'
    by_cases ha : G s a
    · exact ⟨ha, ih (hstep h ha hs') hrest⟩
    · exact absurd hrest.head (hbad h ha hs')

/-- **Agreeing properties.** `E` is what is known of the actions of the run. -/
theorem throughout_iff {Inv : σ → Prop} {E : α → Prop} {G H : σ → α → Prop}
    (hiff : ∀ {s a}, Inv s → E a → (G s a ↔ H s a))
    (hstep : ∀ {s a s'}, Inv s → E a → G s a → step s a = some s' → Inv s') :
    ∀ {as : List α} {s : σ}, Inv s → (∀ a ∈ as, E a) →
      (Throughout step G s as ↔ Throughout step H s as) := by
  intro as
  induction as with
  | nil =>
    intro s _ _
    exact Iff.rfl
  | cons a as ih =>
    intro s h has
    have ha := has a List.mem_cons_self
    have hrest : ∀ b ∈ as, E b := fun b hb => has b (List.mem_cons_of_mem a hb)
    constructor
    · intro hG
      exact ⟨(hiff h ha).mp hG.1,
        fun s' hs' => (ih (hstep h ha hG.1 hs') hrest).mp (hG.2 s' hs')⟩
    · intro hH
      have hG := (hiff h ha).mpr hH.1
      exact ⟨hG, fun s' hs' => (ih (hstep h ha hG hs') hrest).mpr (hH.2 s' hs')⟩

/-- **Weakening** a property of actions under an invariant it keeps. -/
theorem Throughout.mono {Inv : σ → Prop} {G H : σ → α → Prop}
    (himp : ∀ {s a}, Inv s → G s a → H s a)
    (hstep : ∀ {s a s'}, Inv s → G s a → step s a = some s' → Inv s') :
    ∀ {as : List α} {s : σ}, Inv s → Throughout step G s as → Throughout step H s as := by
  intro as
  induction as with
  | nil =>
    intro s _ _
    trivial
  | cons a as ih =>
    intro s h hG
    exact ⟨himp h hG.1, fun s' hs' => ih (hstep h hG.1 hs') (hG.2 s' hs')⟩

/-- Two properties of actions at once. -/
theorem Throughout.and {G H : σ → α → Prop} {as : List α} :
    ∀ {s : σ}, Throughout step G s as → Throughout step H s as →
      Throughout step (fun s a => G s a ∧ H s a) s as := by
  induction as with
  | nil =>
    intro s _ _
    trivial
  | cons a as ih =>
    intro s hG hH
    exact ⟨⟨hG.1, hH.1⟩, fun s' hs' => ih (hG.2 s' hs') (hH.2 s' hs')⟩

/-- What an invariant says of the actions holds throughout. -/
theorem throughout_of_inv {Inv : σ → Prop} {E : α → Prop} {G : σ → α → Prop}
    (hinv : ∀ {s a}, Inv s → E a → G s a)
    (hstep : ∀ {s a s'}, Inv s → E a → step s a = some s' → Inv s') :
    ∀ {as : List α} {s : σ}, Inv s → (∀ a ∈ as, E a) → Throughout step G s as := by
  intro as
  induction as with
  | nil =>
    intro s _ _
    trivial
  | cons a as ih =>
    intro s h has
    have ha := has a List.mem_cons_self
    refine ⟨hinv h ha, fun s' hs' => ?_⟩
    exact ih (hstep h ha hs') fun b hb => has b (List.mem_cons_of_mem a hb)

/-- What an invariant says of the actions holds throughout a guarded run. -/
theorem throughout_of_guarded {Inv : σ → Prop} {G H : σ → α → Prop}
    (hinv : ∀ {s a}, Inv s → H s a)
    (hstep : ∀ {s a s'}, Inv s → G s a → step s a = some s' → Inv s') :
    ∀ {as : List α} {s : σ}, Inv s → Guarded step G s as → Throughout step H s as := by
  intro as
  induction as with
  | nil =>
    intro s _ _
    trivial
  | cons a as ih =>
    intro s h hguard
    refine ⟨hinv h, fun s' hs' => ?_⟩
    obtain ⟨ha, has⟩ := hguard s' hs'
    exact ih (hstep h ha hs') has

/-- What holds throughout a run and keeps an invariant makes the invariant hold
always. -/
theorem Throughout.always {P Inv : σ → Prop} {E : α → Prop} {G : σ → α → Prop}
    (hinv : ∀ {s}, Inv s → P s)
    (hstep : ∀ {s a s'}, Inv s → E a → G s a → step s a = some s' → Inv s') :
    ∀ {as : List α} {s : σ}, Inv s → (∀ a ∈ as, E a) → Throughout step G s as →
      Always step P s as := by
  intro as
  induction as with
  | nil =>
    intro s h _ _
    exact hinv h
  | cons a as ih =>
    intro s h has hG
    refine ⟨hinv h, fun s' hs' => ?_⟩
    exact ih (hstep h (has a List.mem_cons_self) hG.1 hs')
      (fun b hb => has b (List.mem_cons_of_mem a hb)) (hG.2 s' hs')

/-! ## Getting somewhere -/

/-- Some run from `s` ends in a state with `P`. -/
def Leads (step : σ → α → Option σ) (P : σ → Prop) (s : σ) : Prop :=
  ∃ (as : List α) (s' : σ), as.foldlM step s = some s' ∧ P s'

section Leads

variable {P Q Inv : σ → Prop} {s s' : σ} {a : α}

theorem Leads.here (h : P s) : Leads step P s := ⟨[], s, rfl, h⟩

theorem Leads.after (hstep : step s a = some s') (h : Leads step P s') : Leads step P s := by
  obtain ⟨as, t, hrun, ht⟩ := h
  refine ⟨a :: as, t, ?_, ht⟩
  rw [List.foldlM_cons, hstep]
  exact hrun

theorem Leads.afterRun {as : List α} (hrun : as.foldlM step s = some s') (h : Leads step P s') :
    Leads step P s := by
  obtain ⟨bs, t, hrest, ht⟩ := h
  refine ⟨as ++ bs, t, ?_, ht⟩
  rw [List.foldlM_append, hrun]
  exact hrest

/-- **One after the other.** -/
theorem Leads.trans (h : Leads step P s) (hrest : ∀ {s}, P s → Leads step Q s) :
    Leads step Q s := by
  obtain ⟨as, t, hrun, ht⟩ := h
  exact (hrest ht).afterRun hrun

theorem Leads.mono (h : Leads step P s) (himp : ∀ {s}, P s → Q s) : Leads step Q s :=
  h.trans fun hs => Leads.here (himp hs)

/-- **By a measure**: where the invariant holds, `P` does or a run lowers the measure. -/
theorem leads_of_measure (measure : σ → Nat)
    (hlower : ∀ {s}, Inv s → P s ∨ Leads step (fun s' => Inv s' ∧ measure s' < measure s) s)
    (h : Inv s) : Leads step P s := by
  induction hmeasure : measure s using Nat.strongRecOn generalizing s with
  | ind k ih =>
    rcases hlower h with hdone | hlead
    · exact Leads.here hdone
    · refine hlead.trans fun {t} ht => ?_
      exact ih (measure t) (hmeasure ▸ ht.2) ht.1 rfl

/-- An invariant holds at the end of a run. -/
theorem inv_of_run (hstep : ∀ {s a s'}, Inv s → step s a = some s' → Inv s') {as : List α}
    (h : Inv s) (hrun : as.foldlM step s = some s') : Inv s' := by
  induction as generalizing s with
  | nil =>
    obtain rfl := Option.some.inj hrun
    exact h
  | cons a as ih =>
    rw [List.foldlM_cons] at hrun
    obtain ⟨t, ht, hrest⟩ := Option.bind_eq_some_iff.mp hrun
    exact ih (hstep h ht) hrest

end Leads

end DeepShield.Lib
