import DeepShield.Os.Interlocked
import DeepShield.Os.NtStatus
import Mathlib.Data.List.Perm.Basic
import Mathlib.Logic.Function.Basic

/-!
# Running a routine on every processor

`SmpRunPerProcessor` of `smp.c`: a DPC is queued to every other processor, the
caller runs its own, and the first failure is kept in `info.error` by a
compare-exchange. A callback touches its own processor only, so the processors
may be taken one after another, in whatever order they get to it; the order is
a part of `Smp` and every result here holds for all of them.

* `smpRunPerProcessor_success_iff`: the call succeeds exactly if every callback
  does;
* `smpRunPerProcessor_snd`: its effect is that of the callbacks, in order;
* `smpRunPerProcessor_own`: of a callback that reads its own processor, too, both are
  the same in every order.
-/

namespace DeepShield.Os

/-- The processors of the machine, the one the caller runs on and the order in
which they run a callback. -/
structure Smp where
  count : Nat
  current : Nat
  order : List Nat
  current_lt : current < count
  order_perm : order.Perm (List.range count)

/-- `PROCESSOR_CALLBACK`, with the state it works on. -/
abbrev ProcessorCallback (σ : Type) := Nat → σ → NtStatus × σ

/-- `DpcRoutine` on processor `vcpuId`; `info` is `info->error` and the state
behind `info->context`. -/
def dpcRoutine {σ : Type} (callback : ProcessorCallback σ) (info : NtStatus × σ)
    (vcpuId : Nat) : NtStatus × σ :=
  let result := callback vcpuId info.2
  (if result.1 ≠ statusSuccess then
      (interlockedCompareExchange info.1 result.1 statusSuccess).2
    else info.1,
    result.2)

/-- `SmpRunPerProcessor`. -/
def smpRunPerProcessor {σ : Type} (smp : Smp) (callback : ProcessorCallback σ) (s : σ) :
    NtStatus × σ :=
  if smp.count > 1 then smp.order.foldl (dpcRoutine callback) (statusSuccess, s)
  else callback smp.current s

variable {σ : Type} {callback : ProcessorCallback σ}

theorem Smp.mem_order (smp : Smp) {p : Nat} : p ∈ smp.order ↔ p < smp.count := by
  rw [smp.order_perm.mem_iff, List.mem_range]

theorem Smp.order_nodup (smp : Smp) : smp.order.Nodup :=
  smp.order_perm.nodup_iff.mpr List.nodup_range

/-- A machine of one processor has no other to run on. -/
theorem Smp.order_of_single (smp : Smp) (h : ¬ smp.count > 1) : smp.order = [smp.current] := by
  have hcurrent := smp.current_lt
  have hone : smp.count = 1 := by omega
  have hzero : smp.current = 0 := by omega
  have hperm := smp.order_perm
  rw [hone] at hperm
  rw [hzero]
  exact List.perm_singleton.mp hperm

theorem foldl_dpcRoutine_snd (order : List Nat) (info : NtStatus × σ) :
    (order.foldl (dpcRoutine callback) info).2
      = order.foldl (fun s p => (callback p s).2) info.2 := by
  induction order generalizing info with
  | nil => rfl
  | cons p order ih => exact ih (dpcRoutine callback info p)

/-- A failure is kept. -/
theorem dpcRoutine_fst (info : NtStatus × σ) (p : Nat) :
    (dpcRoutine callback info p).1 = statusSuccess ↔
      info.1 = statusSuccess ∧ (callback p info.2).1 = statusSuccess := by
  unfold dpcRoutine interlockedCompareExchange
  by_cases hp : (callback p info.2).1 = statusSuccess
  · simp [hp]
  · by_cases hinfo : info.1 = statusSuccess
    · simp [hp, hinfo]
    · simp [hp, hinfo]

/-- The first failure is kept. -/
theorem foldl_dpcRoutine_fst {status : Nat → NtStatus}
    (hstatus : ∀ p s, (callback p s).1 = status p) (order : List Nat) (info : NtStatus × σ) :
    (order.foldl (dpcRoutine callback) info).1 = statusSuccess ↔
      info.1 = statusSuccess ∧ ∀ p ∈ order, status p = statusSuccess := by
  induction order generalizing info with
  | nil => simp
  | cons p order ih =>
    rw [List.foldl_cons, ih, List.forall_mem_cons, ← and_assoc, dpcRoutine_fst, hstatus]

/-- The call's effect is that of the callbacks, in order. -/
theorem smpRunPerProcessor_snd (smp : Smp) (s : σ) :
    (smpRunPerProcessor smp callback s).2
      = smp.order.foldl (fun s p => (callback p s).2) s := by
  unfold smpRunPerProcessor
  split
  next => exact foldl_dpcRoutine_snd smp.order (statusSuccess, s)
  next hsingle =>
    rw [smp.order_of_single hsingle]
    rfl

/-- The call succeeds exactly if every processor's callback does. -/
theorem smpRunPerProcessor_success_iff {status : Nat → NtStatus}
    (hstatus : ∀ p s, (callback p s).1 = status p) (smp : Smp) (s : σ) :
    (smpRunPerProcessor smp callback s).1 = statusSuccess ↔
      ∀ p < smp.count, status p = statusSuccess := by
  unfold smpRunPerProcessor
  split
  next =>
    rw [foldl_dpcRoutine_fst hstatus]
    simp [smp.mem_order]
  next hsingle =>
    have hcurrent := smp.current_lt
    rw [hstatus]
    constructor
    · intro h p hp
      obtain rfl : p = smp.current := by omega
      exact h
    · intro h
      exact h smp.current hcurrent

/-- A call fails with a status one of the callbacks failed with. -/
theorem foldl_dpcRoutine_fst_mem {status : Nat → NtStatus}
    (hstatus : ∀ p s, (callback p s).1 = status p) (order : List Nat) (info : NtStatus × σ) :
    (order.foldl (dpcRoutine callback) info).1 = info.1 ∨
      ∃ p ∈ order, (order.foldl (dpcRoutine callback) info).1 = status p := by
  induction order generalizing info with
  | nil => exact Or.inl rfl
  | cons p order ih =>
    rw [List.foldl_cons]
    rcases ih (dpcRoutine callback info p) with hkept | ⟨q, hq, hfail⟩
    · simp only [dpcRoutine, hstatus, interlockedCompareExchange] at hkept ⊢
      rw [hkept]
      by_cases hp : status p = statusSuccess
      · simp [hp]
      · by_cases hinfo : info.1 = statusSuccess
        · simp [hp, hinfo]
        · simp [hinfo]
    · exact Or.inr ⟨q, List.mem_cons_of_mem p hq, hfail⟩

theorem smpRunPerProcessor_fst_mem {status : Nat → NtStatus}
    (hstatus : ∀ p s, (callback p s).1 = status p) (smp : Smp) (s : σ) :
    (smpRunPerProcessor smp callback s).1 = statusSuccess ∨
      ∃ p < smp.count, (smpRunPerProcessor smp callback s).1 = status p := by
  unfold smpRunPerProcessor
  split
  next =>
    rcases foldl_dpcRoutine_fst_mem hstatus smp.order (statusSuccess, s) with hkept | ⟨p, hp, hfail⟩
    · exact Or.inl hkept
    · exact Or.inr ⟨p, smp.mem_order.mp hp, hfail⟩
  next => exact Or.inr ⟨smp.current, smp.current_lt, hstatus _ _⟩

/-- Where a callback fails with a status that is no success, the call is a
success exactly if every processor's callback is. -/
theorem smpRunPerProcessor_ntSuccess_iff {status : Nat → NtStatus}
    (hstatus : ∀ p s, (callback p s).1 = status p)
    (hfail : ∀ p, ntSuccess (status p) = true → status p = statusSuccess) (smp : Smp) (s : σ) :
    ntSuccess (smpRunPerProcessor smp callback s).1 = true ↔
      ∀ p < smp.count, status p = statusSuccess := by
  rw [← smpRunPerProcessor_success_iff hstatus smp s]
  constructor
  · intro hsucc
    rcases smpRunPerProcessor_fst_mem hstatus smp s with h | ⟨p, _, h⟩
    · exact h
    · rw [h] at hsucc ⊢
      exact hfail p hsucc
  · intro h
    rw [h, ntSuccess_statusSuccess]

/-! ## Callbacks that read their own processor -/

section Own

variable {τ : Type} {routine : Nat → τ → NtStatus × τ}

/-- A routine that works on what its processor has. -/
def ownCallback (routine : Nat → τ → NtStatus × τ) : ProcessorCallback (Nat → τ) :=
  fun p s => ((routine p (s p)).1, Function.update s p (routine p (s p)).2)

/-- Each processor is taken once, and finds itself as it was. -/
theorem foldl_dpcRoutine_own {order : List Nat} (hnodup : order.Nodup)
    (info : NtStatus × (Nat → τ)) :
    ((order.foldl (dpcRoutine (ownCallback routine)) info).1 = statusSuccess ↔
      info.1 = statusSuccess ∧ ∀ p ∈ order, (routine p (info.2 p)).1 = statusSuccess) ∧
    ∀ q, (order.foldl (dpcRoutine (ownCallback routine)) info).2 q
      = if q ∈ order then (routine q (info.2 q)).2 else info.2 q := by
  induction order generalizing info with
  | nil => exact ⟨by simp, fun q => by simp⟩
  | cons p order ih =>
    obtain ⟨hp, hrest⟩ := List.nodup_cons.mp hnodup
    obtain ⟨hstatus, hstate⟩ := ih hrest (dpcRoutine (ownCallback routine) info p)
    have hother : ∀ q ∈ order, (dpcRoutine (ownCallback routine) info p).2 q = info.2 q :=
      fun q hq => Function.update_of_ne (fun heq : q = p => hp (heq ▸ hq)) _ _
    constructor
    · rw [List.foldl_cons, hstatus, List.forall_mem_cons, ← and_assoc, dpcRoutine_fst]
      exact and_congr Iff.rfl (forall₂_congr fun q hq => by rw [hother q hq])
    · intro q
      rw [List.foldl_cons, hstate q]
      by_cases hmem : q ∈ order
      · rw [if_pos hmem, if_pos (List.mem_cons_of_mem p hmem), hother q hmem]
      · rw [if_neg hmem]
        by_cases hsame : q = p
        · rw [hsame, if_pos List.mem_cons_self]
          exact Function.update_self _ _ _
        · rw [if_neg (by simp [hsame, hmem])]
          exact Function.update_of_ne hsame _ _

/-- **In whatever order** the processors get to it, the call succeeds exactly if the
routine does on each, and leaves each as the routine does. -/
theorem smpRunPerProcessor_own (smp : Smp) (s : Nat → τ) :
    ((smpRunPerProcessor smp (ownCallback routine) s).1 = statusSuccess ↔
      ∀ p < smp.count, (routine p (s p)).1 = statusSuccess) ∧
    ∀ p < smp.count, (smpRunPerProcessor smp (ownCallback routine) s).2 p
      = (routine p (s p)).2 := by
  unfold smpRunPerProcessor
  split
  next =>
    obtain ⟨hstatus, hstate⟩ := @foldl_dpcRoutine_own τ routine smp.order smp.order_nodup
      (statusSuccess, s)
    refine ⟨?_, fun p hp => ?_⟩
    · rw [hstatus]
      simp [smp.mem_order]
    · rw [hstate p, if_pos (smp.mem_order.mpr hp)]
  next hsingle =>
    have hcurrent := smp.current_lt
    have honly : ∀ p < smp.count, p = smp.current := fun p hp => by omega
    refine ⟨⟨fun h p hp => ?_, fun h => h smp.current hcurrent⟩, fun p hp => ?_⟩
    · rw [honly p hp]
      exact h
    · rw [honly p hp]
      exact Function.update_self _ _ _

end Own

end DeepShield.Os
