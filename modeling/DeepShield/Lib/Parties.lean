import Mathlib.Algebra.Order.BigOperators.Group.Finset
import Mathlib.Logic.Function.Basic
import Mathlib.Data.List.Count
import Mathlib.Tactic.Common

/-!
# The parties of a protocol

A protocol of many parties is a function from their names to where each of them
is, and one step moves one party: a `Function.update`. What an invariant says of
the parties is mostly of three kinds, and each has its rules for a move:

* something of every party (`forall_update`);
* that at most one of them is in some place (`AtMostOne`), and that a lock is
  taken exactly if one is (`Guards`): the three rules are a party coming in, one
  going out and one that stays on its side;
* how many of the first `n` are in some place (`tally`), or how far they all have to go
  (`total`).

Where there is no bound on the names, and most parties are nowhere, those that are
somewhere can be listed (`Listed`) and then counted.
-/

namespace DeepShield.Lib

variable {ι α : Type}

/-- **A move.** What holds of the place a party moves to, and of the places of the
others, holds of all. -/
theorem forall_update [DecidableEq ι] {P : ι → α → Prop} {parties : ι → α} {i : ι} {place : α}
    (hplace : P i place) (hothers : ∀ j, j ≠ i → P j (parties j)) (j : ι) :
    P j (Function.update parties i place j) := by
  by_cases hj : j = i
  · rw [hj, Function.update_self]
    exact hplace
  · rw [Function.update_of_ne hj]
    exact hothers j hj

/-! ## One party at most -/

/-- At most one party is inside. -/
def AtMostOne (inside : α → Prop) (parties : ι → α) : Prop :=
  ∀ i j, inside (parties i) → inside (parties j) → i = j

section AtMostOne

variable {inside : α → Prop} {parties : ι → α} {i : ι} {place : α}

/-- The others are outside if this one is inside. -/
theorem AtMostOne.others (h : AtMostOne inside parties) (hi : inside (parties i)) :
    ∀ j, j ≠ i → ¬ inside (parties j) :=
  fun j hji hj => hji (h j i hj hi)

variable [DecidableEq ι]

/-- A party that is not inside after its move. -/
theorem AtMostOne.update_outside (h : AtMostOne inside parties) (hplace : ¬ inside place) :
    AtMostOne inside (Function.update parties i place) := by
  intro j k hj hk
  by_cases hji : j = i
  · rw [hji, Function.update_self] at hj
    exact absurd hj hplace
  · by_cases hki : k = i
    · rw [hki, Function.update_self] at hk
      exact absurd hk hplace
    · rw [Function.update_of_ne hji] at hj
      rw [Function.update_of_ne hki] at hk
      exact h j k hj hk

/-- A party that moves while no other is inside. -/
theorem AtMostOne.update_alone (h : ∀ j, j ≠ i → ¬ inside (parties j)) :
    AtMostOne inside (Function.update parties i place) := by
  have hself : ∀ j, inside (Function.update parties i place j) → j = i := by
    intro j hj
    by_contra hji
    rw [Function.update_of_ne hji] at hj
    exact h j hji hj
  intro j k hj hk
  rw [hself j hj, hself k hk]

/-- A party that was inside and moves. -/
theorem AtMostOne.update_inside (h : AtMostOne inside parties) (hi : inside (parties i)) :
    AtMostOne inside (Function.update parties i place) :=
  AtMostOne.update_alone (h.others hi)

end AtMostOne

/-! ## Locks -/

/-- The lock is taken exactly if a party is inside, and then by one party. -/
structure Guards (inside : α → Prop) (lock : Bool) (parties : ι → α) : Prop where
  one : AtMostOne inside parties
  taken : lock = true ↔ ∃ i, inside (parties i)

section Guards

variable {inside : α → Prop} {lock : Bool} {parties : ι → α} {i : ι} {place : α}

/-- No party is inside at the start. -/
theorem guards_free (h : ∀ i, ¬ inside (parties i)) : Guards inside false parties where
  one i _ hi _ := absurd hi (h i)
  taken := ⟨fun hlock => absurd hlock (by decide), fun ⟨i, hi⟩ => absurd hi (h i)⟩

/-- A party that is inside is alone there. -/
theorem Guards.others (h : Guards inside lock parties) (hi : inside (parties i)) :
    ∀ j, j ≠ i → ¬ inside (parties j) := h.one.others hi

variable [DecidableEq ι]

/-- **Taking** a free lock. -/
theorem Guards.take (h : Guards inside false parties) (hplace : inside place) :
    Guards inside true (Function.update parties i place) where
  one := AtMostOne.update_alone fun j _ hj => absurd (h.taken.mpr ⟨j, hj⟩) (by decide)
  taken := ⟨fun _ => ⟨i, by rwa [Function.update_self]⟩, fun _ => rfl⟩

/-- **Giving back** the lock. -/
theorem Guards.give (h : Guards inside lock parties) (hi : inside (parties i))
    (hplace : ¬ inside place) : Guards inside false (Function.update parties i place) where
  one := h.one.update_inside hi
  taken := by
    refine ⟨fun hlock => absurd hlock (by decide), fun hsome => ?_⟩
    obtain ⟨j, hj⟩ := hsome
    by_cases hji : j = i
    · rw [hji, Function.update_self] at hj
      exact absurd hj hplace
    · rw [Function.update_of_ne hji] at hj
      exact absurd hj (h.one.others hi j hji)

/-- **Staying** inside, or outside. -/
theorem Guards.stay (h : Guards inside lock parties) (hsame : inside place ↔ inside (parties i)) :
    Guards inside lock (Function.update parties i place) where
  one := by
    by_cases hi : inside (parties i)
    · exact h.one.update_inside hi
    · exact h.one.update_outside fun hplace => hi (hsame.mp hplace)
  taken := by
    rw [h.taken]
    constructor
    · intro hsome
      obtain ⟨j, hj⟩ := hsome
      by_cases hji : j = i
      · exact ⟨i, by rw [Function.update_self, hsame]; exact hji ▸ hj⟩
      · exact ⟨j, by rwa [Function.update_of_ne hji]⟩
    · intro hsome
      obtain ⟨j, hj⟩ := hsome
      by_cases hji : j = i
      · rw [hji, Function.update_self] at hj
        exact ⟨i, hsame.mp hj⟩
      · rw [Function.update_of_ne hji] at hj
        exact ⟨j, hj⟩

end Guards

/-! ## How many -/

/-- How many of the first `n` parties are inside. -/
def tally (inside : α → Bool) (n : Nat) (parties : Nat → α) : Nat :=
  (List.range n).countP fun i => inside (parties i)

section Tally

variable {inside : α → Bool} {n : Nat} {parties : Nat → α} {i : Nat} {place : α}

theorem tally_succ : tally inside (n + 1) parties
    = tally inside n parties + if inside (parties n) then 1 else 0 := by
  rw [tally, List.range_succ, List.countP_append, List.countP_singleton]
  rfl

theorem tally_le : tally inside n parties ≤ n := by
  have hle := @List.countP_le_length _ (fun i => inside (parties i)) (List.range n)
  rwa [List.length_range] at hle

/-- All are inside. -/
theorem tally_eq_iff : tally inside n parties = n ↔ ∀ i < n, inside (parties i) = true := by
  have hall : tally inside n parties = (List.range n).length ↔
      ∀ i ∈ List.range n, inside (parties i) = true := List.countP_eq_length
  rw [List.length_range] at hall
  rw [hall]
  exact ⟨fun h i hi => h i (List.mem_range.mpr hi), fun h i hi => h i (List.mem_range.mp hi)⟩

/-- None is inside. -/
theorem tally_eq_zero_iff :
    tally inside n parties = 0 ↔ ∀ i < n, inside (parties i) = false := by
  rw [tally, List.countP_eq_zero]
  constructor
  · intro h i hi
    exact Bool.eq_false_iff.mpr (h i (List.mem_range.mpr hi))
  · intro h i hi
    exact Bool.eq_false_iff.mp (h i (List.mem_range.mp hi))

/-- Parties that agree are counted alike. -/
theorem tally_congr {parties' : Nat → α}
    (h : ∀ i < n, inside (parties' i) = inside (parties i)) :
    tally inside n parties' = tally inside n parties := by
  refine List.countP_congr fun i hi => ?_
  rw [h i (List.mem_range.mp hi)]

/-- A party that stays on its side. -/
theorem tally_update_same (h : inside place = inside (parties i)) :
    tally inside n (Function.update parties i place) = tally inside n parties := by
  refine tally_congr fun j _ => ?_
  by_cases hji : j = i
  · rw [hji, Function.update_self, h]
  · rw [Function.update_of_ne hji]

/-- A party that comes in, or goes out, is counted on one side only. -/
theorem tally_update (hi : i < n) :
    tally inside n (Function.update parties i place) + (if inside (parties i) then 1 else 0)
      = tally inside n parties + if inside place then 1 else 0 := by
  induction n with
  | zero => exact absurd hi (Nat.not_lt_zero i)
  | succ n ih =>
    rw [tally_succ, tally_succ]
    by_cases hlast : i = n
    · have hbefore : tally inside n (Function.update parties i place) = tally inside n parties := by
        refine tally_congr fun j hj => ?_
        rw [Function.update_of_ne (by omega)]
      rw [hbefore, hlast, Function.update_self]
      omega
    · have hrest := ih (by omega)
      rw [Function.update_of_ne (Ne.symm hlast)]
      omega

/-- **Coming in.** -/
theorem tally_update_in (hi : i < n) (hout : inside (parties i) = false)
    (hplace : inside place = true) :
    tally inside n (Function.update parties i place) = tally inside n parties + 1 := by
  have h := @tally_update _ inside n parties i place hi
  rwa [if_neg (Bool.eq_false_iff.mp hout), if_pos hplace] at h

end Tally

/-- The weights of the places of the first `n` parties. -/
def total (weight : α → Nat) (n : Nat) (parties : Nat → α) : Nat :=
  ∑ i ∈ Finset.range n, weight (parties i)

section Total

variable {weight : α → Nat} {n i : Nat} {parties : Nat → α} {place : α}

theorem total_update_le (h : weight place ≤ weight (parties i)) :
    total weight n (Function.update parties i place) ≤ total weight n parties := by
  refine Finset.sum_le_sum fun j _ => ?_
  by_cases hji : j = i
  · rw [hji, Function.update_self]
    exact h
  · rw [Function.update_of_ne hji]

/-- A party that gets **lighter**. -/
theorem total_update_lt (hi : i < n) (h : weight place < weight (parties i)) :
    total weight n (Function.update parties i place) < total weight n parties := by
  refine Finset.sum_lt_sum (fun j _ => ?_) ⟨i, Finset.mem_range.mpr hi, ?_⟩
  · by_cases hji : j = i
    · rw [hji, Function.update_self]
      exact Nat.le_of_lt h
    · rw [Function.update_of_ne hji]
  · rw [Function.update_self]
    exact h

end Total

/-! ## Parties that come and go -/

/-- The parties that are somewhere, each one once. -/
structure Listed (l : List (ι × α)) (parties : ι → Option α) : Prop where
  nodup : l.Nodup
  mem_iff : ∀ i place, (i, place) ∈ l ↔ parties i = some place

section Listed

variable {l : List (ι × α)} {parties : ι → Option α} {i : ι} {place place' : α}

theorem listed_nil : Listed [] (fun _ : ι => (none : Option α)) where
  nodup := List.nodup_nil
  mem_iff _ _ := by simp

/-- Nobody is anywhere. -/
theorem Listed.eq_nil (h : Listed l parties) (hnone : ∀ i, parties i = none) : l = [] := by
  refine List.eq_nil_iff_forall_not_mem.mpr fun x hx => ?_
  have hsome := (h.mem_iff x.1 x.2).mp hx
  rw [hnone] at hsome
  exact absurd hsome (by simp)

variable [DecidableEq ι]

/-- A party **comes**. -/
theorem Listed.come (h : Listed l parties) (hi : parties i = none) :
    Listed ((i, place) :: l) (Function.update parties i (some place)) where
  nodup := by
    refine List.nodup_cons.mpr ⟨fun hmem => ?_, h.nodup⟩
    rw [h.mem_iff, hi] at hmem
    exact absurd hmem (by simp)
  mem_iff j place' := by
    by_cases hji : j = i
    · rw [hji, Function.update_self, List.mem_cons, h.mem_iff, hi]
      simp [eq_comm]
    · rw [Function.update_of_ne hji, List.mem_cons, h.mem_iff]
      simp [hji]

/-- A party **goes**. -/
theorem Listed.go (h : Listed l parties) (hi : parties i = some place) :
    ∃ rest, l.Perm ((i, place) :: rest) ∧ Listed rest (Function.update parties i none) := by
  obtain ⟨before, after, rfl⟩ := List.append_of_mem ((h.mem_iff i place).mpr hi)
  refine ⟨before ++ after, List.perm_middle, ?_, fun j place' => ?_⟩
  · exact (List.nodup_cons.mp (List.perm_middle.nodup h.nodup)).2
  · have hnodup := List.nodup_cons.mp (List.perm_middle.nodup h.nodup)
    have hmem := h.mem_iff j place'
    rw [List.perm_middle.mem_iff, List.mem_cons] at hmem
    by_cases hji : j = i
    · rw [hji, Function.update_self]
      refine iff_of_false (fun hrest => ?_) (by simp)
      rw [hji, hi] at hmem
      obtain rfl := Option.some.inj (hmem.mp (Or.inr hrest))
      exact hnodup.1 hrest
    · rw [Function.update_of_ne hji, ← hmem]
      simp [hji]

/-- A party **moves**. -/
theorem Listed.move (h : Listed l parties) (hi : parties i = some place) :
    ∃ rest, l.Perm ((i, place) :: rest) ∧
      Listed ((i, place') :: rest) (Function.update parties i (some place')) := by
  obtain ⟨rest, hperm, hrest⟩ := h.go hi
  refine ⟨rest, hperm, ?_⟩
  have hcome := @Listed.come _ _ _ _ i place' _ hrest (Function.update_self ..)
  rwa [Function.update_idem] at hcome

end Listed

end DeepShield.Lib
