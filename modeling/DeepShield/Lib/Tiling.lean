import Mathlib.Data.List.Basic
import Mathlib.Logic.Function.Basic
import Mathlib.Tactic.Common

/-!
# Tilings of an interval by blocks with headers

A block is named by the place where its contents start: `header` units of it lie
before that place, `size x` from there on. `Tiles header size lo l hi` says that the
blocks of `l` follow each other without a gap from `lo` to `hi`.

That is all it takes to know that blocks do not overlap: `tiles_mem` bounds every
block, `tiles_cell` finds the block of a place, `tiles_separate` separates any two, and
`tiles_disjoint` keeps the contents of a block clear of every header.

Three changes of the blocks give a tiling again: cutting one in two (`Tiles.cut`), giving
a block those that follow it (`Tiles.join`), and moving the border between two
(`Tiles.shift`).
-/

namespace DeepShield.Lib

/-- The blocks of `l` fill `[lo, hi)` in order. -/
def Tiles (header : Nat) (size : Nat → Nat) : Nat → List Nat → Nat → Prop
  | lo, [], hi => lo = hi
  | lo, x :: l, hi => x = lo + header ∧ Tiles header size (x + size x) l hi

section Tiles

variable {header : Nat} {size size' : Nat → Nat} {lo hi : Nat} {l : List Nat}

theorem tiles_append {l₁ l₂ : List Nat} : Tiles header size lo (l₁ ++ l₂) hi ↔
    ∃ mid, Tiles header size lo l₁ mid ∧ Tiles header size mid l₂ hi := by
  induction l₁ generalizing lo with
  | nil =>
    constructor
    · intro h
      exact ⟨lo, rfl, h⟩
    · intro ⟨mid, hmid, h⟩
      obtain rfl : lo = mid := hmid
      exact h
  | cons x l₁ ih =>
    constructor
    · intro ⟨hx, h⟩
      obtain ⟨mid, h₁, h₂⟩ := ih.mp h
      exact ⟨mid, ⟨hx, h₁⟩, h₂⟩
    · intro ⟨mid, ⟨hx, h₁⟩, h₂⟩
      exact ⟨hx, ih.mpr ⟨mid, h₁, h₂⟩⟩

/-- Only the sizes of the blocks of `l` matter. -/
theorem Tiles.congr (h : Tiles header size lo l hi) (hsize : ∀ x ∈ l, size' x = size x) :
    Tiles header size' lo l hi := by
  induction l generalizing lo with
  | nil => exact h
  | cons x l ih =>
    refine ⟨h.1, ?_⟩
    rw [hsize x List.mem_cons_self]
    exact ih h.2 (fun y hy => hsize y (List.mem_cons_of_mem x hy))

theorem tiles_le (h : Tiles header size lo l hi) : lo ≤ hi := by
  induction l generalizing lo with
  | nil => exact Nat.le_of_eq h
  | cons x l ih =>
    have hx := h.1
    have hrest := ih h.2
    omega

/-- Every block lies inside the interval. -/
theorem tiles_mem (h : Tiles header size lo l hi) {x : Nat} (hx : x ∈ l) :
    lo + header ≤ x ∧ x + size x ≤ hi := by
  induction l generalizing lo with
  | nil => exact absurd hx (by simp)
  | cons y l ih =>
    have hy := h.1
    rcases List.mem_cons.mp hx with rfl | hx
    · have hrest := tiles_le h.2
      omega
    · have hrest := ih h.2 hx
      omega

/-- Every place of the interval is in a block, header included. -/
theorem tiles_cell (h : Tiles header size lo l hi) {a : Nat} (hlo : lo ≤ a) (hhi : a < hi) :
    ∃ x ∈ l, x ≤ a + header ∧ a < x + size x := by
  induction l generalizing lo with
  | nil => exact absurd (Nat.lt_of_le_of_lt hlo hhi) (Nat.not_lt_of_ge (Nat.le_of_eq h.symm))
  | cons x l ih =>
    have hx := h.1
    by_cases hhere : a < x + size x
    · exact ⟨x, List.mem_cons_self, by omega, hhere⟩
    · obtain ⟨y, hy, hcell⟩ := ih h.2 (Nat.le_of_not_lt hhere)
      exact ⟨y, List.mem_cons_of_mem x hy, hcell⟩

/-- Two blocks do not overlap: one ends before the header of the other. -/
theorem tiles_separate (h : Tiles header size lo l hi) {x y : Nat} (hx : x ∈ l) (hy : y ∈ l)
    (hne : x ≠ y) : x + size x + header ≤ y ∨ y + size y + header ≤ x := by
  induction l generalizing lo with
  | nil => exact absurd hx (by simp)
  | cons z l ih =>
    rcases List.mem_cons.mp hx with rfl | hxl
    · rcases List.mem_cons.mp hy with rfl | hyl
      · exact absurd rfl hne
      · exact Or.inl (tiles_mem h.2 hyl).1
    · rcases List.mem_cons.mp hy with rfl | hyl
      · exact Or.inr (tiles_mem h.2 hxl).1
      · exact ih h.2 hxl hyl

/-- The contents of a block meet no header. -/
theorem tiles_disjoint (h : Tiles header size lo l hi) {x y a : Nat} (hx : x ∈ l) (hy : y ∈ l)
    (ha : x ≤ a ∧ a < x + size x) : a + header < y ∨ y ≤ a := by
  by_cases hne : x = y
  · omega
  · rcases tiles_separate h hx hy hne with hlt | hlt
    · omega
    · omega

/-- A tiling ends where its sizes say. -/
theorem tiles_end {hi' : Nat} (h : Tiles header size lo l hi) (h' : Tiles header size lo l hi') :
    hi = hi' := by
  induction l generalizing lo with
  | nil => exact h.symm.trans h'
  | cons x l ih => exact ih h.2 h'.2

theorem tiles_nodup (h : Tiles header size lo l hi) (hheader : 0 < header) : l.Nodup := by
  induction l generalizing lo with
  | nil => exact List.nodup_nil
  | cons x l ih =>
    refine List.nodup_cons.mpr ⟨fun hmem => ?_, ih h.2⟩
    have hle := (tiles_mem h.2 hmem).1
    omega

/-- There are no more blocks than header places. -/
theorem tiles_length (h : Tiles header size lo l hi) : lo + header * l.length ≤ hi := by
  induction l generalizing lo with
  | nil => exact Nat.le_of_eq h
  | cons x l ih =>
    have hx := h.1
    have hrest := ih h.2
    rw [List.length_cons, Nat.mul_succ]
    omega

/-- A tiling around one of its blocks. -/
theorem tiles_around {l₁ l₂ : List Nat} {x : Nat} (h : Tiles header size lo (l₁ ++ x :: l₂) hi) :
    ∃ mid, Tiles header size lo l₁ mid ∧ x = mid + header ∧ Tiles header size (x + size x) l₂ hi :=
  tiles_append.mp h

/-- **Cutting** a block in two. -/
theorem Tiles.cut {l₁ l₂ : List Nat} {x y k r : Nat}
    (h : Tiles header size lo (l₁ ++ x :: l₂) hi) (hheader : 0 < header)
    (hsize : size x = k + header + r) (hy : y = x + k + header) :
    Tiles header (Function.update (Function.update size y r) x k) lo (l₁ ++ x :: y :: l₂) hi := by
  obtain ⟨mid, hfirst, hx, hrest⟩ := tiles_around h
  have hxy : x ≠ y := by omega
  have hbefore : ∀ z ∈ l₁, z ≠ x ∧ z ≠ y := by
    intro z hz
    have hbound := tiles_mem hfirst hz
    omega
  have hbehind : ∀ z ∈ l₂, z ≠ x ∧ z ≠ y := by
    intro z hz
    have hbound := tiles_mem hrest hz
    omega
  refine tiles_append.mpr ⟨mid, hfirst.congr ?_, hx, ?_, ?_⟩
  · intro z hz
    rw [Function.update_of_ne (hbefore z hz).1, Function.update_of_ne (hbefore z hz).2]
  · rw [Function.update_self]
    exact hy
  · rw [Function.update_of_ne (Ne.symm hxy), Function.update_self]
    have hend : y + r = x + size x := by omega
    rw [hend]
    refine hrest.congr fun z hz => ?_
    rw [Function.update_of_ne (hbehind z hz).1, Function.update_of_ne (hbehind z hz).2]

/-- **Joining** a block with those that follow it. -/
theorem Tiles.join {l₁ mid l₂ : List Nat} {x n : Nat}
    (h : Tiles header size lo (l₁ ++ x :: (mid ++ l₂)) hi) (hheader : 0 < header)
    (hmid : Tiles header size (x + size x) mid (x + n)) :
    Tiles header (Function.update size x n) lo (l₁ ++ x :: l₂) hi := by
  obtain ⟨before, hfirst, hx, hrest⟩ := tiles_around h
  obtain ⟨border, hmid', hlast⟩ := tiles_append.mp hrest
  obtain rfl : border = x + n := tiles_end hmid' hmid
  refine tiles_append.mpr ⟨before, hfirst.congr ?_, hx, ?_⟩
  · intro z hz
    have hbound := tiles_mem hfirst hz
    rw [Function.update_of_ne (by omega)]
  · rw [Function.update_self]
    refine hlast.congr fun z hz => ?_
    have hbound := tiles_mem hlast hz
    rw [Function.update_of_ne (by omega)]

/-- **Moving the border** between two blocks. -/
theorem Tiles.shift {l₁ l₂ : List Nat} {p x y gap : Nat}
    (h : Tiles header size lo (l₁ ++ p :: x :: l₂) hi) (hheader : 0 < header)
    (hgap : gap ≤ size x) (hy : y = x + gap) :
    Tiles header (Function.update (Function.update size y (size x - gap)) p (size p + gap)) lo
      (l₁ ++ p :: y :: l₂) hi := by
  obtain ⟨mid, hfirst, hp, hx, hrest⟩ := tiles_around h
  have hpy : y ≠ p := by omega
  have hbefore : ∀ z ∈ l₁, z ≠ p ∧ z ≠ y := by
    intro z hz
    have hbound := tiles_mem hfirst hz
    omega
  have hbehind : ∀ z ∈ l₂, z ≠ p ∧ z ≠ y := by
    intro z hz
    have hbound := tiles_mem hrest hz
    omega
  refine tiles_append.mpr ⟨mid, hfirst.congr ?_, hp, ?_, ?_⟩
  · intro z hz
    rw [Function.update_of_ne (hbefore z hz).1, Function.update_of_ne (hbefore z hz).2]
  · rw [Function.update_self]
    omega
  · rw [Function.update_of_ne hpy, Function.update_self]
    have hend : y + (size x - gap) = x + size x := by omega
    rw [hend]
    refine hrest.congr fun z hz => ?_
    rw [Function.update_of_ne (hbehind z hz).1, Function.update_of_ne (hbehind z hz).2]

end Tiles

end DeepShield.Lib
