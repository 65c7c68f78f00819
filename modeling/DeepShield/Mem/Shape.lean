import DeepShield.Lib.Links
import DeepShield.Lib.Tiling
import DeepShield.Mem.Heap

/-!
# The shape of a heap

`Shape` is what a heap is about: the blocks in the order they lie in memory, the
list each is on, and its size. A shape `Fits` a memory that its blocks tile, and
`Covers` bytes that are inside its used blocks.

The heap changes its shape in four ways. A block changes its list (`setState`), takes
in its successors (`join`), is cut in two (`CutAt`), or gives its first bytes to the
used block before it (`ShiftAt`). The last two leave the same kind of shape, a free
block behind another (`border`). Each way leaves a shape that fits and covers what
was covered.
-/

namespace DeepShield.Mem

open DeepShield.Lib

/-- `STATE` of a block on a list. -/
def HeapList.code : HeapList → Nat
  | .free => heapBlockFree
  | .used => heapBlockUsed

theorem HeapList.code_lt (list : HeapList) : list.code < 2 ^ 32 := by
  cases list <;> decide

theorem HeapList.code_inj {i j : HeapList} (h : i.code = j.code) : i = j := by
  cases i <;> cases j <;> first | rfl | exact absurd h (by decide)

/-- Blocks in order, the list of each and its size. -/
structure Shape where
  blocks : List Nat
  state : Nat → HeapList
  size : Nat → Nat

namespace Shape

/-- The blocks fill `total` bytes, and none is empty. -/
structure Fits (s : Shape) (total : Nat) : Prop where
  tiles : Tiles sizeofHeapBlock s.size 0 s.blocks total
  positive : ∀ x ∈ s.blocks, 0 < s.size x
  bounded : total < 2 ^ 32

/-- The bytes of `kept` are inside used blocks that are on their list. -/
def Covers (s : Shape) (off : List Nat) (kept : Nat → Prop) : Prop :=
  ∀ a, kept a → ∃ x ∈ s.blocks, x ∉ off ∧ s.state x = .used ∧ x ≤ a ∧ a < x + s.size x

section Fits

variable {s : Shape} {total : Nat} {off : List Nat} {kept : Nat → Prop} {x : Nat}

theorem Fits.nodup (hf : s.Fits total) : s.blocks.Nodup :=
  tiles_nodup hf.tiles (by decide)

theorem Fits.header_le (hf : s.Fits total) (hx : x ∈ s.blocks) : sizeofHeapBlock ≤ x := by
  have hmem := tiles_mem hf.tiles hx
  omega

theorem Fits.le_total (hf : s.Fits total) (hx : x ∈ s.blocks) : x + s.size x ≤ total :=
  (tiles_mem hf.tiles hx).2

/-- No block is at the null offset. -/
theorem Fits.nonnull (hf : s.Fits total) : 0 ∉ s.blocks := by
  intro hmem
  exact absurd (hf.header_le hmem) (by decide)

/-- No block is inside another. -/
theorem Fits.not_inside (hf : s.Fits total) {y : Nat} (hx : x ∈ s.blocks) (hlo : x < y)
    (hhi : y < x + s.size x + sizeofHeapBlock) : y ∉ s.blocks := by
  intro hy
  have hapart := tiles_separate hf.tiles hx hy (Nat.ne_of_lt hlo)
  omega

/-- Kept bytes are not in a block that is not used. -/
theorem Covers.outside (hcovers : s.Covers off kept) (hf : s.Fits total) {a : Nat}
    (hx : x ∈ s.blocks) (hnot : x ∈ off ∨ s.state x = .free) (ha : kept a) :
    a < x ∨ x + s.size x ≤ a := by
  obtain ⟨y, hy, hyoff, hyused, hin⟩ := hcovers a ha
  have hne : x ≠ y := by
    intro heq
    rcases hnot with hoff | hfree
    · exact hyoff (heq ▸ hoff)
    · rw [heq, hyused] at hfree
      exact absurd hfree (by decide)
  have hapart := tiles_separate hf.tiles hx hy hne
  omega

end Fits

/-! ## Changing the list of a block -/

/-- A block on another list. -/
def setState (s : Shape) (x : Nat) (i : HeapList) : Shape :=
  { s with state := Function.update s.state x i }

@[simp] theorem setState_blocks (s : Shape) (x : Nat) (i : HeapList) :
    (s.setState x i).blocks = s.blocks := rfl

@[simp] theorem setState_size (s : Shape) (x : Nat) (i : HeapList) :
    (s.setState x i).size = s.size := rfl

@[simp] theorem setState_state (s : Shape) (x : Nat) (i : HeapList) (y : Nat) :
    (s.setState x i).state y = if y = x then i else s.state y :=
  Function.update_apply s.state x i y

/-! ## Joining -/

/-- Fewer blocks, of which `x` is larger. -/
def join (s : Shape) (blocks : List Nat) (x n : Nat) : Shape :=
  { s with blocks := blocks, size := Function.update s.size x n }

@[simp] theorem join_blocks (s : Shape) (blocks : List Nat) (x n : Nat) :
    (s.join blocks x n).blocks = blocks := rfl

@[simp] theorem join_state (s : Shape) (blocks : List Nat) (x n : Nat) :
    (s.join blocks x n).state = s.state := rfl

@[simp] theorem join_size (s : Shape) (blocks : List Nat) (x n y : Nat) :
    (s.join blocks x n).size y = if y = x then n else s.size y :=
  Function.update_apply s.size x n y

/-- The blocks of `mid` follow `x`, are on no list, and end `n` bytes behind its
start. -/
structure JoinAt (s : Shape) (off l₁ : List Nat) (x : Nat) (mid l₂ : List Nat) (n : Nat) :
    Prop where
  blocks : s.blocks = l₁ ++ x :: (mid ++ l₂)
  off : ∀ y ∈ mid, y ∈ off
  tiles : Tiles sizeofHeapBlock s.size (x + s.size x) mid (x + n)

namespace JoinAt

variable {s : Shape} {off l₁ mid l₂ : List Nat} {x n total : Nat} {kept : Nat → Prop}

theorem old (hj : s.JoinAt off l₁ x mid l₂ n) {y : Nat} (hy : y ∈ l₁ ++ x :: l₂) :
    y ∈ s.blocks := by
  rw [hj.blocks]
  simp only [List.mem_append, List.mem_cons] at hy ⊢
  tauto

/-- A block that is on a list was not in the middle. -/
theorem stays (hj : s.JoinAt off l₁ x mid l₂ n) {y : Nat} (hy : y ∈ s.blocks) (hoff : y ∉ off) :
    y ∈ l₁ ++ x :: l₂ := by
  have hynot : y ∉ mid := fun hmem => hoff (hj.off y hmem)
  rw [hj.blocks] at hy
  simp only [List.mem_append, List.mem_cons] at hy ⊢
  tauto

theorem size_le (hj : s.JoinAt off l₁ x mid l₂ n) (y : Nat) :
    s.size y ≤ (s.join (l₁ ++ x :: l₂) x n).size y := by
  have hle := tiles_le hj.tiles
  rw [join_size]
  split
  next heq =>
    subst heq
    omega
  next => exact Nat.le_refl _

theorem fits (hj : s.JoinAt off l₁ x mid l₂ n) (hf : s.Fits total) :
    (s.join (l₁ ++ x :: l₂) x n).Fits total where
  tiles := Tiles.join (hj.blocks ▸ hf.tiles) (by decide) hj.tiles
  positive y hy := Nat.lt_of_lt_of_le (hf.positive y (hj.old hy)) (hj.size_le y)
  bounded := hf.bounded

theorem covers (hj : s.JoinAt off l₁ x mid l₂ n) (hc : s.Covers off kept) :
    (s.join (l₁ ++ x :: l₂) x n).Covers off kept := by
  intro a ha
  obtain ⟨y, hy, hyoff, hyused, hlo, hhi⟩ := hc a ha
  exact ⟨y, hj.stays hy hyoff, hyoff, hyused, hlo,
    Nat.lt_of_lt_of_le hhi (Nat.add_le_add_left (hj.size_le y) y)⟩

end JoinAt

/-! ## Borders -/

/-- A free block `y` of `rest` bytes behind `x`, which has `n`. -/
def border (s : Shape) (blocks : List Nat) (x n y rest : Nat) : Shape where
  blocks := blocks
  state := Function.update s.state y .free
  size := Function.update (Function.update s.size y rest) x n

@[simp] theorem border_blocks (s : Shape) (blocks : List Nat) (x n y rest : Nat) :
    (s.border blocks x n y rest).blocks = blocks := rfl

@[simp] theorem border_state (s : Shape) (blocks : List Nat) (x n y rest z : Nat) :
    (s.border blocks x n y rest).state z = if z = y then .free else s.state z :=
  Function.update_apply s.state y .free z

@[simp] theorem border_size (s : Shape) (blocks : List Nat) (x n y rest z : Nat) :
    (s.border blocks x n y rest).size z
      = if z = x then n else if z = y then rest else s.size z := by
  show Function.update (Function.update s.size y rest) x n z = _
  rw [Function.update_apply, Function.update_apply]

/-- The block `x` is free and large enough for `n` bytes and a block `y` of `rest`. -/
structure CutAt (s : Shape) (l₁ : List Nat) (x : Nat) (l₂ : List Nat) (n y rest : Nat) : Prop where
  blocks : s.blocks = l₁ ++ x :: l₂
  free : s.state x = .free
  size : s.size x = n + sizeofHeapBlock + rest
  positive : 0 < n
  positive' : 0 < rest
  eq : y = x + n + sizeofHeapBlock

namespace CutAt

variable {s : Shape} {off l₁ l₂ : List Nat} {x n y rest total : Nat} {kept : Nat → Prop}

theorem mem (hcut : s.CutAt l₁ x l₂ n y rest) : x ∈ s.blocks := by simp [hcut.blocks]

theorem new (hcut : s.CutAt l₁ x l₂ n y rest) (hf : s.Fits total) : y ∉ s.blocks := by
  have hy := hcut.eq
  have hn := hcut.positive
  have hrest := hcut.positive'
  have hsize := hcut.size
  exact hf.not_inside hcut.mem (by omega) (by omega)

theorem mem_iff (hcut : s.CutAt l₁ x l₂ n y rest) (z : Nat) :
    z ∈ l₁ ++ x :: y :: l₂ ↔ z = y ∨ z ∈ s.blocks := by
  rw [hcut.blocks]
  simp only [List.mem_append, List.mem_cons]
  tauto

theorem fits (hcut : s.CutAt l₁ x l₂ n y rest) (hf : s.Fits total) :
    (s.border (l₁ ++ x :: y :: l₂) x n y rest).Fits total where
  tiles := Tiles.cut (hcut.blocks ▸ hf.tiles) (by decide) hcut.size hcut.eq
  positive z hz := by
    have hn := hcut.positive
    have hrest := hcut.positive'
    rw [border_size]
    split
    next => exact hn
    next =>
      split
      next => exact hrest
      next hzy => exact hf.positive z (((hcut.mem_iff z).mp hz).resolve_left hzy)
  bounded := hf.bounded

theorem covers (hcut : s.CutAt l₁ x l₂ n y rest) (hf : s.Fits total) (hc : s.Covers off kept) :
    (s.border (l₁ ++ x :: y :: l₂) x n y rest).Covers off kept := by
  intro a ha
  obtain ⟨z, hz, hzoff, hzused, hin⟩ := hc a ha
  have hzy : z ≠ y := ne_of_mem_of_not_mem hz (hcut.new hf)
  have hzx : z ≠ x := by
    intro heq
    rw [heq, hcut.free] at hzused
    exact absurd hzused (by decide)
  refine ⟨z, (hcut.mem_iff z).mpr (Or.inr hz), hzoff, ?_, ?_⟩
  · rw [border_state, if_neg hzy]
    exact hzused
  · rwa [border_size, if_neg hzx, if_neg hzy]

end CutAt

/-- The block `x` is free and larger than `gap`, and the one before it is used. -/
structure ShiftAt (s : Shape) (l₁ : List Nat) (p x : Nat) (l₂ : List Nat) (y gap : Nat) :
    Prop where
  blocks : s.blocks = l₁ ++ p :: x :: l₂
  used : s.state p = .used
  free : s.state x = .free
  lt : gap < s.size x
  positive : 0 < gap
  eq : y = x + gap

namespace ShiftAt

variable {s : Shape} {off l₁ l₂ : List Nat} {p x y gap total : Nat} {kept : Nat → Prop}

/-- The shape afterwards. -/
def shape (s : Shape) (l₁ : List Nat) (p x : Nat) (l₂ : List Nat) (y gap : Nat) : Shape :=
  s.border (l₁ ++ p :: y :: l₂) p (s.size p + gap) y (s.size x - gap)

theorem mem (hshift : s.ShiftAt l₁ p x l₂ y gap) : x ∈ s.blocks := by simp [hshift.blocks]

theorem mem_prev (hshift : s.ShiftAt l₁ p x l₂ y gap) : p ∈ s.blocks := by simp [hshift.blocks]

theorem ne (hshift : s.ShiftAt l₁ p x l₂ y gap) : p ≠ x := by
  intro heq
  have hused := hshift.used
  rw [heq, hshift.free] at hused
  exact absurd hused (by decide)

theorem new (hshift : s.ShiftAt l₁ p x l₂ y gap) (hf : s.Fits total) : y ∉ s.blocks := by
  have hy := hshift.eq
  have hgap := hshift.positive
  have hlt := hshift.lt
  exact hf.not_inside hshift.mem (by omega) (by omega)

/-- The free block is nowhere else. -/
theorem only (hshift : s.ShiftAt l₁ p x l₂ y gap) (hf : s.Fits total) : x ∉ l₁ ∧ x ∉ l₂ := by
  have hnodup := hf.nodup
  rw [hshift.blocks] at hnodup
  have hsplit : (l₁ ++ [p] ++ x :: l₂).Nodup := by simpa using hnodup
  obtain ⟨hx₁, hx₂, -, -⟩ := Links.nodup_around hsplit
  exact ⟨fun hmem => hx₁ (List.mem_append_left [p] hmem), hx₂⟩

theorem mem_iff (hshift : s.ShiftAt l₁ p x l₂ y gap) (hf : s.Fits total) (z : Nat) :
    z ∈ l₁ ++ p :: y :: l₂ ↔ z = y ∨ (z ∈ s.blocks ∧ z ≠ x) := by
  obtain ⟨hx₁, hx₂⟩ := hshift.only hf
  have hpx := hshift.ne
  rw [hshift.blocks]
  by_cases hzx : z = x
  · subst hzx
    simp [hx₁, hx₂, Ne.symm hpx]
  · simp only [List.mem_append, List.mem_cons]
    tauto

theorem fits (hshift : s.ShiftAt l₁ p x l₂ y gap) (hf : s.Fits total) :
    (shape s l₁ p x l₂ y gap).Fits total where
  tiles := Tiles.shift (hshift.blocks ▸ hf.tiles) (by decide) (Nat.le_of_lt hshift.lt) hshift.eq
  positive z hz := by
    have hgap := hshift.positive
    have hlt := hshift.lt
    rw [shape, border_size]
    split
    next => omega
    next =>
      split
      next => omega
      next hzy => exact hf.positive z (((hshift.mem_iff hf z).mp hz).resolve_left hzy).1
  bounded := hf.bounded

theorem covers (hshift : s.ShiftAt l₁ p x l₂ y gap) (hf : s.Fits total) (hc : s.Covers off kept) :
    (shape s l₁ p x l₂ y gap).Covers (y :: off) kept := by
  intro a ha
  obtain ⟨z, hz, hzoff, hzused, hin⟩ := hc a ha
  have hzy : z ≠ y := ne_of_mem_of_not_mem hz (hshift.new hf)
  have hzx : z ≠ x := by
    intro heq
    rw [heq, hshift.free] at hzused
    exact absurd hzused (by decide)
  refine ⟨z, (hshift.mem_iff hf z).mpr (Or.inr ⟨hz, hzx⟩), ?_, ?_, hin.1, ?_⟩
  · exact fun hk => hzoff ((List.mem_cons.mp hk).resolve_left hzy)
  · rw [shape, border_state, if_neg hzy]
    exact hzused
  · rw [shape, border_size, if_neg hzy]
    split
    next heq =>
      rw [heq] at hin ⊢
      omega
    next => exact hin.2

end ShiftAt

end Shape

end DeepShield.Mem
