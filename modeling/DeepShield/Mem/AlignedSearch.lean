import DeepShield.Mem.HeapRuns

/-!
# The search for aligned blocks

`HeapAllocAligned` computes the aligned offset as `(current / alignment + 1) * alignment`,
which is larger than `current` also where `current` is aligned, so the branch for a block
that already is aligned is never taken. A free block is used only if it has room behind a
later multiple of the alignment (`RoomAbove`); an aligned block of just the size asked for
is passed over, such as a page that was freed between two blocks in use.
-/

namespace DeepShield.Mem

open DeepShield.Lib

/-- Some free block is aligned and large enough. -/
def AlignedHole (h : Heap) (n alignment : Nat) : Prop :=
  ∃ x ∈ h.list .free, alignment ∣ x ∧ n ≤ h.sizeOf x

/-- `HeapAllocAligned` then does not fail. -/
def UsesAligned (h : Heap) (n alignment : Nat) : Prop :=
  AlignedHole h n alignment → (heapAllocAligned h n alignment).1 ≠ 0

/-- Some free block has `n` bytes behind a multiple of the alignment above its own offset,
which leaves a minimal block before it if the block is the first. -/
def RoomAbove (h : Heap) (n alignment : Nat) : Prop :=
  ∃ x ∈ h.list .free, ∃ gap, 0 < gap ∧ alignment ∣ x + gap ∧
    (h.pprev x = 0 → sizeofHeapBlock + minimalFreeBlockSize ≤ gap) ∧ gap + n ≤ h.sizeOf x

section Search

variable {h : Heap} {s : Shape} {off : List Nat} {x n gap alignment : Nat}

/-- A multiple above `x` is not below the next one. -/
theorem next_multiple_le (hgap : 0 < gap) (hdvd : alignment ∣ x + gap) :
    (x / alignment + 1) * alignment ≤ x + gap := by
  obtain ⟨k, hk⟩ := hdvd
  rw [hk, Nat.mul_comm alignment k]
  refine Nat.mul_le_mul_right alignment (Nat.div_lt_of_lt_mul ?_)
  omega

/-- Multiples are no closer to each other than the alignment. -/
theorem apart_of_dvd {a b : Nat} (ha : alignment ∣ x + a) (hb : alignment ∣ x + b) (hlt : a < b) :
    a + alignment ≤ b := by
  have hdvd : alignment ∣ b - a := by
    have hsub := Nat.dvd_sub hb ha
    rwa [Nat.add_sub_add_left] at hsub
  have hle := Nat.le_of_dvd (by omega) hdvd
  omega

/-- The gap that `HeapAllocAligned` computes is the least it can use. -/
theorem heapGap_le (hh : Holds h s off) (hx : x ∈ s.blocks) (hpos : 0 < alignment)
    (hpage : alignment ≤ pageSize) (hgap : 0 < gap) (hdvd : alignment ∣ x + gap)
    (hfirst : h.pprev x = 0 → sizeofHeapBlock + minimalFreeBlockSize ≤ gap) :
    heapGap h alignment x ≤ gap := by
  have hnext := next_multiple_le hgap hdvd
  obtain ⟨hlo, -⟩ := next_multiple x hpos
  obtain ⟨gap₀, hgap₀⟩ := Nat.le.dest (Nat.le_of_lt hlo)
  have hdvd₀ : alignment ∣ x + gap₀ := hgap₀ ▸ Nat.dvd_mul_left alignment _
  rw [heapGap, ← hgap₀, Nat.add_sub_cancel_left]
  rw [← hgap₀] at hnext
  by_cases hprev : h.pprev x = 0
  · have hlarge := hfirst hprev
    have hfits : x + 2 * pageSize < 2 ^ 32 := by
      rw [hh.first hx hprev]
      decide
    obtain ⟨gap', heq, -, -, hdvd', hcases⟩ := @heapGrowGap_eq h x gap₀ alignment
      (sizeofHeapBlock + minimalFreeBlockSize) hpos hpage hfits (Nat.le_add_left _ _) hdvd₀
    rw [if_pos hprev, heq]
    show gap' ≤ gap
    rcases hcases with hsame | ⟨-, hgrown⟩
    · omega
    · -- a larger one would be larger by a whole alignment
      by_contra hlt
      have hapart := apart_of_dvd hdvd hdvd' (Nat.lt_of_not_le hlt)
      omega
  · rw [if_neg hprev]
    omega

/-- **What `HeapAllocAligned` finds.** -/
theorem Sound.allocAligned_iff (hs : Sound h s) (hn : 0 < n) (hpower : ∃ k, alignment = 2 ^ k)
    (hpage : alignment ≤ pageSize) :
    (heapAllocAligned h n alignment).1 ≠ 0 ↔ RoomAbove h n alignment := by
  obtain ⟨k, hk⟩ := hpower
  have hpos : 0 < alignment := hk ▸ Nat.two_pow_pos k
  have hand : alignment &&& (alignment - 1) = 0 := by
    rw [hk, Nat.and_two_pow_sub_one_eq_mod, Nat.mod_self]
  obtain ⟨l, hl, hhead, hnull, hlength, hmem⟩ := hs.holds.list .free
  have hfree : h.freeList = l.headD 0 := hhead
  have hlist : ∀ x, x ∈ h.list .free ↔ x ∈ l := fun x =>
    ((hs.list_spec .free).2.2 x).trans (hmem x).symm
  have hblocks : ∀ x ∈ l, x ∈ s.blocks := fun x hx => ((hmem x).mp hx).1
  have hroom : RoomAbove h n alignment ↔ ∃ x ∈ l, heapGap h alignment x + n ≤ h.sizeOf x := by
    constructor
    · intro ⟨x, hx, gap, hgap, hdvd, hfirst, hsize⟩
      have hx' := (hlist x).mp hx
      have hle := heapGap_le hs.holds (hblocks x hx') hpos hpage hgap hdvd hfirst
      exact ⟨x, hx', by omega⟩
    · intro ⟨x, hx, hsize⟩
      obtain ⟨hok, -⟩ := heapGap_eq hs.holds (hblocks x hx) hpos hpage
      exact ⟨x, (hlist x).mpr hx, _, hok.positive, hok.dvd, hok.first, hsize⟩
  rw [hroom, heapAllocAligned, if_neg (Nat.ne_of_gt hn), if_neg (by omega), hfree,
    heapAllocAlignedLoop_eq hs.holds hpos hpage hs.room hl hblocks hnull hlength]
  cases hfind : l.find? fun x => decide (heapGap h alignment x + n ≤ h.sizeOf x) with
  | none =>
    refine iff_of_false (fun hne => hne rfl) fun ⟨x, hx, hsize⟩ => ?_
    exact List.find?_eq_none.mp hfind x hx (decide_eq_true hsize)
  | some x =>
    have hx := List.mem_of_find?_eq_some hfind
    have hheader := hs.holds.fits.header_le (hblocks x hx)
    refine iff_of_true ?_ ⟨x, hx, by simpa using List.find?_some hfind⟩
    show h.pointer (x + heapGap h alignment x) ≠ 0
    unfold Heap.pointer
    unfold sizeofHeapBlock at hheader
    omega

end Search

/-- **Aligned blocks are used**, in any heap of a legal run, if and only if there is none
that is large enough or some free block has room above its offset. -/
theorem usesAligned_iff {arena : Nat} {contents : Mem} {size : UInt32} {h : Heap}
    {ops : List HeapOp} (hcreate : heapCreate arena contents size.toNat = some h)
    (hlegal : Throughout heapStep Legal h ops) {n alignment : UInt32} (hn : 1 ≤ n.toNat)
    (hpower : ∃ k, alignment.toNat = 2 ^ k) (hpage : alignment.toNat ≤ pageSize) :
    UsesAligned (ops.foldl heapOp h) n.toNat alignment.toNat ↔
      ¬ AlignedHole (ops.foldl heapOp h) n.toNat alignment.toNat ∨
        RoomAbove (ops.foldl heapOp h) n.toNat alignment.toNat := by
  obtain ⟨s, hs⟩ := reachable_sound hcreate hlegal
  rw [UsesAligned, hs.allocAligned_iff hn hpower hpage]
  exact imp_iff_not_or

/-- A heap that nothing is allocated from has room. -/
theorem usesAligned_created : ∃ h,
    heapCreate 4096 (fun _ => 0) (65536 : UInt32).toNat = some h ∧
    UsesAligned h (8 : UInt32).toNat (8 : UInt32).toNat :=
  ⟨_, rfl, (@usesAligned_iff 4096 (fun _ => 0) 65536 _ [] rfl trivial 8 8 (by decide)
    ⟨3, by decide⟩ (by decide)).mpr (Or.inr ⟨24, by decide +kernel, 40, by decide +kernel,
      by decide +kernel, by decide +kernel, by decide +kernel⟩)⟩

/-- A page was allocated, then all that is left, and the page was freed: it is free, aligned
and large enough for a page, and is not given out again. -/
theorem not_usesAligned_page : ∃ h,
    heapCreate 4096 (fun _ => 0) (65536 : UInt32).toNat = some h ∧
    Throughout heapStep Legal h
      [.allocAligned 4096 4096, .alloc 53224, .alloc 4048, .free 12288] ∧
    ¬ UsesAligned ([.allocAligned 4096 4096, .alloc 53224, .alloc 4048, .free 12288].foldl heapOp h)
      4096 4096 := by
  refine ⟨_, rfl, throughout_cons ⟨⟨12, rfl⟩, by decide⟩ (throughout_cons trivial (throughout_cons
    trivial (throughout_cons ⟨4096, by decide +kernel, by decide +kernel⟩ trivial))),
    fun huses => ?_⟩
  refine huses ⟨4096, by decide +kernel, by decide +kernel, by decide +kernel⟩ ?_
  decide +kernel

end DeepShield.Mem
