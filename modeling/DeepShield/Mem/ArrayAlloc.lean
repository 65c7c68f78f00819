import DeepShield.Mem.HeapRuns

/-!
# Arrays from the heap

`HeapAllocArray` forms the number of bytes as a product of two `UINT32`, asks
`HeapAlloc` for it, and clears as many bytes with the same product. Where the
product does not fit, both see what is left of it modulo 2^32: a block of the
reduced size, which is too small for the array whatever its size is, because no
heap is as large as the array.

`arrayLarge_iff` is about every heap of a legal run and every two factors.
-/

namespace DeepShield.Mem

open DeepShield.Lib

/-- Some free block has `n` bytes. -/
def Serves (h : Heap) (n : Nat) : Prop := ∃ x ∈ h.list .free, n ≤ h.sizeOf x

/-- `HeapAllocArray` returns NULL, or a block in use that the whole array fits in, with
every byte of the array zero. -/
def ArrayLarge (h : Heap) (numberOfElements elementSize : Nat) : Prop :=
  (heapAllocArray h numberOfElements elementSize).1 = 0 ∨
    ∃ x ∈ (heapAllocArray h numberOfElements elementSize).2.list .used,
      (heapAllocArray h numberOfElements elementSize).1 = h.pointer x ∧
      numberOfElements * elementSize
        ≤ (heapAllocArray h numberOfElements elementSize).2.sizeOf x ∧
      ∀ i < numberOfElements * elementSize,
        (heapAllocArray h numberOfElements elementSize).2.mem (x + i) = 0

section Array

variable {h : Heap} {s : Shape} {n numberOfElements elementSize : Nat}

/-- **What `HeapAlloc` finds.** -/
theorem Sound.alloc_iff (hs : Sound h s) : (heapAlloc h n).1 ≠ 0 ↔ n ≠ 0 ∧ Serves h n := by
  by_cases hn : n = 0
  · rw [heapAlloc, if_pos hn]
    exact iff_of_false (fun hne => hne rfl) (fun hk => hk.1 hn)
  · obtain ⟨l, hl, hhead, hnull, hlength, hmem⟩ := hs.holds.list .free
    have hfree : h.freeList = l.headD 0 := hhead
    have hserves : Serves h n ↔ ∃ x ∈ l, n ≤ h.sizeOf x := by
      refine exists_congr fun x => and_congr_left fun _ => ?_
      rw [(hs.list_spec .free).2.2 x, hmem x]
    rw [hserves, heapAlloc, if_neg hn, hfree, heapAllocLoop_eq hl hnull hlength]
    cases hfind : l.find? fun x => decide (n ≤ h.sizeOf x) with
    | none =>
      refine iff_of_false (fun hne => hne rfl) fun ⟨_, x, hx, hsize⟩ => ?_
      exact List.find?_eq_none.mp hfind x hx (decide_eq_true hsize)
    | some x =>
      have hx := List.mem_of_find?_eq_some hfind
      have hheader := hs.holds.fits.header_le ((hmem x).mp hx).1
      refine iff_of_true ?_ ⟨hn, x, hx, by simpa using List.find?_some hfind⟩
      show h.pointer x ≠ 0
      unfold Heap.pointer
      unfold sizeofHeapBlock at hheader
      omega

/-- No block is larger than 32 bits can say. -/
theorem Sound.sizeOf_lt (hs : Sound h s) {x : Nat} (hx : x ∈ h.list .used) :
    h.sizeOf x < 2 ^ 32 := by
  have hlive := hs.live_iff.mp hx
  have hbound := hs.holds.fits.le_total hlive.1
  have hbounded := hs.holds.fits.bounded
  rw [hs.holds.size x hlive.1]
  omega

/-- A product that fits is asked for as it is. -/
theorem Sound.arrayLarge (hs : Sound h s) (hfits : numberOfElements * elementSize < 2 ^ 32) :
    ArrayLarge h numberOfElements elementSize := by
  obtain ⟨s', hsteps, hgrant⟩ :=
    @Sound.allocArray h s 1 (.allocArray 0 0) hs numberOfElements elementSize
      ((hs.start _).alloc hs.coalesced)
  rw [Nat.mod_eq_of_lt hfits] at hgrant
  by_cases hnull : (heapAllocArray h numberOfElements elementSize).1 = 0
  · exact Or.inl hnull
  · obtain ⟨x, hpointer, hlive, hsize, hzero⟩ := hgrant hnull
    refine Or.inr ⟨x, hsteps.sound.live_iff.mpr hlive, hpointer, ?_, hzero⟩
    rw [hsteps.sound.holds.size x hlive.1]
    exact hsize

/-- One that does not fit is larger than any block. -/
theorem Sound.arrayLarge_wrapped (hs : Sound h s)
    (hlarge : 2 ^ 32 ≤ numberOfElements * elementSize) :
    ArrayLarge h numberOfElements elementSize ↔
      (heapAllocArray h numberOfElements elementSize).1 = 0 := by
  refine ⟨fun hfine => hfine.resolve_right ?_, Or.inl⟩
  intro ⟨x, hx, _, hsize, _⟩
  obtain ⟨s', hsteps, -⟩ :=
    @Sound.allocArray h s 1 (.allocArray 0 0) hs numberOfElements elementSize
      ((hs.start _).alloc hs.coalesced)
  have hlt := hsteps.sound.sizeOf_lt hx
  omega

end Array

/-- **An array gets enough memory**, in any heap of a legal run, if and only if its size
fits in 32 bits, or is a multiple of 2^32, or no free block has the reduced size. -/
theorem arrayLarge_iff {arena : Nat} {contents : Mem} {size : UInt32} {h : Heap}
    {ops : List HeapOp} (hcreate : heapCreate arena contents size.toNat = some h)
    (hlegal : Throughout heapStep Legal h ops) (numberOfElements elementSize : UInt32) :
    ArrayLarge (ops.foldl heapOp h) numberOfElements.toNat elementSize.toNat ↔
      numberOfElements.toNat * elementSize.toNat < 2 ^ 32 ∨
        numberOfElements.toNat * elementSize.toNat % 2 ^ 32 = 0 ∨
        ¬ Serves (ops.foldl heapOp h) (numberOfElements.toNat * elementSize.toNat % 2 ^ 32) := by
  obtain ⟨s, hs⟩ := reachable_sound hcreate hlegal
  by_cases hfits : numberOfElements.toNat * elementSize.toNat < 2 ^ 32
  · exact iff_of_true (hs.arrayLarge hfits) (Or.inl hfits)
  · have hnull :
        (heapAllocArray (ops.foldl heapOp h) numberOfElements.toNat elementSize.toNat).1 = 0 ↔
          ¬ (numberOfElements.toNat * elementSize.toNat % 2 ^ 32 ≠ 0 ∧
            Serves (ops.foldl heapOp h)
              (numberOfElements.toNat * elementSize.toNat % 2 ^ 32)) := by
      rw [heapAllocArray_fst, ← hs.alloc_iff, not_not]
    rw [hs.arrayLarge_wrapped (Nat.le_of_not_lt hfits), hnull, not_and_or, not_not]
    exact (or_iff_right hfits).symm

/-- Ten elements of eight bytes, from a heap that nothing is allocated from. -/
theorem arrayLarge_small : ∃ h,
    heapCreate 4096 (fun _ => 0) (65536 : UInt32).toNat = some h ∧
    ArrayLarge h (10 : UInt32).toNat (8 : UInt32).toNat :=
  ⟨_, rfl, (@arrayLarge_iff 4096 (fun _ => 0) 65536 _ [] rfl trivial 10 8).mpr
    (Or.inl (by decide))⟩

/-- 0x10001 elements of 0x10000 bytes get a block of 0x10000 bytes, where one is free. -/
theorem not_arrayLarge_wrapped : ∃ h,
    heapCreate 4096 (fun _ => 0) (0x20000 : UInt32).toNat = some h ∧
    ¬ ArrayLarge h 0x10001 0x10000 := by
  refine ⟨_, rfl, fun hlarge => ?_⟩
  obtain ⟨⟨s, hs⟩, -⟩ := @heapCreate_sound _ 4096 (fun _ => 0) 0x20000 rfl
  have hnull := (hs.arrayLarge_wrapped (by decide)).mp hlarge
  rw [heapAllocArray_fst] at hnull
  exact hs.alloc_iff.mpr ⟨by decide, 24, by decide +kernel, by decide +kernel⟩ hnull

end DeepShield.Mem
