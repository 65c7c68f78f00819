import DeepShield.Mem.HeapRuns

/-!
# Deleting a heap

The arena of a heap is one page for the heap object and the raw memory behind it.
`HeapCreate` takes the page off the size it records, and `HeapDelete` clears
`heap->size + sizeof(HEAP)` bytes from the heap object on: the size without the page,
and a heap object instead. The end of the raw memory, a page less the 28 bytes of a heap
object, is not cleared, and it belongs to the heap as much as the rest.

`deletionClears_iff` is about every arena and every legal run.
-/

namespace DeepShield.Mem

open DeepShield.Lib

/-- `sizeof( HEAP )`: packed, with a lock and a pointer of 64 bits. -/
def sizeofHeap : Nat := 28

/-- The bytes of the arena, from its start on. The first page has the heap object in it;
nothing else in that page is used. -/
def arenaBytes (firstPage : Mem) (h : Heap) : Mem :=
  fun i => if i < pageSize then firstPage i else h.mem (i - pageSize)

/-- `HeapDelete`: the arena afterwards. -/
def heapDelete (firstPage : Mem) (h : Heap) : Mem :=
  zeroBytes (arenaBytes firstPage h) 0 (h.size + sizeofHeap)

/-- No byte of an arena of `size` bytes is left. -/
def DeletionClears (firstPage : Mem) (h : Heap) (size : Nat) : Prop :=
  ∀ i < size, heapDelete firstPage h i = 0

/-- The end of the raw memory, a page less a heap object, is zero. -/
def EndZero (h : Heap) : Prop :=
  ∀ a, h.size + sizeofHeap - pageSize ≤ a → a < h.size → h.mem a = 0

section Delete

variable {h : Heap} {firstPage : Mem} {i : Nat}

theorem heapDelete_in (hi : i < h.size + sizeofHeap) : heapDelete firstPage h i = 0 :=
  zeroBytes_in (Nat.zero_le i) (by omega)

theorem heapDelete_out (hi : h.size + sizeofHeap ≤ i) :
    heapDelete firstPage h i = arenaBytes firstPage h i := by
  unfold heapDelete zeroBytes
  rw [writeBytes_out]
  rw [List.length_replicate]
  omega

theorem arenaBytes_raw (a : Nat) : arenaBytes firstPage h (pageSize + a) = h.mem a := by
  unfold arenaBytes
  rw [if_neg (by omega), Nat.add_sub_cancel_left]

/-- **What `HeapDelete` clears** of an arena with one page more than the heap records. -/
theorem deletionClears_iff_endZero (hlarge : pageSize ≤ h.size) :
    DeletionClears firstPage h (pageSize + h.size) ↔ EndZero h := by
  constructor
  · intro hclears a hlo hhi
    have hbyte := hclears (pageSize + a) (by omega)
    rwa [heapDelete_out (by omega), arenaBytes_raw] at hbyte
  · intro hend i hi
    by_cases hin : i < h.size + sizeofHeap
    · exact heapDelete_in hin
    · obtain ⟨a, rfl⟩ := Nat.le.dest (show pageSize ≤ i by omega)
      rw [heapDelete_out (Nat.le_of_not_lt hin), arenaBytes_raw]
      exact hend a (by omega) (by omega)

end Delete

/-- What `HeapCreate` records as the size. -/
theorem heapCreate_size {arena : Nat} {contents : Mem} {size : UInt32} {h : Heap}
    (hcreate : heapCreate arena contents size.toNat = some h) :
    pageSize + h.size = size.toNat ∧ pageSize ≤ h.size := by
  unfold heapCreate at hcreate
  split at hcreate
  next => exact absurd hcreate (by simp)
  next hlarge =>
    obtain rfl := Option.some.inj hcreate
    refine ⟨Nat.add_sub_of_le ?_, Nat.le_sub_of_add_le ?_⟩
    · unfold pageSize at hlarge ⊢
      omega
    · unfold pageSize at hlarge ⊢
      omega

/-- `HeapCreate` writes one header, and leaves the memory behind it as it was. -/
theorem heapCreate_mem {arena : Nat} {contents : Mem} {size : UInt32} {h : Heap} {a : Nat}
    (hcreate : heapCreate arena contents size.toNat = some h) (ha : start ≤ a) :
    h.mem a = contents a := by
  unfold heapCreate at hcreate
  split at hcreate
  next => exact absurd hcreate (by simp)
  next =>
    obtain rfl := Option.some.inj hcreate
    have hstart : sizeofHeapBlock ≤ start := Nat.le_refl start
    rw [Heap.set_out _ hstart (Or.inr ha), Heap.set_out _ hstart (Or.inr ha),
      Heap.set_out _ hstart (Or.inr ha), Heap.set_out _ hstart (Or.inr ha),
      Heap.set_out _ hstart (Or.inr ha), Heap.set_out _ hstart (Or.inr ha)]

/-- **Deletion leaves nothing**, after any legal run, if and only if the end of the raw
memory holds only zeros before it. -/
theorem deletionClears_iff {arena : Nat} {contents firstPage : Mem} {size : UInt32} {h : Heap}
    {ops : List HeapOp} (hcreate : heapCreate arena contents size.toNat = some h)
    (hlegal : Throughout heapStep Legal h ops) :
    DeletionClears firstPage (ops.foldl heapOp h) size.toNat ↔ EndZero (ops.foldl heapOp h) := by
  obtain ⟨⟨s, hs⟩, -⟩ := heapCreate_sound hcreate
  obtain ⟨-, -, -, -, hkept⟩ := hs.run hlegal
  obtain ⟨hsize, hlarge⟩ := heapCreate_size hcreate
  rw [← hsize, ← hkept]
  exact deletionClears_iff_endZero (hkept ▸ hlarge)

/-- In a zeroed arena that nothing was allocated from. -/
theorem deletionClears_created : ∃ h,
    heapCreate 4096 (fun _ => 0) (65536 : UInt32).toNat = some h ∧
    DeletionClears (fun _ => 0xFF) h (65536 : UInt32).toNat := by
  refine ⟨_, rfl, (@deletionClears_iff 4096 (fun _ => 0) (fun _ => 0xFF) 65536 _ [] rfl
    trivial).mpr fun a hlo _ => ?_⟩
  exact @heapCreate_mem 4096 (fun _ => 0) 65536 _ a rfl (Nat.le_trans (by decide) hlo)

/-- The last byte of a block that fills the heap survives. -/
theorem not_deletionClears_lastByte : ∃ h,
    heapCreate 4096 (fun _ => 0) (65536 : UInt32).toNat = some h ∧
    Throughout heapStep Legal h [.alloc 61416, .write 69631 [1]] ∧
    ¬ DeletionClears (fun _ => 0) ([.alloc 61416, .write 69631 [1]].foldl heapOp h)
      (65536 : UInt32).toNat := by
  refine ⟨_, rfl, throughout_cons trivial (throughout_cons ⟨24, by decide +kernel,
    by decide +kernel, by decide +kernel⟩ trivial), fun hclears => ?_⟩
  have hbyte := hclears 65535 (by decide)
  rw [heapDelete_out (by decide +kernel)] at hbyte
  revert hbyte
  decide +kernel

end DeepShield.Mem
