import DeepShield.Mem.HeapRuns

/-!
# When an allocation succeeds

`alloc_contract` is about the pointers that the heap returns; this is about when it returns
one. `HeapAlloc` takes the first block of the free list that is large enough. As blocks are
joined when they are freed, free memory is never cut into blocks that are smaller than
they could be, so a request fails only if the memory has no place for the block and its
header between the blocks in use (`heapAlloc_succeeds_iff`).

Nothing remains of what was allocated once all of it is freed: `drained_likeNew` says that
a heap which nothing is allocated from, whatever was done to it before, answers every
request as the heap did that `HeapCreate` made. That a free takes exactly its own block
from those in use is `Sound.free`.
-/

namespace DeepShield.Mem

open DeepShield.Lib

section FirstFit

variable {h h' : Heap} {s : Shape} {n alignment : Nat}

/-- What a search of the free list for `n` bytes comes to. -/
def firstFit (h : Heap) (n : Nat) : Option Nat :=
  (h.list .free).find? fun x => n ≤ h.sizeOf x

/-- The free list, as the search goes through it. -/
theorem Sound.freeList_eq (hs : Sound h s) :
    h.freeList = (h.list .free).headD 0 ∧ 0 ∉ h.list .free ∧ (h.list .free).length ≤ h.size := by
  obtain ⟨l, hl, hhead, hnull, hlength, _⟩ := hs.holds.list .free
  have hwalk := hl.walk_eq hnull hlength
  have hlist : h.list .free = l := by
    rw [← hhead] at hwalk
    exact hwalk
  rw [hlist]
  exact ⟨hhead, hnull, hlength⟩

/-- **First fit.** -/
theorem Sound.alloc_firstFit (hs : Sound h s) :
    heapAlloc h n = if n = 0 then (0, h) else match firstFit h n with
      | none => (0, h)
      | some x => (h.pointer x, heappSplit h x n) := by
  obtain ⟨hhead, hnull, hlength⟩ := hs.freeList_eq
  unfold heapAlloc firstFit
  by_cases hn : n = 0
  · rw [if_pos hn, if_pos hn]
  · rw [if_neg hn, if_neg hn, hhead]
    exact heapAllocLoop_eq (hs.list_spec .free).1 hnull hlength

/-- There is a place for `n` bytes and a header: an interval of the memory that meets no
block in use, headers included. -/
def Room (h : Heap) (n : Nat) : Prop :=
  ∃ a, a + sizeofHeapBlock + n ≤ h.size ∧
    ∀ x ∈ h.list .used, a + sizeofHeapBlock + n + sizeofHeapBlock ≤ x ∨ x + h.sizeOf x ≤ a

/-- A free block that is large enough is room. -/
theorem Sound.room_of_free (hs : Sound h s) {x : Nat} (hx : x ∈ h.list .free)
    (hlarge : n ≤ h.sizeOf x) : Room h n := by
  have hfits := hs.holds.fits
  obtain ⟨hblock, hfree⟩ := ((hs.list_spec .free).2.2 x).mp hx
  have hsize := hs.holds.size x hblock
  have hheader := hfits.header_le hblock
  have hend := hfits.le_total hblock
  refine ⟨x - sizeofHeapBlock, by omega, fun y hy => ?_⟩
  obtain ⟨hblock', hused⟩ := ((hs.list_spec .used).2.2 y).mp hy
  have hne : x ≠ y := fun heq => by
    rw [heq, hused] at hfree
    exact absurd hfree (by decide)
  have hapart := tiles_separate hfits.tiles hblock hblock' hne
  rw [hs.holds.size y hblock']
  omega

/-- **Room is in one free block**: the block after a free one is in use. -/
theorem Sound.free_of_room (hs : Sound h s) (hn : n ≠ 0) (hroom : Room h n) :
    ∃ x ∈ h.list .free, n ≤ h.sizeOf x := by
  obtain ⟨a, hmemory, hclear⟩ := hroom
  have hfits := hs.holds.fits
  have hnotUsed : ∀ {y}, y ∈ s.blocks → y < a + sizeofHeapBlock + n + sizeofHeapBlock →
      a < y + s.size y → s.state y = .free := by
    intro y hy hbefore hbehind
    cases hstate : s.state y with
    | free => rfl
    | used =>
      have hapart := hclear y (((hs.list_spec .used).2.2 y).mpr ⟨hy, hstate⟩)
      rw [hs.holds.size y hy] at hapart
      omega
  obtain ⟨x, hx, hlo, hhi⟩ := tiles_cell hfits.tiles (Nat.zero_le a) (by omega : a < h.size)
  have hfree := hnotUsed hx (by omega) hhi
  refine ⟨x, ((hs.list_spec .free).2.2 x).mpr ⟨hx, hfree⟩, ?_⟩
  rw [hs.holds.size x hx]
  by_contra hsmall
  -- the interval goes on into the next block
  obtain ⟨y, hy, hlo', hhi'⟩ := tiles_cell hfits.tiles (Nat.zero_le (x + s.size x))
    (by omega : x + s.size x < h.size)
  have hne : x ≠ y := fun heq => by
    rw [heq] at hhi'
    exact Nat.lt_irrefl _ hhi'
  have hapart := tiles_separate hfits.tiles hx hy hne
  have hnext : x + s.size x + sizeofHeapBlock = y := by omega
  exact hs.coalesced x y ⟨hx, hy, hfree, hnotUsed hy (by omega) (by omega), hnext⟩

/-- A request is granted exactly if there is room. -/
theorem Sound.alloc_ne_zero_iff (hs : Sound h s) (hn : n ≠ 0) :
    (heapAlloc h n).1 ≠ 0 ↔ Room h n := by
  have hfound : Room h n ↔ ∃ x ∈ h.list .free, n ≤ h.sizeOf x :=
    ⟨hs.free_of_room hn, fun ⟨x, hx, hlarge⟩ => hs.room_of_free hx hlarge⟩
  rw [hs.alloc_firstFit, if_neg hn, hfound]
  cases hfit : firstFit h n with
  | none =>
    have hnone := List.find?_eq_none.mp hfit
    refine iff_of_false (fun hne => hne rfl) ?_
    rintro ⟨x, hx, hlarge⟩
    exact hnone x hx (by simpa using hlarge)
  | some x =>
    have hx := List.mem_of_find?_eq_some hfit
    have hlarge := List.find?_some hfit
    refine iff_of_true ?_ ⟨x, hx, by simpa using hlarge⟩
    have hheader := hs.holds.fits.header_le (((hs.list_spec .free).2.2 x).mp hx).1
    unfold Heap.pointer
    unfold sizeofHeapBlock at hheader
    show h.memory + x ≠ 0
    omega

/-- The same for an aligned block, behind its gap. -/
theorem Sound.allocAligned_firstFit (hs : Sound h s) (hpos : 0 < alignment)
    (hpage : alignment ≤ pageSize) :
    heapAllocAlignedLoop n alignment h.size h.freeList h
      = match (h.list .free).find? (fun x => heapGap h alignment x + n ≤ h.sizeOf x) with
        | none => (0, h)
        | some x => (h.pointer (x + heapGap h alignment x),
            heappSplit (heappAlign h x (x + heapGap h alignment x))
              (x + heapGap h alignment x) n) := by
  obtain ⟨hhead, hnull, hlength⟩ := hs.freeList_eq
  obtain ⟨hlinked, -, hmem⟩ := hs.list_spec .free
  rw [hhead]
  exact heapAllocAlignedLoop_eq hs.holds hpos hpage hs.room hlinked
    (fun x hx => ((hmem x).mp hx).1) hnull hlength

/-! ## A heap that nothing is allocated from -/

/-- One free block, and no other. -/
structure Drained (h : Heap) : Prop where
  free : h.list .free = [start]
  size : h.sizeOf start = h.size - sizeofHeapBlock
  first : h.pprev start = 0

theorem Sound.drained (hs : Sound h s) (hused : h.list .used = []) : Drained h := by
  have hwf := hs.wellFormed
  obtain ⟨hblocks, hstate, hsize⟩ := hwf.whole hused
  refine ⟨?_, hsize, ?_⟩
  · have hone : [Mem.start].Nodup := List.nodup_singleton Mem.start
    refine List.perm_singleton.mp ((List.perm_ext_iff_of_nodup (hwf.nodup .free) hone).mpr
      fun x => ?_)
    rw [hwf.mem .free x, hblocks, List.mem_singleton]
    refine ⟨And.left, fun hx => ⟨hx, ?_⟩⟩
    rw [hx]
    exact hstate
  · have hphysical := hwf.physical
    rw [hblocks] at hphysical
    exact hphysical.1

/-- The growth of a gap is a matter of numbers. -/
theorem heapGrowGap_fst (h h' : Heap) (alignment fuel gap aligned : Nat) :
    (heapGrowGap alignment fuel gap aligned h).1
      = (heapGrowGap alignment fuel gap aligned h').1 := by
  induction fuel generalizing gap aligned h h' with
  | zero => rfl
  | succ fuel ih =>
    unfold heapGrowGap
    by_cases hsmall : gap < sizeofHeapBlock + minimalFreeBlockSize
    · rw [if_pos hsmall, if_pos hsmall]
      exact ih _ _ _ _
    · rw [if_neg hsmall, if_neg hsmall]

/-- What is asked for, and answered. -/
theorem Drained.alloc (hd : Drained h) (hs : Sound h s) (n : Nat) :
    (heapAlloc h n).1 = if n = 0 ∨ h.size - sizeofHeapBlock < n then 0 else h.pointer start := by
  rw [hs.alloc_firstFit, firstFit, hd.free]
  by_cases hn : n = 0
  · rw [if_pos hn, if_pos (Or.inl hn)]
  · rw [if_neg hn, List.find?_cons, List.find?_nil, hd.size]
    by_cases hle : n ≤ h.size - sizeofHeapBlock
    · rw [decide_eq_true hle, if_neg (by omega)]
    · rw [decide_eq_false hle, if_pos (by omega)]

/-- Two heaps that nothing is allocated from, of the same memory, align alike. -/
theorem Drained.allocAligned {s' : Shape} (hd : Drained h) (hs : Sound h s) (hd' : Drained h')
    (hs' : Sound h' s') (hsize : h'.size = h.size) (hmemory : h'.memory = h.memory)
    (hpage : alignment ≤ pageSize) :
    (heapAllocAligned h' n alignment).1 = (heapAllocAligned h n alignment).1 := by
  have hgap : heapGap h' alignment start = heapGap h alignment start := by
    unfold heapGap
    rw [if_pos hd.first, if_pos hd'.first]
    exact heapGrowGap_fst _ _ _ _ _ _
  unfold heapAllocAligned
  by_cases hn : n = 0
  · rw [if_pos hn, if_pos hn]
  rw [if_neg hn, if_neg hn]
  by_cases hpower : alignment = 0 ∨ alignment &&& (alignment - 1) ≠ 0
  · rw [if_pos hpower, if_pos hpower]
  rw [if_neg hpower, if_neg hpower]
  have hpos : 0 < alignment := Nat.pos_of_ne_zero fun hzero => hpower (Or.inl hzero)
  rw [hs.allocAligned_firstFit hpos hpage, hs'.allocAligned_firstFit hpos hpage, hd.free, hd'.free,
    List.find?_cons, List.find?_cons, List.find?_nil, hd.size, hd'.size, hgap, hsize]
  by_cases hle : heapGap h alignment start + n ≤ h.size - sizeofHeapBlock
  · simp only [decide_eq_true hle, hgap, Heap.pointer, hmemory]
  · simp only [decide_eq_false hle, List.find?_nil]

/-- **All requests.** -/
theorem Drained.returned_eq {s' : Shape} (hd : Drained h) (hs : Sound h s) (hd' : Drained h')
    (hs' : Sound h' s') (hsize : h'.size = h.size) (hmemory : h'.memory = h.memory) {op : HeapOp}
    (hlegal : Legal h' op) : returned h' op = returned h op := by
  have halloc : ∀ n, (heapAlloc h' n).1 = (heapAlloc h n).1 := by
    intro n
    rw [hd.alloc hs, hd'.alloc hs', hsize, Heap.pointer, Heap.pointer, hmemory]
  cases op with
  | alloc numberOfBytes => exact halloc _
  | allocAligned numberOfBytes alignment =>
    exact hd.allocAligned hs hd' hs' hsize hmemory hlegal.2
  | allocArray numberOfElements elementSize =>
    show (heapAllocArray h' _ _).1 = (heapAllocArray h _ _).1
    rw [heapAllocArray_fst, heapAllocArray_fst]
    exact halloc _
  | free | freeSecure | write => rfl

end FirstFit

/-! ## Every run -/

section Runs

variable {arena : Nat} {contents : Mem} {size : UInt32} {h : Heap} {ops : List HeapOp}

/-- Nothing is allocated from a new heap. -/
theorem heapCreate_used (hcreate : heapCreate arena contents size.toNat = some h) :
    h.list .used = [] := by
  unfold heapCreate at hcreate
  split at hcreate
  next => exact absurd hcreate (by simp)
  next =>
    rw [← Option.some.inj hcreate]
    have hwalk : ∀ (next : Nat → Nat) fuel, Links.walk next 0 fuel 0 = [] := by
      intro next fuel
      cases fuel with
      | zero | succ fuel => rfl
    exact hwalk _ _

/-- What a legal run from `HeapCreate` keeps. -/
theorem reachable_always {P : Heap → Prop}
    (hP : ∀ h' s, Sound h' s → h'.memory = h.memory → h'.size = h.size → P h')
    (hcreate : heapCreate arena contents size.toNat = some h)
    (hlegal : Throughout heapStep Legal h ops) : Always heapStep P h ops := by
  refine @Throughout.always _ _ heapStep P
    (fun h' => (∃ s, Sound h' s) ∧ h'.memory = h.memory ∧ h'.size = h.size) (fun _ => True) Legal
    ?_ ?_ ops h ⟨(heapCreate_sound hcreate).1, rfl, rfl⟩ (fun _ _ => trivial) hlegal
  · intro h' hinv
    obtain ⟨⟨s, hs⟩, hmemory, hsize⟩ := hinv
    exact hP h' s hs hmemory hsize
  · intro h' op h'' hinv _ hop hstep
    obtain ⟨⟨s, hs⟩, hmemory, hsize⟩ := hinv
    obtain ⟨s', hsteps⟩ := hs.step hop
    rw [← Option.some.inj hstep]
    exact ⟨⟨s', hsteps.sound⟩, hsteps.memory.trans hmemory, hsteps.size.trans hsize⟩

/-- **`HeapAlloc` fails only if there is no room**, in every state of every legal run:
between the blocks in use, wherever they are, the memory then has no place for the block
that is asked for and a header. -/
theorem heapAlloc_succeeds_iff (hcreate : heapCreate arena contents size.toNat = some h)
    (hlegal : Throughout heapStep Legal h ops) :
    Always heapStep (fun h' => ∀ n, n ≠ 0 → ((heapAlloc h' n).1 ≠ 0 ↔ Room h' n)) h ops :=
  reachable_always (fun _ _ hs _ _ _ hn => hs.alloc_ne_zero_iff hn) hcreate hlegal

/-- A page and a small block are allocated, and the page is freed. -/
theorem heapAlloc_succeeds_session : ∃ h,
    heapCreate 4096 (fun _ => 0) (65536 : UInt32).toNat = some h ∧
    Always heapStep (fun h' => ∀ n, n ≠ 0 → ((heapAlloc h' n).1 ≠ 0 ↔ Room h' n)) h
      [.alloc 4096, .alloc 100, .free 8216] :=
  ⟨_, rfl, @heapAlloc_succeeds_iff 4096 (fun _ => 0) 65536 _ _ rfl
    (throughout_cons trivial
      (throughout_cons trivial
        (throughout_cons ⟨24, by decide +kernel, by decide +kernel⟩ trivial)))⟩

/-- **A heap that all was freed from is like a new one**: whatever was allocated, freed and
written before, each request gets the pointer that it would get from a new heap, or NULL where
that would refuse. That the used list is empty once all blocks are freed is `Sound.free`: each
free takes its own block from it. -/
theorem drained_likeNew (hcreate : heapCreate arena contents size.toNat = some h)
    (hlegal : Throughout heapStep Legal h ops) :
    Always heapStep (fun h' => h'.list .used = [] →
      ∀ op, Legal h' op → returned h' op = returned h op) h ops := by
  obtain ⟨⟨s₀, hs₀⟩, -⟩ := heapCreate_sound hcreate
  refine reachable_always (fun h' s hs hmemory hsize hused op hop => ?_) hcreate hlegal
  exact (hs₀.drained (heapCreate_used hcreate)).returned_eq hs₀ (hs.drained hused) hs hsize hmemory
    hop

/-- A page-sized block and a small one, freed in the order they were allocated. -/
theorem drained_likeNew_session : ∃ h,
    heapCreate 4096 (fun _ => 0) (65536 : UInt32).toNat = some h ∧
    Always heapStep (fun h' => h'.list .used = [] →
        ∀ op, Legal h' op → returned h' op = returned h op) h
      [.alloc 4096, .alloc 100, .free 8216, .free 12336] :=
  ⟨_, rfl, @drained_likeNew 4096 (fun _ => 0) 65536 _ _ rfl
    (throughout_cons trivial
      (throughout_cons trivial
        (throughout_cons ⟨24, by decide +kernel, by decide +kernel⟩
          (throughout_cons ⟨4144, by decide +kernel, by decide +kernel⟩ trivial))))⟩

end Runs

end DeepShield.Mem
