import DeepShield.Lib.Runs
import DeepShield.Mem.Release

/-!
# Runs of the heap

A run is any sequence of the calls of `mem.c` and of writes by the program that uses
the heap, from `HeapCreate` on. The program keeps to the rules (`Legal`): it frees only
what is in use, aligns to powers of two of at most a page, and writes only inside
blocks in use; `HeapFreeSecure` may get any pointer.

Main results:

* `heap_wellFormed`: in every state of such a run, walking the physical chain and the
  two lists finds blocks that tile the memory, each on the list its state says, no two
  free ones next to each other;
* `alloc_contract`: what `HeapAlloc` and `HeapAllocAligned` return is inside the memory,
  aligned, and apart from everything else, and stays so with its bytes untouched by
  others until it is freed; and nothing on the way wraps.
-/

namespace DeepShield.Mem

open DeepShield.Lib

namespace Heap

/-- The blocks met on the physical chain from `START` on. -/
def blocks (h : Heap) : List Nat := Links.walk h.pnext 0 h.size start

/-- The blocks met on a list. -/
def list (h : Heap) (i : HeapList) : List Nat := Links.walk h.vnext 0 h.size (h.head i)

/-- What a heap is between calls. -/
structure WellFormed (h : Heap) : Prop where
  /-- The blocks fill the memory, each behind its header. -/
  tiles : Tiles sizeofHeapBlock h.sizeOf 0 h.blocks h.size
  /-- `PPREV` undoes `PNEXT`. -/
  physical : (⟨h.pnext, h.pprev⟩ : Links Nat).Linked 0 h.blocks 0
  /-- `VPREV` undoes `VNEXT`. -/
  virtual : ∀ i, (⟨h.vnext, h.vprev⟩ : Links Nat).Linked 0 (h.list i) 0
  /-- The lists have no cycle. -/
  nodup : ∀ i, (h.list i).Nodup
  /-- A list has the blocks in its state. -/
  mem : ∀ i x, x ∈ h.list i ↔ x ∈ h.blocks ∧ h.state x = i.code
  /-- There is no other state. -/
  state : ∀ x ∈ h.blocks, h.state x = heapBlockFree ∨ h.state x = heapBlockUsed
  /-- No free block follows another. -/
  coalesced : ∀ x ∈ h.blocks, h.state x = heapBlockFree → h.pnext x ≠ 0 →
    h.state (h.pnext x) ≠ heapBlockFree
  /-- A heap that nothing is allocated from is one free block. -/
  whole : h.list .used = [] →
    h.blocks = [start] ∧ h.state start = heapBlockFree ∧ h.sizeOf start = h.size - sizeofHeapBlock

end Heap

/-- What the program may do. -/
def Legal (h : Heap) : HeapOp → Prop
  | .alloc _ => True
  | .allocAligned _ alignment => (∃ k, alignment.toNat = 2 ^ k) ∧ alignment.toNat ≤ pageSize
  | .allocArray _ _ => True
  | .free memory => ∃ x ∈ h.list .used, memory = h.pointer x
  | .freeSecure _ => True
  | .write pointer bytes => ∃ x ∈ h.list .used,
      h.pointer x ≤ pointer ∧ pointer + bytes.length ≤ h.pointer x + h.sizeOf x

/-- The calls that free the block of a pointer. -/
def Frees (h : Heap) (pointer : Nat) : HeapOp → Prop
  | .free memory => memory = pointer
  | .freeSecure memory => pointer ≤ memory ∧ memory < pointer + h.sizeOf (h.offset pointer)
  | _ => False

/-- The writes to a byte. -/
def Writes (h : Heap) (a : Nat) : HeapOp → Prop
  | .write pointer bytes => h.offset pointer ≤ a ∧ a < h.offset pointer + bytes.length
  | _ => False

/-! ## Between calls -/

/-- A heap with a shape whose free blocks are not neighbours. `HeapCreate` leaves a page
out, so offsets are further from 32 bits than an alignment. -/
structure Sound (h : Heap) (s : Shape) : Prop where
  holds : Holds h s []
  coalesced : s.Coalesced
  room : h.size + pageSize < 2 ^ 32
  positive : 0 < h.size

section Sound

variable {h : Heap} {s : Shape} {x : Nat}

theorem Sound.blocks_eq (hs : Sound h s) : h.blocks = s.blocks := by
  have hfits := hs.holds.fits
  have hlength := tiles_length hfits.tiles
  unfold sizeofHeapBlock at hlength
  have hwalk := hs.holds.physical.walk_eq hfits.nonnull
    (by omega : s.blocks.length ≤ h.size)
  have hhead : s.blocks.headD 0 = start := by
    have htiles := hfits.tiles
    cases hblocks : s.blocks with
    | nil =>
      rw [hblocks] at htiles
      exact absurd htiles (Nat.ne_of_lt hs.positive)
    | cons y l =>
      rw [hblocks] at htiles
      exact htiles.1
  rw [hhead] at hwalk
  exact hwalk

/-- A walk along a list finds the blocks on it. -/
theorem Sound.list_spec (hs : Sound h s) (i : HeapList) :
    h.records.virtual.links.Linked 0 (h.list i) 0 ∧ (h.list i).Nodup ∧
      ∀ x, x ∈ h.list i ↔ x ∈ s.blocks ∧ s.state x = i := by
  obtain ⟨lists, hhold, hmem⟩ := hs.holds.virtual
  have hsub : lists i ⊆ s.blocks := fun x hx => ((hmem i x).mp hx).1
  have hlength := List.Nodup.length_le_of_subset (hhold.nodup i) hsub
  have htiles := tiles_length hs.holds.fits.tiles
  unfold sizeofHeapBlock at htiles
  have hwalk := (hhold.linked i).walk_eq (hhold.nonnull i)
    (by omega : (lists i).length ≤ h.size)
  rw [← hhold.head i] at hwalk
  have hlist : h.list i = lists i := hwalk
  rw [hlist]
  refine ⟨hhold.linked i, hhold.nodup i, fun x => ?_⟩
  rw [hmem i x]
  simp

theorem Sound.live_iff (hs : Sound h s) : x ∈ h.list .used ↔ s.Live x :=
  (hs.list_spec .used).2.2 x

/-- The successor of a block starts where it ends. -/
theorem Sound.pnext_eq (hs : Sound h s) (hx : x ∈ s.blocks) (hnext : h.pnext x ≠ 0) :
    h.pnext x = x + s.size x + sizeofHeapBlock := by
  obtain ⟨l₁, l₂, hblocks⟩ := List.append_of_mem hx
  have hpnext := hs.holds.pnext_eq hblocks
  obtain ⟨_, _, _, hrest⟩ := tiles_around (hblocks ▸ hs.holds.fits.tiles)
  cases l₂ with
  | nil => exact absurd hpnext hnext
  | cons y l₂ =>
    rw [hpnext]
    exact hrest.1

theorem Sound.wellFormed (hs : Sound h s) : h.WellFormed := by
  have hfits := hs.holds.fits
  have hblocks := hs.blocks_eq
  refine ⟨?_, ?_, fun i => (hs.list_spec i).1, fun i => (hs.list_spec i).2.1, ?_, ?_, ?_, ?_⟩
  · rw [hblocks]
    exact hfits.tiles.congr hs.holds.size
  · rw [hblocks]
    exact hs.holds.physical
  · intro i x
    rw [(hs.list_spec i).2.2 x, hblocks]
    refine and_congr_right fun hx => ?_
    rw [hs.holds.state x hx]
    exact ⟨fun heq => by rw [heq], fun heq => HeapList.code_inj heq⟩
  · intro x hx
    rw [hblocks] at hx
    rw [hs.holds.state x hx]
    cases s.state x with
    | free => exact Or.inl rfl
    | used => exact Or.inr rfl
  · intro x hx hfree hnext hfree'
    rw [hblocks] at hx
    have hmem : h.pnext x ∈ s.blocks := (hs.holds.physical.next_mem hx).resolve_left hnext
    rw [hs.holds.state x hx] at hfree
    rw [hs.holds.state _ hmem] at hfree'
    exact hs.coalesced x _ ⟨hx, hmem, HeapList.code_inj hfree, HeapList.code_inj hfree',
      (hs.pnext_eq hx hnext).symm⟩
  · intro hnone
    have hfree : ∀ x ∈ s.blocks, s.state x = .free := by
      intro x hx
      cases hstate : s.state x with
      | free => rfl
      | used =>
        have hlive := hs.live_iff.mpr ⟨hx, hstate⟩
        rw [hnone] at hlive
        exact absurd hlive (by simp)
    have htiles := hfits.tiles
    rw [hblocks]
    cases hlist : s.blocks with
    | nil =>
      rw [hlist] at htiles
      exact absurd htiles (Nat.ne_of_lt hs.positive)
    | cons x l =>
      rw [hlist] at htiles
      have hmem : x ∈ s.blocks := by simp [hlist]
      have hx : x = start := htiles.1
      cases l with
      | nil =>
        have hend : x + s.size x = h.size := htiles.2
        refine ⟨by rw [hx], ?_, ?_⟩
        · rw [← hx, hs.holds.state x hmem, hfree x hmem]
          rfl
        · rw [← hx, hs.holds.size x hmem]
          unfold start at hx
          omega
      | cons y l =>
        have hmem' : y ∈ s.blocks := by simp [hlist]
        exact absurd ⟨hmem, hmem', hfree x hmem, hfree y hmem', htiles.2.1.symm⟩
          (hs.coalesced x y)

/-- The shape of a heap that nothing is allocated from. -/
def createdShape (total : Nat) : Shape where
  blocks := [start]
  state _ := .free
  size _ := total - sizeofHeapBlock

/-- The two lists then. -/
def createdLists : HeapList → List Nat
  | .free => [start]
  | .used => []

/-- The header that `HeapCreate` writes. -/
theorem created_holds {g : Heap} (hsize : sizeofHeapBlock < g.size) (hfits : g.size < 2 ^ 32)
    (hfree : g.freeList = start) (hused : g.usedList = 0) :
    Holds ((((((g.set .size start (g.size - sizeofHeapBlock)).set .state start
      heapBlockFree).set .pnext start 0).set .pprev start 0).set .vnext start 0).set .vprev
        start 0) (createdShape g.size) [] := by
  have hsep : Separated (fun _ => False) [start] := by
    refine ⟨?_, ?_, fun _ _ _ hk => hk.elim⟩
    · intro x hx
      rw [List.mem_singleton.mp hx]
      decide
    · intro x hx y hy hne
      rw [List.mem_singleton.mp hx, List.mem_singleton.mp hy] at hne
      exact absurd rfl hne
  have hstart : start ∈ [start] := List.mem_singleton.mpr rfl
  have hzero : 0 < 2 ^ 32 := by decide
  have hview := ((((((View.start g (fun _ => False) [start]).set hsep hstart
    (by omega : g.size - sizeofHeapBlock < 2 ^ 32) .size).set hsep hstart hzero .state).set hsep
      hstart hzero .pnext).set hsep hstart hzero .pprev).set hsep hstart hzero .vnext).set hsep
        hstart hzero .vprev
  have hfield := hview.fields start hstart
  simp only [Records.get_set] at hfield
  refine ⟨⟨⟨rfl, ?_⟩, ?_, hfits⟩, ?_, ?_, ?_, createdLists, ?_, ?_⟩
  · show start + (g.size - sizeofHeapBlock) = g.size
    unfold start
    omega
  · intro x _
    exact Nat.sub_pos_of_lt hsize
  · intro x hx
    rw [List.mem_singleton.mp hx]
    exact (hfield .state).trans (by simp; rfl)
  · intro x hx
    rw [List.mem_singleton.mp hx]
    exact (hfield .size).trans (by simp; rfl)
  · refine ⟨?_, ?_, trivial⟩
    · exact (hfield .pprev).trans (by simp)
    · exact (hfield .pnext).trans (by simp)
  · refine ⟨?_, ?_, ?_, ?_, ?_⟩
    · intro i
      cases i with
      | used => trivial
      | free =>
        refine ⟨?_, ?_, trivial⟩
        · exact (hfield .vprev).trans (by simp)
        · exact (hfield .vnext).trans (by simp)
    · intro i
      cases i with
      | used => exact hused
      | free => exact hfree
    · intro i
      cases i <;> simp [createdLists]
    · intro i
      cases i <;> simp [createdLists, start, sizeofHeapBlock]
    · intro i j x hi hj
      cases i with
      | used => exact absurd hi List.not_mem_nil
      | free =>
        cases j with
        | used => exact absurd hj List.not_mem_nil
        | free => rfl
  · intro i x
    cases i with
    | used => simp [createdLists, createdShape]
    | free => simp [createdLists, createdShape]

/-- `HeapCreate` makes one free block. -/
theorem heapCreate_sound {arena : Nat} {contents : Mem} {size : UInt32}
    (hcreate : heapCreate arena contents size.toNat = some h) :
    (∃ s, Sound h s) ∧ h.memory = arena + pageSize ∧ h.wrapped = false := by
  unfold heapCreate at hcreate
  split at hcreate
  next => exact absurd hcreate (by simp)
  next hlarge =>
    have hsize := size.toNat_lt
    unfold pageSize at hlarge hcreate ⊢
    have heq := Option.some.inj hcreate
    have hholds := @created_holds
      { memory := arena + 4096
        mem := contents
        size := size.toNat - 4096
        freeList := start
        usedList := 0
        wrapped := false }
      (by show 24 < size.toNat - 4096; omega) (by show size.toNat - 4096 < 2 ^ 32; omega) rfl rfl
    rw [← heq]
    refine ⟨⟨_, hholds, ?_, ?_, ?_⟩, rfl, rfl⟩
    · intro x y hpair
      have hx := List.mem_singleton.mp hpair.mem
      have hy := List.mem_singleton.mp hpair.mem'
      have hnext := hpair.eq
      rw [hx, hy] at hnext
      unfold sizeofHeapBlock at hnext
      omega
    · show size.toNat - 4096 + pageSize < 2 ^ 32
      unfold pageSize
      omega
    · show 0 < size.toNat - 4096
      omega

end Sound

/-! ## One call -/

/-- What a call does to a heap that has the shape `s`. -/
structure Steps (h : Heap) (s : Shape) (op : HeapOp) (h' : Heap) (s' : Shape) : Prop where
  sound : Sound h' s'
  keeps : ∀ x, s.Live x → ¬ Frees h (h.pointer x) op → s'.Live x ∧ s.size x ≤ s'.size x
  bytes : ∀ x, s.Live x → ¬ Frees h (h.pointer x) op → ∀ a, x ≤ a → a < x + s.size x →
    ¬ Writes h a op → h'.mem a = h.mem a
  memory : h'.memory = h.memory
  size : h'.size = h.size
  wrapped : h'.wrapped = h.wrapped

section Step

variable {h h' : Heap} {s s' : Shape} {x n alignment : Nat} {op : HeapOp}

/-- The bytes that a call must leave alone. -/
def Untouched (h : Heap) (s : Shape) (op : HeapOp) (a : Nat) : Prop :=
  ∃ x, s.Live x ∧ ¬ Frees h (h.pointer x) op ∧ x ≤ a ∧ a < x + s.size x ∧ ¬ Writes h a op

theorem Sound.start (hs : Sound h s) (op : HeapOp) : Stage h (Untouched h s op) h s [] :=
  Stage.start hs.holds fun a ⟨x, hx, _, hlo, hhi, _⟩ => ⟨x, hx.1, by simp, hx.2, hlo, hhi⟩

/-- A stage that ends the call. -/
theorem Sound.steps (hs : Sound h s) (hstage : Stage h (Untouched h s op) h' s' [])
    (hc : s'.Coalesced)
    (hkeeps : ∀ x, s.Live x → ¬ Frees h (h.pointer x) op → s'.Live x ∧ s.size x ≤ s'.size x) :
    Steps h s op h' s' where
  sound := by
    refine ⟨hstage.holds, hc, ?_, ?_⟩
    · rw [hstage.total]
      exact hs.room
    · rw [hstage.total]
      exact hs.positive
  keeps := hkeeps
  bytes x hx hfrees a hlo hhi hwrites := hstage.kept a ⟨x, hx, hfrees, hlo, hhi, hwrites⟩
  memory := hstage.memory
  size := hstage.total
  wrapped := hstage.wrapped

/-- A call that does nothing. -/
theorem Sound.steps_self (hs : Sound h s) (op : HeapOp) : Steps h s op h s :=
  hs.steps (hs.start op) hs.coalesced fun _ hx _ => ⟨hx, Nat.le_refl _⟩

/-- An allocation. -/
theorem Sound.allocation (hs : Sound h s) {result : Nat × Heap}
    (hresult : Allocation h h (Untouched h s op) s n alignment result) :
    ∃ s', Steps h s op result.2 s' ∧ (result.1 ≠ 0 → ∃ x, result.1 = h.pointer x ∧
      alignment ∣ x ∧ ¬ s.Live x ∧ s'.Live x ∧ n ≤ s'.size x) := by
  rcases hresult with hnull | ⟨x, s', hpointer, hdvd, hstage, hgrants⟩
  · rw [hnull]
    exact ⟨s, hs.steps_self op, fun hne => absurd rfl hne⟩
  · exact ⟨s', hs.steps hstage hgrants.coalesced fun y hy _ => hgrants.keeps y hy,
      fun _ => ⟨x, hpointer, hdvd, hgrants.fresh, hgrants.live, hgrants.size⟩⟩

/-- Writing into a live block. -/
theorem Sound.write (hs : Sound h s) (hx : s.Live x) {a : Nat} {bytes : List UInt8}
    (hlo : x ≤ a) (hhi : a + bytes.length ≤ x + s.size x)
    (hkept : ∀ i, Untouched h s op i → i < a ∨ a + bytes.length ≤ i) :
    Steps h s op { h with mem := writeBytes h.mem a bytes } s :=
  hs.steps ((hs.start op).fill hx.1 hlo hhi hkept) hs.coalesced
    fun _ hy _ => ⟨hy, Nat.le_refl _⟩

/-- `HeapFreeSecure` frees the block that a pointer is in. -/
theorem Sound.frees_secure_iff (hs : Sound h s) (hx : s.Live x) {memory : Nat} :
    Frees h (h.pointer x) (.freeSecure memory) ↔
      h.pointer x ≤ memory ∧ memory < h.pointer x + s.size x := by
  have hbound := hs.holds.fits.le_total hx.1
  have hroom := hs.room
  rw [Frees, offset_pointer (by omega), hs.holds.size x hx.1]

/-- `HeapAllocArray` returns what `HeapAlloc` does. -/
theorem heapAllocArray_fst (h : Heap) (numberOfElements elementSize : Nat) :
    (heapAllocArray h numberOfElements elementSize).1
      = (heapAlloc h (numberOfElements * elementSize % 2 ^ 32)).1 := by
  unfold heapAllocArray
  dsimp only
  split
  next => rfl
  next => rfl

/-- **`HeapAllocArray`** zeroes what it got. -/
theorem Sound.allocArray (hs : Sound h s) {numberOfElements elementSize : Nat}
    (hresult : Allocation h h (Untouched h s op) s (numberOfElements * elementSize % 2 ^ 32)
      alignment (heapAlloc h (numberOfElements * elementSize % 2 ^ 32))) :
    ∃ s', Steps h s op (heapAllocArray h numberOfElements elementSize).2 s' ∧
      ((heapAllocArray h numberOfElements elementSize).1 ≠ 0 → ∃ x,
        (heapAllocArray h numberOfElements elementSize).1 = h.pointer x ∧ s'.Live x ∧
        numberOfElements * elementSize % 2 ^ 32 ≤ s'.size x ∧
        ∀ i < numberOfElements * elementSize % 2 ^ 32,
          (heapAllocArray h numberOfElements elementSize).2.mem (x + i) = 0) := by
  rw [heapAllocArray_fst]
  unfold heapAllocArray
  dsimp only
  rcases hresult with hnull | ⟨x, s', hpointer, -, hstage, hgrants⟩
  · rw [hnull]
    exact ⟨s, hs.steps_self op, fun hne => absurd rfl hne⟩
  · refine ⟨s', ?_⟩
    have hheader := hstage.fits.header_le hgrants.live.1
    have hbound := hstage.fits.le_total hgrants.live.1
    have hbounded := hstage.fits.bounded
    have hsize := hgrants.size
    have hoffset : (heapAlloc h (numberOfElements * elementSize % 2 ^ 32)).2.offset
        (heapAlloc h (numberOfElements * elementSize % 2 ^ 32)).1 = x := by
      rw [hpointer, Heap.pointer, ← hstage.memory]
      exact offset_pointer (by omega)
    have hnonnull : (heapAlloc h (numberOfElements * elementSize % 2 ^ 32)).1 ≠ 0 := by
      rw [hpointer, Heap.pointer]
      unfold sizeofHeapBlock at hheader
      omega
    rw [if_pos hnonnull, hoffset]
    refine ⟨?_, fun _ => ⟨x, hpointer, hgrants.live, hsize, fun i hi => ?_⟩⟩
    · refine hs.steps (hstage.fill hgrants.live.1 (Nat.le_refl x) ?_ ?_) hgrants.coalesced
        fun y hy _ => hgrants.keeps y hy
      · rw [List.length_replicate]
        omega
      · intro i huntouched
        obtain ⟨y, hy, _, hlo, hhi, _⟩ := huntouched
        obtain ⟨hlive, hle⟩ := hgrants.keeps y hy
        have hne : x ≠ y := fun heq => hgrants.fresh (heq ▸ hy)
        have hapart := tiles_separate hstage.fits.tiles hgrants.live.1 hlive.1 hne
        rw [List.length_replicate]
        omega
    · exact zeroBytes_in (Nat.le_add_right x i) (Nat.add_lt_add_left hi x)

/-- **`HeapFree`** of a live pointer. -/
theorem Sound.free (hs : Sound h s) (hx : s.Live x) :
    ∃ s' q, Steps h s (.free (h.pointer x)) (heapFree h (h.pointer x)) s' ∧
      Freed s x false (heapFree h (h.pointer x)) s' q ∧
      (s.Open (h.pprev x) → q = h.pprev x) ∧ (¬ s.Open (h.pprev x) → q = x) := by
  rw [heapFree_pointer hs.holds hx.1 rfl rfl]
  obtain ⟨s', q, hstage, hfreed, hq, -⟩ :=
    (hs.start (.free (h.pointer x))).free hs.coalesced hx (by
      intro a ⟨y, hy, hfrees, hlo, hhi, _⟩
      have hne : x ≠ y := fun heq => hfrees (by rw [heq]; rfl)
      have hapart := tiles_separate hs.holds.fits.tiles hx.1 hy.1 hne
      omega) false
  refine ⟨s', q, hs.steps hstage hfreed.releases.coalesced fun y hy hfrees => ?_, hfreed, hq⟩
  exact hfreed.releases.keeps y hy (fun heq => hfrees (by rw [heq]; rfl))

/-- **`HeapFreeSecure`** of an address in a live block. -/
theorem Sound.freeSecure (hs : Sound h s) {address : Nat} (hx : s.Live x)
    (hlies : Lies h s x address) :
    ∃ s' q, Steps h s (.freeSecure address) (heappFree h x true) s' ∧
      Freed s x true (heappFree h x true) s' q ∧
      ∀ a, x ≤ a → a < x + s.size x → (heappFree h x true).mem a = 0 := by
  obtain ⟨s', q, hstage, hfreed, -, hzero⟩ :=
    (hs.start (.freeSecure address)).free hs.coalesced hx (by
      intro a ⟨y, hy, hfrees, hlo, hhi, _⟩
      have hne : x ≠ y := fun heq => hfrees ((hs.frees_secure_iff hy).mpr (heq ▸ hlies))
      have hapart := tiles_separate hs.holds.fits.tiles hx.1 hy.1 hne
      omega) true
  refine ⟨s', q, hs.steps hstage hfreed.releases.coalesced fun y hy hfrees => ?_, hfreed,
    hzero rfl⟩
  exact hfreed.releases.keeps y hy
    (fun heq => hfrees ((hs.frees_secure_iff hy).mpr (heq ▸ hlies)))

/-- **One call** of a legal run. -/
theorem Sound.step (hs : Sound h s) (hlegal : Legal h op) :
    ∃ s', Steps h s op (heapOp h op) s' := by
  have hstart := hs.start op
  cases op with
  | alloc numberOfBytes =>
    obtain ⟨s', hsteps, -⟩ := hs.allocation (hstart.alloc hs.coalesced)
    exact ⟨s', hsteps⟩
  | allocAligned numberOfBytes alignment =>
    obtain ⟨s', hsteps, -⟩ := hs.allocation
      (hstart.allocAligned hs.coalesced hlegal.2 hs.room)
    exact ⟨s', hsteps⟩
  | allocArray numberOfElements elementSize =>
    obtain ⟨s', hsteps, -⟩ := hs.allocArray (hstart.alloc hs.coalesced)
    exact ⟨s', hsteps⟩
  | free memory =>
    obtain ⟨x, hx, rfl⟩ := hlegal
    obtain ⟨s', q, hsteps, -⟩ := hs.free (hs.live_iff.mp hx)
    exact ⟨s', hsteps⟩
  | freeSecure memory =>
    show ∃ s', Steps h s (.freeSecure memory) (heapFreeSecure h memory) s'
    rcases heapFreeSecure_eq hs.holds memory with ⟨hsame, -⟩ | ⟨x, hx, hlies, heq⟩
    · rw [hsame]
      exact ⟨s, hs.steps_self _⟩
    · obtain ⟨s', q, hsteps, -⟩ := hs.freeSecure hx hlies
      rw [heq]
      exact ⟨s', hsteps⟩
  | write pointer bytes =>
    obtain ⟨x, hx, hlo, hhi⟩ := hlegal
    have hlive := hs.live_iff.mp hx
    have hbound := hs.holds.fits.le_total hlive.1
    have hroom := hs.room
    rw [hs.holds.size x hlive.1] at hhi
    unfold Heap.pointer at hlo hhi
    have hoffset : h.offset pointer = pointer - h.memory := Nat.mod_eq_of_lt (by omega)
    refine ⟨s, hs.write hlive (by omega) (by omega) fun i ⟨_, _, _, _, _, hwrites⟩ => ?_⟩
    have hout : ¬ (h.offset pointer ≤ i ∧ i < h.offset pointer + bytes.length) := hwrites
    omega

end Step

/-! ## Runs -/

/-- **A legal run** leaves a sound heap where it was, and as large. -/
theorem Sound.run {h : Heap} {s : Shape} {ops : List HeapOp} (hs : Sound h s)
    (hlegal : Throughout heapStep Legal h ops) :
    ∃ s', Sound (ops.foldl heapOp h) s' ∧ (ops.foldl heapOp h).memory = h.memory ∧
      (ops.foldl heapOp h).wrapped = h.wrapped ∧ (ops.foldl heapOp h).size = h.size := by
  induction ops generalizing h s with
  | nil => exact ⟨s, hs, rfl, rfl, rfl⟩
  | cons op ops ih =>
    obtain ⟨s₁, hsteps⟩ := hs.step hlegal.1
    obtain ⟨s', hs', hmemory, hwrapped, hsize⟩ := ih hsteps.sound (hlegal.2 _ rfl)
    exact ⟨s', hs', hmemory.trans hsteps.memory, hwrapped.trans hsteps.wrapped,
      hsize.trans hsteps.size⟩

/-- Every call returns, so a run is a call and a run from the heap it leaves. -/
theorem throughout_cons {G : Heap → HeapOp → Prop} {h : Heap} {op : HeapOp} {ops : List HeapOp}
    (hop : G h op) (hops : Throughout heapStep G (heapOp h op) ops) :
    Throughout heapStep G h (op :: ops) :=
  ⟨hop, fun _ hstep => Option.some.inj hstep ▸ hops⟩

/-- A run in two parts. -/
theorem throughout_append {G : Heap → HeapOp → Prop} {h : Heap} {before after : List HeapOp}
    (hrun : Throughout heapStep G h (before ++ after)) :
    Throughout heapStep G h before ∧ Throughout heapStep G (before.foldl heapOp h) after := by
  induction before generalizing h with
  | nil => exact ⟨trivial, hrun⟩
  | cons op before ih =>
    obtain ⟨hbefore, hafter⟩ := ih (hrun.2 _ rfl)
    exact ⟨throughout_cons hrun.1 hbefore, hafter⟩

/-- A legal run from `HeapCreate` on leaves a sound heap. -/
theorem reachable_sound {arena : Nat} {contents : Mem} {size : UInt32} {h : Heap}
    {ops : List HeapOp} (hcreate : heapCreate arena contents size.toNat = some h)
    (hlegal : Throughout heapStep Legal h ops) : ∃ s, Sound (ops.foldl heapOp h) s := by
  obtain ⟨⟨s, hs⟩, -⟩ := heapCreate_sound hcreate
  obtain ⟨s', hs', -⟩ := hs.run hlegal
  exact ⟨s', hs'⟩

/-- **The heap keeps its form** in every legal run. Which blocks are in use after a call is
not part of the form: `Sound.free` and `Sound.freeSecure` (`Releases.gone`) say that a free takes
its own block, and no other, from those in use. -/
theorem heap_wellFormed {arena : Nat} {contents : Mem} {size : UInt32} {h : Heap}
    {ops : List HeapOp} (hcreate : heapCreate arena contents size.toNat = some h)
    (hlegal : Throughout heapStep Legal h ops) : Always heapStep Heap.WellFormed h ops := by
  refine @Throughout.always _ _ heapStep Heap.WellFormed (fun h => ∃ s, Sound h s)
    (fun _ => True) Legal ?_ ?_ ops h (heapCreate_sound hcreate).1 (fun _ _ => trivial) hlegal
  · intro h ⟨s, hs⟩
    exact hs.wellFormed
  · intro h op h' ⟨s, hs⟩ _ hop hstep
    obtain ⟨s', hsteps⟩ := hs.step hop
    rw [← Option.some.inj hstep]
    exact ⟨s', hsteps.sound⟩

/-- A block, an aligned one behind it that leaves a gap, and both freed again. -/
theorem heap_wellFormed_session : ∃ h,
    heapCreate 4096 (fun _ => 0) (65536 : UInt32).toNat = some h ∧
    Always heapStep Heap.WellFormed h
      [.alloc 100, .allocAligned 8 4096, .free 8216, .freeSecure 12290] :=
  ⟨_, rfl, @heap_wellFormed 4096 (fun _ => 0) 65536 _ _ rfl
    (throughout_cons trivial
      (throughout_cons ⟨⟨12, rfl⟩, by decide⟩
        (throughout_cons ⟨24, by decide +kernel, by decide +kernel⟩
          (throughout_cons trivial trivial))))⟩

/-- The calls the contract is about, with what they are asked for. -/
inductive Allocates : HeapOp → Nat → Nat → Prop
  | alloc (numberOfBytes : UInt32) : Allocates (.alloc numberOfBytes) numberOfBytes.toNat 1
  | allocAligned (numberOfBytes alignment : UInt32) :
    Allocates (.allocAligned numberOfBytes alignment) numberOfBytes.toNat alignment.toNat

/-- The pointer that a call returns. -/
def returned (h : Heap) : HeapOp → Nat
  | .alloc numberOfBytes => (heapAlloc h numberOfBytes.toNat).1
  | .allocAligned numberOfBytes alignment =>
    (heapAllocAligned h numberOfBytes.toNat alignment.toNat).1
  | .allocArray numberOfElements elementSize =>
    (heapAllocArray h numberOfElements.toNat elementSize.toNat).1
  | _ => 0

/-- What is true of a pointer to `n` bytes as long as it is not freed. -/
structure Granted (h : Heap) (pointer n alignment : Nat) : Prop where
  /-- It designates a block in use of at least as many bytes. -/
  live : ∃ x ∈ h.list .used, pointer = h.pointer x ∧ n ≤ h.sizeOf x
  inside : h.pointer start ≤ pointer ∧ pointer + n ≤ h.pointer h.size
  aligned : alignment ∣ pointer
  /-- No other block in use overlaps it. -/
  apart : ∀ y ∈ h.list .used, h.pointer y ≠ pointer →
    pointer + n ≤ h.pointer y ∨ h.pointer y + h.sizeOf y ≤ pointer
  /-- Nor does any header. -/
  headers : ∀ y ∈ h.blocks, pointer + n + sizeofHeapBlock ≤ h.pointer y ∨ h.pointer y ≤ pointer

section Contract

variable {h h' : Heap} {s : Shape} {x n alignment : Nat} {op : HeapOp}

/-- The invariant behind it. -/
structure Held (h : Heap) (s : Shape) (x n : Nat) : Prop where
  sound : Sound h s
  live : s.Live x
  size : n ≤ s.size x

theorem Held.granted (hh : Held h s x n) (haligned : alignment ∣ h.pointer x) :
    Granted h (h.pointer x) n alignment := by
  have hs := hh.sound
  have hsize := hh.size
  have hfits := hs.holds.fits
  have hheader := hfits.header_le hh.live.1
  have hbound := hfits.le_total hh.live.1
  refine ⟨⟨x, hs.live_iff.mpr hh.live, rfl, ?_⟩, ?_, haligned, ?_, ?_⟩
  · rw [hs.holds.size x hh.live.1]
    exact hsize
  · unfold Heap.pointer start
    omega
  · intro y hy hne
    have hlive := hs.live_iff.mp hy
    have hxy : x ≠ y := fun heq => hne (by rw [heq])
    have hapart := tiles_separate hfits.tiles hh.live.1 hlive.1 hxy
    rw [hs.holds.size y hlive.1]
    unfold Heap.pointer
    omega
  · intro y hy
    rw [hs.blocks_eq] at hy
    unfold Heap.pointer
    by_cases hxy : x = y
    · omega
    · have hapart := tiles_separate hfits.tiles hh.live.1 hy hxy
      omega

/-- A call that does not free the block. -/
theorem Held.step (hh : Held h s x n) (hlegal : Legal h op)
    (hfrees : ¬ Frees h (h.pointer x) op) :
    (∃ s', Held (heapOp h op) s' x n) ∧ (heapOp h op).memory = h.memory ∧
      ∀ i < n, ¬ Writes h (x + i) op → (heapOp h op).mem (x + i) = h.mem (x + i) := by
  obtain ⟨s', hsteps⟩ := hh.sound.step hlegal
  obtain ⟨hlive, hle⟩ := hsteps.keeps x hh.live hfrees
  have hsize := hh.size
  refine ⟨⟨s', hsteps.sound, hlive, by omega⟩, hsteps.memory, fun i hi hwrites => ?_⟩
  exact hsteps.bytes x hh.live hfrees (x + i) (by omega) (by omega) hwrites

/-- An allocation that succeeds. -/
theorem Sound.held (hs : Sound h s) (hop : Allocates op n alignment) (hlegal : Legal h op)
    (hreturned : returned h op ≠ 0) (hpage : pageSize ∣ h.memory) :
    ∃ x s', returned h op = h.pointer x ∧ Held (heapOp h op) s' x n ∧
      (heapOp h op).memory = h.memory ∧ alignment ∣ h.pointer x := by
  have hstart := hs.start op
  cases hop with
  | alloc numberOfBytes =>
    obtain ⟨s', hsteps, hgrant⟩ := hs.allocation (hstart.alloc hs.coalesced)
    obtain ⟨x, hpointer, hdvd, -, hlive, hsize⟩ := hgrant hreturned
    exact ⟨x, s', hpointer, ⟨hsteps.sound, hlive, hsize⟩, hsteps.memory, Nat.one_dvd _⟩
  | allocAligned numberOfBytes alignment =>
    obtain ⟨⟨k, hk⟩, hle⟩ := hlegal
    obtain ⟨s', hsteps, hgrant⟩ := hs.allocation (hstart.allocAligned hs.coalesced hle hs.room)
    obtain ⟨x, hpointer, hdvd, -, hlive, hsize⟩ := hgrant hreturned
    have hpower : alignment.toNat ∣ pageSize := by
      have hpage : pageSize = 2 ^ 12 := rfl
      rw [hk, hpage] at hle ⊢
      exact Nat.pow_dvd_pow 2 ((Nat.pow_le_pow_iff_right (by decide)).mp hle)
    exact ⟨x, s', hpointer, ⟨hsteps.sound, hlive, hsize⟩, hsteps.memory,
      Nat.dvd_add (Nat.dvd_trans hpower hpage) hdvd⟩

/-- What an allocation promises for the calls after it: as long as none of them frees the
block, the pointer stays granted, and only writes of the program change its bytes. -/
def Contract (h : Heap) (op : HeapOp) (after : List HeapOp) : Prop :=
  ∀ n alignment, Allocates op n alignment → returned h op ≠ 0 →
    Throughout heapStep (fun h' op' => ¬ Frees h' (returned h op) op') (heapOp h op) after →
      Always heapStep (fun h' => Granted h' (returned h op) n alignment) (heapOp h op) after ∧
      Throughout heapStep (fun h' op' => ∀ i < n, ¬ Writes h' (h.offset (returned h op) + i) op' →
        (heapOp h' op').mem (h.offset (returned h op) + i)
          = h'.mem (h.offset (returned h op) + i)) (heapOp h op) after

/-- The contract of one call. -/
theorem Sound.contract (hs : Sound h s) (hpage : pageSize ∣ h.memory) (hlegal : Legal h op)
    {after : List HeapOp} (hafter : Throughout heapStep Legal (heapOp h op) after) :
    Contract h op after := by
  intro n alignment hop hreturned hfrees
  obtain ⟨x, s₁, hpointer, hheld, hmemory, haligned⟩ := hs.held hop hlegal hreturned hpage
  have hbound := hheld.sound.holds.fits.le_total hheld.live.1
  have hroom := hheld.sound.room
  rw [hpointer, offset_pointer (by omega)]
  rw [hpointer] at hfrees
  have hrun := hafter.and hfrees
  have hpointers : ∀ {h' : Heap}, h'.memory = h.memory → h.pointer x = h'.pointer x := by
    intro h' heq
    rw [Heap.pointer, Heap.pointer, heq]
  -- the block stays in use along the run
  have hstep : ∀ {h' op' h''}, (h'.memory = h.memory ∧ ∃ s', Held h' s' x n) →
      (Legal h' op' ∧ ¬ Frees h' (h.pointer x) op') → heapStep h' op' = some h'' →
        h''.memory = h.memory ∧ ∃ s', Held h'' s' x n := by
    intro h' op' h'' hinv hG hnext
    obtain ⟨hmem, s', hheld'⟩ := hinv
    obtain ⟨hop', hfree⟩ := hG
    rw [hpointers hmem] at hfree
    obtain ⟨hkept, hmem', -⟩ := hheld'.step hop' hfree
    rw [← Option.some.inj hnext]
    exact ⟨hmem'.trans hmem, hkept⟩
  constructor
  · refine @Throughout.always _ _ heapStep _ (fun h' => h'.memory = h.memory ∧ ∃ s', Held h' s' x n)
      (fun _ => True) _ ?_ (fun hinv _ hG hnext => hstep hinv hG hnext) after _
      ⟨hmemory, s₁, hheld⟩ (fun _ _ => trivial) hrun
    intro h' hinv
    obtain ⟨hmem, s', hheld'⟩ := hinv
    rw [hpointers hmem] at haligned ⊢
    exact hheld'.granted haligned
  · refine @Throughout.mono _ _ heapStep (fun h' => h'.memory = h.memory ∧ ∃ s', Held h' s' x n)
      _ _ ?_ (fun hinv hG hnext => hstep hinv hG hnext) after _ ⟨hmemory, s₁, hheld⟩ hrun
    intro h' op' hinv hG
    obtain ⟨hmem, s', hheld'⟩ := hinv
    obtain ⟨hop', hfree⟩ := hG
    rw [hpointers hmem] at hfree
    obtain ⟨-, -, hbytes⟩ := hheld'.step hop' hfree
    exact hbytes

/-- **The contract of allocation** in every legal run on a page-aligned arena; and no
computation of any call wraps. -/
theorem alloc_contract {arena : Nat} {contents : Mem} {size : UInt32} {ops : List HeapOp}
    (hpage : pageSize ∣ arena) (hcreate : heapCreate arena contents size.toNat = some h)
    (hlegal : Throughout heapStep Legal h ops) :
    Always heapStep (fun h' => h'.wrapped = false) h ops ∧
      ∀ before op after, ops = before ++ op :: after →
        Contract (before.foldl heapOp h) op after := by
  obtain ⟨⟨s, hs⟩, hmemory, hwrapped⟩ := heapCreate_sound hcreate
  have hpage' : pageSize ∣ h.memory := by
    rw [hmemory]
    exact Nat.dvd_add hpage (Nat.dvd_refl pageSize)
  constructor
  · refine @Throughout.always _ _ heapStep (fun h' => h'.wrapped = false)
      (fun h' => h'.wrapped = false ∧ ∃ s, Sound h' s) (fun _ => True) Legal ?_ ?_ ops h
      ⟨hwrapped, s, hs⟩ (fun _ _ => trivial) hlegal
    · intro h' hinv
      exact hinv.1
    · intro h' op h'' ⟨hfalse, s', hs'⟩ _ hop hstep
      obtain ⟨s'', hsteps⟩ := hs'.step hop
      rw [← Option.some.inj hstep]
      exact ⟨hsteps.wrapped.trans hfalse, s'', hsteps.sound⟩
  · intro before op after hops
    subst hops
    obtain ⟨hbefore, hafter⟩ := throughout_append hlegal
    obtain ⟨s', hs', hmemory', -⟩ := hs.run hbefore
    exact hs'.contract (hmemory'.symm ▸ hpage') hafter.1 (hafter.2 _ rfl)

/-- The aligned block of that session, while the other one is freed. -/
theorem alloc_contract_session : ∃ h,
    heapCreate 4096 (fun _ => 0) (65536 : UInt32).toNat = some h ∧
    Always heapStep (fun h' => h'.wrapped = false) h
      [.alloc 100, .allocAligned 8 4096, .free 8216] ∧
    returned (heapOp h (.alloc 100)) (.allocAligned 8 4096) = 12288 ∧
    Contract (heapOp h (.alloc 100)) (.allocAligned 8 4096) [.free 8216] := by
  have hcontract := @alloc_contract _ 4096 (fun _ => 0) 65536
    [.alloc 100, .allocAligned 8 4096, .free 8216] (by decide) rfl
    (throughout_cons trivial
      (throughout_cons ⟨⟨12, rfl⟩, by decide⟩
        (throughout_cons ⟨24, by decide +kernel, by decide +kernel⟩ trivial)))
  exact ⟨_, rfl, hcontract.1, by decide +kernel, hcontract.2 [.alloc 100] _ _ rfl⟩

end Contract

end DeepShield.Mem
