import DeepShield.Mem.Headers
import DeepShield.Mem.Shape

/-!
# Heaps that hold a shape

`Holds` says that the bytes of a heap represent a shape: the headers have its states
and sizes, the physical chain runs through its blocks, and the free and the used list
have exactly the blocks that are free and used. A function of the heap takes blocks
off their list for a while; `off` has those.

`Stage` follows a function of the heap from `h₀` on. Besides what the heap holds it
says that the bytes in `kept`, all of them in blocks that are used, are as they were
at the start. Each group of assignments has a lemma that leads from one stage to the
next, and from one shape to the next: unlinking and linking a block, joining it with
its successors, cutting it in two, moving its border, and writing into it.
-/

namespace DeepShield.Mem

open DeepShield.Lib

/-- The heap has this shape, but the blocks of `off` are on no list. -/
structure Holds (h : Heap) (s : Shape) (off : List Nat) : Prop where
  fits : s.Fits h.size
  state : ∀ x ∈ s.blocks, h.state x = (s.state x).code
  size : ∀ x ∈ s.blocks, h.sizeOf x = s.size x
  physical : h.records.physical.Linked 0 s.blocks 0
  virtual : ∃ lists, h.records.virtual.Hold 0 lists ∧
    ∀ i x, x ∈ lists i ↔ x ∈ s.blocks ∧ x ∉ off ∧ s.state x = i

/-- A heap on the way from `h₀`. -/
structure Stage (h₀ : Heap) (kept : Nat → Prop) (h : Heap) (s : Shape) (off : List Nat) : Prop where
  holds : Holds h s off
  covers : s.Covers off kept
  kept : ∀ a, kept a → h.mem a = h₀.mem a
  memory : h.memory = h₀.memory
  total : h.size = h₀.size
  wrapped : h.wrapped = h₀.wrapped

theorem Shape.Fits.separated {s : Shape} {total : Nat} {off : List Nat} {kept : Nat → Prop}
    (hf : s.Fits total) (hcovers : s.Covers off kept) : Separated kept s.blocks :=
  separated_of_tiles hf.tiles hf.bounded fun a ha => by
    obtain ⟨x, hx, _, _, hin⟩ := hcovers a ha
    exact ⟨x, hx, hin⟩

/-! ## From stage to stage -/

section Stage

variable {h₀ h h' : Heap} {kept : Nat → Prop} {s s' : Shape} {off off' : List Nat} {x : Nat}

/-- A heap is its own first stage. -/
theorem Stage.start (hh : Holds h s off) (hcovers : s.Covers off kept) : Stage h kept h s off where
  holds := hh
  covers := hcovers
  kept _ _ := rfl
  memory := rfl
  total := rfl
  wrapped := rfl

theorem Stage.fits (hs : Stage h₀ kept h s off) : s.Fits h.size := hs.holds.fits

theorem Stage.separated (hs : Stage h₀ kept h s off) : Separated kept s.blocks :=
  hs.fits.separated hs.covers

/-- Stages follow each other. -/
theorem Stage.trans {h₁ : Heap} (hs : Stage h₀ kept h₁ s off) (hs' : Stage h₁ kept h s' off') :
    Stage h₀ kept h s' off' where
  holds := hs'.holds
  covers := hs'.covers
  kept a ha := (hs'.kept a ha).trans (hs.kept a ha)
  memory := hs'.memory.trans hs.memory
  total := hs'.total.trans hs.total
  wrapped := hs'.wrapped.trans hs.wrapped

/-- What a view has to show for a stage. -/
theorem Stage.of_view (hs : Stage h₀ kept h s off) {b : Records}
    (hv : View h kept s'.blocks b h') (hfits : s'.Fits h.size) (hcovers : s'.Covers off' kept)
    (hstate : ∀ x ∈ s'.blocks, b.state x = (s'.state x).code)
    (hsize : ∀ x ∈ s'.blocks, b.size x = s'.size x) (hphysical : b.physical.Linked 0 s'.blocks 0)
    {lists : HeapList → List Nat} (hhold : b.virtual.Hold 0 lists)
    (hmem : ∀ i x, x ∈ lists i ↔ x ∈ s'.blocks ∧ x ∉ off' ∧ s'.state x = i) :
    Stage h₀ kept h' s' off' := by
  have hlists : ∀ i, ∀ x ∈ lists i, x ∈ s'.blocks := fun i x hx => ((hmem i x).mp hx).1
  refine hs.trans ⟨⟨?_, ?_, ?_, ?_, lists, ?_, hmem⟩, hcovers, hv.kept, hv.memory, hv.size,
    hv.wrapped⟩
  · rw [hv.size]
    exact hfits
  · intro x hx
    exact (hv.fields x hx .state).trans (hstate x hx)
  · intro x hx
    exact (hv.fields x hx .size).trans (hsize x hx)
  · exact hphysical.congr (fun x hx => hv.fields x hx .pnext) (fun x hx => hv.fields x hx .pprev)
  · exact hhold.congr hv.head (fun i x hx => hv.fields x (hlists i x hx) .vnext)
      (fun i x hx => hv.fields x (hlists i x hx) .vprev)

/-- Only which blocks of the shape are off matters. -/
theorem Stage.off_congr (hs : Stage h₀ kept h s off) (hoff : ∀ x ∈ s.blocks, x ∈ off ↔ x ∈ off') :
    Stage h₀ kept h s off' := by
  obtain ⟨lists, hhold, hmem⟩ := hs.holds.virtual
  refine { hs with
    holds := { hs.holds with virtual := ⟨lists, hhold, fun i x => ?_⟩ }, covers := fun a ha => ?_ }
  · rw [hmem i x]
    exact and_congr_right fun hx => and_congr_left fun _ => not_congr (hoff x hx)
  · obtain ⟨x, hx, hxoff, hrest⟩ := hs.covers a ha
    exact ⟨x, hx, fun hmem => hxoff ((hoff x hx).mpr hmem), hrest⟩

/-- **Unlinking** a block. -/
theorem Stage.unlink (hs : Stage h₀ kept h s off) {i : HeapList} (hx : x ∈ s.blocks)
    (hoff : x ∉ off) (hi : s.state x = i)
    (hkept : ∀ a, kept a → a < x ∨ x + s.size x ≤ a) :
    Stage h₀ kept (heappBlockUnlink h i x) s (x :: off) := by
  obtain ⟨lists, hhold, hmem⟩ := hs.holds.virtual
  have hlisted : x ∈ lists i := (hmem i x).mpr ⟨hx, hoff, hi⟩
  have hblocks : ∀ y ∈ lists i, y ∈ s.blocks := fun y hy => ((hmem i y).mp hy).1
  have hview := (View.start h kept s.blocks).unlink hs.separated i hx
    (fun hne => hblocks _ (hhold.next_mem hlisted hne))
    (fun hne => hblocks _ (hhold.prev_mem hlisted hne))
  obtain ⟨l, hl, hhold'⟩ := hhold.unlink hlisted
  refine hs.of_view hview hs.fits ?_ hs.holds.state hs.holds.size hs.holds.physical hhold' ?_
  · intro a ha
    obtain ⟨y, hy, hyoff, hyused, hin⟩ := hs.covers a ha
    have hne : y ≠ x := by
      intro heq
      have hout := hkept a ha
      rw [heq] at hin
      omega
    exact ⟨y, hy, fun hmem' => hyoff ((List.mem_cons.mp hmem').resolve_left hne), hyused, hin⟩
  · intro j y
    by_cases hj : j = i
    · rw [hj, Function.update_self, hl y, hmem i y]
      simp only [List.mem_cons, not_or]
      tauto
    · rw [Function.update_of_ne hj, hmem j y]
      have hne : s.state y = j → y ≠ x := fun hy heq => hj (by rw [← hy, heq, hi])
      simp only [List.mem_cons, not_or]
      tauto

/-- **Linking** a block. -/
theorem Stage.link (hs : Stage h₀ kept h s (x :: off)) {i : HeapList} (hx : x ∈ s.blocks)
    (hoff : x ∉ off) (hi : s.state x = i) : Stage h₀ kept (heappBlockLink h i x) s off := by
  obtain ⟨lists, hhold, hmem⟩ := hs.holds.virtual
  have hunlisted : ∀ j, x ∉ lists j :=
    fun j hj => ((hmem j x).mp hj).2.1 List.mem_cons_self
  have hview := (View.start h kept s.blocks).link hs.separated i hx
    (fun hne => ((hmem i _).mp (hhold.head_mem hne)).1)
  have hhold' := hhold.link i hunlisted (ne_of_mem_of_not_mem hx hs.fits.nonnull)
  refine hs.of_view hview hs.fits ?_ hs.holds.state hs.holds.size hs.holds.physical hhold' ?_
  · intro a ha
    obtain ⟨y, hy, hyoff, hrest⟩ := hs.covers a ha
    exact ⟨y, hy, fun hmem' => hyoff (List.mem_cons_of_mem x hmem'), hrest⟩
  · intro j y
    by_cases hyx : y = x
    · subst hyx
      by_cases hj : j = i
      · rw [hj, Function.update_self]
        exact iff_of_true List.mem_cons_self ⟨hx, hoff, hi⟩
      · rw [Function.update_of_ne hj]
        exact iff_of_false (hunlisted j) (fun hk => hj (hk.2.2.symm.trans hi))
    · by_cases hj : j = i
      · rw [hj, Function.update_self, List.mem_cons, or_iff_right hyx, hmem i y, List.mem_cons,
          or_iff_right hyx]
      · rw [Function.update_of_ne hj, hmem j y, List.mem_cons, or_iff_right hyx]

/-- Assigning the **state** of a block that is on no list. -/
theorem Stage.setState (hs : Stage h₀ kept h s off) (hx : x ∈ s.blocks) (hoff : x ∈ off)
    (i : HeapList) : Stage h₀ kept (h.set .state x i.code) (s.setState x i) off := by
  obtain ⟨lists, hhold, hmem⟩ := hs.holds.virtual
  have hview := (View.start h kept s.blocks).set hs.separated hx i.code_lt .state
  have hother : ∀ y, y ∉ off → (s.setState x i).state y = s.state y := by
    intro y hy
    rw [Shape.setState_state, if_neg (ne_of_mem_of_not_mem hoff hy).symm]
  refine hs.of_view hview ⟨hs.fits.tiles, hs.fits.positive, hs.fits.bounded⟩ ?_ ?_ hs.holds.size
    hs.holds.physical hhold ?_
  · intro a ha
    obtain ⟨y, hy, hyoff, hyused, hin⟩ := hs.covers a ha
    exact ⟨y, hy, hyoff, (hother y hyoff).trans hyused, hin⟩
  · intro y hy
    rw [Shape.setState_state]
    refine (Function.update_apply h.state x i.code y).trans ?_
    split
    next => rfl
    next => exact hs.holds.state y hy
  · intro j y
    rw [hmem j y, Shape.setState_blocks]
    refine and_congr_right fun _ => and_congr_right fun hyoff => ?_
    rw [hother y hyoff]

/-- **Moving** a block to the other list. -/
theorem Stage.relink (hs : Stage h₀ kept h s (x :: off)) (hx : x ∈ s.blocks) (hoff : x ∉ off)
    (i : HeapList) :
    Stage h₀ kept (heappBlockLink (h.set .state x i.code) i x) (s.setState x i) off :=
  (hs.setState hx List.mem_cons_self i).link hx hoff (by simp)

/-- Moving a block to a list changes no byte of any contents. -/
theorem Stage.relink_mem (hs : Stage h₀ kept h s off) (hx : x ∈ s.blocks) (i : HeapList) {y a : Nat}
    (hy : y ∈ s.blocks) (hlo : y ≤ a) (hhi : a < y + s.size y) :
    (heappBlockLink (h.set .state x i.code) i x).mem a = h.mem a := by
  obtain ⟨lists, hhold, hmem⟩ := hs.holds.virtual
  -- of the bytes to look at there is one, in the contents of `y`
  have hsep : Separated (fun b => b = a) s.blocks :=
    separated_of_tiles hs.fits.tiles hs.fits.bounded fun b hb => ⟨y, hy, by omega⟩
  have hview := (View.start h (fun b => b = a) s.blocks).set hsep hx i.code_lt .state
  exact (hview.link hsep i hx fun hne => ((hmem i _).mp (hhold.head_mem hne)).1).kept a rfl

/-- **Writing** into a block. -/
theorem Stage.fill (hs : Stage h₀ kept h s off) (hx : x ∈ s.blocks) {a : Nat} {bytes : List UInt8}
    (hlo : x ≤ a) (hhi : a + bytes.length ≤ x + s.size x)
    (hkept : ∀ i, kept i → i < a ∨ a + bytes.length ≤ i) :
    Stage h₀ kept { h with mem := writeBytes h.mem a bytes } s off := by
  obtain ⟨lists, hhold, hmem⟩ := hs.holds.virtual
  have hheaders : ∀ y ∈ s.blocks, a + bytes.length + sizeofHeapBlock ≤ y ∨ y ≤ a := by
    intro y hy
    by_cases hne : x = y
    · omega
    · have hapart := tiles_separate hs.fits.tiles hx hy hne
      omega
  have hview := (View.start h kept s.blocks).fill hs.separated hheaders hkept
  exact hs.of_view hview hs.fits hs.covers hs.holds.state hs.holds.size hs.holds.physical hhold hmem

/-- **Joining** a block with successors that are on no list. -/
theorem Stage.join (hs : Stage h₀ kept h s off) {l₁ mid l₂ : List Nat} {n : Nat}
    (hj : s.JoinAt off l₁ x mid l₂ n) :
    Stage h₀ kept (heappJoin h x (l₂.headD 0) n) (s.join (l₁ ++ x :: l₂) x n) off := by
  obtain ⟨lists, hhold, hmem⟩ := hs.holds.virtual
  have hfits := hj.fits hs.fits
  have hcovers := hj.covers hs.covers
  have hx : x ∈ l₁ ++ x :: l₂ := List.mem_append_right l₁ List.mem_cons_self
  have hz : l₂.headD 0 ≠ 0 → l₂.headD 0 ∈ l₁ ++ x :: l₂ := fun hne =>
    List.mem_append_right l₁ (List.mem_cons_of_mem x ((Links.headD_mem l₂ 0).resolve_left hne))
  have hn : n < 2 ^ 32 := by
    have hle := hfits.le_total hx
    have hbounded := hs.fits.bounded
    rw [Shape.join_size, if_pos rfl] at hle
    omega
  have hview := (View.start h kept (l₁ ++ x :: l₂)).join (hfits.separated hcovers) hx hz hn
  refine hs.of_view hview hfits hcovers (fun y hy => hs.holds.state y (hj.old hy)) ?_
    (Links.Linked.joinAfter (hj.blocks ▸ hs.holds.physical) (hj.blocks ▸ hs.fits.nodup)
      (hj.blocks ▸ hs.fits.nonnull)) hhold ?_
  · intro y hy
    rw [Shape.join_size]
    refine (Function.update_apply h.sizeOf x n y).trans ?_
    split
    next => rfl
    next => exact hs.holds.size y (hj.old hy)
  · intro i y
    rw [hmem i y]
    exact ⟨fun hk => ⟨hj.stays hk.1 hk.2.1, hk.2⟩, fun hk => ⟨hj.old hk.1, hk.2⟩⟩

/-- The lists after a free block was linked. -/
theorem mem_lists_cons {lists : HeapList → List Nat} {blocks : List Nat} {y : Nat}
    (hmem : ∀ i z, z ∈ lists i ↔ z ∈ s.blocks ∧ z ∉ off ∧ s.state z = i) (hy : y ∉ s.blocks)
    (hyoff : y ∉ off) (hblocks : ∀ z, z ∈ blocks ↔ z = y ∨ z ∈ s.blocks) (n rest : Nat)
    (i : HeapList) (z : Nat) : z ∈ Function.update lists .free (y :: lists .free) i ↔
      z ∈ blocks ∧ z ∉ off ∧ (s.border blocks x n y rest).state z = i := by
  rw [hblocks z, Shape.border_state]
  by_cases hzy : z = y
  · have hunlisted : ∀ j, y ∉ lists j := fun j hj => hy ((hmem j y).mp hj).1
    subst hzy
    rw [if_pos rfl]
    by_cases hi : i = .free
    · rw [hi, Function.update_self]
      exact iff_of_true List.mem_cons_self ⟨Or.inl rfl, hyoff, rfl⟩
    · rw [Function.update_of_ne hi]
      exact iff_of_false (hunlisted i) (fun hk => hi hk.2.2.symm)
  · rw [if_neg hzy, or_iff_right hzy, ← hmem i z]
    by_cases hi : i = .free
    · rw [hi, Function.update_self, List.mem_cons, or_iff_right hzy]
    · rw [Function.update_of_ne hi]

/-- **Cutting** a free block in two. -/
theorem Stage.cut (hs : Stage h₀ kept h s off) {l₁ l₂ : List Nat} {y n rest : Nat}
    (hcut : s.CutAt l₁ x l₂ n y rest) (hyoff : y ∉ off) :
    Stage h₀ kept
      ((heappInsertFree ((h.set .state y heapBlockFree).set .size y rest) x y).set .size x n)
      (s.border (l₁ ++ x :: y :: l₂) x n y rest) off := by
  obtain ⟨lists, hhold, hmem⟩ := hs.holds.virtual
  have hfits := hcut.fits hs.fits
  have hcovers := hcut.covers hs.fits hs.covers
  have hsep := hfits.separated hcovers
  have hnew := hcut.new hs.fits
  have hold : ∀ z ∈ s.blocks, z ∈ l₁ ++ x :: y :: l₂ := fun z hz => (hcut.mem_iff z).mpr (Or.inr hz)
  have hx := hold x hcut.mem
  have hy : y ∈ l₁ ++ x :: y :: l₂ := (hcut.mem_iff y).mpr (Or.inl rfl)
  have hsize := hcut.size
  have hbound := hs.fits.le_total hcut.mem
  have hbounded := hs.fits.bounded
  have hview := ((View.start h kept (l₁ ++ x :: y :: l₂)).set hsep hy (HeapList.code_lt .free)
    .state).set hsep hy (by omega : rest < 2 ^ 32) .size
  have hinsert := hview.insertFree hsep hx hy (ne_of_mem_of_not_mem hcut.mem hnew)
    (fun hne => hold _ ((hs.holds.physical.next_mem hcut.mem).resolve_left hne))
    (fun hne => hold _ ((hmem .free _).mp (hhold.head_mem hne)).1)
  have hfinal := hinsert.set hsep hx (by omega : n < 2 ^ 32) .size
  refine hs.of_view hfinal hfits hcovers ?_ ?_
    (Links.Linked.insertAfter (hcut.blocks ▸ hs.holds.physical) (hcut.blocks ▸ hs.fits.nodup)
      (hcut.blocks ▸ hs.fits.nonnull) (hcut.blocks ▸ hnew))
    (hhold.link .free (fun j hj => hnew ((hmem j y).mp hj).1)
      (ne_of_mem_of_not_mem hy hfits.nonnull))
    (mem_lists_cons hmem hnew hyoff hcut.mem_iff n rest)
  · intro z hz
    rw [Shape.border_state]
    refine (Function.update_apply h.state y heapBlockFree z).trans ?_
    split
    next => rfl
    next hzy => exact hs.holds.state z (((hcut.mem_iff z).mp hz).resolve_left hzy)
  · intro z hz
    rw [Shape.border_size]
    show Function.update (Function.update h.sizeOf y rest) x n z = _
    rw [Function.update_apply, Function.update_apply]
    split
    next => rfl
    next =>
      split
      next => rfl
      next hzy => exact hs.holds.size z (((hcut.mem_iff z).mp hz).resolve_left hzy)

/-- What is seen once the header of a free block has moved. -/
theorem Stage.viewMove (hs : Stage h₀ kept h s off) {l₁ l₂ : List Nat} {p y gap : Nat}
    (hshift : s.ShiftAt l₁ p x l₂ y gap) (hxoff : x ∉ off) :
    View h kept (l₁ ++ p :: y :: l₂) (h.records.move x y) (heappMove h x y) := by
  obtain ⟨lists, hhold, hmem⟩ := hs.holds.virtual
  have hsep := (hshift.fits hs.fits).separated (hshift.covers hs.fits hs.covers)
  have hlisted : x ∈ lists .free := (hmem .free x).mpr ⟨hshift.mem, hxoff, hshift.free⟩
  have hphysical := hs.holds.physical
  have hself := hphysical.next_ne hs.fits.nodup hshift.mem hs.fits.nonnull
  rw [hshift.blocks] at hphysical
  obtain ⟨-, -, -, hprev, -⟩ := Links.linked_append.mp hphysical
  have hmem_iff := hshift.mem_iff hs.fits
  exact (View.start h kept s.blocks).move hs.separated hsep hshift.mem
    ((hmem_iff y).mpr (Or.inl rfl))
    (fun z hz hzy => (((hmem_iff z).mp hz).resolve_left hzy).1) hself
    (fun hne => (hs.holds.physical.next_mem hshift.mem).resolve_left hne)
    (hprev.symm ▸ hshift.mem_prev)
    (fun hne => ((hmem .free _).mp (hhold.next_mem hlisted hne)).1)
    (fun hne => ((hmem .free _).mp (hhold.prev_mem hlisted hne)).1)

/-- The lists after a free block lost its place to `y`. -/
theorem mem_lists_move {lists : HeapList → List Nat} {l l₁ l₂ : List Nat} {p y gap total : Nat}
    (hmem : ∀ i z, z ∈ lists i ↔ z ∈ s.blocks ∧ z ∉ off ∧ s.state z = i)
    (hl : ∀ z, z ∈ l ↔ z ∈ lists .free ∧ z ≠ x) (hshift : s.ShiftAt l₁ p x l₂ y gap)
    (hf : s.Fits total) (i : HeapList) (z : Nat) : z ∈ Function.update lists .free l i ↔
      z ∈ l₁ ++ p :: y :: l₂ ∧ z ∉ y :: off ∧
        (Shape.ShiftAt.shape s l₁ p x l₂ y gap).state z = i := by
  rw [hshift.mem_iff hf z, List.mem_cons, Shape.ShiftAt.shape, Shape.border_state]
  by_cases hzy : z = y
  · refine iff_of_false (fun hz => hshift.new hf ?_) (fun hk => hk.2.1 (Or.inl hzy))
    rw [hzy] at hz
    by_cases hi : i = .free
    · rw [hi, Function.update_self] at hz
      exact ((hmem .free y).mp ((hl y).mp hz).1).1
    · rw [Function.update_of_ne hi] at hz
      exact ((hmem i y).mp hz).1
  · rw [if_neg hzy, or_iff_right hzy, or_iff_right hzy]
    by_cases hi : i = .free
    · rw [hi, Function.update_self, hl z, hmem .free z]
      tauto
    · rw [Function.update_of_ne hi, hmem i z]
      have hzx : s.state z = i → z ≠ x := fun hz heq => hi (by rw [← hz, heq, hshift.free])
      tauto

/-- **Moving the border** between a used block and the free one behind it. -/
theorem Stage.shift (hs : Stage h₀ kept h s off) {l₁ l₂ : List Nat} {p y gap : Nat}
    (hshift : s.ShiftAt l₁ p x l₂ y gap) (hxoff : x ∉ off) :
    Stage h₀ kept
      (((heappMove h x y).set .size p (s.size p + gap)).set .size y (s.size x - gap))
      (Shape.ShiftAt.shape s l₁ p x l₂ y gap) (y :: off) := by
  obtain ⟨lists, hhold, hmem⟩ := hs.holds.virtual
  have hfits := hshift.fits hs.fits
  have hcovers := hshift.covers hs.fits hs.covers
  have hsep := hfits.separated hcovers
  have hmem_iff := hshift.mem_iff hs.fits
  have hy : y ∈ l₁ ++ p :: y :: l₂ := (hmem_iff y).mpr (Or.inl rfl)
  have hp : p ∈ l₁ ++ p :: y :: l₂ := (hmem_iff p).mpr (Or.inr ⟨hshift.mem_prev, hshift.ne⟩)
  have hpy : p ≠ y := ne_of_mem_of_not_mem hshift.mem_prev (hshift.new hs.fits)
  have hboundx := hs.fits.le_total hshift.mem
  have hboundp := hfits.le_total hp
  have hbounded := hs.fits.bounded
  rw [Shape.ShiftAt.shape, Shape.border_size, if_pos rfl] at hboundp
  have hview := ((hs.viewMove hshift hxoff).set hsep hp (by omega : s.size p + gap < 2 ^ 32)
    .size).set hsep hy (by omega : s.size x - gap < 2 ^ 32) .size
  obtain ⟨l, hl, hhold'⟩ := hhold.unlink
    ((hmem .free x).mpr ⟨hshift.mem, hxoff, hshift.free⟩)
  have hlists := mem_lists_move hmem hl hshift hs.fits
  have hothers : ∀ i z, z ∈ Function.update lists .free l i → z ≠ y := by
    intro i z hz heq
    exact ((hlists i z).mp hz).2.1 (heq ▸ List.mem_cons_self)
  refine hs.of_view hview hfits hcovers ?_ ?_
    (Links.Linked.replace (hshift.blocks ▸ hs.holds.physical) (hshift.blocks ▸ hs.fits.nodup)
      (hshift.blocks ▸ hs.fits.nonnull) (hshift.blocks ▸ hshift.new hs.fits))
    (hhold'.congr rfl ?_ ?_) hlists
  · intro z hz
    rw [Shape.ShiftAt.shape, Shape.border_state]
    refine (Function.update_apply h.state y (h.state x) z).trans ?_
    split
    next => rw [hs.holds.state x hshift.mem, hshift.free]
    next hzy => exact hs.holds.state z (((hmem_iff z).mp hz).resolve_left hzy).1
  · intro z hz
    rw [Shape.ShiftAt.shape, Shape.border_size]
    show Function.update (Function.update (Function.update h.sizeOf y _) p _) y _ z = _
    rw [Function.update_apply, Function.update_apply, Function.update_apply]
    by_cases hzy : z = y
    · rw [if_pos hzy, if_neg (fun heq => hpy (heq.symm.trans hzy)), if_pos hzy]
    · rw [if_neg hzy, if_neg hzy, if_neg hzy, hs.holds.size z
        (((hmem_iff z).mp hz).resolve_left hzy).1]
  · intro i z hz
    exact Function.update_of_ne (hothers i z hz) _ _
  · intro i z hz
    exact Function.update_of_ne (hothers i z hz) _ _

end Stage

end DeepShield.Mem
