import DeepShield.Mem.Layout

/-!
# Allocating

What `HeapAlloc` and `HeapAllocAligned` do to a shape. A search takes the first block of
the free list that is large enough, for the aligned form with the gap before the
alignment included; `heapAllocLoop_eq` and `heapAllocAlignedLoop_eq` say so, and that
the list is shorter than the fuel. `HeappAlign` moves the border before the block found
and `HeappSplit` the one behind what is asked for, and either way no live block changes
but to grow, and no two free blocks are neighbours in the end (`Shape.Grants`).

The results are `Stage.alloc` and `Stage.allocAligned`, for any heap whose free blocks
are not neighbours.
-/

namespace DeepShield.Mem

open DeepShield.Lib

namespace Shape

/-- A block of the program that uses the heap. -/
def Live (s : Shape) (x : Nat) : Prop := x ∈ s.blocks ∧ s.state x = .used

/-- The blocks `x` and `y` are free, and `y` follows `x`. -/
structure FreePair (s : Shape) (x y : Nat) : Prop where
  mem : x ∈ s.blocks
  mem' : y ∈ s.blocks
  free : s.state x = .free
  free' : s.state y = .free
  eq : x + s.size x + sizeofHeapBlock = y

/-- No free block follows another. -/
def Coalesced (s : Shape) : Prop := ∀ x y, ¬ s.FreePair x y

/-- The live blocks of `s` are live in `s'`, and not smaller. -/
def Keeps (s s' : Shape) : Prop := ∀ x, s.Live x → s'.Live x ∧ s.size x ≤ s'.size x

theorem Keeps.trans {s₁ s₂ s₃ : Shape} (h : s₁.Keeps s₂) (h' : s₂.Keeps s₃) : s₁.Keeps s₃ := by
  intro x hx
  obtain ⟨hlive, hle⟩ := h x hx
  obtain ⟨hlive', hle'⟩ := h' x hlive
  exact ⟨hlive', Nat.le_trans hle hle'⟩

/-- What an allocation of `n` bytes at `x` makes of a shape. -/
structure Grants (s s' : Shape) (x n : Nat) : Prop where
  coalesced : s'.Coalesced
  keeps : s.Keeps s'
  fresh : ¬ s.Live x
  live : s'.Live x
  size : n ≤ s'.size x

/-- The only free pair may be the one that `x` ends. -/
def CoalescedBut (s : Shape) (x : Nat) : Prop := ∀ a b, s.FreePair a b → b = x

variable {s : Shape} {x n : Nat}

theorem not_live_of_free (hfree : s.state x = .free) : ¬ s.Live x := by
  intro hlive
  rw [hlive.2] at hfree
  exact absurd hfree (by decide)

/-- A free block that is taken as it is. -/
theorem grants_whole (hx : x ∈ s.blocks) (hfree : s.state x = .free) (hle : n ≤ s.size x)
    (hbut : s.CoalescedBut x) : s.Grants (s.setState x .used) x n where
  fresh := not_live_of_free hfree
  coalesced a b hpair := by
    have hb : b ≠ x := by
      intro heq
      have hfree := hpair.free'
      rw [setState_state, if_pos heq] at hfree
      exact absurd hfree (by decide)
    have ha : a ≠ x := by
      intro heq
      have hfree := hpair.free
      rw [setState_state, if_pos heq] at hfree
      exact absurd hfree (by decide)
    have hold : s.FreePair a b := by
      refine ⟨hpair.mem, hpair.mem', ?_, ?_, hpair.eq⟩
      · simpa [ha] using hpair.free
      · simpa [hb] using hpair.free'
    exact hb (hbut a b hold)
  keeps z hz := by
    refine ⟨⟨hz.1, ?_⟩, Nat.le_refl _⟩
    rw [setState_state, hz.2]
    split
    next => rfl
    next => rfl
  live := ⟨hx, by simp⟩
  size := hle

/-- A free block that is cut first. -/
theorem grants_cut {l₁ l₂ : List Nat} {y rest total : Nat} (hf : s.Fits total)
    (hcut : s.CutAt l₁ x l₂ n y rest) (hbut : s.CoalescedBut x) :
    s.Grants ((s.border (l₁ ++ x :: y :: l₂) x n y rest).setState x .used) x n where
  fresh := not_live_of_free hcut.free
  coalesced a b hpair := by
    have hxy : x ≠ y := ne_of_mem_of_not_mem hcut.mem (hcut.new hf)
    have hy := hcut.eq
    have hsize := hcut.size
    have hrest := hcut.positive'
    obtain ⟨ha, hb, hafree, hbfree, heq⟩ := hpair
    simp only [setState_blocks, setState_size, setState_state, border_blocks, border_state,
      border_size, hcut.mem_iff] at ha hb hafree hbfree heq
    have hax : a ≠ x := fun h => by simp [h] at hafree
    have hbx : b ≠ x := fun h => by simp [h] at hbfree
    rw [if_neg hax] at hafree heq
    rw [if_neg hbx] at hbfree
    by_cases hay : a = y
    · -- the rest and what followed `x`
      rw [if_pos hay] at heq
      have hby : b ≠ y := by omega
      rw [if_neg hby] at hbfree
      exact hbx (hbut x b ⟨hcut.mem, hb.resolve_left hby, hcut.free, hbfree, by omega⟩)
    · rw [if_neg hay] at hafree heq
      have hamem := ha.resolve_left hay
      by_cases hby : b = y
      · have hapart := tiles_separate hf.tiles hamem hcut.mem hax
        omega
      · rw [if_neg hby] at hbfree
        exact hbx (hbut a b ⟨hamem, hb.resolve_left hby, hafree, hbfree, heq⟩)
  keeps z hz := by
    have hzy : z ≠ y := ne_of_mem_of_not_mem hz.1 (hcut.new hf)
    have hzx : z ≠ x := by
      intro heq
      have hused := hz.2
      rw [heq, hcut.free] at hused
      exact absurd hused (by decide)
    refine ⟨⟨(hcut.mem_iff z).mpr (Or.inr hz.1), ?_⟩, ?_⟩
    · rw [setState_state, if_neg hzx, border_state, if_neg hzy]
      exact hz.2
    · exact Nat.le_of_eq (by rw [setState_size, border_size, if_neg hzx, if_neg hzy])
  live := ⟨by simp, by simp⟩
  size := by simp

end Shape

section Split

variable {h₀ h : Heap} {kept : Nat → Prop} {s : Shape} {x n : Nat}

/-- The end of `HeappSplit`. -/
def heappTake (h : Heap) (x : Nat) : Heap :=
  heappBlockLink ((heappBlockUnlink h .free x).set .state x heapBlockUsed) .used x

theorem Stage.take (hs : Stage h₀ kept h s []) (hx : x ∈ s.blocks) (hfree : s.state x = .free) :
    Stage h₀ kept (heappTake h x) (s.setState x .used) [] :=
  (hs.unlink hx (by simp) hfree fun _ ha => hs.covers.outside hs.fits hx (Or.inr hfree) ha).relink
    hx (by simp) .used

/-- A block that is split. -/
theorem heappSplit_cut {y rest : Nat} (hx : sizeofHeapBlock ≤ x)
    (hsize : h.sizeOf x = n + sizeofHeapBlock + rest) (hrest : minimalFreeBlockSize ≤ rest)
    (hy : y = x + n + sizeofHeapBlock) (hfits : x + h.sizeOf x < 2 ^ 32) :
    heappSplit h x n = heappTake ((heappInsertFree
      ((h.set .state y heapBlockFree).set .size y rest) x y).set .size x n) x := by
  unfold sizeofHeapBlock at hx hsize hy
  have hkeep : (h.set .state y heapBlockFree).sizeOf x = h.sizeOf x := by
    refine (h.get_set (by unfold sizeofHeapBlock; omega) hx (by unfold sizeofHeapBlock; omega)
      (by decide)).trans ?_
    rw [if_neg (by simp)]
    rfl
  unfold heappSplit sizeofHeapBlock minimalFreeBlockSize
  unfold minimalFreeBlockSize at hrest
  rw [if_pos (by omega), Heap.add_eq (by omega)]
  dsimp only
  rw [Heap.add_eq (by omega)]
  dsimp only
  rw [← hy, hkeep, hsize, Heap.sub_eq (a := n + 24 + rest) (b := n) (by omega) (by omega)]
  dsimp only
  rw [Heap.sub_eq (by omega) (by omega)]
  have hleft : n + 24 + rest - n - 24 = rest := by omega
  dsimp only
  rw [hleft]
  rfl

/-- A block that is not. -/
theorem heappSplit_whole
    (hsize : h.sizeOf x < n + sizeofHeapBlock + minimalFreeBlockSize) :
    heappSplit h x n = heappTake h x := by
  unfold heappSplit
  rw [if_neg (Nat.not_le_of_lt hsize)]
  rfl

/-- **Splitting** a block takes it, whole or in part. -/
theorem Stage.split (hs : Stage h₀ kept h s []) (hx : x ∈ s.blocks) (hfree : s.state x = .free)
    (hn : 0 < n) (hle : n ≤ s.size x) (hbut : s.CoalescedBut x) :
    ∃ s', Stage h₀ kept (heappSplit h x n) s' [] ∧ s.Grants s' x n := by
  have hsize := hs.holds.size x hx
  by_cases hsmall : s.size x < n + sizeofHeapBlock + minimalFreeBlockSize
  · rw [heappSplit_whole (hsize ▸ hsmall)]
    exact ⟨_, hs.take hx hfree, Shape.grants_whole hx hfree hle hbut⟩
  · obtain ⟨l₁, l₂, hblocks⟩ := List.append_of_mem hx
    obtain ⟨rest, hrest⟩ := Nat.le.dest (Nat.le_of_not_lt hsmall)
    have hcut : s.CutAt l₁ x l₂ n (x + n + sizeofHeapBlock) (minimalFreeBlockSize + rest) :=
      ⟨hblocks, hfree, by omega, hn, by unfold minimalFreeBlockSize; omega, rfl⟩
    have hbound := hs.fits.le_total hx
    have hbounded := hs.fits.bounded
    rw [heappSplit_cut (hs.fits.header_le hx) (hsize.trans hcut.size) (by omega) rfl (by omega)]
    have hne : x ≠ x + n + sizeofHeapBlock := by omega
    exact ⟨_, (hs.cut hcut (by simp)).take (by simp) (by simp [hne, hfree]),
      Shape.grants_cut hs.fits hcut hbut⟩

end Split

/-! ## Aligning -/

namespace Shape

/-- What aligning a free block to `y` makes of a shape. -/
structure Aligns (s s' : Shape) (y size : Nat) : Prop where
  mem : y ∈ s'.blocks
  free : s'.state y = .free
  size : s'.size y = size
  but : s'.CoalescedBut y
  keeps : s.Keeps s'
  fresh : y ∉ s.blocks

variable {s : Shape} {x y n gap total : Nat} {l₁ l₂ : List Nat}

/-- A free block before the aligned one. -/
theorem aligns_cut {rest : Nat} (hf : s.Fits total) (hc : s.Coalesced)
    (hcut : s.CutAt l₁ x l₂ n y rest) :
    s.Aligns (s.border (l₁ ++ x :: y :: l₂) x n y rest) y rest where
  fresh := hcut.new hf
  mem := by simp
  free := by simp
  size := by simp [(ne_of_mem_of_not_mem hcut.mem (hcut.new hf)).symm]
  but a b hpair := by
    have hxy : x ≠ y := ne_of_mem_of_not_mem hcut.mem (hcut.new hf)
    have hy := hcut.eq
    have hsize := hcut.size
    obtain ⟨ha, hb, hafree, hbfree, heq⟩ := hpair
    simp only [border_blocks, border_state, border_size, hcut.mem_iff] at ha hb hafree hbfree heq
    by_contra hby
    rw [if_neg hby] at hbfree
    have hbmem := hb.resolve_left hby
    by_cases hax : a = x
    · rw [if_pos hax] at heq
      omega
    · rw [if_neg hax] at heq
      by_cases hay : a = y
      · rw [if_pos hay] at heq
        exact hc x b ⟨hcut.mem, hbmem, hcut.free, hbfree, by omega⟩
      · rw [if_neg hay] at hafree heq
        exact hc a b ⟨ha.resolve_left hay, hbmem, hafree, hbfree, heq⟩
  keeps z hz := by
    have hzy : z ≠ y := ne_of_mem_of_not_mem hz.1 (hcut.new hf)
    have hzx : z ≠ x := by
      intro heq
      have hused := hz.2
      rw [heq, hcut.free] at hused
      exact absurd hused (by decide)
    refine ⟨⟨(hcut.mem_iff z).mpr (Or.inr hz.1), ?_⟩, ?_⟩
    · rw [border_state, if_neg hzy]
      exact hz.2
    · exact Nat.le_of_eq (by rw [border_size, if_neg hzx, if_neg hzy])

/-- The bytes before the aligned block go to the used one before it. -/
theorem aligns_shift {p : Nat} (hf : s.Fits total) (hc : s.Coalesced)
    (hshift : s.ShiftAt l₁ p x l₂ y gap) :
    s.Aligns (ShiftAt.shape s l₁ p x l₂ y gap) y (s.size x - gap) where
  fresh := hshift.new hf
  mem := by simp [ShiftAt.shape]
  free := by simp [ShiftAt.shape]
  size := by
    simp [ShiftAt.shape, (ne_of_mem_of_not_mem hshift.mem_prev (hshift.new hf)).symm]
  but a b hpair := by
    have hy := hshift.eq
    have hlt := hshift.lt
    obtain ⟨ha, hb, hafree, hbfree, heq⟩ := hpair
    simp only [ShiftAt.shape, border_blocks, border_state, border_size, hshift.mem_iff hf]
      at ha hb hafree hbfree heq
    by_contra hby
    rw [if_neg hby] at hbfree
    have hbmem := (hb.resolve_left hby).1
    have hpy : p ≠ y := ne_of_mem_of_not_mem hshift.mem_prev (hshift.new hf)
    by_cases hay : a = y
    · rw [if_neg (fun h => hpy (h.symm.trans hay)), if_pos hay] at heq
      exact hc x b ⟨hshift.mem, hbmem, hshift.free, hbfree, by omega⟩
    · rw [if_neg hay] at hafree heq
      have hap : a ≠ p := by
        intro h
        rw [h, hshift.used] at hafree
        exact absurd hafree (by decide)
      rw [if_neg hap] at heq
      exact hc a b ⟨(ha.resolve_left hay).1, hbmem, hafree, hbfree, heq⟩
  keeps z hz := by
    have hzy : z ≠ y := ne_of_mem_of_not_mem hz.1 (hshift.new hf)
    have hzx : z ≠ x := by
      intro heq
      have hused := hz.2
      rw [heq, hshift.free] at hused
      exact absurd hused (by decide)
    refine ⟨⟨(hshift.mem_iff hf z).mpr (Or.inr ⟨hz.1, hzx⟩), ?_⟩, ?_⟩
    · rw [ShiftAt.shape, border_state, if_neg hzy]
      exact hz.2
    · rw [ShiftAt.shape, border_size, if_neg hzy]
      split
      next heq => rw [heq]; omega
      next => exact Nat.le_refl _

/-- The block before a free one is used. -/
theorem Coalesced.used_before {p : Nat} (hf : s.Fits total) (hc : s.Coalesced)
    (hblocks : s.blocks = l₁ ++ p :: x :: l₂) (hfree : s.state x = .free) : s.state p = .used := by
  have htiles := hf.tiles
  rw [hblocks] at htiles
  obtain ⟨_, _, _, hx, _⟩ := tiles_around htiles
  cases hp : s.state p with
  | used => rfl
  | free => exact absurd ⟨by simp [hblocks], by simp [hblocks], hp, hfree, hx.symm⟩ (hc p x)

end Shape

section Align

variable {h₀ h : Heap} {kept : Nat → Prop} {s : Shape} {x y gap : Nat}

/-- A gap that is large enough becomes a block. -/
theorem heappAlign_cut (hx : sizeofHeapBlock ≤ x) (hy : y = x + gap)
    (hgap : sizeofHeapBlock + minimalFreeBlockSize ≤ gap) (hle : gap ≤ h.sizeOf x)
    (hfits : x + h.sizeOf x < 2 ^ 32) :
    heappAlign h x y = (heappInsertFree ((h.set .state y heapBlockFree).set .size y
      (h.sizeOf x - gap)) x y).set .size x (gap - sizeofHeapBlock) := by
  have hsub : y - x = gap := by omega
  have hkeep : (h.set .state y heapBlockFree).sizeOf x = h.sizeOf x := by
    refine (h.get_set (by omega) hx (by omega) (by decide)).trans ?_
    rw [if_neg (by simp)]
    rfl
  unfold heappAlign
  rw [Heap.sub_eq (by omega) (by omega), hsub]
  dsimp only
  rw [if_pos hgap, hkeep, Heap.sub_eq (by omega) (by omega)]
  dsimp only
  rw [Heap.sub_eq (by omega) (by omega)]

/-- One that is not goes to the block before. -/
theorem heappAlign_shift (hs : Stage h₀ kept h s []) {l₁ l₂ : List Nat} {p : Nat}
    (hshift : s.ShiftAt l₁ p x l₂ y gap) (hgap : gap < sizeofHeapBlock + minimalFreeBlockSize) :
    heappAlign h x y = heappBlockLink
      (((heappMove h x y).set .size p (s.size p + gap)).set .size y (s.size x - gap)) .free y := by
  have hsub : y - x = gap := by
    have hy := hshift.eq
    omega
  have hmem_iff := hshift.mem_iff hs.fits
  have hy : y ∈ l₁ ++ p :: y :: l₂ := (hmem_iff y).mpr (Or.inl rfl)
  have hp : p ∈ l₁ ++ p :: y :: l₂ := (hmem_iff p).mpr (Or.inr ⟨hshift.mem_prev, hshift.ne⟩)
  have hpy : p ≠ y := ne_of_mem_of_not_mem hshift.mem_prev (hshift.new hs.fits)
  have hsep := (hshift.fits hs.fits).separated (hshift.covers hs.fits hs.covers)
  -- what is read after the header has moved
  have hview := hs.viewMove hshift (by simp)
  have hphysical := hs.holds.physical
  have hself := hphysical.next_ne hs.fits.nodup hshift.mem hs.fits.nonnull
  rw [hshift.blocks] at hphysical
  obtain ⟨-, -, -, hprev, -⟩ := Links.linked_append.mp hphysical
  have hpprev : (heappMove h x y).pprev y = p := by
    refine (hview.fields y hy .pprev).trans ?_
    show (h.records.move x y).physical.prev y = p
    rw [Records.move_physical, Links.replace_prev hself, if_pos rfl]
    exact hprev
  have hsizep : (heappMove h x y).sizeOf p = s.size p := by
    refine (hview.fields p hp .size).trans ?_
    exact (Function.update_of_ne hpy _ _).trans (hs.holds.size p hshift.mem_prev)
  have hsizey : (heappMove h x y).sizeOf y = s.size x := by
    refine (hview.fields y hy .size).trans ?_
    exact (Function.update_self y _ _).trans (hs.holds.size x hshift.mem)
  have hboundx := hs.fits.le_total hshift.mem
  have hboundp := (hshift.fits hs.fits).le_total hp
  have hbounded := hs.fits.bounded
  rw [Shape.ShiftAt.shape, Shape.border_size, if_pos rfl] at hboundp
  have hkeep : ((heappMove h x y).set .size p (s.size p + gap)).sizeOf y = s.size x := by
    refine (Heap.get_set _ (hsep.bound p hp).1 (hsep.bound y hy).1 (hsep.apart p hp y hy)
      (by omega)).trans ?_
    rw [if_neg (fun hk => hpy hk.2.symm)]
    exact hsizey
  have hlt := hshift.lt
  have heq := hshift.eq
  unfold heappAlign
  rw [Heap.sub_eq (by omega) (by omega), hsub]
  dsimp only
  rw [if_neg (Nat.not_le_of_lt hgap)]
  obtain ⟨m, hm⟩ : ∃ m, m = heappMove h x y := ⟨_, rfl⟩
  show (
    let sum := (heappMove h x y).add ((heappMove h x y).sizeOf ((heappMove h x y).pprev y)) gap
    let grown := sum.2.set .size (sum.2.pprev y) sum.1
    let rest := grown.sub (grown.sizeOf y) gap
    heappBlockLink (rest.2.set .size y rest.1) .free y) = _
  rw [← hm] at hpprev hsizep hkeep ⊢
  rw [hpprev, hsizep, Heap.add_eq (by omega)]
  dsimp only
  rw [hpprev, hkeep, Heap.sub_eq (by omega) (by omega)]

/-- **Aligning** a free block, to where there is room for a block before it or a used
block that takes the gap. -/
theorem Stage.align (hs : Stage h₀ kept h s []) (hc : s.Coalesced) (hx : x ∈ s.blocks)
    (hfree : s.state x = .free) (hgap : 0 < gap) (hlt : gap < s.size x)
    (hfirst : h.pprev x = 0 → sizeofHeapBlock + minimalFreeBlockSize ≤ gap) :
    ∃ s', Stage h₀ kept (heappAlign h x (x + gap)) s' [] ∧
      s.Aligns s' (x + gap) (s.size x - gap) := by
  obtain ⟨l₁, l₂, hblocks⟩ := List.append_of_mem hx
  by_cases hlarge : sizeofHeapBlock + minimalFreeBlockSize ≤ gap
  · unfold minimalFreeBlockSize at hlarge
    have hcut : s.CutAt l₁ x l₂ (gap - sizeofHeapBlock) (x + gap) (s.size x - gap) :=
      ⟨hblocks, hfree, by omega, by omega, by omega, by omega⟩
    have hbound := hs.fits.le_total hx
    have hbounded := hs.fits.bounded
    have hsize := hs.holds.size x hx
    rw [heappAlign_cut (hs.fits.header_le hx) rfl hlarge (by omega) (by omega), hsize]
    exact ⟨_, hs.cut hcut (by simp), Shape.aligns_cut hs.fits hc hcut⟩
  · have hphysical := hs.holds.physical
    rw [hblocks] at hphysical
    have hprev : h.pprev x = l₁.getLastD 0 := hphysical.neighbours.1
    have hne : l₁ ≠ [] := by
      intro hnil
      rw [hnil] at hprev
      exact hlarge (hfirst hprev)
    obtain ⟨l, p, hl⟩ : ∃ l p, l₁ = l ++ [p] :=
      ⟨l₁.dropLast, l₁.getLast hne, (List.dropLast_append_getLast hne).symm⟩
    have hblocks' : s.blocks = l ++ p :: x :: l₂ := by simp [hblocks, hl]
    have hshift : s.ShiftAt l p x l₂ (x + gap) gap :=
      ⟨hblocks', hc.used_before hs.fits hblocks' hfree, hfree, hlt, hgap, rfl⟩
    rw [heappAlign_shift hs hshift (Nat.lt_of_not_le hlarge)]
    have haligns := Shape.aligns_shift hs.fits hc hshift
    exact ⟨_, (hs.shift hshift (by simp)).link haligns.mem (by simp) haligns.free, haligns⟩

/-- Growing the gap in steps of the alignment makes it large enough, and no larger than
that takes. -/
theorem heapGrowGap_eq {alignment fuel : Nat} (hpos : 0 < alignment)
    (hpage : alignment ≤ pageSize) (hfits : x + 2 * pageSize < 2 ^ 32)
    (hfuel : sizeofHeapBlock + minimalFreeBlockSize ≤ gap + fuel) (hdvd : alignment ∣ x + gap) :
    ∃ gap', heapGrowGap alignment fuel gap (x + gap) h = (gap', x + gap', h) ∧
      sizeofHeapBlock + minimalFreeBlockSize ≤ gap' ∧ gap ≤ gap' ∧ alignment ∣ x + gap' ∧
      (gap' = gap ∨ (gap < sizeofHeapBlock + minimalFreeBlockSize ∧
        gap' < sizeofHeapBlock + minimalFreeBlockSize + alignment)) := by
  induction fuel generalizing gap with
  | zero => exact ⟨gap, rfl, hfuel, Nat.le_refl gap, hdvd, Or.inl rfl⟩
  | succ fuel ih =>
    rw [heapGrowGap]
    by_cases hsmall : gap < sizeofHeapBlock + minimalFreeBlockSize
    · have hsum : x + gap + alignment = x + (gap + alignment) := Nat.add_assoc x gap alignment
      have hdvd' : alignment ∣ x + (gap + alignment) :=
        hsum ▸ Nat.dvd_add hdvd (Nat.dvd_refl alignment)
      obtain ⟨gap', heq, hlarge, hle, hd, hcases⟩ := ih (by omega) hdvd'
      rw [if_pos hsmall]
      have hgap : gap < 40 := hsmall
      unfold pageSize at hpage hfits
      rw [Heap.add_eq (by omega)]
      dsimp only
      rw [Heap.add_eq (by omega)]
      dsimp only
      rw [hsum, heq]
      exact ⟨gap', rfl, hlarge, by omega, hd, Or.inr ⟨hsmall, by omega⟩⟩
    · rw [if_neg hsmall]
      exact ⟨gap, rfl, Nat.le_of_not_lt hsmall, Nat.le_refl gap, hdvd, Or.inl rfl⟩

end Align

/-! ## First fit -/

section Alloc

variable {h₀ h : Heap} {kept : Nat → Prop} {s : Shape} {n alignment : Nat}

/-- One of the lists of a heap, and that its length is no more than the fuel. -/
theorem Holds.list (hh : Holds h s []) (i : HeapList) : ∃ l,
    h.records.virtual.links.Linked 0 l 0 ∧ h.head i = l.headD 0 ∧ 0 ∉ l ∧ l.length ≤ h.size ∧
      ∀ x, x ∈ l ↔ x ∈ s.blocks ∧ s.state x = i := by
  obtain ⟨lists, hhold, hmem⟩ := hh.virtual
  have hsub : lists i ⊆ s.blocks := fun x hx => ((hmem i x).mp hx).1
  have hlength := List.Nodup.length_le_of_subset (hhold.nodup i) hsub
  have htiles := tiles_length hh.fits.tiles
  unfold sizeofHeapBlock at htiles
  refine ⟨lists i, hhold.linked i, hhold.head i, hhold.nonnull i, by omega, fun x => ?_⟩
  rw [hmem i x]
  simp

/-- What an allocation of `n` bytes returns: NULL and the same heap, or the pointer to
a block it made live. -/
def Allocation (h₀ h : Heap) (kept : Nat → Prop) (s : Shape) (n alignment : Nat)
    (result : Nat × Heap) : Prop :=
  result = (0, h) ∨ ∃ x s', result.1 = h.pointer x ∧ alignment ∣ x ∧
    Stage h₀ kept result.2 s' [] ∧ s.Grants s' x n

/-- The search takes the first block that is large enough. -/
theorem heapAllocLoop_eq {l : List Nat} {b fuel : Nat}
    (hl : h.records.virtual.links.Linked b l 0) (hnull : 0 ∉ l) (hfuel : l.length ≤ fuel) :
    heapAllocLoop h n fuel (l.headD 0) = match l.find? (fun x => n ≤ h.sizeOf x) with
      | none => (0, h)
      | some x => (h.pointer x, heappSplit h x n) := by
  induction l generalizing b fuel with
  | nil =>
    cases fuel with
    | zero => rfl
    | succ fuel => rfl
  | cons x l ih =>
    obtain ⟨hx, hnull⟩ := List.ne_and_not_mem_of_not_mem_cons hnull
    cases fuel with
    | zero => exact absurd hfuel (by simp)
    | succ fuel =>
      have hnext : h.vnext x = l.headD 0 := hl.2.1
      rw [List.headD_cons, heapAllocLoop, if_neg (Ne.symm hx), List.find?_cons, hnext,
        ih hl.2.2 hnull (Nat.le_of_succ_le_succ hfuel)]
      by_cases hsize : n ≤ h.sizeOf x
      · rw [if_pos hsize, decide_eq_true hsize]
      · rw [if_neg hsize, decide_eq_false hsize]

/-- **`HeapAlloc`.** -/
theorem Stage.alloc (hs : Stage h₀ kept h s []) (hc : s.Coalesced) :
    Allocation h₀ h kept s n 1 (heapAlloc h n) := by
  unfold heapAlloc
  split
  next => exact Or.inl rfl
  next hn =>
    obtain ⟨l, hl, hhead, hnull, hlength, hmem⟩ := hs.holds.list .free
    have hfree : h.freeList = l.headD 0 := hhead
    rw [hfree, heapAllocLoop_eq hl hnull hlength]
    split
    next => exact Or.inl rfl
    next x hfind =>
      obtain ⟨hx, hxfree⟩ := (hmem x).mp (List.mem_of_find?_eq_some hfind)
      have hle : n ≤ h.sizeOf x := by simpa using List.find?_some hfind
      rw [hs.holds.size x hx] at hle
      obtain ⟨s', hs', hgrants⟩ := hs.split hx hxfree (Nat.pos_of_ne_zero hn) hle
        (fun a b hpair => absurd hpair (hc a b))
      exact Or.inr ⟨x, s', rfl, Nat.one_dvd x, hs', hgrants⟩

/-- Where `HeapAllocAligned` puts a block behind `x`. -/
def heapGap (h : Heap) (alignment x : Nat) : Nat :=
  if h.pprev x = 0 then
    (heapGrowGap alignment (sizeofHeapBlock + minimalFreeBlockSize)
      ((x / alignment + 1) * alignment - x) ((x / alignment + 1) * alignment) h).1
  else (x / alignment + 1) * alignment - x

/-- The first multiple of the alignment that is larger than `x`. -/
theorem next_multiple (x : Nat) {alignment : Nat} (hpos : 0 < alignment) :
    x < (x / alignment + 1) * alignment ∧ (x / alignment + 1) * alignment ≤ x + alignment := by
  have hdiv := Nat.div_add_mod x alignment
  have hmod := Nat.mod_lt x hpos
  rw [Nat.mul_comm] at hdiv
  rw [Nat.succ_mul]
  omega

/-- The block without a predecessor is the first. -/
theorem Holds.first {x : Nat} {off : List Nat} (hh : Holds h s off) (hx : x ∈ s.blocks)
    (hprev : h.pprev x = 0) : x = start := by
  obtain ⟨l₁, l₂, hblocks⟩ := List.append_of_mem hx
  have hphysical := hh.physical
  have htiles := hh.fits.tiles
  rw [hblocks] at hphysical htiles
  have hlast : l₁.getLastD 0 = 0 := hphysical.neighbours.1.symm.trans hprev
  cases l₁ with
  | nil => exact htiles.1
  | cons y l₁ =>
    have hmem : (y :: l₁).getLastD 0 ∈ y :: l₁ := by
      rw [List.getLastD_eq_getLast?, List.getLast?_eq_some_getLast (by simp)]
      exact List.getLast_mem _
    rw [hlast] at hmem
    exact absurd (hblocks ▸ List.mem_append_left _ hmem) hh.fits.nonnull

/-- What the gap of a block is. -/
structure GapOk (h : Heap) (alignment x gap : Nat) : Prop where
  positive : 0 < gap
  le : gap ≤ pageSize
  dvd : alignment ∣ x + gap
  first : h.pprev x = 0 → sizeofHeapBlock + minimalFreeBlockSize ≤ gap

/-- The computation of the gap in `HeapAllocAligned`, and that nothing in it wraps. -/
theorem heapGap_eq {x : Nat} {off : List Nat} (hh : Holds h s off) (hx : x ∈ s.blocks)
    (hpos : 0 < alignment) (hpage : alignment ≤ pageSize) :
    GapOk h alignment x (heapGap h alignment x) ∧
      (if h.pprev x = 0 then heapGrowGap alignment (sizeofHeapBlock + minimalFreeBlockSize)
          ((x / alignment + 1) * alignment - x) ((x / alignment + 1) * alignment) h
        else ((x / alignment + 1) * alignment - x, (x / alignment + 1) * alignment, h))
      = (heapGap h alignment x, x + heapGap h alignment x, h) := by
  obtain ⟨hlo, hhi⟩ := next_multiple x hpos
  obtain ⟨gap, hgap⟩ := Nat.le.dest (Nat.le_of_lt hlo)
  have hdvd : alignment ∣ x + gap := hgap ▸ Nat.dvd_mul_left alignment _
  have hsub : x + gap - x = gap := Nat.add_sub_cancel_left x gap
  rw [← hgap, heapGap, ← hgap, hsub]
  by_cases hprev : h.pprev x = 0
  · have hstart := hh.first hx hprev
    rw [if_pos hprev, if_pos hprev]
    have hfits : x + 2 * pageSize < 2 ^ 32 := by
      rw [hstart]
      decide
    obtain ⟨gap', heq, hlarge, hle, hd, hcases⟩ := @heapGrowGap_eq h x gap alignment
      (sizeofHeapBlock + minimalFreeBlockSize) hpos hpage hfits (Nat.le_add_left _ _) hdvd
    have hal : alignment ≤ x + gap := Nat.le_of_dvd (by omega) hdvd
    unfold start sizeofHeapBlock at hstart
    rw [heq]
    refine ⟨⟨by omega, ?_, hd, fun _ => hlarge⟩, rfl⟩
    unfold sizeofHeapBlock minimalFreeBlockSize at hcases
    unfold pageSize at hpage ⊢
    omega
  · rw [if_neg hprev, if_neg hprev]
    exact ⟨⟨by omega, by omega, hdvd, fun hzero => absurd hzero hprev⟩, rfl⟩

/-- The search takes the first block with room behind its gap. -/
theorem heapAllocAlignedLoop_eq {l : List Nat} {b fuel : Nat} (hh : Holds h s [])
    (hpos : 0 < alignment) (hpage : alignment ≤ pageSize) (hroom : h.size + pageSize < 2 ^ 32)
    (hl : h.records.virtual.links.Linked b l 0) (hblocks : ∀ x ∈ l, x ∈ s.blocks)
    (hnull : 0 ∉ l) (hfuel : l.length ≤ fuel) :
    heapAllocAlignedLoop n alignment fuel (l.headD 0) h
      = match l.find? (fun x => heapGap h alignment x + n ≤ h.sizeOf x) with
        | none => (0, h)
        | some x => (h.pointer (x + heapGap h alignment x),
            heappSplit (heappAlign h x (x + heapGap h alignment x))
              (x + heapGap h alignment x) n) := by
  induction l generalizing b fuel with
  | nil =>
    cases fuel with
    | zero => rfl
    | succ fuel => rfl
  | cons x l ih =>
    obtain ⟨hx, hnull⟩ := List.ne_and_not_mem_of_not_mem_cons hnull
    cases fuel with
    | zero => exact absurd hfuel (by simp)
    | succ fuel =>
      have hnext : h.vnext x = l.headD 0 := hl.2.1
      have hmem := hblocks x List.mem_cons_self
      have hbound := hh.fits.le_total hmem
      rw [← hh.size x hmem] at hbound
      obtain ⟨hok, hgap⟩ := heapGap_eq hh hmem hpos hpage
      obtain ⟨hlo, hhi⟩ := next_multiple x hpos
      have hdiv := Nat.div_le_self x alignment
      have hrest := ih hl.2.2 (fun y hy => hblocks y (List.mem_cons_of_mem x hy)) hnull
        (Nat.le_of_succ_le_succ hfuel)
      have hsmall := hok.le
      unfold pageSize at hpage hroom hsmall
      rw [List.headD_cons, heapAllocAlignedLoop, if_neg (Ne.symm hx), List.find?_cons,
        Heap.add_eq (by omega)]
      dsimp only
      rw [Heap.mul_eq (by omega)]
      dsimp only
      rw [if_neg (Nat.ne_of_gt hlo), Heap.sub_eq (Nat.le_of_lt hlo) (by omega)]
      dsimp only
      rw [hgap]
      dsimp only
      by_cases hsize : n ≤ h.sizeOf x
      · rw [if_pos hsize, Heap.add_eq (by omega)]
        dsimp only
        by_cases hneeded : heapGap h alignment x + n ≤ h.sizeOf x
        · rw [if_pos hneeded, decide_eq_true hneeded]
        · rw [if_neg hneeded, decide_eq_false hneeded, hnext, hrest]
      · rw [if_neg hsize, decide_eq_false (by omega), hnext, hrest]

/-- **`HeapAllocAligned`.** -/
theorem Stage.allocAligned (hs : Stage h₀ kept h s []) (hc : s.Coalesced)
    (hpage : alignment ≤ pageSize) (hroom : h.size + pageSize < 2 ^ 32) :
    Allocation h₀ h kept s n alignment (heapAllocAligned h n alignment) := by
  unfold heapAllocAligned
  split
  next => exact Or.inl rfl
  next hn =>
    split
    next => exact Or.inl rfl
    next hpower =>
      have hpos : 0 < alignment := Nat.pos_of_ne_zero (fun hzero => hpower (Or.inl hzero))
      obtain ⟨l, hl, hhead, hnull, hlength, hmem⟩ := hs.holds.list .free
      have hfree : h.freeList = l.headD 0 := hhead
      rw [hfree, heapAllocAlignedLoop_eq hs.holds hpos hpage hroom hl
        (fun x hx => ((hmem x).mp hx).1) hnull hlength]
      split
      next => exact Or.inl rfl
      next x hfind =>
        obtain ⟨hx, hxfree⟩ := (hmem x).mp (List.mem_of_find?_eq_some hfind)
        have hle : heapGap h alignment x + n ≤ h.sizeOf x := by
          simpa using List.find?_some hfind
        rw [hs.holds.size x hx] at hle
        obtain ⟨hok, -⟩ := heapGap_eq hs.holds hx hpos hpage
        obtain ⟨s₁, hs₁, haligns⟩ :=
          hs.align hc hx hxfree hok.positive (by omega) hok.first
        obtain ⟨s₂, hs₂, hgrants⟩ := hs₁.split haligns.mem haligns.free (Nat.pos_of_ne_zero hn)
          (by rw [haligns.size]; omega) haligns.but
        exact Or.inr ⟨_, s₂, rfl, hok.dvd, hs₂, hgrants.coalesced,
          haligns.keeps.trans hgrants.keeps, fun hlive => haligns.fresh hlive.1, hgrants.live,
          hgrants.size⟩

end Alloc

end DeepShield.Mem
