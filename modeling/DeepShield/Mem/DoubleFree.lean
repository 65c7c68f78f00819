import DeepShield.Mem.HeapRuns

/-!
# Freeing twice

`HeapFree` refuses a pointer whose header does not say that its block is in use, which is
meant to make a second `HeapFree` harmless. Freeing does write FREE into the header where
the block stays a block. Where the block before it is free, it becomes part of that one,
and its own header is left behind as it was: that of a block in use between the same
neighbours. The next call takes it for one, and adds its size to the block before it once
more (`Holds.refree`).

`Stale` says what is left behind. Each call that joins keeps it, so it describes the heap
after the first call and after every further one.
-/

namespace DeepShield.Mem

open DeepShield.Lib

/-- Two heaps with the same chain, lists, sizes and states. -/
structure Heap.Alike (h h' : Heap) : Prop where
  blocks : h'.blocks = h.blocks
  pprev : ∀ x ∈ h.blocks, h'.pprev x = h.pprev x
  list : ∀ i, h'.list i = h.list i
  vprev : ∀ x ∈ h.blocks, h'.vprev x = h.vprev x
  size : ∀ x ∈ h.blocks, h'.sizeOf x = h.sizeOf x
  state : ∀ x ∈ h.blocks, h'.state x = h.state x

theorem Heap.Alike.refl (h : Heap) : h.Alike h :=
  ⟨rfl, fun _ _ => rfl, fun _ => rfl, fun _ _ => rfl, fun _ _ => rfl, fun _ _ => rfl⟩

/-- A second `HeapFree` of the pointer changes nothing. -/
def SecondFreeHarmless (h : Heap) (pointer : Nat) : Prop :=
  (heapFree h pointer).Alike (heapFree (heapFree h pointer) pointer)

/-- The block before `x` in memory is free. -/
def FreeBefore (h : Heap) (x : Nat) : Prop :=
  h.pprev x ≠ 0 ∧ h.state (h.pprev x) = heapBlockFree

/-! ## What the assignments leave alone -/

section Fields

variable {h : Heap} {L : List Nat} {x z n : Nat}

/-- Unlinking a block changes a link of each of its neighbours on the list. -/
theorem unlink_get (hsep : Separated (fun _ => False) L) (list : HeapList) (hx : x ∈ L)
    (hnext : h.vnext x ≠ 0 → h.vnext x ∈ L) (hprev : h.vprev x ≠ 0 → h.vprev x ∈ L) (hz : z ∈ L)
    (field : HeapField) (hkeep : (field ≠ .vnext ∧ field ≠ .vprev) ∨
      (z ≠ h.vnext x ∧ z ≠ h.vprev x)) :
    (heappBlockUnlink h list x).get field z = h.get field z := by
  have hview := (View.start h (fun _ => False) L).unlink hsep list hx hnext hprev
  rw [hview.fields z hz field]
  cases field with
  | vnext =>
    have hne : z ≠ h.vprev x := (hkeep.resolve_left fun hk => hk.1 rfl).2
    exact (Links.unlink_next x z).trans (if_neg fun hk => hne hk.1)
  | vprev =>
    have hne : z ≠ h.vnext x := (hkeep.resolve_left fun hk => hk.2 rfl).1
    exact (Links.unlink_prev x z).trans (if_neg fun hk => hne hk.1)
  | _ => rfl

/-- Joining changes the block it is joined to and the one that follows. -/
theorem join_get (hsep : Separated (fun _ => False) L) {w : Nat} (hx : x ∈ L)
    (hw : w ≠ 0 → w ∈ L) (hn : n < 2 ^ 32) (hz : z ∈ L) (field : HeapField)
    (hkeep : field = .state ∨ (z ≠ x ∧ z ≠ w)) :
    (heappJoin h x w n).get field z = h.get field z := by
  have hview := (View.start h (fun _ => False) L).join hsep hx hw hn
  rw [hview.fields z hz field]
  cases field with
  | size =>
    have hne : z ≠ x := (hkeep.resolve_left (by decide)).1
    exact Function.update_of_ne hne _ _
  | pnext =>
    have hne : z ≠ x := (hkeep.resolve_left (by decide)).1
    exact (Links.joinAfter_next x w z).trans (if_neg hne)
  | pprev =>
    have hne : z ≠ w := (hkeep.resolve_left (by decide)).2
    exact (Links.joinAfter_prev x w z).trans (if_neg fun hk => hne hk.1)
  | _ => rfl

theorem join_size (hsep : Separated (fun _ => False) L) {w : Nat} (hx : x ∈ L)
    (hw : w ≠ 0 → w ∈ L) (hn : n < 2 ^ 32) : (heappJoin h x w n).sizeOf x = n := by
  have hview := (View.start h (fun _ => False) L).join hsep hx hw hn
  refine (hview.fields x hx .size).trans ?_
  show Function.update h.sizeOf x n x = n
  rw [Function.update_self]

end Fields

/-! ## What is left behind -/

/-- The headers of the blocks of `gone` are in `g` as they were in `h`, where they were
blocks; and every block of `h` has its state. -/
structure Stale (h : Heap) (s : Shape) (gone : List Nat) (g : Heap) : Prop where
  header : ∀ z ∈ gone, ∀ field, g.get field z = h.get field z
  state : ∀ z ∈ s.blocks, g.state z = h.state z
  memory : g.memory = h.memory
  size : g.size = h.size

section Stale

variable {h g : Heap} {s : Shape} {gone : List Nat} {x z n : Nat}

theorem Stale.refl (h : Heap) (s : Shape) (gone : List Nat) : Stale h s gone h :=
  ⟨fun _ _ _ => rfl, fun _ _ => rfl, rfl, rfl⟩

theorem Holds.separated (hh : Holds h s []) : Separated (fun _ => False) s.blocks :=
  @Shape.Fits.separated s h.size [] (fun _ => False) hh.fits fun _ hk => hk.elim

/-- The neighbours of a block on its list are other blocks of that list. -/
theorem Holds.listed (hh : Holds h s []) (hx : x ∈ s.blocks) :
    (h.vnext x ≠ x ∧ (h.vnext x ≠ 0 → h.vnext x ∈ s.blocks ∧ s.state (h.vnext x) = s.state x)) ∧
      h.vprev x ≠ x ∧ (h.vprev x ≠ 0 → h.vprev x ∈ s.blocks ∧ s.state (h.vprev x) = s.state x) := by
  obtain ⟨lists, hhold, hmem⟩ := hh.virtual
  have hlisted : x ∈ lists (s.state x) := (hmem _ x).mpr ⟨hx, by simp, rfl⟩
  have hlinked := hhold.linked (s.state x)
  have hnodup := hhold.nodup (s.state x)
  have hnonnull := hhold.nonnull (s.state x)
  refine ⟨⟨hlinked.next_ne hnodup hlisted hnonnull, fun hne => ?_⟩,
    hlinked.prev_ne hnodup hlisted hnonnull, fun hne => ?_⟩
  · obtain ⟨hblock, -, hstate⟩ := (hmem _ _).mp (hhold.next_mem hlisted hne)
    exact ⟨hblock, hstate⟩
  · obtain ⟨hblock, -, hstate⟩ := (hmem _ _).mp (hhold.prev_mem hlisted hne)
    exact ⟨hblock, hstate⟩

/-- **Unlinking** a block that is gone changes no header that is gone: its neighbours are
still blocks, in the state it was in. -/
theorem Stale.unlink (hg : Stale h s gone g) (hh : Holds h s []) {i : HeapList} (hx : x ∈ gone)
    (hgone : ∀ z ∈ gone, z ∈ s.blocks ∧ (z = x ∨ s.state z ≠ s.state x)) :
    Stale h s gone (heappBlockUnlink g i x) ∧
      ∀ z ∈ s.blocks, (heappBlockUnlink g i x).sizeOf z = g.sizeOf z := by
  have hxmem := (hgone x hx).1
  have hvnext : g.vnext x = h.vnext x := hg.header x hx .vnext
  have hvprev : g.vprev x = h.vprev x := hg.header x hx .vprev
  obtain ⟨⟨hnextne, hnext⟩, hprevne, hprev⟩ := hh.listed hxmem
  have hnext' : g.vnext x ≠ 0 → g.vnext x ∈ s.blocks := by
    rw [hvnext]
    exact fun hne => (hnext hne).1
  have hprev' : g.vprev x ≠ 0 → g.vprev x ∈ s.blocks := by
    rw [hvprev]
    exact fun hne => (hprev hne).1
  have hview := (View.start g (fun _ => False) s.blocks).unlink hh.separated i hxmem hnext' hprev'
  have hget := fun z hz field hkeep =>
    @unlink_get g s.blocks x z hh.separated i hxmem hnext' hprev' hz field hkeep
  refine ⟨⟨?_, ?_, hview.memory.trans hg.memory, hview.size.trans hg.size⟩,
    fun z hz => hget z hz .size (Or.inl (by decide))⟩
  · intro z hz field
    obtain ⟨hzmem, hzx⟩ := hgone z hz
    have hzne : z ≠ 0 := ne_of_mem_of_not_mem hzmem hh.fits.nonnull
    rw [hget z hzmem field (Or.inr ⟨?_, ?_⟩)]
    · exact hg.header z hz field
    · rw [hvnext]
      rintro rfl
      exact hzx.elim hnextne fun hne => hne (hnext hzne).2
    · rw [hvprev]
      rintro rfl
      exact hzx.elim hprevne fun hne => hne (hprev hzne).2
  · intro z hz
    exact (hget z hz .state (Or.inl (by decide))).trans (hg.state z hz)

/-- **Joining** two blocks that are not gone. -/
theorem Stale.join (hg : Stale h s gone g) (hh : Holds h s []) {p w : Nat} (hp : p ∈ s.blocks)
    (hw : w ≠ 0 → w ∈ s.blocks) (hn : n < 2 ^ 32)
    (hgone : ∀ z ∈ gone, z ∈ s.blocks ∧ z ≠ p ∧ z ≠ w) :
    Stale h s gone (heappJoin g p w n) ∧ (heappJoin g p w n).sizeOf p = n := by
  have hview := (View.start g (fun _ => False) s.blocks).join hh.separated hp hw hn
  refine ⟨⟨?_, ?_, hview.memory.trans hg.memory, hview.size.trans hg.size⟩,
    join_size hh.separated hp hw hn⟩
  · intro z hz field
    obtain ⟨hzmem, hne⟩ := hgone z hz
    rw [join_get hh.separated hp hw hn hzmem field (Or.inr hne)]
    exact hg.header z hz field
  · intro z hz
    exact (join_get hh.separated hp hw hn hz .state (Or.inl rfl)).trans (hg.state z hz)

/-- Only the note of wrapping differs. -/
theorem Stale.add (hg : Stale h s gone g) (a b : Nat) : Stale h s gone (g.add a b).2 :=
  ⟨hg.header, hg.state, hg.memory, hg.size⟩

/-- What the conditions of the cases say of a heap with the old states. -/
theorem Stale.open_iff (hg : Stale h s gone g) (hh : Holds h s []) (hz : z ≠ 0 → z ∈ s.blocks) :
    (z ≠ 0 ∧ g.state z = heapBlockFree) ↔ s.Open z := by
  rw [← hh.open_iff hz]
  exact and_congr_right fun hne => by rw [hg.state z (hz hne)]

theorem Stale.closed_iff (hg : Stale h s gone g) (hh : Holds h s [])
    (hz : z ≠ 0 → z ∈ s.blocks) : (z = 0 ∨ g.state z = heapBlockUsed) ↔ ¬ s.Open z := by
  rw [← hh.closed_iff hz]
  by_cases hzero : z = 0
  · exact iff_of_true (Or.inl hzero) (Or.inl hzero)
  · rw [hg.state z (hz hzero)]

/-- The header that is left behind passes the checks as the block did. -/
theorem Stale.free_eq (hg : Stale h s gone g) (hh : Holds h s []) (hx : s.Live x)
    (hgone : x ∈ gone) : heappFree g x false
      = heappCoalesce (heappBlockUnlink g .used x) (h.pprev x) x (h.pnext x) false := by
  have hstate : g.state x = h.state x := hg.header x hgone .state
  have hsize : g.sizeOf x = h.sizeOf x := hg.header x hgone .size
  have hprev : g.pprev x = h.pprev x := hg.header x hgone .pprev
  have hnext : g.pnext x = h.pnext x := hg.header x hgone .pnext
  have hrefused : heappFreeRefused g x = heappFreeRefused h x := by
    unfold heappFreeRefused
    rw [hstate, hsize, hprev, hnext, hg.size]
  unfold heappFree
  rw [hrefused, hh.not_refused hx, hprev, hnext]
  rfl

variable {l₁ l₂ : List Nat} {p y : Nat}

/-- F [U] U => F F U: a block that the one before has taken in is taken in again. -/
theorem Stale.freePrev (hg : Stale h s [x] g) (hh : Holds h s []) (hx : s.Live x)
    (hblocks : s.blocks = l₁ ++ p :: x :: l₂) (hopen : s.Open p) (hnext : ¬ s.Open (l₂.headD 0)) :
    Stale h s [x] (heappFree g x false) ∧ (heappFree g x false).sizeOf p
      = (sizeofHeapBlock + s.size x + g.sizeOf p) % 2 ^ 32 := by
  have hp : p ∈ s.blocks := by simp [hblocks]
  have hblocks' : s.blocks = (l₁ ++ [p]) ++ x :: l₂ := by simp [hblocks]
  have hz := mem_headD hblocks'
  have hnodup := hblocks ▸ hh.fits.nodup
  have hprevx : h.pprev x = p := by
    have hlast := (hblocks' ▸ hh.physical).neighbours.1
    rwa [List.getLastD_concat] at hlast
  have hnextx := hh.pnext_eq hblocks'
  -- off the used list
  obtain ⟨hu, husize⟩ := hg.unlink hh (i := .used) (List.mem_singleton.mpr rfl) (by
    intro z hz
    rw [List.mem_singleton.mp hz]
    exact ⟨hx.1, Or.inl rfl⟩)
  rw [hg.free_eq hh hx (List.mem_singleton.mpr rfl), hprevx, hnextx]
  obtain ⟨u, hueq⟩ : ∃ u, u = heappBlockUnlink g .used x := ⟨_, rfl⟩
  rw [← hueq] at hu husize ⊢
  have hsizex : u.sizeOf x = s.size x :=
    (hu.header x (List.mem_singleton.mpr rfl) .size).trans (hh.size x hx.1)
  have hopen' := (hu.open_iff hh fun _ => hp).mpr hopen
  have hclosed := (hu.closed_iff hh hz).mpr hnext
  -- and joined
  have hxp : x ≠ p := by grind [List.nodup_append]
  have hxz : x ≠ l₂.headD 0 := by
    intro heq
    rcases Links.headD_mem l₂ 0 with hzero | hmem
    · exact hh.fits.nonnull ((heq.trans hzero) ▸ hx.1)
    · exact (Links.nodup_around (hblocks' ▸ hh.fits.nodup)).2.1 (heq ▸ hmem)
  obtain ⟨hjoined, hsize⟩ := (hu.add (sizeofHeapBlock + u.sizeOf x) (u.sizeOf p)).join hh hp hz
    (Nat.mod_lt (sizeofHeapBlock + u.sizeOf x + u.sizeOf p) (Nat.two_pow_pos 32)) (by
    intro z hz
    rw [List.mem_singleton.mp hz]
    exact ⟨hx.1, hxp, hxz⟩)
  have hthird := @heappFreePrev_eq u x false p _ hopen' hclosed
  rw [heappCoalesce_behindFree hopen', hthird, heappFreeBoth,
    if_neg (fun hk => hnext ((hjoined.open_iff hh hz).mp hk.2))]
  refine ⟨hjoined, hsize.trans ?_⟩
  rw [hsizex, husize p hp]

/-- F [U F] => F F F: so is one with the block behind it. -/
theorem Stale.freeBoth (hg : Stale h s [x, y] g) (hh : Holds h s []) (hx : s.Live x)
    (hblocks : s.blocks = l₁ ++ p :: x :: y :: l₂) (hopen : s.Open p) (hnext : s.Open y) :
    Stale h s [x, y] (heappFree g x false) ∧ (heappFree g x false).sizeOf p
      = (sizeofHeapBlock + s.size x + sizeofHeapBlock + s.size y + g.sizeOf p) % 2 ^ 32 := by
  have hp : p ∈ s.blocks := by simp [hblocks]
  have hy : y ∈ s.blocks := by simp [hblocks]
  have hblocks' : s.blocks = (l₁ ++ [p]) ++ x :: y :: l₂ := by simp [hblocks]
  have hblocks'' : s.blocks = (l₁ ++ [p, x]) ++ y :: l₂ := by simp [hblocks]
  have hz := mem_headD hblocks''
  have hnodup := hblocks ▸ hh.fits.nodup
  have hprevx : h.pprev x = p := by
    have hlast := (hblocks' ▸ hh.physical).neighbours.1
    rwa [List.getLastD_concat] at hlast
  have hnextx : h.pnext x = y := hh.pnext_eq hblocks'
  have hmem : ∀ z ∈ [x, y], z ∈ s.blocks := by
    intro z hz
    rcases List.mem_cons.mp hz with rfl | hzy
    · exact hx.1
    · exact List.mem_singleton.mp hzy ▸ hy
  have hstates : s.state y ≠ s.state x := by
    rw [hnext.2, hx.2]
    decide
  -- off the used list, and the one behind it off the free list
  obtain ⟨hu, husize⟩ := hg.unlink hh (i := .used) (x := x) (by simp) (by
    intro z hz
    refine ⟨hmem z hz, ?_⟩
    rcases List.mem_cons.mp hz with hzx | hzy
    · exact Or.inl hzx
    · exact Or.inr (List.mem_singleton.mp hzy ▸ hstates))
  rw [hg.free_eq hh hx (by simp), hprevx, hnextx]
  obtain ⟨u, hueq⟩ : ∃ u, u = heappBlockUnlink g .used x := ⟨_, rfl⟩
  rw [← hueq] at hu husize ⊢
  have hopen' := (hu.open_iff hh fun _ => hp).mpr hopen
  have hnext' := (hu.open_iff hh fun _ => hy).mpr hnext
  obtain ⟨hv, hvsize⟩ := hu.unlink hh (i := .free) (x := y) (by simp) (by
    intro z hz
    refine ⟨hmem z hz, ?_⟩
    rcases List.mem_cons.mp hz with hzx | hzy
    · exact Or.inr (hzx ▸ hstates.symm)
    · exact Or.inl (List.mem_singleton.mp hzy))
  obtain ⟨v, hveq⟩ : ∃ v, v = heappBlockUnlink u .free y := ⟨_, rfl⟩
  rw [← hveq] at hv hvsize
  have hsizex : v.sizeOf x = s.size x := (hv.header x (by simp) .size).trans (hh.size x hx.1)
  have hsizey : v.sizeOf y = s.size y := (hv.header y (by simp) .size).trans (hh.size y hy)
  -- and both joined
  obtain ⟨⟨n, w⟩, hadd⟩ : ∃ sum, sum = v.add
    (sizeofHeapBlock + v.sizeOf x + sizeofHeapBlock + v.sizeOf y) (v.sizeOf p) := ⟨_, rfl⟩
  obtain ⟨hn, hweq⟩ := Prod.mk.inj hadd
  have hw : Stale h s [x, y] w := hweq ▸ hv.add _ _
  have hpy : p ≠ y := by grind [List.nodup_append]
  have hxp : x ≠ p := by grind [List.nodup_append]
  have hwnext : w.pnext y = l₂.headD 0 :=
    (hw.header y (by simp) .pnext).trans (hh.pnext_eq hblocks'')
  obtain ⟨hjoined, hsize⟩ := hw.join hh hp hz (hn ▸ Nat.mod_lt _ (Nat.two_pow_pos 32)) (by
    intro z hzgone
    refine ⟨hmem z hzgone, ?_, fun heq => ?_⟩
    · rcases List.mem_cons.mp hzgone with rfl | hzy
      · exact hxp
      · exact List.mem_singleton.mp hzy ▸ hpy.symm
    · rcases Links.headD_mem l₂ 0 with hzero | hmem'
      · exact hh.fits.nonnull ((heq.trans hzero) ▸ hmem z hzgone)
      · grind [List.nodup_append])
  rw [heappCoalesce_behindFree hopen', heappFreePrev_skip hnext', heappFreeBoth_eq hopen' hnext'
    (hh.fits.header_le hp) (hh.fits.header_le hy) (hh.separated.apart p hp y hy hpy) hveq hadd,
    hwnext]
  refine ⟨hjoined, hsize.trans ?_⟩
  rw [hn, hsizex, hsizey, hvsize p hp, husize p hp]

/-- **Every further `HeapFree`** of a block whose predecessor was free adds to the size of
that one again. -/
theorem Holds.refree (hh : Holds h s []) (hx : s.Live x) (hopen : s.Open (h.pprev x)) :
    ∃ gone n, 0 < n ∧ n < 2 ^ 32 ∧ ∀ g, Stale h s gone g → Stale h s gone (heappFree g x false) ∧
      (heappFree g x false).sizeOf (h.pprev x) = (n + g.sizeOf (h.pprev x)) % 2 ^ 32 := by
  obtain ⟨l₁, l₂, hblocks⟩ := List.append_of_mem hx.1
  have hprev : h.pprev x = l₁.getLastD 0 := (hblocks ▸ hh.physical).neighbours.1
  obtain ⟨l, p, hl⟩ : ∃ l p, l₁ = l ++ [p] := by
    rcases List.eq_nil_or_concat' l₁ with hnil | hconcat
    · exact absurd (hprev.trans (hnil ▸ rfl)) hopen.1
    · exact hconcat
  rw [hl, List.getLastD_concat] at hprev
  rw [hprev] at hopen ⊢
  have hblocks' : s.blocks = l ++ p :: x :: l₂ := by simp [hblocks, hl]
  have hbounded := hh.fits.bounded
  have hheader := hh.fits.header_le hx.1
  have hbound := hh.fits.le_total hx.1
  obtain ⟨_, _, _, hxp, hrest⟩ := tiles_around (hblocks' ▸ hh.fits.tiles)
  by_cases hnext : s.Open (l₂.headD 0)
  · cases l₂ with
    | nil => exact absurd rfl hnext.1
    | cons y l₂ =>
      have hyx : y = x + s.size x + sizeofHeapBlock := hrest.1
      have hbound' := hh.fits.le_total (by simp [hblocks'] : y ∈ s.blocks)
      unfold sizeofHeapBlock at hheader hyx
      refine ⟨[x, y], sizeofHeapBlock + s.size x + sizeofHeapBlock + s.size y, ?_, ?_,
        fun g hg => hg.freeBoth hh hx hblocks' hopen hnext⟩
      · unfold sizeofHeapBlock
        omega
      · unfold sizeofHeapBlock
        omega
  · unfold sizeofHeapBlock at hheader
    refine ⟨[x], sizeofHeapBlock + s.size x, ?_, ?_,
      fun g hg => hg.freePrev hh hx hblocks' hopen hnext⟩
    · unfold sizeofHeapBlock
      omega
    · unfold sizeofHeapBlock
      omega

/-- The second `HeapFree` of one heap. -/
theorem Sound.secondFree_iff (hs : Sound h s) (hx : s.Live x) :
    SecondFreeHarmless h (h.pointer x) ↔ ¬ FreeBefore h x := by
  obtain ⟨s', q, hsteps, hfreed, hjoined, hself⟩ := hs.free hx
  have habsorbs := hfreed.absorbs
  have hbefore : FreeBefore h x ↔ s.Open (h.pprev x) :=
    hs.holds.open_iff fun hne => (hs.holds.physical.prev_mem hx.1).resolve_left hne
  have hfirst : heapFree h (h.pointer x) = heappFree h x false :=
    heapFree_pointer hs.holds hx.1 rfl rfl
  unfold SecondFreeHarmless
  rw [heapFree_pointer hs.holds hx.1 hsteps.memory hsteps.size, hbefore]
  constructor
  · intro halike hopen
    obtain ⟨gone, n, hpos, hlt, hagain⟩ := hs.holds.refree hx hopen
    obtain ⟨hstale, -⟩ := hagain h (Stale.refl h s gone)
    rw [← hfirst] at hstale
    -- the block before is still there, and its size is off by `n`
    have hmem : h.pprev x ∈ (heapFree h (h.pointer x)).blocks := by
      rw [hsteps.sound.blocks_eq, ← hjoined hopen]
      exact habsorbs.mem
    have hsize := halike.size _ hmem
    have hfits := (heapFree h (h.pointer x)).get_lt .size (h.pprev x)
    rw [(hagain _ hstale).2] at hsize
    unfold Heap.sizeOf at hsize
    omega
  · intro hclosed
    have hxmem := hself hclosed ▸ habsorbs.mem
    have hfree : (heapFree h (h.pointer x)).state x = heapBlockFree := by
      rw [hsteps.sound.holds.state x hxmem, ← hself hclosed, habsorbs.free]
      rfl
    have hrefused : heappFreeRefused (heapFree h (h.pointer x)) x = true := by
      unfold heappFreeRefused
      rw [decide_eq_true_eq, hfree]
      exact Or.inl (by decide)
    rw [heappFree, if_pos hrefused]
    exact Heap.Alike.refl _

end Stale

/-! ## Reachable heaps -/

/-- **A second `HeapFree`** of a pointer, in any heap of a legal run, changes nothing if and
only if the block before that of the pointer was in use. -/
theorem secondFreeHarmless_iff {arena : Nat} {contents : Mem} {size : UInt32} {h : Heap}
    {ops : List HeapOp} {x : Nat} (hcreate : heapCreate arena contents size.toNat = some h)
    (hlegal : Throughout heapStep Legal h ops) (hx : x ∈ (ops.foldl heapOp h).list .used) :
    SecondFreeHarmless (ops.foldl heapOp h) ((ops.foldl heapOp h).pointer x) ↔
      ¬ FreeBefore (ops.foldl heapOp h) x := by
  obtain ⟨s, hs⟩ := reachable_sound hcreate hlegal
  exact hs.secondFree_iff (hs.live_iff.mp hx)

/-- Of two blocks the first is freed: nothing is before it. -/
theorem secondFreeHarmless_first : ∃ h,
    heapCreate 4096 (fun _ => 0) (65536 : UInt32).toNat = some h ∧
    SecondFreeHarmless ([.alloc 16, .alloc 16].foldl heapOp h) 8216 :=
  ⟨_, rfl, (@secondFreeHarmless_iff 4096 (fun _ => 0) 65536 _ [.alloc 16, .alloc 16] 24 rfl
    (throughout_cons trivial (throughout_cons trivial trivial)) (by decide +kernel)).mpr
      (fun hbefore => hbefore.1 (by decide +kernel))⟩

/-- Then the second, twice: the first one takes it in twice. -/
theorem not_secondFreeHarmless_joined : ∃ h,
    heapCreate 4096 (fun _ => 0) (65536 : UInt32).toNat = some h ∧
    Throughout heapStep Legal h [.alloc 16, .alloc 16, .free 8216] ∧
    (∃ x ∈ ([.alloc 16, .alloc 16, .free 8216].foldl heapOp h).list .used,
      ([.alloc 16, .alloc 16, .free 8216].foldl heapOp h).pointer x = 8256) ∧
    ¬ SecondFreeHarmless ([.alloc 16, .alloc 16, .free 8216].foldl heapOp h) 8256 := by
  refine ⟨_, rfl, throughout_cons trivial (throughout_cons trivial (throughout_cons
    ⟨24, by decide +kernel, by decide +kernel⟩ trivial)),
    ⟨64, by decide +kernel, by decide +kernel⟩, fun halike => ?_⟩
  have hsize := halike.size 24 (by decide +kernel)
  revert hsize
  decide +kernel

end DeepShield.Mem
