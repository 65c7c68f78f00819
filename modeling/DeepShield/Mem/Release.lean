import DeepShield.Mem.Allocate

/-!
# Freeing

What `HeapFree` and `HeapFreeSecure` do to a shape. `HeappFree` evaluates four cases one
after another, by whether the neighbours of the block are free; each leaves a heap on
which the ones behind it do not apply (`Stage.coalesceAlone` to `Stage.coalesceBoth`).
The block and its free neighbours become one free block (`Shape.Absorbs`), no other live
block changes, and again no two free blocks are neighbours (`Shape.Releases`). Where the
block is freed securely, the headers that are gone are zero (`Heap.Cleared`).

The result is `Stage.free`; `heapFree_pointer` and `heapFreeSecure_eq` say which block
the two calls free.
-/

namespace DeepShield.Mem

open DeepShield.Lib

namespace Shape

/-- A neighbour that a freed block can be joined with. -/
def Open (s : Shape) (z : Nat) : Prop := z ≠ 0 ∧ s.state z = .free

/-- What freeing the block `x` makes of a shape. -/
structure Releases (s s' : Shape) (x : Nat) : Prop where
  coalesced : s'.Coalesced
  keeps : ∀ z, s.Live z → z ≠ x → s'.Live z ∧ s.size z ≤ s'.size z
  gone : ¬ s'.Live x

/-- The free block `q` of `s'` is what the block `x` of `s` and its free neighbours have
become. -/
structure Absorbs (s s' : Shape) (x q : Nat) : Prop where
  mem : q ∈ s'.blocks
  free : s'.state q = .free
  le : q ≤ x
  ge : x + s.size x ≤ q + s'.size q
  old : ∀ z ∈ s'.blocks, z ∈ s.blocks
  same : ∀ z, z ≠ q → s'.size z = s.size z ∧ s'.state z = s.state z

variable {s s' : Shape} {l₁ l₂ : List Nat} {x total : Nat}

/-- No block becomes live. -/
theorem Absorbs.live {q z : Nat} (ha : s.Absorbs s' x q) (hz : s'.Live z) :
    s.Live z ∧ s'.size z = s.size z := by
  have hne : z ≠ q := by
    intro heq
    have hused := hz.2
    rw [heq, ha.free] at hused
    exact absurd hused (by decide)
  obtain ⟨hsize, hstate⟩ := ha.same z hne
  exact ⟨⟨ha.old z hz.1, hstate ▸ hz.2⟩, hsize⟩

theorem absorbs_alone (hx : x ∈ s.blocks) : s.Absorbs (s.setState x .free) x x where
  mem := hx
  free := by simp
  le := Nat.le_refl x
  ge := Nat.le_refl _
  old _ hz := hz
  same z hz := ⟨rfl, by rw [setState_state, if_neg hz]⟩

theorem absorbs_join {off mid : List Nat} {q n : Nat} (hj : s.JoinAt off l₁ q mid l₂ n)
    (hle : q ≤ x) (hge : x + s.size x ≤ q + n) :
    s.Absorbs ((s.join (l₁ ++ q :: l₂) q n).setState q .free) x q where
  mem := by simp
  free := by simp
  le := hle
  ge := by
    rw [setState_size, join_size, if_pos rfl]
    exact hge
  old _ hz := hj.old hz
  same z hz := by
    constructor
    · rw [setState_size, join_size, if_neg hz]
    · rw [setState_state, if_neg hz, join_state]

theorem not_open_setState {z : Nat} (hz : ¬ s.Open z) (hne : z ≠ 0 → z ≠ x) {i : HeapList} :
    ¬ (s.setState x i).Open z := by
  intro hk
  have hfree := hk.2
  rw [setState_state, if_neg (hne hk.1)] at hfree
  exact hz ⟨hk.1, hfree⟩

/-- What starts where a block ends is the next block. -/
theorem Fits.next_eq (hf : s.Fits total) (hblocks : s.blocks = l₁ ++ x :: l₂) {b : Nat}
    (hb : b ∈ s.blocks) (heq : x + s.size x + sizeofHeapBlock = b) : l₂.headD 0 = b := by
  have htiles := hf.tiles
  rw [hblocks] at htiles
  obtain ⟨_, _, _, hrest⟩ := tiles_around htiles
  cases l₂ with
  | nil =>
    have hend : x + s.size x = total := hrest
    have hle := hf.le_total hb
    unfold sizeofHeapBlock at heq
    omega
  | cons y l₂ => exact hrest.1.trans heq

/-- And what ends where it starts is the one before. -/
theorem Fits.prev_eq (hf : s.Fits total) (hblocks : s.blocks = l₁ ++ x :: l₂) {a : Nat}
    (ha : a ∈ s.blocks) (heq : a + s.size a + sizeofHeapBlock = x) : l₁.getLastD 0 = a := by
  have htiles := hf.tiles
  have hheader := hf.header_le ha
  rw [hblocks] at htiles
  rcases List.eq_nil_or_concat' l₁ with hnil | ⟨l, p, hl⟩
  · rw [hnil] at htiles
    have hx : x = 0 + sizeofHeapBlock := htiles.1
    unfold sizeofHeapBlock at heq hx hheader
    omega
  · rw [hl, List.append_assoc] at htiles
    rw [hl, List.getLastD_concat]
    obtain ⟨_, _, _, hx, _⟩ := tiles_around htiles
    have hp : p ∈ s.blocks := by simp [hblocks, hl]
    by_contra hne
    have hapart := tiles_separate hf.tiles ha hp (Ne.symm hne)
    unfold sizeofHeapBlock at heq hx hapart
    omega

/-- A shape is coalesced if the only block that changed has no free neighbours. -/
theorem coalesced_of (hc : s.Coalesced) (q : Nat) (hblocks : ∀ z ∈ s'.blocks, z ∈ s.blocks)
    (hsize : ∀ z, z ≠ q → s'.size z = s.size z) (hstate : ∀ z, z ≠ q → s'.state z = s.state z)
    (hleft : ∀ a ∈ s.blocks, s.state a = .free → a + s.size a + sizeofHeapBlock ≠ q)
    (hright : ∀ b ∈ s.blocks, s.state b = .free → q + s'.size q + sizeofHeapBlock ≠ b) :
    s'.Coalesced := by
  intro a b hpair
  obtain ⟨ha, hb, hafree, hbfree, heq⟩ := hpair
  have hheader : 0 < sizeofHeapBlock := by decide
  by_cases haq : a = q
  · rw [haq] at heq
    have hbq : b ≠ q := by omega
    rw [hstate b hbq] at hbfree
    exact hright b (hblocks b hb) hbfree heq
  · rw [hstate a haq] at hafree
    rw [hsize a haq] at heq
    by_cases hbq : b = q
    · exact hleft a (hblocks a ha) hafree (heq.trans hbq)
    · rw [hstate b hbq] at hbfree
      exact hc a b ⟨hblocks a ha, hblocks b hb, hafree, hbfree, heq⟩

/-- U U U => U F U. -/
theorem releases_alone (hf : s.Fits total) (hc : s.Coalesced) (hblocks : s.blocks = l₁ ++ x :: l₂)
    (hprev : ¬ s.Open (l₁.getLastD 0)) (hnext : ¬ s.Open (l₂.headD 0)) :
    s.Releases (s.setState x .free) x where
  coalesced := by
    refine coalesced_of hc x (fun _ hz => hz) (fun _ _ => rfl) ?_ ?_ ?_
    · intro z hz
      rw [setState_state, if_neg hz]
    · intro a ha hfree heq
      rw [hf.prev_eq hblocks ha heq] at hprev
      exact hprev ⟨fun hzero => hf.nonnull (hzero ▸ ha), hfree⟩
    · intro b hb hfree heq
      rw [hf.next_eq hblocks hb heq] at hnext
      exact hnext ⟨fun hzero => hf.nonnull (hzero ▸ hb), hfree⟩
  keeps z hz hne := by
    refine ⟨⟨hz.1, ?_⟩, Nat.le_refl _⟩
    rw [setState_state, if_neg hne]
    exact hz.2
  gone hlive := by
    have hused := hlive.2
    rw [setState_state, if_pos rfl] at hused
    exact absurd hused (by decide)

/-- A freed block joined with its neighbours, from `q` on. -/
theorem releases_join {off mid : List Nat} {q n : Nat} (hc : s.Coalesced)
    (hj : s.JoinAt off l₁ q mid l₂ n) (hoff : ∀ z ∈ off, z = x ∨ s.state z = .free)
    (hq : q = x ∨ s.state q = .free) (hgone : x = q ∨ x ∉ l₁ ++ q :: l₂)
    (hleft : ∀ a ∈ s.blocks, s.state a = .free → a + s.size a + sizeofHeapBlock ≠ q)
    (hright : ∀ b ∈ s.blocks, s.state b = .free → q + n + sizeofHeapBlock ≠ b) :
    s.Releases ((s.join (l₁ ++ q :: l₂) q n).setState q .free) x where
  coalesced := by
    refine coalesced_of hc q (fun z hz => hj.old hz) ?_ ?_ hleft ?_
    · intro z hz
      rw [setState_size, join_size, if_neg hz]
    · intro z hz
      rw [setState_state, if_neg hz, join_state]
    · intro b hb hfree
      rw [setState_size, join_size, if_pos rfl]
      exact hright b hb hfree
  keeps z hz hne := by
    have hused : ∀ w, w = x ∨ s.state w = .free → z ≠ w := by
      intro w hw heq
      rcases hw with hwx | hfree
      · exact hne (heq.trans hwx)
      · rw [← heq, hz.2] at hfree
        exact absurd hfree (by decide)
    have hzoff : z ∉ off := fun hmem => hused z (hoff z hmem) rfl
    refine ⟨⟨hj.stays hz.1 hzoff, ?_⟩, hj.size_le z⟩
    rw [setState_state, if_neg (hused q hq)]
    exact hz.2
  gone hlive := by
    rcases hgone with heq | hnot
    · have hfree := hlive.2
      rw [setState_state, if_pos heq] at hfree
      exact absurd hfree (by decide)
    · exact hnot hlive.1

theorem setState_self {q : Nat} {i : HeapList} (hq : s.state q = i) : s.setState q i = s := by
  rw [setState, ← hq, Function.update_eq_self]

/-! What is joined in each of the cases. -/

theorem Fits.joinNext {y n : Nat} (hf : s.Fits total) (hblocks : s.blocks = l₁ ++ x :: y :: l₂)
    (hn : n = s.size x + sizeofHeapBlock + s.size y) : s.JoinAt [y, x] l₁ x [y] l₂ n := by
  obtain ⟨_, _, _, hyx, -⟩ := tiles_around (hblocks ▸ hf.tiles)
  exact ⟨hblocks, by simp, hyx, by rw [Tiles]; omega⟩

theorem Fits.joinPrev {p n : Nat} (hf : s.Fits total) (hblocks : s.blocks = l₁ ++ p :: x :: l₂)
    (hn : n = s.size p + sizeofHeapBlock + s.size x) : s.JoinAt [x] l₁ p [x] l₂ n := by
  obtain ⟨_, _, _, hxp, -⟩ := tiles_around (hblocks ▸ hf.tiles)
  exact ⟨hblocks, by simp, hxp, by rw [Tiles]; omega⟩

theorem Fits.joinBoth {p y n : Nat} (hf : s.Fits total)
    (hblocks : s.blocks = l₁ ++ p :: x :: y :: l₂)
    (hn : n = s.size p + sizeofHeapBlock + s.size x + sizeofHeapBlock + s.size y) :
    s.JoinAt [y, x] l₁ p [x, y] l₂ n := by
  obtain ⟨_, _, _, hxp, hyx, -⟩ := tiles_around (hblocks ▸ hf.tiles)
  exact ⟨hblocks, by simp, hxp, hyx, by rw [Tiles]; omega⟩

/-- The blocks in the middle are gone. -/
theorem JoinAt.gone {off mid : List Nat} {q n : Nat} (hj : s.JoinAt off l₁ q mid l₂ n)
    (hf : s.Fits total) {z : Nat} (hz : z ∈ mid) : z ∉ l₁ ++ q :: l₂ := by
  have hnodup := hj.blocks ▸ hf.nodup
  grind [List.nodup_append]

/-- And no others. -/
theorem JoinAt.mem_of_gone {off mid : List Nat} {q n : Nat} (hj : s.JoinAt off l₁ q mid l₂ n)
    {z : Nat} (hz : z ∈ s.blocks) (hgone : z ∉ l₁ ++ q :: l₂) : z ∈ mid := by
  rw [hj.blocks] at hz
  simp only [List.mem_append, List.mem_cons, not_or] at hz hgone
  tauto

/-- U U F => U F F => U [F]. -/
theorem releases_next {y n : Nat} (hf : s.Fits total) (hc : s.Coalesced)
    (hblocks : s.blocks = l₁ ++ x :: y :: l₂) (hprev : ¬ s.Open (l₁.getLastD 0))
    (hfree : s.state y = .free) (hn : n = s.size x + sizeofHeapBlock + s.size y) :
    s.Releases ((s.join (l₁ ++ x :: l₂) x n).setState x .free) x := by
  obtain ⟨_, _, _, hyx, -⟩ := tiles_around (hblocks ▸ hf.tiles)
  refine releases_join hc (hf.joinNext hblocks hn) ?_ (Or.inl rfl) (Or.inl rfl) ?_ ?_
  · intro z hz
    rcases List.mem_cons.mp hz with hzy | hzx
    · exact Or.inr (hzy ▸ hfree)
    · exact Or.inl (List.mem_singleton.mp hzx)
  · intro a ha hafree heq
    rw [hf.prev_eq hblocks ha heq] at hprev
    exact hprev ⟨fun hzero => hf.nonnull (hzero ▸ ha), hafree⟩
  · intro b hb hbfree heq
    exact hc y b ⟨by simp [hblocks], hb, hfree, hbfree, by omega⟩

/-- F U U => F F U => [F] U. -/
theorem releases_prev {p n : Nat} (hf : s.Fits total) (hc : s.Coalesced)
    (hblocks : s.blocks = l₁ ++ p :: x :: l₂) (hnext : ¬ s.Open (l₂.headD 0))
    (hfree : s.state p = .free) (hn : n = s.size p + sizeofHeapBlock + s.size x) :
    s.Releases ((s.join (l₁ ++ p :: l₂) p n).setState p .free) x := by
  have hj := hf.joinPrev hblocks hn
  obtain ⟨_, _, _, hxp, -⟩ := tiles_around (hblocks ▸ hf.tiles)
  have hblocks' : s.blocks = (l₁ ++ [p]) ++ x :: l₂ := by simp [hblocks]
  refine releases_join hc hj (fun z hz => Or.inl (List.mem_singleton.mp hz)) (Or.inr hfree)
    (Or.inr (hj.gone hf List.mem_cons_self)) ?_ ?_
  · intro a ha hafree heq
    exact hc a p ⟨ha, by simp [hblocks], hafree, hfree, heq⟩
  · intro b hb hbfree heq
    rw [hf.next_eq hblocks' hb (by omega)] at hnext
    exact hnext ⟨fun hzero => hf.nonnull (hzero ▸ hb), hbfree⟩

/-- F U F => F F F => [F]. -/
theorem releases_both {p y n : Nat} (hf : s.Fits total) (hc : s.Coalesced)
    (hblocks : s.blocks = l₁ ++ p :: x :: y :: l₂) (hfree : s.state p = .free)
    (hfree' : s.state y = .free)
    (hn : n = s.size p + sizeofHeapBlock + s.size x + sizeofHeapBlock + s.size y) :
    s.Releases ((s.join (l₁ ++ p :: l₂) p n).setState p .free) x := by
  have hj := hf.joinBoth hblocks hn
  obtain ⟨_, _, _, hxp, hyx, -⟩ := tiles_around (hblocks ▸ hf.tiles)
  refine releases_join hc hj ?_ (Or.inr hfree) (Or.inr (hj.gone hf List.mem_cons_self)) ?_ ?_
  · intro z hz
    rcases List.mem_cons.mp hz with hzy | hzx
    · exact Or.inr (hzy ▸ hfree')
    · exact Or.inl (List.mem_singleton.mp hzx)
  · intro a ha hafree heq
    exact hc a p ⟨ha, by simp [hblocks], hafree, hfree, heq⟩
  · intro b hb hbfree heq
    exact hc y b ⟨by simp [hblocks], hb, hfree', hbfree, by omega⟩

end Shape

/-! ## The four cases -/

section Cases

variable {h₀ h : Heap} {kept : Nat → Prop} {s : Shape} {off : List Nat} {x y n : Nat}

/-- What the conditions of the cases ask of a neighbour. -/
theorem Holds.open_iff {z : Nat} (hh : Holds h s off) (hz : z ≠ 0 → z ∈ s.blocks) :
    (z ≠ 0 ∧ h.state z = heapBlockFree) ↔ s.Open z := by
  refine and_congr_right fun hne => ?_
  rw [hh.state z (hz hne)]
  exact ⟨fun heq => HeapList.code_inj heq, fun heq => by rw [heq]; rfl⟩

theorem Holds.closed_iff {z : Nat} (hh : Holds h s off) (hz : z ≠ 0 → z ∈ s.blocks) :
    (z = 0 ∨ h.state z = heapBlockUsed) ↔ ¬ s.Open z := by
  by_cases hzero : z = 0
  · exact iff_of_true (Or.inl hzero) (fun hopen => hopen.1 hzero)
  · rw [or_iff_right hzero, hh.state z (hz hzero), Shape.Open, not_and]
    cases s.state z with
    | free => exact iff_of_false (by decide) (fun hk => hk hzero rfl)
    | used => exact iff_of_true rfl (fun _ => by decide)

/-- The header of a block that was joined is read before it is gone. -/
theorem heappJoin_eq (hx : sizeofHeapBlock ≤ x) (hy : sizeofHeapBlock ≤ y)
    (hapart : x + sizeofHeapBlock ≤ y ∨ y + sizeofHeapBlock ≤ x) (hn : n < 2 ^ 32)  :
    (let h := h.set .size x n
    let h := h.set .pnext x (h.pnext y)
    if h.pnext y ≠ 0 then h.set .pprev (h.pnext y) x else h) = heappJoin h x (h.pnext y) n := by
  have hne : y ≠ x := by
    unfold sizeofHeapBlock at hapart
    omega
  have hsize : (h.set .size x n).pnext y = h.pnext y := by
    refine (h.get_set hx hy (fun _ => hapart) hn).trans ?_
    rw [if_neg (fun hk => hne hk.2)]
    rfl
  have hpnext : ((h.set .size x n).set .pnext x (h.pnext y)).pnext y = h.pnext y := by
    refine (Heap.get_set _ hx hy (fun _ => hapart) (h.get_lt .pnext y)).trans ?_
    rw [if_neg (fun hk => hne hk.2)]
    exact hsize
  dsimp only
  rw [hsize, hpnext]
  rfl

/-- **Zeroing** bytes inside a block that is not in use. -/
theorem Stage.zero (hs : Stage h₀ kept h s off) (hx : x ∈ s.blocks)
    (hnot : x ∈ off ∨ s.state x = .free) {a : Nat} (hlo : x ≤ a) (hhi : a + n ≤ x + s.size x) :
    Stage h₀ kept (h.zero a n) s off := by
  refine hs.fill hx hlo (by rw [List.length_replicate]; exact hhi) fun i hi => ?_
  have hout := hs.covers.outside hs.fits hx hnot hi
  rw [List.length_replicate]
  omega

/-- The cases of `HeappFree`, one after another. -/
def heappCoalesce (h : Heap) (prev current next : Nat) (secure : Bool) : Heap :=
  heappFreeBoth (heappFreePrev (heappFreeNext (heappFreeAlone h prev current next)
    prev current next secure) prev current next secure) prev current next secure

variable {l₁ l₂ : List Nat} {secure : Bool}

theorem mem_getLastD (hblocks : s.blocks = l₁ ++ x :: l₂) (hne : l₁.getLastD 0 ≠ 0) :
    l₁.getLastD 0 ∈ s.blocks := by
  rw [hblocks]
  exact List.mem_append_left _ ((Links.getLastD_mem l₁ 0).resolve_left hne)

theorem mem_headD (hblocks : s.blocks = l₁ ++ x :: l₂) (hne : l₂.headD 0 ≠ 0) :
    l₂.headD 0 ∈ s.blocks := by
  rw [hblocks]
  exact List.mem_append_right _
    (List.mem_cons_of_mem x ((Links.headD_mem l₂ 0).resolve_left hne))

/-- What `HeappFree` does with the header of a block that was joined. -/
def heappBlockClear (h : Heap) (secure : Bool) (x : Nat) : Heap :=
  if secure then heappBlockZero h x else h

/-! What the conditions leave of the four cases, in any heap. -/

/-- Behind a free block the first two do not apply. -/
theorem heappCoalesce_behindFree {p z : Nat} (hopen : p ≠ 0 ∧ h.state p = heapBlockFree) :
    heappCoalesce h p x z secure
      = heappFreeBoth (heappFreePrev h p x z secure) p x z secure := by
  have hnotclosed : ¬ (p = 0 ∨ h.state p = heapBlockUsed) := by
    rw [hopen.2]
    exact not_or.mpr ⟨hopen.1, by decide⟩
  rw [heappCoalesce, heappFreeAlone, if_neg (fun hk => hnotclosed hk.1), heappFreeNext,
    if_neg (fun hk => hnotclosed hk.1)]

/-- The third joins the block with the one before. -/
theorem heappFreePrev_eq {p z : Nat} (hopen : p ≠ 0 ∧ h.state p = heapBlockFree)
    (hclosed : z = 0 ∨ h.state z = heapBlockUsed) :
    heappFreePrev h p x z secure = heappBlockClear
      (heappJoin (h.add (sizeofHeapBlock + h.sizeOf x) (h.sizeOf p)).2 p z
        (h.add (sizeofHeapBlock + h.sizeOf x) (h.sizeOf p)).1) secure x :=
  if_pos ⟨hopen, hclosed⟩

/-- It does not apply before a free block. -/
theorem heappFreePrev_skip {p z : Nat} (hopen : z ≠ 0 ∧ h.state z = heapBlockFree) :
    heappFreePrev h p x z secure = h := by
  refine if_neg fun hk => ?_
  rw [hopen.2] at hk
  exact hk.2.elim hopen.1 (by decide)

/-- The fourth joins both neighbours. -/
theorem heappFreeBoth_eq {p : Nat} (hopen : p ≠ 0 ∧ h.state p = heapBlockFree)
    (hopen' : y ≠ 0 ∧ h.state y = heapBlockFree) (hp : sizeofHeapBlock ≤ p)
    (hy : sizeofHeapBlock ≤ y) (hapart : p + sizeofHeapBlock ≤ y ∨ y + sizeofHeapBlock ≤ p)
    {v w : Heap} (hv : v = heappBlockUnlink h .free y) (hadd : (n, w) = v.add
      (sizeofHeapBlock + v.sizeOf x + sizeofHeapBlock + v.sizeOf y) (v.sizeOf p)) :
    heappFreeBoth h p x y secure
      = heappBlockClear (heappBlockClear (heappJoin w p (w.pnext y) n) secure x) secure y := by
  have hn : n < 2 ^ 32 := by
    rw [(Prod.mk.inj hadd).1]
    exact Nat.mod_lt _ (Nat.two_pow_pos 32)
  unfold heappFreeBoth
  rw [if_pos ⟨hopen, hopen'⟩, ← hv]
  dsimp only
  rw [← hadd, ← heappJoin_eq hp hy hapart hn]
  unfold heappBlockClear
  cases secure with
  | false => simp only [Bool.false_eq_true, if_false]
  | true => simp only [if_true]

/-- The last two cases do not apply behind a used block. -/
theorem heappFree_skip {prev current next : Nat} (hh : Holds h s off)
    (hmem : prev ≠ 0 → prev ∈ s.blocks) (hprev : ¬ s.Open prev) :
    heappFreeBoth (heappFreePrev h prev current next secure) prev current next secure = h := by
  rw [heappFreePrev, if_neg (fun hk => hprev ((hh.open_iff hmem).mp hk.1)), heappFreeBoth,
    if_neg (fun hk => hprev ((hh.open_iff hmem).mp hk.1))]

/-- Where neither neighbour is free, the first case applies and the others do not. -/
theorem Stage.coalesceAlone (hs : Stage h₀ kept h s [x]) (hblocks : s.blocks = l₁ ++ x :: l₂)
    (hprev : ¬ s.Open (l₁.getLastD 0)) (hnext : ¬ s.Open (l₂.headD 0)) :
    Stage h₀ kept (heappCoalesce h (l₁.getLastD 0) x (l₂.headD 0) secure)
      (s.setState x .free) [] := by
  have hx : x ∈ s.blocks := by simp [hblocks]
  have hp := mem_getLastD hblocks
  have hn := mem_headD hblocks
  have hfreed := hs.relink hx (by simp) .free
  obtain ⟨hx₁, hx₂, -, -⟩ := Links.nodup_around (hblocks ▸ hs.fits.nodup)
  have hclosed := (hs.holds.closed_iff hp).mpr hprev
  have hclosed' := (hs.holds.closed_iff hn).mpr hnext
  have hfirst : heappFreeAlone h (l₁.getLastD 0) x (l₂.headD 0)
      = heappBlockLink (h.set .state x HeapList.free.code) .free x := if_pos ⟨hclosed, hclosed'⟩
  unfold heappCoalesce
  rw [hfirst, heappFreeNext, if_neg, heappFree_skip hfreed.holds hp]
  · exact hfreed
  · refine Shape.not_open_setState hprev fun hne heq => ?_
    exact hx₁ (heq ▸ (Links.getLastD_mem l₁ 0).resolve_left hne)
  · intro hk
    refine Shape.not_open_setState hnext (fun hne heq => ?_) ((hfreed.holds.open_iff hn).mp hk.2)
    exact hx₂ (heq ▸ (Links.headD_mem l₂ 0).resolve_left hne)

/-- What `HeappFree` reads of a block behind the joined one. -/
theorem Holds.pnext_eq (hh : Holds h s off) (hblocks : s.blocks = l₁ ++ x :: l₂) :
    h.pnext x = l₂.headD 0 := by
  have hphysical := hh.physical
  rw [hblocks] at hphysical
  exact hphysical.neighbours.2

/-- The state and links of `y` are gone from the shape once `p` has taken it in, so its
header may be zeroed. -/
theorem Stage.clear (hs : Stage h₀ kept h s off) (secure : Bool) {p y : Nat}
    (hp : p ∈ s.blocks) (hnot : p ∈ off ∨ s.state p = .free)
    (hlo : p + sizeofHeapBlock ≤ y) (hhi : y ≤ p + s.size p) :
    Stage h₀ kept (heappBlockClear h secure y) s off := by
  cases secure with
  | false => exact hs
  | true => exact hs.zero hp hnot (by omega) (by omega)

/-- The header of the block `x` is zero. -/
def Heap.Cleared (h : Heap) (x : Nat) : Prop :=
  ∀ a, x ≤ a + sizeofHeapBlock → a < x → h.mem a = 0

theorem heappBlockClear_cleared (hx : sizeofHeapBlock ≤ x) :
    (heappBlockClear h true x).Cleared x :=
  fun _ hlo hhi => zeroBytes_in (by omega) (by omega)

theorem Heap.Cleared.zero (hx : h.Cleared x) (a n : Nat) : (h.zero a n).Cleared x :=
  fun i hlo hhi => zeroBytes_zero (hx i hlo hhi)

theorem Heap.Cleared.clear (hx : h.Cleared x) (secure : Bool) (y : Nat) :
    (heappBlockClear h secure y).Cleared x := by
  cases secure with
  | false => exact hx
  | true => exact hx.zero _ _

/-! Where only the next block is free, it is joined. -/

/-- The successor leaves its list and is joined. -/
theorem Stage.joinNext (hs : Stage h₀ kept h s [x]) (hblocks : s.blocks = l₁ ++ x :: y :: l₂)
    (hfree : s.state y = .free) (hn : n = s.size x + sizeofHeapBlock + s.size y) (secure : Bool) :
    Stage h₀ kept
      (heappBlockClear (heappJoin (heappBlockUnlink h .free y) x (l₂.headD 0) n) secure y)
      (s.join (l₁ ++ x :: l₂) x n) [x] := by
  have hy : y ∈ s.blocks := by simp [hblocks]
  obtain ⟨_, _, _, hyx, -⟩ := tiles_around (hblocks ▸ hs.fits.tiles)
  have hj := hs.fits.joinNext hblocks hn
  have hynew := hj.gone hs.fits (List.mem_singleton.mpr rfl)
  have hxmem : x ∈ l₁ ++ x :: l₂ := List.mem_append_right l₁ List.mem_cons_self
  have hne : y ≠ x := (ne_of_mem_of_not_mem hxmem hynew).symm
  have hunlinked := hs.unlink hy (by simpa using hne) hfree
    (fun a ha => hs.covers.outside hs.fits hy (Or.inr hfree) ha)
  have hoff : ∀ z ∈ l₁ ++ x :: l₂, z ∈ [y, x] ↔ z ∈ [x] := by
    intro z hz
    simp [ne_of_mem_of_not_mem hz hynew]
  exact ((hunlinked.join hj).off_congr hoff).clear secure hxmem (Or.inl List.mem_cons_self)
    (by omega) (by rw [Shape.join_size, if_pos rfl]; omega)

/-- And the code does just that. -/
theorem Stage.coalesceNext_eq (hs : Stage h₀ kept h s [x])
    (hblocks : s.blocks = l₁ ++ x :: y :: l₂) (hprev : ¬ s.Open (l₁.getLastD 0))
    (hfree : s.state y = .free) (hn : n = s.size x + sizeofHeapBlock + s.size y) :
    heappCoalesce h (l₁.getLastD 0) x y secure = heappBlockLink
      ((heappBlockClear (heappJoin (heappBlockUnlink h .free y) x (l₂.headD 0) n) secure y).set
        .state x HeapList.free.code) .free x := by
  have hx : x ∈ s.blocks := by simp [hblocks]
  have hy : y ∈ s.blocks := by simp [hblocks]
  have hblocks' : s.blocks = (l₁ ++ [x]) ++ y :: l₂ := by simp [hblocks]
  obtain ⟨_, _, _, hyx, -⟩ := tiles_around (hblocks ▸ hs.fits.tiles)
  obtain ⟨hx₁, hx₂, -, -⟩ := Links.nodup_around (hblocks ▸ hs.fits.nodup)
  have hne : y ≠ x := fun heq => hx₂ (heq ▸ List.mem_cons_self)
  have hp := mem_getLastD hblocks
  have hopen : s.Open y := ⟨fun hzero => hs.fits.nonnull (hzero ▸ hy), hfree⟩
  have hclosed := (hs.holds.closed_iff hp).mpr hprev
  have hopen' := (hs.holds.open_iff (fun _ => hy)).mpr hopen
  have hfirst : heappFreeAlone h (l₁.getLastD 0) x y = h :=
    if_neg fun hk => (hs.holds.closed_iff (fun _ => hy)).mp hk.2 hopen
  have hunlinked := hs.unlink hy (by simpa using hne) hfree
    (fun a ha => hs.covers.outside hs.fits hy (Or.inr hfree) ha)
  have hpnext := hunlinked.holds.pnext_eq hblocks'
  have hsizex := hunlinked.holds.size x hx
  have hsizey := hunlinked.holds.size y hy
  have hbound := hs.fits.le_total hy
  have hbounded := hs.fits.bounded
  have hjoin := @heappJoin_eq (heappBlockUnlink h .free y) x y n (hs.fits.header_le hx)
    (hs.fits.header_le hy) (by omega) (by omega)
  rw [hpnext] at hjoin
  have hsecond : heappFreeNext h (l₁.getLastD 0) x y secure = heappBlockLink
      ((heappBlockClear (heappJoin (heappBlockUnlink h .free y) x (l₂.headD 0) n) secure y).set
        .state x HeapList.free.code) .free x := by
    have hsum : sizeofHeapBlock + s.size y + s.size x = n := by omega
    unfold heappFreeNext
    rw [if_pos ⟨hclosed, hopen'⟩]
    dsimp only
    rw [hsizex, hsizey, Heap.add_eq (by omega), hsum, ← hjoin, heappBlockClear]
    rfl
  have hxmem : x ∈ l₁ ++ x :: l₂ := List.mem_append_right l₁ List.mem_cons_self
  have hjoined := (hs.joinNext hblocks hfree hn secure).relink hxmem (by simp) .free
  rw [heappCoalesce, hfirst, hsecond, heappFree_skip hjoined.holds (fun hne => ?_)]
  · refine Shape.not_open_setState hprev fun hne heq => ?_
    exact hx₁ (heq ▸ (Links.getLastD_mem l₁ 0).resolve_left hne)
  · exact List.mem_append_left _ ((Links.getLastD_mem l₁ 0).resolve_left hne)

theorem Stage.coalesceNext (hs : Stage h₀ kept h s [x]) (hblocks : s.blocks = l₁ ++ x :: y :: l₂)
    (hprev : ¬ s.Open (l₁.getLastD 0)) (hfree : s.state y = .free)
    (hn : n = s.size x + sizeofHeapBlock + s.size y) :
    Stage h₀ kept (heappCoalesce h (l₁.getLastD 0) x y secure)
      ((s.join (l₁ ++ x :: l₂) x n).setState x .free) [] := by
  rw [hs.coalesceNext_eq hblocks hprev hfree hn]
  exact (hs.joinNext hblocks hfree hn secure).relink (by simp) (by simp) .free

/-- The header that was zeroed stays zero: it is in the contents of the joined block. -/
theorem Stage.coalesceNext_cleared (hs : Stage h₀ kept h s [x])
    (hblocks : s.blocks = l₁ ++ x :: y :: l₂) (hprev : ¬ s.Open (l₁.getLastD 0))
    (hfree : s.state y = .free) :
    (heappCoalesce h (l₁.getLastD 0) x y true).Cleared y := by
  obtain ⟨n, hn⟩ : ∃ n, n = s.size x + sizeofHeapBlock + s.size y := ⟨_, rfl⟩
  have hheader := hs.fits.header_le (by simp [hblocks] : y ∈ s.blocks)
  obtain ⟨_, _, _, hyx, -⟩ := tiles_around (hblocks ▸ hs.fits.tiles)
  rw [hs.coalesceNext_eq hblocks hprev hfree hn]
  intro a hlo hhi
  rw [(hs.joinNext hblocks hfree hn true).relink_mem (y := x) (by simp) .free (by simp) (by omega)
    (by rw [Shape.join_size, if_pos rfl]; omega)]
  exact heappBlockClear_cleared hheader a hlo hhi

/-! Where only the block before is free, it takes the freed one in. -/

/-- The freed block is on no list, so it only has to be joined. -/
theorem Stage.joinPrev {p : Nat} (hs : Stage h₀ kept h s [x])
    (hblocks : s.blocks = l₁ ++ p :: x :: l₂) (hfree : s.state p = .free)
    (hn : n = s.size p + sizeofHeapBlock + s.size x) (secure : Bool) :
    Stage h₀ kept (heappBlockClear (heappJoin h p (l₂.headD 0) n) secure x)
      (s.join (l₁ ++ p :: l₂) p n) [] := by
  obtain ⟨_, _, _, hxp, -⟩ := tiles_around (hblocks ▸ hs.fits.tiles)
  have hj := hs.fits.joinPrev hblocks hn
  have hoff : ∀ z ∈ l₁ ++ p :: l₂, z ∈ [x] ↔ z ∈ [] := by
    intro z hz
    simp [ne_of_mem_of_not_mem hz (hj.gone hs.fits (List.mem_singleton.mpr rfl))]
  have hpmem : p ∈ l₁ ++ p :: l₂ := List.mem_append_right l₁ List.mem_cons_self
  exact ((hs.join hj).off_congr hoff).clear secure hpmem (Or.inr hfree) (by omega)
    (by rw [Shape.join_size, if_pos rfl]; omega)

theorem Stage.coalescePrev_eq {p : Nat} (hs : Stage h₀ kept h s [x])
    (hblocks : s.blocks = l₁ ++ p :: x :: l₂) (hfree : s.state p = .free)
    (hnext : ¬ s.Open (l₂.headD 0)) (hn : n = s.size p + sizeofHeapBlock + s.size x) :
    heappCoalesce h p x (l₂.headD 0) secure
      = heappBlockClear (heappJoin h p (l₂.headD 0) n) secure x := by
  have hp : p ∈ s.blocks := by simp [hblocks]
  have hx : x ∈ s.blocks := by simp [hblocks]
  have hblocks' : s.blocks = (l₁ ++ [p]) ++ x :: l₂ := by simp [hblocks]
  obtain ⟨_, _, _, hxp, -⟩ := tiles_around (hblocks ▸ hs.fits.tiles)
  have hz := mem_headD hblocks'
  have hopen := (hs.holds.open_iff (fun _ => hp)).mpr
    ⟨fun hzero => hs.fits.nonnull (hzero ▸ hp), hfree⟩
  have hbound := hs.fits.le_total hx
  have hbounded := hs.fits.bounded
  have hsum : sizeofHeapBlock + s.size x + s.size p = n := by omega
  have hthird := @heappFreePrev_eq h x secure p _ hopen ((hs.holds.closed_iff hz).mpr hnext)
  rw [hs.holds.size x hx, hs.holds.size p hp, Heap.add_eq (by omega), hsum] at hthird
  have hjoined := hs.joinPrev hblocks hfree hn secure
  rw [heappCoalesce_behindFree hopen, hthird, heappFreeBoth, if_neg]
  intro hk
  refine hnext ((hjoined.holds.open_iff fun hne => ?_).mp hk.2)
  exact List.mem_append_right l₁
    (List.mem_cons_of_mem p ((Links.headD_mem l₂ 0).resolve_left hne))

/-! Where both are, the block before takes both in. -/

theorem Stage.joinBoth {p : Nat} (hs : Stage h₀ kept h s [x])
    (hblocks : s.blocks = l₁ ++ p :: x :: y :: l₂) (hfree : s.state p = .free)
    (hfree' : s.state y = .free) (hxy : y ≠ x)
    (hn : n = s.size p + sizeofHeapBlock + s.size x + sizeofHeapBlock + s.size y)
    (secure : Bool) :
    Stage h₀ kept
      (heappBlockClear (heappBlockClear
        (heappJoin (heappBlockUnlink h .free y) p (l₂.headD 0) n) secure x) secure y)
      (s.join (l₁ ++ p :: l₂) p n) [] := by
  have hy : y ∈ s.blocks := by simp [hblocks]
  obtain ⟨_, _, _, hxp, hyx, -⟩ := tiles_around (hblocks ▸ hs.fits.tiles)
  have hj := hs.fits.joinBoth hblocks hn
  have hunlinked := hs.unlink hy (by simpa using hxy) hfree'
    (fun a ha => hs.covers.outside hs.fits hy (Or.inr hfree') ha)
  have hoff : ∀ z ∈ l₁ ++ p :: l₂, z ∈ [y, x] ↔ z ∈ [] := by
    intro z hz
    simp [ne_of_mem_of_not_mem hz (hj.gone hs.fits (z := x) (by simp)),
      ne_of_mem_of_not_mem hz (hj.gone hs.fits (z := y) (by simp))]
  have hpmem : p ∈ l₁ ++ p :: l₂ := List.mem_append_right l₁ List.mem_cons_self
  exact (((hunlinked.join hj).off_congr hoff).clear secure hpmem (Or.inr hfree) (by omega)
    (by rw [Shape.join_size, if_pos rfl]; omega)).clear secure hpmem (Or.inr hfree) (by omega)
    (by rw [Shape.join_size, if_pos rfl]; omega)

theorem Stage.coalesceBoth_eq {p : Nat} (hs : Stage h₀ kept h s [x])
    (hblocks : s.blocks = l₁ ++ p :: x :: y :: l₂) (hfree : s.state p = .free)
    (hfree' : s.state y = .free) (hxy : y ≠ x)
    (hn : n = s.size p + sizeofHeapBlock + s.size x + sizeofHeapBlock + s.size y) :
    heappCoalesce h p x y secure = heappBlockClear (heappBlockClear
      (heappJoin (heappBlockUnlink h .free y) p (l₂.headD 0) n) secure x) secure y := by
  have hp : p ∈ s.blocks := by simp [hblocks]
  have hx : x ∈ s.blocks := by simp [hblocks]
  have hy : y ∈ s.blocks := by simp [hblocks]
  have hblocks' : s.blocks = (l₁ ++ [p, x]) ++ y :: l₂ := by simp [hblocks]
  obtain ⟨_, _, _, hxp, hyx, -⟩ := tiles_around (hblocks ▸ hs.fits.tiles)
  have hopen := (hs.holds.open_iff (fun _ => hp)).mpr
    ⟨fun hzero => hs.fits.nonnull (hzero ▸ hp), hfree⟩
  have hopen' := (hs.holds.open_iff (fun _ => hy)).mpr
    ⟨fun hzero => hs.fits.nonnull (hzero ▸ hy), hfree'⟩
  have hbound := hs.fits.le_total hy
  have hbounded := hs.fits.bounded
  have hunlinked := hs.unlink hy (by simpa using hxy) hfree'
    (fun a ha => hs.covers.outside hs.fits hy (Or.inr hfree') ha)
  have hsum : sizeofHeapBlock + s.size x + sizeofHeapBlock + s.size y + s.size p = n := by omega
  have hadd : (n, heappBlockUnlink h .free y) = (heappBlockUnlink h .free y).add
      (sizeofHeapBlock + (heappBlockUnlink h .free y).sizeOf x + sizeofHeapBlock
        + (heappBlockUnlink h .free y).sizeOf y) ((heappBlockUnlink h .free y).sizeOf p) := by
    rw [hunlinked.holds.size x hx, hunlinked.holds.size y hy, hunlinked.holds.size p hp,
      Heap.add_eq (by omega), hsum]
  rw [heappCoalesce_behindFree hopen, heappFreePrev_skip hopen', heappFreeBoth_eq hopen hopen'
    (hs.fits.header_le hp) (hs.fits.header_le hy) (by omega) rfl hadd,
    hunlinked.holds.pnext_eq hblocks']

/-- A block that is live passes the checks. -/
theorem Holds.not_refused (hh : Holds h s []) (hx : s.Live x) : heappFreeRefused h x = false := by
  obtain ⟨l₁, l₂, hblocks⟩ := List.append_of_mem hx.1
  have hheader := hh.fits.header_le hx.1
  have hbound := hh.fits.le_total hx.1
  have hpositive := hh.fits.positive x hx.1
  have hstate : h.state x = heapBlockUsed := by
    rw [hh.state x hx.1, hx.2]
    rfl
  have hprev : h.pprev x < x := by
    have hphysical := hh.physical
    have htiles := hh.fits.tiles
    rw [hblocks] at hphysical htiles
    have hlast : h.pprev x = l₁.getLastD 0 := hphysical.neighbours.1
    rw [hlast]
    rcases Links.getLastD_mem l₁ 0 with hzero | hmem
    · rw [hzero]
      unfold sizeofHeapBlock at hheader
      omega
    · obtain ⟨_, hfirst, hmid, _⟩ := tiles_around htiles
      have hbefore := tiles_mem hfirst hmem
      unfold sizeofHeapBlock at hmid
      omega
  have hnext : h.pnext x < h.size := by
    rcases hh.physical.next_mem hx.1 with hzero | hmem
    · have hpnext : h.pnext x = 0 := hzero
      rw [hpnext]
      omega
    · have hpnext := hh.fits.le_total hmem
      have hpos := hh.fits.positive _ hmem
      exact Nat.lt_of_lt_of_le (Nat.lt_add_of_pos_right hpos) hpnext
  have hsize := hh.size x hx.1
  unfold sizeofHeapBlock at hheader
  unfold heappFreeRefused
  rw [decide_eq_false_iff_not]
  omega

/-- What freeing the block `x` does: the shape it leaves, in which `q` has its bytes; and
the headers that are gone are zero if it was freed securely. -/
structure Freed (s : Shape) (x : Nat) (secure : Bool) (h' : Heap) (s' : Shape) (q : Nat) :
    Prop where
  releases : s.Releases s' x
  absorbs : s.Absorbs s' x q
  cleared : secure = true → ∀ z ∈ s.blocks, z ∉ s'.blocks → h'.Cleared z

/-! What the block has become in each of the cases. -/

theorem Stage.freedAlone (hs : Stage h₀ kept h s [x]) (hc : s.Coalesced)
    (hblocks : s.blocks = l₁ ++ x :: l₂) (hprev : ¬ s.Open (l₁.getLastD 0))
    (hnext : ¬ s.Open (l₂.headD 0)) (secure : Bool) :
    ∃ s', Stage h₀ kept (heappCoalesce h (l₁.getLastD 0) x (l₂.headD 0) secure) s' [] ∧
      Freed s x secure (heappCoalesce h (l₁.getLastD 0) x (l₂.headD 0) secure) s' x := by
  refine ⟨_, hs.coalesceAlone hblocks hprev hnext, ?_, ?_, ?_⟩
  · exact Shape.releases_alone hs.fits hc hblocks hprev hnext
  · exact Shape.absorbs_alone (by simp [hblocks])
  · exact fun _ z hz hgone => absurd hz hgone

theorem Stage.freedNext (hs : Stage h₀ kept h s [x]) (hc : s.Coalesced)
    (hblocks : s.blocks = l₁ ++ x :: y :: l₂) (hprev : ¬ s.Open (l₁.getLastD 0))
    (hfree : s.state y = .free) (secure : Bool) :
    ∃ s', Stage h₀ kept (heappCoalesce h (l₁.getLastD 0) x y secure) s' [] ∧
      Freed s x secure (heappCoalesce h (l₁.getLastD 0) x y secure) s' x := by
  have hj := hs.fits.joinNext hblocks rfl
  refine ⟨_, hs.coalesceNext hblocks hprev hfree rfl, ?_, ?_, ?_⟩
  · exact Shape.releases_next hs.fits hc hblocks hprev hfree rfl
  · exact Shape.absorbs_join hj (Nat.le_refl x) (by omega)
  · intro hsecure z hz hgone
    rw [hsecure, List.mem_singleton.mp (hj.mem_of_gone hz hgone)]
    exact hs.coalesceNext_cleared hblocks hprev hfree

theorem Stage.freedPrev {p : Nat} (hs : Stage h₀ kept h s [x]) (hc : s.Coalesced)
    (hblocks : s.blocks = l₁ ++ p :: x :: l₂) (hfree : s.state p = .free)
    (hnext : ¬ s.Open (l₂.headD 0)) (secure : Bool) :
    ∃ s', Stage h₀ kept (heappCoalesce h p x (l₂.headD 0) secure) s' [] ∧
      Freed s x secure (heappCoalesce h p x (l₂.headD 0) secure) s' p := by
  have hj := hs.fits.joinPrev hblocks rfl
  have hheader := hs.fits.header_le (by simp [hblocks] : x ∈ s.blocks)
  obtain ⟨_, _, _, hxp, -⟩ := tiles_around (hblocks ▸ hs.fits.tiles)
  have hself := @Shape.setState_self (s.join (l₁ ++ p :: l₂) p
    (s.size p + sizeofHeapBlock + s.size x)) p .free hfree
  rw [hs.coalescePrev_eq hblocks hfree hnext rfl]
  refine ⟨_, hs.joinPrev hblocks hfree rfl secure, ?_, ?_, ?_⟩
  · rw [← hself]
    exact Shape.releases_prev hs.fits hc hblocks hnext hfree rfl
  · rw [← hself]
    exact Shape.absorbs_join hj (by omega) (by omega)
  · intro hsecure z hz hgone
    rw [hsecure, List.mem_singleton.mp (hj.mem_of_gone hz hgone)]
    exact heappBlockClear_cleared hheader

theorem Stage.freedBoth {p : Nat} (hs : Stage h₀ kept h s [x]) (hc : s.Coalesced)
    (hblocks : s.blocks = l₁ ++ p :: x :: y :: l₂) (hfree : s.state p = .free)
    (hfree' : s.state y = .free) (secure : Bool) :
    ∃ s', Stage h₀ kept (heappCoalesce h p x y secure) s' [] ∧
      Freed s x secure (heappCoalesce h p x y secure) s' p := by
  have hj := hs.fits.joinBoth hblocks rfl
  have hheader := hs.fits.header_le (by simp [hblocks] : x ∈ s.blocks)
  have hheader' := hs.fits.header_le (by simp [hblocks] : y ∈ s.blocks)
  obtain ⟨_, _, _, hxp, hyx, -⟩ := tiles_around (hblocks ▸ hs.fits.tiles)
  have hne : y ≠ x := by
    unfold sizeofHeapBlock at hyx
    omega
  have hself := @Shape.setState_self (s.join (l₁ ++ p :: l₂) p
    (s.size p + sizeofHeapBlock + s.size x + sizeofHeapBlock + s.size y)) p .free hfree
  rw [hs.coalesceBoth_eq hblocks hfree hfree' hne rfl]
  refine ⟨_, hs.joinBoth hblocks hfree hfree' hne rfl secure, ?_, ?_, ?_⟩
  · rw [← hself]
    exact Shape.releases_both hs.fits hc hblocks hfree hfree' rfl
  · rw [← hself]
    exact Shape.absorbs_join hj (by omega) (by omega)
  · intro hsecure z hz hgone
    rw [hsecure]
    rcases List.mem_cons.mp (hj.mem_of_gone hz hgone) with hzx | hzy
    · rw [hzx]
      exact (heappBlockClear_cleared hheader).clear true y
    · rw [List.mem_singleton.mp hzy]
      exact heappBlockClear_cleared hheader'

/-- The four cases between them free the block. -/
theorem Stage.coalesce (hs : Stage h₀ kept h s [x]) (hc : s.Coalesced)
    (hblocks : s.blocks = l₁ ++ x :: l₂) (secure : Bool) :
    ∃ s' q, Stage h₀ kept (heappCoalesce h (l₁.getLastD 0) x (l₂.headD 0) secure) s' [] ∧
      Freed s x secure (heappCoalesce h (l₁.getLastD 0) x (l₂.headD 0) secure) s' q ∧
      (s.Open (l₁.getLastD 0) → q = l₁.getLastD 0) ∧ (¬ s.Open (l₁.getLastD 0) → q = x) := by
  by_cases hprev : s.Open (l₁.getLastD 0)
  · -- the block before takes it in
    obtain ⟨l, p, hl⟩ : ∃ l p, l₁ = l ++ [p] := by
      rcases List.eq_nil_or_concat' l₁ with hnil | hconcat
      · exact absurd (hnil ▸ rfl) hprev.1
      · exact hconcat
    rw [hl, List.getLastD_concat] at hprev ⊢
    have hblocks' : s.blocks = l ++ p :: x :: l₂ := by simp [hblocks, hl]
    have hq : (s.Open p → p = p) ∧ (¬ s.Open p → p = x) :=
      ⟨fun _ => rfl, fun hclosed => absurd hprev hclosed⟩
    by_cases hnext : s.Open (l₂.headD 0)
    · cases l₂ with
      | nil => exact absurd rfl hnext.1
      | cons y l₂ =>
        obtain ⟨s', hs', hfreed⟩ := hs.freedBoth hc hblocks' hprev.2 hnext.2 secure
        exact ⟨s', p, hs', hfreed, hq⟩
    · obtain ⟨s', hs', hfreed⟩ := hs.freedPrev hc hblocks' hprev.2 hnext secure
      exact ⟨s', p, hs', hfreed, hq⟩
  · have hq : (s.Open (l₁.getLastD 0) → x = l₁.getLastD 0) ∧
        (¬ s.Open (l₁.getLastD 0) → x = x) := ⟨fun hopen => absurd hopen hprev, fun _ => rfl⟩
    by_cases hnext : s.Open (l₂.headD 0)
    · cases l₂ with
      | nil => exact absurd rfl hnext.1
      | cons y l₂ =>
        obtain ⟨s', hs', hfreed⟩ := hs.freedNext hc hblocks hprev hnext.2 secure
        exact ⟨s', x, hs', hfreed, hq⟩
    · obtain ⟨s', hs', hfreed⟩ := hs.freedAlone hc hblocks hprev hnext secure
      exact ⟨s', x, hs', hfreed, hq⟩

/-- **`HeappFree`** of a live block; what it held is zero if it was freed securely. -/
theorem Stage.free (hs : Stage h₀ kept h s []) (hc : s.Coalesced) (hx : s.Live x)
    (hkept : ∀ a, kept a → a < x ∨ x + s.size x ≤ a) (secure : Bool) :
    ∃ s' q, Stage h₀ kept (heappFree h x secure) s' [] ∧
      Freed s x secure (heappFree h x secure) s' q ∧
      ((s.Open (h.pprev x) → q = h.pprev x) ∧ (¬ s.Open (h.pprev x) → q = x)) ∧
      (secure = true → ∀ a, x ≤ a → a < x + s.size x → (heappFree h x secure).mem a = 0) := by
  obtain ⟨l₁, l₂, hblocks⟩ := List.append_of_mem hx.1
  have hphysical := hs.holds.physical
  rw [hblocks] at hphysical
  have hprev : h.pprev x = l₁.getLastD 0 := hphysical.neighbours.1
  have hnext : h.pnext x = l₂.headD 0 := hphysical.neighbours.2
  have hunlinked := hs.unlink hx.1 (by simp) hx.2 hkept
  obtain ⟨s', q, hs', hfreed, hself⟩ := hunlinked.coalesce hc hblocks secure
  have hbody : heappFree h x secure = if secure then
      (heappCoalesce (heappBlockUnlink h .used x) (l₁.getLastD 0) x (l₂.headD 0) secure).zero x
        (h.sizeOf x)
      else heappCoalesce (heappBlockUnlink h .used x) (l₁.getLastD 0) x (l₂.headD 0) secure := by
    unfold heappFree
    rw [hs.holds.not_refused hx, hprev, hnext]
    rfl
  rw [hbody, hs.holds.size x hx.1, hprev]
  cases secure with
  | false => exact ⟨s', q, hs', hfreed, hself, fun hsecure => absurd hsecure (by decide)⟩
  | true =>
    have habsorbs := hfreed.absorbs
    refine ⟨s', q, hs'.zero habsorbs.mem (Or.inr habsorbs.free) habsorbs.le habsorbs.ge,
      ⟨hfreed.releases, habsorbs, ?_⟩, hself, ?_⟩
    · exact fun hsecure z hz hgone => (hfreed.cleared hsecure z hz hgone).zero x (s.size x)
    · exact fun _ a hlo hhi => zeroBytes_in hlo hhi

end Cases

/-! ## The calls -/

section Calls

variable {h₀ h : Heap} {kept : Nat → Prop} {s : Shape} {x : Nat}

/-- A pointer is turned into an offset and back. -/
theorem offset_pointer (hx : x < 2 ^ 32) : h.offset (h.pointer x) = x := by
  rw [Heap.offset, Heap.pointer, Nat.add_sub_cancel_left, Nat.mod_eq_of_lt hx]

/-- **`HeapFree`** of a live pointer is `HeappFree` of its block. -/
theorem heapFree_pointer {off : List Nat} (hh : Holds h s off) (hx : x ∈ s.blocks) {h' : Heap}
    (hmemory : h'.memory = h.memory) (hsize : h'.size = h.size) :
    heapFree h' (h.pointer x) = heappFree h' x false := by
  have hheader := hh.fits.header_le hx
  have hbound := hh.fits.le_total hx
  have hpositive := hh.fits.positive x hx
  have hbounded := hh.fits.bounded
  have hpointer : h.pointer x = h'.pointer x := by rw [Heap.pointer, Heap.pointer, hmemory]
  have hcontains : heappContains h' (h'.pointer x) = true := by
    unfold heappContains Heap.pointer
    rw [decide_eq_true_eq]
    omega
  unfold Mem.heapFree
  rw [hpointer, if_neg (by unfold Heap.pointer; unfold sizeofHeapBlock at hheader; omega),
    if_neg (by rw [hcontains]; decide), offset_pointer (by omega)]

/-- The search of `HeapFreeSecure`. -/
theorem heapFindUsed_eq {l : List Nat} {b fuel current : Nat}
    (hl : h.records.virtual.links.Linked b l 0) (hnull : 0 ∉ l)
    (hfits : ∀ x ∈ l, x + h.sizeOf x < 2 ^ 32) (hfuel : l.length ≤ fuel) :
    heapFindUsed current fuel (l.headD 0) h
      = (l.find? (fun x => x ≤ current ∧ current < x + h.sizeOf x), h) := by
  induction l generalizing b fuel with
  | nil =>
    cases fuel with
    | zero => rfl
    | succ fuel => rfl
  | cons x l ih =>
    obtain ⟨hx, hnull⟩ := List.ne_and_not_mem_of_not_mem_cons hnull
    cases fuel with
    | zero => exact absurd hfuel (by simp)
    | succ fuel =>
      have hnext : h.vnext x = l.headD 0 := hl.2.1
      have hrest := ih hl.2.2 hnull (fun y hy => hfits y (List.mem_cons_of_mem x hy))
        (Nat.le_of_succ_le_succ hfuel)
      rw [List.headD_cons, heapFindUsed, if_neg (Ne.symm hx), List.find?_cons,
        Heap.add_eq (hfits x List.mem_cons_self)]
      dsimp only
      by_cases hin : x ≤ current ∧ current < x + h.sizeOf x
      · rw [if_pos hin, decide_eq_true hin]
      · rw [if_neg hin, decide_eq_false hin, hnext, hrest]

/-- The address lies in the block. -/
def Lies (h : Heap) (s : Shape) (x address : Nat) : Prop :=
  h.pointer x ≤ address ∧ address < h.pointer x + s.size x

/-- **`HeapFreeSecure`** of any address: it frees the live block that the address is in,
and does nothing where there is none. -/
theorem heapFreeSecure_eq (hh : Holds h s []) (address : Nat) :
    (heapFreeSecure h address = h ∧ ∀ x, s.Live x → ¬ Lies h s x address) ∨
      ∃ x, s.Live x ∧ Lies h s x address ∧ heapFreeSecure h address = heappFree h x true := by
  have hbounded := hh.fits.bounded
  -- a block the address lies in makes the checks pass
  have hpasses : ∀ x, s.Live x → Lies h s x address →
      h.memory + sizeofHeapBlock ≤ address ∧ address < h.memory + h.size := by
    intro x hx hlies
    obtain ⟨hlo, hhi⟩ := hlies
    have hheader := hh.fits.header_le hx.1
    have hbound := hh.fits.le_total hx.1
    unfold Heap.pointer at hlo hhi
    omega
  unfold Mem.heapFreeSecure
  by_cases hnull : address = 0
  · rw [if_pos hnull]
    refine Or.inl ⟨rfl, fun x hx hlies => ?_⟩
    have hin := hpasses x hx hlies
    unfold sizeofHeapBlock at hin
    omega
  · rw [if_neg hnull]
    by_cases hcontains : heappContains h address = false
    · rw [if_pos hcontains]
      refine Or.inl ⟨rfl, fun x hx hlies => ?_⟩
      unfold heappContains at hcontains
      exact (decide_eq_false_iff_not.mp hcontains) (hpasses x hx hlies)
    · rw [if_neg hcontains]
      have hin : h.memory + sizeofHeapBlock ≤ address ∧ address < h.memory + h.size := by
        rw [Bool.not_eq_false] at hcontains
        unfold heappContains at hcontains
        rwa [decide_eq_true_eq] at hcontains
      have hoffset : h.offset address = address - h.memory := Nat.mod_eq_of_lt (by omega)
      obtain ⟨l, hl, hhead, hnonnull, hlength, hmem⟩ := hh.list .used
      have hused : h.usedList = l.headD 0 := hhead
      have hfits : ∀ x ∈ l, x + h.sizeOf x < 2 ^ 32 := by
        intro x hx
        have hblock := ((hmem x).mp hx).1
        have hle := hh.fits.le_total hblock
        rw [hh.size x hblock]
        omega
      have hlies : ∀ x ∈ l, (x ≤ address - h.memory ∧ address - h.memory < x + h.sizeOf x) ↔
          Lies h s x address := by
        intro x hx
        rw [hh.size x ((hmem x).mp hx).1]
        unfold Lies Heap.pointer
        omega
      rw [hused, heapFindUsed_eq hl hnonnull hfits hlength, hoffset]
      cases hfind : l.find? fun x =>
          decide (x ≤ address - h.memory ∧ address - h.memory < x + h.sizeOf x) with
      | none =>
        refine Or.inl ⟨rfl, fun x hx hin' => ?_⟩
        have hlist := (hmem x).mpr hx
        have hnone := List.find?_eq_none.mp hfind x hlist
        rw [decide_eq_true_eq] at hnone
        exact hnone ((hlies x hlist).mpr hin')
      | some x =>
        have hlist := List.mem_of_find?_eq_some hfind
        have hfound := List.find?_some hfind
        rw [decide_eq_true_eq] at hfound
        exact Or.inr ⟨x, (hmem x).mp hlist, (hlies x hlist).mp hfound, rfl⟩

end Calls

end DeepShield.Mem
