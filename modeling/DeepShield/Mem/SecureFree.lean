import DeepShield.Mem.HeapRuns

/-!
# Secure freeing

`HeapFreeSecure` gets an address, looks for the block in use that the address is in, frees
it, and zeroes what it held and the headers that coalescing has done away with. The
headers are zeroed as the blocks are joined, the contents last; by then the contents may be
part of another block, but no byte that is still in use is among them.

The main result is `heapFreeSecure_clears`: in any heap of a legal run this is what
happens, and where the address is in no block in use, nothing happens.
-/

namespace DeepShield.Mem

open DeepShield.Lib

/-- The address is in what the block `x` holds. -/
def InPayload (h : Heap) (x address : Nat) : Prop :=
  h.pointer x ≤ address ∧ address < h.pointer x + h.sizeOf x

/-- From `h` to `h'` the block `x`, and no other, was freed without a trace. -/
structure FreedSecurely (h h' : Heap) (x : Nat) : Prop where
  /-- It is no longer in use; the others are, with their sizes. -/
  used : ∀ z, z ∈ h'.list .used ↔ z ∈ h.list .used ∧ z ≠ x
  size : ∀ z ∈ h'.list .used, h'.sizeOf z = h.sizeOf z
  /-- Its bytes belong to a free block. -/
  free : ∃ q ∈ h'.list .free, q ≤ x ∧ x + h.sizeOf x ≤ q + h'.sizeOf q
  /-- What it held is zero. -/
  payload : ∀ a, x ≤ a → a < x + h.sizeOf x → h'.mem a = 0
  /-- So are the headers of the blocks that are no longer there. -/
  headers : ∀ z ∈ h.blocks, z ∉ h'.blocks → h'.Cleared z
  /-- What the others hold is as it was. -/
  others : ∀ z ∈ h.list .used, z ≠ x → ∀ a, z ≤ a → a < z + h.sizeOf z → h'.mem a = h.mem a

/-- What `HeapFreeSecure` does with an address. -/
def FreesSecurely (h : Heap) (address : Nat) : Prop :=
  (∀ x ∈ h.list .used, InPayload h x address →
    FreedSecurely h (heapFreeSecure h address) x) ∧
  ((∀ x ∈ h.list .used, ¬ InPayload h x address) → heapFreeSecure h address = h)

section Sound

variable {h : Heap} {s : Shape} {x address : Nat}

theorem Sound.inPayload_iff (hs : Sound h s) (hx : s.Live x) :
    InPayload h x address ↔ Lies h s x address := by
  unfold InPayload Lies
  rw [hs.holds.size x hx.1]

/-- Blocks do not share an address. -/
theorem Lies.unique {y total : Nat} (hf : s.Fits total) (hx : s.Live x) (hy : s.Live y)
    (hlies : Lies h s x address) (hlies' : Lies h s y address) : x = y := by
  by_contra hne
  have hapart := tiles_separate hf.tiles hx.1 hy.1 hne
  obtain ⟨hlo, hhi⟩ := hlies
  obtain ⟨hlo', hhi'⟩ := hlies'
  unfold Heap.pointer at hlo hhi hlo' hhi'
  omega

/-- Freeing the block that an address is in. -/
theorem Sound.freedSecurely (hs : Sound h s) (hx : s.Live x) (hlies : Lies h s x address) :
    FreedSecurely h (heappFree h x true) x := by
  obtain ⟨s', q, hsteps, hfreed, hzero⟩ := hs.freeSecure hx hlies
  have hs' := hsteps.sound
  have habsorbs := hfreed.absorbs
  have hfree : ∀ z, s.Live z → z ≠ x → ¬ Frees h (h.pointer z) (.freeSecure address) := by
    intro z hz hne hfrees
    exact hne (Lies.unique hs.holds.fits hz hx ((hs.frees_secure_iff hz).mp hfrees) hlies)
  refine ⟨?_, ?_, ⟨q, ?_, habsorbs.le, ?_⟩, ?_, ?_, ?_⟩
  · intro z
    rw [hs'.live_iff, hs.live_iff]
    constructor
    · exact fun hz => ⟨(habsorbs.live hz).1, fun heq => hfreed.releases.gone (heq ▸ hz)⟩
    · exact fun hz => (hfreed.releases.keeps z hz.1 hz.2).1
  · intro z hz
    have hlive := hs'.live_iff.mp hz
    obtain ⟨hold, hsize⟩ := habsorbs.live hlive
    rw [hs'.holds.size z hlive.1, hs.holds.size z hold.1, hsize]
  · exact ((hs'.list_spec .free).2.2 q).mpr ⟨habsorbs.mem, habsorbs.free⟩
  · rw [hs.holds.size x hx.1, hs'.holds.size q habsorbs.mem]
    exact habsorbs.ge
  · rw [hs.holds.size x hx.1]
    exact hzero
  · intro z hz hgone
    rw [hs.blocks_eq] at hz
    rw [hs'.blocks_eq] at hgone
    exact hfreed.cleared rfl z hz hgone
  · intro z hz hne a hlo hhi
    have hlive := hs.live_iff.mp hz
    rw [hs.holds.size z hlive.1] at hhi
    exact hsteps.bytes z hlive (hfree z hlive hne) a hlo hhi (fun hwrites => hwrites)

/-- One call. -/
theorem Sound.freesSecurely (hs : Sound h s) (address : Nat) : FreesSecurely h address := by
  rcases heapFreeSecure_eq hs.holds address with ⟨hsame, hnone⟩ | ⟨y, hy, hlies, heq⟩
  · -- the search found nothing, and there is nothing
    refine ⟨fun x hx hin => ?_, fun _ => hsame⟩
    have hlive := hs.live_iff.mp hx
    exact absurd ((hs.inPayload_iff hlive).mp hin) (hnone x hlive)
  · -- it found `y`, so the address is in no other block
    rw [FreesSecurely, heq]
    refine ⟨fun x hx hin => ?_, fun hnone => ?_⟩
    · have hlive := hs.live_iff.mp hx
      have hxy := Lies.unique hs.holds.fits hlive hy ((hs.inPayload_iff hlive).mp hin) hlies
      rw [hxy]
      exact hs.freedSecurely hy hlies
    · exact absurd ((hs.inPayload_iff hy).mpr hlies) (hnone y (hs.live_iff.mpr hy))

end Sound

/-- **`HeapFreeSecure`**, in any heap of a legal run and for any address. -/
theorem heapFreeSecure_clears {arena : Nat} {contents : Mem} {size : UInt32} {h : Heap}
    {ops : List HeapOp} (hcreate : heapCreate arena contents size.toNat = some h)
    (hlegal : Throughout heapStep Legal h ops) (address : Nat) :
    FreesSecurely (ops.foldl heapOp h) address := by
  obtain ⟨s, hs⟩ := reachable_sound hcreate hlegal
  exact hs.freesSecurely address

/-- Between two free blocks, by an address in the middle. -/
theorem heapFreeSecure_clears_joined : ∃ h,
    heapCreate 4096 (fun _ => 0) (65536 : UInt32).toNat = some h ∧
    FreesSecurely ([.alloc 16, .alloc 16, .write 8256 [1, 2, 3], .free 8216].foldl heapOp h) 8260 :=
  ⟨_, rfl, @heapFreeSecure_clears 4096 (fun _ => 0) 65536 _
    [.alloc 16, .alloc 16, .write 8256 [1, 2, 3], .free 8216] rfl
    (throughout_cons trivial (throughout_cons trivial (throughout_cons
      ⟨64, by decide +kernel, by decide +kernel, by decide +kernel⟩ (throughout_cons
        ⟨24, by decide +kernel, by decide +kernel⟩ trivial)))) 8260⟩

end DeepShield.Mem
