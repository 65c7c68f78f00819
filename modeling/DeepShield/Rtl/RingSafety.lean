import DeepShield.Rtl.RingFifo

/-!
# The ring buffer stays inside its memory

Whatever is written to the ring and read from it, and however full it is, both pointers
stay inside `[Base, End)`, and so does every byte a call copies. What a call copies also
stays inside the first `DataSize` bytes of its caller's buffer.

The fill level does not enter. A call copies at most the bytes that are free, or taken, by
the two pointers alone, which is at most `Size`; so a copy that runs past `End` wraps
around once, and ends before it would come back to where it began. The sums `Tail + n` and
`Head + n` that are compared with `End` stay below `Base + 2 * Size`, addresses of kernel
space still. The invariant is that the pointers are inside (`PointersInside`), and each call
keeps it from there.
-/

namespace DeepShield.Rtl

open DeepShield.Lib DeepShield.Os

/-- Both pointers are inside a ring of `size` bytes from `base` on. -/
structure PointersInside (base size : Nat) (rb : RingBuffer) : Prop where
  base_eq : rb.base = base
  size_eq : rb.size = size
  end_eq : rb.end = base + size
  head_ge : base ≤ rb.head
  head_lt : rb.head < base + size
  tail_ge : base ≤ rb.tail
  tail_lt : rb.tail < base + size

/-- A copy of a call on `dataSize` bytes is inside the ring, and inside these bytes. -/
def Copy.Inside (base size dataSize : Nat) (c : Copy) : Prop :=
  base ≤ c.ring ∧ c.ring + c.len ≤ base + size ∧ c.data + c.len ≤ dataSize

/-- A run is safe: the pointers are inside in every state, no call fails with
`STATUS_INTERNAL_ERROR`, every copy is inside, and a read hands back `DataSize` bytes at
most. -/
def RunsSafely (base size : Nat) : RingBuffer → List RbOp → Prop
  | rb, [] => PointersInside base size rb
  | rb, .write d :: ops =>
    PointersInside base size rb ∧ (rtlRingBufferWrite rb d).1 ≠ statusInternalError ∧
      (∀ c ∈ (rtlRingBufferWrite rb d).2.2, c.Inside base size d.length) ∧
      RunsSafely base size (rtlRingBufferWrite rb d).2.1 ops
  | rb, .read k :: ops =>
    PointersInside base size rb ∧ (rtlRingBufferRead rb k).status ≠ statusInternalError ∧
      (∀ c ∈ (rtlRingBufferRead rb k).copies, c.Inside base size k) ∧
      (rtlRingBufferRead rb k).bytes.length ≤ k ∧
      RunsSafely base size (rtlRingBufferRead rb k).ring ops

section Calls

variable {base size : Nat} {rb : RingBuffer}

/-- The free and the taken bytes are at most the whole ring. -/
theorem PointersInside.avail_le (h : PointersInside base size rb) :
    (rtlRingBufferGetAvailBytes rb).1 ≤ size ∧ (rtlRingBufferGetAvailBytes rb).2 ≤ size := by
  have hhead := h.head_ge
  have hhead' := h.head_lt
  have htail := h.tail_ge
  have htail' := h.tail_lt
  have hfree : rbAvailableBytes rb.head rb.tail rb.size ≤ size := by
    unfold rbAvailableBytes
    rw [h.size_eq]
    split <;> omega
  exact ⟨hfree, by show rb.size - _ ≤ size; rw [h.size_eq]; omega⟩

theorem success_ne_internalError : statusSuccess ≠ statusInternalError := by decide

/-- One straight copy. -/
theorem inside_straight {p n dataSize : Nat} (hge : base ≤ p) (hfits : p + n ≤ base + size)
    (hdata : n ≤ dataSize) : ∀ c ∈ ([⟨0, p, n⟩] : List Copy), c.Inside base size dataSize := by
  intro c hc
  rw [List.mem_singleton.mp hc]
  exact ⟨hge, hfits, (Nat.zero_add n).symm ▸ hdata⟩

/-- A copy that wraps around: to the end of the ring, and on from its base. -/
theorem inside_wrapped {p n dataSize : Nat} (hge : base ≤ p) (hlt : p < base + size)
    (hn : n ≤ size) (hwrap : base + size < p + n) (hdata : n ≤ dataSize) :
    ∀ c ∈ ([⟨0, p, base + size - p⟩,
        ⟨base + size - p, base, n - (base + size - p)⟩] : List Copy),
      c.Inside base size dataSize := by
  intro c hc
  rcases List.mem_cons.mp hc with hfirst | hrest
  · rw [hfirst]
    refine ⟨hge, ?_, ?_⟩
    · show p + (base + size - p) ≤ base + size
      omega
    · show 0 + (base + size - p) ≤ dataSize
      omega
  · rw [List.mem_singleton.mp hrest]
    refine ⟨Nat.le_refl base, ?_, ?_⟩
    · show base + (n - (base + size - p)) ≤ base + size
      omega
    · show base + size - p + (n - (base + size - p)) ≤ dataSize
      omega

/-- **A write** keeps the pointers inside, fails not and copies inside. -/
theorem PointersInside.write (h : PointersInside base size rb) (d : List UInt8) :
    (rtlRingBufferWrite rb d).1 ≠ statusInternalError ∧
      (∀ c ∈ (rtlRingBufferWrite rb d).2.2, c.Inside base size d.length) ∧
      PointersInside base size (rtlRingBufferWrite rb d).2.1 := by
  have havail := h.avail_le.1
  have hge := h.tail_ge
  have hlt := h.tail_lt
  unfold rtlRingBufferWrite
  simp only
  rw [if_neg (by rw [h.end_eq]; omega)]
  generalize (rtlRingBufferGetAvailBytes rb).1 = availToWrite at havail
  have hcopy : ∃ n, (if availToWrite ≤ d.length then availToWrite else d.length) = n ∧
      n ≤ size ∧ n ≤ d.length := by
    refine ⟨_, rfl, ?_⟩
    split
    next hle => exact ⟨havail, hle⟩
    next hgt => exact ⟨by omega, Nat.le_refl _⟩
  obtain ⟨n, hn, hsize, hdata⟩ := hcopy
  rw [hn, h.end_eq, h.base_eq]
  split
  next => exact ⟨success_ne_internalError, fun c hc => absurd hc (by simp), h⟩
  next =>
    split
    next hwrap =>
      refine ⟨success_ne_internalError, inside_wrapped hge hlt hsize hwrap hdata, ?_⟩
      refine ⟨rfl, h.size_eq, rfl, h.head_ge, h.head_lt, Nat.le_add_right _ _, ?_⟩
      show base + (n - (base + size - rb.tail)) < base + size
      omega
    next hfits =>
      refine ⟨success_ne_internalError, inside_straight hge (by omega) hdata, ?_⟩
      refine ⟨rfl, h.size_eq, rfl, h.head_ge, h.head_lt, ?_, ?_⟩
      · show base ≤ if rb.tail + n = base + size then base else rb.tail + n
        split <;> omega
      · show (if rb.tail + n = base + size then base else rb.tail + n) < base + size
        split <;> omega

/-- The bytes of a copy. -/
@[simp] theorem Copy.length_out (mem : Mem) (c : Copy) : (c.out mem).length = c.len :=
  readBytes_length mem c.ring c.len

/-- **A read** keeps the pointers inside, fails not, copies inside and hands back no more
than was asked for. -/
theorem PointersInside.read (h : PointersInside base size rb) (k : Nat) :
    (rtlRingBufferRead rb k).status ≠ statusInternalError ∧
      (∀ c ∈ (rtlRingBufferRead rb k).copies, c.Inside base size k) ∧
      (rtlRingBufferRead rb k).bytes.length ≤ k ∧
      PointersInside base size (rtlRingBufferRead rb k).ring := by
  have havail := h.avail_le.2
  have hge := h.head_ge
  have hlt := h.head_lt
  unfold rtlRingBufferRead
  simp only
  rw [if_neg (by rw [h.end_eq]; omega)]
  generalize (rtlRingBufferGetAvailBytes rb).2 = availToRead at havail
  have hcopy : ∃ n, (if k > availToRead then availToRead else k) = n ∧ n ≤ size ∧ n ≤ k := by
    refine ⟨_, rfl, ?_⟩
    split
    next hgt => exact ⟨havail, by omega⟩
    next hle => exact ⟨by omega, Nat.le_refl _⟩
  obtain ⟨n, hn, hsize, hdata⟩ := hcopy
  rw [hn, h.end_eq, h.base_eq]
  split
  next =>
    exact ⟨success_ne_internalError, fun c hc => absurd hc (by simp), Nat.zero_le k, h⟩
  next =>
    split
    next hwrap =>
      refine ⟨success_ne_internalError, inside_wrapped hge hlt hsize hwrap hdata, ?_, ?_⟩
      · simp only [List.flatMap_cons, List.flatMap_nil, List.length_append, List.length_nil,
          Copy.length_out]
        omega
      · refine ⟨rfl, h.size_eq, rfl, Nat.le_add_right _ _, ?_, h.tail_ge, h.tail_lt⟩
        show base + (n - (base + size - rb.head)) < base + size
        omega
    next hfits =>
      refine ⟨success_ne_internalError, inside_straight hge (by omega) hdata, ?_, ?_⟩
      · simp only [List.flatMap_cons, List.flatMap_nil, List.length_append, List.length_nil,
          Copy.length_out]
        exact hdata
      · refine ⟨rfl, h.size_eq, rfl, ?_, ?_, h.tail_ge, h.tail_lt⟩
        · show base ≤ if rb.head + n = base + size then base else rb.head + n
          split <;> omega
        · show (if rb.head + n = base + size then base else rb.head + n) < base + size
          split <;> omega

/-- **A run** from pointers that are inside is safe. -/
theorem PointersInside.runsSafely : ∀ (ops : List RbOp) {rb : RingBuffer},
    PointersInside base size rb → RunsSafely base size rb ops := by
  intro ops
  induction ops with
  | nil =>
    intro rb h
    exact h
  | cons op ops ih =>
    intro rb h
    cases op with
    | write d =>
      obtain ⟨hstatus, hcopies, hnext⟩ := h.write d
      exact ⟨h, hstatus, hcopies, ih hnext⟩
    | read k =>
      obtain ⟨hstatus, hcopies, hbytes, hnext⟩ := h.read k
      exact ⟨h, hstatus, hcopies, hbytes, ih hnext⟩

end Calls

theorem rtlRingBufferInitialize_inside (mem : Mem) (base : Nat) {size : Nat} (h : 1 ≤ size) :
    PointersInside base size (rtlRingBufferInitialize mem base size) where
  base_eq := rfl
  size_eq := rfl
  end_eq := rfl
  head_ge := Nat.le_refl base
  head_lt := by
    show base < base + size
    omega
  tail_ge := Nat.le_refl base
  tail_lt := by
    show base < base + size
    omega

/-- **Every run of a ring is safe**, whatever its size and the sizes of the calls. -/
theorem ringBuffer_runsSafely (mem : Mem) (base : Nat) {size : Nat} (h : 1 ≤ size)
    (ops : List RbOp) :
    RunsSafely base size (rtlRingBufferInitialize mem base size) ops :=
  (rtlRingBufferInitialize_inside mem base h).runsSafely ops

/-- A ring of one byte: the write that fills it, a longer one, and two reads. -/
theorem ringBuffer_runsSafely_oneByte :
    RunsSafely 0x1000 1 (rtlRingBufferInitialize (fun _ => 0) 0x1000 1)
      [.write [7], .write [8, 9], .read 1, .read 4] :=
  ringBuffer_runsSafely (fun _ => 0) 0x1000 (by decide) _

end DeepShield.Rtl
