import DeepShield.Rtl.RingBuf
import DeepShield.Lib.Circular

/-!
# The ring buffer as a bounded byte queue

The purpose of `ringbuf.c`, stated on its own: a queue of at most `Size` bytes,
where a write appends what fits and a read takes from the front. `RunsAsFifo`
says that a run of the ring cannot be told from a run of that queue.

The ring keeps no count. `Head = Tail` stands for the empty queue, so the one
fill level it cannot represent is *exactly full*: a write that fills the last
free byte moves `Tail` onto `Head` and every unread byte is forgotten.
`runsAsFifo_iff_leavesRoom` shows that this is the only way to tell the two
apart.

* `RbInv` ties a ring to a queue with room left: the queue is the window of
  the ring from `Head` on, and `Tail` is right behind it.
* `rtlRingBufferWrite_eq` / `rtlRingBufferRead_eq` are the two calls with
  their case splits resolved into one wrapped copy each.
* `RbInv.write` / `RbInv.read` are the step lemmas, `RbInv.reports` what the
  fill level then is.
-/

namespace DeepShield.Rtl

open DeepShield.Lib DeepShield.Os

/-! ## The abstract queue -/

/-- Append what fits of `d` to a queue of capacity `cap`. -/
def fifoWrite (cap : Nat) (q d : List UInt8) : List UInt8 := q ++ d.take (cap - q.length)

/-- A call made on the ring. -/
inductive RbOp
  | write (data : List UInt8)
  | read (dataSize : Nat)

/-- The fill level the ring reports is the queue's. -/
def Reports (rb : RingBuffer) (q : List UInt8) : Prop :=
  rtlRingBufferGetAvailBytes rb = (rb.size - q.length, q.length)

/-- A run of the ring is a run of the queue `q`: the reported fill level agrees
in every state and every read delivers the oldest bytes of the queue. -/
def RunsAsFifo (rb : RingBuffer) (q : List UInt8) : List RbOp → Prop
  | [] => Reports rb q
  | .write d :: ops =>
    Reports rb q ∧ RunsAsFifo (rtlRingBufferWrite rb d).2.1 (fifoWrite rb.size q d) ops
  | .read k :: ops =>
    Reports rb q ∧ (rtlRingBufferRead rb k).bytes = q.take k ∧
      RunsAsFifo (rtlRingBufferRead rb k).ring (q.drop k) ops

/-- Every write of the run is smaller than the space free in a queue of
capacity `size` that starts out holding `n` bytes. -/
def LeavesRoom (size : Nat) : Nat → List RbOp → Prop
  | _, [] => True
  | n, .write d :: ops => n + d.length < size ∧ LeavesRoom size (n + d.length) ops
  | n, .read k :: ops => LeavesRoom size (n - k) ops

instance decidableLeavesRoom (size : Nat) :
    ∀ (n : Nat) (ops : List RbOp), Decidable (LeavesRoom size n ops)
  | _, [] => isTrue trivial
  | n, .write d :: ops =>
    @instDecidableAnd _ _ _ (decidableLeavesRoom size (n + d.length) ops)
  | n, .read k :: ops => decidableLeavesRoom size (n - k) ops

/-! ## The invariant -/

/-- The ring holds the queue `q` and has at least one byte left. -/
structure RbInv (rb : RingBuffer) (q : List UInt8) : Prop where
  end_eq : rb.end = rb.base + rb.size
  head_ge : rb.base ≤ rb.head
  head_lt : rb.head < rb.base + rb.size
  tail_eq : rb.tail = wrap rb.base rb.size (rb.head + q.length)
  room : q.length < rb.size
  window : Window rb.mem rb.base rb.size rb.head q

theorem rtlRingBufferInitialize_inv (mem : Mem) (base : Nat) {size : Nat} (h : 1 ≤ size) :
    RbInv (rtlRingBufferInitialize mem base size) [] where
  end_eq := rfl
  head_ge := Nat.le_refl _
  head_lt := by
    show base < base + size
    omega
  tail_eq := by
    show base = wrap base size (base + 0)
    rw [wrap_of_lt (by omega)]
    rfl
  room := h
  window := window_nil _ _ _ _

theorem RbInv.tail_ge {rb : RingBuffer} {q : List UInt8} (h : RbInv rb q) : rb.base ≤ rb.tail := by
  rw [h.tail_eq]
  exact le_wrap (Nat.le_trans h.head_ge (Nat.le_add_right _ _))

theorem RbInv.tail_lt {rb : RingBuffer} {q : List UInt8} (h : RbInv rb q) :
    rb.tail < rb.base + rb.size := by
  have hroom := h.room
  have hhead := h.head_lt
  rw [h.tail_eq]
  exact wrap_lt (by omega)

/-- The fill level of a ring with room left is the queue's. -/
theorem RbInv.reports {rb : RingBuffer} {q : List UInt8} (h : RbInv rb q) : Reports rb q := by
  have htail := h.tail_eq
  have hroom := h.room
  have hlt := h.head_lt
  have havail : rbAvailableBytes rb.head rb.tail rb.size = rb.size - q.length := by
    rw [htail]
    unfold rbAvailableBytes wrap
    split <;> split <;> omega
  unfold Reports rtlRingBufferGetAvailBytes
  rw [havail]
  exact Prod.ext rfl (by simp only; omega)

/-! ## A write -/

/-- Two straight copies of `d` are one wrapped copy. -/
theorem foldl_copies_eq_writeWrapped {m : Mem} {lo n p k : Nat} {d : List UInt8}
    (hk : k ≤ d.length) (hwrap : lo + n < p + k) :
    ([⟨0, p, lo + n - p⟩, ⟨lo + n - p, lo, k - (lo + n - p)⟩] : List Copy).foldl (Copy.into d) m
      = writeWrapped m lo n p (d.take k) := by
  unfold writeWrapped
  rw [if_pos (by rw [List.length_take]; omega)]
  simp only [List.foldl_cons, List.foldl_nil, Copy.into, List.drop_zero, List.take_take,
    List.drop_take]
  rw [Nat.min_eq_left (by omega)]

/-- **A write, resolved.** What fits of `d` is copied in behind the queue and
`Tail` moves behind it. -/
theorem rtlRingBufferWrite_eq {rb : RingBuffer} {q d : List UInt8} (h : RbInv rb q) :
    (rtlRingBufferWrite rb d).2.1 =
      { rb with
        mem := writeWrapped rb.mem rb.base rb.size rb.tail (d.take (rb.size - q.length))
        tail := wrap rb.base rb.size (rb.tail + min (rb.size - q.length) d.length) } := by
  have hge := h.tail_ge
  have hlt := h.tail_lt
  have hav : (rtlRingBufferGetAvailBytes rb).1 = rb.size - q.length := congrArg Prod.fst h.reports
  have hmin : (if rb.size - q.length ≤ d.length then rb.size - q.length else d.length)
      = min (rb.size - q.length) d.length := (Nat.min_def).symm
  have htake : d.take (min (rb.size - q.length) d.length) = d.take (rb.size - q.length) := by
    rw [← List.take_take, List.take_length]
  unfold rtlRingBufferWrite
  simp only
  rw [if_neg (by rw [h.end_eq]; omega), hav, hmin]
  split
  next hzero =>
    have hnil : d.take (rb.size - q.length) = [] := by rw [← htake, hzero, List.take_zero]
    rw [hnil, hzero, Nat.add_zero, wrap_of_lt hlt]
    have hmem : writeWrapped rb.mem rb.base rb.size rb.tail [] = rb.mem :=
      funext fun i => writeWrapped_off hlt (fun j hj => absurd hj (by simp))
    rw [hmem]
  next hpos =>
    rw [h.end_eq]
    split
    next hwrap =>
      simp only
      rw [foldl_copies_eq_writeWrapped (Nat.min_le_right _ _) hwrap, htake,
        wrap_of_ge (by omega)]
      congr 1
      omega
    next hnwrap =>
      have hmem : ([⟨0, rb.tail, min (rb.size - q.length) d.length⟩] : List Copy).foldl
          (Copy.into d) rb.mem
          = writeWrapped rb.mem rb.base rb.size rb.tail (d.take (rb.size - q.length)) := by
        unfold writeWrapped
        rw [if_neg (by rw [List.length_take]; omega)]
        simp only [List.foldl_cons, List.foldl_nil, Copy.into, List.drop_zero, htake]
      simp only
      rw [hmem]
      congr 1
      unfold wrap
      split <;> split <;> omega

/-- A write that leaves room appends all of its data. -/
theorem RbInv.write {rb : RingBuffer} {q d : List UInt8} (h : RbInv rb q)
    (hd : q.length + d.length < rb.size) :
    RbInv (rtlRingBufferWrite rb d).2.1 (q ++ d) := by
  have hlt := h.head_lt
  have htake : d.take (rb.size - q.length) = d := List.take_of_length_le (by omega)
  rw [rtlRingBufferWrite_eq h, htake, Nat.min_eq_right (by omega)]
  refine ⟨h.end_eq, h.head_ge, h.head_lt, ?_, ?_, ?_⟩
  · show wrap rb.base rb.size (rb.tail + d.length)
      = wrap rb.base rb.size (rb.head + (q ++ d).length)
    rw [h.tail_eq, wrap_wrap_add (by omega), List.length_append, Nat.add_assoc]
  · show (q ++ d).length < rb.size
    rw [List.length_append]
    exact hd
  · show Window (writeWrapped rb.mem rb.base rb.size rb.tail d) rb.base rb.size rb.head (q ++ d)
    rw [h.tail_eq]
    exact h.window.append hlt (by omega)

/-- A write that does not leave room empties the ring: `Tail` comes to rest on
`Head`. -/
theorem RbInv.write_full {rb : RingBuffer} {q d : List UInt8} (h : RbInv rb q)
    (hd : rb.size ≤ q.length + d.length) : RbInv (rtlRingBufferWrite rb d).2.1 [] := by
  have hlt := h.head_lt
  have hge := h.head_ge
  have hroom := h.room
  have htail : wrap rb.base rb.size (rb.tail + (rb.size - q.length)) = rb.head := by
    have hfull : rb.head + q.length + (rb.size - q.length) = rb.head + rb.size := by omega
    rw [h.tail_eq, wrap_wrap_add (by omega), hfull, wrap_of_ge (by omega), Nat.add_sub_cancel]
  rw [rtlRingBufferWrite_eq h, Nat.min_eq_left (by omega), htail]
  refine ⟨h.end_eq, h.head_ge, h.head_lt, ?_, ?_, window_nil _ _ _ _⟩
  · show rb.head = wrap rb.base rb.size (rb.head + 0)
    rw [Nat.add_zero, wrap_of_lt hlt]
  · show 0 < rb.size
    omega

/-- The pointers of a ring with room left pass the test in front of the lock. -/
theorem RbInv.write_status {rb : RingBuffer} {q : List UInt8} (h : RbInv rb q)
    (d : List UInt8) : (rtlRingBufferWrite rb d).1 = statusSuccess := by
  have hlt := h.tail_lt
  unfold rtlRingBufferWrite
  rw [if_neg (by rw [h.end_eq]; omega)]
  simp only [apply_ite Prod.fst, ite_self]

/-! ## A read -/

/-- Two straight copies out are one wrapped copy. -/
theorem flatMap_copies_eq_readWrapped {m : Mem} {lo n p k : Nat} (hwrap : lo + n < p + k) :
    ([⟨0, p, lo + n - p⟩, ⟨lo + n - p, lo, k - (lo + n - p)⟩] : List Copy).flatMap (Copy.out m)
      = readWrapped m lo n p k := by
  unfold readWrapped
  rw [if_pos hwrap]
  simp [Copy.out]

/-- **A read, resolved.** The oldest bytes of the queue are delivered and
`Head` moves behind them. -/
theorem rtlRingBufferRead_eq {rb : RingBuffer} {q : List UInt8} (k : Nat) (h : RbInv rb q) :
    (rtlRingBufferRead rb k).bytes = q.take k ∧
    (rtlRingBufferRead rb k).ring =
      { rb with head := wrap rb.base rb.size (rb.head + min k q.length) } := by
  have hlt := h.head_lt
  have hroom := h.room
  have hav : (rtlRingBufferGetAvailBytes rb).2 = q.length := congrArg Prod.snd h.reports
  have hmin : (if k > q.length then q.length else k) = min k q.length := by
    rw [Nat.min_def]
    split <;> split <;> omega
  have hout := h.window.readWrapped_eq h.head_lt (Nat.min_le_right k q.length)
  have htake : q.take (min k q.length) = q.take k := by
    rw [← List.take_take, List.take_length]
  rw [htake] at hout
  unfold rtlRingBufferRead
  simp only
  rw [if_neg (by rw [h.end_eq]; omega), hav, hmin]
  split
  next hzero =>
    have hnil : q = [] := List.length_eq_zero_iff.mp hzero
    subst hnil
    refine ⟨by simp, ?_⟩
    rw [List.length_nil, Nat.min_zero, Nat.add_zero, wrap_of_lt hlt]
  next hpos =>
    rw [h.end_eq]
    split
    next hwrap =>
      simp only
      rw [flatMap_copies_eq_readWrapped hwrap, wrap_of_ge (by omega)]
      refine ⟨hout, ?_⟩
      congr 1
      omega
    next hnwrap =>
      have hread : ([⟨0, rb.head, min k q.length⟩] : List Copy).flatMap (Copy.out rb.mem)
          = readWrapped rb.mem rb.base rb.size rb.head (min k q.length) := by
        unfold readWrapped
        rw [if_neg hnwrap]
        simp [Copy.out]
      simp only
      refine ⟨hread.trans hout, ?_⟩
      congr 1
      unfold wrap
      split <;> split <;> omega

/-- A read takes its bytes off the front of the queue. -/
theorem RbInv.read {rb : RingBuffer} {q : List UInt8} (k : Nat) (h : RbInv rb q) :
    RbInv (rtlRingBufferRead rb k).ring (q.drop k) := by
  have hlt := h.head_lt
  have hge := h.head_ge
  have hroom := h.room
  have hdrop : q.drop (min k q.length) = q.drop k := by
    rw [List.drop_eq_drop_iff]
    omega
  rw [(rtlRingBufferRead_eq k h).2]
  refine ⟨h.end_eq, ?_, ?_, ?_, ?_, ?_⟩
  · show rb.base ≤ wrap rb.base rb.size (rb.head + min k q.length)
    exact le_wrap (by omega)
  · show wrap rb.base rb.size (rb.head + min k q.length) < rb.base + rb.size
    exact wrap_lt (by omega)
  · show rb.tail = wrap rb.base rb.size
      (wrap rb.base rb.size (rb.head + min k q.length) + (q.drop k).length)
    rw [← hdrop, List.length_drop, wrap_wrap_add (by omega), h.tail_eq]
    congr 1
    omega
  · show (q.drop k).length < rb.size
    rw [List.length_drop]
    omega
  · show Window rb.mem rb.base rb.size
      (wrap rb.base rb.size (rb.head + min k q.length)) (q.drop k)
    rw [← hdrop]
    exact h.window.drop h.head_lt (by omega)

/-- The pointers pass the test in front of the lock. -/
theorem RbInv.read_status {rb : RingBuffer} {q : List UInt8} (h : RbInv rb q) (k : Nat) :
    (rtlRingBufferRead rb k).status = statusSuccess := by
  have hlt := h.head_lt
  unfold rtlRingBufferRead
  rw [if_neg (by rw [h.end_eq]; omega)]
  simp only [apply_ite ReadResult.status, ite_self]

/-! ## Runs -/

theorem RbInv.size_write {rb : RingBuffer} {q : List UInt8} (h : RbInv rb q) (d : List UInt8) :
    (rtlRingBufferWrite rb d).2.1.size = rb.size := by
  rw [rtlRingBufferWrite_eq h]

theorem RbInv.size_read {rb : RingBuffer} {q : List UInt8} (h : RbInv rb q) (k : Nat) :
    (rtlRingBufferRead rb k).ring.size = rb.size := by
  rw [(rtlRingBufferRead_eq k h).2]

/-- From a ring that holds `q`, a run behaves as the queue does exactly if
every write of it leaves room. -/
theorem RbInv.runsAsFifo_iff : ∀ (ops : List RbOp) {rb : RingBuffer} {q : List UInt8},
    RbInv rb q → (RunsAsFifo rb q ops ↔ LeavesRoom rb.size q.length ops)
  | [], _, _, h => ⟨fun _ => trivial, fun _ => h.reports⟩
  | .write d :: ops, rb, q, h => by
    have hroom := h.room
    simp only [RunsAsFifo, LeavesRoom]
    rcases Nat.lt_or_ge (q.length + d.length) rb.size with hlt | hge
    · have hfit : fifoWrite rb.size q d = q ++ d := by
        unfold fifoWrite
        rw [List.take_of_length_le (by omega)]
      rw [hfit, RbInv.runsAsFifo_iff ops (h.write hlt), h.size_write, List.length_append]
      constructor
      · intro hrun
        exact ⟨hlt, hrun.2⟩
      · intro hrun
        exact ⟨h.reports, hrun.2⟩
    · -- the queue is now full, but the ring reports nothing to read
      constructor
      · intro ⟨_, hrun⟩
        have hrep : Reports (rtlRingBufferWrite rb d).2.1 (fifoWrite rb.size q d) := by
          cases ops with
          | nil => exact hrun
          | cons op ops =>
            cases op with
            | write d' => exact hrun.1
            | read k => exact hrun.1
        have hempty := congrArg Prod.snd (h.write_full hge).reports
        rw [congrArg Prod.snd hrep] at hempty
        simp only [fifoWrite, List.length_append, List.length_take, List.length_nil] at hempty
        omega
      · intro hlt
        exact absurd hlt.1 (by omega)
  | .read k :: ops, rb, q, h => by
    simp only [RunsAsFifo, LeavesRoom]
    rw [RbInv.runsAsFifo_iff ops (h.read k), h.size_read, List.length_drop]
    constructor
    · intro hrun
      exact hrun.2.2
    · intro hrun
      exact ⟨h.reports, (rtlRingBufferRead_eq k h).1, hrun⟩

/-- **The ring is a bounded byte queue exactly as long as it is never filled
to the last byte.** -/
theorem runsAsFifo_iff_leavesRoom (mem : Mem) (base : Nat) {size : Nat} (h : 1 ≤ size)
    (ops : List RbOp) :
    RunsAsFifo (rtlRingBufferInitialize mem base size) [] ops ↔ LeavesRoom size 0 ops :=
  (rtlRingBufferInitialize_inv mem base h).runsAsFifo_iff ops

/-- Two writes with a read between them, the second one wrapping around the
end of a four-byte ring. -/
theorem runsAsFifo_wrapping :
    RunsAsFifo (rtlRingBufferInitialize (fun _ => 0) 0x1000 4) []
      [.write [1, 2, 3], .read 2, .write [4, 5], .read 3] :=
  (runsAsFifo_iff_leavesRoom (fun _ => 0) 0x1000 (by decide) _).mpr (by decide)

/-- One byte written to a ring of one byte is lost: the ring reports itself
empty. -/
theorem not_runsAsFifo_full :
    ¬ RunsAsFifo (rtlRingBufferInitialize (fun _ => 0) 0x1000 1) [] [.write [7]] := by
  intro ⟨_, hrep⟩
  have hread : (1 : Nat) = 0 := (congrArg Prod.snd hrep).symm
  exact absurd hread (by decide)

end DeepShield.Rtl
