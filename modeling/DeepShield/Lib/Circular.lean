import DeepShield.Lib.Bytes

/-!
# Windows of a circular buffer

A byte queue kept in the address range `[lo, lo + n)`: the queue's bytes lie
at consecutive addresses from `head` on, wrapping once at the end of the range.
`Window` says so pointwise. The three operations every such queue is built
from are a copy in and a copy out that may wrap (so they are made of at most
two straight copies) and moving the start forward:

* `Window.append`: a wrapped copy in, right behind the window, extends it;
* `Window.readWrapped_eq`: a wrapped copy out from its start reads a prefix;
* `Window.drop`: moving the start forward drops a prefix.

All positions stay below `lo + 2 * n`, so one conditional subtraction stands
for the modulo.
-/

namespace DeepShield.Lib

/-- Position `p` folded back into `[lo, lo + n)`, for `p < lo + 2 * n`. -/
def wrap (lo n p : Nat) : Nat := if p < lo + n then p else p - n

theorem wrap_of_lt {lo n p : Nat} (h : p < lo + n) : wrap lo n p = p := if_pos h

theorem wrap_of_ge {lo n p : Nat} (h : lo + n ≤ p) : wrap lo n p = p - n :=
  if_neg (by omega)

theorem le_wrap {lo n p : Nat} (h : lo ≤ p) : lo ≤ wrap lo n p := by
  unfold wrap
  split <;> omega

theorem wrap_lt {lo n p : Nat} (h : p < lo + 2 * n) : wrap lo n p < lo + n := by
  unfold wrap
  split <;> omega

/-- Less than one revolution apart, distinct positions stay distinct. -/
theorem wrap_ne {lo n p q : Nat} (hpq : p < q) (hq : q < p + n) :
    wrap lo n p ≠ wrap lo n q := by
  unfold wrap
  split <;> split <;> omega

/-- Folding a position before moving on changes nothing, as long as the
moved position is still within two revolutions. -/
theorem wrap_wrap_add {lo n p i : Nat} (h : p + i < lo + 2 * n) :
    wrap lo n (wrap lo n p + i) = wrap lo n (p + i) := by
  unfold wrap
  split
  next => rfl
  next => split <;> split <;> omega

/-! ## Copies that wrap -/

/-- Copy `d` to the positions from `p` on, wrapping at the end of the range. -/
def writeWrapped (m : Mem) (lo n p : Nat) (d : List UInt8) : Mem :=
  if p + d.length > lo + n then
    writeBytes (writeBytes m p (d.take (lo + n - p))) lo (d.drop (lo + n - p))
  else writeBytes m p d

/-- The `k` bytes from position `p` on, wrapping at the end of the range. -/
def readWrapped (m : Mem) (lo n p k : Nat) : List UInt8 :=
  if p + k > lo + n then readBytes m p (lo + n - p) ++ readBytes m lo (k - (lo + n - p))
  else readBytes m p k

/-- A wrapped copy in is seen at every position it covers. -/
theorem writeWrapped_at {m : Mem} {lo n p j : Nat} {d : List UInt8}
    (hpn : p < lo + n) (hd : d.length ≤ n) (hj : j < d.length) :
    some (writeWrapped m lo n p d (wrap lo n (p + j))) = d[j]? := by
  unfold writeWrapped
  split
  next hwrap =>
    rcases Nat.lt_or_ge (p + j) (lo + n) with hlt | hge
    · -- before the seam: the second copy stops short of this address
      rw [wrap_of_lt hlt, writeBytes_out (by rw [List.length_drop]; omega),
        writeBytes_in (by rw [List.length_take]; omega), List.getElem?_take_of_lt (by omega)]
    · have hidx : p + j - n = lo + (p + j - (lo + n)) := by omega
      rw [wrap_of_ge hge, hidx, writeBytes_in (by rw [List.length_drop]; omega),
        List.getElem?_drop]
      congr 1
      omega
  next hnwrap =>
    rw [wrap_of_lt (by omega), writeBytes_in hj]

/-- A wrapped copy in leaves every other address alone. -/
theorem writeWrapped_off {m : Mem} {lo n p i : Nat} {d : List UInt8}
    (hpn : p < lo + n) (hi : ∀ j, j < d.length → i ≠ wrap lo n (p + j)) :
    writeWrapped m lo n p d i = m i := by
  unfold writeWrapped
  split
  next hwrap =>
    have hsnd : i < lo ∨ lo + (d.drop (lo + n - p)).length ≤ i := by
      rw [List.length_drop]
      by_contra hin
      have hne := hi (lo + n - p + (i - lo)) (by omega)
      rw [wrap_of_ge (by omega)] at hne
      omega
    have hfst : i < p ∨ p + (d.take (lo + n - p)).length ≤ i := by
      rw [List.length_take]
      by_contra hin
      have hne := hi (i - p) (by omega)
      rw [wrap_of_lt (by omega)] at hne
      omega
    rw [writeBytes_out hsnd, writeBytes_out hfst]
  next hnwrap =>
    refine writeBytes_out ?_
    by_contra hin
    have hne := hi (i - p) (by omega)
    rw [wrap_of_lt (by omega)] at hne
    omega

@[simp] theorem readWrapped_length {m : Mem} {lo n p k : Nat} :
    (readWrapped m lo n p k).length = if p + k > lo + n then
      (lo + n - p) + (k - (lo + n - p)) else k := by
  unfold readWrapped
  split <;> simp

theorem readWrapped_getElem? {m : Mem} {lo n p k i : Nat}
    (hpn : p < lo + n) (hi : i < k) :
    (readWrapped m lo n p k)[i]? = some (m (wrap lo n (p + i))) := by
  unfold readWrapped
  split
  next hwrap =>
    rcases Nat.lt_or_ge i (lo + n - p) with hlt | hge
    · rw [List.getElem?_append_left (by rw [readBytes_length]; exact hlt),
        readBytes_getElem? hlt, wrap_of_lt (by omega)]
    · rw [List.getElem?_append_right (by rw [readBytes_length]; exact hge), readBytes_length,
        readBytes_getElem? (by omega), wrap_of_ge (by omega)]
      congr 2
      omega
  next hnwrap =>
    rw [readBytes_getElem? hi, wrap_of_lt (by omega)]

/-! ## The window -/

/-- The bytes of `q` lie in the range from `head` on. -/
def Window (m : Mem) (lo n head : Nat) (q : List UInt8) : Prop :=
  ∀ i, i < q.length → q[i]? = some (m (wrap lo n (head + i)))

theorem window_nil (m : Mem) (lo n head : Nat) : Window m lo n head [] :=
  fun _ hi => absurd hi (by simp)

/-- Bytes copied in right behind a window extend it. -/
theorem Window.append {m : Mem} {lo n head : Nat} {q d : List UInt8}
    (h : Window m lo n head q) (hhi : head < lo + n)
    (hroom : q.length + d.length ≤ n) :
    Window (writeWrapped m lo n (wrap lo n (head + q.length)) d) lo n head (q ++ d) := by
  have hpn := wrap_lt (show head + q.length < lo + 2 * n by omega)
  intro i hi
  rw [List.length_append] at hi
  rcases Nat.lt_or_ge i q.length with hlt | hge
  · -- an old byte: less than one revolution away from everything written
    rw [List.getElem?_append_left hlt, h i hlt, writeWrapped_off hpn]
    intro j hj
    rw [wrap_wrap_add (by omega)]
    exact wrap_ne (by omega) (by omega)
  · have hidx : head + i = head + q.length + (i - q.length) := by omega
    have hat := writeWrapped_at (m := m) hpn (show d.length ≤ n by omega)
      (show i - q.length < d.length by omega)
    rw [wrap_wrap_add (by omega)] at hat
    rw [List.getElem?_append_right hge, hidx, hat]

/-- Moving the start forward drops a prefix. -/
theorem Window.drop {m : Mem} {lo n head k : Nat} {q : List UInt8}
    (h : Window m lo n head q) (hhi : head < lo + n) (hq : q.length ≤ n) :
    Window m lo n (wrap lo n (head + k)) (q.drop k) := by
  intro i hi
  rw [List.length_drop] at hi
  rw [List.getElem?_drop, wrap_wrap_add (by omega), h (k + i) (by omega), Nat.add_assoc]

/-- A wrapped copy out from the start of a window reads a prefix of it. -/
theorem Window.readWrapped_eq {m : Mem} {lo n head k : Nat} {q : List UInt8}
    (h : Window m lo n head q) (hhi : head < lo + n) (hk : k ≤ q.length) :
    readWrapped m lo n head k = q.take k := by
  apply List.ext_getElem?
  intro i
  rcases Nat.lt_or_ge i k with hlt | hge
  · rw [readWrapped_getElem? hhi hlt, List.getElem?_take_of_lt hlt,
      h i (by omega)]
  · rw [List.getElem?_eq_none (by rw [readWrapped_length]; split <;> omega),
      List.getElem?_eq_none (by rw [List.length_take]; omega)]

end DeepShield.Lib
