import Mathlib.Algebra.Group.Nat.Defs
import Mathlib.Data.List.Basic
import Mathlib.Tactic.Common

/-!
# Byte-addressed memory

Memory as a total map from addresses to bytes, with the two accesses C code
makes to it: copying a run of bytes and reading or writing a little-endian
32-bit word. Everything here is about *which bytes an access touches*: a write
is seen by a read of the same place, and is invisible to any read of a
disjoint one. Those two facts, once per access size, are what the layout
arguments of the modules above rest on.
-/

namespace DeepShield.Lib

/-- Byte-addressed memory. -/
abbrev Mem := Nat → UInt8

/-- Copy `bs` to the addresses from `a` on. -/
def writeBytes (m : Mem) (a : Nat) (bs : List UInt8) : Mem :=
  fun i => if a ≤ i then (bs[i - a]?).getD (m i) else m i

/-- The `n` bytes from address `a` on. -/
def readBytes (m : Mem) (a n : Nat) : List UInt8 :=
  (List.range n).map fun i => m (a + i)

@[simp] theorem readBytes_length (m : Mem) (a n : Nat) : (readBytes m a n).length = n := by
  simp [readBytes]

theorem readBytes_getElem? {m : Mem} {a n i : Nat} (h : i < n) :
    (readBytes m a n)[i]? = some (m (a + i)) := by
  simp [readBytes, h]

/-- A copy is seen at the addresses it covers. -/
theorem writeBytes_in {m : Mem} {a i : Nat} {bs : List UInt8} (h : i < bs.length) :
    some (writeBytes m a bs (a + i)) = bs[i]? := by
  have hi : a + i - a = i := by omega
  simp [writeBytes, hi, h]

/-- A copy leaves every byte outside its range alone. -/
theorem writeBytes_out {m : Mem} {a i : Nat} {bs : List UInt8}
    (h : i < a ∨ a + bs.length ≤ i) : writeBytes m a bs i = m i := by
  unfold writeBytes
  split
  next hle =>
    have hnone : bs[i - a]? = none := List.getElem?_eq_none (by omega)
    rw [hnone]
    rfl
  next => rfl

/-! ## Little-endian words -/

/-- The four bytes of a word, least significant first; what does not fit in
32 bits is dropped. -/
def bytes32 (v : Nat) : List UInt8 :=
  [UInt8.ofNat v, UInt8.ofNat (v / 2 ^ 8), UInt8.ofNat (v / 2 ^ 16), UInt8.ofNat (v / 2 ^ 24)]

/-- The word at address `a`. -/
def read32 (m : Mem) (a : Nat) : Nat :=
  (m a).toNat + 2 ^ 8 * (m (a + 1)).toNat + 2 ^ 16 * (m (a + 2)).toNat
    + 2 ^ 24 * (m (a + 3)).toNat

/-- Store the low 32 bits of `v` at address `a`. -/
def write32 (m : Mem) (a v : Nat) : Mem := writeBytes m a (bytes32 v)

@[simp] theorem bytes32_length (v : Nat) : (bytes32 v).length = 4 := rfl

theorem read32_lt (m : Mem) (a : Nat) : read32 m a < 2 ^ 32 := by
  have h0 := (m a).toNat_lt
  have h1 := (m (a + 1)).toNat_lt
  have h2 := (m (a + 2)).toNat_lt
  have h3 := (m (a + 3)).toNat_lt
  unfold read32
  omega

/-- A word read depends on its four bytes only. -/
theorem read32_congr {m m' : Mem} {a : Nat} (h : ∀ i, a ≤ i → i < a + 4 → m i = m' i) :
    read32 m a = read32 m' a := by
  unfold read32
  rw [h a (by omega) (by omega), h (a + 1) (by omega) (by omega),
    h (a + 2) (by omega) (by omega), h (a + 3) (by omega) (by omega)]

theorem write32_out {m : Mem} {a i v : Nat} (h : i < a ∨ a + 4 ≤ i) :
    write32 m a v i = m i :=
  writeBytes_out (by simpa using h)

/-- A word read sees the word just written there. -/
theorem read32_write32_same (m : Mem) (a v : Nat) :
    read32 (write32 m a v) a = v % 2 ^ 32 := by
  have h0 : write32 m a v a = UInt8.ofNat v := by simp [write32, writeBytes, bytes32]
  have h1 : write32 m a v (a + 1) = UInt8.ofNat (v / 2 ^ 8) := by
    simp [write32, writeBytes, bytes32]
  have h2 : write32 m a v (a + 2) = UInt8.ofNat (v / 2 ^ 16) := by
    simp [write32, writeBytes, bytes32]
  have h3 : write32 m a v (a + 3) = UInt8.ofNat (v / 2 ^ 24) := by
    simp [write32, writeBytes, bytes32]
  unfold read32
  rw [h0, h1, h2, h3]
  simp only [UInt8.toNat_ofNat']
  omega

/-- A word read does not see a write to a disjoint word. -/
theorem read32_write32_of_disjoint {m : Mem} {a b v : Nat} (h : a + 4 ≤ b ∨ b + 4 ≤ a) :
    read32 (write32 m b v) a = read32 m a :=
  read32_congr fun _ hlo hhi => write32_out (by omega)

/-- A byte of a copy. -/
theorem writeBytes_readBytes {m : Mem} {a c n i : Nat} (h : i < n) :
    writeBytes m a (readBytes m c n) (a + i) = m (c + i) := by
  have hin := @writeBytes_in m a i (readBytes m c n) (by simpa using h)
  rw [readBytes_getElem? h] at hin
  exact Option.some.inj hin

/-- A word of a copy. -/
theorem read32_copy {m : Mem} {a c n i : Nat} (h : i + 4 ≤ n) :
    read32 (writeBytes m a (readBytes m c n)) (a + i) = read32 m (c + i) := by
  unfold read32
  simp only [Nat.add_assoc]
  rw [writeBytes_readBytes (by omega), writeBytes_readBytes (by omega),
    writeBytes_readBytes (by omega), writeBytes_readBytes (by omega)]

/-- The number whose bytes these are, least significant first. -/
def ofBytes : List UInt8 → Nat
  | [] => 0
  | b :: bs => b.toNat + 2 ^ 8 * ofBytes bs

/-- Set `n` bytes from address `a` on to zero. -/
def zeroBytes (m : Mem) (a n : Nat) : Mem := writeBytes m a (List.replicate n 0)

theorem zeroBytes_in {m : Mem} {a n i : Nat} (hlo : a ≤ i) (hhi : i < a + n) :
    zeroBytes m a n i = 0 := by
  unfold zeroBytes writeBytes
  rw [if_pos hlo, List.getElem?_replicate_of_lt (by omega), Option.getD_some]

/-- What is zero stays zero, inside and outside. -/
theorem zeroBytes_zero {m : Mem} {a n i : Nat} (h : m i = 0) : zeroBytes m a n i = 0 := by
  by_cases hin : a ≤ i ∧ i < a + n
  · exact zeroBytes_in hin.1 hin.2
  · refine (writeBytes_out ?_).trans h
    rw [List.length_replicate]
    omega

/-! ## Records

A record is a list of bytes of a fixed length, and a store to one of its fields
overwrites a run of them. -/

/-- Overwrite the bytes of `l` from offset `off` on with `bs`. -/
def patch (l : List UInt8) (off : Nat) (bs : List UInt8) : List UInt8 :=
  l.take off ++ bs ++ l.drop (off + bs.length)

/-- A store inside a record keeps its length. -/
theorem patch_length {l bs : List UInt8} {off : Nat} (h : off + bs.length ≤ l.length) :
    (patch l off bs).length = l.length := by
  simp only [patch, List.length_append, List.length_take, List.length_drop]
  omega

/-- Overwriting a whole record leaves nothing of it. -/
theorem patch_all {l bs : List UInt8} (h : bs.length = l.length) : patch l 0 bs = bs := by
  simp [patch, h]

/-- The store is seen from its offset on. -/
theorem patch_drop {l bs : List UInt8} {off : Nat} (h : off ≤ l.length) :
    (patch l off bs).drop off = bs ++ l.drop (off + bs.length) := by
  have hlen : (l.take off).length = off := List.length_take_of_le h
  rw [patch, List.append_assoc, List.drop_append_of_le_length (by omega),
    List.drop_of_length_le (by omega), List.nil_append]

/-- The eight bytes of a 64-bit word, least significant first. -/
def bytes64 (v : Nat) : List UInt8 := bytes32 v ++ bytes32 (v / 2 ^ 32)

@[simp] theorem bytes64_length (v : Nat) : (bytes64 v).length = 8 := rfl

end DeepShield.Lib
