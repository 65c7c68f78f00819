import DeepShield.Lib.Bytes

/-!
# Records of a fixed size

A C structure as the bytes it occupies. A field is a place in the record; what is stored in it
is loaded from it again (`Record.load_store`), and no store to another field is seen there
(`Record.load_store_of_apart`). Whether two fields are apart is a matter of their offsets and
is decided, so that reading a record that was filled in field by field is rewriting.
-/

namespace DeepShield.Lib

/-! ## Runs of bytes -/

/-- `n` bytes from offset `off` on. -/
def slice (l : List UInt8) (off n : Nat) : List UInt8 := (l.drop off).take n

theorem slice_getElem? (l : List UInt8) (off n i : Nat) :
    (slice l off n)[i]? = if i < n then l[off + i]? else none := by
  rw [slice, List.getElem?_take, List.getElem?_drop]

theorem slice_length {l : List UInt8} {off n : Nat} (h : off + n ≤ l.length) :
    (slice l off n).length = n := by
  rw [slice, List.length_take, List.length_drop]
  omega

/-- A run of a run. -/
theorem slice_slice (l : List UInt8) (off : Nat) {n off' n' : Nat} (h : off' + n' ≤ n) :
    slice (slice l off n) off' n' = slice l (off + off') n' := by
  refine List.ext_getElem? fun i => ?_
  rw [slice_getElem?, slice_getElem?, slice_getElem?]
  by_cases hi : i < n'
  · rw [if_pos hi, if_pos hi, if_pos (by omega), Nat.add_assoc]
  · rw [if_neg hi, if_neg hi]

/-- A byte of a record that was stored to. -/
theorem patch_getElem? {l bs : List UInt8} {off : Nat} (h : off + bs.length ≤ l.length) (i : Nat) :
    (patch l off bs)[i]? = if off ≤ i ∧ i < off + bs.length then bs[i - off]? else l[i]? := by
  have htake : (l.take off).length = off := List.length_take_of_le (by omega)
  unfold patch
  rcases Nat.lt_or_ge i off with hbefore | hge
  · rw [if_neg (by omega), List.append_assoc, List.getElem?_append_left (by omega),
      List.getElem?_take_of_lt hbefore]
  · rcases Nat.lt_or_ge i (off + bs.length) with hin | hafter
    · rw [if_pos ⟨hge, hin⟩, List.getElem?_append_left (by rw [List.length_append]; omega),
        List.getElem?_append_right (by omega), htake]
    · rw [if_neg (by omega), List.getElem?_append_right (by rw [List.length_append]; omega),
        List.length_append, htake, List.getElem?_drop]
      congr 1
      omega

/-- What is stored is there. -/
theorem slice_patch {l bs : List UInt8} {off : Nat} (h : off + bs.length ≤ l.length) :
    slice (patch l off bs) off bs.length = bs := by
  refine List.ext_getElem? fun i => ?_
  rw [slice_getElem?, patch_getElem? h]
  by_cases hi : i < bs.length
  · rw [if_pos hi, if_pos (by omega), Nat.add_sub_cancel_left]
  · rw [if_neg hi, List.getElem?_eq_none (by omega)]

/-- What is not stored to is as before. -/
theorem slice_patch_of_apart {l bs : List UInt8} {off off' n : Nat}
    (h : off + bs.length ≤ l.length) (hapart : off' + n ≤ off ∨ off + bs.length ≤ off') :
    slice (patch l off bs) off' n = slice l off' n := by
  refine List.ext_getElem? fun i => ?_
  rw [slice_getElem?, slice_getElem?, patch_getElem? h]
  by_cases hi : i < n
  · rw [if_pos hi, if_pos hi, if_neg (by omega)]
  · rw [if_neg hi, if_neg hi]

/-! ## Words -/

/-- A word is what its bytes say. -/
theorem ofBytes_bytes32 (v : Nat) : ofBytes (bytes32 v) = v % 2 ^ 32 := by
  simp only [ofBytes, bytes32, UInt8.toNat_ofNat']
  omega

/-- What does not fit in a word is dropped. -/
theorem bytes32_mod (v : Nat) : bytes32 (v % 2 ^ 32) = bytes32 v := by
  simp only [bytes32, List.cons.injEq, and_true, ← UInt8.toNat_inj, UInt8.toNat_ofNat']
  omega

theorem ofBytes_append (bs cs : List UInt8) :
    ofBytes (bs ++ cs) = ofBytes bs + 2 ^ (8 * bs.length) * ofBytes cs := by
  induction bs with
  | nil => simp [ofBytes]
  | cons b bs ih =>
    rw [List.cons_append, ofBytes, ofBytes, ih, List.length_cons, Nat.mul_succ, Nat.pow_add,
      Nat.mul_add, Nat.add_assoc, Nat.mul_comm (2 ^ (8 * bs.length)) (2 ^ 8), Nat.mul_assoc]

theorem ofBytes_bytes64 (v : Nat) : ofBytes (bytes64 v) = v % 2 ^ 64 := by
  rw [bytes64, ofBytes_append, ofBytes_bytes32, ofBytes_bytes32, bytes32_length]
  omega

/-! ## Records -/

/-- A record of `n` bytes. -/
@[ext] structure Record (n : Nat) where
  bytes : List UInt8
  length_eq : bytes.length = n
deriving DecidableEq

/-- A field of `k` bytes. -/
structure Field (n k : Nat) where
  off : Nat
  fits : off + k ≤ n

section Records

variable {n k k' : Nat}

/-- A field of a record inside the record. -/
def Field.inside (outer : Field n k) (f : Field k k') : Field n k' where
  off := outer.off + f.off
  fits := by
    have houter := outer.fits
    have hfits := f.fits
    omega

/-- Two fields have no byte in common. -/
def Field.Apart (f : Field n k) (g : Field n k') : Prop := f.off + k ≤ g.off ∨ g.off + k' ≤ f.off

instance (f : Field n k) (g : Field n k') : Decidable (f.Apart g) :=
  inferInstanceAs (Decidable (_ ∨ _))

namespace Record

/-- Store to the beginning of a field. -/
def store (r : Record n) (f : Field n k) (bs : List UInt8) (h : bs.length ≤ k) : Record n where
  bytes := patch r.bytes f.off bs
  length_eq := by
    have hfits := f.fits
    rw [patch_length (by rw [r.length_eq]; omega), r.length_eq]

/-- The bytes of a field. -/
def load (r : Record n) (f : Field n k) : List UInt8 := slice r.bytes f.off k

/-- Store a word. -/
def store32 (r : Record n) (f : Field n 4) (v : UInt32) : Record n :=
  r.store f (bytes32 v.toNat) (Nat.le_of_eq (bytes32_length _))

def store64 (r : Record n) (f : Field n 8) (v : UInt64) : Record n :=
  r.store f (bytes64 v.toNat) (Nat.le_of_eq (bytes64_length _))

/-- Load a word. -/
def load32 (r : Record n) (f : Field n 4) : UInt32 := UInt32.ofNat (ofBytes (r.load f))

def load64 (r : Record n) (f : Field n 8) : UInt64 := UInt64.ofNat (ofBytes (r.load f))

variable {r : Record n} {f : Field n k} {g : Field n k'} {bs : List UInt8}

theorem load_length (r : Record n) (f : Field n k) : (r.load f).length = k :=
  slice_length (by rw [r.length_eq]; exact f.fits)

/-- A field that was stored to, as far as it was. -/
theorem load_store_take (h : bs.length ≤ k) : ((r.store f bs h).load f).take bs.length = bs := by
  have hfits := f.fits
  have hroom : f.off + bs.length ≤ r.bytes.length := by
    rw [r.length_eq]
    omega
  have hslice := slice_slice (patch r.bytes f.off bs) f.off (show 0 + bs.length ≤ k by omega)
  rw [Nat.add_zero, slice_patch hroom] at hslice
  exact hslice

/-- **What is stored in a field is loaded from it.** -/
theorem load_store (h : bs.length = k) : (r.store f bs (Nat.le_of_eq h)).load f = bs := by
  have hall := @load_store_take n k r f bs (Nat.le_of_eq h)
  rwa [List.take_of_length_le (by rw [load_length]; exact Nat.le_of_eq h.symm)] at hall

/-- **Another field is as before.** -/
theorem load_store_of_apart (hapart : g.Apart f) (h : bs.length ≤ k) :
    (r.store f bs h).load g = r.load g := by
  have hfits := f.fits
  have hroom : f.off + bs.length ≤ r.bytes.length := by
    rw [r.length_eq]
    omega
  refine slice_patch_of_apart hroom ?_
  rcases hapart with hbefore | hafter
  · exact Or.inl hbefore
  · exact Or.inr (by omega)

/-- A record inside the record. -/
def sub (r : Record n) (outer : Field n k) : Record k := ⟨r.load outer, load_length r outer⟩

theorem load_sub (outer : Field n k) (f' : Field k k') :
    (r.sub outer).load f' = r.load (outer.inside f') :=
  slice_slice r.bytes outer.off f'.fits

/-! The same for words. -/

variable {f32 g32 : Field n 4} {f64 g64 : Field n 8} {v : UInt32} {w : UInt64}

@[simp] theorem load32_store32 : (r.store32 f32 v).load32 f32 = v := by
  rw [load32, store32, load_store (bytes32_length _), ofBytes_bytes32, Nat.mod_eq_of_lt v.toNat_lt,
    UInt32.ofNat_toNat]

@[simp] theorem load64_store64 : (r.store64 f64 w).load64 f64 = w := by
  rw [load64, store64, load_store (bytes64_length _), ofBytes_bytes64, Nat.mod_eq_of_lt w.toNat_lt,
    UInt64.ofNat_toNat]

theorem load32_sub (outer : Field n k) (f' : Field k 4) :
    (r.sub outer).load32 f' = r.load32 (outer.inside f') := by
  rw [load32, load_sub, load32]

theorem load64_sub (outer : Field n k) (f' : Field k 8) :
    (r.sub outer).load64 f' = r.load64 (outer.inside f') := by
  rw [load64, load_sub, load64]

theorem load_store32 (h : g.Apart f32) : (r.store32 f32 v).load g = r.load g :=
  load_store_of_apart h _

theorem load_store64 (h : g.Apart f64) : (r.store64 f64 w).load g = r.load g :=
  load_store_of_apart h _

theorem load32_store (h : g32.Apart f) (hbs : bs.length ≤ k) :
    (r.store f bs hbs).load32 g32 = r.load32 g32 := by
  rw [load32, load_store_of_apart h, load32]

theorem load64_store (h : g64.Apart f) (hbs : bs.length ≤ k) :
    (r.store f bs hbs).load64 g64 = r.load64 g64 := by
  rw [load64, load_store_of_apart h, load64]

theorem load32_store32_of_apart (h : g32.Apart f32) :
    (r.store32 f32 v).load32 g32 = r.load32 g32 := load32_store h _

theorem load32_store64 (h : g32.Apart f64) : (r.store64 f64 w).load32 g32 = r.load32 g32 :=
  load32_store h _

theorem load64_store32 (h : g64.Apart f32) : (r.store32 f32 v).load64 g64 = r.load64 g64 :=
  load64_store h _

theorem load64_store64_of_apart (h : g64.Apart f64) :
    (r.store64 f64 w).load64 g64 = r.load64 g64 := load64_store h _

end Record

end Records

end DeepShield.Lib
