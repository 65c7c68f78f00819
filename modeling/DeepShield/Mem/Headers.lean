import DeepShield.Lib.Links
import DeepShield.Lib.Tiling
import DeepShield.Mem.Heap

/-!
# Headers as records

The headers of the blocks of a heap do not overlap, so an assignment to a field of
one leaves the fields of all others alone. `Records` is the heap with that built in:
a function for each field, and the heads of the lists. `View` relates the two on a
list `L` of blocks whose headers are separate, and says which bytes a function has
not touched so far; each assignment of the heap keeps it (`View.set`), and so do the
functions on lists, which on records are the operations of doubly linked lists
(`View.unlink`, `View.link`, `View.insertFree`).
-/

namespace DeepShield.Mem

open DeepShield.Lib

/-! ## Arithmetic that fits -/

section Arithmetic

variable {h : Heap} {a b : Nat}

theorem Heap.add_eq (hfits : a + b < 2 ^ 32) : h.add a b = (a + b, h) := by
  unfold add
  rw [Nat.mod_eq_of_lt hfits, decide_eq_false (Nat.not_le_of_lt hfits), Bool.or_false]

theorem Heap.sub_eq (hle : b ≤ a) (hfits : a < 2 ^ 32) : h.sub a b = (a - b, h) := by
  have hsum : a + 2 ^ 32 - b = a - b + 2 ^ 32 := by omega
  unfold sub
  rw [hsum, Nat.add_mod_right, Nat.mod_eq_of_lt (by omega),
    decide_eq_false (Nat.not_lt_of_le hle), Bool.or_false]

theorem Heap.mul_eq (hfits : a * b < 2 ^ 32) : h.mul a b = (a * b, h) := by
  unfold mul
  rw [Nat.mod_eq_of_lt hfits, decide_eq_false (Nat.not_le_of_lt hfits), Bool.or_false]

end Arithmetic

/-! ## Fields in memory -/

theorem HeapField.offset_le (field : HeapField) : field.offset ≤ 20 := by
  cases field <;> decide

/-- Different fields are different words. -/
theorem HeapField.offset_apart {f g : HeapField} (hne : f ≠ g) :
    f.offset + 4 ≤ g.offset ∨ g.offset + 4 ≤ f.offset := by
  cases f <;> cases g <;> first | exact absurd rfl hne | decide

theorem Heap.get_lt (h : Heap) (field : HeapField) (x : Nat) : h.get field x < 2 ^ 32 :=
  read32_lt h.mem _

/-- Reading a field after an assignment to one, of the same block or of one whose
header is elsewhere. -/
theorem Heap.get_set (h : Heap) {f g : HeapField} {x y v : Nat} (hx : sizeofHeapBlock ≤ x)
    (hy : sizeofHeapBlock ≤ y)
    (hxy : x ≠ y → x + sizeofHeapBlock ≤ y ∨ y + sizeofHeapBlock ≤ x) (hv : v < 2 ^ 32) :
    (h.set f x v).get g y = if g = f ∧ y = x then v else h.get g y := by
  unfold sizeofHeapBlock at hx hy hxy
  unfold get set sizeofHeapBlock
  by_cases hsame : g = f ∧ y = x
  · rw [if_pos hsame, hsame.1, hsame.2, read32_write32_same, Nat.mod_eq_of_lt hv]
  · rw [if_neg hsame]
    refine read32_write32_of_disjoint ?_
    have hf := f.offset_le
    have hg := g.offset_le
    by_cases hyx : y = x
    · have hfg := HeapField.offset_apart (fun heq => hsame ⟨heq, hyx⟩)
      omega
    · have hapart := hxy (Ne.symm hyx)
      omega

/-- An assignment changes only the header of its block. -/
theorem Heap.set_out (h : Heap) {f : HeapField} {x v a : Nat} (hx : sizeofHeapBlock ≤ x)
    (ha : a + sizeofHeapBlock < x ∨ x ≤ a) : (h.set f x v).mem a = h.mem a := by
  have hf := f.offset_le
  unfold sizeofHeapBlock at hx ha
  unfold set sizeofHeapBlock
  refine write32_out ?_
  omega

/-- A header that was copied is read in its new place. -/
theorem Heap.get_copyBlock_same (h : Heap) {g : HeapField} {x y : Nat} :
    (h.copyBlock y x).get g y = h.get g x :=
  read32_copy (by have hg := g.offset_le; unfold sizeofHeapBlock; omega)

/-- And the others where they were. -/
theorem Heap.get_copyBlock_of_apart (h : Heap) {g : HeapField} {x y z : Nat}
    (hy : sizeofHeapBlock ≤ y) (hz : sizeofHeapBlock ≤ z)
    (hapart : y + sizeofHeapBlock ≤ z ∨ z + sizeofHeapBlock ≤ y) :
    (h.copyBlock y x).get g z = h.get g z := by
  refine read32_congr fun i hlo hhi => writeBytes_out ?_
  have hg := g.offset_le
  rw [readBytes_length]
  unfold sizeofHeapBlock at hy hz hapart hlo hhi ⊢
  omega

/-- Copying a header changes only the new place. -/
theorem Heap.copyBlock_out (h : Heap) {x y a : Nat} (hy : sizeofHeapBlock ≤ y)
    (ha : a + sizeofHeapBlock < y ∨ y ≤ a) : (h.copyBlock y x).mem a = h.mem a := by
  refine writeBytes_out ?_
  rw [readBytes_length]
  unfold sizeofHeapBlock at hy ha ⊢
  omega

@[simp] theorem Heap.head_set (h : Heap) (f : HeapField) (x v : Nat) :
    (h.set f x v).head = h.head := rfl

theorem Heap.head_setHead (h : Heap) (list : HeapList) (x : Nat) :
    (h.setHead list x).head = Function.update h.head list x := by
  funext list'
  cases list <;> cases list' <;> rfl

/-! ## Records -/

/-- The fields of all blocks, and the heads. -/
structure Records where
  state : Nat → Nat
  size : Nat → Nat
  physical : Links Nat
  virtual : Lists HeapList Nat

namespace Records

/-- A field of a block. -/
def get (b : Records) : HeapField → Nat → Nat
  | .state => b.state
  | .size => b.size
  | .pprev => b.physical.prev
  | .pnext => b.physical.next
  | .vprev => b.virtual.links.prev
  | .vnext => b.virtual.links.next

/-- An assignment to a field. -/
def set (b : Records) (field : HeapField) (x v : Nat) : Records :=
  match field with
  | .state => { b with state := Function.update b.state x v }
  | .size => { b with size := Function.update b.size x v }
  | .pprev => { b with physical := b.physical.setPrev x v }
  | .pnext => { b with physical := b.physical.setNext x v }
  | .vprev => { b with virtual := { b.virtual with links := b.virtual.links.setPrev x v } }
  | .vnext => { b with virtual := { b.virtual with links := b.virtual.links.setNext x v } }

theorem get_set (b : Records) (f g : HeapField) (x y v : Nat) :
    (b.set f x v).get g y = if g = f ∧ y = x then v else b.get g y := by
  cases f <;> cases g <;> simp [get, set, Function.update_apply]

/-- Another record in the place of one. -/
def copy (b : Records) (target source : Nat) : Records where
  state := Function.update b.state target (b.state source)
  size := Function.update b.size target (b.size source)
  physical :=
    (b.physical.setNext target (b.physical.next source)).setPrev target (b.physical.prev source)
  virtual := { b.virtual with
    links := (b.virtual.links.setNext target (b.virtual.links.next source)).setPrev target
      (b.virtual.links.prev source) }

theorem get_copy (b : Records) (g : HeapField) (target source y : Nat) :
    (b.copy target source).get g y = if y = target then b.get g source else b.get g y := by
  cases g <;> simp [get, copy, Function.update_apply]

/-- Other links in place of the virtual ones. -/
def withLinks (b : Records) (links : Links Nat) : Records :=
  { b with virtual := { b.virtual with links := links } }

/-- Other links in place of the physical ones. -/
def withPhysical (b : Records) (physical : Links Nat) : Records := { b with physical := physical }

/-- `HeappBlockUnlink`. -/
def unlink (b : Records) (list : HeapList) (x : Nat) : Records :=
  { b with virtual := b.virtual.unlink 0 list x }

/-- `HeappBlockLink`. -/
def link (b : Records) (list : HeapList) (x : Nat) : Records :=
  { b with virtual := b.virtual.link 0 list x }

/-- The links of a new free block behind `x`. -/
def insertFree (b : Records) (x y : Nat) : Records :=
  { b with
    physical := b.physical.insertAfter 0 x y
    virtual := b.virtual.link 0 .free y }

/-- A block of size `n` that `z` follows on. -/
def join (b : Records) (x z n : Nat) : Records :=
  { b with
    size := Function.update b.size x n
    physical := b.physical.joinAfter 0 x z }

/-- The physical links of `x` pointed to `y`. -/
def repoint (b : Records) (x y : Nat) : Records :=
  let k := if b.physical.next x = 0 then b.physical else b.physical.setPrev (b.physical.next x) y
  b.withPhysical (k.setNext (k.prev x) y)

/-- `y` in the place of `x`, on no list. -/
def move (b : Records) (x y : Nat) : Records := ((b.repoint x y).unlink .free x).copy y x

theorem move_physical (b : Records) (x y : Nat) :
    (b.move x y).physical = b.physical.replace 0 x y := rfl

end Records

/-- The records of a heap, at every offset. -/
def Heap.records (h : Heap) : Records where
  state := h.state
  size := h.sizeOf
  physical := ⟨h.pnext, h.pprev⟩
  virtual := ⟨⟨h.vnext, h.vprev⟩, h.head⟩

theorem Heap.records_get (h : Heap) (field : HeapField) (x : Nat) :
    h.records.get field x = h.get field x := by
  cases field <;> rfl

/-- The assignments by which `x` takes in the blocks up to `z`, in each of the cases of
`HeappFree`. -/
def heappJoin (h : Heap) (x z n : Nat) : Heap :=
  let h := h.set .size x n
  let h := h.set .pnext x z
  if z ≠ 0 then h.set .pprev z x else h

/-- The assignments of `HeappAlign` that give the header of `x` to `y`. -/
def heappMove (h : Heap) (x y : Nat) : Heap :=
  let h := if h.pnext x ≠ 0 then h.set .pprev (h.pnext x) y else h
  let h := h.set .pnext (h.pprev x) y
  let h := heappBlockUnlink h .free x
  h.copyBlock y x

/-! ## The view -/

/-- The headers of the blocks of `L` are separate, and away from the bytes of
`kept`. -/
structure Separated (kept : Nat → Prop) (L : List Nat) : Prop where
  bound : ∀ x ∈ L, sizeofHeapBlock ≤ x ∧ x < 2 ^ 32
  apart : ∀ x ∈ L, ∀ y ∈ L, x ≠ y → x + sizeofHeapBlock ≤ y ∨ y + sizeofHeapBlock ≤ x
  kept : ∀ x ∈ L, ∀ a, kept a → a + sizeofHeapBlock < x ∨ x ≤ a

/-- Headers of a tiling are, where `kept` is inside contents. -/
theorem separated_of_tiles {size : Nat → Nat} {L : List Nat} {hi : Nat} {kept : Nat → Prop}
    (h : Tiles sizeofHeapBlock size 0 L hi) (hhi : hi < 2 ^ 32)
    (hkept : ∀ a, kept a → ∃ x ∈ L, x ≤ a ∧ a < x + size x) : Separated kept L := by
  refine ⟨?_, ?_, ?_⟩
  · intro x hx
    have hmem := tiles_mem h hx
    omega
  · intro x hx y hy hne
    have hseparate := tiles_separate h hx hy hne
    omega
  · intro x hx a ha
    obtain ⟨y, hy, hin⟩ := hkept a ha
    exact tiles_disjoint h hy hx hin

/-- Heap `h` has the records `b` at the blocks of `L`, and differs from `h₀` neither
in the bytes of `kept` nor in its size, its place or its note of wrapping. -/
structure View (h₀ : Heap) (kept : Nat → Prop) (L : List Nat) (b : Records) (h : Heap) : Prop where
  fields : ∀ x ∈ L, ∀ field, h.get field x = b.get field x
  head : h.head = b.virtual.head
  kept : ∀ a, kept a → h.mem a = h₀.mem a
  memory : h.memory = h₀.memory
  size : h.size = h₀.size
  wrapped : h.wrapped = h₀.wrapped

/-- A heap has its own records. -/
theorem View.start (h : Heap) (kept : Nat → Prop) (L : List Nat) : View h kept L h.records h where
  fields x _ field := (h.records_get field x).symm
  head := rfl
  kept _ _ := rfl
  memory := rfl
  size := rfl
  wrapped := rfl

section View

variable {h₀ h : Heap} {kept : Nat → Prop} {L : List Nat} {b : Records}

theorem View.mono (hv : View h₀ kept L b h) {L' : List Nat} (hsub : ∀ x ∈ L', x ∈ L) :
    View h₀ kept L' b h :=
  { hv with fields := fun x hx => hv.fields x (hsub x hx) }

/-- What a view says about the values of fields. -/
theorem View.get_lt (hv : View h₀ kept L b h) {x : Nat} (hx : x ∈ L) (field : HeapField) :
    b.get field x < 2 ^ 32 := by
  rw [← hv.fields x hx field]
  exact h.get_lt field x

/-- **An assignment.** -/
theorem View.set (hv : View h₀ kept L b h) (hsep : Separated kept L) {x v : Nat} (hx : x ∈ L)
    (hv' : v < 2 ^ 32) (field : HeapField) :
    View h₀ kept L (b.set field x v) (h.set field x v) where
  fields y hy g := by
    rw [h.get_set (hsep.bound x hx).1 (hsep.bound y hy).1 (hsep.apart x hx y hy) hv', b.get_set,
      hv.fields y hy g]
  head := by
    rw [Heap.head_set, hv.head]
    cases field <;> rfl
  kept a ha := by rw [h.set_out (hsep.bound x hx).1 (hsep.kept x hx a ha), hv.kept a ha]
  memory := hv.memory
  size := hv.size
  wrapped := hv.wrapped

/-- An assignment that is made only where a field is not null. -/
theorem View.setIf (hv : View h₀ kept L b h) (hsep : Separated kept L) {x v : Nat}
    (hx : x ≠ 0 → x ∈ L) (hv' : v < 2 ^ 32) (field : HeapField) :
    View h₀ kept L (if x = 0 then b else b.set field x v)
      (if x ≠ 0 then h.set field x v else h) := by
  by_cases hzero : x = 0
  · rw [if_pos hzero, if_neg (not_not_intro hzero)]
    exact hv
  · rw [if_neg hzero, if_pos hzero]
    exact hv.set hsep (hx hzero) hv' field

theorem View.setHead (hv : View h₀ kept L b h) (list : HeapList) (x : Nat) :
    View h₀ kept L { b with virtual := { b.virtual with
      head := Function.update b.virtual.head list x } } (h.setHead list x) where
  fields y hy g := by
    have hmem : (h.setHead list x).get g y = h.get g y := by cases list <;> rfl
    rw [hmem, hv.fields y hy g]
    cases g <;> rfl
  head := by rw [h.head_setHead, hv.head]
  kept a ha := by
    rw [← hv.kept a ha]
    cases list <;> rfl
  memory := by
    rw [← hv.memory]
    cases list <;> rfl
  size := by
    rw [← hv.size]
    cases list <;> rfl
  wrapped := by
    rw [← hv.wrapped]
    cases list <;> rfl

/-- A conditional record is one with conditional links. -/
theorem Records.ite_withLinks (b : Records) (c : Prop) [Decidable c] (k k' : Links Nat) :
    (if c then b.withLinks k else b.withLinks k') = b.withLinks (if c then k else k') := by
  split
  next => rfl
  next => rfl

theorem Records.ite_withPhysical (b : Records) (c : Prop) [Decidable c] (k k' : Links Nat) :
    (if c then b.withPhysical k else b.withPhysical k')
      = b.withPhysical (if c then k else k') := by
  split
  next => rfl
  next => rfl

/-- The first assignment of `HeappBlockUnlink`. -/
theorem View.unlinkNext (hv : View h₀ kept L b h) (hsep : Separated kept L) {x : Nat} (hx : x ∈ L)
    (hnext : b.virtual.links.next x ≠ 0 → b.virtual.links.next x ∈ L) :
    View h₀ kept L
      (b.withLinks (if b.virtual.links.next x = 0 then b.virtual.links
        else b.virtual.links.setPrev (b.virtual.links.next x) (b.virtual.links.prev x)))
      (if h.vnext x ≠ 0 then h.set .vprev (h.vnext x) (h.vprev x) else h) := by
  have hvnext : h.vnext x = b.virtual.links.next x := hv.fields x hx .vnext
  have hvprev : h.vprev x = b.virtual.links.prev x := hv.fields x hx .vprev
  rw [hvnext, hvprev, ← Records.ite_withLinks]
  exact hv.setIf hsep hnext (hv.get_lt hx .vprev) .vprev

/-- The second. -/
theorem View.unlinkPrev (hv : View h₀ kept L b h) (hsep : Separated kept L) {x : Nat} (hx : x ∈ L)
    (hprev : b.virtual.links.prev x ≠ 0 → b.virtual.links.prev x ∈ L) :
    View h₀ kept L
      (b.withLinks (if b.virtual.links.prev x = 0 then b.virtual.links
        else b.virtual.links.setNext (b.virtual.links.prev x) (b.virtual.links.next x)))
      (if h.vprev x ≠ 0 then h.set .vnext (h.vprev x) (h.vnext x) else h) := by
  have hvnext : h.vnext x = b.virtual.links.next x := hv.fields x hx .vnext
  have hvprev : h.vprev x = b.virtual.links.prev x := hv.fields x hx .vprev
  rw [hvnext, hvprev, ← Records.ite_withLinks]
  exact hv.setIf hsep hprev (hv.get_lt hx .vnext) .vnext

/-- The third. -/
theorem View.unlinkHead (hv : View h₀ kept L b h) (list : HeapList) {x : Nat} (hx : x ∈ L) :
    View h₀ kept L
      { b with virtual := { b.virtual with
        head := if b.virtual.head list = x then
          Function.update b.virtual.head list (b.virtual.links.next x) else b.virtual.head } }
      (if h.head list = x then h.setHead list (h.vnext x) else h) := by
  have hvnext : h.vnext x = b.virtual.links.next x := hv.fields x hx .vnext
  rw [hvnext, hv.head]
  split
  next => exact hv.setHead list _
  next => exact hv

/-- **Unlinking.** -/
theorem View.unlink (hv : View h₀ kept L b h) (hsep : Separated kept L) (list : HeapList) {x : Nat}
    (hx : x ∈ L) (hnext : b.virtual.links.next x ≠ 0 → b.virtual.links.next x ∈ L)
    (hprev : b.virtual.links.prev x ≠ 0 → b.virtual.links.prev x ∈ L) :
    View h₀ kept L (b.unlink list x) (heappBlockUnlink h list x) := by
  -- the links of `x` itself are read after each assignment, and stay
  have hprev₁ : (if b.virtual.links.next x = 0 then b.virtual.links
      else b.virtual.links.setPrev (b.virtual.links.next x) (b.virtual.links.prev x)).prev x
      = b.virtual.links.prev x := by
    split
    next => rfl
    next => simp
  have hnext₂ : (b.virtual.links.unlink 0 x).next x = b.virtual.links.next x := by
    rw [Links.unlink_next]
    split
    next => rfl
    next => rfl
  have hview₁ := hv.unlinkNext hsep hx hnext
  have hview₂ := hview₁.unlinkPrev hsep hx (fun hne => by
    rw [Records.withLinks, hprev₁] at hne ⊢
    exact hprev hne)
  have hview₃ : View h₀ kept L
      { b with virtual :=
        { links := b.virtual.links.unlink 0 x
          head := if b.virtual.head list = x then Function.update b.virtual.head list
            ((b.virtual.links.unlink 0 x).next x) else b.virtual.head } }
      (heappBlockUnlink h list x) := hview₂.unlinkHead list hx
  rw [hnext₂] at hview₃
  exact hview₃

/-- **Linking.** -/
theorem View.link (hv : View h₀ kept L b h) (hsep : Separated kept L) (list : HeapList) {x : Nat}
    (hx : x ∈ L) (hhead : b.virtual.head list ≠ 0 → b.virtual.head list ∈ L) :
    View h₀ kept L (b.link list x) (heappBlockLink h list x) := by
  have hxfits := (hsep.bound x hx).2
  have hfits : b.virtual.head list < 2 ^ 32 := by
    by_cases hzero : b.virtual.head list = 0
    · omega
    · exact (hsep.bound _ (hhead hzero)).2
  -- the node's own links
  obtain ⟨h₁, hh₁⟩ : ∃ h₁, h₁ = (h.set .vnext x (h.head list)).set .vprev x 0 := ⟨_, rfl⟩
  have hset : View h₀ kept L
      (b.withLinks ((b.virtual.links.setNext x (b.virtual.head list)).setPrev x 0)) h₁ := by
    rw [hh₁, hv.head]
    exact (hv.set hsep hx hfits .vnext).set hsep hx (Nat.two_pow_pos 32) .vprev
  -- the old head's
  have hlinks : View h₀ kept L (b.withLinks (b.virtual.links.push 0 (b.virtual.head list) x))
      (if h₁.head list ≠ 0 then h₁.set .vprev (h₁.head list) x else h₁) := by
    rw [Links.push, ← Records.ite_withLinks, hset.head]
    exact hset.setIf hsep hhead hxfits .vprev
  have hfinal := hlinks.setHead list x
  rw [hh₁] at hfinal
  exact hfinal

/-- What follows on `x` is told that `y` comes before it. -/
theorem View.setNextPprev (hv : View h₀ kept L b h) (hsep : Separated kept L) {x y : Nat}
    (hx : x ∈ L) (hnext : b.physical.next x ≠ 0 → b.physical.next x ∈ L) (hy : y < 2 ^ 32) :
    View h₀ kept L
      (b.withPhysical (if b.physical.next x = 0 then b.physical
        else b.physical.setPrev (b.physical.next x) y))
      (if h.pnext x ≠ 0 then h.set .pprev (h.pnext x) y else h) := by
  have hpnext : h.pnext x = b.physical.next x := hv.fields x hx .pnext
  rw [hpnext, ← Records.ite_withPhysical]
  exact hv.setIf hsep hnext hy .pprev

/-- **Inserting** a free block. -/
theorem View.insertFree (hv : View h₀ kept L b h) (hsep : Separated kept L) {x y : Nat}
    (hx : x ∈ L) (hy : y ∈ L) (hne : x ≠ y)
    (hnext : b.physical.next x ≠ 0 → b.physical.next x ∈ L)
    (hhead : b.virtual.head .free ≠ 0 → b.virtual.head .free ∈ L) :
    View h₀ kept L (b.insertFree x y) (heappInsertFree h x y) := by
  have hyfits := (hsep.bound y hy).2
  have hprev := hv.set hsep hy (hsep.bound x hx).2 .pprev
  have hlinks : View h₀ kept L
      (b.withPhysical ((b.physical.setPrev y x).setNext y (b.physical.next x)))
      ((h.set .pprev y x).set .pnext y ((h.set .pprev y x).pnext x)) := by
    have hpnext : (h.set .pprev y x).pnext x = b.physical.next x := hprev.fields x hx .pnext
    rw [hpnext]
    exact hprev.set hsep hy (hv.get_lt hx .pnext) .pnext
  have hlinked := hlinks.link hsep .free hy hhead
  have hkeep : ((b.physical.setPrev y x).setNext y (b.physical.next x)).next x
      = b.physical.next x := by
    rw [Links.setNext_next, if_neg hne]
    rfl
  have hnext' : ((b.physical.setPrev y x).setNext y (b.physical.next x)).next x ≠ 0 →
      ((b.physical.setPrev y x).setNext y (b.physical.next x)).next x ∈ L := by
    rw [hkeep]
    exact hnext
  exact (hlinked.setNextPprev hsep hx hnext' hyfits).set hsep hx hyfits .pnext

/-- **Joining** a block with those before `z`. -/
theorem View.join (hv : View h₀ kept L b h) (hsep : Separated kept L) {x z n : Nat} (hx : x ∈ L)
    (hz : z ≠ 0 → z ∈ L) (hn : n < 2 ^ 32) :
    View h₀ kept L (b.join x z n) (heappJoin h x z n) := by
  have hzfits : z < 2 ^ 32 := by
    by_cases hzero : z = 0
    · omega
    · exact (hsep.bound z (hz hzero)).2
  have hnext := (hv.set hsep hx hn .size).set hsep hx hzfits .pnext
  have hback := hnext.setIf hsep hz (hsep.bound x hx).2 .pprev
  have hrecords : b.join x z n = if z = 0 then (b.set .size x n).set .pnext x z
      else ((b.set .size x n).set .pnext x z).set .pprev z x := by
    unfold Records.join Links.joinAfter
    split
    next => rfl
    next => rfl
  rw [hrecords]
  exact hback

/-- **Moving a header** to a place that is away from the other blocks. -/
theorem View.copy (hv : View h₀ kept L b h) {L' : List Nat} (hsep : Separated kept L') {x y : Nat}
    (hx : x ∈ L) (hy : y ∈ L') (hothers : ∀ z ∈ L', z ≠ y → z ∈ L) :
    View h₀ kept L' (b.copy y x) (h.copyBlock y x) where
  fields z hz g := by
    rw [b.get_copy]
    by_cases hzy : z = y
    · rw [if_pos hzy, hzy, h.get_copyBlock_same]
      exact hv.fields x hx g
    · rw [if_neg hzy, h.get_copyBlock_of_apart (hsep.bound y hy).1 (hsep.bound z hz).1
        (hsep.apart y hy z hz (Ne.symm hzy))]
      exact hv.fields z (hothers z hz hzy) g
  head := hv.head
  kept a ha := by rw [h.copyBlock_out (hsep.bound y hy).1 (hsep.kept y hy a ha), hv.kept a ha]
  memory := hv.memory
  size := hv.size
  wrapped := hv.wrapped

/-- **Giving the header** of a block to a place that is away from the other blocks. -/
theorem View.move (hv : View h₀ kept L b h) (hsep : Separated kept L) {L' : List Nat}
    (hsep' : Separated kept L') {x y : Nat} (hx : x ∈ L) (hy : y ∈ L')
    (hothers : ∀ z ∈ L', z ≠ y → z ∈ L)
    (hself : b.physical.next x ≠ x) (hpnext : b.physical.next x ≠ 0 → b.physical.next x ∈ L)
    (hpprev : b.physical.prev x ∈ L)
    (hvnext : b.virtual.links.next x ≠ 0 → b.virtual.links.next x ∈ L)
    (hvprev : b.virtual.links.prev x ≠ 0 → b.virtual.links.prev x ∈ L) :
    View h₀ kept L' (b.move x y) (heappMove h x y) := by
  have hyfits := (hsep'.bound y hy).2
  have hback := hv.setNextPprev hsep hx hpnext hyfits
  have hkeep : (if b.physical.next x = 0 then b.physical
      else b.physical.setPrev (b.physical.next x) y).prev x = b.physical.prev x := by
    split
    next => rfl
    next => rw [Links.setPrev_prev, if_neg (Ne.symm hself)]
  obtain ⟨h₁, hh₁⟩ : ∃ h₁, h₁ = if h.pnext x ≠ 0 then h.set .pprev (h.pnext x) y else h := ⟨_, rfl⟩
  rw [← hh₁] at hback
  have hpoint : View h₀ kept L (b.repoint x y) (h₁.set .pnext (h₁.pprev x) y) := by
    have hread : h₁.pprev x = (if b.physical.next x = 0 then b.physical
      else b.physical.setPrev (b.physical.next x) y).prev x := hback.fields x hx .pprev
    rw [hread]
    exact hback.set hsep (hkeep ▸ hpprev) hyfits .pnext
  have hmoved := (hpoint.unlink hsep .free hx hvnext hvprev).copy hsep' hx hy hothers
  rw [hh₁] at hmoved
  exact hmoved

/-- **Bytes** that are in no header. -/
theorem View.fill (hv : View h₀ kept L b h) (hsep : Separated kept L) {a : Nat} {bytes : List UInt8}
    (hheaders : ∀ x ∈ L, a + bytes.length + sizeofHeapBlock ≤ x ∨ x ≤ a)
    (hkept : ∀ i, kept i → i < a ∨ a + bytes.length ≤ i) :
    View h₀ kept L b { h with mem := writeBytes h.mem a bytes } where
  fields x hx g := by
    rw [← hv.fields x hx g]
    refine read32_congr fun i hlo hhi => writeBytes_out ?_
    have hg := g.offset_le
    have hbound := (hsep.bound x hx).1
    have hxa := hheaders x hx
    unfold sizeofHeapBlock at hlo hhi hbound hxa
    omega
  head := hv.head
  kept i hi := (writeBytes_out (hkept i hi)).trans (hv.kept i hi)
  memory := hv.memory
  size := hv.size
  wrapped := hv.wrapped

end View

end DeepShield.Mem
