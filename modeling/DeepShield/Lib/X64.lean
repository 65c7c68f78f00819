import Mathlib.Algebra.Group.Nat.Defs
import Mathlib.Logic.Function.Basic
import Mathlib.Logic.Relation
import Mathlib.Tactic.Common

/-!
# Assembly routines of x64

The instructions hand-written entry and exit code consists of: moves between
registers and memory, pushes and pops, a little arithmetic, forward jumps,
calls of compiled functions and the VM entries. A routine is a list of
instructions with labels; what is still to be executed is the rest of that list.

Compiled functions are a parameter, a map of machine states, and `Win64.Kept` is
what the calling convention promises of it. The two block rules carry the proofs
about such routines: `execAll_stores`, after which memory holds each slot of the
processor at its offset, and `execAll_loads`, after which each slot holds what
memory does.
-/

namespace DeepShield.Lib.X64

/-! ## Memory -/

/-- A byte at every address. -/
abbrev Memory := BitVec 64 → BitVec 8

/-- The `n` bits `f 0`, `f 1`, …, least significant first. -/
def ofBits : (n : Nat) → (Nat → Bool) → BitVec n
  | 0, _ => 0#0
  | n + 1, f => BitVec.cons (f n) (ofBits n f)

theorem getLsbD_ofBits (f : Nat → Bool) (n i : Nat) :
    (ofBits n f).getLsbD i = (decide (i < n) && f i) := by
  induction n with
  | zero => simp [ofBits]
  | succ n ih =>
    rw [ofBits, BitVec.getLsbD_cons]
    split
    next heq => simp [heq]
    next hne =>
      rw [ih]
      congr 1
      simp only [decide_eq_decide]
      omega

/-- The little-endian word of `n` bytes at `a`. -/
def Memory.read (m : Memory) (a : BitVec 64) (n : Nat) : BitVec (8 * n) :=
  ofBits (8 * n) fun i => (m (a + BitVec.ofNat 64 (i / 8))).getLsbD (i % 8)

/-- `x` is one of the `n` bytes from `a` on. -/
def Within (x a : BitVec 64) (n : Nat) : Prop := (x - a).toNat < n

instance (x a : BitVec 64) (n : Nat) : Decidable (Within x a n) :=
  inferInstanceAs (Decidable (_ < _))

/-- Store the word `v` of `n` bytes at `a`. -/
def Memory.write (m : Memory) (a : BitVec 64) (n : Nat) (v : BitVec (8 * n)) : Memory :=
  fun x => if Within x a n then v.extractLsb' (8 * (x - a).toNat) 8 else m x

/-- The ranges have no byte in common. -/
def Apart (a : BitVec 64) (n : Nat) (b : BitVec 64) (k : Nat) : Prop :=
  ∀ x, Within x a n → ¬ Within x b k

theorem Apart.symm {a b : BitVec 64} {n k : Nat} (h : Apart a n b k) : Apart b k a n :=
  fun x hb ha => h x ha hb

/-- Parts of ranges apart are apart. -/
theorem Apart.mono {a a' b b' : BitVec 64} {n n' k k' : Nat} (h : Apart a n b k)
    (ha : ∀ x, Within x a' n' → Within x a n) (hb : ∀ x, Within x b' k' → Within x b k) :
    Apart a' n' b' k' :=
  fun x hx hx' => h x (ha x hx) (hb x hx')

theorem offset_toNat {a : BitVec 64} {i : Nat} (hi : i < 2 ^ 64) :
    (a + BitVec.ofNat 64 i - a).toNat = i := by
  bv_omega

theorem within_offset {a : BitVec 64} {i n : Nat} (hi : i < n) (hn : n ≤ 2 ^ 64) :
    Within (a + BitVec.ofNat 64 i) a n := by
  unfold Within
  rw [offset_toNat (by omega)]
  exact hi

/-- A part of a range, by its offset. -/
theorem Within.of_part {x a : BitVec 64} {i n k : Nat}
    (h : Within x (a + BitVec.ofNat 64 i) n) (hk : i + n ≤ k) (hlt : k ≤ 2 ^ 64) :
    Within x a k := by
  unfold Within at h ⊢
  bv_omega

/-- Two parts of one range, one after the other. -/
theorem apart_of_lt {a : BitVec 64} {i j n k : Nat} (h : i + n ≤ j ∨ j + k ≤ i)
    (hi : i + n ≤ 2 ^ 64) (hj : j + k ≤ 2 ^ 64) :
    Apart (a + BitVec.ofNat 64 i) n (a + BitVec.ofNat 64 j) k := by
  intro x hx hx'
  unfold Within at hx hx'
  bv_omega

theorem Memory.read_congr {m m' : Memory} {a : BitVec 64} {n : Nat} (hn : n ≤ 2 ^ 64)
    (h : ∀ x, Within x a n → m x = m' x) : m.read a n = m'.read a n := by
  apply BitVec.eq_of_getLsbD_eq
  intro i hi
  unfold read
  rw [getLsbD_ofBits, getLsbD_ofBits, h _ (within_offset (by omega) hn)]

/-- A word reads as it was stored. -/
theorem Memory.read_write (m : Memory) (a : BitVec 64) {n : Nat} (v : BitVec (8 * n))
    (hn : n ≤ 2 ^ 64) : (m.write a n v).read a n = v := by
  apply BitVec.eq_of_getLsbD_eq
  intro i hi
  have hbyte : i / 8 < n := by omega
  unfold read write
  rw [getLsbD_ofBits, if_pos (within_offset hbyte hn), offset_toNat (by omega),
    BitVec.getLsbD_extractLsb']
  have hmod : i % 8 < 8 := Nat.mod_lt _ (by omega)
  have hsplit : 8 * (i / 8) + i % 8 = i := Nat.div_add_mod i 8
  simp [hi, hmod, hsplit]

theorem Memory.write_out {m : Memory} {a x : BitVec 64} {n : Nat} {v : BitVec (8 * n)}
    (h : ¬ Within x a n) : m.write a n v x = m x := if_neg h

/-- A word does not see a store apart from it. -/
theorem Memory.read_write_apart {m : Memory} {a b : BitVec 64} {n k : Nat} {v : BitVec (8 * k)}
    (h : Apart a n b k) (hn : n ≤ 2 ^ 64) : (m.write b k v).read a n = m.read a n :=
  read_congr hn fun x hx => write_out (h x hx)

/-! ## The processor -/

/-- The general registers. -/
inductive Reg
  | rax | rcx | rdx | rbx | rsp | rbp | rsi | rdi
  | r8 | r9 | r10 | r11 | r12 | r13 | r14 | r15
deriving Repr, DecidableEq

/-- What a routine saves and restores: a general register, a vector register or
the control and status word of the vector unit. -/
inductive Slot
  | gpr (r : Reg)
  | xmm (i : Fin 16)
  | mxcsr
deriving Repr, DecidableEq

/-- The size of a slot in memory. -/
def Slot.bytes : Slot → Nat
  | gpr _ => 8
  | xmm _ => 16
  | mxcsr => 4

theorem Slot.bytes_le (x : Slot) : x.bytes ≤ 16 := by
  cases x <;> simp [bytes]

/-- What an address must be a multiple of: MOVDQA moves aligned words only. -/
def Slot.alignment : Slot → Nat
  | xmm _ => 16
  | _ => 1

/-- Whether a slot can hold the value: LDMXCSR faults on reserved bits. -/
def Slot.Holds : (x : Slot) → BitVec (8 * x.bytes) → Prop
  | mxcsr, v => v >>> 16 = 0
  | _, _ => True

instance Slot.decidableHolds : (x : Slot) → (v : BitVec (8 * x.bytes)) → Decidable (x.Holds v)
  | gpr _, _ => isTrue trivial
  | xmm _, _ => isTrue trivial
  | mxcsr, v => inferInstanceAs (Decidable (v >>> 16 = 0))

/-- The processor and its memory. -/
structure State where
  slots : (x : Slot) → BitVec (8 * x.bytes)
  rflags : BitVec 64
  memory : Memory

/-- The general register `r`. -/
def State.gpr (s : State) (r : Reg) : BitVec 64 := s.slots (.gpr r)

/-- Set a slot. -/
def State.set (s : State) (x : Slot) (v : BitVec (8 * x.bytes)) : State :=
  { s with slots := Function.update s.slots x v }

/-- Set a general register. -/
def State.setGpr (s : State) (r : Reg) (v : BitVec 64) : State := s.set (.gpr r) v

/-- Store a word. -/
def State.store (s : State) (a : BitVec 64) (n : Nat) (v : BitVec (8 * n)) : State :=
  { s with memory := s.memory.write a n v }

/-- The zero flag. -/
def zfMask : BitVec 64 := 0x40#64

/-- The carry flag. -/
def cfMask : BitVec 64 := 1#64

/-- ZF. -/
def State.zf (s : State) : Bool := s.rflags &&& zfMask ≠ 0

/-- CF. -/
def State.cf (s : State) : Bool := s.rflags &&& cfMask ≠ 0

/-- RFLAGS with ZF and CF set so, the only status flags the routines test; the
others stay. -/
def withFlags (rflags : BitVec 64) (zero carry : Bool) : BitVec 64 :=
  (rflags &&& ~~~(zfMask ||| cfMask)) ||| (if zero then zfMask else 0) |||
    (if carry then cfMask else 0)

/-- Set ZF and CF. -/
def State.setFlags (s : State) (zero carry : Bool) : State :=
  { s with rflags := withFlags s.rflags zero carry }

theorem clear_flags_and {rflags mask : BitVec 64} (h : ~~~(zfMask ||| cfMask) &&& mask = 0#64) :
    rflags &&& ~~~(zfMask ||| cfMask) &&& mask = 0#64 := by
  rw [BitVec.and_assoc, h, BitVec.and_zero]

@[simp] theorem State.setFlags_zf (s : State) (zero carry : Bool) :
    (s.setFlags zero carry).zf = zero := by
  unfold zf setFlags withFlags
  simp only [BitVec.and_or_distrib_right]
  rw [clear_flags_and (by decide)]
  cases zero <;> cases carry <;> decide

@[simp] theorem State.setFlags_cf (s : State) (zero carry : Bool) :
    (s.setFlags zero carry).cf = carry := by
  unfold cf setFlags withFlags
  simp only [BitVec.and_or_distrib_right]
  rw [clear_flags_and (by decide)]
  cases zero <;> cases carry <;> decide

@[simp] theorem State.set_memory (s : State) (x : Slot) (v) : (s.set x v).memory = s.memory := rfl

@[simp] theorem State.set_rflags (s : State) (x : Slot) (v) : (s.set x v).rflags = s.rflags := rfl

@[simp] theorem State.set_slots_self (s : State) (x : Slot) (v) : (s.set x v).slots x = v :=
  Function.update_self ..

theorem State.set_slots_of_ne {s : State} {x y : Slot} {v} (h : y ≠ x) :
    (s.set x v).slots y = s.slots y := Function.update_of_ne h ..

@[simp] theorem State.setGpr_memory (s : State) (r : Reg) (v) :
    (s.setGpr r v).memory = s.memory := rfl

@[simp] theorem State.setGpr_rflags (s : State) (r : Reg) (v) :
    (s.setGpr r v).rflags = s.rflags := rfl

@[simp] theorem State.setGpr_gpr (s : State) (r q : Reg) (v) :
    (s.setGpr r v).gpr q = if q = r then v else s.gpr q := by
  by_cases heq : q = r
  · subst heq
    rw [if_pos rfl]
    exact set_slots_self ..
  · rw [if_neg heq]
    exact set_slots_of_ne fun h => heq (Slot.gpr.inj h)

theorem State.setGpr_gpr_self (s : State) (r : Reg) (v : BitVec 64) :
    (s.setGpr r v).gpr r = v := set_slots_self ..

/-- Setting a general register leaves every other slot. -/
theorem State.setGpr_slots_of_ne {s : State} {r : Reg} {x : Slot} {v} (h : x ≠ .gpr r) :
    (s.setGpr r v).slots x = s.slots x := set_slots_of_ne h

@[simp] theorem State.store_slots (s : State) (a n v) : (s.store a n v).slots = s.slots := rfl

@[simp] theorem State.store_memory (s : State) (a n v) :
    (s.store a n v).memory = s.memory.write a n v := rfl

@[simp] theorem State.store_gpr (s : State) (a n v r) : (s.store a n v).gpr r = s.gpr r := rfl

@[simp] theorem State.store_rflags (s : State) (a n v) : (s.store a n v).rflags = s.rflags := rfl

@[simp] theorem State.setFlags_slots (s : State) (z c) : (s.setFlags z c).slots = s.slots := rfl

@[simp] theorem State.setFlags_gpr (s : State) (z c r) : (s.setFlags z c).gpr r = s.gpr r := rfl

@[simp] theorem State.setFlags_memory (s : State) (z c) :
    (s.setFlags z c).memory = s.memory := rfl

/-! ## Straight-line instructions -/

/-- The instructions that go on with the next one. -/
inductive Plain
  | nop
  | store (base : Reg) (disp : BitVec 64) (x : Slot)
  | load (x : Slot) (base : Reg) (disp : BitVec 64)
  | lea (dst base : Reg) (disp : BitVec 64)
  | mov (dst src : Reg)
  | movImm (dst : Reg) (imm : BitVec 64)
  | andImm (dst : Reg) (imm : BitVec 64)
  | orImm (dst : Reg) (imm : BitVec 64)
  | subImm (dst : Reg) (imm : BitVec 64)
  | cmpImm (dst : Reg) (imm : BitVec 64)
  | xor (dst src : Reg)
  | push (src : Reg)
  | pop (dst : Reg)
  | pushfq
deriving Repr, DecidableEq

/-- Push a quadword. -/
def State.push (s : State) (v : BitVec 64) : State :=
  (s.setGpr .rsp (s.gpr .rsp - 8)).store (s.gpr .rsp - 8) 8 v

@[simp] theorem State.push_gpr (s : State) (v : BitVec 64) (r : Reg) :
    (s.push v).gpr r = if r = .rsp then s.gpr .rsp - 8 else s.gpr r := by
  unfold push
  rw [store_gpr, setGpr_gpr]

@[simp] theorem State.push_memory (s : State) (v : BitVec 64) :
    (s.push v).memory = s.memory.write (s.gpr .rsp - 8) 8 v := rfl

@[simp] theorem State.push_rflags (s : State) (v : BitVec 64) :
    (s.push v).rflags = s.rflags := rfl

theorem State.push_slots {s : State} {v : BitVec 64} {x : Slot} (h : x ≠ .gpr .rsp) :
    (s.push v).slots x = s.slots x := setGpr_slots_of_ne h

/-- A logical instruction: ZF tells whether the result is zero, CF is clear. -/
def State.logic (s : State) (dst : Reg) (v : BitVec 64) : State :=
  (s.setGpr dst v).setFlags (v = 0) false

@[simp] theorem State.logic_gpr (s : State) (dst r : Reg) (v : BitVec 64) :
    (s.logic dst v).gpr r = if r = dst then v else s.gpr r := by
  unfold logic
  rw [setFlags_gpr, setGpr_gpr]

@[simp] theorem State.logic_memory (s : State) (dst : Reg) (v : BitVec 64) :
    (s.logic dst v).memory = s.memory := rfl

/-- Execute a straight-line instruction; none if it faults. -/
def Plain.exec (s : State) : Plain → Option State
  | nop => some s
  | store base disp x =>
    if (s.gpr base + disp).toNat % x.alignment = 0 then
      some (s.store (s.gpr base + disp) x.bytes (s.slots x))
    else none
  | load x base disp =>
    let v := s.memory.read (s.gpr base + disp) x.bytes
    if (s.gpr base + disp).toNat % x.alignment = 0 ∧ x.Holds v then some (s.set x v) else none
  | lea dst base disp => some (s.setGpr dst (s.gpr base + disp))
  | mov dst src => some (s.setGpr dst (s.gpr src))
  | movImm dst imm => some (s.setGpr dst imm)
  | andImm dst imm => some (s.logic dst (s.gpr dst &&& imm))
  | orImm dst imm => some (s.logic dst (s.gpr dst ||| imm))
  | subImm dst imm =>
    some ((s.setGpr dst (s.gpr dst - imm)).setFlags (s.gpr dst = imm) (s.gpr dst < imm))
  | cmpImm dst imm => some (s.setFlags (s.gpr dst = imm) (s.gpr dst < imm))
  | xor dst src => some (s.logic dst (s.gpr dst ^^^ s.gpr src))
  | push src => some (s.push (s.gpr src))
  | pop dst =>
    some ((s.setGpr .rsp (s.gpr .rsp + 8)).setGpr dst (s.memory.read (s.gpr .rsp) 8))
  | pushfq => some (s.push s.rflags)

@[simp] theorem Plain.exec_lea (s : State) (dst base : Reg) (disp : BitVec 64) :
    (Plain.lea dst base disp).exec s = some (s.setGpr dst (s.gpr base + disp)) := rfl

@[simp] theorem Plain.exec_mov (s : State) (dst src : Reg) :
    (Plain.mov dst src).exec s = some (s.setGpr dst (s.gpr src)) := rfl

@[simp] theorem Plain.exec_movImm (s : State) (dst : Reg) (imm : BitVec 64) :
    (Plain.movImm dst imm).exec s = some (s.setGpr dst imm) := rfl

@[simp] theorem Plain.exec_orImm (s : State) (dst : Reg) (imm : BitVec 64) :
    (Plain.orImm dst imm).exec s = some (s.logic dst (s.gpr dst ||| imm)) := rfl

@[simp] theorem Plain.exec_push (s : State) (src : Reg) :
    (Plain.push src).exec s = some (s.push (s.gpr src)) := rfl

@[simp] theorem Plain.exec_pop (s : State) (dst : Reg) :
    (Plain.pop dst).exec s =
      some ((s.setGpr .rsp (s.gpr .rsp + 8)).setGpr dst (s.memory.read (s.gpr .rsp) 8)) := rfl

@[simp] theorem Plain.exec_pushfq (s : State) :
    Plain.pushfq.exec s = some (s.push s.rflags) := rfl

/-- A general register can be loaded from anywhere. -/
@[simp] theorem Plain.exec_load_gpr (s : State) (r base : Reg) (disp : BitVec 64) :
    (Plain.load (.gpr r) base disp).exec s =
      some (s.setGpr r (s.memory.read (s.gpr base + disp) 8)) :=
  if_pos ⟨Nat.mod_one _, trivial⟩

/-- A general register can be stored anywhere. -/
@[simp] theorem Plain.exec_store_gpr (s : State) (r base : Reg) (disp : BitVec 64) :
    (Plain.store base disp (.gpr r)).exec s =
      some (s.store (s.gpr base + disp) 8 (s.gpr r)) :=
  if_pos (Nat.mod_one _)

/-! ## The stack -/

/-- The quadword `i` quadwords above the top of the stack. -/
def State.stackWord (s : State) (i : Nat) : BitVec 64 :=
  s.memory.read (s.gpr .rsp + BitVec.ofNat 64 (8 * i)) 8

/-- Drop the top of the stack. -/
def State.drop (s : State) : State := s.setGpr .rsp (s.gpr .rsp + 8)

theorem State.stackWord_zero (s : State) : s.memory.read (s.gpr .rsp) 8 = s.stackWord 0 := by
  rw [stackWord, Nat.mul_zero, BitVec.add_zero]

theorem Plain.exec_pop_stackWord (s : State) (dst : Reg) :
    (Plain.pop dst).exec s = some (s.drop.setGpr dst (s.stackWord 0)) := by
  rw [exec_pop, State.stackWord_zero]
  rfl

@[simp] theorem State.drop_gpr (s : State) (r : Reg) :
    s.drop.gpr r = if r = .rsp then s.gpr .rsp + 8 else s.gpr r := setGpr_gpr ..

@[simp] theorem State.stackWord_push_zero (s : State) (v : BitVec 64) :
    (s.push v).stackWord 0 = v := by
  rw [stackWord, push_gpr, if_pos rfl, push_memory, Nat.mul_zero, BitVec.add_zero]
  exact Memory.read_write _ _ _ (by decide)

/-- A push moves the words of the stack. -/
theorem State.stackWord_push_succ (s : State) (v : BitVec 64) {i : Nat} (hi : i < 2 ^ 32) :
    (s.push v).stackWord (i + 1) = s.stackWord i := by
  have haddr : s.gpr .rsp - 8 + BitVec.ofNat 64 (8 * (i + 1)) =
      s.gpr .rsp + BitVec.ofNat 64 (8 * i) := by bv_omega
  have hapart : Apart (s.gpr .rsp + BitVec.ofNat 64 (8 * i)) 8 (s.gpr .rsp - 8) 8 := by
    intro x hx hx'
    unfold Within at hx hx'
    bv_omega
  rw [stackWord, push_gpr, if_pos rfl, push_memory, haddr]
  exact Memory.read_write_apart hapart (by decide)

theorem State.stackWord_drop (s : State) (i : Nat) : s.drop.stackWord i = s.stackWord (i + 1) := by
  have haddr : s.gpr .rsp + 8 + BitVec.ofNat 64 (8 * i) =
      s.gpr .rsp + BitVec.ofNat 64 (8 * (i + 1)) := by bv_omega
  rw [stackWord, stackWord, drop_gpr, if_pos rfl, haddr]
  rfl

theorem State.stackWord_setGpr {s : State} {r : Reg} (v : BitVec 64) (i : Nat) (h : r ≠ .rsp) :
    (s.setGpr r v).stackWord i = s.stackWord i := by
  rw [stackWord, stackWord, setGpr_gpr, if_neg h.symm, setGpr_memory]

/-- The lowest words of the stack depend on as many bytes from its top on. -/
theorem State.stackWord_congr {s s' : State} {i n : Nat} (hrsp : s'.gpr .rsp = s.gpr .rsp)
    (hi : 8 * i + 8 ≤ n) (hn : n ≤ 2 ^ 64)
    (hmem : ∀ x, Within x (s.gpr .rsp) n → s'.memory x = s.memory x) :
    s'.stackWord i = s.stackWord i := by
  rw [stackWord, stackWord, hrsp]
  exact Memory.read_congr (by decide) fun x hx => hmem x (hx.of_part hi hn)

/-- Execute one after the other. -/
def execAll : List Plain → State → Option State
  | [], s => some s
  | i :: is, s => (i.exec s).bind (execAll is)

theorem execAll_cons {i : Plain} {is : List Plain} {s s' : State} (h : i.exec s = some s') :
    execAll (i :: is) s = execAll is s' := by
  rw [execAll, h, Option.bind_some]

theorem execAll_append (is js : List Plain) (s : State) :
    execAll (is ++ js) s = (execAll is s).bind (execAll js) := by
  induction is generalizing s with
  | nil => rfl
  | cons i is ih =>
    rw [List.cons_append, execAll, execAll, Option.bind_assoc]
    exact Option.bind_congr fun s' _ => ih s'

/-! ## Saving and restoring slots

A layout gives every slot of a list its offset in an area of memory. -/

/-- The instructions that store the slots to the area at `base`. -/
def stores (base : Reg) (offset : Slot → Nat) (xs : List Slot) : List Plain :=
  xs.map fun x => .store base (BitVec.ofNat 64 (offset x)) x

/-- The instructions that load them. -/
def loads (base : Reg) (offset : Slot → Nat) (xs : List Slot) : List Plain :=
  xs.map fun x => .load x base (BitVec.ofNat 64 (offset x))

/-- What the area at `a` holds for slot `x`. -/
def savedAt (offset : Slot → Nat) (m : Memory) (a : BitVec 64) (x : Slot) :
    BitVec (8 * x.bytes) :=
  m.read (a + BitVec.ofNat 64 (offset x)) x.bytes

/-- A layout of slots in an area of `size` bytes: none crosses its end, no two
overlap, and all are aligned in an aligned area. -/
structure Layout (offset : Slot → Nat) (size : Nat) : Prop where
  size_lt : size < 2 ^ 64
  inside : ∀ x, offset x + x.bytes ≤ size
  disjoint : ∀ x y, x ≠ y → offset x + x.bytes ≤ offset y ∨ offset y + y.bytes ≤ offset x
  aligned : ∀ x, offset x % x.alignment = 0

section Blocks

variable {offset : Slot → Nat} {size : Nat}

theorem Layout.address_aligned (h : Layout offset size) {a : BitVec 64} (ha : a.toNat % 16 = 0)
    (x : Slot) : (a + BitVec.ofNat 64 (offset x)).toNat % x.alignment = 0 := by
  have hoff := h.aligned x
  have hin := h.inside x
  have hsize := h.size_lt
  cases x with
  | gpr r => exact Nat.mod_one _
  | mxcsr => exact Nat.mod_one _
  | xmm i =>
    simp only [Slot.alignment] at hoff ⊢
    bv_omega

theorem Layout.apart (h : Layout offset size) {a : BitVec 64} {x y : Slot} (hne : x ≠ y) :
    Apart (a + BitVec.ofNat 64 (offset x)) x.bytes (a + BitVec.ofNat 64 (offset y)) y.bytes := by
  have hx := h.inside x
  have hy := h.inside y
  have hsize := h.size_lt
  exact apart_of_lt (h.disjoint x y hne) (by omega) (by omega)

/-- The area holds a slot just stored to it. -/
theorem savedAt_store_self (s : State) (a : BitVec 64) (x : Slot) (v : BitVec (8 * x.bytes)) :
    savedAt offset (s.store (a + BitVec.ofNat 64 (offset x)) x.bytes v).memory a x = v :=
  Memory.read_write _ _ _ (Nat.le_trans x.bytes_le (by decide))

/-- What it holds for the others stays. -/
theorem Layout.savedAt_store_of_ne (h : Layout offset size) {s : State} {a : BitVec 64}
    {x y : Slot} {v : BitVec (8 * x.bytes)} (hne : y ≠ x) :
    savedAt offset (s.store (a + BitVec.ofNat 64 (offset x)) x.bytes v).memory a y =
      savedAt offset s.memory a y :=
  Memory.read_write_apart (h.apart hne) (Nat.le_trans y.bytes_le (by decide))

/-- **Saving.** The stores leave the processor as it was; the area holds every
slot that was stored, and memory outside it is untouched. -/
theorem execAll_stores (h : Layout offset size) (base : Reg) :
    ∀ (xs : List Slot) (s : State), (s.gpr base).toNat % 16 = 0 →
      ∃ m, execAll (stores base offset xs) s = some { s with memory := m } ∧
        (∀ x, savedAt offset m (s.gpr base) x =
          if x ∈ xs then s.slots x else savedAt offset s.memory (s.gpr base) x) ∧
        ∀ a, ¬ Within a (s.gpr base) size → m a = s.memory a := by
  intro xs
  induction xs with
  | nil => exact fun s _ => ⟨s.memory, rfl, fun x => by simp, fun a _ => rfl⟩
  | cons y xs ih =>
    intro s hs
    obtain ⟨m, hexec, hsaved, hout⟩ :=
      ih (s.store (s.gpr base + BitVec.ofNat 64 (offset y)) y.bytes (s.slots y)) (by simpa using hs)
    refine ⟨m, ?_, fun x => ?_, fun a ha => ?_⟩
    · have hstep : (Plain.store base (BitVec.ofNat 64 (offset y)) y).exec s =
          some (s.store (s.gpr base + BitVec.ofNat 64 (offset y)) y.bytes (s.slots y)) :=
        if_pos (h.address_aligned hs y)
      exact (execAll_cons hstep).trans hexec
    · simp only [State.store_gpr, State.store_slots] at hsaved
      rw [hsaved x]
      by_cases hmem : x ∈ xs
      · rw [if_pos hmem, if_pos (List.mem_cons_of_mem y hmem)]
      · rw [if_neg hmem]
        by_cases hxy : x = y
        · subst hxy
          rw [if_pos List.mem_cons_self, savedAt_store_self]
        · rw [if_neg (by simp [hxy, hmem]), h.savedAt_store_of_ne hxy]
    · simp only [State.store_gpr] at hout
      rw [hout a ha]
      have hy := h.inside y
      have hsize := h.size_lt
      exact Memory.write_out fun hin => ha (hin.of_part hy (by omega))

/-- **Restoring.** If the area holds values the slots can take, the loads set
them, as long as `base` is not among them; nothing else changes. -/
theorem execAll_loads (h : Layout offset size) (base : Reg) :
    ∀ (xs : List Slot) (s : State), (s.gpr base).toNat % 16 = 0 → .gpr base ∉ xs →
      (∀ x ∈ xs, x.Holds (savedAt offset s.memory (s.gpr base) x)) →
      ∃ f, execAll (loads base offset xs) s = some { s with slots := f } ∧
        ∀ x, f x = if x ∈ xs then savedAt offset s.memory (s.gpr base) x else s.slots x := by
  intro xs
  induction xs with
  | nil => exact fun s _ _ _ => ⟨s.slots, rfl, fun x => by simp⟩
  | cons y xs ih =>
    intro s hs hbase hholds
    simp only [List.mem_cons, not_or] at hbase
    obtain ⟨hy, hbase⟩ := hbase
    have hgpr : ∀ v, (s.set y v).gpr base = s.gpr base := fun v => State.set_slots_of_ne hy
    obtain ⟨f, hexec, hf⟩ := ih (s.set y (savedAt offset s.memory (s.gpr base) y))
      (by rwa [hgpr]) hbase (by
        intro x hx
        rw [hgpr, State.set_memory]
        exact hholds x (List.mem_cons_of_mem y hx))
    refine ⟨f, ?_, fun x => ?_⟩
    · have hstep : (Plain.load y base (BitVec.ofNat 64 (offset y))).exec s =
          some (s.set y (savedAt offset s.memory (s.gpr base) y)) :=
        if_pos ⟨h.address_aligned hs y, hholds y List.mem_cons_self⟩
      exact (execAll_cons hstep).trans hexec
    · rw [hf x, hgpr, State.set_memory]
      by_cases hmem : x ∈ xs
      · rw [if_pos hmem, if_pos (List.mem_cons_of_mem y hmem)]
      · rw [if_neg hmem]
        by_cases hxy : x = y
        · subst hxy
          rw [if_pos List.mem_cons_self, State.set_slots_self]
        · rw [if_neg (by simp [hxy, hmem]), State.set_slots_of_ne hxy]

end Blocks

/-! ## Routines -/

/-- An instruction of a routine that calls the functions `F` and jumps to the
labels `L`. -/
inductive Instr (F L : Type)
  | plain (i : Plain)
  | movLabel (dst : Reg) (l : L)
  | label (l : L)
  | jmp (l : L)
  | jz (l : L)
  | jnz (l : L)
  | jc (l : L)
  | call (f : F)
  | ret
  | iretq
  | vmlaunch
  | vmresume

/-- How a VM entry turns out: it fails without or with a current VMCS to record
the error in, or loads RIP, RSP and RFLAGS of the guest. -/
inductive VmEntry (W : Type)
  | failInvalid (w : W)
  | failValid (w : W)
  | entered (rip rsp rflags : BitVec 64) (w : W)

/-- The processor and the rest of the world, as far as calls and VM entries
depend on it. -/
structure Machine (W : Type) where
  cpu : State
  world : W

/-- What a routine runs on: the compiled functions, from the machine at the
first instruction of one to the machine after its RET, none if it does not
return; the addresses of labels and of the instructions after calls; the VM
entries. -/
structure Platform (F L W : Type) where
  call : F → Machine W → Option (Machine W)
  labelAddress : L → BitVec 64
  returnAddress : List (Instr F L) → BitVec 64
  vmlaunch : W → VmEntry W
  vmresume : W → VmEntry W

/-- What IRETQ pops. -/
structure IretFrame where
  rip : BitVec 64
  cs : BitVec 64
  rflags : BitVec 64
  rsp : BitVec 64
  ss : BitVec 64
deriving Repr, DecidableEq

/-- Where control is: before the instructions `rest` of the routine, back at the
caller, after IRETQ, or in a guest. -/
inductive Config (F L W : Type)
  | run (rest : List (Instr F L)) (m : Machine W)
  | returned (address : BitVec 64) (m : Machine W)
  | iret (frame : IretFrame) (m : Machine W)
  | guest (rip : BitVec 64) (m : Machine W)

variable {F L W : Type} [DecidableEq L]

/-- The routine from label `l` on. -/
def fromLabel : List (Instr F L) → L → List (Instr F L)
  | [], _ => []
  | .label l' :: rest, l => if l' = l then rest else fromLabel rest l
  | _ :: rest, l => fromLabel rest l

/-- The labels of a routine. -/
def labelsOf : List (Instr F L) → List L
  | [] => []
  | .label l :: rest => l :: labelsOf rest
  | _ :: rest => labelsOf rest

/-- Change the processor. -/
def Machine.onCpu (m : Machine W) (f : State → State) : Machine W := { m with cpu := f m.cpu }

@[simp] theorem Machine.onCpu_cpu (m : Machine W) (f) : (m.onCpu f).cpu = f m.cpu := rfl

@[simp] theorem Machine.onCpu_world (m : Machine W) (f) : (m.onCpu f).world = m.world := rfl

/-- Where a VM entry leads: a failure shows in the flags of the next
instruction. -/
def afterEntry (rest : List (Instr F L)) (cpu : State) : VmEntry W → Config F L W
  | .failInvalid w => .run rest ⟨cpu.setFlags false true, w⟩
  | .failValid w => .run rest ⟨cpu.setFlags true false, w⟩
  | .entered rip rsp rflags w =>
    .guest rip ⟨{ cpu.setGpr .rsp rsp with rflags := rflags }, w⟩

/-- The step of a configuration of the routine `code`; none where control has
left it, after a fault, and if a called function does not return. A guest whose
RIP is a label of the routine goes on there. -/
def step (p : Platform F L W) (code : List (Instr F L)) : Config F L W → Option (Config F L W)
  | .run (.plain i :: rest) m => (i.exec m.cpu).map fun cpu => .run rest { m with cpu := cpu }
  | .run (.movLabel dst l :: rest) m =>
    some (.run rest (m.onCpu fun s => s.setGpr dst (p.labelAddress l)))
  | .run (.label _ :: rest) m => some (.run rest m)
  | .run (.jmp l :: _) m => some (.run (fromLabel code l) m)
  | .run (.jz l :: rest) m =>
    some (.run (if m.cpu.zf then fromLabel code l else rest) m)
  | .run (.jnz l :: rest) m =>
    some (.run (if m.cpu.zf then rest else fromLabel code l) m)
  | .run (.jc l :: rest) m =>
    some (.run (if m.cpu.cf then fromLabel code l else rest) m)
  | .run (.call f :: rest) m =>
    (p.call f (m.onCpu fun s => s.push (p.returnAddress rest))).map fun m' => .run rest m'
  | .run (.ret :: _) m =>
    some (.returned (m.cpu.memory.read (m.cpu.gpr .rsp) 8)
      (m.onCpu fun s => s.setGpr .rsp (s.gpr .rsp + 8)))
  | .run (.iretq :: _) m =>
    let word (i : Nat) := m.cpu.memory.read (m.cpu.gpr .rsp + BitVec.ofNat 64 (8 * i)) 8
    some (.iret ⟨word 0, word 1, word 2, word 3, word 4⟩ m)
  | .run (.vmlaunch :: rest) m => some (afterEntry rest m.cpu (p.vmlaunch m.world))
  | .run (.vmresume :: rest) m => some (afterEntry rest m.cpu (p.vmresume m.world))
  | .guest rip m =>
    ((labelsOf code).find? fun l => p.labelAddress l = rip).map fun l =>
      .run (fromLabel code l) m
  | _ => none

/-- Control gets from one configuration to the other. -/
def Reaches (p : Platform F L W) (code : List (Instr F L)) : Config F L W → Config F L W → Prop :=
  Relation.ReflTransGen fun c c' => step p code c = some c'

section Rules

variable {p : Platform F L W} {code : List (Instr F L)}

theorem Reaches.refl (c : Config F L W) : Reaches p code c c := Relation.ReflTransGen.refl

theorem Reaches.trans {c₁ c₂ c₃ : Config F L W} (h : Reaches p code c₁ c₂)
    (h' : Reaches p code c₂ c₃) : Reaches p code c₁ c₃ := Relation.ReflTransGen.trans h h'

theorem Reaches.head {a b c : Config F L W} (h : step p code a = some b)
    (h' : Reaches p code b c) : Reaches p code a c := Relation.ReflTransGen.head h h'

theorem Reaches.of_step {c₁ c₂ : Config F L W} (h : step p code c₁ = some c₂) :
    Reaches p code c₁ c₂ := Relation.ReflTransGen.single h

/-- Control that has reached a configuration and gets further from its start
gets there through it, or has not come so far: steps are deterministic. -/
theorem Reaches.total {c c₁ c₂ : Config F L W} (h₁ : Reaches p code c c₁)
    (h₂ : Reaches p code c c₂) : Reaches p code c₁ c₂ ∨ Reaches p code c₂ c₁ :=
  Relation.ReflTransGen.total_of_right_unique
    (fun _ _ _ h h' => Option.some.inj (h.symm.trans h')) h₁ h₂

/-- **Straight-line code.** -/
theorem reaches_execAll {is : List Plain} {rest : List (Instr F L)} :
    ∀ {m : Machine W} {cpu : State}, execAll is m.cpu = some cpu →
      Reaches p code (.run (is.map .plain ++ rest) m) (.run rest { m with cpu := cpu }) := by
  induction is with
  | nil =>
    intro m cpu h
    obtain rfl : m.cpu = cpu := Option.some.inj h
    exact Reaches.refl _
  | cons i is ih =>
    intro m cpu h
    obtain ⟨cpu₁, hexec, hrest⟩ := Option.bind_eq_some_iff.mp h
    have hstep : step p code (.run (.plain i :: (is.map .plain ++ rest)) m) =
        some (.run (is.map .plain ++ rest) { m with cpu := cpu₁ }) := by
      simp only [step, hexec, Option.map_some]
    exact Reaches.head hstep (ih hrest)

end Rules

/-! ## The Win64 convention -/

namespace Win64

/-- The general registers a function keeps. -/
def nonvolatile : List Reg := [.rbx, .rbp, .rsi, .rdi, .r12, .r13, .r14, .r15]

/-- What a function that was entered in `s` keeps until `s'`, after its RET: the
stack is as before the call, the nonvolatile registers and the `n` bytes at
`frame` are untouched. -/
structure Kept (s s' : State) (frame : BitVec 64) (n : Nat) : Prop where
  rsp : s'.gpr .rsp = s.gpr .rsp + 8
  nonvolatile : ∀ r ∈ nonvolatile, s'.gpr r = s.gpr r
  frame : ∀ x, Within x frame n → s'.memory x = s.memory x

/-- What a call on an aligned stack takes below the stack pointer: at most 15
bytes to align it, the home space of the parameters and the return address. -/
def callBytes : Nat := 55

/-- The stack pointer at the first instruction of a function so called. -/
def entryRsp (rsp : BitVec 64) : BitVec 64 := (rsp &&& 0xFFFFFFFFFFFFFFF0#64) - 0x20#64 - 8#64

/-- The instructions that set up a call on an aligned stack, RBX keeping the
stack pointer. -/
def align : List Plain :=
  [.mov .rbx .rsp, .andImm .rsp 0xFFFFFFFFFFFFFFF0#64, .subImm .rsp 0x20#64]

/-- A call on an aligned stack. -/
def callAligned (f : F) : List (Instr F L) :=
  align.map .plain ++ [.call f, .plain (.mov .rsp .rbx)]

/-- The state those instructions lead to. -/
def aligned (s : State) : State :=
  let rsp := s.gpr .rsp &&& 0xFFFFFFFFFFFFFFF0#64
  (((s.setGpr .rbx (s.gpr .rsp)).logic .rsp rsp).setGpr .rsp (rsp - 0x20#64)).setFlags
    (rsp = 0x20#64) (rsp < 0x20#64)

/-- The state in which a function so called is entered. -/
def callEntry (s : State) (returnAddress : BitVec 64) : State := (aligned s).push returnAddress

theorem execAll_align (s : State) : execAll align s = some (aligned s) := by
  simp [align, execAll, Plain.exec, aligned, State.logic]

theorem and_align_toNat (x : BitVec 64) :
    (x &&& 0xFFFFFFFFFFFFFFF0#64).toNat = x.toNat / 16 * 16 := by
  have hmask : x &&& 0xFFFFFFFFFFFFFFF0#64 = (x >>> 4) <<< 4 := by
    apply BitVec.eq_of_getLsbD_eq
    intro i hi
    have hbit : ∀ i < 64, (0xFFFFFFFFFFFFFFF0#64).getLsbD i = decide (4 ≤ i) := by decide
    rw [BitVec.getLsbD_and, hbit i hi, BitVec.getLsbD_shiftLeft, BitVec.getLsbD_ushiftRight]
    by_cases h4 : 4 ≤ i
    · simp [h4, hi, Nat.not_lt.mpr h4, Nat.add_sub_cancel' h4]
    · simp [h4, Nat.not_le.mp h4]
  rw [hmask, BitVec.toNat_shiftLeft, BitVec.toNat_ushiftRight, Nat.shiftRight_eq_div_pow,
    Nat.shiftLeft_eq]
  have hlt := x.isLt
  omega

/-- A function is entered with its return address below an aligned stack. -/
theorem entryRsp_aligned (rsp : BitVec 64) : (entryRsp rsp + 8#64).toNat % 16 = 0 := by
  have halign := and_align_toNat rsp
  unfold entryRsp
  bv_omega

@[simp] theorem callEntry_gpr (s : State) (a : BitVec 64) (r : Reg) :
    (callEntry s a).gpr r =
      if r = .rsp then entryRsp (s.gpr .rsp) else if r = .rbx then s.gpr .rsp else s.gpr r := by
  unfold callEntry aligned State.push State.logic
  simp only [State.store_gpr, State.setGpr_gpr, State.setFlags_gpr, if_pos]
  split
  · rfl
  · rfl

/-- The call writes below the stack pointer only. -/
theorem callEntry_memory {s : State} {a x : BitVec 64}
    (h : ¬ Within x (s.gpr .rsp - BitVec.ofNat 64 callBytes) callBytes) :
    (callEntry s a).memory x = s.memory x := by
  have halign := and_align_toNat (s.gpr .rsp)
  refine Memory.write_out fun hin => h ?_
  simp only [aligned, State.setFlags_gpr, State.setGpr_gpr, if_pos, State.logic] at hin
  unfold Within callBytes at *
  bv_omega

/-- What is above the stack pointer is above the home space of the call. -/
theorem within_caller {rsp x : BitVec 64} {n k : Nat} (h : Within x rsp n) (hk : n + 15 ≤ k)
    (hlt : k ≤ 2 ^ 64) : Within x (entryRsp rsp + 0x28#64) k := by
  have halign := and_align_toNat rsp
  unfold Within entryRsp at *
  bv_omega

/-- What is above the stack pointer is untouched by the call itself. -/
theorem callEntry_above {s : State} {a x : BitVec 64} {n : Nat} (h : Within x (s.gpr .rsp) n)
    (hn : n ≤ 2 ^ 63) : (callEntry s a).memory x = s.memory x := by
  refine callEntry_memory fun hin => ?_
  unfold Within callBytes at *
  bv_omega

/-- A function that leaves its caller's frame alone leaves the words of the
stack. -/
theorem Kept.above {s s' : State} {a x : BitVec 64} {n k : Nat}
    (h : Kept (callEntry s a) s' ((callEntry s a).gpr .rsp + 0x28#64) k)
    (hx : Within x (s.gpr .rsp) n) (hk : n + 15 ≤ k) (hlt : k ≤ 2 ^ 63) :
    s'.memory x = s.memory x := by
  rw [callEntry_gpr, if_pos rfl] at h
  exact (h.frame x (within_caller hx hk (by omega))).trans (callEntry_above hx (by omega))

/-- **A call.** Control comes back with the stack pointer as it was. -/
theorem reaches_callAligned {p : Platform F L W} {code rest : List (Instr F L)} {f : F}
    {m m' : Machine W} {frame : BitVec 64} {n : Nat}
    (hcall : p.call f (m.onCpu fun s =>
      callEntry s (p.returnAddress (.plain (.mov .rsp .rbx) :: rest))) = some m')
    (hkept : Kept (callEntry m.cpu (p.returnAddress (.plain (.mov .rsp .rbx) :: rest))) m'.cpu
      frame n) :
    Reaches p code (.run (callAligned f ++ rest) m)
      (.run rest (m'.onCpu fun s => s.setGpr .rsp (m.cpu.gpr .rsp))) := by
  have hrbx : m'.cpu.gpr .rbx = m.cpu.gpr .rsp := by
    rw [hkept.nonvolatile .rbx (by decide), callEntry_gpr]
    rfl
  unfold callAligned
  rw [List.append_assoc]
  refine (reaches_execAll (execAll_align m.cpu)).trans ?_
  refine Reaches.head (b := .run (.plain (.mov .rsp .rbx) :: rest) m') ?_ ?_
  · rw [List.cons_append, List.cons_append, List.nil_append, step]
    exact Option.map_eq_some_iff.mpr ⟨m', hcall, rfl⟩
  · refine Reaches.of_step ?_
    rw [step, Plain.exec, Option.map_some, hrbx]
    rfl

end Win64

end DeepShield.Lib.X64
