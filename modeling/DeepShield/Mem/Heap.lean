import DeepShield.Lib.Bytes

/-!
# The heap of `mem.c`

An arena is cut into blocks, each with a 24-byte header before it. A block is
named by its offset, the place its contents start. The headers hold two doubly
linked structures: the physical chain through all blocks (`PPREV`, `PNEXT`), in
the order they lie in memory, and one list each of the free and the used blocks
(`VPREV`, `VNEXT`).

Everything is offsets and sizes of 32 bits in one memory, and the functions below
are written over its bytes, assignment by assignment. 32-bit arithmetic goes
through `Heap.add`, `Heap.sub` and `Heap.mul`, which wrap as the code's does and
leave a note that they did (`wrapped`); what the code computes in 64 bits, such as
`nbytes + sizeof(HEAP_BLOCK)`, is computed in `Nat`. The lock is left out: one call
is one step.
-/

namespace DeepShield.Mem

open DeepShield.Lib

/-- `HEAP_BLOCK_FREE`. -/
def heapBlockFree : Nat := 0

/-- `HEAP_BLOCK_USED`. -/
def heapBlockUsed : Nat := 1

/-- `sizeof( HEAP_BLOCK )`. -/
def sizeofHeapBlock : Nat := 24

/-- `START`. -/
def start : Nat := sizeofHeapBlock

/-- `MINIMAL_FREE_BLOCK_SIZE`. -/
def minimalFreeBlockSize : Nat := 16

/-- `PAGE_SIZE`. -/
def pageSize : Nat := 4096

/-- The fields of `HEAP_BLOCK`. -/
inductive HeapField
  | state
  | size
  | pprev
  | pnext
  | vprev
  | vnext
deriving Repr, DecidableEq

/-- Where a field is in the header. -/
def HeapField.offset : HeapField → Nat
  | .state => 0
  | .size => 4
  | .pprev => 8
  | .pnext => 12
  | .vprev => 16
  | .vnext => 20

/-- `HEAP`. `memory` is the address of the raw memory and `mem` what it holds, by
offset; `wrapped` records that a 32-bit computation did not fit. -/
structure Heap where
  memory : Nat
  mem : Mem
  size : Nat
  freeList : Nat
  usedList : Nat
  wrapped : Bool

/-- The two lists. -/
inductive HeapList
  | free
  | used
deriving Repr, DecidableEq

namespace Heap

/-- A field of `BLOCK(X)`. -/
def get (h : Heap) (field : HeapField) (x : Nat) : Nat :=
  read32 h.mem (x - sizeofHeapBlock + field.offset)

/-- An assignment to a field of `BLOCK(X)`. -/
def set (h : Heap) (field : HeapField) (x value : Nat) : Heap :=
  { h with mem := write32 h.mem (x - sizeofHeapBlock + field.offset) value }

/-- `STATE(X)`. -/
def state (h : Heap) (x : Nat) : Nat := h.get .state x

/-- `SIZE(X)`. -/
def sizeOf (h : Heap) (x : Nat) : Nat := h.get .size x

/-- `PPREV(X)`. -/
def pprev (h : Heap) (x : Nat) : Nat := h.get .pprev x

/-- `PNEXT(X)`. -/
def pnext (h : Heap) (x : Nat) : Nat := h.get .pnext x

/-- `VPREV(X)`. -/
def vprev (h : Heap) (x : Nat) : Nat := h.get .vprev x

/-- `VNEXT(X)`. -/
def vnext (h : Heap) (x : Nat) : Nat := h.get .vnext x

/-- The head of a list. -/
def head (h : Heap) : HeapList → Nat
  | .free => h.freeList
  | .used => h.usedList

/-- An assignment to it. -/
def setHead (h : Heap) (list : HeapList) (x : Nat) : Heap :=
  match list with
  | .free => { h with freeList := x }
  | .used => { h with usedList := x }

/-- `a + b` as a `UINT32`. -/
def add (h : Heap) (a b : Nat) : Nat × Heap :=
  ((a + b) % 2 ^ 32, { h with wrapped := h.wrapped || decide (2 ^ 32 ≤ a + b) })

/-- `a - b` as a `UINT32`. -/
def sub (h : Heap) (a b : Nat) : Nat × Heap :=
  ((a + 2 ^ 32 - b) % 2 ^ 32, { h with wrapped := h.wrapped || decide (a < b) })

/-- `a * b` as a `UINT32`. -/
def mul (h : Heap) (a b : Nat) : Nat × Heap :=
  (a * b % 2 ^ 32, { h with wrapped := h.wrapped || decide (2 ^ 32 ≤ a * b) })

/-- `POINTER(X)`. -/
def pointer (h : Heap) (x : Nat) : Nat := h.memory + x

/-- `OFFSET(X)`. -/
def offset (h : Heap) (pointer : Nat) : Nat := (pointer - h.memory) % 2 ^ 32

/-- `*BLOCK(target) = *BLOCK(source)`, through a temporary. -/
def copyBlock (h : Heap) (target source : Nat) : Heap :=
  let header := readBytes h.mem (source - sizeofHeapBlock) sizeofHeapBlock
  { h with mem := writeBytes h.mem (target - sizeofHeapBlock) header }

/-- `memset( POINTER(X), 0, n )`. -/
def zero (h : Heap) (x n : Nat) : Heap := { h with mem := zeroBytes h.mem x n }

end Heap

/-! ## Lists -/

/-- `HeappBlockUnlink`. -/
def heappBlockUnlink (h : Heap) (list : HeapList) (address : Nat) : Heap :=
  let h := if h.vnext address ≠ 0 then h.set .vprev (h.vnext address) (h.vprev address) else h
  let h := if h.vprev address ≠ 0 then h.set .vnext (h.vprev address) (h.vnext address) else h
  if h.head list = address then h.setHead list (h.vnext address) else h

/-- `HeappBlockLink`. -/
def heappBlockLink (h : Heap) (list : HeapList) (address : Nat) : Heap :=
  let h := h.set .vnext address (h.head list)
  let h := h.set .vprev address 0
  let h := if h.head list ≠ 0 then h.set .vprev (h.head list) address else h
  h.setHead list address

/-- `HeappBlockZero`. -/
def heappBlockZero (h : Heap) (address : Nat) : Heap :=
  h.zero (address - sizeofHeapBlock) sizeofHeapBlock

/-! ## Allocation -/

/-- The links of a new free block behind `address`, which `HeappSplit` and
`HeappAlign` assign in the same order. -/
def heappInsertFree (h : Heap) (address newBlock : Nat) : Heap :=
  let h := h.set .pprev newBlock address
  let h := h.set .pnext newBlock (h.pnext address)
  let h := heappBlockLink h .free newBlock
  let h := if h.pnext address ≠ 0 then h.set .pprev (h.pnext address) newBlock else h
  h.set .pnext address newBlock

/-- `HeappSplit`. -/
def heappSplit (h : Heap) (address nbytes : Nat) : Heap :=
  let h :=
    -- can we split?
    if h.sizeOf address ≥ nbytes + sizeofHeapBlock + minimalFreeBlockSize then
      let (sum, h) := h.add address nbytes
      let (newBlock, h) := h.add sum sizeofHeapBlock
      let h := h.set .state newBlock heapBlockFree
      let (rest, h) := h.sub (h.sizeOf address) nbytes
      let (rest, h) := h.sub rest sizeofHeapBlock
      let h := h.set .size newBlock rest
      let h := heappInsertFree h address newBlock
      h.set .size address nbytes
    else h
  -- move from free to used
  let h := heappBlockUnlink h .free address
  let h := h.set .state address heapBlockUsed
  heappBlockLink h .used address

/-- `HeappAlign`. -/
def heappAlign (h : Heap) (address aligned : Nat) : Heap :=
  let (gap, h) := h.sub aligned address
  if gap ≥ sizeofHeapBlock + minimalFreeBlockSize then
    -- create a new free node
    let h := h.set .state aligned heapBlockFree
    let (rest, h) := h.sub (h.sizeOf address) gap
    let h := h.set .size aligned rest
    let h := heappInsertFree h address aligned
    let (kept, h) := h.sub gap sizeofHeapBlock
    h.set .size address kept
  else
    -- give to previous
    let h := if h.pnext address ≠ 0 then h.set .pprev (h.pnext address) aligned else h
    let h := h.set .pnext (h.pprev address) aligned
    let h := heappBlockUnlink h .free address
    let h := h.copyBlock aligned address
    let (grown, h) := h.add (h.sizeOf (h.pprev aligned)) gap
    let h := h.set .size (h.pprev aligned) grown
    let (rest, h) := h.sub (h.sizeOf aligned) gap
    let h := h.set .size aligned rest
    heappBlockLink h .free aligned

/-- The search of `HeapAlloc` from `current` on. -/
def heapAllocLoop (h : Heap) (numberOfBytes : Nat) : Nat → Nat → Nat × Heap
  | 0, _ => (0, h)
  | fuel + 1, current =>
    if current = 0 then (0, h)
    else if h.sizeOf current ≥ numberOfBytes then
      (h.pointer current, heappSplit h current numberOfBytes)
    else heapAllocLoop h numberOfBytes fuel (h.vnext current)

/-- `HeapAlloc`: the pointer, NULL on failure, and the heap. -/
def heapAlloc (h : Heap) (numberOfBytes : Nat) : Nat × Heap :=
  if numberOfBytes = 0 then (0, h) else heapAllocLoop h numberOfBytes h.size h.freeList

/-- The loop of `HeapAllocAligned` that increases the gap to a minimal block. -/
def heapGrowGap (alignment : Nat) : Nat → Nat → Nat → Heap → Nat × Nat × Heap
  | 0, gap, aligned, h => (gap, aligned, h)
  | fuel + 1, gap, aligned, h =>
    if gap < sizeofHeapBlock + minimalFreeBlockSize then
      let (gap, h) := h.add gap alignment
      let (aligned, h) := h.add aligned alignment
      heapGrowGap alignment fuel gap aligned h
    else (gap, aligned, h)

/-- The search of `HeapAllocAligned` from `current` on. -/
def heapAllocAlignedLoop (numberOfBytes alignment : Nat) : Nat → Nat → Heap → Nat × Heap
  | 0, _, h => (0, h)
  | fuel + 1, current, h =>
    if current = 0 then (0, h)
    else if h.sizeOf current ≥ numberOfBytes then
      let (quotient, h) := h.add (current / alignment) 1
      let (aligned, h) := h.mul quotient alignment
      if aligned = current then (h.pointer current, heappSplit h current numberOfBytes)
      else
        let (gap, h) := h.sub aligned current
        let (gap, aligned, h) :=
          if h.pprev current = 0 then
            heapGrowGap alignment (sizeofHeapBlock + minimalFreeBlockSize) gap aligned h
          else (gap, aligned, h)
        let (needed, h) := h.add gap numberOfBytes
        if h.sizeOf current ≥ needed then
          (h.pointer aligned, heappSplit (heappAlign h current aligned) aligned numberOfBytes)
        else heapAllocAlignedLoop numberOfBytes alignment fuel (h.vnext current) h
    else heapAllocAlignedLoop numberOfBytes alignment fuel (h.vnext current) h

/-- `HeapAllocAligned`. -/
def heapAllocAligned (h : Heap) (numberOfBytes alignment : Nat) : Nat × Heap :=
  if numberOfBytes = 0 then (0, h)
  else if alignment = 0 ∨ alignment &&& (alignment - 1) ≠ 0 then (0, h)
  else heapAllocAlignedLoop numberOfBytes alignment h.size h.freeList h

/-- `HeapAllocArray`. -/
def heapAllocArray (h : Heap) (numberOfElements elementSize : Nat) : Nat × Heap :=
  let bytes := numberOfElements * elementSize % 2 ^ 32
  match heapAlloc h bytes with
  | (array, h) => if array ≠ 0 then (array, h.zero (h.offset array) bytes) else (array, h)

/-! ## Freeing -/

/-- U U U => U F U. -/
def heappFreeAlone (h : Heap) (prev current next : Nat) : Heap :=
  if (prev = 0 ∨ h.state prev = heapBlockUsed) ∧ (next = 0 ∨ h.state next = heapBlockUsed) then
    let h := h.set .state current heapBlockFree
    heappBlockLink h .free current
  else h

/-- U U F => U F F => U [F]. -/
def heappFreeNext (h : Heap) (prev current next : Nat) (secure : Bool) : Heap :=
  if (prev = 0 ∨ h.state prev = heapBlockUsed) ∧ (next ≠ 0 ∧ h.state next = heapBlockFree) then
    let h := heappBlockUnlink h .free next
    let (sum, h) := h.add (sizeofHeapBlock + h.sizeOf next) (h.sizeOf current)
    let h := h.set .size current sum
    let h := h.set .pnext current (h.pnext next)
    let h := if h.pnext next ≠ 0 then h.set .pprev (h.pnext next) current else h
    let h := if secure then heappBlockZero h next else h
    let h := h.set .state current heapBlockFree
    heappBlockLink h .free current
  else h

/-- F U U => F F U => [F] U. -/
def heappFreePrev (h : Heap) (prev current next : Nat) (secure : Bool) : Heap :=
  if (prev ≠ 0 ∧ h.state prev = heapBlockFree) ∧ (next = 0 ∨ h.state next = heapBlockUsed) then
    let (sum, h) := h.add (sizeofHeapBlock + h.sizeOf current) (h.sizeOf prev)
    let h := h.set .size prev sum
    let h := h.set .pnext prev next
    let h := if next ≠ 0 then h.set .pprev next prev else h
    if secure then heappBlockZero h current else h
  else h

/-- F U F => F F F => [F]. -/
def heappFreeBoth (h : Heap) (prev current next : Nat) (secure : Bool) : Heap :=
  if (prev ≠ 0 ∧ h.state prev = heapBlockFree) ∧ (next ≠ 0 ∧ h.state next = heapBlockFree) then
    let h := heappBlockUnlink h .free next
    let (sum, h) := h.add
      (sizeofHeapBlock + h.sizeOf current + sizeofHeapBlock + h.sizeOf next) (h.sizeOf prev)
    let h := h.set .size prev sum
    let h := h.set .pnext prev (h.pnext next)
    let h := if h.pnext next ≠ 0 then h.set .pprev (h.pnext next) prev else h
    if secure then heappBlockZero (heappBlockZero h current) next else h
  else h

/-- The checks `HeappFree` makes first. -/
def heappFreeRefused (h : Heap) (current : Nat) : Bool :=
  h.state current ≠ heapBlockUsed ∨ h.pprev current ≥ current ∨ h.pnext current ≥ h.size ∨
    h.sizeOf current ≥ h.size ∨ h.sizeOf current = 0

/-- `HeappFree`: the four cases are evaluated one after another. -/
def heappFree (h : Heap) (current : Nat) (secure : Bool) : Heap :=
  if heappFreeRefused h current then h
  else
    let prev := h.pprev current
    let next := h.pnext current
    let sizeToZero := h.sizeOf current
    let h := heappBlockUnlink h .used current
    let h := heappFreeAlone h prev current next
    let h := heappFreeNext h prev current next secure
    let h := heappFreePrev h prev current next secure
    let h := heappFreeBoth h prev current next secure
    if secure then h.zero current sizeToZero else h

/-- `HeappContains`. -/
def heappContains (h : Heap) (address : Nat) : Bool :=
  h.memory + sizeofHeapBlock ≤ address ∧ address < h.memory + h.size

/-- `HeapFree`. -/
def heapFree (h : Heap) (memory : Nat) : Heap :=
  if memory = 0 then h
  else if heappContains h memory = false then h
  else heappFree h (h.offset memory) false

/-- The search of `HeapFreeSecure` for the used block that `current` lies in. -/
def heapFindUsed (current : Nat) : Nat → Nat → Heap → Option Nat × Heap
  | 0, _, h => (none, h)
  | fuel + 1, offset, h =>
    if offset = 0 then (none, h)
    else
      let (limit, h) := h.add offset (h.sizeOf offset)
      if current ≥ offset ∧ current < limit then (some offset, h)
      else heapFindUsed current fuel (h.vnext offset) h

/-- `HeapFreeSecure`. -/
def heapFreeSecure (h : Heap) (memory : Nat) : Heap :=
  if memory = 0 then h
  else if heappContains h memory = false then h
  else
    match heapFindUsed (h.offset memory) h.size h.usedList h with
    | (none, h) => h
    | (some current, h) => heappFree h current true

/-! ## Creation -/

/-- `HeapCreate` on an arena at address `arena` of `size` bytes that holds
`contents` from its second page on; none is the NULL result. -/
def heapCreate (arena : Nat) (contents : Mem) (size : Nat) : Option Heap :=
  if size < 16 * pageSize then none
  else
    let h : Heap :=
      { memory := arena + pageSize
        mem := contents
        size := size - pageSize
        freeList := start
        usedList := 0
        wrapped := false }
    let h := h.set .size start (h.size - sizeofHeapBlock)
    let h := h.set .state start heapBlockFree
    let h := h.set .pnext start 0
    let h := h.set .pprev start 0
    let h := h.set .vnext start 0
    some (h.set .vprev start 0)

/-! ## What the program does with it -/

/-- A write of the program that uses the memory. -/
def userWrite (h : Heap) (pointer : Nat) (bytes : List UInt8) : Heap :=
  { h with mem := writeBytes h.mem (h.offset pointer) bytes }

/-- One call, or one write of its user. -/
inductive HeapOp
  | alloc (numberOfBytes : UInt32)
  | allocAligned (numberOfBytes alignment : UInt32)
  | allocArray (numberOfElements elementSize : UInt32)
  | free (memory : Nat)
  | freeSecure (memory : Nat)
  | write (pointer : Nat) (bytes : List UInt8)

/-- The heap after a call. -/
def heapOp (h : Heap) : HeapOp → Heap
  | .alloc numberOfBytes => (heapAlloc h numberOfBytes.toNat).2
  | .allocAligned numberOfBytes alignment =>
    (heapAllocAligned h numberOfBytes.toNat alignment.toNat).2
  | .allocArray numberOfElements elementSize =>
    (heapAllocArray h numberOfElements.toNat elementSize.toNat).2
  | .free memory => heapFree h memory
  | .freeSecure memory => heapFreeSecure h memory
  | .write pointer bytes => userWrite h pointer bytes

/-- A call as a step; every call returns. -/
def heapStep (h : Heap) (op : HeapOp) : Option Heap := some (heapOp h op)

end DeepShield.Mem
