import DeepShield.Lib.Bytes
import DeepShield.Os.NtStatus

/-!
# The ring buffer of `ringbuf.c`

`RtlRingBufferWrite` and `RtlRingBufferRead` over a byte array `[Base, End)`
with two wrapping pointers and no element count. Pointers are addresses into
one byte-addressed memory; a call runs atomically, the lock being held from
the first read of `Head`/`Tail` to the last write.

Each call is written as the source has it: compute the copies
(`RtlCopyMemory` calls, at most two of them), perform them, move the pointer.
The list of copies is part of the result, so that *where* a call reads and
writes is a value one can talk about, not only its effect.

The two `Tail >= End` / `Head >= End` tests in front of the lock are the only
failures. `NT_ASSERT` is compiled out of a free build and has no counterpart.
-/

namespace DeepShield.Rtl

open DeepShield.Lib DeepShield.Os

/-- `RING_BUFFER`, with the memory its pointers point into. -/
structure RingBuffer where
  size : Nat
  base : Nat
  «end» : Nat
  head : Nat
  tail : Nat
  mem : Mem

/-- `RB_AVAILABLE_BYTES`. -/
def rbAvailableBytes (h t b : Nat) : Nat :=
  if t ≥ h then b - (t - h) else h - t

/-- `RtlRingBufferInitialize`. -/
def rtlRingBufferInitialize (mem : Mem) (buffer bufferSize : Nat) : RingBuffer :=
  { size := bufferSize
    base := buffer
    «end» := buffer + bufferSize
    head := buffer
    tail := buffer
    mem := mem }

/-- `RtlRingBufferGetAvailBytes`: `(WriteSize, ReadSize)`. -/
def rtlRingBufferGetAvailBytes (rb : RingBuffer) : Nat × Nat :=
  let writeSize := rbAvailableBytes rb.head rb.tail rb.size
  (writeSize, rb.size - writeSize)

/-- One `RtlCopyMemory` between the caller's buffer and the ring: `len` bytes
between offset `data` of the one and address `ring` of the other. -/
structure Copy where
  data : Nat
  ring : Nat
  len : Nat
deriving Repr, DecidableEq

/-- A copy from the caller's buffer into the ring. -/
def Copy.into (data : List UInt8) (m : Mem) (c : Copy) : Mem :=
  writeBytes m c.ring ((data.drop c.data).take c.len)

/-- The bytes a copy out of the ring delivers. The copies of one read fill the
caller's buffer from its start without gaps. -/
def Copy.out (m : Mem) (c : Copy) : List UInt8 := readBytes m c.ring c.len

/-- `RtlRingBufferWrite`: the status, the ring after the call and the copies
made. -/
def rtlRingBufferWrite (rb : RingBuffer) (data : List UInt8) :
    NtStatus × RingBuffer × List Copy :=
  let dataSize := data.length
  if rb.tail ≥ rb.end then (statusInternalError, rb, [])
  else
    let availToWrite := (rtlRingBufferGetAvailBytes rb).1
    let bytesToCopy := if availToWrite ≤ dataSize then availToWrite else dataSize
    if bytesToCopy = 0 then (statusSuccess, rb, [])
    else if rb.tail + bytesToCopy > rb.end then
      -- the data being written wraps around the end of the buffer
      let spaceToEnd := rb.end - rb.tail
      let copies : List Copy :=
        [⟨0, rb.tail, spaceToEnd⟩, ⟨spaceToEnd, rb.base, bytesToCopy - spaceToEnd⟩]
      (statusSuccess,
        { rb with
          mem := copies.foldl (Copy.into data) rb.mem
          tail := rb.base + (bytesToCopy - spaceToEnd) }, copies)
    else
      let copies : List Copy := [⟨0, rb.tail, bytesToCopy⟩]
      let tail := rb.tail + bytesToCopy
      (statusSuccess,
        { rb with
          mem := copies.foldl (Copy.into data) rb.mem
          tail := if tail = rb.end then rb.base else tail }, copies)

/-- What `RtlRingBufferRead` hands back: the status, the ring after the call,
the bytes copied to the caller (`*BytesCopied` of them) and the copies made. -/
structure ReadResult where
  status : NtStatus
  ring : RingBuffer
  bytes : List UInt8
  copies : List Copy

/-- `RtlRingBufferRead` into a buffer of `dataSize` bytes. -/
def rtlRingBufferRead (rb : RingBuffer) (dataSize : Nat) : ReadResult :=
  if rb.head ≥ rb.end then ⟨statusInternalError, rb, [], []⟩
  else
    let availToRead := (rtlRingBufferGetAvailBytes rb).2
    if availToRead = 0 then ⟨statusSuccess, rb, [], []⟩
    else
      let dataSize := if dataSize > availToRead then availToRead else dataSize
      if rb.head + dataSize > rb.end then
        -- the data requested wraps around the end of the buffer
        let dataToEnd := rb.end - rb.head
        let copies : List Copy :=
          [⟨0, rb.head, dataToEnd⟩, ⟨dataToEnd, rb.base, dataSize - dataToEnd⟩]
        ⟨statusSuccess, { rb with head := rb.base + (dataSize - dataToEnd) },
          copies.flatMap (Copy.out rb.mem), copies⟩
      else
        let copies : List Copy := [⟨0, rb.head, dataSize⟩]
        let head := rb.head + dataSize
        ⟨statusSuccess, { rb with head := if head = rb.end then rb.base else head },
          copies.flatMap (Copy.out rb.mem), copies⟩

end DeepShield.Rtl
