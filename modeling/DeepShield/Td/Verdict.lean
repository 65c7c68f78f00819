import DeepShield.Mmu.Walk
import DeepShield.Td.Tsc

/-!
# From a candidate to a verdict

The second half of `TdProcessTscEvent`. Once an entry is a candidate, the code
between its two addresses is copied from guest memory (`tdCopySiblingMemory`)
and disassembled (`tdAnalyzeDissasembledInstructions`); code that reads memory
between the two time stamps is a timing attack, any other exempts the thread
(`TimerFalsePositive`).

The disassembler is a binary library, so it is a parameter (`Decoder`). The
copy goes into the 0xFF bytes of `TSC_REPORT.Code`; what the hypervisor does
after a longer copy is not defined, and the functions here return none for it.
-/

namespace DeepShield.Td

open DeepShield.Lib DeepShield.Mmu

/-! ## Copying guest code -/

/-- `TdMapAddress`: the address of the mapped byte, NULL on failure. -/
def tdMapAddress (machine : Machine) (mmu : MmuPerCpu) (cr3 address : UInt64) :
    UInt64 × MmuPerCpu :=
  match mmuGetPhysicalAddress machine mmu cr3 (pageAlign address) with
  | (codePa, mmu) =>
    if codePa = 0 then (0, mmu)
    else
      match mmuMapIoPage mmu codePa false with
      | (codePage, mmu) =>
        if codePage = 0 then (0, mmu) else (codePage + byteOffset address, mmu)

/-- `TdUnmapAddress`. -/
def tdUnmapAddress (mmu : MmuPerCpu) (address : UInt64) : MmuPerCpu :=
  mmuUnmapIoPage mmu (pageAlign address)

/-- `RtlCopyMemory( Code, address, n )` from a mapped page; none if it runs
past the end of `Code`. -/
def rtlCopyToCode (machine : Machine) (mmu : MmuPerCpu) (code : List UInt8)
    (address n : UInt64) : Option (List UInt8) :=
  if n > siblingDistanceLimit then none
  else some (patch code 0 (mmuReadPage machine.physical mmu (pageAlign address)
    (byteOffset address).toNat n.toNat))

/-- What `TdCopySiblingMemory` leaves behind: its result, the code, the
distance and the slots. -/
structure CopyResult where
  result : Bool
  code : List UInt8
  siblingDistance : UInt64
  mmu : MmuPerCpu

/-- `TdCopySiblingMemory`; `cr3` is `VmReadN( GUEST_CR3 )`. -/
def tdCopySiblingMemory (machine : Machine) (mmu : MmuPerCpu) (cr3 : UInt64)
    (sibling : TscEntry) (code : List UInt8) : Option CopyResult :=
  let isSamePage := pageAlign sibling.before.address == pageAlign sibling.after.address
  let distance := sibling.after.address - sibling.before.address
  match tdMapAddress machine mmu cr3 sibling.before.address with
  | (startAddress, mmu) =>
    if startAddress = 0 then some ⟨false, code, 0, mmu⟩
    else if isSamePage = false then
      match tdMapAddress machine mmu cr3 sibling.after.address with
      | (endAddress, mmu) =>
        if endAddress = 0 then some ⟨false, code, 0, tdUnmapAddress mmu startAddress⟩
        else do
          let code ← rtlCopyToCode machine mmu code startAddress
            (distance - byteOffset endAddress)
          let code ← rtlCopyToCode machine mmu code (pageAlign endAddress)
            (byteOffset endAddress)
          some ⟨true, code, distance,
            tdUnmapAddress (tdUnmapAddress mmu startAddress) endAddress⟩
    else do
      let code ← rtlCopyToCode machine mmu code startAddress distance
      some ⟨true, code, distance, tdUnmapAddress mmu startAddress⟩

/-! ## Disassembling it -/

/-- The operand types the analysis tells apart. -/
inductive UdType
  | mem
  | jimm
  | other
deriving Repr, DecidableEq

/-- `ud_operand`. -/
structure UdOperand where
  type : UdType
  size : Nat
  uqword : UInt64
deriving Repr, DecidableEq

/-- What one `ud_disassemble` yields: the bytes it consumed, whether they are
no instruction (`UD_Iinvalid`), and the first three operands. -/
structure UdInstruction where
  length : Nat
  invalid : Bool
  operand0 : UdOperand
  operand1 : UdOperand
  operand2 : UdOperand
deriving Repr, DecidableEq

/-- The disassembler: it ends with the input, and before that consumes at least
one byte at a time. -/
structure Decoder where
  decode : List UInt8 → Option UdInstruction
  decode_nil : decode [] = none
  progress : ∀ input dis, decode input = some dis → 1 ≤ dis.length

/-- A disassembler to which every byte is a `nop`. -/
def nopDecoder : Decoder where
  decode
    | [] => none
    | _ :: _ => some ⟨1, false, ⟨.other, 0, 0⟩, ⟨.other, 0, 0⟩, ⟨.other, 0, 0⟩⟩
  decode_nil := rfl
  progress := by
    intro input dis h
    cases input with
    | nil => exact absurd h (by simp)
    | cons b rest =>
      obtain rfl := Option.some.inj h
      exact Nat.le_refl 1

/-- `TD_MEMORY_REFERENCES`. -/
def tdMemoryReferences : UInt32 := 1

/-- `TD_INSTRUCTIONS_INVALID`. -/
def tdInstructionsInvalid : UInt32 := 2

/-- `FlagOn`. -/
def flagOn (flags flag : UInt32) : Bool := flags &&& flag ≠ 0

/-- `TdDisFollowForwardJump`: the bytes skipped, if the jump is followed. -/
def tdDisFollowForwardJump (dis : UdInstruction) : Option Nat :=
  if dis.operand0.type = .jimm ∧ dis.operand0.size > 0 ∧ dis.operand0.uqword > 0 then
    some dis.operand0.uqword.toNat
  else none

/-- `TdDisAnalyzeMemoryReadReferences`. -/
def tdDisAnalyzeMemoryReadReferences (flags : UInt32) (dis : UdInstruction) : UInt32 :=
  if dis.operand0.type ≠ .mem ∧ (dis.operand1.type = .mem ∨ dis.operand2.type = .mem) then
    flags ||| tdMemoryReferences
  else flags

/-- The loop of `TdAnalyzeDissasembledInstructions` over the bytes left. -/
def tdAnalyzeLoop (decoder : Decoder) (flags : UInt32) (input : List UInt8) : UInt32 :=
  match hdis : decoder.decode input with
  | none => flags
  | some dis =>
    have hshorter : input.length - dis.length < input.length := by
      have hpos := decoder.progress input dis hdis
      cases input with
      | nil => exact absurd (decoder.decode_nil.symm.trans hdis) (by simp)
      | cons b rest =>
        rw [List.length_cons]
        omega
    match tdDisFollowForwardJump dis with
    | some skip =>
      tdAnalyzeLoop decoder flags ((input.drop dis.length).drop skip)
    | none =>
      let flags := tdDisAnalyzeMemoryReadReferences flags dis
      if dis.invalid then flags ||| tdInstructionsInvalid
      else tdAnalyzeLoop decoder flags (input.drop dis.length)
termination_by input.length
decreasing_by
  · rw [List.length_drop, List.length_drop]
    omega
  · rw [List.length_drop]
    exact hshorter

/-- `TdAnalyzeDissasembledInstructions`. -/
def tdAnalyzeDissasembledInstructions (decoder : Decoder) (flags : UInt32)
    (code : List UInt8) (size : UInt64) : UInt32 :=
  tdAnalyzeLoop decoder flags (code.take size.toNat)

/-! ## The verdict -/

/-- `TSC_REPORT`; the entry it points to is kept by value. -/
structure TscReport where
  processId : UInt64
  threadId : UInt64
  tsc : TscEntry
  code : List UInt8
  codeSize : UInt64
  flags : UInt32
deriving Repr, DecidableEq

/-- The zeroed `Code` of a new report. -/
def zeroCode : List UInt8 := List.replicate siblingDistanceLimit.toNat 0

/-- One read of the time-stamp counter, as it comes to `TdProcessTscEvent`: who
reads it, where, when, and the machine at that moment. -/
structure TscEvent where
  processId : UInt64
  threadId : UInt64
  offensiveAddress : UInt64
  timeStamp : UInt64
  machine : Machine
  mmu : MmuPerCpu
  guestCr3 : UInt64
  decoder : Decoder

/-- The PID:TID hash. -/
def TscEvent.tscHash (event : TscEvent) : UInt64 := (event.processId <<< 32) ||| event.threadId

/-- `TdIsTimingAttack`: the verdict, and the report and the slots as it leaves
them. -/
def tdIsTimingAttack (event : TscEvent) (sibling : TscEntry) (report : TscReport) :
    Option (Bool × TscReport × MmuPerCpu) := do
  let copied ← tdCopySiblingMemory event.machine event.mmu event.guestCr3 sibling report.code
  if copied.result = false then some (false, { report with code := copied.code }, copied.mmu)
  else
    let flags := tdAnalyzeDissasembledInstructions event.decoder report.flags copied.code
      copied.siblingDistance
    some (!flagOn flags tdInstructionsInvalid && flagOn flags tdMemoryReferences,
      { report with code := copied.code, codeSize := copied.siblingDistance, flags := flags },
      copied.mmu)

/-- `DS_NOTIFICATION_TYPE`, the ones root mode sends. -/
inductive DsNotificationType
  | timerAbuse
  | timerFalsePositive
deriving Repr, DecidableEq

/-- What `TdProcessTscEvent` does besides updating the table. -/
inductive TdEffect
  | hvmTrimTsdForQuantum
  | rtlPostMailboxTrace (message : String) (arguments : List UInt64)
  | tdMessageNotify (type : DsNotificationType) (report : TscReport)
deriving Repr, DecidableEq

/-- The outcome of an event: the table, the verdict, the effects in order and
the slots. -/
structure TscOutcome where
  head : TscTable
  isTimingAttack : Bool
  effects : List TdEffect
  mmu : MmuPerCpu

/-- `TdProcessTscEvent`. -/
def tdProcessTscEvent (head : TscTable) (event : TscEvent) : Option TscOutcome := do
  let (i, head) ← tdRecordEvent head event.tscHash event.offensiveAddress event.timeStamp
  let sibling := head.get i
  match tdIsTimingCandidate sibling with
  | .notYet => some ⟨head, false, [], event.mmu⟩
  | .discontinued => some ⟨head.set i tdClearSibling, false, [.hvmTrimTsdForQuantum], event.mmu⟩
  | .candidate =>
    let timingReport : TscReport := ⟨event.processId, event.threadId, sibling, zeroCode, 0, 0⟩
    match tdIsTimingAttack event sibling timingReport with
    | none => none
    | some (true, timingReport, mmu) =>
      some ⟨head.set i tdClearSibling, true,
        [.rtlPostMailboxTrace "Timing Attack Found (ProcessId = %p)\n" [event.processId],
          .tdMessageNotify .timerAbuse timingReport], mmu⟩
    | some (false, timingReport, mmu) =>
      some ⟨head.set i tdClearSibling, false,
        [.hvmTrimTsdForQuantum,
          .rtlPostMailboxTrace
            "Timing Candidate Excluded (ProcessId = %p, ThreadId = %p)\n"
            [event.processId, event.threadId],
          .tdMessageNotify .timerFalsePositive timingReport], mmu⟩

/-- One event, as a step of the table. -/
def tdStep (head : TscTable) (event : TscEvent) : Option TscTable :=
  (tdProcessTscEvent head event).map TscOutcome.head

end DeepShield.Td
