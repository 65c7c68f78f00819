import DeepShield.Lib.BitArray
import DeepShield.Os.NtStatus
import DeepShield.Vmx.Handlers
import Mathlib.Data.List.Basic

/-!
# The MSR bitmap

One page tells the processor which accesses to MSRs exit: four arrays of bits, for the
low and the high range of MSRs and for reads and writes. `VmSetMsrBitsConfig` sets or
clears the bits of one MSR, for a set of accesses that it goes through one by one.

`msrBitmap_table`: the page is a table. After any calls, every bit with a meaning is as
the last call that named its MSR and access left it.
-/

namespace DeepShield.Vmx

open DeepShield.Lib DeepShield.Os

/-- `MSR_LOW_FIRST`. -/
def msrLowFirst : UInt32 := 0

/-- `MSR_LOW_LAST`. -/
def msrLowLast : UInt32 := 0x1FFF

/-- `MSR_HIGH_FIRST`. -/
def msrHighFirst : UInt32 := 0xC0000000

/-- `MSR_HIGH_LAST`. -/
def msrHighLast : UInt32 := 0xC0001FFF

/-- `MSR_LOW_RANGE_IN_BITS`, which is in bytes. -/
def msrLowRangeInBits : Nat := ((msrLowLast - msrLowFirst + 1) / 8).toNat

/-- `MSR_HIGH_RANGE_IN_BITS`. -/
def msrHighRangeInBits : Nat := ((msrHighLast - msrHighFirst + 1) / 8).toNat

/-- `MSR_READ_LOW_OFFSET`. -/
def msrReadLowOffset : Nat := 0

/-- `MSR_READ_HIGH_OFFSET`. -/
def msrReadHighOffset : Nat := msrReadLowOffset + msrLowRangeInBits

/-- `MSR_WRITE_LOW_OFFSET`. -/
def msrWriteLowOffset : Nat := msrReadHighOffset + msrLowRangeInBits

/-- `MSR_WRITE_HIGH_OFFSET`. -/
def msrWriteHighOffset : Nat := msrWriteLowOffset + msrHighRangeInBits

/-- `MSR_ACCESS`. -/
inductive MsrAccess
  | noAccess
  | writeAccess
  | readAccess
  | readWriteAccess
deriving Repr, DecidableEq

/-- Its value. -/
def MsrAccess.value : MsrAccess → UInt32
  | .noAccess => 0
  | .writeAccess => 1
  | .readAccess => 2
  | .readWriteAccess => 3

/-- The page. -/
structure MsrBitmap where
  bytes : List UInt8
  length_eq : bytes.length = 4096
deriving Repr, DecidableEq

/-- `BITARRAY_SET` or `BITARRAY_CLR` on the array at an offset; none if that is not in
the page. -/
def bitarrayWrite (bitmap : MsrBitmap) (bitArray : Nat) (bitNumber : UInt32) (set : Bool) :
    Option MsrBitmap :=
  if bitArray + bitNumber.toNat / 8 < 4096 then
    some ⟨setBit bitmap.bytes (8 * bitArray + bitNumber.toNat) set,
      (setBit_length _ _ _).trans bitmap.length_eq⟩
  else none

/-- `BitArray` and `BitNumber` of an MSR, if it has them. -/
def msrBitArray (msrId : UInt32) (accessIdx : MsrAccess) : Option (Nat × UInt32) :=
  if msrId ≤ msrLowLast then
    some (if accessIdx = .readAccess then msrReadLowOffset else msrWriteLowOffset, msrId)
  else if msrHighFirst ≤ msrId ∧ msrId ≤ msrHighLast then
    some (if accessIdx = .readAccess then msrReadHighOffset else msrWriteHighOffset,
      msrId - msrHighFirst)
  else none

/-- The loop of `VmSetMsrBitsConfig`, over the values of `AccessIdx` that are left. -/
def vmSetMsrBitsLoop (bitmap : MsrBitmap) (msrId : UInt32) (access : MsrAccess) (set : Bool) :
    List MsrAccess → Option (NtStatus × MsrBitmap)
  | [] => some (statusSuccess, bitmap)
  | accessIdx :: rest =>
    if accessIdx.value &&& access.value ≠ 0 then
      match msrBitArray msrId accessIdx with
      | none => some (statusNotFound, bitmap)
      | some (bitArray, bitNumber) =>
        match bitarrayWrite bitmap bitArray bitNumber set with
        | none => none
        | some bitmap => vmSetMsrBitsLoop bitmap msrId access set rest
    else vmSetMsrBitsLoop bitmap msrId access set rest

/-- `VmSetMsrBitsConfig`; none if it leaves the page. -/
def vmSetMsrBitsConfig (bitmap : MsrBitmap) (msrId : UInt32) (access : MsrAccess) (set : Bool) :
    Option (NtStatus × MsrBitmap) :=
  vmSetMsrBitsLoop bitmap msrId access set [.writeAccess, .readAccess]

/-! ## The table -/

/-- The MSRs that have bits in the page. -/
def HasBits (msrId : UInt32) : Prop :=
  msrId ≤ 0x1FFF ∨ (0xC0000000 ≤ msrId ∧ msrId ≤ 0xC0001FFF)

/-- An MSR with bits, and reading or writing it. -/
structure MsrKey where
  msrId : UInt32
  read : Bool
  hasBits : HasBits msrId

/-- The architectural position of its bit. -/
def MsrKey.position (key : MsrKey) : Nat :=
  if key.msrId ≤ 0x1FFF then 8 * (if key.read then 0 else 2048) + key.msrId.toNat
  else 8 * (if key.read then 1024 else 3072) + (key.msrId - 0xC0000000).toNat

/-- Its bit. -/
def MsrBitmap.bitAt (bitmap : MsrBitmap) (key : MsrKey) : Bool :=
  bitOf bitmap.bytes key.position

/-- A call of `VmSetMsrBitsConfig`. -/
structure MsrCall where
  msrId : UInt32
  access : MsrAccess
  set : Bool
deriving Repr, DecidableEq

/-- The call is about this MSR and this access. -/
def MsrCall.names (call : MsrCall) (key : MsrKey) : Bool :=
  call.msrId == key.msrId &&
    (call.access == .readWriteAccess ||
      call.access == if key.read then .readAccess else .writeAccess)

/-- One call, whatever it returns. -/
def msrCall (bitmap : MsrBitmap) (call : MsrCall) : Option MsrBitmap :=
  (vmSetMsrBitsConfig bitmap call.msrId call.access call.set).map Prod.snd

/-! ## Positions -/

section Positions

variable {msrId : UInt32}

/-- An MSR of the high range, from its base. -/
theorem high_toNat (h : 0xC0000000 ≤ msrId ∧ msrId ≤ 0xC0001FFF) :
    ∃ index < 8192, (msrId - 0xC0000000).toNat = index ∧ msrId.toNat = 0xC0000000 + index := by
  have hsub : (msrId - 0xC0000000).toNat = msrId.toNat - 0xC0000000 :=
    UInt32.toNat_sub_of_le _ _ h.1
  have hfirst : 0xC0000000 ≤ msrId.toNat := UInt32.le_iff_toNat_le.mp h.1
  have hlast : msrId.toNat ≤ 0xC0001FFF := UInt32.le_iff_toNat_le.mp h.2
  exact ⟨msrId.toNat - 0xC0000000, by omega, hsub, by omega⟩

/-- The array of a key, and its place there. -/
theorem MsrKey.position_cases (key : MsrKey) : ∃ index < 8192,
    (key.msrId.toNat = index ∧ key.position = 8 * (if key.read then 0 else 2048) + index) ∨
      (key.msrId.toNat = 0xC0000000 + index ∧
        key.position = 8 * (if key.read then 1024 else 3072) + index) := by
  unfold MsrKey.position
  by_cases hlow : key.msrId ≤ 0x1FFF
  · have hindex : key.msrId.toNat ≤ 0x1FFF := UInt32.le_iff_toNat_le.mp hlow
    exact ⟨key.msrId.toNat, by omega, Or.inl ⟨rfl, if_pos hlow⟩⟩
  · obtain ⟨index, hindex, hsub, hid⟩ := high_toNat (key.hasBits.resolve_left hlow)
    refine ⟨index, hindex, Or.inr ⟨hid, ?_⟩⟩
    rw [if_neg hlow, hsub]

/-- **Positions do not collide.** -/
theorem MsrKey.position_inj {key key' : MsrKey} (h : key.position = key'.position) :
    key.msrId = key'.msrId ∧ key.read = key'.read := by
  obtain ⟨index, hindex, hkey⟩ := key.position_cases
  obtain ⟨index', hindex', hkey'⟩ := key'.position_cases
  rw [h] at hkey
  rw [← UInt32.toNat_inj]
  generalize key.read = read at hkey ⊢
  generalize key'.read = read' at hkey' ⊢
  -- four arrays of 8192 bits, one behind the other
  cases read <;> cases read' <;> simp at hkey hkey' ⊢ <;> omega

theorem MsrKey.position_lt (key : MsrKey) : key.position / 8 < 4096 := by
  obtain ⟨index, hindex, hkey⟩ := key.position_cases
  generalize key.read = read at hkey
  cases read <;> simp at hkey <;> omega

/-- **The offsets of the source** are the architectural ones. -/
theorem msrBitArray_of_hasBits (h : HasBits msrId) (accessIdx : MsrAccess) :
    ∃ bitArray bitNumber, msrBitArray msrId accessIdx = some (bitArray, bitNumber) ∧
      8 * bitArray + bitNumber.toNat
        = MsrKey.position ⟨msrId, decide (accessIdx = .readAccess), h⟩ := by
  have hoffsets : msrReadLowOffset = 0 ∧ msrReadHighOffset = 1024 ∧ msrWriteLowOffset = 2048 ∧
      msrWriteHighOffset = 3072 := by decide
  obtain ⟨hreadLow, hreadHigh, hwriteLow, hwriteHigh⟩ := hoffsets
  unfold msrBitArray MsrKey.position
  rw [hreadLow, hreadHigh, hwriteLow, hwriteHigh]
  by_cases hlow : msrId ≤ msrLowLast
  · rw [if_pos hlow]
    refine ⟨_, _, rfl, ?_⟩
    rw [if_pos (show msrId ≤ 0x1FFF from hlow)]
    by_cases hread : accessIdx = .readAccess
    · rw [if_pos hread, if_pos (decide_eq_true hread)]
    · rw [if_neg hread, if_neg (by simpa using hread)]
  · have hhigh : msrHighFirst ≤ msrId ∧ msrId ≤ msrHighLast := h.resolve_left hlow
    rw [if_neg hlow, if_pos hhigh]
    refine ⟨_, _, rfl, ?_⟩
    rw [if_neg (show ¬ msrId ≤ 0x1FFF from hlow)]
    by_cases hread : accessIdx = .readAccess
    · rw [if_pos hread, if_pos (decide_eq_true hread)]
      rfl
    · rw [if_neg hread, if_neg (by simpa using hread)]
      rfl

theorem msrBitArray_of_not_hasBits (h : ¬ HasBits msrId) (accessIdx : MsrAccess) :
    msrBitArray msrId accessIdx = none := by
  obtain ⟨hlow, hhigh⟩ := not_or.mp h
  exact (if_neg hlow).trans (if_neg hhigh)

end Positions

/-! ## One call -/

section Call

variable {bitmap : MsrBitmap} {msrId : UInt32} {access : MsrAccess} {set : Bool}

/-- A write to the bit of a key stays in the page, and changes no other key's bit. -/
theorem bitarrayWrite_spec {bitArray : Nat} {bitNumber : UInt32} {key : MsrKey}
    (hposition : 8 * bitArray + bitNumber.toNat = key.position) (bitmap : MsrBitmap) (set : Bool) :
    ∃ bitmap', bitarrayWrite bitmap bitArray bitNumber set = some bitmap' ∧
      ∀ key', bitmap'.bitAt key'
        = if key'.msrId = key.msrId ∧ key'.read = key.read then set else bitmap.bitAt key' := by
  have hlt := key.position_lt
  have hbyte : bitArray + bitNumber.toNat / 8 < 4096 := by omega
  refine ⟨_, if_pos hbyte, fun key' => ?_⟩
  unfold MsrBitmap.bitAt
  rw [bitOf_setBit (by rw [bitmap.length_eq, hposition]; exact hlt), hposition]
  refine ite_congr (propext ⟨fun h => ?_, fun h => ?_⟩) (fun _ => rfl) fun _ => rfl
  · exact MsrKey.position_inj h.symm
  · unfold MsrKey.position
    rw [h.1, h.2]

/-- **The loop**, over any values of `AccessIdx`: it writes the bits of the MSR for those
that are in the set of accesses. -/
theorem vmSetMsrBitsLoop_of_hasBits (h : HasBits msrId) (accesses : List MsrAccess) :
    ∀ bitmap, ∃ bitmap', vmSetMsrBitsLoop bitmap msrId access set accesses
        = some (statusSuccess, bitmap') ∧
      ∀ key, bitmap'.bitAt key = if key.msrId = msrId ∧ ∃ accessIdx ∈ accesses,
          accessIdx.value &&& access.value ≠ 0 ∧ key.read = decide (accessIdx = .readAccess)
        then set else bitmap.bitAt key := by
  induction accesses with
  | nil =>
    intro bitmap
    refine ⟨bitmap, rfl, fun key => ?_⟩
    rw [if_neg]
    rintro ⟨-, accessIdx, hmem, -⟩
    exact List.not_mem_nil hmem
  | cons accessIdx rest ih =>
    intro bitmap
    by_cases hnamed : accessIdx.value &&& access.value ≠ 0
    · obtain ⟨bitArray, bitNumber, harray, hposition⟩ := msrBitArray_of_hasBits h accessIdx
      obtain ⟨written, hwrite, hbit⟩ := bitarrayWrite_spec hposition bitmap set
      obtain ⟨bitmap', hloop, hrest⟩ := ih written
      refine ⟨bitmap', ?_, fun key => ?_⟩
      · unfold vmSetMsrBitsLoop
        rw [if_pos hnamed, harray]
        dsimp only
        rw [hwrite]
        exact hloop
      · rw [hrest key, hbit key, ← ite_or]
        refine if_congr ?_ rfl rfl
        rw [List.exists_mem_cons_iff, and_or_left, or_comm, and_iff_right hnamed]
    · obtain ⟨bitmap', hloop, hrest⟩ := ih bitmap
      refine ⟨bitmap', ?_, fun key => ?_⟩
      · unfold vmSetMsrBitsLoop
        rw [if_neg hnamed]
        exact hloop
      · rw [hrest key]
        refine if_congr ?_ rfl rfl
        rw [List.exists_mem_cons_iff, or_iff_right fun h => hnamed h.1]

/-- An MSR without bits is not found, if anything is asked for it. -/
theorem vmSetMsrBitsConfig_of_not_hasBits (h : ¬ HasBits msrId) (bitmap : MsrBitmap) (set : Bool) :
    vmSetMsrBitsConfig bitmap msrId access set
      = some (if access = .noAccess then statusSuccess else statusNotFound, bitmap) := by
  unfold vmSetMsrBitsConfig
  cases access with
  | noAccess => rfl
  | writeAccess =>
    rw [vmSetMsrBitsLoop, if_pos (by decide), msrBitArray_of_not_hasBits h]
    rfl
  | readAccess =>
    rw [vmSetMsrBitsLoop, if_neg (by decide), vmSetMsrBitsLoop, if_pos (by decide),
      msrBitArray_of_not_hasBits h]
    rfl
  | readWriteAccess =>
    rw [vmSetMsrBitsLoop, if_pos (by decide), msrBitArray_of_not_hasBits h]
    rfl

/-- The values of `AccessIdx` in the set, in the words of the call. -/
theorem names_iff (call : MsrCall) (key : MsrKey) :
    call.names key = true ↔ key.msrId = call.msrId ∧
      ∃ accessIdx ∈ [MsrAccess.writeAccess, .readAccess],
        accessIdx.value &&& call.access.value ≠ 0 ∧
          key.read = decide (accessIdx = .readAccess) := by
  unfold MsrCall.names
  rw [Bool.and_eq_true, beq_iff_eq, eq_comm]
  refine and_congr_right fun _ => ?_
  generalize key.read = read
  generalize call.access = access
  cases access <;> cases read <;> decide

/-- **One call** writes the bits it names, and no others. -/
theorem msrCall_spec (bitmap : MsrBitmap) (call : MsrCall) :
    ∃ bitmap', msrCall bitmap call = some bitmap' ∧
      ∀ key, bitmap'.bitAt key = if call.names key then call.set else bitmap.bitAt key := by
  unfold msrCall
  by_cases h : HasBits call.msrId
  · obtain ⟨bitmap', hloop, hbits⟩ :=
      @vmSetMsrBitsLoop_of_hasBits call.msrId call.access call.set h
        [.writeAccess, .readAccess] bitmap
    refine ⟨bitmap', ?_, fun key => ?_⟩
    · rw [vmSetMsrBitsConfig, hloop]
      rfl
    · rw [hbits key]
      exact if_congr (names_iff call key).symm rfl rfl
  · refine ⟨bitmap, ?_, fun key => ?_⟩
    · rw [vmSetMsrBitsConfig_of_not_hasBits h]
      rfl
    · rw [if_neg]
      intro hnamed
      exact h (((names_iff call key).mp hnamed).1 ▸ key.hasBits)

end Call

/-- **The MSR bitmap is a table.** No sequence of calls leaves the page, and afterwards
the bit of each MSR and access is what the last call that named them asked for, or what it
was; a call for an MSR without bits changes nothing. -/
theorem msrBitmap_table (bitmap : MsrBitmap) :
    (∀ calls : List MsrCall, ∃ bitmap', calls.foldlM msrCall bitmap = some bitmap' ∧
      ∀ key, bitmap'.bitAt key
        = (((calls.filter (·.names key)).getLast?).map MsrCall.set).getD (bitmap.bitAt key)) ∧
      ∀ msrId access set, ¬ HasBits msrId → access ≠ .noAccess →
        vmSetMsrBitsConfig bitmap msrId access set = some (statusNotFound, bitmap) := by
  constructor
  · intro calls
    exact lastWrite msrCall_spec calls bitmap
  · intro msrId access set h haccess
    rw [vmSetMsrBitsConfig_of_not_hasBits h, if_neg haccess]

/-- The calls of `VmcsSetGuestMsrExitPolicy`. -/
def exitPolicyCalls : List MsrCall :=
  [⟨ia32FsBase, .writeAccess, true⟩, ⟨ia32FsBase, .readAccess, true⟩]

/-- After them, reading FS_BASE exits; and a call for an MSR between the ranges finds
nothing. -/
theorem msrBitmap_table_exitPolicy :
    (∃ bitmap', exitPolicyCalls.foldlM msrCall ⟨List.replicate 4096 0, List.length_replicate⟩
        = some bitmap' ∧ bitmap'.bitAt ⟨ia32FsBase, true, Or.inr (by decide)⟩ = true) ∧
      vmSetMsrBitsConfig ⟨List.replicate 4096 0, List.length_replicate⟩ 0x40000000 .readAccess true
        = some (statusNotFound, ⟨List.replicate 4096 0, List.length_replicate⟩) := by
  obtain ⟨htable, hnone⟩ := msrBitmap_table ⟨List.replicate 4096 0, List.length_replicate⟩
  obtain ⟨bitmap', hcalls, hbits⟩ := htable exitPolicyCalls
  refine ⟨⟨bitmap', hcalls, ?_⟩, hnone _ _ _ (by unfold HasBits; decide) (by decide)⟩
  rw [hbits]
  rfl

end DeepShield.Vmx
