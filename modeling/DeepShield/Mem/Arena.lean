import DeepShield.Lib.Exact
import Mathlib.Data.List.GetD
import Mathlib.Data.List.Nodup

/-!
# Translating addresses of an arena

An arena is memory that is contiguous as the kernel sees it and consists of scattered frames.
`ArenaVirtualToPhysical` finds the frame of an address in the frame array of the MDL, by its
page; `ArenaPhysicalToVirtual` looks for the frame of a physical address in the array and takes
the place where it found it for the page.

Pages are counted in 32 bits and addresses have 64, and the number of entries is computed from
the MDL rather than taken from the arena. All arithmetic is written with the operations of
`Lib/Exact`, so that what overflows would show.

`arena_translates`: the two are inverse to each other between the arena and its frames, give 0
outside, and nothing is lost on the way. The pages of the arena are the places in the array,
its frames what is there; the rest is that both agree on the offset in the page
(`physicalOf_virtualOf`, `virtualOf_physicalOf`).
-/

namespace DeepShield.Mem.Arena

open DeepShield.Lib

/-- `MDL`, with the frame array behind it. -/
structure Mdl where
  startVa : UInt64
  byteOffset : UInt32
  byteCount : UInt32
  pfnArray : List UInt64
deriving Repr, DecidableEq

/-- `MEMORY_ARENA`. -/
structure MemoryArena where
  numberOfPages : UInt32
  mdl : Mdl
  baseAddress : UInt64
deriving Repr, DecidableEq

/-- `PAGE_SIZE`. -/
def pageSize : UInt32 := 0x1000

/-- `MmGetMdlPfnArray( Mdl )[Index]`. -/
def Mdl.pfn (mdl : Mdl) (index : Nat) : UInt64 := mdl.pfnArray.getD index 0

/-- `MmGetMdlVirtualAddress`. -/
def mmGetMdlVirtualAddress (mdl : Mdl) : Computed UInt64 :=
  add64 mdl.startVa mdl.byteOffset.toUInt64

/-- `ADDRESS_AND_SIZE_TO_SPAN_PAGES`. -/
def addressAndSizeToSpanPages (va : UInt64) (size : UInt32) : Computed UInt64 := do
  let bytes ← add64 (va &&& 0xFFF) size.toUInt64
  let roundedUp ← add64 bytes 0xFFF
  return roundedUp >>> 12

/-- `ArenaVirtualToPhysical`. -/
def arenaVirtualToPhysical (arena : MemoryArena) (baseAddress : UInt64) : Computed UInt64 := do
  let start := arena.baseAddress
  let size ← mul32 arena.numberOfPages pageSize
  let «end» ← add64 arena.baseAddress size.toUInt64
  if start ≤ baseAddress ∧ baseAddress < «end» then do
    let offset ← sub64 baseAddress start
    let index := offset >>> 12
    let frame ← shiftLeft64 (arena.mdl.pfn index.toNat) 12
    add64 frame (baseAddress &&& 0xFFF)
  else return 0

/-- `(UINT64)( PhysicalAddress.QuadPart >> 12 )`, of a signed number. -/
def quadPartFrame (physicalAddress : UInt64) : UInt64 := (physicalAddress.toInt64 >>> 12).toUInt64

/-- The loop of `ArenaPhysicalToVirtual`, with `left` entries left from `i` on. -/
def arenaSearch (arena : MemoryArena) (physicalAddress : UInt64) : Nat → UInt32 → Computed UInt64
  | 0, _ => return 0
  | left + 1, i =>
    if quadPartFrame physicalAddress = arena.mdl.pfn i.toNat then do
      let page ← mul32 i pageSize
      let start ← add64 arena.baseAddress page.toUInt64
      add64 start (physicalAddress &&& 0xFFF)
    else do
      let next ← add32 i 1
      arenaSearch arena physicalAddress left next

/-- `ArenaPhysicalToVirtual`. -/
def arenaPhysicalToVirtual (arena : MemoryArena) (physicalAddress : UInt64) :
    Computed UInt64 := do
  let va ← mmGetMdlVirtualAddress arena.mdl
  let spanned ← addressAndSizeToSpanPages va arena.mdl.byteCount
  let entries ← narrow32 spanned
  arenaSearch arena physicalAddress entries.toNat 0

/-! ## What it is for -/

/-- An arena as `ArenaInit` leaves it: of less than 4 GB and not around the end of the address
space; the MDL begins at a page, and `MmMapLockedPagesSpecifyCache` maps it with its byte
offset; and it describes the pages of the arena, with frames of their own below `2 ^ 40`. -/
structure WellFormed (arena : MemoryArena) : Prop where
  size_lt : arena.numberOfPages.toNat * 4096 < 2 ^ 32
  end_lt : arena.baseAddress.toNat + arena.numberOfPages.toNat * 4096 < 2 ^ 64
  base_offset : arena.baseAddress.toNat % 4096 = arena.mdl.byteOffset.toNat
  startVa_aligned : arena.mdl.startVa.toNat % 4096 = 0
  byteOffset_eq : arena.mdl.byteOffset = 0
  byteCount_eq : arena.mdl.byteCount.toNat = arena.numberOfPages.toNat * 4096
  frames_length : arena.mdl.pfnArray.length = arena.numberOfPages.toNat
  frames_nodup : arena.mdl.pfnArray.Nodup
  frames_lt : ∀ frame ∈ arena.mdl.pfnArray, 0 < frame.toNat ∧ frame.toNat < 2 ^ 40

/-- The address is in the arena. -/
def InArena (arena : MemoryArena) (va : UInt64) : Prop :=
  arena.baseAddress.toNat ≤ va.toNat ∧
    va.toNat < arena.baseAddress.toNat + arena.numberOfPages.toNat * 4096

/-- The physical address is in one of its frames. -/
def InFrames (arena : MemoryArena) (physicalAddress : UInt64) : Prop :=
  ∃ frame ∈ arena.mdl.pfnArray, physicalAddress.toNat / 4096 = frame.toNat

/-- **The two translations are inverse to each other**, give 0 elsewhere, and lose nothing. -/
structure Translates (arena : MemoryArena) : Prop where
  virtual : ∀ va, InArena arena va →
    (arenaVirtualToPhysical arena va >>= arenaPhysicalToVirtual arena) = pure va
  physical : ∀ physicalAddress, InFrames arena physicalAddress →
    (arenaPhysicalToVirtual arena physicalAddress >>= arenaVirtualToPhysical arena)
      = pure physicalAddress
  notVirtual : ∀ va, ¬ InArena arena va → arenaVirtualToPhysical arena va = pure 0
  notPhysical : ∀ physicalAddress, ¬ InFrames arena physicalAddress →
    arenaPhysicalToVirtual arena physicalAddress = pure 0

/-! ## Pages and frames -/

/-- The address of the byte at an offset in a page of the arena. -/
def virtualOf (arena : MemoryArena) (page offset : Nat) : UInt64 :=
  UInt64.ofNat (arena.baseAddress.toNat + page * 4096 + offset)

/-- The physical address of the byte at an offset in a frame. -/
def physicalOf (frame : UInt64) (offset : Nat) : UInt64 :=
  UInt64.ofNat (frame.toNat * 4096 + offset)

section Translate

variable {arena : MemoryArena} {page offset : Nat} {frame va physicalAddress : UInt64}

/-- The arena begins at a page, as its MDL does. -/
theorem WellFormed.base_aligned (h : WellFormed arena) : arena.baseAddress.toNat % 4096 = 0 := by
  rw [h.base_offset, h.byteOffset_eq]
  rfl

theorem page_le {n : Nat} (h : page < n) : page * 4096 + 4096 ≤ n * 4096 := by
  rw [← Nat.succ_mul]
  exact Nat.mul_le_mul_right 4096 h

theorem virtualOf_toNat (h : WellFormed arena) (hpage : page < arena.numberOfPages.toNat)
    (hoffset : offset < 4096) : (virtualOf arena page offset).toNat
      = arena.baseAddress.toNat + page * 4096 + offset := by
  have hend := h.end_lt
  unfold virtualOf
  rw [UInt64.toNat_ofNat']
  exact Nat.mod_eq_of_lt (by omega)

theorem physicalOf_toNat (hframe : frame.toNat < 2 ^ 40) (hoffset : offset < 4096) :
    (physicalOf frame offset).toNat = frame.toNat * 4096 + offset := by
  unfold physicalOf
  rw [UInt64.toNat_ofNat']
  exact Nat.mod_eq_of_lt (by omega)

/-- The offset of an address in its page. -/
theorem offset_toNat (x : UInt64) : (x &&& 0xFFF).toNat = x.toNat % 4096 := by
  rw [UInt64.toNat_and]
  exact Nat.and_two_pow_sub_one_eq_mod x.toNat 12

theorem shiftRight12_toNat (x : UInt64) : (x >>> 12).toNat = x.toNat / 4096 := by
  rw [UInt64.toNat_shiftRight, Nat.shiftRight_eq_div_pow]
  rfl

/-- **An address of the arena** is at an offset in a page. -/
theorem inArena_iff (h : WellFormed arena) :
    InArena arena va ↔
      ∃ page < arena.numberOfPages.toNat, ∃ offset < 4096, va = virtualOf arena page offset := by
  constructor
  · rintro ⟨hge, hlt⟩
    refine ⟨(va.toNat - arena.baseAddress.toNat) / 4096, by omega,
      (va.toNat - arena.baseAddress.toNat) % 4096, by omega, UInt64.toNat_inj.mp ?_⟩
    rw [virtualOf_toNat h (by omega) (by omega)]
    omega
  · rintro ⟨page, hpage, offset, hoffset, rfl⟩
    unfold InArena
    rw [virtualOf_toNat h hpage hoffset]
    omega

/-- **An address of its frames** is at an offset in a frame. -/
theorem inFrames_iff (h : WellFormed arena) :
    InFrames arena physicalAddress ↔
      ∃ frame ∈ arena.mdl.pfnArray, ∃ offset < 4096,
        physicalAddress = physicalOf frame offset := by
  constructor
  · rintro ⟨frame, hmem, hframe⟩
    refine ⟨frame, hmem, physicalAddress.toNat % 4096, by omega, UInt64.toNat_inj.mp ?_⟩
    rw [physicalOf_toNat (h.frames_lt frame hmem).2 (by omega)]
    omega
  · rintro ⟨frame, hmem, offset, hoffset, rfl⟩
    refine ⟨frame, hmem, ?_⟩
    rw [physicalOf_toNat (h.frames_lt frame hmem).2 hoffset]
    omega

/-- The size of the arena, in the 32 bits it is computed in. -/
theorem size_exact (h : WellFormed arena) : mul32 arena.numberOfPages pageSize
    = pure (arena.numberOfPages * pageSize) ∧
      (arena.numberOfPages * pageSize).toNat = arena.numberOfPages.toNat * 4096 := by
  refine ⟨mul32_exact h.size_lt, ?_⟩
  rw [UInt32.toNat_mul]
  exact Nat.mod_eq_of_lt h.size_lt

/-- The end of the arena. -/
theorem end_toNat (h : WellFormed arena) :
    arena.baseAddress.toNat + (arena.numberOfPages * pageSize).toUInt64.toNat
      = arena.baseAddress.toNat + arena.numberOfPages.toNat * 4096 := by
  rw [UInt32.toNat_toUInt64, (size_exact h).2]

/-- The range check of `ArenaVirtualToPhysical`. -/
theorem rangeCheck_iff (h : WellFormed arena) :
    (arena.baseAddress ≤ va ∧
        va < arena.baseAddress + (arena.numberOfPages * pageSize).toUInt64) ↔
      InArena arena va := by
  have hend := h.end_lt
  rw [UInt64.le_iff_toNat_le, UInt64.lt_iff_toNat_lt, UInt64.toNat_add, end_toNat h,
    Nat.mod_eq_of_lt hend]
  exact Iff.rfl

/-- `ArenaVirtualToPhysical`, with the range check resolved. -/
theorem arenaVirtualToPhysical_eq (h : WellFormed arena) (va : UInt64) :
    arenaVirtualToPhysical arena va
      = if arena.baseAddress ≤ va ∧
            va < arena.baseAddress + (arena.numberOfPages * pageSize).toUInt64 then do
          let offset ← sub64 va arena.baseAddress
          let frame ← shiftLeft64 (arena.mdl.pfn (offset >>> 12).toNat) 12
          add64 frame (va &&& 0xFFF)
        else pure 0 := by
  have hend : arena.baseAddress.toNat + (arena.numberOfPages * pageSize).toUInt64.toNat
      < 2 ^ 64 := by
    rw [end_toNat h]
    exact h.end_lt
  unfold arenaVirtualToPhysical
  dsimp only
  rw [(size_exact h).1, Computed.pure_bind, add64_exact hend, Computed.pure_bind]

/-- The frame at a page is below `2 ^ 40`. -/
theorem pfn_lt (h : WellFormed arena) (hpage : page < arena.numberOfPages.toNat) :
    (arena.mdl.pfn page).toNat < 2 ^ 40 := by
  have hin : page < arena.mdl.pfnArray.length := by
    rw [h.frames_length]
    exact hpage
  unfold Mdl.pfn
  rw [List.getD_eq_getElem _ _ hin]
  exact (h.frames_lt _ (List.getElem_mem hin)).2

/-- **From a page to its frame**, without loss. -/
theorem arenaVirtualToPhysical_virtualOf (h : WellFormed arena)
    (hpage : page < arena.numberOfPages.toNat) (hoffset : offset < 4096) :
    arenaVirtualToPhysical arena (virtualOf arena page offset)
      = pure (physicalOf (arena.mdl.pfn page) offset) := by
  have haligned := h.base_aligned
  have hframe := pfn_lt h hpage
  have hva := virtualOf_toNat h hpage hoffset
  have hin : InArena arena (virtualOf arena page offset) :=
    (inArena_iff h).mpr ⟨page, hpage, offset, hoffset, rfl⟩
  have hle : arena.baseAddress ≤ virtualOf arena page offset := UInt64.le_iff_toNat_le.mpr hin.1
  have hindex : ((virtualOf arena page offset - arena.baseAddress) >>> 12).toNat = page := by
    rw [shiftRight12_toNat, UInt64.toNat_sub_of_le _ _ hle, hva]
    omega
  have hlow : (virtualOf arena page offset &&& 0xFFF).toNat = offset := by
    rw [offset_toNat, hva]
    omega
  have hshifted : (arena.mdl.pfn page).toNat * 2 ^ (12 : UInt64).toNat < 2 ^ 64 := by
    show (arena.mdl.pfn page).toNat * 4096 < 2 ^ 64
    omega
  have hstart : (arena.mdl.pfn page <<< 12).toNat = (arena.mdl.pfn page).toNat * 4096 := by
    rw [UInt64.toNat_shiftLeft, Nat.shiftLeft_eq]
    exact Nat.mod_eq_of_lt hshifted
  rw [arenaVirtualToPhysical_eq h, if_pos ((rangeCheck_iff h).mpr hin), sub64_exact hle,
    Computed.pure_bind, hindex, shiftLeft64_exact (by decide) hshifted, Computed.pure_bind,
    add64_exact (by rw [hstart, hlow]; omega)]
  congr 1
  refine UInt64.toNat_inj.mp ?_
  rw [UInt64.toNat_add, hstart, hlow, physicalOf_toNat hframe hoffset]
  exact Nat.mod_eq_of_lt (by omega)

/-- **Outside of the arena** there is none. -/
theorem arenaVirtualToPhysical_outside (h : WellFormed arena) (hout : ¬ InArena arena va) :
    arenaVirtualToPhysical arena va = pure 0 := by
  rw [arenaVirtualToPhysical_eq h, if_neg fun hcheck => hout ((rangeCheck_iff h).mp hcheck)]

/-- The frame number that is looked for is that of the address, though it is shifted as a
signed number: no frame is so high that the sign would show. -/
theorem quadPartFrame_eq_iff (hframe : frame.toNat < 2 ^ 40) :
    quadPartFrame physicalAddress = frame ↔ physicalAddress.toNat / 4096 = frame.toNat := by
  have hlt := physicalAddress.toNat_lt
  have hvec : (quadPartFrame physicalAddress).toNat
      = (physicalAddress.toBitVec.sshiftRight 12).toNat := rfl
  have hnumber : physicalAddress.toBitVec.toNat = physicalAddress.toNat := rfl
  rw [← UInt64.toNat_inj, hvec]
  cases hsign : physicalAddress.toBitVec.msb with
  | false =>
    rw [BitVec.sshiftRight_eq_of_msb_false hsign, BitVec.toNat_ushiftRight, hnumber,
      Nat.shiftRight_eq_div_pow]
  | true =>
    have hhigh : 2 ^ 63 ≤ physicalAddress.toNat := by
      have hmsb := BitVec.msb_eq_decide physicalAddress.toBitVec
      rw [hsign] at hmsb
      exact of_decide_eq_true hmsb.symm
    rw [BitVec.sshiftRight_eq_of_msb_true hsign, BitVec.toNat_not, BitVec.toNat_ushiftRight,
      BitVec.toNat_not, hnumber, Nat.shiftRight_eq_div_pow]
    exact iff_of_false (by omega) (by omega)

/-- **The entries** that are computed from the MDL are the pages of the arena. -/
theorem arenaPhysicalToVirtual_eq (h : WellFormed arena) (physicalAddress : UInt64) :
    arenaPhysicalToVirtual arena physicalAddress
      = arenaSearch arena physicalAddress arena.numberOfPages.toNat 0 := by
  have hsize := h.size_lt
  have hmdlVa : add64 arena.mdl.startVa arena.mdl.byteOffset.toUInt64
      = pure arena.mdl.startVa := by
    rw [h.byteOffset_eq, add64_exact (by simpa using arena.mdl.startVa.toNat_lt)]
    congr 1
    exact UInt64.add_zero arena.mdl.startVa
  have hbytes : ((arena.mdl.startVa &&& 0xFFF) + arena.mdl.byteCount.toUInt64).toNat
      = arena.numberOfPages.toNat * 4096 := by
    rw [UInt64.toNat_add, offset_toNat, h.startVa_aligned, UInt32.toNat_toUInt64, h.byteCount_eq,
      Nat.zero_add]
    exact Nat.mod_eq_of_lt (by omega)
  have hfits : (arena.mdl.startVa &&& 0xFFF).toNat + arena.mdl.byteCount.toUInt64.toNat
      < 2 ^ 64 := by
    rw [offset_toNat, h.startVa_aligned, UInt32.toNat_toUInt64, h.byteCount_eq]
    omega
  have hlast : (0xFFF : UInt64).toNat = 4095 := rfl
  have hround : ((arena.mdl.startVa &&& 0xFFF) + arena.mdl.byteCount.toUInt64).toNat
      + (0xFFF : UInt64).toNat < 2 ^ 64 := by
    rw [hbytes, hlast]
    exact Nat.lt_trans (Nat.add_lt_add_right hsize 4095) (by decide)
  have hpages : (((arena.mdl.startVa &&& 0xFFF) + arena.mdl.byteCount.toUInt64 + 0xFFF)
      >>> 12).toNat = arena.numberOfPages.toNat := by
    rw [shiftRight12_toNat, UInt64.toNat_add, Nat.mod_eq_of_lt hround, hbytes, hlast]
    omega
  have hnarrow := arena.numberOfPages.toNat_lt
  unfold arenaPhysicalToVirtual mmGetMdlVirtualAddress addressAndSizeToSpanPages
  rw [hmdlVa, Computed.pure_bind, add64_exact hfits, Computed.pure_bind, add64_exact hround,
    Computed.pure_bind, Computed.pure_bind, narrow32_exact (by rw [hpages]; exact hnarrow),
    Computed.pure_bind, UInt64.toNat_toUInt32, hpages, Nat.mod_eq_of_lt hnarrow]

/-- Another page has another frame. -/
theorem pfn_ne (h : WellFormed arena) {i : Nat} (hpage : page < arena.numberOfPages.toNat)
    (hi : i < page) : arena.mdl.pfn page ≠ arena.mdl.pfn i := by
  have hlength := h.frames_length
  unfold Mdl.pfn
  rw [List.getD_eq_getElem _ _ (by omega), List.getD_eq_getElem _ _ (by omega)]
  intro hsame
  have hindex := (h.frames_nodup.getElem_inj_iff).mp hsame
  omega

/-- What the loop computes where it finds the frame, without loss. -/
theorem foundAddress_exact (h : WellFormed arena) {i : UInt32}
    (hpage : i.toNat < arena.numberOfPages.toNat) (hoffset : offset < 4096)
    (hlow : physicalAddress.toNat % 4096 = offset) :
    (do
      let page ← mul32 i pageSize
      let start ← add64 arena.baseAddress page.toUInt64
      add64 start (physicalAddress &&& 0xFFF) : Computed UInt64)
      = pure (virtualOf arena i.toNat offset) := by
  have hle := page_le hpage
  have hend : arena.baseAddress.toNat + (i.toNat * 4096 + 4096) < 2 ^ 64 :=
    Nat.lt_of_le_of_lt (Nat.add_le_add_left hle _) h.end_lt
  have hstartFits : arena.baseAddress.toNat + i.toNat * 4096 < 2 ^ 64 :=
    Nat.lt_of_le_of_lt (Nat.add_le_add_left (Nat.le_add_right _ _) _) hend
  have hrestFits : arena.baseAddress.toNat + i.toNat * 4096 + offset < 2 ^ 64 := by
    rw [Nat.add_assoc]
    exact Nat.lt_trans (Nat.add_lt_add_left (Nat.add_lt_add_left hoffset _) _) hend
  have hfits : i.toNat * pageSize.toNat < 2 ^ 32 :=
    Nat.lt_of_le_of_lt (Nat.le_of_add_right_le hle) h.size_lt
  have hpageSize : (i * pageSize).toUInt64.toNat = i.toNat * 4096 := by
    rw [UInt32.toNat_toUInt64, UInt32.toNat_mul]
    exact Nat.mod_eq_of_lt hfits
  have hstart : (arena.baseAddress + (i * pageSize).toUInt64).toNat
      = arena.baseAddress.toNat + i.toNat * 4096 := by
    rw [UInt64.toNat_add, hpageSize]
    exact Nat.mod_eq_of_lt hstartFits
  have hrest : (physicalAddress &&& 0xFFF).toNat = offset := (offset_toNat _).trans hlow
  rw [mul32_exact hfits, Computed.pure_bind, add64_exact (hpageSize ▸ hstartFits),
    Computed.pure_bind, add64_exact (hstart ▸ hrest ▸ hrestFits)]
  congr 1
  refine UInt64.toNat_inj.mp ?_
  rw [UInt64.toNat_add, hstart, hrest, virtualOf_toNat h hpage hoffset]
  exact Nat.mod_eq_of_lt hrestFits

/-- The next entry. -/
theorem next_exact {i : UInt32} (h : i.toNat + 1 < 2 ^ 32) :
    add32 i 1 = pure (i + 1) ∧ (i + 1).toNat = i.toNat + 1 := by
  refine ⟨add32_exact h, ?_⟩
  rw [UInt32.toNat_add]
  exact Nat.mod_eq_of_lt h

/-- **The search** ends at the page of the frame. -/
theorem arenaSearch_found (h : WellFormed arena) (hpage : page < arena.numberOfPages.toNat)
    (hoffset : offset < 4096) :
    ∀ (left : Nat) (i : UInt32), i.toNat ≤ page → left + i.toNat = arena.numberOfPages.toNat →
      arenaSearch arena (physicalOf (arena.mdl.pfn page) offset) left i
        = pure (virtualOf arena page offset) := by
  have haddress := physicalOf_toNat (pfn_lt h hpage) hoffset
  intro left
  induction left with
  | zero =>
    intro i hi hleft
    omega
  | succ left ih =>
    intro i hi hleft
    have hhere : quadPartFrame (physicalOf (arena.mdl.pfn page) offset) = arena.mdl.pfn i.toNat ↔
        arena.mdl.pfn page = arena.mdl.pfn i.toNat := by
      rw [quadPartFrame_eq_iff (pfn_lt h (by omega)), haddress, ← UInt64.toNat_inj]
      omega
    rw [arenaSearch]
    rcases Nat.lt_or_ge i.toNat page with hbefore | hreached
    · have hlt := arena.numberOfPages.toNat_lt
      obtain ⟨hstep, hnext⟩ := @next_exact i (by omega)
      rw [if_neg fun hsame => pfn_ne h hpage hbefore (hhere.mp hsame), hstep, Computed.pure_bind]
      exact ih (i + 1) (by omega) (by omega)
    · obtain rfl : page = i.toNat := by omega
      rw [if_pos (hhere.mpr rfl)]
      exact foundAddress_exact h hpage hoffset (by rw [haddress]; omega)

/-- It comes to its end if there is no such frame. -/
theorem arenaSearch_absent (h : WellFormed arena) (hout : ¬ InFrames arena physicalAddress) :
    ∀ (left : Nat) (i : UInt32), left + i.toNat = arena.numberOfPages.toNat →
      arenaSearch arena physicalAddress left i = pure 0 := by
  intro left
  induction left with
  | zero =>
    intro i _
    rfl
  | succ left ih =>
    intro i hleft
    have hlt := arena.numberOfPages.toNat_lt
    have hin : i.toNat < arena.mdl.pfnArray.length := by
      rw [h.frames_length]
      omega
    have hother : quadPartFrame physicalAddress ≠ arena.mdl.pfn i.toNat := by
      intro hsame
      refine hout ⟨arena.mdl.pfn i.toNat, ?_,
        (quadPartFrame_eq_iff (pfn_lt h (by omega))).mp hsame⟩
      unfold Mdl.pfn
      rw [List.getD_eq_getElem _ _ hin]
      exact List.getElem_mem hin
    obtain ⟨hstep, hnext⟩ := @next_exact i (by omega)
    rw [arenaSearch, if_neg hother, hstep, Computed.pure_bind]
    exact ih (i + 1) (by omega)

/-- **From a frame to its page**, without loss. -/
theorem arenaPhysicalToVirtual_physicalOf (h : WellFormed arena)
    (hpage : page < arena.numberOfPages.toNat) (hoffset : offset < 4096) :
    arenaPhysicalToVirtual arena (physicalOf (arena.mdl.pfn page) offset)
      = pure (virtualOf arena page offset) := by
  rw [arenaPhysicalToVirtual_eq h]
  exact arenaSearch_found h hpage hoffset _ 0 (Nat.zero_le page) rfl

/-- A frame is at some page. -/
theorem exists_page (h : WellFormed arena) (hmem : frame ∈ arena.mdl.pfnArray) :
    ∃ page < arena.numberOfPages.toNat, frame = arena.mdl.pfn page := by
  obtain ⟨page, hin, hframe⟩ := List.mem_iff_getElem.mp hmem
  refine ⟨page, h.frames_length ▸ hin, ?_⟩
  unfold Mdl.pfn
  rw [List.getD_eq_getElem _ _ hin, hframe]

end Translate

/-- **Translation in an arena** is exact in both directions. -/
theorem arena_translates {arena : MemoryArena} (h : WellFormed arena) : Translates arena where
  virtual va hva := by
    obtain ⟨page, hpage, offset, hoffset, rfl⟩ := (inArena_iff h).mp hva
    rw [arenaVirtualToPhysical_virtualOf h hpage hoffset, Computed.pure_bind,
      arenaPhysicalToVirtual_physicalOf h hpage hoffset]
  physical physicalAddress hframes := by
    obtain ⟨frame, hmem, offset, hoffset, rfl⟩ := (inFrames_iff h).mp hframes
    obtain ⟨page, hpage, rfl⟩ := exists_page h hmem
    rw [arenaPhysicalToVirtual_physicalOf h hpage hoffset, Computed.pure_bind,
      arenaVirtualToPhysical_virtualOf h hpage hoffset]
  notVirtual va hout := arenaVirtualToPhysical_outside h hout
  notPhysical physicalAddress hout := by
    rw [arenaPhysicalToVirtual_eq h]
    exact arenaSearch_absent h hout _ 0 rfl

/-- An arena of three pages in the frames 9, 4 and 7. -/
def threePages : MemoryArena where
  numberOfPages := 3
  mdl := ⟨0, 0, 0x3000, [9, 4, 7]⟩
  baseAddress := 0xFFFFF88003000000

theorem arena_translates_threePages : Translates threePages :=
  arena_translates {
    size_lt := by decide
    end_lt := by decide
    base_offset := by decide
    startVa_aligned := by decide
    byteOffset_eq := rfl
    byteCount_eq := by decide
    frames_length := rfl
    frames_nodup := by decide
    frames_lt := by simp [threePages] }

end DeepShield.Mem.Arena
