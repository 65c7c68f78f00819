import DeepShield.Td.Siblings

/-!
# Whether the copy is the guest's code

Where the two addresses are on one page, `TdCopySiblingMemory` copies what lies between
them. Where they are not, it copies the end of the first page and then the beginning of
the second, and both to the beginning of `Code`. So the second part covers the first, and
is missing behind it.

`guestByte` is what the guest has at an address. `tdCopySiblingMemory_code` says which of
its bytes are where in `Code`, and `codeIsGuests_iff` when that happens to be its code.
A page once mapped stays mapped while the other one is looked up and mapped
(`tdMapAddress_maps`).
-/

namespace DeepShield.Td

open DeepShield.Lib DeepShield.Mmu

/-! ## The guest's bytes -/

/-- The byte at an address of the guest, by its page tables. -/
def guestByte (machine : Machine) (cr3 address : UInt64) : UInt8 :=
  machine.physical ((translation machine cr3 (pageAlign address) &&& pte64PfnMask).toNat
    + (byteOffset address).toNat)

/-- How far apart the addresses of an entry are. -/
def TscEntry.distance (entry : TscEntry) : Nat :=
  (entry.after.address - entry.before.address).toNat

/-- The byte `i` behind the first address of an entry. -/
def TscEntry.codeByte (entry : TscEntry) (machine : Machine) (cr3 : UInt64) (i : Nat) : UInt8 :=
  guestByte machine cr3 (entry.before.address + UInt64.ofNat i)

/-- If the copy returns TRUE, `Code` begins with the code between the addresses. -/
def CodeIsGuests (machine : Machine) (mmu : MmuPerCpu) (cr3 : UInt64) (sibling : TscEntry)
    (code : List UInt8) : Prop :=
  ∀ r, tdCopySiblingMemory machine mmu cr3 sibling code = some r → r.result = true →
    r.siblingDistance.toNat = sibling.distance ∧
      ∀ i < sibling.distance, r.code[i]? = some (sibling.codeByte machine cr3 i)

/-- The part of the code on the page of the second address. -/
def TscEntry.secondPart (entry : TscEntry) : Nat := (byteOffset entry.after.address).toNat

/-- The part on the page of the first. -/
def TscEntry.firstPart (entry : TscEntry) : Nat := entry.distance - entry.secondPart

/-- The second part reads like the beginning of the code, and what neither part reaches
like what was in `Code` before. -/
def PartsCoincide (machine : Machine) (cr3 : UInt64) (sibling : TscEntry) (code : List UInt8) :
    Prop :=
  (∀ i < sibling.secondPart, sibling.codeByte machine cr3 (sibling.firstPart + i)
      = sibling.codeByte machine cr3 i) ∧
    ∀ i < sibling.distance, sibling.firstPart ≤ i → sibling.secondPart ≤ i →
      code[i]? = some (sibling.codeByte machine cr3 i)

/-- The addresses are on one page. -/
def SamePage (sibling : TscEntry) : Prop :=
  pageAlign sibling.before.address = pageAlign sibling.after.address

instance (sibling : TscEntry) : Decidable (SamePage sibling) :=
  inferInstanceAs (Decidable (_ = _))

/-! ## Addresses on a page -/

section Address

variable {machine : Machine} {mmu : MmuPerCpu} {cr3 address : UInt64}

/-- An address so many bytes on, on the same page. -/
theorem address_add {i : Nat} (h : (byteOffset address).toNat + i < 4096) :
    pageAlign (address + UInt64.ofNat i) = pageAlign address ∧
      (byteOffset (address + UInt64.ofNat i)).toNat = (byteOffset address).toNat + i := by
  have hpage := pageAlign_toNat address
  have hpage' := pageAlign_toNat (address + UInt64.ofNat i)
  have hlt := (pageAlign address).toNat_lt
  have haligned : (pageAlign address).toNat % 4096 = 0 := by omega
  rw [byteOffset_toNat] at h
  have hnum : (address + UInt64.ofNat i).toNat = address.toNat + i := by
    rw [UInt64.toNat_add, UInt64.toNat_ofNat', Nat.mod_eq_of_lt (show i < 2 ^ 64 by omega),
      Nat.mod_eq_of_lt (by omega)]
  rw [← UInt64.toNat_inj, byteOffset_toNat, byteOffset_toNat]
  omega

/-- What the guest has there. -/
theorem guestByte_add {i : Nat} (h : (byteOffset address).toNat + i < 4096) :
    guestByte machine cr3 (address + UInt64.ofNat i)
      = machine.physical ((translation machine cr3 (pageAlign address) &&& pte64PfnMask).toNat
        + (byteOffset address).toNat + i) := by
  obtain ⟨hpage, hoffset⟩ := address_add h
  unfold guestByte
  rw [hpage, hoffset, Nat.add_assoc]

/-- **`TdMapAddress`** maps the page of an address, and takes none of those in use. -/
theorem tdMapAddress_maps (ht : translation machine cr3 (pageAlign address) ≠ 0)
    (hfree : 0 < mmu.freeSlots) :
    ∃ va mmu', tdMapAddress machine mmu cr3 address = (va, mmu') ∧ va ≠ 0 ∧
      byteOffset va = byteOffset address ∧ mmu'.freeSlots + 1 = mmu.freeSlots ∧
      mmu'.Maps (pageAlign va) (translation machine cr3 (pageAlign address)) ∧
      ∀ {other page : UInt64}, mmu.Maps other page → mmu'.Maps other page := by
  obtain ⟨va, mmu', hmap, hva, hoffset, htaken⟩ := tdMapAddress_of_mapped ht hfree
  refine ⟨va, mmu', hmap, hva, hoffset, htaken, ?_⟩
  obtain ⟨hpa, hslots⟩ := mmuGetPhysicalAddress_eq machine cr3 (pageAlign address) hfree
  have hkept := fun {other page : UInt64} (h : mmu.Maps other page) =>
    h.getPhysicalAddress machine cr3 (pageAlign address)
  unfold tdMapAddress at hmap
  cases hwalk : mmuGetPhysicalAddress machine mmu cr3 (pageAlign address) with
  | mk codePa mmu₁ =>
    rw [hwalk] at hpa hslots hkept hmap
    simp only at hpa hslots hkept hmap
    have hmaps := mmuMapIoPage_maps (hslots ▸ hfree) codePa false
    obtain ⟨codePage, mmu₂, hmap', ⟨hne, haligned⟩, -⟩ :=
      mmuMapIoPage_spec (hslots ▸ hfree) codePa false
    have hpa' : codePa ≠ 0 := fun hzero => ht (hpa.symm.trans hzero)
    rw [if_neg hpa', hmap'] at hmap
    simp only [if_neg hne] at hmap
    rw [hmap'] at hmaps
    obtain ⟨rfl, rfl⟩ := Prod.mk.inj hmap
    -- the pointer is as far into the slot's page as the address is into its own
    have hbase := pageAlign_add_byteOffset haligned address
    rw [hbase, ← hpa]
    refine ⟨hmaps, fun {other page} hother => ?_⟩
    have hmapped := ((hkept hother).mapIoPage codePa false).2
    rw [hmap'] at hmapped
    exact hmapped

end Address

/-! ## What is copied where -/

section Copy

variable {machine : Machine} {mmu : MmuPerCpu} {cr3 : UInt64} {sibling : TscEntry}
  {code : List UInt8}

/-- A copy to the beginning of `Code`, byte by byte. -/
theorem patch_zero_getElem? (bytes : List UInt8) (i : Nat) :
    (patch code 0 bytes)[i]? = if i < bytes.length then bytes[i]? else code[i]? := by
  unfold patch
  rw [List.take_zero, List.nil_append, Nat.zero_add]
  split
  next hlt => rw [List.getElem?_append_left hlt]
  next hge =>
    rw [List.getElem?_append_right (Nat.le_of_not_lt hge), List.getElem?_drop]
    congr 1
    omega

/-- A copy from a page that is mapped. -/
theorem rtlCopyToCode_maps {va page n : UInt64} (h : mmu.Maps (pageAlign va) page)
    (hn : n ≤ siblingDistanceLimit) (hcode : code.length = siblingDistanceLimit.toNat) :
    ∃ code', rtlCopyToCode machine mmu code va n = some code' ∧ code'.length = code.length ∧
      ∀ i, code'[i]? = if i < n.toNat then
        some (machine.physical ((page &&& pte64PfnMask).toNat + (byteOffset va).toNat + i))
        else code[i]? := by
  have hlen : n.toNat ≤ code.length := by
    rw [hcode]
    exact UInt64.le_iff_toNat_le.mp hn
  unfold rtlCopyToCode
  rw [if_neg (UInt64.not_lt.mpr hn), h.read]
  refine ⟨_, rfl, patch_length (by simpa using hlen), fun i => ?_⟩
  rw [patch_zero_getElem?, readBytes_length]
  split
  next hlt => rw [readBytes_getElem? hlt]
  next => rfl

/-- How the distance, the parts and the pages go together. -/
theorem parts_of_fits (h : sibling.Fits) (hpage : ¬ SamePage sibling) :
    (sibling.after.address - sibling.before.address
        - byteOffset sibling.after.address).toNat = sibling.firstPart ∧
      sibling.firstPart + sibling.secondPart = sibling.distance ∧
      (byteOffset sibling.before.address).toNat + sibling.firstPart = 4096 ∧
      pageAlign sibling.after.address
        = sibling.before.address + UInt64.ofNat sibling.firstPart := by
  obtain ⟨hlt, hnear⟩ := h
  have hpart := byteOffset_le_distance hlt hpage
  have hle := UInt64.le_of_lt hlt
  have hnear' : sibling.distance < 255 := UInt64.lt_iff_toNat_lt.mp hnear
  have hdistance : sibling.distance
      = sibling.after.address.toNat - sibling.before.address.toNat :=
    UInt64.toNat_sub_of_le _ _ hle
  have hlt' := UInt64.lt_iff_toNat_lt.mp hlt
  have hpart' : sibling.secondPart ≤ sibling.distance := UInt64.le_iff_toNat_le.mp hpart
  have hbefore := pageAlign_toNat sibling.before.address
  have hafter := pageAlign_toNat sibling.after.address
  have hsecond : sibling.secondPart = sibling.after.address.toNat % 4096 :=
    byteOffset_toNat sibling.after.address
  have hne : (pageAlign sibling.before.address).toNat
      ≠ (pageAlign sibling.after.address).toNat := fun heq => hpage (UInt64.toNat_inj.mp heq)
  have hfirst : sibling.firstPart = sibling.distance - sibling.secondPart := rfl
  have hbound := sibling.after.address.toNat_lt
  refine ⟨UInt64.toNat_sub_of_le _ _ hpart, by omega, ?_, ?_⟩
  · rw [byteOffset_toNat]
    omega
  · rw [← UInt64.toNat_inj, UInt64.toNat_add, UInt64.toNat_ofNat',
      Nat.mod_eq_of_lt (show sibling.firstPart < 2 ^ 64 by omega), Nat.mod_eq_of_lt (by omega)]
    omega

/-- On one page, all of it is. -/
theorem tdCopySiblingMemory_samePage (hfits : sibling.Fits)
    (hcode : code.length = siblingDistanceLimit.toNat)
    (hreadable : CodeReadable machine mmu cr3 sibling) (hpage : SamePage sibling) :
    ∃ r, tdCopySiblingMemory machine mmu cr3 sibling code = some r ∧
      ∀ i < sibling.distance, r.code[i]? = some (sibling.codeByte machine cr3 i) := by
  obtain ⟨hmapped, hrest⟩ := hreadable
  rw [if_pos (show pageAlign _ = pageAlign _ from hpage)] at hrest
  obtain ⟨va, mmu', hmap, hva, hoffset, -, hmaps, -⟩ := tdMapAddress_maps hmapped hrest
  obtain ⟨code', hcopy, -, hbytes⟩ :=
    @rtlCopyToCode_maps machine mmu' code va _ _ hmaps (UInt64.le_of_lt hfits.2) hcode
  unfold SamePage at hpage
  refine ⟨⟨true, code', sibling.after.address - sibling.before.address,
    tdUnmapAddress mmu' va⟩, ?_, fun i hi => ?_⟩
  · unfold tdCopySiblingMemory
    simp only [hmap, if_neg hva, hpage, beq_self_eq_true, Bool.true_eq_false, if_false, hcopy]
    rfl
  · have hbefore := pageAlign_toNat sibling.before.address
    have hafter := pageAlign_toNat sibling.after.address
    have hdistance : sibling.distance
        = sibling.after.address.toNat - sibling.before.address.toNat :=
      UInt64.toNat_sub_of_le _ _ (UInt64.le_of_lt hfits.1)
    have hin : (byteOffset sibling.before.address).toNat + i < 4096 := by
      rw [byteOffset_toNat]
      rw [hpage] at hbefore
      omega
    show code'[i]? = _
    rw [hbytes, if_pos (show i < (sibling.after.address - sibling.before.address).toNat from hi),
      hoffset]
    unfold TscEntry.codeByte
    rw [guestByte_add hin]

/-- **On two pages, both parts are at the beginning.** The second one covers the first,
and behind both is what was there. -/
theorem tdCopySiblingMemory_code (hfits : sibling.Fits)
    (hcode : code.length = siblingDistanceLimit.toNat)
    (hreadable : CodeReadable machine mmu cr3 sibling) (hpage : ¬ SamePage sibling) :
    ∃ r, tdCopySiblingMemory machine mmu cr3 sibling code = some r ∧
      ∀ i, r.code[i]? = if i < sibling.secondPart then
          some (sibling.codeByte machine cr3 (sibling.firstPart + i))
        else if i < sibling.firstPart then some (sibling.codeByte machine cr3 i)
        else code[i]? := by
  obtain ⟨hmapped, hrest⟩ := hreadable
  rw [if_neg (show ¬ pageAlign _ = pageAlign _ from hpage)] at hrest
  obtain ⟨hmapped', hslots⟩ := hrest
  obtain ⟨hfirst, hsum, hend, hnext⟩ := parts_of_fits hfits hpage
  have hnear : sibling.distance < 255 := UInt64.lt_iff_toNat_lt.mp hfits.2
  have hlimit : siblingDistanceLimit.toNat = 255 := rfl
  obtain ⟨va, mmu₁, hmap, hva, hoffset, htaken, hmaps, -⟩ :=
    tdMapAddress_maps hmapped (Nat.lt_of_succ_le (Nat.le_of_succ_le hslots))
  obtain ⟨va', mmu₂, hmap', hva', hoffset', -, hmaps', hkept⟩ :=
    @tdMapAddress_maps machine mmu₁ _ _ hmapped' (by omega)
  -- the first part, from the page that was mapped first
  have hle : sibling.after.address - sibling.before.address - byteOffset va'
      ≤ siblingDistanceLimit := by
    rw [hoffset', UInt64.le_iff_toNat_le, hfirst, hlimit]
    omega
  obtain ⟨code₁, hcopy, hlen, hbytes⟩ :=
    @rtlCopyToCode_maps machine mmu₂ code va _ _ (hkept hmaps) hle hcode
  -- the second, from the beginning of the other
  have hbase : pageAlign (pageAlign va') = pageAlign va' ∧
      (byteOffset (pageAlign va')).toNat = 0 := by
    have hva'' := pageAlign_toNat va'
    have hbase := pageAlign_toNat (pageAlign va')
    rw [← UInt64.toNat_inj, byteOffset_toNat]
    omega
  have hle' : byteOffset va' ≤ siblingDistanceLimit := by
    rw [hoffset', UInt64.le_iff_toNat_le, hlimit]
    show sibling.secondPart ≤ 255
    omega
  obtain ⟨code₂, hcopy', -, hbytes'⟩ := @rtlCopyToCode_maps machine mmu₂ code₁ (pageAlign va') _ _
    (by rw [hbase.1]; exact hmaps') hle' (hlen.trans hcode)
  refine ⟨⟨true, code₂, sibling.after.address - sibling.before.address,
    tdUnmapAddress (tdUnmapAddress mmu₂ va) va'⟩, ?_, fun i => ?_⟩
  · unfold SamePage at hpage
    unfold tdCopySiblingMemory
    simp only [hmap, hmap', if_neg hva, if_neg hva', beq_eq_false_iff_ne.mpr hpage, if_true,
      hcopy, hcopy', Option.bind_eq_bind, Option.bind_some]
  · show code₂[i]? = _
    rw [hbytes', hbytes, hoffset, hoffset', hfirst, hbase.2]
    show (if i < sibling.secondPart then _ else _) = _
    split
    next hsecond =>
      have hstart : pageAlign (pageAlign sibling.after.address) = pageAlign sibling.after.address ∧
          (byteOffset (pageAlign sibling.after.address)).toNat = 0 := by
        have hafter := pageAlign_toNat sibling.after.address
        have hafter' := pageAlign_toNat (pageAlign sibling.after.address)
        rw [← UInt64.toNat_inj, byteOffset_toNat]
        omega
      unfold TscEntry.codeByte
      rw [UInt64.ofNat_add, ← UInt64.add_assoc, ← hnext, guestByte_add (by omega), hstart.1,
        hstart.2]
    next =>
      split
      next hin =>
        unfold TscEntry.codeByte
        rw [guestByte_add (by omega)]
      next => rfl

end Copy

/-- **The code copied is the guest's** exactly if it could not be read, or lies on one
page, or its two parts happen to coincide. -/
theorem codeIsGuests_iff {machine : Machine} {mmu : MmuPerCpu} {cr3 : UInt64}
    {sibling : TscEntry} {code : List UInt8} (hfits : sibling.Fits)
    (hcode : code.length = siblingDistanceLimit.toNat) :
    CodeIsGuests machine mmu cr3 sibling code ↔
      ¬ CodeReadable machine mmu cr3 sibling ∨ SamePage sibling ∨
        PartsCoincide machine cr3 sibling code := by
  by_cases hreadable : CodeReadable machine mmu cr3 sibling
  · have hresult := @tdCopySiblingMemory_of_readable machine mmu cr3 sibling code hreadable
    by_cases hpage : SamePage sibling
    · refine iff_of_true (fun r hr _ => ?_) (Or.inr (Or.inl hpage))
      obtain ⟨r', hr', hbytes⟩ := tdCopySiblingMemory_samePage hfits hcode hreadable hpage
      obtain rfl := Option.some.inj (hr'.symm.trans hr)
      exact ⟨congrArg UInt64.toNat (hresult r' hr').2, hbytes⟩
    · obtain ⟨r, hr, hbytes⟩ := tdCopySiblingMemory_code hfits hcode hreadable hpage
      obtain ⟨-, hsum, -, -⟩ := parts_of_fits hfits hpage
      rw [or_iff_right (not_not_intro hreadable), or_iff_right hpage]
      constructor
      · intro hguests
        obtain ⟨-, hguests⟩ := hguests r hr (hresult r hr).1
        constructor
        · intro i hi
          have hhere := (hbytes i).symm.trans (hguests i (by omega))
          rw [if_pos hi] at hhere
          exact Option.some.inj hhere
        · intro i hi hfirst hsecond
          have hhere := (hbytes i).symm.trans (hguests i hi)
          rwa [if_neg (Nat.not_lt_of_ge hsecond), if_neg (Nat.not_lt_of_ge hfirst)] at hhere
      · rintro ⟨hover, hbehind⟩ r' hr' -
        obtain rfl := Option.some.inj (hr.symm.trans hr')
        refine ⟨congrArg UInt64.toNat (hresult r hr).2, fun i hi => ?_⟩
        rw [hbytes]
        split
        next hsecond => rw [hover i hsecond]
        next hsecond =>
          split
          next => rfl
          next hfirst => exact hbehind i hi (Nat.le_of_not_lt hfirst) (Nat.le_of_not_lt hsecond)
  · refine iff_of_true (fun r hr htrue => ?_) (Or.inl hreadable)
    obtain ⟨r', hr', hfalse⟩ := tdCopySiblingMemory_of_not_readable code hreadable
    obtain rfl := Option.some.inj (hr'.symm.trans hr)
    exact absurd (hfalse.symm.trans htrue) (by decide)

/-- Page tables at 0x1000, 0x3000, 0x4000 and 0x5000 that map every page to the frame at
0x6000, whose bytes are their own addresses. -/
def onePage : Mem := fun a =>
  match a / 4096, a % 8 with
  | 1, 0 | 3, 0 | 4, 0 | 5, 0 => 0x07
  | 1, 1 => 0x30
  | 3, 1 => 0x40
  | 4, 1 => 0x50
  | 5, 1 => 0x60
  | 6, _ => UInt8.ofNat a
  | _, _ => 0

/-- The machine with these. -/
def onePageMachine : Machine := ⟨onePage, 0x2000, fun _ => 0⟩

/-- An entry at two addresses. -/
def entryAt (before after : UInt64) : TscEntry :=
  ⟨⟨before, 0, 1⟩, ⟨after, 0, 1⟩, 0, 0, 0⟩

/-- Sixteen bytes of one page. -/
theorem codeIsGuests_onePage :
    CodeIsGuests onePageMachine bootMmu 0x1000 (entryAt 0x9000 0x9010) zeroCode :=
  (codeIsGuests_iff (by decide) List.length_replicate).mpr (Or.inr (Or.inl (by decide)))

/-- Two bytes at the end of a page and two of the next: the first is `FE`, and `Code`
begins with the third. -/
theorem not_codeIsGuests_twoPages :
    ¬ CodeIsGuests onePageMachine bootMmu 0x1000 (entryAt 0x9FFE 0xA002) zeroCode := by
  intro h
  have hcopy : ((tdCopySiblingMemory onePageMachine bootMmu 0x1000 (entryAt 0x9FFE 0xA002)
      zeroCode).map fun r => (r.result, r.code[0]?)) = some (true, some 0) := by
    decide +kernel
  obtain ⟨r, hr, heq⟩ := Option.map_eq_some_iff.mp hcopy
  obtain ⟨hresult, hcode⟩ := Prod.mk.inj heq
  have hguest := (h r hr hresult).2 0 (by decide)
  rw [hcode] at hguest
  exact absurd hguest (by decide +kernel)

end DeepShield.Td
