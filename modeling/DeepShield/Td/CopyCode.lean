import DeepShield.Td.Verdict

/-!
# When the copy of guest code succeeds

`tdCopySiblingMemory` returns FALSE for three different reasons: an address is
not mapped by the guest's page tables, it is mapped by a large page, or no
mapping slot is free. `CodeReadable` says when none of them applies, from what
the page tables say (`translation`) and how many slots are free, and
`tdCopySiblingMemory_result` shows that it is the exact condition.

Readable code is copied in one part, or in two where it lies on two pages, and a
part that is longer than `TSC_REPORT.Code` leaves it (`CopyFits`,
`tdCopySiblingMemory_some_iff`). None does as long as the addresses of the
entry are in order and less than `SIBLING_DISTANCE_LIMIT` apart (`Fits`,
`tdCopySiblingMemory_fits`); the second one is shorter than the first distance
because it starts on the later page (`byteOffset_le_distance`).
-/

namespace DeepShield.Td

open DeepShield.Lib DeepShield.Mmu

/-! ## Mapping one address -/

section MapAddress

variable {machine : Machine} {mmu : MmuPerCpu} {cr3 address : UInt64}

/-- An address that can be mapped: a slot is taken, and the pointer returned is
as far into its page as the address. -/
theorem tdMapAddress_of_mapped (ht : translation machine cr3 (pageAlign address) ≠ 0)
    (hfree : 0 < mmu.freeSlots) :
    ∃ va mmu', tdMapAddress machine mmu cr3 address = (va, mmu') ∧ va ≠ 0 ∧
      byteOffset va = byteOffset address ∧ mmu'.freeSlots + 1 = mmu.freeSlots := by
  obtain ⟨hpa, hslots⟩ := mmuGetPhysicalAddress_eq machine cr3 (pageAlign address) hfree
  cases hwalk : mmuGetPhysicalAddress machine mmu cr3 (pageAlign address) with
  | mk codePa mmu₁ =>
    rw [hwalk] at hpa hslots
    simp only at hpa hslots
    have hfree₁ : 0 < mmu₁.freeSlots := by
      rw [hslots]
      exact hfree
    obtain ⟨codePage, mmu₂, hmap, ⟨hne, haligned⟩, htaken, _, _⟩ :=
      mmuMapIoPage_spec hfree₁ codePa false
    have hnum : (codePage + byteOffset address).toNat
        = codePage.toNat + address.toNat % 4096 := by
      have hpage := codePage.toNat_lt
      rw [UInt64.toNat_add, byteOffset_toNat, Nat.mod_eq_of_lt (by omega)]
    refine ⟨codePage + byteOffset address, mmu₂, ?_, ?_, ?_, ?_⟩
    · have hpa' : codePa ≠ 0 := by
        rw [hpa]
        exact ht
      unfold tdMapAddress
      simp only [hwalk, hmap, if_neg hpa', if_neg hne]
    · intro hzero
      rw [hzero] at hnum
      have hpos : codePage.toNat ≠ 0 := fun h => hne (UInt64.toNat_inj.mp h)
      simp only [UInt64.toNat_zero] at hnum
      omega
    · rw [← UInt64.toNat_inj, byteOffset_toNat, byteOffset_toNat, hnum]
      omega
    · rw [htaken, hslots]

/-- One that cannot: not translated, or no slot free. -/
theorem tdMapAddress_of_not_mapped
    (h : translation machine cr3 (pageAlign address) = 0 ∨ mmu.freeSlots = 0) :
    (tdMapAddress machine mmu cr3 address).1 = 0 := by
  unfold tdMapAddress
  simp only
  by_cases hfull : mmu.freeSlots = 0
  · have hsame := mmuGetPhysicalAddress_of_full machine cr3 (pageAlign address) hfull
    split
    next => rfl
    next =>
      rw [hsame, mmuMapIoPage_of_full hfull]
      rfl
  · have ht := h.resolve_right hfull
    obtain ⟨hpa, _⟩ := mmuGetPhysicalAddress_eq machine cr3 (pageAlign address)
      (Nat.pos_of_ne_zero hfull)
    rw [if_pos (hpa.trans ht)]

end MapAddress

/-! ## Copying the code between two addresses -/

/-- The page of each address is mapped by a small page, and there is a slot for
each page. -/
def CodeReadable (machine : Machine) (mmu : MmuPerCpu) (cr3 : UInt64) (sibling : TscEntry) :
    Prop :=
  translation machine cr3 (pageAlign sibling.before.address) ≠ 0 ∧
    if pageAlign sibling.before.address = pageAlign sibling.after.address then
      1 ≤ mmu.freeSlots
    else
      translation machine cr3 (pageAlign sibling.after.address) ≠ 0 ∧ 2 ≤ mmu.freeSlots

instance (machine : Machine) (mmu : MmuPerCpu) (cr3 : UInt64) (sibling : TscEntry) :
    Decidable (CodeReadable machine mmu cr3 sibling) := by
  unfold CodeReadable
  exact inferInstance

/-- `Before.Address < After.Address`, less than `SIBLING_DISTANCE_LIMIT` apart. -/
def TscEntry.Fits (entry : TscEntry) : Prop :=
  entry.before.address < entry.after.address ∧
    entry.after.address - entry.before.address < siblingDistanceLimit

/-- The code between the addresses is no longer than `Code`; if it lies on two pages, the
parts before and behind the beginning of the later one are not. -/
def TscEntry.CopyFits (entry : TscEntry) : Prop :=
  if pageAlign entry.before.address = pageAlign entry.after.address then
    entry.after.address - entry.before.address ≤ siblingDistanceLimit
  else
    entry.after.address - entry.before.address - byteOffset entry.after.address
        ≤ siblingDistanceLimit ∧
      byteOffset entry.after.address ≤ siblingDistanceLimit

instance (entry : TscEntry) : Decidable entry.CopyFits := by
  unfold TscEntry.CopyFits
  exact inferInstance

section Copy

variable {machine : Machine} {mmu : MmuPerCpu} {cr3 : UInt64} {sibling : TscEntry}
  {code : List UInt8}

/-- The part on the page of the later address is no longer than the whole. -/
theorem byteOffset_le_distance (hlt : sibling.before.address < sibling.after.address)
    (hpage : pageAlign sibling.before.address ≠ pageAlign sibling.after.address) :
    byteOffset sibling.after.address ≤ sibling.after.address - sibling.before.address := by
  rw [ne_eq, ← UInt64.toNat_inj] at hpage
  rw [UInt64.lt_iff_toNat_lt] at hlt
  have hbefore := pageAlign_toNat sibling.before.address
  have hafter := pageAlign_toNat sibling.after.address
  rw [UInt64.le_iff_toNat_le, byteOffset_toNat,
    UInt64.toNat_sub_of_le _ _ (UInt64.le_iff_toNat_le.mpr (Nat.le_of_lt hlt))]
  omega

/-- Addresses that fit make no part longer than `Code`. -/
theorem TscEntry.Fits.copyFits (h : sibling.Fits) : sibling.CopyFits := by
  obtain ⟨hlt, hdistance⟩ := h
  unfold CopyFits
  split
  next => exact UInt64.le_of_lt hdistance
  next hpage =>
    have hpart := byteOffset_le_distance hlt hpage
    refine ⟨?_, UInt64.le_of_lt (UInt64.lt_of_le_of_lt hpart hdistance)⟩
    rw [UInt64.le_iff_toNat_le, UInt64.toNat_sub_of_le _ _ hpart]
    rw [UInt64.lt_iff_toNat_lt] at hdistance
    omega

theorem rtlCopyToCode_some_iff {machine : Machine} {mmu : MmuPerCpu} {code : List UInt8}
    {address n : UInt64} :
    (∃ code', rtlCopyToCode machine mmu code address n = some code') ↔
      n ≤ siblingDistanceLimit := by
  unfold rtlCopyToCode
  rw [← UInt64.not_lt]
  split
  next hlt => exact iff_of_false (fun hsome => by simp at hsome) (fun hle => hle hlt)
  next hle => exact iff_of_true ⟨_, rfl⟩ hle

/-- Readable code is copied, or the copy leaves the buffer. -/
theorem tdCopySiblingMemory_of_readable (h : CodeReadable machine mmu cr3 sibling) :
    ∀ r, tdCopySiblingMemory machine mmu cr3 sibling code = some r →
      r.result = true ∧
        r.siblingDistance = sibling.after.address - sibling.before.address := by
  intro r hr
  obtain ⟨hbefore, hrest⟩ := h
  unfold tdCopySiblingMemory at hr
  by_cases hpage : pageAlign sibling.before.address = pageAlign sibling.after.address
  · rw [if_pos hpage] at hrest
    obtain ⟨va, mmu', hmap, hva, _, _⟩ := tdMapAddress_of_mapped hbefore hrest
    simp only [hmap, if_neg hva, hpage, beq_self_eq_true, Bool.true_eq_false, if_false] at hr
    obtain ⟨code', _, hr⟩ := Option.bind_eq_some_iff.mp hr
    obtain rfl := Option.some.inj hr
    exact ⟨rfl, rfl⟩
  · rw [if_neg hpage] at hrest
    obtain ⟨hafter, hslots⟩ := hrest
    obtain ⟨va, mmu₁, hmap₁, hva₁, _, htaken⟩ :=
      tdMapAddress_of_mapped hbefore (Nat.lt_of_succ_le (Nat.le_of_succ_le hslots))
    have hfree₁ : 0 < mmu₁.freeSlots := by omega
    obtain ⟨va₂, mmu₂, hmap₂, hva₂, _, _⟩ := tdMapAddress_of_mapped hafter hfree₁
    simp only [hmap₁, hmap₂, if_neg hva₁, if_neg hva₂, beq_eq_false_iff_ne.mpr hpage,
      if_true] at hr
    obtain ⟨code₁, _, hr⟩ := Option.bind_eq_some_iff.mp hr
    obtain ⟨code₂, _, hr⟩ := Option.bind_eq_some_iff.mp hr
    obtain rfl := Option.some.inj hr
    exact ⟨rfl, rfl⟩

/-- Code that is not readable is not copied. -/
theorem tdCopySiblingMemory_of_not_readable (code : List UInt8)
    (h : ¬ CodeReadable machine mmu cr3 sibling) :
    ∃ r, tdCopySiblingMemory machine mmu cr3 sibling code = some r ∧ r.result = false := by
  unfold tdCopySiblingMemory
  by_cases hfirst : translation machine cr3 (pageAlign sibling.before.address) = 0 ∨
      mmu.freeSlots = 0
  · have hnull := tdMapAddress_of_not_mapped hfirst
    simp only [hnull, if_true]
    exact ⟨_, rfl, rfl⟩
  · have hbefore : translation machine cr3 (pageAlign sibling.before.address) ≠ 0 :=
      fun hz => hfirst (Or.inl hz)
    have hfree : 0 < mmu.freeSlots := Nat.pos_of_ne_zero fun hz => hfirst (Or.inr hz)
    have hpage : pageAlign sibling.before.address ≠ pageAlign sibling.after.address := by
      intro hpage
      exact h ⟨hbefore, by rw [if_pos hpage]; exact hfree⟩
    obtain ⟨va, mmu₁, hmap₁, hva₁, _, htaken⟩ := tdMapAddress_of_mapped hbefore hfree
    have hsecond : translation machine cr3 (pageAlign sibling.after.address) = 0 ∨
        mmu₁.freeSlots = 0 := by
      by_cases hafter : translation machine cr3 (pageAlign sibling.after.address) = 0
      · exact Or.inl hafter
      · right
        have hslots : ¬ 2 ≤ mmu.freeSlots := by
          intro hslots
          exact h ⟨hbefore, by rw [if_neg hpage]; exact ⟨hafter, hslots⟩⟩
        omega
    have hnull := tdMapAddress_of_not_mapped hsecond
    simp only [hmap₁, if_neg hva₁, beq_eq_false_iff_ne.mpr hpage, hnull, if_true]
    exact ⟨_, rfl, rfl⟩

/-- **The copy returns TRUE exactly if the code is readable.** -/
theorem tdCopySiblingMemory_result (code : List UInt8) :
    (∀ r, tdCopySiblingMemory machine mmu cr3 sibling code = some r → r.result = true) ↔
      CodeReadable machine mmu cr3 sibling := by
  constructor
  · intro hall
    by_cases h : CodeReadable machine mmu cr3 sibling
    · exact h
    · obtain ⟨r, hr, hfalse⟩ := tdCopySiblingMemory_of_not_readable code h
      exact absurd ((hall r hr).symm.trans hfalse) (by decide)
  · intro h r hr
    exact (tdCopySiblingMemory_of_readable h r hr).1

/-- **The copy stays inside `Code`** exactly if the code is not readable, or its parts
fit. -/
theorem tdCopySiblingMemory_some_iff :
    (∃ r, tdCopySiblingMemory machine mmu cr3 sibling code = some r) ↔
      (CodeReadable machine mmu cr3 sibling → sibling.CopyFits) := by
  by_cases hreadable : CodeReadable machine mmu cr3 sibling
  · rw [imp_iff_right hreadable]
    obtain ⟨hbefore, hrest⟩ := hreadable
    unfold tdCopySiblingMemory TscEntry.CopyFits
    by_cases hpage : pageAlign sibling.before.address = pageAlign sibling.after.address
    · rw [if_pos hpage] at hrest
      obtain ⟨va, mmu', hmap, hva, _, _⟩ := tdMapAddress_of_mapped hbefore hrest
      rw [if_pos hpage]
      simp only [hmap, if_neg hva, hpage, beq_self_eq_true, Bool.true_eq_false, if_false,
        Option.bind_eq_bind, Option.bind_eq_some_iff]
      constructor
      · rintro ⟨r, code', hcopy, -⟩
        exact rtlCopyToCode_some_iff.mp ⟨code', hcopy⟩
      · intro hdistance
        obtain ⟨code', hcopy⟩ := rtlCopyToCode_some_iff.mpr hdistance
        exact ⟨_, code', hcopy, rfl⟩
    · rw [if_neg hpage] at hrest
      obtain ⟨hafter, hslots⟩ := hrest
      obtain ⟨va, mmu₁, hmap₁, hva₁, _, htaken⟩ :=
        tdMapAddress_of_mapped hbefore (Nat.lt_of_succ_le (Nat.le_of_succ_le hslots))
      have hfree₁ : 0 < mmu₁.freeSlots := by omega
      obtain ⟨va₂, mmu₂, hmap₂, hva₂, hoffset, _⟩ := tdMapAddress_of_mapped hafter hfree₁
      rw [if_neg hpage]
      simp only [hmap₁, hmap₂, if_neg hva₁, if_neg hva₂, beq_eq_false_iff_ne.mpr hpage,
        if_true, hoffset, Option.bind_eq_bind, Option.bind_eq_some_iff]
      constructor
      · rintro ⟨r, code₁, hcopy₁, code₂, hcopy₂, -⟩
        exact ⟨rtlCopyToCode_some_iff.mp ⟨code₁, hcopy₁⟩, rtlCopyToCode_some_iff.mp ⟨code₂, hcopy₂⟩⟩
      · rintro ⟨hfirst, hsecond⟩
        obtain ⟨code₁, hcopy₁⟩ := rtlCopyToCode_some_iff.mpr hfirst
        obtain ⟨code₂, hcopy₂⟩ := rtlCopyToCode_some_iff.mpr hsecond
        exact ⟨_, code₁, hcopy₁, code₂, hcopy₂, rfl⟩
  · obtain ⟨r, hr, _⟩ := tdCopySiblingMemory_of_not_readable code hreadable
    exact iff_of_true ⟨r, hr⟩ fun h => absurd h hreadable

/-- In particular if the entry's addresses fit. -/
theorem tdCopySiblingMemory_fits (h : sibling.Fits) :
    ∃ r, tdCopySiblingMemory machine mmu cr3 sibling code = some r :=
  tdCopySiblingMemory_some_iff.mpr fun _ => h.copyFits

end Copy

end DeepShield.Td
