import DeepShield.Td.Siblings

/-!
# What a false positive rests on

`TdIsTimingAttack` returns FALSE when the code was read and is harmless, and
also when it could not be read. `TdProcessTscEvent` cannot tell the two apart
and posts `TimerFalsePositive` for both, which exempts the thread.

`Evident` says that a call which posts the message had evidence: the code was
copied, and its disassembly met an invalid instruction or no memory read.
`evident_iff_readable` shows that this depends on one thing only, whether the
code of an entry that becomes a candidate is readable at that moment.
-/

namespace DeepShield.Td

open DeepShield.Lib DeepShield.Mmu

/-! ## What is claimed of a call -/

/-- The flags `TdAnalyzeDissasembledInstructions` leaves in the report. -/
def analyzedFlags (event : TscEvent) (copied : CopyResult) : UInt32 :=
  tdAnalyzeDissasembledInstructions event.decoder 0 copied.code copied.siblingDistance

/-- The code between the entry's addresses was copied, and was found harmless
or not to be code. -/
def Evidence (event : TscEvent) (sibling : TscEntry) : Prop :=
  ∃ copied, tdCopySiblingMemory event.machine event.mmu event.guestCr3 sibling zeroCode
      = some copied ∧ copied.result = true ∧
    (flagOn (analyzedFlags event copied) tdInstructionsInvalid = true ∨
      flagOn (analyzedFlags event copied) tdMemoryReferences = false)

/-- The call posts a `TimerFalsePositive` message. -/
def PostsFalsePositive (head : TscTable) (event : TscEvent) : Prop :=
  ∃ outcome report, tdProcessTscEvent head event = some outcome ∧
    .tdMessageNotify .timerFalsePositive report ∈ outcome.effects

/-- The message is posted only with evidence about the entry of the event. -/
def Evident (head : TscTable) (event : TscEvent) : Prop :=
  PostsFalsePositive head event →
    ∃ i recorded, tdRecordEvent head event.tscHash event.offensiveAddress event.timeStamp
      = some (i, recorded) ∧ Evidence event (recorded.get i)

/-- If the event makes its entry a candidate, the entry's code is readable. -/
def CandidateReadable (head : TscTable) (event : TscEvent) : Prop :=
  ∀ i recorded, tdRecordEvent head event.tscHash event.offensiveAddress event.timeStamp
      = some (i, recorded) → tdIsTimingCandidate (recorded.get i) = .candidate →
    CodeReadable event.machine event.mmu event.guestCr3 (recorded.get i)

instance (head : TscTable) (event : TscEvent) : Decidable (CandidateReadable head event) :=
  match h : tdRecordEvent head event.tscHash event.offensiveAddress event.timeStamp with
  | none => isTrue fun _ _ hi => absurd (h.symm.trans hi) (Option.some_ne_none _).symm
  | some (i, recorded) => decidable_of_iff (tdIsTimingCandidate (recorded.get i) = .candidate →
      CodeReadable event.machine event.mmu event.guestCr3 (recorded.get i))
    ⟨fun hreadable _ _ hj hcandidate => by
      obtain ⟨rfl, rfl⟩ := Prod.mk.inj (Option.some.inj (h.symm.trans hj))
      exact hreadable hcandidate, fun hreadable => hreadable i recorded h⟩

/-! ## One call -/

section Call

variable {head : TscTable} {event : TscEvent} {i : Nat} {recorded : TscTable}

/-- The report `TdIsTimingAttack` starts from. -/
def initialReport (event : TscEvent) (sibling : TscEntry) : TscReport :=
  ⟨event.processId, event.threadId, sibling, zeroCode, 0, 0⟩

/-- A false positive is posted exactly if the entry is a candidate and
`TdIsTimingAttack` returns FALSE for it. -/
theorem postsFalsePositive_iff
    (hrecord : tdRecordEvent head event.tscHash event.offensiveAddress event.timeStamp
      = some (i, recorded)) :
    PostsFalsePositive head event ↔ tdIsTimingCandidate (recorded.get i) = .candidate ∧
      ∃ result, tdIsTimingAttack event (recorded.get i) (initialReport event (recorded.get i))
        = some (false, result) := by
  unfold PostsFalsePositive tdProcessTscEvent
  simp only [hrecord, Option.bind_eq_bind, Option.bind_some]
  cases hassess : tdIsTimingCandidate (recorded.get i) with
  | notYet =>
    refine iff_of_false ?_ (fun h => absurd h.1 (by decide))
    intro ⟨outcome, report, heq, hmem⟩
    obtain rfl := Option.some.inj heq
    exact absurd hmem (by simp)
  | discontinued =>
    refine iff_of_false ?_ (fun h => absurd h.1 (by decide))
    intro ⟨outcome, report, heq, hmem⟩
    obtain rfl := Option.some.inj heq
    exact absurd hmem (by simp)
  | candidate =>
    show _ ↔ _ ∧ ∃ result, tdIsTimingAttack event (recorded.get i)
      ⟨event.processId, event.threadId, recorded.get i, zeroCode, 0, 0⟩ = some (false, result)
    simp only
    cases tdIsTimingAttack event (recorded.get i)
        ⟨event.processId, event.threadId, recorded.get i, zeroCode, 0, 0⟩ with
    | none => exact iff_of_false (fun h => by simp at h) (fun h => by simp at h)
    | some verdict =>
      obtain ⟨attack, report, mmu⟩ := verdict
      cases attack with
      | true =>
        refine iff_of_false ?_ (fun h => by simp at h)
        intro ⟨outcome, report', heq, hmem⟩
        obtain rfl := Option.some.inj heq
        exact absurd hmem (by simp)
      | false => exact iff_of_true ⟨_, report, rfl, by simp⟩ ⟨trivial, _, rfl⟩

/-- `TdIsTimingAttack` returns FALSE for want of code or on evidence. -/
theorem tdIsTimingAttack_eq_false (event : TscEvent) (sibling : TscEntry) :
    (∃ result, tdIsTimingAttack event sibling (initialReport event sibling)
        = some (false, result)) ↔
      ¬ CodeReadable event.machine event.mmu event.guestCr3 sibling ∨ Evidence event sibling := by
  unfold tdIsTimingAttack Evidence analyzedFlags
  by_cases hreadable : CodeReadable event.machine event.mmu event.guestCr3 sibling
  · show (∃ result, (tdCopySiblingMemory event.machine event.mmu event.guestCr3 sibling zeroCode
      >>= _) = some (false, result)) ↔ _
    cases hcopy : tdCopySiblingMemory event.machine event.mmu event.guestCr3 sibling zeroCode with
    | none => exact iff_of_false (fun h => by simp at h) (fun h => by simp [hreadable] at h)
    | some copied =>
      obtain ⟨hresult, _⟩ := tdCopySiblingMemory_of_readable hreadable copied hcopy
      simp only [initialReport, Option.bind_eq_bind, Option.bind_some, hresult, Bool.true_eq_false,
        if_false, hreadable, not_true_eq_false, false_or, Option.some.injEq, Prod.mk.injEq,
        exists_and_left, exists_eq', and_true, exists_eq_left', true_and]
      cases flagOn (tdAnalyzeDissasembledInstructions event.decoder 0 copied.code
          copied.siblingDistance) tdInstructionsInvalid <;>
        cases flagOn (tdAnalyzeDissasembledInstructions event.decoder 0 copied.code
          copied.siblingDistance) tdMemoryReferences <;> simp
  · obtain ⟨copied, hcopy, hresult⟩ := tdCopySiblingMemory_of_not_readable zeroCode hreadable
    refine iff_of_true ?_ (Or.inl hreadable)
    simp only [initialReport, hcopy, Option.bind_eq_bind, Option.bind_some, hresult, if_true]
    exact ⟨_, rfl⟩

/-- What is not readable is no evidence. -/
theorem Evidence.readable {sibling : TscEntry} (h : Evidence event sibling) :
    CodeReadable event.machine event.mmu event.guestCr3 sibling := by
  obtain ⟨copied, hcopy, hresult, _⟩ := h
  refine (tdCopySiblingMemory_result zeroCode).mp fun r hr => ?_
  obtain rfl := Option.some.inj (hcopy.symm.trans hr)
  exact hresult

/-- **A call has evidence exactly if the candidate's code is readable.** -/
theorem evident_iff_candidateReadable : Evident head event ↔ CandidateReadable head event := by
  unfold Evident CandidateReadable
  cases hrecord : tdRecordEvent head event.tscHash event.offensiveAddress event.timeStamp with
  | none =>
    refine iff_of_true (fun hposts => ?_) (fun i recorded h => absurd h (by simp))
    obtain ⟨outcome, report, heq, _⟩ := hposts
    unfold tdProcessTscEvent at heq
    rw [hrecord] at heq
    exact absurd heq (by simp)
  | some p =>
    obtain ⟨i, recorded⟩ := p
    have hposts := postsFalsePositive_iff hrecord
    rw [tdIsTimingAttack_eq_false] at hposts
    constructor
    · intro hevident j table h hcandidate
      obtain ⟨rfl, rfl⟩ := Prod.mk.inj (Option.some.inj h)
      by_cases hreadable : CodeReadable event.machine event.mmu event.guestCr3 (recorded.get i)
      · exact hreadable
      · obtain ⟨j, table, h, hevidence⟩ := hevident (hposts.mpr ⟨hcandidate, Or.inl hreadable⟩)
        obtain ⟨rfl, rfl⟩ := Prod.mk.inj (Option.some.inj h)
        exact hevidence.readable
    · intro hall hposted
      obtain ⟨hcandidate, hwhy⟩ := hposts.mp hposted
      refine ⟨i, recorded, rfl, hwhy.resolve_left fun hunreadable => ?_⟩
      exact hunreadable (hall i recorded rfl hcandidate)

end Call

/-! ## Runs -/

/-- **Every exemption of a run rests on evidence exactly if, whenever an entry
becomes a candidate, its code is readable.** -/
theorem evident_iff_readable (head : TscTable) (events : List TscEvent) :
    Throughout tdStep Evident head events ↔ Throughout tdStep CandidateReadable head events :=
  throughout_iff (fun _ _ => evident_iff_candidateReadable) (fun _ _ _ _ => trivial) trivial
    (fun _ _ => trivial)

/-- A thread reads the counter at the same two places, `n` times each. -/
def rdtscRounds : Nat → List TscEvent
  | 0 => []
  | n + 1 => readTsc 0x1000 5 :: readTsc 0x1010 9 :: rdtscRounds n

/-- After 256 rounds in code that is on a large page, the thread is exempted
unread. -/
theorem not_evident_largePage : ¬ Throughout tdStep Evident .zero (rdtscRounds 256) := by
  intro h
  have hreadable : Throughout tdStep CandidateReadable .zero (rdtscRounds 256) :=
    (throughout_iff (fun _ _ => evident_iff_candidateReadable) (fun _ _ _ _ => trivial) trivial
      (fun _ _ => trivial)).mp h
  exact absurd hreadable (by decide +kernel)

end DeepShield.Td
