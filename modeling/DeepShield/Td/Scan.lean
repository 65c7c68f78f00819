import DeepShield.Td.Verdict
import Mathlib.Algebra.Group.Int.Defs
import Mathlib.Logic.Relation

/-!
# What the scan of the code overlooks

`TdAnalyzeDissasembledInstructions` is to find a memory read between the two time
stamps. It disassembles straight on, except that it follows a jump: `ud_input_skip` of
the immediate, if that is not zero. The immediate is unsigned to it, so that a backward
jump is a long one forward, and it does not tell a conditional jump from another, so that
the side not taken is left out.

`ScanStep` is what the scan does and `FlowStep` what execution may do, from what is left
of the code to what is left of it next. The two agree except behind a jump that the scan
follows. So nothing is overlooked in code in which no such jump has a read on its other
side (`LeavesNoRead`). Where one has, the scan may still set a flag for another
instruction, which `noReadOverlooked_or_flagged` leaves to the scan.
-/

namespace DeepShield.Td

open Relation

/-! ## Execution -/

/-- The number an operand of `size` bits holds, which the disassembler leaves without
its sign. -/
def UdOperand.displacement (operand : UdOperand) : Int :=
  if 2 * operand.uqword.toNat < 2 ^ operand.size then operand.uqword.toNat
  else operand.uqword.toNat - 2 ^ operand.size

/-- A disassembler, and after which instructions execution may go on with the next one:
all but jumps that are always taken. -/
structure FlowDecoder extends Decoder where
  fallsThrough : List UInt8 → Bool
  zero_extended : ∀ input dis, decode input = some dis → dis.operand0.type = .jimm →
    dis.operand0.uqword.toNat < 2 ^ dis.operand0.size

/-- Where execution may go on after the first instruction of `input`: with the next one,
or at the target of a forward jump. -/
inductive FlowStep (decoder : FlowDecoder) (input : List UInt8) : List UInt8 → Prop
  | next (dis : UdInstruction) (hdecode : decoder.decode input = some dis)
      (hvalid : dis.invalid = false) (hfalls : decoder.fallsThrough input = true) :
      FlowStep decoder input (input.drop dis.length)
  | jump (dis : UdInstruction) (hdecode : decoder.decode input = some dis)
      (hvalid : dis.invalid = false) (hjump : dis.operand0.type = .jimm)
      (hforward : 0 < dis.operand0.displacement) :
      FlowStep decoder input
        ((input.drop dis.length).drop dis.operand0.displacement.toNat)

/-- Operand 0 is not in memory and operand 1 or 2 is. -/
def UdInstruction.ReadsMemory (dis : UdInstruction) : Prop :=
  dis.operand0.type ≠ .mem ∧ (dis.operand1.type = .mem ∨ dis.operand2.type = .mem)

instance (dis : UdInstruction) : Decidable dis.ReadsMemory :=
  inferInstanceAs (Decidable (_ ∧ _))

/-- Execution from `start` may come to a memory read. -/
def MayRead (decoder : FlowDecoder) (start : List UInt8) : Prop :=
  ∃ input dis, ReflTransGen (FlowStep decoder) start input ∧
    decoder.decode input = some dis ∧ dis.ReadsMemory

/-- If the code was found valid and may read memory, the scan has noticed. -/
def NoReadOverlooked (decoder : FlowDecoder) (code : List UInt8) (size : UInt64) : Prop :=
  flagOn (tdAnalyzeDissasembledInstructions decoder.toDecoder 0 code size)
      tdInstructionsInvalid = false →
    MayRead decoder (code.take size.toNat) →
      flagOn (tdAnalyzeDissasembledInstructions decoder.toDecoder 0 code size)
        tdMemoryReferences = true

/-! ## The scan -/

/-- What the scan does after the first instruction of `input`. -/
inductive ScanStep (decoder : Decoder) (input : List UInt8) : List UInt8 → Prop
  | jump (dis : UdInstruction) (skip : Nat) (hdecode : decoder.decode input = some dis)
      (hfollow : tdDisFollowForwardJump dis = some skip) :
      ScanStep decoder input ((input.drop dis.length).drop skip)
  | next (dis : UdInstruction) (hdecode : decoder.decode input = some dis)
      (hfollow : tdDisFollowForwardJump dis = none) (hvalid : dis.invalid = false) :
      ScanStep decoder input (input.drop dis.length)

/-- The scan comes to an instruction of a kind, other than a jump it follows. -/
def Meets (decoder : Decoder) (kind : UdInstruction → Prop) (start : List UInt8) : Prop :=
  ∃ input dis, ReflTransGen (ScanStep decoder) start input ∧ decoder.decode input = some dis ∧
    tdDisFollowForwardJump dis = none ∧ kind dis

/-- No jump on a path of execution that the scan would follow has a read behind: the jump
itself is none, and execution comes to none if it may go on with the next instruction. -/
def LeavesNoRead (decoder : FlowDecoder) (start : List UInt8) : Prop :=
  ∀ input dis skip, ReflTransGen (FlowStep decoder) start input →
    decoder.decode input = some dis → tdDisFollowForwardJump dis = some skip →
    ¬ dis.ReadsMemory ∧
      (dis.invalid = false → decoder.fallsThrough input = true →
        ¬ MayRead decoder (input.drop dis.length))

section Scan

variable {decoder : Decoder} {kind : UdInstruction → Prop} {start input : List UInt8}
  {dis : UdInstruction}

/-- At the end of the code there is nothing to meet. -/
theorem not_meets_of_none (h : decoder.decode start = none) : ¬ Meets decoder kind start := by
  rintro ⟨input, dis, hsteps, hdecode, -, -⟩
  rcases hsteps.cases_head with rfl | ⟨next, hstep, -⟩
  · rw [h] at hdecode
    exact Option.some_ne_none dis hdecode.symm
  · cases hstep with
    | jump dis skip hdecode' => exact Option.some_ne_none dis (hdecode'.symm.trans h)
    | next dis hdecode' => exact Option.some_ne_none dis (hdecode'.symm.trans h)

/-- After a jump that is followed the scan meets what it meets at the target. -/
theorem meets_of_jump {skip : Nat} (hdecode : decoder.decode start = some dis)
    (hfollow : tdDisFollowForwardJump dis = some skip) :
    Meets decoder kind start ↔ Meets decoder kind ((start.drop dis.length).drop skip) := by
  constructor
  · rintro ⟨input, other, hsteps, hother, hnone, hkind⟩
    rcases hsteps.cases_head with rfl | ⟨next, hstep, hrest⟩
    · obtain rfl := Option.some.inj (hdecode.symm.trans hother)
      exact absurd (hfollow.symm.trans hnone) (Option.some_ne_none skip)
    · cases hstep with
      | jump dis' skip' hdecode' hfollow' =>
        obtain rfl := Option.some.inj (hdecode.symm.trans hdecode')
        obtain rfl := Option.some.inj (hfollow.symm.trans hfollow')
        exact ⟨input, other, hrest, hother, hnone, hkind⟩
      | next dis' hdecode' hfollow' =>
        obtain rfl := Option.some.inj (hdecode.symm.trans hdecode')
        exact absurd (hfollow.symm.trans hfollow') (Option.some_ne_none skip)
  · rintro ⟨input, other, hsteps, hother, hnone, hkind⟩
    exact ⟨input, other, .head (.jump dis skip hdecode hfollow) hsteps, hother, hnone, hkind⟩

/-- After any other instruction, what it meets behind it, unless it is invalid. -/
theorem meets_of_next (hdecode : decoder.decode start = some dis)
    (hfollow : tdDisFollowForwardJump dis = none) :
    Meets decoder kind start ↔
      kind dis ∨ dis.invalid = false ∧ Meets decoder kind (start.drop dis.length) := by
  constructor
  · rintro ⟨input, other, hsteps, hother, hnone, hkind⟩
    rcases hsteps.cases_head with rfl | ⟨next, hstep, hrest⟩
    · obtain rfl := Option.some.inj (hdecode.symm.trans hother)
      exact Or.inl hkind
    · cases hstep with
      | jump dis' skip' hdecode' hfollow' =>
        obtain rfl := Option.some.inj (hdecode.symm.trans hdecode')
        exact absurd (hfollow'.symm.trans hfollow) (Option.some_ne_none skip')
      | next dis' hdecode' hfollow' hvalid =>
        obtain rfl := Option.some.inj (hdecode.symm.trans hdecode')
        exact Or.inr ⟨hvalid, input, other, hrest, hother, hnone, hkind⟩
  · rintro (hkind | ⟨hvalid, input, other, hsteps, hother, hnone, hkind⟩)
    · exact ⟨start, dis, .refl, hdecode, hfollow, hkind⟩
    · exact ⟨input, other, .head (.next dis hdecode hfollow hvalid) hsteps, hother, hnone, hkind⟩

/-! ## The flags -/

theorem flagOn_or (flags flag other : UInt32) :
    flagOn (flags ||| flag) other = (flagOn flags other || flagOn flag other) := by
  have hdistrib : (flags ||| flag) &&& other = flags &&& other ||| flag &&& other := by
    refine UInt32.toNat_inj.mp ?_
    rw [UInt32.toNat_and, UInt32.toNat_or, UInt32.toNat_or, UInt32.toNat_and, UInt32.toNat_and,
      Nat.and_or_distrib_right]
  unfold flagOn
  rw [hdistrib]
  by_cases hflags : flags &&& other = 0
  · by_cases hflag : flag &&& other = 0
    · simp [hflags, hflag]
    · simp [hflags, hflag]
  · simp [hflags, UInt32.or_eq_zero_iff]

/-- `TD_MEMORY_REFERENCES` is set for a read. -/
theorem flagOn_readReferences (flags : UInt32) (dis : UdInstruction) :
    flagOn (tdDisAnalyzeMemoryReadReferences flags dis) tdMemoryReferences = true ↔
      flagOn flags tdMemoryReferences = true ∨ dis.ReadsMemory := by
  unfold tdDisAnalyzeMemoryReadReferences UdInstruction.ReadsMemory
  split
  next hreads =>
    rw [flagOn_or, show flagOn tdMemoryReferences tdMemoryReferences = true by decide,
      Bool.or_true]
    exact iff_of_true rfl (Or.inr hreads)
  next hreads =>
    constructor
    · exact Or.inl
    · rintro (hflags | hother)
      · exact hflags
      · exact absurd hother hreads

/-- It is the only flag that is. -/
theorem flagOn_readReferences_invalid (flags : UInt32) (dis : UdInstruction) :
    flagOn (tdDisAnalyzeMemoryReadReferences flags dis) tdInstructionsInvalid
      = flagOn flags tdInstructionsInvalid := by
  unfold tdDisAnalyzeMemoryReadReferences
  split
  next =>
    rw [flagOn_or, show flagOn tdMemoryReferences tdInstructionsInvalid = false by decide,
      Bool.or_false]
  next => rfl

/-- **The flags after the scan** say what it met. -/
theorem flagOn_tdAnalyzeLoop (decoder : Decoder) (flags : UInt32) (input : List UInt8) :
    (flagOn (tdAnalyzeLoop decoder flags input) tdMemoryReferences = true ↔
      flagOn flags tdMemoryReferences = true ∨
        Meets decoder UdInstruction.ReadsMemory input) ∧
    (flagOn (tdAnalyzeLoop decoder flags input) tdInstructionsInvalid = true ↔
      flagOn flags tdInstructionsInvalid = true ∨
        Meets decoder (fun dis => dis.invalid = true) input) := by
  fun_induction tdAnalyzeLoop decoder flags input with
  | case1 flags input hdecode =>
    constructor
    · exact (or_iff_left (not_meets_of_none hdecode)).symm
    · exact (or_iff_left (not_meets_of_none hdecode)).symm
  | case2 flags input dis hdecode hshorter skip hfollow ih =>
    rw [meets_of_jump hdecode hfollow, meets_of_jump hdecode hfollow]
    exact ih
  | case3 flags input dis hdecode hshorter hfollow flags' hinvalid =>
    rw [meets_of_next hdecode hfollow, meets_of_next hdecode hfollow, flagOn_or, flagOn_or,
      show flagOn tdInstructionsInvalid tdMemoryReferences = false by decide, Bool.or_false,
      show flagOn tdInstructionsInvalid tdInstructionsInvalid = true by decide, Bool.or_true]
    constructor
    · rw [flagOn_readReferences]
      have hstops : ¬ (dis.invalid = false ∧
          Meets decoder UdInstruction.ReadsMemory (input.drop dis.length)) := by
        rw [hinvalid]
        exact fun h => absurd h.1 (by decide)
      rw [or_iff_left hstops]
    · exact iff_of_true rfl (Or.inr (Or.inl hinvalid))
  | case4 flags input dis hdecode hshorter hfollow flags' hvalid ih =>
    have hvalid' : dis.invalid = false := Bool.not_eq_true _ ▸ hvalid
    rw [meets_of_next hdecode hfollow, meets_of_next hdecode hfollow, ih.1, ih.2]
    constructor
    · rw [flagOn_readReferences, or_assoc, and_iff_right hvalid']
    · rw [flagOn_readReferences_invalid, and_iff_right hvalid', or_iff_right hvalid]

end Scan

/-! ## What is overlooked -/

section Flow

variable {decoder : FlowDecoder} {start : List UInt8}

/-- A forward jump is followed, to where it leads. -/
theorem tdDisFollowForwardJump_forward {input : List UInt8} {dis : UdInstruction}
    (hdecode : decoder.decode input = some dis) (hjump : dis.operand0.type = .jimm)
    (hforward : 0 < dis.operand0.displacement) :
    tdDisFollowForwardJump dis = some dis.operand0.displacement.toNat := by
  have hlt := decoder.zero_extended input dis hdecode hjump
  have hlt' : (dis.operand0.uqword.toNat : Int) < (2 : Int) ^ dis.operand0.size := by
    exact_mod_cast hlt
  unfold UdOperand.displacement at hforward ⊢
  split at hforward
  next hsmall =>
    rw [if_pos hsmall, Int.toNat_natCast]
    unfold tdDisFollowForwardJump
    have hpos : dis.operand0.uqword > 0 := UInt64.lt_iff_toNat_lt.mpr (by exact_mod_cast hforward)
    have hsize : dis.operand0.size > 0 := by
      by_cases hsize : dis.operand0.size = 0
      · rw [hsize] at hlt
        omega
      · exact Nat.pos_of_ne_zero hsize
    rw [if_pos ⟨hjump, hsize, hpos⟩]
  next => omega

/-- **The two ways part behind a jump only.** If the scan meets no read and no jump leaves
one behind, execution comes to none. -/
theorem LeavesNoRead.not_mayRead (h : LeavesNoRead decoder start)
    (hread : ¬ Meets decoder.toDecoder UdInstruction.ReadsMemory start) :
    ¬ MayRead decoder start := by
  rintro ⟨input, dis, hflow, hdecode, hreads⟩
  -- the scan is with execution until that leaves a jump the scan follows
  have halong : ∀ at_, ReflTransGen (FlowStep decoder) at_ input →
      ReflTransGen (ScanStep decoder.toDecoder) start at_ →
      ReflTransGen (FlowStep decoder) start at_ → False := by
    intro at_ hrest
    induction hrest using ReflTransGen.head_induction_on with
    | refl =>
      intro hscanned hflowed
      cases hfollow : tdDisFollowForwardJump dis with
      | none => exact hread ⟨input, dis, hscanned, hdecode, hfollow, hreads⟩
      | some skip => exact (h input dis skip hflowed hdecode hfollow).1 hreads
    | head hstep hrest ih =>
      intro hscanned hflowed
      cases hstep with
      | next here hhere hvalid hfalls =>
        cases hfollow : tdDisFollowForwardJump here with
        | none =>
          exact ih (hscanned.tail (.next here hhere hfollow hvalid))
            (hflowed.tail (.next here hhere hvalid hfalls))
        | some skip =>
          exact (h _ here skip hflowed hhere hfollow).2 hvalid hfalls
            ⟨input, dis, hrest, hdecode, hreads⟩
      | jump here hhere hvalid hjump hforward =>
        exact ih (hscanned.tail (.jump here _ hhere
            (tdDisFollowForwardJump_forward hhere hjump hforward)))
          (hflowed.tail (.jump here hhere hvalid hjump hforward))
  exact halong start hflow .refl .refl

/-- Code that does not read leaves none. -/
theorem leavesNoRead_of_not_mayRead (h : ¬ MayRead decoder start) : LeavesNoRead decoder start := by
  intro input dis skip hflow hdecode _
  refine ⟨fun hreads => h ⟨input, dis, hflow, hdecode, hreads⟩, fun hvalid hfalls hrest => ?_⟩
  obtain ⟨other, dis', hflow', hdecode', hreads⟩ := hrest
  exact h ⟨other, dis', (hflow.tail (.next dis hdecode hvalid hfalls)).trans hflow', hdecode',
    hreads⟩

/-- Execution goes on in the code. -/
theorem flow_drop {input : List UInt8} (h : ReflTransGen (FlowStep decoder) start input) :
    ∃ n, input = start.drop n := by
  induction h with
  | refl => exact ⟨0, rfl⟩
  | tail _ hstep ih =>
    obtain ⟨n, rfl⟩ := ih
    cases hstep with
    | next dis => exact ⟨n + dis.length, by rw [List.drop_drop]⟩
    | jump dis =>
      exact ⟨n + dis.length + dis.operand0.displacement.toNat, by
        rw [List.drop_drop, List.drop_drop, Nat.add_assoc]⟩

/-- Code without jumps leaves none behind. -/
theorem leavesNoRead_of_straight
    (h : ∀ n dis, decoder.decode (start.drop n) = some dis → tdDisFollowForwardJump dis = none) :
    LeavesNoRead decoder start := by
  intro input dis skip hflow hdecode hfollow
  obtain ⟨n, rfl⟩ := flow_drop hflow
  exact absurd (hfollow.symm.trans (h n dis hdecode)) (Option.some_ne_none skip)

end Flow

/-- **No memory read is overlooked** if no jump that the scan follows has one behind. If one
has, none is overlooked only where the scan sets a flag for another instruction. -/
theorem noReadOverlooked_or_flagged (decoder : FlowDecoder) (code : List UInt8) (size : UInt64) :
    (LeavesNoRead decoder (code.take size.toNat) → NoReadOverlooked decoder code size) ∧
      (¬ LeavesNoRead decoder (code.take size.toNat) → NoReadOverlooked decoder code size →
        tdAnalyzeDissasembledInstructions decoder.toDecoder 0 code size ≠ 0) := by
  have hmemory := (flagOn_tdAnalyzeLoop decoder.toDecoder 0 (code.take size.toNat)).1
  rw [or_iff_right (show ¬ flagOn 0 tdMemoryReferences = true by decide)] at hmemory
  unfold NoReadOverlooked tdAnalyzeDissasembledInstructions
  constructor
  · intro hleaves _ hread
    rw [hmemory]
    by_contra hmeets
    exact hleaves.not_mayRead hmeets hread
  · intro hleft hno hzero
    have hread : MayRead decoder (code.take size.toNat) := by
      by_contra hnone
      exact hleft (leavesNoRead_of_not_mayRead hnone)
    have hflagged := hno (by rw [hzero]; decide) hread
    rw [hzero] at hflagged
    exact absurd hflagged (by decide)

/-- The disassembler on short jumps if zero (`74 xx`) and loads (`8B xx`). -/
def loadDecoder : FlowDecoder where
  decode
    | [] => none
    | 0x74 :: displacement :: _ => some ⟨2, false, ⟨.jimm, 8, displacement.toUInt64⟩,
        ⟨.other, 0, 0⟩, ⟨.other, 0, 0⟩⟩
    | 0x8B :: _ :: _ => some ⟨2, false, ⟨.other, 32, 0⟩, ⟨.mem, 32, 0⟩, ⟨.other, 0, 0⟩⟩
    | _ :: _ => some ⟨1, false, ⟨.other, 0, 0⟩, ⟨.other, 0, 0⟩, ⟨.other, 0, 0⟩⟩
  decode_nil := rfl
  progress := by
    intro input dis h
    split at h
    next => exact absurd h (by simp)
    next =>
      obtain rfl := Option.some.inj h
      exact Nat.le_of_ble_eq_true rfl
    next =>
      obtain rfl := Option.some.inj h
      exact Nat.le_of_ble_eq_true rfl
    next =>
      obtain rfl := Option.some.inj h
      exact Nat.le_of_ble_eq_true rfl
  fallsThrough _ := true
  zero_extended := by
    intro input dis h hjump
    split at h
    next => exact absurd h (by simp)
    next displacement rest =>
      obtain rfl := Option.some.inj h
      show displacement.toUInt64.toNat < 2 ^ 8
      rw [UInt8.toNat_toUInt64]
      exact displacement.toNat_lt
    next =>
      obtain rfl := Option.some.inj h
      exact absurd hjump (by decide)
    next =>
      obtain rfl := Option.some.inj h
      exact absurd hjump (by decide)

/-- A `nop` and a load. -/
theorem noReadOverlooked_load : NoReadOverlooked loadDecoder [0x90, 0x8B, 0x00] 3 := by
  refine (noReadOverlooked_or_flagged loadDecoder [0x90, 0x8B, 0x00] 3).1
    (leavesNoRead_of_straight fun n dis hdecode => ?_)
  match n, hdecode with
  | 0, hdecode | 1, hdecode | 2, hdecode =>
    obtain rfl := Option.some.inj hdecode
    rfl
  | n + 3, hdecode => exact absurd hdecode (by simp [loadDecoder])

/-- A backward conditional jump, and a load: `jz $-2; mov eax, [rax]`. The scan skips 254
bytes and is done. -/
theorem not_noReadOverlooked_backward :
    ¬ NoReadOverlooked loadDecoder [0x74, 0xFC, 0x8B, 0x00] 4 := by
  intro h
  have hread : MayRead loadDecoder [0x74, 0xFC, 0x8B, 0x00] :=
    ⟨[0x8B, 0x00], _, .single (.next
      ⟨2, false, ⟨.jimm, 8, 0xFC⟩, ⟨.other, 0, 0⟩, ⟨.other, 0, 0⟩⟩ rfl rfl rfl), rfl, by decide,
      by decide⟩
  have hflags : tdAnalyzeDissasembledInstructions loadDecoder.toDecoder 0
      [0x74, 0xFC, 0x8B, 0x00] 4 = 0 := by
    decide +kernel
  have hfound := h (by rw [hflags]; decide) hread
  rw [hflags] at hfound
  exact absurd hfound (by decide)

end DeepShield.Td
