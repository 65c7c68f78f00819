import DeepShield.Vmx.Cr4

/-!
# Runs of the routines that write CR4

Three properties of any order of moves to CR4 and switches of TSD:

* the guest reads back what it wrote, made compliant, with TSD as it wrote it
  and VMXE clear (`reads_back`);
* CR4 can always be entered with: it has the bits that must be set and no others
  than may be (`always_enterable`);
* a move to CR4 does not switch TSD, except when the quantum has TSD clear and
  the guest's previous move had set it (`tsdKept_iff`): `VmGetGuestVisibleCr4`
  lets TSD of the read shadow through into `GUEST_CR4`, next to the quantum's.
-/

namespace DeepShield.Vmx

open DeepShield.Lib

/-! ## Runs -/

/-- What happens to CR4 once the VMCS is set up. -/
inductive Cr4Event
  | movToCr4 (operand : UInt64)
  | hvmTrimTsdForQuantum (enableTsd : Bool)
deriving Repr, DecidableEq

/-- All that happens to it. -/
inductive Cr4Action
  | vmcsSetGuestField (cr4 : UInt64)
  | vmSetPrivilegedTimeStamp
  | event (event : Cr4Event)
deriving Repr, DecidableEq

/-- One event. -/
def cr4Event (fixed : Cr4Fixed) (vmcs : Cr4Vmcs) : Cr4Event → Cr4Vmcs
  | .movToCr4 operand => instrCr4MovTo fixed operand vmcs
  | .hvmTrimTsdForQuantum enableTsd => hvmTrimTsdForQuantum fixed enableTsd vmcs

/-- One action. -/
def cr4Step (fixed : Cr4Fixed) (vmcs : Cr4Vmcs) : Cr4Action → Option Cr4Vmcs
  | .vmcsSetGuestField cr4 => some (vmcsSetGuestField fixed cr4)
  | .vmSetPrivilegedTimeStamp => some (vmSetPrivilegedTimeStamp vmcs)
  | .event event => some (cr4Event fixed vmcs event)

/-- `VmcsSetGuestField`, then `DsHvmSetupVmcs`. -/
def dsHvmSetupVmcs (fixed : Cr4Fixed) (cr4 : UInt64) : Cr4Vmcs :=
  vmSetPrivilegedTimeStamp (vmcsSetGuestField fixed cr4)

/-! ## Reading back -/

/-- A state and the operand of the last move to CR4. -/
structure LastMove where
  vmcs : Cr4Vmcs
  operand : Option UInt64

/-- One event, with the operand remembered. -/
def lastMoveStep (fixed : Cr4Fixed) (last : LastMove) (event : Cr4Event) : Option LastMove :=
  some
    { vmcs := cr4Event fixed last.vmcs event
      operand :=
        match event with
        | .movToCr4 operand => some operand
        | .hvmTrimTsdForQuantum _ => last.operand }

/-- The guest reads `operand` made compliant, except that TSD is that of
`operand` itself and VMXE is clear. -/
structure ReadsBack (fixed : Cr4Fixed) (operand : UInt64) (vmcs : Cr4Vmcs) : Prop where
  others : guestReads vmcs &&& ~~~(cr4Tsd ||| cr4Vmxe)
    = vmMakeCompliantCr4 fixed operand &&& ~~~(cr4Tsd ||| cr4Vmxe)
  tsd : guestReads vmcs &&& cr4Tsd = operand &&& cr4Tsd
  vmxe : guestReads vmcs &&& cr4Vmxe = 0

/-- So it does after its last move to CR4. -/
def LastReadBack (fixed : Cr4Fixed) (last : LastMove) : Prop :=
  ∀ operand, last.operand = some operand → ReadsBack fixed operand last.vmcs

/-- The host owns VMXE and TSD, and shows the guest no bit set but TSD. -/
structure HostOwned (vmcs : Cr4Vmcs) : Prop where
  mask : vmcs.cr4GuestHostMask = cr4Vmxe ||| cr4Tsd
  shadow : Within vmcs.cr4ReadShadow cr4Tsd

/-- The fields after a move of `operand`. -/
structure Moved (fixed : Cr4Fixed) (operand : UInt64) (vmcs : Cr4Vmcs) : Prop where
  guest : ∀ i < 64, bit vmcs.cr4GuestHostMask i = false →
    bit vmcs.guestCr4 i = bit (vmMakeCompliantCr4 fixed operand) i
  shadow : vmcs.cr4ReadShadow = operand &&& cr4Tsd

/-- What holds after any number of events. -/
def LastInv (fixed : Cr4Fixed) (last : LastMove) : Prop :=
  HostOwned last.vmcs ∧ ∀ operand, last.operand = some operand → Moved fixed operand last.vmcs

section ReadBack

variable {fixed : Cr4Fixed} {vmcs : Cr4Vmcs} {operand : UInt64} {i : Nat}

theorem bit_tsd_vmxe (i : Nat) : (bit cr4Tsd i && bit cr4Vmxe i) = false := by
  have hdisjoint := bit_congr (show cr4Tsd &&& cr4Vmxe = 0 from rfl) i
  rwa [bit_and, bit_zero] at hdisjoint

/-- The host-owned bits. -/
theorem HostOwned.bit_mask (h : HostOwned vmcs) (i : Nat) :
    bit vmcs.cr4GuestHostMask i = (bit cr4Vmxe i || bit cr4Tsd i) := by
  rw [h.mask, bit_or]

/-- Switching TSD, one way or the other. -/
theorem hvmTrimTsdForQuantum_cases (fixed : Cr4Fixed) (enableTsd : Bool) (vmcs : Cr4Vmcs) :
    hvmTrimTsdForQuantum fixed enableTsd vmcs = vmcs ∨
      hvmTrimTsdForQuantum fixed enableTsd vmcs
        = { vmcs with guestCr4 := vmMakeCompliantCr4 fixed vmcs.guestCr4 ^^^ cr4Tsd } := by
  unfold hvmTrimTsdForQuantum
  simp only
  split
  next => exact Or.inl rfl
  next => exact Or.inr rfl

/-- After the VMCS is set up. -/
theorem hostOwned_dsHvmSetupVmcs (fixed : Cr4Fixed) (cr4 : UInt64) :
    HostOwned (dsHvmSetupVmcs fixed cr4) where
  mask := rfl
  shadow := by
    refine within_of_bit fun i _ hi => ?_
    have hzero : bit ((0 : UInt64) &&& (vmMakeCompliantCr4 fixed cr4 &&& cr4Tsd)) i = true := hi
    rw [bit_and, bit_zero, Bool.false_and] at hzero
    exact absurd hzero (by decide)

/-- A move puts TSD of its operand into the shadow, and nothing else. -/
theorem HostOwned.shadow_movTo (h : HostOwned vmcs) :
    (instrCr4MovTo fixed operand vmcs).cr4ReadShadow = operand &&& cr4Tsd := by
  show (vmcs.cr4ReadShadow &&& ~~~cr4Tsd) ||| (operand &&& cr4Tsd) = _
  refine eq_of_bit fun i hi => ?_
  have hwithin := @Within.bit vmcs.cr4ReadShadow cr4Tsd i h.shadow
  rw [bit_or, bit_and, bit_not hi]
  cases hshadow : bit vmcs.cr4ReadShadow i with
  | false => rw [Bool.false_and, Bool.false_or]
  | true => rw [hwithin hshadow, Bool.not_true, Bool.and_false, Bool.false_or]

/-- What is left in the shadow is within TSD. -/
theorem within_and_tsd (operand : UInt64) : Within (operand &&& cr4Tsd) cr4Tsd := by
  refine within_of_bit fun i _ hi => ?_
  rw [bit_and, Bool.and_eq_true] at hi
  exact hi.2

/-- **A move to CR4 is made.** -/
theorem HostOwned.moved (h : HostOwned vmcs) :
    HostOwned (instrCr4MovTo fixed operand vmcs) ∧
      Moved fixed operand (instrCr4MovTo fixed operand vmcs) := by
  have hshadow := @HostOwned.shadow_movTo fixed vmcs operand h
  refine ⟨⟨h.mask, ?_⟩, ⟨fun i hi hmask => ?_, hshadow⟩⟩
  · rw [hshadow]
    exact within_and_tsd operand
  · have hmask' : bit vmcs.cr4GuestHostMask i = false := hmask
    have htsd : bit cr4Tsd i = false := by
      rw [h.bit_mask, Bool.or_eq_false_iff] at hmask'
      exact hmask'.2
    show bit (vmMakeCompliantCr4 fixed (vmGetGuestVisibleCr4 vmcs operand) |||
      (vmcs.guestCr4 &&& cr4Tsd)) i = _
    rw [bit_or, bit_and, htsd, Bool.and_false, Bool.or_false, bit_vmMakeCompliantCr4,
      bit_vmMakeCompliantCr4, bit_vmGetGuestVisibleCr4 hi, hmask', Bool.not_false, Bool.and_true,
      Bool.and_false, Bool.or_false]

/-- Switching TSD undoes nothing of it. -/
theorem Moved.trim (hown : HostOwned vmcs) (h : Moved fixed operand vmcs) (enableTsd : Bool) :
    Moved fixed operand (hvmTrimTsdForQuantum fixed enableTsd vmcs) := by
  rcases hvmTrimTsdForQuantum_cases fixed enableTsd vmcs with hsame | hswitched
  · rw [hsame]
    exact h
  · rw [hswitched]
    refine ⟨fun i hi hmask => ?_, h.shadow⟩
    have hmask' : bit vmcs.cr4GuestHostMask i = false := hmask
    have hguest := h.guest i hi hmask'
    rw [hown.bit_mask, Bool.or_eq_false_iff] at hmask'
    show bit (vmMakeCompliantCr4 fixed vmcs.guestCr4 ^^^ cr4Tsd) i = _
    rw [bit_xor, hmask'.2, Bool.xor_false, bit_vmMakeCompliantCr4, hguest,
      ← bit_vmMakeCompliantCr4, vmMakeCompliantCr4_idem]

theorem HostOwned.trim (h : HostOwned vmcs) (enableTsd : Bool) :
    HostOwned (hvmTrimTsdForQuantum fixed enableTsd vmcs) := by
  rcases hvmTrimTsdForQuantum_cases fixed enableTsd vmcs with hsame | hswitched
  · rw [hsame]
    exact h
  · rw [hswitched]
    exact ⟨h.mask, h.shadow⟩

/-- **What was moved is read back.** -/
theorem Moved.readsBack (hown : HostOwned vmcs) (h : Moved fixed operand vmcs) :
    ReadsBack fixed operand vmcs where
  others := by
    refine eq_of_bit fun i hi => ?_
    rw [bit_and, bit_and, bit_not hi, bit_or]
    cases htsd : bit cr4Tsd i with
    | true => rw [Bool.true_or, Bool.not_true, Bool.and_false, Bool.and_false]
    | false =>
      cases hvmxe : bit cr4Vmxe i with
      | true => rw [Bool.or_true, Bool.not_true, Bool.and_false, Bool.and_false]
      | false =>
        have hmask : bit vmcs.cr4GuestHostMask i = false := by
          rw [hown.bit_mask, htsd, hvmxe]
          rfl
        rw [bit_guestReads hi, hmask, h.guest i hi hmask, Bool.not_false, Bool.and_true,
          Bool.and_false, Bool.or_false]
  tsd := by
    refine eq_of_bit fun i hi => ?_
    rw [bit_and, bit_and, bit_guestReads hi, hown.bit_mask, h.shadow, bit_and]
    cases bit cr4Tsd i with
    | false => rw [Bool.and_false, Bool.and_false]
    | true => rw [Bool.or_true, Bool.not_true, Bool.and_false, Bool.false_or, Bool.and_true,
        Bool.and_true, Bool.and_true]
  vmxe := by
    refine eq_of_bit fun i hi => ?_
    have hdisjoint := bit_tsd_vmxe i
    rw [bit_and, bit_zero, bit_guestReads hi, hown.bit_mask, h.shadow, bit_and]
    cases hvmxe : bit cr4Vmxe i with
    | false => rw [Bool.and_false]
    | true =>
      rw [hvmxe, Bool.and_true] at hdisjoint
      rw [hdisjoint, Bool.and_false, Bool.true_or, Bool.not_true, Bool.and_false, Bool.false_and,
        Bool.or_false, Bool.false_and]

end ReadBack

/-- An event keeps what is known. -/
theorem LastInv.step {fixed : Cr4Fixed} {last last' : LastMove} {event : Cr4Event}
    (h : LastInv fixed last) (hstep : lastMoveStep fixed last event = some last') :
    LastInv fixed last' := by
  obtain ⟨hown, hmoved⟩ := h
  obtain rfl := Option.some.inj hstep
  cases event with
  | movToCr4 operand =>
    obtain ⟨hown', hmoved'⟩ := @HostOwned.moved fixed last.vmcs operand hown
    refine ⟨hown', fun v hv => ?_⟩
    obtain rfl := Option.some.inj hv
    exact hmoved'
  | hvmTrimTsdForQuantum enableTsd =>
    exact ⟨hown.trim enableTsd, fun v hv => (hmoved v hv).trim hown enableTsd⟩

/-- **The guest reads back what it wrote.** From any state the VMCS can be set up
in, after every move to CR4 and until the next one, whatever TSD is switched to
meanwhile. -/
theorem reads_back (fixed : Cr4Fixed) (cr4 : UInt64) (events : List Cr4Event) :
    Always (lastMoveStep fixed) (LastReadBack fixed) ⟨dsHvmSetupVmcs fixed cr4, none⟩ events := by
  refine always_of_inv (fun h operand hlast => ?_) (fun h hstep => LastInv.step h hstep)
    ⟨hostOwned_dsHvmSetupVmcs fixed cr4, fun operand hnone => absurd hnone (by simp)⟩
  exact (h.2 operand hlast).readsBack h.1

/-! ## Entering -/

/-- CR4 has every bit that must be set, and only bits that may be. -/
def Enterable (constraints : Cr4Constraints) (vmcs : Cr4Vmcs) : Prop :=
  Within constraints.cr4Maybe0 vmcs.guestCr4 ∧ Within vmcs.guestCr4 constraints.cr4Maybe1

/-- The capability MSRs: what must be set may be set, and TSD is flexible. -/
structure TsdFlexible (constraints : Cr4Constraints) : Prop where
  included : Within constraints.cr4Maybe0 constraints.cr4Maybe1
  maySet : Within cr4Tsd constraints.cr4Maybe1
  mayClear : cr4Tsd &&& constraints.cr4Maybe0 = 0

section Enter

variable {constraints : Cr4Constraints} {vmcs : Cr4Vmcs} {i : Nat}

/-- The fixed masks are the two MSRs. -/
theorem TsdFlexible.fixed (h : TsdFlexible constraints) :
    (vmInitializeVmState constraints).cr4Fixed1 = constraints.cr4Maybe0 ∧
      (vmInitializeVmState constraints).cr4Fixed0 = constraints.cr4Maybe1 := by
  refine ⟨h.included, eq_of_bit fun i _ => ?_⟩
  have hincluded := @Within.bit _ _ i h.included
  show bit (constraints.cr4Maybe0 ||| constraints.cr4Maybe1) i = _
  rw [bit_or]
  cases hmust : bit constraints.cr4Maybe0 i with
  | false => rfl
  | true => rw [hincluded hmust]; rfl

/-- A value made compliant can be entered with. -/
theorem TsdFlexible.compliant (h : TsdFlexible constraints) (value : UInt64) :
    Within constraints.cr4Maybe0 (vmMakeCompliantCr4 (vmInitializeVmState constraints) value) ∧
      Within (vmMakeCompliantCr4 (vmInitializeVmState constraints) value)
        constraints.cr4Maybe1 := by
  obtain ⟨hfixed1, hfixed0⟩ := h.fixed
  constructor
  · refine within_of_bit fun i _ hmust => ?_
    rw [bit_vmMakeCompliantCr4, hfixed1, hmust, Bool.or_true]
  · refine within_of_bit fun i _ hset => ?_
    rw [bit_vmMakeCompliantCr4, hfixed0, hfixed1, Bool.or_eq_true, Bool.and_eq_true] at hset
    rcases hset with ⟨_, hmay⟩ | hmust
    · exact hmay
    · exact h.included.bit hmust

/-- A bit that must be set is not TSD. -/
theorem TsdFlexible.must (h : TsdFlexible constraints)
    (hmust : bit constraints.cr4Maybe0 i = true) : bit cr4Tsd i = false := by
  have hclear := bit_congr h.mayClear i
  rwa [bit_and, bit_zero, hmust, Bool.and_true] at hclear

/-- Adding TSD, or bits that are set already. -/
theorem Enterable.or (h : TsdFlexible constraints) {value extra : UInt64}
    (hvalue : Within constraints.cr4Maybe0 value ∧ Within value constraints.cr4Maybe1)
    (hextra : Within extra cr4Tsd) :
    Within constraints.cr4Maybe0 (value ||| extra) ∧
      Within (value ||| extra) constraints.cr4Maybe1 := by
  constructor
  · refine within_of_bit fun i _ hmust => ?_
    rw [bit_or, hvalue.1.bit hmust, Bool.true_or]
  · refine within_of_bit fun i _ hset => ?_
    rw [bit_or, Bool.or_eq_true] at hset
    rcases hset with hset | hset
    · exact hvalue.2.bit hset
    · exact h.maySet.bit (hextra.bit hset)

/-- Switching TSD in a value that can be entered with. -/
theorem Enterable.xor_tsd (h : TsdFlexible constraints) {value : UInt64}
    (hvalue : Within constraints.cr4Maybe0 value ∧ Within value constraints.cr4Maybe1) :
    Within constraints.cr4Maybe0 (value ^^^ cr4Tsd) ∧
      Within (value ^^^ cr4Tsd) constraints.cr4Maybe1 := by
  constructor
  · refine within_of_bit fun i _ hmust => ?_
    rw [bit_xor, hvalue.1.bit hmust, h.must hmust]
    rfl
  · refine within_of_bit fun i _ hset => ?_
    rw [bit_xor] at hset
    cases htsd : bit cr4Tsd i with
    | true => exact h.maySet.bit htsd
    | false =>
      rw [htsd, Bool.xor_false] at hset
      exact hvalue.2.bit hset

/-- **Every routine leaves a CR4 that can be entered with.** -/
theorem Enterable.step (hflexible : TsdFlexible constraints) {vmcs' : Cr4Vmcs}
    {action : Cr4Action} (h : Enterable constraints vmcs)
    (hstep : cr4Step (vmInitializeVmState constraints) vmcs action = some vmcs') :
    Enterable constraints vmcs' := by
  cases action with
  | vmcsSetGuestField cr4 =>
    obtain rfl := Option.some.inj hstep
    exact hflexible.compliant cr4
  | vmSetPrivilegedTimeStamp =>
    obtain rfl := Option.some.inj hstep
    exact Enterable.or hflexible h (show cr4Tsd &&& cr4Tsd = cr4Tsd from rfl)
  | event event =>
    obtain rfl := Option.some.inj hstep
    cases event with
    | movToCr4 operand =>
      exact Enterable.or hflexible (hflexible.compliant _) (within_and_tsd vmcs.guestCr4)
    | hvmTrimTsdForQuantum enableTsd =>
      show Enterable constraints (hvmTrimTsdForQuantum _ enableTsd vmcs)
      rcases hvmTrimTsdForQuantum_cases (vmInitializeVmState constraints) enableTsd vmcs with
        hsame | hswitched
      · rw [hsame]
        exact h
      · rw [hswitched]
        exact Enterable.xor_tsd hflexible (hflexible.compliant vmcs.guestCr4)

end Enter

/-- **CR4 can always be entered with.** From `VmcsSetGuestField` on, after any
sequence of the four routines. -/
theorem always_enterable {constraints : Cr4Constraints} (h : TsdFlexible constraints)
    (cr4 : UInt64) (actions : List Cr4Action) :
    Always (cr4Step (vmInitializeVmState constraints)) (Enterable constraints)
      (vmcsSetGuestField (vmInitializeVmState constraints) cr4) actions :=
  always_of_inv id (fun hinv hstep => hinv.step h hstep) (h.compliant cr4)

/-- Capability MSRs of a processor. -/
def someConstraints : Cr4Constraints := ⟨0x2000, 0x3767FF⟩

/-- Set up, moved to and switched there. -/
theorem always_enterable_some :
    Always (cr4Step (vmInitializeVmState someConstraints)) (Enterable someConstraints)
      (vmcsSetGuestField (vmInitializeVmState someConstraints) 0x506F8)
      [.vmSetPrivilegedTimeStamp, .event (.hvmTrimTsdForQuantum false),
        .event (.movToCr4 0x506FC), .event (.hvmTrimTsdForQuantum true)] :=
  always_enterable ⟨by decide, by decide, by decide⟩ 0x506F8 _

/-! ## Keeping TSD -/

/-- One event, as a step. -/
def cr4EventStep (fixed : Cr4Fixed) (vmcs : Cr4Vmcs) (event : Cr4Event) : Option Cr4Vmcs :=
  some (cr4Event fixed vmcs event)

/-- A move to CR4 leaves TSD of `GUEST_CR4` as it was. -/
def TsdKept (fixed : Cr4Fixed) (vmcs : Cr4Vmcs) : Cr4Event → Prop
  | .movToCr4 operand =>
    (instrCr4MovTo fixed operand vmcs).guestCr4 &&& cr4Tsd = vmcs.guestCr4 &&& cr4Tsd
  | .hvmTrimTsdForQuantum _ => True

/-- A move to CR4 finds TSD set for the quantum, or not set in the read shadow,
made compliant. -/
def ShadowHarmless (fixed : Cr4Fixed) (vmcs : Cr4Vmcs) : Cr4Event → Prop
  | .movToCr4 _ => vmcs.guestCr4 &&& cr4Tsd ≠ 0 ∨
      vmMakeCompliantCr4 fixed vmcs.cr4ReadShadow &&& cr4Tsd = 0
  | .hvmTrimTsdForQuantum _ => True

instance (fixed : Cr4Fixed) (vmcs : Cr4Vmcs) : ∀ event, Decidable (TsdKept fixed vmcs event)
  | .movToCr4 _ => inferInstanceAs (Decidable (_ = _))
  | .hvmTrimTsdForQuantum _ => inferInstanceAs (Decidable True)

section Keep

variable {fixed : Cr4Fixed} {vmcs : Cr4Vmcs}

/-- TSD is one bit. -/
theorem bit_cr4Tsd : ∀ i < 64, bit cr4Tsd i = decide (i = 2) := by
  decide

/-- So what a word has of it is one bit, too. -/
theorem and_tsd_eq_iff {x y : UInt64} : x &&& cr4Tsd = y &&& cr4Tsd ↔ bit x 2 = bit y 2 := by
  constructor
  · intro heq
    have hbit := bit_congr heq 2
    rwa [bit_and, bit_and, bit_cr4Tsd 2 (by decide), decide_eq_true rfl, Bool.and_true,
      Bool.and_true] at hbit
  · intro heq
    refine eq_of_bit fun i hi => ?_
    rw [bit_and, bit_and, bit_cr4Tsd i hi]
    by_cases htwo : i = 2
    · rw [htwo, heq]
    · rw [decide_eq_false htwo, Bool.and_false, Bool.and_false]

theorem and_tsd_eq_zero {x : UInt64} : x &&& cr4Tsd = 0 ↔ bit x 2 = false := by
  have hzero := @and_tsd_eq_iff x 0
  rwa [UInt64.zero_and, bit_zero] at hzero

/-- **A move keeps TSD exactly if the shadow is harmless.** -/
theorem HostOwned.keepsTsd_iff (h : HostOwned vmcs) (event : Cr4Event) :
    TsdKept fixed vmcs event ↔ ShadowHarmless fixed vmcs event := by
  cases event with
  | hvmTrimTsdForQuantum enableTsd => exact Iff.rfl
  | movToCr4 operand =>
    have htsd : bit cr4Tsd 2 = true := rfl
    have hmask : bit vmcs.cr4GuestHostMask 2 = true := by
      rw [h.bit_mask, htsd, Bool.or_true]
    have hmoved : bit (instrCr4MovTo fixed operand vmcs).guestCr4 2
        = (bit (vmMakeCompliantCr4 fixed vmcs.cr4ReadShadow) 2 || bit vmcs.guestCr4 2) := by
      show bit (vmMakeCompliantCr4 fixed (vmGetGuestVisibleCr4 vmcs operand) |||
        (vmcs.guestCr4 &&& cr4Tsd)) 2 = _
      rw [bit_or, bit_and, htsd, Bool.and_true, bit_vmMakeCompliantCr4, bit_vmMakeCompliantCr4,
        bit_vmGetGuestVisibleCr4 (by decide), hmask, Bool.not_true, Bool.and_false, Bool.false_or,
        Bool.and_true]
    show _ &&& cr4Tsd = _ &&& cr4Tsd ↔ _ &&& cr4Tsd ≠ 0 ∨ _ &&& cr4Tsd = 0
    rw [and_tsd_eq_iff, hmoved, ne_eq, and_tsd_eq_zero, and_tsd_eq_zero]
    cases bit vmcs.guestCr4 2 <;>
      cases bit (vmMakeCompliantCr4 fixed vmcs.cr4ReadShadow) 2 <;> decide

end Keep

/-- **TSD stays the host's exactly as long as the shadow is harmless.** In every
run of the set up VMCS. -/
theorem tsdKept_iff (fixed : Cr4Fixed) (cr4 : UInt64) (events : List Cr4Event) :
    Throughout (cr4EventStep fixed) (TsdKept fixed) (dsHvmSetupVmcs fixed cr4) events ↔
      Throughout (cr4EventStep fixed) (ShadowHarmless fixed) (dsHvmSetupVmcs fixed cr4) events := by
  refine throughout_iff (fun {vmcs event} h _ => h.keepsTsd_iff event) ?_
    (hostOwned_dsHvmSetupVmcs fixed cr4) (fun _ _ => trivial)
  intro vmcs event vmcs' h _ _ hstep
  obtain rfl := Option.some.inj hstep
  cases event with
  | movToCr4 operand => exact h.moved.1
  | hvmTrimTsdForQuantum enableTsd => exact h.trim enableTsd

/-- The guest sets TSD, an exempted thread is given its quantum, and the guest
moves to CR4 again. -/
theorem not_tsdKept_shadow :
    ¬ Throughout (cr4EventStep (vmInitializeVmState someConstraints))
      (TsdKept (vmInitializeVmState someConstraints))
      (dsHvmSetupVmcs (vmInitializeVmState someConstraints) 0x506F8)
      [.movToCr4 0x506FC, .hvmTrimTsdForQuantum false, .movToCr4 0x506F8] := by
  decide

end DeepShield.Vmx
