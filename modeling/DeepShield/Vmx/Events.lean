import DeepShield.Vmx.Handlers
import DeepShield.Vmx.UserExits

/-!
# The events that are queued

VM entry delivers the event described by `VM_ENTRY_INTERRUPTION_INFORMATION`, and
refuses to enter with a word whose reserved bits are set or whose error code does not
fit the exception. Five routines write the word: two reflect the event of the exit, the
others raise one of their own.

`VmInjectInterruptOrException` assigns four bit fields of a local that nothing
initialises, and copies the word with whatever was in the other bits. The table
`ExceptionType` knows whether a vector has an error code, and `VmInjectHardwareException`
trusts it over the exit (only assertions compare the two). `legalEvent_iff` is about all
five paths and every exit information.
-/

namespace DeepShield.Vmx

/-- The routines that queue an event. -/
inductive EventPath
  | vmInjectHardwareException
  | vmInjectInterruptOrException
  | vmInjectUdException
  | vmInjectGpException (errorCode : UInt32)
  | injectInt1
deriving Repr, DecidableEq

namespace EventPath

/-- The event queued by a path. -/
def queue (env : ExitEnvironment) (vcpu : Vcpu) : EventPath → Vcpu
  | vmInjectHardwareException =>
    Vmx.vmInjectHardwareException vcpu.vmcs.exitInterruptionInformation vcpu
  | vmInjectInterruptOrException =>
    Vmx.vmInjectInterruptOrException env vcpu.vmcs.exitInterruptionInformation vcpu
  | vmInjectUdException => Vmx.vmInjectUdException vcpu
  | vmInjectGpException errorCode => Vmx.vmInjectGpException errorCode vcpu
  | injectInt1 => Vmx.injectInt1 vcpu

/-- The path passes the event of the exit on. -/
def Reflects : EventPath → Prop
  | vmInjectHardwareException | vmInjectInterruptOrException => True
  | vmInjectUdException | vmInjectGpException _ | injectInt1 => False

/-- The exits at which a path is taken: `DsHvmExitHandler` reflects #UD and #GP by one
routine and every other event by the other. -/
def Taken (info : UInt32) : EventPath → Prop
  | vmInjectHardwareException => hwExceptionUdOrGp info = true
  | vmInjectInterruptOrException => hwExceptionUdOrGp info = false
  | vmInjectUdException | vmInjectGpException _ | injectInt1 => True

/-- The error code that goes with the event, if it has one. -/
def carried (vcpu : Vcpu) : EventPath → Option UInt32
  | vmInjectHardwareException | vmInjectInterruptOrException =>
    if errorCodeValid vcpu.vmcs.exitInterruptionInformation then
      some vcpu.vmcs.exitInterruptionErrorCode
    else none
  | vmInjectGpException errorCode => some errorCode
  | vmInjectUdException | injectInt1 => none

/-- Where the event is legal: what the local held is clear where nothing is assigned,
and the table agrees with the exit on the error code. -/
def Faithful (env : ExitEnvironment) (info : UInt32) : EventPath → Prop
  | vmInjectHardwareException =>
    errorCodeValid info = true ↔ vectorOf info = vectorGeneralProtectionException
  | vmInjectInterruptOrException => env.interruptControl &&& 0x7FFFF000 = 0
  | vmInjectUdException | vmInjectGpException _ | injectInt1 => True

end EventPath

/-- The event queued is one that can be delivered, and the one that was meant. -/
structure LegalEvent (path : EventPath) (vcpu vcpu' : Vcpu) : Prop where
  valid : vcpu'.vmcs.vmEntryInterruptionInformation &&& vmxIntInfoValid ≠ 0
  reserved : vcpu'.vmcs.vmEntryInterruptionInformation &&& 0x7FFFF000 = 0
  reflected : path.Reflects →
    vectorOf vcpu'.vmcs.vmEntryInterruptionInformation
        = vectorOf vcpu.vmcs.exitInterruptionInformation ∧
      interruptTypeOf vcpu'.vmcs.vmEntryInterruptionInformation
        = interruptTypeOf vcpu.vmcs.exitInterruptionInformation
  deliverErrorCode :
    interruptTypeOf vcpu'.vmcs.vmEntryInterruptionInformation = interruptHardwareException →
      errorCodeValid vcpu'.vmcs.vmEntryInterruptionInformation = (path.carried vcpu).isSome
  errorCode : errorCodeValid vcpu'.vmcs.vmEntryInterruptionInformation = true →
    path.carried vcpu = some vcpu'.vmcs.vmEntryExceptionErrorCode

/-! ## Fields of the word -/

section Fields

variable {x y mask : UInt32}

theorem or_and_mask : (x ||| y) &&& mask = (x &&& mask) ||| (y &&& mask) :=
  UInt32.toBitVec_inj.mp BitVec.and_or_distrib_right

theorem interruptTypeOf_eq (info : UInt32) : interruptTypeOf info = (info &&& 0x700) >>> 8 := by
  rw [UInt32.shiftRight_and]
  rfl

/-- A field that was assigned is the one of the exit, whatever the local held. -/
theorem assigned_and (hrest : 0x7FFFF000 &&& mask = 0) (hassigned : 0x80000FFF &&& mask = mask) :
    ((x &&& 0x7FFFF000) ||| (y &&& 0x80000FFF)) &&& mask = y &&& mask := by
  rw [or_and_mask, UInt32.and_assoc, UInt32.and_assoc, hrest, hassigned, UInt32.and_zero,
    UInt32.zero_or]

/-- The rest is what the local held. -/
theorem unassigned_and :
    ((x &&& 0x7FFFF000) ||| (y &&& 0x80000FFF)) &&& 0x7FFFF000 = x &&& 0x7FFFF000 := by
  rw [or_and_mask, UInt32.and_assoc, UInt32.and_assoc, UInt32.and_self,
    show (0x80000FFF : UInt32) &&& 0x7FFFF000 = 0 from rfl, UInt32.and_zero, UInt32.or_zero]

end Fields

/-! ## Reflecting -/

section Reflecting

variable {env : ExitEnvironment} {path : EventPath} {vcpu : Vcpu}

/-- What is reflected carries an error code exactly if the exit did. -/
theorem EventPath.Reflects.carried (h : path.Reflects) :
    path.carried vcpu = if errorCodeValid vcpu.vmcs.exitInterruptionInformation then
        some vcpu.vmcs.exitInterruptionErrorCode
      else none := by
  cases path with
  | vmInjectHardwareException => rfl
  | vmInjectInterruptOrException => rfl
  | vmInjectUdException => exact h.elim
  | vmInjectGpException errorCode => exact h.elim
  | injectInt1 => exact h.elim

theorem EventPath.Reflects.carried_isSome (h : path.Reflects) :
    (path.carried vcpu).isSome = errorCodeValid vcpu.vmcs.exitInterruptionInformation := by
  rw [h.carried]
  cases errorCodeValid vcpu.vmcs.exitInterruptionInformation <;> rfl

/-- The error code of the exit is passed on where there is one. -/
theorem EventPath.Reflects.carried_eq (h : path.Reflects)
    (hcode : errorCodeValid vcpu.vmcs.exitInterruptionInformation = true) :
    path.carried vcpu = some (path.queue env vcpu).vmcs.vmEntryExceptionErrorCode := by
  rw [h.carried, if_pos hcode]
  cases path with
  | vmInjectHardwareException => exact congrArg some (if_pos hcode).symm
  | vmInjectInterruptOrException => exact congrArg some (if_pos hcode).symm
  | vmInjectUdException => exact h.elim
  | vmInjectGpException errorCode => exact h.elim
  | injectInt1 => exact h.elim

/-- The word for #UD and #GP is looked up. -/
theorem queue_hardwareException_word (env : ExitEnvironment) {vector : UInt32}
    (hvector : vectorOf vcpu.vmcs.exitInterruptionInformation = vector) :
    (EventPath.vmInjectHardwareException.queue env vcpu).vmcs.vmEntryInterruptionInformation
      = vmxIntInfoValid ||| (exceptionType vector <<< 8) ||| vector := by
  rw [← hvector]
  rfl

/-- **#UD and #GP reflected**: legal where the exit agrees with the table. -/
theorem legalEvent_hardwareException (env : ExitEnvironment)
    (htaken : hwExceptionUdOrGp vcpu.vmcs.exitInterruptionInformation = true) :
    LegalEvent .vmInjectHardwareException vcpu (EventPath.vmInjectHardwareException.queue env vcpu)
      ↔ (errorCodeValid vcpu.vmcs.exitInterruptionInformation = true ↔
        vectorOf vcpu.vmcs.exitInterruptionInformation = vectorGeneralProtectionException) := by
  have hreflects : EventPath.vmInjectHardwareException.Reflects := trivial
  unfold hwExceptionUdOrGp at htaken
  rw [Bool.and_eq_true, Bool.or_eq_true, beq_iff_eq, beq_iff_eq, beq_iff_eq] at htaken
  obtain ⟨htype, hud | hgp⟩ := htaken
  · -- #UD: never with an error code
    have hword := queue_hardwareException_word env hud
    have hother : ¬ vectorInvalidOpcodeException = vectorGeneralProtectionException := by decide
    rw [hud, iff_false_right hother]
    constructor
    · intro hlegal hcode
      have hdeliver := hlegal.deliverErrorCode (by rw [hword]; decide)
      rw [hreflects.carried_isSome, hcode, hword] at hdeliver
      exact absurd hdeliver (by decide)
    · intro hcode
      refine ⟨by rw [hword]; decide, by rw [hword]; decide, fun _ => ?_, fun _ => ?_, fun h => ?_⟩
      · rw [hword, hud, htype]
        decide
      · rw [hreflects.carried_isSome, hword, Bool.not_eq_true _ |>.mp hcode]
        decide
      · rw [hword] at h
        exact absurd h (by decide)
  · -- #GP: always with one
    have hword := queue_hardwareException_word env hgp
    rw [hgp, iff_true_right rfl]
    constructor
    · intro hlegal
      have hdeliver := hlegal.deliverErrorCode (by rw [hword]; decide)
      rw [hreflects.carried_isSome, hword] at hdeliver
      exact hdeliver.symm.trans (by decide)
    · intro hcode
      refine ⟨by rw [hword]; decide, by rw [hword]; decide, fun _ => ?_, fun _ => ?_, fun _ => ?_⟩
      · rw [hword, hgp, htype]
        decide
      · rw [hreflects.carried_isSome, hword, hcode]
        decide
      · exact hreflects.carried_eq hcode

/-- **Any other event reflected**: legal where the local was clear. -/
theorem legalEvent_interruptOrException (env : ExitEnvironment)
    (hvalid : vcpu.vmcs.exitInterruptionInformation &&& vmxIntInfoValid ≠ 0) :
    LegalEvent .vmInjectInterruptOrException vcpu
        (EventPath.vmInjectInterruptOrException.queue env vcpu)
      ↔ env.interruptControl &&& 0x7FFFF000 = 0 := by
  have hreflects : EventPath.vmInjectInterruptOrException.Reflects := trivial
  have hword :
      (EventPath.vmInjectInterruptOrException.queue env vcpu).vmcs.vmEntryInterruptionInformation
      = (env.interruptControl &&& 0x7FFFF000) |||
        (vcpu.vmcs.exitInterruptionInformation &&& 0x80000FFF) := rfl
  have hvector : vectorOf ((env.interruptControl &&& 0x7FFFF000) |||
      (vcpu.vmcs.exitInterruptionInformation &&& 0x80000FFF))
        = vectorOf vcpu.vmcs.exitInterruptionInformation := assigned_and rfl rfl
  have htype : interruptTypeOf ((env.interruptControl &&& 0x7FFFF000) |||
      (vcpu.vmcs.exitInterruptionInformation &&& 0x80000FFF))
        = interruptTypeOf vcpu.vmcs.exitInterruptionInformation := by
    rw [interruptTypeOf_eq, interruptTypeOf_eq, assigned_and rfl rfl]
  have hdeliver : errorCodeValid ((env.interruptControl &&& 0x7FFFF000) |||
      (vcpu.vmcs.exitInterruptionInformation &&& 0x80000FFF))
        = errorCodeValid vcpu.vmcs.exitInterruptionInformation := by
    unfold errorCodeValid
    rw [assigned_and rfl rfl]
  constructor
  · intro hlegal
    have hreserved := hlegal.reserved
    rwa [hword, unassigned_and] at hreserved
  · intro hclear
    refine ⟨?_, ?_, fun _ => ?_, fun _ => ?_, fun h => ?_⟩
    · rwa [hword, assigned_and rfl rfl]
    · rwa [hword, unassigned_and]
    · rw [hword]
      exact ⟨hvector, htype⟩
    · rw [hword, hdeliver, hreflects.carried_isSome]
    · rw [hword, hdeliver] at h
      exact hreflects.carried_eq h

/-- An exception that is not emulated takes the reflecting path that is meant for it. -/
theorem dsHvmExitHandler_reflects (others : OtherHandlers)
    (hreflected : hwExceptionUdOrGp vcpu.vmcs.exitInterruptionInformation = true →
      (tscInstructionAt env vcpu).1 = none) :
    ∃ (path : EventPath) (mmu : Mmu.MmuPerCpu), path.Reflects ∧
      path.Taken vcpu.vmcs.exitInterruptionInformation ∧
      dsHvmExitHandler others env exitReasonException vcpu
        = .ok (path.queue env { vcpu with mmu := mmu }) := by
  unfold dsHvmExitHandler
  rw [if_neg (by decide), if_pos rfl]
  dsimp only
  cases htaken : hwExceptionUdOrGp vcpu.vmcs.exitInterruptionInformation with
  | true =>
    refine ⟨.vmInjectHardwareException, (tscInstructionAt env vcpu).2, trivial, htaken, ?_⟩
    have hat : tscInstructionAt env vcpu = (none, (tscInstructionAt env vcpu).2) :=
      Prod.ext (hreflected htaken) rfl
    rw [if_pos rfl, dsHvmExceptionHandler, hat]
    rfl
  | false =>
    refine ⟨.vmInjectInterruptOrException, vcpu.mmu, trivial, htaken, ?_⟩
    rw [if_neg (by decide)]
    rfl

end Reflecting

/-- **An event of its own** is legal, if its word says truly whether an error code goes
with it. -/
theorem legalEvent_raised {env : ExitEnvironment} {path : EventPath} {vcpu : Vcpu} (word : UInt32)
    (hraised : ¬ path.Reflects)
    (hword : (path.queue env vcpu).vmcs.vmEntryInterruptionInformation = word)
    (hvalid : word &&& vmxIntInfoValid ≠ 0) (hreserved : word &&& 0x7FFFF000 = 0)
    (hcarried : path.carried vcpu = if errorCodeValid word then
        some (path.queue env vcpu).vmcs.vmEntryExceptionErrorCode
      else none) :
    LegalEvent path vcpu (path.queue env vcpu) := by
  refine ⟨by rwa [hword], by rwa [hword], fun h => absurd h hraised, fun _ => ?_,
    fun hdeliver => ?_⟩
  · rw [hword, hcarried]
    cases errorCodeValid word <;> rfl
  · rw [hword] at hdeliver
    rw [hcarried, if_pos hdeliver]

/-- **Every event that is queued** is legal exactly where the path is faithful: for every
exit information that is valid, every path taken for it and every content of the local. -/
theorem legalEvent_iff (env : ExitEnvironment) (path : EventPath) (vcpu : Vcpu)
    (hvalid : vcpu.vmcs.exitInterruptionInformation &&& vmxIntInfoValid ≠ 0)
    (htaken : path.Taken vcpu.vmcs.exitInterruptionInformation) :
    LegalEvent path vcpu (path.queue env vcpu) ↔
      path.Faithful env vcpu.vmcs.exitInterruptionInformation := by
  cases path with
  | vmInjectHardwareException => exact legalEvent_hardwareException env htaken
  | vmInjectInterruptOrException => exact legalEvent_interruptOrException env hvalid
  | vmInjectUdException =>
    exact iff_of_true (legalEvent_raised 0x80000306 id rfl (by decide) (by decide) rfl) trivial
  | vmInjectGpException errorCode =>
    exact iff_of_true (legalEvent_raised 0x80000B0D id rfl (by decide) (by decide) rfl) trivial
  | injectInt1 =>
    exact iff_of_true (legalEvent_raised 0x80000301 id rfl (by decide) (by decide) rfl) trivial

/-- An exit for a page fault of user code. -/
def pageFaultExit : Vcpu :=
  { userExitOf exitReasonException 0 0 0 with
    vmcs := { (userExitOf exitReasonException 0 0 0).vmcs with
      exitInterruptionInformation := 0x80000B0E
      exitInterruptionErrorCode := 4 } }

/-- It is passed on by a routine whose local was clear. -/
theorem legalEvent_pageFault :
    LegalEvent .vmInjectInterruptOrException pageFaultExit
      (EventPath.vmInjectInterruptOrException.queue bareEnvironment pageFaultExit) :=
  (legalEvent_iff bareEnvironment .vmInjectInterruptOrException pageFaultExit (by decide)
    (by unfold EventPath.Taken; decide)).mpr (by unfold EventPath.Faithful; decide)

/-- And is refused at VM entry where bit 12 of the local happened to be set. -/
theorem not_legalEvent_garbage :
    ¬ LegalEvent .vmInjectInterruptOrException pageFaultExit
        (EventPath.vmInjectInterruptOrException.queue
          { bareEnvironment with interruptControl := 0x1000 } pageFaultExit) := by
  intro h
  exact absurd h.reserved (by decide)

end DeepShield.Vmx
