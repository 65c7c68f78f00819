import Mathlib.Tactic.Common

/-!
# Status codes

`NTSTATUS` as the 32-bit value it is, with the codes the driver returns and
`NT_SUCCESS` on it: a code is a success exactly if it is non-negative as a
signed value.
-/

namespace DeepShield.Os

/-- `NTSTATUS`. -/
abbrev NtStatus := UInt32

/-- `NT_SUCCESS`. -/
def ntSuccess (status : NtStatus) : Bool := status < 0x80000000

def statusSuccess : NtStatus := 0x00000000

def statusPending : NtStatus := 0x00000103

def statusBufferOverflow : NtStatus := 0x80000005

def statusInfoLengthMismatch : NtStatus := 0xC0000004

def statusUnsuccessful : NtStatus := 0xC0000001

def statusInvalidParameter : NtStatus := 0xC000000D

def statusInternalError : NtStatus := 0xC00000E5

def statusNotSupported : NtStatus := 0xC00000BB

def statusBufferTooSmall : NtStatus := 0xC0000023

def statusInvalidDeviceRequest : NtStatus := 0xC0000010

def statusNoMemory : NtStatus := 0xC0000017

def statusNotFound : NtStatus := 0xC0000225

def statusObjectidExists : NtStatus := 0xC000022B

def statusInsufficientResources : NtStatus := 0xC000009A

def statusNoneMapped : NtStatus := 0xC0000073

def statusDeletePending : NtStatus := 0xC0000056

@[simp] theorem ntSuccess_statusSuccess : ntSuccess statusSuccess = true := by decide

@[simp] theorem ntSuccess_statusBufferOverflow : ntSuccess statusBufferOverflow = false := by
  decide

@[simp] theorem ntSuccess_statusUnsuccessful : ntSuccess statusUnsuccessful = false := by decide

@[simp] theorem ntSuccess_statusInvalidParameter : ntSuccess statusInvalidParameter = false := by
  decide

@[simp] theorem ntSuccess_statusInternalError : ntSuccess statusInternalError = false := by
  decide

@[simp] theorem ntSuccess_statusNotSupported : ntSuccess statusNotSupported = false := by decide

@[simp] theorem ntSuccess_statusBufferTooSmall : ntSuccess statusBufferTooSmall = false := by
  decide

@[simp] theorem ntSuccess_statusInvalidDeviceRequest :
    ntSuccess statusInvalidDeviceRequest = false := by
  decide

@[simp] theorem ntSuccess_statusNoMemory : ntSuccess statusNoMemory = false := by decide

@[simp] theorem ntSuccess_statusObjectidExists : ntSuccess statusObjectidExists = false := by
  decide

@[simp] theorem ntSuccess_statusInsufficientResources :
    ntSuccess statusInsufficientResources = false := by
  decide

@[simp] theorem ntSuccess_statusNoneMapped : ntSuccess statusNoneMapped = false := by decide

/-- A status that is no success, as the failing calls of the kernel return it. -/
abbrev NtFailure := { status : NtStatus // ntSuccess status = false }

end DeepShield.Os
