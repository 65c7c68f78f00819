import DeepShield.Lib.Bytes
import DeepShield.Os.NtStatus
import Mathlib.Data.Nat.Find

/-!
# The file name in an image path

`PmParseProcessImageName` looks for the last path separator of an image path, from the end
of the path backwards, and counts the bytes it has passed.

The characters are compared after `--FileName`, and when one is a separator the name begins
behind it: `FileName++`, after the separator was given out. So the name that is handed back
has the length of what is behind the separator, and starts at the separator itself: it is
one character short, and begins with a backslash. `parsesName_iff`: the function does what it
is for on paths without a separator only, on which it fails.

`Length` is a number of bytes, of any parity. The scan begins at the end, so in a path of odd
length the characters it reads are not those of the path.
-/

namespace DeepShield.Pm.ImageName

open DeepShield.Lib DeepShield.Os

/-- `UNICODE_STRING`, with the address of its buffer. -/
structure UnicodeString where
  length : UInt16
  maximumLength : UInt16
  buffer : Nat
deriving Repr, DecidableEq

/-- A `WCHAR`, which has two bytes. -/
def readWchar (mem : Mem) (a : Nat) : Nat := (mem a).toNat + 2 ^ 8 * (mem (a + 1)).toNat

/-- `OBJ_NAME_PATH_SEPARATOR`, a backslash. -/
def objNamePathSeparator : Nat := 0x5C

/-- The loop of `PmParseProcessImageName`: where the separator is that it stops at, and
`ProcessNameLength`. -/
def pmParseLoop (mem : Mem) (buffer fileName : Nat) (processNameLength : UInt16) :
    Option (Nat × UInt16) :=
  if buffer < fileName then
    if readWchar mem (fileName - 2) = objNamePathSeparator then
      some (fileName - 2, processNameLength)
    else pmParseLoop mem buffer (fileName - 2) (processNameLength + 2)
  else none
termination_by fileName

/-- `PmParseProcessImageName`: the status and `ReturnedFileName`. -/
def pmParseProcessImageName (mem : Mem) (processName returnedFileName : UnicodeString) :
    NtStatus × UnicodeString :=
  match pmParseLoop mem processName.buffer (processName.buffer + processName.length.toNat) 0 with
  | some (fileName, processNameLength) =>
    -- FileName++ moves on after its value was taken
    (statusSuccess, ⟨processNameLength, processNameLength, fileName⟩)
  | none => (statusNotFound, returnedFileName)

/-! ## What it is for -/

/-- Character `i` of a path is a separator. -/
def IsSeparator (mem : Mem) (path : UnicodeString) (i : Nat) : Prop :=
  i < path.length.toNat / 2 ∧ readWchar mem (path.buffer + 2 * i) = objNamePathSeparator

/-- It is the last one. -/
def IsLastSeparator (mem : Mem) (path : UnicodeString) (i : Nat) : Prop :=
  IsSeparator mem path i ∧ ∀ j, IsSeparator mem path j → j ≤ i

/-- The name is found exactly if the path has a separator. It is what is behind the last
one then, by its start and its length, and the string handed in is not touched otherwise. -/
structure ParsesName (mem : Mem) (processName returnedFileName : UnicodeString) : Prop where
  success : (pmParseProcessImageName mem processName returnedFileName).1 = statusSuccess ↔
    ∃ i, IsSeparator mem processName i
  suffix : ∀ i, IsLastSeparator mem processName i →
    (pmParseProcessImageName mem processName returnedFileName).2.buffer
        = processName.buffer + 2 * (i + 1) ∧
      (pmParseProcessImageName mem processName returnedFileName).2.length.toNat
        = processName.length.toNat - 2 * (i + 1)
  notFound : (¬ ∃ i, IsSeparator mem processName i) →
    pmParseProcessImageName mem processName returnedFileName = (statusNotFound, returnedFileName)

/-- No character of the path is a separator, and none that the scan takes for one of its
characters. -/
def Unseparated (mem : Mem) (path : UnicodeString) : Prop :=
  (∀ i < path.length.toNat / 2,
      readWchar mem (path.buffer + 2 * i) ≠ objNamePathSeparator) ∧
    ∀ j, 2 * j < path.length.toNat →
      readWchar mem (path.buffer + path.length.toNat - 2 * (j + 1)) ≠ objNamePathSeparator

section Scan

variable {mem : Mem} {processName returnedFileName : UnicodeString}

/-- **The scan** ends at the first separator from the end, with twice the number of
characters it has passed, or has found none. -/
theorem pmParseLoop_cases (mem : Mem) (buffer : Nat) :
    ∀ (n : Nat) (passed : UInt16), passed.toNat + n < 2 ^ 16 →
      (∃ j, 2 * j < n ∧
          readWchar mem (buffer + n - 2 * (j + 1)) = objNamePathSeparator ∧
          (∀ k < j, readWchar mem (buffer + n - 2 * (k + 1)) ≠ objNamePathSeparator) ∧
          ∃ length : UInt16, length.toNat = passed.toNat + 2 * j ∧
            pmParseLoop mem buffer (buffer + n) passed
              = some (buffer + n - 2 * (j + 1), length)) ∨
        (∀ j, 2 * j < n → readWchar mem (buffer + n - 2 * (j + 1)) ≠ objNamePathSeparator) ∧
          pmParseLoop mem buffer (buffer + n) passed = none := by
  intro n
  induction n using Nat.strongRecOn with
  | ind n ih =>
    intro passed hpassed
    rw [pmParseLoop]
    by_cases hmore : buffer < buffer + n
    · rw [if_pos hmore]
      by_cases hhere : readWchar mem (buffer + n - 2) = objNamePathSeparator
      · rw [if_pos hhere]
        exact Or.inl ⟨0, by omega, hhere, fun k hk => absurd hk (Nat.not_lt_zero k),
          passed, rfl, rfl⟩
      · rw [if_neg hhere]
        by_cases hlast : n < 2
        · -- an odd byte was left, and the scan is now in front of the buffer
          right
          refine ⟨fun j hj => ?_, ?_⟩
          · obtain rfl : j = 0 := by omega
            exact hhere
          · rw [pmParseLoop, if_neg (by omega)]
        · have hstep : (passed + 2).toNat = passed.toNat + 2 := by
            rw [UInt16.toNat_add]
            exact Nat.mod_eq_of_lt (by show passed.toNat + 2 < 2 ^ 16; omega)
          have hback : ∀ k, buffer + n - 2 * (k + 1 + 1) = buffer + (n - 2) - 2 * (k + 1) := by
            intro k
            omega
          rw [show buffer + n - 2 = buffer + (n - 2) by omega]
          rcases ih (n - 2) (by omega) (passed + 2) (by omega) with
            ⟨j, hj, hfound, hbefore, length, hlength, hloop⟩ | ⟨hnone, hloop⟩
          · left
            refine ⟨j + 1, by omega, ?_, fun k hk => ?_, length, by omega, ?_⟩
            · rw [hback]
              exact hfound
            · cases k with
              | zero => exact hhere
              | succ k =>
                rw [hback]
                exact hbefore k (by omega)
            · rw [hback]
              exact hloop
          · right
            refine ⟨fun j hj => ?_, hloop⟩
            cases j with
            | zero => exact hhere
            | succ j =>
              rw [hback]
              exact hnone j (by omega)
    · rw [if_neg hmore]
      exact Or.inr ⟨fun j hj => absurd hj (by omega), rfl⟩

/-- A path that has a separator has a last one. -/
theorem exists_lastSeparator (h : ∃ i, IsSeparator mem processName i) :
    ∃ i, IsLastSeparator mem processName i := by
  classical
  obtain ⟨i, hi⟩ := h
  have hbound : ∀ j, IsSeparator mem processName j → j ≤ processName.length.toNat / 2 :=
    fun j hj => Nat.le_of_lt hj.1
  exact ⟨Nat.findGreatest (IsSeparator mem processName) (processName.length.toNat / 2),
    Nat.findGreatest_spec (hbound i hi) hi, fun j hj => Nat.le_findGreatest (hbound j hj) hj⟩

/-- **What is handed back** starts at the separator the scan stops at, and is as long as what
is behind it. -/
theorem pmParseProcessImageName_cases (mem : Mem) (processName returnedFileName : UnicodeString) :
    (∃ j, 2 * j < processName.length.toNat ∧
        (pmParseProcessImageName mem processName returnedFileName).1 = statusSuccess ∧
        (pmParseProcessImageName mem processName returnedFileName).2.buffer
          = processName.buffer + processName.length.toNat - 2 * (j + 1) ∧
        (pmParseProcessImageName mem processName returnedFileName).2.length.toNat = 2 * j ∧
        readWchar mem (processName.buffer + processName.length.toNat - 2 * (j + 1))
          = objNamePathSeparator) ∨
      (∀ j, 2 * j < processName.length.toNat →
          readWchar mem (processName.buffer + processName.length.toNat - 2 * (j + 1))
            ≠ objNamePathSeparator) ∧
        pmParseProcessImageName mem processName returnedFileName
          = (statusNotFound, returnedFileName) := by
  unfold pmParseProcessImageName
  rcases pmParseLoop_cases mem processName.buffer processName.length.toNat 0
    (by simpa using processName.length.toNat_lt) with
    ⟨j, hj, hfound, -, length, hlength, hloop⟩ | ⟨hnone, hloop⟩
  · left
    rw [hloop]
    exact ⟨j, hj, rfl, rfl, by simpa using hlength, hfound⟩
  · right
    rw [hloop]
    exact ⟨hnone, rfl⟩

/-- **A separator that is found is handed out**, so the name is not what it should be: no
start fits its length. -/
theorem not_parsesName_of_found {j : Nat} (hj : 2 * j < processName.length.toNat)
    (hfound : readWchar mem (processName.buffer + processName.length.toNat - 2 * (j + 1))
      = objNamePathSeparator) : ¬ ParsesName mem processName returnedFileName := by
  intro h
  rcases pmParseProcessImageName_cases mem processName returnedFileName with
    ⟨k, hk, hstatus, hbuffer, hlength, -⟩ | ⟨hnone, -⟩
  · obtain ⟨i, hlast⟩ := exists_lastSeparator (h.success.mp hstatus)
    obtain ⟨hstart, hrest⟩ := h.suffix i hlast
    have hi := hlast.1.1
    rw [hbuffer] at hstart
    rw [hlength] at hrest
    omega
  · exact hnone j hj hfound

/-- **The name is parsed** exactly on paths without a separator. -/
theorem parsesName_iff (mem : Mem) (processName returnedFileName : UnicodeString) :
    ParsesName mem processName returnedFileName ↔ Unseparated mem processName := by
  have hdifferent : statusNotFound ≠ statusSuccess := by decide
  rcases pmParseProcessImageName_cases mem processName returnedFileName with
    ⟨j, hj, -, -, -, hfound⟩ | ⟨hnone, hparse⟩
  · exact iff_of_false (not_parsesName_of_found hj hfound) fun h => h.2 j hj hfound
  · constructor
    · intro h
      refine ⟨fun i hi hseparator => ?_, hnone⟩
      have hsuccess := h.success.mpr ⟨i, hi, hseparator⟩
      rw [hparse] at hsuccess
      exact hdifferent hsuccess
    · intro h
      have hno : ¬ ∃ i, IsSeparator mem processName i := fun ⟨i, hi, hseparator⟩ =>
        h.1 i hi hseparator
      refine ⟨?_, fun i hlast => absurd ⟨i, hlast.1⟩ hno, fun _ => hparse⟩
      rw [hparse]
      exact iff_of_false hdifferent hno

/-- In a path of even length the scan reads the characters of the path, and there is but one
condition. -/
theorem unseparated_iff (h : processName.length.toNat % 2 = 0) :
    Unseparated mem processName ↔ ¬ ∃ i, IsSeparator mem processName i := by
  constructor
  · exact fun hnone ⟨i, hi, hseparator⟩ => hnone.1 i hi hseparator
  · intro hnone
    refine ⟨fun i hi hseparator => hnone ⟨i, hi, hseparator⟩, fun j hj hseparator => ?_⟩
    refine hnone ⟨processName.length.toNat / 2 - (j + 1), by omega, ?_⟩
    rw [← hseparator]
    congr 1
    omega

end Scan

/-- The memory with the path `\a` at `0x1000`. -/
def shortPath : Mem := writeBytes (fun _ => 0) 0x1000 [0x5C, 0, 0x61, 0]

/-- The name of `\a` is handed back as one character from the backslash on. -/
theorem not_parsesName_backslash : ¬ ParsesName shortPath ⟨4, 4, 0x1000⟩ ⟨0, 0, 0⟩ :=
  @not_parsesName_of_found shortPath ⟨4, 4, 0x1000⟩ ⟨0, 0, 0⟩ 1 (by decide) (by decide)

end DeepShield.Pm.ImageName
