namespace DiagnosticBridge

/-!
# Diagnostics

A diagnostic is one problem that the compiler reported, tied to one whole line of a document.  A
batch is the list of diagnostics of one check, in the order in which they were found.
-/

/-- How grave a diagnostic is.  A check only ever fails, so there is one level. -/
inductive Severity where
  | error
  deriving DecidableEq, Repr

/-- The number of the level in the editor's protocol. -/
def Severity.code : Severity → Nat
  | .error => 1

/-- The name of the level. -/
def Severity.label : Severity → String
  | .error => "error"

/-- A problem on one line of a document. -/
structure Diagnostic where
  /-- How grave it is. -/
  severity : Severity
  /-- The line, counted from zero. -/
  line : UInt32
  /-- The first column. -/
  startColumn : UInt32
  /-- The column after the last. -/
  endColumn : UInt32
  /-- What the compiler said. -/
  message : String
  /-- Who reports it. -/
  source : String
  deriving DecidableEq, Repr

/-- The diagnostics of one check, in the order in which they were found. -/
abbrev Batch := List Diagnostic

namespace Diagnostic

/-- The source named by every diagnostic. -/
def compilerSource : String := "perl6"

/-- A column beyond the end of every line: the greatest one that the editor's protocol allows. -/
def beyondLineEnd : UInt32 := 2147483647

/-- An error on the whole of a line, counted from zero. -/
def onLine (line : UInt32) (message : String) : Diagnostic :=
  ⟨.error, line, 0, beyondLineEnd, message, compilerSource⟩

/-- The line, counted from zero, of a line that the compiler counts from one.  What the compiler
    could not place, line zero, is put on the first line. -/
def fromReported (reported : UInt32) : UInt32 := if reported = 0 then 0 else reported - 1

/-- An error on the line that the compiler reported, counted from one. -/
def onReportedLine (reported : UInt32) (message : String) : Diagnostic :=
  onLine (fromReported reported) message

/-- The diagnostic as one line of text, its line counted from one. -/
def display (d : Diagnostic) : String :=
  s!"{d.line + 1}: {d.severity.label}: [{d.source}] {d.message}"

/-- Lines are counted from zero; there is none before the first. -/
theorem fromReported_toNat (reported : UInt32) :
    (fromReported reported).toNat = reported.toNat - 1 := by
  unfold fromReported
  split
  · next h => simp [h]
  · next h =>
    rw [UInt32.toNat_sub_of_le]
    · rfl
    · rw [UInt32.le_iff_toNat_le]
      have : reported.toNat ≠ 0 := fun h0 => h (UInt32.toNat_inj.mp h0)
      simpa using Nat.one_le_iff_ne_zero.mpr this

end Diagnostic

end DiagnosticBridge
