import DiagnosticBridge.Diagnostic
import DiagnosticBridge.Report.LineNumber
import DiagnosticBridge.Text.Lines
import DiagnosticBridge.Text.Search

namespace DiagnosticBridge.Report

/-!
# Missing libraries

When a library cannot be found, the compiler prints

    Could not find <library> at line <number> in:
    <the places where it looked>

and everything after the first line is part of the message, to the end of the report.

* `findMissingLibrary?_eq_none` — without the words `Could not find ` there is no such sentence.
-/

/-- What opens the sentence about a missing library. -/
def missingOpening : List Char := "Could not find ".toList

/-- What stands between the library and the line number. -/
def lineOpening : List Char := " at line ".toList

/-- What ends the sentence about a missing library. -/
def lineClosing : List Char := " in:".toList

/-- A report about a missing library. -/
structure MissingLibrary where
  /-- The library, as the compiler names it. -/
  library : List Char
  /-- The digits of the line number. -/
  digits : List Char
  /-- Everything after the sentence. -/
  places : List Char
  deriving DecidableEq, Repr

/-- Splits a line that ends in ` at line <digits> in:` into what stands before and the digits.
    Neither may be empty. -/
def splitLineReference? (line : List Char) : Option (List Char × List Char) := do
  let fromEnd ← Text.after? lineClosing.reverse (Text.dropFinalReturn line).reverse
  let (digits, fromEnd) := spanDigits fromEnd
  let fromEnd ← Text.after? lineOpening.reverse fromEnd
  if digits.isEmpty || fromEnd.isEmpty then none else some (fromEnd.reverse, digits.reverse)

/-- Reads the sentence about a missing library at the front of the text. -/
def missingLibraryHere? (text : List Char) : Option MissingLibrary := do
  let text ← Text.after? missingOpening text
  let (line, places) ← Text.cutLine? text
  let (library, digits) ← splitLineReference? line
  some ⟨library, digits, places⟩

/-- The first place in the text where a missing library is reported. -/
def findMissingLibrary? : List Char → Option MissingLibrary
  | [] => none
  | c :: rest =>
    match missingLibraryHere? (c :: rest) with
    | some found => some found
    | none => findMissingLibrary? rest

/-- Nothing is found in a text without the opening of the sentence. -/
theorem findMissingLibrary?_eq_none {text : List Char} (h : ¬ missingOpening <:+: text) :
    findMissingLibrary? text = none := by
  induction text with
  | nil => rfl
  | cons c text ih =>
    have hhere : missingLibraryHere? (c :: text) = none := by
      cases hafter : Text.after? missingOpening (c :: text) with
      | none => simp [missingLibraryHere?, hafter]
      | some rest => exact absurd ⟨[], rest, Text.after?_eq_some_iff.mp hafter⟩ h
    rw [findMissingLibrary?, hhere]
    exact ih fun hin => h (hin.trans (List.suffix_cons c text).isInfix)

/-- The message keeps the sentence, less its line number, and the places as they were printed. -/
def MissingLibrary.message (m : MissingLibrary) : List Char :=
  missingOpening ++ m.library ++ lineClosing ++ '\n' :: m.places

/-- The diagnostic for a missing library, on the line that asks for it. -/
def MissingLibrary.diagnostic (m : MissingLibrary) : Diagnostic :=
  .onReportedLine (lineNumber m.digits) (String.ofList m.message)

/-- The diagnostic for the first missing library that the text reports. -/
def missingLibrary? (text : String) : Option Diagnostic :=
  (findMissingLibrary? text.toList).map MissingLibrary.diagnostic

end DiagnosticBridge.Report
