import DiagnosticBridge.Diagnostic
import DiagnosticBridge.Report.LineNumber
import DiagnosticBridge.Text.Lines
import DiagnosticBridge.Text.Search
import DiagnosticBridge.Text.Space

namespace DiagnosticBridge.Report

/-!
# Undeclared symbols

Names and routines that are used but not declared are printed as lists:

    Undeclared names:
        <name> used at lines 3, 8 <advice>
        <name> used at line 5

The list goes from the line after the first header to the first line that is no entry.  An entry
yields one diagnostic, on the first of its lines.

* `findList?_eq_none` — without the word `Undeclared ` there is no such list.
-/

/-- What an undeclared symbol is. -/
inductive Symbol where
  | name
  | routine
  deriving DecidableEq, Repr

/-- The word for the kind of symbol, in headers and in messages. -/
def Symbol.word : Symbol → String
  | .name => "name"
  | .routine => "routine"

/-- The text without the letter `s` at its front, if there is one. -/
def skipPlural : List Char → List Char
  | 's' :: rest => rest
  | text => text

/-- What follows the header of a list, if the text begins with one. -/
def Symbol.afterHeader? (s : Symbol) (text : List Char) : Option (List Char) := do
  let text ← Text.after? ("Undeclared " ++ s.word).toList text
  let text ← Text.after? [':'] (skipPlural text)
  Text.afterLineBreak? text

/-- What follows the first header in the text. -/
def Symbol.findList? (s : Symbol) : List Char → Option (List Char)
  | [] => none
  | c :: rest =>
    match s.afterHeader? (c :: rest) with
    | some list => some list
    | none => s.findList? rest

/-- There is no list in a text without the first word of its header. -/
theorem Symbol.findList?_eq_none {text : List Char} (h : ¬ "Undeclared ".toList <:+: text)
    (s : Symbol) : s.findList? text = none := by
  induction text with
  | nil => rfl
  | cons c text ih =>
    have hhere : s.afterHeader? (c :: text) = none := by
      cases hafter : Text.after? ("Undeclared " ++ s.word).toList (c :: text) with
      | none =>
        rw [Symbol.afterHeader?, hafter]
        rfl
      | some rest =>
        refine absurd ⟨[], s.word.toList ++ rest, ?_⟩ h
        rw [← Text.after?_eq_some_iff.mp hafter, String.toList_append, List.append_assoc]
        rfl
    rw [Symbol.findList?, hhere]
    exact ih fun hin => h (hin.trans (List.suffix_cons c text).isInfix)

/-- The text without the further line numbers at its front, each after a comma and a space. -/
def skipFurtherLines (text : List Char) : List Char :=
  match text with
  | ',' :: ' ' :: d :: rest =>
    if Text.isDigit d then skipFurtherLines (rest.dropWhile Text.isDigit) else text
  | _ => text
termination_by text.length
decreasing_by
  have := (List.dropWhile_sublist (l := rest) Text.isDigit).length_le
  simp only [List.length_cons]
  omega

/-- One entry of a list. -/
structure Entry where
  /-- The symbol that is not declared. -/
  symbol : List Char
  /-- The digits of the first line number. -/
  digits : List Char
  /-- What follows the line numbers. -/
  advice : List Char
  deriving DecidableEq, Repr

/-- Reads a line as an entry: white space, a symbol, where it is used, and advice. -/
def Entry.ofLine? (line : List Char) : Option Entry := do
  let text := Text.trimStart line
  if text.length = line.length then none
  let symbol := text.takeWhile (!Text.isSpace ·)
  if symbol.isEmpty then none
  let text ← Text.after? " used at line".toList (text.dropWhile (!Text.isSpace ·))
  let text ← Text.after? [' '] (skipPlural text)
  let (digits, text) := spanDigits text
  if digits.isEmpty then none
  some ⟨symbol, digits, skipFurtherLines text⟩

/-- The entries at the front of a list of lines. -/
def leadingEntries : List (List Char) → List Entry
  | [] => []
  | line :: lines =>
    match Entry.ofLine? line with
    | some entry => entry :: leadingEntries lines
    | none => []

/-- The message for an entry: the symbol is not declared, and the advice. -/
def Entry.message (s : Symbol) (e : Entry) : List Char :=
  s.word.toList ++ ' ' :: e.symbol ++ " is not declared".toList ++ Text.trimEnd e.advice

/-- The diagnostic for an entry. -/
def Entry.diagnostic (s : Symbol) (e : Entry) : Diagnostic :=
  .onReportedLine (lineNumber e.digits) (String.ofList (e.message s))

/-- The entries of the first list of such symbols in the text. -/
def Symbol.entries (s : Symbol) (text : List Char) : List Entry :=
  match s.findList? text with
  | some list => leadingEntries (Text.lines list)
  | none => []

/-- The diagnostics for the first list of such symbols in the text. -/
def undeclared (s : Symbol) (text : String) : List Diagnostic :=
  (s.entries text.toList).map (Entry.diagnostic s)

end DiagnosticBridge.Report
