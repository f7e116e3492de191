import DiagnosticBridge.Diagnostic
import DiagnosticBridge.Report.LineNumber
import DiagnosticBridge.Text.Lines
import DiagnosticBridge.Text.Search
import DiagnosticBridge.Text.Space

namespace DiagnosticBridge.Report

/-!
# Located findings

Most errors are printed as a finding followed by a *locator* and an excerpt of the source:

    <finding, on any number of lines>
    at <file>:<line>
    ------> <excerpt>
        <indented lines that belong to the excerpt>

A text is read as a sequence of such blocks.  A finding begins where the block before it ended and
goes to the first locator, which cannot stand at its very front.

* `locator?_length_lt`, `cutAtLocator?_length_lt` — reading makes the text shorter, so the
  sequence of blocks is finite.
-/

/-- Whether a character goes on with the current line. -/
def staysOnLine (c : Char) : Bool := !Text.isLineBreak c

/-- The digits at the end of `<file>:<digits>`.  Neither the file nor the digits may be empty;
    the file may contain colons. -/
def locatedDigits? (line : List Char) : Option (List Char) :=
  let (digits, fromEnd) := spanDigits line.reverse
  match fromEnd with
  | ':' :: _ :: _ => if digits.isEmpty then none else some digits.reverse
  | _ => none

/-- Reads a locator at the front of the text: a line break, the place, a line break and the arrow
    before the excerpt.  Gives the digits of the line and what follows the arrow. -/
def locator? (text : List Char) : Option (List Char × List Char) := do
  let text ← Text.afterLineBreak? text
  let text ← Text.after? "at ".toList text
  let digits ← locatedDigits? (text.takeWhile staysOnLine)
  let text ← Text.afterLineBreak? (text.dropWhile staysOnLine)
  let text ← Text.after? "------>".toList text
  some (digits, text)

/-- Whether a character indents a line. -/
def isIndent (c : Char) : Bool := c == ' ' || c == '\t'

/-- The text without the indented lines at its front, each with the line break before it. -/
def skipIndentedLines (text : List Char) : List Char :=
  match text with
  | '\n' :: c :: rest =>
    if isIndent c then skipIndentedLines (rest.dropWhile staysOnLine) else text
  | '\r' :: '\n' :: c :: rest =>
    if isIndent c then skipIndentedLines (rest.dropWhile staysOnLine) else text
  | _ => text
termination_by text.length
decreasing_by
  all_goals
    have := (List.dropWhile_sublist (l := rest) staysOnLine).length_le
    simp only [List.length_cons]
    omega

/-- The text without the rest of the excerpt line and the indented lines after it. -/
def skipExcerpt (text : List Char) : List Char := skipIndentedLines (text.dropWhile staysOnLine)

/-- A finding and the line it is on. -/
structure Located where
  /-- The finding, as it was printed. -/
  finding : List Char
  /-- The digits of the line number. -/
  digits : List Char
  deriving DecidableEq, Repr

/-- The text before the first locator, the locator's digits, and the text after its arrow. -/
def cutAtLocator? : List Char → Option (Located × List Char)
  | [] => none
  | c :: rest =>
    match locator? (c :: rest) with
    | some (digits, after) => some (⟨[], digits⟩, after)
    | none => (cutAtLocator? rest).map fun (block, after) =>
        ({ block with finding := c :: block.finding }, after)

/-- A line break takes at least one character. -/
private theorem afterLineBreak?_length_lt {text rest : List Char}
    (h : Text.afterLineBreak? text = some rest) : rest.length < text.length := by
  unfold Text.afterLineBreak? at h
  split at h <;> simp only [Option.some.injEq, reduceCtorEq] at h <;> subst h <;>
    simp only [List.length_cons] <;> omega

/-- What follows a mark is no longer than the text; the mark may be empty. -/
private theorem after?_length_le {mark text rest : List Char}
    (h : Text.after? mark text = some rest) : rest.length ≤ text.length := by
  rw [Text.after?_eq_some_iff] at h
  subst h
  simp

/-- A locator takes at least one character. -/
theorem locator?_length_lt {text digits after : List Char}
    (h : locator? text = some (digits, after)) : after.length < text.length := by
  simp only [locator?, bind, Option.bind_eq_some_iff] at h
  obtain ⟨a, ha, b, hb, d, _, e, he, f, hf, heq⟩ := h
  simp only [Option.some.injEq, Prod.mk.injEq] at heq
  obtain ⟨_, rfl⟩ := heq
  have h1 := afterLineBreak?_length_lt ha
  have h2 := after?_length_le hb
  have h3 := afterLineBreak?_length_lt he
  have h4 := after?_length_le hf
  have h5 := (List.dropWhile_sublist (l := b) staysOnLine).length_le
  omega

/-- So does a block, which ends with one. -/
theorem cutAtLocator?_length_lt {text after : List Char} {block : Located}
    (h : cutAtLocator? text = some (block, after)) : after.length < text.length := by
  induction text generalizing block with
  | nil => simp [cutAtLocator?] at h
  | cons c text ih =>
    unfold cutAtLocator? at h
    split at h
    · next digits rest hloc =>
      simp only [Option.some.injEq, Prod.mk.injEq] at h
      obtain ⟨_, rfl⟩ := h
      exact locator?_length_lt hloc
    · obtain ⟨⟨b, a⟩, hcut, heq⟩ := Option.map_eq_some_iff.mp h
      simp only [Prod.mk.injEq] at heq
      obtain ⟨_, rfl⟩ := heq
      have := ih hcut
      simp only [List.length_cons]
      omega

/-- What follows indented lines is no longer, either; there may be none. -/
theorem skipIndentedLines_length_le (text : List Char) :
    (skipIndentedLines text).length ≤ text.length := by
  fun_induction skipIndentedLines text with
  | case1 c rest h ih | case3 c rest h ih =>
    have := (List.dropWhile_sublist (l := rest) staysOnLine).length_le
    simp only [List.length_cons]
    omega
  | case2 | case4 | case5 => exact Nat.le_refl _

/-- The same holds of an excerpt. -/
theorem skipExcerpt_length_le (text : List Char) : (skipExcerpt text).length ≤ text.length :=
  Nat.le_trans (skipIndentedLines_length_le _)
    (List.dropWhile_sublist (l := text) staysOnLine).length_le

/-- The blocks of the text, in order. -/
def blocks : List Char → List Located
  | [] => []
  | c :: rest =>
    match _h : cutAtLocator? rest with
    | none => []
    | some (block, after) =>
      { block with finding := c :: block.finding } :: blocks (skipExcerpt after)
termination_by text => text.length
decreasing_by
  have h1 := cutAtLocator?_length_lt _h
  have h2 := skipExcerpt_length_le after
  simp only [List.length_cons]
  omega

/-- The diagnostic for a block: the finding, trimmed.  A blank finding has none. -/
def Located.diagnostic? (b : Located) : Option Diagnostic :=
  let finding := Text.trim b.finding
  if finding.isEmpty then none
  else some (.onReportedLine (lineNumber b.digits) (String.ofList finding))

/-- The diagnostics for the blocks of the text. -/
def locatedFindings (text : List Char) : List Diagnostic :=
  (blocks text).filterMap Located.diagnostic?

end DiagnosticBridge.Report
