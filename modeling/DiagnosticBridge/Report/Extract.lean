import DiagnosticBridge.Report.Banner
import DiagnosticBridge.Report.Located
import DiagnosticBridge.Report.MissingLibrary
import DiagnosticBridge.Report.Undeclared

namespace DiagnosticBridge.Report

/-!
# Extracting diagnostics

The compiler's report is free text that takes one of a handful of shapes.  The shapes stand in
groups of falling priority: the first group that yields a diagnostic decides, and every shape of
that group contributes.  The last group holds only the generic shape, which yields a diagnostic
for every text that is not blank, so that a failed compilation is never hidden.

* `generic_ne_nil` — the generic shape always yields something.
-/

/-- The diagnostics for the blocks after the banner, or one diagnostic on the first line that
    shows all of it when there is no block. -/
def generic (text : String) : List Diagnostic :=
  let body := skipBanner text.toList
  match locatedFindings body with
  | [] => [.onLine 0 (String.ofList body)]
  | found => found

/-- A shape that a report can have. -/
inductive Shape where
  /-- A library was not found. -/
  | missingLibrary
  /-- Symbols of one kind are used but not declared. -/
  | undeclared (s : Symbol)
  /-- Anything else that is not blank. -/
  | generic
  deriving DecidableEq, Repr

namespace Shape

/-- The name of the shape. -/
def label : Shape → String
  | .missingLibrary => "missing-library"
  | .undeclared .name => "undeclared-names"
  | .undeclared .routine => "undeclared-routines"
  | .generic => "generic"

/-- Whether the text carries the mark of the shape. -/
def isMarked (shape : Shape) (text : String) : Bool :=
  match shape with
  | .missingLibrary => (findMissingLibrary? text.toList).isSome
  | .undeclared s => (s.findList? text.toList).isSome
  | .generic => !Text.isBlankString text

/-- The diagnostics that the shape finds in the text, whether or not it carries the mark. -/
def extract (shape : Shape) (text : String) : List Diagnostic :=
  match shape with
  | .missingLibrary => (missingLibrary? text).toList
  | .undeclared s => Report.undeclared s text
  | .generic => Report.generic text

/-- What the shape contributes: nothing to a text without its mark. -/
def contribution (shape : Shape) (text : String) : List Diagnostic :=
  if shape.isMarked text then shape.extract text else []

end Shape

/-- The shapes in groups, the group of highest priority first. -/
def priority : List (List Shape) :=
  [[.missingLibrary], [.undeclared .name, .undeclared .routine], [.generic]]

/-- The diagnostics of the first group that yields any. -/
def extractBy (text : String) : List (List Shape) → Batch
  | [] => []
  | group :: groups =>
    match group.flatMap (Shape.contribution · text) with
    | [] => extractBy text groups
    | found => found

/-- The diagnostics of a report. -/
def extract (text : String) : Batch := extractBy text priority

/-- The generic shape always gives something. -/
theorem generic_ne_nil (text : String) : generic text ≠ [] := by
  simp only [generic]
  split
  · simp
  · next h => exact h

end DiagnosticBridge.Report
