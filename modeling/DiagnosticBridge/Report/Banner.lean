import DiagnosticBridge.Text.Lines
import DiagnosticBridge.Text.Search

namespace DiagnosticBridge.Report

/-!
# The banner

A report may begin with a line such as `===SORRY!=== Error while compiling app.p6`.  It says that
compilation failed and nothing else.
-/

/-- What the banner begins with. -/
def bannerOpening : List Char := "===SORRY".toList

/-- The text without the banner line at its very front.  A banner without a line feed stays. -/
def skipBanner (text : List Char) : List Char :=
  match Text.after? bannerOpening text with
  | none => text
  | some tail =>
    match Text.cutLine? tail with
    | none => text
    | some (_, rest) => rest

/-- A report that does not begin as a banner does stays as it is. -/
theorem skipBanner_of_not_opening {text : List Char}
    (h : Text.after? bannerOpening text = none) : skipBanner text = text := by
  simp [skipBanner, h]

end DiagnosticBridge.Report
