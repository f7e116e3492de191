import DiagnosticBridge.Report.Extract

namespace DiagnosticBridge

/-!
# The outcome of a check

A check runs the compiler over a snapshot of a document.  Either the compiler ran to its end and
the document compiles or not, or the check could not be carried out.

* `failureBatch_ne_nil` — a failed compilation always shows something.
-/

/-- What the compiler said about a document. -/
inductive Verdict where
  /-- The document compiles. -/
  | clean
  /-- The compiler failed with this status and printed this report. -/
  | failed (status report : String)
  deriving DecidableEq, Repr

/-- Why a check could not be carried out. -/
inductive CheckError where
  /-- There is no such compiler. -/
  | notFound (command : String)
  /-- The compiler could not be started. -/
  | notStarted (command reason : String)
  /-- The compiler did not come to its end. -/
  | timedOut (command : String)
  /-- The snapshot could not be written. -/
  | noSnapshot (reason : String)
  deriving DecidableEq, Repr

namespace CheckError

/-- How many seconds the compiler may take. -/
def timeLimit : Nat := 30

/-- The wording of an error. -/
def message : CheckError → String
  | notFound command =>
    s!"compiler '{command}' not found; set perl6.path to the Rakudo executable"
  | notStarted command reason => s!"failed to run compiler '{command}': {reason}"
  | timedOut command => s!"compiler '{command}' did not finish within {timeLimit}s"
  | noSnapshot reason => s!"failed to write document snapshot: {reason}"

/-- Whether the compiler itself cannot be used, as opposed to a failure of this one check. -/
def isCompilerUnusable : CheckError → Bool
  | notFound _ => true
  | notStarted _ _ => true
  | timedOut _ => false
  | noSnapshot _ => false

end CheckError

/-- The outcome of a check. -/
abbrev Outcome := Except CheckError Verdict

/-- The message when a failed compiler printed nothing to show. -/
def silentFailure (compiler status : String) : String :=
  s!"{compiler} -c failed ({status}) without printing an error"

/-- The diagnostics of a failed compilation: those of its report, or one on the first line when
    the report says nothing. -/
def failureBatch (compiler status report : String) : Batch :=
  let batch := Report.extract report
  if batch.any (!Text.isBlankString ·.message) then batch
  else [.onLine 0 (silentFailure compiler status)]

/-- A failed compilation is never shown as a clean one. -/
theorem failureBatch_ne_nil (compiler status report : String) :
    failureBatch compiler status report ≠ [] := by
  simp only [failureBatch]
  split
  · next h => intro hnil; simp [hnil] at h
  · simp

end DiagnosticBridge
