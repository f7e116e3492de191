import DiagnosticBridge.Check.Outcome
import DiagnosticBridge.Settings.Compiler
import DiagnosticBridge.Table

namespace DiagnosticBridge

/-!
# Checks in flight

For each document at most one check is in flight: scheduling another one aborts it.  Every
scheduled check, a *run*, gets a generation of its own, so that a result that arrives late can be
told from the result of the run that is current.

A run is first scheduled, then begins, and at its end turns into an event, which waits until it is
received.  Aborting a run removes it in the first two of these stages; an event stays.

Generations are natural numbers here.  A program counts them in words of 64 bits; the two agree as
long as fewer than 2⁶⁴ runs are scheduled.

* `isCurrent_iff` — a run is current iff it is the one that the table holds for its document;
* `get?_schedule`, `get?_cancel` — what scheduling and cancelling do to the table.
-/

/-- A scheduled check of one version of a document. -/
structure Run where
  /-- The document. -/
  uri : String
  /-- The version of the text. -/
  version : Int
  /-- The number of the run. -/
  generation : Nat
  /-- The text. -/
  text : String
  /-- The settings under which it is checked. -/
  settings : CompilerSettings
  deriving DecidableEq, Repr

/-- What a run ends with. -/
inductive Event where
  /-- Diagnostics to show; none if the document compiles. -/
  | published (uri : String) (generation : Nat) (version : Int) (batch : Batch)
  /-- The compiler cannot be used. -/
  | compilerUnavailable (uri : String) (generation : Nat) (message : String)
  /-- The check failed for another reason. -/
  | failed (uri : String) (generation : Nat) (message : String)
  deriving DecidableEq, Repr

namespace Event

/-- The document of the run. -/
def uri : Event → String
  | published uri .. => uri
  | compilerUnavailable uri .. => uri
  | failed uri .. => uri

/-- The number of the run. -/
def generation : Event → Nat
  | published _ generation .. => generation
  | compilerUnavailable _ generation _ => generation
  | failed _ generation _ => generation

end Event

/-- The event of a run with a given outcome. -/
def Run.event (r : Run) : Outcome → Event
  | .ok .clean => .published r.uri r.generation r.version []
  | .ok (.failed status report) =>
    .published r.uri r.generation r.version (failureBatch r.settings.compiler status report)
  | .error e =>
    if e.isCompilerUnusable then .compilerUnavailable r.uri r.generation e.message
    else .failed r.uri r.generation e.message

/-- The runs, and which of them are current. -/
structure Flights where
  /-- The generation of the current run of each document. -/
  current : Table Nat
  /-- The generation of the last run; zero before the first one. -/
  lastGeneration : Nat
  /-- The runs that have not begun, in the order in which they were scheduled. -/
  scheduled : List Run
  /-- The runs that have begun and have no outcome yet, in the order in which they began. -/
  begun : List Run
  /-- The events that have not been received, in the order in which they arrived. -/
  arrived : List Event
  deriving Repr

namespace Flights

/-- No runs at all. -/
def empty : Flights := ⟨.empty, 0, [], [], []⟩

/-- The runs without that of one generation. -/
def without (generation : Nat) (runs : List Run) : List Run :=
  runs.filter (·.generation != generation)

/-- Aborts the current run of a document, if there is one. -/
def cancel (f : Flights) (uri : String) : Flights :=
  match f.current.get? uri with
  | none => f
  | some generation =>
    { f with
      current := f.current.erase uri
      scheduled := without generation f.scheduled
      begun := without generation f.begun }

/-- The run that would be scheduled next. -/
def nextRun (f : Flights) (uri : String) (version : Int) (text : String)
    (settings : CompilerSettings) : Run :=
  ⟨uri, version, f.lastGeneration + 1, text, settings⟩

/-- Schedules a run for a document, in place of its current run. -/
def schedule (f : Flights) (uri : String) (version : Int) (text : String)
    (settings : CompilerSettings) : Flights :=
  let run := f.nextRun uri version text settings
  let f := f.cancel uri
  { f with
    current := f.current.insert uri run.generation
    lastGeneration := run.generation
    scheduled := f.scheduled ++ [run] }

/-- Whether a run is the current one of its document. -/
def isCurrent (f : Flights) (uri : String) (generation : Nat) : Bool :=
  f.current.get? uri == some generation

/-- Forgets a run that has ended, if it is the current one. -/
def finish (f : Flights) (uri : String) (generation : Nat) : Flights :=
  if f.isCurrent uri generation then { f with current := f.current.erase uri } else f

/-- How many documents have a current run. -/
def size (f : Flights) : Nat := f.current.size

/-- Begins a run that has been scheduled. -/
def start (f : Flights) (generation : Nat) : Flights :=
  { f with
    scheduled := without generation f.scheduled
    begun := f.begun ++ f.scheduled.filter (·.generation == generation) }

/-- Ends a run that has begun: it turns into an event. -/
def complete (f : Flights) (generation : Nat) (outcome : Outcome) : Flights :=
  { f with
    begun := without generation f.begun
    arrived := f.arrived ++
      (f.begun.filter (·.generation == generation)).map (·.event outcome) }

/-- Takes the event that arrived first. -/
def receive? (f : Flights) : Option (Event × Flights) :=
  match f.arrived with
  | [] => none
  | event :: later => some (event, { f with arrived := later })

/-- Aborts every current run. -/
def cancelAll (f : Flights) : Flights := f.current.keys.foldl cancel f

/-- A run is current if the table holds its generation. -/
theorem isCurrent_iff (f : Flights) (uri : String) (generation : Nat) :
    f.isCurrent uri generation = true ↔ f.current.get? uri = some generation := by
  simp [isCurrent]

/-- Cancelling takes the run of one document away. -/
theorem get?_cancel (f : Flights) (uri other : String) :
    (f.cancel uri).current.get? other =
      if other = uri then none else f.current.get? other := by
  unfold cancel
  split
  · next h =>
    split
    · next heq => rw [heq, h]
    · rfl
  · exact Table.get?_erase _ _ _

/-- Scheduling makes the new run current, and touches no other document. -/
theorem get?_schedule (f : Flights) (uri : String) (version : Int) (text : String)
    (settings : CompilerSettings) (other : String) :
    (f.schedule uri version text settings).current.get? other =
      if other = uri then some (f.lastGeneration + 1) else f.current.get? other := by
  simp only [schedule, Table.get?_insert, nextRun]
  split
  · rfl
  · next h => rw [get?_cancel, if_neg h]

end Flights

end DiagnosticBridge
