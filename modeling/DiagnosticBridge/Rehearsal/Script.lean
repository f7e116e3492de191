import DiagnosticBridge.Check.Flights
import DiagnosticBridge.Text.Search

namespace DiagnosticBridge.Rehearsal

/-!
# Scripted compilers

A script stands in for the compiler: it decides the outcome of a run by what the text contains.  A
rule of the script may have a gate, at which its runs wait until the gate is opened.
-/

/-- The outcome that a rule gives. -/
inductive Result where
  | clean
  | failed (status report : String)
  | notFound
  | notStarted (reason : String)
  | timedOut
  | noSnapshot (reason : String)

/-- The outcome of a run under settings. -/
def Result.outcome (r : Result) (settings : CompilerSettings) : Outcome :=
  match r with
  | clean => .ok .clean
  | failed status report => .ok (.failed status report)
  | notFound => .error (.notFound settings.compiler)
  | notStarted reason => .error (.notStarted settings.compiler reason)
  | timedOut => .error (.timedOut settings.compiler)
  | noSnapshot reason => .error (.noSnapshot reason)

/-- A rule for texts that contain a mark. -/
structure Rule where
  /-- The mark. -/
  mark : String
  /-- What the compiler does. -/
  result : Result
  /-- The gate at which a run waits, if there is one. -/
  gate : Option String

/-- A script: the first rule whose mark occurs in the text decides. -/
abbrev Script := List Rule

namespace Script

/-- The rule that decides a run; without one the document compiles. -/
def ruleFor (script : Script) (text : String) : Rule :=
  (script.find? fun rule => Text.occurs rule.mark.toList text.toList).getD ⟨"", .clean, none⟩

/-- The outcome of a run. -/
def outcome (script : Script) (run : Run) : Outcome :=
  (script.ruleFor run.text).result.outcome run.settings

/-- Whether a run waits when these gates are open. -/
def waits (script : Script) (gates : List String) (run : Run) : Bool :=
  match (script.ruleFor run.text).gate with
  | some gate => !gates.contains gate
  | none => false

end Script

/-! ### Turns

Runs take turns: a run gets one when it is scheduled, to begin, and one when its gate is opened, to
end.  Turns are taken in the order in which they were given; one whose run was aborted is void.

Where only so many events can have arrived, a run that finds no room for its event is held back
until there is, behind those that were held back before it. -/

/-- The gates that are open, and the runs that are to go on, as generations. -/
structure Turns where
  /-- The gates that are open. -/
  gates : List String
  /-- The runs that have a turn, in order. -/
  queue : List Nat
  /-- The runs that are held back with their outcome, in order. -/
  heldBack : List Nat

namespace Turns

/-- All gates closed and no turns. -/
def initial : Turns := ⟨[], [], []⟩

/-- Opens a gate: the runs that wait there get a turn, in the order in which they began. -/
def release (script : Script) (t : Turns) (f : Flights) (gate : String) : Turns :=
  let freed := f.begun.filter fun run =>
    script.waits t.gates run && !script.waits (gate :: t.gates) run
  { t with gates := gate :: t.gates, queue := t.queue ++ freed.map (·.generation) }

/-- Gives a turn to every run that was scheduled since `before`. -/
def enrol (t : Turns) (before after : Flights) : Turns :=
  let fresh := after.scheduled.filter fun run => before.lastGeneration < run.generation
  { t with queue := t.queue ++ fresh.map (·.generation) }

/-- Ends a run, unless there is no room for one more event: then it is held back. -/
def deliver (script : Script) (room : Option Nat) (t : Turns) (f : Flights) (run : Run) :
    Turns × Flights :=
  if t.heldBack.isEmpty && room.all (f.arrived.length < ·) then
    (t, f.complete run.generation (script.outcome run))
  else ({ t with heldBack := t.heldBack ++ [run.generation] }, f)

/-- Takes one turn: a run begins, and ends unless it has to wait.  Also gives the run that
    began, if one did. -/
def takeOne (script : Script) (room : Option Nat) (t : Turns) (f : Flights) (generation : Nat) :
    Turns × Flights × Option Run :=
  let began := f.scheduled.find? (·.generation == generation)
  let f := f.start generation
  match f.begun.find? (·.generation == generation) with
  | none => (t, f, began)
  | some run =>
    if script.waits t.gates run then (t, f, began)
    else
      let (t, f) := t.deliver script room f run
      (t, f, began)

/-- Takes turns one after the other.  Also gives the runs that began, in order. -/
def takeEach (script : Script) (room : Option Nat) (t : Turns) (f : Flights) :
    List Nat → Turns × Flights × List Run
  | [] => (t, f, [])
  | generation :: queue =>
    let (t, f, began) := t.takeOne script room f generation
    let (t, f, others) := takeEach script room t f queue
    (t, f, began.toList ++ others)

/-- Takes all turns, those of the runs held back first. -/
def takeAll (script : Script) (room : Option Nat) (t : Turns) (f : Flights) :
    Turns × Flights × List Run :=
  { t with queue := [], heldBack := [] }.takeEach script room f (t.heldBack ++ t.queue)

end Turns

/-- The texts of runs. -/
def textsOf (runs : List Run) : List String := runs.map (·.text)

/-- Texts by the order of their bytes. -/
def sortedTexts (texts : List String) : List String :=
  texts.mergeSort fun a b => !Utf8.before b a

end DiagnosticBridge.Rehearsal
