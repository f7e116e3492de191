import DiagnosticBridge.Conversation
import DiagnosticBridge.Rehearsal.Script

namespace DiagnosticBridge.Rehearsal

/-!
# Rehearsing runs

Steps that schedule, cancel, finish and release runs under a script.  After a step everything that
can happen happens, unless the step is marked as quick.
-/

/-- One step. -/
inductive FlightStep where
  | schedule (uri : String) (version : Int) (text : String) (settings : CompilerSettings)
  | cancel (uri : String)
  | isCurrent (uri : String) (generation : Nat)
  | finish (uri : String) (generation : Nat)
  | release (gate : String)
  | settle
  | drop

/-- What a step answers. -/
inductive FlightAnswer where
  | nothing
  | generation (n : Nat)
  | current (b : Bool)

/-- What a step shows. -/
structure FlightReport where
  /-- The answer of the step. -/
  answer : FlightAnswer
  /-- The events that arrived. -/
  events : List Event
  /-- How many runs are current, if there still are runs at all. -/
  inFlight : Option Nat
  /-- The runs that began. -/
  began : List Run
  /-- The texts of the runs that were aborted while they waited. -/
  aborted : List String

/-- The state between steps. -/
structure FlightRehearsal where
  /-- The runs. -/
  flights : Flights
  /-- Whether the table of current runs was dropped. -/
  isDropped : Bool
  /-- The gates and the turns. -/
  turns : Turns
  /-- The texts of the runs that were aborted while they waited and have not been shown. -/
  aborted : List String

namespace FlightRehearsal

/-- How many events can have arrived that nobody received. -/
def room : Nat := 64

/-- No runs, and all gates closed. -/
def initial : FlightRehearsal := ⟨.empty, false, .initial, []⟩

/-- What a step does to the runs, and what it answers. -/
def apply (f : Flights) : FlightStep → Flights × FlightAnswer
  | .schedule uri version text settings =>
    let f := f.schedule uri version text settings
    (f, .generation f.lastGeneration)
  | .cancel uri => (f.cancel uri, .nothing)
  | .isCurrent uri generation => (f, .current (f.isCurrent uri generation))
  | .finish uri generation => (f.finish uri generation, .nothing)
  | .release _ => (f, .nothing)
  | .settle => (f, .nothing)
  | .drop => (f.cancelAll, .nothing)

/-- Does what a step asks for.  After the table was dropped steps ask in vain; the runs that it did
    not hold any more when it was dropped go on, but no gate is opened for them. -/
def act (script : Script) (r : FlightRehearsal) (s : FlightStep) : FlightRehearsal × FlightAnswer :=
  if r.isDropped then (r, .nothing)
  else
    let (after, answer) := apply r.flights s
    let turns := match s with
      | .release gate => r.turns.release script after gate
      | _ => r.turns.enrol r.flights after
    let isDropped := match s with
      | .drop => true
      | _ => false
    let gone := (Conversation.goneBetween r.flights after).filter fun run =>
      !r.turns.heldBack.contains run.generation
    (⟨after, isDropped, turns, r.aborted ++ textsOf gone⟩, answer)

/-- How many runs are current, unless the table was dropped. -/
def inFlight (r : FlightRehearsal) : Option Nat :=
  if r.isDropped then none else some r.flights.size

/-- The state after a step, and what the step shows.  After a step that is not quick everything
    happens that can happen, and the events that have arrived are received. -/
def step (script : Script) (r : FlightRehearsal) (s : FlightStep) (quick : Bool) :
    FlightRehearsal × FlightReport :=
  let (r, answer) := r.act script s
  if quick then (r, ⟨answer, [], r.inFlight, [], []⟩)
  else
    let (turns, settled, began) := r.turns.takeAll script (some room) r.flights
    ({ r with flights := { settled with arrived := [] }, turns := turns, aborted := [] },
      ⟨answer, settled.arrived, r.inFlight, began, sortedTexts r.aborted⟩)

end FlightRehearsal

end DiagnosticBridge.Rehearsal
