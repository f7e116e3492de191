import DiagnosticBridge.Conversation
import DiagnosticBridge.Program
import DiagnosticBridge.Shell.Launcher

namespace DiagnosticBridge.Rehearsal

/-!
# Rehearsing the program

The whole program on a host: its arguments, its files, the compilers among them, and an editor that
sends bytes and reads so many messages at a time.  At the end the editor closes its stream.  How the
compilers are run is a parameter; `ProgramRehearsal.run` takes those for them that are scripts.
-/

/-- One step of the editor. -/
structure ProgramStep where
  /-- The bytes that it sends. -/
  bytes : List UInt8
  /-- How many messages it reads then. -/
  expected : Nat

/-- What a run of the program shows. -/
structure ProgramReport where
  /-- The messages that the editor read, step by step. -/
  received : List (List Outgoing)
  /-- The bytes that it did not read. -/
  rest : List UInt8
  /-- The exit code. -/
  code : Nat
  /-- What the program said about an error. -/
  complaint : Option String
  /-- The files at the end. -/
  tree : Files.Tree

/-- The program during a session. -/
structure ProgramRehearsal where
  /-- How compilers are run. -/
  launch : Launcher
  /-- The session. -/
  conversation : Conversation
  /-- What is around the program. -/
  host : Host
  /-- The messages that the editor has not read. -/
  unread : List Outgoing

namespace ProgramRehearsal

/-- What stands for the part of a snapshot's name that makes it unique. -/
def mark : String := "XXXXXX"

/-- Runs checks one after the other. -/
def checkAll (launch : Launcher) (h : Host) (f : Flights) : List Run → Host × Flights
  | [] => (h, f)
  | run :: more =>
    let (outcome, tree) := h.checkWith launch mark none run.settings run.text
    checkAll launch { h with tree := tree }
      ((f.start run.generation).complete run.generation outcome) more

/-- Lets everything happen that follows from what the editor has sent. -/
def settle (r : ProgramRehearsal) : ProgramRehearsal :=
  if r.conversation.ending.isSome then r
  else
    let flights := r.conversation.server.flights
    let (host, flights) := checkAll r.launch r.host flights flights.scheduled
    let (conversation, exchange) := (r.conversation.withFlights flights).handleAll
    { r with
      conversation := conversation, host := host, unread := r.unread ++ exchange.messages }

/-- Hands bytes to the program. -/
def feed (r : ProgramRehearsal) (bytes : List UInt8) (closes : Bool) : ProgramRehearsal :=
  let (conversation, exchange) := r.conversation.feed bytes closes
  { r with conversation := conversation, unread := r.unread ++ exchange.messages }.settle

/-- Takes the steps; gives what the editor read in each of them. -/
def steps (r : ProgramRehearsal) : List ProgramStep → ProgramRehearsal × List (List Outgoing)
  | [] => (r, [])
  | s :: more =>
    let r := r.feed s.bytes false
    let (last, received) :=
      steps { r with unread := r.unread.drop s.expected } more
    (last, r.unread.take s.expected :: received)

/-- What the program shows at its end. -/
def report (r : ProgramRehearsal) (received : List (List Outgoing)) : ProgramReport where
  received := received
  rest := r.unread.flatMap Frame.ofMessage
  code := (r.conversation.ending.map (·.exitCode)).getD 1
  complaint := (r.conversation.ending.bind (·.errorMessage?)).map Program.complaint
  tree := r.host.tree

/-- A session of the program. -/
def serve (launch : Launcher) (h : Host) (options : Options) (script : List ProgramStep) :
    ProgramReport :=
  let h := { h with
    tree := Program.openLog h (Location.logs h.environment (options.get? .logFile)) }
  match Program.server h options with
  | .error e => ⟨script.map fun _ => [], [], 1, some (Program.complaint e.message), h.tree⟩
  | .ok server =>
    let (r, received) := steps ⟨launch, .start server none, h, []⟩ script
    (r.feed [] true).report received

/-- A run of the program. -/
def run (h : Host) (arguments : List String) (script : List ProgramStep) : ProgramReport :=
  let printed (text : String) (code : Nat) : ProgramReport :=
    ⟨script.map fun _ => [], Utf8.ofString text, code, none, h.tree⟩
  match Request.ofArguments arguments with
  | .serve options => serve Shell.launcher h options script
  | .help => printed Request.helpText 0
  | .version => printed Request.versionText 0
  | .refused => printed "" Request.refusedCode

end ProgramRehearsal

end DiagnosticBridge.Rehearsal
