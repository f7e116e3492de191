import DiagnosticBridge.Check.Compilation
import DiagnosticBridge.Shell.Launch

namespace DiagnosticBridge

/-!
# Compilers that are scripts

On a host on which nothing but scripts can be run, a shell runs the compiler.  The shell, and the
programs of the system that scripts make use of, are reached through `Shell.launcher` alone: it is
one of many values that the parameter of a check can have.  What is said elsewhere of reports, of
settings and of sessions does not depend on it, for there the outcome of a check is arbitrary.
-/

namespace Shell.Launcher

/-- What a program finds in its environment. -/
def bindings (h : Host) : List (String × Binding) :=
  h.environment.toList.map fun (name, value) =>
    (String.ofList (ofString name), ⟨some (ofString value), true, false⟩)

/-- The number by which this program is known. -/
def ownNumber : Nat := 4000

/-- The process that starts a program: nothing to read, and only messages are kept. -/
def ownProcess (h : Host) : Process where
  number := ownNumber
  shellNumber := ownNumber
  ancestors := []
  title := []
  arguments := []
  bindings := Table.ofList (bindings h)
  functions := .empty
  descriptors := [(0, 0), (1, 0), (2, 1)]
  directory := h.workDirectory
  directoryName := []
  options := []
  traps := []
  status := 0
  substitutionStatus := 0
  line := 0
  reached := 0
  builtin := none
  skip := none
  loops := 0
  depth := 0
  locals := []
  aliases := []
  documents := []
  nextDocument := 0
  jobs := []
  lastJob := none
  optionPlace := ShellM.placeOf 1
  mask := 18
  clock := 0
  lastWait := 0
  givesPlace := false

/-- How many commands a program may run. -/
def patience : Nat := 1000000

/-- The state in which a program starts. -/
def startState (h : Host) : State where
  tree := h.tree
  channels := #[.nowhere, .report []]
  pending := []
  tasks := []
  ended := []
  nextNumber := ownNumber + 1
  patience := patience
  hasLostOutput := false
  process := ownProcess h

/-- What has been written to where messages go. -/
def reportOf (s : State) : List UInt8 :=
  match s.channels[1]? with
  | some (Channel.report written) => toBytes (written.reverse.flatMap (·.text))
  | _ => []

/-- The size from which an argument is too long. -/
def argumentLimit : Nat := 131072

end Shell.Launcher

open Shell.Launcher in
/-- Runs a program that is a script, or one of the system. -/
def Shell.launcher : Launcher := fun h path arguments =>
  if arguments.any (·.utf8ByteSize ≥ argumentLimit) then
    (.notStarted Files.Fault.tooManyArguments.message, h.tree, [])
  else
    let started := runToLast (ofString path) ((path :: arguments).map ofString)
    let (result, s) := started.run (startState h)
    let ending : Host.RunEnd := match result with
      | .ok (.ok ending) => .ended ending
      | .ok (.error fault) => .notStarted fault.message
      | .error _ => .endless
    (ending, s.tree, reportOf s)

/-- Checks a text with a compiler that is a script. -/
def Host.check (h : Host) (mark : String) (directory : Option String)
    (settings : CompilerSettings) (text : String) : Outcome × Files.Tree :=
  h.checkWith Shell.launcher mark directory settings text

end DiagnosticBridge
