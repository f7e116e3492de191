import DiagnosticBridge.Check.Ending
import DiagnosticBridge.Check.Outcome
import DiagnosticBridge.Files.Tree
import DiagnosticBridge.Settings.Compiler
import DiagnosticBridge.Settings.ConfigFile
import DiagnosticBridge.Settings.Location

namespace DiagnosticBridge

/-!
# Compilation

A check writes a snapshot of the document to a temporary directory, looks for the compiler, runs
it over the snapshot without letting it run the program, and removes the snapshot, however the
check ends.  The compiler is told to print without colours; what it prints to its standard output
is lost.

How the system runs a program is no part of a check but a parameter of it, a `Launcher`.
-/

/-- What a program finds around it. -/
structure Host where
  /-- The variables of the environment. -/
  environment : Environment
  /-- The working directory. -/
  workDirectory : Files.Place
  /-- The files. -/
  tree : Files.Tree

namespace Host

/-- What is found at a path. -/
def find? (h : Host) (path : String) : Option Files.Entry := h.tree.find? h.workDirectory path

/-- A path as seen from the root. -/
def absolute (h : Host) (path : String) : String := Files.join h.workDirectory.path path

/-- What can be read at a path. -/
def content (h : Host) (path : String) : FileContent :=
  match h.find? path with
  | some .directory => .directory
  | some (.file content _) => .bytes content
  | some _ => .bytes []
  | none => .missing

/-! ### Finding the compiler -/

/-- Whether there is a program at a path. -/
def isProgram (h : Host) (path : String) : Bool := (h.find? path).any (·.isRunnable)

/-- A directory for programs, with the user's home for a tilde that is its first part. -/
def withHome (h : Host) (directory : String) : String :=
  match Files.parts directory with
  | "~" :: rest => rest.foldl Files.join ((Location.home? h.environment).getD "")
  | _ => directory

/-- The directories in which commands are looked for. -/
def searchPath (h : Host) : List String :=
  match h.environment.get? "PATH" with
  | none => []
  | some places => (places.toList.splitOn ':').map fun place => h.withHome (String.ofList place)

/-- The paths at which a command is looked for: one of several parts stands for itself. -/
def candidates (h : Host) (command : String) : List String :=
  if Files.hasSeveralParts command then [Files.absolute h.workDirectory.path command]
  else h.searchPath.map (Files.join · command)

/-- The path of a command, from the root on. -/
def program? (h : Host) (command : String) : Option String :=
  ((h.candidates command).find? h.isProgram).map (Files.absolute h.workDirectory.path)

/-! ### Running it -/

/-- The variable by which the compiler is told whether to print in colours. -/
def colourVariable : String := "RAKUDO_ERROR_COLOR"

/-- The arguments with which the compiler only checks a file. -/
def checkArguments (settings : CompilerSettings) (file : String) : List String :=
  settings.libraries.flatMap (fun library => ["-I", library]) ++ ["-c", file]

/-- How a run of the compiler ends. -/
inductive RunEnd where
  /-- It could not be started, for a reason. -/
  | notStarted (reason : String)
  /-- It has ended. -/
  | ended (ending : Ending)
  /-- It would not end in time. -/
  | endless

end Host

/-- How the system runs the program at a path with some arguments, in what is around it: how that
    ends, the files afterwards, and the bytes of what the program has said. -/
abbrev Launcher := Host → String → List String → Host.RunEnd × Files.Tree × List UInt8

namespace Host

variable (launch : Launcher)

/-- Runs the compiler at a path.  No argument may hold a zero byte. -/
def run (h : Host) (path : String) (arguments : List String) :
    RunEnd × Files.Tree × List UInt8 :=
  if (path :: arguments).any (·.contains '\x00') then
    (.notStarted "nul byte found in provided data", h.tree, [])
  else launch { h with environment := h.environment.insert colourVariable "0" } path arguments

/-- What the end of a compiler says about the document. -/
def outcomeOf (report : List UInt8) : Ending → Outcome
  | .exited 0 => .ok .clean
  | ending => .ok (.failed ending.message (String.ofList (Utf8.decodeLossy report)))

/-! ### Checks -/

/-- The directory for temporary files. -/
def temporaryDirectory (h : Host) : String := (h.environment.get? "TMPDIR").getD "/tmp"

/-- The name of a snapshot; the mark makes it unique. -/
def snapshotName (mark : String) : String := s!"perl6-ls-{mark}.p6"

/-- Checks a text, with its snapshot in a given directory or else in the one for temporary files.
    Also gives the files after the check. -/
def checkWith (h : Host) (mark : String) (directory : Option String) (settings : CompilerSettings)
    (text : String) : Outcome × Files.Tree :=
  let path := Files.join (h.absolute (directory.getD h.temporaryDirectory)) (snapshotName mark)
  match h.tree.create h.workDirectory path with
  | .error fault => (.error (.noSnapshot fault.message), h.tree)
  | .ok (tree, place) =>
    let during : Host := { h with tree := tree.update place fun _ => Utf8.ofString text }
    match during.program? settings.compiler with
    | none => (.error (.notFound settings.compiler), h.tree)
    | some found =>
      match during.run launch found (checkArguments settings path) with
      | (.notStarted reason, _, _) => (.error (.notStarted settings.compiler reason), h.tree)
      | (.endless, tree, _) => (.error (.timedOut settings.compiler), tree.erase place)
      | (.ended ending, tree, report) => (outcomeOf report ending, tree.erase place)

end Host

end DiagnosticBridge
