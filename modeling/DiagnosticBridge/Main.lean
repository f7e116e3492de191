import DiagnosticBridge.Conversation
import DiagnosticBridge.Program
import DiagnosticBridge.Shell.Launcher

namespace DiagnosticBridge.Main

/-!
# The program on a real host

Standard input and output carry the conversation; the environment, the configuration file and the
compilers are read from the host.  A compiler runs within this process, thus only one that is a
script can be started.
-/

/-- The bytes of a file, if it can be read. -/
def readFile? (path : String) : IO (Option (List UInt8)) := do
  try
    return some (← IO.FS.readBinFile path).toList
  catch _ => return none

/-- The string that bytes stand for, if they are text. -/
def text? (bytes : List UInt8) : Option String := (Utf8.decode bytes).toOption.map String.ofList

/-- The variable in an assignment of the environment, if it is text. -/
def assigned? (assignment : List UInt8) : Option (String × String) := do
  let name ← text? (assignment.takeWhile (· != 61))
  let value ← text? ((assignment.dropWhile (· != 61)).drop 1)
  return (name, value)

/-- The variables of this process; of two assignments to a variable the first one counts. -/
def environment : IO Environment := do
  let bytes := (← readFile? "/proc/self/environ").getD []
  let assignments := (bytes.splitOn 0).filter (!·.isEmpty)
  return Table.ofList (assignments.filterMap assigned?).reverse

/-- The place of a path on a host. -/
def placeOf (h : Host) (path : String) : Files.Place :=
  (Files.names (h.absolute path)).foldl Files.Tree.follow []

/-- The host of this process, before any file has been looked at. -/
def bareHost : IO Host := do
  let env ← environment
  let directory := (← IO.currentDir).toString
  let place := Files.names directory
  let h : Host := ⟨env, place, .plant .bare place .directory⟩
  return { h with tree := h.tree.plant (placeOf h h.temporaryDirectory) .directory }

/-- Whether a file's first bytes are those of a program. -/
def isRunnable (content : List UInt8) : Bool :=
  content.take 2 == [35, 33] || content.take 4 == [127, 69, 76, 70]

/-- The host with the files at some paths. -/
def withFiles (h : Host) (paths : List String) : IO Host :=
  paths.foldlM (fun h path => do
    match ← readFile? path with
    | some content =>
      return { h with tree := h.tree.plant (placeOf h path) (.file content (isRunnable content)) }
    | none => return h) h

/-- Opens a log at the first possible path. -/
def openLog : List String → IO Unit
  | [] => return
  | path :: more => do
    try
      match Files.parent? path with
      | some parent => if !parent.isEmpty then IO.FS.createDirAll parent
      | none => pure ()
      let log ← IO.FS.Handle.mk path .append
      log.putStrLn "Starting perl6-ls"
    catch _ => openLog more

/-- Writes the files of a tree that differ from those of another one. -/
def keep (before after : Files.Tree) : IO Unit :=
  after.files.forM fun place => do
    match after.read? place with
    | some content =>
      if before.read? place != some content then
        IO.FS.writeBinFile place.path ⟨content.toArray⟩
    | none => pure ()

/-- Runs the checks that have been scheduled. -/
def checkAll (h : Host) (f : Flights) : List Run → IO Flights
  | [] => return f
  | run :: more => do
    let found ← withFiles h (h.candidates run.settings.compiler)
    let (outcome, tree) :=
      found.check s!"{run.generation}" none run.settings run.text
    try keep found.tree tree catch _ => pure ()
    checkAll h ((f.start run.generation).complete run.generation outcome) more

/-- Sends bytes to the editor.  The session ends when they cannot be sent. -/
def emit (x : Conversation) (bytes : List UInt8) : IO Conversation := do
  try
    let out ← IO.getStdout
    out.write ⟨bytes.toArray⟩
    out.flush
    return x
  catch _ => return { x with ending := some (.unwritable (.channel .closed)) }

/-- Carries on a conversation to its end. -/
partial def converse (h : Host) (x : Conversation) : IO SessionEnd := do
  if let some ending := x.ending then return ending
  let bytes ← (← IO.getStdin).read (Frame.wanted x.pending).toUSize
  let (x, exchange) := x.feed bytes.toList bytes.isEmpty
  let x ← emit x exchange.written
  let flights ← checkAll h x.server.flights x.server.flights.scheduled
  let (x, exchange) := (x.withFlights flights).handleAll
  converse h (← emit x exchange.written)

/-- A session under the options of the command line. -/
def serve (options : Options) : IO UInt32 := do
  let h ← bareHost
  openLog (Location.logs h.environment (options.get? .logFile))
  let h ← withFiles h (Location.config? h.environment).toList
  match Program.server h options with
  | .error e =>
    IO.eprintln (Program.complaint e.message)
    return 1
  | .ok server =>
    let ending ← converse h (.start server none)
    if let some message := ending.errorMessage? then IO.eprintln (Program.complaint message)
    return ending.exitCode.toUInt32

/-- Does what the command line asks for. -/
def run (arguments : List String) : IO UInt32 := do
  match Request.ofArguments arguments with
  | .serve options => serve options
  | .help =>
    IO.print Request.helpText
    return 0
  | .version =>
    IO.print Request.versionText
    return 0
  | .refused =>
    IO.eprintln "error: these arguments cannot be used; try '--help'"
    return Request.refusedCode.toUInt32

end DiagnosticBridge.Main

/-- The program. -/
def main (arguments : List String) : IO UInt32 := DiagnosticBridge.Main.run arguments
