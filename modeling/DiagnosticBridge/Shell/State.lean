import DiagnosticBridge.Files.Tree
import DiagnosticBridge.Shell.Chunk
import DiagnosticBridge.Shell.Command
import DiagnosticBridge.Shell.Number
import DiagnosticBridge.Shell.Signal
import DiagnosticBridge.Shell.Source

namespace DiagnosticBridge.Shell

/-!
# The state of processes

A process reads from and writes to channels, by the numbers of its descriptors.  Files and channels
belong to the system and are shared by all processes; everything else belongs to a process, and a
child of it begins with a copy.

Every process has a clock, but only one process is looked at at a time.  A child for which its
parent waits is looked at at once, and to its end; another one is a *task*, which is looked at step
by step as time passes for others.  What is written is sorted in by its time, and a signal reaches a
process when the clock of that has come to the signal's time.  A task that has already gone past
that time is looked at again from the step before; what it has written since is taken back.

* `ShellM` — what a process does: it changes the state, and may stop before its end.
-/

/-- Where descriptors lead. -/
inductive Channel where
  /-- Nothing can be read, and what is written is lost. -/
  | nowhere
  /-- A directory, of which the names cannot be read in that way. -/
  | directory
  /-- What is written is kept, the latest first. -/
  | report (written : List Chunk)
  /-- A file at an offset; writing goes to its end if it appends. -/
  | file (place : Files.Place) (offset : Nat) (appends canRead canWrite : Bool)
  /-- What is written can be read, the earliest first; after a time nothing more is written. -/
  | pipe (unread : List Chunk) (closed : Nat)

/-- What a shell knows of a name. -/
structure Binding where
  /-- Its value, if it has one. -/
  value : Option Text
  /-- Whether programs get to see it. -/
  isExported : Bool
  /-- Whether its value stays. -/
  isReadonly : Bool

/-- A command with a name. -/
structure Function where
  /-- The command. -/
  body : Command

/-- What makes a shell skip commands. -/
inductive Skip where
  /-- So many loops are left. -/
  | leave (loops : Nat)
  /-- All but one of so many loops are left, and that one goes on. -/
  | resume (loops : Nat)
  /-- A function is left. -/
  | back
  deriving DecidableEq

/-- What a shell knows of a task that it has begun. -/
structure Job where
  /-- The number of the task's process. -/
  number : Nat
  /-- The number of the job in the shell. -/
  slot : Nat
  /-- Whether the shell has been told the status; then it forgets the job with the next process. -/
  isKnown : Bool

/-- A process. -/
structure Process where
  /-- The number by which it is known. -/
  number : Nat
  /-- The number of the shell that was started, of which this one may be a part. -/
  shellNumber : Nat
  /-- The numbers of the processes that it comes from, its parent first. -/
  ancestors : List Nat
  /-- The name under which it runs. -/
  title : Text
  /-- Its arguments. -/
  arguments : List Text
  /-- What is bound to names. -/
  bindings : Table Binding
  /-- The functions. -/
  functions : Table Function
  /-- The channels of descriptors. -/
  descriptors : List (Nat × Nat)
  /-- The working directory. -/
  directory : Files.Place
  /-- The working directory as it is known to the shell. -/
  directoryName : Text
  /-- The letters of the options. -/
  options : Text
  /-- What is done on signals. -/
  traps : List (Nat × Text)
  /-- The status of the last command. -/
  status : Nat
  /-- The status of the last command substitution in the words of a command. -/
  substitutionStatus : Nat
  /-- The line to which messages refer. -/
  line : Nat
  /-- The line up to which the script has been read. -/
  reached : Nat
  /-- The builtin that is running. -/
  builtin : Option Text
  /-- What commands are skipped for. -/
  skip : Option Skip
  /-- How many loops are running. -/
  loops : Nat
  /-- How many functions are running. -/
  depth : Nat
  /-- What names were bound to before functions made them local, the innermost function first. -/
  locals : List (List (Text × Option Binding))
  /-- The words that stand for texts. -/
  aliases : Aliases
  /-- The texts that redirections take from the script. -/
  documents : Documents
  /-- The number of the next such text. -/
  nextDocument : Nat
  /-- The jobs, the latest one first. -/
  jobs : List Job
  /-- The number of the latest task. -/
  lastJob : Option Nat
  /-- Where a search for options stands: the next argument, and how much of it is done. -/
  optionPlace : Nat × Nat
  /-- Which permissions new files lack. -/
  mask : Nat
  /-- What time it is for the process. -/
  clock : Nat
  /-- When it last waited for a child. -/
  lastWait : Nat
  /-- Whether the next program that it starts takes its place. -/
  givesPlace : Bool

/-- A signal on its way. -/
structure Delivery where
  /-- The number of the process to which it was sent. -/
  target : Nat
  /-- The signal. -/
  signal : Nat
  /-- When it was sent. -/
  time : Nat
  /-- The number of the process that sent it, and those of its ancestors. -/
  senders : List Nat

/-- How far a task has been looked at. -/
inductive Stage where
  /-- It goes on like this, one step after the other. -/
  | paused (process : Process) (steps : List Command)
  /-- It is being looked at. -/
  | running
  /-- To its end, at a time. -/
  | over (ending : Ending) (time : Nat)
  /-- It would go on for too long. -/
  | endless

/-- A process that its parent does not wait for when it begins. -/
structure Task where
  /-- The number of the process. -/
  number : Nat
  /-- The numbers of the processes that it comes from. -/
  ancestors : List Nat
  /-- The redirections of all that it does, if it has not begun. -/
  opening : Option (List Redirection)
  /-- How far it has been looked at. -/
  stage : Stage
  /-- The process and its steps as they were before each step, the last one first. -/
  past : List (Process × List Command)
  /-- The signals that it has been sent. -/
  signals : List Delivery

/-- When a task ends, if that is known. -/
def Task.end? (t : Task) : Option Nat :=
  match t.stage with
  | .over _ time => some time
  | _ => none

/-- Whether a task has ended at a time. -/
def Task.hasEnded (t : Task) (now : Nat) : Bool := t.end?.any (· ≤ now)

/-- When a task goes on, if it does. -/
def Task.next? (t : Task) : Option Nat :=
  match t.stage with
  | .paused process _ => some process.clock
  | _ => none

/-- The state. -/
structure State where
  /-- The files. -/
  tree : Files.Tree
  /-- The channels. -/
  channels : Array Channel
  /-- The signals on their way. -/
  pending : List Delivery
  /-- The tasks, the first one first. -/
  tasks : List Task
  /-- The numbers of the shells that have ended, and when they did. -/
  ended : List (Nat × Nat)
  /-- The number of the next process. -/
  nextNumber : Nat
  /-- How many commands may still run. -/
  patience : Nat
  /-- Whether output of the builtin that is running could not be written. -/
  hasLostOutput : Bool
  /-- The process. -/
  process : Process

/-- Why a process stops. -/
inductive Stop where
  /-- It ends, with a status if one is given, or else with that of its last command. -/
  | exit (status : Option Nat)
  /-- It has said that something is wrong. -/
  | error
  /-- A signal ends the process of a number. -/
  | killed (number signal : Nat)
  /-- It would go on for too long. -/
  | endless
  deriving DecidableEq

/-- What a process does. -/
abbrev ShellM := ExceptT Stop (StateM State)

/-- Something that may go wrong for a reason that files have. -/
abbrev Attempt := Except Files.Fault

namespace ShellM

/-- The process. -/
def process : ShellM Process := do return (← get).process

/-- Changes the process. -/
def update (change : Process → Process) : ShellM Unit :=
  modify fun s => { s with process := change s.process }

/-- Sets the status. -/
def setStatus (status : Nat) : ShellM Unit := update fun p => { p with status := status }

/-- Lets time pass until a time. -/
def advance (time : Nat) : ShellM Unit := update fun p => { p with clock := max p.clock time }

/-! ### Channels -/

/-- The channel of a descriptor, and its index. -/
def channel? (descriptor : Nat) : ShellM (Option (Nat × Channel)) := do
  let s ← get
  match s.process.descriptors.lookup descriptor with
  | none => return none
  | some index => return (s.channels[index]?).map (index, ·)

/-- Makes a channel and gives its index. -/
def addChannel (channel : Channel) : ShellM Nat := do
  let s ← get
  set { s with channels := s.channels.push channel }
  return s.channels.size

/-- Changes a channel. -/
def setChannel (index : Nat) (channel : Channel) : ShellM Unit :=
  modify fun s => { s with channels := s.channels.setIfInBounds index channel }

/-- Leads a descriptor to a channel. -/
def connect (descriptor index : Nat) : ShellM Unit := update fun p =>
  { p with
    descriptors := (descriptor, index) :: p.descriptors.filter (·.1 != descriptor) }

/-- Closes a descriptor. -/
def disconnect (descriptor : Nat) : ShellM Unit := update fun p =>
  { p with descriptors := p.descriptors.filter (·.1 != descriptor) }

/-- What can be read from a channel now. -/
def contentOf (s : State) : Channel → Attempt Text
  | .nowhere => .ok []
  | .directory => .error .isDirectory
  | .report _ => .error .badDescriptor
  | .file place offset _ canRead _ =>
    if canRead then .ok (ofBytes (((s.tree.read? place).getD []).drop offset))
    else .error .badDescriptor
  | .pipe unread _ => .ok (Chunk.textOf unread)

/-- What can be read from a descriptor. -/
def available (descriptor : Nat) : ShellM (Attempt Text) := do
  match ← channel? descriptor with
  | none => return .error .badDescriptor
  | some (_, channel) => return contentOf (← get) channel

/-- Passes over characters that have been read. -/
def consume (descriptor count : Nat) : ShellM Unit := do
  match ← channel? descriptor with
  | some (index, .file place offset appends canRead canWrite) =>
    setChannel index (.file place (offset + count) appends canRead canWrite)
  | some (index, .pipe unread closed) =>
    let (time, left) := Chunk.dropChars 0 count unread
    advance time
    setChannel index (.pipe left closed)
  | _ => return

/-- Waits until nothing more is written to where a descriptor leads. -/
def awaitEnd (descriptor : Nat) : ShellM Unit := do
  match ← channel? descriptor with
  | some (_, .pipe _ closed) => advance closed
  | _ => return

/-- Reads all that can be read. -/
def readAll (descriptor : Nat) : ShellM (Attempt Text) := do
  match ← available descriptor with
  | .error fault => return .error fault
  | .ok content =>
    consume descriptor content.length
    awaitEnd descriptor
    return .ok content

/-- Reads what was written at once, or all of it if that is not known; nothing at the end. -/
def readPart (descriptor : Nat) : ShellM (Attempt Text) := do
  match ← channel? descriptor with
  | some (index, .pipe (first :: rest) closed) =>
    advance first.time
    setChannel index (.pipe rest closed)
    return .ok first.text
  | _ => readAll descriptor

/-- Reads part by part as long as that is wanted.  The fuel bounds the number of parts. -/
def foldPartsFrom {σ : Type} (descriptor : Nat) (use : σ → Text → ShellM (σ × Bool)) (state : σ) :
    Nat → ShellM (Attempt σ)
  | 0 => return .ok state
  | fuel + 1 => do
    match ← readPart descriptor with
    | .error fault => return .error fault
    | .ok [] => return .ok state
    | .ok part =>
      let (state, goesOn) ← use state part
      if goesOn then foldPartsFrom descriptor use state fuel else return .ok state

/-- Reads part by part as long as that is wanted. -/
def foldParts {σ : Type} (descriptor : Nat) (use : σ → Text → ShellM (σ × Bool)) (state : σ) :
    ShellM (Attempt σ) := do
  let count := match ← channel? descriptor with
    | some (_, .pipe unread _) => unread.length
    | _ => 1
  foldPartsFrom descriptor use state (count + 1)

/-- What can be read from the input, if anything. -/
def readInput : ShellM Text := do return ((← readAll 0).toOption).getD []

/-- Writes to a descriptor; says whether that is possible.  An empty text leaves no chunk in a pipe,
    as it would be taken for the end there. -/
def write (descriptor : Nat) (text : Text) : ShellM Bool := do
  match ← channel? descriptor with
  | none => return false
  | some (index, channel) =>
    let p ← process
    let chunk : Chunk := ⟨p.clock, p.number :: p.ancestors, text⟩
    match channel with
    | .nowhere => return true
    | .directory => return false
    | .report written =>
      setChannel index (.report (chunk.insertFirst written))
      return true
    | .pipe unread closed =>
      if !text.isEmpty then setChannel index (.pipe (chunk.insertLast unread) closed)
      return true
    | .file place offset appends canRead canWrite =>
      if !canWrite then return false
      let s ← get
      let start := if appends then ((s.tree.read? place).getD []).length else offset
      set { s with
        tree := s.tree.update place fun content =>
          Files.Tree.overwrite content start (toBytes text) }
      setChannel index (.file place (start + text.length) appends canRead canWrite)
      return true

/-- Writes to the output. -/
def print (text : Text) : ShellM Unit := do
  if !text.isEmpty && !(← write 1 text) then modify fun s => { s with hasLostOutput := true }

/-- Writes to where messages go. -/
def report (text : Text) : ShellM Unit := do
  if !text.isEmpty then
    let _ ← write 2 text

/-- Closes all descriptors: where they lead, nothing more is written by this process. -/
def closeAll : ShellM Unit := do
  let p ← process
  p.descriptors.forM fun (_, index) => do
    match (← get).channels[index]? with
    | some (.pipe unread closed) => setChannel index (.pipe unread (max closed p.clock))
    | _ => return

/-- Goes back to a process that has waited for this one to end. -/
def resume (before : Process) : ShellM Unit := do
  closeAll
  update fun p =>
    let now := p.clock + noticeTime
    { before with clock := now, lastWait := now }

/-! ### Messages -/

/-- Says something about the command on the current line. -/
def warn (message : Text) : ShellM Unit := do
  let p ← process
  let builtin := match p.builtin with
    | some name => name ++ ": ".toList
    | none => []
  report (p.title ++ ": ".toList ++ decimal p.line ++ ": ".toList ++ builtin ++ message ++ ['\n'])

/-- Stops with an error. -/
def fail {α : Type} (message : Text) : ShellM α := do
  warn message
  setStatus 2
  throw .error

/-- Stops with an error in words. -/
def failWith {α : Type} (message : String) : ShellM α := fail (ofString message)

/-- The number that a text denotes where only a number will do. -/
def number (text : Text) : ShellM Nat :=
  match count? text with
  | some n => return n
  | none => fail ("Illegal number: ".toList ++ text)

/-! ### Names -/

/-- What a name is bound to. -/
def binding? (p : Process) (name : Text) : Option Binding :=
  p.bindings.get? (String.ofList name)

/-- The value of a name. -/
def value? (p : Process) (name : Text) : Option Text := (binding? p name).bind (·.value)

/-- Binds a name, whatever it was bound to. -/
def bind (name : Text) (binding : Binding) : ShellM Unit := update fun p =>
  { p with bindings := p.bindings.insert (String.ofList name) binding }

/-- The name whose value is the number of the argument at which a search for options goes on. -/
def optionCounter : String := "OPTIND"

/-- The place at which a search for options goes on, at the beginning of an argument; the first
    has the number one, and zero means the first. -/
def placeOf (argument : Nat) : Nat × Nat := (max 1 argument, 0)

/-- Moves the search for options, if that is what a new value of the name does. -/
def moveSearch (name value : Text) : ShellM Unit := do
  if String.ofList name == optionCounter then
    let argument ← number value
    update fun p => { p with optionPlace := placeOf argument }

/-- Gives a name a value. -/
def assign (name value : Text) : ShellM Unit := do
  let p ← process
  let old := (binding? p name).getD ⟨none, false, false⟩
  if old.isReadonly then fail (name ++ ": is read only".toList)
  moveSearch name value
  bind name ⟨some value, old.isExported || p.options.contains 'a', false⟩

/-- Takes the value of a name away, and what else it is bound to. -/
def unbind (name : Text) : ShellM Unit := do
  let p ← process
  if ((binding? p name).map (·.isReadonly)).getD false then
    fail (name ++ ": is read only".toList)
  moveSearch name []
  update fun p => { p with bindings := p.bindings.erase (String.ofList name) }

/-- Makes a name local to the innermost function or command: what it is bound to now comes back at
    the end of that. -/
def makeLocal (name : Text) : ShellM Unit := update fun p =>
  match p.locals with
  | [] => p
  | frame :: outer =>
    if frame.any (·.1 == name) then p
    else { p with locals := ((name, binding? p name) :: frame) :: outer }

/-- Makes the options local. -/
def makeOptionsLocal : ShellM Unit := update fun p =>
  match p.locals with
  | [] => p
  | frame :: outer =>
    { p with locals := ((['-'], some ⟨some p.options, false, false⟩) :: frame) :: outer }

/-- Begins a part of a script that has local names. -/
def openLocals : ShellM Unit := update fun p => { p with locals := [] :: p.locals }

/-- Ends a part of a script that has local names. -/
def closeLocals : ShellM Unit := update fun p =>
  match p.locals with
  | [] => p
  | frame :: outer =>
    frame.foldl (fun (p : Process) (name, before) =>
      match before with
      | some binding =>
        if name == ['-'] then { p with options := binding.value.getD [] }
        else
          let place :=
            if String.ofList name == optionCounter then
              placeOf ((binding.value.bind count?).getD 1)
            else p.optionPlace
          { p with
            bindings := p.bindings.insert (String.ofList name) binding, optionPlace := place }
      | none => { p with bindings := p.bindings.erase (String.ofList name) })
      { p with locals := outer }

/-- Whether an option is set. -/
def hasOption (letter : Char) : ShellM Bool := do return (← process).options.contains letter

/-- The directories in which programs are looked for. -/
def searchPath (p : Process) : List Text :=
  ((value? p "PATH".toList).getD []).splitOn ':'

/-- The variables that programs see, with their values. -/
def exported (p : Process) : List (Text × Text) :=
  p.bindings.toList.filterMap fun (name, binding) =>
    match binding.isExported, binding.value with
    | true, some value => some (name.toList, value)
    | _, _ => none

/-! ### Files -/

/-- What is found at a path, and its place. -/
def find (path : Text) : ShellM (Attempt (Files.Place × Files.Entry)) := do
  let s ← get
  return s.tree.find s.process.directory (stringOf path)

/-- What is found at a path, if anything is. -/
def find? (path : Text) : ShellM (Option Files.Entry) := do
  let s ← get
  return s.tree.find? s.process.directory (stringOf path)

/-- Makes a change to the files that may go wrong. -/
def changeTree (change : Files.Tree → Files.Place → Attempt Files.Tree) :
    ShellM (Attempt Unit) := do
  let s ← get
  match change s.tree s.process.directory with
  | .ok tree =>
    set { s with tree := tree }
    return .ok ()
  | .error fault => return .error fault

/-- Runs something that may stop, and then something else in any case. -/
def ensuring {α : Type} (body : ShellM α) (after : ShellM Unit) : ShellM α := do
  let result ← tryCatch (do return Except.ok (← body)) (fun stop => return Except.error stop)
  after
  match result with
  | .ok value => return value
  | .error stop => throw stop

end ShellM

end DiagnosticBridge.Shell
