import DiagnosticBridge.Shell.Execution
import DiagnosticBridge.Utility.Catalogue

namespace DiagnosticBridge.Shell

/-!
# Starting programs

A program is a file of the system, or a script: a file whose first line names the program that is
to run it.  Such a program may be a script itself.  From outside the shell all of this is reached
through `Shell.launcher`.
-/

namespace Launch

/-- How many bytes of a file are looked at for its first line. -/
def headSize : Nat := 256

/-- The program that a script's first line names, and the argument there.  A line that has no end
    keeps the blanks at its end; a path that goes on too far is none. -/
def interpreter? (script : Text) : Option (Text × Option Text) :=
  match script.take headSize with
  | '#' :: '!' :: rest =>
    let isEnd (c : Char) : Bool := isBlank c || c == '\x00'
    let trimmed (text : Text) : Text := (text.reverse.dropWhile isBlank).reverse
    let hasEnd := rest.contains '\n'
    let line := (if hasEnd then rest.takeWhile (· != '\n') else rest.take (headSize - 3)).dropWhile
      isBlank
    let path := line.takeWhile (!isEnd ·)
    let goesOn := !hasEnd && line.length == path.length &&
      ((rest[headSize - 3]?).map (!isEnd ·)).getD false
    let shown := if hasEnd || rest.length + 3 ≥ headSize then trimmed line else line
    let argument := match shown.drop path.length with
      | [] => none
      | '\x00' :: _ => none
      | after => some ((after.dropWhile isBlank).takeWhile (· != '\x00'))
    let isFull := hasEnd || rest.length + 2 == headSize
    if goesOn || (isFull && path.isEmpty) then none else some (path, argument)
  | _ => none

/-- The program of the system that runs a file, and its arguments, its name the first of them; or
    the reason why there is none.  The fuel bounds how many scripts run scripts. -/
def resolve (path : Text) (arguments : List Text) : Nat → ShellM (Attempt (String × List Text))
  | 0 => return .error .tooManyLevels
  | fuel + 1 => do
    match ← ShellM.find path with
    | .error fault => return .error fault
    | .ok (_, .utility name) => return .ok (name, arguments)
    | .ok (_, .file content true) =>
      match interpreter? (ofBytes content) with
      | none => return .error .badFormat
      | some (program, argument) =>
        resolve (if program.isEmpty then ['/'] else program)
          (program :: argument.toList ++ path :: arguments.drop 1) fuel
    | .ok _ => return .error .notPermitted

/-- How many scripts may run scripts, with the program of the system that comes last. -/
def levels : Nat := 6

/-- How many processes may wait for one another. -/
def greatestDescent : Nat := 2000

/-- How a program in a process of a number begins: it sees the same environment. -/
def loaded (p : Process) (number : Nat) (arguments : List Text) : Process :=
  let bindings := (ShellM.exported p).foldl (fun bindings (name, value) =>
    bindings.insert (String.ofList name) (⟨some value, true, false⟩ : Binding)) Table.empty
  { p with
    number := number, shellNumber := number
    ancestors := if number == p.number then p.ancestors else p.number :: p.ancestors
    title := arguments.head?.getD [], arguments := arguments.drop 1
    bindings := bindings, functions := .empty, options := []
    traps := p.traps.filter fun (_, action) => action.isEmpty
    status := 0, line := 0, reached := 0, builtin := none
    skip := none, loops := 0, depth := 0, locals := []
    aliases := [], documents := [], nextDocument := 0, jobs := [], lastJob := none
    optionPlace := ShellM.placeOf 1
    clock := p.clock + loadTime, givesPlace := false }

/-- The end of a program, unless a signal has come that ended it before. -/
def orKilled (ev : Evaluator) (ending : Ending) : ShellM Ending := do
  ShellM.passUntil ev.task (← ShellM.process).clock
  match ← ShellM.firstSignal? fun p d => p.diesOf d.signal && d.time ≤ p.clock with
  | some d =>
    ShellM.update fun p => { p with clock := d.time }
    return .killed d.signal
  | none => return ending

/-- Begins a process, or goes on in this one, with a program, and runs it to its end. -/
def inProcess (ev : Evaluator) (inPlace : Bool) (arguments : List Text) (body : ShellM Nat) :
    ShellM Ending := do
  let s ← get
  let before := s.process
  if before.ancestors.length ≥ greatestDescent then throw .endless
  let number := if inPlace then before.number else s.nextNumber
  set { s with nextNumber := s.nextNumber + 1, process := loaded before number arguments }
  let ending ← ShellM.ensuring
    (tryCatch (do orKilled ev (.exited ((← body) % 256))) fun stop => do
      match stop with
      | .killed victim signal =>
        if victim == number then return .killed signal else throw stop
      | .exit status => orKilled ev (.exited ((status.getD 0) % 256))
      | .error => orKilled ev (.exited (← ShellM.process).status)
      | .endless => throw .endless)
    (ShellM.resume before)
  ShellM.noticeChild
  return ending

/-! ### Shells -/

/-- Binds the names that every shell knows. -/
def bindUsual : ShellM Unit := do
  let p ← ShellM.process
  let invalid := p.bindings.keys.filter fun name => !isName name.toList
  ShellM.update fun p => { p with bindings := invalid.foldl Table.erase p.bindings }
  let set (name : String) (value : Text) : ShellM Unit := do
    let old := (ShellM.binding? p name.toList).getD ⟨none, false, false⟩
    ShellM.bind name.toList { old with value := some value }
  let usual (name : String) (value : Text) : ShellM Unit := do
    if (ShellM.value? p name.toList).isNone then set name value
  if let some value := ShellM.value? p ShellM.optionCounter.toList then
    ShellM.update fun p => { p with title := "sh".toList }
    let _ ← ShellM.number value
    ShellM.update fun process => { process with title := p.title }
  set "IFS" usualSeparators
  set ShellM.optionCounter ['1']
  set "PPID" (decimal (p.ancestors.head?.getD 0))
  usual "PATH" usualPath
  usual "PS1" ['#', ' ']
  usual "PS2" ['>', ' ']
  usual "PS4" ['+', ' ']
  let known := (ShellM.value? p "PWD".toList).getD []
  let isRight := known.head? == some '/' &&
    (match ← ShellM.find known with
      | .ok (place, _) => place == p.directory
      | .error _ => false)
  let name := if isRight then known else ofString p.directory.path
  ShellM.bind "PWD".toList ⟨some name, true, false⟩
  ShellM.update fun p => { p with directoryName := name }

/-- Deals with the options that a shell is started with.  Gives the other arguments, and whether
    the first of them is a command.  The fuel bounds their number. -/
def shellOptions (isCommand : Bool) (arguments : List Text) : Nat → ShellM (List Text × Bool)
  | 0 => return (arguments, isCommand)
  | fuel + 1 => do
    match arguments with
    | ['-'] :: rest => return (rest, isCommand)
    | ['-', '-'] :: rest => return (rest, isCommand)
    | (sign :: letters) :: rest =>
      if (sign != '-' && sign != '+') || letters.isEmpty then return (arguments, isCommand)
      let rest ← letters.foldlM (fun rest c => do
        if c == 'o' then
          match rest with
          | [] => return []
          | name :: rest =>
            let _ ← Builtin.setOptions [[sign, 'o'], name] 2
            return rest
        if c != 'c' && c != 'l' then Builtin.setLetters (sign == '-') [c]
        return rest) rest
      shellOptions (isCommand || letters.contains 'c') rest fuel
    | arguments => return (arguments, isCommand)

/-- The script that a shell is started with, after its options. -/
def scriptOf (arguments : List Text) (isCommand : Bool) : ShellM Text := do
  let name (rest : List Text) : ShellM Unit :=
    match rest with
    | [] => ShellM.update fun p => { p with arguments := [] }
    | title :: rest => ShellM.update fun p => { p with title := title, arguments := rest }
  match arguments with
  | [] =>
    if isCommand then ShellM.failWith "-c requires an argument"
    ShellM.update fun p => { p with arguments := [] }
    ShellM.readInput
  | first :: rest =>
    if isCommand then
      name rest
      return first
    else if ← ShellM.hasOption 's' then
      ShellM.update fun p => { p with arguments := arguments }
      ShellM.readInput
    else
      match ← ShellM.find first with
      | .error fault =>
        ShellM.fail ("cannot open ".toList ++ first ++ ": ".toList ++ fileWords false fault)
      | .ok (place, _) =>
        let content := ((← get).tree.read? place).getD []
        name (first :: rest)
        return ofBytes content

/-- Runs a shell. -/
def shell (ev : Evaluator) : ShellM Nat := do
  let ending ← Execution.toEnd ev (do
    bindUsual
    let p ← ShellM.process
    let (rest, isCommand) ← shellOptions false p.arguments (p.arguments.length + 1)
    let text ← scriptOf rest isCommand
    ev.script false text)
  match ending with
  | .exited status => return status
  | .killed signal => return 128 + signal

/-- The programs of the system that are shells. -/
def shells : List String := ["sh", "dash", "bash"]

/-- Runs a program of the system. -/
def runProgram (ev : Evaluator) (inPlace : Bool) (name : String) (arguments : List Text) :
    ShellM Ending :=
  inProcess ev inPlace arguments (if shells.contains name then shell ev else Utility.run ev name)

/-- Runs the program at a path, as a system does. -/
def program (ev : Evaluator) (inPlace : Bool) (path : Text) (arguments : List Text) :
    ShellM (Attempt Ending) := do
  match ← resolve path arguments levels with
  | .error fault => return .error fault
  | .ok (name, arguments) => return .ok (← runProgram ev inPlace name arguments)

/-- Runs the program at a path, as a shell does: a file that is no program is taken for a script
    of the shell. -/
def programForShell (ev : Evaluator) (inPlace : Bool) (path : Text) (arguments : List Text) :
    ShellM (Attempt Ending) := do
  ShellM.passUntil ev.task ((← ShellM.process).clock + loadTime)
  match ← program ev inPlace path arguments with
  | .error .badFormat =>
    return .ok (← runProgram ev inPlace "sh" ("/bin/sh".toList :: path :: arguments.drop 1))
  | result => return result

end Launch

/-- What runs commands that are nested to a given depth.  Beyond it a process has no more room, and
    is killed. -/
def Evaluator.ofDepth : Nat → Evaluator
  | 0 =>
    let stop {α : Type} : ShellM α := do throw (.killed (← ShellM.process).number 11)
    ⟨fun _ _ => stop, fun _ _ => stop, fun _ _ _ => stop, fun _ => stop⟩
  | depth + 1 =>
    let ev := Evaluator.ofDepth depth
    ⟨Execution.command ev, Execution.script ev, Launch.programForShell ev, Execution.runTask ev⟩

/-- How deep commands may be nested. -/
def greatestDepth : Nat := 10000

/-- What runs commands. -/
def evaluator : Evaluator := Evaluator.ofDepth greatestDepth

/-- Runs the program at a path, with its name and arguments, until neither it nor its tasks have
    anything left to do. -/
def runToLast (path : Text) (arguments : List Text) : ShellM (Attempt Ending) := do
  let result ← Launch.program evaluator false path arguments
  ShellM.passAll evaluator.task (← ShellM.process).number
  return result

end DiagnosticBridge.Shell
