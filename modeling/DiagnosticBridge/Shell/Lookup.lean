import DiagnosticBridge.Shell.Source
import DiagnosticBridge.Shell.State

namespace DiagnosticBridge.Shell

/-!
# What the name of a command stands for

A name with a slash is a path.  Any other name is looked for among the functions, then among the
builtins, and then in the directories in which programs are kept.
-/

/-- The builtins that belong to the language itself. -/
def specialBuiltins : List String :=
  [".", ":", "break", "continue", "eval", "exec", "exit", "export", "local", "readonly", "return",
    "set", "shift", "times", "trap", "unset"]

/-- The other builtins. -/
def otherBuiltins : List String :=
  ["[", "alias", "bg", "cd", "command", "echo", "false", "fg", "getopts", "hash", "jobs", "kill",
    "printf", "pwd", "read", "test", "true", "type", "ulimit", "umask", "unalias",
    "wait"]

/-- The builtins whose arguments may be assignments. -/
def declaringBuiltins : List String := ["export", "readonly", "local", "alias"]

/-- What a name stands for. -/
inductive Meaning where
  | function (f : Function)
  | builtin (name : String)
  /-- A program, at a path. -/
  | program (path : Text)
  /-- Nothing, for a reason. -/
  | nothing (fault : Files.Fault)

/-- How a shell words the reason why a program cannot be run. -/
def programWords (fault : Files.Fault) : Text :=
  match fault with
  | .missing => "not found".toList
  | .notDirectory => "not found".toList
  | fault => fault.words.toList

/-- How it words the reason why a file cannot be opened or made. -/
def fileWords (isMade : Bool) (fault : Files.Fault) : Text :=
  if fault = .missing || fault = .notDirectory then
    if isMade then "Directory nonexistent".toList else "No such file".toList
  else fault.words.toList

/-- The status of a shell that could not run a program for a reason. -/
def programStatus (fault : Files.Fault) : Nat :=
  if [.missing, .notDirectory, .nameTooLong, .tooManyLevels].contains fault then 127 else 126

/-- The search path where none is chosen. -/
def usualPath : Text := "/usr/local/sbin:/usr/local/bin:/usr/sbin:/usr/bin:/sbin:/bin".toList

/-- The directories in which programs are looked for where none are chosen. -/
def usualDirectories : List Text := usualPath.splitOn ':'

/-- The path of a program in the directories of a search path. -/
def searchProgram (directories : List Text) (name : Text) : ShellM (Attempt Text) := do
  let s ← get
  return directories.foldl (fun found directory =>
      match found with
      | .ok path => .ok path
      | .error fault =>
        let path := if directory.isEmpty then name else directory ++ '/' :: name
        match s.tree.find s.process.directory (stringOf path) with
        | .ok (_, entry) => if entry.isRunnable then .ok path else .error .notPermitted
        | .error .missing => .error fault
        | .error .notDirectory => .error fault
        | .error other => .error other)
    (.error .missing)

/-- What a name stands for, if programs are looked for in these directories. -/
def meaningOf (directories : List Text) (countsFunctions : Bool) (name : Text) :
    ShellM Meaning := do
  if name.contains '/' then return .program name
  let p ← ShellM.process
  match (if countsFunctions then p.functions.get? (String.ofList name) else none) with
  | some f => return .function f
  | none =>
    let text := String.ofList name
    if specialBuiltins.contains text || otherBuiltins.contains text then return .builtin text
    match ← searchProgram directories name with
    | .ok path => return .program path
    | .error fault => return .nothing fault

/-- How a name is explained, if programs are looked for in these directories. -/
def explanation (directories : List Text) (name : Text) : ShellM (Option Text) := do
  let text := String.ofList name
  if keywords.contains text then return some " is a shell keyword".toList
  if let some value := (← ShellM.process).aliases.lookup text then
    return some (" is an alias for ".toList ++ value)
  match ← meaningOf directories true name with
  | .function _ => return some " is a shell function".toList
  | .builtin _ =>
    return some <|
      (if specialBuiltins.contains text then " is a special shell builtin"
        else " is a shell builtin").toList
  | .program path =>
    match ← ShellM.find? path with
    | some entry => return if entry.isRunnable then some (" is ".toList ++ path) else none
    | none => return none
  | .nothing _ => return none

/-- How an alias is shown. -/
def aliasText (name : String) (value : Text) : Text := name.toList ++ '=' :: quoted value

/-- The path or the name by which a command is called, if programs are looked for in these
    directories; none if it is not there. -/
def callName? (directories : List Text) (name : Text) : ShellM (Option Text) := do
  if keywords.contains (String.ofList name) then return some name
  if let some value := (← ShellM.process).aliases.lookup (String.ofList name) then
    return some ("alias ".toList ++ aliasText (String.ofList name) value)
  match ← meaningOf directories true name with
  | .function _ => return some name
  | .builtin _ => return some name
  | .program path =>
    match ← ShellM.find? path with
    | some entry => return if entry.isRunnable then some path else none
    | none => return none
  | .nothing _ => return none

end DiagnosticBridge.Shell
