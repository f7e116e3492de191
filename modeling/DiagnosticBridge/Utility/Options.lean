import DiagnosticBridge.Shell.Number
import DiagnosticBridge.Shell.State

namespace DiagnosticBridge.Utility

open Shell

/-!
# Options of programs

Programs take options, by a letter or by a name, and operands; the two may be mixed.  Messages
begin with the name under which a program was started.
-/

/-- An option. -/
structure Choice where
  /-- Its letter. -/
  letter : Char
  /-- Its name; some have none. -/
  name : String
  /-- Whether it has an argument. -/
  hasArgument : Bool

/-- Options without arguments, by their letters. -/
def letters (text : String) : List Choice := text.toList.map (⟨·, "", false⟩)

/-- What a program is started with. -/
structure Usage where
  /-- The options, with their arguments. -/
  chosen : List (Char × Text)
  /-- The operands. -/
  operands : List Text

/-- What is wrong with a letter that is no option. -/
def invalidOption (letter : Char) : Text := "invalid option -- '".toList ++ [letter, '\'']

namespace Usage

/-- Whether an option is chosen. -/
def has (u : Usage) (letter : Char) : Bool := u.chosen.any (·.1 == letter)

/-- The argument of an option, the last one if there are several. -/
def argument? (u : Usage) (letter : Char) : Option Text :=
  ((u.chosen.filter (·.1 == letter)).getLast?).map (·.2)

/-- Adds an option in front. -/
def choose (u : Usage) (letter : Char) (argument : Text) : Usage :=
  { u with chosen := (letter, argument) :: u.chosen }

/-- Adds an operand in front. -/
def operand (u : Usage) (text : Text) : Usage := { u with operands := text :: u.operands }

/-- The options and operands in arguments, or what is wrong with them.  If `stopsEarly`, no option
    comes after an operand.  The fuel bounds their number. -/
def parse (choices : List Choice) (stopsEarly : Bool) (arguments : List Text) :
    Nat → Except Text Usage
  | 0 => .ok ⟨[], arguments⟩
  | fuel + 1 =>
    match arguments with
    | [] => .ok ⟨[], []⟩
    | ['-', '-'] :: rest => .ok ⟨[], rest⟩
    | ('-' :: '-' :: long) :: rest =>
      let name := long.takeWhile (· != '=')
      match choices.find? fun c => !c.name.isEmpty && c.name.toList == name with
      | none => .error ("unrecognized option '--".toList ++ long ++ ['\''])
      | some choice =>
        let given := if name.length < long.length then some (long.drop (name.length + 1)) else none
        match choice.hasArgument, given, rest with
        | false, none, _ => (parse choices stopsEarly rest fuel).map (·.choose choice.letter [])
        | false, some _, _ =>
          .error ("option '--".toList ++ name ++ "' doesn't allow an argument".toList)
        | true, some text, _ =>
          (parse choices stopsEarly rest fuel).map (·.choose choice.letter text)
        | true, none, text :: rest =>
          (parse choices stopsEarly rest fuel).map (·.choose choice.letter text)
        | true, none, [] =>
          .error ("option '--".toList ++ name ++ "' requires an argument".toList)
    | ('-' :: c :: more) :: rest =>
      match choices.find? (·.letter == c) with
      | none => .error (invalidOption c)
      | some choice =>
        if choice.hasArgument then
          match more, rest with
          | [], [] => .error ("option requires an argument -- '".toList ++ [c, '\''])
          | [], text :: rest => (parse choices stopsEarly rest fuel).map (·.choose c text)
          | text, rest => (parse choices stopsEarly rest fuel).map (·.choose c text)
        else
          let rest := if more.isEmpty then rest else ('-' :: more) :: rest
          (parse choices stopsEarly rest fuel).map (·.choose c [])
    | text :: rest =>
      if stopsEarly then .ok ⟨[], text :: rest⟩
      else (parse choices stopsEarly rest fuel).map (·.operand text)

/-- The options and operands in arguments, or what is wrong with them. -/
def ofArguments (choices : List Choice) (stopsEarly : Bool) (arguments : List Text) :
    Except Text Usage :=
  parse choices stopsEarly arguments (arguments.flatten.length + arguments.length + 1)

end Usage

/-- Says something in the name of the program. -/
def say (message : Text) : ShellM Unit := do
  ShellM.report ((← ShellM.process).title ++ ": ".toList ++ message ++ ['\n'])

/-- Says that something cannot be done for a reason. -/
def sayFault (message : Text) (fault : Files.Fault) : ShellM Unit :=
  say (message ++ ": ".toList ++ fault.words.toList)

/-- A text in quotes, as messages show it. -/
def inQuotes (text : Text) : Text := '\'' :: text ++ ['\'']

/-- Says how more can be learnt about the program. -/
def sayTry : ShellM Unit := do
  let title := (← ShellM.process).title
  ShellM.report ("Try '".toList ++ title ++ " --help' for more information.\n".toList)

/-- Refuses to start, and gives a status. -/
def refuse (status : Nat) (message : Text) : ShellM Nat := do
  say message
  sayTry
  return status

/-- Runs a program with its options and operands, or refuses to start. -/
def withOptions (status : Nat) (choices : List Choice) (stopsEarly : Bool)
    (body : Usage → ShellM Nat) : ShellM Nat := do
  match Usage.ofArguments choices stopsEarly (← ShellM.process).arguments with
  | .ok usage => body usage
  | .error message => refuse status message

/-- What can be read at a path. -/
def contentAt (path : Text) : ShellM (Attempt Text) := do
  match ← ShellM.find path with
  | .error fault => return .error fault
  | .ok (place, entry) =>
    match entry with
    | .directory => return .error .isDirectory
    | .descriptor n => ShellM.readAll n
    | _ => return .ok (ofBytes (((← get).tree.read? place).getD []))

/-- What can be read at a path, or from the input if the path is a hyphen. -/
def inputAt (path : Text) : ShellM (Attempt Text) := do
  if path == ['-'] then ShellM.readAll 0 else contentAt path

/-- Reads all inputs, one after the other: what is at the operands, or the input if there are none.
    Those that cannot be read are reported, and `failed` is the status then. -/
def forInputs (operands : List Text) (failed : Nat) (complain : Text → Files.Fault → ShellM Unit)
    (use : Text → Text → ShellM Unit) : ShellM Nat :=
  (if operands.isEmpty then [['-']] else operands).foldlM (fun status path => do
    match ← inputAt path with
    | .ok content =>
      use path content
      return status
    | .error fault =>
      complain path fault
      return failed) 0

/-- All inputs joined, and the status. -/
def joinedInputs (operands : List Text) (failed : Nat)
    (complain : Text → Files.Fault → ShellM Unit) : ShellM (List Text × Nat) :=
  (if operands.isEmpty then [['-']] else operands).foldlM (fun (found, status) path => do
    match ← inputAt path with
    | .ok content => return (found ++ [content], status)
    | .error fault =>
      complain path fault
      return (found, failed)) (([], 0) : List Text × Nat)

end DiagnosticBridge.Utility
