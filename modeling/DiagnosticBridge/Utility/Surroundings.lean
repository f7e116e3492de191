import DiagnosticBridge.Shell.Builtin
import DiagnosticBridge.Utility.Options

namespace DiagnosticBridge.Utility

open Shell

/-!
# Programs that deal with their surroundings

They show and change what programs find around them, run other programs, or wait.
-/

/-! ### Running programs -/

/-- Where programs are looked for where there is no search path. -/
def plainDirectories : List Text := ["/bin".toList, "/usr/bin".toList]

/-- Runs another program, perhaps in its own place; the status if that cannot be done is given. -/
def become (ev : Evaluator) (inPlace : Bool) (arguments : List Text)
    (complain : Files.Fault → ShellM Nat) : ShellM Nat := do
  let p ← ShellM.process
  let name := arguments.head?.getD []
  let directories := ((ShellM.value? p "PATH".toList).map (·.splitOn ':')).getD plainDirectories
  let found ← if name.contains '/' then pure (.ok name) else searchProgram directories name
  match found with
  | .error fault => complain fault
  | .ok path =>
    match ← ev.program inPlace path arguments with
    | .error fault => complain fault
    | .ok (.exited status) => return status
    | .ok (.killed signal) => throw (.killed p.number signal)

/-- Shows at which paths programs are found. -/
def which : ShellM Nat := do
  let p ← ShellM.process
  let isAll := p.arguments.head? == some ['-', 'a']
  let directories := ShellM.searchPath p
  (if isAll then p.arguments.drop 1 else p.arguments).foldlM (fun status name => do
    let paths := if name.contains '/' then [name] else directories.map fun directory =>
      (if directory.isEmpty then ['.'] else directory) ++ '/' :: name
    let found ← paths.filterM fun path => do
      return ((← ShellM.find? path).map (·.isRunnable)).getD false
    (if isAll then found else found.take 1).forM fun path => ShellM.print (path ++ ['\n'])
    return if found.isEmpty then 1 else status) (if p.arguments.isEmpty then 1 else 0)

/-! ### The environment -/

/-- The words of a text; quotes hold words together.  The fuel bounds the text's length. -/
def wordsOf (text : Text) : Nat → List Text
  | 0 => []
  | fuel + 1 =>
    match text.dropWhile isSpace with
    | [] => []
    | rest =>
      let (word, after) := go none rest
      word :: wordsOf after fuel
where
  /-- Takes a word, within quotes of a kind or not. -/
  go (within : Option Char) : Text → Text × Text
    | [] => ([], [])
    | c :: rest =>
      match within with
      | some mark =>
        if c == mark then go none rest
        else
          let (word, after) := go within rest
          (c :: word, after)
      | none =>
        if isSpace c then ([], rest)
        else if c == '"' || c == '\'' then go (some c) rest
        else
          let (word, after) := go none rest
          (c :: word, after)

/-- The arguments with the text of an option that is to be cut into words cut into them. -/
def withSplitText (arguments : List Text) : List Text :=
  let words (text : Text) : List Text := wordsOf text (text.length + 1)
  match arguments with
  | ['-', 'S'] :: text :: rest => words text ++ rest
  | ('-' :: 'S' :: text) :: rest => words text ++ rest
  | arguments =>
    match arguments with
    | first :: rest =>
      if "--split-string=".toList.isPrefixOf first then words (first.drop 15) ++ rest
      else arguments
    | [] => []

/-- Whether an argument sets something in the environment. -/
def isSetting (text : Text) : Bool := text.contains '='

/-- The options for a changed environment. -/
def envChoices : List Choice :=
  [⟨'i', "ignore-environment", false⟩, ⟨'u', "unset", true⟩, ⟨'0', "null", false⟩,
    ⟨'C', "chdir", true⟩]

/-- Says how a script can name several words that are to run it. -/
def sayShebang : ShellM Unit := say "use -[v]S to pass options in shebang lines".toList

/-- Shows the environment, or runs a program in a changed one. -/
def env (ev : Evaluator) : ShellM Nat := do
  match Usage.ofArguments envChoices true (withSplitText (← ShellM.process).arguments) with
  | .error message =>
    say message
    if " \t\n\x0b\x0c\r".toList.any (message == invalidOption ·) then sayShebang
    sayTry
    return 125
  | .ok u =>
    let (clears, operands) := match u.operands with
      | ['-'] :: rest => (true, rest)
      | rest => (u.has 'i', rest)
    ShellM.update fun p => { p with bindings := if clears then .empty else p.bindings }
    (u.chosen.filter (·.1 == 'u')).forM fun (_, name) => ShellM.update fun p =>
      { p with bindings := p.bindings.erase (String.ofList name) }
    (operands.takeWhile isSetting).forM fun text =>
      let name := text.takeWhile (· != '=')
      ShellM.bind name ⟨some (text.drop (name.length + 1)), true, false⟩
    match operands.dropWhile isSetting with
    | [] =>
      (ShellM.exported (← ShellM.process)).forM fun (name, value) =>
        ShellM.print (name ++ '=' :: value ++ ['\n'])
      return 0
    | command =>
      become ev true command fun fault => do
        let name := command.head?.getD []
        sayFault (inQuotes name) fault
        let isMissing := fault = .missing || fault = .notDirectory
        if isMissing && name.any isSpace then sayShebang
        return if isMissing then 127 else 126

/-- Shows the values of names in the environment. -/
def printenv : ShellM Nat :=
  withOptions 2 [⟨'0', "null", false⟩] true fun u => do
    let p ← ShellM.process
    if u.operands.isEmpty then
      (ShellM.exported p).forM fun (name, value) => ShellM.print (name ++ '=' :: value ++ ['\n'])
      return 0
    u.operands.foldlM (fun status name => do
      match ShellM.value? p name with
      | some value =>
        ShellM.print (value ++ ['\n'])
        return status
      | none => return 1) 0

/-- Shows the working directory. -/
def pwd : ShellM Nat := do
  ShellM.print (ofString (← ShellM.process).directory.path ++ ['\n'])
  return 0

/-! ### Running a program for words -/

/-- Takes lists of at most so many items off a list.  The fuel bounds their number. -/
def chunks {α : Type} (size : Nat) (items : List α) : Nat → List (List α)
  | 0 => []
  | fuel + 1 =>
    if items.isEmpty then [] else items.take size :: chunks size (items.drop size) fuel

/-- A text with all occurrences of a mark replaced.  The fuel bounds its length. -/
def replaceMark (mark target text : Text) : Nat → Text
  | 0 => text
  | fuel + 1 =>
    match text with
    | [] => []
    | c :: rest =>
      if !mark.isEmpty && mark.isPrefixOf text then
        target ++ replaceMark mark target (text.drop mark.length) fuel
      else c :: replaceMark mark target rest fuel

/-- Runs a program with words from the input as its arguments. -/
def xargs (ev : Evaluator) : ShellM Nat :=
  withOptions 1
    [⟨'0', "null", false⟩, ⟨'r', "no-run-if-empty", false⟩, ⟨'n', "max-args", true⟩,
      ⟨'I', "replace", true⟩, ⟨'t', "verbose", false⟩, ⟨'L', "max-lines", true⟩,
      ⟨'P', "max-procs", true⟩, ⟨'d', "delimiter", true⟩] true fun u => do
    let content ← ShellM.readInput
    let command := if u.operands.isEmpty then ["echo".toList] else u.operands
    let pieces (c : Char) : List Text :=
      let parts := content.splitOn c
      if parts.getLast? == some [] then parts.dropLast else parts
    let mark := u.argument? 'I'
    let words :=
      if u.has '0' then pieces '\x00'
      else if let some (c :: _) := u.argument? 'd' then pieces c
      else if mark.isSome then
        ((linesOf content).map (·.dropWhile isBlank)).filter (!·.isEmpty)
      else wordsOf content (content.length + 1)
    let size := ((u.argument? 'n').bind number?).getD (words.length + 1)
    let calls := match mark with
      | some mark => words.map fun word =>
          command.map fun text => replaceMark mark word text (text.length + 1)
      | none =>
        if words.isEmpty then if u.has 'r' then [] else [command]
        else (chunks (max size 1) words (words.length + 1)).map (command ++ ·)
    let input ← ShellM.addChannel .nowhere
    ShellM.connect 0 input
    let complain (fault : Files.Fault) : ShellM Nat := do
      sayFault (command.head?.getD []) fault
      return if fault = .missing || fault = .notDirectory then 127 else 126
    calls.foldlM (fun status call => do
      if status == 126 || status == 127 then return status
      let result ← become ev false call complain
      if result == 126 || result == 127 then return result
      return if result != 0 then 123 else status) 0

/-! ### Waiting -/

/-- How long a text denotes; infinity is as long as a run may take. -/
def duration? (text : Text) : Option Nat :=
  let unit := match text.getLast? with
    | some 's' => some 1
    | some 'm' => some 60
    | some 'h' => some 3600
    | some 'd' => some 86400
    | _ => none
  let digits := if unit.isSome then text.dropLast else text
  let whole := digits.takeWhile Char.isDigit
  let rest := digits.drop whole.length
  let size := oneSecond * unit.getD 1
  if ["inf".toList, "infinity".toList].contains (text.map Char.toLower) then some timeLimit
  else
    match rest with
    | '.' :: part =>
      if part.all Char.isDigit && !(whole.isEmpty && part.isEmpty) then
        let scale := part.foldl (fun n _ => n * 10) 1
        some (numberOf whole * size + numberOf part * size / scale)
      else none
    | [] => if whole.isEmpty then none else some (numberOf whole * size)
    | _ => none

/-- Waits.  One that waits for too long may still be killed. -/
def sleep (ev : Evaluator) : ShellM Nat :=
  withOptions 1 [] false fun u => do
    if u.operands.isEmpty then return ← refuse 1 "missing operand".toList
    match u.operands.find? fun text => (duration? text).isNone with
    | some wrong => refuse 1 ("invalid time interval ".toList ++ inQuotes wrong)
    | none =>
      let p ← ShellM.process
      let wakes := (u.operands.filterMap duration?).foldl (· + ·) p.clock
      if wakes < timeLimit then
        ShellM.advance wakes
        return 0
      ShellM.passUntil ev.task timeLimit
      match ← ShellM.firstSignal? fun p d => p.diesOf d.signal with
      | some d =>
        ShellM.update fun p => { p with clock := d.time }
        throw (.killed p.number d.signal)
      | none => throw .endless

/-! ### Output -/

/-- Writes its arguments, with blanks between them. -/
def echo : ShellM Nat := do
  let arguments := (← ShellM.process).arguments
  let isOption (text : Text) : Bool :=
    text.head? == some '-' && text.length > 1 && (text.drop 1).all "neE".toList.contains
  let options := (arguments.takeWhile isOption).flatMap (·.drop 1)
  let words := joined [' '] (arguments.dropWhile isOption)
  let escapes := (options.filter (· != 'n')).getLast? == some 'e'
  let (shown, stops) := if escapes then escaped words words.length else (words, false)
  ShellM.print (shown ++ if options.contains 'n' || stops then [] else ['\n'])
  return 0

end DiagnosticBridge.Utility
