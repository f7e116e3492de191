import DiagnosticBridge.Shell.Condition
import DiagnosticBridge.Shell.Fields
import DiagnosticBridge.Shell.Lookup
import DiagnosticBridge.Shell.Permission
import DiagnosticBridge.Shell.Printf
import DiagnosticBridge.Shell.Task

namespace DiagnosticBridge.Shell

/-!
# Builtins

The commands that a shell carries out itself.  Each takes its arguments and gives its status; those
that run other commands are given what runs them.
-/

/-- What runs commands. -/
structure Evaluator where
  /-- Runs a command; the shell goes on if it fails and is tested. -/
  command : Bool → Command → ShellM Unit
  /-- Runs the commands in a text; the shell goes on if they fail and are tested. -/
  script : Bool → Text → ShellM Unit
  /-- Runs the program at a path, with its name and arguments, to its end; it may take the place of
      the process. -/
  program : Bool → Text → List Text → ShellM (Attempt Ending)
  /-- Looks at the next step of the task of a number. -/
  task : Nat → ShellM Unit

namespace Builtin

/-! ### Options and quotes -/

/-- The letters of options at the front of arguments, with the arguments of those that have one,
    and what follows.  In `allowed`, a colon follows a letter that has an argument.  The fuel
    bounds their number. -/
def options (allowed : Text) (arguments : List Text) :
    Nat → ShellM (List (Char × Text) × List Text)
  | 0 => return ([], arguments)
  | fuel + 1 =>
    match arguments with
    | ['-', '-'] :: rest => return ([], rest)
    | ('-' :: c :: more) :: rest => do
      match allowed.dropWhile (· != c) with
      | [] => ShellM.fail ("Illegal option -".toList ++ [c])
      | _ :: after =>
        if c == ':' then ShellM.fail ("Illegal option -".toList ++ [c])
        if after.head? == some ':' then
          match more, rest with
          | [], [] => ShellM.fail ("No arg for -".toList ++ c :: " option".toList)
          | [], argument :: rest =>
            let (found, rest) ← options allowed rest fuel
            return ((c, argument) :: found, rest)
          | more, rest =>
            let (found, rest) ← options allowed rest fuel
            return ((c, more) :: found, rest)
        else
          let rest := if more.isEmpty then rest else ('-' :: more) :: rest
          let (found, rest) ← options allowed rest fuel
          return ((c, []) :: found, rest)
    | rest => return ([], rest)

/-- The options at the front of arguments, and what follows. -/
def optionsOf (allowed : String) (arguments : List Text) :
    ShellM (List (Char × Text) × List Text) :=
  options allowed.toList arguments (arguments.flatten.length + 1)

/-- The name and the value in an argument. -/
def assignment (argument : Text) : Text × Option Text :=
  let name := argument.takeWhile (· != '=')
  (name, if name.length < argument.length then some (argument.drop (name.length + 1)) else none)

/-- Refuses what is no name. -/
def checkName (name : Text) : ShellM Unit := do
  if !isName name then ShellM.fail (name ++ ": bad variable name".toList)

/-! ### Output -/

/-- Writes its arguments, with blanks between them. -/
def echo (arguments : List Text) : ShellM Nat := do
  let (ends, arguments) := match arguments with
    | ['-', 'n'] :: rest => (false, rest)
    | arguments => (true, arguments)
  let (shown, stops) := arguments.foldl (fun (shown, stops) argument =>
      if stops then (shown, stops)
      else
        let (text, stops) := escaped argument argument.length
        (shown ++ [text], stops)) (([], false) : List Text × Bool)
  ShellM.print (joined [' '] shown ++ if ends && !stops then ['\n'] else [])
  return 0

/-- Writes its arguments as a format says. -/
def printf (arguments : List Text) : ShellM Nat := do
  let (_, arguments) ← optionsOf "" arguments
  match arguments with
  | [] => ShellM.failWith "usage: printf format [arg ...]"
  | format :: arguments => printFormatted format arguments

/-! ### Conditions -/

/-- Answers a question. -/
def test (needsBracket : Bool) (arguments : List Text) : ShellM Nat := do
  let words ← if needsBracket then
      if ((arguments.getLast?).bind List.head?) == some ']' then pure arguments.dropLast
      else ShellM.failWith "missing ]"
    else pure arguments
  return if ← condition words (words.length + 1) then 0 else 1

/-! ### Directories -/

/-- A path without names that say nothing, and with those that lead back taken at their word. -/
def cleanPath (path : Text) : Text :=
  let isDouble := path.take 2 == ['/', '/'] && (path.drop 2).head? != some '/'
  let names := (path.splitOn '/').foldl (fun (names : List Text) name =>
    if name.isEmpty || name == ['.'] then names
    else if name == ['.', '.'] then names.drop 1
    else name :: names) []
  (if isDouble then ['/', '/'] else ['/']) ++ joined ['/'] names.reverse

/-- A path, seen from a working directory. -/
def pathFrom (directory path : Text) : Text :=
  if path.head? == some '/' then cleanPath path
  else if directory.getLast? == some '/' then cleanPath (directory ++ path)
  else cleanPath (directory ++ '/' :: path)

/-- Whether a path says where it begins. -/
def isAnchored (path : Text) : Bool :=
  path.head? == some '/' || ["." , ".."].contains (String.ofList (path.takeWhile (· != '/')))

/-- The path of a directory that is wanted, and whether it was found at one of the places where
    directories are looked for. -/
def directoryPath (wanted : Text) : ShellM (Text × Bool) := do
  let p ← ShellM.process
  match (if isAnchored wanted then none else ShellM.value? p "CDPATH".toList) with
  | none => return (wanted, false)
  | some places =>
    let found ← (places.splitOn ':').findM? fun place => do
      let path := if place.isEmpty then wanted else place ++ '/' :: wanted
      return (← ShellM.find? path) == some .directory
    match found with
    | none => return (wanted, false)
    | some [] => return (wanted, false)
    | some place => return (place ++ '/' :: wanted, true)

/-- Whether the last of the options for directories wants paths without links. -/
def isPhysical (found : List (Char × Text)) : Bool := (found.getLast?).map (·.1) == some 'P'

/-- Changes the working directory. -/
def cd (arguments : List Text) : ShellM Nat := do
  let (found, arguments) ← optionsOf "LP" arguments
  let p ← ShellM.process
  let chosen := arguments.head?
  let goesBack := chosen == some ['-']
  let wanted :=
    if goesBack then (ShellM.value? p "OLDPWD".toList).getD []
    else chosen.getD ((ShellM.value? p "HOME".toList).getD [])
  let (given, isElsewhere) ← directoryPath (if wanted.isEmpty then ['.'] else wanted)
  let path := pathFrom p.directoryName given
  match ← ShellM.find path with
  | .ok (place, .directory) =>
    let path := if isPhysical found then ofString place.path else path
    ShellM.update fun p => { p with directory := place, directoryName := path }
    let isExported := ((ShellM.binding? p "PWD".toList).map (·.isExported)).getD true
    ShellM.bind "OLDPWD".toList ⟨some p.directoryName, true, false⟩
    ShellM.bind "PWD".toList ⟨some path, isExported, false⟩
    if goesBack || isElsewhere then ShellM.print (path ++ ['\n'])
    return 0
  | _ => ShellM.fail ("can't cd to ".toList ++ wanted)

/-- Shows the working directory. -/
def pwd (arguments : List Text) : ShellM Nat := do
  let (found, _) ← optionsOf "LP" arguments
  let p ← ShellM.process
  ShellM.print ((if isPhysical found then ofString p.directory.path else p.directoryName) ++ ['\n'])
  return 0

/-! ### Reading -/

/-- The atoms of a line at the front of a text, how many characters it takes, and whether it has an
    end.  A backslash protects the next character unless `isRaw`. -/
def lineAtoms (isRaw : Bool) : Bool → Text → List Atom × Nat × Bool
  | _, [] => ([], 0, false)
  | true, c :: rest =>
    let (atoms, count, ends) := lineAtoms isRaw false rest
    let shown : List Atom := if c == '\n' then [] else [.char c true]
    ([.closes] ++ shown ++ [.opens false] ++ atoms, count + 1, ends)
  | false, c :: rest =>
    if c == '\\' && !isRaw then
      let (atoms, count, ends) := lineAtoms isRaw true rest
      (atoms, count + 1, ends)
    else if c == '\n' then ([], 1, true)
    else
      let (atoms, count, ends) := lineAtoms isRaw false rest
      (if c == '\x00' then atoms else .char c false :: atoms, count + 1, ends)

/-- Gives names the fields of a line. -/
def assignFields : List Text → List Text → ShellM Unit
  | [], _ => return
  | name :: names, fields => do
    checkName name
    ShellM.assign name (fields.head?.getD [])
    assignFields names (fields.drop 1)

/-- Reads a line. -/
def read (arguments : List Text) : ShellM Nat := do
  let (found, names) ← optionsOf "p:r" arguments
  if names.isEmpty then ShellM.failWith "arg count"
  let content := ((← ShellM.available 0).toOption).getD []
  let (atoms, count, ends) := lineAtoms (found.any (·.1 == 'r')) false content
  ShellM.consume 0 count
  if !ends then ShellM.awaitEnd 0
  let p ← ShellM.process
  let separators := (ShellM.value? p "IFS".toList).getD usualSeparators
  let fields := fieldsOf separators (some names.length) (.opens false :: atoms ++ [.closes])
  assignFields names (fields.map fun field => field.map (·.1))
  return if ends then 0 else 1

/-! ### Names -/

/-- Shows what is bound to names, those for which it is asked. -/
def showBindings (before : Text) (isWanted : Binding → Bool) : ShellM Unit := do
  let p ← ShellM.process
  let lines := p.bindings.toList.filterMap fun (name, binding) =>
    if isWanted binding then
      let value := match binding.value with
        | some value => '=' :: quoted value
        | none => []
      some (before ++ name.toList ++ value ++ ['\n'])
    else none
  ShellM.print lines.flatten

/-- Changes what names are bound to, and their values. -/
def declare (word : String) (isShown : Binding → Bool) (change : Binding → Binding)
    (arguments : List Text) : ShellM Nat := do
  let (found, names) ← optionsOf "p" arguments
  if !found.isEmpty || names.isEmpty then showBindings (word ++ " ").toList isShown
  else
    names.forM fun argument => do
      let (name, value) := assignment argument
      checkName name
      if let some value := value then ShellM.assign name value
      let old := (ShellM.binding? (← ShellM.process) name).getD ⟨none, false, false⟩
      ShellM.bind name (change old)
  return 0

/-- Makes names local to a function. -/
def makeLocal (arguments : List Text) : ShellM Nat := do
  if (← ShellM.process).depth == 0 then ShellM.failWith "not in a function"
  arguments.forM fun argument => do
    if argument == ['-'] then ShellM.makeOptionsLocal
    else
      let (name, value) := assignment argument
      checkName name
      ShellM.makeLocal name
      if let some value := value then ShellM.assign name value
  return 0

/-- Takes what is bound to names away. -/
def unset (arguments : List Text) : ShellM Nat := do
  let (found, names) ← optionsOf "vf" arguments
  let last := (found.getLast?).map (·.1)
  names.forM fun name => do
    if last == some 'f' then
      ShellM.update fun p => { p with functions := p.functions.erase (String.ofList name) }
    else
      checkName name
      ShellM.unbind name
  return 0

/-- Moves the arguments of the shell. -/
def shift (arguments : List Text) : ShellM Nat := do
  let n ← match arguments with
    | [] => pure 1
    | argument :: _ => ShellM.number argument
  let p ← ShellM.process
  if n > p.arguments.length then ShellM.failWith "can't shift that many"
  ShellM.update fun p => { p with arguments := p.arguments.drop n, optionPlace := ShellM.placeOf 1 }
  return 0

/-! ### Aliases -/

/-- The place of an alias among others where they are shown. -/
def aliasPlace (name : String) : Nat :=
  let name := name.toList.map Char.toNat
  name.foldl (· + ·) (name.headD 0 * 16) % 39

/-- Makes aliases, or shows them. -/
def makeAliases (arguments : List Text) : ShellM Nat := do
  let p ← ShellM.process
  let say (name : String) (value : Text) : ShellM Unit :=
    ShellM.print (aliasText name value ++ ['\n'])
  if arguments.isEmpty then
    (p.aliases.mergeSort fun a b => aliasPlace a.1 ≤ aliasPlace b.1).forM fun (name, value) =>
      say name value
    return 0
  arguments.foldlM (fun status argument => do
    let name := argument.take 1 ++ (argument.drop 1).takeWhile (· != '=')
    let word := String.ofList name
    let known := (← ShellM.process).aliases
    if name.length < argument.length then
      let made := (word, argument.drop (name.length + 1))
      ShellM.update fun p => { p with
        aliases :=
          if (known.lookup word).isSome then
            known.map fun old => if old.1 == word then made else old
          else known ++ [made] }
      return status
    else
      match known.lookup word with
      | some value =>
        say word value
        return status
      | none =>
        ShellM.report ("alias: ".toList ++ name ++ " not found\n".toList)
        return 1) 0

/-- Takes aliases away. -/
def dropAliases (arguments : List Text) : ShellM Nat := do
  let (found, names) ← optionsOf "a" arguments
  if !found.isEmpty then
    ShellM.update fun p => { p with aliases := [] }
    return 0
  names.foldlM (fun status name => do
    let word := String.ofList name
    if ((← ShellM.process).aliases.lookup word).isSome then
      ShellM.update fun p => { p with aliases := p.aliases.filter (·.1 != word) }
      return status
    else
      ShellM.report ("unalias: ".toList ++ name ++ " not found\n".toList)
      return 1) 0

/-! ### Options of the shell -/

/-- The options, with their letters. -/
def optionNames : List (String × Char) :=
  [("errexit", 'e'), ("noglob", 'f'), ("ignoreeof", 'I'), ("interactive", 'i'), ("monitor", 'm'),
    ("noexec", 'n'), ("stdin", 's'), ("xtrace", 'x'), ("verbose", 'v'), ("vi", 'V'),
    ("emacs", 'E'), ("noclobber", 'C'), ("allexport", 'a'), ("notify", 'b'), ("nounset", 'u'),
    ("privileged", 'p'), ("nolog", '\x01'), ("debug", '\x02')]

/-- Sets or resets an option. -/
def setOption (isOn : Bool) (letter : Char) : ShellM Unit := do
  if letter == 'm' && isOn then
    ShellM.warn "can't access tty; job control turned off".toList
  else
    ShellM.update fun p =>
      let others := p.options.filter (· != letter)
      { p with options := if isOn then letter :: others else others }

/-- Sets or resets the options of which an argument gives the letters. -/
def setLetters (isOn : Bool) (letters : Text) : ShellM Unit :=
  letters.forM fun c => do
    if optionNames.any (·.2 == c) then setOption isOn c
    else ShellM.fail ("Illegal option -".toList ++ [c])

/-- Shows the options. -/
def showOptions (asCommands : Bool) : ShellM Unit := do
  let p ← ShellM.process
  if asCommands then
    optionNames.forM fun (name, letter) => do
      let sign := if p.options.contains letter then "-o " else "+o "
      ShellM.print ("set ".toList ++ sign.toList ++ name.toList ++ ['\n'])
  else
    ShellM.print "Current option settings\n".toList
    optionNames.forM fun (name, letter) => do
      let gap := List.replicate (16 - name.length) ' '
      let state := if p.options.contains letter then "on\n" else "off\n"
      ShellM.print (name.toList ++ gap ++ state.toList)

/-- Deals with the options among the arguments, and gives the others, if there are any.  The fuel
    bounds their number. -/
def setOptions (arguments : List Text) : Nat → ShellM (Option (List Text))
  | 0 => return none
  | fuel + 1 => do
    match arguments with
    | ['-', '-'] :: rest => return some rest
    | ['-'] :: rest =>
      setOption false 'x'
      setOption false 'v'
      return if rest.isEmpty then none else some rest
    | ['-', 'o'] :: [] => do showOptions false; return none
    | ['+', 'o'] :: [] => do showOptions true; return none
    | [sign, 'o'] :: name :: rest =>
      if sign == '-' || sign == '+' then
        match optionNames.lookup (String.ofList name) with
        | some letter =>
          setOption (sign == '-') letter
          setOptions rest fuel
        | none => ShellM.fail ("Illegal option ".toList ++ sign :: "o ".toList ++ name)
      else return some arguments
    | ('-' :: c :: letters) :: rest => do
      if (c :: letters).contains 'o' then
        setLetters true ((c :: letters).filter (· != 'o'))
        setOptions (['-', 'o'] :: rest) fuel
      else
        setLetters true (c :: letters)
        setOptions rest fuel
    | ('+' :: c :: letters) :: rest => do
      setLetters false (c :: letters)
      setOptions rest fuel
    | [] => return none
    | rest => return some rest

/-- Sets options and the arguments of the shell, or shows what is bound to names. -/
def set (arguments : List Text) : ShellM Nat := do
  if arguments.isEmpty then showBindings [] (·.value.isSome)
  else if let some given ← setOptions arguments (arguments.length + 1) then
    ShellM.update fun p => { p with arguments := given, optionPlace := ShellM.placeOf 1 }
  return 0

/-- What a search for the next option finds: the option's letter and argument, or none at the end,
    and where the search stands then. -/
structure OptionFound where
  /-- The letter, or a sign for what is wrong. -/
  letter : Char
  /-- The argument; none takes it away. -/
  argument : Option Text
  /-- What is wrong. -/
  complaint : Text
  /-- Whether there are no more options. -/
  isEnd : Bool
  /-- Where the search stands. -/
  place : Nat × Nat

/-- Searches for the next option. -/
def nextOption (allowed : Text) (arguments : List Text) (place : Nat × Nat) : OptionFound :=
  let (index, offset) := place
  let current := if index ≤ 1 || offset == 0 then [] else
    ((arguments[index - 2]?).getD []).drop offset
  let isQuiet := allowed.head? == some ':'
  let finish (index : Nat) : OptionFound := ⟨'?', none, [], true, (index, 0)⟩
  let look (word : Text) (index : Nat) : OptionFound :=
    match word with
    | [] => finish index
    | c :: more =>
      let size := ((arguments[index - 2]?).getD []).length
      let after : Nat × Nat := (index, if more.isEmpty then size else size - more.length)
      match (if c == ':' then [] else allowed.dropWhile (· != c)) with
      | [] =>
        if isQuiet then ⟨'?', some [c], [], false, after⟩
        else ⟨'?', none, "Illegal option -".toList ++ [c, '\n'], false, after⟩
      | _ :: ':' :: _ =>
        if !more.isEmpty then ⟨c, some more, [], false, (index, 0)⟩
        else
          match arguments[index - 1]? with
          | some argument => ⟨c, some argument, [], false, (index + 1, 0)⟩
          | none =>
            if isQuiet then ⟨':', some [c], [], false, (index, 0)⟩
            else
              ⟨'?', none, "No arg for -".toList ++ c :: " option\n".toList, false, (index, 0)⟩
      | _ => ⟨c, some [], [], false, after⟩
  if current.isEmpty then
    match arguments[index - 1]? with
    | some ['-', '-'] => finish (index + 1)
    | some ('-' :: c :: more) => look (c :: more) (index + 1)
    | _ => finish index
  else look current index

/-- Searches for the next option among arguments, and tells it by names. -/
def getopts (arguments : List Text) : ShellM Nat := do
  match arguments with
  | allowed :: name :: given =>
    let p ← ShellM.process
    let given := if given.isEmpty then p.arguments else given
    let found := nextOption allowed given
      (if p.optionPlace.1 > given.length + 1 then ShellM.placeOf 1 else p.optionPlace)
    let startAgain := ShellM.update fun p => { p with optionPlace := ShellM.placeOf 1 }
    startAgain
    ShellM.report found.complaint
    if !found.isEnd then
      match found.argument with
      | some argument => ShellM.assign "OPTARG".toList argument
      | none => ShellM.unbind "OPTARG".toList
    ShellM.assign ShellM.optionCounter.toList (decimal found.place.1)
    startAgain
    checkName name
    ShellM.assign name [found.letter]
    ShellM.update fun p => { p with optionPlace := found.place }
    return if found.isEnd then 1 else 0
  | _ => ShellM.failWith "Usage: getopts optstring var [arg...]"

/-! ### Signals and jobs -/

/-- The job that an argument names. -/
def jobOf (argument : Text) : ShellM Job := do
  match ← ShellM.job? argument with
  | some job => return job
  | none => ShellM.fail ("No such job: ".toList ++ argument)

/-- Sends a signal to processes, or lists signals. -/
def kill (arguments : List Text) : ShellM Nat := do
  let usage {α : Type} : ShellM α := ShellM.failWith
    "Usage: kill [-s sigspec | -signum | -sigspec] [pid | job]... or\nkill -l [exitstatus]"
  if arguments.isEmpty then usage
  let named := match arguments with
    | ('-' :: name) :: _ => if name.isEmpty || name == ['-'] then none else signalOf? 1 name
    | _ => none
  let (signal, lists, targets) ← match named with
    | some n => pure (some n, false, arguments.drop 1)
    | none => do
      let (found, rest) ← optionsOf "ls:" arguments
      let signal ← match (found.filter (·.1 == 's')).getLast? with
        | some (_, name) =>
          match signalOf? 1 name with
          | some n => pure (some n)
          | none => ShellM.fail ("invalid signal number or name: ".toList ++ name)
        | none => pure none
      pure (signal, found.any (·.1 == 'l'), rest)
  if lists then
    if signal.isSome then usage
    match targets with
    | [] =>
      let labels := (List.range signalCount).map fun n => signalLabel (n + 1)
      ShellM.print (joined ['\n'] (['0'] :: labels) ++ ['\n'])
      return 0
    | status :: _ =>
      let n ← ShellM.number status
      let n := if n > 128 then n - 128 else n
      if 0 < n && n ≤ signalCount then
        ShellM.print (signalLabel n ++ ['\n'])
        return 0
      ShellM.fail ("invalid signal number or exit status: ".toList ++ status)
  else
    if targets.isEmpty then usage
    targets.foldlM (fun status target => do
      let isSent ← if target.head? == some '%' then do
          let _ ← jobOf target
          pure false
        else do
          let n ← ShellM.number (if target.head? == some '-' then target.drop 1 else target)
          ShellM.send n (signal.getD 15)
      if isSent then return status
      ShellM.warn "No such process\n".toList
      return 1) 0

/-- Says what is done on signals. -/
def trap (arguments : List Text) : ShellM Nat := do
  let (_, arguments) ← optionsOf "" arguments
  let p ← ShellM.process
  match arguments with
  | [] =>
    let numbers := (p.traps.map (·.1)).mergeSort (· ≤ ·)
    ShellM.print <| numbers.flatMap fun n =>
      "trap -- ".toList ++ quoted ((p.traps.lookup n).getD []) ++ ' ' :: signalLabel n ++ ['\n']
    return 0
  | first :: rest =>
    let isReset := rest.isEmpty || (number? first).any (· ≤ signalCount)
    let action := if isReset || first == ['-'] then none else some first
    (if isReset then arguments else rest).foldlM (fun status name => do
      if status != 0 then return status
      match signalOf? 0 name with
      | none =>
        ShellM.report ("trap: ".toList ++ name ++ ": bad trap\n".toList)
        return 1
      | some n =>
        ShellM.update fun p =>
          let others := p.traps.filter (·.1 != n)
          { p with traps := match action with
            | some action => (n, action) :: others
            | none => others }
        return 0) 0

/-- For how long an end is news to a shell that does not wait. -/
def newsTime : Nat := 2 * forkTime

/-- The status of a job that has ended; of a signal the shell speaks if that is news to it. -/
def statusOfJob (job : Job) (before : Process) : ShellM Nat := do
  match (← ShellM.taskOf? job).map Task.stage with
  | some (.over (.exited status) _) => return status
  | some (.over (.killed signal) time) =>
    let isNews := before.lastWait < time && before.clock ≤ time + newsTime
    if isNews && signal != 2 && signal != 13 then
      ShellM.report (signalWords signal ++ "\n").toList
    return 128 + signal
  | _ => return 127

/-- Waits for jobs. -/
def wait (ev : Evaluator) (arguments : List Text) : ShellM Nat := do
  match arguments with
  | [] =>
    match ← ShellM.await ev.task ((← ShellM.process).jobs.map (·.number)) with
    | some signal => return 128 + signal
    | none =>
      ShellM.learnJobs fun _ => true
      return 0
  | arguments =>
    arguments.foldlM (fun _ argument => do
      let job ← if argument.head? == some '%' then do
          pure (some (← jobOf argument))
        else do
          let _ ← ShellM.number argument
          ShellM.job? argument
      match job with
      | none => return 127
      | some job =>
        let before ← ShellM.process
        match ← ShellM.await ev.task [job.number] with
        | some signal => return 128 + signal
        | none =>
          ShellM.learnJobs (·.number == job.number)
          statusOfJob job before) 0

/-- Lists jobs; those that have ended are not listed again. -/
def jobs (arguments : List Text) : ShellM Nat := do
  let (found, names) ← optionsOf "lp" arguments
  let p ← ShellM.process
  let chosen ← if names.isEmpty then pure p.jobs else names.mapM jobOf
  let _ ← chosen.foldlM (fun (marks : Text) job => do
    let (words, isLast) := ShellM.jobWords (← ShellM.taskOf? job) p.clock
    if found.any (·.1 == 'p') then
      ShellM.print (decimal job.number ++ ['\n'])
      return marks
    let mark := if names.isEmpty then marks.head?.getD ' ' else '+'
    let number := if found.any (·.1 == 'l') then decimal job.number ++ [' '] else []
    let line := '[' :: decimal job.slot ++ "] ".toList ++ [mark, ' '] ++ number ++ words
    ShellM.print (line ++ List.replicate (33 - line.length) ' ' ++ ['\n'])
    if isLast then
      ShellM.update fun p => { p with jobs := p.jobs.filter (·.number != job.number) }
      return marks
    return marks.drop 1) ['+', '-']
  return 0

/-! ### What names stand for -/

/-- Explains a name; if it stands for something, the status is the given one. -/
def explain (directories : List Text) (status : Nat) (name : Text) : ShellM Nat := do
  match ← explanation directories name with
  | some words =>
    ShellM.print (name ++ words ++ ['\n'])
    return status
  | none =>
    ShellM.print (name ++ ": not found\n".toList)
    return 127

/-- Explains names. -/
def type (names : List Text) : ShellM Nat := do
  let directories := ShellM.searchPath (← ShellM.process)
  names.foldlM (explain directories) 0

/-- Looks for programs. -/
def hash (arguments : List Text) : ShellM Nat := do
  let (_, names) ← optionsOf "rv" arguments
  names.foldlM (fun status name => do
    match ← meaningOf (ShellM.searchPath (← ShellM.process)) true name with
    | .nothing fault =>
      ShellM.warn (name ++ ": ".toList ++ programWords fault)
      return 1
    | _ => return status) 0

/-- Shows the path or the explanation of a command. -/
def showCommand (arguments : List Text) : ShellM Nat := do
  let (found, names) ← optionsOf "pvV" arguments
  match names with
  | [] => return 0
  | name :: _ =>
    let p ← ShellM.process
    let directories := if found.any (·.1 == 'p') then usualDirectories else ShellM.searchPath p
    if found.any (·.1 == 'V') then
      explain directories 0 name
    else
      match ← callName? directories name with
      | some path =>
        ShellM.print (path ++ ['\n'])
        return 0
      | none => return 127

/-! ### Going on elsewhere -/

/-- Leaves the shell. -/
def exit (arguments : List Text) : ShellM Nat := do
  match arguments with
  | [] => throw (.exit none)
  | argument :: _ => throw (.exit (some (← ShellM.number argument)))

/-- Leaves a function. -/
def back (arguments : List Text) : ShellM Nat := do
  let status ← match arguments with
    | [] => do pure (← ShellM.process).status
    | argument :: _ => ShellM.number argument
  ShellM.update fun p => { p with skip := some .back }
  return status

/-- Leaves loops, or goes on with one. -/
def leave (isLeft : Bool) (arguments : List Text) : ShellM Nat := do
  let n ← match arguments with
    | [] => pure 1
    | argument :: _ => ShellM.number argument
  if n == 0 then ShellM.fail ("Illegal number: ".toList ++ (arguments.head?.getD []))
  let n := min n (← ShellM.process).loops
  if n > 0 then
    ShellM.update fun p => { p with skip := some (if isLeft then .leave n else .resume n) }
  return 0

/-- The path of a script that is read by the shell itself. -/
def scriptPath (name : Text) : ShellM Text := do
  if name.contains '/' then return name
  let p ← ShellM.process
  let paths := (ShellM.searchPath p).map fun directory =>
    if directory.isEmpty then name else directory ++ '/' :: name
  let found ← paths.filterM fun path => do
    match ← ShellM.find? path with
    | some (.file ..) => return true
    | some (.utility _) => return true
    | _ => return false
  match found with
  | path :: _ => return path
  | [] => ShellM.fail (name ++ ": not found".toList)

/-- Runs the commands in a file. -/
def source (ev : Evaluator) (arguments : List Text) : ShellM Nat := do
  let (_, arguments) ← optionsOf "" arguments
  match arguments with
  | [] => return 0
  | name :: _ =>
    let path ← scriptPath name
    match ← ShellM.find path with
    | .error fault =>
      ShellM.fail ("cannot open ".toList ++ path ++ ": ".toList ++ fileWords false fault)
    | .ok (place, _) =>
      let content := ((← get).tree.read? place).getD []
      ShellM.update fun p => { p with builtin := some path, status := 0 }
      ev.script false (ofBytes content)
      ShellM.update fun p => { p with skip := if p.skip == some .back then none else p.skip }
      return (← ShellM.process).status

/-- Runs the commands in arguments. -/
def eval (ev : Evaluator) (isTested : Bool) (arguments : List Text) : ShellM Nat := do
  ShellM.setStatus 0
  ev.script isTested (joined [' '] arguments)
  return (← ShellM.process).status

/-- Becomes another program. -/
def exec (ev : Evaluator) (arguments : List Text) : ShellM Nat := do
  let (_, arguments) ← optionsOf "" arguments
  match arguments with
  | [] => return 0
  | name :: _ =>
    let p ← ShellM.process
    let stop (fault : Files.Fault) : ShellM Nat := do
      ShellM.warn (name ++ ": ".toList ++ programWords fault)
      throw (.exit (some (programStatus fault)))
    let go (path : Text) : ShellM Nat := do
      match ← ev.program true path arguments with
      | .error fault => stop fault
      | .ok (.killed signal) => throw (.killed p.number signal)
      | .ok (.exited status) =>
        ShellM.update fun p => { p with traps := [] }
        throw (.exit (some status))
    if name.contains '/' then go name
    else
      match ← searchProgram (ShellM.searchPath p) name with
      | .ok path => go path
      | .error fault => stop fault

/-- Shows or sets which permissions new files lack. -/
def umask (arguments : List Text) : ShellM Nat := do
  let (found, arguments) ← optionsOf "S" arguments
  match arguments with
  | [] =>
    let mask := (← ShellM.process).mask
    if found.isEmpty then
      let digits := Nat.toDigits 8 mask
      ShellM.print (List.replicate (4 - digits.length) '0' ++ digits ++ ['\n'])
    else
      let rights (n : Nat) : Text :=
        (if n / 4 % 2 == 0 then ['r'] else []) ++ (if n / 2 % 2 == 0 then ['w'] else []) ++
          if n % 2 == 0 then ['x'] else []
      ShellM.print ("u=".toList ++ rights (mask / 64) ++ ",g=".toList ++ rights (mask / 8) ++
        ",o=".toList ++ rights mask ++ ['\n'])
    return 0
  | mode :: _ =>
    let permissions ←
      if (mode.head?.map Char.isDigit).getD false then
        if !mode.all isOctal then ShellM.fail ("Illegal number: ".toList ++ mode)
        pure (allPermissions - mode.foldl (fun n c => n * 8 + (c.toNat - 48)) 0 % 512)
      else
        match permissionsAfter? (allPermissions - (← ShellM.process).mask) mode with
        | some permissions => pure permissions
        | none => ShellM.fail ("Illegal mode: ".toList ++ mode)
    ShellM.update fun p => { p with mask := allPermissions - permissions }
    return 0

/-- Goes on with a job that has been stopped; there is none. -/
def goOn (arguments : List Text) : ShellM Nat := do
  match arguments with
  | [] => ShellM.failWith "No current job"
  | name :: _ => ShellM.fail ("No such job: ".toList ++ name)

end Builtin

/-- Runs a builtin. -/
def runBuiltin (ev : Evaluator) (isTested : Bool) (name : String) (arguments : List Text) :
    ShellM Nat :=
  match name with
  | ":" => return 0
  | "true" => return 0
  | "false" => return 1
  | "echo" => Builtin.echo arguments
  | "printf" => Builtin.printf arguments
  | "[" => Builtin.test true arguments
  | "test" => Builtin.test false arguments
  | "bg" => Builtin.goOn arguments
  | "fg" => Builtin.goOn arguments
  | "cd" => Builtin.cd arguments
  | "command" => Builtin.showCommand arguments
  | "pwd" => Builtin.pwd arguments
  | "read" => Builtin.read arguments
  | "export" =>
    Builtin.declare "export" (·.isExported) (fun b => { b with isExported := true }) arguments
  | "readonly" =>
    Builtin.declare "readonly" (·.isReadonly) (fun b => { b with isReadonly := true }) arguments
  | "local" => Builtin.makeLocal arguments
  | "unset" => Builtin.unset arguments
  | "shift" => Builtin.shift arguments
  | "set" => Builtin.set arguments
  | "getopts" => Builtin.getopts arguments
  | "kill" => Builtin.kill arguments
  | "trap" => Builtin.trap arguments
  | "wait" => Builtin.wait ev arguments
  | "jobs" => Builtin.jobs arguments
  | "type" => Builtin.type arguments
  | "hash" => Builtin.hash arguments
  | "exit" => Builtin.exit arguments
  | "return" => Builtin.back arguments
  | "break" => Builtin.leave true arguments
  | "continue" => Builtin.leave false arguments
  | "." => Builtin.source ev arguments
  | "eval" => Builtin.eval ev isTested arguments
  | "exec" => Builtin.exec ev arguments
  | "umask" => Builtin.umask arguments
  | "alias" => Builtin.makeAliases arguments
  | "unalias" => Builtin.dropAliases arguments
  | "times" => do
    ShellM.print "0m0.000000s 0m0.000000s\n0m0.000000s 0m0.000000s\n".toList
    return 0
  | "ulimit" => do
    ShellM.print "unlimited\n".toList
    return 0
  | _ => return 0

end DiagnosticBridge.Shell
