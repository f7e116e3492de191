import DiagnosticBridge.Shell.Builtin
import DiagnosticBridge.Shell.Expansion
import DiagnosticBridge.Shell.Reader

namespace DiagnosticBridge.Shell

/-!
# Running commands

What commands do.  A command that holds others runs them by the evaluator it is given, which can
go one level less deep; `Evaluator.ofDepth` ties the knot.
-/

namespace Execution

variable (ev : Evaluator)

/-! ### Children -/

/-- The end of a shell: what it is to do on its end is done, and then it ends with a status. -/
def finish (status : Nat) : ShellM Nat := do
  ShellM.setStatus status
  let p ← ShellM.process
  match p.traps.lookup 0 with
  | none => return status
  | some action =>
    ShellM.update fun p => { p with traps := p.traps.filter (·.1 != 0), skip := none }
    tryCatch
      (do
        ev.script false action
        return status)
      (fun stop =>
        match stop with
        | .exit given => return given.getD status
        | .error => return (← ShellM.process).status
        | stop => throw stop)

/-- Runs what a shell does, to the end of the shell.  Its tasks may go on. -/
def toEnd (body : ShellM Unit) : ShellM Ending := do
  let whole : ShellM Ending := do
    let status ← tryCatch
      (do
        body
        return (← ShellM.process).status)
      (fun stop => do
        match stop with
        | .exit given => return given.getD (← ShellM.process).status
        | .error => return (← ShellM.process).status
        | stop => throw stop)
    return .exited ((← finish ev status) % 256)
  ShellM.ensuring whole (modify fun s =>
    { s with ended := (s.process.number, s.process.clock) :: s.ended })

/-- A copy of a shell as a child of it. -/
def childOf (p : Process) (number : Nat) : Process :=
  { p with
    number := number, ancestors := p.number :: p.ancestors
    traps := p.traps.filter fun (_, action) => action.isEmpty
    jobs := [], locals := [], clock := p.clock + forkTime, givesPlace := false }

/-- Runs something in a shell of its own, which begins as a copy of this one, to the end of that
    shell.  Gives the shell's number, too. -/
def inChild (body : ShellM Unit) : ShellM (Nat × Ending) := do
  ShellM.passUntil ev.task ((← ShellM.process).clock + forkTime)
  ShellM.forgetJob
  let s ← get
  let number := s.nextNumber
  set { s with nextNumber := number + 1, process := childOf s.process number }
  let ending ← ShellM.ensuring
    (tryCatch (toEnd ev body) fun stop =>
      match stop with
      | .killed victim signal => if victim == number then return .killed signal else throw stop
      | stop => throw stop)
    (ShellM.resume s.process)
  ShellM.noticeChild
  return (number, ending)

/-- The status that a shell sees of a process that has ended; it speaks about signals. -/
def statusOf (ending : Ending) : ShellM Nat := do
  match ending with
  | .exited status => return status
  | .killed signal =>
    if signal != 2 && signal != 13 then ShellM.report (signalWords signal ++ "\n").toList
    return 128 + signal

/-- Runs a command in a shell of its own, with its descriptors led elsewhere, and gives its
    status.  If its output is read, its tasks come to their ends first. -/
def subshell (isTested isRead : Bool) (connections : List (Nat × Nat)) (prepare : ShellM Unit)
    (body : Command) : ShellM Nat := do
  let (number, ending) ← inChild ev do
    connections.forM fun (descriptor, channel) => ShellM.connect descriptor channel
    prepare
    ev.command isTested body
  if isRead then ShellM.passAll ev.task number
  statusOf ending

/-- What a command prints. -/
def capture (body : Option Command) : ShellM Text := do
  match body with
  | none => return []
  | some body =>
    let channel ← ShellM.addChannel (.pipe [] 0)
    let status ← subshell ev false true [(1, channel)] (pure ()) body
    ShellM.update fun p => { p with substitutionStatus := status }
    match (← get).channels[channel]? with
    | some (.pipe unread closed) =>
      ShellM.advance closed
      return Chunk.textOf unread
    | _ => return []

/-! ### Redirections -/

/-- The descriptor of a redirection. -/
def descriptorOf : Redirection → Nat
  | .input d _ => d
  | .output d _ _ => d
  | .append d _ => d
  | .both d _ => d
  | .duplicate d _ => d
  | .document d _ => d

/-- A redirection whose words have been expanded. -/
inductive Target where
  /-- A file that is read. -/
  | reading (path : Text)
  /-- A file that is written, from its front if it is emptied, at its end if it appends; it must not
      be there yet if it is guarded. -/
  | writing (path : Text) (isEmptied appends canRead isGuarded : Bool)
  /-- Where another descriptor leads. -/
  | duplicate (other : Nat)
  /-- Nowhere at all. -/
  | closed
  /-- A text that stands in the script. -/
  | document (text : Word)

/-- Expands the words of a redirection. -/
def target (r : Redirection) : ShellM Target := do
  let text (word : Word) : ShellM Text := Expansion.text (capture ev) false word
  match r with
  | .input _ word => return .reading (← text word)
  | .output _ isForced word =>
    return .writing (← text word) true false false (!isForced && (← ShellM.hasOption 'C'))
  | .append _ word => return .writing (← text word) false true false false
  | .both _ word => return .writing (← text word) false false true false
  | .duplicate _ word =>
    let refuse : ShellM Target := do
      ShellM.update fun p => { p with line := p.reached }
      ShellM.failWith "Syntax error: Bad fd number"
    match ← text word with
    | ['-'] => return .closed
    | [c] => if c.isDigit then return .duplicate (c.toNat - 48) else refuse
    | _ => refuse
  | .document _ number =>
    return .document (((← ShellM.process).documents.lookup number).getD [])

/-- The channel of a descriptor. -/
def channelOf (descriptor : Nat) : ShellM Nat := do
  match (← ShellM.process).descriptors.lookup descriptor with
  | some channel => return channel
  | none => ShellM.fail (decimal descriptor ++ ": Bad file descriptor".toList)

/-- Leads a descriptor to a target. -/
def redirect (descriptor : Nat) (target : Target) : ShellM Unit := do
  match target with
  | .closed => ShellM.disconnect descriptor
  | .duplicate other => ShellM.connect descriptor (← channelOf other)
  | .document text =>
    let content ← Expansion.documentText (capture ev) text
    ShellM.connect descriptor (← ShellM.addChannel (.pipe [⟨0, [], content⟩] 0))
  | .reading path =>
    match ← ShellM.find path with
    | .error fault =>
      ShellM.fail ("cannot open ".toList ++ path ++ ": ".toList ++ fileWords false fault)
    | .ok (place, entry) =>
      match entry with
      | .descriptor n => ShellM.connect descriptor (← channelOf n)
      | .file .. => ShellM.connect descriptor (← ShellM.addChannel (.file place 0 false true false))
      | .directory => ShellM.connect descriptor (← ShellM.addChannel .directory)
      | _ => ShellM.connect descriptor (← ShellM.addChannel .nowhere)
  | .writing path isEmptied appends canRead isGuarded =>
    let refuse (fault : Files.Fault) : ShellM Unit :=
      ShellM.fail ("cannot create ".toList ++ path ++ ": ".toList ++ fileWords true fault)
    let s ← get
    if isGuarded then
      if let .ok (_, .file ..) := s.tree.find s.process.directory (stringOf path) then
        refuse .present
    match s.tree.create s.process.directory (stringOf path) with
    | .error fault => refuse fault
    | .ok (tree, place) =>
      match tree.get? place with
      | some (.descriptor n) => ShellM.connect descriptor (← channelOf n)
      | some (.file ..) =>
        set { s with tree := if isEmptied then tree.update place fun _ => [] else tree }
        ShellM.connect descriptor (← ShellM.addChannel (.file place 0 appends canRead true))
      | _ => ShellM.connect descriptor (← ShellM.addChannel .nowhere)

/-- Leads descriptors where redirections say. -/
def redirectAll (redirections : List Redirection) : ShellM Unit := do
  let targets ← redirections.mapM fun r => do return (descriptorOf r, ← target ev r)
  targets.forM fun (descriptor, target) => redirect ev descriptor target

/-- Leads the descriptors of redirections where they led before. -/
def restore (before : Process) (redirections : List Redirection) : ShellM Unit :=
  redirections.forM fun r => do
    let descriptor := descriptorOf r
    match before.descriptors.lookup descriptor with
    | some channel => ShellM.connect descriptor channel
    | none => ShellM.disconnect descriptor

/-- Leads descriptors where redirections say; says whether that is possible. -/
def tryRedirect (redirections : List Redirection) : ShellM Bool := do
  let targets ← redirections.mapM fun r => do return (descriptorOf r, ← target ev r)
  tryCatch
    (do
      targets.forM fun (descriptor, target) => redirect ev descriptor target
      return true)
    (fun stop =>
      match stop with
      | .error => return false
      | stop => throw stop)

/-! ### Signals -/

/-- Stands still until a signal comes that makes the process go on, or ends it. -/
def standStill : ShellM Unit := do
  ShellM.passUntil ev.task timeLimit
  match ← ShellM.firstSignal? fun _ d => d.signal == 9 || d.signal == 18 with
  | none => throw .endless
  | some d =>
    ShellM.advance d.time
    if d.signal == 9 then throw (.killed d.target 9)

/-- Does what is to be done on a signal that has come.  One that ends the process has done so when
    it came. -/
def handleSignal (d : Delivery) : ShellM Unit := do
  let p ← ShellM.process
  match (if d.signal == 9 then none else p.traps.lookup d.signal) with
  | none =>
    if stopsProcess d.signal then standStill ev
    else if p.diesOf d.signal then
      ShellM.update fun p => { p with clock := min p.clock d.time }
      throw (.killed p.number d.signal)
  | some [] => return
  | some action =>
    tryCatch (ev.script false action) fun stop =>
      match stop with
      | .exit none => throw (.exit (some p.status))
      | stop => throw stop
    if (← ShellM.process).skip.isNone then ShellM.setStatus p.status

/-- Does what is to be done on the signals that have come; one that has come several times has come
    once.  The fuel bounds their number. -/
def handleSignals : Nat → ShellM Unit
  | 0 => return
  | fuel + 1 => do
    let s ← get
    let isOwn (d : Delivery) : Bool :=
      d.target == s.process.number && d.time ≤ s.process.clock
    match s.pending.find? isOwn with
    | none => return
    | some d =>
      set { s with
        pending := s.pending.filter fun other => !isOwn other || other.signal != d.signal }
      handleSignal ev d
      handleSignals fuel

/-- How many signals are dealt with at once. -/
def signalLimit : Nat := 1000

/-! ### Tasks -/

/-- What a task does first: it heeds the signals that have come before it could ignore any. -/
def openTask (redirections : List Redirection) : ShellM Unit := do
  handleSignals ev signalLimit
  ShellM.update fun p =>
    let quiet := [2, 3].filter fun signal => (p.traps.lookup signal).isNone
    { p with traps := quiet.map (·, []) ++ p.traps }
  redirectAll ev redirections

/-- Begins a task or does its next step, and gives those that are left. -/
def stepFrom (opening : Option (List Redirection)) (steps : List Command) :
    ShellM (List Command) := do
  match opening, steps with
  | some redirections, _ => do
    openTask ev redirections
    return steps
  | none, [] => return []
  | none, first :: rest => do
    ev.command false first
    return if (← ShellM.process).skip.isSome then [] else rest

/-- What comes of a task when it begins or after its next step. -/
def stageAfter (opening : Option (List Redirection)) (steps : List Command) : ShellM Stage := do
  let atEnd (body : ShellM Unit) : ShellM Stage := do
    let ending ← toEnd ev body
    ShellM.closeAll
    return .over ending (← ShellM.process).clock
  let left ← tryCatch (do return Except.ok (← stepFrom ev opening steps)) fun stop =>
    return .error stop
  match left with
  | .ok [] => atEnd (pure ())
  | .ok steps => return .paused (← ShellM.process) steps
  | .error stop =>
    tryCatch (atEnd (throw stop)) fun stop => do
      let p ← ShellM.process
      match stop with
      | .killed number signal =>
        if number != p.number then throw stop
        ShellM.closeAll
        return .over (.killed signal) p.clock
      | .endless =>
        match ← ShellM.firstSignal? fun p d => p.diesOf d.signal with
        | some d => return .over (.killed d.signal) d.time
        | none => return .endless
      | stop => throw stop

/-- Looks at how a task begins or at its next step.  Commands that it runs are not counted. -/
def runTask (number : Nat) : ShellM Unit := do
  let s ← get
  match s.tasks.find? (·.number == number) with
  | some { opening := opening, stage := .paused process steps, .. } =>
    set { s with process := process }
    ShellM.changeTask number fun t =>
      { t with
        opening := none, stage := .running
        past := if opening.isSome then [] else (process, steps) :: t.past }
    let stage ← ShellM.ensuring (stageAfter ev opening steps) (modify fun now =>
      { now with process := s.process, patience := s.patience })
    ShellM.changeTask number fun t => { t with stage := stage }
    match stage, process.ancestors with
    | .over _ time, parent :: _ => ShellM.post ⟨parent, 17, time, number :: process.ancestors⟩
    | _, _ => return
  | _ => return

/-! ### Simple commands -/

/-- The arguments without what only says that a builtin or a program is meant, whether anything was
    taken off, and whether the usual search path is meant. -/
def withoutCommand (isFunction : Bool) (arguments : List Text) : List Text × Bool × Bool :=
  match arguments with
  | first :: rest =>
    if first == "command".toList && !isFunction then
      let (standard, rest) := match rest with
        | ['-', 'p'] :: rest => (true, rest)
        | rest => (false, rest)
      match rest with
      | ['-', '-'] :: name :: more => (name :: more, true, standard)
      | ('-' :: _ :: _) :: _ => (arguments, false, false)
      | [] => (arguments, false, false)
      | rest => (rest, true, standard)
    else (arguments, false, false)
  | [] => ([], false, false)

/-- Takes "command" off as often as it comes first.  The fuel bounds how often. -/
def withoutCommands (isFunction : Bool) (arguments : List Text) : Nat → List Text × Bool × Bool
  | 0 => (arguments, false, false)
  | fuel + 1 =>
    match withoutCommand isFunction arguments with
    | (rest, true, standard) =>
      let (rest, _, also) := withoutCommands isFunction rest fuel
      (rest, true, standard || also)
    | (rest, false, standard) => (rest, false, standard)

/-- Expands the words of a command. -/
def expandWords (arguments : List Text) : List Word → ShellM (List Text)
  | [] => return arguments
  | word :: rest => do
    let p ← ShellM.process
    let isFunction (name : Text) : Bool := (p.functions.get? (String.ofList name)).isSome
    let (given, _, _) := withoutCommands (isFunction "command".toList) arguments arguments.length
    let declares := match given.head? with
      | some name => declaringBuiltins.contains (String.ofList name) && !isFunction name
      | none => false
    let found ←
      if declares && isAssignment word then do
        pure [← Expansion.text (capture ev) true word]
      else Expansion.fields (capture ev) word
    expandWords (arguments ++ found) rest

/-- Gives names the values of assignments; they end with the command if they are local.  Gives the
    assignments as they are shown. -/
def assignAll (isLocal isExported : Bool) : List Word → ShellM (List Text)
  | [] => return []
  | word :: rest => do
    let shown ← Expansion.text (capture ev) true word
    let (name, value) := Builtin.assignment shown
    if isLocal then ShellM.makeLocal name
    ShellM.assign name (value.getD [])
    if isLocal || isExported then
      ShellM.bind name ⟨some (value.getD []), true, false⟩
    return shown :: (← assignAll isLocal isExported rest)

/-- What stands before commands that are shown. -/
def traceLabel : ShellM Text := do
  let p ← ShellM.process
  let label := (ShellM.value? p "PS4".toList).getD []
  let expanded : ShellM Text := do
    match Source.readText label with
    | .error fault =>
      ShellM.update fun p => { p with line := fault.line }
      ShellM.failWith ("Syntax error: " ++ fault.message)
    | .ok word => Expansion.documentText (capture ev) word
  ShellM.update fun p => { p with options := p.options.filter (· != 'x') }
  let shown ← tryCatch expanded fun stop =>
    match stop with
    | .error => return label
    | stop => throw stop
  ShellM.update fun now =>
    { now with
      options := p.options, line := p.line, status := p.status
      substitutionStatus := p.substitutionStatus }
  return shown

/-- Shows a command before it runs, if that is wanted. -/
def trace (channel : Option Nat) (shown : List Text) : ShellM Unit := do
  let p ← ShellM.process
  if p.options.contains 'x' && !shown.isEmpty then
    let label ← traceLabel ev
    let now := p.descriptors.lookup 2
    if let some channel := channel then ShellM.connect 2 channel
    ShellM.report (label ++ joined [' '] shown ++ ['\n'])
    match now with
    | some channel => ShellM.connect 2 channel
    | none => ShellM.disconnect 2

/-- Runs a builtin, and gives its status.  An error within a special one is an error of the
    shell. -/
def builtin (isTested isSpecial : Bool) (name : String) (arguments : List Text) : ShellM Nat := do
  let before := (← ShellM.process).builtin
  modify fun s => { s with
    hasLostOutput := false, process := { s.process with builtin := some name.toList } }
  let body : ShellM Nat := do
    let status ← runBuiltin ev isTested name arguments
    if (← get).hasLostOutput then
      ShellM.warn (name ++ ": I/O error").toList
      return if status % 2 == 0 then status + 1 else status
    return status
  let restoreName : ShellM Unit := ShellM.update fun p => { p with builtin := before }
  tryCatch (ShellM.ensuring body restoreName) fun stop => do
    match stop with
    | .error => if isSpecial then throw .error else return (← ShellM.process).status
    | stop => throw stop

/-- How many functions may run within one another. -/
def greatestNesting : Nat := 1000

/-- Runs a function, and gives its status. -/
def callFunction (isTested : Bool) (f : Function) (arguments : List Text) : ShellM Nat := do
  let before ← ShellM.process
  if before.depth ≥ greatestNesting then
    ShellM.failWith s!"Maximum function recursion depth ({greatestNesting}) reached"
  ShellM.update fun p =>
    { p with
      arguments := arguments, loops := 0, depth := p.depth + 1
      optionPlace := ShellM.placeOf 1 }
  ShellM.ensuring (ev.command isTested f.body) (ShellM.update fun p =>
    { p with
      arguments := before.arguments, loops := before.loops, depth := before.depth
      optionPlace := before.optionPlace })
  ShellM.update fun p => { p with skip := if p.skip == some .back then none else p.skip }
  return (← ShellM.process).status

/-- Runs a program under a name, and gives its status. -/
def callProgram (path : Text) (arguments : List Text) : ShellM Nat := do
  let p ← ShellM.process
  if !p.givesPlace then ShellM.forgetJob
  match ← ev.program p.givesPlace path arguments with
  | .ok ending =>
    if !p.givesPlace then statusOf ending
    else
      match ending with
      | .exited status => throw (.exit (some status))
      | .killed signal => throw (.killed p.number signal)
  | .error fault =>
    ShellM.warn ((arguments.head?.getD []) ++ ": ".toList ++ programWords fault)
    return programStatus fault

/-- Runs a simple command whose words have been expanded, and gives its status. -/
def call (isTested : Bool) (meaning : Meaning) (isSpecial : Bool) (arguments : List Text) :
    ShellM Nat := do
  let staysInPlace : ShellM Unit := ShellM.update fun p => { p with givesPlace := false }
  match meaning with
  | .function f => do
    staysInPlace
    callFunction ev isTested f (arguments.drop 1)
  | .builtin name => do
    staysInPlace
    builtin ev isTested isSpecial name (arguments.drop 1)
  | .program path => callProgram ev path arguments
  | .nothing fault =>
    ShellM.warn ((arguments.head?.getD []) ++ ": ".toList ++ programWords fault)
    return 127

/-- Runs a simple command, and gives its status. -/
def simple (isTested : Bool) (line : Nat) (assignments words : List Word)
    (redirections : List Redirection) : ShellM Nat := do
  ShellM.update fun p => { p with line := line, substitutionStatus := 0 }
  let given ← expandWords ev [] words
  let p ← ShellM.process
  let hasOwn := (p.functions.get? "command").isSome
  let (arguments, isPlain, usesUsual) := withoutCommands hasOwn given given.length
  let first := arguments.head?.getD []
  let isFunction := !isPlain && (p.functions.get? (String.ofList first)).isSome
  let isBuiltin := specialBuiltins.contains (String.ofList first) && !isFunction
  let isSpecial := isBuiltin && !isPlain
  let isExec := isBuiltin && first == "exec".toList
  let isLocal := !arguments.isEmpty && !isSpecial
  let descriptors := p
  if isLocal then ShellM.openLocals
  let finish : ShellM Unit := do
    if !isExec then restore descriptors redirections
    if isLocal then ShellM.closeLocals
  let body : ShellM Nat := do
    if !(← tryRedirect ev redirections) then
      ShellM.setStatus 2
      if isSpecial then throw .error
      return 2
    let shown ← assignAll ev isLocal (isExec && arguments.length > 1) assignments
    trace ev (descriptors.descriptors.lookup 2) (shown ++ given)
    let now ← ShellM.process
    if arguments.isEmpty then return now.substitutionStatus
    let directories := if usesUsual then usualDirectories else ShellM.searchPath now
    let meaning ← meaningOf directories (!isPlain) first
    call ev isTested meaning isSpecial arguments
  ShellM.ensuring body finish

/-! ### Compound commands -/

/-- Runs the stages of a pipeline, the first of which reads from a channel, and gives the status of
    the last one. -/
def pipeline (isTested : Bool) (input : Option Nat) : List Command → ShellM Nat
  | [] => return 0
  | [last] => subshell ev isTested false ((input.map (0, ·)).toList) (pure ()) last
  | stage :: rest => do
    let output ← ShellM.addChannel (.pipe [] 0)
    let start := (← ShellM.process).clock
    let _ ← subshell ev isTested true ((input.map (0, ·)).toList ++ [(1, output)]) (pure ()) stage
    let ended := (← ShellM.process).clock
    ShellM.update fun p => { p with clock := start }
    let status ← pipeline isTested (some output) rest
    ShellM.advance ended
    return status

/-- Takes notice of what commands are skipped for, at the end of a part of a loop.  Says whether the
    loop is left, and whether its body is. -/
def loopSkip : ShellM (Bool × Bool) := do
  match (← ShellM.process).skip with
  | none => return (false, false)
  | some .back => return (true, true)
  | some (.leave n) =>
    ShellM.update fun p => { p with skip := if n > 1 then some (.leave (n - 1)) else none }
    return (true, true)
  | some (.resume n) =>
    ShellM.update fun p => { p with skip := if n > 1 then some (.resume (n - 1)) else none }
    return (n > 1, true)

/-- Runs a body as long as a test succeeds, or fails, and gives the status of the last body.  The
    fuel bounds how often. -/
def loop (isTested whileSucceeds : Bool) (test body : Command) (status : Nat) : Nat → ShellM Nat
  | 0 => throw .endless
  | fuel + 1 => do
    ev.command true test
    let tested := (← ShellM.process).status
    let skip := (← ShellM.process).skip
    let (isLeft, isSkipped) ← loopSkip
    let status := if skip == some .back then tested else status
    if isLeft then return status
    if isSkipped then loop isTested whileSucceeds test body status fuel
    else if (tested == 0) != whileSucceeds then return status
    else
      ev.command isTested body
      let status := (← ShellM.process).status
      let (isLeft, _) ← loopSkip
      if isLeft then return status
      loop isTested whileSucceeds test body status fuel

/-- Runs a body for each of some values, and gives the status of the last run. -/
def forEach (isTested : Bool) (name : Text) (body : Command) (status : Nat) :
    List Text → ShellM Nat
  | [] => return status
  | value :: rest => do
    ShellM.assign name value
    ev.command isTested body
    let status := (← ShellM.process).status
    let (isLeft, _) ← loopSkip
    if isLeft then return status
    forEach isTested name body status rest

/-- Whether one of the patterns matches a text. -/
def matchesAny (text : Text) : List Word → ShellM Bool
  | [] => return false
  | word :: rest => do
    if isMatch (← Expansion.pattern (capture ev) word) text then return true
    matchesAny text rest

/-- Runs the body of the first case of which a pattern matches, and gives its status. -/
def select (isTested : Bool) (subject : Text) : List (List Word × Option Command) → ShellM Nat
  | [] => return 0
  | (patterns, body) :: rest => do
    if (← ShellM.process).skip.isSome then return 0
    if ← matchesAny ev subject patterns then
      match body with
      | none => return 0
      | some body =>
        if (← ShellM.process).skip.isSome then return 0
        ev.command isTested body
        return (← ShellM.process).status
    else select isTested subject rest

/-- Runs something as one more loop. -/
def asLoop (body : ShellM Nat) : ShellM Nat := do
  ShellM.update fun p => { p with loops := p.loops + 1 }
  let status ← body
  ShellM.update fun p => { p with loops := p.loops - 1 }
  return status

/-- Sets the line to which messages refer. -/
def atLine (line : Nat) : ShellM Unit := ShellM.update fun p => { p with line := line }

/-- Whether a command is a simple one. -/
def isSimple : Command → Bool
  | .simple .. => true
  | _ => false

/-- The steps of a command: those that follow one another whatever comes of them. -/
def stepsOf : Command → List Command
  | .sequence first next => stepsOf first ++ stepsOf next
  | c => [c]

/-- The redirections of all that a task does, and its steps. -/
def partsOf : Command → List Redirection × List Command
  | .redirected _ body redirections => (redirections, stepsOf body)
  | .subshell _ body redirections => (redirections, stepsOf body)
  | body => ([], stepsOf body)

/-- Makes a task of a command.  A program that the command names takes the place of the task. -/
def background (body : Command) : ShellM Nat := do
  let input ← ShellM.addChannel .nowhere
  ShellM.forgetJob
  let s ← get
  let number := s.nextNumber
  let child := childOf s.process number
  let start : Process :=
    { child with
      descriptors := (0, input) :: child.descriptors.filter (·.1 != 0)
      givesPlace := isSimple body }
  let (opening, steps) := partsOf body
  let task : Task := ⟨number, start.ancestors, some opening, .paused start steps, [], []⟩
  set { s with nextNumber := number + 1, tasks := s.tasks ++ [task] }
  ShellM.addJob number
  return 0

/-- Runs the second of two commands unless commands are skipped, if it is wanted after the first
    one. -/
def second (isTested : Bool) (isWanted : Nat → Bool) (command : Command) : ShellM Nat := do
  let p ← ShellM.process
  if isWanted p.status && p.skip.isNone then ev.command isTested command
  return (← ShellM.process).status

/-- Runs a command, and gives its status. -/
def run (isTested : Bool) : Command → ShellM Nat
  | .simple line assignments words redirections =>
    simple ev isTested line assignments words redirections
  | .pipeline stages => pipeline ev isTested none stages
  | .background line body => do
    atLine line
    background body
  | .both first next => do
    ev.command true first
    second ev isTested (· == 0) next
  | .either first next => do
    ev.command true first
    second ev isTested (· != 0) next
  | .sequence first next => do
    ev.command isTested first
    second ev isTested (fun _ => true) next
  | .negated command => do
    ev.command true command
    let p ← ShellM.process
    return if p.skip.isSome then p.status else if p.status == 0 then 1 else 0
  | .redirected line command redirections => do
    atLine line
    let before ← ShellM.process
    if !(← tryRedirect ev redirections) then
      restore before redirections
      return 2
    ShellM.ensuring (ev.command isTested command) (restore before redirections)
    return (← ShellM.process).status
  | .subshell line body redirections => do
    atLine line
    subshell ev isTested false [] (redirectAll ev redirections) body
  | .choice test body rest => do
    ev.command true test
    let p ← ShellM.process
    if p.skip.isSome then return p.status
    if p.status == 0 then
      ev.command isTested body
      return (← ShellM.process).status
    match rest with
    | some rest =>
      ev.command isTested rest
      return (← ShellM.process).status
    | none => return 0
  | .loop whileSucceeds test body => do
    let patience := (← get).patience
    asLoop (loop ev isTested whileSucceeds test body 0 (patience + 1))
  | .forEach line name values body => do
    atLine line
    let fields ← values.mapM (Expansion.fields (capture ev))
    asLoop (forEach ev isTested name body 0 fields.flatten)
  | .selection line subject cases => do
    atLine line
    select ev isTested (← Expansion.text (capture ev) false subject) cases
  | .define line name body => do
    let _ := line
    ShellM.update fun p =>
      { p with functions := p.functions.insert (String.ofList name) ⟨body⟩ }
    return 0

/-- Whether a shell that is to end at the first failure ends where a command like this fails. -/
def isChecked : Command → Bool
  | .simple .. => true
  | .pipeline _ => true
  | .background .. => true
  | .subshell .. => true
  | _ => false

/-- How many commands may still run after a signal without which too many would have run. -/
def extraPatience : Nat := 1000

/-- Runs a command, with what has to be done before and after it.  A shell that would go on for too
    long goes on until the next signal comes. -/
def command (isTested : Bool) (c : Command) : ShellM Unit := do
  if ← ShellM.hasOption 'n' then return
  let s ← get
  let p := s.process
  if s.patience == 0 then
    match ← ShellM.firstSignal? fun p d => p.clock < d.time with
    | none => throw .endless
    | some d => set { s with process := { p with clock := d.time }, patience := extraPatience }
  else
    set { s with patience := s.patience - 1, process := { p with clock := p.clock + commandTime } }
  ShellM.passUntil ev.task p.clock
  handleSignals ev signalLimit
  let status ← run ev isTested c
  ShellM.setStatus status
  handleSignals ev signalLimit
  if isChecked c && !isTested && status != 0 && (← ShellM.hasOption 'e') then throw (.exit none)

/-! ### Scripts -/

/-- Runs the commands of a script one after the other as they are read.  The fuel bounds their
    number. -/
def scriptFrom (isTested : Bool) (size : Nat) (source : Source) : Nat → ShellM Unit
  | 0 => return
  | fuel + 1 => do
    let p ← ShellM.process
    let start :=
      { source with documents := [], nextDocument := p.nextDocument, aliases := p.aliases }
    match start.read (Source.sizeWith size p.aliases) with
    | .error fault =>
      ShellM.update fun p => { p with line := fault.line }
      ShellM.failWith ("Syntax error: " ++ fault.message)
    | .ok (portion, next) =>
      ShellM.update fun p =>
        { p with
          reached := next.line
          documents := next.documents ++ p.documents
          nextDocument := next.nextDocument }
      if p.options.contains 'v' then
        ShellM.report (start.rest.take (start.rest.length - next.rest.length))
      match portion with
      | .ending => return
      | .nothing => scriptFrom isTested size next fuel
      | .command c =>
        ev.command isTested c
        if (← ShellM.process).skip.isNone then scriptFrom isTested size next fuel

/-- Runs the commands in a text, in which characters that say nothing are passed over. -/
def script (isTested : Bool) (text : Text) : ShellM Unit := do
  let before ← ShellM.process
  let shown := text.filter (· != '\x00')
  let source := Source.ofText shown 0 before.aliases
  ShellM.ensuring (scriptFrom ev isTested shown.length source (shown.length + 2))
    (ShellM.update fun p => { p with reached := before.reached })

end Execution

end DiagnosticBridge.Shell
