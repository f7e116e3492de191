import DiagnosticBridge.Shell.Arithmetic
import DiagnosticBridge.Shell.Fields

namespace DiagnosticBridge.Shell

/-!
# Expansion

What words stand for: characters, the values of parameters, what commands print, and the values of
expressions.  Words of commands are cut into fields, and fields that are patterns stand for the
paths that match them; other words stand for one text each.
-/

namespace Expansion

/-- How a word is taken. -/
structure Mode where
  /-- Whether it may stand for several fields. -/
  isFull : Bool
  /-- Whether it stands in for the value of a parameter. -/
  isOperand : Bool
  /-- Whether a tilde at its front stands for a home. -/
  findsHome : Bool
  /-- Whether a tilde after an equals sign or a colon does, too. -/
  isAssignment : Bool

/-- What commands print. -/
abbrev Capture := Option Command → ShellM Text

/-- The letters of options, in the order in which they are shown. -/
def optionOrder : Text := "pubaCEVvxsnmiIfe".toList

/-- What separates fields. -/
def separators (p : Process) : Text := (ShellM.value? p "IFS".toList).getD usualSeparators

/-- The home of a user, or of the one to whom the process belongs. -/
def home? (p : Process) (user : Text) : Option Text :=
  if user.isEmpty then ShellM.value? p "HOME".toList
  else if user == "root".toList then some "/root".toList
  else none

/-- What stands between arguments where all of them are taken together. -/
def between (p : Process) (mode : Mode) (name : Char) (isQuoted : Bool) : List Atom :=
  let own := ShellM.value? p "IFS".toList
  let first := ((own.getD [' ']).take 1).map (Atom.char · isQuoted)
  if !mode.isFull then first
  else if isQuoted then if name == '@' then [.gap] else first
  else if own.isSome then [.gap]
  else [.char ' ' false]

/-- The value of a parameter, if it has one. -/
def value? (p : Process) (mode : Mode) (name : Text) (isQuoted : Bool) : Option (List Atom) :=
  let all (c : Char) : List Atom :=
    List.intercalate (between p mode c isQuoted) (p.arguments.map (atomsOf isQuoted))
  let single : Option Text :=
    match name with
    | ['?'] => some (decimal p.status)
    | ['$'] => some (decimal p.shellNumber)
    | ['#'] => some (decimal p.arguments.length)
    | ['!'] => p.lastJob.map decimal
    | ['-'] => some (optionOrder.filter p.options.contains)
    | name =>
      match number? name with
      | some 0 => some p.title
      | some n => p.arguments[n - 1]?
      | none => ShellM.value? p name
  match name with
  | ['@'] => some (all '@')
  | ['*'] => some (all '*')
  | _ => single.map (atomsOf isQuoted)

/-- Marks what comes from a value as what is cut into fields. -/
def recorded (p : Process) (name : Text) (isQuoted : Bool) (atoms : List Atom) : List Atom :=
  if !isQuoted then .opens false :: atoms ++ [.closes]
  else if name == ['@'] && !p.arguments.isEmpty then .opens true :: atoms ++ [.closes]
  else atoms

/-- Says that a parameter has no value. -/
def refuseUnset {α : Type} (name message : Text) : ShellM α :=
  ShellM.fail (name ++ ": ".toList ++ message)

/-- The atoms of the value of a parameter, or of what stands in for it. -/
def parameter (expand : Mode → Word → ShellM (List Atom)) (mode : Mode) (name : Text)
    (operation : Operation) (isQuoted : Bool) : ShellM (List Atom) := do
  let p ← ShellM.process
  let value := value? p mode name isQuoted
  let counts (nullToo : Bool) : Bool :=
    match value with
    | some atoms => !nullToo || !atoms.isEmpty
    | none => false
  let present := recorded p name isQuoted (value.getD [])
  let operand (word : Word) : ShellM (List Atom) :=
    expand { mode with isOperand := true, findsHome := true } word
  let text (word : Word) : ShellM Text := do
    return textOf (← expand ⟨false, false, true, false⟩ word)
  let required : ShellM Unit := do
    if value.isNone && p.options.contains 'u' then refuseUnset name "parameter not set".toList
  match operation with
  | .unknown => ShellM.failWith "Bad substitution"
  | .plain => do
    required
    return if value.isSome then present else []
  | .length => do
    required
    return recorded p ['#'] isQuoted (atomsOf isQuoted (decimal (value.getD []).length))
  | .fallback nullToo word => if counts nullToo then return present else operand word
  | .instead nullToo word => if counts nullToo then operand word else return []
  | .assign nullToo word => do
    if counts nullToo then return present
    let given ← text word
    if !isName name then ShellM.fail (name ++ ": bad variable name".toList)
    ShellM.assign name given
    return recorded p name isQuoted (atomsOf isQuoted given)
  | .demand nullToo word => do
    if counts nullToo then return present
    let given ← text word
    if word.isEmpty then
      let addition := if nullToo then " or null" else ""
      refuseUnset name ("parameter not set" ++ addition).toList
    refuseUnset name given
  | .trim atFront isLongest word => do
    required
    match value with
    | none => return []
    | some atoms =>
      let pattern := patternOf (glyphsOf (← expand ⟨false, false, true, false⟩ word))
      let rest := (if atFront then trimFront else trimBack) isLongest pattern (gappedText atoms)
      return recorded p name isQuoted (gappedAtoms isQuoted rest)

/-- The user after a tilde, and how many characters it takes; none if the tilde stands for
    itself. -/
def tildeUser? (isAssignment : Bool) : Word → Option Text
  | .char c false :: rest =>
    if c == '/' || (c == ':' && isAssignment) then some []
    else (tildeUser? isAssignment rest).map (c :: ·)
  | .char _ true :: _ => none
  | .quote :: _ => none
  | .parameter .. :: _ => none
  | .command .. :: _ => none
  | .arithmetic .. :: _ => none
  | [] => some []

/-- What stands for nothing at the end of an output: its last ends of lines. -/
def withoutLastLines (text : Text) : Text := (text.reverse.dropWhile (· == '\n')).reverse

/-- The atoms of a part of a word that is no character. -/
def part (capture : Capture) (expand : Mode → Word → ShellM (List Atom)) (mode : Mode) :
    Part → ShellM (List Atom)
  | .char c isQuoted => return [.char c isQuoted]
  | .quote => return [.mark]
  | .parameter name operation isQuoted => parameter expand mode name operation isQuoted
  | .command body isQuoted => do
    let text := (withoutLastLines (← capture body)).filter (· != '\x00')
    return recorded (← ShellM.process) [] isQuoted (atomsOf isQuoted text)
  | .arithmetic expression isQuoted => do
    let text := textOf (← expand ⟨false, false, false, false⟩ expression)
    let n ← calculate text
    return recorded (← ShellM.process) [] isQuoted (atomsOf isQuoted (integerText n))

/-- Where the look at a word has come to. -/
structure Position where
  /-- How many parts have been dealt with already. -/
  passed : Nat
  /-- Whether a tilde that comes next may stand for a home. -/
  mayBeHome : Bool
  /-- Whether an equals sign has come. -/
  hasEquals : Bool
  /-- Whether characters that may be cut come before. -/
  isOpen : Bool

/-- The atoms of the parts of a word. -/
def parts (capture : Capture) (expand : Mode → Word → ShellM (List Atom)) (mode : Mode)
    (here : Position) : Word → ShellM (List Atom)
  | [] => return if here.isOpen then [.closes] else []
  | first :: rest => do
    let close : List Atom := if here.isOpen then [.closes] else []
    if here.passed > 0 then
      parts capture expand mode { here with passed := here.passed - 1 } rest
    else
      match first with
      | .char c false =>
        let p ← ShellM.process
        let user := if c == '~' && here.mayBeHome then tildeUser? mode.isAssignment rest else none
        match user.bind fun user => (home? p user).map (user.length, ·) with
        | some (length, home) =>
          return close ++ atomsOf true home ++
            (← parts capture expand mode ⟨length, false, here.hasEquals, false⟩ rest)
        | none =>
          let hasEquals := here.hasEquals || c == '='
          let mayBeHome := mode.isAssignment &&
            ((c == '=' && !here.hasEquals) || (c == ':' && here.hasEquals))
          let opening : List Atom := if mode.isOperand && !here.isOpen then [.opens false] else []
          let more ← parts capture expand mode ⟨0, mayBeHome, hasEquals, mode.isOperand⟩ rest
          return opening ++ .char c false :: more
      | first =>
        let next : Position := ⟨0, false, here.hasEquals, false⟩
        match first, rest with
        | .quote, .parameter ['@'] .plain true :: .quote :: _ =>
          let all ← part capture expand mode (.parameter ['@'] .plain true)
          return close ++ all ++ (← parts capture expand mode { next with passed := 2 } rest)
        | first, _ =>
          let atoms ← part capture expand mode first
          return close ++ atoms ++ (← parts capture expand mode next rest)

/-- The atoms of a word.  The fuel bounds how deep words are nested. -/
def atoms (capture : Capture) : Nat → Mode → Word → ShellM (List Atom)
  | 0, _, _ => return []
  | fuel + 1, mode, word =>
    parts capture (atoms capture fuel) mode ⟨0, mode.findsHome, false, false⟩ word

/-- How deep words may be nested. -/
def depth : Nat := 1000

/-- The one text that a word stands for. -/
def text (capture : Capture) (isAssignment : Bool) (word : Word) : ShellM Text := do
  return textOf (← atoms capture depth ⟨false, false, true, isAssignment⟩ word)

/-- The text of a document. -/
def documentText (capture : Capture) (word : Word) : ShellM Text := do
  return textOf (← atoms capture depth ⟨false, false, false, false⟩ word)

/-- The pattern that a word stands for. -/
def pattern (capture : Capture) (word : Word) : ShellM Pattern := do
  return patternOf (glyphsOf (← atoms capture depth ⟨false, false, true, false⟩ word))

/-- The paths that match a field, or the field itself if there are none. -/
def pathsOf (field : List Glyph) : ShellM (List Text) := do
  let s ← get
  let plain := field.map (·.1)
  if s.process.options.contains 'f' || !hasMeta field then return [plain]
  match glob s.tree s.process.directory field with
  | [] => return [plain]
  | found => return found

/-- The fields that a word stands for. -/
def fields (capture : Capture) (word : Word) : ShellM (List Text) := do
  let found ← atoms capture depth ⟨true, false, true, false⟩ word
  let cut := fieldsOf (separators (← ShellM.process)) none found
  return (← cut.mapM pathsOf).flatten

end Expansion

end DiagnosticBridge.Shell
