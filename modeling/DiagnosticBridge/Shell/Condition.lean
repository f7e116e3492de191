import DiagnosticBridge.Shell.Number
import DiagnosticBridge.Shell.State

namespace DiagnosticBridge.Shell

/-!
# Conditions

What is asked about texts, numbers and files, written as a list of words: questions about one word,
questions about two, and their combinations.  Words are looked at from left to right; the word that
is looked at is the first one of the state.
-/

/-- What a word of a condition may be. -/
inductive ConditionWord where
  | ending
  | operand
  | not
  | and
  | or
  | opening
  | closing
  | unary
  | binary
  deriving DecidableEq

/-- Questions about one word. -/
def unaryQuestions : List String :=
  ["-r", "-w", "-x", "-e", "-f", "-d", "-c", "-b", "-p", "-u", "-g", "-k", "-L", "-h", "-S", "-s",
    "-z", "-n", "-t", "-O", "-G"]

/-- Questions about two words. -/
def binaryQuestions : List String :=
  ["=", "!=", "<", ">", "-eq", "-ne", "-gt", "-ge", "-lt", "-le", "-nt", "-ot", "-ef"]

/-- What a word is by itself. -/
def conditionWord (word : Text) : ConditionWord :=
  match String.ofList word with
  | "!" => .not
  | "-a" => .and
  | "-o" => .or
  | "(" => .opening
  | ")" => .closing
  | text =>
    if unaryQuestions.contains text then .unary
    else if binaryQuestions.contains text then .binary
    else .operand

/-- What the first word is, where it may also be an operand that looks like a question. -/
def firstConditionWord : List Text → ConditionWord
  | [] => .ending
  | word :: rest =>
    let found := conditionWord word
    let isOperand := match rest with
      | [] => true
      | [_] => false
      | next :: _ => conditionWord next == .binary
    if (found == .unary && isOperand) || (found == .opening && rest.isEmpty) then .operand
    else found

/-- What looks at a condition. -/
abbrev Asker := StateT (List Text) ShellM

namespace Asker

/-- Refuses a condition. -/
def refuse {α : Type} (message : Text) : Asker α := (ShellM.fail message : ShellM α)

/-- The number that a word denotes. -/
def number (word : Text) : Asker Int :=
  match integer? false word with
  | some n => return n
  | none => refuse ("Illegal number: ".toList ++ word)

/-- Answers a question about a file. -/
def aboutFile (question : String) (path : Text) : Asker Bool := do
  let s : State ← (get : ShellM State)
  match s.tree.find? s.process.directory (stringOf path) with
  | none => return false
  | some entry =>
    match question with
    | "-f" => return match entry with
      | .file .. => true
      | .utility _ => true
      | _ => false
    | "-d" => return entry == .directory
    | "-x" => return match entry with
      | .directory => true
      | .file _ isExecutable => isExecutable
      | .utility _ => true
      | _ => false
    | "-s" => return match entry with
      | .directory => true
      | .file content _ => !content.isEmpty
      | .utility _ => true
      | _ => false
    | "-c" => return match entry with
      | .void => true
      | .descriptor _ => true
      | _ => false
    | _ => return ["-e", "-r", "-w", "-O", "-G"].contains question

/-- Answers a question about one word. -/
def unary (question : String) (word : Text) : Asker Bool := do
  match question with
  | "-z" => return word.isEmpty
  | "-n" => return !word.isEmpty
  | "-t" =>
    let _ ← number word
    return false
  | question => aboutFile question word

/-- Answers a question about two words. -/
def binary (question : String) (a b : Text) : Asker Bool := do
  let compare (f : Int → Int → Bool) : Asker Bool := do
    let x ← number a
    return f x (← number b)
  match question with
  | "=" => return a == b
  | "!=" => return a != b
  | "<" => return isBefore a b
  | ">" => return isBefore b a
  | "-eq" => compare (· == ·)
  | "-ne" => compare (· != ·)
  | "-gt" => compare (decide <| · > ·)
  | "-ge" => compare (decide <| · ≥ ·)
  | "-lt" => compare (decide <| · < ·)
  | "-le" => compare (decide <| · ≤ ·)
  | "-ef" => do
    let s : State ← (get : ShellM State)
    let place (path : Text) : Option Files.Place :=
      ((s.tree.find s.process.directory (stringOf path)).toOption).map (·.1)
    return (place a).isSome && place a == place b
  | _ => return false

/-- The word that is looked at. -/
def current : Asker Text := do return (← get).head?.getD []

/-- Goes on to the next word. -/
def advance : Asker Unit := modify (·.drop 1)

/-- Looks at a question, or at a condition in brackets; the last word of it stays the one that is
    looked at. -/
def primary (inner : ConditionWord → Asker Bool) (found : ConditionWord) : Asker Bool := do
  match found with
  | .ending => return false
  | .opening =>
    advance
    let next := firstConditionWord (← get)
    if next == .closing then return false
    let holds ← inner next
    advance
    if firstConditionWord (← get) != .closing then refuse "closing paren expected".toList
    return holds
  | .unary =>
    let question ← current
    advance
    if (← get).isEmpty then refuse (question ++ ": argument expected".toList)
    unary (String.ofList question) (← current)
  | _ =>
    let words ← get
    if firstConditionWord (words.drop 1) == .binary then
      let a ← current
      advance
      let question ← current
      advance
      if (← get).isEmpty then refuse (question ++ ": argument expected".toList)
      binary (String.ofList question) a (← current)
    else return !(← current).isEmpty

/-- Looks at a condition that may be turned into its opposite.  The fuel bounds how often. -/
def negation (inner : ConditionWord → Asker Bool) (found : ConditionWord) : Nat → Asker Bool
  | 0 => return false
  | fuel + 1 => do
    if found != .not then return ← primary inner found
    let next := firstConditionWord ((← get).drop 1)
    if next != .ending then advance
    return !(← negation inner next fuel)

/-- Looks at conditions joined by a word.  The fuel bounds their number. -/
def joined (word : ConditionWord) (part : ConditionWord → Asker Bool)
    (combine : Bool → Bool → Bool) (before : Bool) (found : ConditionWord) : Nat → Asker Bool
  | 0 => return before
  | fuel + 1 => do
    let holds := combine before (← part found)
    if firstConditionWord ((← get).drop 1) != word then return holds
    modify (·.drop 2)
    joined word part combine holds (firstConditionWord (← get)) fuel

/-- Looks at a whole condition.  The fuel bounds how deep conditions are nested. -/
def whole (found : ConditionWord) : Nat → Asker Bool
  | 0 => return false
  | fuel + 1 =>
    joined .or
      (fun found => joined .and (fun found => negation (whole · fuel) found (fuel + 1))
        (· && ·) true found (fuel + 1))
      (· || ·) false found (fuel + 1)

/-- Looks at all words of a condition. -/
def all : Asker Bool := do
  let words ← get
  let found := match words with
    | [_, question, _] =>
      if conditionWord question == .binary then .operand else firstConditionWord words
    | _ => firstConditionWord words
  let holds ← whole found (words.length + 1)
  match ← get with
  | word :: _ :: _ => refuse (word ++ ": unexpected operator".toList)
  | _ => return holds

end Asker

/-- Whether words are a condition that holds.  An exclamation mark at the front of four words or
    less, and brackets around them, are taken off first.  The fuel bounds how often. -/
def condition (words : List Text) : Nat → ShellM Bool
  | 0 => return false
  | fuel + 1 => do
    let isBinary := match words with
      | [_, question, _] => conditionWord question == .binary
      | _ => false
    if words.isEmpty then return false
    else if (words.length == 3 || words.length == 4) && !isBinary then
      match words with
      | ['('] :: rest =>
        if rest.getLast? == some [')'] then return ← condition rest.dropLast fuel
        return (← Asker.all.run words).1
      | ['!'] :: rest => return !(← condition rest fuel)
      | _ => return (← Asker.all.run words).1
    else return (← Asker.all.run words).1

end DiagnosticBridge.Shell
