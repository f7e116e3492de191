import DiagnosticBridge.Shell.Number
import DiagnosticBridge.Shell.State

namespace DiagnosticBridge.Shell

/-!
# Arithmetic

Expressions over integers and the values of names.  An expression is worked out while it is read;
a part of it that does not count is only read.
-/

/-- A token of an expression. -/
inductive MathToken where
  | number (value : Int)
  | name (text : Text)
  | sign (text : String)
  /-- No token at all. -/
  | unknown

/-- The signs of expressions, the longer ones first. -/
def mathSigns : List String :=
  ["<<=", ">>=", "&&", "||", "==", "!=", "<=", ">=", "<<", ">>", "+=", "-=", "*=", "/=", "%=",
    "&=", "|=", "^=", "+", "-", "*", "/", "%", "<", ">", "&", "|", "^", "!", "~", "?", ":", "=",
    "(", ")"]

/-- The tokens of an expression.  The fuel bounds their number. -/
def mathTokens (text : Text) : Nat → List MathToken
  | 0 => []
  | fuel + 1 =>
    match text.dropWhile fun c => isBlank c || c == '\n' with
    | [] => []
    | c :: rest =>
      let text := c :: rest
      if c.isDigit then
        let scanned := scanInteger true text
        .number scanned.value :: mathTokens scanned.rest fuel
      else if isNameStart c then
        let name := text.takeWhile isNameChar
        .name name :: mathTokens (text.drop name.length) fuel
      else
        match mathSigns.find? fun sign => sign.toList.isPrefixOf text with
        | some sign => .sign sign :: mathTokens (text.drop sign.length) fuel
        | none => [.unknown]

/-- What reads an expression: the tokens that are left are its state. -/
abbrev Calculator := StateT (List MathToken) ShellM

namespace Calculator

/-- Refuses the expression. -/
def refuse {α : Type} (text : Text) (message : String) : Calculator α :=
  (ShellM.fail
    ("arithmetic expression: ".toList ++ message.toList ++ ": \"".toList ++ text ++ ['"']) :
    ShellM α)

/-- Passes over a token. -/
def skip : Calculator Unit := modify (·.drop 1)

/-- The next token if it is a sign, left unread. -/
def sign? : Calculator (Option String) := do
  match (← get).head? with
  | some (.sign text) => return some text
  | _ => return none

/-- The value of a name. -/
def valueOf (name : Text) : Calculator Int := do
  let value := (ShellM.value? (← ShellM.process) name).getD []
  match integer? true value with
  | some n => return n
  | none => (ShellM.fail ("Illegal number: ".toList ++ value) : ShellM Int)

/-- How tightly a sign between two values binds; a smaller number binds more tightly. -/
def rank? (sign : String) : Option Nat :=
  ([ ("*", 0), ("/", 0), ("%", 0), ("+", 1), ("-", 1), ("<<", 2), (">>", 2), ("<", 3), ("<=", 3),
      (">", 3), (">=", 3), ("==", 4), ("!=", 4), ("&", 5), ("^", 6), ("|", 7) ]
    : List (String × Nat)).lookup sign

/-- One for what holds. -/
def truth (holds : Bool) : Int := if holds then 1 else 0

/-- The number of places by which integers are moved. -/
def places (n : Int) : Nat := (n % 64).toNat

/-- The integer that two others make with a sign between them. -/
def apply (text : Text) (sign : String) (a b : Int) : Calculator Int := do
  let divide (f : Int → Int → Int) : Calculator Int :=
    if b == 0 then refuse text "division by zero" else return wrapped (f a b)
  let bits (f : Int64 → Int64 → Int64) : Int := (f (Int64.ofInt a) (Int64.ofInt b)).toInt
  match sign with
  | "*" => return wrapped (a * b)
  | "/" => divide Int.tdiv
  | "%" => divide Int.tmod
  | "+" => return wrapped (a + b)
  | "-" => return wrapped (a - b)
  | "<<" => return wrapped (a <<< places b)
  | ">>" => return a >>> places b
  | "<" => return truth (a < b)
  | "<=" => return truth (a ≤ b)
  | ">" => return truth (a > b)
  | ">=" => return truth (a ≥ b)
  | "==" => return truth (a == b)
  | "!=" => return truth (a != b)
  | "&" => return bits (· &&& ·)
  | "^" => return bits (· ^^^ ·)
  | _ => return bits (· ||| ·)

variable (text : Text) (expression : Bool → Calculator Int)

/-- Reads a value.  The fuel bounds the number of signs before it. -/
def primary (counts : Bool) : Nat → Calculator Int
  | 0 => refuse text "expecting primary"
  | fuel + 1 => do
    let token := (← get).head?
    match token with
    | some (.number n) => skip; return n
    | some (.name name) => skip; if counts then valueOf name else return 0
    | some (.sign "(") =>
      skip
      let n ← expression counts
      if (← sign?) != some ")" then refuse text "expecting ')'"
      skip
      return n
    | some (.sign "+") => skip; primary counts fuel
    | some (.sign "-") => skip; return wrapped (-(← primary counts fuel))
    | some (.sign "!") => skip; return truth ((← primary counts fuel) == 0)
    | some (.sign "~") => skip; return -(← primary counts fuel) - 1
    | _ => refuse text "expecting primary"

/-- Reads signs between values that bind as tightly as a rank or more, with the values after them.
    The fuel bounds their number. -/
def operations (counts : Bool) (rank : Nat) (a : Int) : Nat → Calculator Int
  | 0 => return a
  | fuel + 1 => do
    match ← sign? with
    | none => return a
    | some sign =>
      match rank? sign with
      | none => return a
      | some found =>
        if found > rank then return a
        skip
        let b ← primary text expression counts fuel
        let b ← if found == 0 then pure b else operations counts (found - 1) b fuel
        let n ← if counts then apply text sign a b else pure b
        operations counts rank n fuel

/-- Reads values joined by "and".  The fuel bounds their number. -/
def conjunction (counts : Bool) : Nat → Calculator Int
  | 0 => refuse text "expecting primary"
  | fuel + 1 => do
    let a ← operations text expression counts 7 (← primary text expression counts fuel) fuel
    if (← sign?) != some "&&" then return a
    skip
    let b ← conjunction (counts && a != 0) fuel
    return truth (a != 0 && b != 0)

/-- Reads values joined by "or".  The fuel bounds their number. -/
def disjunction (counts : Bool) : Nat → Calculator Int
  | 0 => refuse text "expecting primary"
  | fuel + 1 => do
    let a ← conjunction text expression counts fuel
    if (← sign?) != some "||" then return a
    skip
    let b ← disjunction (counts && a == 0) fuel
    return truth (a != 0 || b != 0)

/-- Reads a choice between values.  The fuel bounds their number. -/
def choice (counts : Bool) : Nat → Calculator Int
  | 0 => refuse text "expecting primary"
  | fuel + 1 => do
    let a ← disjunction text expression counts fuel
    if (← sign?) != some "?" then return a
    skip
    let b ← expression (counts && a != 0)
    if (← sign?) != some ":" then refuse text "expecting ':'"
    skip
    let c ← choice (counts && a == 0) fuel
    return if a != 0 then b else c

/-- The sign that is worked out by an assignment, if it is one. -/
def assigned? (sign : String) : Option String :=
  if ["==", "!=", "<=", ">="].contains sign || sign.toList.getLast? != some '=' then none
  else some (String.ofList sign.toList.dropLast)

/-- Reads an expression.  The fuel bounds how deep parts are nested. -/
def whole (counts : Bool) : Nat → Calculator Int
  | 0 => refuse text "expecting primary"
  | fuel + 1 => do
    let tokens ← get
    match tokens with
    | .name name :: .sign sign :: rest =>
      match assigned? sign with
      | none => choice text (whole · fuel) counts (fuel + 1)
      | some operator =>
        set rest
        let n ← whole counts fuel
        if !counts then return n
        let n ← if operator.isEmpty then pure n else apply text operator (← valueOf name) n
        (ShellM.assign name (integerText n) : ShellM Unit)
        return n
    | _ => choice text (whole · fuel) counts (fuel + 1)

end Calculator

/-- The value of an expression. -/
def calculate (text : Text) : ShellM Int := do
  let tokens := mathTokens text (text.length + 1)
  let (n, rest) ← (Calculator.whole text true (tokens.length + 8)).run tokens
  if !rest.isEmpty then
    ShellM.fail ("arithmetic expression: expecting EOF: \"".toList ++ text ++ ['"'])
  return n

end DiagnosticBridge.Shell
