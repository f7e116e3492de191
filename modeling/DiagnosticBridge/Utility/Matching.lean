import DiagnosticBridge.Utility.Lines
import DiagnosticBridge.Utility.Regex

namespace DiagnosticBridge.Utility

open Shell

/-!
# Programs that compare

One shows the lines that match an expression; the other works out the value of its arguments.
-/

/-! ### Lines that match -/

/-- What lines are looked for. -/
structure Search where
  /-- The expressions, of which one must match. -/
  patterns : List Regex
  /-- Whether capital letters count as small ones. -/
  folds : Bool
  /-- Whether lines are wanted that do not match. -/
  isNegated : Bool
  /-- Whether whole lines must match. -/
  isWholeLine : Bool
  /-- Whether whole words must match. -/
  isWholeWord : Bool

namespace Search

/-- Whether a piece may be taken. -/
def accepts (s : Search) (text : Array Char) (found : Regex.Found) : Bool :=
  (!s.isWholeLine || (found.first == 0 && found.last == text.size)) &&
    (!s.isWholeWord ||
      (!(found.first > 0 && Regex.wordAt text (found.first - 1)) &&
        !Regex.wordAt text found.last))

/-- The first piece of a line that is taken, from a place on.  The fuel bounds the number of
    pieces that are not. -/
def findFrom? (s : Search) (text : Array Char) (place : Nat) : Nat → Option Regex.Found
  | 0 => none
  | fuel + 1 =>
    let found := s.patterns.filterMap fun r => Regex.find? text s.folds r place
    let best := found.foldl (fun (best : Option Regex.Found) f =>
      match best with
      | none => some f
      | some b =>
        if f.first < b.first || (f.first == b.first && f.last > b.last) then some f else best) none
    match best with
    | none => none
    | some f => if s.accepts text f then some f else findFrom? s text (f.first + 1) fuel

/-- Whether a line is wanted. -/
def wants (s : Search) (line : Text) : Bool :=
  let text := line.toArray
  (s.findFrom? text 0 (text.size + 1)).isSome != s.isNegated

/-- All pieces of a line that are taken and not empty.  The fuel bounds their number. -/
def pieces (s : Search) (text : Array Char) (place : Nat) : Nat → List Text
  | 0 => []
  | fuel + 1 =>
    match s.findFrom? text place (text.size + 1) with
    | none => []
    | some f =>
      if f.last == f.first then pieces s text (f.last + 1) fuel
      else (text.extract f.first f.last).toList :: pieces s text f.last fuel

end Search

/-- The options of the program that shows lines that match. -/
def searchOptions : List Choice :=
  [⟨'E', "extended-regexp", false⟩, ⟨'F', "fixed-strings", false⟩, ⟨'G', "basic-regexp", false⟩,
    ⟨'i', "ignore-case", false⟩, ⟨'y', "", false⟩, ⟨'v', "invert-match", false⟩,
    ⟨'c', "count", false⟩, ⟨'n', "line-number", false⟩, ⟨'l', "files-with-matches", false⟩,
    ⟨'L', "files-without-match", false⟩, ⟨'q', "quiet", false⟩, ⟨'q', "silent", false⟩,
    ⟨'o', "only-matching", false⟩, ⟨'w', "word-regexp", false⟩, ⟨'x', "line-regexp", false⟩,
    ⟨'s', "no-messages", false⟩, ⟨'h', "no-filename", false⟩, ⟨'H', "with-filename", false⟩,
    ⟨'a', "text", false⟩, ⟨'e', "regexp", true⟩, ⟨'m', "max-count", true⟩]

/-- Shows the lines of an input that are wanted; says whether there are any. -/
def showMatches (u : Usage) (search : Search) (isTitled : Bool) (path content : Text) :
    ShellM Bool := do
  let name := if path == ['-'] then "(standard input)".toList else path
  let wanted := ((linesOf content).zipIdx 1).filter fun (line, _) => search.wants line
  let wanted := match (u.argument? 'm').bind number? with
    | some n => wanted.take n
    | none => wanted
  let label (mark : Char) : Text := if isTitled then name ++ [mark] else []
  if u.has 'q' then pure ()
  else if u.has 'l' then
    if !wanted.isEmpty then ShellM.print (name ++ ['\n'])
  else if u.has 'L' then
    if wanted.isEmpty then ShellM.print (name ++ ['\n'])
  else if u.has 'c' then ShellM.print (label ':' ++ decimal wanted.length ++ ['\n'])
  else
    wanted.forM fun (line, n) => do
      let front := label ':' ++ (if u.has 'n' then decimal n ++ [':'] else [])
      if u.has 'o' then
        if !search.isNegated then
          (search.pieces line.toArray 0 (line.length + 1)).forM fun piece =>
            ShellM.print (front ++ piece ++ ['\n'])
      else ShellM.print (front ++ line ++ ['\n'])
  return !wanted.isEmpty

/-- Shows lines that match. -/
def grep : ShellM Nat := do
  let usage (message : Option Text) : ShellM Nat := do
    if let some message := message then say message
    let title := (← ShellM.process).title
    ShellM.report ("Usage: ".toList ++ title ++ " [OPTION]... PATTERNS [FILE]...\n".toList)
    sayTry
    return 2
  match Usage.ofArguments searchOptions false (← ShellM.process).arguments with
  | .error message => usage (some message)
  | .ok u =>
    let given := (u.chosen.filter (·.1 == 'e')).map (·.2)
    let operands := u.operands
    if given.isEmpty && operands.isEmpty then return ← usage none
    let (texts, paths) := if given.isEmpty then (operands.take 1, operands.drop 1)
      else (given, operands)
    let texts := texts.flatMap (·.splitOn '\n')
    let patterns := texts.mapM fun text =>
      if u.has 'F' then some (Regex.ofLiteral text) else Regex.ofText? (u.has 'E') text
    match patterns with
    | none =>
      say "Invalid regular expression".toList
      return 2
    | some patterns =>
      let search : Search :=
        ⟨patterns, u.has 'i' || u.has 'y', u.has 'v', u.has 'x', u.has 'w'⟩
      let isTitled := (paths.length > 1 || u.has 'H') && !u.has 'h'
      let (isFound, hasFailed) ← (if paths.isEmpty then [['-']] else paths).foldlM
        (fun ((isFound, hasFailed) : Bool × Bool) path => do
          match ← inputAt path with
          | .error fault =>
            if !u.has 's' then sayFault path fault
            return (isFound, true)
          | .ok content =>
            let found ← showMatches u search isTitled path content
            return (isFound || found, hasFailed)) (false, false)
      return if isFound && (u.has 'q' || !hasFailed) then 0 else if hasFailed then 2 else 1

/-! ### Values of arguments -/

/-- What works out the value of arguments, of which those that are left are the state; it may
    refuse them with a message. -/
abbrev Valuer := StateT (List Text) (Except Text)

namespace Valuer

/-- The text of a truth. -/
def truth (holds : Bool) : Text := if holds then ['1'] else ['0']

/-- Whether a value counts as none. -/
def isNull (value : Text) : Bool :=
  value.isEmpty || (value.all fun c => c == '0' || c == '-') && value.any (· == '0')

/-- The number that a value denotes. -/
def number (value : Text) : Valuer Int :=
  match value with
  | '-' :: digits =>
    match number? digits with
    | some n => return -n
    | none => throw "non-integer argument".toList
  | digits =>
    match number? digits with
    | some n => return n
    | none => throw "non-integer argument".toList

/-- The part of a text that an expression matches at its front, or the piece of it that has a
    number, or how long it is. -/
def matched (text pattern : Text) : Valuer Text := do
  match Regex.ofText? false pattern with
  | none => throw "Invalid regular expression".toList
  | some r =>
    let chars := text.toArray
    let hasGroup := pattern.zip (pattern.drop 1) |>.contains ('\\', '(')
    match Regex.matchAt? chars false r 0 with
    | none => return if hasGroup then [] else ['0']
    | some found =>
      if hasGroup then
        match found.groups.lookup 1 with
        | some (first, last) => return (chars.extract first last).toList
        | none => return []
      else return decimal found.last

/-- Passes over an argument if it is a given one; says whether it was. -/
def accept (text : String) : Valuer Bool := do
  if (← get).head? == some text.toList then
    modify (·.drop 1)
    return true
  return false

variable (whole : Valuer Text)

/-- Takes the next argument. -/
def next : Valuer Text := do
  match ← get with
  | [] => throw "syntax error".toList
  | text :: rest =>
    set rest
    return text

/-- Works out a single value. -/
def single : Valuer Text := do
  let arguments ← get
  match arguments with
  | [] => throw "syntax error".toList
  | first :: rest =>
    match String.ofList first, rest with
    | "(", _ =>
      set rest
      let value ← whole
      if !(← accept ")") then throw "syntax error: expecting ')'".toList
      return value
    | "length", _ :: _ =>
      set rest
      return decimal (← next).length
    | "match", _ :: _ :: _ =>
      set rest
      let text ← next
      matched text (← next)
    | "index", _ :: _ :: _ =>
      set rest
      let text ← next
      let chars ← next
      return decimal (((text.findIdx? chars.contains).map (· + 1)).getD 0)
    | "substr", _ :: _ :: _ :: _ =>
      set rest
      let text ← next
      let place ← number (← next)
      let count ← number (← next)
      return if place ≤ 0 || count ≤ 0 then []
        else (text.drop (place.toNat - 1)).take count.toNat
    | ")", _ => throw "syntax error: unexpected ')'".toList
    | _, _ =>
      set rest
      return first

/-- Works out values joined by signs that bind equally.  The fuel bounds their number. -/
def chain (signs : List String) (part : Valuer Text) (combine : String → Text → Text → Valuer Text)
    (value : Text) : Nat → Valuer Text
  | 0 => return value
  | fuel + 1 => do
    match (← get).head?.map String.ofList with
    | some sign =>
      if signs.contains sign then
        modify (·.drop 1)
        if (← get).isEmpty then
          throw ("syntax error: missing argument after ".toList ++ inQuotes sign.toList)
        let other ← part
        chain signs part combine (← combine sign value other) fuel
      else return value
    | none => return value

/-- Whether a relation holds between two values, as numbers if both are numbers. -/
def relation (sign : String) (a b : Text) : Bool :=
  let holds (isLess isEqual : Bool) : Bool :=
    match sign with
    | "<" => isLess
    | "<=" => isLess || isEqual
    | "=" => isEqual
    | "==" => isEqual
    | "!=" => !isEqual
    | ">=" => !isLess
    | _ => !isLess && !isEqual
  let integer (text : Text) : Option Int :=
    match text with
    | '-' :: digits => (number? digits).map fun n => -(n : Int)
    | digits => (number? digits).map fun n => (n : Int)
  match integer a, integer b with
  | some x, some y => holds (x < y) (x == y)
  | _, _ => holds (isBefore a b) (a == b)

/-- Works out a whole value.  The fuel bounds how deep values are nested. -/
def value : Nat → Valuer Text
  | 0 => throw "syntax error".toList
  | fuel + 1 =>
    let level (signs : List String) (part : Valuer Text)
        (combine : String → Text → Text → Valuer Text) : Valuer Text := do
      chain signs part combine (← part) (fuel + 1)
    let matching := level [":"] (single (value fuel)) fun _ a b => matched a b
    let product := level ["*", "/", "%"] matching fun sign a b => do
      let x ← number a
      let y ← number b
      if sign == "*" then return integerText (x * y)
      if y == 0 then throw "division by zero".toList
      return integerText (if sign == "/" then x.tdiv y else x.tmod y)
    let sum := level ["+", "-"] product fun sign a b => do
      let x ← number a
      let y ← number b
      return integerText (if sign == "+" then x + y else x - y)
    let compared := level ["<", "<=", "=", "==", "!=", ">=", ">"] sum fun sign a b =>
      return truth (relation sign a b)
    let both := level ["&"] compared fun _ a b =>
      return if isNull a || isNull b then ['0'] else a
    level ["|"] both fun _ a b =>
      return if !isNull a then a else if !isNull b then b else ['0']

end Valuer

/-- Shows the value of its arguments. -/
def expr : ShellM Nat := do
  let arguments := (← ShellM.process).arguments
  let arguments := if arguments.head? == some ['-', '-'] then arguments.drop 1 else arguments
  if arguments.isEmpty then return ← refuse 2 "missing operand".toList
  match (Valuer.value (arguments.length + 1)).run arguments with
  | .error message =>
    say message
    return 2
  | .ok (value, []) =>
    ShellM.print (value ++ ['\n'])
    return if Valuer.isNull value then 1 else 0
  | .ok (_, extra :: _) =>
    say ("syntax error: unexpected argument ".toList ++ inQuotes extra)
    return 2

end DiagnosticBridge.Utility
