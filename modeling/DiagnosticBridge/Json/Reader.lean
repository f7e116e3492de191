import DiagnosticBridge.Decimal.Scaled
import DiagnosticBridge.Json.Value
import DiagnosticBridge.Text.Utf8

namespace DiagnosticBridge.Json

/-!
# Reading JSON

A text of bytes is read from left to right by a cursor that knows its line and column.  A text
that is no JSON value is refused with a cause and a place: either where the cursor stands, or at
the byte it looks at next.  Columns count bytes.

Nesting is bounded (`depthLimit`), and the reader recurses on the depth still allowed.  Within a
container or a string it is bounded by the number of bytes of the whole text, the `size` that is
handed down.  Thus reading ends on every input.
-/

/-- Why a text is no JSON value. -/
inductive SyntaxFault where
  | endInValue
  | endInString
  | endInArray
  | endInObject
  | expectedValue
  | expectedWord
  | expectedColon
  | expectedItem
  | expectedMember
  | trailingComma
  | trailingText
  | keyNotString
  | badNumber
  | numberTooLarge
  | badEscape
  | controlCharacter
  | loneSurrogate
  | unfinishedSurrogate
  | notUtf8
  | tooDeep
  deriving DecidableEq, Repr

/-- The wording of a fault. -/
def SyntaxFault.message : SyntaxFault → String
  | .endInValue => "EOF while parsing a value"
  | .endInString => "EOF while parsing a string"
  | .endInArray => "EOF while parsing a list"
  | .endInObject => "EOF while parsing an object"
  | .expectedValue => "expected value"
  | .expectedWord => "expected ident"
  | .expectedColon => "expected `:`"
  | .expectedItem => "expected `,` or `]`"
  | .expectedMember => "expected `,` or `\x7d`"
  | .trailingComma => "trailing comma"
  | .trailingText => "trailing characters"
  | .keyNotString => "key must be a string"
  | .badNumber => "invalid number"
  | .numberTooLarge => "number out of range"
  | .badEscape => "invalid escape"
  | .controlCharacter => "control character (\\u0000-\\u001F) found while parsing a string"
  | .loneSurrogate => "lone leading surrogate in hex escape"
  | .unfinishedSurrogate => "unexpected end of hex escape"
  | .notUtf8 => "invalid unicode code point"
  | .tooDeep => "recursion limit exceeded"

/-- A fault and its place. -/
structure SyntaxError where
  /-- What is wrong. -/
  fault : SyntaxFault
  /-- The line, counted from one. -/
  line : Nat
  /-- How many bytes of the line stand before the place. -/
  column : Nat
  deriving DecidableEq, Repr

/-- The wording of an error. -/
def SyntaxError.message (e : SyntaxError) : String :=
  s!"{e.fault.message} at line {e.line} column {e.column}"

/-- The unread part of a text, and where it begins. -/
structure Cursor where
  /-- The unread bytes. -/
  rest : List UInt8
  /-- The line, counted from one. -/
  line : Nat
  /-- How many bytes of the line have been read. -/
  column : Nat

/-- The cursor after the next byte. -/
def Cursor.advance (c : Cursor) : Cursor :=
  match c.rest with
  | [] => c
  | b :: rest => if b = 10 then ⟨rest, c.line + 1, 0⟩ else ⟨rest, c.line, c.column + 1⟩

/-- The cursor after the next `n` bytes. -/
def Cursor.advanceBy (c : Cursor) : Nat → Cursor
  | 0 => c
  | n + 1 => c.advance.advanceBy n

/-- Whether a byte may stand between tokens. -/
def isGap (b : UInt8) : Bool := b == 32 || b == 10 || b == 13 || b == 9

/-- A reader of a part of a text. -/
abbrev Scan := StateT Cursor (Except SyntaxError)

namespace Scan

/-- Refuses the text where the cursor stands. -/
def failHere {α : Type} (fault : SyntaxFault) : Scan α := do
  let c ← get
  throw ⟨fault, c.line, c.column⟩

/-- Refuses the text at the byte that comes next. -/
def failAhead {α : Type} (fault : SyntaxFault) : Scan α := do
  let c := (← get).advance
  throw ⟨fault, c.line, c.column⟩

/-- The byte that comes next, left unread. -/
def peek : Scan (Option UInt8) := do return (← get).rest.head?

/-- Passes over one byte. -/
def skip : Scan Unit := modify Cursor.advance

/-- Passes over the bytes between tokens. -/
def skipGap : Scan Unit := modify fun c => c.advanceBy (c.rest.takeWhile isGap).length

/-- Looks at the first byte of the next token; refuses the text if there is none. -/
def nextToken (atEnd : SyntaxFault) : Scan UInt8 := do
  skipGap
  match ← peek with
  | some b => return b
  | none => failAhead atEnd

/-- Reads the rest of a word. -/
def word : List UInt8 → Scan Unit
  | [] => return
  | expected :: more => do
    match ← peek with
    | none => failHere .endInValue
    | some b =>
      skip
      if b ≠ expected then failHere .expectedWord
      word more

end Scan

open Scan

/-! ### Numbers -/

/-- Whether a byte is an ASCII digit. -/
def isDigitByte (b : UInt8) : Bool := 48 ≤ b && b ≤ 57

/-- Passes over the digits that come next and gives their values. -/
def digitRun : Scan (List Nat) := do
  let digits := (← get).rest.takeWhile isDigitByte
  modify (·.advanceBy digits.length)
  return digits.map fun b => b.toNat - 48

/-- The greatest exponent that is read. -/
def greatestExponent : Nat := 2147483647

/-- The value of the exponent's digits, or none once it is too great; also counts the digits up
    to that point. -/
def exponentValue (value : Nat) : List Nat → Option Nat × Nat
  | [] => (some value, 0)
  | d :: rest =>
    if value * 10 + d > greatestExponent then (none, 1)
    else
      let (result, count) := exponentValue (value * 10 + d) rest
      (result, count + 1)

/-- The double with this sign, significand and exponent. -/
def realNumber (negative : Bool) (significand : Nat) (exponent : Int) : Scan Json :=
  match Decimal.Binary64.ofDecimal? significand exponent with
  | some x => return .real { x with negative := negative }
  | none => failHere .numberTooLarge

/-- Reads the exponent of a number, after its `e`. -/
def exponentPart (negative : Bool) (significand : Nat) (scale : Int) : Scan Json := do
  let minus ← match ← peek with
    | some 43 => skip; pure false
    | some 45 => skip; pure true
    | _ => pure false
  match ← peek with
  | none => failHere .endInValue
  | some b =>
    if !isDigitByte b then
      skip
      failHere .badNumber
    let before ← get
    let digits ← digitRun
    match exponentValue 0 digits with
    | (some e, _) => realNumber negative significand (if minus then scale - e else scale + e)
    | (none, count) =>
      if significand ≠ 0 && !minus then
        set (before.advanceBy count)
        failHere .numberTooLarge
      return .real { Decimal.Binary64.zero with negative := negative }

/-- The whole number, or the double when 64 bits do not hold it; minus zero is a double. -/
def wholeNumber (negative : Bool) (magnitude : Decimal.Significand) : Scan Json :=
  let n := magnitude.value
  if magnitude.omitted > 0 || negative && (n = 0 || n > 9223372036854775808) then
    realNumber negative n magnitude.omitted
  else return .whole (if negative then -n else n)

/-- Reads a number, after its minus sign if it has one. -/
def number (negative : Bool) : Scan Json := do
  match ← peek with
  | none => failHere .endInValue
  | some b =>
    if !isDigitByte b then
      skip
      failHere .badNumber
    let digits ← if b = 48 then do
        skip
        if ((← peek).map isDigitByte).getD false then failAhead .badNumber
        pure [0]
      else digitRun
    let whole := Decimal.Significand.ofDigits 0 digits
    match ← peek with
    | some 46 =>
      skip
      let fraction ← digitRun
      if fraction.isEmpty then
        failAhead (if (← peek).isSome then .badNumber else .endInValue)
      let all := Decimal.Significand.ofDigits whole.value fraction
      let scale : Int := whole.omitted + all.omitted - fraction.length
      match ← peek with
      | some 101 | some 69 => skip; exponentPart negative all.value scale
      | _ => realNumber negative all.value scale
    | some 101 | some 69 => skip; exponentPart negative whole.value whole.omitted
    | _ => wholeNumber negative whole

/-! ### Strings -/

/-- The value of a hexadecimal digit. -/
def hexValue? (b : UInt8) : Option Nat :=
  if 48 ≤ b ∧ b ≤ 57 then some (b.toNat - 48)
  else if 65 ≤ b ∧ b ≤ 70 then some (b.toNat - 55)
  else if 97 ≤ b ∧ b ≤ 102 then some (b.toNat - 87)
  else none

/-- Reads the four hexadecimal digits of an escape. -/
def hexEscape : Scan Nat := do
  let c ← get
  match c.rest with
  | a :: b :: d :: e :: _ =>
    set (c.advanceBy 4)
    match hexValue? a, hexValue? b, hexValue? d, hexValue? e with
    | some a, some b, some d, some e => return ((a * 16 + b) * 16 + d) * 16 + e
    | _, _, _, _ => failHere .badEscape
  | rest =>
    set (c.advanceBy rest.length)
    failHere .endInString

/-- Passes over a byte that a surrogate pair needs at this place. -/
def pairByte (expected : UInt8) : Scan Unit := do
  match ← peek with
  | none => failHere .endInString
  | some b =>
    skip
    if b ≠ expected then failHere .unfinishedSurrogate

/-- Reads a character escaped by its code, after `\u`.  A code above the basic plane is given by
    two surrogates. -/
def codeEscape : Scan Char := do
  let high ← hexEscape
  if 0xDC00 ≤ high ∧ high ≤ 0xDFFF then failHere .loneSurrogate
  if high < 0xD800 ∨ 0xDBFF < high then return Char.ofNat high
  pairByte 92
  pairByte 117
  let low ← hexEscape
  if low < 0xDC00 ∨ 0xDFFF < low then failHere .loneSurrogate
  return Char.ofNat ((high - 0xD800) * 1024 + (low - 0xDC00) + 0x10000)

/-- Reads an escaped character, after its backslash. -/
def escape : Scan Char := do
  match ← peek with
  | none => failHere .endInString
  | some b =>
    skip
    match b with
    | 34 => return '"'
    | 92 => return '\\'
    | 47 => return '/'
    | 98 => return '\x08'
    | 102 => return '\x0c'
    | 110 => return '\n'
    | 114 => return '\r'
    | 116 => return '\t'
    | 117 => codeEscape
    | _ => failHere .badEscape

/-- The string that the bytes denote.  Malformed bytes are counted back from the cursor, which
    stands after the closing quote: its column less the number of bytes from the first malformed
    one on, an escaped character counted by its own bytes. -/
def decodedString (bytes : List UInt8) : Scan String := do
  match Utf8.decode bytes with
  | .ok chars => return String.ofList chars
  | .error malformed =>
    let c ← get
    throw ⟨.notUtf8, c.line, c.column - (bytes.length - malformed.index)⟩

/-- Reads a string up to its closing quote, after bytes of it that are given last one first.  The
    fuel is more than the number of bytes left. -/
def stringRest (done : List UInt8) : Nat → Scan String
  | 0 => failHere .endInString
  | fuel + 1 => do
    match ← peek with
    | none => failHere .endInString
    | some 34 =>
      skip
      decodedString done.reverse
    | some 92 =>
      skip
      let c ← escape
      stringRest ((String.utf8EncodeChar c).reverseAux done) fuel
    | some b =>
      skip
      if b < 32 then failHere .controlCharacter
      stringRest (b :: done) fuel

/-- Reads a string, after its opening quote. -/
def stringToken (size : Nat) : Scan String := stringRest [] (size + 1)

/-! ### Values -/

/-- Reads the items of an array up to its end.  The fuel is more than the number of items. -/
def arrayItems (item : Scan Json) (isFirst : Bool) : Nat → Scan (List Json)
  | 0 => failHere .endInArray
  | fuel + 1 => do
    let b ← nextToken .endInArray
    if b = 93 then
      skip
      return []
    if !isFirst then
      if b ≠ 44 then failAhead .expectedItem
      skip
      if (← nextToken .endInValue) = 93 then failAhead .trailingComma
    let first ← item
    let others ← arrayItems item false fuel
    return first :: others

/-- Reads a member of an object, after the opening quote of its key. -/
def member (size : Nat) (value : Scan Json) : Scan (String × Json) := do
  let key ← stringToken size
  if (← nextToken .endInObject) ≠ 58 then failAhead .expectedColon
  skip
  return (key, ← value)

/-- Reads the members of an object up to its end.  The fuel is more than their number. -/
def objectMembers (size : Nat) (value : Scan Json) (isFirst : Bool) :
    Nat → Scan (List (String × Json))
  | 0 => failHere .endInObject
  | fuel + 1 => do
    let b ← nextToken .endInObject
    if b = 125 then
      skip
      return []
    let b ← if isFirst then pure b
      else do
        if b ≠ 44 then failAhead .expectedMember
        skip
        let b ← nextToken .endInValue
        if b = 125 then failAhead .trailingComma
        pure b
    if b ≠ 34 then failAhead .keyNotString
    skip
    let first ← member size value
    let others ← objectMembers size value false fuel
    return first :: others

/-- Reads a value whose items or members, if it may have any, are read by `nested`. -/
def valueWith (size : Nat) (nested : Option (Scan Json)) : Scan Json := do
  match ← nextToken .endInValue with
  | 110 => skip; word [117, 108, 108]; return .null
  | 116 => skip; word [114, 117, 101]; return .bool true
  | 102 => skip; word [97, 108, 115, 101]; return .bool false
  | 45 => skip; number true
  | 34 => skip; return .string (← stringToken size)
  | 91 =>
    match nested with
    | none => failAhead .tooDeep
    | some item =>
      skip
      return .array (← arrayItems item true (size + 1))
  | 123 =>
    match nested with
    | none => failAhead .tooDeep
    | some item =>
      skip
      return ofMembers (← objectMembers size item true (size + 1))
  | b => if isDigitByte b then number false else failAhead .expectedValue

/-- Reads a value in which so many arrays and objects may be open at once. -/
def value (size : Nat) : Nat → Scan Json
  | 0 => valueWith size none
  | depth + 1 => valueWith size (some (value size depth))

/-- How many arrays and objects may be open at once. -/
def depthLimit : Nat := 127

/-- Reads a whole text: one value, and nothing but gaps after it. -/
def document (size : Nat) : Scan Json := do
  let v ← value size depthLimit
  skipGap
  if (← peek).isSome then failAhead .trailingText
  return v

/-- The value that the bytes denote, or why they denote none. -/
def parse (bytes : List UInt8) : Except SyntaxError Json :=
  ((document bytes.length).run ⟨bytes, 1, 0⟩).map (·.1)

end DiagnosticBridge.Json
