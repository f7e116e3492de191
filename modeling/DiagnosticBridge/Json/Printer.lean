import DiagnosticBridge.Decimal.Shortest
import DiagnosticBridge.Json.Value

namespace DiagnosticBridge.Json

/-!
# Writing JSON

Values are written without blanks.  In strings only the quote, the backslash and the control
characters below the space are escaped.
-/

/-- A hexadecimal digit, in lower case. -/
def hexDigit (n : Nat) : Char := if n < 10 then Char.ofNat (48 + n) else Char.ofNat (87 + n)

/-- A character as it stands in a string. -/
def escapeChar (c : Char) : List Char :=
  match c with
  | '"' => ['\\', '"']
  | '\\' => ['\\', '\\']
  | '\x08' => ['\\', 'b']
  | '\t' => ['\\', 't']
  | '\n' => ['\\', 'n']
  | '\x0c' => ['\\', 'f']
  | '\r' => ['\\', 'r']
  | c =>
    if c.toNat < 0x20 then
      ['\\', 'u', '0', '0', hexDigit (c.toNat / 16), hexDigit (c.toNat % 16)]
    else [c]

/-- A string between quotes. -/
def quoteText (s : String) : List Char := '"' :: s.toList.flatMap escapeChar ++ ['"']

/-- Doubles keep a fraction or an exponent; the exponent is used from `1e16` on and below
    `1e-5`. -/
def realLayout : Decimal.Layout := ⟨-4, 16⟩

/-- A whole number in decimal. -/
def wholeText (n : Int) : List Char :=
  if n < 0 then '-' :: Nat.toDigits 10 n.natAbs else Nat.toDigits 10 n.natAbs

mutual

/-- The text of a value. -/
def text : Json → List Char
  | .null => "null".toList
  | .bool true => "true".toList
  | .bool false => "false".toList
  | .whole n => wholeText n
  | .real x => realLayout.render x
  | .string s => quoteText s
  | .array items => '[' :: textItems items ++ [']']
  | .object members => '{' :: textMembers members ++ ['}']

/-- The items of an array, separated by commas. -/
def textItems : List Json → List Char
  | [] => []
  | [item] => text item
  | item :: rest => text item ++ ',' :: textItems rest

/-- The members of an object, separated by commas. -/
def textMembers : List (String × Json) → List Char
  | [] => []
  | [(key, value)] => quoteText key ++ ':' :: text value
  | (key, value) :: rest => quoteText key ++ ':' :: text value ++ ',' :: textMembers rest

end

/-- The text of a value, as a string. -/
def render (value : Json) : String := String.ofList value.text

end DiagnosticBridge.Json
