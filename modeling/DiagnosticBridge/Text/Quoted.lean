import DiagnosticBridge.Text.Hidden

namespace DiagnosticBridge.Text

/-!
# Quoted text

Messages that name a piece of input show it between double quotes.  A quote and a backslash are
written after a backslash, a tab, a carriage return, a line feed and the null character as `\t`,
`\r`, `\n` and `\0`, any other hidden character by its code point in hexadecimal.
-/

/-- The hexadecimal digits of a number, in lower case and without leading zeros. -/
def hexDigits (n : Nat) : List Char := Nat.toDigits 16 n

/-- A character as it stands between quotes. -/
def quoteChar (c : Char) : List Char :=
  match c with
  | '\x00' => ['\\', '0']
  | '\t' => ['\\', 't']
  | '\r' => ['\\', 'r']
  | '\n' => ['\\', 'n']
  | '"' => ['\\', '"']
  | '\\' => ['\\', '\\']
  | c => if isHidden c then ['\\', 'u', '{'] ++ hexDigits c.toNat ++ ['}'] else [c]

/-- The text between double quotes. -/
def quote (text : List Char) : List Char := '"' :: text.flatMap quoteChar ++ ['"']

/-- The string between double quotes. -/
def quoteString (s : String) : String := String.ofList (quote s.toList)

example : quote ['l', 'ö', '"', '\t', '\x07', '\''] =
    ['"', 'l', 'ö', '\\', '"', '\\', 't', '\\', 'u', '{', '7', '}', '\'', '"'] := by
  decide +kernel

end DiagnosticBridge.Text
