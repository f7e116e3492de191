import DiagnosticBridge.Text.Utf8

namespace DiagnosticBridge.Shell

/-!
# Texts of a shell

A shell works on bytes.  Its texts are lists of characters below 256, one for each byte.
-/

/-- A text of bytes. -/
abbrev Text := List Char

/-- The characters that stand for bytes. -/
def ofBytes (bytes : List UInt8) : Text := bytes.map fun b => Char.ofNat b.toNat

/-- The bytes that characters stand for. -/
def toBytes (text : Text) : List UInt8 := text.map fun c => UInt8.ofNat c.toNat

/-- The characters that stand for the bytes of a string. -/
def ofString (s : String) : Text := ofBytes (Utf8.ofString s)

/-- The string whose bytes characters stand for; malformed bytes are replaced. -/
def stringOf (text : Text) : String := String.ofList (Utf8.decodeLossy (toBytes text))

/-- Whether a character may begin a name. -/
def isNameStart (c : Char) : Bool := c.isAlpha || c == '_'

/-- Whether a character may stand in a name. -/
def isNameChar (c : Char) : Bool := c.isAlphanum || c == '_'

/-- Whether a text is a name. -/
def isName (text : Text) : Bool := text.head?.any isNameStart && text.all isNameChar

/-- Whether a character is a blank of the shell's language. -/
def isBlank (c : Char) : Bool := c == ' ' || c == '\t'

/-- Whether a character is white space for a reader of numbers. -/
def isSpace (c : Char) : Bool := " \t\n\x0b\x0c\r".toList.contains c

/-- The number in decimal. -/
def decimal (n : Nat) : Text := Nat.toDigits 10 n

/-- The integer in decimal. -/
def integerText (n : Int) : Text := if n < 0 then '-' :: decimal n.natAbs else decimal n.natAbs

/-- The number that a text of decimal digits denotes. -/
def numberOf (digits : Text) : Nat := digits.foldl (fun n c => n * 10 + (c.toNat - 48)) 0

/-- The number that a non-empty text of decimal digits denotes. -/
def number? (text : Text) : Option Nat :=
  if !text.isEmpty && text.all Char.isDigit then some (numberOf text) else none

/-- A text in single quotes. -/
def quoted (text : Text) : Text :=
  '\'' :: text.flatMap (fun c => if c == '\'' then "'\"'\"'".toList else [c]) ++ ['\'']

/-- The lines of a text, without their ends; a last line that has no end counts if it is not
    empty. -/
def linesOf (text : Text) : List Text :=
  let parts := text.splitOn '\n'
  if parts.getLast? == some [] then parts.dropLast else parts

/-- Texts one after the other, with a separator between them. -/
def joined (separator : Text) (texts : List Text) : Text := List.intercalate separator texts

/-- The order of texts by their bytes. -/
def isBefore (a b : Text) : Bool := decide (a.map Char.toNat < b.map Char.toNat)

/-- Texts in the order of their bytes. -/
def sortedTexts (texts : List Text) : List Text := texts.mergeSort fun a b => !isBefore b a

end DiagnosticBridge.Shell
