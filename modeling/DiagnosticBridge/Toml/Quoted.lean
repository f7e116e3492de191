namespace DiagnosticBridge.Toml

/-!
# TOML strings

A string stands in single or double quotes, on one line or, between three quotes, on several.
Between double quotes a backslash begins an escape.

A reader gets the text after what it has been called for and gives what it read with the rest of
the text, or nothing if the text is malformed.
-/

/-- What a reader of a part of a text gives. -/
abbrev Step (α : Type) : Type := Option (α × List Char)

/-- Whether a character may stand in a comment or a string as it is. -/
def isPlain (c : Char) : Bool := c == '\t' || (' ' ≤ c && c != '\x7f')

/-- Whether a character separates words on a line. -/
def isBlank (c : Char) : Bool := c == ' ' || c == '\t'

/-- The text after the end of line it begins with, if it begins with one. -/
def newline? : List Char → Option (List Char)
  | '\n' :: rest => some rest
  | '\r' :: '\n' :: rest => some rest
  | _ => none

/-- The value of a hexadecimal digit. -/
def hexValue? (c : Char) : Option Nat :=
  if c.isDigit then some (c.toNat - 48)
  else if 'a' ≤ c ∧ c ≤ 'f' then some (c.toNat - 87)
  else if 'A' ≤ c ∧ c ≤ 'F' then some (c.toNat - 55)
  else none

/-- Reads so many hexadecimal digits on from a value. -/
def hexNumber? (value : Nat) : Nat → List Char → Step Nat
  | 0, cs => some (value, cs)
  | _ + 1, [] => none
  | n + 1, c :: cs => (hexValue? c).bind fun d => hexNumber? (value * 16 + d) n cs

/-- Reads a character given by the digits of its code. -/
def codePoint? (digits : Nat) (cs : List Char) : Step Char :=
  (hexNumber? 0 digits cs).bind fun (code, rest) =>
    if code < 0xD800 ∨ (0xDFFF < code ∧ code < 0x110000) then some (Char.ofNat code, rest) else none

/-- Reads an escape, after its backslash. -/
def escape? : List Char → Step Char
  | 'b' :: rest => some ('\x08', rest)
  | 't' :: rest => some ('\t', rest)
  | 'n' :: rest => some ('\n', rest)
  | 'f' :: rest => some ('\x0c', rest)
  | 'r' :: rest => some ('\r', rest)
  | 'e' :: rest => some ('\x1b', rest)
  | '"' :: rest => some ('"', rest)
  | '\\' :: rest => some ('\\', rest)
  | 'x' :: rest => codePoint? 2 rest
  | 'u' :: rest => codePoint? 4 rest
  | 'U' :: rest => codePoint? 8 rest
  | _ => none

/-- Passes over blanks and ends of lines. -/
def skipWhite : List Char → List Char
  | [] => []
  | '\r' :: '\n' :: rest => skipWhite rest
  | c :: rest => if isBlank c || c == '\n' then skipWhite rest else c :: rest

/-- The text after a backslash that ends a line, and after all blanks and ends of lines that
    follow; nothing if the line goes on. -/
def continued? (cs : List Char) : Option (List Char) :=
  (newline? (cs.dropWhile isBlank)).map skipWhite

/-- Reads a string on one line, after its opening quote.  The fuel bounds its length. -/
def lineString? (quote : Char) (read : List Char) : Nat → List Char → Step String
  | 0, _ => none
  | _ + 1, [] => none
  | fuel + 1, c :: rest =>
    if c = quote then some (String.ofList read.reverse, rest)
    else if c = '\\' ∧ quote = '"' then
      (escape? rest).bind fun (c, rest) => lineString? quote (c :: read) fuel rest
    else if isPlain c then lineString? quote (c :: read) fuel rest
    else none

/-- Reads a string on several lines, after its three opening quotes.  Up to two quotes may stand
    directly before the three closing ones.  Ends of lines are kept as they are written.  The fuel
    bounds the string's length. -/
def blockString? (quote : Char) (read : List Char) : Nat → List Char → Step String
  | 0, _ => none
  | _ + 1, [] => none
  | fuel + 1, c :: rest =>
    if c = quote then
      let quotes := ((c :: rest).takeWhile (· = quote)).length
      if quotes < 3 then blockString? quote (c :: read) fuel rest
      else
        let extra := min quotes 5 - 3
        some (String.ofList (List.replicate extra quote ++ read).reverse,
          (c :: rest).drop (extra + 3))
    else if c = '\\' ∧ quote = '"' then
      match continued? rest with
      | some rest => blockString? quote read fuel rest
      | none => (escape? rest).bind fun (c, rest) => blockString? quote (c :: read) fuel rest
    else if isPlain c ∨ (newline? (c :: rest)).isSome then blockString? quote (c :: read) fuel rest
    else none

/-- Reads a string on several lines, after its three opening quotes; an end of line directly
    after them does not count. -/
def block? (quote : Char) (cs : List Char) : Step String :=
  blockString? quote [] (cs.length + 1) ((newline? cs).getD cs)

/-- Reads a string on one line, after its opening quote. -/
def line? (quote : Char) (cs : List Char) : Step String :=
  lineString? quote [] (cs.length + 1) cs

/-- Reads a string. -/
def string? : List Char → Step String
  | '"' :: '"' :: '"' :: rest => block? '"' rest
  | '\'' :: '\'' :: '\'' :: rest => block? '\'' rest
  | '"' :: rest => line? '"' rest
  | '\'' :: rest => line? '\'' rest
  | _ => none

end DiagnosticBridge.Toml
