import DiagnosticBridge.Toml.Literal
import DiagnosticBridge.Toml.Quoted
import DiagnosticBridge.Toml.Value

namespace DiagnosticBridge.Toml

/-!
# Reading TOML

A document is a list of lines: a pair gives a key its value, a header says to which table the
pairs after it belong.  Reading a document gives the members of its outermost table; a document
that breaks the grammar, or says something twice, gives nothing.
-/

/-! ### Gaps -/

/-- The text after the blanks it begins with. -/
def skipBlanks (cs : List Char) : List Char := cs.dropWhile isBlank

/-- The text after a comment, if it begins with one; nothing if the comment is malformed. -/
def skipComment? : List Char → Option (List Char)
  | '#' :: rest =>
    match rest.dropWhile isPlain with
    | [] => some []
    | after => if (newline? after).isSome then some after else none
  | cs => some cs

/-- The text after the rest of the line; nothing unless that is blank or a comment. -/
def lineEnd? (cs : List Char) : Option (List Char) :=
  match skipComment? (skipBlanks cs) with
  | some [] => some []
  | some after => newline? after
  | none => none

/-- The text after the blanks, comments and ends of lines it begins with; nothing if a comment is
    malformed. -/
def skipGap? : List Char → Option (List Char) := go false
where
  go : Bool → List Char → Option (List Char)
    | _, [] => some []
    | _, '\n' :: rest => go false rest
    | _, '\r' :: '\n' :: rest => go false rest
    | true, c :: rest => if isPlain c then go true rest else none
    | false, c :: rest =>
      if isBlank c then go false rest
      else if c = '#' then go true rest
      else some (c :: rest)

/-! ### Keys -/

/-- Whether a character may stand in a key without quotes. -/
def isBare (c : Char) : Bool := c.isAlphanum || c == '_' || c == '-'

/-- Reads one part of a key. -/
def keyPart? : List Char → Step String
  | '"' :: rest => line? '"' rest
  | '\'' :: rest => line? '\'' rest
  | cs =>
    match cs.takeWhile isBare with
    | [] => none
    | word => some (String.ofList word, cs.dropWhile isBare)

/-- Reads at most so many parts of a key, and the blanks after it. -/
def keyParts? : Nat → List Char → Step (List String)
  | 0, _ => none
  | limit + 1, cs =>
    (keyPart? (skipBlanks cs)).bind fun (part, rest) =>
      match skipBlanks rest with
      | '.' :: rest => (keyParts? limit rest).map fun (parts, rest) => (part :: parts, rest)
      | rest => some ([part], rest)

/-- How many parts a key may have. -/
def keyLimit : Nat := 80

/-- Reads a key, and the blanks after it. -/
def key? (cs : List Char) : Step (List String) := keyParts? keyLimit cs

/-! ### Values -/

/-- Whether a character may stand in a word. -/
def isWordChar (c : Char) : Bool := !isBlank c && !"=,[]\x7b\x7d#\n\r".toList.contains c

/-- Whether a character may begin a word after another one. -/
def isWordStart (c : Char) : Bool := isWordChar c && !".\"'".toList.contains c

/-- How many characters are words and the blanks between them.  The fuel bounds the number of
    words. -/
def wordsLength : Nat → List Char → Nat
  | 0, _ => 0
  | fuel + 1, cs =>
    let word := (cs.takeWhile isWordChar).length
    let rest := cs.drop word
    let blanks := (rest.takeWhile isBlank).length
    if 0 < blanks ∧ (rest.drop blanks).head?.any isWordStart then
      word + blanks + wordsLength fuel (rest.drop blanks)
    else word

/-- Reads a literal.  A date and a time may be separated by a blank. -/
def literal? (cs : List Char) : Step Value :=
  let words := cs.take (wordsLength cs.length cs)
  if isLiteral words then some (.literal (String.ofList words), cs.drop words.length) else none

/-- Reads a pair of a key and a value that `value?` reads.  What `gap?` passes over may stand on
    both sides of the equals sign. -/
def pair? (gap? : List Char → Option (List Char)) (value? : List Char → Step Value)
    (cs : List Char) : Step (List String × Value) :=
  (key? cs).bind fun (path, rest) =>
    match gap? rest with
    | some ('=' :: rest) =>
      ((gap? rest).bind value?).map fun (value, rest) => ((path, value), rest)
    | _ => none

/-- Reads what stands up to a closing bracket, separated by commas; one more comma may stand
    before the bracket.  The fuel bounds the number of parts. -/
def parts? {α : Type} (close : Char) (part? : List Char → Step α) : Nat → List Char → Step (List α)
  | 0, _ => none
  | fuel + 1, cs =>
    (skipGap? cs).bind fun cs =>
      if cs.head? = some close then some ([], cs.drop 1)
      else
        (part? cs).bind fun (first, rest) =>
          (skipGap? rest).bind fun rest =>
            match rest with
            | ',' :: rest =>
              (parts? close part? fuel rest).map fun (others, rest) => (first :: others, rest)
            | c :: rest => if c = close then some ([first], rest) else none
            | [] => none

/-- The members that pairs make. -/
def membersOf? (pairs : List (List String × Value)) : Option Members :=
  pairs.foldlM (fun members (path, value) => members.add? path value) []

/-- Reads a value in which so many arrays and tables may be open at once.  Pairs between braces may
    be spread over lines. -/
def value? (depth : Nat) (cs : List Char) : Step Value :=
  match cs, depth with
  | '"' :: _, _ => (string? cs).map fun (text, rest) => (.string text, rest)
  | '\'' :: _, _ => (string? cs).map fun (text, rest) => (.string text, rest)
  | '[' :: rest, depth + 1 =>
    (parts? ']' (value? depth) (rest.length + 1) rest).map fun (items, rest) =>
      (.array false items, rest)
  | '\x7b' :: rest, depth + 1 =>
    (parts? '\x7d' (pair? skipGap? (value? depth)) (rest.length + 1) rest).bind
      fun (pairs, rest) => (membersOf? pairs).map fun members => (.table .inline members, rest)
  | _, _ => literal? cs

/-- How many arrays and tables in braces may be open at once. -/
def depthLimit : Nat := 80

/-! ### Documents -/

/-- A line that says something. -/
inductive Statement where
  /-- A key and its value. -/
  | pair (path : List String) (value : Value)
  /-- The header of a table. -/
  | table (path : List String)
  /-- The header of one more table of an array. -/
  | item (path : List String)

/-- Reads a statement. -/
def statement? : List Char → Step Statement
  | '[' :: '[' :: rest =>
    (key? rest).bind fun (path, rest) =>
      match rest with
      | ']' :: ']' :: rest => some (.item path, rest)
      | _ => none
  | '[' :: rest =>
    (key? rest).bind fun (path, rest) =>
      match rest with
      | ']' :: rest => some (.table path, rest)
      | _ => none
  | cs =>
    (pair? (some ∘ skipBlanks) (value? depthLimit) cs).map fun ((path, value), rest) =>
      (.pair path value, rest)

/-- Reads the statements of a document.  The fuel bounds the number of lines. -/
def statements? : Nat → List Char → Option (List Statement)
  | _, [] => some []
  | 0, _ => none
  | fuel + 1, cs =>
    match lineEnd? cs with
    | some rest => statements? fuel rest
    | none =>
      (statement? (skipBlanks cs)).bind fun (first, rest) =>
        (lineEnd? rest).bind fun rest => (statements? fuel rest).map (first :: ·)

/-- A document of which the first lines have been read. -/
structure Draft where
  /-- The members of the outermost table. -/
  members : Members
  /-- The path of the table to which pairs belong. -/
  path : List String

namespace Draft

/-- The draft after one more statement. -/
def add? (d : Draft) : Statement → Option Draft
  | .pair path value =>
    (Members.within? (Members.add? path value) d.path d.members).map fun members =>
      ⟨members, d.path⟩
  | .table path =>
    (Members.head? Members.openTable path d.members).map fun members => ⟨members, path⟩
  | .item path =>
    (Members.head? Members.appendTable path d.members).map fun members => ⟨members, path⟩

end Draft

/-- The text without the byte order mark it may begin with. -/
def skipMark : List Char → List Char
  | '\uFEFF' :: rest => rest
  | cs => cs

/-- The members of the outermost table of a document. -/
def read? (text : List Char) : Option Members :=
  (statements? (text.length + 1) (skipMark text)).bind fun statements =>
    (statements.foldlM Draft.add? ⟨[], []⟩).map (·.members)

end DiagnosticBridge.Toml
