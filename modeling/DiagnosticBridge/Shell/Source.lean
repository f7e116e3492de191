import DiagnosticBridge.Shell.Command

namespace DiagnosticBridge.Shell

/-!
# The text of a script while it is read

A script is read from left to right, one command after the other, by a reader that counts lines,
can give back the last token, and knows which documents have been announced.  A document is a text
that a redirection takes from the script; it begins on the line after the one that announces it.
An alias is a word that stands for a text, which is read in its place.
-/

/-- What a redirection sign does. -/
inductive RedirectionSign where
  | input
  /-- Writes over a file, even if files are guarded against that, if `isForced`. -/
  | output (isForced : Bool)
  | append
  | both
  | duplicate
  /-- Announces a document; `stripsTabs` says whether tabs in front of its lines are dropped. -/
  | document (stripsTabs : Bool)
  deriving DecidableEq

/-- A token. -/
inductive Token where
  | endOfFile
  | newline
  | semicolon
  | background
  | andThen
  | orElse
  | bar
  | openRound
  | closeRound
  | endCase
  | redirection (descriptor : Nat) (sign : RedirectionSign)
  /-- A word, and whether any of it is quoted. -/
  | word (word : Word) (isQuoted : Bool)
  | keyword (text : String)

/-- The words that structure commands. -/
def keywords : List String :=
  ["!", "case", "do", "done", "elif", "else", "esac", "fi", "for", "if", "in", "then", "until",
    "while", "\x7b", "\x7d"]

/-- The keywords that can only end a list of commands. -/
def closingKeywords : List String :=
  ["do", "done", "elif", "else", "esac", "fi", "then", "\x7d"]

namespace Token

/-- How messages name a token. -/
def label : Token → String
  | endOfFile => "end of file"
  | newline => "newline"
  | semicolon => "\";\""
  | background => "\"&\""
  | andThen => "\"&&\""
  | orElse => "\"||\""
  | bar => "\"|\""
  | openRound => "\"(\""
  | closeRound => "\")\""
  | endCase => "\";;\""
  | redirection _ _ => "redirection"
  | word _ _ => "word"
  | keyword text => "\"" ++ text ++ "\""

/-- Whether a token ends a list of commands. -/
def closes : Token → Bool
  | endOfFile => true
  | closeRound => true
  | endCase => true
  | keyword text => closingKeywords.contains text
  | _ => false

/-- Whether a token is a given keyword. -/
def isKeyword (expected : String) : Token → Bool
  | keyword text => text == expected
  | _ => false

/-- The word that a token is, where keywords mean nothing. -/
def word? : Token → Option Word
  | word w _ => some w
  | keyword text => some (wordOf text.toList)
  | _ => none

end Token

/-- Why a script cannot be read, and on which line. -/
structure SyntaxFault where
  /-- The line. -/
  line : Nat
  /-- What is wrong. -/
  message : String

/-- A document that has been announced. -/
structure Announcement where
  /-- Its number. -/
  number : Nat
  /-- The line that ends it. -/
  mark : Text
  /-- Whether it is taken as it is. -/
  isRaw : Bool
  /-- Whether tabs in front of its lines are dropped. -/
  stripsTabs : Bool

/-- Words that stand for texts, in the order in which they were made. -/
abbrev Aliases := List (String × Text)

/-- An alias in whose place its text is read. -/
structure Replacement where
  /-- The alias. -/
  name : String
  /-- How many characters follow its text. -/
  after : Nat
  /-- Whether the word after it may be an alias, too: its text ends in a blank. -/
  goesOn : Bool

namespace Replacement

/-- Whether a word that begins with so many characters unread is part of the text. -/
def isAround (r : Replacement) (start : Nat) : Bool := r.after < start

/-- Whether a word that begins with so many characters unread is the first one after the text,
    given how many were unread after the word before it. -/
def endsBefore (r : Replacement) (unread start : Nat) : Bool :=
  r.goesOn && r.after < unread && start ≤ r.after

end Replacement

/-- The state of a reader. -/
structure Source where
  /-- The unread part of the script. -/
  rest : Text
  /-- The line on which it begins. -/
  line : Nat
  /-- The last token. -/
  last : Token
  /-- Whether the last token has been given back. -/
  isGivenBack : Bool
  /-- The documents that have been announced. -/
  announced : List Announcement
  /-- The documents that have been read. -/
  documents : Documents
  /-- The number of the next document. -/
  nextDocument : Nat
  /-- The aliases. -/
  aliases : Aliases
  /-- The aliases that have been replaced, the last one first. -/
  replaced : List Replacement

namespace Source

/-- A script of which nothing has been read. -/
def ofText (text : Text) (nextDocument : Nat) (aliases : Aliases) : Source :=
  ⟨text, 1, .newline, false, [], [], nextDocument, aliases, []⟩

/-- How long a script of a given length may become by aliases, none of which stands within its own
    text. -/
def sizeWith (size : Nat) (aliases : Aliases) : Nat :=
  aliases.foldl (fun size (_, text) => size * (text.length + 2)) size

/-- The text of a word, if the word is an alias; `unread` is how many characters were unread after
    the word before it, and `isFirst` says that it may be an alias wherever that ended. -/
def aliasText? (s : Source) (unread : Nat) (isFirst : Bool) (word : Text) : Option Text :=
  let name := String.ofList word
  let start := s.rest.length + word.length
  if isFirst || s.replaced.any (·.endsBefore unread start) then
    if s.replaced.any fun r => r.name == name && r.isAround start then none
    else s.aliases.lookup name
  else none

/-- The script with the text of an alias in front. -/
def replace (s : Source) (name text : Text) : Source :=
  if text.isEmpty then s
  else
    { s with
      rest := text ++ s.rest
      replaced :=
        ⟨String.ofList name, s.rest.length, text.getLast?.any isBlank⟩ :: s.replaced }

end Source

/-- A reader of a part of a script. -/
abbrev Reader := StateT Source (Except SyntaxFault)

namespace Reader

/-- Refuses the script where the reader stands. -/
def refuse {α : Type} (message : String) : Reader α := do
  throw ⟨(← get).line, message⟩

/-- Refuses the last token, where another one may have been expected. -/
def refuseToken {α : Type} (expected : Option Token) : Reader α := do
  let found := (← get).last.label ++ " unexpected"
  match expected with
  | some token => refuse (found ++ " (expecting " ++ token.label ++ ")")
  | none => refuse found

/-- The next character, left unread. -/
def peek : Reader (Option Char) := do return (← get).rest.head?

/-- Passes over a character. -/
def skip : Reader Unit := modify fun s =>
  { s with
    rest := s.rest.drop 1
    line := if s.rest.head? = some '\n' then s.line + 1 else s.line }

/-- The text after the ends of lines with a backslash before them, and how many there are. -/
def afterJoints : Text → Nat × Text
  | '\\' :: '\n' :: rest =>
    let (count, after) := afterJoints rest
    (count + 1, after)
  | text => (0, text)

/-- The next character after joined lines, left unread. -/
def next : Reader (Option Char) := do
  modify fun s =>
    let (count, after) := afterJoints s.rest
    { s with rest := after, line := s.line + count }
  peek

/-- Passes over a character if it is the next one; says whether it was. -/
def accept (c : Char) : Reader Bool := do
  if (← next) = some c then
    skip
    return true
  return false

/-- Passes over characters as long as they satisfy a condition, and gives them.  The fuel bounds
    their number. -/
def takeWhile (p : Char → Bool) : Nat → Reader Text
  | 0 => return []
  | fuel + 1 => do
    match ← next with
    | some c =>
      if p c then
        skip
        return c :: (← takeWhile p fuel)
      return []
    | none => return []

/-- Gives the last token back. -/
def giveBack : Reader Unit := modify fun s => { s with isGivenBack := true }

end Reader

end DiagnosticBridge.Shell
