import DiagnosticBridge.Shell.Text

namespace DiagnosticBridge.Shell

/-!
# Shell commands

The shell's language as it is read: words, whose parts may call for values and for whole commands,
and commands, from simple ones to lists, loops, choices and functions.  What an error is reported
for carries the line on which it stands.
-/

mutual

/-- A part of a word. -/
inductive Part where
  /-- A character. -/
  | char (c : Char) (isQuoted : Bool)
  /-- Quotes begin or end here. -/
  | quote
  /-- The value of a parameter. -/
  | parameter (name : Text) (operation : Operation) (isQuoted : Bool)
  /-- What a command prints. -/
  | command (body : Option Command) (isQuoted : Bool)
  /-- The value of an expression. -/
  | arithmetic (expression : List Part) (isQuoted : Bool)

/-- What is done with the value of a parameter.  In the first four operations on it, `nullToo` says
    that an empty value counts as none. -/
inductive Operation where
  /-- It is taken as it is. -/
  | plain
  /-- Its length is taken. -/
  | length
  /-- A word stands in for it if it has none. -/
  | fallback (nullToo : Bool) (word : List Part)
  /-- It is given a value if it has none. -/
  | assign (nullToo : Bool) (word : List Part)
  /-- It is an error if it has none. -/
  | demand (nullToo : Bool) (word : List Part)
  /-- A word stands in for it if it has one. -/
  | instead (nullToo : Bool) (word : List Part)
  /-- What matches a pattern is taken away at its front, or at its back. -/
  | trim (atFront isLongest : Bool) (pattern : List Part)
  /-- It is not said what. -/
  | unknown

/-- A redirection of a descriptor. -/
inductive Redirection where
  /-- From a file. -/
  | input (descriptor : Nat) (file : List Part)
  /-- To a file, over what it holds; even if files are guarded against that, if `isForced`. -/
  | output (descriptor : Nat) (isForced : Bool) (file : List Part)
  /-- To the end of a file. -/
  | append (descriptor : Nat) (file : List Part)
  /-- From and to a file. -/
  | both (descriptor : Nat) (file : List Part)
  /-- To where another descriptor goes; `-` closes it. -/
  | duplicate (descriptor : Nat) (other : List Part)
  /-- From a text in the script, by its number. -/
  | document (descriptor number : Nat)

/-- A command. -/
inductive Command where
  /-- Assignments, the words of a command, and its redirections. -/
  | simple (line : Nat) (assignments words : List (List Part)) (redirections : List Redirection)
  /-- Commands of which each reads what the one before it prints. -/
  | pipeline (stages : List Command)
  /-- A command that is not waited for. -/
  | background (line : Nat) (body : Command)
  /-- The second command runs if the first one succeeds. -/
  | both (first second : Command)
  /-- The second command runs if the first one fails. -/
  | either (first second : Command)
  /-- The second command runs after the first one. -/
  | sequence (first second : Command)
  /-- Succeeds if the command fails. -/
  | negated (command : Command)
  /-- A command under redirections. -/
  | redirected (line : Nat) (command : Command) (redirections : List Redirection)
  /-- A command in a shell of its own. -/
  | subshell (line : Nat) (body : Command) (redirections : List Redirection)
  /-- The body runs if the test succeeds, and the rest if not. -/
  | choice (test body : Command) (rest : Option Command)
  /-- The body runs as long as the test succeeds, or as long as it fails. -/
  | loop (whileSucceeds : Bool) (test body : Command)
  /-- The body runs for each of the values. -/
  | forEach (line : Nat) (name : Text) (values : List (List Part)) (body : Command)
  /-- The body of the first case runs of which a pattern matches the subject. -/
  | selection (line : Nat) (subject : List Part) (cases : List (List (List Part) × Option Command))
  /-- Gives a name to a command. -/
  | define (line : Nat) (name : Text) (body : Command)

end

instance : Inhabited Command := ⟨.simple 0 [] [] []⟩

/-- A word. -/
abbrev Word := List Part

/-- A word of unquoted characters. -/
def wordOf (text : Text) : Word := text.map (.char · false)

/-- The text of a word of unquoted characters only. -/
def plainText? (word : Word) : Option Text :=
  word.mapM fun part =>
    match part with
    | .char c false => some c
    | _ => none

/-- The word that stands for all arguments, each for itself. -/
def allArguments : Word := [.quote, .parameter ['@'] .plain true, .quote]

/-- Whether a word is an assignment. -/
def isAssignment : Word → Bool := go false
where
  /-- Looks at a word of which a name has been read, or nothing yet. -/
  go (hasName : Bool) : Word → Bool
    | .char '=' false :: _ => hasName
    | .char c false :: rest => (if hasName then isNameChar c else isNameStart c) && go true rest
    | _ => false

/-- A file read as a text of the shell: the texts that redirections take from the script, by their
    numbers. -/
abbrev Documents := List (Nat × Word)

end DiagnosticBridge.Shell
