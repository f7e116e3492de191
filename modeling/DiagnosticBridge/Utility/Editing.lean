import DiagnosticBridge.Utility.Reading
import DiagnosticBridge.Utility.Regex

namespace DiagnosticBridge.Utility

open Shell

/-!
# Editing lines

A program that takes lines one at a time, changes them as commands say, and shows them.  A command
may be meant for some lines only.
-/

/-- For which lines a command is meant. -/
inductive Address where
  /-- The line of a number. -/
  | line (n : Nat)
  /-- The last line. -/
  | last
  /-- Lines that match. -/
  | pattern (r : Regex) (folds : Bool)
  /-- Every so manieth line from one on. -/
  | step (first step : Nat)
  /-- So many more lines. -/
  | more (n : Nat)

/-- How a piece of a line is replaced. -/
structure Substitution where
  /-- What is replaced. -/
  pattern : Regex
  /-- What takes its place. -/
  target : Text
  /-- Whether all pieces are replaced. -/
  isGlobal : Bool
  /-- Which piece is the first one that is replaced. -/
  first : Nat
  /-- Whether the line is shown if a piece has been replaced. -/
  prints : Bool
  /-- Whether capital letters count as small ones. -/
  folds : Bool

/-- What a command does. -/
inductive EditAction where
  | substitute (s : Substitution)
  | translate (source target : Text)
  | print
  | printFirst
  | delete
  | deleteFirst
  | quit (status : Nat) (prints : Bool)
  | next
  | append
  | number
  | insertText (text : Text)
  | appendText (text : Text)
  | change (text : Text)
  | hold (appends : Bool)
  | fetch (appends : Bool)
  | exchange
  /-- The commands up to the end of the block are passed over for other lines. -/
  | block
  | endBlock
  | label (name : Text)
  | jump (name : Text) (onlyAfterSubstitution : Bool)

/-- A command. -/
structure EditCommand where
  /-- From which line on it is meant. -/
  first : Option Address
  /-- Up to which line it is meant. -/
  last : Option Address
  /-- Whether it is meant for all other lines. -/
  isNegated : Bool
  /-- What it does. -/
  action : EditAction

/-! ### Reading commands -/

/-- A text up to a delimiter that has no backslash before it, and what follows.  A backslash before
    the delimiter is dropped; brackets hold delimiters. -/
def delimited? (delimiter : Char) : Text → Option (Text × Text)
  | [] => none
  | '\\' :: c :: rest =>
    (delimited? delimiter rest).map fun (text, after) =>
      if c == delimiter then (c :: text, after) else ('\\' :: c :: text, after)
  | c :: rest =>
    if c == delimiter then some ([], rest)
    else (delimited? delimiter rest).map fun (text, after) => (c :: text, after)

/-- An address at the front of a text, and what follows; an outer none says that it is not right,
    an inner one that there is none. -/
def addressAt? (isExtended : Bool) (text : Text) : Option (Option Address × Text) :=
  let regex (delimiter : Char) (rest : Text) : Option (Option Address × Text) :=
    (delimited? delimiter rest).bind fun (pattern, rest) =>
      (Regex.ofText? isExtended pattern).map fun r =>
        if rest.head? == some 'I' then (some (.pattern r true), rest.drop 1)
        else (some (.pattern r false), rest)
  match text with
  | '$' :: rest => some (some .last, rest)
  | '/' :: rest => regex '/' rest
  | '\\' :: c :: rest => regex c rest
  | '+' :: rest =>
    let digits := rest.takeWhile Char.isDigit
    some (some (.more (numberOf digits)), rest.drop digits.length)
  | text =>
    let digits := text.takeWhile Char.isDigit
    let rest := text.drop digits.length
    if digits.isEmpty then some (none, text)
    else
      match rest with
      | '~' :: rest =>
        let step := rest.takeWhile Char.isDigit
        some (some (.step (numberOf digits) (numberOf step)), rest.drop step.length)
      | rest => some (some (.line (numberOf digits)), rest)

/-- A substitution with the flags at the front of a text, and what follows; none if there is a flag
    that means nothing.  The fuel bounds the number of flags. -/
def withFlags (s : Substitution) (text : Text) : Nat → Substitution × Text
  | 0 => (s, text)
  | fuel + 1 =>
    match text with
    | 'g' :: rest => withFlags { s with isGlobal := true } rest fuel
    | 'p' :: rest => withFlags { s with prints := true } rest fuel
    | 'i' :: rest => withFlags { s with folds := true } rest fuel
    | 'I' :: rest => withFlags { s with folds := true } rest fuel
    | text =>
      let digits := text.takeWhile Char.isDigit
      if digits.isEmpty then (s, text)
      else withFlags { s with first := numberOf digits } (text.drop digits.length) fuel

/-- The text that a command inserts, and what follows it. -/
def insertion (text : Text) : Text × Text :=
  let rest := text.dropWhile isBlank
  let rest := match rest with
    | '\\' :: '\n' :: rest => rest
    | '\\' :: rest => rest.dropWhile isBlank
    | rest => rest
  let (line, after) := go rest (rest.length + 1)
  (line ++ ['\n'], after)
where
  /-- Takes a line, and the next one if a backslash ends it. -/
  go (text : Text) : Nat → Text × Text
    | 0 => ([], text)
    | fuel + 1 =>
      match text with
      | [] => ([], [])
      | '\n' :: rest => ([], rest)
      | '\\' :: c :: rest =>
        let (line, after) := go rest fuel
        (c :: line, after)
      | c :: rest =>
        let (line, after) := go rest fuel
        (c :: line, after)

/-- A text with the escapes of a list of characters replaced. -/
def plainList : Text → Text
  | '\\' :: 'n' :: rest => '\n' :: plainList rest
  | '\\' :: c :: rest => c :: plainList rest
  | c :: rest => c :: plainList rest
  | [] => []

/-- What the command of a letter does, and what follows it; or what is wrong. -/
def actionAt (isExtended : Bool) (c : Char) (rest : Text) : Except String (EditAction × Text) :=
  let plain (action : EditAction) : Except String (EditAction × Text) := .ok (action, rest)
  let name : Text := (rest.dropWhile isBlank).takeWhile fun c => c != '\n' && c != ';'
  let afterName : Text := (rest.dropWhile isBlank).drop name.length
  let status : Text := (rest.dropWhile isBlank).takeWhile Char.isDigit
  let afterStatus : Text := (rest.dropWhile isBlank).drop status.length
  match c with
  | 'p' => plain .print
  | 'P' => plain .printFirst
  | 'd' => plain .delete
  | 'D' => plain .deleteFirst
  | 'n' => plain .next
  | 'N' => plain .append
  | '=' => plain .number
  | 'h' => plain (.hold false)
  | 'H' => plain (.hold true)
  | 'g' => plain (.fetch false)
  | 'G' => plain (.fetch true)
  | 'x' => plain .exchange
  | '\x7b' => plain .block
  | '\x7d' => plain .endBlock
  | 'q' => .ok (.quit (numberOf status) true, afterStatus)
  | 'Q' => .ok (.quit (numberOf status) false, afterStatus)
  | ':' => .ok (.label name, afterName)
  | 'b' => .ok (.jump name false, afterName)
  | 't' => .ok (.jump name true, afterName)
  | 'i' => let (text, after) := insertion rest; .ok (.insertText text, after)
  | 'a' => let (text, after) := insertion rest; .ok (.appendText text, after)
  | 'c' => let (text, after) := insertion rest; .ok (.change text, after)
  | 's' =>
    match rest with
    | [] => .error "unterminated `s' command"
    | delimiter :: rest =>
      match (delimited? delimiter rest).bind fun (pattern, rest) =>
          (delimited? delimiter rest).map fun (target, rest) => (pattern, target, rest) with
      | none => .error "unterminated `s' command"
      | some (pattern, target, rest) =>
        match Regex.ofText? isExtended pattern with
        | none => .error "Invalid regular expression"
        | some r =>
          let (s, rest) := withFlags ⟨r, target, false, 1, false, false⟩ rest rest.length
          .ok (.substitute s, rest)
  | 'y' =>
    match rest with
    | [] => .error "unterminated `y' command"
    | delimiter :: rest =>
      match (delimited? delimiter rest).bind fun (source, rest) =>
          (delimited? delimiter rest).map fun (target, rest) => (source, target, rest) with
      | none => .error "unterminated `y' command"
      | some (source, target, rest) =>
        .ok (.translate (plainList source) (plainList target), rest)
  | c => .error ("unknown command: `" ++ String.ofList [c] ++ "'")

/-- The commands in a text, or what is wrong and how much of the text is left then.  The fuel
    bounds their number. -/
def editCommands (isExtended : Bool) (text : Text) :
    Nat → Except (String × Nat) (List EditCommand)
  | 0 => .ok []
  | fuel + 1 =>
    match text.dropWhile fun c => isSpace c || c == ';' with
    | [] => .ok []
    | '#' :: rest => editCommands isExtended (rest.dropWhile (· != '\n')) fuel
    | text =>
      let addresses := (addressAt? isExtended text).bind fun (first, rest) =>
        match first, rest with
        | some first, ',' :: rest =>
          (addressAt? isExtended (rest.dropWhile isBlank)).map fun (last, rest) =>
            (some first, last, rest)
        | first, rest => some (first, none, rest)
      match addresses with
      | none => .error ("unterminated address regex", 0)
      | some (first, last, rest) =>
        let rest := rest.dropWhile isBlank
        let isNegated := rest.head? == some '!'
        let rest := (if isNegated then rest.drop 1 else rest).dropWhile isBlank
        match rest with
        | [] => .error ("missing command", 0)
        | c :: rest =>
          match actionAt isExtended c rest with
          | .error message => .error (message, rest.length)
          | .ok (action, rest) =>
            let after := rest.dropWhile isBlank
            let endsHere := match action, after.head? with
              | .block, _ => true
              | .insertText _, _ => true
              | .appendText _, _ => true
              | .change _, _ => true
              | _, none => true
              | _, some c => c == '\n' || c == ';' || c == '#' || c == '\x7d'
            if !endsHere then
              match action with
              | .substitute _ => .error ("unknown option to `s'", after.length - 1)
              | _ => .error ("extra characters after command", after.length - 1)
            else
              (editCommands isExtended rest fuel).map (⟨first, last, isNegated, action⟩ :: ·)

/-! ### Carrying them out -/

/-- The state while a line is edited. -/
structure Editor where
  /-- The line. -/
  line : Text
  /-- The text that is kept aside. -/
  held : Text
  /-- The number of the line. -/
  number : Nat
  /-- The lines that follow. -/
  rest : List Text
  /-- What has been shown, the latest first. -/
  output : List Text
  /-- What is shown after the line. -/
  later : List Text
  /-- The commands that are meant for the lines up to one that is still to come, by their places,
      and the last line if it is known. -/
  active : List (Nat × Option Nat)
  /-- Whether a piece of the line has been replaced. -/
  hasReplaced : Bool
  /-- Whether lines are only shown on demand. -/
  isQuiet : Bool
  /-- The status with which the program ends, if it does. -/
  status : Option Nat

namespace Editor

/-- Shows a text. -/
def shown (e : Editor) (text : Text) : Editor := { e with output := text :: e.output }

/-- Whether a line is one that an address means. -/
def isMeant (e : Editor) : Address → Bool
  | .line n => e.number == n
  | .last => e.rest.isEmpty
  | .pattern r folds => (Regex.find? e.line.toArray folds r 0).isSome
  | .step first step =>
    if step == 0 then e.number == first else e.number ≥ first && (e.number - first) % step == 0
  | .more _ => false

/-- Whether a command is meant for the line, and which commands are meant for lines to come. -/
def select (e : Editor) (place : Nat) (c : EditCommand) : Bool × Editor :=
  let others := e.active.filter (·.1 != place)
  match c.first, c.last with
  | none, _ => (true, e)
  | some start, none => (e.isMeant start, e)
  | some start, some stop =>
    match e.active.lookup place with
    | some (some n) =>
      if e.number > n then (e.isMeant start, { e with active := others })
      else (true, if e.number == n then { e with active := others } else e)
    | some none => (true, if e.isMeant stop then { e with active := others } else e)
    | none =>
      if !e.isMeant start then (false, e)
      else
        match stop with
        | .line n => (true, if n ≤ e.number then e else
            { e with active := (place, some n) :: others })
        | .more n => (true, if n == 0 then e else
            { e with active := (place, some (e.number + n)) :: others })
        | _ => (true, { e with active := (place, none) :: others })

/-- What takes the place of a piece. -/
def replacementFor (text : Array Char) (found : Regex.Found) : Text → Text
  | '\\' :: 'n' :: rest => '\n' :: replacementFor text found rest
  | '\\' :: 't' :: rest => '\t' :: replacementFor text found rest
  | '\\' :: c :: rest =>
    if c.isDigit then
      let piece := if c == '0' then text.extract found.first found.last
        else match found.groups.lookup (c.toNat - 48) with
          | some (first, last) => text.extract first last
          | none => #[]
      piece.toList ++ replacementFor text found rest
    else c :: replacementFor text found rest
  | '&' :: rest =>
    (text.extract found.first found.last).toList ++ replacementFor text found rest
  | c :: rest => c :: replacementFor text found rest
  | [] => []

/-- A line from a place on with pieces replaced; the next piece has a number.  Also says whether a
    piece has been replaced.  The fuel bounds the number of pieces. -/
def replaced (s : Substitution) (text : Array Char) (place number : Nat) : Nat → Text × Bool
  | 0 => ((text.extract place text.size).toList, false)
  | fuel + 1 =>
    match Regex.find? text s.folds s.pattern place with
    | none => ((text.extract place text.size).toList, false)
    | some found =>
      let before := (text.extract place found.first).toList
      let isWanted := number ≥ s.first
      let piece := if isWanted then replacementFor text found s.target
        else (text.extract found.first found.last).toList
      if isWanted && !s.isGlobal then
        (before ++ piece ++ (text.extract found.last text.size).toList, true)
      else if found.last == found.first then
        let one := (text.extract found.last (found.last + 1)).toList
        if found.last ≥ text.size then (before ++ piece, isWanted)
        else
          let (rest, more) := replaced s text (found.last + 1) (number + 1) fuel
          (before ++ piece ++ one ++ rest, isWanted || more)
      else
        let (rest, more) := replacedAfter s text found.last (number + 1) fuel
        (before ++ piece ++ rest, isWanted || more)
where
  /-- Goes on right after a piece, where no empty piece is taken. -/
  replacedAfter (s : Substitution) (text : Array Char) (place number : Nat) :
      Nat → Text × Bool
    | 0 => ((text.extract place text.size).toList, false)
    | fuel + 1 =>
      match Regex.matchAt? text s.folds s.pattern place with
      | some found =>
        if found.last == found.first then
          if place ≥ text.size then ([], false)
          else
            let one := (text.extract place (place + 1)).toList
            let (rest, more) := replaced s text (place + 1) number fuel
            (one ++ rest, more)
        else replaced s text place number fuel
      | none => replaced s text place number fuel

/-- Shows what is to be shown after the line. -/
def flush (e : Editor) : Editor :=
  e.later.foldl shown { e with later := [] }

/-- Ends the work on a line. -/
def endLine (e : Editor) : Editor :=
  (if e.isQuiet then e else e.shown (e.line ++ ['\n'])).flush

/-- The place of the end of the block that begins before these commands. -/
def blockEnd (commands : List EditCommand) (place depth : Nat) : Nat :=
  match commands with
  | [] => place
  | c :: rest =>
    match c.action with
    | .block => blockEnd rest (place + 1) (depth + 1)
    | .endBlock => if depth == 0 then place else blockEnd rest (place + 1) (depth - 1)
    | _ => blockEnd rest (place + 1) depth

/-- The place of a label; the end of the commands if it has no name. -/
def labelPlace (commands : Array EditCommand) (name : Text) : Nat :=
  if name.isEmpty then commands.size
  else (commands.findIdx? fun c => match c.action with
    | .label found => found == name
    | _ => false).getD commands.size

/-- The first line of a text of several, and the others. -/
def firstLine (text : Text) : Text := text.takeWhile (· != '\n')

/-- Where the work goes on after a command. -/
inductive Turn where
  /-- At a command. -/
  | at (place : Nat)
  /-- At the next line; this one is not shown. -/
  | nextLine
  /-- At the first command, with what is left of the line. -/
  | again

/-- Carries out a command that is meant for the line. -/
def act (commands : Array EditCommand) (place : Nat) (c : EditCommand) (e : Editor) :
    Editor × Turn :=
  let goOn (e : Editor) : Editor × Turn := (e, .at (place + 1))
  match c.action with
  | .substitute s =>
    let text := e.line.toArray
    let (line, isDone) := replaced s text 0 1 (text.size + 2)
    let e := if isDone then { e with line := line, hasReplaced := true } else e
    goOn (if isDone && s.prints then e.shown (line ++ ['\n']) else e)
  | .translate source target =>
    goOn { e with line := e.line.map fun c =>
      match source.idxOf? c with
      | some i => (target[i]?).getD c
      | none => c }
  | .print => goOn (e.shown (e.line ++ ['\n']))
  | .printFirst => goOn (e.shown (firstLine e.line ++ ['\n']))
  | .delete => (e, .nextLine)
  | .deleteFirst =>
    if e.line.contains '\n' then
      ({ e with line := e.line.drop ((firstLine e.line).length + 1) }, .again)
    else (e, .nextLine)
  | .quit status prints =>
    let e := if prints then e.endLine else e
    ({ e with status := some status }, .nextLine)
  | .next =>
    match e.rest with
    | [] => ({ e.endLine with status := some 0 }, .nextLine)
    | line :: rest =>
      goOn { e.endLine with line := line, rest := rest, number := e.number + 1 }
  | .append =>
    match e.rest with
    | [] => ({ e.endLine with status := some 0 }, .nextLine)
    | line :: rest =>
      goOn { e.flush with
        line := e.line ++ '\n' :: line, rest := rest, number := e.number + 1 }
  | .number => goOn (e.shown (decimal e.number ++ ['\n']))
  | .insertText text => goOn (e.shown text)
  | .appendText text => goOn { e with later := e.later ++ [text] }
  | .change text =>
    let isLast := c.last.isNone || c.isNegated || !e.active.any (·.1 == place)
    (if isLast then e.shown text else e, .nextLine)
  | .hold appends =>
    goOn { e with held := if appends then e.held ++ '\n' :: e.line else e.line }
  | .fetch appends =>
    goOn { e with line := if appends then e.line ++ '\n' :: e.held else e.held }
  | .exchange => goOn { e with line := e.held, held := e.line }
  | .block => goOn e
  | .endBlock => goOn e
  | .label _ => goOn e
  | .jump name onlyAfterSubstitution =>
    if !onlyAfterSubstitution then (e, .at (labelPlace commands name))
    else if e.hasReplaced then ({ e with hasReplaced := false }, .at (labelPlace commands name))
    else goOn e

/-- Carries out commands from a place on.  The fuel bounds their number. -/
def runFrom (commands : Array EditCommand) (place : Nat) (e : Editor) : Nat → Editor
  | 0 => e
  | fuel + 1 =>
    match commands[place]? with
    | none => e.endLine
    | some c =>
      let (isMeant, e) := e.select place c
      if isMeant == c.isNegated then
        let next := match c.action with
          | .block => blockEnd (commands.toList.drop (place + 1)) (place + 1) 0
          | _ => place
        runFrom commands (next + 1) e fuel
      else
        match act commands place c e with
        | (e, .at next) => runFrom commands next e fuel
        | (e, .nextLine) => e.flush
        | (e, .again) => runFrom commands 0 e.flush fuel

/-- How many commands are carried out for a line. -/
def patience : Nat := 10000

/-- Edits lines one after the other.  The fuel bounds their number. -/
def editAll (commands : Array EditCommand) (e : Editor) : Nat → Editor
  | 0 => e
  | fuel + 1 =>
    match e.status, e.rest with
    | some _, _ => e
    | none, [] => e
    | none, line :: rest =>
      let start :=
        { e with line := line, rest := rest, number := e.number + 1, hasReplaced := false }
      editAll commands (runFrom commands 0 start patience) fuel

end Editor

/-- The options of the program that edits lines. -/
def editOptions : List Choice :=
  [⟨'n', "quiet", false⟩, ⟨'n', "silent", false⟩, ⟨'e', "expression", true⟩,
    ⟨'E', "regexp-extended", false⟩, ⟨'r', "", false⟩, ⟨'s', "separate", false⟩,
    ⟨'u', "unbuffered", false⟩, ⟨'f', "file", true⟩]

/-- Edits lines. -/
def sed : ShellM Nat :=
  withOptions 1 editOptions false fun u => do
    let given := (u.chosen.filter (·.1 == 'e')).map (·.2)
    let (script, paths) ← if given.isEmpty then
        pure (u.operands.head?, u.operands.drop 1)
      else pure (some (joined ['\n'] given), u.operands)
    match script with
    | none => refuse 1 "no script specified".toList
    | some script =>
      match editCommands (u.has 'E' || u.has 'r') script (script.length + 1) with
      | .error (message, left) =>
        say ("-e expression #1, char ".toList ++ decimal (script.length - left) ++ ": ".toList ++
          message.toList)
        return 1
      | .ok commands =>
        let (inputs, status) ← joinedInputs paths 2 fun path fault =>
          match fault with
          | .isDirectory => say ("couldn't edit ".toList ++ path ++ ": not a regular file".toList)
          | fault => sayFault ("can't read ".toList ++ path) fault
        let text := inputs.flatten
        let lines := linesOf text
        let start : Editor := ⟨[], [], 0, lines, [], [], [], false, u.has 'n', none⟩
        let done := Editor.editAll commands.toArray start (lines.length + 1)
        let shown := done.output.reverse.flatten
        let endsOpen := !text.isEmpty && text.getLast? != some '\n' && done.rest.isEmpty
        ShellM.print (if endsOpen && shown.getLast? == some '\n' then shown.dropLast else shown)
        return done.status.getD status

end DiagnosticBridge.Utility
