import DiagnosticBridge.Utility.Options

namespace DiagnosticBridge.Utility

open Shell

/-!
# Programs that show what they read

They show files as they are, their beginnings or their ends, or how long they are.
-/

/-- Lines with their ends. -/
def fullLines (text : Text) : List Text :=
  let parts := text.splitOn '\n'
  let last := if parts.getLast? == some [] then [] else parts.getLast?.toList
  parts.dropLast.map (· ++ ['\n']) ++ last

/-- A text with blanks before it, up to a width. -/
def rightAligned (width : Nat) (text : Text) : Text :=
  List.replicate (width - text.length) ' ' ++ text

/-! ### Whole files -/

/-- How lines are shown. -/
structure LineStyle where
  /-- Whether all lines are numbered. -/
  numbersAll : Bool
  /-- Whether lines that are not empty are numbered. -/
  numbersFull : Bool
  /-- Whether ends of lines are marked. -/
  marksEnds : Bool
  /-- Whether tabs are marked. -/
  marksTabs : Bool
  /-- Whether several empty lines are shown as one. -/
  squeezes : Bool

/-- Shows lines in a style, from a number on; says which number comes next. -/
def styledLines (style : LineStyle) : Nat → Bool → List Text → List Text × Nat
  | n, _, [] => ([], n)
  | n, wasEmpty, line :: rest =>
    let isEmpty := line == ['\n']
    if isEmpty && wasEmpty && style.squeezes then styledLines style n true rest
    else
      let isNumbered := if style.numbersFull then !isEmpty else style.numbersAll
      let number := if isNumbered then rightAligned 6 (decimal n) ++ ['\t'] else []
      let shown := line.flatMap fun c =>
        if c == '\t' && style.marksTabs then ['^', 'I']
        else if c == '\n' && style.marksEnds then ['$', '\n']
        else [c]
      let (more, last) := styledLines style (if isNumbered then n + 1 else n) isEmpty rest
      ((number ++ shown) :: more, last)

/-- Shows files one after the other. -/
def cat : ShellM Nat :=
  withOptions 1 (letters "AbeEnstTuv" ++ [⟨'n', "number", false⟩]) false fun u => do
    let ends := u.has 'E' || u.has 'A' || u.has 'e'
    let style : LineStyle :=
      ⟨u.has 'n', u.has 'b', ends, u.has 'T' || u.has 'A' || u.has 't', u.has 's'⟩
    if style.numbersAll || style.numbersFull || ends || style.marksTabs || style.squeezes then
      let (inputs, status) ← joinedInputs u.operands 1 fun path fault => sayFault path fault
      ShellM.print (styledLines style 1 false (fullLines inputs.flatten)).1.flatten
      return status
    else
      (if u.operands.isEmpty then [['-']] else u.operands).foldlM (fun status path => do
        let shown ← if path == ['-'] then
            ShellM.foldParts 0 (fun _ part => do
              ShellM.print part
              return ((), true)) ()
          else do
            match ← contentAt path with
            | .error fault => pure (.error fault)
            | .ok content => do
              ShellM.print content
              pure (.ok ())
        match shown with
        | .ok _ => return status
        | .error fault =>
          sayFault path fault
          return 1) 0

/-- Shows files with their lines in the opposite order. -/
def tac : ShellM Nat :=
  withOptions 1 [] false fun u =>
    forInputs u.operands 1
      (fun path fault =>
        sayFault ("failed to open ".toList ++ inQuotes path ++ " for reading".toList) fault)
      fun _ content => ShellM.print (fullLines content).reverse.flatten

/-- Shows what it reads, and writes it to files, too. -/
def tee : ShellM Nat :=
  withOptions 1 [⟨'a', "append", false⟩, ⟨'i', "ignore-interrupts", false⟩] false fun u => do
    let read ← ShellM.foldParts 0 (fun read part => do
      ShellM.print part
      return (read ++ part, true)) []
    let content := read.toOption.getD []
    u.operands.foldlM (fun status path => do
      let s ← get
      match s.tree.create s.process.directory (stringOf path) with
      | .error fault =>
        sayFault path fault
        return 1
      | .ok (tree, place) =>
        set { s with tree := tree.update place fun old =>
          (if u.has 'a' then old else []) ++ toBytes content }
        return status) 0

/-! ### Parts of files -/

/-- Takes a number of lines for an option: `-5` stands for `-n 5`. -/
def withLineCount (arguments : List Text) : List Text :=
  match arguments with
  | ('-' :: digits) :: rest =>
    if !digits.isEmpty && digits.all Char.isDigit then ['-', 'n'] :: digits :: rest else arguments
  | arguments => arguments

/-- Shows parts of files, each after a title if there are several.  Of the input no more is read
    than is enough. -/
def showParts (u : Usage) (isEnough : Text → Bool) (part : Text → Text) : ShellM Nat := do
  let isTitled := (u.operands.length > 1 || u.has 'v') && !u.has 'q'
  let complain (path : Text) (fault : Files.Fault) : ShellM Unit :=
    if fault = .isDirectory then sayFault ("error reading ".toList ++ inQuotes path) fault
    else sayFault ("cannot open ".toList ++ inQuotes path ++ " for reading".toList) fault
  let (_, status) ← (if u.operands.isEmpty then [['-']] else u.operands).foldlM
    (fun ((isFirst, status) : Bool × Nat) path => do
      let found ← if path == ['-'] then
          ShellM.foldParts 0 (fun read part => do
            let read := read ++ part
            return (read, !isEnough read)) []
        else contentAt path
      match found with
      | .error fault =>
        complain path fault
        return (isFirst, 1)
      | .ok content =>
        if isTitled then
          let name := if path == ['-'] then "standard input".toList else path
          ShellM.print
            ((if isFirst then [] else ['\n']) ++ "==> ".toList ++ name ++ " <==\n".toList)
        ShellM.print (part content)
        return (false, status)) (true, 0)
  return status

/-- The options of programs that show parts of files. -/
def partOptions : List Choice :=
  [⟨'n', "lines", true⟩, ⟨'c', "bytes", true⟩, ⟨'q', "quiet", false⟩, ⟨'v', "verbose", false⟩]

/-- Shows parts of files, of as many lines or bytes as is said. -/
def partsOf (signs : Text) (isEnough : Char → Bool → Nat → Text → Bool)
    (part : Char → Bool → Nat → Text → Text) : ShellM Nat := do
  ShellM.update fun p => { p with arguments := withLineCount p.arguments }
  withOptions 1 partOptions false fun u => do
    let (unit, isBytes) := match u.argument? 'c' with
      | some count => (count, true)
      | none => ((u.argument? 'n').getD ['1', '0'], false)
    let sign := if signs.contains (unit.head?.getD ' ') then unit.head?.getD ' ' else ' '
    match number? (if sign == ' ' then unit else unit.drop 1) with
    | none =>
      let what := if isBytes then "bytes" else "lines"
      say ("invalid number of ".toList ++ what.toList ++ ": ".toList ++ inQuotes unit)
      return 1
    | some n => showParts u (isEnough sign isBytes n) (part sign isBytes n)

/-- Shows the beginnings of files. -/
def head : ShellM Nat :=
  let isEnough (sign : Char) (isBytes : Bool) (n : Nat) (text : Text) : Bool :=
    sign != '-' && n ≤ if isBytes then text.length else text.count '\n'
  partsOf ['-', '+'] isEnough fun sign isBytes n text =>
    if isBytes then if sign == '-' then text.take (text.length - n) else text.take n
    else
      let lines := fullLines text
      (if sign == '-' then lines.take (lines.length - n) else lines.take n).flatten

/-- Shows the ends of files. -/
def tail : ShellM Nat :=
  partsOf ['-', '+'] (fun _ _ _ _ => false) fun sign isBytes n text =>
    if isBytes then if sign == '+' then text.drop (n - 1) else text.drop (text.length - n)
    else
      let lines := fullLines text
      (if sign == '+' then lines.drop (n - 1) else lines.drop (lines.length - n)).flatten

/-! ### Lengths -/

/-- How many words a text has. -/
def wordCount (text : Text) : Nat :=
  (text.foldl (fun ((count, isInside) : Nat × Bool) c =>
    if isSpace c then (count, false)
    else (if isInside then count else count + 1, true)) (0, false)).1

/-- Shows how many lines, words and bytes files have. -/
def wc : ShellM Nat :=
  withOptions 1
    [⟨'l', "lines", false⟩, ⟨'w', "words", false⟩, ⟨'c', "bytes", false⟩, ⟨'m', "chars", false⟩,
      ⟨'L', "max-line-length", false⟩] false fun u => do
    let usual := u.chosen.isEmpty
    let counts (text : Text) : List Nat :=
      (if usual || u.has 'l' then [text.count '\n'] else []) ++
      (if usual || u.has 'w' then [wordCount text] else []) ++
      (if u.has 'm' then [text.length] else []) ++
      (if usual || u.has 'c' then [text.length] else []) ++
      (if u.has 'L' then [((linesOf text).map List.length).foldl max 0] else [])
    let (found, status) ← (if u.operands.isEmpty then [['-']] else u.operands).foldlM
      (fun ((found, status) : List (Text × Text) × Nat) path => do
        match ← inputAt path with
        | .ok content => return (found ++ [(path, content)], status)
        | .error fault =>
          sayFault path fault
          return (found, 1)) ([], 0)
    let all := found.map fun (path, text) =>
      (if u.operands.isEmpty then [] else path, counts text)
    let total := counts (found.map (·.2)).flatten
    let rows := if u.operands.length > 1 then all ++ [("total".toList, total)] else all
    let isSingle := rows.length ≤ 1 && total.length == 1
    let hasInput := u.operands.isEmpty || u.operands.contains ['-']
    let size := (decimal (found.map (·.2)).flatten.length).length
    let width := if isSingle then 1 else if hasInput then 7 else size
    rows.forM fun (path, counts) => do
      let shown := joined [' '] (counts.map fun n => rightAligned width (decimal n))
      ShellM.print (shown ++ (if path.isEmpty then [] else ' ' :: path) ++ ['\n'])
    return status

end DiagnosticBridge.Utility
