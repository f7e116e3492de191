import DiagnosticBridge.Shell.Pattern

namespace DiagnosticBridge.Utility

open Shell

/-!
# Regular expressions

Expressions that describe pieces of lines, in the basic and in the extended notation.  Among the
pieces that begin at one place the longest one is taken.
-/

/-- A regular expression. -/
inductive Regex where
  /-- The empty piece. -/
  | empty
  /-- A character. -/
  | item (item : PatternItem)
  /-- The front of the line. -/
  | front
  /-- The end of the line. -/
  | back
  /-- The place where a word begins or ends; which ones, `atStart` and `atEnd` say. -/
  | edge (atStart atEnd : Bool)
  /-- A place where no word begins or ends. -/
  | within
  /-- A piece and then another one. -/
  | both (first second : Regex)
  /-- One piece or another one. -/
  | either (first second : Regex)
  /-- A piece several times. -/
  | several (body : Regex) (least : Nat) (most : Option Nat)
  /-- A piece that has a number. -/
  | group (number : Nat) (body : Regex)
  /-- The piece that has a number once more. -/
  | same (number : Nat)

namespace Regex

/-! ### Matching -/

/-- The places of the pieces that have numbers, the latest first. -/
abbrev Groups := List (Nat × Nat × Nat)

/-- Where a piece may end, with its groups; the preferred ends first. -/
abbrev Ends := List (Nat × Groups)

/-- Ends of which each place is given once. -/
def distinct (ends : Ends) : Ends :=
  ends.foldr (fun found rest => found :: rest.filter (·.1 != found.1)) []

/-- Whether a character belongs to a word. -/
def isWordChar (c : Char) : Bool := c.isAlphanum || c == '_'

/-- Whether there is a character of a word at a place. -/
def wordAt (text : Array Char) (place : Nat) : Bool := (text[place]?).any isWordChar

/-- Whether a character is described, in capitals or not if `folds`. -/
def admits (folds : Bool) (item : PatternItem) (c : Char) : Bool :=
  item.admits c || (folds && (item.admits c.toUpper || item.admits c.toLower))

/-- Where a piece repeated several times may end.  The fuel bounds how often. -/
def severalEnds (body : Nat → Groups → Ends) (least : Nat) (most : Option Nat) :
    Nat → Nat → Nat → Groups → Ends
  | 0, _, _, _ => []
  | fuel + 1, count, place, groups =>
    let more :=
      if most.all (count < ·) then
        (body place groups).flatMap fun (next, groups) =>
          if next == place && count ≥ least then []
          else severalEnds body least most fuel (count + 1) next groups
      else []
    distinct (more ++ if count ≥ least then [(place, groups)] else [])

/-- Where a piece that begins at a place may end. -/
def ends (text : Array Char) (folds : Bool) : Regex → Nat → Groups → Ends
  | empty, place, groups => [(place, groups)]
  | item i, place, groups =>
    if (text[place]?).any (admits folds i) then [(place + 1, groups)] else []
  | front, place, groups => if place == 0 then [(place, groups)] else []
  | back, place, groups => if place == text.size then [(place, groups)] else []
  | edge atStart atEnd, place, groups =>
    let before := place > 0 && wordAt text (place - 1)
    let after := wordAt text place
    if (atStart && !before && after) || (atEnd && before && !after) then [(place, groups)] else []
  | within, place, groups =>
    let before := place > 0 && wordAt text (place - 1)
    if before == wordAt text place then [(place, groups)] else []
  | both first second, place, groups =>
    distinct ((ends text folds first place groups).flatMap fun (next, groups) =>
      ends text folds second next groups)
  | either first second, place, groups =>
    distinct (ends text folds first place groups ++ ends text folds second place groups)
  | several body least most, place, groups =>
    severalEnds (ends text folds body) least most (text.size + least + 2) 0 place groups
  | group number body, place, groups =>
    (ends text folds body place groups).map fun (next, groups) =>
      (next, (number, place, next) :: groups)
  | same number, place, groups =>
    match groups.lookup number with
    | none => []
    | some (first, last) =>
      let piece := text.extract first last
      if text.extract place (place + piece.size) == piece then
        [(place + piece.size, groups)] else []

/-- A piece that has been found. -/
structure Found where
  /-- Where it begins. -/
  first : Nat
  /-- Where it ends. -/
  last : Nat
  /-- The pieces within it that have numbers. -/
  groups : Groups

/-- The longest piece that begins at a place. -/
def matchAt? (text : Array Char) (folds : Bool) (r : Regex) (place : Nat) : Option Found :=
  (ends text folds r place []).foldl (fun best (last, groups) =>
    match best with
    | some found => if last > found.last then some ⟨place, last, groups⟩ else best
    | none => some ⟨place, last, groups⟩) none

/-- The first piece that begins at a place or after it.  The fuel bounds the number of places. -/
def findFrom? (text : Array Char) (folds : Bool) (r : Regex) (place : Nat) : Nat → Option Found
  | 0 => none
  | fuel + 1 =>
    if place > text.size then none
    else
      match matchAt? text folds r place with
      | some found => some found
      | none => findFrom? text folds r (place + 1) fuel

/-- The first piece that begins at a place or after it. -/
def find? (text : Array Char) (folds : Bool) (r : Regex) (place : Nat) : Option Found :=
  findFrom? text folds r place (text.size + 1)

/-! ### Notation -/

/-- A token of the notation. -/
inductive Mark where
  | opens
  | closes
  | bar
  | times (least : Nat) (most : Option Nat)
  | piece (r : Regex)
  | front
  | back

/-- The members of a set up to its closing bracket, and what follows.  The fuel bounds their
    number. -/
def membersAt? (isFirst : Bool) (text : Text) : Nat → Option (List Member × Text)
  | 0 => none
  | fuel + 1 =>
    match text with
    | [] => none
    | ']' :: rest =>
      if isFirst then (membersAt? false rest fuel).map fun (more, after) =>
        (.range ']' ']' :: more, after)
      else some ([], rest)
    | '[' :: ':' :: rest =>
      let name := rest.takeWhile Char.isAlpha
      match rest.drop name.length with
      | ':' :: ']' :: after =>
        (membersAt? false after fuel).map fun (more, after) => (.kind name :: more, after)
      | _ => none
    | a :: '-' :: b :: rest =>
      if b == ']' then
        (membersAt? false ('-' :: b :: rest) fuel).map fun (more, after) =>
          (.range a a :: more, after)
      else (membersAt? false rest fuel).map fun (more, after) => (.range a b :: more, after)
    | a :: rest => (membersAt? false rest fuel).map fun (more, after) => (.range a a :: more, after)

/-- The set after an opening bracket, and what follows. -/
def setAt? (text : Text) : Option (PatternItem × Text) :=
  let (isNegated, text) := match text with
    | '^' :: rest => (true, rest)
    | text => (false, text)
  (membersAt? true text (text.length + 1)).map fun (members, rest) =>
    (.oneOf isNegated members, rest)

/-- The bounds of a repetition before its closing brace, and what follows. -/
def boundsAt? (isExtended : Bool) (text : Text) : Option (Mark × Text) :=
  let least := text.takeWhile Char.isDigit
  let rest := text.drop least.length
  let hasComma := rest.head? == some ','
  let most := if hasComma then (rest.drop 1).takeWhile Char.isDigit else []
  let rest := if hasComma then rest.drop (most.length + 1) else rest
  let n := numberOf least
  let bounds := if hasComma then Mark.times n (number? most) else Mark.times n (some n)
  if least.isEmpty && !hasComma then none
  else
    match isExtended, rest with
    | true, '\x7d' :: rest => some (bounds, rest)
    | false, '\\' :: '\x7d' :: rest => some (bounds, rest)
    | _, _ => none

/-- The characters of words, or of white space, or all others. -/
def kindMark (names : List String) (extra : Text) (isNegated : Bool) : Mark :=
  .piece (.item (.oneOf isNegated
    (names.map (fun name => .kind name.toList) ++ extra.map fun c => .range c c)))

/-- The token that a character after a backslash makes up. -/
def escapedMark (isExtended : Bool) (c : Char) : Mark :=
  match c with
  | '(' => if isExtended then .piece (.item (.literal c)) else .opens
  | ')' => if isExtended then .piece (.item (.literal c)) else .closes
  | '|' => if isExtended then .piece (.item (.literal c)) else .bar
  | '+' => if isExtended then .piece (.item (.literal c)) else .times 1 none
  | '?' => if isExtended then .piece (.item (.literal c)) else .times 0 (some 1)
  | 'w' => kindMark ["alnum"] ['_'] false
  | 'W' => kindMark ["alnum"] ['_'] true
  | 's' => kindMark ["space"] [] false
  | 'S' => kindMark ["space"] [] true
  | 'b' => .piece (.edge true true)
  | 'B' => .piece .within
  | '<' => .piece (.edge true false)
  | '>' => .piece (.edge false true)
  | 'n' => .piece (.item (.literal '\n'))
  | 't' => .piece (.item (.literal '\t'))
  | c => if c.isDigit && c != '0' then .piece (.same (c.toNat - 48))
    else .piece (.item (.literal c))

/-- The next token, and what follows; none if the notation is not right. -/
def markAt? (isExtended : Bool) : Text → Option (Mark × Text)
  | [] => none
  | '\\' :: '\x7b' :: rest =>
    if isExtended then some (.piece (.item (.literal '\x7b')), rest)
    else boundsAt? isExtended rest
  | '\\' :: c :: rest => some (escapedMark isExtended c, rest)
  | ['\\'] => none
  | '[' :: rest => (setAt? rest).map fun (set, rest) => (.piece (.item set), rest)
  | '.' :: rest => some (.piece (.item .any), rest)
  | '*' :: rest => some (.times 0 none, rest)
  | '^' :: rest => some (.front, rest)
  | '$' :: rest => some (.back, rest)
  | c :: rest =>
    if isExtended then
      match c with
      | '(' => some (.opens, rest)
      | ')' => some (.closes, rest)
      | '|' => some (.bar, rest)
      | '+' => some (.times 1 none, rest)
      | '?' => some (.times 0 (some 1), rest)
      | '\x7b' => (boundsAt? isExtended rest).or (some (.piece (.item (.literal c)), rest))
      | c => some (.piece (.item (.literal c)), rest)
    else some (.piece (.item (.literal c)), rest)

/-- The tokens of a text.  The fuel bounds their number. -/
def marks? (isExtended : Bool) (text : Text) : Nat → Option (List Mark)
  | 0 => some []
  | fuel + 1 =>
    if text.isEmpty then some []
    else (markAt? isExtended text).bind fun (mark, rest) =>
      (marks? isExtended rest fuel).map (mark :: ·)

/-- What has been read of an expression. -/
structure Reading where
  /-- The tokens that are left. -/
  rest : List Mark
  /-- How many pieces have numbers. -/
  groups : Nat
  /-- The expression. -/
  regex : Regex

/-- The literal that a token is where it cannot mean anything else. -/
def literalOf : Mark → Option Regex
  | .times 0 none => some (.item (.literal '*'))
  | .front => some (.item (.literal '^'))
  | .back => some (.item (.literal '$'))
  | _ => none

/-- Whether a sequence of pieces ends before these tokens. -/
def endsBranch : List Mark → Bool
  | [] => true
  | .closes :: _ => true
  | .bar :: _ => true
  | _ => false

/-- Reads repetitions of a piece.  The fuel bounds their number. -/
def readTimes (r : Reading) : Nat → Reading
  | 0 => r
  | fuel + 1 =>
    match r.rest with
    | .times least most :: rest =>
      readTimes { r with rest := rest, regex := .several r.regex least most } fuel
    | _ => r

/-- Reads pieces one after the other.  The fuel bounds their number. -/
def readBranch (isExtended : Bool) (inner : List Mark → Nat → Option Reading) (isFirst : Bool)
    (rest : List Mark) (groups : Nat) : Nat → Option Reading
  | 0 => none
  | fuel + 1 =>
    if endsBranch rest then some ⟨rest, groups, .empty⟩
    else
      let goOn (piece : Reading) : Option Reading :=
        let piece := readTimes piece fuel
        (readBranch isExtended inner false piece.rest piece.groups fuel).map fun more =>
          { more with regex := .both piece.regex more.regex }
      let anchor (r : Regex) (more : List Mark) : Option Reading :=
        (readBranch isExtended inner isExtended more groups fuel).map fun found =>
          { found with regex := .both r found.regex }
      match rest with
      | .piece r :: more => goOn ⟨more, groups, r⟩
      | .front :: more =>
        if isExtended then anchor .front more
        else if isFirst then
          (readBranch isExtended inner true more groups fuel).map fun found =>
            { found with regex := .both .front found.regex }
        else goOn ⟨more, groups, .item (.literal '^')⟩
      | .back :: more =>
        if isExtended || endsBranch more then anchor .back more
        else goOn ⟨more, groups, .item (.literal '$')⟩
      | .times least most :: more =>
        if isFirst then
          match literalOf (.times least most) with
          | some r => goOn ⟨more, groups, r⟩
          | none => goOn ⟨more, groups, .empty⟩
        else none
      | .opens :: more =>
        let number := groups + 1
        (inner more number).bind fun found =>
          match found.rest with
          | .closes :: rest => goOn ⟨rest, found.groups, .group number found.regex⟩
          | _ => none
      | _ => none

/-- Reads an expression.  The fuel bounds how deep it is nested, and how many choices it has. -/
def readChoice (isExtended : Bool) (rest : List Mark) (groups : Nat) : Nat → Option Reading
  | 0 => none
  | fuel + 1 =>
    let inner (rest : List Mark) (groups : Nat) : Option Reading :=
      readChoice isExtended rest groups fuel
    (readBranch isExtended inner true rest groups (rest.length + 1)).bind fun first =>
      match first.rest with
      | .bar :: rest =>
        (readChoice isExtended rest first.groups fuel).map fun second =>
          { second with regex := .either first.regex second.regex }
      | _ => some first

/-- The expression that a text denotes. -/
def ofText? (isExtended : Bool) (text : Text) : Option Regex :=
  (marks? isExtended text (text.length + 1)).bind fun marks =>
    (readChoice isExtended marks 0 (marks.length + 2)).bind fun found =>
      if found.rest.isEmpty then some found.regex else none

/-- The expression for a text that stands for itself. -/
def ofLiteral (text : Text) : Regex :=
  text.foldr (fun c r => .both (.item (.literal c)) r) .empty

end Regex

end DiagnosticBridge.Utility
