import DiagnosticBridge.Shell.Pattern
import DiagnosticBridge.Shell.Printf
import DiagnosticBridge.Utility.Options

namespace DiagnosticBridge.Utility

open Shell

/-!
# Programs that work on lines

They sort lines, leave out repeated ones, cut pieces out of them, replace characters in them, or
number them.
-/

/-- Lines as they are written. -/
def unlines (lines : List Text) : Text := lines.flatMap (· ++ ['\n'])

/-! ### Sorting -/

/-- What lines are sorted by. -/
structure SortKey where
  /-- The first field of the key and the last one; no last one means all fields that follow. -/
  fields : Option (Nat × Option Nat)
  /-- Whether numbers are compared. -/
  isNumeric : Bool
  /-- Whether the order is the opposite one. -/
  isReverse : Bool
  /-- Whether small letters count as capital ones. -/
  foldsCase : Bool
  /-- Whether blanks at the front do not count. -/
  skipsBlanks : Bool

/-- The fields of a line, each with the blanks before it, if blanks separate them. -/
def blankFields (text : Text) : Nat → List Text
  | 0 => []
  | fuel + 1 =>
    if text.isEmpty then []
    else
      let blanks := text.takeWhile isBlank
      let word := (text.drop blanks.length).takeWhile (!isBlank ·)
      (blanks ++ word) :: blankFields (text.drop (blanks.length + word.length)) fuel

/-- The number at the front of a text, in units of a billionth. -/
def numericValue (text : Text) : Int :=
  let start := text.dropWhile isSpace
  let isNegative := start.head? == some '-'
  let body := if isNegative then start.drop 1 else start
  let whole := body.takeWhile Char.isDigit
  let after := body.drop whole.length
  let part := if after.head? == some '.' then (after.drop 1).takeWhile Char.isDigit else []
  let places := (part ++ List.replicate 9 '0').take 9
  let n : Int := numberOf (whole ++ places)
  if isNegative then -n else n

namespace SortKey

/-- The part of a line that a key looks at. -/
def part (key : SortKey) (separator : Option Char) (line : Text) : Text :=
  match key.fields with
  | none => line
  | some (first, last) =>
    let fields := match separator with
      | some c => line.splitOn c
      | none => blankFields line (line.length + 1)
    let wanted := fields.drop (first - 1)
    let wanted := match last with
      | some last => wanted.take (last + 1 - first)
      | none => wanted
    match separator with
    | some c => joined [c] wanted
    | none => wanted.flatten

/-- How two lines compare. -/
def compare (key : SortKey) (separator : Option Char) (a b : Text) : Ordering :=
  let prepare (line : Text) : Text :=
    let text := key.part separator line
    let text := if key.skipsBlanks then text.dropWhile isBlank else text
    if key.foldsCase then text.map Char.toUpper else text
  let found :=
    if key.isNumeric then
      Ord.compare (numericValue (key.part separator a)) (numericValue (key.part separator b))
    else if isBefore (prepare a) (prepare b) then .lt
    else if isBefore (prepare b) (prepare a) then .gt
    else .eq
  if key.isReverse then found.swap else found

/-- The key that an argument describes; flags of its own take the place of the usual ones. -/
def ofText? (usual : SortKey) (text : Text) : Option SortKey :=
  let first := text.takeWhile Char.isDigit
  let skipPlace (text : Text) : Text :=
    if text.head? == some '.' then (text.drop 1).dropWhile Char.isDigit else text
  let rest := skipPlace (text.drop first.length)
  let flags := rest.takeWhile Char.isAlpha
  let rest := rest.drop flags.length
  let last := if rest.head? == some ',' then (rest.drop 1).takeWhile Char.isDigit else []
  let after := skipPlace (rest.drop (last.length + 1))
  let flags := flags ++ after
  match number? first with
  | none => none
  | some n =>
    let fields := some (n, number? last)
    if flags.isEmpty then some { usual with fields := fields }
    else
      some ⟨fields, flags.contains 'n', flags.contains 'r', flags.contains 'f',
        flags.contains 'b'⟩

end SortKey

/-- Whether a line may stand before another one, by several keys and at last by their bytes. -/
def mayPrecede (keys : List SortKey) (separator : Option Char) (isReverse isStable : Bool)
    (a b : Text) : Bool :=
  match keys.map (·.compare separator a b) |>.find? (· != .eq) with
  | some found => found == .lt
  | none => isStable || (if isReverse then !isBefore a b else !isBefore b a)

/-- Lines of which no two next to each other are equal. -/
def withoutRepeats (isSame : Text → Text → Bool) : List Text → List Text
  | [] => []
  | line :: rest =>
    match withoutRepeats isSame rest with
    | next :: more => if isSame line next then line :: more else line :: next :: more
    | [] => [line]

/-- Sorts lines. -/
def sort : ShellM Nat :=
  withOptions 2
    ([⟨'n', "numeric-sort", false⟩, ⟨'r', "reverse", false⟩, ⟨'u', "unique", false⟩,
      ⟨'f', "ignore-case", false⟩, ⟨'b', "ignore-leading-blanks", false⟩, ⟨'s', "stable", false⟩,
      ⟨'k', "key", true⟩, ⟨'t', "field-separator", true⟩]) false fun u => do
    let usual : SortKey := ⟨none, u.has 'n', u.has 'r', u.has 'f', u.has 'b'⟩
    let separator := (u.argument? 't').bind List.head?
    let given := (u.chosen.filter (·.1 == 'k')).map (·.2)
    let keys := given.filterMap (SortKey.ofText? usual)
    let keys := if keys.isEmpty then [usual] else keys
    let (inputs, status) ← joinedInputs u.operands 2 fun path fault =>
      sayFault ("cannot read: ".toList ++ path) fault
    if status != 0 then return status
    let lines := inputs.flatMap linesOf
    let isStable := u.has 's' || u.has 'u'
    let sorted := lines.mergeSort (mayPrecede keys separator (u.has 'r') isStable)
    let isSame (a b : Text) : Bool := keys.all fun key => key.compare separator a b == .eq
    ShellM.print (unlines (if u.has 'u' then withoutRepeats isSame sorted else sorted))
    return 0

/-! ### Repeated lines -/

/-- Groups of equal lines next to each other, with their sizes. -/
def groups (isSame : Text → Text → Bool) : List Text → List (Text × Nat)
  | [] => []
  | line :: rest =>
    match groups isSame rest with
    | (next, n) :: more =>
      if isSame line next then (line, n + 1) :: more else (line, 1) :: (next, n) :: more
    | [] => [(line, 1)]

/-- Shows lines without repeated ones. -/
def uniq : ShellM Nat :=
  withOptions 1
    [⟨'c', "count", false⟩, ⟨'d', "repeated", false⟩, ⟨'u', "unique", false⟩,
      ⟨'i', "ignore-case", false⟩] false fun u => do
    match ← inputAt (u.operands.head?.getD ['-']) with
    | .error fault =>
      sayFault (u.operands.head?.getD []) fault
      return 1
    | .ok content =>
      let fold (line : Text) : Text := if u.has 'i' then line.map Char.toUpper else line
      let found := (groups (fun a b => fold a == fold b) (linesOf content)).filter fun (_, n) =>
        (!u.has 'd' || n > 1) && (!u.has 'u' || n == 1)
      let row (line : Text) (n : Nat) : Text :=
        if u.has 'c' then
          let count := decimal n
          List.replicate (7 - count.length) ' ' ++ count ++ ' ' :: line
        else line
      ShellM.print (unlines (found.map fun (line, n) => row line n))
      return 0

/-! ### Pieces of lines -/

/-- A range of places, of which the last one may be open. -/
abbrev PlaceRange := Nat × Option Nat

/-- The ranges that a list in a text denotes. -/
def rangesOf? (text : Text) : Option (List PlaceRange) :=
  (text.splitOn ',').mapM fun part =>
    match part.splitOn '-' with
    | [n] => (number? n).map fun n => (n, some n)
    | [[], n] => (number? n).map fun n => (1, some n)
    | [n, []] => (number? n).map fun n => (n, none)
    | [a, b] => (number? a).bind fun a => (number? b).map fun b => (a, some b)
    | _ => none

/-- Whether a place is in one of the ranges. -/
def isWithin (ranges : List PlaceRange) (place : Nat) : Bool :=
  ranges.any fun (first, last) => first ≤ place && last.all (place ≤ ·)

/-- The items at places in the ranges. -/
def itemsWithin {α : Type} (ranges : List PlaceRange) (items : List α) : List α :=
  (items.zipIdx 1).filterMap fun (item, place) => if isWithin ranges place then some item else none

/-- Shows pieces of lines. -/
def cut : ShellM Nat :=
  withOptions 1
    [⟨'b', "bytes", true⟩, ⟨'c', "characters", true⟩, ⟨'f', "fields", true⟩,
      ⟨'d', "delimiter", true⟩, ⟨'s', "only-delimited", false⟩] false fun u => do
    let places := (u.argument? 'c').or (u.argument? 'b')
    let unit := if places.isSome then "byte/character positions" else "fields"
    match places.or (u.argument? 'f') with
    | none => refuse 1 "you must specify a list of bytes, characters, or fields".toList
    | some list =>
      match rangesOf? list with
      | none => refuse 1 ("invalid ".toList ++ (if places.isSome then
          "byte or character range".toList else "field range".toList))
      | some ranges =>
        if ranges.any (·.1 == 0) then
          return ← refuse 1 (unit.toList ++ " are numbered from 1".toList)
        let separator := ((u.argument? 'd').bind List.head?).getD '\t'
        let piece (line : Text) : Option Text :=
          if places.isSome then some (itemsWithin ranges line)
          else if !line.contains separator then if u.has 's' then none else some line
          else some (joined [separator] (itemsWithin ranges (line.splitOn separator)))
        forInputs u.operands 1 (fun path fault => sayFault path fault) fun _ content =>
          ShellM.print (unlines ((linesOf content).filterMap piece))

/-! ### Characters -/

/-- The characters that a set in a text names, in order.  The fuel bounds its length. -/
def characterSet (text : Text) : Nat → Text
  | 0 => []
  | fuel + 1 =>
    let single (c : Char) (rest : Text) : Text :=
      match rest with
      | '-' :: last :: rest =>
        if last == '\\' then
          let (last, rest) := escapeAt rest
          (List.range (last.toNat + 1 - c.toNat)).map (fun n => Char.ofNat (c.toNat + n)) ++
            characterSet rest fuel
        else
          (List.range (last.toNat + 1 - c.toNat)).map (fun n => Char.ofNat (c.toNat + n)) ++
            characterSet rest fuel
      | rest => c :: characterSet rest fuel
    match text with
    | [] => []
    | '[' :: ':' :: rest =>
      let name := rest.takeWhile Char.isAlpha
      if kindNames.contains name && (rest.drop name.length).take 2 == [':', ']'] then
        ((List.range 256).map Char.ofNat).filter (isOfKind name) ++
          characterSet (rest.drop (name.length + 2)) fuel
      else '[' :: characterSet (':' :: rest) fuel
    | '\\' :: rest =>
      match rest with
      | [] => ['\\']
      | c :: more =>
        let (meant, after) := escapeAt rest
        if meant == '\\' && c != '\\' then single c more else single meant after
    | c :: rest => single c rest

/-- The character that takes the place of one of a set. -/
def replacement (source target : Text) (c : Char) : Char :=
  match source.reverse.idxOf? c with
  | none => c
  | some back => (target[source.length - 1 - back]?).getD (target.getLast?.getD c)

/-- Characters of which equal ones of a set do not stand next to each other. -/
def squeezed (isSqueezed : Char → Bool) : Text → Text
  | [] => []
  | c :: rest =>
    match squeezed isSqueezed rest with
    | d :: more => if c == d && isSqueezed c then d :: more else c :: d :: more
    | [] => [c]

/-- Replaces, drops or squeezes characters. -/
def tr : ShellM Nat :=
  withOptions 1
    [⟨'d', "delete", false⟩, ⟨'s', "squeeze-repeats", false⟩, ⟨'c', "complement", false⟩,
      ⟨'C', "", false⟩, ⟨'t', "truncate-set1", false⟩] true fun u => do
    let set (text : Text) : Text := characterSet text (text.length + 1)
    let isOther := u.has 'c' || u.has 'C'
    let others (chars : Text) : Text :=
      ((List.range 256).map Char.ofNat).filter (!chars.contains ·)
    match u.operands with
    | [] => refuse 1 "missing operand".toList
    | first :: more =>
      let source := if isOther then others (set first) else set first
      let target := set (more.head?.getD [])
      if more.isEmpty && !u.has 'd' && !u.has 's' then
        say ("missing operand after ".toList ++ inQuotes first)
        ShellM.report "Two strings must be given when translating.\n".toList
        sayTry
        return 1
      match more.drop (if u.has 'd' && !u.has 's' then 0 else 1) with
      | extra :: _ =>
        say ("extra operand ".toList ++ inQuotes extra)
        if u.has 'd' && !u.has 's' then
          ShellM.report
            "Only one string may be given when deleting without squeezing repeats.\n".toList
        sayTry
        return 1
      | [] =>
        let content ← ShellM.readInput
        let kept := if u.has 'd' then content.filter (!source.contains ·) else content
        let moved := if u.has 'd' || more.isEmpty then kept
          else kept.map (replacement source target)
        let last := if more.isEmpty then source else target
        ShellM.print (if u.has 's' then squeezed last.contains moved else moved)
        return 0

/-! ### Sequences -/

/-- The integers from one to another by steps.  The fuel bounds their number. -/
def sequence (first step last : Int) : Nat → List Int
  | 0 => []
  | fuel + 1 =>
    if (step > 0 && first > last) || (step < 0 && first < last) then []
    else first :: sequence (first + step) step last fuel

/-- The greatest number of integers in a sequence. -/
def sequenceLimit : Nat := 100000

/-- Shows a sequence of integers. -/
def seq : ShellM Nat := do
  let arguments := (← ShellM.process).arguments
  -- A number with a sign is no option.
  let isNumber (text : Text) : Bool := (integer? false text).isSome
  let options := arguments.takeWhile fun text => text.head? == some '-' && !isNumber text
  let options := if (options.getLast?).any fun o => o == ['-', 's'] || o == ['-', 'f'] then
      arguments.take (options.length + 1) else options
  let operands := arguments.drop options.length
  match Usage.ofArguments
      [⟨'s', "separator", true⟩, ⟨'w', "equal-width", false⟩, ⟨'f', "format", true⟩] true
      options with
  | .error message => refuse 1 message
  | .ok u =>
    match operands.find? (!isNumber ·) with
    | some wrong =>
      refuse 1 ("invalid floating point argument: ".toList ++ inQuotes wrong)
    | none =>
      let numbers := operands.filterMap (integer? false)
      let list (first step last : Int) : ShellM Nat := do
        if step == 0 then
          return ← refuse 1 "invalid Zero increment value: '0'".toList
        let shown := (sequence first step last sequenceLimit).map integerText
        let width := if u.has 'w' then
          max (integerText first).length (integerText last).length else 0
        let padded := shown.map fun text =>
          match text with
          | '-' :: digits => '-' :: List.replicate (width - 1 - digits.length) '0' ++ digits
          | digits => List.replicate (width - digits.length) '0' ++ digits
        if !padded.isEmpty then
          ShellM.print (joined ((u.argument? 's').getD ['\n']) padded ++ ['\n'])
        return 0
      match numbers with
      | [last] => list 1 1 last
      | [first, last] => list first 1 last
      | [first, step, last] => list first step last
      | [] => refuse 1 "missing operand".toList
      | _ => refuse 1 ("extra operand ".toList ++ inQuotes ((operands[3]?).getD []))

end DiagnosticBridge.Utility
