namespace DiagnosticBridge.Toml

/-!
# TOML literals

Which words are numbers, truth values, dates and times.

* `isBased`: digits in base sixteen, eight or two, which follow `0x`, `0o` or `0b`.
* `isDecimalOrMoment`: an integer in base ten without a leading zero, a decimal with a fraction or
  an exponent or both (`isFloat`), or a date, a time or both (`isMoment`).
* Single underscores may stand between digits (`underscoresFit`).

A number is not evaluated, and of the digits between underscores only those beside an underscore
are looked at.
-/

/-- Whether a character is a digit of a base. -/
def isDigitOf (base : Nat) (c : Char) : Bool :=
  if c.isDigit then decide (c.toNat - 48 < base)
  else base == 16 && (('a' ≤ c && c ≤ 'f') || ('A' ≤ c && c ≤ 'F'))

/-- The parts of a word between its underscores. -/
def splitUnderscores : List Char → List (List Char)
  | [] => [[]]
  | c :: rest =>
    let parts := splitUnderscores rest
    if c = '_' then [] :: parts else (c :: parts.headD []) :: parts.tail

/-- Whether the parts after an underscore each begin with a digit, and all but the last one end
    with a digit. -/
def areJoined (base : Nat) : List (List Char) → Bool
  | [] => true
  | [part] => part.head?.any (isDigitOf base)
  | part :: rest =>
    part.head?.any (isDigitOf base) && part.getLast?.any (isDigitOf base) && areJoined base rest

/-- Whether underscores stand between digits only. -/
def underscoresFit (base : Nat) (cs : List Char) : Bool :=
  match splitUnderscores cs with
  | [] => true
  | [_] => true
  | first :: rest => first.getLast?.any (isDigitOf base) && areJoined base rest

/-- Whether a character is a digit or an underscore. -/
def isDigitPlace (c : Char) : Bool := c.isDigit || c == '_'

/-- The text after a run of decimal digits and underscores that has at least one digit, and no
    leading zero unless `zeros`; nothing if there is no such run. -/
def digits? (zeros : Bool) (cs : List Char) : Option (List Char) :=
  let run := cs.takeWhile isDigitPlace
  let count := run.countP Char.isDigit
  if count = 0 || (!zeros && count > 1 && run.head? == some '0') then none
  else some (cs.dropWhile isDigitPlace)

/-- The text after a fraction, if it begins with one. -/
def fraction? : List Char → Option (List Char)
  | '.' :: rest => digits? true rest
  | cs => some cs

/-- The text after a sign, if it begins with one. -/
def unsigned : List Char → List Char
  | '+' :: rest => rest
  | '-' :: rest => rest
  | cs => cs

/-- The text after an exponent, if it begins with one. -/
def exponent? : List Char → Option (List Char)
  | 'e' :: rest => digits? true (unsigned rest)
  | 'E' :: rest => digits? true (unsigned rest)
  | cs => some cs

/-- Whether a word without sign is made as a floating-point number. -/
def isFloat (cs : List Char) : Bool :=
  ((digits? false cs).bind fraction?).bind exponent? == some []

/-- Whether the digits after the mark of a base are digits of that base.  There may be none. -/
def isBased (base : Nat) (digits : List Char) : Bool :=
  digits.all (fun c => isDigitOf base c || c == '_') &&
    (digits.isEmpty || areJoined 16 (splitUnderscores digits))

/-- The number that two digits denote. -/
def twoDigits? : List Char → Option Nat
  | [a, b] => if a.isDigit && b.isDigit then some ((a.toNat - 48) * 10 + (b.toNat - 48)) else none
  | _ => none

/-- How many days a month has. -/
def monthLength (year month : Nat) : Nat :=
  if month = 2 then
    if year % 4 = 0 ∧ (year % 100 ≠ 0 ∨ year % 400 = 0) then 29 else 28
  else if month = 4 ∨ month = 6 ∨ month = 9 ∨ month = 11 then 30
  else 31

/-- Whether a word is a date. -/
def isDate : List Char → Bool
  | [a, b, c, d, '-', e, f, '-', g, h] =>
    match twoDigits? [a, b], twoDigits? [c, d], twoDigits? [e, f], twoDigits? [g, h] with
    | some century, some year, some month, some day =>
      1 ≤ month && month ≤ 12 && 1 ≤ day && day ≤ monthLength (century * 100 + year) month
    | _, _, _, _ => false
  | _ => false

/-- Whether a word is an hour and a minute. -/
def isHourMinute : List Char → Bool
  | [a, b, ':', c, d] =>
    (twoDigits? [a, b]).any (· < 24) && (twoDigits? [c, d]).any (· < 60)
  | _ => false

/-- Whether a word is what may follow the minute: a second and parts of it, or nothing. -/
def isSecond : List Char → Bool
  | [] => true
  | ':' :: a :: b :: rest =>
    (twoDigits? [a, b]).any (· ≤ 60) &&
      match rest with
      | [] => true
      | '.' :: part => !part.isEmpty && part.all Char.isDigit
      | _ => false
  | _ => false

/-- Whether a word is a time of day. -/
def isTime (cs : List Char) : Bool := isHourMinute (cs.take 5) && isSecond (cs.drop 5)

/-- Whether a word is a time of day, perhaps with an offset from universal time. -/
def isZonedTime (cs : List Char) : Bool :=
  isTime cs ||
    match cs.span fun c => c.isDigit || c == ':' || c == '.' with
    | (time, ['Z']) => isTime time
    | (time, ['z']) => isTime time
    | (time, '+' :: offset) => isTime time && isHourMinute offset
    | (time, '-' :: offset) => isTime time && isHourMinute offset
    | _ => false

/-- Whether a word is a date, a time or both. -/
def isMoment (cs : List Char) : Bool :=
  isDate cs || isTime cs ||
    isDate (cs.take 10) && ['T', 't', ' '].contains ((cs[10]?).getD 'x') && isZonedTime (cs.drop 11)

/-- Whether a word is a decimal number or a moment, and `cs` what follows its sign.  What
    follows the first digits tells which of them it is. -/
def isDecimalOrMoment (word cs : List Char) : Bool :=
  let rest := cs.dropWhile Char.isDigit
  match rest with
  | [] => cs.head? != some '0'
  | '-' :: _ => isMoment word
  | ':' :: _ => isMoment word
  | c :: _ =>
    if rest.contains ' ' then false
    else if rest.any ['.', 'e', 'E'].contains then isFloat cs && underscoresFit 10 word
    else c == '_' && cs.head? != some '0' && underscoresFit 16 word

/-- Whether a word is a number or a moment, and `cs` what follows its sign. -/
def isNumeric (word cs : List Char) : Bool :=
  match cs with
  | ['0'] => true
  | '0' :: 'x' :: digits => word == cs && isBased 16 digits
  | '0' :: 'o' :: digits => word == cs && isBased 8 digits
  | '0' :: 'b' :: digits => word == cs && isBased 2 digits
  | c :: _ => c.isDigit && isDecimalOrMoment word cs
  | [] => false

/-- Whether a word is a literal. -/
def isLiteral (cs : List Char) : Bool :=
  cs == ['t', 'r', 'u', 'e'] || cs == ['f', 'a', 'l', 's', 'e'] ||
    unsigned cs == ['i', 'n', 'f'] || unsigned cs == ['n', 'a', 'n'] || isNumeric cs (unsigned cs)

end DiagnosticBridge.Toml
