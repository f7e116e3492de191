import DiagnosticBridge.Decimal.Binary64
import DiagnosticBridge.Decimal.Power
import DiagnosticBridge.Shell.Number
import DiagnosticBridge.Shell.State

namespace DiagnosticBridge.Shell

/-!
# Formatted output

Escapes with a backslash, and directives that say how arguments are written: in how many places,
with how many digits, and with which signs.
-/

/-! ### Escapes -/

/-- Whether a character is an octal digit. -/
def isOctal (c : Char) : Bool := '0' ≤ c && c ≤ '7'

/-- The character of a number modulo 256. -/
def byteChar (n : Nat) : Char := Char.ofNat (n % 256)

/-- What an escape stands for, after its backslash, and what follows. -/
def escapeAt : Text → Char × Text
  | [] => ('\\', [])
  | c :: rest =>
    match ([ ('a', '\x07'), ('b', '\x08'), ('e', '\x1b'), ('f', '\x0c'), ('n', '\n'), ('r', '\r'),
        ('t', '\t'), ('v', '\x0b'), ('\\', '\\') ] : List (Char × Char)).lookup c with
    | some meant => (meant, rest)
    | none =>
      let digits := ((c :: rest).take 3).takeWhile isOctal
      if digits.isEmpty then ('\\', c :: rest)
      else
        (byteChar (digits.foldl (fun n c => n * 8 + (c.toNat - 48)) 0),
          (c :: rest).drop digits.length)

/-- A text with its escapes replaced, and whether one of them ends all output.  The fuel bounds its
    length. -/
def escaped (text : Text) : Nat → Text × Bool
  | 0 => ([], false)
  | fuel + 1 =>
    match text with
    | [] => ([], false)
    | '\\' :: 'c' :: _ => ([], true)
    | '\\' :: rest =>
      let rest := match rest with
        | '0' :: d :: more => if isOctal d then d :: more else rest
        | _ => rest
      let (c, rest) := escapeAt rest
      let (more, stops) := escaped rest fuel
      (c :: more, stops)
    | c :: rest =>
      let (more, stops) := escaped rest fuel
      (c :: more, stops)

/-! ### Directives -/

/-- How an argument is written. -/
structure Directive where
  /-- The signs before the width. -/
  flags : Text
  /-- How many places it fills. -/
  width : Nat
  /-- How many digits or characters of it are shown. -/
  precision : Option Nat

namespace Directive

/-- Whether a sign is among the flags. -/
def has (d : Directive) (flag : Char) : Bool := d.flags.contains flag

/-- A text in its places; zeros go between its front and the rest. -/
def padded (d : Directive) (mayHaveZeros : Bool) (front text : Text) : Text :=
  let gap := d.width - (front.length + text.length)
  if d.has '-' then front ++ text ++ List.replicate gap ' '
  else if d.has '0' && mayHaveZeros then front ++ List.replicate gap '0' ++ text
  else List.replicate gap ' ' ++ front ++ text

/-- How a text is written. -/
def text (d : Directive) (argument : Text) : Text :=
  d.padded false [] (match d.precision with | some n => argument.take n | none => argument)

/-- Digits with zeros before them, as many as the precision asks for. -/
def digits (d : Directive) (n base : Nat) : Text :=
  let shown := if n == 0 && d.precision == some 0 then [] else Nat.toDigits base n
  List.replicate (d.precision.getD 1 - shown.length) '0' ++ shown

/-- The sign of a number. -/
def sign (d : Directive) (isNegative : Bool) : Text :=
  if isNegative then ['-'] else if d.has '+' then ['+'] else if d.has ' ' then [' '] else []

/-- How an integer with a sign is written. -/
def signed (d : Directive) (n : Int) : Text :=
  d.padded d.precision.isNone (d.sign (n < 0)) (d.digits n.natAbs 10)

/-- How an integer without a sign is written. -/
def unsigned (d : Directive) (conversion : Char) (n : Nat) : Text :=
  match conversion with
  | 'o' =>
    let shown := d.digits n 8
    let shown := if d.has '#' && shown.head? != some '0' then '0' :: shown else shown
    d.padded d.precision.isNone [] shown
  | 'u' => d.padded d.precision.isNone [] (d.digits n 10)
  | _ =>
    let isUpper := conversion == 'X'
    let shown := (d.digits n 16).map fun c => if isUpper then c.toUpper else c
    let front := if d.has '#' && n != 0 then ['0', conversion] else []
    d.padded d.precision.isNone front shown

/-! ### Numbers with a fraction -/

/-- A number in units of a power of ten, rounded. -/
def inUnits (x : Decimal.Binary64) (places : Int) : Nat :=
  let num := x.mantissa * Decimal.twoTo x.exponent.toNat * Decimal.tenTo places.toNat
  let den := Decimal.twoTo (-x.exponent).toNat * Decimal.tenTo (-places).toNat
  Decimal.roundQuotient num den

/-- Digits with a point before the last `places` of them. -/
def pointed (places : Nat) (showsPoint : Bool) (digits : Text) : Text :=
  let digits := List.replicate (places + 1 - digits.length) '0' ++ digits
  let whole := digits.take (digits.length - places)
  if places == 0 && !showsPoint then whole else whole ++ '.' :: digits.drop whole.length

/-- A number with a given number of digits after the point. -/
def fixed (x : Decimal.Binary64) (places : Nat) (showsPoint : Bool) : Text :=
  pointed places showsPoint (decimal (inUnits x places))

/-- The power of ten of the first digit of a number that is shown with so many more digits.  It is
    sought from a guess on downwards; the fuel bounds the number of guesses. -/
def leading (x : Decimal.Binary64) (places : Nat) (guess : Int) : Nat → Int
  | 0 => guess
  | fuel + 1 =>
    if (decimal (inUnits x (places - guess))).length ≥ places + 1 then guess
    else leading x places (guess - 1) fuel

/-- The power of ten of the first digit of a number. -/
def leadingPower (x : Decimal.Binary64) (places : Nat) : Int :=
  if x.isZero then 0 else leading x places 309 700

/-- The exponent of a number, as it is written. -/
def exponentText (power : Int) : Text :=
  let shown := decimal power.natAbs
  'e' :: (if power < 0 then '-' else '+') :: List.replicate (2 - shown.length) '0' ++ shown

/-- A number with a given number of digits after the first one, and a power of ten. -/
def scientific (x : Decimal.Binary64) (places : Nat) (showsPoint : Bool) : Text :=
  let power := leadingPower x places
  pointed places showsPoint (decimal (inUnits x (places - power))) ++ exponentText power

/-- A text with a point, without zeros at its end. -/
def withoutZeros (text : Text) : Text :=
  if text.contains '.' then
    let shown := (text.reverse.dropWhile (· == '0')).reverse
    if shown.getLast? == some '.' then shown.dropLast else shown
  else text

/-- A number with a given number of digits in all, in the shorter form. -/
def general (x : Decimal.Binary64) (precision : Nat) (keepsZeros : Bool) : Text :=
  let count := max precision 1
  let power := leadingPower x (count - 1)
  let clean (text : Text) : Text := if keepsZeros then text else withoutZeros text
  if power < -4 || power ≥ count then
    let shown := scientific x (count - 1) keepsZeros
    clean (shown.takeWhile (· != 'e')) ++ shown.dropWhile (· != 'e')
  else clean (fixed x ((count : Int) - 1 - power).toNat keepsZeros)

/-- How a number with a fraction is written. -/
def fraction (d : Directive) (conversion : Char) (x : Decimal.Binary64) : Text :=
  let precision := d.precision.getD 6
  let shown := match conversion.toLower with
    | 'f' => fixed x precision (d.has '#')
    | 'e' => scientific x precision (d.has '#')
    | _ => general x precision (d.has '#')
  let shown := if conversion.isUpper then shown.map Char.toUpper else shown
  d.padded true (d.sign x.negative) shown

end Directive

/-! ### Arguments -/

/-- The number with a fraction at the front of a text, and what follows; none if there is none. -/
def scanFraction? (text : Text) : Option (Decimal.Binary64 × Text) :=
  let start := text.dropWhile isSpace
  let isNegative := start.head? == some '-'
  let body := if isNegative || start.head? == some '+' then start.drop 1 else start
  let whole := body.takeWhile Char.isDigit
  let after := body.drop whole.length
  let part := if after.head? == some '.' then (after.drop 1).takeWhile Char.isDigit else []
  if whole.isEmpty && part.isEmpty then none
  else
    let after := if after.head? == some '.' then after.drop (part.length + 1) else after
    let (power, after) : Int × Text := match after with
      | e :: rest =>
        if e == 'e' || e == 'E' then
          let minus := rest.head? == some '-'
          let digits := (if minus || rest.head? == some '+' then rest.drop 1 else rest)
          let shown := digits.takeWhile Char.isDigit
          if shown.isEmpty then (0, after)
          else
            let n : Int := min (numberOf shown) 2000
            (if minus then -n else n, digits.drop shown.length)
        else (0, after)
      | [] => (0, [])
    let n := numberOf (whole ++ part)
    let scale := power - part.length
    let x := (Decimal.Binary64.ofQuotient? (n * Decimal.tenTo scale.toNat)
      (Decimal.tenTo (-scale).toNat)).getD Decimal.Binary64.zero
    some (x.withSign isNegative, after)

/-- What is left to do of a formatted output. -/
structure Printing where
  /-- The arguments that are left. -/
  arguments : List Text
  /-- What has been written, the latest first. -/
  output : List Text
  /-- The status in the end. -/
  status : Nat

/-- What writes formatted output. -/
abbrev Printer := StateT Printing ShellM

namespace Printer

/-- Writes a text. -/
def emit (text : Text) : Printer Unit := modify fun s => { s with output := text :: s.output }

/-- Takes the next argument. -/
def argument? : Printer (Option Text) := do
  let s ← get
  set { s with arguments := s.arguments.drop 1 }
  return s.arguments.head?

/-- Says what is wrong with an argument. -/
def complain (argument : Text) (words : String) : Printer Unit := do
  ShellM.warn (argument ++ ": ".toList ++ words.toList)
  modify fun s => { s with status := 1 }

/-- Looks at what follows the number in an argument. -/
def checkRest (argument rest : Text) (hasNumber isBeyond : Bool) : Printer Unit := do
  if !rest.isEmpty then
    complain argument
      (if hasNumber then "not completely converted" else "expected numeric value")
  else if isBeyond then complain argument "Numerical result out of range"

/-- The character after a quote, as a number. -/
def quotedValue? : Text → Option Nat
  | '"' :: rest => some ((rest.head?.getD '\x00').toNat)
  | '\'' :: rest => some ((rest.head?.getD '\x00').toNat)
  | _ => none

/-- Takes an argument that is an integer, as 64 bits. -/
def integer (isSigned : Bool) : Printer Int := do
  match ← argument? with
  | none => return 0
  | some argument =>
    match quotedValue? argument with
    | some n => return n
    | none =>
      let scanned := scanInteger true argument
      if isSigned then
        checkRest argument scanned.rest scanned.hasDigits scanned.isBeyond
        return scanned.value
      else
        let greatest := Decimal.twoTo 64 - 1
        let isBeyond := scanned.magnitude > greatest
        checkRest argument scanned.rest scanned.hasDigits isBeyond
        let n : Int := min scanned.magnitude greatest
        return if scanned.isNegative && !isBeyond then wrapped (-n) else n

/-- Takes an argument that is a number with a fraction. -/
def fraction : Printer Decimal.Binary64 := do
  match ← argument? with
  | none => return .zero
  | some argument =>
    match quotedValue? argument with
    | some n => return (Decimal.Binary64.ofNat? n).getD .zero
    | none =>
      match scanFraction? argument with
      | some (x, rest) =>
        checkRest argument rest true false
        return x
      | none =>
        checkRest argument argument false false
        return .zero

/-- A width or precision at the front of a text, or taken from an argument; and what follows. -/
def count? (text : Text) : Printer (Option Int × Text) := do
  match text with
  | '*' :: rest => return (some (← integer true), rest)
  | text =>
    let digits := text.takeWhile Char.isDigit
    return (if digits.isEmpty then none else some (numberOf digits), text.drop digits.length)

/-- The directive at the front of a text, after its percent sign, and what follows. -/
def directive (text : Text) : Printer (Directive × Text) := do
  let flags := text.takeWhile fun c => "#-+ 0".toList.contains c
  let (width, rest) ← count? (text.drop flags.length)
  let flags := if (width.getD 0) < 0 then '-' :: flags else flags
  match rest with
  | '.' :: rest =>
    let (precision, rest) ← count? rest
    let n := precision.getD 0
    return (⟨flags, (width.getD 0).natAbs, if n < 0 then none else some n.toNat⟩, rest)
  | rest => return (⟨flags, (width.getD 0).natAbs, none⟩, rest)

/-- Refuses a format. -/
def refuse (message : Text) : Printer Bool := do
  ShellM.warn message
  modify fun s => { s with status := 2 }
  return true

/-- Writes what a format says; says whether all output ends.  The fuel bounds its length. -/
def format (text : Text) : Nat → Printer Bool
  | 0 => return false
  | fuel + 1 => do
    match text with
    | [] => return false
    | '\\' :: rest =>
      let (c, rest) := escapeAt rest
      emit [c]
      format rest fuel
    | '%' :: '%' :: rest =>
      emit ['%']
      format rest fuel
    | '%' :: rest =>
      let (d, after) ← directive rest
      match after with
      | [] => refuse "missing format character".toList
      | c :: more =>
        if !"bscdiouxXeEfFgG".toList.contains c then
          let shown := '%' :: rest.take (rest.length - more.length)
          return ← refuse (shown ++ ": invalid directive".toList)
        if c == 'b' then
          let argument := (← argument?).getD []
          let (shown, stops) := escaped argument argument.length
          emit (d.text shown)
          if stops then return true
        else if c == 's' then emit (d.text ((← argument?).getD []))
        else if c == 'c' then
          let argument := (← argument?).getD []
          emit (d.padded false [] [argument.head?.getD '\x00'])
        else if c == 'd' || c == 'i' then emit (d.signed (← integer true))
        else if "ouxX".toList.contains c then
          emit (d.unsigned c ((← integer false) % 18446744073709551616).toNat)
        else emit (d.fraction c (← fraction))
        format more fuel
    | c :: rest =>
      emit [c]
      format rest fuel

/-- Writes what a format says as long as it takes arguments and there are any.  The fuel bounds
    how often. -/
def formatAll (text : Text) : Nat → Printer Unit
  | 0 => return
  | fuel + 1 => do
    let before := (← get).arguments.length
    let stops ← format text (text.length + 1)
    let after := (← get).arguments.length
    if !stops && after > 0 && after < before then formatAll text fuel

end Printer

/-- Writes arguments as a format says, and gives the status. -/
def printFormatted (format : Text) (arguments : List Text) : ShellM Nat := do
  let ((), printing) ←
    (Printer.formatAll format (arguments.length + 1)).run ⟨arguments, [], 0⟩
  ShellM.print printing.output.reverse.flatten
  return printing.status

end DiagnosticBridge.Shell
