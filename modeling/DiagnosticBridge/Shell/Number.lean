import DiagnosticBridge.Shell.Text

namespace DiagnosticBridge.Shell

/-!
# Numbers

How a shell reads integers: after white space and a sign, as many digits as there are.  Integers
have 64 bits; arithmetic goes round at their ends.
-/

/-- The greatest integer. -/
def greatestInteger : Int := 9223372036854775807

/-- The least integer. -/
def leastInteger : Int := -9223372036854775808

/-- The integer with the same 64 lowest bits. -/
def wrapped (n : Int) : Int := (Int64.ofInt n).toInt

/-- The value of a digit. -/
def digitValue (c : Char) : Nat :=
  if c.isDigit then c.toNat - 48
  else if c.isLower then c.toNat - 87
  else if c.isUpper then c.toNat - 55
  else 99

/-- What is read at the front of a text. -/
structure ScannedInteger where
  /-- The value, within the bounds. -/
  value : Int
  /-- The value that is written, without its sign. -/
  magnitude : Nat
  /-- Whether it has a minus sign. -/
  isNegative : Bool
  /-- Whether the value that is written is beyond the bounds. -/
  isBeyond : Bool
  /-- Whether there are digits. -/
  hasDigits : Bool
  /-- What follows. -/
  rest : Text

/-- The digits of a base at the front of a text, as a number. -/
def digitsOf (base : Nat) (text : Text) : Nat × Text :=
  let digits := text.takeWhile fun c => digitValue c < base
  (digits.foldl (fun n c => n * base + digitValue c) 0, text.drop digits.length)

/-- Reads an integer at the front of a text: in base ten, or, if `isAnyBase`, also in base sixteen
    after `0x` and in base eight after `0`. -/
def scanInteger (isAnyBase : Bool) (text : Text) : ScannedInteger :=
  let start := text.dropWhile isSpace
  let isNegative := start.head? == some '-'
  let body := if isNegative || start.head? == some '+' then start.drop 1 else start
  let isHex := match body with
    | '0' :: x :: d :: _ => isAnyBase && (x == 'x' || x == 'X') && digitValue d < 16
    | _ => false
  let base := if isHex then 16 else if isAnyBase && body.head? == some '0' then 8 else 10
  let digits := if isHex then body.drop 2 else body
  let (n, rest) := digitsOf base digits
  if rest.length == digits.length then ⟨0, 0, false, false, false, text⟩
  else
    let value : Int := if isNegative then -(n : Int) else n
    let bounded := max leastInteger (min greatestInteger value)
    ⟨bounded, n, isNegative, bounded != value, true, rest⟩

/-- The integer that a text denotes, with white space around it. -/
def integer? (isAnyBase : Bool) (text : Text) : Option Int :=
  let scanned := scanInteger isAnyBase text
  if scanned.isBeyond || (!scanned.hasDigits && !isAnyBase) then none
  else
    let rest := if scanned.hasDigits then scanned.rest else text
    if rest.all isSpace then some scanned.value else none

/-- The number that a text denotes where statuses, counts and the like are asked for. -/
def count? (text : Text) : Option Nat :=
  match integer? false text with
  | some n => if 0 ≤ n && n ≤ 2147483647 then some n.toNat else none
  | none => none

end DiagnosticBridge.Shell
