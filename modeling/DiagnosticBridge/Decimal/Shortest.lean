import DiagnosticBridge.Decimal.Binary64

namespace DiagnosticBridge.Decimal

/-!
# Shortest decimal digits

The digits printed for a double are the fewest that read back as it, and of those the nearest to
it; of two that are equally near, the even one.  On the decimal grid of one digit more after the
other, the double's two neighbours are tested for lying in the interval of reals that round to the
double.
-/

/-- A positive decimal number: `digits · 10 ^ exponent`. -/
structure Digits where
  /-- The significant digits, as one number. -/
  digits : Nat
  /-- The place of the last digit. -/
  exponent : Int
  deriving DecidableEq, Repr

namespace Digits

/-- The same number without trailing zeros; `fuel` bounds how many are taken away. -/
def normal (x : Digits) : Nat → Digits
  | 0 => x
  | fuel + 1 =>
    if x.digits ≠ 0 ∧ x.digits % 10 = 0 then normal ⟨x.digits / 10, x.exponent + 1⟩ fuel else x

/-- The digits as text. -/
def text (x : Digits) : List Char := Nat.toDigits 10 x.digits

/-- How many digits stand before the decimal point. -/
def integerPlaces (x : Digits) : Int := x.text.length + x.exponent

end Digits

namespace Binary64

/-- The reals that round to the double, in units of a quarter of the mantissa's lowest bit: the
    least and the greatest of them, which belong to the interval iff the mantissa is even.  Below
    a power of two the doubles are twice as dense. -/
def interval (x : Binary64) : Nat × Nat :=
  let gap := if x.mantissa = twoTo 52 ∧ x.exponent ≠ leastExponent then 1 else 2
  (4 * x.mantissa - gap, 4 * x.mantissa + 2)

/-- `n · 10 ^ p` and `q · 2 ^ (e - 2)` over one denominator. -/
def commonScale (n : Nat) (p : Int) (e : Int) (q : Nat) : Nat × Nat :=
  let a := n * tenTo p.toNat * twoTo (2 - e).toNat
  let b := q * tenTo (-p).toNat * twoTo (e - 2).toNat
  (a, b)

/-- Whether `n · 10 ^ p` rounds to the double. -/
def isHit (x : Binary64) (n : Nat) (p : Int) : Bool :=
  let (low, high) := x.interval
  let (a, l) := commonScale n p x.exponent low
  let (_, h) := commonScale n p x.exponent high
  if x.mantissa % 2 = 0 then l ≤ a && a ≤ h else l < a && a < h

/-- The double in units of `10 ^ p`, as a quotient. -/
def inUnits (x : Binary64) (p : Int) : Nat × Nat :=
  (x.mantissa * tenTo (-p).toNat * twoTo x.exponent.toNat,
    tenTo p.toNat * twoTo (-x.exponent).toNat)

/-- The greatest multiple of `10 ^ p` that is not beyond the double, in units of `10 ^ p`. -/
def floorOnGrid (x : Binary64) (p : Int) : Nat :=
  let (num, den) := x.inUnits p
  num / den

/-- The multiple of `10 ^ p` nearest to the double, in units of `10 ^ p`; of two that are equally
    near the even one. -/
def nearestOnGrid (x : Binary64) (p : Int) : Nat :=
  let (num, den) := x.inUnits p
  roundQuotient num den

/-- The nearest point of the grid that rounds to the double, if one does. -/
def onGrid? (x : Binary64) (p : Int) : Option Digits :=
  let below := x.floorOnGrid p
  let first := x.nearestOnGrid p
  let second := if first = below then below + 1 else below
  if first ≠ 0 && x.isHit first p then some ⟨first, p⟩
  else if second ≠ 0 && x.isHit second p then some ⟨second, p⟩
  else none

/-- The place of the first significant digit of a double that is not zero. -/
def leadingPlace (x : Binary64) : Int :=
  let whole := x.floorOnGrid 0
  if whole ≠ 0 then (Nat.toDigits 10 whole).length - 1
  else
    match (List.range 400).find? fun (k : Nat) => x.floorOnGrid (-(k : Int)) ≠ 0 with
    | some k => -(k : Int)
    | none => -400

/-- The fewest decimal digits that read back as the double. -/
def shortest (x : Binary64) : Digits :=
  if x.isZero then ⟨0, 0⟩
  else
    let place := x.leadingPlace
    match (List.range 17).findSome? fun (k : Nat) => x.onGrid? (place - k) with
    | some found => found.normal 400
    | none => ⟨x.floorOnGrid (place - 16), place - 16⟩

end Binary64

/-- How a double is laid out as text. -/
structure Layout where
  /-- The least number of places before the decimal point written without an exponent. -/
  leastPlaces : Int
  /-- The greatest number of places before the decimal point written without an exponent. -/
  greatestPlaces : Int

namespace Layout

/-- Without an exponent: the point within the digits, or zeros up to it. -/
def positional (x : Digits) : List Char :=
  let places := x.integerPlaces
  if x.exponent ≥ 0 then x.text ++ List.replicate x.exponent.toNat '0' ++ ['.', '0']
  else if places > 0 then x.text.take places.toNat ++ '.' :: x.text.drop places.toNat
  else ['0', '.'] ++ List.replicate (-places).toNat '0' ++ x.text

/-- With an exponent: one digit before the point, and no point without a digit after it. -/
def scientific (x : Digits) : List Char :=
  let exponent := x.integerPlaces - 1
  let fraction := x.text.drop 1
  let sign := if exponent < 0 then '-' else '+'
  x.text.take 1 ++ (if fraction.isEmpty then [] else '.' :: fraction) ++
    'e' :: sign :: Nat.toDigits 10 exponent.natAbs

/-- The text of a double. -/
def render (layout : Layout) (x : Binary64) : List Char :=
  let d := x.shortest
  let sign := if x.negative then ['-'] else []
  if layout.leastPlaces ≤ d.integerPlaces ∧ d.integerPlaces ≤ layout.greatestPlaces then
    sign ++ positional d
  else sign ++ scientific d

end Layout

end DiagnosticBridge.Decimal
