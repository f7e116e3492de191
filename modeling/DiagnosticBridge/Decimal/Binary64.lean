import DiagnosticBridge.Decimal.Power

namespace DiagnosticBridge.Decimal

/-!
# Double-precision numbers

The finite numbers of the 64-bit binary floating-point format, as a sign, a mantissa and an
exponent.  A number that is not of the format is rounded to the nearest that is, a tie to the even
mantissa.

* `roundQuotient` — the quotient of two integers, rounded to the nearest integer;
* `Binary64.ofQuotient?` — the quotient of two integers, rounded to the nearest double;
* `Binary64.mul?`, `Binary64.div?` — the product and the quotient of two doubles, rounded.
-/

/-- The quotient rounded to the nearest integer, a tie to the even one. -/
def roundQuotient (num den : Nat) : Nat :=
  let q := num / den
  let r := num % den
  if 2 * r > den || (2 * r == den && q % 2 == 1) then q + 1 else q

/-- A finite double: `± mantissa · 2 ^ exponent`, where the mantissa has at most 53 bits, and has
    exactly 53 unless the exponent is the least one. -/
structure Binary64 where
  /-- Whether the sign is a minus; zero has a sign too. -/
  negative : Bool
  /-- The mantissa. -/
  mantissa : Nat
  /-- The exponent of the mantissa's lowest bit. -/
  exponent : Int
  deriving DecidableEq, Repr

namespace Binary64

/-- The least exponent. -/
def leastExponent : Int := -1074

/-- The greatest exponent. -/
def greatestExponent : Int := 971

/-- Zero, with a plus sign. -/
def zero : Binary64 := ⟨false, 0, leastExponent⟩

/-- Whether the number is zero, of either sign. -/
def isZero (x : Binary64) : Bool := x.mantissa == 0

/-- The fraction `num · 2 ^ e / den` as a quotient of natural numbers. -/
def shifted (num den : Nat) (e : Int) : Nat × Nat :=
  if e ≥ 0 then (num * twoTo e.toNat, den) else (num, den * twoTo (-e).toNat)

/-- The exponent of the double nearest to `num / den`, not below the least one. -/
def exponentFor (num den : Nat) : Int :=
  let guess : Int := max leastExponent ((num.log2 : Int) - (den.log2 : Int) - 53)
  let (n, d) := shifted num den (-guess)
  if n / d ≥ twoTo 53 then guess + 1 else guess

/-- The double nearest to `num / den`, or none if that is beyond the greatest one. -/
def ofQuotient? (num den : Nat) : Option Binary64 :=
  if num = 0 then some zero
  else
    let e := exponentFor num den
    let (n, d) := shifted num den (-e)
    let m := roundQuotient n d
    let (m, e) := if m = twoTo 53 then (twoTo 52, e + 1) else (m, e)
    if e > greatestExponent then none else some ⟨false, m, e⟩

/-- The double with the other sign if `minus`. -/
def withSign (x : Binary64) (minus : Bool) : Binary64 := { x with negative := x.negative ^^ minus }

/-- The double nearest to a natural number. -/
def ofNat? (n : Nat) : Option Binary64 := ofQuotient? n 1

/-- The double nearest to the product. -/
def mul? (x y : Binary64) : Option Binary64 :=
  let (num, den) := shifted (x.mantissa * y.mantissa) 1 (x.exponent + y.exponent)
  (ofQuotient? num den).map (·.withSign (x.negative ^^ y.negative))

/-- The double nearest to the quotient by a number that is not zero. -/
def div? (x y : Binary64) : Option Binary64 :=
  let (num, den) := shifted x.mantissa y.mantissa (x.exponent - y.exponent)
  (ofQuotient? num den).map (·.withSign (x.negative ^^ y.negative))

end Binary64

end DiagnosticBridge.Decimal
