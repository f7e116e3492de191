import DiagnosticBridge.Decimal.Binary64

namespace DiagnosticBridge.Decimal

/-!
# Doubles from decimal digits

A decimal number is read into a double in the arithmetic of doubles.  Its first digits, as many as
a word of 64 bits holds, make a natural number (`Significand.ofDigits`).  That number is rounded to
a double and then multiplied or divided by powers of ten, each of which is a rounded double too
(`Binary64.scaleByTen?`).  Every step rounds, so the result can be some units away from the double
nearest to the number.
-/

/-- The digits of a decimal number, of which only the first ones are kept. -/
structure Significand where
  /-- The number that the digits kept denote. -/
  value : Nat
  /-- How many digits were left out. -/
  omitted : Nat
  deriving DecidableEq, Repr

/-- Goes on reading digits after `value` for as long as the result is a word of 64 bits. -/
def Significand.ofDigits (value : Nat) : List Nat → Significand
  | [] => ⟨value, 0⟩
  | d :: rest =>
    if value * 10 + d < UInt64.size then ofDigits (value * 10 + d) rest
    else ⟨value, rest.length + 1⟩

namespace Binary64

/-- The greatest power of ten that is a double. -/
def greatestTen : Nat := 308

/-- The double nearest to a power of ten. -/
def powerOfTen (n : Nat) : Binary64 := (ofNat? (tenTo n)).getD zero

/-- The double times a power of ten, or none if that is beyond the greatest double.  A power that
    is no double is split off in steps. -/
def scaleByTen? (x : Binary64) (exponent : Int) : Option Binary64 :=
  if exponent.natAbs ≤ greatestTen then
    if exponent ≥ 0 then x.mul? (powerOfTen exponent.natAbs)
    else x.div? (powerOfTen exponent.natAbs)
  else if x.isZero then some x
  else if _h : exponent ≥ 0 then none
  else (x.div? (powerOfTen greatestTen)).bind (·.scaleByTen? (exponent + greatestTen))
termination_by exponent.natAbs
decreasing_by
  simp only [greatestTen] at *
  omega

/-- The double that is read for `value · 10 ^ exponent`, or none if that is too great. -/
def ofDecimal? (value : Nat) (exponent : Int) : Option Binary64 :=
  (ofNat? value).bind (·.scaleByTen? exponent)

end Binary64

end DiagnosticBridge.Decimal
