namespace DiagnosticBridge.Decimal

/-!
# Powers

The powers of the two bases between which numbers are converted.
-/

/-- Two to the power of `n`. -/
def twoTo (n : Nat) : Nat := Nat.pow 2 n

/-- Ten to the power of `n`. -/
def tenTo (n : Nat) : Nat := Nat.pow 10 n

end DiagnosticBridge.Decimal
