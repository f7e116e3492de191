import DiagnosticBridge.Decimal.Bounded
import DiagnosticBridge.Text.Digit

namespace DiagnosticBridge.Report

/-!
# Line numbers in reports

A report names a line by a run of decimal digits of any script and any length.  Only a run of
ASCII digits whose value fits 32 bits names a line; any other run stands for line zero.
-/

/-- The line that a run of digits names, counted from one; zero if it names none. -/
def lineNumber (digits : List Char) : UInt32 :=
  UInt32.ofNat ((Decimal.bounded? UInt32.size digits).getD 0)

/-- The run of digits at the front of the text, and the text after it. -/
def spanDigits (text : List Char) : List Char × List Char :=
  (text.takeWhile Text.isDigit, text.dropWhile Text.isDigit)

/-- Cutting off the digits loses nothing. -/
theorem spanDigits_append (text : List Char) :
    (spanDigits text).1 ++ (spanDigits text).2 = text := by
  simp [spanDigits]

/-- A line number is read from its decimal digits. -/
theorem lineNumber_toDigits (n : UInt32) : lineNumber (Nat.toDigits 10 n.toNat) = n := by
  have hread : Decimal.bounded? UInt32.size (Nat.toDigits 10 n.toNat) = some n.toNat :=
    Decimal.bounded?_toDigits n.toNat_lt_size
  rw [lineNumber, hread]
  exact UInt32.ofNat_toNat

example : lineNumber ['0', '0', '7'] = 7 ∧ lineNumber ['٣'] = 0 := by decide
example : lineNumber "4294967295".toList = 4294967295 ∧ lineNumber "4294967296".toList = 0 := by
  decide +kernel

end DiagnosticBridge.Report
