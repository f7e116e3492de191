namespace DiagnosticBridge.Decimal

/-!
# Bounded decimal numbers

Numbers written in ASCII digits, of any length and with any leading zeros, that fit a word.

* `bounded?_toDigits` — a number is read from its decimal digits;
* `signed?_eq_some_iff` — what is read as a number.
-/

/-- The value of a character as an ASCII digit. -/
def digitValue? (c : Char) : Option Nat :=
  if '0' ≤ c ∧ c ≤ '9' then some (c.toNat - '0'.toNat) else none

/-- Reads on from the value of the digits so far. -/
def readFrom? (value : Nat) : List Char → Option Nat
  | [] => some value
  | c :: rest => (digitValue? c).bind fun d => readFrom? (value * 10 + d) rest

/-- The value of a non-empty run of ASCII digits. -/
def natural? (digits : List Char) : Option Nat :=
  if digits.isEmpty then none else readFrom? 0 digits

/-- The value of a non-empty run of ASCII digits, if it is below `bound`. -/
def bounded? (bound : Nat) (digits : List Char) : Option Nat :=
  (natural? digits).filter (· < bound)

/-- As `bounded?`, with an optional plus sign in front. -/
def signed? (bound : Nat) : List Char → Option Nat
  | '+' :: digits => bounded? bound digits
  | digits => bounded? bound digits

/-- An ASCII digit has its value. -/
theorem digitValue?_of_isDigit {c : Char} (h : c.isDigit = true) :
    digitValue? c = some (c.toNat - '0'.toNat) := by
  simp only [Char.isDigit, Bool.and_eq_true, decide_eq_true_eq] at h
  exact if_pos ⟨h.1, h.2⟩

/-- Digits are read as the number that they denote. -/
theorem readFrom?_of_isDigit {digits : List Char} (h : ∀ c ∈ digits, c.isDigit = true)
    (value : Nat) : readFrom? value digits = some (Nat.ofDigitChars 10 digits value) := by
  induction digits generalizing value with
  | nil => rw [readFrom?, Nat.ofDigitChars_nil]
  | cons c digits ih =>
    rw [List.forall_mem_cons] at h
    rw [readFrom?, digitValue?_of_isDigit h.1, Option.bind_some, ih h.2, Nat.ofDigitChars_cons,
      Nat.mul_comm]

/-- A number below the bound is read from its decimal digits. -/
theorem bounded?_toDigits {bound n : Nat} (h : n < bound) :
    bounded? bound (Nat.toDigits 10 n) = some n := by
  have hdigits : ∀ c ∈ Nat.toDigits 10 n, c.isDigit = true :=
    fun c hc => Nat.isDigit_of_mem_toDigits (by decide) (by decide) hc
  have hread : readFrom? 0 (Nat.toDigits 10 n) = some n := by
    rw [readFrom?_of_isDigit hdigits, Nat.ofDigitChars_ten_toDigits]
  have hne : (Nat.toDigits 10 n).isEmpty = false := by
    rw [List.isEmpty_eq_false_iff]
    exact Nat.toDigits_ne_nil
  simp [bounded?, natural?, hne, hread, h]

/-- The plus sign is no part of a number that is written without one. -/
theorem signed?_of_isDigit {digits : List Char} (bound : Nat)
    (h : ∀ c ∈ digits, c.isDigit = true) : signed? bound digits = bounded? bound digits := by
  unfold signed?
  split
  · exact absurd (h '+' List.mem_cons_self) (by decide)
  · rfl

/-! ### What is read as a number -/

/-- The text writes the number in ASCII digits, perhaps with a plus sign in front. -/
inductive IsNumeral (n : Nat) : List Char → Prop where
  /-- In digits only, of which the first ones may be zeros. -/
  | digits {text : List Char} (ne_nil : text ≠ []) (all_digits : ∀ c ∈ text, c.isDigit = true)
      (value : Nat.ofDigitChars 10 text 0 = n) : IsNumeral n text
  /-- With a plus sign. -/
  | plus {text : List Char} (ne_nil : text ≠ []) (all_digits : ∀ c ∈ text, c.isDigit = true)
      (value : Nat.ofDigitChars 10 text 0 = n) : IsNumeral n ('+' :: text)

/-- Nothing else is read. -/
theorem isDigit_of_readFrom? {digits : List Char} {value n : Nat}
    (h : readFrom? value digits = some n) : ∀ c ∈ digits, c.isDigit = true := by
  induction digits generalizing value with
  | nil => exact fun _ hc => nomatch hc
  | cons c digits ih =>
    obtain ⟨d, hd, hrest⟩ := Option.bind_eq_some_iff.mp h
    have hc : c.isDigit = true := by
      unfold digitValue? at hd
      split at hd
      · next hin =>
        simp only [Char.isDigit, Bool.and_eq_true, decide_eq_true_eq]
        exact hin
      · cases hd
    exact List.forall_mem_cons.mpr ⟨hc, ih hrest⟩

/-- Exactly the numerals below the bound are read. -/
theorem bounded?_eq_some_iff {bound n : Nat} {digits : List Char} :
    bounded? bound digits = some n ↔ digits ≠ [] ∧ (∀ c ∈ digits, c.isDigit = true) ∧
      Nat.ofDigitChars 10 digits 0 = n ∧ n < bound := by
  simp only [bounded?, natural?, Option.filter_eq_some_iff, decide_eq_true_eq]
  constructor
  · rintro ⟨hread, hn⟩
    split at hread
    · cases hread
    · next hne =>
      have hdigits := isDigit_of_readFrom? hread
      rw [readFrom?_of_isDigit hdigits] at hread
      exact ⟨by simpa using hne, hdigits, Option.some.inj hread, hn⟩
  · rintro ⟨hne, hdigits, rfl, hn⟩
    exact ⟨by rw [if_neg (by simpa using hne), readFrom?_of_isDigit hdigits], hn⟩

/-- So are those with a sign in front. -/
theorem signed?_eq_some_iff {bound n : Nat} {text : List Char} :
    signed? bound text = some n ↔ IsNumeral n text ∧ n < bound := by
  constructor
  · intro h
    unfold signed? at h
    split at h
    · obtain ⟨hne, hdigits, hvalue, hn⟩ := bounded?_eq_some_iff.mp h
      exact ⟨.plus hne hdigits hvalue, hn⟩
    · obtain ⟨hne, hdigits, hvalue, hn⟩ := bounded?_eq_some_iff.mp h
      exact ⟨.digits hne hdigits hvalue, hn⟩
  · rintro ⟨hnumeral, hn⟩
    cases hnumeral with
    | digits hne hdigits hvalue =>
      rw [signed?_of_isDigit bound hdigits]
      exact bounded?_eq_some_iff.mpr ⟨hne, hdigits, hvalue, hn⟩
    | plus hne hdigits hvalue => exact bounded?_eq_some_iff.mpr ⟨hne, hdigits, hvalue, hn⟩

end DiagnosticBridge.Decimal
