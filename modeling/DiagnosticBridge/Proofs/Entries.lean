import DiagnosticBridge.Proofs.Locators
import DiagnosticBridge.Report.Undeclared

namespace DiagnosticBridge.Report

/-!
# Printed entries

One line of a list of undeclared symbols, and why it is read as it was printed.

* `skipFurtherLines_furtherLines` — of several lines only the first counts, and the advice after
  them stays as it is;
* `ofLine?_render` — a printed entry is read as an entry;
* `diagnostic_entry` — its diagnostic names the symbol and gives the advice.
-/

variable {rest : List Char}

/-- An entry as it is printed. -/
structure PrintedEntry where
  /-- What the line begins with. -/
  indent : List Char
  /-- The symbol that is not declared. -/
  symbol : List Char
  /-- Whether the word for a line has an `s`. -/
  several : Bool
  /-- The first line on which the symbol is used, counted from one. -/
  line : UInt32
  /-- The digits of the further lines. -/
  further : List (List Char)
  /-- What follows the lines. -/
  advice : List Char

namespace PrintedEntry

/-- The further lines, each after a comma. -/
def furtherLines (further : List (List Char)) : List Char :=
  further.flatMap fun digits => ',' :: ' ' :: digits

/-- Where the symbol is used, and the advice. -/
def uses (e : PrintedEntry) : List Char :=
  " used at line".toList ++ ((if e.several then ['s'] else []) ++
    ' ' :: (Nat.toDigits 10 e.line.toNat ++ (furtherLines e.further ++ e.advice)))

/-- The entry as it is printed. -/
def render (e : PrintedEntry) : List Char := e.indent ++ (e.symbol ++ e.uses)

/-- The entry that is read. -/
def entry (e : PrintedEntry) : Entry := ⟨e.symbol, Nat.toDigits 10 e.line.toNat, e.advice⟩

/-- The diagnostic that is expected: on the first line, counted from zero. -/
def diagnostic (s : Symbol) (e : PrintedEntry) : Diagnostic :=
  .onLine (if e.line = 0 then 0 else e.line - 1)
    (String.ofList (s.word.toList ++ ' ' :: e.symbol ++ " is not declared".toList ++ e.advice))

/-- The parts of the entry can be told apart. -/
structure WellFormed (e : PrintedEntry) : Prop where
  /-- The line is indented. -/
  indent_ne_nil : e.indent ≠ []
  /-- It is indented by blanks and tabs. -/
  indent_blank : ∀ c ∈ e.indent, c = ' ' ∨ c = '\t'
  /-- There is a symbol. -/
  symbol_ne_nil : e.symbol ≠ []
  /-- It has no white space. -/
  symbol_space : ∀ c ∈ e.symbol, Text.isSpace c = false
  /-- Further lines are given by digits. -/
  further_digits : ∀ digits ∈ e.further, digits ≠ [] ∧ ∀ c ∈ digits, Text.isDigit c = true
  /-- The advice has no line break. -/
  advice_line : OnOneLine e.advice
  /-- It has no white space at its end. -/
  advice_trimmed : ∀ c ∈ e.advice.getLast?, Text.isSpace c = false
  /-- It does not begin with a digit. -/
  advice_digit : ∀ c ∈ e.advice.head?, Text.isDigit c = false
  /-- It does not begin like a further line. -/
  advice_further : ∀ c more, e.advice = ',' :: ' ' :: c :: more → Text.isDigit c = false

variable {e : PrintedEntry}

/-- No digit follows a line number. -/
theorem head_furtherLines (h : e.WellFormed) (further : List (List Char)) :
    ∀ c ∈ (furtherLines further ++ e.advice).head?, Text.isDigit c = false := by
  cases further with
  | nil => exact h.advice_digit
  | cons digits further =>
    intro c hc
    have hcomma : some ',' = some c := hc
    rw [← Option.some.inj hcomma]
    decide

/-- Digits are read up to the first character that is none. -/
theorem spanDigits_digits {digits : List Char} (hdigits : ∀ c ∈ digits, Text.isDigit c = true)
    (hrest : ∀ c ∈ rest.head?, Text.isDigit c = false) :
    spanDigits (digits ++ rest) = (digits, rest) := by
  rw [spanDigits, List.takeWhile_append_of_pos hdigits, List.dropWhile_append_of_pos hdigits]
  cases rest with
  | nil => simp
  | cons c rest => simp [hrest c rfl]

/-- Further lines are passed over, and nothing after them. -/
theorem skipFurtherLines_furtherLines (h : e.WellFormed) {further : List (List Char)}
    (hfurther : ∀ digits ∈ further, digits ≠ [] ∧ ∀ c ∈ digits, Text.isDigit c = true) :
    skipFurtherLines (furtherLines further ++ e.advice) = e.advice := by
  -- Line by line: the advice after them is all that is left, and it does not look like one more.
  induction further with
  | nil =>
    show skipFurtherLines e.advice = e.advice
    unfold skipFurtherLines
    split
    · next c more hadvice => rw [h.advice_further c more hadvice, if_neg Bool.false_ne_true]
    · rfl
  | cons digits further ih =>
    rw [List.forall_mem_cons] at hfurther
    obtain ⟨⟨hne, hdigits⟩, hmore⟩ := hfurther
    cases digits with
    | nil => exact absurd rfl hne
    | cons d digits =>
      rw [List.forall_mem_cons] at hdigits
      have hspan := spanDigits_digits hdigits.2 (head_furtherLines h further)
      have hdrop := congrArg Prod.snd hspan
      have htext : furtherLines ((d :: digits) :: further) ++ e.advice =
          ',' :: ' ' :: d :: (digits ++ (furtherLines further ++ e.advice)) := by
        simp [furtherLines]
      rw [htext, skipFurtherLines, if_pos hdigits.1]
      exact (congrArg skipFurtherLines hdrop).trans (ih hmore)

/-- What is left of an entry without its indent begins with the symbol. -/
theorem trimStart_symbol (h : e.WellFormed) (rest : List Char) :
    Text.trimStart (e.indent ++ (e.symbol ++ rest)) = e.symbol ++ rest := by
  have hindent : Text.isBlank e.indent = true := by
    refine List.all_eq_true.mpr fun c hc => ?_
    rcases h.indent_blank c hc with rfl | rfl
    · decide
    · decide
  rw [Text.trimStart_append_of_isBlank hindent]
  refine Text.trimStart_eq_self fun c hc => h.symbol_space c ?_
  cases hsymbol : e.symbol with
  | nil => exact absurd hsymbol h.symbol_ne_nil
  | cons d symbol =>
    rw [hsymbol] at hc
    have hc : some d = some c := hc
    exact Option.some.inj hc ▸ List.mem_cons_self

/-- After the name of a symbol there is a blank. -/
theorem exists_uses (e : PrintedEntry) : ∃ more, e.uses = ' ' :: more := by
  have hword : " used at line".toList = ' ' :: "used at line".toList := by decide
  obtain ⟨more, huses⟩ : ∃ more, e.uses = " used at line".toList ++ more := ⟨_, rfl⟩
  rw [huses, hword, List.cons_append]
  exact ⟨_, rfl⟩

/-- Behind the words for one line or several, the first line number follows. -/
theorem after?_uses (e : PrintedEntry) :
    ∃ rest, Text.after? " used at line".toList e.uses = some rest ∧
      Text.after? [' '] (skipPlural rest) =
        some (Nat.toDigits 10 e.line.toNat ++ (furtherLines e.further ++ e.advice)) := by
  refine ⟨_, Text.after?_eq_some_iff.mpr rfl, Text.after?_eq_some_iff.mpr ?_⟩
  cases e.several
  · rfl
  · rfl

/-- The symbol goes to the first white space. -/
theorem takeWhile_symbol (h : e.WellFormed) :
    (e.symbol ++ e.uses).takeWhile (!Text.isSpace ·) = e.symbol ∧
      (e.symbol ++ e.uses).dropWhile (!Text.isSpace ·) = e.uses := by
  have hsymbol : ∀ c ∈ e.symbol, (!Text.isSpace c) = true := fun c hc => by
    rw [h.symbol_space c hc]
    rfl
  have hblank : (!Text.isSpace ' ') = false := by decide
  obtain ⟨more, huses⟩ := e.exists_uses
  rw [List.takeWhile_append_of_pos hsymbol, List.dropWhile_append_of_pos hsymbol, huses]
  simp [hblank]

/-- **A printed entry is read as an entry.** -/
theorem ofLine?_render (h : e.WellFormed) : Entry.ofLine? e.render = some e.entry := by
  have hindent : e.indent.length ≠ 0 := fun h0 => h.indent_ne_nil (List.length_eq_zero_iff.mp h0)
  have hshorter : (e.symbol ++ e.uses).length ≠ e.render.length := by
    simp only [render, List.length_append]
    omega
  obtain ⟨htake, hdrop⟩ := takeWhile_symbol h
  obtain ⟨rest, hused, hnumber⟩ := e.after?_uses
  have hspan : spanDigits (Nat.toDigits 10 e.line.toNat ++ (furtherLines e.further ++ e.advice)) =
      (Nat.toDigits 10 e.line.toNat, furtherLines e.further ++ e.advice) :=
    spanDigits_digits (fun _ hc => Text.isDigit_of_asciiDigit
      (Nat.isDigit_of_mem_toDigits (by decide) (by decide) hc)) (head_furtherLines h e.further)
  have hfurther := skipFurtherLines_furtherLines h h.further_digits
  have hsome : e.symbol.isEmpty = false := by simp [h.symbol_ne_nil]
  have htrim : Text.trimStart e.render = e.symbol ++ e.uses := trimStart_symbol h e.uses
  rw [Entry.ofLine?, htrim, if_neg hshorter, htake, hdrop, hused]
  simp [hsome, hnumber, hspan, hfurther, entry]

/-- Line numbers do not break the line. -/
theorem onOneLine_furtherLines {further : List (List Char)}
    (h : ∀ digits ∈ further, digits ≠ [] ∧ ∀ c ∈ digits, Text.isDigit c = true) :
    OnOneLine (furtherLines further) := by
  refine onOneLine_iff.mpr fun c hc => ?_
  obtain ⟨digits, hdigits, hc⟩ := List.mem_flatMap.mp hc
  have hline : OnOneLine (',' :: ' ' :: digits) := by
    rw [onOneLine_cons, onOneLine_cons]
    exact ⟨by decide, by decide, onOneLine_of_digits (h digits hdigits).2⟩
  exact onOneLine_iff.mp hline c hc

/-- A printed entry is one line. -/
theorem onOneLine_render (h : e.WellFormed) : OnOneLine e.render := by
  have hindent : OnOneLine e.indent := by
    refine onOneLine_iff.mpr fun c hc => ?_
    rcases h.indent_blank c hc with rfl | rfl
    · decide
    · decide
  have hsymbol : OnOneLine e.symbol := by
    constructor
    · exact fun hr => absurd (h.symbol_space _ hr) (by decide)
    · exact fun hn => absurd (h.symbol_space _ hn) (by decide)
  have hword : OnOneLine " used at line".toList := by decide
  have hseveral : OnOneLine (if e.several then ['s'] else []) := by cases e.several <;> decide
  have hdigits : OnOneLine (Nat.toDigits 10 e.line.toNat) := onOneLine_of_digits fun _ hc =>
    Text.isDigit_of_asciiDigit (Nat.isDigit_of_mem_toDigits (by decide) (by decide) hc)
  have huses : OnOneLine e.uses := by
    refine onOneLine_append.mpr ⟨hword, onOneLine_append.mpr ⟨hseveral, onOneLine_cons.mpr
      ⟨by decide, onOneLine_append.mpr ⟨hdigits, onOneLine_append.mpr
        ⟨onOneLine_furtherLines h.further_digits, h.advice_line⟩⟩⟩⟩⟩
  exact onOneLine_append.mpr ⟨hindent, onOneLine_append.mpr ⟨hsymbol, huses⟩⟩

/-- The diagnostic for an entry says what was printed. -/
theorem diagnostic_entry (h : e.WellFormed) (s : Symbol) :
    Entry.diagnostic s e.entry = e.diagnostic s := by
  have hadvice : Text.trimEnd e.advice = e.advice :=
    Text.trimEnd_eq_self fun c hc => h.advice_trimmed c hc
  rw [Entry.diagnostic, entry, Entry.message, lineNumber_toDigits, hadvice]
  rfl

end PrintedEntry

end DiagnosticBridge.Report
