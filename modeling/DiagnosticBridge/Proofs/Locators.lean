import DiagnosticBridge.Report.Located

namespace DiagnosticBridge.Report

/-!
# Locators

What a locator is, said without a reader: one text out of a set of texts.  The functions that look
for locators in a report are shown to find exactly these.

* `locator?_eq_some_iff` — the locator at the front of a text;
* `cutAtLocator?_eq_some_iff`, `cutAtLocator?_eq_none_iff` — the first locator in a text.
-/

variable {text rest digits line : List Char} {c : Char}

/-! ### Lines -/

/-- A line break: a line feed, with or without a carriage return before it. -/
inductive IsBreak : List Char → Prop where
  | lf : IsBreak ['\n']
  | crlf : IsBreak ['\r', '\n']

/-- Text without carriage returns and line feeds. -/
def OnOneLine (text : List Char) : Prop := '\r' ∉ text ∧ '\n' ∉ text

instance (text : List Char) : Decidable (OnOneLine text) :=
  inferInstanceAs (Decidable ('\r' ∉ text ∧ '\n' ∉ text))

/-- The text is empty or begins with a carriage return or a line feed. -/
def EndsLine (text : List Char) : Prop := ∀ c ∈ text.head?, c = '\r' ∨ c = '\n'

theorem staysOnLine_iff : staysOnLine c = true ↔ c ≠ '\r' ∧ c ≠ '\n' := by
  simp [staysOnLine, Text.isLineBreak]

theorem onOneLine_iff : OnOneLine text ↔ ∀ c ∈ text, staysOnLine c = true := by
  constructor
  · rintro ⟨hr, hn⟩ c hc
    exact staysOnLine_iff.mpr ⟨fun h => hr (h ▸ hc), fun h => hn (h ▸ hc)⟩
  · intro h
    exact ⟨fun hr => (staysOnLine_iff.mp (h _ hr)).1 rfl,
      fun hn => (staysOnLine_iff.mp (h _ hn)).2 rfl⟩

/-- Text that is put together is on one line if its parts are. -/
theorem onOneLine_append {a b : List Char} :
    OnOneLine (a ++ b) ↔ OnOneLine a ∧ OnOneLine b := by
  simp only [onOneLine_iff, List.mem_append, or_imp, forall_and]

theorem onOneLine_cons : OnOneLine (c :: text) ↔ staysOnLine c = true ∧ OnOneLine text := by
  simp only [onOneLine_iff, List.mem_cons, forall_eq_or_imp]

/-- A line break ends a line. -/
theorem endsLine_break {br : List Char} (h : IsBreak br) (rest : List Char) :
    EndsLine (br ++ rest) := by
  cases h <;> simp [EndsLine]

theorem not_staysOnLine_of_endsLine (h : EndsLine (c :: rest)) : staysOnLine c = false := by
  rcases h c rfl with rfl | rfl <;> decide

/-- A line is what a text goes on with up to the end of the line. -/
theorem takeWhile_line (hline : OnOneLine line) (hrest : EndsLine rest) :
    (line ++ rest).takeWhile staysOnLine = line := by
  rw [List.takeWhile_append_of_pos (onOneLine_iff.mp hline)]
  cases rest with
  | nil => simp
  | cons c rest => simp [not_staysOnLine_of_endsLine hrest]

/-- Taking a line off a text leaves what ends it. -/
theorem dropWhile_line (hline : OnOneLine line) (hrest : EndsLine rest) :
    (line ++ rest).dropWhile staysOnLine = rest := by
  rw [List.dropWhile_append_of_pos (onOneLine_iff.mp hline)]
  cases rest with
  | nil => simp
  | cons c rest => simp [not_staysOnLine_of_endsLine hrest]

/-- What is taken up to a line break is on one line. -/
theorem onOneLine_takeWhile (text : List Char) : OnOneLine (text.takeWhile staysOnLine) :=
  onOneLine_iff.mpr fun _ hc => List.all_eq_true.mp List.all_takeWhile _ hc

/-- What is left ends the line. -/
theorem endsLine_dropWhile (text : List Char) : EndsLine (text.dropWhile staysOnLine) := by
  intro c hc
  have hstops := List.head?_dropWhile_not staysOnLine text
  rw [Option.mem_def.mp hc] at hstops
  have hstops : staysOnLine c = false := hstops
  simp only [staysOnLine, Text.isLineBreak, Bool.not_eq_false', Bool.or_eq_true, beq_iff_eq]
    at hstops
  exact hstops

/-- A line break is taken off the front exactly if one stands there. -/
theorem afterLineBreak?_eq_some_iff :
    Text.afterLineBreak? text = some rest ↔ ∃ br, IsBreak br ∧ text = br ++ rest := by
  constructor
  · intro h
    unfold Text.afterLineBreak? at h
    split at h
    · exact ⟨_, .lf, by rw [← Option.some.inj h]; rfl⟩
    · exact ⟨_, .crlf, by rw [← Option.some.inj h]; rfl⟩
    · cases h
  · rintro ⟨br, hb, rfl⟩
    cases hb <;> rfl

/-! ### Locators -/

/-- A locator and the digits of its line: a line break, `at `, a file, a colon, the digits, a line
    break and the arrow.  The file is some text on one line and may contain colons. -/
inductive IsLocator : List Char → List Char → Prop where
  | intro {before file digits after : List Char} (before_break : IsBreak before)
      (file_ne_nil : file ≠ []) (file_line : OnOneLine file) (digits_ne_nil : digits ≠ [])
      (digits_all : ∀ c ∈ digits, Text.isDigit c = true) (after_break : IsBreak after) :
      IsLocator (before ++ "at ".toList ++ file ++ ':' :: digits ++ after ++ "------>".toList)
        digits

/-- A locator begins where the text begins. -/
def BeginsLocator (text : List Char) : Prop :=
  ∃ locator digits rest, IsLocator locator digits ∧ text = locator ++ rest

theorem IsLocator.ne_nil {locator : List Char} (h : IsLocator locator digits) : locator ≠ [] := by
  cases h with
  | intro before_break =>
    cases before_break <;> simp

/-- Digits do not break a line. -/
theorem onOneLine_of_digits (h : ∀ c ∈ digits, Text.isDigit c = true) : OnOneLine digits := by
  constructor
  · intro hr
    exact absurd (h _ hr) (by decide)
  · intro hn
    exact absurd (h _ hn) (by decide)

/-- Neither does a file with a line number. -/
theorem onOneLine_place {file : List Char} (hfile : OnOneLine file)
    (hdigits : ∀ c ∈ digits, Text.isDigit c = true) : OnOneLine (file ++ ':' :: digits) :=
  onOneLine_append.mpr
    ⟨hfile, onOneLine_cons.mpr ⟨by decide, onOneLine_of_digits hdigits⟩⟩

/-- The digits are those after the last colon. -/
theorem locatedDigits?_eq_some_iff :
    locatedDigits? line = some digits ↔
      digits ≠ [] ∧ (∀ c ∈ digits, Text.isDigit c = true) ∧
        ∃ file, file ≠ [] ∧ line = file ++ ':' :: digits := by
  constructor
  · intro h
    have hline := spanDigits_append line.reverse
    have hall : ∀ c ∈ (spanDigits line.reverse).1, Text.isDigit c = true :=
      fun c hc => List.all_eq_true.mp List.all_takeWhile c hc
    -- The line is read from its end, so that the parts come out reversed.
    unfold locatedDigits? at h
    generalize spanDigits line.reverse = cutting at h hline hall
    obtain ⟨found, fromEnd⟩ := cutting
    dsimp only at h hline hall
    split at h
    · next x more =>
      split at h
      · cases h
      · next hne =>
        rw [← Option.some.inj h]
        refine ⟨by simpa using hne, fun c hc => hall c (List.mem_reverse.mp hc),
          (x :: more).reverse, by simp, ?_⟩
        rw [← List.reverse_reverse line, ← hline]
        simp
    · cases h
  · rintro ⟨hne, hall, file, hfile, rfl⟩
    have hall' : ∀ c ∈ digits.reverse, Text.isDigit c = true :=
      fun c hc => hall c (List.mem_reverse.mp hc)
    have hspan : spanDigits (file ++ ':' :: digits).reverse =
        (digits.reverse, ':' :: file.reverse) := by
      have hcolon : Text.isDigit ':' = false := by decide
      rw [spanDigits, List.reverse_append, List.reverse_cons, List.append_assoc,
        List.takeWhile_append_of_pos hall', List.dropWhile_append_of_pos hall']
      simp [hcolon]
    cases hrev : file.reverse with
    | nil => exact absurd (List.reverse_eq_nil_iff.mp hrev) hfile
    | cons x more =>
      rw [hrev] at hspan
      unfold locatedDigits?
      rw [hspan]
      simp [hne]

/-- **Reading a locator.** What is read at the front of a text is a locator there. -/
theorem locator?_eq_some_iff :
    locator? text = some (digits, rest) ↔
      ∃ locator, IsLocator locator digits ∧ text = locator ++ rest := by
  constructor
  · intro h
    simp only [locator?, bind, Option.bind_eq_some_iff] at h
    obtain ⟨afterBreak, hbefore, place, hat, found, hdigits, arrow, hafter, tail, harrow, heq⟩ := h
    simp only [Option.some.injEq, Prod.mk.injEq] at heq
    obtain ⟨rfl, rfl⟩ := heq
    obtain ⟨before, hb, rfl⟩ := afterLineBreak?_eq_some_iff.mp hbefore
    -- The place is one line by the way it is read, and so is the file in it.
    obtain ⟨hne, hall, file, hfile, hline⟩ := locatedDigits?_eq_some_iff.mp hdigits
    obtain ⟨after, ha, hrest⟩ := afterLineBreak?_eq_some_iff.mp hafter
    have hone : OnOneLine file :=
      (onOneLine_append.mp (hline ▸ onOneLine_takeWhile place)).1
    refine ⟨_, .intro hb hfile hone hne hall ha, ?_⟩
    rw [← Text.after?_eq_some_iff.mp hat, ← List.takeWhile_append_dropWhile (p := staysOnLine)
      (l := place), hline, hrest, ← Text.after?_eq_some_iff.mp harrow]
    simp only [List.append_assoc]
  · rintro ⟨locator, hloc, rfl⟩
    cases hloc with
    | @intro before file _ after hb hfile hone hne hall ha =>
      -- Nothing but the line break ends the place, so that all of it is read.
      have hplace : OnOneLine (file ++ ':' :: digits) := onOneLine_place hone hall
      have hends : EndsLine (after ++ ("------>".toList ++ rest)) := endsLine_break ha _
      have hdigits : locatedDigits? (file ++ ':' :: digits) = some digits :=
        locatedDigits?_eq_some_iff.mpr ⟨hne, hall, file, hfile, rfl⟩
      simp only [locator?, bind, Option.bind_eq_some_iff]
      refine ⟨"at ".toList ++ (file ++ ':' :: digits ++ (after ++ ("------>".toList ++ rest))),
        afterLineBreak?_eq_some_iff.mpr ⟨before, hb, by simp only [List.append_assoc]⟩,
        file ++ ':' :: digits ++ (after ++ ("------>".toList ++ rest)),
        Text.after?_eq_some_iff.mpr rfl, digits, ?_, "------>".toList ++ rest, ?_, rest,
        Text.after?_eq_some_iff.mpr rfl, rfl⟩
      · rw [takeWhile_line hplace hends, hdigits]
      · rw [dropWhile_line hplace hends]
        exact afterLineBreak?_eq_some_iff.mpr ⟨after, ha, rfl⟩

/-- No locator is read where none begins. -/
theorem locator?_eq_none_iff : locator? text = none ↔ ¬ BeginsLocator text := by
  rw [Option.eq_none_iff_forall_ne_some]
  constructor
  · rintro h ⟨locator, digits, rest, hloc, heq⟩
    exact h (digits, rest) (locator?_eq_some_iff.mpr ⟨locator, hloc, heq⟩)
  · rintro h ⟨digits, rest⟩ hsome
    obtain ⟨locator, hloc, heq⟩ := locator?_eq_some_iff.mp hsome
    exact h ⟨locator, digits, rest, hloc, heq⟩

/-- A text that begins with a locator is cut there. -/
theorem cutAtLocator?_of_locator {after : List Char}
    (h : locator? (c :: text) = some (digits, after)) :
    cutAtLocator? (c :: text) = some (⟨[], digits⟩, after) := by
  rw [cutAtLocator?, h]

/-- Otherwise its first character is part of the finding. -/
theorem cutAtLocator?_of_no_locator (h : locator? (c :: text) = none) :
    cutAtLocator? (c :: text) = (cutAtLocator? text).map fun cutting =>
      ({ cutting.1 with finding := c :: cutting.1.finding }, cutting.2) := by
  rw [cutAtLocator?, h]

/-- **Finding a locator.** A text is cut at its first locator. -/
theorem cutAtLocator?_eq_some_iff {block : Located} :
    cutAtLocator? text = some (block, rest) ↔
      ∃ locator, IsLocator locator block.digits ∧ text = block.finding ++ locator ++ rest ∧
        ∀ n < block.finding.length, ¬ BeginsLocator (text.drop n) := by
  induction text generalizing block with
  | nil =>
    constructor
    · intro h
      cases h
    · rintro ⟨locator, hloc, heq, _⟩
      simp [hloc.ne_nil] at heq
  | cons c text ih =>
    cases hhere : locator? (c :: text) with
    | some read =>
      -- The text begins with a locator, so that nothing stands before it.
      obtain ⟨digits, after⟩ := read
      rw [cutAtLocator?_of_locator hhere]
      constructor
      · intro h
        obtain ⟨rfl, rfl⟩ := Prod.mk.inj (Option.some.inj h)
        obtain ⟨locator, hloc, heq⟩ := locator?_eq_some_iff.mp hhere
        exact ⟨locator, hloc, heq, fun n hn => absurd hn (Nat.not_lt_zero n)⟩
      · rintro ⟨locator, hloc, heq, hfirst⟩
        obtain ⟨finding, digits'⟩ := block
        cases finding with
        | nil =>
          have hread := locator?_eq_some_iff.mpr ⟨locator, hloc, heq⟩
          obtain ⟨rfl, rfl⟩ := Prod.mk.inj (Option.some.inj (hhere.symm.trans hread))
          rfl
        | cons d finding =>
          have hnot : ¬ BeginsLocator (c :: text) := hfirst 0 (Nat.succ_pos _)
          rw [locator?_eq_none_iff.mpr hnot] at hhere
          cases hhere
    | none =>
      -- The first character stands before the locator, whatever follows it.
      have hnot := locator?_eq_none_iff.mp hhere
      rw [cutAtLocator?_of_no_locator hhere, Option.map_eq_some_iff]
      constructor
      · rintro ⟨⟨inner, after⟩, hinner, heq⟩
        obtain ⟨rfl, rfl⟩ := Prod.mk.inj heq
        obtain ⟨locator, hloc, htext, hfirst⟩ := ih.mp hinner
        refine ⟨locator, hloc, by rw [htext]; rfl, ?_⟩
        rintro (_ | n) hn
        · exact hnot
        · exact hfirst n (Nat.lt_of_succ_lt_succ hn)
      · rintro ⟨locator, hloc, heq, hfirst⟩
        obtain ⟨finding, digits⟩ := block
        cases finding with
        | nil => exact absurd ⟨locator, digits, rest, hloc, heq⟩ hnot
        | cons d finding =>
          obtain ⟨rfl, htext⟩ := List.cons.inj heq
          exact ⟨(⟨finding, digits⟩, rest), ih.mpr ⟨locator, hloc, htext,
            fun n hn => hfirst (n + 1) (Nat.succ_lt_succ hn)⟩, rfl⟩

/-- A text is not cut exactly if no locator begins anywhere in it. -/
theorem cutAtLocator?_eq_none_iff :
    cutAtLocator? text = none ↔ ∀ n, ¬ BeginsLocator (text.drop n) := by
  induction text with
  | nil =>
    refine iff_of_true rfl fun n => ?_
    rw [List.drop_nil]
    exact locator?_eq_none_iff.mp rfl
  | cons c text ih =>
    cases hhere : locator? (c :: text) with
    | some read =>
      rw [cutAtLocator?_of_locator hhere]
      refine iff_of_false (by simp) fun h => ?_
      have hnot : ¬ BeginsLocator (c :: text) := h 0
      rw [locator?_eq_none_iff.mpr hnot] at hhere
      cases hhere
    | none =>
      rw [cutAtLocator?_of_no_locator hhere, Option.map_eq_none_iff, ih]
      constructor
      · rintro h (_ | n)
        · exact locator?_eq_none_iff.mp hhere
        · exact h n
      · exact fun h n => h (n + 1)

end DiagnosticBridge.Report
