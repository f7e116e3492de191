import DiagnosticBridge.Proofs.Locators
import Mathlib.Data.List.Induction

namespace DiagnosticBridge.Text

/-!
# Carriage returns before line feeds

A text whose lines are ended by line feeds is written over to line ends of two characters, and back.
A function *passes over returns* if it makes of the text with returns what it makes of the text,
with returns: no return is then seen by it but as a part of the line end.

* `withoutReturns_withReturns` — no text without returns is lost;
* `lines_withReturns` — the lines of a text are the same;
* `after?_withReturns`, `cutLine?_withReturns`, `dropWhile_withReturns` and the others — the
  functions that reports are read with pass over returns;
* `trim_withReturns` — so does trimming.
-/

/-- The text with a carriage return before every line feed. -/
def withReturns (text : List Char) : List Char :=
  text.flatMap fun c => if c = '\n' then ['\r', '\n'] else [c]

/-- The string with a carriage return before every line feed. -/
def withReturnsString (s : String) : String := String.ofList (withReturns s.toList)

/-- The text without the carriage returns that stand before a line feed. -/
def withoutReturns : List Char → List Char
  | [] => []
  | '\r' :: '\n' :: rest => '\n' :: withoutReturns rest
  | c :: rest => c :: withoutReturns rest

variable {text mark before line : List Char} {c : Char}

@[simp] theorem withReturns_nil : withReturns [] = [] := rfl

@[simp] theorem withReturns_feed (text : List Char) :
    withReturns ('\n' :: text) = '\r' :: '\n' :: withReturns text := rfl

/-- Any other character stays alone. -/
theorem withReturns_cons (h : c ≠ '\n') (text : List Char) :
    withReturns (c :: text) = c :: withReturns text := by
  rw [withReturns, List.flatMap_cons, if_neg h]
  rfl

/-- Texts may be written over one after the other. -/
theorem withReturns_append (a b : List Char) :
    withReturns (a ++ b) = withReturns a ++ withReturns b :=
  List.flatMap_append

/-- Nothing is written over on a single line. -/
theorem withReturns_eq_self (h : '\n' ∉ text) : withReturns text = text := by
  induction text with
  | nil => rfl
  | cons c text ih =>
    rw [List.mem_cons, not_or] at h
    rw [withReturns_cons (Ne.symm h.1), ih h.2]

/-- The first line gets a return at its end. -/
theorem withReturns_line (h : '\n' ∉ line) (rest : List Char) :
    withReturns (line ++ '\n' :: rest) = line ++ ['\r'] ++ '\n' :: withReturns rest := by
  rw [withReturns_append, withReturns_eq_self h, withReturns_feed, List.append_assoc]
  rfl

/-! ### Back again -/

/-- Nothing but a return is ever taken out. -/
theorem withoutReturns_cons (h : c ≠ '\r') (rest : List Char) :
    withoutReturns (c :: rest) = c :: withoutReturns rest :=
  withoutReturns.eq_3 c rest fun _ hc _ => h hc

/-- What is free of returns stays as it is at the front of a text. -/
theorem withoutReturns_append (h : '\r' ∉ before) (rest : List Char) :
    withoutReturns (before ++ rest) = before ++ withoutReturns rest := by
  induction before with
  | nil => rfl
  | cons c before ih =>
    rw [List.mem_cons, not_or] at h
    rw [List.cons_append, withoutReturns_cons (Ne.symm h.1), ih h.2, List.cons_append]

/-- A text free of returns stays as it is. -/
theorem withoutReturns_eq_self (h : '\r' ∉ text) : withoutReturns text = text := by
  have happend := withoutReturns_append h []
  rwa [List.append_nil, withoutReturns, List.append_nil] at happend

/-- No text without returns is lost. -/
theorem withoutReturns_withReturns (h : '\r' ∉ text) :
    withoutReturns (withReturns text) = text := by
  induction text with
  | nil => rfl
  | cons c text ih =>
    rw [List.mem_cons, not_or] at h
    by_cases hc : c = '\n'
    · subst hc
      rw [withReturns_feed, withoutReturns, ih h.2]
    · rw [withReturns_cons hc, withoutReturns_cons (Ne.symm h.1), ih h.2]

/-! ### Functions that pass over returns -/

/-- A mark on one line is found in front of the same text. -/
theorem after?_withReturns (hmark : Report.OnOneLine mark) (text : List Char) :
    after? mark (withReturns text) = (after? mark text).map withReturns := by
  induction mark generalizing text with
  | nil => rfl
  | cons m mark ih =>
    rw [Report.onOneLine_cons, Report.staysOnLine_iff] at hmark
    cases text with
    | nil => rfl
    | cons c text =>
      -- A line feed matches nothing in the mark; nor does the return that is put before it.
      by_cases hc : c = '\n'
      · subst hc
        simp [after?, hmark.1]
      · rw [withReturns_cons hc]
        by_cases hm : m = c
        · simp only [after?, hm, if_true, ih hmark.2]
        · simp [after?, hm]

/-- A line break at the front is taken off with its return. -/
theorem afterLineBreak?_withReturns (h : '\r' ∉ text) :
    afterLineBreak? (withReturns text) = (afterLineBreak? text).map withReturns := by
  cases text with
  | nil => rfl
  | cons c text =>
    rw [List.mem_cons, not_or] at h
    by_cases hc : c = '\n'
    · subst hc
      rfl
    · rw [withReturns_cons hc]
      simp [afterLineBreak?, hc, Ne.symm h.1]

/-- The first line has a return at its end. -/
theorem cutLine?_withReturns (text : List Char) :
    cutLine? (withReturns text) =
      (cutLine? text).map fun cutting => (cutting.1 ++ ['\r'], withReturns cutting.2) := by
  cases hcut : cutLine? text with
  | none =>
    have hno := cutLine?_eq_none_iff.mp hcut
    rw [withReturns_eq_self hno, hcut]
    rfl
  | some cutting =>
    obtain ⟨line, rest⟩ := cutting
    obtain ⟨rfl, hline⟩ := eq_of_cutLine? hcut
    rw [withReturns_line hline, cutLine?_append (by simp [hline])]
    rfl

/-- **The lines of a text are the same.** -/
theorem lines_withReturns (h : '\r' ∉ text) : lines (withReturns text) = lines text := by
  -- Line by line: the return is at the end of its line, where it is dropped.
  induction text using lineInduction with
  | last line hline => rw [withReturns_eq_self hline]
  | first line rest hline ih =>
    rw [List.mem_append, List.mem_cons, not_or, not_or] at h
    rw [withReturns_line hline, lines_line (by simp [hline]), lines_line hline,
      dropFinalReturn_append_return, dropFinalReturn_eq_self h.1, ih h.2.2]

/-- The rest of a line ends before its return. -/
theorem takeWhile_withReturns (text : List Char) :
    (withReturns text).takeWhile Report.staysOnLine = text.takeWhile Report.staysOnLine := by
  induction text with
  | nil => rfl
  | cons c text ih =>
    by_cases hc : c = '\n'
    · subst hc
      rfl
    · rw [withReturns_cons hc, List.takeWhile_cons, List.takeWhile_cons, ih]

/-- Behind the rest of a line the text goes on with returns. -/
theorem dropWhile_withReturns (text : List Char) :
    (withReturns text).dropWhile Report.staysOnLine =
      withReturns (text.dropWhile Report.staysOnLine) := by
  induction text with
  | nil => rfl
  | cons c text ih =>
    by_cases hc : c = '\n'
    · subst hc
      rfl
    · rw [withReturns_cons hc, List.dropWhile_cons, List.dropWhile_cons, ih]
      split
      · rfl
      · exact (withReturns_cons hc text).symm

/-! ### White space -/

/-- Returns are white space. -/
theorem isBlank_withReturns (text : List Char) : isBlank (withReturns text) = isBlank text := by
  induction text with
  | nil => rfl
  | cons c text ih =>
    by_cases hc : c = '\n'
    · subst hc
      rw [withReturns_feed, isBlank_cons, isBlank_cons, isBlank_cons, ih]
      rfl
    · rw [withReturns_cons hc, isBlank_cons, isBlank_cons, ih]

/-- A line feed is white space. -/
theorem ne_feed_of_not_isSpace (h : isSpace c = false) : c ≠ '\n' := by
  rintro rfl
  exact absurd h (by decide)

/-- At the front the returns go together with their line feeds. -/
theorem trimStart_withReturns (text : List Char) :
    trimStart (withReturns text) = withReturns (trimStart text) := by
  induction text with
  | nil => rfl
  | cons c text ih =>
    -- White space may be more of it with returns; any other character is written as it is.
    cases hc : isSpace c with
    | true =>
      have hblank : isBlank [c] = true := by rw [isBlank_cons, hc]; rfl
      rw [← List.singleton_append, withReturns_append, trimStart_append_of_isBlank hblank,
        trimStart_append_of_isBlank ((isBlank_withReturns [c]).trans hblank), ih]
    | false =>
      have hhead : ∀ d : Char, (c :: text).head? = some d → isSpace d = false :=
        fun d hd => Option.some.inj hd ▸ hc
      rw [trimStart_eq_self hhead]
      refine trimStart_eq_self ?_
      rw [withReturns_cons (ne_feed_of_not_isSpace hc)]
      exact hhead

/-- At the end they do, too. -/
theorem trimEnd_withReturns (text : List Char) :
    trimEnd (withReturns text) = withReturns (trimEnd text) := by
  -- From the end, since that is where the text is trimmed.
  induction text using List.reverseRecOn with
  | nil => rfl
  | append_singleton text c ih =>
    rw [withReturns_append]
    cases hc : isSpace c with
    | true =>
      have hblank : isBlank [c] = true := by rw [isBlank_cons, hc]; rfl
      rw [trimEnd_append_of_isBlank _ hblank,
        trimEnd_append_of_isBlank _ ((isBlank_withReturns [c]).trans hblank), ih]
    | false =>
      have hlast : ∀ (front : List Char) (d : Char),
          (front ++ [c]).getLast? = some d → isSpace d = false := by
        intro front d hd
        rw [List.getLast?_concat] at hd
        exact Option.some.inj hd ▸ hc
      have hsame : withReturns [c] = [c] :=
        withReturns_eq_self (by simpa using (ne_feed_of_not_isSpace hc).symm)
      rw [trimEnd_eq_self (hlast text), withReturns_append, hsame]
      exact trimEnd_eq_self (hlast (withReturns text))

/-- White space is trimmed together with the returns in it. -/
theorem trim_withReturns (text : List Char) :
    trim (withReturns text) = withReturns (trim text) := by
  rw [trim, trimStart_withReturns, trimEnd_withReturns, ← trim]

end DiagnosticBridge.Text
