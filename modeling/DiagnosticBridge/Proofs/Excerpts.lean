import DiagnosticBridge.Proofs.Locators

namespace DiagnosticBridge.Report

/-!
# Excerpts

What follows the arrow of a locator: the rest of a line and the indented lines after it.  An excerpt
is as long as it can be, and the scanner skips just that much.

* `exists_excerpt` — what is skipped at the front of a text is an excerpt;
* `skipExcerpt_eq` — all of an excerpt is skipped.
-/

variable {text rest : List Char} {c : Char}

/-- An indented line with the line break before it. -/
inductive IsIndentedLine : List Char → Prop where
  | intro {br more : List Char} {c : Char} (line_break : IsBreak br) (indent : c = ' ' ∨ c = '\t')
      (more_line : OnOneLine more) : IsIndentedLine (br ++ c :: more)

/-- The excerpt of the text `excerpt ++ rest`: the rest of a line and all indented lines that
    directly follow it. -/
structure IsExcerpt (excerpt rest : List Char) : Prop where
  /-- The excerpt is some text on one line and indented lines. -/
  lines : ∃ (first : List Char) (indented : List (List Char)), OnOneLine first ∧
    (∀ line ∈ indented, IsIndentedLine line) ∧ excerpt = first ++ indented.flatten
  /-- The last line of the excerpt goes up to its end. -/
  ends : EndsLine rest
  /-- No indented line follows. -/
  stops : ∀ line more, IsIndentedLine line → rest ≠ line ++ more

theorem isIndent_iff : isIndent c = true ↔ c = ' ' ∨ c = '\t' := by
  simp [isIndent]

/-- An indented line is skipped together with the line break before it. -/
theorem skipIndentedLines_break {br : List Char} (hb : IsBreak br) (hc : isIndent c = true)
    (rest : List Char) :
    skipIndentedLines (br ++ c :: rest) = skipIndentedLines (rest.dropWhile staysOnLine) := by
  cases hb with
  | lf =>
    show skipIndentedLines ('\n' :: c :: rest) = _
    rw [skipIndentedLines, if_pos hc]
  | crlf =>
    show skipIndentedLines ('\r' :: '\n' :: c :: rest) = _
    rw [skipIndentedLines, if_pos hc]

/-- Nothing is skipped where no indented line begins. -/
theorem skipIndentedLines_eq_self
    (hno : ∀ br c more, IsBreak br → isIndent c = true → text ≠ br ++ c :: more) :
    skipIndentedLines text = text := by
  unfold skipIndentedLines
  split
  · next c rest =>
    exact if_neg fun hc => hno ['\n'] c rest .lf hc rfl
  · next c rest =>
    exact if_neg fun hc => hno ['\r', '\n'] c rest .crlf hc rfl
  · rfl

/-- Nothing is skipped of a text that does not begin with an indented line. -/
theorem skipIndentedLines_of_stops
    (hstops : ∀ line more, IsIndentedLine line → text ≠ line ++ more) :
    skipIndentedLines text = text := by
  -- An indented line can be taken up to its end, and so `hstops` excludes any beginning of one.
  refine skipIndentedLines_eq_self fun br c more hb hc heq => ?_
  refine hstops (br ++ c :: more.takeWhile staysOnLine) (more.dropWhile staysOnLine)
    (.intro hb (isIndent_iff.mp hc) (onOneLine_takeWhile more)) ?_
  rw [heq, List.append_assoc, List.cons_append, List.takeWhile_append_dropWhile]

/-- A line ends where indented lines follow it. -/
theorem endsLine_flatten (hends : EndsLine rest) {indented : List (List Char)}
    (hlines : ∀ line ∈ indented, IsIndentedLine line) : EndsLine (indented.flatten ++ rest) := by
  cases indented with
  | nil => exact hends
  | cons next indented =>
    cases hlines next List.mem_cons_self with
    | intro hb _ _ =>
      rw [List.flatten_cons, List.append_assoc, List.append_assoc]
      exact endsLine_break hb _

/-- Indented lines are skipped as far as they go. -/
theorem skipIndentedLines_flatten (hends : EndsLine rest)
    (hstops : ∀ line more, IsIndentedLine line → rest ≠ line ++ more)
    {indented : List (List Char)} (hlines : ∀ line ∈ indented, IsIndentedLine line) :
    skipIndentedLines (indented.flatten ++ rest) = rest := by
  induction indented with
  | nil => exact skipIndentedLines_of_stops hstops
  | cons line indented ih =>
    rw [List.forall_mem_cons] at hlines
    have hnext := endsLine_flatten hends hlines.2
    cases hlines.1 with
    | @intro br more c hb hc hmore =>
      rw [List.flatten_cons, List.append_assoc, List.append_assoc, List.cons_append,
        skipIndentedLines_break hb (isIndent_iff.mpr hc), dropWhile_line hmore hnext]
      exact ih hlines.2

/-- What is skipped are indented lines, and none is left to skip. -/
theorem exists_indented (text : List Char) (hends : EndsLine text) :
    ∃ indented : List (List Char), (∀ line ∈ indented, IsIndentedLine line) ∧
      text = indented.flatten ++ skipIndentedLines text ∧ EndsLine (skipIndentedLines text) ∧
        ∀ line more, IsIndentedLine line → skipIndentedLines text ≠ line ++ more := by
  by_cases hbegins : ∃ br c more, IsBreak br ∧ isIndent c = true ∧ text = br ++ c :: more
  · obtain ⟨br, c, more, hb, hc, htext⟩ := hbegins
    have hshorter : (more.dropWhile staysOnLine).length < text.length := by
      have := (List.dropWhile_sublist (l := more) staysOnLine).length_le
      rw [htext, List.length_append, List.length_cons]
      omega
    -- The recursion is on what follows the first indented line.
    obtain ⟨indented, hlines, heq, hends', hstops⟩ :=
      exists_indented (more.dropWhile staysOnLine) (endsLine_dropWhile more)
    rw [htext, skipIndentedLines_break hb hc]
    refine ⟨(br ++ c :: more.takeWhile staysOnLine) :: indented, ?_, ?_, hends', hstops⟩
    · exact List.forall_mem_cons.mpr
        ⟨.intro hb (isIndent_iff.mp hc) (onOneLine_takeWhile more), hlines⟩
    · rw [List.flatten_cons, List.append_assoc, ← heq, List.append_assoc, List.cons_append,
        List.takeWhile_append_dropWhile]
  · have hstops : ∀ line more, IsIndentedLine line → text ≠ line ++ more := by
      rintro _ more ⟨hb, hc, _⟩ heq
      rw [List.append_assoc] at heq
      exact hbegins ⟨_, _, _, hb, isIndent_iff.mpr hc, heq⟩
    rw [skipIndentedLines_of_stops hstops]
    exact ⟨[], fun line hline => absurd hline List.not_mem_nil, rfl, hends, hstops⟩
termination_by text.length
decreasing_by exact hshorter

/-- An indented line after a line break begins with a character that indents it. -/
theorem indented_of_break {br line more : List Char} (hbr : IsBreak br)
    (hline : IsIndentedLine line) (heq : br ++ rest = line ++ more) :
    ∃ c, rest.head? = some c ∧ Text.isSpace c = true := by
  cases hline with
  | @intro br' tail c hbr' hc _ =>
    have hspace : Text.isSpace c = true := by
      rcases hc with rfl | rfl <;> decide
    refine ⟨c, ?_, hspace⟩
    cases hbr <;> cases hbr' <;> simp_all

/-- **Skipping an excerpt.** What is skipped at the front of a text is an excerpt. -/
theorem exists_excerpt (text : List Char) :
    ∃ excerpt, text = excerpt ++ skipExcerpt text ∧ IsExcerpt excerpt (skipExcerpt text) := by
  obtain ⟨indented, hlines, heq, hends, hstops⟩ :=
    exists_indented (text.dropWhile staysOnLine) (endsLine_dropWhile text)
  refine ⟨text.takeWhile staysOnLine ++ indented.flatten, ?_,
    ⟨_, indented, onOneLine_takeWhile text, hlines, rfl⟩, hends, hstops⟩
  rw [List.append_assoc]
  exact (List.takeWhile_append_dropWhile).symm.trans (congrArg _ heq)

/-- All of an excerpt is skipped. -/
theorem skipExcerpt_eq {excerpt : List Char} (h : IsExcerpt excerpt rest) :
    skipExcerpt (excerpt ++ rest) = rest := by
  obtain ⟨⟨first, indented, hfirst, hlines, rfl⟩, hends, hstops⟩ := h
  rw [skipExcerpt, List.append_assoc, dropWhile_line hfirst (endsLine_flatten hends hlines)]
  exact skipIndentedLines_flatten hends hstops hlines

end DiagnosticBridge.Report
