namespace DiagnosticBridge.Text

/-!
# Lines

A line ends at a line feed; one carriage return directly before it belongs to the line end.  A
last line without a line feed counts as well, and keeps its carriage return.

* `eq_of_cutLine?`, `cutLine?_append` — a text is cut at its first line feed;
* `lineInduction` — so a text can be taken line by line in a proof;
* `lines_line`, `lines_of_no_feed` — the first line of a text, and the last.
-/

/-- The lines of the text, without their line ends. -/
def lines : List Char → List (List Char)
  | [] => []
  | '\r' :: '\n' :: rest => [] :: lines rest
  | '\n' :: rest => [] :: lines rest
  | c :: rest =>
    match lines rest with
    | [] => [[c]]
    | line :: more => (c :: line) :: more

/-- The text after one line feed, or after a carriage return and a line feed. -/
def afterLineBreak? : List Char → Option (List Char)
  | '\n' :: rest => some rest
  | '\r' :: '\n' :: rest => some rest
  | _ => none

/-- Whether the character is part of a line break. -/
def isLineBreak (c : Char) : Bool := c == '\r' || c == '\n'

/-- The text up to the first line feed and the text after it, if there is a line feed. -/
def cutLine? : List Char → Option (List Char × List Char)
  | [] => none
  | '\n' :: rest => some ([], rest)
  | c :: rest => (cutLine? rest).map fun cutting => (c :: cutting.1, cutting.2)

/-- The line without the carriage return that ends it, if one does. -/
def dropFinalReturn (line : List Char) : List Char :=
  if line.getLast? = some '\r' then line.dropLast else line

/-- The first line is cut off with its line feed. -/
theorem eq_of_cutLine? {text line rest : List Char} (h : cutLine? text = some (line, rest)) :
    text = line ++ '\n' :: rest ∧ '\n' ∉ line := by
  induction text generalizing line with
  | nil => simp [cutLine?] at h
  | cons c text ih =>
    by_cases hc : c = '\n'
    · subst hc
      simp only [cutLine?, Option.some.injEq, Prod.mk.injEq] at h
      obtain ⟨rfl, rfl⟩ := h
      simp
    · rw [cutLine?.eq_3 _ _ (by simpa using hc)] at h
      obtain ⟨⟨l, r⟩, hcut, heq⟩ := Option.map_eq_some_iff.mp h
      simp only [Prod.mk.injEq] at heq
      obtain ⟨rfl, rfl⟩ := heq
      obtain ⟨htext, hl⟩ := ih hcut
      exact ⟨by simp [htext], by simp [hl, Ne.symm hc]⟩

/-- What stands before the first line feed is the first line. -/
theorem cutLine?_append {line : List Char} (h : '\n' ∉ line) (rest : List Char) :
    cutLine? (line ++ '\n' :: rest) = some (line, rest) := by
  induction line with
  | nil => rfl
  | cons c line ih =>
    rw [List.mem_cons, not_or] at h
    rw [List.cons_append, cutLine?.eq_3 _ _ (Ne.symm h.1), ih h.2]
    rfl

/-- A text without a line feed has no line to be cut off. -/
theorem cutLine?_eq_none_iff {text : List Char} : cutLine? text = none ↔ '\n' ∉ text := by
  induction text with
  | nil => simp [cutLine?]
  | cons c text ih =>
    by_cases hc : c = '\n'
    · subst hc; simp [cutLine?]
    · rw [cutLine?.eq_3 _ _ (by simpa using hc)]
      simp [ih, Ne.symm hc]

/-- A text is a last line without a line feed, or a line in front of another text. -/
@[elab_as_elim]
theorem lineInduction {motive : List Char → Prop} (last : ∀ line, '\n' ∉ line → motive line)
    (first : ∀ line rest, '\n' ∉ line → motive rest → motive (line ++ '\n' :: rest))
    (text : List Char) : motive text := by
  induction hlength : text.length using Nat.strongRecOn generalizing text with
  | ind n ih =>
    cases hcut : cutLine? text with
    | none => exact last text (cutLine?_eq_none_iff.mp hcut)
    | some cutting =>
      obtain ⟨line, rest⟩ := cutting
      obtain ⟨rfl, hline⟩ := eq_of_cutLine? hcut
      have hshorter : rest.length < n := by
        rw [← hlength, List.length_append, List.length_cons]
        omega
      exact first line rest hline (ih rest.length hshorter rest rfl)

/-! ### Line by line -/

/-- Only a carriage return at the end is dropped. -/
theorem eq_or_eq_append_return (line : List Char) :
    dropFinalReturn line = line ∨ dropFinalReturn line ++ ['\r'] = line := by
  unfold dropFinalReturn
  split
  · next h =>
    right
    obtain ⟨before, rfl⟩ := List.getLast?_eq_some_iff.mp h
    rw [List.dropLast_concat]
  · exact Or.inl rfl

/-- A return at the end is dropped. -/
theorem dropFinalReturn_append_return (line : List Char) :
    dropFinalReturn (line ++ ['\r']) = line := by
  simp [dropFinalReturn]

/-- A line without returns stays as it is. -/
theorem dropFinalReturn_eq_self {line : List Char} (h : '\r' ∉ line) :
    dropFinalReturn line = line :=
  if_neg fun hlast => h (List.mem_of_getLast? hlast)

/-- How a line ends does not depend on how it begins. -/
theorem dropFinalReturn_cons {line : List Char} (h : line ≠ []) (c : Char) :
    dropFinalReturn (c :: line) = c :: dropFinalReturn line := by
  cases line with
  | nil => exact absurd rfl h
  | cons d line =>
    simp only [dropFinalReturn, List.getLast?_cons_cons]
    split
    · rfl
    · rfl

/-- Text without returns in front of a line does not matter. -/
theorem dropFinalReturn_append {before : List Char} (h : '\r' ∉ before) (line : List Char) :
    dropFinalReturn (before ++ line) = before ++ dropFinalReturn line := by
  by_cases hnil : line = []
  · subst hnil
    rw [List.append_nil, dropFinalReturn_eq_self h]
    exact (List.append_nil _).symm
  · unfold dropFinalReturn
    rw [List.getLast?_append, List.getLast?_eq_some_getLast hnil, Option.some_or,
      List.dropLast_append_of_ne_nil hnil]
    split
    · rfl
    · rfl

/-- A character that belongs to no line end goes on with its line. -/
theorem lines_cons {c d : Char} (hc : c ≠ '\n') (hd : d ≠ '\n') (text : List Char) :
    lines (c :: d :: text) = match lines (d :: text) with
      | [] => [[c]]
      | line :: more => (c :: line) :: more :=
  lines.eq_4 c (d :: text) (fun _ _ h => hd (List.cons.inj h).1) hc

/-- A line feed ends a line. -/
theorem lines_line {line : List Char} (h : '\n' ∉ line) (rest : List Char) :
    lines (line ++ '\n' :: rest) = dropFinalReturn line :: lines rest := by
  induction line with
  | nil => rfl
  | cons c line ih =>
    rw [List.mem_cons, not_or] at h
    cases line with
    | nil =>
      by_cases hc : c = '\r'
      · subst hc
        rfl
      · rw [dropFinalReturn_eq_self (by simpa using Ne.symm hc)]
        exact lines.eq_4 c ('\n' :: rest) (fun _ hr _ => hc hr) (Ne.symm h.1)
    | cons d line =>
      have hd : d ≠ '\n' := fun hd => h.2 (hd ▸ List.mem_cons_self)
      have ih : lines (d :: (line ++ '\n' :: rest)) = _ := ih h.2
      rw [dropFinalReturn_cons (List.cons_ne_nil d line), List.cons_append, List.cons_append,
        lines_cons (Ne.symm h.1) hd, ih]

/-- Text without a line feed is one line. -/
theorem lines_of_no_feed {line : List Char} (h : '\n' ∉ line) (hne : line ≠ []) :
    lines line = [line] := by
  induction line with
  | nil => exact absurd rfl hne
  | cons c line ih =>
    rw [List.mem_cons, not_or] at h
    cases line with
    | nil => exact lines.eq_4 c [] (fun _ _ hr => List.cons_ne_nil _ _ hr.symm) (Ne.symm h.1)
    | cons d line =>
      have hd : d ≠ '\n' := fun hd => h.2 (hd ▸ List.mem_cons_self)
      rw [lines_cons (Ne.symm h.1) hd, ih h.2 (List.cons_ne_nil d line)]

/-- The lines of a text are parts of it. -/
theorem subset_of_mem_lines {text line : List Char} (h : line ∈ lines text) : line ⊆ text := by
  fun_induction lines text generalizing line with
  | case1 => cases h
  | case2 rest ih =>
    rcases List.mem_cons.mp h with rfl | h
    · exact List.nil_subset _
    · exact List.subset_cons_of_subset _ (List.subset_cons_of_subset _ (ih h))
  | case3 rest ih =>
    rcases List.mem_cons.mp h with rfl | h
    · exact List.nil_subset _
    · exact List.subset_cons_of_subset _ (ih h)
  | case4 c rest _ _ _ _ =>
    rw [List.mem_singleton.mp h]
    exact List.cons_subset_cons c (List.nil_subset rest)
  | case5 c rest _ _ first more hlines ih =>
    rw [hlines] at ih
    rcases List.mem_cons.mp h with rfl | h
    · exact List.cons_subset_cons c (ih List.mem_cons_self)
    · exact List.subset_cons_of_subset _ (ih (List.mem_cons_of_mem first h))

end DiagnosticBridge.Text
