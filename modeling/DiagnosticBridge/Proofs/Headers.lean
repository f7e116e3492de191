import DiagnosticBridge.Proofs.Printed
import DiagnosticBridge.Report.Undeclared

namespace DiagnosticBridge.Report

/-!
# Headers of lists

A list of undeclared symbols begins after its header, and only the first header of its kind counts.
A header may stand anywhere in a line, but it ends the line.  So a report can be read line by line.

* `afterHeader?_eq_some_iff` — what is a header at the front of a text;
* `isSome_findList?_iff` — there is a list exactly where there is a header;
* `findList?_line` — a line is a header or is passed over;
* `entries_eq` — the entries of a list are those among the lines of the report.
-/

variable {text rest line header title br : List Char} {s : Symbol}

/-- The first word of every header. -/
def headerOpening : List Char := "Undeclared ".toList

/-- The words of a header, for one symbol and for several. -/
def Symbol.titles (s : Symbol) : List (List Char) :=
  [headerOpening ++ s.word.toList ++ [':'], headerOpening ++ s.word.toList ++ ['s', ':']]

/-- The header of a list: its words and a line break. -/
inductive IsHeader (s : Symbol) : List Char → Prop where
  | intro {title br : List Char} (words : title ∈ s.titles) (line_break : IsBreak br) :
      IsHeader s (title ++ br)

/-- A title begins with its first word, stands on one line and ends in a colon. -/
theorem exists_title (h : title ∈ s.titles) :
    headerOpening <+: title ∧ OnOneLine title ∧ title ≠ [] := by
  have hopening : OnOneLine headerOpening := by decide
  have hword : OnOneLine s.word.toList := by cases s <;> decide
  simp only [Symbol.titles, List.append_assoc, List.mem_cons, List.not_mem_nil, or_false] at h
  rcases h with rfl | rfl
  · exact ⟨List.prefix_append _ _,
      onOneLine_append.mpr ⟨hopening, onOneLine_append.mpr ⟨hword, by decide⟩⟩, by simp⟩
  · exact ⟨List.prefix_append _ _,
      onOneLine_append.mpr ⟨hopening, onOneLine_append.mpr ⟨hword, by decide⟩⟩, by simp⟩

/-! ### At the front of a text -/

/-- What can stand between the word and the colon is nothing or an `s`. -/
theorem colon_skipPlural_iff :
    [':'] ++ rest = skipPlural text ↔ text = ':' :: rest ∨ text = 's' :: ':' :: rest := by
  constructor
  · intro h
    unfold skipPlural at h
    split at h
    · exact Or.inr (by rw [← h]; rfl)
    · exact Or.inl h.symm
  · rintro (rfl | rfl)
    · rfl
    · rfl

/-- A header is taken off the front of a text exactly if it stands there. -/
theorem afterHeader?_eq_some_iff :
    s.afterHeader? text = some rest ↔ ∃ header, IsHeader s header ∧ text = header ++ rest := by
  have hmark : ("Undeclared " ++ s.word).toList = headerOpening ++ s.word.toList :=
    String.toList_append
  simp only [Symbol.afterHeader?, bind, Option.bind_eq_some_iff, Text.after?_eq_some_iff, hmark]
  constructor
  · rintro ⟨afterWord, hword, afterColon, hcolon, hbreak⟩
    obtain ⟨br, hbr, rfl⟩ := afterLineBreak?_eq_some_iff.mp hbreak
    rcases colon_skipPlural_iff.mp hcolon with rfl | rfl
    · exact ⟨_, .intro List.mem_cons_self hbr, by rw [← hword]; simp⟩
    · exact ⟨_, .intro (List.mem_cons_of_mem _ List.mem_cons_self) hbr, by rw [← hword]; simp⟩
  · rintro ⟨header, hheader, rfl⟩
    cases hheader with
    | @intro title br hwords hbr =>
      simp only [Symbol.titles, List.mem_cons, List.not_mem_nil, or_false] at hwords
      rcases hwords with rfl | rfl
      · exact ⟨':' :: (br ++ rest), by simp, br ++ rest, colon_skipPlural_iff.mpr (Or.inl rfl),
          afterLineBreak?_break hbr rest⟩
      · exact ⟨'s' :: ':' :: (br ++ rest), by simp, br ++ rest,
          colon_skipPlural_iff.mpr (Or.inr rfl), afterLineBreak?_break hbr rest⟩

/-- A text with a header before it has a list. -/
theorem isSome_findList?_iff :
    (s.findList? text).isSome = true ↔ ∃ header, IsHeader s header ∧ header <:+: text := by
  induction text with
  | nil =>
    refine iff_of_false (by simp [Symbol.findList?]) ?_
    rintro ⟨header, hheader, hin⟩
    cases hheader with
    | intro hwords =>
      obtain ⟨hnil, _⟩ := List.append_eq_nil_iff.mp (List.eq_nil_of_infix_nil hin)
      exact (exists_title hwords).2.2 hnil
  | cons c text ih =>
    rw [Symbol.findList?]
    split
    · next list hlist =>
      obtain ⟨header, hheader, heq⟩ := afterHeader?_eq_some_iff.mp hlist
      exact iff_of_true rfl ⟨header, hheader, [], list, heq.symm⟩
    · next hnone =>
      rw [ih]
      refine exists_congr fun header => and_congr_right fun hheader => ?_
      -- The header does not begin at the front, so that it is further on.
      rw [List.infix_cons_iff]
      refine (or_iff_right ?_).symm
      rintro ⟨rest, hrest⟩
      have hsome := afterHeader?_eq_some_iff.mpr ⟨header, hheader, hrest.symm⟩
      rw [hnone] at hsome
      cases hsome

/-! ### Line by line -/

/-- Whether a line ends as the header of such a list does. -/
def Symbol.isHeading (s : Symbol) (line : List Char) : Bool :=
  s.titles.any (·.isSuffixOf line)

/-- A line is a heading if it ends in one of the titles. -/
theorem isHeading_iff : s.isHeading line = true ↔ ∃ title ∈ s.titles, title <:+ line := by
  simp [Symbol.isHeading]

/-- An empty line is no heading. -/
theorem isHeading_nil : s.isHeading [] = false := by
  rw [← Bool.not_eq_true, isHeading_iff]
  rintro ⟨title, hwords, hin⟩
  exact (exists_title hwords).2.2 (List.suffix_nil.mp hin)

/-- A title may begin anywhere in the line. -/
theorem isHeading_cons {c : Char} :
    s.isHeading (c :: line) = true ↔ c :: line ∈ s.titles ∨ s.isHeading line = true := by
  simp only [isHeading_iff, List.suffix_cons_iff]
  constructor
  · rintro ⟨title, hwords, rfl | hin⟩
    · exact Or.inl hwords
    · exact Or.inr ⟨title, hwords, hin⟩
  · rintro (hwords | ⟨title, hwords, hin⟩)
    · exact ⟨_, hwords, Or.inl rfl⟩
    · exact ⟨title, hwords, Or.inr hin⟩

/-- A header at the front of a line is all of the line. -/
theorem afterHeader?_line (hline : '\n' ∉ line) (rest : List Char) :
    s.afterHeader? (line ++ '\n' :: rest) =
      if Text.dropFinalReturn line ∈ s.titles then some rest else none := by
  split
  · next hwords =>
    rw [afterHeader?_eq_some_iff]
    rcases Text.eq_or_eq_append_return line with hsame | hmore
    · rw [hsame] at hwords
      exact ⟨line ++ ['\n'], .intro hwords .lf, by simp⟩
    · have htext : line ++ '\n' :: rest =
          Text.dropFinalReturn line ++ ['\r'] ++ '\n' :: rest := by rw [hmore]
      exact ⟨_, .intro hwords .crlf, by rw [htext]; simp⟩
  · next hno =>
    refine Option.eq_none_iff_forall_ne_some.mpr fun list hlist => hno ?_
    obtain ⟨header, hheader, heq⟩ := afterHeader?_eq_some_iff.mp hlist
    have hcut := Text.cutLine?_append hline rest
    cases hheader with
    | @intro title br hwords hbr =>
      obtain ⟨_, ⟨hr, hn⟩, _⟩ := exists_title hwords
      cases hbr with
      | lf =>
        rw [heq, List.append_assoc, List.singleton_append, Text.cutLine?_append hn] at hcut
        cases hcut
        rwa [Text.dropFinalReturn_eq_self hr]
      | crlf =>
        have hnr : '\n' ∉ title ++ ['\r'] := by simp [hn]
        have htext : title ++ ['\r', '\n'] ++ list = title ++ ['\r'] ++ '\n' :: list := by simp
        rw [heq, htext, Text.cutLine?_append hnr] at hcut
        cases hcut
        rwa [Text.dropFinalReturn_append_return]

/-- Dropping a carriage return takes nothing from the front of a line, unless it is all of it. -/
theorem isHeading_dropFinalReturn_cons {c : Char} :
    s.isHeading (Text.dropFinalReturn (c :: line)) = true ↔
      Text.dropFinalReturn (c :: line) ∈ s.titles ∨
        s.isHeading (Text.dropFinalReturn line) = true := by
  by_cases hnil : line = []
  · subst hnil
    by_cases hc : c = '\r'
    · subst hc
      have hdrop : Text.dropFinalReturn ['\r'] = Text.dropFinalReturn [] := rfl
      have hno : Text.dropFinalReturn [] ∉ s.titles := fun hwords => (exists_title hwords).2.2 rfl
      rw [hdrop, or_iff_right hno]
    · rw [Text.dropFinalReturn_eq_self (by simpa using Ne.symm hc)]
      exact isHeading_cons
  · rw [Text.dropFinalReturn_cons hnil]
    exact isHeading_cons

/-- A line is a header or is passed over. -/
theorem findList?_line (hline : '\n' ∉ line) (rest : List Char) :
    s.findList? (line ++ '\n' :: rest) =
      if s.isHeading (Text.dropFinalReturn line) then some rest else s.findList? rest := by
  induction line with
  | nil =>
    have hnone : s.afterHeader? ('\n' :: rest) = none :=
      (afterHeader?_line hline rest).trans (if_neg fun hwords => (exists_title hwords).2.2 rfl)
    have hno : s.isHeading (Text.dropFinalReturn []) = false := isHeading_nil
    rw [hno, if_neg Bool.false_ne_true, List.nil_append, Symbol.findList?, hnone]
  | cons c line ih =>
    have ih := ih fun hin => hline (List.mem_cons_of_mem c hin)
    have hhere := afterHeader?_line (s := s) hline rest
    rw [List.cons_append] at hhere ⊢
    rw [Symbol.findList?, hhere]
    by_cases hwords : Text.dropFinalReturn (c :: line) ∈ s.titles
    · rw [if_pos hwords, if_pos (isHeading_dropFinalReturn_cons.mpr (Or.inl hwords))]
    · rw [if_neg hwords, ih]
      simp only [isHeading_dropFinalReturn_cons, hwords, false_or]

/-- There is no list without a line feed. -/
theorem findList?_of_no_feed (h : '\n' ∉ text) : s.findList? text = none := by
  rw [← Option.not_isSome_iff_eq_none, isSome_findList?_iff]
  rintro ⟨header, hheader, hin⟩
  cases hheader with
  | intro _ hbr =>
    refine h (hin.subset (List.mem_append_right _ ?_))
    cases hbr <;> simp

/-- The entries of the first list of such symbols among some lines. -/
def Symbol.entriesOfLines (s : Symbol) : List (List Char) → List Entry
  | [] => []
  | line :: more => if s.isHeading line then leadingEntries more else s.entriesOfLines more

/-- The entries of a list are those lines at its front that are entries. -/
theorem entries_of_list {list : List Char} (h : s.findList? text = some list) :
    s.entries text = leadingEntries (Text.lines list) := by
  simp only [Symbol.entries, h]

theorem entries_of_no_list (h : s.findList? text = none) : s.entries text = [] := by
  simp only [Symbol.entries, h]

/-- **A list is read line by line.** -/
theorem entries_eq (s : Symbol) (text : List Char) :
    s.entries text = s.entriesOfLines (Text.lines text) := by
  induction text using Text.lineInduction with
  | last line hline =>
    rw [entries_of_no_list (findList?_of_no_feed hline)]
    by_cases hne : line = []
    · rw [hne]
      rfl
    · -- The last line may look like a header, but no entry follows it.
      rw [Text.lines_of_no_feed hline hne, Symbol.entriesOfLines]
      split
      · rfl
      · rfl
  | first line rest hline ih =>
    have hlist := findList?_line (s := s) hline rest
    rw [Text.lines_line hline, Symbol.entriesOfLines]
    split
    · next hheading =>
      rw [if_pos hheading] at hlist
      exact entries_of_list hlist
    · next hheading =>
      rw [if_neg hheading] at hlist
      rw [← ih, Symbol.entries, hlist, Symbol.entries]

end DiagnosticBridge.Report
