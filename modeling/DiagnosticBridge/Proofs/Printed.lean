import DiagnosticBridge.Proofs.Decomposition
import DiagnosticBridge.Report.Banner

namespace DiagnosticBridge.Report

/-!
# Printed blocks

What the compiler prints about one problem, and why it is a piece of the report, with its finding
as the finding of the piece.

* `not_beginsLocator_of_lines` — no locator begins in a finding, since the line after the next one
  would have to begin with an arrow;
* `Printed.opens` — hence the block is a piece;
* `Printed.diagnostic?_piece` — its diagnostic is the finding, on the line of the block.
-/

variable {br text rest line mark : List Char}

/-- What stands before the excerpt. -/
def arrow : List Char := "------>".toList

/-! ### Lines that begin no locator -/

/-- A mark at the front of a text stands on the first line if it has no line break itself. -/
theorem prefix_of_prefix_line (hmark : OnOneLine mark) (hrest : EndsLine rest)
    (h : mark <+: line ++ rest) : mark <+: line := by
  obtain ⟨more, heq⟩ := h
  rcases List.append_eq_append_iff.mp heq with ⟨a, hline, _⟩ | ⟨a, hmark', hrest'⟩
  · exact ⟨a, hline.symm⟩
  · cases a with
    | nil =>
      rw [List.append_nil] at hmark'
      exact hmark' ▸ List.prefix_refl _
    | cons c a =>
      -- The mark would go beyond the line.
      rw [hmark', onOneLine_append, onOneLine_cons] at hmark
      rw [hrest'] at hrest
      have hstays := not_staysOnLine_of_endsLine hrest
      rw [hmark.2.1] at hstays
      cases hstays

/-- No locator begins within a line. -/
theorem not_beginsLocator_of_staysOnLine {c : Char} (h : staysOnLine c = true) :
    ¬ BeginsLocator (c :: text) := by
  rintro ⟨locator, digits, more, hloc, heq⟩
  cases hloc with
  | intro hb =>
    obtain ⟨hr, hn⟩ := staysOnLine_iff.mp h
    cases hb with
    | lf => exact hn (List.cons.inj heq).1
    | crlf => exact hr (List.cons.inj heq).1

/-- No locator begins inside a line. -/
theorem not_beginsLocator_of_lt {n : Nat} (hline : OnOneLine line) (hn : n < line.length) :
    ¬ BeginsLocator ((line ++ rest).drop n) := by
  rw [List.drop_append_of_le_length (Nat.le_of_lt hn), List.drop_eq_getElem_cons hn]
  exact not_beginsLocator_of_staysOnLine (onOneLine_iff.mp hline _ (List.getElem_mem hn))

/-- A line break is taken off the front. -/
theorem afterLineBreak?_break (h : IsBreak br) (rest : List Char) :
    Text.afterLineBreak? (br ++ rest) = some rest :=
  afterLineBreak?_eq_some_iff.mpr ⟨br, h, rfl⟩

/-- No locator begins before a line if the line after it does not begin with an arrow. -/
theorem not_beginsLocator_of_second_line {before : List Char} (hbefore : IsBreak before)
    (hline : OnOneLine line) (hbr : IsBreak br) (hrest : ¬ arrow <+: rest) :
    ¬ BeginsLocator (before ++ (line ++ (br ++ rest))) := by
  rw [← locator?_eq_none_iff, Option.eq_none_iff_forall_ne_some]
  rintro ⟨digits, tail⟩ h
  simp only [locator?, bind, Option.bind_eq_some_iff] at h
  obtain ⟨afterBreak, hb, place, hat, found, _, arrowed, hafter, more, harrow, _⟩ := h
  rw [afterLineBreak?_break hbefore, Option.some.injEq] at hb
  have hat : "at ".toList ++ place = line ++ (br ++ rest) :=
    (Text.after?_eq_some_iff.mp hat).trans hb.symm
  -- The place is the rest of the line, so that what follows it is the next line.
  have hplace : place.dropWhile staysOnLine = br ++ rest := by
    have hword : OnOneLine "at ".toList := by decide
    rw [← dropWhile_line hline (endsLine_break hbr rest), ← hat,
      List.dropWhile_append_of_pos (onOneLine_iff.mp hword)]
  rw [hplace, afterLineBreak?_break hbr, Option.some.injEq] at hafter
  exact hrest ⟨more, (Text.after?_eq_some_iff.mp harrow).trans hafter.symm⟩

/-- Lines, each with its line break. -/
def terminated (br : List Char) (lines : List (List Char)) : List Char := lines.flatMap (· ++ br)

theorem terminated_cons (lines : List (List Char)) :
    terminated br (line :: lines) = line ++ (br ++ terminated br lines) := by
  rw [terminated, List.flatMap_cons, List.append_assoc]
  rfl

/-- Lines between which there are breaks, and a break at their end, are lines that are all
    broken. -/
theorem intercalate_append_break {lines : List (List Char)} (h : lines ≠ []) :
    br.intercalate lines ++ br = terminated br lines := by
  induction lines with
  | nil => exact absurd rfl h
  | cons line lines ih =>
    cases lines with
    | nil => simp [terminated, List.intercalate]
    | cons next lines =>
      rw [List.intercalate_cons_cons, terminated_cons, ← ih (List.cons_ne_nil _ _)]
      simp only [List.append_assoc]

/-- A line that ends, and is not followed by an arrow, begins no locator, nor does its end. -/
theorem not_beginsLocator_of_line {next : List Char} (hbr : IsBreak br) (hline : OnOneLine line)
    (hnext : OnOneLine next) (hrest : ¬ arrow <+: rest) {n : Nat}
    (hn : n < line.length + br.length) :
    ¬ BeginsLocator ((line ++ (br ++ (next ++ (br ++ rest)))).drop n) := by
  by_cases hlt : n < line.length
  · exact not_beginsLocator_of_lt hline hlt
  · obtain ⟨j, rfl⟩ := Nat.exists_eq_add_of_le (Nat.le_of_not_lt hlt)
    rw [List.drop_append, Nat.add_sub_cancel_left, List.drop_eq_nil_of_le (Nat.le_add_right _ _)]
    -- What is left of a line break is one, as far as it goes.
    have hdrop : IsBreak (br.drop j) := by
      cases hbr with
      | lf =>
        have hj : j = 0 := by simpa using hn
        exact hj ▸ .lf
      | crlf =>
        have hj : j = 0 ∨ j = 1 := by
          simp only [List.length_cons, List.length_nil] at hn
          omega
        rcases hj with rfl | rfl
        · exact .crlf
        · exact .lf
    rw [List.nil_append, List.drop_append_of_le_length (by omega)]
    exact not_beginsLocator_of_second_line hdrop hnext hbr hrest

/-- Lines that do not begin with an arrow make up a text that does not. -/
theorem not_arrow_of_lines {place : List Char} (hbr : IsBreak br) {lines : List (List Char)}
    (hlines : ∀ line ∈ lines, OnOneLine line ∧ ¬ arrow <+: line) (harrow : ¬ arrow <+: place)
    (rest : List Char) : ¬ arrow <+: terminated br lines ++ (place ++ (br ++ rest)) := by
  have hone : OnOneLine arrow := by decide
  cases lines with
  | nil =>
    show ¬ arrow <+: place ++ (br ++ rest)
    exact mt (prefix_of_prefix_line hone (endsLine_break hbr _)) harrow
  | cons line lines =>
    rw [terminated_cons, List.append_assoc, List.append_assoc]
    exact mt (prefix_of_prefix_line hone (endsLine_break hbr _))
      (hlines line List.mem_cons_self).2

/-- No locator begins in lines that do not begin with an arrow, nor does the line after them: the
    first locator can begin at the end of the last one of them. -/
theorem not_beginsLocator_of_lines {place : List Char} (hbr : IsBreak br)
    {lines : List (List Char)} (hlines : ∀ line ∈ lines, OnOneLine line ∧ ¬ arrow <+: line)
    (harrow : ¬ arrow <+: place) (rest : List Char) {n : Nat}
    (hn : n + br.length < (terminated br lines).length) :
    ¬ BeginsLocator ((terminated br lines ++ (place ++ (br ++ rest))).drop n) := by
  induction lines generalizing n with
  | nil => exact absurd hn (Nat.not_lt_zero _)
  | cons line lines ih =>
    rw [List.forall_mem_cons] at hlines
    rw [terminated_cons] at hn ⊢
    simp only [List.length_append] at hn
    simp only [List.append_assoc]
    by_cases hin : n < line.length + br.length
    · -- In the first line and its end: the line after the next one has no arrow.
      cases lines with
      | nil =>
        have hlt : n < line.length := by
          simp only [terminated, List.flatMap_nil, List.length_nil] at hn
          omega
        exact not_beginsLocator_of_lt hlines.1.1 hlt
      | cons next lines =>
        rw [terminated_cons]
        simp only [List.append_assoc]
        rw [List.forall_mem_cons] at hlines
        exact not_beginsLocator_of_line hbr hlines.1.1 hlines.2.1.1
          (not_arrow_of_lines hbr hlines.2.2 harrow rest) hin
    · -- Beyond the first line it is the other lines that matter.
      obtain ⟨j, rfl⟩ := Nat.exists_eq_add_of_le (Nat.le_of_not_lt hin)
      have hdrop : (line ++ (br ++ (terminated br lines ++ (place ++ (br ++ rest))))).drop
          (line.length + br.length + j) =
            (terminated br lines ++ (place ++ (br ++ rest))).drop j := by
        rw [← List.append_assoc, ← List.length_append, List.drop_length_add_append]
      rw [hdrop]
      exact ih hlines.2 (by omega)

/-! ### Printed blocks -/

/-- What the compiler prints about one problem. -/
structure Printed where
  /-- The lines of the finding. -/
  finding : List (List Char)
  /-- The file. -/
  file : List Char
  /-- The line, counted from one. -/
  line : UInt32
  /-- What follows the arrow. -/
  excerpt : List Char
  /-- The lines that belong to the excerpt. -/
  indented : List (List Char)

namespace Printed

/-- The finding as one text. -/
def message (br : List Char) (b : Printed) : List Char := br.intercalate b.finding

/-- The place: the file and the line in decimal digits. -/
def place (b : Printed) : List Char := b.file ++ ':' :: Nat.toDigits 10 b.line.toNat

/-- The block as it is printed. -/
def render (br : List Char) (b : Printed) : List Char :=
  b.message br ++ br ++ "at ".toList ++ b.place ++ br ++ arrow ++ b.excerpt ++
    b.indented.flatMap (br ++ ·)

/-- The block can be told from its neighbours. -/
structure WellFormed (br : List Char) (b : Printed) : Prop where
  /-- The finding consists of lines. -/
  finding_line : ∀ line ∈ b.finding, OnOneLine line
  /-- No line of the finding begins with an arrow. -/
  finding_arrow : ∀ line ∈ b.finding, ¬ arrow <+: line
  /-- There is a finding. -/
  message_ne_nil : b.message br ≠ []
  /-- It has no white space at its ends. -/
  message_trimmed : Text.trim (b.message br) = b.message br
  /-- It does not look like a banner. -/
  message_banner : ¬ bannerOpening <+: b.message br
  /-- There is a file. -/
  file_ne_nil : b.file ≠ []
  /-- It has no line break. -/
  file_line : OnOneLine b.file
  /-- The excerpt has no line break. -/
  excerpt_line : OnOneLine b.excerpt
  /-- The further lines of the excerpt are indented. -/
  indented_line : ∀ line ∈ b.indented, ∃ c more, line = c :: more ∧ (c = ' ' ∨ c = '\t') ∧
    OnOneLine more

/-- The piece of the report that the block becomes, after a line break unless it comes first. -/
def piece (br lead : List Char) (b : Printed) : Piece :=
  ⟨lead ++ b.message br,
    br ++ "at ".toList ++ b.file ++ ':' :: Nat.toDigits 10 b.line.toNat ++ br ++ arrow,
    Nat.toDigits 10 b.line.toNat, b.excerpt ++ b.indented.flatMap (br ++ ·)⟩

/-- The text of a piece is what is printed for the block. -/
theorem text_piece (br lead : List Char) (b : Printed) :
    (b.piece br lead).text = lead ++ b.render br := by
  simp only [Piece.text, piece, render, place, List.append_assoc]

variable {b : Printed}

/-- A block has a finding. -/
theorem WellFormed.finding_ne_nil (h : b.WellFormed br) : b.finding ≠ [] := by
  intro hnil
  refine h.message_ne_nil ?_
  rw [message, hnil]
  rfl

/-- The finding begins with a character that is no white space. -/
theorem WellFormed.exists_cons (h : b.WellFormed br) :
    ∃ c more, b.message br = c :: more ∧ Text.isSpace c = false := by
  cases hm : b.message br with
  | nil => exact absurd hm h.message_ne_nil
  | cons c more =>
    have hhead : (Text.trim (b.message br)).head? = some c := by
      rw [h.message_trimmed, hm]
      rfl
    exact ⟨c, more, rfl, Text.head_trim hhead⟩

/-- Its line number is made of digits. -/
theorem digits_isDigit (b : Printed) :
    ∀ c ∈ Nat.toDigits 10 b.line.toNat, Text.isDigit c = true :=
  fun _ hc => Text.isDigit_of_asciiDigit
    (Nat.isDigit_of_mem_toDigits (by decide) (by decide) hc)

/-- The place that is printed is a locator. -/
theorem isLocator_piece (hbr : IsBreak br) (h : b.WellFormed br) (lead : List Char) :
    IsLocator (b.piece br lead).locator (b.piece br lead).digits :=
  .intro hbr h.file_ne_nil h.file_line Nat.toDigits_ne_nil b.digits_isDigit hbr

/-- What can follow a block: nothing, or a line that is not indented. -/
structure Follows (rest : List Char) : Prop where
  /-- The excerpt before it ends. -/
  ends : EndsLine rest
  /-- It does not belong to the excerpt. -/
  stops : ∀ line more, IsIndentedLine line → rest ≠ line ++ more

/-- A line that does not begin with white space follows an excerpt after its break. -/
theorem follows_break (hbr : IsBreak br)
    (hrest : ∀ c, rest.head? = some c → Text.isSpace c = false) : Follows (br ++ rest) := by
  refine ⟨endsLine_break hbr rest, fun line more hline heq => ?_⟩
  obtain ⟨c, hc, hspace⟩ := indented_of_break hbr hline heq
  rw [hrest c hc] at hspace
  cases hspace

/-- The end of the text does so, too. -/
theorem follows_nil : Follows [] := by
  refine ⟨fun c hc => absurd hc (by simp), fun line more hline heq => ?_⟩
  cases hline with
  | intro hbr => cases hbr <;> simp at heq

/-- The excerpt that is printed is one. -/
theorem isExcerpt_piece (hbr : IsBreak br) (h : b.WellFormed br) (lead : List Char)
    (hrest : Follows rest) : IsExcerpt (b.piece br lead).excerpt rest := by
  refine ⟨⟨b.excerpt, b.indented.map (br ++ ·), h.excerpt_line, ?_, rfl⟩, hrest.ends, hrest.stops⟩
  intro line hline
  obtain ⟨l, hl, rfl⟩ := List.mem_map.mp hline
  obtain ⟨c, more, rfl, hc, hmore⟩ := h.indented_line l hl
  exact .intro hbr hc hmore

/-- Before its place a printed block is made up of lines that do not begin with an arrow. -/
theorem WellFormed.exists_lines (h : b.WellFormed br) {lead : List Char}
    (hlead : lead = [] ∨ lead = br) :
    ∃ lines : List (List Char), (∀ line ∈ lines, OnOneLine line ∧ ¬ arrow <+: line) ∧
      terminated br lines = lead ++ (b.message br ++ br) := by
  have hlines : ∀ line ∈ b.finding, OnOneLine line ∧ ¬ arrow <+: line :=
    fun line hline => ⟨h.finding_line line hline, h.finding_arrow line hline⟩
  rw [message, intercalate_append_break h.finding_ne_nil]
  rcases hlead with rfl | rfl
  · exact ⟨b.finding, hlines, rfl⟩
  · -- The line break before the finding ends an empty line.
    refine ⟨[] :: b.finding, List.forall_mem_cons.mpr ⟨⟨by decide, by decide⟩, hlines⟩, ?_⟩
    rw [terminated_cons]
    rfl

/-- **A printed block is a piece.** No locator begins in it before its own. -/
theorem opens (hbr : IsBreak br) (h : b.WellFormed br) {lead : List Char}
    (hlead : lead = [] ∨ lead = br) (hrest : Follows rest) : (b.piece br lead).Opens rest := by
  refine ⟨?_, isLocator_piece hbr h lead, ?_, isExcerpt_piece hbr h lead hrest⟩
  · exact List.append_ne_nil_of_right_ne_nil _ h.message_ne_nil
  · intro n _ hn
    obtain ⟨lines, hlines, hterminated⟩ := h.exists_lines hlead
    have hplace : ¬ arrow <+: "at ".toList ++ b.place := by
      rintro ⟨more, heq⟩
      exact absurd (List.cons.inj heq).1 (by decide)
    have htext : (b.piece br lead).text ++ rest = terminated br lines ++
        ("at ".toList ++ b.place ++ (br ++ (arrow ++ (b.piece br lead).excerpt ++ rest))) := by
      rw [hterminated]
      simp only [Piece.text, piece, place, List.append_assoc]
    have hlt : n + br.length < (terminated br lines).length := by
      have hn : n < (lead ++ b.message br).length := hn
      rw [hterminated]
      simp only [List.length_append] at hn ⊢
      omega
    rw [htext]
    exact not_beginsLocator_of_lines hbr hlines hplace _ hlt

/-- The diagnostic of a printed block is its finding, on its line. -/
theorem diagnostic?_piece (h : b.WellFormed br) {lead : List Char}
    (hlead : Text.isBlank lead = true) :
    (b.piece br lead).diagnostic? =
      some (.onReportedLine b.line (String.ofList (b.message br))) := by
  have htrim : Text.trim (lead ++ b.message br) = b.message br := by
    rw [Text.trim, Text.trimStart_append_of_isBlank hlead]
    exact h.message_trimmed
  have hblank : ¬ Text.isBlank (lead ++ b.message br) = true := by
    rw [Text.isBlank_iff_trim_eq_nil, htrim]
    exact h.message_ne_nil
  show (if Text.isBlank (lead ++ b.message br) then none else _) = _
  rw [if_neg hblank]
  show some (Diagnostic.onReportedLine (lineNumber (Nat.toDigits 10 b.line.toNat))
    (String.ofList (Text.trim (lead ++ b.message br)))) = _
  rw [lineNumber_toDigits, htrim]

end Printed

end DiagnosticBridge.Report
