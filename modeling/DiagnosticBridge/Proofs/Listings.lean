import DiagnosticBridge.Proofs.Entries
import DiagnosticBridge.Proofs.Rendering
import DiagnosticBridge.Proofs.Totality

namespace DiagnosticBridge.Report

/-!
# Reading printed lists

Lists of undeclared symbols are read back as they were printed, entry by entry, in whatever order
the two lists stand.

* `entries_intercalate` — a report printed line by line is read line by line;
* `entriesOfLines_lists` — of all lists only those of the right kind are read, up to their end;
* `extract_lists` — so the entries are what is extracted.
-/

variable {br line blank : List Char} {lines : List (List Char)} {s : Symbol}

/-! ### Lines -/

/-- A line that is broken either way is one line of the text. -/
theorem lines_break (hbr : IsBreak br) (hline : OnOneLine line) (rest : List Char) :
    Text.lines (line ++ (br ++ rest)) = line :: Text.lines rest := by
  cases hbr with
  | lf =>
    have hcut := Text.lines_line hline.2 rest
    rwa [Text.dropFinalReturn_eq_self hline.1] at hcut
  | crlf =>
    have hreturn : '\n' ∉ line ++ ['\r'] := by simp [hline.2]
    have hcut := Text.lines_line hreturn rest
    rwa [Text.dropFinalReturn_append_return, List.append_assoc] at hcut

/-- Lines that all have a line break are read as they are. -/
theorem lines_terminated (hbr : IsBreak br) (h : ∀ line ∈ lines, OnOneLine line) :
    Text.lines (terminated br lines) = lines := by
  induction lines with
  | nil => rfl
  | cons line lines ih =>
    rw [List.forall_mem_cons] at h
    rw [terminated_cons, lines_break hbr h.1, ih h.2]

/-- Without the last line break the last line is read as well, unless it is empty. -/
theorem lines_intercalate (hbr : IsBreak br) (h : ∀ line ∈ lines, OnOneLine line) :
    lines = Text.lines (br.intercalate lines) ∨
      lines = Text.lines (br.intercalate lines) ++ [[]] := by
  induction lines with
  | nil => exact Or.inl rfl
  | cons line lines ih =>
    rw [List.forall_mem_cons] at h
    cases lines with
    | nil =>
      have hsingle : br.intercalate [line] = line := by simp [List.intercalate]
      rw [hsingle]
      by_cases hne : line = []
      · exact Or.inr (by rw [hne]; rfl)
      · exact Or.inl (Text.lines_of_no_feed h.1.2 hne).symm
    | cons next lines =>
      rw [List.intercalate_cons_cons, List.append_assoc, lines_break hbr h.1]
      rcases ih h.2 with hsame | hmore
      · exact Or.inl (congrArg (line :: ·) hsame)
      · exact Or.inr (congrArg (line :: ·) hmore)

/-- A blank line ends a list. -/
theorem leadingEntries_of_isBlank_line (h : Text.isBlank blank = true) :
    leadingEntries (blank :: lines) = [] := by
  rw [leadingEntries, ofLine?_of_isBlank h]

/-- An empty line at the end has no entry. -/
theorem leadingEntries_append_empty (lines : List (List Char)) :
    leadingEntries (lines ++ [[]]) = leadingEntries lines := by
  induction lines with
  | nil => exact leadingEntries_of_isBlank_line rfl
  | cons line lines ih =>
    rw [List.cons_append, leadingEntries, leadingEntries, ih]

/-- An empty line at the end makes no difference. -/
theorem entriesOfLines_append_empty (lines : List (List Char)) :
    s.entriesOfLines (lines ++ [[]]) = s.entriesOfLines lines := by
  induction lines with
  | nil =>
    show (if s.isHeading [] then _ else _) = _
    rw [isHeading_nil]
    rfl
  | cons line lines ih =>
    rw [List.cons_append, Symbol.entriesOfLines, Symbol.entriesOfLines, ih,
      leadingEntries_append_empty]

/-- **A report printed line by line is read line by line**, with or without a last line break. -/
theorem entries_intercalate (hbr : IsBreak br) (h : ∀ line ∈ lines, OnOneLine line)
    (hne : lines ≠ []) (closed : Bool) :
    s.entries (br.intercalate lines ++ (if closed then br else [])) = s.entriesOfLines lines := by
  rw [entries_eq]
  cases closed with
  | true =>
    rw [if_pos rfl, intercalate_append_break hne, lines_terminated hbr h]
  | false =>
    rw [if_neg Bool.false_ne_true, List.append_nil]
    rcases lines_intercalate hbr h with hsame | hmore
    · rw [← hsame]
    · conv => rhs; rw [hmore]
      rw [entriesOfLines_append_empty]

/-! ### Lists -/

/-- A list as it is printed. -/
structure PrintedList where
  /-- What its symbols are. -/
  kind : Symbol
  /-- Whether the word for them has an `s`. -/
  several : Bool
  /-- Its entries. -/
  entries : List PrintedEntry
  /-- The blank line after it, unless it ends with the text. -/
  closing : Option (List Char)

namespace PrintedList

/-- The line before the entries. -/
def header (l : PrintedList) : List Char :=
  headerOpening ++ l.kind.word.toList ++ (if l.several then ['s', ':'] else [':'])

/-- The lines of the list. -/
def allLines (l : PrintedList) : List (List Char) :=
  l.header :: (l.entries.map PrintedEntry.render ++ l.closing.toList)

/-- A list is printed under one of its titles. -/
theorem header_mem_titles (l : PrintedList) : l.header ∈ l.kind.titles := by
  cases hseveral : l.several <;> simp [header, Symbol.titles, hseveral]

/-- The list can be told from what is around it. -/
structure WellFormed (l : PrintedList) : Prop where
  /-- Each entry can be read. -/
  entry : ∀ e ∈ l.entries, e.WellFormed
  /-- No entry looks like a header. -/
  entry_unmarked : ∀ e ∈ l.entries, ¬ headerOpening <:+: e.render
  /-- The blank line is blank. -/
  closing_blank : ∀ blank ∈ l.closing, Text.isBlank blank = true ∧ OnOneLine blank

end PrintedList

/-- Without the first word of a header a line is none. -/
theorem not_isHeading (h : ¬ headerOpening <:+: line) : s.isHeading line = false := by
  rw [← Bool.not_eq_true, isHeading_iff]
  rintro ⟨title, hwords, hin⟩
  exact h ((exists_title hwords).1.isInfix.trans hin.isInfix)

/-- The header of the other list is no header of this one. -/
theorem not_isHeading_other {other : Symbol} (hne : other ≠ s) :
    ∀ title ∈ other.titles, s.isHeading title = false := by
  cases s with
  | name =>
    cases other with
    | name => exact absurd rfl hne
    | routine => decide
  | routine =>
    cases other with
    | name => decide
    | routine => exact absurd rfl hne

/-- Lines that are no headers are passed over. -/
theorem entriesOfLines_append (h : ∀ line ∈ lines, s.isHeading line = false)
    (more : List (List Char)) : s.entriesOfLines (lines ++ more) = s.entriesOfLines more := by
  induction lines with
  | nil => rfl
  | cons line lines ih =>
    rw [List.forall_mem_cons] at h
    rw [List.cons_append, Symbol.entriesOfLines, h.1, if_neg Bool.false_ne_true]
    exact ih h.2

/-- Entries are read up to the first line that is none. -/
theorem leadingEntries_render {entries : List PrintedEntry} (h : ∀ e ∈ entries, e.WellFormed)
    (more : List (List Char)) :
    leadingEntries (entries.map PrintedEntry.render ++ more) =
      entries.map PrintedEntry.entry ++ leadingEntries more := by
  induction entries with
  | nil => rfl
  | cons e entries ih =>
    rw [List.forall_mem_cons] at h
    rw [List.map_cons, List.cons_append, leadingEntries, PrintedEntry.ofLine?_render h.1]
    exact congrArg (e.entry :: ·) (ih h.2)

namespace PrintedList

variable {l : PrintedList} {more : List (List Char)}

/-- A list of the right kind is read up to its end. -/
theorem entriesOfLines_same (h : l.WellFormed) (hmore : l.closing = none → more = []) :
    l.kind.entriesOfLines (l.allLines ++ more) = l.entries.map PrintedEntry.entry := by
  have hheading : l.kind.isHeading l.header = true :=
    isHeading_iff.mpr ⟨l.header, l.header_mem_titles, List.suffix_refl _⟩
  have hend : leadingEntries (l.closing.toList ++ more) = [] := by
    cases hclosing : l.closing with
    | none =>
      rw [hmore hclosing]
      rfl
    | some blank => exact leadingEntries_of_isBlank_line (h.closing_blank blank hclosing).1
  rw [allLines, List.cons_append, Symbol.entriesOfLines, if_pos hheading, List.append_assoc,
    leadingEntries_render h.entry, hend, List.append_nil]

/-- A list of the other kind is passed over. -/
theorem entriesOfLines_other (h : l.WellFormed) (hne : l.kind ≠ s) :
    s.entriesOfLines (l.allLines ++ more) = s.entriesOfLines more := by
  refine entriesOfLines_append (List.forall_mem_cons.mpr ⟨?_, fun line hline => ?_⟩) more
  · exact not_isHeading_other hne _ l.header_mem_titles
  · rcases List.mem_append.mp hline with hline | hline
    · obtain ⟨e, he, rfl⟩ := List.mem_map.mp hline
      exact not_isHeading (h.entry_unmarked e he)
    · have hblank := (h.closing_blank line (Option.mem_toList.mp hline)).1
      exact not_isHeading (not_infix_of_isBlank (by decide) hblank)

theorem onOneLine_allLines (h : l.WellFormed) : ∀ line ∈ l.allLines, OnOneLine line := by
  refine List.forall_mem_cons.mpr ⟨(exists_title l.header_mem_titles).2.1, fun line hline => ?_⟩
  rcases List.mem_append.mp hline with hline | hline
  · obtain ⟨e, he, rfl⟩ := List.mem_map.mp hline
    exact PrintedEntry.onOneLine_render (h.entry e he)
  · exact (h.closing_blank line (Option.mem_toList.mp hline)).2

end PrintedList

/-- The entries of the lists of one kind. -/
def entriesOfKind (s : Symbol) (lists : List PrintedList) : List PrintedEntry :=
  (lists.filter (·.kind = s)).flatMap PrintedList.entries

/-- **Of all lists only those of the right kind are read**, if there is one of each kind at most
    and each but the last ends with a blank line. -/
theorem entriesOfLines_lists {lists : List PrintedList} (hwell : ∀ l ∈ lists, l.WellFormed)
    (hkinds : (lists.map PrintedList.kind).Nodup)
    (hclosing : ∀ l ∈ lists.dropLast, l.closing ≠ none) :
    s.entriesOfLines (lists.flatMap PrintedList.allLines) =
      (entriesOfKind s lists).map PrintedEntry.entry := by
  induction lists with
  | nil => rfl
  | cons l lists ih =>
    rw [List.forall_mem_cons] at hwell
    rw [List.map_cons, List.nodup_cons] at hkinds
    have hlast : l.closing = none → lists.flatMap PrintedList.allLines = [] := by
      intro hnone
      cases lists with
      | nil => rfl
      | cons next lists => exact absurd hnone (hclosing l List.mem_cons_self)
    have hrest : ∀ k ∈ lists.dropLast, k.closing ≠ none := by
      cases lists with
      | nil => exact fun k hk => absurd hk List.not_mem_nil
      | cons next lists => exact fun k hk => hclosing k (List.mem_cons_of_mem l hk)
    rw [List.flatMap_cons]
    by_cases hkind : l.kind = s
    · subst hkind
      -- There is no other list of this kind.
      have hnone : lists.filter (·.kind = l.kind) = [] := by
        refine List.filter_eq_nil_iff.mpr fun k hk => ?_
        rw [decide_eq_true_eq]
        exact fun hsame => hkinds.1 (hsame ▸ List.mem_map_of_mem hk)
      rw [PrintedList.entriesOfLines_same hwell.1 hlast]
      simp [entriesOfKind, hnone]
    · rw [PrintedList.entriesOfLines_other hwell.1 hkind, ih hwell.2 hkinds.2 hrest]
      simp [entriesOfKind, hkind]

/-! ### Reports -/

/-- A report of lists, perhaps with a banner line before them. -/
structure PrintedLists where
  /-- What follows the opening of the banner. -/
  banner : Option (List Char)
  /-- The lists. -/
  lists : List PrintedList
  /-- Whether there is a line break at the end. -/
  closed : Bool

namespace PrintedLists

/-- The lines of the report. -/
def allLines (r : PrintedLists) : List (List Char) :=
  (r.banner.map (bannerOpening ++ ·)).toList ++ r.lists.flatMap PrintedList.allLines

/-- The report as it is printed. -/
def text (br : List Char) (r : PrintedLists) : List Char :=
  br.intercalate r.allLines ++ (if r.closed then br else [])

/-- The diagnostics that are expected for the symbols of one kind. -/
def diagnostics (s : Symbol) (r : PrintedLists) : List Diagnostic :=
  (entriesOfKind s r.lists).map (PrintedEntry.diagnostic s)

/-- The report holds at most one list of each kind, and some entry. -/
structure WellFormed (r : PrintedLists) : Prop where
  /-- The banner is one line. -/
  banner_line : ∀ more ∈ r.banner, OnOneLine more
  /-- It does not look like a header. -/
  banner_unmarked : ∀ more ∈ r.banner, ¬ headerOpening <:+: bannerOpening ++ more
  /-- Each list can be read. -/
  list : ∀ l ∈ r.lists, l.WellFormed
  /-- No two lists are of one kind. -/
  kinds : (r.lists.map PrintedList.kind).Nodup
  /-- Only the last list may end with the text. -/
  closing : ∀ l ∈ r.lists.dropLast, l.closing ≠ none
  /-- There is an entry. -/
  some_entry : ∃ l ∈ r.lists, l.entries ≠ []

variable {r : PrintedLists}

theorem onOneLine_allLines (h : r.WellFormed) : ∀ line ∈ r.allLines, OnOneLine line := by
  intro line hline
  rcases List.mem_append.mp hline with hline | hline
  · obtain ⟨more, hmore, rfl⟩ := Option.map_eq_some_iff.mp (Option.mem_toList.mp hline)
    exact onOneLine_append.mpr ⟨by decide, h.banner_line more hmore⟩
  · obtain ⟨l, hl, hline⟩ := List.mem_flatMap.mp hline
    exact PrintedList.onOneLine_allLines (h.list l hl) line hline

/-- The entries of each kind are read. -/
theorem entries_text (hbr : IsBreak br) (h : r.WellFormed) (s : Symbol) :
    s.entries (r.text br) = (entriesOfKind s r.lists).map PrintedEntry.entry := by
  have hne : r.allLines ≠ [] := by
    obtain ⟨l, hl, _⟩ := h.some_entry
    refine List.append_ne_nil_of_right_ne_nil _ (List.ne_nil_of_mem (a := l.header) ?_)
    exact List.mem_flatMap.mpr ⟨l, hl, List.mem_cons_self⟩
  have hbanner : ∀ line ∈ (r.banner.map (bannerOpening ++ ·)).toList,
      s.isHeading line = false := by
    intro line hline
    obtain ⟨more, hmore, rfl⟩ := Option.map_eq_some_iff.mp (Option.mem_toList.mp hline)
    exact not_isHeading (h.banner_unmarked more hmore)
  rw [text, entries_intercalate hbr (onOneLine_allLines h) hne, allLines,
    entriesOfLines_append hbanner, entriesOfLines_lists h.list h.kinds h.closing]

/-- The symbols of each kind are read as they are printed. -/
theorem undeclared_text (hbr : IsBreak br) (h : r.WellFormed) (s : Symbol) :
    undeclared s (String.ofList (r.text br)) = r.diagnostics s := by
  rw [undeclared, String.toList_ofList, entries_text hbr h, List.map_map, diagnostics]
  refine List.map_congr_left fun e he => ?_
  obtain ⟨l, hl, he⟩ := List.mem_flatMap.mp he
  exact PrintedEntry.diagnostic_entry ((h.list l (List.mem_filter.mp hl).1).entry e he) s

/-- Some symbol is reported. -/
theorem diagnostics_ne_nil (h : r.WellFormed) :
    r.diagnostics .name ++ r.diagnostics .routine ≠ [] := by
  obtain ⟨l, hl, hentries⟩ := h.some_entry
  obtain ⟨e, he⟩ := List.exists_mem_of_ne_nil _ hentries
  have hmem : e ∈ entriesOfKind l.kind r.lists :=
    List.mem_flatMap.mpr ⟨l, List.mem_filter.mpr ⟨hl, decide_eq_true rfl⟩, he⟩
  have hdiagnostic : e.diagnostic l.kind ∈ r.diagnostics l.kind := List.mem_map_of_mem hmem
  cases hkind : l.kind with
  | name =>
    rw [hkind] at hdiagnostic
    exact List.append_ne_nil_of_left_ne_nil (List.ne_nil_of_mem hdiagnostic) _
  | routine =>
    rw [hkind] at hdiagnostic
    exact List.append_ne_nil_of_right_ne_nil _ (List.ne_nil_of_mem hdiagnostic)

end PrintedLists

/-- **Printed lists are read back.** A report of a list of names, a list of routines or both, in
    either order, perhaps with a banner line before them and with one kind of line break
    throughout, gives exactly one diagnostic for each entry, in order, the names before the
    routines: on the first line of the entry, counted from zero, with the symbol and the advice in
    the message.  This holds unless the text carries the mark of a missing library. -/
theorem extract_lists (hbr : IsBreak br) {r : PrintedLists} (h : r.WellFormed)
    (hlibrary : ¬ "Could not find ".toList <:+: r.text br) :
    extract (String.ofList (r.text br)) = r.diagnostics .name ++ r.diagnostics .routine := by
  have hmissing : missingLibrary? (String.ofList (r.text br)) = none := by
    rw [missingLibrary?, String.toList_ofList, findMissingLibrary?_eq_none hlibrary]
    rfl
  have hname := PrintedLists.undeclared_text hbr h .name
  have hroutine := PrintedLists.undeclared_text hbr h .routine
  have hfound := Decides.undeclared hmissing
    (by rw [hname, hroutine]; exact PrintedLists.diagnostics_ne_nil h)
  rw [hname, hroutine] at hfound
  exact extract_eq_iff.mpr hfound

/-- A routine with two lines and advice, and after it a name that the compiler could not place. -/
def twoLists : PrintedLists :=
  ⟨some ['!'],
    [⟨.routine, true,
        [⟨[' ', '\t'], ['f', ':'], true, 7, [['9']], [' ', 'o', 'h', ',']⟩], some [' ']⟩,
      ⟨.name, false, [⟨[' '], ['A'], false, 0, [], []⟩], none⟩], true⟩

theorem extract_twoLists :
    extract (String.ofList (twoLists.text ['\r', '\n'])) =
      [.onLine 0 "name A is not declared", .onLine 6 "routine f: is not declared oh,"] := by
  have hroutine : PrintedEntry.WellFormed
      ⟨[' ', '\t'], ['f', ':'], true, 7, [['9']], [' ', 'o', 'h', ',']⟩ :=
    { indent_ne_nil := by decide
      indent_blank := by simp
      symbol_ne_nil := by decide
      symbol_space :=
        List.forall_mem_cons.mpr ⟨by decide, List.forall_mem_singleton.mpr (by decide)⟩
      further_digits :=
        List.forall_mem_singleton.mpr ⟨by decide, List.forall_mem_singleton.mpr (by decide)⟩
      advice_line := by decide
      advice_trimmed := fun _ hc => Option.some.inj hc ▸ by decide
      advice_digit := fun _ hc => Option.some.inj hc ▸ by decide
      advice_further := fun _ _ h => absurd (List.cons.inj h).1 (by decide) }
  have hname : PrintedEntry.WellFormed ⟨[' '], ['A'], false, 0, [], []⟩ :=
    { indent_ne_nil := by decide
      indent_blank := by simp
      symbol_ne_nil := by decide
      symbol_space := List.forall_mem_singleton.mpr (by decide)
      further_digits := List.forall_mem_nil _
      advice_line := by decide
      advice_trimmed := by simp
      advice_digit := by simp
      advice_further := fun _ _ h => absurd h.symm (List.cons_ne_nil _ _) }
  -- Neither mark can occur where one of its letters does not.
  have hno : ∀ line : List Char, 'U' ∉ line → ¬ headerOpening <:+: line :=
    fun line hU hin => hU (hin.subset (by decide))
  have hlists : ∀ l ∈ twoLists.lists, l.WellFormed := by
    intro l hl
    rcases List.mem_cons.mp hl with rfl | hl
    · exact ⟨List.forall_mem_singleton.mpr hroutine,
        List.forall_mem_singleton.mpr (hno _ (by decide)), by decide⟩
    · rw [List.mem_singleton.mp hl]
      exact ⟨List.forall_mem_singleton.mpr hname,
        List.forall_mem_singleton.mpr (hno _ (by decide)), by decide⟩
  have hwell : twoLists.WellFormed :=
    ⟨by decide, fun more hmore => Option.some.inj hmore ▸ hno _ (by decide), hlists, by decide,
      by decide, ⟨_, List.mem_cons_self, List.cons_ne_nil _ _⟩⟩
  have hC : 'C' ∉ twoLists.text ['\r', '\n'] := by decide
  have hlibrary : ¬ "Could not find ".toList <:+: twoLists.text ['\r', '\n'] :=
    fun hin => hC (hin.subset (by decide))
  exact extract_lists .crlf hwell hlibrary

end DiagnosticBridge.Report
