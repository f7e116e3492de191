import DiagnosticBridge.Check.Flights
import DiagnosticBridge.Proofs.Priority

namespace DiagnosticBridge

/-!
# A failed compilation shows something

A report that says nothing is blank, or a banner line with nothing after it.  All of its messages
are blank then; of any other report none is.  So the test for one message that is not blank tells
exactly the reports that say nothing.

* `isBlank_skipBanner_iff` — what is left after the banner is blank in these two cases;
* `undeclared_eq_nil` — no list of symbols is in such a report;
* `isBlank_of_saysNothing`, `isBlank_of_report` — all messages are blank, or none is;
* `failureBatch_shows` — so a failed compilation shows what was reported, or how it failed.
-/

namespace Report

variable {text list rest : List Char} {report : String} {d : Diagnostic}

/-! ### Reports that say nothing -/

/-- The text is a banner line and nothing but white space after it. -/
def IsBareBanner (text : List Char) : Prop :=
  ∃ line rest, text = bannerOpening ++ line ++ '\n' :: rest ∧ '\n' ∉ line ∧
    Text.isBlank rest = true

/-- The report is blank, or a bare banner that reports no missing library. -/
def SaysNothing (report : String) : Prop :=
  Text.isBlankString report = true ∨
    (missingLibrary? report = none ∧ IsBareBanner report.toList)

/-- Blank text has no part that is not. -/
theorem not_infix_of_isBlank {mark : List Char} (hmark : Text.isBlank mark = false)
    (hblank : Text.isBlank text = true) : ¬ mark <:+: text := by
  rintro ⟨before, after, rfl⟩
  simp [Text.isBlank_append, hmark] at hblank

/-- Without its banner a text is blank if it was before, or is a bare banner. -/
theorem isBlank_skipBanner_iff :
    Text.isBlank (skipBanner text) = true ↔ Text.isBlank text = true ∨ IsBareBanner text := by
  cases hopening : Text.after? bannerOpening text with
  | none =>
    rw [skipBanner_of_not_opening hopening]
    refine (or_iff_left ?_).symm
    rintro ⟨line, rest, rfl, _⟩
    rw [List.append_assoc, Text.after?_eq_some_iff.mpr rfl] at hopening
    cases hopening
  | some tail =>
    have htext := Text.after?_eq_some_iff.mp hopening
    have hnot : ¬ Text.isBlank text = true := fun hblank =>
      not_infix_of_isBlank (by decide) hblank ⟨[], tail, htext⟩
    cases hcut : Text.cutLine? tail with
    | none =>
      -- A banner without a line feed stays.
      simp only [skipBanner, hopening, hcut]
      refine (or_iff_left ?_).symm
      rintro ⟨line, rest, heq, _⟩
      rw [← htext, List.append_assoc] at heq
      exact Text.cutLine?_eq_none_iff.mp hcut (List.append_cancel_left heq ▸ by simp)
    | some cutting =>
      obtain ⟨line, rest⟩ := cutting
      obtain ⟨rfl, hline⟩ := Text.eq_of_cutLine? hcut
      simp only [skipBanner, hopening, hcut]
      constructor
      · exact fun hrest => Or.inr ⟨line, rest, by rw [← htext, List.append_assoc], hline, hrest⟩
      · rintro (hblank | ⟨line', rest', heq, hline', hrest⟩)
        · exact absurd hblank hnot
        · rw [← htext, List.append_assoc] at heq
          have hsame := congrArg Text.cutLine? (List.append_cancel_left heq)
          rw [Text.cutLine?_append hline, Text.cutLine?_append hline', Option.some.injEq,
            Prod.mk.injEq] at hsame
          rw [hsame.2]
          exact hrest

/-! ### Lists of symbols -/

theorem exists_plural (text : List Char) : ∃ plural, text = plural ++ skipPlural text := by
  unfold skipPlural
  split
  · exact ⟨['s'], rfl⟩
  · exact ⟨[], rfl⟩

/-- A list of symbols begins on a new line. -/
theorem exists_of_findList? {s : Symbol} (h : s.findList? text = some list) :
    ∃ before, text = before ++ '\n' :: list := by
  -- Where the header is found, it ends with a line feed; before that the text is passed over.
  induction text with
  | nil => cases h
  | cons c text ih =>
    rw [Symbol.findList?] at h
    split at h
    · next found hhere =>
      simp only [Symbol.afterHeader?, bind, Option.bind_eq_some_iff] at hhere
      obtain ⟨a, ha, b, hb, hbreak⟩ := hhere
      obtain ⟨plural, hplural⟩ := exists_plural a
      obtain ⟨br, hbr, rfl⟩ := afterLineBreak?_eq_some_iff.mp hbreak
      have hword := Text.after?_eq_some_iff.mp ha
      have hcolon := Text.after?_eq_some_iff.mp hb
      have hends : ∃ before, br = before ++ ['\n'] := by
        cases hbr with
        | lf => exact ⟨[], rfl⟩
        | crlf => exact ⟨['\r'], rfl⟩
      obtain ⟨before, rfl⟩ := hends
      refine ⟨("Undeclared " ++ s.word).toList ++ plural ++ [':'] ++ before, ?_⟩
      rw [← hword, hplural, ← hcolon, ← Option.some.inj h]
      simp only [List.append_assoc, List.cons_append, List.nil_append]
    · obtain ⟨before, rfl⟩ := ih h
      exact ⟨c :: before, rfl⟩

/-- What begins on a new line of a text is part of what follows its first line. -/
theorem suffix_of_line {line before : List Char} (hline : '\n' ∉ line)
    (h : before ++ '\n' :: list = line ++ '\n' :: rest) : list <:+ rest := by
  -- Both texts are cut at a line feed; the first line holds none, so its cut comes first.
  rcases List.append_eq_append_iff.mp h with ⟨more, rfl, hrest⟩ | ⟨more, rfl, hlist⟩
  · cases more with
    | nil =>
      rw [List.nil_append, List.cons.injEq] at hrest
      exact hrest.2 ▸ List.suffix_refl _
    | cons c more =>
      rw [List.cons_append, List.cons.injEq] at hrest
      exact absurd (by simp [← hrest.1]) hline
  · cases more with
    | nil =>
      rw [List.nil_append, List.cons.injEq] at hlist
      exact hlist.2 ▸ List.suffix_refl _
    | cons c more =>
      rw [List.cons_append, List.cons.injEq] at hlist
      exact ⟨more ++ ['\n'], by rw [hlist.2, List.append_assoc]; rfl⟩

/-- The lines of a blank text are blank. -/
theorem isBlank_of_mem_lines (h : Text.isBlank text = true) :
    ∀ line ∈ Text.lines text, Text.isBlank line = true := fun _ hline =>
  List.all_eq_true.mpr fun c hc =>
    List.all_eq_true.mp h c (Text.subset_of_mem_lines hline hc)

/-- A blank line is no entry. -/
theorem ofLine?_of_isBlank {line : List Char} (h : Text.isBlank line = true) :
    Entry.ofLine? line = none := by
  have htrim : Text.trimStart line = [] := (Text.trimStart_eq_nil_iff line).mpr h
  simp [Entry.ofLine?, htrim]

/-- There are no entries in a blank list. -/
theorem leadingEntries_of_isBlank (h : Text.isBlank list = true) :
    leadingEntries (Text.lines list) = [] := by
  have hlines := isBlank_of_mem_lines h
  cases hl : Text.lines list with
  | nil => rfl
  | cons line more =>
    rw [hl] at hlines
    rw [leadingEntries, ofLine?_of_isBlank (hlines line List.mem_cons_self)]

/-- No symbols are listed in a report that is blank without its banner. -/
theorem undeclared_eq_nil (s : Symbol) (h : Text.isBlank (skipBanner report.toList) = true) :
    undeclared s report = [] := by
  have hentries : s.entries report.toList = [] := by
    unfold Symbol.entries
    split
    · next list hlist =>
      obtain ⟨before, htext⟩ := exists_of_findList? hlist
      refine leadingEntries_of_isBlank ?_
      -- A list begins on a new line, which in a bare banner is below the banner line.
      rcases isBlank_skipBanner_iff.mp h with hblank | ⟨line, rest, hbanner, hline, hrest⟩
      · rw [htext, Text.isBlank_append, Text.isBlank_cons, Bool.and_eq_true, Bool.and_eq_true]
          at hblank
        exact hblank.2.2
      · have hnot : '\n' ∉ bannerOpening ++ line := by
          rw [List.mem_append, not_or]
          exact ⟨by decide, hline⟩
        obtain ⟨more, rfl⟩ := suffix_of_line hnot (htext.symm.trans hbanner)
        rw [Text.isBlank_append, Bool.and_eq_true] at hrest
        exact hrest.2
    · rfl
  rw [undeclared, hentries, List.map_nil]

/-- No library is missing in a blank report. -/
theorem missingLibrary?_of_isBlank (h : Text.isBlankString report = true) :
    missingLibrary? report = none := by
  rw [missingLibrary?, findMissingLibrary?_eq_none (not_infix_of_isBlank (by decide) h)]
  rfl

/-! ### All or nothing -/

/-- A report says nothing if no library is missing and nothing but its banner is printed. -/
theorem saysNothing_iff :
    SaysNothing report ↔
      missingLibrary? report = none ∧ Text.isBlank (skipBanner report.toList) = true := by
  rw [isBlank_skipBanner_iff]
  constructor
  · rintro (hblank | ⟨hlibrary, hbanner⟩)
    · exact ⟨missingLibrary?_of_isBlank hblank, Or.inl hblank⟩
    · exact ⟨hlibrary, Or.inr hbanner⟩
  · rintro ⟨hlibrary, hblank | hbanner⟩
    · exact Or.inl hblank
    · exact Or.inr ⟨hlibrary, hbanner⟩

/-- Of a report that says nothing all messages are blank. -/
theorem isBlank_of_saysNothing (h : SaysNothing report) (hd : d ∈ extract report) :
    Text.isBlankString d.message = true := by
  obtain ⟨hlibrary, hbody⟩ := saysNothing_iff.mp h
  have hr := decides report
  generalize extract report = batch at hr hd
  -- Only the generic shape is left, which shows the blank body.
  cases hr with
  | missingLibrary found =>
    rw [hlibrary] at found
    cases found
  | undeclared _ found =>
    rw [undeclared_eq_nil _ hbody, undeclared_eq_nil _ hbody] at found
    exact absurd rfl found
  | generic =>
    rw [generic_eq_of_isBlank hbody] at hd
    rw [List.mem_singleton.mp hd]
    show Text.isBlank (String.ofList _).toList = true
    rw [String.toList_ofList]
    exact hbody
  | blank => exact absurd hd List.not_mem_nil

/-- Of any other report none is. -/
theorem isBlank_of_report (h : ¬ SaysNothing report) (hd : d ∈ extract report) :
    Text.isBlankString d.message = false := by
  have hr := decides report
  generalize extract report = batch at hr hd
  cases hr with
  | missingLibrary found => exact List.mem_singleton.mp hd ▸ isBlank_of_missingLibrary found
  | undeclared =>
    rcases List.mem_append.mp hd with hd | hd <;> exact isBlank_of_mem_undeclared hd
  | generic hlibrary =>
    refine isBlank_of_mem_generic ?_ hd
    rw [← Bool.not_eq_true]
    exact fun hbody => h (saysNothing_iff.mpr ⟨hlibrary, hbody⟩)
  | blank => exact absurd hd List.not_mem_nil

/-- And there are some. -/
theorem extract_ne_nil (h : ¬ SaysNothing report) : extract report ≠ [] := by
  have hr := decides report
  generalize extract report = batch at hr
  cases hr with
  | missingLibrary => exact List.cons_ne_nil _ _
  | undeclared _ found => exact found
  | generic => exact generic_ne_nil report
  | blank _ _ hblank => exact absurd (Or.inl hblank) h

/-- So nothing but blank messages is extracted exactly from the reports that say nothing. -/
theorem saysNothing_iff_isBlank :
    SaysNothing report ↔ ∀ d ∈ extract report, Text.isBlankString d.message = true := by
  refine ⟨fun h d => isBlank_of_saysNothing h, fun hblank => ?_⟩
  -- A report that says something has a diagnostic, and its message would be blank and not blank.
  by_cases hnothing : SaysNothing report
  · exact hnothing
  · obtain ⟨d, hd⟩ := List.exists_mem_of_ne_nil _ (extract_ne_nil hnothing)
    have hboth := (hblank d hd).symm.trans (isBlank_of_report hnothing hd)
    cases hboth

end Report

/-! ### What a failed compilation shows -/

open Report (SaysNothing)

variable {compiler status report : String}

theorem toList_silentFailure (compiler status : String) :
    (silentFailure compiler status).toList =
      compiler.toList ++ (" -c failed (".toList ++
        (status.toList ++ ") without printing an error".toList)) := by
  simp [silentFailure, toString]

/-- The message about a silent failure is not blank itself. -/
theorem isBlank_silentFailure (compiler status : String) :
    Text.isBlankString (silentFailure compiler status) = false := by
  have hwords : Text.isBlank " -c failed (".toList = false := by decide
  rw [Text.isBlankString, toList_silentFailure, Text.isBlank_append, Text.isBlank_append, hwords,
    Bool.false_and, Bool.and_false]

/-- The user is told of a failure about which the report says nothing. -/
theorem failureBatch_of_saysNothing (h : SaysNothing report) :
    failureBatch compiler status report = [.onLine 0 (silentFailure compiler status)] := by
  have hnone : ¬ (Report.extract report).any (!Text.isBlankString ·.message) = true := by
    rw [List.any_eq_true]
    rintro ⟨d, hd, hshown⟩
    rw [Report.isBlank_of_saysNothing h hd] at hshown
    cases hshown
  simp only [failureBatch, if_neg hnone]

/-- Otherwise the diagnostics are those of the report. -/
theorem failureBatch_of_report (h : ¬ SaysNothing report) :
    failureBatch compiler status report = Report.extract report := by
  obtain ⟨d, hd⟩ := List.exists_mem_of_ne_nil _ (Report.extract_ne_nil h)
  have hsome : (Report.extract report).any (!Text.isBlankString ·.message) = true :=
    List.any_eq_true.mpr ⟨d, hd, by rw [Report.isBlank_of_report h hd]; rfl⟩
  simp only [failureBatch, if_pos hsome]

/-- The status is given for a report that says nothing, and for no other unless the report is such
    a message itself. -/
theorem failureBatch_eq_silent_iff :
    failureBatch compiler status report = [.onLine 0 (silentFailure compiler status)] ↔
      SaysNothing report ∨
        Report.extract report = [.onLine 0 (silentFailure compiler status)] := by
  by_cases hnothing : SaysNothing report
  · exact iff_of_true (failureBatch_of_saysNothing hnothing) (Or.inl hnothing)
  · rw [failureBatch_of_report hnothing, or_iff_right hnothing]

/-- Every message of a failed compilation says something. -/
theorem isBlank_of_mem_failureBatch {d : Diagnostic} (h : d ∈ failureBatch compiler status report) :
    Text.isBlankString d.message = false := by
  by_cases hnothing : SaysNothing report
  · rw [failureBatch_of_saysNothing hnothing, List.mem_singleton] at h
    rw [h]
    exact isBlank_silentFailure compiler status
  · rw [failureBatch_of_report hnothing] at h
    exact Report.isBlank_of_report hnothing h

/-- Diagnostics are published without any exactly for a document that compiles. -/
theorem Run.batch_eq_nil_iff {r : Run} {o : Outcome} {uri : String} {generation : Nat}
    {version : Int} {batch : Batch} (h : r.event o = .published uri generation version batch) :
    batch = [] ↔ o = .ok .clean := by
  cases o with
  | error e =>
    rw [Run.event] at h
    split at h <;> cases h
  | ok verdict =>
    cases verdict with
    | clean =>
      cases h
      exact ⟨fun _ => rfl, fun _ => rfl⟩
    | failed status report =>
      cases h
      constructor
      · exact fun hnil => absurd hnil (failureBatch_ne_nil _ _ _)
      · rintro ⟨⟩

/-- **A failed compilation always shows something.** Its diagnostics are never none, and none of
    their messages is blank.  Where the report is blank, or a bare banner that reports no missing
    library, they are one diagnostic on the first line that gives the status, and otherwise what
    is extracted from the report, be it this very diagnostic; the former are exactly the reports
    of which nothing but blank messages is extracted.  Hence a check publishes no diagnostics
    exactly if the document compiles. -/
theorem failureBatch_shows :
    (∀ compiler status report,
      failureBatch compiler status report ≠ [] ∧
      (∀ d ∈ failureBatch compiler status report, Text.isBlankString d.message = false) ∧
      (SaysNothing report →
        failureBatch compiler status report = [.onLine 0 (silentFailure compiler status)] ∧
        status.toList <:+: (silentFailure compiler status).toList) ∧
      (¬ SaysNothing report → failureBatch compiler status report = Report.extract report) ∧
      (failureBatch compiler status report = [.onLine 0 (silentFailure compiler status)] ↔
        SaysNothing report ∨
          Report.extract report = [.onLine 0 (silentFailure compiler status)]) ∧
      (SaysNothing report ↔
        ∀ d ∈ Report.extract report, Text.isBlankString d.message = true)) ∧
    ∀ (r : Run) (o : Outcome) uri generation version batch,
      r.event o = .published uri generation version batch → (batch = [] ↔ o = .ok .clean) := by
  refine ⟨fun compiler status report => ⟨failureBatch_ne_nil _ _ _,
    fun d => isBlank_of_mem_failureBatch, fun h => ⟨failureBatch_of_saysNothing h, ?_⟩,
    failureBatch_of_report, failureBatch_eq_silent_iff, Report.saysNothing_iff_isBlank⟩,
    fun r o uri generation version batch => Run.batch_eq_nil_iff⟩
  rw [toList_silentFailure, ← List.append_assoc]
  exact ⟨_, _, List.append_assoc _ _ _⟩

/-- A bare banner that looks like the header of a list, and one that reports a missing library. -/
theorem failureBatch_bareBanner :
    failureBatch "perl6" "exit status: 1" "===SORRY!=== Undeclared name:\n \n" =
      [.onLine 0 "perl6 -c failed (exit status: 1) without printing an error"] ∧
    failureBatch "perl6" "exit status: 1" "===SORRY!=== Could not find A at line 3 in:\n \n" =
      [.onLine 2 "Could not find A in:\n \n"] := by
  have hnothing : SaysNothing "===SORRY!=== Undeclared name:\n \n" := by
    refine Or.inr ⟨by rfl, "!=== Undeclared name:".toList, " \n".toList, by rfl, ?_, by rfl⟩
    decide
  have hshown : ¬ SaysNothing "===SORRY!=== Could not find A at line 3 in:\n \n" := by
    rw [Report.saysNothing_iff]
    rintro ⟨hlibrary, _⟩
    cases hlibrary
  have hshows := failureBatch_shows.1 "perl6" "exit status: 1"
  exact ⟨((hshows _).2.2.1 hnothing).1, ((hshows _).2.2.2.1 hshown).trans (by rfl)⟩

end DiagnosticBridge
