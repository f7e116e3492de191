import DiagnosticBridge.Proofs.Failures
import DiagnosticBridge.Proofs.Headers

namespace DiagnosticBridge.Report

/-!
# Every report is read

Whether a shape is looked for and what it finds are decided apart, and the groups of shapes are
tried one after the other.  Nothing gets lost in between.

* `contribution_of_not_blank` — a shape without its mark would find nothing anyway;
* `afterBanner_skipBanner` — what the generic shape reads;
* `extract_eq_nil_iff` — only of a blank report nothing is extracted;
* `first_group_decides` — the whole rule.
-/

variable {text : String}

/-! ### The marks of the shapes -/

/-- Looking for the mark first takes no diagnostic away. -/
theorem contribution_of_not_blank (h : Text.isBlankString text = false) (shape : Shape) :
    shape.contribution text = shape.extract text := by
  cases shape with
  | missingLibrary => exact contribution_missingLibrary text
  | undeclared s => exact contribution_undeclared s text
  | generic => rw [contribution_generic, h, if_neg Bool.false_ne_true, Shape.extract]

/-- The mark of a list is its header. -/
theorem isMarked_undeclared_iff {s : Symbol} :
    (Shape.undeclared s).isMarked text = true ↔
      ∃ header, IsHeader s header ∧ header <:+: text.toList :=
  isSome_findList?_iff

/-- Text with a header is not blank. -/
theorem not_blank_of_header {s : Symbol} {header : List Char} (hheader : IsHeader s header)
    (hin : header <:+: text.toList) : Text.isBlankString text = false := by
  cases hheader with
  | @intro title br hwords =>
    have hopening : headerOpening <+: title ++ br :=
      (exists_title hwords).1.trans (List.prefix_append title br)
    rw [← Bool.not_eq_true]
    exact fun hblank => not_infix_of_isBlank (by decide) hblank (hopening.isInfix.trans hin)

/-! ### What the generic shape reads -/

/-- What is left of a text without its banner: the text after a banner line at its front, or all
    of it if there is none. -/
inductive AfterBanner : List Char → List Char → Prop where
  /-- The text begins with a banner line. -/
  | banner {line rest : List Char} (one_line : '\n' ∉ line) :
      AfterBanner (bannerOpening ++ line ++ '\n' :: rest) rest
  /-- It does not. -/
  | whole {text : List Char}
      (no_banner : ∀ line rest, '\n' ∉ line → text ≠ bannerOpening ++ line ++ '\n' :: rest) :
      AfterBanner text text

/-- Without its banner a report is what is left after the banner line. -/
theorem afterBanner_skipBanner (text : List Char) : AfterBanner text (skipBanner text) := by
  cases hopening : Text.after? bannerOpening text with
  | none =>
    rw [skipBanner_of_not_opening hopening]
    refine .whole fun line rest _ heq => ?_
    rw [heq, List.append_assoc, Text.after?_eq_some_iff.mpr rfl] at hopening
    cases hopening
  | some tail =>
    obtain rfl := Text.after?_eq_some_iff.mp hopening
    simp only [skipBanner, hopening]
    -- A banner that no line feed ends is not taken off.
    cases hcut : Text.cutLine? tail with
    | none =>
      refine .whole fun line rest _ heq => ?_
      rw [List.append_assoc] at heq
      refine Text.cutLine?_eq_none_iff.mp hcut ?_
      rw [List.append_cancel_left heq]
      simp
    | some cutting =>
      obtain ⟨line, rest⟩ := cutting
      obtain ⟨rfl, hline⟩ := Text.eq_of_cutLine? hcut
      rw [← List.append_assoc]
      exact .banner hline

/-- Nothing is taken off but at the front. -/
theorem skipBanner_suffix (text : List Char) : skipBanner text <:+ text := by
  have h := afterBanner_skipBanner text
  generalize skipBanner text = rest at h
  cases h with
  | @banner line =>
    have hends : rest <:+ '\n' :: rest := List.suffix_cons _ _
    exact hends.trans (List.suffix_append (bannerOpening ++ line) _)
  | whole => exact List.suffix_refl text

/-- The generic shape gives all blocks, or shows the whole of what it reads. -/
theorem generic_cases (text : String) :
    (locatedFindings (skipBanner text.toList) ≠ [] ∧
        generic text = locatedFindings (skipBanner text.toList)) ∨
      (locatedFindings (skipBanner text.toList) = [] ∧
        generic text = [.onLine 0 (String.ofList (skipBanner text.toList))]) := by
  by_cases hfound : locatedFindings (skipBanner text.toList) = []
  · refine Or.inr ⟨hfound, ?_⟩
    simp only [generic, hfound]
  · refine Or.inl ⟨hfound, ?_⟩
    simp only [generic]

/-! ### The whole rule -/

/-- A blank report has neither a library nor a symbol in it. -/
theorem nothing_of_isBlank (h : Text.isBlankString text = true) :
    missingLibrary? text = none ∧ undeclared .name text ++ undeclared .routine text = [] := by
  have hbody : Text.isBlank (skipBanner text.toList) = true :=
    isBlank_skipBanner_iff.mpr (Or.inl h)
  refine ⟨missingLibrary?_of_isBlank h, ?_⟩
  rw [undeclared_eq_nil .name hbody, undeclared_eq_nil .routine hbody, List.append_nil]

/-- The four ways in which a report is read exclude each other. -/
theorem Decides.unique {batch other : Batch} (h : Decides text batch) (h' : Decides text other) :
    batch = other := by
  -- Each way excludes the others by the conditions that stand before it.
  cases h <;> cases h' <;> simp_all

/-- The batch that is extracted is the one that the shapes decide. -/
theorem extract_eq_iff {batch : Batch} : extract text = batch ↔ Decides text batch :=
  ⟨fun h => h ▸ decides text, (decides text).unique⟩

/-- **Nothing is extracted from blank reports only.** -/
theorem extract_eq_nil_iff : extract text = [] ↔ Text.isBlankString text = true := by
  constructor
  · intro hnil
    have hr := decides text
    rw [hnil] at hr
    generalize hbatch : ([] : Batch) = batch at hr
    cases hr with
    | missingLibrary => cases hbatch
    | undeclared _ found => exact absurd hbatch.symm found
    | generic => exact absurd hbatch.symm (generic_ne_nil text)
    | blank _ _ blank => exact blank
  · intro hblank
    obtain ⟨hlibrary, hsymbols⟩ := nothing_of_isBlank hblank
    exact extract_eq_iff.mpr (.blank hlibrary hsymbols hblank)

/-- **The first group that yields a diagnostic decides, and one does unless the report is blank.**
    A missing library comes before all else.  Then come the undeclared symbols, the names before
    the routines, wherever their lists stand in the report.  Any other report that is not blank is
    read without its banner: its blocks are given, or it is shown as it is.  A shape that is not
    marked would have found nothing, unless the report is blank, and a header without an entry
    that can be read hides nothing. -/
theorem first_group_decides (text : String) :
    (extract text = [] ↔ Text.isBlankString text = true) ∧
    (∀ d, missingLibrary? text = some d → extract text = [d]) ∧
    (missingLibrary? text = none →
      (undeclared .name text ++ undeclared .routine text ≠ [] →
        extract text = undeclared .name text ++ undeclared .routine text) ∧
      (undeclared .name text ++ undeclared .routine text = [] →
        Text.isBlankString text = false → extract text = generic text)) ∧
    (∃ rest, AfterBanner text.toList rest ∧
      ((locatedFindings rest ≠ [] ∧ generic text = locatedFindings rest) ∨
        (locatedFindings rest = [] ∧ generic text = [.onLine 0 (String.ofList rest)]))) ∧
    (Text.isBlankString text = false →
      ∀ shape : Shape, shape.contribution text = shape.extract text) ∧
    (∀ s, ((Shape.undeclared s).isMarked text = true ↔
        ∃ header, IsHeader s header ∧ header <:+: text.toList) ∧
      ((Shape.undeclared s).isMarked text = true → missingLibrary? text = none →
        undeclared .name text ++ undeclared .routine text = [] →
          extract text = generic text ∧ generic text ≠ [])) := by
  refine ⟨extract_eq_nil_iff, fun d hd => extract_eq_iff.mpr (.missingLibrary hd),
    fun hlibrary => ⟨fun hsymbols => extract_eq_iff.mpr (.undeclared hlibrary hsymbols),
      fun hsymbols hblank => extract_eq_iff.mpr (.generic hlibrary hsymbols hblank)⟩,
    ⟨_, afterBanner_skipBanner _, generic_cases text⟩, contribution_of_not_blank, fun s => ?_⟩
  refine ⟨isMarked_undeclared_iff, fun hmarked hlibrary hsymbols => ⟨?_, generic_ne_nil text⟩⟩
  obtain ⟨header, hheader, hin⟩ := isMarked_undeclared_iff.mp hmarked
  exact extract_eq_iff.mpr (.generic hlibrary hsymbols (not_blank_of_header hheader hin))

/-- Routines are listed before names here, and given after them; the header of an empty list is
    shown with all of the report; a banner is not. -/
theorem extract_names_first :
    extract "Undeclared routine:\n b used at line 2\n\nUndeclared name:\n A used at line 1\n" =
      [.onLine 0 "name A is not declared", .onLine 1 "routine b is not declared"] ∧
    extract "===SORRY!===\nUndeclared name:\nOdd\n" = [.onLine 0 "Undeclared name:\nOdd\n"] := by
  have hlists := (first_group_decides
    "Undeclared routine:\n b used at line 2\n\nUndeclared name:\n A used at line 1\n").2.2.1 rfl
  have hempty := (first_group_decides "===SORRY!===\nUndeclared name:\nOdd\n").2.2.2.2.2 .name
  exact ⟨(hlists.1 (by decide +kernel)).trans (by decide +kernel),
    (hempty.2 (by decide +kernel) rfl rfl).1.trans (by decide +kernel)⟩

end DiagnosticBridge.Report
