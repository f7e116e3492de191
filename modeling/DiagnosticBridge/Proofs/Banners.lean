import DiagnosticBridge.Proofs.Sentences
import DiagnosticBridge.Proofs.Totality

namespace DiagnosticBridge.Report

/-!
# Reports under a banner

Only the generic shape takes the banner off; the other shapes look through the whole report.  They
find nothing in the banner, since whatever they look for opens within one line: the sentence about
a missing library and the header of a list both end their line, so that neither can begin in the
banner and go on in the report under it.

* `findMissingLibrary?_banner`, `findList?_banner` — the shapes that search pass the banner over;
* `skipBanner_banner` — the generic shape takes it off, and nothing more;
* `extract_banner` — so the diagnostics are those of the report under the banner.
-/

variable {banner rest : List Char}

/-- A line that can stand over a report: it begins as a banner does, and neither a sentence about a
    missing library nor the header of a list is in it. -/
structure IsBanner (banner : List Char) : Prop where
  /-- It begins as a banner does. -/
  opens : bannerOpening <+: banner
  /-- It is one line. -/
  one_line : '\n' ∉ banner
  /-- It does not announce a missing library. -/
  no_library : ¬ missingOpening <:+: banner
  /-- It does not end as the header of a list, a carriage return at its end left aside. -/
  no_header : ∀ s : Symbol, ∀ title ∈ s.titles, ¬ title <:+ Text.dropFinalReturn banner

namespace IsBanner

/-- Without the opening of the sentence, a banner announces nothing. -/
theorem not_announces (h : IsBanner banner) : ¬ Announces (Text.dropFinalReturn banner) := by
  rintro ⟨before, library, digits, reference, _, _, heq⟩
  have hin : missingOpening <:+: Text.dropFinalReturn banner :=
    ⟨before, library ++ reference, by rw [heq, List.append_assoc _ library reference]⟩
  refine h.no_library (hin.trans ?_)
  -- With its return the banner holds whatever it holds without.
  rcases Text.eq_or_eq_append_return banner with hsame | hmore
  · exact ⟨[], [], by rw [hsame, List.nil_append, List.append_nil]⟩
  · exact ⟨[], ['\r'], hmore⟩

/-- A banner is not the heading of a list, with or without a return at its end. -/
theorem isHeading_eq_false (h : IsBanner banner) (s : Symbol) :
    s.isHeading (Text.dropFinalReturn banner) = false := by
  rw [← Bool.not_eq_true, isHeading_iff]
  rintro ⟨title, hwords, hends⟩
  exact h.no_header s title hwords hends

/-- A banner is not blank. -/
theorem not_isBlank (h : IsBanner banner) : Text.isBlank banner = false := by
  rw [← Bool.not_eq_true]
  exact fun hblank => not_infix_of_isBlank (by decide) hblank h.opens.isInfix

end IsBanner

/-! ### Each shape under a banner -/

/-- Nothing is missed with the banner: a sentence stands on the lines below it, if at all. -/
theorem findMissingLibrary?_banner (h : IsBanner banner) (rest : List Char) :
    findMissingLibrary? (banner ++ '\n' :: rest) = findMissingLibrary? rest :=
  findMissingLibrary?_of_not_announces h.one_line h.not_announces rest

/-- A list stands below the banner, if at all. -/
theorem findList?_banner (h : IsBanner banner) (s : Symbol) (rest : List Char) :
    s.findList? (banner ++ '\n' :: rest) = s.findList? rest := by
  rw [findList?_line h.one_line, h.isHeading_eq_false s, if_neg Bool.false_ne_true]

/-- A banner is skipped with the end of its line, and nothing else. -/
theorem skipBanner_banner (h : IsBanner banner) (rest : List Char) :
    skipBanner (banner ++ '\n' :: rest) = rest := by
  obtain ⟨words, rfl⟩ := h.opens
  have hwords : '\n' ∉ words := fun hin => h.one_line (List.mem_append_right _ hin)
  rw [List.append_assoc]
  simp only [skipBanner, Text.after?_eq_some_iff.mpr rfl, Text.cutLine?_append hwords]

/-! ### Whole reports -/

variable {line body : String}

/-- The report with a line over it. -/
def under (line body : String) : String := line ++ "\n" ++ body

/-- The line comes first, then a line feed. -/
theorem toList_under (line body : String) :
    (under line body).toList = line.toList ++ '\n' :: body.toList := by
  rw [under, String.toList_append, String.toList_append, List.append_assoc]
  rfl

/-- The same library is missing under a banner as without it. -/
theorem missingLibrary?_under (h : IsBanner line.toList) (body : String) :
    missingLibrary? (under line body) = missingLibrary? body := by
  rw [missingLibrary?, missingLibrary?, toList_under, findMissingLibrary?_banner h]

/-- The same symbols are undeclared under a banner as without it. -/
theorem undeclared_under (h : IsBanner line.toList) (s : Symbol) (body : String) :
    undeclared s (under line body) = undeclared s body := by
  rw [undeclared, undeclared, Symbol.entries, Symbol.entries, toList_under, findList?_banner h]

/-- The generic shape takes one banner off, so that the report must not begin with another one. -/
theorem generic_under (h : IsBanner line.toList) (hbody : ¬ bannerOpening <+: body.toList) :
    generic (under line body) = generic body := by
  have hopening : Text.after? bannerOpening body.toList = none :=
    Option.eq_none_iff_forall_ne_some.mpr fun tail htail =>
      hbody ⟨tail, Text.after?_eq_some_iff.mp htail⟩
  simp only [generic, toList_under, skipBanner_banner h, skipBanner_of_not_opening hopening]

/-- A report under a banner is not blank. -/
theorem isBlankString_under (h : IsBanner line.toList) (body : String) :
    Text.isBlankString (under line body) = false := by
  rw [Text.isBlankString, toList_under, Text.isBlank_append, h.not_isBlank, Bool.false_and]

/-- **A banner changes nothing.** Whatever shape a report has, from the report under a banner the
    same diagnostics are extracted, provided that it is not blank and has no banner of its own. -/
theorem extract_banner (hline : IsBanner line.toList)
    (hblank : Text.isBlankString body = false) (hbody : ¬ bannerOpening <+: body.toList) :
    extract (under line body) = extract body := by
  have hlibrary := missingLibrary?_under hline body
  have hsymbols := fun s => undeclared_under hline s body
  have hdecides := decides body
  rw [extract_eq_iff]
  generalize extract body = batch at hdecides ⊢
  cases hdecides with
  | missingLibrary found => exact .missingLibrary (hlibrary.trans found)
  | undeclared no_library found =>
    rw [← hsymbols .name, ← hsymbols .routine] at found ⊢
    exact .undeclared (hlibrary.trans no_library) found
  | generic no_library no_symbol _ =>
    rw [← hsymbols .name, ← hsymbols .routine] at no_symbol
    rw [← generic_under hline hbody]
    exact .generic (hlibrary.trans no_library) no_symbol (isBlankString_under hline body)
  | blank _ _ blank =>
    rw [hblank] at blank
    cases blank

/-- The line that the compiler prints over its reports, with a carriage return at its end. -/
def sorryLine : String := "===SORRY!=== Error while compiling app.p6\r"

/-- A list of names under the compiler's banner is read as it is without the banner. -/
theorem extract_banner_names :
    IsBanner sorryLine.toList ∧
      extract (under sorryLine "Undeclared name:\r\n  foo used at line 3\r\n") =
        [.onLine 2 "name foo is not declared"] := by
  have hopens : bannerOpening <+: sorryLine.toList := ⟨_, rfl⟩
  have hlibrary : ¬ missingOpening <:+: sorryLine.toList := fun hin =>
    absurd (hin.subset (show 'C' ∈ missingOpening by decide)) (by decide +kernel)
  have hheader : ∀ s : Symbol, ∀ title ∈ s.titles,
      ¬ title <:+ Text.dropFinalReturn sorryLine.toList := by
    intro s title hwords hends
    have hin := hends.subset ((exists_title hwords).1.subset (show 'U' ∈ headerOpening by decide))
    exact absurd hin (by decide +kernel)
  have hbanner : IsBanner sorryLine.toList := ⟨hopens, by decide +kernel, hlibrary, hheader⟩
  have hbody : ¬ bannerOpening <+: "Undeclared name:\r\n  foo used at line 3\r\n".toList := by
    decide +kernel
  exact ⟨hbanner, (extract_banner hbanner rfl hbody).trans (by decide +kernel)⟩

end DiagnosticBridge.Report
