import DiagnosticBridge.Proofs.BareLocators
import DiagnosticBridge.Proofs.Sentences
import DiagnosticBridge.Proofs.Totality
import Mathlib.Data.List.Basic

namespace DiagnosticBridge

/-!
# Line ends of two characters

What is extracted from a report does not depend on whether its lines end in line feeds or in line
feeds with a carriage return before each: the diagnostics are the same, but for the returns in their
messages.  The exception are locators without a finding.

* `missingLibrary?_withReturns`, `undeclared_withReturns`, `generic_withReturns` — what each shape
  makes of the returns;
* `extract_withReturns` — the same is extracted from a report in which each locator has a finding;
* `extract_bareLocators` — not so if one has none.
-/

/-- The diagnostic without the carriage returns that stand before a line feed in its message. -/
def Diagnostic.withoutReturns (d : Diagnostic) : Diagnostic :=
  { d with message := String.ofList (Text.withoutReturns d.message.toList) }

namespace Report

variable {text line : List Char} {report : String}

open Text (withReturns withReturnsString)

/-- Returns are taken from the message; the line stays. -/
theorem withoutReturns_onLine (n : UInt32) (message : List Char) :
    (Diagnostic.onLine n (String.ofList message)).withoutReturns =
      .onLine n (String.ofList (Text.withoutReturns message)) := by
  show Diagnostic.onLine n (String.ofList (Text.withoutReturns (String.ofList message).toList)) = _
  rw [String.toList_ofList]

/-! ### Missing libraries -/

/-- The sentence about a missing library is read with a return after it as without one. -/
theorem missingLibraryHere?_withReturns (h : '\r' ∉ text) :
    missingLibraryHere? (withReturns text) =
      (missingLibraryHere? text).map fun m => { m with places := withReturns m.places } := by
  have hopening : OnOneLine missingOpening := by decide
  simp only [missingLibraryHere?, bind, Text.after?_withReturns hopening]
  cases hafter : Text.after? missingOpening text with
  | none => rfl
  | some tail =>
    simp only [Option.map_some, Option.bind_some, Text.cutLine?_withReturns]
    cases hcut : Text.cutLine? tail with
    | none => rfl
    | some cutting =>
      obtain ⟨line, places⟩ := cutting
      obtain ⟨rfl, _⟩ := Text.eq_of_cutLine? hcut
      have hline : '\r' ∉ line := by
        obtain rfl := Text.after?_eq_some_iff.mp hafter
        exact fun hin => h (List.mem_append_right _ (List.mem_append_left _ hin))
      have hsplit : splitLineReference? (line ++ ['\r']) = splitLineReference? line := by
        rw [splitLineReference?, splitLineReference?, Text.dropFinalReturn_append_return,
          Text.dropFinalReturn_eq_self hline]
      simp only [Option.map_some, Option.bind_some, hsplit]
      cases splitLineReference? line <;> rfl

/-- The return at the end of the sentence belongs to its line end. -/
theorem findMissingLibrary?_withReturns (h : '\r' ∉ text) :
    findMissingLibrary? (withReturns text) =
      (findMissingLibrary? text).map fun m => { m with places := withReturns m.places } := by
  induction text with
  | nil => rfl
  | cons c text ih =>
    have hhere := missingLibraryHere?_withReturns h
    have ih := ih fun hin => h (List.mem_cons_of_mem c hin)
    by_cases hc : c = '\n'
    · subst hc
      -- Neither the return nor the line feed after it begins a sentence.
      have hreturn : missingLibraryHere? ('\r' :: '\n' :: withReturns text) = none := rfl
      have hfeed : ∀ more, missingLibraryHere? ('\n' :: more) = none := fun _ => rfl
      rw [Text.withReturns_feed, findMissingLibrary?, hreturn, findMissingLibrary?, hfeed,
        findMissingLibrary?, hfeed]
      exact ih
    · rw [Text.withReturns_cons hc] at hhere ⊢
      rw [findMissingLibrary?, findMissingLibrary?, hhere]
      cases missingLibraryHere? (c :: text) with
      | none => exact ih
      | some m => rfl

/-- The parts of the sentence are parts of the report. -/
theorem return_not_mem_of_findMissingLibrary? {m : MissingLibrary} (h : '\r' ∉ text)
    (hfound : findMissingLibrary? text = some m) : '\r' ∉ m.library ∧ '\r' ∉ m.places := by
  obtain ⟨earlier, line, hline, _, hsentence⟩ := findMissingLibrary?_eq_some_iff.mp hfound
  obtain ⟨before, rfl⟩ := exists_of_isLine hline
  rw [List.mem_append, List.mem_append, List.mem_cons, not_or, not_or, not_or] at h
  obtain ⟨⟨_, hr⟩, _, hplaces⟩ := h
  rw [Text.dropFinalReturn_eq_self hr] at hsentence
  obtain ⟨library, digits, places⟩ := m
  cases hsentence with
  | intro =>
    rw [List.mem_append, List.mem_append, not_or, not_or] at hr
    exact ⟨hr.1.2, hplaces⟩

/-- Hence a missing library is reported either way. -/
theorem missingLibrary?_withReturns (h : '\r' ∉ report.toList) :
    (missingLibrary? (withReturnsString report)).map Diagnostic.withoutReturns =
      missingLibrary? report := by
  rw [missingLibrary?, withReturnsString, String.toList_ofList, findMissingLibrary?_withReturns h,
    missingLibrary?, Option.map_map, Option.map_map]
  refine Option.map_congr fun m hm => ?_
  obtain ⟨hlibrary, hplaces⟩ := return_not_mem_of_findMissingLibrary? h hm
  have hfront : '\r' ∉ missingOpening ++ m.library ++ lineClosing ++ ['\n'] := by
    have hwords : '\r' ∉ missingOpening ∧ '\r' ∉ lineClosing ++ ['\n'] := by decide
    rw [List.append_assoc, List.mem_append, List.mem_append, not_or, not_or]
    exact ⟨⟨hwords.1, hlibrary⟩, hwords.2⟩
  have hback := Text.withoutReturns_append hfront (withReturns m.places)
  rw [Text.withoutReturns_withReturns hplaces, List.append_assoc _ ['\n'],
    List.append_assoc _ ['\n']] at hback
  refine (withoutReturns_onLine _ _).trans ?_
  exact congrArg (Diagnostic.onLine _ <| String.ofList ·) hback

/-! ### Undeclared symbols -/

/-- What follows further line numbers stands at the end of the text. -/
theorem skipFurtherLines_suffix (text : List Char) : skipFurtherLines text <:+ text := by
  fun_induction skipFurtherLines text with
  | case1 d rest _ ih =>
    exact ih.trans ((List.dropWhile_suffix _).trans ⟨[',', ' ', d], rfl⟩)
  | case2 | case3 => exact List.suffix_refl _

/-- An entry is read from a line in which a blank stands before the numbers. -/
theorem exists_numbers_of_ofLine? {e : Entry} (h : Entry.ofLine? line = some e) :
    e.symbol ⊆ line ∧ ∃ before numbers, line = before ++ ' ' :: numbers ∧
      e.digits = (spanDigits numbers).1 ∧ e.digits ≠ [] ∧
      e.advice = skipFurtherLines (spanDigits numbers).2 := by
  have hstart : Text.trimStart line <:+ line := List.dropWhile_suffix _
  simp only [Entry.ofLine?, bind] at h
  split at h
  · cases h
  · split at h
    · cases h
    · simp only [Option.bind_eq_some_iff, Text.after?_eq_some_iff] at h
      obtain ⟨used, hused, numbers, hnumbers, hread⟩ := h
      split at hread
      · cases hread
      · next hne =>
        obtain rfl := Option.some.inj hread
        obtain ⟨plural, hplural⟩ := exists_plural used
        have hnumbers : ' ' :: numbers <:+ used :=
          ⟨plural, (congrArg (plural ++ ·) hnumbers).trans hplural.symm⟩
        have hused : used <:+ Text.trimStart line :=
          List.IsSuffix.trans ⟨_, hused⟩ (List.dropWhile_suffix _)
        obtain ⟨before, hline⟩ := (hnumbers.trans hused).trans hstart
        exact ⟨List.Subset.trans (List.takeWhile_prefix _).subset hstart.subset, before, numbers,
          hline.symm, rfl, by simpa using hne, rfl⟩

/-- What an entry tells is part of its line. -/
theorem subset_of_ofLine? {e : Entry} (h : Entry.ofLine? line = some e) :
    e.symbol ⊆ line ∧ e.advice ⊆ line := by
  obtain ⟨hsymbol, before, numbers, hline, _, _, hadvice⟩ := exists_numbers_of_ofLine? h
  have hsuffix : e.advice <:+ numbers := by
    rw [hadvice]
    exact (skipFurtherLines_suffix _).trans (List.dropWhile_suffix _)
  have hnumbers : numbers <:+ line := ⟨before ++ [' '], by rw [hline, List.append_assoc]; rfl⟩
  exact ⟨hsymbol, (hsuffix.trans hnumbers).subset⟩

/-- Each entry at the front of a list is read from a line of its own. -/
theorem exists_of_mem_leadingEntries {e : Entry} {lines : List (List Char)}
    (h : e ∈ leadingEntries lines) : ∃ line ∈ lines, Entry.ofLine? line = some e := by
  induction lines with
  | nil => cases h
  | cons line lines ih =>
    rw [leadingEntries] at h
    split at h
    · next first hfirst =>
      rcases List.mem_cons.mp h with rfl | h
      · exact ⟨line, List.mem_cons_self, hfirst⟩
      · obtain ⟨later, hlater, heq⟩ := ih h
        exact ⟨later, List.mem_cons_of_mem line hlater, heq⟩
    · cases h

/-- So is each entry of a report. -/
theorem exists_of_mem_entriesOfLines {s : Symbol} {e : Entry} {lines : List (List Char)}
    (h : e ∈ s.entriesOfLines lines) : ∃ line ∈ lines, Entry.ofLine? line = some e := by
  induction lines with
  | nil => cases h
  | cons line lines ih =>
    rw [Symbol.entriesOfLines] at h
    have hlater : ∃ line ∈ lines, Entry.ofLine? line = some e := by
      split at h
      · exact exists_of_mem_leadingEntries h
      · exact ih h
    obtain ⟨later, hmem, heq⟩ := hlater
    exact ⟨later, List.mem_cons_of_mem line hmem, heq⟩

/-- No return is in the message of an entry unless one is in the report. -/
theorem return_not_mem_message {s : Symbol} {e : Entry} (h : '\r' ∉ text)
    (he : e ∈ s.entries text) : '\r' ∉ e.message s := by
  rw [entries_eq] at he
  obtain ⟨line, hline, hread⟩ := exists_of_mem_entriesOfLines he
  have hr : '\r' ∉ line := fun hin => h (Text.subset_of_mem_lines hline hin)
  obtain ⟨hsymbol, hadvice⟩ := subset_of_ofLine? hread
  have hword : '\r' ∉ s.word.toList := by cases s <;> decide
  have htold : '\r' ∉ " is not declared".toList := by decide
  have htrimmed : '\r' ∉ Text.trimEnd e.advice :=
    fun hin => hr (hadvice (Text.trimEnd_subset e.advice hin))
  rw [Entry.message]
  generalize " is not declared".toList = told at htold ⊢
  rw [List.mem_append, List.mem_append, List.mem_append, List.mem_cons]
  rintro (((hin | hin | hin) | hin) | hin)
  · exact hword hin
  · cases hin
  · exact hr (hsymbol hin)
  · exact htold hin
  · exact htrimmed hin

/-- Entries are read line by line, so that no return is seen. -/
theorem entries_withReturns (s : Symbol) (h : '\r' ∉ text) :
    s.entries (withReturns text) = s.entries text := by
  rw [entries_eq, Text.lines_withReturns h, ← entries_eq]

/-- The same symbols are undeclared with returns as without them. -/
theorem undeclared_withReturns (s : Symbol) (h : '\r' ∉ report.toList) :
    undeclared s (withReturnsString report) = undeclared s report ∧
      (undeclared s report).map Diagnostic.withoutReturns = undeclared s report := by
  constructor
  · rw [undeclared, withReturnsString, String.toList_ofList, entries_withReturns s h, undeclared]
  · rw [undeclared, List.map_map]
    refine List.map_congr_left fun e he => (withoutReturns_onLine _ _).trans ?_
    rw [Text.withoutReturns_eq_self (return_not_mem_message h he)]
    rfl

/-! ### Blocks -/

/-- The banner is skipped with returns just as without them. -/
theorem skipBanner_withReturns (text : List Char) :
    skipBanner (withReturns text) = withReturns (skipBanner text) := by
  have hopening : OnOneLine bannerOpening := by decide
  rw [skipBanner, skipBanner, Text.after?_withReturns hopening]
  cases hafter : Text.after? bannerOpening text with
  | none => rfl
  | some tail =>
    simp only [Option.map_some, Text.cutLine?_withReturns]
    cases Text.cutLine? tail <;> rfl

/-- No return appears where the banner is skipped. -/
theorem return_not_mem_skipBanner (h : '\r' ∉ text) : '\r' ∉ skipBanner text :=
  fun hin => h ((skipBanner_suffix text).subset hin)

/-- The finding of a block without one is blank with returns, too. -/
theorem Located.diagnostic?_withReturns {b : Located} (h : '\r' ∉ b.finding) :
    b.withReturns.diagnostic?.map Diagnostic.withoutReturns = b.diagnostic? := by
  have hblank : Text.isBlank b.withReturns.finding = Text.isBlank b.finding := by
    rw [Located.withReturns]
    split
    · next hnil =>
      rw [hnil]
      rfl
    · exact Text.isBlank_withReturns b.finding
  rw [Located.diagnostic?_eq, hblank, Located.diagnostic?_eq]
  split
  · rfl
  · next hsome =>
    have hne : b.finding ≠ [] := by
      intro hnil
      rw [hnil] at hsome
      exact hsome rfl
    have hr : '\r' ∉ Text.trim b.finding := fun hin => h (Text.trim_subset b.finding hin)
    refine congrArg some ((withoutReturns_onLine _ _).trans ?_)
    rw [Located.withReturns, if_neg hne, Text.trim_withReturns,
      Text.withoutReturns_withReturns hr]
    rfl

/-- With returns all blocks are found. -/
theorem locatedFindings_withReturns (h : '\r' ∉ text) :
    (locatedFindings (withReturns text)).map Diagnostic.withoutReturns =
      (allBlocks text).filterMap Located.diagnostic? := by
  rw [locatedFindings, blocks_withReturns h, List.filterMap_map, List.map_filterMap]
  exact List.filterMap_congr fun b hb =>
    Located.diagnostic?_withReturns fun hin => h (finding_subset_of_mem hb hin)

/-- The blocks are shown with returns just as without them, or the text is shown as a whole. -/
theorem generic_withReturns (h : '\r' ∉ report.toList)
    (hfound : EachHasFinding (skipBanner report.toList)) :
    (generic (withReturnsString report)).map Diagnostic.withoutReturns = generic report := by
  have hr := return_not_mem_skipBanner h
  have hfindings : (locatedFindings (withReturns (skipBanner report.toList))).map
      Diagnostic.withoutReturns = locatedFindings (skipBanner report.toList) := by
    rw [locatedFindings_withReturns hr, locatedFindings, blocks_eq_allBlocks hfound]
  have hbody : skipBanner (withReturnsString report).toList =
      withReturns (skipBanner report.toList) := by
    rw [withReturnsString, String.toList_ofList, skipBanner_withReturns]
  -- As many findings are shown, so that both reports are shown as a whole or neither is.
  rcases generic_cases (withReturnsString report) with ⟨hne, heq⟩ | ⟨hnil, heq⟩
  · rw [hbody] at hne heq
    rcases generic_cases report with ⟨_, heq'⟩ | ⟨hnil', _⟩
    · rw [heq, heq', hfindings]
    · rw [hnil', List.map_eq_nil_iff] at hfindings
      exact absurd hfindings hne
  · rw [hbody] at hnil heq
    rw [hnil, List.map_nil] at hfindings
    rcases generic_cases report with ⟨hne', _⟩ | ⟨_, heq'⟩
    · exact absurd hfindings.symm hne'
    · rw [heq, heq', List.map_singleton, withoutReturns_onLine,
        Text.withoutReturns_withReturns hr]

/-! ### Reports -/

/-- **Line ends do not matter where each locator has a finding.** Take a report without returns, and
    put one before each line feed: as many diagnostics are extracted, on the same lines and in the
    same order, and their messages are the same without these returns.  Locators make a difference
    only if blocks are looked for, since no library is missing and no symbol undeclared. -/
theorem extract_withReturns {report : String} (h : '\r' ∉ report.toList)
    (hfound : missingLibrary? report = none →
      undeclared .name report ++ undeclared .routine report = [] →
        EachHasFinding (skipBanner report.toList)) :
    (extract (withReturnsString report)).map Diagnostic.withoutReturns = extract report := by
  have hlibrary := missingLibrary?_withReturns h
  obtain ⟨hname, hnames⟩ := undeclared_withReturns .name h
  obtain ⟨hroutine, hroutines⟩ := undeclared_withReturns .routine h
  have hsymbols : undeclared .name (withReturnsString report) ++
      undeclared .routine (withReturnsString report) =
        undeclared .name report ++ undeclared .routine report :=
    congrArg₂ (· ++ ·) hname hroutine
  have hkept : (undeclared .name report ++ undeclared .routine report).map
      Diagnostic.withoutReturns = undeclared .name report ++ undeclared .routine report :=
    List.map_append.trans (congrArg₂ (· ++ ·) hnames hroutines)
  have hblank : Text.isBlankString (withReturnsString report) = Text.isBlankString report := by
    rw [Text.isBlankString, withReturnsString, String.toList_ofList, Text.isBlank_withReturns,
      Text.isBlankString]
  generalize hbatch : extract report = batch
  cases extract_eq_iff.mp hbatch with
  | missingLibrary found =>
    rw [found, Option.map_eq_some_iff] at hlibrary
    obtain ⟨d, hd, rfl⟩ := hlibrary
    rw [extract_eq_iff.mpr (.missingLibrary hd), List.map_singleton]
  | undeclared no_library found =>
    rw [no_library, Option.map_eq_none_iff] at hlibrary
    have hlisted := fun hnil => found (hsymbols.symm.trans hnil)
    -- Rewriting with these equations would compare the lists of names and of routines.
    calc (extract (withReturnsString report)).map Diagnostic.withoutReturns
      _ = _ := congrArg _ (extract_eq_iff.mpr (.undeclared hlibrary hlisted))
      _ = _ := congrArg _ hsymbols
      _ = _ := hkept
  | generic no_library no_symbol not_blank =>
    rw [no_library, Option.map_eq_none_iff] at hlibrary
    rw [extract_eq_iff.mpr (.generic hlibrary (hsymbols.trans no_symbol)
      (hblank.trans not_blank))]
    exact generic_withReturns h (hfound no_library no_symbol)
  | blank _ _ blank =>
    rw [extract_eq_nil_iff.mpr (hblank.trans blank), List.map_nil]

/-- A report of two blocks after a banner, with a finding each. -/
def foundBlocks : String :=
  "===SORRY!===\nBad\nthing\nat a:3\n------> x\n    y\nWorse\nat b:4\n------> z"

theorem extract_withReturns_foundBlocks :
    '\r' ∉ foundBlocks.toList ∧ EachHasFinding (skipBanner foundBlocks.toList) ∧
    extract foundBlocks = [.onLine 2 "Bad\nthing", .onLine 3 "Worse"] ∧
    (extract (withReturnsString foundBlocks)).map Diagnostic.withoutReturns =
      extract foundBlocks := by
  have hreturn : '\r' ∉ foundBlocks.toList := by decide
  have hfound : EachHasFinding (skipBanner foundBlocks.toList) := by decide +kernel
  have hblocks : extract foundBlocks = [.onLine 2 "Bad\nthing", .onLine 3 "Worse"] := by
    decide +kernel
  exact ⟨hreturn, hfound, hblocks, extract_withReturns hreturn fun _ _ => hfound⟩

/-- **Line ends do matter where a locator has no finding.** Without returns the first of the two
    locators is taken for the finding of the second; with returns neither has one, and the whole
    report is shown. -/
theorem extract_bareLocators : ∃ report : String, '\r' ∉ report.toList ∧
    extract report = [.onLine 1 "at a:1\n------> x"] ∧
    (extract (withReturnsString report)).map Diagnostic.withoutReturns = [.onLine 0 report] ∧
    (extract (withReturnsString report)).map Diagnostic.withoutReturns ≠ extract report :=
  ⟨"\nat a:1\n------> x\nat b:2\n------> y", by decide +kernel⟩

end Report

end DiagnosticBridge
