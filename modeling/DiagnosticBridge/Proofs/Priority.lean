import DiagnosticBridge.Proofs.Decomposition
import DiagnosticBridge.Report.Extract

namespace DiagnosticBridge.Report

/-!
# Which shape decides

The groups of shapes are tried in order, and the first that yields a diagnostic decides.

* `Decides`, `decides` — the four ways in which a report is read;
* `isBlank_of_mem_locatedFindings` and its siblings — every diagnostic has a message to show, but
  the one that shows a whole report, if that is blank.
-/

variable {text : String}

/-! ### What the shapes contribute -/

/-- The shape of a missing library contributes the diagnostic of one, if there is one. -/
theorem contribution_missingLibrary (text : String) :
    Shape.missingLibrary.contribution text = (missingLibrary? text).toList := by
  rw [Shape.contribution, Shape.isMarked, Shape.extract, missingLibrary?]
  cases findMissingLibrary? text.toList <;> rfl

/-- The shapes of undeclared symbols contribute their entries. -/
theorem contribution_undeclared (s : Symbol) (text : String) :
    (Shape.undeclared s).contribution text = undeclared s text := by
  rw [Shape.contribution, Shape.isMarked, Shape.extract, undeclared, Symbol.entries]
  cases s.findList? text.toList <;> rfl

/-- The generic shape contributes whatever a text that is not blank holds. -/
theorem contribution_generic (text : String) :
    Shape.generic.contribution text = if Text.isBlankString text then [] else generic text := by
  rw [Shape.contribution, Shape.isMarked, Shape.extract]
  cases Text.isBlankString text <;> rfl

/-- What is extracted from a report, by the group that decides. -/
inductive Decides (text : String) : Batch → Prop where
  /-- A library is missing. -/
  | missingLibrary {d : Diagnostic} (found : missingLibrary? text = some d) : Decides text [d]
  /-- No library is missing, and there are undeclared symbols. -/
  | undeclared (no_library : missingLibrary? text = none)
      (found : undeclared .name text ++ undeclared .routine text ≠ []) :
      Decides text (undeclared .name text ++ undeclared .routine text)
  /-- There is neither, and the report is not blank. -/
  | generic (no_library : missingLibrary? text = none)
      (no_symbol : undeclared .name text ++ undeclared .routine text = [])
      (not_blank : Text.isBlankString text = false) : Decides text (generic text)
  /-- The report is blank. -/
  | blank (no_library : missingLibrary? text = none)
      (no_symbol : undeclared .name text ++ undeclared .routine text = [])
      (blank : Text.isBlankString text = true) : Decides text []

/-- **The first group that yields a diagnostic decides.** -/
theorem decides (text : String) : Decides text (extract text) := by
  simp only [extract, priority, extractBy, List.flatMap_cons, List.flatMap_nil, List.append_nil,
    contribution_missingLibrary, contribution_undeclared, contribution_generic]
  -- In the order of the groups; each is looked at only if those before it give nothing.
  cases hlibrary : missingLibrary? text with
  | some d => exact .missingLibrary hlibrary
  | none =>
    simp only [Option.toList_none]
    split
    · next hsymbol =>
      split
      · next hgeneric =>
        cases hblank : Text.isBlankString text with
        | true => exact .blank hlibrary hsymbol hblank
        | false =>
          rw [hblank] at hgeneric
          exact absurd hgeneric (generic_ne_nil text)
      · next hgeneric =>
        cases hblank : Text.isBlankString text with
        | true =>
          rw [hblank] at hgeneric
          exact absurd rfl hgeneric
        | false => exact .generic hlibrary hsymbol hblank
    · next hsymbol => exact .undeclared hlibrary hsymbol

/-! ### What the messages say -/

variable {d : Diagnostic}

/-- A message about a missing library repeats the words that announce it. -/
theorem isBlank_of_missingLibrary (h : missingLibrary? text = some d) :
    Text.isBlankString d.message = false := by
  obtain ⟨m, _, rfl⟩ := Option.map_eq_some_iff.mp h
  show Text.isBlank (String.ofList m.message).toList = false
  rw [String.toList_ofList]
  rfl

/-- A message about a symbol names the kind of symbol. -/
theorem isBlank_of_mem_undeclared {s : Symbol} (h : d ∈ undeclared s text) :
    Text.isBlankString d.message = false := by
  obtain ⟨e, _, rfl⟩ := List.mem_map.mp h
  show Text.isBlank (String.ofList (e.message s)).toList = false
  rw [String.toList_ofList]
  cases s <;> rfl

/-- A message about a block shows its finding. -/
theorem isBlank_of_mem_locatedFindings {body : List Char} (h : d ∈ locatedFindings body) :
    Text.isBlankString d.message = false := by
  obtain ⟨pieces, tail, hpieces⟩ := exists_decomposition body
  rw [locatedFindings_of_decomposes hpieces] at h
  obtain ⟨p, _, hp⟩ := List.mem_filterMap.mp h
  obtain ⟨hblank, hmessage⟩ := Piece.message_of_diagnostic? hp
  rw [Text.isBlankString, hmessage, Text.isBlank_trim]
  exact hblank

/-- In blank text nothing is found. -/
theorem locatedFindings_of_isBlank {body : List Char} (h : Text.isBlank body = true) :
    locatedFindings body = [] := by
  obtain ⟨pieces, tail, hpieces⟩ := exists_decomposition body
  rw [locatedFindings_of_decomposes hpieces, List.filterMap_eq_nil_iff]
  intro p hp
  -- A finding is a part of the body, so it is as blank as that, and no diagnostic is made of it.
  have hfinding : ∀ c ∈ p.finding, c ∈ body := by
    intro c hc
    rw [eq_of_decomposes hpieces]
    exact List.mem_append_left _ (List.mem_flatMap.mpr
      ⟨p, hp, List.mem_append_left _ (List.mem_append_left _ hc)⟩)
  have hblank : Text.isBlank p.finding = true :=
    List.all_eq_true.mpr fun c hc => List.all_eq_true.mp h c (hfinding c hc)
  rw [Piece.diagnostic?, if_pos hblank]

/-- What the generic shape shows is the whole body if that is blank, and says something if not. -/
theorem generic_eq_of_isBlank (h : Text.isBlank (skipBanner text.toList) = true) :
    generic text = [.onLine 0 (String.ofList (skipBanner text.toList))] := by
  simp only [generic, locatedFindings_of_isBlank h]

/-- Below the banner nothing blank is shown, unless nothing is there. -/
theorem isBlank_of_mem_generic (hbody : Text.isBlank (skipBanner text.toList) = false)
    (h : d ∈ generic text) : Text.isBlankString d.message = false := by
  simp only [generic] at h
  split at h
  · rw [List.mem_singleton.mp h]
    show Text.isBlank (String.ofList _).toList = false
    rw [String.toList_ofList]
    exact hbody
  · exact isBlank_of_mem_locatedFindings h

end DiagnosticBridge.Report
