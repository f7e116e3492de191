import DiagnosticBridge.Report.MissingLibrary

namespace DiagnosticBridge.Report

/-!
# The sentence about a missing library

The sentence is looked for at every place of a report, but it ends its line.  So a report can be
read line by line: what a line says does not depend on the lines around it, and the first line with
the sentence in it decides.

* `splitLineReference?_eq_some_iff`, `missingLibraryHere?_line` — the sentence at the front of a
  line;
* `findMissingLibrary?_of_sentence`, `findMissingLibrary?_of_not_announces` — a line has the
  sentence in it or is passed over;
* `missingLibrary?_by_lines` — so the diagnostic comes from the first line that has it.
-/

variable {text rest line library digits : List Char} {c : Char}

/-! ### Lines with the sentence -/

/-- A reference to a line at the end of a sentence: ` at line `, digits and ` in:`. -/
inductive IsReference (digits : List Char) : List Char → Prop where
  | intro (digits_ne_nil : digits ≠ []) (digits_all : ∀ c ∈ digits, Text.isDigit c = true) :
      IsReference digits (lineOpening ++ digits ++ lineClosing)

/-- The line, without its line end, reports a missing library: some text stands between the words
    `Could not find ` and a reference that ends the line. -/
def Announces (line : List Char) : Prop :=
  ∃ before library digits reference, library ≠ [] ∧ IsReference digits reference ∧
    line = before ++ missingOpening ++ library ++ reference

/-- The line reports this library, which begins after the first `Could not find ` in the line. -/
inductive Sentence (library digits : List Char) : List Char → Prop where
  | intro {before reference : List Char} (library_ne_nil : library ≠ [])
      (refers : IsReference digits reference)
      (first : ∀ n < before.length, ¬ missingOpening <+:
        (before ++ missingOpening ++ library ++ reference).drop n) :
      Sentence library digits (before ++ missingOpening ++ library ++ reference)

/-- A sentence about a library is one that reports it. -/
theorem Sentence.announces (h : Sentence library digits line) : Announces line := by
  cases h with
  | intro library_ne_nil refers => exact ⟨_, _, _, _, library_ne_nil, refers, rfl⟩

/-- A line that begins with an opening has no opening before it. -/
theorem Sentence.front {reference : List Char} (library_ne_nil : library ≠ [])
    (refers : IsReference digits reference) :
    Sentence library digits (missingOpening ++ library ++ reference) := by
  have hfirst : ∀ n < ([] : List Char).length, ¬ missingOpening <+:
      ([] ++ missingOpening ++ library ++ reference).drop n :=
    fun n hn => absurd hn (Nat.not_lt_zero n)
  exact .intro library_ne_nil refers hfirst

/-- An empty line reports nothing. -/
theorem not_announces_nil : ¬ Announces [] := by
  rintro ⟨before, library, digits, reference, hne, _, heq⟩
  have hnil := (List.append_eq_nil_iff.mp (List.append_eq_nil_iff.mp heq.symm).1).2
  exact hne hnil

/-- What a line announces it still announces with one more character in front. -/
theorem Announces.dropFinalReturn_cons (h : Announces (Text.dropFinalReturn line)) (c : Char) :
    Announces (Text.dropFinalReturn (c :: line)) := by
  have hne : line ≠ [] := by
    rintro rfl
    exact not_announces_nil h
  obtain ⟨before, library, digits, reference, hlibrary, hrefers, heq⟩ := h
  rw [Text.dropFinalReturn_cons hne, heq]
  exact ⟨c :: before, library, digits, reference, hlibrary, hrefers, rfl⟩

/-- A sentence stays one when its line begins with one more character, unless an opening begins
    there. -/
theorem Sentence.cons (h : Sentence library digits line) (hno : ¬ missingOpening <+: c :: line) :
    Sentence library digits (c :: line) := by
  cases h with
  | @intro before reference library_ne_nil refers first =>
    have hfirst : ∀ n < (c :: before).length, ¬ missingOpening <+:
        (c :: before ++ missingOpening ++ library ++ reference).drop n := by
      rintro (_ | n) hn
      · exact hno
      · exact first n (Nat.lt_of_succ_lt_succ hn)
    exact .intro library_ne_nil refers hfirst

/-- What stands after the first opening in a line ends as what stands after any other does, and so
    there is a sentence from the first one on, too. -/
theorem Announces.exists_sentence (h : Announces line) :
    ∃ library digits, Sentence library digits line := by
  obtain ⟨before, library, digits, reference, hne, hrefers, rfl⟩ := h
  induction before with
  | nil =>
    exact ⟨library, digits, .front hne hrefers⟩
  | cons c before ih =>
    -- Where an opening begins at the first character, the library is what lies between it and the
    -- reference, however much that is.
    by_cases hopens : missingOpening <+: c :: (before ++ missingOpening ++ library ++ reference)
    · obtain ⟨tail, htail⟩ := hopens
      have hlength := congrArg List.length htail
      simp only [List.length_append, List.length_cons] at hlength
      have hends : reference <:+ missingOpening ++ tail := by
        rw [htail]
        exact List.suffix_append (c :: (before ++ missingOpening ++ library)) reference
      obtain ⟨library', rfl⟩ :=
        List.suffix_of_suffix_length_le hends (List.suffix_append _ _) (by omega)
      have hne' : library' ≠ [] := by
        rintro rfl
        rw [List.nil_append] at hlength
        omega
      refine ⟨library', digits, ?_⟩
      rw [List.cons_append, List.cons_append, List.cons_append, ← htail, ← List.append_assoc]
      exact .front hne' hrefers
    · obtain ⟨library', digits', h⟩ := ih
      exact ⟨library', digits', h.cons hopens⟩

/-! ### At the front of a line -/

/-- Reading from the end of a line, one finds the reference, and the library in front of it. -/
theorem splitLineReference?_eq_some_iff :
    splitLineReference? line = some (library, digits) ↔ library ≠ [] ∧
      ∃ reference, IsReference digits reference ∧
        Text.dropFinalReturn line = library ++ reference := by
  constructor
  · intro h
    simp only [splitLineReference?, bind, Option.bind_eq_some_iff, Text.after?_eq_some_iff] at h
    -- The line is read from its end, so that the parts come out reversed.
    obtain ⟨fromEnd, hclosing, beforeDigits, hopening, hread⟩ := h
    have hall : ∀ c ∈ (spanDigits fromEnd).1, Text.isDigit c = true :=
      fun c hc => List.all_eq_true.mp List.all_takeWhile c hc
    have hspan := spanDigits_append fromEnd
    generalize spanDigits fromEnd = cutting at hall hspan hopening hread
    obtain ⟨found, after⟩ := cutting
    dsimp only at hall hspan hopening hread
    subst hspan hopening
    split at hread
    · cases hread
    · next hne =>
      obtain ⟨rfl, rfl⟩ := Prod.mk.inj (Option.some.inj hread)
      simp only [Bool.or_eq_true, List.isEmpty_iff, not_or] at hne
      refine ⟨by simpa using hne.2, _, .intro (by simpa using hne.1)
        (fun c hc => hall c (List.mem_reverse.mp hc)), ?_⟩
      rw [← List.reverse_reverse (Text.dropFinalReturn line), ← hclosing]
      simp
  · rintro ⟨hne, _, ⟨hdigits, hall⟩, hline⟩
    have hall' : ∀ c ∈ digits.reverse, Text.isDigit c = true :=
      fun c hc => hall c (List.mem_reverse.mp hc)
    have hspan : spanDigits (digits.reverse ++ (lineOpening.reverse ++ library.reverse)) =
        (digits.reverse, lineOpening.reverse ++ library.reverse) := by
      have hspace : Text.isDigit ' ' = false := by decide
      have hopening : lineOpening.reverse = ' ' :: " at line".toList.reverse := rfl
      rw [spanDigits, List.takeWhile_append_of_pos hall', List.dropWhile_append_of_pos hall',
        hopening]
      simp [hspace]
    have hreverse : (Text.dropFinalReturn line).reverse = lineClosing.reverse ++
        (digits.reverse ++ (lineOpening.reverse ++ library.reverse)) := by
      rw [hline]
      simp
    simp only [splitLineReference?, bind, Option.bind_eq_some_iff, Text.after?_eq_some_iff]
    refine ⟨_, hreverse.symm, library.reverse, ?_, ?_⟩
    · rw [hspan]
    · rw [hspan]
      simp [hne, hdigits]

/-- What is read at the front of a line is a sentence that begins there. -/
theorem missingLibraryHere?_line (hline : '\n' ∉ line) (rest : List Char) {m : MissingLibrary} :
    missingLibraryHere? (line ++ '\n' :: rest) = some m ↔ m.places = rest ∧ m.library ≠ [] ∧
      ∃ reference, IsReference m.digits reference ∧
        Text.dropFinalReturn line = missingOpening ++ m.library ++ reference := by
  obtain ⟨library, digits, places⟩ := m
  have hopening : '\n' ∉ missingOpening ∧ '\r' ∉ missingOpening := by decide
  simp only [missingLibraryHere?, bind, Option.bind_eq_some_iff, Text.after?_eq_some_iff]
  constructor
  · rintro ⟨tail, htail, ⟨tail', places'⟩, hcut, ⟨library', digits'⟩, hsplit, hread⟩
    obtain ⟨rfl, rfl, rfl⟩ := MissingLibrary.mk.inj (Option.some.inj hread)
    obtain ⟨rfl, htail'⟩ := Text.eq_of_cutLine? hcut
    -- The opening holds no line feed, so that the line begins with it.
    have hsame := congrArg Text.cutLine? htail
    have hno : '\n' ∉ missingOpening ++ tail' := by simp [hopening.1, htail']
    rw [← List.append_assoc, Text.cutLine?_append hno, Text.cutLine?_append hline] at hsame
    obtain ⟨rfl, rfl⟩ := Prod.mk.inj (Option.some.inj hsame)
    obtain ⟨hne, reference, hrefers, hends⟩ := splitLineReference?_eq_some_iff.mp hsplit
    refine ⟨rfl, hne, reference, hrefers, ?_⟩
    rw [Text.dropFinalReturn_append hopening.2, hends, List.append_assoc]
  · rintro ⟨rfl, hne, reference, hrefers, hends⟩
    -- What stands after the opening ends in the same line end as the line does.
    have hopens : ∃ tail, line = missingOpening ++ tail := by
      rcases Text.eq_or_eq_append_return line with hsame | hmore
      · exact ⟨library ++ reference, by rw [← hsame, hends, List.append_assoc]⟩
      · exact ⟨library ++ reference ++ ['\r'], by
          rw [← hmore, hends, List.append_assoc, List.append_assoc, List.append_assoc]⟩
    obtain ⟨tail, rfl⟩ := hopens
    rw [Text.dropFinalReturn_append hopening.2, List.append_assoc] at hends
    have htail : '\n' ∉ tail := fun h => hline (List.mem_append_right _ h)
    exact ⟨tail ++ '\n' :: places, by rw [List.append_assoc], (tail, places),
      Text.cutLine?_append htail places, (library, digits),
      splitLineReference?_eq_some_iff.mpr
        ⟨hne, reference, hrefers, List.append_cancel_left hends⟩, rfl⟩

/-! ### Line by line -/

/-- Where there is a sentence, it is found. -/
theorem findMissingLibrary?_of_sentence (hline : '\n' ∉ line)
    (h : Sentence library digits (Text.dropFinalReturn line)) (rest : List Char) :
    findMissingLibrary? (line ++ '\n' :: rest) = some ⟨library, digits, rest⟩ := by
  -- By the characters before the opening: at none of them does a sentence begin.
  induction line with
  | nil => exact absurd h.announces not_announces_nil
  | cons c line ih =>
    have hhere := fun m => missingLibraryHere?_line (m := m) hline rest
    rw [List.cons_append] at hhere ⊢
    generalize hdrop : Text.dropFinalReturn (c :: line) = dropped at h hhere
    cases h with
    | @intro before reference hne hrefers hfirst =>
      cases before with
      | nil => rw [findMissingLibrary?, (hhere ⟨library, digits, rest⟩).mpr
          ⟨rfl, hne, reference, hrefers, rfl⟩]
      | cons b before =>
        -- A sentence at the front would begin with an opening before the first one.
        have hnone : missingLibraryHere? (c :: (line ++ '\n' :: rest)) = none := by
          refine Option.eq_none_iff_forall_ne_some.mpr fun m hm => hfirst 0 (Nat.succ_pos _) ?_
          obtain ⟨_, _, reference', _, hends⟩ := (hhere m).mp hm
          rw [List.drop_zero, hends, List.append_assoc]
          exact List.prefix_append _ _
        have hnil : line ≠ [] := by
          rintro rfl
          refine not_announces_nil ⟨before, library, digits, reference, hne, hrefers, ?_⟩
          rcases Text.eq_or_eq_append_return [c] with hsame | hmore
          · rw [hsame] at hdrop
            exact (List.cons.inj hdrop).2
          · rw [hdrop] at hmore
            simp at hmore
        rw [Text.dropFinalReturn_cons hnil] at hdrop
        obtain ⟨_, hdrop⟩ := List.cons.inj hdrop
        rw [findMissingLibrary?, hnone]
        refine ih (fun hin => hline (List.mem_cons_of_mem c hin)) ?_
        rw [hdrop]
        exact .intro hne hrefers fun n hn => hfirst (n + 1) (Nat.succ_lt_succ hn)

/-- A line without a sentence is passed over. -/
theorem findMissingLibrary?_of_not_announces (hline : '\n' ∉ line)
    (h : ¬ Announces (Text.dropFinalReturn line)) (rest : List Char) :
    findMissingLibrary? (line ++ '\n' :: rest) = findMissingLibrary? rest := by
  induction line with
  | nil =>
    have hnone : missingLibraryHere? ('\n' :: rest) = none := rfl
    rw [List.nil_append, findMissingLibrary?, hnone]
  | cons c line ih =>
    have hhere : missingLibraryHere? (c :: line ++ '\n' :: rest) = none := by
      refine Option.eq_none_iff_forall_ne_some.mpr fun m hm => h ?_
      obtain ⟨_, hne, reference, hrefers, hends⟩ := (missingLibraryHere?_line hline rest).mp hm
      exact ⟨[], m.library, m.digits, reference, hne, hrefers, hends⟩
    rw [List.cons_append] at hhere ⊢
    rw [findMissingLibrary?, hhere]
    exact ih (fun hin => hline (List.mem_cons_of_mem c hin)) fun hin =>
      h (hin.dropFinalReturn_cons c)

/-- There is no sentence without a line feed. -/
theorem findMissingLibrary?_of_no_feed (h : '\n' ∉ text) : findMissingLibrary? text = none := by
  induction text with
  | nil => rfl
  | cons c text ih =>
    have hhere : missingLibraryHere? (c :: text) = none := by
      refine Option.eq_none_iff_forall_ne_some.mpr fun m hm => ?_
      simp only [missingLibraryHere?, bind, Option.bind_eq_some_iff, Text.after?_eq_some_iff] at hm
      obtain ⟨tail, htail, _, hcut, _⟩ := hm
      rw [Text.cutLine?_eq_none_iff.mpr fun hin =>
        h (htail ▸ List.mem_append_right _ hin)] at hcut
      cases hcut
    rw [findMissingLibrary?, hhere]
    exact ih fun hin => h (List.mem_cons_of_mem c hin)

/-- A line of a text that a line feed ends, with the lines before it and the text after it. -/
inductive IsLine : List Char → List (List Char) → List Char → List Char → Prop where
  /-- The first line. -/
  | first {line rest : List Char} (one_line : '\n' ∉ line) :
      IsLine (line ++ '\n' :: rest) [] line rest
  /-- A line of the text after the first line. -/
  | later {head text line rest : List Char} {earlier : List (List Char)} (one_line : '\n' ∉ head)
      (more : IsLine text earlier line rest) :
      IsLine (head ++ '\n' :: text) (head :: earlier) line rest

/-- A line of a text stands in it, with a line feed behind it. -/
theorem exists_of_isLine {earlier : List (List Char)} (h : IsLine text earlier line rest) :
    ∃ before, text = before ++ line ++ '\n' :: rest := by
  induction h with
  | first => exact ⟨[], rfl⟩
  | @later head _ _ _ _ _ _ ih =>
    obtain ⟨before, rfl⟩ := ih
    exact ⟨head ++ '\n' :: before, by simp⟩

/-- **A report is read line by line.** -/
theorem findMissingLibrary?_eq_some_iff {m : MissingLibrary} :
    findMissingLibrary? text = some m ↔ ∃ earlier line, IsLine text earlier line m.places ∧
      (∀ l ∈ earlier, ¬ Announces (Text.dropFinalReturn l)) ∧
      Sentence m.library m.digits (Text.dropFinalReturn line) := by
  constructor
  · intro h
    induction text using Text.lineInduction with
    | last line hline =>
      rw [findMissingLibrary?_of_no_feed hline] at h
      cases h
    | first line rest hline ih =>
      by_cases hannounces : Announces (Text.dropFinalReturn line)
      · obtain ⟨library, digits, hsentence⟩ := hannounces.exists_sentence
        rw [findMissingLibrary?_of_sentence hline hsentence] at h
        obtain rfl := Option.some.inj h
        exact ⟨[], line, .first hline, fun l hl => absurd hl List.not_mem_nil, hsentence⟩
      · rw [findMissingLibrary?_of_not_announces hline hannounces] at h
        obtain ⟨earlier, found, hfound, hnone, hsentence⟩ := ih h
        exact ⟨line :: earlier, found, .later hline hfound,
          List.forall_mem_cons.mpr ⟨hannounces, hnone⟩, hsentence⟩
  · rintro ⟨earlier, line, hline, hnone, hsentence⟩
    obtain ⟨library, digits, places⟩ := m
    dsimp only at hline hsentence
    induction hline with
    | first one_line => exact findMissingLibrary?_of_sentence one_line hsentence _
    | later one_line _ ih =>
      rw [List.forall_mem_cons] at hnone
      rw [findMissingLibrary?_of_not_announces one_line hnone.1]
      exact ih hnone.2 hsentence

/-- A line with a sentence is enough. -/
theorem isSome_findMissingLibrary?_iff :
    (findMissingLibrary? text).isSome = true ↔ ∃ earlier line rest,
      IsLine text earlier line rest ∧ Announces (Text.dropFinalReturn line) := by
  constructor
  · intro h
    obtain ⟨m, hm⟩ := Option.isSome_iff_exists.mp h
    obtain ⟨earlier, line, hline, _, hsentence⟩ := findMissingLibrary?_eq_some_iff.mp hm
    exact ⟨earlier, line, m.places, hline, hsentence.announces⟩
  · rintro ⟨earlier, line, rest, hline, hannounces⟩
    induction hline with
    | first one_line =>
      obtain ⟨library, digits, hsentence⟩ := hannounces.exists_sentence
      rw [findMissingLibrary?_of_sentence one_line hsentence]
      rfl
    | @later head text line rest earlier one_line _ ih =>
      -- A sentence in the first line would be found instead.
      by_cases hhead : Announces (Text.dropFinalReturn head)
      · obtain ⟨library, digits, hsentence⟩ := hhead.exists_sentence
        rw [findMissingLibrary?_of_sentence one_line hsentence]
        rfl
      · rw [findMissingLibrary?_of_not_announces one_line hhead]
        exact ih hannounces

/-- **The first line with the sentence decides.** A missing library is reported exactly where a line
    that is ended by a line feed has the sentence in it, after its line end has been taken off.  The
    diagnostic comes from the first such line: the library begins after the first opening in it, and
    the message keeps everything that follows the line as it is. -/
theorem missingLibrary?_by_lines (text : String) :
    ((missingLibrary? text).isSome = true ↔ ∃ earlier line rest,
      IsLine text.toList earlier line rest ∧ Announces (Text.dropFinalReturn line)) ∧
    ∀ d, missingLibrary? text = some d ↔ ∃ earlier line rest library digits,
      IsLine text.toList earlier line rest ∧
      (∀ l ∈ earlier, ¬ Announces (Text.dropFinalReturn l)) ∧
      Sentence library digits (Text.dropFinalReturn line) ∧
      d = .onReportedLine (lineNumber digits)
        (String.ofList (missingOpening ++ library ++ lineClosing ++ '\n' :: rest)) := by
  constructor
  · rw [missingLibrary?, Option.isSome_map]
    exact isSome_findMissingLibrary?_iff
  · intro d
    rw [missingLibrary?, Option.map_eq_some_iff]
    constructor
    · rintro ⟨m, hm, rfl⟩
      obtain ⟨earlier, line, hline, hnone, hsentence⟩ := findMissingLibrary?_eq_some_iff.mp hm
      exact ⟨earlier, line, m.places, m.library, m.digits, hline, hnone, hsentence, rfl⟩
    · rintro ⟨earlier, line, rest, library, digits, hline, hnone, hsentence, rfl⟩
      exact ⟨⟨library, digits, rest⟩,
        findMissingLibrary?_eq_some_iff.mpr ⟨earlier, line, hline, hnone, hsentence⟩, rfl⟩

/-- The first opening of a line counts, and so does the first line. -/
example :
    missingLibrary? "Could not find Could not find B at line 2 in:\r\nC at line 3 in:\n" =
      some (.onLine 1 "Could not find Could not find B in:\nC at line 3 in:\n") :=
  rfl

end DiagnosticBridge.Report
