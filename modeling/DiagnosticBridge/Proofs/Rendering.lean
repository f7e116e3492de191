import DiagnosticBridge.Proofs.Printed
import DiagnosticBridge.Report.Extract

namespace DiagnosticBridge.Report

/-!
# Reading a printed report

A report that the compiler prints block by block is read back block by block: each finding becomes
one diagnostic on its line, and nothing else does.

* `decomposes_printed` — the printed blocks are the pieces of the text;
* `skipBanner_report` — only the banner line is taken off, if there is one;
* `extract_printed` — so the findings are what is extracted.
-/

open Printed (Follows)

variable {br closing : List Char} {printed : List Printed} {b : Printed}

/-! ### Blocks one after the other -/

/-- The blocks after the first one, each after a line break. -/
def further (br : List Char) (printed : List Printed) : List Char :=
  printed.flatMap fun b => br ++ b.render br

/-- The first of them comes after a break, before the others. -/
theorem further_cons : further br (b :: printed) = br ++ b.render br ++ further br printed :=
  List.flatMap_cons

/-- Blocks with breaks between them are the first one, and the others after breaks. -/
theorem intercalate_render (b : Printed) (printed : List Printed) :
    br.intercalate ((b :: printed).map (Printed.render br)) =
      b.render br ++ further br printed := by
  -- By the blocks after the first one, each of which takes its place in turn.
  induction printed generalizing b with
  | nil => simp [further, List.intercalate]
  | cons next printed ih =>
    have hnext := ih next
    rw [List.map_cons] at hnext
    rw [List.map_cons, List.map_cons, List.intercalate_cons_cons, hnext, further_cons]
    simp only [List.append_assoc]

/-- What is left after a block cannot be a part of its excerpt: it is nothing but a break, or a
    break before a line that does not begin with white space. -/
theorem follows_further (hbr : IsBreak br) (hwell : ∀ b ∈ printed, b.WellFormed br)
    (hclosing : closing = [] ∨ closing = br) : Follows (further br printed ++ closing) := by
  cases printed with
  | nil =>
    rcases hclosing with rfl | rfl
    · exact Printed.follows_nil
    · show Follows closing
      rw [← List.append_nil closing]
      exact Printed.follows_break hbr fun c hc => nomatch hc
  | cons b printed =>
    obtain ⟨c, more, hmessage, hspace⟩ := (hwell b List.mem_cons_self).exists_cons
    rw [further_cons, List.append_assoc, List.append_assoc]
    refine Printed.follows_break hbr fun d hd => ?_
    rw [Printed.render, hmessage] at hd
    have hd : some c = some d := hd
    exact Option.some.inj hd ▸ hspace

/-- What is left after the last block is no locator. -/
theorem decomposes_closing (hbr : IsBreak br) (hclosing : closing = [] ∨ closing = br) :
    Decomposes closing [] closing := by
  -- At most one line feed is left after the first character.
  refine .tail fun n hn => locator?_eq_none_iff.mp ?_
  obtain ⟨n, rfl⟩ := Nat.exists_eq_add_of_le' hn
  rcases hclosing with rfl | rfl
  · rw [List.drop_nil]
    rfl
  · cases hbr with
    | lf =>
      rw [List.drop_succ_cons, List.drop_nil]
      rfl
    | crlf =>
      rw [List.drop_succ_cons]
      cases n with
      | zero => rfl
      | succ n =>
        rw [List.drop_succ_cons, List.drop_nil]
        rfl

/-- The blocks after the first one are pieces, each with the break before it. -/
theorem decomposes_further (hbr : IsBreak br) (hwell : ∀ b ∈ printed, b.WellFormed br)
    (hclosing : closing = [] ∨ closing = br) :
    Decomposes (further br printed ++ closing) (printed.map (Printed.piece br br)) closing := by
  induction printed with
  | nil => exact decomposes_closing hbr hclosing
  | cons b printed ih =>
    rw [List.forall_mem_cons] at hwell
    have hfollows := follows_further hbr hwell.2 hclosing
    have htext : further br (b :: printed) ++ closing =
        (b.piece br br).text ++ (further br printed ++ closing) := by
      rw [further_cons, Printed.text_piece]
      simp only [List.append_assoc]
    rw [htext, List.map_cons]
    exact .piece (Printed.opens hbr hwell.1 (Or.inr rfl) hfollows) (ih hwell.2)

/-- **The printed blocks are the pieces.** -/
theorem decomposes_printed (hbr : IsBreak br) (hwell : ∀ c ∈ b :: printed, c.WellFormed br)
    (hclosing : closing = [] ∨ closing = br) :
    Decomposes (br.intercalate ((b :: printed).map (Printed.render br)) ++ closing)
      (b.piece br [] :: printed.map (Printed.piece br br)) closing := by
  rw [List.forall_mem_cons] at hwell
  have hfollows := follows_further hbr hwell.2 hclosing
  have htext : br.intercalate ((b :: printed).map (Printed.render br)) ++ closing =
      (b.piece br []).text ++ (further br printed ++ closing) := by
    rw [intercalate_render, Printed.text_piece, List.nil_append, List.append_assoc]
  rw [htext]
  exact .piece (Printed.opens hbr hwell.1 (Or.inl rfl) hfollows)
    (decomposes_further hbr hwell.2 hclosing)

theorem isBlank_break (hbr : IsBreak br) : Text.isBlank br = true := by
  cases hbr <;> decide

/-- Each piece gives the diagnostic of its block, whatever white space leads it. -/
theorem diagnostics_printed (hwell : ∀ b ∈ printed, b.WellFormed br) {lead : List Char}
    (hlead : Text.isBlank lead = true) :
    (printed.map (Printed.piece br lead)).filterMap Piece.diagnostic? =
      printed.map fun b => .onReportedLine b.line (String.ofList (b.message br)) := by
  induction printed with
  | nil => rfl
  | cons b printed ih =>
    rw [List.forall_mem_cons] at hwell
    rw [List.map_cons, List.filterMap_cons_some (Printed.diagnostic?_piece hwell.1 hlead),
      ih hwell.2, List.map_cons]

/-- The blocks are found, in order. -/
theorem locatedFindings_printed (hbr : IsBreak br) (hwell : ∀ b ∈ printed, b.WellFormed br)
    (hclosing : closing = [] ∨ closing = br) (hne : printed ≠ []) :
    locatedFindings (br.intercalate (printed.map (Printed.render br)) ++ closing) =
      printed.map fun b => .onReportedLine b.line (String.ofList (b.message br)) := by
  cases printed with
  | nil => exact absurd rfl hne
  | cons b printed =>
    rw [locatedFindings_of_decomposes (decomposes_printed hbr hwell hclosing)]
    rw [List.forall_mem_cons] at hwell
    rw [List.filterMap_cons_some (Printed.diagnostic?_piece hwell.1 Text.isBlank_nil),
      diagnostics_printed hwell.2 (isBlank_break hbr), List.map_cons]

/-! ### The banner -/

/-- The banner line, if there is one. -/
def bannerLine (br : List Char) : Option (List Char) → List Char
  | none => []
  | some more => bannerOpening ++ more ++ br

/-- The report as it is printed: perhaps a banner line, then the blocks with a line break between
    each two, and perhaps a final line break. -/
def printedReport (br : List Char) (banner : Option (List Char)) (printed : List Printed)
    (closed : Bool) : List Char :=
  bannerLine br banner ++ br.intercalate (printed.map (Printed.render br)) ++
    (if closed then br else [])

/-- A banner line is taken off, with its line break. -/
theorem skipBanner_line (hbr : IsBreak br) {more : List Char} (hmore : OnOneLine more)
    (body : List Char) : skipBanner (bannerOpening ++ more ++ br ++ body) = body := by
  have hopening : Text.after? bannerOpening (bannerOpening ++ more ++ br ++ body) =
      some (more ++ (br ++ body)) :=
    Text.after?_eq_some_iff.mpr (by simp only [List.append_assoc])
  -- A line ends at its line feed, so that the return of a long break still belongs to it.
  have hcut : ∃ line, Text.cutLine? (more ++ (br ++ body)) = some (line, body) := by
    cases hbr with
    | lf => exact ⟨more, Text.cutLine?_append hmore.2 body⟩
    | crlf =>
      have hline : '\n' ∉ more ++ ['\r'] := by
        simp [hmore.2]
      refine ⟨more ++ ['\r'], ?_⟩
      rw [← Text.cutLine?_append hline body]
      simp
  obtain ⟨line, hline⟩ := hcut
  simp only [skipBanner, hopening, hline]

/-- A finding is not taken for a banner. -/
theorem skipBanner_printed (hbr : IsBreak br) (hwell : b.WellFormed br) (closing : List Char) :
    skipBanner (br.intercalate ((b :: printed).map (Printed.render br)) ++ closing) =
      br.intercalate ((b :: printed).map (Printed.render br)) ++ closing := by
  have hbegins : ∃ more, br.intercalate ((b :: printed).map (Printed.render br)) ++ closing =
      b.message br ++ (br ++ more) := by
    refine ⟨"at ".toList ++ b.place ++ br ++ arrow ++ b.excerpt ++ b.indented.flatMap (br ++ ·) ++
      further br printed ++ closing, ?_⟩
    rw [intercalate_render, Printed.render]
    simp only [List.append_assoc]
  obtain ⟨more, hbegins⟩ := hbegins
  rw [hbegins]
  -- The opening is on one line, so it would have to stand in the first line of the finding.
  refine skipBanner_of_not_opening (Option.eq_none_iff_forall_ne_some.mpr fun tail htail => ?_)
  have hone : OnOneLine bannerOpening := by decide
  exact hwell.message_banner (prefix_of_prefix_line hone (endsLine_break hbr more)
    ⟨tail, Text.after?_eq_some_iff.mp htail⟩)

/-- Of a report no more than its banner line is taken off. -/
theorem skipBanner_report (hbr : IsBreak br) {banner : Option (List Char)}
    (hbanner : ∀ more ∈ banner, OnOneLine more) (hwell : ∀ b ∈ printed, b.WellFormed br)
    (hne : printed ≠ []) (closed : Bool) :
    skipBanner (printedReport br banner printed closed) =
      br.intercalate (printed.map (Printed.render br)) ++ (if closed then br else []) := by
  rw [printedReport, List.append_assoc]
  cases banner with
  | none =>
    cases printed with
    | nil => exact absurd rfl hne
    | cons b printed => exact skipBanner_printed hbr (hwell b List.mem_cons_self) _
  | some more => exact skipBanner_line hbr (hbanner more rfl) _

/-! ### What is extracted -/

/-- A report without the marks of the other shapes is read as blocks. -/
theorem extract_of_unmarked {text : List Char} (hlibrary : ¬ "Could not find ".toList <:+: text)
    (hsymbol : ¬ "Undeclared ".toList <:+: text) (hblank : Text.isBlank text = false)
    (hfound : locatedFindings (skipBanner text) ≠ []) :
    extract (String.ofList text) = locatedFindings (skipBanner text) := by
  have hmissing : Shape.missingLibrary.contribution (String.ofList text) = [] := by
    simp [Shape.contribution, Shape.isMarked, findMissingLibrary?_eq_none hlibrary]
  have hundeclared : ∀ s, (Shape.undeclared s).contribution (String.ofList text) = [] := by
    intro s
    simp [Shape.contribution, Shape.isMarked, Symbol.findList?_eq_none hsymbol s]
  have hgeneric : Shape.generic.contribution (String.ofList text) =
      locatedFindings (skipBanner text) := by
    have hmarked : Shape.generic.isMarked (String.ofList text) = true := by
      simp [Shape.isMarked, Text.isBlankString, hblank]
    rw [Shape.contribution, if_pos hmarked, Shape.extract, generic, String.toList_ofList]
    split
    · next h => exact absurd h hfound
    · rfl
  simp [extract, extractBy, priority, hmissing, hundeclared, hgeneric]

/-- A report with a block is not blank. -/
theorem isBlank_report (banner : Option (List Char)) (hwell : ∀ b ∈ printed, b.WellFormed br)
    (hne : printed ≠ []) (closed : Bool) :
    Text.isBlank (printedReport br banner printed closed) = false := by
  cases printed with
  | nil => exact absurd rfl hne
  | cons b printed =>
    obtain ⟨c, more, hmessage, hspace⟩ := (hwell b List.mem_cons_self).exists_cons
    have hblock : Text.isBlank (b.render br) = false := by
      simp [Printed.render, hmessage, Text.isBlank_append, Text.isBlank_cons, hspace]
    rw [printedReport, intercalate_render]
    simp [Text.isBlank_append, hblock]

/-- **Printed reports are read back.** A report of any number of well-formed blocks, perhaps with
    a banner line before and a line break after them, and with one kind of line break throughout,
    gives exactly one diagnostic for each block, in order: on the block's line, counted from zero,
    with the finding as the message.  This holds unless the text carries the mark of a missing
    library or of undeclared symbols. -/
theorem extract_printed (hbr : IsBreak br) (banner : Option (List Char))
    (hbanner : ∀ more ∈ banner, OnOneLine more) (printed : List Printed) (hne : printed ≠ [])
    (hwell : ∀ b ∈ printed, b.WellFormed br) (closed : Bool)
    (hlibrary : ¬ "Could not find ".toList <:+: printedReport br banner printed closed)
    (hsymbol : ¬ "Undeclared ".toList <:+: printedReport br banner printed closed) :
    extract (String.ofList (printedReport br banner printed closed)) =
      printed.map fun b =>
        .onLine (if b.line = 0 then 0 else b.line - 1) (String.ofList (b.message br)) := by
  have hclosing : (if closed then br else []) = [] ∨ (if closed then br else []) = br := by
    cases closed
    · exact Or.inl rfl
    · exact Or.inr rfl
  have hfound : locatedFindings (skipBanner (printedReport br banner printed closed)) =
      printed.map fun b => .onReportedLine b.line (String.ofList (b.message br)) := by
    rw [skipBanner_report hbr hbanner hwell hne]
    exact locatedFindings_printed hbr hwell hclosing hne
  have hsome : locatedFindings (skipBanner (printedReport br banner printed closed)) ≠ [] := by
    rw [hfound]
    exact mt List.map_eq_nil_iff.mp hne
  rw [extract_of_unmarked hlibrary hsymbol (isBlank_report banner hwell hne closed) hsome, hfound]
  rfl

/-- Two blocks: a finding of two lines in a file with a colon in its name, with a further line in
    its excerpt, and a finding that the compiler could not place. -/
def twoBlocks : List Printed :=
  [⟨[['B', 'a', 'd'], ['a', 't', ' ', 'x']], ['C', ':', '/', 'a'], 7, [' ', 'x'], [[' ', 'y']]⟩,
    ⟨[['S', 'a', 'd']], ['f'], 0, [], []⟩]

/-- Both blocks are given, and the banner is not. -/
theorem extract_twoBlocks :
    extract (String.ofList (printedReport ['\r', '\n'] (some ['!']) twoBlocks true)) =
      [.onLine 6 "Bad\r\nat x", .onLine 0 "Sad"] := by
  have hwell : ∀ b ∈ twoBlocks, b.WellFormed ['\r', '\n'] := by
    intro b hb
    rcases List.mem_cons.mp hb with rfl | hb
    · exact ⟨by decide, by decide, by decide, by decide, by decide, by decide, by decide, by decide,
        fun line hline => ⟨' ', ['y'], List.mem_singleton.mp hline, by decide⟩⟩
    · rw [List.mem_singleton.mp hb]
      exact ⟨by decide, by decide, by decide, by decide, by decide, by decide, by decide, by decide,
        fun line hline => absurd hline List.not_mem_nil⟩
  have hbanner : ∀ more ∈ some ['!'], OnOneLine more := by decide
  -- Neither mark can occur, since one of its letters does not.
  have hl : 'l' ∉ printedReport ['\r', '\n'] (some ['!']) twoBlocks true := by decide
  have hU : 'U' ∉ printedReport ['\r', '\n'] (some ['!']) twoBlocks true := by decide
  have hlibrary : ¬ "Could not find ".toList <:+:
      printedReport ['\r', '\n'] (some ['!']) twoBlocks true :=
    fun h => hl (h.subset (by decide))
  have hsymbol : ¬ "Undeclared ".toList <:+:
      printedReport ['\r', '\n'] (some ['!']) twoBlocks true :=
    fun h => hU (h.subset (by decide))
  exact extract_printed .crlf (some ['!']) hbanner twoBlocks (by decide) hwell true hlibrary hsymbol

end DiagnosticBridge.Report
