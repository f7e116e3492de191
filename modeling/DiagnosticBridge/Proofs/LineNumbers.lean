import DiagnosticBridge.Proofs.LineEndings

namespace DiagnosticBridge

/-!
# Lines fit

A report names a line by as many digits as it likes, of any script, and counts from one.  A
diagnostic counts from zero, in 32 bits, and is shown counted from one again.  Whatever the digits
are, the line is one that can be counted up by one without running over: the greatest number that
is read is the greatest that 32 bits hold, and it is counted down first.

* `StandsAt`, `standsAt_onReportedLine` — the line that digits put a diagnostic on;
* `IsNumberIn`, `isNumberIn_of_captured` — the digits are a whole number of the report;
* `origin` — every diagnostic comes from such digits, or stands on the first line;
* `lines_fit` — so every line fits.
-/

/-! ### The value of digits -/

namespace Report

variable {digits line body list : List Char} {text compiler status : String} {d : Diagnostic}

/-- Digits put a diagnostic on this line, counted from zero. -/
structure StandsAt (digits : List Char) (line : UInt32) : Prop where
  /-- ASCII digits whose value fits 32 bits name the line, counted from one; zero stands for one. -/
  named : (∀ c ∈ digits, c.isDigit = true) → Nat.ofDigitChars 10 digits 0 < 4294967296 →
    line.toNat = Nat.ofDigitChars 10 digits 0 - 1
  /-- Zeros in front of them do not matter. -/
  padded : ∀ zeros rest, digits = List.replicate zeros '0' ++ rest →
    (∀ c ∈ rest, c.isDigit = true) → Nat.ofDigitChars 10 rest 0 < 4294967296 →
      line.toNat = Nat.ofDigitChars 10 rest 0 - 1
  /-- A digit of another script names no line. -/
  foreign : (∃ c ∈ digits, c.isDigit = false) → line = 0
  /-- Neither does a value that does not fit. -/
  too_great : 4294967296 ≤ Nat.ofDigitChars 10 digits 0 → line = 0

/-- ASCII digits whose value fits are read as that value. -/
theorem lineNumber_of_fits (hdigits : ∀ c ∈ digits, c.isDigit = true)
    (hfits : Nat.ofDigitChars 10 digits 0 < UInt32.size) :
    (lineNumber digits).toNat = Nat.ofDigitChars 10 digits 0 := by
  by_cases hne : digits = []
  · rw [hne, Nat.ofDigitChars_nil]
    rfl
  · have hread : Decimal.bounded? UInt32.size digits = some (Nat.ofDigitChars 10 digits 0) :=
      Decimal.bounded?_eq_some_iff.mpr ⟨hne, hdigits, rfl, hfits⟩
    rw [lineNumber, hread]
    exact UInt32.toNat_ofNat_of_lt hfits

/-- Only ASCII digits whose value fits are read as a number. -/
theorem lineNumber_of_not_fits (h : (∀ c ∈ digits, c.isDigit = true) →
    UInt32.size ≤ Nat.ofDigitChars 10 digits 0) : lineNumber digits = 0 := by
  have hnone : Decimal.bounded? UInt32.size digits = none := by
    refine Option.eq_none_iff_forall_ne_some.mpr fun n hn => ?_
    obtain ⟨_, hdigits, rfl, hfits⟩ := Decimal.bounded?_eq_some_iff.mp hn
    exact absurd (h hdigits) (Nat.not_le.mpr hfits)
  rw [lineNumber, hnone]
  rfl

/-- Zeros in front add nothing. -/
theorem ofDigitChars_zeros (n : Nat) (digits : List Char) :
    Nat.ofDigitChars 10 (List.replicate n '0' ++ digits) 0 = Nat.ofDigitChars 10 digits 0 := by
  induction n with
  | zero => rfl
  | succ n ih =>
    rw [List.replicate_succ, List.cons_append, Nat.ofDigitChars_cons]
    exact ih

/-- A reported line is counted from zero in the diagnostic. -/
theorem standsAt_onReportedLine (digits : List Char) (message : String) :
    StandsAt digits (Diagnostic.onReportedLine (lineNumber digits) message).line := by
  have hline : (Diagnostic.onReportedLine (lineNumber digits) message).line =
      Diagnostic.fromReported (lineNumber digits) := rfl
  rw [hline]
  -- Counting down from zero stays at zero, as the subtraction of naturals does.
  have hnamed : (∀ c ∈ digits, c.isDigit = true) → Nat.ofDigitChars 10 digits 0 < 4294967296 →
      (Diagnostic.fromReported (lineNumber digits)).toNat = Nat.ofDigitChars 10 digits 0 - 1 := by
    intro hdigits hfits
    rw [Diagnostic.fromReported_toNat, lineNumber_of_fits hdigits hfits]
  refine ⟨hnamed, ?_, ?_, fun hgreat => ?_⟩
  · rintro zeros rest rfl hrest hfits
    have hdigits : ∀ c ∈ List.replicate zeros '0' ++ rest, c.isDigit = true := by
      intro c hc
      rcases List.mem_append.mp hc with hc | hc
      · rw [List.eq_of_mem_replicate hc]
        decide
      · exact hrest c hc
    rw [ofDigitChars_zeros] at hnamed
    exact hnamed hdigits hfits
  · rintro ⟨c, hc, hforeign⟩
    rw [lineNumber_of_not_fits fun hdigits => absurd (hdigits c hc) (by simp [hforeign])]
    rfl
  · rw [lineNumber_of_not_fits fun _ => hgreat]
    rfl

/-! ### Whole numbers -/

/-- The digits are a number as it stands in the text: decimal digits of any script, with a
    character before them that is none, and with none after them. -/
inductive IsNumberIn (digits : List Char) : List Char → Prop where
  | intro {before after : List Char} {mark : Char} (digits_ne_nil : digits ≠ [])
      (digits_all : ∀ c ∈ digits, Text.isDigit c = true) (not_before : Text.isDigit mark = false)
      (not_after : ∀ c ∈ after.head?, Text.isDigit c = false) :
      IsNumberIn digits (before ++ mark :: digits ++ after)

/-- A number of a line is one of the text that the line stands in. -/
theorem IsNumberIn.of_line (h : IsNumberIn digits line) (before : List Char) {after : List Char}
    (hends : EndsLine after) : IsNumberIn digits (before ++ line ++ after) := by
  cases h with
  | @intro front back mark digits_ne_nil digits_all not_before not_after =>
    have htext : before ++ (front ++ mark :: digits ++ back) ++ after =
        (before ++ front) ++ mark :: digits ++ (back ++ after) := by
      simp only [List.append_assoc]
    rw [htext]
    refine .intro digits_ne_nil digits_all not_before fun c hc => ?_
    -- Where the number ends its line, what follows it is the end of the line.
    cases back with
    | nil => rcases hends c hc with rfl | rfl <;> decide
    | cons b back => exact not_after c hc

/-- The number in a sentence stands between ` at line ` and ` in:`. -/
theorem isNumberIn_of_sentence {library : List Char} (h : Sentence library digits line) :
    IsNumberIn digits line := by
  cases h with
  | @intro before reference _ refers =>
    cases refers with
    | intro digits_ne_nil digits_all =>
      have hline : before ++ missingOpening ++ library ++ (lineOpening ++ digits ++ lineClosing) =
          (before ++ missingOpening ++ library ++ " at line".toList) ++ ' ' :: digits ++
            lineClosing := by
        have hopening : lineOpening = " at line".toList ++ [' '] := by decide
        simp only [hopening, List.append_assoc, List.cons_append, List.nil_append]
      rw [hline]
      refine .intro digits_ne_nil digits_all (by decide) fun c hc => ?_
      obtain rfl : ' ' = c := Option.some.inj hc
      decide

/-- A run of digits is read to its last digit. -/
theorem not_isDigit_after (text : List Char) :
    ∀ c ∈ (spanDigits text).2.head?, Text.isDigit c = false := by
  intro c hc
  have hstops := List.head?_dropWhile_not Text.isDigit text
  have hhead : (text.dropWhile Text.isDigit).head? = some c := hc
  rw [hhead] at hstops
  exact hstops

/-- The number in an entry stands after a blank. -/
theorem isNumberIn_of_ofLine? {e : Entry} (h : Entry.ofLine? line = some e) :
    IsNumberIn e.digits line := by
  obtain ⟨_, before, numbers, rfl, hdigits, hne, _⟩ := exists_numbers_of_ofLine? h
  have hall : ∀ c ∈ e.digits, Text.isDigit c = true := by
    rw [hdigits]
    exact fun c hc => List.all_eq_true.mp List.all_takeWhile c hc
  have hnumbers : numbers = e.digits ++ (spanDigits numbers).2 := by
    rw [hdigits, spanDigits_append]
  have hline : before ++ ' ' :: numbers =
      before ++ ' ' :: e.digits ++ (spanDigits numbers).2 := by
    rw [List.append_assoc, List.cons_append, ← hnumbers]
  rw [hline]
  exact .intro hne hall (by decide) (not_isDigit_after numbers)

/-- A line of a text, with the text around it. -/
theorem exists_of_mem_lines {text : List Char} (h : line ∈ Text.lines text) :
    ∃ before after, text = before ++ line ++ after ∧ EndsLine after := by
  induction text using Text.lineInduction with
  | last last hlast =>
    by_cases hne : last = []
    · rw [hne] at h
      cases h
    · rw [Text.lines_of_no_feed hlast hne] at h
      obtain rfl := List.mem_singleton.mp h
      exact ⟨[], [], by simp, by simp [EndsLine]⟩
  | first first rest hfirst ih =>
    rw [Text.lines_line hfirst] at h
    rcases List.mem_cons.mp h with rfl | h
    · rcases Text.eq_or_eq_append_return first with hsame | hmore
      · exact ⟨[], '\n' :: rest, by rw [hsame]; rfl, by simp [EndsLine]⟩
      · refine ⟨[], '\r' :: '\n' :: rest, ?_, by simp [EndsLine]⟩
        conv_lhs => rw [← hmore]
        simp
    · obtain ⟨before, after, rfl, hends⟩ := ih h
      exact ⟨first ++ '\n' :: before, after, by simp, hends⟩

/-- Every piece stands somewhere in the text. -/
theorem exists_of_mem_pieces {pieces : List Piece} {tail : List Char} {p : Piece}
    (h : Decomposes body pieces tail) (hp : p ∈ pieces) :
    IsLocator p.locator p.digits ∧ ∃ before after, body = before ++ p.text ++ after := by
  induction h with
  | tail => cases hp
  | @piece first rest _ _ opens _ ih =>
    rcases List.mem_cons.mp hp with rfl | hp
    · exact ⟨opens.locates, [], rest, rfl⟩
    · obtain ⟨hlocator, before, after, rfl⟩ := ih hp
      exact ⟨hlocator, first.text ++ before, after, by simp only [List.append_assoc]⟩

/-- The number in a block stands after a colon and ends its line. -/
theorem isNumberIn_of_mem_blocks {b : Located} (h : b ∈ blocks body) :
    IsNumberIn b.digits body := by
  obtain ⟨pieces, tail, hpieces⟩ := exists_decomposition body
  rw [blocks_of_decomposes hpieces] at h
  obtain ⟨p, hp, rfl⟩ := List.mem_map.mp h
  obtain ⟨hlocator, before, after, hbody⟩ := exists_of_mem_pieces hpieces hp
  obtain ⟨finding, locator, digits, excerpt⟩ := p
  dsimp only [Piece.located, Piece.text] at hlocator hbody ⊢
  cases hlocator with
  | @intro front file _ back _ _ _ digits_ne_nil digits_all after_break =>
    have htext : body = (before ++ finding ++ front ++ "at ".toList ++ file) ++ ':' :: digits ++
        (back ++ "------>".toList ++ excerpt ++ after) := by
      simp only [hbody, List.append_assoc, List.cons_append]
    rw [htext]
    refine .intro digits_ne_nil digits_all (by decide) fun c hc => ?_
    cases after_break with
    | lf =>
      obtain rfl := Option.some.inj hc
      decide
    | crlf =>
      obtain rfl := Option.some.inj hc
      decide

/-! ### Diagnostics with a number -/

/-- The diagnostic is that of a part of the text in which these digits stand for its line. -/
inductive Captured (text : List Char) : List Char → Diagnostic → Prop where
  /-- The sentence about a missing library. -/
  | sentence {m : MissingLibrary} (found : findMissingLibrary? text = some m) :
      Captured text m.digits m.diagnostic
  /-- An entry of a list of symbols. -/
  | entry {s : Symbol} {e : Entry} (listed : e ∈ s.entries text) :
      Captured text e.digits (e.diagnostic s)
  /-- A block, of the text or of what follows the banner. -/
  | block {body : List Char} {b : Located} {d : Diagnostic}
      (reads : body = text ∨ body = skipBanner text) (found : b ∈ blocks body)
      (shown : b.diagnostic? = some d) : Captured text b.digits d

variable {report : List Char}

/-- The digits are a whole number of the text. -/
theorem isNumberIn_of_captured (h : Captured report digits d) : IsNumberIn digits report := by
  cases h with
  | sentence found =>
    obtain ⟨earlier, line, hline, _, hsentence⟩ := findMissingLibrary?_eq_some_iff.mp found
    obtain ⟨before, rfl⟩ := exists_of_isLine hline
    -- The line may end in a return, which is not part of the sentence.
    rcases Text.eq_or_eq_append_return line with hsame | hmore
    · rw [hsame] at hsentence
      exact (isNumberIn_of_sentence hsentence).of_line before (by simp [EndsLine])
    · rw [← hmore, List.append_assoc, List.append_assoc, ← List.append_assoc before]
      exact (isNumberIn_of_sentence hsentence).of_line before (by simp [EndsLine])
  | @entry s e listed =>
    rw [entries_eq] at listed
    obtain ⟨line, hline, hentry⟩ := exists_of_mem_entriesOfLines listed
    obtain ⟨before, after, rfl, hends⟩ := exists_of_mem_lines hline
    exact (isNumberIn_of_ofLine? hentry).of_line before hends
  | @block body b _ reads found =>
    have hsuffix : body <:+ report := by
      rcases reads with rfl | rfl
      · exact List.suffix_refl _
      · exact skipBanner_suffix report
    obtain ⟨before, rfl⟩ := hsuffix
    have hends : EndsLine [] := by simp [EndsLine]
    have hnumber := (isNumberIn_of_mem_blocks found).of_line before hends
    rwa [List.append_nil] at hnumber

/-- The digits are counted down and put the diagnostic on its line. -/
theorem exists_of_captured (h : Captured report digits d) :
    ∃ message, d = .onReportedLine (lineNumber digits) message := by
  cases h with
  | sentence => exact ⟨_, rfl⟩
  | entry => exact ⟨_, rfl⟩
  | @block _ b _ _ _ shown =>
    rw [b.diagnostic?_eq] at shown
    split at shown
    · cases shown
    · exact ⟨_, (Option.some.inj shown).symm⟩

/-! ### All diagnostics -/

/-- The diagnostic is reported for the text, by one of the shapes, by all of them together or when
    a compilation failed. -/
inductive Reported (text : String) (d : Diagnostic) : Prop where
  | missingLibrary (found : missingLibrary? text = some d)
  | undeclared (s : Symbol) (listed : d ∈ undeclared s text)
  | located (found : d ∈ locatedFindings text.toList)
  | generic (shown : d ∈ generic text)
  | extracted (given : d ∈ extract text)
  | failed (compiler status : String) (shown : d ∈ failureBatch compiler status text)

/-- Where a diagnostic comes from: digits of the text put it on its line, or it stands on the first
    line and shows that nothing was found. -/
inductive HasOrigin (text : String) : Diagnostic → Prop where
  /-- Digits of the text. -/
  | captured {digits : List Char} {d : Diagnostic} (digits_of : Captured text.toList digits d) :
      HasOrigin text d
  /-- What follows the banner, with no block to show. -/
  | unread (not_found : locatedFindings (skipBanner text.toList) = []) :
      HasOrigin text (.onLine 0 (String.ofList (skipBanner text.toList)))
  /-- A compilation that failed and said nothing. -/
  | silent (compiler status : String) (nothing : SaysNothing text) :
      HasOrigin text (.onLine 0 (silentFailure compiler status))

/-- A missing library is reported in a sentence. -/
theorem origin_of_missingLibrary (h : missingLibrary? text = some d) : HasOrigin text d := by
  obtain ⟨m, hm, rfl⟩ := Option.map_eq_some_iff.mp h
  exact .captured (.sentence hm)

/-- An undeclared symbol is listed in an entry. -/
theorem origin_of_mem_undeclared {s : Symbol} (h : d ∈ undeclared s text) : HasOrigin text d := by
  obtain ⟨e, he, rfl⟩ := List.mem_map.mp h
  exact .captured (.entry he)

/-- A located finding is that of a block. -/
theorem origin_of_mem_locatedFindings (hbody : body = text.toList ∨ body = skipBanner text.toList)
    (h : d ∈ locatedFindings body) : HasOrigin text d := by
  obtain ⟨b, hb, hd⟩ := List.mem_filterMap.mp h
  exact .captured (.block hbody hb hd)

/-- Where there is no block all of the text is shown. -/
theorem origin_of_mem_generic (h : d ∈ generic text) : HasOrigin text d := by
  rcases generic_cases text with ⟨_, hblocks⟩ | ⟨hnone, hwhole⟩
  · rw [hblocks] at h
    exact origin_of_mem_locatedFindings (Or.inr rfl) h
  · rw [hwhole] at h
    exact List.mem_singleton.mp h ▸ .unread hnone

/-- So every diagnostic of a report has an origin. -/
theorem origin_of_mem_extract (h : d ∈ extract text) : HasOrigin text d := by
  have hr := decides text
  generalize extract text = batch at hr h
  cases hr with
  | missingLibrary found => exact origin_of_missingLibrary (List.mem_singleton.mp h ▸ found)
  | undeclared =>
    rcases List.mem_append.mp h with h | h
    · exact origin_of_mem_undeclared h
    · exact origin_of_mem_undeclared h
  | generic => exact origin_of_mem_generic h
  | blank => exact absurd h List.not_mem_nil

/-- A failure that is not reported is shown on the first line. -/
theorem origin_of_mem_failureBatch (h : d ∈ failureBatch compiler status text) :
    HasOrigin text d := by
  by_cases hnothing : SaysNothing text
  · rw [failureBatch_of_saysNothing hnothing] at h
    exact List.mem_singleton.mp h ▸ .silent compiler status hnothing
  · rw [failureBatch_of_report hnothing] at h
    exact origin_of_mem_extract h

/-- **Every diagnostic has an origin.** -/
theorem origin (h : Reported text d) : HasOrigin text d := by
  cases h with
  | missingLibrary found => exact origin_of_missingLibrary found
  | undeclared s listed => exact origin_of_mem_undeclared listed
  | located found => exact origin_of_mem_locatedFindings (Or.inl rfl) found
  | generic shown => exact origin_of_mem_generic shown
  | extracted given => exact origin_of_mem_extract given
  | failed compiler status shown => exact origin_of_mem_failureBatch shown

/-- The line can be counted up by one, and is shown so. -/
structure LineFits (d : Diagnostic) : Prop where
  at_most : d.line.toNat ≤ 4294967294
  counted_up : (d.line + 1).toNat = d.line.toNat + 1
  shown : d.display = s!"{d.line.toNat + 1}: error: [perl6] {d.message}"

/-- A diagnostic is shown on its line counted from one. -/
theorem display_onLine (line : UInt32) (message : String) :
    (Diagnostic.onLine line message).display =
      s!"{(line + 1).toNat}: error: [perl6] {message}" := by
  have hmiddle : ": " ++ "error" ++ ": [" ++ "perl6" ++ "] " = ": error: [perl6] " := by decide
  show toString (line + 1) ++ ": " ++ "error" ++ ": [" ++ "perl6" ++ "] " ++ message =
    toString (line + 1).toNat ++ ": error: [perl6] " ++ message
  rw [← hmiddle]
  simp only [String.append_assoc]
  rfl

/-- A line that was counted down can be counted up again. -/
theorem lineFits_onReportedLine (reported : UInt32) (message : String) :
    LineFits (.onReportedLine reported message) := by
  have hline : (Diagnostic.onReportedLine reported message).line.toNat = reported.toNat - 1 :=
    Diagnostic.fromReported_toNat reported
  have hreported : reported.toNat < 4294967296 := reported.toNat_lt
  have hup : ((Diagnostic.onReportedLine reported message).line + 1).toNat =
      (Diagnostic.onReportedLine reported message).line.toNat + 1 := by
    rw [UInt32.toNat_add, hline]
    show (reported.toNat - 1 + 1) % 4294967296 = _
    omega
  refine ⟨by omega, hup, ?_⟩
  rw [← hup]
  exact display_onLine _ message

/-- Whatever a diagnostic comes from, its line fits. -/
theorem lineFits_of_hasOrigin (h : HasOrigin text d) : LineFits d := by
  cases h with
  | captured digits_of =>
    obtain ⟨message, rfl⟩ := exists_of_captured digits_of
    exact lineFits_onReportedLine _ _
  | unread => exact lineFits_onReportedLine 0 _
  | silent => exact lineFits_onReportedLine 0 _

/-- **Lines fit.**  The line of every diagnostic that is reported for a text can be counted up by
    one in 32 bits.  The diagnostic is that of digits of the text, or stands on the first line.
    Digits are a whole number of the text, and their value alone decides on which line the
    diagnostic stands. -/
theorem lines_fit (text : String) :
    (∀ d, Reported text d → LineFits d ∧ HasOrigin text d) ∧
    (∀ digits d, Captured text.toList digits d →
      IsNumberIn digits text.toList ∧ StandsAt digits d.line) := by
  refine ⟨fun d h => ⟨lineFits_of_hasOrigin (origin h), origin h⟩, fun digits d h => ?_⟩
  refine ⟨isNumberIn_of_captured h, ?_⟩
  obtain ⟨message, rfl⟩ := exists_of_captured h
  exact standsAt_onReportedLine digits message

/-- Four blocks: a number that does not fit, one of another script, one with zeros in front, and the
    greatest one that fits. -/
def numberedBlocks : String :=
  "A\nat f:4294967296\n------> \nB\nat f:٣\n------> \nC\nat f:0000000007\n------> \n" ++
    "D\nat f:4294967295\n------> \n"

theorem lines_fit_numberedBlocks :
    extract numberedBlocks = [.onLine 0 "A", .onLine 0 "B", .onLine 6 "C", .onLine 4294967294 "D"] ∧
    (∀ d ∈ extract numberedBlocks, LineFits d ∧ HasOrigin numberedBlocks d) ∧
    (∀ b ∈ blocks numberedBlocks.toList, ∀ d ∈ b.diagnostic?,
      IsNumberIn b.digits numberedBlocks.toList ∧ StandsAt b.digits d.line) ∧
    (blocks numberedBlocks.toList).map (·.digits) =
      ["4294967296".toList, "٣".toList, "0000000007".toList, "4294967295".toList] := by
  obtain ⟨hreported, hcaptured⟩ := lines_fit numberedBlocks
  refine ⟨by decide +kernel, fun d hd => ?_, fun b hb d hd => ?_, by decide +kernel⟩
  · exact hreported d (.extracted hd)
  · exact hcaptured b.digits d (.block (Or.inl rfl) hb hd)

end Report

end DiagnosticBridge
