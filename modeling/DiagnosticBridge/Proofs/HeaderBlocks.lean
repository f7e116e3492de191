import DiagnosticBridge.Proofs.Truncation

namespace DiagnosticBridge.Frame

/-!
# Blocks of header lines

Before a body there may be any number of header lines, in any order and spelling.  All that matters
of them is the number that the last `Content-Length` tells; every other line is passed over, and
the first `Content-Length` that tells no number is the end.

* `HeaderLine.ofText_of_length`, `HeaderLine.ofText_of_silent` — what a line is read as, and the
  other way round `HeaderLine.tells_of_length`, `HeaderLine.silent_of_other`;
* `headersFrom_text` — what it does to the headers;
* `headersFrom_lines` — what many lines do, of which the last one that tells a number counts;
* `headers_block` — so a block is read like the two lines that tell the same number;
* `read_block` — and so is the message after it.
-/

variable {line blank value : List Char} {lines before after : List (List Char)} {n : Nat}
  {closed started : Bool} {length : Option Nat}

/-! ### What a line tells -/

/-- The line is named `Content-Length`, in any ASCII case, and has this value.  The name stands
    before the first colon and the value after it, both with any white space around them. -/
inductive TellsLength : List Char → List Char → Prop where
  | intro {name value : List Char} (first_colon : ':' ∉ name)
      (named : (Text.trim name).map Char.toLower = "content-length".toList) :
      TellsLength (name ++ ':' :: value) (Text.trim value)

/-- The value is a number of 64 bits, in decimal. -/
def IsLength (n : Nat) (value : List Char) : Prop := Decimal.IsNumeral n value ∧ n < UInt64.size

/-- The name of a length is told in any case, with white space around it. -/
theorem isLengthName_iff {name : List Char} :
    isLengthName name = true ↔ (Text.trim name).map Char.toLower = "content-length".toList := by
  rw [isLengthName, beq_iff_eq]

/-- A colon is no white space, so that trimming a line leaves its name and its value. -/
theorem tellsLength_iff :
    TellsLength line value ↔ ∃ name rest, Text.cutAtChar? ':' (Text.trim line) = some (name, rest) ∧
      isLengthName name = true ∧ value = Text.trim rest := by
  have hcolon : Text.isSpace ':' = false := by decide
  constructor
  · intro h
    cases h with
    | @intro name value first_colon named =>
      refine ⟨Text.trimStart name, Text.trimEnd value, Text.cutAtChar?_eq_some_iff.mpr ⟨?_, ?_⟩,
        ?_, (Text.trim_trimEnd value).symm⟩
      · exact Text.trim_append_cons hcolon name value
      · exact fun hin => first_colon ((List.dropWhile_suffix _).subset hin)
      · rwa [isLengthName_iff, Text.trim_trimStart]
  · rintro ⟨name, rest, hcut, hnamed, rfl⟩
    obtain ⟨before, after, hbefore, hafter, hline⟩ := Text.exists_trim line
    obtain ⟨htrim, hfirst⟩ := Text.cutAtChar?_eq_some_iff.mp hcut
    have hline : line = (before ++ name) ++ ':' :: (rest ++ after) := by
      rw [hline, htrim]
      simp
    -- The white space that was trimmed off in front holds no colon.
    have hnot : ':' ∉ before := fun hin => by
      rw [Text.isBlank, List.all_eq_true] at hbefore
      exact absurd (hbefore ':' hin) (by decide)
    have hname : (Text.trim (before ++ name)).map Char.toLower = "content-length".toList := by
      rwa [Text.trim_append_of_isBlank_left hbefore, ← isLengthName_iff]
    rw [hline, ← Text.trim_append_of_isBlank rest hafter]
    exact .intro (List.not_mem_append hnot hfirst) hname

/-- A line that tells a length is not blank. -/
theorem TellsLength.not_isBlank (h : TellsLength line value) : Text.isBlank line = false := by
  cases h with
  | intro => simp [Text.isBlank_append, Text.isBlank_cons, show Text.isSpace ':' = false by decide]

theorem trim_isEmpty_eq_false (h : Text.isBlank line = false) :
    (Text.trim line).isEmpty = false := by
  rw [List.isEmpty_eq_false_iff, ne_eq, ← Text.isBlank_iff_trim_eq_nil, h]
  exact Bool.false_ne_true

/-- A line that tells a number is read as this number. -/
theorem HeaderLine.ofText_of_length (h : TellsLength line value) (hn : IsLength n value) :
    HeaderLine.ofText line = .ok (.length n) := by
  have hread : Decimal.signed? UInt64.size value = some n := Decimal.signed?_eq_some_iff.mpr hn
  obtain ⟨name, rest, hcut, hnamed, rfl⟩ := tellsLength_iff.mp h
  simp only [HeaderLine.ofText, trim_isEmpty_eq_false h.not_isBlank, hcut, hnamed, hread, if_true,
    Bool.false_eq_true, if_false]

/-- A line that should tell a number and does not is a fault. -/
theorem HeaderLine.ofText_of_bad (h : TellsLength line value) (hbad : ∀ n, ¬ IsLength n value) :
    HeaderLine.ofText line = .error (.badLength value) := by
  have hread : Decimal.signed? UInt64.size value = none :=
    Option.eq_none_iff_forall_ne_some.mpr fun n hn => hbad n (Decimal.signed?_eq_some_iff.mp hn)
  obtain ⟨name, rest, hcut, hnamed, rfl⟩ := tellsLength_iff.mp h
  simp only [HeaderLine.ofText, trim_isEmpty_eq_false h.not_isBlank, hcut, hnamed, hread, if_true,
    Bool.false_eq_true, if_false]

/-- Any other line is passed over, unless it is blank. -/
theorem HeaderLine.ofText_of_silent (hblank : Text.isBlank line = false)
    (h : ∀ value, ¬ TellsLength line value) : HeaderLine.ofText line = .ok .other := by
  simp only [HeaderLine.ofText, trim_isEmpty_eq_false hblank, Bool.false_eq_true, if_false]
  split
  · rfl
  · next name rest hcut =>
    rw [if_neg]
    exact fun hnamed => h _ (tellsLength_iff.mpr ⟨name, rest, hcut, hnamed, rfl⟩)

/-- A line that is read without a fault tells a number if it tells a length at all. -/
theorem exists_isLength_of_ok {found : HeaderLine} (h : HeaderLine.ofText line = .ok found)
    (htells : TellsLength line value) : ∃ n, IsLength n value := by
  refine Classical.byContradiction fun hnone => ?_
  rw [HeaderLine.ofText_of_bad htells (not_exists.mp hnone)] at h
  cases h

/-- A line that is read as a number tells it. -/
theorem HeaderLine.tells_of_length (h : HeaderLine.ofText line = .ok (.length n)) :
    ∃ value, TellsLength line value ∧ IsLength n value := by
  by_cases hblank : Text.isBlank line = true
  · rw [HeaderLine.ofText_of_blank hblank] at h
    cases h
  by_cases htells : ∃ value, TellsLength line value
  · obtain ⟨value, htells⟩ := htells
    obtain ⟨m, hm⟩ := exists_isLength_of_ok h htells
    rw [HeaderLine.ofText_of_length htells hm] at h
    cases h
    exact ⟨value, htells, hm⟩
  · rw [HeaderLine.ofText_of_silent (eq_false_of_ne_true hblank) (not_exists.mp htells)] at h
    cases h

/-- A line that is passed over tells nothing. -/
theorem HeaderLine.silent_of_other (h : HeaderLine.ofText line = .ok .other) (value : List Char) :
    ¬ TellsLength line value := by
  intro htells
  obtain ⟨n, hn⟩ := exists_isLength_of_ok h htells
  rw [HeaderLine.ofText_of_length htells hn] at h
  cases h

/-- A line that is read as anything but blank is not blank. -/
theorem HeaderLine.not_isBlank {found : HeaderLine} (h : HeaderLine.ofText line = .ok found)
    (hne : found ≠ .blank) : Text.isBlank line = false := by
  refine eq_false_of_ne_true fun hblank => hne ?_
  rw [HeaderLine.ofText_of_blank hblank] at h
  exact (Except.ok.inj h).symm

/-! ### Lines and blocks in bytes -/

/-- The bytes of lines, each with the line feed that ends it.  A carriage return before the line
    feed is part of the line, as white space. -/
def linesBytes (lines : List (List Char)) : List UInt8 :=
  lines.flatMap fun line => Utf8.encode line ++ [10]

theorem linesBytes_cons (line : List Char) (lines : List (List Char)) :
    linesBytes (line :: lines) = Utf8.encode line ++ 10 :: linesBytes lines := by
  rw [linesBytes, List.flatMap_cons, List.append_assoc]
  rfl

theorem linesBytes_append (a b : List (List Char)) :
    linesBytes (a ++ b) = linesBytes a ++ linesBytes b := List.flatMap_append

/-- A header line: one line, and not blank. -/
structure IsField (line : List Char) : Prop where
  /-- It is one line. -/
  one_line : '\n' ∉ line
  /-- It is not blank. -/
  not_blank : Text.isBlank line = false

/-- A line that ends the headers: one line, and blank. -/
structure IsClosing (line : List Char) : Prop where
  /-- It is one line. -/
  one_line : '\n' ∉ line
  /-- It is blank. -/
  blank : Text.isBlank line = true

/-- Header lines and the blank line that ends them. -/
def block (lines : List (List Char)) (blank : List Char) : List UInt8 :=
  linesBytes lines ++ Utf8.encode blank ++ [10]

/-- The line feed at its end does not matter to what a line is read as. -/
theorem ofBytes_line (line : List Char) :
    HeaderLine.ofBytes (Utf8.encode line ++ [10]) = HeaderLine.ofText line := by
  have hfeed : Utf8.encode line ++ [10] = Utf8.encode (line ++ ['\n']) :=
    (Utf8.encode_append line ['\n']).symm
  have htrim : Text.trim (line ++ ['\n']) = Text.trim line := Text.trim_append_of_isBlank line rfl
  rw [hfeed, HeaderLine.ofBytes, Utf8.decode_encode]
  simp only [HeaderLine.ofText, htrim]

/-! ### What lines do to the headers -/

/-- A line of text is taken by what it is read as. -/
theorem headersFrom_text (h : '\n' ∉ line) (rest : List UInt8) :
    headersFrom closed started length [] (Utf8.encode line ++ 10 :: rest) =
      match HeaderLine.ofText line with
      | .error fault => .faulty fault
      | .ok .blank => .complete length rest
      | .ok (.length n) => headersFrom closed true (some n) [] rest
      | .ok .other => headersFrom closed true length [] rest := by
  rewrite [headersFrom_line _ _ _ (Utf8.lineFeed_not_mem_encode h), List.reverse_nil,
    List.nil_append, ofBytes_line]
  rfl

/-- A line that tells a length replaces the length told before. -/
theorem headersFrom_tells (h : IsField line) (htells : TellsLength line value)
    (hn : IsLength n value) (rest : List UInt8) :
    headersFrom closed started length [] (Utf8.encode line ++ 10 :: rest) =
      headersFrom closed true (some n) [] rest := by
  rw [headersFrom_text h.one_line, HeaderLine.ofText_of_length htells hn]

/-- A line that tells none leaves it as it is. -/
theorem headersFrom_silent (h : IsField line) (hsilent : ∀ value, ¬ TellsLength line value)
    (rest : List UInt8) :
    headersFrom closed started length [] (Utf8.encode line ++ 10 :: rest) =
      headersFrom closed true length [] rest := by
  rw [headersFrom_text h.one_line, HeaderLine.ofText_of_silent h.not_blank hsilent]

/-- A length that is no number ends the reading. -/
theorem headersFrom_bad (h : IsField line) (htells : TellsLength line value)
    (hbad : ∀ n, ¬ IsLength n value) (rest : List UInt8) :
    headersFrom closed started length [] (Utf8.encode line ++ 10 :: rest) =
      .faulty (.badLength value) := by
  rw [headersFrom_text h.one_line, HeaderLine.ofText_of_bad htells hbad]

/-- A blank line closes the block. -/
theorem headersFrom_closing (h : IsClosing blank) (rest : List UInt8) :
    headersFrom closed started length [] (Utf8.encode blank ++ 10 :: rest) =
      .complete length rest := by
  rw [headersFrom_text h.one_line, HeaderLine.ofText_of_blank h.blank]

/-- Every line that should tell a number does. -/
def Sound (lines : List (List Char)) : Prop :=
  ∀ line ∈ lines, ∀ value, TellsLength line value → ∃ n, IsLength n value

/-- No line tells a length. -/
def Silent (lines : List (List Char)) : Prop := ∀ line ∈ lines, ∀ value, ¬ TellsLength line value

/-- The number that the last of the lines tells that tell any, or none. -/
inductive LastLength : List (List Char) → Option Nat → Prop where
  /-- No line tells a number. -/
  | silent {lines : List (List Char)} (silent : Silent lines) : LastLength lines none
  /-- No line after this one tells a number. -/
  | told {before after : List (List Char)} {line value : List Char} {n : Nat}
      (tells : TellsLength line value) (number : IsLength n value) (silent : Silent after) :
      LastLength (before ++ line :: after) (some n)

theorem sound_nil : Sound [] := fun _ hline => absurd hline List.not_mem_nil

theorem silent_nil : Silent [] := fun _ hline => absurd hline List.not_mem_nil

/-- A number that is told before others counts only if there are no others. -/
theorem LastLength.cons_tells {found : Option Nat} (htells : TellsLength line value)
    (hn : IsLength n value) (hlast : LastLength lines found) :
    LastLength (line :: lines) (found.or (some n)) := by
  cases hlast with
  | silent hsilent =>
    have htold : LastLength ([] ++ line :: lines) (some n) := .told htells hn hsilent
    exact htold
  | told tells number silent =>
    rw [← List.cons_append]
    exact .told tells number silent

/-- A line that tells no length does not matter. -/
theorem LastLength.cons_silent {found : Option Nat} (hsilent : ∀ value, ¬ TellsLength line value)
    (hlast : LastLength lines found) : LastLength (line :: lines) found := by
  cases hlast with
  | silent hlines => exact .silent (List.forall_mem_cons.mpr ⟨hsilent, hlines⟩)
  | told tells number silent =>
    rw [← List.cons_append]
    exact .told tells number silent

/-- Lines whose lengths are numbers have a last length, or tell none. -/
theorem exists_lastLength (hsound : Sound lines) : ∃ found, LastLength lines found := by
  induction lines with
  | nil => exact ⟨none, .silent silent_nil⟩
  | cons line lines ih =>
    obtain ⟨hline, hlines⟩ := List.forall_mem_cons.mp hsound
    obtain ⟨found, hfound⟩ := ih hlines
    -- The lines after this one are asked first, since a later length outdoes it.
    by_cases htells : ∃ value, TellsLength line value
    · obtain ⟨value, htells⟩ := htells
      obtain ⟨n, hn⟩ := hline value htells
      exact ⟨_, hfound.cons_tells htells hn⟩
    · exact ⟨_, hfound.cons_silent (not_exists.mp htells)⟩

/-! ### Many lines -/

/-- Lines without a length are passed over. -/
theorem headersFrom_silents (started : Bool) (hfields : ∀ line ∈ lines, IsField line)
    (hsilent : Silent lines) :
    ∃ later, ∀ rest, headersFrom closed started length [] (linesBytes lines ++ rest) =
      headersFrom closed later length [] rest := by
  induction lines generalizing started with
  | nil => exact ⟨started, fun _ => rfl⟩
  | cons line lines ih =>
    obtain ⟨hfield, hfields⟩ := List.forall_mem_cons.mp hfields
    obtain ⟨hline, hsilent⟩ := List.forall_mem_cons.mp hsilent
    obtain ⟨later, hlater⟩ := ih true hfields hsilent
    refine ⟨later, fun rest => ?_⟩
    rw [linesBytes_cons, List.append_assoc, List.cons_append, headersFrom_silent hfield hline,
      hlater]

/-- After lines without a fault the headers go on. -/
theorem headersFrom_sound (started : Bool) (length : Option Nat)
    (hfields : ∀ line ∈ lines, IsField line) (hsound : Sound lines) :
    ∃ later found, ∀ rest, headersFrom closed started length [] (linesBytes lines ++ rest) =
      headersFrom closed later found [] rest := by
  -- What has been told so far changes from line to line.
  induction lines generalizing started length with
  | nil => exact ⟨started, length, fun _ => rfl⟩
  | cons line lines ih =>
    obtain ⟨hfield, hfields⟩ := List.forall_mem_cons.mp hfields
    obtain ⟨hline, hsound⟩ := List.forall_mem_cons.mp hsound
    by_cases htells : ∃ value, TellsLength line value
    · obtain ⟨value, htells⟩ := htells
      obtain ⟨n, hn⟩ := hline value htells
      obtain ⟨later, found, hlater⟩ := ih true (some n) hfields hsound
      refine ⟨later, found, fun rest => ?_⟩
      rw [linesBytes_cons, List.append_assoc, List.cons_append,
        headersFrom_tells hfield htells hn, hlater]
    · obtain ⟨later, found, hlater⟩ := ih true length hfields hsound
      refine ⟨later, found, fun rest => ?_⟩
      rw [linesBytes_cons, List.append_assoc, List.cons_append,
        headersFrom_silent hfield (not_exists.mp htells), hlater]

/-- **The last length counts.** -/
theorem headersFrom_lines {found : Option Nat} (hfields : ∀ line ∈ lines, IsField line)
    (hsound : Sound lines) (hlast : LastLength lines found) :
    ∃ later, ∀ rest, headersFrom closed started length [] (linesBytes lines ++ rest) =
      headersFrom closed later (found.or length) [] rest := by
  cases hlast with
  | silent hsilent => exact headersFrom_silents started hfields hsilent
  | @told before after line value n tells number silent =>
    rw [List.forall_mem_append, List.forall_mem_cons] at hfields
    obtain ⟨hbefore, hfield, hafter⟩ := hfields
    have hsound : Sound before := fun l hl => hsound l (List.mem_append_left _ hl)
    -- Whatever the lines before this one told, this one replaces it, and none after it does.
    obtain ⟨_, _, hsame⟩ := headersFrom_sound started length hbefore hsound
    obtain ⟨later, hlater⟩ := headersFrom_silents true hafter silent
    refine ⟨later, fun rest => ?_⟩
    rw [linesBytes_append, linesBytes_cons, List.append_assoc, hsame, List.append_assoc,
      List.cons_append, headersFrom_tells hfield tells number, hlater]
    rfl

/-- The first line that should tell a number and does not is a fault, whatever follows it. -/
theorem headersFrom_first_bad (hbefore : ∀ l ∈ before, IsField l) (hsound : Sound before)
    (hfield : IsField line) (htells : TellsLength line value) (hbad : ∀ n, ¬ IsLength n value)
    (rest : List UInt8) :
    headersFrom closed started length [] (linesBytes (before ++ [line]) ++ rest) =
      .faulty (.badLength value) := by
  obtain ⟨_, _, hsame⟩ := headersFrom_sound started length hbefore hsound
  rw [linesBytes_append, List.append_assoc, hsame, linesBytes_cons, List.append_assoc,
    List.cons_append, headersFrom_bad hfield htells hbad]

/-! ### Blocks -/

/-- **A block is read like the two lines that tell the same length**, and the bytes after it are
    left. -/
theorem headers_block (closed : Bool) {found : Option Nat} (hclosing : IsClosing blank)
    (hfields : ∀ line ∈ lines, IsField line) (hsound : Sound lines)
    (hlast : LastLength lines found) (rest : List UInt8) :
    headers closed (block lines blank ++ rest) = .complete found rest := by
  obtain ⟨_, hlines⟩ := headersFrom_lines hfields hsound hlast
  rw [headers, block, List.append_assoc, List.append_assoc, hlines, List.singleton_append,
    headersFrom_closing hclosing, Option.or_none]

/-- Among lines with a fault there is a first one with a fault. -/
theorem exists_first_bad (h : ¬ Sound lines) :
    ∃ before line value after, lines = before ++ line :: after ∧ Sound before ∧
      TellsLength line value ∧ ∀ n, ¬ IsLength n value := by
  induction lines with
  | nil => exact absurd sound_nil h
  | cons line lines ih =>
    -- The fault is on the first line, or among the others, of which there is a first one.
    by_cases hline : ∀ value, TellsLength line value → ∃ n, IsLength n value
    · have hlines : ¬ Sound lines := fun hlines => h (List.forall_mem_cons.mpr ⟨hline, hlines⟩)
      obtain ⟨before, bad, value, after, rfl, hbefore, htells, hbad⟩ := ih hlines
      exact ⟨line :: before, bad, value, after, rfl, List.forall_mem_cons.mpr ⟨hline, hbefore⟩,
        htells, hbad⟩
    · obtain ⟨value, hvalue⟩ := not_forall.mp hline
      obtain ⟨htells, hbad⟩ := Classical.not_imp.mp hvalue
      exact ⟨[], line, value, lines, rfl, sound_nil, htells, not_exists.mp hbad⟩

/-- **Blocks of header lines differ in the last length only.** If all lines that tell a length tell
    a number, and there is such a line, then the message after a block is read as it is after the
    header lines that are written for the number of the last one; if this number is too great, no
    byte of the body is asked for.  Without such a line the length is missing.  The first line that
    tells no number is a fault, with its value, as soon as it is read. -/
theorem read_block {lines : List (List Char)} {blank : List Char} (closed : Bool)
    (hfields : ∀ line ∈ lines, IsField line) (hclosing : IsClosing blank) :
    (Sound lines → ¬ Silent lines → ∃ n, LastLength lines (some n) ∧ ∀ rest,
      headers closed (block lines blank ++ rest) = .complete (some n) rest ∧
      headers closed (header n ++ rest) = .complete (some n) rest ∧
      read closed (block lines blank ++ rest) = read closed (header n ++ rest) ∧
      (greatestLength < n → read closed (block lines blank ++ rest) = .faulty (.tooLong n))) ∧
    (Silent lines → ∀ rest, read closed (block lines blank ++ rest) = .faulty .noLength) ∧
    (¬ Sound lines → ∃ before line value after, lines = before ++ line :: after ∧
      Sound before ∧ TellsLength line value ∧ (∀ n, ¬ IsLength n value) ∧
      (∀ rest, read closed (block lines blank ++ rest) = .faulty (.badLength value)) ∧
      ∀ rest, read closed (linesBytes (before ++ [line]) ++ rest) =
        .faulty (.badLength value)) := by
  refine ⟨fun hsound hsome => ?_, fun hsilent rest => ?_, fun hbad => ?_⟩
  · obtain ⟨found, hlast⟩ := exists_lastLength hsound
    cases hlast with
    | silent hsilent => exact absurd hsilent hsome
    | @told before after line value n tells number silent =>
      have hlast : LastLength (before ++ line :: after) (some n) := .told tells number silent
      refine ⟨n, hlast, fun rest => ?_⟩
      have hblock := headers_block closed hclosing hfields hsound hlast rest
      have hheader := headers_header closed number.2 rest
      refine ⟨hblock, hheader, by rw [read, read, hblock, hheader], fun hn => ?_⟩
      rw [read, hblock]
      exact if_pos hn
  · have hsound : Sound lines := fun line hline value htells =>
      absurd htells (hsilent line hline value)
    rw [read, headers_block closed hclosing hfields hsound (.silent hsilent)]
  · obtain ⟨before, line, value, after, rfl, hbefore, htells, hbad⟩ := exists_first_bad hbad
    rw [List.forall_mem_append, List.forall_mem_cons] at hfields
    have hread : ∀ rest, read closed (linesBytes (before ++ [line]) ++ rest) =
        .faulty (.badLength value) := by
      intro rest
      rw [read, headers, headersFrom_first_bad hfields.1 hbefore hfields.2.1 htells hbad]
    refine ⟨before, line, value, after, rfl, hbefore, htells, hbad, fun rest => ?_, hread⟩
    -- What follows the faulty line is not looked at.
    have hblock : block (before ++ line :: after) blank ++ rest =
        linesBytes (before ++ [line]) ++
          (linesBytes after ++ Utf8.encode blank ++ [10] ++ rest) := by
      rw [block, List.append_cons before line after, linesBytes_append (before ++ [line]) after]
      simp only [List.append_assoc]
    rw [hblock, hread]

/-- A header line with colons in its value, and an earlier length in another spelling. -/
def spareLines : List (List Char) :=
  ["Content-Type: a:b\r".toList, "cONTENT-lENGTH\t: 007\r".toList]

/-- The line that counts. -/
def lastLine : List Char := "Content-Length:+2".toList

/-- The last line tells the length of an empty object. -/
theorem read_block_lastLine :
    (∀ line ∈ spareLines ++ [lastLine], IsField line) ∧ IsClosing ['\u00a0', '\r'] ∧
      Sound (spareLines ++ [lastLine]) ∧ ¬ Silent (spareLines ++ [lastLine]) ∧
      read false (block (spareLines ++ [lastLine]) ['\u00a0', '\r'] ++ [123, 125]) =
        .message (.object []) [] := by
  have hfields : ∀ line ∈ spareLines ++ [lastLine], IsField line := by
    simp only [spareLines, List.forall_mem_append, List.forall_mem_cons]
    exact ⟨⟨⟨by decide +kernel, by decide +kernel⟩, ⟨by decide +kernel, by decide +kernel⟩,
      by simp⟩, ⟨by decide +kernel, by decide +kernel⟩, by simp⟩
  have hclosing : IsClosing ['\u00a0', '\r'] := ⟨by decide, by decide⟩
  have hother : HeaderLine.ofText "Content-Type: a:b\r".toList = .ok .other := by decide +kernel
  have hseven : HeaderLine.ofText "cONTENT-lENGTH\t: 007\r".toList = .ok (.length 7) := by
    decide +kernel
  have htwo : HeaderLine.ofText lastLine = .ok (.length 2) := by decide +kernel
  obtain ⟨value, htells, hnumber⟩ := HeaderLine.tells_of_length htwo
  have hsound : Sound (spareLines ++ [lastLine]) := by
    simp only [Sound, spareLines, List.forall_mem_append, List.forall_mem_cons]
    exact ⟨⟨fun _ => exists_isLength_of_ok hother, fun _ => exists_isLength_of_ok hseven,
      by simp⟩, fun _ => exists_isLength_of_ok htwo, by simp⟩
  have hsome : ¬ Silent (spareLines ++ [lastLine]) := fun hsilent =>
    hsilent lastLine List.mem_concat_self _ htells
  have hlast : LastLength (spareLines ++ [lastLine]) (some 2) := .told htells hnumber silent_nil
  refine ⟨hfields, hclosing, hsound, hsome, ?_⟩
  obtain ⟨n, _, hread⟩ := (read_block false hfields hclosing).1 hsound hsome
  obtain ⟨hblock, _, hsame, _⟩ := hread [123, 125]
  rw [headers_block false hclosing hfields hsound hlast] at hblock
  obtain rfl : 2 = n := Option.some.inj (Headers.complete.inj hblock).1
  have hframe : header 2 ++ [123, 125] = frame [123, 125] ++ [] := by
    rw [List.append_nil]
    rfl
  have hbody : ([123, 125] : List UInt8).length ≤ greatestLength := by decide +kernel
  rw [hsame, hframe, read_frame false hbody]
  rfl

end DiagnosticBridge.Frame
