import DiagnosticBridge.Proofs.Excerpts

namespace DiagnosticBridge.Report

/-!
# The pieces of a report

Any text at all is a sequence of *pieces* and a tail.  A piece is a finding, the first locator
after the beginning of the finding, and the excerpt that follows; in the tail no locator is left.
The scanner finds exactly the pieces.

* `blocks_of_decomposes` — the blocks of a text are its pieces, however it is cut into pieces;
* `exists_decomposition` — every text can be cut into pieces;
* `locatedFindings_eq_pieces` — so the diagnostics of a text are those of its pieces, in order.
-/

/-- A part of a report that tells of one problem. -/
structure Piece where
  /-- The finding. -/
  finding : List Char
  /-- The locator. -/
  locator : List Char
  /-- The digits of the line in the locator. -/
  digits : List Char
  /-- The excerpt. -/
  excerpt : List Char

namespace Piece

/-- The piece as it stands in the report. -/
def text (p : Piece) : List Char := p.finding ++ p.locator ++ p.excerpt

/-- What the scanner makes of the piece. -/
def located (p : Piece) : Located := ⟨p.finding, p.digits⟩

/-- The piece is the first one of the text that it makes up with `rest`. -/
structure Opens (p : Piece) (rest : List Char) : Prop where
  /-- There is a finding. -/
  finding_ne_nil : p.finding ≠ []
  /-- The locator is one, and names the line by these digits. -/
  locates : IsLocator p.locator p.digits
  /-- After the first character of the finding no locator begins before this one. -/
  first : ∀ n, 1 ≤ n → n < p.finding.length → ¬ BeginsLocator ((p.text ++ rest).drop n)
  /-- The excerpt is all of the excerpt. -/
  excerpts : IsExcerpt p.excerpt rest

end Piece

/-- The text consists of the pieces and the tail. -/
inductive Decomposes : List Char → List Piece → List Char → Prop where
  /-- A text in which no locator begins after the first character is all tail. -/
  | tail {tail : List Char} (none_begins : ∀ n, 1 ≤ n → ¬ BeginsLocator (tail.drop n)) :
      Decomposes tail [] tail
  /-- After its first piece the text goes on with the others. -/
  | piece {p : Piece} {rest tail : List Char} {pieces : List Piece} (opens : p.Opens rest)
      (more : Decomposes rest pieces tail) : Decomposes (p.text ++ rest) (p :: pieces) tail

variable {text tail rest : List Char} {pieces : List Piece} {c : Char}

/-- The pieces and the tail make up the text. -/
theorem eq_of_decomposes (h : Decomposes text pieces tail) :
    text = pieces.flatMap Piece.text ++ tail := by
  induction h with
  | tail => rfl
  | piece _ _ ih => rw [List.flatMap_cons, List.append_assoc, ← ih]

/-! ### The scanner finds the pieces -/

/-- Without a locator there is no block. -/
theorem blocks_of_no_locator (h : cutAtLocator? rest = none) : blocks (c :: rest) = [] := by
  rw [blocks]
  split
  · rfl
  · next heq => simp [h] at heq

/-- The first character is part of the first finding, even where a locator could begin. -/
theorem blocks_of_locator {block : Located} {after : List Char}
    (h : cutAtLocator? rest = some (block, after)) :
    blocks (c :: rest) =
      { block with finding := c :: block.finding } :: blocks (skipExcerpt after) := by
  rw [blocks]
  split
  · next heq => simp [h] at heq
  · next heq =>
    rw [h, Option.some.injEq, Prod.mk.injEq] at heq
    obtain ⟨rfl, rfl⟩ := heq
    rfl

/-- The tail of a text has no block. -/
theorem blocks_of_tail (h : ∀ n, 1 ≤ n → ¬ BeginsLocator (tail.drop n)) : blocks tail = [] := by
  cases tail with
  | nil => rw [blocks]
  | cons c tail =>
    exact blocks_of_no_locator
      (cutAtLocator?_eq_none_iff.mpr fun n => h (n + 1) (Nat.succ_pos n))

/-- A piece is one block; the others follow it. -/
theorem blocks_of_piece {p : Piece} (h : p.Opens rest) :
    blocks (p.text ++ rest) = p.located :: blocks rest := by
  obtain ⟨finding, locator, digits, excerpt⟩ := p
  obtain ⟨hne, hloc, hfirst, hexcerpt⟩ := h
  cases finding with
  | nil => exact absurd rfl hne
  | cons c finding =>
    have htext : Piece.text ⟨c :: finding, locator, digits, excerpt⟩ ++ rest =
        c :: (finding ++ locator ++ (excerpt ++ rest)) := by
      simp [Piece.text]
    -- The scanner passes over the first character and cuts at the first locator after it.
    have hcut : cutAtLocator? (finding ++ locator ++ (excerpt ++ rest)) =
        some (⟨finding, digits⟩, excerpt ++ rest) := by
      refine cutAtLocator?_eq_some_iff.mpr ⟨locator, hloc, rfl, fun n hn => ?_⟩
      have hnot := hfirst (n + 1) (Nat.succ_pos n) (Nat.succ_lt_succ hn)
      rwa [htext] at hnot
    rw [htext, blocks_of_locator hcut, skipExcerpt_eq hexcerpt]
    rfl

/-- **The scanner finds the pieces.** -/
theorem blocks_of_decomposes (h : Decomposes text pieces tail) :
    blocks text = pieces.map Piece.located := by
  induction h with
  | tail none_begins => exact blocks_of_tail none_begins
  | piece opens _ ih => rw [blocks_of_piece opens, ih, List.map_cons]

/-- Every text can be cut into pieces. -/
theorem exists_decomposition (text : List Char) :
    ∃ pieces tail, Decomposes text pieces tail := by
  cases text with
  | nil =>
    refine ⟨[], [], .tail fun n _ => ?_⟩
    rw [List.drop_nil]
    exact locator?_eq_none_iff.mp rfl
  | cons c text =>
    cases hcut : cutAtLocator? text with
    | none =>
      refine ⟨[], c :: text, .tail fun n hn => ?_⟩
      obtain ⟨n, rfl⟩ := Nat.exists_eq_add_of_le' hn
      exact cutAtLocator?_eq_none_iff.mp hcut n
    | some cutting =>
      obtain ⟨⟨finding, digits⟩, after⟩ := cutting
      -- The first piece ends where the excerpt does; the rest is shorter and is cut likewise.
      obtain ⟨locator, hloc, heq, hfirst⟩ := cutAtLocator?_eq_some_iff.mp hcut
      obtain ⟨excerpt, hafter, hexcerpt⟩ := exists_excerpt after
      have hshorter : (skipExcerpt after).length < (c :: text).length := by
        have h1 := cutAtLocator?_length_lt hcut
        have h2 := skipExcerpt_length_le after
        rw [List.length_cons]
        omega
      obtain ⟨pieces, tail, hmore⟩ := exists_decomposition (skipExcerpt after)
      have htext : c :: text =
          Piece.text ⟨c :: finding, locator, digits, excerpt⟩ ++ skipExcerpt after := by
        rw [heq, hafter]
        simp [Piece.text, ← hafter]
      refine ⟨⟨c :: finding, locator, digits, excerpt⟩ :: pieces, tail, ?_⟩
      rw [htext]
      refine .piece ⟨List.cons_ne_nil _ _, hloc, fun n hn hlt => ?_, hexcerpt⟩ hmore
      rw [← htext]
      obtain ⟨n, rfl⟩ := Nat.exists_eq_add_of_le' hn
      exact hfirst n (Nat.lt_of_succ_lt_succ hlt)
termination_by text.length
decreasing_by exact hshorter

/-! ### The diagnostics of the pieces -/

/-- The diagnostic of a piece: its finding, trimmed, on the line that its digits name.  A blank
    finding has none. -/
def Piece.diagnostic? (p : Piece) : Option Diagnostic :=
  if Text.isBlank p.finding then none
  else some (.onReportedLine (lineNumber p.digits) (String.ofList (Text.trim p.finding)))

/-- Trimming leaves nothing of a finding exactly if it is blank. -/
theorem Located.diagnostic?_eq (b : Located) :
    b.diagnostic? = if Text.isBlank b.finding then none
      else some (.onReportedLine (lineNumber b.digits) (String.ofList (Text.trim b.finding))) := by
  unfold Located.diagnostic?
  by_cases hb : Text.isBlank b.finding = true
  · have htrim : Text.trim b.finding = [] := (Text.isBlank_iff_trim_eq_nil _).mp hb
    simp [htrim, hb]
  · have htrim : Text.trim b.finding ≠ [] := mt (Text.isBlank_iff_trim_eq_nil _).mpr hb
    simp [htrim, hb]

theorem Piece.located_diagnostic? (p : Piece) : p.located.diagnostic? = p.diagnostic? :=
  p.located.diagnostic?_eq

/-- The message of a piece is its trimmed finding. -/
theorem Piece.message_of_diagnostic? {p : Piece} {d : Diagnostic} (h : p.diagnostic? = some d) :
    Text.isBlank p.finding = false ∧ d.message.toList = Text.trim p.finding := by
  unfold Piece.diagnostic? at h
  split at h
  · cases h
  · next hb =>
    rw [← Option.some.inj h]
    exact ⟨by simpa using hb, String.toList_ofList⟩

/-- The diagnostics of a text are those of its pieces. -/
theorem locatedFindings_of_decomposes (h : Decomposes text pieces tail) :
    locatedFindings text = pieces.filterMap Piece.diagnostic? := by
  rw [locatedFindings, blocks_of_decomposes h, List.filterMap_map]
  exact congrArg (List.filterMap · pieces) (funext Piece.located_diagnostic?)

/-- The parts stand in the text one after the other, none of them overlapping another. -/
inductive InOrder : List (List Char) → List Char → Prop where
  | none (text : List Char) : InOrder [] text
  | next {part rest : List Char} {parts : List (List Char)} (before : List Char)
      (more : InOrder parts rest) : InOrder (part :: parts) (before ++ part ++ rest)

/-- Parts that stand in order do so with any text before them. -/
theorem InOrder.prepend {parts : List (List Char)} (h : InOrder parts text) (before : List Char) :
    InOrder parts (before ++ text) := by
  cases h with
  | none => exact .none _
  | next gap more =>
    rw [← List.append_assoc, ← List.append_assoc]
    exact .next (before ++ gap) more

/-- The messages are parts of the text, in order. -/
theorem inOrder_of_decomposes (h : Decomposes text pieces tail) :
    InOrder ((pieces.filterMap Piece.diagnostic?).map (·.message.toList)) text := by
  induction h with
  | tail => exact .none _
  | @piece p rest tail pieces opens _ ih =>
    -- A blank finding adds nothing, and its piece belongs to what stands before the next message.
    cases hd : p.diagnostic? with
    | none =>
      rw [List.filterMap_cons_none hd]
      exact ih.prepend _
    | some d =>
      obtain ⟨before, after, _, _, heq⟩ := Text.exists_trim p.finding
      have htext : p.text ++ rest =
          before ++ d.message.toList ++ (after ++ p.locator ++ p.excerpt ++ rest) := by
        rw [Piece.text, heq, (Piece.message_of_diagnostic? hd).2]
        simp only [List.append_assoc]
      rw [List.filterMap_cons_some hd, List.map_cons, htext]
      exact .next before (ih.prepend _)

/-- **Soundness and completeness of the scanner.** Every text can be cut into pieces and a tail,
    and however it is cut, its diagnostics are those of the pieces whose findings are not blank,
    in order.  So the messages are parts of the text that stand one after the other, trimmed and
    not blank. -/
theorem locatedFindings_eq_pieces (text : List Char) :
    (∃ pieces tail, Decomposes text pieces tail) ∧
    (∀ pieces tail, Decomposes text pieces tail →
      text = pieces.flatMap Piece.text ++ tail ∧
      locatedFindings text = pieces.filterMap Piece.diagnostic?) ∧
    InOrder ((locatedFindings text).map (·.message.toList)) text ∧
    (∀ d ∈ locatedFindings text,
      Text.trim d.message.toList = d.message.toList ∧
        Text.isBlank d.message.toList = false) := by
  obtain ⟨pieces, tail, h⟩ := exists_decomposition text
  refine ⟨⟨pieces, tail, h⟩, ?_, ?_, ?_⟩
  · intro pieces tail h
    exact ⟨eq_of_decomposes h, locatedFindings_of_decomposes h⟩
  · rw [locatedFindings_of_decomposes h]
    exact inOrder_of_decomposes h
  · intro d hd
    rw [locatedFindings_of_decomposes h] at hd
    obtain ⟨p, _, hp⟩ := List.mem_filterMap.mp hd
    obtain ⟨hblank, hmessage⟩ := Piece.message_of_diagnostic? hp
    rw [hmessage]
    refine ⟨Text.trim_trim _, ?_⟩
    rw [Text.isBlank_trim]
    exact hblank

end DiagnosticBridge.Report
