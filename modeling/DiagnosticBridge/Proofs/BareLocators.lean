import DiagnosticBridge.Proofs.Decomposition
import DiagnosticBridge.Proofs.Returns
import Mathlib.Data.List.Infix

namespace DiagnosticBridge.Report

/-!
# Locators without a finding

A finding is at least one character long, so that no locator is seen at the very front of what is
left of a report: it is taken for part of the finding that goes to the next locator.  In a report
with carriage returns before its line feeds it is seen, since the return stands before it.  There
the block has that return as its finding.

* `cutAtLocator?_withReturns`, `skipExcerpt_withReturns` — all else is read the same with returns;
* `blocks_withReturns` — with returns a locator without a finding is a block of its own;
* `eachHasFinding_iff` — whether each locator has a finding can be told by reading;
* `blocks_eq_allBlocks` — if each has one, the blocks are the same without returns.
-/

variable {text after : List Char}

open Text (withReturns)

/-! ### Reading with returns -/

/-- A locator is read with its returns just as without them. -/
theorem locator?_withReturns (h : '\r' ∉ text) :
    locator? (withReturns text) =
      (locator? text).map fun read => (read.1, withReturns read.2) := by
  have hat : OnOneLine "at ".toList := by decide
  have harrow : OnOneLine "------>".toList := by decide
  simp only [locator?, bind, Text.afterLineBreak?_withReturns h]
  cases hbreak : Text.afterLineBreak? text with
  | none => rfl
  | some place =>
    simp only [Option.map_some, Option.bind_some, Text.after?_withReturns hat]
    cases hplace : Text.after? "at ".toList place with
    | none => rfl
    | some line =>
      simp only [Option.map_some, Option.bind_some, Text.takeWhile_withReturns,
        Text.dropWhile_withReturns]
      cases locatedDigits? (line.takeWhile staysOnLine) with
      | none => rfl
      | some digits =>
        have hr : '\r' ∉ line.dropWhile staysOnLine := by
          obtain ⟨br, _, rfl⟩ := afterLineBreak?_eq_some_iff.mp hbreak
          obtain rfl := Text.after?_eq_some_iff.mp hplace
          intro hin
          have hline := (List.dropWhile_suffix staysOnLine).subset hin
          exact h (List.mem_append_right _ (List.mem_append_right _ hline))
        simp only [Option.bind_some, Text.afterLineBreak?_withReturns hr]
        cases Text.afterLineBreak? (line.dropWhile staysOnLine) with
        | none => rfl
        | some arrow =>
          simp only [Option.map_some, Option.bind_some, Text.after?_withReturns harrow]
          cases Text.after? "------>".toList arrow <;> rfl

/-- A locator begins where its line end does, or at the line feed of that. -/
theorem cutAtLocator?_withReturns (h : '\r' ∉ text) :
    cutAtLocator? (withReturns text) = (cutAtLocator? text).map fun cutting =>
      (⟨withReturns cutting.1.finding, cutting.1.digits⟩, withReturns cutting.2) := by
  induction text with
  | nil => rfl
  | cons c text ih =>
    have hhere := locator?_withReturns h
    have ih := ih fun hin => h (List.mem_cons_of_mem c hin)
    by_cases hc : c = '\n'
    · subst hc
      rw [Text.withReturns_feed] at hhere ⊢
      cases hlocator : locator? ('\n' :: text) with
      | some read =>
        rw [hlocator] at hhere
        rw [cutAtLocator?_of_locator hhere, cutAtLocator?_of_locator hlocator]
        rfl
      | none =>
        -- Neither the return nor the line feed after it begins a locator.
        rw [hlocator] at hhere
        have hfeed : locator? ('\n' :: withReturns text) = none := hhere
        rw [cutAtLocator?_of_no_locator hhere, cutAtLocator?_of_no_locator hfeed,
          cutAtLocator?_of_no_locator hlocator, ih]
        cases cutAtLocator? text <;> rfl
    · rw [Text.withReturns_cons hc] at hhere ⊢
      cases hlocator : locator? (c :: text) with
      | some read =>
        rw [hlocator] at hhere
        rw [cutAtLocator?_of_locator hhere, cutAtLocator?_of_locator hlocator]
        rfl
      | none =>
        rw [hlocator] at hhere
        rw [cutAtLocator?_of_no_locator hhere, cutAtLocator?_of_no_locator hlocator, ih]
        cases cutAtLocator? text with
        | none => rfl
        | some cutting =>
          simp only [Option.map_some, Text.withReturns_cons hc]

/-- With returns no line is indented that was not so before. -/
theorem indented_of_withReturns (h : '\r' ∉ text) {br more : List Char} (hb : IsBreak br)
    (hc : isIndent c = true) (heq : withReturns text = br ++ c :: more) :
    ∃ more', text = '\n' :: c :: more' := by
  cases text with
  | nil => cases hb <;> cases heq
  | cons d text =>
    rw [List.mem_cons, not_or] at h
    by_cases hd : d = '\n'
    · subst hd
      rw [Text.withReturns_feed] at heq
      cases hb with
      | lf => cases heq
      | crlf =>
        obtain ⟨_, heq⟩ := List.cons.inj heq
        obtain ⟨_, heq⟩ := List.cons.inj heq
        cases text with
        | nil => cases heq
        | cons e text =>
          by_cases he : e = '\n'
          · subst he
            obtain ⟨rfl, _⟩ := List.cons.inj heq
            exact absurd hc (by decide)
          · rw [Text.withReturns_cons he] at heq
            obtain ⟨rfl, _⟩ := List.cons.inj heq
            exact ⟨text, rfl⟩
    · rw [Text.withReturns_cons hd] at heq
      cases hb with
      | lf => exact absurd (List.cons.inj heq).1 hd
      | crlf => exact absurd (List.cons.inj heq).1.symm h.1

theorem skipIndentedLines_withReturns (h : '\r' ∉ text) :
    skipIndentedLines (withReturns text) = withReturns (skipIndentedLines text) := by
  fun_induction skipIndentedLines text with
  | case1 c rest hc ih =>
    have hfeed : c ≠ '\n' := by
      rintro rfl
      exact absurd hc (by decide)
    have hr : '\r' ∉ rest.dropWhile staysOnLine := fun hin =>
      h (List.mem_cons_of_mem _ (List.mem_cons_of_mem c ((List.dropWhile_suffix _).subset hin)))
    have hskip := skipIndentedLines_break .crlf hc (withReturns rest)
    rw [Text.dropWhile_withReturns, ih hr] at hskip
    rw [Text.withReturns_feed, Text.withReturns_cons hfeed]
    exact hskip
  | case2 c rest hc =>
    refine skipIndentedLines_eq_self fun br d more hb hd heq => hc ?_
    obtain ⟨more', hsame⟩ := indented_of_withReturns h hb hd heq
    cases hsame
    exact hd
  | case3 | case4 => exact absurd List.mem_cons_self h
  | case5 text hno _ =>
    refine skipIndentedLines_eq_self fun br d more hb hd heq => ?_
    obtain ⟨more', hsame⟩ := indented_of_withReturns h hb hd heq
    exact hno d more' hsame

/-- An excerpt is skipped with its returns just as without them. -/
theorem skipExcerpt_withReturns (h : '\r' ∉ text) :
    skipExcerpt (withReturns text) = withReturns (skipExcerpt text) := by
  have hr : '\r' ∉ text.dropWhile staysOnLine := fun hin =>
    h ((List.dropWhile_suffix _).subset hin)
  rw [skipExcerpt, Text.dropWhile_withReturns, skipIndentedLines_withReturns hr, skipExcerpt]

/-! ### Where blocks begin -/

/-- The blocks of a text if nothing needs to stand before a locator. -/
def allBlocks (text : List Char) : List Located :=
  match _h : cutAtLocator? text with
  | none => []
  | some (block, after) => block :: allBlocks (skipExcerpt after)
termination_by text.length
decreasing_by
  have h1 := cutAtLocator?_length_lt _h
  have h2 := skipExcerpt_length_le after
  omega

/-- Without a locator there is no block. -/
theorem allBlocks_of_no_locator (h : cutAtLocator? text = none) : allBlocks text = [] := by
  rw [allBlocks]
  split
  · rfl
  · next heq => simp [h] at heq

/-- Up to the first locator the text is one block; the others follow its excerpt. -/
theorem allBlocks_of_locator {block : Located} (h : cutAtLocator? text = some (block, after)) :
    allBlocks text = block :: allBlocks (skipExcerpt after) := by
  rw [allBlocks]
  split
  · next heq => simp [h] at heq
  · next heq =>
    rw [h, Option.some.injEq, Prod.mk.injEq] at heq
    obtain ⟨rfl, rfl⟩ := heq
    rfl

/-- Where no locator is at the front, the first block has a finding. -/
theorem finding_ne_nil_of_cut {block : Located} (hfront : locator? text = none)
    (h : cutAtLocator? text = some (block, after)) : block.finding ≠ [] := by
  obtain ⟨locator, hlocator, htext, _⟩ := cutAtLocator?_eq_some_iff.mp h
  intro hnil
  rw [hnil, List.nil_append] at htext
  exact locator?_eq_none_iff.mp hfront ⟨locator, _, _, hlocator, htext⟩

/-- Without a locator at the front, a text has no block if it has no locator at all. -/
theorem blocks_of_cut_none (hfront : locator? text = none) (h : cutAtLocator? text = none) :
    blocks text = [] := by
  cases text with
  | nil => rw [blocks]
  | cons c text =>
    rw [cutAtLocator?_of_no_locator hfront, Option.map_eq_none_iff] at h
    exact blocks_of_no_locator h

/-- Without a locator at the front, the first block goes to the first locator. -/
theorem blocks_of_cut_some {block : Located} (hfront : locator? text = none)
    (h : cutAtLocator? text = some (block, after)) :
    blocks text = block :: blocks (skipExcerpt after) := by
  cases text with
  | nil => cases h
  | cons c text =>
    rw [cutAtLocator?_of_no_locator hfront, Option.map_eq_some_iff] at h
    obtain ⟨⟨inner, after'⟩, hinner, heq⟩ := h
    obtain ⟨rfl, rfl⟩ := Prod.mk.inj heq
    exact blocks_of_locator hinner

/-- The block of a text with returns that stands for a block of the text.  Where there is no
    finding, the return before the locator is taken for one. -/
def Located.withReturns (b : Located) : Located where
  finding := if b.finding = [] then ['\r'] else Text.withReturns b.finding
  digits := b.digits

/-- What follows a block stands at the end of the text. -/
theorem suffix_of_cut {block : Located} (h : cutAtLocator? text = some (block, after)) :
    after <:+ text := by
  obtain ⟨locator, _, htext, _⟩ := cutAtLocator?_eq_some_iff.mp h
  exact ⟨_, htext.symm⟩

/-- So does what follows an excerpt. -/
theorem skipExcerpt_suffix (text : List Char) : skipExcerpt text <:+ text := by
  obtain ⟨excerpt, htext, _⟩ := exists_excerpt text
  exact ⟨_, htext.symm⟩

/-- Without returns only a line feed begins a locator. -/
theorem exists_of_locator {read : List Char × List Char} (h : '\r' ∉ text)
    (hread : locator? text = some read) : ∃ more, text = '\n' :: more := by
  obtain ⟨locator, hlocator, rfl⟩ := locator?_eq_some_iff.mp hread
  cases hlocator with
  | intro before_break =>
    cases before_break with
    | lf => exact ⟨_, rfl⟩
    | crlf => exact absurd List.mem_cons_self h

/-- **With returns a locator is a block of its own even if it has no finding.** -/
theorem blocks_withReturns (h : '\r' ∉ text) :
    blocks (withReturns text) = (allBlocks text).map Located.withReturns := by
  induction text using allBlocks.induct with
  | case1 text hnone =>
    have hlocator := locator?_withReturns h
    have hcut := cutAtLocator?_withReturns h
    have hfront : locator? text = none :=
      locator?_eq_none_iff.mpr (cutAtLocator?_eq_none_iff.mp hnone 0)
    rw [hfront] at hlocator
    rw [hnone] at hcut
    rw [blocks_of_cut_none hlocator hcut, allBlocks_of_no_locator hnone, List.map_nil]
  | case2 text block after hhere ih =>
    have hlocator := locator?_withReturns h
    have hcut := cutAtLocator?_withReturns h
    have hafter : '\r' ∉ after := fun hin => h ((suffix_of_cut hhere).subset hin)
    have hrest : '\r' ∉ skipExcerpt after := fun hin =>
      hafter ((skipExcerpt_suffix after).subset hin)
    rw [allBlocks_of_locator hhere, List.map_cons, ← ih hrest, ← skipExcerpt_withReturns hafter]
    cases hfront : locator? text with
    | none =>
      rw [hfront] at hlocator
      rw [hhere] at hcut
      rw [blocks_of_cut_some hlocator hcut, Located.withReturns,
        if_neg (finding_ne_nil_of_cut hfront hhere)]
    | some read =>
      -- The return is passed over, and the line feed after it begins the locator.
      obtain ⟨more, rfl⟩ := exists_of_locator h hfront
      rw [cutAtLocator?_of_locator hfront, Option.some.injEq, Prod.mk.injEq] at hhere
      obtain ⟨rfl, rfl⟩ := hhere
      rw [hfront] at hlocator
      have hfeed : locator? ('\n' :: withReturns more) = some (read.1, withReturns read.2) :=
        hlocator
      rw [Text.withReturns_feed, blocks_of_locator (cutAtLocator?_of_locator hfeed)]
      rfl

/-- No locator of the text lacks a finding: none stands at the front, and none directly after the
    excerpt of another. -/
structure EachHasFinding (text : List Char) : Prop where
  /-- The text does not begin with a locator. -/
  front : ¬ BeginsLocator text
  /-- What follows an excerpt does not either. -/
  after_excerpt : ∀ before locator digits excerpt rest, IsLocator locator digits →
    IsExcerpt excerpt rest → text = before ++ locator ++ excerpt ++ rest → ¬ BeginsLocator rest

/-- Whether no locator lacks a finding, by reading at every place of the text. -/
def eachHasFinding (text : List Char) : Bool :=
  (locator? text).isNone && text.tails.all fun rest =>
    (locator? rest).all fun read => (locator? (skipExcerpt read.2)).isNone

/-- Whether each locator has a finding can be computed. -/
theorem eachHasFinding_iff : eachHasFinding text = true ↔ EachHasFinding text := by
  simp only [eachHasFinding, Bool.and_eq_true, Option.isNone_iff_eq_none, List.all_eq_true,
    List.mem_tails, Option.all_eq_true]
  constructor
  · rintro ⟨hfront, hlater⟩
    refine ⟨locator?_eq_none_iff.mp hfront, ?_⟩
    rintro before locator digits excerpt rest hlocator hexcerpt rfl
    rw [List.append_assoc, List.append_assoc] at hlater
    have hread : locator? (locator ++ (excerpt ++ rest)) = some (digits, excerpt ++ rest) :=
      locator?_eq_some_iff.mpr ⟨locator, hlocator, rfl⟩
    have hnone := hlater _ (List.suffix_append _ _) _ hread
    rw [skipExcerpt_eq hexcerpt] at hnone
    exact locator?_eq_none_iff.mp hnone
  · intro h
    refine ⟨locator?_eq_none_iff.mpr h.front, ?_⟩
    rintro rest ⟨before, rfl⟩ ⟨digits, after⟩ hread
    obtain ⟨locator, hlocator, rfl⟩ := locator?_eq_some_iff.mp hread
    obtain ⟨excerpt, hafter, hexcerpt⟩ := exists_excerpt after
    refine locator?_eq_none_iff.mpr
      (h.after_excerpt before locator digits excerpt _ hlocator hexcerpt ?_)
    rw [List.append_assoc, List.append_assoc, ← hafter]

instance (text : List Char) : Decidable (EachHasFinding text) :=
  decidable_of_iff _ eachHasFinding_iff

/-- Nothing that would be a block of its own is taken for part of a finding. -/
theorem blocks_eq_allBlocks (h : EachHasFinding text) : blocks text = allBlocks text := by
  have hfront := locator?_eq_none_iff.mpr h.front
  induction text using allBlocks.induct with
  | case1 text hnone => rw [blocks_of_cut_none hfront hnone, allBlocks_of_no_locator hnone]
  | case2 text block after hcut ih =>
    obtain ⟨locator, hlocator, htext, _⟩ := cutAtLocator?_eq_some_iff.mp hcut
    obtain ⟨excerpt, hafter, hexcerpt⟩ := exists_excerpt after
    have hparts : text = block.finding ++ locator ++ excerpt ++ skipExcerpt after := by
      rw [List.append_assoc, ← hafter, ← htext]
    have hrest : EachHasFinding (skipExcerpt after) := by
      refine ⟨h.after_excerpt _ _ _ _ _ hlocator hexcerpt hparts, ?_⟩
      intro before locator' digits excerpt' rest hlocator' hexcerpt' heq
      refine h.after_excerpt (block.finding ++ locator ++ excerpt ++ before) locator' digits
        excerpt' rest hlocator' hexcerpt' ?_
      rw [hparts, heq]
      simp only [List.append_assoc]
    rw [blocks_of_cut_some hfront hcut, allBlocks_of_locator hcut,
      ih hrest (locator?_eq_none_iff.mpr hrest.front)]

/-- A finding is part of the text. -/
theorem finding_subset_of_mem {b : Located} (h : b ∈ allBlocks text) : b.finding ⊆ text := by
  induction text using allBlocks.induct with
  | case1 text hnone =>
    rw [allBlocks_of_no_locator hnone] at h
    cases h
  | case2 text block after hcut ih =>
    rw [allBlocks_of_locator hcut, List.mem_cons] at h
    rcases h with rfl | h
    · obtain ⟨locator, _, rfl, _⟩ := cutAtLocator?_eq_some_iff.mp hcut
      intro c hc
      exact List.mem_append_left _ (List.mem_append_left _ hc)
    · intro c hc
      exact (suffix_of_cut hcut).subset ((skipExcerpt_suffix after).subset (ih h hc))

end DiagnosticBridge.Report
