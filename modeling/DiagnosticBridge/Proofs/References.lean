import DiagnosticBridge.Proofs.Characters
import DiagnosticBridge.Settings.Expansion
import Mathlib.Data.List.Infix
import Mathlib.Logic.ExistsUnique

namespace DiagnosticBridge.Assignments

/-!
# References to variables

Any text at all is a *template*: references with plain text in front of them, plain text after the
last one, and maybe a tail in which a reference begins that is never closed.  It is one in one way
only, because plain text cannot reach into the mark that begins a reference, and so its references
are just those that are replaced.

* `eq_of_first` — there is only one first mark in a text;
* `existsUnique_template` — every text is a template, in one way;
* `expand_template` — expanding a template replaces each reference by what it stands for and leaves
  everything else;
* `standsFor_iff` — what a reference stands for;
* `expand_references` — all of this together;
* `Environment.valueOf_assignments` — a reference stands for what the environment has under the
  name.
-/

/-! ### Plain text -/

/-- What begins a reference. -/
def mark : List Char := ['$', '{']

/-- No reference begins in the text. -/
def Plain (text : List Char) : Prop := ¬ mark <:+: text

instance : DecidablePred Plain := fun text => inferInstanceAs (Decidable (¬ mark <:+: text))

section Plain

variable {text before : List Char} {c : Char}

theorem plain_nil : Plain [] := fun h => absurd (List.infix_nil.mp h) (List.cons_ne_nil _ _)

/-- The rest of plain text is plain. -/
theorem Plain.of_cons (h : Plain (c :: text)) : Plain text :=
  fun hin => h (hin.trans (List.suffix_cons c text).isInfix)

/-- Text stays plain as long as no mark comes to stand at its front. -/
theorem Plain.cons (h : Plain text) (hfront : ¬ mark <+: c :: text) : Plain (c :: text) :=
  fun hin => (List.infix_cons_iff.mp hin).elim hfront h

/-- Plain text does not reach into a mark behind it. -/
theorem Plain.concat (h : Plain text) : Plain (text ++ ['$']) := by
  intro hin
  -- A mark that is not in the text would end with the character behind it.
  rcases List.infix_concat_iff.mp hin with hend | hin
  · have hlast : ['{'] <:+ text ++ ['$'] := List.IsSuffix.trans ⟨['$'], rfl⟩ hend
    simp at hlast
  · exact h hin

/-- In text that is not plain there is a first mark. -/
theorem exists_first (h : ¬ Plain text) :
    ∃ before after, text = before ++ mark ++ after ∧ Plain before := by
  induction text with
  | nil => exact absurd plain_nil h
  | cons c text ih =>
    by_cases hfront : mark <+: c :: text
    · obtain ⟨after, hafter⟩ := hfront
      exact ⟨[], after, hafter.symm, plain_nil⟩
    · obtain ⟨before, after, rfl, hbefore⟩ := ih fun hplain => h (hplain.cons hfront)
      refine ⟨c :: before, after, rfl, hbefore.cons fun hpre => hfront (hpre.trans ?_)⟩
      exact ⟨mark ++ after, by rw [List.cons_append, List.append_assoc]⟩

/-- No mark stands before the first one. -/
theorem length_le_of_first {before' after after' : List Char} (h : Plain before)
    (heq : before ++ mark ++ after = before' ++ mark ++ after') :
    before.length ≤ before'.length := by
  refine Nat.le_of_not_lt fun hlt => ?_
  -- An earlier mark would lie in the plain text and the first character of the later mark.
  have hpre : before' ++ mark <+: before ++ ['$'] := by
    refine List.prefix_of_prefix_length_le (List.prefix_append _ after') ?_ ?_
    · rw [← heq]
      exact ⟨'{' :: after, by simp [mark]⟩
    · simp only [mark, List.length_append, List.length_cons, List.length_nil]
      omega
  exact h.concat ((List.suffix_append before' mark).isInfix.trans hpre.isInfix)

/-- **There is only one first mark.** -/
theorem eq_of_first {before' after after' : List Char} (h : Plain before) (h' : Plain before')
    (heq : before ++ mark ++ after = before' ++ mark ++ after') :
    before = before' ∧ after = after' := by
  have hlength : before.length = before'.length :=
    Nat.le_antisymm (length_le_of_first h heq) (length_le_of_first h' heq.symm)
  rw [List.append_assoc, List.append_assoc] at heq
  obtain ⟨hbefore, hmore⟩ := List.append_inj heq hlength
  exact ⟨hbefore, List.append_cancel_left hmore⟩

end Plain

/-- There is only one first occurrence of anything. -/
theorem eq_of_divided {α : Type} {d : α} {a a' b b' : List α} (h : d ∉ a) (h' : d ∉ a')
    (heq : a ++ d :: b = a' ++ d :: b') : a = a' ∧ b = b' := by
  induction a generalizing a' with
  | nil =>
    cases a' with
    | nil => exact ⟨rfl, (List.cons.inj heq).2⟩
    | cons c a' => exact absurd ((List.cons.inj heq).1 ▸ List.mem_cons_self) h'
  | cons c a ih =>
    cases a' with
    | nil => exact absurd ((List.cons.inj heq).1 ▸ List.mem_cons_self) h
    | cons c' a' =>
      rw [List.mem_cons, not_or] at h h'
      obtain ⟨hc, hmore⟩ := List.cons.inj heq
      obtain ⟨ha, hb⟩ := ih h.2 h'.2 hmore
      exact ⟨hc ▸ ha ▸ rfl, hb⟩

/-! ### Templates -/

/-- A reference, and the text in front of it. -/
structure Reference where
  /-- The text in front of the reference. -/
  before : List Char
  /-- The name it refers to. -/
  name : List Char

/-- The reference as it is written. -/
def Reference.text (r : Reference) : List Char := r.before ++ mark ++ (r.name ++ ['}'])

/-- The text with what the reference stands for in its place. -/
def Reference.fill (value : List Char → List Char) (r : Reference) : List Char :=
  r.before ++ value r.name

/-- There is no reference before this one, and it is closed where its name ends. -/
structure Reference.WellFormed (r : Reference) : Prop where
  /-- There is no reference before this one. -/
  plain : Plain r.before
  /-- The name ends at the first brace. -/
  closed : '}' ∉ r.name

/-- A text by its references. -/
structure Template where
  /-- The references, each with the text in front of it. -/
  references : List Reference
  /-- The text after the last reference. -/
  last : List Char
  /-- The text from a reference on that is not closed, if there is one. -/
  tail : List Char

/-- The template as it is written. -/
def Template.text (t : Template) : List Char :=
  t.references.flatMap Reference.text ++ (t.last ++ t.tail)

/-- The text with what the references stand for in their places. -/
def Template.fill (value : List Char → List Char) (t : Template) : List Char :=
  t.references.flatMap (Reference.fill value) ++ (t.last ++ t.tail)

/-- Nothing, or a reference that is not closed. -/
inductive IsTail : List Char → Prop where
  /-- There is nothing. -/
  | nothing : IsTail []
  /-- A reference begins and is not closed. -/
  | unclosed {name : List Char} (open_name : '}' ∉ name) : IsTail (mark ++ name)

/-- The references of the template are all there are. -/
structure Template.WellFormed (t : Template) : Prop where
  /-- The references are well formed. -/
  references : ∀ r ∈ t.references, r.WellFormed
  /-- There is no other reference after the last one. -/
  last : Plain t.last
  /-- Only one that is not closed. -/
  tail : IsTail t.tail

variable {r : Reference} {rs : List Reference} {name tail rest : List Char}

/-- The first reference is cut off as long as it is closed. -/
theorem exists_template (text : List Char) : ∃ t : Template, t.WellFormed ∧ t.text = text := by
  induction hsize : text.length using Nat.strongRecOn generalizing text with
  | ind size ih =>
  by_cases hplain : Plain text
  · exact ⟨⟨[], text, []⟩, ⟨fun _ hr => absurd hr List.not_mem_nil, hplain, .nothing⟩,
      List.append_nil text⟩
  obtain ⟨before, after, rfl, hbefore⟩ := exists_first hplain
  by_cases hclosed : '}' ∈ after
  · obtain ⟨name, rest, rfl, hname⟩ := List.eq_append_cons_of_mem hclosed
    have hshorter : rest.length < size := by
      simp only [← hsize, List.length_append, List.length_cons]
      omega
    obtain ⟨t, ht, rfl⟩ := ih rest.length hshorter rest rfl
    refine ⟨⟨⟨before, name⟩ :: t.references, t.last, t.tail⟩,
      ⟨List.forall_mem_cons.mpr ⟨⟨hbefore, hname⟩, ht.references⟩, ht.last, ht.tail⟩, ?_⟩
    simp [Template.text, Reference.text]
  · exact ⟨⟨[], before, mark ++ after⟩,
      ⟨fun _ hr => absurd hr List.not_mem_nil, hbefore, .unclosed hclosed⟩,
      (List.append_assoc before mark after).symm⟩

/-- A text that begins with a reference begins with plain text and a mark. -/
theorem text_cons (r : Reference) (rs : List Reference) (rest : List Char) :
    (r :: rs).flatMap Reference.text ++ rest =
      r.before ++ mark ++ (r.name ++ '}' :: (rs.flatMap Reference.text ++ rest)) := by
  simp [Reference.text]

/-- Behind the last reference there is none. -/
theorem ne_of_reference {last : List Char} (hlast : Plain last) (htail : IsTail tail)
    (hr : r.WellFormed) (rs : List Reference) (rest : List Char) :
    last ++ tail ≠ (r :: rs).flatMap Reference.text ++ rest := by
  intro heq
  rw [text_cons] at heq
  cases htail with
  | nothing =>
    rw [List.append_nil] at heq
    exact hlast ⟨_, _, heq.symm⟩
  | @unclosed name hopen =>
    rw [← List.append_assoc] at heq
    obtain ⟨-, rfl⟩ := eq_of_first hlast hr.plain heq
    exact hopen (List.mem_append_right _ List.mem_cons_self)

/-- What is behind the last reference is divided in one way. -/
theorem eq_of_end {last last' tail' : List Char} (hlast : Plain last) (htail : IsTail tail)
    (hlast' : Plain last') (htail' : IsTail tail') (heq : last ++ tail = last' ++ tail') :
    last = last' ∧ tail = tail' := by
  cases htail with
  | nothing =>
    cases htail' with
    | nothing => exact ⟨List.append_cancel_right heq, rfl⟩
    | unclosed =>
      rw [List.append_nil, ← List.append_assoc] at heq
      exact absurd ⟨_, _, heq.symm⟩ hlast
  | unclosed =>
    cases htail' with
    | nothing =>
      rw [List.append_nil, ← List.append_assoc] at heq
      exact absurd ⟨_, _, heq⟩ hlast'
    | unclosed =>
      rw [← List.append_assoc, ← List.append_assoc] at heq
      obtain ⟨rfl, rfl⟩ := eq_of_first hlast hlast' heq
      exact ⟨rfl, rfl⟩

/-- **A text is a template in one way.** -/
theorem Template.WellFormed.eq_of_text {t u : Template} (ht : t.WellFormed) (hu : u.WellFormed)
    (heq : t.text = u.text) : t = u := by
  obtain ⟨rs, last, tail⟩ := t
  obtain ⟨rs', last', tail'⟩ := u
  obtain ⟨hrs, hlast, htail⟩ := ht
  obtain ⟨hrs', hlast', htail'⟩ := hu
  simp only [Template.text] at heq hrs hlast htail hrs' hlast' htail'
  -- Their first references agree, or both have none; the rest is by induction.
  induction rs generalizing rs' with
  | nil =>
    cases rs' with
    | nil =>
      obtain ⟨rfl, rfl⟩ := eq_of_end hlast htail hlast' htail' heq
      rfl
    | cons r' rs' =>
      exact absurd heq (ne_of_reference hlast htail (List.forall_mem_cons.mp hrs').1 rs' _)
  | cons r rs ih =>
    cases rs' with
    | nil =>
      exact absurd heq.symm (ne_of_reference hlast' htail' (List.forall_mem_cons.mp hrs).1 rs _)
    | cons r' rs' =>
      rw [List.forall_mem_cons] at hrs hrs'
      rw [text_cons, text_cons] at heq
      obtain ⟨hbefore, hmore⟩ := eq_of_first hrs.1.plain hrs'.1.plain heq
      obtain ⟨hname, hmore⟩ := eq_of_divided hrs.1.closed hrs'.1.closed hmore
      have hr : r = r' := by
        cases r
        cases r'
        rw [Reference.mk.injEq]
        exact ⟨hbefore, hname⟩
      obtain ⟨rfl, rfl, rfl⟩ := Template.mk.inj (ih rs' hmore hrs.2 hrs'.2)
      rw [hr]

/-- **Every text is a template in one way.** -/
theorem existsUnique_template (text : List Char) :
    ∃! t : Template, t.WellFormed ∧ t.text = text := by
  obtain ⟨t, ht, htext⟩ := exists_template text
  exact ⟨t, ⟨ht, htext⟩, fun u ⟨hu, hsame⟩ => hu.eq_of_text ht (hsame.trans htext.symm)⟩

/-! ### Expanding a template -/

variable {assignments : Assignments} {before value : List Char}

/-- A character at which no mark begins stands for itself. -/
theorem expandFrom_char {c : Char} (h : ¬ mark <+: c :: rest) :
    assignments.expandFrom none (c :: rest) = c :: assignments.expandFrom none rest := by
  rw [expandFrom]
  rintro more rfl rfl
  exact h ⟨more, rfl⟩

/-- Plain text is kept, unless what follows makes its end a mark. -/
theorem expandFrom_plain (h : Plain before) (hrest : ∀ more, rest ≠ '{' :: more) :
    assignments.expandFrom none (before ++ rest) =
      before ++ assignments.expandFrom none rest := by
  induction before with
  | nil => rfl
  | cons c before ih =>
    have hfront : ¬ mark <+: c :: (before ++ rest) := by
      rintro ⟨more, hmore⟩
      obtain ⟨rfl, hbrace⟩ := List.cons.inj hmore
      cases before with
      | nil => exact hrest more hbrace.symm
      | cons d before =>
        obtain ⟨rfl, -⟩ := List.cons.inj hbrace
        exact h (List.prefix_append mark before).isInfix
    rw [List.cons_append, expandFrom_char hfront, ih h.of_cons]
    rfl

/-- The name of a reference is read up to the brace. -/
theorem expandFrom_name (h : '}' ∉ name) (read rest : List Char) :
    assignments.expandFrom (some read) (name ++ rest) =
      assignments.expandFrom (some (name.reverse ++ read)) rest := by
  induction name generalizing read with
  | nil => rfl
  | cons c name ih =>
    rw [List.mem_cons, not_or] at h
    rw [List.cons_append, expandFrom, ih h.2, List.reverse_cons, List.append_assoc]
    · rfl
    · exact Ne.symm h.1

/-- A reference that is not closed stands for itself. -/
theorem expandFrom_unclosed (h : '}' ∉ name) :
    assignments.expandFrom (some []) name = mark ++ name := by
  have hname : assignments.expandFrom (some []) (name ++ []) =
      assignments.expandFrom (some (name.reverse ++ [])) [] := expandFrom_name h [] []
  rwa [List.append_nil, List.append_nil, expandFrom, List.reverse_reverse] at hname

/-- A mark opens a reference. -/
theorem expandFrom_mark (rest : List Char) :
    assignments.expandFrom none (mark ++ rest) = assignments.expandFrom (some []) rest := by
  show assignments.expandFrom none ('$' :: '{' :: rest) = _
  rw [expandFrom]

/-- No mark begins with a brace, so plain text in front of one is kept. -/
theorem mark_append_ne (rest more : List Char) : mark ++ rest ≠ '{' :: more := by
  simp [mark]

/-- A reference is filled with the value of its name. -/
theorem expandFrom_reference (h : r.WellFormed) (rest : List Char) :
    assignments.expandFrom none (r.text ++ rest) =
      r.fill assignments.valueOf ++ assignments.expandFrom none rest := by
  have htext : r.text ++ rest = r.before ++ (mark ++ (r.name ++ '}' :: rest)) := by
    simp [Reference.text]
  rw [htext, expandFrom_plain h.plain (mark_append_ne _), expandFrom_mark, expandFrom_name h.closed,
    List.append_nil, expandFrom, List.reverse_reverse, Reference.fill, List.append_assoc]

/-- Several references are filled one after the other. -/
theorem expandFrom_references (h : ∀ r ∈ rs, r.WellFormed) (rest : List Char) :
    assignments.expandFrom none (rs.flatMap Reference.text ++ rest) =
      rs.flatMap (Reference.fill assignments.valueOf) ++ assignments.expandFrom none rest := by
  induction rs with
  | nil => rfl
  | cons r rs ih =>
    rw [List.forall_mem_cons] at h
    rw [List.flatMap_cons, List.append_assoc, expandFrom_reference h.1, ih h.2, List.flatMap_cons,
      List.append_assoc]

/-- What follows the last reference stands for itself. -/
theorem expandFrom_end {last : List Char} (hlast : Plain last) (htail : IsTail tail) :
    assignments.expandFrom none (last ++ tail) = last ++ tail := by
  cases htail with
  | nothing =>
    rw [expandFrom_plain hlast (by simp)]
    rfl
  | @unclosed name hopen =>
    rw [expandFrom_plain hlast (mark_append_ne _), expandFrom_mark, expandFrom_unclosed hopen]

/-- **Expanding a template** replaces its references and nothing else. -/
theorem expand_template {t : Template} (h : t.WellFormed) :
    assignments.expand t.text = t.fill assignments.valueOf := by
  rw [expand, Template.text, expandFrom_references h.references, expandFrom_end h.last h.tail]
  rfl

/-! ### What a reference stands for -/

/-- The assignment gives a value to the name: it is the name, an equals sign and the value. -/
def Gives (name : List Char) (assignment : List UInt8) : Prop :=
  Utf8.encode name ++ [61] <+: assignment

/-- What a reference to a name stands for. -/
inductive StandsFor (assignments : Assignments) : List Char → List Char → Prop where
  /-- An empty name stands for nothing. -/
  | unnamed : StandsFor assignments [] []
  /-- So does one that is given no value. -/
  | unset {name : List Char} (unset : ∀ a ∈ assignments, ¬ Gives name a) :
      StandsFor assignments name []
  /-- Any other name stands for the first value that is given to it. -/
  | text {name value : List Char} {earlier later : Assignments} (named : name ≠ [])
      (given : assignments = earlier ++ (Utf8.encode name ++ 61 :: Utf8.encode value) :: later)
      (first : ∀ a ∈ earlier, ¬ Gives name a) : StandsFor assignments name value
  /-- If this value is no text, it stands for nothing. -/
  | noText {name : List Char} {value : List UInt8} {earlier later : Assignments} (named : name ≠ [])
      (given : assignments = earlier ++ (Utf8.encode name ++ 61 :: value) :: later)
      (first : ∀ a ∈ earlier, ¬ Gives name a) (not_text : ∀ text, value ≠ Utf8.encode text) :
      StandsFor assignments name []

/-- An assignment gives nothing to a name that it does not begin with. -/
theorem isPrefixOf?_eq_none_iff {assignment : List UInt8} :
    (Utf8.encode name ++ [61]).isPrefixOf? assignment = none ↔ ¬ Gives name assignment := by
  rw [Option.eq_none_iff_forall_ne_some]
  constructor
  · rintro h ⟨value, hvalue⟩
    exact h value (List.isPrefixOf?_eq_some_iff_append_eq.mpr hvalue)
  · exact fun h value hvalue => h ⟨value, List.isPrefixOf?_eq_some_iff_append_eq.mp hvalue⟩

/-- A name to which no assignment gives a value has none. -/
theorem lookUp?_eq_none_iff :
    assignments.lookUp? name = none ↔ ∀ a ∈ assignments, ¬ Gives name a := by
  simp only [lookUp?, List.findSome?_eq_none_iff, isPrefixOf?_eq_none_iff]

/-- The value of a name is that of the first assignment that gives it one. -/
theorem lookUp?_eq_some_iff {bytes : List UInt8} :
    assignments.lookUp? name = some bytes ↔ ∃ earlier later,
      assignments = earlier ++ (Utf8.encode name ++ 61 :: bytes) :: later ∧
        ∀ a ∈ earlier, ¬ Gives name a := by
  simp only [lookUp?, List.findSome?_eq_some_iff, isPrefixOf?_eq_none_iff,
    List.isPrefixOf?_eq_some_iff_append_eq, List.append_assoc, List.singleton_append]
  constructor
  · rintro ⟨earlier, a, later, rfl, rfl, hfirst⟩
    exact ⟨earlier, later, rfl, hfirst⟩
  · rintro ⟨earlier, later, rfl, hfirst⟩
    exact ⟨earlier, _, later, rfl, rfl, hfirst⟩

/-- A name that is not empty stands for its value if this is text. -/
theorem valueOf_named (h : name ≠ []) :
    assignments.valueOf name =
      match (assignments.lookUp? name).map Utf8.decode with
      | some (.ok value) => value
      | _ => [] := by
  rewrite [valueOf, List.isEmpty_eq_false_iff.mpr h, if_neg Bool.false_ne_true]
  rfl

/-- **A reference is replaced by what it stands for.** -/
theorem standsFor_iff : StandsFor assignments name value ↔ value = assignments.valueOf name := by
  constructor
  · intro h
    cases h with
    | unnamed => rfl
    | unset unset =>
      rw [valueOf, lookUp?_eq_none_iff.mpr unset]
      cases name.isEmpty <;> rfl
    | text named given first =>
      rw [valueOf_named named, lookUp?_eq_some_iff.mpr ⟨_, _, given, first⟩, Option.map_some,
        Utf8.decode_encode]
    | @noText _ bytes _ _ named given first not_text =>
      rw [valueOf_named named, lookUp?_eq_some_iff.mpr ⟨_, _, given, first⟩, Option.map_some]
      cases hdecode : Utf8.decode bytes with
      | error => rfl
      | ok text => exact absurd (Utf8.decode_eq_ok_iff.mp hdecode) (not_text text)
  · rintro rfl
    by_cases named : name = []
    · subst named
      exact .unnamed
    rw [valueOf_named named]
    cases hlook : assignments.lookUp? name with
    | none => exact .unset (lookUp?_eq_none_iff.mp hlook)
    | some bytes =>
      obtain ⟨earlier, later, given, first⟩ := lookUp?_eq_some_iff.mp hlook
      rw [Option.map_some]
      cases hdecode : Utf8.decode bytes with
      | ok text =>
        rw [Utf8.decode_eq_ok_iff.mp hdecode] at given
        exact .text named given first
      | error =>
        refine .noText named given first fun text htext => ?_
        rw [htext, Utf8.decode_encode] at hdecode
        cases hdecode

/-- **Expanding references.** Every text is a template in one way; expanding it puts what the names
    of its references stand for into their places, as it is, and keeps everything else, a reference
    that is not closed and what follows it included.  So text without a reference is unchanged. -/
theorem expand_references (assignments : Assignments) :
    (∀ text, ∃! t : Template, t.WellFormed ∧ t.text = text) ∧
    (∀ t : Template, t.WellFormed → assignments.expand t.text = t.fill assignments.valueOf) ∧
    (∀ name value, StandsFor assignments name value ↔ value = assignments.valueOf name) ∧
    (∀ text, Plain text → assignments.expand text = text) ∧
    ∀ (env : Environment) (t : Template), t.WellFormed →
      env.expand (String.ofList t.text) = String.ofList (t.fill env.assignments.valueOf) := by
  refine ⟨existsUnique_template, fun t => expand_template, fun name value => standsFor_iff,
    fun text htext => ?_, fun env t ht => ?_⟩
  · have hexpand : assignments.expand (text ++ []) = text ++ [] :=
      expandFrom_end htext .nothing
    rwa [List.append_nil] at hexpand
  · rw [Environment.expand, String.toList_ofList, expand_template ht]

/-- An environment in which a value looks like a reference. -/
def nested : Assignments :=
  [Utf8.encode "ROOT=$\x7bHOME\x7d".toList, Utf8.encode "HOME=/home".toList]

/-- References with a dollar sign in front, without a name, and without an end. -/
def untidy : Template :=
  ⟨[⟨"a$".toList, "ROOT".toList⟩, ⟨[], []⟩], "é".toList, "$\x7bHOME".toList⟩

/-- The value is inserted as it is. -/
theorem expand_references_nested :
    untidy.text = "a$$\x7bROOT\x7d$\x7b\x7dé$\x7bHOME".toList ∧ untidy.WellFormed ∧
      nested.expand untidy.text = "a$$\x7bHOME\x7dé$\x7bHOME".toList := by
  have hroot : Reference.WellFormed ⟨"a$".toList, "ROOT".toList⟩ :=
    ⟨by decide +kernel, by decide +kernel⟩
  have hunnamed : Reference.WellFormed ⟨[], []⟩ := ⟨plain_nil, List.not_mem_nil⟩
  have hname : '}' ∉ "HOME".toList := by decide +kernel
  have hwell : untidy.WellFormed :=
    { references := List.forall_mem_cons.mpr ⟨hroot, List.forall_mem_singleton.mpr hunnamed⟩
      last := by decide +kernel
      tail := .unclosed hname }
  have hexpand := (expand_references nested).2.1 untidy hwell
  exact ⟨by decide +kernel, hwell, hexpand.trans (by decide +kernel)⟩

end DiagnosticBridge.Assignments

/-! ### Environments -/

namespace DiagnosticBridge.Environment

open Assignments

variable {name key : String} {value : List UInt8}

/-- A name without an equals sign has no such byte. -/
theorem equals_not_mem_encode {text : List Char} (h : '=' ∉ text) : 61 ∉ Utf8.encode text :=
  fun hmem => h ((Utf8.ascii_mem_encode_iff (c := '=') (by decide)).mp hmem)

/-- An assignment gives its value to its name only. -/
theorem isPrefixOf?_assignment (hname : '=' ∉ name.toList) (hkey : '=' ∉ key.toList) :
    (Utf8.encode name.toList ++ [61]).isPrefixOf? (Utf8.ofString key ++ 61 :: value) =
      if key = name then some value else none := by
  split
  · next heq =>
    subst heq
    exact List.isPrefixOf?_eq_some_iff_append_eq.mpr (List.append_assoc _ [61] value)
  · next hne =>
    rw [Assignments.isPrefixOf?_eq_none_iff]
    rintro ⟨more, hmore⟩
    rw [List.append_assoc] at hmore
    obtain ⟨hsame, -⟩ :=
      eq_of_divided (equals_not_mem_encode hname) (equals_not_mem_encode hkey) hmore
    exact hne (Utf8.ofString_injective hsame).symm

/-- The assignments of an environment give each name its value there. -/
theorem lookUp?_assignments {env : Environment} (henv : ∀ key ∈ env.keys, '=' ∉ key.toList)
    (hname : '=' ∉ name.toList) :
    env.assignments.lookUp? name.toList = (env.get? name).map Utf8.ofString := by
  obtain ⟨entries⟩ := env
  induction entries with
  | nil => rfl
  | cons entry entries ih =>
    obtain ⟨key, value⟩ := entry
    obtain ⟨hkey, hkeys⟩ := List.forall_mem_cons.mp henv
    have hrest := ih hkeys
    simp only [assignments, Table.toList, List.map_cons, Assignments.lookUp?, List.findSome?_cons,
      isPrefixOf?_assignment hname hkey, Table.get?, Table.lookup] at hrest ⊢
    by_cases heq : key = name
    · simp [heq]
    · simpa [heq] using hrest

/-- **The value of a variable.** In an environment whose names have no equals sign, a reference to a
    name without one stands for the value of the variable, or for nothing if there is none. -/
theorem valueOf_assignments {env : Environment} (henv : ∀ key ∈ env.keys, '=' ∉ key.toList)
    (hname : '=' ∉ name.toList) :
    env.assignments.valueOf name.toList =
      if name = "" then [] else ((env.get? name).getD "").toList := by
  split
  · next heq =>
    subst heq
    rfl
  · next hne =>
    have hnamed : name.toList ≠ [] := fun hnil => hne (String.toList_eq_nil_iff.mp hnil)
    rw [Assignments.valueOf_named hnamed, lookUp?_assignments henv hname]
    cases env.get? name with
    | none => rfl
    | some value => simp [Utf8.ofString, Utf8.decode_encode]

end DiagnosticBridge.Environment
