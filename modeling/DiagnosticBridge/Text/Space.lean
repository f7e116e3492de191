namespace DiagnosticBridge.Text

/-!
# White space

Compiler output, settings and message headers are all trimmed by the same notion of white space:
the characters with the Unicode property `White_Space`.  This module holds that class, the test
for *blank* text, and the three ways of trimming.

* `trimStart_append_of_isBlank` — leading blank text is what `trimStart` removes;
* `isBlank_iff_trim_eq_nil` — blank text is the text of which trimming leaves nothing;
* `exists_trim`, `trim_trim` — trimming takes blank text off both ends, and all of it;
* `trim_append_cons`, `trim_append_of_isBlank` — how a text is trimmed that is made of parts.
-/

/-- A character with the Unicode property `White_Space`. -/
def isSpace (c : Char) : Bool :=
  let n := c.toNat
  (9 ≤ n && n ≤ 13) || n == 0x20 || n == 0x85 || n == 0xA0 || n == 0x1680 ||
    (0x2000 ≤ n && n ≤ 0x200A) || n == 0x2028 || n == 0x2029 || n == 0x202F ||
    n == 0x205F || n == 0x3000

/-- Text that holds nothing but white space, the empty text included. -/
def isBlank (text : List Char) : Bool := text.all isSpace

/-- The text without its leading white space. -/
def trimStart (text : List Char) : List Char := text.dropWhile isSpace

/-- The text without its trailing white space. -/
def trimEnd (text : List Char) : List Char := (text.reverse.dropWhile isSpace).reverse

/-- The text without its leading and trailing white space. -/
def trim (text : List Char) : List Char := trimEnd (trimStart text)

/-- The string without its leading and trailing white space. -/
def trimString (s : String) : String := String.ofList (trim s.toList)

/-- A string that holds nothing but white space. -/
def isBlankString (s : String) : Bool := isBlank s.toList

/-- Empty text is blank. -/
@[simp] theorem isBlank_nil : isBlank [] = true := rfl

/-- Text is blank if its characters are white space. -/
theorem isBlank_cons (c : Char) (text : List Char) :
    isBlank (c :: text) = (isSpace c && isBlank text) := rfl

/-- Blank text in two parts is blank in both. -/
theorem isBlank_append (a b : List Char) : isBlank (a ++ b) = (isBlank a && isBlank b) := by
  simp [isBlank]

/-- From its end it is as blank. -/
theorem isBlank_reverse (text : List Char) : isBlank text.reverse = isBlank text := by
  simp [isBlank]

/-- Blank text at the front is trimmed off. -/
theorem trimStart_append_of_isBlank {a : List Char} (h : isBlank a = true) (b : List Char) :
    trimStart (a ++ b) = trimStart b := by
  induction a with
  | nil => rfl
  | cons c a ih =>
    rw [isBlank_cons, Bool.and_eq_true] at h
    simpa [trimStart, List.dropWhile_cons, h.1] using ih h.2

/-- So it is at the end. -/
theorem trimEnd_append_of_isBlank (a : List Char) {b : List Char} (h : isBlank b = true) :
    trimEnd (a ++ b) = trimEnd a := by
  rw [← isBlank_reverse] at h
  rw [trimEnd, List.reverse_append, ← trimStart, trimStart_append_of_isBlank h, trimStart,
    ← trimEnd]

/-- Nothing is left of blank text only. -/
theorem trimStart_eq_nil_iff (text : List Char) : trimStart text = [] ↔ isBlank text = true := by
  induction text with
  | nil => simp [trimStart]
  | cons c text ih =>
    by_cases h : isSpace c = true
    · simpa [trimStart, isBlank_cons, h] using ih
    · simp [trimStart, isBlank_cons, h]

/-- So it is from the end. -/
theorem trimEnd_eq_nil_iff (text : List Char) : trimEnd text = [] ↔ isBlank text = true := by
  rw [trimEnd, List.reverse_eq_nil_iff, ← isBlank_reverse]
  exact trimStart_eq_nil_iff text.reverse

/-- Text that is not blank is not blank without its front, either. -/
theorem isBlank_trimStart (text : List Char) : isBlank (trimStart text) = isBlank text := by
  induction text with
  | nil => rfl
  | cons c text ih =>
    by_cases h : isSpace c = true
    · simpa [trimStart, isBlank_cons, h] using ih
    · simp [trimStart, isBlank_cons, h]

/-- Blank is what trims to nothing. -/
theorem isBlank_iff_trim_eq_nil (text : List Char) : isBlank text = true ↔ trim text = [] := by
  rw [trim, trimEnd_eq_nil_iff, isBlank_trimStart]

/-! ### What trimming leaves -/

/-- Trimmed text does not begin with white space. -/
theorem head_trimStart {text : List Char} {c : Char} (h : (trimStart text).head? = some c) :
    isSpace c = false := by
  have hstops := List.head?_dropWhile_not isSpace text
  rw [← trimStart, h] at hstops
  exact hstops

/-- It does not end with any. -/
theorem getLast_trimEnd {text : List Char} {c : Char} (h : (trimEnd text).getLast? = some c) :
    isSpace c = false := by
  rw [trimEnd, List.getLast?_reverse] at h
  exact head_trimStart h

/-- Text that does not begin with white space stays as it is. -/
theorem trimStart_eq_self {text : List Char} (h : ∀ c, text.head? = some c → isSpace c = false) :
    trimStart text = text := by
  cases text with
  | nil => rfl
  | cons c text => simp [trimStart, h c rfl]

/-- So does text that does not end with any. -/
theorem trimEnd_eq_self {text : List Char}
    (h : ∀ c, text.getLast? = some c → isSpace c = false) : trimEnd text = text := by
  have hrev : trimStart text.reverse = text.reverse := by
    refine trimStart_eq_self fun c hc => h c ?_
    rwa [List.head?_reverse] at hc
  rw [trimEnd, ← trimStart, hrev, List.reverse_reverse]

/-- What is trimmed off at the end is blank. -/
theorem exists_trimEnd (text : List Char) :
    ∃ after, isBlank after = true ∧ text = trimEnd text ++ after := by
  refine ⟨(text.reverse.takeWhile isSpace).reverse, ?_, ?_⟩
  · rw [isBlank_reverse]
    exact List.all_takeWhile
  · rw [trimEnd, ← List.reverse_append, List.takeWhile_append_dropWhile, List.reverse_reverse]

/-- No character is added at the end. -/
theorem trimEnd_subset (text : List Char) : trimEnd text ⊆ text := by
  obtain ⟨after, _, heq⟩ := exists_trimEnd text
  intro c hc
  rw [heq]
  exact List.mem_append_left after hc

/-- Nor is any at the front. -/
theorem trim_subset (text : List Char) : trim text ⊆ text :=
  List.Subset.trans (trimEnd_subset _) (List.dropWhile_suffix _).subset

/-- What stands between blank text is what trimming leaves, if no white space is at its ends. -/
theorem trim_append_append {before core after : List Char} (hbefore : isBlank before = true)
    (hafter : isBlank after = true) (hne : core ≠ [])
    (hhead : isSpace (core.head hne) = false) (hlast : isSpace (core.getLast hne) = false) :
    trim (before ++ core ++ after) = core := by
  have hstart : trimStart (core ++ after) = core ++ after := by
    refine trimStart_eq_self fun c hc => ?_
    rw [List.head?_append, List.head?_eq_some_head hne] at hc
    exact Option.some.inj hc ▸ hhead
  rw [trim, List.append_assoc, trimStart_append_of_isBlank hbefore, hstart,
    trimEnd_append_of_isBlank _ hafter]
  refine trimEnd_eq_self fun c hc => ?_
  rw [List.getLast?_eq_some_getLast hne] at hc
  exact Option.some.inj hc ▸ hlast

/-- Trimming takes blank text off both ends. -/
theorem exists_trim (text : List Char) :
    ∃ before after, isBlank before = true ∧ isBlank after = true ∧
      text = before ++ trim text ++ after := by
  obtain ⟨after, hafter, heq⟩ := exists_trimEnd (trimStart text)
  refine ⟨text.takeWhile isSpace, after, List.all_takeWhile, hafter, ?_⟩
  rw [List.append_assoc, trim, ← heq]
  exact List.takeWhile_append_dropWhile.symm

/-- Trimming makes no text blank. -/
theorem isBlank_trim (text : List Char) : isBlank (trim text) = isBlank text := by
  obtain ⟨before, after, hbefore, hafter, heq⟩ := exists_trim text
  have hsame : isBlank text = isBlank (before ++ trim text ++ after) := congrArg isBlank heq
  rw [hsame, isBlank_append, isBlank_append, hbefore, hafter, Bool.true_and, Bool.and_true]

/-- Text that is trimmed on both sides does not begin with white space. -/
theorem head_trim {text : List Char} {c : Char} (h : (trim text).head? = some c) :
    isSpace c = false := by
  obtain ⟨after, _, heq⟩ := exists_trimEnd (trimStart text)
  have hhead : (trimStart text).head? = some c := by
    have h : (trimEnd (trimStart text)).head? = some c := h
    rw [heq, List.head?_append, h]
    rfl
  exact head_trimStart hhead

/-- What trimming leaves cannot be trimmed further. -/
theorem trim_trim (text : List Char) : trim (trim text) = trim text := by
  have hstart : trimStart (trim text) = trim text := trimStart_eq_self fun c hc => head_trim hc
  rw [trim, hstart]
  exact trimEnd_eq_self fun c hc => getLast_trimEnd hc

/-! ### Trimming the parts of a text -/

/-- At its front a text is trimmed no further than to a character that is no white space. -/
theorem trimStart_append_cons {c : Char} (h : isSpace c = false) (a b : List Char) :
    trimStart (a ++ c :: b) = trimStart a ++ c :: b := by
  induction a with
  | nil => simp [trimStart, h]
  | cons d a ih =>
    by_cases hd : isSpace d = true
    · simpa [trimStart, hd] using ih
    · simp [trimStart, hd]

/-- At its end a text is trimmed no further, either. -/
theorem trimEnd_append_cons {c : Char} (h : isSpace c = false) (a b : List Char) :
    trimEnd (a ++ c :: b) = a ++ c :: trimEnd b := by
  have hreverse : (a ++ c :: b).reverse = b.reverse ++ c :: a.reverse := by simp
  rw [trimEnd, hreverse, ← trimStart, trimStart_append_cons h, List.reverse_append,
    List.reverse_cons, List.reverse_reverse, List.append_assoc, List.singleton_append, trimStart,
    ← trimEnd]

/-- Around a character that is no white space the two sides are trimmed apart. -/
theorem trim_append_cons {c : Char} (h : isSpace c = false) (a b : List Char) :
    trim (a ++ c :: b) = trimStart a ++ c :: trimEnd b := by
  rw [trim, trimStart_append_cons h, trimEnd_append_cons h]

/-- Blank text before a text is trimmed off with all else. -/
theorem trim_append_of_isBlank_left {a : List Char} (h : isBlank a = true) (b : List Char) :
    trim (a ++ b) = trim b := by
  rw [trim, trimStart_append_of_isBlank h, ← trim]

/-- Blank text after a text is trimmed off with all else. -/
theorem trim_append_of_isBlank (a : List Char) {b : List Char} (h : isBlank b = true) :
    trim (a ++ b) = trim a := by
  cases hstart : trimStart a with
  | nil =>
    have ha : isBlank a = true := (trimStart_eq_nil_iff a).mp hstart
    rw [trim_append_of_isBlank_left ha, (isBlank_iff_trim_eq_nil b).mp h,
      (isBlank_iff_trim_eq_nil a).mp ha]
  | cons c rest =>
    -- The first character that stays is the same one.
    have hc : isSpace c = false := head_trimStart (by rw [hstart]; rfl)
    have ha : a = a.takeWhile isSpace ++ c :: rest := by
      rw [← hstart]
      exact List.takeWhile_append_dropWhile.symm
    rw [ha, List.append_assoc, List.cons_append, trim_append_cons hc, trim_append_cons hc,
      trimEnd_append_of_isBlank _ h]

/-- To trim the front first makes no difference. -/
theorem trim_trimStart (text : List Char) : trim (trimStart text) = trim text := by
  have hblank : isBlank (text.takeWhile isSpace) = true := List.all_takeWhile
  have heq : text.takeWhile isSpace ++ trimStart text = text := List.takeWhile_append_dropWhile
  rw [← trim_append_of_isBlank_left hblank, heq]

/-- Neither does it to trim the end first. -/
theorem trim_trimEnd (text : List Char) : trim (trimEnd text) = trim text := by
  obtain ⟨after, hafter, heq⟩ := exists_trimEnd text
  rw [← trim_append_of_isBlank _ hafter, ← heq]

end DiagnosticBridge.Text
