namespace DiagnosticBridge.Text

/-!
# Searching text

Taking a mark off the front of a text, and cutting a text at the first place where a mark occurs.

* `after?_eq_some_iff` — what is left after the mark completes the mark to the text;
* `eq_of_cut?` — the two pieces and the mark make up the text again;
* `cutAtChar?_eq_some_iff` — where a text is cut at a character.
-/

/-- What follows `mark`, if the text begins with it. -/
def after? : List Char → List Char → Option (List Char)
  | [], text => some text
  | _ :: _, [] => none
  | m :: mark, c :: text => if m = c then after? mark text else none

/-- The text before and after the first occurrence of `mark`, if there is one. -/
def cut? (mark : List Char) (text : List Char) : Option (List Char × List Char) :=
  match after? mark text with
  | some after => some ([], after)
  | none =>
    match text with
    | [] => none
    | c :: rest => (cut? mark rest).map fun cutting => (c :: cutting.1, cutting.2)

/-- Whether `mark` occurs in the text. -/
def occurs (mark text : List Char) : Bool := (cut? mark text).isSome

/-- The text before and after the first character equal to `c`, if there is one. -/
def cutAtChar? (c : Char) (text : List Char) : Option (List Char × List Char) := cut? [c] text

/-- What follows a mark is what stands behind it. -/
theorem after?_eq_some_iff {mark text rest : List Char} :
    after? mark text = some rest ↔ mark ++ rest = text := by
  induction mark generalizing text with
  | nil => simp [after?, eq_comm]
  | cons m mark ih =>
    cases text with
    | nil => simp [after?]
    | cons c text =>
      by_cases h : m = c
      · simp [after?, h, ih]
      · simp [after?, h]

/-- Cutting at a mark loses nothing but the mark. -/
theorem eq_of_cut? {mark text before after : List Char}
    (h : cut? mark text = some (before, after)) : text = before ++ mark ++ after := by
  induction text generalizing before with
  | nil =>
    unfold cut? at h
    split at h
    · rename_i rest hrest
      simp only [Option.some.injEq, Prod.mk.injEq] at h
      obtain ⟨rfl, rfl⟩ := h
      simpa using (after?_eq_some_iff.mp hrest).symm
    · simp at h
  | cons c text ih =>
    unfold cut? at h
    split at h
    · rename_i rest hrest
      simp only [Option.some.injEq, Prod.mk.injEq] at h
      obtain ⟨rfl, rfl⟩ := h
      simpa using (after?_eq_some_iff.mp hrest).symm
    · obtain ⟨⟨b, a⟩, hcut, heq⟩ := Option.map_eq_some_iff.mp h
      simp only [Prod.mk.injEq] at heq
      obtain ⟨rfl, rfl⟩ := heq
      simp [ih hcut]

/-! ### Cutting at a character -/

/-- A text is cut at the first of equal characters. -/
theorem cutAtChar?_eq_some_iff {c : Char} {text before after : List Char} :
    cutAtChar? c text = some (before, after) ↔ text = before ++ c :: after ∧ c ∉ before := by
  constructor
  · intro h
    refine ⟨by simpa using eq_of_cut? h, ?_⟩
    induction text generalizing before with
    | nil => simp [cutAtChar?, cut?, after?] at h
    | cons d text ih =>
      by_cases hd : c = d
      · simp only [cutAtChar?, cut?, after?, if_pos hd, Option.some.injEq, Prod.mk.injEq] at h
        obtain ⟨rfl, rfl⟩ := h
        exact List.not_mem_nil
      · simp only [cutAtChar?, cut?, after?, if_neg hd, Option.map_eq_some_iff,
          Prod.mk.injEq] at h
        obtain ⟨⟨before', after'⟩, hcut, rfl, rfl⟩ := h
        exact List.not_mem_cons_of_ne_of_not_mem hd (ih hcut)
  · rintro ⟨rfl, h⟩
    induction before with
    | nil => simp [cutAtChar?, cut?, after?]
    | cons d before ih =>
      rw [List.mem_cons, not_or] at h
      have hcut : cut? [c] (before ++ c :: after) = _ := ih h.2
      simp only [cutAtChar?, List.cons_append, cut?, after?, if_neg h.1, hcut, Option.map_some]

end DiagnosticBridge.Text
