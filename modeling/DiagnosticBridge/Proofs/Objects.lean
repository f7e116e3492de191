import DiagnosticBridge.Json.Reader

namespace DiagnosticBridge.Json

/-!
# Objects hold each key once

A list of members may name a key twice, an object may not: which of the two would count?  No value
that is read from a text holds such an object, for of two members with the same key the reader
keeps the later one.

* `WellFormed` — every object within the value holds each key once;
* `Scan.Gives` — what holds of whatever a scan gives, if it gives anything; `gives_bind_of` passes
  it on, and a scan that refuses the text gives anything at all;
* `wellFormed_of_parse` — what is read is well formed.
-/

variable {α β : Type} {P : α → Prop} {Q : β → Prop} {x : Scan α} {f : α → Scan β} {a : α}
  {fault : SyntaxFault} {scan : Scan Json}

/-- Every object within the value holds each key once. -/
inductive WellFormed : Json → Prop where
  | null : WellFormed .null
  | bool (b : Bool) : WellFormed (.bool b)
  | whole (n : Int) : WellFormed (.whole n)
  | real (x : Decimal.Binary64) : WellFormed (.real x)
  | string (s : String) : WellFormed (.string s)
  | array {items : List Json} (each : ∀ item ∈ items, WellFormed item) : WellFormed (.array items)
  | object {members : List (String × Json)} (once : (members.map (·.1)).Nodup)
      (each : ∀ m ∈ members, WellFormed m.2) : WellFormed (.object members)

/-- Of members with the same key one is kept. -/
theorem wellFormed_ofMembers {members : List (String × Json)} (h : ∀ m ∈ members, m.2.WellFormed) :
    (ofMembers members).WellFormed :=
  .object (Table.nodup_keys (Table.sorted_ofList members)) fun m hm =>
    h m (Table.mem_of_mem_ofList hm)

/-- The members of a well-formed object are well formed. -/
theorem WellFormed.of_mem_object {members : List (String × Json)}
    (h : (Json.object members).WellFormed) {m : String × Json} (hm : m ∈ members) :
    m.2.WellFormed := by
  cases h with
  | object _ each => exact each m hm

theorem WellFormed.nodup_keys {members : List (String × Json)}
    (h : (Json.object members).WellFormed) : (members.map (·.1)).Nodup := by
  cases h with
  | object once _ => exact once

/-- So are the items of a well-formed array. -/
theorem WellFormed.of_mem_array {items : List Json} (h : (Json.array items).WellFormed) {v : Json}
    (hv : v ∈ items) : v.WellFormed := by
  cases h with
  | array each => exact each v hv

/-! ### What a scan gives -/

namespace Scan

/-- Whatever the scan gives has the property. -/
def Gives (x : Scan α) (P : α → Prop) : Prop := ∀ c a c', x.run c = .ok (a, c') → P a

theorem gives_pure (h : P a) : Gives (pure a) P := by
  intro c b c' hrun
  cases hrun
  exact h

/-- What is found first may be relied on later. -/
theorem gives_bind_of (hx : Gives x P) (h : ∀ a, P a → Gives (f a) Q) : Gives (x >>= f) Q := by
  intro c b c' hrun
  rw [StateT.run_bind] at hrun
  cases hfirst : x.run c with
  | error e =>
    rw [hfirst] at hrun
    cases hrun
  | ok found =>
    rw [hfirst] at hrun
    exact h found.1 (hx c found.1 found.2 hfirst) found.2 b c' hrun

/-- Where what is found first does not matter. -/
theorem gives_bind (h : ∀ a, Gives (f a) Q) : Gives (x >>= f) Q :=
  gives_bind_of (P := fun _ => True) (fun _ _ _ _ => trivial) fun a _ => h a

theorem gives_failHere : Gives (failHere fault) P := by
  intro c a c' hrun
  cases hrun

theorem gives_failAhead : Gives (failAhead fault) P := by
  intro c a c' hrun
  cases hrun

/-- Nothing comes after a refusal. -/
theorem gives_failHere_bind : Gives (failHere fault >>= f) Q :=
  gives_bind_of (P := fun _ => False) gives_failHere fun _ h => h.elim

/-- Nothing comes after a refusal of what is ahead, either. -/
theorem gives_failAhead_bind : Gives (failAhead fault >>= f) Q :=
  gives_bind_of (P := fun _ => False) gives_failAhead fun _ h => h.elim

end Scan

open Scan

/-! ### Numbers -/

/-- A number with a fraction or an exponent is well formed, for it holds no object. -/
theorem gives_realNumber (negative : Bool) (significand : Nat) (exponent : Int) :
    Gives (realNumber negative significand exponent) WellFormed := by
  unfold realNumber
  split
  · exact gives_pure (.real _)
  · exact gives_failHere

/-- So is a whole number. -/
theorem gives_wholeNumber (negative : Bool) (magnitude : Decimal.Significand) :
    Gives (wholeNumber negative magnitude) WellFormed := by
  unfold wholeNumber
  dsimp only
  split
  · exact gives_realNumber _ _ _
  · exact gives_pure (.whole _)

/-- So is a number from its exponent on. -/
theorem gives_exponentPart (negative : Bool) (significand : Nat) (scale : Int) :
    Gives (exponentPart negative significand scale) WellFormed := by
  unfold exponentPart
  refine gives_bind fun sign => ?_
  -- What comes after the sign stands in three branches; it is named and treated once.
  extract_lets -lift zero afterTooGreat afterSign
  have hsign : ∀ minus, Gives (afterSign minus) WellFormed := by
    intro minus
    refine gives_bind fun _ => ?_
    split
    · exact gives_failHere
    · extract_lets -lift afterCheck
      have hcheck : Gives (afterCheck ()) WellFormed := by
        refine gives_bind fun _ => gives_bind fun _ => ?_
        split
        · exact gives_realNumber _ _ _
        · split
          · exact gives_bind fun _ => gives_failHere_bind
          · exact gives_pure (.real _)
      split
      · exact gives_bind fun _ => gives_failHere_bind
      · exact hcheck
  split
  · exact gives_bind fun _ => gives_bind hsign
  · exact gives_bind fun _ => gives_bind hsign
  · exact gives_bind hsign

/-- So is a number from its first digit on. -/
theorem gives_number (negative : Bool) : Gives (number negative) WellFormed := by
  unfold number
  refine gives_bind fun next => ?_
  split
  · exact gives_failHere
  · extract_lets afterDigits afterZero afterCheck
    have hdigits : ∀ digits, Gives (afterDigits digits) WellFormed := by
      intro digits
      refine gives_bind fun _ => ?_
      split
      · refine gives_bind fun _ => gives_bind fun fraction => ?_
        dsimp only
        split
        · exact gives_bind fun _ => gives_failAhead_bind
        · refine gives_bind fun _ => ?_
          split
          · exact gives_bind fun _ => gives_exponentPart _ _ _
          · exact gives_bind fun _ => gives_exponentPart _ _ _
          · exact gives_realNumber _ _ _
      · exact gives_bind fun _ => gives_exponentPart _ _ _
      · exact gives_bind fun _ => gives_exponentPart _ _ _
      · exact gives_wholeNumber _ _
    have hcheck : Gives (afterCheck ()) WellFormed := by
      dsimp only [afterCheck]
      split
      · refine gives_bind fun _ => gives_bind fun _ => ?_
        split
        · exact gives_failAhead_bind
        · exact gives_bind hdigits
      · exact gives_bind hdigits
    split
    · exact gives_bind fun _ => gives_failHere_bind
    · exact hcheck

/-! ### Arrays and objects -/

/-- The items are well formed if `scan` gives such values. -/
theorem gives_arrayItems (h : Gives scan WellFormed) (isFirst : Bool) (fuel : Nat) :
    Gives (arrayItems scan isFirst fuel) fun items => ∀ v ∈ items, v.WellFormed := by
  induction fuel generalizing isFirst with
  | zero => exact gives_failHere
  | succ fuel ih =>
    have hitem : Gives (do
        let first ← scan
        let others ← arrayItems scan false fuel
        return first :: others) fun items => ∀ v ∈ items, v.WellFormed := by
      refine gives_bind_of h fun first hfirst => gives_bind_of (ih false) fun others hothers => ?_
      exact gives_pure (List.forall_mem_cons.mpr ⟨hfirst, hothers⟩)
    unfold arrayItems
    refine gives_bind fun b => ?_
    dsimp only
    split
    · exact gives_bind fun _ => gives_pure fun v hv => absurd hv List.not_mem_nil
    · split
      · split
        · exact gives_failAhead_bind
        · refine gives_bind fun _ => gives_bind fun _ => ?_
          split
          · exact gives_failAhead_bind
          · exact hitem
      · exact hitem

/-- The value of a member is one that `scan` gives. -/
theorem gives_member (h : Gives scan WellFormed) (size : Nat) :
    Gives (member size scan) fun m => m.2.WellFormed := by
  unfold member
  refine gives_bind fun key => gives_bind fun _ => ?_
  dsimp only
  split
  · exact gives_failAhead_bind
  · exact gives_bind fun _ => gives_bind_of h fun v hv => gives_pure hv

/-- And so are the values of the members. -/
theorem gives_objectMembers (h : Gives scan WellFormed) (size : Nat) (isFirst : Bool)
    (fuel : Nat) :
    Gives (objectMembers size scan isFirst fuel) fun members =>
      ∀ m ∈ members, m.2.WellFormed := by
  induction fuel generalizing isFirst with
  | zero => exact gives_failHere
  | succ fuel ih =>
    unfold objectMembers
    refine gives_bind fun b => ?_
    -- A member is read after the brace or after a comma; what is common to both is treated first.
    extract_lets afterQuote afterComma afterCheck
    have hquote : Gives (afterQuote ()) fun members => ∀ m ∈ members, m.2.WellFormed := by
      refine gives_bind fun _ => gives_bind_of (gives_member h size) fun first hfirst => ?_
      refine gives_bind_of (ih false) fun others hothers => ?_
      exact gives_pure (List.forall_mem_cons.mpr ⟨hfirst, hothers⟩)
    have hcomma : ∀ b, Gives (afterComma b) fun members => ∀ m ∈ members, m.2.WellFormed := by
      intro b
      dsimp only [afterComma]
      split
      · exact gives_failAhead_bind
      · exact hquote
    split
    · exact gives_bind fun _ => gives_pure fun m hm => absurd hm List.not_mem_nil
    · split
      · exact gives_bind hcomma
      · split
        · exact gives_failAhead_bind
        · refine gives_bind fun _ => gives_bind fun _ => ?_
          dsimp only
          split
          · exact gives_failAhead_bind
          · exact gives_bind hcomma

/-! ### Values -/

/-- A value is well formed if those within it are. -/
theorem gives_valueWith {nested : Option (Scan Json)} (h : ∀ scan ∈ nested, Gives scan WellFormed)
    (size : Nat) : Gives (valueWith size nested) WellFormed := by
  unfold valueWith
  refine gives_bind fun b => ?_
  split
  · exact gives_bind fun _ => gives_bind fun _ => gives_pure .null
  · exact gives_bind fun _ => gives_bind fun _ => gives_pure (.bool true)
  · exact gives_bind fun _ => gives_bind fun _ => gives_pure (.bool false)
  · exact gives_bind fun _ => gives_number true
  · exact gives_bind fun _ => gives_bind fun s => gives_pure (.string s)
  · split
    · exact gives_failAhead
    · refine gives_bind fun _ =>
        gives_bind_of (gives_arrayItems (h _ rfl) true _) fun items hitems => ?_
      exact gives_pure (.array hitems)
  · split
    · exact gives_failAhead
    · refine gives_bind fun _ =>
        gives_bind_of (gives_objectMembers (h _ rfl) size true _) fun members hmembers => ?_
      exact gives_pure (wellFormed_ofMembers hmembers)
  · split
    · exact gives_number false
    · exact gives_failAhead

/-- By induction on how many containers may still be opened. -/
theorem gives_value (size depth : Nat) : Gives (value size depth) WellFormed := by
  induction depth with
  | zero => exact gives_valueWith (fun scan hscan => absurd hscan (Option.not_mem_none scan)) size
  | succ depth ih =>
    -- Within a container one container less may be opened.
    refine gives_valueWith (fun scan hscan => ?_) size
    obtain rfl := Option.some.inj hscan
    exact ih

/-- **What is read is well formed.** -/
theorem wellFormed_of_parse {bytes : List UInt8} {v : Json} (h : parse bytes = .ok v) :
    v.WellFormed := by
  have hdocument : Gives (document bytes.length) WellFormed := by
    unfold document
    refine gives_bind_of (gives_value _ _) fun v hv => gives_bind fun _ => gives_bind fun _ => ?_
    dsimp only
    split
    · exact gives_failAhead_bind
    · exact gives_pure hv
  unfold parse at h
  cases hrun : (document bytes.length).run ⟨bytes, 1, 0⟩ with
  | error e =>
    rw [hrun] at h
    cases h
  | ok found =>
    rw [hrun] at h
    cases h
    exact hdocument _ _ _ hrun

end DiagnosticBridge.Json
