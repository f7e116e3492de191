import DiagnosticBridge.Text.Space

namespace DiagnosticBridge

/-!
# Trace level

How much the editor wants to be told about the checks behind its diagnostics.

* `Named` — what a name of a level looks like;
* `ofText?_eq_some_iff` — exactly such names are understood.
-/

/-- How much is logged to the editor. -/
inductive TraceLevel where
  | off
  | messages
  | verbose
  deriving DecidableEq, Repr

namespace TraceLevel

/-- The levels with their names. -/
def names : List (String × TraceLevel) :=
  [("off", .off), ("messages", .messages), ("verbose", .verbose)]

/-- The name of a level. -/
def label : TraceLevel → String
  | .off => "off"
  | .messages => "messages"
  | .verbose => "verbose"

/-- The level of a name, in any ASCII case and with white space around it. -/
def ofText? (s : String) : Option TraceLevel :=
  names.lookup (String.ofList ((Text.trim s.toList).map Char.toLower))

/-- Whether anything is logged. -/
def isEnabled (t : TraceLevel) : Bool := t != .off

/-- The name is that of the level, but for white space around it and the case of ASCII letters. -/
inductive Named (name : String) : TraceLevel → Prop where
  | off (reads : (Text.trim name.toList).map Char.toLower = "off".toList) : Named name .off
  | messages (reads : (Text.trim name.toList).map Char.toLower = "messages".toList) :
      Named name .messages
  | verbose (reads : (Text.trim name.toList).map Char.toLower = "verbose".toList) :
      Named name .verbose

/-- Every level has a name of its own. -/
theorem lookup_eq_some_iff {s : String} {t : TraceLevel} :
    names.lookup s = some t ↔ s = t.label := by
  constructor
  · intro h
    obtain ⟨before, after, heq, _⟩ := List.lookup_eq_some_iff.mp h
    have hmem : (s, t) ∈ names := heq ▸ List.mem_append_right before List.mem_cons_self
    simp only [names, List.mem_cons, List.not_mem_nil, or_false, Prod.mk.injEq] at hmem
    rcases hmem with ⟨rfl, rfl⟩ | ⟨rfl, rfl⟩ | ⟨rfl, rfl⟩ <;> rfl
  · rintro rfl
    cases t <;> decide

/-- **Names that are understood.** They are the names of the levels; any other name stands for no
    level. -/
theorem ofText?_eq_some_iff {name : String} {t : TraceLevel} :
    ofText? name = some t ↔ Named name t := by
  rw [ofText?, lookup_eq_some_iff, ← String.toList_inj, String.toList_ofList]
  constructor
  · intro reads
    cases t with
    | off => exact .off reads
    | messages => exact .messages reads
    | verbose => exact .verbose reads
  · rintro (reads | reads | reads) <;> exact reads

end TraceLevel

end DiagnosticBridge
