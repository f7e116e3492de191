import DiagnosticBridge.Settings.Compiler

namespace DiagnosticBridge

/-!
# Layers of settings

Settings come from several places: built-in defaults, the configuration file, the command line and
the editor.  Each of them is a layer that sets some things and leaves the others to the layer
below.  Layers are put on top of each other by `overlay`; `resolve` makes settings of the result.

* `present_eq_some_iff` — what counts as set;
* `overlay_assoc` — the grouping of layers does not matter.
-/

/-- One layer of settings; what is absent is left to the layer below. -/
structure Layer where
  /-- The compiler. -/
  path : Option String
  /-- The places for libraries. -/
  libraries : Option (List String)
  /-- The name of the trace level. -/
  trace : Option String
  deriving DecidableEq, Repr

namespace Layer

/-- The layer that sets nothing. -/
def empty : Layer := ⟨none, none, none⟩

instance : Inhabited Layer := ⟨empty⟩

/-- The layer that only sets the compiler. -/
def ofCompiler (path : String) : Layer := { empty with path := some path }

/-- The string, unless it is blank. -/
def present (s : Option String) : Option String := s.filter (!Text.isBlankString ·)

/-- The layer `higher` on top of the layer `lower`.  A blank compiler or trace level does not
    cover what is below; a list of libraries does, even an empty one. -/
def overlay (lower higher : Layer) : Layer where
  path := (present higher.path).or lower.path
  libraries := higher.libraries.or lower.libraries
  trace := (present higher.trace).or lower.trace

/-- The settings of a layer on top of the defaults.  Blank libraries are dropped, and an unknown
    trace level means that nothing is logged. -/
def resolve (l : Layer) : Except SettingsError CompilerSettings :=
  CompilerSettings.ofParts ((present l.path).getD CompilerSettings.standardCompiler)
    ((l.libraries.getD []).filter (!Text.isBlankString ·))
    ((l.trace.bind TraceLevel.ofText?).getD .off)

/-- A blank string means the same as none. -/
theorem present_eq_some_iff {s : Option String} {name : String} :
    present s = some name ↔ s = some name ∧ Text.isBlankString name = false := by
  rw [present, Option.filter_eq_some_iff, Bool.not_eq_true']

/-- A blank string on top leaves what is below. -/
theorem present_or (a b : Option String) :
    present ((present a).or b) = (present a).or (present b) := by
  cases a with
  | none => rfl
  | some s => cases h : Text.isBlankString s <;> simp [present, Option.filter, h]

/-- Layers may be put on top of each other from either end. -/
theorem overlay_assoc (a b c : Layer) :
    (a.overlay b).overlay c = a.overlay (b.overlay c) := by
  simp [overlay, present_or, Option.or_assoc]

end Layer

end DiagnosticBridge
