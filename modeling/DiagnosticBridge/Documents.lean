import DiagnosticBridge.Table

namespace DiagnosticBridge

/-!
# Open documents

The documents that the editor has open, each with its version and its text.  A change that is
older than what is stored is not applied.

* `isStale_iff` — a change is stale iff it is to a version below the one that is stored.
-/

/-- An open document. -/
structure Document where
  /-- The version that the editor gave it. -/
  version : Int
  /-- The text of that version. -/
  text : String
  deriving DecidableEq, Repr

/-- The open documents by their URIs. -/
abbrev Documents := Table Document

namespace Documents

/-- The documents after one is opened, or opened again. -/
def opened (docs : Documents) (uri : String) (version : Int) (text : String) : Documents :=
  docs.insert uri ⟨version, text⟩

/-- Whether a change to this version is older than what is stored. -/
def isStale (docs : Documents) (uri : String) (version : Int) : Bool :=
  match docs.get? uri with
  | some doc => version < doc.version
  | none => false

/-- The documents after a change of one, or none if the change is stale.  A change of a document
    that is not open opens it. -/
def changed? (docs : Documents) (uri : String) (version : Int) (text : String) :
    Option Documents :=
  if docs.isStale uri version then none else some (docs.opened uri version text)

/-- The documents after one is closed. -/
def closed (docs : Documents) (uri : String) : Documents := docs.erase uri

/-- A version is stale if a later one is stored. -/
theorem isStale_iff {docs : Documents} {uri : String} {version : Int} :
    docs.isStale uri version = true ↔
      ∃ doc, docs.get? uri = some doc ∧ version < doc.version := by
  unfold isStale
  cases docs.get? uri <;> simp

end Documents

end DiagnosticBridge
