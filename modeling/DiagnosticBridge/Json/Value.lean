import DiagnosticBridge.Decimal.Binary64
import DiagnosticBridge.Table

namespace DiagnosticBridge

/-!
# JSON values

Whole numbers within 64 bits are kept exactly; every other number is a double.  An object lists
its members by the bytes of their keys and holds each key once (`Json.ofMembers`).
-/

/-- A JSON value. -/
inductive Json where
  | null
  | bool (b : Bool)
  | whole (n : Int)
  | real (x : Decimal.Binary64)
  | string (s : String)
  | array (items : List Json)
  | object (members : List (String × Json))
  deriving Repr, BEq, Inhabited

namespace Json

/-- The object with these members; of two with the same key the later one stays. -/
def ofMembers (members : List (String × Json)) : Json :=
  .object (Table.ofList members).toList

/-- The member of an object with this key. -/
def member? (key : String) : Json → Option Json
  | .object members => Table.lookup key members
  | _ => none

/-- Whether the value is `null`. -/
def isNull : Json → Bool
  | .null => true
  | _ => false

/-- Only `null` counts as such. -/
theorem isNull_iff {v : Json} : v.isNull = true ↔ v = .null := by
  cases v <;> simp [isNull]

/-- The text of a string. -/
def string? : Json → Option String
  | .string s => some s
  | _ => none

/-- A list of strings as a value. -/
def ofStrings (items : List String) : Json := .array (items.map .string)

/-- A value that may be absent; absence is `null`. -/
def ofOption {α : Type} (f : α → Json) : Option α → Json
  | some a => f a
  | none => .null

end Json

end DiagnosticBridge
