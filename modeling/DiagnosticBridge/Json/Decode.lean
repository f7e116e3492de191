import DiagnosticBridge.Json.Printer
import DiagnosticBridge.Text.Quoted

namespace DiagnosticBridge.Json

/-!
# Decoding JSON values

Decoders turn a value into domain data or say why they cannot.  A record is given either as an
object, whose unknown members are ignored, or as an array of its fields in their order.  The
members of an object are decoded by the order of their keys and the first fault is reported;
fields that are missing are looked for only after that.
-/

/-- Why a value does not decode. -/
inductive DecodeError where
  /-- The value is of another type than wanted. -/
  | wrongType (found : Json) (wanted : String)
  /-- The value is of the right type but not acceptable. -/
  | wrongValue (found : Json) (wanted : String)
  /-- A field that a record needs is missing. -/
  | missingField (name : String)
  /-- An array ends before a field that a record needs. -/
  | tooShort (length : Nat) (wanted : String)
  /-- An array has more items than the record has fields. -/
  | tooLong (length : Nat)
  /-- A name is none of those that are known. -/
  | unknownName (name : String) (known : List String)
  deriving BEq

/-- How a value is called in a message. -/
def describe : Json → String
  | .null => "null"
  | .bool b => s!"boolean `{b}`"
  | .whole n => s!"integer `{String.ofList (wholeText n)}`"
  | .real x => s!"floating point `{String.ofList (realLayout.render x)}`"
  | .string s => s!"string {Text.quoteString s}"
  | .array _ => "sequence"
  | .object _ => "map"

/-- The wording of an error. -/
def DecodeError.message : DecodeError → String
  | .wrongType found wanted => s!"invalid type: {found.describe}, expected {wanted}"
  | .wrongValue found wanted => s!"invalid value: {found.describe}, expected {wanted}"
  | .missingField name => s!"missing field `{name}`"
  | .tooShort length wanted => s!"invalid length {length}, expected {wanted}"
  | .tooLong length => s!"invalid length {length}, expected fewer elements in array"
  | .unknownName name known =>
    let known := ", ".intercalate (known.map fun k => s!"`{k}`")
    s!"unknown variant `{name}`, expected one of {known}"

/-- A decoder of values into `α`. -/
abbrev Decoder (α : Type) := Json → Except DecodeError α

namespace Decoder

/-- Any value, as it is. -/
def any : Decoder Json := .ok

/-- A string. -/
def string : Decoder String
  | .string s => .ok s
  | v => .error (.wrongType v "a string")

/-- A whole number within 32 bits. -/
def word32 : Decoder Int
  | .whole n =>
    if -2147483648 ≤ n ∧ n < 2147483648 then .ok n else .error (.wrongValue (.whole n) "i32")
  | v => .error (.wrongType v "i32")

/-- Nothing but `null`. -/
def nothing : Decoder Unit
  | .null => .ok ()
  | v => .error (.wrongType v "unit")

/-- A value or `null`. -/
def nullable {α : Type} (d : Decoder α) : Decoder (Option α)
  | .null => .ok none
  | v => (d v).map some

/-- A list. -/
def list {α : Type} (d : Decoder α) : Decoder (List α)
  | .array items => items.mapM d
  | v => .error (.wrongType v "a sequence")

/-- One of the named choices: its name, or an object whose only member has that name and the
    value `null`. -/
def choice {α : Type} (choices : List (String × α)) : Decoder α
  | .string s => named s
  | .object [(key, v)] => do
    let a ← named key
    nothing v
    return a
  | .object members => .error (.wrongValue (.object members) "map with a single key")
  | v => .error (.wrongType v "string or map")
where
  named (s : String) : Except DecodeError α :=
    match choices.lookup s with
    | some a => .ok a
    | none => .error (.unknownName s (choices.map (·.1)))

end Decoder

/-! ### Records -/

/-- A field of a record that is decoded into `σ`. -/
structure Field (σ : Type) where
  /-- The key of the field. -/
  name : String
  /-- Whether the record needs it. -/
  required : Bool
  /-- Decodes the field and puts it into the record. -/
  read : Json → σ → Except DecodeError σ

/-- A field decoded by `d` and stored by `put`. -/
def Field.of {σ α : Type} (name : String) (required : Bool) (d : Decoder α) (put : α → σ → σ) :
    Field σ :=
  ⟨name, required, fun v s => (d v).map (put · s)⟩

/-- The shape of a record that is decoded into `σ`. -/
structure RecordShape (σ : Type) where
  /-- The name of the record in messages. -/
  name : String
  /-- The fields in their order. -/
  fields : List (Field σ)
  /-- The record before any field is read. -/
  initial : σ

namespace RecordShape

variable {σ : Type}

/-- What a message calls the record. -/
def wanted (shape : RecordShape σ) : String := s!"struct {shape.name}"

/-- What a message calls the record when it wants an array of a given length. -/
def wantedLength (shape : RecordShape σ) : String :=
  let n := shape.fields.length
  let noun := if n = 1 then "element" else "elements"
  s!"{shape.wanted} with {n} {noun}"

/-- Decodes the members of an object in their order; those that are no fields are ignored. -/
def readMembers (fields : List (Field σ)) (s : σ) :
    List (String × Json) → Except DecodeError σ
  | [] => .ok s
  | (key, v) :: rest => do
    let s ← match fields.find? (·.name == key) with
      | some field => field.read v s
      | none => .ok s
    readMembers fields s rest

/-- Decodes the items of an array as fields in their order; `index` counts the fields so far. -/
def readItems (shape : RecordShape σ) (length index : Nat) (s : σ) :
    List (Field σ) → List Json → Except DecodeError σ
  | [], [] => .ok s
  | [], _ :: _ => .error (.tooLong length)
  | field :: fields, [] =>
    if field.required then .error (.tooShort index shape.wantedLength)
    else readItems shape length (index + 1) s fields []
  | field :: fields, v :: rest => do
    let s ← field.read v s
    readItems shape length (index + 1) s fields rest

/-- Decodes a record. -/
def decode (shape : RecordShape σ) : Decoder σ
  | .object members => do
    let s ← readMembers shape.fields shape.initial members
    match shape.fields.find? fun f => f.required && (Table.lookup f.name members).isNone with
    | some field => .error (.missingField field.name)
    | none => .ok s
  | .array items => readItems shape items.length 0 shape.initial shape.fields items
  | v => .error (.wrongType v shape.wanted)

end RecordShape

end DiagnosticBridge.Json
