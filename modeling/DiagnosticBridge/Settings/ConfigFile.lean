import DiagnosticBridge.Settings.Expansion
import DiagnosticBridge.Settings.Layer
import DiagnosticBridge.Text.Utf8
import DiagnosticBridge.Toml.Reader

namespace DiagnosticBridge

/-!
# The configuration file

A TOML document with two tables, both optional: `compiler` may set `path` and `libs`, `trace` may
set `server`.  Any other key is refused.  A table may be given as an array of the values of all its
keys in order.
-/

/-- What the configuration file says about the compiler. -/
structure CompilerSection where
  /-- The compiler. -/
  path : Option String
  /-- The places for libraries. -/
  libraries : Option (List String)
  deriving DecidableEq, Repr

/-- What the configuration file says about the trace. -/
structure TraceSection where
  /-- The name of the trace level. -/
  server : Option String
  deriving DecidableEq, Repr

/-- The content of a configuration file. -/
structure ConfigFile where
  /-- The table `compiler`. -/
  compiler : Option CompilerSection
  /-- The table `trace`. -/
  trace : Option TraceSection
  deriving DecidableEq, Repr

/-- Why a configuration file cannot be used. -/
inductive ConfigFault where
  /-- It cannot be read. -/
  | unreadable (reason : String)
  /-- It is not TOML or not a configuration. -/
  | malformed
  deriving DecidableEq, Repr

/-- The wording of a fault of the file at a path; what is malformed is not said. -/
def ConfigFault.message (path : String) : ConfigFault → String
  | unreadable reason => s!"failed to read config at {path}: {reason}"
  | malformed => s!"failed to parse config at {path}: "

/-- What is found at the path of a file. -/
inductive FileContent where
  | missing
  | directory
  | bytes (content : List UInt8)

namespace ConfigFile

open Toml (Value Members)

/-- The string that a value is. -/
def text? : Value → Option String
  | .string text => some text
  | _ => none

/-- The strings that a value lists. -/
def texts? : Value → Option (List String)
  | .array _ items => items.mapM text?
  | _ => none

/-- The values of a table's keys, in the order of `keys`; absent ones are none.  A table with
    another key is refused. -/
def fields? (keys : List String) : Value → Option (List (Option Value))
  | .table _ members =>
    if members.all fun (key, _) => keys.contains key then
      some (keys.map (Members.get? members))
    else none
  | .array _ items =>
    if keys.length ≤ items.length then some ((items.take keys.length).map some) else none
  | _ => none

/-- Decodes an optional value. -/
def optional? {α : Type} (decode? : Value → Option α) : Option Value → Option (Option α)
  | none => some none
  | some value => (decode? value).map some

/-- The table `compiler`. -/
def compiler? (value : Value) : Option CompilerSection :=
  match fields? ["path", "libs"] value with
  | some [path, libraries] => do
    return ⟨← optional? text? path, ← optional? texts? libraries⟩
  | _ => none

/-- The table `trace`. -/
def trace? (value : Value) : Option TraceSection :=
  match fields? ["server"] value with
  | some [server] => do return ⟨← optional? text? server⟩
  | _ => none

/-- The configuration that a document makes. -/
def ofMembers? (members : Members) : Option ConfigFile :=
  match fields? ["compiler", "trace"] (.table .headed members) with
  | some [compiler, trace] => do
    return ⟨← optional? compiler? compiler, ← optional? trace? trace⟩
  | _ => none

/-- The configuration in a text. -/
def ofText? (text : List Char) : Option ConfigFile := (Toml.read? text).bind ofMembers?

/-- The configuration in a file, if the file exists. -/
def load : FileContent → Except ConfigFault (Option ConfigFile)
  | .missing => .ok none
  | .directory => .error (.unreadable "Is a directory (os error 21)")
  | .bytes content =>
    match Utf8.decode content with
    | .error _ => .error (.unreadable "stream did not contain valid UTF-8")
    | .ok text =>
      match ofText? text with
      | some config => .ok (some config)
      | none => .error .malformed

/-- The layer that a configuration file makes.  Variables are replaced in paths. -/
def layer (env : Environment) (config : ConfigFile) : Layer where
  path := (config.compiler.bind (·.path)).map env.expand
  libraries := (config.compiler.bind (·.libraries)).map (·.map env.expand)
  trace := config.trace.bind (·.server)

/-- The layer of a configuration file that may be absent or broken, and then sets nothing. -/
def layerOrEmpty (env : Environment) (content : FileContent) : Layer :=
  match load content with
  | .ok (some config) => config.layer env
  | _ => .empty

end ConfigFile

end DiagnosticBridge
