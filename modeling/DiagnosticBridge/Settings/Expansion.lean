import DiagnosticBridge.Table

namespace DiagnosticBridge

/-!
# Variables in settings

In the configuration file, `${NAME}` stands for the value of a variable of the environment, or for
nothing when there is no such variable or its value is no text.  Values are inserted as they are
and not looked at again; a reference that is not closed is kept as it was written.
-/

/-- The environment as a process is given it: assignments `NAME=VALUE` in bytes, which need not be
    those of any text. -/
abbrev Assignments := List (List UInt8)

namespace Assignments

/-- The value under a name.  A variable is looked for as the beginning of an assignment, so that an
    equals sign in the name looked for reaches into the value. -/
def lookUp? (assignments : Assignments) (name : List Char) : Option (List UInt8) :=
  assignments.findSome? ((Utf8.encode name ++ [61]).isPrefixOf? ·)

/-- What a reference to a variable stands for.  An empty name is never looked for. -/
def valueOf (assignments : Assignments) (name : List Char) : List Char :=
  if name.isEmpty then []
  else
    match (assignments.lookUp? name).map Utf8.decode with
    | some (.ok value) => value
    | _ => []

/-- Replaces references, inside a reference if `name` holds what has been read of its name, the
    last character first. -/
def expandFrom (assignments : Assignments) : Option (List Char) → List Char → List Char
  | none, [] => []
  | none, '$' :: '{' :: rest => expandFrom assignments (some []) rest
  | none, c :: rest => c :: expandFrom assignments none rest
  | some name, [] => '$' :: '{' :: name.reverse
  | some name, '}' :: rest =>
    assignments.valueOf name.reverse ++ expandFrom assignments none rest
  | some name, c :: rest => expandFrom assignments (some (c :: name)) rest

/-- The text with every reference replaced by the variable's value. -/
def expand (assignments : Assignments) (text : List Char) : List Char :=
  expandFrom assignments none text

end Assignments

/-- The variables of the environment, as far as they are text. -/
abbrev Environment := Table String

namespace Environment

/-- The variables as assignments. -/
def assignments (env : Environment) : Assignments :=
  env.toList.map fun (name, value) => Utf8.ofString name ++ 61 :: Utf8.ofString value

/-- The string with every reference replaced by the variable's value. -/
def expand (env : Environment) (s : String) : String :=
  String.ofList (env.assignments.expand s.toList)

end Environment

end DiagnosticBridge
