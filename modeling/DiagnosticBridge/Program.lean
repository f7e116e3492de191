import DiagnosticBridge.Check.Compilation
import DiagnosticBridge.CommandLine
import DiagnosticBridge.Server

namespace DiagnosticBridge.Program

/-!
# The program

How the program starts: it opens a log at the first path at which that is possible, and lays what
the command line says over what the configuration file says.
-/

/-- The layers below the editor's. -/
def baseLayer (env : Environment) (file : FileContent) (options : Options) : Layer :=
  let layer := ConfigFile.layerOrEmpty env file
  match options.get? .compiler with
  | some compiler => layer.overlay (.ofCompiler compiler)
  | none => layer

/-- The files after a log has been opened at the first possible path.  Directories on the way are
    made; those made for a path at which no log can be opened stay. -/
def openLog (h : Host) : List String → Files.Tree
  | [] => h.tree
  | path :: more =>
    let (tree, hasParent) := match Files.parent? path with
      | some parent => h.tree.withDirectory h.workDirectory parent
      | none => (h.tree, true)
    match (if hasParent then tree.create h.workDirectory path else .error .missing) with
    | .ok (opened, _) => opened
    | .error _ => openLog { h with tree := tree } more

/-- The server that the program starts with. -/
def server (h : Host) (options : Options) : Except SettingsError Server :=
  let file := ((Location.config? h.environment).map h.content).getD .missing
  Server.ofBase (baseLayer h.environment file options)

/-- What is said about a session that ends with an error. -/
def complaint (message : String) : String := s!"perl6-ls: {message}"

end DiagnosticBridge.Program
