import DiagnosticBridge.Settings.Trace

namespace DiagnosticBridge

/-!
# Compiler settings

What one check needs to know: which compiler to run, where it looks for libraries, and how much
is logged.  `CompilerSettings.ofParts` builds them and refuses a blank compiler or library.
-/

/-- The settings of one check. -/
structure CompilerSettings where
  /-- The compiler: a bare command or a path. -/
  compiler : String
  /-- The places where the compiler looks for libraries, in order. -/
  libraries : List String
  /-- How much is logged. -/
  trace : TraceLevel
  deriving DecidableEq, Repr

/-- Why parts are no compiler settings. -/
inductive SettingsError where
  | emptyCompiler
  | emptyLibrary
  deriving DecidableEq, Repr

/-- The wording of an error. -/
def SettingsError.message : SettingsError → String
  | .emptyCompiler => "compiler path must not be empty"
  | .emptyLibrary => "library path must not be empty"

namespace CompilerSettings

/-- The compiler that is run when none is set. -/
def standardCompiler : String := "perl6"

/-- The settings when nothing is set. -/
def standard : CompilerSettings := ⟨standardCompiler, [], .off⟩

/-- The settings with these parts.  The compiler is trimmed, the libraries are not; neither the
    compiler nor a library may be blank. -/
def ofParts (compiler : String) (libraries : List String) (trace : TraceLevel) :
    Except SettingsError CompilerSettings :=
  if Text.isBlankString compiler then .error .emptyCompiler
  else if libraries.any Text.isBlankString then .error .emptyLibrary
  else .ok ⟨Text.trimString compiler, libraries, trace⟩

end CompilerSettings

end DiagnosticBridge
