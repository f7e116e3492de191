import DiagnosticBridge.Files.Path
import DiagnosticBridge.Settings.Expansion
import DiagnosticBridge.Text.Space

namespace DiagnosticBridge

/-!
# Where the program keeps its files

The configuration file is where a variable says, or else in a directory of its own in the user's
home.  Logs are kept next to it; when they cannot be, they are kept in the working directory.
-/

namespace Location

/-- The variable that says where the configuration file is. -/
def locator : String := "PERL6_LS_CONFIG"

/-- The name of the program's directory. -/
def directory : String := ".perl6-ls"

/-- The path of the log within the program's directory. -/
def logName : String := "logs/perl6-ls.log"

/-- The user's home. -/
def home? (env : Environment) : Option String := (env.get? "HOME").filter (!·.isEmpty)

/-- The path of the configuration file.  A blank variable counts as absent. -/
def config? (env : Environment) : Option String :=
  match (env.get? locator).filter (!Text.isBlankString ·) with
  | some path => some path
  | none => (home? env).map fun home => Files.join (Files.join home directory) "config.toml"

/-- The paths at which a log may be kept, the best one first. -/
def logs (env : Environment) (chosen : Option String) : List String :=
  let beside := ((config? env).bind Files.parent?).map fun place => Files.join place logName
  chosen.toList ++ beside.toList ++ [Files.join directory logName]

end Location

end DiagnosticBridge
