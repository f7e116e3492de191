import DiagnosticBridge.Utility.Directory
import DiagnosticBridge.Utility.Editing
import DiagnosticBridge.Utility.Matching
import DiagnosticBridge.Utility.Surroundings

namespace DiagnosticBridge.Utility

open Shell

/-!
# The programs of a system

What each program of the system does, by its name, and how commands run that use them.  These
programs serve the scripts that a shell runs, and are reached through `Shell.launcher` alone.
-/

/-- Answers a question. -/
def test (needsBracket : Bool) : ShellM Nat := do
  Builtin.test needsBracket (← ShellM.process).arguments

/-- Runs a program of the system. -/
def run (ev : Evaluator) (name : String) : ShellM Nat :=
  match name with
  | "[" => test true
  | "test" => test false
  | "basename" => basename
  | "cat" => cat
  | "chmod" => chmod
  | "cp" => cp
  | "cut" => cut
  | "dirname" => dirname
  | "echo" => echo
  | "env" => env ev
  | "expr" => expr
  | "false" => return 1
  | "grep" => grep
  | "head" => head
  | "ls" => ls
  | "mkdir" => mkdir
  | "mv" => mv
  | "printenv" => printenv
  | "printf" => do Builtin.printf (← ShellM.process).arguments
  | "pwd" => pwd
  | "rm" => rm
  | "rmdir" => rmdir
  | "sed" => sed
  | "seq" => seq
  | "sleep" => sleep ev
  | "sort" => sort
  | "tac" => tac
  | "tail" => tail
  | "tee" => tee
  | "touch" => touch
  | "tr" => tr
  | "uniq" => uniq
  | "wc" => wc
  | "which" => which
  | "xargs" => xargs ev
  | _ => return 0

end DiagnosticBridge.Utility
