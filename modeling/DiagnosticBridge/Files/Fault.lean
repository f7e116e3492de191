namespace DiagnosticBridge.Files

/-!
# Why files cannot be used

The reasons for which a system refuses to do something with a file, with their numbers and words.
-/

/-- A reason. -/
inductive Fault where
  /-- Nothing is there. -/
  | missing
  /-- A descriptor cannot be used in that way. -/
  | badDescriptor
  /-- What is there is no program and no file that may be run. -/
  | notPermitted
  /-- What is to be made is there already. -/
  | present
  /-- Something on the way is no directory. -/
  | notDirectory
  /-- A directory is there. -/
  | isDirectory
  /-- The directory is not empty. -/
  | notEmpty
  /-- A name on the way is too long. -/
  | nameTooLong
  /-- The file is no program. -/
  | badFormat
  /-- The interpreters of scripts go on for too long. -/
  | tooManyLevels
  /-- The arguments of a program are too long. -/
  | tooManyArguments
  deriving DecidableEq, Repr

namespace Fault

/-- The number of a reason. -/
def code : Fault → Nat
  | missing => 2
  | tooManyArguments => 7
  | badFormat => 8
  | badDescriptor => 9
  | notPermitted => 13
  | present => 17
  | notDirectory => 20
  | isDirectory => 21
  | nameTooLong => 36
  | notEmpty => 39
  | tooManyLevels => 40

/-- The words for a reason. -/
def words : Fault → String
  | missing => "No such file or directory"
  | tooManyArguments => "Argument list too long"
  | badFormat => "Exec format error"
  | badDescriptor => "Bad file descriptor"
  | notPermitted => "Permission denied"
  | present => "File exists"
  | notDirectory => "Not a directory"
  | isDirectory => "Is a directory"
  | nameTooLong => "File name too long"
  | notEmpty => "Directory not empty"
  | tooManyLevels => "Too many levels of symbolic links"

/-- The words with the number. -/
def message (f : Fault) : String := s!"{f.words} (os error {f.code})"

end Fault

end DiagnosticBridge.Files
