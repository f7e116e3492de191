namespace DiagnosticBridge.Files

/-!
# Paths

A path is a text in which slashes separate names.  A walk along a path takes one name after the
other (`steps`); the text of a path can also be taken apart without looking at any files (`parts`).
-/

/-- Whether a path begins at the root. -/
def isAbsolute (path : String) : Bool := path.toList.head? == some '/'

/-- Whether a path ends with a slash. -/
def endsWithSlash (path : String) : Bool := path.toList.getLast? == some '/'

/-- The path of `name` as seen from `base`. -/
def join (base name : String) : String :=
  if isAbsolute name || base.isEmpty then name
  else if endsWithSlash base then base ++ name
  else base ++ "/" ++ name

/-- The names in a path, without empty ones. -/
def names (path : String) : List String :=
  ((path.toList.splitOn '/').map String.ofList).filter (· != "")

/-- The names that a walk takes.  A slash at the end leads into what the path names. -/
def steps (path : String) : List String :=
  names path ++ if endsWithSlash path then ["."] else []

/-- The parts of a path: its names, of which `.` says nothing but at the front of a path that does
    not begin at the root. -/
def parts (path : String) : List String :=
  match names path with
  | [] => []
  | first :: more =>
    if first == "." && !isAbsolute path then "." :: more.filter (· != ".")
    else (first :: more).filter (· != ".")

/-- Whether a path names more than what stands in the working directory. -/
def hasSeveralParts (path : String) : Bool := isAbsolute path || (parts path).length > 1

/-- The path of the directory that holds what a path names; none for the root and for the empty
    path. -/
def parent? (path : String) : Option String :=
  let start := if isAbsolute path then "/" else ""
  match parts path with
  | [] => none
  | found => some (start ++ "/".intercalate found.dropLast)

/-- A path, from the root on, of what a path names that is seen from `base`. -/
def absolute (base path : String) : String :=
  if isAbsolute path then path else ((parts path).dropWhile (· == ".")).foldl join base

/-- A place among the files: the names on the way from the root. -/
abbrev Place := List String

/-- The path of a place. -/
def Place.path (place : Place) : String := "/" ++ "/".intercalate place

end DiagnosticBridge.Files
