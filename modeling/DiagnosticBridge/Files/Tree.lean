import DiagnosticBridge.Files.Fault
import DiagnosticBridge.Files.Path
import DiagnosticBridge.Table

namespace DiagnosticBridge.Files

/-!
# File trees

The files that a program sees, each at its place.  The root is always there.

A path is followed name by name (`Tree.walk`), and each name but the last one must stand for a
directory, also when `.` or `..` comes next.  Files and directories are made only where the
directory that is to hold them is there.
-/

/-- What stands at a place. -/
inductive Entry where
  | directory
  | file (content : List UInt8) (isExecutable : Bool)
  /-- A program of the system, known by its name. -/
  | utility (name : String)
  /-- A file that stays empty, whatever is written to it. -/
  | void
  /-- Whatever the program that looks has open under a number. -/
  | descriptor (number : Nat)
  deriving DecidableEq, Repr

/-- Whether it is a program. -/
def Entry.isRunnable : Entry → Bool
  | .file _ isExecutable => isExecutable
  | .utility _ => true
  | _ => false

/-- What stands at each place, by the path of the place. -/
structure Tree where
  /-- The entries. -/
  entries : Table Entry

namespace Tree

/-- The tree of nothing but the root. -/
def empty : Tree := ⟨.empty⟩

/-- What stands at a place. -/
def get? (t : Tree) (place : Place) : Option Entry :=
  if place.isEmpty then some .directory else t.entries.get? place.path

/-- Puts an entry at a place, whatever there was before. -/
def put (t : Tree) (place : Place) (entry : Entry) : Tree :=
  ⟨t.entries.insert place.path entry⟩

/-- Removes what stands at a place. -/
def erase (t : Tree) (place : Place) : Tree := ⟨t.entries.erase place.path⟩

/-! ### Following paths -/

/-- How many bytes a name may have. -/
def nameLimit : Nat := 255

/-- The place of a name in a directory. -/
def follow (place : Place) (name : String) : Place :=
  if name = "." then place else if name = ".." then place.dropLast else place ++ [name]

/-- Follows one name. -/
def walkOne (t : Tree) (place : Place) (name : String) : Except Fault Place :=
  match t.get? place with
  | some .directory =>
    if name.utf8ByteSize > nameLimit then .error .nameTooLong else .ok (follow place name)
  | some _ => .error .notDirectory
  | none => .error .missing

/-- Follows names one after the other. -/
def walk (t : Tree) (place : Place) (names : List String) : Except Fault Place :=
  names.foldlM t.walkOne place

/-- The place that a path names, seen from a working directory.  Nothing need be there. -/
def locate (t : Tree) (workDirectory : Place) (path : String) : Except Fault Place :=
  if path.isEmpty then .error .missing
  else t.walk (if isAbsolute path then [] else workDirectory) (steps path)

/-- What is found at a path, and its place. -/
def find (t : Tree) (workDirectory : Place) (path : String) : Except Fault (Place × Entry) :=
  (t.locate workDirectory path).bind fun place =>
    match t.get? place with
    | some entry => .ok (place, entry)
    | none => .error .missing

/-- What is found at a path, if anything is. -/
def find? (t : Tree) (workDirectory : Place) (path : String) : Option Entry :=
  ((t.find workDirectory path).toOption).map (·.2)

/-- Whether a directory is found at a path. -/
def hasDirectory (t : Tree) (workDirectory : Place) (path : String) : Bool :=
  t.find? workDirectory path == some .directory

/-- The directory in which the last name of a path is looked up, and that name.  Slashes after the
    name do not count. -/
def locateLast (t : Tree) (workDirectory : Place) (path : String) :
    Except Fault (Place × String) :=
  match names path with
  | [] => .error (if path.isEmpty then .missing else .present)
  | found =>
    let start := if isAbsolute path then [] else workDirectory
    (t.walk start (found.dropLast ++ ["."])).bind fun place =>
      let name := (found.getLast?).getD ""
      if name.utf8ByteSize > nameLimit then .error .nameTooLong else .ok (place, name)

/-! ### Directories -/

/-- Makes a directory. -/
def makeDirectory (t : Tree) (workDirectory : Place) (path : String) : Except Fault Tree :=
  (t.locateLast workDirectory path).bind fun (place, name) =>
    match t.get? (follow place name) with
    | some _ => .error .present
    | none => .ok (t.put (place ++ [name]) .directory)

/-- Makes a directory and those above it that are missing.  Also says whether the directory is
    there in the end; those that were made stay.  The fuel bounds how many are missing. -/
def makeDirectories (t : Tree) (workDirectory : Place) : Nat → String → Tree × Bool
  | 0, _ => (t, false)
  | fuel + 1, path =>
    if path.isEmpty then (t, true)
    else
      match t.makeDirectory workDirectory path with
      | .ok made => (made, true)
      | .error .missing =>
        match parent? path with
        | none => (t, false)
        | some above =>
          match t.makeDirectories workDirectory fuel above with
          | (t, false) => (t, false)
          | (t, true) =>
            match t.makeDirectory workDirectory path with
            | .ok made => (made, true)
            | .error _ => (t, t.hasDirectory workDirectory path)
      | .error _ => (t, t.hasDirectory workDirectory path)

/-- The directory at a path, made with those above it if they are missing. -/
def withDirectory (t : Tree) (workDirectory : Place) (path : String) : Tree × Bool :=
  t.makeDirectories workDirectory ((names path).length + 1) path

/-- The names of what stands in a directory, in order. -/
def list (t : Tree) (place : Place) : List String :=
  t.entries.keys.filterMap fun path =>
    let found := names path
    if found.dropLast == place && !found.isEmpty then found.getLast? else none

/-- How many entries a directory has. -/
def count (t : Tree) (place : Place) : Nat := (t.list place).length

/-- Removes what stands at a place and everything within it. -/
def eraseAll (t : Tree) (place : Place) : Tree :=
  ⟨⟨t.entries.entries.filter fun (path, _) => !place.isPrefixOf (names path)⟩⟩

/-- Moves what stands at a place, and everything within it, to another place. -/
def move (t : Tree) (source target : Place) : Tree :=
  t.entries.entries.foldl (fun made (path, entry) =>
      match source.isPrefixOf? (names path) with
      | some rest => made.put (target ++ rest) entry
      | none => made)
    (t.eraseAll source)

/-! ### Files -/

/-- The bytes that can be read at a place. -/
def read? (t : Tree) (place : Place) : Option (List UInt8) :=
  match t.get? place with
  | some (.file content _) => some content
  | some (.utility _) => some []
  | some .void => some []
  | _ => none

/-- The file at a path, made if there is none, and its place. -/
def create (t : Tree) (workDirectory : Place) (path : String) : Except Fault (Tree × Place) :=
  match t.locateLast workDirectory path with
  | .error .present => .error .isDirectory
  | .error fault => .error fault
  | .ok (directory, name) =>
    let place := follow directory name
    match t.get? place, endsWithSlash path with
    | some .directory, _ => .error .isDirectory
    | none, true => .error .isDirectory
    | some _, true => .error .notDirectory
    | none, false => .ok (t.put place (.file [] false), place)
    | some _, false => .ok (t, place)

/-- The bytes of a file after some are written at an offset.  A gap before them is filled with
    zeros. -/
def overwrite (content : List UInt8) (offset : Nat) (bytes : List UInt8) : List UInt8 :=
  content.take offset ++ List.replicate (offset - content.length) 0 ++ bytes ++
    content.drop (offset + bytes.length)

/-- Changes the bytes of a file, if there is one at the place. -/
def update (t : Tree) (place : Place) (change : List UInt8 → List UInt8) : Tree :=
  match t.get? place with
  | some (.file content isExecutable) => t.put place (.file (change content) isExecutable)
  | _ => t

/-- The places of the files. -/
def files (t : Tree) : List Place :=
  t.entries.toList.filterMap fun (path, entry) =>
    match entry with
    | .file .. => some (names path)
    | _ => none

/-! ### The files of a system -/

/-- The tree with an entry at a place and all directories on the way to it. -/
def plant (t : Tree) (place : Place) (entry : Entry) : Tree :=
  (t.withDirectory [] (Place.path place.dropLast)).1.put place entry

/-- The programs of a system, by the names that they have in its directories for programs. -/
def utilities : List String :=
  [ "[", "basename", "bash", "cat", "chmod", "cp", "cut", "dash", "dirname", "echo", "env",
    "expr", "false", "grep", "head", "ls", "mkdir", "mv", "printenv", "printf", "pwd", "rm",
    "rmdir", "sed", "seq", "sh", "sleep", "sort", "tac", "tail", "tee", "test", "touch", "tr",
    "true", "uniq", "wc", "which", "xargs" ]

/-- The directories for programs. -/
def programPlaces : List Place := [["bin"], ["usr", "bin"]]

/-- Other directories of a system. -/
def otherPlaces : List Place :=
  [["boot"], ["etc"], ["home"], ["lib"], ["media"], ["mnt"], ["opt"], ["proc"], ["root"], ["run"],
    ["sbin"], ["srv"], ["sys"], ["tmp"], ["usr", "lib"], ["usr", "local", "bin"], ["usr", "sbin"],
    ["usr", "share"], ["var", "tmp"]]

/-- The devices of a system. -/
def devices : List (Place × Entry) :=
  [ (["dev", "null"], .void), (["dev", "stdin"], .descriptor 0), (["dev", "stdout"], .descriptor 1),
    (["dev", "stderr"], .descriptor 2), (["dev", "fd", "0"], .descriptor 0),
    (["dev", "fd", "1"], .descriptor 1), (["dev", "fd", "2"], .descriptor 2) ]

/-- The files of a system on which nothing has been put yet. -/
def bare : Tree :=
  let programs := programPlaces.flatMap fun place =>
    utilities.map fun name => (place ++ [name], Entry.utility name)
  let directories := otherPlaces.map fun place => (place, Entry.directory)
  (programs ++ directories ++ devices).foldl (fun t (place, entry) => t.plant place entry) empty

end Tree

end DiagnosticBridge.Files
