import DiagnosticBridge.Shell.Permission
import DiagnosticBridge.Utility.Options

namespace DiagnosticBridge.Utility

open Shell

/-!
# Programs that work on files and directories

They make, remove, copy and move them, change whether files may be run, and list them.
-/

/-- Goes through operands; the status is `failed` if something is wrong with one of them. -/
def forOperands (operands : List Text) (failed : Nat) (body : Text → ShellM (Option Unit)) :
    ShellM Nat :=
  operands.foldlM (fun status operand => do
    match ← body operand with
    | some () => return status
    | none => return failed) 0

/-- Changes the files, or says why that cannot be done. -/
def changing (message : Text) (change : Files.Tree → Files.Place → Attempt Files.Tree) :
    ShellM (Option Unit) := do
  match ← ShellM.changeTree change with
  | .ok () => return some ()
  | .error fault =>
    sayFault message fault
    return none

/-- A message with a path in quotes. -/
def about (words : String) (path : Text) : Text := words.toList ++ ' ' :: inQuotes path

/-! ### Making and removing -/

/-- Makes directories. -/
def mkdir : ShellM Nat :=
  withOptions 1
    [⟨'p', "parents", false⟩, ⟨'v', "verbose", false⟩, ⟨'m', "mode", true⟩] false fun u => do
    if u.operands.isEmpty then return ← refuse 1 "missing operand".toList
    forOperands u.operands 1 fun path =>
      changing (about "cannot create directory" path) fun tree directory =>
        if u.has 'p' then
          match tree.withDirectory directory (stringOf path) with
          | (tree, true) => .ok tree
          | (tree, false) =>
            match tree.makeDirectory directory (stringOf path) with
            | .ok tree => .ok tree
            | .error fault => .error fault
        else tree.makeDirectory directory (stringOf path)

/-- Removes empty directories. -/
def rmdir : ShellM Nat :=
  withOptions 1 [⟨'p', "parents", false⟩, ⟨'v', "verbose", false⟩] false fun u => do
    if u.operands.isEmpty then return ← refuse 1 "missing operand".toList
    forOperands u.operands 1 fun path =>
      changing (about "failed to remove" path) fun tree directory =>
        (tree.find directory (stringOf path)).bind fun (place, entry) =>
          if entry ≠ .directory then .error .notDirectory
          else if tree.count place > 0 then .error .notEmpty
          else .ok (tree.erase place)

/-- Removes files, and directories with all within them if that is wanted. -/
def rm : ShellM Nat :=
  withOptions 1
    [⟨'f', "force", false⟩, ⟨'r', "recursive", false⟩, ⟨'R', "", false⟩, ⟨'d', "dir", false⟩,
      ⟨'i', "", false⟩, ⟨'v', "verbose", false⟩] false fun u => do
    if u.operands.isEmpty then
      if u.has 'f' then return 0
      return ← refuse 1 "missing operand".toList
    let isDeep := u.has 'r' || u.has 'R'
    forOperands u.operands 1 fun path => do
      match ← ShellM.find path with
      | .error fault =>
        if u.has 'f' && (fault = .missing || fault = .notDirectory) then return some ()
        sayFault (about "cannot remove" path) fault
        return none
      | .ok (place, entry) =>
        if entry = .directory && !isDeep then
          sayFault (about "cannot remove" path) .isDirectory
          return none
        modify fun s => { s with tree := s.tree.eraseAll place }
        return some ()

/-- Makes files that are not there. -/
def touch : ShellM Nat :=
  withOptions 1
    [⟨'a', "", false⟩, ⟨'c', "no-create", false⟩, ⟨'m', "", false⟩, ⟨'d', "date", true⟩,
      ⟨'r', "reference", true⟩, ⟨'t', "", true⟩] false fun u => do
    if u.operands.isEmpty then return ← refuse 1 "missing file operand".toList
    forOperands u.operands 1 fun path =>
      changing (about "cannot touch" path) fun tree directory =>
        match tree.find? directory (stringOf path) with
        | some _ => .ok tree
        | none =>
          if u.has 'c' then .ok tree
          else (tree.create directory (stringOf path)).map (·.1)

/-! ### Copying and moving -/

/-- The last name in a path. -/
def lastName (path : Text) : Text := ofString (((Files.names (stringOf path)).getLast?).getD "")

/-- Where a file goes that is copied or moved to a path: into the directory that is there, if one
    is. -/
def destination (source target : Text) : ShellM Text := do
  match ← ShellM.find? target with
  | some .directory =>
    return if target.getLast? == some '/' then target ++ lastName source
      else target ++ '/' :: lastName source
  | _ => return target

/-- Copies what is at a place to another one, with all within it. -/
def copyAll (tree : Files.Tree) (source target : Files.Place) : Files.Tree :=
  tree.entries.entries.foldl (fun made (path, entry) =>
    match source.isPrefixOf? (Files.names path) with
    | some rest => made.put (target ++ rest) entry
    | none => made) tree

/-- Goes through the sources of a program whose last operand is the target. -/
def forSources (operands : List Text) (body : Text → Text → ShellM (Option Unit)) : ShellM Nat := do
  match operands.reverse with
  | [] => refuse 1 "missing file operand".toList
  | [source] =>
    refuse 1 ("missing destination file operand after ".toList ++ inQuotes source)
  | target :: sources =>
    if sources.length > 1 && (← ShellM.find? target) != some .directory then
      say ("target ".toList ++ inQuotes target ++ ": ".toList ++ (match ← ShellM.find? target with
        | some _ => "Not a directory".toList
        | none => "No such file or directory".toList))
      return 1
    forOperands sources.reverse 1 fun source => do
      body source (← destination source target)

/-- Copies files, and directories if that is wanted. -/
def cp : ShellM Nat :=
  withOptions 1
    [⟨'r', "recursive", false⟩, ⟨'R', "", false⟩, ⟨'a', "archive", false⟩, ⟨'f', "force", false⟩,
      ⟨'p', "", false⟩, ⟨'v', "verbose", false⟩] false fun u => do
    forSources u.operands fun source target => do
      match ← ShellM.find source with
      | .error fault =>
        sayFault (about "cannot stat" source) fault
        return none
      | .ok (origin, entry) =>
        if entry = .directory then
          if !(u.has 'r' || u.has 'R' || u.has 'a') then
            say ("-r not specified; omitting directory ".toList ++ inQuotes source)
            return none
          changing (about "cannot create directory" target) fun tree directory =>
            (tree.locateLast directory (stringOf target)).map fun (place, name) =>
              copyAll tree origin (Files.Tree.follow place name)
        else
          let s ← get
          let content := (s.tree.read? origin).getD []
          let isExecutable := isExecutableEntry entry
          changing (about "cannot create regular file" target) fun tree directory =>
            let isNew := (tree.find? directory (stringOf target)).isNone
            (tree.create directory (stringOf target)).map fun (tree, place) =>
              if isNew then tree.put place (.file content isExecutable)
              else tree.update place fun _ => content
where
  /-- Whether an entry may be run. -/
  isExecutableEntry : Files.Entry → Bool
    | .file _ isExecutable => isExecutable
    | _ => true

/-- Moves files and directories. -/
def mv : ShellM Nat :=
  withOptions 1
    [⟨'f', "force", false⟩, ⟨'n', "no-clobber", false⟩, ⟨'v', "verbose", false⟩] false fun u => do
    forSources u.operands fun source target => do
      match ← ShellM.find source with
      | .error fault =>
        sayFault (about "cannot stat" source) fault
        return none
      | .ok (origin, _) =>
        changing ("cannot move ".toList ++ inQuotes source ++ " to ".toList ++ inQuotes target)
          fun tree directory =>
            (tree.locateLast directory (stringOf target)).map fun (place, name) =>
              let goal := Files.Tree.follow place name
              if goal == origin then tree else (tree.erase goal).move origin goal

/-! ### Permissions -/

/-- Whether files may be run under a mode, given whether they may be run now; none if it is no
    mode. -/
def runnableUnder? (mode : Text) (now : Bool) : Option Bool :=
  if !mode.isEmpty && mode.all fun c => '0' ≤ c && c ≤ '7' then
    some (mode.any fun c => (c.toNat - 48) % 2 == 1)
  else
    (permissionsAfter? (if now then 493 else 420) (mode.filter (· != 't'))).map fun permissions =>
      permissions &&& runPermissions != 0

/-- Changes whether files may be run. -/
def chmod : ShellM Nat := do
  let arguments := (← ShellM.process).arguments
  match arguments.dropWhile fun a => ["-R", "-v", "-f", "-c"].contains (String.ofList a) with
  | [] => refuse 1 "missing operand".toList
  | [mode] => refuse 1 ("missing operand after ".toList ++ inQuotes mode)
  | mode :: paths =>
    if (runnableUnder? mode false).isNone then
      return ← refuse 1 ("invalid mode: ".toList ++ inQuotes mode)
    forOperands paths 1 fun path => do
      match ← ShellM.find path with
      | .error fault =>
        sayFault (about "cannot access" path) fault
        return none
      | .ok (place, .file content isExecutable) =>
        let now := (runnableUnder? mode isExecutable).getD isExecutable
        modify fun s => { s with tree := s.tree.put place (.file content now) }
        return some ()
      | .ok _ => return some ()

/-! ### Lists -/

/-- Lists directories and files, one on a line. -/
def ls : ShellM Nat :=
  withOptions 2
    (letters "1aAcdflrRtuFhSU") false fun u => do
    let isAll := u.has 'a' || u.has 'f'
    let visible (names : List Text) : List Text :=
      let names := if isAll then [['.'], ['.', '.']] ++ names else names
      names.filter fun name => isAll || u.has 'A' || name.head? != some '.'
    let order (names : List Text) : List Text :=
      if u.has 'r' then (sortedTexts names).reverse else sortedTexts names
    let operands := if u.operands.isEmpty then [['.']] else order u.operands
    let (files, directories, status) ← operands.foldlM
      (fun ((files, directories, status) : List Text × List (Text × Files.Place) × Nat) path => do
        match ← ShellM.find path with
        | .error fault =>
          sayFault (about "cannot access" path) fault
          return (files, directories, 2)
        | .ok (place, .directory) =>
          if u.has 'd' then return (files ++ [path], directories, status)
          return (files, directories ++ [(path, place)], status)
        | .ok _ => return (files ++ [path], directories, status)) ([], [], 0)
    let tree := (← get).tree
    files.forM fun path => ShellM.print (path ++ ['\n'])
    let isTitled := u.operands.length > 1
    let _ ← directories.foldlM (fun isFirst (path, place) => do
      if isTitled then
        ShellM.print ((if isFirst then [] else ['\n']) ++ path ++ ":\n".toList)
      (order (visible ((tree.list place).map ofString))).forM fun name =>
        ShellM.print (name ++ ['\n'])
      return false) files.isEmpty
    return status

/-! ### Names -/

/-- A path without slashes at its end. -/
def withoutLastSlashes (path : Text) : Text :=
  let rest := (path.reverse.dropWhile (· == '/')).reverse
  if rest.isEmpty && !path.isEmpty then ['/'] else rest

/-- The last name of a path, as a text. -/
def baseOf (path : Text) : Text :=
  let rest := withoutLastSlashes path
  if rest == ['/'] then rest else (rest.reverse.takeWhile (· != '/')).reverse

/-- A path without its last name. -/
def directoryOf (path : Text) : Text :=
  let rest := withoutLastSlashes path
  if rest == ['/'] then rest
  else if !rest.contains '/' then ['.']
  else withoutLastSlashes (rest.reverse.dropWhile (· != '/')).reverse

/-- A text without another one at its end. -/
def withoutEnding (ending text : Text) : Text :=
  if ending.isSuffixOf text && ending.length < text.length then
    text.take (text.length - ending.length)
  else text

/-- Shows the last names of paths. -/
def basename : ShellM Nat :=
  withOptions 1
    [⟨'a', "multiple", false⟩, ⟨'s', "suffix", true⟩, ⟨'z', "zero", false⟩] true fun u => do
    let isMultiple := u.has 'a' || u.has 's'
    match u.operands with
    | [] => refuse 1 "missing operand".toList
    | path :: rest =>
      if isMultiple then
        (path :: rest).forM fun path =>
          ShellM.print (withoutEnding ((u.argument? 's').getD []) (baseOf path) ++ ['\n'])
        return 0
      match rest with
      | _ :: extra :: _ => refuse 1 ("extra operand ".toList ++ inQuotes extra)
      | rest =>
        ShellM.print (withoutEnding (rest.head?.getD []) (baseOf path) ++ ['\n'])
        return 0

/-- Shows paths without their last names. -/
def dirname : ShellM Nat :=
  withOptions 1 [⟨'z', "zero", false⟩] false fun u => do
    if u.operands.isEmpty then return ← refuse 1 "missing operand".toList
    u.operands.forM fun path => ShellM.print (directoryOf path ++ ['\n'])
    return 0

end DiagnosticBridge.Utility
