import DiagnosticBridge.Shell.Text

namespace DiagnosticBridge.Shell

/-!
# Changes of permissions

A permission is a number of three bits: reading, writing and running.  The permissions of a file
are those of its owner, of its group and of the others, in nine bits.

* `permissionsAfter?` — the permissions after changes like `u=rw,go-w`.  What is copied from others
  in them, and whether a file may be run at all, is taken from the permissions before all changes.
-/

/-- All permissions. -/
def allPermissions : Nat := 511

/-- The permission to run, for all. -/
def runPermissions : Nat := 73

/-- Whose permissions letters mean, as the lowest bit of each. -/
def ownersOf (letters : Text) : Nat :=
  letters.foldl (fun owners c =>
    owners ||| (if c == 'u' then 64 else if c == 'g' then 8 else if c == 'o' then 1 else 73)) 0

/-- The permission that a letter means, among the permissions of a file. -/
def permission? (permissions : Nat) (letter : Char) : Option Nat :=
  match letter with
  | 'r' => some 4
  | 'w' => some 2
  | 'x' => some 1
  | 'X' => some (if permissions &&& runPermissions = 0 then 0 else 1)
  | 's' => some 0
  | 'u' => some (permissions / 64 % 8)
  | 'g' => some (permissions / 8 % 8)
  | 'o' => some (permissions % 8)
  | _ => none

/-- The permissions after a permission of these owners has been given, taken away or set. -/
def changedPermissions (owners : Nat) (sign : Char) (permission permissions : Nat) : Nat :=
  let mentioned := permission * owners
  if sign == '+' then permissions ||| mentioned
  else if sign == '-' then permissions &&& (allPermissions - mentioned)
  else (permissions &&& (allPermissions - 7 * owners)) ||| mentioned

/-- The permissions after signs with letters after each of them, given the sign and the permission
    that have been read. -/
def afterSigns? (before owners : Nat) (sign : Option Char) (permission permissions : Nat) :
    Text → Option Nat
  | [] => sign.map fun sign => changedPermissions owners sign permission permissions
  | c :: rest =>
    if "+-=".toList.contains c then
      let permissions := match sign with
        | some sign => changedPermissions owners sign permission permissions
        | none => permissions
      afterSigns? before owners (some c) 0 permissions rest
    else
      match sign, permission? before c with
      | some _, some more =>
        afterSigns? before owners sign (permission ||| more) permissions rest
      | _, _ => none

/-- The permissions after one of the changes between commas. -/
def afterChange? (before permissions : Nat) (change : Text) : Option Nat :=
  let letters := change.takeWhile fun c => "ugoa".toList.contains c
  afterSigns? before (if letters.isEmpty then runPermissions else ownersOf letters) none 0
    permissions (change.drop letters.length)

/-- The permissions after changes; a comma may stand after the last one. -/
def permissionsAfter? (before : Nat) (changes : Text) : Option Nat :=
  let all := changes.splitOn ','
  let all := if 1 < all.length && all.getLast? == some [] then all.dropLast else all
  all.foldlM (afterChange? before) before

end DiagnosticBridge.Shell
