namespace DiagnosticBridge.Toml

/-!
# TOML values

The values that a TOML document can hold.  Strings, arrays and tables are taken apart; a number, a
truth value, a date or a time is kept as it was written.

A table remembers how it came about, because that decides whether later lines may still add to it.
Members are listed in the order in which they were first mentioned.
-/

/-- How a table came about. -/
inductive Origin where
  /-- It was written in braces, and is complete. -/
  | inline
  /-- A dotted key mentioned it. -/
  | dotted
  /-- The header of a table within it mentioned it. -/
  | implied
  /-- It has a header of its own. -/
  | headed
  deriving DecidableEq, Repr

/-- A value. -/
inductive Value where
  | string (text : String)
  /-- A number, a truth value, a date or a time, as it was written. -/
  | literal (written : String)
  /-- An array; it is open if headers may append tables to it. -/
  | array (isOpen : Bool) (items : List Value)
  | table (origin : Origin) (members : List (String × Value))
  deriving Repr

/-- The members of a table. -/
abbrev Members := List (String × Value)

namespace Members

/-- The value of a key. -/
def get? (members : Members) (key : String) : Option Value := members.lookup key

/-- Gives a key a value, at its place if it has one and at the end if not. -/
def put (key : String) (value : Value) : Members → Members
  | [] => [(key, value)]
  | (k, v) :: rest => if k = key then (key, value) :: rest else (k, v) :: put key value rest

/-- Adds the value of a dotted key.  A value cannot be given twice, and the key can pass only
    through tables that dotted keys made. -/
def add? : List String → Value → Members → Option Members
  | [], _, _ => none
  | [key], value, members =>
    match members.get? key with
    | none => some (members.put key value)
    | some _ => none
  | key :: path, value, members =>
    match members.get? key with
    | none => (add? path value []).map fun inner => members.put key (.table .dotted inner)
    | some (.table .dotted inner) =>
      (add? path value inner).map fun inner => members.put key (.table .dotted inner)
    | some _ => none

/-- Changes the table that a header names.  In an array of tables that is the last one. -/
def within? (change : Members → Option Members) : List String → Members → Option Members
  | [], members => change members
  | key :: path, members =>
    match members.get? key with
    | some (.table origin inner) =>
      (within? change path inner).map fun inner => members.put key (.table origin inner)
    | some (.array true items) =>
      match items.getLast? with
      | some (.table origin inner) =>
        (within? change path inner).map fun inner =>
          members.put key (.array true (items.dropLast ++ [.table origin inner]))
      | _ => none
    | _ => none

/-- Carries out a header: `opening` says what becomes of the value that the last key has so far.
    Tables on the way are implied where they are missing, and must not be complete. -/
def head? (opening : Option Value → Option Value) : List String → Members → Option Members
  | [], _ => none
  | [key], members => (opening (members.get? key)).map fun value => members.put key value
  | key :: path, members =>
    match members.get? key with
    | none => (head? opening path []).map fun inner => members.put key (.table .implied inner)
    | some (.table .inline _) => none
    | some (.table origin inner) =>
      (head? opening path inner).map fun inner => members.put key (.table origin inner)
    | some (.array true items) =>
      match items.getLast? with
      | some (.table origin inner) =>
        (head? opening path inner).map fun inner =>
          members.put key (.array true (items.dropLast ++ [.table origin inner]))
      | _ => none
    | some _ => none

/-- A header of a table: there is none yet, or it was only implied. -/
def openTable : Option Value → Option Value
  | none => some (.table .headed [])
  | some (.table .implied inner) => some (.table .headed inner)
  | some _ => none

/-- A header of one more table of an array. -/
def appendTable : Option Value → Option Value
  | none => some (.array true [.table .headed []])
  | some (.array true items) => some (.array true (items ++ [.table .headed []]))
  | some _ => none

end Members

end DiagnosticBridge.Toml
