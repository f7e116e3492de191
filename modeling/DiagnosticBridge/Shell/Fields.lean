import DiagnosticBridge.Shell.Pattern

namespace DiagnosticBridge.Shell

/-!
# Fields

What a word stands for is a sequence of atoms, and only some stretches of it are cut into fields:
those that come from values.  A stretch may be cut at separators, or only where one argument ends
and the next one begins.
-/

/-- A piece of what a word stands for. -/
inductive Atom where
  /-- A character. -/
  | char (c : Char) (isQuoted : Bool)
  /-- Quotes; a word that has them stands for a field, if only for an empty one. -/
  | mark
  /-- The place between two arguments. -/
  | gap
  /-- Here begins a stretch that is cut into fields. -/
  | opens (onlyAtGaps : Bool)
  /-- Here it ends. -/
  | closes

/-- The atoms of a text. -/
def atomsOf (isQuoted : Bool) (text : Text) : List Atom := text.map (.char · isQuoted)

/-- The character that an atom is. -/
def Atom.glyph? : Atom → Option Glyph
  | char c isQuoted => some (c, isQuoted)
  | _ => none

/-- The characters of atoms. -/
def glyphsOf (atoms : List Atom) : List Glyph := atoms.filterMap Atom.glyph?

/-- The character that stands for the place between two arguments. -/
def gapChar : Char := '\x00'

/-- The text of atoms, with the places between arguments. -/
def gappedText (atoms : List Atom) : Text :=
  atoms.filterMap fun atom =>
    match atom with
    | .gap => some gapChar
    | atom => atom.glyph?.map (·.1)

/-- The atoms of a text with places between arguments. -/
def gappedAtoms (isQuoted : Bool) (text : Text) : List Atom :=
  text.map fun c => if c == gapChar then .gap else .char c isQuoted

/-- The text of atoms. -/
def textOf (atoms : List Atom) : Text := (glyphsOf atoms).map (·.1)

/-- The separators where none have been chosen. -/
def usualSeparators : Text := [' ', '\t', '\n']

/-- How far cutting has come. -/
structure Cutting where
  /-- The fields that are complete, the latest first. -/
  fields : List (List Glyph)
  /-- The characters of the next field, the latest first. -/
  current : List Glyph
  /-- Whether the next field has begun. -/
  hasBegun : Bool
  /-- Whether atoms belong to a stretch that is cut. -/
  isInside : Bool
  /-- Whether this stretch, or the latest one, is cut only at gaps. -/
  onlyAtGaps : Bool
  /-- Whether the stretch before it was. -/
  afterGaps : Bool
  /-- Whether the latest separator was white space. -/
  wasBlank : Bool
  /-- Whether white space may follow the latest separator. -/
  isSkipping : Bool
  /-- How many fields there may still be, if they are counted. -/
  room : Option Nat
  /-- How many characters of the last field count, if the others only separate. -/
  kept : Option Nat

namespace Cutting

/-- Nothing has been looked at; there may be so many fields. -/
def start (room : Option Nat) : Cutting :=
  ⟨[], [], false, false, false, false, false, false, room, none⟩

/-- Adds a character to the next field. -/
def push (s : Cutting) (glyph : Option Glyph) : Cutting :=
  match glyph with
  | some glyph => { s with current := glyph :: s.current, hasBegun := true }
  | none => s

/-- Completes the next field. -/
def complete (s : Cutting) : Cutting :=
  { s with fields := s.current.reverse :: s.fields, current := [], hasBegun := false }

/-- Looks at a separator. -/
def separate (s : Cutting) (isBlank : Bool) (glyph : Option Glyph) : Cutting :=
  let s := if s.afterGaps || s.onlyAtGaps then s else { s with wasBlank := isBlank }
  if !s.hasBegun && s.wasBlank then { s with wasBlank := false }
  else
    match s.room with
    | some 1 => { s with room := some 0, kept := some s.current.length }.push glyph
    | room =>
      { s.complete with
        isSkipping := !s.onlyAtGaps && !s.afterGaps, room := room.map (· - 1) }

/-- Looks at a character of the last field. -/
def close (s : Cutting) (isSeparator isBlank : Bool) (glyph : Option Glyph) : Cutting :=
  if isSeparator && isBlank then
    { s with kept := some (s.kept.getD s.current.length) }.push glyph
  else
    let kept := if isSeparator && s.wasBlank then s.kept else none
    { s with kept := kept, wasBlank := false }.push glyph

/-- Looks at something within a stretch, of which it is known whether it separates fields and
whether it is a blank. -/
def advance (s : Cutting) (isSeparator isBlank : Bool) (glyph : Option Glyph) : Cutting :=
  if s.isSkipping && isSeparator && isBlank then s
  else if s.isSkipping && isSeparator && s.wasBlank then { s with wasBlank := false }
  else
    let s := { s with isSkipping := false }
    if s.room == some 0 then s.close isSeparator isBlank glyph
    else if isSeparator then s.separate isBlank glyph
    else s.push glyph

/-- Looks at something within a stretch: a character, or a gap, which is a blank separator. -/
def inside (separators : Text) (s : Cutting) : Option Glyph → Cutting
  | none => s.advance true true none
  | some (c, isQuoted) =>
    s.advance (!s.onlyAtGaps && separators.contains c) (usualSeparators.contains c)
      (some (c, isQuoted))

/-- Looks at an atom. -/
def step (separators : Text) (s : Cutting) : Atom → Cutting
  | .opens onlyAtGaps =>
    { s with
      isInside := true, afterGaps := s.onlyAtGaps, onlyAtGaps := onlyAtGaps
      wasBlank := false, isSkipping := false }
  | .closes => { s with isInside := false, isSkipping := false }
  | .mark => { s with hasBegun := true }
  | .gap => if s.isInside then s.inside separators none else s
  | .char c isQuoted =>
    if s.isInside then s.inside separators (some (c, isQuoted)) else s.push (some (c, isQuoted))

/-- The last field without what only separates. -/
def closed (s : Cutting) : Cutting :=
  match s.kept with
  | some n =>
    let current := s.current.drop (s.current.length - n)
    { s with current := current, hasBegun := !current.isEmpty }
  | none => s

/-- The fields in the end. -/
def result (s : Cutting) : List (List Glyph) :=
  let s := s.closed
  (if s.onlyAtGaps || s.hasBegun then s.complete else s).fields.reverse

end Cutting

/-- The fields that atoms are cut into, at most so many if they are counted. -/
def fieldsOf (separators : Text) (room : Option Nat) (atoms : List Atom) : List (List Glyph) :=
  (atoms.foldl (Cutting.step separators) (.start room)).result

end DiagnosticBridge.Shell
