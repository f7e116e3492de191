import DiagnosticBridge.Shell.State

namespace DiagnosticBridge.Shell

/-!
# Patterns

In a pattern, `*` stands for any text, `?` for any character, and brackets for one of a set of
characters.  A character that is quoted stands for itself.
-/

/-- A character and whether it is quoted. -/
abbrev Glyph := Char × Bool

/-- A member of a set of characters. -/
inductive Member where
  /-- The characters from one to another. -/
  | range (first last : Char)
  /-- The characters of a class. -/
  | kind (name : Text)

/-- A part of a pattern. -/
inductive PatternItem where
  | literal (c : Char)
  | any
  | many
  /-- A character that is in a set, or one that is not. -/
  | oneOf (isNegated : Bool) (members : List Member)

/-- Whether a character belongs to a class. -/
def isOfKind (name : Text) (c : Char) : Bool :=
  match String.ofList name with
  | "alpha" => c.isAlpha
  | "digit" => c.isDigit
  | "alnum" => c.isAlphanum
  | "upper" => c.isUpper
  | "lower" => c.isLower
  | "space" => isSpace c
  | "blank" => isBlank c
  | "punct" => '!' ≤ c && c ≤ '~' && !c.isAlphanum
  | "print" => ' ' ≤ c && c ≤ '~'
  | "graph" => '!' ≤ c && c ≤ '~'
  | "cntrl" => c < ' ' || c == '\x7f'
  | "xdigit" => c.isDigit || "abcdefABCDEF".toList.contains c
  | _ => false

/-- The names of classes. -/
def kindNames : List Text :=
  ["alpha", "digit", "alnum", "upper", "lower", "space", "blank", "punct", "print", "graph",
    "cntrl", "xdigit"].map String.toList

/-- Whether a member of a set covers a character. -/
def Member.covers (c : Char) : Member → Bool
  | range first last => first ≤ c && c ≤ last
  | kind name => isOfKind name c

/-- Whether a part of a pattern that stands for one character stands for this one. -/
def PatternItem.admits (c : Char) : PatternItem → Bool
  | literal d => c == d
  | any => true
  | many => false
  | oneOf isNegated members => members.any (·.covers c) != isNegated

/-- The next character of a set with a backslash before it taken off, and what follows. -/
def plainGlyph? : List Glyph → Option (Char × List Glyph)
  | ('\\', false) :: (c, _) :: rest => some (c, rest)
  | (c, _) :: rest => some (c, rest)
  | [] => none

/-- The name of a class in brackets of its own, and what follows. -/
def kindAt? (glyphs : List Glyph) : Option (Text × List Glyph) :=
  match glyphs with
  | ('[', false) :: (':', false) :: rest =>
    let name := (rest.map (·.1)).takeWhile Char.isAlpha
    match rest.drop name.length with
    | (':', false) :: (']', false) :: after =>
      if kindNames.contains name then some (name, after) else none
    | _ => none
  | _ => none

/-- The members of a set up to the bracket that ends it, and what follows; none if no bracket
    does.  A bracket that comes first is a member.  The fuel bounds their number. -/
def membersAt? (isFirst : Bool) (glyphs : List Glyph) : Nat → Option (List Member × List Glyph)
  | 0 => none
  | fuel + 1 =>
    match glyphs with
    | [] => none
    | (']', false) :: rest =>
      if isFirst then (membersAt? false rest fuel).map fun (more, after) =>
        (.range ']' ']' :: more, after)
      else some ([], rest)
    | glyphs =>
      match kindAt? glyphs with
      | some (name, rest) =>
        (membersAt? false rest fuel).map fun (more, after) => (.kind name :: more, after)
      | none =>
        match plainGlyph? glyphs with
        | none => none
        | some (first, rest) =>
          match rest with
          | ('-', false) :: last =>
            match last with
            | (']', false) :: _ =>
              (membersAt? false rest fuel).map fun (more, after) =>
                (.range first first :: more, after)
            | last =>
              match plainGlyph? last with
              | none => none
              | some (last, rest) =>
                (membersAt? false rest fuel).map fun (more, after) =>
                  (.range first last :: more, after)
          | rest =>
            (membersAt? false rest fuel).map fun (more, after) =>
              (.range first first :: more, after)

/-- The set at the front of a pattern, after its opening bracket, and what follows. -/
def setAt? (glyphs : List Glyph) : Option (PatternItem × List Glyph) :=
  let (isNegated, glyphs) := match glyphs with
    | ('!', false) :: rest => (true, rest)
    | ('^', false) :: rest => (true, rest)
    | glyphs => (false, glyphs)
  (membersAt? true glyphs (glyphs.length + 1)).map fun (members, rest) =>
    (.oneOf isNegated members, rest)

/-- The parts of a pattern.  The fuel bounds their number. -/
def itemsOf (glyphs : List Glyph) : Nat → List PatternItem
  | 0 => []
  | fuel + 1 =>
    match glyphs with
    | [] => []
    | ('*', false) :: rest => .many :: itemsOf rest fuel
    | ('?', false) :: rest => .any :: itemsOf rest fuel
    | ('[', false) :: rest =>
      match setAt? rest with
      | some (item, rest) => item :: itemsOf rest fuel
      | none => .literal '[' :: itemsOf rest fuel
    | ('\\', false) :: (c, _) :: rest => .literal c :: itemsOf rest fuel
    | (c, _) :: rest => .literal c :: itemsOf rest fuel

/-- A pattern. -/
abbrev Pattern := List PatternItem

/-- The pattern that characters make up. -/
def patternOf (glyphs : List Glyph) : Pattern := itemsOf glyphs glyphs.length

/-- What is left of a text after each part at its front, the shortest part first. -/
def endings : Text → List Text
  | [] => [[]]
  | c :: rest => (c :: rest) :: endings rest

/-- Whether a pattern matches a text. -/
def isMatch : Pattern → Text → Bool
  | [], text => text.isEmpty
  | .many :: rest, text => (endings text).any (isMatch rest)
  | item :: rest, text =>
    match text with
    | [] => false
    | c :: more => item.admits c && isMatch rest more

/-- Whether a pattern stands for anything but one text. -/
def hasMeta (glyphs : List Glyph) : Bool :=
  glyphs.any fun (c, isQuoted) => !isQuoted && (c == '*' || c == '?' || c == '[')

/-- A text up to where its first part ends, if it has several. -/
def firstPart (text : Text) : Text := text.takeWhile (· != '\x00')

/-- A text without the shortest, or longest, part at its front that a pattern matches. -/
def trimFront (isLongest : Bool) (pattern : Pattern) (text : Text) : Text :=
  let rests := if isLongest then (endings text).reverse else endings text
  (rests.find? fun rest =>
    isMatch pattern (firstPart (text.take (text.length - rest.length)))).getD text

/-- A text without the shortest, or longest, part at its back that a pattern matches. -/
def trimBack (isLongest : Bool) (pattern : Pattern) (text : Text) : Text :=
  let ends :=
    if isLongest then (endings text).take ((firstPart text).length + 1) else (endings text).reverse
  match ends.find? (isMatch pattern <| firstPart ·) with
  | some ending => text.take (text.length - ending.length)
  | none => text

/-! ### Paths -/

/-- Characters up to a slash, and from that slash on. -/
def firstName (glyphs : List Glyph) : List Glyph × List Glyph :=
  (glyphs.takeWhile (·.1 != '/'), glyphs.dropWhile (·.1 != '/'))

/-- The text of characters, without backslashes that protect others. -/
def plainGlyphs : List Glyph → Text
  | ('\\', false) :: (c, _) :: rest => c :: plainGlyphs rest
  | (c, _) :: rest => c :: plainGlyphs rest
  | [] => []

/-- The names in a directory that a pattern matches. -/
def namesMatching (tree : Files.Tree) (place : Files.Place) (glyphs : List Glyph) : List Text :=
  let pattern := patternOf glyphs
  let showsHidden := (plainGlyphs glyphs).head? == some '.'
  let names := ([".", ".."] ++ tree.list place).map ofString
  names.filter fun name =>
    (name.head? != some '.' || showsHidden) && isMatch pattern name

/-- The paths that match a pattern and begin with a path.  The fuel bounds the number of names. -/
def pathsMatching (tree : Files.Tree) (directory : Files.Place) (before : Text)
    (glyphs : List Glyph) : Nat → List Text
  | 0 => []
  | fuel + 1 =>
    let slashes := (glyphs.map (·.1)).takeWhile (· == '/')
    let (name, rest) := firstName (glyphs.drop slashes.length)
    let before := before ++ slashes
    if name.isEmpty && rest.isEmpty then
      if (tree.find? directory (stringOf before)).isSome then [before] else []
    else if !hasMeta name then
      pathsMatching tree directory (before ++ plainGlyphs name) rest fuel
    else
      let holder := if before.isEmpty then ".".toList else before
      match tree.find directory (stringOf holder) with
      | .ok (place, .directory) =>
        (namesMatching tree place name).flatMap fun found =>
          pathsMatching tree directory (before ++ found) rest fuel
      | _ => []

/-- The paths that match a pattern, in order. -/
def glob (tree : Files.Tree) (directory : Files.Place) (glyphs : List Glyph) : List Text :=
  sortedTexts (pathsMatching tree directory [] glyphs (glyphs.length + 2))

end DiagnosticBridge.Shell
