import DiagnosticBridge.Shell.Source

namespace DiagnosticBridge.Shell

/-!
# Reading commands

The grammar of the shell's language, one function for each of its notions.  Commands hold words,
and words hold commands, so the notions refer to each other; a function that needs a smaller part
reads it by the `Grammar` it is given, and `grammar` ties the knot.

* `Grammar.ofSize` — the grammar for scripts of a given size.
-/

/-- How a list of commands ends. -/
inductive ListKind where
  /-- With the line. -/
  | line
  /-- With a word that closes it; it must not be empty. -/
  | block
  /-- With a sign that closes it; it may be empty. -/
  | body
  deriving DecidableEq

/-- How the text of a word is read within braces or double quotes. -/
structure Quoting where
  /-- Whether double quotes are open around it. -/
  isDouble : Bool
  /-- Whether a brace ends it. -/
  isBraced : Bool
  /-- Whether it belongs to a document. -/
  inDocument : Bool
  /-- Whether a backslash protects a closing brace in it, which it does all within braces. -/
  guardsBrace : Bool

/-- The readers of notions that hold others of their kind. -/
structure Grammar where
  /-- How many steps a reader may take. -/
  size : Nat
  /-- Reads a list of commands. -/
  list : ListKind → Reader (Option Command)
  /-- Reads a command; lines before it may be passed over, and keywords may be looked for. -/
  command : Bool → Bool → Reader Command
  /-- Reads the rest of what stands within braces or double quotes. -/
  inside : Quoting → Reader Word
  /-- Reads the rest of an expression. -/
  expression : Nat → Reader Word

namespace Grammar

/-- What cannot be read at the end of a text between double quotes. -/
def openQuoteWords : String := "Unterminated quoted string"

/-- What cannot be read at the end of a text between braces. -/
def openBraceWords : String := "Missing '\x7d'"

/-- What cannot be read at the end of an expression. -/
def openExpressionWords : String := "Missing '))'"

variable (self : Grammar)

/-! ### Words -/

/-- The characters that name a parameter by themselves. -/
def specialParameters : Text := "!#$*-?@0123456789".toList

/-- The operator of a parameter in braces and what belongs to it, up to the closing brace. -/
def operation (isDouble inDocument : Bool) : Reader Operation := do
  let operand : Reader Word := self.inside ⟨isDouble, true, inDocument, true⟩
  let nullToo ← Reader.accept ':'
  match ← Reader.next with
  | some '\x7d' =>
    Reader.skip
    if nullToo then
      let _ ← operand
      return .unknown
    return .plain
  | some '-' => Reader.skip; return .fallback nullToo (← operand)
  | some '+' => Reader.skip; return .instead nullToo (← operand)
  | some '?' => Reader.skip; return .demand nullToo (← operand)
  | some '=' => Reader.skip; return .assign nullToo (← operand)
  | some c =>
    if (c == '#' || c == '%') && !nullToo then
      Reader.skip
      let isLongest ← Reader.accept c
      return .trim (c == '#') isLongest (← self.inside ⟨false, true, inDocument, true⟩)
    modify fun s => { s with rest := s.rest.drop 1 }
    let _ ← operand
    return .unknown
  | none =>
    let _ ← operand
    return .unknown

/-- A parameter in braces, after the opening one. -/
def braced (isDouble inDocument : Bool) : Reader Part := do
  let unknown : Reader Part := do
    let _ ← self.inside ⟨isDouble, true, inDocument, true⟩
    return .parameter [] .unknown isDouble
  let lengthOf (name : Text) : Reader Part := do
    if ← Reader.accept '\x7d' then return .parameter name .length isDouble
    unknown
  match ← Reader.next with
  | none => unknown
  | some c =>
    if isNameStart c then
      let name ← Reader.takeWhile isNameChar self.size
      return .parameter name (← self.operation isDouble inDocument) isDouble
    else if c.isDigit then
      let name ← Reader.takeWhile Char.isDigit self.size
      return .parameter name (← self.operation isDouble inDocument) isDouble
    else if c == '#' then
      Reader.skip
      match ← Reader.next with
      | none => return .parameter ['#'] (← self.operation isDouble inDocument) isDouble
      | some d =>
        if isNameStart d then lengthOf (← Reader.takeWhile isNameChar self.size)
        else if d.isDigit then lengthOf (← Reader.takeWhile Char.isDigit self.size)
        else if d != '\x7d' && ((← get).rest.drop 1).head? == some '\x7d' then
          if specialParameters.contains d then
            Reader.skip
            lengthOf [d]
          else unknown
        else return .parameter ['#'] (← self.operation isDouble inDocument) isDouble
    else if specialParameters.contains c then
      Reader.skip
      return .parameter [c] (← self.operation isDouble inDocument) isDouble
    else unknown

/-- A command whose output is taken, after the opening bracket. -/
def substitution (isQuoted : Bool) : Reader Part := do
  let before ← get
  set { before with announced := [], isGivenBack := false }
  let body ← self.list .body
  let after ← get
  match after.last, after.isGivenBack with
  | .closeRound, true => pure ()
  | _, _ => Reader.refuseToken (some .closeRound)
  modify fun s => { s with
    announced := before.announced, last := before.last, isGivenBack := before.isGivenBack }
  return .command body isQuoted

/-- The text between back quotes, after the opening one, without the backslashes that protect
    characters from them.  The fuel bounds its length. -/
def backquoted (isDouble : Bool) : Nat → Reader Text
  | 0 => Reader.refuse "EOF in backquote substitution"
  | fuel + 1 => do
    match ← Reader.next with
    | none => Reader.refuse "EOF in backquote substitution"
    | some c =>
      Reader.skip
      if c == Char.ofNat 96 then return []
      else if c == '\\' then
        match ← Reader.peek with
        | none => Reader.refuse "EOF in backquote substitution"
        | some d =>
          Reader.skip
          let isProtected := d == '\\' || d == '$' || d == Char.ofNat 96 || (isDouble && d == '"')
          let rest ← backquoted isDouble fuel
          return if isProtected then d :: rest else '\\' :: d :: rest
      else return c :: (← backquoted isDouble fuel)

/-- Reads a text of its own by a reader, with the numbers of documents going on. -/
def within {α : Type} (text : Text) (line : Nat) (reader : Reader α) : Reader α := do
  let outer ← get
  match reader.run { Source.ofText text outer.nextDocument outer.aliases with line := line } with
  | .error fault => throw fault
  | .ok (value, inner) =>
    set { outer with
      documents := outer.documents ++ inner.documents
      nextDocument := inner.nextDocument }
    return value

/-- A command between back quotes, after the opening one. -/
def oldSubstitution (isQuoted : Bool) : Reader Part := do
  let text ← backquoted isQuoted self.size
  return .command (← within text 1 (self.list .body)) isQuoted

/-- What a dollar sign begins, after it. -/
def dollar (isDouble inDocument : Bool) : Reader (List Part) := do
  match ← Reader.next with
  | none => return [.char '$' isDouble]
  | some c =>
    if c == '(' then
      Reader.skip
      if ← Reader.accept '(' then
        return [.arithmetic (← self.expression 0) isDouble]
      return [← self.substitution isDouble]
    else if c == '\x7b' then
      Reader.skip
      return [← self.braced isDouble inDocument]
    else if isNameStart c then
      let name ← Reader.takeWhile isNameChar self.size
      return [.parameter name .plain isDouble]
    else if specialParameters.contains c then
      Reader.skip
      return [.parameter [c] .plain isDouble]
    else return [.char '$' isDouble]

/-- The characters up to a single quote, after the opening one.  The fuel bounds their number. -/
def singleQuoted : Nat → Reader (List Part)
  | 0 => Reader.refuse openQuoteWords
  | fuel + 1 => do
    match ← Reader.peek with
    | none => Reader.refuse openQuoteWords
    | some c =>
      Reader.skip
      if c == '\'' then return []
      return .char c true :: (← singleQuoted fuel)

/-- Whether a backslash protects a character within double quotes. -/
def isProtectable (quoting : Quoting) (c : Char) : Bool :=
  c == '\\' || c == '$' || c == Char.ofNat 96 ||
    (c == '"' && (!quoting.inDocument || quoting.isBraced)) || (c == '\x7d' && quoting.guardsBrace)

/-- The rest of a word within braces or double quotes, up to what ends it.  The fuel bounds its
    length. -/
def insideRest (quoting : Quoting) : Nat → Reader Word
  | 0 => Reader.refuse openQuoteWords
  | fuel + 1 => do
    match ← Reader.next with
    | none =>
      if quoting.inDocument && !quoting.isBraced then return []
      if quoting.isDouble && !quoting.inDocument then Reader.refuse openQuoteWords
      Reader.refuse openBraceWords
    | some c =>
      Reader.skip
      let goOn (parts : List Part) : Reader Word := do return parts ++ (← insideRest quoting fuel)
      if c == '\x7d' && quoting.isBraced then return []
      else if c == '\\' then
        match ← Reader.peek with
        | none => goOn [.char '\\' true]
        | some d =>
          Reader.skip
          if quoting.isDouble && !isProtectable quoting d then
            goOn [.char '\\' true, .char d true]
          else goOn [.char d true]
      else if c == '"' then
        if quoting.isDouble && !quoting.isBraced then
          if quoting.inDocument then goOn [.char c true] else return []
        else
          let quoted ← self.inside ⟨true, false, false, quoting.guardsBrace⟩
          goOn ([.quote] ++ quoted ++ [.quote])
      else if c == '\'' && !quoting.isDouble then
        goOn ([.quote] ++ (← singleQuoted self.size) ++ [.quote])
      else if c == '$' then goOn (← self.dollar quoting.isDouble quoting.inDocument)
      else if c == Char.ofNat 96 then goOn [← self.oldSubstitution quoting.isDouble]
      else goOn [.char c quoting.isDouble]

/-- The rest of an expression, up to its two closing brackets; so many brackets are open within
    it.  The fuel bounds its length. -/
def expressionRest (depth : Nat) : Nat → Reader Word
  | 0 => Reader.refuse openExpressionWords
  | fuel + 1 => do
    match ← Reader.next with
    | none => Reader.refuse openExpressionWords
    | some c =>
      Reader.skip
      let goOn (depth : Nat) (parts : List Part) : Reader Word := do
        return parts ++ (← expressionRest depth fuel)
      match c with
      | '(' => goOn (depth + 1) [.char c true]
      | ')' =>
        if depth > 0 then goOn (depth - 1) [.char c true]
        else if ← Reader.accept ')' then return []
        else goOn 0 [.char c true]
      | '$' => goOn depth (← self.dollar true false)
      | '\\' =>
        match ← Reader.peek with
        | none => goOn depth [.char '\\' true]
        | some d =>
          Reader.skip
          if isProtectable ⟨true, false, false, false⟩ d then goOn depth [.char d true]
          else goOn depth [.char '\\' true, .char d true]
      | c =>
        if c == Char.ofNat 96 then goOn depth [← self.oldSubstitution true]
        else goOn depth [.char c true]

/-- Whether a character ends a word outside of quotes. -/
def endsWord (c : Char) : Bool := " \t\n;&|<>()".toList.contains c

/-- The rest of a word outside of quotes, and whether any of it is quoted.  In a mark of a
    document, nothing stands for a value.  The fuel bounds its length. -/
def wordRest (isMark : Bool) : Nat → Reader (Word × Bool)
  | 0 => return ([], false)
  | fuel + 1 => do
    match ← Reader.next with
    | none => return ([], false)
    | some c =>
      if endsWord c then return ([], false)
      Reader.skip
      let goOn (parts : List Part) (isQuoted : Bool) : Reader (Word × Bool) := do
        let (rest, q) ← wordRest isMark fuel
        return (parts ++ rest, isQuoted || q)
      if c == '\\' then
        match ← Reader.peek with
        | none => goOn [.char '\\' true] false
        | some d =>
          Reader.skip
          goOn [.char d true] true
      else if c == '\'' then goOn ([.quote] ++ (← singleQuoted self.size) ++ [.quote]) true
      else if c == '"' then
        goOn ([.quote] ++ (← self.inside ⟨true, false, false, false⟩) ++ [.quote]) true
      else if c == '$' then
        if isMark then goOn [.char c false] false else goOn (← self.dollar false false) false
      else if c == Char.ofNat 96 then
        if isMark then goOn [.char c false] true
        else goOn [← self.oldSubstitution false] false
      else goOn [.char c false] false

/-! ### Documents -/

/-- Whether a line ends in a backslash that is not protected itself. -/
def isJoined (line : Text) : Bool :=
  (line.reverse.takeWhile (· == '\\')).length % 2 == 1

/-- Takes the lines of a document off the script, up to its mark.  The fuel bounds their number. -/
def documentLines (a : Announcement) (continues : Bool) : Nat → Reader Text
  | 0 => return []
  | fuel + 1 => do
    let s ← get
    if s.rest.isEmpty then return []
    let line := s.rest.takeWhile (· != '\n')
    let ends := s.rest.drop line.length
    set { s with rest := ends.drop 1, line := if ends.isEmpty then s.line else s.line + 1 }
    let shown := if a.stripsTabs && !continues then line.dropWhile (· == '\t') else line
    if !continues && shown == a.mark then return []
    let rest ← documentLines a (!a.isRaw && isJoined shown) fuel
    return shown ++ ends.take 1 ++ rest

/-- Why a document of so many lines after its text cannot be read: what is missing at its end is
    missed after those lines, and quotes end with it. -/
def documentFault (passed : Nat) (fault : SyntaxFault) : SyntaxFault :=
  if fault.message == openBraceWords || fault.message == openQuoteWords then
    ⟨fault.line + passed, openBraceWords⟩
  else if fault.message == openExpressionWords then { fault with line := fault.line + passed }
  else fault

/-- Reads a document that has been announced. -/
def document (a : Announcement) : Reader Unit := do
  let line := (← get).line
  let text ← documentLines a false self.size
  let passed := (← get).line - line - text.count '\n'
  let body ← if a.isRaw then pure (text.map (.char · true))
    else tryCatch (within text line (self.inside ⟨true, false, true, false⟩)) fun fault =>
      throw (documentFault passed fault)
  modify fun s => { s with documents := s.documents ++ [(a.number, body)] }

/-- Reads all documents that have been announced. -/
def readDocuments : Reader Unit := do
  let announced := (← get).announced
  modify fun s => { s with announced := [] }
  announced.forM self.document

/-! ### Tokens -/

/-- The sign of a redirection, after its first character. -/
def redirectionSign (first : Char) : Reader RedirectionSign := do
  if first == '>' then
    if ← Reader.accept '>' then return .append
    if ← Reader.accept '|' then return .output true
    if ← Reader.accept '&' then return .duplicate
    return .output false
  if ← Reader.accept '<' then return .document (← Reader.accept '-')
  if ← Reader.accept '&' then return .duplicate
  if ← Reader.accept '>' then return .both
  return .input

/-- Passes over blanks and comments.  The fuel bounds their number. -/
def skipBlanks : Nat → Reader Unit
  | 0 => return
  | fuel + 1 => do
    match ← Reader.next with
    | some '#' =>
      modify fun s => { s with rest := s.rest.dropWhile (· != '\n') }
      skipBlanks fuel
    | some c =>
      if isBlank c then
        Reader.skip
        skipBlanks fuel
    | none => return

/-- A word, or a redirection if a sign of one comes after nothing or a single digit. -/
def wordToken (isMark : Bool) : Reader Token := do
  let (word, isQuoted) ← self.wordRest isMark self.size
  let sign ← Reader.next
  match sign with
  | some c =>
    if c == '<' || c == '>' then
      match plainText? word, isQuoted with
      | some [], false =>
        Reader.skip
        return .redirection (if c == '<' then 0 else 1) (← redirectionSign c)
      | some [d], false =>
        if d.isDigit then
          Reader.skip
          return .redirection (d.toNat - 48) (← redirectionSign c)
        return .word word isQuoted
      | _, _ => return .word word isQuoted
    return .word word isQuoted
  | none => return .word word isQuoted

/-- The next token as it stands. -/
def rawToken (isMark : Bool) : Reader Token := do
  let s ← get
  if s.isGivenBack then
    set { s with isGivenBack := false }
    return s.last
  skipBlanks self.size
  let one (token : Token) : Reader Token := do
    Reader.skip
    return token
  let double (c : Char) (pair single : Token) : Reader Token := do
    Reader.skip
    return if ← Reader.accept c then pair else single
  match ← Reader.next with
  | none => return .endOfFile
  | some '\n' => one .newline
  | some '(' => one .openRound
  | some ')' => one .closeRound
  | some '&' => double '&' .andThen .background
  | some '|' => double '|' .orElse .bar
  | some ';' => double ';' .endCase .semicolon
  | some _ => self.wordToken isMark

/-- Passes over ends of lines, with the documents after them, from a token on.  The fuel bounds
    their number. -/
def afterLines (token : Token) : Nat → Reader Token
  | 0 => return token
  | fuel + 1 => do
    match token with
    | .newline =>
      self.readDocuments
      afterLines (← self.rawToken false) fuel
    | token => return token

/-- The next token, where ends of lines may be passed over, and keywords and aliases looked for.
    The fuel bounds the number of aliases. -/
def plainToken (skipsLines seeksKeywords seeksAliases : Bool) : Nat → Reader Token
  | 0 => return .endOfFile
  | fuel + 1 => do
    let before ← get
    let found ← self.rawToken false
    let found ← if skipsLines then self.afterLines found self.size else pure found
    match found with
    | .word w false =>
      match plainText? w with
      | some text =>
        if seeksKeywords && keywords.contains (String.ofList text) then
          return .keyword (String.ofList text)
        -- A token that has been given back has been looked at when it was read.
        if before.isGivenBack then return found
        let s ← get
        match s.aliasText? before.rest.length seeksAliases text with
        | some value =>
          set (s.replace text value)
          plainToken skipsLines seeksKeywords true fuel
        | none => return found
      | none => return found
    | _ => return found

/-- The next token of a command, where ends of lines may be passed over, and keywords and aliases
    looked for. -/
def commandToken (skipsLines seeksKeywords seeksAliases : Bool) : Reader Token := do
  let found ← self.plainToken skipsLines seeksKeywords seeksAliases self.size
  modify fun s => { s with last := found }
  return found

/-- The next token, where ends of lines may be passed over and keywords looked for, and aliases
    with them. -/
def token (skipsLines seeksKeywords : Bool) : Reader Token :=
  self.commandToken skipsLines seeksKeywords seeksKeywords

/-- Reads a token that must be a given keyword. -/
def expectKeyword (text : String) (skipsLines seeksKeywords : Bool) : Reader Unit := do
  if !(← self.token skipsLines seeksKeywords).isKeyword text then
    Reader.refuseToken (some (.keyword text))

/-! ### Redirections -/

/-- Reads what a redirection goes to or comes from. -/
def redirection (descriptor : Nat) (sign : RedirectionSign) : Reader Redirection := do
  let found ← match sign with
    | .document _ => do
      let found ← self.rawToken true
      modify fun s => { s with last := found }
      pure found
    | _ => self.token false false
  match found with
  | .word word isQuoted =>
    match sign with
    | .input => return .input descriptor word
    | .output isForced => return .output descriptor isForced word
    | .append => return .append descriptor word
    | .both => return .both descriptor word
    | .duplicate => return .duplicate descriptor word
    | .document stripsTabs =>
      let number := (← get).nextDocument
      let mark := word.filterMap fun part =>
        match part with
        | .char c _ => some c
        | _ => none
      modify fun s => { s with
        nextDocument := number + 1
        announced := s.announced ++ [⟨number, mark, isQuoted, stripsTabs⟩] }
      return .document descriptor number
  | _ => Reader.refuseToken none

/-- Reads redirections as long as there are any; the token after them is given back.  The fuel
    bounds their number. -/
def redirections (seeksKeywords : Bool) : Nat → Reader (List Redirection)
  | 0 => return []
  | fuel + 1 => do
    match ← self.token false seeksKeywords with
    | .redirection descriptor sign =>
      let first ← self.redirection descriptor sign
      return first :: (← redirections false fuel)
    | _ =>
      Reader.giveBack
      return []

/-! ### Commands -/

/-- The names of commands that cannot be given to functions. -/
def reservedNames : List String :=
  [".", ":", "break", "continue", "eval", "exec", "exit", "export", "readonly", "return", "set",
    "shift", "times", "trap", "unset"]

/-- The parts of a simple command that have been read. -/
structure SimpleParts where
  /-- The assignments. -/
  assignments : List Word
  /-- The words. -/
  words : List Word
  /-- The redirections. -/
  redirections : List Redirection

/-- Reads the rest of a simple command, or of the definition of a function.  The fuel bounds the
    number of its parts. -/
def simpleRest (line : Nat) (parts : SimpleParts) : Nat → Reader Command
  | 0 => return .simple line parts.assignments parts.words parts.redirections
  | fuel + 1 => do
    let finish : Reader Command := do
      Reader.giveBack
      return .simple line parts.assignments parts.words parts.redirections
    let found ← self.commandToken false false parts.words.isEmpty
    match found with
    | .redirection descriptor sign =>
      let r ← self.redirection descriptor sign
      simpleRest line { parts with redirections := parts.redirections ++ [r] } fuel
    | .openRound =>
      match parts with
      | ⟨[], [name], []⟩ =>
        match ← self.token false false with
        | .closeRound => pure ()
        | _ => Reader.refuseToken (some .closeRound)
        match plainText? name with
        | some text =>
          if !isName text || reservedNames.contains (String.ofList text) then
            Reader.refuse "Bad function name"
          let line := (← get).line
          return .define line text (← self.command true true)
        | none => Reader.refuse "Bad function name"
      | _ => finish
    | found =>
      match found.word? with
      | some word =>
        if parts.words.isEmpty && isAssignment word then
          simpleRest line { parts with assignments := parts.assignments ++ [word] } fuel
        else simpleRest line { parts with words := parts.words ++ [word] } fuel
      | none => finish

/-- Reads the rest of a choice, after the test's keyword. -/
def choiceRest : Nat → Reader Command
  | 0 => Reader.refuseToken none
  | fuel + 1 => do
    let test := (← self.list .block).getD default
    self.expectKeyword "then" false false
    let body := (← self.list .block).getD default
    match ← self.token false false with
    | .keyword "elif" => return .choice test body (some (← choiceRest fuel))
    | .keyword "else" => return .choice test body (← self.list .block)
    | _ =>
      Reader.giveBack
      return .choice test body none

/-- Reads the words that a loop goes over, up to the end of the line. -/
def loopValues : Nat → Reader (List Word)
  | 0 => return []
  | fuel + 1 => do
    match ← self.token false false with
    | .word w _ => return w :: (← loopValues fuel)
    | .newline => return []
    | .semicolon => return []
    | _ => Reader.refuseToken none

/-- Reads a loop over values, after its keyword. -/
def loopOverValues (line : Nat) : Reader Command := do
  let name ← match ← self.token false false with
    | .word w false =>
      match plainText? w with
      | some text => if isName text then pure text else Reader.refuse "Bad for loop variable"
      | none => Reader.refuse "Bad for loop variable"
    | _ => Reader.refuse "Bad for loop variable"
  let values ← match ← self.token true true with
    | .keyword "in" => self.loopValues self.size
    | .semicolon => pure [allArguments]
    | _ =>
      Reader.giveBack
      pure [allArguments]
  self.expectKeyword "do" true true
  return .forEach line name values ((← self.list .block).getD default)

/-- Reads the patterns of a case, from the last token on. -/
def patterns : Nat → Reader (List Word)
  | 0 => Reader.refuseToken none
  | fuel + 1 => do
    let word := (← get).last.word?.getD []
    match ← self.token false false with
    | .bar =>
      let _ ← self.token false false
      return word :: (← patterns fuel)
    | .closeRound => return [word]
    | _ => Reader.refuseToken (some .closeRound)

/-- Reads the cases of a selection, up to the word that closes it. -/
def cases : Nat → Reader (List (List Word × Option Command))
  | 0 => Reader.refuseToken none
  | fuel + 1 => do
    match ← self.commandToken true true false with
    | .keyword "esac" => return []
    | found =>
      match found with
      | .openRound =>
        let _ ← self.token false false
      | _ => pure ()
      let patterns ← self.patterns self.size
      let body ← self.list .body
      match ← self.token true true with
      | .keyword "esac" => return [(patterns, body)]
      | .endCase => return (patterns, body) :: (← cases fuel)
      | _ => Reader.refuseToken (some .endCase)

/-- Reads a selection, after its keyword. -/
def selection (line : Nat) : Reader Command := do
  match ← self.token false false with
  | .word subject _ =>
    self.expectKeyword "in" true true
    return .selection line subject (← self.cases self.size)
  | _ => Reader.refuseToken (some (.word [] false))

/-- A command under redirections, if there are any. -/
def under (line : Nat) (command : Command) (redirections : List Redirection) : Command :=
  if redirections.isEmpty then command
  else
    match command with
    | .subshell line body _ => .subshell line body redirections
    | command => .redirected line command redirections

/-- Reads a command. -/
def anyCommand (skipsLines seeksKeywords : Bool) : Reader Command := do
  let line := (← get).line
  let closed (closing : Token) (command : Command) : Reader Command := do
    match closing, ← self.token false false with
    | .keyword text, found => if !found.isKeyword text then Reader.refuseToken (some closing)
    | .closeRound, .closeRound => pure ()
    | _, _ => Reader.refuseToken (some closing)
    return under line command (← self.redirections true self.size)
  match ← self.token skipsLines seeksKeywords with
  | .keyword "if" => closed (.keyword "fi") (← self.choiceRest self.size)
  | .keyword "while" =>
    let test := (← self.list .block).getD default
    self.expectKeyword "do" false false
    closed (.keyword "done") (.loop true test ((← self.list .block).getD default))
  | .keyword "until" =>
    let test := (← self.list .block).getD default
    self.expectKeyword "do" false false
    closed (.keyword "done") (.loop false test ((← self.list .block).getD default))
  | .keyword "for" => closed (.keyword "done") (← self.loopOverValues line)
  | .keyword "case" =>
    return under line (← self.selection line) (← self.redirections true self.size)
  | .keyword "\x7b" => closed (.keyword "\x7d") ((← self.list .block).getD default)
  | .openRound => closed .closeRound (.subshell line ((← self.list .block).getD default) [])
  | .word _ _ =>
    Reader.giveBack
    self.simpleRest (← get).line ⟨[], [], []⟩ self.size
  | .redirection _ _ =>
    Reader.giveBack
    self.simpleRest (← get).line ⟨[], [], []⟩ self.size
  | _ => Reader.refuseToken none

/-- Reads the later stages of a pipeline, after a bar. -/
def stages : Nat → Reader (List Command)
  | 0 => Reader.refuseToken none
  | fuel + 1 => do
    let first ← self.command true true
    match ← self.token false false with
    | .bar => return first :: (← stages fuel)
    | _ =>
      Reader.giveBack
      return [first]

/-- Reads a pipeline. -/
def pipeline (skipsLines seeksKeywords : Bool) : Reader Command := do
  let isNegated := (← self.token skipsLines seeksKeywords).isKeyword "!"
  if !isNegated then Reader.giveBack
  let first ← self.command false isNegated
  let all ← match ← self.token false false with
    | .bar => do pure (Command.pipeline (first :: (← self.stages self.size)))
    | _ => do
      Reader.giveBack
      pure first
  return if isNegated then .negated all else all

/-- Reads the rest of commands of which each runs depending on the ones before it. -/
def andOrRest (first : Command) : Nat → Reader Command
  | 0 => return first
  | fuel + 1 => do
    match ← self.token false false with
    | .andThen => andOrRest (.both first (← self.pipeline true true)) fuel
    | .orElse => andOrRest (.either first (← self.pipeline true true)) fuel
    | _ =>
      Reader.giveBack
      return first

/-- Reads the rest of a list of commands; `mayEnd` says whether a token may close it. -/
def listRest (kind : ListKind) (first : Option Command) (mayEnd : Bool) :
    Nat → Reader (Option Command)
  | 0 => Reader.refuseToken none
  | fuel + 1 => do
    let found ← self.token (kind != .line) true
    match found with
    | .newline =>
      self.readDocuments
      return first
    | .endOfFile =>
      self.readDocuments
      Reader.giveBack
      return first
    | found =>
      Reader.giveBack
      if mayEnd && found.closes then return first
      let line := (← get).line
      let next ← self.andOrRest (← self.pipeline false false) self.size
      let sign ← self.token false false
      let next := match sign with
        | .background => .background line next
        | _ => next
      let all := match first with
        | some first => Command.sequence first next
        | none => next
      let goOn := listRest kind (some all) (kind != .line) fuel
      match sign with
      | .newline => Reader.giveBack; goOn
      | .endOfFile => Reader.giveBack; goOn
      | .background => goOn
      | .semicolon => goOn
      | _ =>
        if kind == .line then Reader.refuseToken none
        Reader.giveBack
        return some all

/-- The grammar one level up from another one. -/
def above (self : Grammar) : Grammar where
  size := self.size
  list kind := self.listRest kind none (kind == .body) self.size
  command := self.anyCommand
  inside quoting := self.insideRest quoting self.size
  expression depth := self.expressionRest depth self.size

/-- The grammar that reads nothing. -/
def empty (size : Nat) : Grammar where
  size := size
  list _ := Reader.refuseToken none
  command _ _ := Reader.refuseToken none
  inside _ := Reader.refuseToken none
  expression _ := Reader.refuseToken none

/-- The grammar for scripts of at most `size` characters whose notions are nested at most `depth`
    levels deep. -/
def ofDepth (size : Nat) : Nat → Grammar
  | 0 => empty size
  | depth + 1 => (ofDepth size depth).above

/-- How deep notions may be nested at most. -/
def greatestDepth : Nat := 2000

/-- The grammar for scripts of a given size: each notion takes a character or more. -/
def ofSize (size : Nat) : Grammar := ofDepth (size + 2) (min (4 * size + 8) greatestDepth)

end Grammar

/-- Reads a text like that of a document. -/
def Source.readText (text : Text) : Except SyntaxFault Word :=
  let reader := (Grammar.ofSize text.length).inside ⟨true, false, true, false⟩
  (reader.run (Source.ofText text 0 [])).map (·.1)

/-- What a reader finds next in a script. -/
inductive Portion where
  /-- A complete command. -/
  | command (body : Command)
  /-- An empty line. -/
  | nothing
  /-- The end of the script. -/
  | ending

/-- Reads the commands of the next line, with what belongs to them on the lines after it. -/
def Source.read (s : Source) (size : Nat) : Except SyntaxFault (Portion × Source) := do
  let start := { s with isGivenBack := false, announced := [] }
  let (found, s) ← ((Grammar.ofSize size).list .line).run start
  match found, s.last with
  | some body, _ => return (.command body, s)
  | none, .endOfFile => return (.ending, s)
  | none, _ => return (.nothing, s)

end DiagnosticBridge.Shell
