import DiagnosticBridge.Decimal.Bounded
import DiagnosticBridge.Json.Reader
import DiagnosticBridge.Text.Quoted
import DiagnosticBridge.Text.Search
import DiagnosticBridge.Text.Space

namespace DiagnosticBridge.Frame

/-!
# Reading framed messages

A message is framed by header lines, of which `Content-Length` counts the bytes of the body, and a
blank line:

    Content-Length: 17

    {"jsonrpc":"2.0"}

Reading is a function of the bytes at hand and of whether the stream is closed after them.  A body
that is no JSON leaves the frames around it intact; every other fault is final.

* `headers_rest_length_lt`, `read_rest_length_lt` — a message takes at least one byte, so the
  messages of a stream are finitely many.
-/

/-- The greatest length that a body may have. -/
def greatestLength : Nat := 4 * 1024 * 1024

/-- What goes wrong on the channel itself. -/
inductive ChannelFault where
  /-- The stream ends within a body. -/
  | bodyCutShort
  /-- A header line is not UTF-8. -/
  | headerNotUtf8 (m : Utf8.Malformed)
  /-- The other side takes no more bytes. -/
  | closed
  deriving DecidableEq, Repr

/-- The wording of a fault. -/
def ChannelFault.message : ChannelFault → String
  | .bodyCutShort => "early eof"
  | .headerNotUtf8 m => m.message
  | .closed => "pipe closed"

/-- Why no message can be read or written. -/
inductive Fault where
  /-- The channel fails. -/
  | channel (cause : ChannelFault)
  /-- The stream ends within the headers. -/
  | endInHeaders
  /-- No header tells the length. -/
  | noLength
  /-- A header tells a length that is no number. -/
  | badLength (value : List Char)
  /-- The body is too long. -/
  | tooLong (length : Nat)
  /-- The body is no JSON. -/
  | notJson (e : Json.SyntaxError)
  deriving DecidableEq, Repr

/-- The wording of a fault. -/
def Fault.message : Fault → String
  | .channel cause => s!"I/O error on editor channel: {cause.message}"
  | .endInHeaders => "unexpected EOF while reading headers"
  | .noLength => "missing Content-Length header"
  | .badLength value => s!"invalid Content-Length value {String.ofList (Text.quote value)}"
  | .tooLong length => s!"Content-Length {length} exceeds maximum {greatestLength}"
  | .notJson e => s!"malformed JSON body: {e.message}"

/-- The wording of a fault together with that of its cause. -/
def Fault.messageChain (f : Fault) : String :=
  match f with
  | .channel cause => s!"{f.message}: {cause.message}"
  | f => f.message

/-! ### Headers -/

/-- A line among the headers. -/
inductive HeaderLine where
  /-- The blank line that ends the headers. -/
  | blank
  /-- The length of the body. -/
  | length (n : Nat)
  /-- Anything else, which is ignored. -/
  | other
  deriving DecidableEq, Repr

/-- Whether a header's name is `Content-Length`, in any ASCII case. -/
def isLengthName (name : List Char) : Bool :=
  (Text.trim name).map Char.toLower == "content-length".toList

/-- Reads the text of a line. -/
def HeaderLine.ofText (line : List Char) : Except Fault HeaderLine :=
  let line := Text.trim line
  if line.isEmpty then .ok .blank
  else
    match Text.cutAtChar? ':' line with
    | none => .ok .other
    | some (name, value) =>
      if isLengthName name then
        let value := Text.trim value
        match Decimal.signed? UInt64.size value with
        | some n => .ok (.length n)
        | none => .error (.badLength value)
      else .ok .other

/-- Reads the bytes of a line. -/
def HeaderLine.ofBytes (line : List UInt8) : Except Fault HeaderLine :=
  match Utf8.decode line with
  | .ok text => HeaderLine.ofText text
  | .error m => .error (.channel (.headerNotUtf8 m))

/-- What reading headers comes to. -/
inductive Headers where
  /-- The headers are complete: the length they tell, if any, and the bytes after them. -/
  | complete (length : Option Nat) (rest : List UInt8)
  /-- The stream ends before any header. -/
  | none
  /-- The headers are faulty. -/
  | faulty (fault : Fault)
  /-- More bytes are needed. -/
  | unfinished

/-- Reads headers from where a line begins or, if `line` is not empty, within that line, whose
    bytes are given the last one first.  `length` is what the lines so far tell, and `started`
    says whether there were any. -/
def headersFrom (closed started : Bool) (length : Option Nat) (line : List UInt8) :
    List UInt8 → Headers
  | [] =>
    if !closed then .unfinished
    else if line.isEmpty then (if started then .faulty .endInHeaders else .none)
    else
      match HeaderLine.ofBytes line.reverse with
      | .error fault => .faulty fault
      | .ok .blank => .complete length []
      | .ok _ => .faulty .endInHeaders
  | b :: rest =>
    if b = 10 then
      match HeaderLine.ofBytes (b :: line).reverse with
      | .error fault => .faulty fault
      | .ok .blank => .complete length rest
      | .ok (.length n) => headersFrom closed true (some n) [] rest
      | .ok .other => headersFrom closed true length [] rest
    else headersFrom closed started length (b :: line) rest

/-- Reads the headers at the front of a stream. -/
def headers (closed : Bool) (bytes : List UInt8) : Headers :=
  headersFrom closed false none [] bytes

/-! ### Messages -/

/-- What reading a message comes to. -/
inductive Reading where
  /-- A message, and the bytes after it. -/
  | message (value : Json) (rest : List UInt8)
  /-- A body that is no JSON, and the bytes after it. -/
  | malformed (e : Json.SyntaxError) (rest : List UInt8)
  /-- The stream ends between messages. -/
  | finished
  /-- The stream is faulty. -/
  | faulty (fault : Fault)
  /-- More bytes are needed. -/
  | unfinished

/-- Reads a body of a given length. -/
def readBody (closed : Bool) (length : Nat) (bytes : List UInt8) : Reading :=
  if bytes.length < length then
    if closed then .faulty (.channel .bodyCutShort) else .unfinished
  else
    match Json.parse (bytes.take length) with
    | .ok value => .message value (bytes.drop length)
    | .error e => .malformed e (bytes.drop length)

/-- Reads the message at the front of a stream. -/
def read (closed : Bool) (bytes : List UInt8) : Reading :=
  match headers closed bytes with
  | .none => .finished
  | .faulty fault => .faulty fault
  | .unfinished => .unfinished
  | .complete none _ => .faulty .noLength
  | .complete (some length) rest =>
    if length > greatestLength then .faulty (.tooLong length) else readBody closed length rest

/-- The bytes after what was read, if reading can go on. -/
def Reading.rest? : Reading → Option (List UInt8)
  | .message _ rest => some rest
  | .malformed _ rest => some rest
  | _ => none

/-- Headers take at least one byte. -/
theorem headersFrom_rest_length {closed started : Bool} {length found : Option Nat}
    {line bytes rest : List UInt8}
    (h : headersFrom closed started length line bytes = .complete found rest) :
    rest.length < line.length + bytes.length := by
  induction bytes generalizing started length line with
  | nil =>
    unfold headersFrom at h
    split at h
    · simp at h
    · split at h
      · split at h <;> simp at h
      · next hline =>
        split at h
        · simp at h
        · simp only [Headers.complete.injEq] at h
          obtain ⟨_, rfl⟩ := h
          cases line with
          | nil => simp at hline
          | cons b line => simp
        · simp at h
  | cons b bytes ih =>
    unfold headersFrom at h
    split at h
    · split at h
      · simp at h
      · simp only [Headers.complete.injEq] at h
        obtain ⟨_, rfl⟩ := h
        simp only [List.length_cons]
        omega
      · have := ih h
        simp only [List.length_cons, List.length_nil] at *
        omega
      · have := ih h
        simp only [List.length_cons, List.length_nil] at *
        omega
    · have := ih h
      simp only [List.length_cons] at *
      omega

/-- What follows headers is shorter than what they begin. -/
theorem headers_rest_length_lt {closed : Bool} {found : Option Nat} {bytes rest : List UInt8}
    (h : headers closed bytes = .complete found rest) : rest.length < bytes.length := by
  simpa using headersFrom_rest_length h

/-- So is what follows a message, which is why reading comes to an end. -/
theorem read_rest_length_lt {closed : Bool} {bytes rest : List UInt8}
    (h : (read closed bytes).rest? = some rest) : rest.length < bytes.length := by
  unfold read at h
  split at h
  · simp [Reading.rest?] at h
  · simp [Reading.rest?] at h
  · simp [Reading.rest?] at h
  · simp [Reading.rest?] at h
  · next length after hheaders =>
    have hlt := headers_rest_length_lt hheaders
    have hdrop : (after.drop length).length ≤ after.length := by simp
    split at h
    · simp [Reading.rest?] at h
    · unfold readBody at h
      split at h
      · split at h <;> simp [Reading.rest?] at h
      · split at h <;>
        · simp only [Reading.rest?, Option.some.injEq] at h
          subst h
          omega

/-- How many bytes can be asked for without going beyond the message of which these are the first
    bytes. -/
def wanted (bytes : List UInt8) : Nat :=
  match headers false bytes with
  | .complete (some length) rest => max 1 (min length greatestLength - rest.length)
  | _ => 1

/-- What a reader gets from a stream, one after the other. -/
inductive Item where
  /-- A message. -/
  | message (value : Json)
  /-- A body that is no JSON. -/
  | malformed (e : Json.SyntaxError)
  /-- The end of the stream between messages. -/
  | finished
  /-- A fault, after which nothing can be read. -/
  | faulty (fault : Fault)
  deriving BEq

/-- Everything that a reader gets from the front of a stream, and the bytes of a message that is
    not complete yet. -/
def readAll (closed : Bool) (bytes : List UInt8) : List Item × List UInt8 :=
  match _h : read closed bytes with
  | .message value rest =>
    let (items, left) := readAll closed rest
    (.message value :: items, left)
  | .malformed e rest =>
    let (items, left) := readAll closed rest
    (.malformed e :: items, left)
  | .finished => ([.finished], [])
  | .faulty fault => ([.faulty fault], [])
  | .unfinished => ([], bytes)
termination_by bytes.length
decreasing_by
  · exact read_rest_length_lt (congrArg Reading.rest? _h)
  · exact read_rest_length_lt (congrArg Reading.rest? _h)

end DiagnosticBridge.Frame
