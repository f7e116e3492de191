namespace DiagnosticBridge.Utf8

/-!
# UTF-8

Encoding, strict decoding that says where and how the bytes are malformed, lenient decoding that
puts a replacement character where they are, and the order of texts by their bytes.

Decoding is a machine that reads one byte at a time.  Between characters it has no state; inside
a character it holds a `Partial`: how many bytes are still to come, what the next one may be, and
the bits read so far.
-/

/-- The bytes of the text. -/
def encode (text : List Char) : List UInt8 := text.flatMap String.utf8EncodeChar

/-- The bytes of the string. -/
def ofString (s : String) : List UInt8 := encode s.toList

/-- The order of texts by their bytes. -/
def before (a b : String) : Bool := decide (ofString a < ofString b)

/-- A character of which the first bytes have been read. -/
structure Partial where
  /-- How many bytes are still to come, the next one not counted. -/
  more : Nat
  /-- The least value that the next byte may have. -/
  low : UInt8
  /-- The greatest value that the next byte may have. -/
  high : UInt8
  /-- The bits of the code point read so far. -/
  bits : Nat
  /-- How many bytes have been read. -/
  read : Nat

/-- What a byte between two characters begins. -/
inductive Lead where
  /-- A character of one byte. -/
  | whole (c : Char)
  /-- A character of several bytes. -/
  | opens (p : Partial)
  /-- Nothing: no character begins with this byte. -/
  | stray

/-- Reads a byte between two characters. -/
def lead (b : UInt8) : Lead :=
  if b < 0x80 then .whole (Char.ofNat b.toNat)
  else if b < 0xC2 then .stray
  else if b < 0xE0 then .opens ⟨0, 0x80, 0xBF, b.toNat - 0xC0, 1⟩
  else if b = 0xE0 then .opens ⟨1, 0xA0, 0xBF, 0, 1⟩
  else if b = 0xED then .opens ⟨1, 0x80, 0x9F, 0xD, 1⟩
  else if b < 0xF0 then .opens ⟨1, 0x80, 0xBF, b.toNat - 0xE0, 1⟩
  else if b = 0xF0 then .opens ⟨2, 0x90, 0xBF, 0, 1⟩
  else if b < 0xF4 then .opens ⟨2, 0x80, 0xBF, b.toNat - 0xF0, 1⟩
  else if b = 0xF4 then .opens ⟨2, 0x80, 0x8F, 4, 1⟩
  else .stray

/-- What a byte inside a character does. -/
inductive Next where
  /-- It completes the character. -/
  | whole (c : Char)
  /-- It continues the character, which wants more. -/
  | opens (p : Partial)
  /-- It does not belong to the character, which stays unfinished. -/
  | stray

/-- Reads a byte inside a character. -/
def Partial.next (p : Partial) (b : UInt8) : Next :=
  if b < p.low || p.high < b then .stray
  else
    let bits := p.bits * 64 + (b.toNat - 0x80)
    match p.more with
    | 0 => .whole (Char.ofNat bits)
    | more + 1 => .opens ⟨more, 0x80, 0xBF, bits, p.read + 1⟩

/-- Where bytes stop being UTF-8. -/
structure Malformed where
  /-- How many bytes before the fault are sound. -/
  index : Nat
  /-- How many bytes the fault takes, or none if the input ends inside a character. -/
  length : Option Nat
  deriving DecidableEq, Repr

/-- The wording of the fault. -/
def Malformed.message (m : Malformed) : String :=
  match m.length with
  | some n => s!"invalid utf-8 sequence of {n} bytes from index {m.index}"
  | none => s!"incomplete utf-8 byte sequence from index {m.index}"

/-- Decodes from byte `index` on, inside the character `state` if there is one. -/
def decodeFrom (index : Nat) : Option Partial → List UInt8 → Except Malformed (List Char)
  | none, [] => .ok []
  | some p, [] => .error ⟨index - p.read, none⟩
  | none, b :: rest =>
    match lead b with
    | .whole c => (decodeFrom (index + 1) none rest).map (c :: ·)
    | .opens p => decodeFrom (index + 1) (some p) rest
    | .stray => .error ⟨index, some 1⟩
  | some p, b :: rest =>
    match p.next b with
    | .whole c => (decodeFrom (index + 1) none rest).map (c :: ·)
    | .opens q => decodeFrom (index + 1) (some q) rest
    | .stray => .error ⟨index - p.read, some p.read⟩

/-- The text of which these are the bytes, or where they are malformed. -/
def decode (bytes : List UInt8) : Except Malformed (List Char) := decodeFrom 0 none bytes

/-- The character that stands for malformed bytes. -/
def replacement : Char := '\uFFFD'

/-- Decodes leniently: each unfinished character and each stray byte becomes one replacement. -/
def decodeLossyFrom : Option Partial → List UInt8 → List Char
  | none, [] => []
  | some _, [] => [replacement]
  | none, b :: rest =>
    match lead b with
    | .whole c => c :: decodeLossyFrom none rest
    | .opens p => decodeLossyFrom (some p) rest
    | .stray => replacement :: decodeLossyFrom none rest
  | some p, b :: rest =>
    match p.next b with
    | .whole c => c :: decodeLossyFrom none rest
    | .opens q => decodeLossyFrom (some q) rest
    | .stray =>
      replacement ::
        match lead b with
        | .whole c => c :: decodeLossyFrom none rest
        | .opens q => decodeLossyFrom (some q) rest
        | .stray => replacement :: decodeLossyFrom none rest

/-- The text of these bytes, with a replacement character for every malformed part. -/
def decodeLossy (bytes : List UInt8) : List Char := decodeLossyFrom none bytes

example : decode [0x63, 0xE2, 0x8F, 0x8F] = .ok ['c', '⏏'] := rfl
example : decode [0x61, 0xED, 0xA0, 0x80] = .error ⟨1, some 1⟩ := rfl
example : decode [0xF0, 0x9F, 0x98] = .error ⟨0, none⟩ := rfl
example : decodeLossy [0x61, 0xFF, 0xC3, 0x28, 0xF0, 0x9F] =
    ['a', '\uFFFD', '\uFFFD', '(', '\uFFFD'] := by decide

end DiagnosticBridge.Utf8
