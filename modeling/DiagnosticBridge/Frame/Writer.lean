import DiagnosticBridge.Frame.Reader
import DiagnosticBridge.Protocol.Outgoing

namespace DiagnosticBridge.Frame

/-!
# Writing framed messages

A message is written as its length in bytes, a blank line and the bytes of its text.  The channel
may stop taking bytes at any point; what it took until then stays written.
-/

/-- The header lines before a body of a given length, and the blank line after them. -/
def header (length : Nat) : List UInt8 :=
  Utf8.encode ("Content-Length: ".toList ++ Nat.toDigits 10 length ++ ['\r', '\n', '\r', '\n'])

/-- A framed body. -/
def frame (body : List UInt8) : List UInt8 := header body.length ++ body

/-- The framed text of a value. -/
def ofValue (v : Json) : List UInt8 := frame (Utf8.encode v.text)

/-- The framed text of a message. -/
def ofMessage (m : Outgoing) : List UInt8 := frame (Utf8.encode m.text)

/-- How many bytes a channel still takes; no number means any number. -/
abbrev Room := Option Nat

/-- Writes bytes to a channel: the bytes that it took, the room left, and whether it took all. -/
def write (room : Room) (bytes : List UInt8) : List UInt8 × Room × Bool :=
  match room with
  | none => (bytes, none, true)
  | some n => (bytes.take n, some (n - bytes.length), bytes.length ≤ n)

/-- Writes frames one after the other, up to the first that the channel does not take whole: the
    bytes written, the room left, and the fault if there is one. -/
def writeAll (room : Room) : List (List UInt8) → List UInt8 × Room × Option Fault
  | [] => ([], room, none)
  | bytes :: more =>
    match write room bytes with
    | (taken, room, true) =>
      let (written, room, fault) := writeAll room more
      (taken ++ written, room, fault)
    | (taken, room, false) => (taken, room, some (.channel .closed))

end DiagnosticBridge.Frame
