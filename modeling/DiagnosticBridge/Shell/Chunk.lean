import DiagnosticBridge.Shell.Text

namespace DiagnosticBridge.Shell

/-!
# What processes write, and when

Time is counted in nanoseconds from the start of a run, and every process has a clock of its own.
What processes write is kept in chunks.

* `insertLast` — chunks are kept in the order of time, whichever process is looked at first; of two
  that are written at one time the one that is added later comes later.
* `dropChars` — taking characters from the front also tells when the last of them was written.
-/

/-! ### Time -/

/-- A second. -/
def oneSecond : Nat := 1000000000

/-- How long it takes until a new process does something. -/
def forkTime : Nat := 500000

/-- How long it takes until a program has been loaded. -/
def loadTime : Nat := 1000000

/-- How long it takes until a process notices that its child has ended. -/
def noticeTime : Nat := 600000

/-- How long it takes to get to a command. -/
def commandTime : Nat := 200

/-- How long a run may take. -/
def timeLimit : Nat := 30 * oneSecond

/-! ### Chunks -/

/-- Something that was written. -/
structure Chunk where
  /-- When it was written. -/
  time : Nat
  /-- The number of the process that wrote it, and those of its ancestors. -/
  writers : List Nat
  /-- The text. -/
  text : Text

namespace Chunk

/-- Adds a chunk to chunks of which the earliest comes first. -/
def insertLast (chunk : Chunk) : List Chunk → List Chunk
  | [] => [chunk]
  | first :: rest =>
    if chunk.time < first.time then chunk :: first :: rest else first :: insertLast chunk rest

/-- Adds a chunk to chunks of which the latest comes first. -/
def insertFirst (chunk : Chunk) : List Chunk → List Chunk
  | [] => [chunk]
  | first :: rest =>
    if chunk.time < first.time then first :: insertFirst chunk rest else chunk :: first :: rest

/-- The text of chunks. -/
def textOf : List Chunk → Text
  | [] => []
  | [chunk] => chunk.text
  | chunks => chunks.flatMap (·.text)

/-- The chunks after so many characters, and when the last of these was written; without any it is
    the given time. -/
def dropChars (time count : Nat) : List Chunk → Nat × List Chunk
  | [] => (time, [])
  | chunk :: rest =>
    if count = 0 then (time, chunk :: rest)
    else
      match chunk.text.drop count with
      | [] => dropChars chunk.time (count - chunk.text.length) rest
      | left => (chunk.time, { chunk with text := left } :: rest)

end Chunk

end DiagnosticBridge.Shell
