import DiagnosticBridge.Frame.Writer
import DiagnosticBridge.Session

namespace DiagnosticBridge

/-!
# Conversations

A session as the editor sees it: bytes come in, in pieces that need not end where a message ends,
and bytes go out.  The channel to the editor may take only so many bytes; the session ends when it
takes no more.
-/

/-- The state of a conversation. -/
structure Conversation where
  /-- The server. -/
  server : Server
  /-- The bytes of a message that is not complete. -/
  pending : List UInt8
  /-- Whether the editor has closed its stream. -/
  closed : Bool
  /-- How many bytes the editor still takes. -/
  room : Frame.Room
  /-- How the session ended, if it did. -/
  ending : Option SessionEnd

/-- What a part of a conversation shows. -/
structure Exchange where
  /-- The messages that were written whole. -/
  messages : List Outgoing
  /-- The bytes that were written. -/
  written : List UInt8
  /-- The runs that had begun and were aborted. -/
  aborted : List Run

namespace Exchange

/-- An exchange of nothing. -/
def empty : Exchange := ⟨[], [], []⟩

/-- One exchange after the other. -/
def append (a b : Exchange) : Exchange :=
  ⟨a.messages ++ b.messages, a.written ++ b.written, a.aborted ++ b.aborted⟩

end Exchange

namespace Conversation

/-- A conversation that begins. -/
def start (server : Server) (room : Frame.Room) : Conversation := ⟨server, [], false, room, none⟩

/-- Writes messages to the editor: those that were written whole, the bytes, the room left, and
    whether all were written. -/
def send (room : Frame.Room) : List Outgoing → List Outgoing × List UInt8 × Frame.Room × Bool
  | [] => ([], [], room, true)
  | message :: more =>
    match Frame.write room (Frame.ofMessage message) with
    | (taken, room, true) =>
      let (sent, written, room, all) := send room more
      (message :: sent, taken ++ written, room, all)
    | (taken, room, false) => ([], taken, room, false)

/-- The runs that had begun before and are gone after. -/
def goneBetween (before after : Flights) : List Run :=
  before.begun.filter fun run => !after.begun.any fun other => other.generation == run.generation

/-- The runs that something aborts; a run that comes to its outcome is not aborted. -/
def abortedBy (what : Happening) (before after : Flights) : List Run :=
  match what with
  | .completed .. => []
  | _ => goneBetween before after

/-- The conversation after something happens, and what that shows.  At the end of the session all
    runs are aborted. -/
def happen (x : Conversation) (what : Happening) : Conversation × Exchange :=
  if x.ending.isSome then (x, .empty)
  else
    let reaction := Session.reaction x.server what
    let (sent, written, room, all) := send x.room reaction.sent
    let ending := if all then reaction.ending else some (.unwritable (.channel .closed))
    let after := if ending.isSome then reaction.server.flights.cancelAll
      else reaction.server.flights
    ({ x with
        server := { reaction.server with flights := after }
        room := room
        ending := ending },
      ⟨sent, written, abortedBy what x.server.flights after⟩)

/-- The conversation after a list of things happen, and what they show. -/
def happenAll (x : Conversation) : List Happening → Conversation × Exchange
  | [] => (x, .empty)
  | what :: more =>
    let (x, first) := x.happen what
    let (x, others) := happenAll x more
    (x, first.append others)

/-- Hands bytes to the reader, and then to the server what the reader gets. -/
def feed (x : Conversation) (bytes : List UInt8) (closes : Bool) : Conversation × Exchange :=
  let closed := x.closed || closes
  let (items, pending) := Frame.readAll closed (x.pending ++ bytes)
  { x with pending := pending, closed := closed }.happenAll (items.map .received)

/-- The conversation with other runs. -/
def withFlights (x : Conversation) (flights : Flights) : Conversation :=
  { x with server := { x.server with flights := flights } }

/-- Handles all events that have arrived. -/
def handleAll (x : Conversation) : Conversation × Exchange :=
  x.happenAll (x.server.flights.arrived.map fun _ => .handled)

end Conversation

end DiagnosticBridge
