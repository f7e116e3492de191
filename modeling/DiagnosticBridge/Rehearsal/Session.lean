import DiagnosticBridge.Conversation
import DiagnosticBridge.Rehearsal.Script

namespace DiagnosticBridge.Rehearsal

/-!
# Rehearsing sessions

A conversation with a scripted compiler.  The bytes of one step are read and handled before any
run that they schedule begins; then everything that can happen happens.  The server receives an
event as soon as it arrives, so that there is always room for the next one.
-/

/-- What one step does. -/
structure SessionStep where
  /-- A gate that is opened first. -/
  release : Option String
  /-- The bytes that the editor sends. -/
  bytes : List UInt8
  /-- Whether the editor closes its stream after them. -/
  closes : Bool

/-- What a step shows. -/
structure SessionReport where
  /-- What the editor sees. -/
  exchange : Exchange
  /-- The runs that began. -/
  began : List Run

namespace SessionReport

/-- A step that shows nothing. -/
def empty : SessionReport := ⟨.empty, []⟩

/-- What two parts of a step show together. -/
def append (a b : SessionReport) : SessionReport :=
  ⟨a.exchange.append b.exchange, a.began ++ b.began⟩

end SessionReport

/-- The state between steps. -/
structure SessionRehearsal where
  /-- The conversation. -/
  conversation : Conversation
  /-- The gates and the turns. -/
  turns : Turns

namespace SessionRehearsal

/-- A session that begins. -/
def start (server : Server) (room : Frame.Room) : SessionRehearsal :=
  ⟨.start server room, .initial⟩

/-- How the session ended, if it did. -/
def ending (r : SessionRehearsal) : Option SessionEnd := r.conversation.ending

/-- The runs. -/
def flights (r : SessionRehearsal) : Flights := r.conversation.server.flights

/-- Lets everything happen that can happen without the editor. -/
def settle (script : Script) (r : SessionRehearsal) : SessionRehearsal × SessionReport :=
  if r.ending.isSome then (r, .empty)
  else
    let (turns, flights, began) := r.turns.takeAll script none r.flights
    let (conversation, exchange) := (r.conversation.withFlights flights).handleAll
    (⟨conversation, turns⟩, ⟨exchange, began⟩)

/-- Opens a gate. -/
def release (script : Script) (r : SessionRehearsal) (gate : String) : SessionRehearsal :=
  { r with turns := r.turns.release script r.flights gate }

/-- Hands bytes to the session. -/
def feed (r : SessionRehearsal) (bytes : List UInt8) (closes : Bool) :
    SessionRehearsal × SessionReport :=
  let (conversation, exchange) := r.conversation.feed bytes closes
  (⟨conversation, r.turns.enrol r.flights conversation.server.flights⟩, ⟨exchange, []⟩)

/-- The state after a step, and what the step shows; none if the session had ended before. -/
def step (script : Script) (r : SessionRehearsal) (s : SessionStep) :
    SessionRehearsal × Option SessionReport :=
  if r.ending.isSome then (r, none)
  else
    let (r, released) := match s.release with
      | some gate => (r.release script gate).settle script
      | none => (r, .empty)
    let (r, fed) := r.feed s.bytes s.closes
    let (r, settled) := r.settle script
    (r, some ((released.append fed).append settled))

/-- The state after the editor closes its stream at the end, and what that shows. -/
def finish (script : Script) (r : SessionRehearsal) : SessionRehearsal × SessionReport :=
  let (r, report) := r.step script ⟨none, [], true⟩
  (r, report.getD .empty)

end SessionRehearsal

end DiagnosticBridge.Rehearsal
