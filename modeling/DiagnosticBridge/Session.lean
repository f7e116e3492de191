import DiagnosticBridge.Server

namespace DiagnosticBridge

/-!
# Sessions

A session is what happens to a server from its start to its end: items from the editor, runs that
begin and end, and events that are handled, interleaved in any order.  Nothing happens after the
end.

* `step_of_ended` — an ended session stays as it is.
-/

/-- Something that happens in a session. -/
inductive Happening where
  /-- The reader gets something from the editor. -/
  | received (item : Frame.Item)
  /-- A scheduled run begins. -/
  | began (generation : Nat)
  /-- A run that has begun comes to its outcome. -/
  | completed (generation : Nat) (outcome : Outcome)
  /-- The event that arrived first is handled. -/
  | handled

/-- A session up to some point. -/
structure Session where
  /-- The state of the server. -/
  server : Server
  /-- Everything sent so far, in order. -/
  sent : List Outgoing
  /-- How the session ended, if it did. -/
  ending : Option SessionEnd

namespace Session

/-- A session that begins. -/
def start (server : Server) : Session := ⟨server, [], none⟩

/-- The server's reaction to something that happens. -/
def reaction (s : Server) : Happening → Server.Reaction
  | .received item => s.receive item
  | .began generation => ⟨{ s with flights := s.flights.start generation }, [], none⟩
  | .completed generation outcome =>
    ⟨{ s with flights := s.flights.complete generation outcome }, [], none⟩
  | .handled => s.receiveEvent?.getD ⟨s, [], none⟩

/-- The session after something happens. -/
def step (x : Session) (h : Happening) : Session :=
  match x.ending with
  | some _ => x
  | none =>
    let r := reaction x.server h
    ⟨r.server, x.sent ++ r.sent, r.ending⟩

/-- The session after a sequence of things happen. -/
def run (x : Session) (happenings : List Happening) : Session := happenings.foldl step x

/-- Nothing happens to a session that has ended. -/
theorem step_of_ended {x : Session} (h : x.ending.isSome = true) (what : Happening) :
    x.step what = x := by
  obtain ⟨e, he⟩ := Option.isSome_iff_exists.mp h
  simp [step, he]

/-- A session may be run in parts. -/
theorem run_append (x : Session) (a b : List Happening) : x.run (a ++ b) = (x.run a).run b :=
  List.foldl_append

end Session

end DiagnosticBridge
