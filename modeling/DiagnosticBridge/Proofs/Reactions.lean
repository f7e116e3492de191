import DiagnosticBridge.Proofs.Rechecking
import DiagnosticBridge.Session

namespace DiagnosticBridge.Session

/-!
# What a server does when something happens

Whatever happens in a session, the server does one of a dozen things.  `Reacts` lists them, each
with the state and the messages it leads to and the condition under which it is done; `reacts`
says that there are no others.  What a whole session keeps is proved from this list, so that no
other proof has to look into how frames are decoded and methods are told apart.
-/

open Server (Reaction messages)

/-- The reactions of a server to the things that can happen to it. -/
inductive Reacts (s : Server) : Happening → Reaction → Prop where
  /-- The editor gets an answer, or the session ends; the state stays as it is. -/
  | stays {item : Frame.Item} (responses : List Response) (ending : Option SessionEnd) :
      Reacts s (.received item) ⟨s, responses.map .response, ending⟩
  /-- The session is opened. -/
  | opens {item : Frame.Item} (p : InitializeParams) (response : Response)
      (awaiting : s.lifecycle = .awaiting) :
      Reacts s (.received item) ⟨s.opened p, [.response response], none⟩
  /-- The session is shut down. -/
  | shutsDown {item : Frame.Item} (response : Response) (running : s.lifecycle = .running) :
      Reacts s (.received item)
        ⟨{ s with lifecycle := .shuttingDown }.cancelAll, [.response response], none⟩
  /-- A version of a document is stored and checked. -/
  | stores {item : Frame.Item} (uri : String) (version : Int) (text : String)
      (running : s.lifecycle = .running) :
      Reacts s (.received item)
        ⟨s.store (s.documents.opened uri version text) uri version text, [], none⟩
  /-- A document is closed, and what is shown for it is taken away. -/
  | closes {item : Frame.Item} (uri : String) (running : s.lifecycle = .running) :
      Reacts s (.received item)
        ⟨{ s with flights := s.flights.cancel uri, documents := s.documents.closed uri },
          messages [.publishDiagnostics uri none []], none⟩
  /-- The editor's settings are taken or refused, and all open documents are checked again. -/
  | configures {item : Frame.Item} (value : Json) (running : s.lifecycle = .running) :
      Reacts s (.received item)
        ⟨{ (s.configure value).1 with warned := false }.checkAll, messages (s.configure value).2,
          none⟩
  /-- The trace level is changed. -/
  | traces {item : Frame.Item} (level : TraceLevel) (running : s.lifecycle = .running) :
      Reacts s (.received item) ⟨{ s with trace := level }, [], none⟩
  /-- A run begins. -/
  | begins (generation : Nat) :
      Reacts s (.began generation) ⟨{ s with flights := s.flights.start generation }, [], none⟩
  /-- A run comes to its outcome. -/
  | completes (generation : Nat) (outcome : Outcome) :
      Reacts s (.completed generation outcome)
        ⟨{ s with flights := s.flights.complete generation outcome }, [], none⟩
  /-- No event waits. -/
  | idles (none_waits : s.flights.arrived = []) : Reacts s .handled ⟨s, [], none⟩
  /-- The first event is that of a current run and is reported. -/
  | notices (e : Event) (later : List Event) (waits : s.flights.arrived = e :: later)
      (current : s.flights.current.get? e.uri = some e.generation) :
      Reacts s .handled
        ⟨({ s with flights := s.flights.take e later }.report e).1,
          messages ({ s with flights := s.flights.take e later }.report e).2, none⟩
  /-- The first event is that of a run that is not current and is dropped. -/
  | drops (e : Event) (later : List Event) (waits : s.flights.arrived = e :: later)
      (stale : s.flights.current.get? e.uri ≠ some e.generation) :
      Reacts s .handled ⟨{ s with flights := s.flights.take e later }, [], none⟩

variable {s : Server} {item : Frame.Item}

/-- A request is answered, and may open the session or shut it down. -/
private theorem reacts_answer (id : Json) (method : String) (params : Json) :
    Reacts s (.received item)
      ⟨(s.answer id method params).1, [.response (s.answer id method params).2], none⟩ := by
  unfold Server.answer
  split
  · exact .stays [_] none
  · next hs =>
    split
    · exact .stays [_] none
    · exact .opens _ _ hs
  · exact .stays [_] none
  · exact .stays [_] none
  · next hs => exact .shutsDown _ hs
  · exact .stays [_] none

/-- A notice touches the documents, the settings or the trace level. -/
private theorem reacts_notice (n : Notice) (running : s.lifecycle = .running) :
    Reacts s (.received item) ⟨(s.notice n).1, messages (s.notice n).2, none⟩ := by
  cases n with
  | opened d => exact .stores d.uri d.version d.text running
  | changed c =>
    simp only [Server.notice]
    split
    · exact .stays [] none
    · next text _ =>
      -- A change that is not stale stores the document as opening it would.
      unfold Documents.changed?
      split
      · next hstale =>
        split at hstale
        · exact .stays [] none
        · cases hstale
      · next docs hfresh =>
        split at hfresh
        · cases hfresh
        · rw [← Option.some.inj hfresh]
          exact .stores c.document.uri c.document.version text running
  | closed uri => exact .closes uri running
  | configured value => exact .configures value running
  | traced value =>
    simp only [Server.notice]
    split
    · exact .traces _ running
    · exact .stays [] none

/-- A notification counts only in a running session, and only if it is understood. -/
private theorem reacts_notify (method : String) (params : Json) :
    Reacts s (.received item)
      ⟨(s.notify method params).1, messages (s.notify method params).2, none⟩ := by
  unfold Server.notify
  split
  · next running =>
    split
    · exact reacts_notice _ running
    · exact .stays [] none
  · exact .stays [] none

/-- A message is a request, a notification or a response, or none of them. -/
private theorem reacts_receiveValue (frame : Json) :
    Reacts s (.received item) (s.receiveValue frame) := by
  unfold Server.receiveValue
  split
  · exact reacts_answer _ _ _
  · split
    · exact .stays [] _
    · exact reacts_notify _ _
  · exact .stays [] none
  · split
    · exact .stays [_] none
    · exact .stays [] none

/-- What is read may be no message at all. -/
private theorem reacts_receive : Reacts s (.received item) (s.receive item) := by
  unfold Server.receive
  split
  · exact reacts_receiveValue _
  · exact .stays [_] none
  · exact .stays [] _
  · exact .stays [] _

/-- Nothing happens when no event waits. -/
theorem reaction_handled_of_nil (none_waits : s.flights.arrived = []) :
    reaction s .handled = ⟨s, [], none⟩ := by
  simp [reaction, Server.receiveEvent?, Flights.receive?, none_waits]

/-- The first event that waits is taken, and reported if its run is current. -/
theorem reaction_handled_of_cons {e : Event} {later : List Event}
    (waits : s.flights.arrived = e :: later) :
    reaction s .handled =
      if s.flights.isCurrent e.uri e.generation then
        ⟨({ s with flights := s.flights.take e later }.report e).1,
          messages ({ s with flights := s.flights.take e later }.report e).2, none⟩
      else ⟨{ s with flights := s.flights.take e later }, [], none⟩ := by
  have hcur : ({ s.flights with arrived := later } : Flights).isCurrent e.uri e.generation =
      s.flights.isCurrent e.uri e.generation := rfl
  simp only [reaction, Server.receiveEvent?, Flights.receive?, waits, Option.map_some,
    Option.getD_some, Server.handle, Flights.take, Flights.finish, hcur]
  split <;> rfl

/-- The first event that waits is reported or dropped. -/
private theorem reacts_handled : Reacts s .handled (reaction s .handled) := by
  cases harrived : s.flights.arrived with
  | nil =>
    rw [reaction_handled_of_nil harrived]
    exact .idles harrived
  | cons e later =>
    rw [reaction_handled_of_cons harrived]
    split
    · next hcur => exact .notices e later harrived ((Flights.isCurrent_iff _ _ _).mp hcur)
    · next hcur => exact .drops e later harrived (mt (Flights.isCurrent_iff _ _ _).mpr hcur)

/-- **The list is complete.** Every reaction of a server is one of those listed. -/
theorem reacts (s : Server) (what : Happening) : Reacts s what (reaction s what) := by
  cases what with
  | received item => exact reacts_receive
  | began generation => exact .begins generation
  | completed generation outcome => exact .completes generation outcome
  | handled => exact reacts_handled

end DiagnosticBridge.Session
