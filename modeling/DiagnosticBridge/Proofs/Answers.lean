import DiagnosticBridge.Proofs.History
import DiagnosticBridge.Proofs.Messages
import Mathlib.Data.List.Forall2

namespace DiagnosticBridge

/-!
# Every request is answered once

The server answers what the editor sends as it comes in, so that the responses stand in the order
of the requests.

* `Owed` — the responses that one item from the editor calls for;
* `Session.owed_reaction` — in whatever state it is, the server sends just these for an item;
* `Session.responses_reaction_of_unasked` — nothing else makes it respond;
* `Session.answered_in_order` — so a session's responses are those that its items call for.
-/

open Incoming (HasId Names HasOutcome)

/-- The responses that something from the editor calls for: one with its id for a request, a
    refusal for a frame that is no message and for a body that is no JSON, and none for anything
    else. -/
inductive Owed : Frame.Item → List Response → Prop where
  /-- A body that is no JSON. -/
  | malformed (e : Json.SyntaxError) (message : String) :
      Owed (.malformed e) [⟨.null, .failure (-32700) message⟩]
  /-- A request. -/
  | request {frame id : Json} {method : String} (hasId : HasId frame id)
      (names : Names frame method) (answer : Answer) : Owed (.message frame) [⟨id, answer⟩]
  /-- A frame with an id that is no message. -/
  | invalid {frame id : Json} (hasId : HasId frame id) (unnamed : ∀ method, ¬ Names frame method)
      (no_outcome : ¬ HasOutcome frame) (message : String) :
      Owed (.message frame) [⟨id, .failure (-32600) message⟩]
  /-- A response from the editor. -/
  | outcome {frame id : Json} (hasId : HasId frame id) (unnamed : ∀ method, ¬ Names frame method)
      (outcome : HasOutcome frame) : Owed (.message frame) []
  /-- A notification, or a frame that is no message and has no id. -/
  | noId {frame : Json} (no_id : ∀ id, ¬ HasId frame id) : Owed (.message frame) []
  /-- The end of the stream. -/
  | finished : Owed .finished []
  /-- A fault of the stream. -/
  | faulty (fault : Frame.Fault) : Owed (.faulty fault) []

namespace Session

open Server (messages exitMethod)

/-- A message that is a response. -/
def response? : Outgoing → Option Response
  | .response r => some r
  | .notification _ => none

/-- The responses among some messages, in order. -/
def responses (sent : List Outgoing) : List Response := sent.filterMap response?

theorem responses_append (a b : List Outgoing) :
    responses (a ++ b) = responses a ++ responses b :=
  List.filterMap_append

/-- Notifications are no responses. -/
theorem responses_messages (notifications : List Notification) :
    responses (messages notifications) = [] := by
  rw [responses, messages, List.filterMap_map]
  exact List.filterMap_eq_nil_iff.mpr fun _ _ => rfl

variable {x : Session} {past : List Happening} {what : Happening} {frame id : Json}
  {method : String}

/-! ### What one thing makes the server respond -/

/-- A request makes the server send one response and nothing else. -/
theorem sent_of_request (s : Server) (hid : HasId frame id) (hmethod : Names frame method) :
    ∃ answer, (s.receiveValue frame).sent = [.response ⟨id, answer⟩] := by
  have hanswer := s.answer_id id method (Incoming.paramsOf frame)
  rw [s.receiveValue_of_request hid hmethod]
  generalize (s.answer id method (Incoming.paramsOf frame)).2 = response at hanswer
  obtain ⟨id', answer⟩ := response
  exact ⟨answer, by rw [← hanswer]⟩

/-- A frame without an id makes the server send no response. -/
theorem responses_of_no_id (s : Server) (hid : ∀ id, ¬ HasId frame id) :
    responses (s.receiveValue frame).sent = [] := by
  have hr := s.receives frame
  generalize s.receiveValue frame = reaction at hr
  -- Without an id there is neither a request nor anything to refuse.
  cases hr with
  | answers hasId => exact absurd hasId (hid _)
  | refuses hasId => exact absurd hasId (hid _)
  | skips hasId => exact absurd hasId (hid _)
  | exits => rfl
  | notices => exact responses_messages _
  | ignores => rfl

/-- What a JSON value is owed, it gets. -/
theorem owed_receiveValue (s : Server) (frame : Json) :
    Owed (.message frame) (responses (s.receiveValue frame).sent) := by
  have hr := s.receives frame
  generalize hreaction : s.receiveValue frame = reaction at hr
  cases hr with
  | answers hasId names =>
    obtain ⟨answer, hsent⟩ := sent_of_request s hasId names
    rw [← hreaction, hsent]
    exact .request hasId names answer
  | refuses hasId unnamed no_outcome => exact .invalid hasId unnamed no_outcome _
  | skips hasId unnamed outcome => exact .outcome hasId unnamed outcome
  | exits no_id => exact .noId no_id
  | notices no_id =>
    rw [responses_messages]
    exact .noId no_id
  | ignores no_id => exact .noId no_id

/-- **An item gets what it calls for**, whatever the state of the server. -/
theorem owed_reaction (s : Server) (item : Frame.Item) :
    Owed item (responses (reaction s (.received item)).sent) := by
  -- Only a message needs the server; what the others call for does not depend on it.
  cases item with
  | message frame => exact owed_receiveValue s frame
  | malformed e => exact .malformed e _
  | finished => exact .finished
  | faulty fault => exact .faulty fault

/-- Runs and their events make the server send no response. -/
theorem responses_reaction_of_unasked (s : Server) (h : ∀ item, what ≠ .received item) :
    responses (reaction s what).sent = [] := by
  have hr := reacts s what
  generalize reaction s what = r at hr
  cases hr with
  | begins => rfl
  | completes => rfl
  | idles => rfl
  | notices => exact responses_messages _
  | drops => rfl
  | _ => exact absurd rfl (h _)

/-! ### Whole sessions -/

/-- What the editor sends to a session that has not ended. -/
def receivedNow (x : Session) (what : Happening) : List Frame.Item :=
  match x.ending, what with
  | none, .received item => [item]
  | _, _ => []

/-- Everything that the editor sends in a session up to its end, in order. -/
def received (x : Session) : List Happening → List Frame.Item
  | [] => []
  | what :: later => x.receivedNow what ++ received (x.step what) later

theorem received_concat (x : Session) (past : List Happening) (what : Happening) :
    x.received (past ++ [what]) = x.received past ++ (x.run past).receivedNow what := by
  induction past generalizing x with
  | nil => simp [received, run]
  | cons h past ih =>
    rw [List.cons_append, received, received, ih, List.append_assoc]
    rfl

/-- The responses of one more step are those that the item received in it calls for. -/
theorem owed_step (x : Session) (what : Happening) :
    ∃ answers, List.Forall₂ Owed (x.receivedNow what) answers ∧
      responses (x.step what).sent = responses x.sent ++ answers.flatten := by
  cases hend : x.ending with
  | some ending =>
    refine ⟨[], by simp [receivedNow, hend], ?_⟩
    rw [step_of_ended (Option.isSome_iff_exists.mpr ⟨ending, hend⟩)]
    simp
  | none =>
    have hsent : (x.step what).sent = x.sent ++ (reaction x.server what).sent := by
      simp only [step, hend]
    rw [hsent, responses_append]
    -- At most one item is received in a step, so there is at most one list of responses.
    cases what with
    | received item =>
      refine ⟨[_], ?_, by rw [List.flatten_singleton]⟩
      simpa [receivedNow, hend] using owed_reaction x.server item
    | began generation => exact ⟨[], by simp [receivedNow, hend], rfl⟩
    | completed generation outcome => exact ⟨[], by simp [receivedNow, hend], rfl⟩
    | handled =>
      refine ⟨[], by simp [receivedNow, hend], ?_⟩
      rw [responses_reaction_of_unasked x.server fun _ => Happening.noConfusion]
      rfl

/-- **Every request is answered once, in order.** The responses of a session are those that the
    items from the editor call for, item by item and in their order, up to the end of the session
    and whatever else happens in between.  A request makes the server send its one response and
    nothing else; an event, the beginning or the end of a run, and a notification make it send no
    response. -/
theorem answered_in_order (server : Server) (past : List Happening) :
    (∃ answers, List.Forall₂ Owed ((start server).received past) answers ∧
      responses ((start server).run past).sent = answers.flatten) ∧
    ∀ s : Server,
      (∀ frame id method, HasId frame id → Names frame method →
        ∃ answer, (reaction s (.received (.message frame))).sent = [.response ⟨id, answer⟩]) ∧
      (∀ what, (∀ item, what ≠ .received item) → responses (reaction s what).sent = []) ∧
      (∀ frame method, (∀ id, ¬ HasId frame id) → Names frame method →
        responses (reaction s (.received (.message frame))).sent = []) := by
  refine ⟨?_, fun s => ⟨fun frame id method hid hmethod => sent_of_request s hid hmethod,
    fun what h => responses_reaction_of_unasked s h,
    fun frame method hid _ => responses_of_no_id s hid⟩⟩
  -- The last step adds its responses behind those of all earlier items.
  induction past using List.reverseRecOn with
  | nil => exact ⟨[], .nil, rfl⟩
  | append_singleton past what ih =>
    obtain ⟨answers, howed, hall⟩ := ih
    obtain ⟨more, hmore, hnow⟩ := owed_step ((start server).run past) what
    refine ⟨answers ++ more, ?_, ?_⟩
    · rw [received_concat]
      exact List.rel_append howed hmore
    · rw [run_concat, hnow, hall, List.flatten_append]

end Session

end DiagnosticBridge
