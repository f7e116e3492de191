import DiagnosticBridge.Proofs.Freshness
import DiagnosticBridge.Proofs.Messages

namespace DiagnosticBridge

/-!
# What moves a session on

A session is awaited, then open, then shut down.  Two requests move it on, each in one state only,
and a third message ends it.  Everything else that can happen leaves it where it is.

* `Lifecycle.Moves`, `Session.moves` — what each thing that happens makes of the lifecycle;
* `Lifecycle.Answers`, `Server.answers` — how a request is answered, by the lifecycle it arrives in;
* `Session.ending_reaction_iff` — what makes a server end a session;
* `Session.Blank`, `Session.blank_reaction` — before the session is opened there is nothing in it.
-/

/-- A message has no identifier if that member is missing or `null`. -/
theorem Incoming.no_id_iff {frame : Json} :
    (∀ id, ¬ HasId frame id) ↔ frame.member? "id" = none ∨ frame.member? "id" = some .null := by
  unfold HasId
  cases frame.member? "id" with
  | none => simp
  | some id => simp

namespace Happening

open Incoming (HasId Names paramsOf)

/-- A request arrives. -/
def Requests (what : Happening) (id : Json) (method : String) (params : Json) : Prop :=
  ∃ frame, what = .received (.message frame) ∧ HasId frame id ∧ Names frame method ∧
    params = paramsOf frame

/-- A request to open the session arrives, with parameters that are `null` or decode. -/
def Initializes (what : Happening) : Prop :=
  ∃ id params, what.Requests id "initialize" params ∧
    (params = .null ∨ ∃ p, Params.ofInitialize.decode params = .ok p)

/-- A request to shut the session down arrives. -/
def ShutsDown (what : Happening) : Prop := ∃ id params, what.Requests id "shutdown" params

/-- A notification to exit arrives: it has no id, or one that is `null`. -/
def Exits (what : Happening) : Prop :=
  ∃ frame, what = .received (.message frame) ∧
    (frame.member? "id" = none ∨ frame.member? "id" = some .null) ∧ Names frame "exit"

variable {what : Happening} {id id' params params' : Json} {method method' : String}

/-- A frame is one request at most. -/
theorem Requests.unique (h : what.Requests id method params)
    (h' : what.Requests id' method' params') : id = id' ∧ method = method' ∧ params = params' := by
  obtain ⟨frame, rfl, hid, hmethod, rfl⟩ := h
  obtain ⟨frame', hframe, hid', hmethod', rfl⟩ := h'
  cases hframe
  refine ⟨?_, ?_, rfl⟩
  · exact Option.some.inj (hid.1.symm.trans hid'.1)
  · exact Json.string.inj (Option.some.inj (hmethod.symm.trans hmethod'))

/-- A request opens the session if its method says so and its parameters are of use. -/
theorem Requests.initializes_iff (h : what.Requests id method params) :
    what.Initializes ↔ method = "initialize" ∧
      (params = .null ∨ ∃ p, Params.ofInitialize.decode params = .ok p) := by
  constructor
  · rintro ⟨id', params', h', hparams⟩
    obtain ⟨_, rfl, rfl⟩ := h.unique h'
    exact ⟨rfl, hparams⟩
  · rintro ⟨rfl, hparams⟩
    exact ⟨id, params, h, hparams⟩

/-- A request shuts the session down if its method says so. -/
theorem Requests.shutsDown_iff (h : what.Requests id method params) :
    what.ShutsDown ↔ method = "shutdown" := by
  constructor
  · rintro ⟨id', params', h'⟩
    exact (h.unique h').2.1
  · rintro rfl
    exact ⟨id, params, h⟩

end Happening

/-- How the lifecycle goes on when something happens: only the right request moves it, and only
    forward. -/
inductive Lifecycle.Moves (what : Happening) : Lifecycle → Lifecycle → Prop where
  /-- The session is opened. -/
  | opens (initializes : what.Initializes) : Moves what .awaiting .running
  /-- Nothing else opens it. -/
  | awaits (not_initializes : ¬ what.Initializes) : Moves what .awaiting .awaiting
  /-- The session is shut down. -/
  | shutsDown (shutsDown : what.ShutsDown) : Moves what .running .shuttingDown
  /-- Nothing else shuts it down. -/
  | runs (not_shutsDown : ¬ what.ShutsDown) : Moves what .running .running
  /-- It stays shut down. -/
  | stays : Moves what .shuttingDown .shuttingDown

/-- What is no request leaves the lifecycle as it is. -/
theorem Lifecycle.moves_of_no_request {what : Happening}
    (h : ∀ id method params, ¬ what.Requests id method params) (l : Lifecycle) :
    l.Moves what l := by
  cases l with
  | awaiting => exact .awaits fun ⟨id, params, hrequest, _⟩ => h id _ params hrequest
  | running => exact .runs fun ⟨id, params, hrequest⟩ => h id _ params hrequest
  | shuttingDown => exact .stays

/-- How a request is answered, by the lifecycle it arrives in. -/
inductive Lifecycle.Answers : Lifecycle → String → Json → Answer → Prop where
  /-- The session is opened. -/
  | opened {params : Json}
      (acceptable : params = .null ∨ ∃ p, Params.ofInitialize.decode params = .ok p) :
      Answers .awaiting "initialize" params (.result serverDescription)
  /-- The parameters do not decode. -/
  | undecoded {params : Json} {e : Json.DecodeError} (not_null : params ≠ .null)
      (fault : Params.ofInitialize.decode params = .error e) :
      Answers .awaiting "initialize" params (.failure (-32602) e.message)
  /-- The session has not been opened. -/
  | unopened {method : String} {params : Json} (other : method ≠ "initialize") :
      Answers .awaiting method params (.failure (-32002) "server not initialized")
  /-- The session is open already. -/
  | reopened {params : Json} :
      Answers .running "initialize" params (.failure (-32600) "server already initialized")
  /-- The session is shut down. -/
  | shutDown {params : Json} : Answers .running "shutdown" params (.result .null)
  /-- There is no such method. -/
  | unknown {method : String} {params : Json} (no_opening : method ≠ "initialize")
      (no_shutdown : method ≠ "shutdown") :
      Answers .running method params (.failure (-32601) ("method not found: " ++ method))
  /-- The session has been shut down. -/
  | late {method : String} {params : Json} :
      Answers .shuttingDown method params
        (.failure (-32600) ("server is shutting down; '" ++ method ++ "' refused"))

namespace Server

variable {s : Server} {id params : Json} {method : String} {what : Happening}

/-- Parameters are of use if they are `null` or decoded. -/
theorem openingParams_eq_ok_iff :
    (∃ p, openingParams params = .ok p) ↔
      params = .null ∨ ∃ p, Params.ofInitialize.decode params = .ok p := by
  rw [openingParams]
  split
  · next hnull => exact iff_of_true ⟨_, rfl⟩ (Or.inl (Json.isNull_iff.mp hnull))
  · next hnull => exact (or_iff_right (mt Json.isNull_iff.mpr hnull)).symm

/-- Parameters that are refused are not `null`, and are refused by the decoder. -/
theorem openingParams_eq_error {e : Json.DecodeError} (h : openingParams params = .error e) :
    params ≠ .null ∧ Params.ofInitialize.decode params = .error e := by
  rw [openingParams] at h
  split at h
  · cases h
  · next hnull => exact ⟨mt Json.isNull_iff.mpr hnull, h⟩

/-- **Answers by lifecycle.** A request is answered, under its id, as the lifecycle says that it
    arrives in. -/
theorem answers (s : Server) (id : Json) (method : String) (params : Json) :
    ∃ answer, (s.answer id method params).2 = ⟨id, answer⟩ ∧
      s.lifecycle.Answers method params answer := by
  unfold answer
  split
  · next hl => exact ⟨_, rfl, hl ▸ .late⟩
  · next hl =>
    split
    · next e he =>
      obtain ⟨hnull, hdecode⟩ := openingParams_eq_error he
      exact ⟨_, rfl, hl ▸ .undecoded hnull hdecode⟩
    · next p hp => exact ⟨_, rfl, hl ▸ .opened (openingParams_eq_ok_iff.mp ⟨p, hp⟩)⟩
  · next hl hother => exact ⟨_, rfl, hl ▸ .unopened hother⟩
  · next hl => exact ⟨_, rfl, hl ▸ .reopened⟩
  · next hl => exact ⟨_, rfl, hl ▸ .shutDown⟩
  · next hl hinit hshut => exact ⟨_, rfl, hl ▸ .unknown hinit hshut⟩

/-! ### What moves the lifecycle -/

/-- An answer moves the lifecycle as the request asks for. -/
theorem answer_moves (h : what.Requests id method params) :
    s.lifecycle.Moves what (s.answer id method params).1.lifecycle := by
  unfold answer
  split
  · next hl => exact hl ▸ .stays
  · next hl =>
    split
    · next e he =>
      rw [hl]
      -- Parameters that were refused do not decode, so that this is not the request that opens.
      refine .awaits fun hinit => ?_
      obtain ⟨p, hp⟩ := openingParams_eq_ok_iff.mpr (h.initializes_iff.mp hinit).2
      rw [he] at hp
      cases hp
    · next p hp =>
      rw [hl]
      exact .opens (h.initializes_iff.mpr ⟨rfl, openingParams_eq_ok_iff.mp ⟨p, hp⟩⟩)
  · next hl hother =>
    rw [hl]
    exact .awaits fun hinit => hother (h.initializes_iff.mp hinit).1
  · next hl =>
    rw [hl]
    exact .runs fun hshut => absurd (h.shutsDown_iff.mp hshut) (by decide)
  · next hl =>
    rw [hl]
    exact .shutsDown (h.shutsDown_iff.mpr rfl)
  · next hl _ hother =>
    rw [hl]
    exact .runs fun hshut => hother (h.shutsDown_iff.mp hshut)

/-- A notification does not move it. -/
theorem notify_lifecycle (s : Server) (method : String) (params : Json) :
    (s.notify method params).1.lifecycle = s.lifecycle := by
  unfold notify
  split
  · split
    · next n _ =>
      cases n with
      | opened d => rfl
      | changed c =>
        simp only [notice]
        split
        · rfl
        · split <;> rfl
      | closed uri => rfl
      | configured value =>
        obtain ⟨settings, trace, heq⟩ := s.configure_eq value
        simp only [notice, checkAll_eq, heq]
      | traced value =>
        simp only [notice]
        split <;> rfl
    · rfl
  · rfl

/-- What is received moves the lifecycle as far as it is to be moved. -/
theorem receiveValue_moves (s : Server) (frame : Json) :
    s.lifecycle.Moves (.received (.message frame)) (s.receiveValue frame).server.lifecycle := by
  -- Of all frames only a request can move the lifecycle.
  have hno_id : (∀ id, ¬ Incoming.HasId frame id) → s.lifecycle.Moves (.received (.message frame))
      s.lifecycle := by
    intro hid
    refine Lifecycle.moves_of_no_request ?_ _
    rintro id method params ⟨frame', hframe, hasId, _, _⟩
    cases hframe
    exact hid id hasId
  have hunnamed : (∀ method, ¬ Incoming.Names frame method) →
      s.lifecycle.Moves (.received (.message frame)) s.lifecycle := by
    intro hmethod
    refine Lifecycle.moves_of_no_request ?_ _
    rintro id method params ⟨frame', hframe, _, names, _⟩
    cases hframe
    exact hmethod method names
  have hr := s.receives frame
  generalize s.receiveValue frame = reaction at hr
  cases hr with
  | answers hasId names => exact answer_moves ⟨frame, rfl, hasId, names, rfl⟩
  | refuses _ unnamed => exact hunnamed unnamed
  | skips _ unnamed => exact hunnamed unnamed
  | exits no_id => exact hno_id no_id
  | notices no_id =>
    rw [notify_lifecycle]
    exact hno_id no_id
  | ignores no_id => exact hno_id no_id

/-- A session is awaited when it begins. -/
theorem awaiting_of_base {base : Layer} (h : ofBase base = .ok s) : s.lifecycle = .awaiting := by
  unfold ofBase at h
  cases hres : base.resolve with
  | error e => rw [hres] at h; cases h
  | ok settings =>
    rw [hres] at h
    cases h
    rfl

end Server

namespace Session

variable {s : Server} {what : Happening} {reaction' : Server.Reaction} {e : SessionEnd}

/-- What is not received leaves the lifecycle as it is. -/
theorem Reacts.lifecycle (hr : Reacts s what reaction') (h : ∀ item, what ≠ .received item) :
    reaction'.server.lifecycle = s.lifecycle := by
  cases hr with
  | begins => rfl
  | completes => rfl
  | idles => rfl
  | notices event later =>
    obtain ⟨warned, heq⟩ :=
      ({ s with flights := s.flights.take event later } : Server).report_eq event
    rw [heq]
  | drops => rfl
  | _ => exact absurd rfl (h _)

/-- **Lifecycles move forward.** Whatever happens moves the lifecycle as listed. -/
theorem moves (s : Server) (what : Happening) :
    s.lifecycle.Moves what (reaction s what).server.lifecycle := by
  by_cases hitem : ∃ item, what = .received item
  · obtain ⟨item, rfl⟩ := hitem
    cases item with
    | message frame => exact s.receiveValue_moves frame
    | _ =>
      refine Lifecycle.moves_of_no_request ?_ _
      rintro id method params ⟨frame, hframe, _⟩
      cases hframe
  · rw [(reacts s what).lifecycle fun item heq => hitem ⟨item, heq⟩]
    refine Lifecycle.moves_of_no_request ?_ _
    rintro id method params ⟨frame, hframe, _⟩
    exact hitem ⟨_, hframe⟩

/-! ### What a server sends and when it ends a session -/

/-- A request makes the server send its answer and nothing else. -/
theorem sent_of_requests {id params : Json} {method : String} (h : what.Requests id method params) :
    (reaction s what).sent = [.response (s.answer id method params).2] := by
  obtain ⟨frame, rfl, hasId, names, rfl⟩ := h
  show (s.receiveValue frame).sent = _
  rw [s.receiveValue_of_request hasId names]

/-- How a server ends a session when something happens. -/
inductive Closes (s : Server) : Happening → SessionEnd → Prop where
  /-- The editor says that it exits. -/
  | exits {what : Happening} (exits : what.Exits) :
      Closes s what (.exited (s.lifecycle = .shuttingDown))
  /-- The editor has closed the stream. -/
  | finishes : Closes s (.received .finished) .disconnected
  /-- The stream is faulty. -/
  | fails (fault : Frame.Fault) : Closes s (.received (.faulty fault)) (.unreadable fault)

/-- The session ends at once, well only if it has been shut down. -/
theorem reaction_of_exits (h : what.Exits) :
    reaction s what = ⟨s, [], some (.exited (s.lifecycle = .shuttingDown))⟩ := by
  obtain ⟨frame, rfl, hid, names⟩ := h
  exact s.receiveValue_of_exit (Incoming.no_id_iff.mpr hid) names

/-- A server ends a session as listed, and no other way. -/
theorem ending_reaction_iff : (reaction s what).ending = some e ↔ Closes s what e := by
  constructor
  · intro h
    -- Only three of the things that can be received end a session, and nothing else does.
    cases what with
    | received item =>
      cases item with
      | message frame =>
        have h : (s.receiveValue frame).ending = some e := h
        have hr := s.receives frame
        generalize s.receiveValue frame = reaction at hr h
        cases hr with
        | exits no_id names =>
          rw [← Option.some.inj h]
          exact .exits ⟨frame, rfl, Incoming.no_id_iff.mp no_id, names⟩
        | _ => cases h
      | malformed => cases h
      | finished =>
        rw [← Option.some.inj h]
        exact .finishes
      | faulty fault =>
        rw [← Option.some.inj h]
        exact .fails fault
    | began => cases h
    | completed => cases h
    | handled =>
      have hr := reacts s .handled
      generalize reaction s .handled = r at hr h
      cases hr <;> cases h
  · intro h
    cases h with
    | exits exits => rw [reaction_of_exits exits]
    | finishes => rfl
    | fails fault => rfl

/-- Nothing is sent when a session is ended. -/
theorem sent_of_closes (h : Closes s what e) : (reaction s what).sent = [] := by
  cases h with
  | exits exits => rw [reaction_of_exits exits]
  | finishes => rfl
  | fails fault => rfl

/-! ### Before the session is opened -/

/-- There are no runs, events and documents before the session is opened. -/
def Blank (s : Server) : Prop :=
  s.lifecycle = .awaiting → s.flights = .empty ∧ s.documents = .empty

/-- A session that is awaited was so before. -/
theorem awaiting_of_reaction (h : (reaction s what).server.lifecycle = .awaiting) :
    s.lifecycle = .awaiting := by
  have hmoves := moves s what
  rw [h] at hmoves
  generalize s.lifecycle = l at hmoves
  cases hmoves
  rfl

/-- **Nothing before the session is opened.** Every reaction keeps this. -/
theorem blank_reaction (h : Blank s) (what : Happening) : Blank (reaction s what).server := by
  intro awaiting
  have hbefore := awaiting_of_reaction awaiting
  obtain ⟨hflights, hdocuments⟩ := h hbefore
  have hnot_running : s.lifecycle ≠ .running := hbefore ▸ Lifecycle.noConfusion
  have hr := reacts s what
  generalize reaction s what = r at hr awaiting
  cases hr with
  | stays => exact ⟨hflights, hdocuments⟩
  | opens p =>
    obtain ⟨settings, trace, heq⟩ := s.opened_eq p
    have awaiting : (s.opened p).lifecycle = .awaiting := awaiting
    rw [heq] at awaiting
    cases awaiting
  | shutsDown _ running => exact absurd running hnot_running
  | stores _ _ _ running => exact absurd running hnot_running
  | closes _ running => exact absurd running hnot_running
  | configures _ running => exact absurd running hnot_running
  | traces _ running => exact absurd running hnot_running
  -- There is no run that could begin or end, and no event.
  | begins => exact ⟨by rw [hflights]; rfl, hdocuments⟩
  | completes => exact ⟨by rw [hflights]; rfl, hdocuments⟩
  | idles => exact ⟨hflights, hdocuments⟩
  | notices _ _ waits =>
    rw [hflights] at waits
    cases waits
  | drops _ _ waits =>
    rw [hflights] at waits
    cases waits

end Session

end DiagnosticBridge
