import DiagnosticBridge.Proofs.Lifecycle
import DiagnosticBridge.Proofs.Silence

namespace DiagnosticBridge

/-!
# Refused frames change nothing

A frame that the server refuses, or that it can make no use of, must not leave a trace: no version
that is stored before the text is found missing, no run that is aborted before a change is found to
be stale, no session that is opened by halves.

* `Notice.ofMethod?_eq_none_iff` — which notifications are not understood;
* `Server.Unusable` — the frames that are refused or of no use, by what they say;
* `Server.receiveValue_of_unusable` — they leave the server as it is, and nothing but a response is
  sent;
* `Server.unusable_or_acts` — every other frame does one of the things that a server can do.
-/

/-! ### Notifications that are not understood -/

namespace Notice

/-- The methods of the notifications that mean something. -/
def methods : List String :=
  ["textDocument/didOpen", "textDocument/didChange", "textDocument/didClose",
    "workspace/didChangeConfiguration", "$/setTrace"]

/-- The parameters of a notification do not decode as its method wants them. -/
inductive Undecodable : String → Json → Prop where
  | opened {params : Json} {e : Json.DecodeError}
      (fault : Params.ofDidOpen.decode params = .error e) :
      Undecodable "textDocument/didOpen" params
  | changed {params : Json} {e : Json.DecodeError}
      (fault : Params.ofDidChange.decode params = .error e) :
      Undecodable "textDocument/didChange" params
  | closed {params : Json} {e : Json.DecodeError}
      (fault : Params.ofDidClose.decode params = .error e) :
      Undecodable "textDocument/didClose" params
  | configured {params : Json} {e : Json.DecodeError}
      (fault : Params.ofDidChangeConfiguration.decode params = .error e) :
      Undecodable "workspace/didChangeConfiguration" params
  | traced {params : Json} {e : Json.DecodeError}
      (fault : Params.ofSetTrace.decode params = .error e) : Undecodable "$/setTrace" params

variable {method : String} {params : Json} {α : Type} {f : α → Notice}
  {decoded : Except Json.DecodeError α}

/-- Parameters are at fault only for the methods that are known. -/
theorem Undecodable.mem_methods (h : Undecodable method params) : method ∈ methods := by
  cases h <;> simp [methods]

theorem exitMethod_not_mem : Server.exitMethod ∉ methods := by decide

/-- A notice is lost exactly with its parameters. -/
theorem ofDecoded_eq_none_iff : ofDecoded f decoded = none ↔ ∃ e, decoded = .error e := by
  cases decoded with
  | ok a => exact iff_of_false (fun h => nomatch h) (fun ⟨_, h⟩ => nomatch h)
  | error e => exact iff_of_true rfl ⟨e, rfl⟩

/-- Parameters at fault make no notice. -/
theorem ofMethod?_of_undecodable (h : Undecodable method params) :
    ofMethod? method params = none := by
  cases h with
  | opened fault => exact ofDecoded_eq_none_iff.mpr ⟨_, fault⟩
  | changed fault => exact ofDecoded_eq_none_iff.mpr ⟨_, fault⟩
  | closed fault => exact ofDecoded_eq_none_iff.mpr ⟨_, fault⟩
  | configured fault => exact ofDecoded_eq_none_iff.mpr ⟨_, fault⟩
  | traced fault => exact ofDecoded_eq_none_iff.mpr ⟨_, fault⟩

/-- A notification is not understood if its method is none of those that mean something, or its
    parameters do not decode. -/
theorem ofMethod?_eq_none_iff :
    ofMethod? method params = none ↔ method ∉ methods ∨ Undecodable method params := by
  refine ⟨fun h => ?_, fun h => h.elim (fun hmethod => ?_) ofMethod?_of_undecodable⟩
  · unfold ofMethod? at h
    split at h
    · exact Or.inr (.opened (ofDecoded_eq_none_iff.mp h).choose_spec)
    · exact Or.inr (.changed (ofDecoded_eq_none_iff.mp h).choose_spec)
    · exact Or.inr (.closed (ofDecoded_eq_none_iff.mp h).choose_spec)
    · exact Or.inr (.configured (ofDecoded_eq_none_iff.mp h).choose_spec)
    · exact Or.inr (.traced (ofDecoded_eq_none_iff.mp h).choose_spec)
    · refine Or.inl ?_
      simp only [methods, List.mem_cons, List.not_mem_nil, not_or, or_false]
      exact ⟨‹_›, ‹_›, ‹_›, ‹_›, ‹_›⟩
  · simp only [methods, List.mem_cons, List.not_mem_nil, not_or, or_false] at hmethod
    -- Every branch but the last one is about a method that is known.
    obtain ⟨h1, h2, h3, h4, h5⟩ := hmethod
    unfold ofMethod?
    split <;> first | rfl | contradiction

end Notice

/-- The requests that are accepted: one to open the session, with parameters that are `null` or
    decode, while the session is awaited, and one to shut it down while it runs. -/
inductive Lifecycle.Accepts : Lifecycle → String → Json → Prop where
  /-- The session is opened. -/
  | opens {params : Json}
      (acceptable : params = .null ∨ ∃ p, Params.ofInitialize.decode params = .ok p) :
      Accepts .awaiting "initialize" params
  /-- The session is shut down. -/
  | shutsDown {params : Json} : Accepts .running "shutdown" params

namespace Server

open Incoming

variable {s : Server} {frame id params : Json} {method : String}

/-- The frame is refused, or the server can make no use of it. -/
inductive Unusable (s : Server) (frame : Json) : Prop where
  /-- A request that is not accepted. -/
  | request {id : Json} {method : String} (hasId : HasId frame id) (names : Names frame method)
      (refused : ¬ s.lifecycle.Accepts method (paramsOf frame))
  /-- A response from the editor. -/
  | response {id : Json} (hasId : HasId frame id) (unnamed : ∀ method, ¬ Names frame method)
      (outcome : HasOutcome frame)
  /-- A value that is no message. -/
  | unclassified (unnamed : ∀ method, ¬ Names frame method)
      (incomplete : (∀ id, ¬ HasId frame id) ∨ ¬ HasOutcome frame)
  /-- A notification, other than that the editor exits, while the session does not run. -/
  | untimely {method : String} (no_id : ∀ id, ¬ HasId frame id) (names : Names frame method)
      (not_exit : method ≠ exitMethod) (not_running : s.lifecycle ≠ .running)
  /-- A notification whose method is not known. -/
  | unknown {method : String} (no_id : ∀ id, ¬ HasId frame id) (names : Names frame method)
      (not_exit : method ≠ exitMethod) (unknown : method ∉ Notice.methods)
  /-- A notification whose parameters do not decode. -/
  | undecodable {method : String} (no_id : ∀ id, ¬ HasId frame id) (names : Names frame method)
      (undecodable : Notice.Undecodable method (paramsOf frame))
  /-- A change that brings no text. -/
  | textless {c : DidChangeParams} (notifies : Notifies frame (.changed c)) (no_text : c.texts = [])
  /-- A change to a version below the one that is stored. -/
  | stale {c : DidChangeParams} {doc : Document} (notifies : Notifies frame (.changed c))
      (stored : s.documents.get? c.document.uri = some doc)
      (older : c.document.version < doc.version)
  /-- A trace level that is not known. -/
  | untraceable {value : String} (notifies : Notifies frame (.traced value))
      (unknown : TraceLevel.ofText? value = none)

/-! ### What is refused -/

/-- A request that is not accepted changes nothing. -/
theorem answer_of_refused (h : ¬ s.lifecycle.Accepts method params) :
    (s.answer id method params).1 = s := by
  -- The two requests that are accepted are at odds with the hypothesis; the others are errors.
  unfold answer
  split
  · rfl
  · next awaiting =>
    split
    · rfl
    · next p hp =>
      rw [awaiting] at h
      exact absurd (.opens (openingParams_eq_ok_iff.mp ⟨p, hp⟩)) h
  · rfl
  · rfl
  · next running =>
    rw [running] at h
    exact absurd .shutsDown h
  · rfl

/-- A notification that is not understood changes nothing. -/
theorem notify_of_not_understood (h : Notice.ofMethod? method params = none) :
    s.notify method params = (s, []) := by
  rw [notify, h]
  exact ite_self _

/-- Nor does any notification outside of a running session. -/
theorem notify_of_not_running (h : s.lifecycle ≠ .running) : s.notify method params = (s, []) :=
  if_neg h

/-- A notice that the server does nothing about leaves it as it is at any time. -/
theorem receiveValue_of_notice_eq {n : Notice} (h : Notifies frame n)
    (hnotice : s.notice n = (s, [])) : s.receiveValue frame = ⟨s, [], none⟩ := by
  rw [s.receiveValue_of_notifies h, hnotice]
  exact ite_self _

/-- Nor does a change without a text. -/
theorem notice_of_textless {c : DidChangeParams} (h : c.texts = []) :
    s.notice (.changed c) = (s, []) := by
  have htext : c.text? = none := by rw [DidChangeParams.text?, h, List.getLast?_nil]
  simp only [notice, htext]

/-- Nor does a change that is older than what is stored. -/
theorem notice_of_stale {c : DidChangeParams} {doc : Document}
    (stored : s.documents.get? c.document.uri = some doc)
    (older : c.document.version < doc.version) : s.notice (.changed c) = (s, []) := by
  have hstale := Documents.isStale_iff.mpr ⟨doc, stored, older⟩
  simp only [notice, Documents.changed?, hstale, if_true]
  split <;> rfl

/-- **What is refused leaves no trace.** A frame that is refused or of no use leaves the server as
    it is, does not end the session, and makes the server send one response at most and nothing
    else. -/
theorem receiveValue_of_unusable (h : s.Unusable frame) :
    (s.receiveValue frame).server = s ∧ (s.receiveValue frame).ending = none ∧
      ∃ response : Option Response,
        (s.receiveValue frame).sent = response.toList.map .response := by
  -- Only requests and frames that are no messages are answered; all else is passed over.
  cases h with
  | request hasId names refused =>
    rw [s.receiveValue_of_request hasId names]
    exact ⟨answer_of_refused refused, rfl, some _, rfl⟩
  | response hasId unnamed outcome =>
    rw [s.receiveValue_of_outcome hasId unnamed outcome]
    exact ⟨rfl, rfl, none, rfl⟩
  | unclassified unnamed incomplete =>
    by_cases hid : ∃ id, HasId frame id
    · obtain ⟨id, hid⟩ := hid
      have houtcome := incomplete.resolve_left fun hno => hno id hid
      rw [s.receiveValue_of_invalid hid unnamed houtcome]
      exact ⟨rfl, rfl, some _, rfl⟩
    · rw [s.receiveValue_of_nothing (not_exists.mp hid) unnamed]
      exact ⟨rfl, rfl, none, rfl⟩
  | untimely no_id names not_exit not_running =>
    rw [s.receiveValue_of_notification no_id names not_exit, notify_of_not_running not_running]
    exact ⟨rfl, rfl, none, rfl⟩
  | unknown no_id names not_exit unknown =>
    rw [s.receiveValue_of_notification no_id names not_exit,
      notify_of_not_understood (Notice.ofMethod?_eq_none_iff.mpr (Or.inl unknown))]
    exact ⟨rfl, rfl, none, rfl⟩
  | undecodable no_id names undecodable =>
    have not_exit := ne_of_mem_of_not_mem undecodable.mem_methods Notice.exitMethod_not_mem
    rw [s.receiveValue_of_notification no_id names not_exit,
      notify_of_not_understood (Notice.ofMethod?_of_undecodable undecodable)]
    exact ⟨rfl, rfl, none, rfl⟩
  | textless notifies no_text =>
    rw [receiveValue_of_notice_eq notifies (notice_of_textless no_text)]
    exact ⟨rfl, rfl, none, rfl⟩
  | stale notifies stored older =>
    rw [receiveValue_of_notice_eq notifies (notice_of_stale stored older)]
    exact ⟨rfl, rfl, none, rfl⟩
  | @untraceable value notifies unknown =>
    have hnotice : s.notice (.traced value) = (s, []) := by simp only [notice, unknown]
    rw [receiveValue_of_notice_eq notifies hnotice]
    exact ⟨rfl, rfl, none, rfl⟩

/-! ### What is not refused -/

/-- What a server does about a frame that it does not refuse. -/
inductive Acts (s : Server) : Reaction → Prop where
  /-- The session ends. -/
  | exits (afterShutdown : Bool) : Acts s ⟨s, [], some (.exited afterShutdown)⟩
  /-- The session is opened. -/
  | opens (p : InitializeParams) (response : Response) (awaiting : s.lifecycle = .awaiting) :
      Acts s ⟨s.opened p, [.response response], none⟩
  /-- The session is shut down. -/
  | shutsDown (response : Response) (running : s.lifecycle = .running) :
      Acts s ⟨{ s with lifecycle := .shuttingDown }.cancelAll, [.response response], none⟩
  /-- A version of a document is stored and checked. -/
  | stores (uri : String) (version : Int) (text : String) (running : s.lifecycle = .running) :
      Acts s ⟨s.store (s.documents.opened uri version text) uri version text, [], none⟩
  /-- A document is closed, and what is shown for it is taken away. -/
  | closes (uri : String) (running : s.lifecycle = .running) :
      Acts s ⟨{ s with flights := s.flights.cancel uri, documents := s.documents.closed uri },
        messages [.publishDiagnostics uri none []], none⟩
  /-- The editor's settings are taken or refused, and all open documents are checked again. -/
  | configures (value : Json) (running : s.lifecycle = .running) :
      Acts s ⟨{ (s.configure value).1 with warned := false }.checkAll,
        messages (s.configure value).2, none⟩
  /-- The trace level is changed. -/
  | traces (level : TraceLevel) (running : s.lifecycle = .running) :
      Acts s ⟨{ s with trace := level }, [], none⟩

/-- A request that is accepted makes the server act. -/
theorem acts_answer (h : s.lifecycle.Accepts method params) :
    s.Acts ⟨(s.answer id method params).1, [.response (s.answer id method params).2], none⟩ := by
  generalize hlife : s.lifecycle = l at h
  cases h with
  | opens acceptable =>
    obtain ⟨p, hp⟩ := openingParams_eq_ok_iff.mpr acceptable
    simp only [answer, hlife, hp]
    exact .opens p _ hlife
  | shutsDown =>
    simp only [answer, hlife]
    exact .shutsDown _ hlife

/-- A notice of a running session is of no use, or makes the server act. -/
theorem unusable_or_acts_notice {n : Notice} (running : s.lifecycle = .running)
    (h : Notifies frame n) :
    s.Unusable frame ∨ s.Acts ⟨(s.notice n).1, messages (s.notice n).2, none⟩ := by
  -- A change and a trace level may be of no use; every other notice makes the server act.
  cases n with
  | opened d => exact Or.inr (.stores d.uri d.version d.text running)
  | changed c =>
    cases htext : c.text? with
    | none => exact Or.inl (.textless h (List.getLast?_eq_none_iff.mp htext))
    | some text =>
      by_cases hstale : s.documents.isStale c.document.uri c.document.version = true
      · obtain ⟨doc, hdoc, hold⟩ := Documents.isStale_iff.mp hstale
        exact Or.inl (.stale h hdoc hold)
      · simp only [notice, htext, Documents.changed?, hstale]
        exact Or.inr (.stores _ _ _ running)
  | closed uri => exact Or.inr (.closes uri running)
  | configured value => exact Or.inr (.configures value running)
  | traced value =>
    cases hlevel : TraceLevel.ofText? value with
    | none => exact Or.inl (.untraceable h hlevel)
    | some level =>
      simp only [notice, hlevel]
      exact Or.inr (.traces level running)

/-- **No other frame is passed over.** -/
theorem unusable_or_acts (s : Server) (frame : Json) :
    s.Unusable frame ∨ s.Acts (s.receiveValue frame) := by
  have hr := s.receives frame
  generalize s.receiveValue frame = reaction at hr
  -- Each kind of frame is refused under conditions that the server itself asks for.
  cases hr with
  | @answers id method hasId names =>
    by_cases haccepts : s.lifecycle.Accepts method (paramsOf frame)
    · exact Or.inr (acts_answer haccepts)
    · exact Or.inl (.request hasId names haccepts)
  | refuses _ unnamed no_outcome => exact Or.inl (.unclassified unnamed (Or.inr no_outcome))
  | skips hasId unnamed outcome => exact Or.inl (.response hasId unnamed outcome)
  | exits => exact Or.inr (.exits _)
  | @notices method no_id names not_exit =>
    by_cases running : s.lifecycle = .running
    · cases hn : Notice.ofMethod? method (paramsOf frame) with
      | none =>
        refine Or.inl ?_
        rcases Notice.ofMethod?_eq_none_iff.mp hn with hunknown | hundecodable
        · exact .unknown no_id names not_exit hunknown
        · exact .undecodable no_id names hundecodable
      | some n =>
        rw [notify, if_pos running, hn]
        exact unusable_or_acts_notice running ⟨no_id, method, names, hn⟩
    · exact Or.inl (.untimely no_id names not_exit running)
  | ignores no_id unnamed => exact Or.inl (.unclassified unnamed (Or.inl no_id))

end Server

namespace Session

/-- **Refused and unusable frames change nothing.** When a session, at whatever point, receives a
    frame that is refused or of no use, its server stays as it is: the lifecycle, the documents,
    the runs and which of them are current, the generations, the settings, the trace level and
    whether the user was warned.  The session goes on, and nothing but one response at most is
    sent.  Any other frame makes the server do something. -/
theorem unchanged_by_unusable (x : Session) (frame : Json) :
    (x.server.Unusable frame →
      (x.step (.received (.message frame))).server = x.server ∧
      (x.step (.received (.message frame))).ending = x.ending ∧
      ∃ response : Option Response,
        (x.step (.received (.message frame))).sent =
          x.sent ++ response.toList.map .response) ∧
    (¬ x.server.Unusable frame →
      x.server.Acts (reaction x.server (.received (.message frame)))) := by
  refine ⟨fun h => ?_, fun h => (x.server.unusable_or_acts frame).resolve_left h⟩
  cases hend : x.ending with
  | some ending =>
    rw [step_of_ended (Option.isSome_iff_exists.mpr ⟨ending, hend⟩)]
    exact ⟨rfl, hend, none, (List.append_nil _).symm⟩
  | none =>
    obtain ⟨hserver, hending, response, hsent⟩ := Server.receiveValue_of_unusable h
    simp only [step, hend]
    exact ⟨hserver, hending, response, congrArg (x.sent ++ ·) hsent⟩

/-- A change to the first version of a document, in the editor's form. -/
def staleChange : Json := .object [("method", .string "textDocument/didChange"),
  ("params", .object [("contentChanges", .array [.object [("text", .string "say 3")]]),
    ("textDocument", .object [("uri", .string "a"), ("version", .whole 1)])])]

/-- It comes too late for the session in which the second version is stored and its check is on its
    way, and it aborts nothing. -/
theorem unchanged_by_staleChange :
    ((start plain).run overtaken).server.Unusable staleChange ∧
      (((start plain).run overtaken).step (.received (.message staleChange))).server =
        ((start plain).run overtaken).server := by
  have hno_id : ∀ id, ¬ Incoming.HasId staleChange id :=
    Incoming.no_id_iff.mpr (Or.inl rfl)
  have hstored : ((start plain).run overtaken).server.documents.get? "a" =
      some ⟨2, "say 2"⟩ := by
    rw [plain_run_overtaken]
    decide
  have hstale : ((start plain).run overtaken).server.Unusable staleChange :=
    .stale ⟨hno_id, "textDocument/didChange", rfl, rfl⟩ hstored (by decide)
  exact ⟨hstale, ((unchanged_by_unusable _ staleChange).1 hstale).1⟩

end Session

end DiagnosticBridge
