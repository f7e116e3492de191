import DiagnosticBridge.Proofs.Coverage
import DiagnosticBridge.Proofs.Shutdown

namespace DiagnosticBridge

/-!
# Silence after shutdown and after a close

Diagnostics of a version come from a current run, and whatever is current belongs to an open
document.  Only the editor opens documents: a closed one stays closed, and nothing is shown for
it, until the editor brings a text of it.

* `brought_of_open` — a document that is open and was not has been brought by the editor;
* `open_of_shown` — diagnostics of a version are sent for open documents only;
* `Cleared`, `Reacts.cleared` — the last diagnostics shown for a closed document are none;
* `silent_after_shutdown_and_close` — so whole sessions keep silent.
-/

/-- The notice brings a text of a document. -/
inductive Notice.Brings : Notice → String → Document → Prop where
  /-- The document was opened. -/
  | opened (d : DidOpenParams) : Brings (.opened d) d.uri ⟨d.version, d.text⟩
  /-- The document was changed. -/
  | changed {c : DidChangeParams} {text : String} (brought : c.text? = some text) :
      Brings (.changed c) c.document.uri ⟨c.document.version, text⟩

namespace Server

open Incoming

variable {s : Server} {frame : Json} {n : Notice} {uri : String} {doc : Document}

/-- A notice means something while the session runs, and nothing at any other time. -/
theorem receiveValue_of_notifies (s : Server) (h : Notifies frame n) :
    s.receiveValue frame =
      if s.lifecycle = .running then ⟨(s.notice n).1, messages (s.notice n).2, none⟩
      else ⟨s, [], none⟩ := by
  obtain ⟨hid, method, hmethod, hn⟩ := h
  have hexit : method ≠ exitMethod := by
    rintro rfl
    cases hn
  rw [s.receiveValue_of_notification hid hmethod hexit, notify, hn]
  split <;> rfl

/-! ### Who opens documents -/

/-- Answering a request leaves the documents alone. -/
theorem answer_documents (s : Server) (id : Json) (method : String) (params : Json) :
    (s.answer id method params).1.documents = s.documents := by
  obtain ⟨flights, settings, trace, lifecycle, heq⟩ := s.answer_eq id method params
  rw [heq]

/-- The document that is stored is the only one that is new. -/
theorem eq_of_open_opened {version : Int} {text u : String}
    (hclosed : s.documents.get? uri = none)
    (hopen : (s.documents.opened u version text).get? uri = some doc) :
    uri = u ∧ doc = ⟨version, text⟩ := by
  rw [Documents.opened, Table.get?_insert] at hopen
  split at hopen
  · next heq => exact ⟨heq, (Option.some.inj hopen).symm⟩
  · rw [hclosed] at hopen
    cases hopen

/-- A notice opens a document only by bringing its text. -/
theorem brings_of_open (n : Notice) (hclosed : s.documents.get? uri = none)
    (hopen : (s.notice n).1.documents.get? uri = some doc) : n.Brings uri doc := by
  -- What leaves the documents alone opens none.
  have hsame : ∀ t : Server, t.documents = s.documents → t.documents.get? uri ≠ some doc := by
    intro t heq hopen
    rw [heq, hclosed] at hopen
    cases hopen
  cases n with
  | opened d =>
    obtain ⟨rfl, rfl⟩ := eq_of_open_opened hclosed hopen
    exact .opened d
  | changed c =>
    simp only [notice] at hopen
    split at hopen
    · exact absurd hopen (hsame s rfl)
    · next text brought =>
      split at hopen
      · exact absurd hopen (hsame s rfl)
      · next documents hstored =>
        rw [Documents.changed?, Option.ite_none_left_eq_some] at hstored
        rw [← Option.some.inj hstored.2] at hopen
        obtain ⟨rfl, rfl⟩ := eq_of_open_opened hclosed hopen
        exact .changed brought
  | closed u =>
    have hopen : (s.documents.erase u).get? uri = some doc := hopen
    rw [Table.get?_erase, hclosed, ite_self] at hopen
    cases hopen
  | configured value =>
    obtain ⟨settings, trace, heq⟩ := s.configure_eq value
    have hopen : ({ (s.configure value).1 with warned := false : Server }.checkAll).documents.get?
      uri = some doc := hopen
    rw [checkAll_eq, heq] at hopen
    exact absurd hopen (hsame s rfl)
  | traced value =>
    simp only [notice] at hopen
    split at hopen <;> exact absurd hopen (hsame s rfl)

/-- Of all frames only a notice that brings its text opens a document. -/
theorem notifies_of_open (frame : Json) (hclosed : s.documents.get? uri = none)
    (hopen : (s.receiveValue frame).server.documents.get? uri = some doc) :
    ∃ n, Notifies frame n ∧ n.Brings uri doc := by
  have hsame : s.documents.get? uri ≠ some doc := by simp [hclosed]
  have hr := s.receives frame
  generalize s.receiveValue frame = reaction at hr hopen
  -- Requests leave the documents alone, and what is neither request nor notice does nothing.
  cases hr with
  | answers => exact absurd (s.answer_documents _ _ _ ▸ hopen) hsame
  | notices no_id names =>
    simp only [notify] at hopen
    split at hopen
    · split at hopen
      · next n hn => exact ⟨n, ⟨no_id, _, names, hn⟩, brings_of_open n hclosed hopen⟩
      · exact absurd hopen hsame
    · exact absurd hopen hsame
  | _ => exact absurd hopen hsame

/-! ### What is shown for closed documents -/

/-- Notifications are sent as they are. -/
theorem notification_mem_messages {m : Notification} {notifications : List Notification} :
    .notification m ∈ messages notifications ↔ m ∈ notifications := by
  rw [messages, List.mem_map]
  constructor
  · rintro ⟨m', hm, heq⟩
    exact Outgoing.notification.inj heq ▸ hm
  · exact fun hm => ⟨m, hm, rfl⟩

/-- Settings that are taken or refused are no matter of diagnostics. -/
theorem not_mem_configure (s : Server) (value : Json) (version : Option Int) (batch : Batch) :
    .publishDiagnostics uri version batch ∉ (s.configure value).2 := by
  intro hm
  unfold configure at hm
  split at hm
  · exact absurd hm List.not_mem_nil
  · exact Notification.noConfusion (List.mem_singleton.mp hm)

/-- The last diagnostics shown for a document that is not open are none. -/
def Cleared (s : Server) (shown : String → Option (Option Int × Batch)) : Prop :=
  ∀ uri, s.documents.get? uri = none → ∀ version batch, shown uri = some (version, batch) →
    batch = []

end Server

namespace Session

open Server (messages)
open Incoming (HasId Names Notifies)

variable {s : Server} {x : Session} {what : Happening} {reaction' : Server.Reaction}
  {ended : Run → Outcome → Prop} {base : Layer} {server : Server} {past later : List Happening}
  {frame id : Json} {uri : String} {doc : Document}

/-! ### One step -/

/-- Whatever opens a document is a notice that brings its text. -/
theorem brought_of_open (hclosed : s.documents.get? uri = none)
    (hopen : (reaction s what).server.documents.get? uri = some doc) :
    ∃ frame n, what = .received (.message frame) ∧ Notifies frame n ∧ n.Brings uri doc := by
  have hsame : s.documents.get? uri ≠ some doc := by simp [hclosed]
  cases what with
  | received item =>
    cases item with
    | message frame =>
      obtain ⟨n, hn⟩ := Server.notifies_of_open frame hclosed hopen
      exact ⟨frame, n, rfl, hn⟩
    | malformed | finished | faulty => exact absurd hopen hsame
  | began | completed => exact absurd hopen hsame
  | handled =>
    have hr := reacts s .handled
    generalize reaction s .handled = reaction' at hr hopen
    cases hr with
    | idles => exact absurd hopen hsame
    | notices e later =>
      obtain ⟨warned, heq⟩ := ({ s with flights := s.flights.take e later } : Server).report_eq e
      rw [heq] at hopen
      exact absurd hopen hsame
    | drops => exact absurd hopen hsame

/-- Diagnostics of a version are shown for open documents only. -/
theorem Reacts.open_of_shown {version : Int} {batch : Batch} (hr : Reacts s what reaction')
    (hf : s.Fresh ended)
    (hshown : .notification (.publishDiagnostics uri (some version) batch) ∈ reaction'.sent) :
    s.documents.get? uri ≠ none := by
  cases hr with
  | stays responses =>
    obtain ⟨response, _, heq⟩ := List.mem_map.mp hshown
    cases heq
  | opens | shutsDown => cases List.mem_singleton.mp hshown
  | closes => cases List.mem_singleton.mp hshown
  | configures value =>
    exact absurd (Server.notification_mem_messages.mp hshown) (s.not_mem_configure value _ _)
  | notices e later waits current =>
    -- The event is that of a current run, and current runs belong to open documents.
    obtain ⟨r, o, _, rfl⟩ := hf.tracked.arrived e (waits ▸ List.mem_cons_self)
    have habout := Server.isAbout_of_mem_report (Server.notification_mem_messages.mp hshown)
    rw [Run.event_uri, ← habout.1] at current
    exact fun hclosed => Table.get?_eq_none_iff.mp hclosed (hf.mem_keys current)
  | _ => exact absurd hshown List.not_mem_nil

/-- Closed documents stay cleared while none of the open ones is closed and no diagnostics are
    shown for those that are closed. -/
theorem cleared_of_quiet {s' : Server} {sent : List Outgoing}
    {shown : String → Option (Option Int × Batch)} (h : s.Cleared shown)
    (hquiet : ∀ uri, s'.documents.get? uri = none →
      s.documents.get? uri = none ∧ lastPublished sent uri = none) :
    s'.Cleared (lastPublishedAfter sent shown) := by
  intro uri hclosed version batch hlast
  obtain ⟨hwas, hnone⟩ := hquiet uri hclosed
  rw [lastPublishedAfter, hnone] at hlast
  exact h uri hwas version batch hlast

/-- When a document is closed what is shown for it is taken away. -/
theorem cleared_of_close {shown : String → Option (Option Int × Batch)} (h : s.Cleared shown)
    (u : String) :
    { s with flights := s.flights.cancel u,
             documents := s.documents.closed u : Server }.Cleared
      (lastPublishedAfter (messages [.publishDiagnostics u none []]) shown) := by
  intro uri hclosed version batch hlast
  by_cases hu : u = uri
  · have hnone : lastPublished (messages [.publishDiagnostics u none []]) uri =
        some (none, []) := by
      simp [lastPublished, messages, publishedFor, hu]
    rw [lastPublishedAfter, hnone] at hlast
    cases hlast
    rfl
  · have hclosed : (s.documents.erase u).get? uri = none := hclosed
    rw [Table.get?_erase, if_neg (Ne.symm hu)] at hclosed
    rw [lastPublishedAfter_closed (Ne.symm hu)] at hlast
    exact h uri hclosed version batch hlast

/-- A change of the configuration shows no diagnostics. -/
theorem lastPublished_configure (s : Server) (value : Json) (uri : String) :
    lastPublished (messages (s.configure value).2) uri = none := by
  rw [lastPublished, List.filterMap_eq_nil_iff.mpr]
  · rfl
  · intro m hm
    obtain ⟨n, hn, rfl⟩ := List.mem_map.mp hm
    cases n with
    | publishDiagnostics u version batch => exact absurd hn (s.not_mem_configure value _ _)
    | showMessage | logMessage => rfl

/-- **Every reaction keeps the closed documents cleared.** -/
theorem Reacts.cleared {shown : String → Option (Option Int × Batch)}
    (hr : Reacts s what reaction') (hf : s.Fresh ended) (h : s.Cleared shown) :
    reaction'.server.Cleared (lastPublishedAfter reaction'.sent shown) := by
  cases hr with
  | stays responses =>
    exact cleared_of_quiet h fun uri hclosed => ⟨hclosed, lastPublished_responses responses uri⟩
  | opens p response =>
    obtain ⟨settings, trace, heq⟩ := s.opened_eq p
    rw [heq]
    exact cleared_of_quiet h fun uri hclosed => ⟨hclosed, rfl⟩
  | stores u version text =>
    refine cleared_of_quiet h fun uri hclosed => ⟨?_, rfl⟩
    have hclosed : (s.documents.opened u version text).get? uri = none := hclosed
    rw [Documents.opened, Table.get?_insert] at hclosed
    split at hclosed
    · cases hclosed
    · exact hclosed
  | closes u => exact cleared_of_close h u
  | configures value =>
    obtain ⟨settings, trace, heq⟩ := s.configure_eq value
    rw [Server.checkAll_eq, heq]
    exact cleared_of_quiet h fun uri hclosed => ⟨hclosed, lastPublished_configure s value uri⟩
  | notices e later waits current =>
    obtain ⟨warned, heq⟩ := ({ s with flights := s.flights.take e later } : Server).report_eq e
    refine cleared_of_quiet h fun uri hclosed => ?_
    rw [heq] at hclosed
    have hclosed : s.documents.get? uri = none := hclosed
    -- The event is that of a current run, hence of an open document.
    have hne : e.uri ≠ uri := by
      rintro rfl
      exact Table.get?_eq_none_iff.mp hclosed (hf.mem_keys current)
    exact ⟨hclosed, Server.lastPublished_report_of_ne hne _⟩
  | _ => exact cleared_of_quiet h fun uri hclosed => ⟨hclosed, rfl⟩

/-! ### Whole sessions -/

/-- At every point of a session, the last diagnostics shown for a document that is not open are
    none. -/
theorem cleared_run (h : Server.ofBase base = .ok server) (past : List Happening) :
    ((start server).run past).server.Cleared (lastPublished ((start server).run past).sent) := by
  refine invariant_of_fresh (P := fun s _ sent => s.Cleared (lastPublished sent)) h ?_ ?_ past
  · exact fun _ _ _ _ hshown => nomatch hshown
  · intro s ended sent what hf hs
    rw [lastPublished_concat]
    exact (reacts s what).cleared hf hs

/-- The editor brings a text of a document, and it is stored. -/
def Stored (x : Session) (later : List Happening) (uri : String) : Prop :=
  ∃ earlier frame n doc, earlier ++ [.received (.message frame)] <+: later ∧
    (x.run earlier).ending = none ∧ Notifies frame n ∧ n.Brings uri doc ∧
    (x.run (earlier ++ [.received (.message frame)])).server.documents.get? uri = some doc

/-- What has been stored remains so as the session goes on. -/
theorem Stored.mono {longer : List Happening} (h : x.Stored later uri) (hpre : later <+: longer) :
    x.Stored longer uri := by
  obtain ⟨earlier, frame, n, doc, he, hstored⟩ := h
  exact ⟨earlier, frame, n, doc, he.trans hpre, hstored⟩

/-- A document that is open and was not has been stored in between. -/
theorem stored_of_open (hclosed : x.server.documents.get? uri = none)
    (hopen : (x.run later).server.documents.get? uri ≠ none) : x.Stored later uri := by
  induction later using List.reverseRecOn with
  | nil => exact absurd hclosed hopen
  | append_singleton later what ih =>
    -- Either it was open before the last thing, or that thing has opened it.
    cases hwas : (x.run later).server.documents.get? uri with
    | some doc =>
      have hstored := ih (hwas ▸ Option.some_ne_none doc)
      exact hstored.mono (List.prefix_append _ _)
    | none =>
      cases hend : (x.run later).ending with
      | some ending =>
        rw [run_concat_of_ended hend] at hopen
        exact absurd hwas hopen
      | none =>
        obtain ⟨doc, hdoc⟩ := Option.ne_none_iff_exists'.mp hopen
        have hnow : (reaction (x.run later).server what).server.documents.get? uri = some doc := by
          rw [run_concat_of_not_ended hend] at hdoc
          exact hdoc
        obtain ⟨frame, n, rfl, hn, hbrings⟩ := brought_of_open hwas hnow
        exact ⟨later, frame, n, doc, List.prefix_refl _, hend, hn, hbrings, hdoc⟩

/-- Wherever diagnostics of a version have been shown for the document from here on, a text of it
    has been stored from here on.  As this holds at every point, the text comes first. -/
def SilentUntilStored (x : Session) (uri : String) : Prop :=
  ∀ later told, (x.run later).sent = x.sent ++ told →
    ∀ version batch, .notification (.publishDiagnostics uri (some version) batch) ∈ told →
      x.Stored later uri

/-- Nothing of a version is shown for a closed document. -/
theorem silentUntilStored_of_closed (hf : ∀ later, ∃ ended, (x.run later).server.Fresh ended)
    (hclosed : x.server.documents.get? uri = none) : x.SilentUntilStored uri := by
  intro later
  induction later using List.reverseRecOn with
  | nil =>
    intro told htold version batch hshown
    rw [List.self_eq_append_right.mp htold] at hshown
    exact absurd hshown List.not_mem_nil
  | append_singleton later what ih =>
    intro told htold version batch hshown
    cases hend : (x.run later).ending with
    | some ending =>
      rw [run_concat_of_ended hend] at htold
      exact (ih told htold version batch hshown).mono (List.prefix_append _ _)
    | none =>
      obtain ⟨before, hbefore⟩ := x.exists_told later
      rw [run_concat_of_not_ended hend, hbefore, List.append_assoc] at htold
      rw [← List.append_cancel_left htold] at hshown
      have hstored : x.Stored later uri := by
        -- What is shown now is shown for an open document, which has been stored since it was
        -- closed.
        rcases List.mem_append.mp hshown with hshown | hshown
        · exact ih before hbefore version batch hshown
        · obtain ⟨ended, hfresh⟩ := hf later
          exact stored_of_open hclosed ((reacts _ what).open_of_shown hfresh hshown)
      exact hstored.mono (List.prefix_append _ _)

/-- Nothing at all is shown from where nothing but responses is sent. -/
theorem Silent.silentUntilStored (h : x.Silent) (uri : String) : x.SilentUntilStored uri := by
  intro later told htold version batch hshown
  obtain ⟨_, _, _, responses, hresponses⟩ := h later
  rw [hresponses] at htold
  rw [← List.append_cancel_left htold] at hshown
  obtain ⟨response, _, heq⟩ := List.mem_map.mp hshown
  cases heq

/-- From a request to shut down that is granted the session is silent. -/
theorem silent_of_shutdown (h : Server.ofBase base = .ok server)
    (hid : HasId frame id) (hmethod : Names frame "shutdown")
    (hend : ((start server).run past).ending = none)
    (running : ((start server).run past).server.lifecycle = .running) :
    ((start server).run (past ++ [.received (.message frame)])).sent =
        ((start server).run past).sent ++ [.response (.ok id .null)] ∧
      ((start server).run (past ++ [.received (.message frame)])).Silent := by
  have hreaction : reaction ((start server).run past).server (.received (.message frame)) =
      ⟨{ ((start server).run past).server with lifecycle := .shuttingDown }.cancelAll,
        [.response (.ok id .null)], none⟩ := by
    show Server.receiveValue _ _ = _
    rw [Server.receiveValue_of_request _ hid hmethod, Server.answer_shutdown running]
  have hrun := run_concat_of_not_ended hend (.received (.message frame))
  rw [hreaction] at hrun
  refine ⟨by rw [hrun], silent_of_down (down_run h ?_)⟩
  rw [hrun]
  rfl

/-- Unless the session is shut down, a document is closed once the editor says so. -/
theorem closed_of_closes (hf : s.Fresh ended) (hn : Notifies frame (.closed uri))
    (hlife : s.lifecycle ≠ .shuttingDown) :
    (s.receiveValue frame).server.documents.get? uri = none := by
  rw [s.receiveValue_of_notifies hn]
  cases hl : s.lifecycle with
  | awaiting =>
    rw [if_neg Lifecycle.noConfusion, hf.unopened hl]
    rfl
  | running =>
    rw [if_pos rfl]
    show (s.documents.erase uri).get? uri = none
    rw [Table.get?_erase, if_pos rfl]
  | shuttingDown => exact absurd hl hlife

/-- From a close on, nothing of a version is shown for the document until it is stored. -/
theorem silentUntilStored_of_closes (h : Server.ofBase base = .ok server) (past : List Happening)
    (hn : Notifies frame (.closed uri)) :
    ((start server).run (past ++ [.received (.message frame)])).SilentUntilStored uri := by
  cases hend : ((start server).run past).ending with
  | some ending =>
    rw [run_concat_of_ended hend]
    intro later told htold version batch hshown
    rw [run_of_ended hend] at htold
    rw [List.self_eq_append_right.mp htold] at hshown
    exact absurd hshown List.not_mem_nil
  | none =>
    have hserver : ((start server).run (past ++ [.received (.message frame)])).server =
        (((start server).run past).server.receiveValue frame).server := by
      rw [run_concat_of_not_ended hend]
      rfl
    by_cases hlife : ((start server).run past).server.lifecycle = .shuttingDown
    · -- The session is silent altogether.
      have hdown : ((start server).run (past ++ [.received (.message frame)])).server.lifecycle =
          .shuttingDown := by
        rw [hserver, Server.receiveValue_of_notifies _ hn, hlife, if_neg Lifecycle.noConfusion]
        exact hlife
      exact (silent_of_down (down_run h hdown)).silentUntilStored uri
    · refine silentUntilStored_of_closed (fun later =>
        ⟨(start server).Completed (past ++ [.received (.message frame)] ++ later), ?_⟩) ?_
      · rw [← run_append]
        exact fresh_run h _
      · rw [hserver]
        exact closed_of_closes (fresh_run h past) hn hlife

/-- **Silence after shutdown and after a close.** At every point of a session:
    a request to shut down that comes while the session runs is granted, and from then on no run
    is current or alive, none is scheduled, and nothing but responses is sent; at any other time
    such a request is refused.  From a close on, no diagnostics of a version are shown for the
    document until a text of it is stored.  And the last diagnostics shown for a document that is
    not open, if there are any, are none. -/
theorem silent_after_shutdown_and_close (h : Server.ofBase base = .ok server)
    (past : List Happening) :
    (∀ frame id, HasId frame id → Names frame "shutdown" →
      ((start server).run past).ending = none →
      (((start server).run past).server.lifecycle = .running →
        ((start server).run (past ++ [.received (.message frame)])).sent =
            ((start server).run past).sent ++ [.response (.ok id .null)] ∧
          ((start server).run (past ++ [.received (.message frame)])).Silent) ∧
      (((start server).run past).server.lifecycle ≠ .running →
        ∃ code message, ((start server).run (past ++ [.received (.message frame)])).sent =
          ((start server).run past).sent ++ [.response ⟨id, .failure code message⟩])) ∧
    (∀ frame uri, Notifies frame (.closed uri) →
      ((start server).run (past ++ [.received (.message frame)])).SilentUntilStored uri) ∧
    (∀ uri, ((start server).run past).server.documents.get? uri = none →
      ∀ version batch, lastPublished ((start server).run past).sent uri = some (version, batch) →
        batch = []) := by
  refine ⟨?_, fun frame uri hn => silentUntilStored_of_closes h past hn, cleared_run h past⟩
  intro frame id hid hmethod hend
  refine ⟨silent_of_shutdown h hid hmethod hend, fun hlife => ?_⟩
  obtain ⟨code, message, hrefused⟩ :=
    Server.answer_shutdown_of_not_running hlife id (Incoming.paramsOf frame)
  refine ⟨code, message, ?_⟩
  rw [run_concat_of_not_ended hend]
  show _ ++ (Server.receiveValue _ frame).sent = _
  rw [Server.receiveValue_of_request _ hid hmethod, hrefused]

/-- A request to shut down. -/
def shutdownFrame : Json := .object [("id", .whole 2), ("method", .string "shutdown")]

/-- A document is closed. -/
def closeFrame : Json :=
  .object [("method", .string "textDocument/didClose"),
    ("params", .object [("textDocument", .object [("uri", .string "a")])])]

/-- While the event of a check that has ended is waiting the session is shut down, or the document
    is closed.  And where the document is closed after its diagnostics were shown, these are taken
    away. -/
theorem silent_of_waiting :
    ((start plain).run (overtaken.take 4)).server.flights.arrived = [.published "a" 1 1 []] ∧
    ((start plain).run (overtaken.take 4 ++ [.received (.message shutdownFrame)])).sent =
      ((start plain).run (overtaken.take 4)).sent ++ [.response (.ok (.whole 2) .null)] ∧
    ((start plain).run (overtaken.take 4 ++ [.received (.message shutdownFrame)])).Silent ∧
    ((start plain).run
      (overtaken.take 4 ++ [.received (.message closeFrame)])).SilentUntilStored "a" ∧
    lastPublished ((start plain).run (overtaken ++ [.handled])).sent "a" = some (some 2, []) ∧
    ∀ version batch, lastPublished ((start plain).run
      (overtaken ++ [.handled] ++ [.received (.message closeFrame)])).sent "a" =
        some (version, batch) → batch = [] := by
  have hbase : Server.ofBase .empty = .ok plain := rfl
  have hall := silent_after_shutdown_and_close hbase (overtaken.take 4)
  have hshutdown := (hall.1 shutdownFrame (.whole 2) ⟨rfl, Json.noConfusion⟩ rfl rfl).1 rfl
  have hcloses : Notifies closeFrame (.closed "a") := by
    refine ⟨?_, "textDocument/didClose", rfl, rfl⟩
    rintro id ⟨hid, _⟩
    cases hid
  exact ⟨rfl, hshutdown.1, hshutdown.2, hall.2.1 closeFrame "a" hcloses, rfl,
    (silent_after_shutdown_and_close hbase _).2.2 "a" rfl⟩

end Session

end DiagnosticBridge
