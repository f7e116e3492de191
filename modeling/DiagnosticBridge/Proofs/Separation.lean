import DiagnosticBridge.Proofs.Publication
import DiagnosticBridge.Proofs.Refusals
import DiagnosticBridge.Proofs.Restriction

namespace DiagnosticBridge

/-!
# Documents do not interfere

All documents of a session share one count of generations, one queue of events, one value of the
settings and one memory of whether the user was warned.  Still, what is published for a document is
what would be published for it if the editor had no other document open.

* `Happening.kept` — what is left of a happening when all that is about other documents is deleted;
* `Server.Mirrors` — a server is to one document what another server is to all of them;
* `Server.Separates.reaction` — whatever happens, it stays so;
* `Session.published_alone` — so a document is published as in the session that has it alone.
-/

/-! ### What is about a document -/

/-- The document that a notice is about. -/
def Notice.document? : Notice → Option String
  | .opened d => some d.uri
  | .changed c => some c.document.uri
  | .closed uri => some uri
  | .configured _ => none
  | .traced _ => none

/-- The document that a message is about. -/
def Incoming.document? : Incoming → Option String
  | .notification method params => (Notice.ofMethod? method params).bind Notice.document?
  | .request .. => none
  | .response _ => none

/-- The document that an item from the editor is about. -/
def Frame.Item.document? : Frame.Item → Option String
  | .message frame => (Incoming.ofFrame? frame).bind Incoming.document?
  | _ => none

/-- What is left of a happening when all that is about documents other than one is deleted: the
    messages about them, and all that becomes of their runs.  What becomes of a run of the document
    itself is kept under the number that the run has among those of the document. -/
def Happening.kept (uri : String) (ours : List Nat) (s : Server) : Happening → Option Happening
  | .received item => if item.document?.all (· == uri) then some (.received item) else none
  | .began generation =>
    if generation ∈ ours then some (.began (rank ours generation)) else none
  | .completed generation outcome =>
    if generation ∈ ours then some (.completed (rank ours generation) outcome) else none
  | .handled =>
    if (s.flights.arrived.head?.map Event.uri).all (· == uri) then some .handled else none

namespace Server

variable {s s' : Server} {ended : Run → Outcome → Prop} {uri other : String} {ours : List Nat}
  {r r' : Reaction} {item : Frame.Item}

/-- What one server is to a document, another server is to all of its own.  Only whether the user
    was warned may differ. -/
structure Mirrors (s : Server) (uri : String) (ours : List Nat) (s' : Server) : Prop where
  /-- The runs are those of the document. -/
  flights : s'.flights = s.flights.only uri ours
  /-- No other document is open. -/
  documents : s'.documents = s.documents.only uri id
  /-- The layers below the editor's are the same. -/
  base : s'.base = s.base
  /-- The settings are the same. -/
  settings : s'.settings = s.settings
  /-- The trace level is the same. -/
  trace : s'.trace = s.trace
  /-- The sessions are at the same point. -/
  lifecycle : s'.lifecycle = s.lifecycle

/-- What one reaction is to a document, another one is to all documents of its server. -/
structure Reaction.Mirrors (r : Reaction) (uri : String) (ours : List Nat) (r' : Reaction) :
    Prop where
  /-- The servers are alike. -/
  server : r.server.Mirrors uri ours r'.server
  /-- The sessions end alike. -/
  ending : r'.ending = r.ending
  /-- The same is published for the document. -/
  published : r'.sent.filterMap (Session.publishedFor uri) =
    r.sent.filterMap (Session.publishedFor uri)

/-- The reactions are alike once the run that the document gets by the first of them, if it gets
    one, is numbered next. -/
def Follows (s : Server) (uri : String) (ours : List Nat) (r r' : Reaction) : Prop :=
  r.Mirrors uri (ours ++ s.flights.newSince r.server.flights uri) r'

/-- The servers are alike, and all that is known of the first one is in order. -/
structure Separates (s : Server) (ended : Run → Outcome → Prop) (uri : String) (ours : List Nat)
    (s' : Server) : Prop where
  /-- The current runs are up to date. -/
  fresh : s.Fresh ended
  /-- Every run that is alive is current. -/
  single : s.flights.SingleFlight ended
  /-- The runs of the document are numbered. -/
  numbered : s.flights.Numbered ended uri ours
  /-- The servers are alike. -/
  mirrors : s.Mirrors uri ours s'

/-- The document is the same in both. -/
theorem Mirrors.get?_documents (h : s.Mirrors uri ours s') :
    s'.documents.get? uri = s.documents.get? uri := by
  rw [h.documents, Table.get?_only, Option.map_id_fun, id]

/-- Servers stay alike when what becomes of their runs is the same to the document. -/
theorem Mirrors.withFlights (h : s.Mirrors uri ours s') {f f' : Flights}
    (hflights : f' = f.only uri ours) :
    { s with flights := f : Server }.Mirrors uri ours { s' with flights := f' } :=
  ⟨hflights, h.documents, h.base, h.settings, h.trace, h.lifecycle⟩

/-- A reaction by which the document gets no run. -/
theorem Follows.of_current (hf : s.flights.Tracked ended) (h : r.Mirrors uri ours r')
    (hcur : ∀ generation, r.server.flights.current.get? uri = some generation →
      s.flights.current.get? uri = some generation) : s.Follows uri ours r r' := by
  rw [Follows, Flights.newSince_eq_nil hf hcur, List.append_nil]
  exact h

/-! ### Settings -/

/-- Settings are taken or refused alike. -/
theorem Mirrors.configure (h : s.Mirrors uri ours s') (value : Json) :
    ∃ settings trace told,
      s.configure value = ({ s with settings := settings, trace := trace }, told) ∧
      s'.configure value = ({ s' with settings := settings, trace := trace }, told) := by
  have hbase : settingsFor s'.base value = settingsFor s.base value := by rw [h.base]
  simp only [Server.configure, hbase]
  cases settingsFor s.base value with
  | ok settings => exact ⟨settings, settings.trace, [], rfl, rfl⟩
  | error e => exact ⟨s.settings, s.trace, _, rfl, by rw [← h.settings, ← h.trace]⟩

/-- The sessions are opened alike. -/
theorem Mirrors.opened (h : s.Mirrors uri ours s') (p : InitializeParams) :
    ∃ settings trace,
      s.opened p = { s with settings := settings, trace := trace, lifecycle := .running } ∧
      s'.opened p = { s' with settings := settings, trace := trace, lifecycle := .running } := by
  unfold Server.opened
  cases p.options with
  | none =>
    cases p.trace.bind TraceLevel.ofText? with
    | none => exact ⟨s.settings, s.trace, rfl, by rw [← h.settings, ← h.trace]⟩
    | some level => exact ⟨s.settings, level, rfl, by rw [← h.settings]⟩
  | some options =>
    obtain ⟨settings, trace, told, heq, heq'⟩ := h.configure options
    simp only [heq, heq']
    cases p.trace.bind TraceLevel.ofText? with
    | none => exact ⟨settings, trace, rfl, rfl⟩
    | some level => exact ⟨settings, level, rfl, rfl⟩

/-! ### Reports -/

/-- Whether the user was warned, the same is published about a run of the document. -/
theorem Mirrors.report (h : s.Mirrors uri ours s') (e : Event) :
    Reaction.Mirrors ⟨(s.report e).1, messages (s.report e).2, none⟩ uri ours
      ⟨(s'.report (e.renumbered ours)).1, messages (s'.report (e.renumbered ours)).2, none⟩ := by
  refine ⟨?_, rfl, ?_⟩
  · obtain ⟨warned, heq⟩ := s.report_eq e
    obtain ⟨warned', heq'⟩ := s'.report_eq (e.renumbered ours)
    rw [heq, heq']
    exact ⟨h.flights, h.documents, h.base, h.settings, h.trace, h.lifecycle⟩
  · cases e with
    | published u generation version batch =>
      simp only [Event.renumbered, Event.withGeneration, Server.report, h.trace]
    | compilerUnavailable u generation message =>
      simp only [Event.renumbered, Event.withGeneration, Server.report]
      -- A warning may be shown by one server only, but it publishes nothing.
      cases s.warned <;> cases s'.warned <;> rfl
    | failed u generation message =>
      simp only [Event.renumbered, Event.withGeneration, Server.report, h.trace]

/-- Nothing is published about a run of another document. -/
theorem Mirrors.report_of_other (h : s.Mirrors uri ours s') {e : Event} (hne : e.uri ≠ uri) :
    Reaction.Mirrors ⟨(s.report e).1, messages (s.report e).2, none⟩ uri ours ⟨s', [], none⟩ := by
  refine ⟨?_, rfl, ?_⟩
  · obtain ⟨warned, heq⟩ := s.report_eq e
    rw [heq]
    exact ⟨h.flights, h.documents, h.base, h.settings, h.trace, h.lifecycle⟩
  · cases e with
    | published u generation version batch =>
      have hu : u ≠ uri := hne
      simp only [Server.report]
      split <;> simp [messages, Session.publishedFor, hu]
    | compilerUnavailable u generation message =>
      simp only [Server.report]
      split <;> rfl
    | failed u generation message =>
      simp only [Server.report]
      split <;> rfl

/-- Reporting an event that is taken makes no run current. -/
theorem current_report {e : Event} {later : List Event} {generation : Nat}
    (hc : ({ s with flights := s.flights.take e later }.report e).1.flights.current.get? uri =
      some generation) : s.flights.current.get? uri = some generation := by
  obtain ⟨warned, heq⟩ := ({ s with flights := s.flights.take e later } : Server).report_eq e
  rw [heq] at hc
  have hc : (s.flights.take e later).current.get? uri = some generation := hc
  exact Flights.current_take hc

namespace Separates

/-! ### What is about no document, and what is about this one -/

/-- Both servers stay as they are. -/
theorem stays (h : s.Separates ended uri ours s') (sent sent' : List Outgoing)
    (ending : Option SessionEnd)
    (hsent : sent'.filterMap (Session.publishedFor uri) =
      sent.filterMap (Session.publishedFor uri)) :
    s.Follows uri ours ⟨s, sent, ending⟩ ⟨s', sent', ending⟩ :=
  .of_current h.fresh.tracked ⟨h.mirrors, rfl, hsent⟩ fun _ hc => hc

/-- Shutting down aborts the run of the document in both, if it is open. -/
theorem shutsDown (h : s.Separates ended uri ours s') (response response' : Response) :
    s.Follows uri ours
      ⟨{ s with lifecycle := .shuttingDown }.cancelAll, [.response response], none⟩
      ⟨{ s' with lifecycle := .shuttingDown }.cancelAll, [.response response'], none⟩ := by
  refine .of_current h.fresh.tracked ⟨⟨?_, h.mirrors.documents, h.mirrors.base,
    h.mirrors.settings, h.mirrors.trace, rfl⟩, rfl, rfl⟩ ?_
  · show s'.documents.keys.foldl Flights.cancel s'.flights =
      (s.documents.keys.foldl Flights.cancel s.flights).only uri ours
    rw [Flights.only_cancelEach h.numbered h.single h.fresh.tracked, h.mirrors.flights,
      h.mirrors.documents]
    -- The keys of the one server are those of the other that are this document: one at most.
    cases hdoc : s.documents.get? uri with
    | none =>
      rw [Table.only_of_none hdoc, if_neg (Table.get?_eq_none_iff.mp hdoc)]
      rfl
    | some doc =>
      have hmem : uri ∈ s.documents.keys :=
        List.mem_map.mpr ⟨(uri, doc), Table.mem_of_get? hdoc, rfl⟩
      rw [Table.only_of_some hdoc, if_pos hmem]
      rfl
  · intro generation hc
    have hc : (s.documents.keys.foldl Flights.cancel s.flights).current.get? uri =
        some generation := hc
    exact (Flights.current_cancelEach hc).2

/-- A request is answered alike. -/
theorem answer (h : s.Separates ended uri ours s') (id : Json) (method : String) (params : Json) :
    s.Follows uri ours
      ⟨(s.answer id method params).1, [.response (s.answer id method params).2], none⟩
      ⟨(s'.answer id method params).1, [.response (s'.answer id method params).2], none⟩ := by
  have hlife := h.mirrors.lifecycle
  -- Whether a request is accepted depends on the lifecycle alone, which is the same.
  by_cases haccepts : s.lifecycle.Accepts method params
  · generalize hl : s.lifecycle = l at haccepts
    rw [hl] at hlife
    cases haccepts with
    | opens acceptable =>
      obtain ⟨p, hp⟩ := openingParams_eq_ok_iff.mpr acceptable
      obtain ⟨settings, trace, heq, heq'⟩ := h.mirrors.opened p
      simp only [Server.answer, hl, hlife, hp, heq, heq']
      exact .of_current h.fresh.tracked ⟨⟨h.mirrors.flights, h.mirrors.documents, h.mirrors.base,
        rfl, rfl, rfl⟩, rfl, rfl⟩ fun _ hc => hc
    | shutsDown =>
      simp only [Server.answer, hl, hlife]
      exact h.shutsDown _ _
  · rw [answer_of_refused haccepts, answer_of_refused (hlife ▸ haccepts)]
    exact h.stays _ _ none rfl

/-- A version of the document is stored and checked. -/
theorem stores (h : s.Separates ended uri ours s') (version : Int) (text : String) :
    s.Follows uri ours
      ⟨s.store (s.documents.opened uri version text) uri version text, [], none⟩
      ⟨s'.store (s'.documents.opened uri version text) uri version text, [], none⟩ := by
  have hnew : s.flights.newSince (s.flights.schedule uri version text s.settings) uri =
      [s.flights.lastGeneration + 1] :=
    Flights.newSince_of_current (by rw [Flights.get?_schedule, if_pos rfl]) (Nat.lt_succ_self _)
  refine ⟨⟨?_, ?_, h.mirrors.base, h.mirrors.settings, h.mirrors.trace, h.mirrors.lifecycle⟩,
    rfl, rfl⟩
  · show s'.flights.schedule uri version text s'.settings =
      (s.flights.schedule uri version text s.settings).only uri
        (ours ++ s.flights.newSince (s.flights.schedule uri version text s.settings) uri)
    rw [hnew, Flights.only_schedule h.numbered h.fresh.tracked, h.mirrors.flights,
      h.mirrors.settings]
  · show s'.documents.insert uri _ = (s.documents.insert uri _).only uri id
    rw [Table.only_insert, h.mirrors.documents]
    rfl

/-- The document is closed. -/
theorem closes (h : s.Separates ended uri ours s') :
    s.Follows uri ours
      ⟨{ s with flights := s.flights.cancel uri, documents := s.documents.closed uri },
        messages [.publishDiagnostics uri none []], none⟩
      ⟨{ s' with flights := s'.flights.cancel uri, documents := s'.documents.closed uri },
        messages [.publishDiagnostics uri none []], none⟩ := by
  refine .of_current h.fresh.tracked ⟨⟨?_, ?_, h.mirrors.base, h.mirrors.settings,
    h.mirrors.trace, h.mirrors.lifecycle⟩, rfl, rfl⟩ ?_
  · show s'.flights.cancel uri = (s.flights.cancel uri).only uri ours
    rw [Flights.only_cancel h.numbered, h.mirrors.flights]
  · show s'.documents.erase uri = (s.documents.erase uri).only uri id
    rw [Table.only_erase, h.mirrors.documents]
  · intro generation hc
    have hc : (s.flights.cancel uri).current.get? uri = some generation := hc
    rw [Flights.get?_cancel, if_pos rfl] at hc
    cases hc

/-- All open documents are checked again. -/
theorem checksAll (h : s.Separates ended uri ours s') (settings : CompilerSettings)
    (trace : TraceLevel) (warned warned' : Bool) (told : List Outgoing) :
    s.Follows uri ours
      ⟨{ s with settings := settings, trace := trace, warned := warned }.checkAll, told, none⟩
      ⟨{ s' with settings := settings, trace := trace, warned := warned' }.checkAll, told,
        none⟩ := by
  rw [checkAll_eq, checkAll_eq]
  refine ⟨⟨?_, h.mirrors.documents, h.mirrors.base, rfl, rfl, h.mirrors.lifecycle⟩, rfl, rfl⟩
  show s'.flights.scheduleAll settings s'.documents.toList =
    (s.flights.scheduleAll settings s.documents.toList).only uri
      (ours ++ s.flights.newSince (s.flights.scheduleAll settings s.documents.toList) uri)
  rw [h.mirrors.flights, h.mirrors.documents]
  -- The document gets one run, wherever it is among the others, or none.
  cases hdoc : s.documents.get? uri with
  | none =>
    have hnot : uri ∉ s.documents.toList.map (·.1) := Table.get?_eq_none_iff.mp hdoc
    have hsame : ∀ generation,
        (s.flights.scheduleAll settings s.documents.toList).current.get? uri = some generation →
          s.flights.current.get? uri = some generation := fun generation hc => by
      rwa [Flights.get?_scheduleAll_of_not_mem hnot] at hc
    rw [Flights.newSince_eq_nil h.fresh.tracked hsame, List.append_nil,
      Flights.only_scheduleAll_of_notMem h.single h.fresh.tracked hnot, Table.only_of_none hdoc]
    rfl
  | some doc =>
    have hnodup : (s.documents.toList.map (·.1)).Nodup := Table.nodup_keys h.fresh.ordered
    rw [Flights.only_scheduleAll h.numbered h.single h.fresh.tracked hnodup
      (Table.mem_of_get? hdoc), Table.only_of_some hdoc]
    rfl

/-- A notice is about no document, or about this one. -/
theorem notice (h : s.Separates ended uri ours s') {n : Notice}
    (hn : n.document?.all (· == uri) = true) :
    s.Follows uri ours ⟨(s.notice n).1, messages (s.notice n).2, none⟩
      ⟨(s'.notice n).1, messages (s'.notice n).2, none⟩ := by
  cases n with
  | opened d =>
    obtain rfl : d.uri = uri := by simpa [Notice.document?] using hn
    exact h.stores d.version d.text
  | changed c =>
    obtain rfl : c.document.uri = uri := by simpa [Notice.document?] using hn
    have hstale : s'.documents.isStale c.document.uri c.document.version =
        s.documents.isStale c.document.uri c.document.version := by
      rw [Documents.isStale, Documents.isStale, h.mirrors.get?_documents]
    simp only [Server.notice, Documents.changed?, hstale]
    cases c.text? with
    | none => exact h.stays [] [] none rfl
    | some text =>
      cases s.documents.isStale c.document.uri c.document.version with
      | true => exact h.stays [] [] none rfl
      | false => exact h.stores c.document.version text
  | closed u =>
    obtain rfl : u = uri := by simpa [Notice.document?] using hn
    exact h.closes
  | configured value =>
    obtain ⟨settings, trace, told, heq, heq'⟩ := h.mirrors.configure value
    simp only [Server.notice, heq, heq']
    exact h.checksAll settings trace false false _
  | traced value =>
    simp only [Server.notice]
    cases TraceLevel.ofText? value with
    | none => exact h.stays [] [] none rfl
    | some level =>
      exact .of_current h.fresh.tracked ⟨⟨h.mirrors.flights, h.mirrors.documents, h.mirrors.base,
        h.mirrors.settings, rfl, h.mirrors.lifecycle⟩, rfl, rfl⟩ fun _ hc => hc

/-- Whatever comes from the editor and is not about another document does the same to both. -/
theorem receive (h : s.Separates ended uri ours s')
    (hitem : item.document?.all (· == uri) = true) :
    s.Follows uri ours (s.receive item) (s'.receive item) := by
  cases item with
  | malformed | finished | faulty => exact h.stays _ _ _ rfl
  | message frame =>
    simp only [Server.receive, receiveValue]
    rw [Frame.Item.document?] at hitem
    cases hframe : Incoming.ofFrame? frame with
    | none =>
      cases Incoming.idOf? frame with
      | none => exact h.stays [] [] none rfl
      | some id => exact h.stays _ _ none rfl
    | some message =>
      rw [hframe, Option.bind_some] at hitem
      cases message with
      | request id method params => exact h.answer id method params
      | response id => exact h.stays [] [] none rfl
      | notification method params =>
        rw [Incoming.document?] at hitem
        -- The end of the session depends on the lifecycle alone.
        by_cases hexit : method = exitMethod
        · simp only [if_pos hexit, h.mirrors.lifecycle]
          exact h.stays [] [] _ rfl
        · simp only [if_neg hexit, notify, h.mirrors.lifecycle]
          by_cases running : s.lifecycle = .running
          · rw [if_pos running, if_pos running]
            cases hn : Notice.ofMethod? method params with
            | none => exact h.stays [] [] none rfl
            | some n =>
              rw [hn, Option.bind_some] at hitem
              exact h.notice hitem
          · rw [if_neg running, if_neg running]
            exact h.stays [] [] none rfl

/-! ### What is about another document -/

/-- Storing a version of another document gives this one no run and takes none from it. -/
theorem stores_of_other (h : s.Separates ended uri ours s') (hne : uri ≠ other) (version : Int)
    (text : String) :
    s.Follows uri ours
      ⟨s.store (s.documents.opened other version text) other version text, [], none⟩
      ⟨s', [], none⟩ := by
  refine .of_current h.fresh.tracked ⟨⟨?_, ?_, h.mirrors.base, h.mirrors.settings,
    h.mirrors.trace, h.mirrors.lifecycle⟩, rfl, rfl⟩ ?_
  · show s'.flights = (s.flights.schedule other version text s.settings).only uri ours
    rw [Flights.only_schedule_of_ne h.single h.fresh.tracked hne, h.mirrors.flights]
  · show s'.documents = (s.documents.insert other _).only uri id
    rw [Table.only_insert_of_ne hne, h.mirrors.documents]
  · intro generation hc
    have hc : (s.flights.schedule other version text s.settings).current.get? uri =
        some generation := hc
    rwa [Flights.get?_schedule, if_neg hne] at hc

/-- Closing another document takes no run from this one, and shows nothing for it. -/
theorem closes_of_other (h : s.Separates ended uri ours s') (hne : uri ≠ other) :
    s.Follows uri ours
      ⟨{ s with flights := s.flights.cancel other, documents := s.documents.closed other },
        messages [.publishDiagnostics other none []], none⟩
      ⟨s', [], none⟩ := by
  refine .of_current h.fresh.tracked ⟨⟨?_, ?_, h.mirrors.base, h.mirrors.settings,
    h.mirrors.trace, h.mirrors.lifecycle⟩, rfl, ?_⟩ ?_
  · show s'.flights = (s.flights.cancel other).only uri ours
    rw [Flights.only_cancel_of_ne h.single h.fresh.tracked hne, h.mirrors.flights]
  · show s'.documents = (s.documents.erase other).only uri id
    rw [Table.only_erase_of_ne hne, h.mirrors.documents]
  · simp [messages, Session.publishedFor, hne.symm]
  · intro generation hc
    have hc : (s.flights.cancel other).current.get? uri = some generation := hc
    exact (Flights.current_cancel hc).2

/-- A notice about another document is nothing to this one. -/
theorem notice_of_other (h : s.Separates ended uri ours s') {n : Notice}
    (hn : n.document? = some other) (hne : uri ≠ other) :
    s.Follows uri ours ⟨(s.notice n).1, messages (s.notice n).2, none⟩ ⟨s', [], none⟩ := by
  cases n with
  | opened d =>
    obtain rfl : d.uri = other := by simpa [Notice.document?] using hn
    exact h.stores_of_other hne d.version d.text
  | changed c =>
    obtain rfl : c.document.uri = other := by simpa [Notice.document?] using hn
    simp only [Server.notice, Documents.changed?]
    cases c.text? with
    | none => exact h.stays [] [] none rfl
    | some text =>
      cases s.documents.isStale c.document.uri c.document.version with
      | true => exact h.stays [] [] none rfl
      | false => exact h.stores_of_other hne c.document.version text
  | closed u =>
    obtain rfl : u = other := by simpa [Notice.document?] using hn
    exact h.closes_of_other hne
  | configured value => cases hn
  | traced value => cases hn

/-- What comes from the editor about another document is nothing to this one. -/
theorem receive_of_other (h : s.Separates ended uri ours s') (hitem : item.document? = some other)
    (hne : uri ≠ other) : s.Follows uri ours (s.receive item) ⟨s', [], none⟩ := by
  cases item with
  | malformed | finished | faulty => cases hitem
  | message frame =>
    obtain ⟨message, hframe, hmessage⟩ := Option.bind_eq_some_iff.mp hitem
    cases message with
    | request | response => cases hmessage
    | notification method params =>
      obtain ⟨n, hn, hdocument⟩ := Option.bind_eq_some_iff.mp hmessage
      have hexit : method ≠ exitMethod := by
        rintro rfl
        cases hn
      simp only [Server.receive, receiveValue, hframe, if_neg hexit, notify]
      by_cases running : s.lifecycle = .running
      · simp only [if_pos running, hn]
        exact h.notice_of_other hdocument hne
      · simp only [if_neg running]
        exact h.stays [] [] none rfl

/-! ### Runs and their events -/

/-- A run begins in both if it is one of the document, and else in the first only. -/
theorem begins (h : s.Separates ended uri ours s') (generation : Nat) :
    s.Follows uri ours (Session.reaction s (.began generation))
      (((Happening.began generation).kept uri ours s).elim ⟨s', [], none⟩
        (Session.reaction s')) := by
  rw [Happening.kept]
  by_cases hgen : generation ∈ ours
  · have hstart : s'.flights.start (rank ours generation) =
        (s.flights.start generation).only uri ours := by
      rw [Flights.only_start hgen, h.mirrors.flights]
    rw [if_pos hgen]
    exact .of_current h.fresh.tracked ⟨h.mirrors.withFlights hstart, rfl, rfl⟩ fun _ hc => hc
  · have hstart : s'.flights = (s.flights.start generation).only uri ours := by
      rw [Flights.only_start_of_notMem h.numbered hgen, h.mirrors.flights]
    rw [if_neg hgen]
    exact .of_current h.fresh.tracked ⟨h.mirrors.withFlights hstart, rfl, rfl⟩ fun _ hc => hc

/-- So it ends. -/
theorem completes (h : s.Separates ended uri ours s') (generation : Nat) (o : Outcome) :
    s.Follows uri ours (Session.reaction s (.completed generation o))
      (((Happening.completed generation o).kept uri ours s).elim ⟨s', [], none⟩
        (Session.reaction s')) := by
  rw [Happening.kept]
  by_cases hgen : generation ∈ ours
  · have hcomplete : s'.flights.complete (rank ours generation) o =
        (s.flights.complete generation o).only uri ours := by
      rw [Flights.only_complete hgen, h.mirrors.flights]
    rw [if_pos hgen]
    exact .of_current h.fresh.tracked ⟨h.mirrors.withFlights hcomplete, rfl, rfl⟩ fun _ hc => hc
  · have hcomplete : s'.flights = (s.flights.complete generation o).only uri ours := by
      rw [Flights.only_complete_of_notMem h.numbered hgen, h.mirrors.flights]
    rw [if_neg hgen]
    exact .of_current h.fresh.tracked ⟨h.mirrors.withFlights hcomplete, rfl, rfl⟩ fun _ hc => hc

/-- The event of a run of the document is the first one for both servers. -/
theorem handles_own (h : s.Separates ended uri ours s') {e : Event} {later : List Event}
    (waits : s.flights.arrived = e :: later) (hu : e.uri = uri) :
    s.Follows uri ours (Session.reaction s .handled) (Session.reaction s' .handled) := by
  subst hu
  have hgen := h.numbered.arrived h.fresh.tracked (waits ▸ List.mem_cons_self) rfl
  have waits' : s'.flights.arrived = e.renumbered ours ::
      (later.filter (·.uri == e.uri)).map (·.renumbered ours) := by
    simp [h.mirrors.flights, Flights.only, waits]
  have hcurrent : s'.flights.isCurrent (e.renumbered ours).uri (e.renumbered ours).generation =
      s.flights.isCurrent e.uri e.generation := by
    rw [h.mirrors.flights, Event.renumbered_uri, Event.renumbered_generation,
      Flights.isCurrent_only hgen]
  have htake := Flights.only_take (f := s.flights) later rfl hgen
  rw [← h.mirrors.flights] at htake
  have hmirrors := h.mirrors.withFlights htake.symm
  -- It is reported by both or dropped by both, as it is current for both or for neither.
  rw [Session.reaction_handled_of_cons waits, Session.reaction_handled_of_cons waits', hcurrent]
  split
  · exact .of_current h.fresh.tracked (hmirrors.report e) fun _ hc => current_report hc
  · exact .of_current h.fresh.tracked ⟨hmirrors, rfl, rfl⟩ fun _ hc => Flights.current_take hc

/-- The event of a run of another document is nothing to this one. -/
theorem handles_of_other (h : s.Separates ended uri ours s') {e : Event} {later : List Event}
    (waits : s.flights.arrived = e :: later) (hu : e.uri ≠ uri) :
    s.Follows uri ours (Session.reaction s .handled) ⟨s', [], none⟩ := by
  have htake : s'.flights = (s.flights.take e later).only uri ours := by
    rw [Flights.only_take_of_ne waits hu, h.mirrors.flights]
  have hmirrors := h.mirrors.withFlights htake
  rw [Session.reaction_handled_of_cons waits]
  split
  · exact .of_current h.fresh.tracked (hmirrors.report_of_other hu) fun _ hc => current_report hc
  · exact .of_current h.fresh.tracked ⟨hmirrors, rfl, rfl⟩ fun _ hc => Flights.current_take hc

/-- The first event is handled if it is that of a run of the document. -/
theorem handles (h : s.Separates ended uri ours s') :
    s.Follows uri ours (Session.reaction s .handled)
      ((Happening.handled.kept uri ours s).elim ⟨s', [], none⟩ (Session.reaction s')) := by
  rw [Happening.kept]
  cases waits : s.flights.arrived with
  | nil =>
    have waits' : s'.flights.arrived = [] := by simp [h.mirrors.flights, Flights.only, waits]
    rw [List.head?_nil, Option.map_none, Option.all_none, if_pos rfl, Option.elim_some,
      Session.reaction_handled_of_nil waits, Session.reaction_handled_of_nil waits']
    exact h.stays [] [] none rfl
  | cons e later =>
    rw [List.head?_cons, Option.map_some, Option.all_some]
    by_cases hu : e.uri = uri
    · rw [if_pos (by simpa using hu), Option.elim_some]
      exact h.handles_own waits hu
    · rw [if_neg (by simpa using hu), Option.elim_none]
      exact h.handles_of_other waits hu

/-- **A server that knows one document only keeps up.** Whatever happens, what is left of it for
    the document has the same effect on a server that knows no other. -/
theorem reaction (h : s.Separates ended uri ours s') (what : Happening) :
    s.Follows uri ours (Session.reaction s what)
      ((what.kept uri ours s).elim ⟨s', [], none⟩ (Session.reaction s')) := by
  cases what with
  | began generation => exact h.begins generation
  | completed generation o => exact h.completes generation o
  | handled => exact h.handles
  | received item =>
    rw [Happening.kept]
    cases hitem : item.document? with
    | none => exact h.receive (by rw [hitem]; rfl)
    | some other =>
      by_cases hu : other = uri
      · subst hu
        rw [if_pos (by simp)]
        exact h.receive (by simp [hitem])
      · rw [if_neg (by simpa using hu)]
        exact h.receive_of_other hitem (Ne.symm hu)

/-- The run that the document gets is the one that is scheduled for it. -/
theorem mem_newSince_iff (h : s.Separates ended uri ours s') (what : Happening) {generation : Nat} :
    generation ∈ s.flights.newSince (Session.reaction s what).server.flights uri ↔
      ∃ r ∈ (Session.reaction s what).server.flights.scheduled,
        r.uri = uri ∧ r.generation = generation ∧ s.flights.lastGeneration < generation := by
  have hr := Session.reacts s what
  rw [Flights.mem_newSince]
  constructor
  · rintro ⟨hcur, hlt⟩
    obtain ⟨r, rfl, rfl, hwaits, -⟩ := (hr.fresh h.fresh).current uri generation hcur
    have hnew : ¬ s.flights.Known ended r :=
      fun hk => absurd (h.fresh.tracked.known_le r hk) (Nat.not_le_of_lt hlt)
    -- A run that has begun or ended was there before.
    rcases hwaits with hscheduled | hbegun | ⟨o, hended | ⟨_, hold⟩, _⟩
    · exact ⟨r, hscheduled, rfl, rfl, hlt⟩
    · exact absurd ((hr.begun hbegun).elim (fun hb => Or.inr (Or.inl hb)) Or.inl) hnew
    · exact absurd (Or.inr (Or.inr ⟨o, hended⟩)) hnew
    · exact absurd (Or.inr (Or.inl hold)) hnew
  · rintro ⟨r, hscheduled, rfl, rfl, hlt⟩
    exact ⟨(hr.singleFlight h.single h.fresh.tracked).current r (Or.inl hscheduled), hlt⟩

/-- The run that the document gets is numbered, and it is the only one that is new. -/
theorem numbers (h : s.Separates ended uri ours s') (what : Happening) :
    (Session.reaction s what).server.flights.Numbered (Session.endedAfter s what ended) uri
      (ours ++ s.flights.newSince (Session.reaction s what).server.flights uri) := by
  have hr := Session.reacts s what
  have hgrows := hr.grows
  have hfresh := hr.fresh h.fresh
  refine ⟨?_, ?_, ?_⟩
  · intro n hn
    rcases List.mem_append.mp hn with hn | hn
    · exact Nat.le_trans (h.numbered.le n hn) hgrows.last
    · exact hfresh.tracked.current_le uri n (Flights.mem_newSince.mp hn).1
  · rintro r (hscheduled | hbegun | ⟨o, hended⟩) hu
    · rcases hgrows.scheduled r hscheduled with hold | hnew
      · exact List.mem_append_left _ (h.numbered.scheduled hold hu)
      · exact List.mem_append_right _
          ((h.mem_newSince_iff what).mpr ⟨r, hscheduled, hu, rfl, hnew⟩)
    · rcases hr.begun hbegun with hold | hold
      · exact List.mem_append_left _ (h.numbered.begun hold hu)
      · exact List.mem_append_left _ (h.numbered.scheduled hold hu)
    · rcases hended with hended | ⟨_, hold⟩
      · exact List.mem_append_left _ (h.numbered.known r (Or.inr (Or.inr ⟨o, hended⟩)) hu)
      · exact List.mem_append_left _ (h.numbered.begun hold hu)
  · intro generation hc
    rcases hgrows.current uri generation hc with hold | hnew
    · exact List.mem_append_left _ (h.numbered.current generation hold)
    · exact List.mem_append_right _ (Flights.mem_newSince.mpr ⟨hc, hnew⟩)

end Separates

/-- At the start there are no runs and no documents. -/
theorem separates_of_base {base : Layer} (h : ofBase base = .ok s) (uri : String) :
    s.Separates (fun _ _ => False) uri [] s := by
  obtain ⟨hflights, hdocuments⟩ := empty_of_base h
  refine ⟨fresh_of_base h, hflights ▸ Flights.singleFlight_empty, ⟨nofun, ?_, ?_⟩,
    ⟨by rw [hflights]; rfl, by rw [hdocuments]; rfl, rfl, rfl, rfl, rfl⟩⟩
  · rw [hflights]
    rintro r (hr | hr | ⟨_, hr⟩)
    · exact absurd hr List.not_mem_nil
    · exact absurd hr List.not_mem_nil
    · exact hr.elim
  · rw [hflights]
    intro generation hc
    cases hc

end Server

namespace Session

variable {x y : Session} {uri : String} {ours : List Nat} {base : Layer} {server : Server}

/-- What is left of a session, as it goes on, when all that is about documents other than one is
    deleted.  The generations of the runs that the document has had so far are kept along, in the
    order in which they were scheduled. -/
def alone (uri : String) (x : Session) (ours : List Nat) : List Happening → List Happening
  | [] => []
  | what :: later =>
    (what.kept uri ours x.server).toList ++ alone uri (x.step what)
      (ours ++ x.server.flights.newSince (x.step what).server.flights uri) later

/-- The session after one thing at most. -/
theorem run_toList (h : y.ending = none) (what : Option Happening) :
    y.run what.toList =
      ⟨(what.elim ⟨y.server, [], none⟩ (reaction y.server)).server,
        y.sent ++ (what.elim ⟨y.server, [], none⟩ (reaction y.server)).sent,
        (what.elim ⟨y.server, [], none⟩ (reaction y.server)).ending⟩ := by
  cases what with
  | none =>
    rw [Option.elim_none, List.append_nil, ← h]
    rfl
  | some what =>
    show y.step what = _
    simp only [step, h, Option.elim_some]

/-- What one session is to a document, another session is to all of its own. -/
structure Separates (x : Session) (uri : String) (ours : List Nat) (y : Session) : Prop where
  /-- The servers are alike. -/
  server : ∃ ended, x.server.Separates ended uri ours y.server
  /-- The sessions ended alike, if they did. -/
  ending : y.ending = x.ending
  /-- The same has been published for the document. -/
  published : y.sent.filterMap (publishedFor uri) = x.sent.filterMap (publishedFor uri)

/-- Whatever happens, the sessions stay alike. -/
theorem Separates.step (h : x.Separates uri ours y) (what : Happening) :
    (x.step what).Separates uri
      (ours ++ x.server.flights.newSince (x.step what).server.flights uri)
      (y.run (what.kept uri ours x.server).toList) := by
  obtain ⟨ended, hserver⟩ := h.server
  -- A session that has ended takes nothing in, and neither does the other.
  cases hend : x.ending with
  | some ending =>
    rw [step_of_ended (Option.isSome_iff_exists.mpr ⟨ending, hend⟩),
      run_of_ended (h.ending.trans hend),
      Flights.newSince_eq_nil hserver.fresh.tracked (fun _ hc => hc), List.append_nil]
    exact h
  | none =>
    have hstep : x.step what = ⟨(reaction x.server what).server,
        x.sent ++ (reaction x.server what).sent, (reaction x.server what).ending⟩ := by
      simp only [Session.step, hend]
    have hr := hserver.reaction what
    have hreacts := reacts x.server what
    rw [hstep, run_toList (h.ending.trans hend)]
    refine ⟨⟨_, hreacts.fresh hserver.fresh,
      hreacts.singleFlight hserver.single hserver.fresh.tracked, hserver.numbers what, hr.server⟩,
      hr.ending, ?_⟩
    rw [List.filterMap_append, List.filterMap_append, h.published, hr.published]

/-- Sessions stay alike for good. -/
theorem Separates.run (h : x.Separates uri ours y) (later : List Happening) :
    ∃ ours', (x.run later).Separates uri ours' (y.run (alone uri x ours later)) := by
  induction later generalizing x y ours with
  | nil => exact ⟨ours, h⟩
  | cons what later ih =>
    rw [alone, run_append]
    exact ih (h.step what)

/-- **Documents do not interfere.** What is published for a document in a session, whatever happens
    in it, is what is published in the session that is left when all messages about other documents
    and all that becomes of their runs are deleted.  That session ends as the whole one does, and
    no other document is ever open in it. -/
theorem published_alone (h : Server.ofBase base = .ok server) (past : List Happening)
    (uri : String) :
    let whole := (start server).run past
    let rest := (start server).run (alone uri (start server) [] past)
    rest.sent.filterMap (publishedFor uri) = whole.sent.filterMap (publishedFor uri) ∧
      rest.ending = whole.ending ∧
      ∀ other, other ≠ uri → rest.server.documents.get? other = none := by
  have hstart : (start server).Separates uri [] (start server) :=
    ⟨⟨_, Server.separates_of_base h uri⟩, rfl, rfl⟩
  obtain ⟨ours, ⟨ended, hserver⟩, hending, hpublished⟩ := hstart.run past
  refine ⟨hpublished, hending, fun other hne => ?_⟩
  rw [hserver.mirrors.documents, Table.get?_only_of_ne hne]

/-- A text of a document, as the editor brings it. -/
def openItem (uri : String) : Frame.Item :=
  noticeItem "textDocument/didOpen" (.object [("textDocument",
    .object [("text", .string "say 1"), ("uri", .string uri), ("version", .whole 1)])])

/-- Two documents are open, and the one that was opened last is checked first. -/
def sideBySide : List Happening :=
  overtaken.take 1 ++ [.received (openItem "b"), .received (openItem "a"), .began 1, .began 2,
    .completed 2 (.ok .clean), .completed 1 (.ok .clean), .handled, .handled]

/-- Without the document that was opened first, the other one has the first run. -/
theorem published_sideBySide :
    Server.ofBase .empty = .ok plain ∧
    alone "a" (start plain) [] sideBySide =
      overtaken.take 1 ++ [.received (openItem "a"), .began 1, .completed 1 (.ok .clean),
        .handled] ∧
    ((start plain).run sideBySide).sent.filterMap (publishedFor "a") = [(some 1, [])] := by
  have hbase : Server.ofBase .empty = .ok plain := rfl
  have halone : alone "a" (start plain) [] sideBySide =
      overtaken.take 1 ++ [.received (openItem "a"), .began 1, .completed 1 (.ok .clean),
        .handled] := rfl
  have hpublished := (published_alone hbase sideBySide "a").1
  rw [halone] at hpublished
  exact ⟨hbase, halone, hpublished.symm⟩

end Session

end DiagnosticBridge
