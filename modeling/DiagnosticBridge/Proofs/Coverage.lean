import DiagnosticBridge.Proofs.Publication

namespace DiagnosticBridge

/-!
# No check is lost

While a session runs, every open document has a current run, or its last result is that of a run
over what is stored.  Whatever stores a text or takes settings schedules a run, and a current run
is forgotten only when it is aborted together with its document, replaced, or noticed.

* `Covered` — an open document without a current run is *settled*: the last event noticed about
  it and the last diagnostics shown for it are those of an up-to-date run;
* `Reacts.covered` — every reaction keeps this;
* `checked_of_running` — so it holds at every point of every session that runs.
-/

namespace Server

/-- The last event noticed about a document is that of a run over what is stored under the
    settings in force, and if it brought diagnostics, they are the last ones shown. -/
def Settled (s : Server) (ended : Run → Outcome → Prop) (last : Option Event)
    (shown : Option (Option Int × Batch)) (uri : String) : Prop :=
  ∃ r o, r.uri = uri ∧ ended r o ∧ s.UpToDate r ∧ last = some (r.event o) ∧
    ∀ batch, r.event o = .published uri r.generation r.version batch →
      shown = some (some r.version, batch)

/-- While the session runs, every open document without a current run is settled. -/
def Covered (s : Server) (ended : Run → Outcome → Prop) (last : String → Option Event)
    (shown : String → Option (Option Int × Batch)) : Prop :=
  s.lifecycle = .running → ∀ uri doc, s.documents.get? uri = some doc →
    s.flights.current.get? uri = none → s.Settled ended (last uri) (shown uri) uri

variable {s s' : Server} {ended ended' : Run → Outcome → Prop} {uri : String}

/-- A document stays settled while it and the settings stay the same. -/
theorem Settled.keep {last : Option Event} {shown : Option (Option Int × Batch)}
    (h : s.Settled ended last shown uri) (hended : ∀ r o, ended r o → ended' r o)
    (hdoc : s'.documents.get? uri = s.documents.get? uri) (hset : s'.settings = s.settings) :
    s'.Settled ended' last shown uri := by
  obtain ⟨r, o, rfl, hr, ⟨hstored, hunder⟩, hlast, hshown⟩ := h
  exact ⟨r, o, rfl, hended r o hr, ⟨hdoc.trans hstored, hunder.trans hset.symm⟩, hlast, hshown⟩

/-- Nothing is lost by a reaction that leaves the documents, the settings and the current runs
    alone. -/
theorem Covered.keep {last : String → Option Event} {shown : String → Option (Option Int × Batch)}
    (h : s.Covered ended last shown) (hended : ∀ r o, ended r o → ended' r o)
    (hlife : s'.lifecycle = s.lifecycle) (hdoc : s'.documents = s.documents)
    (hset : s'.settings = s.settings)
    (hcur : ∀ uri, s'.flights.current.get? uri = s.flights.current.get? uri) :
    s'.Covered ended' last shown := by
  intro running uri doc hopen hidle
  rw [hdoc] at hopen
  rw [hcur] at hidle
  have hsettled := h (hlife ▸ running) uri doc hopen hidle
  exact hsettled.keep hended (by rw [hdoc]) hset

/-! ### What is shown when an event is reported -/

/-- A report shows diagnostics only for the document of its event, and those of the event. -/
theorem lastPublished_report (s : Server) (e : Event) (uri : String) :
    Session.lastPublished (messages (s.report e).2) uri =
      match e with
      | .published u _ version batch => if u = uri then some (some version, batch) else none
      | _ => none := by
  cases e with
  | published u generation version batch =>
    by_cases hu : u = uri <;> by_cases ht : s.trace = .verbose <;>
      simp [report, messages, Session.lastPublished, Session.publishedFor, hu, ht]
  | compilerUnavailable u generation message =>
    by_cases hw : s.warned = true <;>
      simp [report, messages, Session.lastPublished, Session.publishedFor, hw]
  | failed u generation message =>
    by_cases ht : s.trace.isEnabled = true <;>
      simp [report, messages, Session.lastPublished, Session.publishedFor, ht]

/-- A report shows nothing for other documents. -/
theorem lastPublished_report_of_ne {e : Event} (h : e.uri ≠ uri) (s : Server) :
    Session.lastPublished (messages (s.report e).2) uri = none := by
  rw [lastPublished_report]
  cases e with
  | published u generation version batch => exact if_neg h
  | compilerUnavailable => rfl
  | failed => rfl

end Server

namespace Session

open Server (messages)

variable {s : Server} {what : Happening} {reaction' : Server.Reaction}
  {ended ended' : Run → Outcome → Prop} {base : Layer} {server : Server}
  {past : List Happening} {uri : String}

/-- The last event noticed about a document once something has happened. -/
def lastNoticedAfter (s : Server) (what : Happening) (last : String → Option Event)
    (uri : String) : Option Event :=
  ((noticing s what).filter (·.uri == uri)).getLast?.or (last uri)

/-- The last diagnostics shown for a document once some messages are sent. -/
def lastPublishedAfter (sent : List Outgoing) (shown : String → Option (Option Int × Batch))
    (uri : String) : Option (Option Int × Batch) :=
  (lastPublished sent uri).or (shown uri)

/-- Later messages decide what is shown last. -/
theorem lastPublished_concat (sent more : List Outgoing) :
    lastPublished (sent ++ more) = lastPublishedAfter more (lastPublished sent) :=
  funext fun uri => lastPublished_append sent more uri

/-! ### What a reaction brings -/

variable {last : String → Option Event} {shown : String → Option (Option Int × Batch)}

/-- Where no event waits none is noticed. -/
theorem lastNoticedAfter_of_nil (none_waits : s.flights.arrived = []) :
    lastNoticedAfter s .handled last = last := by
  funext uri
  simp [lastNoticedAfter, noticing, none_waits]

/-- An event that is dropped is not noticed. -/
theorem lastNoticedAfter_of_stale {e : Event} {later : List Event}
    (waits : s.flights.arrived = e :: later)
    (stale : s.flights.current.get? e.uri ≠ some e.generation) :
    lastNoticedAfter s .handled last = last := by
  funext uri
  rw [lastNoticedAfter, noticing_of_stale waits stale]
  rfl

/-- An event that is reported is the last one noticed about its document. -/
theorem lastNoticedAfter_of_current {e : Event} {later : List Event}
    (waits : s.flights.arrived = e :: later)
    (current : s.flights.current.get? e.uri = some e.generation) (uri : String) :
    lastNoticedAfter s .handled last uri = if e.uri = uri then some e else last uri := by
  rw [lastNoticedAfter, noticing_of_current waits current]
  by_cases huri : e.uri = uri <;> simp [huri]

/-- Answers show no diagnostics. -/
theorem lastPublishedAfter_responses (responses : List Response) :
    lastPublishedAfter (responses.map .response) shown = shown := by
  funext uri
  rw [lastPublishedAfter, lastPublished_responses]
  rfl

/-- What is taken away from one document stays for the others. -/
theorem lastPublishedAfter_closed {other : String} (h : other ≠ uri) :
    lastPublishedAfter (messages [.publishDiagnostics uri none []]) shown other = shown other := by
  simp [lastPublishedAfter, lastPublished, messages, publishedFor, Ne.symm h]

/-- A report shows nothing for other documents than that of its event. -/
theorem lastPublishedAfter_report {e : Event} (h : e.uri ≠ uri) :
    lastPublishedAfter (messages (s.report e).2) shown uri = shown uri := by
  rw [lastPublishedAfter, Server.lastPublished_report_of_ne h]
  rfl

/-! ### The reactions one by one -/

/-- Without documents there is nothing to cover. -/
theorem covered_of_no_documents (h : ∀ uri, s.documents.get? uri = none) :
    s.Covered ended last shown := by
  intro _ uri doc hopen _
  rw [h uri] at hopen
  cases hopen

/-- A document with a current run is covered by it. -/
theorem covered_of_all_current (h : ∀ uri doc, s.documents.get? uri = some doc →
    ∃ generation, s.flights.current.get? uri = some generation) : s.Covered ended last shown := by
  intro _ uri doc hopen hidle
  obtain ⟨generation, hcur⟩ := h uri doc hopen
  rw [hidle] at hcur
  cases hcur

/-- The document that is stored has a run now; nothing changes for the others. -/
theorem covered_stores (h : s.Covered ended last shown) (hended : ∀ r o, ended r o → ended' r o)
    (running : s.lifecycle = .running) (uri : String) (version : Int) (text : String) :
    (s.store (s.documents.opened uri version text) uri version text).Covered ended' last shown := by
  intro _ other doc hopen hidle
  have hidle : (s.flights.schedule uri version text s.settings).current.get? other = none := hidle
  rw [Flights.get?_schedule] at hidle
  by_cases ho : other = uri
  · rw [if_pos ho] at hidle
    cases hidle
  · rw [if_neg ho] at hidle
    have hdoc : (s.documents.opened uri version text).get? other = s.documents.get? other := by
      rw [Documents.opened, Table.get?_insert, if_neg ho]
    have hopen : (s.documents.opened uri version text).get? other = some doc := hopen
    exact (h running other doc (hdoc ▸ hopen) hidle).keep hended hdoc rfl

/-- The document that is closed need not be covered any more; nothing changes for the others. -/
theorem covered_closes (h : s.Covered ended last shown) (hended : ∀ r o, ended r o → ended' r o)
    (running : s.lifecycle = .running) (uri : String) :
    { s with flights := s.flights.cancel uri,
             documents := s.documents.closed uri : Server }.Covered ended' last
      (lastPublishedAfter (messages [.publishDiagnostics uri none []]) shown) := by
  intro _ other doc hopen hidle
  have hopen : (s.documents.erase uri).get? other = some doc := hopen
  have hidle : (s.flights.cancel uri).current.get? other = none := hidle
  rw [Table.get?_erase] at hopen
  by_cases ho : other = uri
  · rw [if_pos ho] at hopen
    cases hopen
  · rw [if_neg ho] at hopen
    rw [Flights.get?_cancel, if_neg ho] at hidle
    rw [lastPublishedAfter_closed ho]
    refine (h running other doc hopen hidle).keep hended ?_ rfl
    show (s.documents.erase uri).get? other = _
    rw [Table.get?_erase, if_neg ho]

/-- When all documents are checked again, each open one has a run. -/
theorem covered_checkAll (hf : s.Fresh ended) (settings : CompilerSettings) (trace : TraceLevel)
    (warned : Bool) :
    { s with settings := settings, trace := trace, warned := warned }.checkAll.Covered ended' last
      shown := by
  refine covered_of_all_current fun uri doc hopen => ?_
  rw [Server.checkAll_eq] at hopen ⊢
  have hopen : s.documents.get? uri = some doc := hopen
  obtain ⟨i, _, hnew⟩ := hf.rerun_of_open settings hopen
  exact ⟨_, hnew⟩

/-- The document of an event that is reported is settled by it: the run of the event was current,
    hence up to date.  It does not matter which server reports the event. -/
theorem settled_of_noticed (t : Server) (hf : s.Fresh ended)
    (hended : ∀ r o, ended r o → ended' r o) {e : Event} {later : List Event}
    (waits : s.flights.arrived = e :: later)
    (current : s.flights.current.get? e.uri = some e.generation) :
    s.Settled ended' (some e) (lastPublishedAfter (messages (t.report e).2) shown e.uri) e.uri := by
  obtain ⟨r, o, hr, rfl⟩ := hf.tracked.arrived e (waits ▸ List.mem_cons_self)
  have huri : (r.event o).uri = r.uri := Run.event_uri r o
  rw [huri, Run.event_generation] at current
  refine ⟨r, o, huri.symm, hended r o hr, hf.upToDate_of_current hr current, rfl, ?_⟩
  intro batch hbatch
  rw [lastPublishedAfter, Server.lastPublished_report, hbatch]
  simp [Event.uri]

/-- An event that is reported settles its document; nothing changes for the others. -/
theorem covered_notices (hf : s.Fresh ended) (h : s.Covered ended last shown)
    (hended : ∀ r o, ended r o → ended' r o) {e : Event} {later : List Event}
    (waits : s.flights.arrived = e :: later)
    (current : s.flights.current.get? e.uri = some e.generation) :
    ({ s with flights := s.flights.take e later }.report e).1.Covered ended'
      (lastNoticedAfter s .handled last)
      (lastPublishedAfter (messages ({ s with flights := s.flights.take e later }.report e).2)
        shown) := by
  obtain ⟨warned, heq⟩ := ({ s with flights := s.flights.take e later } : Server).report_eq e
  rw [heq]
  intro running other doc hopen hidle
  have hopen : s.documents.get? other = some doc := hopen
  have hidle : (s.flights.take e later).current.get? other = none := hidle
  rw [lastNoticedAfter_of_current waits current]
  by_cases ho : e.uri = other
  · subst ho
    rw [if_pos rfl]
    exact settled_of_noticed _ hf hended waits current
  · rw [Flights.get?_take, if_neg fun hc => ho hc.1.symm] at hidle
    rw [if_neg ho, lastPublishedAfter_report ho]
    exact (h running other doc hopen hidle).keep hended rfl rfl

/-- **Every reaction keeps the documents covered.** -/
theorem Reacts.covered (hr : Reacts s what reaction') (hf : s.Fresh ended)
    (h : s.Covered ended last shown) (hended : ∀ r o, ended r o → ended' r o) :
    reaction'.server.Covered ended' (lastNoticedAfter s what last)
      (lastPublishedAfter reaction'.sent shown) := by
  cases hr with
  | stays responses ending =>
    rw [lastPublishedAfter_responses]
    exact h.keep hended rfl rfl rfl fun _ => rfl
  | opens p response awaiting =>
    -- The session is not open before, and so no document is.
    obtain ⟨settings, trace, heq⟩ := s.opened_eq p
    have hnone : s.documents = .empty := hf.unopened awaiting
    rw [heq]
    exact covered_of_no_documents fun uri => by rw [hnone]; rfl
  | shutsDown => exact fun running => nomatch running
  | stores uri version text running => exact covered_stores h hended running uri version text
  | closes uri running => exact covered_closes h hended running uri
  | configures value running =>
    obtain ⟨settings, trace, heq⟩ := s.configure_eq value
    rw [heq]
    exact covered_checkAll hf settings trace false
  | traces level running => exact h.keep hended rfl rfl rfl fun _ => rfl
  | begins generation => exact h.keep hended rfl rfl rfl fun _ => rfl
  | completes generation outcome => exact h.keep hended rfl rfl rfl fun _ => rfl
  | idles none_waits =>
    rw [lastNoticedAfter_of_nil none_waits]
    exact h.keep hended rfl rfl rfl fun _ => rfl
  | notices e later waits current => exact covered_notices hf h hended waits current
  | drops e later waits stale =>
    rw [lastNoticedAfter_of_stale waits stale]
    refine h.keep hended rfl rfl rfl fun uri => ?_
    show (s.flights.take e later).current.get? uri = _
    rw [Flights.get?_take, if_neg fun hc => stale hc.2]

/-! ### Whole sessions -/

/-- **Covered throughout.** At every point of a session that runs, the open documents without a
    current run are settled. -/
theorem covered_run (h : Server.ofBase base = .ok server) (past : List Happening) :
    ((start server).run past).server.Covered ((start server).Completed past)
      ((start server).lastNoticed past) (lastPublished ((start server).run past).sent) := by
  induction past using List.reverseRecOn with
  | nil =>
    refine covered_of_no_documents fun uri => ?_
    show server.documents.get? uri = none
    rw [(Server.empty_of_base h).2]
    rfl
  | append_singleton past what ih =>
    have hmore : ∀ r o, (start server).Completed past r o →
        (start server).Completed (past ++ [what]) r o :=
      fun r o hr => completed_concat.mpr (Or.inl hr)
    have hlast : (start server).lastNoticed (past ++ [what]) = fun uri =>
        ((((start server).run past).noticedNow what).filter (·.uri == uri)).getLast?.or
          ((start server).lastNoticed past uri) := by
      funext uri
      exact lastNoticed_concat _ past what uri
    cases hend : ((start server).run past).ending with
    | some ending =>
      -- An ended session stays as it is, and nothing is noticed any more.
      have hnow : ((start server).run past).noticedNow what = [] := by
        rw [noticedNow, hend]
      rw [run_concat_of_ended hend, hlast, hnow]
      exact ih.keep hmore rfl rfl rfl fun _ => rfl
    | none =>
      have hnow : ((start server).run past).noticedNow what =
          noticing ((start server).run past).server what := by
        rw [noticedNow, hend]
      rw [run_concat_of_not_ended hend, hlast, hnow, lastPublished_concat]
      exact (reacts _ what).covered (fresh_run h past) ih hmore

/-- **No check is lost.** At every point of a session that runs, each open document either has a
    current run over its stored version and text under the settings in force, whose result is
    still to come, or the last event noticed about it is the result of such a run.  Hence, when
    the document has no current run and the last event noticed brought diagnostics, the last
    diagnostics shown for it are these, with the stored version: they are the result of a run over
    the stored text under the settings in force. -/
theorem checked_of_running (h : Server.ofBase base = .ok server) (past : List Happening)
    (running : ((start server).run past).server.lifecycle = .running) (uri : String)
    (doc : Document)
    (hopen : ((start server).run past).server.documents.get? uri = some doc) :
    ((∃ r, (start server).Scheduled past r ∧
        r.uri = uri ∧ r.version = doc.version ∧ r.text = doc.text ∧
        r.settings = ((start server).run past).server.settings ∧
        ((start server).run past).server.flights.current.get? uri = some r.generation ∧
        ((start server).run past).server.flights.Waits ((start server).Completed past) r) ∨
      (∃ r o, (start server).Scheduled past r ∧ (start server).Completed past r o ∧
        r.uri = uri ∧ r.version = doc.version ∧ r.text = doc.text ∧
        r.settings = ((start server).run past).server.settings ∧
        (start server).lastNoticed past uri = some (r.event o))) ∧
    (((start server).run past).server.flights.current.get? uri = none →
      ∀ generation version batch,
        (start server).lastNoticed past uri = some (.published uri generation version batch) →
        lastPublished ((start server).run past).sent uri = some (some doc.version, batch) ∧
        ∃ r o, (start server).Scheduled past r ∧ (start server).Completed past r o ∧
          r.uri = uri ∧ r.version = doc.version ∧ r.text = doc.text ∧
          r.settings = ((start server).run past).server.settings ∧
          r.event o = .published uri generation doc.version batch) := by
  have hpast := remembered_run h past
  have hidle := covered_run h past running uri doc hopen
  refine ⟨?_, ?_⟩
  · cases hcur : ((start server).run past).server.flights.current.get? uri with
    | some generation =>
      obtain ⟨r, rfl, rfl, hwaits, hup⟩ := (fresh_run h past).current uri generation hcur
      obtain ⟨hversion, htext⟩ := hup.stored hopen
      exact Or.inl ⟨r, hpast.known r hwaits.known, rfl, hversion, htext, hup.2, rfl, hwaits⟩
    | none =>
      obtain ⟨r, o, rfl, hr, hup, hlast, _⟩ := hidle hcur
      obtain ⟨hversion, htext⟩ := hup.stored hopen
      exact Or.inr ⟨r, o, hpast.of_completed hr, hr, rfl, hversion, htext, hup.2, hlast⟩
  · intro hcur generation version batch hpub
    obtain ⟨r, o, rfl, hr, hup, hlast, hshown⟩ := hidle hcur
    obtain ⟨hversion, htext⟩ := hup.stored hopen
    -- The event that was noticed is that of the run, and so is its version.
    have hevent : r.event o = .published r.uri generation version batch :=
      Option.some.inj (hlast.symm.trans hpub)
    have hgen : generation = r.generation := by
      rw [← Run.event_generation r o, hevent]
      rfl
    have hver : version = r.version := Run.event_version hevent
    subst hgen hver
    rw [← hversion]
    exact ⟨hshown batch hevent, r, o, hpast.of_completed hr, hr, rfl, rfl, htext, hup.2, hevent⟩

/-- Once the event of the second check is handled, the editor shows its result. -/
theorem checked_of_overtaken :
    lastPublished ((start plain).run (overtaken ++ [.handled])).sent "a" = some (some 2, []) ∧
    ∃ r o, (start plain).Scheduled (overtaken ++ [.handled]) r ∧
      (start plain).Completed (overtaken ++ [.handled]) r o ∧
      r.uri = "a" ∧ r.version = 2 ∧ r.text = "say 2" ∧
      r.settings = ((start plain).run (overtaken ++ [.handled])).server.settings ∧
      r.event o = .published "a" 2 2 [] := by
  have hbase : Server.ofBase .empty = .ok plain := rfl
  have hstate : ((start plain).run (overtaken ++ [.handled])).server =
      ⟨⟨⟨[]⟩, 2, [], [], []⟩, ⟨[("a", ⟨2, "say 2"⟩)]⟩, .empty, .standard, .off, .running,
        false⟩ := by
    rfl
  have running : ((start plain).run (overtaken ++ [.handled])).server.lifecycle = .running := by
    rw [hstate]
  have hopen : ((start plain).run (overtaken ++ [.handled])).server.documents.get? "a" =
      some ⟨2, "say 2"⟩ := by
    rw [hstate]
    decide
  have hidle : ((start plain).run (overtaken ++ [.handled])).server.flights.current.get? "a" =
      none := by
    rw [hstate]
    decide
  have hlast : (start plain).lastNoticed (overtaken ++ [.handled]) "a" =
      some (.published "a" 2 2 []) := by
    rfl
  exact (checked_of_running hbase _ running "a" _ hopen).2 hidle 2 2 [] hlast

end Session

end DiagnosticBridge
