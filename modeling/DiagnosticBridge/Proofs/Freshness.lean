import DiagnosticBridge.Proofs.History

namespace DiagnosticBridge

/-!
# Current runs are up to date

The documents, the runs and the settings are kept in three places that are updated one at a time.
What ties them together is `Fresh`: every current run is one over the stored version and text of
an open document under the settings in force, and its result is still to come.

* `Reacts.fresh` — every reaction keeps this;
* `Reacts.grows`, `Reacts.begun` — every reaction lets the generations only go up, and only
  scheduled runs begin;
* `fresh_run` — so the current runs are up to date at every point of every session;
* `invariant_of_fresh` — and so is whatever else the reactions keep that rely on this.
-/

namespace Server

/-- A run over the stored version and text of its document under the settings in force. -/
def UpToDate (s : Server) (r : Run) : Prop :=
  s.documents.get? r.uri = some ⟨r.version, r.text⟩ ∧ r.settings = s.settings

/-- A run that is up to date is over what is stored. -/
theorem UpToDate.stored {s : Server} {r : Run} {doc : Document} (h : s.UpToDate r)
    (hopen : s.documents.get? r.uri = some doc) : r.version = doc.version ∧ r.text = doc.text := by
  rw [h.1, Option.some.injEq] at hopen
  exact hopen ▸ ⟨rfl, rfl⟩

/-- Every current run is up to date and still to be noticed, given which runs have ended so far
    and how.  Before the session is opened there is no document. -/
structure Fresh (s : Server) (ended : Run → Outcome → Prop) : Prop where
  /-- The generations are in order. -/
  tracked : s.flights.Tracked ended
  /-- The documents are in order. -/
  ordered : Table.Sorted s.documents.entries
  /-- No document is open before the session is. -/
  unopened : s.lifecycle = .awaiting → s.documents = .empty
  /-- A current run is up to date. -/
  current : ∀ uri generation, s.flights.current.get? uri = some generation →
    ∃ r, r.uri = uri ∧ r.generation = generation ∧ s.flights.Waits ended r ∧ s.UpToDate r

variable {s : Server} {ended ended' : Run → Outcome → Prop} {uri text : String} {version : Int}

/-! ### What the parts of a reaction leave alone -/

/-- Taking settings changes nothing but the settings and the trace level. -/
theorem configure_eq (s : Server) (value : Json) :
    ∃ settings trace, (s.configure value).1 = { s with settings := settings, trace := trace } := by
  unfold configure
  split
  · exact ⟨_, _, rfl⟩
  · exact ⟨s.settings, s.trace, rfl⟩

/-- Opening the session changes these and the lifecycle. -/
theorem opened_eq (s : Server) (p : InitializeParams) :
    ∃ settings trace,
      s.opened p = { s with settings := settings, trace := trace, lifecycle := .running } := by
  unfold opened
  cases p.options with
  | none =>
    cases p.trace.bind TraceLevel.ofText? with
    | none => exact ⟨s.settings, s.trace, rfl⟩
    | some level => exact ⟨s.settings, level, rfl⟩
  | some options =>
    obtain ⟨settings, trace, heq⟩ := configure_eq s options
    simp only [heq]
    cases p.trace.bind TraceLevel.ofText? with
    | none => exact ⟨settings, trace, rfl⟩
    | some level => exact ⟨settings, level, rfl⟩

/-- No request touches the documents. -/
theorem answer_eq (s : Server) (id : Json) (method : String) (params : Json) :
    ∃ flights settings trace lifecycle, (s.answer id method params).1 =
      { s with
        flights := flights, settings := settings, trace := trace, lifecycle := lifecycle } := by
  -- Unless the session is opened or shut down, the server stays as it is.
  have hsame : ∃ flights settings trace lifecycle, s =
      { s with flights := flights, settings := settings, trace := trace, lifecycle := lifecycle } :=
    ⟨s.flights, s.settings, s.trace, s.lifecycle, rfl⟩
  unfold answer
  split
  · exact hsame
  · split
    · exact hsame
    · next p _ =>
      obtain ⟨settings, trace, heq⟩ := opened_eq s p
      exact ⟨s.flights, settings, trace, .running, heq⟩
  · exact hsame
  · exact hsame
  · exact ⟨_, s.settings, s.trace, .shuttingDown, rfl⟩
  · exact hsame

/-- A report changes nothing but whether the user has been warned. -/
theorem report_eq (s : Server) (e : Event) :
    ∃ warned, (s.report e).1 = { s with warned := warned } := by
  cases e with
  | published uri generation version batch => exact ⟨s.warned, rfl⟩
  | compilerUnavailable uri generation message =>
    simp only [report]
    split
    · exact ⟨s.warned, rfl⟩
    · exact ⟨true, rfl⟩
  | failed uri generation message => exact ⟨s.warned, rfl⟩

namespace Fresh

/-- A current run belongs to an open document. -/
theorem mem_keys (h : s.Fresh ended) {generation : Nat}
    (hcur : s.flights.current.get? uri = some generation) : uri ∈ s.documents.keys := by
  obtain ⟨r, rfl, _, _, hdoc, _⟩ := h.current uri generation hcur
  by_contra hnot
  rw [Table.get?_eq_none_iff.mpr hnot] at hdoc
  simp at hdoc

/-- The run that a current event is about is the current run of its document. -/
theorem upToDate_of_current (h : s.Fresh ended) {r : Run} {o : Outcome} (hr : ended r o)
    (hcur : s.flights.current.get? r.uri = some r.generation) : s.UpToDate r := by
  obtain ⟨q, _, hgen, hwaits, hup⟩ := h.current r.uri r.generation hcur
  have heq : q = r :=
    h.tracked.known_inj q r hwaits.known (Or.inr (Or.inr ⟨o, hr⟩)) hgen
  exact heq ▸ hup

/-! ### The reactions one by one -/

/-- Opening the session keeps the current runs up to date: there are none. -/
theorem opens (h : s.Fresh ended) (awaiting : s.lifecycle = .awaiting) (p : InitializeParams) :
    (s.opened p).Fresh ended := by
  obtain ⟨settings, trace, heq⟩ := opened_eq s p
  rw [heq]
  refine ⟨h.tracked, h.ordered, fun hl => by simp at hl, ?_⟩
  -- Nothing is current yet, since no document is open.
  intro uri generation hcur
  have hmem := h.mem_keys hcur
  rw [h.unopened awaiting] at hmem
  exact absurd hmem List.not_mem_nil

/-- So does shutting it down, for no run is current any more. -/
theorem shutsDown (h : s.Fresh ended) :
    ({ s with lifecycle := .shuttingDown }.cancelAll).Fresh ended := by
  refine ⟨h.tracked.cancelEach _, h.ordered, fun hl => by simp [cancelAll] at hl, ?_⟩
  intro uri generation hcur
  -- The runs of all open documents are aborted, and there are no others.
  have hcur : (s.documents.keys.foldl Flights.cancel s.flights).current.get? uri =
      some generation := hcur
  obtain ⟨hnot, hold⟩ := Flights.current_cancelEach hcur
  exact absurd (h.mem_keys hold) hnot

/-- Storing a version makes a run over it current. -/
theorem stores (h : s.Fresh ended) (running : s.lifecycle = .running) (uri : String)
    (version : Int) (text : String) :
    (s.store (s.documents.opened uri version text) uri version text).Fresh ended := by
  refine ⟨h.tracked.schedule _ _ _ _, Table.sorted_insert h.ordered _ _,
    fun hl => by simp [store, check, running] at hl, ?_⟩
  intro other generation hcur
  have hcur : (s.flights.schedule uri version text s.settings).current.get? other =
      some generation := hcur
  have hdoc : ∀ k, (s.store (s.documents.opened uri version text) uri version text).documents.get? k
      = if k = uri then some ⟨version, text⟩ else s.documents.get? k :=
    fun k => Table.get?_insert _ _ _ _
  rcases Flights.current_schedule hcur with ⟨rfl, rfl⟩ | ⟨ho, hold⟩
  · -- The new run is over what is stored.
    refine ⟨s.flights.nextRun other version text s.settings, rfl, rfl,
      Or.inl (Flights.mem_scheduled_schedule.mpr (Or.inr rfl)), ?_, rfl⟩
    rw [hdoc]
    exact if_pos rfl
  · obtain ⟨r, rfl, rfl, hwaits, hup⟩ := h.current other generation hold
    refine ⟨r, rfl, rfl, hwaits.schedule h.tracked hold (Ne.symm ho), ?_, hup.2⟩
    rw [hdoc, if_neg ho]
    exact hup.1

/-- Closing a document takes its run away. -/
theorem closes (h : s.Fresh ended) (running : s.lifecycle = .running) (uri : String) :
    { s with flights := s.flights.cancel uri,
             documents := s.documents.closed uri : Server }.Fresh ended := by
  refine ⟨h.tracked.cancel uri, Table.sorted_erase h.ordered uri,
    fun hl => by simp [running] at hl, ?_⟩
  intro other generation hcur
  have hcur : (s.flights.cancel uri).current.get? other = some generation := hcur
  obtain ⟨ho, hold⟩ := Flights.current_cancel hcur
  obtain ⟨r, rfl, rfl, hwaits, hup⟩ := h.current other generation hold
  refine ⟨r, rfl, rfl, hwaits.cancel h.tracked hold (Ne.symm ho), ?_, hup.2⟩
  show (s.documents.erase uri).get? r.uri = _
  rw [Table.get?_erase, if_neg ho]
  exact hup.1

/-- When all documents are checked again, each open one gets a run over what is stored. -/
theorem rerun_of_open (h : s.Fresh ended) (settings : CompilerSettings) {doc : Document}
    (hopen : s.documents.get? uri = some doc) :
    ∃ i, s.flights.rerun settings uri doc i ∈
        (s.flights.scheduleAll settings s.documents.toList).scheduled ∧
      (s.flights.scheduleAll settings s.documents.toList).current.get? uri =
        some (s.flights.lastGeneration + 1 + i) := by
  obtain ⟨i, hi⟩ := List.mem_iff_getElem?.mp (Table.mem_of_get? hopen)
  exact ⟨i, Flights.scheduleAll_current h.tracked (Table.nodup_keys h.ordered) hi⟩

/-- Whatever the settings become, all open documents are checked again under them. -/
theorem checkAll (h : s.Fresh ended) (settings : CompilerSettings) (trace : TraceLevel)
    (warned : Bool) :
    ({ s with settings := settings, trace := trace, warned := warned }.checkAll).Fresh ended := by
  rw [checkAll_eq]
  refine ⟨h.tracked.scheduleAll _ _, h.ordered, h.unopened, ?_⟩
  intro uri generation hcur
  have hcur : (s.flights.scheduleAll settings s.documents.toList).current.get? uri =
      some generation := hcur
  by_cases hmem : uri ∈ s.documents.keys
  · cases hdoc : s.documents.get? uri with
    | none => exact absurd hmem (Table.get?_eq_none_iff.mp hdoc)
    | some doc =>
      obtain ⟨i, hscheduled, hnew⟩ := h.rerun_of_open settings hdoc
      rw [hnew, Option.some.injEq] at hcur
      exact ⟨s.flights.rerun settings uri doc i, rfl, hcur, Or.inl hscheduled, hdoc, rfl⟩
  · -- A document that is not open has no current run to begin with.
    have hnot : uri ∉ s.documents.toList.map (·.1) := hmem
    rw [Flights.get?_scheduleAll_of_not_mem hnot] at hcur
    exact absurd (h.mem_keys hcur) hmem

/-- That a run begins makes no difference to what it is over. -/
theorem begins (h : s.Fresh ended) (generation : Nat) :
    { s with flights := s.flights.start generation : Server }.Fresh ended := by
  refine ⟨h.tracked.start generation, h.ordered, h.unopened, ?_⟩
  intro uri g hcur
  obtain ⟨r, huri, hgen, hwaits, hup⟩ := h.current uri g hcur
  exact ⟨r, huri, hgen, hwaits.start generation, hup⟩

/-- A run that has come to its outcome stays current until its event is taken. -/
theorem completes (h : s.Fresh ended) (generation : Nat) (o : Outcome)
    (hended : ∀ r o', ended' r o' ↔
      ended r o' ∨ (r.generation = generation ∧ o' = o ∧ r ∈ s.flights.begun)) :
    { s with flights := s.flights.complete generation o : Server }.Fresh ended' := by
  refine ⟨h.tracked.complete generation o hended, h.ordered, h.unopened, ?_⟩
  intro uri g hcur
  obtain ⟨r, huri, hgen, hwaits, hup⟩ := h.current uri g hcur
  exact ⟨r, huri, hgen, hwaits.complete generation o hended, hup⟩

/-- With the event of a run, the run is no longer current. -/
theorem takes (h : s.Fresh ended) {e : Event} {later : List Event}
    (harrived : s.flights.arrived = e :: later) (warned : Bool) :
    { s with flights := s.flights.take e later, warned := warned : Server }.Fresh ended := by
  refine ⟨h.tracked.take harrived, h.ordered, h.unopened, ?_⟩
  intro uri generation hcur
  have hcur : (s.flights.take e later).current.get? uri = some generation := hcur
  obtain ⟨r, rfl, rfl, hwaits, hup⟩ := h.current uri generation (Flights.current_take hcur)
  exact ⟨r, rfl, rfl, hwaits.take harrived hcur, hup⟩

end Fresh

/-- A session begins with no runs and no documents. -/
theorem empty_of_base {base : Layer} (h : ofBase base = .ok s) :
    s.flights = .empty ∧ s.documents = .empty := by
  unfold ofBase at h
  cases hres : base.resolve with
  | error e => rw [hres] at h; cases h
  | ok settings =>
    rw [hres] at h
    cases h
    exact ⟨rfl, rfl⟩

/-- In the beginning no run is current. -/
theorem fresh_of_base {base : Layer} (h : ofBase base = .ok s) : s.Fresh (fun _ _ => False) := by
  obtain ⟨hf, hd⟩ := empty_of_base h
  refine ⟨hf ▸ Flights.tracked_empty, hd ▸ List.Pairwise.nil, fun _ => hd, ?_⟩
  intro uri generation hcur
  rw [hf] at hcur
  simp [Flights.empty] at hcur

end Server

namespace Session

variable {s : Server} {what : Happening} {reaction' : Server.Reaction}
  {ended ended' : Run → Outcome → Prop} {base : Layer} {server : Server}
  {past : List Happening} {r : Run} {o : Outcome}

/-! ### Whatever happens -/

/-- **Every reaction keeps the runs fresh.** -/
theorem Reacts.fresh (hr : Reacts s what reaction') (h : s.Fresh ended) :
    reaction'.server.Fresh (endedAfter s what ended) := by
  have hsame : (∀ g o, what ≠ .completed g o) → endedAfter s what ended = ended :=
    endedAfter_of_not_completed s
  cases hr with
  | completes generation outcome =>
    exact h.completes generation outcome fun _ _ => endedAfter_completed
  | stays =>
    rw [hsame (by simp)]
    exact h
  | opens p _ awaiting =>
    rw [hsame (by simp)]
    exact h.opens awaiting p
  | shutsDown =>
    rw [hsame (by simp)]
    exact h.shutsDown
  | stores uri version text running =>
    rw [hsame (by simp)]
    exact h.stores running uri version text
  | closes uri running =>
    rw [hsame (by simp)]
    exact h.closes running uri
  | configures value running =>
    obtain ⟨settings, trace, heq⟩ := s.configure_eq value
    rw [hsame (by simp), heq]
    exact h.checkAll settings trace false
  | traces level running =>
    rw [hsame (by simp)]
    exact ⟨h.tracked, h.ordered, h.unopened, h.current⟩
  | begins generation =>
    rw [hsame (by simp)]
    exact h.begins generation
  | idles =>
    rw [hsame (by simp)]
    exact h
  | notices e later waits current =>
    obtain ⟨warned, heq⟩ := ({ s with flights := s.flights.take e later } : Server).report_eq e
    rw [hsame (by simp), heq]
    exact h.takes waits warned
  | drops e later waits stale =>
    rw [hsame (by simp)]
    exact h.takes waits s.warned

/-- Every reaction lets the generations only go up. -/
theorem Reacts.grows (hr : Reacts s what reaction') :
    s.flights.Grows reaction'.server.flights := by
  cases hr with
  | stays => exact .refl _
  | opens p _ awaiting =>
    obtain ⟨settings, trace, heq⟩ := s.opened_eq p
    rw [heq]
    exact .refl _
  | shutsDown => exact Flights.grows_cancelEach _ _
  | stores uri version text running => exact Flights.grows_schedule _ _ _ _ _
  | closes uri running => exact Flights.grows_cancel _ _
  | configures value running =>
    obtain ⟨settings, trace, heq⟩ := s.configure_eq value
    rw [Server.checkAll_eq, heq]
    exact Flights.grows_scheduleAll _ _ _
  | traces => exact .refl _
  | begins generation => exact Flights.grows_start _ _
  | completes generation outcome => exact Flights.grows_complete _ _ _
  | idles => exact .refl _
  | notices e later waits current =>
    obtain ⟨warned, heq⟩ := ({ s with flights := s.flights.take e later } : Server).report_eq e
    rw [heq]
    exact Flights.grows_take _ _ _
  | drops e later waits stale => exact Flights.grows_take _ _ _

/-- Only scheduled runs begin. -/
theorem Reacts.begun (hr : Reacts s what reaction')
    (hmem : r ∈ reaction'.server.flights.begun) :
    r ∈ s.flights.begun ∨ r ∈ s.flights.scheduled := by
  cases hr with
  | stays => exact Or.inl hmem
  | opens p _ awaiting =>
    obtain ⟨settings, trace, heq⟩ := s.opened_eq p
    rw [heq] at hmem
    exact Or.inl hmem
  | shutsDown => exact Or.inl (Flights.mem_begun_cancelEach hmem)
  | stores uri version text running => exact Or.inl (Flights.mem_begun_schedule.mp hmem).1
  | closes uri running => exact Or.inl (Flights.mem_begun_cancel.mp hmem).1
  | configures value running =>
    obtain ⟨settings, trace, heq⟩ := s.configure_eq value
    rw [Server.checkAll_eq, heq] at hmem
    exact Or.inl (Flights.mem_begun_scheduleAll hmem)
  | traces => exact Or.inl hmem
  | begins generation =>
    rcases List.mem_append.mp hmem with hmem | hmem
    · exact Or.inl hmem
    · exact Or.inr (List.mem_filter.mp hmem).1
  | completes generation outcome => exact Or.inl (Flights.mem_without.mp hmem).1
  | idles => exact Or.inl hmem
  | notices e later waits current =>
    obtain ⟨warned, heq⟩ := ({ s with flights := s.flights.take e later } : Server).report_eq e
    rw [heq] at hmem
    exact Or.inl ((Flights.take_eq e later).2.1 ▸ hmem)
  | drops e later waits stale => exact Or.inl ((Flights.take_eq e later).2.1 ▸ hmem)

/-! ### Whole sessions -/

/-- **Fresh throughout.** At every point of a session the current runs are up to date and still
    to be noticed. -/
theorem fresh_run (h : Server.ofBase base = .ok server) (past : List Happening) :
    ((start server).run past).server.Fresh ((start server).Completed past) :=
  invariant_run (P := fun s ended _ => s.Fresh ended) (Server.fresh_of_base h)
    (fun s _ _ what hs => (reacts s what).fresh hs) past

/-- What holds at the start and is kept by every reaction of a server whose current runs are up to
    date holds at every point of a session. -/
theorem invariant_of_fresh {P : Server → (Run → Outcome → Prop) → List Outgoing → Prop}
    (h : Server.ofBase base = .ok server) (begins : P server (fun _ _ => False) [])
    (keeps : ∀ s ended sent what, s.Fresh ended → P s ended sent →
      P (reaction s what).server (endedAfter s what ended) (sent ++ (reaction s what).sent))
    (past : List Happening) :
    P ((start server).run past).server ((start server).Completed past)
      ((start server).run past).sent := by
  have hboth := invariant_run (P := fun s ended sent => s.Fresh ended ∧ P s ended sent)
    ⟨Server.fresh_of_base h, begins⟩
    (fun s ended sent what hs => ⟨(reacts s what).fresh hs.1, keeps s ended sent what hs.1 hs.2⟩)
    past
  exact hboth.2

end Session

end DiagnosticBridge
