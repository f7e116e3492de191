import DiagnosticBridge.Proofs.Freshness

namespace DiagnosticBridge

/-!
# Only fresh results are told

The events of runs that are no longer current may still be waiting, and are dropped when their turn
comes.  What the editor is told comes from current runs only, which are up to date.

* `remembered_run` — no two runs of a session ever share a generation, so that the generation of
  an event names one run;
* `current_since_scheduled` — a run that has lost its place never gets it back;
* `told_of_fresh_run` — hence whatever an event makes the server tell the editor is about a run
  that is up to date.
-/

/-- What a notification says if it is about a run and its outcome: diagnostics are those of the
    outcome, for the run's document and version; a warning is the reason why the compiler cannot
    be used. -/
def Notification.IsAbout (r : Run) (o : Outcome) : Notification → Prop
  | .publishDiagnostics uri version batch =>
    uri = r.uri ∧ version = some r.version ∧
      r.event o = .published r.uri r.generation r.version batch
  | .showMessage kind message =>
    kind = .warning ∧ r.event o = .compilerUnavailable r.uri r.generation message
  | .logMessage _ _ => True

namespace Server

/-- A report speaks of nothing but the run of its event. -/
theorem isAbout_of_mem_report {s : Server} {r : Run} {o : Outcome} {n : Notification}
    (h : n ∈ (s.report (r.event o)).2) : n.IsAbout r o := by
  have huri := Run.event_uri r o
  have hgen := Run.event_generation r o
  cases he : r.event o with
  | published uri generation version batch =>
    have hversion := Run.event_version he
    rw [he] at h huri hgen
    rcases List.mem_append.mp h with h | h
    · split at h
      · rw [List.mem_singleton.mp h]
        trivial
      · exact absurd h List.not_mem_nil
    · rw [List.mem_singleton.mp h]
      refine ⟨huri, congrArg some hversion, ?_⟩
      rw [he, ← huri, ← hgen, ← hversion]
      rfl
  | compilerUnavailable uri generation message =>
    rw [he] at h huri hgen
    simp only [report] at h
    split at h
    · exact absurd h List.not_mem_nil
    · rw [List.mem_singleton.mp h]
      refine ⟨rfl, ?_⟩
      rw [he, ← huri, ← hgen]
      rfl
  | failed uri generation message =>
    rw [he] at h
    simp only [report] at h
    split at h
    · rw [List.mem_singleton.mp h]
      trivial
    · exact absurd h List.not_mem_nil

end Server

namespace Session

variable {s : Server} {base : Layer} {server : Server} {past : List Happening} {r : Run}
  {o : Outcome}

/-! ### The runs that there have been -/

/-- Generations only go up from one point of a session to a later one. -/
theorem grows_run (x : Session) (past later : List Happening) :
    (x.run past).server.flights.Grows (x.run (past ++ later)).server.flights := by
  induction later using List.reverseRecOn with
  | nil => rw [List.append_nil]; exact .refl _
  | append_singleton later what ih =>
    rw [← List.append_assoc]
    cases hend : (x.run (past ++ later)).ending with
    | some ending =>
      rw [run_concat_of_ended hend]
      exact ih
    | none =>
      rw [run_concat_of_not_ended hend]
      exact ih.trans (reacts _ what).grows

/-- A run that is held or has ended was so before, or is scheduled. -/
theorem known_concat {x : Session} {past : List Happening} {what : Happening}
    (h : (x.run (past ++ [what])).server.flights.Known (x.Completed (past ++ [what])) r) :
    (x.run past).server.flights.Known (x.Completed past) r ∨
      r ∈ (x.run (past ++ [what])).server.flights.scheduled := by
  rcases h with hr | hr | ⟨o, hr⟩
  · exact Or.inr hr
  · cases hend : (x.run past).ending with
    | some ending =>
      rw [run_concat_of_ended hend] at hr
      exact Or.inl (Or.inr (Or.inl hr))
    | none =>
      rw [run_concat_of_not_ended hend] at hr
      rcases (reacts _ what).begun hr with hr | hr
      · exact Or.inl (Or.inr (Or.inl hr))
      · exact Or.inl (Or.inl hr)
  · rcases completed_concat.mp hr with hr | ⟨_, _, hr⟩
    · exact Or.inl (Or.inr (Or.inr ⟨o, hr⟩))
    · exact Or.inl (Or.inr (Or.inl hr))

/-- What the past tells about the runs that there have been. -/
structure Remembered (x : Session) (past : List Happening) : Prop where
  /-- No run has had a generation that is not given out. -/
  le : ∀ r, x.Scheduled past r → r.generation ≤ (x.run past).server.flights.lastGeneration
  /-- No two runs have shared a generation. -/
  inj : ∀ r r', x.Scheduled past r → x.Scheduled past r' → r.generation = r'.generation → r = r'
  /-- Every run that is held or has ended was once scheduled. -/
  known : ∀ r, (x.run past).server.flights.Known (x.Completed past) r → x.Scheduled past r

/-- A run that has come to an outcome had been scheduled. -/
theorem Remembered.of_completed {x : Session} (h : x.Remembered past) (hr : x.Completed past r o) :
    x.Scheduled past r :=
  h.known r (Or.inr (Or.inr ⟨o, hr⟩))

/-- At the start the runs are those that the server holds. -/
theorem remembered_nil (h : Server.ofBase base = .ok server) : (start server).Remembered [] := by
  have hfresh := fresh_run h []
  have hsched : ∀ r, (start server).Scheduled [] r →
      r ∈ ((start server).run []).server.flights.scheduled := by
    rintro r ⟨earlier, hpre, hr⟩
    rwa [List.prefix_nil.mp hpre] at hr
  refine ⟨fun r hr => hfresh.tracked.known_le r (Or.inl (hsched r hr)),
    fun r r' hr hr' => hfresh.tracked.known_inj r r' (Or.inl (hsched r hr))
      (Or.inl (hsched r' hr')), ?_⟩
  rintro r (hr | hr | ⟨o, hr⟩)
  · exact ⟨[], List.prefix_refl _, hr⟩
  · have hr : r ∈ server.flights.begun := hr
    rw [(Server.empty_of_base h).1] at hr
    exact absurd hr List.not_mem_nil
  · exact absurd hr not_completed_nil

/-- A scheduled run was scheduled before or has a generation that no earlier run had. -/
theorem scheduled_before_or_new {what : Happening}
    (hr : (start server).Scheduled (past ++ [what]) r) :
    (start server).Scheduled past r ∨
      (((start server).run past).server.flights.lastGeneration < r.generation ∧
        r ∈ ((start server).run (past ++ [what])).server.flights.scheduled) := by
  rcases scheduled_concat.mp hr with hr | hr
  · exact Or.inl hr
  · rcases (grows_run (start server) past [what]).scheduled r hr with hold | hlt
    · exact Or.inl ⟨past, List.prefix_refl _, hold⟩
    · exact Or.inr ⟨hlt, hr⟩

/-- Whatever happens next, generations go on to name runs. -/
theorem Remembered.concat (h : Server.ofBase base = .ok server)
    (hpast : (start server).Remembered past) (what : Happening) :
    (start server).Remembered (past ++ [what]) := by
  have hfresh := fresh_run h (past ++ [what])
  refine ⟨?_, ?_, ?_⟩
  · intro r hr
    rcases scheduled_before_or_new hr with hold | ⟨_, hr⟩
    · exact Nat.le_trans (hpast.le r hold) (grows_run (start server) past [what]).last
    · exact hfresh.tracked.known_le r (Or.inl hr)
  · intro r r' hr hr' heq
    rcases scheduled_before_or_new hr with hold | ⟨hlt, hr⟩ <;>
      rcases scheduled_before_or_new hr' with hold' | ⟨hlt', hr'⟩
    · exact hpast.inj r r' hold hold' heq
    · have := hpast.le r hold
      omega
    · have := hpast.le r' hold'
      omega
    · exact hfresh.tracked.known_inj r r' (Or.inl hr) (Or.inl hr') heq
  · intro r hr
    rcases known_concat hr with hr | hr
    · exact (hpast.known r hr).mono (List.prefix_append _ _)
    · exact scheduled_concat.mpr (Or.inr hr)

/-- **Generations name runs.** No two runs of a session share a generation. -/
theorem remembered_run (h : Server.ofBase base = .ok server) (past : List Happening) :
    (start server).Remembered past := by
  induction past using List.reverseRecOn with
  | nil => exact remembered_nil h
  | append_singleton past what ih => exact ih.concat h what

/-- A run stays current from where it is scheduled up to where it is current: once it is
    superseded or cancelled it never becomes current again. -/
theorem current_since_scheduled (h : Server.ofBase base = .ok server) {earlier : List Happening}
    (hpre : earlier <+: past) (hr : (start server).Scheduled earlier r)
    (hcur : ((start server).run past).server.flights.current.get? r.uri = some r.generation) :
    ((start server).run earlier).server.flights.current.get? r.uri = some r.generation := by
  obtain ⟨later, rfl⟩ := hpre
  rcases (grows_run (start server) earlier later).current _ _ hcur with hold | hlt
  · exact hold
  · have := (remembered_run h earlier).le r hr
    omega

/-! ### What the editor is told -/

/-- What the editor is told when an event is handled is the report of the first event, whose run
    is current. -/
theorem exists_event_of_told {n : Notification}
    (h : .notification n ∈ (reaction s .handled).sent) :
    ∃ e later, s.flights.arrived = e :: later ∧
      s.flights.current.get? e.uri = some e.generation ∧
        n ∈ (({ s with flights := s.flights.take e later } : Server).report e).2 := by
  have hr := reacts s .handled
  generalize reaction s .handled = told at h hr
  -- Nothing is told when no event waits, or when its run is not current.
  cases hr with
  | idles => exact absurd h List.not_mem_nil
  | notices e later waits current =>
    obtain ⟨m, hm, heq⟩ := List.mem_map.mp h
    rw [Outgoing.notification.injEq] at heq
    exact ⟨e, later, waits, current, heq ▸ hm⟩
  | drops => exact absurd h List.not_mem_nil

/-- **Only fresh results are told.** At every point of a session, the current run of a document
    is the one run of its generation, over the version and the text that are stored and under the
    settings in force.  Hence whatever the server tells the editor when it handles an event is
    about a run that is up to date at that moment, that came to the outcome that is told, and that
    has been current ever since it was scheduled: a superseded, cancelled or outdated result is
    never told. -/
theorem told_of_fresh_run (h : Server.ofBase base = .ok server) (past : List Happening) :
    (∀ uri generation,
      ((start server).run past).server.flights.current.get? uri = some generation →
      ∃ r, (start server).Scheduled past r ∧ r.uri = uri ∧ r.generation = generation ∧
        (∀ q, (start server).Scheduled past q → q.generation = generation → q = r) ∧
        ((start server).run past).server.UpToDate r) ∧
    (∀ n, .notification n ∈ (reaction ((start server).run past).server .handled).sent →
      ∃ r o, (start server).Scheduled past r ∧ (start server).Completed past r o ∧
        ((start server).run past).server.UpToDate r ∧ n.IsAbout r o ∧
        ∀ earlier, earlier <+: past → (start server).Scheduled earlier r →
          ((start server).run earlier).server.flights.current.get? r.uri =
            some r.generation) := by
  have hfresh := fresh_run h past
  have hpast := remembered_run h past
  refine ⟨?_, ?_⟩
  · intro uri generation hcur
    obtain ⟨r, huri, hgen, hwaits, hup⟩ := hfresh.current uri generation hcur
    have hr := hpast.known r hwaits.known
    exact ⟨r, hr, huri, hgen, fun q hq hq' => hpast.inj q r hq hr (hq'.trans hgen.symm), hup⟩
  · intro n hn
    obtain ⟨e, later, harrived, hcur, hn⟩ := exists_event_of_told hn
    obtain ⟨r, o, hr, rfl⟩ := hfresh.tracked.arrived e (harrived ▸ List.mem_cons_self)
    rw [Run.event_uri, Run.event_generation] at hcur
    exact ⟨r, o, hpast.of_completed hr, hr, hfresh.upToDate_of_current hr hcur,
      Server.isAbout_of_mem_report hn,
      fun earlier hpre hs => current_since_scheduled h hpre hs hcur⟩

/-! ### An edit that overtakes a check -/

/-- A server with the standard settings, as it is when the session begins. -/
def plain : Server := ⟨.empty, .empty, .empty, .standard, .off, .awaiting, false⟩

/-- A notification as the reader gets it from the editor. -/
def noticeItem (method : String) (params : Json) : Frame.Item :=
  .message (.object [("method", .string method), ("params", params)])

/-- The check of a document has ended, but its event is still waiting when the document is
    changed; then the second check ends too. -/
def overtaken : List Happening :=
  [.received (.message (.object [("id", .whole 1), ("method", .string "initialize"),
      ("params", .null)])),
    .received (noticeItem "textDocument/didOpen" (.object [("textDocument",
      .object [("text", .string "say 1"), ("uri", .string "a"), ("version", .whole 1)])])),
    .began 1,
    .completed 1 (.ok .clean),
    .received (noticeItem "textDocument/didChange" (.object [
      ("contentChanges", .array [.object [("text", .string "say 2")]]),
      ("textDocument", .object [("uri", .string "a"), ("version", .whole 2)])])),
    .handled,
    .began 2,
    .completed 2 (.ok .clean)]

/-- The first run is overtaken by the second, the event of which waits. -/
theorem plain_run_overtaken :
    ((start plain).run overtaken).server =
      ⟨⟨⟨[("a", 2)]⟩, 2, [], [], [.published "a" 2 2 []]⟩, ⟨[("a", ⟨2, "say 2"⟩)]⟩, .empty,
        .standard, .off, .running, false⟩ := by
  rfl

/-- The first check is not told; the second one is current, and its outcome is told next. -/
theorem told_of_overtaken :
    (∃ r, (start plain).Scheduled overtaken r ∧ r.uri = "a" ∧ r.generation = 2 ∧
      (∀ q, (start plain).Scheduled overtaken q → q.generation = 2 → q = r) ∧
      ((start plain).run overtaken).server.UpToDate r) ∧
    (∃ r o, (start plain).Scheduled overtaken r ∧ (start plain).Completed overtaken r o ∧
      ((start plain).run overtaken).server.UpToDate r ∧
      (Notification.publishDiagnostics "a" (some 2) []).IsAbout r o ∧
      ∀ earlier, earlier <+: overtaken → (start plain).Scheduled earlier r →
        ((start plain).run earlier).server.flights.current.get? r.uri = some r.generation) := by
  have hbase : Server.ofBase .empty = .ok plain := rfl
  have hcur : ((start plain).run overtaken).server.flights.current.get? "a" = some 2 := by
    rw [plain_run_overtaken]
    decide
  have hsent : .notification (.publishDiagnostics "a" (some 2) []) ∈
      (reaction ((start plain).run overtaken).server .handled).sent := by
    rw [plain_run_overtaken]
    exact List.mem_singleton.mpr rfl
  exact ⟨(told_of_fresh_run hbase overtaken).1 "a" 2 hcur,
    (told_of_fresh_run hbase overtaken).2 _ hsent⟩

end Session

end DiagnosticBridge
