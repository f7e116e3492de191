import DiagnosticBridge.Proofs.Messages
import DiagnosticBridge.Proofs.SingleFlight

namespace DiagnosticBridge

/-!
# After shutdown

Shutting down aborts the runs of the open documents only.  There are no others: whatever is alive
is current, and whatever is current belongs to an open document.

* `Session.Reacts.idle` — no run is current in a session that is shut down;
* `Server.Down`, `Session.Reacts.down` — such a session stays as it is, whatever happens to it, and
  nothing but responses is sent;
* `Session.silent_of_down` — so this holds for good.
-/

namespace Server

/-- The session is shut down, and no run is current or alive. -/
structure Down (s : Server) : Prop where
  /-- The session is shut down. -/
  lifecycle : s.lifecycle = .shuttingDown
  /-- No document has a current run. -/
  idle : ∀ uri, s.flights.current.get? uri = none
  /-- No run is alive. -/
  not_alive : ∀ r, ¬ s.flights.Alive r

/-- Once the runs of all open documents are aborted no document has one. -/
theorem Fresh.idle_cancelAll {s : Server} {ended : Run → Outcome → Prop} (h : s.Fresh ended)
    (uri : String) : s.cancelAll.flights.current.get? uri = none := by
  show (s.documents.keys.foldl Flights.cancel s.flights).current.get? uri = none
  rw [Flights.get?_cancelEach]
  split
  · rfl
  · next hnot =>
    -- A document that is not open has no current run to begin with.
    exact Option.eq_none_iff_forall_ne_some.mpr fun _ hcur => hnot (h.mem_keys hcur)

/-- A running session is shut down by a request. -/
theorem answer_shutdown {s : Server} (running : s.lifecycle = .running) (id params : Json) :
    s.answer id "shutdown" params =
      ({ s with lifecycle := .shuttingDown }.cancelAll, .ok id .null) := by
  unfold answer
  rw [running]
  rfl

/-- At any other time the request is refused. -/
theorem answer_shutdown_of_not_running {s : Server} (h : s.lifecycle ≠ .running)
    (id params : Json) :
    ∃ code message, s.answer id "shutdown" params = (s, ⟨id, .failure code message⟩) := by
  unfold answer
  cases hl : s.lifecycle with
  | awaiting => exact ⟨_, _, rfl⟩
  | running => exact absurd hl h
  | shuttingDown => exact ⟨_, _, rfl⟩

end Server

namespace Session

variable {s : Server} {x : Session} {what : Happening} {reaction' : Server.Reaction}
  {ended : Run → Outcome → Prop} {base : Layer} {server : Server} {past : List Happening}

/-- **No run is current after shutdown.** Every reaction keeps this. -/
theorem Reacts.idle (hr : Reacts s what reaction') (hf : s.Fresh ended)
    (h : s.lifecycle = .shuttingDown → ∀ uri, s.flights.current.get? uri = none)
    (down : reaction'.server.lifecycle = .shuttingDown) (uri : String) :
    reaction'.server.flights.current.get? uri = none := by
  -- Where the session is running before, it is not shut down by the reaction.
  have hrunning : ∀ t : Server, s.lifecycle = .running → t.lifecycle = s.lifecycle →
      t.lifecycle ≠ .shuttingDown := by
    intro t running hsame
    rw [hsame, running]
    exact Lifecycle.noConfusion
  cases hr with
  | shutsDown response running =>
    have hdown : { s with lifecycle := .shuttingDown : Server }.Fresh ended :=
      ⟨hf.tracked, hf.ordered, (fun hl => nomatch hl), hf.current⟩
    exact hdown.idle_cancelAll uri
  | stays => exact h down uri
  | opens p =>
    obtain ⟨settings, trace, heq⟩ := s.opened_eq p
    have down : (s.opened p).lifecycle = .shuttingDown := down
    rw [heq] at down
    cases down
  | stores _ _ _ running => exact absurd down (hrunning _ running rfl)
  | closes _ running => exact absurd down (hrunning _ running rfl)
  | configures value running =>
    obtain ⟨settings, trace, heq⟩ := s.configure_eq value
    rw [Server.checkAll_eq, heq] at down
    exact absurd down (hrunning _ running rfl)
  | traces _ running => exact absurd down (hrunning _ running rfl)
  | begins => exact h down uri
  | completes => exact h down uri
  | idles => exact h down uri
  | notices e later =>
    obtain ⟨warned, heq⟩ := ({ s with flights := s.flights.take e later } : Server).report_eq e
    rw [heq] at down ⊢
    show (s.flights.take e later).current.get? uri = none
    rw [Flights.get?_take, h down uri, ite_self]
  | drops e later =>
    show (s.flights.take e later).current.get? uri = none
    rw [Flights.get?_take, h down uri, ite_self]

/-- No run is current or alive in a session that is shut down. -/
theorem down_run (h : Server.ofBase base = .ok server)
    (down : ((start server).run past).server.lifecycle = .shuttingDown) :
    ((start server).run past).server.Down := by
  have hidle := invariant_of_fresh
    (P := fun s _ _ => s.lifecycle = .shuttingDown → ∀ uri, s.flights.current.get? uri = none) h
    (fun _ uri => by rw [(Server.empty_of_base h).1]; rfl)
    (fun s _ _ what hf hs => (reacts s what).idle hf hs) past down
  exact ⟨down, hidle, (singleFlight_run h past).not_alive_of_idle hidle⟩

/-- **Shut down for good.** Whatever happens to a session that is shut down, it stays so, no run
    is scheduled, and nothing but responses is sent. -/
theorem Reacts.down (hr : Reacts s what reaction') (h : s.Down) :
    reaction'.server.Down ∧
      reaction'.server.flights.lastGeneration = s.flights.lastGeneration ∧
      ∃ responses : List Response, reaction'.sent = responses.map .response := by
  have hnot_running : s.lifecycle ≠ .running := by
    rw [h.lifecycle]
    exact Lifecycle.noConfusion
  have hscheduled : ∀ r, r ∉ s.flights.scheduled := fun r hr => h.not_alive r (Or.inl hr)
  have hbegun : ∀ r, r ∉ s.flights.begun := fun r hr => h.not_alive r (Or.inr hr)
  -- No running session, no run alive and no event current: most reactions are impossible.
  cases hr with
  | stays responses => exact ⟨h, rfl, responses, rfl⟩
  | opens p response awaiting =>
    rw [h.lifecycle] at awaiting
    cases awaiting
  | shutsDown _ running => exact absurd running hnot_running
  | stores _ _ _ running => exact absurd running hnot_running
  | closes _ running => exact absurd running hnot_running
  | configures _ running => exact absurd running hnot_running
  | traces _ running => exact absurd running hnot_running
  | begins generation =>
    refine ⟨⟨h.lifecycle, h.idle, ?_⟩, rfl, [], rfl⟩
    rintro r (hr | hr)
    · exact hscheduled r (Flights.mem_without.mp hr).1
    · rcases List.mem_append.mp hr with hr | hr
      · exact hbegun r hr
      · exact hscheduled r (List.mem_filter.mp hr).1
  | completes generation outcome =>
    refine ⟨⟨h.lifecycle, h.idle, ?_⟩, rfl, [], rfl⟩
    rintro r (hr | hr)
    · exact hscheduled r hr
    · exact hbegun r (Flights.mem_without.mp hr).1
  | idles => exact ⟨h, rfl, [], rfl⟩
  | notices e later waits current =>
    rw [h.idle] at current
    cases current
  | drops e later =>
    obtain ⟨hs, hb, _, hl⟩ := Flights.take_eq (f := s.flights) e later
    refine ⟨⟨h.lifecycle, fun uri => ?_, ?_⟩, hl, [], rfl⟩
    · show (s.flights.take e later).current.get? uri = none
      rw [Flights.get?_take, h.idle uri, ite_self]
    · rintro r (hr | hr)
      · exact hscheduled r (hs ▸ hr)
      · exact hbegun r (hb ▸ hr)

/-- From here on no run is current or alive, none is scheduled, and nothing but responses is
    sent, whatever happens. -/
def Silent (x : Session) : Prop :=
  ∀ later : List Happening,
    (∀ uri, (x.run later).server.flights.current.get? uri = none) ∧
    (∀ r, ¬ (x.run later).server.flights.Alive r) ∧
    (x.run later).server.flights.lastGeneration = x.server.flights.lastGeneration ∧
    ∃ responses : List Response, (x.run later).sent = x.sent ++ responses.map .response

/-- What one reaction keeps holds after any number of them. -/
theorem down_later (h : x.server.Down) (later : List Happening) :
    (x.run later).server.Down ∧
      (x.run later).server.flights.lastGeneration = x.server.flights.lastGeneration ∧
      ∃ responses : List Response, (x.run later).sent = x.sent ++ responses.map .response := by
  induction later using List.reverseRecOn with
  | nil => exact ⟨h, rfl, [], by simp [run]⟩
  | append_singleton later what ih =>
    obtain ⟨hdown, hlast, responses, hsent⟩ := ih
    cases hend : (x.run later).ending with
    | some ending =>
      rw [run_concat_of_ended hend]
      exact ⟨hdown, hlast, responses, hsent⟩
    | none =>
      obtain ⟨hdown', hlast', responses', hsent'⟩ := (reacts _ what).down hdown
      rw [run_concat_of_not_ended hend]
      refine ⟨hdown', hlast'.trans hlast, responses ++ responses', ?_⟩
      rw [hsent, hsent', List.map_append, List.append_assoc]

/-- A session that is shut down is silent from there on. -/
theorem silent_of_down (h : x.server.Down) : x.Silent := fun later =>
  have hlater := down_later h later
  ⟨hlater.1.idle, hlater.1.not_alive, hlater.2⟩

end Session

end DiagnosticBridge
