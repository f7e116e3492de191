import DiagnosticBridge.Proofs.Freshness

namespace DiagnosticBridge

/-!
# A single flight for each document

The table of current runs and the runs themselves are updated one at a time.  What ties them
together is `SingleFlight`: every run that is alive is the current one of its document, so that
no document has two of them, and a document without a current run has none at all.

* `Flights.SingleFlight.schedule` and its siblings — every operation on runs keeps this;
* `Session.singleFlight_run` — so it holds at every point of every session.
-/

namespace Flights

variable {f : Flights} {ended ended' : Run → Outcome → Prop} {r : Run}

/-- A run that has been scheduled, was not aborted and has no outcome yet. -/
def Alive (f : Flights) (r : Run) : Prop := r ∈ f.scheduled ∨ r ∈ f.begun

/-- Every run that is alive is current, given which runs have ended so far and how. -/
structure SingleFlight (f : Flights) (ended : Run → Outcome → Prop) : Prop where
  /-- A run that is alive is the current one of its document. -/
  current : ∀ r, f.Alive r → f.current.get? r.uri = some r.generation
  /-- A run that has begun is not scheduled any more. -/
  not_begun : ∀ r ∈ f.scheduled, r ∉ f.begun
  /-- A run that has ended is not alive any more. -/
  not_alive : ∀ r o, ended r o → ¬ f.Alive r

/-- A run that is alive is held. -/
theorem Alive.known (h : f.Alive r) : f.Known ended r := by
  rcases h with h | h
  · exact Or.inl h
  · exact Or.inr (Or.inl h)

/-- Aborting takes the current run of a document away, and leaves the others alive. -/
theorem alive_cancel {uri : String} :
    (f.cancel uri).Alive r ↔ f.Alive r ∧ f.current.get? uri ≠ some r.generation := by
  rw [Alive, mem_scheduled_cancel, mem_begun_cancel, Alive, or_and_right]

/-- Where every run alive is current, those that cancelling leaves are so too, and belong to other
    documents. -/
theorem current_of_alive_cancel
    (h : ∀ r, f.Alive r → f.current.get? r.uri = some r.generation) {uri : String}
    (hr : (f.cancel uri).Alive r) :
    r.uri ≠ uri ∧ (f.cancel uri).current.get? r.uri = some r.generation := by
  obtain ⟨halive, hgen⟩ := alive_cancel.mp hr
  have hcur := h r halive
  have hne : r.uri ≠ uri := fun heq => hgen (heq ▸ hcur)
  rw [get?_cancel, if_neg hne]
  exact ⟨hne, hcur⟩

/-- What is alive after scheduling is left by the abortion, or is the new run. -/
theorem alive_schedule {uri : String} {version : Int} {text : String}
    {settings : CompilerSettings} :
    (f.schedule uri version text settings).Alive r ↔
      (f.cancel uri).Alive r ∨ r = f.nextRun uri version text settings := by
  show r ∈ (f.cancel uri).scheduled ++ [_] ∨ r ∈ (f.cancel uri).begun ↔ _
  rw [List.mem_append, List.mem_singleton, Alive, or_right_comm]

/-- Where every run alive is current, so it is when a run is scheduled. -/
theorem current_of_alive_schedule
    (h : ∀ r, f.Alive r → f.current.get? r.uri = some r.generation) {uri : String} {version : Int}
    {text : String} {settings : CompilerSettings}
    (hr : (f.schedule uri version text settings).Alive r) :
    (f.schedule uri version text settings).current.get? r.uri = some r.generation := by
  rw [get?_schedule]
  rcases alive_schedule.mp hr with hr | rfl
  · obtain ⟨hne, hcur⟩ := current_of_alive_cancel h hr
    rw [get?_cancel, if_neg hne] at hcur
    rw [if_neg hne]
    exact hcur
  · exact if_pos rfl

/-- There are no runs at first. -/
theorem singleFlight_empty : empty.SingleFlight (fun _ _ => False) where
  current := by
    rintro r (hr | hr)
    · exact absurd hr List.not_mem_nil
    · exact absurd hr List.not_mem_nil
  not_begun _ hr := absurd hr List.not_mem_nil
  not_alive _ _ h := h.elim

namespace SingleFlight

/-- Aborting a run makes none alive. -/
theorem cancel (h : f.SingleFlight ended) (uri : String) : (f.cancel uri).SingleFlight ended where
  current _ hr := (current_of_alive_cancel h.current hr).2
  not_begun r hs hb :=
    h.not_begun r (mem_scheduled_cancel.mp hs).1 (mem_begun_cancel.mp hb).1
  not_alive r o ho hr := h.not_alive r o ho (alive_cancel.mp hr).1

/-- A scheduled run is current, and it is none of those that have begun or ended. -/
theorem schedule (h : f.SingleFlight ended) (hf : f.Tracked ended) (uri : String) (version : Int)
    (text : String) (settings : CompilerSettings) :
    (f.schedule uri version text settings).SingleFlight ended := by
  have hnew : ¬ f.Known ended (f.nextRun uri version text settings) :=
    fun hk => absurd (hf.known_le _ hk) (Nat.not_succ_le_self _)
  refine ⟨fun r hr => current_of_alive_schedule h.current hr, ?_, ?_⟩
  · intro r hs hb
    rcases List.mem_append.mp hs with hs | hs
    · exact (h.cancel uri).not_begun r hs hb
    · have hb : r ∈ (f.cancel uri).begun := hb
      rw [List.mem_singleton.mp hs] at hb
      exact hnew (Or.inr (Or.inl (mem_begun_cancel.mp hb).1))
  · intro r o ho hr
    rcases alive_schedule.mp hr with hr | rfl
    · exact (h.cancel uri).not_alive r o ho hr
    · exact hnew (Or.inr (Or.inr ⟨o, ho⟩))

/-- A run that begins was alive already. -/
theorem start (h : f.SingleFlight ended) (generation : Nat) :
    (f.start generation).SingleFlight ended := by
  have halive : ∀ r, (f.start generation).Alive r → f.Alive r := by
    rintro r (hr | hr)
    · exact Or.inl (mem_without.mp hr).1
    · rcases List.mem_append.mp hr with hr | hr
      · exact Or.inr hr
      · exact Or.inl (List.mem_filter.mp hr).1
  refine ⟨fun r hr => h.current r (halive r hr), ?_,
    fun r o ho hr => h.not_alive r o ho (halive r hr)⟩
  intro r hs hb
  obtain ⟨hold, hgen⟩ := mem_without.mp hs
  rcases List.mem_append.mp hb with hb | hb
  · exact h.not_begun r hold hb
  · exact hgen (by simpa using (List.mem_filter.mp hb).2)

/-- A run that ends is not alive any more. -/
theorem complete (h : f.SingleFlight ended) (generation : Nat) (o : Outcome)
    (hended : ∀ r o', ended' r o' ↔
      ended r o' ∨ (r.generation = generation ∧ o' = o ∧ r ∈ f.begun)) :
    (f.complete generation o).SingleFlight ended' := by
  have halive : ∀ r, (f.complete generation o).Alive r → f.Alive r := by
    rintro r (hr | hr)
    · exact Or.inl hr
    · exact Or.inr (mem_without.mp hr).1
  refine ⟨fun r hr => h.current r (halive r hr),
    fun r hs hb => h.not_begun r hs (mem_without.mp hb).1, ?_⟩
  intro r o' ho hr
  -- The run that ends now is taken from those that have begun, and it was not scheduled still.
  rcases (hended r o').mp ho with ho | ⟨hgen, _, hbegun⟩
  · exact h.not_alive r o' ho (halive r hr)
  · rcases hr with hr | hr
    · exact h.not_begun r hr hbegun
    · exact (mem_without.mp hr).2 hgen

/-- The run of the first event has ended, so that no run alive loses its place. -/
theorem take (h : f.SingleFlight ended) (hf : f.Tracked ended) {e : Event} {later : List Event}
    (harrived : f.arrived = e :: later) : (f.take e later).SingleFlight ended := by
  obtain ⟨hs, hb, _, _⟩ := take_eq (f := f) e later
  have halive : ∀ r, (f.take e later).Alive r ↔ f.Alive r := by
    intro r
    rw [Alive, hs, hb, Alive]
  refine ⟨?_, ?_, fun r o ho hr => h.not_alive r o ho ((halive r).mp hr)⟩
  · intro r hr
    replace hr := (halive r).mp hr
    have hcur := h.current r hr
    rw [get?_take, if_neg]
    · exact hcur
    · -- It would lose its place only to itself, and then it had ended.
      rintro ⟨huri, hgen⟩
      obtain ⟨q, o, hq, rfl⟩ := hf.arrived e (harrived ▸ List.mem_cons_self)
      rw [← huri, hcur, Option.some.injEq, Run.event_generation] at hgen
      have heq : r = q := hf.known_inj r q hr.known (Or.inr (Or.inr ⟨o, hq⟩)) hgen
      exact h.not_alive q o hq (heq ▸ hr)
  · rw [hs, hb]
    exact h.not_begun

/-- Runs may be scheduled for any number of documents. -/
theorem scheduleAll (h : f.SingleFlight ended) (hf : f.Tracked ended) (settings : CompilerSettings)
    (docs : List (String × Document)) : (f.scheduleAll settings docs).SingleFlight ended := by
  induction docs generalizing f with
  | nil => exact h
  | cons d docs ih => exact ih (h.schedule hf _ _ _ _) (hf.schedule _ _ _ _)

/-- They may be aborted for any number of documents. -/
theorem cancelEach (h : f.SingleFlight ended) (uris : List String) :
    (uris.foldl Flights.cancel f).SingleFlight ended := by
  induction uris generalizing f with
  | nil => exact h
  | cons u uris ih => exact ih (h.cancel u)

/-- Where no run is current none is alive. -/
theorem not_alive_of_idle (h : f.SingleFlight ended) (hidle : ∀ uri, f.current.get? uri = none)
    (r : Run) : ¬ f.Alive r := by
  intro hr
  have hcur := h.current r hr
  rw [hidle] at hcur
  cases hcur

end SingleFlight

end Flights

namespace Session

variable {s : Server} {what : Happening} {reaction' : Server.Reaction}
  {ended ended' : Run → Outcome → Prop} {base : Layer} {server : Server}

/-- **Every reaction keeps the flights single.** -/
theorem Reacts.singleFlight (hr : Reacts s what reaction') (h : s.flights.SingleFlight ended)
    (hf : s.flights.Tracked ended) :
    reaction'.server.flights.SingleFlight (endedAfter s what ended) := by
  have hsame : (∀ g o, what ≠ .completed g o) → endedAfter s what ended = ended :=
    endedAfter_of_not_completed s
  cases hr with
  | completes generation outcome =>
    exact h.complete generation outcome fun _ _ => endedAfter_completed
  | stays =>
    rw [hsame (by simp)]
    exact h
  | opens p =>
    obtain ⟨settings, trace, heq⟩ := s.opened_eq p
    rw [hsame (by simp), heq]
    exact h
  | shutsDown =>
    rw [hsame (by simp)]
    exact h.cancelEach s.documents.keys
  | stores uri version text =>
    rw [hsame (by simp)]
    exact h.schedule hf uri version text s.settings
  | closes uri =>
    rw [hsame (by simp)]
    exact h.cancel uri
  | configures value =>
    obtain ⟨settings, trace, heq⟩ := s.configure_eq value
    rw [hsame (by simp), Server.checkAll_eq, heq]
    exact h.scheduleAll hf settings s.documents.toList
  | traces =>
    rw [hsame (by simp)]
    exact h
  | begins generation =>
    rw [hsame (by simp)]
    exact h.start generation
  | idles =>
    rw [hsame (by simp)]
    exact h
  | notices e later waits =>
    obtain ⟨warned, heq⟩ := ({ s with flights := s.flights.take e later } : Server).report_eq e
    rw [hsame (by simp), heq]
    exact h.take hf waits
  | drops e later waits =>
    rw [hsame (by simp)]
    exact h.take hf waits

/-- **Single flight throughout.** At every point of a session every run that is alive is the
    current one of its document. -/
theorem singleFlight_run (h : Server.ofBase base = .ok server) (past : List Happening) :
    ((start server).run past).server.flights.SingleFlight ((start server).Completed past) := by
  refine invariant_of_fresh (P := fun s ended _ => s.flights.SingleFlight ended) h ?_ ?_ past
  · exact (Server.empty_of_base h).1 ▸ Flights.singleFlight_empty
  · -- That events are handled needs the generations to be in order.
    exact fun s _ _ what hf hs => (reacts s what).singleFlight hs hf.tracked

end Session

end DiagnosticBridge
