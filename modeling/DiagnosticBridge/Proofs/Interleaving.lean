import DiagnosticBridge.Proofs.SingleFlight
import Mathlib.Logic.Relation
import Mathlib.Data.List.Nodup
import Mathlib.Data.List.Perm.Subperm
import Mathlib.Data.List.Range

namespace DiagnosticBridge

/-!
# Runs in any order

The table of current runs, the runs themselves and the events that wait are updated by different
parties: whoever schedules and cancels, the runs, and whoever receives.  `Traffic.Step` lists what
any of them can do next, so that a path of steps is one way in which they may interleave.

What carries the argument is that every generation is at one place: that of a run that is alive, or
that of an event, never two of them.

* `Traffic.Step.generations` — a step moves generations from place to place, and only scheduling
  adds one, which is new;
* `Traffic.sound_of_reachable` — so that single flight and the origin of events hold in every order;
* `Traffic.Step.passed`, `Traffic.Steps.passed` — a generation that has gone from all places stays
  gone;
* `Traffic.single_flight` — what this says about runs and events;
* `Session.Reacts.steps` — whatever a server does to its runs is a path of such steps.
-/

namespace Flights

variable {f : Flights} {r : Run} {generation : Nat}

/-- The runs that are alive: first those that have not begun, then those that have. -/
def pending (f : Flights) : List Run := f.scheduled ++ f.begun

theorem mem_pending : r ∈ f.pending ↔ f.Alive r := List.mem_append

/-- Aborting adds no run. -/
theorem pending_cancel_sublist (f : Flights) (uri : String) :
    (f.cancel uri).pending.Sublist f.pending := by
  unfold cancel
  split
  · exact List.Sublist.refl _
  · exact List.Sublist.append List.filter_sublist List.filter_sublist

/-- Scheduling adds one run to those that aborting leaves. -/
theorem pending_schedule_perm (f : Flights) (uri : String) (version : Int) (text : String)
    (settings : CompilerSettings) :
    (f.schedule uri version text settings).pending.Perm
      (f.nextRun uri version text settings :: (f.cancel uri).pending) := by
  show (((f.cancel uri).scheduled ++ [_]) ++ (f.cancel uri).begun).Perm _
  rw [List.append_assoc]
  exact List.perm_middle

/-- The runs of one generation and those of the others are all the runs. -/
theorem without_append_perm (generation : Nat) (runs : List Run) :
    (without generation runs ++ runs.filter (·.generation == generation)).Perm runs := by
  refine List.perm_append_comm.trans ?_
  have hnot : without generation runs = runs.filter fun r => !(r.generation == generation) := rfl
  rw [hnot]
  exact List.filter_append_perm _ runs

/-- A run that begins is still pending. -/
theorem pending_start_perm (f : Flights) (generation : Nat) :
    (f.start generation).pending.Perm f.pending := by
  show (without generation f.scheduled ++
    (f.begun ++ f.scheduled.filter (·.generation == generation))).Perm _
  refine (List.Perm.append_left _ List.perm_append_comm).trans ?_
  rw [← List.append_assoc]
  exact (without_append_perm generation f.scheduled).append_right _

/-- It is alive before and after. -/
theorem alive_start : (f.start generation).Alive r ↔ f.Alive r := by
  rw [← mem_pending, ← mem_pending]
  exact (f.pending_start_perm generation).mem_iff

/-- What is received is the event that arrived first. -/
theorem receive?_eq_some_iff {e : Event} {rest : Flights} :
    f.receive? = some (e, rest) ↔
      ∃ later, f.arrived = e :: later ∧ rest = { f with arrived := later } := by
  unfold receive?
  split
  · next h => simp [h]
  · next e' later h =>
    rw [h, Option.some.injEq, Prod.mk.injEq]
    constructor
    · rintro ⟨rfl, rfl⟩
      exact ⟨later, rfl, rfl⟩
    · rintro ⟨_, heq, rfl⟩
      obtain ⟨rfl, rfl⟩ := List.cons.inj heq
      exact ⟨rfl, rfl⟩

/-- A run of another generation stays current when one is forgotten. -/
theorem get?_finish_of_ne {uri other : String} {mine : Nat} (hne : mine ≠ generation)
    (h : f.current.get? other = some mine) :
    (f.finish uri generation).current.get? other = some mine := by
  rw [get?_finish, if_neg]
  · exact h
  · rintro ⟨rfl, hcur⟩
    exact hne (Option.some.inj (h.symm.trans hcur))

/-- Aborting the runs of several documents adds no run either, and loses no event. -/
theorem cancelEach_eq (uris : List String) (f : Flights) :
    (uris.foldl cancel f).arrived = f.arrived ∧
      (uris.foldl cancel f).lastGeneration = f.lastGeneration ∧
        (uris.foldl cancel f).pending.Sublist f.pending := by
  induction uris generalizing f with
  | nil => exact ⟨rfl, rfl, List.Sublist.refl _⟩
  | cons uri uris ih =>
    obtain ⟨ha, hl, hp⟩ := ih (f.cancel uri)
    exact ⟨ha.trans arrived_cancel, hl.trans lastGeneration_cancel,
      hp.trans (f.pending_cancel_sublist uri)⟩

/-- What is alive after that is current. -/
theorem current_of_alive_cancelEach (uris : List String)
    (h : ∀ r, f.Alive r → f.current.get? r.uri = some r.generation)
    (hr : (uris.foldl cancel f).Alive r) :
    (uris.foldl cancel f).current.get? r.uri = some r.generation := by
  induction uris generalizing f with
  | nil => exact h r hr
  | cons uri uris ih => exact ih (fun _ hq => (current_of_alive_cancel h hq).2) hr

end Flights

/-- The checks in flight, and the past that they come from. -/
structure Traffic where
  /-- The checks in flight. -/
  flights : Flights
  /-- The runs that were ever scheduled: what was asked for, with the generation it was given. -/
  calls : List Run
  /-- The events that have been received, in order. -/
  received : List Event

namespace Traffic

/-- Nothing has happened yet. -/
def initial : Traffic := ⟨.empty, [], []⟩

/-- The events of all runs so far: those that have been received, and those that wait. -/
def events (t : Traffic) : List Event := t.received ++ t.flights.arrived

/-- Schedules a run. -/
def schedule (t : Traffic) (uri : String) (version : Int) (text : String)
    (settings : CompilerSettings) : Traffic :=
  { t with
    flights := t.flights.schedule uri version text settings
    calls := t.calls ++ [t.flights.nextRun uri version text settings] }

/-- Cancels the current run of a document. -/
def cancel (t : Traffic) (uri : String) : Traffic := { t with flights := t.flights.cancel uri }

/-- What can happen next, given which outcomes the check of a text under some settings can have.  A
    run is forgotten only once an event of its generation has been received. -/
inductive Step (check : String → CompilerSettings → Outcome → Prop) (t : Traffic) :
    Traffic → Prop where
  /-- A run is scheduled. -/
  | schedules (uri : String) (version : Int) (text : String) (settings : CompilerSettings) :
      Step check t (t.schedule uri version text settings)
  /-- The current run of a document is cancelled. -/
  | cancels (uri : String) : Step check t (t.cancel uri)
  /-- A run that has ended is forgotten. -/
  | finishes (uri : String) (e : Event) (received : e ∈ t.received) :
      Step check t { t with flights := t.flights.finish uri e.generation }
  /-- A run begins. -/
  | begins (generation : Nat) :
      Step check t { t with flights := t.flights.start generation }
  /-- A run that has begun comes to an outcome of its check. -/
  | completes (r : Run) (o : Outcome) (begun : r ∈ t.flights.begun)
      (checked : check r.text r.settings o) :
      Step check t { t with flights := t.flights.complete r.generation o }
  /-- The first event that waits is received. -/
  | receives (e : Event) (rest : Flights) (waits : t.flights.receive? = some (e, rest)) :
      Step check t { t with flights := rest, received := t.received ++ [e] }
  /-- The table is dropped, which aborts every current run. -/
  | drops : Step check t { t with flights := t.flights.cancelAll }

/-- Any number of steps, in any order. -/
def Steps (check : String → CompilerSettings → Outcome → Prop) : Traffic → Traffic → Prop :=
  Relation.ReflTransGen (Step check)

/-- What can be reached from nothing. -/
def Reachable (check : String → CompilerSettings → Outcome → Prop) (t : Traffic) : Prop :=
  Steps check initial t

variable {check : String → CompilerSettings → Outcome → Prop} {t u : Traffic} {r : Run}
  {e : Event}

/-! ### Where generations are -/

/-- The generations of the runs that are alive and of the events. -/
def generations (t : Traffic) : List Nat :=
  t.flights.pending.map (·.generation) ++ t.events.map (·.generation)

/-- The generation of a pending run is taken. -/
theorem generation_of_pending (h : r ∈ t.flights.pending) : r.generation ∈ t.generations :=
  List.mem_append_left _ (List.mem_map_of_mem h)

/-- So is that of an event. -/
theorem generation_of_event (h : e ∈ t.events) : e.generation ∈ t.generations :=
  List.mem_append_right _ (List.mem_map_of_mem h)

/-- Fewer runs alive and the same events: no generation is added. -/
theorem generations_subperm
    (hpending : (u.flights.pending.map Run.generation).Subperm
      (t.flights.pending.map Run.generation))
    (hevents : u.events = t.events) : u.generations.Subperm t.generations := by
  rw [generations, generations, hevents]
  exact hpending.append (List.Subperm.refl _)

/-- A run that comes to its outcome hands its generation over to its event. -/
theorem generations_complete (t : Traffic) (generation : Nat) (o : Outcome) :
    ({ t with flights := t.flights.complete generation o } : Traffic).generations.Perm
      t.generations := by
  have hmoved : ((t.flights.begun.filter (·.generation == generation)).map (·.event o)).map
      Event.generation = (t.flights.begun.filter (·.generation == generation)).map
        Run.generation := by
    rw [List.map_map]
    exact List.map_congr_left fun r _ => Run.event_generation r o
  have hbegun := (Flights.without_append_perm generation t.flights.begun).map Run.generation
  rw [List.map_append] at hbegun
  simp only [generations, events, Flights.pending, Flights.complete, List.map_append, hmoved]
  -- The generations that leave the runs stand at the end of those of the events.
  refine List.Perm.trans ?_ ((hbegun.append_left _).append_right _)
  simp only [List.append_assoc]
  refine List.Perm.append_left _ (List.Perm.append_left _ ?_)
  rw [← List.append_assoc]
  exact List.perm_append_comm

/-- **Generations move.** A step leaves every generation where it is, or moves it from a run to its
    event, or takes it away; scheduling adds the next one. -/
theorem Step.generations (h : Step check t u) :
    (u.generations.Subperm t.generations ∧ u.flights.lastGeneration = t.flights.lastGeneration) ∨
      (u.generations.Subperm ((t.flights.lastGeneration + 1) :: t.generations) ∧
        u.flights.lastGeneration = t.flights.lastGeneration + 1) := by
  cases h with
  | schedules uri version text settings =>
    -- What is aborted loses its generation, and the new run has the next one.
    refine Or.inr ⟨?_, rfl⟩
    have hevents : (t.schedule uri version text settings).events = t.events :=
      congrArg (t.received ++ ·) Flights.arrived_schedule
    have hadded := (t.flights.pending_schedule_perm uri version text settings).map Run.generation
    have hfewer := ((t.flights.pending_cancel_sublist uri).map Run.generation).cons_cons
      (t.flights.lastGeneration + 1)
    rw [Traffic.generations, hevents]
    exact (hadded.subperm.trans hfewer.subperm).append (List.Subperm.refl _)
  | cancels uri =>
    have hfewer := (t.flights.pending_cancel_sublist uri).map Run.generation
    have hevents : (t.cancel uri).events = t.events :=
      congrArg (t.received ++ ·) Flights.arrived_cancel
    exact Or.inl ⟨generations_subperm hfewer.subperm hevents, Flights.lastGeneration_cancel⟩
  | finishes uri e received =>
    obtain ⟨hs, hb, ha, hl⟩ := t.flights.finish_eq uri e.generation
    refine Or.inl ⟨generations_subperm ?_ (congrArg (t.received ++ ·) ha), hl⟩
    rw [Flights.pending, hs, hb]
    exact List.Subperm.refl _
  | begins generation =>
    have hmoved := (t.flights.pending_start_perm generation).map Run.generation
    exact Or.inl ⟨generations_subperm hmoved.subperm rfl, rfl⟩
  | completes r o => exact Or.inl ⟨(t.generations_complete r.generation o).subperm, rfl⟩
  | receives e rest waits =>
    obtain ⟨later, harrived, rfl⟩ := Flights.receive?_eq_some_iff.mp waits
    refine Or.inl ⟨generations_subperm (List.Subperm.refl _) ?_, rfl⟩
    simp only [events, harrived, List.append_assoc, List.singleton_append]
  | drops =>
    obtain ⟨ha, hl, hfewer⟩ := Flights.cancelEach_eq t.flights.current.keys t.flights
    exact Or.inl ⟨generations_subperm (hfewer.map _).subperm (congrArg (t.received ++ ·) ha), hl⟩

/-! ### What every order keeps -/

/-- What holds of the runs and the events in whatever order things happen. -/
structure Sound (check : String → CompilerSettings → Outcome → Prop) (t : Traffic) : Prop where
  /-- No generation is at two places. -/
  once : t.generations.Nodup
  /-- No generation is anywhere before it is given out. -/
  given : ∀ generation ∈ t.generations, generation ≤ t.flights.lastGeneration
  /-- A run that is alive is the current one of its document. -/
  current : ∀ r, t.flights.Alive r → t.flights.current.get? r.uri = some r.generation
  /-- A run that is alive was scheduled. -/
  called : ∀ r, t.flights.Alive r → r ∈ t.calls
  /-- The generations are given out in order. -/
  numbered : t.calls.map (·.generation) = List.range' 1 t.flights.lastGeneration
  /-- An event is that of a scheduled run with an outcome that its check can have. -/
  reported : ∀ e ∈ t.events, ∃ r ∈ t.calls, ∃ o, check r.text r.settings o ∧ e = r.event o

/-- In the beginning nothing is in flight. -/
theorem sound_initial : initial.Sound check where
  once := List.nodup_nil
  given _ h := absurd h List.not_mem_nil
  current r h := absurd h (Flights.singleFlight_empty.not_alive_of_idle (fun _ => rfl) r)
  called r h := absurd h (Flights.singleFlight_empty.not_alive_of_idle (fun _ => rfl) r)
  numbered := rfl
  reported _ h := absurd h List.not_mem_nil

/-- Each generation stays at one place at most: one that is added was at none before. -/
theorem Sound.once_step (h : t.Sound check) (hstep : Step check t u) : u.generations.Nodup := by
  have hnew : ((t.flights.lastGeneration + 1) :: t.generations).Nodup := by
    refine List.nodup_cons.mpr ⟨fun hmem => ?_, h.once⟩
    have := h.given _ hmem
    omega
  obtain ⟨⟨l, hperm, hsub⟩, _⟩ | ⟨⟨l, hperm, hsub⟩, _⟩ := hstep.generations
  · exact hperm.nodup_iff.mp (h.once.sublist hsub)
  · exact hperm.nodup_iff.mp (hnew.sublist hsub)

/-- A step takes only generations that have been given out. -/
theorem Sound.given_step (h : t.Sound check) (hstep : Step check t u) :
    ∀ generation ∈ u.generations, generation ≤ u.flights.lastGeneration := by
  intro generation hmem
  obtain ⟨hsub, hlast⟩ | ⟨hsub, hlast⟩ := hstep.generations
  · rw [hlast]
    exact h.given _ (hsub.subset hmem)
  · rw [hlast]
    rcases List.mem_cons.mp (hsub.subset hmem) with rfl | hold
    · exact Nat.le_refl _
    · exact Nat.le_succ_of_le (h.given _ hold)

/-- A run that is alive has no event. -/
theorem Sound.ne_of_event (h : t.Sound check) (hr : t.flights.Alive r) (he : e ∈ t.events) :
    r.generation ≠ e.generation :=
  (List.nodup_append.mp h.once).2.2 _ (List.mem_map_of_mem (Flights.mem_pending.mpr hr)) _
    (List.mem_map_of_mem he)

/-- No two runs that are alive share a generation. -/
theorem Sound.eq_of_generation (h : t.Sound check) {q : Run} (hq : t.flights.Alive q)
    (hr : t.flights.Alive r) (heq : q.generation = r.generation) : q = r :=
  List.inj_on_of_nodup_map (List.nodup_append.mp h.once).1 (Flights.mem_pending.mpr hq)
    (Flights.mem_pending.mpr hr) heq

/-- A step keeps the runs that are alive, or takes some away, or schedules one. -/
theorem Step.alive (h : Step check t u) (hr : u.flights.Alive r) :
    t.flights.Alive r ∨ r ∈ u.calls := by
  cases h with
  | schedules uri version text settings =>
    rcases Flights.alive_schedule.mp hr with hr | rfl
    · exact Or.inl (Flights.alive_cancel.mp hr).1
    · exact Or.inr (List.mem_append_right _ List.mem_cons_self)
  | cancels uri => exact Or.inl (Flights.alive_cancel.mp hr).1
  | finishes uri e received =>
    obtain ⟨hs, hb, _, _⟩ := t.flights.finish_eq uri e.generation
    exact Or.inl (by rwa [Flights.Alive, hs, hb] at hr)
  | begins generation => exact Or.inl (Flights.alive_start.mp hr)
  | completes r o => exact Or.inl (hr.imp_right fun hb => (Flights.mem_without.mp hb).1)
  | receives e rest waits =>
    obtain ⟨later, _, rfl⟩ := Flights.receive?_eq_some_iff.mp waits
    exact Or.inl hr
  | drops =>
    obtain ⟨_, _, hfewer⟩ := Flights.cancelEach_eq t.flights.current.keys t.flights
    exact Or.inl (Flights.mem_pending.mp (hfewer.subset (Flights.mem_pending.mpr hr)))

/-- A step adds no event but those of the runs whose generation comes to an outcome. -/
theorem Step.events (h : Step check t u) (he : e ∈ u.events) :
    e ∈ t.events ∨ ∃ r o, r ∈ t.flights.begun ∧ check r.text r.settings o ∧
      ∃ q ∈ t.flights.begun, q.generation = r.generation ∧ e = q.event o := by
  cases h with
  | schedules uri version text settings =>
    exact Or.inl (by rwa [Traffic.events, schedule, Flights.arrived_schedule] at he)
  | cancels uri => exact Or.inl (by rwa [Traffic.events, cancel, Flights.arrived_cancel] at he)
  | finishes uri e' received =>
    exact Or.inl (by rwa [Traffic.events, (t.flights.finish_eq uri e'.generation).2.2.1] at he)
  | begins generation => exact Or.inl he
  | completes r o begun checked =>
    rcases List.mem_append.mp he with he | he
    · exact Or.inl (List.mem_append_left _ he)
    · rcases List.mem_append.mp he with he | he
      · exact Or.inl (List.mem_append_right _ he)
      · obtain ⟨q, hq, rfl⟩ := List.mem_map.mp he
        obtain ⟨hq, hgen⟩ := List.mem_filter.mp hq
        exact Or.inr ⟨r, o, begun, checked, q, hq, by simpa using hgen, rfl⟩
  | receives e' rest waits =>
    obtain ⟨later, harrived, rfl⟩ := Flights.receive?_eq_some_iff.mp waits
    refine Or.inl ?_
    simpa only [Traffic.events, harrived, List.append_assoc, List.singleton_append] using he
  | drops =>
    have ha := (Flights.cancelEach_eq t.flights.current.keys t.flights).1
    exact Or.inl (by rwa [Traffic.events, Flights.cancelAll, ha] at he)

/-- A step schedules one run, with the next generation, or none. -/
theorem Step.calls (h : Step check t u) :
    (u.calls = t.calls ∧ u.flights.lastGeneration = t.flights.lastGeneration) ∨
      ∃ r : Run, u.calls = t.calls ++ [r] ∧ r.generation = t.flights.lastGeneration + 1 ∧
        u.flights.lastGeneration = t.flights.lastGeneration + 1 := by
  cases h with
  | schedules uri version text settings => exact Or.inr ⟨_, rfl, rfl, rfl⟩
  | cancels uri => exact Or.inl ⟨rfl, Flights.lastGeneration_cancel⟩
  | finishes uri e received => exact Or.inl ⟨rfl, (t.flights.finish_eq uri e.generation).2.2.2⟩
  | begins generation => exact Or.inl ⟨rfl, rfl⟩
  | completes r o => exact Or.inl ⟨rfl, rfl⟩
  | receives e rest waits =>
    obtain ⟨later, _, rfl⟩ := Flights.receive?_eq_some_iff.mp waits
    exact Or.inl ⟨rfl, rfl⟩
  | drops => exact Or.inl ⟨rfl, (Flights.cancelEach_eq t.flights.current.keys t.flights).2.1⟩

/-- What has been called for stays so. -/
theorem Step.mem_calls (h : Step check t u) (hr : r ∈ t.calls) : r ∈ u.calls := by
  obtain ⟨hcalls, _⟩ | ⟨_, hcalls, _⟩ := h.calls
  · exact hcalls ▸ hr
  · exact hcalls ▸ List.mem_append_left _ hr

namespace Sound

/-- A run that is alive after a step was called for. -/
theorem called_step (h : t.Sound check) (hstep : Step check t u) :
    ∀ r, u.flights.Alive r → r ∈ u.calls := by
  intro r hr
  rcases hstep.alive hr with hr | hr
  · exact hstep.mem_calls (h.called r hr)
  · exact hr

/-- The calls are numbered one by one. -/
theorem numbered_step (h : t.Sound check) (hstep : Step check t u) :
    u.calls.map (·.generation) = List.range' 1 u.flights.lastGeneration := by
  obtain ⟨hcalls, hlast⟩ | ⟨r, hcalls, hgen, hlast⟩ := hstep.calls
  · rw [hcalls, hlast, h.numbered]
  · rw [hcalls, hlast, List.map_append, h.numbered, List.map_singleton, hgen,
      List.range'_1_concat, Nat.add_comm 1]

/-- A run that is alive after a step is current. -/
theorem current_step (h : t.Sound check) (hstep : Step check t u) :
    ∀ r, u.flights.Alive r → u.flights.current.get? r.uri = some r.generation := by
  intro r hr
  -- The table changes for one document at a time, and so do the runs that are alive.
  cases hstep with
  | schedules uri version text settings => exact Flights.current_of_alive_schedule h.current hr
  | cancels uri => exact (Flights.current_of_alive_cancel h.current hr).2
  | finishes uri e received =>
    -- What is forgotten has an event, and no run that is alive has one.
    obtain ⟨hs, hb, _, _⟩ := t.flights.finish_eq uri e.generation
    have hold : t.flights.Alive r := by rwa [Flights.Alive, hs, hb] at hr
    have hne := h.ne_of_event hold (List.mem_append_left _ received)
    exact Flights.get?_finish_of_ne hne (h.current r hold)
  | begins generation => exact h.current r (Flights.alive_start.mp hr)
  | completes r' o =>
    exact h.current r (hr.imp_right fun hb => (Flights.mem_without.mp hb).1)
  | receives e rest waits =>
    obtain ⟨later, _, rfl⟩ := Flights.receive?_eq_some_iff.mp waits
    exact h.current r hr
  | drops => exact Flights.current_of_alive_cancelEach _ h.current hr

/-- An event after a step is one of a run that was called for. -/
theorem reported_step (h : t.Sound check) (hstep : Step check t u) :
    ∀ e ∈ u.events, ∃ r ∈ u.calls, ∃ o, check r.text r.settings o ∧ e = r.event o := by
  have hold : ∀ e ∈ t.events, ∃ r ∈ u.calls, ∃ o, check r.text r.settings o ∧ e = r.event o := by
    intro e he
    obtain ⟨r, hr, hreport⟩ := h.reported e he
    exact ⟨r, hstep.mem_calls hr, hreport⟩
  intro e he
  rcases hstep.events he with he | ⟨r, o, hbegun, hchecked, q, hq, hgen, rfl⟩
  · exact hold e he
  · obtain rfl : q = r := h.eq_of_generation (Or.inr hq) (Or.inr hbegun) hgen
    exact ⟨q, hstep.mem_calls (h.called q (Or.inr hq)), o, hchecked, rfl⟩

/-- **Every step keeps all of it.** -/
theorem step (h : t.Sound check) (hstep : Step check t u) : u.Sound check :=
  ⟨h.once_step hstep, h.given_step hstep, h.current_step hstep, h.called_step hstep,
    h.numbered_step hstep, h.reported_step hstep⟩

end Sound

/-- **Sound in every order.** -/
theorem sound_of_reachable (h : Reachable check t) : t.Sound check := by
  -- By induction on the path from nothing.
  induction h with
  | refl => exact sound_initial
  | tail _ hstep ih => exact ih.step hstep

/-! ### What is gone stays gone -/

/-- A generation that was given out and is at no place any more. -/
def Passed (t : Traffic) (generation : Nat) : Prop :=
  generation ≤ t.flights.lastGeneration ∧ generation ∉ t.generations

variable {generation : Nat}

/-- A generation that is over does not come back in a step. -/
theorem Step.passed (h : Step check t u) (hpassed : t.Passed generation) :
    u.Passed generation := by
  obtain ⟨hle, hnot⟩ := hpassed
  obtain ⟨hsub, hlast⟩ | ⟨hsub, hlast⟩ := h.generations
  · exact ⟨hlast ▸ hle, fun hmem => hnot (hsub.subset hmem)⟩
  · refine ⟨by omega, fun hmem => ?_⟩
    rcases List.mem_cons.mp (hsub.subset hmem) with hnew | hold
    · omega
    · exact hnot hold

/-- Nor does it in any number of steps. -/
theorem Steps.passed (h : Steps check t u) (hpassed : t.Passed generation) :
    u.Passed generation := by
  induction h with
  | refl => exact hpassed
  | tail _ hstep ih => exact hstep.passed ih

/-- A run whose generation is gone is not alive and has no event. -/
theorem Passed.silent (h : t.Passed r.generation) :
    ¬ t.flights.Alive r ∧ ∀ e ∈ t.events, e.generation ≠ r.generation :=
  ⟨fun hr => h.2 (generation_of_pending (Flights.mem_pending.mpr hr)),
    fun _ he heq => h.2 (heq ▸ generation_of_event he)⟩

/-- Cancelling takes the run that is alive away before it has an event. -/
theorem Sound.passed_cancel (h : t.Sound check) (hr : t.flights.Alive r) :
    (t.cancel r.uri).Passed r.generation := by
  have hle := h.given _ (generation_of_pending (Flights.mem_pending.mpr hr))
  have hlast : (t.cancel r.uri).flights.lastGeneration = t.flights.lastGeneration :=
    Flights.lastGeneration_cancel
  refine ⟨hlast ▸ hle, fun hin => ?_⟩
  rcases List.mem_append.mp hin with hin | hin
  · obtain ⟨q, hq, hgen⟩ := List.mem_map.mp hin
    obtain ⟨_, hother⟩ := Flights.alive_cancel.mp (Flights.mem_pending.mp hq)
    exact hother (hgen ▸ h.current r hr)
  · obtain ⟨e, he, hgen⟩ := List.mem_map.mp hin
    rw [events, cancel, Flights.arrived_cancel] at he
    exact h.ne_of_event hr he hgen.symm

/-- So does scheduling another run in its place. -/
theorem Sound.passed_schedule (h : t.Sound check) (hr : t.flights.Alive r) (version : Int)
    (text : String) (settings : CompilerSettings) :
    (t.schedule r.uri version text settings).Passed r.generation := by
  have hle := h.given _ (generation_of_pending (Flights.mem_pending.mpr hr))
  obtain ⟨_, hnot⟩ := h.passed_cancel hr
  refine ⟨Nat.le_succ_of_le hle, fun hin => ?_⟩
  rcases List.mem_append.mp hin with hin | hin
  · obtain ⟨q, hq, hgen⟩ := List.mem_map.mp hin
    rcases Flights.alive_schedule.mp (Flights.mem_pending.mp hq) with hq | rfl
    · exact hnot (hgen ▸ generation_of_pending (t := t.cancel r.uri) (Flights.mem_pending.mpr hq))
    · have hnext : t.flights.lastGeneration + 1 = r.generation := hgen
      omega
  · exact hnot (List.mem_append_right _ hin)

/-! ### Single flight -/

/-- The current run of a document is cancelled or superseded. -/
inductive Displaces (t : Traffic) (uri : String) : Traffic → Prop where
  /-- It is cancelled. -/
  | cancels : Displaces t uri (t.cancel uri)
  /-- Another run is scheduled in its place. -/
  | schedules (version : Int) (text : String) (settings : CompilerSettings) :
      Displaces t uri (t.schedule uri version text settings)

/-- When a run is displaced its generation is over. -/
theorem Sound.passed_displaced (h : t.Sound check) (hr : t.flights.Alive r)
    (hu : t.Displaces r.uri u) : u.Passed r.generation := by
  cases hu with
  | cancels => exact h.passed_cancel hr
  | schedules version text settings => exact h.passed_schedule hr version text settings

/-- No two runs that are alive are of one document. -/
theorem Sound.nodup_uris (h : t.Sound check) : (t.flights.pending.map (·.uri)).Nodup := by
  have hgenerations : (t.flights.pending.map (·.generation)).Nodup :=
    (List.nodup_append.mp h.once).1
  refine List.pairwise_map.mpr ((List.pairwise_map.mp hgenerations).imp_of_mem ?_)
  intro q r hq hr hne huri
  -- Both would be the current run of that document.
  have hcurq := h.current q (Flights.mem_pending.mp hq)
  have hcurr := h.current r (Flights.mem_pending.mp hr)
  rw [huri, hcurr, Option.some.injEq] at hcurq
  exact hne hcurq.symm

/-- **Single flight in every order.** However scheduling, cancelling, forgetting and receiving
    interleave with what the runs do: a run that is alive is the one that the table holds for its
    document, and no document has two; no generation has two events; an event is that of the one
    run scheduled with its generation, for an outcome that the check of the text of that run under
    its settings can have; and a run that is cancelled or superseded while it is alive never has an
    event. -/
theorem single_flight (h : Reachable check t) :
    (∀ r, t.flights.Alive r → t.flights.current.get? r.uri = some r.generation) ∧
      (t.flights.pending.map (·.uri)).Nodup ∧
      (t.events.map (·.generation)).Nodup ∧
      t.calls.map (·.generation) = List.range' 1 t.flights.lastGeneration ∧
      (∀ e ∈ t.events, ∃ r ∈ t.calls, ∃ o, check r.text r.settings o ∧ e = r.event o ∧
        e.uri = r.uri ∧ e.generation = r.generation ∧
          ∀ uri generation version batch, e = .published uri generation version batch →
            version = r.version) ∧
      ∀ r, t.flights.Alive r → ∀ u, t.Displaces r.uri u → ∀ v, Steps check u v →
        ¬ v.flights.Alive r ∧ ∀ e ∈ v.events, e.generation ≠ r.generation := by
  have hsound := sound_of_reachable h
  refine ⟨hsound.current, hsound.nodup_uris, (List.nodup_append.mp hsound.once).2.1,
    hsound.numbered, ?_, ?_⟩
  · intro e he
    obtain ⟨r, hr, o, hchecked, rfl⟩ := hsound.reported e he
    exact ⟨r, hr, o, hchecked, rfl, Run.event_uri r o, Run.event_generation r o,
      fun _ _ _ _ heq => Run.event_version heq⟩
  · intro r hr u hu v hv
    exact (hv.passed (hsound.passed_displaced hr hu)).silent

/-- Every check finds that the document compiles. -/
def compiles (_ : String) (_ : CompilerSettings) (o : Outcome) : Prop := o = .ok .clean

/-- The run over the first version of a document. -/
def firstRun : Run := ⟨"a", 1, 1, "say 1", .standard⟩

/-- The run over its second version. -/
def secondRun : Run := ⟨"a", 2, 2, "say 2", .standard⟩

/-- The first run has begun. -/
def firstBegun : Traffic := ⟨⟨⟨[("a", 1)]⟩, 1, [], [firstRun], []⟩, [firstRun], []⟩

/-- The second run has taken its place and come to its end, and its event has been received. -/
def secondEnded : Traffic :=
  ⟨⟨⟨[("a", 2)]⟩, 2, [], [], []⟩, [firstRun, secondRun], [secondRun.event (.ok .clean)]⟩

/-- A first run can begin. -/
theorem reachable_firstBegun : Reachable compiles firstBegun :=
  (Relation.ReflTransGen.single (.schedules "a" 1 "say 1" .standard)).tail (.begins 1)

/-- A second run can come to its end after the first one is displaced. -/
theorem steps_secondEnded :
    Steps compiles (firstBegun.schedule "a" 2 "say 2" .standard) secondEnded := by
  refine ((Relation.ReflTransGen.single (.begins 2)).tail
    (.completes secondRun (.ok .clean) ?_ rfl)).tail (.receives _ _ rfl)
  exact List.mem_cons_self

/-- The first run is superseded while it is alive, and only the second one has an event. -/
theorem single_flight_superseded :
    Reachable compiles firstBegun ∧ firstBegun.flights.Alive firstRun ∧
      Steps compiles (firstBegun.schedule "a" 2 "say 2" .standard) secondEnded ∧
      secondEnded.events = [.published "a" 2 2 []] ∧
      ¬ secondEnded.flights.Alive firstRun ∧ ∀ e ∈ secondEnded.events, e.generation ≠ 1 := by
  have halive : firstBegun.flights.Alive firstRun := Or.inr List.mem_cons_self
  have hsilent := (single_flight reachable_firstBegun).2.2.2.2.2 firstRun halive _
    (.schedules 2 "say 2" .standard) _ steps_secondEnded
  exact ⟨reachable_firstBegun, halive, steps_secondEnded, rfl, hsilent⟩

end Traffic

/-! ### What a server does to its runs -/

namespace Session

open Traffic

variable {check : String → CompilerSettings → Outcome → Prop} {s : Server} {what : Happening}
  {reaction' : Server.Reaction}

/-- The runs of several documents can be aborted in steps. -/
theorem steps_cancelEach (uris : List String) (t : Traffic) :
    ∃ u, Steps check t u ∧ u.flights = uris.foldl Flights.cancel t.flights := by
  induction uris generalizing t with
  | nil => exact ⟨t, .refl, rfl⟩
  | cons uri uris ih =>
    obtain ⟨u, hsteps, hu⟩ := ih (t.cancel uri)
    exact ⟨u, hsteps.head (.cancels uri), hu⟩

/-- And runs for all documents can be scheduled in steps. -/
theorem steps_scheduleAll (settings : CompilerSettings) (docs : List (String × Document))
    (t : Traffic) :
    ∃ u, Steps check t u ∧ u.flights = t.flights.scheduleAll settings docs := by
  induction docs generalizing t with
  | nil => exact ⟨t, .refl, rfl⟩
  | cons d docs ih =>
    obtain ⟨u, hsteps, hu⟩ := ih (t.schedule d.1 d.2.version d.2.text settings)
    exact ⟨u, hsteps.head (.schedules d.1 d.2.version d.2.text settings), hu⟩

/-- Completing what has not begun changes nothing. -/
theorem steps_complete (t : Traffic) (generation : Nat) (o : Outcome)
    (hcheck : ∀ r ∈ t.flights.begun, r.generation = generation → check r.text r.settings o) :
    ∃ u, Steps check t u ∧ u.flights = t.flights.complete generation o := by
  by_cases hbegun : ∃ r ∈ t.flights.begun, r.generation = generation
  · obtain ⟨r, hr, rfl⟩ := hbegun
    exact ⟨_, .single (.completes r o hr (hcheck r hr rfl)), rfl⟩
  · have hall : ∀ r ∈ t.flights.begun, r.generation ≠ generation :=
      fun r hr heq => hbegun ⟨r, hr, heq⟩
    have hleft : Flights.without generation t.flights.begun = t.flights.begun :=
      List.filter_eq_self.mpr fun r hr => bne_iff_ne.mpr (hall r hr)
    have hnone : t.flights.begun.filter (·.generation == generation) = [] :=
      List.filter_eq_nil_iff.mpr fun r hr => by simpa using hall r hr
    refine ⟨t, .refl, ?_⟩
    simp only [Flights.complete, hleft, hnone, List.map_nil, List.append_nil]

/-- An event is received before its run is forgotten. -/
theorem steps_take (t : Traffic) {e : Event} {later : List Event}
    (waits : t.flights.arrived = e :: later) :
    ∃ u, Steps check t u ∧ u.flights = t.flights.take e later := by
  have hreceive := Flights.receive?_eq_some_iff.mpr ⟨later, waits, rfl⟩
  have hreceived : e ∈ t.received ++ [e] := List.mem_append_right _ List.mem_cons_self
  exact ⟨_, (Relation.ReflTransGen.single (.receives e _ hreceive)).tail
    (.finishes e.uri e hreceived), rfl⟩

/-- **Servers take such steps.** Whatever a server does to its runs when something happens is a path
    of steps, in which a run is forgotten only after its event was received. -/
theorem Reacts.steps (hr : Reacts s what reaction') (t : Traffic) (ht : t.flights = s.flights)
    (hcheck : ∀ r ∈ s.flights.begun, ∀ o, what = .completed r.generation o →
      check r.text r.settings o) :
    ∃ u, Steps check t u ∧ u.flights = reaction'.server.flights := by
  cases hr with
  | stays => exact ⟨t, .refl, ht⟩
  | opens p =>
    obtain ⟨settings, trace, heq⟩ := s.opened_eq p
    rw [heq]
    exact ⟨t, .refl, ht⟩
  | shutsDown =>
    obtain ⟨u, hsteps, hu⟩ := steps_cancelEach s.documents.keys t
    exact ⟨u, hsteps, by rw [hu, ht]; rfl⟩
  | stores uri version text =>
    exact ⟨_, .single (.schedules uri version text s.settings), by rw [schedule, ht]; rfl⟩
  | closes uri => exact ⟨_, .single (.cancels uri), by rw [cancel, ht]⟩
  | configures value =>
    obtain ⟨settings, trace, heq⟩ := s.configure_eq value
    obtain ⟨u, hsteps, hu⟩ := steps_scheduleAll settings s.documents.toList t
    exact ⟨u, hsteps, by rw [hu, ht, Server.checkAll_eq, heq]⟩
  | traces => exact ⟨t, .refl, ht⟩
  | begins generation => exact ⟨_, .single (.begins generation), by rw [ht]⟩
  | completes generation outcome =>
    rw [← ht] at hcheck ⊢
    exact steps_complete t generation outcome fun r hbegun hgen =>
      hcheck r hbegun outcome (by rw [hgen])
  | idles => exact ⟨t, .refl, ht⟩
  | notices e later waits =>
    obtain ⟨warned, heq⟩ := ({ s with flights := s.flights.take e later } : Server).report_eq e
    rw [heq, ← ht]
    exact steps_take t (ht ▸ waits)
  | drops e later waits =>
    rw [← ht]
    exact steps_take t (ht ▸ waits)

end Session

end DiagnosticBridge
