import DiagnosticBridge.Proofs.Generations

namespace DiagnosticBridge

/-!
# Keeping track of runs

What the operations on runs keep, whatever the order in which they come.

* `Tracked` — no two runs that are alive or ended share a generation, every event that waits is
  that of an ended run, and no two documents share a current generation;
* `Waits` — a run that is still to be noticed; scheduling or cancelling the run of another
  document does not lose it.
-/

namespace Flights

variable {f g : Flights} {ended : Run → Outcome → Prop} {uri text : String} {version : Int}
  {settings : CompilerSettings} {r : Run}

/-! ### Runs and their generations -/

/-- A run that the flights hold, scheduled or begun, or that has ended. -/
def Known (f : Flights) (ended : Run → Outcome → Prop) (r : Run) : Prop :=
  r ∈ f.scheduled ∨ r ∈ f.begun ∨ ∃ o, ended r o

/-- A run that is still to be noticed: it has not begun, or has begun, or its event waits. -/
def Waits (f : Flights) (ended : Run → Outcome → Prop) (r : Run) : Prop :=
  r ∈ f.scheduled ∨ r ∈ f.begun ∨ ∃ o, ended r o ∧ r.event o ∈ f.arrived

/-- A run that is still to be noticed is scheduled, has begun or has ended. -/
theorem Waits.known (h : f.Waits ended r) : f.Known ended r := by
  rcases h with h | h | ⟨o, ho, _⟩
  · exact Or.inl h
  · exact Or.inr (Or.inl h)
  · exact Or.inr (Or.inr ⟨o, ho⟩)

/-- The generations of runs are in order, given which runs have ended so far and how. -/
structure Tracked (f : Flights) (ended : Run → Outcome → Prop) : Prop where
  /-- No run has a generation that is not given out. -/
  known_le : ∀ r, f.Known ended r → r.generation ≤ f.lastGeneration
  /-- No two runs share a generation. -/
  known_inj : ∀ r r', f.Known ended r → f.Known ended r' → r.generation = r'.generation → r = r'
  /-- No current generation is one that is not given out. -/
  current_le : ∀ uri generation, f.current.get? uri = some generation →
    generation ≤ f.lastGeneration
  /-- No two documents share a current generation. -/
  current_inj : ∀ uri other generation, f.current.get? uri = some generation →
    f.current.get? other = some generation → uri = other
  /-- Every event that waits is that of a run that has ended. -/
  arrived : ∀ e ∈ f.arrived, ∃ r o, ended r o ∧ e = r.event o

/-- There are no runs at first. -/
theorem tracked_empty : empty.Tracked (fun _ _ => False) where
  known_le := by
    rintro r (h | h | ⟨_, h⟩)
    · exact absurd h List.not_mem_nil
    · exact absurd h List.not_mem_nil
    · exact h.elim
  known_inj := by
    rintro r _ (h | h | ⟨_, h⟩)
    · exact absurd h List.not_mem_nil
    · exact absurd h List.not_mem_nil
    · exact h.elim
  current_le := by
    intro uri generation h
    simp [empty] at h
  current_inj := by
    intro uri other generation h
    simp [empty] at h
  arrived := by
    intro e h
    exact absurd h List.not_mem_nil

/-- What is held after aborting was held before. -/
theorem known_cancel (h : (f.cancel uri).Known ended r) : f.Known ended r := by
  rcases h with h | h | h
  · exact Or.inl (mem_scheduled_cancel.mp h).1
  · exact Or.inr (Or.inl (mem_begun_cancel.mp h).1)
  · exact Or.inr (Or.inr h)

/-- What is held after scheduling was held before, or is the new run. -/
theorem known_schedule (h : (f.schedule uri version text settings).Known ended r) :
    f.Known ended r ∨ r = f.nextRun uri version text settings := by
  rcases h with h | h | h
  · exact (mem_scheduled_schedule.mp h).imp_left fun hold => Or.inl hold.1
  · exact Or.inl (Or.inr (Or.inl (mem_begun_schedule.mp h).1))
  · exact Or.inl (Or.inr (Or.inr h))

namespace Tracked

/-- What becomes of the runs keeps them in order as long as no run is added, no document gets a
    current run, and no event. -/
theorem shrink (h : f.Tracked ended) (hlast : f.lastGeneration = g.lastGeneration)
    (hknown : ∀ r, g.Known ended r → f.Known ended r)
    (hcurrent : ∀ uri generation, g.current.get? uri = some generation →
      f.current.get? uri = some generation)
    (harrived : ∀ e ∈ g.arrived, e ∈ f.arrived) : g.Tracked ended where
  known_le r hr := hlast ▸ h.known_le r (hknown r hr)
  known_inj r r' hr hr' := h.known_inj r r' (hknown r hr) (hknown r' hr')
  current_le uri generation hc := hlast ▸ h.current_le uri generation (hcurrent _ _ hc)
  current_inj uri other generation hc hc' :=
    h.current_inj uri other generation (hcurrent _ _ hc) (hcurrent _ _ hc')
  arrived e he := h.arrived e (harrived e he)

/-- Aborting a run takes it away, and its place. -/
theorem cancel (h : f.Tracked ended) (uri : String) : (f.cancel uri).Tracked ended := by
  refine h.shrink lastGeneration_cancel.symm (fun _ hr => known_cancel hr)
    (fun _ _ hc => (current_cancel hc).2) ?_
  intro e he
  rwa [arrived_cancel] at he

/-- A run that begins was scheduled. -/
theorem start (h : f.Tracked ended) (generation : Nat) : (f.start generation).Tracked ended := by
  refine h.shrink rfl ?_ (fun _ _ hc => hc) (fun _ he => he)
  rintro r (hr | hr | hr)
  · exact Or.inl (mem_without.mp hr).1
  · rcases List.mem_append.mp hr with hr | hr
    · exact Or.inr (Or.inl hr)
    · exact Or.inl (List.mem_filter.mp hr).1
  · exact Or.inr (Or.inr hr)

/-- Taking an event adds none, and no run. -/
theorem take (h : f.Tracked ended) {e : Event} {later : List Event}
    (harrived : f.arrived = e :: later) : (f.take e later).Tracked ended := by
  obtain ⟨hs, hb, ha, hl⟩ := take_eq (f := f) e later
  refine h.shrink hl.symm ?_ (fun _ _ hc => current_take hc) ?_
  · intro r hr
    rwa [Known, hs, hb] at hr
  · intro e' he'
    rw [ha] at he'
    rw [harrived]
    exact List.mem_cons_of_mem _ he'

/-- A scheduled run is new: its generation is above all others. -/
theorem schedule (h : f.Tracked ended) (uri : String) (version : Int) (text : String)
    (settings : CompilerSettings) :
    (f.schedule uri version text settings).Tracked ended := by
  have hnext : (f.nextRun uri version text settings).generation = f.lastGeneration + 1 := rfl
  -- Whatever is old has a generation of at most `f.lastGeneration`, which the new run exceeds.
  refine ⟨?_, ?_, ?_, ?_, ?_⟩
  · intro r hr
    rw [lastGeneration_schedule]
    rcases known_schedule hr with hr | rfl
    · have := h.known_le r hr
      omega
    · exact Nat.le_of_eq hnext
  · intro r r' hr hr' heq
    rcases known_schedule hr with hr | rfl <;> rcases known_schedule hr' with hr' | rfl
    · exact h.known_inj r r' hr hr' heq
    · have := h.known_le r hr
      omega
    · have := h.known_le r' hr'
      omega
    · rfl
  · intro other generation hc
    rw [lastGeneration_schedule]
    rcases current_schedule hc with ⟨_, rfl⟩ | ⟨_, hc⟩
    · exact Nat.le_refl _
    · have := h.current_le other generation hc
      omega
  · intro a b generation ha hb
    rcases current_schedule ha with ⟨hau, hag⟩ | ⟨_, hold⟩ <;>
      rcases current_schedule hb with ⟨hbu, hbg⟩ | ⟨_, hold'⟩
    · rw [hau, hbu]
    · have := h.current_le b generation hold'
      omega
    · have := h.current_le a generation hold
      omega
    · exact h.current_inj a b generation hold hold'
  · intro e he
    rw [arrived_schedule] at he
    exact h.arrived e he

/-- A run that has begun may come to an outcome, which then counts among the ended ones. -/
theorem complete (h : f.Tracked ended) (generation : Nat) (o : Outcome)
    {ended' : Run → Outcome → Prop}
    (hended : ∀ r o', ended' r o' ↔
      ended r o' ∨ (r.generation = generation ∧ o' = o ∧ r ∈ f.begun)) :
    (f.complete generation o).Tracked ended' := by
  -- No run is added: what has ended now had begun before.
  have hknown : ∀ r, (f.complete generation o).Known ended' r → f.Known ended r := by
    rintro r (hr | hr | ⟨o', hr⟩)
    · exact Or.inl hr
    · exact Or.inr (Or.inl (mem_without.mp hr).1)
    · rcases (hended r o').mp hr with hr | ⟨_, _, hr⟩
      · exact Or.inr (Or.inr ⟨o', hr⟩)
      · exact Or.inr (Or.inl hr)
  refine ⟨fun r hr => h.known_le r (hknown r hr),
    fun r r' hr hr' => h.known_inj r r' (hknown r hr) (hknown r' hr'),
    h.current_le, h.current_inj, ?_⟩
  intro e he
  rcases List.mem_append.mp he with he | he
  · obtain ⟨r, o', hr, rfl⟩ := h.arrived e he
    exact ⟨r, o', (hended r o').mpr (Or.inl hr), rfl⟩
  · obtain ⟨r, hr, rfl⟩ := List.mem_map.mp he
    obtain ⟨hr, hg⟩ := List.mem_filter.mp hr
    exact ⟨r, o, (hended r o).mpr (Or.inr ⟨by simpa using hg, rfl, hr⟩), rfl⟩

end Tracked

/-! ### Runs that wait keep waiting -/

namespace Waits

/-- The current run of a document waits on when that of another one is aborted. -/
theorem cancel (h : f.Waits ended r) (hf : f.Tracked ended)
    (hcur : f.current.get? r.uri = some r.generation) (hne : uri ≠ r.uri) :
    (f.cancel uri).Waits ended r := by
  -- The run that is aborted has another generation, since it is current for another document.
  have hgen : f.current.get? uri ≠ some r.generation :=
    fun hc => hne (hf.current_inj _ _ _ hc hcur)
  rcases h with h | h | ⟨o, ho, ha⟩
  · exact Or.inl (mem_scheduled_cancel.mpr ⟨h, hgen⟩)
  · exact Or.inr (Or.inl (mem_begun_cancel.mpr ⟨h, hgen⟩))
  · exact Or.inr (Or.inr ⟨o, ho, by rwa [arrived_cancel]⟩)

/-- So it does when another one gets a new run. -/
theorem schedule (h : f.Waits ended r) (hf : f.Tracked ended)
    (hcur : f.current.get? r.uri = some r.generation) (hne : uri ≠ r.uri) :
    (f.schedule uri version text settings).Waits ended r := by
  rcases h.cancel hf hcur hne with h | h | h
  · exact Or.inl (List.mem_append_left _ h)
  · exact Or.inr (Or.inl h)
  · exact Or.inr (Or.inr h)

/-- It waits on when runs begin, be it itself. -/
theorem start (h : f.Waits ended r) (generation : Nat) : (f.start generation).Waits ended r := by
  rcases h with h | h | h
  · -- The run begins itself, or it stays where it is.
    by_cases hg : r.generation = generation
    · exact Or.inr (Or.inl (List.mem_append_right _ (List.mem_filter.mpr ⟨h, by simpa using hg⟩)))
    · exact Or.inl (mem_without.mpr ⟨h, hg⟩)
  · exact Or.inr (Or.inl (List.mem_append_left _ h))
  · exact Or.inr (Or.inr h)

/-- It waits on when runs end: if it is among them, its event waits in its stead. -/
theorem complete (h : f.Waits ended r) (generation : Nat) (o : Outcome)
    {ended' : Run → Outcome → Prop}
    (hended : ∀ r o', ended' r o' ↔
      ended r o' ∨ (r.generation = generation ∧ o' = o ∧ r ∈ f.begun)) :
    (f.complete generation o).Waits ended' r := by
  rcases h with h | h | ⟨o', ho, ha⟩
  · exact Or.inl h
  · -- The run ends itself and leaves its event, or it goes on.
    by_cases hg : r.generation = generation
    · refine Or.inr (Or.inr ⟨o, (hended r o).mpr (Or.inr ⟨hg, rfl, h⟩), ?_⟩)
      refine List.mem_append_right _ (List.mem_map.mpr ⟨r, ?_, rfl⟩)
      exact List.mem_filter.mpr ⟨h, by simpa using hg⟩
    · exact Or.inr (Or.inl (mem_without.mpr ⟨h, hg⟩))
  · exact Or.inr (Or.inr ⟨o', (hended r o').mpr (Or.inl ho), List.mem_append_left _ ha⟩)

/-- A current run whose event is not the first one waits on when the first event is handled. -/
theorem take (h : f.Waits ended r) {e : Event} {later : List Event}
    (harrived : f.arrived = e :: later)
    (hcur : (f.take e later).current.get? r.uri = some r.generation) :
    (f.take e later).Waits ended r := by
  obtain ⟨hs, hb, ha, _⟩ := take_eq (f := f) e later
  unfold Waits
  rw [hs, hb, ha]
  rcases h with h | h | ⟨o, ho, hmem⟩
  · exact Or.inl h
  · exact Or.inr (Or.inl h)
  · rw [harrived] at hmem
    rcases List.mem_cons.mp hmem with rfl | hmem
    · -- The first event is that of this run, which is therefore not current afterwards.
      exfalso
      have huri : (r.event o).uri = r.uri := Run.event_uri r o
      have hgen : (r.event o).generation = r.generation := Run.event_generation r o
      rw [get?_take, huri, hgen] at hcur
      split at hcur
      · simp at hcur
      · next hno => exact hno ⟨rfl, hcur⟩
    · exact Or.inr (Or.inr ⟨o, ho, hmem⟩)

end Waits

end Flights

end DiagnosticBridge
