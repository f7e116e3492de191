import DiagnosticBridge.Check.Flights

namespace DiagnosticBridge

/-!
# Generations only go up

What each operation on runs does to the runs and to their generations.

* `mem_scheduled_cancel`, `mem_scheduled_schedule` — cancelling takes just the current run of the
  document away, and scheduling puts one new run in its place;
* `take` — what handling the first event does to the runs;
* `current_cancel`, `current_schedule`, `current_take` — where a run comes from that is current;
* `Grows` — no operation makes a run current that was not, unless it is new.
-/

/-! ### Events name their runs -/

namespace Run

/-- An event is about the document of its run. -/
@[simp] theorem event_uri (r : Run) (o : Outcome) : (r.event o).uri = r.uri := by
  unfold event
  split <;> first | rfl | (split <;> rfl)

/-- It bears the number of its run. -/
@[simp] theorem event_generation (r : Run) (o : Outcome) :
    (r.event o).generation = r.generation := by
  unfold event
  split <;> first | rfl | (split <;> rfl)

/-- Diagnostics bear the version that was checked. -/
theorem event_version {r : Run} {o : Outcome} {uri : String} {generation : Nat} {version : Int}
    {batch : Batch} (h : r.event o = .published uri generation version batch) :
    version = r.version := by
  unfold event at h
  split at h
  · cases h; rfl
  · cases h; rfl
  · split at h <;> cases h

end Run

namespace Flights

variable {f g k : Flights} {ended : Run → Outcome → Prop} {uri other text : String}
  {version : Int} {settings : CompilerSettings} {generation : Nat} {r : Run}

/-! ### What the operations do to the lists of runs -/

/-- A run of another generation stays. -/
theorem mem_without {runs : List Run} :
    r ∈ without generation runs ↔ r ∈ runs ∧ r.generation ≠ generation := by
  simp [without]

/-- Cancelling takes the current run of the document out of the scheduled ones. -/
theorem mem_scheduled_cancel :
    r ∈ (f.cancel uri).scheduled ↔
      r ∈ f.scheduled ∧ f.current.get? uri ≠ some r.generation := by
  unfold cancel
  cases h : f.current.get? uri with
  | none => simp
  | some generation =>
    show r ∈ without generation f.scheduled ↔ _
    rw [mem_without, ne_eq, ne_eq, Option.some.injEq, eq_comm]

/-- Cancelling takes the current run of the document out of those that have begun. -/
theorem mem_begun_cancel :
    r ∈ (f.cancel uri).begun ↔ r ∈ f.begun ∧ f.current.get? uri ≠ some r.generation := by
  unfold cancel
  cases h : f.current.get? uri with
  | none => simp
  | some generation =>
    show r ∈ without generation f.begun ↔ _
    rw [mem_without, ne_eq, ne_eq, Option.some.injEq, eq_comm]

@[simp] theorem lastGeneration_cancel : (f.cancel uri).lastGeneration = f.lastGeneration := by
  unfold cancel
  split <;> rfl

@[simp] theorem arrived_cancel : (f.cancel uri).arrived = f.arrived := by
  unfold cancel
  split <;> rfl

/-- Scheduled are the new run and all that were before, but for the one it replaces. -/
theorem mem_scheduled_schedule :
    r ∈ (f.schedule uri version text settings).scheduled ↔
      (r ∈ f.scheduled ∧ f.current.get? uri ≠ some r.generation) ∨
        r = f.nextRun uri version text settings := by
  show r ∈ (f.cancel uri).scheduled ++ [f.nextRun uri version text settings] ↔ _
  rw [List.mem_append, mem_scheduled_cancel, List.mem_singleton]

/-- A run that is replaced does not go on. -/
theorem mem_begun_schedule :
    r ∈ (f.schedule uri version text settings).begun ↔
      r ∈ f.begun ∧ f.current.get? uri ≠ some r.generation :=
  mem_begun_cancel

@[simp] theorem lastGeneration_schedule :
    (f.schedule uri version text settings).lastGeneration = f.lastGeneration + 1 := rfl

@[simp] theorem arrived_schedule :
    (f.schedule uri version text settings).arrived = f.arrived :=
  arrived_cancel

/-- Forgetting a run changes nothing but the table. -/
theorem finish_eq (f : Flights) (uri : String) (generation : Nat) :
    (f.finish uri generation).scheduled = f.scheduled ∧ (f.finish uri generation).begun = f.begun ∧
      (f.finish uri generation).arrived = f.arrived ∧
        (f.finish uri generation).lastGeneration = f.lastGeneration := by
  unfold finish
  split <;> exact ⟨rfl, rfl, rfl, rfl⟩

/-- A run that has ended is current no more; all others are as before. -/
theorem get?_finish (f : Flights) (uri : String) (generation : Nat) (other : String) :
    (f.finish uri generation).current.get? other =
      if other = uri ∧ f.current.get? uri = some generation then none
      else f.current.get? other := by
  unfold finish
  split
  · next h =>
    have hcur : f.current.get? uri = some generation := (isCurrent_iff _ _ _).mp h
    show (f.current.erase uri).get? other = _
    rw [Table.get?_erase]
    by_cases ho : other = uri
    · rw [if_pos ho, if_pos ⟨ho, hcur⟩]
    · rw [if_neg ho, if_neg (fun hc => ho hc.1)]
  · next h =>
    rw [if_neg]
    rintro ⟨_, hcur⟩
    exact h ((isCurrent_iff _ _ _).mpr hcur)

/-- Takes the first event off those that wait and forgets its run if that is current.  This is
    what becomes of the runs when an event is handled, whether it is taken notice of or not. -/
def take (f : Flights) (e : Event) (later : List Event) : Flights :=
  { f with arrived := later }.finish e.uri e.generation

/-- So it is when the event of a run is taken. -/
theorem get?_take (e : Event) (later : List Event) (other : String) :
    (f.take e later).current.get? other =
      if other = e.uri ∧ f.current.get? e.uri = some e.generation then none
      else f.current.get? other :=
  get?_finish { f with arrived := later } e.uri e.generation other

/-- Nothing else changes, except that the event is no longer there. -/
theorem take_eq (e : Event) (later : List Event) :
    (f.take e later).scheduled = f.scheduled ∧ (f.take e later).begun = f.begun ∧
      (f.take e later).arrived = later ∧
        (f.take e later).lastGeneration = f.lastGeneration :=
  finish_eq { f with arrived := later } e.uri e.generation

/-! ### What is current after an operation -/

/-- After cancelling, the runs of other documents are current that were so before. -/
theorem current_cancel (h : (f.cancel uri).current.get? other = some generation) :
    other ≠ uri ∧ f.current.get? other = some generation := by
  rw [get?_cancel] at h
  split at h
  · cases h
  · next hne => exact ⟨hne, h⟩

/-- After scheduling, so are they, and the new run is current for its document. -/
theorem current_schedule
    (h : (f.schedule uri version text settings).current.get? other = some generation) :
    (other = uri ∧ generation = f.lastGeneration + 1) ∨
      (other ≠ uri ∧ f.current.get? other = some generation) := by
  rw [get?_schedule] at h
  split at h
  · next heq => exact Or.inl ⟨heq, (Option.some.inj h).symm⟩
  · next hne => exact Or.inr ⟨hne, h⟩

/-- Taking an event makes no run current. -/
theorem current_take {e : Event} {later : List Event}
    (h : (f.take e later).current.get? uri = some generation) :
    f.current.get? uri = some generation := by
  rw [get?_take] at h
  split at h
  · cases h
  · exact h

/-! ### Generations only go up -/

/-- What the later state of the runs `g` owes to the earlier state `f`: whatever is current or
    scheduled in `g` was so in `f` or has a generation that `f` had not given out. -/
structure Grows (f g : Flights) : Prop where
  /-- No generation is taken back. -/
  last : f.lastGeneration ≤ g.lastGeneration
  /-- A current run was current, or is new. -/
  current : ∀ uri generation, g.current.get? uri = some generation →
    f.current.get? uri = some generation ∨ f.lastGeneration < generation
  /-- A scheduled run was scheduled, or is new. -/
  scheduled : ∀ r ∈ g.scheduled, r ∈ f.scheduled ∨ f.lastGeneration < r.generation

theorem Grows.refl (f : Flights) : Grows f f :=
  ⟨Nat.le_refl _, fun _ _ h => Or.inl h, fun _ h => Or.inl h⟩

theorem Grows.trans (hfg : Grows f g) (hgk : Grows g k) : Grows f k := by
  refine ⟨Nat.le_trans hfg.last hgk.last, ?_, ?_⟩
  · intro uri generation h
    rcases hgk.current uri generation h with h | h
    · exact hfg.current uri generation h
    · exact Or.inr (Nat.lt_of_le_of_lt hfg.last h)
  · intro r h
    rcases hgk.scheduled r h with h | h
    · exact hfg.scheduled r h
    · exact Or.inr (Nat.lt_of_le_of_lt hfg.last h)

/-- Aborting a run gives out no generation. -/
theorem grows_cancel (f : Flights) (uri : String) : Grows f (f.cancel uri) := by
  refine ⟨Nat.le_of_eq lastGeneration_cancel.symm, ?_, ?_⟩
  · exact fun _ _ h => Or.inl (current_cancel h).2
  · exact fun _ h => Or.inl (mem_scheduled_cancel.mp h).1

/-- Scheduling gives out a new one. -/
theorem grows_schedule (f : Flights) (uri : String) (version : Int) (text : String)
    (settings : CompilerSettings) : Grows f (f.schedule uri version text settings) := by
  refine ⟨Nat.le_succ _, ?_, ?_⟩
  · intro other generation h
    rcases current_schedule h with ⟨_, rfl⟩ | ⟨_, hold⟩
    · exact Or.inr (Nat.lt_succ_self _)
    · exact Or.inl hold
  · intro r h
    rcases mem_scheduled_schedule.mp h with h | rfl
    · exact Or.inl h.1
    · exact Or.inr (Nat.lt_succ_self _)

/-- A run keeps its generation when it begins. -/
theorem grows_start (f : Flights) (generation : Nat) : Grows f (f.start generation) :=
  ⟨Nat.le_refl _, fun _ _ h => Or.inl h, fun _ h => Or.inl (mem_without.mp h).1⟩

theorem grows_complete (f : Flights) (generation : Nat) (o : Outcome) :
    Grows f (f.complete generation o) :=
  ⟨Nat.le_refl _, fun _ _ h => Or.inl h, fun _ h => Or.inl h⟩

/-- Taking an event gives out no generation. -/
theorem grows_take (f : Flights) (e : Event) (later : List Event) : Grows f (f.take e later) := by
  obtain ⟨hs, _, _, hl⟩ := take_eq (f := f) e later
  exact ⟨Nat.le_of_eq hl.symm, fun _ _ h => Or.inl (current_take h),
    fun r h => Or.inl (hs ▸ h)⟩

end Flights

end DiagnosticBridge
