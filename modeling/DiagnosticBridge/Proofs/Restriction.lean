import DiagnosticBridge.Proofs.SingleFlight
import Mathlib.Data.List.Nodup

namespace DiagnosticBridge

/-!
# The runs of one document

All documents share one table of current runs, one list each of runs that wait and that have begun,
one queue of events and one count of generations.  What concerns a single document can be cut out
of these, once the runs of the document are numbered among themselves.

* `Flights.only` — the runs of one document, numbered in the order in which they were scheduled;
* `Flights.only_schedule`, `only_cancel` and their siblings — an operation on a run of the document
  does to them what it does to all runs;
* `Flights.only_schedule_of_ne`, `only_cancel_of_ne` and their siblings — an operation on a run of
  another document does nothing to them.
-/

/-! ### One entry of a table -/

namespace Table

variable {α β : Type} {t : Table α} {key other : String} {f : α → β}

/-- The entry of a table at one key, with its value passed through a function. -/
def only (t : Table α) (key : String) (f : α → β) : Table β :=
  ⟨((t.get? key).map fun a => (key, f a)).toList⟩

/-- Only the entry at the key counts. -/
theorem only_congr {u : Table α} {g : α → β} (h : t.get? key = u.get? key)
    (hf : ∀ a, u.get? key = some a → f a = g a) : t.only key f = u.only key g := by
  rw [only, only, h]
  cases hu : u.get? key with
  | none => rfl
  | some a => simp [hf a hu]

/-- Without an entry at the key nothing is left. -/
theorem only_of_none (h : t.get? key = none) : t.only key f = .empty := by
  rw [only, h]
  rfl

/-- An entry at the key is all that is left. -/
theorem only_of_some {a : α} (h : t.get? key = some a) : t.only key f = ⟨[(key, f a)]⟩ := by
  rw [only, h]
  rfl

@[simp] theorem get?_only : (t.only key f).get? key = (t.get? key).map f := by
  cases h : t.get? key with
  | none => simp [only_of_none h]
  | some a => simp [only_of_some h, get?, lookup]

theorem get?_only_of_ne (h : other ≠ key) : (t.only key f).get? other = none := by
  cases hkey : t.get? key with
  | none => simp [only_of_none hkey]
  | some a => simp [only_of_some hkey, get?, lookup, h.symm]

/-- An entry may be put in before or after the others are left out. -/
theorem only_insert (t : Table α) (key : String) (f : α → β) (a : α) :
    (t.insert key a).only key f = (t.only key f).insert key (f a) := by
  rw [only_of_some (a := a) (by rw [get?_insert, if_pos rfl])]
  cases h : t.get? key with
  | none => rw [only_of_none h]; rfl
  | some b => rw [only_of_some h]; simp [insert, place]

/-- An entry at another key is left out. -/
theorem only_insert_of_ne (h : key ≠ other) (a : α) :
    (t.insert other a).only key f = t.only key f :=
  only_congr (by rw [get?_insert, if_neg h]) fun _ _ => rfl

/-- An entry may be taken out before or after the others are left out. -/
theorem only_erase (t : Table α) (key : String) (f : α → β) :
    (t.erase key).only key f = (t.only key f).erase key := by
  rw [only_of_none (by rw [get?_erase, if_pos rfl])]
  cases h : t.get? key with
  | none => rw [only_of_none h]; rfl
  | some b => rw [only_of_some h]; simp [erase, empty]

/-- Taking out one that is left out anyway changes nothing. -/
theorem only_erase_of_ne (h : key ≠ other) : (t.erase other).only key f = t.only key f :=
  only_congr (by rw [get?_erase, if_neg h]) fun _ _ => rfl

end Table

/-! ### Numbers of its own -/

/-- The place of a generation among those of the runs of one document. -/
def rank (ours : List Nat) (generation : Nat) : Nat := ours.idxOf generation + 1

/-- Runs that come later take no place from a run of the document. -/
theorem rank_append {ours : List Nat} {generation : Nat} (h : generation ∈ ours)
    (more : List Nat) : rank (ours ++ more) generation = rank ours generation := by
  rw [rank, List.idxOf_append_of_mem h, rank]

/-- The next run of the document takes the next place. -/
theorem rank_new {ours : List Nat} {generation : Nat} (h : generation ∉ ours) :
    rank (ours ++ [generation]) generation = ours.length + 1 := by
  rw [rank, List.idxOf_append_of_notMem h]
  simp

/-- Runs of the document with different generations have different places. -/
theorem rank_inj {ours : List Nat} {a b : Nat} (ha : a ∈ ours) :
    rank ours a = rank ours b ↔ a = b := by
  rw [rank, rank, Nat.add_right_cancel_iff]
  exact List.idxOf_inj ha

/-- A run of the document with its place for a generation. -/
def Run.renumbered (ours : List Nat) (r : Run) : Run :=
  { r with generation := rank ours r.generation }

/-- The event of a run with another generation. -/
def Event.withGeneration (generation : Nat) : Event → Event
  | .published uri _ version batch => .published uri generation version batch
  | .compilerUnavailable uri _ message => .compilerUnavailable uri generation message
  | .failed uri _ message => .failed uri generation message

/-- The event of a run of the document with its place for a generation. -/
def Event.renumbered (ours : List Nat) (e : Event) : Event :=
  e.withGeneration (rank ours e.generation)

@[simp] theorem Event.renumbered_uri (ours : List Nat) (e : Event) :
    (e.renumbered ours).uri = e.uri := by
  cases e <;> rfl

@[simp] theorem Event.renumbered_generation (ours : List Nat) (e : Event) :
    (e.renumbered ours).generation = rank ours e.generation := by
  cases e <;> rfl

/-- So a run keeps its number when the document gets more of them. -/
theorem Run.renumbered_append {ours : List Nat} {r : Run} (h : r.generation ∈ ours)
    (more : List Nat) : r.renumbered (ours ++ more) = r.renumbered ours := by
  rw [renumbered, rank_append h, renumbered]

/-- So does its event. -/
theorem Event.renumbered_append {ours : List Nat} {e : Event} (h : e.generation ∈ ours)
    (more : List Nat) : e.renumbered (ours ++ more) = e.renumbered ours := by
  rw [renumbered, rank_append h, renumbered]

/-- The outcome of a run does not depend on its generation. -/
theorem Run.event_renumbered (ours : List Nat) (r : Run) (o : Outcome) :
    (r.renumbered ours).event o = (r.event o).renumbered ours := by
  unfold event
  split
  · rfl
  · rfl
  · split <;> rfl

namespace Flights

variable {f g : Flights} {ended : Run → Outcome → Prop} {uri other : String}
  {settings : CompilerSettings} {ours : List Nat} {generation : Nat} {r : Run}
  {docs : List (String × Document)}

/-- The runs of one document alone, numbered in the order in which they were scheduled. -/
def only (f : Flights) (uri : String) (ours : List Nat) : Flights where
  current := f.current.only uri (rank ours)
  lastGeneration := ours.length
  scheduled := (f.scheduled.filter (·.uri == uri)).map (·.renumbered ours)
  begun := (f.begun.filter (·.uri == uri)).map (·.renumbered ours)
  arrived := (f.arrived.filter (·.uri == uri)).map (·.renumbered ours)

/-- The generations given to the runs of a document so far, given which runs have ended and how. -/
structure Numbered (f : Flights) (ended : Run → Outcome → Prop) (uri : String)
    (ours : List Nat) : Prop where
  /-- No generation is one that is not given out. -/
  le : ∀ n ∈ ours, n ≤ f.lastGeneration
  /-- No run of the document is left out. -/
  known : ∀ r, f.Known ended r → r.uri = uri → r.generation ∈ ours
  /-- Neither is the current one. -/
  current : ∀ generation, f.current.get? uri = some generation → generation ∈ ours

/-- The generation of the run that the document has got since some earlier state of the runs, if it
    has got one.  Such a run is current as long as nothing else is done. -/
def newSince (f g : Flights) (uri : String) : List Nat :=
  ((g.current.get? uri).filter (f.lastGeneration < ·)).toList

/-- A run is new if it is current and above the last generation of the earlier state. -/
theorem mem_newSince :
    generation ∈ f.newSince g uri ↔
      g.current.get? uri = some generation ∧ f.lastGeneration < generation := by
  simp [newSince, Option.filter_eq_some_iff]

/-- A document whose current run is the one that it had has got none since. -/
theorem newSince_eq_nil (hf : f.Tracked ended)
    (h : ∀ generation, g.current.get? uri = some generation →
      f.current.get? uri = some generation) : f.newSince g uri = [] := by
  rw [List.eq_nil_iff_forall_not_mem]
  intro generation hmem
  obtain ⟨hcur, hlt⟩ := mem_newSince.mp hmem
  exact absurd (hf.current_le _ _ (h _ hcur)) (Nat.not_le_of_lt hlt)

/-- A document has got at most one run that is current. -/
theorem newSince_of_current (h : g.current.get? uri = some generation)
    (hlt : f.lastGeneration < generation) : f.newSince g uri = [generation] := by
  simp [newSince, h, hlt]

namespace Numbered

/-- The next generation is none of those that the document has been given. -/
theorem last_notMem (h : f.Numbered ended uri ours) : f.lastGeneration + 1 ∉ ours :=
  fun hmem => Nat.not_succ_le_self _ (h.le _ hmem)

/-- A run of the document that is scheduled has one of its numbers. -/
theorem scheduled (h : f.Numbered ended uri ours) (hr : r ∈ f.scheduled) (hu : r.uri = uri) :
    r.generation ∈ ours :=
  h.known r (Or.inl hr) hu

/-- So has one that has begun. -/
theorem begun (h : f.Numbered ended uri ours) (hr : r ∈ f.begun) (hu : r.uri = uri) :
    r.generation ∈ ours :=
  h.known r (Or.inr (Or.inl hr)) hu

/-- So has one the event of which waits, since it has ended. -/
theorem arrived (h : f.Numbered ended uri ours) (hf : f.Tracked ended) {e : Event}
    (he : e ∈ f.arrived) (hu : e.uri = uri) : e.generation ∈ ours := by
  obtain ⟨r, o, hr, rfl⟩ := hf.arrived e he
  rw [Run.event_uri] at hu
  rw [Run.event_generation]
  exact h.known r (Or.inr (Or.inr ⟨o, hr⟩)) hu

/-- Aborting a run takes no number back. -/
theorem cancel (h : f.Numbered ended uri ours) (other : String) :
    (f.cancel other).Numbered ended uri ours where
  le n hn := lastGeneration_cancel (f := f) ▸ h.le n hn
  known r hr hu := h.known r (known_cancel hr) hu
  current generation hc := h.current generation (current_cancel hc).2

/-- A run of another document takes no number of this one. -/
theorem schedule_of_ne (h : f.Numbered ended uri ours) (hne : uri ≠ other) (version : Int)
    (text : String) (settings : CompilerSettings) :
    (f.schedule other version text settings).Numbered ended uri ours where
  le n hn := Nat.le_succ_of_le (h.le n hn)
  known r hr hu := by
    rcases known_schedule hr with hr | rfl
    · exact h.known r hr hu
    · exact absurd hu hne.symm
  current generation hc := by
    rw [get?_schedule, if_neg hne] at hc
    exact h.current generation hc

/-- Runs of other documents take no number of this one, either. -/
theorem scheduleAll_of_notMem (h : f.Numbered ended uri ours) (hnot : uri ∉ docs.map (·.1)) :
    (f.scheduleAll settings docs).Numbered ended uri ours := by
  induction docs generalizing f with
  | nil => exact h
  | cons d docs ih =>
    rw [List.map_cons, List.mem_cons, not_or] at hnot
    exact ih (h.schedule_of_ne hnot.1 _ _ _) hnot.2

end Numbered

/-! ### Runs of the document among others -/

/-- The runs of the document, by their generations. -/
theorem renumbered_generation_eq (hgen : generation ∈ ours) :
    (r.renumbered ours).generation = rank ours generation ↔ r.generation = generation := by
  rw [Run.renumbered, eq_comm, rank_inj hgen, eq_comm]

/-- Taking a run of the document out and numbering the others may be done in either order. -/
theorem renumbered_without (runs : List Run) (hgen : generation ∈ ours) :
    ((without generation runs).filter (·.uri == uri)).map (·.renumbered ours) =
      without (rank ours generation) ((runs.filter (·.uri == uri)).map (·.renumbered ours)) := by
  rw [without, without, List.filter_map, List.filter_filter, List.filter_filter]
  refine congrArg _ (List.filter_congr fun r _ => ?_)
  simp only [Function.comp_apply, bne, Bool.beq_eq_decide_eq, renumbered_generation_eq hgen,
    Bool.and_comm]

/-- Picking a run of the document and numbering it may be done in either order. -/
theorem renumbered_filter (runs : List Run) (hgen : generation ∈ ours) :
    ((runs.filter (·.generation == generation)).filter (·.uri == uri)).map (·.renumbered ours) =
      ((runs.filter (·.uri == uri)).map (·.renumbered ours)).filter
        (·.generation == rank ours generation) := by
  rw [List.filter_map, List.filter_filter, List.filter_filter]
  refine congrArg _ (List.filter_congr fun r _ => ?_)
  simp only [Function.comp_apply, Bool.beq_eq_decide_eq, renumbered_generation_eq hgen,
    Bool.and_comm]

/-- Taking out a run of another document leaves all of this one. -/
theorem filter_without_of_ne {runs : List Run}
    (h : ∀ r ∈ runs, r.uri = uri → r.generation ≠ generation) :
    (without generation runs).filter (·.uri == uri) = runs.filter (·.uri == uri) := by
  rw [without, List.filter_filter]
  refine List.filter_congr fun r hr => ?_
  by_cases hu : r.uri = uri
  · simp [hu, h r hr hu]
  · simp [hu]

/-- A run of another document is none of this one. -/
theorem filter_filter_of_ne {runs : List Run}
    (h : ∀ r ∈ runs, r.uri = uri → r.generation ≠ generation) :
    (runs.filter (·.generation == generation)).filter (·.uri == uri) = [] := by
  rw [List.filter_filter, List.filter_eq_nil_iff]
  intro r hr
  by_cases hu : r.uri = uri
  · simp [hu, h r hr hu]
  · simp [hu]

/-! ### Operations on runs of other documents -/

/-- Only what concerns the document counts. -/
theorem only_congr (hcurrent : f.current.get? uri = g.current.get? uri)
    (hscheduled : f.scheduled.filter (·.uri == uri) = g.scheduled.filter (·.uri == uri))
    (hbegun : f.begun.filter (·.uri == uri) = g.begun.filter (·.uri == uri))
    (harrived : f.arrived.filter (·.uri == uri) = g.arrived.filter (·.uri == uri)) :
    f.only uri ours = g.only uri ours := by
  rw [only, only, hscheduled, hbegun, harrived, Table.only_congr hcurrent fun _ _ => rfl]

/-- The run that is aborted is current for another document, and so none of this one. -/
theorem only_cancel_of_ne (hs : f.SingleFlight ended) (hf : f.Tracked ended) (hne : uri ≠ other) :
    (f.cancel other).only uri ours = f.only uri ours := by
  cases hcur : f.current.get? other with
  | none => rw [cancel, hcur]
  | some generation =>
    have hgen : ∀ r, f.Alive r → r.uri = uri → r.generation ≠ generation := by
      rintro r hr rfl rfl
      exact hne (hf.current_inj _ _ _ (hs.current r hr) hcur)
    have hget := get?_cancel f other uri
    rw [if_neg hne] at hget
    refine only_congr hget ?_ ?_ (by rw [arrived_cancel])
    · rw [cancel, hcur]
      exact filter_without_of_ne fun r hr => hgen r (Or.inl hr)
    · rw [cancel, hcur]
      exact filter_without_of_ne fun r hr => hgen r (Or.inr hr)

/-- Scheduling a run of another document aborts none of this one. -/
theorem only_schedule_of_ne (hs : f.SingleFlight ended) (hf : f.Tracked ended) (hne : uri ≠ other)
    (version : Int) (text : String) (settings : CompilerSettings) :
    (f.schedule other version text settings).only uri ours = f.only uri ours := by
  rw [← only_cancel_of_ne hs hf hne]
  refine only_congr ?_ ?_ rfl rfl
  · rw [get?_schedule, if_neg hne, get?_cancel, if_neg hne]
  · show ((f.cancel other).scheduled ++ [_]).filter _ = _
    rw [List.filter_append]
    simp [nextRun, hne.symm]

/-- Scheduling runs of other documents does nothing to this one. -/
theorem only_scheduleAll_of_notMem (hs : f.SingleFlight ended) (hf : f.Tracked ended)
    (hnot : uri ∉ docs.map (·.1)) :
    (f.scheduleAll settings docs).only uri ours = f.only uri ours := by
  -- The flights change from document to document, so both invariants are carried along.
  induction docs generalizing f with
  | nil => rfl
  | cons d docs ih =>
    rw [List.map_cons, List.mem_cons, not_or] at hnot
    exact (ih (hs.schedule hf _ _ _ _) (hf.schedule _ _ _ _) hnot.2).trans
      (only_schedule_of_ne hs hf hnot.1 _ _ _)

/-- A run of another document begins. -/
theorem only_start_of_notMem (h : f.Numbered ended uri ours) (hnot : generation ∉ ours) :
    (f.start generation).only uri ours = f.only uri ours := by
  have hgen : ∀ r ∈ f.scheduled, r.uri = uri → r.generation ≠ generation := by
    rintro r hr hu rfl
    exact hnot (h.scheduled hr hu)
  refine only_congr rfl (filter_without_of_ne hgen) ?_ rfl
  rw [start, List.filter_append, filter_filter_of_ne hgen, List.append_nil]

/-- A run of another document ends, and its event is none of this one. -/
theorem only_complete_of_notMem (h : f.Numbered ended uri ours) (hnot : generation ∉ ours)
    (o : Outcome) : (f.complete generation o).only uri ours = f.only uri ours := by
  have hgen : ∀ r ∈ f.begun, r.uri = uri → r.generation ≠ generation := by
    rintro r hr hu rfl
    exact hnot (h.begun hr hu)
  refine only_congr rfl rfl (filter_without_of_ne hgen) ?_
  rw [complete, List.filter_append, List.filter_map]
  -- An event has the document of its run, so none of the new ones is about this document.
  have hnone := filter_filter_of_ne hgen
  simp only [Function.comp_def, Run.event_uri, hnone, List.map_nil, List.append_nil]

/-- The event of another document is taken, and that document alone may lose its run. -/
theorem only_take_of_ne {e : Event} {later : List Event} (harrived : f.arrived = e :: later)
    (hne : e.uri ≠ uri) : (f.take e later).only uri ours = f.only uri ours := by
  obtain ⟨hs, hb, ha, _⟩ := take_eq (f := f) e later
  refine only_congr ?_ (by rw [hs]) (by rw [hb]) ?_
  · rw [get?_take, if_neg (fun hc => hne hc.1.symm)]
  · rw [ha, harrived, List.filter_cons_of_neg (by simpa using hne)]

/-! ### Operations on runs of the document -/

theorem cancel_of_none (h : f.current.get? uri = none) : f.cancel uri = f := by
  rw [cancel, h]

theorem cancel_of_some (h : f.current.get? uri = some generation) :
    f.cancel uri = { f with
      current := f.current.erase uri
      scheduled := without generation f.scheduled
      begun := without generation f.begun } := by
  rw [cancel, h]

/-- Aborting the current run of the document aborts it among its own. -/
theorem only_cancel (h : f.Numbered ended uri ours) :
    (f.cancel uri).only uri ours = (f.only uri ours).cancel uri := by
  cases hcur : f.current.get? uri with
  | none =>
    have hnone : (f.only uri ours).current.get? uri = none := by simp [only, hcur]
    rw [cancel_of_none hcur, cancel_of_none hnone]
  | some generation =>
    have hsome : (f.only uri ours).current.get? uri = some (rank ours generation) := by
      simp [only, hcur]
    have hgen := h.current generation hcur
    rw [cancel_of_some hcur, cancel_of_some hsome]
    simp only [only, Table.only_erase, renumbered_without _ hgen]

/-- A number that is yet to be given changes nothing but their count. -/
theorem only_append (h : f.Numbered ended uri ours) (hf : f.Tracked ended) (n : Nat) :
    f.only uri (ours ++ [n]) = { f.only uri ours with lastGeneration := ours.length + 1 } := by
  have hruns : ∀ runs : List Run, (∀ r ∈ runs, r.uri = uri → r.generation ∈ ours) →
      (runs.filter (·.uri == uri)).map (·.renumbered (ours ++ [n])) =
        (runs.filter (·.uri == uri)).map (·.renumbered ours) := by
    intro runs hmem
    refine List.map_congr_left fun r hr => ?_
    obtain ⟨hr, hu⟩ := List.mem_filter.mp hr
    exact Run.renumbered_append (hmem r hr (by simpa using hu)) _
  have hevents : (f.arrived.filter (·.uri == uri)).map (·.renumbered (ours ++ [n])) =
      (f.arrived.filter (·.uri == uri)).map (·.renumbered ours) := by
    refine List.map_congr_left fun e he => ?_
    obtain ⟨he, hu⟩ := List.mem_filter.mp he
    exact Event.renumbered_append (h.arrived hf he (by simpa using hu)) _
  have hcurrent : f.current.only uri (rank (ours ++ [n])) = f.current.only uri (rank ours) :=
    Table.only_congr rfl fun generation hcur => rank_append (h.current generation hcur) _
  rw [only, only, hruns _ fun r => h.scheduled, hruns _ fun r => h.begun, hevents, hcurrent,
    List.length_append, List.length_singleton]

/-- A run of the document is given the next of its numbers. -/
theorem only_schedule (h : f.Numbered ended uri ours) (hf : f.Tracked ended) (version : Int)
    (text : String) (settings : CompilerSettings) :
    (f.schedule uri version text settings).only uri (ours ++ [f.lastGeneration + 1]) =
      (f.only uri ours).schedule uri version text settings := by
  have hcancel : (f.cancel uri).only uri (ours ++ [f.lastGeneration + 1]) =
      { (f.only uri ours).cancel uri with lastGeneration := ours.length + 1 } := by
    rw [only_append (h.cancel uri) (hf.cancel uri), only_cancel h]
  have hrank : rank (ours ++ [f.lastGeneration + 1]) (f.lastGeneration + 1) = ours.length + 1 :=
    rank_new h.last_notMem
  -- What is left by the abortion is known field by field; only the new run is added to it.
  simp only [only, Flights.mk.injEq] at hcancel
  obtain ⟨hcurrent, -, hscheduled, hbegun, harrived⟩ := hcancel
  simp only [schedule, only, Table.only_insert, hcurrent, List.filter_append, List.map_append,
    hscheduled, hbegun, harrived]
  simp [nextRun, Run.renumbered, hrank]

/-- When all documents are checked again, the document gets one new run. -/
theorem only_scheduleAll (h : f.Numbered ended uri ours) (hs : f.SingleFlight ended)
    (hf : f.Tracked ended) (hd : (docs.map (·.1)).Nodup) {doc : Document}
    (hmem : (uri, doc) ∈ docs) :
    (f.scheduleAll settings docs).only uri
        (ours ++ f.newSince (f.scheduleAll settings docs) uri) =
      (f.only uri ours).schedule uri doc.version doc.text settings := by
  obtain ⟨before, after, rfl⟩ := List.append_of_mem hmem
  rw [List.map_append, List.map_cons, List.nodup_middle, List.nodup_cons, List.mem_append,
    not_or] at hd
  obtain ⟨⟨hbefore, hafter⟩, -⟩ := hd
  -- The documents before it and those after it do not touch its runs.
  have hsplit : f.scheduleAll settings (before ++ (uri, doc) :: after) =
      ((f.scheduleAll settings before).schedule uri doc.version doc.text settings).scheduleAll
        settings after := by
    rw [scheduleAll, List.foldl_append]
    rfl
  have hf' := hf.scheduleAll settings before
  have hs' := hs.scheduleAll hf settings before
  have h' : (f.scheduleAll settings before).Numbered ended uri ours :=
    h.scheduleAll_of_notMem hbefore
  have hnew : f.newSince (f.scheduleAll settings (before ++ (uri, doc) :: after)) uri =
      [(f.scheduleAll settings before).lastGeneration + 1] := by
    refine newSince_of_current ?_ (Nat.lt_succ_of_le (grows_scheduleAll f settings before).last)
    rw [hsplit, get?_scheduleAll_of_not_mem hafter, get?_schedule, if_pos rfl]
  rw [hnew, hsplit, only_scheduleAll_of_notMem (hs'.schedule hf' _ _ _ _)
    (hf'.schedule _ _ _ _) hafter, only_schedule h' hf', only_scheduleAll_of_notMem hs hf hbefore]

/-- When the runs of several documents are aborted, the document loses its run if it is one of
    them. -/
theorem only_cancelEach (h : f.Numbered ended uri ours) (hs : f.SingleFlight ended)
    (hf : f.Tracked ended) (uris : List String) :
    (uris.foldl cancel f).only uri ours =
      if uri ∈ uris then (f.only uri ours).cancel uri else f.only uri ours := by
  induction uris generalizing f with
  | nil => simp
  | cons u uris ih =>
    rw [List.foldl_cons, ih (h.cancel u) (hs.cancel u) (hf.cancel u)]
    -- Once the run of the document is aborted, it makes no difference whether it is named again.
    by_cases hu : uri = u
    · subst hu
      have hidle : ((f.only uri ours).cancel uri).current.get? uri = none := by
        rw [get?_cancel, if_pos rfl]
      rw [only_cancel h, cancel_of_none hidle, ite_self, if_pos List.mem_cons_self]
    · rw [only_cancel_of_ne hs hf hu]
      simp [hu]

/-- A run of the document begins under its own number. -/
theorem only_start (hgen : generation ∈ ours) :
    (f.start generation).only uri ours = (f.only uri ours).start (rank ours generation) := by
  simp only [start, only, renumbered_without _ hgen, List.filter_append, List.map_append,
    renumbered_filter _ hgen]

/-- It ends under its own number, too. -/
theorem only_complete (hgen : generation ∈ ours) (o : Outcome) :
    (f.complete generation o).only uri ours =
      (f.only uri ours).complete (rank ours generation) o := by
  have hevents : ∀ runs : List Run,
      ((runs.map (·.event o)).filter (·.uri == uri)).map (·.renumbered ours) =
        ((runs.filter (·.uri == uri)).map (·.renumbered ours)).map (·.event o) := by
    intro runs
    rw [List.filter_map, List.map_map, List.map_map]
    simp only [Function.comp_def, Run.event_uri, Run.event_renumbered]
  simp only [complete, only, renumbered_without _ hgen, List.filter_append, List.map_append,
    hevents, renumbered_filter _ hgen]

/-- It is current among its own just if it is among all. -/
theorem isCurrent_only (hgen : generation ∈ ours) :
    (f.only uri ours).isCurrent uri (rank ours generation) = f.isCurrent uri generation := by
  rw [Bool.eq_iff_iff, isCurrent_iff, isCurrent_iff]
  simp only [only, Table.get?_only, Option.map_eq_some_iff]
  -- Different runs of the document have different places, so no other run can be meant.
  constructor
  · rintro ⟨g, hg, hrank⟩
    rwa [(rank_inj hgen).mp hrank.symm]
  · exact fun hcur => ⟨generation, hcur, rfl⟩

/-- Forgetting a run that has ended and numbering the others may be done in either order. -/
theorem only_finish (hgen : generation ∈ ours) :
    (f.finish uri generation).only uri ours =
      (f.only uri ours).finish uri (rank ours generation) := by
  rw [finish, finish, isCurrent_only hgen]
  cases f.isCurrent uri generation with
  | true => simp only [only, Table.only_erase, if_true]
  | false => simp

/-- The event of a run of the document is taken among its own. -/
theorem only_take {e : Event} (later : List Event) (he : e.uri = uri)
    (hgen : e.generation ∈ ours) :
    (f.take e later).only uri ours = (f.only uri ours).take (e.renumbered ours)
      ((later.filter (·.uri == uri)).map (·.renumbered ours)) := by
  subst he
  rw [take, take, Event.renumbered_uri, Event.renumbered_generation, only_finish hgen]
  rfl

end Flights

end DiagnosticBridge
