import DiagnosticBridge.Proofs.Generations
import Mathlib.Data.List.Induction

namespace DiagnosticBridge.Flights

/-!
# Which runs are current

Runs are scheduled, cancelled and forgotten in any order and for any documents, and any generation
may be forgotten, one that is long gone or was never given out among them.  What the table of
current runs holds after all that can be read off what was done: the run of a document that was
scheduled last, unless it has been taken back since.

* `isCurrent_perform` — what one act does to the table;
* `given_eq` — generations are given out one by one, whatever the document;
* `latest_concat` — what one act does to the last run of a document;
* `current_iff_latest` — the table holds the last runs that have not been taken back.
-/

/-- What is done to the runs, by whoever uses them and by themselves. -/
inductive Act where
  /-- A run is scheduled. -/
  | schedule (uri : String) (version : Int) (text : String) (settings : CompilerSettings)
  /-- The current run of a document is cancelled. -/
  | cancel (uri : String)
  /-- A run is forgotten, if it is current. -/
  | finish (uri : String) (generation : Nat)
  /-- A run begins. -/
  | start (generation : Nat)
  /-- A run ends. -/
  | complete (generation : Nat) (outcome : Outcome)
  /-- The first event that waits is received. -/
  | receive

namespace Act

/-- The act schedules a run of the document. -/
def Schedules (uri : String) : Act → Prop
  | schedule other .. => other = uri
  | _ => False

/-- The act takes a run of the document back: the one of this generation is forgotten, or any run
    is cancelled or gives way to another. -/
def TakesBack (uri : String) (generation : Nat) : Act → Prop
  | schedule other .. => other = uri
  | cancel other => other = uri
  | finish other mine => other = uri ∧ mine = generation
  | _ => False

/-- Whether a run is scheduled, for any document. -/
def isSchedule : Act → Bool
  | schedule .. => true
  | _ => false

end Act

/-- The runs after an act. -/
def perform (f : Flights) : Act → Flights
  | .schedule uri version text settings => f.schedule uri version text settings
  | .cancel uri => f.cancel uri
  | .finish uri generation => f.finish uri generation
  | .start generation => f.start generation
  | .complete generation outcome => f.complete generation outcome
  | .receive => (f.receive?.map (·.2)).getD f

/-- The runs after some acts, when there were none before. -/
def after (past : List Act) : Flights := past.foldl perform empty

/-- The generation that an act answers with: that of the run, if one is scheduled. -/
def answer? (f : Flights) (a : Act) : Option Nat :=
  if a.isSchedule then some (f.perform a).lastGeneration else none

/-- The generations that some acts answer with, in order. -/
def given (f : Flights) : List Act → List Nat
  | [] => []
  | a :: later => (f.answer? a).toList ++ (f.perform a).given later

/-- The last run of the document has this generation, and nothing has taken it back since it was
    scheduled. -/
def Latest (past : List Act) (uri : String) (generation : Nat) : Prop :=
  ∃ earlier a later, past = earlier ++ a :: later ∧ a.Schedules uri ∧
    (after earlier).answer? a = some generation ∧ ∀ b ∈ later, ¬ b.TakesBack uri generation

variable {f : Flights} {a : Act} {past : List Act} {uri : String} {generation : Nat}

/-! ### One act -/

/-- Generations are given out one by one, to what is scheduled. -/
theorem lastGeneration_perform (f : Flights) (a : Act) :
    (f.perform a).lastGeneration = f.lastGeneration + if a.isSchedule then 1 else 0 := by
  -- Only scheduling counts; every other act passes the count on as it is.
  cases a with
  | schedule uri version text settings => rfl
  | cancel uri => exact lastGeneration_cancel
  | finish uri generation => exact (finish_eq f uri generation).2.2.2
  | start generation => rfl
  | complete generation outcome => rfl
  | receive =>
    show ((f.receive?.map (·.2)).getD f).lastGeneration = _
    unfold receive?
    split <;> rfl

/-- Receiving an event makes no run current, and none stale. -/
theorem current_receive (f : Flights) : (f.perform .receive).current = f.current := by
  show ((f.receive?.map (·.2)).getD f).current = _
  unfold receive?
  split <;> rfl

/-- **What one act does to the table.** A run is current after it if it has just been scheduled, or
    was current before and is not taken back. -/
theorem isCurrent_perform :
    (f.perform a).isCurrent uri generation = true ↔
      (a.Schedules uri ∧ f.answer? a = some generation) ∨
        (f.isCurrent uri generation = true ∧ ¬ a.TakesBack uri generation) := by
  simp only [isCurrent_iff]
  -- An act is about one document: the table is the same for all others.
  cases a with
  | schedule other version text settings =>
    show (f.schedule other version text settings).current.get? uri = _ ↔ _
    rw [get?_schedule]
    by_cases heq : uri = other
    · subst heq
      simp [Act.Schedules, Act.TakesBack, answer?, Act.isSchedule, perform]
    · simp [Act.Schedules, Act.TakesBack, heq, Ne.symm heq]
  | cancel other =>
    show (f.cancel other).current.get? uri = _ ↔ _
    rw [get?_cancel]
    by_cases heq : uri = other
    · simp [Act.Schedules, Act.TakesBack, heq]
    · simp [Act.Schedules, Act.TakesBack, heq, Ne.symm heq]
  | finish other mine =>
    show (f.finish other mine).current.get? uri = _ ↔ _
    rw [get?_finish]
    by_cases hcur : uri = other ∧ f.current.get? other = some mine
    · -- The run that is forgotten is the current one, and no other is.
      obtain ⟨rfl, hcur⟩ := hcur
      simp [Act.Schedules, Act.TakesBack, hcur]
    · rw [if_neg hcur]
      refine ⟨fun h => Or.inr ⟨h, ?_⟩, ?_⟩
      · rintro ⟨rfl, rfl⟩
        exact hcur ⟨rfl, h⟩
      · rintro (⟨h, _⟩ | ⟨h, _⟩)
        · exact h.elim
        · exact h
  | start mine | complete mine outcome =>
    simp [Act.Schedules, Act.TakesBack, perform, start, complete]
  | receive =>
    rw [current_receive]
    simp [Act.Schedules, Act.TakesBack]

/-- The table of current runs stays in the order of the URIs. -/
theorem sorted_perform (h : Table.Sorted f.current.entries) (a : Act) :
    Table.Sorted (f.perform a).current.entries := by
  have hcancel : ∀ uri, Table.Sorted (f.cancel uri).current.entries := by
    intro uri
    unfold cancel
    split
    · exact h
    · exact Table.sorted_erase h uri
  -- Scheduling cancels first, and what is inserted is put in its place.
  cases a with
  | schedule uri version text settings => exact Table.sorted_insert (hcancel uri) _ _
  | cancel uri => exact hcancel uri
  | finish uri generation =>
    show Table.Sorted (f.finish uri generation).current.entries
    unfold finish
    split
    · exact Table.sorted_erase h uri
    · exact h
  | start generation => exact h
  | complete generation outcome => exact h
  | receive =>
    rw [current_receive]
    exact h

/-! ### All that was done -/

theorem after_concat (past : List Act) (a : Act) :
    after (past ++ [a]) = (after past).perform a := by
  rw [after, List.foldl_append]
  rfl

/-- **Generations are given out one by one**, from the first on and whatever the document. -/
theorem given_eq (f : Flights) (later : List Act) :
    f.given later = List.range' (f.lastGeneration + 1) (later.countP Act.isSchedule) := by
  -- The range begins behind the last generation, which goes up with each that is given.
  induction later generalizing f with
  | nil => rfl
  | cons a later ih =>
    rw [given, ih, lastGeneration_perform, answer?, lastGeneration_perform]
    cases h : a.isSchedule with
    | true => simp [h, List.range'_succ]
    | false => simp [h]

/-- **What one act does to the last run of a document.** -/
theorem latest_concat :
    Latest (past ++ [a]) uri generation ↔
      (a.Schedules uri ∧ (after past).answer? a = some generation) ∨
        (Latest past uri generation ∧ ¬ a.TakesBack uri generation) := by
  constructor
  · rintro ⟨earlier, b, later, heq, hschedules, hanswer, hkept⟩
    -- The run is scheduled by the last act, or by an earlier one that the last act does not undo.
    rcases List.eq_nil_or_concat later with rfl | ⟨later, c, rfl⟩
    · obtain ⟨rfl, hab⟩ := List.append_inj' heq rfl
      obtain rfl := List.head_eq_of_cons_eq hab
      exact Or.inl ⟨hschedules, hanswer⟩
    · rw [List.concat_eq_append, ← List.cons_append, ← List.append_assoc] at heq
      obtain ⟨rfl, hac⟩ := List.append_inj' heq rfl
      obtain rfl := List.head_eq_of_cons_eq hac
      rw [List.concat_eq_append, List.forall_mem_append] at hkept
      exact Or.inr ⟨⟨earlier, b, later, rfl, hschedules, hanswer, hkept.1⟩,
        hkept.2 a List.mem_cons_self⟩
  · rintro (⟨hschedules, hanswer⟩ | ⟨⟨earlier, b, later, rfl, hschedules, hanswer, hkept⟩, hno⟩)
    · exact ⟨past, a, [], rfl, hschedules, hanswer, fun c hc => absurd hc List.not_mem_nil⟩
    · refine ⟨earlier, b, later ++ [a], by rw [List.append_assoc, List.cons_append], hschedules,
        hanswer, List.forall_mem_append.mpr ⟨hkept, List.forall_mem_singleton.mpr hno⟩⟩

/-- A run is current exactly if it is the latest of its document and not taken back. -/
theorem isCurrent_after_iff :
    (after past).isCurrent uri generation = true ↔ Latest past uri generation := by
  induction past using List.reverseRecOn with
  | nil =>
    refine iff_of_false Bool.false_ne_true ?_
    rintro ⟨earlier, a, later, heq, _⟩
    exact absurd heq (by simp)
  | append_singleton past a ih => rw [after_concat, isCurrent_perform, latest_concat, ih]

theorem sorted_after (past : List Act) : Table.Sorted (after past).current.entries := by
  induction past using List.reverseRecOn with
  | nil => exact List.Pairwise.nil
  | append_singleton past a ih =>
    rw [after_concat]
    exact sorted_perform ih a

/-- **A run is current exactly if it is the last one of its document and has not been taken back.**
    Whatever is done, in any order, generations go up over all documents, and none is greater than
    the number of runs that were scheduled.  A run is current if and only if it was scheduled last
    of all runs of its document and has neither been cancelled since nor been forgotten under its
    own generation.  So no document has two current runs, forgetting a run that is not current
    changes nothing, and the size of the table is the number of documents with a current run. -/
theorem current_iff_latest (past : List Act) :
    (empty.given past).Pairwise (· < ·) ∧
    (∀ generation ∈ empty.given past, generation ≤ past.countP Act.isSchedule) ∧
    (∀ uri generation,
      (after past).isCurrent uri generation = true ↔ Latest past uri generation) ∧
    (∀ uri generation other, (after past).isCurrent uri generation = true →
      (after past).isCurrent uri other = true → generation = other) ∧
    (∀ uri generation, (after past).isCurrent uri generation = false →
      (after past).finish uri generation = after past) ∧
    ∃ uris : List String, uris.Nodup ∧
      (∀ uri, uri ∈ uris ↔ ∃ generation, (after past).isCurrent uri generation = true) ∧
      (after past).size = uris.length := by
  have hgiven := given_eq empty past
  refine ⟨?_, ?_, fun _ _ => isCurrent_after_iff, ?_, ?_, (after past).current.keys,
    Table.nodup_keys (sorted_after past), fun uri => ?_, ?_⟩
  · rw [hgiven]
    exact List.pairwise_lt_range'
  · intro generation h
    rw [hgiven, List.mem_range'_1] at h
    have hzero : empty.lastGeneration = 0 := rfl
    omega
  · intro uri generation other h h'
    rw [isCurrent_iff] at h h'
    exact Option.some.inj (h.symm.trans h')
  · intro uri generation h
    rw [finish, h, if_neg Bool.false_ne_true]
  · simp only [isCurrent_iff, ← Option.isSome_iff_exists]
    rw [← Decidable.not_iff_not, Option.not_isSome_iff_eq_none, Table.get?_eq_none_iff]
  · rw [size, Table.size, Table.keys, List.length_map]

/-- To forget a run that has given way to another does nothing. -/
example (settings : CompilerSettings) :
    (after [.schedule "a" 1 "" settings, .schedule "b" 1 "" settings, .schedule "a" 2 "" settings,
      .finish "a" 1, .finish "b" 2]).current.entries = [("a", 3)] :=
  rfl

end DiagnosticBridge.Flights
