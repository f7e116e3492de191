import DiagnosticBridge.Proofs.Tracking
import DiagnosticBridge.Server

namespace DiagnosticBridge

/-!
# Checking all open documents again

A change of settings gives every open document a new run.  The documents are taken one after the
other, and each of them aborts the run that it had; since no two of them have the same URI, none
of the new runs is aborted by a later one.

* `scheduleAll_current` — afterwards the current run of the `i`-th document is a new one over its
  version and text under the new settings, with the `i`-th generation after the last one;
* `get?_scheduleAll_of_not_mem` — no other document gets a run.
-/

namespace Flights

variable {f : Flights} {ended : Run → Outcome → Prop} {settings : CompilerSettings}
  {docs : List (String × Document)} {uri : String} {doc : Document} {r : Run}

/-- Schedules a run over each of the documents, in order. -/
def scheduleAll (f : Flights) (settings : CompilerSettings) (docs : List (String × Document)) :
    Flights :=
  docs.foldl (fun f d => f.schedule d.1 d.2.version d.2.text settings) f

/-- Runs for all documents get new generations. -/
theorem grows_scheduleAll (f : Flights) (settings : CompilerSettings)
    (docs : List (String × Document)) : Grows f (f.scheduleAll settings docs) := by
  induction docs generalizing f with
  | nil => exact Grows.refl f
  | cons d docs ih => exact (grows_schedule f _ _ _ _).trans (ih _)

/-- They keep the generations in order. -/
theorem Tracked.scheduleAll (h : f.Tracked ended) (settings : CompilerSettings)
    (docs : List (String × Document)) : (f.scheduleAll settings docs).Tracked ended := by
  induction docs generalizing f with
  | nil => exact h
  | cons d docs ih => exact ih (h.schedule _ _ _ _)

/-- None of them has begun. -/
theorem mem_begun_scheduleAll (h : r ∈ (f.scheduleAll settings docs).begun) : r ∈ f.begun := by
  induction docs generalizing f with
  | nil => exact h
  | cons d docs ih => exact (mem_begun_schedule.mp (ih h)).1

/-- A document that is not among them keeps its run. -/
theorem get?_scheduleAll_of_not_mem (h : uri ∉ docs.map (·.1)) :
    (f.scheduleAll settings docs).current.get? uri = f.current.get? uri := by
  induction docs generalizing f with
  | nil => rfl
  | cons d docs ih =>
    rw [List.map_cons, List.mem_cons, not_or] at h
    show ((f.schedule _ _ _ _).scheduleAll settings docs).current.get? uri = _
    rw [ih h.2, get?_schedule, if_neg h.1]

/-- A current run that has not begun stays scheduled while other documents get runs. -/
theorem mem_scheduled_scheduleAll (hf : f.Tracked ended) (hr : r ∈ f.scheduled)
    (hcur : f.current.get? r.uri = some r.generation) (hnot : r.uri ∉ docs.map (·.1)) :
    r ∈ (f.scheduleAll settings docs).scheduled := by
  induction docs generalizing f with
  | nil => exact hr
  | cons d docs ih =>
    rw [List.map_cons, List.mem_cons, not_or] at hnot
    have hgen : f.current.get? d.1 ≠ some r.generation :=
      fun hc => hnot.1 (hf.current_inj _ _ _ hcur hc)
    refine ih (hf.schedule _ _ _ _) (mem_scheduled_schedule.mpr (Or.inl ⟨hr, hgen⟩)) ?_ hnot.2
    rw [get?_schedule, if_neg hnot.1]
    exact hcur

/-- The run over the `i`-th document when all documents are checked again. -/
def rerun (f : Flights) (settings : CompilerSettings) (uri : String) (doc : Document) (i : Nat) :
    Run :=
  ⟨uri, doc.version, f.lastGeneration + 1 + i, doc.text, settings⟩

/-- **Every document gets one new run.** The `i`-th of documents with different URIs gets the
    `i`-th new generation, and its run is scheduled and current in the end. -/
theorem scheduleAll_current (hf : f.Tracked ended) (hd : (docs.map (·.1)).Nodup) {i : Nat}
    (hi : docs[i]? = some (uri, doc)) :
    f.rerun settings uri doc i ∈ (f.scheduleAll settings docs).scheduled ∧
      (f.scheduleAll settings docs).current.get? uri = some (f.lastGeneration + 1 + i) := by
  induction docs generalizing f i with
  | nil => simp at hi
  | cons d docs ih =>
    rw [List.map_cons, List.nodup_cons] at hd
    cases i with
    | zero =>
      -- The run of the first document has to survive those of the others.
      rw [List.getElem?_cons_zero, Option.some.injEq] at hi
      subst hi
      have hcur : (f.schedule uri doc.version doc.text settings).current.get? uri =
          some (f.lastGeneration + 1) := by
        rw [get?_schedule, if_pos rfl]
      have hnew : f.rerun settings uri doc 0 ∈
          (f.schedule uri doc.version doc.text settings).scheduled :=
        mem_scheduled_schedule.mpr (Or.inr rfl)
      refine ⟨?_, ?_⟩
      · show _ ∈
          ((f.schedule uri doc.version doc.text settings).scheduleAll settings docs).scheduled
        exact mem_scheduled_scheduleAll (hf.schedule _ _ _ _) hnew hcur hd.1
      · show ((f.schedule _ _ _ _).scheduleAll settings docs).current.get? uri = _
        rw [get?_scheduleAll_of_not_mem hd.1]
        exact hcur
    | succ i =>
      rw [List.getElem?_cons_succ] at hi
      obtain ⟨hmem, hcur⟩ := ih (hf.schedule d.1 d.2.version d.2.text settings) hd.2 hi
      have hgen : f.lastGeneration + 1 + 1 + i = f.lastGeneration + 1 + (i + 1) := by omega
      rw [rerun, lastGeneration_schedule, hgen] at hmem
      rw [lastGeneration_schedule, hgen] at hcur
      exact ⟨hmem, hcur⟩

/-! ### Aborting the runs of several documents -/

/-- Aborting the runs of several documents gives out no generation. -/
theorem grows_cancelEach (f : Flights) (uris : List String) :
    Grows f (uris.foldl Flights.cancel f) := by
  induction uris generalizing f with
  | nil => exact Grows.refl f
  | cons u uris ih => exact (grows_cancel f u).trans (ih _)

/-- It keeps the generations in order. -/
theorem Tracked.cancelEach (h : f.Tracked ended) (uris : List String) :
    (uris.foldl Flights.cancel f).Tracked ended := by
  induction uris generalizing f with
  | nil => exact h
  | cons u uris ih => exact ih (h.cancel u)

/-- It lets no run begin. -/
theorem mem_begun_cancelEach {uris : List String} (h : r ∈ (uris.foldl Flights.cancel f).begun) :
    r ∈ f.begun := by
  induction uris generalizing f with
  | nil => exact h
  | cons u uris ih => exact (mem_begun_cancel.mp (ih h)).1

/-- It takes their runs from these documents, and from no others. -/
theorem get?_cancelEach (f : Flights) (uris : List String) (uri : String) :
    (uris.foldl Flights.cancel f).current.get? uri =
      if uri ∈ uris then none else f.current.get? uri := by
  induction uris generalizing f with
  | nil => simp
  | cons u uris ih =>
    rw [List.foldl_cons, ih, get?_cancel]
    by_cases h : uri ∈ uris
    · rw [if_pos h, if_pos (List.mem_cons_of_mem _ h)]
    · by_cases hu : uri = u
      · rw [if_neg h, if_pos hu, if_pos (hu ▸ List.mem_cons_self)]
      · rw [if_neg h, if_neg hu, if_neg (by simp [hu, h])]

/-- A run that is still current after that is one of another document. -/
theorem current_cancelEach {uris : List String} {generation : Nat}
    (h : (uris.foldl Flights.cancel f).current.get? uri = some generation) :
    uri ∉ uris ∧ f.current.get? uri = some generation := by
  rw [get?_cancelEach] at h
  split at h
  · cases h
  · next hnot => exact ⟨hnot, h⟩

end Flights

namespace Server

/-- Checking all open documents again changes nothing but the runs. -/
theorem checkAll_eq (s : Server) :
    s.checkAll = { s with flights := s.flights.scheduleAll s.settings s.documents.toList } := by
  have hfold : ∀ (docs : List (String × Document)) (t : Server),
      docs.foldl (fun t (d : String × Document) => t.check d.1 d.2.version d.2.text) t =
        { t with flights := t.flights.scheduleAll t.settings docs } := by
    intro docs
    induction docs with
    | nil => intro t; rfl
    | cons d docs ih => intro t; exact ih _
  exact hfold s.documents.toList s

end Server

end DiagnosticBridge
