import DiagnosticBridge.Proofs.Reactions
import Mathlib.Data.List.Induction

namespace DiagnosticBridge.Session

/-!
# The past of a session

The state of a server does not say which runs there have been, over which texts and with which
outcomes.  All of that can be read off the things that happened:

* `Scheduled` — the run stood among the scheduled ones at some point of the past;
* `Completed` — the run had begun and came to that outcome;
* `noticed` — the events that were taken notice of, in order;
* `lastPublished` — what the editor was last told about a document.

Each of them is described by what one more happening adds to it.  `invariant_run` is the induction
over the past that this makes possible.
-/

variable {x : Session} {past : List Happening} {what : Happening} {r : Run} {o : Outcome}

/-- The session after one thing more. -/
theorem run_concat (x : Session) (past : List Happening) (what : Happening) :
    x.run (past ++ [what]) = (x.run past).step what :=
  run_append x past [what]

/-- Nothing happens any more once the session has ended. -/
theorem run_concat_of_ended {ending : SessionEnd} (h : (x.run past).ending = some ending)
    (what : Happening) : x.run (past ++ [what]) = x.run past := by
  rw [run_concat]
  exact step_of_ended (Option.isSome_iff_exists.mpr ⟨ending, h⟩) what

/-- Until then every happening has its reaction. -/
theorem run_concat_of_not_ended (h : (x.run past).ending = none) (what : Happening) :
    x.run (past ++ [what]) = ⟨(reaction (x.run past).server what).server,
      (x.run past).sent ++ (reaction (x.run past).server what).sent,
      (reaction (x.run past).server what).ending⟩ := by
  rw [run_concat]
  simp only [step, h]

/-- An ended session stays as it is. -/
theorem run_of_ended {ending : SessionEnd} (h : x.ending = some ending)
    (later : List Happening) : x.run later = x := by
  induction later using List.reverseRecOn with
  | nil => rfl
  | append_singleton later what ih => rw [run_concat_of_ended (by rw [ih, h]), ih]

/-- What has been sent stays sent. -/
theorem exists_told (x : Session) (later : List Happening) :
    ∃ told, (x.run later).sent = x.sent ++ told := by
  induction later using List.reverseRecOn with
  | nil => exact ⟨[], (List.append_nil _).symm⟩
  | append_singleton later what ih =>
    obtain ⟨told, htold⟩ := ih
    cases hend : (x.run later).ending with
    | some ending =>
      rw [run_concat_of_ended hend]
      exact ⟨told, htold⟩
    | none =>
      rw [run_concat_of_not_ended hend, htold, List.append_assoc]
      exact ⟨_, rfl⟩

/-- The prefixes of the past are those of what was before, and the past itself. -/
private theorem exists_prefix_concat {P : List Happening → Prop} :
    (∃ earlier, earlier <+: past ++ [what] ∧ P earlier) ↔
      (∃ earlier, earlier <+: past ∧ P earlier) ∨ P (past ++ [what]) := by
  constructor
  · rintro ⟨earlier, hpre, hp⟩
    rcases List.prefix_concat_iff.mp hpre with rfl | hpre
    · exact Or.inr hp
    · exact Or.inl ⟨earlier, hpre, hp⟩
  · rintro (⟨earlier, hpre, hp⟩ | hp)
    · exact ⟨earlier, hpre.trans (List.prefix_append _ _), hp⟩
    · exact ⟨_, List.prefix_refl _, hp⟩

/-- A run that stood among the scheduled ones at some point of the past. -/
def Scheduled (x : Session) (past : List Happening) (r : Run) : Prop :=
  ∃ earlier, earlier <+: past ∧ r ∈ (x.run earlier).server.flights.scheduled

/-- A run has been scheduled if it had been before, or if it waits to begin now. -/
theorem scheduled_concat :
    x.Scheduled (past ++ [what]) r ↔
      x.Scheduled past r ∨ r ∈ (x.run (past ++ [what])).server.flights.scheduled :=
  exists_prefix_concat

/-- What has been scheduled stays so. -/
theorem Scheduled.mono {later : List Happening} (h : x.Scheduled past r) (hpre : past <+: later) :
    x.Scheduled later r := by
  obtain ⟨earlier, he, hr⟩ := h
  exact ⟨earlier, he.trans hpre, hr⟩

/-- A run that had begun and came to this outcome. -/
def Completed (x : Session) (past : List Happening) (r : Run) (o : Outcome) : Prop :=
  ∃ earlier, earlier ++ [.completed r.generation o] <+: past ∧ (x.run earlier).ending = none ∧
    r ∈ (x.run earlier).server.flights.begun

theorem not_completed_nil : ¬ x.Completed [] r o := by
  rintro ⟨earlier, hpre, _⟩
  simp at hpre

/-- A run has come to an outcome if it had before, or if it does now. -/
theorem completed_concat :
    x.Completed (past ++ [what]) r o ↔
      x.Completed past r o ∨ (what = .completed r.generation o ∧ (x.run past).ending = none ∧
        r ∈ (x.run past).server.flights.begun) := by
  constructor
  · rintro ⟨earlier, hpre, hr⟩
    rcases List.prefix_concat_iff.mp hpre with heq | hpre
    · obtain ⟨rfl, hw⟩ := List.append_inj' heq rfl
      exact Or.inr ⟨(List.singleton_inj.mp hw).symm, hr⟩
    · exact Or.inl ⟨earlier, hpre, hr⟩
  · rintro (⟨earlier, hpre, hr⟩ | ⟨rfl, hr⟩)
    · exact ⟨earlier, hpre.trans (List.prefix_append _ _), hr⟩
    · exact ⟨past, List.prefix_refl _, hr⟩

/-- Which runs have ended once something has happened to a server, and how. -/
def endedAfter (s : Server) (what : Happening) (ended : Run → Outcome → Prop) :
    Run → Outcome → Prop :=
  fun r o => ended r o ∨ (what = .completed r.generation o ∧ r ∈ s.flights.begun)

/-- Unless a run comes to its outcome, the runs that have ended are those from before. -/
theorem endedAfter_of_not_completed {ended : Run → Outcome → Prop} (s : Server)
    (h : ∀ generation o, what ≠ .completed generation o) : endedAfter s what ended = ended := by
  funext r o
  exact eq_iff_iff.mpr (or_iff_left fun hc => h _ _ hc.1)

theorem endedAfter_completed {s : Server} {ended : Run → Outcome → Prop} {generation : Nat}
    {o' : Outcome} : endedAfter s (.completed generation o) ended r o' ↔
      ended r o' ∨ (r.generation = generation ∧ o' = o ∧ r ∈ s.flights.begun) := by
  rw [endedAfter, Happening.completed.injEq, and_assoc, eq_comm, eq_comm (a := o)]

/-- **Invariants.** What holds at the start, when no run has ended and nothing has been sent, and is
    kept by every reaction holds at every point of a session. -/
theorem invariant_run {server : Server}
    {P : Server → (Run → Outcome → Prop) → List Outgoing → Prop}
    (begins : P server (fun _ _ => False) [])
    (keeps : ∀ s ended sent what, P s ended sent →
      P (reaction s what).server (endedAfter s what ended) (sent ++ (reaction s what).sent))
    (past : List Happening) :
    P ((start server).run past).server ((start server).Completed past)
      ((start server).run past).sent := by
  induction past using List.reverseRecOn with
  | nil =>
    have hnone : (start server).Completed [] = fun _ _ => False := by
      funext r o
      exact eq_false not_completed_nil
    rw [hnone]
    exact begins
  | append_singleton past what ih =>
    cases hend : ((start server).run past).ending with
    | some ending =>
      have hsame : (start server).Completed (past ++ [what]) = (start server).Completed past := by
        funext r o
        rw [completed_concat, hend]
        simp
      rw [run_concat_of_ended hend, hsame]
      exact ih
    | none =>
      have hmore : (start server).Completed (past ++ [what]) =
          endedAfter ((start server).run past).server what ((start server).Completed past) := by
        funext r o
        rw [completed_concat, hend, endedAfter]
        simp
      rw [run_concat_of_not_ended hend, hmore]
      exact keeps _ _ _ what ih

/-- The event that a server takes notice of when something happens: the first one that waits, if
    it is handled and its run is current. -/
def noticing (s : Server) : Happening → List Event
  | .handled =>
    (s.flights.arrived.head?.filter fun e => s.flights.isCurrent e.uri e.generation).toList
  | _ => []

/-- An event of a current run is taken notice of. -/
theorem noticing_of_current {s : Server} {e : Event} {later : List Event}
    (waits : s.flights.arrived = e :: later)
    (current : s.flights.current.get? e.uri = some e.generation) :
    noticing s .handled = [e] := by
  have hc := (Flights.isCurrent_iff _ _ _).mpr current
  simp [noticing, waits, hc]

/-- An event of any other run is not. -/
theorem noticing_of_stale {s : Server} {e : Event} {later : List Event}
    (waits : s.flights.arrived = e :: later)
    (stale : s.flights.current.get? e.uri ≠ some e.generation) :
    noticing s .handled = [] := by
  have hc := mt (Flights.isCurrent_iff _ _ _).mp stale
  simp [noticing, waits, hc]

/-- The event that is taken notice of in a session when something happens. -/
def noticedNow (x : Session) (what : Happening) : List Event :=
  match x.ending with
  | some _ => []
  | none => noticing x.server what

/-- The events that are taken notice of in a session, in order. -/
def noticed (x : Session) : List Happening → List Event
  | [] => []
  | what :: later => x.noticedNow what ++ noticed (x.step what) later

/-- What is noticed now comes after what was noticed before. -/
theorem noticed_concat (x : Session) (past : List Happening) (what : Happening) :
    x.noticed (past ++ [what]) = x.noticed past ++ (x.run past).noticedNow what := by
  -- The past is taken from its front here, so that the session it starts from changes.
  induction past generalizing x with
  | nil => simp [noticed, run]
  | cons h past ih =>
    rw [List.cons_append, noticed, noticed, ih, List.append_assoc]
    rfl

/-- The last event about a document that was taken notice of. -/
def lastNoticed (x : Session) (past : List Happening) (uri : String) : Option Event :=
  ((x.noticed past).filter (·.uri == uri)).getLast?

/-- What is noticed now about a document comes last. -/
theorem lastNoticed_concat (x : Session) (past : List Happening) (what : Happening)
    (uri : String) :
    x.lastNoticed (past ++ [what]) uri =
      (((x.run past).noticedNow what).filter (·.uri == uri)).getLast?.or
        (x.lastNoticed past uri) := by
  rw [lastNoticed, noticed_concat, List.filter_append, List.getLast?_append]
  rfl

/-- What the diagnostics published for a document say: the version and the batch. -/
def publishedFor (uri : String) : Outgoing → Option (Option Int × Batch)
  | .notification (.publishDiagnostics u version batch) =>
    if u = uri then some (version, batch) else none
  | _ => none

/-- The last diagnostics published for a document among some messages. -/
def lastPublished (sent : List Outgoing) (uri : String) : Option (Option Int × Batch) :=
  (sent.filterMap (publishedFor uri)).getLast?

/-- Later messages decide. -/
theorem lastPublished_append (sent more : List Outgoing) (uri : String) :
    lastPublished (sent ++ more) uri = (lastPublished more uri).or (lastPublished sent uri) := by
  rw [lastPublished, List.filterMap_append, List.getLast?_append]
  rfl

/-- No response publishes diagnostics. -/
theorem lastPublished_responses (responses : List Response) (uri : String) :
    lastPublished (responses.map .response) uri = none := by
  have hnone : (responses.map Outgoing.response).filterMap (publishedFor uri) = [] := by
    rw [List.filterMap_eq_nil_iff]
    intro m hm
    obtain ⟨response, _, rfl⟩ := List.mem_map.mp hm
    rfl
  rw [lastPublished, hnone]
  rfl

end DiagnosticBridge.Session
