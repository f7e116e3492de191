import DiagnosticBridge.Proofs.Publication
import DiagnosticBridge.Proofs.SingleFlight
import DiagnosticBridge.Proofs.Silence
import Mathlib.Data.List.Basic

namespace DiagnosticBridge

/-!
# A change of the configuration

When the editor changes the configuration of a running session, whatever was found out before is
of no use any more: every open document is checked again under the settings that are now in force,
whether they are new ones or the old ones, and no result of an earlier run counts.

* `Flights.reruns` — the runs that checking some documents again gives, one for each;
* `Flights.get?_scheduleAll` — which runs are current then;
* `Flights.scheduled_scheduleAll` — which runs are scheduled then;
* `Session.stale_of_reconfigured` — no earlier run is current any more, then or later;
* `Session.rechecked_once` — every open document is checked again exactly once.
-/

namespace Flights

variable {f : Flights} {ended : Run → Outcome → Prop} {settings : CompilerSettings}
  {docs : List (String × Document)} {uri : String} {generation : Nat} {r : Run}

/-- The runs that are scheduled when the documents are checked again, in order. -/
def reruns (f : Flights) (settings : CompilerSettings) : List (String × Document) → List Run
  | [] => []
  | (uri, doc) :: docs =>
    f.nextRun uri doc.version doc.text settings ::
      (f.schedule uri doc.version doc.text settings).reruns settings docs

/-- There is one run for each document, over what is stored. -/
theorem documents_reruns (f : Flights) (settings : CompilerSettings)
    (docs : List (String × Document)) :
    (f.reruns settings docs).map (fun r => (r.uri, (⟨r.version, r.text⟩ : Document))) = docs := by
  induction docs generalizing f with
  | nil => rfl
  | cons d docs ih =>
    rw [reruns, List.map_cons, ih]
    rfl

/-- All runs are under the new settings. -/
theorem settings_reruns (h : r ∈ f.reruns settings docs) : r.settings = settings := by
  induction docs generalizing f with
  | nil => exact absurd h List.not_mem_nil
  | cons d docs ih =>
    rcases List.mem_cons.mp h with rfl | h
    · rfl
    · exact ih h

/-- **Generations without gaps.** The runs get the generations that follow the last one. -/
theorem generations_reruns (f : Flights) (settings : CompilerSettings)
    (docs : List (String × Document)) :
    (f.reruns settings docs).map (·.generation) =
      List.range' (f.lastGeneration + 1) docs.length := by
  induction docs generalizing f with
  | nil => rfl
  | cons d docs ih =>
    rw [reruns, List.map_cons, ih, lastGeneration_schedule, List.length_cons, List.range'_succ]
    rfl

/-- The new runs have generations that had not been given out. -/
theorem lt_generation_of_rerun (h : r ∈ f.reruns settings docs) :
    f.lastGeneration < r.generation := by
  have hmem : r.generation ∈ (f.reruns settings docs).map (·.generation) :=
    List.mem_map_of_mem h
  rw [generations_reruns, List.mem_range'_1] at hmem
  omega

/-- **What is current after all documents are checked again.** It is the new run of a document, or
    what was current for one that is not among them. -/
theorem get?_scheduleAll (hdocs : (docs.map (·.1)).Nodup) :
    (f.scheduleAll settings docs).current.get? uri = some generation ↔
      (∃ r ∈ f.reruns settings docs, r.uri = uri ∧ r.generation = generation) ∨
        (uri ∉ docs.map (·.1) ∧ f.current.get? uri = some generation) := by
  induction docs generalizing f with
  | nil => simp [scheduleAll, reruns]
  | cons d docs ih =>
    rw [List.map_cons, List.nodup_cons] at hdocs
    show ((f.schedule d.1 d.2.version d.2.text settings).scheduleAll settings docs).current.get?
      uri = some generation ↔ _
    rw [ih hdocs.2, get?_schedule]
    rw [reruns, List.exists_mem_cons_iff, List.map_cons, List.mem_cons]
    by_cases huri : uri = d.1
    · -- No later document has this URI, so that the run of the first one stays.
      have hfirst : (f.nextRun d.1 d.2.version d.2.text settings).uri = uri := huri.symm
      simp only [hfirst, true_and, huri, if_true, not_true, false_and, or_false, hdocs.1,
        not_false_eq_true, Option.some.injEq]
      exact or_comm
    · have hfirst : (f.nextRun d.1 d.2.version d.2.text settings).uri ≠ uri := Ne.symm huri
      simp only [hfirst, huri, false_and, false_or, if_false]

/-- Cancelling takes the current run of a document from the scheduled ones. -/
theorem scheduled_cancel (f : Flights) (uri : String) :
    (f.cancel uri).scheduled =
      f.scheduled.filter fun r => f.current.get? uri != some r.generation := by
  unfold cancel
  cases hcur : f.current.get? uri with
  | none => exact (List.filter_eq_self.mpr fun _ _ => rfl).symm
  | some generation =>
    apply List.filter_congr
    intro r _
    rw [Bool.eq_iff_iff, bne_iff_ne, bne_iff_ne, ne_eq, ne_eq, Option.some.injEq, eq_comm]

/-- **What is scheduled after all documents are checked again.** The new runs follow those that were
    scheduled before and are not aborted. -/
theorem scheduled_scheduleAll (hf : f.Tracked ended) (hdocs : (docs.map (·.1)).Nodup) :
    (f.scheduleAll settings docs).scheduled =
      f.scheduled.filter (fun r => docs.all fun d => f.current.get? d.1 != some r.generation) ++
        f.reruns settings docs := by
  induction docs generalizing f with
  | nil => simp [scheduleAll, reruns, List.filter_eq_self.mpr]
  | cons d docs ih =>
    rw [List.map_cons, List.nodup_cons] at hdocs
    have hlater : ∀ r : Run,
        (docs.all fun b => (f.schedule d.1 d.2.version d.2.text settings).current.get? b.1 !=
          some r.generation) = docs.all fun b => f.current.get? b.1 != some r.generation := by
      intro r
      rw [Bool.eq_iff_iff, List.all_eq_true, List.all_eq_true]
      refine forall₂_congr fun b hb => ?_
      have hne : b.1 ≠ d.1 := fun heq => hdocs.1 (heq ▸ List.mem_map_of_mem hb)
      rw [get?_schedule, if_neg hne]
    -- The new run is not current for another document, since its generation is new.
    have hnew : (docs.all fun b => f.current.get? b.1 !=
        some (f.nextRun d.1 d.2.version d.2.text settings).generation) = true := by
      rw [List.all_eq_true]
      intro b _
      rw [bne_iff_ne]
      intro hcur
      have hle := hf.current_le _ _ hcur
      have hgen : (f.nextRun d.1 d.2.version d.2.text settings).generation =
        f.lastGeneration + 1 := rfl
      omega
    show ((f.schedule d.1 d.2.version d.2.text settings).scheduleAll settings docs).scheduled = _
    rw [ih (hf.schedule _ _ _ _) hdocs.2]
    simp only [hlater]
    show ((f.cancel d.1).scheduled ++
      [f.nextRun d.1 d.2.version d.2.text settings]).filter _ ++ _ = _
    rw [scheduled_cancel, List.filter_append, List.filter_filter, List.filter_singleton, hnew,
      List.append_assoc]
    simp [reruns, Bool.and_comm]

/-- Where every current run is that of one of the documents, only the new runs are alive after all
    of them are checked again, and none of them has begun. -/
theorem alive_scheduleAll (hs : f.SingleFlight ended) (hf : f.Tracked ended)
    (settings : CompilerSettings) (hdocs : (docs.map (·.1)).Nodup)
    (hall : ∀ uri generation, f.current.get? uri = some generation → uri ∈ docs.map (·.1)) :
    (f.scheduleAll settings docs).scheduled = f.reruns settings docs ∧
      (f.scheduleAll settings docs).begun = [] := by
  constructor
  · rw [scheduled_scheduleAll hf hdocs, List.filter_eq_nil_iff.mpr, List.nil_append]
    intro r hr hkept
    -- A scheduled run is current, hence that of a document, and is aborted.
    have hcur := hs.current r (Or.inl hr)
    obtain ⟨d, hd, huri⟩ := List.mem_map.mp (hall _ _ hcur)
    have hne := List.all_eq_true.mp hkept d hd
    rw [bne_iff_ne, huri] at hne
    exact hne hcur
  · rw [List.eq_nil_iff_forall_not_mem]
    intro r hr
    have hafter := (hs.scheduleAll hf settings docs).current r (Or.inr hr)
    have hbefore := hs.current r (Or.inr (mem_begun_scheduleAll hr))
    rcases (get?_scheduleAll hdocs).mp hafter with ⟨q, hq, _, hgen⟩ | ⟨hnot, _⟩
    · have hlt := lt_generation_of_rerun hq
      have hle := hf.current_le _ _ hbefore
      omega
    · exact hnot (hall _ _ hbefore)

end Flights

/-- The editor changes the configuration of a session that is running. -/
def Happening.Reconfigures (l : Lifecycle) (what : Happening) : Prop :=
  l = .running ∧ ∃ frame value, what = .received (.message frame) ∧
    Incoming.Notifies frame (.configured value)

namespace Server

/-- All documents of the server `s` are checked again in `s'`, by these runs and no others. -/
structure Rechecked (s s' : Server) (runs : List Run) : Prop where
  /-- The documents stay as they are. -/
  documents : s'.documents = s.documents
  /-- There is one run for each document, over its version and text. -/
  snapshots : runs.map (fun r => (r.uri, (⟨r.version, r.text⟩ : Document))) = s.documents.toList
  /-- The runs are under the settings that are in force now. -/
  settings : ∀ r ∈ runs, r.settings = s'.settings
  /-- They are scheduled, and no others are. -/
  scheduled : s'.flights.scheduled = runs
  /-- No run has begun. -/
  begun : s'.flights.begun = []
  /-- They are current, and no others are. -/
  current : ∀ uri generation, s'.flights.current.get? uri = some generation ↔
    ∃ r ∈ runs, r.uri = uri ∧ r.generation = generation
  /-- Their generations follow the last one, without gaps. -/
  generations : runs.map (·.generation) =
    List.range' (s.flights.lastGeneration + 1) runs.length
  /-- They are in the order of the bytes of their URIs, and so are their generations. -/
  ordered : runs.Pairwise fun a b =>
    Utf8.before a.uri b.uri = true ∧ a.generation < b.generation

variable {s s' : Server} {ended : Run → Outcome → Prop} {runs : List Run} {uri : String}

/-- A document has a current run exactly if it is open. -/
theorem Rechecked.current_iff_open (h : s.Rechecked s' runs) :
    (∃ generation, s'.flights.current.get? uri = some generation) ↔
      ∃ doc, s'.documents.get? uri = some doc := by
  have huris : runs.map (·.uri) = s'.documents.keys := by
    rw [h.documents, Table.keys, ← Table.toList, ← h.snapshots, List.map_map]
    rfl
  have hopen : (∃ doc, s'.documents.get? uri = some doc) ↔ uri ∈ s'.documents.keys := by
    rw [← not_iff_not, ← Table.get?_eq_none_iff, Option.eq_none_iff_forall_ne_some, not_exists]
  rw [hopen, ← huris, List.mem_map]
  constructor
  · rintro ⟨generation, hcur⟩
    obtain ⟨r, hr, huri, _⟩ := (h.current _ _).mp hcur
    exact ⟨r, hr, huri⟩
  · rintro ⟨r, hr, huri⟩
    exact ⟨r.generation, (h.current _ _).mpr ⟨r, hr, huri, rfl⟩⟩

/-- **Checked again exactly once.** Whatever the settings become, this is what comes of checking all
    documents again where the current runs are up to date and every run that is alive is current. -/
theorem Fresh.rechecked (h : s.Fresh ended) (hs : s.flights.SingleFlight ended)
    (settings : CompilerSettings) (trace : TraceLevel) (warned : Bool) :
    s.Rechecked
      { s with
        flights := s.flights.scheduleAll settings s.documents.toList
        settings := settings
        trace := trace
        warned := warned }
      (s.flights.reruns settings s.documents.toList) := by
  have hdocs : (s.documents.toList.map (·.1)).Nodup := Table.nodup_keys h.ordered
  have hall : ∀ uri generation, s.flights.current.get? uri = some generation →
      uri ∈ s.documents.toList.map (·.1) := fun _ _ hcur => h.mem_keys hcur
  have hsnapshots := Flights.documents_reruns s.flights settings s.documents.toList
  have hlength : (s.flights.reruns settings s.documents.toList).length =
      s.documents.toList.length := by
    rw [← List.length_map, hsnapshots]
  have hgenerations := Flights.generations_reruns s.flights settings s.documents.toList
  obtain ⟨hscheduled, hbegun⟩ := Flights.alive_scheduleAll hs h.tracked settings hdocs hall
  refine ⟨rfl, hsnapshots, fun r hr => Flights.settings_reruns hr, hscheduled, hbegun, ?_, ?_, ?_⟩
  · intro uri generation
    -- What was current before is that of a document, and no longer current.
    refine (Flights.get?_scheduleAll hdocs).trans (or_iff_left ?_)
    exact fun hold => hold.1 (hall _ _ hold.2)
  · rw [hlength]
    exact hgenerations
  · apply List.Pairwise.and
    · have hsorted : s.documents.toList.Pairwise fun a b => Utf8.before a.1 b.1 = true := h.ordered
      rw [← hsnapshots, List.pairwise_map] at hsorted
      exact hsorted
    · have hincreasing : ((s.flights.reruns settings s.documents.toList).map
          (·.generation)).Pairwise (· < ·) := by
        rw [hgenerations]
        exact List.pairwise_lt_range'
      exact List.pairwise_map.mp hincreasing

end Server

namespace Session

open Server (messages)
open Incoming (Notifies)

variable {s : Server} {what : Happening} {frame value : Json} {base : Layer} {server : Server}
  {past : List Happening} {r : Run}

/-- The settings are taken or refused, and whatever comes of it, all documents are checked again. -/
theorem reaction_of_configured (running : s.lifecycle = .running)
    (h : Notifies frame (.configured value)) :
    reaction s (.received (.message frame)) =
      ⟨{ (s.configure value).1 with warned := false }.checkAll, messages (s.configure value).2,
        none⟩ := by
  show s.receiveValue frame = _
  rw [s.receiveValue_of_notifies h, if_pos running]
  rfl

/-- A change of the configuration leaves the documents and the lifecycle alone. -/
theorem exists_reconfigured (h : what.Reconfigures s.lifecycle) :
    ∃ settings trace, (reaction s what).server =
      { s with
        flights := s.flights.scheduleAll settings s.documents.toList
        settings := settings
        trace := trace
        warned := false } := by
  obtain ⟨running, frame, value, rfl, hn⟩ := h
  obtain ⟨settings, trace, heq⟩ := s.configure_eq value
  refine ⟨settings, trace, ?_⟩
  rw [reaction_of_configured running hn, heq, Server.checkAll_eq]

/-- Wherever the editor changes the configuration of a running session all documents are checked
    again. -/
theorem exists_rechecked (h : Server.ofBase base = .ok server)
    (goes_on : ((start server).run past).ending = none)
    (hwhat : what.Reconfigures ((start server).run past).server.lifecycle) :
    ∃ runs, ((start server).run past).server.Rechecked
      ((start server).run (past ++ [what])).server runs := by
  obtain ⟨settings, trace, heq⟩ := exists_reconfigured hwhat
  rw [run_concat_of_not_ended goes_on, heq]
  exact ⟨_, (fresh_run h past).rechecked (singleFlight_run h past) settings trace false⟩

/-- The runs that are scheduled when all documents are checked again are newer than any run
    before. -/
theorem lt_generation_of_rechecked {s' : Server} {runs : List Run} {q : Run}
    (h : Server.ofBase base = .ok server)
    (hall : ((start server).run past).server.Rechecked s' runs)
    (hq : (start server).Scheduled past q) (hr : r ∈ runs) : q.generation < r.generation := by
  have hle := (remembered_run h past).le q hq
  have hmem : r.generation ∈ runs.map (·.generation) := List.mem_map_of_mem hr
  rw [hall.generations, List.mem_range'_1] at hmem
  omega

/-- **No earlier run counts.** A run that had been scheduled before the configuration was changed is
    not current any more, and never becomes current again. -/
theorem stale_of_reconfigured (h : Server.ofBase base = .ok server)
    (goes_on : ((start server).run past).ending = none)
    (hwhat : what.Reconfigures ((start server).run past).server.lifecycle)
    (hr : (start server).Scheduled past r) (later : List Happening) :
    ((start server).run (past ++ what :: later)).server.flights.current.get? r.uri ≠
      some r.generation := by
  intro hcur
  have hpre : past ++ [what] <+: past ++ what :: later := by simp
  have hthen := current_since_scheduled h hpre (hr.mono (List.prefix_append _ _)) hcur
  -- What was current right after the change is a new run, since all documents got one.
  obtain ⟨runs, hall⟩ := exists_rechecked h goes_on hwhat
  obtain ⟨q, hq, _, hgen⟩ := (hall.current _ _).mp hthen
  have hlt := lt_generation_of_rechecked h hall hr hq
  omega

/-- **Every document is checked again exactly once.** When the editor changes the configuration of
    a running session, be the settings accepted or refused, the documents stay as they are, and each
    of them gets one run over its version and text under the settings that are in force then, so
    that the documents with a current run are just the open ones.  The generations of these runs
    follow the last one that was given, without gaps and in the order of the bytes of the URIs, and
    are greater than that of any earlier run.  No event of an earlier run is current any more, then
    or later. -/
theorem rechecked_once (h : Server.ofBase base = .ok server) (past : List Happening)
    (goes_on : ((start server).run past).ending = none)
    (running : ((start server).run past).server.lifecycle = .running) (frame value : Json)
    (hn : Notifies frame (.configured value)) :
    (∃ runs, ((start server).run past).server.Rechecked
        ((start server).run (past ++ [.received (.message frame)])).server runs ∧
      ∀ q, (start server).Scheduled past q → ∀ r ∈ runs, q.generation < r.generation) ∧
    (∀ uri,
      (∃ generation, ((start server).run
        (past ++ [.received (.message frame)])).server.flights.current.get? uri = some generation) ↔
      ∃ doc, ((start server).run
        (past ++ [.received (.message frame)])).server.documents.get? uri = some doc) ∧
    ∀ q o, (start server).Scheduled past q → ∀ later,
      ((start server).run (past ++ .received (.message frame) :: later)).server.flights.isCurrent
        (q.event o).uri (q.event o).generation = false := by
  have hwhat : Happening.Reconfigures ((start server).run past).server.lifecycle
      (.received (.message frame)) := ⟨running, frame, value, rfl, hn⟩
  obtain ⟨runs, hall⟩ := exists_rechecked h goes_on hwhat
  refine ⟨⟨runs, hall, ?_⟩, fun uri => hall.current_iff_open, ?_⟩
  · exact fun q hq r hr => lt_generation_of_rechecked h hall hq hr
  · intro q o hq later
    rw [← Bool.not_eq_true, Flights.isCurrent_iff, Run.event_uri, Run.event_generation]
    exact stale_of_reconfigured h goes_on hwhat hq later

/-- Settings that are refused, since the libraries are not a list. -/
def refusedSettings : Json := .object [("perl6", .object [("libs", .string "not-a-list")])]

/-- The editor changes the configuration. -/
def configureFrame (value : Json) : Json :=
  .object [("method", .string "workspace/didChangeConfiguration"),
    ("params", .object [("settings", value)])]

theorem notifies_configureFrame (value : Json) :
    Notifies (configureFrame value) (.configured value) := by
  refine ⟨?_, "workspace/didChangeConfiguration", rfl, rfl⟩
  rintro id ⟨hid, _⟩
  cases hid

/-- The second check of the one document has ended, its event is waiting, and another document is
    open. -/
def overtakenBeside : List Happening :=
  overtaken ++ [.received (noticeItem "textDocument/didOpen" (.object [("textDocument",
    .object [("text", .string "say 3"), ("uri", .string "B"), ("version", .whole 7)])]))]

/-- Both documents are checked again though the settings are refused, and the event that was waiting
    counts no more. -/
theorem rechecked_overtakenBeside :
    ((start plain).run overtakenBeside).server.Rechecked
      ((start plain).run
        (overtakenBeside ++ [.received (.message (configureFrame refusedSettings))])).server
      [⟨"B", 7, 4, "say 3", .standard⟩, ⟨"a", 2, 5, "say 2", .standard⟩] ∧
    ((start plain).run overtakenBeside).server.flights.arrived = [.published "a" 2 2 []] ∧
    ((start plain).run (overtakenBeside ++
      [.received (.message (configureFrame refusedSettings))])).server.flights.isCurrent "a" 2 =
        false := by
  have hbase : Server.ofBase .empty = .ok plain := rfl
  obtain ⟨⟨runs, hruns, _⟩, _, hstale⟩ := rechecked_once hbase overtakenBeside rfl rfl
    (configureFrame refusedSettings) refusedSettings (notifies_configureFrame _)
  have hlisted : runs = [⟨"B", 7, 4, "say 3", .standard⟩, ⟨"a", 2, 5, "say 2", .standard⟩] :=
    hruns.scheduled.symm
  refine ⟨hlisted ▸ hruns, rfl, ?_⟩
  have hr : (start plain).Scheduled overtakenBeside ⟨"a", 2, 2, "say 2", .standard⟩ :=
    ⟨overtaken.take 5, ⟨overtaken.drop 5 ++ _, rfl⟩, List.mem_singleton.mpr rfl⟩
  exact hstale _ (.ok .clean) hr []

end Session

end DiagnosticBridge
