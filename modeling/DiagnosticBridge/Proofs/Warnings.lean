import DiagnosticBridge.Proofs.Reconfiguration
import DiagnosticBridge.Proofs.Rejection

namespace DiagnosticBridge

/-!
# One warning for each configuration

That the compiler cannot be used would be found out with every document again, so that the user is
told only once until the editor changes the configuration.  A change of the configuration makes the
server forget that the user was told, and in the same step gives every open document a new run.
Hence an event that is left over from before can neither be told nor stand in the way of a warning.

* `outages` — what some events say about compilers that cannot be used;
* `Server.Warns`, `Server.Warns.trans` — the first of some outages is told, unless the user had been
  told before;
* `Session.warns_reaction`, `Session.warns_run` — this is what a server does as long as the
  configuration is not changed;
* `Session.exists_since_of_noticing` — what is noticed is about a run of the configuration;
* `Session.WarnsOnce`, `Session.warned_once` — so there is one warning at most for each
  configuration, at the first outage, and about a run of that configuration.
-/

/-- What an event says about a compiler that cannot be used. -/
def Event.outage? : Event → Option String
  | .compilerUnavailable _ _ message => some message
  | _ => none

/-- What some events say about compilers that cannot be used, in order. -/
def outages (events : List Event) : List String := events.filterMap Event.outage?

/-- Outages come in the order of their events. -/
theorem outages_append (a b : List Event) : outages (a ++ b) = outages a ++ outages b :=
  List.filterMap_append

open Server (messages)
open Incoming (Notifies)
open Session (shown shown_append Reacts reaction noticing)

namespace Server

/-- On the way from `s` to `s'`, while there are these outages and these messages are sent, the user
    is told of the first outage, unless the server had told the user before. -/
structure Warns (s s' : Server) (sent : List Outgoing) (outages : List String) : Prop where
  /-- The server knows whether it has told the user. -/
  warned : s'.warned = true ↔ s.warned = true ∨ outages ≠ []
  /-- All that is shown is the first outage. -/
  shown : shown sent =
    if s.warned then [] else (outages.take 1).map fun message => (MessageKind.warning, message)

namespace Warns

variable {s s' s'' : Server} {sent more : List Outgoing} {before later : List String}

/-- Nothing is shown without an outage. -/
theorem quiet (hwarned : s'.warned = s.warned) (hshown : Session.shown sent = []) :
    s.Warns s' sent [] := by
  refine ⟨?_, ?_⟩
  · rw [hwarned]
    simp
  · rw [hshown]
    simp

theorem refl (s : Server) : s.Warns s [] [] := quiet rfl rfl

/-- One part of the way after the other. -/
theorem trans (h : s.Warns s' sent before) (h' : s'.Warns s'' more later) :
    s.Warns s'' (sent ++ more) (before ++ later) := by
  constructor
  · rw [h'.warned, h.warned, or_assoc]
    rw [ne_eq (before ++ later), List.append_eq_nil_iff, not_and_or]
  · rw [shown_append, h.shown, h'.shown]
    cases hs : s.warned with
    | true =>
      have hs' : s'.warned = true := h.warned.mpr (Or.inl hs)
      simp [hs']
    | false =>
      cases before with
      | nil =>
        have hs' : s'.warned = false := by
          rw [← Bool.not_eq_true, h.warned, hs]
          simp
        simp [hs']
      | cons message before =>
        -- The first outage came before, and the server knows it.
        have hs' : s'.warned = true := h.warned.mpr (Or.inr (List.cons_ne_nil _ _))
        simp [hs']

end Warns

variable {s : Server} {frame : Json}

/-- Answering a request does not make the server forget. -/
theorem answer_warned (s : Server) (id : Json) (method : String) (params : Json) :
    (s.answer id method params).1.warned = s.warned := by
  obtain ⟨flights, settings, trace, lifecycle, heq⟩ := s.answer_eq id method params
  rw [heq]

/-- No notice but a change of the configuration is about warnings. -/
theorem warns_notice {n : Notice} (h : ∀ value, n ≠ .configured value) :
    s.Warns (s.notice n).1 (messages (s.notice n).2) [] := by
  cases n with
  | opened d => exact .quiet rfl rfl
  | changed c =>
    simp only [notice]
    split
    · exact .quiet rfl rfl
    · split
      · exact .quiet rfl rfl
      · exact .quiet rfl rfl
  | closed uri => exact .quiet rfl rfl
  | configured value => exact absurd rfl (h value)
  | traced value =>
    simp only [notice]
    split
    · exact .quiet rfl rfl
    · exact .quiet rfl rfl

theorem warns_receiveValue
    (h : ¬ Happening.Reconfigures s.lifecycle (.received (.message frame))) :
    s.Warns (s.receiveValue frame).server (s.receiveValue frame).sent [] := by
  have hr := s.receives frame
  generalize s.receiveValue frame = reaction' at hr
  cases hr with
  | answers => exact .quiet (s.answer_warned _ _ _) rfl
  | refuses => exact .quiet rfl rfl
  | skips => exact .quiet rfl rfl
  | exits => exact .quiet rfl rfl
  | @notices method no_id names not_exit =>
    unfold notify
    split
    · next running =>
      cases hn : Notice.ofMethod? method (Incoming.paramsOf frame) with
      | none => exact .quiet rfl rfl
      | some n =>
        apply warns_notice
        rintro value rfl
        exact h ⟨running, frame, value, rfl, no_id, method, names, hn⟩
    · exact .quiet rfl rfl
  | ignores => exact .quiet rfl rfl

/-- The user is told of an outage that is reported, unless the user has been told before. -/
theorem warns_report (s : Server) (e : Event) :
    s.Warns (s.report e).1 (messages (s.report e).2) (outages [e]) := by
  cases e with
  | published uri generation version batch =>
    apply Warns.quiet
    · rfl
    · simp only [report]
      split <;> rfl
  | compilerUnavailable uri generation message =>
    -- This is the only event that the user is told of, and only the first time.
    cases hs : s.warned with
    | true =>
      constructor <;> simp [report, hs, outages, Event.outage?, messages, Session.shown]
    | false =>
      constructor <;>
        simp [report, hs, outages, Event.outage?, messages, Session.shown, Session.shown?]
  | failed uri generation message =>
    apply Warns.quiet
    · rfl
    · simp only [report]
      split <;> rfl

end Server

namespace Session

variable {s : Server} {what : Happening} {x : Session} {base : Layer} {server : Server}
  {earlier during past : List Happening} {e : Event} {r : Run} {o : Outcome}

/-! ### What one thing makes the server show -/

/-- The events that are noticed when something happens are at most one. -/
theorem noticing_length_le (s : Server) (what : Happening) : (noticing s what).length ≤ 1 := by
  cases what with
  | handled => exact Option.length_toList_le
  | received | began | completed => exact Nat.zero_le 1

/-- An event that is noticed is the first one that waits, and its run is current. -/
theorem exists_of_mem_noticing (h : e ∈ noticing s what) :
    what = .handled ∧ (∃ later, s.flights.arrived = e :: later) ∧
      s.flights.current.get? e.uri = some e.generation := by
  cases what with
  | handled =>
    rw [noticing, Option.mem_toList, Option.filter_eq_some_iff, List.head?_eq_some_iff,
      Flights.isCurrent_iff] at h
    exact ⟨rfl, h.1, h.2⟩
  | received | began | completed => exact absurd h List.not_mem_nil

/-- **What the user is told when something happens.** Unless the configuration is changed, it is the
    outage that is noticed, provided that the user has not been told before. -/
theorem warns_reaction (h : ¬ what.Reconfigures s.lifecycle) :
    s.Warns (reaction s what).server (reaction s what).sent (outages (noticing s what)) := by
  cases what with
  | received item =>
    cases item with
    | message frame => exact Server.warns_receiveValue h
    | malformed | finished | faulty => exact .quiet rfl rfl
  | began | completed => exact .quiet rfl rfl
  | handled =>
    cases hwaits : s.flights.arrived with
    | nil =>
      have hnone : noticing s .handled = [] := by simp [noticing, hwaits]
      rw [reaction_handled_of_nil hwaits, hnone]
      exact .refl s
    | cons e later =>
      rw [reaction_handled_of_cons hwaits]
      by_cases hcur : s.flights.current.get? e.uri = some e.generation
      · rw [if_pos ((Flights.isCurrent_iff _ _ _).mpr hcur), noticing_of_current hwaits hcur]
        have hreport := ({ s with flights := s.flights.take e later } : Server).warns_report e
        exact ⟨hreport.warned, hreport.shown⟩
      · rw [if_neg (mt (Flights.isCurrent_iff _ _ _).mp hcur), noticing_of_stale hwaits hcur]
        exact .quiet rfl rfl

/-! ### The time of one configuration -/

/-- The configuration of a session is new: the session has just begun, or the editor has just
    changed the configuration while it was running. -/
inductive Configured (x : Session) : List Happening → Prop where
  /-- The session begins. -/
  | begins : Configured x []
  /-- The configuration is changed. -/
  | changed {past : List Happening} {what : Happening} (goes_on : (x.run past).ending = none)
      (reconfigures : what.Reconfigures (x.run past).server.lifecycle) :
      Configured x (past ++ [what])

/-- The configuration is not changed while these things happen. -/
def Unchanged (x : Session) (during : List Happening) : Prop :=
  ∀ past what, past ++ [what] <+: during → (x.run past).ending = none →
    ¬ what.Reconfigures (x.run past).server.lifecycle

/-- A shorter time is a time without change, too. -/
theorem Unchanged.of_prefix (h : x.Unchanged during) (hpre : past <+: during) :
    x.Unchanged past :=
  fun earlier what hearlier => h earlier what (hearlier.trans hpre)

/-- Nobody has been told of an outage when the configuration is new. -/
theorem Configured.unwarned (h : Server.ofBase base = .ok server)
    (hnew : (start server).Configured earlier) :
    ((start server).run earlier).server.warned = false := by
  cases hnew with
  | begins =>
    rw [Server.ofBase, Layer.resolve_eq] at h
    cases h
    rfl
  | changed goes_on reconfigures =>
    obtain ⟨settings, trace, heq⟩ := exists_reconfigured reconfigures
    rw [run_concat_of_not_ended goes_on, heq]

/-- **What the user is told over time.** As long as the configuration is not changed, it is the
    first outage that is noticed, provided that the user has not been told before. -/
theorem warns_run (h : x.Unchanged during) :
    ∃ told, (x.run during).sent = x.sent ++ told ∧
      x.server.Warns (x.run during).server told (outages (x.noticed during)) := by
  -- By the last thing that happens: nothing of a session that has ended counts.
  induction during using List.reverseRecOn with
  | nil => exact ⟨[], (List.append_nil _).symm, .refl _⟩
  | append_singleton during what ih =>
    obtain ⟨told, hsent, hwarns⟩ := ih (h.of_prefix (List.prefix_append _ _))
    rw [noticed_concat, outages_append, noticedNow]
    cases hend : (x.run during).ending with
    | some ending =>
      refine ⟨told, ?_, ?_⟩
      · rw [run_concat_of_ended hend, hsent]
      · rw [run_concat_of_ended hend]
        show x.server.Warns _ told (outages (x.noticed during) ++ [])
        rw [List.append_nil]
        exact hwarns
    | none =>
      have hstep := warns_reaction (h during what (List.prefix_refl _) hend)
      refine ⟨told ++ (reaction (x.run during).server what).sent, ?_, ?_⟩
      · rw [run_concat_of_not_ended hend, hsent, List.append_assoc]
      · rw [run_concat_of_not_ended hend]
        exact hwarns.trans hstep

/-- **The moment of the warning.** Where the user had not been told at first and the configuration
    is not changed, an outage is shown when it is noticed, and only if there was none before. -/
theorem shown_at_first (hunwarned : x.server.warned = false) (h : x.Unchanged (past ++ [what]))
    (hend : (x.run past).ending = none) :
    shown (reaction (x.run past).server what).sent =
      if outages (x.noticed past) = [] then
        (outages (noticing (x.run past).server what)).map fun message =>
          (MessageKind.warning, message)
      else [] := by
  obtain ⟨_, _, hpast⟩ := warns_run (h.of_prefix (List.prefix_append past [what]))
  have hnow := (warns_reaction (h past what (List.prefix_refl _) hend)).shown
  -- One event is noticed at a time, so that all of them are the first one.
  have hall : (outages (noticing (x.run past).server what)).take 1 =
      outages (noticing (x.run past).server what) :=
    List.take_of_length_le (Nat.le_trans (List.length_filterMap_le _ _) (noticing_length_le _ _))
  rw [hnow, hall]
  -- The server has told the user exactly if there was an outage before.
  have hwarned := hpast.warned
  rw [hunwarned] at hwarned
  by_cases hnone : outages (x.noticed past) = []
  · rw [if_pos hnone, if_neg (by simp [hwarned, hnone])]
  · rw [if_neg hnone, if_pos (hwarned.mpr (Or.inr hnone))]

/-- Handling the event of a run that is not current sends nothing and leaves open whether a warning
    is still to come. -/
theorem dropped_of_stale {later : List Event}
    (stale : s.flights.current.get? r.uri ≠ some r.generation)
    (waits : s.flights.arrived = r.event o :: later) :
    (reaction s .handled).sent = [] ∧ (reaction s .handled).server.warned = s.warned := by
  have hnot : ¬ s.flights.isCurrent (r.event o).uri (r.event o).generation = true := by
    rw [Flights.isCurrent_iff, Run.event_uri, Run.event_generation]
    exact stale
  rw [reaction_handled_of_cons waits, if_neg hnot]
  exact ⟨rfl, rfl⟩

/-! ### Runs of one configuration -/

/-- A run that has been scheduled since the configuration became new, and not before. -/
def ScheduledSince (x : Session) (earlier past : List Happening) (r : Run) : Prop :=
  x.Scheduled (earlier ++ past) r ∧
    ∀ before what, earlier = before ++ [what] → ¬ x.Scheduled before r

/-- A run from before the configuration became new is not current any more. -/
theorem stale_of_before (h : Server.ofBase base = .ok server)
    (hnew : (start server).Configured earlier) {before : List Happening}
    (heq : earlier = before ++ [what]) (hr : (start server).Scheduled before r)
    (past : List Happening) :
    ((start server).run (earlier ++ past)).server.flights.current.get? r.uri ≠
      some r.generation := by
  cases hnew with
  | begins => exact absurd heq.symm (List.concat_ne_nil _ _)
  | changed goes_on reconfigures =>
    obtain ⟨rfl, hwhat⟩ := List.append_inj' heq rfl
    rw [List.append_assoc]
    exact stale_of_reconfigured h goes_on reconfigures hr past

/-- Whatever is noticed is about a run of the configuration, under the settings in force. -/
theorem exists_since_of_noticing (h : Server.ofBase base = .ok server)
    (hnew : (start server).Configured earlier)
    (he : e ∈ noticing ((start server).run (earlier ++ past)).server what) :
    ∃ r o, (start server).ScheduledSince earlier past r ∧
      (start server).Completed (earlier ++ past) r o ∧ e = r.event o ∧
      ((start server).run (earlier ++ past)).server.UpToDate r := by
  have hfresh := fresh_run h (earlier ++ past)
  have hpast := remembered_run h (earlier ++ past)
  obtain ⟨_, ⟨later, hwaits⟩, hcur⟩ := exists_of_mem_noticing he
  obtain ⟨r, o, hr, rfl⟩ := hfresh.tracked.arrived e (hwaits ▸ List.mem_cons_self)
  rw [Run.event_uri, Run.event_generation] at hcur
  refine ⟨r, o, ⟨hpast.of_completed hr, ?_⟩, hr, rfl, hfresh.upToDate_of_current hr hcur⟩
  intro before what heq hbefore
  exact stale_of_before h hnew heq hbefore past hcur

/-- How the user is told that the compiler cannot be used, from where a session has come to a new
    configuration and while that configuration is in force. -/
structure WarnsOnce (x : Session) (earlier during : List Happening) : Prop where
  /-- One warning at most is shown, and nothing else: it is the first outage that is noticed. -/
  once : ∃ told, (x.run (earlier ++ during)).sent = (x.run earlier).sent ++ told ∧
    (shown told).length ≤ 1 ∧
    shown told = ((outages ((x.run earlier).noticed during)).take 1).map fun message =>
      (MessageKind.warning, message)
  /-- It is shown when that event is handled, and not at any other time. -/
  at_first : ∀ past what, past ++ [what] <+: during → (x.run (earlier ++ past)).ending = none →
    shown (reaction (x.run (earlier ++ past)).server what).sent =
      if outages ((x.run earlier).noticed past) = [] then
        (outages (noticing (x.run (earlier ++ past)).server what)).map fun message =>
          (MessageKind.warning, message)
      else []
  /-- Whatever is noticed is about a run that was scheduled since the configuration became new, and
      is under the settings in force. -/
  about : ∀ past what e, e ∈ noticing (x.run (earlier ++ past)).server what →
    ∃ r o, x.ScheduledSince earlier past r ∧ x.Completed (earlier ++ past) r o ∧ e = r.event o ∧
      (x.run (earlier ++ past)).server.UpToDate r
  /-- When the event of an earlier run is handled, nothing is sent, and whether a warning is still
      to come stays as it was. -/
  left_over : ∀ before what, earlier = before ++ [what] → ∀ r o, x.Scheduled before r →
    ∀ past later, (x.run (earlier ++ past)).server.flights.arrived = r.event o :: later →
      (reaction (x.run (earlier ++ past)).server .handled).sent = [] ∧
      (reaction (x.run (earlier ++ past)).server .handled).server.warned =
        (x.run (earlier ++ past)).server.warned

/-- **One warning for each configuration.** From the start of a session, or from where the editor
    changes the configuration of a running one, until the configuration is changed the next time,
    the user is told once at most that the compiler cannot be used.  It is told when the first event
    of this kind is noticed, and about a run of this configuration.  Events that are left over from
    before make no difference. -/
theorem warned_once (h : Server.ofBase base = .ok server)
    (hnew : (start server).Configured earlier)
    (hsame : ((start server).run earlier).Unchanged during) :
    (start server).WarnsOnce earlier during := by
  have hunwarned := hnew.unwarned h
  constructor
  · obtain ⟨told, hsent, hwarns⟩ := warns_run hsame
    have hshown := hwarns.shown
    rw [hunwarned, if_neg Bool.false_ne_true] at hshown
    refine ⟨told, ?_, ?_, hshown⟩
    · rw [run_append, hsent]
    · rw [hshown, List.length_map]
      exact List.length_take_le 1 _
  · intro past what hpre hend
    rw [run_append] at hend ⊢
    exact shown_at_first hunwarned (hsame.of_prefix hpre) hend
  · intro past what e he
    exact exists_since_of_noticing h hnew he
  · intro before what heq r o hr past later hwaits
    exact dropped_of_stale (stale_of_before h hnew heq hr past) hwaits

/-- There is no such compiler. -/
def noCompiler : CheckError := .notFound "perl6"

/-- Two documents are open, and the event of the first check, which found no compiler, is waiting
    when the editor changes the configuration to settings that are refused. -/
def outageBefore : List Happening :=
  overtaken.take 2 ++
    [.received (noticeItem "textDocument/didOpen" (.object [("textDocument",
      .object [("text", .string "say 3"), ("uri", .string "b"), ("version", .whole 7)])])),
    .began 1,
    .completed 1 (.error noCompiler),
    .received (.message (configureFrame refusedSettings))]

/-- That event is handled, and then those of the new checks of both documents, which find no
    compiler either. -/
def outagesAfter : List Happening :=
  [.handled, .began 3, .completed 3 (.error noCompiler), .began 4, .completed 4 (.error noCompiler),
    .handled, .handled]

/-- The event from before is dropped, the next one is told, and the last one is not. -/
theorem warned_once_leftOver :
    ((start plain).run outageBefore).server.flights.arrived =
      [.compilerUnavailable "a" 1 noCompiler.message] ∧
    outages (((start plain).run outageBefore).noticed outagesAfter) =
      [noCompiler.message, noCompiler.message] ∧
    (start plain).WarnsOnce outageBefore outagesAfter := by
  have hbase : Server.ofBase .empty = .ok plain := rfl
  have hnew : (start plain).Configured outageBefore :=
    @Configured.changed (start plain) (outageBefore.take 5)
      (.received (.message (configureFrame refusedSettings))) rfl
        ⟨rfl, _, _, rfl, notifies_configureFrame _⟩
  have hsame : ((start plain).run outageBefore).Unchanged outagesAfter := by
    intro past what hpre _ ⟨_, frame, _, hwhat, _⟩
    have hmem : Happening.received (.message frame) ∈ outagesAfter :=
      hpre.subset (hwhat ▸ List.mem_append_right past List.mem_cons_self)
    simp [outagesAfter] at hmem
  exact ⟨rfl, rfl, warned_once hbase hnew hsame⟩

end Session

end DiagnosticBridge
