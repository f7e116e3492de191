import DiagnosticBridge.Conversation
import DiagnosticBridge.Proofs.Lifecycle
import DiagnosticBridge.Proofs.Publication
import Mathlib.Data.List.Induction

namespace DiagnosticBridge.Conversation

/-!
# How conversations end

A conversation is a session together with the channel to the editor, which may stop taking bytes at
any point.  Its lifecycle says what has happened so far: a session that is open was opened at some
earlier point, and one that is shut down was shut down at some later point than that.  So the exit
code, which depends on the lifecycle at the end only, tells an orderly end from all others.

* `Ends`, `happen_ending_iff` — what ends a conversation, and with which exit code;
* `Opened`, `ShutDown`, `Exited` — what the editor has asked for so far, in this order;
* `lifecycle_after_ne_awaiting_iff`, `lifecycle_after_eq_shuttingDown_iff` — the lifecycle tells how
  far the editor has got;
* `exitCode_after_eq_zero_iff` — and so does the exit code;
* `lawful_after` — all of this for every conversation;
* `answered_of_unlimited` — a channel without a limit takes every answer.
-/

open Session (reaction moves)

variable {x : Conversation} {past later : List Happening} {what : Happening} {e : SessionEnd}
  {base : Layer} {server : Server} {room : Frame.Room}

/-! ### Sending -/

/-- A single message is written whole or not at all. -/
theorem send_singleton (room : Frame.Room) (message : Outgoing) :
    (send room [message]).1 = if (send room [message]).2.2.2 then [message] else [] := by
  unfold send
  split <;> rfl

/-- A channel without a limit takes all messages and stays without one. -/
theorem send_unlimited (messages : List Outgoing) :
    (send none messages).2.2.1 = none ∧ (send none messages).2.2.2 = true := by
  induction messages with
  | nil => exact ⟨rfl, rfl⟩
  | cons message messages ih => exact ih

/-! ### One thing happens -/

/-- An ended conversation stays as it is. -/
theorem happen_of_ended (h : x.ending = some e) (what : Happening) :
    x.happen what = (x, .empty) := by
  simp [happen, h]

/-- Whether the channel takes all that a server sends when something happens. -/
def Delivers (x : Conversation) (what : Happening) : Prop :=
  (send x.room (reaction x.server what).sent).2.2.2 = true

/-- If all is delivered, a conversation ends where its server says so. -/
theorem happen_ending_of_delivers (h : x.ending = none) (hall : x.Delivers what) :
    (x.happen what).1.ending = (reaction x.server what).ending := by
  rw [Delivers] at hall
  simp [happen, h, hall]

/-- If something cannot be delivered, it ends for that reason. -/
theorem happen_ending_of_not_delivers (h : x.ending = none) (hall : ¬ x.Delivers what) :
    (x.happen what).1.ending = some (.unwritable (.channel .closed)) := by
  rw [Delivers] at hall
  simp [happen, h, hall]

theorem happen_lifecycle (h : x.ending = none) (what : Happening) :
    (x.happen what).1.server.lifecycle = (reaction x.server what).server.lifecycle := by
  simp [happen, h]

theorem happen_documents (h : x.ending = none) (what : Happening) :
    (x.happen what).1.server.documents = (reaction x.server what).server.documents := by
  simp [happen, h]

/-- At the end all runs are aborted. -/
theorem happen_flights (h : x.ending = none) (what : Happening) :
    (x.happen what).1.server.flights = (reaction x.server what).server.flights ∨
      (x.happen what).1.server.flights = (reaction x.server what).server.flights.cancelAll := by
  simp only [happen, h, Option.isSome_none, Bool.false_eq_true, if_false]
  exact (ite_eq_or_eq _ _ _).symm

/-- What gets through are the first messages that the server sends, as far as there is room. -/
theorem happen_messages (h : x.ending = none) (what : Happening) :
    (x.happen what).2.messages = (send x.room (reaction x.server what).sent).1 := by
  simp [happen, h]

/-- What ends a conversation when it happens, how, and with which exit code. -/
inductive Ends (x : Conversation) : Happening → SessionEnd → Nat → Prop where
  /-- The editor exits after it has asked to shut down. -/
  | orderly {what : Happening} (exits : what.Exits)
      (down : x.server.lifecycle = .shuttingDown) : Ends x what (.exited true) 0
  /-- The editor exits at any other time. -/
  | early {what : Happening} (exits : what.Exits)
      (not_down : x.server.lifecycle ≠ .shuttingDown) : Ends x what (.exited false) 1
  /-- The editor closes the stream. -/
  | finishes : Ends x (.received .finished) .disconnected 1
  /-- The stream from the editor is faulty. -/
  | fails (fault : Frame.Fault) : Ends x (.received (.faulty fault)) (.unreadable fault) 1
  /-- The stream to the editor does not take all that is sent. -/
  | chokes {what : Happening} (undelivered : ¬ x.Delivers what) :
      Ends x what (.unwritable (.channel .closed)) 1

/-- Nothing is to be delivered by what closes a session. -/
theorem delivers_of_closes (h : Session.Closes x.server what e) : x.Delivers what := by
  rw [Delivers, Session.sent_of_closes h]
  rfl

/-- **Ends.** Just these things end a conversation. -/
theorem happen_ending_iff (h : x.ending = none) {code : Nat} :
    ((x.happen what).1.ending = some e ∧ e.exitCode = code) ↔ x.Ends what e code := by
  -- What the server closes is sent, since nothing has to be sent then.
  have hcloses : ∀ {e}, Session.Closes x.server what e → (x.happen what).1.ending = some e := by
    intro e hc
    rw [happen_ending_of_delivers h (delivers_of_closes hc)]
    exact Session.ending_reaction_iff.mpr hc
  constructor
  · rintro ⟨hend, rfl⟩
    by_cases hall : x.Delivers what
    · rw [happen_ending_of_delivers h hall, Session.ending_reaction_iff] at hend
      cases hend with
      | exits exits =>
        by_cases hdown : x.server.lifecycle = .shuttingDown
        · rw [decide_eq_true hdown]
          exact .orderly exits hdown
        · rw [decide_eq_false hdown]
          exact .early exits hdown
      | finishes => exact .finishes
      | fails fault => exact .fails fault
    · rw [happen_ending_of_not_delivers h hall] at hend
      rw [← Option.some.inj hend]
      exact .chokes hall
  · intro hends
    cases hends with
    | orderly exits down => exact ⟨decide_eq_true down ▸ hcloses (.exits exits), rfl⟩
    | early exits not_down => exact ⟨decide_eq_false not_down ▸ hcloses (.exits exits), rfl⟩
    | finishes => exact ⟨hcloses .finishes, rfl⟩
    | fails fault => exact ⟨hcloses (.fails fault), rfl⟩
    | chokes undelivered => exact ⟨happen_ending_of_not_delivers h undelivered, rfl⟩

/-- **Answers.** A request is answered as the lifecycle says that it arrives in, unless the channel
    does not take the answer. -/
theorem answers_happen (h : x.ending = none) {id params : Json} {method : String}
    (hrequest : what.Requests id method params) :
    ∃ answer, x.server.lifecycle.Answers method params answer ∧
      (x.Delivers what → (x.happen what).2.messages = [.response ⟨id, answer⟩]) ∧
      (¬ x.Delivers what → (x.happen what).2.messages = []) := by
  obtain ⟨answer, hanswer, htable⟩ := x.server.answers id method params
  have hsent : (reaction x.server what).sent = [.response ⟨id, answer⟩] := by
    rw [Session.sent_of_requests hrequest, hanswer]
  refine ⟨answer, htable, fun hall => ?_, fun hall => ?_⟩
  · rw [Delivers, hsent] at hall
    rw [happen_messages h, hsent, send_singleton, if_pos hall]
  · rw [Delivers, hsent] at hall
    rw [happen_messages h, hsent, send_singleton, if_neg hall]

/-- Everything is delivered over a channel without a limit. -/
theorem delivers_of_unlimited (h : x.room = none) (what : Happening) : x.Delivers what := by
  rw [Delivers, h]
  exact (send_unlimited _).2

/-- A channel without a limit stays without one. -/
theorem happen_room_of_unlimited (h : x.room = none) (what : Happening) :
    (x.happen what).1.room = none := by
  cases hend : x.ending with
  | some e => rwa [happen_of_ended hend]
  | none =>
    simp only [happen, hend, h, Option.isSome_none, Bool.false_eq_true, if_false]
    exact (send_unlimited _).1

/-! ### Whole conversations -/

/-- The conversation after all that has happened. -/
def after (x : Conversation) (past : List Happening) : Conversation := (x.happenAll past).1

theorem after_append (x : Conversation) (past later : List Happening) :
    x.after (past ++ later) = (x.after past).after later := by
  induction past generalizing x with
  | nil => rfl
  | cons what past ih => exact ih (x.happen what).1

theorem after_concat (x : Conversation) (past : List Happening) (what : Happening) :
    x.after (past ++ [what]) = ((x.after past).happen what).1 :=
  x.after_append past [what]

/-- Nothing happens after the end. -/
theorem after_concat_of_ended (h : (x.after past).ending = some e) (what : Happening) :
    x.after (past ++ [what]) = x.after past := by
  rw [after_concat, happen_of_ended h]

/-- A conversation holds no runs, events and documents before it is opened. -/
theorem blank_after (h : Server.ofBase base = .ok server) (room : Frame.Room)
    (past : List Happening) : Session.Blank ((start server room).after past).server := by
  induction past using List.reverseRecOn with
  | nil => exact fun _ => Server.empty_of_base h
  | append_singleton past what ih =>
    cases hend : ((start server room).after past).ending with
    | some e =>
      rw [after_concat_of_ended hend]
      exact ih
    | none =>
      have hblank := Session.blank_reaction ih what
      intro awaiting
      rw [after_concat, happen_lifecycle hend] at awaiting
      obtain ⟨hflights, hdocuments⟩ := hblank awaiting
      rw [after_concat]
      refine ⟨?_, (happen_documents hend what).trans hdocuments⟩
      rcases happen_flights hend what with hsame | hcancelled
      · rw [hsame, hflights]
      · rw [hcancelled, hflights]
        rfl

/-- Something of this kind has happened, after what had happened by then and before the end. -/
def Happened (x : Conversation) (kind : List Happening → Happening → Prop)
    (past : List Happening) : Prop :=
  ∃ earlier what, earlier ++ [what] <+: past ∧ (x.after earlier).ending = none ∧ kind earlier what

variable {kind : List Happening → Happening → Prop}

theorem not_happened_nil : ¬ x.Happened kind [] := by
  rintro ⟨earlier, what, hpre, _⟩
  simp at hpre

/-- Something has happened if it had before, or if it happens now and the end has not come. -/
theorem happened_concat :
    x.Happened kind (past ++ [what]) ↔
      x.Happened kind past ∨ ((x.after past).ending = none ∧ kind past what) := by
  constructor
  · rintro ⟨earlier, w, hpre, hkind⟩
    rcases List.prefix_concat_iff.mp hpre with heq | hpre
    · obtain ⟨rfl, hw⟩ := List.append_inj' heq rfl
      exact Or.inr (List.singleton_inj.mp hw ▸ hkind)
    · exact Or.inl ⟨earlier, w, hpre, hkind⟩
  · rintro (⟨earlier, w, hpre, hkind⟩ | hkind)
    · exact ⟨earlier, w, hpre.trans (List.prefix_append _ _), hkind⟩
    · exact ⟨past, what, List.prefix_refl _, hkind⟩

/-- The editor has opened the session: the request arrived while it was awaited. -/
def Opened (x : Conversation) : List Happening → Prop :=
  x.Happened fun earlier what =>
    (x.after earlier).server.lifecycle = .awaiting ∧ what.Initializes

/-- The editor has opened the session and shut it down later: the request to do so arrived while
    it was open. -/
def ShutDown (x : Conversation) : List Happening → Prop :=
  x.Happened fun earlier what =>
    x.Opened earlier ∧ (x.after earlier).server.lifecycle = .running ∧ what.ShutsDown

/-- The editor has opened the session, shut it down later, and said still later that it exits. -/
def Exited (x : Conversation) : List Happening → Prop :=
  x.Happened fun earlier what => x.ShutDown earlier ∧ what.Exits

/-- The lifecycle moves as listed. -/
theorem moves_after (h : (x.after past).ending = none) (what : Happening) :
    (x.after past).server.lifecycle.Moves what (x.after (past ++ [what])).server.lifecycle := by
  rw [after_concat, happen_lifecycle h]
  exact moves _ what

/-- What has been opened is awaited no longer, and conversely. -/
theorem lifecycle_after_ne_awaiting_iff (h : x.server.lifecycle = .awaiting)
    (past : List Happening) :
    (x.after past).server.lifecycle ≠ .awaiting ↔ x.Opened past := by
  induction past using List.reverseRecOn with
  | nil => exact iff_of_false (not_not.mpr h) not_happened_nil
  | append_singleton past what ih =>
    rw [Opened, happened_concat, ← Opened, ← ih]
    cases hend : (x.after past).ending with
    | some e => simp [after_concat_of_ended hend]
    | none =>
      have hmoves := moves_after hend what
      generalize (x.after past).server.lifecycle = l at hmoves
      generalize (x.after (past ++ [what])).server.lifecycle = l' at hmoves
      cases hmoves with
      | opens initializes => simp [initializes]
      | awaits not_initializes => simp [not_initializes]
      | shutsDown => simp
      | runs => simp
      | stays => simp

/-- What has been shut down is so for good, and conversely. -/
theorem lifecycle_after_eq_shuttingDown_iff (h : x.server.lifecycle = .awaiting)
    (past : List Happening) :
    (x.after past).server.lifecycle = .shuttingDown ↔ x.ShutDown past := by
  induction past using List.reverseRecOn with
  | nil => exact iff_of_false (h ▸ Lifecycle.noConfusion) not_happened_nil
  | append_singleton past what ih =>
    -- That the session has been opened by then is seen from its lifecycle.
    rw [ShutDown, happened_concat, ← ShutDown, ← ih, ← lifecycle_after_ne_awaiting_iff h]
    cases hend : (x.after past).ending with
    | some e => simp [after_concat_of_ended hend]
    | none =>
      have hmoves := moves_after hend what
      generalize (x.after past).server.lifecycle = l at hmoves
      generalize (x.after (past ++ [what])).server.lifecycle = l' at hmoves
      cases hmoves with
      | opens => simp
      | awaits => simp
      | shutsDown shutsDown => simp [shutsDown]
      | runs not_shutsDown => simp [not_shutsDown]
      | stays => simp

/-- **The exit code tells an orderly end.** It is zero just if the editor has opened the session,
    has shut it down after that, and has said after that that it exits. -/
theorem exitCode_after_eq_zero_iff (hbegins : x.server.lifecycle = .awaiting)
    (hopen : x.ending = none) (past : List Happening) :
    (∃ e, (x.after past).ending = some e ∧ e.exitCode = 0) ↔ x.Exited past := by
  induction past using List.reverseRecOn with
  | nil =>
    refine iff_of_false ?_ not_happened_nil
    rintro ⟨e, hend, _⟩
    rw [show (x.after []).ending = none from hopen] at hend
    cases hend
  | append_singleton past what ih =>
    rw [Exited, happened_concat, ← Exited, ← ih]
    cases hend : (x.after past).ending with
    | some e => simp [after_concat_of_ended hend, hend]
    | none =>
      -- The end can only be this one, and what came before is told by the lifecycle.
      rw [after_concat, ← lifecycle_after_eq_shuttingDown_iff hbegins]
      constructor
      · rintro ⟨e, he⟩
        cases (happen_ending_iff hend).mp he with
        | orderly exits down => exact Or.inr ⟨rfl, down, exits⟩
      · rintro (⟨e, he, _⟩ | ⟨_, down, exits⟩)
        · cases he
        · exact ⟨_, (happen_ending_iff hend).mpr (.orderly exits down)⟩

/-- An ended conversation stays as it is, whatever happens later. -/
theorem after_append_of_ended (h : (x.after past).ending = some e) (later : List Happening) :
    x.after (past ++ later) = x.after past := by
  induction later using List.reverseRecOn with
  | nil => rw [List.append_nil]
  | append_singleton later what ih =>
    rw [← List.append_assoc, after_concat_of_ended (by rw [ih, h]), ih]

/-- What the lifecycle of a conversation says about it, and what becomes of it. -/
structure Lawful (x : Conversation) (past : List Happening) : Prop where
  /-- As long as it is awaited there are no runs, events and documents. -/
  blank : (x.after past).server.lifecycle = .awaiting →
    (x.after past).server.flights = .empty ∧ (x.after past).server.documents = .empty
  /-- It moves as listed. -/
  moves : (x.after past).ending = none → ∀ what,
    (x.after past).server.lifecycle.Moves what (x.after (past ++ [what])).server.lifecycle
  /-- It is ended by what is listed, with the exit codes listed, and by nothing else. -/
  ends : (x.after past).ending = none → ∀ what e code,
    ((x.after (past ++ [what])).ending = some e ∧ e.exitCode = code) ↔
      (x.after past).Ends what e code
  /-- Once it has ended it stays as it is. -/
  stays : ∀ e, (x.after past).ending = some e → ∀ later, x.after (past ++ later) = x.after past
  /-- A request is answered as listed, unless the channel does not take the answer. -/
  answers : (x.after past).ending = none → ∀ what id method params,
    what.Requests id method params → ∃ answer,
      (x.after past).server.lifecycle.Answers method params answer ∧
        ((x.after past).Delivers what →
          ((x.after past).happen what).2.messages = [.response ⟨id, answer⟩]) ∧
        (¬ (x.after past).Delivers what → ((x.after past).happen what).2.messages = [])
  /-- Its exit code is zero just if the editor has opened it, has shut it down after that, and has
      said after that that it exits. -/
  exitCode : (∃ e, (x.after past).ending = some e ∧ e.exitCode = 0) ↔ x.Exited past

/-- **Lifecycle and exit code.** Every conversation, over whatever channel to the editor, is lawful
    at every point. -/
theorem lawful_after (h : Server.ofBase base = .ok server) (room : Frame.Room)
    (past : List Happening) : (start server room).Lawful past where
  blank := blank_after h room past
  moves := moves_after
  ends hend what e code := by
    rw [after_concat]
    exact happen_ending_iff hend
  stays _ hend := after_append_of_ended hend
  answers hend _ _ _ _ hrequest := answers_happen hend hrequest
  exitCode := exitCode_after_eq_zero_iff (Server.awaiting_of_base h) rfl past

/-- It does so throughout a conversation. -/
theorem room_after_of_unlimited (h : x.room = none) (past : List Happening) :
    (x.after past).room = none := by
  induction past using List.reverseRecOn with
  | nil => exact h
  | append_singleton past what ih =>
    rw [after_concat]
    exact happen_room_of_unlimited ih what

/-- Over a channel without a limit every request is answered until the end. -/
theorem answered_of_unlimited {id params : Json} {method : String}
    (hend : ((start server none).after past).ending = none)
    (hrequest : what.Requests id method params) :
    ∃ answer, ((start server none).after past).server.lifecycle.Answers method params answer ∧
      (((start server none).after past).happen what).2.messages = [.response ⟨id, answer⟩] := by
  obtain ⟨answer, htable, hdelivered, _⟩ := answers_happen hend hrequest
  have hroom : ((start server none).after past).room = none := room_after_of_unlimited rfl past
  exact ⟨answer, htable, hdelivered (delivers_of_unlimited hroom what)⟩

/-- A request with this id and these parameters, as the reader gets it from the editor. -/
def requestItem (id : Int) (method : String) (params : Json) : Frame.Item :=
  .message (.object [("id", .whole id), ("method", .string method), ("params", params)])

/-- The editor opens the session at the second attempt, asks for something unknown, shuts down, and
    exits. -/
def orderly : List Happening :=
  [.received (requestItem 1 "initialize" (.bool true)),
    .received (requestItem 2 "initialize" .null),
    .received (requestItem 3 "exit" .null),
    .received (requestItem 4 "shutdown" .null),
    .received (Session.noticeItem "exit" .null)]

/-- The first attempt is refused, and so is the request to exit; the notification ends the session
    with exit code zero. -/
theorem lawful_orderly :
    Server.ofBase .empty = .ok Session.plain ∧
    ((start Session.plain none).happenAll orderly).2.messages =
      [.response (.refuse (.whole 1) .invalidParams
          "invalid type: boolean `true`, expected struct InitializeParams"),
        .response (.ok (.whole 2) serverDescription),
        .response (.refuse (.whole 3) .unknownMethod "method not found: exit"),
        .response (.ok (.whole 4) .null)] ∧
    ((start Session.plain none).after orderly).ending = some (.exited true) ∧
    (start Session.plain none).Exited orderly := by
  have hbase : Server.ofBase .empty = .ok Session.plain := rfl
  have hlawful := lawful_after hbase none orderly
  exact ⟨hbase, rfl, rfl, hlawful.exitCode.mp ⟨_, rfl, rfl⟩⟩

end DiagnosticBridge.Conversation
