import DiagnosticBridge.Session

namespace DiagnosticBridge

/-!
# What a message asks for

A frame may be any JSON value.  What the server does with it depends on three of its members only:
an id that is not `null`, a method that is a string, and the outcome of a request.

* `HasId`, `Names`, `HasOutcome` — these members;
* `receiveValue_of_request` and its siblings — what the server does with each kind of frame;
* `Receives`, `receives` — there are no other kinds.
-/

namespace Incoming

variable {frame id : Json} {method : String}

/-- The frame has this id, which is not `null`. -/
def HasId (frame id : Json) : Prop := frame.member? "id" = some id ∧ id ≠ .null

/-- The frame names this method. -/
def Names (frame : Json) (method : String) : Prop :=
  frame.member? "method" = some (.string method)

/-- The frame has the result of a request, or an error. -/
def HasOutcome (frame : Json) : Prop :=
  (∃ value, frame.member? "result" = some value) ∨ ∃ value, frame.member? "error" = some value

/-- The frame has no id, or one that is `null`, and is a notice of this kind. -/
def Notifies (frame : Json) (n : Notice) : Prop :=
  (∀ id, ¬ HasId frame id) ∧
    ∃ method, Names frame method ∧ Notice.ofMethod? method (paramsOf frame) = some n

/-- The identifier of a message is its member of that name, unless that is `null`. -/
theorem idOf?_eq_some_iff : idOf? frame = some id ↔ HasId frame id := by
  rw [idOf?, Option.filter_eq_some_iff, HasId, Bool.not_eq_true', ← Bool.not_eq_true,
    Json.isNull_iff]

/-- Without such a member it has none. -/
theorem idOf?_eq_none_iff : idOf? frame = none ↔ ∀ id, ¬ HasId frame id := by
  simp only [Option.eq_none_iff_forall_ne_some, ne_eq, idOf?_eq_some_iff]

/-- The method of a message is the string that names it. -/
theorem methodOf?_eq_some_iff : methodOf? frame = some method ↔ Names frame method := by
  rw [methodOf?, Option.bind_eq_some_iff, Names]
  constructor
  · rintro ⟨value, hvalue, hstring⟩
    -- A method that is no string is none.
    cases value with
    | string text => rw [hvalue, Option.some.inj hstring]
    | _ => cases hstring
  · exact fun h => ⟨_, h, rfl⟩

/-- Without such a string it has none. -/
theorem methodOf?_eq_none_iff : methodOf? frame = none ↔ ∀ method, ¬ Names frame method := by
  simp only [Option.eq_none_iff_forall_ne_some, ne_eq, methodOf?_eq_some_iff]

/-- A response has a result or an error. -/
theorem hasOutcome_iff : hasOutcome frame = true ↔ HasOutcome frame := by
  rw [hasOutcome, Bool.or_eq_true, Option.isSome_iff_exists, Option.isSome_iff_exists, HasOutcome]

end Incoming

namespace Server

open Incoming

variable {frame id : Json} {method : String}

/-- A request is answered. -/
theorem receiveValue_of_request (s : Server) (hid : HasId frame id) (hmethod : Names frame method) :
    s.receiveValue frame = ⟨(s.answer id method (paramsOf frame)).1,
      [.response (s.answer id method (paramsOf frame)).2], none⟩ := by
  rw [receiveValue, ofFrame?, idOf?_eq_some_iff.mpr hid, methodOf?_eq_some_iff.mpr hmethod]

/-- A notification that names the end of the session ends it. -/
theorem receiveValue_of_exit (s : Server) (hid : ∀ id, ¬ HasId frame id)
    (hmethod : Names frame exitMethod) :
    s.receiveValue frame = ⟨s, [], some (.exited (s.lifecycle = .shuttingDown))⟩ := by
  rw [receiveValue, ofFrame?, idOf?_eq_none_iff.mpr hid, methodOf?_eq_some_iff.mpr hmethod]
  exact if_pos rfl

/-- Any other notification is taken notice of. -/
theorem receiveValue_of_notification (s : Server) (hid : ∀ id, ¬ HasId frame id)
    (hmethod : Names frame method) (hexit : method ≠ exitMethod) :
    s.receiveValue frame = ⟨(s.notify method (paramsOf frame)).1,
      messages (s.notify method (paramsOf frame)).2, none⟩ := by
  rw [receiveValue, ofFrame?, idOf?_eq_none_iff.mpr hid, methodOf?_eq_some_iff.mpr hmethod]
  exact if_neg hexit

/-- A frame with an id and nothing that makes it a message is refused. -/
theorem receiveValue_of_invalid (s : Server) (hid : HasId frame id)
    (hmethod : ∀ method, ¬ Names frame method) (houtcome : ¬ HasOutcome frame) :
    s.receiveValue frame =
      ⟨s, [.response (.refuse id .invalidRequest "invalid JSON-RPC message")], none⟩ := by
  have hno : hasOutcome frame = false := by
    rw [← Bool.not_eq_true, hasOutcome_iff]
    exact houtcome
  simp only [receiveValue, ofFrame?, idOf?_eq_some_iff.mpr hid, methodOf?_eq_none_iff.mpr hmethod,
    hno, Bool.false_eq_true, if_false]

/-- A response means nothing. -/
theorem receiveValue_of_outcome (s : Server) (hid : HasId frame id)
    (hmethod : ∀ method, ¬ Names frame method) (houtcome : HasOutcome frame) :
    s.receiveValue frame = ⟨s, [], none⟩ := by
  simp only [receiveValue, ofFrame?, idOf?_eq_some_iff.mpr hid, methodOf?_eq_none_iff.mpr hmethod,
    hasOutcome_iff.mpr houtcome, if_true]

/-- A frame without an id and a method means nothing. -/
theorem receiveValue_of_nothing (s : Server) (hid : ∀ id, ¬ HasId frame id)
    (hmethod : ∀ method, ¬ Names frame method) : s.receiveValue frame = ⟨s, [], none⟩ := by
  simp only [receiveValue, ofFrame?, idOf?_eq_none_iff.mpr hid, methodOf?_eq_none_iff.mpr hmethod]

/-- The reactions of a server to a frame, one for each kind of frame. -/
inductive Receives (s : Server) (frame : Json) : Reaction → Prop where
  /-- A request. -/
  | answers {id : Json} {method : String} (hasId : HasId frame id) (names : Names frame method) :
      Receives s frame ⟨(s.answer id method (paramsOf frame)).1,
        [.response (s.answer id method (paramsOf frame)).2], none⟩
  /-- A frame with an id that is no message. -/
  | refuses {id : Json} (hasId : HasId frame id) (unnamed : ∀ method, ¬ Names frame method)
      (no_outcome : ¬ HasOutcome frame) :
      Receives s frame
        ⟨s, [.response (.refuse id .invalidRequest "invalid JSON-RPC message")], none⟩
  /-- A response from the editor. -/
  | skips {id : Json} (hasId : HasId frame id) (unnamed : ∀ method, ¬ Names frame method)
      (outcome : HasOutcome frame) : Receives s frame ⟨s, [], none⟩
  /-- The notification that ends the session. -/
  | exits (no_id : ∀ id, ¬ HasId frame id) (names : Names frame exitMethod) :
      Receives s frame ⟨s, [], some (.exited (s.lifecycle = .shuttingDown))⟩
  /-- Any other notification. -/
  | notices {method : String} (no_id : ∀ id, ¬ HasId frame id) (names : Names frame method)
      (not_exit : method ≠ exitMethod) :
      Receives s frame ⟨(s.notify method (paramsOf frame)).1,
        messages (s.notify method (paramsOf frame)).2, none⟩
  /-- A frame that is no message and has no id. -/
  | ignores (no_id : ∀ id, ¬ HasId frame id) (unnamed : ∀ method, ¬ Names frame method) :
      Receives s frame ⟨s, [], none⟩

/-- Every frame is of one of these kinds. -/
theorem receives (s : Server) (frame : Json) : Receives s frame (s.receiveValue frame) := by
  -- By the id, the method and the outcome, in the order in which the server looks at them.
  by_cases hid : ∃ id, HasId frame id
  · obtain ⟨id, hid⟩ := hid
    by_cases hmethod : ∃ method, Names frame method
    · obtain ⟨method, hmethod⟩ := hmethod
      rw [s.receiveValue_of_request hid hmethod]
      exact .answers hid hmethod
    · have hunnamed := not_exists.mp hmethod
      by_cases houtcome : HasOutcome frame
      · rw [s.receiveValue_of_outcome hid hunnamed houtcome]
        exact .skips hid hunnamed houtcome
      · rw [s.receiveValue_of_invalid hid hunnamed houtcome]
        exact .refuses hid hunnamed houtcome
  · have hid := not_exists.mp hid
    by_cases hmethod : ∃ method, Names frame method
    · obtain ⟨method, hmethod⟩ := hmethod
      by_cases hexit : method = exitMethod
      · rw [s.receiveValue_of_exit hid (hexit ▸ hmethod)]
        exact .exits hid (hexit ▸ hmethod)
      · rw [s.receiveValue_of_notification hid hmethod hexit]
        exact .notices hid hmethod hexit
    · rw [s.receiveValue_of_nothing hid (not_exists.mp hmethod)]
      exact .ignores hid (not_exists.mp hmethod)

/-- The answer to a request has the id of the request. -/
theorem answer_id (s : Server) (id : Json) (method : String) (params : Json) :
    (s.answer id method params).2.id = id := by
  unfold answer
  split
  · rfl
  · split <;> rfl
  · rfl
  · rfl
  · rfl
  · rfl

end Server

end DiagnosticBridge
