import DiagnosticBridge.Json.Value

namespace DiagnosticBridge

/-!
# Messages from the editor

A frame is a JSON value.  It is a request if it names a method and has an id, a notification if it
names a method and has none, and a response if it has an id and a result or an error.  An id that
is `null` counts as none.
-/

/-- A message from the editor. -/
inductive Incoming where
  | request (id : Json) (method : String) (params : Json)
  | notification (method : String) (params : Json)
  | response (id : Json)
  deriving BEq

namespace Incoming

/-- The id of a frame, unless it is `null`. -/
def idOf? (frame : Json) : Option Json := (frame.member? "id").filter (!·.isNull)

/-- The method that a frame names. -/
def methodOf? (frame : Json) : Option String := (frame.member? "method").bind Json.string?

/-- The parameters of a frame; `null` if it has none. -/
def paramsOf (frame : Json) : Json := (frame.member? "params").getD .null

/-- Whether a frame carries the outcome of a request. -/
def hasOutcome (frame : Json) : Bool :=
  (frame.member? "result").isSome || (frame.member? "error").isSome

/-- The message in a frame, if it holds one. -/
def ofFrame? (frame : Json) : Option Incoming :=
  match idOf? frame, methodOf? frame with
  | some id, some method => some (.request id method (paramsOf frame))
  | none, some method => some (.notification method (paramsOf frame))
  | some id, none => if hasOutcome frame then some (.response id) else none
  | none, none => none

end Incoming

end DiagnosticBridge
