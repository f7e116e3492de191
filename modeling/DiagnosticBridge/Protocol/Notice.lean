import DiagnosticBridge.Protocol.Params

namespace DiagnosticBridge

/-!
# What the editor notifies

The notifications that mean something to a running session, decoded.  Anything else, and anything
whose parameters do not decode, means nothing.
-/

/-- A notification that means something. -/
inductive Notice where
  /-- A document was opened. -/
  | opened (document : DidOpenParams)
  /-- A document was changed. -/
  | changed (change : DidChangeParams)
  /-- A document was closed. -/
  | closed (uri : String)
  /-- The settings were changed. -/
  | configured (settings : Json)
  /-- The trace level was changed. -/
  | traced (value : String)

namespace Notice

/-- The decoded value as a notice, or none if it did not decode. -/
def ofDecoded {α : Type} (f : α → Notice) : Except Json.DecodeError α → Option Notice
  | .ok a => some (f a)
  | .error _ => none

/-- The notice that a method and its parameters give. -/
def ofMethod? (method : String) (params : Json) : Option Notice :=
  match method with
  | "textDocument/didOpen" => ofDecoded opened (Params.ofDidOpen.decode params)
  | "textDocument/didChange" => ofDecoded changed (Params.ofDidChange.decode params)
  | "textDocument/didClose" => ofDecoded closed (Params.ofDidClose.decode params)
  | "workspace/didChangeConfiguration" =>
    ofDecoded configured (Params.ofDidChangeConfiguration.decode params)
  | "$/setTrace" => ofDecoded traced (Params.ofSetTrace.decode params)
  | _ => none

end Notice

end DiagnosticBridge
