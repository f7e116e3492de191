import DiagnosticBridge.Diagnostic
import DiagnosticBridge.Json.Printer

namespace DiagnosticBridge

/-!
# Messages to the editor

The bridge answers requests and sends three kinds of notification.  The members of a message are
written in a fixed order; those of its parameters by the order of their keys.
-/

/-- The numbers of the protocol for refused requests. -/
inductive Refusal where
  /-- The body of a message is no JSON. -/
  | notJson
  /-- The message is not acceptable, at all or now. -/
  | invalidRequest
  /-- There is no such method. -/
  | unknownMethod
  /-- The parameters do not decode. -/
  | invalidParams
  /-- The session has not been opened. -/
  | notInitialized
  deriving DecidableEq, Repr

/-- The number of a refusal. -/
def Refusal.code : Refusal → Int
  | .notJson => -32700
  | .invalidRequest => -32600
  | .unknownMethod => -32601
  | .invalidParams => -32602
  | .notInitialized => -32002

/-- The outcome of a request. -/
inductive Answer where
  | result (value : Json)
  | failure (code : Int) (message : String)
  deriving BEq

/-- The answer to a request. -/
structure Response where
  /-- The id of the request. -/
  id : Json
  /-- The outcome. -/
  answer : Answer
  deriving BEq

/-- The answer that gives a result. -/
def Response.ok (id result : Json) : Response := ⟨id, .result result⟩

/-- The answer that refuses a request. -/
def Response.refuse (id : Json) (why : Refusal) (message : String) : Response :=
  ⟨id, .failure why.code message⟩

/-- How important a message for the user is. -/
inductive MessageKind where
  | error
  | warning
  | info
  | log
  deriving DecidableEq, Repr

/-- The number of the kind in the protocol. -/
def MessageKind.code : MessageKind → Int
  | .error => 1
  | .warning => 2
  | .info => 3
  | .log => 4

/-- A notification to the editor. -/
inductive Notification where
  /-- The diagnostics of a document, and the version they are about. -/
  | publishDiagnostics (uri : String) (version : Option Int) (batch : Batch)
  /-- A message to show to the user. -/
  | showMessage (kind : MessageKind) (message : String)
  /-- A message for the editor's log. -/
  | logMessage (kind : MessageKind) (message : String)
  deriving DecidableEq, Repr

/-- Anything that the bridge sends. -/
inductive Outgoing where
  | response (r : Response)
  | notification (n : Notification)
  deriving BEq

/-- A place in a document. -/
def positionValue (line column : UInt32) : Json :=
  Json.ofMembers [("line", .whole line.toNat), ("character", .whole column.toNat)]

/-- A diagnostic in the protocol's form. -/
def Diagnostic.value (d : Diagnostic) : Json :=
  Json.ofMembers
    [ ("range", Json.ofMembers
        [ ("start", positionValue d.line d.startColumn),
          ("end", positionValue d.line d.endColumn) ]),
      ("severity", .whole d.severity.code),
      ("source", .string d.source),
      ("message", .string d.message) ]

namespace Notification

/-- The method that a notification names. -/
def method : Notification → String
  | .publishDiagnostics .. => "textDocument/publishDiagnostics"
  | .showMessage .. => "window/showMessage"
  | .logMessage .. => "window/logMessage"

/-- A message for the user, with its kind. -/
def messageParams (kind : MessageKind) (message : String) : Json :=
  Json.ofMembers [("type", .whole kind.code), ("message", .string message)]

/-- The parameters of a notification. -/
def params : Notification → Json
  | .publishDiagnostics uri version batch =>
    Json.ofMembers
      ([("uri", .string uri), ("diagnostics", .array (batch.map Diagnostic.value))] ++
        (version.map fun v => ("version", Json.whole v)).toList)
  | .showMessage kind message => messageParams kind message
  | .logMessage kind message => messageParams kind message

end Notification

namespace Outgoing

/-- The version of the message format. -/
def format : String × Json := ("jsonrpc", .string "2.0")

/-- The members of a message in the order in which they are written. -/
def members : Outgoing → List (String × Json)
  | .response ⟨id, .result value⟩ => [format, ("id", id), ("result", value)]
  | .response ⟨id, .failure code message⟩ =>
    [ format, ("id", id),
      ("error", .object [("code", .whole code), ("message", .string message)]) ]
  | .notification n => [format, ("method", .string n.method), ("params", n.params)]

/-- The text of a message. -/
def text (m : Outgoing) : List Char := '{' :: Json.textMembers m.members ++ ['}']

/-- The value that the text of a message denotes. -/
def value (m : Outgoing) : Json := Json.ofMembers m.members

end Outgoing

/-- How often the editor sends a document: its whole text at every change. -/
def wholeTextSync : Int := 1

/-- What the bridge tells the editor about itself when the session is opened. -/
def serverDescription : Json :=
  Json.ofMembers
    [ ("capabilities", Json.ofMembers
        [ ("textDocumentSync", Json.ofMembers
            [("openClose", .bool true), ("change", .whole wholeTextSync)]) ]),
      ("serverInfo", Json.ofMembers
        [("name", .string "perl6-ls"), ("version", .string "0.1.0")]) ]

end DiagnosticBridge
