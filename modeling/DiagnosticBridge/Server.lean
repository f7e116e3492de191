import DiagnosticBridge.Check.Flights
import DiagnosticBridge.Documents
import DiagnosticBridge.Frame.Reader
import DiagnosticBridge.Protocol.Incoming
import DiagnosticBridge.Protocol.Notice
import DiagnosticBridge.Protocol.Outgoing
import DiagnosticBridge.Settings.Editor

namespace DiagnosticBridge

/-!
# The server

The server reacts to what the editor sends and to the events of finished runs.  Its state is a
value, and every reaction is a function from the state to the next state and the messages sent, so
that a session is a sequence of such reactions in any order in which they can happen.

The parts of the state are kept in step: a document that is stored anew gets a run over what is
stored, a closed one loses its run, and a change of settings gives every open document a new run.
An event is taken notice of only while its run is current.
-/

/-- Where the session is. -/
inductive Lifecycle where
  /-- The editor has not opened the session. -/
  | awaiting
  /-- The session is open. -/
  | running
  /-- The editor has asked to shut down. -/
  | shuttingDown
  deriving DecidableEq, Repr

/-- How a session ends. -/
inductive SessionEnd where
  /-- The editor said `exit`, after it had asked to shut down or not. -/
  | exited (afterShutdown : Bool)
  /-- The editor closed the stream. -/
  | disconnected
  /-- The stream from the editor is faulty. -/
  | unreadable (fault : Frame.Fault)
  /-- The stream to the editor is faulty. -/
  | unwritable (fault : Frame.Fault)
  deriving DecidableEq, Repr

namespace SessionEnd

/-- The exit code of the program: zero only for an orderly end. -/
def exitCode : SessionEnd → Nat
  | exited true => 0
  | _ => 1

/-- What is said about an end that is an error. -/
def errorMessage? : SessionEnd → Option String
  | unreadable fault => some s!"reading from editor: {fault.messageChain}"
  | unwritable fault => some s!"writing to editor: {fault.messageChain}"
  | _ => none

end SessionEnd

/-- The state of a server. -/
structure Server where
  /-- The runs. -/
  flights : Flights
  /-- The open documents. -/
  documents : Documents
  /-- The layers below the editor's. -/
  base : Layer
  /-- The settings in force. -/
  settings : CompilerSettings
  /-- How much is logged to the editor. -/
  trace : TraceLevel
  /-- Where the session is. -/
  lifecycle : Lifecycle
  /-- Whether the user has been told, since the settings last changed, that the compiler cannot be
      used. -/
  warned : Bool
  deriving Repr

namespace Server

/-- The server of a session that has not been opened. -/
def ofBase (base : Layer) : Except SettingsError Server := do
  let settings ← base.resolve
  return ⟨.empty, .empty, base, settings, settings.trace, .awaiting, false⟩

/-! ### Runs and settings -/

/-- Schedules a run over a document under the settings in force. -/
def check (s : Server) (uri : String) (version : Int) (text : String) : Server :=
  { s with flights := s.flights.schedule uri version text s.settings }

/-- Schedules a run over every open document, by the order of their URIs. -/
def checkAll (s : Server) : Server :=
  s.documents.toList.foldl (fun s (uri, doc) => s.check uri doc.version doc.text) s

/-- Aborts the runs over all open documents. -/
def cancelAll (s : Server) : Server :=
  { s with flights := s.documents.keys.foldl Flights.cancel s.flights }

/-- What is said to the user about settings that are not taken. -/
def ignoredSettings (e : String) : Notification :=
  .showMessage .warning s!"perl6-ls: ignoring settings: {e}"

/-- The settings that the editor's value gives on top of the base layers. -/
def settingsFor (base : Layer) (value : Json) : Except String CompilerSettings :=
  match Layer.ofEditor value with
  | .error e => .error (Layer.editorFault e)
  | .ok editor =>
    match (base.overlay editor).resolve with
    | .error e => .error e.message
    | .ok settings => .ok settings

/-- Takes settings from the editor.  Settings that are refused change nothing, and the user is
    told why. -/
def configure (s : Server) (value : Json) : Server × List Notification :=
  match settingsFor s.base value with
  | .ok settings => ({ s with settings := settings, trace := settings.trace }, [])
  | .error e => (s, [ignoredSettings e])

/-! ### Requests -/

/-- Opens the session.  What is wrong with the options is not told to the user here: the session
    opens with the settings of the layers below. -/
def opened (s : Server) (p : InitializeParams) : Server :=
  let s := match p.options with
    | some options => (s.configure options).1
    | none => s
  let s := match p.trace.bind TraceLevel.ofText? with
    | some trace => { s with trace := trace }
    | none => s
  { s with lifecycle := .running }

/-- The parameters that open the session; `null` stands for none at all. -/
def openingParams (params : Json) : Except Json.DecodeError InitializeParams :=
  if params.isNull then .ok Params.ofInitialize.initial else Params.ofInitialize.decode params

/-- Answers a request. -/
def answer (s : Server) (id : Json) (method : String) (params : Json) : Server × Response :=
  match s.lifecycle, method with
  | .shuttingDown, _ =>
    (s, .refuse id .invalidRequest s!"server is shutting down; '{method}' refused")
  | .awaiting, "initialize" =>
    match openingParams params with
    | .error e => (s, .refuse id .invalidParams e.message)
    | .ok p => (s.opened p, .ok id serverDescription)
  | .awaiting, _ => (s, .refuse id .notInitialized "server not initialized")
  | .running, "initialize" => (s, .refuse id .invalidRequest "server already initialized")
  | .running, "shutdown" =>
    ({ s with lifecycle := .shuttingDown }.cancelAll, .ok id .null)
  | .running, _ => (s, .refuse id .unknownMethod s!"method not found: {method}")

/-! ### Notifications -/

/-- Stores a version of a document and schedules a run over it. -/
def store (s : Server) (documents : Documents) (uri : String) (version : Int) (text : String) :
    Server :=
  { s with documents := documents }.check uri version text

/-- Reacts to a notification of a running session. -/
def notice (s : Server) : Notice → Server × List Notification
  | .opened d => (s.store (s.documents.opened d.uri d.version d.text) d.uri d.version d.text, [])
  | .changed c =>
    match c.text? with
    | none => (s, [])
    | some text =>
      match s.documents.changed? c.document.uri c.document.version text with
      | none => (s, [])
      | some documents => (s.store documents c.document.uri c.document.version text, [])
  | .closed uri =>
    ({ s with flights := s.flights.cancel uri, documents := s.documents.closed uri },
      [.publishDiagnostics uri none []])
  | .configured value =>
    let (s, told) := s.configure value
    ({ s with warned := false }.checkAll, told)
  | .traced value =>
    match TraceLevel.ofText? value with
    | some trace => ({ s with trace := trace }, [])
    | none => (s, [])

/-- Reacts to any notification but `exit`.  Before the session is open and after it is shut down,
    notifications mean nothing. -/
def notify (s : Server) (method : String) (params : Json) : Server × List Notification :=
  if s.lifecycle = .running then
    match Notice.ofMethod? method params with
    | some n => s.notice n
    | none => (s, [])
  else (s, [])

/-! ### Events -/

/-- What is told to the editor about the event of a current run. -/
def report (s : Server) : Event → Server × List Notification
  | .published uri _ version batch =>
    let log := Notification.logMessage .log s!"{uri} (v{version}): {batch.length} diagnostic(s)"
    (s, (if s.trace = .verbose then [log] else []) ++
      [.publishDiagnostics uri (some version) batch])
  | .compilerUnavailable _ _ message =>
    if s.warned then (s, [])
    else ({ s with warned := true }, [.showMessage .warning message])
  | .failed uri _ message =>
    (s, if s.trace.isEnabled then [.logMessage .error s!"{uri}: {message}"] else [])

/-- Reacts to the event of a run.  An event whose run is not current means nothing. -/
def handle (s : Server) (e : Event) : Server × List Notification :=
  if s.flights.isCurrent e.uri e.generation then
    { s with flights := s.flights.finish e.uri e.generation }.report e
  else (s, [])

/-! ### Frames -/

/-- The message that ends the session. -/
def exitMethod : String := "exit"

/-- What a reaction comes to. -/
structure Reaction where
  /-- The next state. -/
  server : Server
  /-- The messages sent, in order. -/
  sent : List Outgoing
  /-- How the session ends, if it does. -/
  ending : Option SessionEnd

/-- Notifications as messages. -/
def messages (notifications : List Notification) : List Outgoing :=
  notifications.map .notification

/-- Reacts to a JSON value from the editor. -/
def receiveValue (s : Server) (frame : Json) : Reaction :=
  match Incoming.ofFrame? frame with
  | some (.request id method params) =>
    let (s, response) := s.answer id method params
    ⟨s, [.response response], none⟩
  | some (.notification method params) =>
    if method = exitMethod then ⟨s, [], some (.exited (s.lifecycle = .shuttingDown))⟩
    else
      let (s, told) := s.notify method params
      ⟨s, messages told, none⟩
  | some (.response _) => ⟨s, [], none⟩
  | none =>
    match Incoming.idOf? frame with
    | some id =>
      ⟨s, [.response (.refuse id .invalidRequest "invalid JSON-RPC message")], none⟩
    | none => ⟨s, [], none⟩

/-- Reacts to what the reader gets from the editor. -/
def receive (s : Server) : Frame.Item → Reaction
  | .message frame => s.receiveValue frame
  | .malformed e => ⟨s, [.response (.refuse .null .notJson e.message)], none⟩
  | .finished => ⟨s, [], some .disconnected⟩
  | .faulty fault => ⟨s, [], some (.unreadable fault)⟩

/-- Reacts to the event that arrived first, if there is one. -/
def receiveEvent? (s : Server) : Option Reaction :=
  s.flights.receive?.map fun (event, flights) =>
    let (s, told) := { s with flights := flights }.handle event
    ⟨s, messages told, none⟩

end Server

end DiagnosticBridge
