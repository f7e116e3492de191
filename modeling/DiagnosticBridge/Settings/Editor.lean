import DiagnosticBridge.Json.Decode
import DiagnosticBridge.Settings.Layer

namespace DiagnosticBridge

/-!
# The editor's layer

The editor sends settings as a JSON value: either the settings themselves or an object that holds
them under the key `perl6`.  `null` sets nothing.
-/

namespace Layer

/-- The key under which editors nest the settings. -/
def sectionKey : String := "perl6"

/-- The settings within what the editor sent. -/
def editorSection (value : Json) : Json := (value.member? sectionKey).getD value

/-- The record that holds the trace level. -/
def editorTrace : Json.RecordShape (Option String) where
  name := "LspTrace"
  fields := [.of "server" false (.nullable .string) fun server _ => server]
  initial := none

/-- The record of settings. -/
def editorRecord : Json.RecordShape Layer where
  name := "LspSettings"
  fields :=
    [ .of "path" false (.nullable .string) fun path l => { l with path := path },
      .of "libs" false (.nullable (.list .string)) fun libs l => { l with libraries := libs },
      .of "trace" false (.nullable editorTrace.decode) fun t l => { l with trace := t.join } ]
  initial := .empty

/-- The layer that the editor sent. -/
def ofEditor (value : Json) : Except Json.DecodeError Layer :=
  if (editorSection value).isNull then .ok .empty else editorRecord.decode (editorSection value)

/-- What is said about a value that is no layer. -/
def editorFault (e : Json.DecodeError) : String := s!"invalid editor settings: {e.message}"

end Layer

end DiagnosticBridge
