import DiagnosticBridge.Json.Decode
import DiagnosticBridge.Settings.Trace

namespace DiagnosticBridge

/-!
# Parameters of the editor's messages

The records that the editor sends with its requests and notifications, and how they are decoded.
-/

/-- What the editor sends to open the session. -/
structure InitializeParams where
  /-- Settings, in the editor's form. -/
  options : Option Json
  /-- The name of the trace level. -/
  trace : Option String

/-- A document as the editor opens it. -/
structure DidOpenParams where
  /-- The document. -/
  uri : String
  /-- The language, empty when it is not given. -/
  languageId : String
  /-- The version of the text. -/
  version : Int
  /-- The text. -/
  text : String

/-- A document and a version of it. -/
structure VersionedDocument where
  /-- The document. -/
  uri : String
  /-- The version. -/
  version : Int

/-- A change of a document. -/
structure DidChangeParams where
  /-- The document and its version after the change. -/
  document : VersionedDocument
  /-- The whole text, once for every change. -/
  texts : List String

/-- The text after the changes: the last one counts. -/
def DidChangeParams.text? (p : DidChangeParams) : Option String := p.texts.getLast?

namespace Params

open Json (RecordShape Field Decoder)

/-- Decodes the parameters that open the session. -/
def ofInitialize : RecordShape InitializeParams where
  name := "InitializeParams"
  fields :=
    [ .of "initializationOptions" false (.nullable .any) fun o p => { p with options := o },
      .of "trace" false (.nullable .string) fun t p => { p with trace := t } ]
  initial := ⟨none, none⟩

/-- Decodes an opened document. -/
def openedDocument : RecordShape DidOpenParams where
  name := "TextDocumentItem"
  fields :=
    [ .of "uri" true .string fun uri p => { p with uri := uri },
      .of "languageId" false .string fun l p => { p with languageId := l },
      .of "version" true .word32 fun v p => { p with version := v },
      .of "text" true .string fun t p => { p with text := t } ]
  initial := ⟨"", "", 0, ""⟩

/-- Decodes the parameters of an opened document. -/
def ofDidOpen : RecordShape DidOpenParams where
  name := "DidOpenParams"
  fields := [.of "textDocument" true openedDocument.decode fun p _ => p]
  initial := openedDocument.initial

/-- Decodes a document and its version. -/
def versionedDocument : RecordShape VersionedDocument where
  name := "VersionedTextDocumentIdentifier"
  fields :=
    [ .of "uri" true .string fun uri d => { d with uri := uri },
      .of "version" true .word32 fun v d => { d with version := v } ]
  initial := ⟨"", 0⟩

/-- Decodes one change: the whole text. -/
def contentChange : RecordShape String where
  name := "ContentChange"
  fields := [.of "text" true .string fun t _ => t]
  initial := ""

/-- Decodes the parameters of a change. -/
def ofDidChange : RecordShape DidChangeParams where
  name := "DidChangeParams"
  fields :=
    [ .of "textDocument" true versionedDocument.decode fun d p => { p with document := d },
      .of "contentChanges" true (.list contentChange.decode) fun t p => { p with texts := t } ]
  initial := ⟨versionedDocument.initial, []⟩

/-- Decodes a document. -/
def documentIdentifier : RecordShape String where
  name := "TextDocumentIdentifier"
  fields := [.of "uri" true .string fun uri _ => uri]
  initial := ""

/-- Decodes the parameters of a closed document. -/
def ofDidClose : RecordShape String where
  name := "DidCloseParams"
  fields := [.of "textDocument" true documentIdentifier.decode fun uri _ => uri]
  initial := ""

/-- Decodes the parameters of a change of settings. -/
def ofDidChangeConfiguration : RecordShape Json where
  name := "DidChangeConfigurationParams"
  fields := [.of "settings" false .any fun s _ => s]
  initial := .null

/-- Decodes the parameters of a change of the trace level. -/
def ofSetTrace : RecordShape String where
  name := "SetTraceParams"
  fields := [.of "value" true .string fun v _ => v]
  initial := ""

/-- Decodes a trace level by its exact name. -/
def traceLevel : Decoder TraceLevel := .choice TraceLevel.names

end Params

end DiagnosticBridge
