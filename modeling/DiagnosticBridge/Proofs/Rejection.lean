import DiagnosticBridge.Proofs.Provenance
import DiagnosticBridge.Proofs.Reconfiguration

namespace DiagnosticBridge

/-!
# Settings that are refused

The editor may send any value as settings, with the message that opens the session or when it
changes the configuration.  A value that is no layer of settings is refused as a whole: the settings
and the trace level stay as they are, whichever way it came.  The ways differ in what the user gets
to see.

* `shown` — what is shown to the user by some messages;
* `shown_configure_eq_nil_iff` — a change of the configuration is silent exactly if it is accepted;
* `opened_of_rejected` — options that are refused are as good as no options;
* `refused_as_a_whole` — what comes of a value that is refused, both ways;
* `unreported_when_opening` — the user is not told why if it came with the opening.
-/

open Server (messages ignoredSettings openingParams)
open Incoming (HasId Names Notifies paramsOf)

namespace Session

/-- What a message shows to the user. -/
def shown? : Outgoing → Option (MessageKind × String)
  | .notification (.showMessage kind message) => some (kind, message)
  | _ => none

/-- What is shown to the user by some messages, in order. -/
def shown (sent : List Outgoing) : List (MessageKind × String) := sent.filterMap shown?

theorem shown_append (a b : List Outgoing) : shown (a ++ b) = shown a ++ shown b :=
  List.filterMap_append

end Session

open Session (shown)

namespace Server

variable {s : Server} {value frame id : Json} {e : Json.DecodeError} {p : InitializeParams}

/-- What the user is told about a value that is no layer of settings. -/
theorem ignoredSettings_editorFault (e : Json.DecodeError) :
    ignoredSettings (Layer.editorFault e) = .showMessage .warning
      ("perl6-ls: ignoring settings: " ++ ("invalid editor settings: " ++ e.message)) := by
  have hfault : Layer.editorFault e = "invalid editor settings: " ++ e.message := rfl
  rw [hfault]
  rfl

/-- A change of the configuration shows nothing to the user exactly if its settings are accepted. -/
theorem shown_configure_eq_nil_iff :
    shown (messages (s.configure value).2) = [] ↔ ∃ layer, Layer.ofEditor value = .ok layer := by
  cases h : Layer.ofEditor value with
  | ok layer =>
    rw [configure_of_accepted h]
    exact iff_of_true rfl ⟨layer, rfl⟩
  | error e =>
    rw [configure_of_rejected h]
    apply iff_of_false
    · exact List.cons_ne_nil _ _
    · rintro ⟨layer, hlayer⟩
      cases hlayer

/-- Opening the session with options that are refused is opening it without options. -/
theorem opened_of_rejected (hvalue : p.options = some value)
    (refused : Layer.ofEditor value = .error e) :
    s.opened p = s.opened { p with options := none } := by
  simp only [opened, hvalue, configure_of_rejected refused]

/-- Without options the settings stay, and the trace level is the one that is named, if it is
    known. -/
theorem opened_of_no_options (hnone : p.options = none) :
    s.opened p = { s with
      trace := (p.trace.bind TraceLevel.ofText?).getD s.trace, lifecycle := .running } := by
  simp only [opened, hnone]
  cases p.trace.bind TraceLevel.ofText? <;> rfl

/-- A request that opens the session has one answer, and nothing else is sent. -/
theorem receiveValue_of_opening (awaiting : s.lifecycle = .awaiting) (hid : HasId frame id)
    (hmethod : Names frame "initialize") (hparams : openingParams (paramsOf frame) = .ok p) :
    s.receiveValue frame = ⟨s.opened p, [.response (.ok id serverDescription)], none⟩ := by
  have hanswer : s.answer id "initialize" (paramsOf frame) =
      (s.opened p, .ok id serverDescription) := by
    unfold answer
    rw [awaiting]
    simp only [hparams]
  rw [s.receiveValue_of_request hid hmethod, hanswer]

/-- **Refused as a whole.** Take a value that is no layer of settings, and any state of the server.
    If the editor changes the configuration to it while the session runs, the settings and the trace
    level stay as they were, and all that is sent is one warning that says why.  If the session is
    opened with it as the options, the settings stay as well, the trace level is that which is named
    apart from the options, if there is one, and all else is as if there were no options. -/
theorem refused_as_a_whole (refused : Layer.ofEditor value = .error e) (s : Server) (frame : Json) :
    (s.lifecycle = .running → Notifies frame (.configured value) →
      (s.receiveValue frame).server.settings = s.settings ∧
      (s.receiveValue frame).server.trace = s.trace ∧
      (s.receiveValue frame).sent = [.notification (.showMessage .warning
        ("perl6-ls: ignoring settings: " ++ ("invalid editor settings: " ++ e.message)))]) ∧
    ∀ id p, s.lifecycle = .awaiting → HasId frame id → Names frame "initialize" →
      openingParams (paramsOf frame) = .ok p → p.options = some value →
      (s.receiveValue frame).server.settings = s.settings ∧
      (s.receiveValue frame).server.trace = (p.trace.bind TraceLevel.ofText?).getD s.trace ∧
      (s.receiveValue frame).server = s.opened { p with options := none } ∧
      (s.receiveValue frame).sent = [.response (.ok id serverDescription)] := by
  constructor
  · intro running hn
    have hreaction : s.receiveValue frame = ⟨{ s with warned := false }.checkAll,
        messages [ignoredSettings (Layer.editorFault e)], none⟩ := by
      have hconfigured := Session.reaction_of_configured running hn
      rw [configure_of_rejected refused] at hconfigured
      exact hconfigured
    -- The documents are checked again nevertheless.
    rw [hreaction, checkAll_eq]
    refine ⟨rfl, rfl, ?_⟩
    show [Outgoing.notification (ignoredSettings (Layer.editorFault e))] = _
    rw [ignoredSettings_editorFault]
  · intro id p awaiting hid hmethod hparams hvalue
    have hsame : s.opened p = s.opened { p with options := none } :=
      opened_of_rejected hvalue refused
    have hopened : s.opened { p with options := none } = { s with
        trace := (p.trace.bind TraceLevel.ofText?).getD s.trace, lifecycle := .running } :=
      opened_of_no_options rfl
    rw [receiveValue_of_opening awaiting hid hmethod hparams, hsame]
    refine ⟨?_, ?_, rfl, rfl⟩
    · rw [hopened]
    · rw [hopened]

end Server

namespace Session

/-- The message that opens the session with these options. -/
def openingFrame (options : Json) : Json :=
  .object [("id", .whole 1), ("method", .string "initialize"),
    ("params", .object [("initializationOptions", options)])]

/-- A string is refused where a list is expected. -/
theorem ofEditor_refusedSettings :
    Layer.ofEditor refusedSettings =
      .error (.wrongType (.string "not-a-list") "a sequence") := rfl

/-- Both ways for settings whose libraries are not a list. -/
theorem refused_as_a_whole_notAList :
    ((start plain).run (overtaken.take 1)).server.lifecycle = .running ∧
    (((start plain).run (overtaken.take 1)).server.receiveValue
      (configureFrame refusedSettings)).server.settings = .standard ∧
    (((start plain).run (overtaken.take 1)).server.receiveValue
      (configureFrame refusedSettings)).sent = [.notification (.showMessage .warning
        ("perl6-ls: ignoring settings: " ++ ("invalid editor settings: " ++
          "invalid type: string \"not-a-list\", expected a sequence")))] ∧
    (plain.receiveValue (openingFrame refusedSettings)).server.settings = .standard := by
  have hconfigured := (Server.refused_as_a_whole ofEditor_refusedSettings
    ((start plain).run (overtaken.take 1)).server (configureFrame refusedSettings)).1 rfl
      (notifies_configureFrame _)
  have hopened := (Server.refused_as_a_whole ofEditor_refusedSettings plain
    (openingFrame refusedSettings)).2 (.whole 1) ⟨some refusedSettings, none⟩ rfl
      ⟨rfl, Json.noConfusion⟩ rfl rfl rfl
  have hmessage : (Json.DecodeError.wrongType (.string "not-a-list") "a sequence").message =
      "invalid type: string \"not-a-list\", expected a sequence" := by decide +kernel
  rw [hmessage] at hconfigured
  exact ⟨rfl, hconfigured.1, hconfigured.2.2, hopened.1⟩

/-- **The user is not told why if the session is opened with it.** The settings are refused all the
    same, but only the answer is sent. -/
theorem unreported_when_opening :
    (∃ e, Layer.ofEditor refusedSettings = .error e) ∧ plain.lifecycle = .awaiting ∧
    HasId (openingFrame refusedSettings) (.whole 1) ∧
    Names (openingFrame refusedSettings) "initialize" ∧
    openingParams (paramsOf (openingFrame refusedSettings)) = .ok ⟨some refusedSettings, none⟩ ∧
    (plain.receiveValue (openingFrame refusedSettings)).sent =
      [.response (.ok (.whole 1) serverDescription)] ∧
    shown (plain.receiveValue (openingFrame refusedSettings)).sent = [] :=
  ⟨⟨_, ofEditor_refusedSettings⟩, rfl, ⟨rfl, Json.noConfusion⟩, rfl, rfl, rfl, rfl⟩

end Session

end DiagnosticBridge
