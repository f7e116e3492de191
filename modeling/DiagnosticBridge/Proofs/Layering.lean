import DiagnosticBridge.Proofs.Provenance

namespace DiagnosticBridge

/-!
# Layers on top of each other

Any number of layers can be put on top of each other, two at a time and in any grouping.  Each of
the three settings is then decided for itself, by the highest layer that has a say in it: a blank
compiler or trace level says nothing, a list of libraries says something even if it is empty.

* `Topmost` — what the highest layer with a say in something says of it;
* `topmost_of_merges` — layers on top of each other say what the highest of them says;
* `resolve_of_merges` — so any layers resolve, to settings that can be used as they are.
-/

/-- Settings that a check can be run with. -/
structure CompilerSettings.Usable (s : CompilerSettings) : Prop where
  /-- A compiler is named. -/
  compiler_not_blank : Text.isBlankString s.compiler = false
  /-- Its name is trimmed. -/
  compiler_trimmed : Text.trimString s.compiler = s.compiler
  /-- It begins with no white space. -/
  compiler_head : ∀ c ∈ s.compiler.toList.head?, Text.isSpace c = false
  /-- It ends with none, either. -/
  compiler_getLast : ∀ c ∈ s.compiler.toList.getLast?, Text.isSpace c = false
  /-- No library is blank. -/
  libraries_not_blank : ∀ library ∈ s.libraries, Text.isBlankString library = false

namespace Layer

variable {α : Type} {value : Layer → Option α} {layers lower higher : List Layer}
  {a b : Option α} {l merged : Layer}

/-! ### The highest layer with a say -/

/-- The compiler that the layer names. -/
def compiler? (l : Layer) : Option String := present l.path

/-- The name of the trace level that the layer names. -/
def level? (l : Layer) : Option String := present l.trace

/-- The value that the highest of the layers with a value has, if there is any.  The layers are
    given from the lowest to the highest. -/
inductive Topmost (value : Layer → Option α) : List Layer → Option α → Prop where
  /-- A layer has a value, and none above it has one. -/
  | found {below above : List Layer} {l : Layer} {a : α} (gives : value l = some a)
      (topmost : ∀ m ∈ above, value m = none) : Topmost value (below ++ l :: above) (some a)
  /-- No layer has a value. -/
  | absent {layers : List Layer} (silent : ∀ l ∈ layers, value l = none) :
      Topmost value layers none

/-- Of a single layer, what it says is the answer. -/
theorem topmost_single (value : Layer → Option α) (l : Layer) : Topmost value [l] (value l) := by
  cases h : value l with
  | none => exact .absent (List.forall_mem_singleton.mpr h)
  | some a =>
    rw [← List.nil_append [l]]
    exact .found h fun m hm => absurd hm List.not_mem_nil

/-- Layers on top are asked first. -/
theorem Topmost.append (hlower : Topmost value lower a) (hhigher : Topmost value higher b) :
    Topmost value (lower ++ higher) (b.or a) := by
  cases hhigher with
  | found gives topmost =>
    rw [← List.append_assoc]
    exact .found gives topmost
  | absent silent =>
    cases hlower with
    | found gives topmost =>
      rw [List.append_assoc, List.cons_append]
      exact .found gives fun m hm => (List.mem_append.mp hm).elim (topmost m) (silent m)
    | absent silent' =>
      exact .absent fun m hm => (List.mem_append.mp hm).elim (silent' m) (silent m)

/-- The highest layer with a say is the last one. -/
theorem Topmost.eq_getLast? (h : Topmost value layers a) :
    a = (layers.filterMap value).getLast? := by
  cases h with
  | found gives topmost =>
    rw [List.filterMap_append, List.filterMap_cons_some gives,
      List.filterMap_eq_nil_iff.mpr topmost, List.getLast?_concat]
  | absent silent =>
    rw [List.filterMap_eq_nil_iff.mpr silent]
    rfl

/-- There is one answer to what the highest layer says. -/
theorem Topmost.unique (ha : Topmost value layers a) (hb : Topmost value layers b) : a = b :=
  ha.eq_getLast?.trans hb.eq_getLast?.symm

/-! ### In any grouping -/

/-- The layers, from the lowest to the highest, are put on top of each other in some grouping. -/
inductive Merges : List Layer → Layer → Prop where
  /-- Without layers nothing is set. -/
  | none : Merges [] .empty
  /-- A single layer is taken as it is. -/
  | single (l : Layer) : Merges [l] l
  /-- One group of layers is put on top of another. -/
  | stack {below above : List Layer} {lower higher : Layer} (hlower : Merges below lower)
      (hhigher : Merges above higher) : Merges (below ++ above) (lower.overlay higher)

/-- Any layers can be put on top of each other. -/
theorem exists_merges (layers : List Layer) : ∃ merged, Merges layers merged := by
  induction layers with
  | nil => exact ⟨_, .none⟩
  | cons l layers ih =>
    obtain ⟨merged, h⟩ := ih
    exact ⟨_, .stack (.single l) h⟩

/-- **The highest layer decides.** This holds of whatever a layer says if one layer on top of
    another says the same, unless the layer on top is silent. -/
theorem topmost_of_merges (hempty : value .empty = none)
    (hoverlay : ∀ lower higher, value (overlay lower higher) = (value higher).or (value lower))
    (h : Merges layers merged) : Topmost value layers (value merged) := by
  induction h with
  | none =>
    rw [hempty]
    exact .absent fun l hl => absurd hl List.not_mem_nil
  | single l => exact topmost_single value l
  | stack _ _ ihlower ihhigher =>
    rw [hoverlay]
    exact ihlower.append ihhigher

/-! ### What comes of it -/

/-- A blank name is no name of a trace level. -/
theorem ofText?_of_blank {name : String} (h : Text.isBlankString name = true) :
    TraceLevel.ofText? name = none := by
  have htrim : Text.trim name.toList = [] := (Text.isBlank_iff_trim_eq_nil _).mp h
  refine Option.eq_none_iff_forall_ne_some.mpr fun level hlevel => ?_
  -- Nothing is left of the name, which is the name of no level.
  rcases TraceLevel.ofText?_eq_some_iff.mp hlevel with reads | reads | reads <;>
    · rw [htrim] at reads
      cases reads

/-- A blank name means the same as none. -/
theorem bind_level? (l : Layer) :
    l.level?.bind TraceLevel.ofText? = l.trace.bind TraceLevel.ofText? := by
  rw [level?, present]
  cases l.trace with
  | none => rfl
  | some name =>
    cases hblank : Text.isBlankString name with
    | true => simp [Option.filter, hblank, ofText?_of_blank]
    | false => simp [Option.filter, hblank]

/-- The settings of a layer, by what it says. -/
theorem settings_eq (l : Layer) : l.settings =
    { compiler := l.compiler?.elim CompilerSettings.standardCompiler Text.trimString
      libraries := (l.libraries.getD []).filter (!Text.isBlankString ·)
      trace := (l.level?.bind TraceLevel.ofText?).getD .off } := by
  rw [bind_level?, compiler?, settings]
  cases present l.path <;> rfl

/-- What a layer resolves to can be used as it is. -/
theorem usable_settings (l : Layer) : l.settings.Usable where
  compiler_not_blank := by
    rw [settings, Text.isBlankString, Text.trimString, String.toList_ofList, Text.isBlank_trim]
    exact l.not_isBlank_compiler
  compiler_trimmed := by
    rw [settings, Text.trimString, Text.trimString, String.toList_ofList, Text.trim_trim]
  compiler_head c hc := by
    rw [settings, Text.trimString, String.toList_ofList] at hc
    exact Text.head_trim hc
  compiler_getLast c hc := by
    rw [settings, Text.trimString, String.toList_ofList, Text.trim] at hc
    exact Text.getLast_trimEnd hc
  libraries_not_blank := fun library h => by simpa using (List.mem_filter.mp h).2

/-- **Layers resolve to what the highest layers say.** However any number of layers is put on top
    of each other, they resolve, and to the same settings.  The compiler is the trimmed one of the
    highest layer that names one, the libraries are those of the highest layer that lists any, less
    the blank ones, and the trace level is that of the highest layer that names one: no other layer
    is asked if that name is unknown.  A blank compiler or trace level names none.  Known are the
    names of the three levels, with white space around them and in any case. -/
theorem resolve_of_merges (layers : List Layer) :
    (∀ a b c : Layer, (a.overlay b).overlay c = a.overlay (b.overlay c)) ∧
    (∀ (l : Layer) (name : String),
      (l.compiler? = some name ↔ l.path = some name ∧ Text.isBlankString name = false) ∧
      (l.level? = some name ↔ l.trace = some name ∧ Text.isBlankString name = false)) ∧
    (∀ name level, TraceLevel.ofText? name = some level ↔ TraceLevel.Named name level) ∧
    (∃ merged, Merges layers merged) ∧
    ∃ compiler libraries level, Topmost compiler? layers compiler ∧
      Topmost Layer.libraries layers libraries ∧ Topmost level? layers level ∧
      ∃ settings : CompilerSettings,
        settings.compiler = compiler.elim "perl6" Text.trimString ∧
        settings.libraries = (libraries.getD []).filter (!Text.isBlankString ·) ∧
        settings.trace = (level.bind TraceLevel.ofText?).getD .off ∧ settings.Usable ∧
        ∀ merged, Merges layers merged → merged.resolve = .ok settings := by
  have hcompiler {merged} : Merges layers merged → Topmost compiler? layers merged.compiler? :=
    topmost_of_merges rfl fun lower higher => present_or higher.path lower.path
  have hlibraries {merged} :
      Merges layers merged → Topmost Layer.libraries layers merged.libraries :=
    topmost_of_merges rfl fun _ _ => rfl
  have hlevel {merged} : Merges layers merged → Topmost level? layers merged.level? :=
    topmost_of_merges rfl fun lower higher => present_or higher.trace lower.trace
  obtain ⟨first, hfirst⟩ := exists_merges layers
  have heq := first.settings_eq
  refine ⟨overlay_assoc, fun _ _ => ⟨present_eq_some_iff, present_eq_some_iff⟩,
    fun _ _ => TraceLevel.ofText?_eq_some_iff, ⟨first, hfirst⟩,
    first.compiler?, first.libraries, first.level?, hcompiler hfirst, hlibraries hfirst,
    hlevel hfirst, first.settings, ?_, ?_, ?_, first.usable_settings, fun merged h => ?_⟩
  · rw [heq]
    rfl
  · rw [heq]
  · rw [heq]
  -- What the layers say does not depend on the grouping, and so neither do the settings.
  · rw [resolve_eq, merged.settings_eq, heq, (hcompiler h).unique (hcompiler hfirst),
      (hlibraries h).unique (hlibraries hfirst), (hlevel h).unique (hlevel hfirst)]

/-- A blank compiler does not count, an empty list of libraries does, and so does a trace level
    that is not known. -/
example :
    ((⟨some " p6 ", some ["a", " "], some "verbose"⟩ : Layer).overlay
      (⟨some " ", some [], some "loud"⟩)).resolve = .ok ⟨"p6", [], .off⟩ := by
  decide

end Layer

end DiagnosticBridge
