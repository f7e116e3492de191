import DiagnosticBridge.Proofs.Objects
import DiagnosticBridge.Proofs.Records
import DiagnosticBridge.Server

namespace DiagnosticBridge

/-!
# What the editor may send as settings

The editor may send any value.  The values that are settings form a small grammar, and each of them
stands for one layer: that which holds the values given for the three settings, and nothing for
those that are absent or `null`.  Every other value is refused as a whole.

* `Optionally` — a value that may be absent or `null`;
* `TraceForm`, `SettingsForm`, `EditorForm` — the grammar, with what each form stands for;
* `reads_nullable` — how an optional field is read;
* `decode_trace_iff`, `decode_settings_iff` — the records are the forms;
* `ofEditor_eq_ok_iff` — hence the layers are.
-/

/-! ### The grammar -/

namespace Json

variable {α σ : Type}

/-- The value is this string. -/
def IsText (v : Json) (s : String) : Prop := v = .string s

/-- The value is an array of these strings. -/
def IsTexts (v : Json) (texts : List String) : Prop := v = .array (texts.map .string)

/-- What a value that may be absent or `null` holds. -/
inductive Optionally (Holds : Json → α → Prop) : Option Json → Option α → Prop where
  | absent : Optionally Holds none none
  | null : Optionally Holds (some .null) none
  | present {v : Json} {a : α} (holds : Holds v a) : Optionally Holds (some v) (some a)

end Json

namespace Layer

open Json (Optionally IsText IsTexts)

/-- The value gives the name of the trace level, or gives none. -/
inductive TraceForm : Json → Option String → Prop where
  /-- In an object, under the key `server`. -/
  | object {members : List (String × Json)} {server : Option String}
      (names : Optionally IsText (Table.lookup "server" members) server) :
      TraceForm (.object members) server
  /-- In an array, as its only item. -/
  | array {items : List Json} {server : Option String} (at_most : items.length ≤ 1)
      (names : Optionally IsText items[0]? server) : TraceForm (.array items) server

/-- The value sets what the layer sets. -/
inductive SettingsForm : Json → Layer → Prop where
  /-- Nothing is set. -/
  | null : SettingsForm .null ⟨none, none, none⟩
  /-- The settings stand in an object, under their keys. -/
  | object {members : List (String × Json)} {path : Option String}
      {libraries : Option (List String)} {trace : Option (Option String)}
      (compiler : Optionally IsText (Table.lookup "path" members) path)
      (places : Optionally IsTexts (Table.lookup "libs" members) libraries)
      (level : Optionally TraceForm (Table.lookup "trace" members) trace) :
      SettingsForm (.object members) ⟨path, libraries, trace.join⟩
  /-- They stand in an array, in order. -/
  | array {items : List Json} {path : Option String} {libraries : Option (List String)}
      {trace : Option (Option String)} (at_most : items.length ≤ 3)
      (compiler : Optionally IsText items[0]? path)
      (places : Optionally IsTexts items[1]? libraries)
      (level : Optionally TraceForm items[2]? trace) :
      SettingsForm (.array items) ⟨path, libraries, trace.join⟩

/-- The editor's value sets what the layer sets. -/
inductive EditorForm : Json → Layer → Prop where
  /-- The settings are the member with the key `perl6` of an object. -/
  | nested {members : List (String × Json)} {settings : Json} {layer : Layer}
      (found : Table.lookup "perl6" members = some settings)
      (form : SettingsForm settings layer) : EditorForm (.object members) layer
  /-- Without such a member the value itself is the settings. -/
  | bare {value : Json} {layer : Layer}
      (none_found : ∀ members, value = .object members → Table.lookup "perl6" members = none)
      (form : SettingsForm value layer) : EditorForm value layer

end Layer

/-! ### Optional fields -/

namespace Json

variable {α σ : Type} {v : Json} {given : Option Json} {s t : σ} {slots : List (Slot σ)}
  {Holds : Json → α → Prop}

/-- A string is decoded from itself alone. -/
theorem decode_string_iff {text : String} : Decoder.string v = .ok text ↔ IsText v text := by
  cases v <;> simp [Decoder.string, IsText]

/-- One after the other, strings are decoded from themselves alone. -/
theorem mapM_string_iff {items : List Json} {texts : List String} :
    items.mapM Decoder.string = .ok texts ↔ items = texts.map .string := by
  induction items generalizing texts with
  | nil => cases texts <;> simp [pure, Except.pure]
  | cons v items ih =>
    simp only [List.mapM_cons, bind_eq_ok_iff, decode_string_iff, ih, IsText]
    constructor
    · rintro ⟨text, rfl, others, rfl, hdone⟩
      cases hdone
      rfl
    · intro h
      cases texts with
      | nil => cases h
      | cons text others =>
        obtain ⟨rfl, rfl⟩ := List.cons.inj h
        exact ⟨text, rfl, others, rfl, rfl⟩

/-- A list of strings is decoded from an array of them alone. -/
theorem decode_strings_iff {texts : List String} :
    (Decoder.list Decoder.string) v = .ok texts ↔ IsTexts v texts := by
  cases v <;> simp [Decoder.list, IsTexts, mapM_string_iff]

/-- What an optional field is decoded to. -/
theorem decode_nullable_iff {d : Decoder α} (hd : ∀ a, d v = .ok a ↔ Holds v a)
    (hnull : ∀ a, ¬ Holds .null a) {a : Option α} :
    d.nullable v = .ok a ↔ Optionally Holds (some v) a := by
  by_cases hv : v = .null
  · subst hv
    constructor
    · intro h
      cases h
      exact .null
    · intro h
      cases h with
      | null => rfl
      | present holds => exact absurd holds (hnull _)
  · -- Only `null` is kept from the decoder.
    have hsome : d.nullable v = (d v).map some := by
      unfold Decoder.nullable
      split
      · exact absurd rfl hv
      · rfl
    rw [hsome]
    constructor
    · intro h
      cases hdv : d v with
      | error e =>
        rw [hdv] at h
        cases h
      | ok b =>
        rw [hdv] at h
        cases h
        exact .present ((hd b).mp hdv)
    · intro h
      cases h with
      | null => exact absurd rfl hv
      | present holds =>
        rw [(hd _).mpr holds]
        rfl

/-- An optional field is read as what it holds, and as nothing where nothing is given. -/
theorem reads_nullable {name : String} {required : Bool} {d : Decoder α}
    {put : Option α → σ → σ} (hd : ∀ v ∈ given, ∀ a, d v = .ok a ↔ Holds v a)
    (hnull : ∀ a, ¬ Holds .null a) (hput : put none s = s) :
    Reads ((Field.of name required d.nullable put, given) :: slots) s t ↔
      ∃ a, Optionally Holds given a ∧ Reads slots (put a s) t := by
  cases given with
  | none =>
    rw [reads_absent_iff]
    constructor
    · intro h
      exact ⟨none, .absent, by rwa [hput]⟩
    · rintro ⟨_, ⟨⟩, h⟩
      rwa [hput] at h
  | some v =>
    rw [reads_given_iff]
    simp only [Field.read_of_eq_ok_iff, decode_nullable_iff (hd v rfl) hnull]
    constructor
    · rintro ⟨u, ⟨a, ha, rfl⟩, h⟩
      exact ⟨a, ha, h⟩
    · rintro ⟨a, ha, h⟩
      exact ⟨_, ⟨a, ha, rfl⟩, h⟩

/-- A field that may hold a string. -/
theorem reads_text {name : String} {required : Bool} {put : Option String → σ → σ}
    (hput : put none s = s) :
    Reads ((Field.of name required (.nullable .string) put, given) :: slots) s t ↔
      ∃ text, Optionally IsText given text ∧ Reads slots (put text s) t :=
  reads_nullable (d := .string) (fun _ _ _ => decode_string_iff) (fun _ => Json.noConfusion) hput

/-- A field that may hold strings. -/
theorem reads_texts {name : String} {required : Bool} {put : Option (List String) → σ → σ}
    (hput : put none s = s) :
    Reads ((Field.of name required (.nullable (.list .string)) put, given) :: slots) s t ↔
      ∃ texts, Optionally IsTexts given texts ∧ Reads slots (put texts s) t :=
  reads_nullable (d := .list .string) (fun _ _ _ => decode_strings_iff) (fun _ => Json.noConfusion)
    hput

end Json

/-! ### The records are the forms -/

namespace Layer

open Json (Optionally IsText IsTexts Complete Field.commutes_of memberSlots itemSlots
  decode_object_iff decode_array_iff reads_nil_iff reads_nullable reads_text reads_texts)

variable {value settings : Json} {layer : Layer} {server : Option String}
  {members : List (String × Json)} {items : List Json}

theorem not_traceForm_null (server : Option String) : ¬ TraceForm .null server := nofun

/-- A record with a single field is in no way of itself. -/
theorem independent_editorTrace : editorTrace.Independent where
  names := by decide
  commute := List.pairwise_singleton _ _

/-- The three settings have places of their own. -/
theorem independent_editorRecord : editorRecord.Independent where
  names := by decide
  commute := by
    refine .cons ?_ (.cons ?_ (List.pairwise_singleton _ _))
    · rw [List.forall_mem_cons, List.forall_mem_singleton]
      exact ⟨Field.commutes_of fun _ _ _ => rfl, Field.commutes_of fun _ _ _ => rfl⟩
    · rw [List.forall_mem_singleton]
      exact Field.commutes_of fun _ _ _ => rfl

/-- No setting is needed. -/
theorem complete_of_optional {σ : Type} {slots : List (Json.Slot σ)}
    (h : ∀ slot ∈ slots, slot.1.required = false) : Complete slots := by
  intro slot hslot hrequired
  rw [h slot hslot] at hrequired
  cases hrequired

/-- What is given for the only field names the level. -/
theorem reads_trace_iff {given : Option Json} :
    Json.Reads (editorTrace.fields.zip [given]) editorTrace.initial server ↔
      Optionally IsText given server := by
  refine (reads_text ?_).trans ?_
  · rfl
  · simp [reads_nil_iff]

/-- The record of the trace level is decoded from the forms of one, as what they stand for. -/
theorem decode_trace_iff (h : value.WellFormed) :
    editorTrace.decode value = .ok server ↔ TraceForm value server := by
  cases value with
  | object members =>
    rw [decode_object_iff independent_editorTrace h.nodup_keys,
      and_iff_right (complete_of_optional (by simp [memberSlots, editorTrace, Json.Field.of]))]
    have hreads : Json.Reads (memberSlots editorTrace.fields members) editorTrace.initial server ↔
        Optionally IsText (Table.lookup "server" members) server := reads_trace_iff
    refine hreads.trans ⟨.object, ?_⟩
    intro hform
    cases hform with
    | object names => exact names
  | array items =>
    have hcomplete : Complete (itemSlots editorTrace.fields items) :=
      complete_of_optional (by simp [itemSlots, editorTrace, Json.Field.of])
    rw [decode_array_iff, and_iff_right hcomplete]
    have hreads : Json.Reads (itemSlots editorTrace.fields items) editorTrace.initial server ↔
        Optionally IsText items.head? server := reads_trace_iff
    refine (and_congr_right' hreads).trans ?_
    rw [List.head?_eq_getElem?]
    constructor
    · rintro ⟨at_most, names⟩
      exact .array at_most names
    · intro hform
      cases hform with
      | array at_most names => exact ⟨at_most, names⟩
  | _ =>
    constructor
    · intro h
      cases h
    · intro hform
      cases hform

/-- What is given for the three fields sets the three settings. -/
theorem reads_settings_iff {path libs trace : Option Json}
    (htrace : ∀ v ∈ trace, v.WellFormed) :
    Json.Reads (editorRecord.fields.zip [path, libs, trace]) editorRecord.initial layer ↔
      ∃ p, Optionally IsText path p ∧ ∃ ls, Optionally IsTexts libs ls ∧
        ∃ t, Optionally TraceForm trace t ∧ (⟨p, ls, t.join⟩ : Layer) = layer := by
  -- One slot after the other; each goal `rfl` says that the field is not set at first.
  refine (reads_text ?_).trans (exists_congr fun p => and_congr_right' ?_)
  · rfl
  refine (reads_texts ?_).trans (exists_congr fun ls => and_congr_right' ?_)
  · rfl
  refine (reads_nullable (fun v hv _ => decode_trace_iff (htrace v hv)) not_traceForm_null
    ?_).trans (exists_congr fun t => and_congr_right' ?_)
  · rfl
  exact reads_nil_iff

/-- The record of the settings is decoded from the forms of settings, as what they stand for. -/
theorem decode_settings_iff (h : value.WellFormed) (hnull : value ≠ .null) :
    editorRecord.decode value = .ok layer ↔ SettingsForm value layer := by
  cases value with
  | null => exact absurd rfl hnull
  | object members =>
    have htrace : ∀ v ∈ Table.lookup "trace" members, v.WellFormed := fun v hv =>
      h.of_mem_object (Table.mem_of_get? (t := ⟨members⟩) hv)
    have hcomplete : Complete (memberSlots editorRecord.fields members) :=
      complete_of_optional (by simp [memberSlots, editorRecord, Json.Field.of])
    rw [decode_object_iff independent_editorRecord h.nodup_keys, and_iff_right hcomplete]
    refine (reads_settings_iff htrace).trans ⟨?_, ?_⟩
    · rintro ⟨p, hp, ls, hls, t, ht, rfl⟩
      exact .object hp hls ht
    · intro hform
      cases hform with
      | object compiler places level => exact ⟨_, compiler, _, places, _, level, rfl⟩
  | array items =>
    have hcomplete : Complete (itemSlots editorRecord.fields items) :=
      complete_of_optional (by simp [itemSlots, editorRecord, Json.Field.of])
    have hslots : itemSlots editorRecord.fields items =
        editorRecord.fields.zip [items[0]?, items[1]?, items[2]?] := by
      simp [itemSlots, editorRecord, List.head?_eq_getElem?]
    have htrace : ∀ v ∈ items[2]?, v.WellFormed := fun v hv =>
      h.of_mem_array (List.mem_of_getElem? hv)
    rw [decode_array_iff, and_iff_right hcomplete, hslots]
    refine (and_congr_right' (reads_settings_iff htrace)).trans ⟨?_, ?_⟩
    · rintro ⟨at_most, p, hp, ls, hls, t, ht, rfl⟩
      exact .array at_most hp hls ht
    · intro hform
      cases hform with
      | array at_most compiler places level =>
        exact ⟨at_most, _, compiler, _, places, _, level, rfl⟩
  | _ =>
    constructor
    · intro h
      cases h
    · intro hform
      cases hform

/-! ### What the editor sends -/

/-- The part of a well-formed value that holds the settings is well formed. -/
theorem wellFormed_editorSection (h : value.WellFormed) : (editorSection value).WellFormed := by
  cases value with
  | object members =>
    unfold editorSection
    cases hfound : (Json.object members).member? sectionKey with
    | none => exact h
    | some settings => exact h.of_mem_object (Table.mem_of_get? (t := ⟨members⟩) hfound)
  | _ => exact h

/-- The settings are looked for under their key, and otherwise are the value itself. -/
theorem editorForm_iff : EditorForm value layer ↔ SettingsForm (editorSection value) layer := by
  constructor
  · intro h
    cases h with
    | nested found form =>
      rwa [editorSection, Json.member?, sectionKey, found]
    | bare none_found form =>
      cases value with
      | object members =>
        rwa [editorSection, Json.member?, sectionKey, none_found members rfl]
      | _ => exact form
  · intro h
    cases value with
    | object members =>
      cases hfound : Table.lookup "perl6" members with
      | none =>
        rw [editorSection, Json.member?, sectionKey, hfound] at h
        refine .bare ?_ h
        rintro _ ⟨⟩
        exact hfound
      | some settings =>
        rw [editorSection, Json.member?, sectionKey, hfound] at h
        exact .nested hfound h
    | _ => exact .bare nofun h

/-- A value is taken for settings exactly if it has their form. -/
theorem ofEditor_eq_ok_iff (h : value.WellFormed) :
    ofEditor value = .ok layer ↔ EditorForm value layer := by
  rw [editorForm_iff, ofEditor]
  by_cases hnull : editorSection value = .null
  · rw [hnull]
    constructor
    · rintro ⟨⟩
      exact .null
    · rintro ⟨⟩
      rfl
  · rw [if_neg (mt Json.isNull_iff.mp hnull)]
    exact decode_settings_iff (wellFormed_editorSection h) hnull

/-- **The settings that are taken are those of the grammar.** Take any value in which every object
    holds each key once, as in every value that is read from a text.  It is taken as a layer exactly
    if it has the form of one, and then as the layer that this form stands for.  Otherwise it is
    refused, whatever the layers below are, and the user can be told that it is no settings and
    why. -/
theorem ofEditor_iff_form :
    (∀ value : Json, value.WellFormed →
      (∀ layer, ofEditor value = .ok layer ↔ EditorForm value layer) ∧
      ((∀ layer, ¬ EditorForm value layer) → ∃ e, ofEditor value = .error e ∧
        ∀ base, Server.settingsFor base value =
          .error ("invalid editor settings: " ++ e.message))) ∧
    ∀ bytes value, Json.parse bytes = .ok value → value.WellFormed := by
  refine ⟨fun value h => ⟨fun layer => ofEditor_eq_ok_iff h, fun hnone => ?_⟩,
    fun bytes value => Json.wellFormed_of_parse⟩
  cases hvalue : ofEditor value with
  | ok layer => exact absurd ((ofEditor_eq_ok_iff h).mp hvalue) (hnone layer)
  | error e =>
    refine ⟨e, rfl, fun base => ?_⟩
    rw [Server.settingsFor, hvalue]
    rfl

/-- Settings given as an array. -/
def listedSettings : Json :=
  .array [.string "p6", .null, .object [("server", .string "verbose")]]

/-- An array within an object that is read from a text, and one that is too long. -/
theorem ofEditor_iff_form_listed :
    ofEditor (.object [("perl6", listedSettings)]) = .ok ⟨some "p6", none, some "verbose"⟩ ∧
    ∃ e, ofEditor (.array [.null, .null, .null, .null]) = .error e := by
  have htaken : Json.parse (Utf8.ofString
      "\x7b\"perl6\":[\"p6\",null,\x7b\"server\":\"verbose\"\x7d]\x7d") =
        .ok (.object [("perl6", listedSettings)]) := by rfl
  have hrefused : Json.parse (Utf8.ofString "[null,null,null,null]") =
      .ok (.array [.null, .null, .null, .null]) := by rfl
  have hlevel : Optionally TraceForm (some (.object [("server", .string "verbose")]))
      (some (some "verbose")) := .present (.object (.present rfl))
  have hsettings : SettingsForm listedSettings
      ⟨some "p6", none, (some (some "verbose")).join⟩ :=
    .array (by decide) (.present rfl) .null hlevel
  have hform : EditorForm (.object [("perl6", listedSettings)])
      ⟨some "p6", none, some "verbose"⟩ := .nested rfl hsettings
  have hnone : ∀ layer, ¬ EditorForm (.array [.null, .null, .null, .null]) layer := by
    rintro layer (_ | ⟨_, form⟩)
    cases form with
    | array at_most => exact absurd at_most (by decide)
  obtain ⟨e, he, _⟩ := (ofEditor_iff_form.1 _ (ofEditor_iff_form.2 _ _ hrefused)).2 hnone
  exact ⟨((ofEditor_iff_form.1 _ (ofEditor_iff_form.2 _ _ htaken)).1 _).mpr hform, e, he⟩

end Layer

end DiagnosticBridge
