import DiagnosticBridge.Json.Decode

namespace DiagnosticBridge.Json

/-!
# The two forms of a record

A record is given as an object or as an array.  The items of an array are decoded in the order of
the fields, the members of an object in the order of their keys, and a member may be missing
anywhere.  Both come to the same if every key stands once and no field is in the way of another:
each field has a slot with the value that is given for it, or with none, and the slots are read in
the order of the fields.

* `Reads` — what comes of reading slots in order;
* `reads_cons_append_iff` — a slot may as well be read after slots that it commutes with;
* `readMembers_eq_ok_iff` — hence members in any order are read as slots;
* `decode_object_iff`, `decode_array_iff` — what the two forms decode to.
-/

variable {σ α β : Type} {s t u : σ} {v : Json} {key : String}
  {field other : Field σ} {fields : List (Field σ)} {members : List (String × Json)}
  {items : List Json}

/-- A decoder goes on only after a success. -/
theorem bind_eq_ok_iff {x : Except DecodeError α} {f : α → Except DecodeError β} {b : β} :
    (x >>= f) = .ok b ↔ ∃ a, x = .ok a ∧ f a = .ok b := by
  cases x <;> simp [bind, Except.bind]

/-! ### Slots -/

/-- A field, and the value that is given for it if there is one. -/
abbrev Slot (σ : Type) := Field σ × Option Json

variable {slots more : List (Slot σ)}

/-- Reading the slots in order leads from one state of the record to another. -/
inductive Reads : List (Slot σ) → σ → σ → Prop where
  /-- There is nothing to read. -/
  | done {s : σ} : Reads [] s s
  /-- A field for which nothing is given leaves the record as it is. -/
  | absent {field : Field σ} {slots : List (Slot σ)} {s t : σ} (more : Reads slots s t) :
      Reads ((field, none) :: slots) s t
  /-- A value is read into the record. -/
  | given {field : Field σ} {v : Json} {slots : List (Slot σ)} {s t u : σ}
      (read : field.read v s = .ok u) (more : Reads slots u t) :
      Reads ((field, some v) :: slots) s t

/-- Nothing that the record needs is missing. -/
def Complete (slots : List (Slot σ)) : Prop :=
  ∀ slot ∈ slots, slot.1.required = true → slot.2.isSome = true

theorem reads_nil_iff : Reads [] s t ↔ s = t := by
  constructor
  · rintro ⟨⟩
    rfl
  · rintro rfl
    exact .done

/-- An empty slot is passed over. -/
theorem reads_absent_iff : Reads ((field, none) :: slots) s t ↔ Reads slots s t := by
  constructor
  · rintro ⟨⟩
    assumption
  · exact .absent

/-- A value is read before the slots that follow. -/
theorem reads_given_iff :
    Reads ((field, some v) :: slots) s t ↔ ∃ u, field.read v s = .ok u ∧ Reads slots u t := by
  constructor
  · intro h
    cases h with
    | given read more => exact ⟨_, read, more⟩
  · rintro ⟨u, read, more⟩
    exact .given read more

theorem complete_nil : Complete ([] : List (Slot σ)) := fun _ h => absurd h List.not_mem_nil

/-- A slot may be empty if its field is not required. -/
theorem complete_absent_iff :
    Complete ((field, none) :: slots) ↔ field.required = false ∧ Complete slots := by
  simp [Complete]

/-- A slot with a value is never in the way. -/
theorem complete_given_iff : Complete ((field, some v) :: slots) ↔ Complete slots := by
  simp [Complete]

/-- Where nothing is given nothing is read. -/
theorem reads_of_absent (h : ∀ slot ∈ slots, slot.2 = none) : Reads slots s t ↔ s = t := by
  induction slots with
  | nil => exact reads_nil_iff
  | cons slot slots ih =>
    obtain ⟨field, given⟩ := slot
    rw [List.forall_mem_cons] at h
    obtain ⟨rfl, hmore⟩ := h
    rw [reads_absent_iff]
    exact ih hmore

/-- An empty slot may as well not be there. -/
theorem reads_append_absent_iff :
    Reads (slots ++ (field, none) :: more) s t ↔ Reads (slots ++ more) s t := by
  induction slots generalizing s with
  | nil => exact reads_absent_iff
  | cons slot slots ih =>
    obtain ⟨first, _ | v⟩ := slot
    · simp only [List.cons_append, reads_absent_iff, ih]
    · simp only [List.cons_append, reads_given_iff, ih]

/-! ### Fields that do not interfere -/

/-- It does not matter which of the two fields is read first. -/
def Field.Commutes (field other : Field σ) : Prop :=
  ∀ v w s t, (∃ u, field.read v s = .ok u ∧ other.read w u = .ok t) ↔
    ∃ u, other.read w s = .ok u ∧ field.read v u = .ok t

/-- A field is read by decoding its value and storing it. -/
theorem Field.read_of_eq_ok_iff {name : String} {required : Bool} {d : Decoder α}
    {put : α → σ → σ} :
    (Field.of name required d put).read v s = .ok t ↔ ∃ a, d v = .ok a ∧ put a s = t := by
  cases h : d v <;> simp [Field.of, h, Except.map]

/-- Fields that are stored in different places do not interfere. -/
theorem Field.commutes_of {name name' : String} {required required' : Bool} {d : Decoder α}
    {d' : Decoder β} {put : α → σ → σ} {put' : β → σ → σ}
    (h : ∀ a b s, put' b (put a s) = put a (put' b s)) :
    (Field.of name required d put).Commutes (Field.of name' required' d' put') := by
  intro v w s t
  simp only [Field.read_of_eq_ok_iff]
  constructor
  · rintro ⟨_, ⟨a, ha, rfl⟩, b, hb, rfl⟩
    exact ⟨_, ⟨b, hb, rfl⟩, a, ha, (h a b s).symm⟩
  · rintro ⟨_, ⟨b, hb, rfl⟩, a, ha, rfl⟩
    exact ⟨_, ⟨a, ha, rfl⟩, b, hb, h a b s⟩

/-- A slot may as well be read after others, if its field commutes with theirs. -/
theorem reads_cons_append_iff (h : ∀ slot ∈ slots, slot.1.Commutes field) :
    Reads ((field, some v) :: (slots ++ more)) s t ↔
      Reads (slots ++ (field, some v) :: more) s t := by
  induction slots generalizing s with
  | nil => rw [List.nil_append, List.nil_append]
  | cons slot slots ih =>
    obtain ⟨first, _ | w⟩ := slot
    · rw [List.forall_mem_cons] at h
      rw [List.cons_append, List.cons_append, reads_absent_iff, ← ih h.2]
      simp only [reads_given_iff, reads_absent_iff]
    · rw [List.forall_mem_cons] at h
      -- The two fields in front change places; the induction moves the slot past the others.
      have hswap : Reads ((field, some v) :: (first, some w) :: (slots ++ more)) s t ↔
          Reads ((first, some w) :: (field, some v) :: (slots ++ more)) s t := by
        simp only [reads_given_iff]
        constructor
        · rintro ⟨u, hu, u', hu', hmore⟩
          obtain ⟨w', hw', hv'⟩ := (h.1 w v s u').mpr ⟨u, hu, hu'⟩
          exact ⟨w', hw', u', hv', hmore⟩
        · rintro ⟨u, hu, u', hu', hmore⟩
          obtain ⟨w', hw', hv'⟩ := (h.1 w v s u').mp ⟨u, hu, hu'⟩
          exact ⟨w', hw', u', hv', hmore⟩
      rw [List.cons_append, List.cons_append, hswap, reads_given_iff, reads_given_iff]
      simp only [ih h.2]

/-! ### Objects -/

/-- The fields of a record have different names and do not interfere with each other. -/
structure RecordShape.Independent (shape : RecordShape σ) : Prop where
  /-- No name stands twice. -/
  names : (shape.fields.map Field.name).Nodup
  /-- The order of the fields does not matter. -/
  commute : shape.fields.Pairwise Field.Commutes

/-- The slots of the fields in an object. -/
def memberSlots (fields : List (Field σ)) (members : List (String × Json)) : List (Slot σ) :=
  fields.map fun field => (field, Table.lookup field.name members)

/-- In an object without members all slots are empty. -/
theorem memberSlots_nil : ∀ slot ∈ memberSlots fields [], slot.2 = none := by
  intro slot hslot
  obtain ⟨field, _, rfl⟩ := List.mem_map.mp hslot
  rfl

/-- A member fills no slot of another field. -/
theorem memberSlots_cons (h : ∀ field ∈ fields, field.name ≠ key) :
    memberSlots fields ((key, v) :: members) = memberSlots fields members := by
  refine List.map_congr_left fun field hfield => ?_
  rw [Table.lookup, if_neg (h field hfield).symm]

/-- A member with the key of a field is read by that field. -/
theorem readMembers_of_field (h : fields.find? (·.name == key) = some field) :
    RecordShape.readMembers fields s ((key, v) :: members) = .ok t ↔
      ∃ u, field.read v s = .ok u ∧ RecordShape.readMembers fields u members = .ok t := by
  simp only [RecordShape.readMembers, h]
  exact bind_eq_ok_iff

/-- A member with another key is passed over. -/
theorem readMembers_of_no_field (h : fields.find? (·.name == key) = none) :
    RecordShape.readMembers fields s ((key, v) :: members) =
      RecordShape.readMembers fields s members := by
  simp only [RecordShape.readMembers, h]
  rfl

/-- A member with the key of a field is read into the field's slot. -/
theorem memberSlots_of_field {before after : List (Field σ)}
    (hbefore : ∀ f ∈ before, f.name ≠ field.name) (hafter : ∀ f ∈ after, f.name ≠ field.name) :
    memberSlots (before ++ field :: after) ((field.name, v) :: members) =
      memberSlots before members ++ (field, some v) :: memberSlots after members := by
  rw [← memberSlots_cons hbefore, ← memberSlots_cons hafter, memberSlots, List.map_append,
    List.map_cons, Table.lookup, if_pos rfl]
  rfl

/-- Without such a member the slot is empty. -/
theorem memberSlots_of_no_member {before after : List (Field σ)}
    (h : field.name ∉ members.map (·.1)) :
    memberSlots (before ++ field :: after) members =
      memberSlots before members ++ (field, none) :: memberSlots after members := by
  have hnone : Table.lookup field.name members = none :=
    (Table.get?_eq_none_iff (t := ⟨members⟩)).mpr h
  rw [memberSlots, List.map_append, List.map_cons, hnone]
  rfl

/-- Members with different keys are read as the slots of the fields, whatever their order. -/
theorem readMembers_eq_ok_iff (hnames : (fields.map Field.name).Nodup)
    (hcommute : fields.Pairwise Field.Commutes) (honce : (members.map (·.1)).Nodup) :
    RecordShape.readMembers fields s members = .ok t ↔ Reads (memberSlots fields members) s t := by
  induction members generalizing s with
  | nil => rw [reads_of_absent memberSlots_nil, RecordShape.readMembers, Except.ok.injEq]
  | cons m members ih =>
    obtain ⟨key, v⟩ := m
    rw [List.map_cons, List.nodup_cons] at honce
    cases hfind : fields.find? (·.name == key) with
    | none =>
      have hother : ∀ field ∈ fields, field.name ≠ key := by
        simpa using List.find?_eq_none.mp hfind
      rw [readMembers_of_no_field hfind, memberSlots_cons hother]
      exact ih honce.2
    | some field =>
      obtain ⟨hname, before, after, rfl, hbefore⟩ := List.find?_eq_some_iff_append.mp hfind
      obtain rfl : field.name = key := by simpa using hname
      have hbefore' : ∀ f ∈ before, f.name ≠ field.name := by simpa using hbefore
      have hafter : ∀ f ∈ after, f.name ≠ field.name := by
        rw [List.map_append, List.map_cons, List.nodup_append, List.nodup_cons] at hnames
        rintro f hf heq
        exact hnames.2.1.1 (heq ▸ List.mem_map_of_mem hf)
      have hcommutes : ∀ slot ∈ memberSlots before members, slot.1.Commutes field := by
        intro slot hslot
        obtain ⟨f, hf, rfl⟩ := List.mem_map.mp hslot
        exact (List.pairwise_append.mp hcommute).2.2 f hf field List.mem_cons_self
      -- The value is read first here, and in its turn among the slots.
      rw [readMembers_of_field hfind, memberSlots_of_field hbefore' hafter,
        ← reads_cons_append_iff hcommutes, reads_given_iff]
      simp only [ih honce.2, memberSlots_of_no_member honce.1, reads_append_absent_iff]

/-- **A record given as an object.** -/
theorem decode_object_iff {shape : RecordShape σ} (h : shape.Independent)
    (honce : (members.map (·.1)).Nodup) :
    shape.decode (.object members) = .ok t ↔
      Complete (memberSlots shape.fields members) ∧
        Reads (memberSlots shape.fields members) shape.initial t := by
  have hcomplete : (shape.fields.find? fun f =>
      f.required && (Table.lookup f.name members).isNone) = none ↔
        Complete (memberSlots shape.fields members) := by
    simp [Complete, memberSlots, Option.isSome_iff_ne_none]
  rw [← readMembers_eq_ok_iff h.names h.commute honce, ← hcomplete, RecordShape.decode,
    bind_eq_ok_iff]
  cases shape.fields.find? fun f => f.required && (Table.lookup f.name members).isNone with
  | none => simp
  | some field => simp

/-! ### Arrays -/

/-- The slots of the fields in an array. -/
def itemSlots : List (Field σ) → List Json → List (Slot σ)
  | [], _ => []
  | field :: fields, items => (field, items.head?) :: itemSlots fields items.tail

/-- Items are read as the slots of the fields, if there are not too many of them. -/
theorem readItems_eq_ok_iff {shape : RecordShape σ} {length index : Nat} :
    shape.readItems length index s fields items = .ok t ↔ items.length ≤ fields.length ∧
      Complete (itemSlots fields items) ∧ Reads (itemSlots fields items) s t := by
  induction fields generalizing s items index with
  | nil =>
    cases items with
    | nil => simp [RecordShape.readItems, itemSlots, complete_nil, reads_nil_iff]
    | cons v items => simp [RecordShape.readItems]
  | cons field fields ih =>
    cases items with
    | nil =>
      rw [RecordShape.readItems, itemSlots, List.head?_nil, List.tail_nil, complete_absent_iff,
        reads_absent_iff]
      cases hrequired : field.required with
      | true => simp
      | false => simpa using @ih s [] (index + 1)
    | cons v items =>
      rw [RecordShape.readItems, bind_eq_ok_iff, itemSlots, List.head?_cons, List.tail_cons,
        complete_given_iff, reads_given_iff]
      simp only [ih, List.length_cons, Nat.add_le_add_iff_right]
      constructor
      · rintro ⟨u, hread, hlength, hcomplete, hmore⟩
        exact ⟨hlength, hcomplete, u, hread, hmore⟩
      · rintro ⟨hlength, hcomplete, u, hread, hmore⟩
        exact ⟨u, hread, hlength, hcomplete, hmore⟩

/-- **A record given as an array.** -/
theorem decode_array_iff {shape : RecordShape σ} :
    shape.decode (.array items) = .ok t ↔ items.length ≤ shape.fields.length ∧
      Complete (itemSlots shape.fields items) ∧
        Reads (itemSlots shape.fields items) shape.initial t :=
  readItems_eq_ok_iff

end DiagnosticBridge.Json
