import DiagnosticBridge.Text.Utf8

namespace DiagnosticBridge

/-!
# Tables keyed by strings

A table holds at most one value per key and lists its entries by the bytes of their keys.

* `get?_insert`, `get?_erase` — what the operations do to the view `get?`;
* `sorted_insert`, `sorted_erase` — they keep the entries in strictly increasing order, so that a
  table built from the empty one by insertions and removals lists every key once, in order;
* `sorted_ofList`, `mem_of_mem_ofList` — a table made of any entries;
* `mem_of_get?`, `mem_toList_iff`, `get?_eq_none_iff` — what is found at a key is what the table
  lists.
-/

/-- A table: entries in the order of their keys. -/
structure Table (α : Type) where
  /-- The entries, by the bytes of their keys. -/
  entries : List (String × α)
  deriving DecidableEq, Repr

namespace Table

variable {α : Type}

/-- The table without entries. -/
def empty : Table α := ⟨[]⟩

instance : Inhabited (Table α) := ⟨empty⟩

/-- The value of the first entry with this key. -/
def lookup (key : String) : List (String × α) → Option α
  | [] => none
  | (k, v) :: rest => if k = key then some v else lookup key rest

/-- Puts an entry in its place, over an entry with the same key. -/
def place (key : String) (value : α) : List (String × α) → List (String × α)
  | [] => [(key, value)]
  | (k, v) :: rest =>
    if k = key then (key, value) :: rest
    else if Utf8.before key k then (key, value) :: (k, v) :: rest
    else (k, v) :: place key value rest

/-- The value at a key. -/
def get? (t : Table α) (key : String) : Option α := lookup key t.entries

/-- The table with this value at this key, and all else unchanged. -/
def insert (t : Table α) (key : String) (value : α) : Table α := ⟨place key value t.entries⟩

/-- The table without an entry at this key. -/
def erase (t : Table α) (key : String) : Table α := ⟨t.entries.filter (·.1 != key)⟩

/-- The table of these entries; of two with the same key the later one stays. -/
def ofList (entries : List (String × α)) : Table α :=
  entries.foldl (fun t e => t.insert e.1 e.2) empty

/-- The entries in order. -/
def toList (t : Table α) : List (String × α) := t.entries

/-- The keys in order. -/
def keys (t : Table α) : List String := t.entries.map (·.1)

/-- How many entries there are. -/
def size (t : Table α) : Nat := t.entries.length

/-- Entries whose keys strictly increase by their bytes. -/
def Sorted (entries : List (String × α)) : Prop :=
  entries.Pairwise fun a b => Utf8.before a.1 b.1 = true

/-- The empty table holds nothing. -/
@[simp] theorem get?_empty (key : String) : (empty : Table α).get? key = none := rfl

/-- What is placed is found under its key, and the others as before. -/
theorem lookup_place (key : String) (value : α) (entries : List (String × α)) (k : String) :
    lookup k (place key value entries) = if k = key then some value else lookup k entries := by
  induction entries with
  | nil =>
    by_cases h : k = key
    · simp [place, lookup, h]
    · simp [place, lookup, h, Ne.symm h]
  | cons e rest ih =>
    obtain ⟨k', v'⟩ := e
    by_cases hk : k = key
    · subst hk
      by_cases h1 : k' = k
      · simp [place, lookup, h1]
      · by_cases h2 : Utf8.before k k' = true
        · simp [place, lookup, h1, h2]
        · simpa [place, lookup, h1, h2] using ih
    · by_cases h1 : k' = key
      · subst h1
        simp [place, lookup, hk, Ne.symm hk]
      · by_cases h2 : Utf8.before key k' = true
        · simp [place, lookup, h1, h2, hk, Ne.symm hk]
        · simp [place, lookup, h1, h2, hk, ih]

/-- What is inserted is found under its key, and the others as before. -/
theorem get?_insert (t : Table α) (key : String) (value : α) (k : String) :
    (t.insert key value).get? k = if k = key then some value else t.get? k :=
  lookup_place key value t.entries k

/-- Without the entries of a key all others are found. -/
theorem lookup_filter_ne (key : String) (entries : List (String × α)) (k : String) :
    lookup k (entries.filter (·.1 != key)) = if k = key then none else lookup k entries := by
  induction entries with
  | nil => simp [lookup]
  | cons e rest ih =>
    obtain ⟨k', v'⟩ := e
    by_cases h : k' = key
    · subst h
      simp only [List.filter_cons, bne_self_eq_false, Bool.false_eq_true, if_false, ih, lookup]
      by_cases hk : k = k'
      · simp [hk]
      · simp [hk, Ne.symm hk]
    · simp only [List.filter_cons, bne_iff_ne, ne_eq, h, not_false_eq_true, if_true, lookup, ih]
      by_cases hk : k = key
      · subst hk; simp [h]
      · simp [hk]

/-- What is erased is gone, and the others are found as before. -/
theorem get?_erase (t : Table α) (key k : String) :
    (t.erase key).get? k = if k = key then none else t.get? k :=
  lookup_filter_ne key t.entries k

/-- Erasing keeps the order. -/
theorem sorted_erase {t : Table α} (h : Sorted t.entries) (key : String) :
    Sorted (t.erase key).entries :=
  List.Pairwise.filter _ h

end Table

namespace Utf8

/-- The order of strings is transitive. -/
theorem before_trans {a b c : String} (hab : before a b = true) (hbc : before b c = true) :
    before a c = true := by
  simp only [before, decide_eq_true_eq] at *
  exact List.lt_trans hab hbc

/-- Strings with the same bytes are the same. -/
theorem ofString_injective {a b : String} (h : ofString a = ofString b) : a = b := by
  have : ∀ s : String, s.toByteArray = (ofString s).toByteArray := by
    intro s
    conv => lhs; rw [← String.ofList_toList (s := s)]
    rfl
  rw [← String.toByteArray_inj, this a, this b, h]

/-- Of two different strings one is before the other. -/
theorem before_of_not_before {a b : String} (hne : a ≠ b) (h : before a b = false) :
    before b a = true := by
  simp only [before, decide_eq_false_iff_not, decide_eq_true_eq] at *
  rw [List.not_lt] at h
  rcases List.le_iff_lt_or_eq.mp h with hlt | heq
  · exact hlt
  · exact absurd (ofString_injective heq).symm hne

end Utf8

namespace Table

variable {α : Type}

/-- After placing there is nothing new but the entry. -/
theorem mem_place {key : String} {value : α} {entries : List (String × α)} {e : String × α}
    (h : e ∈ place key value entries) : e = (key, value) ∨ e ∈ entries := by
  induction entries with
  | nil => exact Or.inl (by simpa [place] using h)
  | cons x rest ih =>
    obtain ⟨k, v⟩ := x
    unfold place at h
    split at h
    · rcases List.mem_cons.mp h with h | h
      · exact Or.inl h
      · exact Or.inr (List.mem_cons_of_mem _ h)
    · split at h
      · rcases List.mem_cons.mp h with h | h
        · exact Or.inl h
        · exact Or.inr h
      · rcases List.mem_cons.mp h with h | h
        · exact Or.inr (h ▸ List.mem_cons_self)
        · exact (ih h).imp_right (List.mem_cons_of_mem _)

/-- An entry is placed where it belongs. -/
theorem sorted_place {entries : List (String × α)} (h : Sorted entries) (key : String)
    (value : α) : Sorted (place key value entries) := by
  induction entries with
  | nil => simp [place, Sorted]
  | cons x rest ih =>
    obtain ⟨k, v⟩ := x
    obtain ⟨hhead, hrest⟩ := List.pairwise_cons.mp h
    unfold place
    split
    · next heq => subst heq; exact List.pairwise_cons.mpr ⟨hhead, hrest⟩
    · next hne =>
      split
      · next hb =>
        refine List.pairwise_cons.mpr ⟨fun e he => ?_, h⟩
        rcases List.mem_cons.mp he with rfl | he
        · exact hb
        · exact Utf8.before_trans hb (hhead e he)
      · next hb =>
        refine List.pairwise_cons.mpr ⟨fun e he => ?_, ih hrest⟩
        rcases mem_place he with rfl | he
        · exact Utf8.before_of_not_before (Ne.symm hne) (by simpa using hb)
        · exact hhead e he

/-- Inserting keeps the order. -/
theorem sorted_insert {t : Table α} (h : Sorted t.entries) (key : String) (value : α) :
    Sorted (t.insert key value).entries :=
  sorted_place h key value

/-- A table made of any entries is in order, and all that it lists is among them. -/
theorem sorted_ofList (entries : List (String × α)) : Sorted (ofList entries).entries := by
  rw [ofList]
  suffices h : ∀ t : Table α, Sorted t.entries →
      Sorted (entries.foldl (fun t e => t.insert e.1 e.2) t).entries from h empty List.Pairwise.nil
  induction entries with
  | nil => exact fun t ht => ht
  | cons e entries ih => exact fun t ht => ih (t.insert e.1 e.2) (sorted_insert ht e.1 e.2)

/-- A table made of a list holds entries of the list only. -/
theorem mem_of_mem_ofList {entries : List (String × α)} {e : String × α}
    (h : e ∈ (ofList entries).toList) : e ∈ entries := by
  rw [ofList] at h
  suffices hfold : ∀ t : Table α, e ∈ (entries.foldl (fun t e => t.insert e.1 e.2) t).toList →
      e ∈ t.toList ∨ e ∈ entries from (hfold empty h).resolve_left List.not_mem_nil
  clear h
  induction entries with
  | nil => exact fun t ht => Or.inl ht
  | cons first entries ih =>
    intro t ht
    rcases ih (t.insert first.1 first.2) ht with hinsert | hmore
    · rcases mem_place hinsert with rfl | hold
      · exact Or.inr List.mem_cons_self
      · exact Or.inl hold
    · exact Or.inr (List.mem_cons_of_mem _ hmore)

/-- What is found at a key is an entry of the table. -/
theorem mem_of_get? {t : Table α} {key : String} {value : α} (h : t.get? key = some value) :
    (key, value) ∈ t.toList := by
  have hlookup : ∀ entries : List (String × α), lookup key entries = some value →
      (key, value) ∈ entries := by
    intro entries
    induction entries with
    | nil => intro hl; simp [lookup] at hl
    | cons x rest ih =>
      intro hl
      unfold lookup at hl
      split at hl
      · next heq => rw [← heq, ← Option.some.inj hl]; exact List.mem_cons_self
      · exact List.mem_cons_of_mem _ (ih hl)
  exact hlookup t.entries h

/-- Nothing is found under a string that is no key. -/
theorem get?_eq_none_iff {t : Table α} {key : String} : t.get? key = none ↔ key ∉ t.keys := by
  have hlookup : ∀ entries : List (String × α),
      lookup key entries = none ↔ key ∉ entries.map (·.1) := by
    intro entries
    induction entries with
    | nil => simp [lookup]
    | cons x rest ih =>
      unfold lookup
      rw [List.map_cons, List.mem_cons, not_or, ← ih]
      split
      · next heq => simp [heq]
      · next hne => simp [Ne.symm hne]
  exact hlookup t.entries

/-- A table in order lists just what is found in it. -/
theorem mem_toList_iff {t : Table α} (h : Sorted t.entries) {key : String} {value : α} :
    (key, value) ∈ t.toList ↔ t.get? key = some value := by
  have hlookup : ∀ entries : List (String × α), Sorted entries → (key, value) ∈ entries →
      lookup key entries = some value := by
    intro entries
    induction entries with
    | nil => exact fun _ hmem => absurd hmem List.not_mem_nil
    | cons x rest ih =>
      intro hsorted hmem
      obtain ⟨hhead, hrest⟩ := List.pairwise_cons.mp hsorted
      rcases List.mem_cons.mp hmem with rfl | hmem
      · exact if_pos rfl
      · -- The first entry comes before this one, so that it has another key.
        have hne : x.1 ≠ key := by
          rintro rfl
          have hbefore := hhead _ hmem
          rw [Utf8.before, decide_eq_true_eq] at hbefore
          exact List.lt_irrefl _ hbefore
        exact (if_neg hne).trans (ih hrest hmem)
  exact ⟨hlookup t.entries h, mem_of_get?⟩

/-- A table in order lists every key once. -/
theorem nodup_keys {t : Table α} (h : Sorted t.entries) : t.keys.Nodup := by
  refine List.pairwise_map.mpr (h.imp ?_)
  intro a b hab heq
  rw [heq, Utf8.before, decide_eq_true_eq] at hab
  exact absurd hab (List.lt_irrefl _)

end Table

end DiagnosticBridge
