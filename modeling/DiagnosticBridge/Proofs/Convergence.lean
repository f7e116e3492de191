import DiagnosticBridge.Documents
import Mathlib.Data.List.Induction
import Mathlib.Data.List.Nodup

namespace DiagnosticBridge.Documents

/-!
# Changes in any order

Changes may arrive in another order than they were made in.  Each of them brings a whole text, and
one that is older than what is stored is not applied.  So it does not matter for a document in
which order its changes come, and what happens to other documents does not matter at all.

* `get?_perform`, `get?_foldl` — what is stored for a document is decided by the acts about it;
* `Newest` — the greatest of the versions that were brought, and the last of equal ones;
* `newest_of_changes` — an open document that is only changed is kept at its newest version;
* `Newest.eq_of_perm` — which does not depend on the order of the changes;
* `exists_opening` — every document that is stored has been opened and only changed since;
* `changes_converge` — so the documents converge.
-/

/-- What is done to the documents. -/
inductive Act where
  /-- A document is opened, or opened again. -/
  | opens (uri : String) (version : Int) (text : String)
  /-- A document is changed. -/
  | changes (uri : String) (version : Int) (text : String)
  /-- A document is closed. -/
  | closes (uri : String)
  deriving DecidableEq, Repr

namespace Act

/-- The document that the act is about. -/
def uri : Act → String
  | opens uri .. => uri
  | changes uri .. => uri
  | closes uri => uri

/-- Whether the act is a change. -/
def isChange : Act → Bool
  | changes .. => true
  | _ => false

/-- The version that the act brings, if it brings one. -/
def document? : Act → Option Document
  | opens _ version text => some ⟨version, text⟩
  | changes _ version text => some ⟨version, text⟩
  | closes _ => none

/-- What is stored for the document after the act, given what was stored before. -/
def result : Act → Option Document → Option Document
  | opens _ version text, _ => some ⟨version, text⟩
  | changes _ version text, none => some ⟨version, text⟩
  | changes _ version text, some doc =>
    if version < doc.version then some doc else some ⟨version, text⟩
  | closes _, _ => none

end Act

/-- The documents after an act; a stale change leaves them as they are. -/
def perform (docs : Documents) : Act → Documents
  | .opens uri version text => docs.opened uri version text
  | .changes uri version text => (docs.changed? uri version text).getD docs
  | .closes uri => docs.closed uri

/-- The documents after some acts, when none was open before. -/
def after (past : List Act) : Documents := past.foldl perform .empty

/-- The acts that are about a document. -/
def about (uri : String) (acts : List Act) : List Act := acts.filter (·.uri == uri)

/-- The act opens its document, with this version: it says so, or it is a change of a document that
    is not open. -/
inductive Act.Opens (docs : Documents) : Act → Document → Prop where
  | opened (uri : String) (version : Int) (text : String) :
      Opens docs (.opens uri version text) ⟨version, text⟩
  | changed (uri : String) (version : Int) (text : String) (closed : docs.get? uri = none) :
      Opens docs (.changes uri version text) ⟨version, text⟩

/-- The newest of the versions that were brought: none is greater, and none that came later is as
    great. -/
def Newest (brought : List Document) (d : Document) : Prop :=
  ∃ earlier later, brought = earlier ++ d :: later ∧
    (∀ e ∈ earlier, e.version ≤ d.version) ∧ ∀ e ∈ later, e.version < d.version

variable {docs : Documents} {a : Act} {acts past : List Act} {uri : String} {d e e' : Document}
  {brought brought' : List Document}

/-! ### One document at a time -/

/-- **What one act does.** It only concerns its own document, and what is stored for that
    afterwards is decided by what was stored for it before. -/
theorem get?_perform (docs : Documents) (a : Act) (uri : String) :
    (docs.perform a).get? uri =
      if a.uri = uri then a.result (docs.get? uri) else docs.get? uri := by
  have hinsert : ∀ (u : String) (doc : Document), Table.get? (docs.insert u doc) uri =
      if u = uri then some doc else docs.get? uri := by
    intro u doc
    rw [Table.get?_insert]
    simp only [eq_comm]
  cases a with
  | opens u version text => exact hinsert u ⟨version, text⟩
  | changes u version text =>
    show ((docs.changed? u version text).getD docs).get? uri = _
    unfold changed?
    by_cases hstale : docs.isStale u version = true
    · -- The change is not applied, and that is what comes of it for its own document.
      obtain ⟨doc, hdoc, hlt⟩ := isStale_iff.mp hstale
      rw [if_pos hstale, Option.getD_none]
      split
      · next heq =>
        have hu : u = uri := heq
        rw [← hu, hdoc]
        simp [Act.result, hlt]
      · rfl
    · rw [if_neg hstale, Option.getD_some]
      refine (hinsert u ⟨version, text⟩).trans ?_
      by_cases hu : u = uri
      · subst hu
        have hfresh : ∀ doc, docs.get? u = some doc → ¬ version < doc.version :=
          fun doc hdoc hlt => hstale (isStale_iff.mpr ⟨doc, hdoc, hlt⟩)
        cases hdoc : docs.get? u with
        | none => simp [Act.uri, Act.result]
        | some doc => simp [Act.uri, Act.result, hfresh doc hdoc]
      · simp [Act.uri, hu]
  | closes u =>
    show Table.get? (docs.erase u) uri = _
    rw [Table.get?_erase]
    simp only [Act.uri, Act.result, eq_comm]

/-- **Other documents do not matter.** What is stored for a document after some acts is what comes
    of those that are about it. -/
theorem get?_foldl (docs : Documents) (acts : List Act) (uri : String) :
    (acts.foldl perform docs).get? uri =
      (about uri acts).foldl (fun stored a => a.result stored) (docs.get? uri) := by
  induction acts generalizing docs with
  | nil => rfl
  | cons a acts ih =>
    rw [List.foldl_cons, ih, get?_perform]
    by_cases h : a.uri = uri
    · simp [about, h]
    · simp [about, h]

theorem after_append (past later : List Act) :
    after (past ++ later) = later.foldl perform (after past) :=
  List.foldl_append

/-- An act decides about its own document, and leaves the others as they were. -/
theorem get?_after_concat (past : List Act) (a : Act) (uri : String) :
    (after (past ++ [a])).get? uri =
      if a.uri = uri then a.result ((after past).get? uri) else (after past).get? uri := by
  rw [after_append]
  exact get?_perform (after past) a uri

/-- An act that opens a document stores what it brings. -/
theorem Act.Opens.get?_perform (h : a.Opens docs d) : (docs.perform a).get? a.uri = some d := by
  rw [Documents.get?_perform, if_pos rfl]
  cases h with
  | opened => rfl
  | changed uri version text closed =>
    show Act.result _ (docs.get? uri) = _
    rw [closed]
    rfl

/-! ### The newest version -/

/-- A single version is the newest. -/
theorem newest_singleton (d : Document) : Newest [d] d :=
  ⟨[], [], rfl, fun _ h => absurd h List.not_mem_nil, fun _ h => absurd h List.not_mem_nil⟩

/-- The newest version is one of those that were brought. -/
theorem Newest.mem (h : Newest brought d) : d ∈ brought := by
  obtain ⟨earlier, later, rfl, _, _⟩ := h
  simp

/-- No version that was brought is newer. -/
theorem Newest.le (h : Newest brought d) : ∀ e ∈ brought, e.version ≤ d.version := by
  obtain ⟨earlier, later, rfl, hearlier, hlater⟩ := h
  intro e he
  rcases List.mem_append.mp he with he | he
  · exact hearlier e he
  · rcases List.mem_cons.mp he with rfl | he
    · exact Int.le_refl _
    · exact Int.le_of_lt (hlater e he)

/-- A version that is older than the newest one does not replace it. -/
theorem Newest.keep (h : Newest brought d) (hlt : e.version < d.version) :
    Newest (brought ++ [e]) d := by
  obtain ⟨earlier, later, rfl, hearlier, hlater⟩ := h
  refine ⟨earlier, later ++ [e], by simp, hearlier, ?_⟩
  intro b hb
  rcases List.mem_append.mp hb with hb | hb
  · exact hlater b hb
  · rw [List.mem_singleton.mp hb]
    exact hlt

/-- Any other version does. -/
theorem Newest.replace (h : Newest brought d) (hle : ¬ e.version < d.version) :
    Newest (brought ++ [e]) e := by
  refine ⟨brought, [], rfl, ?_, fun _ hb => absurd hb List.not_mem_nil⟩
  intro b hb
  have hb := h.le b hb
  omega

/-- The newest version is the first one, if all others are older, or one of the others. -/
theorem Newest.of_cons (h : Newest (d :: brought) e) :
    (e = d ∧ ∀ b ∈ brought, b.version < d.version) ∨ e ∈ brought := by
  obtain ⟨earlier, later, heq, _, hlater⟩ := h
  cases earlier with
  | nil =>
    obtain ⟨rfl, rfl⟩ := List.cons.inj heq
    exact Or.inl ⟨rfl, hlater⟩
  | cons b earlier =>
    obtain ⟨_, rfl⟩ := List.cons.inj heq
    exact Or.inr (by simp)

/-- **The order of changes does not matter.** Once a document is open, the same changes in another
    order give the same newest version, if no two of them bring the same version. -/
theorem Newest.eq_of_perm (h : Newest (d :: brought) e) (h' : Newest (d :: brought') e')
    (hperm : brought.Perm brought') (hdistinct : (brought.map Document.version).Nodup) :
    e = e' := by
  have hmem : ∀ b, b ∈ d :: brought ↔ b ∈ d :: brought' := fun b => (hperm.cons d).mem_iff
  have hversion : e.version = e'.version := by
    have h1 := h'.le e ((hmem e).mp h.mem)
    have h2 := h.le e' ((hmem e').mpr h'.mem)
    omega
  -- If the first version is the newest one in one order, the changes are all older than it, and
  -- so they are in the other order.
  rcases h.of_cons with ⟨rfl, hold⟩ | hin
  · rcases h'.of_cons with ⟨rfl, _⟩ | hin'
    · rfl
    · have hlt := hold e' (hperm.mem_iff.mpr hin')
      omega
  · rcases h'.of_cons with ⟨rfl, hold'⟩ | hin'
    · have hlt := hold' e (hperm.mem_iff.mp hin)
      omega
    · exact List.inj_on_of_nodup_map hdistinct hin (hperm.mem_iff.mpr hin') hversion

/-! ### Histories of a document -/

/-- **An open document that is only changed is kept at its newest version.** -/
theorem newest_of_changes (d : Document) (h : ∀ a ∈ acts, a.isChange = true) :
    ∃ e, acts.foldl (fun stored a => a.result stored) (some d) = some e ∧
      Newest (d :: acts.filterMap Act.document?) e := by
  induction acts using List.reverseRecOn with
  | nil => exact ⟨d, rfl, newest_singleton d⟩
  | append_singleton acts a ih =>
    obtain ⟨e, hstored, hnewest⟩ := ih fun b hb => h b (List.mem_append_left _ hb)
    have hchange : a.isChange = true := h a (by simp)
    cases a with
    | changes u version text =>
      rw [List.foldl_append, hstored, List.filterMap_append, ← List.cons_append]
      by_cases hlt : version < e.version
      · exact ⟨e, if_pos hlt, hnewest.keep hlt⟩
      · exact ⟨⟨version, text⟩, if_neg hlt, hnewest.replace hlt⟩
    | opens | closes => exact absurd hchange Bool.false_ne_true

/-- What is stored once a document has been opened and only changed since. -/
theorem newest_of_opens {earlier later : List Act} (hopens : a.Opens (after earlier) d)
    (hchanges : ∀ b ∈ later, b.uri = a.uri → b.isChange = true) :
    ∃ e, (after (earlier ++ a :: later)).get? a.uri = some e ∧
      Newest (d :: (about a.uri later).filterMap Act.document?) e := by
  have honly : ∀ b ∈ about a.uri later, b.isChange = true := by
    intro b hb
    obtain ⟨hb, huri⟩ := List.mem_filter.mp hb
    exact hchanges b hb (by simpa using huri)
  rw [after_append, List.foldl_cons, get?_foldl, hopens.get?_perform]
  exact newest_of_changes d honly

/-- **Every document that is stored has been opened, and only been changed since.** -/
theorem exists_opening (h : (after past).get? uri = some e) :
    ∃ earlier a later d, past = earlier ++ a :: later ∧ a.uri = uri ∧
      a.Opens (after earlier) d ∧ ∀ b ∈ later, b.uri = uri → b.isChange = true := by
  induction past using List.reverseRecOn generalizing e with
  | nil => cases h
  | append_singleton past a ih =>
    -- An act that does not open the document keeps its history going.
    have hmore : ∀ e', (after past).get? uri = some e' → (a.uri = uri → a.isChange = true) →
        ∃ earlier b later d, past ++ [a] = earlier ++ b :: later ∧ b.uri = uri ∧
          b.Opens (after earlier) d ∧ ∀ c ∈ later, c.uri = uri → c.isChange = true := by
      intro e' hstored hchange
      obtain ⟨earlier, b, later, d, rfl, huri, hopens, hlater⟩ := ih hstored
      refine ⟨earlier, b, later ++ [a], d, by simp, huri, hopens, ?_⟩
      exact List.forall_mem_append.mpr ⟨hlater, List.forall_mem_singleton.mpr hchange⟩
    rw [get?_after_concat] at h
    by_cases huri : a.uri = uri
    · rw [if_pos huri] at h
      cases a with
      | opens u version text =>
        exact ⟨past, _, [], _, rfl, huri, .opened u version text,
          fun _ hb => absurd hb List.not_mem_nil⟩
      | changes u version text =>
        cases hstored : (after past).get? uri with
        | none =>
          have hclosed : (after past).get? u = none := by
            rw [show u = uri from huri]
            exact hstored
          exact ⟨past, _, [], _, rfl, huri, .changed u version text hclosed,
            fun _ hb => absurd hb List.not_mem_nil⟩
        | some e' => exact hmore e' hstored fun _ => rfl
      | closes => cases h
    · rw [if_neg huri] at h
      exact hmore e h fun heq => absurd heq huri

/-! ### All documents -/

/-- The documents stay in the order of their URIs. -/
theorem sorted_perform (h : Table.Sorted docs.entries) (a : Act) :
    Table.Sorted (docs.perform a).entries := by
  cases a with
  | opens uri version text => exact Table.sorted_insert h uri _
  | changes uri version text =>
    show Table.Sorted ((docs.changed? uri version text).getD docs).entries
    unfold changed?
    split
    · exact h
    · exact Table.sorted_insert h uri _
  | closes uri => exact Table.sorted_erase h uri

theorem sorted_after (past : List Act) : Table.Sorted (after past).entries := by
  induction past using List.reverseRecOn with
  | nil => exact List.Pairwise.nil
  | append_singleton past a ih =>
    rw [after_append]
    exact sorted_perform ih a

/-- A change is refused exactly if a newer version is stored. -/
theorem changed?_eq_none_iff {version : Int} {text : String} :
    docs.changed? uri version text = none ↔
      ∃ doc, docs.get? uri = some doc ∧ version < doc.version := by
  rw [← isStale_iff, changed?]
  simp

/-- **Changes converge.**  What is stored for a document depends only on what was done about it.
    Once it is opened, by being said to be or by a change, and only changed since, it is kept at the
    greatest version that was brought, the last one of equal ones; and no document is stored
    otherwise.  So the same changes in two orders, no two of them to the same version, leave the
    same document where it was opened in the same way.  A change is not applied exactly if it is to
    a version below the one that is stored, and then all documents stay as they are.  And the open
    documents are listed once each, in the order of the bytes of their URIs. -/
theorem changes_converge :
    (∀ past past' uri, about uri past = about uri past' →
      (after past).get? uri = (after past').get? uri) ∧
    (∀ earlier a later d, a.Opens (after earlier) d →
      (∀ b ∈ later, b.uri = a.uri → b.isChange = true) →
      ∃ e, (after (earlier ++ a :: later)).get? a.uri = some e ∧
        Newest (d :: (about a.uri later).filterMap Act.document?) e) ∧
    (∀ past uri e, (after past).get? uri = some e →
      ∃ earlier a later d, past = earlier ++ a :: later ∧ a.uri = uri ∧
        a.Opens (after earlier) d ∧ ∀ b ∈ later, b.uri = uri → b.isChange = true) ∧
    (∀ earlier earlier' a later later' d, a.Opens (after earlier) d → a.Opens (after earlier') d →
      (∀ b ∈ later, b.uri = a.uri → b.isChange = true) →
      (about a.uri later).Perm (about a.uri later') →
      (((about a.uri later).filterMap Act.document?).map Document.version).Nodup →
      (after (earlier ++ a :: later)).get? a.uri = (after (earlier' ++ a :: later')).get? a.uri) ∧
    (∀ (docs : Documents) uri version text,
      (docs.changed? uri version text = none ↔
        ∃ doc, docs.get? uri = some doc ∧ version < doc.version) ∧
      (docs.changed? uri version text = none →
        docs.perform (.changes uri version text) = docs) ∧
      (docs.changed? uri version text ≠ none →
        (docs.perform (.changes uri version text)).get? uri = some ⟨version, text⟩)) ∧
    ∀ past, (after past).toList.Pairwise (fun x y => Utf8.before x.1 y.1 = true) ∧
      (after past).keys.Nodup ∧
      (∀ uri doc, (uri, doc) ∈ (after past).toList ↔ (after past).get? uri = some doc) ∧
      (after past).size = (after past).toList.length := by
  refine ⟨?_, fun _ _ _ _ => newest_of_opens, fun _ _ _ => exists_opening, ?_, ?_, ?_⟩
  · intro past past' uri hsame
    rw [after, after, get?_foldl, get?_foldl, hsame]
  · intro earlier earlier' a later later' d hopens hopens' hchanges hperm hdistinct
    -- The changes of the other order are the same ones.
    have hchanges' : ∀ b ∈ later', b.uri = a.uri → b.isChange = true := by
      intro b hb huri
      have hmem : b ∈ about a.uri later' := List.mem_filter.mpr ⟨hb, by simpa using huri⟩
      exact hchanges b (List.mem_filter.mp (hperm.mem_iff.mpr hmem)).1 huri
    obtain ⟨e, he, hnewest⟩ := newest_of_opens hopens hchanges
    obtain ⟨e', he', hnewest'⟩ := newest_of_opens hopens' hchanges'
    have heq : e = e' := hnewest.eq_of_perm hnewest' (hperm.filterMap _) hdistinct
    rw [he, he', heq]
  · intro docs uri version text
    refine ⟨changed?_eq_none_iff, ?_, ?_⟩
    · intro hnone
      rw [perform, hnone, Option.getD_none]
    · intro hsome
      have hfresh : ∀ doc, docs.get? uri = some doc → ¬ version < doc.version :=
        fun doc hdoc hlt => hsome (changed?_eq_none_iff.mpr ⟨doc, hdoc, hlt⟩)
      refine (get?_perform docs _ uri).trans ((if_pos rfl).trans ?_)
      cases hdoc : docs.get? uri with
      | none => rfl
      | some doc => exact if_neg (hfresh doc hdoc)
  · intro past
    have hsorted := sorted_after past
    exact ⟨hsorted, Table.nodup_keys hsorted, fun _ _ => Table.mem_toList_iff hsorted, rfl⟩

/-- A document is closed and opened again by a change; two more changes of it come in either order,
    one of them after another document was opened. -/
theorem changes_converge_twoOrders :
    (∃ e, (after [.opens "a" 9 "old", .closes "a", .changes "a" 1 "one", .changes "a" 3 "three",
        .opens "b" 4 "four", .changes "a" 2 "two"]).get? "a" = some e ∧
      Newest [⟨1, "one"⟩, ⟨3, "three"⟩, ⟨2, "two"⟩] e) ∧
    (after [.opens "a" 9 "old", .closes "a", .changes "a" 1 "one", .changes "a" 3 "three",
        .opens "b" 4 "four", .changes "a" 2 "two"]).get? "a" =
      (after [.changes "a" 1 "one", .changes "a" 2 "two", .changes "a" 3 "three"]).get? "a" := by
  obtain ⟨_, hnewest, _, horder, _⟩ := changes_converge
  have hopens : Act.Opens (after [.opens "a" 9 "old", .closes "a"]) (.changes "a" 1 "one")
      ⟨1, "one"⟩ := .changed "a" 1 "one" (by decide)
  have hchanges : ∀ b ∈ [Act.changes "a" 3 "three", .opens "b" 4 "four", .changes "a" 2 "two"],
      b.uri = "a" → b.isChange = true := by simp [Act.uri, Act.isChange]
  refine ⟨hnewest _ _ _ _ hopens hchanges, ?_⟩
  exact horder _ [] _ _ [.changes "a" 2 "two", .changes "a" 3 "three"] _ hopens
    (.changed "a" 1 "one" rfl) hchanges (List.Perm.swap _ _ _) (by decide)

end DiagnosticBridge.Documents
