import DiagnosticBridge.Proofs.Framing
import Mathlib.Data.List.Infix

namespace DiagnosticBridge.Frame

/-!
# Cut streams

A stream may end anywhere: because the other side went away, or because a channel took no more
bytes.  Wherever it is cut, the reader gets the messages that are in it as a whole, and the one that
is cut is a fault: its headers may end early, tell a shorter length than was written or be complete
without the body, but none of this looks like a message.

* `read_ne_notJson` — a faulty stream is not a body that is no JSON;
* `headersFrom_end` — the last line of a stream is looked at although it does not end;
* `exists_fault_of_part` — a part of a frame is faulty;
* `exists_contained` — the messages that a cut stream holds, and the part behind them;
* `reads_whole_messages` — the reader gets these messages, and a fault if there is such a part.
-/

variable {bytes part line : List UInt8} {bodies whole : List (List UInt8)} {closed : Bool}

/-! ### Faults of the stream -/

/-- A blank line ends the headers. -/
theorem HeaderLine.ofText_of_blank {text : List Char} (h : Text.isBlank text = true) :
    HeaderLine.ofText text = .ok .blank := by
  rw [HeaderLine.ofText, (Text.isBlank_iff_trim_eq_nil text).mp h]
  rfl

/-- A header line that is not blank tells a length, tells one that is no number, or is ignored. -/
theorem HeaderLine.ofText_of_not_blank {text : List Char} (h : Text.isBlank text ≠ true) :
    HeaderLine.ofText text = .ok .other ∨ (∃ n, HeaderLine.ofText text = .ok (.length n)) ∨
      ∃ value, HeaderLine.ofText text = .error (.badLength value) := by
  have htrim : (Text.trim text).isEmpty = false := by
    rw [List.isEmpty_eq_false_iff, ne_eq, ← Text.isBlank_iff_trim_eq_nil]
    exact h
  simp only [HeaderLine.ofText, htrim, Bool.false_eq_true, if_false]
  split
  · exact Or.inl rfl
  · split
    · split
      · exact Or.inr (Or.inl ⟨_, rfl⟩)
      · exact Or.inr (Or.inr ⟨_, rfl⟩)
    · exact Or.inl rfl

/-- No other line does. -/
theorem HeaderLine.ofText_eq_blank_iff {text : List Char} :
    HeaderLine.ofText text = .ok .blank ↔ Text.isBlank text = true := by
  refine ⟨fun heq => ?_, HeaderLine.ofText_of_blank⟩
  by_contra hblank
  rcases HeaderLine.ofText_of_not_blank hblank with h | ⟨_, h⟩ | ⟨_, h⟩
  all_goals
    rw [h] at heq
    cases heq

/-- A line that cannot be read is not taken for a body. -/
theorem HeaderLine.ofText_ne_notJson (text : List Char) (e : Json.SyntaxError) :
    HeaderLine.ofText text ≠ .error (.notJson e) := by
  intro heq
  by_cases hblank : Text.isBlank text = true
  · rw [HeaderLine.ofText_of_blank hblank] at heq
    cases heq
  · rcases HeaderLine.ofText_of_not_blank hblank with h | ⟨_, h⟩ | ⟨_, h⟩
    all_goals
      rw [h] at heq
      cases heq

/-- Neither are bytes that are no text. -/
theorem HeaderLine.ofBytes_ne_notJson (line : List UInt8) (e : Json.SyntaxError) :
    HeaderLine.ofBytes line ≠ .error (.notJson e) := by
  unfold HeaderLine.ofBytes
  split
  · exact HeaderLine.ofText_ne_notJson _ e
  · exact fun heq => nomatch heq

/-- So headers never fail as a body does. -/
theorem headersFrom_ne_notJson (closed started : Bool) (length : Option Nat)
    (line bytes : List UInt8) (e : Json.SyntaxError) :
    headersFrom closed started length line bytes ≠ .faulty (.notJson e) := by
  have hline : ∀ {bs fault}, HeaderLine.ofBytes bs = .error fault → fault ≠ .notJson e := by
    rintro bs fault hbs rfl
    exact HeaderLine.ofBytes_ne_notJson bs e hbs
  -- Byte by byte, whatever has been read of the line and of the headers so far.
  induction bytes generalizing started length line with
  | nil =>
    intro heq
    unfold headersFrom at heq
    split at heq
    · cases heq
    · split at heq
      · split at heq <;> cases heq
      · split at heq
        · next fault hfault =>
          cases heq
          exact hline hfault rfl
        · cases heq
        · cases heq
  | cons b bytes ih =>
    intro heq
    unfold headersFrom at heq
    split at heq
    · split at heq
      · next fault hfault =>
        cases heq
        exact hline hfault rfl
      · cases heq
      · exact ih _ _ _ heq
      · exact ih _ _ _ heq
    · exact ih _ _ _ heq

/-- A fault of the stream is never that a body is no JSON. -/
theorem read_ne_notJson (closed : Bool) (bytes : List UInt8) (e : Json.SyntaxError) :
    read closed bytes ≠ .faulty (.notJson e) := by
  intro heq
  unfold read at heq
  split at heq
  · cases heq
  · next fault hfault =>
    cases heq
    exact headersFrom_ne_notJson _ _ _ _ _ e hfault
  · cases heq
  · cases heq
  · split at heq
    · cases heq
    · unfold readBody at heq
      split at heq
      · split at heq <;> cases heq
      · split at heq <;> cases heq

/-! ### The end of the stream -/

/-- The last line of a stream is looked at although it does not end: a blank one ends the headers,
    and any other is one in which they end too early. -/
theorem headersFrom_end (started : Bool) (length : Option Nat) (h : 10 ∉ line)
    (before : List UInt8) (hne : before ≠ [] ∨ line ≠ []) :
    headersFrom true started length before line =
      match HeaderLine.ofBytes (before.reverse ++ line) with
      | .error fault => .faulty fault
      | .ok .blank => .complete length []
      | .ok _ => .faulty .endInHeaders := by
  -- The bytes of the line are put in front of those before, which are kept in reverse.
  induction line generalizing before with
  | nil =>
    have hbefore : before.isEmpty = false := by simpa using hne
    rewrite [List.append_nil, headersFrom, if_neg (by simp), hbefore, if_neg (by simp)]
    rfl
  | cons b line ih =>
    rw [List.mem_cons, not_or] at h
    rw [headersFrom, if_neg (Ne.symm h.1), ih h.2 (b :: before) (Or.inl (List.cons_ne_nil _ _)),
      List.reverse_cons, List.append_assoc, List.singleton_append]

/-- The line that tells the length is not blank, wherever it is cut. -/
theorem ofBytes_part_ne_blank {n : Nat} (h : part <+: Utf8.encode (lengthLine n))
    (hne : part ≠ []) : HeaderLine.ofBytes part ≠ .ok .blank := by
  have hline : Utf8.encode (lengthLine n) = 67 :: Utf8.encode (lengthLine n).tail := rfl
  rw [hline, List.prefix_cons_iff] at h
  obtain ⟨rest, rfl, -⟩ := h.resolve_left hne
  -- Its first byte is an ASCII letter, whatever the others are.
  have hdecode : Utf8.decode (67 :: rest) =
      (Utf8.decodeFrom 1 none rest).map ('C' :: ·) := rfl
  rw [HeaderLine.ofBytes, hdecode]
  intro hblank
  cases hrest : Utf8.decodeFrom 1 none rest with
  | error m =>
    rw [hrest] at hblank
    cases hblank
  | ok text =>
    rw [hrest] at hblank
    have hall : Text.isBlank ('C' :: text) = true := HeaderLine.ofText_eq_blank_iff.mp hblank
    rw [Text.isBlank_cons] at hall
    exact Bool.false_ne_true hall

/-- A stream that ends within the line that tells the length is faulty. -/
theorem exists_fault_of_line {n : Nat} (h : part <+: Utf8.encode (lengthLine n))
    (hne : part ≠ []) : ∃ fault, headers true part = .faulty fault := by
  have hnot : 10 ∉ part := fun hmem => lineFeed_not_mem_lengthLine n (h.subset hmem)
  have hblank := ofBytes_part_ne_blank h hne
  rw [headers, headersFrom_end _ _ hnot _ (Or.inr hne), List.reverse_nil, List.nil_append]
  cases hread : HeaderLine.ofBytes part with
  | error fault => exact ⟨fault, rfl⟩
  | ok found =>
    cases found with
    | blank => exact absurd hread hblank
    | length n => exact ⟨_, rfl⟩
    | other => exact ⟨_, rfl⟩

/-- A stream that ends between the headers and the end of the body is faulty. -/
theorem read_of_short {n : Nat} {rest : List UInt8}
    (hheaders : headers true bytes = .complete (some n) rest)
    (hn : n ≤ greatestLength) (hshort : rest.length < n) :
    read true bytes = .faulty (.channel .bodyCutShort) := by
  rw [read, hheaders]
  simp only [if_neg (Nat.not_lt.mpr hn)]
  rw [readBody, if_pos hshort, if_pos rfl]

/-- What begins like two lists on end lies within the first one or goes on into the second. -/
theorem prefix_append_cases {α : Type} {l a b : List α} (h : l <+: a ++ b) :
    l <+: a ∨ ∃ more, l = a ++ more ∧ more <+: b := by
  rcases List.prefix_or_prefix_of_prefix h (List.prefix_append a b) with hl | ⟨more, rfl⟩
  · exact Or.inl hl
  · exact Or.inr ⟨more, rfl, (List.prefix_append_right_inj a).mp h⟩

/-- **A part of a frame is no message.** A stream that ends within a frame is faulty, wherever that
    is. -/
theorem exists_fault_of_part {body : List UInt8} (hbody : body ≠ [])
    (hlength : body.length ≤ greatestLength) (h : part <+: frame body) (hne : part ≠ [])
    (hproper : part ≠ frame body) : ∃ fault, read true part = .faulty fault := by
  have hsize : body.length < UInt64.size := Nat.lt_of_le_of_lt hlength (by decide)
  have hpos : 0 < body.length := List.length_pos_of_ne_nil hbody
  have hfault : (∃ fault, headers true part = .faulty fault) →
      ∃ fault, read true part = .faulty fault := by
    rintro ⟨fault, hfault⟩
    exact ⟨fault, by rw [read, hfault]⟩
  -- The headers after the line that tells the length, by what is left of the stream.
  have hafter : ∀ rest, headers true (Utf8.encode (lengthLine body.length) ++ 10 :: rest) =
      headersFrom true true (some body.length) [] rest := by
    intro rest
    rw [headers, headersFrom_line _ _ _ (lineFeed_not_mem_lengthLine _)]
    simp only [List.reverse_nil, List.nil_append, ofBytes_lengthLine hsize]
  rw [frame, header_eq, List.append_assoc] at h
  -- The cut is within the line that tells the length, or right behind it, or further on.
  rcases prefix_append_cases h with hline | ⟨more, rfl, hmore⟩
  · exact hfault (exists_fault_of_line hline hne)
  rcases List.prefix_cons_iff.mp hmore with rfl | ⟨blank, rfl, hblank⟩
  · exact hfault (exists_fault_of_line (by rw [List.append_nil]) hne)
  rcases List.prefix_cons_iff.mp hblank with rfl | ⟨feed, rfl, hfeed⟩
  · -- The stream ends before the blank line.
    exact hfault ⟨.endInHeaders, hafter []⟩
  rcases List.prefix_cons_iff.mp hfeed with rfl | ⟨cut, rfl, hcut⟩
  · -- The stream ends within the blank line, which counts all the same.
    exact ⟨_, read_of_short ((hafter [13]).trans rfl) hlength hpos⟩
  · have hcut : cut <+: body := hcut
    have heq : Utf8.encode (lengthLine body.length) ++ 10 :: 13 :: 10 :: cut =
        header body.length ++ cut := by
      rw [header_eq, List.append_assoc]
      rfl
    have hshort : cut.length < body.length := by
      refine Nat.lt_of_not_le fun hle => hproper ?_
      rw [heq, hcut.eq_of_length_le hle, frame]
    rw [heq]
    exact ⟨_, read_of_short (headers_header true hsize cut) hlength hshort⟩

/-! ### Streams of frames -/

/-- The messages that are contained completely in the bytes: these are the first ones, and there
    are no more of them. -/
structure Contained (bodies : List (List UInt8)) (bytes : List UInt8)
    (whole : List (List UInt8)) : Prop where
  /-- They are the first messages. -/
  first : whole <+: bodies
  /-- The bytes begin with their frames. -/
  begins : whole.flatMap frame <+: bytes
  /-- The frames of no more messages are there. -/
  most : ∀ more, more <+: bodies → more.flatMap frame <+: bytes → more <+: whole

/-- The bytes behind the messages that are contained completely are a part of the next frame, and
    there are none behind the last message. -/
theorem exists_contained (h : bytes <+: bodies.flatMap frame) :
    ∃ whole part, Contained bodies bytes whole ∧ bytes = whole.flatMap frame ++ part ∧
      (part ≠ [] → ∃ body ∈ bodies, part <+: frame body ∧ part ≠ frame body) := by
  induction bodies generalizing bytes with
  | nil =>
    obtain rfl : bytes = [] := List.prefix_nil.mp h
    exact ⟨[], [], ⟨List.prefix_refl _, List.prefix_refl _, fun _ hmore _ => hmore⟩, rfl,
      fun hne => absurd rfl hne⟩
  | cons body bodies ih =>
    have hnone : ¬ frame body <+: bytes → Contained (body :: bodies) bytes [] := by
      refine fun hnot => ⟨List.nil_prefix, List.nil_prefix, fun more hmore hbytes => ?_⟩
      rcases List.prefix_cons_iff.mp hmore with rfl | ⟨more, rfl, -⟩
      · exact List.prefix_refl _
      · rw [List.flatMap_cons] at hbytes
        exact absurd ((List.prefix_append _ _).trans hbytes) hnot
    rw [List.flatMap_cons] at h
    -- The cut is behind the first frame or within it.
    by_cases hwhole : frame body <+: bytes
    · obtain ⟨later, rfl⟩ := hwhole
      obtain ⟨whole, part, hcontained, rfl, hpart⟩ := ih ((List.prefix_append_right_inj _).mp h)
      refine ⟨body :: whole, part, ⟨?_, ?_, fun more hmore hbytes => ?_⟩, ?_, fun hne => ?_⟩
      · exact (List.prefix_cons_inj body).mpr hcontained.first
      · rw [List.flatMap_cons]
        exact (List.prefix_append_right_inj _).mpr hcontained.begins
      · rcases List.prefix_cons_iff.mp hmore with rfl | ⟨others, rfl, hothers⟩
        · exact List.nil_prefix
        · rw [List.flatMap_cons, List.prefix_append_right_inj] at hbytes
          exact (List.prefix_cons_inj body).mpr (hcontained.most others hothers hbytes)
      · rw [List.flatMap_cons, List.append_assoc]
      · obtain ⟨next, hnext, hpart⟩ := hpart hne
        exact ⟨next, List.mem_cons_of_mem _ hnext, hpart⟩
    · refine ⟨[], bytes, hnone hwhole, rfl, fun _ => ⟨body, List.mem_cons_self, ?_, ?_⟩⟩
      · exact (prefix_append_cases h).resolve_right fun ⟨more, heq, _⟩ =>
          hwhole ⟨more, heq.symm⟩
      · rintro rfl
        exact hwhole (List.prefix_refl _)

/-- What the reader gets from a cut stream of messages: the messages that are contained completely,
    and then the end of the stream if it is cut between two messages, and otherwise a fault that is
    not that a body is no JSON. -/
def ReadsWhole (bodies : List (List UInt8)) (bytes : List UInt8) : Prop :=
  ∃ whole, Contained bodies bytes whole ∧
    ((bytes = whole.flatMap frame ∧
        readAll true bytes = (whole.map Item.ofBody ++ [.finished], [])) ∨
      (bytes ≠ whole.flatMap frame ∧ ∃ fault, (∀ e, fault ≠ .notJson e) ∧
        readAll true bytes = (whole.map Item.ofBody ++ [.faulty fault], [])))

/-- At a fault the reader stops. -/
theorem readAll_of_fault {fault : Fault} (h : read closed bytes = .faulty fault) :
    readAll closed bytes = ([.faulty fault], []) := by
  rw [readAll]
  split <;> simp_all

/-- A stream that is cut anywhere gives its whole messages. -/
theorem readsWhole_of_prefix (hbodies : ∀ body ∈ bodies, body ≠ [] ∧ body.length ≤ greatestLength)
    (h : bytes <+: bodies.flatMap frame) : ReadsWhole bodies bytes := by
  obtain ⟨whole, part, hcontained, rfl, hpart⟩ := exists_contained h
  have hlengths : ∀ body ∈ whole, body.length ≤ greatestLength :=
    fun body hbody => (hbodies body (hcontained.first.subset hbody)).2
  refine ⟨whole, hcontained, ?_⟩
  rw [readAll_frames true hlengths part]
  by_cases hne : part = []
  · subst hne
    exact Or.inl ⟨List.append_nil _, by rw [readAll_nil]⟩
  · obtain ⟨body, hbody, hpre, hproper⟩ := hpart hne
    obtain ⟨hnonempty, hlength⟩ := hbodies body hbody
    obtain ⟨fault, hfault⟩ := exists_fault_of_part hnonempty hlength hpre hne hproper
    refine Or.inr ⟨fun heq => hne (List.append_right_eq_self.mp heq), fault, ?_, ?_⟩
    · rintro e rfl
      exact read_ne_notJson true part e hfault
    · rw [readAll_of_fault hfault]

/-! ### Channels that take no more bytes -/

/-- What a channel takes before it fails is the beginning of what is written. -/
theorem writeAll_prefix (room : Room) (frames : List (List UInt8)) :
    (writeAll room frames).1 <+: frames.flatten := by
  induction frames generalizing room with
  | nil => exact List.prefix_refl _
  | cons bytes frames ih =>
    rw [List.flatten_cons]
    cases room with
    | none =>
      simp only [writeAll, write]
      exact (List.prefix_append_right_inj _).mpr (ih _)
    | some n =>
      by_cases hn : bytes.length ≤ n
      · simp only [writeAll, write, hn, decide_true, List.take_of_length_le]
        exact (List.prefix_append_right_inj _).mpr (ih _)
      · simp only [writeAll, write, hn, decide_false]
        exact (List.take_prefix _ _).trans (List.prefix_append _ _)

/-- **A cut stream never yields a message.** Of messages that are not empty and not too long, any
    beginning of the stream of their frames gives the reader just those that are contained in it
    completely; then the stream ends, if it is cut between two messages, or else is faulty.  This
    holds in particular for what a channel took of the bridge's own messages before it failed. -/
theorem reads_whole_messages :
    (∀ bodies : List (List UInt8),
      (∀ body ∈ bodies, body ≠ [] ∧ body.length ≤ greatestLength) →
      ∀ bytes, bytes <+: bodies.flatMap frame → ReadsWhole bodies bytes) ∧
    (∀ (messages : List Outgoing) (room : Room),
      (∀ m ∈ messages, (Utf8.encode m.text).length ≤ greatestLength) →
      ReadsWhole (messages.map fun m => Utf8.encode m.text)
        (writeAll room (messages.map ofMessage)).1) := by
  refine ⟨fun bodies hbodies bytes h => readsWhole_of_prefix hbodies h,
    fun messages room hlength => readsWhole_of_prefix ?_ ?_⟩
  · rw [List.forall_mem_map]
    exact fun m hm => ⟨List.cons_ne_nil 123 _, hlength m hm⟩
  · have hframes : (messages.map fun m => Utf8.encode m.text).flatMap frame =
        (messages.map ofMessage).flatten := by
      rw [List.flatMap_map, List.flatMap_def]
      rfl
    rw [hframes]
    exact writeAll_prefix room _

/-- The stream of two warnings, cut within the digits of the second length. -/
def cutInLength : List UInt8 := ofMessage warning ++ Utf8.encode "Content-Length: 9".toList

/-- The first warning is read; the second one, whose length looks shorter than it is, is a fault. -/
theorem reads_whole_cutInLength :
    cutInLength <+: [Utf8.encode warning.text, Utf8.encode warning.text].flatMap frame ∧
      ∃ fault, (∀ e, fault ≠ .notJson e) ∧
        readAll true cutInLength = ([.message warning.value, .faulty fault], []) := by
  have hparse : Json.parse (Utf8.encode warning.text) = .ok warning.value := by rfl
  have hlength : (Utf8.encode warning.text).length ≤ greatestLength := by decide +kernel
  have hne : Utf8.encode warning.text ≠ [] := List.cons_ne_nil 123 _
  have hpre : cutInLength <+:
      [Utf8.encode warning.text, Utf8.encode warning.text].flatMap frame := by
    rw [List.prefix_iff_eq_take]
    decide +kernel
  obtain ⟨whole, hcontained, hread⟩ := reads_whole_messages.1
    [Utf8.encode warning.text, Utf8.encode warning.text] (by simp [hne, hlength]) _ hpre
  have hone : [Utf8.encode warning.text] <+: whole := by
    refine hcontained.most _ ?_ ?_
    · exact (List.prefix_cons_inj _).mpr List.nil_prefix
    · rw [List.flatMap_singleton]
      exact List.prefix_append _ _
  have htwo : whole.length ≤ 1 := by
    by_contra hlong
    have heq := hcontained.first.eq_of_length_le (Nat.lt_of_not_le hlong)
    have hbegins := hcontained.begins.length_le
    rw [heq] at hbegins
    exact absurd hbegins (by decide +kernel)
  have hwhole := hone.eq_of_length_le htwo
  have hitem : Item.ofBody (Utf8.encode warning.text) = .message warning.value := by
    rw [Item.ofBody, hparse]
  rw [← hwhole, List.map_singleton, hitem, List.flatMap_singleton] at hread
  refine ⟨hpre, (hread.resolve_left fun hend => ?_).2⟩
  exact absurd hend.1 (fun heq => absurd (List.append_right_eq_self.mp heq) (by decide))

end DiagnosticBridge.Frame
