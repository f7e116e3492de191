import DiagnosticBridge.Proofs.HeaderBlocks

namespace DiagnosticBridge.Frame

/-!
# Streams of framed messages

A reader asks for one message after the other until the stream ends or is faulty.  It comes to an
end because each message takes at least one byte; and it comes to the end of the stream without a
fault only if all bytes are those of envelopes: header lines, a blank line, and as many bytes as the
last length among the lines tells.

* `HeaderLine.exists_text`, `HeaderLine.exists_last_text` — a line that is read is a line of text;
* `headers_head`, `exists_head` — the headers that are read are those of a head, and so is what they
  tell;
* `read_of_opens`, `read_cases` — what is at the front of a stream: an envelope, nothing or a
  fault;
* `readAll_of_framed`, `exists_envelopes` — and so all of a stream;
* `accepts_framed_streams` — the streams that are read without a fault are the framed ones.
-/

variable {line : List Char} {stream rest : List UInt8} {started : Bool} {length told : Option Nat}
  {n : Nat} {found : HeaderLine}

/-! ### Lines that were read -/

/-- A line that ends and is read is a line of text. -/
theorem HeaderLine.exists_text {bytes : List UInt8} (hline : 10 ∉ bytes)
    (h : HeaderLine.ofBytes (bytes ++ [10]) = .ok found) :
    ∃ text, bytes = Utf8.encode text ∧ '\n' ∉ text ∧ HeaderLine.ofText text = .ok found := by
  cases hdecode : Utf8.decode (bytes ++ [10]) with
  | error m =>
    rw [HeaderLine.ofBytes, hdecode] at h
    cases h
  | ok whole =>
    obtain ⟨text, -, htext, rfl⟩ := Utf8.exists_line hline hdecode
    rw [ofBytes_line] at h
    exact ⟨text, rfl, htext, h⟩

/-- So is a line that is read although it does not end. -/
theorem HeaderLine.exists_last_text {bytes : List UInt8} (hline : 10 ∉ bytes)
    (h : HeaderLine.ofBytes bytes = .ok found) :
    ∃ text, bytes = Utf8.encode text ∧ '\n' ∉ text ∧ HeaderLine.ofText text = .ok found := by
  cases hdecode : Utf8.decode bytes with
  | error m =>
    rw [HeaderLine.ofBytes, hdecode] at h
    cases h
  | ok text =>
    obtain rfl := Utf8.decode_eq_ok_iff.mp hdecode
    rw [HeaderLine.ofBytes, hdecode] at h
    exact ⟨text, rfl, fun hmem => hline (Utf8.lineFeed_mem_encode_iff.mpr hmem), h⟩

/-! ### Heads -/

/-- Header lines and the blank line that ends them. -/
structure Head where
  /-- The header lines. -/
  lines : List (List Char)
  /-- The blank line. -/
  blank : List Char
  /-- Whether the blank line has a line feed. -/
  ended : Bool

/-- The bytes of a head. -/
def Head.bytes (head : Head) : List UInt8 :=
  linesBytes head.lines ++ Utf8.encode head.blank ++ (if head.ended then [10] else [])

/-- A line in front of a head. -/
def Head.cons (line : List Char) (head : Head) : Head :=
  { head with lines := line :: head.lines }

/-- The bytes of the line come first. -/
theorem Head.bytes_cons (line : List Char) (head : Head) :
    (Head.cons line head).bytes = Utf8.encode line ++ 10 :: head.bytes := by
  simp only [Head.bytes, Head.cons, linesBytes_cons, List.append_assoc, List.cons_append]
  rfl

/-- Headers as they are read. -/
structure Head.WellFormed (head : Head) : Prop where
  /-- The header lines are lines, and not blank. -/
  fields : ∀ line ∈ head.lines, IsField line
  /-- Each of them that should tell a number does. -/
  sound : Sound head.lines
  /-- The blank line is one, and blank. -/
  closing : IsClosing head.blank
  /-- The blank line is not empty if it has no line feed. -/
  visible : head.ended = false → head.blank ≠ []

/-- A header line that tells a number, if it should, may stand in front. -/
theorem Head.WellFormed.cons {head : Head} (h : head.WellFormed) (hfield : IsField line)
    (hline : ∀ value, TellsLength line value → ∃ n, IsLength n value) :
    (Head.cons line head).WellFormed where
  fields := List.forall_mem_cons.mpr ⟨hfield, h.fields⟩
  sound := List.forall_mem_cons.mpr ⟨hline, h.sound⟩
  closing := h.closing
  visible := h.visible

/-- A head that does not end stands at the end of the stream only. -/
theorem headers_head {head : Head} (h : head.WellFormed) (hlast : LastLength head.lines told)
    (hend : head.ended = false → rest = []) :
    headers true (head.bytes ++ rest) = .complete told rest := by
  -- Only at the end of a stream is a blank line read without its line feed.
  cases hended : head.ended with
  | true =>
    rw [Head.bytes, hended, if_pos rfl]
    exact headers_block true h.closing h.fields h.sound hlast rest
  | false =>
    obtain rfl := hend hended
    obtain ⟨_, hlines⟩ := headersFrom_lines h.fields h.sound hlast
    have hblank : HeaderLine.ofBytes (Utf8.encode head.blank) = .ok .blank := by
      rw [HeaderLine.ofBytes, Utf8.decode_encode]
      exact HeaderLine.ofText_of_blank h.closing.blank
    have hvisible : Utf8.encode head.blank ≠ [] :=
      fun hnil => h.visible hended (Utf8.encode_eq_nil_iff.mp hnil)
    rw [Head.bytes, hended, if_neg Bool.false_ne_true, List.append_nil, List.append_nil, headers,
      hlines, headersFrom_end _ _ (Utf8.lineFeed_not_mem_encode h.closing.one_line) _
        (Or.inr hvisible), List.reverse_nil, List.nil_append, hblank, Option.or_none]

/-- The stream begins with a head, which tells a length anew or leaves the one that was told. -/
structure Heads (head : Head) (length told : Option Nat) (stream rest : List UInt8) : Prop where
  /-- The head is well formed. -/
  wellFormed : head.WellFormed
  /-- What it tells replaces what was told. -/
  tells : ∃ last, LastLength head.lines last ∧ told = last.or length
  /-- The stream begins with it. -/
  begins : stream = head.bytes ++ rest
  /-- It ends unless the stream does. -/
  ends : head.ended = false → rest = []

/-- A blank line is a head without header lines. -/
theorem heads_closing (length : Option Nat) (ended : Bool) (rest : List UInt8) (h : IsClosing line)
    (hvisible : ended = false → line ≠ []) (hend : ended = false → rest = []) :
    Heads ⟨[], line, ended⟩ length length
      (Utf8.encode line ++ (if ended then [10] else []) ++ rest) rest where
  wellFormed :=
    { fields := fun _ hin => absurd hin List.not_mem_nil
      sound := sound_nil
      closing := h
      visible := hvisible }
  tells := ⟨none, .silent silent_nil, rfl⟩
  begins := rfl
  ends := hend

/-- A line that tells a length is outdone by any later one. -/
theorem Heads.cons_tells {head : Head} (h : Heads head (some n) told stream rest)
    (hfield : IsField line) {value : List Char} (htells : TellsLength line value)
    (hn : IsLength n value) (hsound : ∀ value, TellsLength line value → ∃ n, IsLength n value) :
    Heads (.cons line head) length told (Utf8.encode line ++ 10 :: stream) rest where
  wellFormed := h.wellFormed.cons hfield hsound
  tells := by
    obtain ⟨last, hlast, rfl⟩ := h.tells
    exact ⟨_, hlast.cons_tells htells hn, by cases last <;> rfl⟩
  begins := by rw [h.begins, Head.bytes_cons, List.append_assoc, List.cons_append]
  ends := h.ends

/-- A line that tells none leaves the length to the others. -/
theorem Heads.cons_silent {head : Head} (h : Heads head length told stream rest)
    (hfield : IsField line) (hsilent : ∀ value, ¬ TellsLength line value) :
    Heads (.cons line head) length told (Utf8.encode line ++ 10 :: stream) rest where
  wellFormed := h.wellFormed.cons hfield fun value htells => absurd htells (hsilent value)
  tells := by
    obtain ⟨last, hlast, rfl⟩ := h.tells
    exact ⟨_, hlast.cons_silent hsilent, rfl⟩
  begins := by rw [h.begins, Head.bytes_cons, List.append_assoc, List.cons_append]
  ends := h.ends

/-- The last line of a stream is a head if it is read as one. -/
theorem exists_head_of_end (hline : 10 ∉ stream)
    (h : headersFrom true started length [] stream = .complete told rest) :
    ∃ head, Heads head length told stream rest := by
  by_cases hempty : stream = []
  · -- At the end of the stream there are no headers, or they end too early.
    subst hempty
    cases started <;> cases h
  rw [headersFrom_end _ _ hline _ (Or.inr hempty), List.reverse_nil, List.nil_append] at h
  cases hread : HeaderLine.ofBytes stream with
  | error fault =>
    rw [hread] at h
    cases h
  | ok found =>
    rw [hread] at h
    cases found with
    | length n => cases h
    | other => cases h
    | blank =>
      obtain ⟨rfl, rfl⟩ := Headers.complete.inj h
      obtain ⟨text, rfl, htext, hfound⟩ := HeaderLine.exists_last_text hline hread
      have hclosing : IsClosing text := ⟨htext, HeaderLine.ofText_eq_blank_iff.mp hfound⟩
      have hvisible : text ≠ [] := fun hnil => hempty (congrArg Utf8.encode hnil)
      have hheads := heads_closing length false [] hclosing (fun _ => hvisible) fun _ => rfl
      rw [if_neg Bool.false_ne_true, List.append_nil, List.append_nil] at hheads
      exact ⟨_, hheads⟩

/-- **Headers that are read are those of a head.** -/
theorem exists_head (h : headersFrom true started length [] stream = .complete told rest) :
    ∃ head, Heads head length told stream rest := by
  -- By the length of the stream, since the rest of it is only known to be shorter.
  induction hsize : stream.length using Nat.strongRecOn generalizing stream started length with
  | ind size ih =>
  by_cases hfeed : 10 ∈ stream
  · -- The first line, and then the others.
    obtain ⟨bytes, after, rfl, hline⟩ := List.eq_append_cons_of_mem hfeed
    rw [headersFrom_line _ _ _ hline, List.reverse_nil, List.nil_append] at h
    have hshorter : after.length < size := by
      rw [← hsize, List.length_append, List.length_cons]
      omega
    cases hread : HeaderLine.ofBytes (bytes ++ [10]) with
    | error fault =>
      rw [hread] at h
      cases h
    | ok found =>
      rw [hread] at h
      obtain ⟨text, rfl, htext, hfound⟩ := HeaderLine.exists_text hline hread
      cases found with
      | blank =>
        obtain ⟨rfl, rfl⟩ := Headers.complete.inj h
        have hclosing : IsClosing text := ⟨htext, HeaderLine.ofText_eq_blank_iff.mp hfound⟩
        have hheads := heads_closing length true after hclosing
          (fun hfalse => absurd hfalse.symm Bool.false_ne_true)
          fun hfalse => absurd hfalse.symm Bool.false_ne_true
        rw [if_pos rfl, List.append_assoc] at hheads
        exact ⟨_, hheads⟩
      | length n =>
        obtain ⟨head, hhead⟩ := ih _ hshorter h rfl
        obtain ⟨value, htells, hn⟩ := HeaderLine.tells_of_length hfound
        have hfield : IsField text := ⟨htext, HeaderLine.not_isBlank hfound (by simp)⟩
        exact ⟨_, hhead.cons_tells hfield htells hn fun _ => exists_isLength_of_ok hfound⟩
      | other =>
        obtain ⟨head, hhead⟩ := ih _ hshorter h rfl
        have hfield : IsField text := ⟨htext, HeaderLine.not_isBlank hfound (by simp)⟩
        exact ⟨_, hhead.cons_silent hfield (HeaderLine.silent_of_other hfound)⟩
  · exact exists_head_of_end hfeed h

/-! ### Envelopes -/

/-- A body in its envelope: the headers that tell its length stand in front of it. -/
structure Envelope extends Head where
  /-- The body. -/
  body : List UInt8

/-- The bytes of an envelope and its body. -/
def Envelope.bytes (e : Envelope) : List UInt8 := e.toHead.bytes ++ e.body

/-- An envelope as it is read.  At least one header line tells the length, so there is one. -/
structure Envelope.WellFormed (e : Envelope) : Prop extends e.toHead.WellFormed where
  /-- The last length that is told is that of the body. -/
  told : LastLength e.lines (some e.body.length)
  /-- It is not too great. -/
  bounded : e.body.length ≤ greatestLength
  /-- There is a body only after a line feed. -/
  whole : e.ended = false → e.body = []

/-- A length is told by some line. -/
theorem LastLength.ne_nil {lines : List (List Char)} (h : LastLength lines (some n)) :
    lines ≠ [] := by
  cases h with
  | told => exact List.append_ne_nil_of_right_ne_nil _ (List.cons_ne_nil _ _)

/-- So an envelope takes at least one byte. -/
theorem Envelope.bytes_ne_nil {e : Envelope} (h : e.WellFormed) : e.bytes ≠ [] := by
  obtain ⟨line, lines, hlines⟩ := List.exists_cons_of_ne_nil h.told.ne_nil
  rw [Envelope.bytes, Head.bytes, hlines, linesBytes_cons]
  simp

/-- The stream begins with an envelope. -/
structure Envelope.Opens (e : Envelope) (stream rest : List UInt8) : Prop where
  /-- The envelope is well formed. -/
  wellFormed : e.WellFormed
  /-- The stream begins with it. -/
  begins : stream = e.bytes ++ rest
  /-- The line feed of its blank line is missing at the end of the stream only. -/
  ends : e.ended = false → rest = []

/-- **An envelope is read**, and the reader is right behind it. -/
theorem read_of_opens {e : Envelope} (h : e.Opens stream rest) :
    read true stream = .ofBody e.body rest := by
  have hend : e.ended = false → e.body ++ rest = [] := fun hended => by
    rw [h.wellFormed.whole hended, h.ends hended, List.append_nil]
  have hheaders : headers true stream = .complete (some e.body.length) (e.body ++ rest) := by
    rw [h.begins, Envelope.bytes, List.append_assoc]
    exact headers_head h.wellFormed.toWellFormed h.wellFormed.told hend
  exact read_of_headers hheaders h.wellFormed.bounded

/-- A head and as many bytes as it tells are an envelope. -/
theorem Heads.exists_opens {head : Head} (h : Heads head none (some n) stream rest)
    (hn : n ≤ greatestLength) (hwhole : n ≤ rest.length) :
    ∃ (e : Envelope) (after : List UInt8), e.Opens stream after := by
  obtain ⟨last, hlast, htold⟩ := h.tells
  rw [Option.or_none] at htold
  have hlength : (rest.take n).length = n := List.length_take_of_le hwhole
  have hwell : (Envelope.mk head (rest.take n)).WellFormed :=
    { h.wellFormed with
      told := by rwa [hlength, htold]
      bounded := by rwa [hlength]
      whole := fun hended => by rw [h.ends hended, List.take_nil] }
  refine ⟨⟨head, rest.take n⟩, rest.drop n, hwell, ?_, fun hended => ?_⟩
  · rw [Envelope.bytes, List.append_assoc, List.take_append_drop]
    exact h.begins
  · rw [h.ends hended, List.drop_nil]

/-! ### The front of a stream -/

/-- The headers of a closed stream are never unfinished, and there are none only at its end. -/
theorem headersFrom_closed (started : Bool) (length : Option Nat) (line stream : List UInt8) :
    (∃ told rest, headersFrom true started length line stream = .complete told rest) ∨
      (∃ fault, headersFrom true started length line stream = .faulty fault) ∨
      (headersFrom true started length line stream = .none ∧ started = false ∧ line = [] ∧
        stream = []) := by
  induction stream generalizing started length line with
  | nil =>
    cases line with
    | nil =>
      cases started with
      | false => exact Or.inr (Or.inr ⟨rfl, rfl, rfl, rfl⟩)
      | true => exact Or.inr (Or.inl ⟨_, rfl⟩)
    | cons b line =>
      rw [headersFrom]
      cases HeaderLine.ofBytes (b :: line).reverse with
      | error fault => exact Or.inr (Or.inl ⟨_, rfl⟩)
      | ok found =>
        cases found with
        | blank => exact Or.inl ⟨_, _, rfl⟩
        | length n => exact Or.inr (Or.inl ⟨_, rfl⟩)
        | other => exact Or.inr (Or.inl ⟨_, rfl⟩)
  | cons b stream ih =>
    -- No headers at all would mean that the line that `b` is in was never begun.
    have hlater : ∀ started length line, started = true ∨ line ≠ [] →
        (∃ told rest, headersFrom true started length line stream = .complete told rest) ∨
          ∃ fault, headersFrom true started length line stream = .faulty fault := by
      intro started length line hbegun
      rcases ih started length line with h | h | ⟨-, hstarted, hline, -⟩
      · exact Or.inl h
      · exact Or.inr h
      · simp [hstarted, hline] at hbegun
    rw [← or_assoc]
    left
    by_cases hb : b = 10
    · rw [headersFrom, if_pos hb]
      cases HeaderLine.ofBytes (b :: line).reverse with
      | error fault => exact Or.inr ⟨_, rfl⟩
      | ok found =>
        cases found with
        | blank => exact Or.inl ⟨_, _, rfl⟩
        | length n => exact hlater true (some n) [] (Or.inl rfl)
        | other => exact hlater true length [] (Or.inl rfl)
    · rw [headersFrom, if_neg hb]
      exact hlater started length (b :: line) (Or.inr (List.cons_ne_nil _ _))

/-- **What is at the front of a stream**: an envelope, or nothing, or a fault that is not about a
    body. -/
theorem read_cases (stream : List UInt8) :
    (∃ (e : Envelope) (rest : List UInt8), e.Opens stream rest) ∨
    (stream = [] ∧ read true stream = .finished) ∨
    ∃ fault, (∀ e, fault ≠ .notJson e) ∧ read true stream = .faulty fault := by
  have hfault : ∀ fault, read true stream = .faulty fault →
      ∃ fault, (∀ e, fault ≠ .notJson e) ∧ read true stream = .faulty fault := by
    intro fault hread
    refine ⟨fault, ?_, hread⟩
    rintro e rfl
    exact read_ne_notJson true stream e hread
  rcases headersFrom_closed false none [] stream with
    ⟨told, rest, h⟩ | ⟨fault, h⟩ | ⟨h, -, -, hnil⟩
  · have hheaders : headers true stream = .complete told rest := h
    obtain ⟨head, hhead⟩ := exists_head h
    cases told with
    | none => exact Or.inr (Or.inr (hfault .noLength (by rw [read, hheaders])))
    | some n =>
      by_cases hlong : greatestLength < n
      · refine Or.inr (Or.inr (hfault (.tooLong n) ?_))
        rw [read, hheaders]
        exact if_pos hlong
      have hbound : n ≤ greatestLength := Nat.le_of_not_lt hlong
      by_cases hshort : rest.length < n
      · exact Or.inr (Or.inr (hfault _ (read_of_short hheaders hbound hshort)))
      · exact Or.inl (hhead.exists_opens hbound (Nat.le_of_not_lt hshort))
  · have hheaders : headers true stream = .faulty fault := h
    exact Or.inr (Or.inr (hfault fault (by rw [read, hheaders])))
  · have hheaders : headers true stream = .none := h
    exact Or.inr (Or.inl ⟨hnil, by rw [read, hheaders]⟩)

/-! ### All of a stream -/

/-- The stream consists of these envelopes, one behind the other. -/
inductive Framed : List Envelope → List UInt8 → Prop where
  /-- There is nothing in the stream. -/
  | nil : Framed [] []
  /-- After its first envelope the stream goes on with the others. -/
  | cons {e : Envelope} {es : List Envelope} {stream rest : List UInt8}
      (opens : e.Opens stream rest) (more : Framed es rest) : Framed (e :: es) stream

/-- What the reader gets from an envelope. -/
def Envelope.item (e : Envelope) : Item := Item.ofBody e.body

/-- Envelopes are read one after the other, and then there is nothing. -/
theorem readAll_of_framed {es : List Envelope} (h : Framed es stream) :
    readAll true stream = (es.map Envelope.item ++ [.finished], []) := by
  induction h with
  | nil => exact readAll_nil
  | cons opens more ih =>
    rw [readAll_of_body (read_of_opens opens), ih]
    rfl

/-- **Envelopes and an end.** From any stream the reader gets as many bodies as there are envelopes
    at its front, and then its end, if there is nothing else, or a fault. -/
theorem exists_envelopes (stream : List UInt8) :
    ∃ (es : List Envelope) (last : Item),
      readAll true stream = (es.map Envelope.item ++ [last], []) ∧ es.length ≤ stream.length ∧
      ((last = .finished ∧ Framed es stream) ∨
        ∃ fault, (∀ e, fault ≠ .notJson e) ∧ last = .faulty fault) := by
  -- Every envelope takes at least one byte, so the rest of the stream is shorter.
  induction hsize : stream.length using Nat.strongRecOn generalizing stream with
  | ind size ih =>
  rcases read_cases stream with ⟨e, rest, hopens⟩ | ⟨rfl, -⟩ | ⟨fault, hfault, hread⟩
  · have hpos : 0 < e.bytes.length := List.length_pos_of_ne_nil (e.bytes_ne_nil hopens.wellFormed)
    rw [hopens.begins, List.length_append] at hsize
    obtain ⟨es, last, hall, hlength, hlast⟩ := ih rest.length (by omega) rest rfl
    refine ⟨e :: es, last, ?_, ?_, ?_⟩
    · rw [readAll_of_body (read_of_opens hopens), hall]
      rfl
    · rw [List.length_cons]
      omega
    · exact hlast.imp_left fun ⟨hfinished, hes⟩ => ⟨hfinished, .cons hopens hes⟩
  · exact ⟨[], .finished, readAll_nil, Nat.zero_le _, Or.inl ⟨rfl, .nil⟩⟩
  · exact ⟨[], .faulty fault, readAll_of_fault hread, Nat.zero_le _, Or.inr ⟨fault, hfault, rfl⟩⟩

/-- **Only framed streams are accepted.** Reading a closed stream comes to an end: there are no more
    messages than bytes, because each of them, whether its body is JSON or not, takes at least one.
    Before the last thing that the reader gets there are such messages only, and the last one is the
    end of the stream or a fault that is not about a body.  It is the end of the stream just if the
    stream consists of envelopes, and then there is one message for each of them, in order. -/
theorem accepts_framed_streams (stream : List UInt8) :
    (∃ items last, readAll true stream = (items ++ [last], []) ∧ items.length ≤ stream.length ∧
      (∀ item ∈ items, (∃ value, item = .message value) ∨ ∃ e, item = .malformed e) ∧
      (last = .finished ∨ ∃ fault, (∀ e, fault ≠ .notJson e) ∧ last = .faulty fault)) ∧
    (∀ rest, (read true stream).rest? = some rest → ∃ taken, taken ≠ [] ∧ stream = taken ++ rest) ∧
    ∀ items, readAll true stream = (items ++ [.finished], []) ↔
      ∃ es, Framed es stream ∧ items = es.map Envelope.item := by
  obtain ⟨es, last, hall, hlength, hlast⟩ := exists_envelopes stream
  refine ⟨⟨es.map Envelope.item, last, hall, ?_, ?_, ?_⟩, fun rest hrest => ?_, fun items => ?_⟩
  · rwa [List.length_map]
  · rw [List.forall_mem_map]
    intro e _
    rw [Envelope.item, Item.ofBody]
    cases Json.parse e.body with
    | ok value => exact Or.inl ⟨value, rfl⟩
    | error e => exact Or.inr ⟨e, rfl⟩
  · exact hlast.imp_left And.left
  · rcases read_cases stream with ⟨e, after, hopens⟩ | ⟨-, hread⟩ | ⟨_, -, hread⟩
    · rw [read_of_opens hopens, Reading.rest?_ofBody] at hrest
      obtain rfl := Option.some.inj hrest
      exact ⟨e.bytes, e.bytes_ne_nil hopens.wellFormed, hopens.begins⟩
    · rw [hread] at hrest
      cases hrest
    · rw [hread] at hrest
      cases hrest
  · constructor
    · intro hfinished
      obtain ⟨hitems, hend⟩ := List.append_inj' (congrArg Prod.fst (hall.symm.trans hfinished)) rfl
      rcases hlast with ⟨-, hes⟩ | ⟨_, -, hfault⟩
      · exact ⟨es, hes, hitems.symm⟩
      · rw [hfault] at hend
        cases hend
    · rintro ⟨es, hes, rfl⟩
      exact readAll_of_framed hes

/-- A message without a body at the end of a stream: there is only a blank behind the header
    line. -/
def unended : Envelope := ⟨⟨["Content-Length:0".toList], [' '], false⟩, []⟩

/-- It is accepted, although its body is no JSON. -/
theorem accepts_framed_streams_unended :
    Framed [unended] unended.bytes ∧ readAll true unended.bytes = ([unended.item, .finished], []) ∧
      ∃ e, unended.item = .malformed e := by
  have hfield : IsField "Content-Length:0".toList := ⟨by decide +kernel, by decide +kernel⟩
  have hread : HeaderLine.ofText "Content-Length:0".toList = .ok (.length 0) := by decide +kernel
  obtain ⟨value, htells, hnumber⟩ := HeaderLine.tells_of_length hread
  have hnone : LastLength [] none := .silent silent_nil
  have hwell : unended.WellFormed :=
    { fields := List.forall_mem_singleton.mpr hfield
      sound := List.forall_mem_singleton.mpr fun _ => exists_isLength_of_ok hread
      closing := ⟨by decide, by decide⟩
      visible := fun _ => List.cons_ne_nil _ _
      told := hnone.cons_tells htells hnumber
      bounded := Nat.zero_le _
      whole := fun _ => rfl }
  have hopens : unended.Opens unended.bytes [] := ⟨hwell, (List.append_nil _).symm, fun _ => rfl⟩
  have hframed : Framed [unended] unended.bytes := .cons hopens .nil
  exact ⟨hframed, ((accepts_framed_streams unended.bytes).2.2 [unended.item]).mpr
    ⟨[unended], hframed, rfl⟩, _, rfl⟩

end DiagnosticBridge.Frame
