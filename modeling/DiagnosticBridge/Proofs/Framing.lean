import DiagnosticBridge.Frame.Writer
import DiagnosticBridge.Proofs.Characters

namespace DiagnosticBridge.Frame

/-!
# Frames read back

A frame tells the length of its body in bytes, so that the reader is right behind the body when it
has read it, whatever the body holds: text beyond ASCII, lines that look like headers, or no JSON
at all.

* `headersFrom_line` — headers are read line by line;
* `headers_header` — the header lines that are written tell the length that was written;
* `read_frame`, `readAll_frame` — one frame is read, and what follows it is left as it is;
* `readAll_frames` — so are many;
* `read_back` — what is written is read back, message by message.
-/

/-! ### Header lines -/

/-- A line up to its line feed is taken as a whole. -/
theorem headersFrom_line (closed started : Bool) (length : Option Nat) {line : List UInt8}
    (h : 10 ∉ line) (before rest : List UInt8) :
    headersFrom closed started length before (line ++ 10 :: rest) =
      match HeaderLine.ofBytes (before.reverse ++ line ++ [10]) with
      | .error fault => .faulty fault
      | .ok .blank => .complete length rest
      | .ok (.length n) => headersFrom closed true (some n) [] rest
      | .ok .other => headersFrom closed true length [] rest := by
  -- The bytes of the line so far are kept in reverse, so the line is moved over one by one.
  induction line generalizing before with
  | nil =>
    rewrite [List.nil_append, headersFrom, if_pos rfl, List.reverse_cons, List.append_nil]
    rfl
  | cons b line ih =>
    rw [List.mem_cons, not_or] at h
    rw [List.cons_append, headersFrom, if_neg (Ne.symm h.1), ih h.2, List.reverse_cons,
      List.append_assoc before.reverse [b] line]
    rfl

/-- A digit is no white space. -/
theorem isSpace_of_isDigit {c : Char} (h : c.isDigit = true) : Text.isSpace c = false := by
  have hc : 48 ≤ c.toNat ∧ c.toNat ≤ 57 := by
    simp only [Char.isDigit, Bool.and_eq_true, decide_eq_true_eq] at h
    exact ⟨h.1, h.2⟩
  simp only [Text.isSpace, Bool.or_eq_false_iff, Bool.and_eq_false_iff, decide_eq_false_iff_not,
    beq_eq_false_iff_ne]
  omega

/-- Digits, and a label in front of them, stay when blank text around them is trimmed off. -/
theorem trim_labelled {before label digits after : List Char} (hbefore : Text.isBlank before = true)
    (hafter : Text.isBlank after = true)
    (hlabel : ∀ c, label.head? = some c → Text.isSpace c = false)
    (hne : digits ≠ []) (h : ∀ c ∈ digits, c.isDigit = true) :
    Text.trim (before ++ (label ++ digits) ++ after) = label ++ digits := by
  have hspace : ∀ c ∈ digits, Text.isSpace c = false := fun c hc => isSpace_of_isDigit (h c hc)
  have hall : label ++ digits ≠ [] := List.append_ne_nil_of_right_ne_nil _ hne
  refine Text.trim_append_append hbefore hafter hall ?_ ?_
  · -- The text that stays begins with the label, or with a digit if there is none.
    cases label with
    | nil => exact hspace _ (List.head_mem _)
    | cons c label => exact hlabel c rfl
  · rw [List.getLast_append_of_ne_nil _ hne]
    exact hspace _ (List.getLast_mem hne)

/-- What stands before the length on its line. -/
def lengthLabel : List Char := "Content-Length: ".toList

/-- The line that tells the length. -/
def lengthLine (n : Nat) : List Char := lengthLabel ++ Nat.toDigits 10 n ++ ['\r']

theorem toDigits_isDigit (n : Nat) : ∀ c ∈ Nat.toDigits 10 n, c.isDigit = true :=
  fun _ hc => Nat.isDigit_of_mem_toDigits (by decide) (by decide) hc

/-- The line that tells a length is read as that length. -/
theorem ofText_lengthLine {n : Nat} (h : n < UInt64.size) :
    HeaderLine.ofText (lengthLine n ++ ['\n']) = .ok (.length n) := by
  have hdigits := toDigits_isDigit n
  have hlabel : ∀ c, lengthLabel.head? = some c → Text.isSpace c = false := by
    rintro c ⟨⟩
    rfl
  have hline : Text.trim (lengthLine n ++ ['\n']) = lengthLabel ++ Nat.toDigits 10 n := by
    have htrim : Text.trim ([] ++ (lengthLabel ++ Nat.toDigits 10 n) ++ ['\r', '\n']) = _ :=
      trim_labelled rfl rfl hlabel Nat.toDigits_ne_nil hdigits
    rw [lengthLine, List.append_assoc]
    exact htrim
  -- The label ends with a blank, so that the value has to be trimmed once more.
  have hcut : Text.cutAtChar? ':' (lengthLabel ++ Nat.toDigits 10 n) =
      some ("Content-Length".toList, ' ' :: Nat.toDigits 10 n) := rfl
  have hvalue : Text.trim (' ' :: Nat.toDigits 10 n) = Nat.toDigits 10 n := by
    have htrim : Text.trim ([' '] ++ ([] ++ Nat.toDigits 10 n) ++ []) = _ :=
      trim_labelled rfl rfl (fun _ hc => nomatch hc) Nat.toDigits_ne_nil hdigits
    rwa [List.append_nil] at htrim
  have hread : Decimal.signed? UInt64.size (Nat.toDigits 10 n) = some n := by
    rw [Decimal.signed?_of_isDigit _ hdigits, Decimal.bounded?_toDigits h]
  have hname : isLengthName "Content-Length".toList = true := rfl
  rw [HeaderLine.ofText, hline]
  simp only [hcut, hname, hvalue, hread]
  rfl

/-- It is read so from its bytes, too. -/
theorem ofBytes_lengthLine {n : Nat} (h : n < UInt64.size) :
    HeaderLine.ofBytes (Utf8.encode (lengthLine n) ++ [10]) = .ok (.length n) := by
  have hline : Utf8.encode (lengthLine n ++ ['\n']) = Utf8.encode (lengthLine n) ++ [10] :=
    Utf8.encode_append _ _
  rw [← hline, HeaderLine.ofBytes, Utf8.decode_encode]
  exact ofText_lengthLine h

/-- It is one line. -/
theorem lineFeed_not_mem_lengthLine (n : Nat) : 10 ∉ Utf8.encode (lengthLine n) := by
  refine Utf8.lineFeed_not_mem_encode fun hmem => ?_
  rcases List.mem_append.mp hmem with hmem | hmem
  · rcases List.mem_append.mp hmem with hmem | hmem
    · exact absurd hmem (by decide)
    · exact absurd (toDigits_isDigit n _ hmem) (by decide)
  · exact absurd hmem (by decide)

/-- The header lines are the line that tells the length and a blank one. -/
theorem header_eq (n : Nat) : header n = Utf8.encode (lengthLine n) ++ [10, 13, 10] := by
  have hlines : header n = Utf8.encode (lengthLine n ++ ['\n', '\r', '\n']) := by
    rw [lengthLine, List.append_assoc _ ['\r']]
    rfl
  rw [hlines, Utf8.encode_append]
  rfl

/-- **What the header lines tell.** The header lines that are written tell the length that was
    written. -/
theorem headers_header (closed : Bool) {n : Nat} (h : n < UInt64.size) (rest : List UInt8) :
    headers closed (header n ++ rest) = .complete (some n) rest := by
  have hblank : HeaderLine.ofBytes ([13] ++ [10]) = .ok .blank := rfl
  have hheader : header n ++ rest = Utf8.encode (lengthLine n) ++ 10 :: ([13] ++ 10 :: rest) := by
    rw [header_eq, List.append_assoc]
    rfl
  rw [hheader, headers, headersFrom_line _ _ _ (lineFeed_not_mem_lengthLine n)]
  simp only [List.reverse_nil, List.nil_append, ofBytes_lengthLine h]
  -- The second line holds nothing but its return.
  rw [headersFrom_line _ _ _ (by decide)]
  simp only [List.reverse_nil, List.nil_append, hblank]

/-! ### Frames -/

/-- What the reader gets from a body. -/
def Item.ofBody (body : List UInt8) : Item :=
  match Json.parse body with
  | .ok value => .message value
  | .error e => .malformed e

/-- What reading a body comes to when the reader is right behind it. -/
def Reading.ofBody (body rest : List UInt8) : Reading :=
  match Json.parse body with
  | .ok value => .message value rest
  | .error e => .malformed e rest

/-- Whatever the body holds, what follows it is left. -/
theorem Reading.rest?_ofBody (body rest : List UInt8) :
    (Reading.ofBody body rest).rest? = some rest := by
  rw [Reading.ofBody]
  cases Json.parse body <;> rfl

/-- A body is read by the length that the headers tell, and the reader is right behind it. -/
theorem read_of_headers {closed : Bool} {bytes body rest : List UInt8}
    (hheaders : headers closed bytes = .complete (some body.length) (body ++ rest))
    (h : body.length ≤ greatestLength) : read closed bytes = .ofBody body rest := by
  have hlength : ¬ (body ++ rest).length < body.length := by simp
  rw [read, hheaders]
  simp only [if_neg (Nat.not_lt.mpr h)]
  rewrite [readBody, if_neg hlength, List.take_left, List.drop_left]
  rfl

/-- A frame is read, and the reader is right behind it. -/
theorem read_frame (closed : Bool) {body : List UInt8} (h : body.length ≤ greatestLength)
    (rest : List UInt8) : read closed (frame body ++ rest) = .ofBody body rest := by
  have hsize : body.length < UInt64.size := Nat.lt_of_le_of_lt h (by decide)
  rw [frame, List.append_assoc]
  exact read_of_headers (headers_header closed hsize (body ++ rest)) h

/-- When a body is read, what the reader gets is what it gets from the body, and then what it gets
    from the rest. -/
theorem readAll_of_body {closed : Bool} {bytes body rest : List UInt8}
    (hread : read closed bytes = .ofBody body rest) :
    readAll closed bytes =
      (Item.ofBody body :: (readAll closed rest).1, (readAll closed rest).2) := by
  rw [readAll]
  cases hbody : Json.parse body with
  | ok value =>
    rw [Reading.ofBody, hbody] at hread
    split <;> simp_all [Item.ofBody]
  | error e =>
    rw [Reading.ofBody, hbody] at hread
    split <;> simp_all [Item.ofBody]

/-- A frame is one item; what follows it is read on. -/
theorem readAll_frame (closed : Bool) {body : List UInt8} (h : body.length ≤ greatestLength)
    (rest : List UInt8) :
    readAll closed (frame body ++ rest) =
      (Item.ofBody body :: (readAll closed rest).1, (readAll closed rest).2) :=
  readAll_of_body (read_frame closed h rest)

/-- **Frames do not touch each other.** -/
theorem readAll_frames (closed : Bool) {bodies : List (List UInt8)}
    (h : ∀ body ∈ bodies, body.length ≤ greatestLength) (rest : List UInt8) :
    readAll closed (bodies.flatMap frame ++ rest) =
      (bodies.map Item.ofBody ++ (readAll closed rest).1, (readAll closed rest).2) := by
  -- After each frame the reader is where the next one begins.
  induction bodies with
  | nil => rfl
  | cons body bodies ih =>
    rw [List.forall_mem_cons] at h
    rw [List.flatMap_cons, List.append_assoc, readAll_frame closed h.1, ih h.2]
    rfl

theorem readAll_nil : readAll true [] = ([.finished], []) := by
  rw [readAll]
  rfl

/-- A channel with room enough takes all frames. -/
theorem writeAll_of_room (frames : List (List UInt8)) :
    writeAll none frames = (frames.flatten, none, none) := by
  induction frames with
  | nil => rfl
  | cons bytes frames ih =>
    simp only [writeAll, write, ih]
    rfl

/-- What is written as text is read as what the text denotes. -/
theorem exists_written {α : Type} (text : α → List Char) (value : α → Json) {items : List α}
    (hlength : ∀ a ∈ items, (Utf8.encode (text a)).length ≤ greatestLength)
    (hparse : ∀ a ∈ items, Json.parse (Utf8.encode (text a)) = .ok (value a)) :
    ∃ written, writeAll none (items.map fun a => frame (Utf8.encode (text a))) =
        (written, none, none) ∧
      readAll true written = (items.map (fun a => .message (value a)) ++ [.finished], []) := by
  refine ⟨_, writeAll_of_room _, ?_⟩
  have hbodies : (items.map fun a => frame (Utf8.encode (text a))).flatten =
      (items.map fun a => Utf8.encode (text a)).flatMap frame ++ [] := by
    rw [List.append_nil, List.flatMap_map, List.flatMap_def]
  have hitems : (items.map fun a => Utf8.encode (text a)).map Item.ofBody =
      items.map fun a => .message (value a) := by
    rw [List.map_map]
    refine List.map_congr_left fun a ha => ?_
    rw [Function.comp_apply, Item.ofBody, hparse a ha]
  rw [hbodies, readAll_frames _ (List.forall_mem_map.mpr hlength), hitems, readAll_nil]

/-- **What is framed is read back.** From frames of bodies that are not too long the reader gets
    one item for each body, in order, and then the end of the stream: the value that the body
    denotes, or why it is no JSON.  In particular, messages that are written are read back as they
    are, and so are any other values, provided that their texts denote them. -/
theorem read_back :
    (∀ bodies : List (List UInt8), (∀ body ∈ bodies, body.length ≤ greatestLength) →
      readAll true (bodies.flatMap frame) = (bodies.map Item.ofBody ++ [.finished], [])) ∧
    (∀ messages : List Outgoing,
      (∀ m ∈ messages, (Utf8.encode m.text).length ≤ greatestLength) →
      (∀ m ∈ messages, Json.parse (Utf8.encode m.text) = .ok m.value) →
      ∃ written, writeAll none (messages.map ofMessage) = (written, none, none) ∧
        readAll true written = (messages.map (fun m => .message m.value) ++ [.finished], [])) ∧
    (∀ values : List Json,
      (∀ v ∈ values, (Utf8.encode v.text).length ≤ greatestLength) →
      (∀ v ∈ values, Json.parse (Utf8.encode v.text) = .ok v) →
      ∃ written, writeAll none (values.map ofValue) = (written, none, none) ∧
        readAll true written = (values.map .message ++ [.finished], [])) := by
  refine ⟨?_, fun messages => exists_written _ _, fun values => exists_written _ _⟩
  intro bodies h
  have hall := readAll_frames true h []
  rwa [List.append_nil, readAll_nil] at hall

/-- A warning beyond ASCII. -/
def warning : Outgoing := .notification (.showMessage .warning "Ünïcode ⏏")

/-- A body that is no JSON but looks like a frame. -/
def unframed : List UInt8 := Utf8.encode "Content-Length: 2\r\n\r\n{}".toList

/-- A body that looks like a frame and is no JSON leaves the messages around it as they are. -/
theorem read_back_warning :
    readAll true ([Utf8.encode warning.text, unframed, Utf8.encode warning.text].flatMap frame) =
      ([.message warning.value, Item.ofBody unframed, .message warning.value, .finished], []) ∧
    (∃ e, Item.ofBody unframed = .malformed e) ∧
    ∃ written, writeAll none ([warning, warning].map ofMessage) = (written, none, none) ∧
      readAll true written = ([.message warning.value, .message warning.value, .finished], []) := by
  have hparse : Json.parse (Utf8.encode warning.text) = .ok warning.value := by rfl
  have hwarning : Item.ofBody (Utf8.encode warning.text) = .message warning.value := by
    rw [Item.ofBody, hparse]
  have hlength : (Utf8.encode warning.text).length ≤ greatestLength := by decide +kernel
  have hunframed : unframed.length ≤ greatestLength := by decide +kernel
  refine ⟨?_, ⟨_, rfl⟩, ?_⟩
  · have hall := read_back.1 [Utf8.encode warning.text, unframed, Utf8.encode warning.text]
      (by simp only [List.forall_mem_cons]; exact ⟨hlength, hunframed, hlength, by simp⟩)
    rw [hall, List.map_cons, hwarning]
    rfl
  · exact read_back.2.1 [warning, warning] (by simp [hlength]) (by simp [hparse])

end DiagnosticBridge.Frame
