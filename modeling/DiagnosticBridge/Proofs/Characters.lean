import DiagnosticBridge.Text.Utf8
import Mathlib.Data.List.Basic

namespace DiagnosticBridge.Utf8

/-!
# Text reads back from its bytes

A character is written as a leading byte and as many bytes inside the character as the leading one
announces.  The decoder takes them one by one and is between two characters again.

* `lead_two`, `lead_three`, `lead_four` — what a leading byte announces;
* `decodeFrom_last`, `decodeFrom_more` — what the bytes inside a character do;
* `decodeFrom_character` — so the decoder reads the character that was written;
* `decode_encode` — and every text;
* `ascii_mem_encode_iff` — the byte of an ASCII character stands for it only, so that a line
  written in bytes is one line of bytes;
* `beginsAlike_of_decodeFrom`, `decode_eq_ok_iff` — nothing but the bytes of a text is read as it.
-/

theorem toNat_ofNat {n : Nat} (h : n < 256) : (UInt8.ofNat n).toNat = n := by
  rw [UInt8.toNat_ofNat']
  exact Nat.mod_eq_of_lt h

/-! ### Leading bytes -/

/-- What a byte between two characters begins, by its value. -/
theorem lead_ofNat {n : Nat} (h : n < 256) :
    lead (UInt8.ofNat n) =
      if n < 0x80 then .whole (Char.ofNat n)
      else if n < 0xC2 then .stray
      else if n < 0xE0 then .opens ⟨0, 0x80, 0xBF, n - 0xC0, 1⟩
      else if n = 0xE0 then .opens ⟨1, 0xA0, 0xBF, 0, 1⟩
      else if n = 0xED then .opens ⟨1, 0x80, 0x9F, 0xD, 1⟩
      else if n < 0xF0 then .opens ⟨1, 0x80, 0xBF, n - 0xE0, 1⟩
      else if n = 0xF0 then .opens ⟨2, 0x90, 0xBF, 0, 1⟩
      else if n < 0xF4 then .opens ⟨2, 0x80, 0xBF, n - 0xF0, 1⟩
      else if n = 0xF4 then .opens ⟨2, 0x80, 0x8F, 4, 1⟩
      else .stray := by
  simp only [lead, UInt8.lt_iff_toNat_lt, ← UInt8.toNat_inj, toNat_ofNat h]
  rfl

/-- A byte below 128 is a character of its own. -/
theorem lead_one {n : Nat} (h : n < 0x80) : lead (UInt8.ofNat n) = .whole (Char.ofNat n) := by
  rw [lead_ofNat (by omega), if_pos h]

/-- A byte from 194 to 223 opens a character of two bytes. -/
theorem lead_two {n : Nat} (hlow : 0xC2 ≤ n) (hhigh : n < 0xE0) :
    lead (UInt8.ofNat n) = .opens ⟨0, 0x80, 0xBF, n - 0xC0, 1⟩ := by
  rw [lead_ofNat (by omega), if_neg (by omega), if_neg (by omega), if_pos hhigh]

/-- The least leading byte of three leaves out what two bytes can say, another one the code points
    that are no characters. -/
theorem lead_three {n : Nat} (hlow : 0xE0 ≤ n) (hhigh : n < 0xF0) :
    lead (UInt8.ofNat n) =
      .opens
        ⟨1, if n = 0xE0 then 0xA0 else 0x80, if n = 0xED then 0x9F else 0xBF, n - 0xE0, 1⟩ := by
  rw [lead_ofNat (by omega), if_neg (by omega), if_neg (by omega), if_neg (by omega)]
  by_cases hleast : n = 0xE0
  · subst hleast
    rfl
  by_cases hgap : n = 0xED
  · subst hgap
    rfl
  rw [if_neg hleast, if_neg hgap, if_pos hhigh, if_neg hleast, if_neg hgap]

/-- The least leading byte of four leaves out what three bytes can say, the greatest one what is
    beyond the last character. -/
theorem lead_four {n : Nat} (hlow : 0xF0 ≤ n) (hhigh : n ≤ 0xF4) :
    lead (UInt8.ofNat n) =
      .opens
        ⟨2, if n = 0xF0 then 0x90 else 0x80, if n = 0xF4 then 0x8F else 0xBF, n - 0xF0, 1⟩ := by
  rw [lead_ofNat (by omega), if_neg (by omega), if_neg (by omega), if_neg (by omega),
    if_neg (by omega), if_neg (by omega), if_neg (by omega)]
  by_cases hleast : n = 0xF0
  · subst hleast
    rfl
  by_cases hlast : n = 0xF4
  · subst hlast
    rfl
  rw [if_neg hleast, if_pos (by omega), if_neg hleast, if_neg hlast]

/-! ### Bytes inside a character -/

variable {low high : UInt8} {bits read n index : Nat} {rest : List UInt8}

/-- The last byte of a character completes it. -/
theorem decodeFrom_last (h : n < 64) (hlow : low.toNat ≤ n + 128) (hhigh : n + 128 ≤ high.toNat) :
    decodeFrom index (some ⟨0, low, high, bits, read⟩) (UInt8.ofNat (n + 128) :: rest) =
      (decodeFrom (index + 1) none rest).map (Char.ofNat (bits * 64 + n) :: ·) := by
  have hin : ¬ (n + 128 < low.toNat ∨ high.toNat < n + 128) := by omega
  have hnext : (Partial.mk 0 low high bits read).next (UInt8.ofNat (n + 128)) =
      .whole (Char.ofNat (bits * 64 + n)) := by
    simp only [Partial.next, UInt8.lt_iff_toNat_lt, toNat_ofNat (show n + 128 < 256 by omega),
      Bool.or_eq_true, decide_eq_true_eq, if_neg hin, Nat.add_sub_cancel]
  rw [decodeFrom, hnext]

/-- Any other byte of a character continues it. -/
theorem decodeFrom_more {more : Nat} (h : n < 64) (hlow : low.toNat ≤ n + 128)
    (hhigh : n + 128 ≤ high.toNat) :
    decodeFrom index (some ⟨more + 1, low, high, bits, read⟩) (UInt8.ofNat (n + 128) :: rest) =
      decodeFrom (index + 1) (some ⟨more, 0x80, 0xBF, bits * 64 + n, read + 1⟩) rest := by
  have hin : ¬ (n + 128 < low.toNat ∨ high.toNat < n + 128) := by omega
  have hnext : (Partial.mk (more + 1) low high bits read).next (UInt8.ofNat (n + 128)) =
      .opens ⟨more, 0x80, 0xBF, bits * 64 + n, read + 1⟩ := by
    simp only [Partial.next, UInt8.lt_iff_toNat_lt, toNat_ofNat (show n + 128 < 256 by omega),
      Bool.or_eq_true, decide_eq_true_eq, if_neg hin, Nat.add_sub_cancel]
  rw [decodeFrom, hnext]

/-! ### Characters and texts -/

/-- **A character reads back**, whatever follows it. -/
theorem decodeFrom_character (index : Nat) (c : Char) (rest : List UInt8) :
    decodeFrom index none (String.utf8EncodeChar c ++ rest) =
      (decodeFrom (index + (String.utf8EncodeChar c).length) none rest).map (c :: ·) := by
  have hvalid : c.toNat < 0xD800 ∨ 0xDFFF < c.toNat ∧ c.toNat < 0x110000 := c.valid
  have hback : ∀ v, v = c.toNat → Char.ofNat v = c := by
    rintro v rfl
    exact c.ofNat_toNat
  have htail : ∀ v, v % 64 < 64 := fun v => Nat.mod_lt _ (by decide)
  have hlow : ∀ v, (0x80 : UInt8).toNat ≤ v % 64 + 128 := fun v => Nat.le_add_left _ _
  have hhigh : ∀ v, v % 64 + 128 ≤ (0xBF : UInt8).toNat := fun v =>
    Nat.add_le_add_right (Nat.le_of_lt_succ (htail v)) 128
  simp only [String.utf8EncodeChar, show c.val.toNat = c.toNat from rfl]
  split
  · -- One byte.
    rw [List.cons_append, decodeFrom, lead_one (by omega), hback _ rfl]
    rfl
  split
  · -- Two bytes.
    rw [List.cons_append, List.cons_append, decodeFrom, lead_two (by omega) (by omega)]
    simp only
    rw [decodeFrom_last (htail _) (hlow _) (hhigh _), hback _ (by omega)]
    rfl
  split
  · -- Three bytes.
    rw [List.cons_append, List.cons_append, List.cons_append, decodeFrom,
      lead_three (by omega) (by omega)]
    simp only
    rw [decodeFrom_more (htail _), decodeFrom_last (htail _) (hlow _) (hhigh _), hback _ (by omega)]
    · rfl
    · split
      · show 0xA0 ≤ _
        omega
      · exact hlow _
    · split
      · show _ ≤ 0x9F
        omega
      · exact hhigh _
  · -- Four bytes.
    rw [List.cons_append, List.cons_append, List.cons_append, List.cons_append, decodeFrom,
      lead_four (by omega) (by omega)]
    simp only
    rw [decodeFrom_more (htail _), decodeFrom_more (htail _) (hlow _) (hhigh _),
      decodeFrom_last (htail _) (hlow _) (hhigh _), hback _ (by omega)]
    · rfl
    · split
      · show 0x90 ≤ _
        omega
      · exact hlow _
    · split
      · show _ ≤ 0x8F
        omega
      · exact hhigh _

theorem encode_append (a b : List Char) : encode (a ++ b) = encode a ++ encode b :=
  List.flatMap_append

/-- What has been encoded is decoded again, from any index on. -/
theorem decodeFrom_encode (index : Nat) (text : List Char) :
    decodeFrom index none (encode text) = .ok text := by
  -- The index is of use in the report of a fault only, but it moves on with every character.
  induction text generalizing index with
  | nil => rfl
  | cons c text ih =>
    rw [encode, List.flatMap_cons, decodeFrom_character, ← encode, ih]
    rfl

/-- **Every text reads back from its bytes.** -/
theorem decode_encode (text : List Char) : decode (encode text) = .ok text :=
  decodeFrom_encode 0 text

/-- No byte of a character beyond ASCII is an ASCII one. -/
theorem le_of_mem_encodeChar {c : Char} (h : 128 ≤ c.toNat) {b : UInt8}
    (hb : b ∈ String.utf8EncodeChar c) : 128 ≤ b.toNat := by
  have hlarge : ∀ v, 128 ≤ v → v < 256 → 128 ≤ (UInt8.ofNat v).toNat := by
    intro v hlow hhigh
    rw [toNat_ofNat hhigh]
    exact hlow
  simp only [String.utf8EncodeChar, show c.val.toNat = c.toNat from rfl] at hb
  -- What is left are the characters of two, three and four bytes.
  rw [if_neg (by omega)] at hb
  split at hb
  · simp only [List.mem_cons, List.not_mem_nil, or_false] at hb
    rcases hb with rfl | rfl <;> exact hlarge _ (by omega) (by omega)
  split at hb
  · simp only [List.mem_cons, List.not_mem_nil, or_false] at hb
    rcases hb with rfl | rfl | rfl <;> exact hlarge _ (by omega) (by omega)
  · simp only [List.mem_cons, List.not_mem_nil, or_false] at hb
    rcases hb with rfl | rfl | rfl | rfl <;> exact hlarge _ (by omega) (by omega)

/-- Only an ASCII character itself is written with its byte. -/
theorem ascii_mem_encode_iff {c : Char} (hc : c.toNat < 128) {text : List Char} :
    UInt8.ofNat c.toNat ∈ encode text ↔ c ∈ text := by
  have hone : ∀ d : Char, d.toNat < 128 → String.utf8EncodeChar d = [UInt8.ofNat d.toNat] :=
    fun d hd => if_pos (Nat.le_of_lt_succ hd)
  constructor
  · intro hmem
    obtain ⟨d, hd, hmem⟩ := List.mem_flatMap.mp hmem
    -- An ASCII character is its only byte, and all bytes of any other one are greater.
    by_cases hascii : d.toNat < 128
    · rw [hone d hascii, List.mem_singleton] at hmem
      have heq := congrArg UInt8.toNat hmem
      rw [toNat_ofNat (by omega), toNat_ofNat (by omega)] at heq
      exact Char.toNat_inj.mp heq ▸ hd
    · have hlarge := le_of_mem_encodeChar (Nat.le_of_not_lt hascii) hmem
      rw [toNat_ofNat (by omega)] at hlarge
      omega
  · exact fun hmem => List.mem_flatMap.mpr ⟨c, hmem, by rw [hone c hc, List.mem_singleton]⟩

/-- A line feed among the bytes is one among the characters. -/
theorem lineFeed_mem_encode_iff {text : List Char} : 10 ∈ encode text ↔ '\n' ∈ text :=
  ascii_mem_encode_iff (c := '\n') (by decide)

theorem lineFeed_not_mem_encode {text : List Char} (h : '\n' ∉ text) : 10 ∉ encode text :=
  fun hmem => h (lineFeed_mem_encode_iff.mp hmem)

/-! ### Bytes that are read are those of the text -/

variable {bytes : List UInt8} {text : List Char}

theorem toNat_char {v : Nat} (h : v.isValidChar) : (Char.ofNat v).toNat = v := by
  rw [Char.ofNat, dif_pos h]
  rfl

/-- A byte is read inside a character only if it may stand there. -/
theorem exists_inside {more : Nat} (hlow : 128 ≤ low.toNat) (hhigh : high.toNat < 192)
    (h : decodeFrom index (some ⟨more, low, high, bits, read⟩) bytes = .ok text) :
    ∃ n rest, bytes = UInt8.ofNat (n + 128) :: rest ∧ n < 64 ∧ low.toNat ≤ n + 128 ∧
      n + 128 ≤ high.toNat := by
  cases bytes with
  | nil => cases h
  | cons b rest =>
    -- A byte outside the bounds ends the decoding with a fault.
    by_cases hin : low.toNat ≤ b.toNat ∧ b.toNat ≤ high.toNat
    · refine ⟨b.toNat - 128, rest, ?_, by omega, by omega, by omega⟩
      rw [Nat.sub_add_cancel (by omega), UInt8.ofNat_toNat]
    · have hout : b < low ∨ high < b := by
        rw [UInt8.lt_iff_toNat_lt, UInt8.lt_iff_toNat_lt]
        omega
      have hstray : (Partial.mk more low high bits read).next b = .stray := by
        rw [Partial.next, if_pos (by simpa using hout)]
      rw [decodeFrom, hstray] at h
      cases h

/-- What follows the first character has been decoded, too. -/
theorem exists_of_map_eq_ok {c : Char} {found : Except Malformed (List Char)}
    (h : found.map (c :: ·) = .ok text) : ∃ more, text = c :: more ∧ found = .ok more := by
  cases found with
  | error => cases h
  | ok more => exact ⟨more, (Except.ok.inj h).symm, rfl⟩

/-- The last byte of a character, and the text after it. -/
theorem exists_last (hlow : 128 ≤ low.toNat) (hhigh : high.toNat < 192)
    (h : decodeFrom index (some ⟨0, low, high, bits, read⟩) bytes = .ok text) :
    ∃ n rest more, bytes = UInt8.ofNat (n + 128) :: rest ∧ n < 64 ∧ low.toNat ≤ n + 128 ∧
      n + 128 ≤ high.toNat ∧ text = Char.ofNat (bits * 64 + n) :: more ∧
      decodeFrom (index + 1) none rest = .ok more := by
  obtain ⟨n, rest, rfl, hn, hfrom, hto⟩ := exists_inside hlow hhigh h
  rw [decodeFrom_last hn hfrom hto] at h
  obtain ⟨more, htext, hmore⟩ := exists_of_map_eq_ok h
  exact ⟨n, rest, more, rfl, hn, hfrom, hto, htext, hmore⟩

/-- Any other byte of a character, and what is still read of it. -/
theorem exists_more {more : Nat} (hlow : 128 ≤ low.toNat) (hhigh : high.toNat < 192)
    (h : decodeFrom index (some ⟨more + 1, low, high, bits, read⟩) bytes = .ok text) :
    ∃ n rest, bytes = UInt8.ofNat (n + 128) :: rest ∧ n < 64 ∧ low.toNat ≤ n + 128 ∧
      n + 128 ≤ high.toNat ∧
      decodeFrom (index + 1) (some ⟨more, 0x80, 0xBF, bits * 64 + n, read + 1⟩) rest =
        .ok text := by
  obtain ⟨n, rest, rfl, hn, hfrom, hto⟩ := exists_inside hlow hhigh h
  rw [decodeFrom_more hn hfrom hto] at h
  exact ⟨n, rest, rfl, hn, hfrom, hto, h⟩

/-- The bytes of a character, by its code point. -/
theorem encodeChar_ofNat {v : Nat} (h : v.isValidChar) :
    String.utf8EncodeChar (Char.ofNat v) =
      if v < 0x80 then [UInt8.ofNat v]
      else if v < 0x800 then [UInt8.ofNat (v / 64 + 0xC0), UInt8.ofNat (v % 64 + 128)]
      else if v < 0x10000 then
        [UInt8.ofNat (v / 4096 + 0xE0), UInt8.ofNat (v / 64 % 64 + 128), UInt8.ofNat (v % 64 + 128)]
      else
        [UInt8.ofNat (v / 262144 + 0xF0), UInt8.ofNat (v / 4096 % 64 + 128),
          UInt8.ofNat (v / 64 % 64 + 128), UInt8.ofNat (v % 64 + 128)] := by
  have hsame : (Char.ofNat v).val.toNat = v := toNat_char h
  have hvalid : v < 0xD800 ∨ 0xDFFF < v ∧ v < 0x110000 := h
  simp only [String.utf8EncodeChar, hsame]
  split
  · rw [if_pos (by omega)]
  split
  · rw [if_neg (by omega), if_pos (by omega), Nat.mod_eq_of_lt (by omega : v / 64 < 32)]
  split
  · rw [if_neg (by omega), if_neg (by omega), if_pos (by omega),
      Nat.mod_eq_of_lt (by omega : v / 4096 < 16)]
  · rw [if_neg (by omega), if_neg (by omega), if_neg (by omega),
      Nat.mod_eq_of_lt (by omega : v / 262144 < 8)]

/-- The bytes begin with those of a character, and so does the text; the rest of the one is decoded
    to the rest of the other. -/
def BeginsAlike (bytes : List UInt8) (text : List Char) : Prop :=
  ∃ c rest more later, bytes = String.utf8EncodeChar c ++ rest ∧ text = c :: more ∧
    decodeFrom later none rest = .ok more

variable {v : Nat}

/-- A byte below 128 is a character of its own. -/
theorem beginsAlike_one (hone : v < 0x80)
    (h : decodeFrom index none (UInt8.ofNat v :: bytes) = .ok text) :
    BeginsAlike (UInt8.ofNat v :: bytes) text := by
  rw [decodeFrom, lead_one hone] at h
  obtain ⟨more, htext, hmore⟩ := exists_of_map_eq_ok h
  refine ⟨Char.ofNat v, bytes, more, index + 1, ?_, htext, hmore⟩
  rw [encodeChar_ofNat (Or.inl (by omega)), if_pos hone]
  rfl

/-- A character of two bytes. -/
theorem beginsAlike_two (hlow : 0xC2 ≤ v) (hhigh : v < 0xE0)
    (h : decodeFrom index none (UInt8.ofNat v :: bytes) = .ok text) :
    BeginsAlike (UInt8.ofNat v :: bytes) text := by
  rw [decodeFrom, lead_two hlow hhigh] at h
  obtain ⟨n, rest, more, rfl, hn, _, _, htext, hmore⟩ := exists_last (by decide) (by decide) h
  refine ⟨_, rest, more, _, ?_, htext, hmore⟩
  rw [encodeChar_ofNat (Or.inl (by omega)), if_neg (by omega), if_pos (by omega),
    show ((v - 0xC0) * 64 + n) / 64 + 0xC0 = v by omega,
    show ((v - 0xC0) * 64 + n) % 64 = n by omega]
  rfl

/-- A character of three bytes. -/
theorem beginsAlike_three (hlow : 0xE0 ≤ v) (hhigh : v < 0xF0)
    (h : decodeFrom index none (UInt8.ofNat v :: bytes) = .ok text) :
    BeginsAlike (UInt8.ofNat v :: bytes) text := by
  rw [decodeFrom, lead_three hlow hhigh] at h
  obtain ⟨m, _, rfl, hm, hfrom, hto, h⟩ :=
    exists_more (by split <;> decide) (by split <;> decide) h
  obtain ⟨n, rest, more, rfl, hn, _, _, htext, hmore⟩ := exists_last (by decide) (by decide) h
  -- The bounds of the second byte leave out what two bytes can say, and the surrogates.
  have hleast : v = 0xE0 → 0xA0 ≤ m + 128 := fun heq => by rwa [if_pos heq] at hfrom
  have hgap : v = 0xED → m + 128 ≤ 0x9F := fun heq => by rwa [if_pos heq] at hto
  have hvalid : (((v - 0xE0) * 64 + m) * 64 + n).isValidChar := by
    show _ < 0xD800 ∨ 0xDFFF < _ ∧ _ < 0x110000
    omega
  refine ⟨_, rest, more, _, ?_, htext, hmore⟩
  rw [encodeChar_ofNat hvalid, if_neg (by omega), if_neg (by omega), if_pos (by omega),
    show (((v - 0xE0) * 64 + m) * 64 + n) / 4096 + 0xE0 = v by omega,
    show (((v - 0xE0) * 64 + m) * 64 + n) / 64 % 64 = m by omega,
    show (((v - 0xE0) * 64 + m) * 64 + n) % 64 = n by omega]
  rfl

/-- A character of four bytes. -/
theorem beginsAlike_four (hlow : 0xF0 ≤ v) (hhigh : v ≤ 0xF4)
    (h : decodeFrom index none (UInt8.ofNat v :: bytes) = .ok text) :
    BeginsAlike (UInt8.ofNat v :: bytes) text := by
  rw [decodeFrom, lead_four hlow hhigh] at h
  obtain ⟨l, _, rfl, hl, hfrom, hto, h⟩ :=
    exists_more (by split <;> decide) (by split <;> decide) h
  obtain ⟨m, _, rfl, hm, _, _, h⟩ := exists_more (by decide) (by decide) h
  obtain ⟨n, rest, more, rfl, hn, _, _, htext, hmore⟩ := exists_last (by decide) (by decide) h
  -- Here they leave out what three bytes can say, and what is beyond the last character.
  have hleast : v = 0xF0 → 0x90 ≤ l + 128 := fun heq => by rwa [if_pos heq] at hfrom
  have hlast : v = 0xF4 → l + 128 ≤ 0x8F := fun heq => by rwa [if_pos heq] at hto
  have hvalid : ((((v - 0xF0) * 64 + l) * 64 + m) * 64 + n).isValidChar := by
    show _ < 0xD800 ∨ 0xDFFF < _ ∧ _ < 0x110000
    omega
  refine ⟨_, rest, more, _, ?_, htext, hmore⟩
  rw [encodeChar_ofNat hvalid, if_neg (by omega), if_neg (by omega), if_neg (by omega),
    show ((((v - 0xF0) * 64 + l) * 64 + m) * 64 + n) / 262144 + 0xF0 = v by omega,
    show ((((v - 0xF0) * 64 + l) * 64 + m) * 64 + n) / 4096 % 64 = l by omega,
    show ((((v - 0xF0) * 64 + l) * 64 + m) * 64 + n) / 64 % 64 = m by omega,
    show ((((v - 0xF0) * 64 + l) * 64 + m) * 64 + n) % 64 = n by omega]
  rfl

/-- No character begins with a byte from 128 to 193, or with one above 244. -/
theorem lead_stray (hv : v < 256) (hout : 0x80 ≤ v ∧ v < 0xC2 ∨ 0xF4 < v) :
    lead (UInt8.ofNat v) = .stray := by
  rw [lead_ofNat hv, if_neg (by omega)]
  by_cases hstray : v < 0xC2
  · rw [if_pos hstray]
  · rw [if_neg hstray, if_neg (by omega), if_neg (by omega), if_neg (by omega), if_neg (by omega),
      if_neg (by omega), if_neg (by omega), if_neg (by omega)]

/-- **What is read first is a character**, and its bytes are those that were read. -/
theorem beginsAlike_of_decodeFrom {b : UInt8}
    (h : decodeFrom index none (b :: bytes) = .ok text) : BeginsAlike (b :: bytes) text := by
  obtain ⟨v, hv, rfl⟩ : ∃ v, v < 256 ∧ b = UInt8.ofNat v :=
    ⟨b.toNat, b.toNat_lt, UInt8.ofNat_toNat.symm⟩
  by_cases hstray : 0x80 ≤ v ∧ v < 0xC2 ∨ 0xF4 < v
  · -- Such a byte stands inside a character, or would begin one that takes too many bytes.
    rw [decodeFrom, lead_stray hv hstray] at h
    cases h
  by_cases hone : v < 0x80
  · exact beginsAlike_one hone h
  by_cases htwo : v < 0xE0
  · exact beginsAlike_two (by omega) htwo h
  by_cases hthree : v < 0xF0
  · exact beginsAlike_three (by omega) hthree h
  · exact beginsAlike_four (by omega) (by omega) h

/-- Bytes that are decoded are the encoding of what they are decoded to. -/
theorem eq_encode_of_decodeFrom (h : decodeFrom index none bytes = .ok text) :
    bytes = encode text := by
  -- Character by character, each of which has at least one byte.
  induction hlength : bytes.length using Nat.strongRecOn generalizing bytes text index with
  | ind length ih =>
    cases bytes with
    | nil =>
      obtain rfl := Except.ok.inj h
      rfl
    | cons b bytes =>
      obtain ⟨c, rest, more, later, hbytes, rfl, hmore⟩ := beginsAlike_of_decodeFrom h
      have hshorter : rest.length < length := by
        have hpos : 0 < (String.utf8EncodeChar c).length :=
          String.length_utf8EncodeChar c ▸ Char.utf8Size_pos c
        rw [← hlength, hbytes, List.length_append]
        omega
      rw [hbytes, ih rest.length hshorter hmore rfl]
      rfl

/-- **Bytes that are read are those of the text.** Only the bytes of a text are read as it. -/
theorem decode_eq_ok_iff : decode bytes = .ok text ↔ bytes = encode text :=
  ⟨eq_encode_of_decodeFrom, fun h => h ▸ decode_encode text⟩

/-- No character has an empty encoding. -/
theorem encode_eq_nil_iff : encode text = [] ↔ text = [] := by
  constructor
  · exact fun h => (Except.ok.inj ((decode_encode text).symm.trans (congrArg decode h)))
  · exact fun h => congrArg encode h

/-- A line of bytes that is read with its line feed is a line of text. -/
theorem exists_line {line : List UInt8} (hline : 10 ∉ line)
    (h : decode (line ++ [10]) = .ok text) :
    ∃ front, text = front ++ ['\n'] ∧ '\n' ∉ front ∧ line = encode front := by
  have hbytes : line ++ [10] = encode text := decode_eq_ok_iff.mp h
  have hfeed : '\n' ∈ text := by
    rw [← lineFeed_mem_encode_iff, ← hbytes]
    exact List.mem_concat_self
  obtain ⟨front, back, rfl, hfront⟩ := List.eq_append_cons_of_mem hfeed
  have hsplit : encode (front ++ '\n' :: back) = encode front ++ 10 :: encode back :=
    encode_append front ('\n' :: back)
  obtain ⟨rfl, -, hback⟩ :=
    (List.append_cons_inj_of_notMem hline List.not_mem_nil).mp (hbytes.trans hsplit)
  obtain rfl := encode_eq_nil_iff.mp hback.symm
  exact ⟨front, rfl, hfront, rfl⟩

end DiagnosticBridge.Utf8
