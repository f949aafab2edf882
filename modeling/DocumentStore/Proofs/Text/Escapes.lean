import DocumentStore.Text.Utf8

/-!
# Escaped text read back

The UTF-8 bytes of a text are those characters again, and every text can be written with percent
escapes: as it is when it holds no percent sign, and byte by byte in any case.

* `escapeText` — a text with every byte of it escaped.

Principal results: `decodeUtf8_encode` — the bytes of a text are read as it.
`decode_unescaped` — a text without percent signs stands for itself.
`decode_escapeText` — an escaped text stands for the text.
-/

set_option autoImplicit false

namespace DocumentStore

/-! ## Characters and their bytes -/

theorem toNat_byte {n : Nat} (h : n < 256) : (UInt8.ofNat n).toNat = n := by
  rw [UInt8.toNat_ofNat']
  exact Nat.mod_eq_of_lt h

theorem isContinuation_byte {n : Nat} (h : n < 64) : isContinuation (n + 0x80) = true := by
  simp only [isContinuation, Bool.and_eq_true, decide_eq_true_eq]
  omega

theorem leadByte?_two {high : Nat} (least : 2 ≤ high) (most : high < 32) :
    leadByte? (high + 0xC0) = some (2, 0x80, 0xBF) := by
  unfold leadByte?
  rw [if_pos (by omega)]

/-- A lead of three bytes keeps the second from writing a shorter character or a surrogate. -/
theorem exists_leadByte?_three {high middle : Nat} (most : high < 16) (within : middle < 64)
    (long : high = 0 → 32 ≤ middle) (valid : high = 13 → middle < 32) :
    ∃ least greatest, leadByte? (high + 0xE0) = some (3, least, greatest) ∧
      least ≤ middle + 0x80 ∧ middle + 0x80 ≤ greatest := by
  unfold leadByte?
  rw [if_neg (by omega)]
  split
  · exact ⟨_, _, rfl, by omega, by omega⟩
  · split
    · exact ⟨_, _, rfl, by omega, by omega⟩
    · rw [if_pos (by omega)]
      exact ⟨_, _, rfl, by omega, by omega⟩

/-- A lead of four bytes keeps the second from writing a shorter character or one beyond the
last. -/
theorem exists_leadByte?_four {high middle : Nat} (most : high < 5) (within : middle < 64)
    (long : high = 0 → 16 ≤ middle) (valid : high = 4 → middle < 16) :
    ∃ least greatest, leadByte? (high + 0xF0) = some (4, least, greatest) ∧
      least ≤ middle + 0x80 ∧ middle + 0x80 ≤ greatest := by
  unfold leadByte?
  rw [if_neg (by omega), if_neg (by omega), if_neg (by omega), if_neg (by omega)]
  split
  · exact ⟨_, _, rfl, by omega, by omega⟩
  · split
    · exact ⟨_, _, rfl, by omega, by omega⟩
    · rw [if_pos (by omega)]
      exact ⟨_, _, rfl, by omega, by omega⟩

section Bytes

variable (index : Nat) (rest : List UInt8) {c : Char}

theorem ofNat_eq_of_code {code : Nat} (h : code = c.val.toNat) : Char.ofNat code = c := by
  rw [h]
  exact Char.ofNat_toNat c

theorem decodeUtf8From_one (most : c.val.toNat < 0x80) :
    decodeUtf8From index (UInt8.ofNat c.val.toNat :: rest) =
      (decodeUtf8From (index + 1) rest).map (c :: ·) := by
  rw [decodeUtf8From]
  simp only [toNat_byte (Nat.lt_trans most (by decide : 0x80 < 256)), if_pos most,
    ofNat_eq_of_code rfl]

theorem decodeUtf8From_two {high low : Nat} (code : high * 64 + low = c.val.toNat)
    (least : 2 ≤ high) (most : high < 32) (within : low < 64) :
    decodeUtf8From index (UInt8.ofNat (high + 0xC0) :: UInt8.ofNat (low + 0x80) :: rest) =
      (decodeUtf8From (index + 2) rest).map (c :: ·) := by
  have first : (UInt8.ofNat (high + 0xC0)).toNat = high + 0xC0 := toNat_byte (by omega)
  have second : (UInt8.ofNat (low + 0x80)).toNat = low + 0x80 := toNat_byte (by omega)
  have longer : ¬ high + 0xC0 < 0x80 := by omega
  have inside : ¬ (low + 0x80 < 0x80 ∨ 0xBF < low + 0x80) := by omega
  rw [decodeUtf8From]
  simp only [first, second, leadByte?_two least most, Bool.or_eq_true, decide_eq_true_eq,
    if_neg longer, if_neg inside, Nat.add_sub_cancel, ofNat_eq_of_code code, if_true]

theorem decodeUtf8From_three {high middle low : Nat}
    (code : (high * 64 + middle) * 64 + low = c.val.toNat) (most : high < 16)
    (within : middle < 64 ∧ low < 64) (long : high = 0 → 32 ≤ middle)
    (valid : high = 13 → middle < 32) :
    decodeUtf8From index (UInt8.ofNat (high + 0xE0) :: UInt8.ofNat (middle + 0x80) ::
        UInt8.ofNat (low + 0x80) :: rest) =
      (decodeUtf8From (index + 3) rest).map (c :: ·) := by
  have first : (UInt8.ofNat (high + 0xE0)).toNat = high + 0xE0 := toNat_byte (by omega)
  have second : (UInt8.ofNat (middle + 0x80)).toNat = middle + 0x80 := toNat_byte (by omega)
  have third : (UInt8.ofNat (low + 0x80)).toNat = low + 0x80 := toNat_byte (by omega)
  obtain ⟨least, greatest, lead, above, below⟩ :=
    exists_leadByte?_three most within.1 long valid
  have longer : ¬ high + 0xE0 < 0x80 := by omega
  have inside : ¬ (middle + 0x80 < least ∨ greatest < middle + 0x80) := by omega
  rw [decodeUtf8From]
  simp only [first, second, third, lead, isContinuation_byte within.2, Bool.or_eq_true,
    decide_eq_true_eq, if_neg longer, if_neg inside, Nat.add_sub_cancel, ofNat_eq_of_code code,
    Nat.succ_ne_self, Bool.not_true, Bool.false_eq_true, if_false, if_true]

theorem decodeUtf8From_four {high middle next low : Nat}
    (code : ((high * 64 + middle) * 64 + next) * 64 + low = c.val.toNat) (most : high < 5)
    (within : middle < 64 ∧ next < 64 ∧ low < 64) (long : high = 0 → 16 ≤ middle)
    (valid : high = 4 → middle < 16) :
    decodeUtf8From index (UInt8.ofNat (high + 0xF0) :: UInt8.ofNat (middle + 0x80) ::
        UInt8.ofNat (next + 0x80) :: UInt8.ofNat (low + 0x80) :: rest) =
      (decodeUtf8From (index + 4) rest).map (c :: ·) := by
  have first : (UInt8.ofNat (high + 0xF0)).toNat = high + 0xF0 := toNat_byte (by omega)
  have second : (UInt8.ofNat (middle + 0x80)).toNat = middle + 0x80 := toNat_byte (by omega)
  have third : (UInt8.ofNat (next + 0x80)).toNat = next + 0x80 := toNat_byte (by omega)
  have fourth : (UInt8.ofNat (low + 0x80)).toNat = low + 0x80 := toNat_byte (by omega)
  obtain ⟨least, greatest, lead, above, below⟩ :=
    exists_leadByte?_four most within.1 long valid
  have longer : ¬ high + 0xF0 < 0x80 := by omega
  have inside : ¬ (middle + 0x80 < least ∨ greatest < middle + 0x80) := by omega
  rw [decodeUtf8From]
  simp only [first, second, third, fourth, lead, isContinuation_byte within.2.1,
    isContinuation_byte within.2.2, Bool.or_eq_true, decide_eq_true_eq, if_neg longer,
    if_neg inside, Nat.add_sub_cancel, ofNat_eq_of_code code, Nat.reduceEqDiff, Bool.not_true,
    Bool.false_eq_true, if_false]

end Bytes

/-- **The bytes of a character are read as it**, whatever follows them. -/
theorem decodeUtf8From_encodeChar (index : Nat) (c : Char) (rest : List UInt8) :
    ∃ next, decodeUtf8From index (String.utf8EncodeChar c ++ rest) =
      (decodeUtf8From next rest).map (c :: ·) := by
  have valid : c.val.toNat < 0xD800 ∨ 0xDFFF < c.val.toNat ∧ c.val.toNat < 0x110000 := c.valid
  unfold String.utf8EncodeChar
  simp only
  -- That the character is no surrogate bears on three bytes, that it is one there is on four.
  split
  · exact ⟨_, decodeUtf8From_one index rest (by omega)⟩
  · split
    · exact ⟨_, decodeUtf8From_two index rest (by omega) (by omega) (by omega) (by omega)⟩
    · split
      · exact ⟨_, decodeUtf8From_three index rest (by omega) (by omega) (by omega) (by omega)
          (by omega)⟩
      · exact ⟨_, decodeUtf8From_four index rest (by omega) (by omega) (by omega) (by omega)
          (by omega)⟩

theorem decodeUtf8From_encode : ∀ (text : List Char) (index : Nat),
    decodeUtf8From index (text.flatMap String.utf8EncodeChar) = .ok text
  | [], _ => by rw [List.flatMap_nil, decodeUtf8From]
  | c :: text, index => by
    obtain ⟨next, decoded⟩ :=
      decodeUtf8From_encodeChar index c (text.flatMap String.utf8EncodeChar)
    rw [List.flatMap_cons, decoded, decodeUtf8From_encode text next]
    rfl

/-- **The bytes of a text are read as it.** -/
theorem decodeUtf8_encode (text : List Char) :
    decodeUtf8 (text.flatMap String.utf8EncodeChar) = .ok text :=
  decodeUtf8From_encode text 0

/-! ## Escapes -/

theorem unescapeBytes_cons {c : Char} (h : c ≠ '%') (rest : List Char) :
    unescapeBytes (c :: rest) = String.utf8EncodeChar c ++ unescapeBytes rest := by
  rw [unescapeBytes]
  intro _ _ _ hc _
  exact h hc

theorem unescapeBytes_of_not_mem : ∀ {text : List Char}, '%' ∉ text →
    unescapeBytes text = text.flatMap String.utf8EncodeChar
  | [], _ => by rw [unescapeBytes, List.flatMap_nil]
  | c :: rest, h => by
    have hc : c ≠ '%' := (List.ne_of_not_mem_cons h).symm
    have hrest : '%' ∉ rest := List.not_mem_of_not_mem_cons h
    rw [unescapeBytes_cons hc, unescapeBytes_of_not_mem hrest, List.flatMap_cons]

/-- **A text without percent signs stands for itself.** -/
theorem decode_unescaped {text : List Char} (h : '%' ∉ text) :
    decodeUtf8 (unescapeBytes text) = .ok text := by
  rw [unescapeBytes_of_not_mem h, decodeUtf8_encode]

/-- A hexadecimal digit, in capitals. -/
def hexDigitOf (n : Nat) : Char := n.digitChar.toUpper

/-- A byte as an escape. -/
def escapeByte (b : UInt8) : List Char :=
  ['%', hexDigitOf (b.toNat / 16), hexDigitOf (b.toNat % 16)]

/-- A text with every byte of it escaped. -/
def escapeText (text : List Char) : List Char :=
  (text.flatMap String.utf8EncodeChar).flatMap escapeByte

theorem hexDigit?_hexDigitOf : ∀ n < 16, hexDigit? (hexDigitOf n) = some n := by decide

theorem hexDigitOf_ne_newline : ∀ n < 16, hexDigitOf n ≠ '\n' := by decide

theorem unescapeBytes_escape : ∀ bytes : List UInt8,
    unescapeBytes (bytes.flatMap escapeByte) = bytes
  | [] => by rw [List.flatMap_nil, unescapeBytes]
  | b :: rest => by
    have byte : 16 * (b.toNat / 16) + b.toNat % 16 = b.toNat := Nat.div_add_mod b.toNat 16
    have high : b.toNat / 16 < 16 := Nat.div_lt_of_lt_mul b.toNat_lt
    have low : b.toNat % 16 < 16 := Nat.mod_lt _ (by decide)
    rw [List.flatMap_cons]
    show unescapeBytes ('%' :: _ :: _ :: rest.flatMap escapeByte) = _
    rw [unescapeBytes]
    simp only [hexDigit?_hexDigitOf _ high, hexDigit?_hexDigitOf _ low, byte, UInt8.ofNat_toNat,
      unescapeBytes_escape rest]

/-- **An escaped text stands for the text.** -/
theorem decode_escapeText (text : List Char) :
    decodeUtf8 (unescapeBytes (escapeText text)) = .ok text := by
  unfold escapeText
  rw [unescapeBytes_escape, decodeUtf8_encode]

theorem newline_not_mem_escapeText (text : List Char) : '\n' ∉ escapeText text := by
  intro h
  obtain ⟨b, _, h⟩ := List.mem_flatMap.mp h
  have high : b.toNat / 16 < 16 := Nat.div_lt_of_lt_mul b.toNat_lt
  have low : b.toNat % 16 < 16 := Nat.mod_lt _ (by decide)
  simp only [escapeByte, List.mem_cons, List.not_mem_nil, or_false] at h
  rcases h with h | h | h
  · exact absurd h (by decide)
  · exact hexDigitOf_ne_newline _ high h.symm
  · exact hexDigitOf_ne_newline _ low h.symm

end DocumentStore
