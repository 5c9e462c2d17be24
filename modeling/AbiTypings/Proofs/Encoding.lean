import AbiTypings.Abi.Load

/-!
# Texts as bytes

Every text is read back from its bytes. The bytes of a character are one byte of its own or a lead
and up to three bytes that continue it; the lead sets the range of the byte after it, and as no
character is a surrogate or beyond the last code point, the bytes of a character keep to the ranges.
-/

namespace AbiTypings.Text.Utf8

/-! ## Reading one byte -/

section Steps

variable {position : Nat} {begun : Begun} {byte : UInt8} {rest : List UInt8}

/-- A byte that begins a sequence opens it. -/
theorem decodeFrom_begin (large : 0x80 ≤ byte.toNat) (begins : begin? byte = some begun) :
    decodeFrom position none (byte :: rest) = decodeFrom (position + 1) (some begun) rest := by
  rw [decodeFrom, if_neg (Nat.not_lt.mpr large), begins]

/-- A byte in the middle of a sequence continues it. -/
theorem decodeFrom_more (admitted : begun.admits byte = true) (more : 1 < begun.awaited) :
    decodeFrom position (some begun) (byte :: rest) =
      decodeFrom (position + 1) (some (begun.advance byte)) rest := by
  have left : (begun.advance byte).awaited ≠ 0 := by
    simp only [Begun.advance]
    omega
  rw [decodeFrom, if_pos admitted]
  simp only [if_neg left]

/-- The last byte of a sequence completes a character. -/
theorem decodeFrom_last (admitted : begun.admits byte = true) (last : begun.awaited = 1) :
    decodeFrom position (some begun) (byte :: rest) =
      (decodeFrom (position + 1) none rest).map
        (Char.ofNat (begun.advance byte).value :: ·) := by
  have done : (begun.advance byte).awaited = 0 := by simp [Begun.advance, last]
  rw [decodeFrom, if_pos admitted]
  simp only [if_pos done]

end Steps

/-! ## Leads -/

section Leads

variable {byte : UInt8}

/-- The lead of two bytes. -/
theorem begin?_two (low : 0xC2 ≤ byte.toNat) (high : byte.toNat < 0xE0) :
    begin? byte = some ⟨byte, 1, byte.toNat - 0xC0, 1, 0x80, 0xBF⟩ := by
  simp only [begin?, if_neg (Nat.not_lt.mpr low), if_pos high]

/-- The lead of three bytes. -/
theorem begin?_three (low : 0xE0 ≤ byte.toNat) (high : byte.toNat < 0xF0) :
    begin? byte = some ⟨byte, 1, byte.toNat - 0xE0, 2, if byte.toNat = 0xE0 then 0xA0 else 0x80,
      if byte.toNat = 0xED then 0x9F else 0xBF⟩ := by
  have beyond : ¬ byte.toNat < 0xC2 := by omega
  simp only [begin?, if_neg beyond, if_neg (Nat.not_lt.mpr low), if_pos high]

/-- The lead of four bytes. -/
theorem begin?_four (low : 0xF0 ≤ byte.toNat) (high : byte.toNat < 0xF5) :
    begin? byte = some ⟨byte, 1, byte.toNat - 0xF0, 3, if byte.toNat = 0xF0 then 0x90 else 0x80,
      if byte.toNat = 0xF4 then 0x8F else 0xBF⟩ := by
  have beyond : ¬ byte.toNat < 0xC2 := by omega
  have more : ¬ byte.toNat < 0xE0 := by omega
  simp only [begin?, if_neg beyond, if_neg more, if_neg (Nat.not_lt.mpr low), if_pos high]

end Leads

/-! ## Reading one character -/

section Characters

variable {value : Nat} (position : Nat) (rest : List UInt8)

/-- A byte is admitted by its value. -/
theorem admits_of_bounds {begun : Begun} {byte : UInt8} (low : begun.low ≤ byte.toNat)
    (high : byte.toNat ≤ begun.high) : begun.admits byte = true := by
  simp only [Begun.admits, low, high, decide_true, Bool.and_self]

/-- The value of a byte. -/
theorem toNat_byte {value : Nat} (small : value < 256) : (UInt8.ofNat value).toNat = value := by
  rw [UInt8.toNat_ofNat', Nat.mod_eq_of_lt small]

/-- A character of two bytes is read back. -/
theorem decodeFrom_two (low : 0x80 ≤ value) (high : value < 0x800) :
    decodeFrom position none
        (UInt8.ofNat (value / 64 % 32 + 192) :: UInt8.ofNat (value % 64 + 128) :: rest) =
      (decodeFrom (position + 2) none rest).map (Char.ofNat value :: ·) := by
  have lead : (UInt8.ofNat (value / 64 % 32 + 192)).toNat = value / 64 + 192 := by
    rw [toNat_byte (by omega)]
    omega
  have last : (UInt8.ofNat (value % 64 + 128)).toNat = value % 64 + 128 := toNat_byte (by omega)
  rw [decodeFrom_begin (by omega) (begin?_two (by omega) (by omega)),
    decodeFrom_last (admits_of_bounds (by simp only; omega) (by simp only; omega)) rfl]
  have whole : (value / 64 + 192 - 0xC0) * 0x40 + (value % 64 + 128) % 0x40 = value := by omega
  simp only [Begun.advance, lead, last, whole]

/-- A character of three bytes is read back. -/
theorem decodeFrom_three (low : 0x800 ≤ value) (high : value < 0x10000)
    (valid : value < 0xD800 ∨ 0xDFFF < value) :
    decodeFrom position none
        (UInt8.ofNat (value / 4096 % 16 + 224) :: UInt8.ofNat (value / 64 % 64 + 128) ::
          UInt8.ofNat (value % 64 + 128) :: rest) =
      (decodeFrom (position + 3) none rest).map (Char.ofNat value :: ·) := by
  have lead : (UInt8.ofNat (value / 4096 % 16 + 224)).toNat = value / 4096 + 224 := by
    rw [toNat_byte (by omega)]
    omega
  have second : (UInt8.ofNat (value / 64 % 64 + 128)).toNat = value / 64 % 64 + 128 :=
    toNat_byte (by omega)
  have last : (UInt8.ofNat (value % 64 + 128)).toNat = value % 64 + 128 := toNat_byte (by omega)
  -- the range of the second byte leaves out the short values and the surrogates
  have admitted : (if value / 4096 + 224 = 0xE0 then 0xA0 else 0x80) ≤ value / 64 % 64 + 128 ∧
      value / 64 % 64 + 128 ≤ if value / 4096 + 224 = 0xED then 0x9F else 0xBF := by
    constructor <;> split <;> omega
  rw [decodeFrom_begin (by omega) (begin?_three (by omega) (by omega)),
    decodeFrom_more (admits_of_bounds (by rw [lead, second]; exact admitted.1)
      (by rw [lead, second]; exact admitted.2)) (by simp only; omega),
    decodeFrom_last (admits_of_bounds (by simp only [Begun.advance]; omega)
      (by simp only [Begun.advance]; omega)) rfl]
  have whole : ((value / 4096 + 224 - 0xE0) * 0x40 + (value / 64 % 64 + 128) % 0x40) * 0x40 +
      (value % 64 + 128) % 0x40 = value := by omega
  simp only [Begun.advance, lead, second, last, whole]

/-- A character of four bytes is read back. -/
theorem decodeFrom_four (low : 0x10000 ≤ value) (high : value < 0x110000) :
    decodeFrom position none
        (UInt8.ofNat (value / 262144 % 8 + 240) :: UInt8.ofNat (value / 4096 % 64 + 128) ::
          UInt8.ofNat (value / 64 % 64 + 128) :: UInt8.ofNat (value % 64 + 128) :: rest) =
      (decodeFrom (position + 4) none rest).map (Char.ofNat value :: ·) := by
  have lead : (UInt8.ofNat (value / 262144 % 8 + 240)).toNat = value / 262144 + 240 := by
    rw [toNat_byte (by omega)]
    omega
  have second : (UInt8.ofNat (value / 4096 % 64 + 128)).toNat = value / 4096 % 64 + 128 :=
    toNat_byte (by omega)
  have third : (UInt8.ofNat (value / 64 % 64 + 128)).toNat = value / 64 % 64 + 128 :=
    toNat_byte (by omega)
  have last : (UInt8.ofNat (value % 64 + 128)).toNat = value % 64 + 128 := toNat_byte (by omega)
  -- the range of the second byte leaves out the short values and those past the last code point
  have admitted : (if value / 262144 + 240 = 0xF0 then 0x90 else 0x80) ≤
        value / 4096 % 64 + 128 ∧
      value / 4096 % 64 + 128 ≤ if value / 262144 + 240 = 0xF4 then 0x8F else 0xBF := by
    constructor <;> split <;> omega
  rw [decodeFrom_begin (by omega) (begin?_four (by omega) (by omega)),
    decodeFrom_more (admits_of_bounds (by rw [lead, second]; exact admitted.1)
      (by rw [lead, second]; exact admitted.2)) (by simp only; omega),
    decodeFrom_more (admits_of_bounds (by simp only [Begun.advance]; omega)
      (by simp only [Begun.advance]; omega)) (by simp only [Begun.advance]; omega),
    decodeFrom_last (admits_of_bounds (by simp only [Begun.advance]; omega)
      (by simp only [Begun.advance]; omega)) rfl]
  have whole : (((value / 262144 + 240 - 0xF0) * 0x40 + (value / 4096 % 64 + 128) % 0x40) * 0x40 +
      (value / 64 % 64 + 128) % 0x40) * 0x40 + (value % 64 + 128) % 0x40 = value := by omega
  simp only [Begun.advance, lead, second, third, last, whole]

/-- The bytes of a character are read back as the character. -/
theorem decodeFrom_encodeChar (c : Char) :
    decodeFrom position none (String.utf8EncodeChar c ++ rest) =
      (decodeFrom (position + (String.utf8EncodeChar c).length) none rest).map (c :: ·) := by
  have valid : c.val.toNat < 0xD800 ∨ 0xDFFF < c.val.toNat ∧ c.val.toNat < 0x110000 := c.valid
  have same : c = Char.ofNat c.val.toNat := (Char.ofNat_toNat c).symm
  unfold String.utf8EncodeChar
  generalize c.val.toNat = value at valid same
  subst same
  dsimp only
  split
  · have byte : (UInt8.ofNat value).toNat = value := toNat_byte (by omega)
    rw [List.singleton_append, decodeFrom_ascii (by omega), byte]
    rfl
  · split
    · exact decodeFrom_two position rest (by omega) (by omega)
    · split
      · exact decodeFrom_three position rest (by omega) (by omega) (by omega)
      · exact decodeFrom_four position rest (by omega) (by omega)

end Characters

/-- A text is read back from its bytes. -/
theorem decode_encode (text : String) : decode (encode text) = .ok text.toList := by
  have each (position : Nat) (chars : List Char) :
      decodeFrom position none (chars.flatMap String.utf8EncodeChar) = .ok chars := by
    induction chars generalizing position with
    | nil => rfl
    | cons c rest ih => rw [List.flatMap_cons, decodeFrom_encodeChar, ih]; rfl
  exact each 0 text.toList

end AbiTypings.Text.Utf8

namespace AbiTypings.Abi

/-- A file that holds a text is loaded as the text is parsed, once its line ends are unified. -/
theorem load_encode (text : String) :
    load (Text.Utf8.encode text) = parse (Text.unifyNewlines text.toList) := by
  rw [load, textOfBytes, Text.Utf8.decode_encode]
  rfl

end AbiTypings.Abi
