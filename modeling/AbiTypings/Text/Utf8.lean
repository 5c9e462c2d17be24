import AbiTypings.Text.Quoted

/-!
# UTF-8

A text is written character by character, and refused as a whole if half of a surrogate pair is
in it. Bytes are read one at a time. Between characters a byte is a character of its own or begins a
sequence, and inside a sequence the next byte has to lie in a range that the first byte sets, so
overlong forms, surrogates and values past the last code point are refused at the first byte that
rules them out. A refusal names the bytes of the sequence that were still acceptable.
-/

namespace AbiTypings.Text.Utf8

/-- The bytes of characters. -/
def encode (text : String) : List UInt8 := text.toList.flatMap String.utf8EncodeChar

/-! ## Writing texts -/

/-- The first halves of surrogate pairs in a text. -/
structure EncodeFault where
  /-- The number of points before them. -/
  position : Nat
  /-- How many of them stand side by side. -/
  length : Nat
  /-- The first of them. -/
  first : Half
deriving DecidableEq, Repr

/-- A single half is shown, several by their first and last position. -/
def EncodeFault.message (fault : EncodeFault) : String :=
  let place :=
    if fault.length = 1 then
      "character '" ++ String.ofList fault.first.escape ++ "' in position "
        ++ toString fault.position
    else
      "characters in position " ++ toString fault.position ++ "-"
        ++ toString (fault.position + fault.length - 1)
  "'utf-8' codec can't encode " ++ place ++ ": surrogates not allowed"

/-- The bytes of points, unless a half of a surrogate pair is one of them; the number counts the
points before them. -/
def encodePoints (position : Nat) : List Point → Except EncodeFault (List UInt8)
  | [] => .ok []
  | .char c :: rest => (encodePoints (position + 1) rest).map (String.utf8EncodeChar c ++ ·)
  | .lone half :: rest =>
    let beside := rest.takeWhile fun
      | .char _ => false
      | .lone _ => true
    .error ⟨position, 1 + beside.length, half⟩

/-- The bytes of a text, unless it has halves of surrogate pairs. -/
def encodeText (text : String) : Except EncodeFault (List UInt8) :=
  encodePoints 0 (points text.toList)

/-! ## Reading bytes -/

/-- Why bytes are not UTF-8. -/
inductive Reason where
  /-- No sequence starts with the byte. -/
  | startByte
  /-- The byte after the acceptable ones cannot continue them. -/
  | continuationByte
  /-- The bytes end inside a sequence. -/
  | endOfData
deriving DecidableEq, Repr

/-- The reason in words. -/
def Reason.text : Reason → String
  | .startByte => "invalid start byte"
  | .continuationByte => "invalid continuation byte"
  | .endOfData => "unexpected end of data"

/-- The place where bytes stop being UTF-8. -/
structure Fault where
  /-- The number of bytes before the sequence. -/
  position : Nat
  /-- How many bytes of the sequence were acceptable, the first one included in any case. -/
  length : Nat
  /-- The first byte of the sequence. -/
  lead : UInt8
  /-- What is wrong. -/
  reason : Reason
deriving DecidableEq, Repr

/-- A single byte is shown with its value, several by their first and last position. -/
def Fault.message (fault : Fault) : String :=
  let place :=
    if fault.length = 1 then
      "byte 0x" ++ String.ofList (hex 2 fault.lead.toNat) ++ " in position "
        ++ toString fault.position
    else
      "bytes in position " ++ toString fault.position ++ "-"
        ++ toString (fault.position + fault.length - 1)
  "'utf-8' codec can't decode " ++ place ++ ": " ++ fault.reason.text

/-- A sequence that has begun and is not complete. -/
structure Begun where
  /-- Its first byte. -/
  lead : UInt8
  /-- The number of its bytes read so far. -/
  read : Nat
  /-- The value of the bits read so far. -/
  value : Nat
  /-- The number of its bytes still to come. -/
  awaited : Nat
  /-- The smallest value that the next byte may have. -/
  low : Nat
  /-- The largest value that the next byte may have. -/
  high : Nat

/-- The sequence of several bytes that a byte begins. -/
def begin? (byte : UInt8) : Option Begun :=
  let b := byte.toNat
  if b < 0xC2 then none
  else if b < 0xE0 then some ⟨byte, 1, b - 0xC0, 1, 0x80, 0xBF⟩
  else if b < 0xF0 then
    some ⟨byte, 1, b - 0xE0, 2, if b = 0xE0 then 0xA0 else 0x80, if b = 0xED then 0x9F else 0xBF⟩
  else if b < 0xF5 then
    some ⟨byte, 1, b - 0xF0, 3, if b = 0xF0 then 0x90 else 0x80, if b = 0xF4 then 0x8F else 0xBF⟩
  else none

/-- Whether a byte may come next. -/
def Begun.admits (begun : Begun) (byte : UInt8) : Bool :=
  begun.low ≤ byte.toNat && byte.toNat ≤ begun.high

/-- The sequence with one more byte; after the second byte every continuation byte may follow. -/
def Begun.advance (begun : Begun) (byte : UInt8) : Begun :=
  { begun with
    read := begun.read + 1
    value := begun.value * 0x40 + byte.toNat % 0x40
    awaited := begun.awaited - 1
    low := 0x80
    high := 0xBF }

/-- The fault of a sequence whose next byte would stand at `position`. -/
def Begun.fault (begun : Begun) (position : Nat) (reason : Reason) : Fault :=
  ⟨position - begun.read, begun.read, begun.lead, reason⟩

/-- Decodes the bytes from `position` on, with the sequence that stands open there. -/
def decodeFrom (position : Nat) : Option Begun → List UInt8 → Except Fault (List Char)
  | none, [] => .ok []
  | some begun, [] => .error (begun.fault position .endOfData)
  | none, byte :: rest =>
    if byte.toNat < 0x80 then
      (decodeFrom (position + 1) none rest).map (Char.ofNat byte.toNat :: ·)
    else
      match begin? byte with
      | some begun => decodeFrom (position + 1) (some begun) rest
      | none => .error ⟨position, 1, byte, .startByte⟩
  | some begun, byte :: rest =>
    if begun.admits byte then
      let next := begun.advance byte
      if next.awaited = 0 then
        (decodeFrom (position + 1) none rest).map (Char.ofNat next.value :: ·)
      else
        decodeFrom (position + 1) (some next) rest
    else
      .error (begun.fault position .continuationByte)

/-- The characters that the bytes encode. -/
def decode (bytes : List UInt8) : Except Fault (List Char) := decodeFrom 0 none bytes

/-- A byte below `0x80` is a character of its own. -/
theorem decodeFrom_ascii {byte : UInt8} (small : byte.toNat < 0x80) (position : Nat)
    (rest : List UInt8) :
    decodeFrom position none (byte :: rest) =
      (decodeFrom (position + 1) none rest).map (Char.ofNat byte.toNat :: ·) := by
  simp [decodeFrom, small]

end AbiTypings.Text.Utf8
