import AbiTypings.Decimal.Numeral
import AbiTypings.Log.Event
import AbiTypings.Text.Quoted

/-!
# Fields of log lines

How the value of a field is written. A conversion letter says whether it is written as a text, in
quotes, as a character, or as a number in one of several notations; a shape gives the room that it
takes and further details. Numbers can be written as texts, but texts cannot as numbers. A value of
which only the beginning is known can be written as far as it is known.
-/

namespace AbiTypings

/-- How the value of a field is laid out. -/
structure FieldShape where
  /-- Whether the value stands on the left of its room. -/
  onLeft : Bool := false
  /-- Whether a number fills its room with zeros. -/
  zeros : Bool := false
  /-- Whether a number is marked with its base or its point. -/
  marked : Bool := false
  /-- What stands in front of a number that is not negative. -/
  sign : List Char := []
  /-- The least number of characters. -/
  width : Nat := 0
  /-- The greatest number of characters of a text, the least number of digits of a whole number,
  the places of any other number. -/
  precision : Option Nat := none
deriving DecidableEq, Repr

namespace FieldShape

/-! ## Room -/

/-- Characters in their room. -/
def place (shape : FieldShape) (value : List Char) : List Char :=
  let room := List.replicate (shape.width - (Text.points value).length) ' '
  if shape.onLeft then value ++ room else room ++ value

/-- A text in its room. -/
def placeText (shape : FieldShape) (value : String) : List Char :=
  shape.place (match shape.precision with
    | some precision => Text.codes ((Text.points value.toList).take precision)
    | none => value.toList)

/-- A number in its room, by the mark of its base and its digits. -/
def placeNumber (shape : FieldShape) (negative : Bool) (mark digits : List Char) : List Char :=
  let front := (if negative then ['-'] else shape.sign) ++ if shape.marked then mark else []
  let filled := if shape.zeros && !shape.onLeft then shape.width - front.length else 0
  shape.place (front ++ List.replicate (filled - digits.length) '0' ++ digits)

/-! ## Notations -/

/-- The digits of a whole number, at least as many as the precision says. -/
def whole (shape : FieldShape) (base value : Nat) : List Char :=
  let digits := Nat.toDigits base value
  List.replicate (shape.precision.getD 0 - digits.length) '0' ++ digits

/-- The precision of a number with places. -/
def places (shape : FieldShape) : Nat := shape.precision.getD 6

/-- The mark of the base and the digits of a number by its conversion letter, if the letter is one
for numbers. -/
def numeral? (shape : FieldShape) (letter : Char) (value : Nat) :
    Option (List Char × List Char) :=
  match letter with
  | 'd' | 'i' | 'u' => some ([], shape.whole 10 value)
  | 'o' => some (['0', 'o'], shape.whole 8 value)
  | 'x' => some (['0', 'x'], shape.whole 16 value)
  | 'X' => some (['0', 'X'], (shape.whole 16 value).map Char.toUpper)
  | 'f' | 'F' => some ([], Numeral.fixed shape.marked shape.places value)
  | 'e' => some ([], Numeral.scientific shape.marked shape.places value)
  | 'E' => some ([], (Numeral.scientific shape.marked shape.places value).map Char.toUpper)
  | 'g' => some ([], Numeral.significant shape.marked (max 1 shape.places) value)
  | 'G' =>
    some ([], (Numeral.significant shape.marked (max 1 shape.places) value).map Char.toUpper)
  | _ => none

/-- The character of a code point, if there is one. -/
def character? (value : Int) : Option Char :=
  if 0 ≤ value ∧ value.toNat.isValidChar then some (Char.ofNat value.toNat) else none

end FieldShape

/-! ## Values -/

namespace FieldValue

/-- A value as a text. -/
def shown : FieldValue → String
  | .text value => value
  | .number value => toString value
  | .other shown => shown
  | .begun shown _ => shown

/-- A value as a text that is quoted if it is one itself. -/
def quoted : FieldValue → String
  | .text value => Text.quoted value
  | .begun _ quoted => quoted
  | value => value.shown

/-- A value as a text by its conversion letter, if the letter is one for texts. -/
def text? (value : FieldValue) (letter : Char) : Option String :=
  match letter with
  | 's' => some value.shown
  | 'r' => some value.quoted
  | 'a' => some (Text.escapedBeyondAscii value.quoted)
  | _ => none

/-- Whether the characters of a value that a shape shows are known. -/
def isKnown (value : FieldValue) (shape : FieldShape) (written : String) : Bool :=
  match value with
  | .begun _ _ => shape.precision.any (· ≤ written.length)
  | _ => true

/-- A value as its shape and its conversion letter say, if the letter fits the value. -/
def write? (value : FieldValue) (shape : FieldShape) (letter : Char) : Option (List Char) :=
  match value.text? letter, value with
  | some written, value =>
    if value.isKnown shape written then some (shape.placeText written) else none
  | none, .number value =>
    if letter = 'c' then (FieldShape.character? value).map fun c => shape.place [c]
    else
      (shape.numeral? letter value.natAbs).map fun (mark, digits) =>
        shape.placeNumber (value < 0) mark digits
  | none, _ => none

end FieldValue

end AbiTypings
