import AbiTypings.Log.Field
import AbiTypings.Text.WordCharacter

/-!
# Log lines

A pattern makes a line of an event. In a pattern a field stands as a percent sign, its key in
parentheses and a conversion letter, and a percent sign that is meant is doubled. In front of the
letter a field may have flags, a width and a precision. The first field may be without a key and
stands for the record of all fields then. A pattern has to have a field with a key, and makes no
line if any part of it is incomplete or does not fit the event.
-/

namespace AbiTypings.Pattern

/-- The pattern of a line when none is given. -/
def standard : String := "[%(levelname)s] abi2ts: %(message)s"

/-- The pattern of a bare message. -/
def messageOnly : String := "%(message)s"

/-! ## Patterns with a field -/

/-- Whether a letter ends a field, in either case. The long s counts as an s; the i without a dot
and the capital I with a dot count as an i. -/
def isConversion (c : Char) : Bool :=
  "diouxefgcrsa%".toList.contains c.toLower || ['\u017F', '\u0131', '\u0130'].contains c

/-- Removes a star or digits from the front. -/
def dropCount : List Char → List Char
  | '*' :: rest => rest
  | text => text.dropWhile Text.isDecimalDigit

/-- Whether a precision at the front is complete, and what follows it. -/
def dropPrecision : List Char → Option (List Char)
  | '.' :: rest =>
    let after := dropCount rest
    if after.length < rest.length then some after else none
  | text => some text

/-- Whether a text begins with flags, a width, a precision and a conversion letter. -/
def isConversionNext (text : List Char) : Bool :=
  match dropPrecision (dropCount (text.dropWhile "#0+ -".toList.contains)) with
  | some (letter :: _) => isConversion letter
  | _ => false

/-- Whether a text begins with a field. -/
def isFieldNext : List Char → Bool
  | '%' :: '(' :: rest =>
    match rest.dropWhile Text.isWordChar with
    | ')' :: after => rest.head?.any Text.isWordChar && isConversionNext after
    | _ => false
  | _ => false

/-- Whether a pattern has a field anywhere. -/
def hasField : List Char → Bool
  | [] => false
  | c :: rest => isFieldNext (c :: rest) || hasField rest

/-! ## Pieces -/

/-- What a pattern is made of. -/
inductive Piece where
  /-- A character that stands for itself. -/
  | character (c : Char)
  /-- A field by its key, its shape and its conversion letter; without a key it is the record. -/
  | field (key : Option String) (shape : FieldShape) (letter : Char)
deriving DecidableEq, Repr

/-- The parts of the description of a shape, which follow one another in this order. -/
inductive ShapePart where
  /-- The flags. -/
  | flags
  /-- The width. -/
  | width
  /-- The precision. -/
  | precision
  /-- A letter for the size of the value, which has no meaning. -/
  | size
deriving DecidableEq, Repr

/-- A shape with one more flag, if the character is one. -/
def withFlag? (shape : FieldShape) (c : Char) : Option FieldShape :=
  match c with
  | '-' => some { shape with onLeft := true }
  | '0' => some { shape with zeros := true }
  | '#' => some { shape with marked := true }
  | '+' => some { shape with sign := ['+'] }
  | ' ' => some (if shape.sign.isEmpty then { shape with sign := [' '] } else shape)
  | _ => none

/-- A shape with one more character of its description in a part of it. -/
def withCharacter? (shape : FieldShape) (c : Char) : ShapePart → Option FieldShape
  | .flags => withFlag? shape c
  | .width =>
    if c.isDigit then
      some { shape with width := shape.width * 10 + (c.toNat - '0'.toNat) }
    else none
  | .precision =>
    match shape.precision with
    | none => if c = '.' then some { shape with precision := some 0 } else none
    | some precision =>
      if c.isDigit then
        some { shape with precision := some (precision * 10 + (c.toNat - '0'.toNat)) }
      else none
  | .size => if c = 'h' || c = 'l' || c = 'L' then some shape else none

/-- The parts that may still continue a description. -/
def ShapePart.following : ShapePart → List ShapePart
  | .flags => [.flags, .width, .precision, .size]
  | .width => [.width, .precision, .size]
  | .precision => [.precision, .size]
  | .size => []

/-- The part and the shape after one more character, unless the description has ended. -/
def nextShape? (part : ShapePart) (shape : FieldShape) (c : Char) :
    Option (ShapePart × FieldShape) :=
  part.following.findSome? fun part => (withCharacter? shape c part).map (part, ·)

/-- Where reading stands in a pattern. -/
inductive State where
  /-- Between pieces. -/
  | between
  /-- After a percent sign. -/
  | percent
  /-- Inside a key, the characters read so far in reverse. -/
  | key (read : List Char)
  /-- In front of the conversion letter, after a key if there is one. -/
  | shape (key : Option String) (part : ShapePart) (read : FieldShape)

/-- Where reading stands after one more character in front of the conversion letter, and the field
that this letter completes. -/
def readShape (key : Option String) (part : ShapePart) (read : FieldShape) (c : Char) :
    State × Option Piece :=
  match nextShape? part read c with
  | some (part, read) => (.shape key part read, none)
  | none => (.between, some (.field key read c))

/-- Where reading stands after one more character, and the piece that it completes. -/
def readCharacter (state : State) (c : Char) : State × Option Piece :=
  match state with
  | .between => if c = '%' then (.percent, none) else (.between, some (.character c))
  | .percent =>
    if c = '(' then (.key [], none)
    else if c = '%' then (.between, some (.character c))
    else readShape none .flags {} c
  | .key read =>
    if c = ')' then (.shape (some (String.ofList read.reverse)) .flags {}, none)
    else (.key (c :: read), none)
  | .shape key part read => readShape key part read c

/-- The pieces of a pattern, unless its last one is incomplete. -/
def pieces? : State → List Char → Option (List Piece)
  | .between, [] => some []
  | _, [] => none
  | state, c :: rest =>
    let (state, piece) := readCharacter state c
    (pieces? state rest).map (piece.toList ++ ·)

/-! ## Lines -/

/-- What a piece makes of an event, if it fits the event. -/
def Piece.write? (event : Event) : Piece → Option (List Char)
  | .character c => some [c]
  | .field (some key) shape letter => (event.field? key).bind (·.write? shape letter)
  | .field none shape letter => event.record.write? shape letter

/-- Whether a piece is a character. -/
def Piece.isCharacter : Piece → Bool
  | .character _ => true
  | .field _ _ _ => false

/-- Whether a piece stands for the record of all fields. -/
def Piece.isRecord : Piece → Bool
  | .field none _ _ => true
  | _ => false

/-- Whether only the first of the fields stands for the record. -/
def onlyFirstIsRecord (pieces : List Piece) : Bool :=
  ((pieces.filter fun piece => !piece.isCharacter).drop 1).all fun piece => !piece.isRecord

/-- The line that a pattern makes of an event. -/
def line? (pattern : String) (event : Event) : Option String := do
  let pieces ← pieces? .between pattern.toList
  if onlyFirstIsRecord pieces then
    let parts ← pieces.mapM (Piece.write? event)
    some (String.ofList parts.flatten)
  else none

end AbiTypings.Pattern
