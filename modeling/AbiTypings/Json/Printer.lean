import AbiTypings.Json.Basic
import AbiTypings.Decimal.Shortest
import AbiTypings.Text.Hex
import AbiTypings.Text.Quoted

/-!
# Writing JSON values

Two texts of a value. `print` writes JSON in ASCII with one item or member on a line, two spaces
deeper than its container; characters outside printable ASCII are written as code units in four
hexadecimal digits. `display` is the text of a value inside messages: a text stands for itself,
and inside containers it is quoted.
-/

namespace AbiTypings.Json

/-- Doubles are written plainly from `1e-4` up to `1e16` and with an exponent of at least two
digits elsewhere. -/
def floatLayout : DecimalLayout := ⟨-4, 15, 2⟩

/-- How infinity and not a number are spelled. -/
structure FloatWords where
  /-- Positive infinity. -/
  infinity : String
  /-- Not a number. -/
  nan : String

/-- The text of a double, with the given words for what is not finite. -/
def floatText (words : FloatWords) : Binary64 → List Char
  | .finite negative significand exponent =>
    (if negative then ['-'] else []) ++
      if significand = 0 then ['0', '.', '0']
      else floatLayout.write (Binary64.shortest significand exponent)
  | .infinite negative => (if negative then ['-'] else []) ++ words.infinity.toList
  | .nan => words.nan.toList

/-! ## JSON text -/

/-- A code unit as an escape. -/
def unitEscape (unit : Nat) : List Char := '\\' :: 'u' :: Text.hex 4 unit

/-- A character inside a JSON text. -/
def escaped (c : Char) : List Char :=
  if c = '"' then ['\\', '"']
  else if c = '\\' then ['\\', '\\']
  else if c = '\n' then ['\\', 'n']
  else if c = '\r' then ['\\', 'r']
  else if c = '\t' then ['\\', 't']
  else if c = '\x08' then ['\\', 'b']
  else if c = '\x0c' then ['\\', 'f']
  else if ' ' ≤ c ∧ c ≤ '~' then [c]
  else if c.toNat < 0x10000 then unitEscape c.toNat
  else
    let rest := c.toNat - 0x10000
    unitEscape (0xD800 + rest / 0x400) ++ unitEscape (0xDC00 + rest % 0x400)

/-- A point inside a JSON text. -/
def escapedPoint : Text.Point → List Char
  | .char c => escaped c
  | .lone half => unitEscape half.unit

/-- A text between double quotes. -/
def printText (value : String) : List Char :=
  '"' :: (Text.points value.toList).flatMap escapedPoint ++ ['"']

/-- A new line at a depth. -/
def newLine (depth : Nat) : List Char := '\n' :: List.replicate (2 * depth) ' '

mutual

/-- The JSON text of a value whose first line stands at a depth. -/
def print (depth : Nat) : Json → List Char
  | .null => "null".toList
  | .bool value => (if value then "true" else "false").toList
  | .integer value => (toString value).toList
  | .float value => floatText ⟨"Infinity", "NaN"⟩ value
  | .text value => printText value
  | .array [] => ['[', ']']
  | .array (item :: items) =>
    '[' :: newLine (depth + 1) ++ print (depth + 1) item ++ printItems (depth + 1) items
      ++ newLine depth ++ [']']
  | .object [] => ['\x7b', '\x7d']
  | .object ((name, value) :: members) =>
    '\x7b' :: newLine (depth + 1) ++ printText name ++ ':' :: ' ' :: print (depth + 1) value
      ++ printMembers (depth + 1) members ++ newLine depth ++ ['\x7d']

/-- Further items, each after a comma and on its own line. -/
def printItems (depth : Nat) : List Json → List Char
  | [] => []
  | item :: items => ',' :: newLine depth ++ print depth item ++ printItems depth items

/-- Further members, each after a comma and on its own line. -/
def printMembers (depth : Nat) : List (String × Json) → List Char
  | [] => []
  | (name, value) :: members =>
    ',' :: newLine depth ++ printText name ++ ':' :: ' ' :: print depth value
      ++ printMembers depth members

end

/-- The JSON text of a value. -/
def pretty (value : Json) : String := String.ofList (print 0 value)

/-! ## Text in messages -/

mutual

/-- The text of a value inside a container. -/
def displayQuoted : Json → List Char
  | .null => "None".toList
  | .bool value => (if value then "True" else "False").toList
  | .integer value => (toString value).toList
  | .float value => floatText ⟨"inf", "nan"⟩ value
  | .text value => (Text.quoted value).toList
  | .array [] => ['[', ']']
  | .array (item :: items) => '[' :: displayQuoted item ++ displayItems items ++ [']']
  | .object [] => ['\x7b', '\x7d']
  | .object ((name, value) :: members) =>
    '\x7b' :: (Text.quoted name).toList ++ ':' :: ' ' :: displayQuoted value
      ++ displayMembers members ++ ['\x7d']

/-- Further items, each after a comma. -/
def displayItems : List Json → List Char
  | [] => []
  | item :: items => ',' :: ' ' :: displayQuoted item ++ displayItems items

/-- Further members, each after a comma. -/
def displayMembers : List (String × Json) → List Char
  | [] => []
  | (name, value) :: members =>
    ',' :: ' ' :: (Text.quoted name).toList ++ ':' :: ' ' :: displayQuoted value
      ++ displayMembers members

end

/-- The text of a value on its own. -/
def display : Json → String
  | .text value => value
  | value => String.ofList (displayQuoted value)

end AbiTypings.Json
