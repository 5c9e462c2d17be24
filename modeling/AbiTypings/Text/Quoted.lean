import AbiTypings.Text.Half
import AbiTypings.Text.Hex
import AbiTypings.Text.Printable

/-!
# Quoted text

Text between quote marks, as error messages and nested values show it. The mark is the apostrophe
unless the text holds an apostrophe and no double quote. The mark in use and the backslash are
escaped by a backslash, the three common controls by a letter, and every other character that is
not printable by its code point in two, four or eight hexadecimal digits. So is half of a surrogate
pair, also where a text is not quoted but written to a stream that takes any text.
-/

namespace AbiTypings.Text

/-- The apostrophe. -/
def apostrophe : Char := '\x27'

/-- The double quote. -/
def doubleQuote : Char := '\x22'

/-- The mark that needs the fewer escapes, the apostrophe when neither does. -/
def quoteMark (text : List Char) : Char :=
  if apostrophe ∈ text ∧ doubleQuote ∉ text then doubleQuote else apostrophe

/-- A character by its code point. -/
def codeEscape (c : Char) : List Char :=
  if c.toNat < 0x100 then '\\' :: 'x' :: hex 2 c.toNat
  else if c.toNat < 0x10000 then '\\' :: 'u' :: hex 4 c.toNat
  else '\\' :: 'U' :: hex 8 c.toNat

/-- A character as it stands between two marks. -/
def quotedChar (mark c : Char) : List Char :=
  if c = mark ∨ c = '\\' then ['\\', c]
  else if c = '\n' then ['\\', 'n']
  else if c = '\r' then ['\\', 'r']
  else if c = '\t' then ['\\', 't']
  else if isPrintable c then [c]
  else codeEscape c

/-- A half of a surrogate pair by its code unit. -/
def Half.escape (half : Half) : List Char := '\\' :: 'u' :: hex 4 half.unit

/-- A point as it stands between two marks. -/
def quotedPoint (mark : Char) : Point → List Char
  | .char c => quotedChar mark c
  | .lone half => half.escape

/-- The text between quote marks. -/
def quoted (text : String) : String :=
  let mark := quoteMark text.toList
  String.ofList (mark :: (points text.toList).flatMap (quotedPoint mark) ++ [mark])

/-- A quoted text with every character beyond ASCII by its code point. -/
def escapedBeyondAscii (text : String) : String :=
  String.ofList (text.toList.flatMap fun c => if c.toNat < 0x80 then [c] else codeEscape c)

/-- A text with every half of a surrogate pair by its code unit. -/
def escapedHalves (text : String) : String :=
  ofPoints ((points text.toList).flatMap fun
    | .char c => [.char c]
    | .lone half => half.escape.map .char)

end AbiTypings.Text
