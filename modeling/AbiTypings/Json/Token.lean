import AbiTypings.Json.Basic
import AbiTypings.Text.Half
import AbiTypings.Text.Hex

/-!
# Tokens of JSON text

Reading starts by cutting the text into tokens: the six punctuation marks, literals, texts and
numerals, with blanks between them. A token knows the text from its first character on, so that a
fault can be located. Cutting ends at a character that starts no token and at a text that cannot
be read; what comes before such a place is still cut, because an earlier fault takes precedence.
-/

namespace AbiTypings.Json

/-- What is wrong at a place of JSON text. -/
inductive Complaint where
  /-- A value should start here. -/
  | valueExpected
  /-- A name of a member should start here. -/
  | nameExpected
  /-- A colon should stand here. -/
  | colonExpected
  /-- A comma or a closing bracket should stand here. -/
  | commaExpected
  /-- The value was complete before this place. -/
  | extraData
  /-- The text that starts here does not end. -/
  | unterminatedText
  /-- A control character stands inside a text. -/
  | controlCharacter
  /-- The backslash here starts no escape. -/
  | badEscape
  /-- The letter here is not followed by four hexadecimal digits and more text. -/
  | badUnicodeEscape
  /-- The text starts with a byte order mark. -/
  | byteOrderMark
deriving DecidableEq, Repr

/-- The complaint in words. -/
def Complaint.message : Complaint → String
  | .valueExpected => "Expecting value"
  | .nameExpected => "Expecting property name enclosed in double quotes"
  | .colonExpected => "Expecting ':' delimiter"
  | .commaExpected => "Expecting ',' delimiter"
  | .extraData => "Extra data"
  | .unterminatedText => "Unterminated string starting at"
  | .controlCharacter => "Invalid control character at"
  | .badEscape => "Invalid \\escape"
  | .badUnicodeEscape => "Invalid \\uXXXX escape"
  | .byteOrderMark => "Unexpected UTF-8 BOM (decode using utf-8-sig)"

/-- A complaint about a place, given by the text from the place on. -/
structure Flaw where
  /-- What is wrong. -/
  complaint : Complaint
  /-- The text from the place on. -/
  place : List Char
deriving DecidableEq, Repr

/-! ## Texts -/

/-- Where reading stands inside a text. -/
inductive TextState where
  /-- Between characters. -/
  | plain
  /-- After a backslash; `start` is the text from it on. -/
  | escape (start : List Char)
  /-- Before the last `left` digits of a code unit; `start` is the text from the letter on. -/
  | unit (start : List Char) (left value : Nat)

/-- The character for which a letter stands after a backslash. -/
def escapeTarget? : Char → Option Char
  | '"' => some '"'
  | '\\' => some '\\'
  | '/' => some '/'
  | 'b' => some '\x08'
  | 'f' => some '\x0c'
  | 'n' => some '\n'
  | 'r' => some '\r'
  | 't' => some '\t'
  | _ => none

/-- Puts a code unit in front of what was read. -/
def push (unit : Nat) (read : List Nat × List Char) : List Nat × List Char :=
  (unit :: read.1, read.2)

/-- The code points and code units of a text up to its closing quote, with the text after it;
`opening` is the text from the opening quote on. -/
def scanText (opening : List Char) : TextState → List Char → Except Flaw (List Nat × List Char)
  | .plain, [] => .error ⟨.unterminatedText, opening⟩
  | .plain, c :: rest =>
    if c = '"' then .ok ([], rest)
    else if c = '\\' then scanText opening (.escape (c :: rest)) rest
    else if c < ' ' then .error ⟨.controlCharacter, c :: rest⟩
    else (scanText opening .plain rest).map (push c.toNat)
  | .escape _, [] => .error ⟨.unterminatedText, opening⟩
  | .escape start, c :: rest =>
    if c = 'u' then scanText opening (.unit (c :: rest) 4 0) rest
    else
      match escapeTarget? c with
      | some target => (scanText opening .plain rest).map (push target.toNat)
      | none => .error ⟨.badEscape, start⟩
  | .unit start _ _, [] => .error ⟨.badUnicodeEscape, start⟩
  | .unit start left value, c :: rest =>
    match Text.hexValue? c with
    | none => .error ⟨.badUnicodeEscape, start⟩
    | some digit =>
      if left ≤ 1 then
        if rest.isEmpty then .error ⟨.badUnicodeEscape, start⟩
        else (scanText opening .plain rest).map (push (value * 16 + digit))
      else scanText opening (.unit start (left - 1) (value * 16 + digit)) rest

/-- The point of a code point or a code unit. -/
def pointOf (unit : Nat) : Text.Point :=
  if surrogate : 0xD800 ≤ unit ∧ unit < 0xE000 then .lone ⟨unit - 0xD800, by omega⟩
  else .char (Char.ofNat unit)

/-- The text of code points and code units; two halves of a pair are one character. -/
def textOfUnits (units : List Nat) : String :=
  Text.ofPoints (Text.joinHalves (units.map pointOf))

/-! ## Numerals -/

/-- A number as it is written. -/
structure Numeral where
  /-- Whether a minus sign stands in front. -/
  negative : Bool
  /-- The digits before the point. -/
  whole : List Char
  /-- The digits after the point. -/
  fraction : List Char
  /-- The exponent, as whether it is negative and its digits. -/
  exponent : Option (Bool × List Char)
deriving DecidableEq, Repr

/-- Whether a character is a decimal digit. -/
def isDigit (c : Char) : Bool := '0' ≤ c && c ≤ '9'

/-- The number that decimal digits denote. -/
def digitsValue (digits : List Char) : Nat :=
  digits.foldl (fun value c => value * 10 + (c.toNat - 0x30)) 0

/-- The digits at the front of a text, if any, and the text after them. -/
def scanDigits (chars : List Char) : Option (List Char × List Char) :=
  match chars.takeWhile isDigit with
  | [] => none
  | digits => some (digits, chars.dropWhile isDigit)

/-- The digits before the point: a zero stands alone. -/
def scanWhole : List Char → Option (List Char × List Char)
  | '0' :: rest => some (['0'], rest)
  | chars => scanDigits chars

/-- A point and the digits after it; a point without digits is left over. -/
def scanFraction : List Char → List Char × List Char
  | '.' :: rest => (scanDigits rest).getD ([], '.' :: rest)
  | chars => ([], chars)

/-- The sign of an exponent. -/
def scanSign : List Char → Bool × List Char
  | '-' :: rest => (true, rest)
  | '+' :: rest => (false, rest)
  | chars => (false, chars)

/-- An exponent; a mark without digits is left over. -/
def scanExponent : List Char → Option (Bool × List Char) × List Char
  | mark :: rest =>
    if mark = 'e' ∨ mark = 'E' then
      let (negative, unsigned) := scanSign rest
      match scanDigits unsigned with
      | some (digits, after) => (some (negative, digits), after)
      | none => (none, mark :: rest)
    else (none, mark :: rest)
  | [] => (none, [])

/-- The longest numeral at the front of a text. -/
def scanNumeral (chars : List Char) : Option (Numeral × List Char) := do
  let (negative, unsigned) :=
    match chars with
    | '-' :: rest => (true, rest)
    | _ => (false, chars)
  let (whole, rest) ← scanWhole unsigned
  let (fraction, rest) := scanFraction rest
  let (exponent, rest) := scanExponent rest
  return (⟨negative, whole, fraction, exponent⟩, rest)

/-- The greatest number of digits that an integer may have. -/
def digitLimit : Nat := 4300

/-- The value of a numeral, or the number of digits of an integer that has too many. -/
def Numeral.value (numeral : Numeral) : Except Nat Json :=
  if numeral.fraction.isEmpty && numeral.exponent.isNone then
    if digitLimit < numeral.whole.length then .error numeral.whole.length
    else
      let magnitude : Int := digitsValue numeral.whole
      .ok (.integer (if numeral.negative then -magnitude else magnitude))
  else
    let exponent : Int :=
      match numeral.exponent with
      | some (true, digits) => -(digitsValue digits : Int)
      | some (false, digits) => digitsValue digits
      | none => 0
    .ok (.float (.ofDecimal numeral.negative (digitsValue (numeral.whole ++ numeral.fraction))
      (exponent - numeral.fraction.length)))

/-! ## Tokens -/

/-- What a token says. -/
inductive Lexeme where
  /-- The opening brace of an object. -/
  | openObject
  /-- The closing brace of an object. -/
  | closeObject
  /-- The opening bracket of a list. -/
  | openArray
  /-- The closing bracket of a list. -/
  | closeArray
  /-- The mark between members and between items. -/
  | comma
  /-- The mark between a name and its value. -/
  | colon
  /-- A value that is written as a word. -/
  | literal (value : Json)
  /-- A text. -/
  | text (value : String)
  /-- A number. -/
  | numeral (numeral : Numeral)
  /-- A text that cannot be read. -/
  | flawed (flaw : Flaw)
  /-- A character that starts no token. -/
  | stray

/-- A token and the text from its first character on. -/
structure Token where
  /-- What the token says. -/
  lexeme : Lexeme
  /-- The text from its first character on. -/
  place : List Char

/-- The values that are written as words. -/
def literals : List (List Char × Json) := [
  ("null".toList, .null),
  ("true".toList, .bool true),
  ("false".toList, .bool false),
  ("NaN".toList, .float .nan),
  ("Infinity".toList, .float (.infinite false)),
  ("-Infinity".toList, .float (.infinite true))]

/-- The literal at the front of a text. -/
def scanLiteral (chars : List Char) : Option (Json × List Char) :=
  literals.findSome? fun (word, value) => (word.isPrefixOf? chars).map (value, ·)

/-- The token at the front of a text without leading blanks, with the text still to be cut. -/
def scan : List Char → Lexeme × List Char
  | '\x7b' :: rest => (.openObject, rest)
  | '\x7d' :: rest => (.closeObject, rest)
  | '[' :: rest => (.openArray, rest)
  | ']' :: rest => (.closeArray, rest)
  | ',' :: rest => (.comma, rest)
  | ':' :: rest => (.colon, rest)
  | '"' :: rest =>
    match scanText ('"' :: rest) .plain rest with
    | .ok (units, after) => (.text (textOfUnits units), after)
    | .error flaw => (.flawed flaw, [])
  | chars =>
    match scanLiteral chars with
    | some (value, after) => (.literal value, after)
    | none =>
      match scanNumeral chars with
      | some (numeral, after) => (.numeral numeral, after)
      | none => (.stray, [])

/-- The four characters that may stand between tokens. -/
def isBlank (c : Char) : Bool := c = ' ' || c = '\t' || c = '\n' || c = '\r'

/-- At most `count` tokens of a text. -/
def tokensUpTo : Nat → List Char → List Token
  | 0, _ => []
  | count + 1, chars =>
    match chars.dropWhile isBlank with
    | [] => []
    | c :: rest =>
      let (lexeme, after) := scan (c :: rest)
      ⟨lexeme, c :: rest⟩ :: tokensUpTo count after

/-- The tokens of a text; there are at most as many as characters. -/
def tokens (chars : List Char) : List Token := tokensUpTo chars.length chars

end AbiTypings.Json
