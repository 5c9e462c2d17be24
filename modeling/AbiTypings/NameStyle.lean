import AbiTypings.Text.CaseMapping

/-!
# Name styles

A name style turns a name of the ABI into an identifier of the typings. Pascal case drops every
underscore and raises the first character of each word, camel case then lowers the first character
of the whole, and the identity keeps the name. Raising and lowering may change the number of
characters.
-/

namespace AbiTypings

/-- How identifiers are made from names. -/
inductive NameStyle where
  /-- Every word starts with a capital: `account_name` becomes `AccountName`. -/
  | pascal
  /-- Every word but the first starts with a capital: `account_name` becomes `accountName`. -/
  | camel
  /-- The name itself. -/
  | identity
deriving DecidableEq, Repr

namespace NameStyle

/-- The styles, ordered by name. -/
def all : List NameStyle := [.camel, .identity, .pascal]

/-- The name under which a style is chosen. -/
def name : NameStyle → String
  | .pascal => "pascal"
  | .camel => "camel"
  | .identity => "identity"

/-- The style chosen by a name. -/
def ofName? (name : String) : Option NameStyle := all.find? (·.name == name)

/-- Drops underscores and raises the character that starts a word; `starts` says whether the first
character does. -/
def pascalChars (starts : Bool) : List Char → List Char
  | [] => []
  | c :: rest =>
    if c = '_' then pascalChars true rest
    else if starts then Text.upper c ++ pascalChars false rest
    else c :: pascalChars false rest

/-- Lowers the first character. -/
def lowerFirst : List Char → List Char
  | [] => []
  | c :: rest => Text.lower c ++ rest

/-- The characters of the identifier for the characters of a name. -/
def formatChars : NameStyle → List Char → List Char
  | .pascal, name => pascalChars true name
  | .camel, name => lowerFirst (pascalChars true name)
  | .identity, name => name

/-- The identifier for a name. -/
def format (style : NameStyle) (name : String) : String :=
  String.ofList (style.formatChars name.toList)

/-- The characters of the identifier. -/
theorem toList_format (style : NameStyle) (name : String) :
    (style.format name).toList = style.formatChars name.toList :=
  String.toList_ofList

/-- The identity keeps the name. -/
theorem identity_format (name : String) : NameStyle.identity.format name = name := by
  simp [format, formatChars]

/-- A word after an underscore starts anew, so pascal case works word by word. -/
theorem pascalChars_append_underscore (starts : Bool) (left right : List Char) :
    pascalChars starts (left ++ '_' :: right) =
      pascalChars starts left ++ pascalChars true right := by
  induction left generalizing starts with
  | nil => simp [pascalChars]
  | cons c rest ih =>
    by_cases underscore : c = '_'
    · simp [pascalChars, underscore, ih]
    · cases starts <;> simp [pascalChars, underscore, ih]

end NameStyle
end AbiTypings
