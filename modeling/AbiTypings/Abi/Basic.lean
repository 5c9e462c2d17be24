/-!
# Contract ABIs

An ABI declares types of three kinds: aliases of other types, variants that hold a value of one of
several types, and structs with named fields. Any collection may be absent. Names, types and
entries may be null; most readers of an ABI refuse a null, and a text that contains a name shows
a null one as `None`.
-/

namespace AbiTypings

/-- A new name for a type. -/
structure TypeAlias where
  /-- The new name. -/
  name : Option String
  /-- The type it stands for. -/
  target : Option String
deriving DecidableEq, Repr

/-- A type whose values are values of one of its members, tagged with the member's name. -/
structure Variant where
  /-- The name of the variant. -/
  name : Option String
  /-- The types that may be held; their order is significant. -/
  members : Option (List (Option String)) := none
deriving DecidableEq, Repr

/-- A field of a struct. -/
structure Field where
  /-- The name of the field. -/
  name : Option String
  /-- The type of its values; a question mark at its end makes the field optional. -/
  type : Option String
deriving DecidableEq, Repr

/-- A record type, possibly extending another one. -/
structure Struct where
  /-- The name of the struct. -/
  name : Option String
  /-- The struct that is extended; the empty text and null stand for none. -/
  base : Option String := some ""
  /-- The fields. -/
  fields : Option (List (Option Field)) := none
deriving DecidableEq, Repr

/-- The declarations of a contract. -/
structure Abi where
  /-- The version of the ABI format. -/
  version : Option String := some ""
  /-- The aliases. -/
  aliases : Option (List (Option TypeAlias)) := none
  /-- The variants. -/
  variants : Option (List (Option Variant)) := none
  /-- The structs. -/
  structs : Option (List (Option Struct)) := none
deriving DecidableEq, Repr

/-- A text that may be null as other texts show it. -/
def shown (text : Option String) : String := text.getD "None"

namespace Abi

/-- The aliases, none when the collection is absent. -/
def aliasList (abi : Abi) : List (Option TypeAlias) := abi.aliases.getD []

/-- The variants, none when the collection is absent. -/
def variantList (abi : Abi) : List (Option Variant) := abi.variants.getD []

/-- The structs, none when the collection is absent. -/
def structList (abi : Abi) : List (Option Struct) := abi.structs.getD []

end Abi

/-- The members of a variant, none when the list is absent. -/
def Variant.memberList (variant : Variant) : List (Option String) := variant.members.getD []

/-- The fields of a struct, none when the list is absent. -/
def Struct.fieldList (struct : Struct) : List (Option Field) := struct.fields.getD []

end AbiTypings
