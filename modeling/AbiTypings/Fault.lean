import AbiTypings.Abi.Basic
import AbiTypings.Json.Reader
import AbiTypings.Text.Quoted
import AbiTypings.Text.Utf8

/-!
# Faults

Every way in which loading an ABI or writing its typings can fail, as a cause. A malformed ABI and
an unresolvable reference are faults of the input that the program announces; a null where a value
is needed, an integer beyond the limit, bytes that are no text, a text that has no bytes, a path
that no file can have, a device without room and a console that gives up are not foreseen by it.
-/

namespace AbiTypings

/-- What a value is asked for at a place where a null may stand. -/
inductive Need where
  /-- The words of a name. -/
  | words
  /-- The last characters of a type. -/
  | ending
  /-- The name of an alias. -/
  | aliasName
  /-- The name of a variant or struct. -/
  | name
  /-- The type of a field. -/
  | type
  /-- The members of a variant. -/
  | members
  /-- The fields of a struct. -/
  | fields
  /-- The base of a struct. -/
  | base
deriving DecidableEq, Repr

/-- The word for a need. -/
def Need.word : Need → String
  | .words => "split"
  | .ending => "endswith"
  | .aliasName => "new_type_name"
  | .name => "name"
  | .type => "type"
  | .members => "types"
  | .fields => "fields"
  | .base => "base"

/-- Why a JSON value is no entry of an ABI. -/
inductive EntryFault where
  /-- A key that an entry has to have is absent. -/
  | missingKey (key : String)
  /-- A collection is neither a list nor a text nor an object. -/
  | noCollection (kind : Json.Kind)
  /-- An entry is not an object. -/
  | noObject (kind : Json.Kind)
deriving DecidableEq, Repr

/-- The fault in words. -/
def EntryFault.message : EntryFault → String
  | .missingKey key => Text.quoted key
  | .noCollection kind => "'" ++ kind.word ++ "' object is not iterable"
  | .noObject kind => "'" ++ kind.word ++ "' object has no attribute 'items'"

/-- Why an ABI is structurally unusable. -/
inductive Malformation where
  /-- The text is not JSON. -/
  | notJson (complaint : Json.Complaint) (place : Json.Place)
  /-- The JSON value is not an object. -/
  | notObject (kind : Json.Kind)
  /-- A part of the JSON value is no entry of an ABI. -/
  | badEntry (fault : EntryFault)
  /-- A variant has no list of members. -/
  | variantWithoutMembers (name : Option String)
  /-- A struct has no list of fields. -/
  | structWithoutFields (name : Option String)
deriving DecidableEq, Repr

/-- The malformation in words. -/
def Malformation.message : Malformation → String
  | .notJson complaint place =>
    "ABI is not valid JSON: " ++ complaint.message ++ ": " ++ place.text
  | .notObject kind => "ABI must be a JSON object, got " ++ kind.word
  | .badEntry fault => "Invalid ABI entry: " ++ fault.message
  | .variantWithoutMembers name => "Variant " ++ shown name ++ " has no member types"
  | .structWithoutFields name => "Struct " ++ shown name ++ " has no fields"

/-- Why a console does not show what it is asked to show: the kind of its fault and the fault in
words. -/
structure ConsoleFault where
  /-- The kind. -/
  kind : String
  /-- The fault in words. -/
  message : String
deriving DecidableEq, Repr

/-- Why an ABI cannot be loaded or no typings can be written. -/
inductive Fault where
  /-- The ABI is structurally unusable. -/
  | malformed (malformation : Malformation)
  /-- A token refers to a type that is declared nowhere. -/
  | unresolvable (name token : String)
  /-- A null stands where something is needed. -/
  | null (need : Need)
  /-- An integer has more digits than the limit allows. -/
  | longInteger (digits : Nat)
  /-- The bytes of a file are no text. -/
  | undecodable (fault : Text.Utf8.Fault)
  /-- A text has no bytes. -/
  | unencodable (fault : Text.Utf8.EncodeFault)
  /-- The path of a file has a null character. -/
  | nullInPath
  /-- The device has no room for the typings. -/
  | noRoom
  /-- The console gives up. -/
  | console (fault : ConsoleFault)
deriving DecidableEq, Repr

namespace Fault

/-- The fault in words. -/
def message : Fault → String
  | .malformed malformation => malformation.message
  | .unresolvable name token =>
    Text.quoted token ++ " references undeclared type " ++ Text.quoted name
  | .null need => "'NoneType' object has no attribute '" ++ need.word ++ "'"
  | .longInteger digits =>
    "Exceeds the limit (" ++ toString Json.digitLimit
      ++ " digits) for integer string conversion: value has " ++ toString digits
      ++ " digits; use sys.set_int_max_str_digits() to increase the limit"
  | .undecodable fault => fault.message
  | .unencodable fault => fault.message
  | .nullInPath => "embedded null byte"
  | .noRoom => "[Errno 28] No space left on device"
  | .console fault => fault.message

/-- Whether the program announces the fault as one of its input. -/
def isAnnounced : Fault → Bool
  | .malformed _ | .unresolvable _ _ => true
  | .null _ | .longInteger _ | .undecodable _ | .unencodable _ | .nullInPath | .noRoom
  | .console _ => false

end Fault
end AbiTypings
