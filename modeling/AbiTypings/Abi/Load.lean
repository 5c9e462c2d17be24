import AbiTypings.Abi.Entry
import AbiTypings.Text.Newlines

/-!
# Loading an ABI

A text is read as JSON and the value as an ABI, which then has to be valid: every variant has a
list of members and every struct a list of fields. A file is bytes that encode a text in UTF-8, with
line ends of any kind.
-/

namespace AbiTypings

/-- Whether a variant has its members. -/
def Variant.validate : Option Variant → Except Fault Unit
  | none => .error (.null .members)
  | some entry =>
    if entry.members.isNone then .error (.malformed (.variantWithoutMembers entry.name))
    else .ok ()

/-- Whether a struct has its fields. -/
def Struct.validate : Option Struct → Except Fault Unit
  | none => .error (.null .fields)
  | some entry =>
    if entry.fields.isNone then .error (.malformed (.structWithoutFields entry.name))
    else .ok ()

namespace Abi

/-- Whether all variants and then all structs have their lists. -/
def validate (abi : Abi) : Except Fault Unit := do
  abi.variantList.forM Variant.validate
  abi.structList.forM Struct.validate

/-- The valid ABI that a JSON value describes. -/
def ofJson : Json → Except Fault Abi
  | .object members => do
    let abi ← (ofMembers members).mapError (.malformed ∘ .badEntry)
    abi.validate
    return abi
  | other => .error (.malformed (.notObject other.kind))

/-- The JSON value of a text, a fault being located in it. -/
def jsonOfText (text : List Char) : Except Fault Json :=
  (Json.read text).mapError fun
    | .flawed flaw => .malformed (.notJson flaw.complaint (Json.placeIn text flaw.place))
    | .longInteger digits => .longInteger digits

/-- The ABI that a text describes. -/
def parse (text : List Char) : Except Fault Abi := do
  ofJson (← jsonOfText text)

/-- The text of a file. -/
def textOfBytes (bytes : List UInt8) : Except Fault (List Char) :=
  ((Text.Utf8.decode bytes).map Text.unifyNewlines).mapError .undecodable

/-- The ABI that the bytes of a file describe. -/
def load (bytes : List UInt8) : Except Fault Abi := do
  parse (← textOfBytes bytes)

end Abi
end AbiTypings
