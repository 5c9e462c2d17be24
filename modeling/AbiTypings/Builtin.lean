/-!
# Built-in types

The types that every contract may use without declaring them. Each has a name in the ABI and a
TypeScript type that its alias in the typings points at: integers of 64 bits also admit strings
because they may exceed the largest exact number, and wider ones are strings only. The registry
lists the built-ins in the order of the type's constructors.
-/

namespace AbiTypings

/-- A built-in type of the ABI. -/
inductive Builtin where
  /-- An amount of a token. -/
  | asset
  /-- An account name. -/
  | name
  /-- A sequence of bytes. -/
  | bytes
  /-- A digest of 160 bits. -/
  | checksum160
  /-- A digest of 256 bits. -/
  | checksum256
  /-- A digest of 512 bits. -/
  | checksum512
  /-- A private key. -/
  | privateKey
  /-- A public key. -/
  | publicKey
  /-- A signature. -/
  | signature
  /-- A token symbol with its precision. -/
  | symbol
  /-- A token symbol without its precision. -/
  | symbolCode
  /-- A time in microseconds. -/
  | timePoint
  /-- A time in seconds. -/
  | timePointSec
  /-- A time in block slots. -/
  | blockTimestampType
  /-- A signed integer of 8 bits. -/
  | int8
  /-- A signed integer of 16 bits. -/
  | int16
  /-- A signed integer of 32 bits. -/
  | int32
  /-- A signed integer of 64 bits. -/
  | int64
  /-- A signed integer of 128 bits. -/
  | int128
  /-- An unsigned integer of 8 bits. -/
  | uint8
  /-- An unsigned integer of 16 bits. -/
  | uint16
  /-- An unsigned integer of 32 bits. -/
  | uint32
  /-- An unsigned integer of 64 bits. -/
  | uint64
  /-- An unsigned integer of 128 bits. -/
  | uint128
  /-- A floating-point number of 32 bits. -/
  | float32
  /-- A floating-point number of 64 bits. -/
  | float64
  /-- A floating-point number of 128 bits. -/
  | float128
deriving DecidableEq, Repr

namespace Builtin

/-- The name of a built-in in the ABI. -/
def spelling : Builtin → String
  | .asset => "asset"
  | .name => "name"
  | .bytes => "bytes"
  | .checksum160 => "checksum160"
  | .checksum256 => "checksum256"
  | .checksum512 => "checksum512"
  | .privateKey => "private_key"
  | .publicKey => "public_key"
  | .signature => "signature"
  | .symbol => "symbol"
  | .symbolCode => "symbol_code"
  | .timePoint => "time_point"
  | .timePointSec => "time_point_sec"
  | .blockTimestampType => "block_timestamp_type"
  | .int8 => "int8"
  | .int16 => "int16"
  | .int32 => "int32"
  | .int64 => "int64"
  | .int128 => "int128"
  | .uint8 => "uint8"
  | .uint16 => "uint16"
  | .uint32 => "uint32"
  | .uint64 => "uint64"
  | .uint128 => "uint128"
  | .float32 => "float32"
  | .float64 => "float64"
  | .float128 => "float128"

/-- The TypeScript type that the alias of a built-in points at. -/
def target : Builtin → String
  | .bytes => "string | number[] | Uint8Array"
  | .int8 | .int16 | .int32 | .uint8 | .uint16 | .uint32 | .float32 | .float64 => "number"
  | .int64 | .uint64 => "number | string"
  | _ => "string"

/-- The registry: every built-in, in order. -/
def registry : List Builtin := [
  .asset, .name, .bytes, .checksum160, .checksum256, .checksum512, .privateKey, .publicKey,
  .signature, .symbol, .symbolCode, .timePoint, .timePointSec, .blockTimestampType, .int8, .int16,
  .int32, .int64, .int128, .uint8, .uint16, .uint32, .uint64, .uint128, .float32, .float64,
  .float128]

/-- The position of a built-in in the registry. -/
def index (builtin : Builtin) : Nat := registry.idxOf builtin

/-- The built-in called exactly `name`. -/
def ofName? (name : String) : Option Builtin := registry.find? (·.spelling == name)

/-- Every built-in is registered. -/
theorem mem_registry (builtin : Builtin) : builtin ∈ registry := by
  cases builtin <;> decide

/-- No built-in is registered twice. -/
theorem registry_nodup : registry.Nodup := by decide

/-- A position lies inside the registry. -/
theorem index_lt (builtin : Builtin) : builtin.index < 27 := by
  cases builtin <;> decide

/-- The built-in at a position of the registry is the one whose position it is. -/
theorem registry_getElem?_index (builtin : Builtin) :
    registry[builtin.index]? = some builtin := by
  cases builtin <;> rfl

/-- Different built-ins have different positions. -/
theorem index_injective {left right : Builtin} (same : left.index = right.index) :
    left = right := by
  have found := registry_getElem?_index left
  rw [same, registry_getElem?_index right] at found
  exact (Option.some.inj found).symm

/-- A built-in is found by its name. -/
theorem ofName?_spelling (builtin : Builtin) : ofName? builtin.spelling = some builtin := by
  cases builtin <;> decide

/-- Different built-ins have different names. -/
theorem spelling_injective {left right : Builtin} (same : left.spelling = right.spelling) :
    left = right := by
  have found := ofName?_spelling left
  rw [same, ofName?_spelling right] at found
  exact (Option.some.inj found).symm

/-- A name finds a built-in exactly when it is the name of that built-in. -/
theorem ofName?_eq_some_iff {name : String} {builtin : Builtin} :
    ofName? name = some builtin ↔ builtin.spelling = name := by
  constructor
  · intro found
    have named := List.find?_some found
    simpa using named
  · rintro rfl
    exact ofName?_spelling builtin

end Builtin
end AbiTypings
