import AbiTypings.Text.Half

/-!
# Places

Where a path can lead: inside the directory that a command works in, or outside it, and what can be
found there. What there is outside the directory is for the system to say.
-/

namespace AbiTypings

/-- A device, by what becomes of what is written to it. Nothing is read from a device. -/
inductive Device where
  /-- It discards what is written. The standard streams have such devices, as they are not reached
  through paths. -/
  | sink
  /-- It has no room for what is written. -/
  | full
  /-- It stands for a terminal that is not there. -/
  | terminal
deriving DecidableEq, Repr

/-- What is found at a place. -/
inductive Node where
  /-- A file with its contents. -/
  | file (contents : List UInt8)
  /-- A directory. -/
  | directory
  /-- A device. -/
  | device (device : Device)
  /-- Nothing. -/
  | nothing
deriving DecidableEq, Repr

/-- A place, by the names on the way to it. -/
inductive Place where
  /-- A place on the way from the directory. -/
  | inside (names : List String)
  /-- A place on the way from the root of the system. -/
  | outside (names : List String)
deriving DecidableEq, Repr

/-- The parts of a path between its slashes. -/
def splitSlashes (path : String) : List String := (path.toList.splitOn '/').map String.ofList

/-- The names on a way from the root; what is empty between two slashes is no name. -/
def namesOnWay (path : String) : List String := (splitSlashes path).filter (· ≠ "")

/-- The number of bytes of a point in a path. Half of a surrogate pair stands for a byte that is no
part of a character. -/
def pointSize : Text.Point → Nat
  | .char c => c.utf8Size
  | .lone _ => 1

/-- The number of bytes of a text in a path. -/
def pathSize (text : String) : Nat :=
  (Text.points text.toList).foldl (fun size point => size + pointSize point) 0

namespace Place

/-- The names on the way to a place. -/
def names : Place → List String
  | .inside names => names
  | .outside names => names

/-- The place one name further. -/
def child (name : String) : Place → Place
  | .inside names => .inside (names ++ [name])
  | .outside names => .outside (names ++ [name])

/-- The parts of the path to a place. -/
def parts : Place → List String
  | .inside names => names
  | .outside names => "" :: names

/-- The path to a place. -/
def path (place : Place) : String := String.intercalate "/" place.parts

/-- Whether a path leads to a place or through it. -/
def isOnWay (place : Place) (path : String) : Bool := place.parts.isPrefixOf (splitSlashes path)

end Place
end AbiTypings
