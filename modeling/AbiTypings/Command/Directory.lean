import AbiTypings.Command.Place

/-!
# A directory of files

The files that a command works on, by their paths inside one directory; files outside it have paths
from the root of the system. What else is outside comes with the directory. A path is walked part by
part: an empty part and a dot stay, two dots go up, and a name goes down, which is possible inside
directories only. A file may be written where one is or where nothing is in a directory, but not at
a path with a slash at its end. A path and the names in it have a limited length in bytes, which is
checked when the path and each name are reached.
-/

namespace AbiTypings

/-- Why a file cannot be opened or written. -/
inductive OpenFault where
  /-- Nothing is there. -/
  | missing
  /-- A directory is there. -/
  | isDirectory
  /-- The path leads through a file. -/
  | notDirectory
  /-- The path or a name in it is too long. -/
  | tooLong
  /-- The path has a null character, with which no path can be asked for. -/
  | nullCharacter
  /-- A device is there that is not connected. -/
  | noDevice
  /-- A device is there that has no room. -/
  | noRoom
  /-- The system refuses for another reason, in its words. -/
  | refused (reason : String)
deriving DecidableEq, Repr

/-- The fault in words. -/
def OpenFault.message : OpenFault → String
  | .missing => "No such file or directory"
  | .isDirectory => "Is a directory"
  | .notDirectory => "Not a directory"
  | .tooLong => "File name too long"
  | .nullCharacter => "embedded null byte"
  | .noDevice => "No such device or address"
  | .noRoom => "No space left on device"
  | .refused reason => reason

/-- Files by their paths, with the system that the directory of the files is in; the parts of a path
are separated by slashes. -/
structure Directory where
  /-- The paths with the contents. -/
  files : List (String × List UInt8)
  /-- The path of the directory that this one is in. -/
  home : String := ""
  /-- What the system has at paths from its root. -/
  system : List (String × Node) := []
deriving DecidableEq, Repr

namespace Directory

/-- What is found at a place. A directory is there if the place is on the way to a file; the
directory itself and the root are always there. -/
def node (directory : Directory) (place : Place) : Node :=
  match directory.files.lookup place.path with
  | some contents => .file contents
  | none =>
    if directory.files.any fun (path, _) => place.isOnWay path then .directory
    else if place.names.isEmpty then .directory
    else (directory.system.lookup place.path).getD .nothing

/-- The place one name back; the root stays. -/
def parent (directory : Directory) : Place → Place
  | .inside [] => .outside (namesOnWay directory.home)
  | .inside names => .inside names.dropLast
  | .outside names => .outside names.dropLast

/-- The most bytes in a name. -/
def greatestNameSize : Nat := 255

/-- A path has fewer bytes than these. -/
def pathSizeLimit : Nat := 4096

/-- The place to which a path leads from a place. -/
def walk (directory : Directory) (place : Place) : List String → Except OpenFault Place
  | [] => .ok place
  | part :: rest =>
    match directory.node place with
    | .file _ | .device _ => .error .notDirectory
    | .nothing => .error .missing
    | .directory =>
      if part = "" || part = "." then directory.walk place rest
      else if part = ".." then directory.walk (directory.parent place) rest
      else if greatestNameSize < pathSize part then .error .tooLong
      else directory.walk (place.child part) rest

/-- The parts of a path; slashes at its end do not count. -/
def partsOf (path : String) : Except OpenFault (List String) :=
  if path.toList.contains '\x00' then .error .nullCharacter
  else if path.isEmpty then .error .missing
  else if pathSizeLimit ≤ pathSize path then .error .tooLong
  else .ok ((splitSlashes path).reverse.dropWhile String.isEmpty).reverse

/-- The place to which the parts of a path lead; one that begins with a slash leads there from the
root. -/
def place (directory : Directory) : List String → Except OpenFault Place
  | "" :: rest => directory.walk (.outside []) rest
  | parts => directory.walk (.inside []) parts

/-- Whether a path leads to a directory only. -/
def asksDirectory (path : String) : Bool := path.toList.getLast? = some '/'

/-- What is read at a path. -/
def read (directory : Directory) (path : String) : Except OpenFault (List UInt8) := do
  let parts ← partsOf path
  match directory.node (← directory.place parts) with
  | .directory => .error .isDirectory
  | .nothing => .error .missing
  | .file contents => if asksDirectory path then .error .notDirectory else .ok contents
  | .device device =>
    if asksDirectory path then .error .notDirectory
    else if device = .terminal then .error .noDevice
    else .ok []

/-- The place that is written at a path; walking there has shown that its directory exists. -/
def target (directory : Directory) (path : String) : Except OpenFault Place := do
  let parts ← partsOf path
  if asksDirectory path then
    let _ ← directory.place (parts.dropLast ++ ["."])
    .error .isDirectory
  else
    let place ← directory.place parts
    match directory.node place with
    | .directory => .error .isDirectory
    | _ => .ok place

/-- The files with new contents at a path. -/
def put (path : String) (contents : List UInt8) : List (String × List UInt8) →
    List (String × List UInt8)
  | [] => [(path, contents)]
  | (other, held) :: rest =>
    if other = path then (path, contents) :: rest else (other, held) :: put path contents rest

/-- The directory with new contents at a path. -/
def withFile (directory : Directory) (path : String) (contents : List UInt8) : Directory :=
  { directory with files := put path contents directory.files }

/-- The files of a directory with new contents at a path. -/
@[simp] theorem files_withFile (directory : Directory) (path : String) (contents : List UInt8) :
    (directory.withFile path contents).files = put path contents directory.files := rfl

/-- The directory after writing at a path. -/
def write (directory : Directory) (path : String) (contents : List UInt8) :
    Except OpenFault Directory := do
  let place ← directory.target path
  match directory.node place with
  | .device .sink => return directory
  | .device .full => .error .noRoom
  | .device .terminal => .error .noDevice
  | _ => return directory.withFile place.path contents

/-- The directory after opening a file for writing at a path, which leaves nothing in the file. A
device is open for writing even if it has no room. -/
def truncate (directory : Directory) (path : String) : Except OpenFault Directory := do
  let place ← directory.target path
  match directory.node place with
  | .device .sink | .device .full => return directory
  | .device .terminal => .error .noDevice
  | _ => return directory.withFile place.path []

/-- Only the file at the path is touched. -/
theorem lookup_put_of_ne {path other : String} (apart : other ≠ path) (contents : List UInt8)
    (files : List (String × List UInt8)) :
    (put path contents files).lookup other = files.lookup other := by
  induction files with
  | nil => simp [put, List.lookup_cons, beq_eq_false_iff_ne.mpr apart]
  | cons file rest ih =>
    obtain ⟨name, held⟩ := file
    unfold put
    by_cases here : name = path
    · subst here
      simp [List.lookup_cons, beq_eq_false_iff_ne.mpr apart]
    · simp [here, List.lookup_cons, ih]

/-- The file at the path holds the new contents. -/
theorem lookup_put_self (path : String) (contents : List UInt8)
    (files : List (String × List UInt8)) :
    (put path contents files).lookup path = some contents := by
  induction files with
  | nil => simp [put]
  | cons file rest ih =>
    obtain ⟨name, held⟩ := file
    unfold put
    by_cases here : name = path
    · simp [here]
    · simp [here, List.lookup_cons, beq_eq_false_iff_ne.mpr (Ne.symm here), ih]

end Directory
end AbiTypings
