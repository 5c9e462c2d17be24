import AbiTypings.Command.Directory
import AbiTypings.Proofs.Traversal

/-!
# Writing files

Walking along a path only passes through directories, and the place that is written is none. So the
walk that led to the place leads there again after the writing, and what was written is read back at
the same path. All other files are as they were.
-/

namespace AbiTypings

/-! ## Places and their paths -/

/-- The parts of a split list do not have the separator. -/
theorem notMem_of_mem_splitOn {chars part : List Char} {separator : Char}
    (member : part ∈ chars.splitOn separator) : separator ∉ part := by
  induction chars generalizing part with
  | nil =>
    obtain rfl : part = [] := by simpa using member
    exact List.not_mem_nil
  | cons c rest ih =>
    rw [List.splitOn_cons_eq_if_modifyHead] at member
    by_cases here : c = separator
    · rw [if_pos (by simpa using here), List.mem_cons] at member
      rcases member with rfl | later
      · exact List.not_mem_nil
      · exact ih later
    · rw [if_neg (by simpa using here)] at member
      cases split : rest.splitOn separator with
      | nil => exact absurd split (List.splitOn_ne_nil separator rest)
      | cons head tail =>
        rw [split, List.modifyHead_cons, List.mem_cons] at member
        rcases member with rfl | later
        · rw [List.mem_cons, not_or]
          exact ⟨Ne.symm here, ih (split ▸ List.mem_cons_self)⟩
        · exact ih (split ▸ List.mem_cons_of_mem head later)

/-- The parts of a path have no slashes. -/
theorem slash_notMem_of_mem_splitSlashes {path part : String} (member : part ∈ splitSlashes path) :
    '/' ∉ part.toList := by
  obtain ⟨chars, split, rfl⟩ := List.mem_map.mp member
  rw [String.toList_ofList]
  exact notMem_of_mem_splitOn split

/-- Parts without slashes are those of the path that they make. -/
theorem splitSlashes_intercalate {parts : List String} (free : ∀ part ∈ parts, '/' ∉ part.toList)
    (given : parts ≠ []) : splitSlashes (String.intercalate "/" parts) = parts := by
  have split : (List.intercalate ['/'] (parts.map String.toList)).splitOn '/' =
      parts.map String.toList := by
    refine List.splitOn_intercalate '/' ?_ (by simpa using given)
    intro chars member
    obtain ⟨part, listed, rfl⟩ := List.mem_map.mp member
    exact free part listed
  rw [splitSlashes, String.toList_intercalate, show "/".toList = ['/'] from rfl, split,
    List.map_map]
  simp [Function.comp_def]

namespace Place

/-- A place that can be reached: no name is empty or has a slash. -/
def IsPlain (place : Place) : Prop := ∀ name ∈ place.names, name ≠ "" ∧ '/' ∉ name.toList

/-- The places without names, where paths begin, are plain. -/
theorem isPlain_of_names_eq_nil {place : Place} (root : place.names = []) : place.IsPlain := by
  simp [IsPlain, root]

/-- The path to a plain place is split into its parts. -/
theorem splitSlashes_path {place : Place} (plain : place.IsPlain) :
    splitSlashes place.path = if place.names = [] then [""] else place.parts := by
  match place with
  | .inside [] | .outside [] => decide +kernel
  | .inside (first :: rest) =>
    exact splitSlashes_intercalate (fun name member => (plain name member).2) (List.cons_ne_nil _ _)
  | .outside (first :: rest) =>
    have free : ∀ part ∈ "" :: first :: rest, '/' ∉ part.toList := by
      intro part member
      rcases List.mem_cons.mp member with rfl | named
      · exact List.not_mem_nil
      · exact (plain part named).2
    exact splitSlashes_intercalate free (List.cons_ne_nil _ _)

/-- The empty name is not on the way to a plain place. -/
theorem IsPlain.empty_notMem {place : Place} (plain : place.IsPlain) : "" ∉ place.names :=
  fun member => (plain "" member).1 rfl

/-- A plain place that has names has other parts than the places without names. -/
theorem IsPlain.parts_ne {place : Place} (plain : place.IsPlain) (named : place.names ≠ []) :
    place.parts ≠ [""] := by
  intro same
  cases place with
  | inside held =>
    obtain rfl : held = [""] := same
    exact plain.empty_notMem (List.mem_singleton_self "")
  | outside held => exact named (List.cons.inj same).2

/-- Plain places with the same parts are the same. -/
theorem IsPlain.eq_of_parts_eq {place other : Place} (plain : place.IsPlain)
    (otherPlain : other.IsPlain) (same : place.parts = other.parts) : place = other := by
  cases place with
  | inside held =>
    cases other with
    | inside otherHeld => exact congrArg inside same
    | outside otherHeld =>
      obtain rfl : held = "" :: otherHeld := same
      exact (plain.empty_notMem List.mem_cons_self).elim
  | outside held =>
    cases other with
    | inside otherHeld =>
      obtain rfl : "" :: held = otherHeld := same
      exact (otherPlain.empty_notMem List.mem_cons_self).elim
    | outside otherHeld => exact congrArg outside (List.cons.inj same).2

/-- Plain places with one path are the same, unless both have no names. -/
theorem IsPlain.eq_of_path_eq {place other : Place} (plain : place.IsPlain)
    (otherPlain : other.IsPlain) (same : place.path = other.path) :
    place = other ∨ place.names = [] ∧ other.names = [] := by
  have split := (splitSlashes_path plain).symm.trans (same ▸ splitSlashes_path otherPlain)
  by_cases root : place.names = [] <;> by_cases otherRoot : other.names = []
  · exact .inr ⟨root, otherRoot⟩
  · rw [if_pos root, if_neg otherRoot] at split
    exact absurd split.symm (otherPlain.parts_ne otherRoot)
  · rw [if_neg root, if_pos otherRoot] at split
    exact absurd split (plain.parts_ne root)
  · rw [if_neg root, if_neg otherRoot] at split
    exact .inl (plain.eq_of_parts_eq otherPlain split)

end Place

namespace Directory

variable {directory : Directory}

/-! ## Steps of a walk -/

/-- The place that a part of a path leads to from a place. -/
def next (directory : Directory) (place : Place) (part : String) : Place :=
  if part = "" ∨ part = "." then place
  else if part = ".." then directory.parent place
  else place.child part

/-- The place one name back from a plain place is plain. -/
theorem isPlain_parent {place : Place} (plain : place.IsPlain) :
    (directory.parent place).IsPlain := by
  match place with
  | .inside [] =>
    -- the directory is left, for the one that it is in
    intro name member
    obtain ⟨listed, given⟩ := List.mem_filter.mp member
    exact ⟨of_decide_eq_true given, slash_notMem_of_mem_splitSlashes listed⟩
  | .inside (first :: rest) => exact fun name member => plain name (List.dropLast_subset _ member)
  | .outside held => exact fun name member => plain name (List.dropLast_subset _ member)

/-- A part without slashes leads from a plain place to a plain place. -/
theorem isPlain_next {place : Place} (plain : place.IsPlain) {part : String}
    (free : '/' ∉ part.toList) : (directory.next place part).IsPlain := by
  unfold next
  split
  · exact plain
  · rename_i named
    split
    · exact isPlain_parent plain
    · -- one name further
      intro name member
      have either : name ∈ place.names ∨ name = part := by
        cases place <;> simpa [Place.child, Place.names] using member
      rcases either with earlier | rfl
      · exact plain name earlier
      · exact ⟨fun empty => named (.inl empty), free⟩

/-! ## Directories after writing -/

/-- A directory is found exactly where no file has the path and a file is further on the way, or
where the place has no names, or where the system has a directory. -/
theorem node_eq_directory_iff {place : Place} :
    directory.node place = .directory ↔ directory.files.lookup place.path = none ∧
      ((∃ file ∈ directory.files, place.isOnWay file.1 = true) ∨ place.names = [] ∨
        directory.system.lookup place.path = some .directory) := by
  unfold node
  cases directory.files.lookup place.path with
  | some contents => simp
  | none =>
    by_cases passed : ∃ file ∈ directory.files, place.isOnWay file.1 = true
    · simp [List.any_eq_true.mpr passed, passed]
    · by_cases root : place.names = []
      · simp [root]
      · cases directory.system.lookup place.path <;>
          simp [passed, mt List.any_eq_true.mp passed, root]

/-- At the places where paths begin the same is found if it is a directory. -/
theorem node_root {place other : Place} (root : place.names = []) (otherRoot : other.names = [])
    (found : directory.node place = .directory) : directory.node other = .directory := by
  have path {held : Place} (empty : held.names = []) : held.path = "" := by
    cases held <;> obtain rfl := empty <;> rfl
  rw [node_eq_directory_iff, path root] at found
  exact node_eq_directory_iff.mpr ⟨by rw [path otherRoot]; exact found.1, .inr (.inl otherRoot)⟩

/-- The paths of all files are still paths of files after writing. -/
theorem exists_mem_put {path : String} {contents : List UInt8} {files : List (String × List UInt8)}
    {file : String × List UInt8} (member : file ∈ files) :
    ∃ other ∈ put path contents files, other.1 = file.1 := by
  induction files with
  | nil => contradiction
  | cons first rest ih =>
    obtain ⟨name, held⟩ := first
    unfold put
    by_cases here : name = path
    · rcases List.mem_cons.mp member with rfl | later
      · exact ⟨_, by rw [if_pos here]; exact List.mem_cons_self, here.symm⟩
      · exact ⟨file, by rw [if_pos here]; exact List.mem_cons_of_mem _ later, rfl⟩
    · rw [if_neg here]
      rcases List.mem_cons.mp member with rfl | later
      · exact ⟨_, List.mem_cons_self, rfl⟩
      · obtain ⟨other, found, same⟩ := ih later
        exact ⟨other, List.mem_cons_of_mem _ found, same⟩

/-- A directory is still one after writing at another path. -/
theorem node_put {place : Place} {path : String} (contents : List UInt8)
    (apart : place.path ≠ path) (found : directory.node place = .directory) :
    (directory.withFile path contents).node place = .directory := by
  obtain ⟨free, passed⟩ := node_eq_directory_iff.mp found
  refine node_eq_directory_iff.mpr ⟨by rw [files_withFile, lookup_put_of_ne apart, free], ?_⟩
  refine passed.imp_left ?_
  rintro ⟨file, member, onWay⟩
  obtain ⟨other, otherMember, same⟩ := exists_mem_put member
  exact ⟨other, otherMember, same ▸ onWay⟩

/-- Walking a part leads on from a directory, unless the name is too long. -/
theorem walk_cons_eq_ok_iff {place found : Place} {part : String} {rest : List String} :
    directory.walk place (part :: rest) = .ok found ↔
      directory.node place = .directory ∧ pathSize part ≤ greatestNameSize ∧
        directory.walk (directory.next place part) rest = .ok found := by
  rw [walk]
  cases directory.node place with
  | file contents => simp
  | device device => simp
  | nothing => simp
  | directory =>
    by_cases stays : part = "" ∨ part = "."
    · have short : pathSize part ≤ greatestNameSize := by
        rcases stays with rfl | rfl <;> decide +kernel
      simp [next, stays, short]
    · by_cases back : part = ".."
      · subst back
        have short : pathSize ".." ≤ greatestNameSize := by decide +kernel
        simp [next, short]
      · by_cases long : greatestNameSize < pathSize part
        · simp [stays, back, long, Nat.not_le.mpr long]
        · simp [next, stays, back, long, Nat.not_lt.mp long]

/-- Walking leads from a plain place to a plain place. -/
theorem isPlain_of_walk {place found : Place} {parts : List String} (plain : place.IsPlain)
    (free : ∀ part ∈ parts, '/' ∉ part.toList) (walked : directory.walk place parts = .ok found) :
    found.IsPlain := by
  induction parts generalizing place with
  | nil =>
    obtain rfl := Except.ok.inj walked
    exact plain
  | cons part rest ih =>
    obtain ⟨-, -, later⟩ := walk_cons_eq_ok_iff.mp walked
    exact ih (isPlain_next plain (free part List.mem_cons_self))
      (fun other member => free other (List.mem_cons_of_mem part member)) later

/-- Walking still leads to the same place after writing where no directory is. -/
theorem walk_put {target place found : Place} {parts : List String} (contents : List UInt8)
    (targetPlain : target.IsPlain) (writable : directory.node target ≠ .directory)
    (plain : place.IsPlain) (free : ∀ part ∈ parts, '/' ∉ part.toList)
    (walked : directory.walk place parts = .ok found) :
    (directory.withFile target.path contents).walk place parts = .ok found := by
  induction parts generalizing place with
  | nil => exact walked
  | cons part rest ih =>
    obtain ⟨passed, short, later⟩ := walk_cons_eq_ok_iff.mp walked
    have apart : place.path ≠ target.path := by
      intro same
      rcases plain.eq_of_path_eq targetPlain same with rfl | ⟨root, targetRoot⟩
      · exact writable passed
      · exact writable (node_root root targetRoot passed)
    exact walk_cons_eq_ok_iff.mpr ⟨node_put contents apart passed, short,
      ih (isPlain_next plain (free part List.mem_cons_self))
        (fun other member => free other (List.mem_cons_of_mem part member)) later⟩

/-! ## Reading what was written -/

/-- The parts to walk along a path have no slashes. -/
theorem slash_notMem_of_partsOf {path part : String} {parts : List String}
    (split : partsOf path = .ok parts) (member : part ∈ parts) : '/' ∉ part.toList := by
  have listed : part ∈ splitSlashes path := by
    unfold partsOf at split
    split at split
    · contradiction
    · split at split
      · contradiction
      · split at split
        · contradiction
        · obtain rfl := Except.ok.inj split
          exact List.mem_reverse.mp (List.dropWhile_subset _ (List.mem_reverse.mp member))
  exact slash_notMem_of_mem_splitSlashes listed

/-- The parts of a path are walked from one of the places without names. -/
theorem exists_place_eq_walk (parts : List String) :
    ∃ start rest, start.names = [] ∧ rest ⊆ parts ∧
      ∀ directory : Directory, directory.place parts = directory.walk start rest := by
  match parts with
  | [] => exact ⟨.inside [], [], rfl, List.Subset.refl _, fun _ => rfl⟩
  | part :: rest =>
    by_cases rooted : part = ""
    · subst rooted
      exact ⟨.outside [], rest, rfl, List.subset_cons_self "" rest, fun _ => rfl⟩
    · refine ⟨.inside [], part :: rest, rfl, List.Subset.refl _, fun directory => ?_⟩
      rw [place]
      exact fun other same => rooted (List.cons.inj same).1

/-- A place is written at a path exactly when the path may lead to a file, and leads to this place,
where no directory is. -/
theorem target_eq_ok_iff {path : String} {place : Place} :
    directory.target path = .ok place ↔ asksDirectory path = false ∧
      ∃ parts, partsOf path = .ok parts ∧ directory.place parts = .ok place ∧
        directory.node place ≠ .directory := by
  rw [target, bind_eq_ok_iff]
  cases asked : asksDirectory path with
  | true =>
    have refused (parts : List String) : ¬ (do
        let _ ← directory.place (parts.dropLast ++ ["."])
        Except.error OpenFault.isDirectory) = .ok place := by
      rw [bind_eq_ok_iff]
      rintro ⟨_, -, impossible⟩
      contradiction
    simpa using fun parts _ => refused parts
  | false =>
    simp only [Bool.false_eq_true, ↓reduceIte, true_and, bind_eq_ok_iff]
    refine exists_congr fun parts => and_congr_right fun _ => ?_
    constructor
    · rintro ⟨found, reached, chosen⟩
      cases node : directory.node found <;> rw [node] at chosen
      case directory => contradiction
      all_goals
        obtain rfl := Except.ok.inj chosen
        exact ⟨reached, by simp [node]⟩
    · rintro ⟨reached, writable⟩
      refine ⟨place, reached, ?_⟩
      cases node : directory.node place <;> first | exact absurd node writable | rfl

/-- The place to which a path leads is plain. -/
theorem isPlain_of_place {path : String} {parts : List String} {found : Place}
    (split : partsOf path = .ok parts) (reached : directory.place parts = .ok found) :
    found.IsPlain := by
  obtain ⟨start, rest, root, within, walked⟩ := exists_place_eq_walk parts
  rw [walked] at reached
  exact isPlain_of_walk (Place.isPlain_of_names_eq_nil root)
    (fun part member => slash_notMem_of_partsOf split (within member)) reached

/-- What is written where no directory is, is read back at each path that leads there. -/
theorem read_put {path : String} {place : Place} (contents : List UInt8)
    (found : directory.target path = .ok place) :
    (directory.withFile place.path contents).read path = .ok contents := by
  obtain ⟨named, parts, split, reached, writable⟩ := target_eq_ok_iff.mp found
  obtain ⟨start, rest, root, within, walked⟩ := exists_place_eq_walk parts
  have plain := isPlain_of_place split reached
  have again : (directory.withFile place.path contents).place parts = .ok place := by
    rw [walked] at reached ⊢
    exact walk_put contents plain writable (Place.isPlain_of_names_eq_nil root)
      (fun part member => slash_notMem_of_partsOf split (within member)) reached
  have held : (directory.withFile place.path contents).node place = .file contents := by
    rw [node, files_withFile, lookup_put_self]
  simp only [read, split, again, held, named, bind, Except.bind, Bool.false_eq_true, ↓reduceIte]

/-- A path is written by discarding what is written if the device there does so, and otherwise by
putting it at the place to which the path leads. -/
theorem write_eq_ok_iff {path : String} {contents : List UInt8} {changed : Directory} :
    directory.write path contents = .ok changed ↔
      ∃ place, directory.target path = .ok place ∧
        (directory.node place = .device .sink ∧ changed = directory ∨
          (∀ device, directory.node place ≠ .device device) ∧
            changed = directory.withFile place.path contents) := by
  rw [write, bind_eq_ok_iff]
  refine exists_congr fun place => and_congr_right fun _ => ?_
  cases directory.node place with
  | device device => cases device <;> simp [pure, Except.pure, eq_comm]
  | _ => simp [pure, Except.pure, eq_comm]

/-- Opening a file for writing leaves nothing in it. A device that is open for writing is as it
was. -/
theorem truncate_eq_ok_iff {path : String} {changed : Directory} :
    directory.truncate path = .ok changed ↔
      ∃ place, directory.target path = .ok place ∧
        ((directory.node place = .device .sink ∨ directory.node place = .device .full) ∧
            changed = directory ∨
          (∀ device, directory.node place ≠ .device device) ∧
            changed = directory.withFile place.path []) := by
  rw [truncate, bind_eq_ok_iff]
  refine exists_congr fun place => and_congr_right fun _ => ?_
  cases directory.node place with
  | device device => cases device <;> simp [pure, Except.pure, eq_comm]
  | _ => simp [pure, Except.pure, eq_comm]

/-- What is left after writing at a path: a device may have discarded what was written, and
otherwise it is in the file to which the path leads and is read back there. No other file has
changed. -/
theorem files_of_write {path : String} {contents : List UInt8} {changed : Directory}
    (written : directory.write path contents = .ok changed) :
    ∃ place, directory.target path = .ok place ∧
      (∀ other, other ≠ place.path → changed.files.lookup other = directory.files.lookup other) ∧
      (directory.node place = .device .sink ∧ changed = directory ∨
        changed.files.lookup place.path = some contents ∧ changed.read path = .ok contents) := by
  obtain ⟨place, found, ⟨device, rfl⟩ | ⟨-, rfl⟩⟩ := write_eq_ok_iff.mp written
  · exact ⟨place, found, fun _ _ => rfl, .inl ⟨device, rfl⟩⟩
  · exact ⟨place, found, fun other apart => lookup_put_of_ne apart contents directory.files,
      .inr ⟨lookup_put_self place.path contents directory.files, read_put contents found⟩⟩

end Directory
end AbiTypings
