import AbiTypings.Text.CaseMapping

/-!
# Images of the case tables

What a case table says of all its characters at once. An image is listed as an expansion, or belongs
to a run, or is the character itself. The tables of Unicode have no image before the capital letters
and no empty one, and they change no code point in two places. The code points that a table changes
and those that it makes are finite sets; a set is a number with one bit for each of its code points,
so that two sets are compared in one step.
-/

namespace AbiTypings.Text

/-! ## Images from the capital letters on -/

/-- A code point is that of a character, and not before the capital letters. -/
def IsFromCapitals (code : Nat) : Prop :=
  0x41 ≤ code ∧ (code < 0xD800 ∨ 0xDFFF < code ∧ code < 0x110000)

instance : DecidablePred IsFromCapitals := fun code =>
  inferInstanceAs (Decidable (0x41 ≤ code ∧ (code < 0xD800 ∨ 0xDFFF < code ∧ code < 0x110000)))

/-- Such a code point is that of its character. -/
theorem IsFromCapitals.toNat_ofNat {code : Nat} (above : IsFromCapitals code) :
    (Char.ofNat code).toNat = code := by
  have valid : code.isValidChar := above.2
  rw [Char.ofNat, dif_pos valid]
  rfl

/-- The images of a run are not before the capital letters: its first one is not, and there are no
surrogates among them. -/
def CaseRun.StaysAbove (run : CaseRun) : Prop :=
  0x41 ≤ run.target ∧ (run.target + (run.last - run.first) < 0xD800 ∨
    0xDFFF < run.target ∧ run.target + (run.last - run.first) < 0x110000)

instance : DecidablePred CaseRun.StaysAbove := fun run =>
  inferInstanceAs (Decidable (0x41 ≤ run.target ∧ (run.target + (run.last - run.first) < 0xD800 ∨
    0xDFFF < run.target ∧ run.target + (run.last - run.first) < 0x110000)))

/-- A code point of a run is not before its first and not after its last. -/
theorem CaseRun.bounds_of_image? {run : CaseRun} {code image : Nat}
    (found : run.image? code = some image) : run.first ≤ code ∧ code ≤ run.last := by
  unfold image? at found
  split at found
  · rename_i inside
    exact ⟨inside.1, inside.2.1⟩
  · contradiction

/-- The image of a code point of such a run is not before the capital letters. -/
theorem CaseRun.StaysAbove.isFromCapitals {run : CaseRun} (above : run.StaysAbove)
    {code image : Nat} (found : run.image? code = some image) : IsFromCapitals image := by
  unfold image? at found
  split at found
  · have same : run.target + (code - run.first) = image := Option.some.inj found
    obtain ⟨low, high⟩ := above
    unfold IsFromCapitals
    omega
  · contradiction

/-! ## Sets of code points -/

/-- The set of listed code points. -/
def bits (codes : List Nat) : Nat := codes.foldr (fun code set => 1 <<< code ||| set) 0

/-- The set of code points in lists. -/
def bitsOfLists (lists : List (List Nat)) : Nat :=
  lists.foldr (fun codes set => bits codes ||| set) 0

/-- The bits of a set are those of its code points. -/
theorem testBit_bits {codes : List Nat} {code : Nat} :
    (bits codes).testBit code = true ↔ code ∈ codes := by
  induction codes with
  | nil => simp [bits]
  | cons first rest ih =>
    have step : bits (first :: rest) = 1 <<< first ||| bits rest := rfl
    rw [step, Nat.testBit_or, Nat.one_shiftLeft, Nat.testBit_two_pow, Bool.or_eq_true,
      decide_eq_true_eq, ih, List.mem_cons, eq_comm]

/-- The bits of a set from lists are those of their code points. -/
theorem testBit_bitsOfLists {lists : List (List Nat)} {code : Nat} :
    (bitsOfLists lists).testBit code = true ↔ code ∈ lists.flatten := by
  induction lists with
  | nil => simp [bitsOfLists]
  | cons codes rest ih =>
    have step : bitsOfLists (codes :: rest) = bits codes ||| bitsOfLists rest := rfl
    rw [step, Nat.testBit_or, Bool.or_eq_true, testBit_bits, ih, List.flatten_cons, List.mem_append]

/-- Sets without a common bit have no common code point. -/
theorem notMem_of_bits {left right : List (List Nat)}
    (apart : bitsOfLists left &&& bitsOfLists right = 0) {code : Nat}
    (member : code ∈ left.flatten) : code ∉ right.flatten := by
  intro other
  have both : (bitsOfLists left &&& bitsOfLists right).testBit code = true := by
    rw [Nat.testBit_and, testBit_bitsOfLists.mpr member, testBit_bitsOfLists.mpr other]
    rfl
  rw [apart, Nat.zero_testBit] at both
  contradiction

/-! ## The code points of a table -/

/-- The code points of a run with their images. -/
def CaseRun.pairs (run : CaseRun) : List (Nat × Nat) :=
  (List.range ((run.last - run.first) / run.step + 1)).map fun index =>
    (run.first + index * run.step, run.target + index * run.step)

/-- A code point of a run is listed with its image. -/
theorem CaseRun.mem_pairs {run : CaseRun} {code image : Nat}
    (found : run.image? code = some image) : (code, image) ∈ run.pairs := by
  unfold image? at found
  split at found
  · rename_i inside
    obtain ⟨low, high, aligned⟩ := inside
    have same : run.target + (code - run.first) = image := Option.some.inj found
    let index := (code - run.first) / run.step
    have distance : index * run.step = code - run.first := by
      rw [Nat.mul_comm]
      exact Nat.mul_div_cancel' (Nat.dvd_of_mod_eq_zero aligned)
    have place : run.first + index * run.step = code := by omega
    have target : run.target + index * run.step = image := by omega
    have bound : index ≤ (run.last - run.first) / run.step :=
      Nat.div_le_div_right (Nat.sub_le_sub_right high run.first)
    exact List.mem_map.mpr ⟨index, List.mem_range.mpr (by omega), by rw [place, target]⟩
  · contradiction

/-- Code points of a table: some that belong to each expansion and one that belongs to each pair of a
run. -/
def codePoints (ofExpansion : Nat × List Nat → List Nat) (ofPair : Nat × Nat → Nat)
    (expansions : List (Nat × List Nat)) (runs : List CaseRun) : List (List Nat) :=
  expansions.map ofExpansion ++ runs.map (·.pairs.map ofPair)

/-- The code points that a table changes. -/
def changed : List (Nat × List Nat) → List CaseRun → List (List Nat) :=
  codePoints (fun expansion => [expansion.1]) Prod.fst

/-- The code points that a table makes. -/
def made : List (Nat × List Nat) → List CaseRun → List (List Nat) :=
  codePoints Prod.snd Prod.snd

/-- The code points with which the images of a table begin. -/
def begun : List (Nat × List Nat) → List CaseRun → List (List Nat) :=
  codePoints (·.2.take 1) Prod.snd

section CodePoints

variable {expansions : List (Nat × List Nat)} {runs : List CaseRun}
  {ofExpansion : Nat × List Nat → List Nat} {ofPair : Nat × Nat → Nat}

/-- What belongs to an expansion is a code point of the table. -/
theorem mem_codePoints_of_expansion {expansion : Nat × List Nat} {code : Nat}
    (listed : expansion ∈ expansions) (inside : code ∈ ofExpansion expansion) :
    code ∈ (codePoints ofExpansion ofPair expansions runs).flatten := by
  have whole : ofExpansion expansion ∈ codePoints ofExpansion ofPair expansions runs :=
    List.mem_append_left _ (List.mem_map.mpr ⟨expansion, listed, rfl⟩)
  exact List.mem_flatten.mpr ⟨_, whole, inside⟩

/-- What belongs to a code point of a run and its image is a code point of the table. -/
theorem mem_codePoints_of_run {run : CaseRun} {code image : Nat} (listed : run ∈ runs)
    (found : run.image? code = some image) :
    ofPair (code, image) ∈ (codePoints ofExpansion ofPair expansions runs).flatten := by
  have whole : run.pairs.map ofPair ∈ codePoints ofExpansion ofPair expansions runs :=
    List.mem_append_right _ (List.mem_map.mpr ⟨run, listed, rfl⟩)
  have inside : ofPair (code, image) ∈ run.pairs.map ofPair :=
    List.mem_map.mpr ⟨_, CaseRun.mem_pairs found, rfl⟩
  exact List.mem_flatten.mpr ⟨_, whole, inside⟩

end CodePoints

/-! ## Runs in order -/

/-- Whether runs follow one another from a code point on. -/
def inOrderFrom : Nat → List CaseRun → Bool
  | _, [] => true
  | bound, run :: later =>
    bound.ble run.first && run.first.ble run.last && inOrderFrom (run.last + 1) later

/-- The code points of runs in order are not before the code point where the runs start. -/
theorem le_of_inOrderFrom {runs : List CaseRun} {bound code image : Nat} {run : CaseRun}
    (ordered : inOrderFrom bound runs = true) (listed : run ∈ runs)
    (found : run.image? code = some image) : bound ≤ code := by
  induction runs generalizing bound with
  | nil => contradiction
  | cons first later ih =>
    simp only [inOrderFrom, Bool.and_eq_true, Nat.ble_eq] at ordered
    obtain ⟨⟨start, whole⟩, next⟩ := ordered
    rcases List.mem_cons.mp listed with rfl | after
    · have low : run.first ≤ code := (CaseRun.bounds_of_image? found).1
      omega
    · have low := ih next after
      omega

/-- In runs in order an image is that of any run with the code point. -/
theorem findSome?_of_inOrderFrom {runs : List CaseRun} {bound code image : Nat} {run : CaseRun}
    (ordered : inOrderFrom bound runs = true) (listed : run ∈ runs)
    (found : run.image? code = some image) :
    runs.findSome? (·.image? code) = some image := by
  induction runs generalizing bound with
  | nil => contradiction
  | cons first later ih =>
    simp only [inOrderFrom, Bool.and_eq_true] at ordered
    rcases List.mem_cons.mp listed with rfl | after
    · rw [List.findSome?_cons, found]
    · have low := le_of_inOrderFrom ordered.2 after found
      have absent : first.image? code = none := by
        cases image : first.image? code with
        | none => rfl
        | some _ =>
          have high : code ≤ first.last := (CaseRun.bounds_of_image? image).2
          omega
      rw [List.findSome?_cons, absent]
      exact ih ordered.2 after

/-! ## Case tables -/

/-- The expansions and the runs of a case mapping. Their images are not before the capital letters and
not empty, and no code point is changed in two places. -/
structure CaseTable where
  /-- Code points with the code points of their images. -/
  expansions : List (Nat × List Nat)
  /-- Runs of code points whose images are single code points. -/
  runs : List CaseRun
  /-- An expansion has a code point. -/
  filled : ∀ expansion ∈ expansions, expansion.2 ≠ []
  /-- An expansion has no code point before the capital letters. -/
  expanded : ∀ expansion ∈ expansions, ∀ code ∈ expansion.2, IsFromCapitals code
  /-- A run has no image before the capital letters. -/
  moved : ∀ run ∈ runs, run.StaysAbove
  /-- The runs follow one another. -/
  ordered : inOrderFrom 0 runs = true
  /-- A code point of a run has no expansion. -/
  apart : bitsOfLists (changed [] runs) &&& bitsOfLists (changed expansions []) = 0

/-- The image of a character under a case table. -/
def CaseTable.image (table : CaseTable) (c : Char) : List Char :=
  caseImage table.expansions table.runs c

/-- The table of full upper case. -/
def upperTable : CaseTable where
  expansions := upperExpansions
  runs := upperRuns
  filled := by decide +kernel
  expanded := by decide +kernel
  moved := by decide +kernel
  ordered := by decide +kernel
  apart := by decide +kernel

/-- The table of full lower case. -/
def lowerTable : CaseTable where
  expansions := lowerExpansions
  runs := lowerRuns
  filled := by decide +kernel
  expanded := by decide +kernel
  moved := by decide +kernel
  ordered := by decide +kernel
  apart := by decide +kernel

section Table

variable (table : CaseTable) {c : Char}

/-- An image is listed as an expansion, belongs to a run with the character, or is the character. -/
theorem CaseTable.image_cases (c : Char) :
    (∃ codes, (c.toNat, codes) ∈ table.expansions ∧ table.image c = codes.map Char.ofNat) ∨
    (∃ run ∈ table.runs, ∃ code, run.image? c.toNat = some code ∧
      table.image c = [Char.ofNat code]) ∨
    table.image c = [c] := by
  unfold image caseImage
  cases listed : table.expansions.lookup c.toNat with
  | some codes =>
    have member : (c.toNat, codes) ∈ table.expansions := by
      obtain ⟨front, back, split, -⟩ := List.lookup_eq_some_iff.mp listed
      simp [split]
    exact .inl ⟨codes, member, rfl⟩
  | none =>
    cases found : table.runs.findSome? (·.image? c.toNat) with
    | some code =>
      obtain ⟨run, member, image⟩ := List.exists_of_findSome?_eq_some found
      exact .inr (.inl ⟨run, member, code, image, rfl⟩)
    | none => exact .inr (.inr rfl)

/-- A character that a table does not change is its own image. -/
theorem CaseTable.image_of_notMem_changed
    (kept : c.toNat ∉ (changed table.expansions table.runs).flatten) : table.image c = [c] := by
  rcases table.image_cases c with
    ⟨_, listed, -⟩ | ⟨_, listed, _, found, -⟩ | image
  · exact absurd (mem_codePoints_of_expansion listed (List.mem_singleton.mpr rfl)) kept
  · exact absurd (mem_codePoints_of_run listed found) kept
  · exact image

/-- What an image has beside the character itself is made by the table. -/
theorem CaseTable.mem_cases {x : Char} (member : x ∈ table.image c) :
    x = c ∨ IsFromCapitals x.toNat ∧ x.toNat ∈ (made table.expansions table.runs).flatten := by
  rcases table.image_cases c with
    ⟨codes, listed, image⟩ | ⟨run, listed, code, found, image⟩ | image
  · rw [image, List.mem_map] at member
    obtain ⟨code, inside, rfl⟩ := member
    have high : IsFromCapitals code := table.expanded _ listed code inside
    rw [high.toNat_ofNat]
    exact .inr ⟨high, mem_codePoints_of_expansion listed inside⟩
  · rw [image, List.mem_singleton] at member
    have high : IsFromCapitals code := (table.moved run listed).isFromCapitals found
    rw [member, high.toNat_ofNat]
    exact .inr ⟨high, mem_codePoints_of_run listed found⟩
  · rw [image, List.mem_singleton] at member
    exact .inl member

/-- A character that a table does not make is an image of itself only. -/
theorem CaseTable.eq_of_mem {x : Char}
    (unmade : x.toNat ∉ (made table.expansions table.runs).flatten) (member : x ∈ table.image c) :
    x = c := by
  rcases table.mem_cases member with same | ⟨-, makes⟩
  · exact same
  · exact absurd makes unmade

/-- A character before the capital letters is an image of itself only. -/
theorem CaseTable.eq_of_mem_of_lt {x : Char} (low : x.toNat < 0x41) (member : x ∈ table.image c) :
    x = c := by
  rcases table.mem_cases member with same | ⟨high, -⟩
  · exact same
  · have bound := high.1
    omega

/-- An image has a first character. -/
theorem CaseTable.exists_eq_cons (c : Char) : ∃ first rest, table.image c = first :: rest := by
  apply List.exists_cons_of_ne_nil
  rcases table.image_cases c with
    ⟨codes, listed, image⟩ | ⟨_, -, _, -, image⟩ | image
  · rw [image]
    exact mt List.map_eq_nil_iff.mp (table.filled _ listed)
  · simp [image]
  · simp [image]

/-- The first character of an image is the character itself, which is its own image then, or one with
which an image begins. -/
theorem CaseTable.first_cases {first : Char} {rest : List Char}
    (formed : table.image c = first :: rest) :
    first = c ∧ table.image c = [c] ∨
      first.toNat ∈ (begun table.expansions table.runs).flatten := by
  rcases table.image_cases c with
    ⟨codes, listed, image⟩ | ⟨run, listed, code, found, image⟩ | image
  · rw [formed] at image
    cases codes with
    | nil => contradiction
    | cons code codes =>
      have same : first = Char.ofNat code := (List.cons.inj image).1
      have high : IsFromCapitals code := table.expanded _ listed code List.mem_cons_self
      have inside : code ∈ (code :: codes).take 1 := List.mem_singleton.mpr rfl
      rw [same, high.toNat_ofNat]
      exact .inr (mem_codePoints_of_expansion listed inside)
  · rw [formed] at image
    have same : first = Char.ofNat code := (List.cons.inj image).1
    have high : IsFromCapitals code := (table.moved run listed).isFromCapitals found
    rw [same, high.toNat_ofNat]
    exact .inr (mem_codePoints_of_run listed found)
  · have same : first = c := by
      rw [formed] at image
      exact (List.cons.inj image).1
    exact .inl ⟨same, image⟩

/-- The image of a character is its image in any run. -/
theorem CaseTable.image_of_image? {run : CaseRun} {code : Nat} (listed : run ∈ table.runs)
    (found : run.image? c.toNat = some code) : table.image c = [Char.ofNat code] := by
  have inside : c.toNat ∈ (changed [] table.runs).flatten := mem_codePoints_of_run listed found
  have unlisted : table.expansions.lookup c.toNat = none := by
    rw [List.lookup_eq_none_iff]
    intro expansion member
    have expanded : expansion.1 ∈ (changed table.expansions []).flatten :=
      mem_codePoints_of_expansion member (List.mem_singleton.mpr rfl)
    have other : c.toNat ≠ expansion.1 := by
      intro same
      rw [← same] at expanded
      exact notMem_of_bits table.apart inside expanded
    simpa using other
  have first := findSome?_of_inOrderFrom table.ordered listed found
  simp only [image, caseImage, unlisted, first]

end Table

/-! ## Characters that are images of themselves only -/

/-- Raising makes no character before the capital letters. -/
theorem eq_of_mem_upper {x c : Char} (low : x.toNat < 0x41) (member : x ∈ upper c) : x = c :=
  upperTable.eq_of_mem_of_lt low member

/-- Lowering makes no character before the capital letters. -/
theorem eq_of_mem_lower {x c : Char} (low : x.toNat < 0x41) (member : x ∈ lower c) : x = c :=
  lowerTable.eq_of_mem_of_lt low member

end AbiTypings.Text
