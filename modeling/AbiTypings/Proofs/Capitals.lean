import AbiTypings.Proofs.CaseImages

/-!
# Capitals

What upper case begins with is its own upper case: no code point with which an image begins is one
that the table changes. And upper case gives a capital back from its lower case, six capitals apart.
-/

namespace AbiTypings.Text

/-! ## Characters that are images of themselves only -/

/-- The upper case table makes neither an underscore nor a capital sharp s. -/
theorem upper_unmade :
    bitsOfLists [[0x5F, 0x1E9E]] &&& bitsOfLists (made upperExpansions upperRuns) = 0 := by
  decide +kernel

/-- The lower case table makes no underscore. -/
theorem lower_unmade :
    bitsOfLists [[0x5F]] &&& bitsOfLists (made lowerExpansions lowerRuns) = 0 := by
  decide +kernel

/-- Raising makes no underscore. -/
theorem eq_of_underscore_mem_upper {c : Char} (member : '_' ∈ upper c) : '_' = c :=
  upperTable.eq_of_mem (notMem_of_bits upper_unmade (by decide)) member

/-- Lowering makes no underscore. -/
theorem eq_of_underscore_mem_lower {c : Char} (member : '_' ∈ lower c) : '_' = c :=
  lowerTable.eq_of_mem (notMem_of_bits lower_unmade (by decide)) member

/-- Raising makes no capital sharp s. -/
theorem eq_of_sharp_mem_upper {c : Char} (member : 'ẞ' ∈ upper c) : 'ẞ' = c :=
  upperTable.eq_of_mem (notMem_of_bits upper_unmade (by decide)) member

/-! ## Upper case is stable at its beginning -/

/-- The upper case of a character has a first character. -/
theorem exists_upper_eq_cons (c : Char) : ∃ first rest, upper c = first :: rest :=
  upperTable.exists_eq_cons c

/-- The lower case of a character has a first character. -/
theorem exists_lower_eq_cons (c : Char) : ∃ first rest, lower c = first :: rest :=
  lowerTable.exists_eq_cons c

/-- No image of the upper case table begins with a code point that the table changes. -/
theorem begun_apart_changed :
    bitsOfLists (begun upperExpansions upperRuns) &&&
      bitsOfLists (changed upperExpansions upperRuns) = 0 := by
  decide +kernel

/-- Upper case begins with a character that is its own upper case. -/
theorem upper_of_upper_eq_cons {c first : Char} {rest : List Char}
    (raised : upper c = first :: rest) : upper first = [first] := by
  rcases upperTable.first_cases raised with ⟨same, own⟩ | begins
  · rw [same]
    exact own
  · exact upperTable.image_of_notMem_changed (notMem_of_bits begun_apart_changed begins)

/-! ## Capitals that their lower case gives back -/

/-- The capitals that upper case does not give back from their lower case: the sharp s, whose lower
case is raised to two characters, the capital i with a dot, whose lower case begins with the plain
letter, and the theta symbol and the signs of ohm, kelvin and angstrom, whose lower case is that of
the letters that they look like. -/
def lostCapitals : List Char := ['\u1E9E', '\u0130', '\u03F4', '\u2126', '\u212A', '\u212B']

/-- Whether a run has the images of another as its code points, and its code points as their images. -/
def CaseRun.mirrors (back run : CaseRun) : Bool :=
  back.first.beq run.target && (back.last.beq (run.target + (run.last - run.first)) &&
    (back.step.beq run.step && back.target.beq run.first))

/-- A run moves the images of a run that it mirrors back. -/
theorem CaseRun.image?_of_mirrors {back run : CaseRun} (mirrors : back.mirrors run = true)
    {code image : Nat} (found : run.image? code = some image) : back.image? image = some code := by
  simp only [CaseRun.mirrors, Bool.and_eq_true, Nat.beq_eq] at mirrors
  obtain ⟨first, last, step, target⟩ := mirrors
  unfold image? at found
  split at found
  · rename_i inside
    obtain ⟨low, high, aligned⟩ := inside
    have same : run.target + (code - run.first) = image := Option.some.inj found
    have distance : image - back.first = code - run.first := by omega
    have start : back.first ≤ image := by omega
    have ends : image ≤ back.last := by omega
    have place : (image - back.first) % back.step = 0 := by rw [distance, step, aligned]
    rw [image?, if_pos ⟨start, ends, place⟩, distance, target]
    congr 1
    omega
  · contradiction

/-- Each lower case run is mirrored by a run of the upper case table; or each of its code points is
moved back, unless the capital is lost or no capital in the first place. -/
theorem lowerRuns_mirrored :
    lowerRuns.all (fun run => upperRuns.any (·.mirrors run) || run.pairs.all fun pair =>
      lostCapitals.contains (Char.ofNat pair.1) ||
        upper (Char.ofNat pair.1) != [Char.ofNat pair.1] ||
        upperRuns.any (·.image? pair.2 == some pair.1)) = true := by
  decide +kernel

/-- A capital whose lower case comes from a run is moved back by an upper case run, unless it is
lost. -/
theorem exists_image?_eq {run : CaseRun} {c : Char} {code : Nat} (capital : upper c = [c])
    (kept : c ∉ lostCapitals) (listed : run ∈ lowerRuns) (found : run.image? c.toNat = some code) :
    ∃ back ∈ upperRuns, back.image? code = some c.toNat := by
  have either := List.all_eq_true.mp lowerRuns_mirrored run listed
  rw [Bool.or_eq_true] at either
  rcases either with whole | each
  · obtain ⟨back, member, mirrors⟩ := List.any_eq_true.mp whole
    exact ⟨back, member, CaseRun.image?_of_mirrors mirrors found⟩
  · have either := List.all_eq_true.mp each _ (CaseRun.mem_pairs found)
    rw [Char.ofNat_toNat, Bool.or_eq_true, Bool.or_eq_true] at either
    rcases either with (lost | changed) | moved
    · exact absurd (List.contains_iff_mem.mp lost) kept
    · simp [capital] at changed
    · obtain ⟨back, member, moved⟩ := List.any_eq_true.mp moved
      exact ⟨back, member, beq_iff_eq.mp moved⟩

/-- The lower case of a capital is one character, from which upper case gives the capital back,
unless the capital is lost. -/
theorem upper_of_lower_eq_cons {c first : Char} {rest : List Char} (capital : upper c = [c])
    (kept : c ∉ lostCapitals) (lowered : lower c = first :: rest) :
    rest = [] ∧ upper first = [c] := by
  have formed : lowerTable.image c = first :: rest := lowered
  rcases lowerTable.image_cases c with ⟨codes, listed, -⟩ | ⟨run, listed, code, found, image⟩ | image
  · have only : (c.toNat, codes) = (0x130, [0x69, 0x307]) := List.mem_singleton.mp listed
    have same : c = Char.ofNat 0x130 := by
      rw [← Char.ofNat_toNat c, (Prod.mk.inj only).1]
    rw [same] at kept
    exact absurd (by decide) kept
  · rw [formed] at image
    have ⟨same, alone⟩ := List.cons.inj image
    have above : IsFromCapitals code := (lowerTable.moved run listed).isFromCapitals found
    obtain ⟨back, member, moved⟩ := exists_image?_eq capital kept listed found
    rw [← above.toNat_ofNat] at moved
    have raised := upperTable.image_of_image? member moved
    rw [Char.ofNat_toNat] at raised
    rw [same]
    exact ⟨alone, raised⟩
  · rw [formed] at image
    have ⟨same, alone⟩ := List.cons.inj image
    rw [same]
    exact ⟨alone, capital⟩

end AbiTypings.Text
