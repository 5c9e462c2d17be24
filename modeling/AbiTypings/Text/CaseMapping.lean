import AbiTypings.Text.CaseTable

/-!
# Case mapping of a character

The full upper and lower case of one character under Unicode 14. The image is a list because it
may have several characters. The ASCII letters are mapped to each other and every other ASCII
character is its own image in both directions.
-/

namespace AbiTypings.Text

/-- The image of a character under a table of expansions and a table of runs. -/
def caseImage (expansions : List (Nat × List Nat)) (runs : List CaseRun) (c : Char) : List Char :=
  match expansions.lookup c.toNat with
  | some codes => codes.map Char.ofNat
  | none =>
    match runs.findSome? (·.image? c.toNat) with
    | some code => [Char.ofNat code]
    | none => [c]

/-- The full upper case of a character. -/
def upper (c : Char) : List Char := caseImage upperExpansions upperRuns c

/-- The full lower case of a character. -/
def lower (c : Char) : List Char := caseImage lowerExpansions lowerRuns c

/-- Entries above a character have no part in its image. -/
theorem caseImage_eq_of_lt {expansions : List (Nat × List Nat)} {run : CaseRun}
    {runs : List CaseRun} {c : Char} {bound : Nat} (small : c.toNat < bound)
    (expansionsAbove : ∀ expansion ∈ expansions, bound ≤ expansion.1)
    (runsAbove : ∀ later ∈ runs, bound ≤ later.first) :
    caseImage expansions (run :: runs) c = caseImage [] [run] c := by
  have noExpansion : expansions.lookup c.toNat = none := by
    rw [List.lookup_eq_none_iff]
    intro expansion member
    have above := expansionsAbove expansion member
    simpa using (by omega : c.toNat ≠ expansion.1)
  have noRun : runs.findSome? (·.image? c.toNat) = none := by
    rw [List.findSome?_eq_none_iff]
    intro later member
    have above := runsAbove later member
    simp only [CaseRun.image?]
    rw [if_neg]
    omega
  simp [caseImage, noExpansion, List.findSome?_cons, noRun]

/-- On ASCII the upper case is the one of the character library. -/
theorem upper_ascii {c : Char} (small : c.toNat < 0x80) : upper c = [c.toUpper] := by
  have letters : ∀ code ∈ List.range 0x80,
      caseImage [] [⟨0x61, 0x7A, 1, 0x41⟩] (Char.ofNat code) = [(Char.ofNat code).toUpper] := by
    decide +kernel
  have split : upperRuns = ⟨0x61, 0x7A, 1, 0x41⟩ :: upperRuns.tail := by rfl
  rw [upper, split, caseImage_eq_of_lt small (by decide +kernel) (by decide +kernel)]
  have found := letters c.toNat (List.mem_range.mpr small)
  rwa [Char.ofNat_toNat] at found

/-- On ASCII the lower case is the one of the character library. -/
theorem lower_ascii {c : Char} (small : c.toNat < 0x80) : lower c = [c.toLower] := by
  have letters : ∀ code ∈ List.range 0x80,
      caseImage [] [⟨0x41, 0x5A, 1, 0x61⟩] (Char.ofNat code) = [(Char.ofNat code).toLower] := by
    decide +kernel
  have split : lowerRuns = ⟨0x41, 0x5A, 1, 0x61⟩ :: lowerRuns.tail := by rfl
  rw [lower, split, caseImage_eq_of_lt small (by decide +kernel) (by decide +kernel)]
  have found := letters c.toNat (List.mem_range.mpr small)
  rwa [Char.ofNat_toNat] at found

end AbiTypings.Text
