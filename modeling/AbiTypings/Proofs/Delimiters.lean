import AbiTypings.Proofs.CaseImages
import AbiTypings.Proofs.Resolution

/-!
# Characters that no style makes

The images of the case tables are letters and marks, none of them before the capital letters. So a
style that raises or lowers characters makes no line feed, no apostrophe and no other character
before the capital letters: whichever of them stands in an identifier also stands in the name. An
expression has, beside the characters of its token, only those of the fixed spellings and of the
alternative `undefined`.
-/

namespace AbiTypings

/-! ## Identifiers and expressions -/

/-- A token without its optional mark has no other characters. -/
theorem mem_of_mem_splitOptional {token : String} {x : Char}
    (member : x ∈ (splitOptional token).1.toList) : x ∈ token.toList := by
  unfold splitOptional at member
  split at member
  · rename_i rest reversed
    have inRest : x ∈ rest := by simpa using member
    have inReversed : x ∈ token.toList.reverse := by
      rw [reversed]
      exact List.mem_cons_of_mem _ inRest
    exact List.mem_reverse.mp inReversed
  · exact member

section Members

variable {x : Char} (low : x.toNat < 0x41)

include low

/-- What pascal case has of these characters is in the name. -/
theorem mem_of_mem_pascalChars {starts : Bool} {chars : List Char}
    (member : x ∈ NameStyle.pascalChars starts chars) : x ∈ chars := by
  induction chars generalizing starts with
  | nil => exact member
  | cons c rest ih =>
    unfold NameStyle.pascalChars at member
    split at member
    · exact List.mem_cons_of_mem _ (ih member)
    · split at member
      · rcases List.mem_append.mp member with raised | later
        · rw [Text.eq_of_mem_upper low raised]
          exact List.mem_cons_self
        · exact List.mem_cons_of_mem _ (ih later)
      · rcases List.mem_cons.mp member with rfl | later
        · exact List.mem_cons_self
        · exact List.mem_cons_of_mem _ (ih later)

/-- Lowering the first character makes none of them. -/
theorem mem_of_mem_lowerFirst {chars : List Char} (member : x ∈ NameStyle.lowerFirst chars) :
    x ∈ chars := by
  cases chars with
  | nil => exact member
  | cons c rest =>
    rcases List.mem_append.mp member with lowered | later
    · rw [Text.eq_of_mem_lower low lowered]
      exact List.mem_cons_self
    · exact List.mem_cons_of_mem _ later

/-- What an identifier has of these characters is in the name. -/
theorem mem_of_mem_format {style : NameStyle} {name : String}
    (member : x ∈ (style.format name).toList) : x ∈ name.toList := by
  rw [NameStyle.toList_format] at member
  cases style with
  | pascal => exact mem_of_mem_pascalChars low member
  | camel => exact mem_of_mem_pascalChars low (mem_of_mem_lowerFirst low member)
  | identity => exact member

/-- What the expression for a name has of these characters is in the name. -/
theorem mem_of_mem_nameExpression {style : NameStyle} {name : String}
    (member : x ∈ (nameExpression style name).toList) : x ∈ name.toList := by
  have spellings : fixedSpellings.all (·.2.toList.all (0x41 ≤ ·.toNat)) = true := by decide +kernel
  unfold nameExpression at member
  cases found : fixedSpelling? name with
  | none =>
    rw [found, Option.getD_none] at member
    exact mem_of_mem_format low member
  | some spelling =>
    rw [found, Option.getD_some] at member
    have listed := List.all_eq_true.mp spellings _ (mem_fixedSpellings found)
    have high := List.all_eq_true.mp listed x member
    rw [decide_eq_true_eq] at high
    omega

/-- What the expression for a token has of these characters is in the token, blanks apart. -/
theorem mem_of_mem_tokenExpression {style : NameStyle} {token : String} (noBlank : x ≠ ' ')
    (member : x ∈ (tokenExpression style token).toList) : x ∈ token.toList := by
  have alternative : absentAlternative.toList.all (fun c => c = ' ' ∨ 0x41 ≤ c.toNat) = true := by
    decide +kernel
  have named : x ∈ (splitOptional token).1.toList := by
    rw [tokenExpression, String.toList_append, List.mem_append] at member
    rcases member with inName | inAlternative
    · exact mem_of_mem_nameExpression low inName
    · split at inAlternative
      · have either := List.all_eq_true.mp alternative x inAlternative
        rw [decide_eq_true_eq] at either
        rcases either with blank | high
        · exact absurd blank noBlank
        · omega
      · exact absurd inAlternative List.not_mem_nil
  exact mem_of_mem_splitOptional named

end Members

end AbiTypings
