import AbiTypings.Json.Printer
import AbiTypings.Json.Token

/-!
# Printed texts

A text is printed in ASCII, and reading it returns the text, whichever characters it has. A
character of the basic plane is one code unit and any other one is two, the halves of a surrogate
pair. The quote, the backslash and five control characters have escapes of their own, and every
other unit outside of printable ASCII is written with four hexadecimal digits. The units are then
joined again, and it is not seen whether two halves were one character: the first half of a pair and
the second one that stand side by side in the text are read as the character.
-/

namespace AbiTypings.Json

/-- The code units that a character is printed as. -/
def codeUnits (c : Char) : List Nat :=
  if c.toNat < 0x10000 then [c.toNat]
  else [0xD800 + (c.toNat - 0x10000) / 0x400, 0xDC00 + (c.toNat - 0x10000) % 0x400]

/-- The code units that a point is printed as. -/
def pointUnits : Text.Point → List Nat
  | .char c => codeUnits c
  | .lone half => [half.unit]

/-- Puts code units in front of what was read. -/
def pushAll (units : List Nat) (read : List Nat × List Char) : List Nat × List Char :=
  (units ++ read.1, read.2)

/-! ## Reading code units -/

section Scan

variable {opening rest : List Char}

/-- The last of the digits of a code unit ends it, if more text follows. -/
theorem scanText_last {start : List Char} {value digit : Nat} (small : digit < 16)
    (more : rest ≠ []) :
    scanText opening (.unit start 1 value) (Text.hexDigit digit :: rest) =
      (scanText opening .plain rest).map (push (value * 16 + digit)) := by
  simp [scanText, Text.hexValue?_hexDigit small, more]

/-- A digit before the last one adds to the code unit. -/
theorem scanText_digit {start : List Char} {left value digit : Nat} (small : digit < 16) :
    scanText opening (.unit start (left + 2) value) (Text.hexDigit digit :: rest) =
      scanText opening (.unit start (left + 1) (value * 16 + digit)) rest := by
  simp [scanText, Text.hexValue?_hexDigit small]

/-- The escape of a code unit is read as the code unit. -/
theorem scanText_unitEscape {unit : Nat} (small : unit < 0x10000) (more : rest ≠ []) :
    scanText opening .plain (unitEscape unit ++ rest) =
      (scanText opening .plain rest).map (push unit) := by
  have digits : Text.hex 4 unit = [Text.hexDigit (unit / 16 / 16 / 16 % 16),
      Text.hexDigit (unit / 16 / 16 % 16), Text.hexDigit (unit / 16 % 16),
      Text.hexDigit (unit % 16)] := rfl
  have marked : scanText opening .plain (unitEscape unit ++ rest) =
      scanText opening (.unit ('u' :: (Text.hex 4 unit ++ rest)) 4 0) (Text.hex 4 unit ++ rest) :=
    rfl
  have value : (((0 * 16 + unit / 16 / 16 / 16 % 16) * 16 + unit / 16 / 16 % 16) * 16 +
      unit / 16 % 16) * 16 + unit % 16 = unit := by omega
  rw [marked]
  generalize 'u' :: (Text.hex 4 unit ++ rest) = start
  rw [digits, List.cons_append, scanText_digit (by omega), List.cons_append,
    scanText_digit (by omega), List.cons_append, scanText_digit (by omega), List.cons_append,
    List.nil_append, scanText_last (by omega) more, value]

/-- A printed character is read as its code units. -/
theorem scanText_escaped (c : Char) (more : rest ≠ []) :
    scanText opening .plain (escaped c ++ rest) =
      (scanText opening .plain rest).map (pushAll (codeUnits c)) := by
  have valid : c.toNat < 0xD800 ∨ 0xDFFF < c.toNat ∧ c.toNat < 0x110000 := c.valid
  unfold escaped
  -- the quote, the backslash and the control characters with an escape of their own
  split; · subst c; rfl
  split; · subst c; rfl
  split; · subst c; rfl
  split; · subst c; rfl
  split; · subst c; rfl
  split; · subst c; rfl
  split; · subst c; rfl
  rename_i noQuote noBackslash _ _ _ _ _
  split
  · rename_i printable
    have units : codeUnits c = [c.toNat] := if_pos (Nat.lt_of_le_of_lt printable.2 (by decide))
    have noControl : ¬ c < ' ' := Nat.not_lt.mpr printable.1
    rw [units, List.singleton_append, scanText, if_neg noQuote, if_neg noBackslash,
      if_neg noControl]
    rfl
  split
  · rename_i basic
    rw [codeUnits, if_pos basic]
    exact scanText_unitEscape basic more
  · rename_i supplementary
    have afterFirst : unitEscape (0xDC00 + (c.toNat - 0x10000) % 0x400) ++ rest ≠ [] :=
      List.cons_ne_nil _ _
    rw [codeUnits, if_neg supplementary, List.append_assoc,
      scanText_unitEscape (by omega) afterFirst, scanText_unitEscape (by omega) more]
    cases scanText opening .plain rest <;> rfl

/-- A printed point is read as its code units. -/
theorem scanText_escapedPoint (point : Text.Point) (more : rest ≠ []) :
    scanText opening .plain (escapedPoint point ++ rest) =
      (scanText opening .plain rest).map (pushAll (pointUnits point)) := by
  cases point with
  | char c => exact scanText_escaped c more
  | lone half =>
    have small : half.unit < 0x10000 := by
      have bound := half.isLt
      simp only [Text.Half.unit]
      omega
    exact scanText_unitEscape small more

/-- Printed points are read up to the quote after them, as their code units. -/
theorem scanText_escapedPoints (points : List Text.Point) :
    scanText opening .plain (points.flatMap escapedPoint ++ '"' :: rest) =
      .ok (points.flatMap pointUnits, rest) := by
  induction points with
  | nil => rfl
  | cons point later ih =>
    have more : later.flatMap escapedPoint ++ '"' :: rest ≠ [] :=
      List.append_ne_nil_of_right_ne_nil _ (List.cons_ne_nil _ _)
    rw [List.flatMap_cons, List.append_assoc, scanText_escapedPoint point more, ih]
    rfl

end Scan

/-! ## Joining code units -/

open Text (Point joint? joinHalves joinHalves_cons)

/-- The points that a point is read as, before halves are joined. -/
def splitPoint (point : Point) : List Point := (pointUnits point).map pointOf

/-- The unit of a half is read as the half. -/
theorem pointOf_unit (half : Text.Half) : pointOf half.unit = .lone half := by
  have bound := half.isLt
  have surrogate : 0xD800 ≤ half.unit ∧ half.unit < 0xE000 := by
    simp only [Text.Half.unit]
    omega
  have same : half.unit - 0xD800 = half.val := by simp [Text.Half.unit]
  rw [pointOf, dif_pos surrogate]
  simp only [same]

/-- A half is read as itself. -/
theorem splitPoint_lone (half : Text.Half) : splitPoint (.lone half) = [.lone half] := by
  rw [splitPoint, pointUnits, List.map_singleton, pointOf_unit]

/-- A character is one unit that is no half, or two halves that make the character. -/
theorem splitPoint_char (c : Char) :
    splitPoint (.char c) = [.char c] ∨
      ∃ high low : Text.Half, splitPoint (.char c) = [.lone high, .lone low] ∧
        high.isHigh = true ∧ joint? (.lone high) (.lone low) = some c := by
  have valid : c.toNat < 0xD800 ∨ 0xDFFF < c.toNat ∧ c.toNat < 0x110000 := c.valid
  rw [splitPoint, pointUnits]
  by_cases basic : c.toNat < 0x10000
  · have noSurrogate : ¬ (0xD800 ≤ c.toNat ∧ c.toNat < 0xE000) := by omega
    rw [codeUnits, if_pos basic, List.map_singleton, pointOf, dif_neg noSurrogate,
      Char.ofNat_toNat]
    exact .inl rfl
  · let high : Text.Half := ⟨(c.toNat - 0x10000) / 0x400, by omega⟩
    let low : Text.Half := ⟨0x400 + (c.toNat - 0x10000) % 0x400, by omega⟩
    have highUnit : 0xD800 + (c.toNat - 0x10000) / 0x400 = high.unit := rfl
    have lowUnit : 0xDC00 + (c.toNat - 0x10000) % 0x400 = low.unit := by
      simp only [Text.Half.unit, low]
      omega
    have isHigh : high.isHigh = true := by
      simp only [Text.Half.isHigh, high, decide_eq_true_eq]
      omega
    have isLow : low.isHigh = false := by
      simp only [Text.Half.isHigh, low, decide_eq_false_iff_not]
      omega
    have value : 0x10000 + high.val * 0x400 + (low.val - 0x400) = c.toNat := by
      simp only [high, low]
      omega
    refine .inr ⟨high, low, ?_, isHigh, ?_⟩
    · rw [codeUnits, if_neg basic, highUnit, lowUnit, List.map_cons, List.map_singleton,
        pointOf_unit, pointOf_unit]
    · rw [joint?, isHigh, isLow, value, Char.ofNat_toNat]
      rfl

/-- A point is read in front of points that do not start with what makes a character with it. -/
theorem joinHalves_splitPoint_append (point : Point) {rest : List Point}
    (apart : ∀ next ∈ rest.head?, joint? point next = none) :
    joinHalves (splitPoint point ++ rest) = point :: joinHalves rest := by
  cases point with
  | lone half => rw [splitPoint_lone, List.singleton_append, joinHalves_cons apart]
  | char c =>
    rcases splitPoint_char c with single | ⟨high, low, pair, -, made⟩
    · rw [single, List.singleton_append, joinHalves_cons apart]
    · rw [pair, List.cons_append, List.singleton_append, joinHalves, made]

/-- What a point is read as does not start with what makes a character with the point before it, if
the point itself is not. -/
theorem joint?_head_splitPoint {point second next : Point} (apart : joint? point second = none)
    {rest : List Point} (front : next ∈ (splitPoint second ++ rest).head?) :
    joint? point next = none := by
  cases second with
  | lone half =>
    rw [splitPoint_lone, List.singleton_append, List.head?_cons] at front
    obtain rfl := Option.some.inj front
    exact apart
  | char c =>
    rcases splitPoint_char c with single | ⟨high, low, pair, isHigh, -⟩
    · rw [single, List.singleton_append, List.head?_cons] at front
      obtain rfl := Option.some.inj front
      exact apart
    · -- a first half does not end a pair
      rw [pair, List.cons_append, List.head?_cons] at front
      obtain rfl := Option.some.inj front
      cases point with
      | char c => rfl
      | lone half => simp [joint?, isHigh]

/-- The code units of points are joined to the points with their halves joined. -/
theorem joinHalves_flatMap_splitPoint (points : List Point) :
    joinHalves (points.flatMap splitPoint) = joinHalves points := by
  fun_induction joinHalves points with
  | case1 first second rest c made ih =>
    cases first with
    | char first => contradiction
    | lone high =>
      cases second with
      | char second => contradiction
      | lone low =>
        rw [List.flatMap_cons, List.flatMap_cons, splitPoint_lone, splitPoint_lone,
          List.singleton_append, List.singleton_append, joinHalves, made]
        exact congrArg _ ih
  | case2 first second rest none ih =>
    rw [List.flatMap_cons, joinHalves_splitPoint_append, ih]
    intro next front
    rw [List.flatMap_cons] at front
    exact joint?_head_splitPoint none front
  | case3 points short =>
    rcases points with _ | ⟨point, _ | ⟨second, rest⟩⟩
    · rfl
    · rw [List.flatMap_singleton, ← List.append_nil (splitPoint point)]
      exact joinHalves_splitPoint_append point fun _ front => absurd front (by simp)
    · exact absurd rfl (short point second rest)

/-! ## Texts -/

/-- The code units of a text are read as the text with its halves joined. -/
theorem textOfUnits_flatMap_pointUnits (value : String) :
    textOfUnits ((Text.points value.toList).flatMap pointUnits) = Text.joined value := by
  rw [textOfUnits, List.map_flatMap]
  exact congrArg Text.ofPoints (joinHalves_flatMap_splitPoint _)

/-- A printed text is read as the text with its halves joined. -/
theorem scan_printText (value : String) (rest : List Char) :
    scan (printText value ++ rest) = (.text (Text.joined value), rest) := by
  have split : printText value ++ rest =
      '"' :: ((Text.points value.toList).flatMap escapedPoint ++ '"' :: rest) := by
    simp [printText]
  rw [split]
  simp only [scan, scanText_escapedPoints, textOfUnits_flatMap_pointUnits]

end AbiTypings.Json
