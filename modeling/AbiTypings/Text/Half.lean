/-!
# Halves of surrogate pairs

An escape in JSON text can name one half of a surrogate pair, and such a half may stay alone. No
character is half of a pair, so a text writes a half as two characters: a mark, which is the last
code point there is, and a letter for the half. A mark that is meant is written twice, and every
other character stands for itself. The points of a text are what it means. Two halves that stand
side by side are not one character; they become one only when the text is written in code units and
read again.
-/

namespace AbiTypings.Text

/-- Half of a surrogate pair, counted from the first of them. -/
abbrev Half := Fin 0x800

/-- The code unit of a half. -/
def Half.unit (half : Half) : Nat := 0xD800 + half.val

/-- Whether a half is the first one of a pair. -/
def Half.isHigh (half : Half) : Bool := half.val < 0x400

/-- What a text consists of. -/
inductive Point where
  /-- A character. -/
  | char (c : Char)
  /-- Half of a surrogate pair. -/
  | lone (half : Half)
deriving DecidableEq, Repr

/-- The character in front of the letter for a half. -/
def mark : Char := Char.ofNat 0x10FFFF

/-- The letter for a half. -/
def Half.letter (half : Half) : Char := Char.ofNat (0xF0000 + half.val)

/-- The half that a letter stands for. -/
def half? (c : Char) : Option Half :=
  if letter : 0xF0000 ≤ c.toNat ∧ c.toNat < 0xF0800 then some ⟨c.toNat - 0xF0000, by omega⟩
  else none

/-- The characters that a point is written as. -/
def Point.code : Point → List Char
  | .char c => if c = mark then [mark, mark] else [c]
  | .lone half => [mark, half.letter]

/-- The characters that points are written as. -/
def codes (points : List Point) : List Char := points.flatMap Point.code

/-- The points of a text. A mark in front of any other character stands for itself. -/
def points : List Char → List Point
  | [] => []
  | [c] => [.char c]
  | c :: next :: rest =>
    if c = mark then
      if next = mark then .char mark :: points rest
      else
        match half? next with
        | some half => .lone half :: points rest
        | none => .char mark :: points (next :: rest)
    else .char c :: points (next :: rest)

/-- The text that consists of points. -/
def ofPoints (points : List Point) : String := String.ofList (codes points)

/-! ## Writing and reading points -/

/-- The mark is no letter. -/
theorem half?_mark : half? mark = none := by decide

/-- The code point of a character that is given by it. -/
theorem toNat_ofNat {code : Nat} (valid : code.isValidChar) : (Char.ofNat code).toNat = code := by
  rw [Char.ofNat, dif_pos valid]
  rfl

/-- The code point of the letter for a half. -/
theorem Half.toNat_letter (half : Half) : half.letter.toNat = 0xF0000 + half.val := by
  have small : half.val < 0x800 := half.isLt
  exact toNat_ofNat (.inr ⟨by omega, by omega⟩)

/-- The letter for a half stands for it. -/
theorem half?_letter (half : Half) : half? half.letter = some half := by
  have small : half.val < 0x800 := half.isLt
  have code := half.toNat_letter
  have letter : 0xF0000 ≤ half.letter.toNat ∧ half.letter.toNat < 0xF0800 := by omega
  rw [half?, dif_pos letter]
  apply congrArg some
  apply Fin.ext
  exact Nat.sub_eq_of_eq_add (by omega)

/-- The letter for a half is no mark. -/
theorem Half.letter_ne_mark (half : Half) : half.letter ≠ mark := by
  intro same
  have read := half?_letter half
  rw [same, half?_mark] at read
  contradiction

/-- A character other than the mark is a point in front of any text. -/
theorem points_cons {c : Char} (plain : c ≠ mark) (rest : List Char) :
    points (c :: rest) = .char c :: points rest := by
  cases rest with
  | nil => rfl
  | cons next rest => rw [points, if_neg plain]

/-- Only the empty text has no points. -/
theorem points_eq_nil_iff {text : List Char} : points text = [] ↔ text = [] := by
  constructor
  · intro none
    fun_cases points text <;> simp_all [points]
  · rintro rfl
    rfl

/-- A point is read from what it is written as. -/
theorem points_code_append (point : Point) (rest : List Char) :
    points (point.code ++ rest) = point :: points rest := by
  cases point with
  | char c =>
    by_cases meant : c = mark
    · subst meant
      rw [Point.code, if_pos rfl, List.cons_append, List.singleton_append, points, if_pos rfl,
        if_pos rfl]
    · rw [Point.code, if_neg meant, List.singleton_append, points_cons meant]
  | lone half =>
    rw [Point.code, List.cons_append, List.singleton_append, points, if_pos rfl,
      if_neg half.letter_ne_mark, half?_letter]

/-- Points are read from what they are written as. -/
theorem points_codes_append (held : List Point) (rest : List Char) :
    points (codes held ++ rest) = held ++ points rest := by
  induction held with
  | nil => rfl
  | cons point later ih =>
    have split : codes (point :: later) ++ rest = point.code ++ (codes later ++ rest) := by
      simp [codes]
    rw [split, points_code_append, ih, List.cons_append]

/-- The points of a text that consists of points. -/
@[simp] theorem points_codes (held : List Point) : points (codes held) = held := by
  have read := points_codes_append held []
  rwa [List.append_nil, points, List.append_nil] at read

/-- The points of a text that was made of points. -/
@[simp] theorem points_ofPoints (held : List Point) : points (ofPoints held).toList = held := by
  rw [ofPoints, String.toList_ofList, points_codes]

/-- Characters without marks are written as they are. -/
theorem codes_map_char {text : List Char} (free : mark ∉ text) :
    codes (text.map .char) = text := by
  induction text with
  | nil => rfl
  | cons c rest ih =>
    have plain : c ≠ mark := fun same => free (same ▸ List.mem_cons_self)
    have later : codes (rest.map .char) = rest :=
      ih fun member => free (List.mem_cons_of_mem c member)
    have split : codes ((c :: rest).map .char) =
        Point.code (.char c) ++ codes (rest.map .char) := rfl
    rw [split, later, Point.code, if_neg plain, List.singleton_append]

/-! ## Joining halves -/

/-- The character that two points make together, if they are the first and the second half of a
pair. -/
def joint? : Point → Point → Option Char
  | .lone high, .lone low =>
    if high.isHigh && !low.isHigh then
      some (Char.ofNat (0x10000 + high.val * 0x400 + (low.val - 0x400)))
    else none
  | _, _ => none

/-- Points with each first half and the second half behind it taken together. -/
def joinHalves : List Point → List Point
  | first :: second :: rest =>
    match joint? first second with
    | some c => .char c :: joinHalves rest
    | none => first :: joinHalves (second :: rest)
  | points => points

/-- A text with each first half and the second half behind it taken together. -/
def joined (text : String) : String := ofPoints (joinHalves (points text.toList))

/-- The first half of a pair and the second one are not side by side in a text, and no mark in it
stands for itself. -/
def IsWhole (text : String) : Prop := joined text = text

instance (text : String) : Decidable (IsWhole text) :=
  inferInstanceAs (Decidable (joined text = text))

/-- A point is kept in front of a point with which it makes no character. -/
theorem joinHalves_cons {point : Point} {rest : List Point}
    (apart : ∀ next ∈ rest.head?, joint? point next = none) :
    joinHalves (point :: rest) = point :: joinHalves rest := by
  cases rest with
  | nil => rfl
  | cons next later => rw [joinHalves, apart next rfl]

/-- Characters are kept in front of any points. -/
theorem joinHalves_map_char_append (chars : List Char) (rest : List Point) :
    joinHalves (chars.map .char ++ rest) = chars.map .char ++ joinHalves rest := by
  induction chars with
  | nil => rfl
  | cons c later ih =>
    rw [List.map_cons, List.cons_append, joinHalves_cons fun next _ => rfl, ih, List.cons_append]

/-- The first point stays in front, unless a character takes its place. -/
theorem head?_joinHalves (points : List Point) :
    (joinHalves points).head? = points.head? ∨ ∃ c, (joinHalves points).head? = some (.char c) := by
  fun_cases joinHalves points with
  | case1 first second rest c made => exact .inr ⟨c, rfl⟩
  | case2 first second rest none => exact .inl rfl
  | case3 points short => exact .inl rfl

/-- Nothing is left to be joined in joined points. -/
theorem joinHalves_joinHalves (points : List Point) :
    joinHalves (joinHalves points) = joinHalves points := by
  fun_induction joinHalves points with
  | case1 first second rest c made ih => rw [joinHalves_cons fun next _ => rfl, ih]
  | case2 first second rest none ih =>
    rw [joinHalves_cons, ih]
    -- the point behind the first one is the second one or a character
    intro next front
    rcases head?_joinHalves (second :: rest) with same | ⟨c, same⟩ <;> rw [same] at front
    · obtain rfl := Option.some.inj front
      exact none
    · obtain rfl := Option.some.inj front
      cases first <;> rfl
  | case3 points short =>
    rcases points with _ | ⟨point, _ | ⟨second, rest⟩⟩
    · rfl
    · rfl
    · exact absurd rfl (short point second rest)

/-- A text that was joined is whole. -/
theorem isWhole_ofPoints_joinHalves (points : List Point) :
    IsWhole (ofPoints (joinHalves points)) := by
  rw [IsWhole, joined, points_ofPoints, joinHalves_joinHalves]

/-- Characters without marks in front of a whole text make a whole text. -/
theorem IsWhole.append_left {front text : String} (free : mark ∉ front.toList)
    (whole : IsWhole text) : IsWhole (front ++ text) := by
  have split : points (front ++ text).toList = front.toList.map .char ++ points text.toList := by
    have read := points_codes_append (front.toList.map .char) text.toList
    rwa [codes_map_char free, ← String.toList_append] at read
  have kept : String.ofList (codes (joinHalves (points text.toList))) = text := whole
  have written : codes (front.toList.map .char) = front.toList := codes_map_char free
  rw [IsWhole, joined, split, joinHalves_map_char_append, ofPoints, codes, List.flatMap_append,
    String.ofList_append, ← codes, ← codes, written, kept, String.ofList_toList]

/-- A text without marks is whole. -/
theorem isWhole_of_free {text : String} (free : mark ∉ text.toList) : IsWhole text := by
  have empty : IsWhole "" := rfl
  have whole := empty.append_left free
  rwa [String.append_empty] at whole

end AbiTypings.Text
