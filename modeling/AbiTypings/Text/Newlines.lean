/-!
# Line ends

A text file may end its lines with a line feed, a carriage return or both. Reading a file as text
turns each of the three into one line feed.
-/

namespace AbiTypings.Text

/-- Each carriage return, with the line feed after it if there is one, becomes a line feed. -/
def unifyNewlines : List Char → List Char
  | '\r' :: '\n' :: rest => '\n' :: unifyNewlines rest
  | c :: rest => (if c = '\r' then '\n' else c) :: unifyNewlines rest
  | [] => []

/-- Any character but a carriage return is kept. -/
theorem unifyNewlines_cons {c : Char} (kept : c ≠ '\r') (rest : List Char) :
    unifyNewlines (c :: rest) = c :: unifyNewlines rest := by
  rw [unifyNewlines, if_neg kept]
  intro _ isReturn
  exact absurd isReturn kept

/-- A carriage return becomes a line feed, whether or not it takes another one with it. -/
theorem exists_unifyNewlines_return (rest : List Char) :
    ∃ tail, unifyNewlines ('\r' :: rest) = '\n' :: tail := by
  unfold unifyNewlines
  split
  · exact ⟨_, rfl⟩
  · rename_i same
    obtain ⟨rfl, rfl⟩ := List.cons.inj same
    exact ⟨_, rfl⟩
  · contradiction

/-! ## Parts of a text -/

/-- Characters are dropped alike if a carriage return is dropped whenever a line feed is. -/
theorem dropWhile_unifyNewlines {test : Char → Bool} (same : test '\r' = test '\n')
    (chars : List Char) :
    (unifyNewlines chars).dropWhile test = unifyNewlines (chars.dropWhile test) := by
  fun_induction unifyNewlines chars with
  | case1 rest ih =>
    rw [List.dropWhile_cons, List.dropWhile_cons, List.dropWhile_cons, same]
    split
    · exact ih
    · rw [unifyNewlines]
  | case2 c rest plain ih =>
    rw [List.dropWhile_cons, List.dropWhile_cons]
    have sameHead : test (if c = '\r' then '\n' else c) = test c := by
      split
      · rename_i isReturn
        rw [isReturn, same]
      · rfl
    rw [sameHead]
    split
    · exact ih
    · rw [unifyNewlines]
      exact plain
  | case3 => rfl

/-- The same characters are taken if neither a carriage return nor a line feed is. -/
theorem takeWhile_unifyNewlines {test : Char → Bool} (noReturn : test '\r' = false)
    (noFeed : test '\n' = false) (chars : List Char) :
    (unifyNewlines chars).takeWhile test = chars.takeWhile test := by
  induction chars with
  | nil => rfl
  | cons c rest ih =>
    by_cases isReturn : c = '\r'
    · subst isReturn
      obtain ⟨tail, unified⟩ := exists_unifyNewlines_return rest
      rw [unified, List.takeWhile_cons_of_neg (by simp [noFeed]),
        List.takeWhile_cons_of_neg (by simp [noReturn])]
    · rw [unifyNewlines_cons isReturn, List.takeWhile_cons, List.takeWhile_cons, ih]

/-- A word without line ends is found alike at the front of a text. -/
theorem isPrefixOf?_unifyNewlines {word : List Char} (noReturn : '\r' ∉ word)
    (noFeed : '\n' ∉ word) (chars : List Char) :
    word.isPrefixOf? (unifyNewlines chars) = (word.isPrefixOf? chars).map unifyNewlines := by
  have compared (letter c : Char) (word rest : List Char) :
      (letter :: word).isPrefixOf? (c :: rest) =
        if letter == c then word.isPrefixOf? rest else none := rfl
  induction word generalizing chars with
  | nil => rfl
  | cons letter word ih =>
    rw [List.mem_cons, not_or] at noReturn noFeed
    cases chars with
    | nil => rfl
    | cons c rest =>
      by_cases isReturn : c = '\r'
      · subst isReturn
        obtain ⟨tail, unified⟩ := exists_unifyNewlines_return rest
        rw [unified, compared, compared]
        simp [Ne.symm noReturn.1, Ne.symm noFeed.1]
      · rw [unifyNewlines_cons isReturn, compared, compared]
        split
        · exact ih noReturn.2 noFeed.2 rest
        · rfl

/-- No mark but a line feed comes to the front of a text. -/
theorem head?_unifyNewlines_ne {mark : Char} (noFeed : mark ≠ '\n') {chars : List Char}
    (other : chars.head? ≠ some mark) : (unifyNewlines chars).head? ≠ some mark := by
  cases chars with
  | nil => exact other
  | cons c rest =>
    by_cases isReturn : c = '\r'
    · subst isReturn
      obtain ⟨tail, unified⟩ := exists_unifyNewlines_return rest
      rw [unified, List.head?_cons]
      intro same
      exact noFeed (Option.some.inj same).symm
    · rw [unifyNewlines_cons isReturn]
      exact other

/-- Nothing is left of a text only if nothing was there. -/
theorem isEmpty_unifyNewlines (chars : List Char) :
    (unifyNewlines chars).isEmpty = chars.isEmpty := by
  fun_cases unifyNewlines chars <;> rfl

/-- Unifying line ends makes no text longer. -/
theorem length_unifyNewlines_le (chars : List Char) :
    (unifyNewlines chars).length ≤ chars.length := by
  fun_induction unifyNewlines chars with
  | case1 rest ih => exact Nat.le_succ_of_le (Nat.succ_le_succ ih)
  | case2 c rest plain ih => exact Nat.succ_le_succ ih
  | case3 => exact Nat.le_refl _

end AbiTypings.Text
