import AbiTypings.Text.Half

/-!
# Similar words

Which of several names a word was probably meant to be. What two words share is found by their
longest common block and then, in the same way, on both sides of it. A name is close to a word if
at least six of ten characters of the two together are shared.
-/

namespace AbiTypings.Text

/-- A block of characters that stands in two words. -/
structure SharedBlock where
  /-- Where it starts in the first word. -/
  left : Nat
  /-- Where it starts in the second word. -/
  right : Nat
  /-- The number of its characters. -/
  size : Nat
deriving DecidableEq, Repr

/-- The length of the longest common beginning. -/
def commonBeginning : List Point → List Point → Nat
  | c :: rest, d :: others => if c = d then commonBeginning rest others + 1 else 0
  | _, _ => 0

/-- The longest of a block and the common beginnings of the first word with each end of the second
one; the number counts the characters of the second word before its end. -/
def longestAgainst (left : Nat) (first : List Point) (best : SharedBlock) :
    Nat → List Point → SharedBlock
  | _, [] => best
  | right, d :: others =>
    let size := commonBeginning first (d :: others)
    longestAgainst left first (if best.size < size then ⟨left, right, size⟩ else best)
      (right + 1) others

/-- The longest of a block and the blocks that the ends of the first word share with the second
one. -/
def longestFrom (second : List Point) (best : SharedBlock) : Nat → List Point → SharedBlock
  | _, [] => best
  | left, c :: rest =>
    longestFrom second (longestAgainst left (c :: rest) best 0 second) (left + 1) rest

/-- The longest block of two words; of several the first in the first word, and of these the first
in the second word. -/
def longestBlock (first second : List Point) : SharedBlock := longestFrom second ⟨0, 0, 0⟩ 0 first

/-- The number of characters that two words share. -/
def sharedCount (first second : List Point) : Nat :=
  let block := longestBlock first second
  if 0 < block.size ∧ block.left < first.length then
    sharedCount (first.take block.left) (second.take block.right) + block.size
      + sharedCount (first.drop (block.left + block.size)) (second.drop (block.right + block.size))
  else
    0
termination_by first.length
decreasing_by
  all_goals
    simp +zetaDelta only [List.length_take, List.length_drop] at *
    omega

/-- How a name resembles a word: the characters shared among those of both. -/
structure Resemblance where
  /-- The name. -/
  name : String
  /-- The number of characters that the name and the word share. -/
  shared : Nat
  /-- The number of characters of the name and the word. -/
  total : Nat
deriving DecidableEq, Repr

namespace Resemblance

/-- The resemblance of a name to a word. -/
def of (word name : String) : Resemblance :=
  let held := points name.toList
  let given := points word.toList
  ⟨name, sharedCount held given, held.length + given.length⟩

/-- Whether at least six of ten characters are shared, each of them counted in both words. -/
def isClose (resemblance : Resemblance) : Bool := 3 * resemblance.total ≤ 10 * resemblance.shared

/-- Whether a resemblance comes before another: the closer one, or the later name of equally close
ones. -/
def precedes (first second : Resemblance) : Bool :=
  let mine := first.shared * second.total
  let other := second.shared * first.total
  other < mine || (other = mine && second.name ≤ first.name)

end Resemblance

/-- The names that a word was probably meant to be: the three closest ones, in order. -/
def closeNames (word : String) (names : List String) : List String :=
  let close := (names.map (Resemblance.of word)).filter Resemblance.isClose
  (((close.mergeSort Resemblance.precedes).take 3).map Resemblance.name).mergeSort (· ≤ ·)

end AbiTypings.Text
