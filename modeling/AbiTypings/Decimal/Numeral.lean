import AbiTypings.Decimal.Rounding

/-!
# Numerals

A natural number written with a number of places after the point, either in full, or as a mantissa
with a power of ten, or with a number of significant digits in the shorter of the two ways. A point
that nothing follows is left out unless it is asked for.
-/

namespace AbiTypings.Numeral

/-- The digits of a number. -/
def digits (value : Nat) : List Char := Nat.toDigits 10 value

/-- A point and the places after it. -/
def fraction (pointed : Bool) (places : List Char) : List Char :=
  if places.isEmpty && !pointed then [] else '.' :: places

/-- A number in full with places after the point, which are all zero. -/
def fixed (pointed : Bool) (places value : Nat) : List Char :=
  digits value ++ fraction pointed (List.replicate places '0')

/-- A number rounded to a count of significant digits. -/
def rounded (count value : Nat) : Nat :=
  let unit := Nat.pow 10 ((digits value).length - count)
  roundQuotient value unit * unit

/-- The power of ten of the first digit of a number. -/
def magnitude (value : Nat) : Nat := (digits value).length - 1

/-- A mantissa with places after the point, and a power of ten of two digits at least. -/
def withExponent (pointed : Bool) (mantissa places : List Char) (exponent : Nat) : List Char :=
  mantissa ++ fraction pointed places ++ 'e' :: '+'
    :: (if exponent < 10 then ['0'] else []) ++ digits exponent

/-- A number as a mantissa with places after the point, and a power of ten. -/
def scientific (pointed : Bool) (places value : Nat) : List Char :=
  let near := rounded (places + 1) value
  let tail := (digits near).tail ++ List.replicate places '0'
  withExponent pointed ((digits near).take 1) (tail.take places) (magnitude near)

/-- A number with a count of significant digits: in full if these reach the point, and with a power
of ten otherwise. Zeros at the end of the places are left out unless the point is asked for. -/
def significant (pointed : Bool) (count value : Nat) : List Char :=
  let near := rounded count value
  if magnitude near < count then
    digits near ++ fraction pointed
      (if pointed then List.replicate (count - 1 - magnitude near) '0' else [])
  else
    let places := (digits near).tail.take (count - 1)
    let kept := if pointed then places else (places.reverse.dropWhile (· = '0')).reverse
    withExponent pointed ((digits near).take 1) kept (magnitude near)

end AbiTypings.Numeral
