import AbiTypings.Decimal.Binary64

/-!
# The shortest decimal of a double

A positive double stands for all reals that round to it. Of the decimals among them the ones with
the fewest digits are sought, from one digit up to seventeen, which always suffice. On the grid of
decimals with a given number of digits only the two neighbours of the double can be the nearest;
the nearer one in the interval is chosen and a tie goes to the even digit. How digits are laid out
is a separate matter, decided by a `DecimalLayout`.
-/

namespace AbiTypings

/-- The number `digits * 10 ^ exponent`. -/
structure Decimal where
  /-- The significant digits. -/
  digits : Nat
  /-- The exponent of the last digit. -/
  exponent : Int
deriving DecidableEq, Repr

namespace Binary64

/-- The exponent after the first digit of a positive quotient: the quotient is less than ten to
this power and not less than a tenth of it. -/
def quotientMagnitude (numerator denominator : Nat) : Int :=
  let estimate : Int := ((toString numerator).length : Int) - (toString denominator).length
  let (scaled, unit) := scale 10 (-estimate) numerator denominator
  if unit ≤ scaled then estimate + 1 else estimate

/-- The reals that round to a positive double, in quarters of its last place over a common
denominator. -/
structure RoundingInterval where
  /-- The lower end. -/
  lower : Nat
  /-- The double itself. -/
  centre : Nat
  /-- The upper end. -/
  upper : Nat
  /-- The common denominator. -/
  denominator : Nat
  /-- Whether the ends round to the double as well. -/
  closed : Bool

/-- The interval of `significand * 2 ^ exponent`. Below a power of two the neighbours are twice as
close, except among the least doubles. -/
def roundingInterval (significand : Nat) (exponent : Int) : RoundingInterval :=
  let below := if significand = Nat.pow 2 52 ∧ leastExponent < exponent then 1 else 2
  let (unit, denominator) := scale 2 (exponent - 2) 1 1
  { lower := (4 * significand - below) * unit
    centre := 4 * significand * unit
    upper := (4 * significand + 2) * unit
    denominator
    closed := significand % 2 = 0 }

/-- Whether `candidate * 10 ^ exponent` lies in the interval. -/
def RoundingInterval.holds (interval : RoundingInterval) (exponent : Int) (candidate : Nat) :
    Bool :=
  let (value, factor) := scale 10 exponent (candidate * interval.denominator) 1
  let lower := interval.lower * factor
  let upper := interval.upper * factor
  if interval.closed then lower ≤ value && value ≤ upper else lower < value && value < upper

/-- The decimal of the interval on the grid of `10 ^ exponent` that is nearest to the double. -/
def RoundingInterval.nearest? (interval : RoundingInterval) (exponent : Int) : Option Decimal :=
  let (centre, unit) := scale 10 (-exponent) interval.centre interval.denominator
  let below := centre / unit
  let above := below + 1
  match interval.holds exponent below, interval.holds exponent above with
  | true, true => some ⟨roundQuotient centre unit, exponent⟩
  | true, false => some ⟨below, exponent⟩
  | false, true => some ⟨above, exponent⟩
  | false, false => none

/-- The shortest decimal of a positive double. -/
def shortest (significand : Nat) (exponent : Int) : Decimal :=
  let interval := roundingInterval significand exponent
  let magnitude := quotientMagnitude interval.centre interval.denominator
  ((List.range' 1 17).findSome? fun (count : Nat) => interval.nearest? (magnitude - count)).getD
    ⟨significand, 0⟩

end Binary64

/-- How the digits of a number are laid out. -/
structure DecimalLayout where
  /-- The least exponent of the first digit for which no exponent is written. -/
  leastPlain : Int
  /-- The greatest exponent of the first digit for which no exponent is written. -/
  greatestPlain : Int
  /-- The least number of digits of a written exponent. -/
  exponentDigits : Nat
deriving DecidableEq, Repr

namespace DecimalLayout

/-- The digits of a number without the zeros at their end, and the exponent of the first digit. -/
def normalDigits (number : Decimal) : List Char × Int :=
  let digits := (toString number.digits).toList
  ((digits.reverse.dropWhile (· = '0')).reverse, digits.length - 1 + number.exponent)

/-- Digits with the point after the first `count` of them; at least one stands on each side. -/
def pointAfter (count : Nat) (digits : List Char) : List Char :=
  let whole := digits.take count ++ List.replicate (count - digits.length) '0'
  let fraction := digits.drop count
  whole ++ '.' :: (if fraction.isEmpty then ['0'] else fraction)

/-- The exponent with its sign and at least the asked number of digits. -/
def exponentText (layout : DecimalLayout) (exponent : Int) : List Char :=
  let digits := (toString exponent.natAbs).toList
  (if exponent < 0 then '-' else '+')
    :: (List.replicate (layout.exponentDigits - digits.length) '0' ++ digits)

/-- The text of a positive number. -/
def write (layout : DecimalLayout) (number : Decimal) : List Char :=
  let (digits, exponent) := normalDigits number
  if exponent < layout.leastPlain ∨ layout.greatestPlain < exponent then
    let mantissa :=
      match digits with
      | first :: second :: rest => first :: '.' :: second :: rest
      | short => short
    mantissa ++ 'e' :: layout.exponentText exponent
  else if exponent < 0 then
    '0' :: '.' :: (List.replicate ((-exponent).toNat - 1) '0' ++ digits)
  else
    pointAfter (exponent.toNat + 1) digits

end DecimalLayout
end AbiTypings
