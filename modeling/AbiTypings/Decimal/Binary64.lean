import AbiTypings.Decimal.Rounding

/-!
# Doubles in exact arithmetic

A double is a significand below `2^53` times a power of two, an infinity or not a number. A
decimal numeral is read as the double nearest to it, a tie going to the even significand, by
comparing natural numbers only.
-/

namespace AbiTypings

/-- A binary floating-point number of 64 bits. -/
inductive Binary64 where
  /-- The number `significand * 2 ^ exponent` with its sign. -/
  | finite (negative : Bool) (significand : Nat) (exponent : Int)
  /-- An infinity with its sign. -/
  | infinite (negative : Bool)
  /-- Not a number. -/
  | nan
deriving DecidableEq, Repr

namespace Binary64

/-- The least exponent of a double. -/
def leastExponent : Int := -1074

/-- The greatest exponent of a double whose significand has 53 bits. -/
def greatestExponent : Int := 971

/-- Numerator and denominator of a positive quotient times a power of a base. -/
def scale (base : Nat) (exponent : Int) (numerator denominator : Nat) : Nat × Nat :=
  if 0 ≤ exponent then (numerator * base.pow exponent.toNat, denominator)
  else (numerator, denominator * base.pow (-exponent).toNat)

/-- The greatest power of two that is at most a positive quotient, by its exponent. -/
def quotientLog2 (numerator denominator : Nat) : Int :=
  let estimate : Int := (numerator.log2 : Int) - denominator.log2
  let (scaled, unit) := scale 2 (-estimate) numerator denominator
  if unit ≤ scaled then estimate else estimate - 1

/-- The double nearest to a quotient. -/
def ofQuotient (negative : Bool) (numerator denominator : Nat) : Binary64 :=
  if numerator = 0 then .finite negative 0 leastExponent
  else
    let exponent := max (quotientLog2 numerator denominator - 52) leastExponent
    let (scaled, unit) := scale 2 (-exponent) numerator denominator
    let rounded := roundQuotient scaled unit
    let (significand, exponent) :=
      if rounded = Nat.pow 2 53 then (Nat.pow 2 52, exponent + 1) else (rounded, exponent)
    if greatestExponent < exponent then .infinite negative
    else .finite negative significand exponent

/-- The double nearest to `digits * 10 ^ exponent`. A number past `10 ^ 310` is infinite and one
below `10 ^ (-330)` is zero, whatever its digits. -/
def ofDecimal (negative : Bool) (digits : Nat) (exponent : Int) : Binary64 :=
  let magnitude : Int := (toString digits).length + exponent
  if digits = 0 ∨ magnitude < -330 then .finite negative 0 leastExponent
  else if 310 < magnitude then .infinite negative
  else
    let (numerator, denominator) := scale 10 exponent digits 1
    ofQuotient negative numerator denominator

end Binary64
end AbiTypings
