import StudioQuote.Number.Numeral
import StudioQuote.Number.Rounding

/-!
# Decimal numbers

A decimal keeps the digits and the exponent it was written with, so that `12.50` stays
`12.50`. Sums and products are computed exactly and then rounded to 28 significant
digits and to the smallest exponent of a result, ties to even; converting an integer needs
no rounding. A result whose first digit stands above the largest exponent is too large.
-/

namespace StudioQuote.Number

/-- The number `coefficient * 10 ^ exponent` with its sign. -/
structure Decimal where
  negative : Bool
  coefficient : Nat
  exponent : Int
  deriving DecidableEq

namespace Decimal

/-- How many significant digits a result has at most. -/
def precision : Nat := 28

/-- The largest exponent that the first digit of a result may have. -/
def maxExponent : Int := 999999

/-- The smallest exponent that the last digit of a result may have. -/
def minExponent : Int := -1000026

def ofInt (n : Int) : Decimal :=
  ⟨decide (n < 0), n.natAbs, 0⟩

def signedCoefficient (d : Decimal) : Int :=
  signed d.negative d.coefficient

def size (d : Decimal) : Nat :=
  (natDigits d.coefficient).length

/-- Whether the first digit stands above the largest exponent. -/
def isTooLarge (d : Decimal) : Bool :=
  d.coefficient != 0 && decide (maxExponent < d.exponent + d.size - 1)

/-- How many of the last digits a result cannot keep. -/
def excess (d : Decimal) : Nat :=
  max (d.size - precision) (minExponent - d.exponent).toNat

/-- The coefficient without some of its last digits, rounded. Where more digits go than
there are, at most a tenth of a unit is left of it, which is nothing. -/
def withoutDigits (d : Decimal) (count : Nat) : Nat :=
  if d.size < count then 0 else roundHalfEven d.coefficient (10 ^ count)

/-- The nearest number that a result may be. -/
def rounded (d : Decimal) : Decimal :=
  ⟨d.negative, d.withoutDigits d.excess, d.exponent + d.excess⟩

def mul (a b : Decimal) : Decimal :=
  rounded ⟨a.negative != b.negative, a.coefficient * b.coefficient, a.exponent + b.exponent⟩

def rescaled (d : Decimal) (exponent : Int) : Int :=
  d.signedCoefficient * 10 ^ (d.exponent - exponent).toNat

def exactSum (a b : Decimal) : Decimal :=
  let exponent := min a.exponent b.exponent
  let sum := a.rescaled exponent + b.rescaled exponent
  ⟨decide (sum < 0), sum.natAbs, exponent⟩

/-- A number as it counts in a sum with one of the given exponent that is not zero. Of a
number far below the last digit of the sum only the sign counts, and whether it is zero. -/
def beside (exponent : Int) (d : Decimal) : Decimal :=
  let least := exponent - precision - 3
  if d.exponent + d.size ≤ least then ⟨d.negative, min 1 d.coefficient, least⟩ else d

def add (a b : Decimal) : Decimal :=
  if a.coefficient = 0 then b.rounded
  else if b.coefficient = 0 then a.rounded
  else
    let exponent := max a.exponent b.exponent
    ((a.beside exponent).exactSum (b.beside exponent)).rounded

/-- A hundredth of a number: the decimal point moves by two places. -/
def hundredth (d : Decimal) : Decimal :=
  rounded { d with exponent := d.exponent - 2 }

def floor (d : Decimal) : Int :=
  if d.coefficient = 0 then 0
  else if 0 ≤ d.exponent then d.signedCoefficient * 10 ^ d.exponent.toNat
  else if d.exponent + d.size ≤ 0 then (if d.negative then -1 else 0)
  else Int.fdiv d.signedCoefficient (10 ^ (-d.exponent).toNat)

def truncate (d : Decimal) : Int :=
  if d.coefficient = 0 then 0
  else if 0 ≤ d.exponent then d.signedCoefficient * 10 ^ d.exponent.toNat
  else if d.exponent + d.size ≤ 0 then 0
  else Int.tdiv d.signedCoefficient (10 ^ (-d.exponent).toNat)

end Decimal

end StudioQuote.Number
