import StudioQuote.Number.Numeral
import StudioQuote.Number.Rounding

/-!
# Binary floating-point values of 64 bits

A finite value is held exactly, as a significand and the exponent of a power of
two, counted in units of `2 ^ -1074`, the smallest positive value. In this unit
every finite value is an integer, so values are compared, with each other and
with integers of any size, by comparing integers.
-/

namespace StudioQuote.Number

/-- The form in which the format stores a significand and an exponent: 53 bits,
of which the first is set unless the exponent is the least one. -/
def IsCanonical (significand exponent : Nat) : Prop :=
  significand < 2 ^ (53 : Nat) ∧ exponent ≤ 2045 ∧ (exponent = 0 ∨ 2 ^ (52 : Nat) ≤ significand)

instance (significand exponent : Nat) : Decidable (IsCanonical significand exponent) :=
  inferInstanceAs (Decidable (_ ∧ _ ∧ _))

/-- A value of the binary64 format; all that is not a number is one value. -/
inductive Binary64 where
  | finite (negative : Bool) (significand exponent : Nat)
      (canonical : IsCanonical significand exponent)
  | infinite (negative : Bool)
  | nan
  deriving DecidableEq

namespace Binary64

/-- How many smallest positive values make up one. -/
def unit : Nat := 2 ^ (1074 : Nat)

/-- The value in units of the smallest positive value, when it is finite. -/
def units? : Binary64 → Option Int
  | .finite negative significand exponent _ => some (signed negative (significand * 2 ^ exponent))
  | .infinite _ => none
  | .nan => none

def zero (negative : Bool) : Binary64 :=
  .finite negative 0 0 (by decide)

/-- The exponent under which a magnitude of that many units has 53 bits. -/
def exponentFor (units : Nat) : Nat :=
  units.log2 - 52

/-- A rounded significand; one that has grown to 54 bits is halved, and one that
has no canonical form is too large for the format. -/
def ofRounded (negative : Bool) (significand exponent : Nat) : Binary64 :=
  let (significand, exponent) :=
    if significand = 2 ^ (53 : Nat) then (2 ^ (52 : Nat), exponent + 1) else (significand, exponent)
  if h : IsCanonical significand exponent then .finite negative significand exponent h
  else .infinite negative

/-- The value nearest `n / d`, of two equally near ones the one with an even significand. -/
def ofRatio (negative : Bool) (n d : Nat) : Binary64 :=
  let exponent := exponentFor (n * unit / d)
  ofRounded negative (roundHalfEven (n * unit) (d * 2 ^ exponent)) exponent

/-- The value nearest `coefficient * 10 ^ scale`. Magnitudes that are far out of the
range of the format are recognised without raising ten to the power. -/
def ofDecimal (negative : Bool) (coefficient : Nat) (scale : Int) : Binary64 :=
  if coefficient = 0 then zero negative
  else if 0 ≤ scale ∧ 1025 ≤ coefficient.log2 + 3 * scale then .infinite negative
  else if coefficient.log2 + 1 + 3 * scale ≤ -1080 then zero negative
  else ofRatio negative (coefficient * 10 ^ scale.toNat) (10 ^ (-scale).toNat)

def ofNumeral (n : Numeral) : Binary64 :=
  ofDecimal n.negative n.coefficient n.scale

/-- The integer that a finite value equals, when it has no fraction. -/
def toInt? (x : Binary64) : Option Int :=
  x.units?.bind fun u => if u % unit = 0 then some (u / unit) else none

def isFinite (x : Binary64) : Bool :=
  x.units?.isSome

end Binary64

/-- A number of either kind. -/
inductive Quantity where
  | int (n : Int)
  | float (x : Binary64)
  deriving DecidableEq

namespace Quantity

/-- The position of a value on the line of all values: finite values by their units,
the infinite ones beyond every finite one. -/
inductive Position where
  | below
  | at (units : Int)
  | above
  deriving DecidableEq

def position? : Quantity → Option Position
  | .int n => some (.at (n * Binary64.unit))
  | .float (.finite negative significand exponent _) =>
    some (.at (signed negative (significand * 2 ^ exponent)))
  | .float (.infinite negative) => some (if negative then .below else .above)
  | .float .nan => none

def Position.compare : Position → Position → Ordering
  | .below, .below => .eq
  | .below, _ => .lt
  | .at _, .below => .gt
  | .at a, .at b => Ord.compare a b
  | .at _, .above => .lt
  | .above, .above => .eq
  | .above, _ => .gt

def compare? (a b : Quantity) : Option Ordering :=
  match a.position?, b.position? with
  | some p, some q => some (p.compare q)
  | _, _ => none

def equal (a b : Quantity) : Bool :=
  a.compare? b == some .eq

end Quantity

end StudioQuote.Number
