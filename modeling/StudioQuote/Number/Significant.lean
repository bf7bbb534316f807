import StudioQuote.Number.Shortest

/-!
# Fifteen significant digits

The text of a binary floating-point value with its fifteen leading digits, of which a
half rounds up. It always has a point with a digit after it, and it is positional from
`0.0001` to below `10 ^ 15`.
-/

namespace StudioQuote.Number

namespace Binary64

/-- The leading digits of a magnitude, without zeros at their end, and the number of
them that stand before the point. -/
def leadingDigits (count units : Nat) : List Char × Int :=
  let dropped := (natDigits (expansion units)).length - count
  let ds := natDigits ((2 * expansion units + 10 ^ dropped) / (2 * 10 ^ dropped))
  (trimZeros ds, ds.length + dropped - 1074)

/-- The number with the given digits, in the form that always has a point. -/
def pointedLayout (ds : List Char) (point : Int) : List Char :=
  if -4 < point ∧ point ≤ 15 then layout ds point
  else
    let places := if ds.length ≤ 1 then ['0'] else ds.drop 1
    ds.take 1 ++ '.' :: places ++ 'e' :: exponentText (point - 1)

/-- Zero is written without its sign. -/
def significantText (x : Binary64) : String :=
  match x with
  | .finite _ 0 _ _ => "0.0"
  | .finite negative significand exponent _ =>
    let (ds, point) := leadingDigits 15 (significand * 2 ^ exponent)
    String.ofList (signText negative ++ pointedLayout ds point)
  | .infinite negative => if negative then "-Inf" else "Inf"
  | .nan => ""

end Binary64

end StudioQuote.Number
