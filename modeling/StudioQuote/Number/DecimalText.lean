import StudioQuote.Number.Decimal
import StudioQuote.Text.Blank
import StudioQuote.Text.Digit

/-!
# The text of a decimal number

Writing keeps every digit and the exponent: positional while the exponent is not
positive and the first digit stands at most six places behind the point, with an
exponent otherwise. A text is read leniently: blanks around the number, underscores, digits
of any script, a sign, and a point at either end are accepted; an exponent beyond the
limits is not.
-/

namespace StudioQuote.Number

namespace Decimal

/-- Digits with the decimal point after `point` of them. -/
def withPoint (ds : List Char) (point : Int) : List Char :=
  if point ≤ 0 then '0' :: '.' :: List.replicate (-point).toNat '0' ++ ds
  else if ds.length ≤ point then ds ++ List.replicate (point.toNat - ds.length) '0'
  else ds.take point.toNat ++ '.' :: ds.drop point.toNat

def exponentMark (n : Int) : List Char :=
  'E' :: (if n < 0 then '-' else '+') :: natDigits n.natAbs

def textChars (d : Decimal) : List Char :=
  let ds := natDigits d.coefficient
  let point : Int := d.exponent + ds.length
  let sign := if d.negative then ['-'] else []
  if d.exponent ≤ 0 ∧ -6 < point then sign ++ withPoint ds point
  else sign ++ withPoint ds 1 ++ (if point = 1 then [] else exponentMark (point - 1))

def text (d : Decimal) : String :=
  String.ofList d.textChars

/-- What a text may denote where a decimal number is expected. -/
inductive Parsed where
  | number (d : Decimal)
  | notFinite
  | malformed
  deriving DecidableEq

def readPlaces : List Char → List Char × List Char
  | '.' :: cs => digits cs
  | cs => ([], cs)

/-- The exponent that ends a number, zero when there is nothing left to read. -/
def readExponent : List Char → Option Int
  | [] => some 0
  | c :: cs =>
    if c = 'e' ∨ c = 'E' then
      match Numeral.readPower cs with
      | some (power, []) => some power
      | _ => none
    else none

def readUnsigned (negative : Bool) (cs : List Char) : Option Decimal :=
  let (whole, rest) := digits cs
  let (places, rest) := readPlaces rest
  if whole = [] ∧ places = [] then none
  else (readExponent rest).map fun power =>
    ⟨negative, digitsValue (whole ++ places), power - places.length⟩

/-- Whether a text after its sign is the name of a value that is not finite. -/
def isNotFinite (cs : List Char) : Bool :=
  let cs := cs.map Char.toLower
  cs = "inf".toList || cs = "infinity".toList ||
    ("nan".toList.isPrefixOf cs && (cs.drop 3).all Char.isDigit) ||
    ("snan".toList.isPrefixOf cs && (cs.drop 4).all Char.isDigit)

/-- Whether a number is within the limits of exponents: the exponent of its first digit
has at most 18 digits, and its own exponent is not far below that. -/
def isRepresentable (d : Decimal) : Bool :=
  d.exponent + d.size ≤ 10 ^ (18 : Nat) && -(2 * 10 ^ (18 : Nat) - 3) ≤ d.exponent

/-- Reads a text without blanks and underscores in digits of the basic Latin block. -/
def readPlain (cs : List Char) : Parsed :=
  let (negative, rest) := Numeral.readSign cs
  match readUnsigned negative rest with
  | some d => if d.isRepresentable then .number d else .malformed
  | none => if isNotFinite rest then .notFinite else .malformed

/-- A text in the one form that `readPlain` reads. -/
def plain (cs : List Char) : List Char :=
  ((Text.trim Text.isSpacing cs).filter (· != '_')).map Text.latinDigit

def readChars (cs : List Char) : Parsed :=
  readPlain (plain cs)

def read (s : String) : Parsed :=
  readChars s.toList

end Decimal

end StudioQuote.Number
