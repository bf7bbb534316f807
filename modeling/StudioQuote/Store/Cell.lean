import StudioQuote.Number.Significant
import StudioQuote.Reading.Scalar

/-!
# Stored cells

A cell of a table holds a value of one of four kinds. A column converts what is stored
in it where its kind allows: a column of integers takes a text or a fraction that
denotes one as an integer, a column of text takes numbers as their text.
-/

namespace StudioQuote

open Number

inductive Cell where
  | null
  | integer (n : Int)
  | real (x : Binary64)
  | text (s : String)
  deriving DecidableEq

namespace Cell

def toJson : Cell → Json
  | .null => .null
  | .integer n => .int n
  | .real x => .float x
  | .text s => .str s

/-- A single value as a cell. What is no number is no value either. -/
def ofJson : Json → Cell
  | .bool b => .integer (if b then 1 else 0)
  | .int n => .integer n
  | .float .nan => .null
  | .float x => .real x
  | .str s => .text s
  | _ => .null

def ofBool (b : Bool) : Cell :=
  .integer (if b then 1 else 0)

def ofOption {α : Type} (encode : α → Cell) : Option α → Cell
  | none => .null
  | some a => encode a

/-- The order of kinds: no value, numbers, text. -/
def rank : Cell → Nat
  | .null => 0
  | .integer _ => 1
  | .real _ => 1
  | .text _ => 2

def quantity? : Cell → Option Quantity
  | .integer n => some (.int n)
  | .real x => some (.float x)
  | _ => none

def compare (a b : Cell) : Ordering :=
  match a, b with
  | .text s, .text t => Ord.compare s t
  | a, b =>
    match a.quantity?, b.quantity? with
    | some p, some q => (p.compare? q).getD .eq
    | _, _ => Ord.compare a.rank b.rank

/-- A value without a fraction as an integer, unless it lies at the end of the range of
integers or beyond. -/
def ofFloat (x : Binary64) : Cell :=
  match x.toInt? with
  | some n => if -(2 ^ (63 : Nat)) < n && n < 2 ^ (63 : Nat) - 1 then .integer n else .real x
  | none => .real x

def isMargin (c : Char) : Bool :=
  c == ' ' || ('\t' ≤ c && c ≤ '\r')

/-- The number that a text denotes. Blanks may stand around it, and digits may be
missing on one side of the point. -/
def numberOfChars? (cs : List Char) : Option Cell :=
  let (negative, rest) := Numeral.readSign (Text.trim isMargin cs)
  (Decimal.readUnsigned negative rest).map fun d =>
    let n := signed negative d.coefficient
    if rest.all Char.isDigit && fitsInt64 n then .integer n
    else ofFloat (Binary64.ofDecimal negative d.coefficient d.exponent)

def inIntegerColumn : Cell → Cell
  | .real x => ofFloat x
  | .text s => (numberOfChars? s.toList).getD (.text s)
  | c => c

def inTextColumn : Cell → Cell
  | .integer n => .text (intText n)
  | .real x => .text x.significantText
  | c => c

end Cell

end StudioQuote
