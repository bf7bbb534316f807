import StudioQuote.Number.Binary64

/-!
# The shortest text of a binary floating-point value

For one digit, two digits and so on the two neighbours of a value on that decimal
grid are tried, the nearer one first, and the first numeral that reads back as the
value is its text. Seventeen digits are always enough; the exact expansion of the
value stands behind them, so that whatever is written reads back.
-/

namespace StudioQuote.Number

namespace Binary64

def ofText? (cs : List Char) : Option Binary64 :=
  match Numeral.read cs with
  | some (n, []) => if n.isInteger then none else some (ofNumeral n)
  | _ => none

/-- The magnitude `units` as a multiple of `10 ^ -1074`. -/
def expansion (units : Nat) : Nat :=
  units * 5 ^ (1074 : Nat)

/-- The neighbours of a magnitude, given as a multiple of `10 ^ -1074`, on the grid of
multiples of `10 ^ dropped` in this unit: the nearer first, and of two equally near ones
the even one. They come with the power of ten that they are multiples of. -/
def neighbours (magnitude dropped : Nat) : List (Nat × Int) :=
  let low := magnitude / 10 ^ dropped
  let nearest := roundHalfEven magnitude (10 ^ dropped)
  let scale : Int := dropped - 1074
  [(nearest, scale), (if nearest = low then low + 1 else low, scale)]

def trimZeros (ds : List Char) : List Char :=
  (ds.reverse.dropWhile (· == '0')).reverse

/-- An exponent with its sign and at least two digits. -/
def exponentText (n : Int) : List Char :=
  let ds := natDigits n.natAbs
  (if n < 0 then '-' else '+') :: (if ds.length < 2 then '0' :: ds else ds)

/-- The number with the given significant digits and the decimal point after `point`
of them: positional from `0.0001` to below `10 ^ 16`, with an exponent elsewhere. -/
def layout (ds : List Char) (point : Int) : List Char :=
  if -4 < point ∧ point ≤ 16 then
    if point ≤ 0 then '0' :: '.' :: List.replicate (-point).toNat '0' ++ ds
    else if ds.length ≤ point then
      ds ++ List.replicate (point.toNat - ds.length) '0' ++ ['.', '0']
    else ds.take point.toNat ++ '.' :: ds.drop point.toNat
  else
    match ds with
    | [] => []
    | [d] => d :: 'e' :: exponentText (point - 1)
    | d :: rest => d :: '.' :: rest ++ 'e' :: exponentText (point - 1)

def signText (negative : Bool) : List Char :=
  if negative then ['-'] else []

/-- The text of a decimal number with its superfluous zeros left out. -/
def decimalText (negative : Bool) (coefficient : Nat) (scale : Int) : List Char :=
  let ds := natDigits coefficient
  signText negative ++ layout (trimZeros ds) (ds.length + scale)

/-- The texts that a value may be written as, the shortest first. -/
def candidates (negative : Bool) (units : Nat) : List (List Char) :=
  let magnitude := expansion units
  let length := (natDigits magnitude).length
  (List.range 17).flatMap fun i =>
    (neighbours magnitude (length - (i + 1))).map fun c => decimalText negative c.1 c.2

/-- Every digit of a magnitude, as a multiple of `10 ^ -1074`. -/
def exactText (negative : Bool) (units : Nat) : List Char :=
  signText negative ++ natDigits (expansion units) ++ 'e' :: intDigits (-1074)

/-- The text of a value as a numeral, for a finite value; the other three have names. -/
def numeralText (x : Binary64) : List Char :=
  match x with
  | .finite negative 0 _ _ => signText negative ++ ['0', '.', '0']
  | .finite negative significand exponent _ =>
    let units := significand * 2 ^ exponent
    ((candidates negative units).find? fun cs => ofText? cs == some x).getD
      (exactText negative units)
  | .infinite negative => signText negative ++ ['i', 'n', 'f']
  | .nan => ['n', 'a', 'n']

def text (x : Binary64) : String :=
  String.ofList x.numeralText

end Binary64

end StudioQuote.Number
