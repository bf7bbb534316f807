/-!
# Decimal numerals

The number grammar of JSON: an optional minus sign, digits without a superfluous
leading zero, an optional fraction and an optional exponent. A numeral without
fraction and exponent denotes an integer; any other one denotes a binary
floating-point number.
-/

namespace StudioQuote.Number

/-- Powers of natural numbers are those of the core library, whatever else is imported. -/
scoped instance (priority := high) natPower : Pow Nat Nat := instPowNat

scoped instance (priority := high) intPower : Pow Int Nat := instPowNat

def digits (cs : List Char) : List Char × List Char :=
  (cs.takeWhile Char.isDigit, cs.dropWhile Char.isDigit)

def digitsValue (ds : List Char) : Nat :=
  Nat.ofDigitChars 10 ds 0

def natDigits (n : Nat) : List Char :=
  Nat.toDigits 10 n

def intDigits : Int → List Char
  | .ofNat n => natDigits n
  | .negSucc n => '-' :: natDigits (n + 1)

def intText (n : Int) : String :=
  String.ofList (intDigits n)

def signed (negative : Bool) (n : Nat) : Int :=
  if negative then -(n : Int) else n

/-- The most digits that an integer may have in a text. -/
def maxDigits : Nat := 4300

/-- Whether an integer can be written and read as text. -/
def IsShort (n : Int) : Prop :=
  n.natAbs < 10 ^ maxDigits

instance (n : Int) : Decidable (IsShort n) :=
  inferInstanceAs (Decidable (_ < _))

/-- Why an integer with more digits is not written. -/
def longIntegerMessage : String :=
  "Exceeds the limit (" ++ intText maxDigits ++
    " digits) for integer string conversion; use sys.set_int_max_str_digits() to increase the limit"

@[simp] theorem digitsValue_natDigits (n : Nat) : digitsValue (natDigits n) = n :=
  Nat.ofDigitChars_ten_toDigits

theorem isDigit_of_mem_natDigits {n : Nat} {c : Char} (h : c ∈ natDigits n) : c.isDigit = true :=
  Nat.isDigit_of_mem_toDigits (by decide) (by decide) h

/-- The parts of a numeral; `fraction` and `exponent` are absent when not written. -/
structure Numeral where
  negative : Bool
  whole : List Char
  fraction : Option (List Char)
  exponent : Option Int

namespace Numeral

/-- Digits, of which the first is zero only when it is the only one. -/
def readWhole : List Char → Option (List Char × List Char)
  | '0' :: rest => some (['0'], rest)
  | cs =>
    match digits cs with
    | ([], _) => none
    | (ds, rest) => some (ds, rest)

/-- A point with at least one digit after it. A point without digits is left unread. -/
def readFraction : List Char → Option (List Char) × List Char
  | '.' :: cs =>
    match digits cs with
    | ([], _) => (none, '.' :: cs)
    | (ds, rest) => (some ds, rest)
  | cs => (none, cs)

/-- A sign, or none, which counts as plus. -/
def readSign : List Char → Bool × List Char
  | '-' :: cs => (true, cs)
  | '+' :: cs => (false, cs)
  | cs => (false, cs)

/-- The sign and digits that follow an exponent mark. -/
def readPower (cs : List Char) : Option (Int × List Char) :=
  match digits (readSign cs).2 with
  | ([], _) => none
  | (ds, rest) => some (signed (readSign cs).1 (digitsValue ds), rest)

/-- An exponent mark with its power. A mark without digits is left unread. -/
def readExponent : List Char → Option Int × List Char
  | c :: cs =>
    if c = 'e' ∨ c = 'E' then
      match readPower cs with
      | some (power, rest) => (some power, rest)
      | none => (none, c :: cs)
    else (none, c :: cs)
  | [] => (none, [])

def readUnsigned (negative : Bool) (cs : List Char) : Option (Numeral × List Char) :=
  match readWhole cs with
  | none => none
  | some (whole, rest) =>
    let (fraction, rest) := readFraction rest
    let (exponent, rest) := readExponent rest
    some (⟨negative, whole, fraction, exponent⟩, rest)

def read : List Char → Option (Numeral × List Char)
  | '-' :: cs => readUnsigned true cs
  | cs => readUnsigned false cs

def isInteger (n : Numeral) : Bool :=
  n.fraction.isNone && n.exponent.isNone

def toInt (n : Numeral) : Int :=
  signed n.negative (digitsValue n.whole)

def coefficient (n : Numeral) : Nat :=
  digitsValue (n.whole ++ n.fraction.getD [])

/-- The power of ten that `coefficient` is multiplied by. -/
def scale (n : Numeral) : Int :=
  n.exponent.getD 0 - (n.fraction.getD []).length

end Numeral

end StudioQuote.Number
