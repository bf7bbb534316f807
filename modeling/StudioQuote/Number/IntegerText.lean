import StudioQuote.Number.Numeral
import StudioQuote.Text.Blank

/-!
# Integers in text

An integer is read as JSON writes it, with at most 4300 digits. A text that is no such
integer is read again without what may surround or interrupt the digits: blanks at both
ends, a plus sign, leading zeros with the underscores among them, a fraction of zeros,
and single underscores. A minus sign may stand before the leading zeros or after them.
-/

namespace StudioQuote.Number

namespace IntegerText

inductive Parsed where
  | integer (n : Int)
  | tooLong
  | malformed
  deriving DecidableEq

/-- The part of an integer after its sign. Digits in excess are noticed before what
follows them. -/
def readUnsigned (negative : Bool) : List Char → Parsed
  | ['0'] => .integer 0
  | c :: cs =>
    let (ds, rest) := digits (c :: cs)
    if c = '0' ∨ ds = [] then .malformed
    else if maxDigits < ds.length then .tooLong
    else if rest = [] then .integer (signed negative (digitsValue ds))
    else .malformed
  | [] => .malformed

def readPlain : List Char → Parsed
  | '-' :: cs => readUnsigned true cs
  | cs => readUnsigned false cs

/-- Whether a number without leading zeros may begin with a character. -/
def isLeading (c : Char) : Bool :=
  ('1' ≤ c && c ≤ '9') || c == '-'

/-- What is left of a number that begins with zeros. The last of them stays when the
number ends there or when a fraction follows. -/
def afterZeros (last : Char) : List Char → Option (List Char)
  | [] => some [last]
  | c :: cs =>
    if c = '0' ∨ c = '_' then afterZeros c cs
    else if isLeading c then some (c :: cs)
    else if c = '.' then some (last :: c :: cs)
    else none

def withoutZeros : List Char → Option (List Char)
  | [] => none
  | c :: cs =>
    if c = '0' then afterZeros c cs else if isLeading c then some (c :: cs) else none

def isZeroFraction : List Char → Bool
  | '.' :: cs => !cs.isEmpty && cs.all (· == '0')
  | _ => false

def withoutFraction (cs : List Char) : List Char :=
  if isZeroFraction (cs.dropWhile (· != '.')) then cs.takeWhile (· != '.') else cs

/-- Whether no underscore stands first, last or beside another one. -/
def isGrouped (cs : List Char) : Bool :=
  cs.head? != some '_' && cs.getLast? != some '_' &&
    (cs.zip cs.tail).all fun p => p.1 != '_' || p.2 != '_'

def withoutUnderscores (cs : List Char) : List Char :=
  if isGrouped cs then cs.filter (· != '_') else cs

/-- A number without what may be written in addition to its digits. -/
def withoutExtras (cs : List Char) : Option (List Char) :=
  (withoutZeros cs).map fun cs => withoutUnderscores (withoutFraction cs)

/-- A text without what may be written in addition to the digits and a minus sign. A plus
sign is followed by no other sign. -/
def plain? (cs : List Char) : Option (List Char) :=
  match Text.trim Text.isBlank cs with
  | '+' :: '-' :: _ => none
  | '+' :: cs => withoutExtras cs
  | '-' :: cs => (withoutExtras cs).map ('-' :: ·)
  | cs => withoutExtras cs

def readChars (cs : List Char) : Parsed :=
  match readPlain cs with
  | .malformed => (plain? cs).elim .malformed readPlain
  | r => r

def read (s : String) : Parsed :=
  readChars s.toList

end IntegerText

end StudioQuote.Number
