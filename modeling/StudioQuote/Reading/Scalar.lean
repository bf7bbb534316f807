import StudioQuote.Number.DecimalText
import StudioQuote.Number.IntegerText
import StudioQuote.Number.Shortest
import StudioQuote.Reading.Basic

/-!
# Reading single values

Integers, truth values and decimals are also read from values of other kinds that
denote them; texts and names are not.
-/

namespace StudioQuote

open Number

/-- The integers that fit into 64 bits with a sign. -/
def fitsInt64 (n : Int) : Bool :=
  -(2 ^ (63 : Nat)) ≤ n && n < 2 ^ (63 : Nat)

namespace Reader

/-- A value that is read from the characters of a text, of which none may be a lone
half of a surrogate pair. -/
def ofText {α : Type} (s : String) (read : String → Reading α) : Reading α :=
  if Text.hasLoneHalf s then .problem (.str s) .brokenText else read s

def intOfFloat (x : Binary64) : Reading Int :=
  if !x.isFinite then .problem (.float x) .notFinite
  else
    match x.toInt? with
    | none => .problem (.float x) .fractionalInt
    | some n =>
      if fitsInt64 n && n != -(2 ^ (63 : Nat)) then .ok n else .problem (.float x) .oversizedInt

def intOfText (s : String) : Reading Int :=
  match IntegerText.read s with
  | .integer n => .ok n
  | .tooLong => .problem (.str s) .oversizedInt
  | .malformed => .problem (.str s) .unreadableInt

def int : Reader Int
  | .int n => .ok n
  | .bool b => .ok (if b then 1 else 0)
  | .float x => intOfFloat x
  | .str s => ofText s intOfText
  | v => .problem v .notAnInt

def trueWords : List String := ["1", "true", "t", "yes", "y", "on"]

def falseWords : List String := ["0", "false", "f", "no", "n", "off"]

def boolOfText (s : String) : Reading Bool :=
  if trueWords.contains s.toLower then .ok true
  else if falseWords.contains s.toLower then .ok false
  else .problem (.str s) .unreadableBool

def boolOfInt (v : Json) (n : Int) : Reading Bool :=
  if n = 1 then .ok true else if n = 0 then .ok false else .problem v .unreadableBool

def bool : Reader Bool
  | .bool b => .ok b
  | .int n => if fitsInt64 n then boolOfInt (.int n) n else .problem (.int n) .notABool
  | .float x =>
    match intOfFloat x with
    | .ok n => boolOfInt (.float x) n
    | .failed _ => .problem (.float x) .notABool
  | .str s => ofText s boolOfText
  | v => .problem v .notABool

def text : Reader String
  | .str s => .ok s
  | v => .problem v .notText

def name {α : Type} (ofName? : String → Option α) : Reader α
  | .str s =>
    ofText s fun s =>
      match ofName? s with
      | some a => .ok a
      | none => .problem (.str s) .unknownName
  | v => .problem v .unknownName

def decimalOfText (v : Json) (s : String) : Reading Decimal :=
  match Decimal.read s with
  | .number d => .ok d
  | .notFinite => .problem v .notFinite
  | .malformed => .problem v .unreadableDecimal

/-- A floating-point value is taken as the decimal that its shortest text denotes. -/
def decimal : Reader Decimal
  | .int n => .ok (Decimal.ofInt n)
  | .float x => decimalOfText (.float x) x.text
  | .str s => decimalOfText (.str s) s
  | v => .problem v .notADecimal

def dictionary : Reader Json.Members
  | .obj ms => .ok ms
  | v => .problem v .notADictionary

end Reader

end StudioQuote
