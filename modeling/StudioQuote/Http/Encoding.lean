import StudioQuote.Text.Surrogate

/-!
# Encodings of bodies

The bytes of a body are text in one of five encodings. JSON begins with characters of
which only the last byte is not zero in the wider encodings, so the places of the zero
bytes at the beginning show the encoding.
-/

namespace StudioQuote

namespace Http

/-- The wider encodings have their bytes in one of two orders. -/
inductive Encoding where
  | utf8
  | utf16 (bigEndian : Bool)
  | utf32 (bigEndian : Bool)
  deriving DecidableEq

namespace Encoding

def ofBytes : List UInt8 → Encoding
  | [a, b] => if a = 0 then .utf16 true else if b = 0 then .utf16 false else .utf8
  | a :: b :: c :: d :: _ =>
    if a = 0 then (if b = 0 then .utf32 true else .utf16 true)
    else if b = 0 then (if c = 0 ∧ d = 0 then .utf32 false else .utf16 false)
    else .utf8
  | _ => .utf8

def number (bigEndian : Bool) (bytes : List UInt8) : Nat :=
  (if bigEndian then bytes else bytes.reverse).foldl (fun n b => n * 256 + b.toNat) 0

/-- The numbers of two bytes each; there must be no byte left over. -/
def units16 (bigEndian : Bool) : List UInt8 → Option (List Nat)
  | [] => some []
  | a :: b :: rest => (units16 bigEndian rest).map (number bigEndian [a, b] :: ·)
  | [_] => none

/-- The numbers of four bytes each; there must be no byte left over. -/
def units32 (bigEndian : Bool) : List UInt8 → Option (List Nat)
  | [] => some []
  | a :: b :: c :: d :: rest => (units32 bigEndian rest).map (number bigEndian [a, b, c, d] :: ·)
  | _ => none

def ofUnits16 : List Nat → List Text.Code
  | [] => []
  | [u] => [.ofNumber u]
  | u :: v :: rest =>
    if Text.isHighHalf u && Text.isLowHalf v then .char (Text.ofHalves u v) :: ofUnits16 rest
    else .ofNumber u :: ofUnits16 (v :: rest)

/-- What 32-bit numbers denote, which must be numbers of characters or of halves. -/
def ofUnits32 (units : List Nat) : Option (List Text.Code) :=
  if units.all (· < 0x110000) then some (units.map .ofNumber) else none

end Encoding

def withoutOrderMark : List Char → List Char
  | '\ufeff' :: cs => cs
  | cs => cs

/-- What the body consists of whose bytes, taken as UTF-8, are the given text. -/
def bodyCodes? (text : String) : Option (List Text.Code) :=
  let bytes := text.toUTF8.toList
  match Encoding.ofBytes bytes with
  | .utf8 => some ((withoutOrderMark text.toList).map .char)
  | .utf16 bigEndian => (Encoding.units16 bigEndian bytes).map Encoding.ofUnits16
  | .utf32 bigEndian => (Encoding.units32 bigEndian bytes).bind Encoding.ofUnits32

/-- The marked form of a body that is given in marked form. Halves have no bytes. -/
def bodyChars? (text : String) : Option (List Char) :=
  ((Text.toPlain? text).bind bodyCodes?).map (·.flatMap Text.Code.marked)

end Http

end StudioQuote
