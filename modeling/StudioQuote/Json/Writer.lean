import StudioQuote.Json.Value
import StudioQuote.Number.Shortest
import StudioQuote.Text.Surrogate

/-!
# Writing JSON text

Two layouts are in use. Drafts and responses are compact and keep every character
from the space upward as it is; stored rules have a blank after each separator and
write every character outside ASCII as an escape. A half of a surrogate pair that stands
alone is always an escape.
-/

namespace StudioQuote

open Number

namespace Json

structure Layout where
  itemSeparator : List Char
  keySeparator : List Char
  asciiOnly : Bool

def Layout.compact : Layout := ⟨[','], [':'], false⟩

def Layout.spaced : Layout := ⟨[',', ' '], [':', ' '], true⟩

def hexDigit (n : Nat) : Char :=
  if n < 10 then Char.ofNat (48 + n) else Char.ofNat (87 + n)

def unitEscape (u : Nat) : List Char :=
  ['\\', 'u', hexDigit (u / 4096 % 16), hexDigit (u / 256 % 16), hexDigit (u / 16 % 16),
    hexDigit (u % 16)]

/-- A character as one escape, or two when it lies outside the basic plane. -/
def charEscape (c : Char) : List Char :=
  if c.toNat < 0x10000 then unitEscape c.toNat
  else unitEscape (0xD800 + (c.toNat - 0x10000) / 0x400) ++
    unitEscape (0xDC00 + (c.toNat - 0x10000) % 0x400)

def writeChar (asciiOnly : Bool) (c : Char) : List Char :=
  if c = '"' then ['\\', '"']
  else if c = '\\' then ['\\', '\\']
  else if c = '\x08' then ['\\', 'b']
  else if c = '\x0c' then ['\\', 'f']
  else if c = '\n' then ['\\', 'n']
  else if c = '\r' then ['\\', 'r']
  else if c = '\t' then ['\\', 't']
  else if c.toNat < 32 then charEscape c
  else if asciiOnly && 126 < c.toNat then charEscape c
  else (Text.Code.char c).marked

def writeCode (asciiOnly : Bool) : Text.Code → List Char
  | .char c => writeChar asciiOnly c
  | .half i => unitEscape (0xD800 + i)

def writeText (asciiOnly : Bool) (s : String) : List Char :=
  '"' :: (Text.codes s.toList).flatMap (writeCode asciiOnly) ++ ['"']

def writeFloat (x : Binary64) : List Char :=
  match x with
  | .finite .. => x.numeralText
  | .infinite negative => Binary64.signText negative ++ "Infinity".toList
  | .nan => "NaN".toList

mutual

def writeChars (layout : Layout) : Json → List Char
  | .null => ['n', 'u', 'l', 'l']
  | .bool true => ['t', 'r', 'u', 'e']
  | .bool false => ['f', 'a', 'l', 's', 'e']
  | .int n => intDigits n
  | .float x => writeFloat x
  | .str s => writeText layout.asciiOnly s
  | .arr elements => '[' :: writeElements layout elements ++ [']']
  | .obj members => '{' :: writeMembers layout members ++ ['}']

def writeElements (layout : Layout) : List Json → List Char
  | [] => []
  | v :: rest =>
    writeChars layout v ++
      (if rest.isEmpty then [] else layout.itemSeparator ++ writeElements layout rest)

def writeMembers (layout : Layout) : List (String × Json) → List Char
  | [] => []
  | (key, v) :: rest =>
    writeText layout.asciiOnly key ++ layout.keySeparator ++ writeChars layout v ++
      (if rest.isEmpty then [] else layout.itemSeparator ++ writeMembers layout rest)

end

def write (layout : Layout) (v : Json) : String :=
  String.ofList (v.writeChars layout)

end Json

end StudioQuote
