import StudioQuote.Text.Printable
import StudioQuote.Text.Surrogate

/-!
# Quoted text

Text is quoted for messages with apostrophes, or with quotation marks when it has an
apostrophe and no quotation mark. A backslash and the chosen quote are escaped, and so
are characters that cannot be printed.
-/

namespace StudioQuote.Text

def hexDigit (n : Nat) : Char :=
  if n < 10 then Char.ofNat (48 + n) else Char.ofNat (87 + n)

/-- The last `width` hexadecimal digits of a number. -/
def hexDigits : Nat → Nat → List Char
  | 0, _ => []
  | width + 1, n => hexDigits width (n / 16) ++ [hexDigit (n % 16)]

/-- A code point as an escape of the least width. -/
def codeEscape (n : Nat) : List Char :=
  if n < 0x100 then '\\' :: 'x' :: hexDigits 2 n
  else if n < 0x10000 then '\\' :: 'u' :: hexDigits 4 n
  else '\\' :: 'U' :: hexDigits 8 n

def quotedChar (mark c : Char) : List Char :=
  if c = mark ∨ c = '\\' then ['\\', c]
  else if c = '\n' then ['\\', 'n']
  else if c = '\r' then ['\\', 'r']
  else if c = '\t' then ['\\', 't']
  else if isPrintable c then [c]
  else codeEscape c.toNat

def quotedCode (mark : Char) : Code → List Char
  | .char c => quotedChar mark c
  | .half i => codeEscape (0xD800 + i)

def apostrophe : Char := '\x27'

/-- The mark that a text is quoted with. -/
def quotationMark (cs : List Char) : Char :=
  if cs.contains apostrophe && !cs.contains '"' then '"' else apostrophe

def quoted (s : String) : String :=
  let mark := quotationMark s.toList
  String.ofList (mark :: (codes s.toList).flatMap (quotedCode mark) ++ [mark])

end StudioQuote.Text
