import StudioQuote.Json.Value
import StudioQuote.Number.Numeral
import StudioQuote.Text.Surrogate

/-!
# Reading JSON text

The reader accepts the JSON grammar and the names `NaN`, `Infinity` and `-Infinity`.
Characters below the space are refused inside strings, integers have at most 4300 digits,
and nesting is limited. There are two dialects: in the strict one a half of a surrogate
pair must not stand alone, the limit on digits holds for the whole part of any number, and
empty containers may be nested once more. A text that is nested too deep is malformed
there, and a fault of its own in the loose dialect.
-/

namespace StudioQuote

open Number

namespace Json

structure Dialect where
  isStrict : Bool
  /-- How deep containers may be nested. -/
  depth : Nat

/-- How deep the loose reader goes: what the calls under way leave of the recursion limit of
the program. No record is written with that many levels. -/
structure Nesting where
  depth : Nat
  enough : 16 ≤ depth

instance : Inhabited Nesting :=
  ⟨⟨16, Nat.le_refl 16⟩⟩

def Dialect.loose (n : Nesting) : Dialect := ⟨false, n.depth⟩

def Dialect.strict : Dialect := ⟨true, 200⟩

inductive Container where
  | array
  | object
  deriving DecidableEq

inductive Fault where
  | malformed
  | integerTooLong (digits : Nat)
  | nestedTooDeep (container : Container)
  deriving DecidableEq

def Fault.message : Fault → String
  | .malformed => "malformed JSON"
  | .integerTooLong digits =>
    "Exceeds the limit (" ++ intText maxDigits ++
      " digits) for integer string conversion: value has " ++ intText digits ++
      " digits; use sys.set_int_max_str_digits() to increase the limit"
  | .nestedTooDeep .array =>
    "maximum recursion depth exceeded while decoding a JSON array from a unicode string"
  | .nestedTooDeep .object =>
    "maximum recursion depth exceeded while decoding a JSON object from a unicode string"

def isBlank (c : Char) : Bool :=
  c == ' ' || c == '\t' || c == '\n' || c == '\r'

def skipBlank (cs : List Char) : List Char :=
  cs.dropWhile isBlank

def hexDigit? (c : Char) : Option Nat :=
  if '0' ≤ c ∧ c ≤ '9' then some (c.toNat - 48)
  else if 'a' ≤ c ∧ c ≤ 'f' then some (c.toNat - 87)
  else if 'A' ≤ c ∧ c ≤ 'F' then some (c.toNat - 55)
  else none

def codeUnit? (a b c d : Char) : Option Nat :=
  match hexDigit? a, hexDigit? b, hexDigit? c, hexDigit? d with
  | some a, some b, some c, some d => some (((a * 16 + b) * 16 + c) * 16 + d)
  | _, _, _, _ => none

def shortEscape? : Char → Option Char
  | '"' => some '"'
  | '\\' => some '\\'
  | '/' => some '/'
  | 'b' => some '\x08'
  | 'f' => some '\x0c'
  | 'n' => some '\n'
  | 'r' => some '\r'
  | 't' => some '\t'
  | _ => none

def lowHalf? : List Char → Option Nat
  | '\\' :: 'u' :: a :: b :: c :: d :: _ => (codeUnit? a b c d).filter Text.isLowHalf
  | _ => none

/-- The marked form of a string whose opening quote has been read, and what follows its
closing quote. -/
def readText (isStrict : Bool) : List Char → Option (List Char × List Char)
  | [] => none
  | '"' :: rest => some ([], rest)
  | '\\' :: 'u' :: a :: b :: c :: d :: rest =>
    match codeUnit? a b c d with
    | none => none
    | some u =>
      if Text.isHighHalf u || Text.isLowHalf u then
        match Text.isHighHalf u, lowHalf? rest, rest with
        | true, some v, _ :: _ :: _ :: _ :: _ :: _ :: rest =>
          (readText isStrict rest).map fun r =>
            ((Text.Code.char (Text.ofHalves u v)).marked ++ r.1, r.2)
        | _, _, rest =>
          if isStrict then none
          else (readText isStrict rest).map fun r => ((Text.Code.ofNumber u).marked ++ r.1, r.2)
      else (readText isStrict rest).map fun r => (Char.ofNat u :: r.1, r.2)
  | '\\' :: c :: rest =>
    match shortEscape? c with
    | none => none
    | some x => (readText isStrict rest).map fun r => (x :: r.1, r.2)
  | c :: rest =>
    if c = '\\' ∨ c.toNat < 32 then none
    else (readText isStrict rest).map fun r => (c :: r.1, r.2)

def readString (isStrict : Bool) (cs : List Char) : Except Fault (String × List Char) :=
  match readText isStrict cs with
  | none => .error .malformed
  | some (text, rest) => .ok (String.ofList text, rest)

def readWord : List Char → Option (Json × List Char)
  | 'n' :: 'u' :: 'l' :: 'l' :: rest => some (.null, rest)
  | 't' :: 'r' :: 'u' :: 'e' :: rest => some (.bool true, rest)
  | 'f' :: 'a' :: 'l' :: 's' :: 'e' :: rest => some (.bool false, rest)
  | 'N' :: 'a' :: 'N' :: rest => some (.float .nan, rest)
  | 'I' :: 'n' :: 'f' :: 'i' :: 'n' :: 'i' :: 't' :: 'y' :: rest =>
    some (.float (.infinite false), rest)
  | '-' :: 'I' :: 'n' :: 'f' :: 'i' :: 'n' :: 'i' :: 't' :: 'y' :: rest =>
    some (.float (.infinite true), rest)
  | _ => none

def ofNumeral (d : Dialect) (n : Numeral) : Except Fault Json :=
  if n.isInteger then
    if maxDigits < n.whole.length then .error (.integerTooLong n.whole.length)
    else .ok (.int n.toInt)
  else if d.isStrict && maxDigits < n.whole.length then .error .malformed
  else .ok (.float (Binary64.ofNumeral n))

def readAtom (d : Dialect) (cs : List Char) : Except Fault (Json × List Char) :=
  match readWord cs with
  | some r => .ok r
  | none =>
    match Numeral.read cs with
    | none => .error .malformed
    | some (n, rest) => (ofNumeral d n).map (·, rest)

def Dialect.inside (d : Dialect) (container : Container) : Except Fault Dialect :=
  match d.depth with
  | depth + 1 => .ok { d with depth }
  | 0 => .error (if d.isStrict then .malformed else .nestedTooDeep container)

/-- Whether there may be an empty container, which takes a level in the loose dialect only. -/
def Dialect.checkEmpty (d : Dialect) (container : Container) : Except Fault Unit :=
  if d.isStrict then .ok () else (d.inside container).map fun _ => ()

mutual

/-- The value at the front of a text, and what follows it. Each step into a container
and each element uses up one unit of the first argument. -/
def readValue : Nat → Dialect → List Char → Except Fault (Json × List Char)
  | 0, _, _ => .error .malformed
  | _ + 1, d, '"' :: cs => do
    let (text, rest) ← readString d.isStrict cs
    return (.str text, rest)
  | n + 1, d, '[' :: cs =>
    match skipBlank cs with
    | ']' :: rest => (d.checkEmpty .array).map fun _ => (.arr [], rest)
    | rest => do
      let (vs, rest) ← readElements n (← d.inside .array) rest
      return (.arr vs, rest)
  | n + 1, d, '{' :: cs =>
    match skipBlank cs with
    | '}' :: rest => (d.checkEmpty .object).map fun _ => (.obj [], rest)
    | rest => do
      let (ms, rest) ← readMembers n (← d.inside .object) rest
      return (.obj (lastMembers ms), rest)
  | _ + 1, d, cs => readAtom d cs

def readElements : Nat → Dialect → List Char → Except Fault (List Json × List Char)
  | 0, _, _ => .error .malformed
  | n + 1, d, cs => do
    let (v, rest) ← readValue n d cs
    match skipBlank rest with
    | ',' :: rest =>
      let (vs, rest) ← readElements n d (skipBlank rest)
      return (v :: vs, rest)
    | ']' :: rest => return ([v], rest)
    | _ => .error .malformed

def readMembers : Nat → Dialect → List Char → Except Fault (Members × List Char)
  | 0, _, _ => .error .malformed
  | n + 1, d, '"' :: cs => do
    let (key, rest) ← readString d.isStrict cs
    match skipBlank rest with
    | ':' :: rest =>
      let (v, rest) ← readValue n d (skipBlank rest)
      match skipBlank rest with
      | ',' :: rest =>
        let (ms, rest) ← readMembers n d (skipBlank rest)
        return ((key, v) :: ms, rest)
      | '}' :: rest => return ([(key, v)], rest)
      | _ => .error .malformed
    | _ => .error .malformed
  | _ + 1, _, _ => .error .malformed

end

/-- The value that a whole text in marked form denotes. Every container and every element takes a
character of its own, so twice the length of the text is enough for its depth. -/
def readChars (d : Dialect) (cs : List Char) : Except Fault Json := do
  let (v, rest) ← readValue (2 * cs.length + 2) d (skipBlank cs)
  if skipBlank rest = [] then return v else .error .malformed

def read (d : Dialect) (text : String) : Except Fault Json :=
  readChars d text.toList

end Json

end StudioQuote
