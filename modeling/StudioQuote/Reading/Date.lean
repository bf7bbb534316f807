import StudioQuote.Calendar
import StudioQuote.Reading.Scalar

/-!
# Reading calendar days

A day is given as `YYYY-MM-DD`, as a moment at midnight in the same form with a time
and an optional offset, or as a count of seconds since the beginning of 1970. A moment
that is not midnight is no day.
-/

namespace StudioQuote

open Number

/-- A time of day; the offset that may follow it does not change the day. -/
structure TimeOfDay where
  hour : Nat
  minute : Nat
  second : Nat
  microsecond : Nat
  deriving DecidableEq

namespace TimeOfDay

def midnight : TimeOfDay := ⟨0, 0, 0, 0⟩

/-- The seconds after a point or a comma, of which six places count. -/
def readFraction : List Char → Option (Nat × List Char)
  | c :: cs =>
    if c = '.' ∨ c = ',' then
      match digits cs with
      | ([], _) => none
      | (ds, rest) => some (digitsValue ((ds ++ List.replicate 6 '0').take 6), rest)
    else some (0, c :: cs)
  | [] => some (0, [])

/-- The seconds and their fraction, both of which may be left out. -/
def readSeconds : List Char → Option ((Nat × Nat) × List Char)
  | ':' :: cs =>
    match Date.readFixed 2 cs with
    | some (second, rest) =>
      if second < 60 then (readFraction rest).map fun r => ((second, r.1), r.2) else none
    | none => none
  | cs => some ((0, 0), cs)

/-- Whether the rest of a text is an offset of less than a day, or nothing. -/
def isOffset : List Char → Bool
  | [] => true
  | ['Z'] => true
  | ['z'] => true
  | sign :: cs =>
    (sign == '+' || sign == '-' || sign == '\u2212') &&
      match Date.readFixed 2 cs with
      | none => false
      | some (hours, rest) =>
        match Date.readFixed 2 (if rest.head? = some ':' then rest.tail else rest) with
        | some (minutes, []) => minutes < 60 && hours < 24
        | _ => false

def readChars? (cs : List Char) : Option TimeOfDay :=
  match Date.readFixed 2 cs with
  | some (hour, ':' :: rest) =>
    match Date.readFixed 2 rest with
    | some (minute, rest) =>
      match readSeconds rest with
      | some ((second, microsecond), rest) =>
        if hour < 24 ∧ minute < 60 ∧ isOffset rest then
          some ⟨hour, minute, second, microsecond⟩
        else none
      | none => none
    | none => none
  | _ => none

end TimeOfDay

namespace Reader

/-- The seconds and microseconds of a count; a large count is one of milliseconds. -/
def secondsOfCount (count : Int) (microseconds : Nat) : Int × Nat :=
  let (seconds, micros) :=
    if 20000000000 < count.natAbs then
      (count / 1000, (count % 1000).toNat * 1000 + microseconds)
    else (count, microseconds)
  (seconds + (micros / 1000000 : Nat), micros % 1000000)

/-- A day of the calendar. The year 0 can be written, but its days are not supported. -/
def dateOfParts (v : Json) (parts : Nat × Nat × Nat) : Reading Date :=
  match Date.ofParts? parts.1 parts.2.1 parts.2.2 with
  | some d => .ok d
  | none => .problem v .unsupportedDate

/-- The day that begins at a moment between the years 0 and 9999. -/
def dateOfMoment (v : Json) (seconds : Int) (microseconds : Nat) : Reading Date :=
  if seconds < -62167219200 ∨ 253402300799 < seconds then .problem v .unreadableDate
  else if seconds % 86400 ≠ 0 ∨ microseconds ≠ 0 then .problem v .inexactDate
  else dateOfParts v (Date.partsOfNumber (seconds / 86400))

def dateOfCount (v : Json) (count : Int) (microseconds : Nat) : Reading Date :=
  dateOfMoment v (secondsOfCount count microseconds).1 (secondsOfCount count microseconds).2

def magnitude (x : Binary64) : Nat :=
  (x.units?.getD 0).natAbs

/-- A part of a second, given in the smallest units, in microseconds. The part and its
product with a million are values of the format, and a half of a microsecond rounds up. -/
def microsecondsOf (units : Nat) : Nat :=
  let part := magnitude (Binary64.ofRatio false units Binary64.unit)
  let product := magnitude (Binary64.ofRatio false (part * 1000000) Binary64.unit)
  (2 * product + Binary64.unit) / (2 * Binary64.unit)

/-- A count of seconds with a fraction. -/
def dateOfFloat (v : Json) (x : Binary64) : Reading Date :=
  match x.units? with
  | none => .problem v .unreadableDate
  | some u =>
    dateOfCount v (u / Binary64.unit) (microsecondsOf (u % Binary64.unit).toNat)

/-- A count of seconds as an integer, which must not be beyond all floating-point values. -/
def dateOfInt (n : Int) : Reading Date :=
  if (Binary64.ofDecimal (n < 0) n.natAbs 0).isFinite then dateOfCount (.int n) n 0
  else .problem (.int n) .notADate

/-- A count of seconds written out, with an optional sign. One with a point may have an
exponent and is a floating-point value. -/
def dateOfCountText (v : Json) (cs : List Char) : Reading Date :=
  let (negative, rest) := Numeral.readSign cs
  match digits rest with
  | (whole, []) =>
    if whole = [] then .problem v .unreadableDate
    else dateOfCount v (signed negative (digitsValue whole)) 0
  | (_, '.' :: _) =>
    match Decimal.readUnsigned negative rest with
    | some d => dateOfFloat v (Binary64.ofDecimal negative d.coefficient d.exponent)
    | none => .problem v .unreadableDate
  | _ => .problem v .unreadableDate

def isMomentMark (c : Char) : Bool :=
  c == 'T' || c == 't' || c == ' ' || c == '_'

def dateOfChars (v : Json) (cs : List Char) : Reading Date :=
  match Date.readParts cs with
  | some (parts, []) => dateOfParts v parts
  | some (parts, mark :: rest) =>
    if isMomentMark mark then
      match TimeOfDay.readChars? rest with
      | some time => if time = .midnight then dateOfParts v parts else .problem v .inexactDate
      | none => .problem v .unreadableDate
    else .problem v .unreadableDate
  | none => dateOfCountText v cs

def date : Reader Date
  | .str s => ofText s fun s => dateOfChars (.str s) s.toList
  | .int n => dateOfInt n
  | .float x => dateOfFloat (.float x) x
  | v => .problem v .notADate

end Reader

end StudioQuote
