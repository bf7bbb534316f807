import StudioQuote.Number.Numeral

/-!
# Calendar days

Days of the Gregorian calendar in the years 1 to 9999, their text `YYYY-MM-DD`, and
their number counted from the first day of 1970.
-/

namespace StudioQuote

open Number

def isLeapYear (year : Nat) : Bool :=
  year % 4 == 0 && (year % 100 != 0 || year % 400 == 0)

def daysInMonth (year month : Nat) : Nat :=
  if month = 2 then (if isLeapYear year then 29 else 28)
  else if month = 4 ∨ month = 6 ∨ month = 9 ∨ month = 11 then 30
  else 31

def IsCalendarDay (year month day : Nat) : Prop :=
  (1 ≤ year ∧ year ≤ 9999) ∧ (1 ≤ month ∧ month ≤ 12) ∧ 1 ≤ day ∧ day ≤ daysInMonth year month

instance (year month day : Nat) : Decidable (IsCalendarDay year month day) :=
  inferInstanceAs (Decidable (_ ∧ _ ∧ _))

structure Date where
  year : Nat
  month : Nat
  day : Nat
  isCalendarDay : IsCalendarDay year month day
  deriving DecidableEq

namespace Date

def ofParts? (year month day : Nat) : Option Date :=
  if h : IsCalendarDay year month day then some ⟨year, month, day, h⟩ else none

/-- Whether a day is not after another one. -/
def le (a b : Date) : Bool :=
  a.year < b.year ||
    (a.year == b.year && (a.month < b.month || (a.month == b.month && a.day ≤ b.day)))

/-- The last `width` decimal digits of a number. -/
def fixedDigits : Nat → Nat → List Char
  | 0, _ => []
  | width + 1, n => fixedDigits width (n / 10) ++ [Nat.digitChar (n % 10)]

def textChars (d : Date) : List Char :=
  fixedDigits 4 d.year ++ '-' :: fixedDigits 2 d.month ++ '-' :: fixedDigits 2 d.day

def text (d : Date) : String :=
  String.ofList d.textChars

/-- The value of exactly `width` digits at the front of a text, and what follows them. -/
def readFixed (width : Nat) (cs : List Char) : Option (Nat × List Char) :=
  let ds := cs.take width
  if ds.length = width ∧ ds.all Char.isDigit then some (digitsValue ds, cs.drop width) else none

/-- Whether there is a day in the calendar continued back to the year 0. -/
def isExtendedDay (year month day : Nat) : Bool :=
  1 ≤ month && month ≤ 12 && 1 ≤ day && day ≤ daysInMonth year month

/-- A year, a month and a day at the front of a text, and what follows them. The year
may be 0. -/
def readParts (cs : List Char) : Option ((Nat × Nat × Nat) × List Char) :=
  match readFixed 4 cs with
  | some (year, '-' :: rest) =>
    match readFixed 2 rest with
    | some (month, '-' :: rest) =>
      match readFixed 2 rest with
      | some (day, rest) =>
        if isExtendedDay year month day then some ((year, month, day), rest) else none
      | none => none
    | _ => none
  | _ => none

/-- The year, month and day with the given number, from the year 0 on. The count runs
over years that begin in March and over cycles of 400 years, which have 146097 days. -/
def partsOfNumber (n : Int) : Nat × Nat × Nat :=
  let shifted := n + 719468
  let cycle := shifted / 146097
  let dayOfCycle := (shifted % 146097).toNat
  let yearOfCycle :=
    (dayOfCycle - dayOfCycle / 1460 + dayOfCycle / 36524 - dayOfCycle / 146096) / 365
  let dayOfYear := dayOfCycle - (365 * yearOfCycle + yearOfCycle / 4 - yearOfCycle / 100)
  let march := (5 * dayOfYear + 2) / 153
  let day := dayOfYear - (153 * march + 2) / 5 + 1
  let month := if march < 10 then march + 3 else march - 9
  let year := cycle * 400 + yearOfCycle + (if month ≤ 2 then 1 else 0)
  (year.toNat, month, day)

end Date

end StudioQuote
