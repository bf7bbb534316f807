import StudioQuote.Json.Value
import StudioQuote.Number.Numeral
import StudioQuote.Text.Surrogate

/-!
# What stands in a value

The integers and the texts of a value, at any depth. A value can only be written when its
integers are short, and its text can only be stored when its texts consist of characters.
-/

namespace StudioQuote

namespace Json

open Number

mutual

/-- A value and all the values in it. -/
def parts : Json → List Json
  | .arr elements => .arr elements :: partsOfElements elements
  | .obj members => .obj members :: partsOfMembers members
  | v => [v]

def partsOfElements : List Json → List Json
  | [] => []
  | v :: rest => parts v ++ partsOfElements rest

def partsOfMembers : List (String × Json) → List Json
  | [] => []
  | (_, v) :: rest => parts v ++ partsOfMembers rest

end

def int? : Json → Option Int
  | .int n => some n
  | _ => none

/-- A text, or the keys of an object. -/
def ownTexts : Json → List String
  | .str s => [s]
  | .obj members => members.map Prod.fst
  | _ => []

def integers (v : Json) : List Int :=
  v.parts.filterMap int?

/-- All texts in a value, the keys of its objects among them. -/
def texts (v : Json) : List String :=
  v.parts.flatMap ownTexts

def HasShortIntegers (v : Json) : Prop :=
  ∀ n ∈ v.integers, IsShort n

instance (v : Json) : Decidable v.HasShortIntegers :=
  inferInstanceAs (Decidable (∀ n ∈ v.integers, IsShort n))

end Json

end StudioQuote
