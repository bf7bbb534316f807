import StudioQuote.Json.Value

/-!
# Conditional rules

A rule has a group of clauses that must all hold, or a group of which one must hold.
A clause is a single condition or a group of conditions that must all hold; groups
nest no deeper. The operator of a condition is kept as it is written, so that a rule
with an operator nobody knows is kept too; such a condition never holds.
-/

namespace StudioQuote

open Number

/-- A value that a condition compares with, or an element of a list of them. -/
inductive Scalar where
  | bool (b : Bool)
  | int (n : Int)
  | float (x : Binary64)
  | text (s : String)
  deriving DecidableEq

inductive Operand where
  | scalar (s : Scalar)
  | list (elements : List Scalar)
  deriving DecidableEq

/-- A comparison of the answer to one field with a fixed value. -/
structure Condition where
  field : String
  operator : String
  value : Operand
  deriving DecidableEq

inductive Clause where
  | item (condition : Condition)
  | group (conditions : List Condition)
  deriving DecidableEq

structure Rule where
  allOf : Option (List Clause) := none
  anyOf : Option (List Clause) := none
  deriving DecidableEq

def Scalar.toJson : Scalar → Json
  | .bool b => .bool b
  | .int n => .int n
  | .float x => .float x
  | .text s => .str s

def Operand.toJson : Operand → Json
  | .scalar s => s.toJson
  | .list elements => Json.ofList Scalar.toJson elements

def Condition.toJson (c : Condition) : Json :=
  .obj [("field", .str c.field), ("operator", .str c.operator), ("value", c.value.toJson)]

def Clause.toJson : Clause → Json
  | .item condition => condition.toJson
  | .group conditions => .obj [("AND", Json.ofList Condition.toJson conditions)]

namespace Rule

def toJson (r : Rule) : Json :=
  .obj [("AND", Json.ofOption (Json.ofList Clause.toJson) r.allOf),
    ("OR", Json.ofOption (Json.ofList Clause.toJson) r.anyOf)]

/-- The member of a group that is present. -/
def groupMember (key : String) : Option (List Clause) → Json.Members
  | none => []
  | some clauses => [(key, Json.ofList Clause.toJson clauses)]

/-- The rule with the groups it has. -/
def toStoredJson (r : Rule) : Json :=
  .obj (groupMember "AND" r.allOf ++ groupMember "OR" r.anyOf)

def fieldEquals (field : String) (value : Scalar) : Rule :=
  { allOf := some [.item ⟨field, "=", .scalar value⟩] }

end Rule

end StudioQuote
