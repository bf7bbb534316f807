import StudioQuote.Json.Equality
import StudioQuote.Rule.Basic

/-!
# Evaluating rules against answers

Everything fails closed: a condition on a field without an answer does not hold,
whatever its operator, and neither does one with an unknown operator or with a value
that the operator cannot compare. An empty group that must hold entirely holds; an
empty group of alternatives does not; a rule without groups never holds.
-/

namespace StudioQuote

open Number

abbrev Answers := Json.Members

inductive Operator where
  | eq
  | ne
  | isIn
  | notIn
  | gt
  | ge
  | lt
  | le
  deriving DecidableEq

namespace Operator

def ofName? : String → Option Operator
  | "=" => some .eq
  | "!=" => some .ne
  | "IN" => some .isIn
  | "NOT_IN" => some .notIn
  | ">" => some .gt
  | ">=" => some .ge
  | "<" => some .lt
  | "<=" => some .le
  | _ => none

end Operator

/-- The number that a value is; truth values are none. -/
def Json.number? : Json → Option Quantity
  | .int n => some (.int n)
  | .float x => some (.float x)
  | _ => none

namespace Operand

def contains (v : Json) (elements : List Scalar) : Bool :=
  elements.any fun s => v.strictlyEqual s.toJson

end Operand

def Json.order? (v w : Json) : Option Ordering :=
  match v.number?, w.number? with
  | some a, some b => a.compare? b
  | _, _ => none

namespace Operator

def holds (answer : Json) (expected : Operand) : Operator → Bool
  | .eq => answer.strictlyEqual expected.toJson
  | .ne => !answer.strictlyEqual expected.toJson
  | .isIn =>
    match expected with
    | .list elements => Operand.contains answer elements
    | .scalar _ => false
  | .notIn =>
    match expected with
    | .list elements => !Operand.contains answer elements
    | .scalar _ => false
  | .gt => (answer.order? expected.toJson).any (· == .gt)
  | .ge => (answer.order? expected.toJson).any (· != .lt)
  | .lt => (answer.order? expected.toJson).any (· == .lt)
  | .le => (answer.order? expected.toJson).any (· != .gt)

end Operator

namespace Condition

def holds (answers : Answers) (c : Condition) : Bool :=
  match answers.lookup c.field, Operator.ofName? c.operator with
  | some answer, some operator => operator.holds answer c.value
  | _, _ => false

end Condition

namespace Clause

def holds (answers : Answers) : Clause → Bool
  | .item condition => condition.holds answers
  | .group conditions => conditions.all (·.holds answers)

end Clause

namespace Rule

/-- Whether the answers satisfy a rule: its first group decides if it has one. -/
def holds (answers : Answers) (r : Rule) : Bool :=
  match r.allOf, r.anyOf with
  | some clauses, _ => clauses.all (·.holds answers)
  | none, some clauses => clauses.any (·.holds answers)
  | none, none => false

end Rule

end StudioQuote
