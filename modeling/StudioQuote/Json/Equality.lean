import StudioQuote.Json.Value

/-!
# Equality of JSON values

Values of different kinds are never strictly equal, and a list is strictly equal to
nothing, not even to itself; neither is the number that is no number. Inside objects the
comparison is by content: there lists are compared element by element, truth values count
as zero and one, the order of members is of no account, and what is no number is the same
everywhere.
-/

namespace StudioQuote

open Number

namespace Json

inductive Kind where
  | null
  | bool
  | number
  | text
  | list
  | object
  deriving DecidableEq

def kind : Json → Kind
  | .null => .null
  | .bool _ => .bool
  | .int _ => .number
  | .float _ => .number
  | .str _ => .text
  | .arr _ => .list
  | .obj _ => .object

def quantity? : Json → Option Quantity
  | .bool b => some (.int (if b then 1 else 0))
  | .int n => some (.int n)
  | .float x => some (.float x)
  | _ => none

/-- Whether two values have equal numbers; no value without a number does. -/
def sameQuantity (v w : Json) : Bool :=
  match v.quantity?, w.quantity? with
  | some a, some b => a.equal b
  | _, _ => false

mutual

/-- Equality by content. -/
def same : Json → Json → Bool
  | .null, .null => true
  | .float .nan, .float .nan => true
  | .str s, .str t => s == t
  | .arr vs, .arr ws => sameElements vs ws
  | .obj ms, .obj ns => ms.length == ns.length && sameMembers ms ns
  | .bool b, w => sameQuantity (.bool b) w
  | .int n, w => sameQuantity (.int n) w
  | .float x, w => sameQuantity (.float x) w
  | _, _ => false

def sameElements : List Json → List Json → Bool
  | [], [] => true
  | v :: vs, w :: ws => same v w && sameElements vs ws
  | _, _ => false

/-- Whether every member of the first list has an equal one of its key in the second. -/
def sameMembers : List (String × Json) → List (String × Json) → Bool
  | [], _ => true
  | (key, v) :: ms, ns =>
    (match ns.lookup key with
      | some w => same v w
      | none => false) && sameMembers ms ns

end

/-- Equality without coercion. -/
def strictlyEqual (v w : Json) : Bool :=
  v.kind != .list && w.kind != .list && v.kind == w.kind &&
    (if v.kind = .number then sameQuantity v w else same v w)

end Json

end StudioQuote
