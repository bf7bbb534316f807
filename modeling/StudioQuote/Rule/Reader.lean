import StudioQuote.Reading.Scalar
import StudioQuote.Rule.Basic

/-!
# Reading rules

There are two readers. The strict one accepts a rule only as a whole. The lenient one,
for rules that are already stored, reads only the group that will be evaluated and puts
a clause that never holds in the place of each one it cannot read, so that the clauses
beside it keep their meaning. A value that is no object is a rule without groups.

Where a value may be read in several ways, a problem names the way in which it arose.
-/

namespace StudioQuote

open Json Json.Members

namespace Operand

/-- Values are taken as they are: nothing is converted. -/
def scalar? : Json → Option Scalar
  | .bool b => some (.bool b)
  | .int n => some (.int n)
  | .float x => some (.float x)
  | .str s => some (.text s)
  | _ => none

def scalarProblems (v : Json) : List Problem :=
  [("bool", ProblemKind.notABool), ("int", .notAnInt), ("float", .notAFloat), ("str", .notText)].map
    fun way => (Problem.of v way.2).under (.key way.1)

def readScalar : Reader Scalar :=
  fun v =>
    match scalar? v with
    | some s => .ok s
    | none => .failed (scalarProblems v)

def readList : Reader (List Scalar) :=
  Reader.list readScalar

def read : Reader Operand :=
  fun v =>
    match readScalar v, (readList v).under (.key "list[union[bool,int,float,str]]") with
    | .ok s, _ => .ok (.scalar s)
    | .failed _, .ok elements => .ok (.list elements)
    | .failed ps, .failed qs => .failed (ps ++ qs)

end Operand

namespace Condition

def ofMembers (ms : Members) : Reading Condition :=
  Condition.mk
    <$> ms.required "field" Reader.text
    <*> ms.required "operator" Reader.text
    <*> ms.required "value" Operand.read

def read : Reader Condition :=
  Reader.record ofMembers

/-- The condition that stands for a clause that cannot be read. No operator has the
empty name, so it never holds. -/
def unmatchable : Condition :=
  ⟨"", "", .scalar (.text "")⟩

end Condition

namespace Clause

def readGroup : Reader (List Condition) :=
  Reader.record fun ms => ms.required (ms.nameIn "AND" "all_of") (Reader.list Condition.read)

/-- A clause that can be read both ways is a nested group, unless that group is empty. -/
def read : Reader Clause :=
  fun v =>
    match (Condition.read v).under (.key "ConditionItem"),
        (readGroup v).under (.key "NestedAndCondition") with
    | .ok c, .ok [] => .ok (.item c)
    | _, .ok cs => .ok (.group cs)
    | .ok c, .failed _ => .ok (.item c)
    | .failed ps, .failed qs => .failed (ps ++ qs)

def unmatchable : Clause :=
  .item .unmatchable

/-- The clause, or the one that never holds. -/
def load (v : Json) : Clause :=
  (read v).getD unmatchable

/-- A group of clauses; anything that is no list is one clause that never holds. -/
def loadGroup : Json → List Clause
  | .arr elements => elements.map load
  | _ => [unmatchable]

end Clause

namespace Rule

/-- A member that is there and not null, under the first of two names that is there. -/
def given (ms : Members) (first second : String) : Option Json :=
  match ms.lookup (ms.nameIn first second) with
  | some .null => none
  | v => v

/-- The lenient reader. When the first group is given the second one is not looked at. -/
def load : Json → Rule
  | .obj ms =>
    match given ms "AND" "all_of" with
    | some v => { allOf := some (Clause.loadGroup v) }
    | none =>
      match given ms "OR" "any_of" with
      | some v => { anyOf := some (Clause.loadGroup v) }
      | none => {}
  | _ => {}

def ofMembers (ms : Members) : Reading Rule :=
  Rule.mk
    <$> ms.optional (ms.nameIn "AND" "all_of") (Reader.list Clause.read)
    <*> ms.optional (ms.nameIn "OR" "any_of") (Reader.list Clause.read)

/-- The strict reader. -/
def read : Reader Rule :=
  Reader.record ofMembers

/-- A rule that may be missing: null is no rule. -/
def load? : Json → Option Rule
  | .null => none
  | v => some (load v)

end Rule

end StudioQuote
