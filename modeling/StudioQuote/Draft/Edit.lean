import StudioQuote.Draft.Basic
import StudioQuote.Number.Numeral

/-!
# Editing drafts

Steps are added at the end and removed by position. A conditional step can only be
added when a trigger step for its condition is already there. An edit that is refused
leaves the draft as it was.
-/

namespace StudioQuote

open Number

inductive EditError where
  | noTriggerStep
  | notATriggerStep (categoryId : Int)
  | noCondition
  /-- There is no trigger step of an id that has too many digits to be named. -/
  | integerTooLong
  deriving DecidableEq

def EditError.message : EditError → String
  | .noTriggerStep =>
    "At least one trigger step is required before adding a conditional step"
  | .notATriggerStep categoryId =>
    "Condition references category " ++ intText categoryId ++
      ", which is not an earlier trigger step"
  | .noCondition => "A conditional step needs a condition"
  | .integerTooLong => longIntegerMessage

namespace DraftStep

def isTrigger (s : DraftStep) : Bool :=
  s.type = .trigger

end DraftStep

namespace Draft

def hasTriggerStep (d : Draft) : Bool :=
  d.steps.any (·.isTrigger)

def hasTrigger (d : Draft) (categoryId : Int) : Bool :=
  d.steps.any fun s => s.isTrigger && s.category.id == categoryId

def append (d : Draft) (s : DraftStep) : Draft :=
  { d with steps := d.steps ++ [s] }

def addTrigger (d : Draft) (category : DraftCategory) : Draft :=
  d.append { type := .trigger, category }

def addConditional (d : Draft) (category : DraftCategory) (condition : DraftCondition) :
    Except EditError Draft :=
  if !d.hasTriggerStep then .error .noTriggerStep
  else if !d.hasTrigger condition.fieldId then
    if IsShort condition.fieldId then .error (.notATriggerStep condition.fieldId)
    else .error .integerTooLong
  else .ok (d.append { type := .conditional, category, condition := some condition })

theorem addConditional_eq_ok {d added : Draft} {category : DraftCategory}
    {condition : DraftCondition} (h : d.addConditional category condition = .ok added) :
    d.hasTrigger condition.fieldId = true ∧
      added = d.append { type := .conditional, category, condition := some condition } := by
  rw [addConditional] at h
  split at h
  · cases h
  · split at h
    · split at h <;> cases h
    · rename_i hnamed
      cases h
      exact ⟨by simpa using hnamed, rfl⟩

def addCommonFinal (d : Draft) (category : DraftCategory) : Draft :=
  d.append { type := .commonFinal, category }

/-- The draft without the step at a position; a position that no step has removes none. -/
def removeStep (d : Draft) (position : Int) : Draft :=
  if 0 ≤ position then { d with steps := d.steps.eraseIdx position.toNat } else d

/-- Adds a step of any section; only a conditional one has a condition. -/
def addStep (d : Draft) (type : FormSection) (category : DraftCategory)
    (condition : Option DraftCondition) : Except EditError Draft :=
  match type with
  | .trigger => .ok (d.addTrigger category)
  | .conditional =>
    match condition with
    | none => .error .noCondition
    | some condition => d.addConditional category condition
  | .commonFinal => .ok (d.addCommonFinal category)

end Draft

inductive DraftEdit where
  | addTrigger (category : DraftCategory)
  | addConditional (category : DraftCategory) (condition : DraftCondition)
  | addCommonFinal (category : DraftCategory)
  | remove (position : Int)

namespace Draft

def edit (d : Draft) : DraftEdit → Except EditError Draft
  | .addTrigger category => .ok (d.addTrigger category)
  | .addConditional category condition => d.addConditional category condition
  | .addCommonFinal category => .ok (d.addCommonFinal category)
  | .remove position => .ok (d.removeStep position)

/-- The draft after an edit, unchanged if the edit is refused. -/
def edited (d : Draft) (e : DraftEdit) : Draft :=
  match d.edit e with
  | .ok changed => changed
  | .error _ => d

end Draft

end StudioQuote
