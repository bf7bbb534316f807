import StudioQuote.Draft.Edit
import StudioQuote.Quote

/-!
# Records of a draft

A draft is flattened into the category and item records of a form, numbered by their
position. The preview compares an answer with the text of the condition. The customer
form records the id of the chosen item, so there the text is taken as the name of an
item of the trigger category; a name that no item has leaves its category open.
-/

namespace StudioQuote

open Json Json.Members Number

structure FormRecords where
  categories : List Category := []
  items : List Item := []
  deriving DecidableEq

namespace FormRecords

def ofMembers (ms : Members) : Reading FormRecords :=
  FormRecords.mk
    <$> ms.defaulted "categories" [] (Reader.list Category.read)
    <*> ms.defaulted "items" [] (Reader.list Item.read)

def read : Reader FormRecords :=
  Reader.record ofMembers

def toJson (r : FormRecords) : Json :=
  .obj [
    ("categories", Json.ofList Category.toJson r.categories),
    ("items", Json.ofList Item.toJson r.items)]

end FormRecords

/-- An empty description is none. -/
def presentText (s : Option String) : Option String :=
  s.filter (· ≠ "")

namespace DraftStep

/-- The gate of a step, as a way to turn conditions into rules says. -/
def rule (gate : DraftCondition → Option Rule) (s : DraftStep) : Option Rule :=
  if s.type = .conditional then s.condition.bind gate else none

/-- Whether the gate of a step can be written: a rule names the field that it is about. -/
def HasShortGate (gate : DraftCondition → Option Rule) (s : DraftStep) : Prop :=
  s.type = .conditional → ∀ c ∈ s.condition, (gate c).isSome → IsShort c.fieldId

instance (gate : DraftCondition → Option Rule) (s : DraftStep) :
    Decidable (s.HasShortGate gate) :=
  inferInstanceAs (Decidable (_ → ∀ c ∈ s.condition, _ → IsShort c.fieldId))

def categoryRecord (shopId : Option Int) (gate : DraftCondition → Option Rule)
    (s : DraftStep × Nat) : Category :=
  { id := s.1.category.id
    shopId
    name := s.1.category.name
    displayName := s.1.category.displayName
    description := presentText s.1.category.description
    sortOrder := s.2
    isActive := true
    formSection := some s.1.type.name
    productType := some s.1.category.productType
    rule := s.1.rule gate }

def itemRecord (shopId : Option Int) (categoryId : Int) (i : DraftItem × Nat) : Item :=
  { id := i.1.id
    categoryId
    shopId
    name := i.1.name
    price := i.1.price
    description := presentText i.1.description
    sortOrder := i.2
    isActive := true
    isRequired := false
    autoSelect := false }

def itemRecords (shopId : Option Int) (s : DraftStep) : List Item :=
  s.category.items.zipIdx.map (itemRecord shopId s.category.id)

end DraftStep

namespace DraftCondition

def textRule (c : DraftCondition) : Option Rule :=
  some (.fieldEquals (answerField c.fieldId) (.text c.value))

/-- The id of the item that a condition names. Of several steps with the category, and of
several items with the name, the last one is meant. -/
def chosenItem? (steps : List DraftStep) (c : DraftCondition) : Option Int :=
  (steps.reverse.find? (·.category.id == c.fieldId)).bind fun s =>
    (s.category.items.reverse.find? (·.name == c.value)).map DraftItem.id

def itemRule (steps : List DraftStep) (c : DraftCondition) : Option Rule :=
  (chosenItem? steps c).map fun id => .fieldEquals (answerField c.fieldId) (.int id)

end DraftCondition

namespace Draft

def records (gate : DraftCondition → Option Rule) (d : Draft) : FormRecords where
  categories := d.steps.zipIdx.map (DraftStep.categoryRecord d.shopId gate)
  items := d.steps.flatMap (DraftStep.itemRecords d.shopId)

/-- The records of a draft, if its gates can be written. -/
def records? (gate : DraftCondition → Option Rule) (d : Draft) : Option FormRecords :=
  if ∀ s ∈ d.steps, s.HasShortGate gate then some (d.records gate) else none

def preview (d : Draft) : FormRecords :=
  d.records DraftCondition.textRule

def customerForm (d : Draft) : FormRecords :=
  d.records (DraftCondition.itemRule d.steps)

def preview? (d : Draft) : Option FormRecords :=
  d.records? DraftCondition.textRule

def customerForm? (d : Draft) : Option FormRecords :=
  d.records? (DraftCondition.itemRule d.steps)

end Draft

end StudioQuote
