/-!
# Sections and product types

The section of a form in which a category is offered, the way in which a customer
chooses among its items, and the control that a form renders for it.
-/

namespace StudioQuote

inductive FormSection where
  | trigger
  | conditional
  | commonFinal
  deriving DecidableEq

namespace FormSection

def all : List FormSection := [.trigger, .conditional, .commonFinal]

def name : FormSection → String
  | .trigger => "trigger"
  | .conditional => "conditional"
  | .commonFinal => "common_final"

def ofName? (s : String) : Option FormSection :=
  all.find? (·.name == s)

theorem ofName?_name (s : FormSection) : ofName? s.name = some s := by
  cases s <;> decide

end FormSection

inductive ProductType where
  | plan
  | optionSingle
  | optionMulti
  deriving DecidableEq

namespace ProductType

def all : List ProductType := [.plan, .optionSingle, .optionMulti]

def name : ProductType → String
  | .plan => "plan"
  | .optionSingle => "option_single"
  | .optionMulti => "option_multi"

def ofName? (s : String) : Option ProductType :=
  all.find? (·.name == s)

theorem ofName?_name (t : ProductType) : ofName? t.name = some t := by
  cases t <;> decide

end ProductType

inductive FieldType where
  | radio
  | select
  | checkbox
  deriving DecidableEq

def FieldType.name : FieldType → String
  | .radio => "radio"
  | .select => "select"
  | .checkbox => "checkbox"

def ProductType.fieldType : ProductType → FieldType
  | .plan => .radio
  | .optionSingle => .select
  | .optionMulti => .checkbox

end StudioQuote
