import StudioQuote.Catalogue.Section
import StudioQuote.Json.Value
import StudioQuote.Number.Shortest
import StudioQuote.Text.Quoted

/-!
# Labels

What administrators read for the sections of a form and for the product types, and the
control that each product type is rendered with.
-/

namespace StudioQuote

open Number

def FormSection.label : FormSection → String
  | .trigger => "Asked first"
  | .conditional => "Shown when a condition matches"
  | .commonFinal => "Always offered"

def FormSection.description : FormSection → String
  | .trigger => "Choices the customer makes first, such as the shooting course or location"
  | .conditional =>
    "Choices offered only for some answers, such as hair and makeup for studio shoots"
  | .commonFinal =>
    "Add-ons available for every course, such as data delivery or extra albums"

def ProductType.label : ProductType → String
  | .plan => "Pick one (radio buttons)"
  | .optionSingle => "Pick one (dropdown)"
  | .optionMulti => "Pick any (checkboxes)"

def labelCatalogue : Json :=
  .obj [
    ("form_sections", .obj (FormSection.all.map fun s =>
      (s.name, .obj [("label", .str s.label), ("description", .str s.description)]))),
    ("product_types", .obj (ProductType.all.map fun t =>
      (t.name, .obj [("label", .str t.label), ("field_type", .str t.fieldType.name)])))]

namespace Json

mutual

def display : Json → String
  | .null => "None"
  | .bool true => "True"
  | .bool false => "False"
  | .int n => intText n
  | .float x => x.text
  | .str s => Text.quoted s
  | .arr vs => "[" ++ displayElements vs ++ "]"
  | .obj ms => "\x7b" ++ displayMembers ms ++ "\x7d"

def displayElements : List Json → String
  | [] => ""
  | v :: rest => v.display ++ (if rest.isEmpty then "" else ", " ++ displayElements rest)

def displayMembers : List (String × Json) → String
  | [] => ""
  | (key, v) :: rest =>
    Text.quoted key ++ ": " ++ v.display ++
      (if rest.isEmpty then "" else ", " ++ displayMembers rest)

end

end Json

def unknownProductType (v : Json) : String :=
  v.display ++ " is not a valid ProductType"

/-- The control for the product type that a value names. -/
def fieldTypeOf (v : Json) : Except String FieldType :=
  match v with
  | .str s =>
    match ProductType.ofName? s with
    | some t => .ok t.fieldType
    | none => .error (unknownProductType v)
  | _ => .error (unknownProductType v)

end StudioQuote
