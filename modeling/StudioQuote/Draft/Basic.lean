import StudioQuote.Catalogue.Section
import StudioQuote.Json.Reader
import StudioQuote.Json.Writer
import StudioQuote.Reading.Scalar
import StudioQuote.Rule.Reader

/-!
# Form drafts

A draft is the list of steps that a form will have: categories with their items, of
which conditional ones name the answer that opens them. Drafts are written with
camel-case names. They are read with either spelling of a name; when both are there the
camel-case one counts, and it is the one that is missing when neither is.
-/

namespace StudioQuote

open Json Json.Members

structure DraftItem where
  id : Int
  name : String
  price : Int
  description : Option String := none
  deriving DecidableEq

structure DraftCategory where
  id : Int
  name : String
  displayName : String
  description : Option String := none
  productType : ProductType
  items : List DraftItem := []
  deriving DecidableEq

/-- The answer that opens a conditional step: the name of an item of a trigger category. -/
structure DraftCondition where
  fieldId : Int
  fieldName : String
  value : String
  deriving DecidableEq

structure DraftStep where
  type : FormSection
  category : DraftCategory
  condition : Option DraftCondition := none
  deriving DecidableEq

structure Draft where
  shopId : Option Int := none
  shootingCategoryId : Int
  shootingCategoryName : String
  steps : List DraftStep := []
  deriving DecidableEq

namespace DraftItem

def ofMembers (ms : Members) : Reading DraftItem :=
  DraftItem.mk
    <$> ms.required "id" Reader.int
    <*> ms.required "name" Reader.text
    <*> ms.required "price" Reader.int
    <*> ms.optional "description" Reader.text

def read : Reader DraftItem :=
  Reader.record ofMembers

def toJson (i : DraftItem) : Json :=
  .obj [
    ("id", .int i.id),
    ("name", .str i.name),
    ("price", .int i.price),
    ("description", Json.ofOption .str i.description)]

end DraftItem

namespace DraftCategory

def ofMembers (ms : Members) : Reading DraftCategory :=
  DraftCategory.mk
    <$> ms.required "id" Reader.int
    <*> ms.required "name" Reader.text
    <*> ms.required (ms.nameIn "displayName" "display_name") Reader.text
    <*> ms.optional "description" Reader.text
    <*> ms.required (ms.nameIn "productType" "product_type")
      (Reader.name ProductType.ofName?)
    <*> ms.defaulted "items" [] (Reader.list DraftItem.read)

def read : Reader DraftCategory :=
  Reader.record ofMembers

def toJson (c : DraftCategory) : Json :=
  .obj [
    ("id", .int c.id),
    ("name", .str c.name),
    ("displayName", .str c.displayName),
    ("description", Json.ofOption .str c.description),
    ("productType", .str c.productType.name),
    ("items", Json.ofList DraftItem.toJson c.items)]

end DraftCategory

namespace DraftCondition

def ofMembers (ms : Members) : Reading DraftCondition :=
  DraftCondition.mk
    <$> ms.required (ms.nameIn "fieldId" "field_id") Reader.int
    <*> ms.required (ms.nameIn "fieldName" "field_name") Reader.text
    <*> ms.required "value" Reader.text

def read : Reader DraftCondition :=
  Reader.record ofMembers

def toJson (c : DraftCondition) : Json :=
  .obj [
    ("fieldId", .int c.fieldId),
    ("fieldName", .str c.fieldName),
    ("value", .str c.value)]

end DraftCondition

namespace DraftStep

def ofMembers (ms : Members) : Reading DraftStep :=
  DraftStep.mk
    <$> ms.required "type" (Reader.name FormSection.ofName?)
    <*> ms.required "category" DraftCategory.read
    <*> ms.optional "condition" DraftCondition.read

def read : Reader DraftStep :=
  Reader.record ofMembers

def toJson (s : DraftStep) : Json :=
  .obj [
    ("type", .str s.type.name),
    ("category", s.category.toJson),
    ("condition", Json.ofOption DraftCondition.toJson s.condition)]

end DraftStep

namespace Draft

def ofMembers (ms : Members) : Reading Draft :=
  Draft.mk
    <$> ms.optional (ms.nameIn "shopId" "shop_id") Reader.int
    <*> ms.required (ms.nameIn "shootingCategoryId" "shooting_category_id")
      Reader.int
    <*> ms.required (ms.nameIn "shootingCategoryName" "shooting_category_name") Reader.text
    <*> ms.defaulted "steps" [] (Reader.list DraftStep.read)

def read : Reader Draft :=
  Reader.record ofMembers

def toJson (d : Draft) : Json :=
  .obj [
    ("shopId", Json.ofOption .int d.shopId),
    ("shootingCategoryId", .int d.shootingCategoryId),
    ("shootingCategoryName", .str d.shootingCategoryName),
    ("steps", Json.ofList DraftStep.toJson d.steps)]

def toText (d : Draft) : String :=
  d.toJson.write .compact

def ofText (text : String) : Reading Draft :=
  match Json.read .strict text with
  | .error _ => .problem (.str text) .invalidJson
  | .ok v => read v

def empty (shootingCategoryId : Int) (shootingCategoryName : String) (shopId : Option Int) :
    Draft :=
  { shopId, shootingCategoryId, shootingCategoryName }

end Draft

end StudioQuote
