import StudioQuote.Catalogue.Section
import StudioQuote.Reading.Scalar
import StudioQuote.Rule.Reader

/-!
# Catalogue records

Shooting categories, the product categories of their forms, and the items on offer.
Each record is read from JSON with defaults for what may be left out, and written with
every field. A rule is read leniently, so that a bad one never makes its category
unreadable; a section that is none of the known ones is kept by its name.
-/

namespace StudioQuote

open Json Json.Members

structure ShootingCategory where
  id : Option Int := none
  shopId : Option Int := none
  name : String
  displayName : String
  sortOrder : Int := 0
  isActive : Bool := true
  deriving DecidableEq

structure Category where
  id : Int
  shopId : Option Int := none
  name : String := ""
  displayName : String := ""
  description : Option String := none
  sortOrder : Int := 0
  isActive : Bool := true
  formSection : Option String := none
  productType : Option ProductType := none
  rule : Option Rule := none
  deriving DecidableEq

structure Item where
  id : Int
  categoryId : Int
  shopId : Option Int := none
  name : String := ""
  price : Int
  description : Option String := none
  sortOrder : Int := 0
  isActive : Bool := true
  isRequired : Bool := false
  autoSelect : Bool := false
  deriving DecidableEq

namespace ShootingCategory

def ofMembers (ms : Members) : Reading ShootingCategory :=
  ShootingCategory.mk
    <$> ms.optional "id" Reader.int
    <*> ms.optional "shop_id" Reader.int
    <*> ms.required "name" Reader.text
    <*> ms.required "display_name" Reader.text
    <*> ms.defaulted "sort_order" 0 Reader.int
    <*> ms.defaulted "is_active" true Reader.bool

def read : Reader ShootingCategory :=
  Reader.record ofMembers

def toJson (c : ShootingCategory) : Json :=
  .obj [
    ("id", Json.ofOption .int c.id),
    ("shop_id", Json.ofOption .int c.shopId),
    ("name", .str c.name),
    ("display_name", .str c.displayName),
    ("sort_order", .int c.sortOrder),
    ("is_active", .bool c.isActive)]

end ShootingCategory

namespace Category

def readRule : Reader (Option Rule) :=
  fun v => .ok (Rule.load? v)

def ofMembers (ms : Members) : Reading Category :=
  Category.mk
    <$> ms.required "id" Reader.int
    <*> ms.optional "shop_id" Reader.int
    <*> ms.defaulted "name" "" Reader.text
    <*> ms.defaulted "display_name" "" Reader.text
    <*> ms.optional "description" Reader.text
    <*> ms.defaulted "sort_order" 0 Reader.int
    <*> ms.defaulted "is_active" true Reader.bool
    <*> ms.optional "form_section" Reader.text
    <*> ms.optional "product_type" (Reader.name ProductType.ofName?)
    <*> ms.defaulted "conditional_rule" none readRule

def read : Reader Category :=
  Reader.record ofMembers

def toJson (c : Category) : Json :=
  .obj [
    ("id", .int c.id),
    ("shop_id", Json.ofOption .int c.shopId),
    ("name", .str c.name),
    ("display_name", .str c.displayName),
    ("description", Json.ofOption .str c.description),
    ("sort_order", .int c.sortOrder),
    ("is_active", .bool c.isActive),
    ("form_section", Json.ofOption .str c.formSection),
    ("product_type", Json.ofOption (fun t => .str t.name) c.productType),
    ("conditional_rule", Json.ofOption Rule.toJson c.rule)]

end Category

namespace Item

def ofMembers (ms : Members) : Reading Item :=
  Item.mk
    <$> ms.required "id" Reader.int
    <*> ms.required "product_category_id" Reader.int
    <*> ms.optional "shop_id" Reader.int
    <*> ms.defaulted "name" "" Reader.text
    <*> ms.required "price" Reader.int
    <*> ms.optional "description" Reader.text
    <*> ms.defaulted "sort_order" 0 Reader.int
    <*> ms.defaulted "is_active" true Reader.bool
    <*> ms.defaulted "is_required" false Reader.bool
    <*> ms.defaulted "auto_select" false Reader.bool

def read : Reader Item :=
  Reader.record ofMembers

def toJson (i : Item) : Json :=
  .obj [
    ("id", .int i.id),
    ("product_category_id", .int i.categoryId),
    ("shop_id", Json.ofOption .int i.shopId),
    ("name", .str i.name),
    ("price", .int i.price),
    ("description", Json.ofOption .str i.description),
    ("sort_order", .int i.sortOrder),
    ("is_active", .bool i.isActive),
    ("is_required", .bool i.isRequired),
    ("auto_select", .bool i.autoSelect)]

end Item

end StudioQuote
