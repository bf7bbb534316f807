import StudioQuote.Campaign
import StudioQuote.Json.Parts
import StudioQuote.Json.Reader
import StudioQuote.Json.Writer
import StudioQuote.Store.Cell

/-!
# Stored rows

The rows of the tables, how records are written to them and how they are read back.
Rows of categories and items hold cells, since a column may have been overwritten with
anything; they are read through the same readers as requests. A rule is stored as text:
no text or an empty one is no rule, and a text that is no JSON is a rule without groups,
which never holds. A text with an integer of too many digits is not read at all.
-/

namespace StudioQuote

open Number

structure ShootingCategoryRow where
  id : Int
  shopId : Int
  name : String
  displayName : String
  sortOrder : Int
  isActive : Bool
  deriving DecidableEq

structure CategoryRow where
  id : Int
  shopId : Cell
  shootingCategoryId : Cell
  name : Cell
  displayName : Cell
  description : Cell
  sortOrder : Cell
  isActive : Cell
  formSection : Cell
  productType : Cell
  rule : Cell
  deriving DecidableEq

structure ItemRow where
  id : Int
  shopId : Cell
  categoryId : Cell
  name : Cell
  price : Cell
  description : Cell
  sortOrder : Cell
  isActive : Cell
  isRequired : Cell
  autoSelect : Cell
  deriving DecidableEq

structure CampaignRow where
  id : Int
  shopId : Int
  name : String
  startDate : String
  endDate : String
  discountType : String
  discountValue : String
  isActive : Bool
  deriving DecidableEq

structure DraftRow where
  shopId : Int
  shootingCategoryId : Int
  text : String
  deriving DecidableEq

/-- The cells that are written for a shooting category. Without an id the table gives it one. -/
def ShootingCategory.cells (c : ShootingCategory) : List Cell :=
  [.ofOption .integer c.id, .ofOption .integer c.shopId, .text c.name, .text c.displayName,
    .integer c.sortOrder, .ofBool c.isActive]

/-- The cells that are written for a campaign. The table gives it an id. -/
def Campaign.cells (c : Campaign) : List Cell :=
  [.ofOption .integer c.shopId, .text c.name, .text c.startDate.text, .text c.endDate.text,
    .text c.discountType.name, .text c.discountValue.text, .ofBool c.isActive]

namespace ShootingCategoryRow

def record (r : ShootingCategoryRow) : ShootingCategory :=
  { id := some r.id
    shopId := some r.shopId
    name := r.name
    displayName := r.displayName
    sortOrder := r.sortOrder
    isActive := r.isActive }

end ShootingCategoryRow

namespace Rule

def toText (r : Rule) : String :=
  r.toStoredJson.write .spaced

/-- The rule that a stored text denotes. A malformed text is a rule without groups; no other
fault is forgiven. -/
def ofText (n : Json.Nesting) (text : String) : Except Json.Fault (Option Rule) :=
  if text = "" then .ok none
  else
    match Json.read (.loose n) text with
    | .ok v => .ok (Rule.load? v)
    | .error .malformed => .ok (some {})
    | .error fault => .error fault

end Rule

namespace CategoryRow

def ofRecord (shopId shootingCategoryId : Int) (c : Category) : CategoryRow :=
  { id := c.id
    shopId := .integer shopId
    shootingCategoryId := .integer shootingCategoryId
    name := .text c.name
    displayName := .text c.displayName
    description := .ofOption .text c.description
    sortOrder := .integer c.sortOrder
    isActive := .ofBool c.isActive
    formSection := .ofOption .text c.formSection
    productType := .ofOption (fun t => .text t.name) c.productType
    rule := .ofOption (fun r => .text r.toText) c.rule }

/-- The cells that are written for a row. -/
def cells (r : CategoryRow) : List Cell :=
  [.integer r.id, r.shopId, r.shootingCategoryId, r.name, r.displayName, r.description,
    r.sortOrder, r.isActive, r.formSection, r.productType, r.rule]

def storedRule (n : Json.Nesting) (r : CategoryRow) : Except Json.Fault (Option Rule) :=
  match r.rule with
  | .text s => Rule.ofText n s
  | _ => .ok none

def read (r : CategoryRow) (rule : Option Rule) : Reading Category :=
  (fun c => { c with rule }) <$>
    Category.ofMembers [
      ("id", .int r.id),
      ("shop_id", r.shopId.toJson),
      ("name", r.name.toJson),
      ("display_name", r.displayName.toJson),
      ("description", r.description.toJson),
      ("sort_order", r.sortOrder.toJson),
      ("is_active", r.isActive.toJson),
      ("form_section", r.formSection.toJson),
      ("product_type", r.productType.toJson)]

def belongsTo (shopId shootingCategoryId : Int) (r : CategoryRow) : Bool :=
  r.shopId == .integer shopId && r.shootingCategoryId == .integer shootingCategoryId

/-- Rows by position in their form, and of rows with one position by id. -/
def le (a b : CategoryRow) : Bool :=
  ((a.sortOrder.compare b.sortOrder).then (compare a.id b.id)).isLE

end CategoryRow

namespace ItemRow

def ofRecord (shopId : Int) (i : Item) : ItemRow :=
  { id := i.id
    shopId := .integer shopId
    categoryId := .integer i.categoryId
    name := .text i.name
    price := .integer i.price
    description := .ofOption .text i.description
    sortOrder := .integer i.sortOrder
    isActive := .ofBool i.isActive
    isRequired := .ofBool i.isRequired
    autoSelect := .ofBool i.autoSelect }

def cells (r : ItemRow) : List Cell :=
  [.integer r.id, r.shopId, r.categoryId, r.name, r.price, r.description, r.sortOrder, r.isActive,
    r.isRequired, r.autoSelect]

def read (r : ItemRow) : Reading Item :=
  Item.ofMembers [
    ("id", .int r.id),
    ("product_category_id", r.categoryId.toJson),
    ("shop_id", r.shopId.toJson),
    ("name", r.name.toJson),
    ("price", r.price.toJson),
    ("description", r.description.toJson),
    ("sort_order", r.sortOrder.toJson),
    ("is_active", r.isActive.toJson),
    ("is_required", r.isRequired.toJson),
    ("auto_select", r.autoSelect.toJson)]

/-- Rows by category, then by position, then by id. -/
def le (a b : ItemRow) : Bool :=
  ((a.categoryId.compare b.categoryId).then
    ((a.sortOrder.compare b.sortOrder).then (compare a.id b.id))).isLE

end ItemRow

namespace CampaignRow

def ofRecord (id shopId : Int) (c : Campaign) : CampaignRow :=
  { id
    shopId
    name := c.name
    startDate := c.startDate.text
    endDate := c.endDate.text
    discountType := c.discountType.name
    discountValue := c.discountValue.text
    isActive := c.isActive }

/-- The campaign of a row and the associations that are stored beside it. -/
def read (r : CampaignRow) (associations : Associations) : Reading Campaign :=
  (fun c => { c with associations }) <$>
    Campaign.ofMembers [
      ("id", .int r.id),
      ("shop_id", .int r.shopId),
      ("name", .str r.name),
      ("start_date", .str r.startDate),
      ("end_date", .str r.endDate),
      ("discount_type", .str r.discountType),
      ("discount_value", .str r.discountValue),
      ("is_active", .bool r.isActive)]

end CampaignRow

end StudioQuote
