import StudioQuote.Catalogue.Record
import StudioQuote.Reading.Date
import StudioQuote.Selection

/-!
# Discount campaigns

At most one campaign applies to a selection: the first one in the given order that is
running and is associated with a selected item, with its category, or with the shooting
category while anything is selected. The discount is taken off before tax. A percentage
is rounded down; a fixed amount is not capped by the subtotal.
-/

namespace StudioQuote

open Json Json.Members Number

inductive DiscountType where
  | percentage
  | fixed
  deriving DecidableEq

namespace DiscountType

def all : List DiscountType := [.percentage, .fixed]

def name : DiscountType → String
  | .percentage => "percentage"
  | .fixed => "fixed"

def ofName? (s : String) : Option DiscountType :=
  all.find? (·.name == s)

theorem ofName?_name (t : DiscountType) : ofName? t.name = some t := by
  cases t <;> decide

end DiscountType

structure Associations where
  shootingCategoryIds : List Int := []
  categoryIds : List Int := []
  itemIds : List Int := []
  deriving DecidableEq

structure Campaign where
  id : Option Int := none
  shopId : Option Int := none
  name : String := ""
  discountType : DiscountType
  discountValue : Decimal
  startDate : Date
  endDate : Date
  isActive : Bool := true
  associations : Associations := {}
  deriving DecidableEq

namespace Associations

def ofMembers (ms : Members) : Reading Associations :=
  Associations.mk
    <$> ms.defaulted "shooting_category_ids" [] (Reader.list Reader.int)
    <*> ms.defaulted "product_category_ids" [] (Reader.list Reader.int)
    <*> ms.defaulted "item_ids" [] (Reader.list Reader.int)

def read : Reader Associations :=
  Reader.record ofMembers

def toJson (a : Associations) : Json :=
  .obj [
    ("shooting_category_ids", Json.ofList .int a.shootingCategoryIds),
    ("product_category_ids", Json.ofList .int a.categoryIds),
    ("item_ids", Json.ofList .int a.itemIds)]

end Associations

namespace Campaign

def ofMembers (ms : Members) : Reading Campaign :=
  Campaign.mk
    <$> ms.optional "id" Reader.int
    <*> ms.optional "shop_id" Reader.int
    <*> ms.defaulted "name" "" Reader.text
    <*> ms.required "discount_type" (Reader.name DiscountType.ofName?)
    <*> ms.required "discount_value" Reader.decimal
    <*> ms.required "start_date" Reader.date
    <*> ms.required "end_date" Reader.date
    <*> ms.defaulted "is_active" true Reader.bool
    <*> ms.defaulted "associations" {} Associations.read

def read : Reader Campaign :=
  Reader.record ofMembers

def toJson (c : Campaign) : Json :=
  .obj [
    ("id", Json.ofOption .int c.id),
    ("shop_id", Json.ofOption .int c.shopId),
    ("name", .str c.name),
    ("discount_type", .str c.discountType.name),
    ("discount_value", .str c.discountValue.text),
    ("start_date", .str c.startDate.text),
    ("end_date", .str c.endDate.text),
    ("is_active", .bool c.isActive),
    ("associations", c.associations.toJson)]

/-- Whether a campaign is active on a day between its two dates, both included. -/
def isRunning (today : Date) (c : Campaign) : Bool :=
  c.isActive && c.startDate.le today && today.le c.endDate

def matchesSelection (selected : List Item) (shootingCategoryId : Option Int) (c : Campaign) :
    Bool :=
  selected.any fun i =>
    c.associations.itemIds.contains i.id || c.associations.categoryIds.contains i.categoryId ||
      shootingCategoryId.any c.associations.shootingCategoryIds.contains

def isEligible (selected : List Item) (shootingCategoryId : Option Int) (today : Date)
    (c : Campaign) : Bool :=
  c.isRunning today && c.matchesSelection selected shootingCategoryId

def firstEligible (selected : List Item) (campaigns : List Campaign)
    (shootingCategoryId : Option Int) (today : Date) : Option Campaign :=
  campaigns.find? (·.isEligible selected shootingCategoryId today)

def discount (subtotal : Int) (c : Campaign) : Int :=
  match c.discountType with
  | .percentage => ((Decimal.ofInt subtotal).mul c.discountValue).hundredth.floor
  | .fixed => c.discountValue.truncate

def checkDiscount (subtotal : Int) (c : Campaign) : Except AmountFault Unit :=
  match c.discountType with
  | .percentage =>
    if ((Decimal.ofInt subtotal).mul c.discountValue).isTooLarge then .error .overflow else .ok ()
  | .fixed => .ok ()

end Campaign

def discountOf (subtotal : Int) (campaign : Option Campaign) : Int :=
  (campaign.map (·.discount subtotal)).getD 0

structure PriceBreakdown where
  subtotal : Int
  discount : Int
  tax : Int
  total : Int
  appliedCampaign : Option Campaign := none
  deriving DecidableEq

namespace PriceBreakdown

def ofSubtotal (subtotal : Int) (campaign : Option Campaign) (rate : Decimal) : PriceBreakdown :=
  let discount := discountOf subtotal campaign
  let total := applyTax (subtotal - discount) rate
  { subtotal, discount, tax := total - (subtotal - discount), total, appliedCampaign := campaign }

def check (subtotal : Int) (campaign : Option Campaign) (rate : Decimal) :
    Except AmountFault Unit := do
  campaign.forM (·.checkDiscount subtotal)
  checkTax (subtotal - discountOf subtotal campaign) rate

def ofSelection (selected : List Item) (campaigns : List Campaign)
    (shootingCategoryId : Option Int) (today : Date) (rate : Decimal) : PriceBreakdown :=
  ofSubtotal (Item.subtotal selected)
    (Campaign.firstEligible selected campaigns shootingCategoryId today) rate

/-- The price of selected items, if it can be computed. -/
def ofSelection? (selected : List Item) (campaigns : List Campaign)
    (shootingCategoryId : Option Int) (today : Date) (rate : Decimal) :
    Except AmountFault PriceBreakdown := do
  check (Item.subtotal selected)
    (Campaign.firstEligible selected campaigns shootingCategoryId today) rate
  return ofSelection selected campaigns shootingCategoryId today rate

def ofMembers (ms : Members) : Reading PriceBreakdown :=
  PriceBreakdown.mk
    <$> ms.required "subtotal" Reader.int
    <*> ms.required "discount" Reader.int
    <*> ms.required "tax" Reader.int
    <*> ms.required "total" Reader.int
    <*> ms.optional "applied_campaign" Campaign.read

def read : Reader PriceBreakdown :=
  Reader.record ofMembers

def toJson (p : PriceBreakdown) : Json :=
  .obj [
    ("subtotal", .int p.subtotal),
    ("discount", .int p.discount),
    ("tax", .int p.tax),
    ("total", .int p.total),
    ("applied_campaign", Json.ofOption Campaign.toJson p.appliedCampaign)]

end PriceBreakdown

end StudioQuote
