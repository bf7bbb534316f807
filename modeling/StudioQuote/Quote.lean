import StudioQuote.Campaign
import StudioQuote.Visibility

/-!
# Quotes

The item that a customer picks first in a trigger category is the answer to the field
of that category, unless an answer to it is given explicitly. The answers decide which
sections are visible; selections in hidden sections are not charged, and items of
visible ones that select themselves are.
-/

namespace StudioQuote

open Json Json.Members Number

/-- The form field under which the answer to a trigger category is recorded. Only an id of few
enough digits can be written. -/
def answerField (categoryId : Int) : String :=
  "category_" ++ intText categoryId

/-- A published form with the campaigns that may apply to it. -/
structure PublishedForm where
  categories : List Category := []
  items : List Item := []
  campaigns : List Campaign := []
  deriving DecidableEq

namespace PublishedForm

def ofMembers (ms : Members) : Reading PublishedForm :=
  PublishedForm.mk
    <$> ms.defaulted "categories" [] (Reader.list Category.read)
    <*> ms.defaulted "items" [] (Reader.list Item.read)
    <*> ms.defaulted "campaigns" [] (Reader.list Campaign.read)

def read : Reader PublishedForm :=
  Reader.record ofMembers

def toJson (f : PublishedForm) : Json :=
  .obj [
    ("categories", Json.ofList Category.toJson f.categories),
    ("items", Json.ofList Item.toJson f.items),
    ("campaigns", Json.ofList Campaign.toJson f.campaigns)]

end PublishedForm

namespace Answers

def triggerIds (categories : List Category) : List Int :=
  (categories.filter (·.isIn .trigger)).map Category.id

/-- The items of a selection that are answers. -/
def picks (categories : List Category) (selected : List Item) : List Item :=
  selected.filter fun i => (triggerIds categories).contains i.categoryId

def entry (i : Item) : String × Json :=
  (answerField i.categoryId, .int i.id)

/-- The answers that a selection gives: one per trigger category, its first item. -/
def recorded (categories : List Category) (selected : List Item) : Answers :=
  ((picks categories selected).map entry).eraseDupsBy (fun a b => a.1 == b.1)

/-- The recorded answers, with explicit ones in their place. -/
def ofSelection (categories : List Category) (selected : List Item) (values : Answers) :
    Answers :=
  values ++ (recorded categories selected).filter fun a => (values.lookup a.1).isNone

/-- Whether the field of each item that is an answer can be written. -/
def HaveShortFields (categories : List Category) (selected : List Item) : Prop :=
  ∀ i ∈ picks categories selected, IsShort i.categoryId

instance (categories : List Category) (selected : List Item) :
    Decidable (HaveShortFields categories selected) :=
  inferInstanceAs (Decidable (∀ i ∈ picks categories selected, IsShort i.categoryId))

/-- The answers, if their fields can be written. -/
def ofSelection? (categories : List Category) (selected : List Item) (values : Answers) :
    Option Answers :=
  if HaveShortFields categories selected then some (ofSelection categories selected values)
  else none

end Answers

inductive QuoteFault where
  /-- The field of a selected item cannot be written. -/
  | fieldTooLong
  | amount (fault : AmountFault)
  deriving DecidableEq

structure Quote where
  sections : VisibleSections
  selectedItemIds : List Int
  price : PriceBreakdown
  deriving DecidableEq

namespace Quote

def answers (form : PublishedForm) (values : Answers) (ids : List Int) : Answers :=
  Answers.ofSelection form.categories (Item.resolve ids form.items) values

/-- The selected ids whose items stand in the visible categories, with the items added
that select themselves. -/
def pricedIds (items : List Item) (visible ids : List Int) : List Int :=
  Item.withAutoSelected
    (((Item.resolve ids items).filter fun i => visible.contains i.categoryId).map Item.id)
    visible items

/-- The quote of a form for sections that are already known. -/
def ofSections (form : PublishedForm) (sections : VisibleSections) (ids : List Int)
    (shootingCategoryId : Option Int) (today : Date) (rate : Decimal) : Quote :=
  let priced := pricedIds form.items (sections.categories.map Category.id) ids
  { sections
    selectedItemIds := priced
    price := PriceBreakdown.ofSelection (Item.resolve priced form.items) form.campaigns
      shootingCategoryId today rate }

def build (form : PublishedForm) (values : Answers) (ids : List Int)
    (shootingCategoryId : Option Int) (today : Date) (rate : Decimal) : Quote :=
  ofSections form (VisibleSections.group form.categories (answers form values ids)) ids
    shootingCategoryId today rate

def answers? (form : PublishedForm) (values : Answers) (ids : List Int) : Option Answers :=
  Answers.ofSelection? form.categories (Item.resolve ids form.items) values

/-- The quote of a form, if its answers can be written and its price can be computed. -/
def build? (form : PublishedForm) (values : Answers) (ids : List Int)
    (shootingCategoryId : Option Int) (today : Date) (rate : Decimal) :
    Except QuoteFault Quote :=
  match answers? form values ids with
  | none => .error .fieldTooLong
  | some answers => do
    let sections := VisibleSections.group form.categories answers
    let selectedItemIds := pricedIds form.items (sections.categories.map Category.id) ids
    let price ← (PriceBreakdown.ofSelection? (Item.resolve selectedItemIds form.items)
      form.campaigns shootingCategoryId today rate).mapError .amount
    return { sections, selectedItemIds, price }

def ofMembers (ms : Members) : Reading Quote :=
  Quote.mk
    <$> ms.required "sections" VisibleSections.read
    <*> ms.required "selected_item_ids" (Reader.list Reader.int)
    <*> ms.required "price" PriceBreakdown.read

def read : Reader Quote :=
  Reader.record ofMembers

def toJson (q : Quote) : Json :=
  .obj [
    ("sections", q.sections.toJson),
    ("selected_item_ids", Json.ofList .int q.selectedItemIds),
    ("price", q.price.toJson)]

end Quote

end StudioQuote
