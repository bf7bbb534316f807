import StudioQuote.Draft.Basic
import StudioQuote.Quote

/-!
# Bodies of requests and responses

What clients send to the service and what they get, apart from the records themselves. A
rule is taken as it is sent, so that a malformed one is evaluated like a stored one.
Answers may hold numbers that are not finite; written out, these are null.
-/

namespace StudioQuote

open Json Json.Members

/-- A rule to evaluate; null is no rule. -/
structure RuleRequest where
  rule : Option Json.Members
  values : Answers := []

structure SectionsRequest where
  categories : List Category
  values : Answers := []

structure PriceRequest where
  selectedItemIds : List Int := []
  items : List Item := []
  campaigns : List Campaign := []
  shootingCategoryId : Option Int := none
  today : Option Date := none

structure QuoteRequest where
  values : Answers := []
  selectedItemIds : List Int := []

structure StepRequest where
  type : FormSection
  category : DraftCategory
  condition : Option DraftCondition := none

structure RuleVerdict where
  result : Bool

structure DraftRefusal where
  detail : String
  errors : List String := []

namespace RuleRequest

def ofMembers (ms : Members) : Reading RuleRequest :=
  RuleRequest.mk
    <$> ms.required "rule" (Reader.nullable Reader.dictionary)
    <*> ms.defaulted "values" [] Reader.dictionary

def read : Reader RuleRequest :=
  Reader.record ofMembers

def toJson (r : RuleRequest) : Json :=
  .obj [("rule", Json.ofOption (fun ms => (Json.obj ms).finitePart) r.rule),
    ("values", (Json.obj r.values).finitePart)]

def holds (r : RuleRequest) : Bool :=
  r.rule.any fun ms => (Rule.load (.obj ms)).holds r.values

end RuleRequest

namespace SectionsRequest

def ofMembers (ms : Members) : Reading SectionsRequest :=
  SectionsRequest.mk
    <$> ms.required "categories" (Reader.list Category.read)
    <*> ms.defaulted "values" [] Reader.dictionary

def read : Reader SectionsRequest :=
  Reader.record ofMembers

def toJson (r : SectionsRequest) : Json :=
  .obj [("categories", Json.ofList Category.toJson r.categories),
    ("values", (Json.obj r.values).finitePart)]

end SectionsRequest

namespace PriceRequest

def ofMembers (ms : Members) : Reading PriceRequest :=
  PriceRequest.mk
    <$> ms.defaulted "selected_item_ids" [] (Reader.list Reader.int)
    <*> ms.defaulted "items" [] (Reader.list Item.read)
    <*> ms.defaulted "campaigns" [] (Reader.list Campaign.read)
    <*> ms.optional "shooting_category_id" Reader.int
    <*> ms.optional "today" Reader.date

def read : Reader PriceRequest :=
  Reader.record ofMembers

def toJson (r : PriceRequest) : Json :=
  .obj [
    ("selected_item_ids", Json.ofList .int r.selectedItemIds),
    ("items", Json.ofList Item.toJson r.items),
    ("campaigns", Json.ofList Campaign.toJson r.campaigns),
    ("shooting_category_id", Json.ofOption .int r.shootingCategoryId),
    ("today", Json.ofOption (fun d => .str (Date.text d)) r.today)]

/-- The price on the requested day, or today when none is requested. -/
def price? (r : PriceRequest) (today : Date) (rate : Number.Decimal) :
    Except AmountFault PriceBreakdown :=
  PriceBreakdown.ofSelection? (Item.resolve r.selectedItemIds r.items) r.campaigns
    r.shootingCategoryId (r.today.getD today) rate

end PriceRequest

namespace QuoteRequest

def ofMembers (ms : Members) : Reading QuoteRequest :=
  QuoteRequest.mk
    <$> ms.defaulted "values" [] Reader.dictionary
    <*> ms.defaulted "selected_item_ids" [] (Reader.list Reader.int)

def read : Reader QuoteRequest :=
  Reader.record ofMembers

def toJson (r : QuoteRequest) : Json :=
  .obj [("values", (Json.obj r.values).finitePart),
    ("selected_item_ids", Json.ofList .int r.selectedItemIds)]

end QuoteRequest

namespace StepRequest

def ofMembers (ms : Members) : Reading StepRequest :=
  StepRequest.mk
    <$> ms.required "type" (Reader.name FormSection.ofName?)
    <*> ms.required "category" DraftCategory.read
    <*> ms.optional "condition" DraftCondition.read

def read : Reader StepRequest :=
  Reader.record ofMembers

def toJson (r : StepRequest) : Json :=
  .obj [
    ("type", .str r.type.name),
    ("category", r.category.toJson),
    ("condition", Json.ofOption DraftCondition.toJson r.condition)]

end StepRequest

namespace RuleVerdict

def ofMembers (ms : Members) : Reading RuleVerdict :=
  RuleVerdict.mk <$> ms.required "result" Reader.bool

def read : Reader RuleVerdict :=
  Reader.record ofMembers

def toJson (r : RuleVerdict) : Json :=
  .obj [("result", .bool r.result)]

end RuleVerdict

namespace DraftRefusal

def ofMembers (ms : Members) : Reading DraftRefusal :=
  DraftRefusal.mk
    <$> ms.required "detail" Reader.text
    <*> ms.defaulted "errors" [] (Reader.list Reader.text)

def read : Reader DraftRefusal :=
  Reader.record ofMembers

def toJson (r : DraftRefusal) : Json :=
  .obj [("detail", .str r.detail), ("errors", Json.ofList .str r.errors)]

end DraftRefusal

end StudioQuote
