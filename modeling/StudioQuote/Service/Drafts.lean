import StudioQuote.Draft.Records
import StudioQuote.Service.Catalogue

/-!
# Draft and quote operations

A draft is edited by loading it, changing it and storing it again, and it is published
by checking it and replacing the form of its shop and shooting category by its records. A
draft is written before the store is asked, and this fails on a half of a surrogate pair.
A quote is computed on the published form and the active campaigns of the shop.
-/

namespace StudioQuote

open Number

def Failure.ofQuote : QuoteFault → Failure
  | .fieldTooLong => .integerTooLong
  | .amount fault => .amount fault

namespace Session

def getDraft (shopId shootingCategoryId : Int) : Session (Option Draft) := do
  let text ← query .drafts [shopId, shootingCategoryId] (·.draftText? shopId shootingCategoryId)
  match text with
  | none => pure none
  | some text => return some (← reading (Draft.ofText text))

def deleteDraft (shopId shootingCategoryId : Int) : Session Unit :=
  write .statement .drafts [shopId, shootingCategoryId] (·.deleteDraft shopId shootingCategoryId)

def putDraftText (shopId shootingCategoryId : Int) (text : String) : Session Unit :=
  attempt .statement .drafts [.integer shopId, .integer shootingCategoryId, .text text] fun s =>
    .ok ((), s.putDraftText shopId shootingCategoryId text)

/-- The text of a draft, unless there is a text in it that has no bytes. -/
def draftText (d : Draft) : Session String :=
  match d.toJson.texts.find? (!Text.isPlain ·) with
  | none => pure d.toText
  | some text => throw (.draftUnencodable text)

/-- Stores a draft under the shop and the shooting category that it names. -/
def saveDraft (d : Draft) : Session Draft := do
  match d.shopId with
  | none => throw .shopMissing
  | some shopId =>
    putDraftText shopId d.shootingCategoryId (← draftText d)
    pure d

def loadDraft (shopId shootingCategoryId : Int) : Session Draft := do
  match ← getDraft shopId shootingCategoryId with
  | some d => pure d
  | none => throw (.draftMissing shopId shootingCategoryId)

/-- The name of a new draft: the given one, or else that of its shooting category. -/
def newDraftName (shopId shootingCategoryId : Int) (name : String) : Session String := do
  if name ≠ "" then pure name
  else
    let category ← getShootingCategory shopId shootingCategoryId
    pure ((category.map ShootingCategory.displayName).getD "")

/-- The stored draft, or a new one that is not stored yet. -/
def loadOrInitDraft (shopId shootingCategoryId : Int) (name : String) : Session Draft := do
  match ← getDraft shopId shootingCategoryId with
  | some d => pure d
  | none =>
    let name ← newDraftName shopId shootingCategoryId name
    pure (Draft.empty shootingCategoryId name (some shopId))

def addStep (shopId shootingCategoryId : Int) (type : FormSection) (category : DraftCategory)
    (condition : Option DraftCondition) : Session Draft := do
  let d ← loadOrInitDraft shopId shootingCategoryId ""
  let d ← edit (d.addStep type category condition)
  saveDraft d

def removeStep (shopId shootingCategoryId : Int) (position : Int) : Session Draft := do
  let d ← loadDraft shopId shootingCategoryId
  saveDraft (d.removeStep position)

/-- The records of the stored draft. -/
def previewDraft (shopId shootingCategoryId : Int) : Session FormRecords := do
  let d ← loadDraft shopId shootingCategoryId
  writable d.preview?

/-- Publishes the stored draft, if it has no defects, and gives its records. -/
def publish (shopId shootingCategoryId : Int) : Session FormRecords := do
  let d ← loadDraft shopId shootingCategoryId
  if !d.isValid then throw (.draftInvalid d.defects)
  let records ← writable d.customerForm?
  replacePublishedForm shopId shootingCategoryId records.categories records.items
  pure records

/-- The published form with the items of its categories and the active campaigns. -/
def loadForm (n : Json.Nesting) (shopId shootingCategoryId : Int) : Session PublishedForm := do
  let categories ← listCategories n shopId (some shootingCategoryId)
  let items ← listItems shopId none
  let campaigns ← listCampaigns shopId
  let ids := categories.map Category.id
  pure {
    categories
    items := items.filter fun i => ids.contains i.categoryId
    campaigns := campaigns.filter Campaign.isActive }

def quote (n : Json.Nesting) (shopId shootingCategoryId : Int) (values : Answers)
    (selected : List Int) (today : Date) (rate : Decimal) : Session Quote := do
  let form ← loadForm n shopId shootingCategoryId
  match Quote.build? form values selected (some shootingCategoryId) today rate with
  | .ok q => pure q
  | .error fault => throw (.ofQuote fault)

def setCategoryColumn (id : Int) (column : String) (c : Cell) : Session Unit :=
  attempt .statement .productCategories [c, .integer id] fun s =>
    (s.setCategoryColumn id column c).map ((), ·)

def setItemColumn (id : Int) (column : String) (c : Cell) : Session Unit :=
  attempt .statement .items [c, .integer id] fun s =>
    (s.setItemColumn id column c).map ((), ·)

end Session

end StudioQuote
