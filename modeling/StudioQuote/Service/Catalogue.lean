import StudioQuote.Service.Session

/-!
# Catalogue and campaign operations

Records are written row by row and read back through their readers. A campaign and its
associations are written together or not at all, and so is a form: what cannot be stored in
it is noticed when its old rows are deleted already.
-/

namespace StudioQuote

namespace Session

/-- Creates the tables where there are none. -/
def initSchema : Session Unit := do
  match ← get with
  | .unopenable => throw (.storage .schemaSetup .cannotOpen)
  | .blank => set (Database.ready .empty)
  | .ready _ => pure ()

def createShootingCategory (c : ShootingCategory) (draws : List Nat) :
    Session ShootingCategory := do
  let id ← attempt .statement .shootingCategories c.cells (·.insertShootingCategory c draws)
  pure { c with id := some id }

def listShootingCategories (shopId : Int) : Session (List ShootingCategory) :=
  query .shootingCategories [shopId] fun s =>
    (s.shootingCategoriesOf shopId).map ShootingCategoryRow.record

def getShootingCategory (shopId id : Int) : Session (Option ShootingCategory) :=
  query .shootingCategories [shopId, id] fun s =>
    (s.shootingCategory? shopId id).map ShootingCategoryRow.record

/-- The category of a row. Its rule is read first. -/
def readCategory (n : Json.Nesting) (r : CategoryRow) : Session Category :=
  match r.storedRule n with
  | .error fault => throw (.ruleUnreadable fault)
  | .ok rule => reading (r.read rule)

def listCategories (n : Json.Nesting) (shopId : Int) (shootingCategoryId : Option Int) :
    Session (List Category) := do
  let rows ← query .productCategories (shopId :: shootingCategoryId.toList)
    (·.categoriesOf shopId shootingCategoryId)
  rows.mapM (readCategory n)

def listItems (shopId : Int) (categoryId : Option Int) : Session (List Item) := do
  let rows ← query .items (shopId :: categoryId.toList) (·.itemsOf shopId categoryId)
  rows.mapM fun r => reading r.read

def listCampaigns (shopId : Int) : Session (List Campaign) := do
  let rows ← query .campaigns [shopId] fun s =>
    (s.campaignsOf shopId).map fun r => (r, s.associationsOf r.id)
  rows.mapM fun r => reading (r.1.read r.2)

def associate (add : Store → Int → Int → Store) (campaignId : Int) (ids : List Int) :
    Session Unit :=
  ids.forM fun id =>
    write .campaignCreation .campaigns [campaignId, id] (add · campaignId id)

/-- Stores a campaign under a new id, whatever id it had. -/
def createCampaign (c : Campaign) : Session Campaign :=
  transaction do
    let id ← attempt .campaignCreation .campaigns c.cells (·.insertCampaign c)
    associate Store.associateShootingCategory id c.associations.shootingCategoryIds
    associate Store.associateCategory id c.associations.categoryIds
    associate Store.associateItem id c.associations.itemIds
    pure { c with id := some id }

def insertCategoryRow (row : CategoryRow) : Session Unit :=
  attempt .formPublishing .productCategories row.cells fun s =>
    (s.insertCategory row).map ((), ·)

def insertItemRow (row : ItemRow) : Session Unit :=
  attempt .formPublishing .items row.cells fun s => (s.insertItem row).map ((), ·)

/-- The rows of the categories of a form, if their rules can be written. -/
def categoryRows? (shopId shootingCategoryId : Int) (categories : List Category) :
    Option (List CategoryRow) :=
  if ∀ c ∈ categories, ∀ r ∈ c.rule, r.toStoredJson.HasShortIntegers then
    some (categories.map (.ofRecord shopId shootingCategoryId))
  else none

/-- Replaces the categories and items of a form. Its old rows are deleted first, so that
a clash of ids can only be with another form or within the new one. All rules are written
before the first row is. -/
def replacePublishedForm (shopId shootingCategoryId : Int) (categories : List Category)
    (items : List Item) : Session Unit :=
  relabelled relabel <| transaction do
    write .formPublishing .items [shopId, shootingCategoryId]
      (·.deleteFormItems shopId shootingCategoryId)
    write .formPublishing .productCategories [shopId, shootingCategoryId]
      (·.deleteFormCategories shopId shootingCategoryId)
    let rows ← writable (categoryRows? shopId shootingCategoryId categories)
    rows.forM insertCategoryRow
    (items.map (ItemRow.ofRecord shopId)).forM insertItemRow
where
  relabel : Failure → Failure
    | .storage .formPublishing (.idTaken table) =>
      .publishConflict shootingCategoryId (.idTaken table)
    | e => e

end Session

end StudioQuote
