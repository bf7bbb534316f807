import StudioQuote.Store.Row

/-!
# The store

One value holds all tables. Ids of shooting categories, product categories and items
are unique over all shops; campaigns are numbered from one, and a number is given once.
Each write is a function on the store that either gives the changed store or says why
the table refuses it.
-/

namespace StudioQuote

open Number

inductive Table where
  | shootingCategories
  | productCategories
  | items
  | campaigns
  | drafts
  deriving DecidableEq

def Table.name : Table → String
  | .shootingCategories => "shooting_categories"
  | .productCategories => "product_categories"
  | .items => "items"
  | .campaigns => "campaigns"
  | .drafts => "form_builder_data"

inductive StorageFault where
  | cannotOpen
  | noTable (table : Table)
  | valueMissing (table : Table) (column : String)
  | idTaken (table : Table)
  | notAnId
  /-- There is no id left for a row. -/
  | full
  deriving DecidableEq

def StorageFault.message : StorageFault → String
  | .cannotOpen => "unable to open database file"
  | .noTable table => "no such table: " ++ table.name
  | .valueMissing table column =>
    "NOT NULL constraint failed: " ++ table.name ++ "." ++ column
  | .idTaken table => "UNIQUE constraint failed: " ++ table.name ++ ".id"
  | .notAnId => "datatype mismatch"
  | .full => "database or disk is full"

/-- An id of a campaign with an id that it is associated with. -/
abbrev AssociationRow := Int × Int

structure Store where
  shootingCategories : List ShootingCategoryRow := []
  categories : List CategoryRow := []
  items : List ItemRow := []
  campaigns : List CampaignRow := []
  lastCampaignId : Int := 0
  shootingAssociations : List AssociationRow := []
  categoryAssociations : List AssociationRow := []
  itemAssociations : List AssociationRow := []
  drafts : List DraftRow := []
  deriving DecidableEq

namespace Store

def empty : Store := {}

/-- The largest id that a row can have. -/
def maxId : Int := 2 ^ (63 : Nat) - 1

/-- The id that the engine makes of a number that it draws at random. -/
def drawnId (draw : Nat) : Int :=
  (draw % 2 ^ (62 : Nat) : Nat) + 1

/-- The id of a row that is stored without one: the next after the largest id. When that one is
the last there is, it is the first id drawn that is not taken. -/
def nextId? (ids : List Int) (draws : List Nat) : Option Int :=
  match ids.max? with
  | none => some 1
  | some n => if n < maxId then some (n + 1) else (draws.map drawnId).find? (!ids.contains ·)

/-- Adds a shooting category under the given id, or under the next one. -/
def insertShootingCategory (s : Store) (c : ShootingCategory) (draws : List Nat) :
    Except StorageFault (Int × Store) :=
  let ids := s.shootingCategories.map ShootingCategoryRow.id
  match c.id.or (nextId? ids draws) with
  | none => .error .full
  | some id =>
    match c.shopId with
    | none => .error (.valueMissing .shootingCategories "shop_id")
    | some shopId =>
      if ids.contains id then .error (.idTaken .shootingCategories)
      else
        let row := ⟨id, shopId, c.name, c.displayName, c.sortOrder, c.isActive⟩
        .ok (id, { s with shootingCategories := s.shootingCategories ++ [row] })

/-- The active shooting categories of a shop by position, then by id. -/
def shootingCategoriesOf (s : Store) (shopId : Int) : List ShootingCategoryRow :=
  (s.shootingCategories.filter fun r => r.shopId == shopId && r.isActive).mergeSort fun a b =>
    ((compare a.sortOrder b.sortOrder).then (compare a.id b.id)).isLE

def shootingCategory? (s : Store) (shopId id : Int) : Option ShootingCategoryRow :=
  s.shootingCategories.find? fun r => r.shopId == shopId && r.id == id

/-- The categories of a shop, or of one of its shooting categories, in order. -/
def categoriesOf (s : Store) (shopId : Int) (shootingCategoryId : Option Int) :
    List CategoryRow :=
  (s.categories.filter fun r =>
    r.shopId == .integer shopId &&
      shootingCategoryId.all fun id => r.shootingCategoryId == .integer id).mergeSort
    CategoryRow.le

def itemsOf (s : Store) (shopId : Int) (categoryId : Option Int) : List ItemRow :=
  (s.items.filter fun r =>
    r.shopId == .integer shopId && categoryId.all fun id => r.categoryId == .integer id).mergeSort
    ItemRow.le

def deleteFormItems (s : Store) (shopId shootingCategoryId : Int) : Store :=
  let ids := (s.categories.filter (·.belongsTo shopId shootingCategoryId)).map CategoryRow.id
  { s with items := s.items.filter fun r => !ids.any fun id => r.categoryId == .integer id }

def deleteFormCategories (s : Store) (shopId shootingCategoryId : Int) : Store :=
  { s with categories := s.categories.filter fun r => !r.belongsTo shopId shootingCategoryId }

def insertCategory (s : Store) (row : CategoryRow) : Except StorageFault Store :=
  if s.categories.any (·.id == row.id) then .error (.idTaken .productCategories)
  else .ok { s with categories := s.categories ++ [row] }

def insertItem (s : Store) (row : ItemRow) : Except StorageFault Store :=
  if s.items.any (·.id == row.id) then .error (.idTaken .items)
  else .ok { s with items := s.items ++ [row] }

def insertCampaign (s : Store) (c : Campaign) : Except StorageFault (Int × Store) :=
  let id := s.lastCampaignId + 1
  if maxId < id then .error .full
  else
    match c.shopId with
    | none => .error (.valueMissing .campaigns "shop_id")
    | some shopId =>
      .ok (id, { s with
        campaigns := s.campaigns ++ [.ofRecord id shopId c]
        lastCampaignId := id })

def associateShootingCategory (s : Store) (campaignId id : Int) : Store :=
  { s with shootingAssociations := s.shootingAssociations ++ [(campaignId, id)] }

def associateCategory (s : Store) (campaignId id : Int) : Store :=
  { s with categoryAssociations := s.categoryAssociations ++ [(campaignId, id)] }

def associateItem (s : Store) (campaignId id : Int) : Store :=
  { s with itemAssociations := s.itemAssociations ++ [(campaignId, id)] }

def associated (rows : List AssociationRow) (campaignId : Int) : List Int :=
  (rows.filter (·.1 == campaignId)).map Prod.snd

def associationsOf (s : Store) (campaignId : Int) : Associations :=
  { shootingCategoryIds := associated s.shootingAssociations campaignId
    categoryIds := associated s.categoryAssociations campaignId
    itemIds := associated s.itemAssociations campaignId }

/-- The campaigns of a shop in the order in which they were created. -/
def campaignsOf (s : Store) (shopId : Int) : List CampaignRow :=
  s.campaigns.filter (·.shopId == shopId)

def hasKey (shopId shootingCategoryId : Int) (r : DraftRow) : Bool :=
  r.shopId == shopId && r.shootingCategoryId == shootingCategoryId

def draftText? (s : Store) (shopId shootingCategoryId : Int) : Option String :=
  (s.drafts.find? (hasKey shopId shootingCategoryId)).map DraftRow.text

def deleteDraft (s : Store) (shopId shootingCategoryId : Int) : Store :=
  { s with drafts := s.drafts.filter fun r => !hasKey shopId shootingCategoryId r }

def putDraftText (s : Store) (shopId shootingCategoryId : Int) (text : String) : Store :=
  let s := s.deleteDraft shopId shootingCategoryId
  { s with drafts := s.drafts ++ [⟨shopId, shootingCategoryId, text⟩] }

end Store

end StudioQuote
