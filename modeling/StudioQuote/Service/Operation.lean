import StudioQuote.Service.Drafts

/-!
# Operations and runs

Every request to the service is an operation, and every outcome is an answer or a
failure. A run performs operations one after the other; one that fails does not stop it.
An operation comes with what is not its caller's: how deep stored rules are read, and what
the engine draws when it has run out of ids.
-/

namespace StudioQuote

open Number

inductive Operation where
  | initSchema
  | createShootingCategory (category : ShootingCategory) (draws : List Nat)
  | listShootingCategories (shopId : Int)
  | getShootingCategory (shopId id : Int)
  | createCampaign (campaign : Campaign)
  | listCampaigns (shopId : Int)
  | listCategories (nesting : Json.Nesting) (shopId : Int) (shootingCategoryId : Option Int)
  | listItems (shopId : Int) (categoryId : Option Int)
  | replacePublishedForm (shopId shootingCategoryId : Int) (categories : List Category)
      (items : List Item)
  | getDraft (shopId shootingCategoryId : Int)
  | deleteDraft (shopId shootingCategoryId : Int)
  | loadDraft (shopId shootingCategoryId : Int)
  | loadOrInitDraft (shopId shootingCategoryId : Int) (name : String)
  | saveDraft (draft : Draft)
  | addStep (shopId shootingCategoryId : Int) (type : FormSection) (category : DraftCategory)
      (condition : Option DraftCondition)
  | removeStep (shopId shootingCategoryId position : Int)
  | validateDraft (shopId shootingCategoryId : Int)
  | previewDraft (shopId shootingCategoryId : Int)
  | publish (shopId shootingCategoryId : Int)
  | loadForm (nesting : Json.Nesting) (shopId shootingCategoryId : Int)
  | quote (nesting : Json.Nesting) (shopId shootingCategoryId : Int) (values : Answers)
      (selected : List Int) (today : Date) (rate : Decimal)
  | setCategoryColumn (id : Int) (column : String) (value : Cell)
  | setItemColumn (id : Int) (column : String) (value : Cell)
  | putDraftText (shopId shootingCategoryId : Int) (text : String)

inductive Answer where
  | done
  | shootingCategory (category : ShootingCategory)
  | shootingCategories (categories : List ShootingCategory)
  | foundShootingCategory (category : Option ShootingCategory)
  | campaign (campaign : Campaign)
  | campaigns (campaigns : List Campaign)
  | categories (categories : List Category)
  | items (items : List Item)
  | draft (draft : Draft)
  | foundDraft (draft : Option Draft)
  | report (report : DraftReport)
  | records (records : FormRecords)
  | form (form : PublishedForm)
  | quote (quote : Quote)

def Answer.toJson : Answer → Json
  | .done => .null
  | .shootingCategory c => c.toJson
  | .shootingCategories cs => Json.ofList ShootingCategory.toJson cs
  | .foundShootingCategory c => Json.ofOption ShootingCategory.toJson c
  | .campaign c => c.toJson
  | .campaigns cs => Json.ofList Campaign.toJson cs
  | .categories cs => Json.ofList Category.toJson cs
  | .items is => Json.ofList Item.toJson is
  | .draft d => d.toJson
  | .foundDraft d => Json.ofOption Draft.toJson d
  | .report r => r.toJson
  | .records r => r.toJson
  | .form f => f.toJson
  | .quote q => q.toJson

namespace Operation

def perform : Operation → Session Answer
  | .initSchema => do Session.initSchema; pure .done
  | .createShootingCategory c draws =>
    .shootingCategory <$> Session.createShootingCategory c draws
  | .listShootingCategories shopId =>
    .shootingCategories <$> Session.listShootingCategories shopId
  | .getShootingCategory shopId id =>
    .foundShootingCategory <$> Session.getShootingCategory shopId id
  | .createCampaign c => .campaign <$> Session.createCampaign c
  | .listCampaigns shopId => .campaigns <$> Session.listCampaigns shopId
  | .listCategories n shopId form => .categories <$> Session.listCategories n shopId form
  | .listItems shopId categoryId => .items <$> Session.listItems shopId categoryId
  | .replacePublishedForm shopId form categories items => do
    Session.replacePublishedForm shopId form categories items; pure .done
  | .getDraft shopId form => .foundDraft <$> Session.getDraft shopId form
  | .deleteDraft shopId form => do Session.deleteDraft shopId form; pure .done
  | .loadDraft shopId form => .draft <$> Session.loadDraft shopId form
  | .loadOrInitDraft shopId form name => .draft <$> Session.loadOrInitDraft shopId form name
  | .saveDraft d => .draft <$> Session.saveDraft d
  | .addStep shopId form type category condition =>
    .draft <$> Session.addStep shopId form type category condition
  | .removeStep shopId form position => .draft <$> Session.removeStep shopId form position
  | .validateDraft shopId form => (fun d => .report d.report) <$> Session.loadDraft shopId form
  | .previewDraft shopId form => .records <$> Session.previewDraft shopId form
  | .publish shopId form => .records <$> Session.publish shopId form
  | .loadForm n shopId form => .form <$> Session.loadForm n shopId form
  | .quote n shopId form values selected today rate =>
    .quote <$> Session.quote n shopId form values selected today rate
  | .setCategoryColumn id column value => do
    Session.setCategoryColumn id column value; pure .done
  | .setItemColumn id column value => do Session.setItemColumn id column value; pure .done
  | .putDraftText shopId form text => do Session.putDraftText shopId form text; pure .done

def run (op : Operation) (db : Database) : Except Failure Answer × Database :=
  op.perform.run db

def runAll : List Operation → Database → List (Except Failure Answer) × Database
  | [], db => ([], db)
  | op :: ops, db =>
    let (outcome, db) := op.run db
    let (outcomes, db) := runAll ops db
    (outcome :: outcomes, db)

end Operation

end StudioQuote
