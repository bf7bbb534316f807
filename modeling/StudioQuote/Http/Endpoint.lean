import StudioQuote.Catalogue.Labels
import StudioQuote.Http.Body
import StudioQuote.Http.Path
import StudioQuote.Service.Operation
import StudioQuote.Text.Upper

/-!
# Endpoints

An endpoint is a method on a route. It turns the parameters of the path and the body of
a request into a command: an answer that needs no store, an operation, or a refusal. All
problems of the path are reported before those of the body.
-/

namespace StudioQuote

namespace Http

open Number

inductive Method where
  | get
  | post
  | put
  | delete
  deriving DecidableEq

/-- The method of a name in any case. -/
def Method.ofName? (name : String) : Option Method :=
  match Text.upper name with
  | "GET" => some .get
  | "POST" => some .post
  | "PUT" => some .put
  | "DELETE" => some .delete
  | _ => none

inductive Endpoint where
  | health
  | labels
  | evaluateRule
  | visibleSections
  | price
  | shootingCategories
  | form
  | quote
  | draft
  | saveDraft
  | addStep
  | removeStep
  | validateDraft
  | previewDraft
  | publish
  | createShootingCategory
  | campaigns
  | createCampaign
  deriving DecidableEq

/-- What an endpoint asks for. A failure is known before the store is asked. -/
inductive Command where
  | reply (body : Json)
  | perform (op : Operation)
  | fail (e : Failure)
  | refuseMismatch

structure Conditions where
  taxRate : Decimal := standardTaxRate
  today : Date
  /-- The id of a request that brings none. -/
  freshId : String
  /-- How deep bodies are read. -/
  bodyNesting : Json.Nesting
  /-- How deep stored rules are read. -/
  ruleNesting : Json.Nesting
  /-- What the engine of the store draws when it has run out of ids. -/
  draws : List Nat := []

namespace Endpoint

def all : List Endpoint :=
  [.health, .labels, .evaluateRule, .visibleSections, .price, .shootingCategories, .form, .quote,
    .draft, .saveDraft, .addStep, .removeStep, .validateDraft, .previewDraft, .publish,
    .createShootingCategory, .campaigns, .createCampaign]

def method : Endpoint → Method
  | .health | .labels | .shootingCategories | .form | .draft | .validateDraft | .previewDraft
  | .campaigns => .get
  | .evaluateRule | .visibleSections | .price | .quote | .addStep | .publish
  | .createShootingCategory | .createCampaign => .post
  | .saveDraft => .put
  | .removeStep => .delete

def takesBody : Endpoint → Bool
  | .evaluateRule | .visibleSections | .price | .quote | .saveDraft | .addStep
  | .createShootingCategory | .createCampaign => true
  | _ => false

def shopRoute (area : List RoutePart) : List RoutePart :=
  .fixed "api" :: area ++ [.fixed "shops", .parameter "shop_id"]

def formRoute : List RoutePart :=
  shopRoute [] ++ [.fixed "simulator", .parameter "shooting_category_id"]

def draftRoute : List RoutePart :=
  shopRoute [.fixed "admin"] ++ [.fixed "form-builder", .parameter "shooting_category_id"]

def route : Endpoint → List RoutePart
  | .health => [.fixed "health"]
  | .labels => [.fixed "api", .fixed "labels"]
  | .evaluateRule => [.fixed "api", .fixed "rules", .fixed "evaluate"]
  | .visibleSections => [.fixed "api", .fixed "sections", .fixed "visible"]
  | .price => [.fixed "api", .fixed "price"]
  | .shootingCategories => shopRoute [] ++ [.fixed "shooting-categories"]
  | .form => formRoute
  | .quote => formRoute ++ [.fixed "quote"]
  | .draft | .saveDraft => draftRoute
  | .addStep => draftRoute ++ [.fixed "steps"]
  | .removeStep => draftRoute ++ [.fixed "steps", .parameter "index"]
  | .validateDraft => draftRoute ++ [.fixed "validate"]
  | .previewDraft => draftRoute ++ [.fixed "preview"]
  | .publish => draftRoute ++ [.fixed "publish"]
  | .createShootingCategory => shopRoute [.fixed "admin"] ++ [.fixed "shooting-categories"]
  | .campaigns | .createCampaign => shopRoute [.fixed "admin"] ++ [.fixed "campaigns"]

def onPath (segments : List String) : List (Endpoint × Json.Members) :=
  all.filterMap fun e => (parameters? e.route segments).map (e, ·)

def pathInt (parameters : Json.Members) (name : String) : Reading Int :=
  (Json.Members.required parameters name Reader.int).under (.key "path")

/-- A value that is no object is a problem of its own in a body, at every depth. -/
def bodyProblem (p : Problem) : Problem :=
  if p.kind = .notAModel then { p with kind := .notAnObjectBody } else p

def readBody {α : Type} (body : Option Json) (read : Reader α) : Reading α :=
  match body.map read with
  | none => (Reading.problem .null .missing).under (.key "body")
  | some (.ok a) => .ok a
  | some (.failed ps) => .failed (ps.map fun p => (bodyProblem p).under (.key "body"))

/-- A draft is saved under the shop of the path, and only on the path of its form. -/
def saveCommand (shopId shootingCategoryId : Int) (d : Draft) : Command :=
  if d.shootingCategoryId = shootingCategoryId then
    .perform (.saveDraft { d with shopId := some shopId })
  else .refuseMismatch

def priceCommand (c : Conditions) (r : PriceRequest) : Command :=
  match r.price? c.today c.taxRate with
  | .ok p => .reply p.toJson
  | .error fault => .fail (.amount fault)

def command (c : Conditions) (parameters : Json.Members) (body : Option Json) :
    Endpoint → Reading Command
  | .health => .ok (.reply (.obj [("status", .str "ok")]))
  | .labels => .ok (.reply labelCatalogue)
  | .evaluateRule =>
    (fun r => .reply (RuleVerdict.mk r.holds).toJson) <$> readBody body RuleRequest.read
  | .visibleSections =>
    (fun r => .reply (VisibleSections.group r.categories r.values).toJson)
      <$> readBody body SectionsRequest.read
  | .price => priceCommand c <$> readBody body PriceRequest.read
  | .shootingCategories => (fun shop => .perform (.listShootingCategories shop)) <$> shopId
  | .form => (fun shop form => .perform (.loadForm c.ruleNesting shop form)) <$> shopId <*> formId
  | .quote =>
    (fun shop form r =>
      .perform (.quote c.ruleNesting shop form r.values r.selectedItemIds c.today c.taxRate))
      <$> shopId <*> formId <*> readBody body QuoteRequest.read
  | .draft => (fun shop form => .perform (.loadDraft shop form)) <$> shopId <*> formId
  | .saveDraft => saveCommand <$> shopId <*> formId <*> readBody body Draft.read
  | .addStep =>
    (fun shop form r => .perform (.addStep shop form r.type r.category r.condition))
      <$> shopId <*> formId <*> readBody body StepRequest.read
  | .removeStep =>
    (fun shop form position => .perform (.removeStep shop form position))
      <$> shopId <*> formId <*> pathInt parameters "index"
  | .validateDraft => (fun shop form => .perform (.validateDraft shop form)) <$> shopId <*> formId
  | .previewDraft => (fun shop form => .perform (.previewDraft shop form)) <$> shopId <*> formId
  | .publish => (fun shop form => .perform (.publish shop form)) <$> shopId <*> formId
  | .createShootingCategory =>
    (fun shop r => .perform (.createShootingCategory { r with shopId := some shop } c.draws))
      <$> shopId <*> readBody body ShootingCategory.read
  | .campaigns => (fun shop => .perform (.listCampaigns shop)) <$> shopId
  | .createCampaign =>
    (fun shop r => .perform (.createCampaign { r with shopId := some shop }))
      <$> shopId <*> readBody body Campaign.read
where
  shopId := pathInt parameters "shop_id"
  formId := pathInt parameters "shooting_category_id"

end Endpoint

end Http

end StudioQuote
