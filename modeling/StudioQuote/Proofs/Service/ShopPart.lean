import Mathlib.Data.List.Find
import StudioQuote.Proofs.Publish.Listing

/-!
# The part of a shop

Every shop has a part of the store to itself: its rows, and the associations of its
campaigns. What is read for a shop is read from this part alone.
-/

namespace StudioQuote

open Number

/-! ## The rows of a shop -/

namespace Store

def ownedBy (s : Store) (shopId : Int) (a : AssociationRow) : Bool :=
  (s.campaignsOf shopId).any (·.id == a.1)

/-- The rows of a shop, with the associations of its campaigns. -/
def ofShop (s : Store) (shopId : Int) : Store where
  shootingCategories := s.shootingCategories.filter (·.shopId == shopId)
  categories := s.categories.filter (·.shopId == .integer shopId)
  items := s.items.filter (·.shopId == .integer shopId)
  campaigns := s.campaignsOf shopId
  shootingAssociations := s.shootingAssociations.filter (s.ownedBy shopId)
  categoryAssociations := s.categoryAssociations.filter (s.ownedBy shopId)
  itemAssociations := s.itemAssociations.filter (s.ownedBy shopId)
  drafts := s.drafts.filter (·.shopId == shopId)

theorem filter_and_self {α : Type} (p q : α → Bool) (as : List α) :
    (as.filter p).filter (fun a => p a && q a) = as.filter fun a => p a && q a := by
  rw [List.filter_filter]
  apply List.filter_congr
  intro a _
  cases p a with
  | true => rw [Bool.and_true]
  | false => rfl

theorem find?_filter_and_self {α : Type} (p q : α → Bool) (as : List α) :
    (as.filter p).find? (fun a => p a && q a) = as.find? fun a => p a && q a := by
  rw [List.find?_filter]
  apply List.find?_congr
  intro a _
  cases p a with
  | true => simp
  | false => simp

variable (s : Store) (shopId : Int)

theorem shootingCategoriesOf_ofShop :
    (s.ofShop shopId).shootingCategoriesOf shopId = s.shootingCategoriesOf shopId :=
  congrArg (List.mergeSort · _) (filter_and_self ..)

theorem shootingCategory?_ofShop (id : Int) :
    (s.ofShop shopId).shootingCategory? shopId id = s.shootingCategory? shopId id :=
  find?_filter_and_self ..

theorem categoriesOf_ofShop (form : Option Int) :
    (s.ofShop shopId).categoriesOf shopId form = s.categoriesOf shopId form :=
  congrArg (List.mergeSort · _) (filter_and_self ..)

theorem itemsOf_ofShop (categoryId : Option Int) :
    (s.ofShop shopId).itemsOf shopId categoryId = s.itemsOf shopId categoryId :=
  congrArg (List.mergeSort · _) (filter_and_self ..)

theorem campaignsOf_ofShop : (s.ofShop shopId).campaignsOf shopId = s.campaignsOf shopId := by
  change (s.campaignsOf shopId).filter _ = _
  rw [campaignsOf, List.filter_filter]
  simp only [Bool.and_self]

theorem draftText?_ofShop (form : Int) :
    (s.ofShop shopId).draftText? shopId form = s.draftText? shopId form :=
  congrArg (Option.map DraftRow.text) (find?_filter_and_self ..)

theorem associated_filter_ownedBy {r : CampaignRow} (hr : r ∈ s.campaignsOf shopId)
    (rows : List AssociationRow) :
    associated (rows.filter (s.ownedBy shopId)) r.id = associated rows r.id := by
  rw [associated, associated, List.filter_filter]
  apply congrArg
  apply List.filter_congr
  intro a _
  cases ha : a.1 == r.id with
  | false => rfl
  | true =>
    rw [Bool.true_and, ownedBy, List.any_eq_true]
    exact ⟨r, hr, by rw [beq_iff_eq.mp ha, beq_self_eq_true]⟩

theorem associationsOf_ofShop {r : CampaignRow} (hr : r ∈ s.campaignsOf shopId) :
    (s.ofShop shopId).associationsOf r.id = s.associationsOf r.id := by
  simp only [associationsOf, ofShop, associated_filter_ownedBy s shopId hr]

theorem campaigns_ofShop :
    (((s.ofShop shopId).campaignsOf shopId).map fun r =>
        (r, (s.ofShop shopId).associationsOf r.id)) =
      (s.campaignsOf shopId).map fun r => (r, s.associationsOf r.id) := by
  rw [campaignsOf_ofShop]
  apply List.map_congr_left
  intro r hr
  rw [associationsOf_ofShop s shopId hr]

end Store

/-! ## What is read for a shop -/

namespace Session

variable {α β : Type} {s t : Store}

/-- Whether a session has the same outcome on two stores. -/
def Agrees (s t : Store) (x : Session α) : Prop :=
  (x.run (.ready s)).1 = (x.run (.ready t)).1

theorem agrees_pure (a : α) : (pure a : Session α).Agrees s t :=
  rfl

theorem agrees_throw (e : Failure) : (throw e : Session α).Agrees s t :=
  rfl

theorem agrees_query {first : Table} {ns : List Int} {f : Store → α} (h : f s = f t) :
    (query first ns f).Agrees s t := by
  rw [Agrees, run_query_ready, run_query_ready, h]

theorem agrees_reading (r : Reading α) : (reading r).Agrees s t := by
  rw [Agrees, run_reading, run_reading]

theorem agrees_writable (r : Option α) : (writable r).Agrees s t := by
  cases r with
  | none => exact agrees_throw _
  | some a => exact agrees_pure a

/-- What follows a session that only reads is run on the same store. -/
theorem Agrees.bind {x : Session α} {f : α → Session β} (hread : x.ReadOnly) (hx : x.Agrees s t)
    (hf : ∀ a, (f a).Agrees s t) : (x >>= f).Agrees s t := by
  have hs := hread (.ready s)
  have ht := hread (.ready t)
  rw [Agrees] at hx ⊢
  rw [run_bind, run_bind]
  rcases hruns : x.run (.ready s) with ⟨outcome, after⟩
  rcases hrunt : x.run (.ready t) with ⟨outcome', after'⟩
  rw [hruns] at hs hx
  rw [hrunt] at ht hx
  cases hs
  cases ht
  cases hx
  cases outcome with
  | error e => rfl
  | ok a => exact hf a

theorem Agrees.map {x : Session α} (hx : x.Agrees s t) (f : α → β) : (f <$> x).Agrees s t := by
  rw [Agrees] at hx ⊢
  rw [run_map, run_map, hx]

theorem Agrees.mapM {f : α → Session β} (hread : ∀ a, (f a).ReadOnly)
    (hf : ∀ a, (f a).Agrees s t) (as : List α) : (as.mapM f).Agrees s t := by
  induction as with
  | nil => exact agrees_pure []
  | cons a as ih =>
    rw [List.mapM_cons]
    apply Agrees.bind (hread a) (hf a)
    intro b
    apply Agrees.bind (ReadOnly.mapM hread as) ih
    intro bs
    exact agrees_pure (b :: bs)

theorem agrees_readCategory (n : Json.Nesting) (r : CategoryRow) :
    (readCategory n r).Agrees s t := by
  rw [readCategory]
  cases r.storedRule n with
  | error fault => exact agrees_throw _
  | ok rule => exact agrees_reading _

section Shop

variable (s : Store) (shopId : Int)

theorem agrees_listShootingCategories :
    (listShootingCategories shopId).Agrees (s.ofShop shopId) s :=
  agrees_query (congrArg _ (s.shootingCategoriesOf_ofShop shopId))

theorem agrees_getShootingCategory (id : Int) :
    (getShootingCategory shopId id).Agrees (s.ofShop shopId) s :=
  agrees_query (congrArg _ (s.shootingCategory?_ofShop shopId id))

theorem agrees_listCategories (n : Json.Nesting) (form : Option Int) :
    (listCategories n shopId form).Agrees (s.ofShop shopId) s := by
  apply Agrees.bind (readOnly_query _ _ _)
  · exact agrees_query (s.categoriesOf_ofShop shopId form)
  · intro rows
    exact Agrees.mapM (readOnly_readCategory n) (agrees_readCategory n) rows

theorem agrees_listItems (categoryId : Option Int) :
    (listItems shopId categoryId).Agrees (s.ofShop shopId) s := by
  apply Agrees.bind (readOnly_query _ _ _)
  · exact agrees_query (s.itemsOf_ofShop shopId categoryId)
  · intro rows
    exact Agrees.mapM (fun r => readOnly_reading r.read) (fun r => agrees_reading r.read) rows

theorem agrees_listCampaigns : (listCampaigns shopId).Agrees (s.ofShop shopId) s := by
  apply Agrees.bind (readOnly_query _ _ _)
  · exact agrees_query (s.campaigns_ofShop shopId)
  · intro rows
    exact Agrees.mapM (fun r => readOnly_reading (r.1.read r.2))
      (fun r => agrees_reading (r.1.read r.2)) rows

theorem agrees_getDraft (form : Int) : (getDraft shopId form).Agrees (s.ofShop shopId) s := by
  apply Agrees.bind (readOnly_query _ _ _)
  · exact agrees_query (s.draftText?_ofShop shopId form)
  · intro text
    cases text with
    | none => exact agrees_pure none
    | some text =>
      apply Agrees.bind (readOnly_reading _) (agrees_reading _)
      intro d
      exact agrees_pure (some d)

theorem agrees_loadDraft (form : Int) : (loadDraft shopId form).Agrees (s.ofShop shopId) s := by
  apply Agrees.bind (readOnly_getDraft shopId form) (agrees_getDraft s shopId form)
  intro d
  cases d with
  | none => exact agrees_throw _
  | some d => exact agrees_pure d

theorem agrees_previewDraft (form : Int) :
    (previewDraft shopId form).Agrees (s.ofShop shopId) s := by
  apply Agrees.bind (readOnly_loadDraft shopId form) (agrees_loadDraft s shopId form)
  intro d
  exact agrees_writable _

theorem agrees_newDraftName (form : Int) (name : String) :
    (newDraftName shopId form name).Agrees (s.ofShop shopId) s := by
  rw [newDraftName]
  split
  · exact agrees_pure name
  · apply Agrees.bind (readOnly_getShootingCategory shopId form)
      (agrees_getShootingCategory s shopId form)
    intro c
    exact agrees_pure _

theorem agrees_loadOrInitDraft (form : Int) (name : String) :
    (loadOrInitDraft shopId form name).Agrees (s.ofShop shopId) s := by
  apply Agrees.bind (readOnly_getDraft shopId form) (agrees_getDraft s shopId form)
  intro d
  cases d with
  | none =>
    apply Agrees.bind (readOnly_newDraftName shopId form name)
      (agrees_newDraftName s shopId form name)
    intro n
    exact agrees_pure _
  | some d => exact agrees_pure d

theorem agrees_loadForm (n : Json.Nesting) (form : Int) :
    (loadForm n shopId form).Agrees (s.ofShop shopId) s := by
  apply Agrees.bind (readOnly_listCategories n shopId _) (agrees_listCategories s shopId n _)
  intro categories
  apply Agrees.bind (readOnly_listItems shopId _) (agrees_listItems s shopId _)
  intro items
  apply Agrees.bind (readOnly_listCampaigns shopId) (agrees_listCampaigns s shopId)
  intro campaigns
  exact agrees_pure _

theorem agrees_quote (n : Json.Nesting) (form : Int) (values : Answers) (selected : List Int)
    (today : Date) (rate : Decimal) :
    (quote n shopId form values selected today rate).Agrees (s.ofShop shopId) s := by
  apply Agrees.bind (readOnly_loadForm n shopId form) (agrees_loadForm s shopId n form)
  intro data
  cases Quote.build? data values selected (some form) today rate with
  | ok q => exact agrees_pure q
  | error fault => exact agrees_throw _

end Shop

end Session

namespace Operation

/-- The shop that an operation is addressed to. -/
def shop? : Operation → Option Int
  | .createShootingCategory c _ => c.shopId
  | .createCampaign c => c.shopId
  | .saveDraft d => d.shopId
  | .listShootingCategories shopId | .getShootingCategory shopId _ | .listCampaigns shopId
  | .listCategories _ shopId _ | .listItems shopId _ | .replacePublishedForm shopId _ _ _
  | .getDraft shopId _ | .deleteDraft shopId _ | .loadDraft shopId _
  | .loadOrInitDraft shopId _ _ | .addStep shopId _ _ _ _ | .removeStep shopId _ _
  | .validateDraft shopId _ | .previewDraft shopId _ | .publish shopId _ | .loadForm _ shopId _
  | .quote _ shopId _ _ _ _ _ | .putDraftText shopId _ _ => some shopId
  | .initSchema | .setCategoryColumn .. | .setItemColumn .. => none

/-- What is read for a shop is read from its part of the store. -/
theorem agrees_perform {op : Operation} {shopId : Int} (hread : op.isWrite = false)
    (hshop : op.shop? = some shopId) (s : Store) : op.perform.Agrees (s.ofShop shopId) s := by
  cases op with
  | listShootingCategories owner =>
    cases hshop
    exact (Session.agrees_listShootingCategories s shopId).map _
  | getShootingCategory owner id =>
    cases hshop
    exact (Session.agrees_getShootingCategory s shopId id).map _
  | listCampaigns owner =>
    cases hshop
    exact (Session.agrees_listCampaigns s shopId).map _
  | listCategories n owner form =>
    cases hshop
    exact (Session.agrees_listCategories s shopId n form).map _
  | listItems owner categoryId =>
    cases hshop
    exact (Session.agrees_listItems s shopId categoryId).map _
  | getDraft owner form =>
    cases hshop
    exact (Session.agrees_getDraft s shopId form).map _
  | loadDraft owner form =>
    cases hshop
    exact (Session.agrees_loadDraft s shopId form).map _
  | loadOrInitDraft owner form name =>
    cases hshop
    exact (Session.agrees_loadOrInitDraft s shopId form name).map _
  | validateDraft owner form =>
    cases hshop
    exact (Session.agrees_loadDraft s shopId form).map _
  | previewDraft owner form =>
    cases hshop
    exact (Session.agrees_previewDraft s shopId form).map _
  | loadForm n owner form =>
    cases hshop
    exact (Session.agrees_loadForm s shopId n form).map _
  | quote n owner form values selected today rate =>
    cases hshop
    exact (Session.agrees_quote s shopId n form values selected today rate).map _
  | initSchema => cases hshop
  | _ => cases hread

end Operation

end StudioQuote
