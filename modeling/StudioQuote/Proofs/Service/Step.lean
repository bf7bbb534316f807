import StudioQuote.Proofs.Atomic
import StudioQuote.Proofs.Draft.Records
import StudioQuote.Proofs.Publish.Replace

/-!
# Steps of the service

What an operation of the service can do to a store: it fails and changes nothing, it
only reads, or it writes in one of a few ways. Replacing a form by any records and
overwriting columns or texts by hand are maintenance, and not among these steps.
-/

namespace StudioQuote

open Json Number

def Associations.ids (a : Associations) : List Int :=
  a.shootingCategoryIds ++ a.categoryIds ++ a.itemIds

/-- Whether the shop of a campaign and what it is associated with can be stored. -/
def Campaign.Fits (c : Campaign) : Prop :=
  (c.shopId.toList ++ c.associations.ids).all fitsInt64 = true

instance (c : Campaign) : Decidable c.Fits :=
  inferInstanceAs (Decidable (_ = _))

namespace Store

def storedDraft (s : Store) (shopId form : Int) : Reading (Option Draft) :=
  match s.draftText? shopId form with
  | none => .ok none
  | some text => some <$> Draft.ofText text

def withCampaign (s : Store) (shopId : Int) (c : Campaign) : Store :=
  let id := s.lastCampaignId + 1
  { s with
    campaigns := s.campaigns ++ [.ofRecord id shopId c]
    lastCampaignId := id
    shootingAssociations :=
      s.shootingAssociations ++ c.associations.shootingCategoryIds.map (id, ·)
    categoryAssociations := s.categoryAssociations ++ c.associations.categoryIds.map (id, ·)
    itemAssociations := s.itemAssociations ++ c.associations.itemIds.map (id, ·) }

theorem foldl_associate (add : Store → Int → Int → Store) (rows : Store → List AssociationRow)
    (put : Store → List AssociationRow → Store) {campaignId : Int}
    (hadd : ∀ s id, add s campaignId id = put s (rows s ++ [(campaignId, id)]))
    (hrows : ∀ s l, rows (put s l) = l) (hput : ∀ s l l', put (put s l) l' = put s l')
    (hself : ∀ s, put s (rows s) = s) (ids : List Int) (s : Store) :
    ids.foldl (fun s id => add s campaignId id) s = put s (rows s ++ ids.map (campaignId, ·)) := by
  induction ids generalizing s with
  | nil => rw [List.foldl_nil, List.map_nil, List.append_nil, hself]
  | cons id ids ih =>
    rw [List.foldl_cons, ih, hadd, hrows, hput, List.map_cons, List.append_assoc,
      List.singleton_append]

/-- The store with the row of a new campaign, which is not associated with anything yet. -/
def withCampaignRow (s : Store) (shopId : Int) (c : Campaign) : Store :=
  { s with
    campaigns := s.campaigns ++ [.ofRecord (s.lastCampaignId + 1) shopId c]
    lastCampaignId := s.lastCampaignId + 1 }

theorem insertCampaign_of_room {s : Store} {c : Campaign} {shopId : Int}
    (hshop : c.shopId = some shopId) (hroom : s.lastCampaignId < maxId) :
    s.insertCampaign c = .ok (s.lastCampaignId + 1, s.withCampaignRow shopId c) := by
  rw [insertCampaign, hshop]
  exact if_neg (by omega)

theorem insertCampaign_eq_ok {s after : Store} {c : Campaign} {id : Int}
    (h : s.insertCampaign c = .ok (id, after)) :
    ∃ shopId, c.shopId = some shopId ∧ s.lastCampaignId < maxId ∧ id = s.lastCampaignId + 1 ∧
      after = s.withCampaignRow shopId c := by
  rw [insertCampaign] at h
  split at h
  · cases h
  · cases hshop : c.shopId with
    | none =>
      rw [hshop] at h
      cases h
    | some shopId =>
      rw [hshop] at h
      cases h
      exact ⟨shopId, rfl, by omega, rfl, rfl⟩

theorem foldl_associations (s : Store) (shopId : Int) (c : Campaign) :
    c.associations.itemIds.foldl (fun t id => t.associateItem (s.lastCampaignId + 1) id)
      (c.associations.categoryIds.foldl (fun t id => t.associateCategory (s.lastCampaignId + 1) id)
        (c.associations.shootingCategoryIds.foldl
          (fun t id => t.associateShootingCategory (s.lastCampaignId + 1) id)
          (s.withCampaignRow shopId c))) = s.withCampaign shopId c := by
  rw [foldl_associate associateShootingCategory shootingAssociations
      (fun s l => { s with shootingAssociations := l })
      (fun _ _ => rfl) (fun _ _ => rfl) (fun _ _ _ => rfl) (fun _ => rfl),
    foldl_associate associateCategory categoryAssociations
      (fun s l => { s with categoryAssociations := l })
      (fun _ _ => rfl) (fun _ _ => rfl) (fun _ _ _ => rfl) (fun _ => rfl),
    foldl_associate associateItem itemAssociations
      (fun s l => { s with itemAssociations := l })
      (fun _ _ => rfl) (fun _ _ => rfl) (fun _ _ _ => rfl) (fun _ => rfl)]
  rfl

end Store

namespace Session

theorem run_getDraft (shopId form : Int) (s : Store) :
    (getDraft shopId form).run (.ready s) =
      (if [shopId, form].all fitsInt64 then
        match s.storedDraft shopId form with
        | .ok d => .ok d
        | .failed ps => .error (.unreadable ps)
      else .error .integerTooWide, .ready s) := by
  have hquery := run_query_ready .drafts [shopId, form] (·.draftText? shopId form) s
  rw [getDraft]
  by_cases hfits : [shopId, form].all fitsInt64 = true
  · rw [if_pos hfits] at hquery ⊢
    rw [run_bind_ok hquery, Store.storedDraft]
    cases s.draftText? shopId form with
    | none => rfl
    | some text =>
      cases htext : Draft.ofText text with
      | ok d => simp only [htext]; rfl
      | failed ps => simp only [htext]; rfl
  · rw [if_neg hfits] at hquery ⊢
    exact run_bind_error hquery

theorem getDraft_eq_ok {shopId form : Int} {s : Store} {d : Option Draft} {after : Database}
    (h : (getDraft shopId form).run (.ready s) = (.ok d, after)) :
    [shopId, form].all fitsInt64 = true ∧ s.storedDraft shopId form = .ok d ∧
      after = .ready s := by
  rw [run_getDraft] at h
  split at h
  · rename_i hfits
    cases hd : s.storedDraft shopId form with
    | ok stored =>
      rw [hd] at h
      cases h
      exact ⟨hfits, rfl, rfl⟩
    | failed ps =>
      rw [hd] at h
      cases h
  · cases h

theorem run_loadDraft_ok {shopId form : Int} {s : Store} {d : Draft}
    (hfits : [shopId, form].all fitsInt64 = true) (hd : s.storedDraft shopId form = .ok (some d)) :
    (loadDraft shopId form).run (.ready s) = (.ok d, .ready s) := by
  have hget := run_getDraft shopId form s
  rw [if_pos hfits, hd] at hget
  rw [loadDraft, run_bind_ok hget]
  rfl

theorem loadDraft_eq_ok {shopId form : Int} {s : Store} {d : Draft} {after : Database}
    (h : (loadDraft shopId form).run (.ready s) = (.ok d, after)) :
    [shopId, form].all fitsInt64 = true ∧ s.storedDraft shopId form = .ok (some d) ∧
      after = .ready s := by
  obtain ⟨stored, middle, hget, hrest⟩ := bind_eq_ok h
  obtain ⟨hfits, hstored, rfl⟩ := getDraft_eq_ok hget
  cases stored with
  | none => cases hrest
  | some stored =>
    cases hrest
    exact ⟨hfits, hstored, rfl⟩

theorem find?_texts_eq_none_iff {d : Draft} :
    d.toJson.texts.find? (!Text.isPlain ·) = none ↔ d.toJson.HasPlainTexts := by
  simp [HasPlainTexts, Text.isPlain_eq_true_iff]

theorem run_draftText {d : Draft} (h : d.toJson.HasPlainTexts) (db : Database) :
    (draftText d).run db = (.ok d.toText, db) := by
  rw [draftText, find?_texts_eq_none_iff.mpr h]
  rfl

theorem draftText_eq_ok {d : Draft} {text : String} {db after : Database}
    (h : (draftText d).run db = (.ok text, after)) :
    d.toJson.HasPlainTexts ∧ text = d.toText ∧ after = db := by
  rw [draftText] at h
  split at h
  · rename_i hnone
    cases h
    exact ⟨find?_texts_eq_none_iff.mp hnone, rfl, rfl⟩
  · cases h

theorem run_saveDraft_ok {d : Draft} {shopId : Int} (hshop : d.shopId = some shopId)
    (hfits : [shopId, d.shootingCategoryId].all fitsInt64 = true) (hplain : d.toJson.HasPlainTexts)
    (s : Store) :
    (saveDraft d).run (.ready s) =
      (.ok d, .ready (s.putDraftText shopId d.shootingCategoryId d.toText)) := by
  have hput := run_attempt_of_bindable ((Cell.isBindable_key_iff d.isPlain_toText).mpr hfits)
    .statement .drafts (fun s => .ok ((), s.putDraftText shopId d.shootingCategoryId d.toText)) s
  rw [saveDraft, hshop]
  exact (run_bind_ok (run_draftText hplain _)).trans (run_bind_ok hput)

theorem saveDraft_eq_ok {d saved : Draft} {s : Store} {after : Database}
    (h : (saveDraft d).run (.ready s) = (.ok saved, after)) :
    saved = d ∧ d.toJson.HasPlainTexts ∧ ∃ shopId, d.shopId = some shopId ∧
      after = .ready (s.putDraftText shopId d.shootingCategoryId d.toText) := by
  rw [saveDraft] at h
  cases hshop : d.shopId with
  | none =>
    rw [hshop] at h
    cases h
  | some shopId =>
    rw [hshop] at h
    obtain ⟨text, middle, htext, h⟩ := bind_eq_ok h
    obtain ⟨hplain, rfl, rfl⟩ := draftText_eq_ok htext
    obtain ⟨u, middle, hput, hrest⟩ := bind_eq_ok h
    obtain ⟨-, changed, hchanged, rfl⟩ := attempt_eq_ok hput
    cases hchanged
    cases hrest
    exact ⟨rfl, hplain, shopId, rfl, rfl⟩

theorem addStep_eq_ok {shopId form : Int} {type : FormSection} {category : DraftCategory}
    {condition : Option DraftCondition} {s : Store} {d : Draft} {after : Database}
    (h : (addStep shopId form type category condition).run (.ready s) = (.ok d, after)) :
    ∃ old owner, (loadOrInitDraft shopId form "").run (.ready s) = (.ok old, .ready s) ∧
      old.addStep type category condition = .ok d ∧ d.toJson.HasPlainTexts ∧
      d.shopId = some owner ∧
      after = .ready (s.putDraftText owner d.shootingCategoryId d.toText) := by
  obtain ⟨old, hload, h⟩ := (readOnly_loadOrInitDraft _ _ _).bind_eq_ok h
  obtain ⟨changed, db, hedit, h⟩ := bind_eq_ok h
  obtain ⟨hadd, rfl⟩ := edit_eq_ok hedit
  obtain ⟨rfl, hplain, owner, howner, rfl⟩ := saveDraft_eq_ok h
  exact ⟨old, owner, hload, hadd, hplain, howner, rfl⟩

theorem run_addStep_ok {shopId form owner : Int} {type : FormSection} {category : DraftCategory}
    {condition : Option DraftCondition} {s : Store} {old d : Draft}
    (hload : (loadOrInitDraft shopId form "").run (.ready s) = (.ok old, .ready s))
    (hadd : old.addStep type category condition = .ok d) (howner : d.shopId = some owner)
    (hfits : [owner, d.shootingCategoryId].all fitsInt64 = true)
    (hplain : d.toJson.HasPlainTexts) :
    (addStep shopId form type category condition).run (.ready s) =
      (.ok d, .ready (s.putDraftText owner d.shootingCategoryId d.toText)) := by
  rw [addStep, run_bind_ok hload, hadd]
  exact run_saveDraft_ok howner hfits hplain s

theorem removeStep_eq_ok {shopId form position : Int} {s : Store} {d : Draft} {after : Database}
    (h : (removeStep shopId form position).run (.ready s) = (.ok d, after)) :
    ∃ old owner, s.storedDraft shopId form = .ok (some old) ∧ d = old.removeStep position ∧
      d.toJson.HasPlainTexts ∧ d.shopId = some owner ∧
      after = .ready (s.putDraftText owner d.shootingCategoryId d.toText) := by
  obtain ⟨old, db, hload, h⟩ := bind_eq_ok h
  obtain ⟨-, hold, rfl⟩ := loadDraft_eq_ok hload
  obtain ⟨rfl, hplain, owner, howner, rfl⟩ := saveDraft_eq_ok h
  exact ⟨old, owner, hold, rfl, hplain, howner, rfl⟩

theorem run_publish {shopId form : Int} {s : Store} {d : Draft}
    (hfits : [shopId, form].all fitsInt64 = true) (hd : s.storedDraft shopId form = .ok (some d))
    (hvalid : d.isValid = true) :
    (publish shopId form).run (.ready s) =
      match d.customerForm? with
      | none => (.error .integerTooLong, .ready s)
      | some r =>
        match (replacePublishedForm shopId form r.categories r.items).run (.ready s) with
        | (.ok _, after) => (.ok r, after)
        | (.error e, after) => (.error e, after) := by
  rw [publish, run_bind_ok (run_loadDraft_ok hfits hd), hvalid]
  change (writable d.customerForm? >>= fun r =>
    replacePublishedForm shopId form r.categories r.items >>= fun _ => pure r :
      Session FormRecords).run (.ready s) = _
  cases d.customerForm? with
  | none => rfl
  | some r =>
    change (replacePublishedForm shopId form r.categories r.items >>= fun _ => pure r :
      Session FormRecords).run (.ready s) = _
    dsimp only
    rw [run_bind]
    rcases (replacePublishedForm shopId form r.categories r.items).run (.ready s) with
      ⟨e | u, after⟩
    · rfl
    · rfl

theorem run_publish_ok {shopId form : Int} {s : Store} {d : Draft}
    (hd : s.storedDraft shopId form = .ok (some d)) (hvalid : d.isValid = true)
    (hgates : d.customerForm? = some d.customerForm) (hfits : d.customerForm.Fits shopId form)
    (haccepts : s.Accepts shopId form d.customerForm) :
    (publish shopId form).run (.ready s) =
      (.ok d.customerForm, .ready (s.withForm shopId form d.customerForm)) := by
  rw [run_publish hfits.key hd hvalid, hgates]
  rcases run_replacePublishedForm shopId form d.customerForm s with ⟨hrun, -, -⟩ |
    ⟨e, -, -, hunstorable⟩ | ⟨table, -, htaken⟩
  · simp only [hrun]
  · exact absurd hfits hunstorable
  · exact absurd haccepts htaken

theorem publish_eq_ok {shopId form : Int} {s : Store} {r : FormRecords} {after : Database}
    (h : (publish shopId form).run (.ready s) = (.ok r, after)) :
    ∃ d, s.storedDraft shopId form = .ok (some d) ∧ d.isValid = true ∧ r = d.customerForm ∧
      r.Fits shopId form ∧ s.Accepts shopId form r ∧ after = .ready (s.withForm shopId form r) := by
  obtain ⟨d, middle, hload, hrest⟩ := bind_eq_ok h
  obtain ⟨hfits, hd, rfl⟩ := loadDraft_eq_ok hload
  cases hvalid : d.isValid with
  | false =>
    rw [hvalid] at hrest
    cases hrest
  | true =>
    rw [run_publish hfits hd hvalid] at h
    cases hrecords : d.customerForm? with
    | none =>
      rw [hrecords] at h
      cases h
    | some records =>
      obtain rfl : records = d.customerForm := Draft.eq_records_of_records? hrecords
      rw [hrecords] at h
      dsimp only at h
      rcases run_replacePublishedForm shopId form d.customerForm s with ⟨hrun, hall, haccepts⟩ |
        ⟨e, hrun, -⟩ | ⟨table, hrun, -⟩
      · rw [hrun] at h
        cases h
        exact ⟨d, hd, hvalid, rfl, hall, haccepts, rfl⟩
      · rw [hrun] at h
        cases h
      · rw [hrun] at h
        cases h

theorem run_associate (add : Store → Int → Int → Store) {campaignId : Int}
    (hcampaign : fitsInt64 campaignId = true) {ids : List Int}
    (hids : ids.all fitsInt64 = true) (s : Store) :
    (associate add campaignId ids).run (.ready s) =
      (.ok (), .ready (ids.foldl (fun s id => add s campaignId id) s)) := by
  induction ids generalizing s with
  | nil => rfl
  | cons id ids ih =>
    rw [List.all_cons, Bool.and_eq_true_iff] at hids
    have hwrite := run_write_ready .campaignCreation .campaigns [campaignId, id]
      (add · campaignId id) s
    rw [if_pos (by simp [hcampaign, hids.1])] at hwrite
    exact (run_bind_ok hwrite).trans (ih hids.2 _)

theorem associate_eq_ok {add : Store → Int → Int → Store} {campaignId : Int} {ids : List Int}
    {s : Store} {u : Unit} {after : Database}
    (h : (associate add campaignId ids).run (.ready s) = (.ok u, after)) :
    ids.all fitsInt64 = true ∧
      after = .ready (ids.foldl (fun s id => add s campaignId id) s) := by
  induction ids generalizing s with
  | nil =>
    cases h
    exact ⟨rfl, rfl⟩
  | cons id ids ih =>
    obtain ⟨u', middle, hwrite, hrest⟩ := bind_eq_ok h
    obtain ⟨hfits, rfl⟩ := write_eq_ok hwrite
    obtain ⟨hids, rfl⟩ := ih hrest
    simp only [List.all_cons, List.all_nil, Bool.and_true, Bool.and_eq_true] at hfits
    refine ⟨?_, rfl⟩
    rw [List.all_cons, hfits.2, hids]
    rfl

theorem createCampaign_eq_ok {c created : Campaign} {s : Store} {after : Database}
    (h : (createCampaign c).run (.ready s) = (.ok created, after)) :
    created = { c with id := some (s.lastCampaignId + 1) } ∧ ∃ shopId, c.shopId = some shopId ∧
      c.Fits ∧ Text.IsPlain c.name ∧ s.lastCampaignId < Store.maxId ∧
      after = .ready (s.withCampaign shopId c) := by
  obtain ⟨id, db, hattempt, h⟩ := bind_eq_ok (transaction_eq_ok h)
  obtain ⟨hcells, inserted, hinsert, rfl⟩ := attempt_eq_ok hattempt
  obtain ⟨hshopFits, hname⟩ := Campaign.isBindable_cells_iff.mp hcells
  obtain ⟨u, db, hshooting, h⟩ := bind_eq_ok h
  obtain ⟨hshootingFits, rfl⟩ := associate_eq_ok hshooting
  obtain ⟨u, db, hcategories, h⟩ := bind_eq_ok h
  obtain ⟨hcategoriesFit, rfl⟩ := associate_eq_ok hcategories
  obtain ⟨u, db, hitems, h⟩ := bind_eq_ok h
  obtain ⟨hitemsFit, rfl⟩ := associate_eq_ok hitems
  cases h
  obtain ⟨shopId, hshop, hroom, rfl, rfl⟩ := Store.insertCampaign_eq_ok hinsert
  refine ⟨rfl, shopId, hshop, ?_, hname, hroom, ?_⟩
  · rw [Campaign.Fits, Associations.ids]
    simp only [List.all_append, hshopFits, hshootingFits, hcategoriesFit, hitemsFit, Bool.and_self]
  · rw [Store.foldl_associations]

theorem run_createCampaign {c : Campaign} {shopId : Int} (hshop : c.shopId = some shopId)
    (hfits : c.Fits) (hname : Text.IsPlain c.name) {s : Store} (hfirst : 0 ≤ s.lastCampaignId)
    (hroom : s.lastCampaignId < Store.maxId) :
    (createCampaign c).run (.ready s) =
      (.ok { c with id := some (s.lastCampaignId + 1) }, .ready (s.withCampaign shopId c)) := by
  simp only [Campaign.Fits, Associations.ids, List.all_append, Bool.and_eq_true] at hfits
  obtain ⟨hshopFits, ⟨hshooting, hcategories⟩, hitems⟩ := hfits
  have hid : fitsInt64 (s.lastCampaignId + 1) = true := by
    rw [Store.maxId] at hroom
    rw [fitsInt64, Bool.and_eq_true, decide_eq_true_iff, decide_eq_true_iff]
    omega
  have hinsert := run_attempt_of_bindable (Campaign.isBindable_cells_iff.mpr ⟨hshopFits, hname⟩)
    .campaignCreation .campaigns (·.insertCampaign c) s
  rw [Store.insertCampaign_of_room hshop hroom] at hinsert
  rw [createCampaign, run_transaction, run_bind_ok hinsert,
    run_bind_ok (run_associate _ hid hshooting _), run_bind_ok (run_associate _ hid hcategories _),
    run_bind_ok (run_associate _ hid hitems _), Store.foldl_associations]
  rfl

theorem run_createCampaign_of_not_plain {c : Campaign} {shopId : Int}
    (hshop : c.shopId = some shopId) (hfits : fitsInt64 shopId = true)
    (hname : ¬ Text.IsPlain c.name) (s : Store) :
    (createCampaign c).run (.ready s) = (.error (.textUnencodable c.name), .ready s) := by
  have hfailure : c.cells.findSome? bindFailure? = some (.textUnencodable c.name) := by
    have hid : bindFailure? (.integer shopId) = none := if_pos hfits
    have htext : bindFailure? (.text c.name) = some (.textUnencodable c.name) :=
      if_neg fun h => hname ((Text.isPlain_eq_true_iff c.name).mp h)
    rw [Campaign.cells, hshop, List.findSome?_cons, Cell.ofOption, hid, List.findSome?_cons, htext]
  rw [createCampaign, run_transaction, run_bind_error (run_attempt_of_bindFailure hfailure ..)]

end Session

namespace Operation

/-- Whether an operation is one that the service offers. The others are maintenance. -/
def isService : Operation → Bool
  | .replacePublishedForm .. | .setCategoryColumn .. | .setItemColumn .. | .putDraftText .. => false
  | _ => true

/-- Whether an operation may write to tables that are there already. -/
def isWrite : Operation → Bool
  | .createShootingCategory .. | .createCampaign .. | .replacePublishedForm .. | .deleteDraft ..
  | .saveDraft .. | .addStep .. | .removeStep .. | .publish .. | .setCategoryColumn ..
  | .setItemColumn .. | .putDraftText .. => true
  | _ => false

theorem run_saveDraft_ok {d : Draft} {shopId : Int} (hshop : d.shopId = some shopId)
    (hfits : [shopId, d.shootingCategoryId].all fitsInt64 = true) (hplain : d.toJson.HasPlainTexts)
    (s : Store) :
    (saveDraft d).run (.ready s) =
      (.ok (.draft d), .ready (s.putDraftText shopId d.shootingCategoryId d.toText)) := by
  rw [run, perform, Session.run_map, Session.run_saveDraft_ok hshop hfits hplain]
  rfl

/-- What an operation of the service makes of a store. -/
inductive Step (s : Store) : Operation → Except Failure Answer → Store → Prop where
  | failed (op : Operation) (e : Failure) : Step s op (.error e) s
  | read {op : Operation} (h : op.isWrite = false) (a : Answer) : Step s op (.ok a) s
  | createdShootingCategory {c : ShootingCategory} {draws : List Nat} {id : Int} {after : Store}
      (h : s.insertShootingCategory c draws = .ok (id, after)) (hfits : c.Fits) :
      Step s (.createShootingCategory c draws)
        (.ok (.shootingCategory { c with id := some id })) after
  | createdCampaign {c : Campaign} {shopId : Int} (h : c.shopId = some shopId) (hfits : c.Fits)
      (hname : Text.IsPlain c.name) (hroom : s.lastCampaignId < Store.maxId) :
      Step s (.createCampaign c) (.ok (.campaign { c with id := some (s.lastCampaignId + 1) }))
        (s.withCampaign shopId c)
  | deletedDraft (shopId form : Int) :
      Step s (.deleteDraft shopId form) (.ok .done) (s.deleteDraft shopId form)
  | savedDraft {d : Draft} {shopId : Int} (h : d.shopId = some shopId)
      (hplain : d.toJson.HasPlainTexts) :
      Step s (.saveDraft d) (.ok (.draft d))
        (s.putDraftText shopId d.shootingCategoryId d.toText)
  | addedStep {shopId form : Int} {type : FormSection} {category : DraftCategory}
      {condition : Option DraftCondition} {old d : Draft} {owner : Int}
      (hold : (Session.loadOrInitDraft shopId form "").run (.ready s) = (.ok old, .ready s))
      (hadd : old.addStep type category condition = .ok d) (h : d.shopId = some owner)
      (hplain : d.toJson.HasPlainTexts) :
      Step s (.addStep shopId form type category condition) (.ok (.draft d))
        (s.putDraftText owner d.shootingCategoryId d.toText)
  | removedStep {shopId form position : Int} {old : Draft} {owner : Int}
      (hold : s.storedDraft shopId form = .ok (some old))
      (h : (old.removeStep position).shopId = some owner)
      (hplain : (old.removeStep position).toJson.HasPlainTexts) :
      Step s (.removeStep shopId form position) (.ok (.draft (old.removeStep position)))
        (s.putDraftText owner (old.removeStep position).shootingCategoryId
          (old.removeStep position).toText)
  | published {shopId form : Int} {d : Draft} (hd : s.storedDraft shopId form = .ok (some d))
      (hvalid : d.isValid = true) (hfits : d.customerForm.Fits shopId form)
      (haccepts : s.Accepts shopId form d.customerForm) :
      Step s (.publish shopId form) (.ok (.records d.customerForm))
        (s.withForm shopId form d.customerForm)

theorem readOnly_of_not_isWrite {op : Operation} (h : op.isWrite = false) (s : Store) :
    (op.run (.ready s)).2 = .ready s := by
  cases op with
  | initSchema => rfl
  | listShootingCategories shopId =>
    exact (Session.readOnly_listShootingCategories shopId).map _ (.ready s)
  | getShootingCategory shopId id =>
    exact (Session.readOnly_getShootingCategory shopId id).map _ (.ready s)
  | listCampaigns shopId => exact (Session.readOnly_listCampaigns shopId).map _ (.ready s)
  | listCategories n shopId form =>
    exact (Session.readOnly_listCategories n shopId form).map _ (.ready s)
  | listItems shopId category => exact (Session.readOnly_listItems shopId category).map _ (.ready s)
  | getDraft shopId form => exact (Session.readOnly_getDraft shopId form).map _ (.ready s)
  | loadDraft shopId form => exact (Session.readOnly_loadDraft shopId form).map _ (.ready s)
  | loadOrInitDraft shopId form name =>
    exact (Session.readOnly_loadOrInitDraft shopId form name).map _ (.ready s)
  | validateDraft shopId form => exact (Session.readOnly_loadDraft shopId form).map _ (.ready s)
  | previewDraft shopId form => exact (Session.readOnly_previewDraft shopId form).map _ (.ready s)
  | loadForm n shopId form => exact (Session.readOnly_loadForm n shopId form).map _ (.ready s)
  | quote n shopId form values selected today rate =>
    exact (Session.readOnly_quote n shopId form values selected today rate).map _ (.ready s)
  | _ => cases h

theorem step_of_run {op : Operation} (hop : op.isService = true) (s : Store) :
    ∃ after, (op.run (.ready s)).2 = .ready after ∧
      Step s op (op.run (.ready s)).1 after := by
  rcases hrun : op.run (.ready s) with ⟨e | a, db⟩
  · have hsame := run_of_error (congrArg Prod.fst hrun)
    rw [hrun] at hsame
    exact ⟨s, hsame, .failed op e⟩
  cases hwrite : op.isWrite with
  | false =>
    have hsame := readOnly_of_not_isWrite hwrite s
    rw [hrun] at hsame
    exact ⟨s, hsame, .read hwrite a⟩
  | true =>
    cases op with
    | createShootingCategory c draws =>
      obtain ⟨created, hcreate, rfl⟩ := Session.map_eq_ok hrun
      obtain ⟨id, db', hattempt, hrest⟩ := Session.bind_eq_ok hcreate
      obtain ⟨hcells, after, hinsert, rfl⟩ := Session.attempt_eq_ok hattempt
      cases hrest
      exact ⟨after, rfl, .createdShootingCategory hinsert
        (ShootingCategory.isBindable_cells_iff.mp hcells)⟩
    | createCampaign c =>
      obtain ⟨created, hcreate, rfl⟩ := Session.map_eq_ok hrun
      obtain ⟨rfl, shopId, hshop, hfits, hname, hroom, rfl⟩ :=
        Session.createCampaign_eq_ok hcreate
      exact ⟨_, rfl, .createdCampaign hshop hfits hname hroom⟩
    | deleteDraft shopId form =>
      obtain ⟨u, db', hdelete, hrest⟩ := Session.bind_eq_ok hrun
      obtain ⟨-, rfl⟩ := Session.write_eq_ok hdelete
      cases hrest
      exact ⟨_, rfl, .deletedDraft shopId form⟩
    | saveDraft d =>
      obtain ⟨saved, hsave, rfl⟩ := Session.map_eq_ok hrun
      obtain ⟨rfl, hplain, shopId, hshop, rfl⟩ := Session.saveDraft_eq_ok hsave
      exact ⟨_, rfl, .savedDraft hshop hplain⟩
    | addStep shopId form type category condition =>
      obtain ⟨d, hadded, rfl⟩ := Session.map_eq_ok hrun
      obtain ⟨old, owner, hold, hadd, hplain, howner, rfl⟩ := Session.addStep_eq_ok hadded
      exact ⟨_, rfl, .addedStep hold hadd howner hplain⟩
    | removeStep shopId form position =>
      obtain ⟨d, hremoved, rfl⟩ := Session.map_eq_ok hrun
      obtain ⟨old, owner, hold, rfl, hplain, howner, rfl⟩ := Session.removeStep_eq_ok hremoved
      exact ⟨_, rfl, .removedStep hold howner hplain⟩
    | publish shopId form =>
      obtain ⟨r, hpublish, rfl⟩ := Session.map_eq_ok hrun
      obtain ⟨d, hd, hvalid, rfl, hfits, haccepts, rfl⟩ := Session.publish_eq_ok hpublish
      exact ⟨_, rfl, .published hd hvalid hfits haccepts⟩
    | replacePublishedForm shopId form categories items => cases hop
    | setCategoryColumn id column value => cases hop
    | setItemColumn id column value => cases hop
    | putDraftText shopId form text => cases hop
    | _ => cases hwrite

end Operation

end StudioQuote
