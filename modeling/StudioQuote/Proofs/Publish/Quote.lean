import StudioQuote.Proofs.Draft.Offer
import StudioQuote.Proofs.Publish.Listing
import StudioQuote.Proofs.Service.Campaigns

/-!
# Quotes on published forms

A form is loaded as it was published, its items in another order and with the active
campaigns of the shop. So a quote on it shows and charges what the published draft makes
visible. It fails only if its price is beyond what decimal arithmetic can hold.
-/

namespace StudioQuote

open Number

namespace Store.Holds

variable {s : Store} {m : Forms}

theorem run_loadForm (h : s.Holds m) (hcampaigns : s.ReadableCampaigns) (n : Json.Nesting)
    {shopId form : Int} (hkey : [shopId, form].all fitsInt64 = true) {r : FormRecords} (hr : m shopId form = some r) :
    ∃ items campaigns, (Session.listCampaigns shopId).run (.ready s) = (.ok campaigns, .ready s) ∧
      items.Perm r.items ∧ (Session.loadForm n shopId form).run (.ready s) =
        (.ok ⟨r.categories, items, campaigns.filter Campaign.isActive⟩, .ready s) := by
  have hshop : fitsInt64 shopId = true := (Bool.and_eq_true_iff.mp hkey).1
  have hcategories := h.run_listCategories n shopId form
  rw [if_pos hkey, Forms.categories, hr] at hcategories
  obtain ⟨is, hitems, -, -, hforms⟩ := h.run_listItems hshop
  obtain ⟨campaigns, hlisted⟩ := Session.exists_run_listCampaigns hcampaigns hshop
  have hform := hforms form
  rw [Forms.ids, Forms.categories, Forms.items, hr] at hform
  refine ⟨is.filter fun i => (r.categories.map Category.id).contains i.categoryId, campaigns,
    hlisted, ?_, ?_⟩
  · exact hform ▸ List.mergeSort_perm r.items Item.byPosition
  · rw [Session.loadForm, Session.run_bind_ok hcategories, Session.run_bind_ok hitems,
      Session.run_bind_ok hlisted]
    rfl

/-- The ids of a published form were stored, so its fields have short names. -/
theorem isShort_id (h : s.Holds m) {shopId form : Int} {r : FormRecords}
    (hr : m shopId form = some r) : ∀ c ∈ r.categories, IsShort c.id := by
  intro c hc
  have hfits := (h.compiled shopId form r hr).1.category c hc
  rw [Category.parameters, List.all_cons, Bool.and_eq_true_iff] at hfits
  exact Json.isShort_of_fits hfits.1

theorem run_quote (h : s.Holds m) (hcampaigns : s.ReadableCampaigns) (n : Json.Nesting)
    {shopId form : Int} (hkey : [shopId, form].all fitsInt64 = true) {d : Draft}
    (hd : m shopId form = some d.customerForm) (hcategories : d.categoryIds.Nodup)
    (hids : d.itemIds.Nodup) (hresolves : d.Resolves) (ids : List Int) (today : Date)
    (rate : Decimal) :
    ∃ campaigns, (Session.listCampaigns shopId).run (.ready s) = (.ok campaigns, .ready s) ∧
      (Session.quote n shopId form [] ids today rate).run (.ready s) =
        (match PriceBreakdown.ofSelection? (Item.resolve (d.chargedIds ids) d.customerForm.items)
            (campaigns.filter Campaign.isActive) (some form) today rate with
          | .ok price => .ok ⟨d.sections ids, d.chargedIds ids, price⟩
          | .error fault => .error (.amount fault), .ready s) := by
  obtain ⟨items, campaigns, hlisted, hperm, hload⟩ := h.run_loadForm hcampaigns n hkey hd
  refine ⟨campaigns, hlisted, ?_⟩
  rw [Session.quote, Session.run_bind_ok hload,
    Draft.build?_customerForm hcategories hids (h.isShort_id hd) hresolves hperm]
  cases PriceBreakdown.ofSelection? (Item.resolve (d.chargedIds ids) d.customerForm.items)
    (campaigns.filter Campaign.isActive) (some form) today rate with
  | error fault => rfl
  | ok price => rfl

end Store.Holds

namespace Operation

/-- A published form behaves as its draft says. After every run of the service, when a stored
draft is published whose conditions each name a trigger step and exactly one of its items, a
quote on any selection shows and charges what the draft makes visible, if its price can be
computed. -/
theorem quote_follows_draft (ops : List Operation) (hops : ∀ op ∈ ops, op.isService = true)
    (hreadable : ∀ op ∈ ops, op.IsReadable) {shopId form : Int} {d : Draft} {r : FormRecords}
    (hd : ((getDraft shopId form).run (runAll ops fresh).2).1 = .ok (.foundDraft (some d)))
    (hresolves : d.Resolves)
    (hpublish : ((publish shopId form).run (runAll ops fresh).2).1 = .ok (.records r))
    (n : Json.Nesting) (ids : List Int) (today : Date) (rate : Decimal) :
    ∃ campaigns,
      ((listCampaigns shopId).run (runAll (ops ++ [publish shopId form]) fresh).2).1 =
        .ok (.campaigns campaigns) ∧
      ((quote n shopId form [] ids today rate).run
          (runAll (ops ++ [publish shopId form]) fresh).2).1 =
        match PriceBreakdown.ofSelection? (Item.resolve (d.chargedIds ids) d.customerForm.items)
            (campaigns.filter Campaign.isActive) (some form) today rate with
        | .ok price => .ok (.quote ⟨d.sections ids, d.chargedIds ids, price⟩)
        | .error fault => .error (.amount fault) := by
  obtain ⟨s, hs, hkeyed, hholds⟩ := holds_lastPublished ops hops
  have hcampaigns := readableCampaigns_of_run ops hops hreadable hs
  rw [hs] at hd hpublish
  rw [runAll_concat, hs]
  rcases hrun : (publish shopId form).run (.ready s) with ⟨outcome, after⟩
  rw [hrun] at hpublish
  subst hpublish
  obtain ⟨published, hpublished, heq⟩ := Session.map_eq_ok hrun
  cases heq
  obtain ⟨stored, hstored, -, rfl, hfits, haccepts, rfl⟩ := Session.publish_eq_ok hpublished
  obtain rfl : stored = d := by
    have hget := Session.run_getDraft shopId form s
    rw [if_pos hfits.key, hstored] at hget
    rw [Operation.run, perform, Session.run_map, hget] at hd
    cases hd
    rfl
  have hcompiled : stored.customerForm.IsCompiled shopId form :=
    ⟨hfits, stored, (hkeyed.of_storedDraft hstored).1, rfl⟩
  have hcategories : stored.categoryIds.Nodup := by
    rw [← Draft.map_id_categories]
    exact haccepts.1.1
  have hids : stored.itemIds.Nodup := by
    rw [← Draft.map_id_items]
    exact haccepts.2.1
  obtain ⟨campaigns, hlisted, hquote⟩ := (hholds.withForm hcompiled haccepts).run_quote
    hcampaigns n hfits.key (Forms.publish_self _ shopId form _) hcategories hids hresolves
    ids today rate
  refine ⟨campaigns, ?_, ?_⟩
  · rw [Operation.run, perform, Session.run_map, hlisted]
    rfl
  · rw [Operation.run, perform, Session.run_map, hquote]
    cases PriceBreakdown.ofSelection? (Item.resolve (stored.chargedIds ids)
      stored.customerForm.items) (campaigns.filter Campaign.isActive) (some form) today rate with
    | error fault => rfl
    | ok price => rfl

def visitDay : Date := ⟨2024, 5, 1, isCalendarDay_mayDay⟩

theorem getDraft_portraitStore :
    ((getDraft 1 7).run (runAll [saveDraft portraitDraft] fresh).2).1 =
      .ok (.foundDraft (some portraitDraft)) := by
  rw [run_saveDraft_portraitDraft, Operation.run, perform, Session.run_map, Session.run_getDraft,
    storedDraft_portraitStore]
  rfl

theorem publish_portraitStore :
    ((publish 1 7).run (runAll [saveDraft portraitDraft] fresh).2).1 =
      .ok (.records portraitDraft.customerForm) := by
  rw [run_saveDraft_portraitDraft, run_publish_portraitStore]

theorem listCampaigns_portraitStore :
    ((listCampaigns 1).run (runAll ([saveDraft portraitDraft] ++ [publish 1 7]) fresh).2).1 =
      .ok (.campaigns []) := by
  have hrun := runAll_portraitDraft
  rw [List.singleton_append, hrun]
  rfl

/-- The makeup is offered and charged when the studio is selected first. -/
theorem portrait_quote_shows_makeup :
    ((quote default 1 7 [] [100, 101, 200] visitDay standardTaxRate).run
        (runAll ([saveDraft portraitDraft] ++ [publish 1 7]) fresh).2).1 =
      .ok (.quote ⟨portraitDraft.sections [100, 101, 200], [100, 101, 200],
        ⟨16000, 0, 1600, 17600, none⟩⟩) ∧
      (portraitDraft.sections [100, 101, 200]).conditional.map Category.id = [20] := by
  obtain ⟨campaigns, hlisted, hquote⟩ := quote_follows_draft [saveDraft portraitDraft]
    (by simp [isService]) (by simp [IsReadable]) getDraft_portraitStore (by decide)
    publish_portraitStore default [100, 101, 200] visitDay standardTaxRate
  obtain rfl : [] = campaigns := by
    rw [listCampaigns_portraitStore] at hlisted
    cases hlisted
    rfl
  have hprice : PriceBreakdown.ofSelection? (Item.resolve (portraitDraft.chargedIds [100, 101, 200])
      portraitDraft.customerForm.items) [] (some 7) visitDay standardTaxRate =
      .ok ⟨16000, 0, 1600, 17600, none⟩ :=
    rfl
  rw [List.filter_nil, hprice] at hquote
  exact ⟨hquote, by decide⟩

/-- The makeup and the album are held back when the outdoor shooting is selected first. -/
example : portraitDraft.chargedIds [101, 100, 200, 300] = [101, 100] := by decide

/-- A tax rate whose sum with one is beyond the limits of decimals. -/
def hugeTaxRate : Decimal := ⟨false, 1, 1000000⟩

/-- Without a price there is no quote, not even on an empty selection. -/
theorem portrait_quote_without_price :
    portraitDraft.isValid = true ∧ portraitDraft.categoryIds.Nodup ∧ portraitDraft.itemIds.Nodup ∧
      portraitDraft.Resolves ∧
      ((getDraft 1 7).run (runAll [saveDraft portraitDraft] fresh).2).1 =
        .ok (.foundDraft (some portraitDraft)) ∧
      ((publish 1 7).run (runAll [saveDraft portraitDraft] fresh).2).1 =
        .ok (.records portraitDraft.customerForm) ∧
      ((quote default 1 7 [] [] visitDay hugeTaxRate).run
          (runAll ([saveDraft portraitDraft] ++ [publish 1 7]) fresh).2).1 =
        .error (.amount .overflow) := by
  refine ⟨by decide, by decide, by decide, by decide, getDraft_portraitStore,
    publish_portraitStore, ?_⟩
  obtain ⟨s, hs, -, hholds⟩ := holds_lastPublished ([saveDraft portraitDraft] ++ [publish 1 7])
    (by simp [isService])
  obtain ⟨campaigns, hlisted, hquote⟩ := hholds.run_quote
    (readableCampaigns_of_run _ (by simp [isService]) (by simp [IsReadable]) hs) default
    (by decide) lastPublished_portraitDraft (by decide) (by decide) (by decide) [] visitDay
    hugeTaxRate
  obtain rfl : [] = campaigns := by
    have hnone := listCampaigns_portraitStore
    rw [hs, Operation.run, perform, Session.run_map, hlisted] at hnone
    cases hnone
    rfl
  have hprice : PriceBreakdown.ofSelection? (Item.resolve (portraitDraft.chargedIds [])
      portraitDraft.customerForm.items) [] (some 7) visitDay hugeTaxRate = .error .overflow :=
    rfl
  rw [List.filter_nil, hprice] at hquote
  rw [hs, Operation.run, perform, Session.run_map, hquote]
  rfl

end Operation

end StudioQuote
