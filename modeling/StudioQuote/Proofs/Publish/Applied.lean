import StudioQuote.Proofs.Publish.Overwritten
import StudioQuote.Proofs.Publish.Quote
import StudioQuote.Proofs.Quote.Growth
import StudioQuote.Proofs.Service.Created

/-!
# The campaign of a quote

A quote is discounted by the first campaign of the shop, in the order of creation, that
is active on the day and is for something the quote charges: for an item, for the category
of an item, or for the whole form when anything is charged. The ids of items are distinct
after every run, so a charged id stands for one item.
-/

namespace StudioQuote

open Json Number

namespace Session

theorem loadForm_eq_ok {n : Nesting} {shopId key : Int} {s : Store} {form : PublishedForm}
    {after : Database} (h : (loadForm n shopId key).run (.ready s) = (.ok form, after)) :
    ∃ categories items campaigns,
      (listCategories n shopId (some key)).run (.ready s) = (.ok categories, .ready s) ∧
      (listItems shopId none).run (.ready s) = (.ok items, .ready s) ∧
      (listCampaigns shopId).run (.ready s) = (.ok campaigns, .ready s) ∧
      form = ⟨categories,
        items.filter fun i => (categories.map Category.id).contains i.categoryId,
        campaigns.filter Campaign.isActive⟩ ∧ after = .ready s := by
  obtain ⟨categories, hcategories, h⟩ := (readOnly_listCategories _ _ _).bind_eq_ok h
  obtain ⟨items, hitems, h⟩ := (readOnly_listItems _ _).bind_eq_ok h
  obtain ⟨campaigns, hcampaigns, h⟩ := (readOnly_listCampaigns _).bind_eq_ok h
  cases h
  exact ⟨categories, items, campaigns, hcategories, hitems, hcampaigns, rfl, rfl⟩

end Session

theorem ItemRow.id_of_read {r : ItemRow} {i : Item} (h : r.read = .ok i) : i.id = r.id := by
  simp only [read, Item.ofMembers, Reading.seq_eq_ok_iff, Reading.map_eq_ok_iff] at h
  obtain ⟨_, _, ⟨_, _, ⟨_, _, ⟨_, _, ⟨_, _, ⟨_, _, ⟨_, _, ⟨_, _, ⟨_, _, ⟨id, hid, rfl⟩, -, rfl⟩,
    -, rfl⟩, -, rfl⟩, -, rfl⟩, -, rfl⟩, -, rfl⟩, -, rfl⟩, -, rfl⟩, -, rfl⟩ := h
  cases hid
  rfl

namespace Session

/-- The items that are read for a shop have distinct ids. -/
theorem nodup_listItems {shopId : Int} {s : Store} {items : List Item} {after : Database}
    (hs : s.ItemIdsDistinct) (h : (listItems shopId none).run (.ready s) = (.ok items, after)) :
    (items.map Item.id).Nodup := by
  rw [run_listItems_eq] at h
  split at h
  · have hread := mapM_eq_ok_iff.mp (congrArg Prod.fst h)
    have hsame : List.Forall₂ (fun r i => ItemRow.id r = Item.id i) (s.itemsOf shopId none)
        items :=
      hread.imp fun r i hi => (ItemRow.id_of_read (readOutcome_eq_ok_iff.mp hi)).symm
    have hids : (s.itemsOf shopId none).map ItemRow.id = items.map Item.id := by
      rw [← List.forall₂_eq_eq_eq, List.forall₂_map_left_iff, List.forall₂_map_right_iff]
      exact hsame
    rw [← hids]
    refine ((List.mergeSort_perm _ _).map ItemRow.id).nodup_iff.mpr ?_
    exact hs.sublist (List.filter_sublist.map ItemRow.id)
  · cases h

end Session

namespace Item

theorem mem_resolve_iff {items : List Item} (h : (items.map Item.id).Nodup) {ids : List Int}
    {i : Item} : i ∈ resolve ids items ↔ i ∈ items ∧ i.id ∈ ids := by
  rw [resolve, List.mem_filterMap]
  constructor
  · rintro ⟨id, hid, hfind⟩
    obtain ⟨hmem, rfl⟩ := (find?_key_eq_some_iff h).mp hfind
    exact ⟨hmem, List.mem_eraseDups.mp hid⟩
  · rintro ⟨hmem, hid⟩
    exact ⟨i.id, List.mem_eraseDups.mpr hid, (find?_key_eq_some_iff h).mpr ⟨hmem, rfl⟩⟩

end Item

namespace Campaign

/-- Whether a campaign is for some of the items with the given ids: for one of them, for its
category, or for the shooting category when there are any. -/
def Covers (items : List Item) (ids : List Int) (key : Int) (c : Campaign) : Prop :=
  (∃ i ∈ items, i.id ∈ ids ∧
    (i.id ∈ c.associations.itemIds ∨ i.categoryId ∈ c.associations.categoryIds)) ∨
  ids ≠ [] ∧ key ∈ c.associations.shootingCategoryIds

instance (items : List Item) (ids : List Int) (key : Int) (c : Campaign) :
    Decidable (c.Covers items ids key) :=
  inferInstanceAs (Decidable (_ ∨ _))

theorem matchesSelection_resolve_iff {items : List Item} (h : (items.map Item.id).Nodup)
    {ids : List Int} (hids : ∀ id ∈ ids, ∃ i ∈ items, i.id = id) {key : Int} {c : Campaign} :
    c.matchesSelection (Item.resolve ids items) (some key) = true ↔ c.Covers items ids key := by
  simp only [matchesSelection, Covers, List.any_eq_true, Item.mem_resolve_iff h, Bool.or_eq_true,
    List.contains_iff_mem, Option.any_some]
  constructor
  · rintro ⟨i, ⟨hi, hid⟩, (hitem | hcategory) | hkey⟩
    · exact .inl ⟨i, hi, hid, .inl hitem⟩
    · exact .inl ⟨i, hi, hid, .inr hcategory⟩
    · exact .inr ⟨List.ne_nil_of_mem hid, hkey⟩
  · rintro (⟨i, hi, hid, hitem | hcategory⟩ | ⟨hne, hkey⟩)
    · exact ⟨i, ⟨hi, hid⟩, .inl (.inl hitem)⟩
    · exact ⟨i, ⟨hi, hid⟩, .inl (.inr hcategory)⟩
    · obtain ⟨id, hid⟩ := List.exists_mem_of_ne_nil ids hne
      obtain ⟨i, hi, rfl⟩ := hids id hid
      exact ⟨i, ⟨hi, hid⟩, .inr hkey⟩

/-- Whether a campaign is active on a day, and is for some of the items with the given ids. -/
def Applies (items : List Item) (ids : List Int) (key : Int) (today : Date) (c : Campaign) :
    Prop :=
  c.isActive = true ∧ c.startDate.le today = true ∧ today.le c.endDate = true ∧
    c.Covers items ids key

instance (items : List Item) (ids : List Int) (key : Int) (today : Date) (c : Campaign) :
    Decidable (c.Applies items ids key today) :=
  inferInstanceAs (Decidable (_ ∧ _))

/-- Campaigns that are not active need not be left out first. -/
theorem firstEligible_filter {items : List Item} (h : (items.map Item.id).Nodup) {ids : List Int}
    (hids : ∀ id ∈ ids, ∃ i ∈ items, i.id = id) (cs : List Campaign) (key : Int) (today : Date) :
    firstEligible (Item.resolve ids items) (cs.filter isActive) (some key) today =
      cs.find? fun c => c.Applies items ids key today := by
  rw [firstEligible, List.find?_filter]
  refine List.find?_congr fun c _ => ?_
  rw [decide_eq_decide, isEligible, isRunning, Bool.and_eq_true, Bool.and_eq_true,
    Bool.and_eq_true, matchesSelection_resolve_iff h hids, Applies, and_assoc, and_assoc,
    and_self_left]

end Campaign

theorem Quote.exists_item_of_mem_pricedIds {items : List Item} {visible ids : List Int} {id : Int}
    (h : id ∈ pricedIds items visible ids) : ∃ i ∈ items, i.id = id := by
  rcases mem_pricedIds_iff.mp h with ⟨-, hfind⟩ | ⟨i, hi, -, hid⟩
  · obtain ⟨i, hi, -⟩ := (Option.any_eq_true _ _).mp hfind
    have hkey := List.find?_some hi
    exact ⟨i, List.mem_of_find?_eq_some hi, beq_iff_eq.mp hkey⟩
  · exact ⟨i, hi, hid⟩

namespace Operation

theorem Change.itemIdsDistinct {s after : Store} {op : Operation}
    {outcome : Except Failure Answer} (hchange : Change s op outcome after)
    (h : s.ItemIdsDistinct) : after.ItemIdsDistinct := by
  cases hchange with
  | created hshop hfits hroom => exact h
  | replaced hnone hfits haccepts => exact h.withForm haccepts
  | overwritten hpatch hitems hcampaigns => exact hitems h
  | kept hnone hforms hcampaigns =>
    rw [Store.ItemIdsDistinct, hforms.items]
    exact h

theorem itemIdsDistinct_of_run (ops : List Operation) :
    ∃ s, (runAll ops fresh).2 = .ready s ∧ s.ItemIdsDistinct :=
  change_induction (I := fun _ s => s.ItemIdsDistinct) List.nodup_nil
    (fun _ _ _ _ h _ hchange => hchange.itemIdsDistinct h) ops

/-- What is listed for a shop are the campaigns that were created for it. -/
theorem eq_of_run_listCampaigns {ops : List Operation} {s : Store}
    (hholds : s.HoldsCampaigns (createdCampaigns ops)) {shopId : Int} {cs : List Campaign}
    {after : Database} (h : (Session.listCampaigns shopId).run (.ready s) = (.ok cs, after)) :
    cs = (createdCampaigns ops).filter (·.shopId == some shopId) := by
  rw [hholds.run_listCampaigns] at h
  split at h
  · refine eq_of_forall₂ (mapM_eq_ok_iff.mp (congrArg Prod.fst h)) fun c hc read hread => ?_
    exact (hholds.numbered c (List.mem_filter.mp hc).1).eq_of_reread hread
  · cases h

/-- A quote uses the first campaign that applies. After every run, whatever it did, the campaign
of a quote is the first one, among those that were created for the shop in the order of
their creation, that applies to what the quote charges; there is none if none applies. -/
theorem quote_applies_first_campaign (ops : List Operation) {n : Nesting} {shopId key : Int}
    {values : Answers} {ids : List Int} {today : Date} {rate : Decimal} {q : Quote}
    (hquote : ((quote n shopId key values ids today rate).run (runAll ops fresh).2).1 =
      .ok (.quote q)) :
    ∃ form, ((loadForm n shopId key).run (runAll ops fresh).2).1 = .ok (.form form) ∧
      (form.items.map Item.id).Nodup ∧ (∀ id ∈ q.selectedItemIds, ∃ i ∈ form.items, i.id = id) ∧
      q.price.appliedCampaign =
        ((createdCampaigns ops).filter (·.shopId == some shopId)).find? fun c =>
          c.Applies form.items q.selectedItemIds key today := by
  obtain ⟨s, hs, hholds⟩ := holdsCampaigns_of_run ops
  obtain ⟨t, ht, hdistinct⟩ := itemIdsDistinct_of_run ops
  obtain rfl := Database.ready.inj (ht.symm.trans hs)
  obtain ⟨form, after, hload, hbuild⟩ := quote_eq_ok hquote
  rw [hs] at hload ⊢
  have hloaded := hload
  obtain ⟨categories, items, campaigns, -, hitems, hlisted, rfl, rfl⟩ :=
    Session.loadForm_eq_ok hload
  obtain rfl := Quote.eq_build_of_build? _ _ _ _ _ _ hbuild
  have hnodup : ((items.filter fun i => (categories.map Category.id).contains i.categoryId).map
      Item.id).Nodup :=
    (Session.nodup_listItems hdistinct hitems).sublist (List.filter_sublist.map Item.id)
  refine ⟨_, ?_, hnodup, fun id hid => Quote.exists_item_of_mem_pricedIds hid, ?_⟩
  · rw [Operation.run, perform, Session.run_map, hloaded]
    rfl
  · rw [← eq_of_run_listCampaigns hholds hlisted]
    exact Campaign.firstEligible_filter hnodup
      (fun id hid => Quote.exists_item_of_mem_pricedIds hid) campaigns key today

/-- Until the end of February, for every form of portraits. -/
def winterCampaign : Campaign :=
  { shopId := some 1
    discountType := .percentage
    discountValue := ⟨false, 20, 0⟩
    startDate := ⟨2024, 1, 1, isCalendarDay_newYear⟩
    endDate := ⟨2024, 2, 29, by decide⟩
    associations := { shootingCategoryIds := [7] } }

/-- From April to June, for the makeup. -/
def springCampaign : Campaign :=
  { shopId := some 1
    discountType := .fixed
    discountValue := ⟨false, 500, 0⟩
    startDate := ⟨2024, 4, 1, by decide⟩
    endDate := ⟨2024, 6, 30, by decide⟩
    associations := { categoryIds := [20] } }

def campaignRun : List Operation :=
  [saveDraft portraitDraft, publish 1 7] ++ [createCampaign winterCampaign] ++
    [createCampaign springCampaign]

theorem createdCampaigns_portraitDraft :
    createdCampaigns [saveDraft portraitDraft, publish 1 7] = [] := by
  have hsave := createdCampaigns_append [] (saveDraft portraitDraft) rfl
  have hpublish := createdCampaigns_append [saveDraft portraitDraft] (publish 1 7)
    run_saveDraft_portraitDraft
  rw [List.nil_append] at hsave
  rw [hsave] at hpublish
  exact hpublish

theorem run_winterCampaign :
    (runAll ([saveDraft portraitDraft, publish 1 7] ++ [createCampaign winterCampaign]) fresh).2 =
        .ready ((portraitStore.withForm 1 7 portraitDraft.customerForm).withCampaign 1
          winterCampaign) ∧
      createdCampaigns ([saveDraft portraitDraft, publish 1 7] ++ [createCampaign winterCampaign]) =
        createdCampaigns [saveDraft portraitDraft, publish 1 7] ++
          [{ winterCampaign with id := some 1 }] :=
  runAll_createCampaign runAll_portraitDraft rfl (by decide) (by decide) (by decide) (by decide)

theorem createdCampaigns_campaignRun :
    createdCampaigns campaignRun =
      [{ winterCampaign with id := some 1 }, { springCampaign with id := some 2 }] := by
  obtain ⟨hwinter, hcreated⟩ := run_winterCampaign
  have hboth := (runAll_createCampaign (c := springCampaign) hwinter rfl (by decide) (by decide)
    (by decide) (by decide)).2
  rw [hcreated, createdCampaigns_portraitDraft] at hboth
  exact hboth

theorem lastPublished_campaignRun :
    lastPublished campaignRun 1 7 = some portraitDraft.customerForm := by
  have hwinter := lastPublished_append _ (createCampaign winterCampaign) runAll_portraitDraft 1 7
  have hspring := lastPublished_append _ (createCampaign springCampaign) run_winterCampaign.1 1 7
  rw [hwinter, lastPublished_portraitDraft] at hspring
  exact hspring

/-- Both campaigns are loaded with the form. -/
theorem loadForm_campaignRun (n : Nesting) :
    ∃ items, items.Perm portraitDraft.customerForm.items ∧
      (Session.loadForm n 1 7).run (runAll campaignRun fresh).2 =
        (.ok ⟨portraitDraft.customerForm.categories, items,
          [{ winterCampaign with id := some 1 }, { springCampaign with id := some 2 }]⟩,
            (runAll campaignRun fresh).2) := by
  obtain ⟨s, hs, -, hforms⟩ := holds_lastPublished campaignRun (by simp [campaignRun, isService])
  obtain ⟨t, ht, hcampaigns⟩ := holdsCampaigns_of_run campaignRun
  obtain rfl := Database.ready.inj (ht.symm.trans hs)
  have hreadable : ∀ op ∈ campaignRun, op.IsReadable := by
    intro op hop
    simp only [campaignRun, List.cons_append, List.nil_append, List.mem_cons, List.not_mem_nil,
      or_false] at hop
    rcases hop with rfl | rfl | rfl | rfl <;> rintro c ⟨⟩ <;> decide
  obtain ⟨items, listed, hlisted, hperm, hload⟩ := hforms.run_loadForm
    (readableCampaigns_of_run campaignRun (by simp [campaignRun, isService]) hreadable hs)
    n (by decide) lastPublished_campaignRun
  have heq := eq_of_run_listCampaigns hcampaigns hlisted
  rw [createdCampaigns_campaignRun] at heq
  obtain rfl : listed =
      [{ winterCampaign with id := some 1 }, { springCampaign with id := some 2 }] := heq
  exact ⟨items, hperm, hs ▸ hload⟩

theorem quote_campaignRun :
    ((quote default 1 7 [] [100, 101, 200] visitDay standardTaxRate).run (runAll campaignRun fresh).2).1 =
      .ok (.quote ⟨portraitDraft.sections [100, 101, 200], [100, 101, 200],
        ⟨16000, 500, 1550, 17050, some { springCampaign with id := some 2 }⟩⟩) := by
  obtain ⟨items, hperm, hload⟩ := loadForm_campaignRun default
  have hshort : ∀ c ∈ portraitDraft.customerForm.categories, IsShort c.id := by
    obtain ⟨s, -, -, hholds⟩ := holds_lastPublished campaignRun (by simp [campaignRun, isService])
    exact hholds.isShort_id lastPublished_campaignRun
  rw [Operation.run, perform, Session.run_map, Session.quote, Session.run_bind_ok hload,
    Draft.build?_customerForm (by decide) (by decide) hshort (by decide) hperm]
  rfl

/-- On the day of the visit the first campaign is over, so the second one applies. -/
theorem spring_campaign_is_applied :
    ∃ form, ((loadForm default 1 7).run (runAll campaignRun fresh).2).1 = .ok (.form form) ∧
      [{ winterCampaign with id := some 1 }, { springCampaign with id := some 2 }].find?
        (fun c => c.Applies form.items [100, 101, 200] 7 visitDay) =
          some { springCampaign with id := some 2 } := by
  obtain ⟨form, hform, -, -, hfirst⟩ := quote_applies_first_campaign campaignRun quote_campaignRun
  rw [createdCampaigns_campaignRun] at hfirst
  exact ⟨form, hform, hfirst.symm⟩

end Operation

end StudioQuote
