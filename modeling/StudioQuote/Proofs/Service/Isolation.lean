import StudioQuote.Proofs.Calendar
import StudioQuote.Proofs.Service.DraftMap
import StudioQuote.Proofs.Service.ShopPart

/-!
# What shops see of each other

Ids are shared by all shops, and neither the items of a form nor the associations of a
campaign are looked up by shop. Still a step of the service that is not addressed to a shop
leaves the part of that shop as it is: items stand in categories of their own shop, and a
campaign gets a number that no association has. So no shop sees what others do.
-/

namespace StudioQuote

open Number

namespace Store

/-- Whether every campaign has a number that was given already. -/
def NumberedCampaigns (s : Store) : Prop :=
  ∀ r ∈ s.campaigns, r.id ≤ s.lastCampaignId

theorem filter_append_of_ne {α : Type} {p : α → Bool} (as : List α) {bs : List α}
    (h : ∀ b ∈ bs, p b = false) : (as ++ bs).filter p = as.filter p := by
  have hnone : bs.filter p = [] := by
    rw [List.filter_eq_nil_iff]
    intro b hb
    rw [h b hb]
    exact Bool.false_ne_true
  rw [List.filter_append, hnone, List.append_nil]

theorem filter_concat_of_ne {α : Type} {p : α → Bool} (as : List α) {b : α} (h : p b = false) :
    (as ++ [b]).filter p = as.filter p := by
  apply filter_append_of_ne
  intro c hc
  obtain rfl := List.mem_singleton.mp hc
  exact h

section Writes

variable {s : Store} {shopId owner : Int} (hne : owner ≠ shopId)

theorem ofShop_insertShootingCategory {after : Store} {c : ShootingCategory}
    {draws : List Nat} {id : Int} (h : s.insertShootingCategory c draws = .ok (id, after))
    (hshop : c.shopId ≠ some shopId) : after.ofShop shopId = s.ofShop shopId := by
  obtain ⟨-, owner, howner, -, rfl⟩ := insertShootingCategory_eq_ok h
  have hother : (owner == shopId) = false := by
    rw [howner] at hshop
    simpa using hshop
  have hrows := filter_concat_of_ne (p := fun r => r.shopId == shopId) s.shootingCategories
    (b := ⟨id, owner, c.name, c.displayName, c.sortOrder, c.isActive⟩) hother
  simp only [ofShop, hrows]
  rfl

theorem NumberedCampaigns.not_ownedBy (h : s.NumberedCampaigns) (id : Int) :
    s.ownedBy shopId (s.lastCampaignId + 1, id) = false := by
  rw [ownedBy, List.any_eq_false]
  intro r hr heq
  have hle := h r (List.mem_filter.mp hr).1
  have hid : r.id = s.lastCampaignId + 1 := beq_iff_eq.mp heq
  omega

theorem NumberedCampaigns.filter_append (h : s.NumberedCampaigns) (rows : List AssociationRow)
    (ids : List Int) : (rows ++ ids.map (s.lastCampaignId + 1, ·)).filter (s.ownedBy shopId) =
      rows.filter (s.ownedBy shopId) := by
  apply filter_append_of_ne
  intro a ha
  obtain ⟨id, -, rfl⟩ := List.mem_map.mp ha
  exact h.not_ownedBy id

include hne

theorem campaignsOf_withCampaign (c : Campaign) :
    (s.withCampaign owner c).campaignsOf shopId = s.campaignsOf shopId := by
  apply filter_concat_of_ne
  simpa [CampaignRow.ofRecord] using hne

theorem ofShop_withCampaign (h : s.NumberedCampaigns) (c : Campaign) :
    (s.withCampaign owner c).ofShop shopId = s.ofShop shopId := by
  have howned : (s.withCampaign owner c).ownedBy shopId = s.ownedBy shopId := by
    funext a
    rw [ownedBy, ownedBy, campaignsOf_withCampaign hne]
  simp only [ofShop, campaignsOf_withCampaign hne, howned]
  simp only [withCampaign, h.filter_append]

theorem filter_drafts_deleteDraft (form : Int) :
    (s.deleteDraft owner form).drafts.filter (·.shopId == shopId) =
      s.drafts.filter (·.shopId == shopId) := by
  rw [deleteDraft, List.filter_filter]
  apply List.filter_congr
  intro r _
  cases hr : r.shopId == shopId with
  | false => rfl
  | true =>
    have hother : hasKey owner form r = false := by
      rw [Bool.eq_false_iff]
      intro hkey
      apply hne
      rw [← (hasKey_iff.mp hkey).1, beq_iff_eq.mp hr]
    rw [hother]
    rfl

theorem ofShop_deleteDraft (form : Int) :
    (s.deleteDraft owner form).ofShop shopId = s.ofShop shopId := by
  have hdrafts := filter_drafts_deleteDraft (s := s) hne form
  simp only [ofShop, hdrafts]
  rfl

theorem ofShop_putDraftText (form : Int) (text : String) :
    (s.putDraftText owner form text).ofShop shopId = s.ofShop shopId := by
  have hdrafts : (s.putDraftText owner form text).drafts.filter (·.shopId == shopId) =
      s.drafts.filter (·.shopId == shopId) := by
    refine Eq.trans ?_ (filter_drafts_deleteDraft (s := s) hne form)
    apply filter_concat_of_ne
    simpa using hne
  simp only [ofShop, hdrafts]
  rfl

theorem filter_categories_withForm (form : Int) (r : FormRecords) :
    (s.withForm owner form r).categories.filter (·.shopId == .integer shopId) =
      s.categories.filter (·.shopId == .integer shopId) := by
  have hnew : (s.withForm owner form r).categories.filter (·.shopId == .integer shopId) =
      (s.withoutForm owner form).categories.filter (·.shopId == .integer shopId) := by
    apply filter_append_of_ne
    intro row hrow
    obtain ⟨c, -, rfl⟩ := List.mem_map.mp hrow
    simpa [CategoryRow.ofRecord] using hne
  rw [hnew]
  change (s.categories.filter fun row => !row.belongsTo owner form).filter _ = _
  rw [List.filter_filter]
  apply filter_and_not
  intro row hrow
  rw [Bool.eq_false_iff]
  intro hbelongs
  have hshop := (CategoryRow.belongsTo_iff.mp hbelongs).1
  rw [beq_iff_eq.mp hrow] at hshop
  exact hne (Cell.integer.inj hshop).symm

/-- The items of a shop stand in categories of the shop, and these are in no form of another. -/
theorem Holds.not_isIn_of_shop {m : Forms} (h : s.Holds m) {row : ItemRow} (hrow : row ∈ s.items)
    (hshop : row.shopId = .integer shopId) (form : Int) : row.isIn (m.ids owner form) = false := by
  obtain ⟨a, b, howned⟩ := h.ownedItem row hrow
  have hmem := List.mem_filter.mpr ⟨hrow, howned⟩
  rw [h.items] at hmem
  obtain ⟨i, -, rfl⟩ := List.mem_map.mp hmem
  obtain rfl : a = shopId := Cell.integer.inj hshop
  exact h.isIn_of_ne (fun hkey => hne hkey.1.symm) howned

theorem filter_items_withForm {m : Forms} (h : s.Holds m) (form : Int) (r : FormRecords) :
    (s.withForm owner form r).items.filter (·.shopId == .integer shopId) =
      s.items.filter (·.shopId == .integer shopId) := by
  have hnew : (s.withForm owner form r).items.filter (·.shopId == .integer shopId) =
      (s.withoutForm owner form).items.filter (·.shopId == .integer shopId) := by
    apply filter_append_of_ne
    intro row hrow
    obtain ⟨i, -, rfl⟩ := List.mem_map.mp hrow
    simpa [ItemRow.ofRecord] using hne
  rw [hnew, h.items_withoutForm, List.filter_filter]
  apply List.filter_congr
  intro row hrow
  cases hshop : row.shopId == .integer shopId with
  | false => rfl
  | true => rw [h.not_isIn_of_shop hne hrow (beq_iff_eq.mp hshop), Bool.not_false, Bool.and_true]

theorem ofShop_withForm {m : Forms} (h : s.Holds m) (form : Int) (r : FormRecords) :
    (s.withForm owner form r).ofShop shopId = s.ofShop shopId := by
  have hcategories := filter_categories_withForm (s := s) hne form r
  have hitems := filter_items_withForm hne h form r
  simp only [ofShop, hcategories, hitems]
  rfl

end Writes

end Store

namespace Operation

theorem Step.numberedCampaigns {s after : Store} {op : Operation}
    {outcome : Except Failure Answer} (hstep : Step s op outcome after)
    (h : s.NumberedCampaigns) : after.NumberedCampaigns := by
  cases hstep with
  | createdShootingCategory hinsert =>
    obtain ⟨-, -, -, -, rfl⟩ := Store.insertShootingCategory_eq_ok hinsert
    exact h
  | createdCampaign hshop =>
    intro r hr
    change r.id ≤ s.lastCampaignId + 1
    rcases List.mem_append.mp hr with hold | hnew
    · have hle := h r hold
      omega
    · obtain rfl := List.mem_singleton.mp hnew
      exact Int.le_refl _
  | _ => exact h

/-- A draft is stored under the shop that the operation on it is addressed to. -/
theorem shopId_of_loadOrInitDraft {s : Store} (hkeyed : s.KeyedDrafts) {shopId form : Int}
    {old : Draft}
    (hload : (Session.loadOrInitDraft shopId form "").run (.ready s) = (.ok old, .ready s)) :
    old.shopId = some shopId := by
  obtain ⟨draft, middle, hget, hrest⟩ := Session.bind_eq_ok hload
  obtain ⟨hfits, hstored, rfl⟩ := Session.getDraft_eq_ok hget
  cases draft with
  | some d =>
    cases hrest
    exact (hkeyed.of_storedDraft hstored).1
  | none =>
    obtain ⟨name, middle, -, hrest⟩ := Session.bind_eq_ok hrest
    cases hrest
    rfl

/-- A step leaves the part of every shop as it is to which the operation is not addressed. -/
theorem Step.ofShop_eq {s after : Store} {op : Operation} {outcome : Except Failure Answer}
    (hstep : Step s op outcome after) {shopId : Int} (hshop : op.shop? ≠ some shopId)
    (hkeyed : s.KeyedDrafts) (hnumbered : s.NumberedCampaigns) {m : Forms} (hholds : s.Holds m) :
    after.ofShop shopId = s.ofShop shopId := by
  cases hstep with
  | failed e => rfl
  | read hread a => rfl
  | createdShootingCategory hinsert => exact Store.ofShop_insertShootingCategory hinsert hshop
  | @createdCampaign c owner howner =>
    have hne : owner ≠ shopId := fun h => hshop (howner.trans (congrArg some h))
    exact Store.ofShop_withCampaign hne hnumbered c
  | deletedDraft owner form =>
    exact Store.ofShop_deleteDraft (fun h => hshop (congrArg some h)) form
  | @savedDraft d owner howner =>
    have hne : owner ≠ shopId := fun h => hshop (howner.trans (congrArg some h))
    exact Store.ofShop_putDraftText hne _ _
  | @addedStep addressee form type category condition old d owner hold hadd howner =>
    have hne : owner ≠ shopId := by
      rintro rfl
      have hsame := shopId_of_loadOrInitDraft hkeyed hold
      rw [Draft.addStep_eq_ok hadd] at howner
      exact hshop (hsame.symm.trans howner)
    exact Store.ofShop_putDraftText hne _ _
  | @removedStep addressee form position old owner hold howner =>
    have hne : owner ≠ shopId := by
      rintro rfl
      have hsame := (hkeyed.of_storedDraft hold).1
      rw [Draft.removeStep_eq_withoutStep] at howner
      exact hshop (hsame.symm.trans howner)
    exact Store.ofShop_putDraftText hne _ _
  | published hd hvalid hfits haccepts =>
    exact Store.ofShop_withForm (fun h => hshop (congrArg some h)) hholds _ _

theorem numberedCampaigns_of_run (ops : List Operation) (hops : ∀ op ∈ ops, op.isService = true) :
    ∃ s, (runAll ops fresh).2 = .ready s ∧ s.NumberedCampaigns := by
  refine run_induction (I := fun _ s => s.NumberedCampaigns) ?_ ?_ ops hops
  · exact List.forall_mem_nil _
  · intro ops op s after h _ hstep
    exact hstep.numberedCampaigns h

/-- Whatever is run for other shops leaves the part of a shop as it was. -/
theorem ofShop_runAll_append (ops others : List Operation) (hops : ∀ op ∈ ops, op.isService = true)
    {shopId : Int} (hothers : ∀ op ∈ others, op.isService = true ∧ op.shop? ≠ some shopId) :
    ∃ s after, (runAll ops fresh).2 = .ready s ∧ (runAll (ops ++ others) fresh).2 = .ready after ∧
      after.ofShop shopId = s.ofShop shopId := by
  induction others using List.reverseRecOn with
  | nil =>
    obtain ⟨s, hs, -⟩ := numberedCampaigns_of_run ops hops
    rw [List.append_nil]
    exact ⟨s, s, hs, hs, rfl⟩
  | append_singleton others op ih =>
    have hrest : ∀ op ∈ others, op.isService = true ∧ op.shop? ≠ some shopId :=
      fun op hop => hothers op (List.mem_append_left _ hop)
    obtain ⟨hservice, hshop⟩ := hothers op (List.mem_append_right _ List.mem_cons_self)
    obtain ⟨s, middle, hs, hmiddle, hsame⟩ := ih hrest
    have hall : ∀ op ∈ ops ++ others, op.isService = true := by
      intro op hop
      rcases List.mem_append.mp hop with hop | hop
      · exact hops op hop
      · exact (hrest op hop).1
    -- all that the step relies on holds after any run
    obtain ⟨t, ht, hkeyed, hholds⟩ := holds_lastPublished (ops ++ others) hall
    obtain ⟨u, hu, hnumbered⟩ := numberedCampaigns_of_run (ops ++ others) hall
    obtain rfl := Database.ready.inj (ht.symm.trans hmiddle)
    obtain rfl := Database.ready.inj (hu.symm.trans ht)
    obtain ⟨after, hafter, hstep⟩ := step_of_run hservice u
    refine ⟨s, after, hs, ?_, ?_⟩
    · rw [← List.append_assoc, runAll_concat, hmiddle]
      exact hafter
    · exact (hstep.ofShop_eq hshop hkeyed hnumbered hholds).trans hsame

/-- No shop sees what others do. After every run of the service, whatever is read for a shop has
the same outcome as after any further operations that are not addressed to this shop,
whether these succeed or fail. -/
theorem tenants_are_isolated (ops others : List Operation)
    (hops : ∀ op ∈ ops, op.isService = true) {shopId : Int}
    (hothers : ∀ op ∈ others, op.isService = true ∧ op.shop? ≠ some shopId) {read : Operation}
    (hread : read.isWrite = false) (hshop : read.shop? = some shopId) :
    (read.run (runAll (ops ++ others) fresh).2).1 = (read.run (runAll ops fresh).2).1 := by
  obtain ⟨s, after, hs, hafter, hsame⟩ := ofShop_runAll_append ops others hops hothers
  have hbefore := agrees_perform hread hshop s
  have hlater := agrees_perform hread hshop after
  rw [hsame] at hlater
  rw [hs, hafter]
  exact hlater.symm.trans hbefore

/-- A campaign of the other shop for an item that is not its own. -/
def rivalCampaign : Campaign :=
  { shopId := some 2
    discountType := .percentage
    discountValue := ⟨false, 100, 0⟩
    startDate := ⟨2024, 1, 1, isCalendarDay_newYear⟩
    endDate := ⟨2024, 12, 31, isCalendarDay_yearEnd⟩
    associations := { itemIds := [100] } }

/-- A second shop drafts the same form, fails to publish it, and gives a discount on an item of
the first one. The quotes of the first shop stay what they are. -/
theorem rival_changes_no_quote :
    ((quote default 1 7 [] [100, 200] ⟨2024, 5, 1, by decide⟩ standardTaxRate).run
        (runAll ([saveDraft portraitDraft, publish 1 7] ++
          [saveDraft { portraitDraft with shopId := some 2 }, publish 2 7,
            createCampaign rivalCampaign, deleteDraft 2 7]) fresh).2).1 =
      ((quote default 1 7 [] [100, 200] ⟨2024, 5, 1, by decide⟩ standardTaxRate).run
        (runAll [saveDraft portraitDraft, publish 1 7] fresh).2).1 := by
  have hshop : (quote default 1 7 [] [100, 200] ⟨2024, 5, 1, by decide⟩
      standardTaxRate).shop? = some 1 := rfl
  refine tenants_are_isolated _ _ ?_ ?_ rfl hshop
  · simp [isService]
  · simp [isService, shop?, rivalCampaign]

end Operation

end StudioQuote
