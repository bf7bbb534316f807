import StudioQuote.Proofs.Catalogue.Record
import StudioQuote.Proofs.Publish.Applied

/-!
# Loaded forms

As long as no column is overwritten by hand, every row of a category or an item is that of
a record whose integers could be stored, and every rule is read from a text that was written
for one. So the JSON of a form that can be loaded is read as that form, and all integers
in it are short.
-/

namespace StudioQuote

open Json Number

namespace Rule

theorem deciding_of_ofText {n : Nesting} {text : String} {r : Rule}
    (h : ofText n text = .ok (some r)) : r.deciding = r := by
  rw [ofText] at h
  split at h
  · cases h
  · split at h
    · rename_i v _
      cases v with
      | null => cases h
      | _ =>
        obtain rfl := Option.some.inj (Except.ok.inj h)
        exact deciding_load _
    · cases h
      rfl
    · cases h

theorem hasShortIntegers_deciding {r : Rule} (h : r.toStoredJson.HasShortIntegers) :
    r.deciding.toStoredJson.HasShortIntegers := by
  obtain ⟨_ | clauses, anyOf⟩ := r
  · exact h
  · rw [toStoredJson, hasShortIntegers_obj, List.forall_mem_append] at h
    rw [deciding, toStoredJson, hasShortIntegers_obj]
    exact h.1

/-- The integers of a rule that is read from the text of one were short enough to be read. -/
theorem hasShortIntegers_of_ofText_toText {n : Nesting} {stored r : Rule}
    (h : ofText n stored.toText = .ok (some r)) : r.toJson.HasShortIntegers := by
  rw [hasShortIntegers_toJson]
  rw [ofText, if_neg stored.toText_ne_empty, toText, read_write readable_spaced] at h
  cases hcheck : check (.loose n) stored.toStoredJson with
  | ok u =>
    rw [hcheck, reread_toStoredJson] at h
    have hload : load stored.reread.toStoredJson = r := Option.some.inj (Except.ok.inj h)
    have hshort := (check_loose_eq_ok_iff stored.regular_toStoredJson (by decide) n).mp hcheck
    rw [← hload, load_toStoredJson]
    refine hasShortIntegers_deciding ?_
    rw [← reread_toStoredJson]
    exact hshort.reread
  | error fault =>
    rw [hcheck] at h
    cases fault with
    | malformed =>
      cases h
      decide
    | integerTooLong digits => cases h
    | nestedTooDeep container => cases h

end Rule

/-! ## Rows of records -/

namespace Store

/-- Whether every row of a category or an item is that of a record that could be stored. -/
structure HoldsRecords (s : Store) : Prop where
  categories : ∀ r ∈ s.categories, ∃ shopId form c, r = .ofRecord shopId form c ∧
    (c.parameters shopId form).all fitsInt64 = true
  items : ∀ r ∈ s.items, ∃ shopId i, r = .ofRecord shopId i ∧
    (i.parameters shopId).all fitsInt64 = true

theorem holdsRecords_empty : empty.HoldsRecords where
  categories _ h := nomatch h
  items _ h := nomatch h

theorem HoldsRecords.withForm {s : Store} (h : s.HoldsRecords) {shopId form : Int} {r : FormRecords}
    (hfits : r.Fits shopId form) : (s.withForm shopId form r).HoldsRecords where
  categories row hrow := by
    rcases List.mem_append.mp hrow with hold | hnew
    · exact h.categories row (List.mem_filter.mp hold).1
    · obtain ⟨c, hc, rfl⟩ := List.mem_map.mp hnew
      exact ⟨shopId, form, c, rfl, hfits.category c hc⟩
  items row hrow := by
    rcases List.mem_append.mp hrow with hold | hnew
    · exact h.items row (List.mem_filter.mp hold).1
    · obtain ⟨i, hi, rfl⟩ := List.mem_map.mp hnew
      exact ⟨shopId, i, rfl, hfits.item i hi⟩

end Store

/-! ## Reading rows -/

theorem CategoryRow.deciding_of_storedRule {n : Nesting} {r : CategoryRow} {rule : Option Rule}
    (h : r.storedRule n = .ok rule) : rule.map Rule.deciding = rule := by
  cases rule with
  | none => rfl
  | some found =>
    rw [storedRule] at h
    split at h
    · rw [Option.map_some, Rule.deciding_of_ofText h]
    · cases h

theorem CategoryRow.hasShortIntegers_of_storedRule {n : Nesting} {shopId form : Int}
    {c : Category} {rule : Option Rule} (h : (ofRecord shopId form c).storedRule n = .ok rule)
    {r : Rule} (hr : rule = some r) : r.toJson.HasShortIntegers := by
  subst hr
  rw [storedRule, ofRecord] at h
  cases hrule : c.rule with
  | none =>
    rw [hrule] at h
    cases h
  | some stored =>
    rw [hrule] at h
    exact Rule.hasShortIntegers_of_ofText_toText h

theorem CategoryRow.rule_of_read {r : CategoryRow} {rule : Option Rule} {c : Category}
    (h : r.read rule = .ok c) : c.rule = rule := by
  obtain ⟨read, -, rfl⟩ := Reading.map_eq_ok_iff.mp h
  rfl

namespace Session

variable {n : Nesting}

theorem readCategory_eq_ok {r : CategoryRow} {c : Category} {db after : Database}
    (h : (readCategory n r).run db = (.ok c, after)) :
    ∃ rule, r.storedRule n = .ok rule ∧ r.read rule = .ok c := by
  rw [readCategory] at h
  split at h
  · cases h
  · rename_i rule hrule
    rw [run_reading] at h
    exact ⟨rule, hrule, readOutcome_eq_ok_iff.mp (congrArg Prod.fst h)⟩

variable {shopId : Int} {s : Store} {after : Database}

theorem listCategories_eq_ok {key : Int} {cs : List Category}
    (h : (listCategories n shopId (some key)).run (.ready s) = (.ok cs, after)) :
    [shopId, key].all fitsInt64 = true ∧ ∀ c ∈ cs, ∃ r ∈ s.categories, ∃ rule,
      r.storedRule n = .ok rule ∧ r.read rule = .ok c := by
  obtain ⟨rows, middle, hrows, hread⟩ := bind_eq_ok h
  obtain ⟨hfits, rfl, -⟩ := query_eq_ok hrows
  refine ⟨hfits, fun c hc => ?_⟩
  obtain ⟨r, hr, before, later, hcategory⟩ := exists_of_mem_mapM hread c hc
  exact ⟨r, (List.mem_filter.mp (List.mem_mergeSort.mp hr)).1, readCategory_eq_ok hcategory⟩

theorem listItems_eq_ok {is : List Item}
    (h : (listItems shopId none).run (.ready s) = (.ok is, after)) :
    ∀ i ∈ is, ∃ r ∈ s.items, r.read = .ok i := by
  obtain ⟨rows, middle, hrows, hread⟩ := bind_eq_ok h
  obtain ⟨-, rfl, -⟩ := query_eq_ok hrows
  intro i hi
  obtain ⟨r, hr, before, later, hitem⟩ := exists_of_mem_mapM hread i hi
  rw [run_reading] at hitem
  exact ⟨r, (List.mem_filter.mp (List.mem_mergeSort.mp hr)).1,
    readOutcome_eq_ok_iff.mp (congrArg Prod.fst hitem)⟩

end Session

namespace Store.HoldsRecords

variable {s : Store}

theorem hasShortIntegers_category (h : s.HoldsRecords) {n : Nesting} {r : CategoryRow}
    (hr : r ∈ s.categories) {rule : Option Rule} {c : Category} (hrule : r.storedRule n = .ok rule)
    (hread : r.read rule = .ok c) : c.toJson.HasShortIntegers := by
  obtain ⟨shopId, form, stored, rfl, hfits⟩ := h.categories r hr
  rw [CategoryRow.read_ofRecord] at hread
  obtain rfl := Reading.ok.inj hread
  exact Category.hasShortIntegers_toJson hfits fun r hr =>
    CategoryRow.hasShortIntegers_of_storedRule hrule hr

theorem hasShortIntegers_item (h : s.HoldsRecords) {r : ItemRow} (hr : r ∈ s.items) {i : Item}
    (hread : r.read = .ok i) : i.toJson.HasShortIntegers := by
  obtain ⟨shopId, stored, rfl, hfits⟩ := h.items r hr
  rw [ItemRow.read_ofRecord] at hread
  obtain rfl := Reading.ok.inj hread
  exact Item.hasShortIntegers_toJson hfits

end Store.HoldsRecords

namespace Campaign

theorem isRepresentable_of_reread {c read : Campaign} (h : c.reread = .ok read) :
    c.discountValue.isRepresentable = true :=
  (CampaignRow.of_read_ofRecord (Session.readOutcome_eq_ok_iff.mp h)).1

theorem IsNumbered.hasShortIntegers {last : Int} {c : Campaign} (h : c.IsNumbered last)
    (hlast : last ≤ Store.maxId) : c.toJson.HasShortIntegers := by
  obtain ⟨id, hid, hfirst, hle⟩ := h.number
  have hmax : Store.maxId = 2 ^ (63 : Nat) - 1 := rfl
  have hfits : fitsInt64 id = true := by
    rw [fitsInt64, Bool.and_eq_true, decide_eq_true_eq, decide_eq_true_eq]
    omega
  refine hasShortIntegers_toJson (fun n hn => ?_) h.fits
  obtain rfl := Option.some.inj (hid.symm.trans hn)
  exact isShort_of_fits hfits

end Campaign

namespace Operation

theorem Change.holdsRecords {s after : Store} {op : Operation} {outcome : Except Failure Answer}
    (hchange : Change s op outcome after) (hop : op.isPatch = false) (h : s.HoldsRecords) :
    after.HoldsRecords := by
  cases hchange with
  | created hshop => exact ⟨h.categories, h.items⟩
  | replaced hnone hfits haccepts => exact h.withForm hfits
  | overwritten hpatch hitems hcampaigns =>
    rw [hpatch] at hop
    cases hop
  | kept hnone hforms hcampaigns =>
    obtain ⟨categories, items⟩ := h
    rw [← hforms.categories] at categories
    rw [← hforms.items] at items
    exact ⟨categories, items⟩

theorem holdsRecords_of_run (ops : List Operation) (hops : ∀ op ∈ ops, op.isPatch = false)
    {s : Store} (hs : (runAll ops fresh).2 = .ready s) : s.HoldsRecords := by
  obtain ⟨t, ht, h⟩ := change_induction
    (I := fun ops s => (∀ op ∈ ops, op.isPatch = false) → s.HoldsRecords)
    (fun _ => Store.holdsRecords_empty)
    (fun ops op s after ih _ hchange hall => hchange.holdsRecords
      (hall op (List.mem_append_right _ List.mem_cons_self))
      (ih fun op hop => hall op (List.mem_append_left _ hop)))
    ops
  obtain rfl := Database.ready.inj (ht.symm.trans hs)
  exact h hops

/-- The campaigns that are listed were created, and their discounts could be read. -/
theorem of_run_listCampaigns {ops : List Operation} {s : Store}
    (hholds : s.HoldsCampaigns (createdCampaigns ops)) {shopId : Int} {cs : List Campaign}
    {after : Database} (h : (Session.listCampaigns shopId).run (.ready s) = (.ok cs, after)) :
    ∀ c ∈ cs, c ∈ createdCampaigns ops ∧ c.discountValue.isRepresentable = true := by
  have heq := eq_of_run_listCampaigns hholds h
  rw [hholds.run_listCampaigns] at h
  split at h
  · have hread := mapM_eq_ok_iff.mp (congrArg Prod.fst h)
    rw [← heq, List.forall₂_same] at hread
    intro c hc
    refine ⟨?_, Campaign.isRepresentable_of_reread (hread c hc)⟩
    rw [heq] at hc
    exact (List.mem_filter.mp hc).1
  · cases h

theorem loadForm_of_run (ops : List Operation) (hops : ∀ op ∈ ops, op.isPatch = false)
    {n : Nesting} {shopId key : Int} {data : PublishedForm}
    (hload : ((loadForm n shopId key).run (runAll ops fresh).2).1 = .ok (.form data)) :
    [shopId, key].all fitsInt64 = true ∧ data.IsExact ∧ data.toJson.HasShortIntegers := by
  obtain ⟨s, hs, hholds⟩ := holdsCampaigns_of_run ops
  have hrecords := holdsRecords_of_run ops hops hs
  rw [hs] at hload
  rcases hrun : (loadForm n shopId key).run (.ready s) with ⟨outcome, after⟩
  rw [hrun] at hload
  subst hload
  obtain ⟨form, hform, heq⟩ := Session.map_eq_ok hrun
  cases heq
  obtain ⟨categories, items, campaigns, hcategories, hitems, hlisted, rfl, rfl⟩ :=
    Session.loadForm_eq_ok hform
  obtain ⟨hkey, hcategory⟩ := Session.listCategories_eq_ok hcategories
  have hitem := Session.listItems_eq_ok hitems
  have hcampaign : ∀ c ∈ campaigns.filter Campaign.isActive,
      c ∈ createdCampaigns ops ∧ c.discountValue.isRepresentable = true :=
    fun c hc => of_run_listCampaigns hholds hlisted c (List.mem_filter.mp hc).1
  refine ⟨hkey, ⟨fun c hc => ?_, fun c hc => (hcampaign c hc).2⟩,
    PublishedForm.hasShortIntegers_toJson_iff.mpr ⟨fun c hc => ?_, fun i hi => ?_, fun c hc => ?_⟩⟩
  · obtain ⟨r, hr, rule, hrule, hread⟩ := hcategory c hc
    rw [CategoryRow.rule_of_read hread]
    exact CategoryRow.deciding_of_storedRule hrule
  · obtain ⟨r, hr, rule, hrule, hread⟩ := hcategory c hc
    exact hrecords.hasShortIntegers_category hr hrule hread
  · obtain ⟨r, hr, hread⟩ := hitem i (List.mem_filter.mp hi).1
    exact hrecords.hasShortIntegers_item hr hread
  · exact (hholds.numbered c (hcampaign c hc).1).hasShortIntegers hholds.last

end Operation

end StudioQuote
