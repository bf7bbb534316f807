import StudioQuote.Proofs.Service.Run

/-!
# Reading published forms

When the tables hold some version of each form, the categories of a form are read in the
order in which they were published, and the items of a shop by category and position.
-/

namespace StudioQuote

open Number

namespace Session

/-- Rows are read one by one, up to the first that cannot be read. -/
theorem run_mapM_eq {α β ρ : Type} {read : ρ → Session β} {row : α → ρ}
    {outcome : α → Except Failure β} {db : Database} {as : List α}
    (h : ∀ a ∈ as, (read (row a)).run db = (outcome a, db)) :
    ((as.map row).mapM read).run db = (as.mapM outcome, db) := by
  induction as with
  | nil => rfl
  | cons a as ih =>
    rw [List.forall_mem_cons] at h
    rw [List.map_cons, List.mapM_cons, List.mapM_cons, run_bind, h.1]
    cases outcome a with
    | error e => rfl
    | ok b =>
      change ((as.map row).mapM read >>= fun bs => pure (b :: bs) : Session (List β)).run db = _
      rw [run_bind, ih h.2]
      cases as.mapM outcome with
      | error e => rfl
      | ok bs => rfl

theorem run_mapM_rows {α ρ : Type} {read : ρ → Session α} {row : α → ρ} {db : Database}
    {as : List α} (h : ∀ a ∈ as, (read (row a)).run db = (.ok a, db)) :
    ((as.map row).mapM read).run db = (.ok as, db) := by
  have hall : as.mapM (fun a => (pure a : Except Failure α)) = .ok as :=
    (List.mapM_pure (f := id)).trans (congrArg Except.ok as.map_id)
  rw [run_mapM_eq h]
  exact congrArg (·, db) hall

def readOutcome {α : Type} : Reading α → Except Failure α
  | .ok a => .ok a
  | .failed ps => .error (.unreadable ps)

theorem readOutcome_eq_ok_iff {α : Type} {r : Reading α} {a : α} :
    readOutcome r = .ok a ↔ r = .ok a := by
  cases r with
  | ok b =>
    rw [readOutcome, Except.ok.injEq, Reading.ok.injEq]
  | failed ps =>
    constructor
    · intro h
      cases h
    · intro h
      cases h

theorem run_reading {α : Type} (r : Reading α) (db : Database) :
    (reading r).run db = (readOutcome r, db) := by
  cases r with
  | ok a => rfl
  | failed ps => rfl

theorem run_reading_ok {α : Type} {r : Reading α} {a : α} (h : r = .ok a) (db : Database) :
    (reading r).run db = (.ok a, db) := by
  rw [run_reading, h]
  rfl

theorem run_readCategory {n : Json.Nesting} {shopId form : Int} {c : Category}
    (hshop : c.shopId = some shopId)
    (hrule : ∀ r, c.rule = some r → Rule.ofText n r.toText = .ok (some r)) (db : Database) :
    (readCategory n (.ofRecord shopId form c)).run db = (.ok c, db) := by
  have hread := CategoryRow.read_ofRecord shopId form c c.rule
  rw [← hshop] at hread
  rw [readCategory, CategoryRow.storedRule_ofRecord shopId form hrule]
  exact run_reading_ok hread db

end Session

namespace Item

/-- Items by category, then by position. -/
def byPosition (a b : Item) : Bool :=
  (compareLex (compareOn categoryId) (compareOn sortOrder) a b).isLE

/-- Items in the order of their rows: by category, then by position, then by id. -/
def order : Item → Item → Ordering :=
  compareLex (compareOn categoryId) (compareLex (compareOn sortOrder) (compareOn id))

instance : Std.TransCmp order :=
  inferInstanceAs (Std.TransCmp (compareLex _ (compareLex _ _)))

def le (a b : Item) : Bool :=
  (order a b).isLE

theorem le_trans (a b c : Item) (hab : le a b = true) (hbc : le b c = true) : le a c = true :=
  Std.TransCmp.isLE_trans hab hbc

theorem le_total (a b : Item) : (le a b || le b a) = true := by
  have hswap : order b a = (order a b).swap := Std.OrientedCmp.eq_swap
  rw [le, le, hswap]
  cases order a b <;> rfl

theorem byPosition_of_le {a b : Item} (h : le a b = true) : byPosition a b = true := by
  rw [le, order, compareLex] at h
  rw [byPosition, compareLex]
  cases hcategory : compareOn categoryId a b with
  | lt => rfl
  | gt =>
    rw [hcategory] at h
    cases h
  | eq =>
    rw [hcategory, compareLex] at h
    cases hposition : compareOn sortOrder a b with
    | lt => rfl
    | eq => rfl
    | gt =>
      rw [hposition] at h
      cases h

theorem byPosition_iff {a b : Item} :
    byPosition a b = true ↔
      a.categoryId < b.categoryId ∨ a.categoryId = b.categoryId ∧ a.sortOrder ≤ b.sortOrder :=
  isLE_compare_then

theorem byPosition_trans (a b c : Item) (hab : byPosition a b = true)
    (hbc : byPosition b c = true) : byPosition a c = true := by
  rw [byPosition_iff] at hab hbc ⊢
  omega

theorem byPosition_total (a b : Item) : (byPosition a b || byPosition b a) = true := by
  rw [Bool.or_eq_true_iff, byPosition_iff, byPosition_iff]
  omega

theorem le_ofRecord (shopId : Int) (a b : Item) :
    le a b = ItemRow.le (.ofRecord shopId a) (.ofRecord shopId b) := by
  change _ = ((Cell.compare (.integer a.categoryId) (.integer b.categoryId)).then
    ((Cell.compare (.integer a.sortOrder) (.integer b.sortOrder)).then (compare a.id b.id))).isLE
  rw [Cell.compare_integer, Cell.compare_integer]
  rfl

end Item

namespace ItemRow

theorem read_ofRecord_of_shop {shopId : Int} {i : Item} (h : i.shopId = some shopId) :
    (ofRecord shopId i).read = .ok i := by
  rw [read_ofRecord, ← h]

theorem eq_of_map_ofRecord (shopId : Int) {is js : List Item}
    (his : ∀ i ∈ is, i.shopId = some shopId) (hjs : ∀ j ∈ js, j.shopId = some shopId)
    (h : is.map (ofRecord shopId) = js.map (ofRecord shopId)) : is = js := by
  have hread := congrArg (List.map read) h
  have hok : ∀ ks : List Item, (∀ k ∈ ks, k.shopId = some shopId) →
      (ks.map (ofRecord shopId)).map read = ks.map Reading.ok := by
    intro ks hks
    rw [List.map_map]
    exact List.map_congr_left fun k hk => read_ofRecord_of_shop (hks k hk)
  rw [hok is his, hok js hjs] at hread
  exact (List.map_inj_right fun _ _ => Reading.ok.inj).mp hread

end ItemRow

namespace FormRecords.IsCompiled

variable {shopId form : Int} {r : FormRecords}

theorem shopId_category (h : r.IsCompiled shopId form) {c : Category} (hc : c ∈ r.categories) :
    c.shopId = some shopId := by
  obtain ⟨-, d, hshop, rfl⟩ := h
  exact (Draft.shopId_of_mem_categories hc).trans hshop

theorem shopId_item (h : r.IsCompiled shopId form) {i : Item} (hi : i ∈ r.items) :
    i.shopId = some shopId := by
  obtain ⟨-, d, hshop, rfl⟩ := h
  exact (Draft.shopId_of_mem_items hi).trans hshop

/-- The rules name items of the form, whose ids fit into the store. -/
theorem ofText_rule (h : r.IsCompiled shopId form) (n : Json.Nesting) {c : Category}
    (hc : c ∈ r.categories) (rule : Rule) (hrule : c.rule = some rule) :
    Rule.ofText n rule.toText = .ok (some rule) := by
  obtain ⟨hfits, d, -, rfl⟩ := h
  obtain ⟨category, id, hid, rfl⟩ := Draft.rule_of_mem_customerForm hc hrule
  have hids : d.customerForm.items.map Item.id = d.itemIds := Draft.map_id_items
  rw [← hids] at hid
  obtain ⟨i, hi, rfl⟩ := List.mem_map.mp hid
  have hall := hfits.item i hi
  rw [Item.parameters, List.all_cons, Bool.and_eq_true_iff] at hall
  exact Rule.ofText_fieldEquals n category hall.1

theorem pairwise_rows (h : r.IsCompiled shopId form) :
    (r.categories.map (CategoryRow.ofRecord shopId form)).Pairwise fun a b => a.le b = true := by
  obtain ⟨-, d, -, rfl⟩ := h
  refine List.pairwise_map.mpr (Draft.pairwise_categories.imp fun {a b} hlt => ?_)
  change ((Cell.compare (.integer a.sortOrder) (.integer b.sortOrder)).then _).isLE = true
  rw [Cell.compare_integer, Std.compare_eq_lt.mpr hlt]
  rfl

theorem eq_of_byPosition (h : r.IsCompiled shopId form)
    (hids : (r.categories.map Category.id).Nodup) {a b : Item} (ha : a ∈ r.items)
    (hb : b ∈ r.items) (hab : a.byPosition b = true) (hba : b.byPosition a = true) : a = b := by
  obtain ⟨-, d, -, rfl⟩ := h
  rw [Draft.customerForm, Draft.map_id_categories] at hids
  have hitems : d.customerForm.items.Pairwise fun a b =>
      a.categoryId = b.categoryId → a.sortOrder < b.sortOrder :=
    Draft.pairwise_items hids
  have hforward : d.customerForm.items.Pairwise fun a b =>
      a.byPosition b = true → b.byPosition a = true → a = b := by
    refine hitems.imp fun hlt hab hba => ?_
    rw [Item.byPosition_iff] at hab hba
    omega
  have hbackward : d.customerForm.items.Pairwise (flip fun a b : Item =>
      a.byPosition b = true → b.byPosition a = true → a = b) := by
    refine hitems.imp fun hlt hba hab => ?_
    rw [Item.byPosition_iff] at hab hba
    omega
  exact List.Pairwise.forall_of_forall_of_flip (fun _ _ _ _ => rfl) hforward hbackward ha hb hab hba

end FormRecords.IsCompiled

namespace Store.Holds

variable {s : Store} {m : Forms}

theorem categoriesOf_eq (h : s.Holds m) (shopId form : Int) :
    s.categoriesOf shopId (some form) = (m.categories shopId form).map (.ofRecord shopId form) := by
  have hfilter : s.categoriesOf shopId (some form) =
      (s.categories.filter (·.belongsTo shopId form)).mergeSort CategoryRow.le :=
    rfl
  rw [hfilter, h.categories]
  refine List.mergeSort_of_pairwise ?_
  rw [Forms.categories]
  cases hform : m shopId form with
  | none => exact List.Pairwise.nil
  | some r => exact (h.compiled shopId form r hform).pairwise_rows

theorem mem_categories_iff {shopId form : Int} {c : Category} :
    c ∈ m.categories shopId form ↔ ∃ r, m shopId form = some r ∧ c ∈ r.categories := by
  rw [Forms.categories]
  cases m shopId form with
  | none => simp
  | some r => simp

theorem shopId_of_mem_categories (h : s.Holds m) {shopId form : Int} {c : Category}
    (hc : c ∈ m.categories shopId form) : c.shopId = some shopId := by
  obtain ⟨r, hr, hmem⟩ := mem_categories_iff.mp hc
  exact (h.compiled shopId form r hr).shopId_category hmem

theorem readCategory_of_mem (h : s.Holds m) (n : Json.Nesting) {shopId form : Int} {c : Category}
    (hc : c ∈ m.categories shopId form) (db : Database) :
    (Session.readCategory n (.ofRecord shopId form c)).run db = (.ok c, db) := by
  obtain ⟨r, hr, hmem⟩ := mem_categories_iff.mp hc
  have hcompiled := h.compiled shopId form r hr
  exact Session.run_readCategory (hcompiled.shopId_category hmem) (hcompiled.ofText_rule n hmem) db

theorem run_listCategories (h : s.Holds m) (n : Json.Nesting) (shopId form : Int) :
    (Session.listCategories n shopId (some form)).run (.ready s) =
      (if [shopId, form].all fitsInt64 then .ok (m.categories shopId form)
        else .error .integerTooWide, .ready s) := by
  have hquery := Session.run_query_ready .productCategories [shopId, form]
    (·.categoriesOf shopId (some form)) s
  rw [Session.listCategories]
  by_cases hfits : [shopId, form].all fitsInt64 = true
  · rw [if_pos hfits] at hquery ⊢
    rw [h.categoriesOf_eq] at hquery
    exact (Session.run_bind_ok hquery).trans
      (Session.run_mapM_rows fun c hc => h.readCategory_of_mem n hc (.ready s))
  · rw [if_neg hfits] at hquery ⊢
    exact Session.run_bind_error hquery

theorem mem_items_iff {shopId form : Int} {i : Item} :
    i ∈ m.items shopId form ↔ ∃ r, m shopId form = some r ∧ i ∈ r.items := by
  rw [Forms.items]
  cases m shopId form with
  | none => simp
  | some r => simp

theorem exists_item (h : s.Holds m) {shopId : Int} {row : ItemRow} (hrow : row ∈ s.items)
    (hshop : row.shopId = .integer shopId) :
    ∃ i, row = .ofRecord shopId i ∧ ∃ form, i ∈ m.items shopId form := by
  obtain ⟨a, b, howned⟩ := h.ownedItem row hrow
  have hmem := List.mem_filter.mpr ⟨hrow, howned⟩
  rw [h.items] at hmem
  obtain ⟨i, hi, rfl⟩ := List.mem_map.mp hmem
  obtain rfl := Cell.integer.inj hshop
  exact ⟨i, rfl, b, hi⟩

theorem exists_items (h : s.Holds m) (shopId : Int) :
    ∃ is : List Item, s.items.filter (·.shopId == .integer shopId) = is.map (.ofRecord shopId) ∧
      ∀ i ∈ is, ∃ form, i ∈ m.items shopId form := by
  have hall : ∀ row ∈ s.items.filter (·.shopId == .integer shopId),
      ∃ i, row = .ofRecord shopId i ∧ ∃ form, i ∈ m.items shopId form := by
    intro row hrow
    obtain ⟨hrow, hshop⟩ := List.mem_filter.mp hrow
    exact h.exists_item hrow (beq_iff_eq.mp hshop)
  generalize s.items.filter (·.shopId == .integer shopId) = rows at hall
  induction rows with
  | nil => exact ⟨[], rfl, List.forall_mem_nil _⟩
  | cons row rows ih =>
    rw [List.forall_mem_cons] at hall
    obtain ⟨i, rfl, hi⟩ := hall.1
    obtain ⟨is, rfl, his⟩ := ih hall.2
    exact ⟨i :: is, rfl, List.forall_mem_cons.mpr ⟨hi, his⟩⟩

theorem shopId_of_mem_items (h : s.Holds m) {shopId form : Int} {i : Item}
    (hi : i ∈ m.items shopId form) : i.shopId = some shopId := by
  obtain ⟨r, hr, hmem⟩ := mem_items_iff.mp hi
  exact (h.compiled shopId form r hr).shopId_item hmem

theorem filter_items (h : s.Holds m) {shopId : Int} {is : List Item}
    (hrows : s.items.filter (·.shopId == .integer shopId) = is.map (.ofRecord shopId))
    (his : ∀ i ∈ is, i.shopId = some shopId) (form : Int) :
    is.filter (fun i => (m.ids shopId form).contains i.categoryId) = m.items shopId form := by
  refine ItemRow.eq_of_map_ofRecord shopId (fun i hi => his i (List.mem_filter.mp hi).1)
    (fun i hi => h.shopId_of_mem_items hi) ?_
  have hin : (is.filter fun i => (m.ids shopId form).contains i.categoryId) =
      is.filter ((·.isIn (m.ids shopId form)) ∘ ItemRow.ofRecord shopId) := by
    refine List.filter_congr fun i _ => ?_
    rw [Bool.eq_iff_iff, List.contains_iff_mem]
    exact ItemRow.isIn_ofRecord.symm
  rw [hin, ← List.filter_map, ← hrows, List.filter_filter, ← h.items]
  refine List.filter_congr fun row hrow => ?_
  cases hstands : row.isIn (m.ids shopId form) with
  | false => rfl
  | true =>
    have hmem := List.mem_filter.mpr ⟨hrow, hstands⟩
    rw [h.items] at hmem
    obtain ⟨i, -, rfl⟩ := List.mem_map.mp hmem
    exact beq_iff_eq.mpr rfl

theorem nodup_ids (h : s.Holds m) (shopId form : Int) : (m.ids shopId form).Nodup := by
  rw [h.ids_eq]
  exact h.categoryIds.sublist (List.filter_sublist.map _)

theorem sort_filter_items (h : s.Holds m) {shopId : Int} {is : List Item}
    (hrows : s.items.filter (·.shopId == .integer shopId) = is.map (.ofRecord shopId))
    (his : ∀ i ∈ is, i.shopId = some shopId) (form : Int) :
    (is.mergeSort Item.le).filter (fun i => (m.ids shopId form).contains i.categoryId) =
      (m.items shopId form).mergeSort Item.byPosition := by
  have hperm : ((is.mergeSort Item.le).filter
      fun i => (m.ids shopId form).contains i.categoryId).Perm
      ((m.items shopId form).mergeSort Item.byPosition) := by
    refine ((List.mergeSort_perm is Item.le).filter _).trans ?_
    rw [h.filter_items hrows his]
    exact (List.mergeSort_perm _ _).symm
  have hsorted : ((is.mergeSort Item.le).filter
      fun i => (m.ids shopId form).contains i.categoryId).Pairwise
      fun a b => a.byPosition b = true :=
    ((List.pairwise_mergeSort Item.le_trans Item.le_total is).filter _).imp Item.byPosition_of_le
  refine List.Perm.eq_of_pairwise (fun a b ha hb hab hba => ?_) hsorted
    (List.pairwise_mergeSort Item.byPosition_trans Item.byPosition_total _) hperm
  have ha' := List.mem_mergeSort.mp (hperm.mem_iff.mp ha)
  have hb' := List.mem_mergeSort.mp hb
  obtain ⟨r, hr, hra⟩ := mem_items_iff.mp ha'
  obtain ⟨r', hr', hrb⟩ := mem_items_iff.mp hb'
  obtain rfl := Option.some.inj (hr.symm.trans hr')
  have hids := h.nodup_ids shopId form
  rw [Forms.ids, Forms.categories, hr] at hids
  exact (h.compiled shopId form r hr).eq_of_byPosition hids hra hrb hab hba

/-- The items of a shop as they are listed: those of its forms, each once, and of each form
by category and position. -/
theorem run_listItems (h : s.Holds m) {shopId : Int} (hfits : fitsInt64 shopId = true) :
    ∃ is, (Session.listItems shopId none).run (.ready s) = (.ok is, .ready s) ∧
      (is.map Item.id).Nodup ∧
      (∀ i, i ∈ is ↔ ∃ form, i ∈ m.items shopId form) ∧
      ∀ form, is.filter (fun i => (m.ids shopId form).contains i.categoryId) =
        (m.items shopId form).mergeSort Item.byPosition := by
  obtain ⟨is, hrows, hforms⟩ := h.exists_items shopId
  have hshop : ∀ i ∈ is, i.shopId = some shopId := by
    intro i hi
    obtain ⟨form, hform⟩ := hforms i hi
    exact h.shopId_of_mem_items hform
  have hlisted : s.itemsOf shopId none = (is.mergeSort Item.le).map (.ofRecord shopId) := by
    have hfilter : s.itemsOf shopId none =
        (s.items.filter (·.shopId == .integer shopId)).mergeSort ItemRow.le := by
      simp [itemsOf]
    rw [hfilter, hrows, List.map_mergeSort fun a _ b _ => Item.le_ofRecord shopId a b]
  have hperm := List.mergeSort_perm is Item.le
  refine ⟨is.mergeSort Item.le, ?_, ?_, fun i => ?_, h.sort_filter_items hrows hshop⟩
  · have hquery := Session.run_query_ready .items [shopId] (·.itemsOf shopId none) s
    rw [hlisted, if_pos (by simp [hfits])] at hquery
    refine (Session.run_bind_ok hquery).trans (Session.run_mapM_rows fun i hi => ?_)
    exact Session.run_reading_ok
      (ItemRow.read_ofRecord_of_shop (hshop i (List.mem_mergeSort.mp hi))) _
  · have hids : (is.map Item.id) =
        (s.items.filter (·.shopId == .integer shopId)).map ItemRow.id := by
      rw [hrows, List.map_map]
      rfl
    refine (hperm.map Item.id).nodup_iff.mpr ?_
    rw [hids]
    exact h.itemIds.sublist (List.filter_sublist.map _)
  · rw [List.mem_mergeSort]
    refine ⟨hforms i, ?_⟩
    rintro ⟨form, hform⟩
    rw [← h.filter_items hrows hshop form] at hform
    exact (List.mem_filter.mp hform).1

end Store.Holds

namespace Operation

/-- After every run of the service the tables of published forms are a map from keys to the
last successful publish: the categories of a form are listed in its order, the items of a
shop are those of its published forms, each once, and those of one form are listed by
category and position. -/
theorem published_forms_are_listed (ops : List Operation) (hops : ∀ op ∈ ops, op.isService = true) :
    (∀ n shopId form, ((listCategories n shopId (some form)).run (runAll ops fresh).2).1 =
      if [shopId, form].all fitsInt64 then
        .ok (.categories (Forms.categories (lastPublished ops) shopId form))
      else .error .integerTooWide) ∧
    ∀ shopId,
      (fitsInt64 shopId = false →
        ((listItems shopId none).run (runAll ops fresh).2).1 = .error .integerTooWide) ∧
      (fitsInt64 shopId = true →
        ∃ is, ((listItems shopId none).run (runAll ops fresh).2).1 = .ok (.items is) ∧
          (is.map Item.id).Nodup ∧
          (∀ i, i ∈ is ↔ ∃ form r, lastPublished ops shopId form = some r ∧ i ∈ r.items) ∧
          ∀ form, is.filter
              (fun i => (Forms.ids (lastPublished ops) shopId form).contains i.categoryId) =
            (Forms.items (lastPublished ops) shopId form).mergeSort Item.byPosition) := by
  obtain ⟨s, hs, -, hholds⟩ := holds_lastPublished ops hops
  rw [hs]
  refine ⟨fun n shopId form => ?_, fun shopId => ⟨fun hwide => ?_, fun hfits => ?_⟩⟩
  · have hrun := hholds.run_listCategories n shopId form
    rw [Operation.run, perform, Session.run_map, hrun]
    split
    · rfl
    · rfl
  · have hquery := Session.run_query_ready .items [shopId] (·.itemsOf shopId none) s
    rw [if_neg (by simp [hwide])] at hquery
    have hrun := Session.run_bind_error (f := fun rows : List ItemRow =>
      rows.mapM fun r => Session.reading r.read) hquery
    rw [Operation.run, perform, Session.run_map]
    exact congrArg (fun r => r.1.map Answer.items) hrun
  · obtain ⟨is, hrun, hnodup, hmem, hforms⟩ := hholds.run_listItems hfits
    refine ⟨is, ?_, hnodup, fun i => ?_, hforms⟩
    · rw [Operation.run, perform, Session.run_map, hrun]
      rfl
    · simp only [hmem, Store.Holds.mem_items_iff]

/-- A form for portraits with a step of each section. -/
def portraitDraft : Draft where
  shopId := some 1
  shootingCategoryId := 7
  shootingCategoryName := "Portrait"
  steps := [
    { type := .trigger
      category := ⟨10, "location", "Location", none, .plan,
        [⟨100, "Studio", 5000, none⟩, ⟨101, "Outdoor", 8000, none⟩]⟩ },
    { type := .conditional
      category := ⟨20, "makeup", "Makeup", none, .optionSingle,
        [⟨200, "Standard", 3000, none⟩]⟩
      condition := some ⟨10, "location", "Studio"⟩ },
    { type := .commonFinal
      category := ⟨30, "album", "Album", none, .optionMulti,
        [⟨300, "Small", 2000, none⟩]⟩ }]

def portraitStore : Store :=
  Store.empty.putDraftText 1 portraitDraft.shootingCategoryId portraitDraft.toText

theorem isSound_portraitDraft : portraitDraft.IsSound :=
  ⟨Json.hasPlainTexts_of_isUnmarked (by decide), Json.hasShortIntegers_of_fits (by decide)⟩

theorem fits_portraitDraft : portraitDraft.Fits :=
  ⟨by decide, by decide, by decide, by decide, by decide⟩

theorem run_saveDraft_portraitDraft :
    (runAll [saveDraft portraitDraft] fresh).2 = .ready portraitStore := by
  have hsave := run_saveDraft_ok (d := portraitDraft) rfl (by decide)
    isSound_portraitDraft.plain .empty
  rw [runAll_cons, fresh, hsave]
  rfl

theorem storedDraft_portraitStore : portraitStore.storedDraft 1 7 = .ok (some portraitDraft) :=
  Store.storedDraft_putDraftText_ok .empty 1 isSound_portraitDraft

theorem run_publish_portraitStore :
    (publish 1 7).run (.ready portraitStore) =
      (.ok (.records portraitDraft.customerForm),
        .ready (portraitStore.withForm 1 7 portraitDraft.customerForm)) := by
  have hrun := Session.run_publish_ok storedDraft_portraitStore (by decide)
    isSound_portraitDraft.customerForm?
    (fits_portraitDraft.customerForm isSound_portraitDraft (by decide)) ⟨by decide, by decide⟩
  rw [Operation.run, perform, Session.run_map, hrun]
  rfl

theorem runAll_portraitDraft :
    (runAll [saveDraft portraitDraft, publish 1 7] fresh).2 =
      .ready (portraitStore.withForm 1 7 portraitDraft.customerForm) := by
  have hconcat := runAll_concat [saveDraft portraitDraft] (publish 1 7) fresh
  rw [run_saveDraft_portraitDraft, run_publish_portraitStore] at hconcat
  exact hconcat

theorem lastPublished_portraitDraft :
    lastPublished [saveDraft portraitDraft, publish 1 7] 1 7 = some portraitDraft.customerForm := by
  have happend := lastPublished_append [saveDraft portraitDraft] (publish 1 7)
    run_saveDraft_portraitDraft 1 7
  rw [run_publish_portraitStore] at happend
  exact happend

/-- The form for portraits is listed once it is published. -/
theorem portrait_form_is_listed :
    ((listCategories default 1 (some 7)).run
      (runAll [saveDraft portraitDraft, publish 1 7] fresh).2).1 =
      .ok (.categories portraitDraft.customerForm.categories) := by
  have hlisted := (published_forms_are_listed [saveDraft portraitDraft, publish 1 7]
    (by simp [isService])).1 default 1 7
  rw [Forms.categories, lastPublished_portraitDraft] at hlisted
  exact hlisted

end Operation

end StudioQuote
