import StudioQuote.Proofs.Publish.Requote
import StudioQuote.Proofs.Quote.Growth

/-!
# Forms with an overwritten rule

The stored rule of a category may be overwritten with any text. The other categories of
the form are read as before, and the category with the rule that the text stands for. A
text that is no JSON, or neither null nor an object, stands for a rule that never holds,
with two exceptions: an empty text is no rule, so the category is always shown, and on a
fault that is not forgiven no category of the form can be read.
-/

namespace StudioQuote

open Number

/-! ## The overwritten row -/

namespace CategoryRow

def withRuleText (id : Int) (text : String) (r : CategoryRow) : CategoryRow :=
  if r.id == id then r.set "conditional_rule" (.text text) else r

theorem withRuleText_eq (id : Int) (text : String) (r : CategoryRow) :
    r.withRuleText id text = if r.id = id then { r with rule := .text text } else r := by
  rw [withRuleText]
  by_cases h : r.id = id
  · rw [if_pos (beq_iff_eq.mpr h), if_pos h]
    rfl
  · rw [if_neg fun hid => h (beq_iff_eq.mp hid), if_neg h]

theorem belongsTo_withRuleText (shopId form id : Int) (text : String) (r : CategoryRow) :
    (r.withRuleText id text).belongsTo shopId form = r.belongsTo shopId form := by
  rw [withRuleText_eq]
  split <;> rfl

theorem le_withRuleText (id : Int) (text : String) (a b : CategoryRow) :
    a.le b = (a.withRuleText id text).le (b.withRuleText id text) := by
  rw [withRuleText_eq, withRuleText_eq]
  split <;> split <;> rfl

end CategoryRow

namespace Store

def withRuleText (s : Store) (id : Int) (text : String) : Store :=
  { s with categories := s.categories.map (·.withRuleText id text) }

theorem setCategoryColumn_rule (s : Store) (id : Int) (text : String) :
    s.setCategoryColumn id "conditional_rule" (.text text) = .ok (s.withRuleText id text) := by
  have haccepted : overwriteFault? .productCategories CategoryRow.requiredColumns
      (s.categories.map CategoryRow.id) id "conditional_rule" (.text text) = none := by
    rw [overwriteFault?]
    split
    · rfl
    · rfl
  rw [setCategoryColumn, haccepted]
  rfl

theorem categoriesOf_withRuleText (s : Store) (shopId form id : Int) (text : String) :
    (s.withRuleText id text).categoriesOf shopId (some form) =
      (s.categoriesOf shopId (some form)).map (·.withRuleText id text) := by
  change ((s.categories.map (CategoryRow.withRuleText id text)).filter
    (CategoryRow.belongsTo shopId form)).mergeSort CategoryRow.le =
      ((s.categories.filter (CategoryRow.belongsTo shopId form)).mergeSort CategoryRow.le).map _
  have hbelongs : CategoryRow.belongsTo shopId form ∘ CategoryRow.withRuleText id text =
      CategoryRow.belongsTo shopId form :=
    funext (CategoryRow.belongsTo_withRuleText shopId form id text)
  rw [List.filter_map, hbelongs,
    List.map_mergeSort fun a _ b _ => CategoryRow.le_withRuleText id text a b]

end Store

namespace Session

theorem run_listItems_eq (shopId : Int) (s : Store) :
    (listItems shopId none).run (.ready s) =
      (if fitsInt64 shopId then
        (s.itemsOf shopId none).mapM fun r => readOutcome r.read
      else .error .integerTooWide, .ready s) := by
  have hquery := run_query_ready .items [shopId] (·.itemsOf shopId none) s
  have hkey : [shopId].all fitsInt64 = fitsInt64 shopId := Bool.and_true _
  rw [hkey] at hquery
  by_cases hfits : fitsInt64 shopId = true
  · rw [if_pos hfits] at hquery ⊢
    refine (run_bind_ok hquery).trans ?_
    have hrows := run_mapM_eq fun r (_ : r ∈ s.itemsOf shopId none) =>
      run_reading (ItemRow.read r) (.ready s)
    rw [List.mapM_map] at hrows
    exact hrows
  · rw [if_neg hfits] at hquery ⊢
    exact run_bind_error hquery

end Session

theorem Operation.quote_eq_ok {n : Json.Nesting} {shopId key : Int} {values : Answers}
    {ids : List Int} {today : Date} {rate : Decimal} {db : Database} {q : Quote}
    (h : ((quote n shopId key values ids today rate).run db).1 = .ok (.quote q)) :
    ∃ form middle, (Session.loadForm n shopId key).run db = (.ok form, middle) ∧
      Quote.build? form values ids (some key) today rate = .ok q := by
  rcases hrun : (quote n shopId key values ids today rate).run db with ⟨outcome, after⟩
  rw [hrun] at h
  subst h
  obtain ⟨quoted, hquoted, heq⟩ := Session.map_eq_ok hrun
  obtain ⟨form, middle, hload, hbuild⟩ := Session.bind_eq_ok hquoted
  refine ⟨form, middle, hload, ?_⟩
  cases hresult : Quote.build? form values ids (some key) today rate with
  | error fault =>
    rw [hresult] at hbuild
    cases hbuild
  | ok built =>
    rw [hresult] at hbuild
    cases hbuild
    cases heq
    rfl

/-! ## The overwritten category -/

namespace Category

def withRule (id : Int) (rule : Option Rule) (c : Category) : Category :=
  if c.id = id then { c with rule } else c

theorem id_withRule (id : Int) (rule : Option Rule) (c : Category) :
    (c.withRule id rule).id = c.id := by
  rw [withRule]
  split <;> rfl

/-- What is read for a category when the rule of the one with the given id is overwritten. -/
def withRuleText (n : Json.Nesting) (id : Int) (text : String) (c : Category) :
    Except Failure Category :=
  if c.id = id then
    match Rule.ofText n text with
    | .ok rule => .ok { c with rule }
    | .error fault => .error (.ruleUnreadable fault)
  else .ok c

variable {n : Json.Nesting} {id : Int} {text : String} {cs : List Category}

theorem mapM_withRuleText_ok {rule : Option Rule} (h : Rule.ofText n text = .ok rule) :
    cs.mapM (withRuleText n id text) = .ok (cs.map (withRule id rule)) := by
  have heach : withRuleText n id text = fun c => pure (withRule id rule c) := by
    funext c
    rw [withRuleText, withRule, h]
    split <;> rfl
  rw [heach]
  exact List.mapM_pure

theorem mapM_withRuleText_of_ne (h : ∀ c ∈ cs, c.id ≠ id) :
    cs.mapM (withRuleText n id text) = .ok cs := by
  induction cs with
  | nil => rfl
  | cons c cs ih =>
    rw [List.forall_mem_cons] at h
    rw [List.mapM_cons, withRuleText, if_neg h.1, ih h.2]
    rfl

theorem mapM_withRuleText_error {fault : Json.Fault} (h : Rule.ofText n text = .error fault)
    (hid : ∃ c ∈ cs, c.id = id) :
    cs.mapM (withRuleText n id text) = .error (.ruleUnreadable fault) := by
  induction cs with
  | nil =>
    obtain ⟨c, hc, -⟩ := hid
    exact absurd hc List.not_mem_nil
  | cons c cs ih =>
    rw [List.mapM_cons, withRuleText, h]
    by_cases hc : c.id = id
    · rw [if_pos hc]
      rfl
    · obtain ⟨other, hother, hid⟩ := hid
      have hrest : ∃ c ∈ cs, c.id = id := by
        rcases List.mem_cons.mp hother with rfl | hmem
        · exact absurd hid hc
        · exact ⟨other, hmem, hid⟩
      rw [if_neg hc, ih hrest]
      rfl

end Category

namespace Store.Holds

variable {s : Store} {m : Forms}

theorem readCategory_withRuleText (h : s.Holds m) (n : Json.Nesting) {shopId form : Int}
    {c : Category} (hc : c ∈ m.categories shopId form) (id : Int) (text : String) (db : Database) :
    (Session.readCategory n ((CategoryRow.ofRecord shopId form c).withRuleText id text)).run db =
      (c.withRuleText n id text, db) := by
  rw [CategoryRow.withRuleText_eq, Category.withRuleText]
  by_cases hid : c.id = id
  · have hread : ∀ rule, (CategoryRow.ofRecord shopId form c).read rule = .ok { c with rule } := by
      intro rule
      rw [CategoryRow.read_ofRecord, ← h.shopId_of_mem_categories hc]
    have hstored : ({ CategoryRow.ofRecord shopId form c with rule := .text text } :
        CategoryRow).storedRule n = Rule.ofText n text := rfl
    rw [if_pos hid, if_pos (show (CategoryRow.ofRecord shopId form c).id = id from hid),
      Session.readCategory, hstored]
    cases Rule.ofText n text with
    | error fault => rfl
    | ok rule => exact Session.run_reading_ok (hread rule) db
  · rw [if_neg hid, if_neg (show (CategoryRow.ofRecord shopId form c).id ≠ id from hid)]
    exact h.readCategory_of_mem n hc db

theorem run_listCategories_withRuleText (h : s.Holds m) (n : Json.Nesting) (shopId form id : Int)
    (text : String) :
    (Session.listCategories n shopId (some form)).run (.ready (s.withRuleText id text)) =
      (if [shopId, form].all fitsInt64 then
        (m.categories shopId form).mapM (Category.withRuleText n id text)
      else .error .integerTooWide, .ready (s.withRuleText id text)) := by
  have hquery := Session.run_query_ready .productCategories [shopId, form]
    (·.categoriesOf shopId (some form)) (s.withRuleText id text)
  rw [Session.listCategories]
  by_cases hfits : [shopId, form].all fitsInt64 = true
  · rw [if_pos hfits, categoriesOf_withRuleText, h.categoriesOf_eq, List.map_map] at hquery
    rw [if_pos hfits]
    exact (Session.run_bind_ok hquery).trans (Session.run_mapM_eq fun c hc =>
      h.readCategory_withRuleText n hc id text (.ready (s.withRuleText id text)))
  · rw [if_neg hfits] at hquery ⊢
    exact Session.run_bind_error hquery

/-- A form without the overwritten category is listed as before. -/
theorem run_listCategories_of_not_mem (h : s.Holds m) (n : Json.Nesting) {shopId form id : Int}
    (hid : id ∉ m.ids shopId form) (text : String) :
    ((Session.listCategories n shopId (some form)).run (.ready (s.withRuleText id text))).1 =
      ((Session.listCategories n shopId (some form)).run (.ready s)).1 := by
  have hne : ∀ c ∈ m.categories shopId form, c.id ≠ id := by
    rintro c hc rfl
    exact hid (List.mem_map_of_mem hc)
  rw [h.run_listCategories_withRuleText, h.run_listCategories, Category.mapM_withRuleText_of_ne hne]

/-- The items are those of the store before. -/
theorem run_listItems_withRuleText (h : s.Holds m) {shopId : Int}
    (hfits : fitsInt64 shopId = true) (id : Int) (text : String) :
    ∃ is, (Session.listItems shopId none).run (.ready (s.withRuleText id text)) =
        (.ok is, .ready (s.withRuleText id text)) ∧
      (is.map Item.id).Nodup ∧ ∀ i, i ∈ is ↔ ∃ form, i ∈ m.items shopId form := by
  obtain ⟨is, hrun, hnodup, hmem, -⟩ := h.run_listItems hfits
  refine ⟨is, ?_, hnodup, hmem⟩
  have hitems : (s.withRuleText id text).itemsOf shopId none = s.itemsOf shopId none := rfl
  rw [Session.run_listItems_eq] at hrun
  rw [Session.run_listItems_eq, hitems, (Prod.mk.inj hrun).1]

/-- The form that a quote is made from has the rule that the text denotes, and items with
distinct ids among those of the shop. -/
theorem loadForm_withRuleText_eq_ok (h : s.Holds m) {n : Json.Nesting} {shopId key id : Int}
    {text : String} {rule : Option Rule} (hrule : Rule.ofText n text = .ok rule)
    {form : PublishedForm} {after : Database}
    (hload : (Session.loadForm n shopId key).run (.ready (s.withRuleText id text)) =
      (.ok form, after)) :
    form.categories = (m.categories shopId key).map (Category.withRule id rule) ∧
      ∃ is : List Item, (is.map Item.id).Nodup ∧ (∀ i ∈ form.items, i ∈ is) ∧
        ∀ i, i ∈ is ↔ ∃ other, i ∈ m.items shopId other := by
  obtain ⟨categories, _, hcategories, hrest⟩ := Session.bind_eq_ok hload
  rw [h.run_listCategories_withRuleText, Category.mapM_withRuleText_ok hrule] at hcategories
  by_cases hfits : [shopId, key].all fitsInt64 = true
  · rw [if_pos hfits] at hcategories
    cases hcategories
    obtain ⟨is, hitems, hnodup, hmem⟩ :=
      h.run_listItems_withRuleText (Bool.and_eq_true_iff.mp hfits).1 id text
    rw [Session.run_bind_ok hitems] at hrest
    obtain ⟨campaigns, _, -, hform⟩ := Session.bind_eq_ok hrest
    cases hform
    exact ⟨rfl, is, hnodup, fun i hi => (List.mem_filter.mp hi).1, hmem⟩
  · rw [if_neg hfits] at hcategories
    cases hcategories

end Store.Holds

/-! ## Hidden categories -/

theorem VisibleSections.mem_categories_group {categories : List Category} {answers : Answers}
    {c : Category} (h : c ∈ (group categories answers).categories) :
    c ∈ categories ∧ c.isShown answers = true := by
  have hshown : ∀ p, c ∈ (shown categories answers).filter p →
      c ∈ categories ∧ c.isShown answers = true :=
    fun p hc => List.mem_filter.mp (List.mem_filter.mp hc).1
  rw [VisibleSections.categories, List.mem_append, List.mem_append] at h
  rcases h with (htrigger | hconditional) | hfinal
  · exact hshown _ htrigger
  · exact hshown _ hconditional
  · rw [group] at hfinal
    dsimp only at hfinal
    split at hfinal
    · exact hshown _ hfinal
    · cases hfinal

/-- Whatever is charged is an item of the form in a category that is shown. -/
theorem Quote.exists_item_of_mem {form : PublishedForm} {values : Answers} {ids : List Int}
    {key : Option Int} {today : Date} {rate : Decimal} {q : Quote}
    (hq : build? form values ids key today rate = .ok q) {id : Int} (hid : id ∈ q.selectedItemIds) :
    ∃ i ∈ form.items, i.id = id ∧ ∃ c ∈ form.categories, c.id = i.categoryId ∧
      ∃ answers, c.isShown answers = true := by
  rw [eq_build_of_build? form values ids key today rate hq] at hid
  obtain ⟨i, hi, hid, hvisible⟩ : ∃ i ∈ form.items, i.id = id ∧
      ((build form values ids key today rate).sections.categories.map Category.id).contains
        i.categoryId = true := by
    rcases mem_pricedIds_iff.mp hid with ⟨-, hfind⟩ | ⟨i, hi, hselects, hid⟩
    · obtain ⟨i, hi, hvisible⟩ := (Option.any_eq_true _ _).mp hfind
      have hkey : (i.id == id) = true := List.find?_some (p := fun i : Item => i.id == id) hi
      exact ⟨i, List.mem_of_find?_eq_some hi, beq_iff_eq.mp hkey, hvisible⟩
    · rw [Item.selectsItself, Bool.and_eq_true] at hselects
      exact ⟨i, hi, hid, hselects.2⟩
  obtain ⟨c, hc, hcategory⟩ := List.mem_map.mp (List.contains_iff_mem.mp hvisible)
  obtain ⟨hmem, hshown⟩ := VisibleSections.mem_categories_group hc
  exact ⟨i, hi, hid, c, hmem, hcategory, _, hshown⟩

/-! ## Texts that are no rule -/

namespace Rule

/-- Whether a text is malformed, or denotes neither `null` nor an object. -/
def IsUnreadable (n : Json.Nesting) (text : String) : Prop :=
  Json.read (.loose n) text = .error .malformed ∨
    ∃ v, Json.read (.loose n) text = .ok v ∧ v ≠ .null ∧ ∀ members, v ≠ .obj members

variable {n : Json.Nesting} {text : String}

theorem ofText_of_isUnreadable (h : IsUnreadable n text) (hne : text ≠ "") :
    ofText n text = .ok (some {}) := by
  rw [ofText, if_neg hne]
  rcases h with hmalformed | ⟨v, hread, hnull, hobject⟩
  · rw [hmalformed]
  · rw [hread]
    cases v with
    | null => exact absurd rfl hnull
    | obj members => exact absurd rfl (hobject members)
    | _ => rfl

theorem ofText_of_fault {fault : Json.Fault} (h : Json.read (.loose n) text = .error fault)
    (hfault : fault ≠ .malformed) : ofText n text = .error fault := by
  have hne : text ≠ "" := by
    rintro rfl
    exact hfault (Except.error.inj h).symm
  rw [ofText, if_neg hne, h]
  cases fault with
  | malformed => exact absurd rfl hfault
  | _ => rfl

end Rule

namespace Category

variable {c : Category}

theorem isShown_of_conditional (h : c.isIn .conditional = true) (answers : Answers) :
    c.isShown answers = (c.isActive && c.isOpen answers) := by
  have hsection : c.formSection = some FormSection.conditional.name := beq_iff_eq.mp h
  have htrigger : c.isIn .trigger = false := by
    rw [isIn, hsection]
    rfl
  have hfinal : c.isIn .commonFinal = false := by
    rw [isIn, hsection]
    rfl
  rw [isShown, h, htrigger, hfinal, hsection]
  rfl

theorem isShown_withRule (h : c.isIn .conditional = true) (rule : Option Rule)
    (answers : Answers) :
    (c.withRule c.id rule).isShown answers =
      (c.isActive && ({ c with rule } : Category).isOpen answers) := by
  rw [withRule, if_pos rfl]
  exact isShown_of_conditional (c := { c with rule }) h answers

end Category

/-- No item of a category that is never shown is charged, whichever form of the shop is quoted. -/
theorem Store.Holds.not_mem_of_never_shown {s : Store} {m : Forms} (h : s.Holds m)
    {n : Json.Nesting} {shopId form key id : Int} {text : String} {rule : Option Rule}
    (hrule : Rule.ofText n text = .ok rule) (hid : id ∈ m.ids shopId form)
    (hnever : ∀ c ∈ m.categories shopId form, c.id = id →
      ∀ answers, (c.withRule id rule).isShown answers = false)
    {values : Answers} {ids : List Int} {today : Date} {rate : Decimal} {q : Quote}
    (hq : ((Operation.quote n shopId key values ids today rate).run
      (.ready (s.withRuleText id text))).1 = .ok (.quote q))
    {i : Item} (hi : i ∈ m.items shopId form) (hcategory : i.categoryId = id) :
    i.id ∉ q.selectedItemIds := by
  intro hcharged
  obtain ⟨published, middle, hload, hbuilt⟩ := Operation.quote_eq_ok hq
  obtain ⟨hcategories, is, hnodup, hitems, hforms⟩ := h.loadForm_withRuleText_eq_ok hrule hload
  obtain ⟨j, hj, hsame, gated, hgated, hgatedId, answers, hshown⟩ :=
    Quote.exists_item_of_mem hbuilt hcharged
  obtain rfl : j = i :=
    List.inj_on_of_nodup_map hnodup (hitems j hj) ((hforms i).mpr ⟨form, hi⟩) hsame
  rw [hcategories] at hgated
  obtain ⟨c, hc, rfl⟩ := List.mem_map.mp hgated
  rw [Category.id_withRule, hcategory] at hgatedId
  have hkey : id ∈ m.ids shopId key := hgatedId ▸ List.mem_map_of_mem (f := Category.id) hc
  obtain ⟨-, rfl⟩ := h.eq_of_mem_ids hkey hid
  rw [hnever c hc hgatedId answers] at hshown
  cases hshown

namespace Operation

def overwriteRule (id : Int) (text : String) : Operation :=
  .setCategoryColumn id "conditional_rule" (.text text)

/-- What overwriting the rule of a published category makes of the store. A text that has no
bytes is refused. -/
theorem runAll_overwriteRule (ops : List Operation) (hops : ∀ op ∈ ops, op.isService = true)
    {shopId form : Int} {r : FormRecords} (hr : lastPublished ops shopId form = some r)
    {c : Category} (hc : c ∈ r.categories) (text : String) :
    ∃ s, (runAll ops fresh).2 = .ready s ∧ s.Holds (lastPublished ops) ∧
      (runAll (ops ++ [overwriteRule c.id text]) fresh).2 =
        .ready (if Text.IsPlain text then s.withRuleText c.id text else s) := by
  obtain ⟨s, hs, -, hholds⟩ := holds_lastPublished ops hops
  have hid : fitsInt64 c.id = true :=
    List.all_eq_true.mp ((hholds.compiled shopId form r hr).1.category c hc) c.id
      List.mem_cons_self
  have hcells : (∀ cell ∈ [Cell.text text, .integer c.id], cell.IsBindable) ↔
      Text.IsPlain text := by
    simp [hid]
  refine ⟨s, hs, hholds, ?_⟩
  rw [runAll_concat, hs, overwriteRule, Operation.run, perform]
  by_cases hplain : Text.IsPlain text
  · have hrun := Session.run_attempt_of_bindable (hcells.mpr hplain) .statement .productCategories
      (fun s => (s.setCategoryColumn c.id "conditional_rule" (.text text)).map ((), ·)) s
    rw [Store.setCategoryColumn_rule] at hrun
    rw [if_pos hplain]
    exact congrArg Prod.snd (Session.run_bind_ok hrun)
  · obtain ⟨_, -, e, -, hrun⟩ := Session.run_attempt_of_not_bindable (mt hcells.mp hplain)
      .statement .productCategories
      (fun s => (s.setCategoryColumn c.id "conditional_rule" (.text text)).map ((), ·)) s
    rw [if_neg hplain]
    exact congrArg Prod.snd (Session.run_bind_error hrun)

theorem listCategories_withRuleText {s : Store} {m : Forms} (h : s.Holds m) (n : Json.Nesting)
    {shopId form : Int} {r : FormRecords} (hr : m shopId form = some r) (id : Int)
    (text : String) :
    ((listCategories n shopId (some form)).run (.ready (s.withRuleText id text))).1 =
      (r.categories.mapM (Category.withRuleText n id text)).map .categories := by
  have hform : m.categories shopId form = r.categories := by
    rw [Forms.categories, hr]
    rfl
  rw [Operation.run, perform, Session.run_map, h.run_listCategories_withRuleText,
    if_pos (h.compiled shopId form r hr).1.key, hform]

/-- When a text that is no rule is put in the place of the rule of a conditional category of
a published form, all other forms are listed as before. The category becomes one that is never
shown, and none of its items is charged. There are two exceptions: with the empty text the
category has no rule and is always shown, and with an integer of too many digits or too deep a
nesting in the text its form cannot be listed. A text with a half of a surrogate pair in it
is refused, and then the rule is as before. -/
theorem unreadable_rule_hides_category (ops : List Operation)
    (hops : ∀ op ∈ ops, op.isService = true) {shopId form : Int} {r : FormRecords}
    (hr : lastPublished ops shopId form = some r) {c : Category} (hc : c ∈ r.categories)
    (hsection : c.isIn .conditional = true) {text : String} {db : Database}
    (hdb : (runAll (ops ++ [overwriteRule c.id text]) fresh).2 = db) (n : Json.Nesting) :
    (∀ owner key, ¬ (owner = shopId ∧ key = form) →
      ((listCategories n owner (some key)).run db).1 =
        ((listCategories n owner (some key)).run (runAll ops fresh).2).1) ∧
    (text ≠ "" → Text.IsPlain text → Rule.IsUnreadable n text →
      ((listCategories n shopId (some form)).run db).1 =
          .ok (.categories (r.categories.map (Category.withRule c.id (some {})))) ∧
        (∀ answers, (c.withRule c.id (some {})).isShown answers = false) ∧
        ∀ key values ids today rate q,
          ((quote n shopId key values ids today rate).run db).1 = .ok (.quote q) →
          ∀ i ∈ r.items, i.categoryId = c.id → i.id ∉ q.selectedItemIds) ∧
    (text = "" →
      ((listCategories n shopId (some form)).run db).1 =
          .ok (.categories (r.categories.map (Category.withRule c.id none))) ∧
        ∀ answers, (c.withRule c.id none).isShown answers = true) ∧
    (∀ fault, Text.IsPlain text → Json.read (.loose n) text = .error fault → fault ≠ .malformed →
      ((listCategories n shopId (some form)).run db).1 = .error (.ruleUnreadable fault)) ∧
    (¬ Text.IsPlain text → db = (runAll ops fresh).2) := by
  obtain ⟨s, hs, hholds, hafter⟩ := runAll_overwriteRule ops hops hr hc text
  obtain rfl := hafter.symm.trans hdb
  have hlisted := listCategories_withRuleText hholds n hr c.id text
  have hmem : c ∈ Forms.categories (lastPublished ops) shopId form :=
    Store.Holds.mem_categories_iff.mpr ⟨r, hr, hc⟩
  have hid : c.id ∈ Forms.ids (lastPublished ops) shopId form := List.mem_map_of_mem hmem
  refine ⟨fun owner key hne => ?_, fun hne hplain hunreadable => ?_, fun hempty => ?_,
    fun fault hplain hfault hmalformed => ?_, fun hrefused => ?_⟩
  · rw [hs]
    split
    · have hother : c.id ∉ Forms.ids (lastPublished ops) owner key :=
        fun hmem => hne (hholds.eq_of_mem_ids hid hmem)
      have hsame := hholds.run_listCategories_of_not_mem n hother text
      rw [Operation.run, Operation.run, perform, Session.run_map, Session.run_map]
      exact congrArg (Except.map Answer.categories) hsame
    · rfl
  · have hrule := Rule.ofText_of_isUnreadable hunreadable hne
    have hhidden : ∀ answers, (c.withRule c.id (some {})).isShown answers = false := by
      intro answers
      rw [Category.isShown_withRule hsection]
      exact Bool.and_false _
    rw [if_pos hplain]
    refine ⟨?_, hhidden, ?_⟩
    · rw [hlisted, Category.mapM_withRuleText_ok hrule]
      rfl
    · intro key values ids today rate q hq i hi hcategory
      refine hholds.not_mem_of_never_shown hrule hid ?_ hq
        (Store.Holds.mem_items_iff.mpr ⟨r, hr, hi⟩) hcategory
      intro other hother hsame
      obtain rfl := List.inj_on_of_nodup_map (hholds.nodup_ids shopId form) hother hmem hsame
      exact hhidden
  · constructor
    · have hplain : Text.IsPlain text := by
        rw [hempty]
        decide
      have hrule : Rule.ofText n text = .ok none := by rw [Rule.ofText, if_pos hempty]
      rw [if_pos hplain, hlisted, Category.mapM_withRuleText_ok hrule]
      rfl
    · intro answers
      rw [Category.isShown_withRule hsection, hholds.isActive_of_mem_categories hmem]
      rfl
  · have hrule := Rule.ofText_of_fault hfault hmalformed
    rw [if_pos hplain, hlisted, Category.mapM_withRuleText_error hrule ⟨c, hc, rfl⟩]
    rfl
  · rw [if_neg hrefused, hs]

/-- The makeup of the form for portraits, which is for the studio. -/
def makeup : Category where
  id := 20
  shopId := some 1
  name := "makeup"
  displayName := "Makeup"
  sortOrder := 1
  formSection := some "conditional"
  productType := some .optionSingle
  rule := some (.fieldEquals "category_10" (.int 100))

theorem makeup_mem_portraitDraft : makeup ∈ portraitDraft.customerForm.categories := by
  decide

/-- A broken rule hides the makeup, whatever is answered. -/
theorem broken_rule_hides_makeup :
    ((listCategories default 1 (some 7)).run (runAll ([saveDraft portraitDraft, publish 1 7] ++
        [overwriteRule 20 "\x7bnot json"]) fresh).2).1 =
      .ok (.categories
        (portraitDraft.customerForm.categories.map (Category.withRule 20 (some {})))) ∧
      ∀ answers, (makeup.withRule 20 (some {})).isShown answers = false := by
  have hdb : (runAll ([saveDraft portraitDraft, publish 1 7] ++
      [overwriteRule makeup.id "\x7bnot json"]) fresh).2 = _ := rfl
  have hwitness := unreadable_rule_hides_category [saveDraft portraitDraft, publish 1 7]
    (by simp [isService]) lastPublished_portraitDraft makeup_mem_portraitDraft rfl hdb default
  obtain ⟨hlisted, hhidden, -⟩ := hwitness.2.1 (by decide) (by decide) (Or.inl rfl)
  exact ⟨hlisted, hhidden⟩

/-- The empty text is no JSON, and yet the makeup is always shown. -/
theorem empty_rule_shows_makeup :
    Rule.IsUnreadable default "" ∧
      ((listCategories default 1 (some 7)).run (runAll ([saveDraft portraitDraft, publish 1 7] ++
        [overwriteRule 20 ""]) fresh).2).1 =
      .ok (.categories (portraitDraft.customerForm.categories.map (Category.withRule 20 none))) ∧
      ∀ answers, (makeup.withRule 20 none).isShown answers = true := by
  obtain ⟨s, -, hholds, hafter⟩ := runAll_overwriteRule [saveDraft portraitDraft, publish 1 7]
    (by simp [isService]) lastPublished_portraitDraft makeup_mem_portraitDraft ""
  have hrule : Rule.ofText default "" = .ok none := rfl
  have hlisted := listCategories_withRuleText hholds default lastPublished_portraitDraft 20 ""
  rw [Category.mapM_withRuleText_ok hrule] at hlisted
  refine ⟨Or.inl rfl, ?_, fun answers => ?_⟩
  · exact (congrArg (fun db => ((listCategories default 1 (some 7)).run db).1) hafter).trans
      hlisted
  · exact Category.isShown_withRule (c := makeup) rfl none answers

end Operation

end StudioQuote
