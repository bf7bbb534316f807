import Mathlib.Data.List.Nodup
import StudioQuote.Proofs.Draft.Records
import StudioQuote.Proofs.Service.Step
import StudioQuote.Proofs.Store.Rows

/-!
# What the tables of published forms hold

Categories and items of all forms share two tables. At any time the tables hold some
version of each form: the categories of a form are the rows with its key, its items are
the rows that stand in these categories, and there are no other rows. Replacing a form
keeps this, since the ids that are left are those of the other forms.
-/

namespace StudioQuote

open Number

abbrev Forms := Int → Int → Option FormRecords

namespace Forms

def categories (m : Forms) (shopId form : Int) : List Category :=
  (m shopId form).elim [] FormRecords.categories

def items (m : Forms) (shopId form : Int) : List Item :=
  (m shopId form).elim [] FormRecords.items

def ids (m : Forms) (shopId form : Int) : List Int :=
  (m.categories shopId form).map Category.id

def publish (m : Forms) (shopId form : Int) (r : FormRecords) : Forms :=
  fun s f => if s = shopId ∧ f = form then some r else m s f

theorem publish_self (m : Forms) (shopId form : Int) (r : FormRecords) :
    m.publish shopId form r shopId form = some r :=
  if_pos ⟨rfl, rfl⟩

theorem publish_of_ne (m : Forms) {shopId form s f : Int} (r : FormRecords)
    (h : ¬ (s = shopId ∧ f = form)) : m.publish shopId form r s f = m s f :=
  if_neg h

theorem ids_publish_self (m : Forms) (shopId form : Int) (r : FormRecords) :
    (m.publish shopId form r).ids shopId form = r.categories.map Category.id := by
  rw [ids, categories, publish_self]
  rfl

theorem ids_publish_of_ne (m : Forms) {shopId form s f : Int} (r : FormRecords)
    (h : ¬ (s = shopId ∧ f = form)) : (m.publish shopId form r).ids s f = m.ids s f := by
  rw [ids, categories, publish_of_ne m r h]
  rfl

end Forms

/-- Whether records are those of a draft for the shop, and fit into the store. -/
def FormRecords.IsCompiled (shopId form : Int) (r : FormRecords) : Prop :=
  r.Fits shopId form ∧ ∃ d : Draft, d.shopId = some shopId ∧ r = d.customerForm

theorem FormRecords.IsCompiled.categoryId_item {shopId form : Int} {r : FormRecords}
    (h : r.IsCompiled shopId form) {i : Item} (hi : i ∈ r.items) :
    i.categoryId ∈ r.categories.map Category.id := by
  obtain ⟨-, d, -, rfl⟩ := h
  exact Draft.categoryId_of_mem_items hi

namespace CategoryRow

theorem belongsTo_iff {r : CategoryRow} {shopId form : Int} :
    r.belongsTo shopId form = true ↔
      r.shopId = .integer shopId ∧ r.shootingCategoryId = .integer form := by
  rw [belongsTo, Bool.and_eq_true_iff, beq_iff_eq, beq_iff_eq]

theorem belongsTo_ofRecord (shopId form : Int) (c : Category) :
    (ofRecord shopId form c).belongsTo shopId form = true :=
  belongsTo_iff.mpr ⟨rfl, rfl⟩

theorem eq_of_belongsTo {r : CategoryRow} {shopId form s f : Int}
    (h : r.belongsTo shopId form = true) (h' : r.belongsTo s f = true) :
    s = shopId ∧ f = form := by
  obtain ⟨hshop, hform⟩ := belongsTo_iff.mp h
  obtain ⟨hs, hf⟩ := belongsTo_iff.mp h'
  exact ⟨Cell.integer.inj (hs.symm.trans hshop), Cell.integer.inj (hf.symm.trans hform)⟩

theorem belongsTo_of_ne {r : CategoryRow} {shopId form s f : Int}
    (hne : ¬ (s = shopId ∧ f = form)) (h : r.belongsTo s f = true) :
    r.belongsTo shopId form = false :=
  Bool.eq_false_iff.mpr fun hform => hne (eq_of_belongsTo hform h)

end CategoryRow

def ItemRow.isIn (ids : List Int) (r : ItemRow) : Bool :=
  ids.any fun id => r.categoryId == .integer id

theorem ItemRow.isIn_iff {ids : List Int} {r : ItemRow} :
    r.isIn ids = true ↔ ∃ id ∈ ids, r.categoryId = .integer id := by
  simp only [isIn, List.any_eq_true, beq_iff_eq]

theorem ItemRow.isIn_ofRecord {ids : List Int} {shopId : Int} {i : Item} :
    (ofRecord shopId i).isIn ids = true ↔ i.categoryId ∈ ids := by
  rw [isIn_iff]
  constructor
  · rintro ⟨id, hid, heq⟩
    cases heq
    exact hid
  · exact fun h => ⟨i.categoryId, h, rfl⟩

theorem ItemRow.exists_mem_of_isIn {ids others : List Int} {r : ItemRow}
    (h : r.isIn ids = true) (h' : r.isIn others = true) : ∃ id ∈ ids, id ∈ others := by
  obtain ⟨id, hid, heq⟩ := isIn_iff.mp h
  obtain ⟨other, hother, heq'⟩ := isIn_iff.mp h'
  obtain rfl := Cell.integer.inj (heq.symm.trans heq')
  exact ⟨id, hid, hother⟩

theorem filter_and_not {α : Type} {as : List α} {p q : α → Bool}
    (h : ∀ a, p a = true → q a = false) :
    (as.filter fun a => p a && !q a) = as.filter p := by
  refine List.filter_congr fun a _ => ?_
  cases ha : p a with
  | false => rfl
  | true => rw [h a ha, Bool.not_false, Bool.and_true]

namespace Store

/-- Whether the tables hold the given forms and nothing else. -/
structure Holds (s : Store) (m : Forms) : Prop where
  categories : ∀ shopId form, s.categories.filter (·.belongsTo shopId form) =
    (m.categories shopId form).map (.ofRecord shopId form)
  items : ∀ shopId form, s.items.filter (·.isIn (m.ids shopId form)) =
    (m.items shopId form).map (.ofRecord shopId)
  owned : ∀ r ∈ s.categories, ∃ shopId form, r.belongsTo shopId form = true
  ownedItem : ∀ r ∈ s.items, ∃ shopId form, r.isIn (m.ids shopId form) = true
  categoryIds : (s.categories.map CategoryRow.id).Nodup
  itemIds : (s.items.map ItemRow.id).Nodup
  compiled : ∀ shopId form r, m shopId form = some r → r.IsCompiled shopId form

theorem holds_empty : empty.Holds fun _ _ => none where
  categories _ _ := rfl
  items _ _ := rfl
  owned _ h := nomatch h
  ownedItem _ h := nomatch h
  categoryIds := List.nodup_nil
  itemIds := List.nodup_nil
  compiled _ _ _ h := nomatch h

namespace Holds

variable {s : Store} {m : Forms}

theorem congr {after : Store} (h : s.Holds m) (hcategories : after.categories = s.categories)
    (hitems : after.items = s.items) : after.Holds m := by
  obtain ⟨categories, items, owned, ownedItem, categoryIds, itemIds, compiled⟩ := h
  rw [← hcategories] at categories owned categoryIds
  rw [← hitems] at items ownedItem itemIds
  exact ⟨categories, items, owned, ownedItem, categoryIds, itemIds, compiled⟩

theorem ids_eq (h : s.Holds m) (shopId form : Int) :
    m.ids shopId form = (s.categories.filter (·.belongsTo shopId form)).map CategoryRow.id := by
  rw [h.categories, List.map_map]
  rfl

theorem mem_ids_iff (h : s.Holds m) {shopId form id : Int} :
    id ∈ m.ids shopId form ↔ ∃ r ∈ s.categories, r.belongsTo shopId form = true ∧ r.id = id := by
  simp only [h.ids_eq, List.mem_map, List.mem_filter, and_assoc]

theorem eq_of_mem_ids (h : s.Holds m) {shopId form s' f id : Int} (hid : id ∈ m.ids shopId form)
    (hid' : id ∈ m.ids s' f) : s' = shopId ∧ f = form := by
  obtain ⟨r, hr, hbelongs, rfl⟩ := h.mem_ids_iff.mp hid
  obtain ⟨r', hr', hbelongs', heq⟩ := h.mem_ids_iff.mp hid'
  obtain rfl := List.inj_on_of_nodup_map h.categoryIds hr' hr heq
  exact CategoryRow.eq_of_belongsTo hbelongs hbelongs'

theorem items_withoutForm (h : s.Holds m) (shopId form : Int) :
    (s.withoutForm shopId form).items = s.items.filter fun r => !r.isIn (m.ids shopId form) := by
  rw [h.ids_eq]
  rfl

theorem isIn_of_ne (h : s.Holds m) {shopId form a b : Int} (hne : ¬ (a = shopId ∧ b = form))
    {r : ItemRow} (hr : r.isIn (m.ids a b) = true) : r.isIn (m.ids shopId form) = false := by
  refine Bool.eq_false_iff.mpr fun hform => hne ?_
  obtain ⟨id, hid, hother⟩ := ItemRow.exists_mem_of_isIn hform hr
  exact h.eq_of_mem_ids hid hother

theorem mem_withoutForm (h : s.Holds m) {shopId form a b id : Int} (hid : id ∈ m.ids a b)
    (hne : ¬ (a = shopId ∧ b = form)) :
    id ∈ (s.withoutForm shopId form).categories.map CategoryRow.id := by
  obtain ⟨r, hr, hbelongs, rfl⟩ := h.mem_ids_iff.mp hid
  refine List.mem_map_of_mem (List.mem_filter.mpr ⟨hr, ?_⟩)
  rw [CategoryRow.belongsTo_of_ne hne hbelongs]
  rfl

section Replace

variable {shopId form : Int} {r : FormRecords}

theorem not_mem_ids (h : s.Holds m) (haccepts : s.Accepts shopId form r) {a b : Int}
    (hne : ¬ (a = shopId ∧ b = form)) {id : Int} (hid : id ∈ r.categories.map Category.id) :
    id ∉ m.ids a b :=
  fun hother => haccepts.1.2 id hid (h.mem_withoutForm hother hne)

theorem categories_withForm (h : s.Holds m) (a b : Int) :
    (s.withForm shopId form r).categories.filter (·.belongsTo a b) =
      ((m.publish shopId form r).categories a b).map (.ofRecord a b) := by
  have happend : (s.withForm shopId form r).categories =
      (s.categories.filter fun r => !r.belongsTo shopId form) ++
        r.categories.map (.ofRecord shopId form) :=
    rfl
  rw [happend, List.filter_append, List.filter_filter, Forms.categories]
  by_cases hkey : a = shopId ∧ b = form
  · obtain ⟨rfl, rfl⟩ := hkey
    have hold : (s.categories.filter fun r => r.belongsTo a b && !r.belongsTo a b) = [] := by
      simp only [Bool.and_not_self, List.filter_false]
    have hnew : (r.categories.map (CategoryRow.ofRecord a b)).filter (·.belongsTo a b) =
        r.categories.map (.ofRecord a b) := by
      refine List.filter_eq_self.mpr fun row hrow => ?_
      obtain ⟨c, -, rfl⟩ := List.mem_map.mp hrow
      exact CategoryRow.belongsTo_ofRecord a b c
    rw [hold, hnew, Forms.publish_self]
    rfl
  · have hold : (s.categories.filter fun r => r.belongsTo a b && !r.belongsTo shopId form) =
        s.categories.filter (·.belongsTo a b) :=
      filter_and_not fun _ hrow => CategoryRow.belongsTo_of_ne hkey hrow
    have hnew : (r.categories.map (CategoryRow.ofRecord shopId form)).filter (·.belongsTo a b) =
        [] := by
      refine List.filter_eq_nil_iff.mpr fun row hrow hbelongs => ?_
      obtain ⟨c, -, rfl⟩ := List.mem_map.mp hrow
      have hown := CategoryRow.belongsTo_ofRecord shopId form c
      exact hkey (CategoryRow.eq_of_belongsTo hown hbelongs)
    rw [hold, hnew, List.append_nil, Forms.publish_of_ne m r hkey]
    exact h.categories a b

theorem filter_isIn_withoutForm (h : s.Holds m) (haccepts : s.Accepts shopId form r) :
    (s.withoutForm shopId form).items.filter (·.isIn (r.categories.map Category.id)) = [] := by
  rw [h.items_withoutForm]
  -- a row that is left stands in a category of another form
  refine List.filter_eq_nil_iff.mpr fun row hrow hnew => ?_
  obtain ⟨hstored, hleft⟩ := List.mem_filter.mp hrow
  obtain ⟨a, b, howned⟩ := h.ownedItem row hstored
  obtain ⟨id, hid, hother⟩ := ItemRow.exists_mem_of_isIn hnew howned
  refine h.not_mem_ids haccepts ?_ hid hother
  rintro ⟨rfl, rfl⟩
  rw [howned] at hleft
  cases hleft

theorem filter_isIn_withoutForm_of_ne (h : s.Holds m) {a b : Int}
    (hne : ¬ (a = shopId ∧ b = form)) :
    (s.withoutForm shopId form).items.filter (·.isIn (m.ids a b)) =
      s.items.filter (·.isIn (m.ids a b)) := by
  rw [h.items_withoutForm, List.filter_filter]
  exact filter_and_not fun _ hrow => h.isIn_of_ne hne hrow

theorem items_withForm (h : s.Holds m) (hr : r.IsCompiled shopId form)
    (haccepts : s.Accepts shopId form r) (a b : Int) :
    (s.withForm shopId form r).items.filter (·.isIn ((m.publish shopId form r).ids a b)) =
      ((m.publish shopId form r).items a b).map (.ofRecord a) := by
  have happend : (s.withForm shopId form r).items =
      (s.withoutForm shopId form).items ++ r.items.map (.ofRecord shopId) :=
    rfl
  rw [happend, List.filter_append, Forms.items]
  by_cases hkey : a = shopId ∧ b = form
  · obtain ⟨rfl, rfl⟩ := hkey
    have hnew : (r.items.map (ItemRow.ofRecord a)).filter
        (·.isIn (r.categories.map Category.id)) = r.items.map (.ofRecord a) := by
      refine List.filter_eq_self.mpr fun row hrow => ?_
      obtain ⟨i, hi, rfl⟩ := List.mem_map.mp hrow
      exact ItemRow.isIn_ofRecord.mpr (hr.categoryId_item hi)
    rw [Forms.ids_publish_self, Forms.publish_self, h.filter_isIn_withoutForm haccepts, hnew]
    rfl
  · have hnew : (r.items.map (ItemRow.ofRecord shopId)).filter (·.isIn (m.ids a b)) = [] := by
      refine List.filter_eq_nil_iff.mpr fun row hrow hin => ?_
      obtain ⟨i, hi, rfl⟩ := List.mem_map.mp hrow
      exact h.not_mem_ids haccepts hkey (hr.categoryId_item hi) (ItemRow.isIn_ofRecord.mp hin)
    rw [Forms.ids_publish_of_ne m r hkey, Forms.publish_of_ne m r hkey,
      h.filter_isIn_withoutForm_of_ne hkey, hnew, List.append_nil]
    exact h.items a b

theorem withForm (h : s.Holds m) (hr : r.IsCompiled shopId form)
    (haccepts : s.Accepts shopId form r) :
    (s.withForm shopId form r).Holds (m.publish shopId form r) where
  categories a b := h.categories_withForm a b
  items a b := h.items_withForm hr haccepts a b
  owned row hrow := by
    rcases List.mem_append.mp hrow with hold | hnew
    · exact h.owned row (List.mem_filter.mp hold).1
    · obtain ⟨c, -, rfl⟩ := List.mem_map.mp hnew
      exact ⟨shopId, form, CategoryRow.belongsTo_ofRecord shopId form c⟩
  ownedItem row hrow := by
    rcases List.mem_append.mp hrow with hold | hnew
    · rw [h.items_withoutForm] at hold
      obtain ⟨hrow, hnot⟩ := List.mem_filter.mp hold
      obtain ⟨a, b, howned⟩ := h.ownedItem row hrow
      refine ⟨a, b, ?_⟩
      rw [Forms.ids_publish_of_ne m r]
      · exact howned
      · rintro ⟨rfl, rfl⟩
        rw [howned] at hnot
        cases hnot
    · obtain ⟨i, hi, rfl⟩ := List.mem_map.mp hnew
      refine ⟨shopId, form, ?_⟩
      rw [Forms.ids_publish_self]
      exact ItemRow.isIn_ofRecord.mpr (hr.categoryId_item hi)
  categoryIds := by
    change ((s.withoutForm shopId form).categories ++ _).map CategoryRow.id |>.Nodup
    rw [List.map_append, List.map_map]
    refine List.nodup_append.mpr ⟨?_, haccepts.1.1, ?_⟩
    · exact h.categoryIds.sublist (List.filter_sublist.map _)
    · rintro id hold id' hnew rfl
      exact haccepts.1.2 id hnew hold
  itemIds := by
    change ((s.withoutForm shopId form).items ++ _).map ItemRow.id |>.Nodup
    rw [List.map_append, List.map_map]
    refine List.nodup_append.mpr ⟨?_, haccepts.2.1, ?_⟩
    · exact h.itemIds.sublist (List.filter_sublist.map _)
    · rintro id hold id' hnew rfl
      exact haccepts.2.2 id hnew hold
  compiled a b r' hr' := by
    by_cases hkey : a = shopId ∧ b = form
    · obtain ⟨rfl, rfl⟩ := hkey
      rw [Forms.publish_self] at hr'
      cases hr'
      exact hr
    · rw [Forms.publish_of_ne m r hkey] at hr'
      exact h.compiled a b r' hr'

end Replace

end Holds

end Store

end StudioQuote
