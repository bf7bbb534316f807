import Mathlib.Algebra.BigOperators.Group.List.Basic
import Mathlib.Data.List.Forall2
import StudioQuote.Proofs.Calendar
import StudioQuote.Proofs.Quote.Requote

/-!
# What a quote charges

A quote charges the selected items of the visible categories, once each and in the order of
selection, and after them the items of these categories that select themselves. Hidden
items have no part in it. As long as a hidden item keeps its id and its category, whatever
else is changed about it leaves the quote as it is.
-/

namespace StudioQuote

open Number

namespace Item

/-! ## The charged items -/

section Distinct

variable {items : List Item} (hitems : (items.map Item.id).Nodup) (visible ids : List Int)

include hitems

theorem any_find?_id (p : Item → Bool) (id : Int) :
    (items.find? (·.id == id)).any p = items.any fun i => i.id == id && p i := by
  rw [Bool.eq_iff_iff, Option.any_eq_true, List.any_eq_true]
  constructor
  · rintro ⟨i, hfind, hi⟩
    obtain ⟨hmem, hid⟩ := (find?_key_eq_some_iff hitems).mp hfind
    exact ⟨i, hmem, by simp [hid, hi]⟩
  · rintro ⟨i, hmem, hi⟩
    rw [Bool.and_eq_true, beq_iff_eq] at hi
    exact ⟨i, (find?_key_eq_some_iff hitems).mpr ⟨hmem, hi.1⟩, hi.2⟩

theorem map_id_chosen :
    (chosen items visible ids).map Item.id = ids.eraseDups.filter fun id =>
      items.any fun i => i.id == id && visible.contains i.categoryId := by
  rw [chosen, map_id_filter_resolve]
  apply List.filter_congr
  intro id _
  exact any_find?_id hitems _ id

/-- An item of a visible category is chosen exactly if its id is selected. -/
theorem mem_map_id_chosen_iff {i : Item} (hi : i ∈ items) (hvisible : i.categoryId ∈ visible) :
    i.id ∈ (chosen items visible ids).map Item.id ↔ i.id ∈ ids := by
  rw [map_id_chosen hitems, List.mem_filter, List.mem_eraseDups]
  constructor
  · intro h
    exact h.1
  · intro h
    refine ⟨h, List.any_eq_true.mpr ⟨i, hi, ?_⟩⟩
    simp [hvisible]

theorem added_chosen :
    added items visible ((chosen items visible ids).map Item.id) =
      items.filter fun i => i.selectsItself visible && !ids.contains i.id := by
  apply List.filter_congr
  intro i hi
  cases hselects : i.selectsItself visible with
  | false => simp
  | true =>
    have hvisible : i.categoryId ∈ visible := by
      simp only [selectsItself, Bool.and_eq_true, List.contains_iff_mem] at hselects
      exact hselects.2
    have hiff := mem_map_id_chosen_iff hitems visible ids hi hvisible
    rw [← List.contains_iff_mem, ← List.contains_iff_mem, ← Bool.eq_iff_iff] at hiff
    rw [hiff, Bool.and_true, Bool.true_and]

theorem map_id_charged :
    (charged items visible ids).map Item.id =
      (ids.eraseDups.filter fun id =>
        items.any fun i => i.id == id && visible.contains i.categoryId) ++
      (items.filter fun i => i.selectsItself visible && !ids.contains i.id).map Item.id := by
  rw [charged, List.map_append, map_id_chosen hitems, ← added_chosen hitems, map_id_chosen hitems]

/-- The charged items in the order of the form. -/
theorem charged_perm :
    (charged items visible ids).Perm
      (items.filter fun i => ((charged items visible ids).map Item.id).contains i.id) := by
  have hcharged : ((charged items visible ids).map Item.id).Nodup := nodup_map_id_charged hitems
  rw [List.perm_ext_iff_of_nodup (List.Nodup.of_map _ hcharged)
    ((List.Nodup.of_map _ hitems).filter _)]
  intro i
  rw [List.mem_filter, List.contains_iff_mem]
  constructor
  · intro hi
    exact ⟨(mem_of_mem_charged hi).1, List.mem_map_of_mem hi⟩
  · rintro ⟨hi, hid⟩
    obtain ⟨j, hj, heq⟩ := List.mem_map.mp hid
    obtain rfl := List.inj_on_of_nodup_map hitems (mem_of_mem_charged hj).1 hi heq
    exact hj

theorem subtotal_charged :
    subtotal (charged items visible ids) =
      ((items.filter fun i =>
        ((charged items visible ids).map Item.id).contains i.id).map Item.price).sum := by
  rw [← subtotal_eq_sum]
  exact subtotal_perm (charged_perm hitems visible ids)

end Distinct

/-! ## Changes of hidden items -/

/-- Whether an item may take the place of another one where only some categories are visible: it
has the same id and category, and it is the same item if its category is visible. -/
structure AgreesWithin (visible : List Int) (i j : Item) : Prop where
  id : j.id = i.id
  categoryId : j.categoryId = i.categoryId
  eq_of_visible : i.categoryId ∈ visible → j = i

namespace AgreesWithin

variable {visible : List Int}

theorem selectsItself {i j : Item} (h : AgreesWithin visible i j) :
    j.selectsItself visible = i.selectsItself visible := by
  by_cases hvisible : i.categoryId ∈ visible
  · rw [h.eq_of_visible hvisible]
  · simp [Item.selectsItself, h.categoryId, hvisible]

variable {items changed : List Item} (h : List.Forall₂ (AgreesWithin visible) items changed)

include h

theorem find? (id : Int) :
    Option.Rel (AgreesWithin visible) (items.find? (·.id == id)) (changed.find? (·.id == id)) := by
  induction h with
  | nil => exact .none
  | @cons i j items changed hij _ ih =>
    rw [List.find?_cons, List.find?_cons, hij.id]
    cases i.id == id with
    | true => exact .some hij
    | false => exact ih

theorem resolve (ids : List Int) :
    List.Forall₂ (AgreesWithin visible) (Item.resolve ids items) (Item.resolve ids changed) := by
  rw [Item.resolve, Item.resolve]
  induction ids.eraseDups with
  | nil => exact .nil
  | cons id ids ih =>
    have hfound := find? h id
    rw [List.filterMap_cons, List.filterMap_cons]
    generalize items.find? (·.id == id) = i at hfound ⊢
    generalize changed.find? (·.id == id) = j at hfound ⊢
    cases hfound with
    | none => exact ih
    | some hij => exact .cons hij ih

/-- What depends on ids and categories alone is the same. -/
theorem map_filter {β : Type} (p : Int → Bool) (f : Item → β)
    (hf : ∀ i j, j.id = i.id → j.categoryId = i.categoryId → f j = f i) :
    (changed.filter (p ·.categoryId)).map f = (items.filter (p ·.categoryId)).map f := by
  induction h with
  | nil => rfl
  | @cons i j items changed hij _ ih =>
    rw [List.filter_cons, List.filter_cons, hij.categoryId]
    cases p i.categoryId with
    | true =>
      rw [if_pos rfl, if_pos rfl, List.map_cons, List.map_cons, ih, hf i j hij.id hij.categoryId]
    | false => simpa using ih

theorem withAutoSelected (ids : List Int) :
    Item.withAutoSelected ids visible changed = Item.withAutoSelected ids visible items := by
  rw [Item.withAutoSelected, Item.withAutoSelected]
  induction h generalizing ids with
  | nil => rfl
  | @cons i j items changed hij _ ih =>
    rw [List.foldl_cons, List.foldl_cons, hij.selectsItself, hij.id]
    exact ih _

theorem eq_of_forall_visible (hvisible : ∀ i ∈ items, i.categoryId ∈ visible) :
    changed = items := by
  induction h with
  | nil => rfl
  | cons hij _ ih =>
    rw [List.forall_mem_cons] at hvisible
    rw [hij.eq_of_visible hvisible.1, ih hvisible.2]

theorem map_picks {β : Type} (categories : List Category) (f : Item → β)
    (hf : ∀ i j, j.id = i.id → j.categoryId = i.categoryId → f j = f i) :
    (Answers.picks categories changed).map f = (Answers.picks categories items).map f :=
  map_filter h (fun id => (Answers.triggerIds categories).contains id) f hf

theorem recorded (categories : List Category) :
    Answers.recorded categories changed = Answers.recorded categories items := by
  rw [Answers.recorded, Answers.recorded, map_picks h categories Answers.entry]
  intro i j hid hcategory
  rw [Answers.entry, Answers.entry, hid, hcategory]

theorem haveShortFields_iff (categories : List Category) :
    Answers.HaveShortFields categories changed ↔ Answers.HaveShortFields categories items := by
  rw [Answers.HaveShortFields, Answers.HaveShortFields, ← List.forall_mem_map (f := Item.categoryId),
    map_picks h categories Item.categoryId fun _ _ _ hcategory => hcategory, List.forall_mem_map]

theorem pricedIds (ids : List Int) :
    Quote.pricedIds changed visible ids = Quote.pricedIds items visible ids := by
  have hselected := map_filter (resolve h ids) (fun id => visible.contains id) Item.id
    fun i j hid _ => hid
  rw [Quote.pricedIds, Quote.pricedIds, hselected, withAutoSelected h]

end AgreesWithin

end Item

namespace Quote

section Charged

variable {form : PublishedForm} (hitems : (form.items.map Item.id).Nodup) (values : Answers)
  (ids : List Int) (shootingCategoryId : Option Int) (today : Date) (rate : Decimal)

theorem answers_agreesWithin {visible : List Int} {changed : List Item}
    (h : List.Forall₂ (Item.AgreesWithin visible) form.items changed) :
    answers { form with items := changed } values ids = answers form values ids := by
  have hrecorded := Item.AgreesWithin.recorded (Item.AgreesWithin.resolve h ids) form.categories
  rw [answers, answers, Answers.ofSelection, Answers.ofSelection, hrecorded]

include hitems

theorem selectedItemIds_build :
    (build form values ids shootingCategoryId today rate).selectedItemIds =
      (Item.charged form.items ((build form values ids shootingCategoryId today
        rate).sections.categories.map Category.id) ids).map Item.id :=
  Item.withAutoSelected_chosen hitems

theorem resolve_selectedItemIds :
    Item.resolve (build form values ids shootingCategoryId today rate).selectedItemIds form.items =
      Item.charged form.items ((build form values ids shootingCategoryId today
        rate).sections.categories.map Category.id) ids := by
  rw [selectedItemIds_build hitems, Item.resolve_charged hitems]

theorem subtotal_build :
    (build form values ids shootingCategoryId today rate).price.subtotal =
      Item.subtotal (Item.charged form.items ((build form values ids shootingCategoryId today
        rate).sections.categories.map Category.id) ids) := by
  rw [← resolve_selectedItemIds hitems]
  rfl

/-- A quote does not depend on what is not shown. -/
theorem build?_agreesWithin {changed : List Item}
    (h : List.Forall₂ (Item.AgreesWithin ((build form values ids shootingCategoryId today
      rate).sections.categories.map Category.id)) form.items changed) :
    build? { form with items := changed } values ids shootingCategoryId today rate =
      build? form values ids shootingCategoryId today rate := by
  have hanswers := answers_agreesWithin values ids h
  have hpriced := Item.AgreesWithin.pricedIds h ids
  have hresolved := Item.AgreesWithin.resolve h
    (build form values ids shootingCategoryId today rate).selectedItemIds
  have hsame := Item.AgreesWithin.eq_of_forall_visible hresolved (by
    intro i hi
    rw [resolve_selectedItemIds hitems] at hi
    exact List.contains_iff_mem.mp (Item.mem_of_mem_charged hi).2)
  have hsections : (build form values ids shootingCategoryId today rate).sections =
      VisibleSections.group form.categories (answers form values ids) := rfl
  have hids : (build form values ids shootingCategoryId today rate).selectedItemIds =
      pricedIds form.items ((VisibleSections.group form.categories
        (answers form values ids)).categories.map Category.id) ids := rfl
  rw [hsections] at hpriced
  rw [hids] at hsame
  refine build?_congr (Item.AgreesWithin.haveShortFields_iff (Item.AgreesWithin.resolve h ids) _) ?_
  simp only [build, ofSections, hanswers, hpriced, hsame]

end Charged

/-- Of items that can be told apart a quote charges the selected ones in visible categories, once
each and in the order of selection, and after them those that select themselves. Its subtotal
is the sum of their prices, and nothing else about the items has a part in the quote, whether
there is one or not. -/
theorem charges_visible_selection (form : PublishedForm)
    (hitems : (form.items.map Item.id).Nodup) (values : Answers) (ids : List Int)
    (shootingCategoryId : Option Int) (today : Date) (rate : Decimal) :
    let q := build form values ids shootingCategoryId today rate
    let visible := q.sections.categories.map Category.id
    q.selectedItemIds =
        (ids.eraseDups.filter fun id =>
          form.items.any fun i => i.id == id && visible.contains i.categoryId) ++
        (form.items.filter fun i => i.autoSelect && i.isActive && visible.contains i.categoryId &&
          !ids.contains i.id).map Item.id ∧
      q.selectedItemIds.Nodup ∧
      q.price.subtotal =
        ((form.items.filter fun i => q.selectedItemIds.contains i.id).map Item.price).sum ∧
      (build? form values ids shootingCategoryId today rate =
        if Answers.HaveShortFields form.categories (Item.resolve ids form.items) then
          ((PriceBreakdown.check q.price.subtotal q.price.appliedCampaign rate).map
            fun _ => q).mapError .amount
        else .error .fieldTooLong) ∧
      ∀ changed, List.Forall₂ (Item.AgreesWithin visible) form.items changed →
        build? { form with items := changed } values ids shootingCategoryId today rate =
          build? form values ids shootingCategoryId today rate := by
  intro q visible
  have hids : q.selectedItemIds = (Item.charged form.items visible ids).map Item.id :=
    selectedItemIds_build hitems values ids shootingCategoryId today rate
  refine ⟨?_, ?_, ?_, ?_, ?_⟩
  · rw [hids]
    exact Item.map_id_charged hitems visible ids
  · rw [hids]
    exact Item.nodup_map_id_charged hitems
  · rw [hids]
    exact (subtotal_build hitems values ids shootingCategoryId today rate).trans
      (Item.subtotal_charged hitems visible ids)
  · exact build?_eq_map_check form values ids shootingCategoryId today rate
  · intro changed h
    exact build?_agreesWithin hitems values ids shootingCategoryId today rate h

/-- The makeup is for the studio and comes with it, and so does a proof sheet with any photos. -/
def makeupForm : PublishedForm where
  categories := [
    { id := 10, name := "location", formSection := some "trigger" },
    { id := 20, name := "makeup", formSection := some "conditional",
      rule := some (Rule.fieldEquals (answerField 10) (.int 100)) },
    { id := 30, name := "prints", formSection := some "conditional" }]
  items := [
    { id := 100, categoryId := 10, price := 5000 },
    { id := 101, categoryId := 10, price := 8000 },
    { id := 200, categoryId := 20, price := 3000, autoSelect := true },
    { id := 300, categoryId := 30, price := 500, autoSelect := true },
    { id := 301, categoryId := 30, price := 900 }]

/-- The items of the form with another makeup, which does not select itself. -/
def otherMakeup : List Item :=
  makeupForm.items.set 2 { id := 200, categoryId := 20, name := "Evening", price := -700 }

def shootingDay : Date := ⟨2024, 5, 1, isCalendarDay_mayDay⟩

/-- Outdoors the makeup is not charged though it is selected, whatever it costs. -/
theorem hidden_makeup_is_not_charged :
    (build makeupForm [] [301, 101, 200, 301, 999] (some 7) shootingDay
        standardTaxRate).selectedItemIds = [301, 101, 300] ∧
      (build makeupForm [] [301, 101, 200, 301, 999] (some 7) shootingDay
        standardTaxRate).price.subtotal = 9400 ∧
      build? { makeupForm with items := otherMakeup } [] [301, 101, 200, 301, 999] (some 7)
          shootingDay standardTaxRate =
        build? makeupForm [] [301, 101, 200, 301, 999] (some 7) shootingDay standardTaxRate := by
  have hvisible : (build makeupForm [] [301, 101, 200, 301, 999] (some 7) shootingDay
      standardTaxRate).sections.categories.map Category.id = [10, 30] := by
    decide +kernel
  have hitems : (makeupForm.items.map Item.id).Nodup := by decide
  obtain ⟨hids, -, hsubtotal, -, hchanged⟩ := charges_visible_selection makeupForm hitems []
    [301, 101, 200, 301, 999] (some 7) shootingDay standardTaxRate
  rw [hvisible] at hids hchanged
  rw [hids] at hsubtotal
  refine ⟨hids.trans (by decide), hsubtotal.trans (by decide), ?_⟩
  apply hchanged
  refine .cons ?_ (.cons ?_ (.cons ?_ (.cons ?_ (.cons ?_ .nil))))
  all_goals exact ⟨rfl, rfl, by decide⟩

end Quote

end StudioQuote
