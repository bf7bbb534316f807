import StudioQuote.Proofs.Quote.Growth

/-!
# Quoting a quote again

The ids of a quote are those of items in visible categories, with the items added that
select themselves. When trigger categories are always shown and none of their items
selects itself, no first pick is dropped and none is added. So the same answers are
recorded from the ids of a quote, and the quote on these ids is the same one.
-/

namespace StudioQuote

open Number

/-- Whether items can be told apart by id, every trigger category is active, and only items
of other categories select themselves. -/
structure PublishedForm.IsSettled (form : PublishedForm) : Prop where
  distinct : (form.items.map Item.id).Nodup
  active : ∀ c ∈ form.categories, c.isIn .trigger = true → c.isActive = true
  manual : ∀ i ∈ form.items, i.isActive = true → i.autoSelect = true →
    i.categoryId ∉ Answers.triggerIds form.categories

namespace Item

def chosen (items : List Item) (visible ids : List Int) : List Item :=
  (resolve ids items).filter fun i => visible.contains i.categoryId

/-- The items that select themselves and are not selected yet. -/
def added (items : List Item) (visible chosenIds : List Int) : List Item :=
  items.filter fun i => !chosenIds.contains i.id && i.selectsItself visible

def charged (items : List Item) (visible ids : List Int) : List Item :=
  chosen items visible ids ++ added items visible ((chosen items visible ids).map Item.id)

theorem mem_added_iff {items : List Item} {visible chosenIds : List Int} {i : Item} :
    i ∈ added items visible chosenIds ↔
      i ∈ items ∧ i.id ∉ chosenIds ∧ i.selectsItself visible = true := by
  rw [added, List.mem_filter, Bool.and_eq_true, Bool.not_eq_true', ← Bool.not_eq_true,
    List.contains_iff_mem]

section Charged

variable {items : List Item} {visible ids : List Int}

theorem mem_of_mem_chosen {i : Item} (h : i ∈ chosen items visible ids) :
    i ∈ items ∧ visible.contains i.categoryId = true := by
  obtain ⟨hi, hvisible⟩ := List.mem_filter.mp h
  exact ⟨mem_of_mem_resolve hi, hvisible⟩

theorem mem_of_mem_charged {i : Item} (h : i ∈ charged items visible ids) :
    i ∈ items ∧ visible.contains i.categoryId = true := by
  rcases List.mem_append.mp h with h | h
  · exact mem_of_mem_chosen h
  · obtain ⟨hi, -, hselects⟩ := mem_added_iff.mp h
    rw [selectsItself, Bool.and_eq_true] at hselects
    exact ⟨hi, hselects.2⟩

theorem nodup_map_id_chosen : ((chosen items visible ids).map Item.id).Nodup := by
  rw [chosen, map_id_filter_resolve]
  exact (nodup_eraseDups ids).filter _

/-- Where all items of some kind stand in visible categories and none of them selects itself,
those that are charged are those that are selected. -/
theorem filter_charged {p : Item → Bool}
    (hvisible : ∀ i ∈ items, p i = true → visible.contains i.categoryId = true)
    (hmanual : ∀ i ∈ items, p i = true → i.selectsItself visible = false) :
    (charged items visible ids).filter p = (resolve ids items).filter p := by
  have hadded : (added items visible ((chosen items visible ids).map Item.id)).filter p = [] := by
    rw [List.filter_eq_nil_iff]
    intro i hi hp
    obtain ⟨hmem, -, hselects⟩ := mem_added_iff.mp hi
    rw [hmanual i hmem hp] at hselects
    cases hselects
  rw [charged, List.filter_append, hadded, List.append_nil, chosen, List.filter_filter]
  apply List.filter_congr
  intro i hi
  cases hp : p i with
  | false => rfl
  | true => rw [hvisible i (mem_of_mem_resolve hi) hp, Bool.and_true]

theorem added_charged : added items visible ((charged items visible ids).map Item.id) = [] := by
  rw [List.eq_nil_iff_forall_not_mem]
  intro i hi
  obtain ⟨hmem, hnew, hselects⟩ := mem_added_iff.mp hi
  apply hnew
  rw [charged, List.map_append, List.mem_append]
  -- what was not chosen selects itself, so it was added then
  by_cases hchosen : i.id ∈ (chosen items visible ids).map Item.id
  · exact .inl hchosen
  · exact .inr (List.mem_map_of_mem (mem_added_iff.mpr ⟨hmem, hchosen, hselects⟩))

section Distinct

variable (hitems : (items.map Item.id).Nodup)

include hitems

theorem nodup_map_id_charged : ((charged items visible ids).map Item.id).Nodup := by
  rw [charged, List.map_append, List.nodup_append']
  refine ⟨nodup_map_id_chosen, hitems.sublist (List.filter_sublist.map Item.id), ?_⟩
  intro id hchosen hadded
  obtain ⟨i, hi, rfl⟩ := List.mem_map.mp hadded
  exact (mem_added_iff.mp hi).2.1 hchosen

theorem withAutoSelected_chosen :
    withAutoSelected ((chosen items visible ids).map Item.id) visible items =
      (charged items visible ids).map Item.id := by
  have hadded : (((items.filter (·.selectsItself visible)).map Item.id).filter
      (!((chosen items visible ids).map Item.id).contains ·)) =
        (added items visible ((chosen items visible ids).map Item.id)).map Item.id := by
    rw [List.filter_map, List.filter_filter]
    rfl
  rw [withAutoSelected_eq, hadded, eraseDups_of_nodup, charged, List.map_append]
  exact hitems.sublist (List.filter_sublist.map Item.id)

theorem resolve_charged :
    resolve ((charged items visible ids).map Item.id) items = charged items visible ids := by
  apply resolve_map_id hitems (nodup_map_id_charged hitems)
  intro i hi
  exact (mem_of_mem_charged hi).1

theorem chosen_charged : chosen items visible ((charged items visible ids).map Item.id) =
    charged items visible ids := by
  rw [chosen, resolve_charged hitems, List.filter_eq_self]
  intro i hi
  exact (mem_of_mem_charged hi).2

theorem charged_charged : charged items visible ((charged items visible ids).map Item.id) =
    charged items visible ids := by
  rw [charged, chosen_charged hitems, added_charged, List.append_nil]

end Distinct

end Charged

end Item

namespace Quote

variable {form : PublishedForm} (hform : form.IsSettled) (answers : Answers)

include hform

theorem mem_visible_of_trigger {id : Int} (h : id ∈ Answers.triggerIds form.categories) :
    id ∈ (VisibleSections.group form.categories answers).categories.map Category.id := by
  obtain ⟨c, hc, rfl⟩ := List.mem_map.mp h
  obtain ⟨hmem, htrigger⟩ := List.mem_filter.mp hc
  have hactive := hform.active c hmem htrigger
  have hshown := VisibleSections.mem_trigger_group hmem hactive htrigger answers
  exact List.mem_map_of_mem (List.mem_append_left _ (List.mem_append_left _ hshown))

theorem pricedIds_eq {visible ids : List Int} :
    pricedIds form.items visible ids = (Item.charged form.items visible ids).map Item.id :=
  Item.withAutoSelected_chosen hform.distinct

theorem picks_charged (ids : List Int) :
    Answers.picks form.categories (Item.charged form.items
      ((VisibleSections.group form.categories answers).categories.map Category.id) ids) =
        Answers.picks form.categories (Item.resolve ids form.items) := by
  rw [Answers.picks, Item.filter_charged]
  · rfl
  · intro i hi htrigger
    rw [List.contains_iff_mem] at htrigger ⊢
    exact mem_visible_of_trigger hform answers htrigger
  · intro i hi htrigger
    rw [List.contains_iff_mem] at htrigger
    rw [Item.selectsItself]
    cases hauto : i.autoSelect with
    | false => rfl
    | true =>
      cases hactive : i.isActive with
      | false => rfl
      | true => exact absurd htrigger (hform.manual i hi hactive hauto)

/-- The answers picked with the ids of a quote are those of the selection that it was made
for. -/
theorem picks_pricedIds (ids : List Int) :
    Answers.picks form.categories (Item.resolve (pricedIds form.items
      ((VisibleSections.group form.categories answers).categories.map Category.id) ids)
        form.items) = Answers.picks form.categories (Item.resolve ids form.items) := by
  rw [pricedIds_eq hform, Item.resolve_charged hform.distinct, picks_charged hform]

theorem answers_pricedIds (values : Answers) (ids : List Int) :
    Quote.answers form values (pricedIds form.items
      ((VisibleSections.group form.categories answers).categories.map Category.id) ids) =
        Quote.answers form values ids := by
  rw [Quote.answers, Quote.answers, Answers.ofSelection, Answers.ofSelection, Answers.recorded,
    Answers.recorded, picks_pricedIds hform]

omit answers in
/-- The quote on the ids of a quote is that quote, or is missing for the same reason. -/
theorem build?_selectedItemIds (values : Answers) (ids : List Int)
    (shootingCategoryId : Option Int) (today : Date) (rate : Decimal) :
    build? form values (build form values ids shootingCategoryId today rate).selectedItemIds
        shootingCategoryId today rate =
      build? form values ids shootingCategoryId today rate := by
  have hanswers : answers form values
      (build form values ids shootingCategoryId today rate).selectedItemIds =
        answers form values ids :=
    answers_pricedIds hform _ values ids
  have hids : pricedIds form.items ((VisibleSections.group form.categories
      (answers form values ids)).categories.map Category.id)
        (build form values ids shootingCategoryId today rate).selectedItemIds =
      (build form values ids shootingCategoryId today rate).selectedItemIds := by
    change pricedIds form.items _ (pricedIds form.items _ ids) = pricedIds form.items _ ids
    rw [pricedIds_eq hform, pricedIds_eq hform, Item.charged_charged hform.distinct]
  have hbuild : build form values (build form values ids shootingCategoryId today
      rate).selectedItemIds shootingCategoryId today rate =
        build form values ids shootingCategoryId today rate := by
    rw [build, hanswers, ofSections, hids]
    rfl
  refine build?_congr ?_ hbuild
  rw [Answers.HaveShortFields, Answers.HaveShortFields]
  change (∀ i ∈ Answers.picks form.categories (Item.resolve (pricedIds form.items _ ids)
    form.items), _) ↔ _
  rw [picks_pricedIds hform]

end Quote

end StudioQuote
