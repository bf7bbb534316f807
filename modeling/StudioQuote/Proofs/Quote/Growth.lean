import StudioQuote.Proofs.Price.Amount
import StudioQuote.Proofs.Selection
import StudioQuote.Proofs.Visibility
import StudioQuote.Quote

/-!
# Longer selections

The answer to a trigger category is its first pick, so what is selected later adds answers
and changes none. A longer selection therefore shows and charges all that a shorter one
does. Its price is another one, and only a field or the price can be missing.
-/

namespace StudioQuote

open Number

namespace Answers

theorem ofSelection_within (categories : List Category) (selected more : List Item)
    (values : Answers) : (ofSelection categories selected values).Within
      (ofSelection categories (selected ++ more) values) := by
  intro field v h
  rw [lookup_ofSelection, lookup_recorded_field] at h ⊢
  rw [List.find?_append]
  cases hvalue : values.lookup field with
  | some w =>
    rw [hvalue] at h
    exact h
  | none =>
    rw [hvalue, Option.none_or] at h
    obtain ⟨i, hi, hv⟩ := Option.map_eq_some_iff.mp h
    rw [hi, Option.none_or, Option.some_or, Option.map_some, hv]

end Answers

namespace Quote

section Build

variable (form : PublishedForm) (values : Answers) (ids more : List Int)
  (shootingCategoryId : Option Int) (today : Date) (rate : Decimal)

/-- A quote is missing only if the field of an answer cannot be written, or if its price is
beyond what decimal arithmetic can hold. -/
theorem build?_eq_map_check :
    build? form values ids shootingCategoryId today rate =
      if Answers.HaveShortFields form.categories (Item.resolve ids form.items) then
        ((PriceBreakdown.check
          (build form values ids shootingCategoryId today rate).price.subtotal
          (build form values ids shootingCategoryId today rate).price.appliedCampaign rate).map
            fun _ => build form values ids shootingCategoryId today rate).mapError .amount
      else .error .fieldTooLong := by
  rw [build?, answers?, Answers.ofSelection?]
  by_cases hshort : Answers.HaveShortFields form.categories (Item.resolve ids form.items)
  · rw [if_pos hshort, if_pos hshort]
    change (((PriceBreakdown.check
        (build form values ids shootingCategoryId today rate).price.subtotal
        (build form values ids shootingCategoryId today rate).price.appliedCampaign rate >>=
          fun _ => pure (build form values ids shootingCategoryId today rate).price).mapError
            QuoteFault.amount) >>= fun price =>
              pure { build form values ids shootingCategoryId today rate with price }) = _
    cases PriceBreakdown.check (build form values ids shootingCategoryId today rate).price.subtotal
        (build form values ids shootingCategoryId today rate).price.appliedCampaign rate with
    | error fault => rfl
    | ok u => rfl
  · rw [if_neg hshort, if_neg hshort]

/-- Two quotes that are alike, and whose fields can be written alike, are missing alike. -/
theorem build?_congr {form other : PublishedForm} {values others : Answers} {ids more : List Int}
    {shootingCategoryId : Option Int} {today : Date} {rate : Decimal}
    (hshort : Answers.HaveShortFields form.categories (Item.resolve ids form.items) ↔
      Answers.HaveShortFields other.categories (Item.resolve more other.items))
    (hbuild : build form values ids shootingCategoryId today rate =
      build other others more shootingCategoryId today rate) :
    build? form values ids shootingCategoryId today rate =
      build? other others more shootingCategoryId today rate := by
  rw [build?_eq_map_check, build?_eq_map_check, hbuild]
  exact if_congr hshort rfl rfl

theorem build?_eq_ok {q : Quote}
    (h : build? form values ids shootingCategoryId today rate = .ok q) :
    q = build form values ids shootingCategoryId today rate ∧
      PriceBreakdown.check q.price.subtotal q.price.appliedCampaign rate = .ok () := by
  rw [build?_eq_map_check] at h
  split at h
  · cases hcheck : PriceBreakdown.check
        (build form values ids shootingCategoryId today rate).price.subtotal
        (build form values ids shootingCategoryId today rate).price.appliedCampaign rate with
    | error fault =>
      rw [hcheck] at h
      cases h
    | ok u =>
      rw [hcheck] at h
      obtain rfl := Except.ok.inj h
      exact ⟨rfl, hcheck⟩
  · cases h

theorem eq_build_of_build? {q : Quote}
    (h : build? form values ids shootingCategoryId today rate = .ok q) :
    q = build form values ids shootingCategoryId today rate :=
  (build?_eq_ok form values ids shootingCategoryId today rate h).1

/-- The price of a quote is that of the items it charges. -/
theorem price_of_build? {q : Quote}
    (h : build? form values ids shootingCategoryId today rate = .ok q) :
    PriceBreakdown.ofSelection? (Item.resolve q.selectedItemIds form.items) form.campaigns
      shootingCategoryId today rate = .ok q.price := by
  obtain ⟨rfl, hcheck⟩ := build?_eq_ok form values ids shootingCategoryId today rate h
  exact congrArg (· >>= fun _ => pure (build form values ids shootingCategoryId today rate).price)
    hcheck

theorem sections_build_within :
    (build form values ids shootingCategoryId today rate).sections.Within
      (build form values (ids ++ more) shootingCategoryId today rate).sections := by
  apply VisibleSections.group_within
  rw [answers, answers, Item.resolve_append]
  apply Answers.ofSelection_within

theorem mem_pricedIds_iff {items : List Item} {visible ids : List Int} {id : Int} :
    id ∈ pricedIds items visible ids ↔
      (id ∈ ids ∧ (items.find? (·.id == id)).any fun i => visible.contains i.categoryId) ∨
        ∃ i ∈ items, i.selectsItself visible = true ∧ i.id = id := by
  rw [pricedIds, Item.mem_withAutoSelected_iff, Item.map_id_filter_resolve, List.mem_filter,
    List.mem_eraseDups]

theorem pricedIds_subset {items : List Item} {visible wider ids longer : List Int}
    (hvisible : visible ⊆ wider) (hids : ids ⊆ longer) :
    pricedIds items visible ids ⊆ pricedIds items wider longer := by
  have hcontains : ∀ {categoryId : Int}, visible.contains categoryId = true →
      wider.contains categoryId = true := by
    intro categoryId h
    exact List.contains_iff_mem.mpr (hvisible (List.contains_iff_mem.mp h))
  intro id hid
  rw [mem_pricedIds_iff] at hid ⊢
  rcases hid with ⟨hselected, hfind⟩ | ⟨i, hi, hselects, hid⟩
  · obtain ⟨i, hi, hcategory⟩ := (Option.any_eq_true _ _).mp hfind
    exact .inl ⟨hids hselected, (Option.any_eq_true _ _).mpr ⟨i, hi, hcontains hcategory⟩⟩
  · rw [Item.selectsItself, Bool.and_eq_true] at hselects
    refine .inr ⟨i, hi, ?_, hid⟩
    rw [Item.selectsItself, Bool.and_eq_true]
    exact ⟨hselects.1, hcontains hselects.2⟩

theorem selectedItemIds_build_subset :
    (build form values ids shootingCategoryId today rate).selectedItemIds ⊆
      (build form values (ids ++ more) shootingCategoryId today rate).selectedItemIds := by
  have hsections := sections_build_within form values ids more shootingCategoryId today rate
  apply pricedIds_subset
  · exact (hsections.categories_sublist.map Category.id).subset
  · exact List.subset_append_left ids more

/-- Selecting more hides nothing and leaves no charged item out, whatever the form is like and
whatever is answered. A quote is missing only for a field that cannot be written, or for its
own price. -/
theorem selecting_more_keeps_offer :
    (build form values ids shootingCategoryId today rate).sections.Within
        (build form values (ids ++ more) shootingCategoryId today rate).sections ∧
      (∀ id ∈ (build form values ids shootingCategoryId today rate).selectedItemIds,
        id ∈ (build form values (ids ++ more) shootingCategoryId today rate).selectedItemIds) ∧
      ∀ selected, build? form values selected shootingCategoryId today rate =
        if Answers.HaveShortFields form.categories (Item.resolve selected form.items) then
          ((PriceBreakdown.check
            (build form values selected shootingCategoryId today rate).price.subtotal
            (build form values selected shootingCategoryId today rate).price.appliedCampaign
              rate).map fun _ =>
                build form values selected shootingCategoryId today rate).mapError .amount
        else .error .fieldTooLong := by
  refine ⟨?_, ?_, ?_⟩
  · exact sections_build_within form values ids more shootingCategoryId today rate
  · intro id hid
    exact selectedItemIds_build_subset form values ids more shootingCategoryId today rate hid
  · intro selected
    exact build?_eq_map_check form values selected shootingCategoryId today rate

end Build

end Quote

end StudioQuote
