import StudioQuote.Proofs.Publish.Quote
import StudioQuote.Proofs.Quote.Requote

/-!
# Quoting on published forms again

Every category of a published form is active and none of its items selects itself, and
items of all forms share one table of ids. So a quote on a form that was published can
always be quoted again.
-/

namespace StudioQuote

open Number

namespace Store.Holds

variable {s : Store} {m : Forms}

theorem isActive_of_mem_categories (h : s.Holds m) {shopId key : Int} {c : Category}
    (hc : c ∈ m.categories shopId key) : c.isActive = true := by
  obtain ⟨r, hr, hmem⟩ := mem_categories_iff.mp hc
  obtain ⟨-, d, -, rfl⟩ := h.compiled shopId key r hr
  obtain ⟨step, -, rfl⟩ := List.mem_map.mp hmem
  rfl

theorem autoSelect_of_mem_items (h : s.Holds m) {shopId key : Int} {i : Item}
    (hi : i ∈ m.items shopId key) : i.autoSelect = false := by
  obtain ⟨r, hform, hmem⟩ := mem_items_iff.mp hi
  obtain ⟨-, d, -, rfl⟩ := h.compiled shopId key r hform
  exact Draft.autoSelect_of_mem_items hmem

theorem isSettled_of_loadForm (h : s.Holds m) {n : Json.Nesting} {shopId key : Int}
    {form : PublishedForm} {after : Database}
    (hload : (Session.loadForm n shopId key).run (.ready s) = (.ok form, after)) :
    form.IsSettled := by
  obtain ⟨categories, _, hcategories, hrest⟩ := Session.bind_eq_ok hload
  rw [h.run_listCategories] at hcategories
  by_cases hfits : [shopId, key].all fitsInt64 = true
  · rw [if_pos hfits] at hcategories
    cases hcategories
    obtain ⟨is, hitems, hnodup, hmem, -⟩ := h.run_listItems (Bool.and_eq_true_iff.mp hfits).1
    rw [Session.run_bind_ok hitems] at hrest
    obtain ⟨campaigns, _, -, hform⟩ := Session.bind_eq_ok hrest
    cases hform
    constructor
    · exact hnodup.sublist (List.filter_sublist.map Item.id)
    · intro c hc _
      exact h.isActive_of_mem_categories hc
    · intro i hi _ hauto
      obtain ⟨other, hother⟩ := (hmem i).mp (List.mem_filter.mp hi).1
      rw [h.autoSelect_of_mem_items hother] at hauto
      cases hauto
  · rw [if_neg hfits] at hcategories
    cases hcategories

end Store.Holds

namespace Operation

/-- The quote on the ids of a quote is that quote again, on every form whose items have distinct
ids, whose trigger categories are active and in which no active item of a trigger category
selects itself. After every run of the service all forms are of this kind. -/
theorem requoting_changes_nothing :
    (∀ (form : PublishedForm) (values : Answers) (ids : List Int)
        (shootingCategoryId : Option Int) (today : Date) (rate : Decimal) (q : Quote),
      form.IsSettled →
      Quote.build? form values ids shootingCategoryId today rate = .ok q →
      Quote.build? form values q.selectedItemIds shootingCategoryId today rate = .ok q) ∧
    ∀ ops : List Operation, (∀ op ∈ ops, op.isService = true) →
      ∀ (n : Json.Nesting) (shopId key : Int) (form : PublishedForm),
        ((loadForm n shopId key).run (runAll ops fresh).2).1 = .ok (.form form) →
        form.IsSettled := by
  constructor
  · intro form values ids shootingCategoryId today rate q hform hq
    have hbuild := Quote.eq_build_of_build? form values ids shootingCategoryId today rate hq
    rw [hbuild, Quote.build?_selectedItemIds hform, hq, hbuild]
  · intro ops hops n shopId key form hload
    obtain ⟨s, hs, -, hholds⟩ := holds_lastPublished ops hops
    rw [hs] at hload
    rcases hrun : (loadForm n shopId key).run (.ready s) with ⟨outcome, after⟩
    rw [hrun] at hload
    subst hload
    obtain ⟨loaded, hloaded, heq⟩ := Session.map_eq_ok hrun
    cases heq
    exact hholds.isSettled_of_loadForm hloaded

/-- The makeup is for the studio, and a proof sheet always comes with the photos. -/
def sheetForm : PublishedForm where
  categories := [
    { id := 10, name := "location", formSection := some "trigger" },
    { id := 20, name := "makeup", formSection := some "conditional",
      rule := some (Rule.fieldEquals (answerField 10) (.int 100)) },
    { id := 30, name := "sheet", formSection := some "conditional" }]
  items := [
    { id := 100, categoryId := 10, price := 5000 },
    { id := 101, categoryId := 10, price := 8000 },
    { id := 200, categoryId := 20, price := 3000 },
    { id := 300, categoryId := 30, price := 500, autoSelect := true }]

/-- Outdoors the makeup is dropped and the sheet is added, both once and for all. -/
theorem sheet_is_added_once :
    ∃ q, Quote.build? sheetForm [] [101, 200, 101] (some 7) visitDay standardTaxRate = .ok q ∧
      q.selectedItemIds = [101, 300] ∧
      Quote.build? sheetForm [] [101, 300] (some 7) visitDay standardTaxRate = .ok q := by
  have hsettled : sheetForm.IsSettled := ⟨by decide, by decide, by decide⟩
  have hprice : (Quote.build? sheetForm [] [101, 200, 101] (some 7) visitDay
      standardTaxRate).isOk = true := by
    decide +kernel
  cases hq : Quote.build? sheetForm [] [101, 200, 101] (some 7) visitDay standardTaxRate with
  | error fault =>
    rw [hq] at hprice
    cases hprice
  | ok q =>
    have hids : q.selectedItemIds = [101, 300] := by
      rw [Quote.eq_build_of_build? sheetForm [] _ (some 7) visitDay standardTaxRate hq]
      decide +kernel
    have hagain := requoting_changes_nothing.1 sheetForm [] _ (some 7) visitDay standardTaxRate q
      hsettled hq
    rw [hids] at hagain
    exact ⟨q, rfl, hids, hagain⟩

end Operation

end StudioQuote
