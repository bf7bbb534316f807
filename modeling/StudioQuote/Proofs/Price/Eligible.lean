import StudioQuote.Proofs.Price.Exact
import StudioQuote.Proofs.Price.Selected

/-!
# What a price depends on

A price depends on the sum of the selected items and on the first campaign that is for them on
the day. So neither the order of the items counts, nor campaigns that are for none of them, nor
what stands behind the campaign that applies. Where none applies the price is the plain total.
-/

namespace StudioQuote

open Number

/-- The second list is the first one with further elements inserted, each of which has a
property. -/
inductive Inserts {α : Type} (p : α → Prop) : List α → List α → Prop where
  | nil : Inserts p [] []
  | keep (a : α) {as bs : List α} : Inserts p as bs → Inserts p (a :: as) (a :: bs)
  | insert {a : α} {as bs : List α} : p a → Inserts p as bs → Inserts p as (a :: bs)

theorem Inserts.find?_eq {α : Type} {p : α → Prop} {q : α → Bool} (hq : ∀ a, p a → q a = false)
    {as bs : List α} (h : Inserts p as bs) : bs.find? q = as.find? q := by
  induction h with
  | nil => rfl
  | keep a _ ih => rw [List.find?_cons, List.find?_cons, ih]
  | insert ha _ ih => rw [List.find?_cons, hq _ ha, ih]

namespace Campaign

/-- Whether a campaign is not for a selection on a day: it is not active, the day is before or
after it, or neither an item, nor the category of one, nor the shooting category with an item
selected belongs to it. -/
def IsIdle (selected : List Item) (shootingCategoryId : Option Int) (today : Date)
    (c : Campaign) : Prop :=
  c.isActive = false ∨ c.startDate.le today = false ∨ today.le c.endDate = false ∨
    ∀ i ∈ selected, i.id ∉ c.associations.itemIds ∧ i.categoryId ∉ c.associations.categoryIds ∧
      ∀ id ∈ shootingCategoryId, id ∉ c.associations.shootingCategoryIds

section Eligible

variable {selected : List Item} {shootingCategoryId : Option Int} {today : Date} {c : Campaign}

theorem matchesSelection_eq_false_iff :
    c.matchesSelection selected shootingCategoryId = false ↔
      ∀ i ∈ selected, i.id ∉ c.associations.itemIds ∧ i.categoryId ∉ c.associations.categoryIds ∧
        ∀ id ∈ shootingCategoryId, id ∉ c.associations.shootingCategoryIds := by
  simp only [matchesSelection, List.any_eq_false, Bool.not_eq_true, Bool.or_eq_false_iff,
    Option.any_eq_false, List.contains_eq_mem, decide_eq_false_iff_not, and_assoc]
  rfl

theorem isEligible_eq_false_iff :
    c.isEligible selected shootingCategoryId today = false ↔
      c.IsIdle selected shootingCategoryId today := by
  rw [isEligible, isRunning, Bool.and_eq_false_iff, Bool.and_eq_false_iff, Bool.and_eq_false_iff,
    matchesSelection_eq_false_iff, IsIdle, or_assoc, or_assoc]

instance : Decidable (c.IsIdle selected shootingCategoryId today) :=
  decidable_of_iff _ isEligible_eq_false_iff

theorem isIdle_of_empty : c.IsIdle [] shootingCategoryId today := by
  right; right; right
  intro i hi
  cases hi

end Eligible

section FirstEligible

variable (campaigns : List Campaign) (shootingCategoryId : Option Int) (today : Date)

theorem firstEligible_perm {selected more : List Item} (h : selected.Perm more) :
    firstEligible selected campaigns shootingCategoryId today =
      firstEligible more campaigns shootingCategoryId today := by
  rw [firstEligible, firstEligible]
  apply List.find?_congr
  intro c _
  rw [isEligible, isEligible, matchesSelection, matchesSelection, h.any_eq]

variable {campaigns} {shootingCategoryId} {today} {selected : List Item}

theorem firstEligible_inserts {longer : List Campaign}
    (h : Inserts (·.IsIdle selected shootingCategoryId today) campaigns longer) :
    firstEligible selected longer shootingCategoryId today =
      firstEligible selected campaigns shootingCategoryId today :=
  h.find?_eq fun _ hidle => isEligible_eq_false_iff.mpr hidle

theorem firstEligible_of_idle
    (h : ∀ c ∈ campaigns, c.IsIdle selected shootingCategoryId today) :
    firstEligible selected campaigns shootingCategoryId today = none := by
  rw [firstEligible, List.find?_eq_none]
  intro c hc
  rw [isEligible_eq_false_iff.mpr (h c hc)]
  exact Bool.false_ne_true

theorem firstEligible_append_cons {before : List Campaign} {c : Campaign}
    (hbefore : ∀ b ∈ before, b.IsIdle selected shootingCategoryId today)
    (hc : ¬ c.IsIdle selected shootingCategoryId today) (after : List Campaign) :
    firstEligible selected (before ++ c :: after) shootingCategoryId today = some c := by
  have hnone := firstEligible_of_idle hbefore
  rw [← isEligible_eq_false_iff, Bool.not_eq_false] at hc
  rw [firstEligible] at hnone ⊢
  rw [List.find?_append, hnone, List.find?_cons_of_pos hc]
  rfl

end FirstEligible

end Campaign

namespace PriceBreakdown

variable {shootingCategoryId : Option Int} {today : Date}

theorem ofSelection?_congr {selected more : List Item} {campaigns others : List Campaign}
    (hsubtotal : Item.subtotal more = Item.subtotal selected)
    (hfirst : Campaign.firstEligible more others shootingCategoryId today =
      Campaign.firstEligible selected campaigns shootingCategoryId today) (rate : Decimal) :
    ofSelection? more others shootingCategoryId today rate =
      ofSelection? selected campaigns shootingCategoryId today rate := by
  rw [ofSelection?_eq_map, ofSelection?_eq_map, ofSelection, ofSelection, hsubtotal, hfirst]

/-- Without a campaign only tax is added. -/
theorem ofSelection?_of_none {selected : List Item} {campaigns : List Campaign}
    (hnone : Campaign.firstEligible selected campaigns shootingCategoryId today = none)
    (rate : Decimal) :
    ofSelection? selected campaigns shootingCategoryId today rate =
      (checkTax (Item.subtotal selected) rate).map fun _ =>
        { subtotal := Item.subtotal selected
          discount := 0
          tax := applyTax (Item.subtotal selected) rate - Item.subtotal selected
          total := applyTax (Item.subtotal selected) rate } := by
  have hcheck : check (Item.subtotal selected) none rate =
      checkTax (Item.subtotal selected - 0) rate :=
    rfl
  have hprice : ofSubtotal (Item.subtotal selected) none rate =
      { subtotal := Item.subtotal selected
        discount := 0
        tax := applyTax (Item.subtotal selected - 0) rate - (Item.subtotal selected - 0)
        total := applyTax (Item.subtotal selected - 0) rate } :=
    rfl
  rw [ofSelection?_eq_map, ofSelection, hnone, hcheck, hprice, Int.sub_zero]

/-- A price does not depend on the order of the selected items, on campaigns anywhere in the
list that are not for them, or on what stands behind the first campaign that is. Nothing
selected is free and has no campaign, and a price without campaign is the plain total. -/
theorem price_depends_on_first_eligible (selected : List Item) (campaigns : List Campaign)
    (shootingCategoryId : Option Int) (today : Date) (rate : Decimal) :
    (∀ more, selected.Perm more →
      ofSelection? more campaigns shootingCategoryId today rate =
        ofSelection? selected campaigns shootingCategoryId today rate) ∧
    (∀ longer, Inserts (·.IsIdle selected shootingCategoryId today) campaigns longer →
      ofSelection? selected longer shootingCategoryId today rate =
        ofSelection? selected campaigns shootingCategoryId today rate) ∧
    (∀ before c after, campaigns = before ++ c :: after →
      (∀ b ∈ before, b.IsIdle selected shootingCategoryId today) →
      ¬ c.IsIdle selected shootingCategoryId today →
      (ofSelection selected campaigns shootingCategoryId today rate).appliedCampaign = some c ∧
      ∀ others, ofSelection? selected (before ++ c :: others) shootingCategoryId today rate =
        ofSelection? selected campaigns shootingCategoryId today rate) ∧
    ofSelection? [] campaigns shootingCategoryId today rate =
      (checkTax 0 rate).map (fun _ => ⟨0, 0, 0, 0, none⟩) ∧
    ∀ ids items, (∀ c ∈ campaigns,
        c.IsIdle (Item.resolve ids items) shootingCategoryId today) →
      (ofSelection? (Item.resolve ids items) campaigns shootingCategoryId today rate).map
          PriceBreakdown.total =
        (checkTax (Item.subtotal (Item.resolve ids items)) rate).map fun _ =>
          totalPrice ids items rate := by
  refine ⟨?_, ?_, ?_, ?_, ?_⟩
  · intro more hperm
    exact ofSelection?_congr (Item.subtotal_perm hperm).symm
      (Campaign.firstEligible_perm campaigns shootingCategoryId today hperm).symm rate
  · intro longer hinserts
    exact ofSelection?_congr rfl (Campaign.firstEligible_inserts hinserts) rate
  · rintro before c after rfl hbefore hc
    have hfirst := Campaign.firstEligible_append_cons hbefore hc
    refine ⟨hfirst after, ?_⟩
    intro others
    exact ofSelection?_congr rfl ((hfirst others).trans (hfirst after).symm) rate
  · have hnone : Campaign.firstEligible [] campaigns shootingCategoryId today = none :=
      Campaign.firstEligible_of_idle fun c _ => Campaign.isIdle_of_empty
    have hzero : Item.subtotal [] = 0 := rfl
    rw [ofSelection?_of_none hnone, hzero, applyTax_zero, Int.sub_zero]
  · intro ids items hidle
    rw [ofSelection?_of_none (Campaign.firstEligible_of_idle hidle)]
    cases checkTax (Item.subtotal (Item.resolve ids items)) rate with
    | error fault => rfl
    | ok u => rfl

/-- The same eighth off, but not active. -/
def dormantEighthOff : Campaign := { eighthOff with isActive := false }

/-- The voucher does not count for the campaign, which applies to the plan in any order; what is
not active before it, or stands behind it, is not looked at. -/
theorem eighth_off_is_found :
    let today : Date := ⟨2024, 5, 1, by decide⟩
    let price := fun selected campaigns =>
      ofSelection? selected campaigns none today standardTaxRate
    price vouchedItems.reverse [eighthOff] = price vouchedItems [eighthOff] ∧
    price vouchedItems [dormantEighthOff, eighthOff] = price vouchedItems [eighthOff] ∧
    (ofSelection vouchedItems [eighthOff] none today standardTaxRate).appliedCampaign =
      some eighthOff ∧
    price vouchedItems [eighthOff, { eighthOff with discountType := .fixed }] =
      price vouchedItems [eighthOff] ∧
    (price (Item.resolve [109, 7] vouchedItems) [eighthOff]).map PriceBreakdown.total =
      .ok (totalPrice [109, 7] vouchedItems standardTaxRate) := by
  intro today price
  have hidle : dormantEighthOff.IsIdle vouchedItems none today := Or.inl rfl
  have happlies : ¬ eighthOff.IsIdle vouchedItems none today := by decide
  have hvoucher : ∀ c ∈ [eighthOff], c.IsIdle (Item.resolve [109, 7] vouchedItems) none today := by
    decide
  obtain ⟨hperm, hinserts, hfirst, -, hplain⟩ :=
    price_depends_on_first_eligible vouchedItems [eighthOff] none today standardTaxRate
  obtain ⟨happlied, hothers⟩ := hfirst [] eighthOff [] rfl (by intro b hb; cases hb) happlies
  exact ⟨hperm _ (List.reverse_perm _).symm, hinserts _ (.insert hidle (.keep _ .nil)), happlied,
    hothers _, hplain _ _ hvoucher⟩

end PriceBreakdown

end StudioQuote
