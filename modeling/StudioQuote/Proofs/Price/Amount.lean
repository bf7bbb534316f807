import StudioQuote.Campaign
import StudioQuote.Proofs.Number.Operations

/-!
# Amounts as numbers

Tax multiplies an amount by a factor, and a percentage takes hundredths of a product; both
amounts are rounded results of decimal arithmetic, of which the whole amount below is taken. A
price can be computed exactly if none of these results is too large.
-/

namespace StudioQuote

open Number

/-! ## Sums -/

namespace Item

theorem subtotal_eq_sum (items : List Item) :
    subtotal items = (items.map Item.price).sum := by
  induction items with
  | nil => rfl
  | cons i items ih =>
    rw [List.map_cons, List.sum_cons, ← ih]
    rfl

theorem subtotal_append (is js : List Item) :
    subtotal (is ++ js) = subtotal is + subtotal js := by
  rw [subtotal_eq_sum, subtotal_eq_sum, subtotal_eq_sum, List.map_append, List.sum_append]

theorem subtotal_perm {is js : List Item} (h : is.Perm js) : subtotal is = subtotal js := by
  rw [subtotal_eq_sum, subtotal_eq_sum]
  exact (h.map Item.price).sum_eq

end Item

/-! ## Taxes and discounts -/

/-- What an amount is multiplied by to add the tax. -/
def taxFactor (rate : Decimal) : Decimal :=
  (Decimal.ofInt 1).add rate

/-- An amount with tax, before it is rounded down. -/
def taxed (amount : Int) (rate : Decimal) : Decimal :=
  (Decimal.ofInt amount).mul (taxFactor rate)

theorem applyTax_eq (amount : Int) (rate : Decimal) :
    applyTax amount rate = ⌊(taxed amount rate).toRat⌋ :=
  Decimal.floor_eq _

theorem rounds_taxFactor (rate : Decimal) :
    RoundsHalfEven (1 + rate.toRat) (taxFactor rate).toRat := by
  have h := Decimal.rounds_add (Decimal.ofInt 1) rate
  rwa [Decimal.toRat_ofInt, Int.cast_one] at h

theorem rounds_taxed (amount : Int) (rate : Decimal) :
    RoundsHalfEven (amount * (taxFactor rate).toRat) (taxed amount rate).toRat := by
  have h := Decimal.rounds_mul (Decimal.ofInt amount) (taxFactor rate)
  rwa [Decimal.toRat_ofInt] at h

theorem toRat_taxed_zero (rate : Decimal) : (taxed 0 rate).toRat = 0 := by
  have h := rounds_taxed 0 rate
  rw [Int.cast_zero, zero_mul] at h
  exact h.eq_of_isResult IsResult.zero

theorem applyTax_zero (rate : Decimal) : applyTax 0 rate = 0 := by
  rw [applyTax_eq, toRat_taxed_zero, Int.floor_zero]

theorem checkTax_eq_ok_iff {amount : Int} {rate : Decimal} :
    checkTax amount rate = .ok () ↔
      (taxFactor rate).isTooLarge = false ∧ (taxed amount rate).isTooLarge = false := by
  have hcheck : checkTax amount rate =
      if (taxFactor rate).isTooLarge || (taxed amount rate).isTooLarge then .error .overflow
      else .ok () :=
    rfl
  rw [hcheck]
  cases (taxFactor rate).isTooLarge with
  | true => simp
  | false =>
    cases (taxed amount rate).isTooLarge with
    | true => simp
    | false => simp

namespace Campaign

/-- The subtotal times the percentage. -/
def portion (subtotal : Int) (c : Campaign) : Decimal :=
  (Decimal.ofInt subtotal).mul c.discountValue

variable {c : Campaign} {subtotal : Int}

theorem rounds_portion :
    RoundsHalfEven (subtotal * c.discountValue.toRat) (c.portion subtotal).toRat := by
  have h := Decimal.rounds_mul (Decimal.ofInt subtotal) c.discountValue
  rwa [Decimal.toRat_ofInt] at h

theorem discount_percentage (h : c.discountType = .percentage) :
    c.discount subtotal = ⌊(c.portion subtotal).hundredth.toRat⌋ := by
  rw [discount, h]
  exact Decimal.floor_eq _

theorem discount_fixed (h : c.discountType = .fixed) :
    c.discount subtotal = Decimal.wholePart c.discountValue.toRat := by
  rw [discount, h]
  exact Decimal.truncate_eq _

theorem checkDiscount_percentage (h : c.discountType = .percentage)
    (hportion : (c.portion subtotal).isTooLarge = false) : c.checkDiscount subtotal = .ok () := by
  rw [checkDiscount, h]
  exact if_neg (by rw [← portion, hportion]; exact Bool.false_ne_true)

theorem checkDiscount_fixed (h : c.discountType = .fixed) : c.checkDiscount subtotal = .ok () := by
  rw [checkDiscount, h]

end Campaign

namespace PriceBreakdown

theorem ofSelection?_eq_map (selected : List Item) (campaigns : List Campaign)
    (shootingCategoryId : Option Int) (today : Date) (rate : Decimal) :
    ofSelection? selected campaigns shootingCategoryId today rate =
      (check (Item.subtotal selected)
        (Campaign.firstEligible selected campaigns shootingCategoryId today) rate).map
          fun _ => ofSelection selected campaigns shootingCategoryId today rate := by
  rw [ofSelection?]
  cases check (Item.subtotal selected)
      (Campaign.firstEligible selected campaigns shootingCategoryId today) rate with
  | error fault => rfl
  | ok u => rfl

theorem eq_of_ofSelection? {selected : List Item} {campaigns : List Campaign}
    {shootingCategoryId : Option Int} {today : Date} {rate : Decimal} {p : PriceBreakdown}
    (h : ofSelection? selected campaigns shootingCategoryId today rate = .ok p) :
    p = ofSelection selected campaigns shootingCategoryId today rate := by
  rw [ofSelection?_eq_map] at h
  cases hcheck : check (Item.subtotal selected)
      (Campaign.firstEligible selected campaigns shootingCategoryId today) rate with
  | error fault =>
    rw [hcheck] at h
    cases h
  | ok u =>
    rw [hcheck] at h
    exact (Except.ok.inj h).symm

theorem check_of_ok {subtotal : Int} {campaign : Option Campaign} {rate : Decimal}
    (hdiscount : ∀ c ∈ campaign, c.checkDiscount subtotal = .ok ())
    (htax : checkTax (subtotal - discountOf subtotal campaign) rate = .ok ()) :
    check subtotal campaign rate = .ok () := by
  cases campaign with
  | none => exact htax
  | some c =>
    have hcheck : check subtotal (some c) rate = (c.checkDiscount subtotal >>= fun _ =>
        checkTax (subtotal - discountOf subtotal (some c)) rate) :=
      rfl
    rw [hcheck, hdiscount c rfl]
    exact htax

end PriceBreakdown

end StudioQuote
