import StudioQuote.Proofs.Calendar
import StudioQuote.Proofs.Price.Amount

/-!
# Bounds of discounted prices

A campaign never raises a price, and a percentage never makes it negative. The digits of the
percentage are not limited: what it is rounded to twice stays between the bounds, because the
bounds are results themselves. With tax the order of amounts stays, unless the rate takes
more away than there is.
-/

namespace StudioQuote

open Number Decimal

/-! ## Tax -/

section Tax

variable {rate : Decimal} (hrate : -1 ≤ rate.toRat)

include hrate

theorem toRat_taxFactor_nonneg : 0 ≤ (taxFactor rate).toRat :=
  (rounds_taxFactor rate).ge_of_ge IsResult.zero (by linarith)

theorem toRat_taxed_mono {a b : Int} (h : a ≤ b) :
    (taxed a rate).toRat ≤ (taxed b rate).toRat := by
  apply (rounds_taxed a rate).mono (rounds_taxed b rate)
  exact mul_le_mul_of_nonneg_right (Int.cast_le.mpr h) (toRat_taxFactor_nonneg hrate)

theorem applyTax_mono {a b : Int} (h : a ≤ b) : applyTax a rate ≤ applyTax b rate := by
  rw [applyTax_eq, applyTax_eq]
  exact Int.floor_le_floor (toRat_taxed_mono hrate h)

theorem abs_toRat_taxed_mono {a b : Int} (h : 0 ≤ a ∧ a ≤ b ∨ b ≤ a ∧ a ≤ 0) :
    |(taxed a rate).toRat| ≤ |(taxed b rate).toRat| := by
  obtain ⟨hnonneg, hle⟩ | ⟨hle, hnonpos⟩ := h
  · have hleft := toRat_taxed_mono hrate hnonneg
    have hright := toRat_taxed_mono hrate hle
    rw [toRat_taxed_zero] at hleft
    exact abs_le_abs_of_nonneg hleft hright
  · have hleft := toRat_taxed_mono hrate hle
    have hright := toRat_taxed_mono hrate hnonpos
    rw [toRat_taxed_zero] at hright
    exact abs_le_abs_of_nonpos hright hleft

theorem checkTax_of_between {a b : Int} (h : 0 ≤ a ∧ a ≤ b ∨ b ≤ a ∧ a ≤ 0)
    (hb : checkTax b rate = .ok ()) : checkTax a rate = .ok () := by
  rw [checkTax_eq_ok_iff] at hb ⊢
  refine ⟨hb.1, ?_⟩
  have hlarge := hb.2
  rw [isTooLarge_eq_false_iff] at hlarge ⊢
  exact lt_of_le_of_lt (abs_toRat_taxed_mono hrate h) hlarge

end Tax

/-! ## Percentages -/

namespace Campaign

variable {c : Campaign} {subtotal : Int}

section Percentage

variable (htype : c.discountType = .percentage) {lower upper : Int}
  (hlower : |lower| < 10 ^ precision) (hupper : |upper| < 10 ^ precision)
  (hle : (lower * 100 : ℚ) ≤ subtotal * c.discountValue.toRat)
  (hge : (subtotal * c.discountValue.toRat : ℚ) ≤ upper * 100)

include hlower hupper hle hge

theorem toRat_portion_between :
    lower * 100 ≤ (c.portion subtotal).toRat ∧ (c.portion subtotal).toRat ≤ upper * 100 := by
  have hresult : ∀ {n : Int}, |n| < 10 ^ precision → IsResult (n * 100) := by
    intro n hn
    refine ⟨n, 2, hn, by decide, ?_⟩
    norm_num
  constructor
  · exact rounds_portion.ge_of_ge (hresult hlower) hle
  · exact rounds_portion.le_of_le (hresult hupper) hge

include htype

/-- What a percentage lies between, its discount lies between. -/
theorem discount_between : lower ≤ c.discount subtotal ∧ c.discount subtotal ≤ upper := by
  obtain ⟨hleft, hright⟩ := toRat_portion_between hlower hupper hle hge
  have hrounds := rounds_hundredth (c.portion subtotal)
  have habove := hrounds.ge_of_ge (IsResult.intCast hlower) (by linarith)
  have hbelow := hrounds.le_of_le (IsResult.intCast hupper) (by linarith)
  rw [discount_percentage htype]
  constructor
  · exact Int.le_floor.mpr habove
  · exact Int.cast_le.mp (le_trans (Int.floor_le _) hbelow)

theorem checkDiscount_between : c.checkDiscount subtotal = .ok () := by
  obtain ⟨hleft, hright⟩ := toRat_portion_between hlower hupper hle hge
  have hsmall : |(c.portion subtotal).toRat| < 10 ^ 30 := by
    have hleast : (-10 ^ 28 : ℚ) < lower := by exact_mod_cast (abs_lt.mp hlower).1
    have hgreatest : (upper : ℚ) < 10 ^ 28 := by exact_mod_cast (abs_lt.mp hupper).2
    rw [abs_lt]
    constructor
    · linarith
    · linarith
  exact checkDiscount_percentage htype (isTooLarge_eq_false (by decide) hsmall)

end Percentage

section Proper

variable (hvalue : 0 ≤ c.discountValue.toRat) (htype : c.discountType = .percentage)
  (hproper : c.discountValue.toRat ≤ 100)

include hvalue htype hproper

/-- At most a hundred per cent of a subtotal lie between zero and the subtotal. -/
theorem discount_of_nonneg (hnonneg : 0 ≤ subtotal) (hsubtotal : subtotal < 10 ^ precision) :
    c.checkDiscount subtotal = .ok () ∧ 0 ≤ c.discount subtotal ∧
      c.discount subtotal ≤ subtotal := by
  have hcast : (0 : ℚ) ≤ subtotal := Int.cast_nonneg hnonneg
  have hzero : |(0 : Int)| < 10 ^ precision := by decide
  have habs : |subtotal| < 10 ^ precision := by rwa [abs_of_nonneg hnonneg]
  have hle : ((0 : Int) * 100 : ℚ) ≤ subtotal * c.discountValue.toRat := by
    rw [Int.cast_zero, zero_mul]
    exact mul_nonneg hcast hvalue
  have hge : (subtotal * c.discountValue.toRat : ℚ) ≤ subtotal * 100 :=
    mul_le_mul_of_nonneg_left hproper hcast
  exact ⟨checkDiscount_between htype hzero habs hle hge,
    discount_between htype hzero habs hle hge⟩

theorem discount_of_nonpos (hnonpos : subtotal ≤ 0) (hsubtotal : -10 ^ precision < subtotal) :
    c.checkDiscount subtotal = .ok () ∧ subtotal ≤ c.discount subtotal ∧
      c.discount subtotal ≤ 0 := by
  have hcast : (subtotal : ℚ) ≤ 0 := Int.cast_nonpos.mpr hnonpos
  have hzero : |(0 : Int)| < 10 ^ precision := by decide
  have habs : |subtotal| < 10 ^ precision := by
    rw [abs_of_nonpos hnonpos]
    exact neg_lt.mp hsubtotal
  have hle : (subtotal * 100 : ℚ) ≤ subtotal * c.discountValue.toRat :=
    mul_le_mul_of_nonpos_left hproper hcast
  have hge : (subtotal * c.discountValue.toRat : ℚ) ≤ (0 : Int) * 100 := by
    rw [Int.cast_zero, zero_mul]
    exact mul_nonpos_of_nonpos_of_nonneg hcast hvalue
  exact ⟨checkDiscount_between htype habs hzero hle hge,
    discount_between htype habs hzero hle hge⟩

end Proper

end Campaign

/-! ## Prices -/

namespace PriceBreakdown

section Applied

variable {selected : List Item} {campaigns : List Campaign} {shootingCategoryId : Option Int}
  {today : Date} {rate : Decimal} {c : Campaign}
  (happlied : Campaign.firstEligible selected campaigns shootingCategoryId today = some c)

include happlied

theorem discount_ofSelection :
    (ofSelection selected campaigns shootingCategoryId today rate).discount =
      c.discount (Item.subtotal selected) := by
  have hdiscount : (ofSelection selected campaigns shootingCategoryId today rate).discount =
      discountOf (Item.subtotal selected)
        (Campaign.firstEligible selected campaigns shootingCategoryId today) :=
    rfl
  rw [hdiscount, happlied]
  rfl

theorem total_ofSelection :
    (ofSelection selected campaigns shootingCategoryId today rate).total =
      applyTax (Item.subtotal selected - c.discount (Item.subtotal selected)) rate := by
  have htotal : (ofSelection selected campaigns shootingCategoryId today rate).total =
      applyTax (Item.subtotal selected -
        (ofSelection selected campaigns shootingCategoryId today rate).discount) rate :=
    rfl
  rw [htotal, discount_ofSelection happlied]

theorem ofSelection?_of_ok
    (hdiscount : c.checkDiscount (Item.subtotal selected) = .ok ())
    (htax : checkTax (Item.subtotal selected - c.discount (Item.subtotal selected)) rate = .ok ()) :
    ofSelection? selected campaigns shootingCategoryId today rate =
      .ok (ofSelection selected campaigns shootingCategoryId today rate) := by
  rw [ofSelection?_eq_map, happlied, check_of_ok]
  · rfl
  · rintro a ⟨⟩
    exact hdiscount
  · exact htax

end Applied

/-- A campaign that takes nothing negative off never raises the price. Up to a hundred per cent
are a discount between zero and the subtotal, which leaves no positive price negative, and the
price can be computed if that without the campaign can be. -/
theorem campaign_never_raises_price (selected : List Item) (campaigns : List Campaign)
    (shootingCategoryId : Option Int) (today : Date) (rate : Decimal) (c : Campaign)
    (hrate : -1 ≤ rate.toRat)
    (happlied : Campaign.firstEligible selected campaigns shootingCategoryId today = some c)
    (hvalue : 0 ≤ c.discountValue.toRat) :
    let s := Item.subtotal selected
    let p := ofSelection selected campaigns shootingCategoryId today rate
    ofSelection? selected campaigns shootingCategoryId today rate =
        (check s (some c) rate).map (fun _ => p) ∧
      p.subtotal = s ∧ p.appliedCampaign = some c ∧
      (c.discountType = .fixed → p.total ≤ applyTax s rate) ∧
      (c.discountType = .percentage → c.discountValue.toRat ≤ 100 →
        (0 ≤ s → s < 10 ^ precision →
          0 ≤ p.discount ∧ p.discount ≤ s ∧ 0 ≤ p.total ∧ p.total ≤ applyTax s rate ∧
            (checkTax s rate = .ok () →
              ofSelection? selected campaigns shootingCategoryId today rate = .ok p)) ∧
        (-10 ^ precision < s → s ≤ 0 →
          s ≤ p.discount ∧ p.discount ≤ 0 ∧
            (checkTax s rate = .ok () →
              ofSelection? selected campaigns shootingCategoryId today rate = .ok p))) := by
  intro s p
  have hdiscount : p.discount = c.discount s := discount_ofSelection happlied
  have htotal : p.total = applyTax (s - c.discount s) rate := total_ofSelection happlied
  refine ⟨?_, rfl, happlied, ?_, ?_⟩
  · rw [ofSelection?_eq_map, happlied]
  · intro hfixed
    have hnonneg : 0 ≤ c.discount s := by
      rw [Campaign.discount_fixed hfixed]
      exact wholePart_nonneg hvalue
    rw [htotal]
    exact applyTax_mono hrate (by omega)
  · intro hpercentage hproper
    rw [hdiscount, htotal]
    constructor
    · intro hnonneg hsubtotal
      obtain ⟨hcheck, hlower, hupper⟩ :=
        Campaign.discount_of_nonneg hvalue hpercentage hproper hnonneg hsubtotal
      refine ⟨hlower, hupper, ?_, ?_, ?_⟩
      · rw [← applyTax_zero rate]
        exact applyTax_mono hrate (by omega)
      · exact applyTax_mono hrate (by omega)
      · intro htax
        have hleft : 0 ≤ s - c.discount s ∧ s - c.discount s ≤ s := by omega
        exact ofSelection?_of_ok happlied hcheck (checkTax_of_between hrate (Or.inl hleft) htax)
    · intro hsubtotal hnonpos
      obtain ⟨hcheck, hlower, hupper⟩ :=
        Campaign.discount_of_nonpos hvalue hpercentage hproper hnonpos hsubtotal
      refine ⟨hlower, hupper, ?_⟩
      intro htax
      have hleft : s ≤ s - c.discount s ∧ s - c.discount s ≤ 0 := by omega
      exact ofSelection?_of_ok happlied hcheck (checkTax_of_between hrate (Or.inr hleft) htax)

/-- All but a tiny part of the price off, in more digits than a result has. -/
def nearlyFree : Campaign where
  discountType := .percentage
  discountValue := ⟨false, 10 ^ 40 - 1, -38⟩
  startDate := ⟨2024, 1, 1, isCalendarDay_newYear⟩
  endDate := ⟨2024, 12, 31, isCalendarDay_yearEnd⟩
  associations := { itemIds := [100] }

/-- The largest price in 28 digits. -/
def priciestItem : Item :=
  { id := 100, categoryId := 10, price := 10 ^ 28 - 1 }

/-- The discount is rounded up to the whole subtotal, but not above it. -/
theorem nearly_free_price_is_zero :
    ∃ p, ofSelection? [priciestItem] [nearlyFree] none ⟨2024, 5, 1, by decide⟩ standardTaxRate =
        .ok p ∧ p.discount = 10 ^ 28 - 1 ∧ 0 ≤ p.total ∧
      p.total ≤ applyTax (10 ^ 28 - 1) standardTaxRate := by
  have hrate : -1 ≤ standardTaxRate.toRat := by
    norm_num [standardTaxRate, toRat, signedCoefficient, signed]
  have hvalue : nearlyFree.discountValue.toRat = (10 ^ 40 - 1) / 10 ^ 38 := by
    norm_num [nearlyFree, toRat, signedCoefficient, signed]
  obtain ⟨-, hsubtotal, -, -, hpercentage⟩ := campaign_never_raises_price [priciestItem]
    [nearlyFree] none ⟨2024, 5, 1, by decide⟩ standardTaxRate nearlyFree hrate (by decide)
    (by rw [hvalue]; norm_num)
  obtain ⟨-, -, hnonneg, hle, hok⟩ := (hpercentage rfl (by rw [hvalue]; norm_num)).1
    (by decide) (by decide)
  exact ⟨_, hok (by decide +kernel), by decide +kernel, hnonneg, hle⟩

end PriceBreakdown

end StudioQuote
