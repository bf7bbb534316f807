import StudioQuote.Proofs.Calendar
import StudioQuote.Proofs.Price.Amount

/-!
# Exact prices

As long as the digits fit, decimal arithmetic rounds nothing: the discount and the tax are those
of the rational numbers, and only the whole amounts at the end leave a fraction out. Amounts may
be negative, a total is rounded towards minus infinity, and a fixed discount towards zero.
-/

namespace StudioQuote

open Number Decimal

namespace Number

theorem IsResult.mul_pow {n e : Int} (hn : |n| < 10 ^ precision)
    (he : n ≠ 0 → minExponent ≤ e) : IsResult (n * 10 ^ e) := by
  by_cases hzero : n = 0
  · rw [hzero, Int.cast_zero, zero_mul]
    exact zero
  · exact ⟨n, e, hn, he hzero, rfl⟩

theorem IsResult.div_pow {n : Int} {k : Nat} (hn : |n| < 10 ^ precision)
    (hk : n ≠ 0 → minExponent ≤ -(k : Int)) : IsResult (n / 10 ^ k) := by
  have hresult := mul_pow hn hk
  rwa [zpow_neg, ten_pow_natCast, ← div_eq_mul_inv] at hresult

end Number

/-! ## Tax -/

section Tax

variable {rate : Decimal} {c k : Nat} (hrate : 1 + rate.toRat = c / 10 ^ k)
  (hc : c < 10 ^ precision) (hk : c ≠ 0 → minExponent ≤ -(k : Int))

include hrate hc hk

theorem toRat_taxFactor : (taxFactor rate).toRat = c / 10 ^ k := by
  have hresult : IsResult ((c : Int) / 10 ^ k) := by
    apply IsResult.div_pow
    · rw [Nat.abs_cast]
      exact_mod_cast hc
    · exact_mod_cast hk
  rw [← hrate]
  apply (rounds_taxFactor rate).eq_of_isResult
  rw [hrate]
  exact hresult

variable {amount : Int} (hdigits : amount.natAbs * c < 10 ^ precision)

include hdigits

theorem toRat_taxed : (taxed amount rate).toRat = amount * c / 10 ^ k := by
  have hresult : IsResult ((amount * c : Int) / 10 ^ k) := by
    apply IsResult.div_pow
    · rw [Int.abs_eq_natAbs, Int.natAbs_mul, Int.natAbs_natCast]
      exact_mod_cast hdigits
    · intro hne
      exact hk (by exact_mod_cast right_ne_zero_of_mul hne)
  have hrounds := rounds_taxed amount rate
  rw [toRat_taxFactor hrate hc hk, ← mul_div_assoc] at hrounds
  push_cast at hresult
  exact hrounds.eq_of_isResult hresult

theorem applyTax_exact : applyTax amount rate = ⌊(amount * c / 10 ^ k : ℚ)⌋ := by
  rw [applyTax_eq, toRat_taxed hrate hc hk hdigits]

theorem checkTax_exact : checkTax amount rate = .ok () := by
  have hone : (1 : ℚ) ≤ 10 ^ k := one_le_pow₀ (by norm_num)
  rw [checkTax_eq_ok_iff]
  constructor
  · apply isTooLarge_eq_false (n := precision) (by decide)
    rw [toRat_taxFactor hrate hc hk, abs_of_nonneg (by positivity)]
    exact lt_of_le_of_lt (div_le_self (by positivity) hone) (by exact_mod_cast hc)
  · have habs : |(amount : ℚ)| = amount.natAbs := by
      rw [← Int.cast_abs, ← Nat.cast_natAbs]
    apply isTooLarge_eq_false (n := precision) (by decide)
    rw [toRat_taxed hrate hc hk hdigits, abs_div, abs_mul, habs, Nat.abs_cast,
      abs_of_pos (by positivity)]
    exact lt_of_le_of_lt (div_le_self (by positivity) hone) (by exact_mod_cast hdigits)

end Tax

theorem floor_eleven_tenths (n : Int) :
    ⌊(n * (11 : Nat) / 10 ^ 1 : ℚ)⌋ = (11 * n).fdiv 10 := by
  have hquotient : (n * (11 : Nat) / 10 ^ 1 : ℚ) = (11 * n : Int) / (10 : Nat) := by
    push_cast
    ring
  rw [hquotient, Rat.floor_intCast_div_natCast, Int.fdiv_eq_ediv_of_nonneg _ (by decide)]
  rfl

theorem one_add_standardTaxRate : 1 + standardTaxRate.toRat = (11 : Nat) / 10 ^ 1 := by
  norm_num [standardTaxRate, toRat, signedCoefficient, signed]

/-! ## Discounts -/

namespace Campaign

/-- The discount of the rational numbers: a percentage rounded down, or a fixed value without
its fraction. -/
def exactDiscount (subtotal : Int) (c : Campaign) : Int :=
  match c.discountType with
  | .percentage => ⌊subtotal * c.discountValue.toRat / 100⌋
  | .fixed => wholePart c.discountValue.toRat

/-- Whether the digits of a percentage of the subtotal fit, and whether its exponents are within
the range of decimal arithmetic. A fixed value needs no room. -/
def HasRoom (subtotal : Int) (c : Campaign) : Prop :=
  match c.discountType with
  | .percentage =>
    subtotal.natAbs * c.discountValue.coefficient < 10 ^ precision ∧
      (subtotal.natAbs * c.discountValue.coefficient ≠ 0 →
        minExponent ≤ c.discountValue.exponent - 2) ∧
      |subtotal * c.discountValue.toRat| < 10 ^ (maxExponent + 1)
  | .fixed => True

variable {c : Campaign} {subtotal : Int}

section Percentage

variable (htype : c.discountType = .percentage) (hroom : c.HasRoom subtotal)

include htype hroom

theorem toRat_portion : (c.portion subtotal).toRat = subtotal * c.discountValue.toRat ∧
    (c.portion subtotal).hundredth.toRat = subtotal * c.discountValue.toRat / 100 := by
  rw [HasRoom, htype] at hroom
  obtain ⟨hdigits, hexponent, -⟩ := hroom
  have hcoefficient : (subtotal * c.discountValue.signedCoefficient).natAbs =
      subtotal.natAbs * c.discountValue.coefficient := by
    rw [Int.natAbs_mul, signedCoefficient, natAbs_signed]
  have hn : |subtotal * c.discountValue.signedCoefficient| < 10 ^ precision := by
    rw [Int.abs_eq_natAbs, hcoefficient]
    exact_mod_cast hdigits
  have hne : subtotal * c.discountValue.signedCoefficient ≠ 0 →
      minExponent ≤ c.discountValue.exponent - 2 := by
    rw [← Int.natAbs_ne_zero, hcoefficient]
    exact hexponent
  have hproduct : (subtotal * c.discountValue.toRat : ℚ) =
      (subtotal * c.discountValue.signedCoefficient : Int) * 10 ^ c.discountValue.exponent := by
    rw [toRat]
    push_cast
    ring
  have hhundredth : (subtotal * c.discountValue.toRat / 100 : ℚ) =
      (subtotal * c.discountValue.signedCoefficient : Int) *
        10 ^ (c.discountValue.exponent - 2) := by
    rw [hproduct, sub_eq_add_neg, ten_pow_add]
    norm_num
    ring
  have hportion : (c.portion subtotal).toRat = subtotal * c.discountValue.toRat := by
    apply rounds_portion.eq_of_isResult
    rw [hproduct]
    apply IsResult.mul_pow hn
    intro h
    have hle := hne h
    omega
  refine ⟨hportion, ?_⟩
  have hrounds := rounds_hundredth (c.portion subtotal)
  rw [hportion] at hrounds
  apply hrounds.eq_of_isResult
  rw [hhundredth]
  exact IsResult.mul_pow hn hne

end Percentage

theorem discount_exact (hroom : c.HasRoom subtotal) :
    c.checkDiscount subtotal = .ok () ∧ c.discount subtotal = c.exactDiscount subtotal := by
  cases htype : c.discountType with
  | percentage =>
    obtain ⟨hportion, hhundredth⟩ := toRat_portion htype hroom
    rw [HasRoom, htype] at hroom
    constructor
    · apply checkDiscount_percentage htype
      rw [isTooLarge_eq_false_iff, hportion]
      exact hroom.2.2
    · rw [discount_percentage htype, hhundredth, exactDiscount, htype]
  | fixed =>
    constructor
    · exact checkDiscount_fixed htype
    · rw [discount_fixed htype, exactDiscount, htype]

end Campaign

/-! ## Prices -/

namespace PriceBreakdown

/-- The discount of the rational numbers for the campaign that applies, if one does. -/
def exactDiscount (subtotal : Int) (campaign : Option Campaign) : Int :=
  (campaign.map (·.exactDiscount subtotal)).getD 0

theorem discountOf_exact {subtotal : Int} {campaign : Option Campaign}
    (hroom : ∀ c ∈ campaign, c.HasRoom subtotal) :
    discountOf subtotal campaign = exactDiscount subtotal campaign := by
  cases campaign with
  | none => rfl
  | some c => exact (Campaign.discount_exact (hroom c rfl)).2

section OfSelection

variable {selected : List Item} {campaigns : List Campaign} {shootingCategoryId : Option Int}
  {today : Date} {rate : Decimal} {c k : Nat} (hrate : 1 + rate.toRat = c / 10 ^ k)
  (hc : c < 10 ^ precision) (hk : c ≠ 0 → minExponent ≤ -(k : Int))
  (hroom : ∀ applied ∈ Campaign.firstEligible selected campaigns shootingCategoryId today,
    applied.HasRoom (Item.subtotal selected))

include hrate hc hk hroom

theorem total_exact {p : PriceBreakdown}
    (hp : p = ofSelection selected campaigns shootingCategoryId today rate)
    (hdigits : (p.subtotal - p.discount).natAbs * c < 10 ^ precision) :
    ofSelection? selected campaigns shootingCategoryId today rate = .ok p ∧
      p.total = ⌊((p.subtotal - p.discount : Int) * c / 10 ^ k : ℚ)⌋ ∧
      p.tax = p.total - (p.subtotal - p.discount) := by
  subst hp
  refine ⟨?_, applyTax_exact hrate hc hk hdigits, rfl⟩
  rw [ofSelection?_eq_map, check_of_ok (fun a ha => (Campaign.discount_exact (hroom a ha)).1)
    (checkTax_exact hrate hc hk hdigits)]
  rfl

end OfSelection

/-- As long as the digits fit, a price is that of the rational numbers: the discount is exact,
and so is the total, rounded down. -/
theorem price_is_exact (selected : List Item) (campaigns : List Campaign)
    (shootingCategoryId : Option Int) (today : Date) (rate : Decimal) (c k : Nat)
    (hrate : 1 + rate.toRat = c / 10 ^ k) (hc : c < 10 ^ precision)
    (hk : c ≠ 0 → minExponent ≤ -(k : Int))
    (hroom : ∀ a ∈ Campaign.firstEligible selected campaigns shootingCategoryId today,
      a.HasRoom (Item.subtotal selected)) :
    let p := ofSelection selected campaigns shootingCategoryId today rate
    let applied := Campaign.firstEligible selected campaigns shootingCategoryId today
    p.subtotal = (selected.map Item.price).sum ∧
      (∀ a ∈ applied, a.checkDiscount p.subtotal = .ok ()) ∧
      p.discount = exactDiscount p.subtotal applied ∧
      ((p.subtotal - p.discount).natAbs * c < 10 ^ precision →
        ofSelection? selected campaigns shootingCategoryId today rate = .ok p ∧
          p.total = ⌊((p.subtotal - p.discount : Int) * c / 10 ^ k : ℚ)⌋ ∧
          p.tax = p.total - (p.subtotal - p.discount)) ∧
      (rate = standardTaxRate → (p.subtotal - p.discount).natAbs * 11 < 10 ^ precision →
        ofSelection? selected campaigns shootingCategoryId today rate = .ok p ∧
          p.total = (11 * (p.subtotal - p.discount)).fdiv 10 ∧
          p.tax = p.total - (p.subtotal - p.discount)) := by
  intro p applied
  refine ⟨Item.subtotal_eq_sum selected, ?_, discountOf_exact hroom, ?_, ?_⟩
  · intro a ha
    exact (Campaign.discount_exact (hroom a ha)).1
  · intro hdigits
    exact total_exact hrate hc hk hroom rfl hdigits
  · intro hstandard hdigits
    have heleven : 1 + rate.toRat = (11 : Nat) / 10 ^ 1 := by
      rw [hstandard]
      exact one_add_standardTaxRate
    obtain ⟨hok, htotal, htax⟩ :=
      total_exact heleven (by decide) (by decide) hroom (p := p) rfl hdigits
    exact ⟨hok, htotal.trans (floor_eleven_tenths _), htax⟩

/-- An eighth off what is in the location category, in the year 2024. -/
def eighthOff : Campaign where
  discountType := .percentage
  discountValue := ⟨false, 125, -1⟩
  startDate := ⟨2024, 1, 1, isCalendarDay_newYear⟩
  endDate := ⟨2024, 12, 31, isCalendarDay_yearEnd⟩
  associations := { categoryIds := [10] }

/-- A plan with a voucher that is worth more. -/
def vouchedItems : List Item :=
  [{ id := 100, categoryId := 10, price := 5000 }, { id := 109, categoryId := 90, price := -9999 }]

/-- Negative amounts are rounded away from zero, -624.875 as well as -4811.4. -/
theorem vouched_price_is_negative :
    ∃ p, ofSelection? vouchedItems [eighthOff] none ⟨2024, 5, 1, by decide⟩ standardTaxRate =
        .ok p ∧ p.subtotal = -4999 ∧ p.discount = -625 ∧ p.total = -4812 ∧ p.tax = -438 := by
  have happlied : Campaign.firstEligible vouchedItems [eighthOff] none ⟨2024, 5, 1, by decide⟩ =
      some eighthOff := by
    decide
  have hvalue : eighthOff.discountValue.toRat = 25 / 2 := by
    norm_num [eighthOff, toRat, signedCoefficient, signed]
  have hroom : eighthOff.HasRoom (Item.subtotal vouchedItems) := by
    have hlarge : (10 : ℚ) ^ (5 : Int) ≤ 10 ^ (maxExponent + 1) := ten_pow_le (by decide)
    refine ⟨by decide, by decide, lt_of_lt_of_le ?_ hlarge⟩
    rw [hvalue]
    norm_num [vouchedItems, Item.subtotal]
  obtain ⟨hsubtotal, -, hdiscount, -, hprice⟩ := price_is_exact vouchedItems [eighthOff] none
    ⟨2024, 5, 1, by decide⟩ standardTaxRate 11 1 one_add_standardTaxRate (by decide) (by decide)
    (by
      rw [happlied]
      rintro a ⟨⟩
      exact hroom)
  have hfloor : exactDiscount (-4999) (some eighthOff) = -625 := by
    have hquotient : ⌊((-4999 : Int) * (25 / 2) / 100 : ℚ)⌋ = -625 := by
      rw [Int.floor_eq_iff]
      norm_num
    rw [← hquotient, ← hvalue]
    rfl
  generalize ofSelection vouchedItems [eighthOff] none ⟨2024, 5, 1, by decide⟩
    standardTaxRate = p at *
  have hsum : p.subtotal = -4999 := hsubtotal.trans (by decide)
  rw [happlied, hsum, hfloor] at hdiscount
  rw [hsum, hdiscount] at hprice
  obtain ⟨hok, htotal, htax⟩ := hprice rfl (by decide)
  rw [htotal] at htax
  exact ⟨p, hok, hsum, hdiscount, htotal, htax⟩

end PriceBreakdown

end StudioQuote
