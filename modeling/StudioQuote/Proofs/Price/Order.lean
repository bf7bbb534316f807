import StudioQuote.Proofs.Price.Bounds
import StudioQuote.Proofs.Price.Exact

/-!
# Amounts keep their order

Rounding keeps the order, so amounts with tax grow with the amount and with the rate, and a
percentage grows with the subtotal, however many digits they have. As long as the product with
the percentage has no more digits than a result, its whole part grows no faster than the
subtotal, and what is left to pay grows too. Nothing fails within the range of exponents.
-/

namespace StudioQuote

open Number Decimal

/-! ## Tax -/

theorem toRat_taxFactor_mono {r r' : Decimal} (h : r.toRat ≤ r'.toRat) :
    (taxFactor r).toRat ≤ (taxFactor r').toRat :=
  (rounds_taxFactor r).mono (rounds_taxFactor r') (by linarith)

theorem applyTax_mono_rate {amount : Int} {r r' : Decimal} (hamount : 0 ≤ amount)
    (h : r.toRat ≤ r'.toRat) : applyTax amount r ≤ applyTax amount r' := by
  rw [applyTax_eq, applyTax_eq]
  apply Int.floor_le_floor
  apply (rounds_taxed amount r).mono (rounds_taxed amount r')
  exact mul_le_mul_of_nonneg_left (toRat_taxFactor_mono h) (Int.cast_nonneg hamount)

theorem checkTax_of_range {amount : Int} {rate : Decimal} {j k : Nat}
    (hrange : (j + k : Int) ≤ maxExponent) (hrate : |1 + rate.toRat| ≤ 10 ^ j)
    (hamount : |(amount : ℚ)| ≤ 10 ^ k) : checkTax amount rate = .ok () := by
  have hfactor := (rounds_taxFactor rate).abs_le_of_le (IsResult.ten_pow j) hrate
  rw [checkTax_eq_ok_iff]
  constructor
  · exact (rounds_taxFactor rate).isTooLarge_eq_false hrate (by omega)
  · apply (rounds_taxed amount rate).isTooLarge_eq_false (abs_mul_le_ten_pow hamount hfactor)
    exact_mod_cast hrange

/-! ## Percentages -/

namespace Campaign

variable {c : Campaign}

theorem checkDiscount_of_range (htype : c.discountType = .percentage) {subtotal : Int} {j k : Nat}
    (hrange : (j + k : Int) ≤ maxExponent) (hvalue : |c.discountValue.toRat| ≤ 10 ^ j)
    (hsubtotal : |(subtotal : ℚ)| ≤ 10 ^ k) : c.checkDiscount subtotal = .ok () := by
  apply checkDiscount_percentage htype
  apply rounds_portion.isTooLarge_eq_false (abs_mul_le_ten_pow hsubtotal hvalue)
  exact_mod_cast hrange

theorem discount_mono (htype : c.discountType = .percentage) (hvalue : 0 ≤ c.discountValue.toRat)
    {s s' : Int} (h : s ≤ s') : c.discount s ≤ c.discount s' := by
  have hportion : (c.portion s).toRat ≤ (c.portion s').toRat :=
    rounds_portion.mono rounds_portion (mul_le_mul_of_nonneg_right (Int.cast_le.mpr h) hvalue)
  rw [discount_percentage htype, discount_percentage htype]
  apply Int.floor_le_floor
  exact (rounds_hundredth _).mono (rounds_hundredth _) (by linarith)

/-! ### Percentages below the range of exponents -/

section Tiny

variable {s : Int} (hdigits : s.natAbs * c.discountValue.coefficient < 10 ^ precision)
  (hexponent : c.discountValue.exponent - 2 < minExponent)

include hdigits hexponent

theorem abs_mul_le_one : |(s * c.discountValue.toRat : ℚ)| ≤ 1 := by
  have hs : |(s : ℚ)| = s.natAbs := by
    rw [← Int.cast_abs, ← Nat.cast_natAbs]
  have hcast : ((s.natAbs * c.discountValue.coefficient : Nat) : ℚ) ≤ 10 ^ precision := by
    exact_mod_cast le_of_lt hdigits
  have hten := ten_pow_pos c.discountValue.exponent
  have hsmall : (precision : Int) + c.discountValue.exponent ≤ 0 := by
    rw [minExponent] at hexponent
    rw [precision]
    omega
  calc |(s * c.discountValue.toRat : ℚ)|
      = (s.natAbs * c.discountValue.coefficient : Nat) * 10 ^ c.discountValue.exponent := by
        rw [abs_mul, abs_toRat, hs]
        push_cast
        ring
    _ ≤ 10 ^ precision * 10 ^ c.discountValue.exponent :=
        mul_le_mul_of_nonneg_right hcast (le_of_lt hten)
    _ = 10 ^ ((precision : Int) + c.discountValue.exponent) := by
        rw [ten_pow_add, ten_pow_natCast]
    _ ≤ 10 ^ (0 : Int) := ten_pow_le hsmall
    _ = 1 := zpow_zero _

theorem discount_of_tiny (htype : c.discountType = .percentage) :
    -1 ≤ c.discount s ∧ c.discount s ≤ 0 := by
  have hproduct := abs_mul_le_one hdigits hexponent
  have hportion := rounds_portion.abs_le_of_le (IsResult.ten_pow 0) (by rwa [pow_zero])
  have hresult : IsResult ((1 : Int) / 10 ^ 2) := IsResult.div_pow (by decide) (by decide)
  obtain ⟨hlower, hupper⟩ :=
    abs_le.mp (abs_toRat_hundredth_le hresult (le_trans hportion (by norm_num)))
  norm_num at hlower hupper
  rw [discount_percentage htype]
  constructor
  · rw [Int.le_floor]
    push_cast
    linarith
  · rw [← Int.lt_add_one_iff, Int.floor_lt]
    push_cast
    linarith

end Tiny

/-! ### Up to a hundred per cent -/

section Proper

variable (hvalue : 0 ≤ c.discountValue.toRat) (hproper : c.discountValue.toRat ≤ 100)

include hvalue hproper

theorem abs_discountValue_le : |c.discountValue.toRat| ≤ 10 ^ 2 := by
  rw [abs_of_nonneg hvalue]
  norm_num
  exact hproper

variable (htype : c.discountType = .percentage)

include htype

/-- The discount has no more digits than the subtotal may have. -/
theorem abs_discount_le {s : Int} {k : Nat} (hs : |(s : ℚ)| ≤ 10 ^ k) :
    |(c.discount s : ℚ)| ≤ 10 ^ k := by
  have hproduct := abs_mul_le_ten_pow hs (abs_discountValue_le hvalue hproper)
  have hportion := rounds_portion.abs_le_of_le (IsResult.ten_pow (2 + k)) hproduct
  have hhundred : (10 : ℚ) ^ (2 + k) = 10 ^ k * 100 := by ring
  rw [hhundred] at hportion
  obtain ⟨hlower, hupper⟩ := abs_le.mp (abs_toRat_hundredth_le (IsResult.ten_pow k) hportion)
  rw [discount_percentage htype, abs_le]
  constructor
  · have hfloor : -(10 : Int) ^ k ≤ ⌊(c.portion s).hundredth.toRat⌋ := by
      rw [Int.le_floor]
      push_cast
      exact hlower
    exact_mod_cast hfloor
  · exact le_trans (Int.floor_le _) hupper

theorem hasRoom_of_digits {s : Int}
    (hdigits : s.natAbs * c.discountValue.coefficient < 10 ^ precision)
    (hexponent : minExponent ≤ c.discountValue.exponent - 2) : c.HasRoom s := by
  rw [HasRoom, htype]
  refine ⟨hdigits, fun _ => hexponent, ?_⟩
  by_cases hzero : c.discountValue.coefficient = 0
  · rw [toRat_eq_zero hzero, mul_zero, abs_zero]
    exact ten_pow_pos _
  · have hsmall : s.natAbs ≤ 10 ^ precision :=
      le_trans (Nat.le_mul_of_pos_right _ (Nat.pos_of_ne_zero hzero)) (le_of_lt hdigits)
    have hs : |(s : ℚ)| ≤ 10 ^ precision := by
      rw [← Int.cast_abs, ← Nat.cast_natAbs]
      exact_mod_cast hsmall
    have hproduct := abs_mul_le_ten_pow hs (abs_discountValue_le hvalue hproper)
    have hrange : (2 + precision : Nat) < maxExponent + 1 := by decide
    rw [← ten_pow_natCast] at hproduct
    exact lt_of_le_of_lt hproduct (zpow_lt_zpow_right₀ (by norm_num) hrange)

/-- The discount grows no faster than the subtotal. -/
theorem discount_sub_le {s s' : Int} (hle : s ≤ s')
    (hdigits : s.natAbs * c.discountValue.coefficient < 10 ^ precision)
    (hdigits' : s'.natAbs * c.discountValue.coefficient < 10 ^ precision) :
    c.discount s' - c.discount s ≤ s' - s := by
  obtain rfl | hlt := eq_or_lt_of_le hle
  · omega
  · obtain hexponent | hexponent := le_or_gt minExponent (c.discountValue.exponent - 2)
    · obtain ⟨-, hexact⟩ :=
        discount_exact (hasRoom_of_digits hvalue hproper htype hdigits hexponent)
      obtain ⟨-, hexact'⟩ :=
        discount_exact (hasRoom_of_digits hvalue hproper htype hdigits' hexponent)
      rw [exactDiscount, htype] at hexact hexact'
      have hgrowth : (0 : ℚ) ≤ (s' - s) * (100 - c.discountValue.toRat) :=
        mul_nonneg (sub_nonneg.mpr (Int.cast_le.mpr hle)) (by linarith)
      have hfloor : ⌊(s' * c.discountValue.toRat / 100 : ℚ)⌋ ≤
          ⌊(s * c.discountValue.toRat / 100 : ℚ) + (s' - s : Int)⌋ := by
        apply Int.floor_le_floor
        push_cast
        linarith
      rw [Int.floor_add_intCast] at hfloor
      rw [hexact, hexact']
      exact sub_le_iff_le_add'.mpr hfloor
    · -- Too small to be exact, the discounts are a unit apart at most, and so are the subtotals.
      have hlower := (discount_of_tiny hdigits hexponent htype).1
      have hupper := (discount_of_tiny hdigits' hexponent htype).2
      omega

end Proper

end Campaign

/-- Amounts keep their order, of whatever size they are: with tax they grow with the amount and
with the rate, and a percentage of them grows. Each of them can be computed if the exponents of
the two factors together are within the range. -/
theorem amounts_keep_order :
    (∀ (rate : Decimal) (a b : Int), 0 ≤ 1 + rate.toRat → a ≤ b →
      applyTax a rate ≤ applyTax b rate) ∧
    (∀ (amount : Int) (r r' : Decimal), 0 ≤ amount → r.toRat ≤ r'.toRat →
      applyTax amount r ≤ applyTax amount r') ∧
    (∀ (c : Campaign) (s s' : Int), c.discountType = .percentage → 0 ≤ c.discountValue.toRat →
      s ≤ s' → c.discount s ≤ c.discount s') ∧
    ∀ (amount : Int) (j k : Nat), (j + k : Int) ≤ maxExponent → |(amount : ℚ)| ≤ 10 ^ k →
      (∀ rate : Decimal, |1 + rate.toRat| ≤ 10 ^ j → checkTax amount rate = .ok ()) ∧
      ∀ c : Campaign, c.discountType = .percentage → |c.discountValue.toRat| ≤ 10 ^ j →
        c.checkDiscount amount = .ok () := by
  refine ⟨?_, ?_, ?_, ?_⟩
  · intro rate a b hrate hle
    exact applyTax_mono (by linarith) hle
  · intro amount r r' hamount hle
    exact applyTax_mono_rate hamount hle
  · intro c s s' htype hvalue hle
    exact Campaign.discount_mono htype hvalue hle
  · intro amount j k hrange hamount
    constructor
    · intro rate hrate
      exact checkTax_of_range hrange hrate hamount
    · intro c htype hvalue
      exact Campaign.checkDiscount_of_range htype hrange hvalue hamount

/-- Without tax, halves of a unit of ten are rounded to an even multiple. A rate that is written
in two ways, and a percentage of forty digits, keep the order too. -/
theorem long_amounts_keep_order :
    applyTax (10 ^ 28 + 5) ⟨false, 0, 0⟩ = 10 ^ 28 ∧
    applyTax (10 ^ 28 + 15) ⟨false, 0, 0⟩ = 10 ^ 28 + 20 ∧
    applyTax (10 ^ 28 + 5) ⟨false, 0, 0⟩ ≤ applyTax (10 ^ 28 + 15) ⟨false, 0, 0⟩ ∧
    applyTax (10 ^ 28 + 50) standardTaxRate ≤ applyTax (10 ^ 28 + 50) ⟨false, 1, -1⟩ ∧
    PriceBreakdown.eighthOff.discount (-10 ^ 40) ≤
      PriceBreakdown.eighthOff.discount (1 - 10 ^ 40) ∧
    checkTax (10 ^ 28 + 50) standardTaxRate = .ok () ∧
    PriceBreakdown.eighthOff.checkDiscount (10 ^ 28 + 50) = .ok () := by
  have hstandard : standardTaxRate.toRat = 1 / 10 := by
    norm_num [standardTaxRate, toRat, signedCoefficient, signed]
  have htenth : (⟨false, 1, -1⟩ : Decimal).toRat = 1 / 10 := by
    norm_num [toRat, signedCoefficient, signed]
  have huntaxed : (⟨false, 0, 0⟩ : Decimal).toRat = 0 := toRat_eq_zero rfl
  have heighth : PriceBreakdown.eighthOff.discountValue.toRat = 25 / 2 := by
    norm_num [PriceBreakdown.eighthOff, toRat, signedCoefficient, signed]
  obtain ⟨hamounts, hrates, hpercentages, hrange⟩ := amounts_keep_order
  obtain ⟨htax, hdiscount⟩ := hrange (10 ^ 28 + 50) 2 29 (by decide) (by norm_num)
  refine ⟨by decide +kernel, by decide +kernel, ?_, ?_, ?_, ?_, ?_⟩
  · exact hamounts _ _ _ (by rw [huntaxed]; norm_num) (by decide)
  · exact hrates _ _ _ (by decide) (by rw [hstandard, htenth])
  · exact hpercentages _ _ _ rfl (by rw [heighth]; norm_num) (by decide)
  · exact htax _ (by rw [hstandard]; norm_num [abs_of_pos])
  · exact hdiscount _ rfl (by rw [heighth]; norm_num [abs_of_pos])

/-! ## Prices -/

namespace PriceBreakdown

section Range

variable {campaign : Option Campaign} {j k : Nat} (hrange : (j + k + 2 : Int) ≤ maxExponent)
  (hpercentage : ∀ c ∈ campaign, c.discountType = .percentage →
    0 ≤ c.discountValue.toRat ∧ c.discountValue.toRat ≤ 100)
  (hfixed : ∀ c ∈ campaign, c.discountType = .fixed → |c.discountValue.toRat| ≤ 10 ^ k)
  {s : Int} (hs : |(s : ℚ)| ≤ 10 ^ k)

include hpercentage hfixed hs

theorem abs_discountOf_le : |(discountOf s campaign : ℚ)| ≤ 10 ^ k := by
  cases campaign with
  | none =>
    have hnothing : discountOf s none = 0 := rfl
    rw [hnothing, Int.cast_zero, abs_zero]
    positivity
  | some c =>
    have hdiscount : discountOf s (some c) = c.discount s := rfl
    rw [hdiscount]
    cases htype : c.discountType with
    | percentage =>
      obtain ⟨hvalue, hproper⟩ := hpercentage c rfl htype
      exact Campaign.abs_discount_le hvalue hproper htype hs
    | fixed =>
      rw [Campaign.discount_fixed htype]
      exact le_trans (abs_wholePart_le _) (hfixed c rfl htype)

include hrange

theorem check_of_range {rate : Decimal} (hrate : |1 + rate.toRat| ≤ 10 ^ j) :
    check s campaign rate = .ok () := by
  apply check_of_ok
  · intro c hc
    cases htype : c.discountType with
    | percentage =>
      obtain ⟨hvalue, hproper⟩ := hpercentage c hc htype
      apply Campaign.checkDiscount_of_range htype (j := 2) (k := k) (by omega)
      · exact Campaign.abs_discountValue_le hvalue hproper
      · exact hs
    | fixed => exact Campaign.checkDiscount_fixed htype
  · have hdiscount := abs_discountOf_le hpercentage hfixed hs
    have hleft : |((s - discountOf s campaign : Int) : ℚ)| ≤ 10 ^ (k + 1) := by
      push_cast
      refine le_trans (abs_sub _ _) ?_
      rw [pow_succ]
      linarith [pow_pos (show (0 : ℚ) < 10 by norm_num) k]
    exact checkTax_of_range (j := j) (k := k + 1) (by push_cast; omega) hrate hleft

end Range

theorem sub_discountOf_mono {campaign : Option Campaign} {s s' : Int} (hle : s ≤ s')
    (hpercentage : ∀ c ∈ campaign, c.discountType = .percentage →
      0 ≤ c.discountValue.toRat ∧ c.discountValue.toRat ≤ 100 ∧
        s.natAbs * c.discountValue.coefficient < 10 ^ precision ∧
        s'.natAbs * c.discountValue.coefficient < 10 ^ precision) :
    s - discountOf s campaign ≤ s' - discountOf s' campaign := by
  cases campaign with
  | none => exact Int.sub_le_sub_right hle 0
  | some c =>
    have hdiscount : ∀ t, discountOf t (some c) = c.discount t := fun _ => rfl
    rw [hdiscount, hdiscount]
    cases htype : c.discountType with
    | percentage =>
      obtain ⟨hvalue, hproper, hdigits, hdigits'⟩ := hpercentage c rfl htype
      have hgrowth := Campaign.discount_sub_le hvalue hproper htype hle hdigits hdigits'
      omega
    | fixed =>
      rw [Campaign.discount_fixed htype, Campaign.discount_fixed htype]
      exact Int.sub_le_sub_right hle _

/-- A dearer selection costs no less under the same campaign, if a percentage is at most a
hundred and its product with the subtotals has not too many digits. Both prices can be computed
within the range of exponents. -/
theorem dearer_selection_costs_no_less {s s' : Int} (hle : s ≤ s') (campaign : Option Campaign)
    (rate : Decimal) (hrate : -1 ≤ rate.toRat)
    (hpercentage : ∀ c ∈ campaign, c.discountType = .percentage →
      0 ≤ c.discountValue.toRat ∧ c.discountValue.toRat ≤ 100 ∧
        s.natAbs * c.discountValue.coefficient < 10 ^ precision ∧
        s'.natAbs * c.discountValue.coefficient < 10 ^ precision) :
    applyTax (s - discountOf s campaign) rate ≤ applyTax (s' - discountOf s' campaign) rate ∧
      ∀ j k : Nat, (j + k + 2 : Int) ≤ maxExponent → 1 + rate.toRat ≤ 10 ^ j →
        |(s : ℚ)| ≤ 10 ^ k → |(s' : ℚ)| ≤ 10 ^ k →
        (∀ c ∈ campaign, c.discountType = .fixed → |c.discountValue.toRat| ≤ 10 ^ k) →
        check s campaign rate = .ok () ∧ check s' campaign rate = .ok () := by
  refine ⟨applyTax_mono hrate (sub_discountOf_mono hle hpercentage), ?_⟩
  intro j k hrange hfactor hs hs' hfixed
  have hproper : ∀ c ∈ campaign, c.discountType = .percentage →
      0 ≤ c.discountValue.toRat ∧ c.discountValue.toRat ≤ 100 := by
    intro c hc htype
    obtain ⟨hvalue, hhundred, -⟩ := hpercentage c hc htype
    exact ⟨hvalue, hhundred⟩
  have habs : |1 + rate.toRat| ≤ 10 ^ j := by
    rwa [abs_of_nonneg (by linarith)]
  exact ⟨check_of_range hrange hproper hfixed hs habs,
    check_of_range hrange hproper hfixed hs' habs⟩

/-- An eighth of seven is no discount, and the eighth unit of the price is taken off again. -/
theorem eighth_unit_is_free :
    applyTax (7 - discountOf 7 (some eighthOff)) standardTaxRate = 7 ∧
    applyTax (7 - discountOf 7 (some eighthOff)) standardTaxRate ≤
      applyTax (8 - discountOf 8 (some eighthOff)) standardTaxRate ∧
    applyTax (8 - discountOf 8 (some eighthOff)) standardTaxRate = 7 ∧
    check 7 (some eighthOff) standardTaxRate = .ok () ∧
    check 8 (some eighthOff) standardTaxRate = .ok () := by
  have hrate : standardTaxRate.toRat = 1 / 10 := by
    norm_num [standardTaxRate, toRat, signedCoefficient, signed]
  have hvalue : eighthOff.discountValue.toRat = 25 / 2 := by
    norm_num [eighthOff, toRat, signedCoefficient, signed]
  obtain ⟨hle, hcheck⟩ := dearer_selection_costs_no_less (show (7 : Int) ≤ 8 by decide)
    (some eighthOff) standardTaxRate (by rw [hrate]; norm_num) (by
      rintro c ⟨⟩ -
      rw [hvalue]
      exact ⟨by norm_num, by norm_num, by decide, by decide⟩)
  refine ⟨by decide +kernel, hle, by decide +kernel, ?_⟩
  apply hcheck 1 1 (by decide) (by rw [hrate]; norm_num) (by norm_num) (by norm_num)
  rintro c ⟨⟩ htype
  cases htype

end PriceBreakdown

end StudioQuote
