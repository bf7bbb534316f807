import StudioQuote.Proofs.Number.DecimalValue

/-!
# Results are nearest

A result has 28 significant digits and an exponent that is not too small, and a decimal is
rounded to a result nearest to it. From this alone it follows that a number which is a result
itself is not rounded, and that rounding keeps the order and stays within results that bound
the exact number. Which of two equally near results is taken does not matter for that.
-/

namespace StudioQuote.Number

theorem roundHalfEven_near (n : Nat) {d : Nat} (hd : 0 < d) :
    2 * n ≤ 2 * (roundHalfEven n d * d) + d ∧ 2 * (roundHalfEven n d * d) ≤ 2 * n + d := by
  have hdivision : n / d * d + n % d = n := Nat.div_add_mod' n d
  have hremainder : n % d < d := Nat.mod_lt n hd
  rw [roundHalfEven]
  split
  · omega
  · split
    · rw [Nat.add_mul]
      omega
    · obtain heven | hodd := Nat.mod_two_eq_zero_or_one (n / d)
      · rw [heven, Nat.add_zero]
        omega
      · rw [hodd, Nat.add_mul]
        omega

/-- The numbers that a result may be. -/
def IsResult (x : ℚ) : Prop :=
  ∃ n e : Int, |n| < 10 ^ Decimal.precision ∧ Decimal.minExponent ≤ e ∧ x = n * 10 ^ e

/-- Of all results, `p` is one nearest to `x`. -/
structure Rounds (x p : ℚ) : Prop where
  isResult : IsResult p
  nearest : ∀ z, IsResult z → |p - x| ≤ |z - x|

namespace IsResult

theorem of_abs_le {n e : Int} (hn : |n| ≤ 10 ^ Decimal.precision)
    (he : Decimal.minExponent ≤ e) : IsResult (n * 10 ^ e) := by
  obtain hlt | heq := lt_or_eq_of_le hn
  · exact ⟨n, e, hlt, he, rfl⟩
  · -- One more digit than fits: the number is a power of ten.
    obtain rfl | rfl := eq_or_eq_neg_of_abs_eq heq
    · refine ⟨10 ^ 27, e + 1, by decide, by omega, ?_⟩
      rw [ten_pow_add, Decimal.precision]
      push_cast
      ring
    · refine ⟨-10 ^ 27, e + 1, by decide, by omega, ?_⟩
      rw [ten_pow_add, Decimal.precision]
      push_cast
      ring

theorem intCast {n : Int} (hn : |n| < 10 ^ Decimal.precision) : IsResult n :=
  ⟨n, 0, hn, by decide, by simp⟩

theorem zero : IsResult 0 := by
  exact_mod_cast intCast (n := 0) (by decide)

theorem ten_pow (n : Nat) : IsResult (10 ^ n) := by
  refine ⟨1, n, by decide, ?_, ?_⟩
  · rw [Decimal.minExponent]
    omega
  · rw [Int.cast_one, one_mul, ten_pow_natCast]

theorem neg {x : ℚ} (h : IsResult x) : IsResult (-x) := by
  obtain ⟨n, e, hn, he, rfl⟩ := h
  refine ⟨-n, e, by rwa [abs_neg], he, ?_⟩
  push_cast
  ring

/-- A result is a multiple of a unit, or its own unit is smaller and its digits do not reach
above 28 digits of that. -/
theorem multiple_or_small {x : ℚ} (h : IsResult x) (e : Int) :
    (∃ m : Int, x = m * 10 ^ e) ∨ Decimal.minExponent < e ∧ |x| ≤ 10 ^ (e + 27) := by
  obtain ⟨m, f, hm, hf, rfl⟩ := h
  obtain hle | hlt := le_or_gt e f
  · left
    obtain ⟨k, hk⟩ := Int.eq_ofNat_of_zero_le (Int.sub_nonneg_of_le hle)
    have hexponent : f = k + e := by omega
    refine ⟨m * 10 ^ k, ?_⟩
    rw [hexponent, ten_pow_add, ten_pow_natCast]
    push_cast
    ring
  · right
    refine ⟨by omega, ?_⟩
    have hdigits : |(m : ℚ)| ≤ 10 ^ (28 : Int) := by
      exact_mod_cast le_of_lt hm
    rw [abs_mul, abs_of_pos (ten_pow_pos f)]
    calc |(m : ℚ)| * 10 ^ f
        ≤ 10 ^ (28 : Int) * 10 ^ f := mul_le_mul_of_nonneg_right hdigits (le_of_lt (ten_pow_pos f))
      _ = 10 ^ (28 + f) := (ten_pow_add ..).symm
      _ ≤ 10 ^ (e + 27) := ten_pow_le (by omega)

end IsResult

namespace Rounds

variable {x y p q z : ℚ}

theorem self (hx : IsResult x) : Rounds x x := by
  refine ⟨hx, ?_⟩
  intro z _
  rw [sub_self, abs_zero]
  exact abs_nonneg _

theorem eq_of_isResult (h : Rounds x p) (hx : IsResult x) : p = x := by
  have hle := h.nearest x hx
  rw [sub_self, abs_zero] at hle
  exact sub_eq_zero.mp (abs_eq_zero.mp (le_antisymm hle (abs_nonneg _)))

theorem le_of_le (h : Rounds x p) (hz : IsResult z) (hle : x ≤ z) : p ≤ z := by
  by_contra hlt
  have hnear := h.nearest z hz
  rw [abs_of_nonneg (by linarith), abs_of_nonneg (by linarith)] at hnear
  linarith

theorem neg (h : Rounds x p) : Rounds (-x) (-p) := by
  refine ⟨h.isResult.neg, ?_⟩
  intro z hz
  have hnear := h.nearest (-z) hz.neg
  rw [abs_sub_comm, abs_sub_comm (-z)] at hnear
  convert hnear using 2 <;> ring

theorem ge_of_ge (h : Rounds x p) (hz : IsResult z) (hle : z ≤ x) : z ≤ p :=
  neg_le_neg_iff.mp (h.neg.le_of_le hz.neg (neg_le_neg hle))

theorem abs_le_of_le (h : Rounds x p) (hz : IsResult z) (hle : |x| ≤ z) : |p| ≤ z := by
  obtain ⟨hlower, hupper⟩ := abs_le.mp hle
  exact abs_le.mpr ⟨h.ge_of_ge hz.neg hlower, h.le_of_le hz hupper⟩

theorem isTooLarge_eq_false {d : Decimal} (h : Rounds x d.toRat) {n : Nat} (hx : |x| ≤ 10 ^ n)
    (hn : (n : Int) ≤ Decimal.maxExponent) : d.isTooLarge = false :=
  Decimal.isTooLarge_eq_false_of_le hn (h.abs_le_of_le (IsResult.ten_pow n) hx)

/-- Rounding keeps the order. Numbers that are equal may be rounded apart at a tie. -/
theorem mono (hx : Rounds x p) (hy : Rounds y q) (hlt : x < y) : p ≤ q := by
  by_contra hgt
  have hleft := sq_le_sq.mpr (hx.nearest q hy.isResult)
  have hright := sq_le_sq.mpr (hy.nearest p hx.isResult)
  have hbelow : p + q ≤ 2 * x := by nlinarith
  have habove : 2 * y ≤ p + q := by nlinarith
  linarith

end Rounds

/-! ## Multiples of a power of ten -/

/-- The number `n * 10 ^ e` is at most half a unit away from `x`, and no result that is as
large as `x` has a smaller unit. -/
structure OnGrid (x : ℚ) (n e : Int) : Prop where
  digits : |n| ≤ 10 ^ Decimal.precision
  least : Decimal.minExponent ≤ e
  below : (2 * n - 1 : ℚ) * 10 ^ e ≤ 2 * x
  above : 2 * x ≤ (2 * n + 1 : ℚ) * 10 ^ e
  large : e = Decimal.minExponent ∨ 10 ^ (e + 27) ≤ x ∨ x ≤ -10 ^ (e + 27)

namespace OnGrid

variable {x : ℚ} {n e : Int}

theorem near (h : OnGrid x n e) : 2 * |(n : ℚ) * 10 ^ e - x| ≤ 10 ^ e := by
  have hbelow := h.below
  have habove := h.above
  have habs : |(n : ℚ) * 10 ^ e - x| ≤ 10 ^ e / 2 := by
    rw [abs_le]
    constructor
    · linarith
    · linarith
  linarith

theorem le_of_multiple (h : OnGrid x n e) (m : Int) :
    |(n : ℚ) * 10 ^ e - x| ≤ |(m : ℚ) * 10 ^ e - x| := by
  obtain rfl | hne := eq_or_ne n m
  · exact le_refl _
  · have hone : (1 : ℚ) ≤ |(n : ℚ) - m| := by
      exact_mod_cast Int.one_le_abs (sub_ne_zero.mpr hne)
    have hgap : (10 : ℚ) ^ e ≤ |(n : ℚ) * 10 ^ e - m * 10 ^ e| := by
      rw [← sub_mul, abs_mul, abs_of_pos (ten_pow_pos e)]
      exact le_mul_of_one_le_left (le_of_lt (ten_pow_pos e)) hone
    have htriangle := abs_sub_le ((n : ℚ) * 10 ^ e) x (m * 10 ^ e)
    rw [abs_sub_comm x] at htriangle
    have hnear := h.near
    linarith

/-- Between a small number and `x` lies the smallest number with 28 digits, a multiple. -/
theorem add_le_of_large (h : OnGrid x n e) (he : e ≠ Decimal.minExponent) (z : ℚ) :
    |(n : ℚ) * 10 ^ e - x| + 10 ^ (e + 27) ≤ |z - x| + |z| := by
  have hunit : ((10 ^ 27 : Int) : ℚ) * 10 ^ e = 10 ^ (e + 27) := by
    rw [add_comm, ten_pow_add]
    norm_num
  obtain hleast | hpositive | hnegative := h.large
  · exact absurd hleast he
  · have hmultiple := h.le_of_multiple (10 ^ 27)
    rw [hunit, abs_sub_comm (10 ^ (e + 27)), abs_of_nonneg (sub_nonneg.mpr hpositive)] at hmultiple
    have hdistance := neg_abs_le (z - x)
    have hself := le_abs_self z
    linarith
  · have hmultiple := h.le_of_multiple (-10 ^ 27)
    rw [Int.cast_neg, neg_mul, hunit, abs_of_nonneg (sub_nonneg.mpr hnegative)] at hmultiple
    have hdistance := le_abs_self (z - x)
    have hself := neg_abs_le z
    linarith

theorem rounds (h : OnGrid x n e) : Rounds x (n * 10 ^ e) := by
  refine ⟨IsResult.of_abs_le h.digits h.least, ?_⟩
  intro z hz
  obtain ⟨m, rfl⟩ | ⟨hleast, hsmall⟩ := hz.multiple_or_small e
  · exact h.le_of_multiple m
  · have hle := h.add_le_of_large (by omega) z
    linarith

end OnGrid

namespace Decimal

theorem coefficient_lt (d : Decimal) : d.coefficient < 10 ^ d.size :=
  lt_pow_length_natDigits d.coefficient

theorem withoutDigits_eq (d : Decimal) (count : Nat) :
    d.withoutDigits count = roundHalfEven d.coefficient (10 ^ count) := by
  rw [withoutDigits]
  split
  · rename_i hcount
    have hlt : 10 * d.coefficient < 10 ^ count := by
      have hpow : 10 ^ (d.size + 1) ≤ 10 ^ count := Nat.pow_le_pow_right (by decide) hcount
      have hcoefficient := d.coefficient_lt
      rw [Nat.pow_succ] at hpow
      omega
    rw [roundHalfEven, Nat.mod_eq_of_lt (by omega), if_pos (by omega), Nat.div_eq_of_lt (by omega)]
  · rfl

theorem withoutDigits_excess_le (d : Decimal) : d.withoutDigits d.excess ≤ 10 ^ precision := by
  have hsize : d.size ≤ precision + d.excess := by
    rw [excess]
    omega
  have hlt : d.coefficient < 10 ^ precision * 10 ^ d.excess := by
    rw [← Nat.pow_add]
    exact lt_of_lt_of_le d.coefficient_lt (Nat.pow_le_pow_right (by decide) hsize)
  have hquotient : d.coefficient / 10 ^ d.excess < 10 ^ precision :=
    (Nat.div_lt_iff_lt_mul (Nat.pow_pos (by decide))).mpr hlt
  rw [withoutDigits_eq]
  exact le_trans (roundHalfEven_le ..) hquotient

theorem signed_near (s : Bool) {n r u : Nat} (hle : 2 * n ≤ 2 * (r * u) + u)
    (hge : 2 * (r * u) ≤ 2 * n + u) :
    (2 * signed s r - 1) * u ≤ 2 * signed s n ∧ 2 * signed s n ≤ (2 * signed s r + 1) * u := by
  zify at hle hge
  cases s with
  | false =>
    simp only [signed, Bool.false_eq_true, if_false]
    constructor
    · linarith
    · linarith
  | true =>
    simp only [signed, if_true]
    constructor
    · linarith
    · linarith

theorem large_of_excess {d : Decimal} (h : 0 < d.excess) :
    d.exponent + d.excess = minExponent ∨
      10 ^ (d.exponent + d.excess + 27) ≤ d.toRat ∨
      d.toRat ≤ -10 ^ (d.exponent + d.excess + 27) := by
  by_cases hleast : d.exponent + d.excess = minExponent
  · exact Or.inl hleast
  · have hsize : d.size = d.excess + 28 := by
      rw [excess, precision] at *
      omega
    have hne : d.coefficient ≠ 0 := by
      intro hzero
      have hone : d.size = 1 := by rw [size, hzero]; rfl
      omega
    have hle := le_abs_toRat hne
    have hexponent : d.exponent + d.size - 1 = d.exponent + d.excess + 27 := by omega
    rw [hexponent, le_abs] at hle
    obtain hpositive | hnegative := hle
    · exact Or.inr (Or.inl hpositive)
    · exact Or.inr (Or.inr (by linarith))

theorem onGrid_of_excess {d : Decimal} (h : 0 < d.excess) :
    OnGrid d.toRat d.rounded.signedCoefficient (d.exponent + d.excess) := by
  have hnear := roundHalfEven_near d.coefficient (Nat.pow_pos (by decide) : 0 < 10 ^ d.excess)
  rw [← withoutDigits_eq] at hnear
  obtain ⟨hbelow, habove⟩ := signed_near d.negative hnear.left hnear.right
  have hten := le_of_lt (ten_pow_pos d.exponent)
  have hunit : (10 : ℚ) ^ (d.exponent + d.excess) =
      ((10 ^ d.excess : Nat) : Int) * 10 ^ d.exponent := by
    rw [add_comm, ten_pow_add, ten_pow_natCast]
    push_cast
    rfl
  have hrounded : d.rounded.signedCoefficient = signed d.negative (d.withoutDigits d.excess) := rfl
  have hdigits := d.withoutDigits_excess_le
  refine ⟨?_, ?_, ?_, ?_, large_of_excess h⟩
  · rw [Int.abs_eq_natAbs, signedCoefficient, natAbs_signed]
    exact_mod_cast hdigits
  · rw [excess]
    omega
  · have hscaled := mul_le_mul_of_nonneg_right (Int.cast_le (R := ℚ).mpr hbelow) hten
    rw [hrounded, hunit, toRat, signedCoefficient]
    push_cast at hscaled ⊢
    linarith
  · have hscaled := mul_le_mul_of_nonneg_right (Int.cast_le (R := ℚ).mpr habove) hten
    rw [hrounded, hunit, toRat, signedCoefficient]
    push_cast at hscaled ⊢
    linarith

theorem rounded_of_excess {d : Decimal} (h : d.excess = 0) : d.rounded = d := by
  have hkept : roundHalfEven (d.coefficient * 1) 1 = d.coefficient :=
    roundHalfEven_mul _ (by decide)
  rw [Nat.mul_one] at hkept
  rw [rounded, h, withoutDigits_eq, Nat.pow_zero, hkept, Nat.cast_zero, add_zero]

theorem isResult_of_excess {d : Decimal} (h : d.excess = 0) : IsResult d.toRat := by
  rw [excess] at h
  refine ⟨d.signedCoefficient, d.exponent, ?_, by omega, rfl⟩
  have hlt : d.coefficient < 10 ^ precision :=
    lt_of_lt_of_le d.coefficient_lt (Nat.pow_le_pow_right (by decide) (by omega))
  rw [Int.abs_eq_natAbs, signedCoefficient, natAbs_signed]
  exact_mod_cast hlt

end Decimal

end StudioQuote.Number
