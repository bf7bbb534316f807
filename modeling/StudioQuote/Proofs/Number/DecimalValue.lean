import Mathlib.Algebra.Order.Field.Power
import Mathlib.Data.Rat.Floor
import Mathlib.Tactic.Linarith
import Mathlib.Tactic.Ring
import StudioQuote.Number.Decimal

/-!
# The numbers that decimals stand for

A decimal stands for its signed coefficient times a power of ten. Exact products, sums and
hundredths of decimals stand for those of the numbers, and whole parts are taken of the
numbers too. The size of a decimal places its number between two powers of ten.
-/

namespace StudioQuote.Number

theorem length_natDigits_of_lt {n : Nat} (h : n < 10) : (natDigits n).length = 1 :=
  congrArg List.length (Nat.toDigits_of_lt_base h)

theorem length_natDigits_of_le {n : Nat} (h : 10 ≤ n) :
    (natDigits n).length = (natDigits (n / 10)).length + 1 := by
  rw [natDigits, Nat.toDigits_of_base_le (by decide) h, List.length_append]
  rfl

theorem lt_pow_length_natDigits (n : Nat) : n < 10 ^ (natDigits n).length := by
  induction n using Nat.strongRecOn with
  | ind n ih =>
    obtain hlt | hle := Nat.lt_or_ge n 10
    · rw [length_natDigits_of_lt hlt]
      exact hlt
    · have hrest := ih (n / 10) (by omega)
      rw [length_natDigits_of_le hle, Nat.pow_succ]
      omega

theorem pow_length_natDigits_le {n : Nat} (hn : n ≠ 0) :
    10 ^ (natDigits n).length ≤ 10 * n := by
  induction n using Nat.strongRecOn with
  | ind n ih =>
    obtain hlt | hle := Nat.lt_or_ge n 10
    · rw [length_natDigits_of_lt hlt]
      omega
    · have hrest := ih (n / 10) (by omega) (by omega)
      rw [length_natDigits_of_le hle, Nat.pow_succ]
      omega

theorem signed_mul (a b : Bool) (m n : Nat) :
    signed (a != b) (m * n) = signed a m * signed b n := by
  cases a with
  | false =>
    cases b with
    | false => simp [signed]
    | true => simp [signed]
  | true =>
    cases b with
    | false => simp [signed]
    | true => simp [signed]

theorem natAbs_signed (a : Bool) (n : Nat) : (signed a n).natAbs = n := by
  cases a with
  | false => rfl
  | true => simp [signed]

theorem signed_decide_natAbs (n : Int) : signed (decide (n < 0)) n.natAbs = n := by
  rw [signed]
  by_cases h : n < 0
  · rw [decide_eq_true h, if_pos rfl]
    omega
  · rw [decide_eq_false h, if_neg Bool.false_ne_true]
    omega

theorem ten_pow_pos (e : Int) : (0 : ℚ) < 10 ^ e :=
  zpow_pos (by norm_num) e

theorem ten_pow_add (e f : Int) : (10 : ℚ) ^ (e + f) = 10 ^ e * 10 ^ f :=
  zpow_add₀ (by norm_num) e f

theorem ten_pow_le {e f : Int} (h : e ≤ f) : (10 : ℚ) ^ e ≤ 10 ^ f :=
  zpow_le_zpow_right₀ (by norm_num) h

theorem ten_pow_eq_mul (e : Int) : (10 : ℚ) ^ e = 10 * 10 ^ (e - 1) := by
  rw [← zpow_one_add₀ (by norm_num), add_sub_cancel]

theorem ten_pow_natCast (n : Nat) : (10 : ℚ) ^ (n : Int) = 10 ^ n :=
  zpow_natCast 10 n

theorem abs_mul_le_ten_pow {x y : ℚ} {j k : Nat} (hx : |x| ≤ 10 ^ k) (hy : |y| ≤ 10 ^ j) :
    |x * y| ≤ 10 ^ (j + k) := by
  rw [abs_mul, add_comm, pow_add]
  exact mul_le_mul hx hy (abs_nonneg y) (by positivity)

namespace Decimal

/-- The number that a decimal stands for. -/
def toRat (d : Decimal) : ℚ :=
  d.signedCoefficient * 10 ^ d.exponent

theorem toRat_ofInt (n : Int) : (ofInt n).toRat = n := by
  have hcoefficient : (ofInt n).signedCoefficient = n := signed_decide_natAbs n
  rw [toRat, hcoefficient]
  simp [ofInt]

theorem toRat_eq_zero {d : Decimal} (h : d.coefficient = 0) : d.toRat = 0 := by
  rw [toRat, signedCoefficient, h]
  cases d.negative <;> simp [signed]

theorem abs_toRat (d : Decimal) : |d.toRat| = d.coefficient * 10 ^ d.exponent := by
  have hcoefficient : |(d.signedCoefficient : ℚ)| = d.coefficient := by
    rw [← Int.cast_abs, ← Nat.cast_natAbs, signedCoefficient, natAbs_signed]
  rw [toRat, abs_mul, hcoefficient, abs_of_pos (ten_pow_pos _)]

/-! ## Exact results -/

/-- The product before it is rounded. -/
def exactProduct (a b : Decimal) : Decimal :=
  ⟨a.negative != b.negative, a.coefficient * b.coefficient, a.exponent + b.exponent⟩

theorem mul_eq_rounded (a b : Decimal) : a.mul b = (a.exactProduct b).rounded :=
  rfl

theorem toRat_exactProduct (a b : Decimal) : (a.exactProduct b).toRat = a.toRat * b.toRat := by
  have hcoefficient : (a.exactProduct b).signedCoefficient =
      a.signedCoefficient * b.signedCoefficient :=
    signed_mul ..
  have hexponent : (a.exactProduct b).exponent = a.exponent + b.exponent := rfl
  rw [toRat, toRat, toRat, hcoefficient, hexponent, ten_pow_add]
  push_cast
  ring

theorem toRat_rescaled (d : Decimal) {e : Int} (h : e ≤ d.exponent) :
    (d.rescaled e : ℚ) * 10 ^ e = d.toRat := by
  obtain ⟨k, hk⟩ := Int.eq_ofNat_of_zero_le (Int.sub_nonneg_of_le h)
  have hexponent : d.exponent = k + e := by omega
  rw [rescaled, toRat, hk, Int.toNat_natCast, hexponent, ten_pow_add, ten_pow_natCast]
  push_cast
  ring

theorem toRat_exactSum (a b : Decimal) : (a.exactSum b).toRat = a.toRat + b.toRat := by
  have hcoefficient : (a.exactSum b).signedCoefficient =
      a.rescaled (min a.exponent b.exponent) + b.rescaled (min a.exponent b.exponent) :=
    signed_decide_natAbs _
  have hexponent : (a.exactSum b).exponent = min a.exponent b.exponent := rfl
  rw [toRat, hcoefficient, hexponent, Int.cast_add, add_mul, toRat_rescaled a (Int.min_le_left ..),
    toRat_rescaled b (Int.min_le_right ..)]

/-- The hundredth before it is rounded. -/
def exactHundredth (d : Decimal) : Decimal :=
  { d with exponent := d.exponent - 2 }

theorem hundredth_eq_rounded (d : Decimal) : d.hundredth = d.exactHundredth.rounded :=
  rfl

theorem toRat_exactHundredth (d : Decimal) : d.exactHundredth.toRat = d.toRat / 100 := by
  have hexponent : d.exactHundredth.exponent = d.exponent + -2 := rfl
  have hhundred : (10 : ℚ) ^ (-2 : Int) = 1 / 100 := by norm_num
  have hcoefficient : d.exactHundredth.signedCoefficient = d.signedCoefficient := rfl
  rw [toRat, toRat, hexponent, hcoefficient, ten_pow_add, hhundred]
  ring

/-! ## Sizes -/

theorem abs_toRat_lt (d : Decimal) : |d.toRat| < 10 ^ (d.exponent + d.size) := by
  have hsize : (d.coefficient : ℚ) < 10 ^ d.size := by
    exact_mod_cast lt_pow_length_natDigits d.coefficient
  rw [abs_toRat, add_comm, ten_pow_add, ten_pow_natCast]
  exact mul_lt_mul_of_pos_right hsize (ten_pow_pos _)

theorem size_pos (d : Decimal) : 0 < d.size :=
  List.length_pos_iff.mpr Nat.toDigits_ne_nil

theorem le_abs_toRat {d : Decimal} (h : d.coefficient ≠ 0) :
    10 ^ (d.exponent + d.size - 1) ≤ |d.toRat| := by
  have hsize : (10 : ℚ) ^ d.size ≤ 10 * d.coefficient := by
    exact_mod_cast pow_length_natDigits_le h
  have hten := le_of_lt (ten_pow_pos (d.exponent - 1))
  have hfirst : (10 : ℚ) ^ (d.exponent + d.size - 1) = 10 ^ d.size * 10 ^ (d.exponent - 1) := by
    rw [← ten_pow_natCast, ← ten_pow_add]
    congr 1
    omega
  calc (10 : ℚ) ^ (d.exponent + d.size - 1)
      = 10 ^ d.size * 10 ^ (d.exponent - 1) := hfirst
    _ ≤ 10 * d.coefficient * 10 ^ (d.exponent - 1) := mul_le_mul_of_nonneg_right hsize hten
    _ = d.coefficient * 10 ^ d.exponent := by rw [ten_pow_eq_mul d.exponent]; ring
    _ = |d.toRat| := d.abs_toRat.symm

/-- A result is too large from the power of ten on that the first digit may not reach. -/
theorem isTooLarge_iff {d : Decimal} :
    d.isTooLarge = true ↔ (10 : ℚ) ^ (maxExponent + 1) ≤ |d.toRat| := by
  rw [isTooLarge, Bool.and_eq_true, bne_iff_ne, decide_eq_true_iff]
  constructor
  · rintro ⟨hne, hlarge⟩
    exact le_trans (ten_pow_le (by omega)) (le_abs_toRat hne)
  · intro hle
    have hne : d.coefficient ≠ 0 := by
      intro hzero
      rw [toRat_eq_zero hzero, abs_zero] at hle
      exact absurd (ten_pow_pos _) (not_lt.mpr hle)
    refine ⟨hne, ?_⟩
    have hlt := lt_of_le_of_lt hle d.abs_toRat_lt
    rw [zpow_lt_zpow_iff_right₀ (by norm_num)] at hlt
    omega

theorem isTooLarge_eq_false_iff {d : Decimal} :
    d.isTooLarge = false ↔ |d.toRat| < 10 ^ (maxExponent + 1) := by
  rw [← Bool.not_eq_true, isTooLarge_iff, not_le]

theorem isTooLarge_eq_false {d : Decimal} {n : Nat} (hn : (n : Int) ≤ maxExponent + 1)
    (h : |d.toRat| < 10 ^ n) : d.isTooLarge = false := by
  rw [← ten_pow_natCast] at h
  exact isTooLarge_eq_false_iff.mpr (lt_of_lt_of_le h (ten_pow_le hn))

theorem isTooLarge_eq_false_of_le {d : Decimal} {n : Nat} (hn : (n : Int) ≤ maxExponent)
    (h : |d.toRat| ≤ 10 ^ n) : d.isTooLarge = false := by
  have hstep : (10 : ℚ) ^ n < 10 ^ (n + 1) := pow_lt_pow_right₀ (by norm_num) n.lt_succ_self
  exact isTooLarge_eq_false (by push_cast; omega) (lt_of_le_of_lt h hstep)

/-! ## Whole parts -/

/-- A number without its fraction. -/
def wholePart (x : ℚ) : ℤ :=
  if 0 ≤ x then ⌊x⌋ else ⌈x⌉

theorem toRat_of_nonneg {d : Decimal} (h : 0 ≤ d.exponent) :
    d.toRat = ((d.signedCoefficient * 10 ^ d.exponent.toNat : Int) : ℚ) := by
  obtain ⟨k, hk⟩ := Int.eq_ofNat_of_zero_le h
  rw [toRat, hk, Int.toNat_natCast, ten_pow_natCast]
  push_cast
  rfl

theorem toRat_of_neg {d : Decimal} (h : ¬ 0 ≤ d.exponent) :
    d.toRat = (d.signedCoefficient : ℚ) / ((10 ^ (-d.exponent).toNat : Int) : ℚ) := by
  obtain ⟨k, hk⟩ := Int.eq_ofNat_of_zero_le (show 0 ≤ -d.exponent by omega)
  have hexponent : d.exponent = -(k : Int) := by omega
  rw [toRat, hk, Int.toNat_natCast, hexponent, zpow_neg, ten_pow_natCast]
  push_cast
  rfl

theorem abs_toRat_lt_one {d : Decimal} (h : d.exponent + d.size ≤ 0) : |d.toRat| < 1 := by
  have hlt := d.abs_toRat_lt
  have hle : (10 : ℚ) ^ (d.exponent + d.size) ≤ 10 ^ (0 : Int) := ten_pow_le h
  rw [zpow_zero] at hle
  exact lt_of_lt_of_le hlt hle

theorem toRat_nonneg {d : Decimal} (h : d.negative = false) : 0 ≤ d.toRat := by
  have hsame : d.signedCoefficient = d.coefficient := by
    rw [signedCoefficient, signed, h, if_neg Bool.false_ne_true]
  have hten := ten_pow_pos d.exponent
  rw [toRat, hsame]
  positivity

theorem toRat_neg {d : Decimal} (hne : d.coefficient ≠ 0) (h : d.negative = true) :
    d.toRat < 0 := by
  have hopposite : d.signedCoefficient = -d.coefficient := by
    rw [signedCoefficient, signed, h, if_pos rfl]
  have hpos : (0 : ℚ) < d.coefficient := Nat.cast_pos.mpr (Nat.pos_of_ne_zero hne)
  rw [toRat, hopposite, Int.cast_neg, Int.cast_natCast, neg_mul, neg_lt_zero]
  exact mul_pos hpos (ten_pow_pos _)

theorem floor_toRat_of_small {d : Decimal} (hne : d.coefficient ≠ 0)
    (h : d.exponent + d.size ≤ 0) : ⌊d.toRat⌋ = if d.negative then -1 else 0 := by
  obtain ⟨hlower, hupper⟩ := abs_lt.mp (abs_toRat_lt_one h)
  cases hnegative : d.negative with
  | true =>
    have hlt := toRat_neg hne hnegative
    rw [if_pos rfl, Int.floor_eq_iff]
    push_cast
    constructor
    · linarith
    · linarith
  | false =>
    rw [if_neg Bool.false_ne_true, Int.floor_eq_zero_iff]
    exact ⟨toRat_nonneg hnegative, hupper⟩

theorem floor_eq (d : Decimal) : d.floor = ⌊d.toRat⌋ := by
  rw [floor]
  split
  · rename_i hzero
    rw [toRat_eq_zero hzero, Int.floor_zero]
  · rename_i hne
    split
    · rename_i hexponent
      rw [toRat_of_nonneg hexponent, Int.floor_intCast]
    · rename_i hexponent
      split
      · rename_i hsmall
        exact (floor_toRat_of_small hne hsmall).symm
      · rw [toRat_of_neg hexponent, Int.fdiv_eq_ediv_of_nonneg _ (by positivity)]
        exact (Rat.floor_intCast_div_natCast _ _).symm

theorem wholePart_intCast (n : Int) : wholePart n = n := by
  simp [wholePart]

theorem wholePart_neg (x : ℚ) : wholePart (-x) = -wholePart x := by
  obtain hneg | rfl | hpos := lt_trichotomy x 0
  · rw [wholePart, wholePart, if_pos (by linarith), if_neg (not_le.mpr hneg), Int.floor_neg]
  · simp [wholePart]
  · rw [wholePart, wholePart, if_neg (by linarith), if_pos (le_of_lt hpos), Int.ceil_neg]

theorem wholePart_eq_zero {x : ℚ} (h : |x| < 1) : wholePart x = 0 := by
  obtain ⟨hlower, hupper⟩ := abs_lt.mp h
  rw [wholePart]
  split
  · rename_i hle
    exact Int.floor_eq_zero_iff.mpr ⟨hle, hupper⟩
  · rename_i hlt
    rw [Int.ceil_eq_zero_iff]
    exact ⟨hlower, by linarith⟩

theorem wholePart_nonneg {x : ℚ} (h : 0 ≤ x) : 0 ≤ wholePart x := by
  rw [wholePart, if_pos h]
  exact Int.floor_nonneg.mpr h

theorem abs_wholePart_le (x : ℚ) : |(wholePart x : ℚ)| ≤ |x| := by
  rw [wholePart]
  split
  · rename_i hle
    have hfloor : (0 : ℚ) ≤ ⌊x⌋ := Int.cast_nonneg (Int.floor_nonneg.mpr hle)
    exact abs_le_abs_of_nonneg hfloor (Int.floor_le x)
  · rename_i hlt
    have hceil : (⌈x⌉ : ℚ) ≤ 0 := Int.cast_nonpos.mpr (Int.ceil_le.mpr (by push_cast; linarith))
    exact abs_le_abs_of_nonpos hceil (Int.le_ceil x)

theorem tdiv_eq_wholePart (n : Int) (d : Nat) : n.tdiv d = wholePart ((n : ℚ) / d) := by
  obtain ⟨k, rfl | rfl⟩ := n.eq_nat_or_neg
  · have hle : (0 : ℚ) ≤ (k : Int) / d := by positivity
    rw [wholePart, if_pos hle, Rat.floor_intCast_div_natCast, Int.tdiv_eq_ediv_of_nonneg (by omega)]
  · have hle : (0 : ℚ) ≤ (k : Int) / d := by positivity
    rw [Int.neg_tdiv, Int.cast_neg, neg_div, wholePart_neg, wholePart, if_pos hle,
      Rat.floor_intCast_div_natCast, Int.tdiv_eq_ediv_of_nonneg (by omega)]

theorem truncate_eq (d : Decimal) : d.truncate = wholePart d.toRat := by
  rw [truncate]
  split
  · rename_i hzero
    rw [toRat_eq_zero hzero]
    exact (wholePart_intCast 0).symm
  · split
    · rename_i hexponent
      rw [toRat_of_nonneg hexponent, wholePart_intCast]
    · rename_i hexponent
      split
      · rename_i hsmall
        rw [wholePart_eq_zero (abs_toRat_lt_one hsmall)]
      · rw [toRat_of_neg hexponent]
        exact tdiv_eq_wholePart _ (10 ^ _)

end Decimal

end StudioQuote.Number
