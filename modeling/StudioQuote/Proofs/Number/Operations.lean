import StudioQuote.Proofs.Number.HalfEven

/-!
# Products, hundredths and sums are nearest

A product and a hundredth are computed exactly before they are rounded. In a sum, a number far
below the last digit of the other counts as one unit thirty-one places below that digit. The
sum that is rounded then lies on the same side as the exact one of every number between which
rounding distinguishes, and neither of them lies midway.
-/

namespace StudioQuote.Number

/-- Every multiple of a unit that bounds `x` from one side bounds `y` from that side. -/
def SameSides (u x y : ℚ) : Prop :=
  ∀ k : Int, (k * u ≤ x → k * u ≤ y) ∧ (x ≤ k * u → y ≤ k * u)

namespace SameSides

variable {u s t : ℚ}

theorem of_nonneg (m : Int) (hu : 0 < u) (ht : 0 ≤ t) (hle : t ≤ s) (hs : s < u) :
    SameSides u (m * u + s) (m * u + t) := by
  intro k
  constructor
  · intro hk
    have hlt : (k : ℚ) < (m + 1 : Int) := by
      push_cast
      nlinarith
    have hkm : (k : ℚ) ≤ m := by exact_mod_cast Int.lt_add_one_iff.mp (Int.cast_lt.mp hlt)
    nlinarith
  · intro hk
    linarith

theorem neg {x y : ℚ} (h : SameSides u x y) : SameSides u (-x) (-y) := by
  intro k
  obtain ⟨hlower, hupper⟩ := h (-k)
  push_cast at hlower hupper
  constructor
  · intro hk
    linarith [hupper (by linarith)]
  · intro hk
    linarith [hlower (by linarith)]

theorem of_nonpos (m : Int) (hu : 0 < u) (ht : t ≤ 0) (hle : s ≤ t) (hs : -u < s) :
    SameSides u (m * u + s) (m * u + t) := by
  have hmirrored := (of_nonneg (-m) hu (neg_nonneg.mpr ht) (neg_le_neg hle) (neg_lt.mp hs)).neg
  push_cast at hmirrored
  rwa [neg_mul, ← neg_add, ← neg_add, neg_neg, neg_neg] at hmirrored

end SameSides

theorem OnGrid.of_sameSides {x y : ℚ} {n e f : Int} (h : OnGrid x n e) (hf : f < e)
    (hsides : SameSides (10 ^ f) x y) : OnGrid y n e := by
  obtain ⟨k, hk⟩ := Int.eq_ofNat_of_zero_le (show 0 ≤ e - f - 1 by omega)
  have hexponent : e = (k : Int) + 1 + f := by omega
  have hunit : (10 : ℚ) ^ e = 10 ^ k * 10 * 10 ^ f := by
    rw [hexponent, ten_pow_add, ten_pow_add, ten_pow_natCast, zpow_one]
  have hlarge : (10 : ℚ) ^ (e + 27) = 10 ^ k * 10 ^ 28 * 10 ^ f := by
    rw [ten_pow_add, hunit]
    norm_num
    ring
  obtain ⟨hbelow, -⟩ := hsides ((2 * n - 1) * 5 * 10 ^ k)
  obtain ⟨-, habove⟩ := hsides ((2 * n + 1) * 5 * 10 ^ k)
  obtain ⟨hpositive, -⟩ := hsides (10 ^ k * 10 ^ 28)
  obtain ⟨-, hnegative⟩ := hsides (-(10 ^ k * 10 ^ 28))
  push_cast at hbelow habove hpositive hnegative
  have hleft := h.below
  have hright := h.above
  rw [hunit] at hleft hright
  refine ⟨h.digits, h.least, ?_, ?_, ?_⟩
  · rw [hunit]
    linarith [hbelow (by linarith)]
  · rw [hunit]
    linarith [habove (by linarith)]
  · rw [hlarge]
    obtain hleast | hlower | hupper := h.large
    · exact Or.inl hleast
    · rw [hlarge] at hlower
      exact Or.inr (Or.inl (hpositive hlower))
    · rw [hlarge, ← neg_mul] at hupper
      rw [← neg_mul]
      exact Or.inr (Or.inr (hnegative hupper))

namespace Decimal

theorem rounds_mul (a b : Decimal) : RoundsHalfEven (a.toRat * b.toRat) (a.mul b).toRat := by
  rw [← toRat_exactProduct, mul_eq_rounded]
  exact rounds_rounded _

theorem rounds_hundredth (d : Decimal) : RoundsHalfEven (d.toRat / 100) d.hundredth.toRat := by
  rw [← toRat_exactHundredth, hundredth_eq_rounded]
  exact rounds_rounded _

theorem abs_toRat_hundredth_le {d : Decimal} {z : ℚ} (hz : IsResult z) (h : |d.toRat| ≤ z * 100) :
    |d.hundredth.toRat| ≤ z := by
  apply (rounds_hundredth d).abs_le_of_le hz
  rw [abs_div, abs_of_pos (show (0 : ℚ) < 100 by norm_num)]
  linarith

/-! ## Sums -/

theorem exactSum_comm (a b : Decimal) : a.exactSum b = b.exactSum a := by
  rw [exactSum, exactSum, min_comm, add_comm (a.rescaled _)]

theorem beside_of_lt {d : Decimal} {e : Int} (h : e - 31 < d.exponent + d.size) :
    d.beside e = d := by
  rw [beside, if_neg]
  rw [precision]
  omega

theorem beside_of_le {d : Decimal} {e : Int} (hne : d.coefficient ≠ 0)
    (h : d.exponent + d.size ≤ e - 31) : d.beside e = ⟨d.negative, 1, e - 31⟩ := by
  have hone : min 1 d.coefficient = 1 := by omega
  have hleast : e - precision - 3 = e - 31 := by rw [precision]; omega
  rw [beside, hleast, if_pos h, hone]

theorem toRat_eq_mul (d : Decimal) (k : Nat) :
    d.toRat = ((d.signedCoefficient * 10 ^ k : Int) : ℚ) * 10 ^ (d.exponent - k) := by
  have hexponent : (10 : ℚ) ^ d.exponent = 10 ^ k * 10 ^ (d.exponent - k) := by
    rw [← ten_pow_natCast, ← ten_pow_add]
    congr 1
    omega
  rw [toRat, hexponent]
  push_cast
  ring

/-- Beside a number, a small one and the unit that it counts as are on the same sides. -/
theorem sameSides_beside {a b : Decimal} (hne : b.coefficient ≠ 0)
    (h : b.exponent + b.size ≤ a.exponent - 31) :
    SameSides (10 ^ (a.exponent - 30)) (a.toRat + (b.beside a.exponent).toRat)
      (a.toRat + b.toRat) := by
  have hsmall : |b.toRat| ≤ 10 ^ (a.exponent - 31) :=
    le_trans (le_of_lt b.abs_toRat_lt) (ten_pow_le h)
  have hunit : (10 : ℚ) ^ (a.exponent - 31) < 10 ^ (a.exponent - 30) :=
    zpow_lt_zpow_right₀ (by norm_num) (by omega)
  obtain ⟨hlower, hupper⟩ := abs_le.mp hsmall
  have hmultiple := a.toRat_eq_mul 30
  rw [Nat.cast_ofNat] at hmultiple
  rw [beside_of_le hne h, hmultiple]
  cases hnegative : b.negative with
  | true =>
    have hlt := toRat_neg hne hnegative
    have hcounted : toRat ⟨true, 1, a.exponent - 31⟩ = -10 ^ (a.exponent - 31) := by
      simp [toRat, signedCoefficient, signed]
    rw [hcounted]
    exact SameSides.of_nonpos _ (ten_pow_pos _) (le_of_lt hlt) hlower (neg_lt_neg hunit)
  | false =>
    have hle := toRat_nonneg hnegative
    have hcounted : toRat ⟨false, 1, a.exponent - 31⟩ = 10 ^ (a.exponent - 31) := by
      simp [toRat, signedCoefficient, signed]
    rw [hcounted]
    exact SameSides.of_nonneg _ (ten_pow_pos _) hle hupper hunit

theorem abs_toRat_beside {b : Decimal} {e : Int} (hne : b.coefficient ≠ 0)
    (h : b.exponent + b.size ≤ e - 31) : |(b.beside e).toRat| = 10 ^ (e - 31) := by
  rw [beside_of_le hne h, abs_toRat]
  simp

theorem exponent_exactSum_beside {a b : Decimal} (hne : b.coefficient ≠ 0)
    (h : b.exponent + b.size ≤ a.exponent - 31) :
    (a.exactSum (b.beside a.exponent)).exponent = a.exponent - 31 := by
  rw [beside_of_le hne h]
  exact min_eq_right (show a.exponent - 31 ≤ a.exponent by omega)

/-- The sum with the counted unit has at least 31 digits. -/
theorem excess_exactSum_beside {a b : Decimal} (ha : a.coefficient ≠ 0) (hb : b.coefficient ≠ 0)
    (h : b.exponent + b.size ≤ a.exponent - 31) :
    3 ≤ (a.exactSum (b.beside a.exponent)).excess := by
  have hexponent := exponent_exactSum_beside (a := a) hb h
  have hlower : (10 : ℚ) ^ (a.exponent - 1) ≤ |(a.exactSum (b.beside a.exponent)).toRat| := by
    have hle : (10 : ℚ) ^ a.exponent ≤ |a.toRat| := by
      have hsize := a.size_pos
      exact le_trans (ten_pow_le (by omega)) (le_abs_toRat ha)
    have hsmall : (10 : ℚ) ^ (a.exponent - 31) ≤ 10 ^ (a.exponent - 1) := ten_pow_le (by omega)
    have hstep := ten_pow_eq_mul a.exponent
    have hpos := ten_pow_pos (a.exponent - 1)
    have hsub := abs_sub_abs_le_abs_sub a.toRat (-(b.beside a.exponent).toRat)
    rw [abs_neg, abs_toRat_beside hb h, sub_neg_eq_add] at hsub
    rw [toRat_exactSum]
    linarith
  have hlt := lt_of_le_of_lt hlower (abs_toRat_lt _)
  rw [zpow_lt_zpow_iff_right₀ (by norm_num), hexponent] at hlt
  rw [excess, precision]
  omega

/-- The small number keeps the sum away from everything midway between multiples of a unit. -/
theorem add_ne_midway {a b : Decimal} (hb : b.coefficient ≠ 0)
    (h : b.exponent + b.size ≤ a.exponent - 31) {e : Int} (he : a.exponent - 30 < e) (k : Int) :
    2 * (a.toRat + b.toRat) ≠ k * 10 ^ e := by
  intro hmidway
  obtain ⟨j, hj⟩ := Int.eq_ofNat_of_zero_le (show 0 ≤ e - (a.exponent - 30) - 1 by omega)
  have hexponent : e = (j : Int) + 1 + (a.exponent - 30) := by omega
  have hmultiple := a.toRat_eq_mul 30
  rw [Nat.cast_ofNat] at hmultiple
  rw [hmultiple, hexponent, ten_pow_add, ten_pow_add, ten_pow_natCast, zpow_one] at hmidway
  have hrest : b.toRat =
      (k * 5 * 10 ^ j - a.signedCoefficient * 10 ^ 30 : Int) * 10 ^ (a.exponent - 30) := by
    push_cast at hmidway ⊢
    linarith
  have hten := ten_pow_pos (a.exponent - 30)
  have hsmall : |b.toRat| < 10 ^ (a.exponent - 30) :=
    lt_of_lt_of_le b.abs_toRat_lt (ten_pow_le (by omega))
  rw [hrest, abs_mul, abs_of_pos hten, mul_lt_iff_lt_one_left hten] at hsmall
  have hzero : k * 5 * 10 ^ j - a.signedCoefficient * 10 ^ 30 = 0 := by
    rw [← Int.abs_lt_one_iff]
    exact_mod_cast hsmall
  have hlarge := le_abs_toRat hb
  rw [hrest, hzero, Int.cast_zero, zero_mul, abs_zero] at hlarge
  exact absurd (ten_pow_pos _) (not_lt.mpr hlarge)

theorem rounds_exactSum_beside {a b : Decimal} (ha : a.coefficient ≠ 0) (hb : b.coefficient ≠ 0) :
    RoundsHalfEven (a.toRat + b.toRat) (a.exactSum (b.beside a.exponent)).rounded.toRat := by
  obtain hsmall | hlarge := le_or_gt (b.exponent + b.size) (a.exponent - 31)
  · have hexcess := excess_exactSum_beside ha hb hsmall
    have hexponent := exponent_exactSum_beside (a := a) hb hsmall
    have hgrid := onGrid_of_excess (show 0 < (a.exactSum (b.beside a.exponent)).excess by omega)
    rw [toRat_exactSum] at hgrid
    apply (hgrid.of_sameSides (by omega) (sameSides_beside hb hsmall)).roundsHalfEven
    have hmidway := add_ne_midway hb hsmall (e := (a.exactSum (b.beside a.exponent)).exponent +
      (a.exactSum (b.beside a.exponent)).excess) (by omega)
    rintro (htie | htie)
    · exact absurd htie (by exact_mod_cast hmidway (2 * _ + 1))
    · exact absurd htie (by exact_mod_cast hmidway (2 * _ - 1))
  · rw [beside_of_lt hlarge, ← toRat_exactSum]
    exact rounds_rounded _

theorem add_of_ne_zero {a b : Decimal} (ha : a.coefficient ≠ 0) (hb : b.coefficient ≠ 0) :
    a.add b = ((a.beside (max a.exponent b.exponent)).exactSum
      (b.beside (max a.exponent b.exponent))).rounded := by
  rw [add, if_neg ha, if_neg hb]

theorem rounds_add (a b : Decimal) : RoundsHalfEven (a.toRat + b.toRat) (a.add b).toRat := by
  by_cases ha : a.coefficient = 0
  · rw [toRat_eq_zero ha, zero_add, add, if_pos ha]
    exact rounds_rounded b
  · by_cases hb : b.coefficient = 0
    · rw [toRat_eq_zero hb, add_zero, add, if_neg ha, if_pos hb]
      exact rounds_rounded a
    · have hsize := a.size_pos
      have hsize' := b.size_pos
      rw [add_of_ne_zero ha hb]
      obtain hle | hle := le_total b.exponent a.exponent
      · rw [max_eq_left hle, beside_of_lt (show a.exponent - 31 < a.exponent + a.size by omega)]
        exact rounds_exactSum_beside ha hb
      · rw [max_eq_right hle, beside_of_lt (show b.exponent - 31 < b.exponent + b.size by omega),
          exactSum_comm, add_comm]
        exact rounds_exactSum_beside hb ha

end Decimal

end StudioQuote.Number
