import StudioQuote.Proofs.Number.Nearest

/-!
# Ties go to the even neighbour

Of two results that are equally near, a decimal is rounded to the one that is an even multiple
of the gap between them. Only one of the two is. So what a decimal is rounded to depends on its
number alone and not on the digits it is written with, and rounding keeps the order of numbers
also where they are equal.
-/

namespace StudioQuote.Number

theorem even_roundHalfEven {n d : Nat} (hd : 0 < d)
    (htie : 2 * n + d = 2 * (roundHalfEven n d * d) ∨ 2 * n = 2 * (roundHalfEven n d * d) + d) :
    roundHalfEven n d % 2 = 0 := by
  have hdivision : n / d * d + n % d = n := Nat.div_add_mod' n d
  have hremainder : n % d < d := Nat.mod_lt n hd
  rw [roundHalfEven] at *
  split at htie
  · omega
  · split at htie
    · rw [Nat.add_mul] at htie
      omega
    · rename_i hbelow habove
      rw [if_neg hbelow, if_neg habove]
      omega

/-- Of the results nearest to `x`, `p` is the one that is an even multiple of their gap. -/
structure RoundsHalfEven (x p : ℚ) : Prop extends Rounds x p where
  even : ∀ q, IsResult q → q ≠ p → |q - x| = |p - x| → ∃ k : Int, p = 2 * k * (p - q)

namespace RoundsHalfEven

variable {x y p q : ℚ}

theorem self (hx : IsResult x) : RoundsHalfEven x x := by
  refine ⟨Rounds.self hx, ?_⟩
  intro q _ hne hdistance
  rw [sub_self, abs_zero, abs_eq_zero, sub_eq_zero] at hdistance
  exact absurd hdistance hne

theorem unique (hp : RoundsHalfEven x p) (hq : RoundsHalfEven x q) : p = q := by
  by_contra hne
  have hdistance : |q - x| = |p - x| :=
    le_antisymm (hq.nearest p hp.isResult) (hp.nearest q hq.isResult)
  obtain ⟨k, hk⟩ := hp.even q hq.isResult (Ne.symm hne) hdistance
  obtain ⟨m, hm⟩ := hq.even p hp.isResult hne hdistance.symm
  -- The gap would be an even multiple of itself.
  have hgap : (2 * (k + m) : ℚ) * (p - q) = 1 * (p - q) := by linarith
  have hone : (2 * (k + m) : ℚ) = 1 := mul_right_cancel₀ (sub_ne_zero.mpr hne) hgap
  norm_cast at hone
  omega

theorem mono (hx : RoundsHalfEven x p) (hy : RoundsHalfEven y q) (hle : x ≤ y) : p ≤ q := by
  obtain rfl | hlt := eq_or_lt_of_le hle
  · exact le_of_eq (hx.unique hy)
  · exact hx.toRounds.mono hy.toRounds hlt

end RoundsHalfEven

namespace OnGrid

variable {x : ℚ} {n e : Int}

theorem multiple_of_near (h : OnGrid x n e) {z : ℚ} (hz : IsResult z)
    (hnear : |z - x| ≤ |(n : ℚ) * 10 ^ e - x|) : ∃ m : Int, z = m * 10 ^ e := by
  obtain hmultiple | ⟨hleast, hsmall⟩ := hz.multiple_or_small e
  · exact hmultiple
  · have hle := h.add_le_of_large (by omega) z
    have habs : |z| = 10 ^ (e + 27) := le_antisymm hsmall (by linarith)
    have hunit : (10 : ℚ) ^ (e + 27) = (10 ^ 27 : Int) * 10 ^ e := by
      rw [add_comm, ten_pow_add]
      norm_num
    rw [hunit] at habs
    obtain heq | heq := eq_or_eq_neg_of_abs_eq habs
    · exact ⟨10 ^ 27, heq⟩
    · refine ⟨-10 ^ 27, ?_⟩
      rw [heq]
      push_cast
      ring

/-- Another result that is as near is a neighbour on the grid, and `x` lies midway. -/
theorem neighbour_of_near (h : OnGrid x n e) {z : ℚ} (hz : IsResult z)
    (hne : z ≠ n * 10 ^ e) (hnear : |z - x| = |(n : ℚ) * 10 ^ e - x|) :
    z = (n + 1) * 10 ^ e ∧ 2 * x = (2 * n + 1) * 10 ^ e ∨
      z = (n - 1) * 10 ^ e ∧ 2 * x = (2 * n - 1) * 10 ^ e := by
  obtain ⟨m, rfl⟩ := h.multiple_of_near hz (le_of_eq hnear)
  have hmiddle : 2 * x = (m + n : Int) * 10 ^ e := by
    obtain hsame | hopposite := abs_eq_abs.mp hnear
    · exact absurd (sub_left_injective hsame) hne
    · push_cast
      linarith
  have hten := ten_pow_pos e
  have hbelow : 2 * n - 1 ≤ m + n := by
    have hle := h.below
    rw [hmiddle] at hle
    exact_mod_cast le_of_mul_le_mul_right hle hten
  have habove : m + n ≤ 2 * n + 1 := by
    have hle := h.above
    rw [hmiddle] at hle
    exact_mod_cast le_of_mul_le_mul_right hle hten
  have hdiffers : m ≠ n := by
    rintro rfl
    exact hne rfl
  obtain hm | hm : m = n + 1 ∨ m = n - 1 := by omega
  · left
    subst hm
    rw [hmiddle]
    push_cast
    exact ⟨rfl, by ring⟩
  · right
    subst hm
    rw [hmiddle]
    push_cast
    exact ⟨rfl, by ring⟩

theorem roundsHalfEven (h : OnGrid x n e)
    (heven : 2 * x = (2 * n + 1) * 10 ^ e ∨ 2 * x = (2 * n - 1) * 10 ^ e → Even n) :
    RoundsHalfEven x (n * 10 ^ e) := by
  refine ⟨h.rounds, ?_⟩
  intro q hq hne hnear
  obtain ⟨rfl, hmiddle⟩ | ⟨rfl, hmiddle⟩ := h.neighbour_of_near hq hne hnear
  · obtain ⟨k, rfl⟩ := heven (Or.inl hmiddle)
    refine ⟨-k, ?_⟩
    push_cast
    ring
  · obtain ⟨k, rfl⟩ := heven (Or.inr hmiddle)
    refine ⟨k, ?_⟩
    push_cast
    ring

end OnGrid

namespace Decimal

/-- Where the digits that are left out are half a unit, the last digit that is kept is even. -/
theorem even_of_midway {d : Decimal}
    (h : 2 * d.toRat = (2 * d.rounded.signedCoefficient + 1) * 10 ^ (d.exponent + d.excess) ∨
      2 * d.toRat = (2 * d.rounded.signedCoefficient - 1) * 10 ^ (d.exponent + d.excess)) :
    Even d.rounded.signedCoefficient := by
  have hrounded : d.rounded.signedCoefficient =
      signed d.negative (roundHalfEven d.coefficient (10 ^ d.excess)) := by
    rw [← withoutDigits_eq]
    rfl
  have hunit : (10 : ℚ) ^ (d.exponent + d.excess) =
      ((10 ^ d.excess : Nat) : Int) * 10 ^ d.exponent := by
    rw [add_comm, ten_pow_add, ten_pow_natCast]
    push_cast
    rfl
  have hten := ne_of_gt (ten_pow_pos d.exponent)
  rw [hunit, toRat, signedCoefficient, hrounded, ← mul_assoc, ← mul_assoc, ← mul_assoc,
    mul_left_inj' hten, mul_left_inj' hten] at h
  norm_cast at h
  have hmod : roundHalfEven d.coefficient (10 ^ d.excess) % 2 = 0 := by
    apply even_roundHalfEven (Nat.pow_pos (by decide))
    generalize roundHalfEven d.coefficient (10 ^ d.excess) = r at h
    generalize 10 ^ d.excess = u at h
    zify
    cases hnegative : d.negative with
    | true =>
      simp only [hnegative, signed, if_true] at h
      exact h.imp (fun h => by linarith) (fun h => by linarith)
    | false =>
      simp only [hnegative, signed, Bool.false_eq_true, if_false] at h
      exact h.symm.imp (fun h => by linarith) (fun h => by linarith)
  rw [hrounded, ← Int.natAbs_even, natAbs_signed]
  exact Nat.even_iff.mpr hmod

theorem rounds_rounded (d : Decimal) : RoundsHalfEven d.toRat d.rounded.toRat := by
  obtain hzero | hpos := Nat.eq_zero_or_pos d.excess
  · rw [rounded_of_excess hzero]
    exact RoundsHalfEven.self (isResult_of_excess hzero)
  · exact (onGrid_of_excess hpos).roundsHalfEven even_of_midway

end Decimal

end StudioQuote.Number
