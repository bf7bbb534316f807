import Mathlib.Algebra.Order.Field.Power
import Mathlib.Algebra.Order.Ring.Rat
import Mathlib.Order.WithBot
import StudioQuote.Number.Binary64

/-!
# Numbers of either kind on one line

An integer stands for itself and a finite floating-point value for its significand times a
power of two. The infinite values stand at the ends of the line, and what is no number stands
nowhere on it. Quantities are compared as these numbers are, so nothing is rounded when an
integer meets a floating-point value.
-/

namespace StudioQuote.Number

/-- The rational numbers with an end on either side. -/
abbrev Line := WithBot (WithTop ℚ)

namespace Quantity

/-- The number that a quantity stands for. -/
def value? : Quantity → Option Line
  | .int n => some ((n : ℚ) : WithTop ℚ)
  | .float (.finite negative significand exponent _) =>
    some ((signed negative significand * 2 ^ ((exponent : Int) - 1074) : ℚ) : WithTop ℚ)
  | .float (.infinite negative) => some (if negative then ⊥ else ⊤)
  | .float .nan => none

/-! ## Positions -/

def Position.value : Position → Line
  | .below => ⊥
  | .at units => ((units * 2 ^ (-1074 : Int) : ℚ) : WithTop ℚ)
  | .above => ⊤

theorem Position.cmp_at (a b : Int) :
    cmp (Position.at a).value (Position.at b).value = Ord.compare a b := by
  have hmono : StrictMono fun units : Int => (Position.at units).value := by
    intro a b h
    have hunit : (0 : ℚ) < 2 ^ (-1074 : Int) := zpow_pos two_pos _
    have hunits : (a : ℚ) * 2 ^ (-1074 : Int) < b * 2 ^ (-1074 : Int) :=
      mul_lt_mul_of_pos_right (Int.cast_lt.mpr h) hunit
    exact WithBot.coe_lt_coe.mpr (WithTop.coe_lt_coe.mpr hunits)
  rw [hmono.cmp_map_eq, cmp_eq_compare]

theorem Position.compare_eq_cmp (p q : Position) : p.compare q = cmp p.value q.value := by
  have hends : (⊥ : Line) < ⊤ := bot_lt_top
  have hbelow : ∀ x : ℚ, (⊥ : Line) < (x : WithTop ℚ) := fun x => WithBot.bot_lt_coe _
  have habove : ∀ x : ℚ, ((x : WithTop ℚ) : Line) < ⊤ :=
    fun x => WithBot.coe_lt_coe.mpr (WithTop.coe_lt_top x)
  cases p with
  | below =>
    cases q with
    | below => exact (cmp_self_eq_eq _).symm
    | «at» b => exact (hbelow _).cmp_eq_lt.symm
    | above => exact hends.cmp_eq_lt.symm
  | «at» a =>
    cases q with
    | below => exact (hbelow _).cmp_eq_gt.symm
    | «at» b => exact (cmp_at a b).symm
    | above => exact (habove _).cmp_eq_lt.symm
  | above =>
    cases q with
    | below => exact hends.cmp_eq_gt.symm
    | «at» b => exact (habove _).cmp_eq_gt.symm
    | above => exact (cmp_self_eq_eq _).symm

theorem natCast_two_pow (k : Nat) : ((2 ^ k : Nat) : ℚ) = 2 ^ (k : Int) := by
  rw [zpow_natCast]
  exact Nat.cast_pow 2 k

theorem signed_mul_two_pow (negative : Bool) (n k : Nat) :
    ((signed negative (n * 2 ^ k) : Int) : ℚ) = signed negative n * 2 ^ (k : Int) := by
  rw [← natCast_two_pow]
  cases negative with
  | false => exact_mod_cast Nat.cast_mul n (2 ^ k)
  | true =>
    rw [signed, signed, if_pos rfl, if_pos rfl, Int.cast_neg, Int.cast_neg, neg_mul]
    exact_mod_cast congrArg Neg.neg (Nat.cast_mul n (2 ^ k))

theorem value?_eq_map (a : Quantity) : a.value? = a.position?.map Position.value := by
  have hone : (2 : ℚ) ^ ((1074 : Nat) : Int) * 2 ^ (-1074 : Int) = 1 := by
    rw [← zpow_add₀ two_ne_zero]
    rfl
  cases a with
  | int n =>
    have hunits : (((n * Binary64.unit : Int) : ℚ)) * 2 ^ (-1074 : Int) = n := by
      rw [Int.cast_mul, Int.cast_natCast, Binary64.unit, natCast_two_pow, mul_assoc, hone, mul_one]
    rw [position?, Option.map_some, Position.value, hunits, value?]
  | float x =>
    cases x with
    | finite negative significand exponent canonical =>
      rw [position?, Option.map_some, Position.value, signed_mul_two_pow, mul_assoc,
        ← zpow_add₀ two_ne_zero, value?, sub_eq_add_neg]
    | infinite negative => cases negative <;> rfl
    | nan => rfl

theorem compare?_eq_bind (a b : Quantity) :
    a.compare? b = a.position?.bind fun p => b.position?.map p.compare := by
  rw [compare?]
  cases a.position? <;> cases b.position? <;> rfl

theorem compare?_eq_some_iff {a b : Quantity} {o : Ordering} :
    a.compare? b = some o ↔ ∃ x y, a.value? = some x ∧ b.value? = some y ∧ cmp x y = o := by
  rw [compare?_eq_bind, value?_eq_map, value?_eq_map]
  constructor
  · intro h
    obtain ⟨p, hp, h⟩ := Option.bind_eq_some_iff.mp h
    obtain ⟨q, hq, rfl⟩ := Option.map_eq_some_iff.mp h
    rw [hp, hq]
    exact ⟨p.value, q.value, rfl, rfl, (Position.compare_eq_cmp p q).symm⟩
  · rintro ⟨x, y, hx, hy, rfl⟩
    obtain ⟨p, hp, rfl⟩ := Option.map_eq_some_iff.mp hx
    obtain ⟨q, hq, rfl⟩ := Option.map_eq_some_iff.mp hy
    rw [hp, hq, ← Position.compare_eq_cmp]
    rfl

end Quantity

end StudioQuote.Number
