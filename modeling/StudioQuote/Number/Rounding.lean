/-!
# Rounding a quotient to the nearest integer

Ties go to the even neighbour. The result is the quotient or its successor,
and a quotient without remainder is its own rounding. The binary and the
decimal formats both round through this one function.
-/

namespace StudioQuote.Number

/-- The integer nearest `n / d`, of two equally near ones the even one. -/
def roundHalfEven (n d : Nat) : Nat :=
  if 2 * (n % d) < d then n / d
  else if d < 2 * (n % d) then n / d + 1
  else n / d + n / d % 2

theorem roundHalfEven_le (n d : Nat) : roundHalfEven n d ≤ n / d + 1 := by
  unfold roundHalfEven
  split
  · omega
  · split <;> omega

theorem roundHalfEven_mul (q : Nat) {d : Nat} (hd : 0 < d) : roundHalfEven (q * d) d = q := by
  have hr : q * d % d = 0 := Nat.mul_mod_left q d
  have hq : q * d / d = q := Nat.mul_div_cancel q hd
  simp [roundHalfEven, hr, hq, hd]

end StudioQuote.Number
