import Mathlib.Algebra.Group.Nat.Defs
import StudioQuote.Number.Shortest
import StudioQuote.Proofs.Number.DecimalText

/-!
# Written floating-point values read back

A numeral that is read to its end is read as the same numeral in front of whatever cannot
go on with it. The text of a finite value is such a numeral, has a fraction or an exponent
and denotes the value: of the shorter texts one is only taken if it reads back, and the
exact expansion is a quotient without remainder, so nothing is rounded.
-/

namespace StudioQuote.Number

/-! ## A numeral in front of other text -/

theorem digits_append_rest (cs : List Char) {rest : List Char}
    (hrest : ∀ c ∈ rest.head?, c.isDigit = false) :
    digits (cs ++ rest) = ((digits cs).1, (digits cs).2 ++ rest) := by
  have hsplit : cs ++ rest = (digits cs).1 ++ ((digits cs).2 ++ rest) := by
    rw [← List.append_assoc, digits, List.takeWhile_append_dropWhile]
  rw [hsplit]
  refine digits_append (List.all_eq_true.mp List.all_takeWhile) fun c hc => ?_
  cases hcut : (digits cs).2 with
  | nil =>
    rw [hcut, List.nil_append] at hc
    exact hrest c hc
  | cons d ds =>
    rw [hcut, List.cons_append, List.head?_cons, Option.mem_some_iff] at hc
    subst hc
    have hdrop : cs.dropWhile Char.isDigit = d :: ds := hcut
    have hhead := List.head?_dropWhile_not Char.isDigit cs
    rw [hdrop] at hhead
    exact hhead

namespace Numeral

theorem readWhole_append {cs whole more rest : List Char}
    (h : readWhole cs = some (whole, more)) (hrest : ∀ c ∈ rest.head?, c.isDigit = false) :
    readWhole (cs ++ rest) = some (whole, more ++ rest) := by
  rw [readWhole.eq_def] at h
  split at h
  · cases h
    rfl
  · rename_i hzero
    rw [readWhole.eq_def]
    split
    · rename_i tail heq
      cases cs with
      | nil => cases h
      | cons c cs => exact absurd (congrArg (· :: cs) (List.cons.inj heq).1) (hzero cs)
    · rw [digits_append_rest cs hrest]
      cases hcut : digits cs with
      | mk ds tail =>
        rw [hcut] at h
        cases ds with
        | nil => cases h
        | cons d ds =>
          cases h
          rfl

theorem readFraction_append (cs : List Char) {rest : List Char} (hrest : EndsNumber rest) :
    readFraction (cs ++ rest) = ((readFraction cs).1, (readFraction cs).2 ++ rest) := by
  cases cs with
  | nil => exact readFraction_of_ends hrest
  | cons c cs =>
    by_cases hc : c = '.'
    · subst hc
      rw [List.cons_append, readFraction, readFraction,
        digits_append_rest cs fun c hc => (hrest c hc).1]
      cases digits cs with
      | mk ds tail =>
        cases ds with
        | nil => rfl
        | cons d ds => rfl
    · have hnone : ∀ tail, readFraction (c :: tail) = (none, c :: tail) := by
        intro tail
        rw [readFraction.eq_def]
        split
        · rename_i heq
          exact absurd (List.cons.inj heq).1 hc
        · rfl
      rw [List.cons_append, hnone, hnone, List.cons_append]

theorem readSign_cons_append (c : Char) (cs rest : List Char) :
    readSign (c :: cs ++ rest) = ((readSign (c :: cs)).1, (readSign (c :: cs)).2 ++ rest) := by
  rw [List.cons_append, readSign.eq_def, readSign.eq_def]
  split <;> simp_all

theorem readPower_append {cs more rest : List Char} {power : Int}
    (h : readPower cs = some (power, more)) (hrest : ∀ c ∈ rest.head?, c.isDigit = false) :
    readPower (cs ++ rest) = some (power, more ++ rest) := by
  cases cs with
  | nil => cases h
  | cons c cs =>
    rw [readPower] at h ⊢
    rw [readSign_cons_append, digits_append_rest _ hrest]
    cases hcut : digits (readSign (c :: cs)).2 with
    | mk ds tail =>
      rw [hcut] at h
      cases ds with
      | nil => cases h
      | cons d ds =>
        cases h
        rfl

theorem readExponent_append {cs rest : List Char} {exponent : Option Int}
    (h : readExponent cs = (exponent, [])) (hrest : EndsNumber rest) :
    readExponent (cs ++ rest) = (exponent, rest) := by
  cases cs with
  | nil =>
    cases h
    exact readExponent_of_ends hrest
  | cons c cs =>
    rw [readExponent] at h
    rw [List.cons_append, readExponent]
    split at h
    · rename_i hmark
      rw [if_pos hmark]
      cases hpower : readPower cs with
      | none =>
        rw [hpower] at h
        cases h
      | some r =>
        obtain ⟨power, more⟩ := r
        rw [hpower] at h
        cases h
        rw [readPower_append hpower fun c hc => (hrest c hc).1]
        rfl
    · cases h

theorem readUnsigned_append {negative : Bool} {cs rest : List Char} {n : Numeral}
    (h : readUnsigned negative cs = some (n, [])) (hrest : EndsNumber rest) :
    readUnsigned negative (cs ++ rest) = some (n, rest) := by
  have hdigit : ∀ c ∈ rest.head?, c.isDigit = false := fun c hc => (hrest c hc).1
  rw [readUnsigned] at h ⊢
  cases hwhole : readWhole cs with
  | none =>
    rw [hwhole] at h
    cases h
  | some r =>
    obtain ⟨whole, more⟩ := r
    rw [hwhole] at h
    simp only [Option.some.injEq, Prod.mk.injEq] at h
    obtain ⟨hn, hend⟩ := h
    have hexponent := readExponent_append (Prod.ext rfl hend) hrest
    rw [readWhole_append hwhole hdigit]
    simp only [readFraction_append more hrest, hexponent, hn]

theorem read_of_ne {c : Char} (hc : c ≠ '-') (cs : List Char) :
    read (c :: cs) = readUnsigned false (c :: cs) := by
  rw [read.eq_def]
  split
  · rename_i heq
    exact absurd (List.cons.inj heq).1 hc
  · rfl

theorem read_append {cs rest : List Char} {n : Numeral} (h : read cs = some (n, []))
    (hrest : EndsNumber rest) : read (cs ++ rest) = some (n, rest) := by
  cases cs with
  | nil => cases h
  | cons c cs =>
    by_cases hc : c = '-'
    · subst hc
      exact readUnsigned_append h hrest
    · rw [read_of_ne hc] at h
      rw [List.cons_append, read_of_ne hc]
      exact readUnsigned_append h hrest

theorem readWhole_of_not_isDigit {c : Char} (hc : c.isDigit = false) (cs : List Char) :
    readWhole (c :: cs) = none := by
  have hcut : digits (c :: cs) = ([], c :: cs) :=
    digits_append (List.forall_mem_nil _) (by simp [hc])
  rw [readWhole.eq_def]
  split
  · rename_i heq
    rw [(List.cons.inj heq).1] at hc
    exact absurd hc (by decide)
  · rw [hcut]

theorem exists_digit_of_readUnsigned {negative : Bool} {cs : List Char}
    {r : Numeral × List Char} (h : readUnsigned negative cs = some r) :
    ∃ c tail, cs = c :: tail ∧ c.isDigit = true := by
  cases cs with
  | nil => cases h
  | cons c tail =>
    refine ⟨c, tail, rfl, ?_⟩
    cases hc : c.isDigit with
    | true => rfl
    | false =>
      rw [readUnsigned, readWhole_of_not_isDigit hc] at h
      cases h

/-- A numeral begins with a digit, or with a minus sign and a digit. -/
theorem exists_digit_of_read {cs : List Char} {r : Numeral × List Char} (h : read cs = some r) :
    ∃ c tail, c.isDigit = true ∧ (cs = c :: tail ∨ cs = '-' :: c :: tail) := by
  cases cs with
  | nil => cases h
  | cons c cs =>
    by_cases hc : c = '-'
    · subst hc
      obtain ⟨c, tail, rfl, hdigit⟩ := exists_digit_of_readUnsigned h
      exact ⟨c, tail, hdigit, Or.inr rfl⟩
    · rw [read_of_ne hc] at h
      obtain ⟨c, tail, hcs, hdigit⟩ := exists_digit_of_readUnsigned h
      exact ⟨c, tail, hdigit, Or.inl hcs⟩

theorem readPower_intDigits (n : Int) : readPower (intDigits n) = some (n, []) := by
  have hsigned := Decimal.readPower_signed n
  rw [intDigits_eq]
  by_cases hn : n < 0
  · rw [if_pos hn] at hsigned ⊢
    exact hsigned
  · obtain ⟨c, cs, hcs, -⟩ := head_natDigits n.natAbs
    have hc : c.isDigit = true := isDigit_of_mem_natDigits (hcs ▸ List.mem_cons_self)
    rw [if_neg hn, hcs, readPower] at hsigned ⊢
    rw [readSign_of_isDigit hc]
    exact hsigned

/-- Digits with an exponent are a numeral. -/
theorem read_scientific (negative : Bool) (coefficient : Nat) (power : Int) :
    read (Binary64.signText negative ++ natDigits coefficient ++ 'e' :: intDigits power) =
      some (⟨negative, natDigits coefficient, none, some power⟩, []) := by
  have hdigit : ∀ c ∈ ('e' :: intDigits power).head?, c.isDigit = false := by
    intro c hc
    cases hc
    decide
  have hfraction : readFraction ('e' :: intDigits power) = (none, 'e' :: intDigits power) := rfl
  have hexponent : readExponent ('e' :: intDigits power) = (some power, []) := by
    rw [readExponent, if_pos (Or.inl rfl), readPower_intDigits]
  have hbody : readUnsigned negative (natDigits coefficient ++ 'e' :: intDigits power) =
      some (⟨negative, natDigits coefficient, none, some power⟩, []) := by
    rw [readUnsigned, readWhole_natDigits_append _ hdigit]
    simp only [hfraction, hexponent]
  obtain ⟨c, cs, hcs, -⟩ := head_natDigits coefficient
  cases negative with
  | true => exact hbody
  | false =>
    have hdigit : c.isDigit = true := isDigit_of_mem_natDigits (hcs ▸ List.mem_cons_self)
    have hc : c ≠ '-' := ne_of_isDigit hdigit (by decide)
    rw [Binary64.signText, if_neg Bool.false_ne_true, List.nil_append]
    rw [hcs, List.cons_append] at hbody ⊢
    rw [read_of_ne hc, hbody]

end Numeral

/-! ## The text of a finite value -/

namespace Binary64

theorem ofText?_eq_some_iff {cs : List Char} {x : Binary64} :
    ofText? cs = some x ↔
      ∃ n, Numeral.read cs = some (n, []) ∧ n.isInteger = false ∧ ofNumeral n = x := by
  constructor
  · intro h
    rw [ofText?.eq_def] at h
    split at h
    · rename_i n hread
      split at h
      · cases h
      · rename_i hint
        exact ⟨n, hread, Bool.eq_false_iff.mpr hint, Option.some.inj h⟩
    · cases h
  · rintro ⟨n, hread, hint, rfl⟩
    rw [ofText?, hread]
    exact if_neg (by rw [hint]; exact Bool.false_ne_true)

theorem read_exactText (negative : Bool) (units : Nat) :
    Numeral.read (exactText negative units) =
      some (⟨negative, natDigits (expansion units), none, some (-1074)⟩, []) := by
  rw [exactText]
  exact Numeral.read_scientific negative (expansion units) (-1074)

theorem exponentFor_units {significand exponent : Nat} (hpos : significand ≠ 0)
    (h : IsCanonical significand exponent) :
    exponentFor (significand * 2 ^ exponent) = exponent := by
  obtain ⟨hlt, -, hfirst⟩ := h
  have hlog : (significand * 2 ^ exponent).log2 = significand.log2 + exponent := by
    rw [Nat.log2_eq_iff (Nat.mul_ne_zero hpos (Nat.ne_of_gt (Nat.two_pow_pos _)))]
    constructor
    · rw [Nat.pow_add]
      exact Nat.mul_le_mul_right _ (Nat.log2_self_le hpos)
    · rw [Nat.add_right_comm, Nat.pow_add]
      exact Nat.mul_lt_mul_of_pos_right Nat.lt_log2_self (Nat.two_pow_pos _)
  have hupper : significand.log2 < 53 := (Nat.log2_lt hpos).mpr hlt
  rw [exponentFor, hlog]
  rcases hfirst with rfl | hfirst
  · omega
  · have hlower : 52 ≤ significand.log2 := (Nat.le_log2 hpos).mpr hfirst
    omega

theorem expansion_mul_unit (units : Nat) :
    expansion units * unit = units * 10 ^ (1074 : Nat) := by
  rw [expansion, unit]
  generalize 1074 = p
  rw [Nat.mul_assoc, ← Nat.mul_pow]

theorem ofRatio_expansion {negative : Bool} {significand exponent : Nat}
    (hpos : significand ≠ 0) (h : IsCanonical significand exponent) :
    ofRatio negative (expansion (significand * 2 ^ exponent)) (10 ^ (1074 : Nat)) =
      .finite negative significand exponent h := by
  have hpow : ∀ p : Nat, 0 < 10 ^ p := fun p => Nat.pow_pos (by decide)
  have hten := hpow 1074
  have hsplit : significand * 2 ^ exponent * 10 ^ (1074 : Nat) =
      significand * (10 ^ (1074 : Nat) * 2 ^ exponent) := by
    rw [Nat.mul_assoc, Nat.mul_comm (2 ^ exponent)]
  have hne : significand ≠ 2 ^ (53 : Nat) := Nat.ne_of_lt h.1
  rw [ofRatio, expansion_mul_unit, Nat.mul_div_cancel _ hten, exponentFor_units hpos h, hsplit,
    roundHalfEven_mul _ (Nat.mul_pos hten (Nat.two_pow_pos _)), ofRounded]
  simp only [if_neg hne]
  rw [dif_pos h]

theorem two_pow_le_expansion {units : Nat} (h : 0 < units) :
    2 ^ (2 * 1074) ≤ expansion units := by
  rw [expansion]
  generalize 1074 = p
  rw [Nat.pow_mul]
  exact Nat.le_trans (Nat.pow_le_pow_left (by decide) p) (Nat.le_mul_of_pos_left _ h)

theorem ofDecimal_expansion {negative : Bool} {significand exponent : Nat}
    (hpos : significand ≠ 0) (h : IsCanonical significand exponent) :
    ofDecimal negative (expansion (significand * 2 ^ exponent)) (-1074) =
      .finite negative significand exponent h := by
  have hunits : 0 < significand * 2 ^ exponent :=
    Nat.mul_pos (Nat.pos_of_ne_zero hpos) (Nat.two_pow_pos _)
  have hlarge := two_pow_le_expansion hunits
  have hne : expansion (significand * 2 ^ exponent) ≠ 0 :=
    Nat.ne_of_gt (Nat.lt_of_lt_of_le (Nat.two_pow_pos _) hlarge)
  have hlog := (Nat.le_log2 hne).mpr hlarge
  have hdown : (-1074 : Int).toNat = 0 := rfl
  have hup : (- -1074 : Int).toNat = 1074 := rfl
  rw [ofDecimal, if_neg hne, if_neg (by omega), if_neg (by omega), hdown, hup, Nat.pow_zero,
    Nat.mul_one]
  exact ofRatio_expansion hpos h

theorem ofText?_exactText {negative : Bool} {significand exponent : Nat}
    (hpos : significand ≠ 0) (h : IsCanonical significand exponent) :
    ofText? (exactText negative (significand * 2 ^ exponent)) =
      some (.finite negative significand exponent h) := by
  refine ofText?_eq_some_iff.mpr ⟨_, read_exactText _ _, rfl, ?_⟩
  rw [ofNumeral, Numeral.coefficient, Numeral.scale]
  change ofDecimal negative (digitsValue (natDigits _ ++ [])) (-1074) = _
  rw [List.append_nil, digitsValue_natDigits]
  exact ofDecimal_expansion hpos h

/-- The text of a finite value is a numeral that denotes the value. -/
theorem ofText?_numeralText {x : Binary64} (hx : x.isFinite = true) :
    ofText? x.numeralText = some x := by
  cases x with
  | infinite negative => cases hx
  | nan => cases hx
  | finite negative significand exponent h =>
    cases significand with
    | zero =>
      have hexponent : exponent = 0 := h.2.2.resolve_right (by decide)
      subst hexponent
      cases negative <;> rfl
    | succ k =>
      rw [numeralText]
      · cases hfind : (candidates negative ((k + 1) * 2 ^ exponent)).find? fun cs =>
            ofText? cs == some (.finite negative (k + 1) exponent h) with
        | none => exact ofText?_exactText (Nat.succ_ne_zero k) h
        | some cs =>
          have hcs := List.find?_some hfind
          exact eq_of_beq hcs
      · intro hzero
        cases hzero

end Binary64

end StudioQuote.Number
