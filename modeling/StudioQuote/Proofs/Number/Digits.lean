import StudioQuote.Number.Numeral

/-!
# Written integers read back

The digits of a number stand for themselves up to the first character that is none, and
they have no superfluous zero in front. So an integer is read back as a numeral without
fraction and exponent wherever neither can follow.
-/

namespace StudioQuote.Number

theorem ne_of_isDigit {c d : Char} (hc : c.isDigit = true) (hd : d.isDigit = false) : c ≠ d := by
  rintro rfl
  rw [hd] at hc
  cases hc

theorem natDigits_ne_nil (n : Nat) : natDigits n ≠ [] :=
  Nat.toDigits_ne_nil

theorem digits_append {ds rest : List Char} (hds : ∀ c ∈ ds, c.isDigit = true)
    (hrest : ∀ c ∈ rest.head?, c.isDigit = false) : digits (ds ++ rest) = (ds, rest) := by
  have hstop : rest.takeWhile Char.isDigit = [] ∧ rest.dropWhile Char.isDigit = rest := by
    cases rest with
    | nil => exact ⟨rfl, rfl⟩
    | cons c cs => simp [hrest c rfl]
  rw [digits, List.takeWhile_append_of_pos hds, List.dropWhile_append_of_pos hds, hstop.1, hstop.2,
    List.append_nil]

theorem digits_natDigits_append (n : Nat) {rest : List Char}
    (hrest : ∀ c ∈ rest.head?, c.isDigit = false) :
    digits (natDigits n ++ rest) = (natDigits n, rest) :=
  digits_append (fun _ => isDigit_of_mem_natDigits) hrest

theorem head_natDigits (n : Nat) : ∃ c cs, natDigits n = c :: cs ∧ (c = '0' → n = 0) := by
  induction n using Nat.strongRecOn with
  | ind n ih =>
    by_cases h : n < 10
    · refine ⟨n.digitChar, [], Nat.toDigits_of_lt_base h, ?_⟩
      have hall : ∀ m < 10, Nat.digitChar m = '0' → m = 0 := by decide
      exact hall n h
    · obtain ⟨c, cs, hcs, hc⟩ := ih (n / 10) (by omega)
      refine ⟨c, cs ++ [(n % 10).digitChar], ?_, fun h0 => ?_⟩
      · rw [natDigits] at hcs ⊢
        rw [Nat.toDigits_of_base_le (by decide) (by omega), hcs, List.cons_append]
      · have := hc h0
        omega

/-- Whether nothing follows that could belong to a number. -/
def EndsNumber (rest : List Char) : Prop :=
  ∀ c ∈ rest.head?, c.isDigit = false ∧ c ≠ '.' ∧ c ≠ 'e' ∧ c ≠ 'E'

theorem endsNumber_nil : EndsNumber [] := by
  intro c hc
  cases hc

theorem endsNumber_cons {c : Char} {rest : List Char}
    (h : c.isDigit = false ∧ c ≠ '.' ∧ c ≠ 'e' ∧ c ≠ 'E') : EndsNumber (c :: rest) := by
  intro d hd
  cases hd
  exact h

namespace Numeral

theorem readWhole_natDigits_append (n : Nat) {rest : List Char}
    (hrest : ∀ c ∈ rest.head?, c.isDigit = false) :
    readWhole (natDigits n ++ rest) = some (natDigits n, rest) := by
  obtain ⟨c, cs, hcs, hzero⟩ := head_natDigits n
  have hdigits := digits_natDigits_append n hrest
  by_cases hc : c = '0'
  · have hn : n = 0 := hzero hc
    subst hn
    rfl
  · rw [hcs, List.cons_append] at hdigits ⊢
    rw [readWhole.eq_def]
    split
    · rename_i h
      exact absurd (List.cons.inj h).1 hc
    · rw [hdigits]

theorem readFraction_of_ends {rest : List Char} (h : EndsNumber rest) :
    readFraction rest = (none, rest) := by
  cases rest with
  | nil => rfl
  | cons c cs =>
    have hc := (h c rfl).2.1
    rw [readFraction.eq_def]
    split
    · rename_i heq
      exact absurd (List.cons.inj heq).1 hc
    · rfl

theorem readExponent_of_ends {rest : List Char} (h : EndsNumber rest) :
    readExponent rest = (none, rest) := by
  cases rest with
  | nil => rfl
  | cons c cs =>
    have hc := (h c rfl).2.2
    rw [readExponent, if_neg (not_or.mpr ⟨hc.1, hc.2⟩)]

theorem readUnsigned_natDigits (negative : Bool) (n : Nat) {rest : List Char}
    (h : EndsNumber rest) :
    readUnsigned negative (natDigits n ++ rest) =
      some (⟨negative, natDigits n, none, none⟩, rest) := by
  rw [readUnsigned, readWhole_natDigits_append n fun c hc => (h c hc).1]
  simp only [readFraction_of_ends h, readExponent_of_ends h]

end Numeral

theorem intDigits_eq (n : Int) :
    intDigits n = (if n < 0 then '-' :: natDigits n.natAbs else natDigits n.natAbs) := by
  cases n with
  | ofNat n =>
    have h : ¬ (Int.ofNat n < 0) := by simp
    rw [if_neg h]
    rfl
  | negSucc n =>
    rw [if_pos (Int.negSucc_lt_zero n)]
    rfl

namespace Numeral

theorem read_intDigits (n : Int) {rest : List Char} (h : EndsNumber rest) :
    read (intDigits n ++ rest) =
      some (⟨decide (n < 0), natDigits n.natAbs, none, none⟩, rest) := by
  rw [intDigits_eq]
  by_cases hn : n < 0
  · rw [if_pos hn, List.cons_append, read, readUnsigned_natDigits true _ h, decide_eq_true hn]
  · obtain ⟨c, cs, hcs, -⟩ := head_natDigits n.natAbs
    have hc : c.isDigit = true :=
      isDigit_of_mem_natDigits (n := n.natAbs) (hcs ▸ List.mem_cons_self)
    have hread := readUnsigned_natDigits false n.natAbs h
    rw [if_neg hn, decide_eq_false hn]
    rw [hcs, List.cons_append] at hread ⊢
    rw [read.eq_def]
    split
    · rename_i heq
      rw [(List.cons.inj heq).1] at hc
      exact absurd hc (by decide)
    · exact hread

theorem toInt_natDigits (n : Int) :
    toInt ⟨decide (n < 0), natDigits n.natAbs, none, none⟩ = n := by
  rw [toInt, digitsValue_natDigits, signed]
  by_cases h : n < 0
  · rw [decide_eq_true h, if_pos rfl]
    omega
  · rw [decide_eq_false h, if_neg Bool.false_ne_true]
    omega

end Numeral

end StudioQuote.Number
