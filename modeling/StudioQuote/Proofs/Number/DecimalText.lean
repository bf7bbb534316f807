import StudioQuote.Number.DecimalText
import StudioQuote.Proofs.Number.Digits

/-!
# Written decimals read back

The digits of a decimal with the point in its place, and the exponent that follows them,
give back the coefficient and the exponent: zeros in front do not count, and each place
behind the point lowers the exponent by one. So the text of a decimal within the limits
is read as that decimal, with the digits it was written with.
-/

namespace StudioQuote.Number

theorem digitsValue_zeros_append (n : Nat) (ds : List Char) :
    digitsValue (List.replicate n '0' ++ ds) = digitsValue ds := by
  induction n with
  | zero => rfl
  | succ n ih =>
    rw [List.replicate_succ, List.cons_append]
    exact ih

theorem Numeral.readSign_of_isDigit {c : Char} (h : c.isDigit = true) (cs : List Char) :
    readSign (c :: cs) = (false, c :: cs) := by
  rw [readSign.eq_def]
  split
  · rename_i heq
    rw [(List.cons.inj heq).1] at h
    exact absurd h (by decide)
  · rename_i heq
    rw [(List.cons.inj heq).1] at h
    exact absurd h (by decide)
  · rfl

namespace Decimal

/-- Digits that are split by a point, or that have none. -/
inductive Split (whole places : List Char) : List Char → Prop where
  | point : Split whole places (whole ++ '.' :: places)
  | plain (h : places = []) : Split whole places whole

theorem split_withPoint {ds : List Char} {point : Int} (hds : ∀ c ∈ ds, c.isDigit = true)
    (hne : ds ≠ []) (hpoint : point ≤ ds.length) :
    ∃ whole places, Split whole places (withPoint ds point) ∧ whole ≠ [] ∧
      (∀ c ∈ whole, c.isDigit = true) ∧ (∀ c ∈ places, c.isDigit = true) ∧
      digitsValue (whole ++ places) = digitsValue ds ∧
      (places.length : Int) = ds.length - point := by
  rw [withPoint]
  by_cases hfront : point ≤ 0
  · rw [if_pos hfront]
    refine ⟨['0'], List.replicate (-point).toNat '0' ++ ds, .point, List.cons_ne_nil _ _,
      fun c hc => ?_, fun c hc => ?_, ?_, ?_⟩
    · rw [List.mem_singleton.mp hc]
      decide
    · rcases List.mem_append.mp hc with hc | hc
      · rw [List.eq_of_mem_replicate hc]
        decide
      · exact hds c hc
    · rw [← List.append_assoc]
      exact digitsValue_zeros_append ((-point).toNat + 1) ds
    · rw [List.length_append, List.length_replicate]
      omega
  · rw [if_neg hfront]
    by_cases hend : (ds.length : Int) ≤ point
    · have hzeros : point.toNat - ds.length = 0 := by omega
      rw [if_pos hend, hzeros, List.replicate_zero, List.append_nil]
      refine ⟨ds, [], .plain rfl, hne, hds, List.forall_mem_nil _, by rw [List.append_nil], ?_⟩
      rw [List.length_nil]
      omega
    · rw [if_neg hend]
      refine ⟨ds.take point.toNat, ds.drop point.toNat, .point, ?_,
        fun c hc => hds c (List.mem_of_mem_take hc), fun c hc => hds c (List.mem_of_mem_drop hc),
        by rw [List.take_append_drop], ?_⟩
      · rw [ne_eq, List.take_eq_nil_iff, not_or]
        exact ⟨by omega, hne⟩
      · rw [List.length_drop]
        omega

theorem readUnsigned_split {whole places text tail : List Char} {power : Int}
    (hsplit : Split whole places text) (hne : whole ≠ [])
    (hwhole : ∀ c ∈ whole, c.isDigit = true) (hplaces : ∀ c ∈ places, c.isDigit = true)
    (htail : ∀ c ∈ tail.head?, c.isDigit = false ∧ c ≠ '.')
    (hpower : readExponent tail = some power) (negative : Bool) :
    readUnsigned negative (text ++ tail) =
      some ⟨negative, digitsValue (whole ++ places), power - places.length⟩ := by
  have hstop : ∀ c ∈ tail.head?, c.isDigit = false := fun c hc => (htail c hc).1
  cases hsplit with
  | point =>
    have hpoint : ∀ c ∈ ('.' :: (places ++ tail)).head?, c.isDigit = false := by
      intro c hc
      cases hc
      decide
    have hcut : readPlaces ('.' :: (places ++ tail)) = (places, tail) :=
      digits_append hplaces hstop
    rw [readUnsigned, List.append_assoc, List.cons_append, digits_append hwhole hpoint]
    simp only [hcut, hpower]
    rw [if_neg fun h => hne h.1]
    rfl
  | plain hnone =>
    subst hnone
    have hcut : readPlaces tail = ([], tail) := by
      cases tail with
      | nil => rfl
      | cons c cs =>
        have hc := (htail c rfl).2
        rw [readPlaces.eq_def]
        split
        · rename_i heq
          exact absurd (List.cons.inj heq).1 hc
        · rfl
    rw [readUnsigned, digits_append hwhole hstop]
    simp only [hcut, hpower]
    rw [if_neg fun h => hne h.1]
    rfl

theorem readUnsigned_withPoint {ds tail : List Char} {point power : Int}
    (hds : ∀ c ∈ ds, c.isDigit = true) (hne : ds ≠ []) (hpoint : point ≤ ds.length)
    (htail : ∀ c ∈ tail.head?, c.isDigit = false ∧ c ≠ '.')
    (hpower : readExponent tail = some power) (negative : Bool) :
    readUnsigned negative (withPoint ds point ++ tail) =
      some ⟨negative, digitsValue ds, power - (ds.length - point)⟩ := by
  obtain ⟨whole, places, hsplit, hfirst, hwhole, hplaces, hvalue, hlength⟩ :=
    split_withPoint hds hne hpoint
  rw [readUnsigned_split hsplit hfirst hwhole hplaces htail hpower, hvalue, hlength]

theorem readPower_signed (n : Int) :
    Numeral.readPower ((if n < 0 then '-' else '+') :: natDigits n.natAbs) = some (n, []) := by
  have hsign : Numeral.readSign ((if n < 0 then '-' else '+') :: natDigits n.natAbs) =
      (decide (n < 0), natDigits n.natAbs) := by
    by_cases h : n < 0
    · rw [if_pos h, decide_eq_true h]
      rfl
    · rw [if_neg h, decide_eq_false h]
      rfl
  have hdigits : digits (natDigits n.natAbs ++ []) = (natDigits n.natAbs, []) :=
    digits_natDigits_append n.natAbs fun c hc => nomatch hc
  rw [List.append_nil] at hdigits
  have hvalue : signed (decide (n < 0)) (digitsValue (natDigits n.natAbs)) = n :=
    Numeral.toInt_natDigits n
  rw [Numeral.readPower, hsign, hdigits]
  cases hds : natDigits n.natAbs with
  | nil => exact absurd hds (natDigits_ne_nil _)
  | cons c cs =>
    rw [hds] at hvalue
    exact congrArg (fun n => some (n, [])) hvalue

theorem readExponent_exponentMark (n : Int) : readExponent (exponentMark n) = some n := by
  rw [exponentMark, readExponent, if_pos (Or.inr rfl), readPower_signed]

/-- A character that stays as it is before a text is read. -/
def IsPlain (c : Char) : Prop :=
  Text.isSpacing c = false ∧ c ≠ '_' ∧ Text.latinDigit c = c

instance (c : Char) : Decidable (IsPlain c) :=
  inferInstanceAs (Decidable (_ ∧ _ ∧ _))

theorem isPlain_of_isDigit {c : Char} (h : c.isDigit = true) : IsPlain c := by
  have hbounds : 48 ≤ c.toNat ∧ c.toNat ≤ 57 := Char.isDigit_iff_toNat.mp h
  have hvalue : Text.digitValue? c = some (c.toNat - 48) := by
    have hfind : Text.digitZeros.find? (fun first => first ≤ c.toNat && c.toNat < first + 10) =
        some 0x30 := by
      rw [Text.digitZeros, List.find?_cons_of_pos]
      simp
      omega
    rw [Text.digitValue?, hfind]
    rfl
  refine ⟨?_, ?_, ?_⟩
  · simp [Text.isSpacing, Text.isBlank]
    omega
  · rintro rfl
    revert h
    decide
  · have hback : 48 + (c.toNat - 48) = c.toNat := by omega
    rw [Text.latinDigit, hvalue]
    change Char.ofNat (48 + (c.toNat - 48)) = c
    rw [hback, Char.ofNat_toNat]

/-- The text of a decimal: its sign, its digits with a point, and what follows them. -/
theorem textChars_eq (d : Decimal) :
    ∃ point power : Int, ∃ tail,
      d.textChars = (if d.negative then ['-'] else []) ++
        (withPoint (natDigits d.coefficient) point ++ tail) ∧
      point ≤ (natDigits d.coefficient).length ∧
      power - ((natDigits d.coefficient).length - point) = d.exponent ∧
      (∀ c ∈ tail.head?, c.isDigit = false ∧ c ≠ '.') ∧ readExponent tail = some power ∧
      ∀ c ∈ tail, IsPlain c := by
  have hsize : 0 < (natDigits d.coefficient).length :=
    List.length_pos_iff.mpr (natDigits_ne_nil _)
  rw [textChars]
  split
  · rename_i hpositional
    refine ⟨d.exponent + (natDigits d.coefficient).length, 0, [], ?_, by omega, by omega,
      fun c hc => (nomatch hc), rfl, List.forall_mem_nil _⟩
    rw [List.append_nil]
  · by_cases hpoint : d.exponent + (natDigits d.coefficient).length = 1
    · refine ⟨1, 0, [], ?_, by omega, by omega, fun c hc => (nomatch hc), rfl,
        List.forall_mem_nil _⟩
      rw [if_pos hpoint, List.append_assoc]
    · refine ⟨1, d.exponent + (natDigits d.coefficient).length - 1, exponentMark _, ?_, by omega,
        by omega, fun c hc => ?_, readExponent_exponentMark _, fun c hc => ?_⟩
      · rw [if_neg hpoint, List.append_assoc]
      · cases hc
        decide
      · rcases List.mem_cons.mp hc with rfl | hc
        · decide
        rcases List.mem_cons.mp hc with rfl | hc
        · split <;> decide
        · exact isPlain_of_isDigit (isDigit_of_mem_natDigits hc)

namespace Split

variable {whole places text : List Char}

theorem isPlain (h : Split whole places text) (hwhole : ∀ c ∈ whole, c.isDigit = true)
    (hplaces : ∀ c ∈ places, c.isDigit = true) : ∀ c ∈ text, IsPlain c := by
  intro c hc
  cases h with
  | point =>
    rcases List.mem_append.mp hc with hc | hc
    · exact isPlain_of_isDigit (hwhole c hc)
    rcases List.mem_cons.mp hc with rfl | hc
    · decide
    · exact isPlain_of_isDigit (hplaces c hc)
  | plain hnone => exact isPlain_of_isDigit (hwhole c hc)

theorem exists_cons (h : Split whole places text) (hne : whole ≠ [])
    (hwhole : ∀ c ∈ whole, c.isDigit = true) :
    ∃ c cs, text = c :: cs ∧ c.isDigit = true := by
  cases whole with
  | nil => exact absurd rfl hne
  | cons c cs =>
    have hc := hwhole c List.mem_cons_self
    cases h with
    | point => exact ⟨c, _, rfl, hc⟩
    | plain hnone => exact ⟨c, _, rfl, hc⟩

end Split

/-- Behind its sign, the text of a decimal begins with a digit and is read as that decimal. -/
theorem exists_body (d : Decimal) :
    ∃ c cs, d.textChars = (if d.negative then ['-'] else []) ++ c :: cs ∧ c.isDigit = true ∧
      readUnsigned d.negative (c :: cs) = some d ∧ ∀ x ∈ c :: cs, IsPlain x := by
  obtain ⟨point, power, tail, htext, hpoint, hexponent, htail, hpower, hplain⟩ := textChars_eq d
  have hdigits : ∀ c ∈ natDigits d.coefficient, c.isDigit = true :=
    fun c hc => isDigit_of_mem_natDigits hc
  have hne := natDigits_ne_nil d.coefficient
  have hread := readUnsigned_withPoint hdigits hne hpoint htail hpower d.negative
  rw [digitsValue_natDigits, hexponent] at hread
  obtain ⟨whole, places, hsplit, hfirst, hwhole, hplaces, -, -⟩ :=
    split_withPoint hdigits hne hpoint
  obtain ⟨c, cs, hbody, hc⟩ := hsplit.exists_cons hfirst hwhole
  have hchars := hsplit.isPlain hwhole hplaces
  rw [hbody] at htext hread hchars
  refine ⟨c, cs ++ tail, htext, hc, hread, fun x hx => ?_⟩
  rcases List.mem_append.mp (List.cons_append ▸ hx) with hx | hx
  · exact hchars x hx
  · exact hplain x hx

theorem dropWhile_isSpacing {cs : List Char} (h : ∀ c ∈ cs, IsPlain c) :
    cs.dropWhile Text.isSpacing = cs := by
  cases cs with
  | nil => rfl
  | cons c cs =>
    refine List.dropWhile_cons_of_neg ?_
    rw [(h c List.mem_cons_self).1]
    exact Bool.false_ne_true

theorem plain_of_isPlain {cs : List Char} (h : ∀ c ∈ cs, IsPlain c) : plain cs = cs := by
  have htrim : Text.trim Text.isSpacing cs = cs := by
    rw [Text.trim, dropWhile_isSpacing h,
      dropWhile_isSpacing fun c hc => h c (List.mem_reverse.mp hc), List.reverse_reverse]
  have hfilter : cs.filter (· != '_') = cs :=
    List.filter_eq_self.mpr fun c hc => bne_iff_ne.mpr (h c hc).2.1
  have hmap : cs.map Text.latinDigit = cs.map id :=
    List.map_congr_left fun c hc => (h c hc).2.2
  rw [plain, htrim, hfilter, hmap, List.map_id]

/-- The text of a decimal is read as that decimal, if it is within the limits. -/
theorem read_text_eq (d : Decimal) :
    read d.text = if d.isRepresentable then .number d else .malformed := by
  obtain ⟨c, cs, htext, hc, hread, hplain⟩ := exists_body d
  have hchars : ∀ x ∈ d.textChars, IsPlain x := by
    intro x hx
    rw [htext] at hx
    rcases List.mem_append.mp hx with hx | hx
    · split at hx
      · obtain rfl := List.mem_singleton.mp hx
        decide
      · cases hx
    · exact hplain x hx
  have hsign : Numeral.readSign d.textChars = (d.negative, c :: cs) := by
    rw [htext]
    cases d.negative with
    | true => rfl
    | false => exact Numeral.readSign_of_isDigit hc cs
  rw [read, readChars, text, String.toList_ofList, plain_of_isPlain hchars, readPlain, hsign]
  simp only [hread]

theorem read_text {d : Decimal} (h : d.isRepresentable = true) : read d.text = .number d := by
  rw [read_text_eq, if_pos h]

end Decimal

end StudioQuote.Number
