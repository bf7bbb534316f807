import StudioQuote.Proofs.Json.Text
import StudioQuote.Proofs.Number.Digits
import StudioQuote.Reading.Date

/-!
# Written days read back

A year is written with four digits and a month and a day with two, which is enough for
every day of the calendar. So the text of a day is read as that day.
-/

namespace StudioQuote

open Number

namespace Date

theorem length_fixedDigits (width n : Nat) : (fixedDigits width n).length = width := by
  induction width generalizing n with
  | zero => rfl
  | succ width ih => rw [fixedDigits, List.length_append, ih, List.length_singleton]

theorem isDigit_of_mem_fixedDigits {width n : Nat} {c : Char} (h : c ∈ fixedDigits width n) :
    c.isDigit = true := by
  induction width generalizing n with
  | zero => cases h
  | succ width ih =>
    rcases List.mem_append.mp h with h | h
    · exact ih h
    · rw [List.mem_singleton.mp h, Nat.isDigit_digitChar]
      exact decide_eq_true (Nat.mod_lt n (by decide))

theorem digitsValue_fixedDigits {width n : Nat} (h : n < 10 ^ width) :
    digitsValue (fixedDigits width n) = n := by
  induction width generalizing n with
  | zero =>
    rw [Nat.pow_zero] at h
    exact (Nat.lt_one_iff.mp h).symm
  | succ width ih =>
    rw [Nat.pow_succ] at h
    have hrest := ih (n := n / 10) (by omega)
    rw [digitsValue] at hrest ⊢
    rw [fixedDigits, Nat.ofDigitChars_append, hrest,
      Nat.ofDigitChars_cons_digitChar_of_lt_ten (Nat.mod_lt n (by decide)), Nat.ofDigitChars_nil]
    omega

theorem readFixed_fixedDigits {width n : Nat} (h : n < 10 ^ width) (rest : List Char) :
    readFixed width (fixedDigits width n ++ rest) = some (n, rest) := by
  have hlength := length_fixedDigits width n
  have hdigits : (fixedDigits width n).all Char.isDigit = true :=
    List.all_eq_true.mpr fun c hc => isDigit_of_mem_fixedDigits hc
  rw [readFixed, List.take_left' hlength, List.drop_left' hlength]
  simp only [hlength, hdigits, and_self, if_true, digitsValue_fixedDigits h]

theorem lt_pow_of_isCalendarDay {year month day : Nat} (h : IsCalendarDay year month day) :
    year < 10 ^ (4 : Nat) ∧ month < 10 ^ (2 : Nat) ∧ day < 10 ^ (2 : Nat) := by
  obtain ⟨⟨-, hyear⟩, ⟨-, hmonth⟩, -, hday⟩ := h
  have hlast : daysInMonth year month ≤ 31 := by
    rw [daysInMonth]
    split
    · split <;> omega
    · split <;> omega
  omega

theorem textChars_eq (d : Date) :
    d.textChars =
      fixedDigits 4 d.year ++ ('-' :: (fixedDigits 2 d.month ++ ('-' :: fixedDigits 2 d.day))) := by
  rw [textChars, List.append_assoc, List.cons_append]

theorem readParts_textChars (d : Date) :
    readParts d.textChars = some ((d.year, d.month, d.day), []) := by
  obtain ⟨hyear, hmonth, hday⟩ := lt_pow_of_isCalendarDay d.isCalendarDay
  obtain ⟨-, ⟨hfirst, htwelve⟩, hone, hlast⟩ := d.isCalendarDay
  have hextended : isExtendedDay d.year d.month d.day = true := by
    simp [isExtendedDay, hfirst, htwelve, hone, hlast]
  have hend := readFixed_fixedDigits hday []
  rw [List.append_nil] at hend
  rw [textChars_eq, readParts, readFixed_fixedDigits hyear]
  simp only [readFixed_fixedDigits hmonth, hend, hextended, if_true]

theorem isUnmarked_text (d : Date) : Text.isUnmarked d.text = true := by
  have hdigits : ∀ {width n : Nat} {c : Char}, c ∈ fixedDigits width n → c ≠ Text.halfMark := by
    rintro width n c hc rfl
    exact absurd (isDigit_of_mem_fixedDigits hc) (by decide)
  refine Text.isUnmarked_iff.mpr fun c hc => ?_
  rw [text, String.toList_ofList, textChars_eq] at hc
  rcases List.mem_append.mp hc with hc | hc
  · exact hdigits hc
  rcases List.mem_cons.mp hc with rfl | hc
  · decide
  rcases List.mem_append.mp hc with hc | hc
  · exact hdigits hc
  rcases List.mem_cons.mp hc with rfl | hc
  · decide
  · exact hdigits hc

theorem read_text (d : Date) : Reader.date (.str d.text) = .ok d := by
  have hparts : ofParts? d.year d.month d.day = some d := dif_pos d.isCalendarDay
  rw [Reader.date, Reader.ofText, Text.hasLoneHalf_of_unmarked d.isUnmarked_text,
    if_neg Bool.false_ne_true, text, String.toList_ofList, Reader.dateOfChars, readParts_textChars]
  simp only [Reader.dateOfParts, hparts]

end Date

/-! ## Days of the year 2024 -/

theorem isCalendarDay_newYear : IsCalendarDay 2024 1 1 := by decide

theorem isCalendarDay_mayDay : IsCalendarDay 2024 5 1 := by decide

theorem isCalendarDay_yearEnd : IsCalendarDay 2024 12 31 := by decide

end StudioQuote
