import StudioQuote.Json.Reader
import StudioQuote.Json.Writer

/-!
# Texts read back

A text is written place by place, and the reader takes what was written for one place
at a time, with one exception: a high half and a low half that stand side by side are
read as the character that they denote together.
-/

namespace StudioQuote

namespace Text

/-- The places of a text, with halves that stand side by side joined. -/
def joined : List Code → List Code
  | [] => []
  | .half i :: .half j :: rest =>
    if isHighHalf (0xD800 + i) && isLowHalf (0xD800 + j) then
      .char (ofHalves (0xD800 + i) (0xD800 + j)) :: joined rest
    else .half i :: joined (.half j :: rest)
  | code :: rest => code :: joined rest

theorem joined_char (c : Char) (rest : List Code) :
    joined (.char c :: rest) = .char c :: joined rest := by
  rw [joined.eq_def]

def reread (s : String) : String :=
  String.ofList ((joined (codes s.toList)).flatMap Code.marked)

/-- Whether a half is left in a text when it is read back. -/
def keepsHalf (s : String) : Bool :=
  (joined (codes s.toList)).any Code.isHalf

/-- Whether a text is without the mark, and so without halves. -/
def isUnmarked (s : String) : Bool :=
  s.toList.all (· != halfMark)

theorem isUnmarked_iff {s : String} : isUnmarked s = true ↔ ∀ c ∈ s.toList, c ≠ halfMark := by
  rw [isUnmarked, List.all_eq_true]
  simp only [bne_iff_ne]

theorem codes_of_unmarked {cs : List Char} (h : ∀ c ∈ cs, c ≠ halfMark) :
    codes cs = cs.map Code.char := by
  induction cs with
  | nil => rfl
  | cons c cs ih =>
    have hc : c ≠ halfMark := h c List.mem_cons_self
    have hcs := ih fun d hd => h d (List.mem_cons_of_mem c hd)
    cases cs with
    | nil => rfl
    | cons d rest =>
      rw [codes, if_neg hc, hcs]
      rfl

theorem joined_map_char (cs : List Char) : joined (cs.map Code.char) = cs.map Code.char := by
  induction cs with
  | nil => rfl
  | cons c cs ih => rw [List.map_cons, joined_char, ih]

theorem marked_of_ne {c : Char} (h : c ≠ halfMark) : (Code.char c).marked = [c] :=
  if_neg h

theorem reread_of_unmarked {s : String} (h : isUnmarked s = true) : reread s = s := by
  have hmarked : ∀ cs : List Char, (∀ c ∈ cs, c ≠ halfMark) →
      (cs.map Code.char).flatMap Code.marked = cs := by
    intro cs
    induction cs with
    | nil => exact fun _ => rfl
    | cons c cs ih =>
      intro hcs
      rw [List.map_cons, List.flatMap_cons, marked_of_ne (hcs c List.mem_cons_self),
        ih fun d hd => hcs d (List.mem_cons_of_mem c hd), List.singleton_append]
  have hchars := isUnmarked_iff.mp h
  rw [reread, codes_of_unmarked hchars, joined_map_char, hmarked s.toList hchars,
    String.ofList_toList]

theorem hasLoneHalf_of_unmarked {s : String} (h : isUnmarked s = true) :
    hasLoneHalf s = false := by
  rw [hasLoneHalf, codes_of_unmarked (isUnmarked_iff.mp h), List.any_map]
  exact List.any_eq_false.mpr fun _ _ => Bool.false_ne_true

end Text

namespace Json

open Text

theorem hexDigit?_hexDigit : ∀ n < 16, hexDigit? (hexDigit n) = some n := by
  decide

theorem codeUnit?_unitEscape {u : Nat} (h : u < 0x10000) :
    codeUnit? (hexDigit (u / 4096 % 16)) (hexDigit (u / 256 % 16)) (hexDigit (u / 16 % 16))
      (hexDigit (u % 16)) = some u := by
  rw [codeUnit?, hexDigit?_hexDigit _ (Nat.mod_lt _ (by decide)),
    hexDigit?_hexDigit _ (Nat.mod_lt _ (by decide)),
    hexDigit?_hexDigit _ (Nat.mod_lt _ (by decide)),
    hexDigit?_hexDigit _ (Nat.mod_lt _ (by decide))]
  simp only [Option.some.injEq]
  omega

theorem readText_unitEscape (isStrict : Bool) {u : Nat} (h : u < 0x10000)
    (hhalf : (isHighHalf u || isLowHalf u) = false) (rest : List Char) :
    readText isStrict (unitEscape u ++ rest) =
      (readText isStrict rest).map fun r => (Char.ofNat u :: r.1, r.2) := by
  rw [unitEscape]
  simp only [List.cons_append, List.nil_append]
  rw [readText, codeUnit?_unitEscape h]
  simp [hhalf]

theorem toNat_not_half (c : Char) : (isHighHalf c.toNat || isLowHalf c.toNat) = false := by
  rw [isHighHalf, isLowHalf]
  rcases c.valid with h | h
  · have hc : c.toNat < 0xD800 := h
    simp
    omega
  · have hc : 0xDFFF < c.toNat := h.1
    simp
    omega

theorem lowHalf?_unitEscape {u : Nat} (h : u < 0x10000) (rest : List Char) :
    lowHalf? (unitEscape u ++ rest) = if isLowHalf u then some u else none := by
  rw [unitEscape]
  simp only [List.cons_append, List.nil_append]
  rw [lowHalf?, codeUnit?_unitEscape h, Option.filter_some]

theorem readText_halves (isStrict : Bool) {u v : Nat} (hu : isHighHalf u = true)
    (hv : isLowHalf v = true) (rest : List Char) :
    readText isStrict (unitEscape u ++ (unitEscape v ++ rest)) =
      (readText isStrict rest).map fun r =>
        ((Code.char (ofHalves u v)).marked ++ r.1, r.2) := by
  have hu' : u < 0x10000 := by
    simp [isHighHalf] at hu
    omega
  have hv' : v < 0x10000 := by
    simp [isLowHalf] at hv
    omega
  have hlow := lowHalf?_unitEscape hv' rest
  rw [if_pos hv] at hlow
  rw [unitEscape, unitEscape] at *
  simp only [List.cons_append, List.nil_append] at hlow ⊢
  rw [readText, codeUnit?_unitEscape hu']
  simp only [hu, Bool.true_or, if_true, hlow]

theorem readText_loneHalf (isStrict : Bool) {u : Nat}
    (hhalf : (isHighHalf u || isLowHalf u) = true) (rest : List Char)
    (hrest : isHighHalf u = true → lowHalf? rest = none) :
    readText isStrict (unitEscape u ++ rest) =
      if isStrict then none
      else (readText isStrict rest).map fun r => ((Code.ofNumber u).marked ++ r.1, r.2) := by
  have hu : u < 0x10000 := by
    simp [isHighHalf, isLowHalf] at hhalf
    omega
  rw [unitEscape]
  simp only [List.cons_append, List.nil_append]
  rw [readText, codeUnit?_unitEscape hu]
  simp only [hhalf, if_true]
  split
  · rename_i h1 h2
    rw [hrest h1] at h2
    cases h2
  · rfl

theorem ofHalves_of_toNat {c : Char} (h : ¬ c.toNat < 0x10000) :
    ofHalves (0xD800 + (c.toNat - 0x10000) / 0x400) (0xDC00 + (c.toNat - 0x10000) % 0x400) = c := by
  have hn : 0x10000 + (0xD800 + (c.toNat - 0x10000) / 0x400 - 0xD800) * 0x400 +
      (0xDC00 + (c.toNat - 0x10000) % 0x400 - 0xDC00) = c.toNat := by
    omega
  rw [ofHalves, hn, Char.ofNat_toNat]

theorem toNat_lt (c : Char) : c.toNat < 0x110000 := by
  rcases c.valid with h | h
  · exact Nat.lt_trans h (by decide)
  · exact h.2

theorem isHighHalf_of_toNat (c : Char) :
    isHighHalf (0xD800 + (c.toNat - 0x10000) / 0x400) = true := by
  have h := toNat_lt c
  simp [isHighHalf]
  omega

theorem isLowHalf_of_toNat (c : Char) :
    isLowHalf (0xDC00 + (c.toNat - 0x10000) % 0x400) = true := by
  simp [isLowHalf]
  omega

theorem toNat_halfMark : halfMark.toNat = 0x10FFFF := by
  decide

theorem readText_charEscape (isStrict : Bool) (c : Char) (rest : List Char) :
    readText isStrict (charEscape c ++ rest) =
      (readText isStrict rest).map fun r => ((Code.char c).marked ++ r.1, r.2) := by
  rw [charEscape]
  by_cases h : c.toNat < 0x10000
  · have hmark : c ≠ halfMark := by
      rintro rfl
      rw [toNat_halfMark] at h
      omega
    rw [if_pos h, readText_unitEscape isStrict h (toNat_not_half c), Char.ofNat_toNat,
      marked_of_ne hmark]
    rfl
  · rw [if_neg h, List.append_assoc,
      readText_halves isStrict (isHighHalf_of_toNat c) (isLowHalf_of_toNat c), ofHalves_of_toNat h]

theorem readText_plain (isStrict : Bool) {c : Char} (hquote : c ≠ '"') (hslash : c ≠ '\\')
    (hcontrol : ¬ c.toNat < 32) (rest : List Char) :
    readText isStrict (c :: rest) =
      (readText isStrict rest).map fun r => (c :: r.1, r.2) := by
  rw [readText.eq_def]
  split
  · simp_all
  · simp_all
  · simp_all
  · simp_all
  · rename_i h
    obtain ⟨rfl, rfl⟩ := List.cons.inj h
    exact if_neg (not_or.mpr ⟨hslash, hcontrol⟩)

theorem readText_shortEscape (isStrict : Bool) {c e : Char} (h : shortEscape? e = some c)
    (rest : List Char) :
    readText isStrict ('\\' :: e :: rest) =
      (readText isStrict rest).map fun r => ((Code.char c).marked ++ r.1, r.2) := by
  have hmark : c ≠ halfMark := by
    rintro rfl
    rw [shortEscape?.eq_def] at h
    split at h
    all_goals exact absurd h (by decide)
  have hunit : e ≠ 'u' := by
    rintro rfl
    cases h
  rw [readText, h, marked_of_ne hmark]
  · rfl
  · rintro a b c d tail rfl
    exact absurd rfl hunit

/-- The forms in which a character is written. -/
inductive CharText (c : Char) : List Char → Prop where
  | short {e : Char} (h : shortEscape? e = some c) : CharText c ['\\', e]
  | unit : CharText c (charEscape c)
  | plain (hquote : c ≠ '"') (hslash : c ≠ '\\') (hcontrol : ¬ c.toNat < 32) :
    CharText c (Code.char c).marked

theorem charText_writeChar (asciiOnly : Bool) (c : Char) : CharText c (writeChar asciiOnly c) := by
  rw [writeChar]
  split
  · exact .short (by subst c; rfl)
  split
  · exact .short (by subst c; rfl)
  split
  · exact .short (by subst c; rfl)
  split
  · exact .short (by subst c; rfl)
  split
  · exact .short (by subst c; rfl)
  split
  · exact .short (by subst c; rfl)
  split
  · exact .short (by subst c; rfl)
  split
  · exact .unit
  split
  · exact .unit
  rename_i hquote hslash _ _ _ _ _ hcontrol _
  exact .plain hquote hslash hcontrol

theorem readText_writeChar (isStrict asciiOnly : Bool) (c : Char) (rest : List Char) :
    readText isStrict (writeChar asciiOnly c ++ rest) =
      (readText isStrict rest).map fun r => ((Code.char c).marked ++ r.1, r.2) := by
  have hwritten := charText_writeChar asciiOnly c
  generalize writeChar asciiOnly c = written at hwritten
  cases hwritten with
  | short h => exact readText_shortEscape isStrict h rest
  | unit => exact readText_charEscape isStrict c rest
  | plain hquote hslash hcontrol =>
    rw [Code.marked]
    split
    · subst c
      simp only [List.cons_append, List.nil_append]
      rw [readText_plain isStrict (by decide) (by decide) (by decide),
        readText_plain isStrict (by decide) (by decide) (by decide), Option.map_map]
      rfl
    · exact readText_plain isStrict hquote hslash hcontrol rest

theorem lowHalf?_charEscape (c : Char) (rest : List Char) :
    lowHalf? (charEscape c ++ rest) = none := by
  have hhalf := toNat_not_half c
  rw [Bool.or_eq_false_iff] at hhalf
  rw [charEscape]
  by_cases h : c.toNat < 0x10000
  · rw [if_pos h, lowHalf?_unitEscape h, hhalf.2, if_neg Bool.false_ne_true]
  · have hc := toNat_lt c
    have hlow : isLowHalf (0xD800 + (c.toNat - 0x10000) / 0x400) = false := by
      simp [isLowHalf]
      omega
    rw [if_neg h, List.append_assoc, lowHalf?_unitEscape (by omega), hlow,
      if_neg Bool.false_ne_true]

theorem lowHalf?_of_ne {c : Char} (h : c ≠ '\\') (cs : List Char) : lowHalf? (c :: cs) = none := by
  rw [lowHalf?.eq_def]
  split
  · rename_i heq
    exact absurd (List.cons.inj heq).1 h
  · rfl

theorem lowHalf?_shortEscape {c e : Char} (h : shortEscape? e = some c) (cs : List Char) :
    lowHalf? ('\\' :: e :: cs) = none := by
  rw [lowHalf?.eq_def]
  split
  · rename_i heq
    obtain ⟨rfl, -⟩ := List.cons.inj (List.cons.inj heq).2
    cases h
  · rfl

/-- What is written for a character does not begin with an escaped low half. -/
theorem lowHalf?_writeChar (asciiOnly : Bool) (c : Char) (rest : List Char) :
    lowHalf? (writeChar asciiOnly c ++ rest) = none := by
  have hwritten := charText_writeChar asciiOnly c
  generalize writeChar asciiOnly c = written at hwritten
  cases hwritten with
  | short h => exact lowHalf?_shortEscape h rest
  | unit => exact lowHalf?_charEscape c rest
  | plain _ hslash _ =>
    rw [Code.marked]
    split
    · subst c
      exact lowHalf?_of_ne hslash _
    · exact lowHalf?_of_ne hslash _

theorem ofNumber_half (i : Fin 0x800) : Code.ofNumber (0xD800 + i) = .half i := by
  rw [Code.ofNumber, dif_pos ⟨by omega, by omega⟩]
  simp

theorem unit_half_lt (i : Fin 0x800) :
    (isHighHalf (0xD800 + i) || isLowHalf (0xD800 + i)) = true := by
  simp [isHighHalf, isLowHalf]
  omega

/-- What the reader makes of places in front of a closing quote. -/
def asRead (isStrict : Bool) (cs : List Code) (rest : List Char) :
    Option (List Char × List Char) :=
  if isStrict && cs.any Code.isHalf then none else some (cs.flatMap Code.marked, rest)

theorem asRead_char (isStrict : Bool) (c : Char) (cs : List Code) (rest : List Char) :
    asRead isStrict (.char c :: cs) rest =
      (asRead isStrict cs rest).map fun r => ((Code.char c).marked ++ r.1, r.2) := by
  rw [asRead, asRead, List.any_cons, Code.isHalf, Bool.false_or]
  split
  · rfl
  · rfl

theorem asRead_half (isStrict : Bool) (i : Fin 0x800) (cs : List Code) (rest : List Char) :
    asRead isStrict (.half i :: cs) rest =
      if isStrict then none
      else (asRead isStrict cs rest).map fun r => ((Code.half i).marked ++ r.1, r.2) := by
  rw [asRead, asRead, List.any_cons, Code.isHalf, Bool.true_or]
  cases isStrict with
  | true => rfl
  | false => rfl

/-- The text that is written for the places of a text is read as the joined places, and
in the strict dialect not at all if one of them is a half. -/
theorem readText_flatMap_writeCode (isStrict asciiOnly : Bool) (cs : List Code)
    (rest : List Char) :
    readText isStrict (cs.flatMap (writeCode asciiOnly) ++ '"' :: rest) =
      asRead isStrict (joined cs) rest := by
  induction cs using joined.induct with
  | case1 =>
    rw [joined, asRead, List.any_nil, Bool.and_false, if_neg Bool.false_ne_true]
    rfl
  | case2 i j cs h ih =>
    have hij := Bool.and_eq_true_iff.mp h
    rw [joined, if_pos h, asRead_char, List.flatMap_cons, List.flatMap_cons, writeCode, writeCode,
      List.append_assoc, List.append_assoc, readText_halves isStrict hij.1 hij.2, ih]
  | case3 i j cs h ih =>
    have hlow : isHighHalf (0xD800 + i) = true → lowHalf? (unitEscape (0xD800 + j) ++
        (cs.flatMap (writeCode asciiOnly) ++ '"' :: rest)) = none := by
      intro hi
      have hj : ¬ isLowHalf (0xD800 + j) = true := fun hj => h (Bool.and_eq_true_iff.mpr ⟨hi, hj⟩)
      rw [lowHalf?_unitEscape (by omega), if_neg hj]
    rw [List.flatMap_cons, writeCode, List.append_assoc] at ih
    rw [joined, if_neg h, asRead_half, List.flatMap_cons, List.flatMap_cons, writeCode, writeCode,
      List.append_assoc, List.append_assoc,
      readText_loneHalf isStrict (unit_half_lt i) _ hlow, ih, ofNumber_half]
  | case4 code cs h ih =>
    cases code with
    | char c =>
      rw [joined_char, asRead_char, List.flatMap_cons, writeCode, List.append_assoc,
        readText_writeChar, ih]
    | half i =>
      have hjoined : joined (.half i :: cs) = .half i :: joined cs := by
        cases cs with
        | nil => rfl
        | cons d ds =>
          cases d with
          | char c => rw [joined.eq_def]
          | half j => exact (h i j ds rfl rfl).elim
      have hlow : isHighHalf (0xD800 + i) = true →
          lowHalf? (cs.flatMap (writeCode asciiOnly) ++ '"' :: rest) = none := by
        intro _
        cases cs with
        | nil => rfl
        | cons d ds =>
          cases d with
          | char c =>
            rw [List.flatMap_cons, writeCode, List.append_assoc, lowHalf?_writeChar]
          | half j => exact (h i j ds rfl rfl).elim
      rw [hjoined, asRead_half, List.flatMap_cons, writeCode, List.append_assoc,
        readText_loneHalf isStrict (unit_half_lt i) _ hlow, ih, ofNumber_half]

/-- A text that was written is read back, in the strict dialect only without halves. -/
theorem readString_text (isStrict asciiOnly : Bool) (s : String) (rest : List Char) :
    readString isStrict ((codes s.toList).flatMap (writeCode asciiOnly) ++ '"' :: rest) =
      if isStrict && keepsHalf s then .error .malformed else .ok (reread s, rest) := by
  rw [readString, readText_flatMap_writeCode, asRead, keepsHalf, reread]
  by_cases h : (isStrict && (joined (codes s.toList)).any Code.isHalf) = true
  · rw [if_pos h, if_pos h]
  · rw [if_neg h, if_neg h]

end Json

end StudioQuote
