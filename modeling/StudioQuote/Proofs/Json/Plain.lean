import Mathlib.Data.List.TakeWhile
import StudioQuote.Number.DecimalText
import StudioQuote.Proofs.Json.Sent

/-!
# Texts of values consist of characters

A half of a surrogate pair is written as an escape, and numbers are written without the
mark. So the text of a value is the marked form of a text of characters, however the value is
laid out.
-/

namespace StudioQuote

open Number

namespace Text

/-- Whether a list is the marked form of characters. -/
def ArePlain (cs : List Char) : Prop :=
  ∃ t, cs = ofPlainChars t

theorem ofPlainChars_of_ne {cs : List Char} (h : ∀ c ∈ cs, c ≠ halfMark) :
    ofPlainChars cs = cs := by
  induction cs with
  | nil => rfl
  | cons c cs ih =>
    rw [List.forall_mem_cons] at h
    rw [ofPlainChars, List.flatMap_cons, marked_of_ne h.1, List.singleton_append]
    exact congrArg (c :: ·) (ih h.2)

theorem ne_halfMark_of_all {cs : List Char} (h : cs.all (· != halfMark) = true) :
    ∀ c ∈ cs, c ≠ halfMark :=
  fun c hc => bne_iff_ne.mp (List.all_eq_true.mp h c hc)

theorem arePlain_of_ne {cs : List Char} (h : ∀ c ∈ cs, c ≠ halfMark) : ArePlain cs :=
  ⟨cs, (ofPlainChars_of_ne h).symm⟩

theorem arePlain_marked (c : Char) : ArePlain (Code.char c).marked :=
  ⟨[c], (List.flatMap_singleton _ _).symm⟩

theorem ArePlain.append {cs ds : List Char} (hcs : ArePlain cs) (hds : ArePlain ds) :
    ArePlain (cs ++ ds) := by
  obtain ⟨t, rfl⟩ := hcs
  obtain ⟨u, rfl⟩ := hds
  exact ⟨t ++ u, List.flatMap_append.symm⟩

theorem ArePlain.cons {c : Char} {cs : List Char} (hc : c ≠ halfMark) (hcs : ArePlain cs) :
    ArePlain (c :: cs) := by
  have hfirst : ArePlain [c] := arePlain_of_ne (List.forall_mem_singleton.mpr hc)
  exact hfirst.append hcs

theorem ArePlain.enclosed {first last : Char} {cs : List Char} (hfirst : first ≠ halfMark)
    (hlast : last ≠ halfMark) (hcs : ArePlain cs) : ArePlain (first :: cs ++ [last]) :=
  (ArePlain.cons hfirst hcs).append (arePlain_of_ne (List.forall_mem_singleton.mpr hlast))

theorem arePlain_flatMap {α : Type} {f : α → List Char} {as : List α}
    (h : ∀ a ∈ as, ArePlain (f a)) : ArePlain (as.flatMap f) := by
  induction as with
  | nil => exact ⟨[], rfl⟩
  | cons a as ih =>
    rw [List.forall_mem_cons] at h
    exact h.1.append (ih h.2)

theorem isPlain_ofList {cs : List Char} (h : ArePlain cs) : IsPlain (String.ofList cs) := by
  obtain ⟨t, rfl⟩ := h
  refine ⟨String.ofList t, ?_⟩
  rw [ofPlain, String.toList_ofList]

theorem ne_halfMark_of_mem_replicate {n : Nat} : ∀ c ∈ List.replicate n '0', c ≠ halfMark := by
  intro c hc
  rw [List.eq_of_mem_replicate hc]
  decide

theorem ne_halfMark_of_isDigit {c : Char} (h : c.isDigit = true) : c ≠ halfMark := by
  rintro rfl
  exact absurd h (by decide)

end Text

open Text

/-! ## Numbers -/

namespace Number

theorem ne_halfMark_of_mem_natDigits {n : Nat} : ∀ c ∈ natDigits n, c ≠ halfMark :=
  fun _ hc => ne_halfMark_of_isDigit (isDigit_of_mem_natDigits hc)

theorem ne_halfMark_of_mem_intDigits {n : Int} : ∀ c ∈ intDigits n, c ≠ halfMark := by
  rw [intDigits_eq]
  split
  · exact List.forall_mem_cons.mpr ⟨by decide, ne_halfMark_of_mem_natDigits⟩
  · exact ne_halfMark_of_mem_natDigits

namespace Decimal

theorem ne_halfMark_of_mem_withPoint {ds : List Char} (h : ∀ c ∈ ds, c ≠ halfMark) (point : Int) :
    ∀ c ∈ withPoint ds point, c ≠ halfMark := by
  have hpoint : '.' ≠ halfMark := by decide
  have hzero : '0' ≠ halfMark := by decide
  rw [withPoint]
  split
  · simp only [List.cons_append, List.forall_mem_cons, List.forall_mem_append]
    exact ⟨hzero, hpoint, ne_halfMark_of_mem_replicate, h⟩
  · split
    · exact List.forall_mem_append.mpr ⟨h, ne_halfMark_of_mem_replicate⟩
    · simp only [List.forall_mem_append, List.forall_mem_cons]
      exact ⟨fun c hc => h c (List.mem_of_mem_take hc), hpoint,
        fun c hc => h c (List.mem_of_mem_drop hc)⟩

theorem ne_halfMark_of_mem_textChars (d : Decimal) : ∀ c ∈ d.textChars, c ≠ halfMark := by
  have hsign : ∀ c ∈ if d.negative then ['-'] else [], c ≠ halfMark := by
    split
    · exact ne_halfMark_of_all (by decide)
    · exact List.forall_mem_nil _
  have hdigits := ne_halfMark_of_mem_withPoint (ne_halfMark_of_mem_natDigits (n := d.coefficient))
  have hexponent : ∀ n, ∀ c ∈ exponentMark n, c ≠ halfMark := by
    intro n
    simp only [exponentMark, List.forall_mem_cons]
    exact ⟨by decide, by split <;> decide, ne_halfMark_of_mem_natDigits⟩
  rw [textChars]
  split
  · exact List.forall_mem_append.mpr ⟨hsign, hdigits _⟩
  · refine List.forall_mem_append.mpr ⟨List.forall_mem_append.mpr ⟨hsign, hdigits _⟩, ?_⟩
    split
    · exact List.forall_mem_nil _
    · exact hexponent _

theorem isPlain_text (d : Decimal) : Text.IsPlain d.text :=
  isPlain_ofList (arePlain_of_ne d.ne_halfMark_of_mem_textChars)

end Decimal

namespace Binary64

theorem ne_halfMark_of_mem_signText {negative : Bool} : ∀ c ∈ signText negative, c ≠ halfMark := by
  cases negative with
  | true => exact ne_halfMark_of_all (by decide)
  | false => exact List.forall_mem_nil _

theorem ne_halfMark_of_mem_exponentText {n : Int} : ∀ c ∈ exponentText n, c ≠ halfMark := by
  have hsign : (if n < 0 then '-' else '+') ≠ halfMark := by split <;> decide
  have hdigits := ne_halfMark_of_mem_natDigits (n := n.natAbs)
  refine List.forall_mem_cons.mpr ⟨hsign, ?_⟩
  split
  · exact List.forall_mem_cons.mpr ⟨by decide, hdigits⟩
  · exact hdigits

theorem ne_halfMark_of_mem_layout {ds : List Char} (h : ∀ c ∈ ds, c ≠ halfMark) (point : Int) :
    ∀ c ∈ layout ds point, c ≠ halfMark := by
  have hexponent := ne_halfMark_of_mem_exponentText (n := point - 1)
  have hpoint : '.' ≠ halfMark := by decide
  have hmark : 'e' ≠ halfMark := by decide
  have hzero : '0' ≠ halfMark := by decide
  rw [layout.eq_def]
  split
  · split
    · simp only [List.cons_append, List.forall_mem_cons, List.forall_mem_append]
      exact ⟨hzero, hpoint, ne_halfMark_of_mem_replicate, h⟩
    · split
      · simp only [List.forall_mem_append, List.forall_mem_cons]
        exact ⟨⟨h, ne_halfMark_of_mem_replicate⟩, hpoint, hzero, List.forall_mem_nil _⟩
      · simp only [List.forall_mem_append, List.forall_mem_cons]
        exact ⟨fun c hc => h c (List.mem_of_mem_take hc), hpoint,
          fun c hc => h c (List.mem_of_mem_drop hc)⟩
  · cases ds with
    | nil => exact List.forall_mem_nil _
    | cons d rest =>
      rw [List.forall_mem_cons] at h
      cases rest with
      | nil =>
        simp only [List.forall_mem_cons]
        exact ⟨h.1, hmark, hexponent⟩
      | cons d' rest =>
        simp only [List.cons_append, List.forall_mem_cons, List.forall_mem_append] at h ⊢
        exact ⟨h.1, hpoint, h.2.1, h.2.2, hmark, hexponent⟩

theorem ne_halfMark_of_mem_decimalText (negative : Bool) (coefficient : Nat) (scale : Int) :
    ∀ c ∈ decimalText negative coefficient scale, c ≠ halfMark := by
  have htrimmed : ∀ c ∈ trimZeros (natDigits coefficient), c ≠ halfMark := by
    intro c hc
    have hkept := (List.dropWhile_sublist _).subset (List.mem_reverse.mp hc)
    exact ne_halfMark_of_mem_natDigits c (List.mem_reverse.mp hkept)
  exact List.forall_mem_append.mpr
    ⟨ne_halfMark_of_mem_signText, ne_halfMark_of_mem_layout htrimmed _⟩

theorem ne_halfMark_of_mem_exactText (negative : Bool) (units : Nat) :
    ∀ c ∈ exactText negative units, c ≠ halfMark := by
  simp only [exactText, List.forall_mem_append, List.forall_mem_cons]
  exact ⟨⟨ne_halfMark_of_mem_signText, ne_halfMark_of_mem_natDigits⟩, by decide,
    ne_halfMark_of_mem_intDigits⟩

theorem ne_halfMark_of_mem_candidates {negative : Bool} {units : Nat} {cs : List Char}
    (h : cs ∈ candidates negative units) : ∀ c ∈ cs, c ≠ halfMark := by
  obtain ⟨i, -, hmem⟩ := List.mem_flatMap.mp h
  obtain ⟨neighbour, -, rfl⟩ := List.mem_map.mp hmem
  exact ne_halfMark_of_mem_decimalText negative neighbour.1 neighbour.2

theorem ne_halfMark_of_mem_writeFloat (x : Binary64) : ∀ c ∈ Json.writeFloat x, c ≠ halfMark := by
  cases x with
  | infinite negative =>
    exact List.forall_mem_append.mpr
      ⟨ne_halfMark_of_mem_signText, ne_halfMark_of_all (by decide)⟩
  | nan => exact ne_halfMark_of_all (by decide)
  | finite negative significand exponent h =>
    rw [Json.writeFloat]
    cases significand with
    | zero =>
      exact List.forall_mem_append.mpr
        ⟨ne_halfMark_of_mem_signText, ne_halfMark_of_all (by decide)⟩
    | succ k =>
      rw [numeralText]
      · cases hfind : (candidates negative ((k + 1) * 2 ^ exponent)).find? fun cs =>
            ofText? cs == some (.finite negative (k + 1) exponent h) with
        | none => exact ne_halfMark_of_mem_exactText negative _
        | some cs => exact ne_halfMark_of_mem_candidates (List.mem_of_find?_eq_some hfind)
      · intro hzero
        cases hzero

end Binary64

end Number

/-! ## Values -/

namespace Json

theorem arePlain_unitEscape (u : Nat) : ArePlain (unitEscape u) := by
  have hdigit : ∀ n < 16, hexDigit n ≠ halfMark := by decide
  have hmod : ∀ n : Nat, hexDigit (n % 16) ≠ halfMark :=
    fun n => hdigit _ (Nat.mod_lt n (by decide))
  refine arePlain_of_ne ?_
  simp only [unitEscape, List.forall_mem_cons]
  exact ⟨by decide, by decide, hmod _, hmod _, hmod _, hmod _, List.forall_mem_nil _⟩

theorem arePlain_writeCode (asciiOnly : Bool) (code : Code) :
    ArePlain (writeCode asciiOnly code) := by
  cases code with
  | half i => exact arePlain_unitEscape _
  | char c =>
    have hwritten := charText_writeChar asciiOnly c
    rw [writeCode]
    generalize writeChar asciiOnly c = cs at hwritten ⊢
    cases hwritten with
    | @short e h =>
      have he : e ≠ halfMark := by
        rintro rfl
        cases h
      exact .cons (by decide) (arePlain_of_ne (List.forall_mem_singleton.mpr he))
    | unit =>
      rw [charEscape]
      split
      · exact arePlain_unitEscape _
      · exact (arePlain_unitEscape _).append (arePlain_unitEscape _)
    | plain hquote hslash hcontrol => exact arePlain_marked c

theorem arePlain_writeText (asciiOnly : Bool) (s : String) : ArePlain (writeText asciiOnly s) := by
  have hcodes : ArePlain ((codes s.toList).flatMap (writeCode asciiOnly)) :=
    arePlain_flatMap fun code _ => arePlain_writeCode asciiOnly code
  exact .enclosed (by decide) (by decide) hcodes

theorem ne_halfMark_of_isBlank {c : Char} (h : isBlank c = true) : c ≠ halfMark := by
  rintro rfl
  exact absurd h (by decide)

theorem isBlank_of_skipBlank {cs : List Char} (h : skipBlank cs = []) :
    ∀ c ∈ cs, isBlank c = true :=
  List.dropWhile_eq_nil_iff.mp h

namespace Layout.Readable

variable {l : Layout} (hl : l.Readable)

include hl

theorem arePlain_itemSeparator : ArePlain l.itemSeparator := by
  obtain ⟨rest, hseparator, hblank⟩ := hl.item []
  rw [List.append_nil] at hseparator
  rw [hseparator]
  exact .cons (by decide) (arePlain_of_ne fun c hc =>
    ne_halfMark_of_isBlank (isBlank_of_skipBlank hblank c hc))

theorem arePlain_keySeparator : ArePlain l.keySeparator := by
  obtain ⟨rest, hseparator, hblank⟩ := hl.key []
  rw [List.append_nil] at hseparator
  rw [hseparator]
  exact .cons (by decide) (arePlain_of_ne fun c hc =>
    ne_halfMark_of_isBlank (isBlank_of_skipBlank hblank c hc))

theorem arePlain_writeElements {vs : List Json} (h : ∀ v ∈ vs, ArePlain (writeChars l v)) :
    ArePlain (writeElements l vs) := by
  induction vs with
  | nil => exact ⟨[], rfl⟩
  | cons v vs ih =>
    rw [List.forall_mem_cons] at h
    rw [writeElements]
    refine h.1.append ?_
    split
    · exact ⟨[], rfl⟩
    · exact hl.arePlain_itemSeparator.append (ih h.2)

theorem arePlain_writeMembers {ms : Members} (h : ∀ m ∈ ms, ArePlain (writeChars l m.2)) :
    ArePlain (writeMembers l ms) := by
  induction ms with
  | nil => exact ⟨[], rfl⟩
  | cons m ms ih =>
    rw [List.forall_mem_cons] at h
    rw [writeMembers]
    refine (((arePlain_writeText _ _).append hl.arePlain_keySeparator).append h.1).append ?_
    split
    · exact ⟨[], rfl⟩
    · exact hl.arePlain_itemSeparator.append (ih h.2)

theorem arePlain_writeChars (v : Json) : ArePlain (writeChars l v) := by
  induction v using inductionOn with
  | null =>
    change ArePlain ['n', 'u', 'l', 'l']
    exact arePlain_of_ne (ne_halfMark_of_all (by decide))
  | bool b =>
    cases b with
    | true =>
      change ArePlain ['t', 'r', 'u', 'e']
      exact arePlain_of_ne (ne_halfMark_of_all (by decide))
    | false =>
      change ArePlain ['f', 'a', 'l', 's', 'e']
      exact arePlain_of_ne (ne_halfMark_of_all (by decide))
  | int n => exact arePlain_of_ne ne_halfMark_of_mem_intDigits
  | float x => exact arePlain_of_ne (Binary64.ne_halfMark_of_mem_writeFloat x)
  | str s => exact arePlain_writeText l.asciiOnly s
  | arr vs ih => exact .enclosed (by decide) (by decide) (hl.arePlain_writeElements ih)
  | obj ms ih => exact .enclosed (by decide) (by decide) (hl.arePlain_writeMembers ih)

theorem isPlain_write (v : Json) : IsPlain (v.write l) :=
  isPlain_ofList (hl.arePlain_writeChars v)

end Layout.Readable

end Json

end StudioQuote
