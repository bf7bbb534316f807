/-!
# Halves of surrogate pairs

A character outside the basic plane is written as two 16-bit halves. A half that stands
alone denotes no character, but a text may hold one. Texts are kept in a marked form: a
half is a mark and a character that numbers the half, the mark itself is written twice,
and every other character is written as it is. The marked form determines the text
(`codes_flatMap_marked`), and the form of two texts in a row is that of each in a row.
-/

namespace StudioQuote.Text

def isHighHalf (u : Nat) : Bool :=
  0xD800 ≤ u && u < 0xDC00

def isLowHalf (u : Nat) : Bool :=
  0xDC00 ≤ u && u < 0xE000

def ofHalves (high low : Nat) : Char :=
  Char.ofNat (0x10000 + (high - 0xD800) * 0x400 + (low - 0xDC00))

/-- What stands at one place of a text. -/
inductive Code where
  | char (c : Char)
  | half (i : Fin 0x800)
  deriving DecidableEq

/-- The mark in front of a half: the last of the characters that are set aside for use
inside a program. -/
def halfMark : Char := Char.ofNat 0x10FFFF

/-- The character that numbers a half behind the mark. -/
def halfSign (i : Fin 0x800) : Char :=
  Char.ofNat (0x10F000 + i)

def halfOfSign? (c : Char) : Option (Fin 0x800) :=
  if h : 0x10F000 ≤ c.toNat ∧ c.toNat < 0x10F800 then some ⟨c.toNat - 0x10F000, by omega⟩
  else none

theorem toNat_halfSign (i : Fin 0x800) : (halfSign i).toNat = 0x10F000 + i := by
  have h : (0x10F000 + i.val).isValidChar := Or.inr ⟨by omega, by omega⟩
  rw [halfSign, Char.ofNat, dif_pos h]
  rfl

theorem halfOfSign?_halfSign (i : Fin 0x800) : halfOfSign? (halfSign i) = some i := by
  have h := toNat_halfSign i
  rw [halfOfSign?, dif_pos ⟨by omega, by omega⟩]
  simp [h]

theorem halfOfSign?_halfMark : halfOfSign? halfMark = none := by
  decide

namespace Code

/-- What a number denotes by itself. -/
def ofNumber (n : Nat) : Code :=
  if h : 0xD800 ≤ n ∧ n < 0xE000 then .half ⟨n - 0xD800, by omega⟩ else .char (Char.ofNat n)

def number : Code → Nat
  | .char c => c.toNat
  | .half i => 0xD800 + i

def isHalf : Code → Bool
  | .char _ => false
  | .half _ => true

def char? : Code → Option Char
  | .char c => some c
  | .half _ => none

def marked : Code → List Char
  | .char c => if c = halfMark then [halfMark, halfMark] else [c]
  | .half i => [halfMark, halfSign i]

end Code

def codes : List Char → List Code
  | [] => []
  | [c] => [.char c]
  | c :: d :: rest =>
    if c = halfMark then (halfOfSign? d).elim (.char c) .half :: codes rest
    else .char c :: codes (d :: rest)

theorem codes_marked_append (code : Code) (rest : List Char) :
    codes (code.marked ++ rest) = code :: codes rest := by
  cases code with
  | half i => simp [Code.marked, codes, halfOfSign?_halfSign]
  | char c =>
    by_cases h : c = halfMark
    · subst h
      simp [Code.marked, codes, halfOfSign?_halfMark]
    · cases rest with
      | nil => simp [Code.marked, codes, h]
      | cons d rest => simp [Code.marked, codes, h]

theorem codes_flatMap_marked (cs : List Code) : codes (cs.flatMap Code.marked) = cs := by
  induction cs with
  | nil => rfl
  | cons code rest ih => rw [List.flatMap_cons, codes_marked_append, ih]

def hasLoneHalf (s : String) : Bool :=
  (codes s.toList).any Code.isHalf

def ofPlainChars (cs : List Char) : List Char :=
  cs.flatMap fun c => (Code.char c).marked

def ofPlain (s : String) : String :=
  String.ofList (ofPlainChars s.toList)

/-- The text of a marked form, if it consists of characters only. -/
def toPlain? (s : String) : Option String :=
  ((codes s.toList).mapM Code.char?).map String.ofList

/-- Whether a text is the marked form of a text of characters. -/
def isPlain (s : String) : Bool :=
  (toPlain? s).any (ofPlain · == s)

end StudioQuote.Text
