import StudioQuote.Proofs.Json.Text
import StudioQuote.Proofs.Number.FloatText

/-!
# Written values read back

Reading what was written for a value meets exactly the faults that `check` finds in the
value, and otherwise gives the value as it is read back: with halves of surrogate pairs
joined in its texts and with only the last member of a repeated key.
-/

namespace StudioQuote

open Number

namespace Json

mutual

def reread : Json → Json
  | .str s => .str (Text.reread s)
  | .arr elements => .arr (rereadElements elements)
  | .obj members => .obj (lastMembers (rereadMembers members))
  | v => v

def rereadElements : List Json → List Json
  | [] => []
  | v :: rest => reread v :: rereadElements rest

def rereadMembers : List (String × Json) → List (String × Json)
  | [] => []
  | (key, v) :: rest => (Text.reread key, reread v) :: rereadMembers rest

end

def checkText (d : Dialect) (s : String) : Except Fault Unit :=
  if d.isStrict && Text.keepsHalf s then .error .malformed else .ok ()

def checkInt (n : Int) : Except Fault Unit :=
  if maxDigits < (natDigits n.natAbs).length then
    .error (.integerTooLong (natDigits n.natAbs).length)
  else .ok ()

/-- How many digits stand in front of the point of a floating-point number. -/
def wholeDigits (x : Binary64) : Nat :=
  ((Numeral.read x.numeralText).map fun r => r.1.whole.length).getD 0

def checkFloat (d : Dialect) (x : Binary64) : Except Fault Unit :=
  if d.isStrict && maxDigits < wholeDigits x then .error .malformed else .ok ()

mutual

/-- The first fault that is met when a value is read back. -/
def check (d : Dialect) : Json → Except Fault Unit
  | .int n => checkInt n
  | .float x => checkFloat d x
  | .str s => checkText d s
  | .arr elements =>
    if elements.isEmpty then d.checkEmpty .array
    else do checkElements (← d.inside .array) elements
  | .obj members =>
    if members.isEmpty then d.checkEmpty .object
    else do checkMembers (← d.inside .object) members
  | _ => .ok ()

def checkElements (d : Dialect) : List Json → Except Fault Unit
  | [] => .ok ()
  | v :: rest => do check d v; checkElements d rest

def checkMembers (d : Dialect) : List (String × Json) → Except Fault Unit
  | [] => .ok ()
  | (key, v) :: rest => do checkText d key; check d v; checkMembers d rest

end

mutual

/-- How many steps the reader needs for a value. -/
def steps : Json → Nat
  | .arr elements => stepsOfElements elements + 1
  | .obj members => stepsOfMembers members + 1
  | _ => 1

def stepsOfElements : List Json → Nat
  | [] => 0
  | v :: rest => max (steps v) (stepsOfElements rest) + 1

def stepsOfMembers : List (String × Json) → Nat
  | [] => 0
  | (_, v) :: rest => max (steps v) (stepsOfMembers rest) + 1

end

/-- Separators that begin with the right sign and go on with blanks only. -/
structure Layout.Readable (l : Layout) : Prop where
  item : ∀ cs, ∃ rest, l.itemSeparator ++ cs = ',' :: rest ∧ skipBlank rest = skipBlank cs
  key : ∀ cs, ∃ rest, l.keySeparator ++ cs = ':' :: rest ∧ skipBlank rest = skipBlank cs

theorem readable_compact : Layout.compact.Readable where
  item cs := ⟨cs, rfl, rfl⟩
  key cs := ⟨cs, rfl, rfl⟩

theorem readable_spaced : Layout.spaced.Readable where
  item cs := ⟨' ' :: cs, rfl, rfl⟩
  key cs := ⟨' ' :: cs, rfl, rfl⟩

/-! ## Atoms -/

theorem readWord_of_digit {c : Char} (hc : c.isDigit = true) (cs : List Char) :
    readWord (c :: cs) = none := by
  rw [readWord.eq_def]
  split
  all_goals first
    | rfl
    | exact absurd (List.cons.inj ‹_ = _›).1 (ne_of_isDigit hc (by decide))

theorem readWord_of_minus {c : Char} (hc : c.isDigit = true) (cs : List Char) :
    readWord ('-' :: c :: cs) = none := by
  have hne : c ≠ 'I' := ne_of_isDigit hc (by decide)
  rw [readWord.eq_def]
  split
  all_goals first
    | rfl
    | exact absurd (List.cons.inj ‹_ = _›).1 (by decide)
    | exact absurd (List.cons.inj (List.cons.inj ‹_ = _›).2).1 hne

theorem readWord_of_read {cs : List Char} {r : Numeral × List Char}
    (h : Numeral.read cs = some r) (rest : List Char) : readWord (cs ++ rest) = none := by
  obtain ⟨c, tail, hc, rfl | rfl⟩ := Numeral.exists_digit_of_read h
  · exact readWord_of_digit hc _
  · exact readWord_of_minus hc _

theorem readAtom_numeral (d : Dialect) {cs rest : List Char} {n : Numeral}
    (h : Numeral.read cs = some (n, [])) (hrest : EndsNumber rest) :
    readAtom d (cs ++ rest) = (ofNumeral d n).map (·, rest) := by
  rw [readAtom, readWord_of_read h, Numeral.read_append h hrest]

theorem read_intDigits_nil (n : Int) :
    Numeral.read (intDigits n) = some (⟨decide (n < 0), natDigits n.natAbs, none, none⟩, []) := by
  have h := Numeral.read_intDigits n endsNumber_nil
  rw [List.append_nil] at h
  exact h

theorem ofNumeral_int (d : Dialect) (n : Int) :
    ofNumeral d ⟨decide (n < 0), natDigits n.natAbs, none, none⟩ =
      (checkInt n).map fun _ => .int n := by
  have hint : Numeral.isInteger ⟨decide (n < 0), natDigits n.natAbs, none, none⟩ = true := rfl
  rw [ofNumeral, if_pos hint, Numeral.toInt_natDigits, checkInt]
  split
  · rfl
  · rfl

theorem ofNumeral_float (d : Dialect) {x : Binary64} {n : Numeral}
    (h : Numeral.read x.numeralText = some (n, [])) (hint : n.isInteger = false)
    (hx : Binary64.ofNumeral n = x) :
    ofNumeral d n = (checkFloat d x).map fun _ => .float x := by
  have hwhole : wholeDigits x = n.whole.length := by
    rw [wholeDigits, h, Option.map_some, Option.getD_some]
  rw [ofNumeral, if_neg (by rw [hint]; exact Bool.false_ne_true), checkFloat, hwhole, hx]
  split
  · rfl
  · rfl

theorem eq_cons_of_read {cs : List Char} {r : Numeral × List Char} (h : Numeral.read cs = some r) :
    ∃ c tail, cs = c :: tail ∧ isBlank c = false ∧ c ≠ ']' ∧ c ≠ '"' ∧ c ≠ '[' ∧ c ≠ '{' := by
  obtain ⟨c, tail, hc, rfl | rfl⟩ := Numeral.exists_digit_of_read h
  · have hne : ∀ d : Char, d.isDigit = false → c ≠ d := fun d => ne_of_isDigit hc
    have hblank : isBlank c = false := by
      simp [isBlank, hne ' ' (by decide), hne '\t' (by decide), hne '\n' (by decide),
        hne '\r' (by decide)]
    exact ⟨c, tail, rfl, hblank, hne _ (by decide), hne _ (by decide), hne _ (by decide),
      hne _ (by decide)⟩
  · exact ⟨'-', c :: tail, rfl, by decide, by decide, by decide, by decide, by decide⟩

theorem writeChars_eq_cons (l : Layout) (v : Json) :
    ∃ c cs, writeChars l v = c :: cs ∧ isBlank c = false ∧ c ≠ ']' := by
  cases v with
  | null => exact ⟨_, _, rfl, rfl, by decide⟩
  | bool b => cases b with
    | true => exact ⟨_, _, rfl, rfl, by decide⟩
    | false => exact ⟨_, _, rfl, rfl, by decide⟩
  | int n =>
    obtain ⟨c, cs, hcs, hblank, hclose, -⟩ := eq_cons_of_read (read_intDigits_nil n)
    exact ⟨c, cs, hcs, hblank, hclose⟩
  | float x => cases x with
    | finite negative significand exponent h =>
      obtain ⟨n, hread, -⟩ := Binary64.ofText?_eq_some_iff.mp
        (Binary64.ofText?_numeralText (x := .finite negative significand exponent h) rfl)
      obtain ⟨c, cs, hcs, hblank, hclose, -⟩ := eq_cons_of_read hread
      exact ⟨c, cs, hcs, hblank, hclose⟩
    | infinite negative => cases negative with
      | true => exact ⟨_, _, rfl, rfl, by decide⟩
      | false => exact ⟨_, _, rfl, rfl, by decide⟩
    | nan => exact ⟨_, _, rfl, rfl, by decide⟩
  | str s => exact ⟨_, _, rfl, rfl, by decide⟩
  | arr vs => exact ⟨_, _, rfl, rfl, by decide⟩
  | obj ms => exact ⟨_, _, rfl, rfl, by decide⟩

theorem skipBlank_cons {c : Char} (hc : isBlank c = false) (cs : List Char) :
    skipBlank (c :: cs) = c :: cs := by
  rw [skipBlank, List.dropWhile_cons_of_neg]
  rw [hc]
  exact Bool.false_ne_true

theorem readValue_atom {n : Nat} {d : Dialect} {c : Char} (cs : List Char) (hquote : c ≠ '"')
    (harray : c ≠ '[') (hobject : c ≠ '{') :
    readValue (n + 1) d (c :: cs) = readAtom d (c :: cs) := by
  rw [readValue.eq_def]
  split
  · rename_i h
    cases h
  · rename_i h
    exact absurd (List.cons.inj h).1 hquote
  · rename_i h
    exact absurd (List.cons.inj h).1 harray
  · rename_i h
    exact absurd (List.cons.inj h).1 hobject
  · rfl

theorem readValue_numeral (m : Nat) (d : Dialect) {cs rest : List Char} {n : Numeral}
    (h : Numeral.read cs = some (n, [])) (hrest : EndsNumber rest) :
    readValue (m + 1) d (cs ++ rest) = (ofNumeral d n).map (·, rest) := by
  have hatom := readAtom_numeral d h hrest
  obtain ⟨c, tail, rfl, -, -, hquote, harray, hobject⟩ := eq_cons_of_read h
  rw [List.cons_append] at hatom ⊢
  rw [readValue_atom _ hquote harray hobject, hatom]

theorem readValue_int (m : Nat) (d : Dialect) (n : Int) {rest : List Char}
    (hrest : EndsNumber rest) :
    readValue (m + 1) d (intDigits n ++ rest) = (checkInt n).map fun _ => (.int n, rest) := by
  rw [readValue_numeral m d (read_intDigits_nil n) hrest, ofNumeral_int]
  cases checkInt n with
  | ok u => rfl
  | error fault => rfl

theorem readValue_float (m : Nat) (d : Dialect) (x : Binary64) {rest : List Char}
    (hrest : EndsNumber rest) :
    readValue (m + 1) d (writeFloat x ++ rest) =
      (checkFloat d x).map fun _ => (.float x, rest) := by
  have hnamed : x.isFinite = false → checkFloat d x = .ok () := by
    intro hx
    have hwhole : wholeDigits x = 0 := by
      cases x with
      | finite negative significand exponent h => cases hx
      | infinite negative => cases negative <;> rfl
      | nan => rfl
    rw [checkFloat, hwhole, if_neg]
    simp
  cases x with
  | finite negative significand exponent h =>
    obtain ⟨n, hread, hint, hx⟩ := Binary64.ofText?_eq_some_iff.mp
      (Binary64.ofText?_numeralText (x := .finite negative significand exponent h) rfl)
    rw [writeFloat, readValue_numeral m d hread hrest, ofNumeral_float d hread hint hx]
    cases checkFloat d (.finite negative significand exponent h) with
    | ok u => rfl
    | error fault => rfl
  | infinite negative =>
    rw [hnamed rfl]
    cases negative <;> rfl
  | nan =>
    rw [hnamed rfl]
    rfl

theorem readValue_array {n : Nat} {d : Dialect} {c : Char} {cs rest : List Char}
    {r : Dialect → Except Fault Unit} {vs : List Json} (hblank : isBlank c = false)
    (hclose : c ≠ ']')
    (h : ∀ d', readElements n d' (c :: cs) = (r d').map fun _ => (vs, rest)) :
    readValue (n + 1) d ('[' :: c :: cs) =
      (do r (← d.inside .array)).map fun _ => (.arr vs, rest) := by
  rw [readValue, skipBlank_cons hblank]
  split
  · rename_i heq
    exact absurd (List.cons.inj heq).1 hclose
  · cases d.inside .array with
    | error fault => rfl
    | ok d' =>
      change (do
        let r ← readElements n d' (c :: cs)
        return (.arr r.1, r.2) : Except Fault (Json × List Char)) = (r d').map _
      rw [h]
      cases r d' with
      | error fault => rfl
      | ok u => rfl

theorem readValue_object {n : Nat} {d : Dialect} {cs rest : List Char}
    {r : Dialect → Except Fault Unit} {ms : Members}
    (h : ∀ d', readMembers n d' ('"' :: cs) = (r d').map fun _ => (ms, rest)) :
    readValue (n + 1) d ('{' :: '"' :: cs) =
      (do r (← d.inside .object)).map fun _ => (.obj (lastMembers ms), rest) := by
  change (do
    let r ← readMembers n (← d.inside .object) ('"' :: cs)
    return (.obj (lastMembers r.1), r.2) : Except Fault (Json × List Char)) = _
  cases d.inside .object with
  | error fault => rfl
  | ok d' =>
    change (do
      let r ← readMembers n d' ('"' :: cs)
      return (.obj (lastMembers r.1), r.2) : Except Fault (Json × List Char)) = (r d').map _
    rw [h]
    cases r d' with
    | error fault => rfl
    | ok u => rfl

theorem endsNumber_comma (cs : List Char) : EndsNumber (',' :: cs) :=
  endsNumber_cons (by decide)

theorem endsNumber_bracket (cs : List Char) : EndsNumber (']' :: cs) :=
  endsNumber_cons (by decide)

theorem endsNumber_brace (cs : List Char) : EndsNumber ('}' :: cs) :=
  endsNumber_cons (by decide)

/-! ## Values -/

theorem readValue_string (n : Nat) (d : Dialect) (cs : List Char) :
    readValue (n + 1) d ('"' :: cs) = (do
      let r ← readString d.isStrict cs
      return (.str r.1, r.2)) :=
  rfl

theorem readValue_emptyArray (n : Nat) (d : Dialect) (rest : List Char) :
    readValue (n + 1) d ('[' :: ']' :: rest) =
      (d.checkEmpty .array).map fun _ => (.arr [], rest) :=
  rfl

theorem readValue_emptyObject (n : Nat) (d : Dialect) (rest : List Char) :
    readValue (n + 1) d ('{' :: '}' :: rest) =
      (d.checkEmpty .object).map fun _ => (.obj [], rest) :=
  rfl

theorem readElements_last {n : Nat} {d : Dialect} {cs rest : List Char} {r : Except Fault Unit}
    {v : Json}
    (h : readValue n d cs = r.map fun _ => (v, ']' :: rest)) :
    readElements (n + 1) d cs = r.map fun _ => ([v], rest) := by
  rw [readElements, h]
  cases r with
  | error fault => rfl
  | ok u => rfl

theorem readElements_more {l : Layout} (hl : l.Readable) {n : Nat} {d : Dialect}
    {cs more rest : List Char} {r q : Except Fault Unit} {v : Json} {vs : List Json}
    (h : readValue n d cs = r.map fun _ => (v, l.itemSeparator ++ more))
    (hblank : skipBlank more = more)
    (hmore : readElements n d more = q.map fun _ => (vs, rest)) :
    readElements (n + 1) d cs = (do r; q).map fun _ => (v :: vs, rest) := by
  obtain ⟨tail, htail, hskip⟩ := hl.item more
  rw [htail] at h
  rw [readElements, h]
  cases r with
  | error fault => rfl
  | ok u =>
    change (do
      let r ← readElements n d (skipBlank tail)
      return (v :: r.1, r.2) : Except Fault (List Json × List Char)) = _
    rw [hskip, hblank, hmore]
    cases q with
    | error fault => rfl
    | ok u => rfl

theorem readMembers_last {l : Layout} (hl : l.Readable) {n : Nat} {d : Dialect} (key : String)
    {cs rest : List Char} {r : Except Fault Unit} {v : Json} (hblank : skipBlank cs = cs)
    (h : readValue n d cs = r.map fun _ => (v, '}' :: rest)) :
    readMembers (n + 1) d (writeText l.asciiOnly key ++ (l.keySeparator ++ cs)) =
      (do checkText d key; r).map fun _ => ([(Text.reread key, v)], rest) := by
  obtain ⟨tail, htail, hskip⟩ := hl.key cs
  rw [htail, writeText, List.cons_append, List.cons_append, List.append_assoc,
    List.singleton_append, readMembers, readString_text, checkText]
  split
  · rfl
  · change (readValue n d (skipBlank tail) >>= _ : Except Fault (Members × List Char)) = _
    rw [hskip, hblank, h]
    cases r with
    | error fault => rfl
    | ok u => rfl

theorem readMembers_more {l : Layout} (hl : l.Readable) {n : Nat} {d : Dialect} (key : String)
    {cs more rest : List Char} {r q : Except Fault Unit} {v : Json} {ms : Members}
    (hblank : skipBlank cs = cs)
    (h : readValue n d cs = r.map fun _ => (v, l.itemSeparator ++ more))
    (hblank' : skipBlank more = more)
    (hmore : readMembers n d more = q.map fun _ => (ms, rest)) :
    readMembers (n + 1) d (writeText l.asciiOnly key ++ (l.keySeparator ++ cs)) =
      (do checkText d key; r; q).map fun _ => ((Text.reread key, v) :: ms, rest) := by
  obtain ⟨tail, htail, hskip⟩ := hl.key cs
  obtain ⟨tail', htail', hskip'⟩ := hl.item more
  rw [htail'] at h
  rw [htail, writeText, List.cons_append, List.cons_append, List.append_assoc,
    List.singleton_append, readMembers, readString_text, checkText]
  split
  · rfl
  · change (readValue n d (skipBlank tail) >>= _ : Except Fault (Members × List Char)) = _
    rw [hskip, hblank, h]
    cases r with
    | error fault => rfl
    | ok u =>
      change (do
        let r ← readMembers n d (skipBlank tail')
        return ((Text.reread key, v) :: r.1, r.2) : Except Fault (Members × List Char)) = _
      rw [hskip', hblank', hmore]
      cases q with
      | error fault => rfl
      | ok u => rfl

theorem skipBlank_writeChars (l : Layout) (v : Json) (rest : List Char) :
    skipBlank (writeChars l v ++ rest) = writeChars l v ++ rest := by
  obtain ⟨c, cs, hcs, hblank, -⟩ := writeChars_eq_cons l v
  rw [hcs, List.cons_append, skipBlank_cons hblank]

theorem writeElements_singleton (l : Layout) (v : Json) :
    writeElements l [v] = writeChars l v := by
  rw [writeElements, List.isEmpty_nil, if_pos rfl, List.append_nil]

theorem writeElements_cons_cons (l : Layout) (v w : Json) (vs : List Json) :
    writeElements l (v :: w :: vs) =
      writeChars l v ++ (l.itemSeparator ++ writeElements l (w :: vs)) := by
  rw [writeElements, List.isEmpty_cons, if_neg Bool.false_ne_true]

theorem skipBlank_writeElements (l : Layout) (v : Json) (vs : List Json) (rest : List Char) :
    skipBlank (writeElements l (v :: vs) ++ rest) = writeElements l (v :: vs) ++ rest := by
  rw [writeElements, List.append_assoc, skipBlank_writeChars]

theorem writeMembers_singleton (l : Layout) (key : String) (v : Json) :
    writeMembers l [(key, v)] =
      writeText l.asciiOnly key ++ (l.keySeparator ++ writeChars l v) := by
  rw [writeMembers, List.isEmpty_nil, if_pos rfl, List.append_nil, List.append_assoc]

theorem writeMembers_cons_cons (l : Layout) (key : String) (v : Json) (m : String × Json)
    (ms : List (String × Json)) :
    writeMembers l ((key, v) :: m :: ms) =
      writeText l.asciiOnly key ++
        (l.keySeparator ++ (writeChars l v ++ (l.itemSeparator ++ writeMembers l (m :: ms)))) := by
  rw [writeMembers, List.isEmpty_cons, if_neg Bool.false_ne_true, List.append_assoc,
    List.append_assoc]

theorem skipBlank_writeMembers (l : Layout) (m : String × Json) (ms : List (String × Json))
    (rest : List Char) :
    skipBlank (writeMembers l (m :: ms) ++ rest) = writeMembers l (m :: ms) ++ rest :=
  rfl

theorem endsNumber_itemSeparator {l : Layout} (hl : l.Readable) (cs : List Char) :
    EndsNumber (l.itemSeparator ++ cs) := by
  obtain ⟨tail, htail, -⟩ := hl.item cs
  rw [htail]
  exact endsNumber_comma tail

mutual

theorem readValue_writeChars {l : Layout} (hl : l.Readable) (v : Json) (n : Nat) (d : Dialect)
    (rest : List Char) (hn : steps v ≤ n) (hrest : EndsNumber rest) :
    readValue n d (writeChars l v ++ rest) = (check d v).map fun _ => (reread v, rest) := by
  cases n with
  | zero => cases v <;> simp only [steps] at hn <;> omega
  | succ n =>
    cases v with
    | null => rfl
    | bool b => cases b <;> rfl
    | int k => exact readValue_int n d k hrest
    | float x => exact readValue_float n d x hrest
    | str s =>
      rw [writeChars, writeText, List.cons_append, List.cons_append, List.append_assoc,
        List.singleton_append, readValue_string, readString_text, check, checkText, reread]
      split
      · rfl
      · rfl
    | arr vs =>
      rw [writeChars, List.cons_append, List.cons_append, List.append_assoc, check, reread]
      cases vs with
      | nil => exact readValue_emptyArray n d rest
      | cons v vs =>
        obtain ⟨c, cs, hcs, hblank, hclose⟩ := writeChars_eq_cons l v
        have h := fun d => readElements_writeElements hl (v :: vs) n d rest
          (List.cons_ne_nil v vs) (Nat.le_of_succ_le_succ hn)
        rw [writeElements, hcs, List.cons_append, List.cons_append] at h ⊢
        rw [List.isEmpty_cons, if_neg Bool.false_ne_true]
        exact readValue_array hblank hclose h
    | obj ms =>
      rw [writeChars, List.cons_append, List.cons_append, List.append_assoc, check, reread]
      cases ms with
      | nil => exact readValue_emptyObject n d rest
      | cons m ms =>
        have h := fun d => readMembers_writeMembers hl (m :: ms) n d rest
          (List.cons_ne_nil m ms) (Nat.le_of_succ_le_succ hn)
        rw [List.isEmpty_cons, if_neg Bool.false_ne_true]
        exact readValue_object h

theorem readElements_writeElements {l : Layout} (hl : l.Readable) (vs : List Json) (n : Nat)
    (d : Dialect) (rest : List Char) (hne : vs ≠ [])
    (hn : stepsOfElements vs ≤ n) :
    readElements n d (writeElements l vs ++ ']' :: rest) =
      (checkElements d vs).map fun _ => (rereadElements vs, rest) := by
  cases vs with
  | nil => exact absurd rfl hne
  | cons v vs =>
    rw [stepsOfElements] at hn
    cases n with
    | zero => omega
    | succ n =>
      cases vs with
      | nil =>
        have h := readValue_writeChars hl v n d (']' :: rest) (by omega)
          (endsNumber_bracket rest)
        rw [writeElements_singleton, readElements_last h]
        cases hc : check d v with
        | error fault => simp only [checkElements, hc, bind, Except.bind, Except.map]
        | ok u => simp only [checkElements, hc, bind, Except.bind, Except.map, rereadElements]
      | cons w vs =>
        have h := readValue_writeChars hl v n d
          (l.itemSeparator ++ (writeElements l (w :: vs) ++ ']' :: rest)) (by omega)
          (endsNumber_itemSeparator hl _)
        have hmore := readElements_writeElements hl (w :: vs) n d rest
          (List.cons_ne_nil w vs) (by omega)
        have hblank := skipBlank_writeElements l w vs (']' :: rest)
        rw [writeElements_cons_cons, List.append_assoc, List.append_assoc,
          readElements_more hl h hblank hmore]
        rfl

theorem readMembers_writeMembers {l : Layout} (hl : l.Readable) (ms : List (String × Json))
    (n : Nat) (d : Dialect) (rest : List Char) (hne : ms ≠ []) (hn : stepsOfMembers ms ≤ n) :
    readMembers n d (writeMembers l ms ++ '}' :: rest) =
      (checkMembers d ms).map fun _ => (rereadMembers ms, rest) := by
  cases ms with
  | nil => exact absurd rfl hne
  | cons m ms =>
    obtain ⟨key, v⟩ := m
    rw [stepsOfMembers] at hn
    cases n with
    | zero => omega
    | succ n =>
      cases ms with
      | nil =>
        have h := readValue_writeChars hl v n d ('}' :: rest) (by omega)
          (endsNumber_brace rest)
        rw [writeMembers_singleton, List.append_assoc, List.append_assoc,
          readMembers_last hl key (skipBlank_writeChars l v _) h]
        cases ht : checkText d key with
        | error fault => simp only [checkMembers, ht, bind, Except.bind, Except.map]
        | ok u =>
          cases hc : check d v with
          | error fault => simp only [checkMembers, ht, hc, bind, Except.bind, Except.map]
          | ok u => simp only [checkMembers, ht, hc, bind, Except.bind, Except.map, rereadMembers]
      | cons m ms =>
        have h := readValue_writeChars hl v n d
          (l.itemSeparator ++ (writeMembers l (m :: ms) ++ '}' :: rest)) (by omega)
          (endsNumber_itemSeparator hl _)
        have hmore := readMembers_writeMembers hl (m :: ms) n d rest
          (List.cons_ne_nil m ms) (by omega)
        rw [writeMembers_cons_cons, List.append_assoc, List.append_assoc, List.append_assoc,
          List.append_assoc, readMembers_more hl key (skipBlank_writeChars l v _) h
            (skipBlank_writeMembers l m ms _) hmore]
        rfl

end

/-! ## Whole texts -/

mutual

/-- The length of a written value bounds the steps that are needed to read it. -/
theorem steps_le (l : Layout) (v : Json) : steps v ≤ 2 * (writeChars l v).length := by
  cases v with
  | null => exact Nat.le_of_ble_eq_true rfl
  | bool b => cases b <;> exact Nat.le_of_ble_eq_true rfl
  | int n =>
    obtain ⟨c, cs, hcs, -, -⟩ := writeChars_eq_cons l (.int n)
    change 1 ≤ _
    rw [hcs, List.length_cons]
    omega
  | float x =>
    obtain ⟨c, cs, hcs, -, -⟩ := writeChars_eq_cons l (.float x)
    change 1 ≤ _
    rw [hcs, List.length_cons]
    omega
  | str s =>
    change 1 ≤ _
    rw [writeChars, writeText, List.length_append, List.length_cons]
    omega
  | arr vs =>
    have h := stepsOfElements_le l vs
    rw [steps, writeChars, List.length_append, List.length_cons]
    omega
  | obj ms =>
    have h := stepsOfMembers_le l ms
    rw [steps, writeChars, List.length_append, List.length_cons]
    omega

theorem stepsOfElements_le (l : Layout) (vs : List Json) :
    stepsOfElements vs ≤ 2 * (writeElements l vs).length + 1 := by
  cases vs with
  | nil => exact Nat.zero_le _
  | cons v vs =>
    have hv := steps_le l v
    have hrest := stepsOfElements_le l vs
    obtain ⟨c, cs, hcs, -, -⟩ := writeChars_eq_cons l v
    rw [hcs, List.length_cons] at hv
    rw [stepsOfElements, writeElements, hcs, List.length_append, List.length_cons]
    cases vs with
    | nil =>
      rw [stepsOfElements]
      omega
    | cons w vs =>
      rw [List.isEmpty_cons, if_neg Bool.false_ne_true, List.length_append]
      omega

theorem stepsOfMembers_le (l : Layout) (ms : List (String × Json)) :
    stepsOfMembers ms ≤ 2 * (writeMembers l ms).length + 1 := by
  cases ms with
  | nil => exact Nat.zero_le _
  | cons m ms =>
    obtain ⟨key, v⟩ := m
    have hv := steps_le l v
    have hrest := stepsOfMembers_le l ms
    rw [stepsOfMembers, writeMembers, writeText, List.length_append, List.length_append,
      List.length_append, List.length_append, List.length_cons]
    cases ms with
    | nil =>
      rw [stepsOfMembers]
      omega
    | cons m ms =>
      rw [List.isEmpty_cons, if_neg Bool.false_ne_true, List.length_append]
      omega

end

/-- A value that was written is read back, or its first fault is met. -/
theorem read_write {l : Layout} (hl : l.Readable) (d : Dialect) (v : Json) :
    read d (v.write l) = (check d v).map fun _ => reread v := by
  have hsteps := steps_le l v
  have hblank := skipBlank_writeChars l v []
  have h := readValue_writeChars hl v (2 * (writeChars l v).length + 2) d [] (by omega)
    endsNumber_nil
  rw [List.append_nil] at hblank h
  rw [read, readChars, write, String.toList_ofList, hblank, h]
  cases check d v with
  | error fault => rfl
  | ok u => rfl

end Json

end StudioQuote
