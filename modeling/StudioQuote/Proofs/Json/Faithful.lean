import StudioQuote.Json.Parts
import StudioQuote.Proofs.Json.RoundTrip
import StudioQuote.Reading.Scalar

/-!
# Values that are read back unchanged

A text is read back as it is when no high half stands directly in front of a low one in
it, for these two would be joined; the strict dialect wants no halves at all. An integer
is read back when it has no more digits than the reader takes. A value whose objects
repeat no key, and that is no deeper than the reader goes, is read back unchanged exactly
if this holds of all the integers and texts in it.
-/

namespace StudioQuote

namespace Text

/-- Whether a high half stands directly in front of a low one. -/
def splitsPair : List Code → Bool
  | .half i :: .half j :: rest =>
    (isHighHalf (0xD800 + i) && isLowHalf (0xD800 + j)) || splitsPair (.half j :: rest)
  | _ :: rest => splitsPair rest
  | [] => false

/-- A text in marked form in which no pair of halves is split. -/
def IsWhole (s : String) : Prop :=
  ∃ cs, s = String.ofList (cs.flatMap Code.marked) ∧ splitsPair cs = false

/-- The marked form of a text of characters. -/
def IsPlain (s : String) : Prop :=
  ∃ t, s = ofPlain t

theorem joined_eq_self_iff (cs : List Code) : joined cs = cs ↔ splitsPair cs = false := by
  induction cs using joined.induct with
  | case1 => simp [joined, splitsPair]
  | case2 i j rest h ih => simp [joined, splitsPair, h]
  | case3 i j rest h ih => simp [joined, splitsPair, h, ih]
  | case4 code rest h ih =>
    have hjoined : joined (code :: rest) = code :: joined rest := by
      rw [joined.eq_def]
      split
      · rename_i heq
        cases heq
      · rename_i i j tail heq
        obtain ⟨hcode, hrest⟩ := List.cons.inj heq
        exact (h i j tail hcode hrest).elim
      · rename_i heq
        rw [(List.cons.inj heq).1, (List.cons.inj heq).2]
    have hsplits : splitsPair (code :: rest) = splitsPair rest := by
      rw [splitsPair.eq_def]
      split
      · rename_i i j tail heq
        obtain ⟨hcode, hrest⟩ := List.cons.inj heq
        exact (h i j tail hcode hrest).elim
      · rename_i heq
        rw [(List.cons.inj heq).2]
      · rename_i heq
        cases heq
    rw [hjoined, hsplits, ← ih, List.cons.injEq]
    simp only [true_and]

theorem reread_eq_self_iff (s : String) : reread s = s ↔ IsWhole s := by
  constructor
  · intro h
    have hjoined : joined (codes s.toList) = codes s.toList := by
      have hcodes := congrArg (fun t : String => codes t.toList) h
      simp only [reread, String.toList_ofList, codes_flatMap_marked] at hcodes
      exact hcodes
    refine ⟨codes s.toList, ?_, (joined_eq_self_iff _).mp hjoined⟩
    rw [reread, hjoined] at h
    exact h.symm
  · rintro ⟨cs, rfl, hcs⟩
    rw [reread, String.toList_ofList, codes_flatMap_marked, (joined_eq_self_iff cs).mpr hcs]

theorem ofPlain_eq (t : String) :
    ofPlain t = String.ofList ((t.toList.map Code.char).flatMap Code.marked) := by
  rw [ofPlain, ofPlainChars, List.flatMap_map]

theorem eq_map_char_of_any_isHalf {cs : List Code} (h : cs.any Code.isHalf = false) :
    ∃ chars : List Char, cs = chars.map Code.char := by
  induction cs with
  | nil => exact ⟨[], rfl⟩
  | cons code cs ih =>
    rw [List.any_cons, Bool.or_eq_false_iff] at h
    obtain ⟨chars, rfl⟩ := ih h.2
    cases code with
    | char c => exact ⟨c :: chars, rfl⟩
    | half i => cases h.1

theorem isPlain_of_isUnmarked {s : String} (h : isUnmarked s = true) : IsPlain s := by
  refine ⟨s, ?_⟩
  have hreread := reread_of_unmarked h
  rw [reread, codes_of_unmarked (isUnmarked_iff.mp h), joined_map_char] at hreread
  rw [ofPlain_eq, hreread]

theorem codes_ofPlain (t : String) : codes (ofPlain t).toList = t.toList.map Code.char := by
  rw [ofPlain_eq, String.toList_ofList, codes_flatMap_marked]

theorem toPlain?_ofPlain (t : String) : toPlain? (ofPlain t) = some t := by
  have hchars : (t.toList.map Code.char).mapM Code.char? = some t.toList := by
    rw [List.mapM_map]
    exact (List.mapM_pure (f := id)).trans (congrArg some t.toList.map_id)
  rw [toPlain?, codes_ofPlain, hchars, Option.map_some, String.ofList_toList]

theorem isPlain_eq_true_iff (s : String) : isPlain s = true ↔ IsPlain s := by
  rw [isPlain, Option.any_eq_true]
  constructor
  · rintro ⟨t, -, ht⟩
    exact ⟨t, (eq_of_beq ht).symm⟩
  · rintro ⟨t, rfl⟩
    exact ⟨t, toPlain?_ofPlain t, beq_self_eq_true _⟩

instance (s : String) : Decidable (IsPlain s) :=
  decidable_of_iff _ (isPlain_eq_true_iff s)

theorem hasLoneHalf_of_isPlain {s : String} (h : IsPlain s) : hasLoneHalf s = false := by
  obtain ⟨t, rfl⟩ := h
  rw [hasLoneHalf, codes_ofPlain, List.any_map]
  exact List.any_eq_false.mpr fun _ _ => Bool.false_ne_true

/-- A text that is read back unchanged and without a half consists of characters. -/
theorem isPlain_iff (s : String) : IsPlain s ↔ reread s = s ∧ keepsHalf s = false := by
  constructor
  · rintro ⟨t, rfl⟩
    constructor
    · rw [reread, codes_ofPlain, joined_map_char, ofPlain_eq]
    · rw [keepsHalf, codes_ofPlain, joined_map_char, List.any_map]
      exact List.any_eq_false.mpr fun _ _ => Bool.false_ne_true
  · rintro ⟨hreread, hkeeps⟩
    obtain ⟨chars, hchars⟩ := eq_map_char_of_any_isHalf hkeeps
    refine ⟨String.ofList chars, ?_⟩
    rw [ofPlain_eq, String.toList_ofList, ← hchars]
    exact hreread.symm

theorem IsPlain.isWhole {s : String} (h : IsPlain s) : IsWhole s :=
  (reread_eq_self_iff s).mp ((isPlain_iff s).mp h).1

end Text

namespace Json

open Number

/-! ## What stands in a value -/

theorem mem_partsOfElements {w : Json} {vs : List Json} :
    w ∈ partsOfElements vs ↔ ∃ v ∈ vs, w ∈ v.parts := by
  induction vs with
  | nil => simp [partsOfElements]
  | cons v vs ih => simp [partsOfElements, ih]

theorem mem_partsOfMembers {w : Json} {ms : Members} :
    w ∈ partsOfMembers ms ↔ ∃ m ∈ ms, w ∈ m.2.parts := by
  induction ms with
  | nil => simp [partsOfMembers]
  | cons m ms ih => simp [partsOfMembers, ih]

theorem forall_parts_arr {p : Json → Prop} {vs : List Json} :
    (∀ w ∈ (Json.arr vs).parts, p w) ↔ p (.arr vs) ∧ ∀ v ∈ vs, ∀ w ∈ v.parts, p w := by
  rw [parts, List.forall_mem_cons]
  simp only [mem_partsOfElements]
  exact and_congr_right fun _ => ⟨fun h v hv w hw => h w ⟨v, hv, hw⟩,
    fun h w ⟨v, hv, hw⟩ => h v hv w hw⟩

theorem forall_parts_obj {p : Json → Prop} {ms : Members} :
    (∀ w ∈ (Json.obj ms).parts, p w) ↔ p (.obj ms) ∧ ∀ m ∈ ms, ∀ w ∈ m.2.parts, p w := by
  rw [parts, List.forall_mem_cons]
  simp only [mem_partsOfMembers]
  exact and_congr_right fun _ => ⟨fun h m hm w hw => h w ⟨m, hm, hw⟩,
    fun h w ⟨m, hm, hw⟩ => h m hm w hw⟩

theorem mem_integers {n : Int} {v : Json} : n ∈ v.integers ↔ .int n ∈ v.parts := by
  rw [integers, List.mem_filterMap]
  constructor
  · rintro ⟨w, hw, hn⟩
    cases w <;> simp only [int?, Option.some.injEq, reduceCtorEq] at hn
    exact hn ▸ hw
  · intro h
    exact ⟨_, h, rfl⟩

theorem forall_mem_texts {p : String → Prop} {v : Json} :
    (∀ s ∈ v.texts, p s) ↔ ∀ w ∈ v.parts, ∀ s ∈ w.ownTexts, p s := by
  simp only [texts, List.mem_flatMap]
  exact ⟨fun h w hw s hs => h s ⟨w, hw, hs⟩, fun h s ⟨w, hw, hs⟩ => h w hw s hs⟩

/-! ## Values that are no deeper than a number of levels -/

/-- A value of at most so many levels in which no object repeats a key, with
floating-point numbers only where these are allowed. -/
inductive Regular (floats : Prop) : Nat → Json → Prop
  | null {k} : Regular floats k .null
  | bool {k} (b : Bool) : Regular floats k (.bool b)
  | int {k} (n : Int) : Regular floats k (.int n)
  | float {k} (h : floats) (x : Binary64) : Regular floats k (.float x)
  | str {k} (s : String) : Regular floats k (.str s)
  | arr {k vs} (h : ∀ v ∈ vs, Regular floats k v) : Regular floats (k + 1) (.arr vs)
  | obj {k ms} (hkeys : (ms.map Prod.fst).Nodup) (h : ∀ m ∈ ms, Regular floats k m.2) :
    Regular floats (k + 1) (.obj ms)

namespace Regular

variable {α : Type} {encode : α → Json} {floats : Prop} {k : Nat}

theorem ofList (h : ∀ a, Regular floats k (encode a)) (as : List α) :
    Regular floats (k + 1) (Json.ofList encode as) := by
  refine .arr fun v hv => ?_
  obtain ⟨a, -, rfl⟩ := List.mem_map.mp hv
  exact h a

theorem ofOption (h : ∀ a, Regular floats k (encode a)) (a : Option α) :
    Regular floats k (Json.ofOption encode a) := by
  cases a with
  | none => exact .null
  | some a => exact h a

end Regular

/-! ## Faults -/

def HasWholeTexts (v : Json) : Prop :=
  ∀ s ∈ v.texts, Text.IsWhole s

def HasPlainTexts (v : Json) : Prop :=
  ∀ s ∈ v.texts, Text.IsPlain s

theorem HasPlainTexts.hasWholeTexts {v : Json} (h : v.HasPlainTexts) : v.HasWholeTexts :=
  fun s hs => (h s hs).isWhole

@[simp] theorem hasPlainTexts_null : Json.null.HasPlainTexts :=
  List.forall_mem_nil _

@[simp] theorem hasPlainTexts_int (n : Int) : (Json.int n).HasPlainTexts :=
  List.forall_mem_nil _

@[simp] theorem hasPlainTexts_str {s : String} : (Json.str s).HasPlainTexts ↔ Text.IsPlain s := by
  simp [HasPlainTexts, texts, parts, ownTexts]

@[simp] theorem hasPlainTexts_ofOption {α : Type} {encode : α → Json} {a : Option α} :
    (Json.ofOption encode a).HasPlainTexts ↔ ∀ b, a = some b → (encode b).HasPlainTexts := by
  cases a with
  | none => simp [Json.ofOption]
  | some b => simp [Json.ofOption]

@[simp] theorem hasPlainTexts_ofList {α : Type} {encode : α → Json} {as : List α} :
    (Json.ofList encode as).HasPlainTexts ↔ ∀ a ∈ as, (encode a).HasPlainTexts := by
  simp only [HasPlainTexts, Json.ofList, forall_mem_texts, forall_parts_arr, List.forall_mem_map]
  simp [ownTexts]

theorem hasPlainTexts_obj {ms : Members} (keys : List String) (hkeys : ms.map Prod.fst = keys)
    (hplain : keys.all Text.isUnmarked = true) :
    (Json.obj ms).HasPlainTexts ↔ ∀ m ∈ ms, m.2.HasPlainTexts := by
  have hown : ∀ key ∈ (Json.obj ms).ownTexts, Text.IsPlain key := by
    intro key hkey
    rw [ownTexts, hkeys] at hkey
    exact Text.isPlain_of_isUnmarked (List.all_eq_true.mp hplain key hkey)
  simp only [HasPlainTexts, forall_mem_texts, forall_parts_obj]
  exact and_iff_right hown

theorem hasShortIntegers_obj {ms : Members} :
    (Json.obj ms).HasShortIntegers ↔ ∀ m ∈ ms, m.2.HasShortIntegers := by
  have hparts : ∀ v : Json, v.HasShortIntegers ↔ ∀ w ∈ v.parts, ∀ n, w = .int n → IsShort n := by
    intro v
    simp only [HasShortIntegers, mem_integers]
    exact ⟨fun h w hw n hn => h n (hn ▸ hw), fun h n hn => h _ hn n rfl⟩
  simp only [hparts, forall_parts_obj, reduceCtorEq, false_implies, implies_true, true_and]

theorem checkInt_eq_ok_iff (n : Int) : checkInt n = .ok () ↔ IsShort n := by
  have hlength : (natDigits n.natAbs).length ≤ maxDigits ↔ n.natAbs < 10 ^ maxDigits :=
    Nat.length_toDigits_le_iff (by decide) (by decide)
  rw [checkInt, IsShort, ← hlength]
  split
  · rename_i h
    simp only [reduceCtorEq, false_iff]
    omega
  · rename_i h
    simp only [true_iff]
    omega

theorem checkText_eq_ok_iff (d : Dialect) (s : String) :
    checkText d s = .ok () ↔ (d.isStrict = true → Text.keepsHalf s = false) := by
  rw [checkText]
  cases d.isStrict <;> cases Text.keepsHalf s <;> simp

/-- Whether a value has no fault of its own; what stands in it is of no account. -/
def OwnOk (isStrict : Bool) : Json → Prop
  | .int n => IsShort n
  | .float x => isStrict = true → wholeDigits x ≤ maxDigits
  | .str s => isStrict = true → Text.keepsHalf s = false
  | .obj members => ∀ m ∈ members, isStrict = true → Text.keepsHalf m.1 = false
  | _ => True

theorem checkElements_eq_ok_iff (d : Dialect) (vs : List Json) :
    checkElements d vs = .ok () ↔ ∀ v ∈ vs, check d v = .ok () := by
  induction vs with
  | nil => simp [checkElements]
  | cons v vs ih =>
    rw [List.forall_mem_cons, ← ih, checkElements]
    cases check d v with
    | error fault => simp [bind, Except.bind]
    | ok u => simp [bind, Except.bind]

theorem checkMembers_eq_ok_iff (d : Dialect) (ms : Members) :
    checkMembers d ms = .ok () ↔
      ∀ m ∈ ms, checkText d m.1 = .ok () ∧ check d m.2 = .ok () := by
  induction ms with
  | nil => simp [checkMembers]
  | cons m ms ih =>
    obtain ⟨key, v⟩ := m
    rw [List.forall_mem_cons, ← ih, checkMembers]
    cases checkText d key with
    | error fault => simp [bind, Except.bind]
    | ok u =>
      cases check d v with
      | error fault => simp [bind, Except.bind]
      | ok u => simp [bind, Except.bind]

theorem inside_of_lt {d : Dialect} {k : Nat} (h : k + 1 ≤ d.depth) (container : Container) :
    ∃ d', d.inside container = .ok d' ∧ d'.isStrict = d.isStrict ∧ k ≤ d'.depth := by
  obtain ⟨isStrict, depth⟩ := d
  cases depth with
  | zero => exact absurd h (Nat.not_succ_le_zero k)
  | succ depth => exact ⟨⟨isStrict, depth⟩, rfl, rfl, Nat.le_of_succ_le_succ h⟩

theorem checkEmpty_of_lt {d : Dialect} {k : Nat} (h : k + 1 ≤ d.depth) (container : Container) :
    d.checkEmpty container = .ok () := by
  obtain ⟨d', hd', -, -⟩ := inside_of_lt h container
  rw [Dialect.checkEmpty, hd']
  split <;> rfl

/-- No fault is met in a value if none of its parts has one. -/
theorem check_eq_ok_iff {floats : Prop} {k : Nat} {v : Json} (h : Regular floats k v)
    {d : Dialect} (hk : k ≤ d.depth) :
    check d v = .ok () ↔ ∀ w ∈ v.parts, OwnOk d.isStrict w := by
  induction h generalizing d with
  | null => simp [check, parts, OwnOk]
  | bool b => simp [check, parts, OwnOk]
  | int n => simp [check, parts, OwnOk, checkInt_eq_ok_iff]
  | float h x =>
    simp only [check, parts, OwnOk, checkFloat, List.mem_singleton, forall_eq]
    cases d.isStrict <;> simp
  | str s => simp [check, parts, OwnOk, checkText_eq_ok_iff]
  | @arr k vs h ih =>
    obtain ⟨d', hd', hstrict, hk'⟩ := inside_of_lt hk .array
    have hall : checkElements d' vs = .ok () ↔ ∀ v ∈ vs, ∀ w ∈ v.parts, OwnOk d.isStrict w := by
      rw [checkElements_eq_ok_iff, ← hstrict]
      exact forall₂_congr fun v hv => ih v hv hk'
    rw [forall_parts_arr, ← hall, check]
    cases vs with
    | nil => simp [checkEmpty_of_lt hk, checkElements, OwnOk]
    | cons v vs => simp [hd', bind, Except.bind, OwnOk]
  | @obj k ms hkeys h ih =>
    obtain ⟨d', hd', hstrict, hk'⟩ := inside_of_lt hk .object
    have hall : checkMembers d' ms = .ok () ↔
        OwnOk d.isStrict (.obj ms) ∧ ∀ m ∈ ms, ∀ w ∈ m.2.parts, OwnOk d.isStrict w := by
      rw [checkMembers_eq_ok_iff, ← hstrict]
      constructor
      · intro h
        exact ⟨fun m hm => (checkText_eq_ok_iff d' m.1).mp (h m hm).1,
          fun m hm => (ih m hm hk').mp (h m hm).2⟩
      · rintro ⟨htexts, hparts⟩ m hm
        exact ⟨(checkText_eq_ok_iff d' m.1).mpr (htexts m hm), (ih m hm hk').mpr (hparts m hm)⟩
    rw [forall_parts_obj, ← hall, check]
    cases ms with
    | nil => simp [checkEmpty_of_lt hk, checkMembers]
    | cons m ms => simp [hd', bind, Except.bind]

/-! ## Values that are read back -/

theorem rereadElements_eq_map (vs : List Json) : rereadElements vs = vs.map reread := by
  induction vs with
  | nil => rfl
  | cons v vs ih => rw [rereadElements, ih, List.map_cons]

theorem rereadMembers_eq_map (ms : Members) :
    rereadMembers ms = ms.map fun m => (Text.reread m.1, reread m.2) := by
  induction ms with
  | nil => rfl
  | cons m ms ih => rw [rereadMembers, ih, List.map_cons]

theorem reread_ofList {α : Type} {encode : α → Json} {change : α → α}
    (h : ∀ a, reread (encode a) = encode (change a)) (as : List α) :
    reread (ofList encode as) = ofList encode (as.map change) := by
  rw [ofList, ofList, reread, rereadElements_eq_map, List.map_map, List.map_map]
  exact congrArg Json.arr (List.map_congr_left fun a _ => h a)

theorem reread_ofOption {α : Type} (encode : α → Json) (change : α → α)
    (h : ∀ a, reread (encode a) = encode (change a)) (a : Option α) :
    reread (ofOption encode a) = ofOption encode (a.map change) := by
  cases a with
  | none => rfl
  | some a => exact h a

/-- An object with distinct keys in which nothing has to be joined is read back member by
member. -/
theorem reread_obj {ms : Members} (keys : List String) (hkeys : ms.map Prod.fst = keys)
    (hplain : keys.all Text.isUnmarked = true) (hnodup : keys.Nodup) :
    reread (.obj ms) = .obj (ms.map fun m => (m.1, reread m.2)) := by
  have hms : rereadMembers ms = ms.map fun m => (m.1, reread m.2) := by
    rw [rereadMembers_eq_map]
    refine List.map_congr_left fun m hm => ?_
    have hm' : m.1 ∈ keys := hkeys ▸ List.mem_map_of_mem hm
    rw [Text.reread_of_unmarked (List.all_eq_true.mp hplain m.1 hm')]
  have hfst : (ms.map fun m => (m.1, reread m.2)).map Prod.fst = keys := by
    rw [List.map_map, ← hkeys]
    rfl
  rw [reread, hms, lastMembers_of_nodup _ (hfst ▸ hnodup)]

theorem lastMembers_sublist (ms : Members) : (lastMembers ms).Sublist ms := by
  induction ms with
  | nil => exact .slnil
  | cons m ms ih =>
    rw [lastMembers]
    split
    · exact .cons _ ih
    · exact .cons_cons _ ih

theorem map_eq_self_iff {α : Type} {f : α → α} {as : List α} :
    as.map f = as ↔ ∀ a ∈ as, f a = a := by
  have h := List.map_inj_left (l := as) (f := f) (g := id)
  rw [List.map_id] at h
  exact h

theorem reread_obj_eq_self_iff {ms : Members} (hkeys : (ms.map Prod.fst).Nodup) :
    reread (.obj ms) = .obj ms ↔
      (∀ m ∈ ms, Text.reread m.1 = m.1) ∧ ∀ m ∈ ms, reread m.2 = m.2 := by
  have hmembers : lastMembers (rereadMembers ms) = ms ↔ rereadMembers ms = ms := by
    constructor
    · intro h
      have hlength : (lastMembers (rereadMembers ms)).length = (rereadMembers ms).length := by
        rw [h, rereadMembers_eq_map, List.length_map]
      rw [← (lastMembers_sublist _).eq_of_length hlength, h]
    · intro h
      rw [h, lastMembers_of_nodup ms hkeys]
  rw [reread, Json.obj.injEq, hmembers, rereadMembers_eq_map, map_eq_self_iff]
  simp only [Prod.ext_iff]
  exact ⟨fun h => ⟨fun m hm => (h m hm).1, fun m hm => (h m hm).2⟩,
    fun h m hm => ⟨h.1 m hm, h.2 m hm⟩⟩

/-- A value is what is read back for it if that holds of every text in it. -/
theorem reread_eq_self_iff {floats : Prop} {k : Nat} {v : Json} (h : Regular floats k v) :
    reread v = v ↔ v.HasWholeTexts := by
  rw [HasWholeTexts, forall_mem_texts]
  induction h with
  | null => simp [reread, parts, ownTexts]
  | bool b => simp [reread, parts, ownTexts]
  | int n => simp [reread, parts, ownTexts]
  | float h x => simp [reread, parts, ownTexts]
  | str s => simp [reread, parts, ownTexts, Text.reread_eq_self_iff]
  | arr h ih =>
    rw [forall_parts_arr, reread, Json.arr.injEq, rereadElements_eq_map, map_eq_self_iff]
    simp only [ownTexts, List.not_mem_nil, false_implies, implies_true, true_and]
    exact forall₂_congr ih
  | obj hkeys h ih =>
    rw [forall_parts_obj, reread_obj_eq_self_iff hkeys]
    simp only [ownTexts, List.forall_mem_map, ← Text.reread_eq_self_iff]
    simp only [Text.reread_eq_self_iff]
    exact and_congr_right fun _ => forall₂_congr ih

/-! ## The two dialects -/

theorem Regular.of_float {floats : Prop} {k : Nat} {v : Json} (h : Regular floats k v)
    {x : Binary64} : .float x ∈ v.parts → floats := by
  have hall : ∀ w ∈ v.parts, w = .float x → floats := by
    induction h with
    | null => simp [parts]
    | bool b => simp [parts]
    | int n => simp [parts]
    | float h y => exact fun _ _ _ => h
    | str s => simp [parts]
    | arr h ih => exact forall_parts_arr.mpr ⟨nofun, ih⟩
    | obj hkeys h ih => exact forall_parts_obj.mpr ⟨nofun, ih⟩
  exact fun hx => hall _ hx rfl

/-- In a dialect that is not strict only integers can be faults. -/
theorem check_eq_ok_iff_of_not_isStrict {floats : Prop} {k : Nat} {v : Json}
    (h : Regular floats k v) {d : Dialect} (hd : d.isStrict = false) (hk : k ≤ d.depth) :
    check d v = .ok () ↔ v.HasShortIntegers := by
  rw [check_eq_ok_iff h hk, HasShortIntegers]
  simp only [mem_integers]
  constructor
  · exact fun hall n hn => hall (.int n) hn
  · intro hall w hw
    cases w <;> simp only [OwnOk, hd, Bool.false_eq_true, false_implies, implies_true]
    exact hall _ hw

theorem check_loose_eq_ok_iff {floats : Prop} {k : Nat} {v : Json} (h : Regular floats k v)
    (hk : k ≤ 16) (n : Nesting) : check (.loose n) v = .ok () ↔ v.HasShortIntegers :=
  check_eq_ok_iff_of_not_isStrict h rfl (Nat.le_trans hk n.enough)

/-- In the strict dialect texts can be faults too, and floating-point numbers, of which
there are none here. -/
theorem check_strict_eq_ok_iff {k : Nat} {v : Json} (h : Regular False k v)
    (hk : k ≤ Dialect.strict.depth) :
    check .strict v = .ok () ↔
      v.HasShortIntegers ∧ ∀ s ∈ v.texts, Text.keepsHalf s = false := by
  rw [check_eq_ok_iff h hk, forall_mem_texts, HasShortIntegers]
  simp only [mem_integers]
  constructor
  · intro hall
    refine ⟨fun n hn => hall (.int n) hn, fun w hw s hs => ?_⟩
    have hown := hall w hw
    cases w with
    | str t => exact List.mem_singleton.mp hs ▸ hown rfl
    | obj ms =>
      obtain ⟨m, hm, rfl⟩ := List.mem_map.mp hs
      exact hown m hm rfl
    | _ => exact nomatch hs
  · rintro ⟨hints, htexts⟩ w hw
    cases w with
    | int n => exact hints n hw
    | float x => exact (h.of_float hw).elim
    | str s => exact fun _ => htexts _ hw s List.mem_cons_self
    | obj ms => exact fun m hm _ => htexts _ hw m.1 (List.mem_map_of_mem hm)
    | _ => trivial

theorem hasPlainTexts_of_isUnmarked {v : Json} (h : v.texts.all Text.isUnmarked = true) :
    v.HasPlainTexts :=
  fun s hs => Text.isPlain_of_isUnmarked (List.all_eq_true.mp h s hs)

theorem isShort_of_fits {n : Int} (h : fitsInt64 n = true) : IsShort n := by
  have hpow : 2 ^ (63 : Nat) < 10 ^ maxDigits :=
    Nat.lt_of_lt_of_le (by decide)
      (Nat.pow_le_pow_right (by decide) (show 19 ≤ maxDigits by decide))
  simp only [fitsInt64, Bool.and_eq_true, decide_eq_true_eq] at h
  rw [IsShort]
  omega

theorem hasShortIntegers_of_fits {v : Json} (h : v.integers.all fitsInt64 = true) :
    v.HasShortIntegers :=
  fun n hn => isShort_of_fits (List.all_eq_true.mp h n hn)

theorem not_isShort_pow {k : Nat} (h : maxDigits ≤ k) : ¬ IsShort (10 ^ k) := by
  rw [IsShort, Int.natAbs_pow]
  exact Nat.not_lt.mpr (Nat.pow_le_pow_right (by decide) h)

theorem hasPlainTexts_iff {floats : Prop} {k : Nat} {v : Json} (h : Regular floats k v) :
    v.HasPlainTexts ↔ reread v = v ∧ ∀ s ∈ v.texts, Text.keepsHalf s = false := by
  rw [reread_eq_self_iff h, HasPlainTexts, HasWholeTexts]
  simp only [Text.isPlain_iff, Text.reread_eq_self_iff]
  exact ⟨fun hall => ⟨fun s hs => (hall s hs).1, fun s hs => (hall s hs).2⟩,
    fun hall s hs => ⟨hall.1 s hs, hall.2 s hs⟩⟩

end Json

end StudioQuote
