import Mathlib.Data.List.Forall2
import Mathlib.Data.List.Perm.Subperm
import StudioQuote.Proofs.Json.Keys
import StudioQuote.Proofs.Number.Exact
import StudioQuote.Rule.Evaluate

/-!
# Strict equality is a partial equivalence

Inside objects numbers are equal if they stand for the same number, lists if they are equal
element by element, and objects if they have the same keys with equal values. On values in
which no object repeats a key this is an equivalence, whatever the order of members is. Strict
equality restricts it to values of one kind and leaves lists out, and the number that is no
number. Values that are strictly equal satisfy the same conditions.
-/

namespace StudioQuote

open Number

namespace Json

/-! ## Equality by content -/

/-- The number that a value is; truth values are none. -/
def numberValue? (v : Json) : Option Line :=
  v.number?.bind Quantity.value?

/-- The number that a value counts as inside an object. -/
def worth? (v : Json) : Option Line :=
  v.quantity?.bind Quantity.value?

theorem sameQuantity_iff {v w : Json} :
    sameQuantity v w = true ↔ ∃ x, v.worth? = some x ∧ w.worth? = some x := by
  rw [sameQuantity, worth?, worth?]
  cases v.quantity? with
  | none => simp
  | some a =>
    cases w.quantity? with
    | none => simp
    | some b =>
      change Quantity.equal a b = true ↔ ∃ x, a.value? = some x ∧ b.value? = some x
      rw [Quantity.equal, beq_iff_eq, Quantity.compare?_eq_some_iff]
      constructor
      · rintro ⟨x, y, hx, hy, hcmp⟩
        obtain rfl := (cmp_eq_eq_iff x y).mp hcmp
        exact ⟨x, hx, hy⟩
      · rintro ⟨x, hx, hy⟩
        exact ⟨x, x, hx, hy, cmp_self_eq_eq x⟩

-- The equations of equality by content are worked out once here, for all the lemmas below.
attribute [grind =] same

theorem same_null_iff {w : Json} : same .null w = true ↔ w = .null := by
  cases w <;> simp [same]

theorem same_str_iff {s : String} {w : Json} : same (.str s) w = true ↔ w = .str s := by
  cases w with
  | str t => rw [same, beq_iff_eq, Json.str.injEq, eq_comm]
  | _ => simp [same]

/-- What is no number is the same everywhere. -/
theorem same_nan_iff {w : Json} : same (.float .nan) w = true ↔ w = .float .nan := by
  have hnone : worth? (.float .nan) = none := rfl
  by_cases hw : w = .float .nan
  · subst hw
    simp [same]
  · rw [same, sameQuantity_iff, hnone]
    · simp [hw]
    · exact fun h _ => hw h

theorem same_number_iff {v w : Json} {x : Line} (hv : v.worth? = some x) :
    same v w = true ↔ w.worth? = some x := by
  have hquantity : sameQuantity v w = true ↔ w.worth? = some x := by
    rw [sameQuantity_iff, hv]
    constructor
    · rintro ⟨y, hy, hw⟩
      rw [hw, ← hy]
    · intro hw
      exact ⟨x, rfl, hw⟩
  rw [← hquantity]
  cases v with
  | bool b => rw [same]
  | int n => rw [same]
  | float y =>
    rw [same]
    rintro - rfl
    cases hv
  | _ => cases hv

theorem sameElements_iff {vs ws : List Json} :
    sameElements vs ws = true ↔ List.Forall₂ (fun v w => same v w = true) vs ws := by
  induction vs generalizing ws with
  | nil =>
    cases ws with
    | nil => simp [sameElements]
    | cons w ws => exact iff_of_false Bool.false_ne_true nofun
  | cons v vs ih =>
    cases ws with
    | nil => exact iff_of_false Bool.false_ne_true nofun
    | cons w ws => simp [sameElements, ih]

theorem same_arr_iff {vs : List Json} {w : Json} :
    same (.arr vs) w = true ↔ ∃ ws, w = .arr ws ∧ vs.length = ws.length ∧
      ∀ i (hv : i < vs.length) (hw : i < ws.length),
        same (vs.get ⟨i, hv⟩) (ws.get ⟨i, hw⟩) = true := by
  cases w with
  | arr ws => simp only [same, sameElements_iff, List.forall₂_iff_get, Json.arr.injEq,
      exists_eq_left']
  | _ => simp [same]

theorem sameMembers_iff {ms ns : Members} :
    sameMembers ms ns = true ↔
      ∀ m ∈ ms, ∃ u, ns.lookup m.1 = some u ∧ same m.2 u = true := by
  induction ms with
  | nil => simp [sameMembers]
  | cons m ms ih =>
    rw [sameMembers, Bool.and_eq_true, ih, List.forall_mem_cons]
    refine and_congr_left fun _ => ?_
    cases ns.lookup m.1 with
    | none => simp
    | some u => simp

theorem same_obj_iff {ms : Members} {w : Json} :
    same (.obj ms) w = true ↔ ∃ ns, w = .obj ns ∧ ms.length = ns.length ∧
      ∀ m ∈ ms, ∃ u, ns.lookup m.1 = some u ∧ same m.2 u = true := by
  cases w with
  | obj ns => simp [same, sameMembers_iff]
  | _ => simp [same]

/-! ## The equivalence -/

/-- Numbers of all kinds are alike to the comparison by content. -/
@[elab_as_elim]
theorem inductionOnContent {p : Json → Prop} (null : p .null) (nan : p (.float .nan))
    (number : ∀ v x, worth? v = some x → p v) (str : ∀ s, p (.str s))
    (arr : ∀ vs : List Json, (∀ v ∈ vs, p v) → p (.arr vs))
    (obj : ∀ ms : Members, (∀ m ∈ ms, p m.2) → p (.obj ms)) (v : Json) : p v := by
  induction v using inductionOn with
  | null => exact null
  | bool b => exact number _ _ rfl
  | int n => exact number _ _ rfl
  | float x =>
    cases x with
    | finite negative significand exponent canonical => exact number _ _ rfl
    | infinite negative => exact number _ _ rfl
    | nan => exact nan
  | str s => exact str s
  | arr vs ih => exact arr vs ih
  | obj ms ih => exact obj ms ih

theorem Members.lookup_of_mem {ms : Members} (h : (ms.map Prod.fst).Nodup)
    {m : String × Json} (hm : m ∈ ms) : ms.lookup m.1 = some m.2 := by
  induction ms with
  | nil => cases hm
  | cons n ns ih =>
    rw [List.map_cons, List.nodup_cons] at h
    rw [List.lookup_cons]
    rcases List.mem_cons.mp hm with rfl | hmem
    · rw [beq_self_eq_true]
    · have hne : (m.1 == n.1) = false := by
        rw [beq_eq_false_iff_ne]
        rintro heq
        exact h.1 (heq ▸ List.mem_map_of_mem hmem)
      rw [hne]
      exact ih h.2 hmem

theorem Members.mem_of_lookup {ms : Members} {key : String} {v : Json}
    (h : ms.lookup key = some v) : (key, v) ∈ ms := by
  obtain ⟨before, after, rfl, -⟩ := List.lookup_eq_some_iff.mp h
  exact List.mem_append_right _ List.mem_cons_self

theorem same_refl {v : Json} (h : v.HasDistinctKeys) : same v v = true := by
  induction v using inductionOnContent with
  | null => exact same_null_iff.mpr rfl
  | nan => exact same_nan_iff.mpr rfl
  | number v x hx => exact (same_number_iff hx).mpr hx
  | str s => exact same_str_iff.mpr rfl
  | arr vs ih =>
    rw [hasDistinctKeys_arr] at h
    refine same_arr_iff.mpr ⟨vs, rfl, rfl, fun i hi _ => ?_⟩
    exact ih _ (List.get_mem _ _) (h _ (List.get_mem _ _))
  | obj ms ih =>
    rw [hasDistinctKeys_obj] at h
    refine same_obj_iff.mpr ⟨ms, rfl, rfl, fun m hm => ?_⟩
    exact ⟨m.2, Members.lookup_of_mem h.1 hm, ih m hm (h.2 m hm)⟩

theorem same_symm {v w : Json} (hv : v.HasDistinctKeys) (hw : w.HasDistinctKeys)
    (h : same v w = true) : same w v = true := by
  induction v using inductionOnContent generalizing w with
  | null =>
    rw [same_null_iff.mp h]
    exact same_null_iff.mpr rfl
  | nan =>
    rw [same_nan_iff.mp h]
    exact same_nan_iff.mpr rfl
  | number v x hx =>
    rw [same_number_iff hx] at h
    exact (same_number_iff h).mpr hx
  | str s =>
    rw [same_str_iff.mp h]
    exact same_str_iff.mpr rfl
  | arr vs ih =>
    obtain ⟨ws, rfl, hlength, hall⟩ := same_arr_iff.mp h
    rw [hasDistinctKeys_arr] at hv hw
    refine same_arr_iff.mpr ⟨vs, rfl, hlength.symm, fun i hi hj => ?_⟩
    exact ih _ (List.get_mem _ _) (hv _ (List.get_mem _ _)) (hw _ (List.get_mem _ _)) (hall i hj hi)
  | obj ms ih =>
    obtain ⟨ns, rfl, hlength, hall⟩ := same_obj_iff.mp h
    rw [hasDistinctKeys_obj] at hv hw
    refine same_obj_iff.mpr ⟨ms, rfl, hlength.symm, fun n hn => ?_⟩
    -- Keys are distinct and equally many, so every key of the second object is one of the first.
    have hsubset : ms.map Prod.fst ⊆ ns.map Prod.fst := by
      intro key hkey
      obtain ⟨m, hm, rfl⟩ := List.mem_map.mp hkey
      obtain ⟨u, hu, -⟩ := hall m hm
      exact List.mem_map.mpr ⟨_, Members.mem_of_lookup hu, rfl⟩
    have hperm : (ms.map Prod.fst).Perm (ns.map Prod.fst) := by
      refine (List.subperm_of_subset hv.1 hsubset).perm_of_length_le ?_
      rw [List.length_map, List.length_map, hlength]
    obtain ⟨m, hm, hkey⟩ := List.mem_map.mp (hperm.mem_iff.mpr (List.mem_map_of_mem hn))
    obtain ⟨u, hu, hsame⟩ := hall m hm
    rw [hkey, Members.lookup_of_mem hw.1 hn, Option.some.injEq] at hu
    subst hu
    exact ⟨m.2, hkey ▸ Members.lookup_of_mem hv.1 hm, ih m hm (hv.2 m hm) (hw.2 n hn) hsame⟩

theorem same_trans {u v w : Json} (huv : same u v = true) (hvw : same v w = true) :
    same u w = true := by
  induction u using inductionOnContent generalizing v w with
  | null =>
    rwa [same_null_iff.mp huv] at hvw
  | nan =>
    rwa [same_nan_iff.mp huv] at hvw
  | number u x hx =>
    rw [same_number_iff hx] at huv ⊢
    exact (same_number_iff huv).mp hvw
  | str s =>
    rwa [same_str_iff.mp huv] at hvw
  | arr us ih =>
    obtain ⟨vs, rfl, hlength, hall⟩ := same_arr_iff.mp huv
    obtain ⟨ws, rfl, hlength', hall'⟩ := same_arr_iff.mp hvw
    refine same_arr_iff.mpr ⟨ws, rfl, hlength.trans hlength', fun i hu hw => ?_⟩
    have hv : i < vs.length := hlength ▸ hu
    exact ih _ (List.get_mem _ _) (hall i hu hv) (hall' i hv hw)
  | obj ls ih =>
    obtain ⟨ms, rfl, hlength, hall⟩ := same_obj_iff.mp huv
    obtain ⟨ns, rfl, hlength', hall'⟩ := same_obj_iff.mp hvw
    refine same_obj_iff.mpr ⟨ns, rfl, hlength.trans hlength', fun l hl => ?_⟩
    obtain ⟨v, hv, hlv⟩ := hall l hl
    obtain ⟨w, hw, hvw⟩ := hall' _ (Members.mem_of_lookup hv)
    exact ⟨w, hw, ih l hl hlv hvw⟩

/-! ## Strict equality -/

theorem strictlyEqual_iff {v w : Json} :
    v.strictlyEqual w = true ↔
      v.kind ≠ .list ∧ v ≠ .float .nan ∧ v.kind = w.kind ∧ same v w = true := by
  have hcontent : (if v.kind = .number then sameQuantity v w else same v w) = true ↔
      v ≠ .float .nan ∧ same v w = true := by
    cases v with
    | int n => simp [kind, same]
    | float x =>
      by_cases hx : x = .nan
      · have hnone : worth? (.float .nan) = none := rfl
        subst hx
        rw [kind, if_pos rfl, sameQuantity_iff, hnone]
        simp
      · rw [kind, if_pos rfl, same]
        · simp [hx]
        · exact fun _ hnan => hx hnan
    | _ => simp [kind]
  simp only [strictlyEqual, Bool.and_eq_true, bne_iff_ne, beq_iff_eq, hcontent]
  constructor
  · rintro ⟨⟨⟨hv, -⟩, hkind⟩, hnan, hsame⟩
    exact ⟨hv, hnan, hkind, hsame⟩
  · rintro ⟨hv, hnan, hkind, hsame⟩
    exact ⟨⟨⟨hv, hkind ▸ hv⟩, hkind⟩, hnan, hsame⟩

theorem strictlyEqual_trans {u v w : Json} (huv : u.strictlyEqual v = true)
    (hvw : v.strictlyEqual w = true) : u.strictlyEqual w = true := by
  rw [strictlyEqual_iff] at *
  obtain ⟨hlist, hnan, hkind, hsame⟩ := huv
  obtain ⟨-, -, hkind', hsame'⟩ := hvw
  exact ⟨hlist, hnan, hkind.trans hkind', same_trans hsame hsame'⟩

section Symmetric

variable {v w : Json} (hv : v.HasDistinctKeys) (hw : w.HasDistinctKeys)

include hv hw

theorem strictlyEqual_symm (h : v.strictlyEqual w = true) : w.strictlyEqual v = true := by
  rw [strictlyEqual_iff] at *
  obtain ⟨hlist, hnan, hkind, hsame⟩ := h
  have hback := same_symm hv hw hsame
  refine ⟨hkind ▸ hlist, ?_, hkind.symm, hback⟩
  rintro rfl
  exact hnan (same_nan_iff.mp hback)

theorem strictlyEqual_comm : v.strictlyEqual w = w.strictlyEqual v :=
  Bool.eq_iff_iff.mpr ⟨strictlyEqual_symm hv hw, strictlyEqual_symm hw hv⟩

theorem strictlyEqual_congr (h : v.strictlyEqual w = true) (c : Json) :
    v.strictlyEqual c = w.strictlyEqual c :=
  Bool.eq_iff_iff.mpr
    ⟨strictlyEqual_trans (strictlyEqual_symm hv hw h), strictlyEqual_trans h⟩

end Symmetric

theorem worth?_eq_of_same {v w : Json} (h : same v w = true) : v.worth? = w.worth? := by
  cases v using inductionOnContent with
  | null => rw [same_null_iff.mp h]
  | nan => rw [same_nan_iff.mp h]
  | number v x hx => rw [hx, (same_number_iff hx).mp h]
  | str s => rw [same_str_iff.mp h]
  | arr vs =>
    obtain ⟨ws, rfl, -⟩ := same_arr_iff.mp h
    rfl
  | obj ms =>
    obtain ⟨ns, rfl, -⟩ := same_obj_iff.mp h
    rfl

theorem numberValue?_eq_of_strictlyEqual {v w : Json} (h : v.strictlyEqual w = true) :
    v.numberValue? = w.numberValue? := by
  have hworth : ∀ v : Json, v.numberValue? = if v.kind = .number then v.worth? else none := by
    intro v
    cases v <;> rfl
  obtain ⟨-, -, hkind, hsame⟩ := strictlyEqual_iff.mp h
  rw [hworth v, hworth w, hkind, worth?_eq_of_same hsame]

theorem order?_eq_bind (v w : Json) :
    v.order? w = v.number?.bind fun a => w.number?.bind a.compare? := by
  rw [order?]
  cases v.number? <;> cases w.number? <;> rfl

theorem order?_eq_some_iff {v w : Json} {o : Ordering} :
    v.order? w = some o ↔
      ∃ x y, v.numberValue? = some x ∧ w.numberValue? = some y ∧ cmp x y = o := by
  rw [order?_eq_bind, numberValue?, numberValue?]
  constructor
  · intro h
    obtain ⟨a, ha, h⟩ := Option.bind_eq_some_iff.mp h
    obtain ⟨b, hb, h⟩ := Option.bind_eq_some_iff.mp h
    rw [ha, hb]
    exact Quantity.compare?_eq_some_iff.mp h
  · rintro ⟨x, y, hx, hy, h⟩
    obtain ⟨a, ha, hx⟩ := Option.bind_eq_some_iff.mp hx
    obtain ⟨b, hb, hy⟩ := Option.bind_eq_some_iff.mp hy
    rw [ha, hb]
    exact Quantity.compare?_eq_some_iff.mpr ⟨x, y, hx, hy, h⟩

end Json

theorem Operator.holds_congr {v w : Json} (hv : v.HasDistinctKeys) (hw : w.HasDistinctKeys)
    (h : v.strictlyEqual w = true) (o : Operator) (e : Operand) :
    o.holds v e = o.holds w e := by
  have hequal := Json.strictlyEqual_congr hv hw h
  have horder : v.order? e.toJson = w.order? e.toJson := by
    refine Option.ext fun o => ?_
    rw [Json.order?_eq_some_iff, Json.order?_eq_some_iff, Json.numberValue?_eq_of_strictlyEqual h]
  have hcontains : Operand.contains v = Operand.contains w := by
    funext es
    rw [Operand.contains, Operand.contains, funext fun s : Scalar => hequal s.toJson]
  cases o with
  | eq => exact hequal _
  | ne => exact congrArg not (hequal _)
  | isIn => cases e with
    | scalar s => rfl
    | list es => exact congrFun hcontains es
  | notIn => cases e with
    | scalar s => rfl
    | list es => exact congrArg not (congrFun hcontains es)
  | _ => simp only [Operator.holds, horder]

theorem Condition.holds_congr_of_strictlyEqual {answers others : Answers} {c : Condition}
    {v w : Json} (hv : v.HasDistinctKeys) (hw : w.HasDistinctKeys)
    (h : v.strictlyEqual w = true) (hanswer : answers.lookup c.field = some v)
    (hother : others.lookup c.field = some w) : c.holds answers = c.holds others := by
  rw [holds, holds, hanswer, hother]
  cases Operator.ofName? c.operator with
  | none => rfl
  | some o => exact Operator.holds_congr hv hw h o c.value

namespace Json

/-- Strict equality compares in both directions and from one value to the next, and each value
with itself unless it is a list or no number. Nothing is equal to a value of another kind.
Conditions cannot tell equal values apart. Any values will do that repeat no key, such as those
that are read. -/
theorem strict_equality_is_partial_equivalence :
    (∀ v w : Json, v.HasDistinctKeys → w.HasDistinctKeys →
      v.strictlyEqual w = w.strictlyEqual v) ∧
    (∀ u v w : Json, u.strictlyEqual v = true → v.strictlyEqual w = true →
      u.strictlyEqual w = true) ∧
    (∀ v : Json, v.HasDistinctKeys → v ≠ .float .nan →
      (v.strictlyEqual v = true ↔ ∀ vs, v ≠ .arr vs)) ∧
    (∀ v w : Json, v.kind ≠ w.kind → v.strictlyEqual w = false) ∧
    (∀ v w : Json, v.HasDistinctKeys → w.HasDistinctKeys → v.strictlyEqual w = true →
      (∀ c : Json, v.strictlyEqual c = w.strictlyEqual c) ∧
      ∀ (answers others : Answers) (c : Condition), answers.lookup c.field = some v →
        others.lookup c.field = some w → c.holds answers = c.holds others) ∧
    ∀ d text v, read d text = .ok v → v.HasDistinctKeys := by
  refine ⟨?_, ?_, ?_, ?_, ?_, ?_⟩
  · intro v w hv hw
    exact strictlyEqual_comm hv hw
  · intro u v w huv hvw
    exact strictlyEqual_trans huv hvw
  · intro v hv hnan
    have hlist : v.kind ≠ .list ↔ ∀ vs, v ≠ .arr vs := by
      cases v <;> simp [kind]
    rw [strictlyEqual_iff, ← hlist]
    constructor
    · exact And.left
    · intro hkind
      exact ⟨hkind, hnan, rfl, same_refl hv⟩
  · intro v w hkind
    refine Bool.eq_false_iff.mpr fun h => hkind ?_
    exact (strictlyEqual_iff.mp h).2.2.1
  · intro v w hv hw h
    refine ⟨strictlyEqual_congr hv hw h, ?_⟩
    intro answers others c hanswer hother
    exact Condition.holds_congr_of_strictlyEqual hv hw h hanswer hother
  · intro d text v h
    exact hasDistinctKeys_of_read h

def choice : Json := .obj [("plans", .arr [.bool true, .null]), ("day", .int 2)]

/-- The same choice with its members in another order and its numbers in another form. -/
def reorderedChoice : Json := .obj [
  ("day", .float (.finite false (2 ^ 52) 1023 (by decide))),
  ("plans", .arr [.int 1, .null])]

def changedChoice : Json := .obj [
  ("day", .int 7), ("plans", .arr [.bool true, .null]), ("day", .int 2)]

/-- The choice is read from a text that gives the day twice. In a list of its own it is equal to
nothing, and true is not equal to one outside it. -/
theorem reordered_choice_is_equal :
    read (.loose default) (changedChoice.write .spaced) = .ok choice ∧
      choice.HasDistinctKeys ∧ reorderedChoice.HasDistinctKeys ∧
      choice.strictlyEqual reorderedChoice = true ∧
      reorderedChoice.strictlyEqual choice = true ∧
      choice.strictlyEqual choice = true ∧
      reorderedChoice.strictlyEqual reorderedChoice = true ∧
      (Json.arr [choice]).strictlyEqual (.arr [choice]) = false ∧
      (Json.bool true).strictlyEqual (.int 1) = false ∧
      Condition.holds [("choice", choice)] ⟨"choice", "!=", .scalar (.int 1)⟩ =
        Condition.holds [("choice", reorderedChoice)] ⟨"choice", "!=", .scalar (.int 1)⟩ := by
  obtain ⟨hcomm, htrans, hself, hkind, hcongr, hread⟩ := strict_equality_is_partial_equivalence
  have htext : read (.loose default) (changedChoice.write .spaced) = .ok choice := by
    rw [read_write readable_spaced]
    rfl
  have hchoice := hread _ _ _ htext
  have hreordered : reorderedChoice.HasDistinctKeys := by decide
  have hequal : choice.strictlyEqual reorderedChoice = true := by decide +kernel
  have hback : reorderedChoice.strictlyEqual choice = true := by
    rw [← hcomm _ _ hchoice hreordered, hequal]
  have hobject : choice.strictlyEqual choice = true := by
    refine (hself choice hchoice ?_).mpr ?_
    · simp [choice]
    · simp [choice]
  have hlist := hself (.arr [choice]) (by decide) (by simp)
  refine ⟨htext, hchoice, hreordered, hequal, hback, hobject, ?_, ?_, ?_, ?_⟩
  · exact htrans _ _ _ hback hequal
  · exact Bool.eq_false_iff.mpr fun h => hlist.mp h _ rfl
  · exact hkind _ _ (by decide)
  · exact (hcongr _ _ hchoice hreordered hequal).2 _ _ _ rfl rfl

end Json

end StudioQuote
