import Mathlib.Data.List.Count
import Mathlib.Data.List.Find
import Mathlib.Data.List.Nodup
import StudioQuote.Proofs.Store.Rows

/-!
# Selections and their answers

Of items with distinct ids the order does not matter when a selection is resolved. The
answer to a trigger category is its first selected item, and a rule that compares this
answer with the id of an item holds exactly if that item is the one.
-/

namespace StudioQuote

open Json Number

theorem find?_key_eq_some_iff {α : Type} {key : α → Int} {as : List α} (h : (as.map key).Nodup)
    {k : Int} {a : α} : as.find? (key · == k) = some a ↔ a ∈ as ∧ key a = k := by
  constructor
  · intro hfind
    have hkey := List.find?_some hfind
    exact ⟨List.mem_of_find?_eq_some hfind, beq_iff_eq.mp hkey⟩
  · rintro ⟨ha, rfl⟩
    cases hfind : as.find? (key · == key a) with
    | none => exact absurd (beq_self_eq_true (key a)) (List.find?_eq_none.mp hfind a ha)
    | some b =>
      have hkey := List.find?_some hfind
      rw [List.inj_on_of_nodup_map h (List.mem_of_find?_eq_some hfind) ha (beq_iff_eq.mp hkey)]

theorem filter_eq_singleton {α β : Type} [BEq β] [LawfulBEq β] {key : α → β} {as : List α}
    {a : α} (ha : a ∈ as) (h : (as.map key).count (key a) = 1) :
    as.filter (key · == key a) = [a] := by
  rw [List.count_eq_countP, List.countP_map, List.countP_eq_length_filter] at h
  obtain ⟨b, hb⟩ := List.length_eq_one_iff.mp h
  have hone : as.filter (key · == key a) = [b] := hb
  have hmem : a ∈ as.filter (key · == key a) := List.mem_filter.mpr ⟨ha, beq_self_eq_true _⟩
  rw [hone, List.mem_singleton] at hmem
  rw [hone, hmem]

theorem find?_key_of_perm {α : Type} {key : α → Int} {as bs : List α} (hperm : as.Perm bs)
    (h : (as.map key).Nodup) (k : Int) : as.find? (key · == k) = bs.find? (key · == k) := by
  refine Option.ext fun a => ?_
  rw [find?_key_eq_some_iff h, find?_key_eq_some_iff ((hperm.map key).nodup_iff.mp h),
    hperm.mem_iff]

/-- What is found does not depend on elements that repeat an earlier one. -/
theorem find?_eraseDupsBy {α : Type} {r : α → α → Bool} {p : α → Bool}
    (h : ∀ a b, r b a = true → p b = true → p a = true) :
    ∀ as : List α, (as.eraseDupsBy r).find? p = as.find? p
  | [] => rfl
  | a :: as => by
    rw [List.eraseDupsBy_cons]
    cases ha : p a with
    | true => rw [List.find?_cons_of_pos ha, List.find?_cons_of_pos ha]
    | false =>
      rw [List.find?_cons_of_neg (Bool.eq_false_iff.mp ha),
        List.find?_cons_of_neg (Bool.eq_false_iff.mp ha), find?_eraseDupsBy h, List.find?_filter]
      refine List.find?_congr fun b _ => ?_
      cases hb : p b with
      | false => simp
      | true =>
        have hrepeats : r b a = false := by
          refine Bool.eq_false_iff.mpr fun hrepeats => ?_
          rw [h a b hrepeats hb] at ha
          cases ha
        simp [hrepeats]
termination_by as => as.length
decreasing_by exact Nat.lt_succ_of_le (List.length_filter_le _ _)

theorem eraseDupsBy_sublist {α : Type} (r : α → α → Bool) :
    ∀ as : List α, (as.eraseDupsBy r).Sublist as
  | [] => .slnil
  | a :: as => by
    rw [List.eraseDupsBy_cons]
    exact .cons_cons a ((eraseDupsBy_sublist r _).trans List.filter_sublist)
termination_by as => as.length
decreasing_by exact Nat.lt_succ_of_le (List.length_filter_le _ _)

theorem nodup_map_eraseDupsBy {α β : Type} [BEq β] [LawfulBEq β] (key : α → β) :
    ∀ as : List α, ((as.eraseDupsBy fun a b => key a == key b).map key).Nodup
  | [] => List.nodup_nil
  | a :: as => by
    rw [List.eraseDupsBy_cons, List.map_cons, List.nodup_cons]
    constructor
    · intro hmem
      obtain ⟨b, hb, hkey⟩ := List.mem_map.mp hmem
      have hkept := (List.mem_filter.mp ((eraseDupsBy_sublist _ _).subset hb)).2
      simp [hkey] at hkept
    · exact nodup_map_eraseDupsBy key _
termination_by as => as.length
decreasing_by exact Nat.lt_succ_of_le (List.length_filter_le _ _)

theorem nodup_eraseDups {α : Type} [BEq α] [LawfulBEq α] (as : List α) : as.eraseDups.Nodup := by
  have h := nodup_map_eraseDupsBy id as
  rw [List.map_id] at h
  exact h

theorem eraseDups_of_nodup {α : Type} [BEq α] [LawfulBEq α] {as : List α} (h : as.Nodup) :
    as.eraseDups = as := by
  induction as with
  | nil => rfl
  | cons a as ih =>
    rw [List.nodup_cons] at h
    have hkept : as.filter (fun b => !b == a) = as := by
      rw [List.filter_eq_self]
      rintro b hb
      simp only [Bool.not_eq_true', beq_eq_false_iff_ne]
      rintro rfl
      exact h.1 hb
    rw [List.eraseDups_cons, hkept, ih h.2]

theorem lookup_eq_find? {β : Type} (k : String) (ms : List (String × β)) :
    ms.lookup k = (ms.find? (k == ·.1)).map Prod.snd := by
  induction ms with
  | nil => rfl
  | cons m ms ih =>
    rw [List.lookup_cons, List.find?_cons, ih]
    cases k == m.1 with
    | true => rfl
    | false => rfl

namespace Item

theorem mem_of_mem_resolve {ids : List Int} {items : List Item} {i : Item}
    (h : i ∈ resolve ids items) : i ∈ items := by
  obtain ⟨id, -, hfind⟩ := List.mem_filterMap.mp h
  exact List.mem_of_find?_eq_some hfind

theorem resolve_append (ids more : List Int) (items : List Item) :
    resolve (ids ++ more) items = resolve ids items ++ resolve (more.removeAll ids) items := by
  rw [resolve, List.eraseDups_append, List.filterMap_append]
  rfl

theorem resolve_of_perm {is js : List Item} (hperm : is.Perm js) (h : (is.map Item.id).Nodup)
    (ids : List Int) : resolve ids is = resolve ids js := by
  rw [resolve, resolve]
  exact List.filterMap_congr fun id _ => find?_key_of_perm hperm h id

/-- Items that are found under their ids, each id once, are what their ids resolve to. -/
theorem resolve_map_id_of_find? {items js : List Item} (hjs : (js.map Item.id).Nodup)
    (h : ∀ j ∈ js, items.find? (·.id == j.id) = some j) :
    resolve (js.map Item.id) items = js := by
  rw [resolve, eraseDups_of_nodup hjs, List.filterMap_map]
  have hself : ∀ j ∈ js, ((fun id => items.find? (·.id == id)) ∘ Item.id) j = some j := h
  rw [List.filterMap_congr hself, List.filterMap_some]

theorem resolve_map_id {items js : List Item} (hitems : (items.map Item.id).Nodup)
    (hjs : (js.map Item.id).Nodup) (h : ∀ j ∈ js, j ∈ items) :
    resolve (js.map Item.id) items = js := by
  apply resolve_map_id_of_find? hjs
  intro j hj
  exact (find?_key_eq_some_iff hitems).mpr ⟨h j hj, rfl⟩

theorem find?_resolve (p : Item → Bool) (ids : List Int) (items : List Item) :
    ((resolve ids items).find? p).map Item.id =
      ids.find? fun id => (items.find? (·.id == id)).any p := by
  have hsame : ∀ a b : Int, (b == a) = true → (items.find? (·.id == b)).any p = true →
      (items.find? (·.id == a)).any p = true := by
    intro a b heq hb
    rw [← beq_iff_eq.mp heq]
    exact hb
  have hfirst : (ids.eraseDups).find? (fun id => (items.find? (·.id == id)).any p) =
      ids.find? fun id => (items.find? (·.id == id)).any p :=
    find?_eraseDupsBy hsame ids
  rw [resolve, List.find?_filterMap, hfirst]
  cases hid : ids.find? fun id => (items.find? (·.id == id)).any p with
  | none => rfl
  | some id =>
    have hany := List.find?_some hid
    obtain ⟨i, hi, -⟩ := (Option.any_eq_true _ _).mp hany
    have hkey := List.find?_some hi
    rw [Option.bind_some, hi, Option.map_some, beq_iff_eq.mp hkey]

theorem map_id_filter_resolve (p : Item → Bool) (ids : List Int) (items : List Item) :
    ((resolve ids items).filter p).map Item.id =
      ids.eraseDups.filter fun id => (items.find? (·.id == id)).any p := by
  rw [resolve]
  induction ids.eraseDups with
  | nil => rfl
  | cons id ids ih =>
    rw [List.filterMap_cons, List.filter_cons]
    cases hfind : items.find? (·.id == id) with
    | none => exact ih
    | some i =>
      have hkey := List.find?_some hfind
      change ((i :: _).filter p).map Item.id = if p i = true then _ else _
      rw [List.filter_cons]
      split
      · rw [List.map_cons, ih, beq_iff_eq.mp hkey]
      · exact ih

/-- The items that select themselves follow the selection, each id once. -/
theorem withAutoSelected_eq (ids visible : List Int) (items : List Item) :
    withAutoSelected ids visible items =
      ids ++ (((items.filter (·.selectsItself visible)).map Item.id).filter
        (!ids.contains ·)).eraseDups := by
  induction items generalizing ids with
  | nil => exact (List.append_nil ids).symm
  | cons i items ih =>
    have hstep : withAutoSelected ids visible (i :: items) = withAutoSelected
        (if i.selectsItself visible && !ids.contains i.id then ids ++ [i.id] else ids)
        visible items := rfl
    rw [hstep]
    cases hselects : i.selectsItself visible with
    | false =>
      rw [List.filter_cons_of_neg (Bool.eq_false_iff.mp hselects)]
      exact ih ids
    | true =>
      rw [List.filter_cons_of_pos hselects, List.map_cons]
      cases hchosen : ids.contains i.id with
      | true =>
        rw [List.filter_cons_of_neg (by simpa using hchosen)]
        exact ih ids
      | false =>
        -- the id is chosen now, so it is left out of what follows
        have hlater : ∀ js : List Int, js.filter (!(ids ++ [i.id]).contains ·) =
            (js.filter (!ids.contains ·)).filter (fun j => !j == i.id) := by
          intro js
          rw [List.filter_filter]
          refine List.filter_congr fun j _ => ?_
          rw [List.contains_append, List.contains_cons, List.contains_nil, Bool.or_false,
            Bool.not_or, Bool.and_comm]
        rw [List.filter_cons_of_pos (by simpa using hchosen), List.eraseDups_cons]
        refine (ih (ids ++ [i.id])).trans ?_
        rw [hlater, List.append_assoc]
        rfl

theorem mem_withAutoSelected_iff {ids visible : List Int} {items : List Item} {id : Int} :
    id ∈ withAutoSelected ids visible items ↔
      id ∈ ids ∨ ∃ i ∈ items, i.selectsItself visible = true ∧ i.id = id := by
  rw [withAutoSelected_eq, List.mem_append, List.mem_eraseDups, List.mem_filter, List.mem_map]
  constructor
  · rintro (hid | ⟨⟨i, hi, rfl⟩, -⟩)
    · exact .inl hid
    · exact .inr ⟨i, (List.mem_filter.mp hi).1, (List.mem_filter.mp hi).2, rfl⟩
  · rintro (hid | ⟨i, hi, hselects, rfl⟩)
    · exact .inl hid
    · by_cases hid : i.id ∈ ids
      · exact .inl hid
      · refine .inr ⟨⟨i, List.mem_filter.mpr ⟨hi, hselects⟩, rfl⟩, ?_⟩
        simpa using hid

theorem withAutoSelected_of_manual {items : List Item} (h : ∀ i ∈ items, i.autoSelect = false)
    (ids visible : List Int) : withAutoSelected ids visible items = ids := by
  have hnone : items.filter (·.selectsItself visible) = [] := by
    rw [List.filter_eq_nil_iff]
    intro i hi
    rw [selectsItself, h i hi]
    exact Bool.false_ne_true
  rw [withAutoSelected_eq, hnone]
  exact List.append_nil ids

end Item

/-! ## Answers -/

theorem intText_inj {m n : Int} (h : intText m = intText n) : m = n := by
  have hread : ∀ k : Int,
      (Numeral.read (intText k).toList).map (fun r => r.1.toInt) = some k := by
    intro k
    have hdigits := Numeral.read_intDigits k endsNumber_nil
    rw [List.append_nil] at hdigits
    rw [intText, String.toList_ofList, hdigits]
    exact congrArg some (Numeral.toInt_natDigits k)
  exact Option.some.inj ((hread m).symm.trans (h ▸ hread n))

theorem answerField_inj {m n : Int} (h : answerField m = answerField n) : m = n := by
  have hchars := congrArg String.toList h
  rw [answerField, answerField, String.toList_append, String.toList_append] at hchars
  exact intText_inj (String.toList_inj.mp (List.append_cancel_left hchars))

namespace Answers

theorem haveShortFields_of_ids {categories : List Category} {selected : List Item}
    (h : ∀ c ∈ categories, IsShort c.id) : HaveShortFields categories selected := by
  intro i hi
  have htrigger := List.contains_iff_mem.mp (List.mem_filter.mp hi).2
  obtain ⟨c, hc, hid⟩ := List.mem_map.mp htrigger
  rw [← hid]
  exact h c (List.mem_filter.mp hc).1

theorem lookup_recorded_field (categories : List Category) (selected : List Item)
    (field : String) : (recorded categories selected).lookup field =
      (selected.find? fun i => (triggerIds categories).contains i.categoryId &&
        field == answerField i.categoryId).map fun i => .int i.id := by
  have hsame : ∀ a b : String × Json, (b.1 == a.1) = true → (field == b.1) = true →
      (field == a.1) = true := by
    intro a b heq hb
    rw [← beq_iff_eq.mp heq]
    exact hb
  rw [recorded, picks, lookup_eq_find?, find?_eraseDupsBy hsame, List.find?_map, List.find?_filter,
    Option.map_map]
  simp only [Bool.decide_and, Bool.decide_eq_true]
  rfl

theorem exists_item_of_mem_recorded {categories : List Category} {selected : List Item}
    {a : String × Json} (h : a ∈ recorded categories selected) : ∃ i ∈ selected, entry i = a := by
  obtain ⟨i, hi, heq⟩ := List.mem_map.mp ((eraseDupsBy_sublist _ _).subset h)
  exact ⟨i, (List.mem_filter.mp hi).1, heq⟩

/-- The answer to a trigger category is the first selected item that stands in it. -/
theorem lookup_recorded {categories : List Category} {id : Int}
    (h : id ∈ triggerIds categories) (selected : List Item) :
    (recorded categories selected).lookup (answerField id) =
      (selected.find? (·.categoryId == id)).map fun i => .int i.id := by
  rw [lookup_recorded_field]
  refine congrArg _ (List.find?_congr fun i _ => ?_)
  rw [Bool.eq_iff_iff, Bool.and_eq_true, List.contains_iff_mem, beq_iff_eq, beq_iff_eq]
  constructor
  · exact fun hfield => (answerField_inj hfield.2).symm
  · rintro rfl
    exact ⟨h, rfl⟩

theorem lookup_ofSelection (categories : List Category) (selected : List Item)
    (values : Answers) (field : String) :
    (ofSelection categories selected values).lookup field =
      (values.lookup field).or ((recorded categories selected).lookup field) := by
  rw [ofSelection, List.lookup_append]
  cases hvalue : values.lookup field with
  | some v => rfl
  | none =>
    rw [Option.none_or, Option.none_or, lookup_eq_find?, lookup_eq_find?, List.find?_filter]
    refine congrArg _ (List.find?_congr fun a _ => ?_)
    cases hfield : field == a.1 with
    | false => simp
    | true => simp [← beq_iff_eq.mp hfield, hvalue]

theorem nodup_keys_ofSelection (categories : List Category) (selected : List Item)
    {values : Answers} (h : (values.map Prod.fst).Nodup) :
    ((ofSelection categories selected values).map Prod.fst).Nodup := by
  rw [ofSelection, List.map_append, List.nodup_append]
  refine ⟨h, (nodup_map_eraseDupsBy Prod.fst _).sublist (List.filter_sublist.map _), ?_⟩
  rintro key hkey _ hrecorded rfl
  obtain ⟨a, ha, rfl⟩ := List.mem_map.mp hrecorded
  obtain ⟨value, hvalue, hsame⟩ := List.mem_map.mp hkey
  have hnone := List.lookup_eq_none_iff.mp (Option.isNone_iff_eq_none.mp (List.mem_filter.mp ha).2)
  have hdiffers := hnone value hvalue
  rw [hsame, bne_self_eq_false] at hdiffers
  cases hdiffers

theorem ofSelection_nil (categories : List Category) (selected : List Item) :
    ofSelection categories selected [] = recorded categories selected := by
  rw [ofSelection, List.nil_append]
  exact List.filter_eq_self.mpr fun _ _ => rfl

end Answers

theorem Json.strictlyEqual_int (a b : Int) : (Json.int a).strictlyEqual (.int b) = (a == b) := by
  change ((Quantity.compare? (.int a) (.int b)) == some .eq) = _
  rw [Quantity.compare?_int, Bool.eq_iff_iff, beq_iff_eq, beq_iff_eq, Option.some.injEq,
    Std.compare_eq_iff_eq]

theorem Json.strictlyEqual_str (s t : String) : (Json.str s).strictlyEqual (.str t) = (s == t) :=
  rfl

namespace Rule

theorem holds_fieldEquals (answers : Answers) (field : String) (value : Scalar) :
    (fieldEquals field value).holds answers =
      (answers.lookup field).any fun v => v.strictlyEqual value.toJson := by
  have hholds : (fieldEquals field value).holds answers =
      (Condition.holds answers ⟨field, "=", .scalar value⟩ && true) :=
    rfl
  rw [hholds, Bool.and_true, Condition.holds]
  cases answers.lookup field with
  | none => rfl
  | some v => rfl

/-- A rule on a trigger category holds exactly if the first item selected there is the one. -/
theorem holds_recorded {categories : List Category} {id : Int}
    (h : id ∈ Answers.triggerIds categories) (selected : List Item) (n : Int) :
    (fieldEquals (answerField id) (.int n)).holds (Answers.recorded categories selected) =
      ((selected.find? (·.categoryId == id)).map Item.id).any (· == n) := by
  rw [holds_fieldEquals, Answers.lookup_recorded h, Option.any_map, Option.any_map]
  exact congrArg (fun p => Option.any p _) (funext fun i => strictlyEqual_int i.id n)

end Rule

end StudioQuote
