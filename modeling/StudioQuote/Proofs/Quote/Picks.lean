import StudioQuote.Proofs.Selection

/-!
# First picks

The answer to a field is the explicit one if there is any. Otherwise it is the item that was
picked first in the trigger category whose id the name of the field ends in, and no two ids
give one name. So the order of categories does not matter to the answers, and that of the picks
only among the items of one category. There are no answers at all when a pick stands in a
trigger category whose id is too long to be written.
-/

namespace StudioQuote

open Json Number

theorem intText_eq_toString (n : Int) : intText n = toString n := by
  cases n with
  | ofNat n => rfl
  | negSucc n =>
    have htext : toString (Int.negSucc n) = "-" ++ String.ofList (natDigits (n + 1)) := rfl
    rw [htext, ← String.toList_inj, String.toList_append, intText]
    simp only [String.toList_ofList]
    rfl

theorem answerField_eq (id : Int) : answerField id = "category_" ++ toString id := by
  rw [answerField, intText_eq_toString]

namespace Answers

/-- The answer to a field, if it has one. -/
inductive IsAnswer (categories : List Category) (picks : List Item) (values : Answers)
    (field : String) : Option Json → Prop
  | explicit {v : Json} (h : values.lookup field = some v) :
    IsAnswer categories picks values field (some v)
  | picked {c : Category} {i : Item} {before after : List Item}
    (hvalues : values.lookup field = none) (hc : c ∈ categories)
    (htrigger : c.formSection = some "trigger") (hfield : field = "category_" ++ toString c.id)
    (hpicks : picks = before ++ i :: after) (hi : i.categoryId = c.id)
    (hfirst : ∀ j ∈ before, j.categoryId ≠ c.id) :
    IsAnswer categories picks values field (some (.int i.id))
  | absent (hvalues : values.lookup field = none)
    (hnone : ∀ c ∈ categories, c.formSection = some "trigger" →
      field = "category_" ++ toString c.id → ∀ i ∈ picks, i.categoryId ≠ c.id) :
    IsAnswer categories picks values field none

theorem contains_triggerIds_iff {categories : List Category} {id : Int} :
    (triggerIds categories).contains id = true ↔
      ∃ c ∈ categories, c.formSection = some "trigger" ∧ c.id = id := by
  rw [List.contains_iff_mem, triggerIds, List.mem_map]
  simp only [List.mem_filter, and_assoc, Category.isIn, beq_iff_eq]
  rfl

section Lookup

variable {categories : List Category} {picks : List Item} {values : Answers} {field : String}

/-- Whether an item is one of the picks that a field stands for. -/
def isPick (categories : List Category) (field : String) (i : Item) : Bool :=
  (triggerIds categories).contains i.categoryId && field == answerField i.categoryId

theorem isPick_iff {c : Category} (hc : c ∈ categories) (htrigger : c.formSection = some "trigger")
    (hfield : field = "category_" ++ toString c.id) {i : Item} :
    isPick categories field i = true ↔ i.categoryId = c.id := by
  rw [isPick, Bool.and_eq_true, beq_iff_eq, hfield, ← answerField_eq]
  constructor
  · rintro ⟨-, h⟩
    exact (answerField_inj h).symm
  · intro h
    rw [h]
    exact ⟨contains_triggerIds_iff.mpr ⟨c, hc, htrigger, rfl⟩, rfl⟩

theorem exists_trigger_of_isPick {i : Item} (h : isPick categories field i = true) :
    ∃ c ∈ categories, c.formSection = some "trigger" ∧ field = "category_" ++ toString c.id ∧
      i.categoryId = c.id := by
  rw [isPick, Bool.and_eq_true, contains_triggerIds_iff, beq_iff_eq] at h
  obtain ⟨⟨c, hc, htrigger, hid⟩, hfield⟩ := h
  rw [answerField_eq, ← hid] at hfield
  exact ⟨c, hc, htrigger, hfield, hid.symm⟩

theorem lookup_ofSelection_eq (categories : List Category) (picks : List Item) (values : Answers)
    (field : String) : (ofSelection categories picks values).lookup field =
      (values.lookup field).or
        ((picks.find? (isPick categories field)).map fun i => .int i.id) := by
  rw [lookup_ofSelection, lookup_recorded_field]
  rfl

theorem isAnswer_lookup : IsAnswer categories picks values field
    ((ofSelection categories picks values).lookup field) := by
  rw [lookup_ofSelection_eq]
  cases hvalues : values.lookup field with
  | some v => exact .explicit hvalues
  | none =>
    rw [Option.none_or]
    cases hfind : picks.find? (isPick categories field) with
    | none =>
      refine .absent hvalues fun c hc htrigger hfield i hi hid => ?_
      exact List.find?_eq_none.mp hfind i hi ((isPick_iff hc htrigger hfield).mpr hid)
    | some i =>
      obtain ⟨hi, before, after, rfl, hbefore⟩ := List.find?_eq_some_iff_append.mp hfind
      obtain ⟨c, hc, htrigger, hfield, hid⟩ := exists_trigger_of_isPick hi
      refine .picked hvalues hc htrigger hfield rfl hid fun j hj hjd => ?_
      have hpick := (isPick_iff hc htrigger hfield).mpr hjd
      have hno := hbefore j hj
      rw [hpick] at hno
      cases hno

theorem lookup_of_isAnswer {answer : Option Json}
    (h : IsAnswer categories picks values field answer) :
    (ofSelection categories picks values).lookup field = answer := by
  rw [lookup_ofSelection_eq]
  cases h with
  | explicit h => rw [h, Option.some_or]
  | @picked c i before after hvalues hc htrigger hfield hpicks hi hfirst =>
    have hfind : picks.find? (isPick categories field) = some i := by
      refine List.find?_eq_some_iff_append.mpr
        ⟨(isPick_iff hc htrigger hfield).mpr hi, before, after, hpicks, fun j hj => ?_⟩
      rw [Bool.not_eq_true', Bool.eq_false_iff]
      exact fun hpick => hfirst j hj ((isPick_iff hc htrigger hfield).mp hpick)
    rw [hvalues, hfind, Option.none_or, Option.map_some]
  | absent hvalues hnone =>
    have hfind : picks.find? (isPick categories field) = none := by
      refine List.find?_eq_none.mpr fun i hi hpick => ?_
      obtain ⟨c, hc, htrigger, hfield, hid⟩ := exists_trigger_of_isPick hpick
      exact hnone c hc htrigger hfield i hi hid
    rw [hvalues, hfind, Option.none_or, Option.map_none]

end Lookup

/-! ## Picks whose fields cannot be written -/

theorem mem_picks_iff {categories : List Category} {selected : List Item} {i : Item} :
    i ∈ picks categories selected ↔
      i ∈ selected ∧ ∃ c ∈ categories, c.formSection = some "trigger" ∧ c.id = i.categoryId := by
  rw [picks, List.mem_filter, contains_triggerIds_iff]

theorem ofSelection?_eq_some_iff {categories : List Category} {picks : List Item}
    {values answers : Answers} : ofSelection? categories picks values = some answers ↔
      HaveShortFields categories picks ∧ ofSelection categories picks values = answers := by
  rw [ofSelection?, Option.ite_none_right_eq_some, Option.some.injEq]

theorem ofSelection?_eq_none_iff {categories : List Category} {picks : List Item}
    {values : Answers} : ofSelection? categories picks values = none ↔
      ∃ c ∈ categories, c.formSection = some "trigger" ∧ ¬ IsShort c.id ∧
        ∃ i ∈ picks, i.categoryId = c.id := by
  have hnone : ofSelection? categories picks values = none ↔ ¬ HaveShortFields categories picks := by
    rw [ofSelection?, ite_eq_right_iff]
    exact ⟨fun h hshort => Option.some_ne_none _ (h hshort), fun h hshort => absurd hshort h⟩
  rw [hnone, HaveShortFields]
  constructor
  · intro h
    push Not at h
    obtain ⟨i, hi, hlong⟩ := h
    obtain ⟨hpick, c, hc, htrigger, hid⟩ := mem_picks_iff.mp hi
    exact ⟨c, hc, htrigger, hid ▸ hlong, i, hpick, hid.symm⟩
  · rintro ⟨c, hc, htrigger, hlong, i, hi, hid⟩ hshort
    exact hlong (hid ▸ hshort i (mem_picks_iff.mpr ⟨hi, c, hc, htrigger, hid.symm⟩))

/-! ## Other orders -/

theorem picks_of_perm {categories others : List Category} (h : categories.Perm others)
    (selected : List Item) : picks categories selected = picks others selected := by
  refine List.filter_congr fun i _ => ?_
  rw [Bool.eq_iff_iff, contains_triggerIds_iff, contains_triggerIds_iff]
  simp only [h.mem_iff]

theorem ofSelection?_of_perm {categories others : List Category} (h : categories.Perm others)
    (picks : List Item) (values : Answers) :
    ofSelection? categories picks values = ofSelection? others picks values := by
  have hshort : HaveShortFields categories picks ↔ HaveShortFields others picks := by
    rw [HaveShortFields, HaveShortFields, picks_of_perm h]
  have hanswers : ofSelection categories picks values = ofSelection others picks values := by
    rw [ofSelection, ofSelection, recorded, recorded, picks_of_perm h]
  rw [ofSelection?, ofSelection?, hanswers]
  exact if_congr hshort rfl rfl

/-- Whether two lists have the same items of each category in the same order. -/
def PicksAlike (picks others : List Item) : Prop :=
  ∀ id, picks.filter (·.categoryId == id) = others.filter (·.categoryId == id)

/-- A field stands for the items of one category only. -/
theorem filter_isPick_of_alike (categories : List Category) {picks others : List Item}
    (h : PicksAlike picks others) (field : String) :
    picks.filter (isPick categories field) = others.filter (isPick categories field) := by
  by_cases hfield : ∃ c ∈ categories, c.formSection = some "trigger" ∧
      field = "category_" ++ toString c.id
  · obtain ⟨c, hc, htrigger, hfield⟩ := hfield
    have hpick : isPick categories field = fun i => i.categoryId == c.id := by
      funext i
      rw [Bool.eq_iff_iff, isPick_iff hc htrigger hfield, beq_iff_eq]
    rw [hpick]
    exact h c.id
  · have hnone : isPick categories field = fun _ => false := by
      funext i
      refine Bool.eq_false_iff.mpr fun hpick => hfield ?_
      obtain ⟨c, hc, htrigger, hname, -⟩ := exists_trigger_of_isPick hpick
      exact ⟨c, hc, htrigger, hname⟩
    rw [hnone, List.filter_false, List.filter_false]

theorem lookup_ofSelection_of_alike (categories : List Category) {picks others : List Item}
    (h : PicksAlike picks others) (values : Answers) (field : String) :
    (ofSelection categories picks values).lookup field =
      (ofSelection categories others values).lookup field := by
  rw [lookup_ofSelection_eq, lookup_ofSelection_eq, ← List.head?_filter, ← List.head?_filter,
    filter_isPick_of_alike categories h]

theorem PicksAlike.mem_categoryIds_iff {picks others : List Item} (h : PicksAlike picks others)
    {id : Int} : (∃ i ∈ picks, i.categoryId = id) ↔ ∃ i ∈ others, i.categoryId = id := by
  have hmem : ∀ {is : List Item}, (∃ i ∈ is, i.categoryId = id) ↔
      is.filter (·.categoryId == id) ≠ [] := by
    intro is
    simp
  rw [hmem, hmem, h id]

theorem map_lookup_ofSelection?_of_alike (categories : List Category) {picks others : List Item}
    (h : PicksAlike picks others) (values : Answers) (field : String) :
    (ofSelection? categories picks values).map (·.lookup field) =
      (ofSelection? categories others values).map (·.lookup field) := by
  have hnone : ofSelection? categories picks values = none ↔
      ofSelection? categories others values = none := by
    simp only [ofSelection?_eq_none_iff, h.mem_categoryIds_iff]
  cases hpicks : ofSelection? categories picks values with
  | none => rw [hnone.mp hpicks]
  | some answers =>
    cases hothers : ofSelection? categories others values with
    | none =>
      rw [hnone.mpr hothers] at hpicks
      cases hpicks
    | some answers' =>
      rw [← (ofSelection?_eq_some_iff.mp hpicks).2, ← (ofSelection?_eq_some_iff.mp hothers).2,
        Option.map_some, Option.map_some, lookup_ofSelection_of_alike categories h]

/-- Every field has the answer that is explicit or picked first, and no other field has one,
unless a pick stands in a trigger category whose id is too long to be written. Two trigger
categories have two fields. The answers are the same for any order of the categories, and for
any order of the picks that leaves those of each category in theirs. -/
theorem first_picks_are_answers (categories : List Category) (picks : List Item)
    (values : Answers) :
    (ofSelection? categories picks values = none ↔
      ∃ c ∈ categories, c.formSection = some "trigger" ∧ ¬ IsShort c.id ∧
        ∃ i ∈ picks, i.categoryId = c.id) ∧
    (∀ answers, ofSelection? categories picks values = some answers →
      (∀ field answer, answers.lookup field = answer ↔
        IsAnswer categories picks values field answer) ∧
      ((values.map Prod.fst).Nodup → (answers.map Prod.fst).Nodup)) ∧
    (∀ m n : Int, m ≠ n → "category_" ++ toString m ≠ "category_" ++ toString n) ∧
    (∀ others : List Category, categories.Perm others →
      ofSelection? categories picks values = ofSelection? others picks values) ∧
    ∀ others, PicksAlike picks others → ∀ field,
      (ofSelection? categories picks values).map (·.lookup field) =
        (ofSelection? categories others values).map (·.lookup field) := by
  refine ⟨ofSelection?_eq_none_iff, ?_, ?_, ?_, ?_⟩
  · intro answers h
    obtain ⟨-, rfl⟩ := ofSelection?_eq_some_iff.mp h
    refine ⟨fun field answer => ⟨?_, lookup_of_isAnswer⟩, nodup_keys_ofSelection categories picks⟩
    rintro rfl
    exact isAnswer_lookup
  · intro m n hne h
    rw [← answerField_eq, ← answerField_eq] at h
    exact hne (answerField_inj h)
  · intro others h
    exact ofSelection?_of_perm h picks values
  · intro others h field
    exact map_lookup_ofSelection?_of_alike categories h values field

def venueForm : List Category := [
  { id := -3, name := "plan", formSection := some "trigger" },
  { id := 12, name := "venue", formSection := some "trigger" },
  { id := 3, name := "makeup", formSection := some "conditional" }]

def studioPlan : Item := { id := 31, categoryId := -3, price := 48000 }

def outdoorPlan : Item := { id := 32, categoryId := -3, price := 55000 }

def shrine : Item := { id := 50, categoryId := 12, price := 10000 }

def makeup : Item := { id := 60, categoryId := 3, price := 8000 }

/-- The venue is answered explicitly, and a conditional category answers nothing. -/
theorem plan_picked_first_is_answer :
    let picks := [studioPlan, shrine, outdoorPlan, makeup]
    let others := [makeup, studioPlan, outdoorPlan, shrine]
    let values := [("category_12", Json.str "none")]
    ∃ answers, ofSelection? venueForm picks values = some answers ∧
      answers.lookup "category_-3" = some (.int 31) ∧
      answers.lookup "category_12" = some (.str "none") ∧
      answers.lookup "category_3" = none ∧
      (answers.map Prod.fst).Nodup ∧
      "category_" ++ toString (-3 : Int) ≠ "category_" ++ toString (3 : Int) ∧
      venueForm.Perm venueForm.reverse ∧
      ofSelection? venueForm.reverse picks values = some answers ∧
      PicksAlike picks others ∧
      (ofSelection? venueForm others values).map (·.lookup "category_-3") =
        some (some (.int 31)) := by
  intro picks others values
  obtain ⟨hnone, hsome, hfields, hcategories, hpicks⟩ :=
    first_picks_are_answers venueForm picks values
  have hanswers :
      ofSelection? venueForm picks values = some (ofSelection venueForm picks values) := by
    refine ofSelection?_eq_some_iff.mpr ⟨haveShortFields_of_ids fun c hc => ?_, rfl⟩
    have hfits : ∀ c ∈ venueForm, fitsInt64 c.id = true := by decide
    exact isShort_of_fits (hfits c hc)
  obtain ⟨hanswer, hnodup⟩ := hsome _ hanswers
  have hplan : (ofSelection venueForm picks values).lookup "category_-3" = some (.int 31) := by
    rw [hanswer]
    exact .picked rfl List.mem_cons_self rfl (by decide) (List.nil_append picks).symm rfl
      (List.forall_mem_nil _)
  have hreverse : venueForm.Perm venueForm.reverse := (List.reverse_perm _).symm
  have halike : PicksAlike picks others := by
    intro id
    simp only [picks, others, studioPlan, outdoorPlan, shrine, makeup, List.filter_cons]
    grind
  have habsent : ∀ c ∈ venueForm, c.formSection = some "trigger" →
      "category_3" ≠ "category_" ++ toString c.id := by decide
  refine ⟨_, hanswers, hplan, (hanswer _ _).mpr (.explicit rfl), (hanswer _ _).mpr (.absent rfl ?_),
    hnodup (by decide), hfields _ _ (by decide), hreverse, ?_, halike, ?_⟩
  · intro c hc htrigger hfield
    exact absurd hfield (habsent c hc htrigger)
  · rw [← hcategories _ hreverse, hanswers]
  · rw [← hpicks others halike, hanswers, Option.map_some, hplan]

/-- A trigger category whose id is too long to be written. -/
def longCategory : Category :=
  { id := 10 ^ 4300, name := "plan", formSection := some "trigger" }

/-- An item that is picked there is no answer. -/
theorem pick_of_long_category_is_no_answer :
    let picks := [{ studioPlan with categoryId := longCategory.id }]
    IsAnswer [longCategory] picks [] ("category_" ++ toString longCategory.id) (some (.int 31)) ∧
      ofSelection? [longCategory] picks [] = none := by
  intro picks
  refine ⟨?_, ?_⟩
  · exact .picked rfl List.mem_cons_self rfl rfl (List.nil_append picks).symm rfl
      (List.forall_mem_nil _)
  · exact ofSelection?_eq_none_iff.mpr ⟨longCategory, List.mem_cons_self, rfl,
      not_isShort_pow (Nat.le_refl _), _, List.mem_cons_self, rfl⟩

end Answers

end StudioQuote
