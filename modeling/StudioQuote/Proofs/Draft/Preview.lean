import StudioQuote.Proofs.Draft.Offer
import StudioQuote.Proofs.Publish.Listing

/-!
# The preview and the customer form

A draft is flattened twice, for the preview and for the customer form. Both give the same
items, and the same categories up to their rules, which only conditional steps with a
condition have. The preview compares an answer with the name of an item, the customer
form compares it with an id; where the category of a condition stands in the draft once
and tells its items apart, the two rules decide alike on every item of that category.

A rule names the category of its condition, so there is no preview when the id of one has too
many digits to be written. The customer form can do with such a condition, if it names no item
of the draft and so gives no rule.
-/

namespace StudioQuote

open Json Number Operation

/-- A category without its rule. -/
def Category.ungated (c : Category) : Category :=
  { c with rule := none }

namespace Draft

variable {gate : DraftCondition → Option Rule} {d : Draft}

theorem items_records :
    (d.records gate).items =
      (d.steps.map fun s => s.category.items.mapIdx fun k i =>
        { id := i.id
          categoryId := s.category.id
          shopId := d.shopId
          name := i.name
          price := i.price
          description := presentText i.description
          sortOrder := k
          isActive := true
          isRequired := false
          autoSelect := false : Item }).flatten := by
  simp only [List.mapIdx_eq_zipIdx_map]
  rfl

theorem ungated_categories :
    (d.records gate).categories.map Category.ungated =
      d.steps.mapIdx fun k s =>
        { id := s.category.id
          shopId := d.shopId
          name := s.category.name
          displayName := s.category.displayName
          description := presentText s.category.description
          sortOrder := k
          isActive := true
          formSection := some s.type.name
          productType := some s.category.productType
          rule := none : Category } := by
  rw [records, List.map_map, List.mapIdx_eq_zipIdx_map]
  rfl

theorem getElem?_categories (k : Nat) :
    (d.records gate).categories[k]? =
      d.steps[k]?.map fun s => DraftStep.categoryRecord d.shopId gate (s, k) := by
  rw [records, List.getElem?_map, List.getElem?_zipIdx, Option.map_map, Nat.zero_add]
  rfl

end Draft

theorem DraftStep.of_rule_isSome {gate : DraftCondition → Option Rule} {s : DraftStep}
    (h : (s.rule gate).isSome) : s.type = .conditional ∧ s.condition.isSome := by
  rw [rule] at h
  split at h
  · rename_i htype
    exact ⟨htype, Option.isSome_of_isSome_bind h⟩
  · cases h

theorem DraftStep.rule_of_condition {gate : DraftCondition → Option Rule} {s : DraftStep}
    {c : DraftCondition} (htype : s.type = .conditional) (hcondition : s.condition = some c) :
    s.rule gate = gate c := by
  rw [rule, if_pos htype, hcondition, Option.bind_some]

namespace Draft

/-- A step settles a condition: it alone has the category of the condition, its items
differ in their names and in their ids, and one of them has the name that is asked for. -/
structure Settles (d : Draft) (t : DraftStep) (c : DraftCondition) : Prop where
  mem : t ∈ d.steps
  category : t.category.id = c.fieldId
  once : d.categoryIds.count c.fieldId = 1
  names : (t.category.items.map DraftItem.name).Nodup
  ids : (t.category.items.map DraftItem.id).Nodup
  value : c.value ∈ t.category.items.map DraftItem.name

namespace Settles

variable {d : Draft} {t : DraftStep} {c : DraftCondition}

theorem exists_chosenItem? (h : d.Settles t c) :
    ∃ i ∈ t.category.items, i.name = c.value ∧ c.chosenItem? d.steps = some i.id := by
  obtain ⟨i, hi, hname⟩ := List.mem_map.mp h.value
  have hsteps : d.steps.filter (·.category.id == c.fieldId) = [t] := by
    rw [← h.category]
    refine filter_eq_singleton h.mem ?_
    rw [h.category]
    exact h.once
  have hitems : t.category.items.filter (·.name == c.value) = [i] := by
    rw [← hname]
    refine filter_eq_singleton hi (List.count_eq_one_of_mem h.names ?_)
    exact List.mem_map_of_mem hi
  exact ⟨i, hi, hname, DraftCondition.chosenItem?_of_filter hsteps hitems⟩

theorem rules_agree (h : d.Settles t c) :
    ∃ named chosen, DraftCondition.textRule c = some named ∧ c.itemRule d.steps = some chosen ∧
      ∀ x ∈ t.category.items,
        named.holds [(answerField c.fieldId, .str x.name)] = decide (x.name = c.value) ∧
        chosen.holds [(answerField c.fieldId, .int x.id)] = decide (x.name = c.value) := by
  obtain ⟨i, hi, hname, hchosen⟩ := h.exists_chosenItem?
  refine ⟨.fieldEquals (answerField c.fieldId) (.text c.value),
    .fieldEquals (answerField c.fieldId) (.int i.id), rfl, ?_, fun x hx => ⟨?_, ?_⟩⟩
  · rw [DraftCondition.itemRule, hchosen, Option.map_some]
  · rw [Rule.holds_fieldEquals, List.lookup_cons_self]
    exact Json.strictlyEqual_str x.name c.value
  · have hsame : x.id = i.id ↔ x.name = c.value := by
      rw [← hname]
      constructor
      · intro hid
        rw [List.inj_on_of_nodup_map h.ids hx hi hid]
      · intro hnames
        rw [List.inj_on_of_nodup_map h.names hx hi hnames]
    rw [Rule.holds_fieldEquals, List.lookup_cons_self, ← decide_eq_decide.mpr hsame]
    exact Json.strictlyEqual_int x.id i.id

end Settles

variable {gate : DraftCondition → Option Rule} {d : Draft}

/-- A condition of a conditional step whose category has too many digits to be written. -/
def HasLongCondition (d : Draft) (c : DraftCondition) : Prop :=
  ∃ s ∈ d.steps, s.type = .conditional ∧ s.condition = some c ∧ ¬ IsShort c.fieldId

theorem records?_eq_none_iff_exists_condition :
    d.records? gate = none ↔ ∃ c, d.HasLongCondition c ∧ (gate c).isSome := by
  rw [records?_eq_none_iff]
  constructor
  · rintro ⟨s, hs, hgate⟩
    rw [DraftStep.HasShortGate] at hgate
    push Not at hgate
    obtain ⟨htype, c, hc, hsome, hlong⟩ := hgate
    exact ⟨c, ⟨s, hs, htype, hc, hlong⟩, hsome⟩
  · rintro ⟨c, ⟨s, hs, htype, hc, hlong⟩, hsome⟩
    exact ⟨s, hs, fun hshort => hlong (hshort htype c hc hsome)⟩

theorem preview?_eq_none_iff : d.preview? = none ↔ ∃ c, d.HasLongCondition c := by
  rw [preview?, records?_eq_none_iff_exists_condition]
  simp only [DraftCondition.textRule, Option.isSome_some, and_true]

theorem customerForm?_eq_none_iff :
    d.customerForm? = none ↔
      ∃ c, d.HasLongCondition c ∧ (c.chosenItem? d.steps).isSome = true := by
  rw [customerForm?, records?_eq_none_iff_exists_condition]
  simp only [DraftCondition.itemRule, Option.isSome_map]

/-- Of a draft that has a preview there is a customer form. -/
theorem customerForm?_of_preview? {p : FormRecords} (hp : d.preview? = some p) :
    d.customerForm? = some d.customerForm := by
  cases hr : d.customerForm? with
  | some r =>
    rw [eq_records_of_records? hr]
    rfl
  | none =>
    obtain ⟨c, hlong, -⟩ := customerForm?_eq_none_iff.mp hr
    rw [preview?_eq_none_iff.mpr ⟨c, hlong⟩] at hp
    cases hp

/-- Whether records are those of a draft: the items of its steps in their order, numbered
within each step, and a category for each step, with a rule only where the step has a
condition. -/
structure Flattens (d : Draft) (r : FormRecords) : Prop where
  items : r.items =
    (d.steps.map fun s => s.category.items.mapIdx fun k i =>
      { id := i.id
        categoryId := s.category.id
        shopId := d.shopId
        name := i.name
        price := i.price
        description := presentText i.description
        sortOrder := k
        isActive := true
        isRequired := false
        autoSelect := false : Item }).flatten
  categories : r.categories.map Category.ungated =
    d.steps.mapIdx fun k s =>
      { id := s.category.id
        shopId := d.shopId
        name := s.category.name
        displayName := s.category.displayName
        description := presentText s.category.description
        sortOrder := k
        isActive := true
        formSection := some s.type.name
        productType := some s.category.productType
        rule := none : Category }
  rules : ∀ (k : Nat) (s : DraftStep), d.steps[k]? = some s →
    ∃ c : Category, r.categories[k]? = some c ∧
      (c.rule.isSome → s.type = .conditional ∧ s.condition.isSome)

theorem flattens_of_records? {r : FormRecords} (h : d.records? gate = some r) : d.Flattens r where
  items := by rw [eq_records_of_records? h, items_records]
  categories := by rw [eq_records_of_records? h, ungated_categories]
  rules k s hs := by
    refine ⟨DraftStep.categoryRecord d.shopId gate (s, k), ?_, DraftStep.of_rule_isSome⟩
    rw [eq_records_of_records? h, getElem?_categories, hs, Option.map_some]

theorem rule_categories {k : Nat} {s : DraftStep} {c : DraftCondition} (hs : d.steps[k]? = some s)
    (htype : s.type = .conditional) (hc : s.condition = some c) :
    (d.records gate).categories[k]?.bind Category.rule = gate c := by
  rw [getElem?_categories, hs, Option.map_some, Option.bind_some]
  exact DraftStep.rule_of_condition htype hc

/-- The preview and the customer form agree on everything but how answers are written. A draft
has no preview when a condition has too many digits in it, and no customer form when such a
condition names an item of the draft. -/
theorem preview_agrees_with_form (d : Draft) :
    (d.preview? = none ↔ ∃ c, d.HasLongCondition c) ∧
      (d.customerForm? = none ↔
        ∃ c, d.HasLongCondition c ∧ (c.chosenItem? d.steps).isSome = true) ∧
      (∀ p, d.preview? = some p → d.Flattens p) ∧
      (∀ r, d.customerForm? = some r → d.Flattens r) ∧
      ∀ p, d.preview? = some p → ∃ r, d.customerForm? = some r ∧
        p.items = r.items ∧
        p.categories.map Category.ungated = r.categories.map Category.ungated ∧
        ∀ (k : Nat) (s : DraftStep) (c : DraftCondition) (t : DraftStep),
          d.steps[k]? = some s → s.type = .conditional → s.condition = some c →
          d.Settles t c →
            ∃ named chosen : Rule, p.categories[k]?.bind Category.rule = some named ∧
              r.categories[k]?.bind Category.rule = some chosen ∧
              ∀ x ∈ t.category.items,
                named.holds [(answerField c.fieldId, .str x.name)] =
                  decide (x.name = c.value) ∧
                chosen.holds [(answerField c.fieldId, .int x.id)] =
                  decide (x.name = c.value) := by
  refine ⟨preview?_eq_none_iff, customerForm?_eq_none_iff, fun p hp => flattens_of_records? hp,
    fun r hr => flattens_of_records? hr, fun p hp => ?_⟩
  have hr := customerForm?_of_preview? hp
  have hpreview := flattens_of_records? hp
  have hform := flattens_of_records? hr
  refine ⟨d.customerForm, hr, hpreview.items.trans hform.items.symm,
    hpreview.categories.trans hform.categories.symm, ?_⟩
  intro k s c t hs htype hc hsettles
  obtain ⟨named, chosen, hnamed, hchosen, hagree⟩ := hsettles.rules_agree
  refine ⟨named, chosen, ?_, ?_, hagree⟩
  · rw [eq_records_of_records? hp, rule_categories hs htype hc, hnamed]
  · rw [customerForm, rule_categories hs htype hc, hchosen]

/-- In the form for portraits the name of a location opens the makeup step of the preview
where its id opens the published one. -/
theorem studio_opens_makeup :
    ∃ (p r : FormRecords) (named chosen : Rule),
      portraitDraft.preview? = some p ∧ portraitDraft.customerForm? = some r ∧
      p.categories[1]?.bind Category.rule = some named ∧
      r.categories[1]?.bind Category.rule = some chosen ∧
      named.holds [(answerField 10, .str "Studio")] = true ∧
      chosen.holds [(answerField 10, .int 100)] = true ∧
      named.holds [(answerField 10, .str "Outdoor")] = false ∧
      chosen.holds [(answerField 10, .int 101)] = false := by
  let location : DraftStep :=
    { type := .trigger
      category := ⟨10, "location", "Location", none, .plan,
        [⟨100, "Studio", 5000, none⟩, ⟨101, "Outdoor", 8000, none⟩]⟩ }
  have hsettles : portraitDraft.Settles location ⟨10, "location", "Studio"⟩ := by
    constructor <;> decide
  have hpreview : portraitDraft.preview? = some portraitDraft.preview :=
    isSound_portraitDraft.records?
  obtain ⟨-, -, -, -, hagrees⟩ := preview_agrees_with_form portraitDraft
  obtain ⟨r, hr, -, -, hrules⟩ := hagrees _ hpreview
  obtain ⟨named, chosen, hnamed, hchosen, hagree⟩ := hrules 1 _ _ _ rfl rfl rfl hsettles
  obtain ⟨hstudio, hid⟩ := hagree ⟨100, "Studio", 5000, none⟩ List.mem_cons_self
  obtain ⟨houtdoor, hother⟩ :=
    hagree ⟨101, "Outdoor", 8000, none⟩ (List.mem_cons_of_mem _ List.mem_cons_self)
  exact ⟨_, r, named, chosen, hpreview, hr, hnamed, hchosen, hstudio, hid, houtdoor, hother⟩

/-- A draft whose only step goes by the answer to the category with the given id. -/
def gatedDraft (category : Int) : Draft where
  shopId := some 1
  shootingCategoryId := 7
  shootingCategoryName := "Portrait"
  steps :=
    [{ type := .conditional
       category := ⟨20, "makeup", "Makeup", none, .optionMulti, [⟨200, "Basic", 3000, none⟩]⟩
       condition := some ⟨category, "location", "Studio"⟩ }]

theorem preview?_gatedDraft {category : Int} (h : ¬ IsShort category) :
    (gatedDraft category).preview? = none :=
  preview?_eq_none_iff.mpr ⟨_, _, List.mem_cons_self, rfl, rfl, h⟩

/-- A condition on a category that is not in the draft gives no rule of the customer form. -/
theorem customerForm?_gatedDraft {category : Int} (h : 20 ≠ category) :
    (gatedDraft category).customerForm? = some (gatedDraft category).customerForm := by
  refine records?_eq_some_iff.mpr ⟨?_, rfl⟩
  have hnone : DraftCondition.chosenItem? (gatedDraft category).steps
      ⟨category, "location", "Studio"⟩ = none := by
    simp [DraftCondition.chosenItem?, gatedDraft, h]
  intro s hs htype c hc hsome
  obtain rfl := List.mem_singleton.mp hs
  cases hc
  rw [DraftCondition.itemRule, hnone] at hsome
  cases hsome

/-- There is no preview of a draft with a condition on a category whose id has too many digits,
but there is a customer form if this category is not in the draft. -/
theorem long_condition_has_no_preview :
    (gatedDraft (10 ^ 4300)).preview? = none ∧
      (gatedDraft (10 ^ 4300)).customerForm? = some (gatedDraft (10 ^ 4300)).customerForm := by
  have hlong : ¬ IsShort (10 ^ 4300) := not_isShort_pow (Nat.le_refl maxDigits)
  refine ⟨preview?_gatedDraft hlong, customerForm?_gatedDraft ?_⟩
  intro h
  rw [← h] at hlong
  exact hlong (isShort_of_fits (by decide))

end Draft

end StudioQuote
