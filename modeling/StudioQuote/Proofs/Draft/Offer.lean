import StudioQuote.Proofs.Draft.Records
import StudioQuote.Proofs.Selection

/-!
# What a draft offers

Read by itself, a draft says which categories a selection makes visible: all trigger
steps; the conditional steps without a condition or whose condition names the first item
that is selected in its trigger category; and the common-final steps, unless the draft
has conditional steps and none of them is visible. The customer form, whose rules compare
recorded answers with ids, shows exactly these and charges exactly their items.
-/

namespace StudioQuote

open Number

theorem DraftCondition.chosenItem?_of_filter {steps : List DraftStep} {c : DraftCondition}
    {t : DraftStep} {i : DraftItem}
    (ht : steps.filter (·.category.id == c.fieldId) = [t])
    (hi : t.category.items.filter (·.name == c.value) = [i]) :
    c.chosenItem? steps = some i.id := by
  rw [chosenItem?, ← List.head?_filter, List.filter_reverse, ht, List.reverse_singleton,
    List.head?_cons, Option.bind_some, ← List.head?_filter, List.filter_reverse, hi]
  rfl

namespace Draft

def itemsIn (d : Draft) (categoryId : Int) : List DraftItem :=
  (d.steps.filter (·.category.id == categoryId)).flatMap (·.category.items)

/-- The first selected id that belongs to an item of a category. -/
def firstPick? (d : Draft) (ids : List Int) (categoryId : Int) : Option Int :=
  ids.find? fun id => (d.itemsIn categoryId).any (·.id == id)

/-- Whether a step has no condition, or the item that its condition names is the first one
that is selected in its category. -/
def isOpen (d : Draft) (ids : List Int) (s : DraftStep) : Bool :=
  s.condition.all fun c =>
    (d.firstPick? ids c.fieldId).any fun id =>
      (d.itemsIn c.fieldId).any fun i => i.id == id && i.name == c.value

def categoryRecord (d : Draft) (s : DraftStep × Nat) : Category :=
  DraftStep.categoryRecord d.shopId (DraftCondition.itemRule d.steps) s

def categoriesOf (d : Draft) (p : DraftStep → Bool) : List Category :=
  (d.steps.zipIdx.filter fun s => p s.1).map d.categoryRecord

/-- The sections that a draft makes visible for a selection. -/
def sections (d : Draft) (ids : List Int) : VisibleSections where
  hasTrigger := d.hasTriggerStep
  trigger := d.categoriesOf (·.type == .trigger)
  conditional := d.categoriesOf fun s => s.type == .conditional && d.isOpen ids s
  commonFinal :=
    if !d.steps.any (·.type == .conditional) ||
        d.steps.any (fun s => s.type == .conditional && d.isOpen ids s) then
      d.categoriesOf (·.type == .commonFinal)
    else []

/-- The selected ids of items that stand in a visible category, once each and in the order
of selection. -/
def chargedIds (d : Draft) (ids : List Int) : List Int :=
  ids.eraseDups.filter fun id =>
    (d.sections ids).categories.any fun c => (d.itemsIn c.id).any (·.id == id)

/-- Whether every condition of a conditional step names a trigger step and exactly one of
its items. -/
def Resolves (d : Draft) : Prop :=
  ∀ s ∈ d.steps, s.type = .conditional → ∀ c ∈ s.condition,
    ∃ t ∈ d.steps, t.type = .trigger ∧ t.category.id = c.fieldId ∧
      (t.category.items.filter (·.name == c.value)).length = 1

instance (d : Draft) : Decidable d.Resolves :=
  inferInstanceAs (Decidable (∀ s ∈ d.steps, s.type = .conditional → ∀ c ∈ s.condition,
    ∃ t ∈ d.steps, t.type = .trigger ∧ t.category.id = c.fieldId ∧
      (t.category.items.filter (·.name == c.value)).length = 1))

variable {d : Draft}

theorem mem_itemsIn {categoryId : Int} {j : DraftItem} :
    j ∈ d.itemsIn categoryId ↔
      ∃ s ∈ d.steps, s.category.id = categoryId ∧ j ∈ s.category.items := by
  simp only [itemsIn, List.mem_flatMap, List.mem_filter, beq_iff_eq, and_assoc]

theorem exists_mem_items {gate : DraftCondition → Option Rule} {s : DraftStep} {j : DraftItem}
    (hs : s ∈ d.steps) (hj : j ∈ s.category.items) :
    ∃ i ∈ (d.records gate).items, i.id = j.id ∧ i.categoryId = s.category.id := by
  obtain ⟨k, hpair⟩ := exists_mem_zipIdx hj
  exact ⟨_, List.mem_flatMap.mpr ⟨s, hs, List.mem_map_of_mem hpair⟩, rfl, rfl⟩

section Form

variable {items : List Item} (hids : d.itemIds.Nodup) (hperm : items.Perm d.customerForm.items)

include hids hperm

theorem any_find?_items (id categoryId : Int) :
    (items.find? (·.id == id)).any (·.categoryId == categoryId) =
      (d.itemsIn categoryId).any (·.id == id) := by
  have hnodup : (items.map Item.id).Nodup := by
    refine (hperm.map Item.id).nodup_iff.mpr ?_
    rw [customerForm, map_id_items]
    exact hids
  rw [Bool.eq_iff_iff, Option.any_eq_true, List.any_eq_true]
  constructor
  · rintro ⟨i, hi, hcategory⟩
    obtain ⟨hmem, rfl⟩ := (find?_key_eq_some_iff hnodup).mp hi
    obtain ⟨s, hs, ⟨j, k⟩, hj, rfl⟩ := mem_items (hperm.mem_iff.mp hmem)
    exact ⟨j, mem_itemsIn.mpr ⟨s, hs, beq_iff_eq.mp hcategory, List.fst_mem_of_mem_zipIdx hj⟩,
      beq_self_eq_true _⟩
  · rintro ⟨j, hj, hid⟩
    obtain ⟨s, hs, rfl, hitems⟩ := mem_itemsIn.mp hj
    obtain ⟨i, hi, hsame, hcategory⟩ := exists_mem_items hs hitems
    refine ⟨i, (find?_key_eq_some_iff hnodup).mpr ⟨hperm.mem_iff.mpr hi, ?_⟩, ?_⟩
    · exact hsame.trans (beq_iff_eq.mp hid)
    · exact beq_iff_eq.mpr hcategory

theorem firstPick?_eq (ids : List Int) (categoryId : Int) :
    ((Item.resolve ids items).find? (·.categoryId == categoryId)).map Item.id =
      d.firstPick? ids categoryId := by
  rw [Item.find?_resolve, firstPick?]
  exact congrArg (fun p => ids.find? p) (funext fun id => any_find?_items hids hperm id categoryId)

end Form

section Distinct

variable (hcategories : d.categoryIds.Nodup) {t : DraftStep} (ht : t ∈ d.steps)

include hcategories ht

theorem mem_itemsIn_of_mem {j : DraftItem} :
    j ∈ d.itemsIn t.category.id ↔ j ∈ t.category.items := by
  rw [mem_itemsIn]
  constructor
  · rintro ⟨s, hs, heq, hj⟩
    rw [← List.inj_on_of_nodup_map hcategories hs ht heq]
    exact hj
  · exact fun hj => ⟨t, ht, rfl, hj⟩

theorem chosenItem?_eq {c : DraftCondition} (hfield : t.category.id = c.fieldId) {i : DraftItem}
    (hi : t.category.items.filter (·.name == c.value) = [i]) :
    c.chosenItem? d.steps = some i.id := by
  refine DraftCondition.chosenItem?_of_filter ?_ hi
  rw [← hfield]
  exact filter_eq_singleton ht (List.count_eq_one_of_mem hcategories (List.mem_map_of_mem ht))

theorem any_itemsIn_eq {c : DraftCondition} (hfield : t.category.id = c.fieldId) {i : DraftItem}
    (hi : t.category.items.filter (·.name == c.value) = [i]) (id : Int) :
    ((d.itemsIn c.fieldId).any fun j => j.id == id && j.name == c.value) = (id == i.id) := by
  have hone : ∀ j, j ∈ t.category.items ∧ (j.name == c.value) = true ↔ j = i := by
    intro j
    have hmem : j ∈ t.category.items.filter (·.name == c.value) ↔
        j ∈ t.category.items ∧ (j.name == c.value) = true :=
      List.mem_filter
    rw [hi, List.mem_singleton] at hmem
    exact hmem.symm
  rw [Bool.eq_iff_iff, List.any_eq_true, beq_iff_eq, ← hfield]
  constructor
  · rintro ⟨j, hj, hsame⟩
    rw [Bool.and_eq_true_iff, beq_iff_eq] at hsame
    obtain rfl := (hone j).mp ⟨(mem_itemsIn_of_mem hcategories ht).mp hj, hsame.2⟩
    exact hsame.1.symm
  · rintro rfl
    obtain ⟨hmem, hname⟩ := (hone i).mpr rfl
    refine ⟨i, (mem_itemsIn_of_mem hcategories ht).mpr hmem, ?_⟩
    rw [beq_self_eq_true, hname]
    rfl

end Distinct

theorem isIn_categoryRecord (s : DraftStep × Nat) (type : FormSection) :
    (d.categoryRecord s).isIn type = (s.1.type == type) := by
  change (some s.1.type.name == some type.name) = (s.1.type == type)
  cases s.1.type <;> cases type <;> decide

theorem filter_categories (p : Category → Bool) (q : DraftStep → Bool)
    (h : ∀ s ∈ d.steps.zipIdx, p (d.categoryRecord s) = q s.1) :
    d.customerForm.categories.filter p = d.categoriesOf q := by
  change (d.steps.zipIdx.map d.categoryRecord).filter p = _
  rw [List.filter_map, categoriesOf]
  exact congrArg (List.map d.categoryRecord) (List.filter_congr h)

theorem any_categories (p : Category → Bool) (q : DraftStep → Bool)
    (h : ∀ s ∈ d.steps.zipIdx, p (d.categoryRecord s) = q s.1) :
    d.customerForm.categories.any p = d.steps.any q := by
  change (d.steps.zipIdx.map d.categoryRecord).any p = _
  rw [List.any_map, Bool.eq_iff_iff, List.any_eq_true, List.any_eq_true]
  constructor
  · rintro ⟨s, hs, hp⟩
    exact ⟨s.1, List.fst_mem_of_mem_zipIdx hs, (h s hs).symm.trans hp⟩
  · rintro ⟨s, hs, hq⟩
    obtain ⟨k, hk⟩ := exists_mem_zipIdx hs
    exact ⟨(s, k), hk, (h (s, k) hk).trans hq⟩

theorem isEmpty_filter {α : Type} (p : α → Bool) (as : List α) :
    (as.filter p).isEmpty = !as.any p := by
  rw [Bool.eq_iff_iff, List.isEmpty_iff, List.filter_eq_nil_iff, Bool.not_eq_true',
    List.any_eq_false]

theorem mem_map_id_categoriesOf {p : DraftStep → Bool} {id : Int} :
    id ∈ (d.categoriesOf p).map Category.id ↔
      ∃ s ∈ d.steps, p s = true ∧ s.category.id = id := by
  rw [categoriesOf, List.map_map, List.mem_map]
  constructor
  · rintro ⟨s, hs, rfl⟩
    obtain ⟨hs, hp⟩ := List.mem_filter.mp hs
    exact ⟨s.1, List.fst_mem_of_mem_zipIdx hs, hp, rfl⟩
  · rintro ⟨s, hs, hp, rfl⟩
    obtain ⟨k, hk⟩ := exists_mem_zipIdx hs
    exact ⟨(s, k), List.mem_filter.mpr ⟨hk, hp⟩, rfl⟩

section Shown

variable {answers : Answers} {ids : List Int}
  (hshown : ∀ s ∈ d.steps.zipIdx, (d.categoryRecord s).isShown answers =
    (s.1.type != .conditional || d.isOpen ids s.1))

include hshown

theorem filter_shown {p : Category → Bool} {q : DraftStep → Bool}
    (h : ∀ s, (p (d.categoryRecord s) && (s.1.type != .conditional || d.isOpen ids s.1)) = q s.1) :
    (VisibleSections.shown d.customerForm.categories answers).filter p = d.categoriesOf q := by
  rw [VisibleSections.shown, List.filter_filter]
  refine filter_categories _ _ fun s hs => ?_
  rw [hshown s hs, h]

theorem showsCommonFinal_customerForm :
    VisibleSections.showsCommonFinal d.customerForm.categories answers =
      (!d.steps.any (·.type == .conditional) ||
        d.steps.any fun s => s.type == .conditional && d.isOpen ids s) := by
  have hconditional : ∀ s, ((d.categoryRecord s).isActive &&
      (d.categoryRecord s).isIn .conditional) = (s.1.type == .conditional) := by
    intro s
    rw [isIn_categoryRecord]
    rfl
  rw [VisibleSections.showsCommonFinal, isEmpty_filter, List.any_filter]
  congr 1
  · exact congrArg _ (any_categories _ _ fun s _ => hconditional s)
  · refine any_categories _ _ fun s hs => ?_
    rw [hconditional, hshown s hs]
    cases s.1.type <;> rfl

theorem group_of_isShown :
    VisibleSections.group d.customerForm.categories answers = d.sections ids := by
  have htriggers : VisibleSections.hasTriggerSection d.customerForm.categories =
      d.hasTriggerStep := by
    refine any_categories _ _ fun s _ => ?_
    rw [isIn_categoryRecord]
    exact Bool.true_and _
  have htrigger := filter_shown hshown (p := fun c => !c.isIn .conditional && !c.isIn .commonFinal)
    (q := (·.type == .trigger)) fun s => by
      rw [isIn_categoryRecord, isIn_categoryRecord]
      cases s.1.type <;> rfl
  have hconditional := filter_shown hshown (p := (·.isIn .conditional))
    (q := fun s => s.type == .conditional && d.isOpen ids s) fun s => by
      rw [isIn_categoryRecord]
      cases s.1.type <;> rfl
  have hfinal := filter_shown hshown (p := (·.isIn .commonFinal))
    (q := (·.type == .commonFinal)) fun s => by
      rw [isIn_categoryRecord]
      cases s.1.type <;> rfl
  rw [VisibleSections.group, htriggers, htrigger, hconditional, hfinal,
    showsCommonFinal_customerForm hshown]
  rfl

end Shown

section Form

variable (hcategories : d.categoryIds.Nodup) (hids : d.itemIds.Nodup) (hresolves : d.Resolves)
  {items : List Item} (hperm : items.Perm d.customerForm.items) (ids : List Int)

include hcategories hids hresolves hperm

theorem isOpen_categoryRecord {s : DraftStep × Nat} (hs : s ∈ d.steps.zipIdx)
    (htype : s.1.type = .conditional) :
    (d.categoryRecord s).isOpen
        (Answers.recorded d.customerForm.categories (Item.resolve ids items)) =
      d.isOpen ids s.1 := by
  have hrule : (d.categoryRecord s).rule = s.1.condition.bind (DraftCondition.itemRule d.steps) :=
    if_pos htype
  rw [Category.isOpen, hrule, isOpen]
  cases hcondition : s.1.condition with
  | none => rfl
  | some c =>
    obtain ⟨t, ht, htrigger, hfield, hone⟩ :=
      hresolves s.1 (List.fst_mem_of_mem_zipIdx hs) htype c hcondition
    obtain ⟨i, hi⟩ := List.length_eq_one_iff.mp hone
    have htriggers : c.fieldId ∈ Answers.triggerIds d.customerForm.categories := by
      rw [Answers.triggerIds, filter_categories _ (·.type == .trigger)
        fun s _ => isIn_categoryRecord s .trigger]
      exact mem_map_id_categoriesOf.mpr ⟨t, ht, beq_iff_eq.mpr htrigger, hfield⟩
    have hitem : c.itemRule d.steps = some (.fieldEquals (answerField c.fieldId) (.int i.id)) := by
      rw [DraftCondition.itemRule, chosenItem?_eq hcategories ht hfield hi]
      rfl
    rw [Option.bind_some, hitem, Option.all_some]
    simp only [any_itemsIn_eq hcategories ht hfield hi]
    rw [Rule.holds_recorded htriggers, firstPick?_eq hids hperm]

theorem isShown_categoryRecord {s : DraftStep × Nat} (hs : s ∈ d.steps.zipIdx) :
    (d.categoryRecord s).isShown
        (Answers.recorded d.customerForm.categories (Item.resolve ids items)) =
      (s.1.type != .conditional || d.isOpen ids s.1) := by
  have hactive : (d.categoryRecord s).isActive = true := rfl
  have hsection : (d.categoryRecord s).formSection.isNone = false := rfl
  rw [Category.isShown, hactive, hsection, isIn_categoryRecord, isIn_categoryRecord,
    isIn_categoryRecord]
  cases htype : s.1.type with
  | trigger => rfl
  | commonFinal => rfl
  | conditional =>
    rw [isOpen_categoryRecord hcategories hids hresolves hperm ids hs htype]
    rfl

theorem group_customerForm :
    VisibleSections.group d.customerForm.categories
        (Answers.recorded d.customerForm.categories (Item.resolve ids items)) =
      d.sections ids :=
  group_of_isShown fun _ hs => isShown_categoryRecord hcategories hids hresolves hperm ids hs

end Form

theorem autoSelect_of_mem_items {gate : DraftCondition → Option Rule} {i : Item}
    (h : i ∈ (d.records gate).items) : i.autoSelect = false := by
  obtain ⟨s, -, j, -, rfl⟩ := mem_items h
  rfl

theorem any_any_comm {α β : Type} (a : Option α) (bs : List β) (r : α → β → Bool) :
    (a.any fun x => bs.any (r x)) = bs.any fun y => a.any fun x => r x y := by
  cases a with
  | none => exact (List.any_eq_false.mpr fun _ _ => Bool.false_ne_true).symm
  | some x => rfl

theorem pricedIds_customerForm (hids : d.itemIds.Nodup) {items : List Item}
    (hperm : items.Perm d.customerForm.items) (ids : List Int) :
    Quote.pricedIds items ((d.sections ids).categories.map Category.id) ids =
      d.chargedIds ids := by
  have hmanual : ∀ i ∈ items, i.autoSelect = false :=
    fun i hi => autoSelect_of_mem_items (hperm.mem_iff.mp hi)
  rw [Quote.pricedIds, Item.withAutoSelected_of_manual hmanual, Item.map_id_filter_resolve,
    chargedIds]
  refine List.filter_congr fun id _ => ?_
  simp only [List.contains_eq_any_beq, List.any_map]
  rw [any_any_comm]
  simp only [Function.comp_apply, any_find?_items hids hperm]

/-- A quote on the customer form has the sections and the items that the draft makes
visible, if its price can be computed. -/
theorem build?_customerForm (hcategories : d.categoryIds.Nodup) (hids : d.itemIds.Nodup)
    (hshort : ∀ c ∈ d.customerForm.categories, IsShort c.id) (hresolves : d.Resolves)
    {items : List Item} (hperm : items.Perm d.customerForm.items) (campaigns : List Campaign)
    (ids : List Int) (form : Option Int) (today : Date) (rate : Decimal) :
    Quote.build? ⟨d.customerForm.categories, items, campaigns⟩ [] ids form today rate =
      ((PriceBreakdown.ofSelection? (Item.resolve (d.chargedIds ids) d.customerForm.items)
        campaigns form today rate).map fun price =>
          (⟨d.sections ids, d.chargedIds ids, price⟩ : Quote)).mapError .amount := by
  have hnodup : (items.map Item.id).Nodup := by
    refine (hperm.map Item.id).nodup_iff.mpr ?_
    rw [customerForm, map_id_items]
    exact hids
  rw [Quote.build?, Quote.answers?, Answers.ofSelection?,
    if_pos (Answers.haveShortFields_of_ids hshort), Answers.ofSelection_nil]
  dsimp only
  rw [group_customerForm hcategories hids hresolves hperm, pricedIds_customerForm hids hperm,
    Item.resolve_of_perm hperm hnodup]
  cases PriceBreakdown.ofSelection? (Item.resolve (d.chargedIds ids) d.customerForm.items)
    campaigns form today rate with
  | error fault => rfl
  | ok price => rfl

end Draft

end StudioQuote
