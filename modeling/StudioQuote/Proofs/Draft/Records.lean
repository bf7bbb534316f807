import StudioQuote.Draft.Records

/-!
# What a draft is flattened into

Every step gives one category, in order, and the items of that category. So the
positions of categories increase, the positions of items increase within a category, and
a rule compares the answer to a category with the id of an item of the draft.
-/

namespace StudioQuote

theorem map_fst_zipIdx {α β : Type} (f : α → β) (as : List α) (k : Nat) :
    (as.zipIdx k).map (fun a => f a.1) = as.map f := by
  have h := congrArg (List.map f) (List.zipIdx_map_fst k as)
  rw [List.map_map] at h
  exact h

theorem exists_mem_zipIdx {α : Type} {as : List α} {a : α} (h : a ∈ as) :
    ∃ k, (a, k) ∈ as.zipIdx := by
  rw [← List.zipIdx_map_fst 0 as] at h
  obtain ⟨⟨b, k⟩, hb, rfl⟩ := List.mem_map.mp h
  exact ⟨k, hb⟩

theorem pairwise_zipIdx {α : Type} (as : List α) (k : Nat) :
    (as.zipIdx k).Pairwise fun a b => a.2 < b.2 := by
  induction as generalizing k with
  | nil => exact List.Pairwise.nil
  | cons a as ih =>
    rw [List.zipIdx_cons, List.pairwise_cons]
    refine ⟨fun b hb => ?_, ih (k + 1)⟩
    exact Nat.lt_of_succ_le (List.le_snd_of_mem_zipIdx hb)

namespace Draft

variable {gate : DraftCondition → Option Rule} {d : Draft}

def categoryIds (d : Draft) : List Int :=
  d.steps.map (·.category.id)

def itemIds (d : Draft) : List Int :=
  d.steps.flatMap fun s => s.category.items.map DraftItem.id

theorem map_id_categories : (d.records gate).categories.map Category.id = d.categoryIds := by
  rw [records, categoryIds, List.map_map]
  exact map_fst_zipIdx (·.category.id) d.steps 0

theorem map_id_itemRecords (shopId : Option Int) (s : DraftStep) :
    (s.itemRecords shopId).map Item.id = s.category.items.map DraftItem.id := by
  rw [DraftStep.itemRecords, List.map_map]
  exact map_fst_zipIdx DraftItem.id s.category.items 0

theorem map_id_items : (d.records gate).items.map Item.id = d.itemIds := by
  rw [records, itemIds, List.map_flatMap]
  simp only [map_id_itemRecords]

theorem records?_eq_some_iff {r : FormRecords} :
    d.records? gate = some r ↔ (∀ s ∈ d.steps, s.HasShortGate gate) ∧ d.records gate = r := by
  rw [records?, Option.ite_none_right_eq_some, Option.some.injEq]

theorem records?_eq_none_iff :
    d.records? gate = none ↔ ∃ s ∈ d.steps, ¬ s.HasShortGate gate := by
  rw [records?]
  split
  · rename_i hall
    simpa using hall
  · rename_i hsome
    simpa using hsome

theorem eq_records_of_records? {r : FormRecords} (h : d.records? gate = some r) :
    r = d.records gate :=
  (records?_eq_some_iff.mp h).2.symm

theorem shopId_of_mem_categories {c : Category} (h : c ∈ (d.records gate).categories) :
    c.shopId = d.shopId := by
  obtain ⟨s, -, rfl⟩ := List.mem_map.mp h
  rfl

theorem mem_items {i : Item} (h : i ∈ (d.records gate).items) :
    ∃ s ∈ d.steps, ∃ j ∈ s.category.items.zipIdx,
      i = DraftStep.itemRecord d.shopId s.category.id j := by
  obtain ⟨s, hs, hi⟩ := List.mem_flatMap.mp h
  obtain ⟨j, hj, rfl⟩ := List.mem_map.mp hi
  exact ⟨s, hs, j, hj, rfl⟩

theorem shopId_of_mem_items {i : Item} (h : i ∈ (d.records gate).items) : i.shopId = d.shopId := by
  obtain ⟨s, -, j, -, rfl⟩ := mem_items h
  rfl

theorem categoryId_of_mem_items {i : Item} (h : i ∈ (d.records gate).items) :
    i.categoryId ∈ (d.records gate).categories.map Category.id := by
  obtain ⟨s, hs, j, -, rfl⟩ := mem_items h
  rw [map_id_categories]
  exact List.mem_map_of_mem hs

theorem pairwise_categories :
    (d.records gate).categories.Pairwise fun a b => a.sortOrder < b.sortOrder := by
  refine List.pairwise_map.mpr ((pairwise_zipIdx d.steps 0).imp fun h => ?_)
  exact Int.ofNat_lt.mpr h

/-- With distinct categories no two items share a category and a position. -/
theorem pairwise_items (h : d.categoryIds.Nodup) :
    (d.records gate).items.Pairwise fun a b =>
      a.categoryId = b.categoryId → a.sortOrder < b.sortOrder := by
  refine List.pairwise_flatMap.mpr ⟨fun s hs => ?_, ?_⟩
  · refine List.pairwise_map.mpr ((pairwise_zipIdx s.category.items 0).imp fun hlt _ => ?_)
    exact Int.ofNat_lt.mpr hlt
  · refine (List.pairwise_map.mp h).imp fun hne i hi j hj heq => ?_
    obtain ⟨a, -, rfl⟩ := List.mem_map.mp hi
    obtain ⟨b, -, rfl⟩ := List.mem_map.mp hj
    exact absurd heq hne

theorem itemRule_eq_some {steps : List DraftStep} {c : DraftCondition} {r : Rule}
    (h : c.itemRule steps = some r) :
    ∃ id, c.chosenItem? steps = some id ∧
      r = .fieldEquals (answerField c.fieldId) (.int id) := by
  obtain ⟨id, hid, rfl⟩ := Option.map_eq_some_iff.mp h
  exact ⟨id, hid, rfl⟩

theorem mem_itemIds_of_chosenItem? {c : DraftCondition} {id : Int}
    (h : c.chosenItem? d.steps = some id) : id ∈ d.itemIds := by
  obtain ⟨s, hs, hchosen⟩ := Option.bind_eq_some_iff.mp h
  obtain ⟨i, hi, rfl⟩ := Option.map_eq_some_iff.mp hchosen
  refine List.mem_flatMap.mpr ⟨s, List.mem_reverse.mp (List.mem_of_find?_eq_some hs), ?_⟩
  exact List.mem_map_of_mem (List.mem_reverse.mp (List.mem_of_find?_eq_some hi))

theorem rule_of_mem_customerForm {c : Category} (h : c ∈ d.customerForm.categories) {r : Rule}
    (hr : c.rule = some r) :
    ∃ category, ∃ id ∈ d.itemIds, r = .fieldEquals (answerField category) (.int id) := by
  obtain ⟨s, -, rfl⟩ := List.mem_map.mp h
  have hrule : s.1.rule (DraftCondition.itemRule d.steps) = some r := hr
  rw [DraftStep.rule] at hrule
  split at hrule
  · obtain ⟨condition, -, hcondition⟩ := Option.bind_eq_some_iff.mp hrule
    obtain ⟨id, hid, rfl⟩ := itemRule_eq_some hcondition
    exact ⟨condition.fieldId, id, mem_itemIds_of_chosenItem? hid, rfl⟩
  · cases hrule

end Draft

end StudioQuote
