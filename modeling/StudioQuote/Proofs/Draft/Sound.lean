import StudioQuote.Proofs.Draft.Records
import StudioQuote.Proofs.Draft.Stored
import StudioQuote.Proofs.Publish.Replace

/-!
# Drafts that can be published

A draft that was read from the store has characters in its texts and short integers. So its
gates can be written, and nothing in the records that it is flattened into is refused for what
its texts or rules say. It remains that ids, prices and positions fit into 64 bits.
-/

namespace StudioQuote

open Json Number

/-! ## Texts and integers of a draft -/

theorem DraftItem.hasPlainTexts_toJson (i : DraftItem) :
    i.toJson.HasPlainTexts ↔ ∀ s ∈ i.name :: i.description.toList, Text.IsPlain s := by
  rw [toJson, hasPlainTexts_obj ["id", "name", "price", "description"] rfl (by decide)]
  simp

theorem DraftItem.hasShortIntegers_toJson (i : DraftItem) :
    i.toJson.HasShortIntegers ↔ IsShort i.id ∧ IsShort i.price := by
  rw [toJson, hasShortIntegers_obj]
  simp

theorem DraftCategory.hasPlainTexts_toJson (c : DraftCategory) :
    c.toJson.HasPlainTexts ↔
      (∀ s ∈ [c.name, c.displayName] ++ c.description.toList, Text.IsPlain s) ∧
        ∀ i ∈ c.items, i.toJson.HasPlainTexts := by
  rw [toJson, hasPlainTexts_obj ["id", "name", "displayName", "description", "productType", "items"]
    rfl (by decide)]
  simp [and_assoc]

theorem DraftCategory.hasShortIntegers_toJson (c : DraftCategory) :
    c.toJson.HasShortIntegers ↔ IsShort c.id ∧ ∀ i ∈ c.items, i.toJson.HasShortIntegers := by
  rw [toJson, hasShortIntegers_obj]
  simp

theorem DraftCondition.hasShortIntegers_toJson (c : DraftCondition) :
    c.toJson.HasShortIntegers ↔ IsShort c.fieldId := by
  rw [toJson, hasShortIntegers_obj]
  simp

@[simp] theorem FormSection.isPlain_name (s : FormSection) : Text.IsPlain s.name := by
  cases s <;> decide

theorem DraftStep.hasPlainTexts_toJson (s : DraftStep) :
    s.toJson.HasPlainTexts ↔
      s.category.toJson.HasPlainTexts ∧
        ∀ c, s.condition = some c → c.toJson.HasPlainTexts := by
  rw [toJson, hasPlainTexts_obj ["type", "category", "condition"] rfl (by decide)]
  simp

theorem DraftStep.hasShortIntegers_toJson (s : DraftStep) :
    s.toJson.HasShortIntegers ↔
      s.category.toJson.HasShortIntegers ∧
        ∀ c, s.condition = some c → c.toJson.HasShortIntegers := by
  rw [toJson, hasShortIntegers_obj]
  simp

namespace Draft

theorem hasPlainTexts_toJson (d : Draft) :
    d.toJson.HasPlainTexts ↔
      Text.IsPlain d.shootingCategoryName ∧ ∀ s ∈ d.steps, s.toJson.HasPlainTexts := by
  rw [toJson, hasPlainTexts_obj
    ["shopId", "shootingCategoryId", "shootingCategoryName", "steps"] rfl (by decide)]
  simp

theorem hasShortIntegers_step {d : Draft} (h : d.toJson.HasShortIntegers) {s : DraftStep}
    (hs : s ∈ d.steps) : s.toJson.HasShortIntegers := by
  rw [toJson, hasShortIntegers_obj] at h
  have hsteps := h ("steps", ofList DraftStep.toJson d.steps) (by simp)
  exact hasShortIntegers_ofList.mp hsteps s hs

/-- What holds of a draft that was stored and is read back. -/
structure IsSound (d : Draft) : Prop where
  plain : d.toJson.HasPlainTexts
  short : d.toJson.HasShortIntegers

namespace IsSound

variable {d : Draft} {gate : DraftCondition → Option Rule}

theorem hasPlainTexts_category (h : d.IsSound) {s : DraftStep} (hs : s ∈ d.steps) :
    s.category.toJson.HasPlainTexts :=
  (s.hasPlainTexts_toJson.mp ((hasPlainTexts_toJson d).mp h.plain |>.2 s hs)).1

theorem hasShortIntegers_category (h : d.IsSound) {s : DraftStep} (hs : s ∈ d.steps) :
    s.category.toJson.HasShortIntegers :=
  (s.hasShortIntegers_toJson.mp (hasShortIntegers_step h.short hs)).1

theorem isShort_fieldId (h : d.IsSound) {s : DraftStep} (hs : s ∈ d.steps) {c : DraftCondition}
    (hc : s.condition = some c) : IsShort c.fieldId :=
  c.hasShortIntegers_toJson.mp
    ((s.hasShortIntegers_toJson.mp (hasShortIntegers_step h.short hs)).2 c hc)

theorem records? (h : d.IsSound) : d.records? gate = some (d.records gate) :=
  records?_eq_some_iff.mpr ⟨fun _ hs _ _ hc _ => h.isShort_fieldId hs hc, rfl⟩

theorem customerForm? (h : d.IsSound) : d.customerForm? = some d.customerForm :=
  h.records?

theorem isShort_of_mem_itemIds (h : d.IsSound) {id : Int} (hid : id ∈ d.itemIds) :
    IsShort id := by
  obtain ⟨s, hs, hid⟩ := List.mem_flatMap.mp hid
  obtain ⟨i, hi, rfl⟩ := List.mem_map.mp hid
  have hitem := (s.category.hasShortIntegers_toJson.mp (h.hasShortIntegers_category hs)).2 i hi
  exact (i.hasShortIntegers_toJson.mp hitem).1

theorem isPlain_of_mem_categories (h : d.IsSound) {c : Category}
    (hc : c ∈ (d.records gate).categories) {name : String} (hname : name ∈ c.names) :
    Text.IsPlain name := by
  obtain ⟨⟨s, k⟩, hs, rfl⟩ := List.mem_map.mp hc
  have hnames := (s.category.hasPlainTexts_toJson.mp
    (h.hasPlainTexts_category (List.fst_mem_of_mem_zipIdx hs))).1
  simp only [Category.names, DraftStep.categoryRecord, presentText, List.mem_append,
    Option.mem_toList, Option.some.injEq] at hname
  rcases hname with (hname | hname) | rfl
  · exact hnames name (List.mem_append_left _ hname)
  · have hdescription := (Option.filter_eq_some_iff.mp hname).1
    exact hnames name (List.mem_append_right _ (Option.mem_toList.mpr hdescription))
  · exact s.type.isPlain_name

theorem isPlain_of_mem_items (h : d.IsSound) {i : Item} (hi : i ∈ (d.records gate).items)
    {name : String} (hname : name ∈ i.names) : Text.IsPlain name := by
  obtain ⟨s, hs, ⟨j, k⟩, hj, rfl⟩ := mem_items hi
  have hitems := (s.category.hasPlainTexts_toJson.mp (h.hasPlainTexts_category hs)).2
  have hnames := j.hasPlainTexts_toJson.mp (hitems j (List.fst_mem_of_mem_zipIdx hj))
  simp only [Item.names, DraftStep.itemRecord, presentText, List.mem_cons,
    Option.mem_toList] at hname
  rcases hname with rfl | hname
  · exact hnames _ List.mem_cons_self
  · have hdescription := (Option.filter_eq_some_iff.mp hname).1
    exact hnames name (List.mem_cons_of_mem _ (Option.mem_toList.mpr hdescription))

theorem hasShortIntegers_rule (h : d.IsSound) {c : Category} (hc : c ∈ d.customerForm.categories)
    {r : Rule} (hr : c.rule = some r) : r.toStoredJson.HasShortIntegers := by
  obtain ⟨category, id, hid, rfl⟩ := rule_of_mem_customerForm hc hr
  have hintegers :
      (Rule.fieldEquals (answerField category) (.int id)).toStoredJson.integers = [id] := rfl
  rw [HasShortIntegers, hintegers, List.forall_mem_singleton]
  exact h.isShort_of_mem_itemIds hid

end IsSound

/-- Whether the ids and prices of a draft fit into 64 bits. No list has more elements than
there are indices of 64 bits. -/
structure Fits (d : Draft) : Prop where
  categoryId : ∀ s ∈ d.steps, fitsInt64 s.category.id = true
  itemId : ∀ s ∈ d.steps, ∀ i ∈ s.category.items, fitsInt64 i.id = true
  price : ∀ s ∈ d.steps, ∀ i ∈ s.category.items, fitsInt64 i.price = true
  steps : d.steps.length < 2 ^ (63 : Nat)
  items : ∀ s ∈ d.steps, s.category.items.length < 2 ^ (63 : Nat)

theorem fitsInt64_of_lt {n length : Nat} (hn : n < length) (hlength : length < 2 ^ (63 : Nat)) :
    fitsInt64 n = true := by
  simp [fitsInt64]
  omega

theorem Fits.customerForm {d : Draft} (h : d.Fits) (hsound : d.IsSound) {shopId form : Int}
    (hkey : [shopId, form].all fitsInt64 = true) : d.customerForm.Fits shopId form := by
  have hshop : fitsInt64 shopId = true ∧ fitsInt64 form = true := by
    simpa using hkey
  refine ⟨hkey, fun c hc => ?_, fun i hi => ?_, fun c hc name => hsound.isPlain_of_mem_categories hc,
    fun i hi name => hsound.isPlain_of_mem_items hi, fun c hc r => hsound.hasShortIntegers_rule hc⟩
  · obtain ⟨⟨s, k⟩, hs, rfl⟩ := List.mem_map.mp hc
    have hposition := fitsInt64_of_lt (List.snd_lt_of_mem_zipIdx hs) h.steps
    have hid := h.categoryId s (List.fst_mem_of_mem_zipIdx hs)
    simp [Category.parameters, DraftStep.categoryRecord, hshop, hid, hposition]
  · obtain ⟨s, hs, ⟨j, k⟩, hj, rfl⟩ := mem_items hi
    have hposition := fitsInt64_of_lt (List.snd_lt_of_mem_zipIdx hj) (h.items s hs)
    have hmem := List.fst_mem_of_mem_zipIdx hj
    simp [Item.parameters, DraftStep.itemRecord, hshop, hposition, h.categoryId s hs,
      h.itemId s hs j hmem, h.price s hs j hmem]

end Draft

end StudioQuote
