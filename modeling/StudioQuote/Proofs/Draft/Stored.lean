import StudioQuote.Draft.Basic
import StudioQuote.Proofs.Json.Faithful
import StudioQuote.Proofs.Reading

/-!
# Stored drafts read back

The JSON of a draft is read as the draft. Its stored text is read as the draft too, but
for halves of surrogate pairs: where one is left alone the text is not read at all, and
two that stand side by side in a name are joined. The ids of a draft never change.
-/

namespace StudioQuote

open Json

/-! ## Records of a draft -/

theorem ProductType.read_name (t : ProductType) :
    Reader.name ProductType.ofName? (.str t.name) = .ok t :=
  Reader.name_of_ofName? (by cases t <;> decide) (ofName?_name t)

theorem FormSection.read_name (s : FormSection) :
    Reader.name FormSection.ofName? (.str s.name) = .ok s :=
  Reader.name_of_ofName? (by cases s <;> decide) (ofName?_name s)

namespace DraftItem

theorem read_toJson (i : DraftItem) : read i.toJson = .ok i := by
  have hdescription := Reader.nullable_ofOption Reader.text Json.str
    (fun _ => rfl) i.description
  simp [read, toJson, Reader.record, ofMembers, Members.required, Members.optional,
    Members.defaulted, List.lookup_cons, hdescription]

def reread (i : DraftItem) : DraftItem :=
  { i with
    name := Text.reread i.name
    description := i.description.map Text.reread }

theorem reread_toJson (i : DraftItem) : i.toJson.reread = i.reread.toJson := by
  have hdescription := reread_ofOption Json.str Text.reread (fun _ => rfl) i.description
  rw [toJson, reread_obj ["id", "name", "price", "description"] rfl (by decide) (by decide)]
  simp only [List.map_cons, List.map_nil, hdescription]
  rfl

end DraftItem

namespace DraftCategory

theorem read_toJson (c : DraftCategory) : read c.toJson = .ok c := by
  have hdescription := Reader.nullable_ofOption Reader.text Json.str
    (fun _ => rfl) c.description
  have hitems := Reader.list_ofList DraftItem.read_toJson c.items
  simp [read, toJson, Reader.record, ofMembers, Members.required, Members.optional,
    Members.defaulted, Members.nameIn, List.lookup_cons, hdescription,
    ProductType.read_name, hitems]

def reread (c : DraftCategory) : DraftCategory :=
  { c with
    name := Text.reread c.name
    displayName := Text.reread c.displayName
    description := c.description.map Text.reread
    items := c.items.map DraftItem.reread }

theorem reread_toJson (c : DraftCategory) : c.toJson.reread = c.reread.toJson := by
  have hdescription := reread_ofOption Json.str Text.reread (fun _ => rfl) c.description
  have htype : Json.reread (.str c.productType.name) = .str c.productType.name :=
    congrArg Json.str (Text.reread_of_unmarked (by cases c.productType <;> decide))
  have hitems := reread_ofList DraftItem.reread_toJson c.items
  rw [toJson, reread_obj ["id", "name", "displayName", "description", "productType", "items"] rfl
    (by decide) (by decide)]
  simp only [List.map_cons, List.map_nil, hdescription, htype, hitems]
  rfl

end DraftCategory

namespace DraftCondition

theorem read_toJson (c : DraftCondition) : read c.toJson = .ok c := by
  simp [read, toJson, Reader.record, ofMembers, Members.required, Members.nameIn,
    List.lookup_cons]

def reread (c : DraftCondition) : DraftCondition :=
  { c with
    fieldName := Text.reread c.fieldName
    value := Text.reread c.value }

theorem reread_toJson (c : DraftCondition) : c.toJson.reread = c.reread.toJson := by
  rw [toJson, reread_obj ["fieldId", "fieldName", "value"] rfl (by decide) (by decide)]
  rfl

end DraftCondition

namespace DraftStep

theorem read_toJson (s : DraftStep) : read s.toJson = .ok s := by
  have hcondition := Reader.nullable_ofOption DraftCondition.read DraftCondition.toJson
    (fun c => congrArg (Reading.map some) (DraftCondition.read_toJson c)) s.condition
  simp [read, toJson, Reader.record, ofMembers, Members.required, Members.optional,
    Members.defaulted, List.lookup_cons, FormSection.read_name, DraftCategory.read_toJson,
    hcondition]

def reread (s : DraftStep) : DraftStep :=
  { s with
    category := s.category.reread
    condition := s.condition.map DraftCondition.reread }

theorem reread_toJson (s : DraftStep) : s.toJson.reread = s.reread.toJson := by
  have htype : Json.reread (.str s.type.name) = .str s.type.name :=
    congrArg Json.str (Text.reread_of_unmarked (by cases s.type <;> decide))
  have hcondition := reread_ofOption _ _ DraftCondition.reread_toJson s.condition
  rw [toJson, reread_obj ["type", "category", "condition"] rfl (by decide) (by decide)]
  simp only [List.map_cons, List.map_nil, htype, DraftCategory.reread_toJson, hcondition]
  rfl

end DraftStep

namespace Draft

theorem read_toJson (d : Draft) : read d.toJson = .ok d := by
  have hshop := Reader.nullable_ofOption Reader.int Json.int
    (fun _ => rfl) d.shopId
  have hsteps := Reader.list_ofList DraftStep.read_toJson d.steps
  simp [read, toJson, Reader.record, ofMembers, Members.required, Members.optional,
    Members.defaulted, Members.nameIn, List.lookup_cons, hshop, hsteps]

def reread (d : Draft) : Draft :=
  { d with
    shootingCategoryName := Text.reread d.shootingCategoryName
    steps := d.steps.map DraftStep.reread }

theorem reread_toJson (d : Draft) : d.toJson.reread = d.reread.toJson := by
  have hshop := reread_ofOption Json.int id (fun _ => rfl) d.shopId
  have hsteps := reread_ofList DraftStep.reread_toJson d.steps
  rw [Option.map_id] at hshop
  rw [toJson, reread_obj ["shopId", "shootingCategoryId", "shootingCategoryName", "steps"] rfl
    (by decide) (by decide)]
  simp only [List.map_cons, List.map_nil, hshop, hsteps]
  rfl

/-- A stored draft is read back, unless reading its text meets a fault. -/
theorem ofText_toText (d : Draft) :
    ofText d.toText =
      match check .strict d.toJson with
      | .error _ => .problem (.str d.toText) .invalidJson
      | .ok _ => .ok d.reread := by
  have h := read_write readable_compact .strict d.toJson
  rw [ofText, toText, h, reread_toJson]
  cases check .strict d.toJson with
  | error fault => rfl
  | ok u => exact read_toJson d.reread

end Draft

/-! ## Drafts that come back unchanged -/

theorem DraftItem.regular_toJson (k : Nat) (i : DraftItem) : Regular False (k + 1) i.toJson := by
  refine .obj (by simp) ?_
  simp [Regular.int, Regular.str, Regular.ofOption]

theorem DraftCategory.regular_toJson (k : Nat) (c : DraftCategory) :
    Regular False (k + 3) c.toJson := by
  have hitems := Regular.ofList (DraftItem.regular_toJson k) c.items
  refine .obj (by simp) ?_
  simp [Regular.int, Regular.str, Regular.ofOption, hitems]

theorem DraftCondition.regular_toJson (k : Nat) (c : DraftCondition) :
    Regular False (k + 1) c.toJson := by
  refine .obj (by simp) ?_
  simp [Regular.int, Regular.str]

theorem DraftStep.regular_toJson (k : Nat) (s : DraftStep) : Regular False (k + 4) s.toJson := by
  have hcategory := s.category.regular_toJson k
  have hcondition := Regular.ofOption (DraftCondition.regular_toJson (k + 2)) s.condition
  refine .obj (by simp) ?_
  simp [Regular.str, hcategory, hcondition]

theorem Draft.regular_toJson (k : Nat) (d : Draft) : Regular False (k + 6) d.toJson := by
  have hsteps := Regular.ofList (DraftStep.regular_toJson k) d.steps
  refine .obj (by simp) ?_
  simp [Regular.int, Regular.str, Regular.ofOption, hsteps]

namespace Draft

/-- The same document is read from the same text, and the JSON of a draft determines it. -/
theorem reread_eq_self_iff (d : Draft) : d.reread = d ↔ d.toJson.reread = d.toJson := by
  rw [reread_toJson]
  constructor
  · exact congrArg toJson
  · intro h
    have hread := congrArg Draft.read h
    rw [read_toJson, read_toJson] at hread
    exact Reading.ok.inj hread

theorem reread_of_hasPlainTexts {d : Draft} (h : d.toJson.HasPlainTexts) : d.reread = d :=
  (reread_eq_self_iff d).mpr ((hasPlainTexts_iff (d.regular_toJson 0)).mp h).1

theorem ofText_toText_of_hasPlainTexts {d : Draft} (h : d.toJson.HasPlainTexts) :
    ofText d.toText =
      if d.toJson.HasShortIntegers then .ok d else .problem (.str d.toText) .invalidJson := by
  have hregular := d.regular_toJson 0
  have hplain := (hasPlainTexts_iff hregular).mp h
  have hcheck := check_strict_eq_ok_iff hregular (by decide)
  rw [ofText_toText, reread_of_hasPlainTexts h]
  cases hfault : check .strict d.toJson with
  | error fault =>
    have hlong : ¬ d.toJson.HasShortIntegers := by
      intro hshort
      rw [hcheck.mpr ⟨hshort, hplain.2⟩] at hfault
      cases hfault
    rw [if_neg hlong]
  | ok u => rw [if_pos (hcheck.mp hfault).1]

end Draft

end StudioQuote
