import StudioQuote.Proofs.Json.Sent
import StudioQuote.Proofs.Service.Campaigns

/-!
# Records read back from their JSON

The JSON of an item is read as the item, that of a category as the category with the one
group of its rule that decides, and that of a campaign as the campaign if its discount is
within the limits of decimals.
-/

namespace StudioQuote

open Json Number

theorem Reader.list_ofList_of_forall {α : Type} {read : Reader α} {encode : α → Json} {as : List α}
    (h : ∀ a ∈ as, read (encode a) = .ok a) : list read (ofList encode as) = .ok as := by
  have helements : ∀ i, elements read i (as.map encode) = .ok as := by
    induction as with
    | nil => exact fun i => rfl
    | cons a as ih =>
      rw [List.forall_mem_cons] at h
      intro i
      rw [List.map_cons, elements, h.1, ih h.2]
      rfl
  exact helements 0

namespace Item

theorem read_toJson (i : Item) : read i.toJson = .ok i := by
  have hshop := Reader.nullable_ofOption Reader.int Json.int (fun _ => rfl) i.shopId
  have hdescription := Reader.nullable_ofOption Reader.text Json.str (fun _ => rfl) i.description
  simp [read, toJson, Reader.record, ofMembers, Members.required, Members.optional,
    Members.defaulted, List.lookup_cons, hshop, hdescription, Reader.bool]

theorem regular_toJson (k : Nat) (i : Item) : Regular True (k + 1) i.toJson := by
  refine .obj (by simp) ?_
  simp [Regular.int, Regular.str, Regular.bool, Regular.ofOption]

theorem hasShortIntegers_toJson {shopId : Int} {i : Item}
    (h : (i.parameters shopId).all fitsInt64 = true) :
    ({ i with shopId := some shopId } : Item).toJson.HasShortIntegers := by
  obtain ⟨hid, hshop, hcategory, hprice, horder⟩ : IsShort i.id ∧ IsShort shopId ∧
      IsShort i.categoryId ∧ IsShort i.price ∧ IsShort i.sortOrder := by
    simpa [parameters] using fun n hn => isShort_of_fits (List.all_eq_true.mp h n hn)
  rw [toJson, hasShortIntegers_obj]
  simp [hid, hshop, hcategory, hprice, horder]

end Item

namespace Category

theorem readRule_ofOption (r : Option Rule) :
    readRule (Json.ofOption Rule.toJson r) = .ok (r.map Rule.deciding) := by
  cases r with
  | none => rfl
  | some r => exact congrArg (fun r => Reading.ok (some r)) r.load_toJson

theorem read_toJson (c : Category) :
    read c.toJson = .ok { c with rule := c.rule.map Rule.deciding } := by
  have hshop := Reader.nullable_ofOption Reader.int Json.int (fun _ => rfl) c.shopId
  have hdescription := Reader.nullable_ofOption Reader.text Json.str (fun _ => rfl) c.description
  have hsection := Reader.nullable_ofOption Reader.text Json.str (fun _ => rfl) c.formSection
  have htype := Reader.nullable_ofOption (Reader.name ProductType.ofName?)
    (fun t : ProductType => .str t.name)
    (fun t => congrArg (Reading.map some) (ProductType.read_name t)) c.productType
  simp [read, toJson, Reader.record, ofMembers, Members.required, Members.optional,
    Members.defaulted, List.lookup_cons, hshop, hdescription, hsection, htype, readRule_ofOption,
    Reader.bool]

theorem regular_toJson (c : Category) : Regular True 7 c.toJson := by
  have hrule := Regular.ofOption Rule.regular_toJson c.rule
  refine .obj (by simp) ?_
  simp [Regular.int, Regular.str, Regular.bool, Regular.ofOption, hrule]

theorem hasShortIntegers_toJson {shopId form : Int} {c : Category}
    (h : (c.parameters shopId form).all fitsInt64 = true) {rule : Option Rule}
    (hrule : ∀ r, rule = some r → r.toJson.HasShortIntegers) :
    ({ c with shopId := some shopId, rule } : Category).toJson.HasShortIntegers := by
  obtain ⟨hid, hshop, -, horder⟩ : IsShort c.id ∧ IsShort shopId ∧ IsShort form ∧
      IsShort c.sortOrder := by
    simpa [parameters] using fun n hn => isShort_of_fits (List.all_eq_true.mp h n hn)
  rw [toJson, hasShortIntegers_obj]
  simpa [hid, hshop, horder] using hrule

end Category

namespace Associations

theorem read_toJson (a : Associations) : read a.toJson = .ok a := by
  have hids := Reader.list_ofList Reader.int_int
  simp [read, toJson, Reader.record, ofMembers, Members.defaulted, List.lookup_cons, hids]

theorem regular_toJson (k : Nat) (a : Associations) : Regular True (k + 2) a.toJson := by
  have hids := Regular.ofList (Regular.int : ∀ n, Regular True k (.int n))
  refine .obj (by simp) ?_
  simp [hids]

theorem hasShortIntegers_toJson {a : Associations} (h : a.ids.all fitsInt64 = true) :
    a.toJson.HasShortIntegers := by
  have hshort : ∀ n ∈ a.ids, IsShort n := fun n hn => isShort_of_fits (List.all_eq_true.mp h n hn)
  simp only [ids, List.forall_mem_append] at hshort
  rw [toJson, hasShortIntegers_obj]
  simpa [and_assoc] using hshort

end Associations

namespace Campaign

theorem read_toJson {c : Campaign} (h : c.discountValue.isRepresentable = true) :
    read c.toJson = .ok c := by
  have hid := Reader.nullable_ofOption Reader.int Json.int (fun _ => rfl) c.id
  have hshop := Reader.nullable_ofOption Reader.int Json.int (fun _ => rfl) c.shopId
  simp [read, toJson, Reader.record, ofMembers, Members.required, Members.optional,
    Members.defaulted, List.lookup_cons, hid, hshop, Date.read_text, DiscountType.read_name,
    Decimal.reader_text h, Associations.read_toJson, Reader.bool]

theorem regular_toJson (k : Nat) (c : Campaign) : Regular True (k + 3) c.toJson := by
  have hassociations := c.associations.regular_toJson k
  refine .obj (by simp) ?_
  simp [Regular.int, Regular.str, Regular.bool, Regular.ofOption, hassociations]

theorem hasShortIntegers_toJson {c : Campaign} (hid : ∀ id, c.id = some id → IsShort id)
    (h : c.Fits) : c.toJson.HasShortIntegers := by
  rw [Fits, List.all_append, Bool.and_eq_true] at h
  have hshop : ∀ shopId, c.shopId = some shopId → IsShort shopId := fun shopId hshop =>
    isShort_of_fits (List.all_eq_true.mp h.1 shopId (Option.mem_toList.mpr hshop))
  have hassociations := Associations.hasShortIntegers_toJson h.2
  rw [toJson, hasShortIntegers_obj]
  simpa [hassociations] using ⟨hid, hshop⟩

end Campaign

namespace PublishedForm

/-- Whether the rules and the discounts of a form are such that reading loses nothing. -/
structure IsExact (f : PublishedForm) : Prop where
  rules : ∀ c ∈ f.categories, c.rule.map Rule.deciding = c.rule
  discounts : ∀ c ∈ f.campaigns, c.discountValue.isRepresentable = true

theorem IsExact.read_category {f : PublishedForm} (h : f.IsExact) {c : Category}
    (hc : c ∈ f.categories) : Category.read c.toJson = .ok c := by
  rw [Category.read_toJson, h.rules c hc]

theorem IsExact.read_campaign {f : PublishedForm} (h : f.IsExact) {c : Campaign}
    (hc : c ∈ f.campaigns) : Campaign.read c.toJson = .ok c :=
  Campaign.read_toJson (h.discounts c hc)

theorem hasShortIntegers_toJson_iff {f : PublishedForm} :
    f.toJson.HasShortIntegers ↔ (∀ c ∈ f.categories, c.toJson.HasShortIntegers) ∧
      (∀ i ∈ f.items, i.toJson.HasShortIntegers) ∧
      ∀ c ∈ f.campaigns, c.toJson.HasShortIntegers := by
  rw [toJson, hasShortIntegers_obj]
  simp

theorem isSendable_toJson_iff {f : PublishedForm} :
    f.toJson.IsSendable ↔ (∀ c ∈ f.categories, c.toJson.IsSendable) ∧
      (∀ i ∈ f.items, i.toJson.IsSendable) ∧ ∀ c ∈ f.campaigns, c.toJson.IsSendable := by
  rw [toJson, isSendable_record ["categories", "items", "campaigns"] rfl (by decide)]
  simp

end PublishedForm

end StudioQuote
