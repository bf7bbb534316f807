import StudioQuote.Proofs.Draft.Stored
import StudioQuote.Proofs.Rule.Stored
import StudioQuote.Quote
import StudioQuote.Store.Row

/-!
# Rows read back

An item that was written to a row is read back under the shop of the row, and so is a
category whose rule is read back from its text. The rule of a draft's condition is: it
compares the answer to a trigger category with the id of one of its items.
-/

namespace StudioQuote

open Json Number

/-- Integers are compared by their exact values, which are multiples of one unit. -/
theorem Number.Quantity.compare?_int (a b : Int) :
    compare? (.int a) (.int b) = some (Ord.compare a b) := by
  change some (Ord.compare (a * Binary64.unit) (b * Binary64.unit)) = some (Ord.compare a b)
  have hpower : ∀ k : Nat, 0 < 2 ^ k := fun _ => Nat.pow_pos Nat.zero_lt_two
  have hunit : (0 : Int) < Binary64.unit := Int.natCast_pos.mpr (hpower 1074)
  rcases Int.lt_trichotomy a b with h | rfl | h
  · rw [Std.compare_eq_lt.mpr h, Std.compare_eq_lt.mpr (Int.mul_lt_mul_of_pos_right h hunit)]
  · rw [Std.compare_self, Std.compare_self]
  · rw [Std.compare_eq_gt.mpr h, Std.compare_eq_gt.mpr (Int.mul_lt_mul_of_pos_right h hunit)]

namespace Cell

theorem toJson_ofOption {α : Type} (encode : α → Cell) (a : Option α) :
    (ofOption encode a).toJson = Json.ofOption (fun a => (encode a).toJson) a := by
  cases a with
  | none => rfl
  | some a => rfl

theorem read_ofBool (b : Bool) : Reader.bool (ofBool b).toJson = .ok b := by
  cases b with
  | false => rfl
  | true => rfl

theorem read_ofOption_text (s : Option String) :
    Reader.nullable Reader.text (ofOption .text s).toJson = .ok s := by
  rw [toJson_ofOption]
  exact Reader.nullable_ofOption Reader.text Json.str (fun _ => rfl) s

theorem read_ofOption_productType (t : Option ProductType) :
    Reader.nullable (Reader.name ProductType.ofName?)
      (ofOption (fun t : ProductType => .text t.name) t).toJson = .ok t := by
  rw [toJson_ofOption]
  exact Reader.nullable_ofOption _ (fun t : ProductType => .str t.name)
    (fun t => congrArg (Reading.map some) (ProductType.read_name t)) t

theorem compare_integer (a b : Int) : Cell.compare (.integer a) (.integer b) = Ord.compare a b := by
  change ((Quantity.compare? (.int a) (.int b)).getD .eq) = _
  rw [Quantity.compare?_int]
  rfl

end Cell

theorem isLE_compare_then {a b c d : Int} :
    ((Ord.compare a b).then (Ord.compare c d)).isLE = true ↔ a < b ∨ a = b ∧ c ≤ d := by
  rcases Int.lt_trichotomy a b with h | h | h
  · rw [Std.compare_eq_lt.mpr h]
    exact iff_of_true rfl (.inl h)
  · rw [h, Std.compare_self, Ordering.then, Std.isLE_compare]
    simp
  · rw [Std.compare_eq_gt.mpr h]
    exact iff_of_false Bool.false_ne_true (by omega)

theorem ItemRow.read_ofRecord (shopId : Int) (i : Item) :
    (ofRecord shopId i).read = .ok { i with shopId := some shopId } := by
  change Item.ofMembers [("id", .int i.id), ("product_category_id", .int i.categoryId),
    ("shop_id", .int shopId), ("name", .str i.name), ("price", .int i.price),
    ("description", (Cell.ofOption .text i.description).toJson),
    ("sort_order", .int i.sortOrder), ("is_active", (Cell.ofBool i.isActive).toJson),
    ("is_required", (Cell.ofBool i.isRequired).toJson),
    ("auto_select", (Cell.ofBool i.autoSelect).toJson)] = _
  simp [Item.ofMembers, Members.required, Members.optional, Members.defaulted, List.lookup_cons,
    Cell.read_ofOption_text, Cell.read_ofBool]

theorem CategoryRow.read_ofRecord (shopId form : Int) (c : Category) (rule : Option Rule) :
    (ofRecord shopId form c).read rule = .ok { c with shopId := some shopId, rule } := by
  change (fun c : Category => { c with rule }) <$> Category.ofMembers [("id", .int c.id),
    ("shop_id", .int shopId), ("name", .str c.name), ("display_name", .str c.displayName),
    ("description", (Cell.ofOption .text c.description).toJson),
    ("sort_order", .int c.sortOrder), ("is_active", (Cell.ofBool c.isActive).toJson),
    ("form_section", (Cell.ofOption .text c.formSection).toJson),
    ("product_type",
      (Cell.ofOption (fun t : ProductType => .text t.name) c.productType).toJson)] = _
  simp [Category.ofMembers, Members.required, Members.optional, Members.defaulted,
    List.lookup_cons, Cell.read_ofOption_text, Cell.read_ofOption_productType, Cell.read_ofBool]

/-! ## Stored rules -/

theorem isUnmarked_intText (n : Int) : Text.isUnmarked (intText n) = true := by
  have hdigits : ∀ c ∈ natDigits n.natAbs, c ≠ Text.halfMark := by
    rintro c hc rfl
    exact absurd (isDigit_of_mem_natDigits hc) (by decide)
  refine Text.isUnmarked_iff.mpr fun c hc => ?_
  rw [intText, String.toList_ofList, intDigits_eq] at hc
  split at hc
  · rcases List.mem_cons.mp hc with rfl | hc
    · decide
    · exact hdigits c hc
  · exact hdigits c hc

theorem isUnmarked_answerField (id : Int) : Text.isUnmarked (answerField id) = true := by
  have hfirst : Text.isUnmarked "category_" = true := by decide
  rw [Text.isUnmarked, answerField, String.toList_append, List.all_append, Bool.and_eq_true_iff]
  exact ⟨hfirst, isUnmarked_intText id⟩

namespace Rule

theorem isStorable_fieldEquals (category : Int) {n : Int} (h : fitsInt64 n = true) :
    (fieldEquals (answerField category) (.int n)).IsStorable := by
  have hintegers : (fieldEquals (answerField category) (.int n)).toStoredJson.integers = [n] := rfl
  have htexts : (fieldEquals (answerField category) (.int n)).toStoredJson.texts =
      ["AND", "field", "operator", "value", answerField category, "="] := rfl
  apply isStorable_of_all
  · rw [hintegers, List.all_cons, List.all_nil, h, Bool.and_true]
  · have hkeys : ["AND", "field", "operator", "value", "="].all Text.isUnmarked = true := by decide
    simp only [List.all_cons, List.all_nil, Bool.and_true, Bool.and_eq_true] at hkeys
    simp only [htexts, List.all_cons, List.all_nil, hkeys, isUnmarked_answerField, Bool.and_self]

theorem ofText_fieldEquals (nesting : Nesting) (category : Int) {n : Int}
    (h : fitsInt64 n = true) :
    ofText nesting (fieldEquals (answerField category) (.int n)).toText =
      .ok (some (fieldEquals (answerField category) (.int n))) :=
  ofText_toText_of_isStorable (isStorable_fieldEquals category h) nesting

end Rule

theorem CategoryRow.storedRule_ofRecord {n : Nesting} (shopId form : Int) {c : Category}
    (h : ∀ r, c.rule = some r → Rule.ofText n r.toText = .ok (some r)) :
    (ofRecord shopId form c).storedRule n = .ok c.rule := by
  have hrow : (ofRecord shopId form c).rule = .ofOption (fun r => .text r.toText) c.rule := rfl
  rw [storedRule, hrow]
  cases hrule : c.rule with
  | none => rfl
  | some r => exact h r hrule

end StudioQuote
