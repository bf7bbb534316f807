import StudioQuote.Proofs.Calendar
import StudioQuote.Proofs.Json.Plain
import StudioQuote.Proofs.Session

/-!
# Rows that can be written

The parameters of a statement are integers of 64 bits and texts of characters. Of a row this
concerns the integers and the names in it: what is written for a day, an amount, a rule or a
choice consists of characters whatever it says.
-/

namespace StudioQuote

open Json Number

namespace Cell

@[simp] theorem isBindable_null : null.IsBindable := rfl

@[simp] theorem isBindable_integer {n : Int} : (integer n).IsBindable ↔ fitsInt64 n = true := by
  rw [IsBindable, Session.bindFailure?]
  split
  · exact iff_of_true rfl ‹_›
  · exact iff_of_false (Option.some_ne_none _) ‹_›

@[simp] theorem isBindable_text {s : String} : (text s).IsBindable ↔ Text.IsPlain s := by
  rw [IsBindable, Session.bindFailure?, ← Text.isPlain_eq_true_iff]
  split
  · exact iff_of_true rfl ‹_›
  · exact iff_of_false (Option.some_ne_none _) ‹_›

@[simp] theorem isBindable_ofBool (b : Bool) : (ofBool b).IsBindable := by
  cases b with
  | true => rfl
  | false => rfl

@[simp] theorem isBindable_ofOption {α : Type} {encode : α → Cell} {o : Option α} :
    (ofOption encode o).IsBindable ↔ ∀ a, o = some a → (encode a).IsBindable := by
  cases o with
  | none => simp [ofOption]
  | some a => simp [ofOption]

end Cell

/-! ## Texts that consist of characters -/

@[simp] theorem ProductType.isPlain_name (t : ProductType) : Text.IsPlain t.name := by
  cases t <;> decide

@[simp] theorem DiscountType.isPlain_name (t : DiscountType) : Text.IsPlain t.name := by
  cases t <;> decide

@[simp] theorem Date.isPlain_text (d : Date) : Text.IsPlain d.text :=
  Text.isPlain_of_isUnmarked d.isUnmarked_text

@[simp] theorem Rule.isPlain_toText (r : Rule) : Text.IsPlain r.toText :=
  readable_spaced.isPlain_write _

@[simp] theorem Draft.isPlain_toText (d : Draft) : Text.IsPlain d.toText :=
  readable_compact.isPlain_write _

attribute [simp] Decimal.isPlain_text

/-! ## Rows -/

namespace ShootingCategory

def parameters (c : ShootingCategory) : List Int :=
  c.id.toList ++ c.shopId.toList ++ [c.sortOrder]

/-- Whether a shooting category can be stored: its integers and its names. -/
structure Fits (c : ShootingCategory) : Prop where
  integers : c.parameters.all fitsInt64 = true
  name : Text.IsPlain c.name
  displayName : Text.IsPlain c.displayName

/-- How a shooting category is refused that cannot be stored: it has an integer that is too
wide, or a name with a half of a surrogate pair in it. -/
def IsRefusedWith (c : ShootingCategory) (e : Failure) : Prop :=
  e = .integerTooWide ∧ c.parameters.all fitsInt64 = false ∨
    e = .textUnencodable c.name ∧ ¬ Text.IsPlain c.name ∨
    e = .textUnencodable c.displayName ∧ ¬ Text.IsPlain c.displayName

variable {c : ShootingCategory}

theorem all_parameters_iff : c.parameters.all fitsInt64 = true ↔
    (∀ n, c.id = some n → fitsInt64 n = true) ∧
      (∀ n, c.shopId = some n → fitsInt64 n = true) ∧ fitsInt64 c.sortOrder = true := by
  simp [parameters]

theorem isBindable_cells_iff : (∀ cell ∈ c.cells, cell.IsBindable) ↔ c.Fits := by
  simp only [cells, List.forall_mem_cons, Cell.isBindable_ofOption, Cell.isBindable_integer,
    Cell.isBindable_text, Cell.isBindable_ofBool]
  constructor
  · rintro ⟨hid, hshop, hname, hdisplay, horder, -⟩
    exact ⟨all_parameters_iff.mpr ⟨hid, hshop, horder⟩, hname, hdisplay⟩
  · rintro ⟨hfits, hname, hdisplay⟩
    obtain ⟨hid, hshop, horder⟩ := all_parameters_iff.mp hfits
    exact ⟨hid, hshop, hname, hdisplay, horder, trivial, List.forall_mem_nil _⟩

/-- A cell that cannot be bound is an integer of the category or one of its names. -/
theorem isRefusedWith_of_mem_cells {cell : Cell} {e : Failure} (hcell : cell ∈ c.cells)
    (h : Session.bindFailure? cell = some e) : c.IsRefusedWith e := by
  have hinteger : ∀ n ∈ c.parameters, Session.bindFailure? (.integer n) = some e →
      c.IsRefusedWith e := by
    intro n hn hwide
    obtain ⟨hunfit, ⟨⟩⟩ := Option.ite_none_left_eq_some.mp hwide
    exact .inl ⟨rfl, List.all_eq_false.mpr ⟨n, hn, hunfit⟩⟩
  have htext : ∀ s, Session.bindFailure? (.text s) = some e →
      e = .textUnencodable s ∧ ¬ Text.IsPlain s := by
    intro s hmarked
    obtain ⟨hunfit, ⟨⟩⟩ := Option.ite_none_left_eq_some.mp hmarked
    exact ⟨rfl, fun hplain => hunfit ((Text.isPlain_eq_true_iff s).mpr hplain)⟩
  have hoption : ∀ o : Option Int, (∀ n, o = some n → n ∈ c.parameters) →
      cell = .ofOption .integer o → c.IsRefusedWith e := by
    rintro (- | n) hn rfl
    · cases h
    · exact hinteger n (hn n rfl) h
  simp only [cells, List.mem_cons, List.not_mem_nil, or_false] at hcell
  rcases hcell with hid | hshop | rfl | rfl | rfl | rfl
  · exact hoption c.id (fun n hn => by simp [parameters, hn]) hid
  · exact hoption c.shopId (fun n hn => by simp [parameters, hn]) hshop
  · exact .inr (.inl (htext c.name h))
  · exact .inr (.inr (htext c.displayName h))
  · exact hinteger c.sortOrder (by simp [parameters]) h
  · cases hactive : c.isActive with
    | true =>
      rw [hactive] at h
      cases h
    | false =>
      rw [hactive] at h
      cases h

end ShootingCategory

theorem Campaign.isBindable_cells_iff {c : Campaign} :
    (∀ cell ∈ c.cells, cell.IsBindable) ↔
      c.shopId.toList.all fitsInt64 = true ∧ Text.IsPlain c.name := by
  simp [cells]

def Category.parameters (shopId form : Int) (c : Category) : List Int :=
  [c.id, shopId, form, c.sortOrder]

/-- The texts of a category that are stored as they are. -/
def Category.names (c : Category) : List String :=
  [c.name, c.displayName] ++ c.description.toList ++ c.formSection.toList

theorem CategoryRow.isBindable_ofRecord_iff {shopId form : Int} {c : Category} :
    (∀ cell ∈ (ofRecord shopId form c).cells, cell.IsBindable) ↔
      (c.parameters shopId form).all fitsInt64 = true ∧ ∀ s ∈ c.names, Text.IsPlain s := by
  simp only [cells, ofRecord, Category.parameters, Category.names, List.forall_mem_cons,
    Cell.isBindable_ofOption, Cell.isBindable_integer, Cell.isBindable_text]
  simp
  grind

def Item.parameters (shopId : Int) (i : Item) : List Int :=
  [i.id, shopId, i.categoryId, i.price, i.sortOrder]

/-- The texts of an item that are stored as they are. -/
def Item.names (i : Item) : List String :=
  i.name :: i.description.toList

theorem ItemRow.isBindable_ofRecord_iff {shopId : Int} {i : Item} :
    (∀ cell ∈ (ofRecord shopId i).cells, cell.IsBindable) ↔
      (i.parameters shopId).all fitsInt64 = true ∧ ∀ s ∈ i.names, Text.IsPlain s := by
  simp [cells, ofRecord, Item.parameters, Item.names]
  grind

theorem Cell.isBindable_key_iff {shopId form : Int} {text : String} (h : Text.IsPlain text) :
    (∀ c ∈ [integer shopId, integer form, .text text], c.IsBindable) ↔
      [shopId, form].all fitsInt64 = true := by
  simp [h]

end StudioQuote
