import StudioQuote.Store.Basic

/-!
# Overwriting single columns

A column of the row with an id can be set by hand, as maintenance work does. The column
converts the value as it would on any write, and a required one refuses to be left
without a value; a name that is no column changes nothing.
-/

namespace StudioQuote

namespace CategoryRow

def set (r : CategoryRow) (column : String) (c : Cell) : CategoryRow :=
  match column with
  | "id" =>
    match c.inIntegerColumn with
    | .integer n => { r with id := n }
    | _ => r
  | "shop_id" => { r with shopId := c.inIntegerColumn }
  | "shooting_category_id" => { r with shootingCategoryId := c.inIntegerColumn }
  | "name" => { r with name := c.inTextColumn }
  | "display_name" => { r with displayName := c.inTextColumn }
  | "description" => { r with description := c.inTextColumn }
  | "sort_order" => { r with sortOrder := c.inIntegerColumn }
  | "is_active" => { r with isActive := c.inIntegerColumn }
  | "form_section" => { r with formSection := c.inTextColumn }
  | "product_type" => { r with productType := c.inTextColumn }
  | "conditional_rule" => { r with rule := c.inTextColumn }
  | _ => r

end CategoryRow

namespace ItemRow

def set (r : ItemRow) (column : String) (c : Cell) : ItemRow :=
  match column with
  | "id" =>
    match c.inIntegerColumn with
    | .integer n => { r with id := n }
    | _ => r
  | "shop_id" => { r with shopId := c.inIntegerColumn }
  | "product_category_id" => { r with categoryId := c.inIntegerColumn }
  | "name" => { r with name := c.inTextColumn }
  | "price" => { r with price := c.inIntegerColumn }
  | "description" => { r with description := c.inTextColumn }
  | "sort_order" => { r with sortOrder := c.inIntegerColumn }
  | "is_active" => { r with isActive := c.inIntegerColumn }
  | "is_required" => { r with isRequired := c.inIntegerColumn }
  | "auto_select" => { r with autoSelect := c.inIntegerColumn }
  | _ => r

end ItemRow

def CategoryRow.requiredColumns : List String :=
  ["shop_id", "name", "display_name", "sort_order", "is_active"]

def ItemRow.requiredColumns : List String :=
  ["shop_id", "product_category_id", "name", "price", "sort_order", "is_active", "is_required",
    "auto_select"]

namespace Store

/-- Why a table with rows of the given ids refuses a value in a column of one of them. -/
def overwriteFault? (table : Table) (required : List String) (ids : List Int) (id : Int)
    (column : String) (c : Cell) : Option StorageFault :=
  if !ids.contains id then none
  else if column = "id" then
    match c.inIntegerColumn with
    | .integer n => if n ≠ id ∧ ids.contains n then some (.idTaken table) else none
    | _ => some .notAnId
  else if c = .null ∧ required.contains column then some (.valueMissing table column)
  else none

def setCategoryColumn (s : Store) (id : Int) (column : String) (c : Cell) :
    Except StorageFault Store :=
  match overwriteFault? .productCategories CategoryRow.requiredColumns
      (s.categories.map CategoryRow.id) id column c with
  | some fault => .error fault
  | none =>
    .ok { s with categories := s.categories.map fun r => if r.id == id then r.set column c else r }

def setItemColumn (s : Store) (id : Int) (column : String) (c : Cell) :
    Except StorageFault Store :=
  match overwriteFault? .items ItemRow.requiredColumns (s.items.map ItemRow.id) id column c with
  | some fault => .error fault
  | none => .ok { s with items := s.items.map fun r => if r.id == id then r.set column c else r }

end Store

end StudioQuote
