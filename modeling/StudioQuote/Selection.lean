import StudioQuote.Catalogue.Record
import StudioQuote.Number.Decimal

/-!
# Selections and their price

A selection is a list of item ids. Each id counts once, ids without an item count for
nothing, and of several items with one id the first is meant. Prices are whole amounts,
negative ones included; tax is applied in decimal arithmetic and rounded down.
-/

namespace StudioQuote

open Number

namespace Item

/-- The items of the selected ids, once per id, in the order of selection. -/
def resolve (ids : List Int) (items : List Item) : List Item :=
  ids.eraseDups.filterMap fun id => items.find? (·.id == id)

def subtotal (items : List Item) : Int :=
  items.foldr (fun i total => i.price + total) 0

/-- Whether an item of a visible category selects itself. -/
def selectsItself (visible : List Int) (i : Item) : Bool :=
  i.autoSelect && i.isActive && visible.contains i.categoryId

/-- The selection with the items that select themselves added at its end. -/
def withAutoSelected (ids visible : List Int) (items : List Item) : List Int :=
  items.foldl
    (fun chosen i =>
      if i.selectsItself visible && !chosen.contains i.id then chosen ++ [i.id] else chosen)
    ids

end Item

inductive AmountFault where
  /-- A result of decimal arithmetic is too large. -/
  | overflow
  deriving DecidableEq

/-- An amount with tax, rounded down. -/
def applyTax (amount : Int) (rate : Decimal) : Int :=
  ((Decimal.ofInt amount).mul ((Decimal.ofInt 1).add rate)).floor

def checkTax (amount : Int) (rate : Decimal) : Except AmountFault Unit :=
  let factor := (Decimal.ofInt 1).add rate
  if factor.isTooLarge || ((Decimal.ofInt amount).mul factor).isTooLarge then .error .overflow
  else .ok ()

def totalPrice (ids : List Int) (items : List Item) (rate : Decimal) : Int :=
  applyTax (Item.subtotal (Item.resolve ids items)) rate

def standardTaxRate : Decimal := ⟨false, 10, -2⟩

end StudioQuote
