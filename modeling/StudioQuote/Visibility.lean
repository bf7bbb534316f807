import StudioQuote.Catalogue.Record
import StudioQuote.Rule.Evaluate

/-!
# Visible sections

An inactive category is never shown. An active one without a section, or in the trigger
or common-final section, is always shown, and a conditional one when it has no rule or
its rule holds. The common-final section is held back until a conditional category is
shown, if the form has any. Categories keep their order.
-/

namespace StudioQuote

open Json Json.Members

namespace Category

def isIn (s : FormSection) (c : Category) : Bool :=
  c.formSection == some s.name

/-- Whether the gate of a category is open; a category without a rule has none. -/
def isOpen (answers : Answers) (c : Category) : Bool :=
  match c.rule with
  | none => true
  | some r => r.holds answers

def isShown (answers : Answers) (c : Category) : Bool :=
  c.isActive &&
    (c.formSection.isNone || c.isIn .trigger || c.isIn .commonFinal ||
      (c.isIn .conditional && c.isOpen answers))

end Category

structure VisibleSections where
  hasTrigger : Bool
  trigger : List Category := []
  conditional : List Category := []
  commonFinal : List Category := []
  deriving DecidableEq

namespace VisibleSections

def shown (categories : List Category) (answers : Answers) : List Category :=
  categories.filter (·.isShown answers)

def hasTriggerSection (categories : List Category) : Bool :=
  categories.any fun c => c.isActive && c.isIn .trigger

def showsCommonFinal (categories : List Category) (answers : Answers) : Bool :=
  let conditional := categories.filter fun c => c.isActive && c.isIn .conditional
  conditional.isEmpty || conditional.any (·.isShown answers)

/-- Shown categories that are neither conditional nor common-final are asked first. -/
def group (categories : List Category) (answers : Answers) : VisibleSections where
  hasTrigger := hasTriggerSection categories
  trigger := (shown categories answers).filter fun c => !c.isIn .conditional && !c.isIn .commonFinal
  conditional := (shown categories answers).filter (·.isIn .conditional)
  commonFinal :=
    if showsCommonFinal categories answers then
      (shown categories answers).filter (·.isIn .commonFinal)
    else []

def categories (s : VisibleSections) : List Category :=
  s.trigger ++ s.conditional ++ s.commonFinal

def ofMembers (ms : Members) : Reading VisibleSections :=
  VisibleSections.mk
    <$> ms.required "has_trigger" Reader.bool
    <*> ms.defaulted "trigger" [] (Reader.list Category.read)
    <*> ms.defaulted "conditional" [] (Reader.list Category.read)
    <*> ms.defaulted "common_final" [] (Reader.list Category.read)

def read : Reader VisibleSections :=
  Reader.record ofMembers

def toJson (s : VisibleSections) : Json :=
  .obj [
    ("has_trigger", .bool s.hasTrigger),
    ("trigger", Json.ofList Category.toJson s.trigger),
    ("conditional", Json.ofList Category.toJson s.conditional),
    ("common_final", Json.ofList Category.toJson s.commonFinal)]

end VisibleSections

end StudioQuote
