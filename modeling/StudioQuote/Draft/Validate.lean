import StudioQuote.Draft.Edit

/-!
# Checking drafts

Every defect of a draft is reported, the missing trigger step first and then each step
without items, in the order of the steps.
-/

namespace StudioQuote

open Json Json.Members Number

inductive DraftDefect where
  | noTriggerStep
  | noItems (position : Nat) (displayName : String)
  deriving DecidableEq

/-- Positions are counted from one. -/
def DraftDefect.message : DraftDefect → String
  | .noTriggerStep => "Add a trigger step: at least one trigger step is required"
  | .noItems position displayName =>
    "Step " ++ intText (position + 1) ++ " (" ++ displayName ++
      ") has no items; add at least one choice"

namespace Draft

def stepDefect? (s : DraftStep × Nat) : Option DraftDefect :=
  if s.1.category.items.isEmpty then some (.noItems s.2 s.1.category.displayName) else none

def defects (d : Draft) : List DraftDefect :=
  (if d.hasTriggerStep then [] else [.noTriggerStep]) ++ d.steps.zipIdx.filterMap stepDefect?

def isValid (d : Draft) : Bool :=
  d.defects.isEmpty

end Draft

structure DraftReport where
  isValid : Bool
  errors : List String := []
  deriving DecidableEq

namespace DraftReport

def ofMembers (ms : Members) : Reading DraftReport :=
  DraftReport.mk
    <$> ms.required "is_valid" Reader.bool
    <*> ms.defaulted "errors" [] (Reader.list Reader.text)

def read : Reader DraftReport :=
  Reader.record ofMembers

def toJson (r : DraftReport) : Json :=
  .obj [("is_valid", .bool r.isValid), ("errors", Json.ofList .str r.errors)]

end DraftReport

def Draft.report (d : Draft) : DraftReport :=
  ⟨d.isValid, d.defects.map DraftDefect.message⟩

end StudioQuote
