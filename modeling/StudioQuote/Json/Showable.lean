import StudioQuote.Json.Value
import StudioQuote.Text.Surrogate

/-!
# Values that can be sent

Messages to clients hold neither numbers that are not finite nor halves of surrogate
pairs. Of a reply, such numbers are sent as null; a value that is refused is shown as it
is or not at all.
-/

namespace StudioQuote

namespace Json

mutual

/-- Whether a value can be shown to a client as it is. Members with a name that begins
with `_sa` are never shown. -/
def isShowable : Json → Bool
  | .float x => x.isFinite
  | .str s => !Text.hasLoneHalf s
  | .arr elements => areShowable elements
  | .obj members => membersAreShowable members
  | _ => true

def areShowable : List Json → Bool
  | [] => true
  | v :: rest => isShowable v && areShowable rest

def membersAreShowable : List (String × Json) → Bool
  | [] => true
  | (key, v) :: rest =>
    (key.startsWith "_sa" || (!Text.hasLoneHalf key && isShowable v)) && membersAreShowable rest

end

mutual

/-- The value with null in the place of every number that is not finite. -/
def finitePart : Json → Json
  | .float x => if x.isFinite then .float x else .null
  | .arr elements => .arr (finiteElements elements)
  | .obj members => .obj (finiteMembers members)
  | v => v

def finiteElements : List Json → List Json
  | [] => []
  | v :: rest => finitePart v :: finiteElements rest

def finiteMembers : List (String × Json) → List (String × Json)
  | [] => []
  | (key, v) :: rest => (key, finitePart v) :: finiteMembers rest

end

end Json

end StudioQuote
